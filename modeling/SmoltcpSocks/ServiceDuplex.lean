import SmoltcpSocks.ServiceRound

/-! The two directions of a connection do not disturb each other: a round on the whole queue and a round
that never hears of the other direction agree on everything this direction can see. The two runs are
related command by command; a command of the other direction moves only the first run, and the `service_io`
behind it finds this direction idle. -/

namespace SmoltcpSocks

open TcpSocket

/-- The states of a connection that was accepted. -/
def State.accepted : State → Bool
  | .listen | .synSent | .synReceived => false
  | _ => true

/-- The states in which data can still come. -/
def State.receives : State → Bool
  | .established | .finWait1 | .finWait2 => true
  | _ => false

theorem State.accepted_afterClose (state : State) : state.afterClose.accepted = true := by
  cases state <;> rfl

/-- A half-close of our side does not stop the peer. -/
theorem State.receives_afterClose {state : State} (h : state.accepted = true) :
    state.afterClose.receives = state.receives := by
  cases state <;> first | rfl | cases h

/-- The command asks for bytes to be sent or for the end of the sending. -/
def ConnCmd.sends : ConnCmd → Bool
  | .write _ _ | .closeWrite _ => true
  | _ => false

/-- The command asks for bytes that were received. -/
def ConnCmd.reads : ConnCmd → Bool
  | .read _ _ => true
  | _ => false

namespace Service

variable {σ : Type}

/-- The connection without its writes and half-closes. -/
def withoutWrites (v : Service σ) : Service σ :=
  (v.setWrite none).setQueue (v.conn.cmdRx.queue.filter fun cmd => !cmd.sends)

/-- The connection without its reads. -/
def withoutReads (v : Service σ) : Service σ :=
  (v.setRead none).setQueue (v.conn.cmdRx.queue.filter fun cmd => !cmd.reads)

variable [TcpSocket σ]

/-- Nothing tells the receiving sides of `v` and `w` apart. -/
structure SameReads (v w : Service σ) : Prop where
  read : v.conn.read = w.conn.read
  answers : v.answers.read = w.answers.read
  rxBuffer : rxBuffer v.socket = rxBuffer w.socket
  rxFinReceived : rxFinReceived v.socket = rxFinReceived w.socket
  receives : (state v.socket).receives = (state w.socket).receives

/-- Nothing tells the sending sides of `v` and `w` apart. -/
structure SameWrites (v w : Service σ) : Prop where
  write : v.conn.write = w.conn.write
  answers : v.answers.write = w.answers.write
  txBuffer : txBuffer v.socket = txBuffer w.socket
  txCapacity : txCapacity v.socket = txCapacity w.socket
  maySend : maySend v.socket = maySend w.socket

variable [LawfulTcpSocket σ] {callers : Callers} {u v w : Service σ}

theorem SameReads.mayRecv (h : SameReads v w) : mayRecv v.socket = mayRecv w.socket := by
  have hreceives (s : σ) : TcpSocket.mayRecv s = true ↔ (state s).receives = true ∨ TcpSocket.rxBuffer s ≠ [] := by
    rw [mayRecv_iff]
    cases state s <;> simp [State.receives]
  rw [Bool.eq_iff_iff, hreceives, hreceives, h.receives, h.rxBuffer]

theorem SameReads.canRecv (h : SameReads v w) : canRecv v.socket = canRecv w.socket := by
  rw [Bool.eq_iff_iff, canRecv_iff, canRecv_iff, h.mayRecv, h.rxBuffer]

theorem SameReads.recvSlice (h : SameReads v w) (n : Nat) :
    (recvSlice v.socket n).1 = (recvSlice w.socket n).1 := by
  rw [recvSlice_fst, recvSlice_fst, h.mayRecv, h.rxBuffer, h.rxFinReceived]

theorem SameWrites.canSend (h : SameWrites v w) : canSend v.socket = canSend w.socket := by
  rw [Bool.eq_iff_iff, canSend_iff, canSend_iff, h.maySend, h.txBuffer, h.txCapacity]

theorem SameWrites.sendSlice (h : SameWrites v w) (data : List UInt8) :
    (sendSlice v.socket data).1 = (sendSlice w.socket data).1 := by
  rw [sendSlice_fst, sendSlice_fst, h.maySend, h.txBuffer, h.txCapacity]

/-- The read half sees nothing but the receiving side. -/
theorem SameReads.serviceRead (h : SameReads v w) :
    SameReads (serviceRead callers v) (serviceRead callers w) := by
  unfold Service.serviceRead
  rw [h.read]
  rcases hread : w.conn.read with _ | read
  · exact h
  have hqueue : recvQueue v.socket = recvQueue w.socket := by rw [recvQueue_eq, recvQueue_eq, h.rxBuffer]
  simp only [show ∀ u : Service σ, (u.setRead none).socket = u.socket from fun _ => rfl, h.canRecv, h.mayRecv,
    hqueue]
  generalize min read.maxLen (recvQueue w.socket) = n
  have hfst := h.recvSlice n
  have hrx : TcpSocket.rxBuffer (TcpSocket.recvSlice v.socket n).2 =
      TcpSocket.rxBuffer (TcpSocket.recvSlice w.socket n).2 := by
    rw [rxBuffer_recvSlice, rxBuffer_recvSlice, h.rxBuffer]
  have hfin : TcpSocket.rxFinReceived (TcpSocket.recvSlice v.socket n).2 =
      TcpSocket.rxFinReceived (TcpSocket.recvSlice w.socket n).2 := by
    rw [rxFinReceived_recvSlice, rxFinReceived_recvSlice, h.rxFinReceived]
  have hreceives : (state (TcpSocket.recvSlice v.socket n).2).receives =
      (state (TcpSocket.recvSlice w.socket n).2).receives := by
    rw [state_recvSlice, state_recvSlice, h.receives]
  have hanswers (answer) : v.answers.read ++ [answer] = w.answers.read ++ [answer] := by rw [h.answers]
  split_ifs
  · exact ⟨rfl, h.answers, h.rxBuffer, h.rxFinReceived, h.receives⟩
  · exact ⟨rfl, hanswers _, h.rxBuffer, h.rxFinReceived, h.receives⟩
  · exact ⟨rfl, h.answers, h.rxBuffer, h.rxFinReceived, h.receives⟩
  · generalize TcpSocket.recvSlice v.socket n = a at *
    generalize TcpSocket.recvSlice w.socket n = b at *
    obtain ⟨result, socket⟩ := a
    obtain ⟨result', socket'⟩ := b
    cases hfst
    rcases result with (_ | _) | data <;> exact ⟨rfl, hanswers _, hrx, hfin, hreceives⟩

theorem SameWrites.serviceWrite (h : SameWrites v w) :
    SameWrites (serviceWrite callers v) (serviceWrite callers w) := by
  unfold Service.serviceWrite
  rw [h.write]
  rcases hwrite : w.conn.write with _ | write
  · exact h
  have hfst := h.sendSlice write.data
  have htx : TcpSocket.txBuffer (TcpSocket.sendSlice v.socket write.data).2 =
      TcpSocket.txBuffer (TcpSocket.sendSlice w.socket write.data).2 := by
    rw [txBuffer_sendSlice, txBuffer_sendSlice, h.maySend, h.txBuffer, h.txCapacity]
  have hcapacity : TcpSocket.txCapacity (TcpSocket.sendSlice v.socket write.data).2 =
      TcpSocket.txCapacity (TcpSocket.sendSlice w.socket write.data).2 := by
    rw [txCapacity_sendSlice, txCapacity_sendSlice, h.txCapacity]
  have hmay : TcpSocket.maySend (TcpSocket.sendSlice v.socket write.data).2 =
      TcpSocket.maySend (TcpSocket.sendSlice w.socket write.data).2 := by
    rw [maySend_congr (state_sendSlice v.socket _), maySend_congr (state_sendSlice w.socket _), h.maySend]
  have hanswers (answer) : v.answers.write ++ [answer] = w.answers.write ++ [answer] := by rw [h.answers]
  simp only [show ∀ u : Service σ, (u.setWrite none).socket = u.socket from fun _ => rfl, h.canSend, h.maySend]
  split_ifs
  · exact ⟨rfl, h.answers, h.txBuffer, h.txCapacity, h.maySend⟩
  · exact ⟨rfl, hanswers _, h.txBuffer, h.txCapacity, h.maySend⟩
  · exact ⟨rfl, h.answers, h.txBuffer, h.txCapacity, h.maySend⟩
  · generalize TcpSocket.sendSlice v.socket write.data = a at *
    generalize TcpSocket.sendSlice w.socket write.data = b at *
    obtain ⟨result, socket⟩ := a
    obtain ⟨result', socket'⟩ := b
    cases hfst
    rcases result with _ | n <;> exact ⟨rfl, hanswers _, htx, hcapacity, hmay⟩

omit [LawfulTcpSocket σ] in
theorem SameReads.symm (h : SameReads v w) : SameReads w v :=
  ⟨h.read.symm, h.answers.symm, h.rxBuffer.symm, h.rxFinReceived.symm, h.receives.symm⟩

omit [LawfulTcpSocket σ] in
theorem SameReads.trans (h : SameReads u v) (h' : SameReads v w) : SameReads u w :=
  ⟨h.read.trans h'.read, h.answers.trans h'.answers, h.rxBuffer.trans h'.rxBuffer,
    h.rxFinReceived.trans h'.rxFinReceived, h.receives.trans h'.receives⟩

omit [LawfulTcpSocket σ] in
theorem SameWrites.symm (h : SameWrites v w) : SameWrites w v :=
  ⟨h.write.symm, h.answers.symm, h.txBuffer.symm, h.txCapacity.symm, h.maySend.symm⟩

omit [LawfulTcpSocket σ] in
theorem SameWrites.trans (h : SameWrites u v) (h' : SameWrites v w) : SameWrites u w :=
  ⟨h.write.trans h'.write, h.answers.trans h'.answers, h.txBuffer.trans h'.txBuffer,
    h.txCapacity.trans h'.txCapacity, h.maySend.trans h'.maySend⟩

theorem sameReads_serviceWrite (callers : Callers) (v : Service σ) :
    SameReads (serviceWrite callers v) v := by
  have hframe := (serviceWrite_step callers v).frame
  exact ⟨hframe.read, hframe.answersRead, hframe.rxBuffer, hframe.rxFinReceived, by rw [hframe.state]⟩

theorem txCapacity_serviceRead (callers : Callers) (v : Service σ) :
    txCapacity (serviceRead callers v).socket = txCapacity v.socket := by
  have hstep := serviceRead_step callers v
  generalize serviceRead callers v = w at hstep
  cases hstep <;> simp [setRead, setSocket, answerRead]

theorem sameWrites_serviceRead (callers : Callers) (v : Service σ) :
    SameWrites (serviceRead callers v) v := by
  have hframe := (serviceRead_step callers v).frame
  exact ⟨hframe.write, hframe.answersWrite, hframe.txBuffer, txCapacity_serviceRead callers v,
    maySend_congr hframe.state⟩

theorem SameReads.serviceIo (h : SameReads v w) : SameReads (serviceIo callers v) (serviceIo callers w) :=
  ((sameReads_serviceWrite callers _).trans h.serviceRead).trans (sameReads_serviceWrite callers _).symm

theorem SameWrites.serviceIo (h : SameWrites v w) : SameWrites (serviceIo callers v) (serviceIo callers w) :=
  (((sameWrites_serviceRead callers v).trans h).trans (sameWrites_serviceRead callers w).symm).serviceWrite

theorem serviceRead_of_blocked (h : ∀ read, v.conn.read = some read → ReadBlocked callers v read) :
    serviceRead callers v = v := by
  unfold serviceRead
  rcases hread : v.conn.read with _ | read
  · rfl
  obtain ⟨hopen, hpos, hmay, hrx⟩ := h read hread
  have hcan : canRecv v.socket = false := canRecv_eq_false hrx
  have hback : (v.setRead none).setRead (some read) = v := by
    rw [← hread]
    rfl
  simp only [show (v.setRead none).socket = v.socket from rfl, hopen, hcan, hmay, hback]
  simp [Nat.ne_of_gt hpos]

theorem serviceWrite_of_blocked (h : ∀ write, v.conn.write = some write → WriteBlocked callers v write) :
    serviceWrite callers v = v := by
  unfold serviceWrite
  rcases hwrite : v.conn.write with _ | write
  · rfl
  obtain ⟨hopen, hdata, hmay, hfull⟩ := h write hwrite
  have hcan : canSend v.socket = false := canSend_eq_false hfull
  have hback : (v.setWrite none).setWrite (some write) = v := by
    rw [← hwrite]
    rfl
  simp only [show (v.setWrite none).socket = v.socket from rfl, hopen, hcan, hmay, hback]
  simp [hdata]

omit [LawfulTcpSocket σ] in
theorem sameReads_setQueue (v : Service σ) (queue : List ConnCmd) : SameReads (v.setQueue queue) v :=
  ⟨rfl, rfl, rfl, rfl, rfl⟩

omit [LawfulTcpSocket σ] in
theorem sameWrites_setQueue (v : Service σ) (queue : List ConnCmd) : SameWrites (v.setQueue queue) v :=
  ⟨rfl, rfl, rfl, rfl, rfl⟩

/-- A write or a half-close on an accepted connection does not touch the receiving side. -/
theorem sameReads_handleCmd {cmd : ConnCmd} (hcmd : cmd.sends = true)
    (haccepted : (state v.socket).accepted = true) : SameReads (handleCmd v cmd) v := by
  cases cmd with
  | write data reply =>
      rw [handleCmd]
      split <;> exact ⟨rfl, rfl, rfl, rfl, rfl⟩
  | closeWrite reply =>
      refine ⟨rfl, rfl, rxBuffer_close v.socket, rxFinReceived_close v.socket, ?_⟩
      change (state (close v.socket)).receives = (state v.socket).receives
      rw [state_close, State.receives_afterClose haccepted]
  | read | close => cases hcmd

omit [LawfulTcpSocket σ] in
theorem sameWrites_handleCmd {cmd : ConnCmd} (hcmd : cmd.reads = true) : SameWrites (handleCmd v cmd) v := by
  cases cmd with
  | read maxLen reply =>
      rw [handleCmd]
      split <;> exact ⟨rfl, rfl, rfl, rfl, rfl⟩
  | write | closeWrite | close => cases hcmd

theorem SameReads.handleCmd (h : SameReads v w) {cmd : ConnCmd} (hcmd : cmd.sends = false) :
    SameReads (handleCmd v cmd) (handleCmd w cmd) := by
  cases cmd with
  | read maxLen reply =>
      rw [Service.handleCmd, Service.handleCmd, h.read]
      split
      · exact ⟨h.read, congrArg (· ++ _) h.answers, h.rxBuffer, h.rxFinReceived, h.receives⟩
      · exact ⟨rfl, h.answers, h.rxBuffer, h.rxFinReceived, h.receives⟩
  | close reply =>
      refine ⟨h.read, h.answers, ?_, ?_, ?_⟩
      · change TcpSocket.rxBuffer (abort v.socket) = TcpSocket.rxBuffer (abort w.socket)
        rw [rxBuffer_abort, rxBuffer_abort, h.rxBuffer]
      · change TcpSocket.rxFinReceived (abort v.socket) = TcpSocket.rxFinReceived (abort w.socket)
        rw [rxFinReceived_abort, rxFinReceived_abort, h.rxFinReceived]
      · change (state (abort v.socket)).receives = (state (abort w.socket)).receives
        rw [state_abort, state_abort]
  | write | closeWrite => cases hcmd

theorem SameWrites.handleCmd (h : SameWrites v w) {cmd : ConnCmd} (hcmd : cmd.reads = false) :
    SameWrites (handleCmd v cmd) (handleCmd w cmd) := by
  cases cmd with
  | write data reply =>
      rw [Service.handleCmd, Service.handleCmd, h.write]
      split
      · exact ⟨h.write, congrArg (· ++ _) h.answers, h.txBuffer, h.txCapacity, h.maySend⟩
      · exact ⟨rfl, h.answers, h.txBuffer, h.txCapacity, h.maySend⟩
  | closeWrite reply =>
      refine ⟨h.write, h.answers, ?_, ?_, ?_⟩
      · change TcpSocket.txBuffer (close v.socket) = TcpSocket.txBuffer (close w.socket)
        rw [txBuffer_close, txBuffer_close, h.txBuffer]
      · change TcpSocket.txCapacity (close v.socket) = TcpSocket.txCapacity (close w.socket)
        rw [txCapacity_close, txCapacity_close, h.txCapacity]
      · change TcpSocket.maySend (close v.socket) = TcpSocket.maySend (close w.socket)
        rw [maySend_close, maySend_close]
  | close reply =>
      refine ⟨h.write, h.answers, ?_, ?_, ?_⟩
      · change TcpSocket.txBuffer (abort v.socket) = TcpSocket.txBuffer (abort w.socket)
        rw [txBuffer_abort, txBuffer_abort, h.txBuffer]
      · change TcpSocket.txCapacity (abort v.socket) = TcpSocket.txCapacity (abort w.socket)
        rw [txCapacity_abort, txCapacity_abort, h.txCapacity]
      · change TcpSocket.maySend (abort v.socket) = TcpSocket.maySend (abort w.socket)
        rw [maySend_abort, maySend_abort]
  | read => cases hcmd

theorem SameReads.blocked (h : SameReads v w)
    (hidle : ∀ read, w.conn.read = some read → ReadBlocked callers w read) :
    ∀ read, v.conn.read = some read → ReadBlocked callers v read := by
  intro read hread
  rw [ReadBlocked, h.mayRecv, h.rxBuffer]
  exact hidle read (h.read ▸ hread)

omit [LawfulTcpSocket σ] in
theorem SameWrites.blocked (h : SameWrites v w)
    (hidle : ∀ write, w.conn.write = some write → WriteBlocked callers w write) :
    ∀ write, v.conn.write = some write → WriteBlocked callers v write := by
  intro write hwrite
  rw [WriteBlocked, h.maySend, h.txCapacity, h.txBuffer]
  exact hidle write (h.write ▸ hwrite)

theorem state_serviceIo (callers : Callers) (v : Service σ) :
    state (serviceIo callers v).socket = state v.socket := by
  calc state (serviceIo callers v).socket
      = state (serviceRead callers v).socket := (serviceWrite_step callers _).frame.state
    _ = state v.socket := (serviceRead_step callers v).frame.state

theorem accepted_handleCmd (cmd : ConnCmd) (h : (state v.socket).accepted = true) :
    (state (handleCmd v cmd).socket).accepted = true := by
  rcases handleCmd_cases v cmd with ⟨reply, rfl⟩ | ⟨reply, rfl⟩ | ⟨hsocket, _⟩
  · change (state (close v.socket)).accepted = true
    rw [state_close]
    exact State.accepted_afterClose _
  · change (state (abort v.socket)).accepted = true
    rw [state_abort]
    rfl
  · rw [hsocket]
    exact h

/-- The receiving side goes through the loop as if there were no writes and half-closes. -/
theorem SameReads.serviceLoop {queue : List ConnCmd} (h : SameReads v w) (hidle : Idle callers v)
    (haccepted : (state v.socket).accepted = true) :
    SameReads (serviceLoop callers queue v)
      (serviceLoop callers (queue.filter fun cmd => !cmd.sends) w) := by
  induction queue generalizing v w with
  | nil => exact h
  | cons cmd rest ih =>
      have haccepted' : (state (serviceCmd callers v cmd rest).socket).accepted = true := by
        rw [serviceCmd, state_serviceIo]
        exact accepted_handleCmd cmd haccepted
      rcases hcmd : cmd.sends with _ | _
      · rw [List.filter_cons_of_pos (by simp [hcmd])]
        have hqueues : SameReads (v.setQueue rest) (w.setQueue (rest.filter fun cmd => !cmd.sends)) :=
          ((sameReads_setQueue v _).trans h).trans (sameReads_setQueue w _).symm
        exact ih (hqueues.handleCmd hcmd).serviceIo (idle_serviceIo callers _) haccepted'
      · rw [List.filter_cons_of_neg (by simp [hcmd])]
        refine ih ?_ (idle_serviceIo callers _) haccepted'
        have hhandled : SameReads (Service.handleCmd (v.setQueue rest) cmd) v :=
          (sameReads_handleCmd (v := v.setQueue rest) hcmd haccepted).trans (sameReads_setQueue v rest)
        rw [serviceCmd, Service.serviceIo, serviceRead_of_blocked (hhandled.blocked hidle.read)]
        exact ((sameReads_serviceWrite callers _).trans hhandled).trans h

theorem SameWrites.serviceLoop {queue : List ConnCmd} (h : SameWrites v w) (hidle : Idle callers v) :
    SameWrites (serviceLoop callers queue v)
      (serviceLoop callers (queue.filter fun cmd => !cmd.reads) w) := by
  induction queue generalizing v w with
  | nil => exact h
  | cons cmd rest ih =>
      rcases hcmd : cmd.reads with _ | _
      · rw [List.filter_cons_of_pos (by simp [hcmd])]
        have hqueues : SameWrites (v.setQueue rest) (w.setQueue (rest.filter fun cmd => !cmd.reads)) :=
          ((sameWrites_setQueue v _).trans h).trans (sameWrites_setQueue w _).symm
        exact ih (hqueues.handleCmd hcmd).serviceIo (idle_serviceIo callers _)
      · rw [List.filter_cons_of_neg (by simp [hcmd])]
        refine ih ?_ (idle_serviceIo callers _)
        have hhandled : SameWrites (Service.handleCmd (v.setQueue rest) cmd) v :=
          (sameWrites_handleCmd hcmd).trans (sameWrites_setQueue v rest)
        have hread := (sameWrites_serviceRead callers (Service.handleCmd (v.setQueue rest) cmd)).trans hhandled
        rw [serviceCmd, Service.serviceIo, serviceWrite_of_blocked (hread.blocked hidle.write)]
        exact hread.trans h

/-- A blocked or half-closed direction never delays, fails or alters the other one. -/
theorem full_duplex (callers : Callers) (v : Service σ) (haccepted : (state v.socket).accepted = true) :
    ((service callers v).answers.read = (service callers v.withoutWrites).answers.read ∧
      rxBuffer (service callers v).socket = rxBuffer (service callers v.withoutWrites).socket ∧
      (service callers v).conn.read = (service callers v.withoutWrites).conn.read) ∧
    ((service callers v).answers.write = (service callers v.withoutReads).answers.write ∧
      txBuffer (service callers v).socket = txBuffer (service callers v.withoutReads).socket ∧
      (service callers v).conn.write = (service callers v.withoutReads).conn.write) := by
  have hreads : SameReads (service callers v) (service callers v.withoutWrites) := by
    refine SameReads.serviceLoop (SameReads.serviceIo ⟨rfl, rfl, rfl, rfl, rfl⟩) (idle_serviceIo callers v) ?_
    rw [state_serviceIo]
    exact haccepted
  have hwrites : SameWrites (service callers v) (service callers v.withoutReads) :=
    SameWrites.serviceLoop (SameWrites.serviceIo ⟨rfl, rfl, rfl, rfl, rfl⟩) (idle_serviceIo callers v)
  exact ⟨⟨hreads.answers, hreads.rxBuffer, hreads.read⟩, ⟨hwrites.answers, hwrites.txBuffer, hwrites.write⟩⟩

/-- A full transmit buffer and a half-close stand between two reads. -/
theorem full_duplex_half_closed :
    let socket : BufferedSocket := ⟨.established, none, none, [1, 2, 3], false, [9], 1⟩
    let rx : CmdReceiver := ⟨0, [.read 2 0, .write [7] 0, .closeWrite 0, .read 4 1, .read 4 2], false⟩
    let callers : Callers := ⟨fun _ => false, fun _ => false⟩
    let v : Service BufferedSocket := ⟨ConnState.new rx, socket, Answers.none⟩
    (service callers v).answers.read = (service callers v.withoutWrites).answers.read ∧
      (service callers v).answers.read.length = 2 ∧ (service callers v).conn.read = some ⟨4, 2⟩ := by
  intro socket rx callers v
  exact ⟨(full_duplex callers v rfl).1.1, by decide, by decide⟩

end Service

end SmoltcpSocks
