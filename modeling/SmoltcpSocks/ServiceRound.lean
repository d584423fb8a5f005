import SmoltcpSocks.ServiceAccount

/-! A whole call of `ConnState::service`: what it leaves parked, what it answers, and what a close does
to it. `after` is the state in which the loop meets each command. -/

namespace SmoltcpSocks

open TcpSocket

namespace Service

variable {σ : Type} [TcpSocket σ] (callers : Callers)

/-- A read that has to wait: its caller is there, it asks for something, and nothing has arrived of what
may still come. -/
def ReadBlocked (v : Service σ) (read : PendingRead) : Prop :=
  callers.readClosed read.reply = false ∧ 0 < read.maxLen ∧ mayRecv v.socket = true ∧ rxBuffer v.socket = []

/-- A write that has to wait: its caller is there, it has something to send, and the transmit buffer of
a socket that still sends is full. -/
def WriteBlocked (v : Service σ) (write : PendingWrite) : Prop :=
  callers.writeClosed write.reply = false ∧ write.data ≠ [] ∧ maySend v.socket = true ∧
    txCapacity v.socket ≤ (txBuffer v.socket).length

structure Idle (v : Service σ) : Prop where
  read : ∀ read, v.conn.read = some read → ReadBlocked callers v read
  write : ∀ write, v.conn.write = some write → WriteBlocked callers v write

/-- The round after `service_io` and its first `n` commands. -/
def after (v : Service σ) : Nat → Service σ
  | 0 => serviceIo callers v
  | n + 1 =>
      match (after v n).conn.cmdRx.queue with
      | [] => after v n
      | cmd :: rest => serviceCmd callers (after v n) cmd rest

/-- A read of the queue is refused: when its turn comes another one is parked and has to wait. -/
def ReadRefused (v : Service σ) (request : Nat × ReplyId) : Prop :=
  ∃ n read, v.conn.cmdRx.queue[n]? = some (.read request.1 request.2) ∧
    (after callers v n).conn.read = some read ∧ ReadBlocked callers (after callers v n) read

/-- A write of the queue is refused: when its turn comes another one is parked and has to wait. -/
def WriteRefused (v : Service σ) (request : List UInt8 × ReplyId) : Prop :=
  ∃ n write, v.conn.cmdRx.queue[n]? = some (.write request.1 request.2) ∧
    (after callers v n).conn.write = some write ∧ WriteBlocked callers (after callers v n) write

/-- What a call of `service` makes of the requests it finds. -/
structure Settles (v w : Service σ) : Prop where
  drained : w.conn.cmdRx.queue = []
  reads : ∃ answered, w.answers.read = v.answers.read ++ answered.map Prod.snd ∧
    Ledger.Balanced (ReadAnswer (ReadRefused callers v)) (fun request => callers.readClosed request.2 = true)
      v.conn.reads (w.conn.read.toList.map fun read => (read.maxLen, read.reply)) answered
  writes : ∃ answered, w.answers.write = v.answers.write ++ answered.map Prod.snd ∧
    Ledger.Balanced (WriteAnswer (WriteRefused callers v))
      (fun request => callers.writeClosed request.2 = true)
      v.conn.writes (w.conn.write.toList.map fun write => (write.data, write.reply)) answered
  closeWrites : w.answers.closeWrite = v.answers.closeWrite ++ v.conn.closeWrites.map (·, .ok ())
  closes : w.answers.close = v.answers.close ++ v.conn.closes.map (·, .ok ())
  idle : Idle callers w
  closed : v.conn.closes ≠ [] ∨ state v.socket = .closed →
    state w.socket = .closed ∧ w.conn.read = none ∧ w.conn.write = none

variable {callers} {v w : Service σ}

theorem Idle.nothing_parked [LawfulTcpSocket σ] (h : Idle callers v) (hstate : state v.socket = .closed) :
    v.conn.read = none ∧ v.conn.write = none := by
  constructor
  · rcases hread : v.conn.read with _ | read
    · rfl
    · obtain ⟨_, _, hmay, hrx⟩ := h.read read hread
      simp [mayRecv_iff, hstate, hrx] at hmay
  · rcases hwrite : v.conn.write with _ | write
    · rfl
    · obtain ⟨_, _, hmay, _⟩ := h.write write hwrite
      simp [maySend_iff, hstate] at hmay

variable [LawfulTcpSocket σ]

theorem mayRecv_congr {s t : σ} (hstate : state s = state t) (hrx : rxBuffer s = rxBuffer t) :
    mayRecv s = mayRecv t := by
  rw [Bool.eq_iff_iff, mayRecv_iff, mayRecv_iff, hstate, hrx]

/-- `service_io` leaves nothing parked that it could resolve. -/
theorem idle_serviceIo (callers : Callers) (v : Service σ) : Idle callers (serviceIo callers v) := by
  have hframe := (serviceWrite_step callers (serviceRead callers v)).frame
  have hrecv := mayRecv_congr hframe.state hframe.rxBuffer
  constructor
  · intro read hread
    have hstep := serviceRead_step callers v
    rw [serviceIo, hframe.read] at hread
    rw [ReadBlocked, serviceIo, hrecv, hframe.rxBuffer]
    generalize serviceRead callers v = w at hstep hread
    cases hstep with
    | idle hnone => cases hnone.symm.trans hread
    | parked read' hread' hclosed hpos hmay hrx =>
        cases hread'.symm.trans hread
        exact ⟨hclosed, hpos, hmay, hrx⟩
    | cancelled | empty | data | finished | aborted => cases hread
  · intro write hwrite
    have hstep := serviceWrite_step callers (serviceRead callers v)
    rw [serviceIo] at hwrite ⊢
    generalize serviceWrite callers (serviceRead callers v) = w at hstep hwrite
    cases hstep with
    | idle hnone => cases hnone.symm.trans hwrite
    | parked write' hwrite' hclosed hdata hmay hfull =>
        cases hwrite'.symm.trans hwrite
        exact ⟨hclosed, hdata, hmay, hfull⟩
    | cancelled | empty | sent | closed => cases hwrite

theorem queue_after (n : Nat) : (after callers v n).conn.cmdRx.queue = v.conn.cmdRx.queue.drop n := by
  induction n with
  | zero => rw [after, cmdRx_serviceIo, List.drop_zero]
  | succ n ih =>
      rw [after, ← List.drop_drop, ← ih]
      rcases hqueue : (after callers v n).conn.cmdRx.queue with _ | ⟨cmd, rest⟩
      · simp [hqueue]
      · simp [serviceCmd, setQueue]

theorem idle_after (n : Nat) : Idle callers (after callers v n) := by
  induction n with
  | zero => exact idle_serviceIo callers v
  | succ n ih =>
      rw [after]
      split
      · exact ih
      · exact idle_serviceIo callers _

/-- The round is over after the last command. -/
theorem service_eq_after (callers : Callers) (v : Service σ) :
    service callers v = after callers v v.conn.cmdRx.queue.length := by
  have hloop : ∀ (queue : List ConnCmd) (n : Nat), (after callers v n).conn.cmdRx.queue = queue →
      serviceLoop callers queue (after callers v n) = after callers v (n + queue.length) := by
    intro queue
    induction queue with
    | nil => exact fun n _ => rfl
    | cons cmd rest ih =>
        intro n hqueue
        have hnext : after callers v (n + 1) = serviceCmd callers (after callers v n) cmd rest := by
          rw [after, hqueue]
        have hrest : (after callers v (n + 1)).conn.cmdRx.queue = rest := by
          rw [queue_after, ← List.drop_drop, ← queue_after, hqueue]
          rfl
        rw [serviceLoop, ← hnext, ih (n + 1) hrest, List.length_cons, Nat.add_right_comm, Nat.add_assoc]
  have hround := hloop v.conn.cmdRx.queue 0 (by rw [queue_after, List.drop_zero])
  rw [Nat.zero_add] at hround
  exact hround

/-- What `service_io` and every turn of the loop keep holds at the end of the round. -/
theorem after_induction {P : Service σ → Prop} (hstart : P (serviceIo callers v))
    (hturn : ∀ n cmd rest, v.conn.cmdRx.queue[n]? = some cmd →
      (after callers v n).conn.cmdRx.queue = cmd :: rest → P (after callers v n) →
        P (serviceCmd callers (after callers v n) cmd rest)) : P (service callers v) := by
  rw [service_eq_after]
  generalize v.conn.cmdRx.queue.length = n
  induction n with
  | zero => exact hstart
  | succ n ih =>
      rw [after]
      rcases hqueue : (after callers v n).conn.cmdRx.queue with _ | ⟨cmd, rest⟩
      · exact ih
      · refine hturn n cmd rest ?_ hqueue ih
        rw [queue_after] at hqueue
        rw [← List.head?_drop, hqueue, List.head?_cons]

section Reads

variable {refused : Nat × ReplyId → Prop} {requests : List (Nat × ReplyId)}
  {base : List (ReplyId × Except VConnError (List UInt8))} {handed : List UInt8}

theorem ReadAccount.serviceIo (hacc : ReadAccount callers refused requests base handed v) :
    ∃ chunk, rxBuffer v.socket = chunk ++ rxBuffer (serviceIo callers v).socket ∧
      ReadAccount callers refused requests base (handed ++ chunk) (serviceIo callers v) := by
  obtain ⟨chunk, hrx, hread⟩ := (serviceRead_step callers v).account hacc
  have hframe := (serviceWrite_step callers (serviceRead callers v)).frame
  refine ⟨chunk, ?_, hread.frame ?_ hframe.answersRead⟩
  · rw [Service.serviceIo, hframe.rxBuffer]
    exact hrx
  · rw [Service.serviceIo, ConnState.reads, hframe.read, hframe.cmdRx]
    rfl

theorem rxBuffer_handleCmd (v : Service σ) (cmd : ConnCmd) :
    rxBuffer (handleCmd v cmd).socket = rxBuffer v.socket := by
  rcases handleCmd_cases v cmd with ⟨reply, rfl⟩ | ⟨reply, rfl⟩ | ⟨hsocket, _⟩
  · exact rxBuffer_close v.socket
  · exact rxBuffer_abort v.socket
  · rw [hsocket]

/-- A round keeps the account of the reads and the bytes they take from the receive buffer. -/
theorem ReadAccount.service (hacc : ReadAccount callers refused requests base handed v)
    (hrefused : ∀ request, ReadRefused callers v request → refused request) :
    ∃ chunk, rxBuffer v.socket = chunk ++ rxBuffer (service callers v).socket ∧
      ReadAccount callers refused requests base (handed ++ chunk) (service callers v) := by
  refine after_induction (P := fun u => ∃ chunk, rxBuffer v.socket = chunk ++ rxBuffer u.socket ∧
    ReadAccount callers refused requests base (handed ++ chunk) u) hacc.serviceIo ?_
  rintro n cmd rest hcmd hqueue ⟨chunk, hrx, hread⟩
  have hhandled := hread.handleCmd hqueue ?_
  · obtain ⟨chunk', hrx', hread'⟩ := hhandled.serviceIo
    rw [rxBuffer_handleCmd] at hrx'
    refine ⟨chunk ++ chunk', ?_, ?_⟩
    · rw [hrx, List.append_assoc]
      exact congrArg (chunk ++ ·) hrx'
    · rw [← List.append_assoc]
      exact hread'
  · -- what the command finds parked has to wait
    rintro maxLen reply rfl hparked
    obtain ⟨read, hparked⟩ := Option.ne_none_iff_exists'.mp hparked
    exact hrefused _ ⟨n, read, hcmd, hparked, (idle_after n).read read hparked⟩

end Reads

section Writes

variable {refused : List UInt8 × ReplyId → Prop} {requests : List (List UInt8 × ReplyId)}
  {base : List (ReplyId × Except VConnError Nat)} {enqueued : List UInt8}

theorem WriteAccount.serviceIo (hacc : WriteAccount callers refused requests base enqueued v) :
    ∃ chunk, txBuffer (serviceIo callers v).socket = txBuffer v.socket ++ chunk ∧
      WriteAccount callers refused requests base (enqueued ++ chunk) (serviceIo callers v) := by
  have hframe := (serviceRead_step callers v).frame
  have hread : WriteAccount callers refused requests base enqueued (serviceRead callers v) := by
    refine hacc.frame ?_ hframe.answersWrite
    rw [ConnState.writes, hframe.write, hframe.cmdRx]
    rfl
  obtain ⟨chunk, htx, hwrite⟩ := (serviceWrite_step callers (serviceRead callers v)).account hread
  exact ⟨chunk, by rw [← hframe.txBuffer]; exact htx, hwrite⟩

theorem txBuffer_handleCmd (v : Service σ) (cmd : ConnCmd) :
    txBuffer (handleCmd v cmd).socket = txBuffer v.socket := by
  rcases handleCmd_cases v cmd with ⟨reply, rfl⟩ | ⟨reply, rfl⟩ | ⟨hsocket, _⟩
  · exact txBuffer_close v.socket
  · exact txBuffer_abort v.socket
  · rw [hsocket]

theorem WriteAccount.service (hacc : WriteAccount callers refused requests base enqueued v)
    (hrefused : ∀ request, WriteRefused callers v request → refused request) :
    ∃ chunk, txBuffer (service callers v).socket = txBuffer v.socket ++ chunk ∧
      WriteAccount callers refused requests base (enqueued ++ chunk) (service callers v) := by
  refine after_induction (P := fun u => ∃ chunk, txBuffer u.socket = txBuffer v.socket ++ chunk ∧
    WriteAccount callers refused requests base (enqueued ++ chunk) u) hacc.serviceIo ?_
  rintro n cmd rest hcmd hqueue ⟨chunk, htx, hwrite⟩
  have hhandled := hwrite.handleCmd hqueue ?_
  · obtain ⟨chunk', htx', hwrite'⟩ := hhandled.serviceIo
    rw [txBuffer_handleCmd] at htx'
    refine ⟨chunk ++ chunk', ?_, ?_⟩
    · rw [← List.append_assoc, ← htx]
      exact htx'
    · rw [← List.append_assoc]
      exact hwrite'
  · rintro data reply rfl hparked
    obtain ⟨write, hparked⟩ := Option.ne_none_iff_exists'.mp hparked
    exact hrefused _ ⟨n, write, hcmd, hparked, (idle_after n).write write hparked⟩

end Writes

/-- The half-closes and closes answered so far, and those still to answer. -/
def CloseAccount (v u : Service σ) : Prop :=
  u.answers.closeWrite ++ u.conn.closeWrites.map (·, .ok ()) =
      v.answers.closeWrite ++ v.conn.closeWrites.map (·, .ok ()) ∧
    u.answers.close ++ u.conn.closes.map (·, .ok ()) = v.answers.close ++ v.conn.closes.map (·, .ok ())

omit [TcpSocket σ] [LawfulTcpSocket σ] in
theorem CloseAccount.frame {u u' : Service σ} (h : CloseAccount v u) (hcmdRx : u'.conn.cmdRx = u.conn.cmdRx)
    (hcloseWrite : u'.answers.closeWrite = u.answers.closeWrite) (hclose : u'.answers.close = u.answers.close) :
    CloseAccount v u' := by
  rw [CloseAccount, ConnState.closeWrites, ConnState.closes, hcmdRx, hcloseWrite, hclose]
  exact h

omit [LawfulTcpSocket σ] in
theorem CloseAccount.handleCmd {u : Service σ} {cmd : ConnCmd} {rest : List ConnCmd} (h : CloseAccount v u)
    (hqueue : u.conn.cmdRx.queue = cmd :: rest) : CloseAccount v (handleCmd (u.setQueue rest) cmd) := by
  obtain ⟨hcloseWrite, hclose⟩ := h
  rw [ConnState.closeWrites, hqueue] at hcloseWrite
  rw [ConnState.closes, hqueue] at hclose
  cases cmd with
  | closeWrite reply =>
      refine ⟨?_, hclose⟩
      rw [← hcloseWrite]
      exact List.append_assoc _ _ _
  | close reply =>
      refine ⟨hcloseWrite, ?_⟩
      rw [← hclose]
      exact List.append_assoc _ _ _
  | read maxLen reply =>
      rcases hread : u.conn.read with _ | read <;>
        simpa [CloseAccount, Service.handleCmd, setQueue, setRead, answerRead, hread, ConnState.closeWrites,
          ConnState.closes] using ⟨hcloseWrite, hclose⟩
  | write data reply =>
      rcases hwrite : u.conn.write with _ | write <;>
        simpa [CloseAccount, Service.handleCmd, setQueue, setWrite, answerWrite, hwrite,
          ConnState.closeWrites, ConnState.closes] using ⟨hcloseWrite, hclose⟩

/-- A half-close and a close are answered when they are handled, and only then. -/
theorem closeAnswers_service (callers : Callers) (v : Service σ) :
    (service callers v).answers.closeWrite = v.answers.closeWrite ++ v.conn.closeWrites.map (·, .ok ()) ∧
      (service callers v).answers.close = v.answers.close ++ v.conn.closes.map (·, .ok ()) := by
  have hround : CloseAccount v (service callers v) := by
    refine service_induction ?_ ?_ CloseAccount.handleCmd ⟨rfl, rfl⟩
    · intro u w hu hstep
      exact hu.frame hstep.frame.cmdRx hstep.frame.answersCloseWrite hstep.frame.answersClose
    · intro u w hu hstep
      exact hu.frame hstep.frame.cmdRx hstep.frame.answersCloseWrite hstep.frame.answersClose
  simpa [CloseAccount, ConnState.closeWrites, ConnState.closes, cmdRx_service] using hround

/-- A closed socket stays closed, and a close on the channel closes it. -/
theorem state_service (callers : Callers) (v : Service σ)
    (h : v.conn.closes ≠ [] ∨ state v.socket = .closed) : state (service callers v).socket = .closed := by
  have hround : (service callers v).conn.closes ≠ [] ∨ state (service callers v).socket = .closed := by
    refine service_induction (P := fun u => u.conn.closes ≠ [] ∨ state u.socket = .closed) ?_ ?_ ?_ h
    · intro u w hu hstep
      rw [ConnState.closes, hstep.frame.cmdRx, hstep.frame.state]
      exact hu
    · intro u w hu hstep
      rw [ConnState.closes, hstep.frame.cmdRx, hstep.frame.state]
      exact hu
    · intro u cmd rest hu hqueue
      rw [ConnState.closes, hqueue] at hu
      rw [ConnState.closes, cmdRx_handleCmd]
      rcases handleCmd_cases (u.setQueue rest) cmd with ⟨reply, rfl⟩ | ⟨reply, rfl⟩ | ⟨hsocket, _, _, hnone⟩
      · rcases hu with hu | hu
        · exact Or.inl hu
        · refine Or.inr ?_
          change state (close u.socket) = .closed
          rw [state_close, hu]
          rfl
      · exact Or.inr (state_abort u.socket)
      · rw [List.filterMap_cons_none hnone] at hu
        rw [hsocket]
        exact hu
  rcases hround with hcloses | hstate
  · simp [ConnState.closes, cmdRx_service] at hcloses
  · exact hstate

theorem idle_service (callers : Callers) (v : Service σ) : Idle callers (service callers v) := by
  rw [service_eq_after]
  exact idle_after _

section Cancelled

variable {α : Type} {reply reply' : ReplyId}

/-- What was sent on a reply channel, errors apart. -/
def okReplies (reply : ReplyId) (answers : List (ReplyId × Except VConnError α)) : List α :=
  answers.filterMap fun answer => if answer.1 = reply then answer.2.toOption else none

theorem okReplies_other (answers : List (ReplyId × Except VConnError α)) (h : reply' ≠ reply)
    (result : Except VConnError α) : okReplies reply (answers ++ [(reply', result)]) = okReplies reply answers := by
  simp [okReplies, h]

theorem okReplies_error (answers : List (ReplyId × Except VConnError α)) (e : VConnError) :
    okReplies reply (answers ++ [(reply', .error e)]) = okReplies reply answers := by
  simp [okReplies, Except.toOption]

/-- A read whose caller is gone gets no bytes. -/
theorem okReplies_read_service (v : Service σ) (hclosed : callers.readClosed reply = true) :
    okReplies reply (service callers v).answers.read = okReplies reply v.answers.read := by
  have hother {read : PendingRead} (hopen : callers.readClosed read.reply = false) : read.reply ≠ reply := by
    rintro rfl
    rw [hclosed] at hopen
    cases hopen
  refine service_induction (P := fun u => okReplies reply u.answers.read = okReplies reply v.answers.read)
    ?_ ?_ ?_ rfl
  · intro u w hu hstep
    cases hstep with
    | idle | parked | cancelled => exact hu
    | empty _ _ hopen | data _ _ hopen | finished _ _ hopen | aborted _ _ hopen =>
        exact (okReplies_other _ (hother hopen) _).trans hu
  · intro u w hu hstep
    rw [hstep.frame.answersRead]
    exact hu
  · intro u cmd rest hu hqueue
    cases cmd with
    | read maxLen reply' =>
        rw [handleCmd]
        split
        · exact (okReplies_error _ _).trans hu
        · exact hu
    | write data reply' =>
        rw [handleCmd]
        split <;> exact hu
    | closeWrite | close => exact hu

/-- A write whose caller is gone enqueues nothing. -/
theorem okReplies_write_service (v : Service σ) (hclosed : callers.writeClosed reply = true) :
    okReplies reply (service callers v).answers.write = okReplies reply v.answers.write := by
  have hother {write : PendingWrite} (hopen : callers.writeClosed write.reply = false) :
      write.reply ≠ reply := by
    rintro rfl
    rw [hclosed] at hopen
    cases hopen
  refine service_induction (P := fun u => okReplies reply u.answers.write = okReplies reply v.answers.write)
    ?_ ?_ ?_ rfl
  · intro u w hu hstep
    rw [hstep.frame.answersWrite]
    exact hu
  · intro u w hu hstep
    cases hstep with
    | idle | parked | cancelled => exact hu
    | empty _ _ hopen | sent _ _ hopen | closed _ _ hopen =>
        exact (okReplies_other _ (hother hopen) _).trans hu
  · intro u cmd rest hu hqueue
    cases cmd with
    | write data reply' =>
        rw [handleCmd]
        split
        · exact (okReplies_error _ _).trans hu
        · exact hu
    | read maxLen reply' =>
        rw [handleCmd]
        split <;> exact hu
    | closeWrite | close => exact hu

end Cancelled

/-- A round settles the requests it finds. -/
theorem settles_service (callers : Callers) (v : Service σ) : Settles callers v (service callers v) := by
  have hdrained : (service callers v).conn.cmdRx.queue = [] := by rw [cmdRx_service]
  have hheldReads : (service callers v).conn.reads =
      (service callers v).conn.read.toList.map fun read => (read.maxLen, read.reply) := by
    rw [ConnState.reads, hdrained, List.filterMap_nil, List.append_nil]
  have hheldWrites : (service callers v).conn.writes =
      (service callers v).conn.write.toList.map fun write => (write.data, write.reply) := by
    rw [ConnState.writes, hdrained, List.filterMap_nil, List.append_nil]
  have hreadAccount : ReadAccount callers (ReadRefused callers v) v.conn.reads v.answers.read [] v :=
    .start _ _ _ _ _
  have hwriteAccount : WriteAccount callers (WriteRefused callers v) v.conn.writes v.answers.write [] v :=
    .start _ _ _ _ _
  obtain ⟨_, _, answeredReads, hreads, hreadsBalanced, _⟩ := hreadAccount.service fun _ h => h
  obtain ⟨_, _, answeredWrites, hwrites, hwritesBalanced, _⟩ := hwriteAccount.service fun _ h => h
  rw [hheldReads] at hreadsBalanced
  rw [hheldWrites] at hwritesBalanced
  refine ⟨hdrained, ⟨answeredReads, hreads, hreadsBalanced⟩, ⟨answeredWrites, hwrites, hwritesBalanced⟩,
    (closeAnswers_service callers v).1, (closeAnswers_service callers v).2, idle_service callers v, ?_⟩
  intro hclosed
  have hstate := state_service callers v hclosed
  exact ⟨hstate, (idle_service callers v).nothing_parked hstate⟩

end Service

end SmoltcpSocks
