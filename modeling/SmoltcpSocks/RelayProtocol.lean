import SmoltcpSocks.RelayFlight

/-! The protocol between a relay and the actor seen from outside: how many commands are in flight at
once, that none of them is ever refused, and that the command channel always has room. -/

namespace SmoltcpSocks

open TcpSocket

/-- A channel holds nothing but its four kinds of commands. -/
theorem length_commands (queue : List ConnCmd) :
    queue.length = (queue.filterMap ConnCmd.asRead).length + (queue.filterMap ConnCmd.asWrite).length +
      (queue.filterMap ConnCmd.asCloseWrite).length + (queue.filterMap ConnCmd.asClose).length := by
  induction queue with
  | nil => rfl
  | cons cmd rest ih =>
      cases cmd <;> simp only [List.length_cons, List.filterMap_cons, ConnCmd.asRead, ConnCmd.asWrite,
        ConnCmd.asCloseWrite, ConnCmd.asClose, ih] <;> omega

theorem DownPoint.awaited_le_one (down : DownPoint) :
    down.awaitedWrite.toList.length + down.awaitedCloseWrite.toList.length ≤ 1 := by
  cases down <;> simp [awaitedWrite, awaitedCloseWrite]

namespace Session

variable {σ : Type} {s t : Session σ} {c : ConnState}

/-- What is on the channel is in flight. -/
theorem length_queue_le_held (hconn : s.conn = some c) : c.cmdRx.queue.length ≤
    s.reads.length + s.writes.length + s.closeWrites.length + s.closes.length := by
  rw [length_commands]
  simp only [reads, writes, closeWrites, closes, hconn, Option.elim_some, ConnState.reads, ConnState.writes,
    ConnState.closeWrites, ConnState.closes, List.length_append]
  omega

def readsInFlight (s : Session σ) : Nat := s.reads.length + s.answers.read.length

def writesInFlight (s : Session σ) : Nat := s.writes.length + s.answers.write.length

def closeWritesInFlight (s : Session σ) : Nat := s.closeWrites.length + s.answers.closeWrite.length

def closesInFlight (s : Session σ) : Nat := s.closes.length + s.answers.close.length

/-- While the last close is in flight the copy directions have nothing outstanding. -/
theorem Flight.idle_of_close (h : Flight s) (hclose : s.closesInFlight ≠ 0) :
    s.up.awaited = none ∧ s.down.awaitedWrite = none ∧ s.down.awaitedCloseWrite = none := by
  have horder := h.order
  have hle := h.closes.length_le
  rcases hpipe : s.pipe with _ | _ | _ | reply | result
  case awaitClose =>
    rw [hpipe] at horder
    exact ⟨UpPoint.awaited_of_returned horder.1, DownPoint.awaited_of_returned horder.2⟩
  all_goals
    rw [hpipe] at hle
    exact absurd (Nat.le_zero.mp hle) hclose

/-- Every error the actor has answered with is that the connection is closed. -/
structure Unrefused (s : Session σ) : Prop where
  flight : Flight s
  reads : ∀ reply e, (reply, .error e) ∈ s.answers.read → e = .closed
  writes : ∀ reply e, (reply, .error e) ∈ s.answers.write → e = .closed
  closeWrites : ∀ reply e, (reply, .error e) ∉ s.answers.closeWrite
  closes : ∀ reply e, (reply, .error e) ∉ s.answers.close

theorem Unrefused.frame (h : Unrefused s) (hflight : Flight t)
    (hreads : ∀ answer ∈ t.answers.read, answer ∈ s.answers.read)
    (hwrites : ∀ answer ∈ t.answers.write, answer ∈ s.answers.write)
    (hcloseWrites : ∀ answer ∈ t.answers.closeWrite, answer ∈ s.answers.closeWrite)
    (hcloses : ∀ answer ∈ t.answers.close, answer ∈ s.answers.close) : Unrefused t where
  flight := hflight
  reads reply e hmem := h.reads reply e (hreads _ hmem)
  writes reply e hmem := h.writes reply e (hwrites _ hmem)
  closeWrites reply e hmem := h.closeWrites reply e (hcloseWrites _ hmem)
  closes reply e hmem := h.closes reply e (hcloses _ hmem)

variable [TcpSocket σ]

/-- A command is never refused, as nothing of its kind is parked before it. -/
theorem Unrefused.installCmd {cmd : ConnCmd} {rest : List ConnCmd} (h : Unrefused s)
    (hconn : s.conn = some c) (hqueue : c.cmdRx.queue = cmd :: rest) :
    Unrefused (s.install (Service.handleCmd (Service.setQueue ⟨c, s.socket, s.answers⟩ rest) cmd)) := by
  have hreads := (Service.handleCmd_reads (v := ⟨c, s.socket, s.answers⟩) hqueue (h.flight.reads.of_some hconn)).2
  have hwrites :=
    (Service.handleCmd_writes (v := ⟨c, s.socket, s.answers⟩) hqueue (h.flight.writes.of_some hconn)).2
  have hflight := h.flight.installCmd hconn hqueue
  rcases Service.handleCmd_cases (Service.setQueue ⟨c, s.socket, s.answers⟩ rest) cmd with
    ⟨reply, rfl⟩ | ⟨reply, rfl⟩ | ⟨_, hcloseWrites, hcloses, _⟩
  · refine { h with flight := hflight, closeWrites := ?_ }
    intro reply' e hmem
    rcases List.mem_append.mp hmem with hmem | hmem
    · exact h.closeWrites reply' e hmem
    · simp at hmem
  · refine { h with flight := hflight, closes := ?_ }
    intro reply' e hmem
    rcases List.mem_append.mp hmem with hmem | hmem
    · exact h.closes reply' e hmem
    · simp at hmem
  · refine h.frame hflight ?_ ?_ ?_ ?_
    · exact fun answer hmem => hreads ▸ hmem
    · exact fun answer hmem => hwrites ▸ hmem
    · exact fun answer hmem => hcloseWrites ▸ hmem
    · exact fun answer hmem => hcloses ▸ hmem

section Service

variable [LawfulTcpSocket σ] {w : Service (Traced σ)}

theorem Unrefused.installRead (h : Unrefused s) (hconn : s.conn = some c)
    (hstep : Service.ReadStep s.callers ⟨c, s.socket, s.answers⟩ w) : Unrefused (s.install w) := by
  have hframe := hstep.frame
  refine ⟨h.flight.installRead hconn hstep, ?_, ?_, ?_, ?_⟩
  · intro reply e hmem
    have hread := h.reads reply e
    cases hstep with
    | idle | cancelled | parked => exact hread hmem
    | empty | data | finished =>
        rcases List.mem_append.mp hmem with hmem | hmem
        · exact hread hmem
        · simp at hmem
    | aborted =>
        rcases List.mem_append.mp hmem with hmem | hmem
        · exact hread hmem
        · simp_all
  · rw [show (s.install w).answers.write = s.answers.write from hframe.answersWrite]
    exact h.writes
  · rw [show (s.install w).answers.closeWrite = s.answers.closeWrite from hframe.answersCloseWrite]
    exact h.closeWrites
  · rw [show (s.install w).answers.close = s.answers.close from hframe.answersClose]
    exact h.closes

theorem Unrefused.installWrite (h : Unrefused s) (hconn : s.conn = some c)
    (hstep : Service.WriteStep s.callers ⟨c, s.socket, s.answers⟩ w) : Unrefused (s.install w) := by
  have hframe := hstep.frame
  refine ⟨h.flight.installWrite hconn hstep, ?_, ?_, ?_, ?_⟩
  · rw [show (s.install w).answers.read = s.answers.read from hframe.answersRead]
    exact h.reads
  · intro reply e hmem
    have hwrite := h.writes reply e
    cases hstep with
    | idle | cancelled | parked => exact hwrite hmem
    | empty | sent =>
        rcases List.mem_append.mp hmem with hmem | hmem
        · exact hwrite hmem
        · simp at hmem
    | closed =>
        rcases List.mem_append.mp hmem with hmem | hmem
        · exact hwrite hmem
        · simp_all
  · rw [show (s.install w).answers.closeWrite = s.answers.closeWrite from hframe.answersCloseWrite]
    exact h.closeWrites
  · rw [show (s.install w).answers.close = s.answers.close from hframe.answersClose]
    exact h.closes

theorem keptByService_unrefused : KeptByService (Unrefused (σ := σ)) where
  read h hconn hstep := h.installRead hconn hstep
  write h hconn hstep := h.installWrite hconn hstep
  cmd h hconn hqueue := h.installCmd hconn hqueue
  serving b h hb := { h with flight := h.flight.setServing b hb }

end Service

variable [LawfulTcpSocket σ] {a : SessionAction σ}

theorem Unrefused.step (h : Unrefused s) (hstep : s.step a = some t) : Unrefused t := by
  have hflight := h.flight.step hstep
  cases step_move hstep with
  | serviceBegin _ hbegin => exact keptByService_unrefused.serviceBegin h hbegin
  | serviceNext _ hnext => exact keptByService_unrefused.serviceNext h hnext
  | serviceDrop c hconn hserving hqueue hclosed =>
      rw [h.flight.failPending_of_closed hconn hclosed] at hflight ⊢
      exact { h with flight := hflight }
  | readRecv reply result rest hup hawait =>
      have hreads := h.flight.reads
      rw [hup] at hreads
      obtain ⟨_, rfl, _⟩ := hreads.await_cases (fun hheld => by simp [hheld]) hawait
      exact { h with flight := hflight, reads := nofun }
  | writeRecv buf written reply result rest hdown hawait =>
      have hwrites := h.flight.writes
      rw [hdown] at hwrites
      obtain ⟨_, rfl, _⟩ := hwrites.await_cases (fun hheld => by simp [hheld]) hawait
      exact { h with flight := hflight, writes := nofun }
  | closeWriteRecv reply result rest hdown hawait =>
      have hcloseWrites := h.flight.closeWrites
      rw [hdown] at hcloseWrites
      obtain ⟨_, rfl, _⟩ := hcloseWrites.await_cases (fun hheld => by simp [hheld]) hawait
      exact { h with flight := hflight, closeWrites := nofun }
  | closeRecv reply result rest hpipe hawait =>
      have hcloses := h.flight.closes
      rw [hpipe] at hcloses
      obtain ⟨_, rfl, _⟩ := hcloses.await_cases (fun hheld => by simp [hheld]) hawait
      exact { h with flight := hflight, closes := nofun }
  | poll | serviceEnd | stop | connect | connectFail | readSend | readGone | writeSome | writeFail
  | flush | srcRead | srcEof | srcFail | writeSend | writeGone | closeWriteSend | closeWriteGone | join
  | closeSend | closeGone => exact { h with flight := hflight }

omit [TcpSocket σ] [LawfulTcpSocket σ] in
theorem Unrefused.accepted (vconn : VConn) (socket : σ) (client upstream : List UInt8) :
    Unrefused (Session.accepted vconn socket client upstream) :=
  ⟨.accepted vconn socket client upstream, nofun, nofun, nofun, nofun⟩

omit [TcpSocket σ] [LawfulTcpSocket σ] in
/-- At most one read and one of write and half-close are in flight, or a single close and neither. -/
theorem Flight.inFlight (h : Flight s) :
    s.readsInFlight ≤ 1 ∧ s.writesInFlight + s.closeWritesInFlight ≤ 1 ∧ s.closesInFlight ≤ 1 ∧
      (s.closesInFlight ≠ 0 →
        s.readsInFlight = 0 ∧ s.writesInFlight = 0 ∧ s.closeWritesInFlight = 0) := by
  have hreads := h.reads.length_le
  have hwrites := h.writes.length_le
  have hcloseWrites := h.closeWrites.length_le
  refine ⟨?_, ?_, ?_, ?_⟩
  · exact Nat.le_trans hreads Option.length_toList_le
  · exact Nat.le_trans (Nat.add_le_add hwrites hcloseWrites) (DownPoint.awaited_le_one s.down)
  · exact Nat.le_trans h.closes.length_le Option.length_toList_le
  · intro hclose
    obtain ⟨hup, hwrite, hcloseWrite⟩ := h.idle_of_close hclose
    rw [hup] at hreads
    rw [hwrite] at hwrites
    rw [hcloseWrite] at hcloseWrites
    exact ⟨Nat.le_zero.mp hreads, Nat.le_zero.mp hwrites, Nat.le_zero.mp hcloseWrites⟩

omit [TcpSocket σ] [LawfulTcpSocket σ] in
/-- The command channel never holds more than two commands. -/
theorem Flight.length_queue_le (h : Flight s) (hconn : s.conn = some c) : c.cmdRx.queue.length ≤ 2 := by
  obtain ⟨hreads, hwrites, hcloses, hidle⟩ := h.inFlight
  have hqueue := length_queue_le_held hconn
  simp only [readsInFlight, writesInFlight, closeWritesInFlight, closesInFlight] at hreads hwrites hcloses hidle
  omega

/-- In every run at most one read and one of write and half-close are in flight, or a single close and
neither of them; no command is answered with `WouldBlock`; and the command channel is never full. -/
theorem one_read_one_write {vconn : VConn} {socket : σ} {client upstream : List UInt8}
    {trace : List (SessionAction σ)}
    (hrun : Transition.Run Session.step (fun _ _ => True)
      (Session.accepted vconn socket client upstream) trace s) :
    (s.readsInFlight ≤ 1 ∧ s.writesInFlight + s.closeWritesInFlight ≤ 1 ∧ s.closesInFlight ≤ 1 ∧
      (s.closesInFlight ≠ 0 →
        s.readsInFlight = 0 ∧ s.writesInFlight = 0 ∧ s.closeWritesInFlight = 0)) ∧
    (∀ reply message, (reply, .error (Service.wouldBlock message)) ∉ s.answers.read ∧
      (reply, .error (Service.wouldBlock message)) ∉ s.answers.write ∧
      (reply, .error (Service.wouldBlock message)) ∉ s.answers.closeWrite ∧
      (reply, .error (Service.wouldBlock message)) ∉ s.answers.close) ∧
    ∀ c, s.conn = some c → c.cmdRx.queue.length < CMD_CAPACITY := by
  have h : Unrefused s :=
    hrun.invariant (fun _ _ _ h _ hstep => h.step hstep) (.accepted vconn socket client upstream)
  refine ⟨h.flight.inFlight, fun reply message => ⟨?_, ?_, ?_, ?_⟩, fun c hconn => ?_⟩
  · exact fun hmem => nomatch h.reads _ _ hmem
  · exact fun hmem => nomatch h.writes _ _ hmem
  · exact h.closeWrites reply _
  · exact h.closes reply _
  · exact Nat.lt_of_le_of_lt (h.flight.length_queue_le hconn) (by decide)

/-- Both directions have a command on the channel at once. -/
theorem one_read_one_write_both_queued :
    ∃ trace s, Transition.Run Session.step (fun _ _ => True) (established 4 [] [1]) trace s ∧
      s.readsInFlight = 1 ∧ s.writesInFlight = 1 ∧
      ∀ c, s.conn = some c → c.cmdRx.queue.length < CMD_CAPACITY := by
  let trace : List (SessionAction BufferedSocket) :=
    [.connect (.ok ()), .readSend, .srcRead 1, .writeSend]
  have hexec : (Transition.execute step (fun _ _ => True) (established 4 [] [1]) trace).any
      (fun s => decide (s.readsInFlight = 1 ∧ s.writesInFlight = 1)) = true := by decide +kernel
  obtain ⟨s, hrun, hs⟩ := Transition.Run.exists_of_execute hexec
  have hs := of_decide_eq_true hs
  exact ⟨trace, s, hrun, hs.1, hs.2, (one_read_one_write hrun).2.2⟩

end Session

end SmoltcpSocks
