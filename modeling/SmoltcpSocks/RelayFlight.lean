import SmoltcpSocks.Relay

/-! The order of a relay's life and its one-read/one-write discipline: each direction has at most one
request outstanding, the final close comes after both directions have returned, and the actor keeps
the connection's entry as long as the relay holds its VConn. -/

namespace SmoltcpSocks

open TcpSocket

/-- The request a program point awaits, with the channel of its reply. -/
def UpPoint.awaited : UpPoint → Option ((Nat × ReplyId) × ReplyId)
  | .awaitRead reply => some ((RELAY_BUF, reply), reply)
  | _ => none

def DownPoint.awaitedWrite : DownPoint → Option ((List UInt8 × ReplyId) × ReplyId)
  | .awaitWrite buf written reply => some ((buf.drop written, reply), reply)
  | _ => none

def DownPoint.awaitedCloseWrite : DownPoint → Option (ReplyId × ReplyId)
  | .awaitCloseWrite reply => some (reply, reply)
  | _ => none

def PipePoint.awaited : PipePoint → Option (ReplyId × ReplyId)
  | .awaitClose reply => some (reply, reply)
  | _ => none

/-- The copy directions run between the dial and the close of `pipe`. -/
def InOrder : PipePoint → UpPoint → DownPoint → Prop
  | .dial, up, down => up = .read ∧ down = .read
  | .join, _, _ => True
  | .close, up, down => up.hasReturned = true ∧ down.hasReturned = true
  | .awaitClose _, up, down => up.hasReturned = true ∧ down.hasReturned = true
  | .returned (.ok _), up, down => up.hasReturned = true ∧ down.hasReturned = true
  | .returned (.error _), up, down => up = .read ∧ down = .read

theorem InOrder.join_of_up {pipe : PipePoint} {up : UpPoint} {down : DownPoint}
    (h : InOrder pipe up down) (hread : up ≠ .read) (hret : up.hasReturned = false) :
    pipe = .join := by
  rcases pipe with _ | _ | _ | _ | (e | _) <;> simp_all [InOrder]

theorem InOrder.join_of_down {pipe : PipePoint} {up : UpPoint} {down : DownPoint}
    (h : InOrder pipe up down) (hread : down ≠ .read) (hret : down.hasReturned = false) :
    pipe = .join := by
  rcases pipe with _ | _ | _ | _ | (e | _) <;> simp_all [InOrder]

theorem InOrder.of_join {pipe : PipePoint} (hpipe : pipe = .join) (up : UpPoint) (down : DownPoint) :
    InOrder pipe up down := by
  rw [hpipe]
  trivial

theorem UpPoint.awaited_afterRead (result : Except VConnError (List UInt8)) :
    (UpPoint.afterRead result).awaited = none := by
  rcases result with _ | (_ | _) <;> rfl

theorem DownPoint.awaited_afterWrite (buf : List UInt8) (written : Nat) (result : Except VConnError Nat) :
    (DownPoint.afterWrite buf written result).awaitedWrite = none ∧
      (DownPoint.afterWrite buf written result).awaitedCloseWrite = none := by
  rcases result with _ | (_ | n)
  · exact ⟨rfl, rfl⟩
  · exact ⟨rfl, rfl⟩
  · simp only [DownPoint.afterWrite]
    split <;> exact ⟨rfl, rfl⟩

theorem UpPoint.awaited_of_returned {up : UpPoint} (h : up.hasReturned = true) : up.awaited = none := by
  cases up <;> first | rfl | cases h

theorem DownPoint.awaited_of_returned {down : DownPoint} (h : down.hasReturned = true) :
    down.awaitedWrite = none ∧ down.awaitedCloseWrite = none := by
  cases down <;> first | exact ⟨rfl, rfl⟩ | cases h

theorem DownPoint.awaitedCloseWrite_reply (down : DownPoint) (request reply : ReplyId)
    (h : down.awaitedCloseWrite = some (request, reply)) : reply = request := by
  cases down <;> cases h
  rfl

theorem PipePoint.awaited_reply (pipe : PipePoint) (request reply : ReplyId)
    (h : pipe.awaited = some (request, reply)) : reply = request := by
  cases pipe <;> cases h
  rfl

namespace Session

variable {σ : Type}

/-- What is in flight for a connection, and in which order. -/
structure Flight (s : Session σ) : Prop where
  reads : Oneshot.Outstanding s.reads s.answers.read (s.conn = none) s.up.awaited
  writes : Oneshot.Outstanding s.writes s.answers.write (s.conn = none) s.down.awaitedWrite
  closeWrites : Oneshot.Outstanding s.closeWrites s.answers.closeWrite (s.conn = none)
    s.down.awaitedCloseWrite
  closes : Oneshot.Outstanding s.closes s.answers.close (s.conn = none) s.pipe.awaited
  order : InOrder s.pipe s.up s.down
  entry : ∀ c, s.conn = some c → s.running = true ∧ c.cmdRx.closed = s.pipe.hasReturned
  gone : s.conn = none → s.running = false ∨ s.pipe.hasReturned = true
  serving : s.serving = true → s.conn.isSome = true

variable {s t : Session σ} {c : ConnState}

/-- A direction that has begun and not returned runs inside `join!`. -/
theorem Flight.join_of_up (h : Flight s) {up : UpPoint} (hup : s.up = up) (hread : up ≠ .read)
    (hret : up.hasReturned = false) : s.pipe = .join := by
  rw [← hup] at hread hret
  exact h.order.join_of_up hread hret

theorem Flight.join_of_down (h : Flight s) {down : DownPoint} (hdown : s.down = down)
    (hread : down ≠ .read) (hret : down.hasReturned = false) : s.pipe = .join := by
  rw [← hdown] at hread hret
  exact h.order.join_of_down hread hret

theorem Flight.at_down (h : Flight s) {down : DownPoint} (hdown : s.down = down) (hread : down ≠ .read)
    (hret : down.hasReturned = false) : s.pipe = .join ∧
      Oneshot.Outstanding s.writes s.answers.write (s.conn = none) down.awaitedWrite ∧
      Oneshot.Outstanding s.closeWrites s.answers.closeWrite (s.conn = none) down.awaitedCloseWrite := by
  refine ⟨h.join_of_down hdown hread hret, ?_, ?_⟩
  · rw [← hdown]
    exact h.writes
  · rw [← hdown]
    exact h.closeWrites

/-- While `copy_to_vconn` is under way a running actor has the entry. -/
theorem Flight.conn_of_down (h : Flight s) {down : DownPoint} (hdown : s.down = down)
    (hread : down ≠ .read) (hret : down.hasReturned = false) (hrun : s.running = true) :
    s.conn ≠ none := by
  intro hconn
  have hpipe := h.join_of_down hdown hread hret
  rcases h.gone hconn with hstop | hreturned
  · simp [hstop] at hrun
  · simp [hpipe, PipePoint.hasReturned] at hreturned

theorem callers_read (s : Session σ) (request : Nat × ReplyId) (reply : ReplyId)
    (h : s.up.awaited = some (request, reply)) :
    reply = request.2 ∧ s.callers.readClosed reply = false := by
  rcases hup : s.up with _ | reply' | _ | _ | _ <;> rw [hup] at h <;> cases h
  exact ⟨rfl, by simp [callers, hup]⟩

theorem callers_write (s : Session σ) (request : List UInt8 × ReplyId) (reply : ReplyId)
    (h : s.down.awaitedWrite = some (request, reply)) :
    reply = request.2 ∧ s.callers.writeClosed reply = false := by
  rcases hdown : s.down with _ | _ | ⟨buf, written, reply'⟩ | _ | _ | _ <;> rw [hdown] at h <;> cases h
  exact ⟨rfl, by simp [callers, hdown]⟩

/-- What one operation of the actor on a connection's entry has to keep. -/
theorem Flight.install {w : Service (Traced σ)} (h : Flight s)
    (hconn : s.conn = some c)
    (hreads : Oneshot.Outstanding w.conn.reads w.answers.read False s.up.awaited)
    (hwrites : Oneshot.Outstanding w.conn.writes w.answers.write False s.down.awaitedWrite)
    (hcloseWrites : Oneshot.Outstanding w.conn.closeWrites w.answers.closeWrite False
      s.down.awaitedCloseWrite)
    (hcloses : Oneshot.Outstanding w.conn.closes w.answers.close False s.pipe.awaited)
    (hclosed : w.conn.cmdRx.closed = c.cmdRx.closed) : Flight (s.install w) where
  reads := by simpa [Session.install, Session.reads] using hreads
  writes := by simpa [Session.install, Session.writes] using hwrites
  closeWrites := by simpa [Session.install, Session.closeWrites] using hcloseWrites
  closes := by simpa [Session.install, Session.closes] using hcloses
  order := h.order
  entry c' hc := by
    cases hc
    rw [hclosed]
    exact h.entry c hconn
  gone := nofun
  serving _ := rfl

theorem dropVConn_conn_eq_none (s : Session σ) : s.dropVConn.conn = none ↔ s.conn = none := by
  simp [dropVConn]

section Requests

variable {ρ β : Type} {requests : ConnState → List ρ} {ofCmd : ConnCmd → Option ρ} {answers : List (ReplyId × β)}
  {awaited : Option (ρ × ReplyId)}

/-- What a pushed command adds to the requests of its kind. -/
theorem pushed_requests (h : ConnState.OfKind requests ofCmd) (hconn : s.conn = some c) (cmd : ConnCmd) :
    (s.pushed c cmd).conn.elim [] requests = s.conn.elim [] requests ++ (ofCmd cmd).toList := by
  rw [hconn]
  exact h.push c cmd

theorem dropVConn_requests (h : ConnState.OfKind requests ofCmd) (s : Session σ) :
    s.dropVConn.conn.elim [] requests = s.conn.elim [] requests := by
  rcases hconn : s.conn with _ | c
  · simp [dropVConn, hconn]
  · simpa [dropVConn, hconn] using h.close c

theorem outstanding_pushed (h : ConnState.OfKind requests ofCmd) (hconn : s.conn = some c) {cmd : ConnCmd}
    (hout : Oneshot.Outstanding (s.conn.elim [] requests ++ (ofCmd cmd).toList) answers False awaited) :
    Oneshot.Outstanding ((s.pushed c cmd).conn.elim [] requests) answers ((s.pushed c cmd).conn = none) awaited := by
  have hsome : ((s.pushed c cmd).conn = none) = False := by simp [pushed]
  rw [pushed_requests h hconn, hsome]
  exact hout

theorem outstanding_dropVConn (h : ConnState.OfKind requests ofCmd)
    (hout : Oneshot.Outstanding (s.conn.elim [] requests) answers (s.conn = none) awaited) :
    Oneshot.Outstanding (s.dropVConn.conn.elim [] requests) answers (s.dropVConn.conn = none) awaited := by
  rw [dropVConn_requests h, dropVConn_conn_eq_none]
  exact hout

end Requests

theorem Flight.setServing (h : Flight s) (b : Bool) (hb : b = true → s.conn.isSome = true) :
    Flight { s with serving := b } :=
  { h with serving := hb }

/-- `pipe` returns and its VConns are dropped. -/
theorem Flight.dropped (h : Flight s) (result : Except RelayError Unit) (writer : List WriterCall)
    (horder : InOrder (.returned result) s.up s.down) (hcloses : s.closes = [])
    (hanswers : s.answers.close = []) :
    Flight { s.dropVConn with writer := writer, pipe := .returned result } where
  reads := outstanding_dropVConn ConnState.reads_ofKind h.reads
  writes := outstanding_dropVConn ConnState.writes_ofKind h.writes
  closeWrites := outstanding_dropVConn ConnState.closeWrites_ofKind h.closeWrites
  closes := ⟨(dropVConn_requests ConnState.closes_ofKind s).trans hcloses, hanswers⟩
  order := horder
  entry c hc := by
    obtain ⟨c', hconn, rfl⟩ := Option.map_eq_some_iff.mp hc
    exact ⟨(h.entry c' hconn).1, rfl⟩
  gone _ := Or.inr rfl
  serving hserving := by
    have := h.serving hserving
    simpa [dropVConn] using this

variable [TcpSocket σ]

theorem Flight.installCmd {cmd : ConnCmd} {rest : List ConnCmd} (h : Flight s)
    (hconn : s.conn = some c) (hqueue : c.cmdRx.queue = cmd :: rest) :
    Flight (s.install (Service.handleCmd (Service.setQueue ⟨c, s.socket, s.answers⟩ rest) cmd)) := by
  have hreads := h.reads.of_some hconn
  have hwrites := h.writes.of_some hconn
  obtain ⟨hr, hra⟩ := Service.handleCmd_reads (v := ⟨c, s.socket, s.answers⟩) hqueue hreads
  obtain ⟨hw, hwa⟩ := Service.handleCmd_writes (v := ⟨c, s.socket, s.answers⟩) hqueue hwrites
  refine h.install hconn ?_ ?_ ?_ ?_ ?_
  · rw [hr, hra]
    exact hreads
  · rw [hw, hwa]
    exact hwrites
  · exact Service.handleCmd_closeWrites (v := ⟨c, s.socket, s.answers⟩) hqueue
      (h.closeWrites.of_some hconn) (DownPoint.awaitedCloseWrite_reply s.down)
  · exact Service.handleCmd_closes (v := ⟨c, s.socket, s.answers⟩) hqueue
      (h.closes.of_some hconn) (PipePoint.awaited_reply s.pipe)
  · rw [Service.cmdRx_handleCmd]
    rfl

/-- A property of sessions that every part of a service round keeps. -/
structure KeptByService (I : Session σ → Prop) : Prop where
  read : ∀ {s c w}, I s → s.conn = some c →
    Service.ReadStep s.callers ⟨c, s.socket, s.answers⟩ w → I (s.install w)
  write : ∀ {s c w}, I s → s.conn = some c →
    Service.WriteStep s.callers ⟨c, s.socket, s.answers⟩ w → I (s.install w)
  cmd : ∀ {s c cmd rest}, I s → s.conn = some c → c.cmdRx.queue = cmd :: rest →
    I (s.install (Service.handleCmd (Service.setQueue ⟨c, s.socket, s.answers⟩ rest) cmd))
  serving : ∀ {s} (b : Bool), I s → (b = true → s.conn.isSome = true) → I { s with serving := b }

section Service

variable [LawfulTcpSocket σ] {I : Session σ → Prop}

theorem KeptByService.serviceIo (h : KeptByService I) (hs : I s) (hconn : s.conn = some c) :
    I (s.install (Service.serviceIo s.callers ⟨c, s.socket, s.answers⟩)) := by
  have hread := h.read hs hconn (Service.serviceRead_step s.callers ⟨c, s.socket, s.answers⟩)
  exact h.write (s := s.install (Service.serviceRead s.callers ⟨c, s.socket, s.answers⟩)) hread rfl
    (Service.serviceWrite_step s.callers _)

theorem KeptByService.serviceBegin (h : KeptByService I) (hs : I s) (hstep : s.serviceBegin = some t) :
    I t := by
  obtain ⟨c, hconn, _, rfl⟩ := serviceBegin_cases hstep
  exact h.serving true (h.serviceIo hs hconn) fun _ => rfl

theorem KeptByService.serviceNext (h : KeptByService I) (hs : I s) (hstep : s.serviceNext = some t) :
    I t := by
  obtain ⟨c, cmd, rest, hconn, _, hqueue, rfl⟩ := serviceNext_cases hstep
  exact h.serviceIo (s := s.install (Service.handleCmd _ cmd)) (h.cmd hs hconn hqueue) rfl

theorem Flight.installRead (h : Flight s) (hconn : s.conn = some c)
    {w : Service (Traced σ)}
    (hstep : Service.ReadStep s.callers ⟨c, s.socket, s.answers⟩ w) : Flight (s.install w) := by
  have hframe := hstep.frame
  refine h.install hconn (hstep.outstanding (h.reads.of_some hconn) (callers_read s)) ?_ ?_ ?_
    (by rw [hframe.cmdRx])
  · simpa [ConnState.writes, hframe.cmdRx, hframe.write, hframe.answersWrite]
      using h.writes.of_some hconn
  · simpa [ConnState.closeWrites, hframe.cmdRx, hframe.answersCloseWrite]
      using h.closeWrites.of_some hconn
  · simpa [ConnState.closes, hframe.cmdRx, hframe.answersClose] using h.closes.of_some hconn

theorem Flight.installWrite (h : Flight s) (hconn : s.conn = some c)
    {w : Service (Traced σ)}
    (hstep : Service.WriteStep s.callers ⟨c, s.socket, s.answers⟩ w) : Flight (s.install w) := by
  have hframe := hstep.frame
  refine h.install hconn ?_ (hstep.outstanding (h.writes.of_some hconn) (callers_write s)) ?_ ?_
    (by rw [hframe.cmdRx])
  · simpa [ConnState.reads, hframe.cmdRx, hframe.read, hframe.answersRead] using h.reads.of_some hconn
  · simpa [ConnState.closeWrites, hframe.cmdRx, hframe.answersCloseWrite]
      using h.closeWrites.of_some hconn
  · simpa [ConnState.closes, hframe.cmdRx, hframe.answersClose] using h.closes.of_some hconn

theorem keptByService_flight : KeptByService (Flight (σ := σ)) where
  read h hconn hstep := h.installRead hconn hstep
  write h hconn hstep := h.installWrite hconn hstep
  cmd h hconn hqueue := h.installCmd hconn hqueue
  serving b h hb := h.setServing b hb

end Service

omit [TcpSocket σ] in
/-- Once `pipe` has returned neither direction awaits anything. -/
theorem Flight.idle_of_returned (h : Flight s) (hret : s.pipe.hasReturned = true) :
    s.up.awaited = none ∧ s.down.awaitedWrite = none ∧ s.down.awaitedCloseWrite = none ∧
      s.pipe.awaited = none := by
  have horder := h.order
  rcases hpipe : s.pipe with _ | _ | _ | _ | (e | _) <;> rw [hpipe] at hret horder <;> cases hret
  · rw [horder.1, horder.2]
    exact ⟨rfl, rfl, rfl, rfl⟩
  · obtain ⟨hup, hdown⟩ := horder
    obtain ⟨hwrite, hcloseWrite⟩ := DownPoint.awaited_of_returned hdown
    exact ⟨UpPoint.awaited_of_returned hup, hwrite, hcloseWrite, rfl⟩

omit [TcpSocket σ] in
/-- What nobody awaits is not parked. -/
theorem Flight.read_eq_none (h : Flight s) (hconn : s.conn = some c) (hawaited : s.up.awaited = none) :
    c.read = none := by
  have hreads := h.reads.of_some hconn
  rw [hawaited] at hreads
  rcases hread : c.read with _ | read
  · rfl
  · cases (Service.reads_eq_cons hread).symm.trans hreads.1

omit [TcpSocket σ] in
theorem Flight.write_eq_none (h : Flight s) (hconn : s.conn = some c) (hawaited : s.down.awaitedWrite = none) :
    c.write = none := by
  have hwrites := h.writes.of_some hconn
  rw [hawaited] at hwrites
  rcases hwrite : c.write with _ | write
  · rfl
  · cases (Service.writes_eq_cons hwrite).symm.trans hwrites.1

omit [TcpSocket σ] in
/-- An entry is dropped with nothing parked, so that `fail_pending` has nothing to fail. -/
theorem Flight.failPending_of_closed (h : Flight s) (hconn : s.conn = some c)
    (hclosed : c.cmdRx.closed = true) :
    Service.failPending ⟨c, s.socket, s.answers⟩ = ⟨c, s.socket, s.answers⟩ := by
  have hret : s.pipe.hasReturned = true := (h.entry c hconn).2 ▸ hclosed
  obtain ⟨hup, hdown, _, _⟩ := h.idle_of_returned hret
  simp [Service.failPending, h.read_eq_none hconn hup, h.write_eq_none hconn hdown]

omit [TcpSocket σ] in
/-- A command goes on the channel and the sender moves to a point that awaits its reply. -/
theorem Flight.pushed (h : Flight s) (hconn : s.conn = some c) (cmd : ConnCmd) {up : UpPoint}
    {down : DownPoint} {pipe : PipePoint} (horder : InOrder pipe up down)
    (hret : pipe.hasReturned = s.pipe.hasReturned)
    (hreads : Oneshot.Outstanding (s.reads ++ cmd.asRead.toList) s.answers.read False up.awaited)
    (hwrites : Oneshot.Outstanding (s.writes ++ cmd.asWrite.toList) s.answers.write False
      down.awaitedWrite)
    (hcloseWrites : Oneshot.Outstanding (s.closeWrites ++ cmd.asCloseWrite.toList)
      s.answers.closeWrite False down.awaitedCloseWrite)
    (hcloses : Oneshot.Outstanding (s.closes ++ cmd.asClose.toList) s.answers.close False
      pipe.awaited) :
    Flight { s.pushed c cmd with up := up, down := down, pipe := pipe } where
  reads := outstanding_pushed ConnState.reads_ofKind hconn hreads
  writes := outstanding_pushed ConnState.writes_ofKind hconn hwrites
  closeWrites := outstanding_pushed ConnState.closeWrites_ofKind hconn hcloseWrites
  closes := outstanding_pushed ConnState.closes_ofKind hconn hcloses
  order := horder
  entry c' hc := by
    cases hc
    exact ⟨(h.entry c hconn).1, (h.entry c hconn).2.trans hret.symm⟩
  gone := nofun
  serving _ := rfl

omit [TcpSocket σ] in
/-- The entry goes, and with it every request the actor holds. -/
theorem Flight.entryGone (h : Flight s) (socket : Traced σ) {running serving : Bool}
    (hgone : running = false ∨ s.pipe.hasReturned = true) (hserving : serving = false) :
    Flight { s with conn := none, socket := socket, running := running, serving := serving } where
  reads := h.reads.drop rfl
  writes := h.writes.drop rfl
  closeWrites := h.closeWrites.drop rfl
  closes := h.closes.drop rfl
  order := h.order
  entry := nofun
  gone _ := hgone
  serving hs := by simp [hserving] at hs

omit [TcpSocket σ] in
theorem Flight.moveUp (h : Flight s) (hpipe : s.pipe = .join) (writer : List WriterCall) {up : UpPoint}
    (hawaited : up.awaited = s.up.awaited) : Flight { s with up := up, writer := writer } := by
  have hreads := h.reads
  rw [← hawaited] at hreads
  exact { h with reads := hreads, order := InOrder.of_join hpipe _ _ }

omit [TcpSocket σ] in
theorem Flight.moveDown (h : Flight s) (hpipe : s.pipe = .join) (received incoming : List UInt8)
    {down : DownPoint} (hwrite : down.awaitedWrite = s.down.awaitedWrite)
    (hcloseWrite : down.awaitedCloseWrite = s.down.awaitedCloseWrite) :
    Flight { s with down := down, received := received, incoming := incoming } := by
  have hwrites := h.writes
  have hcloseWrites := h.closeWrites
  rw [← hwrite] at hwrites
  rw [← hcloseWrite] at hcloseWrites
  exact { h with
    writes := hwrites, closeWrites := hcloseWrites, order := InOrder.of_join hpipe _ _ }

omit [TcpSocket σ] in
theorem Flight.movePipe (h : Flight s) {pipe : PipePoint} (horder : InOrder pipe s.up s.down)
    (hret : pipe.hasReturned = s.pipe.hasReturned) (hawaited : pipe.awaited = s.pipe.awaited) :
    Flight { s with pipe := pipe } := by
  have hcloses := h.closes
  rw [← hawaited] at hcloses
  refine { h with closes := hcloses, order := horder, entry := ?_, gone := ?_ }
  · intro c hc
    rw [hret]
    exact h.entry c hc
  · intro hc
    rw [hret]
    exact h.gone hc

variable [LawfulTcpSocket σ] {a : SessionAction σ}

/-- Every step keeps the discipline. -/
theorem Flight.step (h : Flight s) (hstep : s.step a = some t) : Flight t := by
  cases step_move hstep with
  | poll socket arrived rest => exact { h with }
  | serviceBegin _ hbegin => exact keptByService_flight.serviceBegin h hbegin
  | serviceNext _ hnext => exact keptByService_flight.serviceNext h hnext
  | serviceEnd c hconn => exact h.setServing false nofun
  | serviceDrop c hconn hserving hqueue hclosed =>
      rw [h.failPending_of_closed hconn hclosed]
      exact h.entryGone _ (Or.inr ((h.entry c hconn).2 ▸ hclosed)) rfl
  | stop hrun hserving => exact h.entryGone s.socket (Or.inl rfl) hserving
  | connect hpipe => exact h.movePipe trivial (by rw [hpipe]; rfl) (by rw [hpipe]; rfl)
  | connectFail e hpipe =>
      have hcloses := h.closes
      have horder := h.order
      rw [hpipe] at hcloses horder
      exact h.dropped (.error (.dial s.vconn.destination e)) s.writer horder hcloses.1 hcloses.2
  | readSend c hpipe hup hconn =>
      have hreads := h.reads
      rw [hup] at hreads
      refine h.pushed hconn (.read RELAY_BUF s.nextReply) (InOrder.of_join hpipe _ _) rfl
        (hreads.send _ _) ?_ ?_ ?_
      · exact h.writes.append_nil (by simp [hconn])
      · exact h.closeWrites.append_nil (by simp [hconn])
      · exact h.closes.append_nil (by simp [hconn])
  | readGone hpipe hup hconn => exact h.moveUp hpipe s.writer (by rw [hup]; rfl)
  | readRecv reply result rest hup hawait =>
      have hpipe := h.join_of_up hup nofun rfl
      have hreads := h.reads
      rw [hup] at hreads
      obtain ⟨hnil, rfl, _⟩ := hreads.await_cases (fun hheld => by simp [hheld]) hawait
      refine { h with reads := ?_, order := InOrder.of_join hpipe _ _ }
      change Oneshot.Outstanding s.reads [] (s.conn = none) (UpPoint.afterRead result).awaited
      rw [UpPoint.awaited_afterRead]
      exact ⟨hnil, rfl⟩
  | writeSome n rest hup =>
      refine h.moveUp (h.join_of_up hup nofun rfl) _ ?_
      rw [hup]
      split <;> rfl
  | writeFail e rest hup => exact h.moveUp (h.join_of_up hup nofun rfl) s.writer (by rw [hup]; rfl)
  | flush hup => exact h.moveUp (h.join_of_up hup nofun rfl) _ (by rw [hup]; rfl)
  | srcRead n chunk rest hpipe hdown =>
      exact h.moveDown hpipe _ _ (by rw [hdown]; rfl) (by rw [hdown]; rfl)
  | srcEof hpipe hdown =>
      exact h.moveDown hpipe s.received s.incoming (by rw [hdown]; rfl) (by rw [hdown]; rfl)
  | srcFail e hpipe hdown =>
      exact h.moveDown hpipe s.received s.incoming (by rw [hdown]; rfl) (by rw [hdown]; rfl)
  | writeSend c buf written hdown hconn =>
      obtain ⟨hpipe, hwrites, hcloseWrites⟩ := h.at_down hdown nofun rfl
      refine h.pushed hconn (.write (buf.drop written) s.nextReply) (InOrder.of_join hpipe _ _) rfl
        ?_ (hwrites.send _ _) ?_ ?_
      · exact h.reads.append_nil (by simp [hconn])
      · exact hcloseWrites.append_nil (by simp [hconn])
      · exact h.closes.append_nil (by simp [hconn])
  | writeGone buf written hdown hconn =>
      exact h.moveDown (h.join_of_down hdown nofun rfl) s.received s.incoming (by rw [hdown]; rfl)
        (by rw [hdown]; rfl)
  | writeRecv buf written reply result rest hdown hawait =>
      obtain ⟨hpipe, hwrites, hcloseWrites⟩ := h.at_down hdown nofun rfl
      obtain ⟨hnil, rfl, _⟩ := hwrites.await_cases (fun hheld => by simp [hheld]) hawait
      obtain ⟨hw, hcw⟩ := DownPoint.awaited_afterWrite buf written result
      refine { h with writes := ?_, closeWrites := ?_, order := InOrder.of_join hpipe _ _ }
      · change Oneshot.Outstanding s.writes [] (s.conn = none) _
        rw [hw]
        exact ⟨hnil, rfl⟩
      · change Oneshot.Outstanding s.closeWrites s.answers.closeWrite (s.conn = none) _
        rw [hcw]
        exact hcloseWrites
  | closeWriteSend c hdown hconn =>
      obtain ⟨hpipe, hwrites, hcloseWrites⟩ := h.at_down hdown nofun rfl
      refine h.pushed hconn (.closeWrite s.nextReply) (InOrder.of_join hpipe _ _) rfl ?_ ?_
        (hcloseWrites.send _ _) ?_
      · exact h.reads.append_nil (by simp [hconn])
      · exact hwrites.append_nil (by simp [hconn])
      · exact h.closes.append_nil (by simp [hconn])
  | closeWriteGone hdown hconn =>
      exact h.moveDown (h.join_of_down hdown nofun rfl) s.received s.incoming (by rw [hdown]; rfl)
        (by rw [hdown]; rfl)
  | closeWriteRecv reply result rest hdown hawait =>
      obtain ⟨hpipe, hwrites, hcloseWrites⟩ := h.at_down hdown nofun rfl
      obtain ⟨hnil, rfl, _⟩ := hcloseWrites.await_cases (fun hheld => by simp [hheld]) hawait
      exact { h with
        writes := hwrites, closeWrites := ⟨hnil, rfl⟩, order := InOrder.of_join hpipe _ _ }
  | join hpipe hup hdown => exact h.movePipe ⟨hup, hdown⟩ (by rw [hpipe]; rfl) (by rw [hpipe]; rfl)
  | closeSend c hpipe hconn =>
      have hcloses := h.closes
      have horder := h.order
      rw [hpipe] at hcloses horder
      refine h.pushed hconn (.close s.nextReply) horder (by rw [hpipe]; rfl) ?_ ?_ ?_ (hcloses.send _ _)
      · exact h.reads.append_nil (by simp [hconn])
      · exact h.writes.append_nil (by simp [hconn])
      · exact h.closeWrites.append_nil (by simp [hconn])
  | closeGone hpipe hconn =>
      have hcloses := h.closes
      have horder := h.order
      rw [hpipe] at hcloses horder
      exact h.dropped (.ok ()) _ horder hcloses.1 hcloses.2
  | closeRecv reply result rest hpipe hawait =>
      have hcloses := h.closes
      have horder := h.order
      rw [hpipe] at hcloses horder
      obtain ⟨hnil, rfl, _⟩ := hcloses.await_cases (fun hheld => by simp [hheld]) hawait
      have hs : Flight { s with answers := { s.answers with close := [] }, pipe := .close } :=
        { h with
          closes := ⟨hnil, rfl⟩
          order := horder
          entry := fun c hc => by simpa [hpipe, PipePoint.hasReturned] using h.entry c hc
          gone := fun hc => by simpa [hpipe, PipePoint.hasReturned] using h.gone hc }
      exact hs.dropped (.ok ()) _ horder hnil rfl

omit [TcpSocket σ] [LawfulTcpSocket σ] in
theorem Flight.accepted (vconn : VConn) (socket : σ) (client incoming : List UInt8) :
    Flight (Session.accepted vconn socket client incoming) where
  reads := ⟨rfl, rfl⟩
  writes := ⟨rfl, rfl⟩
  closeWrites := ⟨rfl, rfl⟩
  closes := ⟨rfl, rfl⟩
  order := ⟨rfl, rfl⟩
  entry c hc := by
    cases hc
    exact ⟨rfl, rfl⟩
  gone := nofun
  serving := nofun

end Session

end SmoltcpSocks
