import SmoltcpSocks.ServiceRound
import SmoltcpSocks.Runs

/-! One connection over a whole run. Between two calls of `service` any clone of its `VConn` sends a
command, callers drop their reply receivers, and a poll of the interface delivers bytes into the receive
buffer and takes acknowledged ones off the transmit buffer. -/

namespace SmoltcpSocks

open TcpSocket

/-- The actor's side of the connection and its callers. -/
structure Connection (σ : Type) where
  side : Service σ
  callers : Callers

inductive ConnectionAction (σ : Type) where
  /-- A command goes onto the channel. -/
  | send (cmd : ConnCmd)
  /-- The last `VConn` is dropped. -/
  | hangUp
  /-- The caller of a read drops its reply receiver. -/
  | cancelRead (reply : ReplyId)
  /-- The caller of a write drops its reply receiver. -/
  | cancelWrite (reply : ReplyId)
  /-- A poll of the interface leaves the socket as `socket`. -/
  | poll (socket : σ) (arrived acked : List UInt8)
  | service

namespace ConnectionAction

variable {σ : Type}

def asRead : ConnectionAction σ → Option (Nat × ReplyId)
  | .send cmd => cmd.asRead
  | _ => none

def asWrite : ConnectionAction σ → Option (List UInt8 × ReplyId)
  | .send cmd => cmd.asWrite
  | _ => none

def arrived : ConnectionAction σ → List UInt8
  | .poll _ arrived _ => arrived
  | _ => []

def acked : ConnectionAction σ → List UInt8
  | .poll _ _ acked => acked
  | _ => []

end ConnectionAction

namespace Callers

def cancelRead (callers : Callers) (reply : ReplyId) : Callers :=
  { callers with readClosed := fun r => r = reply || callers.readClosed r }

def cancelWrite (callers : Callers) (reply : ReplyId) : Callers :=
  { callers with writeClosed := fun r => r = reply || callers.writeClosed r }

end Callers

namespace Connection

open Service

variable {σ : Type}

/-- A connection that was just accepted; its socket may hold data already. -/
def new (chan : ChanId) (socket : σ) : Connection σ :=
  ⟨⟨ConnState.new ⟨chan, [], false⟩, socket, Answers.none⟩, ⟨fun _ => false, fun _ => false⟩⟩

variable [TcpSocket σ]

def step (c : Connection σ) : ConnectionAction σ → Option (Connection σ)
  | .send cmd =>
      let rx := c.side.conn.cmdRx
      if rx.closed = false ∧ rx.queue.length < CMD_CAPACITY then
        some { c with side.conn.cmdRx := rx.push cmd }
      else none
  | .hangUp => some { c with side.conn.cmdRx := c.side.conn.cmdRx.close }
  | .cancelRead reply => some { c with callers := c.callers.cancelRead reply }
  | .cancelWrite reply => some { c with callers := c.callers.cancelWrite reply }
  | .poll socket _ _ => some { c with side.socket := socket }
  | .service => some { c with side := Service.service c.callers c.side }

/-- A poll delivers bytes at the end of the receive buffer and takes acknowledged ones off the front of
the transmit buffer. -/
def InOrder (c : Connection σ) : ConnectionAction σ → Prop
  | .poll socket arrived acked =>
      rxBuffer socket = rxBuffer c.side.socket ++ arrived ∧ txBuffer c.side.socket = acked ++ txBuffer socket
  | _ => True

def StaysClosed (c : Connection σ) : ConnectionAction σ → Prop
  | .poll socket _ _ => state c.side.socket = .closed → state socket = .closed
  | _ => True

instance (c : Connection σ) : (action : ConnectionAction σ) → Decidable (c.InOrder action)
  | .poll _ _ _ => inferInstanceAs (Decidable (_ ∧ _))
  | .send _ | .hangUp | .cancelRead _ | .cancelWrite _ | .service => inferInstanceAs (Decidable True)

instance (c : Connection σ) : (action : ConnectionAction σ) → Decidable (c.StaysClosed action)
  | .poll _ _ _ => inferInstanceAs (Decidable (_ → _))
  | .send _ | .hangUp | .cancelRead _ | .cancelWrite _ | .service => inferInstanceAs (Decidable True)

/-- The bytes and the requests of a connection whose socket was `socket` when it was accepted. -/
structure Conserved (socket : σ) (trace : List (ConnectionAction σ)) (c : Connection σ) : Prop where
  received : c.side.answers.read.flatMap readBytes ++ rxBuffer c.side.socket =
    rxBuffer socket ++ trace.flatMap ConnectionAction.arrived
  reads : ∃ answered, c.side.answers.read = answered.map Prod.snd ∧
    Ledger.Balanced (ReadAnswer fun _ => True) (fun request => c.callers.readClosed request.2 = true)
      (trace.filterMap ConnectionAction.asRead) c.side.conn.reads answered
  writes : ∃ answered, c.side.answers.write = answered.map Prod.snd ∧
    Ledger.Balanced (WriteAnswer fun _ => True) (fun request => c.callers.writeClosed request.2 = true)
      (trace.filterMap ConnectionAction.asWrite) c.side.conn.writes answered ∧
    trace.flatMap ConnectionAction.acked ++ txBuffer c.side.socket =
      txBuffer socket ++ answered.flatMap writeBytes

variable {c d : Connection σ} {socket : σ} {trace : List (ConnectionAction σ)} {action : ConnectionAction σ}

def ReadsConserved (socket : σ) (trace : List (ConnectionAction σ)) (c : Connection σ) : Prop :=
  ∃ handed, handed ++ rxBuffer c.side.socket = rxBuffer socket ++ trace.flatMap ConnectionAction.arrived ∧
    ReadAccount c.callers (fun _ => True) (trace.filterMap ConnectionAction.asRead) [] handed c.side

def WritesConserved (socket : σ) (trace : List (ConnectionAction σ)) (c : Connection σ) : Prop :=
  ∃ enqueued, trace.flatMap ConnectionAction.acked ++ txBuffer c.side.socket = txBuffer socket ++ enqueued ∧
    WriteAccount c.callers (fun _ => True) (trace.filterMap ConnectionAction.asWrite) [] enqueued c.side

theorem step_send {cmd : ConnCmd} (h : c.step (.send cmd) = some d) :
    d = { c with side.conn.cmdRx := c.side.conn.cmdRx.push cmd } := by
  simp only [step] at h
  split at h
  · exact (Option.some.inj h).symm
  · cases h

theorem ReadsConserved.snoc {handed : List UInt8}
    (hbytes : handed ++ rxBuffer d.side.socket =
      rxBuffer socket ++ trace.flatMap ConnectionAction.arrived ++ action.arrived)
    (hacc : ReadAccount d.callers (fun _ => True)
      (trace.filterMap ConnectionAction.asRead ++ action.asRead.toList) [] handed d.side) :
    ReadsConserved socket (trace ++ [action]) d := by
  refine ⟨handed, ?_, ?_⟩
  · rw [hbytes, List.flatMap_append, List.flatMap_singleton, List.append_assoc]
  · rcases haction : action.asRead <;> simpa [haction] using hacc

theorem WritesConserved.snoc {enqueued : List UInt8}
    (hbytes : trace.flatMap ConnectionAction.acked ++ (action.acked ++ txBuffer d.side.socket) =
      txBuffer socket ++ enqueued)
    (hacc : WriteAccount d.callers (fun _ => True)
      (trace.filterMap ConnectionAction.asWrite ++ action.asWrite.toList) [] enqueued d.side) :
    WritesConserved socket (trace ++ [action]) d := by
  refine ⟨enqueued, ?_, ?_⟩
  · rw [← hbytes, List.flatMap_append, List.flatMap_singleton, List.append_assoc]
  · rcases haction : action.asWrite <;> simpa [haction] using hacc

theorem ReadsConserved.other {handed : List UInt8} (hother : action.asRead = none)
    (hbytes : handed ++ rxBuffer d.side.socket =
      rxBuffer socket ++ trace.flatMap ConnectionAction.arrived ++ action.arrived)
    (hacc : ReadAccount d.callers (fun _ => True) (trace.filterMap ConnectionAction.asRead) [] handed d.side) :
    ReadsConserved socket (trace ++ [action]) d := by
  refine .snoc hbytes ?_
  rw [hother, Option.toList_none, List.append_nil]
  exact hacc

theorem WritesConserved.other {enqueued : List UInt8} (hother : action.asWrite = none)
    (hbytes : trace.flatMap ConnectionAction.acked ++ (action.acked ++ txBuffer d.side.socket) =
      txBuffer socket ++ enqueued)
    (hacc : WriteAccount d.callers (fun _ => True) (trace.filterMap ConnectionAction.asWrite) [] enqueued
      d.side) :
    WritesConserved socket (trace ++ [action]) d := by
  refine .snoc hbytes ?_
  rw [hother, Option.toList_none, List.append_nil]
  exact hacc

variable [LawfulTcpSocket σ]

theorem ReadsConserved.step (h : ReadsConserved socket trace c) (horder : c.InOrder action)
    (hstep : c.step action = some d) : ReadsConserved socket (trace ++ [action]) d := by
  obtain ⟨handed, hbytes, hacc⟩ := h
  cases action with
  | send cmd =>
      rw [step_send hstep]
      refine .snoc (by simpa [ConnectionAction.arrived] using hbytes) ?_
      rw [ReadAccount, ConnState.reads_ofKind.push]
      exact hacc.requestOption cmd.asRead
  | hangUp | cancelWrite =>
      cases hstep
      exact .other rfl (by simpa [ConnectionAction.arrived] using hbytes) hacc
  | cancelRead reply =>
      cases hstep
      refine .other rfl (by simpa [ConnectionAction.arrived] using hbytes) ?_
      refine hacc.mono fun request hclosed => ?_
      simp [Callers.cancelRead, hclosed]
  | poll next arrived acked =>
      cases hstep
      refine .other rfl ?_ hacc
      rw [horder.1, ← List.append_assoc, hbytes]
      rfl
  | service =>
      cases hstep
      obtain ⟨chunk, hrx, hnext⟩ := hacc.service fun _ _ => trivial
      refine .other rfl ?_ hnext
      simp [ConnectionAction.arrived, ← hbytes, hrx]

theorem WritesConserved.step (h : WritesConserved socket trace c) (horder : c.InOrder action)
    (hstep : c.step action = some d) : WritesConserved socket (trace ++ [action]) d := by
  obtain ⟨enqueued, hbytes, hacc⟩ := h
  cases action with
  | send cmd =>
      rw [step_send hstep]
      refine .snoc (by simpa [ConnectionAction.acked] using hbytes) ?_
      rw [WriteAccount, ConnState.writes_ofKind.push]
      exact hacc.requestOption cmd.asWrite
  | hangUp | cancelRead =>
      cases hstep
      exact .other rfl (by simpa [ConnectionAction.acked] using hbytes) hacc
  | cancelWrite reply =>
      cases hstep
      refine .other rfl (by simpa [ConnectionAction.acked] using hbytes) ?_
      refine hacc.mono fun request hclosed => ?_
      simp [Callers.cancelWrite, hclosed]
  | poll next arrived acked =>
      cases hstep
      refine .other rfl ?_ hacc
      rw [ConnectionAction.acked, ← horder.2]
      exact hbytes
  | service =>
      cases hstep
      obtain ⟨chunk, htx, hnext⟩ := hacc.service fun _ _ => trivial
      refine .other rfl ?_ hnext
      rw [htx, ← List.append_assoc (txBuffer socket), ← hbytes]
      simp [ConnectionAction.acked]

/-- What is cancelled in `c` is still so in `d`, and nothing but errors were sent on its reply channel in
between. -/
structure Unheard (c d : Connection σ) : Prop where
  readClosed : ∀ reply, c.callers.readClosed reply = true → d.callers.readClosed reply = true
  writeClosed : ∀ reply, c.callers.writeClosed reply = true → d.callers.writeClosed reply = true
  reads : ∀ reply, c.callers.readClosed reply = true →
    okReplies reply d.side.answers.read = okReplies reply c.side.answers.read
  writes : ∀ reply, c.callers.writeClosed reply = true →
    okReplies reply d.side.answers.write = okReplies reply c.side.answers.write

theorem unheard_of_run {allowed : Connection σ → ConnectionAction σ → Prop}
    (hrun : Transition.Run step allowed c trace d) : Unheard c d := by
  refine hrun.invariant ?_ ⟨fun _ h => h, fun _ h => h, fun _ _ => rfl, fun _ _ => rfl⟩
  rintro t action u ⟨hreadClosed, hwriteClosed, hreads, hwrites⟩ _ hstep
  cases action with
  | send cmd =>
      rw [step_send hstep]
      exact ⟨hreadClosed, hwriteClosed, hreads, hwrites⟩
  | hangUp | poll =>
      cases hstep
      exact ⟨hreadClosed, hwriteClosed, hreads, hwrites⟩
  | cancelRead cancelled =>
      cases hstep
      refine ⟨fun reply h => ?_, hwriteClosed, hreads, hwrites⟩
      simp [Callers.cancelRead, hreadClosed reply h]
  | cancelWrite cancelled =>
      cases hstep
      refine ⟨hreadClosed, fun reply h => ?_, hreads, hwrites⟩
      simp [Callers.cancelWrite, hwriteClosed reply h]
  | service =>
      cases hstep
      refine ⟨hreadClosed, hwriteClosed, fun reply h => ?_, fun reply h => ?_⟩
      · exact (okReplies_read_service t.side (hreadClosed reply h)).trans (hreads reply h)
      · exact (okReplies_write_service t.side (hwriteClosed reply h)).trans (hwrites reply h)

/-- No byte is lost or made up, whatever is cancelled: what the replies handed out and what is still in the
receive buffer is what arrived, and what was ever in the transmit buffer is what the replies say. A request
that is cancelled has no part in it from then on. -/
theorem bytes_conserved {chan : ChanId} (hrun : Transition.Run step InOrder (new chan socket) trace c) :
    Conserved socket trace c ∧
      ∀ {trace' : List (ConnectionAction σ)} {d}, Transition.Run step InOrder c trace' d → Unheard c d := by
  have hreads : ReadsConserved socket trace c := by
    refine hrun.history (fun _ _ _ _ h => h.step) ⟨[], by simp [new], ?_⟩
    exact Ledger.Account.start _ _ _ _ _
  have hwrites : WritesConserved socket trace c := by
    refine hrun.history (fun _ _ _ _ h => h.step) ⟨[], by simp [new], ?_⟩
    exact Ledger.Account.start _ _ _ _ _
  obtain ⟨_, hreceived, reads, hanswers, hbalanced, rfl⟩ := hreads
  obtain ⟨_, hsent, writes, hanswers', hbalanced', rfl⟩ := hwrites
  rw [List.nil_append] at hanswers hanswers'
  refine ⟨⟨?_, ⟨reads, hanswers, hbalanced⟩, ⟨writes, hanswers', hbalanced', hsent⟩⟩, unheard_of_run⟩
  rw [hanswers, List.flatMap_map]
  exact hreceived

/-- The second write waits for room and is cancelled before there is any. -/
theorem bytes_conserved_cancelled_write :
    let socket : BufferedSocket := ⟨.established, none, none, [1, 2], false, [], 2⟩
    let trace : List (ConnectionAction BufferedSocket) :=
      [.send (.read 2 0), .send (.write [7, 8, 9] 0), .send (.write [9] 1), .service, .cancelWrite 1,
        .poll { socket with rxBuffer := [3], txBuffer := [8] } [3] [7], .service]
    ∃ c, Transition.Run step InOrder (new 0 socket) trace c ∧ Conserved socket trace c ∧ c.side.conn.write = none ∧
      c.side.answers.read.flatMap readBytes = [1, 2] ∧ txBuffer c.side.socket = [8] := by
  intro socket trace
  have hexec : (Transition.execute step InOrder (new 0 socket) trace).any (fun c =>
      decide (c.side.conn.write = none ∧ c.side.answers.read.flatMap readBytes = [1, 2] ∧
        txBuffer c.side.socket = [8])) = true := by decide +kernel
  obtain ⟨c, hrun, hc⟩ := Transition.Run.exists_of_execute hexec
  exact ⟨c, hrun, (bytes_conserved hrun).1, of_decide_eq_true hc⟩

/-- On a closed socket nothing is parked after a round, and it stays closed. -/
theorem nothing_parked_service (hstate : state c.side.socket = .closed) :
    state (service c.callers c.side).socket = .closed ∧ (service c.callers c.side).conn.read = none ∧
      (service c.callers c.side).conn.write = none :=
  (settles_service c.callers c.side).closed (Or.inr hstate)

theorem closed_of_run (hrun : Transition.Run step StaysClosed c trace d)
    (hstate : state c.side.socket = .closed) : state d.side.socket = .closed := by
  refine hrun.invariant (I := fun d => state d.side.socket = .closed) ?_ hstate
  intro t action u ht hallowed hstep
  cases action with
  | send cmd =>
      rw [step_send hstep]
      exact ht
  | hangUp | cancelRead | cancelWrite =>
      cases hstep
      exact ht
  | poll socket =>
      cases hstep
      exact hallowed ht
  | service =>
      cases hstep
      exact (nothing_parked_service ht).1

/-- A round resolves everything that can be resolved, each request once, and behind a close nothing stays
parked at the end of a round. -/
theorem service_resolves : (∀ callers (v : Service σ), Settles callers v (service callers v)) ∧
    ∀ {c d : Connection σ} {trace : List (ConnectionAction σ)}, c.side.conn.closes ≠ [] →
      Transition.Run step StaysClosed { c with side := service c.callers c.side } trace d →
        (service c.callers c.side).conn.read = none ∧ (service c.callers c.side).conn.write = none ∧
        (service d.callers d.side).conn.read = none ∧ (service d.callers d.side).conn.write = none := by
  refine ⟨settles_service, ?_⟩
  intro c d trace hcloses hrun
  obtain ⟨hstate, hread, hwrite⟩ := (settles_service c.callers c.side).closed (Or.inl hcloses)
  exact ⟨hread, hwrite, (nothing_parked_service (closed_of_run hrun hstate)).2⟩

/-- A read waits for data and a write for room when the close is handled. -/
theorem service_resolves_close :
    let socket : BufferedSocket := ⟨.established, none, none, [], false, [1], 1⟩
    let rx : CmdReceiver := ⟨0, [.read 4 0, .read 4 1, .write [2] 0, .close 0, .read 4 2], false⟩
    let c : Connection BufferedSocket := ⟨⟨ConnState.new rx, socket, Answers.none⟩, (new 0 socket).callers⟩
    Settles c.callers c.side (service c.callers c.side) ∧
      (service c.callers c.side).answers.read.map Prod.fst = [1, 0, 2] ∧
      (service c.callers c.side).conn.read = none ∧ (service c.callers c.side).conn.write = none := by
  intro socket rx c
  obtain ⟨hsettles, hclose⟩ := service_resolves (σ := BufferedSocket)
  obtain ⟨hread, hwrite, _⟩ := hclose (c := c) (by decide) .nil
  exact ⟨hsettles c.callers c.side, by decide, hread, hwrite⟩

end Connection

end SmoltcpSocks
