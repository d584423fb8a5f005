import SmoltcpSocks.ServiceRound
import SmoltcpSocks.SystemRun

/-! What a connection can wait for. The commands of a relay may fall anywhere into the actor's round, but when the
actor leaves the entry of a connection there is nothing on its channel and nothing parked that could be done: a
relay that cannot go on is waiting for its socket, and an entry whose relay has returned is gone. -/

namespace SmoltcpSocks

open TcpSocket

variable {σ : Type}

/-- The step on its VConn that `copy_vconn_to` makes next. -/
def UpPoint.next : UpPoint → Option (SessionAction σ)
  | .read => some .readSend
  | .awaitRead _ => some .readRecv
  | _ => none

/-- The step on its VConn that `copy_to_vconn` makes next. -/
def DownPoint.next : DownPoint → Option (SessionAction σ)
  | .write _ _ => some .writeSend
  | .awaitWrite _ _ _ => some .writeRecv
  | .closeWrite => some .closeWriteSend
  | .awaitCloseWrite _ => some .closeWriteRecv
  | _ => none

/-- The step on its VConn that `pipe` itself makes next. -/
def PipePoint.next : PipePoint → Option (SessionAction σ)
  | .close => some .closeSend
  | .awaitClose _ => some .closeRecv
  | _ => none

namespace Session

variable [TcpSocket σ] {s t : Session σ} {a : SessionAction σ} {c : ConnState}

/-- Nothing has arrived of what may still come. -/
def AwaitsData (s : Session σ) : Prop := mayRecv s.socket = true ∧ rxBuffer s.socket = []

/-- The transmit buffer of a socket that still sends is full. -/
def AwaitsRoom (s : Session σ) : Prop :=
  maySend s.socket = true ∧ txCapacity s.socket ≤ (txBuffer s.socket).length

/-- What is parked has to wait for the socket. -/
structure Stuck (s : Session σ) (c : ConnState) : Prop where
  read : c.read.isSome = true → s.AwaitsData
  write : c.write.isSome = true → s.AwaitsRoom

/-- While the actor is inside `service`, what is parked has to wait. -/
def ParkedWaits (s : Session σ) : Prop := s.serving = true → ∀ c, s.conn = some c → s.Stuck c

/-- A connection that the actor has just left: the relay can make the step that it stands at, or waits for the
socket; the entry of a relay that has returned is gone. -/
structure Served (s : Session σ) : Prop where
  entry : s.conn.isSome = !s.pipe.hasReturned
  up : s.pipe = .join → ∀ a, s.up.next = some a →
    (s.step a).isSome = true ∨ ((∃ reply, s.up = .awaitRead reply) ∧ s.AwaitsData)
  down : s.pipe = .join → ∀ a, s.down.next = some a →
    (s.step a).isSome = true ∨ ((∃ buf written reply, s.down = .awaitWrite buf written reply) ∧ s.AwaitsRoom)
  pipe : ∀ a, s.pipe.next = some a → (s.step a).isSome = true

theorem ParkedWaits.frame (h : ParkedWaits s) (hserving : t.serving = s.serving) (hsocket : t.socket = s.socket)
    (hconn : ∀ c', t.conn = some c' → ∃ c, s.conn = some c ∧ c'.read = c.read ∧ c'.write = c.write) :
    ParkedWaits t := by
  intro ht c' hc'
  obtain ⟨c, hc, hread, hwrite⟩ := hconn c' hc'
  have hstuck := h (hserving.symm.trans ht) c hc
  refine ⟨?_, ?_⟩
  · rw [hread, AwaitsData, hsocket]
    exact hstuck.read
  · rw [hwrite, AwaitsRoom, hsocket]
    exact hstuck.write

theorem ParkedWaits.accepted (vconn : VConn) (socket : σ) (client incoming : List UInt8) :
    ParkedWaits (Session.accepted vconn socket client incoming) := by
  intro hserving
  cases hserving

/-- A turn of `service` leaves only what has to wait. -/
theorem parkedWaits_install [LawfulTcpSocket σ] (v : Service (Traced σ)) (serving : Bool) :
    ParkedWaits { s.install (Service.serviceIo s.callers v) with serving := serving } := by
  have hidle := Service.idle_serviceIo s.callers v
  intro _ c hc
  cases hc
  constructor
  · intro hread
    obtain ⟨read, hread⟩ := Option.isSome_iff_exists.mp hread
    exact (hidle.read read hread).2.2
  · intro hwrite
    obtain ⟨write, hwrite⟩ := Option.isSome_iff_exists.mp hwrite
    exact (hidle.write write hwrite).2.2

variable [LawfulTcpSocket σ]

theorem ParkedWaits.step (h : ParkedWaits s) (hstep : s.step a = some t) : ParkedWaits t := by
  have hvacuous {t : Session σ} (ht : t.serving = false) : ParkedWaits t := by
    intro hserving
    cases ht.symm.trans hserving
  cases step_move hstep with
  | poll socket arrived rest hrunning hserving => exact hvacuous hserving
  | serviceBegin _ hbegin =>
      obtain ⟨c, _, _, rfl⟩ := serviceBegin_cases hbegin
      exact parkedWaits_install _ true
  | serviceNext _ hnext =>
      obtain ⟨c, cmd, rest, _, _, _, rfl⟩ := serviceNext_cases hnext
      exact parkedWaits_install _ s.serving
  | serviceEnd | serviceDrop => exact hvacuous rfl
  | stop hrunning hserving => exact hvacuous hserving
  | readSend c _ _ hconn | writeSend c _ _ _ hconn | closeWriteSend c _ hconn | closeSend c _ hconn =>
      refine h.frame rfl rfl ?_
      intro c' hc'
      cases hc'
      exact ⟨c, hconn, rfl, rfl⟩
  | connectFail | closeGone | closeRecv =>
      refine h.frame rfl rfl ?_
      intro c' hc'
      obtain ⟨c, hconn, rfl⟩ := Option.map_eq_some_iff.mp hc'
      exact ⟨c, hconn, rfl, rfl⟩
  | _ => exact h.frame rfl rfl fun c' hc' => ⟨c', hc', rfl, rfl⟩

omit [TcpSocket σ] [LawfulTcpSocket σ] in
theorem send_isSome_of_empty (hconn : s.conn = some c) (hqueue : c.cmdRx.queue = []) (cmd : ConnCmd) :
    (s.send cmd).isSome = true := by
  simp [send, hconn, hqueue, CMD_CAPACITY]

omit [LawfulTcpSocket σ] in
/-- With nothing on the channel `copy_vconn_to` can go on, or its read is parked. -/
theorem up_isSome_of_empty (hconn : s.conn = some c) (hqueue : c.cmdRx.queue = []) (hpipe : s.pipe = .join)
    (hnext : s.up.next = some a) :
    (s.step a).isSome = true ∨ ((∃ reply, s.up = .awaitRead reply) ∧ c.read.isSome = true) := by
  rcases hup : s.up with _ | reply | rest | _ | result <;> rw [hup] at hnext <;> cases hnext
  · left
    simpa [step, readSend, hpipe, hup] using send_isSome_of_empty hconn hqueue _
  · rcases hread : c.read with _ | read
    · left
      have hreads : s.reads = [] := by simp [reads, hconn, ConnState.reads, hread, hqueue]
      obtain ⟨outcome, hawait⟩ := Oneshot.exists_await_nil s.answers.read (.error .actorGone) reply
      simp [step, readRecv, hup, hreads, hawait]
    · exact Or.inr ⟨⟨reply, rfl⟩, rfl⟩

omit [LawfulTcpSocket σ] in
theorem down_isSome_of_empty (hconn : s.conn = some c) (hqueue : c.cmdRx.queue = []) (hnext : s.down.next = some a) :
    (s.step a).isSome = true ∨
      ((∃ buf written reply, s.down = .awaitWrite buf written reply) ∧ c.write.isSome = true) := by
  rcases hdown : s.down with _ | ⟨buf, written⟩ | ⟨buf, written, reply⟩ | _ | reply | result <;>
    rw [hdown] at hnext <;> cases hnext
  · left
    simpa [step, writeSend, hdown] using send_isSome_of_empty hconn hqueue _
  · rcases hwrite : c.write with _ | write
    · left
      have hwrites : s.writes = [] := by simp [writes, hconn, ConnState.writes, hwrite, hqueue]
      obtain ⟨outcome, hawait⟩ := Oneshot.exists_await_nil s.answers.write (.error .actorGone) reply
      simp [step, writeRecv, hdown, hwrites, hawait]
    · exact Or.inr ⟨⟨buf, written, reply, rfl⟩, rfl⟩
  · left
    simpa [step, closeWriteSend, hdown] using send_isSome_of_empty hconn hqueue _
  · left
    have hcloseWrites : s.closeWrites = [] := by simp [closeWrites, hconn, ConnState.closeWrites, hqueue]
    obtain ⟨outcome, hawait⟩ := Oneshot.exists_await_nil s.answers.closeWrite (.error .actorGone) reply
    simp [step, closeWriteRecv, hdown, hcloseWrites, hawait]

omit [LawfulTcpSocket σ] in
theorem pipe_isSome_of_empty (hconn : s.conn = some c) (hqueue : c.cmdRx.queue = []) (hnext : s.pipe.next = some a) :
    (s.step a).isSome = true := by
  rcases hpipe : s.pipe with _ | _ | _ | reply | result <;> rw [hpipe] at hnext <;> cases hnext
  · simpa [step, closeSend, hpipe] using send_isSome_of_empty hconn hqueue _
  · have hcloses : s.closes = [] := by simp [closes, hconn, ConnState.closes, hqueue]
    obtain ⟨outcome, hawait⟩ := Oneshot.exists_await_nil s.answers.close (.error .actorGone) reply
    simp [step, closeRecv, hpipe, hcloses, hawait]

omit [LawfulTcpSocket σ] in
/-- The actor leaves the entry of a connection. -/
theorem served_of_serviceEnd (hflight : Flight s) (hparked : ParkedWaits s) (hstep : s.step .serviceEnd = some t) :
    Served t := by
  cases step_move hstep with
  | serviceEnd c hconn hserving hqueue hclosed =>
      have hstuck := hparked hserving c hconn
      refine ⟨?_, ?_, ?_, ?_⟩
      · change s.conn.isSome = !s.pipe.hasReturned
        rw [hconn, ← (hflight.entry c hconn).2, hclosed]
        rfl
      · intro hpipe a hnext
        rcases up_isSome_of_empty (s := { s with serving := false }) hconn hqueue hpipe hnext with hstep | hparked
        · exact Or.inl hstep
        · exact Or.inr ⟨hparked.1, hstuck.read hparked.2⟩
      · intro _ a hnext
        rcases down_isSome_of_empty (s := { s with serving := false }) hconn hqueue hnext with hstep | hparked
        · exact Or.inl hstep
        · exact Or.inr ⟨hparked.1, hstuck.write hparked.2⟩
      · intro a hnext
        exact pipe_isSome_of_empty (s := { s with serving := false }) hconn hqueue hnext
  | serviceDrop c hconn hserving hqueue hclosed =>
      have hreturned : s.pipe.hasReturned = true := by rw [← (hflight.entry c hconn).2, hclosed]
      have hnotJoin : s.pipe ≠ .join := by
        intro hpipe
        rw [hpipe] at hreturned
        cases hreturned
      refine ⟨?_, fun hpipe => absurd hpipe hnotJoin, fun hpipe => absurd hpipe hnotJoin, ?_⟩
      · change (none : Option ConnState).isSome = !s.pipe.hasReturned
        rw [hreturned]
        rfl
      · intro a hnext
        change s.pipe.next = some a at hnext
        rcases hpipe : s.pipe with _ | _ | _ | reply | result <;> rw [hpipe] at hreturned hnext
        · cases hreturned
        · cases hreturned
        · cases hreturned
        · cases hreturned
        · cases hnext

end Session

namespace System

variable [TcpSocket σ] [LawfulTcpSocket σ] {start : Alloc σ} {sys sys' : System σ}

omit [LawfulTcpSocket σ] in
theorem Ordered.current_of_entryEnd (h : Ordered sys) (hstep : sys.step .entryEnd = some sys') :
    ∃ chan s, sys.current = some chan ∧ sys.view chan = some s := by
  rcases hphase : sys.phase with _ | _ | _ | ⟨handle, rest⟩ | _ | _ | _ <;>
    simp only [System.step, hphase] at hstep <;> try cases hstep
  have hphased := h.phased
  rw [Phased, hphase] at hphased
  obtain ⟨conn, hconn⟩ := Table.mem_iff.mp (hphased.2 handle List.mem_cons_self)
  obtain ⟨task, htask, _⟩ := h.held hconn
  refine ⟨conn.cmdRx.chan, sys.session task, ?_, view_eq_some_iff.mpr ⟨task, htask, rfl⟩⟩
  rw [current, hphase]
  simp [hconn]

/-- No wake-up is lost, whatever falls into the actor's round: each time the actor leaves the entry of a connection,
every step on its VConn that the relay stands at can be made, except for a read while nothing has arrived on a
socket that may still receive and a write while the transmit buffer of a socket that may still send is full; and
the entry stays exactly as long as the relay has not returned. -/
theorem served_relay_waits_only_for_socket (hstart : start.Fresh) (allowed : Session σ → SessionAction σ → Prop) :
    ∃ sys₀ : System σ, spawn start = some sys₀ ∧ ∀ trace sys sys', Runs allowed sys₀ trace sys →
      sys.step .entryEnd = some sys' → ∃ chan s, sys.current = some chan ∧ sys'.view chan = some s ∧ s.Served := by
  obtain ⟨a, ha, _, _, hordered⟩ := spawn_eq hstart
  refine ⟨_, ha, fun trace sys sys' hrun hstep => ?_⟩
  have h := hordered.run hrun
  obtain ⟨chan, s, hcurrent, hview⟩ := h.current_of_entryEnd hstep
  have hflight : s.Flight :=
    hordered.session_invariant rfl hrun hview .accepted fun _ _ _ h hstep => h.step hstep
  have hparked : s.ParkedWaits :=
    hordered.session_invariant rfl hrun hview .accepted fun _ _ _ h hstep => h.step hstep
  have hfresh : SystemAction.FreshHandles (σ := σ) .entryEnd := trivial
  have hnext := step_view h hfresh hstep hview
  simp only [on, if_pos hcurrent] at hnext
  obtain ⟨s', hs', hview'⟩ := hnext
  exact ⟨chan, s', hcurrent, hview', Session.served_of_serviceEnd hflight hparked hs'⟩

/-- A relay passes on the byte it is answered with and asks for more while the actor is still on its entry. -/
def readAgain : List (SystemAction BufferedSocket) :=
  [.entryNext, .relay 1 .readRecv, .relay 1 (.writeSome 1), .relay 1 .readSend, .entryNext]

/-- The second read finds nothing, and the relay waits for its client. -/
theorem served_relay_waits_only_for_socket_read_again :
    ∃ sys₀ sys sys' : System BufferedSocket, spawn .firstFree = some sys₀ ∧
      Runs (fun _ _ => True) sys₀ (twoClients.take 26 ++ readAgain) sys ∧ sys.step .entryEnd = some sys' ∧
      ∃ s, sys'.view 1 = some s ∧ s.up = .awaitRead 1 ∧ s.AwaitsData := by
  have hexec : ((spawn .firstFree).bind fun sys => Transition.execute System.step (Everywhere fun _ _ => True) sys
      (twoClients.take 26 ++ readAgain)).any (fun sys => decide (sys.current = some 1) &&
        (sys.step .entryEnd).any fun sys' => (sys'.view 1).any fun s => decide (s.pipe = .join ∧ s.up = .awaitRead 1) &&
          (s.step .readRecv).isNone) = true := by
    decide +kernel
  obtain ⟨sys₀, sys, hspawn, hrun, hs⟩ := exists_run_of_execute (twoClients_append_fresh (by decide)) hexec
  obtain ⟨hcurrent, hend⟩ := Bool.and_eq_true_iff.mp hs
  obtain ⟨sys', hend, hs'⟩ := (Option.any_eq_true _ _).mp hend
  obtain ⟨s, hview, hs⟩ := (Option.any_eq_true _ _).mp hs'
  obtain ⟨hat, hnone⟩ := Bool.and_eq_true_iff.mp hs
  obtain ⟨hpipe, hup⟩ := of_decide_eq_true hat
  obtain ⟨sys₁, hspawn₁, hall⟩ := served_relay_waits_only_for_socket (σ := BufferedSocket) Alloc.firstFree_fresh
    fun _ _ => True
  cases hspawn.symm.trans hspawn₁
  obtain ⟨chan, t, hchan, hview', hserved⟩ := hall _ sys sys' hrun hend
  obtain rfl := Option.some.inj ((of_decide_eq_true hcurrent).symm.trans hchan)
  obtain rfl := Option.some.inj (hview.symm.trans hview')
  refine ⟨sys₀, sys, sys', hspawn, hrun, hend, s, hview, hup, ?_⟩
  rcases hserved.up hpipe .readRecv (by rw [hup]; rfl) with hstep | hwaits
  · rw [Option.isNone_iff_eq_none.mp hnone] at hstep
    cases hstep
  · exact hwaits.2

end System

end SmoltcpSocks
