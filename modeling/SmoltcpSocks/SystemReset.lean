import SmoltcpSocks.SystemRun

/-! Resets on teardown. An abort only marks a socket; its reset goes out with the next poll that visits
it, and a socket that leaves the set before that takes the reset with it. The `Close` command leaves the
aborted socket in the set for the egress poll behind it, but `try_accept` and `service_commands` remove
the socket in the same breath as they abort it. A relay on another thread may drop its VConn at any time,
also between the reply to its `Close` and the end of the same call of `service`. -/

namespace SmoltcpSocks

open TcpSocket

/-- Every abort that has a peer to inform is followed by a poll. -/
def ResetSent (calls : List SocketCall) : Prop :=
  ∀ before pending remote after, calls = before ++ .abort pending (some remote) :: after → .polled ∈ after

theorem resetSent_nil : ResetSent [] := by
  intro before pending remote after h
  simp at h

/-- A poll sends every reset; a call that aborts nothing, or informs nobody, changes nothing. -/
theorem resetSent_snoc {calls : List SocketCall} {call : SocketCall}
    (h : call = .polled ∨ ResetSent calls ∧ ∀ pending remote, call ≠ .abort pending (some remote)) :
    ResetSent (calls ++ [call]) := by
  intro before pending remote after heq
  rcases List.eq_nil_or_concat after with rfl | ⟨rest, last, rfl⟩
  · -- the abort would be the call itself
    have hlast := List.singleton_injective (List.append_inj' heq rfl).2
    rcases h with rfl | ⟨_, hcall⟩
    · cases hlast
    · exact absurd hlast (hcall pending remote)
  · rw [List.concat_eq_append, ← List.cons_append, ← List.append_assoc] at heq
    obtain ⟨hinit, hlast⟩ := List.append_inj' heq rfl
    rw [List.concat_eq_append, ← List.singleton_injective hlast]
    rcases h with rfl | ⟨hsent, _⟩
    · exact List.mem_append_right _ List.mem_cons_self
    · exact List.mem_append_left _ (hsent before pending remote rest hinit)

theorem resetSent_polled (calls : List SocketCall) : ResetSent (calls ++ [.polled]) :=
  resetSent_snoc (Or.inl rfl)

theorem ResetSent.append {calls : List SocketCall} (h : ResetSent calls) {call : SocketCall}
    (hcall : ∀ pending remote, call ≠ .abort pending (some remote)) : ResetSent (calls ++ [call]) :=
  resetSent_snoc (Or.inr ⟨h, hcall⟩)

/-- A socket has forgotten its peer only if its resets are sent. -/
def KeepsPeer {σ : Type} [TcpSocket σ] (socket : Traced σ) : Prop :=
  remoteEndpoint socket = none → ResetSent socket.calls

section Service

variable {σ : Type} [TcpSocket σ] [LawfulTcpSocket σ] {callers : Callers} {v w : Service (Traced σ)}

omit [LawfulTcpSocket σ] in
theorem KeepsPeer.append {socket socket' : Traced σ} {call : SocketCall} (h : KeepsPeer socket)
    (hremote : remoteEndpoint socket' = remoteEndpoint socket) (hcalls : socket'.calls = socket.calls ++ [call])
    (hcall : ∀ pending remote, call ≠ .abort pending (some remote)) : KeepsPeer socket' := by
  intro hnone
  rw [hcalls]
  exact (h (hremote.symm.trans hnone)).append hcall

omit [LawfulTcpSocket σ] in
theorem resetSent_abort_of_none {socket : Traced σ} (h : KeepsPeer socket) (hnone : remoteEndpoint socket = none) :
    ResetSent (TcpSocket.abort socket).calls := by
  apply (h hnone).append
  intro pending remote heq
  cases heq.symm.trans (congrArg (SocketCall.abort _) hnone)

omit [LawfulTcpSocket σ] in
/-- An abort that has a peer to inform is still to be followed by a poll. -/
theorem resetSent_abort_iff {socket : Traced σ} (h : KeepsPeer socket) :
    ResetSent (TcpSocket.abort socket).calls ↔ remoteEndpoint socket = none := by
  refine ⟨fun hsent => ?_, resetSent_abort_of_none h⟩
  rcases hremote : remoteEndpoint socket with _ | remote
  · rfl
  · have hcalls : (TcpSocket.abort socket).calls =
        socket.calls ++ [.abort (txBuffer socket.socket) (some remote)] :=
      congrArg (fun r => socket.calls ++ [SocketCall.abort (txBuffer socket.socket) r]) hremote
    cases hsent _ _ _ [] hcalls

theorem KeepsPeer.abort {socket : Traced σ} (h : KeepsPeer socket) : KeepsPeer (TcpSocket.abort socket) := by
  intro hnone
  exact resetSent_abort_of_none h ((remoteEndpoint_abort socket).symm.trans hnone)

theorem KeepsPeer.recvSlice {socket : Traced σ} (h : KeepsPeer socket) (n : Nat) :
    KeepsPeer (TcpSocket.recvSlice socket n).2 := by
  have hremote := remoteEndpoint_recvSlice socket n
  rcases Traced.calls_recvSlice socket n with heq | ⟨data, heq, _⟩
  · intro hnone
    rw [heq]
    exact h (hremote.symm.trans hnone)
  · apply h.append hremote heq
    intro pending remote hcall
    cases hcall

theorem KeepsPeer.sendSlice {socket : Traced σ} (h : KeepsPeer socket) (data : List UInt8) :
    KeepsPeer (TcpSocket.sendSlice socket data).2 := by
  have hremote := remoteEndpoint_sendSlice socket data
  rcases Traced.calls_sendSlice socket data with heq | ⟨n, heq⟩
  · intro hnone
    rw [heq]
    exact h (hremote.symm.trans hnone)
  · apply h.append hremote heq
    intro pending remote hcall
    cases hcall

theorem KeepsPeer.close {socket : Traced σ} (h : KeepsPeer socket) : KeepsPeer (TcpSocket.close socket) := by
  apply h.append (remoteEndpoint_close socket) rfl
  intro pending remote hcall
  cases hcall

theorem KeepsPeer.readStep (h : KeepsPeer v.socket) (hstep : Service.ReadStep callers v w) :
    KeepsPeer w.socket := by
  cases hstep with
  | data | finished | aborted => exact h.recvSlice _
  | _ => exact h

theorem KeepsPeer.writeStep (h : KeepsPeer v.socket) (hstep : Service.WriteStep callers v w) :
    KeepsPeer w.socket := by
  cases hstep with
  | sent | closed => exact h.sendSlice _
  | _ => exact h

end Service

namespace Session

variable {σ : Type} [TcpSocket σ] [LawfulTcpSocket σ] {s t : Session σ} {a : SessionAction σ}

theorem keptByService_keepsPeer : KeptByService (fun s : Session σ => KeepsPeer s.socket) where
  read h _ hstep := h.readStep hstep
  write h _ hstep := h.writeStep hstep
  cmd {s c cmd rest} h _ _ := by
    rcases Service.handleCmd_cases (Service.setQueue ⟨c, s.socket, s.answers⟩ rest) cmd with
      ⟨reply, rfl⟩ | ⟨reply, rfl⟩ | ⟨heq, _⟩
    · exact h.close
    · exact h.abort
    · change KeepsPeer (Service.handleCmd _ cmd).socket
      rw [heq]
      exact h
  serving _ h _ := h

/-- No step of a connection makes its socket forget a peer that is still to be informed. -/
theorem keepsPeer_step (h : KeepsPeer s.socket) (hstep : s.step a = some t) : KeepsPeer t.socket := by
  cases step_move hstep with
  | poll socket =>
      intro _
      exact resetSent_polled s.socket.calls
  | serviceBegin _ hbegin => exact keptByService_keepsPeer.serviceBegin h hbegin
  | serviceNext _ hnext => exact keptByService_keepsPeer.serviceNext h hnext
  | serviceDrop c =>
      rw [NetstackActor.failPending_socket]
      exact h.abort
  | _ => exact h

end Session

namespace NetstackActor

variable {σ : Type} [TcpSocket σ]

/-- The socket has nobody to inform, or `try_accept` lets it wait or would hand it over. -/
def sparesListener (slot : Slot σ) : Bool :=
  (remoteEndpoint slot.socket).isNone || (state slot.socket = .listen || state slot.socket = .synReceived) ||
    isReady slot

/-- A turn of `try_accept` aborts no listener that has a peer: the queue has room for one that is ready. -/
def SparesTurn (a : NetstackActor σ) (handle : SocketHandle) : Prop :=
  (a.sockets.lookup handle).all sparesListener = true ∧
    ((a.sockets.lookup handle).any isReady = true → a.hasRoom = true)

/-- A connection that has lost its last VConn has no peer left. -/
def SparesEntry (a : NetstackActor σ) (handle : SocketHandle) : Prop :=
  (a.conns.lookup handle).any (fun conn => conn.cmdRx.isClosed) = true →
    (a.sockets.lookup handle).all (fun slot => (remoteEndpoint slot.socket).isNone) = true

instance (a : NetstackActor σ) (handle : SocketHandle) : Decidable (a.SparesTurn handle) :=
  inferInstanceAs (Decidable (_ ∧ (_ → _)))

instance (a : NetstackActor σ) (handle : SocketHandle) : Decidable (a.SparesEntry handle) :=
  inferInstanceAs (Decidable (_ → _))

/-- A socket that left the set had sent its resets. -/
def ResetBeforeRemoved (a : NetstackActor σ) : Prop :=
  ∀ born socket, .removed born socket ∈ a.history → ResetSent socket.calls

variable {a b : NetstackActor σ} {handle handle' : SocketHandle} {alloc : Alloc σ}

omit [TcpSocket σ] in
theorem ResetBeforeRemoved.append_iff (h : ResetBeforeRemoved a) {events : List (ActorEvent σ)}
    (hhistory : b.history = a.history ++ events) : ResetBeforeRemoved b ↔
      ∀ born socket, .removed born socket ∈ events → ResetSent socket.calls := by
  simp only [ResetBeforeRemoved, hhistory]
  constructor
  · exact fun hb born socket hmem => hb born socket (List.mem_append_right _ hmem)
  · exact fun hevents born socket hmem => (List.mem_append.mp hmem).elim (h born socket) (hevents born socket)

theorem ResetBeforeRemoved.removed_iff (h : ResetBeforeRemoved a) {slot : Slot σ}
    (hhistory : b.history = a.history ++ [.removed slot.born (abort slot.socket)]) (hpeer : KeepsPeer slot.socket) :
    ResetBeforeRemoved b ↔ remoteEndpoint slot.socket = none := by
  rw [h.append_iff hhistory, ← resetSent_abort_iff hpeer]
  constructor
  · exact fun hsent => hsent _ _ (List.mem_singleton_self _)
  · intro hsent born socket hmem
    cases List.mem_singleton.mp hmem
    exact hsent

theorem sparesListener_iff {slot : Slot σ} : sparesListener slot = true ↔
    remoteEndpoint slot.socket = none ∨ Waits slot ∨ isReady slot = true := by
  simp only [sparesListener, Waits, Bool.or_eq_true, Option.isNone_iff_eq_none, decide_eq_true_eq, or_assoc]

/-- A turn of `try_accept` loses a reset exactly when it does not spare the listener. -/
theorem ResetBeforeRemoved.acceptStep_iff (h : ResetBeforeRemoved a)
    (hpeers : ∀ slot, a.sockets.lookup handle = some slot → KeepsPeer slot.socket)
    (hstep : AcceptStep alloc a handle b handle') : ResetBeforeRemoved b ↔ a.SparesTurn handle := by
  cases hstep with
  | waits slot hslot hwaits =>
      have hready := not_isReady_of_waits hwaits
      exact ⟨fun _ => by simp [SparesTurn, hslot, sparesListener_iff, hwaits, hready], fun _ => h⟩
  | handedOver slot loc remote socket hslot hready hroom =>
      refine ⟨fun _ => ?_, fun _ => (h.append_iff rfl).mpr fun born socket' hmem => by simp at hmem⟩
      simp [SparesTurn, hslot, sparesListener_iff, isReady_iff.mpr ⟨loc, remote, hready⟩, hroom]
  | refused slot socket hslot hwaits hfull =>
      rw [h.removed_iff rfl (hpeers slot hslot)]
      refine ⟨fun hnone => ?_, fun hspares => ?_⟩
      · simp [SparesTurn, hslot, sparesListener_iff, hnone, isReady]
      · simp only [SparesTurn, hslot, Option.all_some, Option.any_some, sparesListener_iff] at hspares
        rcases hspares.1 with hnone | hwait | hready
        · exact hnone
        · exact absurd hwait hwaits
        · obtain ⟨loc, remote, hready'⟩ := isReady_iff.mp hready
          exact absurd (hspares.2 hready) (by simp [hfull loc remote hready'])

end NetstackActor

namespace System

variable {σ : Type} {sys sys' : System σ} {action : SystemAction σ} {task : Task σ} {t : Session σ}

def atListener (sys : System σ) : Option SocketHandle :=
  match sys.phase with
  | .accepting _ (handle :: _) => some handle
  | _ => none

/-- The entry that `service` is on. -/
def atEntry (sys : System σ) : Option SocketHandle :=
  match sys.phase with
  | .serving handle _ => some handle
  | _ => none

section Spares

variable [TcpSocket σ]

/-- No socket that has a peer is aborted just before it is removed: the queue takes the listener at its turn if
it has a peer and is done with its handshake, and when `service` has emptied a channel and `is_closed` is asked, a
connection without a VConn has no peer left. -/
def SparesPeers (sys : System σ) : SystemAction σ → Prop
  | .acceptNext _ _ _ => ∀ handle ∈ sys.atListener, sys.actor.SparesTurn handle
  | .entryEnd => ∀ handle ∈ sys.atEntry, sys.actor.SparesEntry handle
  | _ => True

instance (sys : System σ) : (action : SystemAction σ) → Decidable (sys.SparesPeers action)
  | .acceptNext _ _ _ => inferInstanceAs (Decidable (∀ handle ∈ sys.atListener, _))
  | .entryEnd => inferInstanceAs (Decidable (∀ handle ∈ sys.atEntry, _))
  | .poll _ _ | .serviceCommands _ | .entryBegin | .entryNext | .serviceDone | .egress _ | .wake | .stopRecv
  | .dispatch | .dispatcherEnd | .relay _ _ | .stopSend | .handleDrop => inferInstanceAs (Decidable True)

/-- No socket in the set has forgotten a peer that is still to be informed. -/
def KeepsPeers (sys : System σ) : Prop :=
  ∀ handle slot, sys.actor.sockets.lookup handle = some slot → KeepsPeer slot.socket

theorem keepsPeers_polled (change : SocketHandle → σ → σ) (arrived : ChanId → List UInt8) :
    KeepsPeers (sys.polled change arrived) := by
  intro handle slot hslot _
  simp only [polled, NetstackActor.pollSockets, Table.lookup_map] at hslot
  obtain ⟨old, _, rfl⟩ := Option.map_eq_some_iff.mp hslot
  exact resetSent_polled _

theorem KeepsPeers.put (h : KeepsPeers sys) (hsys : Consistent sys)
    (ht : ∀ c, sys.entry task = some c → KeepsPeer t.socket) (phase : Phase) :
    KeepsPeers { sys.put task t with phase := phase } := by
  intro handle slot' hslot
  rcases putEntry_cases hsys task t with ⟨_, hput⟩ | ⟨c, slot, hentry, _, ⟨_, _, hput⟩ | ⟨_, hput⟩⟩ <;>
    simp only [System.put, hput] at hslot
  · exact h _ _ hslot
  · rw [Table.lookup_insert_eq] at hslot
    split at hslot
    · cases hslot
      exact ht c hentry
    · exact h _ _ hslot
  · simp only [NetstackActor.remove, NetstackActor.record, Table.lookup_erase_eq] at hslot
    split at hslot
    · cases hslot
    · exact h _ _ hslot

theorem keepsPeers_add {a : NetstackActor σ} {handle handle' : SocketHandle} {listener : Traced σ} {slot : Slot σ}
    (hnew : NetstackActor.NewListener listener)
    (h : ∀ {slot}, a.sockets.lookup handle' = some slot → KeepsPeer slot.socket)
    (hslot : (a.add handle listener).sockets.lookup handle' = some slot) : KeepsPeer slot.socket := by
  simp only [NetstackActor.add, Table.lookup_insert_eq] at hslot
  split at hslot
  · cases hslot
    intro _
    rw [hnew.calls]
    exact resetSent_nil
  · exact h hslot

theorem KeepsPeers.turn {alloc : Alloc σ} {client incoming : List UInt8} {handle handle' : SocketHandle}
    {slot : Slot σ} {next : System σ} (h : KeepsPeers sys)
    (hturn : Turn sys alloc client incoming handle slot next handle') (processed rest : List SocketHandle) :
    KeepsPeers (next.turned processed rest handle') := by
  cases hturn with
  | waits => exact h
  | handedOver loc remote listener hready hroom hnew =>
      intro other slot' hslot
      simp only [turned, System.handedOver, Table.lookup_insert_eq] at hslot
      split at hslot
      · cases hslot
        intro _
        exact resetSent_nil
      · exact keepsPeers_add hnew (fun hold => h _ _ hold) hslot
  | refused listener hwaits hroom hnew =>
      intro other slot' hslot
      refine keepsPeers_add hnew (fun hold => ?_) hslot
      simp only [NetstackActor.remove, NetstackActor.record, Table.lookup_erase_eq] at hold
      split at hold
      · cases hold
      · exact h _ _ hold

theorem KeepsPeers.step [LawfulTcpSocket σ] (h : KeepsPeers sys) (hsys : Consistent sys)
    (hstep : sys.step action = some sys') : KeepsPeers sys' := by
  have hsession {task : Task σ} {c : ConnState} (hentry : sys.entry task = some c) :
      KeepsPeer (sys.session task).socket := by
    obtain ⟨slot, hslot⟩ := hsys.socket (entry_eq_some_iff.mp hentry).1
    change KeepsPeer (sys.socketOf task)
    rw [socketOf_of_entry hentry hslot]
    exact h _ _ hslot
  cases step_move hstep with
  | poll change arrived => exact keepsPeers_polled change arrived
  | egress change => exact keepsPeers_polled change fun _ => []
  | acceptNext alloc client incoming processed rest handle handle' slot next hphase hslot hfin hturn =>
      exact h.turn hturn processed rest
  | serve _ a phase handle conn task t _ _ _ ht =>
      exact h.put hsys (fun c hentry => Session.keepsPeer_step (hsession hentry) ht) phase
  | relay chan a task t _ _ _ ht =>
      exact h.put hsys (fun c hentry => Session.keepsPeer_step (hsession hentry) ht) sys.phase
  | stopRecv =>
      intro handle slot hslot
      cases hslot
  | serviceCommands | serviceDone | wake | dispatch | dispatcherEnd | stopGone | stopSend | handleDrop => exact h

end Spares

/-- A socket that left the set had sent its resets. -/
def ResetBeforeRemoved (sys : System σ) : Prop := sys.actor.ResetBeforeRemoved

theorem history_put (hsys : Consistent sys) (hsome : t.conn.isSome = (sys.entry task).isSome) :
    (sys.put task t).actor.history = sys.actor.history := by
  rcases putEntry_cases hsys task t with ⟨_, hput⟩ | ⟨_, _, hentry, _, ⟨_, _, hput⟩ | ⟨hgone, _⟩⟩
  · simp only [put, hput]
  · simp only [put, hput]
  · rw [hgone, hentry] at hsome
    cases hsome

variable [TcpSocket σ]

/-- What holds between any two steps. -/
structure Resets (sys : System σ) : Prop where
  ordered : Ordered sys
  removed : ResetBeforeRemoved sys
  peers : KeepsPeers sys

omit [TcpSocket σ] in
theorem ResetBeforeRemoved.of_history (h : ResetBeforeRemoved sys) (hhistory : sys'.actor.history = sys.actor.history) :
    ResetBeforeRemoved sys' := by
  unfold ResetBeforeRemoved NetstackActor.ResetBeforeRemoved
  rw [hhistory]
  exact h

/-- The actor leaves an entry: the reset is lost exactly when the connection is dropped and still has a peer. -/
theorem Resets.entryEnd_iff [LawfulTcpSocket σ] (h : Resets sys) {handle : SocketHandle} {conn : ConnState}
    {rest : List SocketHandle} (hphase : sys.phase = .serving handle rest)
    (hconn : sys.actor.conns.lookup handle = some conn) (htask : sys.tasks.lookup conn.cmdRx.chan = some task)
    (ht : (sys.session task).step .serviceEnd = some t) (phase : Phase) :
    ResetBeforeRemoved { sys.put task t with phase := phase } ↔ sys.SparesPeers .entryEnd := by
  obtain ⟨task', htask', rfl⟩ := h.ordered.held hconn
  cases htask.symm.trans htask'
  have hentry : sys.entry task = some conn :=
    entry_eq_some_iff.mpr ⟨hconn, (h.ordered.keyed htask).1.symm⟩
  obtain ⟨slot, hslot⟩ := h.ordered.socket hconn
  have hspares : sys.SparesPeers .entryEnd ↔ (conn.cmdRx.closed = true → remoteEndpoint slot.socket = none) := by
    simp [SparesPeers, atEntry, hphase, NetstackActor.SparesEntry, hconn, hslot, CmdReceiver.isClosed]
  rw [hspares]
  cases Session.step_move ht with
  | serviceEnd c hc _ _ hopen =>
      cases hentry.symm.trans hc
      refine iff_of_true (h.removed.of_history (history_put h.ordered.toConsistent ?_)) ?_
      · rfl
      · intro hclosed
        cases hopen.symm.trans hclosed
  | serviceDrop c hc _ _ hclosed =>
      cases hentry.symm.trans hc
      rw [imp_iff_right hclosed]
      refine h.removed.removed_iff ?_ (h.peers _ _ hslot)
      have hsocket : (sys.session task).socket = slot.socket := socketOf_of_entry hentry hslot
      simp [System.put, putEntry, hentry, hslot, NetstackActor.remove, NetstackActor.record,
        NetstackActor.failPending_socket, hsocket]

/-- One step of one of the tasks loses a reset exactly when it does not spare the peers. -/
theorem Resets.step_iff [LawfulTcpSocket σ] (h : Resets sys) (hstep : sys.step action = some sys') :
    ResetBeforeRemoved sys' ↔ sys.SparesPeers action := by
  have hquiet {sys' : System σ} (hspares : sys.SparesPeers action)
      (hhistory : sys'.actor.history = sys.actor.history) : ResetBeforeRemoved sys' ↔ sys.SparesPeers action :=
    iff_of_true (h.removed.of_history hhistory) hspares
  cases step_move hstep with
  | acceptNext alloc client incoming processed rest handle handle' slot next hphase hslot hfin hturn =>
      obtain ⟨a, hstep, _, _, _, hhistory⟩ := hturn.acceptStep hslot
      have hiff := NetstackActor.ResetBeforeRemoved.acceptStep_iff h.removed (h.peers handle) hstep
      have hspares : sys.SparesPeers (.acceptNext alloc client incoming) ↔ sys.actor.SparesTurn handle := by
        simp [SparesPeers, atListener, hphase]
      rw [hspares, ← hiff, ResetBeforeRemoved, NetstackActor.ResetBeforeRemoved, NetstackActor.ResetBeforeRemoved]
      exact hhistory ▸ Iff.rfl
  | serve _ a phase handle conn task t hserves hconn htask ht =>
      generalize hstand : sys.phase = stand at hserves
      cases hserves with
      | first | next =>
          refine hquiet trivial (history_put h.ordered.toConsistent ?_)
          apply Session.step_isSome ht <;> simp
      | last handle rest => exact h.entryEnd_iff hstand hconn htask ht _
  | relay chan a task t htask hstarted hrelay ht =>
      refine hquiet trivial (history_put h.ordered.toConsistent ?_)
      apply Session.step_isSome ht
      · rintro rfl
        cases hrelay
      · rintro rfl
        cases hrelay
  | dispatch vconn m rest task haccepted htask =>
      refine iff_of_true ((NetstackActor.ResetBeforeRemoved.append_iff h.removed rfl).mpr ?_) trivial
      intro born socket hmem
      simp at hmem
  | poll | egress | serviceCommands | serviceDone | wake | stopRecv | dispatcherEnd | stopGone | stopSend
  | handleDrop => exact hquiet trivial rfl

theorem Resets.step [LawfulTcpSocket σ] (h : Resets sys) (hfresh : action.FreshHandles)
    (hspares : sys.SparesPeers action) (hstep : sys.step action = some sys') : Resets sys' where
  ordered := h.ordered.step hfresh hstep
  removed := (h.step_iff hstep).mpr hspares
  peers := h.peers.step h.ordered.toConsistent hstep

variable [LawfulTcpSocket σ] {start : Alloc σ}

/-- In every run of the program whose steps spare the peers, however its tasks interleave, every socket that was
aborted with a peer to inform is polled before it leaves the set, and the condition is exact: the next step keeps
this if and only if it spares the peers too. -/
theorem reset_before_removed (hstart : start.Fresh) : ∃ sys₀ : System σ, spawn start = some sys₀ ∧
    ∀ trace sys, Transition.Run System.step (fun sys action => action.FreshHandles ∧ sys.SparesPeers action)
        sys₀ trace sys →
      ResetBeforeRemoved sys ∧ ∀ action sys', sys.step action = some sys' →
        (ResetBeforeRemoved sys' ↔ sys.SparesPeers action) := by
  obtain ⟨a, ha, hfresh, _, hordered⟩ := spawn_eq hstart
  refine ⟨_, ha, fun trace sys hrun => ?_⟩
  have hresets : Resets sys := by
    refine hrun.invariant (fun _ _ _ h hallowed hstep => h.step hallowed.1 hallowed.2 hstep) ⟨hordered, ?_, ?_⟩
    · intro born socket hmem
      rw [hfresh.history] at hmem
      cases hmem
    · intro handle slot hslot _
      rw [hfresh.calls handle slot hslot]
      exact resetSent_nil
  exact ⟨hresets.removed, fun action sys' hstep => hresets.step_iff hstep⟩

def connects : List (SystemAction BufferedSocket) :=
  roundSteps (.poll (NetstackActor.handshake 0) fun _ => []) (List.replicate 4 ([], [])) [0] [.entryBegin, .entryEnd] ++
    [.dispatch]

/-- A later round, with what its poll makes of the sockets and what happens on the entry. -/
def laterRound (change : SocketHandle → BufferedSocket → BufferedSocket)
    (service : List (SystemAction BufferedSocket)) : List (SystemAction BufferedSocket) :=
  roundSteps (.poll change fun _ => []) (List.replicate 4 ([], [])) [0] service

def finished : SocketHandle → BufferedSocket → BufferedSocket := fun handle socket =>
  if handle = 0 then { socket with state := .closeWait, rxFinReceived := true } else socket

def emitted : SocketHandle → BufferedSocket → BufferedSocket := fun handle socket =>
  if handle = 0 then { socket with localEndpoint := none, remoteEndpoint := none } else socket

/-- Both directions of the connection end, and the relay sends its `Close`. -/
def bothEnd : List (SystemAction BufferedSocket) :=
  [.relay 0 (.connect (.ok ())), .relay 0 .readSend, .relay 0 .srcEof, .relay 0 .closeWriteSend] ++
    laterRound finished [.entryBegin, .entryNext, .entryNext, .entryEnd] ++
    [.relay 0 .readRecv, .relay 0 .flush, .relay 0 .closeWriteRecv, .relay 0 .join, .relay 0 .closeSend]

/-- The relay takes the reply to its `Close` after the round, and its VConn goes in a later one. -/
def closeThenDrop : List (SystemAction BufferedSocket) :=
  connects ++ bothEnd ++ laterRound NetstackActor.idle [.entryBegin, .entryNext, .entryEnd] ++ [.relay 0 .closeRecv] ++
    laterRound emitted [.entryBegin, .entryEnd]

def dialFails : List (SystemAction BufferedSocket) :=
  connects ++ [.relay 0 (.connect (.error ⟨.other, ""⟩))] ++ laterRound NetstackActor.idle [.entryBegin, .entryEnd]

/-- The relay takes the reply to its `Close` and drops its VConn while the actor is still on its entry. -/
def dropInService : List (SystemAction BufferedSocket) :=
  connects ++ bothEnd ++ laterRound NetstackActor.idle [.entryBegin, .entryNext, .relay 0 .closeRecv, .entryEnd]

/-- The last call on a socket that was removed is an abort with a peer to inform. -/
def losesReset : ActorEvent σ → Bool
  | .removed _ socket =>
      match socket.calls.getLast? with
      | some (.abort _ (some _)) => true
      | _ => false
  | _ => false

omit [TcpSocket σ] [LawfulTcpSocket σ] in
theorem not_resetBeforeRemoved_of_losesReset (h : sys.actor.history.any losesReset = true) :
    ¬ ResetBeforeRemoved sys := by
  obtain ⟨event, hmem, hloses⟩ := List.any_eq_true.mp h
  unfold losesReset at hloses
  split at hloses
  · rename_i born socket
    split at hloses
    · rename_i pending remote hlast
      intro hreset
      obtain ⟨before, hcalls⟩ := List.getLast?_eq_some_iff.mp hlast
      cases hreset born socket hmem before pending remote [] hcalls
    · cases hloses
  · cases hloses

/-- The relay closes the connection and its reset goes out with the polls behind it; only then does the VConn go and
the socket with it. -/
theorem reset_before_removed_on_close :
    ∃ sys₀ sys : System BufferedSocket, spawn .firstFree = some sys₀ ∧
      Transition.Run System.step (fun sys action => action.FreshHandles ∧ sys.SparesPeers action)
        sys₀ closeThenDrop sys ∧
      .removed 0 ⟨⟨.closed, none, none, [], true, [], TCP_TX_BUF⟩,
        [.polled, .polled, .close, .polled, .polled, .abort [] (some NetstackActor.client), .polled, .polled,
          .abort [] none]⟩ ∈ sys.actor.history ∧ ResetBeforeRemoved sys := by
  have hexec : ((spawn .firstFree).bind fun sys => Transition.execute System.step SparesPeers sys closeThenDrop).any
      (fun sys => decide (.removed 0 ⟨⟨.closed, none, none, [], true, [], TCP_TX_BUF⟩,
        [.polled, .polled, .close, .polled, .polled, .abort [] (some NetstackActor.client), .polled, .polled,
          .abort [] none]⟩ ∈ sys.actor.history)) = true := by decide +kernel
  have hfresh : ∀ action ∈ closeThenDrop, action.FreshHandles := by
    simp [closeThenDrop, connects, bothEnd, laterRound, roundSteps, SystemAction.FreshHandles, Alloc.firstFree_fresh]
  obtain ⟨sys₀, sys, hspawn, hrun, hremoved⟩ := exists_run_of_execute hfresh hexec
  obtain ⟨sys₁, hspawn₁, hall⟩ := reset_before_removed (σ := BufferedSocket) Alloc.firstFree_fresh
  cases hspawn.symm.trans hspawn₁
  exact ⟨sys₀, sys, hspawn, hrun, of_decide_eq_true hremoved, (hall closeThenDrop sys hrun).1⟩

theorem exists_run_losesReset {trace : List (SystemAction BufferedSocket)}
    (hfresh : ∀ action ∈ trace, action.FreshHandles)
    (hexec : ((spawn .firstFree).bind fun sys => Transition.execute System.step (Everywhere fun _ _ => True) sys
      trace).any (fun sys => sys.actor.history.any losesReset) = true) :
    ∃ sys₀ sys : System BufferedSocket, spawn .firstFree = some sys₀ ∧ Runs (fun _ _ => True) sys₀ trace sys ∧
      ¬ ResetBeforeRemoved sys := by
  obtain ⟨sys₀, sys, hspawn, hrun, hloses⟩ := exists_run_of_execute hfresh hexec
  exact ⟨sys₀, sys, hspawn, hrun, not_resetBeforeRemoved_of_losesReset hloses⟩

/-- The dial fails and the VConn is dropped, or the VConn goes right behind the reply to `Close`: the socket is
aborted and removed at once, and the client never hears of it. -/
theorem not_resetBeforeRemoved_on_drop :
    (∃ sys₀ sys : System BufferedSocket, spawn .firstFree = some sys₀ ∧ Runs (fun _ _ => True) sys₀ dialFails sys ∧
      ¬ ResetBeforeRemoved sys) ∧
    ∃ sys₀ sys : System BufferedSocket, spawn .firstFree = some sys₀ ∧ Runs (fun _ _ => True) sys₀ dropInService sys ∧
      ¬ ResetBeforeRemoved sys := by
  constructor
  · apply exists_run_losesReset
    · simp [dialFails, connects, laterRound, roundSteps, SystemAction.FreshHandles, Alloc.firstFree_fresh]
    · decide +kernel
  · apply exists_run_losesReset
    · simp [dropInService, connects, bothEnd, laterRound, roundSteps, SystemAction.FreshHandles,
        Alloc.firstFree_fresh]
    · decide +kernel

end System

end SmoltcpSocks
