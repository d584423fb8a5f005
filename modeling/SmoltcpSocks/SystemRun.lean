import SmoltcpSocks.RelayUp
import SmoltcpSocks.RelayDown
import SmoltcpSocks.SystemStep

/-! Whole runs of the program, from `spawn` on: what every connection of such a run has done is a run of its
session, so that the results about sessions hold of all connections at once; and the actor always gets through
its round. -/

namespace SmoltcpSocks

open TcpSocket

namespace System

variable {σ : Type} [TcpSocket σ]

/-- A step is, for each connection, one that its session allows. -/
def Everywhere (allowed : Session σ → SessionAction σ → Prop) (sys : System σ) (action : SystemAction σ) : Prop :=
  ∀ chan s a, sys.view chan = some s → sys.on chan action = some a → allowed s a

/-- The runs of the program in which every connection keeps to a side condition. -/
def Runs (allowed : Session σ → SessionAction σ → Prop) (start : System σ) :
    List (SystemAction σ) → System σ → Prop :=
  Transition.Run System.step (fun sys action => action.FreshHandles ∧ sys.Everywhere allowed action) start

/-- The connections are those of the tasks. -/
instance (allowed : Session σ → SessionAction σ → Prop) [∀ s a, Decidable (allowed s a)] (sys : System σ)
    (action : SystemAction σ) : Decidable (sys.Everywhere allowed action) :=
  decidable_of_iff
    (∀ e ∈ sys.tasks.entries, ((sys.on e.1 action).all fun a => decide (allowed (sys.session e.2) a)) = true) <| by
    constructor
    · intro hall chan s a hview hon
      obtain ⟨task, htask, rfl⟩ := view_eq_some_iff.mp hview
      have hmem := hall ⟨chan, task⟩ (List.of_mem_dlookup htask)
      simpa only [hon, Option.all_some, decide_eq_true_eq] using hmem
    · intro hall e hmem
      rw [Option.all_eq_true]
      intro a hon
      have htask : sys.tasks.lookup e.1 = some e.2 := List.mem_dlookup sys.tasks.nodupKeys hmem
      exact decide_eq_true (hall e.1 _ a (view_eq_some_iff.mpr ⟨e.2, htask, rfl⟩) hon)

/-- Executing a list of actions from the start shows that a run reaches a state with a given property. -/
theorem exists_run_of_execute {start : Alloc σ} {allowed : System σ → SystemAction σ → Prop}
    [∀ sys action, Decidable (allowed sys action)] {trace : List (SystemAction σ)} {p : System σ → Bool}
    (hfresh : ∀ action ∈ trace, action.FreshHandles)
    (h : ((spawn start).bind fun sys => Transition.execute System.step allowed sys trace).any p = true) :
    ∃ sys₀ sys, spawn start = some sys₀ ∧
      Transition.Run System.step (fun sys action => action.FreshHandles ∧ allowed sys action) sys₀ trace sys ∧
      p sys = true := by
  rcases hspawn : spawn start with _ | sys₀
  · rw [hspawn] at h
    cases h
  · rw [hspawn, Option.bind_some] at h
    obtain ⟨sys, hrun, hp⟩ := Transition.Run.exists_of_execute h
    exact ⟨sys₀, sys, rfl, hrun.mono fun action hmem _ hallowed => ⟨hfresh action hmem, hallowed⟩, hp⟩

variable [LawfulTcpSocket σ] {start : Alloc σ} {sys₀ sys : System σ} {trace : List (SystemAction σ)}
  {allowed : Session σ → SessionAction σ → Prop} {chan : ChanId} {s : Session σ}

/-- Nothing but the listener pool is there at the start. -/
structure Fresh (a : NetstackActor σ) : Prop where
  conns : a.conns = ∅
  answers : ∀ chan, a.answers chan = .none
  accepted : a.accepted = []
  acceptedClosed : a.acceptedClosed = false
  history : a.history = []
  capacity : a.capacity = ACCEPTED_CAPACITY
  nextChan : a.nextChan = 0
  calls : ∀ handle slot, a.sockets.lookup handle = some slot → slot.socket.calls = []

omit [LawfulTcpSocket σ] in
theorem Fresh.addListener {a : NetstackActor σ} {listener : Traced σ} (h : Fresh a)
    (hnew : NetstackActor.NewListener listener) (handle : SocketHandle) (listeners : List SocketHandle) :
    Fresh { a.add handle listener with listeners := listeners } := by
  refine ⟨h.conns, h.answers, h.accepted, h.acceptedClosed, h.history, h.capacity, h.nextChan, ?_⟩
  intro handle' slot hslot
  simp only [NetstackActor.add, Table.lookup_insert_eq] at hslot
  split at hslot
  · cases hslot
    exact hnew.calls
  · exact h.calls handle' slot hslot

theorem fresh_of_withChannels {a : NetstackActor σ}
    (h : NetstackActor.withChannels start ACCEPTED_CAPACITY = some a) : Fresh a := by
  have hempty : Fresh (NetstackActor.empty ACCEPTED_CAPACITY : NetstackActor σ) := by
    refine ⟨rfl, fun _ => rfl, rfl, rfl, rfl, rfl, rfl, ?_⟩
    intro handle slot hslot
    cases hslot
  obtain ⟨b, hb, hfresh⟩ : ∃ b, NetstackActor.withChannels start ACCEPTED_CAPACITY = some b ∧ _ ∧ Fresh b :=
    NetstackActor.addListeners_induction (I := fun a _ => Fresh a)
      (fun hnew h => h.addListener hnew _ _) LISTENER_POOL_SIZE hempty
  cases hb.symm.trans h
  exact hfresh.2

/-- The program starts with its tables in order and without a connection. -/
theorem spawn_eq (hstart : start.Fresh) : ∃ a : NetstackActor σ,
    spawn start = some ⟨a, .poll, ∅, .new 1, false⟩ ∧ Fresh a ∧
      a.listeners.length = LISTENER_POOL_SIZE ∧ Ordered ⟨a, .poll, ∅, .new 1, false⟩ := by
  obtain ⟨a, ha, hlength, howns⟩ := NetstackActor.owns_withChannels hstart ACCEPTED_CAPACITY
  have hfresh := fresh_of_withChannels ha
  refine ⟨a, by rw [spawn, ha]; rfl, hfresh, hlength, ⟨howns, fun chan _ => hfresh.answers chan, ?_, ?_⟩, trivial⟩
  · intro chan task hlookup
    cases hlookup
  · intro handle conn hlookup
    rw [hfresh.conns] at hlookup
    cases hlookup

theorem Ordered.run (h : Ordered sys₀) (hrun : Runs allowed sys₀ trace sys) : Ordered sys :=
  Transition.Run.invariant (fun _ _ _ h hallowed hstep => h.step hallowed.1 hstep) hrun h

omit [LawfulTcpSocket σ] in
/-- In the run that leads to `sys`, the connection was handed over as `s₀`. -/
def HandedOverAs (allowed : Session σ → SessionAction σ → Prop) (sys₀ : System σ) (trace : List (SystemAction σ))
    (sys : System σ) (chan : ChanId) (s₀ : Session σ) : Prop :=
  Transition.Born System.step (fun sys action => action.FreshHandles ∧ sys.Everywhere allowed action)
    (fun sys => sys.view chan) sys₀ trace sys s₀

/-- The run of a connection inside a run of the program. -/
theorem Ordered.session_run (h : Ordered sys₀) (hnone : sys₀.view chan = none) (hrun : Runs allowed sys₀ trace sys)
    (hview : sys.view chan = some s) : ∃ s₀ ctrace, HandedOverAs allowed sys₀ trace sys chan s₀ ∧
      IsHandedOver chan s₀ ∧ Transition.Run Session.step allowed s₀ ctrace s := by
  have hcomponent : ∃ s₀ ctrace, HandedOverAs allowed sys₀ trace sys chan s₀ ∧
      Transition.Run Session.step allowed s₀ ctrace s := by
    apply Transition.Run.component (fun sys => sys.view chan) (I := Ordered) ?_ ?_ h hnone hrun hview
    · exact fun _ _ _ h hallowed hstep => h.step hallowed.1 hstep
    · intro sys action sys' s h hallowed hstep hview
      have hnext := step_view h hallowed.1 hstep hview
      rcases hon : sys.on chan action with _ | a <;> rw [hon] at hnext
      · exact Or.inl hnext
      · obtain ⟨s', hs', hview'⟩ := hnext
        exact Or.inr ⟨a, s', hallowed.2 chan s a hview hon, hs', hview'⟩
  obtain ⟨s₀, ctrace, hborn, hsrun⟩ := hcomponent
  refine ⟨s₀, ctrace, hborn, ?_, hsrun⟩
  obtain ⟨before, action, after, sys₁, sys₂, _, hbefore, _, hstep, _, hnone, hview⟩ := hborn
  exact (step_born (h.run hbefore) hstep hnone hview).2

/-- What holds of every connection that was just accepted and is kept by every step of a session holds of every
connection of the program. -/
theorem Ordered.session_invariant (h : Ordered sys₀) (hnone : sys₀.view chan = none) (hrun : Runs allowed sys₀ trace sys)
    (hview : sys.view chan = some s) {I : Session σ → Prop}
    (haccepted : ∀ vconn socket client incoming, I (Session.accepted vconn socket client incoming))
    (hstep : ∀ s a t, I s → Session.step s a = some t → I t) : I s := by
  obtain ⟨s₀, ctrace, _, ⟨loc, remote, socket, client, incoming, rfl, _⟩, hsrun⟩ :=
    h.session_run hnone hrun hview
  exact hsrun.invariant (fun _ _ _ h _ hnext => hstep _ _ _ h hnext) (haccepted _ socket client incoming)

theorem vconn_of_run {s₀ : Session σ} {ctrace : List (SessionAction σ)}
    (hrun : Transition.Run Session.step allowed s₀ ctrace s) : s.vconn = s₀.vconn :=
  hrun.invariant (I := fun s => s.vconn = s₀.vconn)
    (fun _ _ _ h _ hstep => (Session.step_conn hstep).1.trans h) rfl

def deliver (bytes : SocketHandle → List UInt8) : SocketHandle → BufferedSocket → BufferedSocket :=
  fun handle socket => { socket with rxBuffer := socket.rxBuffer ++ bytes handle }

/-- The steps of the actor from a poll up to the wait, with the turns of `try_accept` and `service`. -/
def roundSteps (poll : SystemAction BufferedSocket) (turns : List (List UInt8 × List UInt8))
    (order : List SocketHandle) (service : List (SystemAction BufferedSocket)) :
    List (SystemAction BufferedSocket) :=
  poll :: turns.map (fun turn => .acceptNext .firstFree turn.1 turn.2) ++ .serviceCommands order :: service ++
    [.serviceDone, .egress NetstackActor.idle, .wake]

/-- Two clients connect at once and send a byte each, which their relays read in turns. -/
def twoClients : List (SystemAction BufferedSocket) :=
  roundSteps (.poll (fun handle socket => NetstackActor.handshake 0 handle (NetstackActor.handshake 1 handle socket))
      fun _ => []) [([7], []), ([8], []), ([], []), ([], [])] [0, 1]
      [.entryBegin, .entryEnd, .entryBegin, .dispatch, .relay 0 (.connect (.ok ())), .entryEnd] ++
    [.dispatch, .relay 1 (.connect (.ok ())), .relay 1 .readSend, .relay 0 .readSend] ++
    roundSteps (.poll (deliver fun handle => if handle = 0 then [7] else if handle = 1 then [8] else [])
      fun chan => if chan = 0 then [7] else [8]) [([], []), ([], []), ([], []), ([], [])] [1, 0]
      [.entryBegin, .entryNext, .entryEnd, .entryBegin, .relay 1 .readRecv, .entryNext, .entryEnd] ++
    [.relay 0 .readRecv, .relay 0 (.writeSome 1), .relay 1 (.writeSome 1)]

theorem twoClients_fresh : ∀ action ∈ twoClients, action.FreshHandles := by
  simp [twoClients, roundSteps, SystemAction.FreshHandles, Alloc.firstFree_fresh]

theorem twoClients_append_fresh {n : Nat} {more : List (SystemAction BufferedSocket)}
    (h : more.any SystemAction.makesSocket = false) : ∀ action ∈ twoClients.take n ++ more, action.FreshHandles := by
  intro action hmem
  rcases List.mem_append.mp hmem with hmem | hmem
  · exact twoClients_fresh action (List.mem_of_mem_take hmem)
  · apply SystemAction.freshHandles_of_makesSocket
    simpa using List.any_eq_false.mp h action hmem

theorem twoClients_run : ∃ sys₀ sys : System BufferedSocket, spawn .firstFree = some sys₀ ∧
    Runs Session.ArrivesInOrder sys₀ twoClients sys ∧ ∃ s s', sys.view 0 = some s ∧ sys.view 1 = some s' ∧
      s.given = [7] ∧ s'.given = [8] := by
  have hexec : ((spawn .firstFree).bind fun sys => Transition.execute System.step
      (Everywhere Session.ArrivesInOrder) sys twoClients).any (fun sys => decide
        ((sys.view 0).map Session.given = some [7] ∧ (sys.view 1).map Session.given = some [8])) = true := by
    decide +kernel
  obtain ⟨sys₀, sys, hspawn, hrun, hs⟩ := exists_run_of_execute twoClients_fresh hexec
  obtain ⟨hgiven, hgiven'⟩ := of_decide_eq_true hs
  obtain ⟨s, hview, hs⟩ := Option.map_eq_some_iff.mp hgiven
  obtain ⟨s', hview', hs'⟩ := Option.map_eq_some_iff.mp hgiven'
  exact ⟨sys₀, sys, hspawn, hrun, s, s', hview, hview', hs, hs'⟩

/-- The program starts, and every connection that is there in any state of any of its runs has made a run of
its own session from its hand-over on. A further step is for it the step of its session that `on` names, or
leaves it as it is: nothing that the other connections, their relays and their clients do is seen by it. -/
theorem connections_are_sessions (hstart : start.Fresh) (allowed : Session σ → SessionAction σ → Prop) :
    ∃ sys₀, spawn start = some sys₀ ∧ ∀ trace sys, Runs allowed sys₀ trace sys →
      ∀ chan s, sys.view chan = some s →
        (∃ s₀ ctrace, HandedOverAs allowed sys₀ trace sys chan s₀ ∧ IsHandedOver chan s₀ ∧
          Transition.Run Session.step allowed s₀ ctrace s) ∧
        ∀ action sys', action.FreshHandles → sys.step action = some sys' →
          match sys.on chan action with
          | none => sys'.view chan = some s
          | some a => ∃ s', s.step a = some s' ∧ sys'.view chan = some s' := by
  obtain ⟨a, ha, _, _, hordered⟩ := spawn_eq hstart
  refine ⟨_, ha, fun trace sys hrun chan s hview => ⟨hordered.session_run rfl hrun hview, ?_⟩⟩
  exact fun action sys' hfresh hstep => step_view (hordered.run hrun) hfresh hstep hview

/-- Two clients that connect at once, their tasks interleaved: the second connection has made its own run. -/
theorem connections_are_sessions_two_clients :
    ∃ sys₀ sys : System BufferedSocket, spawn .firstFree = some sys₀ ∧
      Runs Session.ArrivesInOrder sys₀ twoClients sys ∧ ∃ s, sys.view 1 = some s ∧ s.given = [8] ∧
        ∃ s₀ ctrace, HandedOverAs Session.ArrivesInOrder sys₀ twoClients sys 1 s₀ ∧ IsHandedOver 1 s₀ ∧
          Transition.Run Session.step Session.ArrivesInOrder s₀ ctrace s := by
  obtain ⟨sys₀, sys, hspawn, hrun, _, s, _, hview, _, hs⟩ := twoClients_run
  obtain ⟨sys₁, hspawn₁, hall⟩ := connections_are_sessions (σ := BufferedSocket) Alloc.firstFree_fresh
    Session.ArrivesInOrder
  cases hspawn.symm.trans hspawn₁
  exact ⟨sys₀, sys, hspawn, hrun, s, hview, hs, (hall twoClients sys hrun 1 s hview).1⟩

/-- In every state of every run, with any number of connections and any interleaving of their tasks, what was
given to the upstream of a connection is a prefix of what the client behind its own socket sends, counted from its
hand-over in this run; what was sent to that client is a prefix of what was read from its own upstream, the
directions that returned `Ok` have carried everything, and the upstream was dialled for the destination that this
socket was connected to. -/
theorem bytes_stay_in_their_connection (hstart : start.Fresh) :
    ∃ sys₀ : System σ, spawn start = some sys₀ ∧ ∀ trace sys, Runs Session.ArrivesInOrder sys₀ trace sys →
      ∀ chan s, sys.view chan = some s → ∃ (s₀ : Session σ) (loc : IpEndpoint),
        HandedOverAs Session.ArrivesInOrder sys₀ trace sys chan s₀ ∧
        localEndpoint s₀.socket = some loc ∧ s.vconn.destination = ⟨loc.addr, loc.port⟩ ∧
        s.given <+: s₀.unread ∧ (s.up = .returned (.ok ()) → s.given = s₀.unread) ∧
        s.socket.sent <+: s.received ∧ s.received ++ s.incoming = s₀.incoming ∧
        (s.down = .returned (.ok ()) → s.socket.sent = s₀.incoming) := by
  obtain ⟨a, ha, _, _, hordered⟩ := spawn_eq hstart
  refine ⟨_, ha, fun trace sys hrun chan s hview => ?_⟩
  obtain ⟨s₀, ctrace, hborn, ⟨loc, remote, socket, client, incoming, rfl, _, hloc, _, hfin⟩, hsrun⟩ :=
    hordered.session_run rfl hrun hview
  have hup := Session.Up.of_run hfin hsrun
  have hdown : Session.Down incoming s := hsrun.invariant (fun _ _ _ h _ hstep => h.step hstep) (.accepted _ _ _ _)
  refine ⟨_, loc, hborn, hloc, ?_, hup.data.given_prefix, ?_, hdown.data.sent_prefix, hdown.account, ?_⟩
  · rw [vconn_of_run hsrun]
    rfl
  · intro hok
    have hdata := hup.data
    rw [hok] at hdata
    exact hdata.1
  · intro hok
    have hdata := hdown.data
    rw [hok] at hdata
    obtain ⟨hsent, hincoming, _⟩ := hdata
    rw [hsent, ← hdown.account, hincoming, List.append_nil] at *
    rfl

/-- Each byte of two clients that connect at once has gone to its own upstream. -/
theorem bytes_stay_in_their_connection_two_clients :
    ∃ sys₀ sys : System BufferedSocket, spawn .firstFree = some sys₀ ∧
      Runs Session.ArrivesInOrder sys₀ twoClients sys ∧ ∃ s s', sys.view 0 = some s ∧ sys.view 1 = some s' ∧
        s.given = [7] ∧ s'.given = [8] ∧ ∃ s₀ : Session BufferedSocket,
          HandedOverAs Session.ArrivesInOrder sys₀ twoClients sys 0 s₀ ∧ s.given <+: s₀.unread := by
  obtain ⟨sys₀, sys, hspawn, hrun, s, s', hview, hview', hs, hs'⟩ := twoClients_run
  obtain ⟨sys₁, hspawn₁, hall⟩ := bytes_stay_in_their_connection (σ := BufferedSocket) Alloc.firstFree_fresh
  cases hspawn.symm.trans hspawn₁
  obtain ⟨s₀, _, hborn, _, _, hprefix, _⟩ := hall twoClients sys hrun 0 s hview
  exact ⟨sys₀, sys, hspawn, hrun, s, s', hview, hview', hs, hs', s₀, hborn, hprefix⟩

/-! ### The actor's round -/

/-- The next step of the actor inside its round is possible: no socket and no entry it looks up is missing, and
`service` can always take the next command or return. -/
def Proceeds (sys : System σ) : Prop :=
  match sys.phase with
  | .accepting _ (handle :: _) => ∃ slot, sys.actor.sockets.lookup handle = some slot ∧
      ∀ alloc client incoming, (rxFinReceived slot.socket = true → client = []) →
        ∃ sys', sys.step (.acceptNext alloc client incoming) = some sys'
  | .accepting _ [] => ∀ order, order.Perm sys.actor.conns.keys →
      ∃ sys', sys.step (.serviceCommands order) = some sys'
  | .servicing (_ :: _) => ∃ sys', sys.step .entryBegin = some sys'
  | .servicing [] => ∃ sys', sys.step .serviceDone = some sys'
  | .serving _ _ => (∃ sys', sys.step .entryNext = some sys') ∨ ∃ sys', sys.step .entryEnd = some sys'
  | _ => True

theorem Ordered.acceptNext (h : Ordered sys) {processed rest : List SocketHandle} {handle : SocketHandle}
    (hphase : sys.phase = .accepting processed (handle :: rest)) :
    ∃ slot, sys.actor.sockets.lookup handle = some slot ∧
      ∀ alloc client incoming, (rxFinReceived slot.socket = true → client = []) →
        ∃ sys', sys.step (.acceptNext alloc client incoming) = some sys' := by
  have hmem : handle ∈ sys.actor.sockets := by
    rw [h.owns.exact, h.listeners_eq hphase]
    exact Or.inl (by simp)
  obtain ⟨slot, hslot⟩ := Table.mem_iff.mp hmem
  refine ⟨slot, hslot, fun alloc client incoming hfin => ?_⟩
  obtain ⟨a, handle', haccept, _⟩ := NetstackActor.acceptSlot_step alloc hmem
  have hguard : (!rxFinReceived slot.socket || client.isEmpty) = true := by
    rcases hcase : rxFinReceived slot.socket
    · rfl
    · rw [hfin hcase]
      rfl
  refine ⟨(sys.handOverTo a handle client incoming).turned processed rest handle', ?_⟩
  rw [System.step, System.acceptNext, hphase]
  refine Option.bind_eq_some_iff.mpr ⟨slot, hslot, Option.bind_eq_some_iff.mpr ⟨(), if_pos hguard, ?_⟩⟩
  exact Option.bind_eq_some_iff.mpr ⟨(a, handle'), haccept, rfl⟩

omit [LawfulTcpSocket σ] in
theorem Ordered.serve (h : Ordered sys) {handle : SocketHandle} {conn : ConnState}
    (hconn : sys.actor.conns.lookup handle = some conn) {a : SessionAction σ} (phase : Phase)
    (hstep : ∀ s : Session σ, s.conn = some conn → s.serving = sys.isServing handle → ∃ t, s.step a = some t) :
    ∃ sys', sys.serve handle a phase = some sys' := by
  obtain ⟨task, htask, rfl⟩ := h.held hconn
  have hentry : sys.entry task = some conn := entry_eq_some_iff.mpr ⟨hconn, (h.keyed htask).1.symm⟩
  obtain ⟨t, ht⟩ := hstep (sys.session task) hentry (by simp [session, hentry])
  refine ⟨{ sys.put task t with phase := phase }, ?_⟩
  simp only [System.serve, hconn, htask, ht, Option.bind_eq_bind, Option.bind_some]

/-- Inside its round the actor always gets on. -/
theorem Ordered.proceeds (h : Ordered sys) : Proceeds sys := by
  have hphased := h.phased
  unfold Phased at hphased
  unfold Proceeds
  rcases hphase : sys.phase with _ | ⟨processed, _ | ⟨handle, rest⟩⟩ | (_ | ⟨handle, rest⟩) | ⟨handle, rest⟩ |
    _ | _ | _ <;> rw [hphase] at hphased <;> try trivial
  · intro order horder
    refine ⟨{ sys with phase := .servicing order }, ?_⟩
    rw [System.step, hphase]
    exact if_pos horder
  · exact h.acceptNext hphase
  · exact ⟨{ sys with phase := .egress }, by rw [System.step, hphase]⟩
  · obtain ⟨conn, hconn⟩ := Table.mem_iff.mp (hphased.2 handle List.mem_cons_self)
    rw [System.step, hphase]
    apply h.serve hconn
    intro s hs hserving
    rw [isServing, hphase] at hserving
    exact ⟨{ s.install (Service.serviceIo s.callers ⟨conn, s.socket, s.answers⟩) with serving := true },
      by simp [Session.step, Session.serviceBegin, hs, hserving]⟩
  · obtain ⟨conn, hconn⟩ := Table.mem_iff.mp (hphased.2 handle List.mem_cons_self)
    have hflag : sys.isServing handle = true := by simp [isServing, hphase]
    have hnext : sys.step .entryNext = sys.serve handle .serviceNext (.serving handle rest) := by
      rw [System.step, hphase]
    have hend : sys.step .entryEnd = sys.serve handle .serviceEnd (.servicing rest) := by
      rw [System.step, hphase]
    rw [hnext, hend]
    rcases hqueue : conn.cmdRx.queue with _ | ⟨cmd, queue⟩
    · refine Or.inr (h.serve hconn _ fun s hs hserving => ?_)
      rw [hflag] at hserving
      rcases hclosed : conn.cmdRx.closed <;>
        simp [Session.step, Session.serviceEnd, hs, hserving, CmdReceiver.isEmpty, CmdReceiver.isClosed, hqueue,
          hclosed]
    · refine Or.inl (h.serve hconn _ fun s hs hserving => ?_)
      rw [hflag] at hserving
      exact ⟨s.install (Service.serviceCmd s.callers ⟨conn, s.socket, s.answers⟩ cmd queue),
        by simp [Session.step, Session.serviceNext, hs, hserving, CmdReceiver.tryRecv, hqueue]⟩

def Pooled (sys : System σ) : Prop :=
  sys.running = true → sys.actor.listeners.length = LISTENER_POOL_SIZE

theorem Pooled.step {sys' : System σ} {action : SystemAction σ} (hpool : Pooled sys) (h : Ordered sys)
    (hstep : sys.step action = some sys') : Pooled sys' := by
  unfold Pooled at hpool ⊢
  cases step_move hstep with
  | acceptNext alloc client incoming processed rest handle handle' slot next hphase =>
      intro _
      have hlength := hpool (by simp [running, hphase])
      rw [h.listeners_eq hphase] at hlength
      simpa [turned] using hlength
  | poll _ _ hphase | egress _ hphase | serviceDone hphase | wake hphase | serviceCommands _ _ hphase =>
      exact fun _ => hpool (by simp [running, hphase])
  | serve _ a phase handle conn task t hserves =>
      intro _
      refine (congrArg List.length (listeners_put h.toConsistent task t)).trans (hpool ?_)
      generalize hstand : sys.phase = stand at hserves
      cases hserves <;> simp [running, hstand]
  | stopRecv =>
      intro hrun
      cases hrun
  | relay chan a task t =>
      intro hrun
      exact (congrArg List.length (listeners_put h.toConsistent task t)).trans (hpool hrun)
  | dispatch | dispatcherEnd | stopGone | stopSend | handleDrop => exact hpool

/-- However the relays, the dispatcher and the owner of the handle interleave with the actor, also in the middle
of `try_accept` and of `service`: the socket set holds exactly the listeners and the connections, each once; the
pool keeps its size while the actor runs; no entry is ever overwritten; and inside a round the actor's next step
is always possible, so that it never panics. -/
theorem actor_never_panics (hstart : start.Fresh) :
    ∃ sys₀ : System σ, spawn start = some sys₀ ∧ ∀ trace sys, Runs (fun _ _ => True) sys₀ trace sys →
      (∀ handle, handle ∈ sys.actor.sockets ↔ handle ∈ sys.actor.listeners ∨ handle ∈ sys.actor.conns) ∧
      sys.actor.listeners.Nodup ∧ (∀ handle ∈ sys.actor.listeners, handle ∉ sys.actor.conns) ∧
      (sys.running = true → sys.actor.listeners.length = LISTENER_POOL_SIZE) ∧
      (∀ conn, .overwritten conn ∉ sys.actor.history) ∧ Proceeds sys := by
  obtain ⟨a, ha, _, hlength, hordered⟩ := spawn_eq hstart
  refine ⟨_, ha, fun trace sys hrun => ?_⟩
  have h := hordered.run hrun
  have hpool : Pooled sys := by
    refine (Transition.Run.invariant (I := fun sys => Ordered sys ∧ Pooled sys) ?_ hrun ⟨hordered, fun _ => hlength⟩).2
    exact fun _ _ _ h hallowed hstep => ⟨h.1.step hallowed.1 hstep, h.2.step h.1 hstep⟩
  exact ⟨h.owns.exact, h.owns.distinct, h.owns.disjoint, hpool, h.owns.kept, h.proceeds⟩

/-- In the middle of `service` on the second of two entries, with the first relay already dialling. -/
theorem actor_never_panics_in_service :
    ∃ sys₀ sys : System BufferedSocket, spawn .firstFree = some sys₀ ∧
      Runs (fun _ _ => True) sys₀ (twoClients.take 11) sys ∧ sys.isServing 1 = true ∧
      sys.actor.conns.keys = [0, 1] ∧ Proceeds sys := by
  have hexec : ((spawn .firstFree).bind fun sys => Transition.execute System.step
      (Everywhere fun _ _ => True) sys (twoClients.take 11)).any (fun sys => decide
        (sys.isServing 1 = true ∧ sys.actor.conns.keys = [0, 1])) = true := by decide +kernel
  obtain ⟨sys₀, sys, hspawn, hrun, hs⟩ := exists_run_of_execute
    (fun action hmem => twoClients_fresh action (List.mem_of_mem_take hmem)) hexec
  obtain ⟨hserving, hkeys⟩ := of_decide_eq_true hs
  obtain ⟨sys₁, hspawn₁, hall⟩ := actor_never_panics (σ := BufferedSocket) Alloc.firstFree_fresh
  cases hspawn.symm.trans hspawn₁
  exact ⟨sys₀, sys, hspawn, hrun, hserving, hkeys, (hall _ sys hrun).2.2.2.2.2⟩

end System

end SmoltcpSocks
