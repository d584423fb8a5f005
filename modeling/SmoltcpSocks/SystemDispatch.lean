import SmoltcpSocks.ActorIdentity
import SmoltcpSocks.SystemRun

/-! The dispatcher: every connection that `try_accept` hands over is dialled exactly once, in the order of the
hand-overs, also when the actor stops with connections still in the queue. -/

namespace SmoltcpSocks

open TcpSocket

/-- The VConn that a relay was started for. -/
def ActorEvent.asDialled {σ : Type} : ActorEvent σ → Option VConn
  | .dialled vconn _ _ => some vconn
  | _ => none

namespace NetstackActor

variable {σ : Type}

def handed (a : NetstackActor σ) : List VConn := a.handOvers.map HandOver.vconn

def dialled (a : NetstackActor σ) : List VConn := a.history.filterMap ActorEvent.asDialled

theorem handed_handOver (a : NetstackActor σ) (handle : SocketHandle) (slot : Slot σ) (vconn : VConn) :
    (a.handOver handle slot vconn).handed = a.handed ++ [vconn] := by
  rw [handed, handOvers_handOver, List.map_append]
  rfl

theorem dialled_handOver (a : NetstackActor σ) (handle : SocketHandle) (slot : Slot σ) (vconn : VConn) :
    (a.handOver handle slot vconn).dialled = a.dialled := by
  simp [dialled, handOver, record, ActorEvent.asDialled]

theorem handed_remove (a : NetstackActor σ) (handle : SocketHandle) (slot : Slot σ) :
    (a.remove handle slot).handed = a.handed := by
  rw [handed, handOvers_remove, handed]

theorem dialled_remove (a : NetstackActor σ) (handle : SocketHandle) (slot : Slot σ) :
    (a.remove handle slot).dialled = a.dialled := by
  simp [dialled, remove, record, ActorEvent.asDialled]

end NetstackActor

namespace System

variable {σ : Type} {sys sys' : System σ} {chan : ChanId} {task : Task σ}

/-- What the dispatcher sees of a task. -/
def label (sys : System σ) (chan : ChanId) : Option (VConn × Bool) :=
  (sys.tasks.lookup chan).map fun task => (task.vconn, task.started)

/-- The hand-overs are those that were dialled, followed by those in the queue; their channels are numbered in
this order, and exactly the tasks of the dialled ones are started. -/
structure Dispatched (sys : System σ) : Prop where
  order : sys.actor.handed = sys.actor.dialled ++ sys.actor.accepted.map Prod.fst
  numbered : sys.actor.handed.map VConn.cmd = List.range sys.actor.nextChan
  known : ∀ vconn ∈ sys.actor.handed, ∃ started, sys.label vconn.cmd = some (vconn, started)
  listed : ∀ {chan vconn started}, sys.label chan = some (vconn, started) → vconn ∈ sys.actor.handed
  started : ∀ {chan vconn started}, sys.label chan = some (vconn, started) →
    (started = true ↔ vconn ∈ sys.actor.dialled)
  named : ∀ e ∈ sys.actor.accepted, e.2 = e.1.connMeta
  capacity : sys.actor.capacity = ACCEPTED_CAPACITY
  room : sys.actor.accepted.length ≤ ACCEPTED_CAPACITY
  ended : sys.actor.acceptedClosed = true → sys.phase = .stopped ∧ sys.actor.accepted = []

/-- What the actor and the dispatcher know of the queue. -/
structure SameQueue (sys sys' : System σ) : Prop where
  handed : sys'.actor.handed = sys.actor.handed
  dialled : sys'.actor.dialled = sys.actor.dialled
  accepted : sys'.actor.accepted = sys.actor.accepted
  nextChan : sys'.actor.nextChan = sys.actor.nextChan
  capacity : sys'.actor.capacity = sys.actor.capacity
  label : ∀ chan, sys'.label chan = sys.label chan

/-- A step that neither hands over nor dials. -/
theorem Dispatched.frame (h : Dispatched sys) (hsame : SameQueue sys sys')
    (hended : sys'.actor.acceptedClosed = true → sys'.phase = .stopped ∧ sys.actor.accepted = []) :
    Dispatched sys' := by
  refine ⟨?_, ?_, ?_, ?_, ?_, ?_, ?_, ?_, ?_⟩
  · rw [hsame.handed, hsame.dialled, hsame.accepted]
    exact h.order
  · rw [hsame.handed, hsame.nextChan]
    exact h.numbered
  · rw [hsame.handed]
    intro vconn hmem
    rw [hsame.label]
    exact h.known vconn hmem
  · intro chan vconn started hlabel
    rw [hsame.handed]
    exact h.listed ((hsame.label chan).symm.trans hlabel)
  · intro chan vconn started hlabel
    rw [hsame.dialled]
    exact h.started ((hsame.label chan).symm.trans hlabel)
  · rw [hsame.accepted]
    exact h.named
  · exact hsame.capacity.trans h.capacity
  · rw [hsame.accepted]
    exact h.room
  · rw [hsame.accepted]
    exact hended

theorem Dispatched.nodup (h : Dispatched sys) : (sys.actor.handed.map VConn.cmd).Nodup := by
  rw [h.numbered]
  exact List.nodup_range

theorem Dispatched.handedOver [TcpSocket σ] (h : Dispatched sys) (hlive : sys.phase ≠ .stopped) (alloc : Alloc σ)
    (handle : SocketHandle) (slot : Slot σ) (m : ConnMeta) (listener : Traced σ) (client incoming : List UInt8)
    (hroom : sys.actor.hasRoom = true) :
    Dispatched (sys.handedOver alloc handle slot ⟨m, sys.actor.nextChan⟩ listener client incoming) := by
  generalize hnext : sys.handedOver alloc handle slot ⟨m, sys.actor.nextChan⟩ listener client incoming = next
  have hhanded : next.actor.handed = sys.actor.handed ++ [⟨m, sys.actor.nextChan⟩] := by
    rw [← hnext, ← NetstackActor.handed_handOver sys.actor handle slot]
    rfl
  have hdialled : next.actor.dialled = sys.actor.dialled := by
    rw [← hnext, ← NetstackActor.dialled_handOver sys.actor handle slot ⟨m, sys.actor.nextChan⟩]
    rfl
  have haccepted : next.actor.accepted = sys.actor.accepted ++ [(⟨m, sys.actor.nextChan⟩, m)] := by
    rw [← hnext]
    rfl
  have hcount : next.actor.nextChan = sys.actor.nextChan + 1 := by
    rw [← hnext]
    rfl
  have hlabel : ∀ chan, next.label chan =
      if chan = sys.actor.nextChan then some (⟨m, sys.actor.nextChan⟩, false) else sys.label chan := by
    intro chan
    rw [← hnext]
    simp only [label, System.handedOver, Table.lookup_insert_eq]
    split <;> rfl
  -- the new channel is none of the old ones
  have hold : ∀ vconn ∈ sys.actor.handed, vconn.cmd ≠ sys.actor.nextChan := by
    intro vconn hmem
    have hrange : vconn.cmd ∈ List.range sys.actor.nextChan := h.numbered ▸ List.mem_map_of_mem hmem
    exact Nat.ne_of_lt (List.mem_range.mp hrange)
  simp only [NetstackActor.hasRoom, Bool.and_eq_true, Bool.not_eq_true', decide_eq_true_eq] at hroom
  refine ⟨?_, ?_, ?_, ?_, ?_, ?_, ?_, ?_, ?_⟩
  · rw [hhanded, hdialled, haccepted, h.order]
    simp
  · rw [hhanded, hcount, List.map_append, h.numbered, List.range_succ]
    rfl
  · intro vconn hmem
    rw [hhanded] at hmem
    rcases List.mem_append.mp hmem with hmem | hmem
    · rw [hlabel, if_neg (hold vconn hmem)]
      exact h.known vconn hmem
    · obtain rfl := List.mem_singleton.mp hmem
      exact ⟨false, by rw [hlabel, if_pos rfl]⟩
  · intro chan vconn started hsome
    rw [hlabel] at hsome
    rw [hhanded]
    split at hsome
    · cases hsome
      exact List.mem_append_right _ (List.mem_singleton_self _)
    · exact List.mem_append_left _ (h.listed hsome)
  · intro chan vconn started hsome
    rw [hlabel] at hsome
    rw [hdialled]
    split at hsome
    · cases hsome
      refine ⟨fun hfalse => absurd hfalse Bool.false_ne_true, fun hmem => ?_⟩
      have hmem' : (⟨m, sys.actor.nextChan⟩ : VConn) ∈ sys.actor.handed := by
        rw [h.order]
        exact List.mem_append_left _ hmem
      exact absurd rfl (hold _ hmem')
    · exact h.started hsome
  · rw [haccepted]
    intro e hmem
    rcases List.mem_append.mp hmem with hmem | hmem
    · exact h.named e hmem
    · rw [List.mem_singleton.mp hmem]
  · rw [← hnext]
    exact h.capacity
  · rw [haccepted, List.length_append, ← h.capacity]
    exact hroom.2
  · rw [← hnext]
    intro hclosed
    exact absurd (h.ended hclosed).1 hlive

theorem Dispatched.dispatch (h : Dispatched sys) {vconn : VConn} {m : ConnMeta} {rest : List (VConn × ConnMeta)}
    (haccepted : sys.actor.accepted = (vconn, m) :: rest) (htask : sys.tasks.lookup vconn.cmd = some task)
    (hkeyed : ∀ {chan task}, sys.tasks.lookup chan = some task → task.vconn.cmd = chan) :
    Dispatched { sys with
      actor := { sys.actor with accepted := rest }.record [.dialled vconn m vconn.destination]
      tasks := sys.tasks.insert vconn.cmd { task with started := true } } := by
  generalize hnext : ({ sys with
      actor := { sys.actor with accepted := rest }.record [.dialled vconn m vconn.destination]
      tasks := sys.tasks.insert vconn.cmd { task with started := true } } : System σ) = next
  have horder : sys.actor.handed = (sys.actor.dialled ++ [vconn]) ++ rest.map Prod.fst := by
    rw [h.order, haccepted]
    simp
  have hhanded : next.actor.handed = sys.actor.handed := by
    rw [← hnext]
    simp [NetstackActor.handed, NetstackActor.handOvers, NetstackActor.record, ActorEvent.asHandOver]
  have hdialled : next.actor.dialled = sys.actor.dialled ++ [vconn] := by
    rw [← hnext]
    simp [NetstackActor.dialled, NetstackActor.record, ActorEvent.asDialled]
  have hmem : vconn ∈ sys.actor.handed := by
    rw [horder]
    simp
  -- the task of the queued connection is its own
  have hvconn : task.vconn = vconn := by
    obtain ⟨started, hlabel⟩ := h.known vconn hmem
    rw [label, htask] at hlabel
    cases hlabel
    rfl
  have hlabel : ∀ chan, next.label chan = if chan = vconn.cmd then some (vconn, true) else sys.label chan := by
    intro chan
    rw [← hnext]
    simp only [label, Table.lookup_insert_eq]
    split
    · rw [Option.map_some, hvconn]
    · rfl
  refine ⟨?_, ?_, ?_, ?_, ?_, ?_, ?_, ?_, ?_⟩
  · rw [hhanded, hdialled, ← hnext]
    exact horder
  · rw [hhanded, ← hnext]
    exact h.numbered
  · rw [hhanded]
    intro other hother
    rw [hlabel]
    split
    · rename_i heq
      have hinj := List.inj_on_of_nodup_map h.nodup hother hmem heq
      exact ⟨true, by rw [hinj]⟩
    · exact h.known other hother
  · intro chan other started hsome
    rw [hlabel] at hsome
    rw [hhanded]
    split at hsome
    · cases hsome
      exact hmem
    · exact h.listed hsome
  · intro chan other started hsome
    rw [hlabel] at hsome
    rw [hdialled, List.mem_append, List.mem_singleton]
    split at hsome
    · cases hsome
      simp
    · rename_i hne
      have hother : other ≠ vconn := by
        obtain ⟨task', htask', hpair⟩ := Option.map_eq_some_iff.mp hsome
        cases hpair
        intro heq
        exact hne ((hkeyed htask').symm.trans (congrArg VConn.cmd heq))
      rw [h.started hsome]
      simp [hother]
  · intro e hmem
    apply h.named e
    rw [haccepted]
    rw [← hnext] at hmem
    exact List.mem_cons_of_mem _ hmem
  · rw [← hnext]
    exact h.capacity
  · have hroom := h.room
    rw [haccepted] at hroom
    rw [← hnext]
    exact Nat.le_of_succ_le hroom
  · intro hclosed
    rw [← hnext] at hclosed
    have hempty := (h.ended hclosed).2
    rw [haccepted] at hempty
    cases hempty

/-- A change of one connection is nothing to the dispatcher. -/
theorem SameQueue.put (h : Consistent sys) (htask : sys.tasks.lookup chan = some task) (t : Session σ) (phase : Phase) :
    SameQueue sys { sys.put task t with phase := phase } := by
  have hlabel : ∀ other, System.label { sys.put task t with phase := phase } other = System.label sys other := by
    intro other
    have hcmd := (h.keyed htask).1
    simp only [System.label, System.put, Table.lookup_insert_eq]
    by_cases heq : other = task.vconn.cmd
    · rw [if_pos heq, heq, hcmd, htask]
      rfl
    · rw [if_neg heq]
  rcases putEntry_cases h task t with ⟨_, hput⟩ | ⟨_, slot, _, _, ⟨_, _, hput⟩ | ⟨_, hput⟩⟩ <;>
    simp only [System.put, hput] at hlabel ⊢
  · exact ⟨rfl, rfl, rfl, rfl, rfl, hlabel⟩
  · exact ⟨rfl, rfl, rfl, rfl, rfl, hlabel⟩
  · exact ⟨NetstackActor.handed_remove _ _ _, NetstackActor.dialled_remove _ _ _, rfl, rfl, rfl, hlabel⟩

theorem SameQueue.polled (change : SocketHandle → σ → σ) (arrived : ChanId → List UInt8) (phase : Phase) :
    SameQueue sys { sys.polled change arrived with phase := phase } := by
  refine ⟨rfl, rfl, rfl, rfl, rfl, fun chan => ?_⟩
  change ((sys.polled change arrived).tasks.lookup chan).map _ = (sys.tasks.lookup chan).map _
  rw [lookup_polled, Option.map_map]
  apply congrArg (Option.map · _)
  funext task
  simp only [Function.comp_apply, arriveAt]
  split <;> rfl

theorem SameQueue.dropActor : SameQueue sys sys.dropActor := by
  refine ⟨rfl, rfl, rfl, rfl, rfl, fun chan => ?_⟩
  simp only [System.label, System.dropActor, Table.lookup_map, Option.map_map]
  rfl

theorem acceptedClosed_put (h : Consistent sys) (task : Task σ) (t : Session σ) :
    (sys.put task t).actor.acceptedClosed = sys.actor.acceptedClosed := by
  rcases putEntry_cases h task t with ⟨_, hput⟩ | ⟨_, _, _, _, ⟨_, _, hput⟩ | ⟨_, hput⟩⟩ <;>
    simp [put, hput, NetstackActor.remove, NetstackActor.record]

variable [TcpSocket σ] [LawfulTcpSocket σ] {action : SystemAction σ}

omit [LawfulTcpSocket σ] in
/-- A turn of `try_accept` puts at most one connection into the queue. -/
theorem Dispatched.turn (h : Dispatched sys) {processed rest : List SocketHandle} {handle handle' : SocketHandle}
    {slot : Slot σ} {alloc : Alloc σ} {client incoming : List UInt8}
    (hphase : sys.phase = .accepting processed (handle :: rest))
    (hturn : Turn sys alloc client incoming handle slot sys' handle') :
    Dispatched (sys'.turned processed rest handle') := by
  have hlive : sys.phase ≠ .stopped := by
    rw [hphase]
    simp
  have hnext : Dispatched sys' ∧ sys'.actor.acceptedClosed = sys.actor.acceptedClosed := by
    cases hturn with
    | waits => exact ⟨h, rfl⟩
    | handedOver loc remote listener _ hroom _ =>
        exact ⟨h.handedOver hlive alloc handle slot _ listener client incoming hroom, rfl⟩
    | refused listener =>
        refine ⟨h.frame ⟨?_, ?_, rfl, rfl, rfl, fun _ => rfl⟩ h.ended, rfl⟩
        · exact NetstackActor.handed_remove _ _ _
        · exact NetstackActor.dialled_remove _ _ _
  refine hnext.1.frame ⟨rfl, rfl, rfl, rfl, rfl, fun _ => rfl⟩ fun hclosed => ?_
  exact absurd (h.ended (hnext.2 ▸ hclosed)).1 hlive

/-- Every step keeps the dispatcher's books. -/
theorem Dispatched.step (h : Dispatched sys) (hordered : Ordered sys) (hstep : sys.step action = some sys') :
    Dispatched sys' := by
  -- while the actor is in its loop the dispatcher goes on
  have hopen : sys.phase ≠ .stopped → sys.actor.acceptedClosed = true → False :=
    fun hlive hclosed => hlive (h.ended hclosed).1
  cases step_move hstep with
  | poll change arrived hphase =>
      exact h.frame (.polled change arrived _) fun hclosed => (hopen (by simp [hphase]) hclosed).elim
  | egress change hphase =>
      exact h.frame (.polled change _ _) fun hclosed => (hopen (by simp [hphase]) hclosed).elim
  | acceptNext alloc client incoming processed rest handle handle' slot next hphase _ _ hturn =>
      exact h.turn hphase hturn
  | serve _ a phase handle conn task t hserves _ htask _ =>
      refine h.frame (.put hordered.toConsistent htask t phase) fun hclosed => (hopen ?_ ?_).elim
      · generalize sys.phase = stand at hserves
        cases hserves <;> simp
      · rwa [acceptedClosed_put hordered.toConsistent] at hclosed
  | relay chan a task t htask =>
      refine h.frame (.put hordered.toConsistent htask t sys.phase) fun hclosed => ?_
      rw [acceptedClosed_put hordered.toConsistent] at hclosed
      exact h.ended hclosed
  | dispatch vconn m rest task haccepted htask =>
      exact h.dispatch haccepted htask fun hlookup => (hordered.keyed hlookup).1
  | stopRecv hphase => exact h.frame .dropActor fun hclosed => (hopen (by simp [hphase]) hclosed).elim
  | dispatcherEnd hphase haccepted =>
      exact h.frame ⟨rfl, rfl, rfl, rfl, rfl, fun _ => rfl⟩ fun _ => ⟨hphase, haccepted⟩
  | serviceCommands _ _ hphase | serviceDone hphase | wake hphase =>
      refine h.frame ⟨rfl, rfl, rfl, rfl, rfl, fun _ => rfl⟩ fun hclosed => (hopen ?_ hclosed).elim
      simp [hphase]
  | stopGone => exact h
  | stopSend | handleDrop => exact h.frame ⟨rfl, rfl, rfl, rfl, rfl, fun _ => rfl⟩ h.ended

omit [LawfulTcpSocket σ] in
/-- The dispatcher can take what is in its queue. -/
theorem Dispatched.exists_dispatch (h : Dispatched sys) (hne : sys.actor.accepted ≠ []) :
    ∃ sys', sys.step .dispatch = some sys' := by
  obtain ⟨⟨vconn, m⟩, rest, haccepted⟩ := List.exists_cons_of_ne_nil hne
  obtain ⟨started, hlabel⟩ := h.known vconn (by rw [h.order, haccepted]; simp)
  obtain ⟨task, htask, _⟩ := Option.map_eq_some_iff.mp hlabel
  refine ⟨{ sys with
    actor := sys.actor.dispatcher .recv
    tasks := sys.tasks.insert vconn.cmd { task with started := true } }, ?_⟩
  simp only [System.step, System.dispatch, haccepted, htask, Option.bind_eq_bind, Option.bind_some]

omit [TcpSocket σ] [LawfulTcpSocket σ] in
theorem Fresh.dispatched {a : NetstackActor σ} (h : Fresh a) (stop : Channel Unit) :
    Dispatched ⟨a, .poll, ∅, stop, false⟩ := by
  have hhanded : a.handed = [] := by
    rw [NetstackActor.handed, NetstackActor.handOvers, h.history]
    rfl
  have hdialled : a.dialled = [] := by
    rw [NetstackActor.dialled, h.history]
    rfl
  refine ⟨?_, ?_, ?_, ?_, ?_, ?_, ?_, ?_, ?_⟩
  · rw [hhanded, hdialled, h.accepted]
    rfl
  · rw [hhanded, h.nextChan]
    rfl
  · rw [hhanded]
    intro vconn hmem
    cases hmem
  · intro chan vconn started hlabel
    cases hlabel
  · intro chan vconn started hlabel
    cases hlabel
  · rw [h.accepted]
    intro e hmem
    cases hmem
  · exact h.capacity
  · rw [h.accepted]
    exact Nat.zero_le _
  · intro hclosed
    cases h.acceptedClosed.symm.trans hclosed

theorem Fresh.dispatched_run {a : NetstackActor σ} {stop : Channel Unit} {trace : List (SystemAction σ)}
    {allowed : Session σ → SessionAction σ → Prop} (h : Fresh a) (hordered : Ordered ⟨a, .poll, ∅, stop, false⟩)
    (hrun : Runs allowed ⟨a, .poll, ∅, stop, false⟩ trace sys) : Ordered sys ∧ Dispatched sys := by
  apply Transition.Run.invariant (I := fun sys => Ordered sys ∧ Dispatched sys) ?_ hrun
    ⟨hordered, h.dispatched stop⟩
  exact fun _ _ _ h hallowed hstep => ⟨h.1.step hallowed.1 hstep, h.2.step h.1 hstep⟩

/-- In every state of every run the connections handed over are, in this order, those a relay was started for and
those that wait in the queue, with no connection twice; the relay of a connection was started exactly when it was
taken off the queue, which never holds more than 64 and is never stuck; and when the dispatcher ends, which is
after the actor has stopped, a relay was started for every connection that was ever handed over. -/
theorem handed_over_once_dialled_once {start : Alloc σ} (hstart : start.Fresh) :
    ∃ sys₀ : System σ, spawn start = some sys₀ ∧ ∀ trace sys, Runs (fun _ _ => True) sys₀ trace sys →
      sys.actor.handed = sys.actor.dialled ++ sys.actor.accepted.map Prod.fst ∧ sys.actor.handed.Nodup ∧
      (∀ chan task, sys.tasks.lookup chan = some task → (task.started = true ↔ task.vconn ∈ sys.actor.dialled)) ∧
      sys.actor.accepted.length ≤ 64 ∧ (∀ e ∈ sys.actor.accepted, e.2 = e.1.connMeta) ∧
      (sys.actor.accepted ≠ [] → ∃ sys', sys.step .dispatch = some sys') ∧
      (sys.actor.acceptedClosed = true → sys.running = false ∧ sys.actor.dialled = sys.actor.handed) := by
  obtain ⟨a, ha, hfresh, _, hordered⟩ := spawn_eq hstart
  refine ⟨_, ha, fun trace sys hrun => ?_⟩
  obtain ⟨_, h⟩ := hfresh.dispatched_run hordered hrun
  refine ⟨h.order, h.nodup.of_map _, ?_, h.room, h.named, ?_, ?_⟩
  · intro chan task htask
    exact h.started (by rw [label, htask]; rfl)
  · exact h.exists_dispatch
  · intro hclosed
    obtain ⟨hphase, hempty⟩ := h.ended hclosed
    refine ⟨by simp [running, hphase], ?_⟩
    rw [h.order, hempty]
    simp

/-- The actor is stopped while the connections of two clients wait in the queue. -/
def queuedAtStop : List (SystemAction BufferedSocket) :=
  twoClients.take 8 ++ [.entryBegin, .entryEnd, .serviceDone, .egress NetstackActor.idle, .stopSend, .stopRecv]

theorem queuedAtStop_fresh : ∀ action ∈ queuedAtStop, action.FreshHandles :=
  twoClients_append_fresh (by decide)

/-- Both relays are started after the actor has stopped. -/
theorem handed_over_once_dialled_once_after_stop :
    ∃ sys₀ sys : System BufferedSocket, spawn .firstFree = some sys₀ ∧
      Runs (fun _ _ => True) sys₀ (queuedAtStop ++ [.dispatch, .dispatch, .dispatcherEnd]) sys ∧
      sys.actor.dialled.length = 2 ∧ sys.running = false ∧ sys.actor.dialled = sys.actor.handed := by
  have hexec : ((spawn .firstFree).bind fun sys => Transition.execute System.step (Everywhere fun _ _ => True) sys
      (queuedAtStop ++ [.dispatch, .dispatch, .dispatcherEnd])).any (fun sys => decide
        (sys.actor.dialled.length = 2 ∧ sys.actor.acceptedClosed = true)) = true := by decide +kernel
  have hfresh : ∀ action ∈ queuedAtStop ++ [.dispatch, .dispatch, .dispatcherEnd], action.FreshHandles := by
    rw [queuedAtStop, List.append_assoc]
    exact twoClients_append_fresh (by decide)
  obtain ⟨sys₀, sys, hspawn, hrun, hs⟩ := exists_run_of_execute hfresh hexec
  obtain ⟨hlength, hclosed⟩ := of_decide_eq_true hs
  obtain ⟨sys₁, hspawn₁, hall⟩ := handed_over_once_dialled_once (σ := BufferedSocket) Alloc.firstFree_fresh
  cases hspawn.symm.trans hspawn₁
  obtain ⟨_, _, _, _, _, _, hended⟩ := hall _ sys hrun
  exact ⟨sys₀, sys, hspawn, hrun, hlength, hended hclosed⟩

end System

end SmoltcpSocks
