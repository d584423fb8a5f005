import SmoltcpSocks.SystemView

/-! Every step of the running program keeps its tables in order, and does to each connection either
nothing or one step of its session. -/

namespace SmoltcpSocks

open TcpSocket

def SystemAction.FreshHandles {σ : Type} : SystemAction σ → Prop
  | .acceptNext alloc _ _ => alloc.Fresh
  | _ => True

/-- Only `try_accept` makes sockets. -/
def SystemAction.makesSocket {σ : Type} : SystemAction σ → Bool
  | .acceptNext _ _ _ => true
  | _ => false

theorem SystemAction.freshHandles_of_makesSocket {σ : Type} {action : SystemAction σ}
    (h : action.makesSocket = false) : action.FreshHandles := by
  cases action with
  | acceptNext => cases h
  | _ => trivial

namespace System

variable {σ : Type} {sys sys' : System σ} {task : Task σ} {t : Session σ} {chan : ChanId}
  {handle : SocketHandle}

/-- The tables are in order and the actor stands where they allow. -/
structure Ordered (sys : System σ) : Prop extends Consistent sys where
  phased : Phased sys

/-- Inside `try_accept` the vector is the part that is done and the part that is left. -/
theorem Ordered.listeners_eq (h : Ordered sys) {processed rest : List SocketHandle}
    (hphase : sys.phase = .accepting processed rest) : sys.actor.listeners = processed ++ rest := by
  have hphased := h.phased
  rwa [Phased, hphase] at hphased

/-- Only the handles of the entries and the listener vector matter for where the actor stands. -/
theorem Phased.frame (h : Phased sys) (hphase : sys'.phase = sys.phase)
    (hlisteners : sys'.actor.listeners = sys.actor.listeners)
    (hconns : ∀ handle, handle ∈ sys'.actor.conns ↔ handle ∈ sys.actor.conns) : Phased sys' := by
  unfold Phased at h ⊢
  rw [hphase, hlisteners]
  simp only [hconns]
  exact h

theorem mem_conns_put_of_ne (h : Consistent sys) (t : Session σ) (hne : handle ≠ task.handle) :
    handle ∈ (sys.put task t).actor.conns ↔ handle ∈ sys.actor.conns := by
  rcases putEntry_cases h task t with ⟨_, hput⟩ | ⟨_, _, _, _, ⟨_, _, hput⟩ | ⟨_, hput⟩⟩
  · simp [put, hput]
  · simp [put, hput, hne]
  · simp [put, hput, hne]

theorem mem_conns_put (h : Consistent sys) (hsome : t.conn.isSome = (sys.entry task).isSome) :
    handle ∈ (sys.put task t).actor.conns ↔ handle ∈ sys.actor.conns := by
  rcases putEntry_cases h task t with ⟨_, hput⟩ | ⟨_, _, hentry, _, ⟨_, _, hput⟩ | ⟨hnone, _⟩⟩
  · simp [put, hput]
  · have hmem : task.handle ∈ sys.actor.conns := Table.mem_of_lookup (entry_eq_some_iff.mp hentry).1
    simp only [put, hput, AList.mem_insert]
    exact ⟨fun hor => hor.elim (fun heq => heq ▸ hmem) id, Or.inr⟩
  · rw [hnone, hentry] at hsome
    cases hsome

theorem Consistent.at (h : Consistent sys) (phase : Phase) : Consistent { sys with phase := phase } :=
  ⟨h.owns, h.unanswered, h.keyed, h.held⟩

def arriveAt (sys : System σ) (arrived : ChanId → List UInt8) (task : Task σ) : Task σ :=
  if (sys.entry task).isSome then { task with client := task.client.drop (arrived task.vconn.cmd).length } else task

theorem lookup_polled (change : SocketHandle → σ → σ) (arrived : ChanId → List UInt8) :
    (sys.polled change arrived).tasks.lookup chan = (sys.tasks.lookup chan).map (sys.arriveAt arrived) :=
  Table.lookup_map _ _ _

theorem arriveAt_fields (arrived : ChanId → List UInt8) (task : Task σ) :
    (sys.arriveAt arrived task).vconn = task.vconn ∧ (sys.arriveAt arrived task).handle = task.handle := by
  unfold arriveAt
  split <;> exact ⟨rfl, rfl⟩

theorem Consistent.polled (h : Consistent sys) (change : SocketHandle → σ → σ)
    (arrived : ChanId → List UInt8) : Consistent (sys.polled change arrived) := by
  refine ⟨h.owns.frame (fun _ => Table.mem_map) (fun _ => Iff.rfl) fun _ => id, h.unanswered, ?_, ?_⟩
  · intro chan task' hlookup
    rw [lookup_polled] at hlookup
    obtain ⟨task, htask, rfl⟩ := Option.map_eq_some_iff.mp hlookup
    rw [(arriveAt_fields arrived task).1]
    exact h.keyed htask
  · intro handle conn hlookup
    obtain ⟨task, htask, hhandle⟩ := h.held hlookup
    refine ⟨sys.arriveAt arrived task, ?_, ?_⟩
    · rw [lookup_polled, htask]
      rfl
    · rw [(arriveAt_fields arrived task).2]
      exact hhandle

/-- The actor is gone with everything it owned. -/
theorem Consistent.dropActor (h : Consistent sys) : Consistent sys.dropActor := by
  refine ⟨⟨List.nodup_nil, ?_, ?_, h.owns.kept⟩, h.unanswered, ?_, ?_⟩
  · intro handle hmem
    cases hmem
  · intro handle
    simp [System.dropActor]
  · intro chan task' hlookup
    simp only [System.dropActor, Table.lookup_map] at hlookup
    obtain ⟨task, htask, rfl⟩ := Option.map_eq_some_iff.mp hlookup
    have hkeyed := h.keyed htask
    exact hkeyed
  · intro handle conn hlookup
    cases hlookup

theorem Consistent.dispatch (h : Consistent sys) (vconn : VConn) (m : ConnMeta) (rest : List (VConn × ConnMeta))
    (htask : sys.tasks.lookup chan = some task) : Consistent { sys with
      actor := { sys.actor with accepted := rest }.record [.dialled vconn m vconn.destination]
      tasks := sys.tasks.insert chan { task with started := true } } := by
  have hactor : Consistent { sys with
      actor := { sys.actor with accepted := rest }.record [.dialled vconn m vconn.destination] } := by
    refine ⟨h.owns.frame (fun _ => Iff.rfl) (fun _ => Iff.rfl) ?_, h.unanswered, h.keyed, h.held⟩
    intro conn hmem
    simpa [NetstackActor.record] using hmem
  exact hactor.insertTask htask rfl rfl

variable [TcpSocket σ] {alloc : Alloc σ} {client incoming : List UInt8} {handle' : SocketHandle}
  {slot : Slot σ} {processed rest : List SocketHandle}

/-- A turn of `try_accept` is one of the actor's, but that the calls on an accepted socket count anew. -/
theorem Turn.acceptStep (h : Turn sys alloc client incoming handle slot sys' handle')
    (hslot : sys.actor.sockets.lookup handle = some slot) :
    ∃ a, NetstackActor.AcceptStep alloc sys.actor handle a handle' ∧ sys'.actor.conns = a.conns ∧
      (∀ other, other ≠ handle → sys'.actor.sockets.lookup other = a.sockets.lookup other) ∧
      (∀ other, other ∈ sys'.actor.sockets ↔ other ∈ a.sockets) ∧ sys'.actor.history = a.history := by
  cases h with
  | waits hwaits => exact ⟨_, .waits slot hslot hwaits, rfl, fun _ _ => rfl, fun _ => Iff.rfl, rfl⟩
  | handedOver loc remote listener hready hroom hnew =>
      refine ⟨_, .handedOver slot loc remote listener hslot hready hroom hnew, rfl, ?_, ?_, rfl⟩
      · intro other hne
        exact AList.lookup_insert_ne hne
      · intro other
        have hmem : handle ∈ sys.actor.sockets := Table.mem_of_lookup hslot
        simp only [System.handedOver, NetstackActor.add, NetstackActor.handOver, NetstackActor.record,
          AList.mem_insert]
        exact ⟨fun hor => hor.elim (fun heq => Or.inr (heq ▸ hmem)) id, Or.inr⟩
  | refused listener hwaits hroom hnew =>
      exact ⟨_, .refused slot listener hslot hwaits hroom hnew, rfl, fun _ _ => rfl, fun _ => Iff.rfl, rfl⟩

/-- A turn of `try_accept` adds at most the entry and the task of the next channel. -/
theorem Consistent.turn (h : Consistent sys) (hlisteners : sys.actor.listeners = processed ++ handle :: rest)
    (hfresh : alloc.Fresh) (hslot : sys.actor.sockets.lookup handle = some slot)
    (hturn : Turn sys alloc client incoming handle slot sys' handle') :
    Consistent (sys'.turned processed rest handle') := by
  have howns : NetstackActor.Owns (sys'.turned processed rest handle').actor (processed ++ [handle'] ++ rest) := by
    obtain ⟨a, hstep, hconns, _, hsockets, hhistory⟩ := hturn.acceptStep hslot
    have hown : NetstackActor.Owns sys.actor (processed ++ handle :: rest) := hlisteners ▸ h.owns
    refine (NetstackActor.invariant_owns.turn hfresh hown hstep).frame hsockets ?_ ?_
    · intro other
      exact hconns ▸ Iff.rfl
    · intro conn
      exact hhistory ▸ id
  cases hturn with
  | waits hwaits => exact ⟨howns, h.unanswered, h.keyed, h.held⟩
  | refused listener hwaits hroom hnew => exact ⟨howns, h.unanswered, h.keyed, h.held⟩
  | handedOver loc remote listener hready hroom hnew =>
      refine ⟨howns, ?_, ?_, ?_⟩
      · intro other hle
        exact h.unanswered other (Nat.le_of_succ_le hle)
      · intro other task hlookup
        simp only [turned, System.handedOver, Table.lookup_insert_eq] at hlookup
        split at hlookup
        · rename_i heq
          cases hlookup
          exact ⟨heq.symm, lt_of_eq_of_lt heq (Nat.lt_succ_self _)⟩
        · exact ⟨(h.keyed hlookup).1, Nat.lt_succ_of_lt (h.keyed hlookup).2⟩
      · intro other conn hlookup
        simp only [turned, System.handedOver, NetstackActor.add, NetstackActor.handOver, NetstackActor.record,
          Table.lookup_insert_eq] at hlookup ⊢
        split at hlookup
        · rename_i heq
          cases hlookup
          exact ⟨_, if_pos rfl, heq.symm⟩
        · obtain ⟨task, htask, hhandle⟩ := h.held hlookup
          refine ⟨task, ?_, hhandle⟩
          rw [if_neg (Nat.ne_of_lt (h.keyed htask).2), htask]

/-- The channel of the entry that `service` is on, or comes to next. -/
def current (sys : System σ) : Option ChanId :=
  match sys.phase with
  | .servicing (handle :: _) | .serving handle _ => (sys.actor.conns.lookup handle).map fun conn => conn.cmdRx.chan
  | _ => none

/-- What a poll is for a connection: nothing once its socket is gone. -/
def pollOn (sys : System σ) (chan : ChanId) (change : SocketHandle → σ → σ) (arrived : List UInt8) :
    Option (SessionAction σ) :=
  (sys.tasks.lookup chan).bind fun task =>
    if (sys.entry task).isSome then some (.poll (change task.handle (sys.socketOf task).socket) arrived) else none

/-- The step of a session that a step of the program is for the connection of a channel. -/
def on (sys : System σ) (chan : ChanId) : SystemAction σ → Option (SessionAction σ)
  | .poll change arrived => sys.pollOn chan change (arrived chan)
  | .egress change => sys.pollOn chan change []
  | .entryBegin => if sys.current = some chan then some .serviceBegin else none
  | .entryNext => if sys.current = some chan then some .serviceNext else none
  | .entryEnd => if sys.current = some chan then some .serviceEnd else none
  | .stopRecv => some .stop
  | .relay other a => if other = chan then some a else none
  | _ => none

omit [TcpSocket σ] in
theorem view_eq_some_iff {s : Session σ} :
    sys.view chan = some s ↔ ∃ task, sys.tasks.lookup chan = some task ∧ sys.session task = s :=
  Option.map_eq_some_iff

omit [TcpSocket σ] in
theorem session_at (phase : Phase) (hrun : running { sys with phase := phase } = sys.running)
    (hserving : ∀ handle, isServing { sys with phase := phase } handle = sys.isServing handle) :
    session { sys with phase := phase } task = sys.session task :=
  session_frame rfl rfl hrun (fun _ _ => hserving _) rfl

theorem session_polled (h : Consistent sys) (change : SocketHandle → σ → σ) (arrived : ChanId → List UInt8)
    {conn : ConnState} (hentry : sys.entry task = some conn) (ht : sys.arrive change arrived task = some t) :
    (sys.polled change arrived).session (sys.arriveAt arrived task) = t := by
  obtain ⟨slot, hslot⟩ := h.socket (entry_eq_some_iff.mp hentry).1
  have hsocket := socketOf_of_entry hentry hslot
  have harrive : sys.arriveAt arrived task =
      { task with client := task.client.drop (arrived task.vconn.cmd).length } := by
    rw [arriveAt, hentry]
    rfl
  have hentry' : (sys.polled change arrived).entry (sys.arriveAt arrived task) = some conn := by
    rw [harrive]
    exact hentry
  have hslot' : (sys.polled change arrived).actor.sockets.lookup (sys.arriveAt arrived task).handle =
      some { slot with socket := slot.socket.poll (change task.handle slot.socket.socket) } := by
    rw [harrive]
    simp [polled, NetstackActor.pollSockets, hslot]
  unfold arrive Session.poll at ht
  split at ht
  · cases ht
    rw [session, hentry', socketOf_of_entry hentry' hslot', harrive]
    simp only [session, hentry, hsocket]
    rfl
  · cases ht

omit [TcpSocket σ] in
theorem session_polled_gone (change : SocketHandle → σ → σ) (arrived : ChanId → List UInt8)
    (hentry : sys.entry task = none) :
    (sys.polled change arrived).session (sys.arriveAt arrived task) = sys.session task := by
  have harrive : sys.arriveAt arrived task = task := by
    rw [arriveAt, hentry]
    rfl
  rw [harrive]
  have hentry' : (sys.polled change arrived).entry task = sys.entry task := rfl
  refine session_frame hentry' ?_ rfl (fun _ _ => rfl) rfl
  rw [socketOf_of_gone hentry, socketOf_of_gone (hentry'.trans hentry)]

theorem view_turn (h : Consistent sys) (hphase : sys.phase = .accepting processed (handle :: rest))
    (hlistener : handle ∈ sys.actor.listeners) (hfresh : alloc.Fresh)
    (hslot : sys.actor.sockets.lookup handle = some slot)
    (hturn : Turn sys alloc client incoming handle slot sys' handle')
    (htask : sys.tasks.lookup chan = some task) :
    (sys'.turned processed rest handle').view chan = some (sys.session task) := by
  obtain ⟨hcmd, hlt⟩ := h.keyed htask
  have hnew : handle ∉ sys.actor.conns := h.owns.disjoint handle hlistener
  have hentry : sys'.entry task = sys.entry task := by
    cases hturn with
    | waits | refused => rfl
    | handedOver loc remote listener =>
        by_cases heq : task.handle = handle
        · -- an old connection under the handle of the socket that is accepted now
          have hgone : sys.entry task = none := by
            apply entry_eq_none
            intro conn hlookup
            exact absurd (heq ▸ Table.mem_of_lookup hlookup) hnew
          rw [hgone]
          apply entry_eq_none
          intro conn hlookup hchan
          rw [heq] at hlookup
          simp only [System.handedOver, NetstackActor.add, NetstackActor.handOver, NetstackActor.record,
            AList.lookup_insert, Option.some.injEq] at hlookup
          rw [← hlookup, hcmd] at hchan
          exact absurd hchan.symm (Nat.ne_of_lt hlt)
        · simp [entry, System.handedOver, NetstackActor.add, NetstackActor.handOver, NetstackActor.record,
            AList.lookup_insert_ne heq]
  have hsocket : sys'.socketOf task = sys.socketOf task := by
    rcases hlive : sys.entry task with _ | conn
    · rw [socketOf_of_gone hlive, socketOf_of_gone (hentry.trans hlive)]
    · have hmem : task.handle ∈ sys.actor.conns := Table.mem_of_lookup (entry_eq_some_iff.mp hlive).1
      have hne : task.handle ≠ handle := fun heq => hnew (heq ▸ hmem)
      obtain ⟨a, hstep, _, hlookup, _, _⟩ := hturn.acceptStep hslot
      have hsock : task.handle ∈ sys.actor.sockets := (h.owns.exact _).mpr (Or.inr hmem)
      rw [socketOf, socketOf, hentry, hlookup _ hne, NetstackActor.lookup_acceptStep hfresh hstep hsock hne]
  have hrest : sys'.actor.answers = sys.actor.answers ∧ sys'.tasks.lookup chan = sys.tasks.lookup chan := by
    cases hturn with
    | waits | refused => exact ⟨rfl, rfl⟩
    | handedOver loc remote listener => exact ⟨rfl, AList.lookup_insert_ne (Nat.ne_of_lt hlt)⟩
  obtain ⟨hanswers, htasks⟩ := hrest
  refine view_eq_some_iff.mpr ⟨task, htasks.trans htask, session_frame hentry hsocket ?_ (fun _ _ => ?_) ?_⟩
  · simp [running, turned, hphase]
  · simp [isServing, turned, hphase]
  · rw [← hanswers]
    rfl

theorem view_polled (h : Consistent sys) {change : SocketHandle → σ → σ} {arrived : ChanId → List UInt8}
    (harrive : sys.CanArrive change arrived) (htask : sys.tasks.lookup chan = some task) {phase : Phase}
    (hrun : running { sys with phase := phase } = sys.running)
    (hserving : ∀ handle, isServing { sys with phase := phase } handle = sys.isServing handle) :
    match sys.pollOn chan change (arrived chan) with
    | none => view { sys.polled change arrived with phase := phase } chan = some (sys.session task)
    | some a => ∃ s', (sys.session task).step a = some s' ∧
        view { sys.polled change arrived with phase := phase } chan = some s' := by
  have htask' : (sys.polled change arrived).tasks.lookup chan = some (sys.arriveAt arrived task) := by
    rw [lookup_polled, htask]
    rfl
  have hphase : session { sys.polled change arrived with phase := phase } (sys.arriveAt arrived task) =
      (sys.polled change arrived).session (sys.arriveAt arrived task) := session_at phase hrun hserving
  rcases hentry : sys.entry task with _ | conn
  · simp only [pollOn, htask, hentry, Option.bind_some, Option.isSome_none, Bool.false_eq_true, if_false]
    refine view_eq_some_iff.mpr ⟨_, htask', ?_⟩
    rw [hphase, session_polled_gone change arrived hentry]
  · obtain ⟨t, ht⟩ := harrive chan task htask (by rw [hentry]; rfl)
    simp only [pollOn, htask, hentry, Option.bind_some, Option.isSome_some, if_true]
    have hcmd := (h.keyed htask).1
    refine ⟨t, by rw [← hcmd]; exact ht, view_eq_some_iff.mpr ⟨_, htask', ?_⟩⟩
    rw [hphase, session_polled h change arrived hentry ht]

variable [LawfulTcpSocket σ] {action : SystemAction σ}

/-- What a step of the session leaves of the entry. -/
theorem conn_of_step {a : SessionAction σ} (h : (sys.session task).step a = some t) :
    ∀ c', t.conn = some c' → ∃ c, sys.entry task = some c ∧ c'.cmdRx.chan = c.cmdRx.chan :=
  (Session.step_conn h).2

omit [LawfulTcpSocket σ] in
theorem Phased.serve (h : Consistent sys) (hphased : Phased sys) {a : SessionAction σ} {phase : Phase}
    {conn : ConnState} (hserves : Serves sys.phase action handle a phase)
    (hconn : sys.actor.conns.lookup handle = some conn) (htask : sys.tasks.lookup conn.cmdRx.chan = some task)
    (hstep : (sys.session task).step a = some t) : Phased { sys.put task t with phase := phase } := by
  obtain ⟨task', htask', hhandle⟩ := h.held hconn
  cases htask.symm.trans htask'
  unfold Phased at hphased
  generalize hstand : sys.phase = stand at hserves hphased
  cases hserves with
  | first rest | next rest =>
      have hsome := Session.step_isSome hstep (by simp) (by simp)
      refine ⟨hphased.1, fun other hmem => ?_⟩
      exact (mem_conns_put h hsome).mpr (hphased.2 other hmem)
  | last rest =>
      obtain ⟨hnot, hnodup⟩ := List.nodup_cons.mp hphased.1
      refine ⟨hnodup, fun other hmem => ?_⟩
      have hne : other ≠ task.handle := fun heq => hnot (hhandle ▸ heq ▸ hmem)
      exact (mem_conns_put_of_ne h t hne).mpr (hphased.2 other (List.mem_cons_of_mem _ hmem))

/-- Every step keeps the tables in order. -/
theorem Ordered.step (h : Ordered sys) (hfresh : action.FreshHandles) (hstep : sys.step action = some sys') :
    Ordered sys' := by
  cases step_move hstep with
  | poll change arrived => exact ⟨(h.polled change arrived).at _, rfl⟩
  | acceptNext alloc client incoming processed rest handle handle' slot next hphase hslot _ hturn =>
      exact ⟨h.turn (h.listeners_eq hphase) hfresh hslot hturn, rfl⟩
  | serviceCommands order processed _ horder =>
      refine ⟨h.at _, horder.nodup_iff.mpr sys.actor.conns.keys_nodup, ?_⟩
      exact fun handle hmem => AList.mem_keys.mpr (horder.mem_iff.mp hmem)
  | serve _ a phase handle conn task t hserves hconn htask ht =>
      exact ⟨(h.put htask (conn_of_step ht)).at phase, Phased.serve h.toConsistent h.phased hserves hconn htask ht⟩
  | serviceDone | wake => exact ⟨h.at _, trivial⟩
  | egress change => exact ⟨(h.polled change _).at _, trivial⟩
  | stopRecv => exact ⟨h.dropActor, fun _ => AList.notMem_empty _⟩
  | dispatch vconn m rest task _ htask =>
      exact ⟨h.dispatch vconn m rest htask, h.phased.frame rfl rfl fun _ => Iff.rfl⟩
  | dispatcherEnd =>
      refine ⟨⟨?_, h.unanswered, h.keyed, h.held⟩, h.phased.frame rfl rfl fun _ => Iff.rfl⟩
      exact h.owns.frame (fun _ => Iff.rfl) (fun _ => Iff.rfl) fun _ => id
  | relay chan a task t htask _ hrelay ht =>
      have hsome := Session.step_isSome ht (by rintro rfl; cases hrelay) (by rintro rfl; cases hrelay)
      refine ⟨h.put htask (conn_of_step ht), h.phased.frame rfl (listeners_put h.toConsistent task t) ?_⟩
      exact fun _ => mem_conns_put h.toConsistent hsome
  | stopGone => exact h
  | stopSend | handleDrop => exact ⟨⟨h.owns, h.unanswered, h.keyed, h.held⟩, h.phased⟩

omit [TcpSocket σ] [LawfulTcpSocket σ] in
theorem Serves.ne_stop {stand phase : Phase} {a : SessionAction σ} (h : Serves stand action handle a phase) :
    a ≠ .stop := by
  cases h <;> simp

/-- `service` on an entry is a step of its connection. -/
theorem session_serve (h : Consistent sys) {a : SessionAction σ} {phase : Phase} {conn : ConnState}
    (hserves : Serves sys.phase action handle a phase) (hconn : sys.actor.conns.lookup handle = some conn)
    (htask : sys.tasks.lookup conn.cmdRx.chan = some task) (hstep : (sys.session task).step a = some t) :
    session { sys.put task t with phase := phase } (task.update t) = t := by
  obtain ⟨task', htask', hhandle⟩ := h.held hconn
  cases htask.symm.trans htask'
  have hentry : sys.entry task = some conn :=
    entry_eq_some_iff.mpr ⟨hhandle ▸ hconn, (h.keyed htask).1.symm⟩
  obtain ⟨hrun, hserving⟩ := Session.step_flags hstep hserves.ne_stop
  apply session_put h (conn_of_step hstep) (Session.step_conn hstep).1
  · rw [hrun]
    generalize hstand : sys.phase = stand at hserves
    cases hserves <;> simp [session, running, hstand]
  · rw [hserving]
    generalize hstand : sys.phase = stand at hserves
    cases hserves with
    | first rest =>
        have hsome := Session.step_isSome hstep (by simp) (by simp)
        rw [hsome]
        simp [Session.servingAfter, isServing, session, hhandle, hentry]
    | next rest =>
        have hsome := Session.step_isSome hstep (by simp) (by simp)
        rw [hsome]
        simp [Session.servingAfter, isServing, session, hhandle, hentry, hstand]
    | last rest => simp [Session.servingAfter, isServing]

theorem session_serve_ne (h : Consistent sys) {a : SessionAction σ} {phase : Phase} {conn : ConnState}
    {task' : Task σ} (hserves : Serves sys.phase action handle a phase)
    (hconn : sys.actor.conns.lookup handle = some conn) (htask : sys.tasks.lookup conn.cmdRx.chan = some task)
    (hstep : (sys.session task).step a = some t) (hne : task'.vconn.cmd ≠ task.vconn.cmd) :
    session { sys.put task t with phase := phase } task' = sys.session task' := by
  obtain ⟨task'', htask'', hhandle⟩ := h.held hconn
  cases htask.symm.trans htask''
  have hentry : sys.entry task = some conn :=
    entry_eq_some_iff.mpr ⟨hhandle ▸ hconn, (h.keyed htask).1.symm⟩
  apply session_put_ne h hne (conn_of_step hstep)
  · generalize hstand : sys.phase = stand at hserves
    cases hserves <;> simp [running, hstand]
  · intro c hc
    have hother : handle ≠ task'.handle := hhandle ▸ (handle_ne_of_entry hentry hc hne).symm
    generalize hstand : sys.phase = stand at hserves
    cases hserves <;> simp [isServing, hstand, hother]

theorem session_relay (h : Consistent sys) {a : SessionAction σ} (hrelay : a.isRelay = true)
    (hstep : (sys.session task).step a = some t) : (sys.put task t).session (task.update t) = t := by
  have hne : ∀ b : SessionAction σ, b.isRelay = false → a ≠ b := by
    intro b hb heq
    rw [← heq, hrelay] at hb
    cases hb
  obtain ⟨hrun, hserving⟩ := Session.step_flags hstep (hne .stop rfl)
  have hsome := Session.step_isSome hstep (hne .serviceEnd rfl) (hne .stop rfl)
  have hafter : (sys.session task).servingAfter a = (sys.session task).serving := by
    cases a <;> first | rfl | cases hrelay
  change session { sys.put task t with phase := sys.phase } (task.update t) = t
  apply session_put h (conn_of_step hstep) (Session.step_conn hstep).1 hrun
  rw [hserving, hafter, hsome]
  rfl

omit [LawfulTcpSocket σ] in
theorem session_dropActor (hphase : sys.phase = .waiting) (task : Task σ) :
    (sys.session task).step .stop = some (sys.dropActor.session { task with last := sys.socketOf task }) := by
  have hentry : sys.dropActor.entry { task with last := sys.socketOf task } = none := by
    apply entry_eq_none
    intro conn hlookup
    cases hlookup
  have hguard : ((sys.session task).running && !(sys.session task).serving) = true := by
    simp [session, running, isServing, hphase]
  have hsession : sys.dropActor.session { task with last := sys.socketOf task } =
      { sys.session task with running := false, conn := none } := by
    rw [session, hentry, socketOf_of_gone hentry]
    simp [session, dropActor, running, isServing, hphase]
  rw [Session.step, Session.stop, if_pos hguard, hsession]

omit [TcpSocket σ] [LawfulTcpSocket σ] in
/-- `service` is on the entry of one channel. -/
theorem Serves.current {phase : Phase} {a : SessionAction σ} {conn : ConnState}
    (h : Serves sys.phase action handle a phase) (hconn : sys.actor.conns.lookup handle = some conn) :
    sys.on chan action = if conn.cmdRx.chan = chan then some a else none := by
  generalize hstand : sys.phase = stand at h
  cases h <;> simp [on, System.current, hstand, hconn]

/-- What a step of the program is for a connection: the step of the session that `on` names, or nothing. -/
theorem step_view (h : Ordered sys) (hfresh : action.FreshHandles) (hstep : sys.step action = some sys')
    {s : Session σ} (hview : sys.view chan = some s) :
    match sys.on chan action with
    | none => sys'.view chan = some s
    | some a => ∃ s', s.step a = some s' ∧ sys'.view chan = some s' := by
  obtain ⟨task, htask, rfl⟩ := view_eq_some_iff.mp hview
  cases step_move hstep with
  | poll change arrived hphase harrive =>
      apply view_polled h.toConsistent harrive htask
      · simp [running, hphase]
      · simp [isServing, hphase]
  | egress change hphase harrive =>
      apply view_polled h.toConsistent harrive htask
      · simp [running, hphase]
      · simp [isServing, hphase]
  | acceptNext alloc client incoming processed rest handle handle' slot next hphase hslot _ hturn =>
      have hlistener : handle ∈ sys.actor.listeners := by simp [h.listeners_eq hphase]
      exact view_turn h.toConsistent hphase hlistener hfresh hslot hturn htask
  | serve _ a phase handle conn task' t hserves hconn htask' ht =>
      rw [hserves.current hconn]
      by_cases heq : conn.cmdRx.chan = chan
      · rw [if_pos heq]
        subst heq
        cases htask.symm.trans htask'
        refine ⟨t, ht, view_eq_some_iff.mpr ⟨task.update t, ?_, session_serve h.toConsistent hserves hconn htask ht⟩⟩
        simp [put, (h.keyed htask).1]
      · rw [if_neg heq]
        have hne : chan ≠ task'.vconn.cmd := (h.keyed htask').1.symm ▸ Ne.symm heq
        refine view_eq_some_iff.mpr ⟨task, ?_, session_serve_ne h.toConsistent hserves hconn htask' ht ?_⟩
        · rw [← htask]
          exact AList.lookup_insert_ne hne
        · rwa [(h.keyed htask).1]
  | relay other a task' t htask' _ hrelay ht =>
      by_cases heq : other = chan
      · subst heq
        cases htask.symm.trans htask'
        simp only [on, if_pos]
        refine ⟨t, ht, view_eq_some_iff.mpr ⟨task.update t, ?_, session_relay h.toConsistent hrelay ht⟩⟩
        simp [put, (h.keyed htask).1]
      · simp only [on, if_neg heq]
        have hne : chan ≠ task'.vconn.cmd := (h.keyed htask').1.symm ▸ Ne.symm heq
        refine view_eq_some_iff.mpr ⟨task, ?_, ?_⟩
        · rw [← htask]
          exact AList.lookup_insert_ne hne
        · change session { sys.put task' t with phase := sys.phase } task = sys.session task
          apply session_put_ne h.toConsistent _ (conn_of_step ht) rfl fun _ _ => rfl
          rwa [(h.keyed htask).1]
  | stopRecv hphase =>
      refine ⟨_, session_dropActor hphase task, view_eq_some_iff.mpr ⟨_, ?_, rfl⟩⟩
      simp [dropActor, htask]
  | dispatch vconn m rest task' haccepted htask' =>
      by_cases heq : chan = vconn.cmd
      · subst heq
        cases htask.symm.trans htask'
        exact view_eq_some_iff.mpr ⟨_, AList.lookup_insert _, rfl⟩
      · exact view_eq_some_iff.mpr ⟨task, (AList.lookup_insert_ne heq).trans htask, rfl⟩
  | serviceCommands order processed hphase | serviceDone hphase | wake hphase =>
      refine view_eq_some_iff.mpr ⟨task, htask, session_at _ ?_ ?_⟩
      · simp [running, hphase]
      · simp [isServing, hphase]
  | dispatcherEnd | stopGone | stopSend | handleDrop => exact view_eq_some_iff.mpr ⟨task, htask, rfl⟩

omit [TcpSocket σ] [LawfulTcpSocket σ] in
theorem session_handedOver (h : Consistent sys) (m : ConnMeta) (listener : Traced σ)
    (processed rest : List SocketHandle) (handle' : SocketHandle) :
    ((sys.handedOver alloc handle slot ⟨m, sys.actor.nextChan⟩ listener client incoming).turned processed rest
        handle').session (.new ⟨m, sys.actor.nextChan⟩ handle slot.socket.socket client incoming) =
      Session.accepted ⟨m, sys.actor.nextChan⟩ slot.socket.socket client incoming := by
  generalize hnext : (sys.handedOver alloc handle slot ⟨m, sys.actor.nextChan⟩ listener client incoming).turned
    processed rest handle' = next
  have hentry : next.entry (.new ⟨m, sys.actor.nextChan⟩ handle slot.socket.socket client incoming) =
      some (.new ⟨sys.actor.nextChan, [], false⟩) := by
    rw [entry_eq_some_iff, ← hnext]
    exact ⟨AList.lookup_insert _, rfl⟩
  have hsocket : next.actor.sockets.lookup handle = some { slot with socket := ⟨slot.socket.socket, []⟩ } := by
    rw [← hnext]
    exact AList.lookup_insert _
  have hanswers : next.actor.answers sys.actor.nextChan = .none := by
    rw [← hnext]
    exact h.unanswered _ le_rfl
  have hphase : next.phase = .accepting (processed ++ [handle']) rest := by
    rw [← hnext]
    rfl
  rw [session, hentry, socketOf_of_entry hentry hsocket]
  simp [Task.new, Session.accepted, running, isServing, hphase, hanswers]

/-- A connection as `try_accept` hands it over: its socket is past the handshake, its metadata are the two
endpoints of that socket, and nothing comes behind a FIN that is there already. -/
def IsHandedOver (chan : ChanId) (s : Session σ) : Prop :=
  ∃ loc remote socket client incoming,
    s = Session.accepted ⟨NetstackActor.connMeta loc remote, chan⟩ socket client incoming ∧
    (state socket = .established ∨ state socket = .closeWait) ∧
    localEndpoint socket = some loc ∧ remoteEndpoint socket = some remote ∧
    (rxFinReceived socket = true → client = [])

/-- A connection comes into being only by its hand-over. -/
theorem step_born (h : Ordered sys) (hstep : sys.step action = some sys')
    {s : Session σ} (hnone : sys.view chan = none) (hview : sys'.view chan = some s) :
    (∃ alloc client incoming, action = .acceptNext alloc client incoming) ∧ IsHandedOver chan s := by
  have htask : sys.tasks.lookup chan = none := Option.map_eq_none_iff.mp hnone
  obtain ⟨task, htask', rfl⟩ := view_eq_some_iff.mp hview
  -- a change of a task that is there adds none
  have hinsert : ∀ {other : ChanId} {old new : Task σ}, sys.tasks.lookup other = some old →
      (sys.tasks.insert other new).lookup chan = none := by
    intro other old new hold
    rw [AList.lookup_insert_ne, htask]
    rintro rfl
    cases htask.symm.trans hold
  cases step_move hstep with
  | poll | egress =>
      rw [lookup_polled, htask] at htask'
      cases htask'
  | stopRecv =>
      simp only [dropActor, Table.lookup_map, htask] at htask'
      cases htask'
  | serve _ _ _ _ conn old t _ _ hold _ =>
      rw [← (h.keyed hold).1] at hold
      cases (hinsert hold).symm.trans htask'
  | relay other _ old t hold _ _ _ =>
      rw [← (h.keyed hold).1] at hold
      cases (hinsert hold).symm.trans htask'
  | dispatch vconn _ _ old _ hold => cases (hinsert hold).symm.trans htask'
  | acceptNext alloc client incoming processed rest handle handle' slot next hphase hslot hfin hturn =>
      cases hturn with
      | waits | refused => cases htask.symm.trans htask'
      | handedOver loc remote listener hready hroom hnew =>
          simp only [turned, System.handedOver, Table.lookup_insert_eq] at htask'
          split at htask'
          · rename_i heq
            subst heq
            cases htask'
            refine ⟨⟨alloc, client, incoming, rfl⟩, ?_⟩
            refine ⟨loc, remote, slot.socket.socket, client, incoming, ?_, hready.1, hready.2.1, hready.2.2, hfin⟩
            exact session_handedOver h.toConsistent _ listener processed rest _
          · cases htask.symm.trans htask'
  | serviceCommands | serviceDone | wake | dispatcherEnd | stopGone | stopSend | handleDrop =>
      cases htask.symm.trans htask'

end System

end SmoltcpSocks
