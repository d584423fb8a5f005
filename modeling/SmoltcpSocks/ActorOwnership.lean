import SmoltcpSocks.Actor

/-! Ownership of the sockets: the set holds exactly the sockets of the listener pool and of the
connections, each once. The invariant is stated for any vector of listener handles, so that it also
holds inside the loop of `try_accept`, where part of the vector is already rewritten. -/

namespace SmoltcpSocks

open TcpSocket

namespace NetstackActor

variable {σ : Type}

/-- The actor's sockets are those of the given listeners and those of its connections. -/
structure Owns (a : NetstackActor σ) (listeners : List SocketHandle) : Prop where
  distinct : listeners.Nodup
  disjoint : ∀ handle ∈ listeners, handle ∉ a.conns
  exact : ∀ handle, handle ∈ a.sockets ↔ handle ∈ listeners ∨ handle ∈ a.conns
  kept : ∀ conn, .overwritten conn ∉ a.history

def Listening [TcpSocket σ] (a : NetstackActor σ) (listeners : List SocketHandle) : Prop :=
  ∀ handle ∈ listeners, ∃ slot, a.sockets.lookup handle = some slot ∧ Waits slot

variable {a b : NetstackActor σ} {listeners others : List SocketHandle} {handle handle' : SocketHandle}

theorem owns_empty (capacity : Nat) : Owns (empty capacity : NetstackActor σ) [] where
  distinct := List.nodup_nil
  disjoint := fun _ hmem => absurd hmem List.not_mem_nil
  exact := fun handle => by simp [empty]
  kept := fun _ => List.not_mem_nil

theorem Owns.perm (h : Owns a listeners) (hperm : listeners.Perm others) : Owns a others where
  distinct := hperm.nodup_iff.mp h.distinct
  disjoint := fun handle hmem => h.disjoint handle (hperm.mem_iff.mpr hmem)
  exact := fun handle => by rw [h.exact, hperm.mem_iff]
  kept := h.kept

/-- A step that changes neither the handles of the set nor those of the connections. -/
theorem Owns.frame (h : Owns a listeners) (hsockets : ∀ handle, handle ∈ b.sockets ↔ handle ∈ a.sockets)
    (hconns : ∀ handle, handle ∈ b.conns ↔ handle ∈ a.conns)
    (hhistory : ∀ conn, .overwritten conn ∈ b.history → .overwritten conn ∈ a.history) :
    Owns b listeners where
  distinct := h.distinct
  disjoint := fun handle hmem => by
    rw [hconns]
    exact h.disjoint handle hmem
  exact := fun handle => by rw [hsockets, hconns, h.exact]
  kept := fun conn hmem => h.kept conn (hhistory conn hmem)

theorem Owns.add (h : Owns a others) (hfresh : handle ∉ a.sockets) (socket : Traced σ) :
    Owns (a.add handle socket) (handle :: others) := by
  have hnot : handle ∉ others ∧ handle ∉ a.conns := by
    rw [h.exact] at hfresh
    exact not_or.mp hfresh
  refine ⟨List.nodup_cons.mpr ⟨hnot.1, h.distinct⟩, ?_, ?_, h.kept⟩
  · intro handle' hmem
    rcases List.mem_cons.mp hmem with rfl | hmem
    · exact hnot.2
    · exact h.disjoint handle' hmem
  · intro handle'
    simp only [NetstackActor.add, AList.mem_insert, List.mem_cons, h.exact]
    exact or_assoc.symm

theorem Owns.remove (h : Owns a (handle :: others)) (slot : Slot σ) : Owns (a.remove handle slot) others := by
  obtain ⟨hnot, hnodup⟩ := List.nodup_cons.mp h.distinct
  refine ⟨hnodup, fun handle' hmem => h.disjoint handle' (List.mem_cons_of_mem _ hmem), ?_, ?_⟩
  · intro handle'
    have hdisjoint := h.disjoint handle (List.mem_cons_self)
    simp only [NetstackActor.remove, record, AList.mem_erase, h.exact, List.mem_cons]
    constructor
    · rintro ⟨hne, (rfl | hmem) | hmem⟩
      · exact absurd rfl hne
      · exact Or.inl hmem
      · exact Or.inr hmem
    · rintro (hmem | hmem)
      · exact ⟨fun heq => hnot (heq ▸ hmem), Or.inl (Or.inr hmem)⟩
      · exact ⟨fun heq => hdisjoint (heq ▸ hmem), Or.inr hmem⟩
  · intro conn hmem
    rcases List.mem_append.mp hmem with hmem | hmem
    · exact h.kept conn hmem
    · simp at hmem

theorem Owns.handOver (h : Owns a (handle :: others)) (slot : Slot σ) (vconn : VConn) :
    Owns (a.handOver handle slot vconn) others := by
  obtain ⟨hnot, hnodup⟩ := List.nodup_cons.mp h.distinct
  have hnew : handle ∉ a.conns := h.disjoint handle List.mem_cons_self
  refine ⟨hnodup, ?_, ?_, ?_⟩
  · intro handle' hmem
    simp only [NetstackActor.handOver, record, AList.mem_insert, not_or]
    exact ⟨fun heq => hnot (heq ▸ hmem), h.disjoint handle' (List.mem_cons_of_mem _ hmem)⟩
  · intro handle'
    simp only [NetstackActor.handOver, record, AList.mem_insert, h.exact, List.mem_cons]
    tauto
  · intro conn hmem
    have hnone : a.conns.lookup handle = none := AList.lookup_eq_none.mpr hnew
    simp only [NetstackActor.handOver, record, hnone, Option.toList_none, List.map_nil, List.mem_append,
      List.mem_singleton, reduceCtorEq, or_false] at hmem
    exact h.kept conn hmem

theorem Owns.dispatcher (h : Owns a listeners) (d : DispatcherStep) : Owns (a.dispatcher d) listeners := by
  rcases dispatcher_cases a d with heq | ⟨_, _, _, _, _, heq⟩ | ⟨_, heq⟩ <;> rw [heq]
  · exact h
  · exact h.frame (fun _ => Iff.rfl) (fun _ => Iff.rfl) fun _ hmem => by simpa [record] using hmem
  · exact h.frame (fun _ => Iff.rfl) (fun _ => Table.mem_map) fun _ => id

variable [TcpSocket σ] {alloc : Alloc σ} {between : SocketHandle → List DispatcherStep}

/-- One turn of the loop of `try_accept` keeps the ownership, with the slot's new handle. -/
theorem Owns.acceptStep (h : Owns a (handle :: others)) (hfresh : alloc.Fresh)
    (hstep : AcceptStep alloc a handle b handle') : Owns b (handle' :: others) := by
  cases hstep with
  | waits slot => exact h
  | handedOver slot loc remote socket =>
      exact (h.handOver slot _).add (hfresh a.sockets) socket
  | refused slot socket =>
      exact (h.remove { slot with socket := abort slot.socket }).add (hfresh (a.sockets.erase handle)) socket

/-- One turn of the loop leaves every other socket of the set as it is. -/
theorem lookup_acceptStep (hfresh : alloc.Fresh) (hstep : AcceptStep alloc a handle b handle')
    {other : SocketHandle} (hsocket : other ∈ a.sockets) (hne : other ≠ handle) :
    b.sockets.lookup other = a.sockets.lookup other := by
  cases hstep with
  | waits slot => rfl
  | handedOver slot loc remote socket =>
      apply AList.lookup_insert_ne
      rintro rfl
      exact hfresh _ hsocket
  | refused slot socket =>
      have herase : other ∈ a.sockets.erase handle := AList.mem_erase.mpr ⟨hne, hsocket⟩
      refine (AList.lookup_insert_ne ?_).trans (AList.lookup_erase_ne hne)
      exact fun heq => hfresh _ (heq ▸ herase)

theorem Owns.lookup_acceptStep (h : Owns a (handle :: others)) (hfresh : alloc.Fresh)
    (hstep : AcceptStep alloc a handle b handle') {listener : SocketHandle} (hmem : listener ∈ others) :
    b.sockets.lookup listener = a.sockets.lookup listener := by
  refine NetstackActor.lookup_acceptStep hfresh hstep ?_ ?_
  · exact (h.exact listener).mpr (Or.inl (List.mem_cons_of_mem _ hmem))
  · rintro rfl
    exact (List.nodup_cons.mp h.distinct).1 hmem

/-- One turn of the loop leaves a listener that waits, and the others as they are. -/
theorem Listening.acceptStep (h : Listening a listeners) (hown : Owns a (handle :: others))
    (hsub : ∀ listener ∈ listeners, listener ∈ others) (hfresh : alloc.Fresh)
    (hstep : AcceptStep alloc a handle b handle') : Listening b (handle' :: listeners) := by
  intro listener hmem
  rcases List.mem_cons.mp hmem with rfl | hmem
  · cases hstep with
    | waits slot hslot hwaits => exact ⟨slot, hslot, hwaits⟩
    | handedOver slot loc remote socket _ _ _ hnew => exact ⟨_, AList.lookup_insert _, Or.inl hnew.state⟩
    | refused slot socket _ _ _ hnew => exact ⟨_, AList.lookup_insert _, Or.inl hnew.state⟩
  · rw [hown.lookup_acceptStep hfresh hstep (hsub listener hmem)]
    exact h listener hmem

omit [TcpSocket σ] in
/-- An entry leaves together with its socket. -/
theorem Owns.leave (h : Owns a listeners) (hmem : handle ∈ a.conns)
    (hsockets : ∀ other, other ∈ b.sockets ↔ other ≠ handle ∧ other ∈ a.sockets)
    (hconns : ∀ other, other ∈ b.conns ↔ other ≠ handle ∧ other ∈ a.conns)
    (hhistory : ∀ conn, .overwritten conn ∈ b.history → .overwritten conn ∈ a.history) :
    Owns b listeners where
  distinct := h.distinct
  disjoint := fun listener hl => by
    rw [hconns]
    exact fun hc => h.disjoint listener hl hc.2
  exact := fun other => by
    rw [hsockets, hconns, h.exact]
    constructor
    · rintro ⟨hne, hl | hc⟩
      · exact Or.inl hl
      · exact Or.inr ⟨hne, hc⟩
    · rintro (hl | ⟨hne, hc⟩)
      · exact ⟨fun heq => h.disjoint other hl (heq ▸ hmem), Or.inl hl⟩
      · exact ⟨hne, Or.inr hc⟩
  kept := fun conn hmem => h.kept conn (hhistory conn hmem)

variable {callers : ChanId → Callers}

/-- Servicing an entry keeps it with its socket or drops both. -/
theorem Owns.entryStep (h : Owns a listeners) (hstep : EntryStep callers a handle b) : Owns b listeners := by
  cases hstep with
  | kept conn slot v hconn hslot =>
      have hmem : handle ∈ a.conns := Table.mem_of_lookup hconn
      refine ⟨h.distinct, fun listener hl => ?_, fun handle' => ?_, fun conn' hmem' => ?_⟩
      · simp only [AList.mem_insert, not_or]
        exact ⟨fun heq => h.disjoint listener hl (heq ▸ hmem), h.disjoint listener hl⟩
      · simp only [AList.mem_insert, h.exact]
        tauto
      · rcases List.mem_append.mp hmem' with hold | hnew
        · exact h.kept conn' hold
        · simp at hnew
  | dropped conn slot v hconn hslot =>
      refine h.leave (Table.mem_of_lookup hconn) (fun _ => AList.mem_erase) (fun _ => AList.mem_erase) ?_
      intro conn' hmem'
      simpa [NetstackActor.remove, record] using hmem'

theorem invariant_owns : Invariant (Owns (σ := σ)) where
  perm h hperm := h.perm hperm
  relabel _ h := ⟨h.distinct, h.disjoint, h.exact, h.kept⟩
  poll _ h := h.frame (fun _ => Table.mem_map) (fun _ => Iff.rfl) fun _ => id
  accept hfresh h hstep := h.acceptStep hfresh hstep
  entry h hstep := h.entryStep hstep
  dispatcher d h := h.dispatcher d
  send _ _ h := h.frame (fun _ => Iff.rfl) (fun _ => Table.mem_map) fun _ hmem => by
    simpa [pushCmd, record] using hmem
  drop _ h := h.frame (fun _ => Iff.rfl) (fun _ => Table.mem_map) fun _ => id

/-- A turn of `try_accept` gives a handle for the handle it takes, and nothing else touches the pool. -/
theorem invariant_length (n : Nat) :
    Invariant fun (_ : NetstackActor σ) listeners => listeners.length = n where
  perm h hperm := hperm.length_eq ▸ h
  relabel _ h := h
  poll _ h := h
  accept _ h _ := h
  entry h _ := h
  dispatcher _ h := h
  send _ _ h := h
  drop _ h := h

variable [LawfulTcpSocket σ] {processed rest : List SocketHandle}

/-- The loop of `try_accept` runs to its end and leaves only listeners that wait. -/
theorem Owns.acceptLoop (between : SocketHandle → List DispatcherStep) (h : Owns a (processed ++ rest))
    (hfresh : alloc.Fresh) (hlistening : Listening a processed) :
    ∃ b rest', acceptLoop alloc between rest a = some (b, rest') ∧ Listening b (processed ++ rest') := by
  induction rest generalizing processed a with
  | nil => exact ⟨a, [], rfl, by simpa using hlistening⟩
  | cons handle rest ih =>
      have hturn := invariant_owns.dispatcherSteps (between handle) h
      have hsockets := sockets_dispatcherSteps (between handle) a
      generalize hc : (between handle).foldl NetstackActor.dispatcher a = c at hturn hsockets
      have hlistening : Listening c processed := by
        intro listener hl
        rw [hsockets]
        exact hlistening listener hl
      have hown : Owns c (handle :: (processed ++ rest)) := hturn.perm List.perm_middle
      have hmem : handle ∈ c.sockets := (hown.exact handle).mpr (Or.inl List.mem_cons_self)
      obtain ⟨a', handle', hslot, hstep⟩ := acceptSlot_step alloc hmem
      have hnext : Owns a' ((processed ++ [handle']) ++ rest) := invariant_owns.turn hfresh hturn hstep
      have hwait : Listening a' (processed ++ [handle']) := by
        intro listener hlistener
        apply hlistening.acceptStep hown (fun _ hl => List.mem_append_left _ hl) hfresh hstep listener
        simpa [or_comm] using hlistener
      obtain ⟨b, rest', hloop, hdone⟩ := ih hnext hwait
      refine ⟨b, handle' :: rest', ?_, by simpa using hdone⟩
      subst hc
      exact acceptLoop_cons_eq_some_iff.mpr ⟨a', handle', rest', hslot, hloop, rfl⟩

/-- `try_accept` does not panic and leaves every listener waiting. -/
theorem Owns.tryAccept (between : SocketHandle → List DispatcherStep) (h : Owns a a.listeners)
    (hfresh : alloc.Fresh) : ∃ b, a.tryAccept alloc between = some b ∧ Listening b b.listeners := by
  obtain ⟨b, listeners, hloop, hlistening⟩ :=
    Owns.acceptLoop between (show Owns a ([] ++ a.listeners) from h) hfresh nofun
  exact ⟨{ b with listeners := listeners }, tryAccept_eq_some_iff.mpr ⟨b, listeners, hloop, rfl⟩, hlistening⟩

theorem Owns.serviceEntries (h : Owns a listeners) (callers : ChanId → Callers)
    {order : List SocketHandle} (hnodup : order.Nodup) (hmem : ∀ handle ∈ order, handle ∈ a.conns) :
    ∃ b, order.foldlM (serviceEntry callers) a = some b := by
  induction order generalizing a with
  | nil => exact ⟨a, rfl⟩
  | cons handle rest ih =>
      obtain ⟨hnot, hrest⟩ := List.nodup_cons.mp hnodup
      have hconn := hmem handle List.mem_cons_self
      obtain ⟨a', hentry, hstep⟩ := serviceEntry_step callers hconn ((h.exact handle).mpr (Or.inr hconn))
      obtain ⟨b, hfold⟩ := ih (h.entryStep hstep) hrest fun handle' hmem' => by
        rw [← AList.lookup_isSome, (lookup_of_entryStep hstep fun heq => hnot (heq ▸ hmem')).1,
          AList.lookup_isSome]
        exact hmem handle' (List.mem_cons_of_mem _ hmem')
      exact ⟨b, by rw [List.foldlM_cons, hentry]; exact hfold⟩

/-- `service_commands` does not panic, whatever the order of its entries. -/
theorem Owns.serviceCommands (h : Owns a listeners) {order : List SocketHandle}
    (horder : order.Perm a.conns.keys) : ∃ b, a.serviceCommands callers order = some b := by
  obtain ⟨b, hfold⟩ := h.serviceEntries callers (horder.nodup_iff.mpr a.conns.keys_nodup)
    fun handle hmem => AList.mem_keys.mpr (horder.mem_iff.mp hmem)
  exact ⟨b, serviceCommands_eq_some_iff.mpr ⟨horder, hfold⟩⟩

/-- The actor starts with a full pool that is all it owns. -/
theorem owns_withChannels (hfresh : alloc.Fresh) (capacity : Nat) :
    ∃ a, withChannels alloc capacity = some a ∧ a.listeners.length = LISTENER_POOL_SIZE ∧
      Owns a a.listeners := by
  obtain ⟨a, ha, hlen, hown⟩ := addListeners_induction (I := Owns (σ := σ))
    (fun {a listeners socket} _ h => by
      have hnext := (h.add (hfresh a.sockets) socket).perm (List.perm_append_singleton _ _).symm
      exact ⟨hnext.distinct, hnext.disjoint, hnext.exact, hnext.kept⟩) LISTENER_POOL_SIZE (owns_empty capacity)
  exact ⟨a, ha, by simpa [empty] using hlen, hown⟩

/-- The actor starts, and in every state of every run from there it has its full pool of distinct
listeners, none of them a connection; its set holds exactly the sockets of these two; no entry was
ever overwritten; and neither `try_accept` nor `service_commands` can panic, the former leaving only
listeners that wait for their handshake. -/
theorem sockets_owned {start : Alloc σ} (hstart : start.Fresh) (capacity : Nat) :
    ∃ a₀, withChannels start capacity = some a₀ ∧
      ∀ trace a, Transition.Run NetstackActor.step (fun _ action => FreshHandles action) a₀ trace a →
        a.listeners.length = LISTENER_POOL_SIZE ∧ a.listeners.Nodup ∧
        (∀ handle ∈ a.listeners, handle ∉ a.conns) ∧
        (∀ handle, handle ∈ a.sockets ↔ handle ∈ a.listeners ∨ handle ∈ a.conns) ∧
        (∀ conn, .overwritten conn ∉ a.history) ∧
        (∀ (alloc : Alloc σ) between, alloc.Fresh →
          ∃ b, a.step (.tryAccept alloc between) = some b ∧ Listening b b.listeners) ∧
        (∀ callers order, order.Perm a.conns.keys →
          ∃ b, a.step (.serviceCommands callers order) = some b) := by
  obtain ⟨a₀, ha₀, hpool₀, hown₀⟩ := owns_withChannels hstart capacity
  refine ⟨a₀, ha₀, fun trace a hrun => ?_⟩
  have hpool := hrun.invariant (fun _ _ _ h hfresh => (invariant_length _).step hfresh h) hpool₀
  have hown := hrun.invariant (fun _ _ _ h hfresh => invariant_owns.step hfresh h) hown₀
  refine ⟨hpool, hown.distinct, hown.disjoint, hown.exact, hown.kept, ?_, ?_⟩
  · exact fun alloc between hfresh => hown.tryAccept between hfresh
  · exact fun callers order horder => hown.serviceCommands horder

def client : IpEndpoint := ⟨.ofOctets 10 0 0 2, 40000⟩

def server : IpEndpoint := ⟨.ofOctets 93 184 216 34, 443⟩

/-- A poll completes the client's handshake on a listener. -/
def handshake (listener : SocketHandle) : SocketHandle → BufferedSocket → BufferedSocket :=
  fun handle socket =>
    if handle = listener then
      { socket with state := .established, localEndpoint := some server, remoteEndpoint := some client }
    else socket

def idle : SocketHandle → BufferedSocket → BufferedSocket := fun _ socket => socket

/-- One round of `run` up to the egress poll, with relays that all wait for their answers. -/
def round (ingress : SocketHandle → BufferedSocket → BufferedSocket) (order : List SocketHandle) :
    List (ActorAction BufferedSocket) :=
  [.poll ingress, .tryAccept .firstFree fun _ => [],
    .serviceCommands (fun _ => ⟨fun _ => false, fun _ => false⟩) order]

/-- A connection is accepted and dropped, and the next listener gets the handle it leaves free. -/
theorem sockets_owned_after_reuse :
    ∃ a₀ a : NetstackActor BufferedSocket, ∃ trace, withChannels .firstFree 64 = some a₀ ∧
      Transition.Run NetstackActor.step (fun _ action => FreshHandles action) a₀ trace a ∧
      a.listeners = [4, 0, 2, 3] ∧ a.conns.keys = [1] ∧
      ∀ handle, handle ∈ a.sockets ↔ handle ∈ a.listeners ∨ handle ∈ a.conns := by
  let trace : List (ActorAction BufferedSocket) :=
    List.flatten [round (handshake 0) [0], [.dispatcher .recv, .drop 0], round idle [0], round (handshake 1) [1]]
  obtain ⟨a₀, ha₀, hall⟩ := sockets_owned (σ := BufferedSocket) Alloc.firstFree_fresh 64
  have hexec : ((withChannels .firstFree 64).bind fun a =>
      Transition.execute NetstackActor.step (fun _ _ => True) a trace).any
        (fun a => decide (a.listeners = [4, 0, 2, 3] ∧ a.conns.keys = [1])) = true := by decide +kernel
  rw [ha₀, Option.bind_some] at hexec
  obtain ⟨a, hrun, ha⟩ := Transition.Run.exists_of_execute hexec
  have hrun : Transition.Run NetstackActor.step (fun _ action => FreshHandles action) a₀ trace a :=
    hrun.mono (by simp [trace, round, FreshHandles, Alloc.firstFree_fresh])
  have ha := of_decide_eq_true ha
  exact ⟨a₀, a, trace, ha₀, hrun, ha.1, ha.2, (hall trace a hrun).2.2.2.1⟩

end NetstackActor

end SmoltcpSocks
