import SmoltcpSocks.ActorOwnership

/-! A whole call of `try_accept`: which listeners are handed over, and that each is handed over completely
or not at all. The dispatcher does not run during the call, so the free places of its queue are those at
the start. -/

namespace SmoltcpSocks

open TcpSocket

namespace NetstackActor

variable {σ : Type} [TcpSocket σ]

def freePlaces (a : NetstackActor σ) : Nat := if a.acceptedClosed then 0 else a.capacity - a.accepted.length

def isReadyAt (a : NetstackActor σ) (handle : SocketHandle) : Bool := (a.sockets.lookup handle).any isReady

/-- The listeners that the queue has places for, in the order of the slots. -/
def chosen (a : NetstackActor σ) (listeners : List SocketHandle) : List SocketHandle :=
  (listeners.filter a.isReadyAt).take a.freePlaces

/-- A listening socket that was added after the state `a`. -/
structure AddedSince (a : NetstackActor σ) (slot : Slot σ) : Prop where
  born : a.nextBorn ≤ slot.born
  listener : NewListener slot.socket

/-- The socket that was under the handle in `a` became a connection of `b` with the given VConn. -/
structure HandedOver (a b : NetstackActor σ) (handle : SocketHandle) (vconn : VConn) : Prop where
  endpoints : ∃ slot loc remote, a.sockets.lookup handle = some slot ∧ Ready slot loc remote ∧
    vconn.connMeta = connMeta loc remote
  new : handle ∉ a.conns
  entry : b.conns.lookup handle = some (.new ⟨vconn.cmd, [], false⟩)
  socket : b.sockets.lookup handle = a.sockets.lookup handle

/-- What a pass of `try_accept` over `listeners` makes of `a`, with the new vector `listeners'`. -/
structure Accepts (listeners : List SocketHandle) (a b : NetstackActor σ) (listeners' : List SocketHandle) :
    Prop where
  handedOver : ∃ new : List (SocketHandle × VConn), new.map Prod.fst = a.chosen listeners ∧
    b.accepted = a.accepted ++ new.map (fun entry => (entry.2, entry.2.connMeta)) ∧
    new.map (fun entry => entry.2.cmd) = List.range' a.nextChan new.length ∧
    ∀ entry ∈ new, HandedOver a b entry.1 entry.2
  conns : ∀ handle ∉ a.chosen listeners, b.conns.lookup handle = a.conns.lookup handle
  waiting : ∀ handle ∈ listeners, ∀ slot, a.sockets.lookup handle = some slot → Waits slot →
    b.sockets.lookup handle = some slot
  removed : ∀ handle ∈ listeners, ∀ slot, a.sockets.lookup handle = some slot → ¬ Waits slot →
    handle ∉ a.chosen listeners →
      ∀ slot', b.sockets.lookup handle = some slot' → AddedSince a slot'
  others : ∀ handle ∈ a.sockets, handle ∉ listeners → b.sockets.lookup handle = a.sockets.lookup handle
  only : ∀ handle slot, b.sockets.lookup handle = some slot →
    a.sockets.lookup handle = some slot ∨ AddedSince a slot
  length : listeners'.length = listeners.length
  slots : ∀ handle handle', (handle, handle') ∈ listeners.zip listeners' →
    (∀ slot, a.sockets.lookup handle = some slot → Waits slot → handle' = handle) ∧
    (∀ slot, a.sockets.lookup handle = some slot → ¬ Waits slot →
      ∃ slot', b.sockets.lookup handle' = some slot' ∧ AddedSince a slot')
  answers : b.answers = a.answers

variable {a b c : NetstackActor σ} {alloc : Alloc σ} {handle handle' : SocketHandle}
  {rest rest' processed : List SocketHandle}

omit [TcpSocket σ] in
theorem hasRoom_iff : a.hasRoom = true ↔ 0 < a.freePlaces := by
  rcases hclosed : a.acceptedClosed with _ | _
  · simp only [hasRoom, freePlaces, hclosed, Bool.not_false, Bool.true_and, decide_eq_true_eq, Bool.false_eq_true,
      if_false]
    omega
  · simp [hasRoom, freePlaces, hclosed]

/-- A turn of the loop only adds new listeners. -/
theorem only_acceptStep (hstep : AcceptStep alloc a handle b handle') {other : SocketHandle} {slot : Slot σ}
    (hslot : b.sockets.lookup other = some slot) : a.sockets.lookup other = some slot ∨ AddedSince a slot := by
  cases hstep with
  | waits => exact Or.inl hslot
  | handedOver slot' loc remote socket _ _ _ hnew =>
      simp only [add, handOver, record, Table.lookup_insert_eq] at hslot
      split at hslot
      · cases hslot
        exact Or.inr ⟨Nat.le_refl _, hnew⟩
      · exact Or.inl hslot
  | refused slot' socket _ _ _ hnew =>
      simp only [add, remove, record, Table.lookup_insert_eq] at hslot
      split at hslot
      · cases hslot
        exact Or.inr ⟨Nat.le_refl _, hnew⟩
      · rw [Table.lookup_erase_eq] at hslot
        split at hslot
        · cases hslot
        · exact Or.inl hslot

theorem nextBorn_acceptStep (hstep : AcceptStep alloc a handle b handle') : a.nextBorn ≤ b.nextBorn := by
  cases hstep with
  | waits => exact Nat.le_refl _
  | handedOver | refused => exact Nat.le_succ _

theorem AddedSince.mono {slot : Slot σ} (h : AddedSince b slot) (hle : a.nextBorn ≤ b.nextBorn) :
    AddedSince a slot :=
  ⟨Nat.le_trans hle h.born, h.listener⟩

theorem answers_acceptStep (hstep : AcceptStep alloc a handle b handle') : b.answers = a.answers := by
  cases hstep <;> rfl

/-- What the turn of a listener before those in `rest` does to the queue and to the connections: the listener
is handed over, or it takes no place of the queue. -/
inductive Turn (a c : NetstackActor σ) (handle : SocketHandle) (rest : List SocketHandle) : Prop
  | handedOver (vconn : VConn) : a.chosen (handle :: rest) = handle :: c.chosen rest →
      vconn.cmd = a.nextChan → c.nextChan = a.nextChan + 1 →
      c.accepted = a.accepted ++ [(vconn, vconn.connMeta)] →
      c.conns = a.conns.insert handle (.new ⟨vconn.cmd, [], false⟩) →
      c.sockets.lookup handle = a.sockets.lookup handle →
      (∃ slot loc remote, a.sockets.lookup handle = some slot ∧ Ready slot loc remote ∧
        vconn.connMeta = connMeta loc remote) → Turn a c handle rest
  | passed : a.chosen (handle :: rest) = c.chosen rest → c.nextChan = a.nextChan →
      c.accepted = a.accepted → c.conns = a.conns → Turn a c handle rest

theorem turn_acceptStep (h : Owns a (handle :: (rest ++ processed))) (hfresh : alloc.Fresh)
    (hstep : AcceptStep alloc a handle c handle') : Turn a c handle rest := by
  -- the handles of the other listeners mean the same after the turn
  have hrest : rest.filter c.isReadyAt = rest.filter a.isReadyAt := by
    refine List.filter_congr fun listener hmem => ?_
    rw [isReadyAt, isReadyAt, h.lookup_acceptStep hfresh hstep (List.mem_append_left _ hmem)]
  cases hstep with
  | waits slot hslot hwaits =>
      have hready : a.isReadyAt handle = false := by simp [isReadyAt, hslot, not_isReady_of_waits hwaits]
      refine .passed ?_ rfl rfl rfl
      rw [chosen, List.filter_cons_of_neg (by simp [hready])]
      rfl
  | handedOver slot loc remote socket hslot hready hroom =>
      have hkept : alloc a.sockets ≠ handle := fun heq => hfresh a.sockets (heq ▸ Table.mem_of_lookup hslot)
      refine .handedOver ⟨connMeta loc remote, a.nextChan⟩ ?_ rfl rfl rfl rfl
        (AList.lookup_insert_ne hkept.symm) ⟨slot, loc, remote, hslot, hready, rfl⟩
      have hready' : a.isReadyAt handle = true := by
        simp [isReadyAt, hslot, isReady_iff.mpr ⟨loc, remote, hready⟩]
      have hplaces : a.freePlaces = ((a.handOver handle slot ⟨connMeta loc remote, a.nextChan⟩).add
          (alloc a.sockets) socket).freePlaces + 1 := by
        simp only [hasRoom, Bool.and_eq_true, Bool.not_eq_true', decide_eq_true_eq] at hroom
        simp only [freePlaces, add, handOver, record, hroom.1, Bool.false_eq_true, if_false,
          List.length_append, List.length_singleton]
        omega
      rw [chosen, chosen, hrest, List.filter_cons_of_pos hready', hplaces, List.take_succ_cons]
  | refused slot socket hslot hwaits hfull =>
      refine .passed ?_ rfl rfl rfl
      rw [chosen, chosen, hrest]
      rcases hready : a.isReadyAt handle with _ | _
      · rw [List.filter_cons_of_neg (by simp [hready])]
        rfl
      · -- a listener that is ready is refused only when the queue has no place left
        obtain ⟨loc, remote, hready'⟩ := isReady_iff.mp (by simpa [isReadyAt, hslot] using hready)
        have hplaces : a.freePlaces = 0 := by
          have hroom := hfull loc remote hready'
          rw [Bool.eq_false_iff, ne_eq, hasRoom_iff] at hroom
          omega
        change _ = List.take a.freePlaces _
        rw [hplaces, List.take_zero, List.take_zero]

theorem waits_acceptStep (hstep : AcceptStep alloc a handle c handle') {slot : Slot σ}
    (hslot : a.sockets.lookup handle = some slot) (hwaits : Waits slot) : c = a ∧ handle' = handle := by
  cases hstep with
  | waits => exact ⟨rfl, rfl⟩
  | handedOver slot' loc remote _ hslot' hready =>
      cases hslot.symm.trans hslot'
      cases (not_isReady_of_waits hwaits).symm.trans (isReady_iff.mpr ⟨loc, remote, hready⟩)
  | refused slot' _ hslot' hnot =>
      cases hslot.symm.trans hslot'
      exact absurd hwaits hnot

theorem used_acceptStep (hstep : AcceptStep alloc a handle c handle') {slot : Slot σ}
    (hslot : a.sockets.lookup handle = some slot) (hused : ¬ Waits slot) :
    ∃ slot', c.sockets.lookup handle' = some slot' ∧ AddedSince a slot' := by
  cases hstep with
  | waits slot' hslot' hwaits =>
      cases hslot.symm.trans hslot'
      exact absurd hwaits hused
  | handedOver slot' loc remote socket _ _ _ hnew =>
      exact ⟨⟨a.nextBorn, socket⟩, AList.lookup_insert _, Nat.le_refl _, hnew⟩
  | refused slot' socket _ _ _ hnew =>
      exact ⟨⟨a.nextBorn, socket⟩, AList.lookup_insert _, Nat.le_refl _, hnew⟩

/-- A socket that neither waits nor becomes a connection leaves the set. -/
theorem removed_acceptStep (hstep : AcceptStep alloc a handle c handle') {slot slot' : Slot σ}
    (hslot : a.sockets.lookup handle = some slot) (hused : ¬ Waits slot) (hconn : handle ∉ c.conns)
    (hslot' : c.sockets.lookup handle = some slot') : AddedSince a slot' := by
  cases hstep with
  | waits slot'' hslot'' hwaits =>
      cases hslot.symm.trans hslot''
      exact absurd hwaits hused
  | handedOver => exact absurd (AList.mem_insert _ |>.mpr (Or.inl rfl)) hconn
  | refused slot'' socket _ _ _ hnew =>
      simp only [add, remove, record, Table.lookup_insert_eq, AList.lookup_erase] at hslot'
      split at hslot'
      · cases hslot'
        exact ⟨Nat.le_refl _, hnew⟩
      · cases hslot'

theorem mem_of_mem_chosen {listener : SocketHandle} (h : listener ∈ a.chosen rest) : listener ∈ rest :=
  List.mem_of_mem_filter (List.mem_of_mem_take h)

/-- What is handed over after a turn that left the socket alone was there before the turn. -/
theorem HandedOver.before {vconn : VConn} (h : HandedOver c b handle vconn)
    (hsockets : c.sockets.lookup handle = a.sockets.lookup handle) (hconns : handle ∉ a.conns) :
    HandedOver a b handle vconn := by
  obtain ⟨hendpoints, _, hentry, hsocket⟩ := h
  rw [hsockets] at hendpoints hsocket
  exact ⟨hendpoints, hconns, hentry, hsocket⟩

theorem Turn.lookup_conns (h : Turn a c handle rest) {listener : SocketHandle}
    (hmem : listener ∉ a.chosen (handle :: rest)) :
    c.conns.lookup listener = a.conns.lookup listener ∧ listener ∉ c.chosen rest := by
  cases h with
  | handedOver vconn heq _ _ _ hconns =>
      rw [heq, List.mem_cons, not_or] at hmem
      rw [hconns, AList.lookup_insert_ne hmem.1]
      exact ⟨rfl, hmem.2⟩
  | passed heq _ _ hconns =>
      rw [heq] at hmem
      exact ⟨by rw [hconns], hmem⟩

theorem Accepts.cons (h : Owns a (handle :: (rest ++ processed))) (hfresh : alloc.Fresh)
    (hstep : AcceptStep alloc a handle c handle') (hrest : Accepts rest c b rest') :
    Accepts (handle :: rest) a b (handle' :: rest') := by
  have hown := h.acceptStep hfresh hstep
  have hnot : handle ∉ rest := fun hmem =>
    (List.nodup_cons.mp h.distinct).1 (List.mem_append_left _ hmem)
  have hnot' : handle' ∉ rest := fun hmem =>
    (List.nodup_cons.mp hown.distinct).1 (List.mem_append_left _ hmem)
  have hconn {listener} (hmem : listener ∈ handle :: rest) : listener ∉ a.conns :=
    h.disjoint listener (List.mem_append_left processed hmem)
  have hsame {listener} (hmem : listener ∈ rest) : c.sockets.lookup listener = a.sockets.lookup listener :=
    h.lookup_acceptStep hfresh hstep (List.mem_append_left _ hmem)
  have hborn := nextBorn_acceptStep hstep
  -- the turn left a socket under the handle of this slot, and nothing else is done to it
  have hlast {slot} (hslot : c.sockets.lookup handle = some slot) : b.sockets.lookup handle = some slot :=
    (hrest.others handle (Table.mem_of_lookup hslot) hnot).trans hslot
  have hturn : Turn a c handle rest := turn_acceptStep h hfresh hstep
  constructor
  case handedOver =>
    obtain ⟨new, hkeys, haccepted, hchans, hnew⟩ := hrest.handedOver
    have hnew' : ∀ entry ∈ new, HandedOver a b entry.1 entry.2 := by
      intro entry hmem
      have hmem' : entry.1 ∈ rest := mem_of_mem_chosen (hkeys ▸ List.mem_map_of_mem hmem)
      exact (hnew entry hmem).before (hsame hmem') (hconn (List.mem_cons_of_mem _ hmem'))
    cases hturn with
    | handedOver vconn heq hchan hnext hqueue hconns hkept hready =>
        refine ⟨(handle, vconn) :: new, ?_, ?_, ?_, ?_⟩
        · rw [heq, List.map_cons, hkeys]
        · rw [haccepted, hqueue, List.append_assoc]
          rfl
        · rw [List.map_cons, hchans, hnext, hchan, List.length_cons, List.range'_succ]
        · refine List.forall_mem_cons.mpr ⟨⟨hready, hconn List.mem_cons_self, ?_, ?_⟩, hnew'⟩
          · rw [hrest.conns handle fun hmem => hnot (mem_of_mem_chosen hmem), hconns, AList.lookup_insert]
          · obtain ⟨slot, _, _, hslot, _⟩ := hready
            rw [hlast (hkept.trans hslot), hslot]
    | passed heq hnext hqueue =>
        exact ⟨new, by rw [heq, hkeys], by rw [haccepted, hqueue], by rw [hchans, hnext], hnew'⟩
  case conns =>
    intro listener hmem
    obtain ⟨hlookup, hmem'⟩ := hturn.lookup_conns hmem
    rw [hrest.conns listener hmem', hlookup]
  case waiting =>
    intro listener hmem slot hslot hwaits
    rcases List.mem_cons.mp hmem with rfl | hmem
    · obtain ⟨rfl, rfl⟩ := waits_acceptStep hstep hslot hwaits
      exact hlast hslot
    · exact hrest.waiting listener hmem slot ((hsame hmem).trans hslot) hwaits
  case removed =>
    intro listener hmem slot hslot hused hover slot' hslot'
    obtain ⟨hlookup, hover'⟩ := hturn.lookup_conns hover
    rcases List.mem_cons.mp hmem with rfl | hmem
    · rcases hrest.only listener slot' hslot' with hslot' | hadded
      · have hgone : listener ∉ c.conns := by
          rw [← AList.lookup_eq_none, hlookup, AList.lookup_eq_none]
          exact hconn List.mem_cons_self
        exact removed_acceptStep hstep hslot hused hgone hslot'
      · exact hadded.mono hborn
    · exact (hrest.removed listener hmem slot ((hsame hmem).trans hslot) hused hover' slot' hslot').mono hborn
  case others =>
    intro other hother hmem
    rw [List.mem_cons, not_or] at hmem
    have hlookup := lookup_acceptStep hfresh hstep hother hmem.1
    obtain ⟨slot, hslot⟩ := Table.mem_iff.mp hother
    rw [hrest.others other (Table.mem_of_lookup (hlookup.trans hslot)) hmem.2, hlookup]
  case only =>
    intro other slot hslot
    rcases hrest.only other slot hslot with hslot | hadded
    · exact only_acceptStep hstep hslot
    · exact Or.inr (hadded.mono hborn)
  case length => rw [List.length_cons, List.length_cons, hrest.length]
  case slots =>
    intro listener listener' hmem
    rw [List.zip_cons_cons, List.mem_cons] at hmem
    rcases hmem with heq | hmem
    · cases heq
      refine ⟨fun slot hslot hwaits => (waits_acceptStep hstep hslot hwaits).2, fun slot hslot hused => ?_⟩
      obtain ⟨slot', hslot', hadded⟩ := used_acceptStep hstep hslot hused
      exact ⟨slot', (hrest.others _ (Table.mem_of_lookup hslot') hnot').trans hslot', hadded⟩
    · have hsame := hsame (List.of_mem_zip hmem).1
      obtain ⟨hwaits, hused⟩ := hrest.slots listener listener' hmem
      rw [hsame] at hwaits hused
      refine ⟨hwaits, fun slot hslot hnotWaits => ?_⟩
      obtain ⟨slot', hslot', hadded⟩ := hused slot hslot hnotWaits
      exact ⟨slot', hslot', hadded.mono hborn⟩
  case answers => rw [hrest.answers, answers_acceptStep hstep]

variable [LawfulTcpSocket σ]

/-- The loop of `try_accept` does its pass. -/
theorem accepts_acceptLoop (hfresh : alloc.Fresh) (h : Owns a (rest ++ processed)) :
    ∃ b rest', acceptLoop alloc (fun _ => []) rest a = some (b, rest') ∧ Accepts rest a b rest' := by
  induction rest generalizing a processed with
  | nil =>
      refine ⟨a, [], rfl, ?_⟩
      constructor
      case handedOver => exact ⟨[], by simp [chosen], by simp, rfl, nofun⟩
      case only => exact fun _ _ hslot => Or.inl hslot
      case length => rfl
      case answers => rfl
      case conns => exact fun _ _ => rfl
      case others => exact fun _ _ _ => rfl
      all_goals nofun
  | cons handle rest ih =>
      have hmem : handle ∈ a.sockets := (h.exact handle).mpr (Or.inl List.mem_cons_self)
      obtain ⟨c, handle', hslot, hstep⟩ := acceptSlot_step alloc hmem
      have hnext : Owns c (rest ++ handle' :: processed) :=
        (h.acceptStep hfresh hstep).perm List.perm_middle.symm
      obtain ⟨b, rest', hloop, haccepts⟩ := ih hnext
      refine ⟨b, handle' :: rest', ?_, haccepts.cons h hfresh hstep⟩
      exact acceptLoop_cons_eq_some_iff.mpr ⟨c, handle', rest', hslot, hloop, rfl⟩

/-- `try_accept` hands a listener over completely or not at all, the first ones that the queue has places
for; the others that are done with their handshake, and every socket in another state, leave the set. -/
theorem try_accept_atomic (hfresh : alloc.Fresh) (h : Owns a a.listeners) :
    ∃ b, a.tryAccept alloc (fun _ => []) = some b ∧ Accepts a.listeners a b b.listeners := by
  have hown : Owns a (a.listeners ++ []) := by simpa using h
  obtain ⟨b, listeners, hloop, haccepts⟩ := accepts_acceptLoop hfresh hown
  refine ⟨{ b with listeners := listeners }, ?_, ?_⟩
  · exact tryAccept_eq_some_iff.mpr ⟨b, listeners, hloop, rfl⟩
  · obtain ⟨new, hkeys, haccepted, hchans, hnew⟩ := haccepts.handedOver
    have hnew' : ∀ entry ∈ new, HandedOver a { b with listeners := listeners }
        entry.1 entry.2 := by
      intro entry hmem
      exact ⟨(hnew entry hmem).endpoints, (hnew entry hmem).new, (hnew entry hmem).entry,
        (hnew entry hmem).socket⟩
    exact ⟨⟨new, hkeys, haccepted, hchans, hnew'⟩, haccepts.conns, haccepts.waiting, haccepts.removed, haccepts.others,
      haccepts.only, haccepts.length, haccepts.slots, haccepts.answers⟩

/-- Two listeners are ready when the queue has one place left: the second one is refused. -/
theorem try_accept_atomic_one_place :
    let endpoint : IpEndpoint := ⟨.v4 #v[10, 0, 0, 1], 80⟩
    let ready : Slot BufferedSocket := ⟨0, ⟨.established, some endpoint, some endpoint, [7], false, [], 8⟩, []⟩
    let waits : Slot BufferedSocket := ⟨2, ⟨.listen, none, none, [], false, [], 8⟩, []⟩
    let a : NetstackActor BufferedSocket :=
      { empty 1 with
        sockets := ((AList.insert 2 waits ∅).insert 1 { ready with born := 1 }).insert 0 ready
        listeners := [0, 1, 2]
        nextBorn := 3 }
    ∃ b, a.tryAccept Alloc.firstFree (fun _ => []) = some b ∧ Accepts a.listeners a b b.listeners ∧
      b.accepted = [(⟨connMeta endpoint endpoint, 0⟩, connMeta endpoint endpoint)] ∧ b.listeners = [3, 1, 2] := by
  intro endpoint ready waits a
  have hown : Owns a a.listeners := by
    refine ⟨by decide, ?_, fun handle => ?_, nofun⟩
    · exact fun handle _ hmem => AList.notMem_empty handle hmem
    · simp [a, empty, AList.insert_empty, AList.mem_keys]
  have hresult : (a.tryAccept Alloc.firstFree fun _ => []).any (fun b =>
      decide (b.accepted = [(⟨connMeta endpoint endpoint, 0⟩, connMeta endpoint endpoint)] ∧
        b.listeners = [3, 1, 2])) = true := by decide +kernel
  obtain ⟨b, htry, haccepts⟩ := try_accept_atomic Alloc.firstFree_fresh hown
  rw [htry, Option.any_some] at hresult
  exact ⟨b, htry, haccepts, of_decide_eq_true hresult⟩

end NetstackActor

end SmoltcpSocks
