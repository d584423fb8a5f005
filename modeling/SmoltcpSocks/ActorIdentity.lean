import SmoltcpSocks.ActorOwnership

/-! Identity of the sockets. A relay reaches its socket only through a channel whose receiver the actor
keeps under the socket's handle, and handles are used again. Births tell the sockets apart, and the
invariant links each channel to the one socket it was made for. -/

namespace SmoltcpSocks

open TcpSocket

variable {σ : Type}

/-- The hand-over an event records. -/
def ActorEvent.asHandOver : ActorEvent σ → Option (HandOver σ)
  | .handedOver handOver => some handOver
  | _ => none

namespace NetstackActor

def handOvers (a : NetstackActor σ) : List (HandOver σ) := a.history.filterMap ActorEvent.asHandOver

def birth (a : NetstackActor σ) (handle : SocketHandle) : Option Nat :=
  (a.sockets.lookup handle).map Slot.born

def chan (a : NetstackActor σ) (handle : SocketHandle) : Option ChanId :=
  (a.conns.lookup handle).map fun conn => conn.cmdRx.chan

theorem mem_handOvers {a : NetstackActor σ} {handOver : HandOver σ} :
    handOver ∈ a.handOvers ↔ .handedOver handOver ∈ a.history := by
  simp only [handOvers, List.mem_filterMap]
  constructor
  · rintro ⟨event, hmem, hevent⟩
    cases event <;> simp_all [ActorEvent.asHandOver]
  · exact fun hmem => ⟨_, hmem, rfl⟩

/-- Births and channels identify the sockets: each is given once, a listener was never handed over,
and a connection's channel was made for the socket under its handle. -/
structure Identified (a : NetstackActor σ) (listeners : List SocketHandle) : Prop where
  owns : Owns a listeners
  birth_lt : ∀ {handle n}, a.birth handle = some n → n < a.nextBorn
  birth_inj : ∀ {handle handle' n}, a.birth handle = some n → a.birth handle' = some n → handle = handle'
  past : ∀ h ∈ a.handOvers, h.born < a.nextBorn ∧ h.vconn.cmd < a.nextChan
  born_once : (a.handOvers.map HandOver.born).Nodup
  chan_once : (a.handOvers.map fun h => h.vconn.cmd).Nodup
  fresh : ∀ handle ∈ listeners, ∀ h ∈ a.handOvers, a.birth handle ≠ some h.born
  linked : ∀ {handle n c}, a.birth handle = some n → a.chan handle = some c →
    ∃ h ∈ a.handOvers, h.born = n ∧ h.vconn.cmd = c

variable {a b : NetstackActor σ} {listeners others : List SocketHandle} {handle handle' : SocketHandle}

/-- Sockets and connections may go, without a new hand-over. -/
theorem Identified.shrink (h : Identified a listeners) (hown : Owns b others)
    (hsub : ∀ handle ∈ others, handle ∈ listeners)
    (hbirth : ∀ {handle n}, b.birth handle = some n → a.birth handle = some n)
    (hchan : ∀ {handle c}, b.chan handle = some c → a.chan handle = some c)
    (hhand : b.handOvers = a.handOvers) (hborn : b.nextBorn = a.nextBorn)
    (hnext : b.nextChan = a.nextChan) : Identified b others := by
  refine ⟨hown, fun hn => hborn ▸ h.birth_lt (hbirth hn), fun h₁ h₂ => h.birth_inj (hbirth h₁) (hbirth h₂),
    ?_, hhand ▸ h.born_once, hhand ▸ h.chan_once, ?_, ?_⟩
  · rw [hhand, hborn, hnext]
    exact h.past
  · intro handle hmem handOver hhandOver hn
    exact h.fresh handle (hsub handle hmem) handOver (hhand ▸ hhandOver) (hbirth hn)
  · intro handle n c hn hc
    rw [hhand]
    exact h.linked (hbirth hn) (hchan hc)

theorem Identified.frame (h : Identified a listeners) (hown : Owns b listeners) (hbirth : b.birth = a.birth)
    (hchan : b.chan = a.chan) (hhand : b.handOvers = a.handOvers) (hborn : b.nextBorn = a.nextBorn)
    (hnext : b.nextChan = a.nextChan) : Identified b listeners :=
  h.shrink hown (fun _ => id) (fun hn => hbirth ▸ hn) (fun hc => hchan ▸ hc) hhand hborn hnext

theorem Identified.perm (h : Identified a listeners) (hperm : listeners.Perm others) : Identified a others :=
  { h with
    owns := h.owns.perm hperm
    fresh := fun handle hmem => h.fresh handle (hperm.mem_iff.mpr hmem) }

theorem birth_of_lookup {slot : Slot σ} (h : a.sockets.lookup handle = some slot) :
    a.birth handle = some slot.born := by
  rw [birth, h, Option.map_some]

theorem chan_of_lookup {conn : ConnState} (h : a.conns.lookup handle = some conn) :
    a.chan handle = some conn.cmdRx.chan := by
  rw [chan, h, Option.map_some]

theorem mem_of_chan {c : ChanId} (h : a.chan handle = some c) : handle ∈ a.conns := by
  obtain ⟨conn, hconn, _⟩ := Option.map_eq_some_iff.mp h
  exact Table.mem_of_lookup hconn

theorem birth_add (a : NetstackActor σ) (handle : SocketHandle) (socket : Traced σ) :
    (a.add handle socket).birth = Function.update a.birth handle (some a.nextBorn) := by
  funext handle'
  simp only [birth, add, Table.lookup_insert_eq, Function.update_apply]
  split <;> rfl

theorem birth_of_remove (slot : Slot σ) {n : Nat} (h : (a.remove handle slot).birth handle' = some n) :
    a.birth handle' = some n := by
  simp only [birth, remove, record, Table.lookup_erase_eq] at h
  split at h
  · cases h
  · exact h

theorem chan_handOver (a : NetstackActor σ) (handle : SocketHandle) (slot : Slot σ) (vconn : VConn) :
    (a.handOver handle slot vconn).chan = Function.update a.chan handle (some vconn.cmd) := by
  funext handle'
  simp only [chan, handOver, record, Table.lookup_insert_eq, Function.update_apply]
  split <;> rfl

theorem handOvers_remove (a : NetstackActor σ) (handle : SocketHandle) (slot : Slot σ) :
    (a.remove handle slot).handOvers = a.handOvers := by
  simp [handOvers, remove, record, ActorEvent.asHandOver]

theorem handOvers_handOver (a : NetstackActor σ) (handle : SocketHandle) (slot : Slot σ) (vconn : VConn) :
    (a.handOver handle slot vconn).handOvers = a.handOvers ++ [⟨vconn, slot.born, slot.socket⟩] := by
  have hnone : (a.conns.lookup handle).toList.filterMap
      (ActorEvent.asHandOver ∘ .overwritten (σ := σ)) = [] := by
    simp [List.filterMap_eq_nil_iff, ActorEvent.asHandOver]
  simp [handOvers, handOver, record, ActorEvent.asHandOver, List.filterMap_map, hnone]

theorem Identified.add (h : Identified a others) (hfresh : handle ∉ a.sockets) (socket : Traced σ) :
    Identified (a.add handle socket) (handle :: others) := by
  have hown := h.owns.add hfresh socket
  have hnot : handle ∉ others := (List.nodup_cons.mp hown.distinct).1
  refine ⟨hown, ?_, ?_, ?_, h.born_once, h.chan_once, ?_, ?_⟩
  · intro handle' n hn
    rw [birth_add, Function.update_apply] at hn
    split at hn
    · cases hn
      exact Nat.lt_succ_self _
    · exact Nat.lt_succ_of_lt (h.birth_lt hn)
  · intro handle₁ handle₂ n h₁ h₂
    rw [birth_add, Function.update_apply] at h₁ h₂
    split at h₁ <;> split at h₂
    · simp_all
    · cases h₁
      exact absurd (h.birth_lt h₂) (Nat.lt_irrefl _)
    · cases h₂
      exact absurd (h.birth_lt h₁) (Nat.lt_irrefl _)
    · exact h.birth_inj h₁ h₂
  · intro handOver hmem
    exact ⟨Nat.lt_succ_of_lt (h.past handOver hmem).1, (h.past handOver hmem).2⟩
  · intro handle' hmem handOver hhand
    rw [birth_add, Function.update_apply]
    split
    · have hlt := (h.past handOver hhand).1
      simp only [ne_eq, Option.some.injEq]
      omega
    · rcases List.mem_cons.mp hmem with heq | hmem
      · contradiction
      · exact h.fresh handle' hmem handOver hhand
  · intro handle' n c hn hc
    rw [birth_add, Function.update_apply] at hn
    split at hn
    · -- the new handle is not that of a connection
      rename_i heq
      have hconn : handle ∈ a.conns := heq ▸ mem_of_chan hc
      exact absurd ((h.owns.exact handle).mpr (Or.inr hconn)) hfresh
    · exact h.linked hn hc

theorem Identified.remove (h : Identified a (handle :: others)) (slot : Slot σ) :
    Identified (a.remove handle slot) others :=
  h.shrink (h.owns.remove slot) (fun _ => List.mem_cons_of_mem _) (birth_of_remove slot) id
    (handOvers_remove a handle slot) rfl rfl

/-- A listener's socket gets a channel of its own. -/
theorem Identified.handOver (h : Identified a (handle :: others)) {slot : Slot σ}
    (hslot : a.birth handle = some slot.born) {vconn : VConn} (hvconn : vconn.cmd = a.nextChan) :
    Identified (a.handOver handle slot vconn) others := by
  have hown := h.owns.handOver slot vconn
  have hnot : handle ∉ others := (List.nodup_cons.mp h.owns.distinct).1
  have hfresh := h.fresh handle List.mem_cons_self
  refine ⟨hown, h.birth_lt, h.birth_inj, ?_, ?_, ?_, ?_, ?_⟩
  · rw [handOvers_handOver]
    intro handOver hmem
    rcases List.mem_append.mp hmem with hmem | hmem
    · exact ⟨(h.past handOver hmem).1, Nat.lt_succ_of_lt (h.past handOver hmem).2⟩
    · cases List.mem_singleton.mp hmem
      exact ⟨h.birth_lt hslot, hvconn ▸ Nat.lt_succ_self _⟩
  · rw [handOvers_handOver, List.map_append, List.map_singleton, List.nodup_append]
    refine ⟨h.born_once, List.nodup_singleton _, ?_⟩
    intro n hn m hm
    obtain ⟨handOver, hmem, rfl⟩ := List.mem_map.mp hn
    rw [List.mem_singleton.mp hm]
    exact fun heq => hfresh handOver hmem (heq ▸ hslot)
  · rw [handOvers_handOver, List.map_append, List.map_singleton, List.nodup_append]
    refine ⟨h.chan_once, List.nodup_singleton _, ?_⟩
    intro n hn m hm
    obtain ⟨handOver, hmem, rfl⟩ := List.mem_map.mp hn
    rw [List.mem_singleton.mp hm, hvconn]
    exact Nat.ne_of_lt (h.past handOver hmem).2
  · intro handle' hmem handOver hhand hbirth
    rw [handOvers_handOver] at hhand
    rcases List.mem_append.mp hhand with hhand | hhand
    · exact h.fresh handle' (List.mem_cons_of_mem _ hmem) handOver hhand hbirth
    · cases List.mem_singleton.mp hhand
      cases h.birth_inj hslot hbirth
      exact hnot hmem
  · intro handle' n c hn hc
    rw [handOvers_handOver]
    rw [chan_handOver, Function.update_apply] at hc
    split at hc
    · rename_i heq
      cases hc
      cases hslot.symm.trans (heq ▸ hn)
      exact ⟨_, List.mem_append_right _ (List.mem_singleton_self _), rfl, rfl⟩
    · obtain ⟨handOver, hmem, hhand⟩ := h.linked hn hc
      exact ⟨handOver, List.mem_append_left _ hmem, hhand⟩

variable [TcpSocket σ] {alloc : Alloc σ}

theorem Identified.acceptStep (h : Identified a (handle :: others)) (hfresh : alloc.Fresh)
    (hstep : AcceptStep alloc a handle b handle') : Identified b (handle' :: others) := by
  cases hstep with
  | waits slot => exact h
  | handedOver slot loc remote socket hslot =>
      exact (h.handOver (birth_of_lookup hslot) rfl).add (hfresh a.sockets) socket
  | refused slot socket =>
      exact (h.remove { slot with socket := abort slot.socket }).add (hfresh (a.sockets.erase handle)) socket

omit [TcpSocket σ] in
theorem chan_map {f : SocketHandle → ConnState → ConnState}
    (hf : ∀ handle conn, (f handle conn).cmdRx.chan = conn.cmdRx.chan) (a : NetstackActor σ) :
    { a with conns := Table.map f a.conns }.chan = a.chan := by
  funext handle
  simp only [chan, Table.lookup_map, Option.map_map]
  congr 1
  funext conn
  exact hf handle conn

omit [TcpSocket σ] in
theorem chan_closeChannels (a : NetstackActor σ) (chans : List ChanId) :
    (a.closeChannels chans).chan = a.chan := by
  refine chan_map (fun handle conn => ?_) a
  split <;> rfl

omit [TcpSocket σ] in
theorem chan_pushCmd (a : NetstackActor σ) (c : ChanId) (cmd : ConnCmd) :
    (a.pushCmd c cmd).chan = a.chan := by
  refine chan_map (fun handle conn => ?_) a
  split <;> rfl

omit [TcpSocket σ] in
theorem birth_pollSockets (a : NetstackActor σ) (change : SocketHandle → σ → σ) :
    (a.pollSockets change).birth = a.birth := by
  funext handle
  simp only [birth, pollSockets, Table.lookup_map, Option.map_map]
  rfl

omit [TcpSocket σ] in
theorem Identified.dispatcher (h : Identified a listeners) (d : DispatcherStep) :
    Identified (a.dispatcher d) listeners := by
  have hown := h.owns.dispatcher d
  rcases dispatcher_cases a d with heq | ⟨_, _, _, _, _, heq⟩ | ⟨_, heq⟩ <;> rw [heq] at hown ⊢
  · exact h
  · exact h.frame hown rfl rfl (by simp [handOvers, record, ActorEvent.asHandOver]) rfl rfl
  · exact h.frame hown rfl (chan_closeChannels a _) rfl rfl rfl

variable [LawfulTcpSocket σ] {callers : ChanId → Callers}

omit [LawfulTcpSocket σ] in
theorem handOvers_of_entryStep (hstep : EntryStep callers a handle b) : b.handOvers = a.handOvers := by
  cases hstep <;>
    simp [handOvers, NetstackActor.remove, record, ActorEvent.asHandOver, List.filterMap_map,
      Function.comp_def]

/-- Servicing an entry keeps its socket and its channel, or drops both. -/
theorem Identified.entryStep (h : Identified a listeners) (hstep : EntryStep callers a handle b) :
    Identified b listeners := by
  have hown := h.owns.entryStep hstep
  have hhand := handOvers_of_entryStep hstep
  cases hstep with
  | kept conn slot v hconn hslot hv =>
      refine h.frame hown ?_ ?_ hhand rfl rfl
      · funext handle'
        simp only [birth, Table.lookup_insert_eq]
        split
        · rename_i heq
          rw [heq, hslot]
          rfl
        · rfl
      · funext handle'
        simp only [chan, Table.lookup_insert_eq]
        split
        · rename_i heq
          rw [heq, hconn, Option.map_some, hv, Service.cmdRx_service]
          rfl
        · rfl
  | dropped conn slot v hconn hslot hv =>
      refine h.shrink hown (fun _ => id) (birth_of_remove { slot with socket := abort v.socket }) ?_
        hhand rfl rfl
      intro handle' c hc
      simp only [chan, Table.lookup_erase_eq] at hc
      split at hc
      · cases hc
      · exact hc

theorem invariant_identified : Invariant (Identified (σ := σ)) where
  perm h hperm := h.perm hperm
  relabel vector h := h.frame (invariant_owns.relabel vector h.owns) rfl rfl rfl rfl rfl
  poll change h := h.frame (invariant_owns.poll change h.owns) (birth_pollSockets _ change) rfl rfl rfl rfl
  accept hfresh h hstep := h.acceptStep hfresh hstep
  entry h hstep := h.entryStep hstep
  dispatcher d h := h.dispatcher d
  send c cmd h := h.frame (invariant_owns.send c cmd h.owns) rfl (chan_pushCmd _ c cmd)
    (by simp [handOvers, pushCmd, record, ActorEvent.asHandOver]) rfl rfl
  drop c h := h.frame (invariant_owns.drop c h.owns) rfl (chan_closeChannels _ [c]) rfl rfl rfl

end NetstackActor

end SmoltcpSocks
