import SmoltcpSocks.ActorIdentity

/-! `service_commands` does not depend on the order in which `retain` visits the entries of a `HashMap`:
what becomes of a connection is a function of its own entry, its own socket and the replies sent to it so
far. Tables are compared by their lookups. -/

namespace SmoltcpSocks

open TcpSocket

/-- What is left of a connection after its turn: its entry, its socket, and the replies on its channels. -/
structure Outcome (σ : Type) where
  conn : Option ConnState
  slot : Option (Slot σ)
  answers : Answers

namespace NetstackActor

variable {σ : Type} [TcpSocket σ]

def outcome (callers : Callers) (conn : ConnState) (slot : Slot σ) (answers : Answers) : Outcome σ :=
  let v := Service.service callers ⟨conn, slot.socket, answers⟩
  if v.conn.cmdRx.isClosed && v.conn.cmdRx.isEmpty then ⟨none, none, (Service.failPending v).answers⟩
  else ⟨some v.conn, some { slot with socket := v.socket }, v.answers⟩

/-- The entries of `order` had their turn between `a` and `b`. -/
structure Serviced (callers : ChanId → Callers) (order : List SocketHandle) (a b : NetstackActor σ) :
    Prop where
  turns : ∀ handle ∈ order, ∀ conn slot, a.conns.lookup handle = some conn →
    a.sockets.lookup handle = some slot →
      (⟨b.conns.lookup handle, b.sockets.lookup handle, b.answers conn.cmdRx.chan⟩ : Outcome σ) =
        outcome (callers conn.cmdRx.chan) conn slot (a.answers conn.cmdRx.chan)
  conns : ∀ handle ∉ order, b.conns.lookup handle = a.conns.lookup handle
  sockets : ∀ handle ∉ order, b.sockets.lookup handle = a.sockets.lookup handle
  answers : ∀ chan, (∀ handle ∈ order, a.chan handle ≠ some chan) → b.answers chan = a.answers chan

def DistinctChans (a : NetstackActor σ) : Prop :=
  ∀ handle handle' chan, a.chan handle = some chan → a.chan handle' = some chan → handle = handle'

omit [TcpSocket σ] in
/-- Whatever the actor goes through, no two connections share a channel. -/
theorem Identified.distinctChans {a : NetstackActor σ} {listeners : List SocketHandle}
    (h : Identified a listeners) : DistinctChans a := by
  intro handle handle' chan hchan hchan'
  have hlinked {handle} (hchan : a.chan handle = some chan) :
      ∃ n, a.birth handle = some n ∧ ∃ entry ∈ a.handOvers, entry.born = n ∧ entry.vconn.cmd = chan := by
    obtain ⟨slot, hslot⟩ := Table.mem_iff.mp ((h.owns.exact handle).mpr (Or.inr (mem_of_chan hchan)))
    exact ⟨slot.born, birth_of_lookup hslot, h.linked (birth_of_lookup hslot) hchan⟩
  obtain ⟨n, hbirth, entry, hmem, rfl, hcmd⟩ := hlinked hchan
  obtain ⟨n', hbirth', entry', hmem', rfl, hcmd'⟩ := hlinked hchan'
  have heq : entry = entry' := List.inj_on_of_nodup_map h.chan_once hmem hmem' (hcmd.trans hcmd'.symm)
  exact h.birth_inj hbirth (heq ▸ hbirth')

variable [LawfulTcpSocket σ] {a b c : NetstackActor σ} {callers : ChanId → Callers}
  {handle handle' : SocketHandle} {order order' : List SocketHandle} {conn : ConnState} {slot : Slot σ}

/-- A connection is dropped with its socket exactly when its channel is closed; a round drains it. -/
theorem outcome_dropped_iff (callers : Callers) (conn : ConnState) (slot : Slot σ) (answers : Answers) :
    ((outcome callers conn slot answers).conn = none ↔ conn.cmdRx.closed = true) ∧
      ((outcome callers conn slot answers).slot = none ↔ conn.cmdRx.closed = true) := by
  have hcmdRx := Service.cmdRx_service callers ⟨conn, slot.socket, answers⟩
  simp only [outcome, CmdReceiver.isClosed, CmdReceiver.isEmpty, hcmdRx, List.isEmpty_nil, Bool.and_true]
  rcases conn.cmdRx.closed <;> simp

theorem outcome_drained {callers : Callers} {answers : Answers} {conn' : ConnState}
    (h : (outcome callers conn slot answers).conn = some conn') : conn'.cmdRx.queue = [] := by
  have hcmdRx := Service.cmdRx_service callers ⟨conn, slot.socket, answers⟩
  unfold outcome at h
  dsimp only at h
  split at h
  · cases h
  · cases h
    rw [hcmdRx]

theorem outcome_of_entryStep (hstep : EntryStep callers a handle b) (hconn : a.conns.lookup handle = some conn)
    (hslot : a.sockets.lookup handle = some slot) :
    (⟨b.conns.lookup handle, b.sockets.lookup handle, b.answers conn.cmdRx.chan⟩ : Outcome σ) =
      outcome (callers conn.cmdRx.chan) conn slot (a.answers conn.cmdRx.chan) := by
  have hcmdRx := Service.cmdRx_service (callers conn.cmdRx.chan)
    ⟨conn, slot.socket, a.answers conn.cmdRx.chan⟩
  simp only [outcome, CmdReceiver.isClosed, CmdReceiver.isEmpty, hcmdRx, List.isEmpty_nil, Bool.and_true]
  cases hstep with
  | kept conn' slot' v hconn' hslot' hv hclosed =>
      cases hconn.symm.trans hconn'
      cases hslot.symm.trans hslot'
      rw [hclosed, hv]
      simp
  | dropped conn' slot' v hconn' hslot' hv hclosed =>
      cases hconn.symm.trans hconn'
      cases hslot.symm.trans hslot'
      rw [hclosed, hv]
      simp [record, remove]

omit [LawfulTcpSocket σ] in
/-- A turn of `retain` answers only on the channels of its connection. -/
theorem answers_of_entryStep (hstep : EntryStep callers a handle b) {chan : ChanId}
    (hchan : a.chan handle ≠ some chan) : b.answers chan = a.answers chan := by
  cases hstep with
  | kept conn slot v hconn | dropped conn slot v hconn =>
      rw [chan_of_lookup hconn] at hchan
      exact Function.update_of_ne (fun heq => hchan (congrArg some heq.symm)) _ _

theorem Serviced.cons (hnot : handle ∉ order) (hchans : DistinctChans a)
    (hstep : EntryStep callers a handle c) (hrest : Serviced callers order c b) :
    Serviced callers (handle :: order) a b := by
  have hsame {other} (hne : other ≠ handle) := lookup_of_entryStep hstep hne
  have hne {other} (hmem : other ∈ order) : other ≠ handle := fun heq => hnot (heq ▸ hmem)
  have hchan {other} (hmem : other ∈ order) : c.chan other = a.chan other := by
    rw [chan, chan, (hsame (hne hmem)).1]
  constructor
  case turns =>
    intro other hmem conn slot hconn hslot
    rcases List.mem_cons.mp hmem with rfl | hmem
    · -- the later turns belong to other connections
      have hanswers : b.answers conn.cmdRx.chan = c.answers conn.cmdRx.chan := by
        refine hrest.answers _ fun other' hmem' heq => ?_
        rw [hchan hmem'] at heq
        exact hne hmem' (hchans _ _ _ heq (chan_of_lookup hconn))
      rw [hrest.conns _ hnot, hrest.sockets _ hnot, hanswers]
      exact outcome_of_entryStep hstep hconn hslot
    · obtain ⟨hconns, hsockets⟩ := hsame (hne hmem)
      have hanswers : c.answers conn.cmdRx.chan = a.answers conn.cmdRx.chan := by
        refine answers_of_entryStep hstep fun heq => ?_
        exact hne hmem (hchans _ _ _ (chan_of_lookup hconn) heq)
      rw [hrest.turns other hmem conn slot (hconns.trans hconn) (hsockets.trans hslot), hanswers]
  case conns =>
    intro other hmem
    rw [List.mem_cons, not_or] at hmem
    rw [hrest.conns other hmem.2, (hsame hmem.1).1]
  case sockets =>
    intro other hmem
    rw [List.mem_cons, not_or] at hmem
    rw [hrest.sockets other hmem.2, (hsame hmem.1).2]
  case answers =>
    intro chan hfree
    rw [hrest.answers chan, answers_of_entryStep hstep (hfree handle List.mem_cons_self)]
    intro other hmem
    rw [hchan hmem]
    exact hfree other (List.mem_cons_of_mem _ hmem)

theorem chan_of_entryStep (hstep : EntryStep callers a handle b) {other : SocketHandle} {chan : ChanId}
    (h : b.chan other = some chan) : a.chan other = some chan := by
  by_cases hne : other = handle
  · subst hne
    cases hstep with
    | kept conn slot v hconn hslot hv =>
        have hcmdRx := Service.cmdRx_service (callers conn.cmdRx.chan)
          ⟨conn, slot.socket, a.answers conn.cmdRx.chan⟩
        simp only [NetstackActor.chan, AList.lookup_insert, Option.map_some, hv, hcmdRx] at h
        rw [chan_of_lookup hconn]
        exact h
    | dropped => simp [NetstackActor.chan] at h
  · rw [NetstackActor.chan, (lookup_of_entryStep hstep hne).1] at h
    exact h

theorem serviced_foldlM (hnodup : order.Nodup) (hentries : ∀ handle ∈ order, handle ∈ a.conns ∧ handle ∈ a.sockets)
    (hchans : DistinctChans a) :
    ∃ b, order.foldlM (serviceEntry callers) a = some b ∧ Serviced callers order a b := by
  induction order generalizing a with
  | nil => exact ⟨a, rfl, nofun, fun _ _ => rfl, fun _ _ => rfl, fun _ _ => rfl⟩
  | cons handle rest ih =>
      obtain ⟨hnot, hnodup⟩ := List.nodup_cons.mp hnodup
      obtain ⟨hconn, hsocket⟩ := hentries handle List.mem_cons_self
      obtain ⟨c, hentry, hstep⟩ := serviceEntry_step callers hconn hsocket
      have hentries' : ∀ other ∈ rest, other ∈ c.conns ∧ other ∈ c.sockets := by
        intro other hmem
        obtain ⟨hconns, hsockets⟩ := lookup_of_entryStep hstep fun heq => hnot (heq ▸ hmem)
        rw [← AList.lookup_isSome, ← AList.lookup_isSome, hconns, hsockets, AList.lookup_isSome,
          AList.lookup_isSome]
        exact hentries other (List.mem_cons_of_mem _ hmem)
      have hchans' : DistinctChans c := fun other other' chan h h' =>
        hchans other other' chan (chan_of_entryStep hstep h) (chan_of_entryStep hstep h')
      obtain ⟨b, hfold, hserviced⟩ := ih hnodup hentries' hchans'
      refine ⟨b, ?_, hserviced.cons hnot hchans hstep⟩
      rw [List.foldlM_cons, hentry]
      exact hfold

omit [LawfulTcpSocket σ] in
/-- The turns determine the result. -/
theorem Serviced.unique {b' : NetstackActor σ} (hperm : order.Perm order')
    (hentries : ∀ handle ∈ order, handle ∈ a.conns ∧ handle ∈ a.sockets)
    (h : Serviced callers order a b) (h' : Serviced callers order' a b') :
    (∀ handle, b.conns.lookup handle = b'.conns.lookup handle) ∧
      (∀ handle, b.sockets.lookup handle = b'.sockets.lookup handle) ∧ b.answers = b'.answers := by
  have hturn {handle} (hmem : handle ∈ order) : ∃ conn, a.conns.lookup handle = some conn ∧
      (⟨b.conns.lookup handle, b.sockets.lookup handle, b.answers conn.cmdRx.chan⟩ : Outcome σ) =
        ⟨b'.conns.lookup handle, b'.sockets.lookup handle, b'.answers conn.cmdRx.chan⟩ := by
    obtain ⟨conn, hconn⟩ := Table.mem_iff.mp (hentries handle hmem).1
    obtain ⟨slot, hslot⟩ := Table.mem_iff.mp (hentries handle hmem).2
    exact ⟨conn, hconn, (h.turns handle hmem conn slot hconn hslot).trans
      (h'.turns handle (hperm.mem_iff.mp hmem) conn slot hconn hslot).symm⟩
  refine ⟨fun handle => ?_, fun handle => ?_, funext fun chan => ?_⟩
  · by_cases hmem : handle ∈ order
    · obtain ⟨conn, _, heq⟩ := hturn hmem
      exact congrArg Outcome.conn heq
    · rw [h.conns handle hmem, h'.conns handle fun hmem' => hmem (hperm.mem_iff.mpr hmem')]
  · by_cases hmem : handle ∈ order
    · obtain ⟨conn, _, heq⟩ := hturn hmem
      exact congrArg Outcome.slot heq
    · rw [h.sockets handle hmem, h'.sockets handle fun hmem' => hmem (hperm.mem_iff.mpr hmem')]
  · by_cases hmem : ∃ handle ∈ order, a.chan handle = some chan
    · obtain ⟨handle, hmem, hchan⟩ := hmem
      obtain ⟨conn, hconn, heq⟩ := hturn hmem
      rw [chan_of_lookup hconn] at hchan
      cases hchan
      exact congrArg Outcome.answers heq
    · have hfree : ∀ handle ∈ order, a.chan handle ≠ some chan := fun handle hmem' heq => hmem ⟨handle, hmem', heq⟩
      rw [h.answers chan hfree, h'.answers chan fun handle hmem' => hfree handle (hperm.mem_iff.mpr hmem')]

/-- The order in which `retain` visits the entries does not matter: each connection's outcome comes from its
own entry and socket, and the entry goes with its socket exactly when its channel is closed and drained. -/
theorem service_commands_any_order (callers : ChanId → Callers)
    (hsockets : ∀ handle ∈ a.conns, handle ∈ a.sockets)
    (hchans : DistinctChans a) (horder : order.Perm a.conns.keys) (horder' : order'.Perm a.conns.keys) :
    ∃ b b', a.serviceCommands callers order = some b ∧ a.serviceCommands callers order' = some b' ∧
      (∀ handle, b.conns.lookup handle = b'.conns.lookup handle) ∧
      (∀ handle, b.sockets.lookup handle = b'.sockets.lookup handle) ∧ b.answers = b'.answers ∧
      Serviced callers order a b ∧
      ∀ handle conn, a.conns.lookup handle = some conn →
        (b.conns.lookup handle = none ↔ conn.cmdRx.closed = true) ∧
        (b.sockets.lookup handle = none ↔ conn.cmdRx.closed = true) ∧
        ∀ conn', b.conns.lookup handle = some conn' → conn'.cmdRx.queue = [] := by
  have hentries {order : List SocketHandle} (hperm : order.Perm a.conns.keys) :
      ∀ handle ∈ order, handle ∈ a.conns ∧ handle ∈ a.sockets := by
    intro handle hmem
    have hconn : handle ∈ a.conns := AList.mem_keys.mpr (hperm.mem_iff.mp hmem)
    exact ⟨hconn, hsockets handle hconn⟩
  have hvisit {order : List SocketHandle} (hperm : order.Perm a.conns.keys) :
      ∃ b, a.serviceCommands callers order = some b ∧ Serviced callers order a b := by
    obtain ⟨b, hfold, hserviced⟩ :=
      serviced_foldlM (hperm.nodup_iff.mpr a.conns.keys_nodup) (hentries hperm) hchans
    exact ⟨b, serviceCommands_eq_some_iff.mpr ⟨hperm, hfold⟩, hserviced⟩
  obtain ⟨b, hb, hserviced⟩ := hvisit horder
  obtain ⟨b', hb', hserviced'⟩ := hvisit horder'
  obtain ⟨hconns, hslots, hanswers⟩ := hserviced.unique (horder.trans horder'.symm) (hentries horder) hserviced'
  refine ⟨b, b', hb, hb', hconns, hslots, hanswers, hserviced, ?_⟩
  intro handle conn hconn
  have hmem : handle ∈ order := horder.mem_iff.mpr (AList.mem_keys.mp (Table.mem_of_lookup hconn))
  obtain ⟨slot, hslot⟩ := Table.mem_iff.mp (hsockets handle (Table.mem_of_lookup hconn))
  have hturn := hserviced.turns handle hmem conn slot hconn hslot
  have hdropped := outcome_dropped_iff (callers conn.cmdRx.chan) conn slot (a.answers conn.cmdRx.chan)
  rw [← hturn] at hdropped
  refine ⟨hdropped.1, hdropped.2, fun conn' hconn' => ?_⟩
  exact outcome_drained ((congrArg Outcome.conn hturn).symm.trans hconn')

/-- One of two connections lost its VConn with a read parked; both orders drop it and answer the read. -/
theorem service_commands_any_order_one_dropped :
    let slot (born : Nat) : Slot BufferedSocket := ⟨born, ⟨.established, none, none, [], false, [], 8⟩, []⟩
    let a : NetstackActor BufferedSocket :=
      { empty 1 with
        sockets := (AList.insert 1 (slot 1) ∅).insert 0 (slot 0)
        conns := (AList.insert 1 ⟨⟨1, [.write [7] 0], false⟩, none, none⟩ ∅).insert 0
          ⟨⟨0, [], true⟩, some ⟨4, 0⟩, none⟩ }
    let callers : ChanId → Callers := fun _ => ⟨fun _ => false, fun _ => false⟩
    ∃ b b', a.serviceCommands callers [0, 1] = some b ∧ a.serviceCommands callers [1, 0] = some b' ∧
      b.conns.lookup 0 = none ∧ b'.conns.lookup 0 = none ∧ b.answers = b'.answers ∧
      (b.answers 0).read.map Prod.fst = [0] := by
  intro slot a callers
  have hsockets : ∀ handle ∈ a.conns, handle ∈ a.sockets := by
    intro handle hmem
    simpa [a, AList.insert_empty, AList.mem_keys] using hmem
  have hchan (handle : SocketHandle) : a.chan handle = if handle = 0 then some 0 else
      if handle = 1 then some 1 else none := by
    simp only [a, chan, Table.lookup_insert_eq]
    split_ifs <;> rfl
  have hchans : DistinctChans a := by
    intro handle handle' chan h h'
    rw [hchan] at h h'
    split_ifs at h h' <;> simp_all
  have hresult : (a.serviceCommands callers [0, 1]).any (fun b =>
      decide ((b.answers 0).read.map Prod.fst = [0])) = true := by decide +kernel
  have horder : List.Perm [0, 1] a.conns.keys := by decide
  have horder' : List.Perm [1, 0] a.conns.keys := by decide
  obtain ⟨b, b', hb, hb', hconns, _, hanswers, _, hdropped⟩ :=
    service_commands_any_order callers hsockets hchans horder horder'
  rw [hb, Option.any_some] at hresult
  have hnone : b.conns.lookup 0 = none := (hdropped 0 _ rfl).1.mpr rfl
  exact ⟨b, b', hb, hb', hnone, (hconns 0).symm.trans hnone, hanswers, of_decide_eq_true hresult⟩

end NetstackActor

end SmoltcpSocks
