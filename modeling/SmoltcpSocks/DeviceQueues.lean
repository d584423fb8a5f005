import SmoltcpSocks.Device

/-! What the bridge is for: each direction is one first-in first-out queue, the inbound one in two
stages. The channels bound the first stage only, so the inbound queue as a whole has no bound. -/

namespace SmoltcpSocks

/-- An event of the inbound direction as an operation on its queue. -/
def BridgeEvent.inbound : BridgeEvent → Option (Fifo.Op Packet)
  | .sent pkt => some (.put pkt)
  | .received (some token) => some (.get (token.consume id))
  | .received none => some .miss
  | _ => none

def BridgeEvent.outbound : BridgeEvent → Option (Fifo.Op Packet)
  | .emitted _ pkt => some (.put pkt)
  | .taken pkt => some (.get pkt)
  | _ => none

namespace Bridge

def inboundOps (b : Bridge) : List (Fifo.Op Packet) := b.history.filterMap BridgeEvent.inbound

def outboundOps (b : Bridge) : List (Fifo.Op Packet) := b.history.filterMap BridgeEvent.outbound

def sent (b : Bridge) : List Packet := b.inboundOps.flatMap Fifo.Op.puts

def received (b : Bridge) : List Packet := b.inboundOps.flatMap Fifo.Op.gets

def emitted (b : Bridge) : List Packet := b.outboundOps.flatMap Fifo.Op.puts

def taken (b : Bridge) : List Packet := b.outboundOps.flatMap Fifo.Op.gets

/-- The inbound packets between the pump and smoltcp, oldest first. -/
def waiting (b : Bridge) : List Packet := b.phy.inboundBuf ++ b.phy.inboundRx.queue

/-- The bridge is a pair of queues: its events can happen to them, and leave them with what it holds. -/
structure Queues (b : Bridge) : Prop where
  inbound : Fifo.run [] b.inboundOps = some b.waiting
  outbound : Fifo.run [] b.outboundOps = some b.phy.outboundTx.queue
  length : ∀ len pkt, .emitted len pkt ∈ b.history → pkt.length = len

variable {b c : Bridge} {phy : Phy} {event : BridgeEvent} {action : BridgeAction}

theorem queues_new (mtu : Nat) : Queues (new mtu) := ⟨rfl, rfl, nofun⟩

/-- A step without an event rearranges what is held. -/
theorem Queues.silent (h : Queues b) (hhistory : c.history = b.history) (hwaiting : c.waiting = b.waiting)
    (hqueue : c.phy.outboundTx.queue = b.phy.outboundTx.queue) : Queues c := by
  refine ⟨?_, ?_, by rw [hhistory]; exact h.length⟩
  · rw [inboundOps, hhistory, hwaiting]
    exact h.inbound
  · rw [outboundOps, hhistory, hqueue]
    exact h.outbound

theorem Queues.inboundEvent {op : Fifo.Op Packet} (h : Queues b) (hhistory : c.history = b.history ++ [event])
    (hop : event.inbound = some op) (hnone : event.outbound = none)
    (hstep : Fifo.step b.waiting op = some c.waiting)
    (hqueue : c.phy.outboundTx.queue = b.phy.outboundTx.queue) : Queues c := by
  refine ⟨?_, ?_, ?_⟩
  · have hops : c.inboundOps = b.inboundOps ++ [op] := by simp [inboundOps, hhistory, hop]
    rw [hops, Fifo.run_snoc h.inbound, hstep]
  · have hops : c.outboundOps = b.outboundOps := by simp [outboundOps, hhistory, hnone]
    rw [hops, h.outbound, hqueue]
  · intro len pkt hmem
    rw [hhistory, List.mem_append, List.mem_singleton] at hmem
    rcases hmem with hmem | rfl
    · exact h.length len pkt hmem
    · cases hnone

theorem Queues.outboundEvent {op : Fifo.Op Packet} (h : Queues b) (hhistory : c.history = b.history ++ [event])
    (hnone : event.inbound = none) (hop : event.outbound = some op)
    (hstep : Fifo.step b.phy.outboundTx.queue op = some c.phy.outboundTx.queue)
    (hwaiting : c.waiting = b.waiting)
    (hlength : ∀ len pkt, event = .emitted len pkt → pkt.length = len) : Queues c := by
  refine ⟨?_, ?_, ?_⟩
  · have hops : c.inboundOps = b.inboundOps := by simp [inboundOps, hhistory, hnone]
    rw [hops, h.inbound, hwaiting]
  · have hops : c.outboundOps = b.outboundOps ++ [op] := by simp [outboundOps, hhistory, hop]
    rw [hops, Fifo.run_snoc h.outbound, hstep]
  · intro len pkt hmem
    rw [hhistory, List.mem_append, List.mem_singleton] at hmem
    rcases hmem with hmem | heq
    · exact h.length len pkt hmem
    · exact hlength len pkt heq.symm

/-- Every step is an operation on one of the queues, or moves a packet to the second stage of its own. -/
theorem Queues.step (h : Queues b) (hstep : b.step action = some c) : Queues c := by
  cases step_move hstep with
  | sent pkt => exact h.inboundEvent rfl rfl rfl (by simp [Fifo.step, waiting, record]) rfl
  | dropped | lost => exact h
  | receive | pumpExit | stackExit => exact h.silent rfl rfl rfl
  | refill pkt rest _ hqueue => exact h.silent rfl (by simp [waiting, hqueue]) rfl
  | received pkt rest _ hqueue hbuf =>
      refine h.inboundEvent rfl rfl rfl ?_ rfl
      simp [Fifo.step, waiting, record, hqueue, hbuf, RxToken.consume]
  | nothing _ hqueue hbuf =>
      exact h.inboundEvent rfl rfl rfl (by simp [Fifo.step, waiting, record, hqueue, hbuf]) rfl
  | emitted len f =>
      refine h.outboundEvent rfl rfl rfl (by simp [Fifo.step, record]) rfl ?_
      intro len' pkt heq
      cases heq
      exact Vector.length_toList
  | taken pkt rest hqueue =>
      refine h.outboundEvent rfl rfl rfl (by simp [Fifo.step, record, hqueue]) rfl ?_
      intro len' pkt' heq
      cases heq

/-- In every run the packets handed to smoltcp, followed by what waits in the buffer and then on the
channel, are those the pump got onto the channel; `receive` gives nothing only when nothing waits; and
the packets the pump took, followed by what waits for it, are those smoltcp got onto the channel, each
of the length it asked for. -/
theorem bridge_queues {mtu : Nat} {trace : List BridgeAction}
    (hrun : Transition.Run Bridge.step (fun _ _ => True) (new mtu) trace b) :
    b.received ++ b.phy.inboundBuf ++ b.phy.inboundRx.queue = b.sent ∧
      (∀ c, b.step .receiveReturn = some c → c.history = b.history ++ [.received none] →
        b.phy.inboundBuf = [] ∧ b.phy.inboundRx.queue = []) ∧
      b.taken ++ b.phy.outboundTx.queue = b.emitted ∧
      ∀ len pkt, .emitted len pkt ∈ b.history → pkt.length = len := by
  have hqueues : Queues b := hrun.invariant (fun _ _ _ h _ hstep => h.step hstep) (queues_new mtu)
  refine ⟨?_, ?_, Fifo.conserved hqueues.outbound, hqueues.length⟩
  · rw [List.append_assoc]
    exact Fifo.conserved hqueues.inbound
  · intro c hstep hhistory
    have hmiss := (hqueues.step hstep).inbound
    have hops : c.inboundOps = b.inboundOps ++ [.miss] := by
      simp [inboundOps, hhistory, BridgeEvent.inbound]
    rw [hops, Fifo.run_snoc hqueues.inbound] at hmiss
    rcases hwaiting : b.waiting with _ | ⟨pkt, rest⟩
    · exact List.append_eq_nil_iff.mp hwaiting
    · rw [hwaiting] at hmiss
      cases hmiss

/-- Two packets go in, the first one is handed over, and an answer of one byte goes out. -/
theorem bridge_queues_both_ways : ∃ trace b,
    Transition.Run Bridge.step (fun _ _ => True) (new 1500) trace b ∧ b.received = [[1]] ∧
      b.phy.inboundBuf = [[2]] ∧ b.taken = [[7]] ∧
      b.received ++ b.phy.inboundBuf ++ b.phy.inboundRx.queue = b.sent ∧
      b.taken ++ b.phy.outboundTx.queue = b.emitted := by
  let trace : List BridgeAction := [.trySend [1], .receive, .refill, .trySend [2], .refill, .receiveReturn,
    .consume 1 (fun _ => ((), #v[7])), .outboundRecv]
  have hexec : (Transition.execute Bridge.step (fun _ _ => True) (new 1500) trace).any
      (fun b => decide (b.received = [[1]] ∧ b.phy.inboundBuf = [[2]] ∧ b.taken = [[7]])) = true := by
    decide +kernel
  obtain ⟨b, hrun, hb⟩ := Transition.Run.exists_of_execute hexec
  have hb := of_decide_eq_true hb
  obtain ⟨hinbound, _, houtbound, _⟩ := bridge_queues hrun
  exact ⟨trace, b, hrun, hb.1, hb.2.1, hb.2.2, hinbound, houtbound⟩

/-- The pump sends while inbound packets are left in the buffer only if the two stages together are not
full, or smoltcp is gone. -/
def SparesBuffer (b : Bridge) : BridgeAction → Prop
  | .trySend _ => b.phy.inboundBuf = [] ∨ b.waiting.length < QUEUE_DEPTH ∨ b.phy.inboundRx.closed = true
  | _ => True

instance (b : Bridge) : (action : BridgeAction) → Decidable (b.SparesBuffer action)
  | .trySend _ => inferInstanceAs (Decidable (_ ∨ _ ∨ _))
  | .receive | .refill | .receiveReturn | .consume _ _ | .outboundRecv | .pumpExit | .stackExit =>
      inferInstanceAs (Decidable True)

/-- The inbound packets are within the bound, and so is the channel by itself. -/
structure Bounded (b : Bridge) : Prop where
  capacity : b.phy.inboundRx.capacity = QUEUE_DEPTH
  channel : b.phy.inboundRx.queue.length ≤ QUEUE_DEPTH
  waiting : b.waiting.length ≤ QUEUE_DEPTH

theorem bounded_new (mtu : Nat) : Bounded (new mtu) := ⟨rfl, Nat.zero_le _, Nat.zero_le _⟩

theorem hasRoom_iff (h : Bounded b) : b.phy.inboundRx.hasRoom = true ↔
    b.phy.inboundRx.closed = false ∧ b.phy.inboundRx.queue.length < QUEUE_DEPTH := by
  simp [Channel.hasRoom, h.capacity]

/-- The next step keeps the bound exactly when it spares the buffer. -/
theorem Bounded.step_iff (h : Bounded b) (hstep : b.step action = some c) :
    c.waiting.length ≤ QUEUE_DEPTH ↔ SparesBuffer b action := by
  have hlength : b.waiting.length = b.phy.inboundBuf.length + b.phy.inboundRx.queue.length :=
    List.length_append
  have hwaiting := h.waiting
  cases step_move hstep with
  | sent pkt hroom =>
      obtain ⟨hopen, hlt⟩ := (hasRoom_iff h).mp hroom
      have hnil : b.phy.inboundBuf = [] ↔ b.phy.inboundBuf.length = 0 := List.length_eq_zero_iff.symm
      simp only [Bridge.waiting, record, List.length_append, List.length_singleton, SparesBuffer, hnil, hopen,
        Bool.false_eq_true, or_false]
      omega
  | dropped pkt hroom =>
      refine iff_of_true hwaiting ?_
      rcases hclosed : b.phy.inboundRx.closed with _ | _
      · -- the channel itself is full, so that nothing is left for the buffer
        have hfull : ¬ b.phy.inboundRx.queue.length < QUEUE_DEPTH := fun hlt => by
          simp [(hasRoom_iff h).mpr ⟨hclosed, hlt⟩] at hroom
        exact Or.inl (List.length_eq_zero_iff.mp (by omega))
      · exact Or.inr (Or.inr hclosed)
  | lost | receive | emitted | taken | pumpExit | stackExit => exact iff_of_true hwaiting trivial
  | refill pkt rest _ hqueue =>
      refine iff_of_true ?_ trivial
      simpa [Bridge.waiting, hqueue] using hwaiting
  | received pkt rest _ hqueue hbuf =>
      refine iff_of_true ?_ trivial
      simp only [Bridge.waiting, hqueue, hbuf, record, List.length_append, List.length_cons] at hwaiting ⊢
      omega
  | nothing => exact iff_of_true hwaiting trivial

theorem Bounded.step (h : Bounded b) (hspares : SparesBuffer b action) (hstep : b.step action = some c) :
    Bounded c := by
  have hwaiting := (h.step_iff hstep).mpr hspares
  cases step_move hstep with
  | sent pkt hroom =>
      obtain ⟨_, hlt⟩ := (hasRoom_iff h).mp hroom
      exact ⟨h.capacity, by simpa [record, Nat.succ_le_iff] using hlt, hwaiting⟩
  | dropped | lost | receive | received | nothing | emitted | taken | pumpExit | stackExit =>
      exact ⟨h.capacity, h.channel, hwaiting⟩
  | refill pkt rest _ hqueue =>
      have hchannel := h.channel
      rw [hqueue, List.length_cons] at hchannel
      exact ⟨h.capacity, Nat.le_of_succ_le hchannel, hwaiting⟩

/-- In every run that spares the buffer the inbound packets stay within `QUEUE_DEPTH`, and its next step
keeps the bound exactly when it spares the buffer too. -/
theorem waiting_bounded_iff_sparesBuffer {mtu : Nat} {trace : List BridgeAction}
    (hrun : Transition.Run Bridge.step SparesBuffer (new mtu) trace b) :
    b.waiting.length ≤ QUEUE_DEPTH ∧ ∀ action c, b.step action = some c →
      (c.waiting.length ≤ QUEUE_DEPTH ↔ SparesBuffer b action) := by
  have hbounded : Bounded b := hrun.invariant (fun _ _ _ h hspares => h.step hspares) (bounded_new mtu)
  exact ⟨hbounded.waiting, fun _ _ hstep => hbounded.step_iff hstep⟩

/-- Two packets are on their way, and the second one comes when the first is in the buffer. -/
theorem waiting_bounded_two_packets : ∃ trace b,
    Transition.Run Bridge.step SparesBuffer (new 1500) trace b ∧ b.phy.inboundBuf = [[1]] ∧
      b.phy.inboundRx.queue = [[2]] ∧ b.waiting.length ≤ QUEUE_DEPTH := by
  let trace : List BridgeAction := [.trySend [1], .receive, .refill, .trySend [2]]
  have hexec : (Transition.execute Bridge.step SparesBuffer (new 1500) trace).any
      (fun b => decide (b.phy.inboundBuf = [[1]] ∧ b.phy.inboundRx.queue = [[2]])) = true := by decide +kernel
  obtain ⟨b, hrun, hb⟩ := Transition.Run.exists_of_execute hexec
  have hb := of_decide_eq_true hb
  exact ⟨trace, b, hrun, hb.1, hb.2, (waiting_bounded_iff_sparesBuffer hrun).1⟩

/-- The pump sends a packet again and again while the channel has room. -/
theorem foldlM_trySend {n : Nat} {pkt : Packet} (hpump : b.phy.outboundTx.closed = false)
    (hstack : b.phy.inboundRx.closed = false)
    (hroom : b.phy.inboundRx.queue.length + n ≤ b.phy.inboundRx.capacity) :
    (List.replicate n (.trySend pkt)).foldlM Bridge.step b = some
      { b with
        phy := { b.phy with inboundRx := { b.phy.inboundRx with
          queue := b.phy.inboundRx.queue ++ List.replicate n pkt } }
        history := b.history ++ List.replicate n (.sent pkt) } := by
  induction n generalizing b with
  | zero => simp
  | succ n ih =>
      have hsend : b.step (.trySend pkt) = some (b.record { b.phy with
          inboundRx := { b.phy.inboundRx with queue := b.phy.inboundRx.queue ++ [pkt] } } (.sent pkt)) := by
        have hlt : b.phy.inboundRx.queue.length < b.phy.inboundRx.capacity := by omega
        simp [Bridge.step, trySend, hpump, Channel.trySend, Channel.hasRoom, hstack, hlt]
      rw [List.replicate_succ, List.foldlM_cons, hsend, Option.bind_eq_bind, Option.bind_some, ih]
      · simp [record, List.replicate_succ]
      · exact hpump
      · exact hstack
      · simp only [record, List.length_append, List.length_singleton]
        omega

/-- The loop of `receive` leaves the channel empty and its packets in the buffer. -/
theorem refillLoop_eq (phy : Phy) (queue : List Packet) (hqueue : phy.inboundRx.queue = queue) :
    phy.refillLoop queue.length = { phy with
      inboundRx := { phy.inboundRx with queue := [] }
      inboundBuf := phy.inboundBuf ++ queue } := by
  induction queue generalizing phy with
  | nil =>
      rcases phy with ⟨⟨capacity, queue, closed⟩, buf, tx, mtu⟩
      cases hqueue
      simp [Phy.refillLoop]
  | cons pkt rest ih =>
      simp only [List.length_cons, Phy.refillLoop, Phy.refill, Channel.tryRecv, hqueue]
      rw [ih _ rfl]
      simp

/-- The steps of a call of `receive` with nothing sent meanwhile. -/
def receiveCall (b : Bridge) : List BridgeAction :=
  .receive :: List.replicate b.phy.inboundRx.queue.length .refill ++ [.receiveReturn]

theorem foldlM_refill (queue : List Packet) (hqueue : b.phy.inboundRx.queue = queue)
    (hreceiving : b.receiving = true) :
    (List.replicate queue.length BridgeAction.refill).foldlM Bridge.step b =
      some { b with phy := b.phy.refillLoop queue.length } := by
  induction queue generalizing b with
  | nil => rfl
  | cons pkt rest ih =>
      have hrefill : b.phy.refill = some { b.phy with
          inboundRx := { b.phy.inboundRx with queue := rest }
          inboundBuf := b.phy.inboundBuf ++ [pkt] } := by
        simp [Phy.refill, Channel.tryRecv, hqueue]
      have hstep : b.step .refill = b.phy.refill.map fun phy => { b with phy := phy } := by
        simp [Bridge.step, Bridge.refill, hreceiving]
      have hrest := ih (b := { b with phy := { b.phy with
          inboundRx := { b.phy.inboundRx with queue := rest }
          inboundBuf := b.phy.inboundBuf ++ [pkt] } }) rfl hreceiving
      rw [List.length_cons, List.replicate_succ, List.foldlM_cons, hstep, hrefill]
      simp only [Phy.refillLoop, hrefill]
      exact hrest

/-- A call of `receive` with nothing sent meanwhile is a run of its steps. -/
theorem foldlM_receiveCall (hidle : b.receiving = false) (hstack : b.phy.inboundRx.closed = false) :
    b.receiveCall.foldlM Bridge.step b = some (b.record b.phy.receive.2 (.received b.phy.receive.1)) := by
  have hcall : b.step .receive = some { b with receiving := true } := by
    simp [Bridge.step, Bridge.receive, hidle, hstack]
  have hloop := foldlM_refill (b := { b with receiving := true }) _ rfl rfl
  have hreturn : ({ b with
      phy := b.phy.refillLoop b.phy.inboundRx.queue.length
      receiving := true } : Bridge).step .receiveReturn =
        some (b.record b.phy.receive.2 (.received b.phy.receive.1)) := by
    simp [Bridge.step, receiveReturn, Channel.tryRecv, refillLoop_eq _ _ rfl, Phy.receive, record, hidle]
  rw [receiveCall, List.cons_append, List.foldlM_cons, hcall, Option.bind_eq_bind, Option.bind_some,
    List.foldlM_append, hloop, Option.bind_eq_bind, Option.bind_some, List.foldlM_cons, hreturn]
  rfl

/-- `receive` on a full channel: one packet is taken and the others are left in the buffer. -/
theorem receive_snd {phy : Phy} {pkt : Packet} {rest : List Packet} (hbuf : phy.inboundBuf = [])
    (hqueue : phy.inboundRx.queue = pkt :: rest) : phy.receive.2 = { phy with
      inboundRx := { phy.inboundRx with queue := [] }
      inboundBuf := rest } := by
  rw [Phy.receive, refillLoop_eq phy _ rfl, hbuf, hqueue]
  rfl

/-- A burst fills the channel, one `receive` empties it into the buffer and takes one packet, and the
channel has room for more. -/
theorem not_waiting_bounded_after_burst : ∃ trace b,
    Transition.Run Bridge.step (fun _ _ => True) (new 1500) trace b ∧ QUEUE_DEPTH < b.waiting.length := by
  let pkt : Packet := [69]
  let full : Bridge := ⟨{ Phy.new 1500 with
    inboundRx := ⟨QUEUE_DEPTH, List.replicate QUEUE_DEPTH pkt, false⟩ }, false,
    List.replicate QUEUE_DEPTH (.sent pkt)⟩
  have hburst : (List.replicate QUEUE_DEPTH (.trySend pkt)).foldlM Bridge.step (new 1500) = some full :=
    foldlM_trySend rfl rfl (by simp [new, Phy.new, Channel.new])
  have hreceive := foldlM_receiveCall (b := full) rfl rfl
  rw [receive_snd rfl (List.replicate_succ (n := 1023))] at hreceive
  let drained : Bridge := full.record { full.phy with
    inboundRx := ⟨QUEUE_DEPTH, [], false⟩
    inboundBuf := List.replicate 1023 pkt } (.received full.phy.receive.1)
  have hmore : (List.replicate 2 (.trySend pkt)).foldlM Bridge.step drained = some _ :=
    foldlM_trySend rfl rfl (by decide)
  refine ⟨_, _, ((Transition.Run.of_foldlM hburst).append (.of_foldlM hreceive)).append
    (.of_foldlM hmore), ?_⟩
  simp only [drained, waiting, record, List.nil_append, List.length_append, List.length_replicate]
  decide

end Bridge

end SmoltcpSocks
