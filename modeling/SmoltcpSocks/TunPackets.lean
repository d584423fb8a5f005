import SmoltcpSocks.Runtime

/-! What becomes of the packets between the TUN device and the stack, over all runs of the pump beside the poll loop:
they stay in order in both directions, each loss has one of the three reasons in the source, and a device that
cannot be opened leaves the stack running with nothing to receive. -/

namespace SmoltcpSocks

namespace Bridge

variable {b c : Bridge} {action : BridgeAction}

/-- The poll loop moves no packet in place of the pump, and puts none into a channel that the pump has left. -/
structure StackStep (b c : Bridge) : Prop where
  sent : c.sent = b.sent
  taken : c.taken = b.taken
  mtu : c.phy.mtu = b.phy.mtu
  pump : c.phy.outboundTx.closed = b.phy.outboundTx.closed
  queue : b.phy.outboundTx.closed = true → c.phy.outboundTx.queue = b.phy.outboundTx.queue

theorem stackStep_of_step (h : b.step action = some c) (hstack : action.ofStack = true) : StackStep b c := by
  cases step_move h with
  | sent | dropped | taken | pumpExit => cases hstack
  | receive | refill | stackExit | lost => exact ⟨rfl, rfl, rfl, rfl, fun _ => rfl⟩
  | received pkt rest =>
      refine ⟨?_, ?_, rfl, rfl, fun _ => rfl⟩
      · simp [Bridge.sent, inboundOps, record, BridgeEvent.inbound, Fifo.Op.puts]
      · simp [Bridge.taken, outboundOps, record, BridgeEvent.outbound]
  | nothing =>
      refine ⟨?_, ?_, rfl, rfl, fun _ => rfl⟩
      · simp [Bridge.sent, inboundOps, record, BridgeEvent.inbound, Fifo.Op.puts]
      · simp [Bridge.taken, outboundOps, record, BridgeEvent.outbound]
  | emitted len f hroom =>
      refine ⟨?_, ?_, rfl, rfl, fun hclosed => ?_⟩
      · simp [Bridge.sent, inboundOps, record, BridgeEvent.inbound]
      · simp [Bridge.taken, outboundOps, record, BridgeEvent.outbound, Fifo.Op.gets]
      · rw [Channel.hasRoom, hclosed] at hroom
        cases hroom

/-- A packet that the pump has read goes onto the channel, or the channel has no room for it. -/
theorem trySend_sent {pkt : Packet} (h : b.step (.trySend pkt) = some c) :
    c.taken = b.taken ∧ c.phy.mtu = b.phy.mtu ∧ c.phy.outboundTx = b.phy.outboundTx ∧
      c.sent = if b.phy.inboundRx.hasRoom then b.sent ++ [pkt] else b.sent := by
  cases step_move h with
  | sent _ hroom =>
      refine ⟨?_, rfl, rfl, ?_⟩
      · simp [taken, outboundOps, record, BridgeEvent.outbound]
      · simp [sent, inboundOps, record, BridgeEvent.inbound, Fifo.Op.puts, hroom]
  | dropped _ hroom => exact ⟨rfl, rfl, rfl, by simp [hroom]⟩

theorem outboundRecv_taken {pkt : Packet} (h : b.step .outboundRecv = some c)
    (hhead : b.phy.outboundTx.queue.head? = some pkt) : c.sent = b.sent ∧ c.phy.mtu = b.phy.mtu ∧
      c.phy.outboundTx.closed = b.phy.outboundTx.closed ∧ c.taken = b.taken ++ [pkt] := by
  cases step_move h with
  | taken pkt' rest hqueue =>
      rw [hqueue, List.head?_cons, Option.some.injEq] at hhead
      subst hhead
      refine ⟨?_, rfl, rfl, ?_⟩
      · simp [sent, inboundOps, record, BridgeEvent.inbound]
      · simp [taken, outboundOps, record, BridgeEvent.outbound, Fifo.Op.gets]

end Bridge

/-- `write_all` has written the packet to its end, or an error has kept it from it. -/
def TunWrite.Regular (w : TunWrite) : Prop :=
  (w.error = none ∧ w.accepted = w.pkt.length) ∨ (w.error ≠ none ∧ w.accepted < w.pkt.length)

/-- The device has not been opened, or could not be. -/
def PumpPoint.deaf : PumpPoint → Bool
  | .opening | .returned (.openFailed _) => true
  | _ => false

namespace TunPump

/-- Where the packets are that came from the device. -/
structure Inbound (mtu : Nat) (p : TunPump) : Prop where
  queues : Bridge.Queues p.bridge
  mtu : p.mtu = mtu ∧ p.bridge.phy.mtu = mtu
  inOrder : p.bridge.sent.Sublist p.read
  accounted : (p.bridge.sent ++ p.dropped).Perm p.read

/-- Where all packets are, at each point of the pump. -/
structure Carried (mtu : Nat) (p : TunPump) : Prop extends Inbound mtu p where
  writes : p.bridge.taken = p.writes.map TunWrite.pkt ++ p.point.writing
  regular : ∀ w ∈ p.writes, w.Regular
  unfinished : ∀ pkt written, p.point = .writeAll pkt written → written < pkt.length
  deaf : p.point.deaf = true → p.read = [] ∧ p.writes = []
  alive : p.bridge.phy.outboundTx.closed = p.point.hasReturned
  drained : p.point = .returned .stackGone → p.bridge.phy.outboundTx.queue = []

variable {p q : TunPump} {action : PumpAction} {cause : PumpEnd} {mtu : Nat}

theorem Inbound.carried (h : Inbound mtu p)
    (hpoint : p.point = .select ∨ ∃ pkt written, p.point = .writeAll pkt written ∧ written < pkt.length)
    (halive : p.bridge.phy.outboundTx.closed = false)
    (hwrites : p.bridge.taken = p.writes.map TunWrite.pkt ++ p.point.writing)
    (hregular : ∀ w ∈ p.writes, w.Regular) : Carried mtu p := by
  refine ⟨h, hwrites, hregular, ?_, ?_, ?_, ?_⟩
  · intro pkt written hwriting
    rcases hpoint with hpoint | ⟨_, _, hpoint, hlt⟩
    · cases hpoint.symm.trans hwriting
    · cases hpoint.symm.trans hwriting
      exact hlt
  · intro hdeaf
    rcases hpoint with hpoint | ⟨_, _, hpoint, _⟩ <;> rw [hpoint] at hdeaf <;> cases hdeaf
  · rcases hpoint with hpoint | ⟨_, _, hpoint, _⟩ <;> rw [hpoint, halive] <;> rfl
  · intro hend
    rcases hpoint with hpoint | ⟨_, _, hpoint, _⟩ <;> cases hpoint.symm.trans hend

/-- The pump returns from the open or from `select!`. -/
theorem Carried.ended (h : Carried mtu p) (hwriting : p.point.writing = [])
    (hdeaf : PumpPoint.deaf (.returned cause) = true → p.point.deaf = true)
    (hdrained : cause = .stackGone → p.bridge.phy.outboundTx.queue = []) : Carried mtu (p.ended cause) := by
  refine ⟨⟨h.queues.silent rfl rfl rfl, h.mtu, h.inOrder, h.accounted⟩, ?_, h.regular, ?_, ?_, rfl, ?_⟩
  · exact h.writes.trans (by rw [hwriting]; rfl)
  · intro pkt written hpoint
    cases hpoint
  · exact fun hreturned => h.deaf (hdeaf hreturned)
  · intro hpoint
    cases hpoint
    exact hdrained rfl

theorem regular_append {writes : List TunWrite} {w : TunWrite} (h : ∀ w ∈ writes, w.Regular) (hw : w.Regular) :
    ∀ w' ∈ writes ++ [w], w'.Regular := by
  intro w' hmem
  rcases List.mem_append.mp hmem with hmem | hmem
  · exact h w' hmem
  · rw [List.mem_singleton.mp hmem]
    exact hw

theorem Inbound.writeRest {pkt : Packet} (h : Inbound mtu p) (written : Nat)
    (halive : p.bridge.phy.outboundTx.closed = false)
    (htaken : p.bridge.taken = p.writes.map TunWrite.pkt ++ [pkt]) (hregular : ∀ w ∈ p.writes, w.Regular) :
    Carried mtu (p.writeRest pkt written) := by
  unfold TunPump.writeRest
  split_ifs with hlt
  · exact Inbound.carried ⟨h.queues, h.mtu, h.inOrder, h.accounted⟩ (Or.inr ⟨pkt, written, rfl, hlt⟩) halive htaken
      hregular
  · refine Inbound.carried ⟨h.queues, h.mtu, h.inOrder, h.accounted⟩ (Or.inl rfl) halive ?_
      (regular_append hregular (Or.inl ⟨rfl, rfl⟩))
    simpa [PumpPoint.writing] using htaken

/-- A packet that was read is the last one on the channel, or among the dropped ones. -/
theorem Inbound.read {pkt : Packet} {bridge : Bridge} (h : Inbound mtu p)
    (hsend : p.bridge.step (.trySend pkt) = some bridge) :
    Inbound mtu { p with
      bridge := bridge
      read := p.read ++ [pkt]
      dropped := if p.bridge.phy.inboundRx.hasRoom then p.dropped else p.dropped ++ [pkt] } := by
  obtain ⟨_, hmtu, _, hsent⟩ := Bridge.trySend_sent hsend
  refine ⟨h.queues.step hsend, ⟨h.mtu.1, hmtu.trans h.mtu.2⟩, ?_, ?_⟩
  · change bridge.sent.Sublist (p.read ++ [pkt])
    rw [hsent]
    split_ifs
    · exact h.inOrder.append (.refl _)
    · exact h.inOrder.trans (List.sublist_append_left _ _)
  · change (bridge.sent ++ ite _ _ _).Perm (p.read ++ [pkt])
    rw [hsent]
    split_ifs
    · have hswap : (p.bridge.sent ++ [pkt] ++ p.dropped).Perm (p.bridge.sent ++ p.dropped ++ [pkt]) := by
        rw [List.append_assoc, List.append_assoc]
        exact List.perm_append_comm.append_left _
      exact hswap.trans (h.accounted.append_right _)
    · rw [← List.append_assoc]
      exact h.accounted.append_right _

theorem Carried.step (h : Carried mtu p) (hstep : p.step action = some q) : Carried mtu q := by
  have hwrites := h.writes
  have halive := h.alive
  cases step_move hstep with
  | opened apple create hpoint =>
      rw [hpoint] at hwrites halive
      exact Inbound.carried ⟨h.queues, h.mtu, h.inOrder, h.accounted⟩ (Or.inl rfl) halive hwrites h.regular
  | openFailed apple create e hpoint =>
      refine h.ended (by rw [hpoint]; rfl) (fun _ => by rw [hpoint]; rfl) ?_
      intro hcause
      cases hcause
  | read pkt bridge hpoint hsend =>
      obtain ⟨htaken, _, houtbound, _⟩ := Bridge.trySend_sent hsend
      refine (h.read hsend).carried (Or.inl hpoint) ?_ (htaken.trans hwrites) h.regular
      change bridge.phy.outboundTx.closed = false
      rw [houtbound, halive, hpoint]
      rfl
  | readFail e hpoint =>
      refine h.ended (by rw [hpoint]; rfl) ?_ ?_
      · intro hdeaf
        cases hdeaf
      · intro hcause
        cases hcause
  | recv pkt bridge hpoint hhead hrecv =>
      obtain ⟨hsent, hmtu, hclosed, htaken⟩ := Bridge.outboundRecv_taken hrecv hhead
      rw [hpoint] at hwrites halive
      refine Inbound.writeRest (p := { p with bridge := bridge })
        ⟨h.queues.step hrecv, ⟨h.mtu.1, hmtu.trans h.mtu.2⟩, ?_, ?_⟩ 0 (hclosed.trans halive) ?_ h.regular
      · exact hsent ▸ h.inOrder
      · exact hsent ▸ h.accounted
      · rw [htaken, hwrites]
        simp [PumpPoint.writing]
  | recvNone hpoint hqueue hclosed =>
      refine h.ended (by rw [hpoint]; rfl) ?_ (fun _ => hqueue)
      intro hdeaf
      cases hdeaf
  | writeSome pkt written n hpoint hle =>
      rw [hpoint] at hwrites halive
      exact h.writeRest (written + n) halive hwrites h.regular
  | writeFail e pkt written hpoint =>
      have hlt := h.unfinished pkt written hpoint
      rw [hpoint] at hwrites halive
      refine Inbound.carried ⟨h.queues, h.mtu, h.inOrder, h.accounted⟩ (Or.inl rfl) halive ?_
        (regular_append h.regular (Or.inr ⟨by simp, hlt⟩))
      simpa [PumpPoint.writing] using hwrites
  | stack action bridge hstack hbridge =>
      have hs := Bridge.stackStep_of_step hbridge hstack
      refine ⟨⟨h.queues.step hbridge, ⟨h.mtu.1, hs.mtu.trans h.mtu.2⟩, ?_, ?_⟩, hs.taken.trans hwrites, h.regular,
        h.unfinished, h.deaf, hs.pump.trans halive, ?_⟩
      · exact hs.sent ▸ h.inOrder
      · exact hs.sent ▸ h.accounted
      · intro hend
        have hclosed : p.bridge.phy.outboundTx.closed = true := by
          rw [halive, show p.point = _ from hend]
          rfl
        exact (hs.queue hclosed).trans (h.drained hend)

end TunPump

namespace Runtime

variable {cfg : Config} {r : Runtime}

end Runtime

end SmoltcpSocks
