import SmoltcpSocks.Fifo
import SmoltcpSocks.Runs

/-! The bridge between the TUN pump and smoltcp: `Phy` of `device.rs` with the two channels it shares
with `tun_pump` of `runtime.rs`. The pump and the poll loop are different tasks, so `receive` is cut at
its reads of the inbound channel. -/

namespace SmoltcpSocks

/-- Maximum number of packets buffered between the async TUN pump and the sync smoltcp poll loop. -/
def QUEUE_DEPTH : Nat := 1024

abbrev Packet := List UInt8

/-- The device smoltcp polls; the pump holds the other end of each channel. -/
structure Phy where
  inboundRx : Channel Packet
  inboundBuf : List Packet
  outboundTx : Channel Packet
  mtu : Nat

structure RxToken where
  buffer : Packet
  deriving DecidableEq

def RxToken.consume {R : Type} (token : RxToken) (f : Packet → R) : R := f token.buffer

namespace Phy

def new (mtu : Nat) : Phy := ⟨.new QUEUE_DEPTH, [], .new QUEUE_DEPTH, mtu⟩

/-- One turn of the loop of `receive`. -/
def refill (phy : Phy) : Option Phy :=
  match phy.inboundRx.tryRecv with
  | some (pkt, rx) => some { phy with inboundRx := rx, inboundBuf := phy.inboundBuf ++ [pkt] }
  | none => none

/-- The rest of `receive`: the oldest packet of the buffer. -/
def popFront (phy : Phy) : Option RxToken × Phy :=
  match phy.inboundBuf with
  | [] => (none, phy)
  | pkt :: rest => (some ⟨pkt⟩, { phy with inboundBuf := rest })

def refillLoop : Nat → Phy → Phy
  | 0, phy => phy
  | n + 1, phy =>
      match phy.refill with
      | some phy => refillLoop n phy
      | none => phy

/-- `Phy::receive`, with nothing sent meanwhile. -/
def receive (phy : Phy) : Option RxToken × Phy := (refillLoop phy.inboundRx.queue.length phy).popFront

/-- What smoltcp writes into a buffer of the length it asked for. -/
def filled {R : Type} (len : Nat) (f : Vector UInt8 len → R × Vector UInt8 len) : R × Packet :=
  let (r, buffer) := f (Vector.replicate len 0)
  (r, buffer.toList)

/-- `TxToken::consume`, on a token that borrows the sending end of the outbound channel; the packet is
dropped when the pump has fallen behind. -/
def consume {R : Type} (phy : Phy) (len : Nat) (f : Vector UInt8 len → R × Vector UInt8 len) : R × Phy :=
  let (r, buffer) := filled len f
  match phy.outboundTx.trySend buffer with
  | some tx => (r, { phy with outboundTx := tx })
  | none => (r, phy)

end Phy

/-- What went into the bridge and what came out of it. -/
inductive BridgeEvent where
  | sent (pkt : Packet)
  | received (token : Option RxToken)
  | emitted (len : Nat) (pkt : Packet)
  | taken (pkt : Packet)

/-- The device, whether smoltcp is inside `receive`, and what happened so far. -/
structure Bridge where
  phy : Phy
  receiving : Bool
  history : List BridgeEvent

/-- What the pump or the poll loop does next. -/
inductive BridgeAction where
  | trySend (pkt : Packet)
  | receive
  | refill
  | receiveReturn
  | consume (len : Nat) (f : Vector UInt8 len → Unit × Vector UInt8 len)
  | outboundRecv
  | pumpExit
  | stackExit

namespace Bridge

def new (mtu : Nat) : Bridge := ⟨.new mtu, false, []⟩

def record (b : Bridge) (phy : Phy) (event : BridgeEvent) : Bridge :=
  { b with phy := phy, history := b.history ++ [event] }

/-- The pump has read a packet from the TUN device; it drops what the channel has no room for. -/
def trySend (b : Bridge) (pkt : Packet) : Option Bridge :=
  if b.phy.outboundTx.closed then none
  else
    match b.phy.inboundRx.trySend pkt with
    | some rx => some (b.record { b.phy with inboundRx := rx } (.sent pkt))
    | none => some b

/-- smoltcp calls `receive`. -/
def receive (b : Bridge) : Option Bridge :=
  if b.receiving || b.phy.inboundRx.closed then none else some { b with receiving := true }

/-- `receive` finds a packet on the channel. -/
def refill (b : Bridge) : Option Bridge :=
  if b.receiving then b.phy.refill.map fun phy => { b with phy := phy } else none

def receiveReturn (b : Bridge) : Option Bridge :=
  if b.receiving && b.phy.inboundRx.tryRecv.isNone then
    let (token, phy) := b.phy.popFront
    some { b.record phy (.received token) with receiving := false }
  else none

/-- smoltcp consumes a transmit token, from `transmit` or from `receive`. -/
def consume (b : Bridge) (len : Nat) (f : Vector UInt8 len → Unit × Vector UInt8 len) : Option Bridge :=
  if b.receiving || b.phy.inboundRx.closed then none
  else
    let phy := (b.phy.consume len f).2
    some (if b.phy.outboundTx.hasRoom then b.record phy (.emitted len (Phy.filled len f).2)
      else { b with phy := phy })

def outboundRecv (b : Bridge) : Option Bridge :=
  if b.phy.outboundTx.closed then none
  else
    match b.phy.outboundTx.tryRecv with
    | some (pkt, rx) => some (b.record { b.phy with outboundTx := rx } (.taken pkt))
    | none => none

def step (b : Bridge) : BridgeAction → Option Bridge
  | .trySend pkt => b.trySend pkt
  | .receive => b.receive
  | .refill => b.refill
  | .receiveReturn => b.receiveReturn
  | .consume len f => b.consume len f
  | .outboundRecv => b.outboundRecv
  | .pumpExit => some { b with phy := { b.phy with outboundTx := b.phy.outboundTx.close } }
  | .stackExit =>
      if b.receiving then none
      else some { b with phy := { b.phy with inboundRx := b.phy.inboundRx.close } }

inductive Move (b : Bridge) : BridgeAction → Bridge → Prop
  | sent (pkt : Packet) : b.phy.inboundRx.hasRoom = true →
      Move b (.trySend pkt) (b.record { b.phy with
        inboundRx := { b.phy.inboundRx with queue := b.phy.inboundRx.queue ++ [pkt] } } (.sent pkt))
  | dropped (pkt : Packet) : b.phy.inboundRx.hasRoom = false → Move b (.trySend pkt) b
  | receive : b.receiving = false → Move b .receive { b with receiving := true }
  | refill (pkt : Packet) (rest : List Packet) : b.receiving = true →
      b.phy.inboundRx.queue = pkt :: rest → Move b .refill { b with
        phy := { b.phy with
          inboundRx := { b.phy.inboundRx with queue := rest }
          inboundBuf := b.phy.inboundBuf ++ [pkt] } }
  | received (pkt : Packet) (rest : List Packet) : b.receiving = true → b.phy.inboundRx.queue = [] →
      b.phy.inboundBuf = pkt :: rest → Move b .receiveReturn
        { b.record { b.phy with inboundBuf := rest } (.received (some ⟨pkt⟩)) with receiving := false }
  | nothing : b.receiving = true → b.phy.inboundRx.queue = [] → b.phy.inboundBuf = [] →
      Move b .receiveReturn { b.record b.phy (.received none) with receiving := false }
  | emitted (len : Nat) (f : Vector UInt8 len → Unit × Vector UInt8 len) :
      b.phy.outboundTx.hasRoom = true → Move b (.consume len f) (b.record { b.phy with
        outboundTx := { b.phy.outboundTx with
          queue := b.phy.outboundTx.queue ++ [(Phy.filled len f).2] } }
        (.emitted len (Phy.filled len f).2))
  | lost (len : Nat) (f : Vector UInt8 len → Unit × Vector UInt8 len) :
      b.phy.outboundTx.hasRoom = false → Move b (.consume len f) b
  | taken (pkt : Packet) (rest : List Packet) : b.phy.outboundTx.queue = pkt :: rest →
      Move b .outboundRecv (b.record { b.phy with
        outboundTx := { b.phy.outboundTx with queue := rest } } (.taken pkt))
  | pumpExit : Move b .pumpExit { b with phy := { b.phy with outboundTx := b.phy.outboundTx.close } }
  | stackExit : Move b .stackExit { b with phy := { b.phy with inboundRx := b.phy.inboundRx.close } }

theorem trySend_move {b c : Bridge} {pkt : Packet} (h : b.trySend pkt = some c) :
    Move b (.trySend pkt) c := by
  unfold trySend at h
  split at h
  · cases h
  rcases hsend : b.phy.inboundRx.trySend pkt with _ | rx <;> rw [hsend] at h <;> cases h
  · exact .dropped pkt (by simpa [Channel.trySend] using hsend)
  · obtain ⟨hroom, rfl⟩ := Channel.trySend_eq_some_iff.mp hsend
    exact .sent pkt hroom

theorem receiveReturn_move {b c : Bridge} (h : b.receiveReturn = some c) : Move b .receiveReturn c := by
  unfold receiveReturn at h
  split at h
  · rename_i hguard
    simp only [Bool.and_eq_true, Option.isNone_iff_eq_none, Channel.tryRecv_eq_none_iff] at hguard
    rcases hbuf : b.phy.inboundBuf with _ | ⟨pkt, rest⟩ <;> simp only [Phy.popFront, hbuf] at h <;> cases h
    · exact .nothing hguard.1 hguard.2 hbuf
    · exact .received pkt rest hguard.1 hguard.2 hbuf
  · cases h

theorem consume_move {b c : Bridge} {len : Nat} {f : Vector UInt8 len → Unit × Vector UInt8 len}
    (h : b.consume len f = some c) : Move b (.consume len f) c := by
  unfold consume at h
  split at h
  · cases h
  rcases hroom : b.phy.outboundTx.hasRoom with _ | _ <;>
    simp only [hroom, Bool.false_eq_true, if_false, if_true, Phy.consume, Channel.trySend] at h <;> cases h
  · exact .lost len f hroom
  · exact .emitted len f hroom

/-- `step` does one of the moves. -/
theorem step_move {b c : Bridge} {action : BridgeAction} (h : b.step action = some c) :
    Move b action c := by
  cases action with
  | trySend pkt => exact trySend_move h
  | receive =>
      simp only [step, receive] at h
      split at h
      · cases h
      · rename_i hguard
        simp only [Bool.or_eq_true, not_or, Bool.not_eq_true] at hguard
        cases h
        exact .receive hguard.1
  | refill =>
      simp only [step, refill] at h
      split at h
      · rename_i hreceiving
        rcases hqueue : b.phy.inboundRx.queue with _ | ⟨pkt, rest⟩ <;>
          simp only [Phy.refill, Channel.tryRecv, hqueue] at h <;> cases h
        exact .refill pkt rest hreceiving hqueue
      · cases h
  | receiveReturn => exact receiveReturn_move h
  | consume len f => exact consume_move h
  | outboundRecv =>
      simp only [step, outboundRecv] at h
      split at h
      · cases h
      rcases hqueue : b.phy.outboundTx.queue with _ | ⟨pkt, rest⟩ <;>
        simp only [Channel.tryRecv, hqueue] at h <;> cases h
      exact .taken pkt rest hqueue
  | pumpExit =>
      cases h
      exact .pumpExit
  | stackExit =>
      simp only [step] at h
      split at h <;> cases h
      exact .stackExit

end Bridge

end SmoltcpSocks
