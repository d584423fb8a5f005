import SmoltcpSocks.DeviceQueues
import SmoltcpSocks.ProxyUrl

/-! `runtime.rs`: `Runtime::start`, and `tun_pump`, the task between the TUN device and the bridge. The pump opens the
device, and then reads packets from it or writes the stack's packets to it, whichever is ready; the poll loop of the
stack runs beside it. -/

namespace SmoltcpSocks

/-- What `start` reads of the configuration. -/
structure Config where
  device : String
  proxy : String
  mtu : UInt16

def resolveMtu (cfg : Config) : Nat := if cfg.mtu = 0 then 1500 else cfg.mtu.toNat

/-- The length of the pump's read buffer. -/
def READ_BUF : Nat := 65535

def stripStart (s pat : String) : Option String := (s.toList.dropPrefix? pat.toList).map String.ofList

def parseU32 (s : String) : Option UInt32 := (Decimal.parseUnsigned UInt32.size s.toList).map UInt32.ofNat

/-- Parse the device spec into an optional TUN name; `apple` is the build's `target_vendor`. -/
def parseTunName (apple : Bool) (spec : String) : Except String (Option String) :=
  let name := ((stripStart spec "tun://").or (stripStart spec "utun://")).getD spec
  if name.isEmpty then .ok none
  else if apple ∧ ((stripStart name "utun").bind parseU32).isNone then
    .error ("macOS requires a utun name like `utun3` (got `" ++ name ++
      "`); pass `utun://` to let the kernel pick")
  else .ok (some name)

/-- What `open_tun` sets of `tun::Configuration`. -/
structure TunConfiguration where
  mtu : UInt16
  tunName : Option String

/-- `open_tun`, with what `tun::create_as_async` comes to. -/
def openTun (apple : Bool) (spec : String) (mtu : Nat) (create : TunConfiguration → Except String Unit) :
    Except String Unit :=
  match parseTunName apple spec with
  | .error e => .error e
  | .ok name =>
      match create ⟨UInt16.ofNat mtu, name⟩ with
      | .error e => .error ("create tun: " ++ e)
      | .ok () => .ok ()

/-- Why the pump returned. -/
inductive PumpEnd where
  | openFailed (e : String)
  | readFailed (e : IoError)
  | stackGone
  deriving DecidableEq

/-- Where `tun_pump` stands: before it opens the device, at `select!`, inside `write_all` with the bytes written. -/
inductive PumpPoint where
  | opening
  | select
  | writeAll (pkt : Packet) (written : Nat)
  | returned (cause : PumpEnd)
  deriving DecidableEq

/-- The packet that is being written to the device. -/
def PumpPoint.writing : PumpPoint → List Packet
  | .writeAll pkt _ => [pkt]
  | _ => []

def PumpPoint.hasReturned : PumpPoint → Bool
  | .returned _ => true
  | _ => false

/-- A packet that `write_all` is through with: how many of its bytes the device took, and the error of the others. -/
structure TunWrite where
  pkt : Packet
  accepted : Nat
  error : Option IoError

/-- The pump and the bridge: what was read from the device, what of it was dropped, and what was written to it. -/
structure TunPump where
  deviceSpec : String
  mtu : Nat
  bridge : Bridge
  point : PumpPoint
  read : List Packet
  dropped : List Packet
  writes : List TunWrite

/-- What the pump or the poll loop does next. -/
inductive PumpAction where
  | openTun (apple : Bool) (create : TunConfiguration → Except String Unit)
  | read (pkt : Packet)
  | readFail (e : IoError)
  | recv
  | recvNone
  | writeSome (n : Nat)
  | writeFail (e : IoError)
  | stack (action : BridgeAction)

/-- The actions of the bridge that the poll loop makes. -/
def BridgeAction.ofStack : BridgeAction → Bool
  | .receive | .refill | .receiveReturn | .consume _ _ | .stackExit => true
  | .trySend _ | .outboundRecv | .pumpExit => false

namespace TunPump

def new (deviceSpec : String) (mtu : Nat) : TunPump := ⟨deviceSpec, mtu, .new mtu, .opening, [], [], []⟩

def finish (p : TunPump) (cause : PumpEnd) : Option TunPump :=
  (p.bridge.step .pumpExit).map fun bridge => { p with bridge := bridge, point := .returned cause }

/-- The device is opened, or the pump gives up. -/
def openDevice (p : TunPump) (result : Except String Unit) : Option TunPump :=
  match p.point, result with
  | .opening, .ok () => some { p with point := .select }
  | .opening, .error e => p.finish (.openFailed e)
  | _, _ => none

/-- `dev.read` returns a packet; one that finds the channel full or closed is dropped. -/
def readPacket (p : TunPump) (pkt : Packet) : Option TunPump :=
  match p.point with
  | .select =>
      if pkt.length ≤ READ_BUF then
        (p.bridge.step (.trySend pkt)).map fun bridge => { p with
          bridge := bridge
          read := p.read ++ [pkt]
          dropped := if p.bridge.phy.inboundRx.hasRoom then p.dropped else p.dropped ++ [pkt] }
      else none
  | _ => none

def readFail (p : TunPump) (e : IoError) : Option TunPump :=
  match p.point with
  | .select => p.finish (.readFailed e)
  | _ => none

/-- `write_all` goes on behind the first `written` bytes, if there are any left. -/
def writeRest (p : TunPump) (pkt : Packet) (written : Nat) : TunPump :=
  if written < pkt.length then { p with point := .writeAll pkt written }
  else { p with point := .select, writes := p.writes ++ [⟨pkt, pkt.length, none⟩] }

/-- `outbound.recv` returns a packet. -/
def recv (p : TunPump) : Option TunPump :=
  match p.point, p.bridge.phy.outboundTx.queue with
  | .select, pkt :: _ =>
      (p.bridge.step .outboundRecv).map fun bridge => writeRest { p with bridge := bridge } pkt 0
  | _, _ => none

/-- `outbound.recv` returns nothing: the channel is empty and the stack, which held its sender, is gone. -/
def recvNone (p : TunPump) : Option TunPump :=
  match p.point with
  | .select =>
      if p.bridge.phy.outboundTx.queue.isEmpty && p.bridge.phy.inboundRx.closed then p.finish .stackGone else none
  | _ => none

/-- One accepted write inside `dev.write_all(&p)`. -/
def writeSome (p : TunPump) (n : Nat) : Option TunPump :=
  match p.point with
  | .writeAll pkt written =>
      if 0 < n ∧ written + n ≤ pkt.length then some (p.writeRest pkt (written + n)) else none
  | _ => none

/-- A write fails, which is logged. -/
def writeFail (p : TunPump) (e : IoError) : Option TunPump :=
  match p.point with
  | .writeAll pkt written => some { p with point := .select, writes := p.writes ++ [⟨pkt, written, some e⟩] }
  | _ => none

def stack (p : TunPump) (action : BridgeAction) : Option TunPump :=
  if action.ofStack then (p.bridge.step action).map fun bridge => { p with bridge := bridge } else none

def step (p : TunPump) : PumpAction → Option TunPump
  | .openTun apple create => p.openDevice (SmoltcpSocks.openTun apple p.deviceSpec p.mtu create)
  | .read pkt => p.readPacket pkt
  | .readFail e => p.readFail e
  | .recv => p.recv
  | .recvNone => p.recvNone
  | .writeSome n => p.writeSome n
  | .writeFail e => p.writeFail e
  | .stack action => p.stack action

end TunPump

/-- The errors of `start` (`anyhow::Error`). -/
inductive StartError where
  | msg (text : String)
  | context (text : String) (source : ProxyUrlError)
  deriving DecidableEq

/-- What `start` has spawned: the pump beside the stack, and the dialer that the dispatcher uses. -/
structure Runtime where
  proxy : Socks5Proxy
  pump : TunPump

def Runtime.start (cfg : Config) : Except StartError Runtime :=
  if cfg.device.isEmpty then .error (.msg "empty device")
  else if cfg.proxy.isEmpty then .error (.msg "empty proxy")
  else
    let mtu := resolveMtu cfg
    match ProxyUrl.parse cfg.proxy with
    | .error e => .error (.context "parse proxy url" e)
    | .ok proxyUrl => .ok ⟨proxyUrl.intoProxy, .new cfg.device mtu⟩

namespace TunPump

variable {p q : TunPump} {action : PumpAction} {cause : PumpEnd}

def ended (p : TunPump) (cause : PumpEnd) : TunPump :=
  { p with
    bridge := { p.bridge with phy := { p.bridge.phy with outboundTx := p.bridge.phy.outboundTx.close } }
    point := .returned cause }

inductive Move (p : TunPump) : PumpAction → TunPump → Prop
  | opened (apple : Bool) (create : TunConfiguration → Except String Unit) : p.point = .opening →
      Move p (.openTun apple create) { p with point := .select }
  | openFailed (apple : Bool) (create : TunConfiguration → Except String Unit) (e : String) : p.point = .opening →
      Move p (.openTun apple create) (p.ended (.openFailed e))
  | read (pkt : Packet) (bridge : Bridge) : p.point = .select → p.bridge.step (.trySend pkt) = some bridge →
      Move p (.read pkt) { p with
        bridge := bridge
        read := p.read ++ [pkt]
        dropped := if p.bridge.phy.inboundRx.hasRoom then p.dropped else p.dropped ++ [pkt] }
  | readFail (e : IoError) : p.point = .select → Move p (.readFail e) (p.ended (.readFailed e))
  | recv (pkt : Packet) (bridge : Bridge) : p.point = .select → p.bridge.phy.outboundTx.queue.head? = some pkt →
      p.bridge.step .outboundRecv = some bridge → Move p .recv (writeRest { p with bridge := bridge } pkt 0)
  | recvNone : p.point = .select → p.bridge.phy.outboundTx.queue = [] → p.bridge.phy.inboundRx.closed = true →
      Move p .recvNone (p.ended .stackGone)
  | writeSome (pkt : Packet) (written n : Nat) : p.point = .writeAll pkt written → written + n ≤ pkt.length →
      Move p (.writeSome n) (p.writeRest pkt (written + n))
  | writeFail (e : IoError) (pkt : Packet) (written : Nat) : p.point = .writeAll pkt written →
      Move p (.writeFail e) { p with point := .select, writes := p.writes ++ [⟨pkt, written, some e⟩] }
  | stack (action : BridgeAction) (bridge : Bridge) : action.ofStack = true → p.bridge.step action = some bridge →
      Move p (.stack action) { p with bridge := bridge }

theorem step_move (h : p.step action = some q) : Move p action q := by
  cases action with
  | openTun apple create =>
      simp only [step, openDevice] at h
      split at h
      · cases h
        exact .opened apple create ‹_›
      · cases h
        exact .openFailed apple create _ ‹_›
      · cases h
  | read pkt =>
      simp only [step, readPacket] at h
      split at h
      · split at h
        · obtain ⟨bridge, hbridge, rfl⟩ := Option.map_eq_some_iff.mp h
          exact .read pkt bridge ‹_› hbridge
        · cases h
      · cases h
  | readFail e =>
      simp only [step, readFail] at h
      split at h <;> cases h
      exact .readFail e ‹_›
  | recv =>
      simp only [step, recv] at h
      split at h
      · rename_i pkt rest hpoint hqueue
        obtain ⟨bridge, hbridge, rfl⟩ := Option.map_eq_some_iff.mp h
        exact .recv pkt bridge hpoint (by rw [hqueue]; rfl) hbridge
      · cases h
  | recvNone =>
      simp only [step, recvNone] at h
      split at h
      · split at h
        · rename_i hguard
          rw [Bool.and_eq_true, List.isEmpty_iff] at hguard
          cases h
          exact .recvNone ‹_› hguard.1 hguard.2
        · cases h
      · cases h
  | writeSome n =>
      simp only [step, writeSome] at h
      split at h
      · split at h
        · rename_i hguard
          cases h
          exact .writeSome _ _ n ‹_› hguard.2
        · cases h
      · cases h
  | writeFail e =>
      simp only [step, writeFail] at h
      split at h <;> cases h
      exact .writeFail e _ _ ‹_›
  | stack action =>
      simp only [step, stack] at h
      split at h
      · obtain ⟨bridge, hbridge, rfl⟩ := Option.map_eq_some_iff.mp h
        exact .stack action bridge ‹_› hbridge
      · cases h

end TunPump

end SmoltcpSocks
