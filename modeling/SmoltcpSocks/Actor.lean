import SmoltcpSocks.ConnState
import SmoltcpSocks.Runs
import SmoltcpSocks.Table

/-! The actor of `netstack/actor.rs`: the sockets and the listener pool it owns, `try_accept`,
`service_commands`, and the tasks around it that send commands and take accepted connections. smoltcp
gives a handle to each socket it adds, possibly one that was in use before; the model also counts the
sockets, so that two sockets under one handle are told apart, and keeps a history of what was done to
which of them. A result of `none` is a panic of the actor task. Here `service_commands` is one step; `System` cuts it
where the other tasks can get in between. -/

namespace SmoltcpSocks

open TcpSocket

def TCP_RX_BUF : Nat := 64 * 1024

def TCP_TX_BUF : Nat := 64 * 1024

/-- Maximum simultaneous pending handshakes. -/
def LISTENER_POOL_SIZE : Nat := 4

abbrev SocketHandle := Nat

/-- A socket in the set, with the number of sockets added before it. -/
structure Slot (σ : Type) where
  born : Nat
  socket : Traced σ

abbrev SocketSet (σ : Type) := Table SocketHandle (Slot σ)

/-- How `SocketSet::add` chooses a handle. -/
abbrev Alloc (σ : Type) := SocketSet σ → SocketHandle

def Alloc.Fresh {σ : Type} (alloc : Alloc σ) : Prop := ∀ sockets, alloc sockets ∉ sockets

/-- The choice smoltcp makes: the first slot that is free. -/
def Alloc.firstFree {σ : Type} : Alloc σ := fun sockets =>
  ((List.range (sockets.keys.foldr max 0 + 2)).find? (· ∉ sockets)).getD 0

theorem Alloc.firstFree_fresh {σ : Type} : (firstFree : Alloc σ).Fresh := by
  intro sockets
  have hle : ∀ keys : List Nat, ∀ handle ∈ keys, handle ≤ keys.foldr max 0 := by
    intro keys
    induction keys with
    | nil => nofun
    | cons key rest ih =>
        intro handle hmem
        rcases List.mem_cons.mp hmem with rfl | hmem
        · exact le_max_left _ _
        · exact le_trans (ih handle hmem) (le_max_right _ _)
  unfold firstFree
  rcases hfind : (List.range (sockets.keys.foldr max 0 + 2)).find? (· ∉ sockets) with _ | handle
  · -- the handle above all others would have been found
    have hnone := List.find?_eq_none.mp hfind (sockets.keys.foldr max 0 + 1) (by simp)
    have hmem : sockets.keys.foldr max 0 + 1 ∈ sockets := by simpa using hnone
    have hbound := hle sockets.keys _ (AList.mem_keys.mp hmem)
    omega
  · simpa using List.find?_some hfind

/-- A VConn with the socket it was made for, as that socket was then. -/
structure HandOver (σ : Type) where
  vconn : VConn
  born : Nat
  socket : Traced σ
  deriving DecidableEq

/-- What happened to the sockets and the channels. -/
inductive ActorEvent (σ : Type) where
  | handedOver (handOver : HandOver σ)
  | overwritten (conn : ConnState)
  | sent (chan : ChanId) (cmd : ConnCmd)
  | applied (chan : ChanId) (born : Nat) (cmd : ConnCmd)
  | dialled (vconn : VConn) (connMeta : ConnMeta) (dst : SocketAddr)
  | removed (born : Nat) (socket : Traced σ)
  deriving DecidableEq

/-- The actor with the channels of its connections. `accepted` is the queue to the dispatcher with
its capacity; `nextBorn` and `nextChan` count sockets and channels. -/
structure NetstackActor (σ : Type) where
  sockets : SocketSet σ
  conns : Table SocketHandle ConnState
  listeners : List SocketHandle
  accepted : List (VConn × ConnMeta)
  capacity : Nat
  acceptedClosed : Bool
  answers : ChanId → Answers
  nextBorn : Nat
  nextChan : ChanId
  history : List (ActorEvent σ)

/-- The dispatcher asks for the next accepted connection, or it is gone. -/
inductive DispatcherStep where
  | recv | exit

/-- What can happen next. A poll changes the sockets but neither adds nor removes one; the dispatcher
also runs while `try_accept` does, before the turn of each listener; the order is the one in which
`retain` visits the entries. -/
inductive ActorAction (σ : Type) where
  | poll (change : SocketHandle → σ → σ)
  | tryAccept (alloc : Alloc σ) (between : SocketHandle → List DispatcherStep)
  | serviceCommands (callers : ChanId → Callers) (order : List SocketHandle)
  | pollEgress (change : SocketHandle → σ → σ)
  | dispatcher (d : DispatcherStep)
  | send (chan : ChanId) (cmd : ConnCmd)
  | drop (chan : ChanId)

namespace NetstackActor

variable {σ : Type}

def record (a : NetstackActor σ) (events : List (ActorEvent σ)) : NetstackActor σ :=
  { a with history := a.history ++ events }

def remove (a : NetstackActor σ) (handle : SocketHandle) (slot : Slot σ) : NetstackActor σ :=
  { a with sockets := a.sockets.erase handle }.record [.removed slot.born slot.socket]

def add (a : NetstackActor σ) (handle : SocketHandle) (socket : Traced σ) : NetstackActor σ :=
  { a with
    sockets := a.sockets.insert handle ⟨a.nextBorn, socket⟩
    nextBorn := a.nextBorn + 1 }

variable [TcpSocket σ]

def addWildcardListener (alloc : Alloc σ) (a : NetstackActor σ) :
    Option (NetstackActor σ × SocketHandle) :=
  match listen (newTcpSocket TCP_RX_BUF TCP_TX_BUF : Traced σ) .anyPort with
  | .error _ => none
  | .ok socket => some (a.add (alloc a.sockets) socket, alloc a.sockets)

/-- The last lines of the loop of `try_accept`: the socket is reset and its slot gets a new listener. -/
def refuse (alloc : Alloc σ) (a : NetstackActor σ) (handle : SocketHandle) (slot : Slot σ) :
    Option (NetstackActor σ × SocketHandle) :=
  addWildcardListener alloc (a.remove handle { slot with socket := abort slot.socket })

def connMeta (loc remote : IpEndpoint) : ConnMeta := ⟨⟨remote.addr, remote.port⟩, ⟨loc.addr, loc.port⟩⟩

def hasRoom (a : NetstackActor σ) : Bool := !a.acceptedClosed && decide (a.accepted.length < a.capacity)

/-- The hand-over of an accepted socket: its VConn goes to the dispatcher, its entry to `conns`. -/
def handOver (a : NetstackActor σ) (handle : SocketHandle) (slot : Slot σ) (vconn : VConn) :
    NetstackActor σ :=
  { a with
    accepted := a.accepted ++ [(vconn, vconn.connMeta)]
    conns := a.conns.insert handle (.new ⟨vconn.cmd, [], false⟩)
    nextChan := a.nextChan + 1 }.record
      (.handedOver ⟨vconn, slot.born, slot.socket⟩ :: (a.conns.lookup handle).toList.map .overwritten)

/-- The arm of `try_accept` for a socket whose handshake is done. -/
def acceptEstablished (alloc : Alloc σ) (a : NetstackActor σ) (handle : SocketHandle) (slot : Slot σ) :
    Option (NetstackActor σ × SocketHandle) :=
  match localEndpoint slot.socket, remoteEndpoint slot.socket with
  | some loc, some remote =>
      if a.hasRoom then
        addWildcardListener alloc (a.handOver handle slot ⟨connMeta loc remote, a.nextChan⟩)
      else refuse alloc a handle slot
  | _, _ => refuse alloc a handle slot

/-- One turn of the loop of `try_accept`, with the new handle of the slot. -/
def acceptSlot (alloc : Alloc σ) (a : NetstackActor σ) (handle : SocketHandle) :
    Option (NetstackActor σ × SocketHandle) :=
  match a.sockets.lookup handle with
  | none => none
  | some slot =>
      match state slot.socket with
      | .listen | .synReceived => some (a, handle)
      -- a FIN may arrive in the same poll as the final handshake ACK
      | .established | .closeWait => acceptEstablished alloc a handle slot
      | _ => refuse alloc a handle slot

/-- Some channels lose their last sender. -/
def closeChannels (a : NetstackActor σ) (chans : List ChanId) : NetstackActor σ :=
  let close _ (conn : ConnState) : ConnState :=
    if conn.cmdRx.chan ∈ chans then { conn with cmdRx := conn.cmdRx.close } else conn
  { a with conns := Table.map close a.conns }

/-- The dispatcher takes an accepted connection and starts `relay::pipe`, which dials first. When the
dispatcher goes, the VConns in its queue go with it. -/
def dispatcher (a : NetstackActor σ) : DispatcherStep → NetstackActor σ
  | .recv =>
      match a.accepted with
      | [] => a
      | (vconn, connMeta) :: rest =>
          { a with accepted := rest }.record [.dialled vconn connMeta vconn.destination]
  | .exit =>
      { a.closeChannels (a.accepted.map fun entry => entry.1.cmd) with
        accepted := []
        acceptedClosed := true }

/-- The loop of `try_accept` over the slots of the listener vector. -/
def acceptLoop (alloc : Alloc σ) (between : SocketHandle → List DispatcherStep) :
    List SocketHandle → NetstackActor σ → Option (NetstackActor σ × List SocketHandle)
  | [], a => some (a, [])
  | handle :: rest, a => do
      let (a, handle) ← acceptSlot alloc ((between handle).foldl dispatcher a) handle
      let (a, rest) ← acceptLoop alloc between rest a
      some (a, handle :: rest)

def tryAccept (alloc : Alloc σ) (between : SocketHandle → List DispatcherStep) (a : NetstackActor σ) :
    Option (NetstackActor σ) := do
  let (b, listeners) ← acceptLoop alloc between a.listeners a
  some { b with listeners := listeners }

def serviceEntry (callers : ChanId → Callers) (a : NetstackActor σ) (handle : SocketHandle) :
    Option (NetstackActor σ) :=
  match a.conns.lookup handle, a.sockets.lookup handle with
  | some conn, some slot =>
      let chan := conn.cmdRx.chan
      let v := Service.service (callers chan) ⟨conn, slot.socket, a.answers chan⟩
      let b := a.record (conn.cmdRx.queue.map (.applied chan slot.born))
      if v.conn.cmdRx.isClosed && v.conn.cmdRx.isEmpty then
        let w := Service.failPending v
        some { b.remove handle { slot with socket := abort w.socket } with
          conns := a.conns.erase handle
          answers := Function.update a.answers chan w.answers }
      else
        some { b with
          sockets := a.sockets.insert handle { slot with socket := v.socket }
          conns := a.conns.insert handle v.conn
          answers := Function.update a.answers chan v.answers }
  | _, _ => none

/-- `service_commands`, visiting the entries in the given order. -/
def serviceCommands (callers : ChanId → Callers) (order : List SocketHandle) (a : NetstackActor σ) :
    Option (NetstackActor σ) := do
  guard (order.Perm a.conns.keys)
  order.foldlM (serviceEntry callers) a

/-- A poll of the interface visits every socket. -/
def pollSockets (a : NetstackActor σ) (change : SocketHandle → σ → σ) : NetstackActor σ :=
  let visit handle (slot : Slot σ) : Slot σ :=
    { slot with socket := slot.socket.poll (change handle slot.socket.socket) }
  { a with sockets := Table.map visit a.sockets }

def pushCmd (a : NetstackActor σ) (chan : ChanId) (cmd : ConnCmd) : NetstackActor σ :=
  let push _ (conn : ConnState) : ConnState :=
    if conn.cmdRx.chan = chan then { conn with cmdRx := conn.cmdRx.push cmd } else conn
  { a with conns := Table.map push a.conns }.record [.sent chan cmd]

/-- A command is sent once the channel has room; a channel whose receiver is gone takes nothing. -/
def send (a : NetstackActor σ) (chan : ChanId) (cmd : ConnCmd) : Option (NetstackActor σ) :=
  match a.conns.entries.find? fun entry => entry.2.cmdRx.chan == chan with
  | none => some a
  | some entry =>
      if !entry.2.cmdRx.closed && decide (entry.2.cmdRx.queue.length < CMD_CAPACITY) then
        some (a.pushCmd chan cmd)
      else none

def step (a : NetstackActor σ) : ActorAction σ → Option (NetstackActor σ)
  | .poll change => some (a.pollSockets change)
  | .tryAccept alloc between => a.tryAccept alloc between
  | .serviceCommands callers order => a.serviceCommands callers order
  | .pollEgress change => some (a.pollSockets change)
  | .dispatcher d => some (a.dispatcher d)
  | .send chan cmd => a.send chan cmd
  | .drop chan => some (a.closeChannels [chan])

/-- An actor that owns nothing yet. -/
def empty (capacity : Nat) : NetstackActor σ where
  sockets := ∅
  conns := ∅
  listeners := []
  accepted := []
  capacity := capacity
  acceptedClosed := false
  answers := fun _ => .none
  nextBorn := 0
  nextChan := 0
  history := []

def addListeners (alloc : Alloc σ) : Nat → NetstackActor σ → Option (NetstackActor σ)
  | 0, a => some a
  | n + 1, a => do
      let (a, handle) ← addWildcardListener alloc a
      addListeners alloc n { a with listeners := a.listeners ++ [handle] }

def withChannels (alloc : Alloc σ) (capacity : Nat) : Option (NetstackActor σ) :=
  addListeners alloc LISTENER_POOL_SIZE (empty capacity)

/-- The listener is a new socket without a past. -/
structure NewListener (socket : Traced σ) : Prop where
  state : TcpSocket.state socket = .listen
  calls : socket.calls = []

/-- A listener can be handed over: the handshake is done and both endpoints are known. -/
def Ready (slot : Slot σ) (loc remote : IpEndpoint) : Prop :=
  (state slot.socket = .established ∨ state slot.socket = .closeWait) ∧
    localEndpoint slot.socket = some loc ∧ remoteEndpoint slot.socket = some remote

/-- A listener waits for its handshake. -/
def Waits (slot : Slot σ) : Prop := state slot.socket = .listen ∨ state slot.socket = .synReceived

/-- Both endpoints of an established socket are known. -/
def isReady (slot : Slot σ) : Bool :=
  (state slot.socket = .established || state slot.socket = .closeWait) &&
    (localEndpoint slot.socket).isSome && (remoteEndpoint slot.socket).isSome

theorem isReady_iff {slot : Slot σ} : isReady slot = true ↔ ∃ loc remote, Ready slot loc remote := by
  simp only [isReady, Ready, Bool.and_eq_true, Bool.or_eq_true, decide_eq_true_eq, Option.isSome_iff_exists]
  constructor
  · rintro ⟨⟨hstate, loc, hloc⟩, remote, hremote⟩
    exact ⟨loc, remote, hstate, hloc, hremote⟩
  · rintro ⟨loc, remote, hstate, hloc, hremote⟩
    exact ⟨⟨hstate, loc, hloc⟩, remote, hremote⟩

theorem not_isReady_of_waits {slot : Slot σ} (h : Waits slot) : isReady slot = false := by
  rcases h with h | h <;> simp [isReady, h]

/-- Everything one turn of the loop of `try_accept` can do. -/
inductive AcceptStep (alloc : Alloc σ) (a : NetstackActor σ) (handle : SocketHandle) :
    NetstackActor σ → SocketHandle → Prop
  | waits (slot : Slot σ) : a.sockets.lookup handle = some slot → Waits slot →
      AcceptStep alloc a handle a handle
  | handedOver (slot : Slot σ) (loc remote : IpEndpoint) (socket : Traced σ) :
      a.sockets.lookup handle = some slot → Ready slot loc remote → a.hasRoom = true →
      NewListener socket →
      AcceptStep alloc a handle
        ((a.handOver handle slot ⟨connMeta loc remote, a.nextChan⟩).add (alloc a.sockets) socket)
        (alloc a.sockets)
  | refused (slot : Slot σ) (socket : Traced σ) :
      a.sockets.lookup handle = some slot → ¬ Waits slot →
      (∀ loc remote, Ready slot loc remote → a.hasRoom = false) → NewListener socket →
      AcceptStep alloc a handle
        ((a.remove handle { slot with socket := abort slot.socket }).add
          (alloc (a.sockets.erase handle)) socket)
        (alloc (a.sockets.erase handle))

/-- Everything `retain` can do with an entry. -/
inductive EntryStep (callers : ChanId → Callers) (a : NetstackActor σ) (handle : SocketHandle) :
    NetstackActor σ → Prop
  | kept (conn : ConnState) (slot : Slot σ) (v : Service (Traced σ)) :
      a.conns.lookup handle = some conn → a.sockets.lookup handle = some slot →
      v = Service.service (callers conn.cmdRx.chan) ⟨conn, slot.socket, a.answers conn.cmdRx.chan⟩ →
      conn.cmdRx.closed = false →
      EntryStep callers a handle
        { a.record (conn.cmdRx.queue.map (.applied conn.cmdRx.chan slot.born)) with
          sockets := a.sockets.insert handle { slot with socket := v.socket }
          conns := a.conns.insert handle v.conn
          answers := Function.update a.answers conn.cmdRx.chan v.answers }
  | dropped (conn : ConnState) (slot : Slot σ) (v : Service (Traced σ)) :
      a.conns.lookup handle = some conn → a.sockets.lookup handle = some slot →
      v = Service.service (callers conn.cmdRx.chan) ⟨conn, slot.socket, a.answers conn.cmdRx.chan⟩ →
      conn.cmdRx.closed = true →
      EntryStep callers a handle
        { (a.record (conn.cmdRx.queue.map (.applied conn.cmdRx.chan slot.born))).remove handle
            { slot with socket := abort v.socket } with
          conns := a.conns.erase handle
          answers := Function.update a.answers conn.cmdRx.chan (Service.failPending v).answers }

variable [LawfulTcpSocket σ] {alloc : Alloc σ} {a b : NetstackActor σ} {handle handle' : SocketHandle}

theorem addWildcardListener_eq (alloc : Alloc σ) (a : NetstackActor σ) :
    ∃ socket, NewListener socket ∧
      addWildcardListener alloc a = some (a.add (alloc a.sockets) socket, alloc a.sockets) := by
  obtain ⟨socket, hlisten, hstate⟩ := listen_newTcpSocket (σ := σ) TCP_RX_BUF TCP_TX_BUF
  refine ⟨⟨socket, []⟩, ⟨hstate, rfl⟩, ?_⟩
  have htraced : listen (newTcpSocket TCP_RX_BUF TCP_TX_BUF : Traced σ) .anyPort = .ok ⟨socket, []⟩ := by
    change (listen (newTcpSocket TCP_RX_BUF TCP_TX_BUF : σ) .anyPort).map _ = _
    rw [hlisten]
    rfl
  rw [addWildcardListener, htraced]

theorem acceptSlot_step (alloc : Alloc σ) (h : handle ∈ a.sockets) :
    ∃ b handle', acceptSlot alloc a handle = some (b, handle') ∧ AcceptStep alloc a handle b handle' := by
  obtain ⟨slot, hslot⟩ := Table.mem_iff.mp h
  have hrefuse (hwaits : ¬ Waits slot) (hroom : ∀ loc remote, Ready slot loc remote → a.hasRoom = false) :
      ∃ b handle', refuse alloc a handle slot = some (b, handle') ∧
        AcceptStep alloc a handle b handle' := by
    obtain ⟨socket, hnew, hadd⟩ := addWildcardListener_eq alloc
      (a.remove handle { slot with socket := abort slot.socket })
    exact ⟨_, _, hadd, .refused slot socket hslot hwaits hroom hnew⟩
  have hready (hdone : state slot.socket = .established ∨ state slot.socket = .closeWait) :
      ∃ b handle', acceptEstablished alloc a handle slot = some (b, handle') ∧
        AcceptStep alloc a handle b handle' := by
    have hwaits : ¬ Waits slot := by rcases hdone with h | h <;> simp [Waits, h]
    unfold acceptEstablished
    rcases hloc : localEndpoint slot.socket with _ | loc
    · exact hrefuse hwaits fun _ _ hr => by cases hloc.symm.trans hr.2.1
    rcases hremote : remoteEndpoint slot.socket with _ | remote
    · exact hrefuse hwaits fun _ _ hr => by cases hremote.symm.trans hr.2.2
    rcases hroom : a.hasRoom with _ | _
    · exact hrefuse hwaits fun _ _ _ => hroom
    · obtain ⟨socket, hnew, hadd⟩ := addWildcardListener_eq alloc
        (a.handOver handle slot ⟨connMeta loc remote, a.nextChan⟩)
      exact ⟨_, _, hadd, .handedOver slot loc remote socket hslot ⟨hdone, hloc, hremote⟩ hroom hnew⟩
  have hother (hstate : ¬ Waits slot) (hdone : ¬ (state slot.socket = .established ∨
      state slot.socket = .closeWait)) :
      ∃ b handle', refuse alloc a handle slot = some (b, handle') ∧ AcceptStep alloc a handle b handle' :=
    hrefuse hstate fun _ _ hr => absurd hr.1 hdone
  unfold acceptSlot
  simp only [hslot]
  rcases hstate : state slot.socket with _ | _ | _ | _ | _ | _ | _ | _ | _ | _ | _
  case listen => exact ⟨a, handle, rfl, .waits slot hslot (Or.inl hstate)⟩
  case synReceived => exact ⟨a, handle, rfl, .waits slot hslot (Or.inr hstate)⟩
  case established => exact hready (Or.inl hstate)
  case closeWait => exact hready (Or.inr hstate)
  all_goals exact hother (by simp [Waits, hstate]) (by simp [hstate])

theorem acceptStep_of_acceptSlot (h : acceptSlot alloc a handle = some (b, handle')) :
    AcceptStep alloc a handle b handle' := by
  have hmem : handle ∈ a.sockets := by
    rw [← AList.lookup_isSome]
    unfold acceptSlot at h
    rcases hslot : a.sockets.lookup handle with _ | slot
    · rw [hslot] at h
      cases h
    · rfl
  obtain ⟨b', h', heq, hstep⟩ := acceptSlot_step alloc hmem
  cases h.symm.trans heq
  exact hstep

omit [LawfulTcpSocket σ] in
/-- The loop of `try_accept` is a turn at the first slot and the loop over the others. -/
theorem acceptLoop_cons_eq_some_iff {between : SocketHandle → List DispatcherStep}
    {rest listeners : List SocketHandle} :
    acceptLoop alloc between (handle :: rest) a = some (b, listeners) ↔
      ∃ c handle' rest', acceptSlot alloc ((between handle).foldl dispatcher a) handle = some (c, handle') ∧
        acceptLoop alloc between rest c = some (b, rest') ∧ listeners = handle' :: rest' := by
  constructor
  · intro hloop
    obtain ⟨⟨c, handle'⟩, hslot, hloop⟩ := Option.bind_eq_some_iff.mp hloop
    obtain ⟨⟨b', rest'⟩, hrest, heq⟩ := Option.bind_eq_some_iff.mp hloop
    cases heq
    exact ⟨c, handle', rest', hslot, hrest, rfl⟩
  · rintro ⟨c, handle', rest', hslot, hrest, rfl⟩
    simp [acceptLoop, hslot, hrest]

omit [LawfulTcpSocket σ] in
theorem tryAccept_eq_some_iff {between : SocketHandle → List DispatcherStep} :
    a.tryAccept alloc between = some b ↔
      ∃ c listeners, acceptLoop alloc between a.listeners a = some (c, listeners) ∧
        b = { c with listeners := listeners } := by
  constructor
  · intro haccept
    obtain ⟨⟨c, listeners⟩, hloop, heq⟩ := Option.bind_eq_some_iff.mp haccept
    exact ⟨c, listeners, hloop, (Option.some.inj heq).symm⟩
  · rintro ⟨c, listeners, hloop, rfl⟩
    simp [tryAccept, hloop]

omit [TcpSocket σ] [LawfulTcpSocket σ] in
theorem failPending_socket (v : Service (Traced σ)) : (Service.failPending v).socket = v.socket := by
  rcases hread : v.conn.read <;> rcases hwrite : v.conn.write <;>
    simp [Service.failPending, hread, hwrite, Service.setRead, Service.setWrite, Service.answerRead,
      Service.answerWrite]

variable {callers : ChanId → Callers}

theorem serviceEntry_step (callers : ChanId → Callers) (hconn : handle ∈ a.conns)
    (hsocket : handle ∈ a.sockets) :
    ∃ b, serviceEntry callers a handle = some b ∧ EntryStep callers a handle b := by
  obtain ⟨conn, hconn⟩ := Table.mem_iff.mp hconn
  obtain ⟨slot, hslot⟩ := Table.mem_iff.mp hsocket
  have hcmdRx := Service.cmdRx_service (callers conn.cmdRx.chan)
    ⟨conn, slot.socket, a.answers conn.cmdRx.chan⟩
  unfold serviceEntry
  simp only [hconn, hslot, CmdReceiver.isClosed, CmdReceiver.isEmpty, hcmdRx, List.isEmpty_nil,
    Bool.and_true, failPending_socket]
  rcases hclosed : conn.cmdRx.closed with _ | _
  · exact ⟨_, rfl, .kept conn slot _ hconn hslot rfl hclosed⟩
  · exact ⟨_, rfl, .dropped conn slot _ hconn hslot rfl hclosed⟩

theorem entryStep_of_serviceEntry (h : serviceEntry callers a handle = some b) :
    EntryStep callers a handle b := by
  have hmem : handle ∈ a.conns ∧ handle ∈ a.sockets := by
    rw [← AList.lookup_isSome, ← AList.lookup_isSome]
    unfold serviceEntry at h
    rcases hconn : a.conns.lookup handle with _ | conn <;>
      rcases hslot : a.sockets.lookup handle with _ | slot <;> simp [hconn, hslot] at h ⊢
  obtain ⟨b', heq, hstep⟩ := serviceEntry_step callers hmem.1 hmem.2
  cases h.symm.trans heq
  exact hstep

omit [LawfulTcpSocket σ] in
theorem listeners_of_entryStep (hstep : EntryStep callers a handle b) : b.listeners = a.listeners := by
  cases hstep <;> rfl

omit [LawfulTcpSocket σ] in
/-- Servicing an entry leaves the others and their sockets alone. -/
theorem lookup_of_entryStep (hstep : EntryStep callers a handle b) (hne : handle' ≠ handle) :
    b.conns.lookup handle' = a.conns.lookup handle' ∧
      b.sockets.lookup handle' = a.sockets.lookup handle' := by
  cases hstep with
  | kept => exact ⟨AList.lookup_insert_ne hne, AList.lookup_insert_ne hne⟩
  | dropped => exact ⟨AList.lookup_erase_ne hne, AList.lookup_erase_ne hne⟩

omit [LawfulTcpSocket σ] in
/-- `service_commands` visits every entry once and none of the visits panics. -/
theorem serviceCommands_eq_some_iff {order : List SocketHandle} : a.serviceCommands callers order = some b ↔
    order.Perm a.conns.keys ∧ order.foldlM (serviceEntry callers) a = some b := by
  constructor
  · intro hservice
    obtain ⟨_, hguard, hfold⟩ := Option.bind_eq_some_iff.mp hservice
    refine ⟨?_, hfold⟩
    by_contra hnot
    rw [guard, if_neg hnot] at hguard
    cases hguard
  · rintro ⟨hperm, hfold⟩
    rw [serviceCommands, guard, if_pos hperm]
    exact hfold

/-- What servicing one entry keeps, servicing them in any order keeps. -/
theorem serviceEntries_invariant {P : NetstackActor σ → Prop} {order : List SocketHandle}
    (hentry : ∀ {a b handle}, P a → EntryStep callers a handle b → P b)
    (hfold : order.foldlM (serviceEntry callers) a = some b) (h : P a) : P b :=
  (Transition.Run.of_foldlM hfold).invariant
    (fun _ _ _ hs _ hnext => hentry hs (entryStep_of_serviceEntry hnext)) h

omit [TcpSocket σ] [LawfulTcpSocket σ] in
theorem send_cases {chan : ChanId} {cmd : ConnCmd} (h : a.send chan cmd = some b) :
    b = a ∨ b = a.pushCmd chan cmd := by
  unfold send at h
  split at h
  · cases h
    exact Or.inl rfl
  · split at h
    · cases h
      exact Or.inr rfl
    · cases h

omit [TcpSocket σ] [LawfulTcpSocket σ] in
/-- The dispatcher waits, takes a connection and dials, or closes its queue. -/
theorem dispatcher_cases (a : NetstackActor σ) (d : DispatcherStep) :
    a.dispatcher d = a ∨
      (∃ vconn m rest, a.accepted = (vconn, m) :: rest ∧ d = .recv ∧
        a.dispatcher d = { a with accepted := rest }.record [.dialled vconn m vconn.destination]) ∨
      d = .exit ∧ a.dispatcher d = { a.closeChannels (a.accepted.map fun entry => entry.1.cmd) with
        accepted := []
        acceptedClosed := true } := by
  cases d with
  | recv =>
      rcases haccepted : a.accepted with _ | ⟨⟨vconn, m⟩, rest⟩
      · exact Or.inl (by rw [dispatcher, haccepted])
      · exact Or.inr (Or.inl ⟨vconn, m, rest, rfl, rfl, by rw [dispatcher, haccepted]⟩)
  | exit => exact Or.inr (Or.inr ⟨rfl, rfl⟩)

omit [TcpSocket σ] [LawfulTcpSocket σ] in
@[simp] theorem sockets_dispatcher (a : NetstackActor σ) (d : DispatcherStep) :
    (a.dispatcher d).sockets = a.sockets := by
  rcases dispatcher_cases a d with heq | ⟨_, _, _, _, _, heq⟩ | ⟨_, heq⟩ <;> rw [heq] <;> rfl

omit [TcpSocket σ] [LawfulTcpSocket σ] in
@[simp] theorem listeners_dispatcher (a : NetstackActor σ) (d : DispatcherStep) :
    (a.dispatcher d).listeners = a.listeners := by
  rcases dispatcher_cases a d with heq | ⟨_, _, _, _, _, heq⟩ | ⟨_, heq⟩ <;> rw [heq] <;> rfl

omit [TcpSocket σ] [LawfulTcpSocket σ] in
theorem sockets_dispatcherSteps (steps : List DispatcherStep) (a : NetstackActor σ) :
    (steps.foldl dispatcher a).sockets = a.sockets := by
  induction steps generalizing a with
  | nil => rfl
  | cons d rest ih => rw [List.foldl_cons, ih, sockets_dispatcher]

inductive Move (a : NetstackActor σ) : ActorAction σ → NetstackActor σ → Prop
  | poll (change : SocketHandle → σ → σ) :
      Move a (.poll change) (a.pollSockets change)
  | pollEgress (change : SocketHandle → σ → σ) :
      Move a (.pollEgress change) (a.pollSockets change)
  | tryAccept (alloc : Alloc σ) (between : SocketHandle → List DispatcherStep) (b : NetstackActor σ) :
      a.tryAccept alloc between = some b → Move a (.tryAccept alloc between) b
  | serviceCommands (callers : ChanId → Callers) (order : List SocketHandle) (b : NetstackActor σ) :
      a.serviceCommands callers order = some b → Move a (.serviceCommands callers order) b
  | dispatcher (d : DispatcherStep) : Move a (.dispatcher d) (a.dispatcher d)
  | sendGone (chan : ChanId) (cmd : ConnCmd) : Move a (.send chan cmd) a
  | send (chan : ChanId) (cmd : ConnCmd) : Move a (.send chan cmd) (a.pushCmd chan cmd)
  | drop (chan : ChanId) : Move a (.drop chan) (a.closeChannels [chan])

omit [LawfulTcpSocket σ] in
theorem step_move {action : ActorAction σ} (h : a.step action = some b) : Move a action b := by
  cases action with
  | poll change =>
      cases h
      exact .poll change
  | pollEgress change =>
      cases h
      exact .pollEgress change
  | tryAccept alloc between => exact .tryAccept alloc between b h
  | serviceCommands callers order => exact .serviceCommands callers order b h
  | dispatcher d =>
      cases h
      exact .dispatcher d
  | send chan cmd =>
      rcases send_cases h with rfl | rfl
      · exact .sendGone chan cmd
      · exact .send chan cmd
  | drop chan =>
      cases h
      exact .drop chan

/-- The set hands out only handles that are not in use. -/
def FreshHandles : ActorAction σ → Prop
  | .tryAccept alloc _ => alloc.Fresh
  | _ => True

/-- A property of the actor and a listener vector that every single change keeps. The vector is an
argument because part of it is already rewritten inside the loop of `try_accept`; the properties do not
depend on its order. -/
structure Invariant (I : NetstackActor σ → List SocketHandle → Prop) : Prop where
  perm : ∀ {a listeners others}, I a listeners → listeners.Perm others → I a others
  relabel : ∀ {a listeners} (vector : List SocketHandle), I a listeners →
    I { a with listeners := vector } listeners
  poll : ∀ {a listeners} (change : SocketHandle → σ → σ), I a listeners → I (a.pollSockets change) listeners
  accept : ∀ {alloc : Alloc σ} {a b handle handle' others}, alloc.Fresh → I a (handle :: others) →
    AcceptStep alloc a handle b handle' → I b (handle' :: others)
  entry : ∀ {callers a b handle listeners}, I a listeners → EntryStep callers a handle b → I b listeners
  dispatcher : ∀ {a listeners} (d : DispatcherStep), I a listeners → I (a.dispatcher d) listeners
  send : ∀ {a listeners} (chan : ChanId) (cmd : ConnCmd), I a listeners → I (a.pushCmd chan cmd) listeners
  drop : ∀ {a listeners} (chan : ChanId), I a listeners → I (a.closeChannels [chan]) listeners

namespace Invariant

variable {I : NetstackActor σ → List SocketHandle → Prop} {between : SocketHandle → List DispatcherStep}
  {rest : List SocketHandle}

omit [LawfulTcpSocket σ] in
theorem dispatcherSteps (hI : Invariant I) {listeners : List SocketHandle} (steps : List DispatcherStep)
    (h : I a listeners) : I (steps.foldl NetstackActor.dispatcher a) listeners := by
  induction steps generalizing a with
  | nil => exact h
  | cons d rest ih => exact ih (hI.dispatcher d h)

omit [LawfulTcpSocket σ] in
/-- A turn of `try_accept` puts the slot's handle behind those already processed. -/
theorem turn (hI : Invariant I) (hfresh : alloc.Fresh) {processed : List SocketHandle}
    (h : I a (processed ++ handle :: rest)) (hstep : AcceptStep alloc a handle b handle') :
    I b ((processed ++ [handle']) ++ rest) := by
  apply hI.perm (hI.accept hfresh (hI.perm h List.perm_middle) hstep)
  rw [List.append_assoc]
  exact List.perm_middle.symm

theorem acceptLoop (hI : Invariant I) (hfresh : alloc.Fresh) (processed : List SocketHandle)
    {rest' : List SocketHandle} (h : I a (processed ++ rest))
    (hloop : acceptLoop alloc between rest a = some (b, rest')) : I b (processed ++ rest') := by
  induction rest generalizing processed a rest' with
  | nil =>
      cases hloop
      exact h
  | cons handle rest ih =>
      obtain ⟨a', handle', tail, hslot, hrest, rfl⟩ := acceptLoop_cons_eq_some_iff.mp hloop
      have hnext : I a' ((processed ++ [handle']) ++ rest) :=
        hI.turn hfresh (hI.dispatcherSteps (between handle) h) (acceptStep_of_acceptSlot hslot)
      simpa using ih (processed ++ [handle']) hnext hrest

/-- What every change keeps, every step keeps. -/
theorem step (hI : Invariant I) {action : ActorAction σ} (hfresh : FreshHandles action)
    (h : I a a.listeners) (hstep : a.step action = some b) : I b b.listeners := by
  cases step_move hstep with
  | poll change | pollEgress change => exact hI.poll change h
  | tryAccept alloc between _ haccept =>
      obtain ⟨b', listeners, hloop, rfl⟩ := tryAccept_eq_some_iff.mp haccept
      exact hI.relabel listeners (hI.acceptLoop hfresh [] h hloop)
  | serviceCommands callers order _ hservice =>
      obtain ⟨_, hfold⟩ := serviceCommands_eq_some_iff.mp hservice
      obtain ⟨hlisteners, hb'⟩ := serviceEntries_invariant
        (P := fun c => c.listeners = a.listeners ∧ I c a.listeners)
        (fun hc hentry => ⟨(listeners_of_entryStep hentry).trans hc.1, hI.entry hc.2 hentry⟩)
        hfold ⟨rfl, h⟩
      rw [hlisteners]
      exact hb'
  | dispatcher d =>
      rw [listeners_dispatcher]
      exact hI.dispatcher d h
  | sendGone chan cmd => exact h
  | send chan cmd => exact hI.send chan cmd h
  | drop chan => exact hI.drop chan h

end Invariant

/-- What holds of an actor without sockets, and of every new listener, holds of the pool at the start. -/
theorem addListeners_induction {I : NetstackActor σ → List SocketHandle → Prop}
    (hadd : ∀ {a listeners socket}, NewListener socket → I a listeners →
      I { a.add (alloc a.sockets) socket with listeners := listeners ++ [alloc a.sockets] }
        (listeners ++ [alloc a.sockets])) (n : Nat) (h : I a a.listeners) :
    ∃ b, addListeners alloc n a = some b ∧ b.listeners.length = a.listeners.length + n ∧
      I b b.listeners := by
  induction n generalizing a with
  | zero => exact ⟨a, rfl, rfl, h⟩
  | succ n ih =>
      obtain ⟨socket, hnew, haddListener⟩ := addWildcardListener_eq alloc a
      obtain ⟨b, hb, hlen, hI⟩ := ih (hadd hnew h)
      refine ⟨b, ?_, ?_, hI⟩
      · rw [addListeners, haddListener]
        exact hb
      · simp only [List.length_append, List.length_singleton] at hlen
        omega

end NetstackActor

end SmoltcpSocks
