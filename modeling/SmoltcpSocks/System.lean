import SmoltcpSocks.ActorOwnership
import SmoltcpSocks.Relay
import SmoltcpSocks.Fifo

/-! The running program: the actor task, the dispatcher, the relay task of every accepted connection, and
the owner of the handle that stops the actor. The tasks run on a threaded runtime, so the actor's loop is cut
wherever another task can get in: between the turns of `try_accept`, between the entries `retain` visits, and
inside `service` at the command channel. A result of `none` is a step that cannot be taken here; for the
actor's own steps inside `try_accept` and `service_commands` it is a panic. -/

namespace SmoltcpSocks

open TcpSocket

/-- The number of accepted connections that wait for the dispatcher (`mpsc::channel(64)`). -/
def ACCEPTED_CAPACITY : Nat := 64

/-- Where the actor task stands in `run`. -/
inductive Phase where
  | poll
  | accepting (processed rest : List SocketHandle)
  | servicing (rest : List SocketHandle)
  | serving (handle : SocketHandle) (rest : List SocketHandle)
  | egress
  | waiting
  | stopped

/-- The relay of a connection, from the hand-over on: `started` once the dispatcher has spawned it. The
actor keeps the receiving end of its channel under `handle`; `last` is the socket when it left the set. -/
structure Task (σ : Type) where
  vconn : VConn
  handle : SocketHandle
  last : Traced σ
  started : Bool
  nextReply : ReplyId
  pipe : PipePoint
  up : UpPoint
  down : DownPoint
  client : List UInt8
  incoming : List UInt8
  received : List UInt8
  writer : List WriterCall

/-- All tasks. `stop` is the channel of the `NetstackHandle`, which is gone once its owner drops it. -/
structure System (σ : Type) where
  actor : NetstackActor σ
  phase : Phase
  tasks : Table ChanId (Task σ)
  stop : Channel Unit
  handleGone : Bool

/-- What can happen next. A poll brings the next bytes of the clients in; a turn of `try_accept` comes with
what the client of the accepted connection still sends and what its upstream will send. -/
inductive SystemAction (σ : Type) where
  | poll (change : SocketHandle → σ → σ) (arrived : ChanId → List UInt8)
  | acceptNext (alloc : Alloc σ) (client incoming : List UInt8)
  | serviceCommands (order : List SocketHandle)
  | entryBegin
  | entryNext
  | entryEnd
  | serviceDone
  | egress (change : SocketHandle → σ → σ)
  | wake
  | stopRecv
  | dispatch
  | dispatcherEnd
  | relay (chan : ChanId) (action : SessionAction σ)
  | stopSend
  | handleDrop

/-- The steps of a session that the relay task makes. -/
def SessionAction.isRelay {σ : Type} : SessionAction σ → Bool
  | .poll _ _ | .serviceBegin | .serviceNext | .serviceEnd | .stop => false
  | _ => true

/-- A connection that was just accepted. -/
def Task.new {σ : Type} (vconn : VConn) (handle : SocketHandle) (socket : σ) (client incoming : List UInt8) :
    Task σ where
  vconn := vconn
  handle := handle
  last := ⟨socket, []⟩
  started := false
  nextReply := 0
  pipe := .dial
  up := .read
  down := .read
  client := client
  incoming := incoming
  received := []
  writer := []

/-- The relay's part of a session goes back to its task. -/
def Task.update {σ : Type} (task : Task σ) (t : Session σ) : Task σ :=
  { task with
    last := t.socket
    nextReply := t.nextReply
    pipe := t.pipe
    up := t.up
    down := t.down
    client := t.client
    incoming := t.incoming
    received := t.received
    writer := t.writer }

namespace System

variable {σ : Type}

def running (sys : System σ) : Bool :=
  match sys.phase with
  | .stopped => false
  | _ => true

def isServing (sys : System σ) (handle : SocketHandle) : Bool :=
  match sys.phase with
  | .serving current _ => current == handle
  | _ => false

/-- The entry that holds the receiving end of the task's channel. -/
def entry (sys : System σ) (task : Task σ) : Option ConnState :=
  (sys.actor.conns.lookup task.handle).filter fun conn => conn.cmdRx.chan == task.vconn.cmd

def socketOf (sys : System σ) (task : Task σ) : Traced σ :=
  match sys.entry task, sys.actor.sockets.lookup task.handle with
  | some _, some slot => slot.socket
  | _, _ => task.last

/-- Everything that belongs to one connection. -/
def session (sys : System σ) (task : Task σ) : Session σ where
  vconn := task.vconn
  socket := sys.socketOf task
  conn := sys.entry task
  running := sys.running
  serving := sys.isServing task.handle && (sys.entry task).isSome
  answers := sys.actor.answers task.vconn.cmd
  nextReply := task.nextReply
  pipe := task.pipe
  up := task.up
  down := task.down
  client := task.client
  incoming := task.incoming
  received := task.received
  writer := task.writer

def view (sys : System σ) (chan : ChanId) : Option (Session σ) := (sys.tasks.lookup chan).map sys.session

/-- The actor's part of a session goes back to the entry and its socket, which leave together. -/
def putEntry (sys : System σ) (task : Task σ) (t : Session σ) : NetstackActor σ :=
  match sys.entry task, sys.actor.sockets.lookup task.handle, t.conn with
  | some _, some slot, some conn =>
      { sys.actor with
        conns := sys.actor.conns.insert task.handle conn
        sockets := sys.actor.sockets.insert task.handle { slot with socket := t.socket } }
  | some _, some slot, none =>
      { sys.actor.remove task.handle { slot with socket := t.socket } with
        conns := sys.actor.conns.erase task.handle }
  | _, _, _ => sys.actor

/-- One connection has changed. -/
def put (sys : System σ) (task : Task σ) (t : Session σ) : System σ :=
  { sys with
    actor := { sys.putEntry task t with
      answers := Function.update sys.actor.answers task.vconn.cmd t.answers }
    tasks := sys.tasks.insert task.vconn.cmd (task.update t) }

variable [TcpSocket σ]

/-- What a poll brings to a connection. -/
def arrive (sys : System σ) (change : SocketHandle → σ → σ) (arrived : ChanId → List UInt8) (task : Task σ) :
    Option (Session σ) :=
  (sys.session task).poll (change task.handle (sys.socketOf task).socket) (arrived task.vconn.cmd)

def polled (sys : System σ) (change : SocketHandle → σ → σ) (arrived : ChanId → List UInt8) : System σ :=
  { sys with
    actor := sys.actor.pollSockets change
    tasks := Table.map (fun _ task => if (sys.entry task).isSome then
      { task with client := task.client.drop (arrived task.vconn.cmd).length } else task) sys.tasks }

/-- The interface polls. Every socket may change; on the socket of a connection, only the next bytes of its
client arrive, and the FIN only behind them. -/
def poll (sys : System σ) (change : SocketHandle → σ → σ) (arrived : ChanId → List UInt8) :
    Option (System σ) :=
  if sys.tasks.entries.all fun e => (sys.entry e.2).isNone || (sys.arrive change arrived e.2).isSome then
    some (sys.polled change arrived)
  else none

/-- The VConns that a turn of `try_accept` has put into the queue get their tasks; the calls on their socket
count from here. -/
def handOverTo (sys : System σ) (a : NetstackActor σ) (handle : SocketHandle) (client incoming : List UInt8) :
    System σ :=
  match a.accepted.drop sys.actor.accepted.length, sys.actor.sockets.lookup handle with
  | (vconn, _) :: _, some slot =>
      { sys with
        actor := { a with sockets := a.sockets.insert handle { slot with socket := ⟨slot.socket.socket, []⟩ } }
        tasks := sys.tasks.insert vconn.cmd (.new vconn handle slot.socket.socket client incoming) }
  | _, _ => { sys with actor := a }

/-- One turn of the loop of `try_accept`. -/
def acceptNext (sys : System σ) (alloc : Alloc σ) (client incoming : List UInt8) : Option (System σ) :=
  match sys.phase with
  | .accepting processed (handle :: rest) => do
      let slot ← sys.actor.sockets.lookup handle
      guard (!rxFinReceived slot.socket || client.isEmpty)
      let (a, handle') ← NetstackActor.acceptSlot alloc sys.actor handle
      let sys := sys.handOverTo a handle client incoming
      some { sys with
        actor := { sys.actor with listeners := processed ++ [handle'] ++ rest }
        phase := .accepting (processed ++ [handle']) rest }
  | _ => none

def serve (sys : System σ) (handle : SocketHandle) (action : SessionAction σ) (phase : Phase) :
    Option (System σ) := do
  let conn ← sys.actor.conns.lookup handle
  let task ← sys.tasks.lookup conn.cmdRx.chan
  let t ← (sys.session task).step action
  some { sys.put task t with phase := phase }

def relay (sys : System σ) (chan : ChanId) (action : SessionAction σ) : Option (System σ) := do
  let task ← sys.tasks.lookup chan
  guard (task.started && action.isRelay)
  let t ← (sys.session task).step action
  some (sys.put task t)

/-- The dispatcher takes a connection off the queue and spawns its relay. -/
def dispatch (sys : System σ) : Option (System σ) :=
  match sys.actor.accepted with
  | [] => none
  | (vconn, _) :: _ => do
      let task ← sys.tasks.lookup vconn.cmd
      some { sys with
        actor := sys.actor.dispatcher .recv
        tasks := sys.tasks.insert vconn.cmd { task with started := true } }

/-- The actor is dropped with everything it owns. -/
def dropActor (sys : System σ) : System σ :=
  { sys with
    actor := { sys.actor with sockets := ∅, conns := ∅, listeners := [] }
    phase := .stopped
    tasks := Table.map (fun _ task => { task with last := sys.socketOf task }) sys.tasks
    stop := sys.stop.close }

def step (sys : System σ) : SystemAction σ → Option (System σ)
  | .poll change arrived =>
      match sys.phase with
      | .poll => (sys.poll change arrived).map ({ · with phase := .accepting [] sys.actor.listeners })
      | _ => none
  | .acceptNext alloc client incoming => sys.acceptNext alloc client incoming
  | .serviceCommands order =>
      match sys.phase with
      | .accepting _ [] => if order.Perm sys.actor.conns.keys then some { sys with phase := .servicing order } else none
      | _ => none
  | .entryBegin =>
      match sys.phase with
      | .servicing (handle :: rest) => sys.serve handle .serviceBegin (.serving handle rest)
      | _ => none
  | .entryNext =>
      match sys.phase with
      | .serving handle rest => sys.serve handle .serviceNext (.serving handle rest)
      | _ => none
  | .entryEnd =>
      match sys.phase with
      | .serving handle rest => sys.serve handle .serviceEnd (.servicing rest)
      | _ => none
  | .serviceDone =>
      match sys.phase with
      | .servicing [] => some { sys with phase := .egress }
      | _ => none
  | .egress change =>
      match sys.phase with
      | .egress => (sys.poll change fun _ => []).map ({ · with phase := .waiting })
      | _ => none
  | .wake =>
      match sys.phase with
      | .waiting => some { sys with phase := .poll }
      | _ => none
  | .stopRecv =>
      match sys.phase with
      | .waiting => if sys.stop.tryRecv.isSome || sys.handleGone then some sys.dropActor else none
      | _ => none
  | .dispatch => sys.dispatch
  | .dispatcherEnd =>
      match sys.phase, sys.actor.accepted, sys.actor.acceptedClosed with
      | .stopped, [], false => some { sys with actor := { sys.actor with acceptedClosed := true } }
      | _, _, _ => none
  | .relay chan action => sys.relay chan action
  | .stopSend =>
      if sys.handleGone then none
      else if sys.stop.closed then some sys
      else (sys.stop.trySend ()).map ({ sys with stop := · })
  | .handleDrop => if sys.handleGone then none else some { sys with handleGone := true }

/-- `NetstackActor::spawn`. -/
def spawn (alloc : Alloc σ) : Option (System σ) :=
  (NetstackActor.withChannels alloc ACCEPTED_CAPACITY).map fun actor => ⟨actor, .poll, ∅, .new 1, false⟩

/-- Where the actor stands around a step of `service`, with the entry it is on. -/
inductive Serves : Phase → SystemAction σ → SocketHandle → SessionAction σ → Phase → Prop
  | first (handle : SocketHandle) (rest : List SocketHandle) :
      Serves (.servicing (handle :: rest)) .entryBegin handle .serviceBegin (.serving handle rest)
  | next (handle : SocketHandle) (rest : List SocketHandle) :
      Serves (.serving handle rest) .entryNext handle .serviceNext (.serving handle rest)
  | last (handle : SocketHandle) (rest : List SocketHandle) :
      Serves (.serving handle rest) .entryEnd handle .serviceEnd (.servicing rest)

/-- Every connection can take what a poll brings. -/
def CanArrive (sys : System σ) (change : SocketHandle → σ → σ) (arrived : ChanId → List UInt8) : Prop :=
  ∀ chan task, sys.tasks.lookup chan = some task → (sys.entry task).isSome = true →
    ∃ t, sys.arrive change arrived task = some t

/-- The handles after a turn of `try_accept`, and where its loop stands. -/
def turned (sys : System σ) (processed rest : List SocketHandle) (handle : SocketHandle) : System σ :=
  { sys with
    actor := { sys.actor with listeners := processed ++ [handle] ++ rest }
    phase := .accepting (processed ++ [handle]) rest }

/-- A listener has become a connection, and its slot has a new listener. -/
def handedOver (sys : System σ) (alloc : Alloc σ) (handle : SocketHandle) (slot : Slot σ) (vconn : VConn)
    (listener : Traced σ) (client incoming : List UInt8) : System σ :=
  let a := (sys.actor.handOver handle slot vconn).add (alloc sys.actor.sockets) listener
  { sys with
    actor := { a with sockets := a.sockets.insert handle { slot with socket := ⟨slot.socket.socket, []⟩ } }
    tasks := sys.tasks.insert vconn.cmd (.new vconn handle slot.socket.socket client incoming) }

/-- A listener has been reset, and its slot has a new one. -/
def refused (sys : System σ) (alloc : Alloc σ) (handle : SocketHandle) (slot : Slot σ) (listener : Traced σ) :
    System σ :=
  let a := sys.actor.remove handle { slot with socket := abort slot.socket }
  { sys with actor := a.add (alloc (sys.actor.sockets.erase handle)) listener }

/-- Everything a turn of `try_accept` can do. -/
inductive Turn (sys : System σ) (alloc : Alloc σ) (client incoming : List UInt8) (handle : SocketHandle)
    (slot : Slot σ) : System σ → SocketHandle → Prop
  | waits : NetstackActor.Waits slot → Turn sys alloc client incoming handle slot sys handle
  | handedOver (loc remote : IpEndpoint) (listener : Traced σ) : NetstackActor.Ready slot loc remote →
      sys.actor.hasRoom = true → NetstackActor.NewListener listener →
      Turn sys alloc client incoming handle slot
        (sys.handedOver alloc handle slot ⟨NetstackActor.connMeta loc remote, sys.actor.nextChan⟩ listener
          client incoming)
        (alloc sys.actor.sockets)
  | refused (listener : Traced σ) : ¬ NetstackActor.Waits slot →
      (∀ loc remote, NetstackActor.Ready slot loc remote → sys.actor.hasRoom = false) →
      NetstackActor.NewListener listener →
      Turn sys alloc client incoming handle slot
        (sys.refused alloc handle slot listener) (alloc (sys.actor.sockets.erase handle))

inductive Move (sys : System σ) : SystemAction σ → System σ → Prop
  | poll (change : SocketHandle → σ → σ) (arrived : ChanId → List UInt8) : sys.phase = .poll →
      sys.CanArrive change arrived → Move sys (.poll change arrived)
        { sys.polled change arrived with phase := .accepting [] sys.actor.listeners }
  | acceptNext (alloc : Alloc σ) (client incoming : List UInt8) (processed rest : List SocketHandle)
      (handle handle' : SocketHandle) (slot : Slot σ) (next : System σ) :
      sys.phase = .accepting processed (handle :: rest) → sys.actor.sockets.lookup handle = some slot →
      (rxFinReceived slot.socket = true → client = []) →
      Turn sys alloc client incoming handle slot next handle' →
      Move sys (.acceptNext alloc client incoming) (next.turned processed rest handle')
  | serviceCommands (order processed : List SocketHandle) : sys.phase = .accepting processed [] →
      order.Perm sys.actor.conns.keys → Move sys (.serviceCommands order) { sys with phase := .servicing order }
  | serve (action : SystemAction σ) (a : SessionAction σ) (phase : Phase) (handle : SocketHandle)
      (conn : ConnState) (task : Task σ) (t : Session σ) : Serves sys.phase action handle a phase →
      sys.actor.conns.lookup handle = some conn → sys.tasks.lookup conn.cmdRx.chan = some task →
      (sys.session task).step a = some t → Move sys action { sys.put task t with phase := phase }
  | serviceDone : sys.phase = .servicing [] → Move sys .serviceDone { sys with phase := .egress }
  | egress (change : SocketHandle → σ → σ) : sys.phase = .egress → sys.CanArrive change (fun _ => []) →
      Move sys (.egress change) { sys.polled change (fun _ => []) with phase := .waiting }
  | wake : sys.phase = .waiting → Move sys .wake { sys with phase := .poll }
  | stopRecv : sys.phase = .waiting → (sys.stop.tryRecv.isSome = true ∨ sys.handleGone = true) →
      Move sys .stopRecv sys.dropActor
  | dispatch (vconn : VConn) (m : ConnMeta) (rest : List (VConn × ConnMeta)) (task : Task σ) :
      sys.actor.accepted = (vconn, m) :: rest → sys.tasks.lookup vconn.cmd = some task →
      Move sys .dispatch { sys with
        actor := { sys.actor with accepted := rest }.record [.dialled vconn m vconn.destination]
        tasks := sys.tasks.insert vconn.cmd { task with started := true } }
  | dispatcherEnd : sys.phase = .stopped → sys.actor.accepted = [] → sys.actor.acceptedClosed = false →
      Move sys .dispatcherEnd { sys with actor := { sys.actor with acceptedClosed := true } }
  | relay (chan : ChanId) (a : SessionAction σ) (task : Task σ) (t : Session σ) :
      sys.tasks.lookup chan = some task → task.started = true → a.isRelay = true →
      (sys.session task).step a = some t → Move sys (.relay chan a) (sys.put task t)
  | stopGone : sys.handleGone = false → sys.stop.closed = true → Move sys .stopSend sys
  | stopSend (stop : Channel Unit) : sys.handleGone = false → sys.stop.closed = false →
      sys.stop.trySend () = some stop → Move sys .stopSend { sys with stop := stop }
  | handleDrop : sys.handleGone = false → Move sys .handleDrop { sys with handleGone := true }

variable {sys sys' : System σ}

theorem poll_eq_some {change : SocketHandle → σ → σ} {arrived : ChanId → List UInt8}
    (h : sys.poll change arrived = some sys') : sys.CanArrive change arrived ∧ sys' = sys.polled change arrived := by
  unfold poll at h
  split at h
  · rename_i hall
    cases h
    refine ⟨fun chan task htask hentry => ?_, rfl⟩
    have hmem := List.all_eq_true.mp hall ⟨chan, task⟩ (List.of_mem_dlookup htask)
    simp only [Bool.or_eq_true, Option.isNone_iff_eq_none] at hmem
    rcases hmem with hnone | hsome
    · rw [hnone] at hentry
      cases hentry
    · exact Option.isSome_iff_exists.mp hsome
  · cases h

theorem serve_move {action : SystemAction σ} {a : SessionAction σ} {phase : Phase} {handle : SocketHandle}
    (hphase : Serves sys.phase action handle a phase) (h : sys.serve handle a phase = some sys') :
    Move sys action sys' := by
  obtain ⟨conn, hconn, h⟩ := Option.bind_eq_some_iff.mp h
  obtain ⟨task, htask, h⟩ := Option.bind_eq_some_iff.mp h
  obtain ⟨t, ht, h⟩ := Option.bind_eq_some_iff.mp h
  cases h
  exact .serve action a phase handle conn task t hphase hconn htask ht

theorem handOverTo_turn [LawfulTcpSocket σ] {alloc : Alloc σ} {client incoming : List UInt8}
    {handle handle' : SocketHandle} {slot : Slot σ} {a : NetstackActor σ}
    (hslot : sys.actor.sockets.lookup handle = some slot)
    (h : NetstackActor.acceptSlot alloc sys.actor handle = some (a, handle')) :
    Turn sys alloc client incoming handle slot (sys.handOverTo a handle client incoming) handle' := by
  cases NetstackActor.acceptStep_of_acceptSlot h with
  | waits slot' hslot' hwaits =>
      cases hslot.symm.trans hslot'
      rw [handOverTo, List.drop_length]
      exact .waits hwaits
  | handedOver slot' loc remote listener hslot' hready hroom hnew =>
      cases hslot.symm.trans hslot'
      have hdrop : ((sys.actor.handOver handle slot ⟨NetstackActor.connMeta loc remote, sys.actor.nextChan⟩).add
          (alloc sys.actor.sockets) listener).accepted.drop sys.actor.accepted.length =
          [(⟨NetstackActor.connMeta loc remote, sys.actor.nextChan⟩, NetstackActor.connMeta loc remote)] :=
        List.drop_left
      rw [handOverTo, hdrop, hslot]
      exact .handedOver loc remote listener hready hroom hnew
  | refused slot' listener hslot' hwaits hroom hnew =>
      cases hslot.symm.trans hslot'
      have hdrop : ((sys.actor.remove handle { slot with socket := abort slot.socket }).add
          (alloc (sys.actor.sockets.erase handle)) listener).accepted.drop sys.actor.accepted.length = [] :=
        List.drop_length
      rw [handOverTo, hdrop]
      exact .refused listener hwaits hroom hnew

theorem acceptNext_move [LawfulTcpSocket σ] {alloc : Alloc σ} {client incoming : List UInt8}
    (h : sys.acceptNext alloc client incoming = some sys') : Move sys (.acceptNext alloc client incoming) sys' := by
  unfold acceptNext at h
  split at h
  · rename_i processed handle rest hphase
    obtain ⟨slot, hslot, h⟩ := Option.bind_eq_some_iff.mp h
    obtain ⟨_, hguard, h⟩ := Option.bind_eq_some_iff.mp h
    obtain ⟨⟨a, handle'⟩, haccept, h⟩ := Option.bind_eq_some_iff.mp h
    cases h
    have hfin : (!rxFinReceived slot.socket || client.isEmpty) = true := by
      by_contra hnot
      rw [guard, if_neg hnot] at hguard
      cases hguard
    refine .acceptNext alloc client incoming processed rest handle handle' slot _ hphase hslot ?_
      (handOverTo_turn hslot haccept)
    intro h
    simpa [h] using hfin
  · cases h

theorem dispatch_move (h : sys.dispatch = some sys') : Move sys .dispatch sys' := by
  unfold dispatch at h
  split at h
  · cases h
  · rename_i vconn m rest haccepted
    obtain ⟨task, htask, h⟩ := Option.bind_eq_some_iff.mp h
    cases h
    rw [NetstackActor.dispatcher, haccepted]
    exact .dispatch vconn m rest task haccepted htask

theorem relay_move {chan : ChanId} {a : SessionAction σ} (h : sys.relay chan a = some sys') :
    Move sys (.relay chan a) sys' := by
  obtain ⟨task, htask, h⟩ := Option.bind_eq_some_iff.mp h
  obtain ⟨_, hguard, h⟩ := Option.bind_eq_some_iff.mp h
  obtain ⟨t, ht, h⟩ := Option.bind_eq_some_iff.mp h
  cases h
  have hboth : (task.started && a.isRelay) = true := by
    by_contra hnot
    rw [guard, if_neg hnot] at hguard
    cases hguard
  obtain ⟨hstarted, hrelay⟩ := Bool.and_eq_true_iff.mp hboth
  exact .relay chan a task t htask hstarted hrelay ht

theorem step_move [LawfulTcpSocket σ] {action : SystemAction σ} (h : sys.step action = some sys') : Move sys action sys' := by
  cases action with
  | poll change arrived =>
      simp only [step] at h
      split at h
      · rename_i hphase
        obtain ⟨_, hpoll, rfl⟩ := Option.map_eq_some_iff.mp h
        obtain ⟨harrive, rfl⟩ := poll_eq_some hpoll
        exact .poll change arrived hphase harrive
      · cases h
  | acceptNext alloc client incoming => exact acceptNext_move h
  | serviceCommands order =>
      simp only [step] at h
      split at h
      · rename_i processed hphase
        split at h
        · rename_i horder
          cases h
          exact .serviceCommands order processed hphase horder
        · cases h
      · cases h
  | entryBegin =>
      simp only [step] at h
      split at h
      · rename_i handle rest hphase
        exact serve_move (hphase ▸ .first handle rest) h
      · cases h
  | entryNext =>
      simp only [step] at h
      split at h
      · rename_i handle rest hphase
        exact serve_move (hphase ▸ .next handle rest) h
      · cases h
  | entryEnd =>
      simp only [step] at h
      split at h
      · rename_i handle rest hphase
        exact serve_move (hphase ▸ .last handle rest) h
      · cases h
  | serviceDone =>
      simp only [step] at h
      split at h
      · rename_i hphase
        cases h
        exact .serviceDone hphase
      · cases h
  | egress change =>
      simp only [step] at h
      split at h
      · rename_i hphase
        obtain ⟨_, hpoll, rfl⟩ := Option.map_eq_some_iff.mp h
        obtain ⟨harrive, rfl⟩ := poll_eq_some hpoll
        exact .egress change hphase harrive
      · cases h
  | wake =>
      simp only [step] at h
      split at h
      · rename_i hphase
        cases h
        exact .wake hphase
      · cases h
  | stopRecv =>
      simp only [step] at h
      split at h
      · rename_i hphase
        split at h
        · rename_i hstop
          cases h
          exact .stopRecv hphase (Bool.or_eq_true_iff.mp hstop)
        · cases h
      · cases h
  | dispatch => exact dispatch_move h
  | dispatcherEnd =>
      simp only [step] at h
      split at h
      · rename_i hphase haccepted hclosed
        cases h
        exact .dispatcherEnd hphase haccepted hclosed
      · cases h
  | relay chan a => exact relay_move h
  | stopSend =>
      simp only [step] at h
      split at h
      · cases h
      · rename_i hgone
        split at h
        · rename_i hclosed
          cases h
          exact .stopGone (Bool.not_eq_true _ ▸ hgone) hclosed
        · rename_i hopen
          obtain ⟨stop, hsend, rfl⟩ := Option.map_eq_some_iff.mp h
          exact .stopSend stop (Bool.not_eq_true _ ▸ hgone) (Bool.not_eq_true _ ▸ hopen) hsend
  | handleDrop =>
      simp only [step] at h
      split at h
      · cases h
      · rename_i hgone
        cases h
        exact .handleDrop (Bool.not_eq_true _ ▸ hgone)

end System

end SmoltcpSocks
