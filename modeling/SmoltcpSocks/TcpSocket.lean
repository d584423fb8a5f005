import Mathlib.Data.List.Basic

/-! The part of smoltcp's `tcp::Socket` that the actor calls. smoltcp is a dependency: its socket is
a type parameter, `TcpSocket` names the operations the actor uses, and `LawfulTcpSocket` states the
documented behaviour the actor relies on. `Traced` runs the same code on a socket that also records
the calls made on it, and `BufferedSocket` is a socket with exactly the documented behaviour. -/

namespace SmoltcpSocks

/-- `std::net::IpAddr` (and smoltcp's `IpAddress`) by its octets. -/
inductive IpAddr where
  | v4 (octets : Vector UInt8 4)
  | v6 (octets : Vector UInt8 16)
  deriving DecidableEq

/-- The IPv4 address `a.b.c.d`. -/
def IpAddr.ofOctets (a b c d : UInt8) : IpAddr := .v4 #v[a, b, c, d]

structure SocketAddr where
  ip : IpAddr
  port : UInt16
  deriving DecidableEq

structure IpEndpoint where
  addr : IpAddr
  port : UInt16
  deriving DecidableEq

/-- smoltcp's `IpListenEndpoint`: no address accepts every address, no port every port. -/
structure IpListenEndpoint where
  addr : Option IpAddr
  port : Option UInt16
  deriving DecidableEq

def IpListenEndpoint.anyPort : IpListenEndpoint := ⟨none, none⟩

inductive State where
  | closed | listen | synSent | synReceived | established | finWait1 | finWait2 | closeWait
  | closing | lastAck | timeWait
  deriving DecidableEq

inductive RecvError where
  | invalidState | finished
  deriving DecidableEq

inductive SendError where
  | invalidState
  deriving DecidableEq

inductive ListenError where
  | invalidState | unaddressable
  deriving DecidableEq

/-- The socket operations the actor uses. `rxBuffer`, `rxFinReceived`, `txBuffer` and `txCapacity`
are not calls of the actor; they are the observable contents the operations are documented by.
`recvSlice` takes the length of the caller's slice and gives the bytes copied into it. -/
class TcpSocket (σ : Type) where
  state : σ → State
  localEndpoint : σ → Option IpEndpoint
  remoteEndpoint : σ → Option IpEndpoint
  rxBuffer : σ → List UInt8
  rxFinReceived : σ → Bool
  txBuffer : σ → List UInt8
  txCapacity : σ → Nat
  mayRecv : σ → Bool
  canRecv : σ → Bool
  maySend : σ → Bool
  canSend : σ → Bool
  recvQueue : σ → Nat
  recvSlice : σ → Nat → Except RecvError (List UInt8) × σ
  sendSlice : σ → List UInt8 → Except SendError Nat × σ
  close : σ → σ
  abort : σ → σ
  newTcpSocket : Nat → Nat → σ
  listen : σ → IpListenEndpoint → Except ListenError σ

open TcpSocket

/-- What `close()` makes of the state of a socket. -/
def State.afterClose : State → State
  | .listen | .synSent => .closed
  | .synReceived | .established => .finWait1
  | .closeWait => .lastAck
  | state => state

/-- The documented behaviour of a smoltcp socket. -/
class LawfulTcpSocket (σ : Type) [TcpSocket σ] : Prop where
  mayRecv_iff (s : σ) : mayRecv s = true ↔
    state s = .established ∨ state s = .finWait1 ∨ state s = .finWait2 ∨ rxBuffer s ≠ []
  canRecv_iff (s : σ) : canRecv s = true ↔ mayRecv s = true ∧ rxBuffer s ≠ []
  maySend_iff (s : σ) : maySend s = true ↔ state s = .established ∨ state s = .closeWait
  canSend_iff (s : σ) : canSend s = true ↔ maySend s = true ∧ (txBuffer s).length < txCapacity s
  recvQueue_eq (s : σ) : recvQueue s = (rxBuffer s).length
  /-- `recv_slice` fails exactly when nothing can be received any more, and then tells the end of the
  stream from an abort by the FIN. -/
  recvSlice_fst (s : σ) (n : Nat) : (recvSlice s n).1 =
    if mayRecv s then .ok ((rxBuffer s).take n)
    else if rxFinReceived s then .error .finished else .error .invalidState
  rxBuffer_recvSlice (s : σ) (n : Nat) : rxBuffer (recvSlice s n).2 = (rxBuffer s).drop n
  rxFinReceived_recvSlice (s : σ) (n : Nat) : rxFinReceived (recvSlice s n).2 = rxFinReceived s
  txBuffer_recvSlice (s : σ) (n : Nat) : txBuffer (recvSlice s n).2 = txBuffer s
  txCapacity_recvSlice (s : σ) (n : Nat) : txCapacity (recvSlice s n).2 = txCapacity s
  state_recvSlice (s : σ) (n : Nat) : state (recvSlice s n).2 = state s
  remoteEndpoint_recvSlice (s : σ) (n : Nat) : remoteEndpoint (recvSlice s n).2 = remoteEndpoint s
  /-- `send_slice` enqueues the longest prefix that fits and fails exactly when `may_send` is
  false. -/
  sendSlice_fst (s : σ) (data : List UInt8) : (sendSlice s data).1 =
    if maySend s then .ok (min data.length (txCapacity s - (txBuffer s).length))
    else .error .invalidState
  txBuffer_sendSlice (s : σ) (data : List UInt8) : txBuffer (sendSlice s data).2 =
    if maySend s then txBuffer s ++ data.take (txCapacity s - (txBuffer s).length) else txBuffer s
  rxBuffer_sendSlice (s : σ) (data : List UInt8) : rxBuffer (sendSlice s data).2 = rxBuffer s
  rxFinReceived_sendSlice (s : σ) (data : List UInt8) :
    rxFinReceived (sendSlice s data).2 = rxFinReceived s
  txCapacity_sendSlice (s : σ) (data : List UInt8) : txCapacity (sendSlice s data).2 = txCapacity s
  state_sendSlice (s : σ) (data : List UInt8) : state (sendSlice s data).2 = state s
  remoteEndpoint_sendSlice (s : σ) (data : List UInt8) :
    remoteEndpoint (sendSlice s data).2 = remoteEndpoint s
  state_close (s : σ) : state (close s) = (state s).afterClose
  rxBuffer_close (s : σ) : rxBuffer (close s) = rxBuffer s
  rxFinReceived_close (s : σ) : rxFinReceived (close s) = rxFinReceived s
  txBuffer_close (s : σ) : txBuffer (close s) = txBuffer s
  txCapacity_close (s : σ) : txCapacity (close s) = txCapacity s
  remoteEndpoint_close (s : σ) : remoteEndpoint (close s) = remoteEndpoint s
  /-- `abort()` only marks the socket; the reset goes out with the next poll. -/
  state_abort (s : σ) : state (abort s) = .closed
  rxBuffer_abort (s : σ) : rxBuffer (abort s) = rxBuffer s
  rxFinReceived_abort (s : σ) : rxFinReceived (abort s) = rxFinReceived s
  txBuffer_abort (s : σ) : txBuffer (abort s) = txBuffer s
  txCapacity_abort (s : σ) : txCapacity (abort s) = txCapacity s
  remoteEndpoint_abort (s : σ) : remoteEndpoint (abort s) = remoteEndpoint s
  /-- A fresh socket can listen on any port. -/
  listen_newTcpSocket (rx tx : Nat) : ∃ s : σ,
    listen (newTcpSocket rx tx) .anyPort = .ok s ∧ state s = .listen

export LawfulTcpSocket (mayRecv_iff canRecv_iff maySend_iff canSend_iff recvQueue_eq recvSlice_fst
  rxBuffer_recvSlice rxFinReceived_recvSlice txBuffer_recvSlice txCapacity_recvSlice state_recvSlice
  remoteEndpoint_recvSlice sendSlice_fst txBuffer_sendSlice rxBuffer_sendSlice
  rxFinReceived_sendSlice txCapacity_sendSlice state_sendSlice remoteEndpoint_sendSlice state_close
  rxBuffer_close rxFinReceived_close txBuffer_close txCapacity_close remoteEndpoint_close
  state_abort rxBuffer_abort rxFinReceived_abort txBuffer_abort txCapacity_abort
  remoteEndpoint_abort listen_newTcpSocket)

attribute [simp] rxBuffer_recvSlice rxFinReceived_recvSlice txBuffer_recvSlice txCapacity_recvSlice
  state_recvSlice remoteEndpoint_recvSlice rxBuffer_sendSlice rxFinReceived_sendSlice
  txCapacity_sendSlice state_sendSlice remoteEndpoint_sendSlice state_close rxBuffer_close
  rxFinReceived_close txBuffer_close txCapacity_close remoteEndpoint_close state_abort rxBuffer_abort
  rxFinReceived_abort txBuffer_abort txCapacity_abort remoteEndpoint_abort

section Laws

variable {σ : Type} [TcpSocket σ] [LawfulTcpSocket σ]

theorem maySend_congr {s t : σ} (h : state s = state t) : maySend s = maySend t := by
  rw [Bool.eq_iff_iff, maySend_iff, maySend_iff, h]

theorem canRecv_eq_false {s : σ} (h : rxBuffer s = []) : canRecv s = false := by
  rw [Bool.eq_false_iff, ne_eq, canRecv_iff]
  exact fun hcan => hcan.2 h

theorem canSend_eq_false {s : σ} (h : txCapacity s ≤ (txBuffer s).length) : canSend s = false := by
  rw [Bool.eq_false_iff, ne_eq, canSend_iff]
  exact fun hcan => Nat.not_lt.mpr h hcan.2

theorem take_recvQueue (s : σ) (n : Nat) : (rxBuffer s).take (min n (recvQueue s)) = (rxBuffer s).take n := by
  rw [recvQueue_eq, ← List.take_take, List.take_length]

@[simp] theorem maySend_close (s : σ) : maySend (close s) = false := by
  rw [Bool.eq_false_iff, ne_eq, maySend_iff, state_close]
  cases state s <;> simp [State.afterClose]

@[simp] theorem maySend_abort (s : σ) : maySend (abort s) = false := by
  rw [Bool.eq_false_iff, ne_eq, maySend_iff, state_abort]
  simp

end Laws

/-- A call on a socket as an observer sees it: the bytes handed out or accepted, an abort with what
it discards and the peer it would have to inform, and the polls that visit the socket. -/
inductive SocketCall where
  | recv (data : List UInt8)
  | send (data : List UInt8)
  | close
  | abort (pending : List UInt8) (remote : Option IpEndpoint)
  | polled
  deriving DecidableEq

def SocketCall.sent : SocketCall → List UInt8
  | .send data => data
  | _ => []

/-- A socket together with the calls made on it, oldest first. -/
structure Traced (σ : Type) where
  socket : σ
  calls : List SocketCall
  deriving DecidableEq

namespace Traced

variable {σ : Type} [TcpSocket σ]

def sent (s : Traced σ) : List UInt8 := s.calls.flatMap SocketCall.sent

/-- The socket after a poll that left it as `socket`. -/
def poll (s : Traced σ) (socket : σ) : Traced σ := ⟨socket, s.calls ++ [.polled]⟩

instance : TcpSocket (Traced σ) where
  state s := state s.socket
  localEndpoint s := localEndpoint s.socket
  remoteEndpoint s := remoteEndpoint s.socket
  rxBuffer s := rxBuffer s.socket
  rxFinReceived s := rxFinReceived s.socket
  txBuffer s := txBuffer s.socket
  txCapacity s := txCapacity s.socket
  mayRecv s := mayRecv s.socket
  canRecv s := canRecv s.socket
  maySend s := maySend s.socket
  canSend s := canSend s.socket
  recvQueue s := recvQueue s.socket
  recvSlice s n := match recvSlice s.socket n with
    | (.ok data, socket) => (.ok data, ⟨socket, s.calls ++ [.recv data]⟩)
    | (.error e, socket) => (.error e, ⟨socket, s.calls⟩)
  sendSlice s data := match sendSlice s.socket data with
    | (.ok n, socket) => (.ok n, ⟨socket, s.calls ++ [.send (data.take n)]⟩)
    | (.error e, socket) => (.error e, ⟨socket, s.calls⟩)
  close s := ⟨TcpSocket.close s.socket, s.calls ++ [.close]⟩
  abort s := ⟨TcpSocket.abort s.socket,
    s.calls ++ [.abort (txBuffer s.socket) (remoteEndpoint s.socket)]⟩
  newTcpSocket rx tx := ⟨newTcpSocket rx tx, []⟩
  listen s endpoint := (TcpSocket.listen s.socket endpoint).map (⟨·, s.calls⟩)

/-- Recording the calls changes nothing the code can see. -/
theorem recvSlice_forget (s : Traced σ) (n : Nat) :
    (recvSlice s n).1 = (recvSlice s.socket n).1 ∧
      (recvSlice s n).2.socket = (recvSlice s.socket n).2 := by
  rcases h : recvSlice s.socket n with ⟨e | data, socket⟩ <;> simp [recvSlice, h]

theorem sendSlice_forget (s : Traced σ) (data : List UInt8) :
    (sendSlice s data).1 = (sendSlice s.socket data).1 ∧
      (sendSlice s data).2.socket = (sendSlice s.socket data).2 := by
  rcases h : sendSlice s.socket data with ⟨e | n, socket⟩ <;> simp [sendSlice, h]

variable [LawfulTcpSocket σ]

instance : LawfulTcpSocket (Traced σ) where
  mayRecv_iff s := mayRecv_iff s.socket
  canRecv_iff s := canRecv_iff s.socket
  maySend_iff s := maySend_iff s.socket
  canSend_iff s := canSend_iff s.socket
  recvQueue_eq s := recvQueue_eq s.socket
  recvSlice_fst s n := (recvSlice_forget s n).1.trans (recvSlice_fst s.socket n)
  rxBuffer_recvSlice s n := by
    calc rxBuffer (recvSlice s n).2 = rxBuffer (recvSlice s.socket n).2 := congrArg rxBuffer (recvSlice_forget s n).2
      _ = _ := rxBuffer_recvSlice s.socket n
  rxFinReceived_recvSlice s n := by
    calc rxFinReceived (recvSlice s n).2 = rxFinReceived (recvSlice s.socket n).2 := congrArg rxFinReceived (recvSlice_forget s n).2
      _ = _ := rxFinReceived_recvSlice s.socket n
  txBuffer_recvSlice s n := by
    calc txBuffer (recvSlice s n).2 = txBuffer (recvSlice s.socket n).2 := congrArg txBuffer (recvSlice_forget s n).2
      _ = _ := txBuffer_recvSlice s.socket n
  txCapacity_recvSlice s n := by
    calc txCapacity (recvSlice s n).2 = txCapacity (recvSlice s.socket n).2 := congrArg txCapacity (recvSlice_forget s n).2
      _ = _ := txCapacity_recvSlice s.socket n
  state_recvSlice s n := by
    calc state (recvSlice s n).2 = state (recvSlice s.socket n).2 := congrArg state (recvSlice_forget s n).2
      _ = _ := state_recvSlice s.socket n
  remoteEndpoint_recvSlice s n := by
    calc remoteEndpoint (recvSlice s n).2 = remoteEndpoint (recvSlice s.socket n).2 := congrArg remoteEndpoint (recvSlice_forget s n).2
      _ = _ := remoteEndpoint_recvSlice s.socket n
  sendSlice_fst s data := (sendSlice_forget s data).1.trans (sendSlice_fst s.socket data)
  rxBuffer_sendSlice s data := by
    calc rxBuffer (sendSlice s data).2 = rxBuffer (sendSlice s.socket data).2 :=
          congrArg rxBuffer (sendSlice_forget s data).2
      _ = _ := rxBuffer_sendSlice s.socket data
  rxFinReceived_sendSlice s data := by
    calc rxFinReceived (sendSlice s data).2 = rxFinReceived (sendSlice s.socket data).2 :=
          congrArg rxFinReceived (sendSlice_forget s data).2
      _ = _ := rxFinReceived_sendSlice s.socket data
  txBuffer_sendSlice s data := by
    calc txBuffer (sendSlice s data).2 = txBuffer (sendSlice s.socket data).2 :=
          congrArg txBuffer (sendSlice_forget s data).2
      _ = _ := txBuffer_sendSlice s.socket data
  txCapacity_sendSlice s data := by
    calc txCapacity (sendSlice s data).2 = txCapacity (sendSlice s.socket data).2 :=
          congrArg txCapacity (sendSlice_forget s data).2
      _ = _ := txCapacity_sendSlice s.socket data
  state_sendSlice s data := by
    calc state (sendSlice s data).2 = state (sendSlice s.socket data).2 :=
          congrArg state (sendSlice_forget s data).2
      _ = _ := state_sendSlice s.socket data
  remoteEndpoint_sendSlice s data := by
    calc remoteEndpoint (sendSlice s data).2 = remoteEndpoint (sendSlice s.socket data).2 :=
          congrArg remoteEndpoint (sendSlice_forget s data).2
      _ = _ := remoteEndpoint_sendSlice s.socket data
  state_close s := state_close s.socket
  rxBuffer_close s := rxBuffer_close s.socket
  rxFinReceived_close s := rxFinReceived_close s.socket
  txBuffer_close s := txBuffer_close s.socket
  txCapacity_close s := txCapacity_close s.socket
  remoteEndpoint_close s := remoteEndpoint_close s.socket
  state_abort s := state_abort s.socket
  rxBuffer_abort s := rxBuffer_abort s.socket
  rxFinReceived_abort s := rxFinReceived_abort s.socket
  txBuffer_abort s := txBuffer_abort s.socket
  txCapacity_abort s := txCapacity_abort s.socket
  remoteEndpoint_abort s := remoteEndpoint_abort s.socket
  listen_newTcpSocket rx tx := by
    obtain ⟨s, hlisten, hstate⟩ := listen_newTcpSocket (σ := σ) rx tx
    refine ⟨⟨s, []⟩, ?_, hstate⟩
    change (TcpSocket.listen (newTcpSocket rx tx : σ) .anyPort).map _ = _
    rw [hlisten]
    rfl

/-- An accepted `send_slice` adds what fits to the bytes sent. -/
theorem sent_sendSlice (s : Traced σ) (data : List UInt8) (hmay : maySend s = true) :
    (sendSlice s data).2.sent =
      s.sent ++ data.take (min data.length (txCapacity s - (txBuffer s).length)) := by
  have hfst := sendSlice_fst s.socket data
  rw [show maySend s.socket = true from hmay, if_pos rfl] at hfst
  rcases h : sendSlice s.socket data with ⟨e | n, socket⟩
  · rw [h] at hfst
    cases hfst
  · rw [h] at hfst
    cases hfst
    simp [sendSlice, h, sent, SocketCall.sent, txCapacity, txBuffer]

theorem calls_sendSlice_of_not_maySend (s : Traced σ) (data : List UInt8) (hmay : maySend s = false) :
    (sendSlice s data).2.calls = s.calls := by
  have hfst := sendSlice_fst s.socket data
  rw [show maySend s.socket = false from hmay] at hfst
  rcases h : sendSlice s.socket data with ⟨e | n, socket⟩
  · simp [sendSlice, h]
  · rw [h] at hfst
    cases hfst

/-- A `recv_slice` is recorded with what it gave, at most the length of the slice. -/
theorem calls_recvSlice (s : Traced σ) (n : Nat) :
    (recvSlice s n).2.calls = s.calls ∨
      ∃ data, (recvSlice s n).2.calls = s.calls ++ [.recv data] ∧ data.length ≤ n := by
  have hfst := recvSlice_fst s.socket n
  rcases hrecv : recvSlice s.socket n with ⟨e | data, socket⟩
  · left
    simp [recvSlice, hrecv]
  · rw [hrecv] at hfst
    have hdata : data = (rxBuffer s.socket).take n := by
      simp only at hfst
      split at hfst
      · cases hfst
        rfl
      · split at hfst <;> cases hfst
    exact Or.inr ⟨data, by simp [recvSlice, hrecv], hdata ▸ List.length_take_le _ _⟩

omit [LawfulTcpSocket σ] in
theorem calls_sendSlice (s : Traced σ) (data : List UInt8) :
    (sendSlice s data).2.calls = s.calls ∨
      ∃ n, (sendSlice s data).2.calls = s.calls ++ [.send (data.take n)] := by
  rcases hsend : sendSlice s.socket data with ⟨e | n, socket⟩
  · left
    simp [sendSlice, hsend]
  · exact Or.inr ⟨n, by simp [sendSlice, hsend]⟩

end Traced

/-- A socket that is its documented contents. -/
structure BufferedSocket where
  state : State
  localEndpoint : Option IpEndpoint
  remoteEndpoint : Option IpEndpoint
  rxBuffer : List UInt8
  rxFinReceived : Bool
  txBuffer : List UInt8
  txCapacity : Nat
  deriving DecidableEq

namespace BufferedSocket

/-- Something can still be received: the state allows it or data is buffered. -/
def mayRecv (s : BufferedSocket) : Bool :=
  s.state = .established || s.state = .finWait1 || s.state = .finWait2 || !s.rxBuffer.isEmpty

def maySend (s : BufferedSocket) : Bool := s.state = .established || s.state = .closeWait

instance : TcpSocket BufferedSocket where
  state := state
  localEndpoint := localEndpoint
  remoteEndpoint := remoteEndpoint
  rxBuffer := rxBuffer
  rxFinReceived := rxFinReceived
  txBuffer := txBuffer
  txCapacity := txCapacity
  mayRecv := mayRecv
  canRecv s := s.mayRecv && !s.rxBuffer.isEmpty
  maySend := maySend
  canSend s := s.maySend && decide (s.txBuffer.length < s.txCapacity)
  recvQueue s := s.rxBuffer.length
  recvSlice s n :=
    if s.mayRecv then (.ok (s.rxBuffer.take n), { s with rxBuffer := s.rxBuffer.drop n })
    else if s.rxFinReceived then (.error .finished, s) else (.error .invalidState, s)
  sendSlice s data :=
    if s.maySend then
      (.ok (min data.length (s.txCapacity - s.txBuffer.length)),
        { s with txBuffer := s.txBuffer ++ data.take (s.txCapacity - s.txBuffer.length) })
    else (.error .invalidState, s)
  close s := { s with state := s.state.afterClose }
  abort s := { s with state := .closed }
  newTcpSocket _ tx := ⟨.closed, none, none, [], false, [], tx⟩
  listen s _ := if s.state = .closed then .ok { s with state := .listen } else .error .invalidState

theorem rxBuffer_eq_nil {s : BufferedSocket} (h : s.mayRecv = false) : s.rxBuffer = [] := by
  simp only [mayRecv, Bool.or_eq_false_iff, Bool.not_eq_false', List.isEmpty_iff] at h
  exact h.2

instance : LawfulTcpSocket BufferedSocket where
  mayRecv_iff s := by simp [TcpSocket.mayRecv, mayRecv, TcpSocket.state, TcpSocket.rxBuffer, or_assoc]
  canRecv_iff s := by simp [TcpSocket.canRecv, TcpSocket.mayRecv, TcpSocket.rxBuffer]
  maySend_iff s := by simp [TcpSocket.maySend, maySend, TcpSocket.state]
  canSend_iff s := by
    simp [TcpSocket.canSend, TcpSocket.maySend, TcpSocket.txBuffer, TcpSocket.txCapacity]
  recvQueue_eq s := rfl
  recvSlice_fst s n := by
    simp only [TcpSocket.recvSlice, TcpSocket.mayRecv, TcpSocket.rxFinReceived]
    split_ifs <;> rfl
  rxBuffer_recvSlice s n := by
    simp only [TcpSocket.recvSlice, TcpSocket.rxBuffer]
    split_ifs with hmay hfin
    · rfl
    · simp [rxBuffer_eq_nil (by simpa using hmay)]
    · simp [rxBuffer_eq_nil (by simpa using hmay)]
  rxFinReceived_recvSlice s n := by simp only [TcpSocket.recvSlice]; split_ifs <;> rfl
  txBuffer_recvSlice s n := by simp only [TcpSocket.recvSlice]; split_ifs <;> rfl
  txCapacity_recvSlice s n := by simp only [TcpSocket.recvSlice]; split_ifs <;> rfl
  state_recvSlice s n := by simp only [TcpSocket.recvSlice]; split_ifs <;> rfl
  remoteEndpoint_recvSlice s n := by simp only [TcpSocket.recvSlice]; split_ifs <;> rfl
  sendSlice_fst s data := by
    simp only [TcpSocket.sendSlice, TcpSocket.maySend]
    split_ifs <;> rfl
  txBuffer_sendSlice s data := by
    simp only [TcpSocket.sendSlice, TcpSocket.maySend]
    split_ifs <;> rfl
  rxBuffer_sendSlice s data := by simp only [TcpSocket.sendSlice]; split_ifs <;> rfl
  rxFinReceived_sendSlice s data := by simp only [TcpSocket.sendSlice]; split_ifs <;> rfl
  txCapacity_sendSlice s data := by simp only [TcpSocket.sendSlice]; split_ifs <;> rfl
  state_sendSlice s data := by simp only [TcpSocket.sendSlice]; split_ifs <;> rfl
  remoteEndpoint_sendSlice s data := by simp only [TcpSocket.sendSlice]; split_ifs <;> rfl
  state_close s := rfl
  rxBuffer_close s := rfl
  rxFinReceived_close s := rfl
  txBuffer_close s := rfl
  txCapacity_close s := rfl
  remoteEndpoint_close s := rfl
  state_abort s := rfl
  rxBuffer_abort s := rfl
  rxFinReceived_abort s := rfl
  txBuffer_abort s := rfl
  txCapacity_abort s := rfl
  remoteEndpoint_abort s := rfl
  listen_newTcpSocket rx tx := ⟨_, rfl, rfl⟩

end BufferedSocket

end SmoltcpSocks
