import SmoltcpSocks.TcpSocket

/-! The virtual connection of `netstack/vconn.rs`: the commands a relay sends to the actor, the
answers it gets back, and the two ends of the command channel. A oneshot reply channel is known by
a number; each of the four commands has its own type of reply and so its own oneshot channels. -/

namespace SmoltcpSocks

abbrev ReplyId := Nat

abbrev ChanId := Nat

/-- `std::io::ErrorKind`; only `WouldBlock` is named by the code. -/
inductive ErrorKind where
  | wouldBlock | other
  deriving DecidableEq

structure IoError where
  kind : ErrorKind
  message : String
  deriving DecidableEq

inductive VConnError where
  | closed
  | reset
  | actorGone
  | io (e : IoError)
  deriving DecidableEq

/-- The original-destination metadata of a connection: where the client connected from and to. -/
structure ConnMeta where
  src : SocketAddr
  dst : SocketAddr
  deriving DecidableEq

/-- Requests the relay sends to the actor. -/
inductive ConnCmd where
  | read (maxLen : Nat) (reply : ReplyId)
  | write (data : List UInt8) (reply : ReplyId)
  | closeWrite (reply : ReplyId)
  | close (reply : ReplyId)
  deriving DecidableEq

namespace ConnCmd

def asRead : ConnCmd → Option (Nat × ReplyId)
  | .read maxLen reply => some (maxLen, reply)
  | _ => none

def asWrite : ConnCmd → Option (List UInt8 × ReplyId)
  | .write data reply => some (data, reply)
  | _ => none

def asCloseWrite : ConnCmd → Option ReplyId
  | .closeWrite reply => some reply
  | _ => none

def asClose : ConnCmd → Option ReplyId
  | .close reply => some reply
  | _ => none

end ConnCmd

/-- The answers sent on the oneshot channels of each command, oldest first. -/
structure Answers where
  read : List (ReplyId × Except VConnError (List UInt8))
  write : List (ReplyId × Except VConnError Nat)
  closeWrite : List (ReplyId × Except VConnError Unit)
  close : List (ReplyId × Except VConnError Unit)

def Answers.none : Answers := ⟨[], [], [], []⟩

/-- Which reply receivers their callers have dropped. -/
structure Callers where
  readClosed : ReplyId → Bool
  writeClosed : ReplyId → Bool

/-- The number of commands a command channel holds (`mpsc::channel(32)`). -/
def CMD_CAPACITY : Nat := 32

/-- `mpsc::Receiver<ConnCmd>`: the queued commands and whether every sender is gone. -/
structure CmdReceiver where
  chan : ChanId
  queue : List ConnCmd
  closed : Bool
  deriving DecidableEq

namespace CmdReceiver

def isClosed (rx : CmdReceiver) : Bool := rx.closed

def isEmpty (rx : CmdReceiver) : Bool := rx.queue.isEmpty

def tryRecv (rx : CmdReceiver) : Option (ConnCmd × CmdReceiver) :=
  match rx.queue with
  | [] => none
  | cmd :: rest => some (cmd, { rx with queue := rest })

/-- `Sender::send` on the other end, once the channel has room. -/
def push (rx : CmdReceiver) (cmd : ConnCmd) : CmdReceiver := { rx with queue := rx.queue ++ [cmd] }

def close (rx : CmdReceiver) : CmdReceiver := { rx with closed := true }

end CmdReceiver

/-- `VConn`: the metadata and the sending end of a command channel. -/
structure VConn where
  connMeta : ConnMeta
  cmd : ChanId
  deriving DecidableEq

/-- The destination handed to the SOCKS5 CONNECT. -/
def VConn.destination (v : VConn) : SocketAddr := v.connMeta.dst

end SmoltcpSocks
