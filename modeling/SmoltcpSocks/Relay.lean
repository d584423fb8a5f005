import SmoltcpSocks.ServiceFlight
import SmoltcpSocks.Runs

/-! One proxied connection end to end: `relay::pipe` with its two copy loops, the actor's entry for
the connection and its socket, the client behind the socket and the upstream stream. Each loop is a
program point that moves at its `await`s; the actor's round is cut at the points where it touches the
command channel, so that relay steps may fall inside a round, as they do on a threaded runtime. -/

namespace SmoltcpSocks

open TcpSocket

def RELAY_BUF : Nat := 32 * 1024

/-- The errors of the relay functions (`anyhow::Error`). -/
inductive RelayError where
  | vconn (e : VConnError)
  | io (e : IoError)
  | dial (dst : SocketAddr) (e : IoError)
  | msg (text : String)
  deriving DecidableEq

def RelayError.wroteZero : RelayError := .msg "vconn write returned 0"

/-- Where `copy_vconn_to` stands: before and after sending a read, inside `write_all`, before the
final `flush`. -/
inductive UpPoint where
  | read
  | awaitRead (reply : ReplyId)
  | writeAll (rest : List UInt8)
  | flush
  | returned (result : Except RelayError Unit)
  deriving DecidableEq

/-- Where `copy_to_vconn` stands: at `src.read`, before and after sending a write of
`buf[written..]`, before and after sending the half-close. -/
inductive DownPoint where
  | read
  | write (buf : List UInt8) (written : Nat)
  | awaitWrite (buf : List UInt8) (written : Nat) (reply : ReplyId)
  | closeWrite
  | awaitCloseWrite (reply : ReplyId)
  | returned (result : Except RelayError Unit)
  deriving DecidableEq

/-- Where `pipe` stands: at the dial, in `join!`, before and after sending the final close. -/
inductive PipePoint where
  | dial
  | join
  | close
  | awaitClose (reply : ReplyId)
  | returned (result : Except RelayError Unit)
  deriving DecidableEq

def UpPoint.hasReturned : UpPoint → Bool
  | .returned _ => true
  | _ => false

def DownPoint.hasReturned : DownPoint → Bool
  | .returned _ => true
  | _ => false

def PipePoint.hasReturned : PipePoint → Bool
  | .returned _ => true
  | _ => false

/-- A call on the upstream writer; `drop` is the drop of the whole upstream stream. -/
inductive WriterCall where
  | write (data : List UInt8)
  | flush
  | shutdown
  | drop
  deriving DecidableEq

def WriterCall.given : WriterCall → List UInt8
  | .write data => data
  | _ => []

/-- After a read reply: an empty read ends the loop, data goes to `write_all`. -/
def UpPoint.afterRead : Except VConnError (List UInt8) → UpPoint
  | .ok [] => .flush
  | .ok data => .writeAll data
  | .error e => .returned (.error (.vconn e))

/-- After a write reply: the unwritten tail is retried. -/
def DownPoint.afterWrite (buf : List UInt8) (written : Nat) : Except VConnError Nat → DownPoint
  | .ok 0 => .returned (.error .wroteZero)
  | .ok w => if written + w < buf.length then .write buf (written + w) else .read
  | .error e => .returned (.error (.vconn e))

/-- One proxied connection. `client` is what the client has still to deliver before its FIN,
`incoming` what upstream has still to send before its end of stream, `received` what the relay has
read of it. -/
structure Session (σ : Type) where
  vconn : VConn
  socket : Traced σ
  conn : Option ConnState
  running : Bool
  serving : Bool
  answers : Answers
  nextReply : ReplyId
  pipe : PipePoint
  up : UpPoint
  down : DownPoint
  client : List UInt8
  incoming : List UInt8
  received : List UInt8
  writer : List WriterCall

/-- What can happen next to a session. -/
inductive SessionAction (σ : Type) where
  | poll (socket : σ) (arrived : List UInt8)
  | serviceBegin
  | serviceNext
  | serviceEnd
  | stop
  | connect (result : Except IoError Unit)
  | readSend
  | readRecv
  | writeSome (n : Nat)
  | writeFail (e : IoError)
  | flush
  | srcRead (n : Nat)
  | srcEof
  | srcFail (e : IoError)
  | writeSend
  | writeRecv
  | closeWriteSend
  | closeWriteRecv
  | join
  | closeSend
  | closeRecv

namespace Session

variable {σ : Type}

/-- The reads, writes, half-closes and closes of this connection that the actor holds. -/
def reads (s : Session σ) : List (Nat × ReplyId) := s.conn.elim [] ConnState.reads
def writes (s : Session σ) : List (List UInt8 × ReplyId) := s.conn.elim [] ConnState.writes
def closeWrites (s : Session σ) : List ReplyId := s.conn.elim [] ConnState.closeWrites
def closes (s : Session σ) : List ReplyId := s.conn.elim [] ConnState.closes

def given (s : Session σ) : List UInt8 := s.writer.flatMap WriterCall.given

/-- A reply receiver lives exactly while its future awaits it. -/
def callers (s : Session σ) : Callers where
  readClosed reply := match s.up with
    | .awaitRead awaited => awaited != reply
    | _ => true
  writeClosed reply := match s.down with
    | .awaitWrite _ _ awaited => awaited != reply
    | _ => true

/-- Send a command on the connection's channel: `none` while the channel is full. -/
def send (s : Session σ) (cmd : ConnCmd) : Option (Except VConnError (Session σ)) :=
  match s.conn with
  | none => some (.error .actorGone)
  | some c =>
      if c.cmdRx.queue.length < CMD_CAPACITY then
        some (.ok { s with
          conn := some { c with cmdRx := c.cmdRx.push cmd }
          nextReply := s.nextReply + 1 })
      else none

/-- The outcome of a service operation on the connection's entry. -/
def install (s : Session σ) (v : Service (Traced σ)) : Session σ :=
  { s with conn := some v.conn, socket := v.socket, answers := v.answers }

/-- The VConn and its clones are dropped. -/
def dropVConn (s : Session σ) : Session σ :=
  { s with conn := s.conn.map fun c => { c with cmdRx := c.cmdRx.close } }

variable [TcpSocket σ]

/-- The interface polls: the socket changes and the client's next bytes arrive. The FIN is behind the
last byte of the client's stream. -/
def poll (s : Session σ) (socket : σ) (arrived : List UInt8) : Option (Session σ) :=
  if s.running && !s.serving && s.conn.isSome && arrived.isPrefixOf s.client &&
      (!rxFinReceived socket || (s.client.drop arrived.length).isEmpty) then
    some { s with socket := s.socket.poll socket, client := s.client.drop arrived.length }
  else none

/-- `service` starts with `service_io`. -/
def serviceBegin (s : Session σ) : Option (Session σ) :=
  match s.conn with
  | some c =>
      if s.serving then none
      else some { s.install (Service.serviceIo s.callers ⟨c, s.socket, s.answers⟩) with serving := true }
  | none => none

def serviceNext (s : Session σ) : Option (Session σ) :=
  match s.conn with
  | some c =>
      match s.serving, c.cmdRx.tryRecv with
      | true, some (cmd, rx) =>
          some (s.install (Service.serviceCmd s.callers ⟨c, s.socket, s.answers⟩ cmd rx.queue))
      | _, _ => none
  | none => none

/-- The channel is empty: `service` returns and `service_commands` drops the entry together with its
socket if every sender is gone. -/
def serviceEnd (s : Session σ) : Option (Session σ) :=
  match s.conn with
  | some c =>
      if s.serving && c.cmdRx.isEmpty then
        if c.cmdRx.isClosed && c.cmdRx.isEmpty then
          let v := Service.failPending ⟨c, s.socket, s.answers⟩
          some { s with
            conn := none, socket := abort v.socket, answers := v.answers, serving := false }
        else some { s with serving := false }
      else none
  | none => none

/-- The actor leaves its loop; its entries and their sending ends are dropped. -/
def stop (s : Session σ) : Option (Session σ) :=
  if s.running && !s.serving then some { s with running := false, conn := none } else none

def connect (s : Session σ) (result : Except IoError Unit) : Option (Session σ) :=
  match s.pipe, result with
  | .dial, .ok () => some { s with pipe := .join }
  | .dial, .error e =>
      some { s.dropVConn with pipe := .returned (.error (.dial s.vconn.destination e)) }
  | _, _ => none

/-- `vconn.read(RELAY_BUF)` up to its reply. -/
def readSend (s : Session σ) : Option (Session σ) :=
  match s.pipe, s.up with
  | .join, .read =>
      (s.send (.read RELAY_BUF s.nextReply)).map fun
        | .ok t => { t with up := .awaitRead s.nextReply }
        | .error e => { s with up := .returned (.error (.vconn e)) }
  | _, _ => none

def readRecv (s : Session σ) : Option (Session σ) :=
  match s.up with
  | .awaitRead reply =>
      (Oneshot.await s.answers.read (s.reads.map Prod.snd) (.error .actorGone) reply).map
        fun (result, rest) => { s with
          up := .afterRead result
          answers := { s.answers with read := rest } }
  | _ => none

/-- One accepted write inside `dst.write_all(&data)`. -/
def writeSome (s : Session σ) (n : Nat) : Option (Session σ) :=
  match s.up with
  | .writeAll rest =>
      if 0 < n ∧ n ≤ rest.length then
        some { s with
          writer := s.writer ++ [.write (rest.take n)]
          up := if n < rest.length then .writeAll (rest.drop n) else .read }
      else none
  | _ => none

def writeFail (s : Session σ) (e : IoError) : Option (Session σ) :=
  match s.up with
  | .writeAll _ => some { s with up := .returned (.error (.io e)) }
  | _ => none

/-- The end of `copy_vconn_to`: it flushes the writer and returns. -/
def flush (s : Session σ) : Option (Session σ) :=
  match s.up with
  | .flush => some { s with writer := s.writer ++ [.flush], up := .returned (.ok ()) }
  | _ => none

/-- `src.read(&mut buf)` returns `n > 0` bytes. -/
def srcRead (s : Session σ) (n : Nat) : Option (Session σ) :=
  match s.pipe, s.down with
  | .join, .read =>
      if 0 < n ∧ n ≤ RELAY_BUF ∧ n ≤ s.incoming.length then
        some { s with
          down := .write (s.incoming.take n) 0
          received := s.received ++ s.incoming.take n
          incoming := s.incoming.drop n }
      else none
  | _, _ => none

def srcEof (s : Session σ) : Option (Session σ) :=
  match s.pipe, s.down with
  | .join, .read => if s.incoming.isEmpty then some { s with down := .closeWrite } else none
  | _, _ => none

def srcFail (s : Session σ) (e : IoError) : Option (Session σ) :=
  match s.pipe, s.down with
  | .join, .read => some { s with down := .returned (.error (.io e)) }
  | _, _ => none

/-- `vconn.write(&buf[written..n])` up to its reply. -/
def writeSend (s : Session σ) : Option (Session σ) :=
  match s.down with
  | .write buf written =>
      (s.send (.write (buf.drop written) s.nextReply)).map fun
        | .ok t => { t with down := .awaitWrite buf written s.nextReply }
        | .error e => { s with down := .returned (.error (.vconn e)) }
  | _ => none

def writeRecv (s : Session σ) : Option (Session σ) :=
  match s.down with
  | .awaitWrite buf written reply =>
      (Oneshot.await s.answers.write (s.writes.map Prod.snd) (.error .actorGone) reply).map
        fun (result, rest) => { s with
          down := .afterWrite buf written result
          answers := { s.answers with write := rest } }
  | _ => none

/-- `let _ = vconn.close_write().await` up to its reply. -/
def closeWriteSend (s : Session σ) : Option (Session σ) :=
  match s.down with
  | .closeWrite =>
      (s.send (.closeWrite s.nextReply)).map fun
        | .ok t => { t with down := .awaitCloseWrite s.nextReply }
        | .error _ => { s with down := .returned (.ok ()) }
  | _ => none

def closeWriteRecv (s : Session σ) : Option (Session σ) :=
  match s.down with
  | .awaitCloseWrite reply =>
      (Oneshot.await s.answers.closeWrite s.closeWrites (.error .actorGone) reply).map fun (_, rest) =>
        { s with down := .returned (.ok ()), answers := { s.answers with closeWrite := rest } }
  | _ => none

/-- `join!` completes once both directions have returned. -/
def join (s : Session σ) : Option (Session σ) :=
  match s.pipe, s.up, s.down with
  | .join, .returned _, .returned _ => some { s with pipe := .close }
  | _, _, _ => none

/-- `pipe` drops the upstream and returns, which drops the VConn and its clones. -/
def finish (s : Session σ) : Session σ :=
  { s.dropVConn with writer := s.writer ++ [.drop], pipe := .returned (.ok ()) }

/-- `let _ = vconn.close().await` up to its reply. -/
def closeSend (s : Session σ) : Option (Session σ) :=
  match s.pipe with
  | .close =>
      (s.send (.close s.nextReply)).map fun
        | .ok t => { t with pipe := .awaitClose s.nextReply }
        | .error _ => s.finish
  | _ => none

def closeRecv (s : Session σ) : Option (Session σ) :=
  match s.pipe with
  | .awaitClose reply =>
      (Oneshot.await s.answers.close s.closes (.error .actorGone) reply).map fun (_, rest) =>
        finish { s with answers := { s.answers with close := rest } }
  | _ => none

def step (s : Session σ) : SessionAction σ → Option (Session σ)
  | .poll socket arrived => s.poll socket arrived
  | .serviceBegin => s.serviceBegin
  | .serviceNext => s.serviceNext
  | .serviceEnd => s.serviceEnd
  | .stop => s.stop
  | .connect result => s.connect result
  | .readSend => s.readSend
  | .readRecv => s.readRecv
  | .writeSome n => s.writeSome n
  | .writeFail e => s.writeFail e
  | .flush => s.flush
  | .srcRead n => s.srcRead n
  | .srcEof => s.srcEof
  | .srcFail e => s.srcFail e
  | .writeSend => s.writeSend
  | .writeRecv => s.writeRecv
  | .closeWriteSend => s.closeWriteSend
  | .closeWriteRecv => s.closeWriteRecv
  | .join => s.join
  | .closeSend => s.closeSend
  | .closeRecv => s.closeRecv

/-- A connection as `try_accept` hands it over: a socket whose calls are recorded from here on, a
client that still delivers `client` after what the socket has already received, and an upstream that
will send `incoming`. -/
def accepted (vconn : VConn) (socket : σ) (client incoming : List UInt8) : Session σ where
  vconn := vconn
  socket := ⟨socket, []⟩
  conn := some (ConnState.new ⟨vconn.cmd, [], false⟩)
  running := true
  serving := false
  answers := .none
  nextReply := 0
  pipe := .dial
  up := .read
  down := .read
  client := client
  incoming := incoming
  received := []
  writer := []

/-- A client at 10.0.0.2 that has connected to 93.184.216.34:443, its socket with room for
`txCapacity` bytes. -/
def established (txCapacity : Nat) (client incoming : List UInt8) : Session BufferedSocket :=
  accepted ⟨⟨⟨.ofOctets 10 0 0 2, 49152⟩, ⟨.ofOctets 93 184 216 34, 443⟩⟩, 0⟩
    ⟨.established, some ⟨.ofOctets 93 184 216 34, 443⟩, some ⟨.ofOctets 10 0 0 2, 49152⟩, [], false, [],
      txCapacity⟩ client incoming

def pushed (s : Session σ) (c : ConnState) (cmd : ConnCmd) : Session σ :=
  { s with conn := some { c with cmdRx := c.cmdRx.push cmd }, nextReply := s.nextReply + 1 }

inductive Move (s : Session σ) : SessionAction σ → Session σ → Prop
  | poll (socket : σ) (arrived rest : List UInt8) : s.running = true → s.serving = false →
      s.conn.isSome = true → s.client = arrived ++ rest → (rxFinReceived socket = true → rest = []) →
      Move s (.poll socket arrived) { s with socket := s.socket.poll socket, client := rest }
  | serviceBegin (t : Session σ) : s.serviceBegin = some t → Move s .serviceBegin t
  | serviceNext (t : Session σ) : s.serviceNext = some t → Move s .serviceNext t
  | serviceEnd (c : ConnState) : s.conn = some c → s.serving = true → c.cmdRx.queue = [] →
      c.cmdRx.closed = false → Move s .serviceEnd { s with serving := false }
  | serviceDrop (c : ConnState) : s.conn = some c → s.serving = true → c.cmdRx.queue = [] →
      c.cmdRx.closed = true → Move s .serviceEnd { s with
        conn := none
        socket := abort (Service.failPending ⟨c, s.socket, s.answers⟩).socket
        answers := (Service.failPending ⟨c, s.socket, s.answers⟩).answers
        serving := false }
  | stop : s.running = true → s.serving = false →
      Move s .stop { s with running := false, conn := none }
  | connect : s.pipe = .dial → Move s (.connect (.ok ())) { s with pipe := .join }
  | connectFail (e : IoError) : s.pipe = .dial → Move s (.connect (.error e))
      { s.dropVConn with pipe := .returned (.error (.dial s.vconn.destination e)) }
  | readSend (c : ConnState) : s.pipe = .join → s.up = .read → s.conn = some c →
      Move s .readSend
        { s.pushed c (.read RELAY_BUF s.nextReply) with up := .awaitRead s.nextReply }
  | readGone : s.pipe = .join → s.up = .read → s.conn = none →
      Move s .readSend { s with up := .returned (.error (.vconn .actorGone)) }
  | readRecv (reply : ReplyId) (result : Except VConnError (List UInt8)) (rest) :
      s.up = .awaitRead reply →
      Oneshot.await s.answers.read (s.reads.map Prod.snd) (.error .actorGone) reply =
        some (result, rest) →
      Move s .readRecv { s with up := .afterRead result, answers := { s.answers with read := rest } }
  | writeSome (n : Nat) (rest : List UInt8) : s.up = .writeAll rest → 0 < n → n ≤ rest.length →
      Move s (.writeSome n) { s with
        writer := s.writer ++ [.write (rest.take n)]
        up := if n < rest.length then .writeAll (rest.drop n) else .read }
  | writeFail (e : IoError) (rest : List UInt8) : s.up = .writeAll rest →
      Move s (.writeFail e) { s with up := .returned (.error (.io e)) }
  | flush : s.up = .flush →
      Move s .flush { s with writer := s.writer ++ [.flush], up := .returned (.ok ()) }
  | srcRead (n : Nat) (chunk rest : List UInt8) : s.pipe = .join → s.down = .read →
      s.incoming = chunk ++ rest → chunk.length = n → 0 < n → n ≤ RELAY_BUF →
      Move s (.srcRead n)
        { s with down := .write chunk 0, received := s.received ++ chunk, incoming := rest }
  | srcEof : s.pipe = .join → s.down = .read → s.incoming = [] →
      Move s .srcEof { s with down := .closeWrite }
  | srcFail (e : IoError) : s.pipe = .join → s.down = .read →
      Move s (.srcFail e) { s with down := .returned (.error (.io e)) }
  | writeSend (c : ConnState) (buf : List UInt8) (written : Nat) : s.down = .write buf written →
      s.conn = some c → Move s .writeSend { s.pushed c (.write (buf.drop written) s.nextReply) with
        down := .awaitWrite buf written s.nextReply }
  | writeGone (buf : List UInt8) (written : Nat) : s.down = .write buf written → s.conn = none →
      Move s .writeSend { s with down := .returned (.error (.vconn .actorGone)) }
  | writeRecv (buf : List UInt8) (written : Nat) (reply : ReplyId) (result : Except VConnError Nat)
      (rest) : s.down = .awaitWrite buf written reply →
      Oneshot.await s.answers.write (s.writes.map Prod.snd) (.error .actorGone) reply =
        some (result, rest) →
      Move s .writeRecv { s with
        down := .afterWrite buf written result
        answers := { s.answers with write := rest } }
  | closeWriteSend (c : ConnState) : s.down = .closeWrite → s.conn = some c →
      Move s .closeWriteSend
        { s.pushed c (.closeWrite s.nextReply) with down := .awaitCloseWrite s.nextReply }
  | closeWriteGone : s.down = .closeWrite → s.conn = none →
      Move s .closeWriteSend { s with down := .returned (.ok ()) }
  | closeWriteRecv (reply : ReplyId) (result : Except VConnError Unit) (rest) :
      s.down = .awaitCloseWrite reply →
      Oneshot.await s.answers.closeWrite s.closeWrites (.error .actorGone) reply =
        some (result, rest) →
      Move s .closeWriteRecv
        { s with down := .returned (.ok ()), answers := { s.answers with closeWrite := rest } }
  | join : s.pipe = .join → s.up.hasReturned = true → s.down.hasReturned = true →
      Move s .join { s with pipe := .close }
  | closeSend (c : ConnState) : s.pipe = .close → s.conn = some c →
      Move s .closeSend { s.pushed c (.close s.nextReply) with pipe := .awaitClose s.nextReply }
  | closeGone : s.pipe = .close → s.conn = none → Move s .closeSend s.finish
  | closeRecv (reply : ReplyId) (result : Except VConnError Unit) (rest) :
      s.pipe = .awaitClose reply →
      Oneshot.await s.answers.close s.closes (.error .actorGone) reply = some (result, rest) →
      Move s .closeRecv (finish { s with answers := { s.answers with close := rest } })

omit [TcpSocket σ] in
/-- Sending a command puts it on the channel, or fails because the receiving end is gone. -/
theorem send_cases {s : Session σ} {cmd : ConnCmd} {result : Except VConnError (Session σ)}
    (h : s.send cmd = some result) :
    (∃ c, s.conn = some c ∧ result = .ok (s.pushed c cmd)) ∨
      (s.conn = none ∧ result = .error .actorGone) := by
  unfold send at h
  split at h
  · rename_i hconn
    cases h
    exact Or.inr ⟨hconn, rfl⟩
  · rename_i c hconn
    split at h
    · cases h
      exact Or.inl ⟨c, hconn, rfl⟩
    · cases h

theorem poll_move {s t : Session σ} {socket : σ} {arrived : List UInt8}
    (h : s.poll socket arrived = some t) : Move s (.poll socket arrived) t := by
  unfold poll at h
  split at h
  · rename_i hguard
    simp only [Bool.and_eq_true, Bool.not_eq_true', Bool.or_eq_true, List.isPrefixOf_iff_prefix,
      List.isEmpty_iff] at hguard
    obtain ⟨⟨⟨⟨hrun, hserving⟩, hconn⟩, rest, hrest⟩, hfin⟩ := hguard
    have hdrop : s.client.drop arrived.length = rest := by rw [← hrest, List.drop_left]
    rw [hdrop] at h hfin
    cases h
    refine .poll socket arrived rest hrun hserving hconn hrest.symm fun h => ?_
    exact hfin.resolve_left (by simp [h])
  · cases h

theorem serviceEnd_move {s t : Session σ} (h : s.serviceEnd = some t) : Move s .serviceEnd t := by
  unfold serviceEnd at h
  split at h
  · rename_i c hconn
    split at h
    · rename_i hguard
      simp only [Bool.and_eq_true, CmdReceiver.isEmpty, List.isEmpty_iff] at hguard
      split at h
      · rename_i hclosed
        simp only [Bool.and_eq_true, CmdReceiver.isClosed] at hclosed
        cases h
        exact .serviceDrop c hconn hguard.1 hguard.2 hclosed.1
      · rename_i hclosed
        simp only [CmdReceiver.isClosed, CmdReceiver.isEmpty, hguard.2, List.isEmpty_nil, Bool.and_true,
          Bool.not_eq_true] at hclosed
        cases h
        exact .serviceEnd c hconn hguard.1 hguard.2 hclosed
    · cases h
  · cases h

theorem srcRead_move {s t : Session σ} {n : Nat} (h : s.srcRead n = some t) : Move s (.srcRead n) t := by
  unfold srcRead at h
  split at h
  · rename_i hpipe hdown
    split at h
    · rename_i hn
      cases h
      exact .srcRead n (s.incoming.take n) (s.incoming.drop n) hpipe hdown
        (List.take_append_drop n s.incoming).symm (by simp [hn.2.2]) hn.1 hn.2.1
    · cases h
  · cases h

/-- What a call of `service` and a turn of its loop start from. -/
theorem serviceBegin_cases {s t : Session σ} (hstep : s.serviceBegin = some t) :
    ∃ c, s.conn = some c ∧ s.serving = false ∧
      t = { s.install (Service.serviceIo s.callers ⟨c, s.socket, s.answers⟩) with serving := true } := by
  unfold serviceBegin at hstep
  split at hstep
  · rename_i c hconn
    split at hstep
    · cases hstep
    · rename_i hserving
      cases hstep
      exact ⟨c, hconn, Bool.not_eq_true _ ▸ hserving, rfl⟩
  · cases hstep

theorem serviceNext_cases {s t : Session σ} (hstep : s.serviceNext = some t) :
    ∃ c cmd rest, s.conn = some c ∧ s.serving = true ∧ c.cmdRx.queue = cmd :: rest ∧
      t = s.install (Service.serviceCmd s.callers ⟨c, s.socket, s.answers⟩ cmd rest) := by
  unfold serviceNext at hstep
  split at hstep
  · rename_i c hconn
    split at hstep
    · rename_i cmd rx hserving hrecv
      cases hstep
      unfold CmdReceiver.tryRecv at hrecv
      split at hrecv
      · cases hrecv
      · rename_i cmd' rest hqueue
        cases hrecv
        exact ⟨c, cmd, rest, hconn, hserving, hqueue, rfl⟩
    · cases hstep
  · cases hstep

/-- `step` does one of the moves. -/
theorem step_move {s t : Session σ} {a : SessionAction σ} (h : s.step a = some t) : Move s a t := by
  cases a with
  | poll socket arrived => exact poll_move h
  | serviceBegin => exact .serviceBegin t h
  | serviceNext => exact .serviceNext t h
  | serviceEnd => exact serviceEnd_move h
  | stop =>
      simp only [step, stop] at h
      split at h
      · rename_i hguard
        simp only [Bool.and_eq_true, Bool.not_eq_true'] at hguard
        cases h
        exact .stop hguard.1 hguard.2
      · cases h
  | connect result =>
      simp only [step, connect] at h
      split at h
      · rename_i hpipe
        cases h
        exact .connect hpipe
      · rename_i e hpipe
        cases h
        exact .connectFail e hpipe
      · cases h
  | readSend =>
      simp only [step, readSend] at h
      split at h
      · rename_i hpipe hup
        obtain ⟨result, hsend, rfl⟩ := Option.map_eq_some_iff.mp h
        obtain ⟨c, hconn, rfl⟩ | ⟨hconn, rfl⟩ := send_cases hsend
        · exact .readSend c hpipe hup hconn
        · exact .readGone hpipe hup hconn
      · cases h
  | readRecv =>
      simp only [step, readRecv] at h
      split at h
      · rename_i reply hup
        obtain ⟨⟨result, rest⟩, hawait, rfl⟩ := Option.map_eq_some_iff.mp h
        exact .readRecv reply result rest hup hawait
      · cases h
  | writeSome n =>
      simp only [step, writeSome] at h
      split at h
      · rename_i rest hup
        split at h
        · rename_i hn
          cases h
          exact .writeSome n rest hup hn.1 hn.2
        · cases h
      · cases h
  | writeFail e =>
      simp only [step, writeFail] at h
      split at h
      · rename_i rest hup
        cases h
        exact .writeFail e rest hup
      · cases h
  | flush =>
      simp only [step, flush] at h
      split at h
      · rename_i hup
        cases h
        exact .flush hup
      · cases h
  | srcRead n => exact srcRead_move h
  | srcEof =>
      simp only [step, srcEof] at h
      split at h
      · rename_i hpipe hdown
        split at h
        · rename_i hempty
          cases h
          exact .srcEof hpipe hdown (List.isEmpty_iff.mp hempty)
        · cases h
      · cases h
  | srcFail e =>
      simp only [step, srcFail] at h
      split at h
      · rename_i hpipe hdown
        cases h
        exact .srcFail e hpipe hdown
      · cases h
  | writeSend =>
      simp only [step, writeSend] at h
      split at h
      · rename_i buf written hdown
        obtain ⟨result, hsend, rfl⟩ := Option.map_eq_some_iff.mp h
        obtain ⟨c, hconn, rfl⟩ | ⟨hconn, rfl⟩ := send_cases hsend
        · exact .writeSend c buf written hdown hconn
        · exact .writeGone buf written hdown hconn
      · cases h
  | writeRecv =>
      simp only [step, writeRecv] at h
      split at h
      · rename_i buf written reply hdown
        obtain ⟨⟨result, rest⟩, hawait, rfl⟩ := Option.map_eq_some_iff.mp h
        exact .writeRecv buf written reply result rest hdown hawait
      · cases h
  | closeWriteSend =>
      simp only [step, closeWriteSend] at h
      split at h
      · rename_i hdown
        obtain ⟨result, hsend, rfl⟩ := Option.map_eq_some_iff.mp h
        obtain ⟨c, hconn, rfl⟩ | ⟨hconn, rfl⟩ := send_cases hsend
        · exact .closeWriteSend c hdown hconn
        · exact .closeWriteGone hdown hconn
      · cases h
  | closeWriteRecv =>
      simp only [step, closeWriteRecv] at h
      split at h
      · rename_i reply hdown
        obtain ⟨⟨result, rest⟩, hawait, rfl⟩ := Option.map_eq_some_iff.mp h
        exact .closeWriteRecv reply result rest hdown hawait
      · cases h
  | join =>
      simp only [step, join] at h
      split at h
      · rename_i hpipe hup hdown
        cases h
        exact .join hpipe (by rw [hup]; rfl) (by rw [hdown]; rfl)
      · cases h
  | closeSend =>
      simp only [step, closeSend] at h
      split at h
      · rename_i hpipe
        obtain ⟨result, hsend, rfl⟩ := Option.map_eq_some_iff.mp h
        obtain ⟨c, hconn, rfl⟩ | ⟨hconn, rfl⟩ := send_cases hsend
        · exact .closeSend c hpipe hconn
        · exact .closeGone hpipe hconn
      · cases h
  | closeRecv =>
      simp only [step, closeRecv] at h
      split at h
      · rename_i reply hpipe
        obtain ⟨⟨result, rest⟩, hawait, rfl⟩ := Option.map_eq_some_iff.mp h
        exact .closeRecv reply result rest hpipe hawait
      · cases h

end Session

end SmoltcpSocks
