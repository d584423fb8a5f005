import SmoltcpSocks.VConn

/-! The actor's side of one connection: `ConnState` of `netstack/actor.rs` with its parked read and
write, and `service`, which the actor calls on it in every round. `service` is cut at the points
where it touches the command channel: `serviceIo` before the loop, and `serviceCmd`, one turn of the
loop. -/

namespace SmoltcpSocks

open TcpSocket

structure PendingRead where
  maxLen : Nat
  reply : ReplyId
  deriving DecidableEq

structure PendingWrite where
  data : List UInt8
  reply : ReplyId
  deriving DecidableEq

structure ConnState where
  cmdRx : CmdReceiver
  read : Option PendingRead
  write : Option PendingWrite
  deriving DecidableEq

def ConnState.new (cmdRx : CmdReceiver) : ConnState := ⟨cmdRx, none, none⟩

/-- What a service round works on: the entry, its socket, and the answers sent so far. -/
structure Service (σ : Type) where
  conn : ConnState
  socket : σ
  answers : Answers

namespace Service

variable {σ : Type}

def answerRead (v : Service σ) (reply : ReplyId) (result : Except VConnError (List UInt8)) : Service σ :=
  { v with answers := { v.answers with read := v.answers.read ++ [(reply, result)] } }

def answerWrite (v : Service σ) (reply : ReplyId) (result : Except VConnError Nat) : Service σ :=
  { v with answers := { v.answers with write := v.answers.write ++ [(reply, result)] } }

def answerCloseWrite (v : Service σ) (reply : ReplyId) : Service σ :=
  { v with answers := { v.answers with closeWrite := v.answers.closeWrite ++ [(reply, .ok ())] } }

def answerClose (v : Service σ) (reply : ReplyId) : Service σ :=
  { v with answers := { v.answers with close := v.answers.close ++ [(reply, .ok ())] } }

def setRead (v : Service σ) (read : Option PendingRead) : Service σ :=
  { v with conn := { v.conn with read := read } }

def setWrite (v : Service σ) (write : Option PendingWrite) : Service σ :=
  { v with conn := { v.conn with write := write } }

def setSocket (v : Service σ) (socket : σ) : Service σ := { v with socket := socket }

variable [TcpSocket σ] (callers : Callers)

/-- The first half of `service_io`: the parked read. -/
def serviceRead (v : Service σ) : Service σ :=
  match v.conn.read with
  | none => v
  | some read =>
      let v := v.setRead none
      -- the caller canceled the read; buffered data stays where it is
      if callers.readClosed read.reply then v
      else if read.maxLen = 0 then v.answerRead read.reply (.ok [])
      else if !canRecv v.socket && mayRecv v.socket then v.setRead (some read)
      else
        match recvSlice v.socket (min read.maxLen (recvQueue v.socket)) with
        | (.ok data, socket) => (v.setSocket socket).answerRead read.reply (.ok data)
        | (.error .finished, socket) => (v.setSocket socket).answerRead read.reply (.ok [])
        | (.error .invalidState, socket) =>
            (v.setSocket socket).answerRead read.reply (.error .closed)

/-- The second half of `service_io`: the parked write. -/
def serviceWrite (v : Service σ) : Service σ :=
  match v.conn.write with
  | none => v
  | some write =>
      let v := v.setWrite none
      -- the caller canceled the write; its data is not enqueued
      if callers.writeClosed write.reply then v
      else if write.data.isEmpty then v.answerWrite write.reply (.ok 0)
      else if !canSend v.socket && maySend v.socket then v.setWrite (some write)
      else
        match sendSlice v.socket write.data with
        | (.ok n, socket) => (v.setSocket socket).answerWrite write.reply (.ok n)
        | (.error _, socket) => (v.setSocket socket).answerWrite write.reply (.error .closed)

def serviceIo (v : Service σ) : Service σ := serviceWrite callers (serviceRead callers v)

/-- The answer to a request whose direction already has one parked. -/
def wouldBlock (message : String) : VConnError := .io ⟨.wouldBlock, message⟩

/-- The `match cmd` of `ConnState::service`. -/
def handleCmd (v : Service σ) : ConnCmd → Service σ
  | .read maxLen reply =>
      if v.conn.read.isSome then
        v.answerRead reply (.error (wouldBlock "a read is already pending"))
      else v.setRead (some ⟨maxLen, reply⟩)
  | .write data reply =>
      if v.conn.write.isSome then
        v.answerWrite reply (.error (wouldBlock "a write is already pending"))
      else v.setWrite (some ⟨data, reply⟩)
  | .closeWrite reply => (v.setSocket (close v.socket)).answerCloseWrite reply
  | .close reply => (v.setSocket (abort v.socket)).answerClose reply

def setQueue (v : Service σ) (queue : List ConnCmd) : Service σ :=
  { v with conn := { v.conn with cmdRx := { v.conn.cmdRx with queue := queue } } }

/-- One turn of the loop of `ConnState::service`: take a command, handle it, then do I/O. -/
def serviceCmd (v : Service σ) (cmd : ConnCmd) (rest : List ConnCmd) : Service σ :=
  serviceIo callers (handleCmd (v.setQueue rest) cmd)

/-- The loop of `ConnState::service`, over the commands the channel holds. -/
def serviceLoop : List ConnCmd → Service σ → Service σ
  | [], v => v
  | cmd :: rest, v => serviceLoop rest (serviceCmd callers v cmd rest)

def service (v : Service σ) : Service σ :=
  serviceLoop callers v.conn.cmdRx.queue (serviceIo callers v)

def failPending (v : Service σ) : Service σ :=
  let v := match v.conn.read with
    | none => v
    | some read => (v.setRead none).answerRead read.reply (.error .closed)
  match v.conn.write with
  | none => v
  | some write => (v.setWrite none).answerWrite write.reply (.error .closed)

/-- A read or a write is only parked or refused; the half-close and the close act on the socket. -/
theorem handleCmd_cases (v : Service σ) (cmd : ConnCmd) :
    (∃ reply, cmd = .closeWrite reply) ∨ (∃ reply, cmd = .close reply) ∨
      ((handleCmd v cmd).socket = v.socket ∧
        (handleCmd v cmd).answers.closeWrite = v.answers.closeWrite ∧
        (handleCmd v cmd).answers.close = v.answers.close ∧ cmd.asClose = none) := by
  cases cmd with
  | closeWrite reply => exact Or.inl ⟨reply, rfl⟩
  | close reply => exact Or.inr (Or.inl ⟨reply, rfl⟩)
  | read maxLen reply =>
      refine Or.inr (Or.inr ?_)
      rcases hread : v.conn.read <;> simp [handleCmd, hread, setRead, answerRead, ConnCmd.asClose]
  | write data reply =>
      refine Or.inr (Or.inr ?_)
      rcases hwrite : v.conn.write <;> simp [handleCmd, hwrite, setWrite, answerWrite, ConnCmd.asClose]

@[simp] theorem cmdRx_handleCmd (v : Service σ) (cmd : ConnCmd) :
    (handleCmd v cmd).conn.cmdRx = v.conn.cmdRx := by
  cases cmd <;> simp only [handleCmd] <;> (try split) <;> rfl

/-- Everything the read half of `service_io` can do. -/
inductive ReadStep (v : Service σ) : Service σ → Prop
  | idle : v.conn.read = none → ReadStep v v
  | cancelled (read : PendingRead) : v.conn.read = some read → callers.readClosed read.reply = true →
      ReadStep v (v.setRead none)
  | empty (read : PendingRead) : v.conn.read = some read → callers.readClosed read.reply = false →
      read.maxLen = 0 → ReadStep v ((v.setRead none).answerRead read.reply (.ok []))
  | parked (read : PendingRead) : v.conn.read = some read → callers.readClosed read.reply = false →
      0 < read.maxLen → mayRecv v.socket = true → rxBuffer v.socket = [] → ReadStep v v
  | data (read : PendingRead) : v.conn.read = some read → callers.readClosed read.reply = false →
      0 < read.maxLen → rxBuffer v.socket ≠ [] →
      ReadStep v (((v.setRead none).setSocket
        (recvSlice v.socket (min read.maxLen (recvQueue v.socket))).2).answerRead read.reply
          (.ok ((rxBuffer v.socket).take read.maxLen)))
  | finished (read : PendingRead) : v.conn.read = some read → callers.readClosed read.reply = false →
      0 < read.maxLen → rxBuffer v.socket = [] → rxFinReceived v.socket = true →
      ReadStep v (((v.setRead none).setSocket
        (recvSlice v.socket (min read.maxLen (recvQueue v.socket))).2).answerRead read.reply (.ok []))
  | aborted (read : PendingRead) : v.conn.read = some read → callers.readClosed read.reply = false →
      0 < read.maxLen → rxBuffer v.socket = [] → rxFinReceived v.socket = false →
      ReadStep v (((v.setRead none).setSocket
        (recvSlice v.socket (min read.maxLen (recvQueue v.socket))).2).answerRead read.reply
          (.error .closed))

/-- Everything the write half of `service_io` can do. -/
inductive WriteStep (v : Service σ) : Service σ → Prop
  | idle : v.conn.write = none → WriteStep v v
  | cancelled (write : PendingWrite) : v.conn.write = some write →
      callers.writeClosed write.reply = true → WriteStep v (v.setWrite none)
  | empty (write : PendingWrite) : v.conn.write = some write →
      callers.writeClosed write.reply = false → write.data = [] →
      WriteStep v ((v.setWrite none).answerWrite write.reply (.ok 0))
  | parked (write : PendingWrite) : v.conn.write = some write →
      callers.writeClosed write.reply = false → write.data ≠ [] → maySend v.socket = true →
      txCapacity v.socket ≤ (txBuffer v.socket).length → WriteStep v v
  | sent (write : PendingWrite) : v.conn.write = some write →
      callers.writeClosed write.reply = false → write.data ≠ [] → maySend v.socket = true →
      (txBuffer v.socket).length < txCapacity v.socket →
      WriteStep v (((v.setWrite none).setSocket (sendSlice v.socket write.data).2).answerWrite
        write.reply (.ok (min write.data.length (txCapacity v.socket - (txBuffer v.socket).length))))
  | closed (write : PendingWrite) : v.conn.write = some write →
      callers.writeClosed write.reply = false → write.data ≠ [] → maySend v.socket = false →
      WriteStep v (((v.setWrite none).setSocket (sendSlice v.socket write.data).2).answerWrite
        write.reply (.error .closed))

variable [LawfulTcpSocket σ]

theorem serviceRead_step (v : Service σ) : ReadStep callers v (serviceRead callers v) := by
  unfold serviceRead
  rcases hread : v.conn.read with _ | read
  · exact .idle hread
  rcases hclosed : callers.readClosed read.reply with _ | _
  swap
  · simpa [hclosed] using ReadStep.cancelled read hread hclosed
  by_cases hlen : read.maxLen = 0
  · simpa [hclosed, hlen] using ReadStep.empty read hread hclosed hlen
  have hpos : 0 < read.maxLen := Nat.pos_of_ne_zero hlen
  by_cases hrx : rxBuffer v.socket = []
  · have hcan : canRecv v.socket = false := canRecv_eq_false hrx
    rcases hmay : mayRecv v.socket with _ | _
    · -- nothing more can come: the FIN decides between end of stream and abort
      have hfst := recvSlice_fst v.socket (min read.maxLen (recvQueue v.socket))
      rw [hmay, if_neg Bool.false_ne_true] at hfst
      rcases hfin : rxFinReceived v.socket with _ | _
      · have hstep : ReadStep callers v _ := .aborted read hread hclosed hpos hrx hfin
        rcases hrecv : recvSlice v.socket (min read.maxLen (recvQueue v.socket)) with ⟨result, socket⟩
        rw [hrecv] at hstep hfst
        simp only [hfin, Bool.false_eq_true, if_false] at hfst
        simpa [hclosed, hlen, setRead, hcan, hmay, hrecv, hfst] using hstep
      · have hstep : ReadStep callers v _ := .finished read hread hclosed hpos hrx hfin
        rcases hrecv : recvSlice v.socket (min read.maxLen (recvQueue v.socket)) with ⟨result, socket⟩
        rw [hrecv] at hstep hfst
        simp only [hfin, if_true] at hfst
        simpa [hclosed, hlen, setRead, hcan, hmay, hrecv, hfst] using hstep
    · have hstep : ReadStep callers v _ := .parked read hread hclosed hpos hmay hrx
      have hv : (v.setRead none).setRead (some read) = v := by
        rw [← hread]
        rfl
      simpa [hclosed, hlen, hcan, hmay, hv, show (v.setRead none).socket = v.socket from rfl] using hstep
  · have hmay : mayRecv v.socket = true := (mayRecv_iff _).mpr (Or.inr (Or.inr (Or.inr hrx)))
    have hcan : canRecv v.socket = true := (canRecv_iff _).mpr ⟨hmay, hrx⟩
    have hfst := recvSlice_fst v.socket (min read.maxLen (recvQueue v.socket))
    rw [if_pos hmay, take_recvQueue] at hfst
    have hstep : ReadStep callers v _ := .data read hread hclosed hpos hrx
    rcases hrecv : recvSlice v.socket (min read.maxLen (recvQueue v.socket)) with ⟨result, socket⟩
    rw [hrecv] at hstep hfst
    simp only at hfst
    simpa [hclosed, hlen, setRead, hcan, hmay, hrecv, hfst] using hstep

/-- A read that asks for something is answered with nothing only behind the last byte before the
FIN. -/
theorem serviceRead_eof {callers : Callers} {v : Service σ} {read : PendingRead}
    (hread : v.conn.read = some read) (hpos : 0 < read.maxLen)
    (hanswer : (serviceRead callers v).answers.read = v.answers.read ++ [(read.reply, .ok [])]) :
    rxFinReceived v.socket = true ∧ rxBuffer v.socket = [] := by
  have hstep := serviceRead_step callers v
  generalize serviceRead callers v = w at hanswer hstep
  cases hstep with
  | idle => simp at hanswer
  | cancelled => simp [setRead] at hanswer
  | parked => simp at hanswer
  | empty read' hread' _ hzero =>
      cases hread.symm.trans hread'
      omega
  | data read' hread' _ _ hne =>
      cases hread.symm.trans hread'
      have hnil : read.maxLen = 0 ∨ rxBuffer v.socket = [] := by
        simpa [answerRead, setSocket, setRead, List.take_eq_nil_iff] using hanswer
      rcases hnil with hzero | hrx
      · omega
      · exact absurd hrx hne
  | finished read' _ _ _ hrx hfin => exact ⟨hfin, hrx⟩
  | aborted read' => simp [answerRead, setSocket, setRead] at hanswer

theorem serviceWrite_step (v : Service σ) : WriteStep callers v (serviceWrite callers v) := by
  unfold serviceWrite
  rcases hwrite : v.conn.write with _ | write
  · exact .idle hwrite
  rcases hclosed : callers.writeClosed write.reply with _ | _
  swap
  · simpa [hclosed] using WriteStep.cancelled write hwrite hclosed
  by_cases hdata : write.data = []
  · simpa [hclosed, hdata] using WriteStep.empty write hwrite hclosed hdata
  rcases hmay : maySend v.socket with _ | _
  · have hfst := sendSlice_fst v.socket write.data
    rw [hmay, if_neg Bool.false_ne_true] at hfst
    have hstep : WriteStep callers v _ := .closed write hwrite hclosed hdata hmay
    rcases hsend : sendSlice v.socket write.data with ⟨result, socket⟩
    rw [hsend] at hstep hfst
    simp only at hfst
    simpa [hclosed, hdata, setWrite, hmay, hsend, hfst] using hstep
  · by_cases hroom : (txBuffer v.socket).length < txCapacity v.socket
    · have hcan : canSend v.socket = true := (canSend_iff _).mpr ⟨hmay, hroom⟩
      have hfst := sendSlice_fst v.socket write.data
      rw [if_pos hmay] at hfst
      have hstep : WriteStep callers v _ := .sent write hwrite hclosed hdata hmay hroom
      rcases hsend : sendSlice v.socket write.data with ⟨result, socket⟩
      rw [hsend] at hstep hfst
      simp only at hfst
      simpa [hclosed, hdata, setWrite, hcan, hmay, hsend, hfst] using hstep
    · have hcan : canSend v.socket = false := canSend_eq_false (Nat.not_lt.mp hroom)
      have hstep : WriteStep callers v _ := .parked write hwrite hclosed hdata hmay (by omega)
      have hv : (v.setWrite none).setWrite (some write) = v := by
        rw [← hwrite]
        rfl
      simpa [hclosed, hdata, hcan, hmay, hv, show (v.setWrite none).socket = v.socket from rfl] using hstep

/-- What the read half leaves alone. -/
structure ReadFrame (v w : Service σ) : Prop where
  cmdRx : w.conn.cmdRx = v.conn.cmdRx
  write : w.conn.write = v.conn.write
  answersWrite : w.answers.write = v.answers.write
  answersCloseWrite : w.answers.closeWrite = v.answers.closeWrite
  answersClose : w.answers.close = v.answers.close
  state : TcpSocket.state w.socket = TcpSocket.state v.socket
  txBuffer : TcpSocket.txBuffer w.socket = TcpSocket.txBuffer v.socket
  rxFinReceived : TcpSocket.rxFinReceived w.socket = TcpSocket.rxFinReceived v.socket
  remoteEndpoint : TcpSocket.remoteEndpoint w.socket = TcpSocket.remoteEndpoint v.socket

/-- What the write half leaves alone. -/
structure WriteFrame (v w : Service σ) : Prop where
  cmdRx : w.conn.cmdRx = v.conn.cmdRx
  read : w.conn.read = v.conn.read
  answersRead : w.answers.read = v.answers.read
  answersCloseWrite : w.answers.closeWrite = v.answers.closeWrite
  answersClose : w.answers.close = v.answers.close
  state : TcpSocket.state w.socket = TcpSocket.state v.socket
  rxBuffer : TcpSocket.rxBuffer w.socket = TcpSocket.rxBuffer v.socket
  rxFinReceived : TcpSocket.rxFinReceived w.socket = TcpSocket.rxFinReceived v.socket
  remoteEndpoint : TcpSocket.remoteEndpoint w.socket = TcpSocket.remoteEndpoint v.socket

variable {callers} {v w : Service σ}

theorem ReadStep.frame (h : ReadStep callers v w) : ReadFrame v w := by
  cases h <;> constructor <;> simp [setRead, setSocket, answerRead]

theorem WriteStep.frame (h : WriteStep callers v w) : WriteFrame v w := by
  cases h <;> constructor <;> simp [setWrite, setSocket, answerWrite]

@[simp] theorem cmdRx_serviceIo (v : Service σ) : (serviceIo callers v).conn.cmdRx = v.conn.cmdRx := by
  calc (serviceIo callers v).conn.cmdRx
      = (serviceRead callers v).conn.cmdRx := (serviceWrite_step callers _).frame.cmdRx
    _ = v.conn.cmdRx := (serviceRead_step callers v).frame.cmdRx

/-- What the two halves of `service_io` and the handling of a command keep, the loop keeps. -/
theorem serviceLoop_induction {P : Service σ → Prop}
    (hread : ∀ {v w}, P v → ReadStep callers v w → P w)
    (hwrite : ∀ {v w}, P v → WriteStep callers v w → P w)
    (hcmd : ∀ {v cmd rest}, P v → v.conn.cmdRx.queue = cmd :: rest →
      P (handleCmd (v.setQueue rest) cmd))
    {queue : List ConnCmd} (hqueue : v.conn.cmdRx.queue = queue) (hv : P v) :
    P (serviceLoop callers queue v) := by
  induction queue generalizing v with
  | nil => exact hv
  | cons cmd rest ih =>
      refine ih (v := serviceCmd callers v cmd rest) ?_ ?_
      · rw [serviceCmd, cmdRx_serviceIo, cmdRx_handleCmd]
        rfl
      · exact hwrite (hread (hcmd hv hqueue) (serviceRead_step callers _)) (serviceWrite_step callers _)

/-- The induction rule of a whole service round. -/
theorem service_induction {P : Service σ → Prop}
    (hread : ∀ {v w}, P v → ReadStep callers v w → P w)
    (hwrite : ∀ {v w}, P v → WriteStep callers v w → P w)
    (hcmd : ∀ {v cmd rest}, P v → v.conn.cmdRx.queue = cmd :: rest →
      P (handleCmd (v.setQueue rest) cmd))
    (hv : P v) : P (service callers v) :=
  serviceLoop_induction hread hwrite hcmd (by rw [cmdRx_serviceIo])
    (hwrite (hread hv (serviceRead_step callers v)) (serviceWrite_step callers _))

/-- A round drains the channel and changes nothing else of it. -/
theorem cmdRx_service (callers : Callers) (v : Service σ) :
    (service callers v).conn.cmdRx = { v.conn.cmdRx with queue := [] } := by
  have hloop : ∀ (queue : List ConnCmd) (v : Service σ), v.conn.cmdRx.queue = queue →
      (serviceLoop callers queue v).conn.cmdRx = { v.conn.cmdRx with queue := [] } := by
    intro queue
    induction queue with
    | nil =>
        intro v hqueue
        rw [serviceLoop, ← hqueue]
    | cons cmd rest ih =>
        intro v hqueue
        have hcmdRx : (serviceCmd callers v cmd rest).conn.cmdRx = { v.conn.cmdRx with queue := rest } := by
          rw [serviceCmd, cmdRx_serviceIo, cmdRx_handleCmd]
          rfl
        rw [serviceLoop, ih _ (by rw [hcmdRx]), hcmdRx]
  rw [service, hloop _ _ (by rw [cmdRx_serviceIo]), cmdRx_serviceIo]

end Service

end SmoltcpSocks
