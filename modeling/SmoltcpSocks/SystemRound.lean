import Mathlib.Algebra.Order.BigOperators.Group.Finset
import SmoltcpSocks.RelayProtocol
import SmoltcpSocks.SystemService

/-! Every round of the actor ends. While the actor is inside `service` on an entry, the relay may answer each reply
with a further command; but every read that is answered takes something from the receive buffer and every write
puts something into the transmit buffer, and neither is refilled or emptied before the next poll. So what the
sockets hold bounds the commands of one pass over the entries, whatever the tasks and the upstreams do meanwhile. -/

namespace SmoltcpSocks

open TcpSocket

def SessionAction.turns {σ : Type} : SessionAction σ → Bool
  | .serviceNext => true
  | _ => false

def SystemAction.isActor {σ : Type} : SystemAction σ → Bool
  | .dispatch | .dispatcherEnd | .relay _ _ | .stopSend | .handleDrop => false
  | _ => true

/-- The steps between two polls that add no connection. -/
def SystemAction.isQuiet {σ : Type} : SystemAction σ → Bool
  | .poll _ _ | .egress _ | .acceptNext _ _ _ => false
  | _ => true

/-- The actor goes on from its wait, to the next poll or to its end. -/
def SystemAction.endsRound {σ : Type} : SystemAction σ → Bool
  | .wake | .stopRecv => true
  | _ => false

/-- An answer that lets `copy_vconn_to` go on to a further read. -/
def carriesData : ReplyId × Except VConnError (List UInt8) → Bool
  | (_, .ok (_ :: _)) => true
  | _ => false

/-- An answer that lets `copy_to_vconn` go on to a further write. -/
def acceptsData : ReplyId × Except VConnError Nat → Bool
  | (_, .ok (_ + 1)) => true
  | _ => false

/-- How many reads `copy_vconn_to` can still send, each of them being answered with one of `bytes`. -/
def UpPoint.work (bytes : Nat) : UpPoint → Nat
  | .returned _ | .flush => 0
  | .read | .writeAll _ => bytes + 1
  | .awaitRead _ => bytes

/-- How many writes and half-closes `copy_to_vconn` can still send, each write filling one place of `room`. -/
def DownPoint.work (room : Nat) : DownPoint → Nat
  | .returned _ | .awaitCloseWrite _ => 0
  | .closeWrite => 1
  | .read | .write _ _ => room + 2
  | .awaitWrite _ _ _ => room + 1

/-- Whether `pipe` has still to send its close. -/
def PipePoint.work : PipePoint → Nat
  | .dial | .join | .close => 1
  | .awaitClose _ | .returned _ => 0

theorem UpPoint.work_mono {m n : Nat} (h : m ≤ n) (point : UpPoint) : point.work m ≤ point.work n := by
  cases point <;> simp only [work] <;> omega

theorem DownPoint.work_mono {m n : Nat} (h : m ≤ n) (point : DownPoint) : point.work m ≤ point.work n := by
  cases point <;> simp only [work] <;> omega

theorem UpPoint.work_add_le {point : UpPoint} {held answers ready : Nat} (n : Nat)
    (h : held + answers ≤ point.awaited.toList.length) (hready : ready ≤ answers) :
    held + point.work (n + ready) ≤ n + 1 := by
  cases point <;> simp only [awaited, work, Option.toList, List.length_nil, List.length_singleton] at h ⊢ <;> omega

theorem DownPoint.work_add_le {point : DownPoint} {held answers ready closing closed : Nat} (n : Nat)
    (h : held + answers ≤ point.awaitedWrite.toList.length) (hready : ready ≤ answers)
    (hclose : closing + closed ≤ point.awaitedCloseWrite.toList.length) :
    held + closing + point.work (n + ready) ≤ n + 2 := by
  cases point <;>
    simp only [awaitedWrite, awaitedCloseWrite, work, Option.toList, List.length_nil, List.length_singleton]
      at h hclose ⊢ <;> omega

theorem PipePoint.work_add_le {point : PipePoint} {held answers : Nat}
    (h : held + answers ≤ point.awaited.toList.length) : held + point.work ≤ 1 := by
  cases point <;> simp only [awaited, work, Option.toList, List.length_nil, List.length_singleton] at h ⊢ <;> omega

variable {σ : Type} [TcpSocket σ]

/-- What can be asked of a socket before the next poll: a read for each byte it holds and one more, a write for each
free place and one more, a half-close and a close. -/
def demand (socket : σ) : Nat := (rxBuffer socket).length + (txCapacity socket - (txBuffer socket).length) + 4

/-- The bytes that reads can take, and the answers with data that wait for their relay. -/
def bytesLeft (socket : σ) (answers : Answers) : Nat :=
  (rxBuffer socket).length + answers.read.countP carriesData

/-- The places that writes can fill, and the answers to writes that wait for their relay. -/
def roomLeft (socket : σ) (answers : Answers) : Nat :=
  (txCapacity socket - (txBuffer socket).length) + answers.write.countP acceptsData

/-- The bytes and the places left do not grow. -/
structure Spent (v w : Service σ) : Prop where
  bytes : bytesLeft w.socket w.answers ≤ bytesLeft v.socket v.answers
  room : roomLeft w.socket w.answers ≤ roomLeft v.socket v.answers

theorem Spent.trans {u v w : Service σ} (h : Spent u v) (h' : Spent v w) : Spent u w :=
  ⟨Nat.le_trans h'.bytes h.bytes, Nat.le_trans h'.room h.room⟩

theorem countP_snoc_le {α : Type} (p : α → Bool) (l : List α) (x : α) : (l ++ [x]).countP p ≤ l.countP p + 1 := by
  rw [List.countP_append, List.countP_singleton]
  split <;> omega

namespace Service

variable [LawfulTcpSocket σ] {callers : Callers} {v w : Service σ}

/-- A read that is answered with data takes at least one byte. -/
theorem ReadStep.spent (h : ReadStep callers v w) : Spent v w := by
  cases h with
  | idle | parked | cancelled => exact ⟨Nat.le_refl _, Nat.le_refl _⟩
  | empty read =>
      constructor <;> simp [bytesLeft, roomLeft, setRead, answerRead, carriesData]
  | data read _ _ hpos hrx =>
      have hlength := List.length_pos_of_ne_nil hrx
      have hcount := countP_snoc_le carriesData v.answers.read (read.reply, .ok ((rxBuffer v.socket).take read.maxLen))
      refine ⟨?_, by simp [roomLeft, setRead, setSocket, answerRead]⟩
      simp only [bytesLeft, setRead, setSocket, answerRead, rxBuffer_recvSlice, recvQueue_eq, List.length_drop]
      omega
  | finished | aborted =>
      constructor <;> simp [bytesLeft, roomLeft, setRead, setSocket, answerRead, carriesData]

/-- A write that is answered with success fills at least one place. -/
theorem WriteStep.spent (h : WriteStep callers v w) : Spent v w := by
  cases h with
  | idle | parked | cancelled => exact ⟨Nat.le_refl _, Nat.le_refl _⟩
  | empty write =>
      constructor <;> simp [bytesLeft, roomLeft, setWrite, answerWrite, acceptsData]
  | sent write _ _ hdata hmay hroom =>
      have hlength := List.length_pos_of_ne_nil hdata
      have hcount := countP_snoc_le acceptsData v.answers.write
        (write.reply, .ok (min write.data.length (txCapacity v.socket - (txBuffer v.socket).length)))
      refine ⟨by simp [bytesLeft, setWrite, setSocket, answerWrite], ?_⟩
      simp only [roomLeft, setWrite, setSocket, answerWrite, txBuffer_sendSlice, hmay, if_true, txCapacity_sendSlice,
        List.length_append, List.length_take]
      omega
  | closed write _ _ _ hmay =>
      constructor <;> simp [bytesLeft, roomLeft, setWrite, setSocket, answerWrite, acceptsData, hmay, txBuffer_sendSlice]

theorem spent_serviceIo (callers : Callers) (v : Service σ) : Spent v (serviceIo callers v) :=
  (serviceRead_step callers v).spent.trans (serviceWrite_step callers _).spent

/-- A command is parked, refused or done; none of this hands out bytes or room. -/
theorem spent_handleCmd (v : Service σ) (cmd : ConnCmd) : Spent v (handleCmd v cmd) := by
  cases cmd with
  | read maxLen reply =>
      simp only [handleCmd]
      split <;> constructor <;> simp [bytesLeft, roomLeft, setRead, answerRead, carriesData]
  | write data reply =>
      simp only [handleCmd]
      split <;> constructor <;> simp [bytesLeft, roomLeft, setWrite, answerWrite, acceptsData]
  | closeWrite reply =>
      constructor <;> simp [bytesLeft, roomLeft, handleCmd, setSocket, answerCloseWrite]
  | close reply =>
      constructor <;> simp [bytesLeft, roomLeft, handleCmd, setSocket, answerClose]

theorem spent_serviceCmd (callers : Callers) (v : Service σ) (cmd : ConnCmd) (rest : List ConnCmd) :
    Spent v (serviceCmd callers v cmd rest) := by
  have hqueue : Spent v (v.setQueue rest) := ⟨Nat.le_refl _, Nat.le_refl _⟩
  exact (hqueue.trans (spent_handleCmd _ cmd)).trans (spent_serviceIo callers _)

end Service

namespace Session

variable {s t : Session σ} {a : SessionAction σ} {c : ConnState}

def queued (s : Session σ) : Nat := s.conn.elim 0 fun c => c.cmdRx.queue.length

/-- A bound on the commands that `service` can find on the channel before the next poll: while the entry is there,
those that are queued and those that the relay can still send. -/
def work (s : Session σ) : Nat :=
  if s.conn.isSome then
    s.queued + s.up.work (bytesLeft s.socket s.answers) + s.down.work (roomLeft s.socket s.answers) + s.pipe.work
  else 0

omit [TcpSocket σ] in
theorem queued_pushed (hconn : s.conn = some c) (cmd : ConnCmd) : (s.pushed c cmd).queued = s.queued + 1 := by
  simp [queued, pushed, hconn, CmdReceiver.push]

omit [TcpSocket σ] in
theorem queued_dropVConn (s : Session σ) : s.dropVConn.queued = s.queued := by
  rcases hconn : s.conn <;> simp [queued, dropVConn, hconn, CmdReceiver.close]

omit [TcpSocket σ] in
theorem isSome_pushed (hconn : s.conn = some c) (cmd : ConnCmd) : (s.pushed c cmd).conn.isSome = s.conn.isSome := by
  simp [pushed, hconn]

omit [TcpSocket σ] in
theorem isSome_dropVConn (s : Session σ) : s.dropVConn.conn.isSome = s.conn.isSome := by
  simp [dropVConn]

theorem work_install {v : Service (Traced σ)} (h : Spent ⟨c, s.socket, s.answers⟩ v)
    (hconn : s.conn = some c) {n : Nat} (hqueue : v.conn.cmdRx.queue.length + n ≤ c.cmdRx.queue.length)
    (serving : Bool) : work { s.install v with serving := serving } + n ≤ s.work := by
  have hup : s.up.work (bytesLeft v.socket v.answers) ≤ s.up.work (bytesLeft s.socket s.answers) :=
    s.up.work_mono h.bytes
  have hdown : s.down.work (roomLeft v.socket v.answers) ≤ s.down.work (roomLeft s.socket s.answers) :=
    s.down.work_mono h.room
  simp only [work, queued, install, hconn, Option.isSome_some, if_true, Option.elim_some]
  omega

omit [TcpSocket σ] in
/-- A reply with data leaves its answer behind for the read that follows. -/
theorem work_afterRead_le {answers rest : List (ReplyId × Except VConnError (List UInt8))} {held : List ReplyId}
    {reply : ReplyId} {result : Except VConnError (List UInt8)} (n : Nat)
    (h : Oneshot.await answers held (.error .actorGone) reply = some (result, rest)) :
    (UpPoint.afterRead result).work (n + rest.countP carriesData) ≤ n + answers.countP carriesData := by
  rcases result with e | _ | ⟨byte, data⟩
  · exact Nat.zero_le _
  · exact Nat.zero_le _
  · have hlt := Oneshot.countP_lt_of_await (p := carriesData) h rfl (by simp)
    simp only [UpPoint.afterRead, UpPoint.work]
    omega

omit [TcpSocket σ] in
theorem work_afterWrite_le {answers rest : List (ReplyId × Except VConnError Nat)} {held : List ReplyId}
    {reply : ReplyId} {result : Except VConnError Nat} (n : Nat) (buf : List UInt8) (written : Nat)
    (h : Oneshot.await answers held (.error .actorGone) reply = some (result, rest)) :
    (DownPoint.afterWrite buf written result).work (n + rest.countP acceptsData) ≤
      n + answers.countP acceptsData + 1 := by
  rcases result with e | _ | accepted
  · exact Nat.zero_le _
  · exact Nat.zero_le _
  · have hlt := Oneshot.countP_lt_of_await (p := acceptsData) h rfl (by simp)
    simp only [DownPoint.afterWrite]
    split_ifs <;> simp only [DownPoint.work] <;> omega

theorem work_le {n : Nat} (hconn : t.conn.isSome = s.conn.isSome) (hqueued : t.queued = s.queued + n)
    (h : t.up.work (bytesLeft t.socket t.answers) + t.down.work (roomLeft t.socket t.answers) + t.pipe.work + n ≤
      s.up.work (bytesLeft s.socket s.answers) + s.down.work (roomLeft s.socket s.answers) + s.pipe.work) :
    t.work ≤ s.work := by
  rw [work, work, hconn, hqueued]
  split <;> omega

/-- A step of `copy_vconn_to` that sends `n` commands. -/
theorem work_le_of_up {n : Nat} (hconn : t.conn.isSome = s.conn.isSome) (hqueued : t.queued = s.queued + n)
    (hsocket : t.socket = s.socket) (hanswers : t.answers.write = s.answers.write) (hdown : t.down = s.down)
    (hpipe : t.pipe = s.pipe)
    (hup : t.up.work (bytesLeft s.socket t.answers) + n ≤ s.up.work (bytesLeft s.socket s.answers)) :
    t.work ≤ s.work := by
  have hroom : roomLeft s.socket t.answers = roomLeft s.socket s.answers := by rw [roomLeft, roomLeft, hanswers]
  apply work_le hconn hqueued
  rw [hsocket, hdown, hpipe, hroom]
  omega

theorem work_le_of_down {n : Nat} (hconn : t.conn.isSome = s.conn.isSome) (hqueued : t.queued = s.queued + n)
    (hsocket : t.socket = s.socket) (hanswers : t.answers.read = s.answers.read) (hup : t.up = s.up)
    (hpipe : t.pipe = s.pipe)
    (hdown : t.down.work (roomLeft s.socket t.answers) + n ≤ s.down.work (roomLeft s.socket s.answers)) :
    t.work ≤ s.work := by
  have hbytes : bytesLeft s.socket t.answers = bytesLeft s.socket s.answers := by rw [bytesLeft, bytesLeft, hanswers]
  apply work_le hconn hqueued
  rw [hsocket, hup, hpipe, hbytes]
  omega

theorem work_le_of_pipe {n : Nat} (hconn : t.conn.isSome = s.conn.isSome) (hqueued : t.queued = s.queued + n)
    (hsocket : t.socket = s.socket) (hread : t.answers.read = s.answers.read)
    (hwrite : t.answers.write = s.answers.write) (hup : t.up = s.up) (hdown : t.down = s.down)
    (hpipe : t.pipe.work + n ≤ s.pipe.work) : t.work ≤ s.work := by
  have hbytes : bytesLeft s.socket t.answers = bytesLeft s.socket s.answers := by rw [bytesLeft, bytesLeft, hread]
  have hroom : roomLeft s.socket t.answers = roomLeft s.socket s.answers := by rw [roomLeft, roomLeft, hwrite]
  apply work_le hconn hqueued
  rw [hsocket, hup, hdown, hbytes, hroom]
  omega

variable [LawfulTcpSocket σ]

/-- The commands that `service` can still find: it takes one in each of its turns, and no step but a poll adds to
them. -/
theorem work_step (hstep : s.step a = some t) (hpoll : ∀ socket arrived, a ≠ .poll socket arrived) :
    t.work + (if a.turns then 1 else 0) ≤ s.work := by
  cases step_move hstep with
  | poll socket arrived => exact absurd rfl (hpoll socket arrived)
  | serviceBegin _ hbegin =>
      obtain ⟨c, hconn, _, rfl⟩ := serviceBegin_cases hbegin
      refine work_install (n := 0) (Service.spent_serviceIo _ _) hconn ?_ true
      rw [Service.cmdRx_serviceIo]
      exact Nat.le_refl _
  | serviceNext _ hnext =>
      obtain ⟨c, cmd, rest, hconn, _, hqueue, rfl⟩ := serviceNext_cases hnext
      refine work_install (n := 1) (Service.spent_serviceCmd _ _ cmd rest) hconn ?_ s.serving
      rw [Service.serviceCmd, Service.cmdRx_serviceIo, Service.cmdRx_handleCmd, hqueue]
      exact Nat.le_refl _
  | serviceEnd c hconn => exact Nat.le_refl _
  | serviceDrop | stop => exact Nat.zero_le _
  | connect hpipe | join hpipe =>
      refine work_le_of_pipe (n := 0) rfl rfl rfl rfl rfl rfl rfl ?_
      simp [hpipe, PipePoint.work]
  | connectFail e hpipe =>
      refine work_le_of_pipe (n := 0) (isSome_dropVConn s) (queued_dropVConn s) rfl rfl rfl rfl rfl ?_
      simp [PipePoint.work]
  | readSend c hpipe hup hconn =>
      refine (Nat.add_zero _).trans_le ?_
      refine work_le_of_up (n := 1) (isSome_pushed hconn _) (queued_pushed hconn _) rfl rfl rfl rfl ?_
      rw [hup]
      exact Nat.le_refl _
  | readGone hpipe hup =>
      exact work_le_of_up (n := 0) rfl rfl rfl rfl rfl rfl (Nat.zero_le _)
  | readRecv reply result rest hup hawait =>
      refine work_le_of_up (n := 0) rfl rfl rfl rfl rfl rfl ?_
      rw [hup]
      exact work_afterRead_le _ hawait
  | writeSome n rest hup =>
      refine work_le_of_up (n := 0) rfl rfl rfl rfl rfl rfl ?_
      rw [hup]
      simp only
      split_ifs <;> exact Nat.le_refl _
  | writeFail e rest hup | flush hup => exact work_le_of_up (n := 0) rfl rfl rfl rfl rfl rfl (Nat.zero_le _)
  | srcRead n chunk rest hpipe hdown =>
      refine work_le_of_down (n := 0) rfl rfl rfl rfl rfl rfl ?_
      rw [hdown]
      exact Nat.le_refl _
  | srcEof hpipe hdown =>
      refine work_le_of_down (n := 0) rfl rfl rfl rfl rfl rfl ?_
      rw [hdown]
      simp only [DownPoint.work]
      omega
  | writeSend c buf written hdown hconn | closeWriteSend c hdown hconn =>
      refine (Nat.add_zero _).trans_le ?_
      refine work_le_of_down (n := 1) (isSome_pushed hconn _) (queued_pushed hconn _) rfl rfl rfl rfl ?_
      rw [hdown]
      exact Nat.le_refl _
  | srcFail | writeGone | closeWriteGone | closeWriteRecv =>
      exact work_le_of_down (n := 0) rfl rfl rfl rfl rfl rfl (Nat.zero_le _)
  | writeRecv buf written reply result rest hdown hawait =>
      refine work_le_of_down (n := 0) rfl rfl rfl rfl rfl rfl ?_
      rw [hdown]
      exact work_afterWrite_le _ buf written hawait
  | closeSend c hpipe hconn =>
      refine (Nat.add_zero _).trans_le ?_
      refine work_le_of_pipe (n := 1) (isSome_pushed hconn _) (queued_pushed hconn _) rfl rfl rfl rfl rfl ?_
      rw [hpipe]
      exact Nat.le_refl _
  | closeGone | closeRecv =>
      exact work_le_of_pipe (n := 0) (isSome_dropVConn s) (queued_dropVConn s) rfl rfl rfl rfl rfl (Nat.zero_le _)

omit [LawfulTcpSocket σ] in
/-- The commands that are on their way or still to be sent are those that the socket can be asked for. -/
theorem Flight.work_le (h : Flight s) (hconn : s.conn = some c) : s.work ≤ demand s.socket := by
  have hqueue : s.queued ≤ s.reads.length + s.writes.length + s.closeWrites.length + s.closes.length := by
    simpa [queued, hconn] using length_queue_le_held hconn
  have hup := UpPoint.work_add_le (rxBuffer s.socket).length h.reads.length_le
    (List.countP_le_length (p := carriesData))
  have hdown := DownPoint.work_add_le (txCapacity s.socket - (txBuffer s.socket).length) h.writes.length_le
    (List.countP_le_length (p := acceptsData)) h.closeWrites.length_le
  have hpipe := PipePoint.work_add_le h.closes.length_le
  simp only [work, demand, bytesLeft, roomLeft, hconn, Option.isSome_some, if_true]
  omega

end Session

namespace System

variable {start : Alloc σ} {sys sys' : System σ} {action : SystemAction σ} {chan : ChanId} {s : Session σ}
  {task : Task σ} {t : Session σ}

def workOf (sys : System σ) (chan : ChanId) : Nat := (sys.view chan).elim 0 Session.work

/-- The same for all connections together. -/
def allWork (sys : System σ) : Nat := ∑ chan ∈ Finset.range sys.actor.nextChan, sys.workOf chan

/-- What can be asked of the sockets of the connections that are in `conns`. -/
def allDemand (sys : System σ) : Nat :=
  ∑ chan ∈ Finset.range sys.actor.nextChan,
    (sys.view chan).elim 0 fun s => if s.conn.isSome then demand s.socket else 0

/-- What the turns of `try_accept` that are left can bring: each makes at most one connection of its listener. -/
def acceptsLeft (sys : System σ) : List SocketHandle → Nat
  | [] => 0
  | handle :: rest => (sys.actor.sockets.lookup handle).elim 0 (fun slot => demand slot.socket) + 3 + sys.acceptsLeft rest

/-- A bound on the steps of the actor up to its wait, when `service` can find `work` commands in all. -/
def stepsLeft (sys : System σ) (work : Nat) : Nat :=
  match sys.phase with
  | .accepting _ rest => sys.acceptsLeft rest + 2 * sys.actor.conns.keys.length + work + 3
  | .servicing rest => 2 * rest.length + work + 2
  | .serving _ rest => 2 * rest.length + work + 3
  | .egress => 1
  | .poll | .waiting | .stopped => 0

theorem stepsLeft_mono {m n : Nat} (h : m ≤ n) : sys.stepsLeft m ≤ sys.stepsLeft n := by
  unfold stepsLeft
  split <;> omega

theorem allWork_le (hnext : sys'.actor.nextChan = sys.actor.nextChan)
    (hwork : ∀ chan, sys'.workOf chan ≤ sys.workOf chan) : sys'.allWork ≤ sys.allWork := by
  rw [allWork, allWork, hnext]
  apply Finset.sum_le_sum
  exact fun chan _ => hwork chan

theorem allWork_lt (hnext : sys'.actor.nextChan = sys.actor.nextChan)
    (hwork : ∀ chan, sys'.workOf chan ≤ sys.workOf chan) (hmem : chan < sys.actor.nextChan)
    (hlt : sys'.workOf chan < sys.workOf chan) : sys'.allWork < sys.allWork := by
  rw [allWork, allWork, hnext]
  apply Finset.sum_lt_sum
  · exact fun other _ => hwork other
  · exact ⟨chan, Finset.mem_range.mpr hmem, hlt⟩

/-- Only the sockets that listen count. -/
theorem acceptsLeft_congr {rest : List SocketHandle}
    (h : ∀ handle ∈ rest, sys'.actor.sockets.lookup handle = sys.actor.sockets.lookup handle) :
    sys'.acceptsLeft rest = sys.acceptsLeft rest := by
  induction rest with
  | nil => rfl
  | cons handle rest ih =>
      rw [acceptsLeft, acceptsLeft, h handle List.mem_cons_self, ih fun other hmem => h other (List.mem_cons_of_mem _ hmem)]

/-- The other tasks leave the actor where it is, and the sockets that listen as they are. -/
theorem stepsLeft_le {m n : Nat} (hphase : sys'.phase = sys.phase) (h : Ordered sys)
    (hsockets : ∀ handle ∈ sys.actor.listeners, sys'.actor.sockets.lookup handle = sys.actor.sockets.lookup handle)
    (hkeys : sys'.actor.conns.keys.length ≤ sys.actor.conns.keys.length) (hwork : m ≤ n) :
    sys'.stepsLeft m ≤ sys.stepsLeft n := by
  unfold stepsLeft
  rw [hphase]
  split
  · rename_i processed rest hstand
    have haccepts : sys'.acceptsLeft rest = sys.acceptsLeft rest := by
      apply acceptsLeft_congr
      intro handle hmem
      apply hsockets
      rw [h.listeners_eq hstand]
      exact List.mem_append_right _ hmem
    omega
  all_goals omega

omit [TcpSocket σ] in
theorem lookup_sockets_put (h : Consistent sys) (task : Task σ) (t : Session σ) {handle : SocketHandle}
    (hlistener : handle ∈ sys.actor.listeners) :
    (sys.put task t).actor.sockets.lookup handle = sys.actor.sockets.lookup handle := by
  have hne {c : ConnState} (hentry : sys.entry task = some c) : handle ≠ task.handle := by
    rintro rfl
    exact h.owns.disjoint _ hlistener (Table.mem_of_lookup (entry_eq_some_iff.mp hentry).1)
  rcases putEntry_cases h task t with ⟨_, hput⟩ | ⟨c, slot, hsome, _, ⟨_, _, hput⟩ | ⟨_, hput⟩⟩
  · simp [put, hput]
  · simp [put, hput, AList.lookup_insert_ne (hne hsome)]
  · simp [put, hput, NetstackActor.remove, NetstackActor.record, AList.lookup_erase_ne (hne hsome)]

omit [TcpSocket σ] in
theorem length_keys_put (h : Consistent sys) (task : Task σ) (t : Session σ) :
    (sys.put task t).actor.conns.keys.length ≤ sys.actor.conns.keys.length := by
  rcases putEntry_cases h task t with ⟨_, hput⟩ | ⟨c, slot, hsome, _, ⟨_, _, hput⟩ | ⟨_, hput⟩⟩
  · simp [put, hput]
  · have hmem : task.handle ∈ sys.actor.conns.keys := AList.mem_keys.mp (Table.mem_of_lookup (entry_eq_some_iff.mp hsome).1)
    have hpos := List.length_pos_of_mem hmem
    simp only [put, hput, AList.keys_insert, List.length_cons, List.length_erase_of_mem hmem]
    omega
  · simp only [put, hput, AList.keys_erase]
    exact List.length_erase_le

variable [LawfulTcpSocket σ]

theorem on_ne_poll (hquiet : action.isQuiet = true) (hstep : sys.step action = some sys') (socket : σ)
    (arrived : List UInt8) : sys.on chan action ≠ some (.poll socket arrived) := by
  intro hon
  cases action with
  | poll | egress | acceptNext => cases hquiet
  | entryBegin | entryNext | entryEnd =>
      simp only [on] at hon
      split_ifs at hon
      cases hon
  | relay other a =>
      simp only [on] at hon
      split_ifs at hon
      cases hon
      cases step_move hstep with
      | relay _ _ _ _ _ _ hrelay => cases hrelay
      | serve _ _ _ _ _ _ _ hserves =>
          generalize sys.phase = phase at hserves
          cases hserves
  | _ => cases hon

/-- Between two polls and but for the connections that `try_accept` adds, there is never more to find than before. -/
theorem workOf_le (h : Ordered sys) (hquiet : action.isQuiet = true) (hstep : sys.step action = some sys')
    (chan : ChanId) : sys'.workOf chan ≤ sys.workOf chan := by
  have hfresh : action.FreshHandles := by
    cases action with
    | acceptNext => cases hquiet
    | _ => trivial
  unfold workOf
  rcases hview : sys.view chan with _ | s
  · rcases hview' : sys'.view chan with _ | s'
    · exact Nat.le_refl _
    · obtain ⟨⟨alloc, client, incoming, rfl⟩, _⟩ := step_born h hstep hview hview'
      cases hquiet
  · have hnext := step_view h hfresh hstep hview
    rcases hon : sys.on chan action with _ | a <;> rw [hon] at hnext
    · rw [hnext]
    · obtain ⟨s', hs', hview'⟩ := hnext
      have hpoll (socket : σ) (arrived : List UInt8) : a ≠ .poll socket arrived := by
        rintro rfl
        exact on_ne_poll hquiet hstep socket arrived hon
      rw [hview']
      exact Nat.le_trans (Nat.le_add_right _ _) (Session.work_step hs' hpoll)

section Accept

variable {alloc : Alloc σ} {client incoming : List UInt8} {processed rest : List SocketHandle}
  {handle handle' : SocketHandle} {slot : Slot σ} {next : System σ}

omit [LawfulTcpSocket σ] in
/-- A turn of `try_accept` is nothing to the connections that are there. -/
theorem workOf_turned (h : Ordered sys) (hfresh : alloc.Fresh)
    (hphase : sys.phase = .accepting processed (handle :: rest)) (hslot : sys.actor.sockets.lookup handle = some slot)
    (hturn : Turn sys alloc client incoming handle slot next handle') (hne : chan ≠ sys.actor.nextChan) :
    (next.turned processed rest handle').workOf chan = sys.workOf chan := by
  have hlistener : handle ∈ sys.actor.listeners := by simp [h.listeners_eq hphase]
  unfold workOf
  rcases htask : sys.tasks.lookup chan with _ | task
  · have hnone : next.tasks.lookup chan = none := by
      cases hturn with
      | waits | refused => exact htask
      | handedOver => exact (AList.lookup_insert_ne hne).trans htask
    rw [view, view, htask]
    simp only [turned, hnone, Option.map_none, Option.elim_none]
  · rw [view_turn h.toConsistent hphase hlistener hfresh hslot hturn htask, view, htask]
    rfl

omit [LawfulTcpSocket σ] in
/-- Everything that can be asked of the socket of a new connection is still to come. -/
theorem workOf_handedOver (h : Consistent sys) (m : ConnMeta) (listener : Traced σ) :
    ((sys.handedOver alloc handle slot ⟨m, sys.actor.nextChan⟩ listener client incoming).turned processed rest
      handle').workOf sys.actor.nextChan = demand slot.socket := by
  have hview : ((sys.handedOver alloc handle slot ⟨m, sys.actor.nextChan⟩ listener client incoming).turned processed
      rest handle').view sys.actor.nextChan =
        some (Session.accepted ⟨m, sys.actor.nextChan⟩ slot.socket.socket client incoming) :=
    view_eq_some_iff.mpr ⟨_, AList.lookup_insert _, session_handedOver h m listener processed rest handle'⟩
  rw [workOf, hview]
  change 0 + ((rxBuffer slot.socket).length + 0 + 1) + (txCapacity slot.socket - (txBuffer slot.socket).length + 0 + 2) +
    1 = demand slot.socket
  unfold demand
  omega

omit [LawfulTcpSocket σ] in
/-- A turn of `try_accept` makes at most one connection, of which no more can be asked than of its socket. -/
theorem allWork_turned (h : Ordered sys) (hfresh : alloc.Fresh)
    (hphase : sys.phase = .accepting processed (handle :: rest)) (hslot : sys.actor.sockets.lookup handle = some slot)
    (hturn : Turn sys alloc client incoming handle slot next handle') :
    2 * next.actor.conns.keys.length + (next.turned processed rest handle').allWork ≤
      2 * sys.actor.conns.keys.length + sys.allWork + (demand slot.socket + 2) := by
  have hold : ∑ chan ∈ Finset.range sys.actor.nextChan, (next.turned processed rest handle').workOf chan =
      sys.allWork := by
    apply Finset.sum_congr rfl
    intro chan hmem
    exact workOf_turned h hfresh hphase hslot hturn (Nat.ne_of_lt (Finset.mem_range.mp hmem))
  cases hturn with
  | waits | refused =>
      change 2 * sys.actor.conns.keys.length + ∑ chan ∈ Finset.range sys.actor.nextChan, _ ≤ _
      rw [hold]
      exact Nat.le_add_right _ _
  | handedOver loc remote listener =>
      have hkeys : (sys.actor.conns.insert handle
          (.new ⟨sys.actor.nextChan, [], false⟩)).keys.length ≤ sys.actor.conns.keys.length + 1 := by
        rw [AList.keys_insert]
        exact Nat.succ_le_succ List.length_erase_le
      change 2 * (sys.actor.conns.insert handle (.new ⟨sys.actor.nextChan, [], false⟩)).keys.length +
        ∑ chan ∈ Finset.range (sys.actor.nextChan + 1), _ ≤ _
      rw [Finset.sum_range_succ, hold, workOf_handedOver h.toConsistent]
      omega

end Accept

theorem workOf_lt (h : Ordered sys) (hcurrent : sys.current = some chan) (hview : sys.view chan = some s)
    (hstep : sys.step .entryNext = some sys') : sys'.workOf chan < sys.workOf chan := by
  have hfresh : SystemAction.FreshHandles (σ := σ) .entryNext := trivial
  have hnext := step_view h hfresh hstep hview
  simp only [on, if_pos hcurrent] at hnext
  obtain ⟨s', hs', hview'⟩ := hnext
  rw [workOf, workOf, hview, hview']
  apply Session.work_step hs'
  intro socket arrived heq
  cases heq

/-- A step on an entry brings the actor nearer to the end of its pass. -/
theorem stepsLeft_serve (h : Ordered sys) {a : SessionAction σ} {phase : Phase} {handle : SocketHandle}
    {conn : ConnState} (hserves : Serves sys.phase action handle a phase)
    (hconn : sys.actor.conns.lookup handle = some conn) (htask : sys.tasks.lookup conn.cmdRx.chan = some task)
    (hphase : sys'.phase = phase) (hnext : sys'.actor.nextChan = sys.actor.nextChan)
    (hstep : sys.step action = some sys') :
    phase ≠ .poll ∧ sys'.stepsLeft sys'.allWork + 1 ≤ sys.stepsLeft sys.allWork := by
  have hquiet : action.isQuiet = true := by
    generalize sys.phase = stand at hserves
    cases hserves <;> rfl
  have hle : sys'.allWork ≤ sys.allWork := allWork_le hnext (workOf_le h hquiet hstep)
  generalize hstand : sys.phase = stand at hserves
  cases hserves with
  | first rest | last rest =>
      refine ⟨Phase.noConfusion, ?_⟩
      simp only [stepsLeft, hstand, hphase, List.length_cons]
      omega
  | next rest =>
      have hview : sys.view conn.cmdRx.chan = some (sys.session task) := view_eq_some_iff.mpr ⟨task, htask, rfl⟩
      have hcurrent : sys.current = some conn.cmdRx.chan := by
        rw [current, hstand]
        simp only [hconn, Option.map_some]
      have hlt := allWork_lt hnext (workOf_le h hquiet hstep) (h.keyed htask).2 (workOf_lt h hcurrent hview hstep)
      refine ⟨Phase.noConfusion, ?_⟩
      simp only [stepsLeft, hstand, hphase]
      omega

/-- Each step of the actor inside its round brings it nearer to its wait, and no step of the other tasks takes it
further away. -/
theorem stepsLeft_step (h : Ordered sys) (hfresh : action.FreshHandles) (hround : action.endsRound = false)
    (hpoll : sys.phase ≠ .poll) (hstep : sys.step action = some sys') :
    sys'.phase ≠ .poll ∧
      sys'.stepsLeft sys'.allWork + (if action.isActor then 1 else 0) ≤ sys.stepsLeft sys.allWork := by
  have hwork (hquiet : action.isQuiet = true) (hnext : sys'.actor.nextChan = sys.actor.nextChan) :
      sys'.allWork ≤ sys.allWork := allWork_le hnext (workOf_le h hquiet hstep)
  cases step_move hstep with
  | poll _ _ hphase => exact absurd hphase hpoll
  | wake | stopRecv => cases hround
  | acceptNext alloc client incoming processed rest handle handle' slot next hphase hslot _ hturn =>
      refine ⟨Phase.noConfusion, ?_⟩
      have hgrow := allWork_turned h hfresh hphase hslot hturn
      have hrest : (next.turned processed rest handle').acceptsLeft rest = sys.acceptsLeft rest := by
        apply acceptsLeft_congr
        intro other hmem
        have hlisteners := h.listeners_eq hphase
        have hne : other ≠ handle := by
          rintro rfl
          have hnodup := h.owns.distinct
          rw [hlisteners] at hnodup
          exact (List.nodup_cons.mp (List.nodup_append.mp hnodup).2.1).1 hmem
        have hsocket : other ∈ sys.actor.sockets := by
          rw [h.owns.exact, hlisteners]
          exact Or.inl (List.mem_append_right _ (List.mem_cons_of_mem _ hmem))
        obtain ⟨a, hturned, _, hlookup, _, _⟩ := hturn.acceptStep hslot
        exact (hlookup other hne).trans (NetstackActor.lookup_acceptStep hfresh hturned hsocket hne)
      simp only [stepsLeft, hphase, acceptsLeft, hslot, Option.elim_some]
      change (next.turned processed rest handle').acceptsLeft rest + 2 * next.actor.conns.keys.length + _ + 3 + 1 ≤ _
      omega
  | serviceCommands order processed hphase horder =>
      have hall := hwork rfl rfl
      refine ⟨Phase.noConfusion, ?_⟩
      simp only [stepsLeft, hphase, acceptsLeft, horder.length_eq, SystemAction.isActor, if_true]
      omega
  | serve _ a phase handle conn task t hserves hconn htask ht =>
      have hactor : action.isActor = true := by
        generalize sys.phase = stand at hserves
        cases hserves <;> rfl
      rw [if_pos hactor]
      exact stepsLeft_serve h hserves hconn htask rfl (nextChan_put h.toConsistent task t) hstep
  | serviceDone hphase =>
      refine ⟨Phase.noConfusion, ?_⟩
      simp only [stepsLeft, hphase, SystemAction.isActor, if_true]
      omega
  | egress _ hphase =>
      refine ⟨Phase.noConfusion, ?_⟩
      simp only [stepsLeft, hphase, SystemAction.isActor, if_true]
      omega
  | dispatch | dispatcherEnd | stopGone | stopSend | handleDrop =>
      exact ⟨hpoll, stepsLeft_le rfl h (fun _ _ => rfl) (Nat.le_refl _) (hwork rfl rfl)⟩
  | relay chan a task t htask _ hrelay ht =>
      refine ⟨hpoll, stepsLeft_le rfl h ?_ ?_ ?_⟩
      · exact fun _ hmem => lookup_sockets_put h.toConsistent task t hmem
      · exact length_keys_put h.toConsistent task t
      · exact hwork rfl (nextChan_put h.toConsistent task t)

omit [LawfulTcpSocket σ] in
theorem allWork_le_allDemand (h : ∀ chan s, sys.view chan = some s → s.Flight) : sys.allWork ≤ sys.allDemand := by
  apply Finset.sum_le_sum
  intro chan _
  unfold workOf
  rcases hview : sys.view chan with _ | s
  · exact Nat.le_refl _
  · change s.work ≤ if s.conn.isSome then demand s.socket else 0
    split
    · rename_i hsome
      obtain ⟨c, hconn⟩ := Option.isSome_iff_exists.mp hsome
      exact (h chan s hview).work_le hconn
    · rename_i hnone
      rw [Session.work, if_neg hnone]

/-- Every round of the actor ends, whatever the relays, the dispatcher, the upstreams and the owner of the handle do
meanwhile: from any state after its poll it makes at most a step for each byte and each free place in the buffers of
the sockets, and a fixed number of them for each socket and each listener, before it waits again; and up to the
egress its next step is always possible. -/
theorem round_ends (hstart : start.Fresh) (allowed : Session σ → SessionAction σ → Prop) :
    ∃ sys₀ : System σ, spawn start = some sys₀ ∧ ∀ trace sys, Runs allowed sys₀ trace sys → sys.phase ≠ .poll →
      ∀ more sys', Transition.Run System.step (fun _ action => action.FreshHandles ∧ action.endsRound = false)
          sys more sys' →
        more.countP SystemAction.isActor ≤ sys.stepsLeft sys.allDemand ∧ sys'.phase ≠ .poll ∧ Proceeds sys' := by
  obtain ⟨a, ha, _, _, hordered⟩ := spawn_eq hstart
  refine ⟨_, ha, ?_⟩
  intro trace sys hrun hphase more sys' hmore
  have h := hordered.run hrun
  have hflight : ∀ chan s, sys.view chan = some s → s.Flight := by
    intro chan s hview
    exact hordered.session_invariant rfl hrun hview .accepted fun _ _ _ h hstep => h.step hstep
  have hstep : ∀ (t : System σ) (action : SystemAction σ) (u : System σ), Ordered t ∧ t.phase ≠ .poll →
      action.FreshHandles ∧ action.endsRound = false → t.step action = some u → (Ordered u ∧ u.phase ≠ .poll) ∧
        u.stepsLeft u.allWork + (if action.isActor then 1 else 0) ≤ t.stepsLeft t.allWork := by
    rintro t action u ⟨ht, hpoll⟩ ⟨hfresh, hround⟩ hstep
    obtain ⟨hpoll', hrank⟩ := stepsLeft_step ht hfresh hround hpoll hstep
    exact ⟨⟨ht.step hfresh hstep, hpoll'⟩, hrank⟩
  have hinvariant := fun t action u ht hallowed hnext => (hstep t action u ht hallowed hnext).1
  have hrank := fun t action u ht hallowed hnext => (hstep t action u ht hallowed hnext).2
  have hcount := hmore.countP_add_rank_le hinvariant hrank ⟨h, hphase⟩
  obtain ⟨h', hphase'⟩ := hmore.invariant hinvariant ⟨h, hphase⟩
  refine ⟨?_, hphase', h'.proceeds⟩
  have hdemand : sys.stepsLeft sys.allWork ≤ sys.stepsLeft sys.allDemand := stepsLeft_mono (allWork_le_allDemand hflight)
  omega

def restOfRound : List (SystemAction BufferedSocket) :=
  [.entryEnd, .entryBegin, .entryNext, .entryEnd, .serviceDone, .egress NetstackActor.idle]

/-- Eight steps of the actor up to its wait; one of the relays has two commands taken. -/
theorem round_ends_read_again :
    ∃ sys₀ sys sys' : System BufferedSocket, spawn .firstFree = some sys₀ ∧
      Runs (fun _ _ => True) sys₀ (twoClients.take 26) sys ∧
      Transition.Run System.step (fun _ action => action.FreshHandles ∧ action.endsRound = false) sys
        (readAgain ++ restOfRound) sys' ∧
      (readAgain ++ restOfRound).countP SystemAction.isActor = 8 ∧ 8 ≤ sys.stepsLeft sys.allDemand := by
  have hexec : ((spawn .firstFree).bind fun sys => Transition.execute System.step (Everywhere fun _ _ => True) sys
      (twoClients.take 26)).any (fun sys => sys.isServing 1 &&
        (Transition.execute System.step (fun _ action => action.endsRound = false) sys
          (readAgain ++ restOfRound)).any fun _ => true) = true := by
    decide +kernel
  have hfresh : ∀ action ∈ twoClients.take 26 ++ (readAgain ++ restOfRound), action.FreshHandles :=
    twoClients_append_fresh (by decide)
  obtain ⟨sys₀, sys, hspawn, hrun, hs⟩ := exists_run_of_execute
    (fun action hmem => hfresh action (List.mem_append_left _ hmem)) hexec
  obtain ⟨hserving, hmore⟩ := Bool.and_eq_true_iff.mp hs
  have hphase : sys.phase ≠ .poll := by
    intro hphase
    rw [isServing, hphase] at hserving
    cases hserving
  obtain ⟨sys', hmore, _⟩ := Transition.Run.exists_of_execute hmore
  have hmore := hmore.mono fun action hmem _ hround =>
    And.intro (hfresh action (List.mem_append_right _ hmem)) hround
  obtain ⟨sys₁, hspawn₁, hall⟩ := round_ends (σ := BufferedSocket) Alloc.firstFree_fresh fun _ _ => True
  cases hspawn.symm.trans hspawn₁
  exact ⟨sys₀, sys, sys', hspawn, hrun, hmore, rfl, (hall _ sys hrun hphase _ sys' hmore).1⟩

end System

end SmoltcpSocks
