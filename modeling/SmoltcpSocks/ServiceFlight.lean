import SmoltcpSocks.ConnState
import SmoltcpSocks.Oneshot

/-! The requests of one connection while the actor holds them, queued on the channel or parked, and
what each part of a service round makes of a caller that has at most one request of a kind
outstanding. -/

namespace SmoltcpSocks

namespace ConnState

/-- The reads in the hands of the actor, the parked one first. -/
def reads (c : ConnState) : List (Nat × ReplyId) :=
  c.read.toList.map (fun read => (read.maxLen, read.reply)) ++ c.cmdRx.queue.filterMap ConnCmd.asRead

/-- The writes in the hands of the actor, the parked one first. -/
def writes (c : ConnState) : List (List UInt8 × ReplyId) :=
  c.write.toList.map (fun write => (write.data, write.reply)) ++
    c.cmdRx.queue.filterMap ConnCmd.asWrite

def closeWrites (c : ConnState) : List ReplyId := c.cmdRx.queue.filterMap ConnCmd.asCloseWrite

def closes (c : ConnState) : List ReplyId := c.cmdRx.queue.filterMap ConnCmd.asClose

/-- `requests` are those of one kind: behind what is parked, the commands of that kind on the channel. -/
def OfKind {ρ : Type} (requests : ConnState → List ρ) (ofCmd : ConnCmd → Option ρ) : Prop :=
  ∀ c : ConnState, ∃ parked, ∀ rx, requests { c with cmdRx := rx } = parked ++ rx.queue.filterMap ofCmd

theorem reads_ofKind : OfKind reads ConnCmd.asRead :=
  fun c => ⟨c.read.toList.map fun read => (read.maxLen, read.reply), fun _ => rfl⟩

theorem writes_ofKind : OfKind writes ConnCmd.asWrite :=
  fun c => ⟨c.write.toList.map fun write => (write.data, write.reply), fun _ => rfl⟩

theorem closeWrites_ofKind : OfKind closeWrites ConnCmd.asCloseWrite := fun _ => ⟨[], fun _ => rfl⟩

theorem closes_ofKind : OfKind closes ConnCmd.asClose := fun _ => ⟨[], fun _ => rfl⟩

variable {ρ : Type} {requests : ConnState → List ρ} {ofCmd : ConnCmd → Option ρ}

theorem OfKind.push (h : OfKind requests ofCmd) (c : ConnState) (cmd : ConnCmd) :
    requests { c with cmdRx := c.cmdRx.push cmd } = requests c ++ (ofCmd cmd).toList := by
  obtain ⟨parked, hparked⟩ := h c
  have hcons : [cmd].filterMap ofCmd = (ofCmd cmd).toList := by
    rcases hcmd : ofCmd cmd <;> simp [hcmd]
  rw [hparked, show requests c = _ from hparked c.cmdRx, CmdReceiver.push, List.filterMap_append, hcons,
    List.append_assoc]

theorem OfKind.close (h : OfKind requests ofCmd) (c : ConnState) :
    requests { c with cmdRx := c.cmdRx.close } = requests c := by
  obtain ⟨parked, hparked⟩ := h c
  exact (hparked c.cmdRx.close).trans (hparked c.cmdRx).symm

end ConnState

namespace Service

variable {σ : Type} [TcpSocket σ] {callers : Callers} {v w : Service σ} {gone : Prop}

theorem reads_eq_cons {c : ConnState} {read : PendingRead} (h : c.read = some read) :
    c.reads = (read.maxLen, read.reply) :: c.cmdRx.queue.filterMap ConnCmd.asRead := by
  simp [ConnState.reads, h]

theorem writes_eq_cons {c : ConnState} {write : PendingWrite} (h : c.write = some write) :
    c.writes = (write.data, write.reply) :: c.cmdRx.queue.filterMap ConnCmd.asWrite := by
  simp [ConnState.writes, h]

/-- The read half keeps a caller's one outstanding read: it leaves it or answers it. -/
theorem ReadStep.outstanding {awaited : Option ((Nat × ReplyId) × ReplyId)} (h : ReadStep callers v w)
    (hout : Oneshot.Outstanding v.conn.reads v.answers.read gone awaited)
    (hopen : ∀ request reply, awaited = some (request, reply) →
      reply = request.2 ∧ callers.readClosed reply = false) :
    Oneshot.Outstanding w.conn.reads w.answers.read gone awaited := by
  have hanswer (read : PendingRead) (hread : v.conn.read = some read) (result) :
      Oneshot.Outstanding (v.conn.cmdRx.queue.filterMap ConnCmd.asRead)
        (v.answers.read ++ [(read.reply, result)]) gone awaited := by
    rw [reads_eq_cons hread] at hout
    exact hout.answer (fun reply hreply => (hopen _ _ hreply).1) result
  cases h with
  | idle => exact hout
  | parked => exact hout
  | cancelled read hread hclosed =>
      rw [reads_eq_cons hread] at hout
      obtain ⟨reply, hawaited, _⟩ := hout.awaited_of_held
      obtain ⟨rfl, hopen⟩ := hopen _ _ hawaited
      simp [hclosed] at hopen
  | empty read hread => simpa [setRead, answerRead, ConnState.reads] using hanswer read hread (.ok [])
  | data read hread =>
      simpa [setRead, setSocket, answerRead, ConnState.reads] using hanswer read hread _
  | finished read hread =>
      simpa [setRead, setSocket, answerRead, ConnState.reads] using hanswer read hread (.ok [])
  | aborted read hread =>
      simpa [setRead, setSocket, answerRead, ConnState.reads] using hanswer read hread (.error .closed)

theorem WriteStep.outstanding {awaited : Option ((List UInt8 × ReplyId) × ReplyId)}
    (h : WriteStep callers v w)
    (hout : Oneshot.Outstanding v.conn.writes v.answers.write gone awaited)
    (hopen : ∀ request reply, awaited = some (request, reply) →
      reply = request.2 ∧ callers.writeClosed reply = false) :
    Oneshot.Outstanding w.conn.writes w.answers.write gone awaited := by
  have hanswer (write : PendingWrite) (hwrite : v.conn.write = some write) (result) :
      Oneshot.Outstanding (v.conn.cmdRx.queue.filterMap ConnCmd.asWrite)
        (v.answers.write ++ [(write.reply, result)]) gone awaited := by
    rw [writes_eq_cons hwrite] at hout
    exact hout.answer (fun reply hreply => (hopen _ _ hreply).1) result
  cases h with
  | idle => exact hout
  | parked => exact hout
  | cancelled write hwrite hclosed =>
      rw [writes_eq_cons hwrite] at hout
      obtain ⟨reply, hawaited, _⟩ := hout.awaited_of_held
      obtain ⟨rfl, hopen⟩ := hopen _ _ hawaited
      simp [hclosed] at hopen
  | empty write hwrite =>
      simpa [setWrite, answerWrite, ConnState.writes] using hanswer write hwrite (.ok 0)
  | sent write hwrite =>
      simpa [setWrite, setSocket, answerWrite, ConnState.writes] using hanswer write hwrite (.ok _)
  | closed write hwrite =>
      simpa [setWrite, setSocket, answerWrite, ConnState.writes] using
        hanswer write hwrite (.error .closed)

variable {cmd : ConnCmd} {rest : List ConnCmd}

/-- Handling a command moves a read from the queue to its place, never behind another one. -/
theorem handleCmd_reads {awaited : Option ((Nat × ReplyId) × ReplyId)}
    (hqueue : v.conn.cmdRx.queue = cmd :: rest)
    (hout : Oneshot.Outstanding v.conn.reads v.answers.read gone awaited) :
    (handleCmd (v.setQueue rest) cmd).conn.reads = v.conn.reads ∧
      (handleCmd (v.setQueue rest) cmd).answers.read = v.answers.read := by
  cases cmd with
  | read maxLen reply =>
      rcases hread : v.conn.read with _ | read
      · simp [handleCmd, setQueue, setRead, hread, ConnState.reads, hqueue,
        ConnCmd.asRead]
      · rw [reads_eq_cons hread, hqueue] at hout
        obtain ⟨_, _, hnil, _⟩ := hout.awaited_of_held
        simp [ConnCmd.asRead] at hnil
  | write data reply =>
      rcases hwrite : v.conn.write with _ | write <;>
        simp [handleCmd, setQueue, setWrite, answerWrite, hwrite, ConnState.reads, hqueue,
        List.filterMap_cons, ConnCmd.asRead]
  | closeWrite reply =>
      simp [handleCmd, setQueue, setSocket, answerCloseWrite, ConnState.reads, hqueue,
        List.filterMap_cons, ConnCmd.asRead]
  | close reply =>
      simp [handleCmd, setQueue, setSocket, answerClose, ConnState.reads, hqueue,
        List.filterMap_cons, ConnCmd.asRead]

theorem handleCmd_writes {awaited : Option ((List UInt8 × ReplyId) × ReplyId)}
    (hqueue : v.conn.cmdRx.queue = cmd :: rest)
    (hout : Oneshot.Outstanding v.conn.writes v.answers.write gone awaited) :
    (handleCmd (v.setQueue rest) cmd).conn.writes = v.conn.writes ∧
      (handleCmd (v.setQueue rest) cmd).answers.write = v.answers.write := by
  cases cmd with
  | write data reply =>
      rcases hwrite : v.conn.write with _ | write
      · simp [handleCmd, setQueue, setWrite, hwrite, ConnState.writes, hqueue,
        ConnCmd.asWrite]
      · rw [writes_eq_cons hwrite, hqueue] at hout
        obtain ⟨_, _, hnil, _⟩ := hout.awaited_of_held
        simp [ConnCmd.asWrite] at hnil
  | read maxLen reply =>
      rcases hread : v.conn.read with _ | read <;>
        simp [handleCmd, setQueue, setRead, answerRead, hread, ConnState.writes, hqueue,
        List.filterMap_cons, ConnCmd.asWrite]
  | closeWrite reply =>
      simp [handleCmd, setQueue, setSocket, answerCloseWrite, ConnState.writes, hqueue,
        List.filterMap_cons, ConnCmd.asWrite]
  | close reply =>
      simp [handleCmd, setQueue, setSocket, answerClose, ConnState.writes, hqueue,
        List.filterMap_cons, ConnCmd.asWrite]

theorem handleCmd_closeWrites {awaited : Option (ReplyId × ReplyId)}
    (hqueue : v.conn.cmdRx.queue = cmd :: rest)
    (hout : Oneshot.Outstanding v.conn.closeWrites v.answers.closeWrite gone awaited)
    (hreply : ∀ request reply, awaited = some (request, reply) → reply = request) :
    Oneshot.Outstanding (handleCmd (v.setQueue rest) cmd).conn.closeWrites
      (handleCmd (v.setQueue rest) cmd).answers.closeWrite gone awaited := by
  rw [ConnState.closeWrites, hqueue] at hout
  cases cmd with
  | closeWrite reply => exact hout.answer (fun reply' h => hreply _ _ h) (.ok ())
  | read maxLen reply => rcases hread : v.conn.read with _ | read <;>
      simpa [handleCmd, setQueue, setRead, answerRead, hread, ConnState.closeWrites,
        List.filterMap_cons, ConnCmd.asCloseWrite] using hout
  | write data reply => rcases hwrite : v.conn.write with _ | write <;>
      simpa [handleCmd, setQueue, setWrite, answerWrite, hwrite, ConnState.closeWrites,
        List.filterMap_cons, ConnCmd.asCloseWrite] using hout
  | close reply => exact hout

theorem handleCmd_closes {awaited : Option (ReplyId × ReplyId)}
    (hqueue : v.conn.cmdRx.queue = cmd :: rest)
    (hout : Oneshot.Outstanding v.conn.closes v.answers.close gone awaited)
    (hreply : ∀ request reply, awaited = some (request, reply) → reply = request) :
    Oneshot.Outstanding (handleCmd (v.setQueue rest) cmd).conn.closes
      (handleCmd (v.setQueue rest) cmd).answers.close gone awaited := by
  rw [ConnState.closes, hqueue] at hout
  cases cmd with
  | close reply => exact hout.answer (fun reply' h => hreply _ _ h) (.ok ())
  | read maxLen reply => rcases hread : v.conn.read with _ | read <;>
      simpa [handleCmd, setQueue, setRead, answerRead, hread, ConnState.closes,
        List.filterMap_cons, ConnCmd.asClose] using hout
  | write data reply => rcases hwrite : v.conn.write with _ | write <;>
      simpa [handleCmd, setQueue, setWrite, answerWrite, hwrite, ConnState.closes,
        List.filterMap_cons, ConnCmd.asClose] using hout
  | closeWrite reply => exact hout

end Service

end SmoltcpSocks
