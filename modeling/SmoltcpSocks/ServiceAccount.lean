import SmoltcpSocks.ServiceFlight
import SmoltcpSocks.Ledger

/-! The account of a connection's requests across the parts of a service round: every read and write the
actor has taken is answered once, parked or dropped as cancelled, and the bytes that left the receive
buffer and those that entered the transmit buffer are the ones the answers speak of. -/

namespace SmoltcpSocks

open TcpSocket

namespace Service

def readBytes (answer : ReplyId × Except VConnError (List UInt8)) : List UInt8 :=
  match answer.2 with
  | .ok data => data
  | .error _ => []

/-- The bytes of a write that its reply says were enqueued. -/
def writeBytes (entry : (List UInt8 × ReplyId) × (ReplyId × Except VConnError Nat)) : List UInt8 :=
  match entry.2.2 with
  | .ok n => entry.1.1.take n
  | .error _ => []

/-- An answer that a read may get: at most what it asked for, and a refusal only when it was refused. -/
structure ReadAnswer (refused : Nat × ReplyId → Prop) (request : Nat × ReplyId)
    (answer : ReplyId × Except VConnError (List UInt8)) : Prop where
  reply : answer.1 = request.2
  length : ∀ data, answer.2 = .ok data → data.length ≤ request.1
  refused : ∀ message, answer.2 = .error (wouldBlock message) → refused request

/-- An answer that a write may get: some of its bytes, if it has any, are enqueued. -/
structure WriteAnswer (refused : List UInt8 × ReplyId → Prop) (request : List UInt8 × ReplyId)
    (answer : ReplyId × Except VConnError Nat) : Prop where
  reply : answer.1 = request.2
  count : ∀ n, answer.2 = .ok n → n ≤ request.1.length ∧ (request.1 ≠ [] → 0 < n)
  refused : ∀ message, answer.2 = .error (wouldBlock message) → refused request

variable {σ : Type}

/-- The reads made so far: those answered behind `base`, which took `handed` out of the receive buffer,
those in the hands of the actor, and cancelled ones. -/
def ReadAccount (callers : Callers) (refused : Nat × ReplyId → Prop) (requests : List (Nat × ReplyId))
    (base : List (ReplyId × Except VConnError (List UInt8))) (handed : List UInt8) (v : Service σ) : Prop :=
  Ledger.Account (ReadAnswer refused) (fun request => callers.readClosed request.2 = true)
    (fun entry => readBytes entry.2) base requests v.conn.reads v.answers.read handed

/-- The writes made so far: those answered behind `base`, which put `enqueued` into the transmit buffer,
those in the hands of the actor, and cancelled ones. -/
def WriteAccount (callers : Callers) (refused : List UInt8 × ReplyId → Prop)
    (requests : List (List UInt8 × ReplyId)) (base : List (ReplyId × Except VConnError Nat))
    (enqueued : List UInt8) (v : Service σ) : Prop :=
  Ledger.Account (WriteAnswer refused) (fun request => callers.writeClosed request.2 = true) writeBytes
    base requests v.conn.writes v.answers.write enqueued

section Reads

variable {callers : Callers} {refused : Nat × ReplyId → Prop} {requests : List (Nat × ReplyId)}
  {base : List (ReplyId × Except VConnError (List UInt8))} {handed : List UInt8} {v w : Service σ}

theorem ReadAnswer.ok {request : Nat × ReplyId} {data : List UInt8} (h : data.length ≤ request.1) :
    ReadAnswer refused request (request.2, .ok data) := by
  refine ⟨rfl, fun data' heq => ?_, fun message heq => ?_⟩
  · cases heq
    exact h
  · cases heq

theorem ReadAnswer.error {request : Nat × ReplyId} {e : VConnError}
    (h : ∀ message, e = wouldBlock message → refused request) :
    ReadAnswer refused request (request.2, .error e) := by
  refine ⟨rfl, fun data heq => ?_, fun message heq => ?_⟩
  · cases heq
  · exact h message (Except.error.inj heq)

theorem ReadAccount.frame (h : ReadAccount callers refused requests base handed v)
    (hreads : w.conn.reads = v.conn.reads) (hanswers : w.answers.read = v.answers.read) :
    ReadAccount callers refused requests base handed w := by
  rw [ReadAccount, hreads, hanswers]
  exact h

variable [TcpSocket σ]

/-- The read half moves the bytes it hands out from the receive buffer to the account. -/
theorem ReadStep.account [LawfulTcpSocket σ] (h : ReadStep callers v w)
    (hacc : ReadAccount callers refused requests base handed v) :
    ∃ chunk, rxBuffer v.socket = chunk ++ rxBuffer w.socket ∧
      ReadAccount callers refused requests base (handed ++ chunk) w := by
  have hreads (read : PendingRead) (hread : v.conn.read = some read) (hnone : w.conn.read = none)
      (hqueue : w.conn.cmdRx = v.conn.cmdRx) :
      v.conn.reads.Perm ((read.maxLen, read.reply) :: w.conn.reads) := by
    rw [reads_eq_cons hread, ConnState.reads, hnone, hqueue]
    simp
  have hnil (request : Nat × ReplyId) : ReadAnswer refused request (request.2, .ok []) :=
    ReadAnswer.ok (Nat.zero_le _)
  cases h with
  | idle | parked => exact ⟨[], rfl, by simpa using hacc⟩
  | cancelled read hread hclosed =>
      refine ⟨[], rfl, ?_⟩
      rw [List.append_nil]
      exact hacc.drop (hreads read hread rfl rfl) hclosed
  | empty read hread => exact ⟨[], rfl, hacc.answer (hreads read hread rfl rfl) (hnil _) rfl⟩
  | data read hread =>
      refine ⟨(rxBuffer v.socket).take read.maxLen, ?_, ?_⟩
      · change rxBuffer v.socket = _ ++ rxBuffer (recvSlice v.socket _).2
        rw [rxBuffer_recvSlice, ← take_recvQueue, List.take_append_drop]
      · exact hacc.answer (hreads read hread rfl rfl) (ReadAnswer.ok (List.length_take_le _ _)) rfl
  | finished read hread hclosed hpos hrx =>
      refine ⟨[], by simp [answerRead, setSocket, hrx], ?_⟩
      exact hacc.answer (hreads read hread rfl rfl) (hnil _) rfl
  | aborted read hread hclosed hpos hrx =>
      refine ⟨[], by simp [answerRead, setSocket, hrx], ?_⟩
      refine hacc.answer (hreads read hread rfl rfl) (ReadAnswer.error fun message heq => ?_) rfl
      cases heq

variable {cmd : ConnCmd} {rest : List ConnCmd}

/-- A read is parked, or refused behind the one that is. -/
theorem ReadAccount.handleCmd (hacc : ReadAccount callers refused requests base handed v)
    (hqueue : v.conn.cmdRx.queue = cmd :: rest)
    (hrefused : ∀ maxLen reply, cmd = .read maxLen reply → v.conn.read ≠ none → refused (maxLen, reply)) :
    ReadAccount callers refused requests base handed (handleCmd (v.setQueue rest) cmd) := by
  cases cmd with
  | read maxLen reply =>
      rcases hread : v.conn.read with _ | read
      · refine hacc.frame ?_ ?_ <;>
          simp [Service.handleCmd, setQueue, setRead, hread, ConnState.reads, hqueue, ConnCmd.asRead]
      · have hcmd : Service.handleCmd (v.setQueue rest) (.read maxLen reply) = (v.setQueue rest).answerRead
            reply (.error (wouldBlock "a read is already pending")) := by
          simp [Service.handleCmd, setQueue, hread]
        have hreads : v.conn.reads.Perm ((maxLen, reply) :: (v.setQueue rest).conn.reads) := by
          rw [reads_eq_cons hread, hqueue, reads_eq_cons (c := (v.setQueue rest).conn) hread]
          exact List.Perm.swap _ _ _
        rw [hcmd, ← List.append_nil handed]
        refine hacc.answer hreads (ReadAnswer.error fun _ _ => ?_) rfl
        exact hrefused maxLen reply rfl (by simp [hread])
  | write data reply =>
      refine hacc.frame ?_ ?_ <;> rcases hwrite : v.conn.write with _ | write <;>
        simp [Service.handleCmd, setQueue, setWrite, answerWrite, hwrite, ConnState.reads, hqueue,
          List.filterMap_cons, ConnCmd.asRead]
  | closeWrite reply =>
      refine hacc.frame ?_ rfl
      simp [Service.handleCmd, setQueue, setSocket, answerCloseWrite, ConnState.reads, hqueue,
        List.filterMap_cons, ConnCmd.asRead]
  | close reply =>
      refine hacc.frame ?_ rfl
      simp [Service.handleCmd, setQueue, setSocket, answerClose, ConnState.reads, hqueue,
        List.filterMap_cons, ConnCmd.asRead]

end Reads

section Writes

variable {callers : Callers} {refused : List UInt8 × ReplyId → Prop}
  {requests : List (List UInt8 × ReplyId)} {base : List (ReplyId × Except VConnError Nat)}
  {enqueued : List UInt8} {v w : Service σ}

theorem WriteAnswer.ok {request : List UInt8 × ReplyId} {n : Nat} (hle : n ≤ request.1.length)
    (hpos : request.1 ≠ [] → 0 < n) : WriteAnswer refused request (request.2, .ok n) := by
  refine ⟨rfl, fun n' heq => ?_, fun message heq => ?_⟩
  · cases heq
    exact ⟨hle, hpos⟩
  · cases heq

theorem WriteAnswer.error {request : List UInt8 × ReplyId} {e : VConnError}
    (h : ∀ message, e = wouldBlock message → refused request) :
    WriteAnswer refused request (request.2, .error e) := by
  refine ⟨rfl, fun n heq => ?_, fun message heq => ?_⟩
  · cases heq
  · exact h message (Except.error.inj heq)

theorem WriteAccount.frame (h : WriteAccount callers refused requests base enqueued v)
    (hwrites : w.conn.writes = v.conn.writes) (hanswers : w.answers.write = v.answers.write) :
    WriteAccount callers refused requests base enqueued w := by
  rw [WriteAccount, hwrites, hanswers]
  exact h

variable [TcpSocket σ]

theorem WriteStep.account [LawfulTcpSocket σ] (h : WriteStep callers v w)
    (hacc : WriteAccount callers refused requests base enqueued v) :
    ∃ chunk, txBuffer w.socket = txBuffer v.socket ++ chunk ∧
      WriteAccount callers refused requests base (enqueued ++ chunk) w := by
  have hwrites (write : PendingWrite) (hwrite : v.conn.write = some write) (hnone : w.conn.write = none)
      (hqueue : w.conn.cmdRx = v.conn.cmdRx) :
      v.conn.writes.Perm ((write.data, write.reply) :: w.conn.writes) := by
    rw [writes_eq_cons hwrite, ConnState.writes, hnone, hqueue]
    simp
  cases h with
  | idle | parked => exact ⟨[], by simp, by simpa using hacc⟩
  | cancelled write hwrite hclosed =>
      refine ⟨[], by simp [setWrite], ?_⟩
      rw [List.append_nil]
      exact hacc.drop (hwrites write hwrite rfl rfl) hclosed
  | empty write hwrite hclosed hdata =>
      refine ⟨[], by simp [setWrite, answerWrite], ?_⟩
      refine hacc.answer (hwrites write hwrite rfl rfl) ?_ (by simp [writeBytes])
      exact WriteAnswer.ok (Nat.zero_le _) fun hne => absurd hdata hne
  | sent write hwrite hclosed hdata hmay hroom =>
      refine ⟨write.data.take (min write.data.length (txCapacity v.socket - (txBuffer v.socket).length)),
        ?_, ?_⟩
      · change txBuffer (sendSlice v.socket write.data).2 = _
        rw [txBuffer_sendSlice, if_pos hmay, Nat.min_comm, ← List.take_take, List.take_length]
      · refine hacc.answer (hwrites write hwrite rfl rfl) (WriteAnswer.ok (Nat.min_le_left _ _) fun _ => ?_) rfl
        have hpos := List.length_pos_iff.mpr hdata
        omega
  | closed write hwrite hclosed hdata hmay =>
      refine ⟨[], ?_, ?_⟩
      · change txBuffer (sendSlice v.socket write.data).2 = _
        simp [txBuffer_sendSlice, hmay]
      · refine hacc.answer (hwrites write hwrite rfl rfl) (WriteAnswer.error fun message heq => ?_) rfl
        cases heq

variable {cmd : ConnCmd} {rest : List ConnCmd}

theorem WriteAccount.handleCmd (hacc : WriteAccount callers refused requests base enqueued v)
    (hqueue : v.conn.cmdRx.queue = cmd :: rest)
    (hrefused : ∀ data reply, cmd = .write data reply → v.conn.write ≠ none → refused (data, reply)) :
    WriteAccount callers refused requests base enqueued (handleCmd (v.setQueue rest) cmd) := by
  cases cmd with
  | write data reply =>
      rcases hwrite : v.conn.write with _ | write
      · refine hacc.frame ?_ ?_ <;>
          simp [Service.handleCmd, setQueue, setWrite, hwrite, ConnState.writes, hqueue, ConnCmd.asWrite]
      · have hcmd : Service.handleCmd (v.setQueue rest) (.write data reply) = (v.setQueue rest).answerWrite
            reply (.error (wouldBlock "a write is already pending")) := by
          simp [Service.handleCmd, setQueue, hwrite]
        have hwrites : v.conn.writes.Perm ((data, reply) :: (v.setQueue rest).conn.writes) := by
          rw [writes_eq_cons hwrite, hqueue, writes_eq_cons (c := (v.setQueue rest).conn) hwrite]
          exact List.Perm.swap _ _ _
        rw [hcmd, ← List.append_nil enqueued]
        refine hacc.answer hwrites (WriteAnswer.error fun _ _ => ?_) rfl
        exact hrefused data reply rfl (by simp [hwrite])
  | read maxLen reply =>
      refine hacc.frame ?_ ?_ <;> rcases hread : v.conn.read with _ | read <;>
        simp [Service.handleCmd, setQueue, setRead, answerRead, hread, ConnState.writes, hqueue,
          List.filterMap_cons, ConnCmd.asWrite]
  | closeWrite reply =>
      refine hacc.frame ?_ rfl
      simp [Service.handleCmd, setQueue, setSocket, answerCloseWrite, ConnState.writes, hqueue,
        List.filterMap_cons, ConnCmd.asWrite]
  | close reply =>
      refine hacc.frame ?_ rfl
      simp [Service.handleCmd, setQueue, setSocket, answerClose, ConnState.writes, hqueue,
        List.filterMap_cons, ConnCmd.asWrite]

end Writes

end Service

end SmoltcpSocks
