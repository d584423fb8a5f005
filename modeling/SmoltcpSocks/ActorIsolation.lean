import SmoltcpSocks.ActorIdentity

/-! Isolation of the connections: each call on a socket performs a command of the channel made for it,
and each relay dials the endpoint its client dialled, whatever handles the sockets get. -/

namespace SmoltcpSocks

open TcpSocket

variable {σ : Type}

/-- The call on a socket that a command asks for. -/
def SocketCall.Performs : SocketCall → ConnCmd → Prop
  | .recv data, .read maxLen _ => data.length ≤ maxLen
  | .send data, .write whole _ => data <+: whole
  | .close, .closeWrite _ => True
  | .abort _ _, .close _ => True
  | _, _ => False

/-- The parked requests, and the calls made on the socket, all come from commands that `A` names. -/
structure ServedBy (A : ConnCmd → Prop) (conn : ConnState) (socket : Traced σ) : Prop where
  read : ∀ read, conn.read = some read → A (.read read.maxLen read.reply)
  write : ∀ write, conn.write = some write → A (.write write.data write.reply)
  calls : ∀ call ∈ socket.calls, call = .polled ∨ ∃ cmd, A cmd ∧ call.Performs cmd

namespace ServedBy

variable {A : ConnCmd → Prop} {conn : ConnState} {socket : Traced σ}

theorem mono {A' : ConnCmd → Prop} (h : ServedBy A conn socket) (hA : ∀ cmd, A cmd → A' cmd) :
    ServedBy A' conn socket where
  read := fun read hread => hA _ (h.read read hread)
  write := fun write hwrite => hA _ (h.write write hwrite)
  calls := fun call hcall => (h.calls call hcall).imp_right fun ⟨cmd, hcmd, hperforms⟩ =>
    ⟨cmd, hA cmd hcmd, hperforms⟩

variable [TcpSocket σ] [LawfulTcpSocket σ] {callers : Callers} {v w : Service (Traced σ)}

theorem readStep (h : ServedBy A v.conn v.socket) (hstep : Service.ReadStep callers v w) :
    ServedBy A w.conn w.socket := by
  have hrecv (read : PendingRead) (hread : v.conn.read = some read) (call : SocketCall)
      (hcall : call ∈ (recvSlice v.socket (min read.maxLen (recvQueue v.socket))).2.calls) :
      call = .polled ∨ ∃ cmd, A cmd ∧ call.Performs cmd := by
    rcases Traced.calls_recvSlice v.socket (min read.maxLen (recvQueue v.socket)) with
      heq | ⟨data, heq, hlen⟩ <;> rw [heq] at hcall
    · exact h.calls call hcall
    rcases List.mem_append.mp hcall with hold | hnew
    · exact h.calls call hold
    · cases List.mem_singleton.mp hnew
      exact Or.inr ⟨.read read.maxLen read.reply, h.read read hread, Nat.le_trans hlen (Nat.min_le_left _ _)⟩
  cases hstep with
  | idle => exact h
  | parked => exact h
  | cancelled => exact ⟨nofun, h.write, h.calls⟩
  | empty => exact ⟨nofun, h.write, h.calls⟩
  | data read hread => exact ⟨nofun, h.write, hrecv read hread⟩
  | finished read hread => exact ⟨nofun, h.write, hrecv read hread⟩
  | aborted read hread => exact ⟨nofun, h.write, hrecv read hread⟩

omit [LawfulTcpSocket σ] in
theorem writeStep (h : ServedBy A v.conn v.socket) (hstep : Service.WriteStep callers v w) :
    ServedBy A w.conn w.socket := by
  have hsend (write : PendingWrite) (hwrite : v.conn.write = some write) (call : SocketCall)
      (hcall : call ∈ (sendSlice v.socket write.data).2.calls) :
      call = .polled ∨ ∃ cmd, A cmd ∧ call.Performs cmd := by
    rcases Traced.calls_sendSlice v.socket write.data with heq | ⟨n, heq⟩ <;> rw [heq] at hcall
    · exact h.calls call hcall
    rcases List.mem_append.mp hcall with hold | hnew
    · exact h.calls call hold
    · cases List.mem_singleton.mp hnew
      exact Or.inr ⟨.write write.data write.reply, h.write write hwrite, List.take_prefix _ _⟩
  cases hstep with
  | idle => exact h
  | parked => exact h
  | cancelled => exact ⟨h.read, nofun, h.calls⟩
  | empty => exact ⟨h.read, nofun, h.calls⟩
  | sent write hwrite => exact ⟨h.read, nofun, hsend write hwrite⟩
  | closed write hwrite => exact ⟨h.read, nofun, hsend write hwrite⟩

omit [LawfulTcpSocket σ] in
theorem handleCmd (h : ServedBy A v.conn v.socket) {cmd : ConnCmd} (hcmd : A cmd) :
    ServedBy A (Service.handleCmd v cmd).conn (Service.handleCmd v cmd).socket := by
  have hcall (call : SocketCall) (hperforms : call.Performs cmd) :
      ∀ c ∈ v.socket.calls ++ [call], c = .polled ∨ ∃ cmd, A cmd ∧ c.Performs cmd := by
    intro c hc
    rcases List.mem_append.mp hc with hold | hnew
    · exact h.calls c hold
    · cases List.mem_singleton.mp hnew
      exact Or.inr ⟨cmd, hcmd, hperforms⟩
  cases cmd with
  | read maxLen reply =>
      rw [Service.handleCmd]
      split
      · exact ⟨h.read, h.write, h.calls⟩
      · refine ⟨fun read hread => ?_, h.write, h.calls⟩
        cases hread
        exact hcmd
  | write data reply =>
      rw [Service.handleCmd]
      split
      · exact ⟨h.read, h.write, h.calls⟩
      · refine ⟨h.read, fun write hwrite => ?_, h.calls⟩
        cases hwrite
        exact hcmd
  | closeWrite reply => exact ⟨h.read, h.write, hcall _ trivial⟩
  | close reply => exact ⟨h.read, h.write, hcall _ trivial⟩

/-- A service round acts on the commands of the channel and on what was parked, and on nothing else. -/
theorem service (h : ServedBy A v.conn v.socket) (hqueue : ∀ cmd ∈ v.conn.cmdRx.queue, A cmd) :
    ServedBy A (Service.service callers v).conn (Service.service callers v).socket := by
  refine (Service.service_induction (v := v)
    (P := fun v => (∀ cmd ∈ v.conn.cmdRx.queue, A cmd) ∧ ServedBy A v.conn v.socket)
    ?_ ?_ ?_ ⟨hqueue, h⟩).2
  · exact fun hv hstep => ⟨by rw [hstep.frame.cmdRx]; exact hv.1, hv.2.readStep hstep⟩
  · exact fun hv hstep => ⟨by rw [hstep.frame.cmdRx]; exact hv.1, hv.2.writeStep hstep⟩
  · intro v cmd rest hv hcmd
    have hmem : ∀ c ∈ cmd :: rest, A c := hcmd ▸ hv.1
    refine ⟨?_, (show ServedBy A (v.setQueue rest).conn _ from
      ⟨hv.2.read, hv.2.write, hv.2.calls⟩).handleCmd (hmem cmd List.mem_cons_self)⟩
    rw [Service.cmdRx_handleCmd]
    exact fun c hc => hmem c (List.mem_cons_of_mem _ hc)

end ServedBy

namespace NetstackActor

variable {a b : NetstackActor σ} {listeners others : List SocketHandle} {handle handle' : SocketHandle}
  [TcpSocket σ] [LawfulTcpSocket σ] {alloc : Alloc σ} {callers : ChanId → Callers}

/-- The calls on a socket are attributed: those on a listener are polls, and those on a connection's
socket come from commands that were sent on the channel made for it. -/
structure Attributed (a : NetstackActor σ) (listeners : List SocketHandle) : Prop where
  identified : Identified a listeners
  listener : ∀ handle ∈ listeners, ∀ slot, a.sockets.lookup handle = some slot →
    ∀ call ∈ slot.socket.calls, call = .polled
  queued : ∀ {handle conn}, a.conns.lookup handle = some conn →
    ∀ cmd ∈ conn.cmdRx.queue, .sent conn.cmdRx.chan cmd ∈ a.history
  served : ∀ {handle conn slot}, a.conns.lookup handle = some conn → a.sockets.lookup handle = some slot →
    ServedBy (fun cmd => .applied conn.cmdRx.chan slot.born cmd ∈ a.history) conn slot.socket
  applied : ∀ {c n cmd}, .applied c n cmd ∈ a.history →
    .sent c cmd ∈ a.history ∧ ∃ h ∈ a.handOvers, h.born = n ∧ h.vconn.cmd = c

def OnlyPolled (a b : NetstackActor σ) : Prop :=
  ∀ {handle slot}, b.sockets.lookup handle = some slot → ∃ old, a.sockets.lookup handle = some old ∧
    slot.born = old.born ∧ ∀ call ∈ slot.socket.calls, call ∈ old.socket.calls ∨ call = .polled

/-- At most commands that were sent were added to the entries. -/
def OnlySent (a b : NetstackActor σ) : Prop :=
  ∀ {handle conn}, b.conns.lookup handle = some conn → ∃ old, a.conns.lookup handle = some old ∧
    conn.cmdRx.chan = old.cmdRx.chan ∧ conn.read = old.read ∧ conn.write = old.write ∧
    ∀ cmd ∈ conn.cmdRx.queue, cmd ∈ old.cmdRx.queue ∨ .sent old.cmdRx.chan cmd ∈ b.history

omit [TcpSocket σ] [LawfulTcpSocket σ] in
theorem onlyPolled_of_eq (h : b.sockets = a.sockets) : OnlyPolled a b :=
  fun {_ slot} hslot => ⟨slot, h ▸ hslot, rfl, fun _ => Or.inl⟩

omit [TcpSocket σ] [LawfulTcpSocket σ] in
theorem onlySent_of_eq (h : b.conns = a.conns) : OnlySent a b :=
  fun {_ conn} hconn => ⟨conn, h ▸ hconn, rfl, rfl, rfl, fun _ => Or.inl⟩

omit [TcpSocket σ] [LawfulTcpSocket σ] in
/-- The rule for the steps that service nothing. -/
theorem Attributed.frame (h : Attributed a listeners) (hid : Identified b others)
    (hsub : ∀ handle ∈ others, handle ∈ listeners) (hpolled : OnlyPolled a b) (hsent : OnlySent a b)
    (hhistory : ∀ event ∈ a.history, event ∈ b.history)
    (happlied : ∀ c n cmd, .applied c n cmd ∈ b.history → .applied c n cmd ∈ a.history ∨
      .sent c cmd ∈ a.history ∧ ∃ h ∈ a.handOvers, h.born = n ∧ h.vconn.cmd = c) :
    Attributed b others := by
  refine ⟨hid, ?_, ?_, ?_, ?_⟩
  · intro handle hmem slot hslot call hcall
    obtain ⟨old, hold, _, hcalls⟩ := hpolled hslot
    rcases hcalls call hcall with hcall | hcall
    · exact h.listener handle (hsub handle hmem) old hold call hcall
    · exact hcall
  · intro handle conn hconn cmd hcmd
    obtain ⟨old, hold, hchan, _, _, hqueue⟩ := hsent hconn
    rw [hchan]
    rcases hqueue cmd hcmd with hcmd | hcmd
    · exact hhistory _ (h.queued hold cmd hcmd)
    · exact hcmd
  · intro handle conn slot hconn hslot
    obtain ⟨oldConn, holdConn, hchan, hread, hwrite, _⟩ := hsent hconn
    obtain ⟨old, hold, hborn, hcalls⟩ := hpolled hslot
    have hserved := (h.served holdConn hold).mono fun cmd => hhistory (.applied _ _ cmd)
    rw [hchan, hborn]
    refine ⟨fun read hr => hserved.read read (hread ▸ hr), fun write hw => hserved.write write (hwrite ▸ hw),
      fun call hcall => ?_⟩
    rcases hcalls call hcall with hcall | hcall
    · exact hserved.calls call hcall
    · exact Or.inl hcall
  · intro c n cmd hmem
    obtain ⟨hsent, handOver, hhand, heq⟩ : .sent c cmd ∈ a.history ∧
        ∃ h ∈ a.handOvers, h.born = n ∧ h.vconn.cmd = c := (happlied c n cmd hmem).elim h.applied id
    exact ⟨hhistory _ hsent, handOver, mem_handOvers.mpr (hhistory _ (mem_handOvers.mp hhand)), heq⟩

omit [TcpSocket σ] [LawfulTcpSocket σ] in
theorem Attributed.perm (h : Attributed a listeners) (hperm : listeners.Perm others) : Attributed a others :=
  { h with
    identified := h.identified.perm hperm
    listener := fun handle hmem => h.listener handle (hperm.mem_iff.mpr hmem) }

omit [LawfulTcpSocket σ] in
theorem Attributed.add (h : Attributed a others) (hfresh : handle ∉ a.sockets) {socket : Traced σ}
    (hnew : NewListener socket) : Attributed (a.add handle socket) (handle :: others) := by
  have hid := h.identified.add hfresh socket
  have hlookup {handle' slot} (hslot : (a.add handle socket).sockets.lookup handle' = some slot) :
      handle' = handle ∧ slot.socket = socket ∨ a.sockets.lookup handle' = some slot := by
    simp only [NetstackActor.add, Table.lookup_insert_eq] at hslot
    split at hslot
    · cases hslot
      exact Or.inl ⟨‹_›, rfl⟩
    · exact Or.inr hslot
  refine ⟨hid, ?_, h.queued, ?_, h.applied⟩
  · intro handle' hmem slot hslot call hcall
    rcases hlookup hslot with ⟨rfl, heq⟩ | hold
    · rw [heq, hnew.calls] at hcall
      cases hcall
    · rcases List.mem_cons.mp hmem with rfl | hmem
      · exact absurd (Table.mem_of_lookup hold) hfresh
      · exact h.listener handle' hmem slot hold call hcall
  · intro handle' conn slot hconn hslot
    rcases hlookup hslot with ⟨rfl, _⟩ | hslot
    · have hmem : handle' ∈ a.conns := Table.mem_of_lookup hconn
      exact absurd ((h.identified.owns.exact handle').mpr (Or.inr hmem)) hfresh
    · exact h.served hconn hslot

omit [TcpSocket σ] [LawfulTcpSocket σ] in
theorem lookup_of_remove (slot : Slot σ) {slot' : Slot σ}
    (h : (a.remove handle slot).sockets.lookup handle' = some slot') :
    a.sockets.lookup handle' = some slot' := by
  simp only [NetstackActor.remove, record, Table.lookup_erase_eq] at h
  split at h
  · cases h
  · exact h

omit [TcpSocket σ] [LawfulTcpSocket σ] in
theorem Attributed.remove (h : Attributed a (handle :: others)) (slot : Slot σ) :
    Attributed (a.remove handle slot) others := by
  refine h.frame (h.identified.remove slot) (fun _ => List.mem_cons_of_mem _) ?_ ?_ ?_ ?_
  · exact fun hslot => ⟨_, lookup_of_remove slot hslot, rfl, fun _ => Or.inl⟩
  · exact onlySent_of_eq rfl
  · exact fun event hmem => List.mem_append_left _ hmem
  · intro c n cmd hmem
    left
    simpa [NetstackActor.remove, record] using hmem

omit [TcpSocket σ] [LawfulTcpSocket σ] in
/-- The entry of a new connection has no commands yet, and its socket was only polled. -/
theorem Attributed.handOver (h : Attributed a (handle :: others)) {slot : Slot σ}
    (hslot : a.sockets.lookup handle = some slot) {vconn : VConn} (hvconn : vconn.cmd = a.nextChan) :
    Attributed (a.handOver handle slot vconn) others := by
  have hid := h.identified.handOver (birth_of_lookup hslot) hvconn
  have hhistory : ∀ event ∈ a.history, event ∈ (a.handOver handle slot vconn).history :=
    fun event hmem => List.mem_append_left _ hmem
  have hlookup {handle' conn} (hconn : (a.handOver handle slot vconn).conns.lookup handle' = some conn) :
      handle' = handle ∧ conn = .new ⟨vconn.cmd, [], false⟩ ∨ a.conns.lookup handle' = some conn := by
    simp only [NetstackActor.handOver, record, Table.lookup_insert_eq] at hconn
    split at hconn
    · cases hconn
      exact Or.inl ⟨‹_›, rfl⟩
    · exact Or.inr hconn
  refine ⟨hid, fun handle' hmem => h.listener handle' (List.mem_cons_of_mem _ hmem), ?_, ?_, ?_⟩
  · intro handle' conn hconn cmd hcmd
    rcases hlookup hconn with ⟨_, rfl⟩ | hconn
    · cases hcmd
    · exact hhistory _ (h.queued hconn cmd hcmd)
  · intro handle' conn slot' hconn hslot'
    rcases hlookup hconn with ⟨rfl, rfl⟩ | hconn
    · refine ⟨fun read hread => ?_, fun write hwrite => ?_, fun call hcall => Or.inl ?_⟩
      · cases hread
      · cases hwrite
      · exact h.listener _ List.mem_cons_self slot' hslot' call hcall
    · exact (h.served hconn hslot').mono fun cmd => hhistory _
  · intro c n cmd hmem
    have hold : .applied c n cmd ∈ a.history := by simpa [NetstackActor.handOver, record] using hmem
    obtain ⟨hsent, handOver, hhand, heq⟩ := h.applied hold
    exact ⟨hhistory _ hsent, handOver, mem_handOvers.mpr (hhistory _ (mem_handOvers.mp hhand)), heq⟩

omit [LawfulTcpSocket σ] in
theorem Attributed.acceptStep (h : Attributed a (handle :: others)) (hfresh : alloc.Fresh)
    (hstep : AcceptStep alloc a handle b handle') : Attributed b (handle' :: others) := by
  cases hstep with
  | waits slot => exact h
  | handedOver slot loc remote socket hslot _ _ hnew =>
      exact (h.handOver hslot rfl).add (hfresh a.sockets) hnew
  | refused slot socket _ _ _ hnew =>
      exact (h.remove { slot with socket := abort slot.socket }).add (hfresh (a.sockets.erase handle)) hnew

omit [TcpSocket σ] [LawfulTcpSocket σ] in
theorem onlySent_closeChannels (a : NetstackActor σ) (chans : List ChanId) :
    OnlySent a (a.closeChannels chans) := by
  intro handle conn hconn
  simp only [closeChannels, Table.lookup_map] at hconn
  obtain ⟨old, hold, rfl⟩ := Option.map_eq_some_iff.mp hconn
  refine ⟨old, hold, ?_⟩
  split
  · exact ⟨rfl, rfl, rfl, fun _ => Or.inl⟩
  · exact ⟨rfl, rfl, rfl, fun _ => Or.inl⟩

omit [TcpSocket σ] [LawfulTcpSocket σ] in
theorem Attributed.dispatcher (h : Attributed a listeners) (d : DispatcherStep) :
    Attributed (a.dispatcher d) listeners := by
  have hid := h.identified.dispatcher d
  rcases dispatcher_cases a d with heq | ⟨_, _, _, _, _, heq⟩ | ⟨_, heq⟩ <;> rw [heq] at hid ⊢
  · exact h
  · refine h.frame hid (fun _ => id) (onlyPolled_of_eq rfl) (onlySent_of_eq rfl)
      (fun event hmem => List.mem_append_left _ hmem) fun c n cmd hmem => Or.inl ?_
    simpa [record] using hmem
  · exact h.frame hid (fun _ => id) (onlyPolled_of_eq rfl) (onlySent_closeChannels a _) (fun _ => id)
      fun _ _ _ => Or.inl

omit [TcpSocket σ] [LawfulTcpSocket σ] in
/-- The commands of the channel are those of the socket under its handle. -/
theorem Attributed.applied_queue (h : Attributed a listeners) {conn : ConnState} {slot : Slot σ}
    (hconn : a.conns.lookup handle = some conn) (hslot : a.sockets.lookup handle = some slot)
    {chan : ChanId} {n : Nat} {cmd : ConnCmd}
    (hmem : (.applied chan n cmd : ActorEvent σ) ∈ conn.cmdRx.queue.map (.applied conn.cmdRx.chan slot.born)) :
    .sent chan cmd ∈ a.history ∧ ∃ h ∈ a.handOvers, h.born = n ∧ h.vconn.cmd = chan := by
  obtain ⟨cmd', hcmd, heq⟩ := List.mem_map.mp hmem
  cases heq
  exact ⟨h.queued hconn cmd hcmd, h.identified.linked (birth_of_lookup hslot) (chan_of_lookup hconn)⟩

/-- A service round is recorded in full before it acts. -/
theorem Attributed.entryStep (h : Attributed a listeners) (hstep : EntryStep callers a handle b) :
    Attributed b listeners := by
  have hid := h.identified.entryStep hstep
  cases hstep with
  | kept conn slot v hconn hslot hv =>
      have hcmdRx : v.conn.cmdRx = { conn.cmdRx with queue := [] } := hv ▸ Service.cmdRx_service _ _
      refine ⟨hid, ?_, ?_, ?_, ?_⟩
      · intro listener hmem slot' hslot'
        rw [Table.lookup_insert_eq, if_neg] at hslot'
        · exact h.listener listener hmem slot' hslot'
        · rintro rfl
          exact h.identified.owns.disjoint listener hmem (Table.mem_of_lookup hconn)
      · intro handle' conn' hconn' cmd hcmd
        simp only [Table.lookup_insert_eq] at hconn'
        split at hconn'
        · cases hconn'
          rw [hcmdRx] at hcmd
          cases hcmd
        · exact List.mem_append_left _ (h.queued hconn' cmd hcmd)
      · intro handle' conn' slot' hconn' hslot'
        simp only [Table.lookup_insert_eq] at hconn' hslot'
        split at hconn'
        · rw [if_pos ‹_›] at hslot'
          cases hconn'
          cases hslot'
          rw [hcmdRx, hv]
          refine ServedBy.service ?_ fun cmd hcmd =>
            List.mem_append_right _ (List.mem_map.mpr ⟨cmd, hcmd, rfl⟩)
          exact (h.served hconn hslot).mono fun cmd hmem => List.mem_append_left _ hmem
        · rw [if_neg ‹_›] at hslot'
          exact (h.served hconn' hslot').mono fun cmd hmem => List.mem_append_left _ hmem
      · intro c n cmd hmem
        obtain ⟨hsent, handOver, hhand, heq⟩ : .sent c cmd ∈ a.history ∧
            ∃ h ∈ a.handOvers, h.born = n ∧ h.vconn.cmd = c :=
          (List.mem_append.mp hmem).elim h.applied (h.applied_queue hconn hslot)
        exact ⟨List.mem_append_left _ hsent, handOver,
          mem_handOvers.mpr (List.mem_append_left _ (mem_handOvers.mp hhand)), heq⟩
  | dropped conn slot v hconn hslot hv =>
      refine h.frame hid (fun _ => id) ?_ ?_ ?_ ?_
      · exact fun hslot' => ⟨_, lookup_of_remove { slot with socket := abort v.socket } hslot', rfl,
          fun _ => Or.inl⟩
      · intro handle' conn' hconn'
        simp only [Table.lookup_erase_eq] at hconn'
        split at hconn'
        · cases hconn'
        · exact ⟨conn', hconn', rfl, rfl, rfl, fun _ => Or.inl⟩
      · exact fun event hmem => List.mem_append_left _ (List.mem_append_left _ hmem)
      · intro c n cmd hmem
        simp only [NetstackActor.remove, record, List.mem_append, List.mem_singleton, reduceCtorEq,
          or_false] at hmem
        exact hmem.imp_right (h.applied_queue hconn hslot)

omit [TcpSocket σ] [LawfulTcpSocket σ] in
theorem onlyPolled_pollSockets (a : NetstackActor σ) (change : SocketHandle → σ → σ) :
    OnlyPolled a (a.pollSockets change) := by
  intro handle slot hslot
  simp only [pollSockets, Table.lookup_map] at hslot
  obtain ⟨old, hold, rfl⟩ := Option.map_eq_some_iff.mp hslot
  exact ⟨old, hold, rfl, fun call hcall => by simpa [Traced.poll] using hcall⟩

omit [TcpSocket σ] [LawfulTcpSocket σ] in
theorem onlySent_pushCmd (a : NetstackActor σ) (c : ChanId) (cmd : ConnCmd) :
    OnlySent a (a.pushCmd c cmd) := by
  intro handle conn hconn
  simp only [pushCmd, record, Table.lookup_map] at hconn
  obtain ⟨old, hold, rfl⟩ := Option.map_eq_some_iff.mp hconn
  refine ⟨old, hold, ?_⟩
  split
  · rename_i hchan
    refine ⟨rfl, rfl, rfl, fun cmd' hcmd => ?_⟩
    rcases List.mem_append.mp hcmd with hcmd | hcmd
    · exact Or.inl hcmd
    · rw [List.mem_singleton.mp hcmd, hchan]
      exact Or.inr (List.mem_append_right _ (List.mem_singleton_self _))
  · exact ⟨rfl, rfl, rfl, fun _ => Or.inl⟩

theorem invariant_attributed : Invariant (Attributed (σ := σ)) where
  perm h hperm := h.perm hperm
  relabel vector h := h.frame (invariant_identified.relabel vector h.identified) (fun _ => id)
    (onlyPolled_of_eq rfl) (onlySent_of_eq rfl) (fun _ => id) fun _ _ _ => Or.inl
  poll change h := h.frame (invariant_identified.poll change h.identified) (fun _ => id)
    (onlyPolled_pollSockets _ change) (onlySent_of_eq rfl) (fun _ => id) fun _ _ _ => Or.inl
  accept hfresh h hstep := h.acceptStep hfresh hstep
  entry h hstep := h.entryStep hstep
  dispatcher d h := h.dispatcher d
  send c cmd h := h.frame (invariant_identified.send c cmd h.identified) (fun _ => id) (onlyPolled_of_eq rfl)
    (onlySent_pushCmd _ c cmd) (fun _ hmem => List.mem_append_left _ hmem)
    fun _ _ _ hmem => Or.inl (by simpa [pushCmd, record] using hmem)
  drop c h := h.frame (invariant_identified.drop c h.identified) (fun _ => id) (onlyPolled_of_eq rfl)
    (onlySent_closeChannels _ [c]) (fun _ => id) fun _ _ _ => Or.inl

/-- The VConn names the endpoints its socket had when it was made: the one the client dialled is the
destination, the client's own is the source. -/
def NamesEndpoints (h : HandOver σ) : Prop :=
  ∃ loc remote, localEndpoint h.socket = some loc ∧ remoteEndpoint h.socket = some remote ∧
    h.vconn.connMeta.dst = ⟨loc.addr, loc.port⟩ ∧ h.vconn.connMeta.src = ⟨remote.addr, remote.port⟩

/-- What is queued for the dispatcher, and what it dialled for, are VConns as they were handed over. -/
structure Destined (a : NetstackActor σ) : Prop where
  endpoints : ∀ h ∈ a.handOvers, NamesEndpoints h
  accepted : ∀ {vconn m}, (vconn, m) ∈ a.accepted → m = vconn.connMeta ∧ ∃ h ∈ a.handOvers, h.vconn = vconn
  dialled : ∀ {vconn m dst}, .dialled vconn m dst ∈ a.history →
    m = vconn.connMeta ∧ dst = vconn.destination ∧ ∃ h ∈ a.handOvers, h.vconn = vconn

omit [LawfulTcpSocket σ] in
theorem Destined.frame (h : Destined a) (hhand : b.handOvers = a.handOvers)
    (haccepted : ∀ entry ∈ b.accepted, entry ∈ a.accepted)
    (hdialled : ∀ vconn m dst, .dialled vconn m dst ∈ b.history → .dialled vconn m dst ∈ a.history ∨
      (vconn, m) ∈ a.accepted ∧ dst = vconn.destination) : Destined b := by
  refine ⟨hhand ▸ h.endpoints, fun hmem => hhand ▸ h.accepted (haccepted _ hmem), ?_⟩
  intro vconn m dst hmem
  rw [hhand]
  rcases hdialled vconn m dst hmem with hold | ⟨hqueued, hdst⟩
  · exact h.dialled hold
  · exact ⟨(h.accepted hqueued).1, hdst, (h.accepted hqueued).2⟩

omit [LawfulTcpSocket σ] in
theorem Destined.handOver (h : Destined a) {slot : Slot σ} {loc remote : IpEndpoint}
    (hready : Ready slot loc remote) (c : ChanId) :
    Destined (a.handOver handle slot ⟨connMeta loc remote, c⟩) := by
  refine ⟨?_, ?_, ?_⟩
  · rw [handOvers_handOver]
    intro handOver hmem
    rcases List.mem_append.mp hmem with hmem | hmem
    · exact h.endpoints handOver hmem
    · cases List.mem_singleton.mp hmem
      exact ⟨loc, remote, hready.2.1, hready.2.2, rfl, rfl⟩
  · rw [handOvers_handOver]
    intro vconn m hmem
    rcases List.mem_append.mp hmem with hmem | hmem
    · obtain ⟨hm, handOver, hhand, heq⟩ := h.accepted hmem
      exact ⟨hm, handOver, List.mem_append_left _ hhand, heq⟩
    · cases List.mem_singleton.mp hmem
      exact ⟨rfl, _, List.mem_append_right _ (List.mem_singleton_self _), rfl⟩
  · rw [handOvers_handOver]
    intro vconn m dst hmem
    obtain ⟨hm, hdst, handOver, hhand, heq⟩ :=
      h.dialled (by simpa [NetstackActor.handOver, record] using hmem)
    exact ⟨hm, hdst, handOver, List.mem_append_left _ hhand, heq⟩

omit [LawfulTcpSocket σ] in
theorem Destined.acceptStep (h : Destined a) (hstep : AcceptStep alloc a handle b handle') : Destined b := by
  cases hstep with
  | waits slot => exact h
  | handedOver slot loc remote socket hslot hready =>
      exact (h.handOver hready a.nextChan).frame rfl (fun _ => id) fun _ _ _ => Or.inl
  | refused slot socket =>
      refine h.frame (handOvers_remove a handle _) (fun _ => id) fun vconn m dst hmem => Or.inl ?_
      simpa [NetstackActor.add, NetstackActor.remove, record] using hmem

omit [LawfulTcpSocket σ] in
/-- The dispatcher dials for what it takes from the queue. -/
theorem Destined.dispatcher (h : Destined a) (d : DispatcherStep) : Destined (a.dispatcher d) := by
  rcases dispatcher_cases a d with heq | ⟨vconn, m, rest, haccepted, _, heq⟩ | ⟨_, heq⟩ <;> rw [heq]
  · exact h
  · refine h.frame (by simp [handOvers, record, ActorEvent.asHandOver]) ?_ ?_
    · exact fun entry hmem => haccepted ▸ List.mem_cons_of_mem _ hmem
    · intro vconn' m' dst hmem
      rcases List.mem_append.mp hmem with hmem | hmem
      · exact Or.inl hmem
      · cases List.mem_singleton.mp hmem
        exact Or.inr ⟨haccepted ▸ List.mem_cons_self, rfl⟩
  · refine h.frame rfl (fun entry hmem => ?_) fun _ _ _ => Or.inl
    cases hmem

omit [LawfulTcpSocket σ] in
theorem Destined.entryStep (h : Destined a) (hstep : EntryStep callers a handle b) : Destined b := by
  have hhand := handOvers_of_entryStep hstep
  cases hstep with
  | kept conn slot v =>
      refine h.frame hhand (fun _ => id) fun vconn m dst hmem => Or.inl ?_
      simpa [record] using hmem
  | dropped conn slot v =>
      refine h.frame hhand (fun _ => id) fun vconn m dst hmem => Or.inl ?_
      simpa [NetstackActor.remove, record] using hmem

omit [LawfulTcpSocket σ] in
theorem invariant_destined : Invariant fun a _ => Destined (σ := σ) a where
  perm h _ := h
  relabel _ h := h.frame rfl (fun _ => id) fun _ _ _ => Or.inl
  poll _ h := h.frame rfl (fun _ => id) fun _ _ _ => Or.inl
  accept _ h hstep := h.acceptStep hstep
  entry h hstep := h.entryStep hstep
  dispatcher d h := h.dispatcher d
  send _ _ h := h.frame (by simp [handOvers, pushCmd, record, ActorEvent.asHandOver]) (fun _ => id)
    fun _ _ _ hmem => Or.inl (by simpa [pushCmd, record] using hmem)
  drop _ h := h.frame rfl (fun _ => id) fun _ _ _ => Or.inl

theorem attributed_withChannels (hfresh : alloc.Fresh) {capacity : Nat} {a : NetstackActor σ}
    (ha : withChannels alloc capacity = some a) : Attributed a a.listeners ∧ Destined a := by
  have hid : Identified (empty capacity : NetstackActor σ) [] := by
    refine ⟨owns_empty capacity, ?_, ?_, ?_, List.nodup_nil, List.nodup_nil, ?_, ?_⟩ <;>
      simp [empty, birth, handOvers]
  have hattributed : Attributed (empty capacity : NetstackActor σ) [] := by
    refine ⟨hid, ?_, ?_, ?_, ?_⟩ <;> simp [empty]
  have hdestined : Destined (empty capacity : NetstackActor σ) := by
    refine ⟨?_, ?_, ?_⟩ <;> simp [empty, handOvers]
  obtain ⟨b, hb, _, hI⟩ := addListeners_induction
    (I := fun a listeners => Attributed a listeners ∧ Destined (σ := σ) a)
    (fun {a listeners socket} hnew h => by
      have hnext := (h.1.add (hfresh a.sockets) hnew).perm (List.perm_append_singleton _ _).symm
      exact ⟨invariant_attributed.relabel _ hnext, h.2.frame rfl (fun _ => id) fun _ _ _ => Or.inl⟩)
    LISTENER_POOL_SIZE (a := empty capacity) ⟨hattributed, hdestined⟩
  cases hb.symm.trans ha
  exact hI

/-- In every run, whatever the handles and their reuse: a socket is handed over once and through a
channel of its own; the commands applied on that channel were sent on it and go to that socket; every
call on a socket in the set, polls apart, performs such a command; and the relay of the VConn dials the
endpoint the client dialled, with the client's own as the source. -/
theorem connections_isolated {start : Alloc σ} (hstart : start.Fresh) {capacity : Nat}
    {a₀ a : NetstackActor σ} (ha₀ : withChannels start capacity = some a₀) {trace : List (ActorAction σ)}
    (hrun : Transition.Run NetstackActor.step (fun _ action => FreshHandles action) a₀ trace a) :
    (a.handOvers.map HandOver.born).Nodup ∧ (a.handOvers.map fun h => h.vconn.cmd).Nodup ∧
    (∀ c n cmd, .applied c n cmd ∈ a.history →
      .sent c cmd ∈ a.history ∧ ∃ h ∈ a.handOvers, h.vconn.cmd = c) ∧
    (∀ h ∈ a.handOvers, ∀ n cmd, .applied h.vconn.cmd n cmd ∈ a.history → n = h.born) ∧
    (∀ handle slot, a.sockets.lookup handle = some slot → ∀ call ∈ slot.socket.calls, call ≠ .polled →
      ∃ h ∈ a.handOvers, h.born = slot.born ∧ ∃ cmd, .sent h.vconn.cmd cmd ∈ a.history ∧
        .applied h.vconn.cmd slot.born cmd ∈ a.history ∧ call.Performs cmd) ∧
    (∀ vconn m dst, .dialled vconn m dst ∈ a.history → ∃ h ∈ a.handOvers, h.vconn = vconn ∧
      ∃ loc remote, localEndpoint h.socket = some loc ∧ remoteEndpoint h.socket = some remote ∧
        dst = ⟨loc.addr, loc.port⟩ ∧ m.dst = dst ∧ m.src = ⟨remote.addr, remote.port⟩) := by
  obtain ⟨hattr₀, hdest₀⟩ := attributed_withChannels hstart ha₀
  have hattr := hrun.invariant (fun _ _ _ h hfresh => invariant_attributed.step hfresh h) hattr₀
  have hdest := hrun.invariant (fun _ _ _ h hfresh => invariant_destined.step hfresh h) hdest₀
  have hid := hattr.identified
  refine ⟨hid.born_once, hid.chan_once, ?_, ?_, ?_, ?_⟩
  · intro c n cmd happlied
    obtain ⟨hsent, h, hmem, _, hchan⟩ := hattr.applied happlied
    exact ⟨hsent, h, hmem, hchan⟩
  · intro h hmem n cmd happlied
    obtain ⟨_, h', hmem', hborn, hchan⟩ := hattr.applied happlied
    rw [← hborn, List.inj_on_of_nodup_map hid.chan_once hmem' hmem hchan]
  · intro handle slot hslot call hcall hpolled
    rcases (hid.owns.exact handle).mp (Table.mem_of_lookup hslot) with hlistener | hconn
    · exact absurd (hattr.listener handle hlistener slot hslot call hcall) hpolled
    · obtain ⟨conn, hconn⟩ := Table.mem_iff.mp hconn
      obtain ⟨h, hmem, hborn, hchan⟩ := hid.linked (birth_of_lookup hslot) (chan_of_lookup hconn)
      obtain ⟨cmd, happlied, hperforms⟩ := ((hattr.served hconn hslot).calls call hcall).resolve_left hpolled
      rw [← hchan] at happlied
      exact ⟨h, hmem, hborn, cmd, (hattr.applied happlied).1, happlied, hperforms⟩
  · intro vconn m dst hdialled
    obtain ⟨rfl, rfl, h, hmem, rfl⟩ := hdest.dialled hdialled
    obtain ⟨loc, remote, hloc, hremote, hdst, hsrc⟩ := hdest.endpoints h hmem
    exact ⟨h, hmem, rfl, loc, remote, hloc, hremote, hdst, rfl, hsrc⟩

/-- Two connections have the handle 0 one after the other; each gets its own bytes, and the second one's relay dials
where its client connected to. -/
theorem connections_isolated_after_reuse :
    let m : ConnMeta := ⟨⟨client.addr, client.port⟩, ⟨server.addr, server.port⟩⟩
    ∃ (a₀ a : NetstackActor BufferedSocket) (trace : List (ActorAction BufferedSocket)),
      withChannels .firstFree 64 = some a₀ ∧
      Transition.Run NetstackActor.step (fun _ action => FreshHandles action) a₀ trace a ∧
      (a.handOvers.map fun h => (h.vconn.cmd, h.born)) = [(0, 0), (1, 1), (2, 5)] ∧
      .applied 0 0 (.write [1] 0) ∈ a.history ∧ .applied 2 5 (.write [2] 0) ∈ a.history ∧
      .dialled ⟨m, 2⟩ m m.dst ∈ a.history ∧
      (∀ h ∈ a.handOvers, ∀ n cmd, .applied h.vconn.cmd n cmd ∈ a.history → n = h.born) ∧
      ∃ h ∈ a.handOvers, h.vconn = ⟨m, 2⟩ ∧ localEndpoint h.socket = some server := by
  intro m
  let trace : List (ActorAction BufferedSocket) :=
    List.flatten [round (handshake 0) [0], [.dispatcher .recv, .send 0 (.write [1] 0), .drop 0], round idle [0],
      round (handshake 1) [1], round (handshake 0) [0, 1],
      [.dispatcher .recv, .dispatcher .recv, .send 2 (.write [2] 0)], round idle [0, 1]]
  obtain ⟨a₀, ha₀, _⟩ := owns_withChannels (σ := BufferedSocket) Alloc.firstFree_fresh 64
  have hexec : ((withChannels .firstFree 64).bind fun a =>
      Transition.execute NetstackActor.step (fun _ _ => True) a trace).any
        (fun a => decide ((a.handOvers.map fun h => (h.vconn.cmd, h.born)) = [(0, 0), (1, 1), (2, 5)] ∧
          .applied 0 0 (.write [1] 0) ∈ a.history ∧ .applied 2 5 (.write [2] 0) ∈ a.history ∧
          .dialled ⟨m, 2⟩ m m.dst ∈ a.history)) = true := by
    decide +kernel
  rw [ha₀, Option.bind_some] at hexec
  obtain ⟨a, hrun, ha⟩ := Transition.Run.exists_of_execute hexec
  have hrun : Transition.Run NetstackActor.step (fun _ action => FreshHandles action) a₀ trace a :=
    hrun.mono (by simp [trace, round, FreshHandles, Alloc.firstFree_fresh])
  obtain ⟨hborn, hfirst, hsecond, hdialled⟩ := of_decide_eq_true ha
  obtain ⟨_, _, _, happlied, _, hdestined⟩ := connections_isolated Alloc.firstFree_fresh ha₀ hrun
  obtain ⟨h, hmem, hvconn, ⟨addr, port⟩, _, hloc, _, hdst, _⟩ := hdestined _ _ _ hdialled
  obtain ⟨rfl, rfl⟩ := SocketAddr.mk.inj hdst
  exact ⟨a₀, a, trace, ha₀, hrun, hborn, hfirst, hsecond, hdialled, happlied, h, hmem, hvconn, hloc⟩

end NetstackActor

end SmoltcpSocks
