import SmoltcpSocks.System

/-! Every connection of the running program is a session. The connection of a channel is read off the tables
of the actor and the relay's task; a step of the program is for each connection either one step of the
session, its hand-over, or nothing, so that whatever holds over all runs of a session holds of every
connection, however many there are and however their tasks interleave. -/

namespace SmoltcpSocks

open TcpSocket

namespace Session

variable {σ : Type} [TcpSocket σ] [LawfulTcpSocket σ] {s t : Session σ} {a : SessionAction σ}

/-- A step keeps the VConn, and the entry as the one that holds its receiving end. -/
theorem step_conn (h : s.step a = some t) : t.vconn = s.vconn ∧
    ∀ c', t.conn = some c' → ∃ c, s.conn = some c ∧ c'.cmdRx.chan = c.cmdRx.chan := by
  cases step_move h with
  | serviceBegin _ hbegin =>
      obtain ⟨c, hconn, _, rfl⟩ := serviceBegin_cases hbegin
      refine ⟨rfl, fun c' hc' => ⟨c, hconn, ?_⟩⟩
      cases hc'
      rw [Service.cmdRx_serviceIo]
  | serviceNext _ hnext =>
      obtain ⟨c, cmd, rest, hconn, _, _, rfl⟩ := serviceNext_cases hnext
      refine ⟨rfl, fun c' hc' => ⟨c, hconn, ?_⟩⟩
      cases hc'
      rw [Service.serviceCmd, Service.cmdRx_serviceIo, Service.cmdRx_handleCmd]
      rfl
  | serviceDrop | stop =>
      refine ⟨rfl, fun c' hc' => ?_⟩
      cases hc'
  | connectFail | closeGone | closeRecv =>
      refine ⟨rfl, fun c' hc' => ?_⟩
      obtain ⟨c, hc, rfl⟩ := Option.map_eq_some_iff.mp hc'
      exact ⟨c, hc, rfl⟩
  | readSend c _ _ hconn | writeSend c _ _ _ hconn | closeWriteSend c _ hconn | closeSend c _ hconn =>
      refine ⟨rfl, fun c' hc' => ⟨c, hconn, ?_⟩⟩
      cases hc'
      rfl
  | _ => exact ⟨rfl, fun c' hc' => ⟨c', hc', rfl⟩⟩

omit [LawfulTcpSocket σ] in
/-- Only the end of `service` and the end of the actor take an entry away. -/
theorem step_isSome (h : s.step a = some t) (hend : a ≠ .serviceEnd) (hstop : a ≠ .stop) :
    t.conn.isSome = s.conn.isSome := by
  cases step_move h with
  | serviceBegin _ hbegin =>
      obtain ⟨c, hconn, _, rfl⟩ := serviceBegin_cases hbegin
      rw [hconn]
      rfl
  | serviceNext _ hnext =>
      obtain ⟨c, cmd, rest, hconn, _, _, rfl⟩ := serviceNext_cases hnext
      rw [hconn]
      rfl
  | serviceEnd | serviceDrop => exact absurd rfl hend
  | stop => exact absurd rfl hstop
  | connectFail | closeGone | closeRecv => exact Option.isSome_map
  | readSend c _ _ hconn | writeSend c _ _ _ hconn | closeWriteSend c _ hconn | closeSend c _ hconn =>
      rw [hconn]
      rfl
  | _ => rfl

/-- Whether the actor is inside `service` after a step. -/
def servingAfter (s : Session σ) : SessionAction σ → Bool
  | .serviceBegin => true
  | .serviceEnd => false
  | _ => s.serving

omit [LawfulTcpSocket σ] in
/-- Only `stop` stops the actor, and only the calls of the actor begin and end a round. -/
theorem step_flags (h : s.step a = some t) (hstop : a ≠ .stop) :
    t.running = s.running ∧ t.serving = s.servingAfter a := by
  cases step_move h with
  | serviceBegin _ hbegin =>
      obtain ⟨_, _, _, rfl⟩ := serviceBegin_cases hbegin
      exact ⟨rfl, rfl⟩
  | serviceNext _ hnext =>
      obtain ⟨_, _, _, _, _, _, rfl⟩ := serviceNext_cases hnext
      exact ⟨rfl, rfl⟩
  | stop => exact absurd rfl hstop
  | _ => exact ⟨rfl, rfl⟩

end Session

namespace System

variable {σ : Type} {sys : System σ} {task task' : Task σ} {t : Session σ} {chan : ChanId}
  {handle : SocketHandle} {conn : ConnState}

/-- An entry belongs to the task whose channel it receives on. -/
theorem entry_eq_some_iff : sys.entry task = some conn ↔
    sys.actor.conns.lookup task.handle = some conn ∧ conn.cmdRx.chan = task.vconn.cmd := by
  simp [entry, Option.filter_eq_some_iff]

theorem entry_eq_none
    (h : ∀ conn, sys.actor.conns.lookup task.handle = some conn → conn.cmdRx.chan ≠ task.vconn.cmd) :
    sys.entry task = none := by
  rcases hentry : sys.entry task with _ | conn
  · rfl
  · obtain ⟨hlookup, hchan⟩ := entry_eq_some_iff.mp hentry
    exact absurd hchan (h conn hlookup)

/-- What every task finds in the tables: the sockets of the listeners and of the entries, the tasks under
their channels, and for each entry the task that holds the sending end. -/
structure Consistent (sys : System σ) : Prop where
  owns : NetstackActor.Owns sys.actor sys.actor.listeners
  unanswered : ∀ chan, sys.actor.nextChan ≤ chan → sys.actor.answers chan = .none
  keyed : ∀ {chan task}, sys.tasks.lookup chan = some task → task.vconn.cmd = chan ∧ chan < sys.actor.nextChan
  held : ∀ {handle conn}, sys.actor.conns.lookup handle = some conn →
    ∃ task, sys.tasks.lookup conn.cmdRx.chan = some task ∧ task.handle = handle

theorem Consistent.socket (h : Consistent sys) (hconn : sys.actor.conns.lookup handle = some conn) :
    ∃ slot, sys.actor.sockets.lookup handle = some slot :=
  Table.mem_iff.mp ((h.owns.exact handle).mpr (Or.inr (Table.mem_of_lookup hconn)))

/-- Two tasks that have an entry have it under different handles. -/
theorem handle_ne_of_entry {c c' : ConnState} (hentry : sys.entry task = some c) (hentry' : sys.entry task' = some c')
    (hne : task'.vconn.cmd ≠ task.vconn.cmd) : task'.handle ≠ task.handle := by
  intro heq
  obtain ⟨hlookup, hchan⟩ := entry_eq_some_iff.mp hentry
  obtain ⟨hlookup', hchan'⟩ := entry_eq_some_iff.mp hentry'
  rw [heq, hlookup] at hlookup'
  cases hlookup'
  exact hne (hchan'.symm.trans hchan)

theorem socketOf_of_entry {slot : Slot σ} (hentry : sys.entry task = some conn)
    (hslot : sys.actor.sockets.lookup task.handle = some slot) : sys.socketOf task = slot.socket := by
  rw [socketOf, hentry, hslot]

theorem socketOf_of_gone (hentry : sys.entry task = none) : sys.socketOf task = task.last := by
  rw [socketOf, hentry]

/-- Everything a change of one connection can do to the tables of the actor. -/
theorem putEntry_cases (h : Consistent sys) (task : Task σ) (t : Session σ) :
    (sys.entry task = none ∧ sys.putEntry task t = sys.actor) ∨
      ∃ c slot, sys.entry task = some c ∧ sys.actor.sockets.lookup task.handle = some slot ∧
        ((∃ c', t.conn = some c' ∧ sys.putEntry task t = { sys.actor with
            conns := sys.actor.conns.insert task.handle c'
            sockets := sys.actor.sockets.insert task.handle { slot with socket := t.socket } }) ∨
          t.conn = none ∧ sys.putEntry task t =
            { sys.actor.remove task.handle { slot with socket := t.socket } with
              conns := sys.actor.conns.erase task.handle }) := by
  rcases hentry : sys.entry task with _ | c
  · exact Or.inl ⟨rfl, by rw [putEntry, hentry]⟩
  · obtain ⟨slot, hslot⟩ := h.socket (entry_eq_some_iff.mp hentry).1
    refine Or.inr ⟨c, slot, rfl, hslot, ?_⟩
    rcases hconn : t.conn with _ | c'
    · exact Or.inr ⟨rfl, by rw [putEntry, hentry, hslot, hconn]⟩
    · exact Or.inl ⟨c', rfl, by rw [putEntry, hentry, hslot, hconn]⟩

theorem session_put {phase : Phase} (h : Consistent sys)
    (hconn : ∀ c', t.conn = some c' → ∃ c, sys.entry task = some c ∧ c'.cmdRx.chan = c.cmdRx.chan)
    (hvconn : t.vconn = task.vconn) (hrun : t.running = running { sys with phase := phase })
    (hserving : t.serving = (isServing { sys with phase := phase } task.handle && t.conn.isSome)) :
    session { sys.put task t with phase := phase } (task.update t) = t := by
  have hentry : entry { sys.put task t with phase := phase } (task.update t) = t.conn := by
    rcases putEntry_cases h task t with ⟨hnone, hput⟩ | ⟨c, slot, hsome, _, ⟨c', hc', hput⟩ | ⟨hgone, hput⟩⟩
    · have hgone : t.conn = none := by
        rcases ht : t.conn with _ | c'
        · rfl
        · obtain ⟨c, hc, _⟩ := hconn c' ht
          cases hnone.symm.trans hc
      rw [hgone]
      simpa [entry, put, hput, Task.update] using hnone
    · obtain ⟨c₀, hc₀, hchan⟩ := hconn c' hc'
      rw [hc', entry_eq_some_iff]
      refine ⟨?_, hchan.trans (entry_eq_some_iff.mp hc₀).2⟩
      simp [put, hput, Task.update]
    · rw [hgone]
      simp [entry, put, hput, Task.update]
  have hsocket : socketOf { sys.put task t with phase := phase } (task.update t) = t.socket := by
    rcases ht : t.conn with _ | c'
    · exact socketOf_of_gone (hentry.trans ht)
    · obtain ⟨c₀, hc₀, _⟩ := hconn c' ht
      obtain ⟨slot, hslot⟩ := h.socket (entry_eq_some_iff.mp hc₀).1
      have hput : (sys.put task t).actor.sockets.lookup task.handle = some { slot with socket := t.socket } := by
        simp [put, putEntry, hc₀, hslot, ht]
      exact socketOf_of_entry (hentry.trans ht) hput
  rw [session, hentry, hsocket]
  cases t
  simp_all [Task.update, put, isServing, running]

theorem entry_put_ne (h : Consistent sys) (hne : task'.vconn.cmd ≠ task.vconn.cmd)
    (hconn : ∀ c', t.conn = some c' → ∃ c, sys.entry task = some c ∧ c'.cmdRx.chan = c.cmdRx.chan) :
    (sys.put task t).entry task' = sys.entry task' := by
  rcases putEntry_cases h task t with ⟨_, hput⟩ | ⟨c, slot, hsome, _, hput⟩
  · simp [entry, put, hput]
  · obtain ⟨hlookup, hchan⟩ := entry_eq_some_iff.mp hsome
    by_cases hhandle : task'.handle = task.handle
    · -- under the handle that was written, the old and the new entry are those of the other task
      have hold : sys.entry task' = none := by
        apply entry_eq_none
        intro conn hlookup' hchan'
        rw [hhandle, hlookup] at hlookup'
        cases hlookup'
        exact hne (hchan'.symm.trans hchan)
      rw [hold]
      apply entry_eq_none
      intro conn hlookup' hchan'
      rw [hhandle] at hlookup'
      rcases hput with ⟨c', hc', hput⟩ | ⟨_, hput⟩
      · obtain ⟨c₀, hc₀, hkeep⟩ := hconn c' hc'
        simp only [put, hput, AList.lookup_insert, Option.some.injEq] at hlookup'
        rw [← hlookup', hkeep, (entry_eq_some_iff.mp hc₀).2] at hchan'
        exact hne hchan'.symm
      · simp only [put, hput, AList.lookup_erase, reduceCtorEq] at hlookup'
    · rcases hput with ⟨c', _, hput⟩ | ⟨_, hput⟩
      · simp [entry, put, hput, AList.lookup_insert_ne hhandle]
      · simp [entry, put, hput, AList.lookup_erase_ne hhandle]

theorem socketOf_put_ne (h : Consistent sys) (hne : task'.vconn.cmd ≠ task.vconn.cmd)
    (hconn : ∀ c', t.conn = some c' → ∃ c, sys.entry task = some c ∧ c'.cmdRx.chan = c.cmdRx.chan) :
    (sys.put task t).socketOf task' = sys.socketOf task' := by
  have hentry := entry_put_ne h hne hconn
  rcases hlive : sys.entry task' with _ | c'
  · rw [socketOf_of_gone hlive, socketOf_of_gone (hentry.trans hlive)]
  · rw [socketOf, socketOf, hentry, hlive]
    rcases putEntry_cases h task t with ⟨_, hput⟩ | ⟨c, slot, hsome, _, ⟨_, _, hput⟩ | ⟨_, hput⟩⟩
    · simp [put, hput]
    · simp [put, hput, AList.lookup_insert_ne (handle_ne_of_entry hsome hlive hne)]
    · simp [put, hput, NetstackActor.remove, NetstackActor.record,
        AList.lookup_erase_ne (handle_ne_of_entry hsome hlive hne)]

/-- A connection is what its task, its entry, its socket and its answers are. -/
theorem session_frame {sys' : System σ} (hentry : sys'.entry task = sys.entry task)
    (hsocket : sys'.socketOf task = sys.socketOf task) (hrun : sys'.running = sys.running)
    (hserving : ∀ c, sys.entry task = some c → sys'.isServing task.handle = sys.isServing task.handle)
    (hanswers : sys'.actor.answers task.vconn.cmd = sys.actor.answers task.vconn.cmd) :
    sys'.session task = sys.session task := by
  have hflag : (sys'.isServing task.handle && (sys.entry task).isSome) =
      (sys.isServing task.handle && (sys.entry task).isSome) := by
    rcases hlive : sys.entry task with _ | c
    · simp
    · rw [hserving c hlive]
  simp only [session, hentry, hsocket, hrun, hflag, hanswers]

theorem session_put_ne {phase : Phase} (h : Consistent sys) (hne : task'.vconn.cmd ≠ task.vconn.cmd)
    (hconn : ∀ c', t.conn = some c' → ∃ c, sys.entry task = some c ∧ c'.cmdRx.chan = c.cmdRx.chan)
    (hrun : running { sys with phase := phase } = sys.running)
    (hserving : ∀ c, sys.entry task' = some c →
      isServing { sys with phase := phase } task'.handle = sys.isServing task'.handle) :
    session { sys.put task t with phase := phase } task' = sys.session task' := by
  apply session_frame
  · exact entry_put_ne h hne hconn
  · exact socketOf_put_ne h hne hconn
  · exact hrun
  · exact hserving
  · exact Function.update_of_ne hne _ _

theorem nextChan_put (h : Consistent sys) (task : Task σ) (t : Session σ) :
    (sys.put task t).actor.nextChan = sys.actor.nextChan := by
  rcases putEntry_cases h task t with ⟨_, hput⟩ | ⟨_, _, _, _, ⟨_, _, hput⟩ | ⟨_, hput⟩⟩ <;>
    simp [put, hput, NetstackActor.remove, NetstackActor.record]

/-- Every entry is one that was there before, under the same handle and on the same channel. -/
theorem lookup_conns_put (h : Consistent sys)
    (hconn : ∀ c', t.conn = some c' → ∃ c, sys.entry task = some c ∧ c'.cmdRx.chan = c.cmdRx.chan)
    (hlookup : (sys.put task t).actor.conns.lookup handle = some conn) :
    ∃ conn', sys.actor.conns.lookup handle = some conn' ∧ conn.cmdRx.chan = conn'.cmdRx.chan := by
  rcases putEntry_cases h task t with ⟨_, hput⟩ | ⟨_, _, _, _, ⟨c', hc', hput⟩ | ⟨_, hput⟩⟩ <;>
    simp only [put, hput] at hlookup
  · exact ⟨conn, hlookup, rfl⟩
  · rw [Table.lookup_insert_eq] at hlookup
    split at hlookup
    · rename_i heq
      obtain ⟨c, hc, hchan⟩ := hconn c' hc'
      cases hlookup
      exact ⟨c, heq ▸ (entry_eq_some_iff.mp hc).1, hchan⟩
    · exact ⟨conn, hlookup, rfl⟩
  · rw [Table.lookup_erase_eq] at hlookup
    split at hlookup
    · cases hlookup
    · exact ⟨conn, hlookup, rfl⟩

theorem Consistent.owns_put (h : Consistent sys) (task : Task σ) (t : Session σ) :
    NetstackActor.Owns (sys.put task t).actor sys.actor.listeners := by
  rcases putEntry_cases h task t with ⟨_, hput⟩ | ⟨c, slot, hsome, hslot, ⟨c', _, hput⟩ | ⟨_, hput⟩⟩ <;>
    simp only [System.put, hput]
  · exact h.owns.frame (fun _ => Iff.rfl) (fun _ => Iff.rfl) fun _ => id
  · have hmem : task.handle ∈ sys.actor.conns := Table.mem_of_lookup (entry_eq_some_iff.mp hsome).1
    have hsock : task.handle ∈ sys.actor.sockets := Table.mem_of_lookup hslot
    apply h.owns.frame
    · intro other
      rw [AList.mem_insert]
      exact ⟨fun hor => hor.elim (fun heq => heq ▸ hsock) id, Or.inr⟩
    · intro other
      rw [AList.mem_insert]
      exact ⟨fun hor => hor.elim (fun heq => heq ▸ hmem) id, Or.inr⟩
    · exact fun _ => id
  · refine h.owns.leave (Table.mem_of_lookup (entry_eq_some_iff.mp hsome).1) (fun _ => AList.mem_erase)
      (fun _ => AList.mem_erase) ?_
    intro conn hmem
    simpa [NetstackActor.remove, NetstackActor.record] using hmem

theorem listeners_put (h : Consistent sys) (task : Task σ) (t : Session σ) :
    (sys.put task t).actor.listeners = sys.actor.listeners := by
  rcases putEntry_cases h task t with ⟨_, hput⟩ | ⟨_, _, _, _, ⟨_, _, hput⟩ | ⟨_, hput⟩⟩ <;>
    simp [put, hput, NetstackActor.remove, NetstackActor.record]

theorem Consistent.insertTask (h : Consistent sys) (htask : sys.tasks.lookup chan = some task)
    {task' : Task σ} (hvconn : task'.vconn = task.vconn) (hhandle : task'.handle = task.handle) :
    Consistent { sys with tasks := sys.tasks.insert chan task' } := by
  refine ⟨h.owns, h.unanswered, ?_, ?_⟩
  · intro other task'' hlookup
    simp only [Table.lookup_insert_eq] at hlookup
    split at hlookup
    · rename_i heq
      cases hlookup
      rw [heq, hvconn]
      exact h.keyed htask
    · exact h.keyed hlookup
  · intro handle conn hlookup
    obtain ⟨task'', htask'', hheld⟩ := h.held hlookup
    simp only [Table.lookup_insert_eq]
    by_cases heq : conn.cmdRx.chan = chan
    · cases htask.symm.trans (heq ▸ htask'')
      exact ⟨task', if_pos heq, hhandle.trans hheld⟩
    · exact ⟨task'', by rw [if_neg heq, htask''], hheld⟩

/-- A change of one connection keeps the tables in order. -/
theorem Consistent.put (h : Consistent sys) (htask : sys.tasks.lookup chan = some task)
    (hconn : ∀ c', t.conn = some c' → ∃ c, sys.entry task = some c ∧ c'.cmdRx.chan = c.cmdRx.chan) :
    Consistent (sys.put task t) := by
  obtain ⟨hcmd, hlt⟩ := h.keyed htask
  have hactor : Consistent { sys with actor := (sys.put task t).actor } := by
    refine ⟨listeners_put h task t ▸ h.owns_put task t, ?_, ?_, ?_⟩
    · intro other hle
      rw [nextChan_put h] at hle
      have hne : other ≠ task.vconn.cmd := Nat.ne_of_gt (hcmd ▸ lt_of_lt_of_le hlt hle)
      rw [← h.unanswered other hle]
      exact Function.update_of_ne hne _ _
    · intro other task' hlookup
      rw [nextChan_put h]
      exact h.keyed hlookup
    · intro handle conn hlookup
      obtain ⟨conn', hlookup', hchan⟩ := lookup_conns_put h hconn hlookup
      rw [hchan]
      exact h.held hlookup'
  rw [← hcmd] at htask
  exact hactor.insertTask htask rfl rfl

/-- Where the actor stands agrees with its tables. -/
def Phased (sys : System σ) : Prop :=
  match sys.phase with
  | .accepting processed rest => sys.actor.listeners = processed ++ rest
  | .servicing rest => rest.Nodup ∧ ∀ handle ∈ rest, handle ∈ sys.actor.conns
  | .serving handle rest => (handle :: rest).Nodup ∧ ∀ other ∈ handle :: rest, other ∈ sys.actor.conns
  | .stopped => ∀ handle, handle ∉ sys.actor.conns
  | _ => True

end System

end SmoltcpSocks
