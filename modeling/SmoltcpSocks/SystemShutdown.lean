import Mathlib.Algebra.Order.BigOperators.Group.Finset
import Mathlib.Algebra.Order.Group.Nat
import SmoltcpSocks.SystemDispatch

/-! Shutdown. Once the actor has stopped, every step of a relay brings it nearer to its end, and a relay that has not
returned has a step to make or waits for its upstream alone, since no reply it awaits is still held by the actor.
The dispatcher first starts the relays of the connections left in its queue and then ends. Before that, the request
to stop stays in its channel until the actor hears it. -/

namespace SmoltcpSocks

open TcpSocket

def answeredBytes : List (ReplyId × Except VConnError (List UInt8)) → Nat
  | [] => 0
  | (_, .ok data) :: rest => data.length + answeredBytes rest
  | (_, .error _) :: rest => answeredBytes rest

theorem length_le_answeredBytes {answers : List (ReplyId × Except VConnError (List UInt8))} {reply : ReplyId}
    {data : List UInt8} (hmem : (reply, .ok data) ∈ answers) : data.length ≤ answeredBytes answers := by
  induction answers with
  | nil => cases hmem
  | cons answer rest ih =>
      rcases List.mem_cons.mp hmem with rfl | hrest
      · exact Nat.le_add_right _ _
      · obtain ⟨_, _ | _⟩ := answer
        · exact ih hrest
        · exact le_trans (ih hrest) (Nat.le_add_left _ _)

/-- How many steps `copy_vconn_to` can still make without the actor: the data it was answered may go to the
writer byte by byte. -/
def UpPoint.rank (answered : Nat) : UpPoint → Nat
  | .returned _ => 0
  | .read | .flush => 1
  | .writeAll rest => rest.length + 1
  | .awaitRead _ => answered + 2

/-- The same for `copy_to_vconn`. -/
def DownPoint.rank : DownPoint → Nat
  | .returned _ => 0
  | .write _ _ | .closeWrite | .awaitCloseWrite _ => 1
  | .read => 2
  | .awaitWrite _ _ _ => 3

/-- The same for `pipe` itself. -/
def PipePoint.rank : PipePoint → Nat
  | .returned _ => 0
  | .close | .awaitClose _ => 1
  | .join => 2
  | .dial => 3

/-- `copy_vconn_to` is in a call on the upstream writer. -/
def UpPoint.atUpstream : UpPoint → Bool
  | .writeAll _ | .flush => true
  | _ => false

/-- `copy_to_vconn` is in `src.read`. -/
def DownPoint.atUpstream : DownPoint → Bool
  | .read => true
  | _ => false

/-- The steps of a relay that are its upstream's to make: the end of the dial, and what the calls on the two halves
of the stream come back with. -/
def SessionAction.isUpstream {σ : Type} : SessionAction σ → Bool
  | .connect _ | .writeSome _ | .writeFail _ | .flush | .srcRead _ | .srcEof | .srcFail _ => true
  | _ => false

def SessionAction.isOwn {σ : Type} (a : SessionAction σ) : Bool := a.isRelay && !a.isUpstream

theorem UpPoint.exists_of_hasReturned {point : UpPoint} (h : point.hasReturned = true) :
    ∃ result, point = .returned result := by
  cases point with
  | returned result => exact ⟨result, rfl⟩
  | _ => cases h

theorem DownPoint.exists_of_hasReturned {point : DownPoint} (h : point.hasReturned = true) :
    ∃ result, point = .returned result := by
  cases point with
  | returned result => exact ⟨result, rfl⟩
  | _ => cases h

namespace Session

variable {σ : Type}

def rank (s : Session σ) : Nat := s.pipe.rank + s.up.rank (answeredBytes s.answers.read) + s.down.rank

/-- The relay waits for its upstream and for nothing else: in the dial, or in `join!` with each direction in a call on
the upstream unless it has returned. -/
def WaitsForUpstream (s : Session σ) : Prop :=
  s.pipe = .dial ∨ s.pipe = .join ∧ (s.up.atUpstream = true ∨ s.up.hasReturned = true) ∧
    (s.down.atUpstream = true ∨ s.down.hasReturned = true) ∧ (s.up.atUpstream = true ∨ s.down.atUpstream = true)

variable [TcpSocket σ] {s t : Session σ} {a : SessionAction σ}

omit [TcpSocket σ] in
/-- The loop that is answered has at most the answered bytes to write. -/
theorem rank_afterRead_lt {answers rest : List (ReplyId × Except VConnError (List UInt8))} {held : List ReplyId}
    {reply : ReplyId} {result : Except VConnError (List UInt8)}
    (h : Oneshot.await answers held (.error .actorGone) reply = some (result, rest)) (answered : Nat) :
    (UpPoint.afterRead result).rank answered < answeredBytes answers + 2 := by
  rcases result with e | _ | ⟨byte, data⟩
  · exact Nat.succ_pos _
  · exact Nat.succ_lt_succ (Nat.succ_pos _)
  · have hle : (byte :: data).length ≤ answeredBytes answers := by
      rcases Oneshot.mem_of_await h with hmem | hdropped
      · exact length_le_answeredBytes hmem
      · cases hdropped
    simp only [UpPoint.afterRead, UpPoint.rank]
    omega

omit [TcpSocket σ] in
theorem rank_afterWrite_lt (buf : List UInt8) (written : Nat) (result : Except VConnError Nat) :
    (DownPoint.afterWrite buf written result).rank < 3 := by
  unfold DownPoint.afterWrite
  split
  · simp [DownPoint.rank]
  · split <;> simp [DownPoint.rank]
  · simp [DownPoint.rank]

omit [TcpSocket σ] in
theorem rank_lt_of_up (hpipe : t.pipe = s.pipe) (hdown : t.down = s.down)
    (hup : t.up.rank (answeredBytes t.answers.read) < s.up.rank (answeredBytes s.answers.read)) : t.rank < s.rank := by
  rw [rank, rank, hpipe, hdown]
  omega

omit [TcpSocket σ] in
theorem rank_lt_of_down (hpipe : t.pipe = s.pipe) (hup : t.up = s.up) (hread : t.answers.read = s.answers.read)
    (hdown : t.down.rank < s.down.rank) : t.rank < s.rank := by
  rw [rank, rank, hpipe, hup, hread]
  omega

/-- Without the actor every step of the relay brings it nearer to its end. -/
theorem rank_lt_of_step (hgone : s.conn = none) (h : s.step a = some t) (hrelay : a.isRelay = true) :
    t.rank < s.rank := by
  cases step_move h with
  | poll | serviceBegin | serviceNext | serviceEnd | serviceDrop | stop => cases hrelay
  | readSend c _ _ hconn | writeSend c _ _ _ hconn | closeWriteSend c _ hconn | closeSend c _ hconn =>
      cases hgone.symm.trans hconn
  | connect hpipe | connectFail e hpipe | join hpipe | closeGone hpipe | closeRecv reply result rest hpipe =>
      simp [rank, hpipe, PipePoint.rank, finish, dropVConn]
  | readGone hpipe hup | writeFail e rest hup | flush hup =>
      refine rank_lt_of_up rfl rfl ?_
      simp [hup, UpPoint.rank]
  | readRecv reply result rest hup hawait =>
      refine rank_lt_of_up rfl rfl ?_
      rw [hup]
      exact rank_afterRead_lt hawait _
  | writeSome n rest hup hpos hle =>
      refine rank_lt_of_up rfl rfl ?_
      rw [hup]
      by_cases hlt : n < rest.length
      · simp only [if_pos hlt, UpPoint.rank, List.length_drop]
        omega
      · simp only [if_neg hlt, UpPoint.rank]
        omega
  | srcRead n chunk rest hpipe hdown | srcEof hpipe hdown | srcFail e hpipe hdown =>
      refine rank_lt_of_down rfl rfl rfl ?_
      simp [hdown, DownPoint.rank]
  | writeRecv buf written reply result rest hdown =>
      refine rank_lt_of_down rfl rfl rfl ?_
      rw [hdown]
      exact rank_afterWrite_lt buf written result
  | writeGone buf written hdown | closeWriteGone hdown | closeWriteRecv reply result rest hdown =>
      refine rank_lt_of_down rfl rfl rfl ?_
      simp [hdown, DownPoint.rank]

omit [TcpSocket σ] in
theorem send_of_gone (hgone : s.conn = none) (cmd : ConnCmd) : s.send cmd = some (.error .actorGone) := by
  rw [send, hgone]

/-- Without the actor `copy_vconn_to` has a step to make, is in a call on the upstream, or has returned. -/
theorem exists_up_step (hgone : s.conn = none) (hpipe : s.pipe = .join) :
    (∃ a, a.isOwn = true ∧ (s.step a).isSome = true) ∨ s.up.atUpstream = true ∨ s.up.hasReturned = true := by
  rcases hup : s.up with _ | reply | rest | _ | result
  · exact Or.inl ⟨.readSend, rfl, by simp [step, readSend, hpipe, hup, send_of_gone hgone]⟩
  · have hreads : s.reads = [] := by simp [reads, hgone]
    obtain ⟨⟨result, rest⟩, hawait⟩ := Oneshot.exists_await_nil s.answers.read (.error .actorGone) reply
    exact Or.inl ⟨.readRecv, rfl, by simp [step, readRecv, hup, hreads, hawait]⟩
  · exact Or.inr (Or.inl rfl)
  · exact Or.inr (Or.inl rfl)
  · exact Or.inr (Or.inr rfl)

theorem exists_down_step (hgone : s.conn = none) :
    (∃ a, a.isOwn = true ∧ (s.step a).isSome = true) ∨ s.down.atUpstream = true ∨ s.down.hasReturned = true := by
  rcases hdown : s.down with _ | ⟨buf, written⟩ | ⟨buf, written, reply⟩ | _ | reply | result
  · exact Or.inr (Or.inl rfl)
  · exact Or.inl ⟨.writeSend, rfl, by simp [step, writeSend, hdown, send_of_gone hgone]⟩
  · have hwrites : s.writes = [] := by simp [writes, hgone]
    obtain ⟨⟨result, rest⟩, hawait⟩ := Oneshot.exists_await_nil s.answers.write (.error .actorGone) reply
    exact Or.inl ⟨.writeRecv, rfl, by simp [step, writeRecv, hdown, hwrites, hawait]⟩
  · exact Or.inl ⟨.closeWriteSend, rfl, by simp [step, closeWriteSend, hdown, send_of_gone hgone]⟩
  · have hcloseWrites : s.closeWrites = [] := by simp [closeWrites, hgone]
    obtain ⟨⟨result, rest⟩, hawait⟩ := Oneshot.exists_await_nil s.answers.closeWrite (.error .actorGone) reply
    exact Or.inl ⟨.closeWriteRecv, rfl, by simp [step, closeWriteRecv, hdown, hcloseWrites, hawait]⟩
  · exact Or.inr (Or.inr rfl)

/-- Inside `join!` a relay without the actor has a step to make or waits for its upstream. -/
theorem exists_join_step (hgone : s.conn = none) (hpipe : s.pipe = .join) :
    (∃ a, a.isOwn = true ∧ (s.step a).isSome = true) ∨ s.WaitsForUpstream := by
  rcases exists_up_step hgone hpipe with hstep | hup
  · exact Or.inl hstep
  rcases exists_down_step hgone with hstep | hdown
  · exact Or.inl hstep
  by_cases hwaits : s.up.atUpstream = true ∨ s.down.atUpstream = true
  · exact Or.inr (Or.inr ⟨hpipe, hup, hdown, hwaits⟩)
  · rw [not_or] at hwaits
    obtain ⟨upResult, hup⟩ := UpPoint.exists_of_hasReturned (hup.resolve_left hwaits.1)
    obtain ⟨downResult, hdown⟩ := DownPoint.exists_of_hasReturned (hdown.resolve_left hwaits.2)
    exact Or.inl ⟨.join, rfl, by simp [step, join, hpipe, hup, hdown]⟩

/-- Without the actor a relay that has not returned has a step to make or waits for its upstream. -/
theorem exists_step_of_gone (hgone : s.conn = none) (hlive : s.pipe.hasReturned = false) :
    (∃ a, a.isOwn = true ∧ (s.step a).isSome = true) ∨ s.WaitsForUpstream := by
  rcases hpipe : s.pipe with _ | _ | _ | reply | result
  · exact Or.inr (Or.inl hpipe)
  · exact exists_join_step hgone hpipe
  · exact Or.inl ⟨.closeSend, rfl, by simp [step, closeSend, hpipe, send_of_gone hgone]⟩
  · have hcloses : s.closes = [] := by simp [closes, hgone]
    obtain ⟨⟨result, rest⟩, hawait⟩ := Oneshot.exists_await_nil s.answers.close (.error .actorGone) reply
    exact Or.inl ⟨.closeRecv, rfl, by simp [step, closeRecv, hpipe, hcloses, hawait]⟩
  · rw [hpipe] at hlive
    cases hlive

end Session

/-- The steps of the dispatcher and of the relays, also those that are for the upstreams to make. -/
def SystemAction.isTask {σ : Type} : SystemAction σ → Bool
  | .dispatch | .dispatcherEnd | .relay _ _ => true
  | _ => false

/-- The steps that the dispatcher and the relays make by themselves. -/
def SystemAction.isOwn {σ : Type} : SystemAction σ → Bool
  | .dispatch | .dispatcherEnd => true
  | .relay _ a => a.isOwn
  | _ => false

namespace System

variable {σ : Type} {sys sys' : System σ} {chan : ChanId} {s : Session σ}

def weight (sys : System σ) (chan : ChanId) : Nat := (sys.view chan).elim 0 Session.rank

/-- What is left to do for the dispatcher: a step for each connection in its queue, and its end. -/
def queueRank (sys : System σ) : Nat :=
  sys.actor.accepted.length + if sys.actor.acceptedClosed then 0 else 1

def rank (sys : System σ) : Nat := ∑ chan ∈ Finset.range sys.actor.nextChan, sys.weight chan + sys.queueRank

theorem rank_lt_of_queue (hnext : sys'.actor.nextChan = sys.actor.nextChan)
    (hweight : ∀ chan, sys'.weight chan = sys.weight chan) (hqueue : sys'.queueRank < sys.queueRank) :
    sys'.rank < sys.rank := by
  have hsum : ∑ chan ∈ Finset.range sys.actor.nextChan, sys'.weight chan =
      ∑ chan ∈ Finset.range sys.actor.nextChan, sys.weight chan :=
    Finset.sum_congr rfl fun chan _ => hweight chan
  rw [rank, rank, hnext, hsum]
  omega

theorem rank_lt_of_weight (hnext : sys'.actor.nextChan = sys.actor.nextChan) (hmem : chan < sys.actor.nextChan)
    (hlt : sys'.weight chan < sys.weight chan) (hweight : ∀ other, other ≠ chan → sys'.weight other = sys.weight other)
    (hqueue : sys'.queueRank = sys.queueRank) : sys'.rank < sys.rank := by
  have hsum : ∑ chan ∈ Finset.range sys.actor.nextChan, sys'.weight chan <
      ∑ chan ∈ Finset.range sys.actor.nextChan, sys.weight chan := by
    refine Finset.sum_lt_sum (fun other _ => ?_) ⟨chan, Finset.mem_range.mpr hmem, hlt⟩
    by_cases heq : other = chan
    · exact heq ▸ hlt.le
    · exact (hweight other heq).le
  rw [rank, rank, hnext, hqueue]
  omega

theorem running_eq_false_iff : sys.running = false ↔ sys.phase = .stopped := by
  unfold running
  split <;> simp_all

/-- No connection has an entry once the actor is gone. -/
theorem Ordered.gone (h : Ordered sys) (hphase : sys.phase = .stopped) (hview : sys.view chan = some s) :
    s.conn = none ∧ s.running = false := by
  obtain ⟨task, _, rfl⟩ := view_eq_some_iff.mp hview
  have hphased := h.phased
  rw [Phased, hphase] at hphased
  refine ⟨entry_eq_none fun conn hlookup => ?_, by simp [session, running, hphase]⟩
  exact absurd (Table.mem_of_lookup hlookup) (hphased task.handle)

variable [TcpSocket σ] [LawfulTcpSocket σ] {action : SystemAction σ}

theorem Ordered.view_none (h : Ordered sys) (h' : Ordered sys') (hphase : sys'.phase = .stopped)
    (hstep : sys.step action = some sys') (hview : sys.view chan = none) : sys'.view chan = none := by
  rcases hview' : sys'.view chan with _ | s
  · rfl
  · obtain ⟨_, _, _, _, _, _, rfl, _⟩ := step_born h hstep hview hview'
    cases (h'.gone hphase hview').2

theorem Ordered.weight_eq (h : Ordered sys) (h' : Ordered sys') (hphase : sys'.phase = .stopped)
    (hfresh : action.FreshHandles) (hstep : sys.step action = some sys') (hon : sys.on chan action = none) :
    sys'.weight chan = sys.weight chan := by
  unfold weight
  rcases hview : sys.view chan with _ | s
  · rw [h.view_none h' hphase hstep hview]
  · have hnext := step_view h hfresh hstep hview
    rw [hon] at hnext
    rw [hnext]

/-- A step of the dispatcher or of a relay leaves the actor gone and lowers the rank. -/
theorem Ordered.rank_lt (h : Ordered sys) (hphase : sys.phase = .stopped) (htask : action.isTask = true)
    (hstep : sys.step action = some sys') : sys'.phase = .stopped ∧ sys'.rank < sys.rank := by
  have hfresh : action.FreshHandles := by
    cases action <;> trivial
  have h' : Ordered sys' := h.step hfresh hstep
  have hweight : ∀ other, sys'.phase = .stopped → sys.on other action = none → sys'.weight other = sys.weight other :=
    fun other hphase' hon => h.weight_eq h' hphase' hfresh hstep hon
  cases step_move hstep with
  | dispatch vconn m rest task haccepted =>
      refine ⟨hphase, rank_lt_of_queue rfl (fun other => hweight other hphase rfl) ?_⟩
      rw [queueRank, queueRank, haccepted]
      exact Nat.add_lt_add_right (Nat.lt_succ_self _) _
  | dispatcherEnd _ _ hclosed =>
      refine ⟨hphase, rank_lt_of_queue rfl (fun other => hweight other hphase rfl) ?_⟩
      simp [queueRank, hclosed]
  | relay chan a task t hlookup _ hrelay =>
      have hview : sys.view chan = some (sys.session task) := view_eq_some_iff.mpr ⟨task, hlookup, rfl⟩
      have hnext := step_view h hfresh hstep hview
      simp only [on, if_true] at hnext
      obtain ⟨s', hs', hview'⟩ := hnext
      refine ⟨hphase, rank_lt_of_weight (nextChan_put h.toConsistent task t) (h.keyed hlookup).2 ?_
        (fun other hne => hweight other hphase (if_neg (Ne.symm hne))) ?_⟩
      · rw [weight, weight, hview, hview']
        exact Session.rank_lt_of_step (h.gone hphase hview).1 hs' hrelay
      · have hsame := SameQueue.put h.toConsistent hlookup t sys.phase
        have haccepted : (sys.put task t).actor.accepted = sys.actor.accepted := hsame.accepted
        rw [queueRank, queueRank, haccepted, acceptedClosed_put h.toConsistent]
  | serve _ _ _ _ _ _ _ hserves =>
      generalize sys.phase = stand at hserves
      cases hserves <;> cases htask
  | poll | acceptNext | serviceCommands | serviceDone | egress | wake | stopRecv | stopGone | stopSend | handleDrop =>
      cases htask

/-- The actor is gone; the dispatcher and the relays go on. -/
structure AfterStop (sys : System σ) : Prop where
  ordered : Ordered sys
  dispatched : Dispatched sys
  phase : sys.phase = .stopped

theorem AfterStop.step (h : AfterStop sys) (htask : action.isTask = true) (hstep : sys.step action = some sys') :
    AfterStop sys' where
  ordered := h.ordered.step (by cases action <;> trivial) hstep
  dispatched := h.dispatched.step h.ordered hstep
  phase := (h.ordered.rank_lt h.phase htask hstep).1

omit [LawfulTcpSocket σ] in
/-- Where neither the dispatcher nor a relay can make a step by itself, the dispatcher has come to its end, and the
relays have too or wait for their upstreams. -/
theorem AfterStop.ended_of_stuck (hstop : AfterStop sys)
    (hstuck : ∀ action, action.isOwn = true → sys.step action = none) :
    sys.actor.acceptedClosed = true ∧
      ∀ chan s, sys.view chan = some s → s.pipe.hasReturned = true ∨ s.WaitsForUpstream := by
  obtain ⟨hordered, h, hphase⟩ := hstop
  have hqueue : sys.actor.accepted = [] := by
    by_contra hne
    obtain ⟨sys', hsys'⟩ := h.exists_dispatch hne
    cases (hstuck .dispatch rfl).symm.trans hsys'
  have hclosed : sys.actor.acceptedClosed = true := by
    have hend := hstuck .dispatcherEnd rfl
    rcases hopen : sys.actor.acceptedClosed
    · simp [System.step, hphase, hqueue, hopen] at hend
    · rfl
  refine ⟨hclosed, fun chan s hview => ?_⟩
  rcases hlive : s.pipe.hasReturned with _ | _
  swap
  · exact Or.inl rfl
  rcases Session.exists_step_of_gone (hordered.gone hphase hview).1 hlive with ⟨a, hown, hsome⟩ | hwaits
  swap
  · exact Or.inr hwaits
  -- a step that the relay could make is a step of the program
  obtain ⟨task, htask, rfl⟩ := view_eq_some_iff.mp hview
  obtain ⟨t, ht⟩ := Option.isSome_iff_exists.mp hsome
  have hrelay : a.isRelay = true := (Bool.and_eq_true_iff.mp hown).1
  -- the queue is empty, so that the relay of every connection was started
  have hstarted : task.started = true := by
    have hlabel : sys.label chan = some (task.vconn, task.started) := by
      rw [label, htask]
      rfl
    have hmem := h.listed hlabel
    rw [h.order, hqueue, List.map_nil, List.append_nil] at hmem
    exact (h.started hlabel).mpr hmem
  have hguard : (task.started && a.isRelay) = true := by
    rw [hstarted, hrelay]
    rfl
  have hstep : sys.step (.relay chan a) = some (sys.put task t) := by
    refine Option.bind_eq_some_iff.mpr ⟨task, htask, Option.bind_eq_some_iff.mpr ⟨(), if_pos hguard, ?_⟩⟩
    exact Option.bind_eq_some_iff.mpr ⟨t, ht, rfl⟩
  cases (hstuck (.relay chan a) hown).symm.trans hstep

/-- Once the actor has stopped, whatever state it stopped in, the dispatcher and all relays, with whatever their
upstreams do, make at most `rank` steps more, in every order of them; and where none of them can make a step by
itself the dispatcher has ended, and a relay that has not returned waits for its upstream and for nothing else. -/
theorem stopped_relay_waits_only_for_upstream {start : Alloc σ} (hstart : start.Fresh) :
    ∃ sys₀ : System σ, spawn start = some sys₀ ∧ ∀ trace sys, Runs (fun _ _ => True) sys₀ trace sys →
      sys.running = false →
      (∀ rest sys', Transition.Run System.step (fun _ action => action.isTask = true) sys rest sys' →
        sys'.running = false ∧ rest.length + sys'.rank ≤ sys.rank ∧
          ((∀ action, action.isOwn = true → sys'.step action = none) → sys'.actor.acceptedClosed = true ∧
            ∀ chan s, sys'.view chan = some s → s.pipe.hasReturned = true ∨ s.WaitsForUpstream)) := by
  obtain ⟨a, ha, hfresh, _, hordered⟩ := spawn_eq hstart
  refine ⟨_, ha, fun trace sys hrun hstopped rest sys' hrest => ?_⟩
  obtain ⟨hsys, hdispatched⟩ := hfresh.dispatched_run hordered hrun
  have h : AfterStop sys := ⟨hsys, hdispatched, running_eq_false_iff.mp hstopped⟩
  have h' : AfterStop sys' := hrest.invariant (fun _ _ _ h htask hstep => h.step htask hstep) h
  refine ⟨running_eq_false_iff.mpr h'.phase, ?_, h'.ended_of_stuck⟩
  refine hrest.length_add_rank_le (fun _ _ _ h htask hstep => h.step htask hstep) ?_ h
  exact fun _ _ _ h htask hstep => (h.ordered.rank_lt h.phase htask hstep).2

/-- The steps that a relay can make by itself, all of them. -/
def ownActions : List (SessionAction σ) :=
  [.readSend, .readRecv, .writeSend, .writeRecv, .closeWriteSend, .closeWriteRecv, .join, .closeSend, .closeRecv]

omit [TcpSocket σ] [LawfulTcpSocket σ] in
theorem mem_ownActions {a : SessionAction σ} (h : a.isOwn = true) : a ∈ ownActions := by
  cases a <;> cases h <;> simp [ownActions]

omit [LawfulTcpSocket σ] in
/-- Whether a task has a step to make by itself is seen by trying them. -/
theorem stuck_of_ownActions
    (hdispatcher : (sys.step .dispatch).isNone = true ∧ (sys.step .dispatcherEnd).isNone = true)
    (hrelays : ∀ chan ∈ sys.tasks.keys, ∀ a ∈ ownActions, (sys.step (.relay chan a)).isNone = true)
    (action : SystemAction σ) (hown : action.isOwn = true) : sys.step action = none := by
  cases action with
  | dispatch => exact Option.isNone_iff_eq_none.mp hdispatcher.1
  | dispatcherEnd => exact Option.isNone_iff_eq_none.mp hdispatcher.2
  | relay chan a =>
      by_cases hmem : chan ∈ sys.tasks.keys
      · exact Option.isNone_iff_eq_none.mp (hrelays chan hmem a (mem_ownActions hown))
      · have hnone : sys.tasks.lookup chan = none := AList.lookup_eq_none.mpr hmem
        simp [System.step, System.relay, hnone]
  | _ => cases hown

/-- The steps of two relays that are started after the stop: one dials and finds the actor gone, and its upstream is
silent; the dial of the other does not end. -/
def silentUpstreams : List (SystemAction BufferedSocket) :=
  [.dispatch, .relay 0 (.connect (.ok ())), .relay 0 .readSend, .dispatch, .dispatcherEnd]

/-- Five steps after the stop nobody has a step to make by itself: both relays wait for their upstreams. -/
theorem stopped_relay_waits_only_for_upstream_silent :
    ∃ sys₀ sys sys' : System BufferedSocket, spawn .firstFree = some sys₀ ∧
      Runs (fun _ _ => True) sys₀ queuedAtStop sys ∧ sys.running = false ∧
      Transition.Run System.step (fun _ action => action.isTask = true) sys silentUpstreams sys' ∧
      silentUpstreams.length + sys'.rank ≤ sys.rank ∧ (∀ action, action.isOwn = true → sys'.step action = none) ∧
      sys'.actor.acceptedClosed = true ∧ ∃ s t, sys'.view 0 = some s ∧ sys'.view 1 = some t ∧
        s.pipe = .join ∧ s.WaitsForUpstream ∧ t.pipe = .dial ∧ t.WaitsForUpstream := by
  have hexec : ((spawn .firstFree).bind fun sys => Transition.execute System.step (Everywhere fun _ _ => True) sys
      queuedAtStop).any (fun sys => decide (sys.running = false) &&
        (Transition.execute System.step (fun _ action => action.isTask = true) sys silentUpstreams).any fun sys' =>
          decide (((sys'.step .dispatch).isNone = true ∧ (sys'.step .dispatcherEnd).isNone = true) ∧
            (∀ chan ∈ sys'.tasks.keys, ∀ a ∈ ownActions, (sys'.step (.relay chan a)).isNone = true) ∧
            (sys'.view 0).map Session.pipe = some .join ∧ (sys'.view 1).map Session.pipe = some .dial)) = true := by
    decide +kernel
  obtain ⟨sys₀, sys, hspawn, hrun, hs⟩ := exists_run_of_execute queuedAtStop_fresh hexec
  obtain ⟨hstopped, hs⟩ := Bool.and_eq_true_iff.mp hs
  have hstopped := of_decide_eq_true hstopped
  obtain ⟨sys', hrest, hs'⟩ := Transition.Run.exists_of_execute hs
  obtain ⟨hdispatcher, hrelays, hzero, hone⟩ := of_decide_eq_true hs'
  obtain ⟨s, hs, hjoin⟩ := Option.map_eq_some_iff.mp hzero
  obtain ⟨t, ht, hdial⟩ := Option.map_eq_some_iff.mp hone
  have hstuck := stuck_of_ownActions hdispatcher hrelays
  obtain ⟨sys₁, hspawn₁, hall⟩ := stopped_relay_waits_only_for_upstream (σ := BufferedSocket) Alloc.firstFree_fresh
  cases hspawn.symm.trans hspawn₁
  obtain ⟨_, hrank, hended⟩ := hall _ sys hrun hstopped silentUpstreams sys' hrest
  obtain ⟨hclosed, hwaits⟩ := hended hstuck
  have hlive {u : Session BufferedSocket} (hu : u.pipe.hasReturned = false) (h : u.pipe.hasReturned = true ∨
      u.WaitsForUpstream) : u.WaitsForUpstream := h.resolve_left (by simp [hu])
  refine ⟨sys₀, sys, sys', hspawn, hrun, hstopped, hrest, hrank, hstuck, hclosed, s, t, hs, ht, hjoin, ?_, hdial, ?_⟩
  · exact hlive (by rw [hjoin]; rfl) (hwaits 0 s hs)
  · exact hlive (by rw [hdial]; rfl) (hwaits 1 t ht)

/-! ### The request to stop -/

/-- `stop` was called, or the handle was dropped. -/
def StopRequested (trace : List (SystemAction σ)) : Prop := .stopSend ∈ trace ∨ .handleDrop ∈ trace

/-- The stop channel after a run: while the actor runs, it holds a message exactly if one was sent, and the actor has
not stopped unless it was asked to. -/
structure Stopping (trace : List (SystemAction σ)) (sys : System σ) : Prop where
  capacity : sys.stop.capacity = 1
  dropped : sys.handleGone = true ↔ .handleDrop ∈ trace
  sent : sys.running = true → sys.stop.closed = false ∧ (sys.stop.queue ≠ [] ↔ .stopSend ∈ trace)
  stopped : sys.running = false → sys.stop.closed = true ∧ StopRequested trace

variable {trace : List (SystemAction σ)}

omit [TcpSocket σ] [LawfulTcpSocket σ] in
theorem Stopping.frame (h : Stopping trace sys) (hsend : .stopSend ≠ action) (hdrop : .handleDrop ≠ action)
    (hstop : sys'.stop = sys.stop) (hgone : sys'.handleGone = sys.handleGone) (hrun : sys'.running = sys.running) :
    Stopping (trace ++ [action]) sys' := by
  have hsent : SystemAction.stopSend ∈ trace ++ [action] ↔ .stopSend ∈ trace := by simp [hsend]
  have hdropped : SystemAction.handleDrop ∈ trace ++ [action] ↔ .handleDrop ∈ trace := by simp [hdrop]
  constructor
  · rw [hstop]
    exact h.capacity
  · rw [hgone, hdropped]
    exact h.dropped
  · rw [hrun, hstop, hsent]
    exact h.sent
  · rw [hrun, hstop, StopRequested, hsent, hdropped]
    exact h.stopped

theorem Stopping.step (h : Stopping trace sys) (hstep : sys.step action = some sys') :
    Stopping (trace ++ [action]) sys' := by
  cases step_move hstep with
  | poll _ _ hphase | serviceCommands _ _ hphase | serviceDone hphase | egress _ hphase | wake hphase =>
      apply h.frame <;> simp [running, hphase, polled]
  | acceptNext _ _ _ _ _ _ _ _ _ hphase _ _ hturn =>
      cases hturn <;> apply h.frame <;> simp [running, hphase, turned, System.handedOver, System.refused]
  | serve _ _ _ _ _ _ _ hserves =>
      generalize hstand : sys.phase = stand at hserves
      cases hserves <;> apply h.frame <;> simp [running, hstand, put]
  | dispatch | dispatcherEnd | relay => apply h.frame <;> simp [running, put]
  | stopRecv hphase hasked =>
      have hrun : sys.running = true := by simp [running, hphase]
      have hrequested : StopRequested trace := by
        rcases hasked with hsent | hgone
        · refine Or.inl ((h.sent hrun).2.mp ?_)
          intro hempty
          rw [Channel.tryRecv_eq_none_iff.mpr hempty] at hsent
          cases hsent
        · exact Or.inr (h.dropped.mp hgone)
      refine ⟨h.capacity, ?_, ?_, ?_⟩
      · simpa [dropActor] using h.dropped
      · intro hrun
        cases hrun
      · exact fun _ => ⟨rfl, hrequested.imp (List.mem_append_left _) (List.mem_append_left _)⟩
  | stopGone hgone hclosed =>
      have hstopped : sys.running = false := by
        by_contra hrun
        cases hclosed.symm.trans (h.sent (Bool.not_eq_false _ ▸ hrun)).1
      refine ⟨h.capacity, ?_, ?_, ?_⟩
      · simpa using h.dropped
      · intro hrun
        cases hstopped.symm.trans hrun
      · exact fun _ => ⟨hclosed, Or.inl (List.mem_append_right _ (List.mem_singleton_self _))⟩
  | stopSend stop hgone hopen hsend =>
      obtain ⟨_, rfl⟩ := Channel.trySend_eq_some_iff.mp hsend
      refine ⟨h.capacity, ?_, ?_, ?_⟩
      · simpa using h.dropped
      · exact fun _ => ⟨hopen, by simp⟩
      · intro hrun
        cases hopen.symm.trans (h.stopped hrun).1
  | handleDrop hgone =>
      refine ⟨h.capacity, by simp, ?_, ?_⟩
      · intro hrun
        simpa using h.sent hrun
      · intro hrun
        exact ⟨(h.stopped hrun).1, Or.inr (List.mem_append_right _ (List.mem_singleton_self _))⟩

omit [TcpSocket σ] [LawfulTcpSocket σ] in
theorem Stopping.spawned (actor : NetstackActor σ) : Stopping [] ⟨actor, .poll, ∅, .new 1, false⟩ := by
  refine ⟨rfl, by simp, ?_, ?_⟩
  · exact fun _ => ⟨rfl, by simp [Channel.new]⟩
  · intro hrun
    cases hrun

/-- A request to stop is neither lost nor invented. In every run, at each wait the actor can stop exactly if `stop` was
called or the handle was dropped before, whenever in its rounds that was; it has not stopped otherwise; and the first
call of `stop`, like every call once the actor has stopped, returns at once. -/
theorem stop_is_heard {start : Alloc σ} (hstart : start.Fresh) :
    ∃ sys₀ : System σ, spawn start = some sys₀ ∧ ∀ trace sys, Runs (fun _ _ => True) sys₀ trace sys →
      (sys.phase = .waiting → ((∃ sys', sys.step .stopRecv = some sys') ↔ StopRequested trace)) ∧
      (sys.running = false → StopRequested trace) ∧
      (.handleDrop ∉ trace → .stopSend ∉ trace ∨ sys.running = false → ∃ sys', sys.step .stopSend = some sys') := by
  obtain ⟨a, ha, _, _, hordered⟩ := spawn_eq hstart
  refine ⟨_, ha, ?_⟩
  intro trace sys hrun
  have h : Stopping trace sys :=
    Transition.Run.history (fun _ _ _ _ h _ hstep => h.step hstep) hrun (.spawned a)
  refine ⟨?_, fun hstopped => (h.stopped hstopped).2, ?_⟩
  · intro hphase
    have hsent := (h.sent (by simp [running, hphase])).2
    have hrecv : sys.stop.tryRecv.isSome = true ↔ .stopSend ∈ trace := by
      rw [← hsent, ne_eq, ← Channel.tryRecv_eq_none_iff, Option.isSome_iff_ne_none]
    simp only [System.step, hphase]
    rw [StopRequested, ← hrecv, ← h.dropped, ← Bool.or_eq_true]
    split_ifs with hasked
    · simp [hasked]
    · simp [hasked]
  · intro hdrop hsend
    have hgone : sys.handleGone = false := by
      rw [← Bool.not_eq_true, h.dropped]
      exact hdrop
    rw [System.step, hgone]
    rcases hrunning : sys.running with _ | _
    · simp [(h.stopped hrunning).1]
    · obtain ⟨hopen, hqueue⟩ := h.sent hrunning
      have hempty : sys.stop.queue = [] := by
        by_contra hne
        rcases hsend with hsend | hstopped
        · exact hsend (hqueue.mp hne)
        · cases hstopped.symm.trans hrunning
      simp [hopen, Channel.trySend, Channel.hasRoom, hempty, h.capacity]

def stopInService : List (SystemAction BufferedSocket) :=
  twoClients.take 8 ++ [.stopSend, .entryBegin, .entryEnd, .serviceDone, .egress NetstackActor.idle]

/-- At the end of that round the actor can stop. -/
theorem stop_is_heard_in_service :
    ∃ sys₀ sys : System BufferedSocket, spawn .firstFree = some sys₀ ∧
      Runs (fun _ _ => True) sys₀ stopInService sys ∧ sys.phase = .waiting ∧
      ∃ sys', sys.step .stopRecv = some sys' := by
  have hexec : ((spawn .firstFree).bind fun sys => Transition.execute System.step (Everywhere fun _ _ => True) sys
      stopInService).any (fun sys => (sys.step .wake).isSome) = true := by decide +kernel
  obtain ⟨sys₀, sys, hspawn, hrun, hs⟩ := exists_run_of_execute (twoClients_append_fresh (by decide)) hexec
  obtain ⟨next, hwake⟩ := Option.isSome_iff_exists.mp hs
  have hphase : sys.phase = .waiting := by
    cases step_move hwake with
    | wake hphase => exact hphase
    | serve _ _ _ _ _ _ _ hserves =>
        generalize sys.phase = stand at hserves
        cases hserves
  obtain ⟨sys₁, hspawn₁, hall⟩ := stop_is_heard (σ := BufferedSocket) Alloc.firstFree_fresh
  cases hspawn.symm.trans hspawn₁
  have hrequested : StopRequested stopInService := Or.inl (by simp [stopInService])
  exact ⟨sys₀, sys, hspawn, hrun, hphase, ((hall _ sys hrun).1 hphase).mpr hrequested⟩

end System

end SmoltcpSocks
