import SmoltcpSocks.RelayDown

/-! How the end of upstream reaches the client: when `copy_to_vconn` has returned, the send half of
the client's socket should be closed. A failed write and the half-close after end of stream both come
with a closed send half; an upstream read error returns through `?` past the half-close. -/

namespace SmoltcpSocks

open TcpSocket

namespace Session

variable {σ : Type} [TcpSocket σ]

/-- Once `copy_to_vconn` has returned under a running actor, the client's socket sends no more. -/
def EndReachesClient (s : Session σ) : Prop :=
  s.running = true → s.down.hasReturned = true → maySend s.socket = false

/-- A poll does not open a send half that is closed. -/
def StaysClosed (s : Session σ) : SessionAction σ → Prop
  | .poll socket _ => maySend s.socket = false → maySend socket = false
  | _ => True

/-- An upstream read fails only when the send half is closed already, or the actor has stopped. -/
def FailsClosed (s : Session σ) : SessionAction σ → Prop
  | .srcFail _ => s.running = true → maySend s.socket = false
  | _ => True

instance (s : Session σ) : (a : SessionAction σ) → Decidable (s.StaysClosed a)
  | .poll _ _ => inferInstanceAs (Decidable (_ → _))
  | .serviceBegin | .serviceNext | .serviceEnd | .stop | .connect _ | .readSend | .readRecv
  | .writeSome _ | .writeFail _ | .flush | .srcRead _ | .srcEof | .srcFail _ | .writeSend | .writeRecv
  | .closeWriteSend | .closeWriteRecv | .join | .closeSend | .closeRecv => inferInstanceAs (Decidable True)

instance (s : Session σ) : (a : SessionAction σ) → Decidable (s.FailsClosed a)
  | .srcFail _ => inferInstanceAs (Decidable (_ → _))
  | .poll _ _ | .serviceBegin | .serviceNext | .serviceEnd | .stop | .connect _ | .readSend | .readRecv
  | .writeSome _ | .writeFail _ | .flush | .srcRead _ | .srcEof | .writeSend | .writeRecv
  | .closeWriteSend | .closeWriteRecv | .join | .closeSend | .closeRecv => inferInstanceAs (Decidable True)

instance (s : Session σ) : Decidable s.EndReachesClient :=
  inferInstanceAs (Decidable (_ → _ → _))

/-- What `copy_to_vconn` knows of the send half at each of its points. -/
def SendHalfAt (s : Session σ) : DownPoint → Prop
  | .awaitWrite _ _ _ => ∀ reply e, (reply, .error e) ∈ s.answers.write → maySend s.socket = false
  | .awaitCloseWrite _ => s.answers.closeWrite ≠ [] → maySend s.socket = false
  | .returned _ => maySend s.socket = false
  | _ => True

/-- The direction's data together with the state of the send half. -/
structure SendHalf (upstream : List UInt8) (s : Session σ) : Prop where
  down : Down upstream s
  closed : s.running = true → s.SendHalfAt s.down

variable {s t : Session σ} {c : ConnState} {point : DownPoint} {upstream : List UInt8}

/-- A step that keeps a closed send half closed and answers a failure or a half-close only with one. -/
theorem SendHalfAt.frame (h : s.SendHalfAt point)
    (hsocket : maySend s.socket = false → maySend t.socket = false)
    (hwrite : t.answers.write = s.answers.write ∨
      (∃ reply n, t.answers.write = s.answers.write ++ [(reply, .ok n)]) ∨
      maySend t.socket = false)
    (hcloseWrite : t.answers.closeWrite = s.answers.closeWrite ∨ maySend t.socket = false) :
    t.SendHalfAt point := by
  cases point with
  | read | write | closeWrite => trivial
  | awaitWrite buf written awaited =>
      intro reply e hmem
      rcases hwrite with heq | ⟨reply', n, heq⟩ | hclosed
      · exact hsocket (h reply e (heq ▸ hmem))
      · rw [heq] at hmem
        exact hsocket (h reply e (by simpa using hmem))
      · exact hclosed
  | awaitCloseWrite awaited =>
      intro hne
      rcases hcloseWrite with heq | hclosed
      · exact hsocket (h (heq ▸ hne))
      · exact hclosed
  | returned result => exact hsocket h

variable [LawfulTcpSocket σ]

theorem SendHalf.installRead {w : Service (Traced σ)} (h : SendHalf upstream s)
    (hconn : s.conn = some c) (hstep : Service.ReadStep s.callers ⟨c, s.socket, s.answers⟩ w) :
    SendHalf upstream (s.install w) where
  down := h.down.installRead hconn hstep
  closed hrun := (h.closed hrun).frame (fun hmay => (maySend_congr hstep.frame.state).trans hmay)
    (Or.inl hstep.frame.answersWrite) (Or.inl hstep.frame.answersCloseWrite)

theorem SendHalf.installWrite {w : Service (Traced σ)} (h : SendHalf upstream s)
    (hconn : s.conn = some c) (hstep : Service.WriteStep s.callers ⟨c, s.socket, s.answers⟩ w) :
    SendHalf upstream (s.install w) where
  down := h.down.installWrite hconn hstep
  closed hrun := by
    have hmay : maySend w.socket = maySend s.socket := maySend_congr hstep.frame.state
    refine (h.closed hrun).frame hmay.trans ?_ (Or.inl hstep.frame.answersCloseWrite)
    cases hstep with
    | idle | cancelled | parked => exact Or.inl rfl
    | empty | sent => exact Or.inr (Or.inl ⟨_, _, rfl⟩)
    | closed write hwrite hopen hne hclosed => exact Or.inr (Or.inr (hmay.trans hclosed))

/-- A half-close and a close both close the send half when they are handled. -/
theorem SendHalf.installCmd {cmd : ConnCmd} {rest : List ConnCmd} (h : SendHalf upstream s)
    (hconn : s.conn = some c) (hqueue : c.cmdRx.queue = cmd :: rest) :
    SendHalf upstream
      (s.install (Service.handleCmd (Service.setQueue ⟨c, s.socket, s.answers⟩ rest) cmd)) where
  down := h.down.installCmd hconn hqueue
  closed hrun := by
    obtain ⟨_, hanswers⟩ := Service.handleCmd_writes (v := ⟨c, s.socket, s.answers⟩) hqueue
      (h.down.flight.writes.of_some hconn)
    rcases Service.handleCmd_cases (Service.setQueue ⟨c, s.socket, s.answers⟩ rest) cmd with
      ⟨reply, rfl⟩ | ⟨reply, rfl⟩ | ⟨hsocket, hcloseWrite, _⟩
    · have hclosed : maySend (close s.socket) = false := maySend_close s.socket
      exact (h.closed hrun).frame (fun _ => hclosed) (Or.inl hanswers) (Or.inr hclosed)
    · have hclosed : maySend (abort s.socket) = false := maySend_abort s.socket
      exact (h.closed hrun).frame (fun _ => hclosed) (Or.inl hanswers) (Or.inr hclosed)
    · refine (h.closed hrun).frame ?_ (Or.inl hanswers) (Or.inl hcloseWrite)
      exact (congrArg maySend hsocket).trans

theorem keptByService_sendHalf : KeptByService (SendHalf (σ := σ) upstream) where
  read h hconn hstep := h.installRead hconn hstep
  write h hconn hstep := h.installWrite hconn hstep
  cmd h hconn hqueue := h.installCmd hconn hqueue
  serving b h hb := ⟨keptByService_down.serving b h.down hb, h.closed⟩

omit [LawfulTcpSocket σ] in
/-- A write fails under a running actor only with a closed send half. -/
theorem SendHalf.writeRecv {buf : List UInt8} {written : Nat} {reply : ReplyId}
    {result : Except VConnError Nat} {rest : List (ReplyId × Except VConnError Nat)}
    (h : SendHalf upstream s) (hdown : s.down = .awaitWrite buf written reply)
    (hawait : Oneshot.await s.answers.write (s.writes.map Prod.snd) (.error .actorGone) reply =
      some (result, rest)) (hrun : s.running = true) :
    SendHalfAt { s with
      down := .afterWrite buf written result
      answers := { s.answers with write := rest } } (.afterWrite buf written result) := by
  have hclosed := h.closed hrun
  have hdata := h.down.data
  have hwrites := h.down.flight.writes
  have hconn := h.down.flight.conn_of_down hdown nofun rfl hrun
  rw [hdown] at hclosed hdata hwrites
  obtain ⟨_, _, hresult⟩ := hwrites.await_cases (fun hheld => by simp [hheld]) hawait
  rcases hresult with hanswers | ⟨_, hgone, _⟩
  · rcases result with e | n
    · exact hclosed reply e (by simp [hanswers])
    · -- a running actor never accepts an empty part of a chunk
      obtain ⟨hpos, _⟩ := hdata.2.1 reply n (by simp [hanswers])
      obtain ⟨m, rfl⟩ := Nat.exists_eq_succ_of_ne_zero (Nat.ne_of_gt hpos)
      simp only [DownPoint.afterWrite]
      split <;> trivial
  · exact absurd hgone hconn

variable {a : SessionAction σ}

/-- Every step but a read failure on an open socket keeps what is known of the send half. -/
theorem SendHalf.step (h : SendHalf upstream s) (hstays : s.StaysClosed a) (hfails : s.FailsClosed a)
    (hstep : s.step a = some t) : SendHalf upstream t := by
  have hnext := h.down.step hstep
  have hclosed := h.closed
  cases step_move hstep with
  | poll socket arrived rest =>
      exact ⟨hnext, fun hrun => (hclosed hrun).frame hstays (Or.inl rfl) (Or.inl rfl)⟩
  | serviceBegin _ hbegin => exact keptByService_sendHalf.serviceBegin h hbegin
  | serviceNext _ hservice => exact keptByService_sendHalf.serviceNext h hservice
  | serviceEnd c hconn => exact ⟨hnext, hclosed⟩
  | serviceDrop c hconn hserving hqueue hempty =>
      rw [h.down.flight.failPending_of_closed hconn hempty] at hnext ⊢
      have habort : maySend (abort s.socket) = false := maySend_abort s.socket
      exact ⟨hnext, fun hrun => (hclosed hrun).frame (fun _ => habort) (Or.inl rfl) (Or.inl rfl)⟩
  | stop => exact ⟨hnext, nofun⟩
  | connect | connectFail | readSend | readGone | writeSome | writeFail | flush | join | closeSend
  | closeGone => exact ⟨hnext, hclosed⟩
  | readRecv | closeRecv =>
      exact ⟨hnext, fun hrun => (hclosed hrun).frame id (Or.inl rfl) (Or.inl rfl)⟩
  | srcRead | srcEof => exact ⟨hnext, fun _ => trivial⟩
  | srcFail e hpipe hdown => exact ⟨hnext, hfails⟩
  | writeSend c buf written hdown hconn =>
      have hwrites := h.down.flight.writes
      rw [hdown] at hwrites
      refine ⟨hnext, fun _ reply e hmem => ?_⟩
      rw [show ({ s.pushed c _ with down := _ } : Session σ).answers.write = [] from hwrites.2] at hmem
      cases hmem
  | writeGone buf written hdown hconn =>
      exact ⟨hnext, fun hrun => absurd hconn (h.down.flight.conn_of_down hdown nofun rfl hrun)⟩
  | writeRecv buf written reply result rest hdown hawait =>
      exact ⟨hnext, fun hrun => h.writeRecv hdown hawait hrun⟩
  | closeWriteSend c hdown hconn =>
      have hcloseWrites := h.down.flight.closeWrites
      rw [hdown] at hcloseWrites
      exact ⟨hnext, fun _ hne => absurd hcloseWrites.2 hne⟩
  | closeWriteGone hdown hconn =>
      exact ⟨hnext, fun hrun => absurd hconn (h.down.flight.conn_of_down hdown nofun rfl hrun)⟩
  | closeWriteRecv reply result rest hdown hawait =>
      refine ⟨hnext, fun hrun => ?_⟩
      have hat := hclosed hrun
      have hcloseWrites := h.down.flight.closeWrites
      rw [hdown] at hat hcloseWrites
      obtain ⟨_, _, hresult⟩ := hcloseWrites.await_cases (fun hheld => by simp [hheld]) hawait
      rcases hresult with hanswers | ⟨_, hnone, _⟩
      · exact hat (by simp [hanswers])
      · exact absurd hnone (h.down.flight.conn_of_down hdown nofun rfl hrun)

omit [LawfulTcpSocket σ] in
theorem SendHalf.endReachesClient (h : SendHalf upstream s) : s.EndReachesClient := by
  intro hrun hret
  have hclosed := h.closed hrun
  rcases hdown : s.down with _ | _ | _ | _ | _ | result <;> rw [hdown] at hret hclosed <;>
    first | exact hclosed | cases hret

/-- In every run without a read failure on an open socket the end of upstream reaches the client, and
the next step keeps it so exactly when it is no such failure. -/
theorem endReachesClient_iff_failsClosed {vconn : VConn} {socket : σ} {client upstream : List UInt8}
    {trace : List (SessionAction σ)}
    (hrun : Transition.Run Session.step (fun s a => s.StaysClosed a ∧ s.FailsClosed a)
      (Session.accepted vconn socket client upstream) trace s) :
    s.EndReachesClient ∧ ∀ a t, s.StaysClosed a → s.step a = some t →
      (t.EndReachesClient ↔ s.FailsClosed a) := by
  have hsend : SendHalf upstream s :=
    hrun.invariant (fun _ _ _ h hallowed hstep => h.step hallowed.1 hallowed.2 hstep)
      ⟨.accepted vconn socket client upstream, fun _ => trivial⟩
  refine ⟨hsend.endReachesClient, fun a t hstays hstep => ⟨?_, ?_⟩⟩
  · intro ht
    cases step_move hstep with
    | srcFail e hpipe hdown => exact fun hrunning => ht hrunning rfl
    | _ => trivial
  · exact fun hfails => (hsend.step hstays hfails hstep).endReachesClient

/-- Upstream ends after one byte and the client gets the half-close behind it. -/
theorem endReachesClient_after_eof :
    ∃ trace s, Transition.Run Session.step (fun s a => s.StaysClosed a ∧ s.FailsClosed a)
      (established 4 [] [7]) trace s ∧ s.running = true ∧ s.down = .returned (.ok ()) ∧
      maySend s.socket = false := by
  let trace : List (SessionAction BufferedSocket) :=
    [.connect (.ok ()), .srcRead 1, .writeSend, .serviceBegin, .serviceNext, .serviceEnd, .writeRecv,
      .srcEof, .closeWriteSend, .serviceBegin, .serviceNext, .serviceEnd, .closeWriteRecv]
  have hexec : (Transition.execute step (fun s a => s.StaysClosed a ∧ s.FailsClosed a)
      (established 4 [] [7]) trace).any
      (fun s => decide (s.running = true ∧ s.down = .returned (.ok ()))) = true := by decide +kernel
  obtain ⟨s, hrun, hs⟩ := Transition.Run.exists_of_execute hexec
  obtain ⟨hrunning, hdown⟩ := of_decide_eq_true hs
  have hclosed := (endReachesClient_iff_failsClosed hrun).1 hrunning (by rw [hdown]; rfl)
  exact ⟨trace, s, hrun, hrunning, hdown, hclosed⟩

/-- After one relayed byte the upstream read fails: `copy_to_vconn` returns, a whole service round
goes by, and the client's socket still sends. -/
theorem not_endReachesClient_after_read_error :
    ∃ trace s, Transition.Run Session.step StaysClosed (established 4 [] [7]) trace s ∧
      s.running = true ∧ s.down = .returned (.error (.io ⟨.other, "connection reset by peer"⟩)) ∧
      s.writes = [] ∧ s.closeWrites = [] ∧ ¬ s.EndReachesClient := by
  let trace : List (SessionAction BufferedSocket) :=
    [.connect (.ok ()), .srcRead 1, .writeSend, .serviceBegin, .serviceNext, .serviceEnd, .writeRecv,
      .srcFail ⟨.other, "connection reset by peer"⟩, .serviceBegin, .serviceEnd]
  have hexec : (Transition.execute step StaysClosed (established 4 [] [7]) trace).any
      (fun s => decide (s.running = true ∧
        s.down = .returned (.error (.io ⟨.other, "connection reset by peer"⟩)) ∧
        s.writes = [] ∧ s.closeWrites = [] ∧ ¬ s.EndReachesClient)) = true := by decide +kernel
  obtain ⟨s, hrun, hs⟩ := Transition.Run.exists_of_execute hexec
  exact ⟨trace, s, hrun, of_decide_eq_true hs⟩

end Session

end SmoltcpSocks
