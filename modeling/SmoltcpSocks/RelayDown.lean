import SmoltcpSocks.RelayFlight

/-! The upstream-to-client direction, `copy_to_vconn`: the bytes enqueued in the socket are always a
prefix of the bytes read from upstream. The invariant follows a chunk through the four places its
bytes can be in: the part already enqueued, the command on the channel, the parked write, and the
reply that has not been received yet. -/

namespace SmoltcpSocks

open TcpSocket

/-- The later record adds only calls that accept no bytes. -/
def Quiet (calls calls' : List SocketCall) : Prop :=
  ∃ extra, calls' = calls ++ extra ∧ ∀ call ∈ extra, call.sent = []

/-- A half-close was made, and no byte was accepted after it. -/
def ClosedAfterSent (calls : List SocketCall) : Prop :=
  ∃ before after, calls = before ++ .close :: after ∧ ∀ call ∈ after, call.sent = []

theorem Quiet.refl (calls : List SocketCall) : Quiet calls calls := ⟨[], by simp, by simp⟩

theorem Quiet.append {call : SocketCall} (calls : List SocketCall) (h : call.sent = []) :
    Quiet calls (calls ++ [call]) :=
  ⟨[call], rfl, by simpa using h⟩

theorem Quiet.sent_eq {calls calls' : List SocketCall} (h : Quiet calls calls') :
    calls'.flatMap SocketCall.sent = calls.flatMap SocketCall.sent := by
  obtain ⟨extra, rfl, hextra⟩ := h
  simpa using hextra

theorem ClosedAfterSent.quiet {calls calls' : List SocketCall} (h : ClosedAfterSent calls)
    (hquiet : Quiet calls calls') : ClosedAfterSent calls' := by
  obtain ⟨before, after, rfl, hafter⟩ := h
  obtain ⟨extra, rfl, hextra⟩ := hquiet
  refine ⟨before, after ++ extra, by simp, ?_⟩
  intro call hcall
  rcases List.mem_append.mp hcall with hmem | hmem
  · exact hafter call hmem
  · exact hextra call hmem

theorem closedAfterSent_close (calls : List SocketCall) : ClosedAfterSent (calls ++ [.close]) :=
  ⟨calls, [], rfl, by simp⟩

section Calls

variable {σ : Type} [TcpSocket σ]

theorem Traced.quiet_recvSlice (s : Traced σ) (n : Nat) : Quiet s.calls (recvSlice s n).2.calls := by
  rcases h : recvSlice s.socket n with ⟨e | data, socket⟩
  · simpa [recvSlice, h] using Quiet.refl s.calls
  · simpa [recvSlice, h] using Quiet.append s.calls (show (SocketCall.recv data).sent = [] from rfl)

omit [TcpSocket σ] in
theorem Traced.quiet_poll (s : Traced σ) (socket : σ) : Quiet s.calls (s.poll socket).calls :=
  .append s.calls rfl

theorem Traced.quiet_abort (s : Traced σ) : Quiet s.calls (abort s).calls := .append s.calls rfl

theorem Service.ReadStep.quiet {callers : Callers} {v w : Service (Traced σ)}
    (h : Service.ReadStep callers v w) : Quiet v.socket.calls w.socket.calls := by
  cases h with
  | idle | cancelled | empty | parked => exact .refl _
  | data | finished | aborted => exact Traced.quiet_recvSlice _ _

end Calls

/-- How many bytes of a write have been accepted, by the reply that waits for its caller. -/
def acceptedBytes : List (ReplyId × Except VConnError Nat) → Nat
  | (_, .ok n) :: _ => n
  | _ => 0

namespace Session

variable {σ : Type}

/-- Where the bytes read from upstream are when `copy_to_vconn` stands at a point. -/
def DownAt (s : Session σ) : DownPoint → Prop
  | .read => s.socket.sent = s.received
  | .write buf written => written < buf.length ∧
      ∃ done, s.received = done ++ buf ∧ s.socket.sent = done ++ buf.take written
  | .awaitWrite buf written _ => written < buf.length ∧
      (∀ reply n, (reply, .ok n) ∈ s.answers.write → 0 < n ∧ written + n ≤ buf.length) ∧
      ∃ done, s.received = done ++ buf ∧
        s.socket.sent = done ++ buf.take (written + acceptedBytes s.answers.write)
  | .closeWrite => s.socket.sent = s.received ∧ s.incoming = []
  | .awaitCloseWrite _ => s.socket.sent = s.received ∧ s.incoming = [] ∧
      (s.answers.closeWrite ≠ [] → ClosedAfterSent s.socket.calls)
  | .returned (.ok _) => s.socket.sent = s.received ∧ s.incoming = [] ∧
      (s.running = true → ClosedAfterSent s.socket.calls)
  | .returned (.error e) => s.socket.sent <+: s.received ∧ e ≠ .wroteZero

variable {s t : Session σ} {c : ConnState} {point : DownPoint}

/-- A step that leaves the direction alone and enqueues nothing; an answer to a half-close it adds
comes with the half-close. -/
theorem DownAt.quiet (h : s.DownAt point) (hreceived : t.received = s.received)
    (hincoming : t.incoming = s.incoming) (hrunning : t.running = true → s.running = true)
    (hwrite : t.answers.write = s.answers.write)
    (hcloseWrite : t.answers.closeWrite = s.answers.closeWrite ∨ ClosedAfterSent t.socket.calls)
    (hquiet : Quiet s.socket.calls t.socket.calls) : t.DownAt point := by
  have hsent : t.socket.sent = s.socket.sent := hquiet.sent_eq
  rcases point with _ | _ | _ | _ | _ | (e | _) <;>
    simp only [DownAt, hreceived, hincoming, hwrite, hsent] at h ⊢
  · exact h
  · exact h
  · exact h
  · exact h
  · refine ⟨h.1, h.2.1, fun hne => ?_⟩
    rcases hcloseWrite with heq | hclosed
    · exact (h.2.2 (heq ▸ hne)).quiet hquiet
    · exact hclosed
  · exact h
  · exact ⟨h.1, h.2.1, fun hrun => (h.2.2 (hrunning hrun)).quiet hquiet⟩

theorem DownAt.sent_prefix (h : s.DownAt point) : s.socket.sent <+: s.received := by
  rcases point with _ | ⟨buf, written⟩ | ⟨buf, written, _⟩ | _ | _ | (e | _)
  · exact h ▸ List.prefix_rfl
  · obtain ⟨_, done, hreceived, hsent⟩ := h
    rw [hreceived, hsent, List.prefix_append_right_inj]
    exact List.take_prefix written buf
  · obtain ⟨_, _, done, hreceived, hsent⟩ := h
    rw [hreceived, hsent, List.prefix_append_right_inj]
    exact List.take_prefix _ buf
  · exact h.1 ▸ List.prefix_rfl
  · exact h.1 ▸ List.prefix_rfl
  · exact h.1
  · exact h.1 ▸ List.prefix_rfl

/-- The direction's data together with the discipline of its requests; `upstream` is the whole stream
upstream sends. -/
structure Down (upstream : List UInt8) (s : Session σ) : Prop where
  flight : Flight s
  account : s.received ++ s.incoming = upstream
  data : s.DownAt s.down

variable {upstream : List UInt8}

/-- A parked write is the one `copy_to_vconn` awaits: the unwritten tail of its chunk. -/
theorem Flight.parkedWrite {write : PendingWrite} (h : Flight s) (hconn : s.conn = some c)
    (hwrite : c.write = some write) :
    ∃ buf written, s.down = .awaitWrite buf written write.reply ∧ write.data = buf.drop written ∧
      s.answers.write = [] := by
  have hout := h.writes.of_some hconn
  rw [Service.writes_eq_cons hwrite] at hout
  obtain ⟨reply, hawaited, _, hanswers⟩ := hout.awaited_of_held
  rcases hdown : s.down with _ | _ | ⟨buf, written, reply'⟩ | _ | _ | _ <;>
    simp only [hdown, DownPoint.awaitedWrite, Option.some.injEq, Prod.mk.injEq, reduceCtorEq] at hawaited
  obtain ⟨⟨hdata, hreply⟩, _⟩ := hawaited
  exact ⟨buf, written, by rw [hreply], hdata.symm, hanswers⟩

variable [TcpSocket σ] [LawfulTcpSocket σ]

theorem Down.installRead {w : Service (Traced σ)} (h : Down upstream s) (hconn : s.conn = some c)
    (hstep : Service.ReadStep s.callers ⟨c, s.socket, s.answers⟩ w) : Down upstream (s.install w) where
  flight := h.flight.installRead hconn hstep
  account := h.account
  data := h.data.quiet rfl rfl id hstep.frame.answersWrite (Or.inl hstep.frame.answersCloseWrite)
    hstep.quiet

theorem Down.installWrite {w : Service (Traced σ)} (h : Down upstream s) (hconn : s.conn = some c)
    (hstep : Service.WriteStep s.callers ⟨c, s.socket, s.answers⟩ w) :
    Down upstream (s.install w) := by
  refine ⟨h.flight.installWrite hconn hstep, h.account, ?_⟩
  have hdata := h.data
  cases hstep with
  | idle => exact hdata
  | parked => exact hdata
  | cancelled write hwrite hclosed =>
      obtain ⟨buf, written, hdown, _, _⟩ := h.flight.parkedWrite hconn hwrite
      simp [callers, hdown] at hclosed
  | empty write hwrite hopen hempty =>
      obtain ⟨buf, written, hdown, htail, _⟩ := h.flight.parkedWrite hconn hwrite
      rw [hdown] at hdata
      rw [htail, List.drop_eq_nil_iff] at hempty
      exact absurd hdata.1 (by omega)
  | sent write hwrite hopen hne hmay hroom =>
      -- the accepted prefix of the tail is what the chunk has advanced by
      obtain ⟨buf, written, hdown, htail, hanswers⟩ := h.flight.parkedWrite hconn hwrite
      rw [hdown] at hdata
      obtain ⟨hlt, _, done, hreceived, hsent⟩ := hdata
      change (s.install _).DownAt s.down
      rw [hdown]
      set n := min write.data.length (txCapacity s.socket - (txBuffer s.socket).length) with hn
      have hlen : write.data.length = buf.length - written := by rw [htail, List.length_drop]
      have hnle : n ≤ buf.length - written := by rw [hn, hlen]; exact Nat.min_le_left _ _
      have hpos : 0 < n := by
        simp only at hroom
        omega
      refine ⟨hlt, ?_, done, hreceived, ?_⟩
      · intro reply m hm
        simp only [install, Service.answerWrite, Service.setSocket, Service.setWrite, hanswers,
          List.nil_append, List.mem_singleton, Prod.mk.injEq, Except.ok.injEq] at hm
        obtain ⟨_, rfl⟩ := hm
        omega
      · change (sendSlice s.socket write.data).2.sent =
          done ++ buf.take (written + acceptedBytes (s.answers.write ++ [(write.reply, .ok n)]))
        rw [Traced.sent_sendSlice s.socket write.data hmay, ← hn, hsent, hanswers, htail]
        simp only [acceptedBytes, List.nil_append, Nat.add_zero, List.append_assoc, List.take_add]
  | closed write hwrite hopen hne hmay =>
      obtain ⟨buf, written, hdown, htail, hanswers⟩ := h.flight.parkedWrite hconn hwrite
      rw [hdown] at hdata
      obtain ⟨hlt, _, done, hreceived, hsent⟩ := hdata
      change (s.install _).DownAt s.down
      rw [hdown]
      refine ⟨hlt, ?_, done, hreceived, ?_⟩
      · intro reply m hm
        simp [install, Service.answerWrite, Service.setSocket, Service.setWrite, hanswers] at hm
      · change ((sendSlice s.socket write.data).2.calls).flatMap SocketCall.sent =
          done ++ buf.take (written + acceptedBytes (s.answers.write ++ [(write.reply, .error .closed)]))
        rw [Traced.calls_sendSlice_of_not_maySend s.socket write.data hmay, hanswers]
        rw [hanswers] at hsent
        exact hsent

omit [LawfulTcpSocket σ] in
theorem Down.installCmd {cmd : ConnCmd} {rest : List ConnCmd} (h : Down upstream s)
    (hconn : s.conn = some c) (hqueue : c.cmdRx.queue = cmd :: rest) :
    Down upstream
      (s.install (Service.handleCmd (Service.setQueue ⟨c, s.socket, s.answers⟩ rest) cmd)) := by
  refine ⟨h.flight.installCmd hconn hqueue, h.account, ?_⟩
  obtain ⟨_, hanswers⟩ := Service.handleCmd_writes (v := ⟨c, s.socket, s.answers⟩) hqueue
    (h.flight.writes.of_some hconn)
  rcases Service.handleCmd_cases (Service.setQueue ⟨c, s.socket, s.answers⟩ rest) cmd with
    ⟨reply, rfl⟩ | ⟨reply, rfl⟩ | ⟨hsocket, hcloseWrite, _⟩
  · exact h.data.quiet rfl rfl id hanswers (Or.inr (closedAfterSent_close s.socket.calls))
      (.append s.socket.calls rfl)
  · exact h.data.quiet rfl rfl id hanswers (Or.inl rfl) (Traced.quiet_abort s.socket)
  · refine h.data.quiet rfl rfl id hanswers (Or.inl hcloseWrite) ?_
    rw [show (s.install _).socket = s.socket from hsocket]
    exact .refl s.socket.calls

theorem keptByService_down : KeptByService (Down (σ := σ) upstream) where
  read h hconn hstep := h.installRead hconn hstep
  write h hconn hstep := h.installWrite hconn hstep
  cmd h hconn hqueue := h.installCmd hconn hqueue
  serving b h hb := ⟨h.flight.setServing b hb, h.account, h.data⟩

omit [TcpSocket σ] [LawfulTcpSocket σ] in
/-- The reply to a write moves the chunk on by what it accepted. -/
theorem Down.writeRecv {buf : List UInt8} {written : Nat} {reply : ReplyId}
    {result : Except VConnError Nat} {rest : List (ReplyId × Except VConnError Nat)}
    (h : Down upstream s) (hdown : s.down = .awaitWrite buf written reply)
    (hawait : Oneshot.await s.answers.write (s.writes.map Prod.snd) (.error .actorGone) reply =
      some (result, rest)) :
    DownAt { s with
      down := .afterWrite buf written result
      answers := { s.answers with write := rest } } (.afterWrite buf written result) := by
  have hdata := h.data
  have hwrites := h.flight.writes
  rw [hdown] at hdata hwrites
  have hpre := hdata.sent_prefix
  obtain ⟨hlt, hbound, done, hreceived, hsent⟩ := hdata
  obtain ⟨_, _, hresult⟩ := hwrites.await_cases (fun hheld => by simp [hheld]) hawait
  rcases hresult with hanswers | ⟨_, _, rfl⟩
  swap
  · exact ⟨hpre, by simp [RelayError.wroteZero]⟩
  rcases result with e | n
  · exact ⟨hpre, by simp [RelayError.wroteZero]⟩
  obtain ⟨hpos, hle⟩ := hbound reply n (by simp [hanswers])
  obtain ⟨m, rfl⟩ := Nat.exists_eq_succ_of_ne_zero (Nat.ne_of_gt hpos)
  rw [hanswers] at hsent
  simp only [DownPoint.afterWrite]
  split
  · rename_i hmore
    exact ⟨hmore, done, hreceived, hsent⟩
  · rename_i hall
    have hfull : buf.take (written + (m + 1)) = buf := List.take_of_length_le (by omega)
    change s.socket.sent = s.received
    rw [hsent, hreceived, acceptedBytes, hfull]

omit [TcpSocket σ] [LawfulTcpSocket σ] in
/-- The reply to the half-close says that it was made, unless the actor is gone. -/
theorem Down.closeWriteRecv {reply : ReplyId} {result : Except VConnError Unit}
    {rest : List (ReplyId × Except VConnError Unit)} (h : Down upstream s)
    (hdown : s.down = .awaitCloseWrite reply)
    (hawait : Oneshot.await s.answers.closeWrite s.closeWrites (.error .actorGone) reply =
      some (result, rest)) (hrun : s.running = true) : ClosedAfterSent s.socket.calls := by
  have hdata := h.data
  have hcloseWrites := h.flight.closeWrites
  have hconn := h.flight.conn_of_down hdown nofun rfl hrun
  rw [hdown] at hdata hcloseWrites
  obtain ⟨_, _, hresult⟩ := hcloseWrites.await_cases (fun hheld => by simp [hheld]) hawait
  rcases hresult with hanswers | ⟨_, hgone, _⟩
  · exact hdata.2.2 (by simp [hanswers])
  · exact absurd hgone hconn

variable {a : SessionAction σ}

/-- Every step keeps the bytes in order. -/
theorem Down.step (h : Down upstream s) (hstep : s.step a = some t) : Down upstream t := by
  have hflight := h.flight.step hstep
  have hdata := h.data
  cases step_move hstep with
  | poll socket arrived rest =>
      exact ⟨hflight, h.account, hdata.quiet rfl rfl id rfl (Or.inl rfl) (Traced.quiet_poll _ _)⟩
  | serviceBegin _ hbegin => exact keptByService_down.serviceBegin h hbegin
  | serviceNext _ hnext => exact keptByService_down.serviceNext h hnext
  | serviceEnd c hconn => exact ⟨hflight, h.account, hdata⟩
  | serviceDrop c hconn hserving hqueue hclosed =>
      rw [h.flight.failPending_of_closed hconn hclosed] at hflight ⊢
      exact ⟨hflight, h.account, hdata.quiet rfl rfl id rfl (Or.inl rfl) (Traced.quiet_abort _)⟩
  | stop => exact ⟨hflight, h.account, hdata.quiet rfl rfl nofun rfl (Or.inl rfl) (.refl _)⟩
  | connect | connectFail | readSend | readGone | writeSome | writeFail | flush | join | closeSend
  | closeGone => exact ⟨hflight, h.account, hdata⟩
  | readRecv | closeRecv =>
      exact ⟨hflight, h.account, hdata.quiet rfl rfl id rfl (Or.inl rfl) (.refl _)⟩
  | srcRead n chunk rest hpipe hdown hincoming hlen hpos =>
      rw [hdown] at hdata
      refine ⟨hflight, ?_, by omega, s.received, rfl, ?_⟩
      · change (s.received ++ chunk) ++ rest = upstream
        rw [← h.account, hincoming, List.append_assoc]
      · change s.socket.sent = s.received ++ chunk.take 0
        simpa using (show s.socket.sent = s.received from hdata)
  | srcEof hpipe hdown hincoming =>
      rw [hdown] at hdata
      exact ⟨hflight, h.account, hdata, hincoming⟩
  | srcFail e hpipe hdown => exact ⟨hflight, h.account, hdata.sent_prefix, by simp [RelayError.wroteZero]⟩
  | writeSend c buf written hdown hconn =>
      have hwrites := h.flight.writes
      rw [hdown] at hdata hwrites
      obtain ⟨hlt, done, hreceived, hsent⟩ := hdata
      refine ⟨hflight, h.account, hlt, ?_, done, hreceived, ?_⟩
      · intro reply n hn
        rw [show ({ s.pushed c _ with down := _ } : Session σ).answers.write = [] from hwrites.2] at hn
        cases hn
      · change s.socket.sent = done ++ buf.take (written + acceptedBytes s.answers.write)
        rw [hwrites.2]
        exact hsent
  | writeGone buf written hdown hconn =>
      exact ⟨hflight, h.account, hdata.sent_prefix, by simp [RelayError.wroteZero]⟩
  | writeRecv buf written reply result rest hdown hawait =>
      exact ⟨hflight, h.account, h.writeRecv hdown hawait⟩
  | closeWriteSend c hdown hconn =>
      have hcloseWrites := h.flight.closeWrites
      rw [hdown] at hdata hcloseWrites
      exact ⟨hflight, h.account, hdata.1, hdata.2, fun hne => absurd hcloseWrites.2 hne⟩
  | closeWriteGone hdown hconn =>
      have hentry := h.flight.conn_of_down hdown nofun rfl
      rw [hdown] at hdata
      exact ⟨hflight, h.account, hdata.1, hdata.2, fun hrun => absurd hconn (hentry hrun)⟩
  | closeWriteRecv reply result rest hdown hawait =>
      have hclosed := h.closeWriteRecv hdown hawait
      rw [hdown] at hdata
      exact ⟨hflight, h.account, hdata.1, hdata.2.1, hclosed⟩

omit [TcpSocket σ] [LawfulTcpSocket σ] in
theorem Down.accepted (vconn : VConn) (socket : σ) (client upstream : List UInt8) :
    Down upstream (Session.accepted vconn socket client upstream) :=
  ⟨.accepted vconn socket client upstream, rfl, rfl⟩

/-- The bytes enqueued in the socket are at every moment a prefix of the bytes read from upstream.
When `copy_to_vconn` has returned `Ok` they are the whole upstream stream and the half-close was made
behind the last of them, and a write never returns 0. -/
theorem sent_prefix_of_received {vconn : VConn} {socket : σ} {client upstream : List UInt8}
    {trace : List (SessionAction σ)}
    (hrun : Transition.Run Session.step (fun _ _ => True)
      (Session.accepted vconn socket client upstream) trace s) :
    s.socket.sent <+: s.received ∧ s.received ++ s.incoming = upstream ∧
      (s.down = .returned (.ok ()) → s.socket.sent = upstream ∧
        (s.running = true → ClosedAfterSent s.socket.calls)) ∧
      s.down ≠ .returned (.error .wroteZero) := by
  have hdown : Down upstream s :=
    hrun.invariant (fun _ _ _ h _ hstep => h.step hstep) (.accepted vconn socket client upstream)
  have hdata := hdown.data
  refine ⟨hdata.sent_prefix, hdown.account, ?_, ?_⟩
  · intro hok
    rw [hok] at hdata
    obtain ⟨hsent, hincoming, hclosed⟩ := hdata
    refine ⟨?_, hclosed⟩
    calc s.socket.sent = s.received := hsent
      _ = s.received ++ s.incoming := by rw [hincoming, List.append_nil]
      _ = upstream := hdown.account
  · intro herror
    rw [herror] at hdata
    exact hdata.2 rfl

/-- A chunk of two bytes through a transmit buffer of one: the first write is partial, the retry of
the tail is parked until the client has acknowledged. -/
theorem sent_prefix_of_received_partial_write :
    ∃ trace s, Transition.Run Session.step (fun _ _ => True) (established 1 [] [1, 2]) trace s ∧
      s.down = .returned (.ok ()) ∧ s.socket.sent = [1, 2] ∧ ClosedAfterSent s.socket.calls := by
  let acked : BufferedSocket := { (established 1 [] [1, 2]).socket.socket with txBuffer := [] }
  let trace : List (SessionAction BufferedSocket) :=
    [.connect (.ok ()), .srcRead 2, .writeSend, .serviceBegin, .serviceNext, .serviceEnd, .writeRecv,
      .writeSend, .serviceBegin, .serviceNext, .serviceEnd, .poll acked [], .serviceBegin, .serviceEnd,
      .writeRecv, .srcEof, .closeWriteSend, .serviceBegin, .serviceNext, .serviceEnd, .closeWriteRecv]
  have hexec : (Transition.execute step (fun _ _ => True) (established 1 [] [1, 2]) trace).any
      (fun s => decide (s.down = .returned (.ok ()) ∧ s.running = true)) = true := by decide +kernel
  obtain ⟨s, hrun, hs⟩ := Transition.Run.exists_of_execute hexec
  obtain ⟨hdown, hrunning⟩ := of_decide_eq_true hs
  obtain ⟨_, _, hok, _⟩ := sent_prefix_of_received hrun
  exact ⟨trace, s, hrun, hdown, (hok hdown).1, (hok hdown).2 hrunning⟩

end Session

end SmoltcpSocks
