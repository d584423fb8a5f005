import SmoltcpSocks.RelayFlight

/-! The client-to-upstream direction, `copy_vconn_to`: the bytes given to the upstream writer are
always a prefix of the client's stream, and an empty read is the end of that stream. The client's
stream is cut into what was given, what a reply or `write_all` still holds, the receive buffer and
what has not arrived. -/

namespace SmoltcpSocks

open TcpSocket

/-- The data of a read reply that waits for its caller. -/
def repliedBytes : List (ReplyId × Except VConnError (List UInt8)) → List UInt8
  | (_, .ok data) :: _ => data
  | _ => []

namespace Session

variable {σ : Type} [TcpSocket σ]

/-- A poll puts the arrived bytes behind those in the receive buffer and forgets no FIN. -/
def ArrivesInOrder (s : Session σ) : SessionAction σ → Prop
  | .poll socket arrived => rxBuffer socket = rxBuffer s.socket ++ arrived ∧
      (rxFinReceived s.socket = true → rxFinReceived socket = true)
  | _ => True

instance (s : Session σ) : (a : SessionAction σ) → Decidable (s.ArrivesInOrder a)
  | .poll _ _ => inferInstanceAs (Decidable (_ ∧ (_ → _)))
  | .serviceBegin | .serviceNext | .serviceEnd | .stop | .connect _ | .readSend | .readRecv
  | .writeSome _ | .writeFail _ | .flush | .srcRead _ | .srcEof | .srcFail _ | .writeSend | .writeRecv
  | .closeWriteSend | .closeWriteRecv | .join | .closeSend | .closeRecv => inferInstanceAs (Decidable True)

/-- What `copy_vconn_to` has not read yet: the receive buffer and what the client still sends. -/
def unread (s : Session σ) : List UInt8 := rxBuffer s.socket ++ s.client

/-- The client's stream is over: its FIN was received and the receive buffer is drained. -/
def Drained (s : Session σ) : Prop := rxFinReceived s.socket = true ∧ rxBuffer s.socket = []

/-- Where the bytes of the client's stream are when `copy_vconn_to` stands at a point. -/
def UpAt (stream : List UInt8) (s : Session σ) : UpPoint → Prop
  | .read => s.given ++ s.unread = stream
  | .awaitRead _ => s.given ++ repliedBytes s.answers.read ++ s.unread = stream ∧
      ∀ reply, (reply, .ok []) ∈ s.answers.read → s.Drained
  | .writeAll rest => s.given ++ rest ++ s.unread = stream
  | .flush => s.given = stream ∧ s.Drained
  | .returned (.ok _) => s.given = stream ∧ s.Drained
  | .returned (.error _) => s.given <+: stream

/-- The direction's data together with the discipline of its requests; nothing comes after the
FIN. -/
structure Up (stream : List UInt8) (s : Session σ) : Prop where
  flight : Flight s
  fin : rxFinReceived s.socket = true → s.client = []
  data : s.UpAt stream s.up

variable {s t : Session σ} {c : ConnState} {point : UpPoint} {stream : List UInt8}

/-- A step that gives nothing to the writer and moves nothing out of the client's unread bytes. -/
theorem UpAt.frame (h : s.UpAt stream point) (hgiven : t.given = s.given)
    (hunread : t.unread = s.unread) (hread : t.answers.read = s.answers.read)
    (hdrained : s.Drained → t.Drained) : t.UpAt stream point := by
  rcases point with _ | _ | _ | _ | (e | _) <;>
    simp only [UpAt, hgiven, hunread, hread] at h ⊢
  · exact h
  · exact ⟨h.1, fun reply hmem => hdrained (h.2 reply hmem)⟩
  · exact h
  · exact ⟨h.1, hdrained h.2⟩
  · exact h
  · exact ⟨h.1, hdrained h.2⟩

/-- In every point what was given is a prefix of the client's stream. -/
theorem UpAt.given_prefix (h : s.UpAt stream point) : s.given <+: stream := by
  rcases point with _ | _ | rest | _ | (e | _)
  · exact ⟨_, h⟩
  · exact ⟨_, (List.append_assoc _ _ _).symm.trans h.1⟩
  · exact ⟨_, (List.append_assoc _ _ _).symm.trans h⟩
  · exact h.1 ▸ List.prefix_rfl
  · exact h
  · exact h.1 ▸ List.prefix_rfl

omit [TcpSocket σ] in
theorem Flight.parkedRead {read : PendingRead} (h : Flight s) (hconn : s.conn = some c)
    (hread : c.read = some read) :
    s.up = .awaitRead read.reply ∧ read.maxLen = RELAY_BUF ∧ s.answers.read = [] := by
  have hout := h.reads.of_some hconn
  rw [Service.reads_eq_cons hread] at hout
  obtain ⟨reply, hawaited, _, hanswers⟩ := hout.awaited_of_held
  rcases hup : s.up with _ | reply' | _ | _ | _ <;>
    simp only [hup, UpPoint.awaited, Option.some.injEq, Prod.mk.injEq, reduceCtorEq] at hawaited
  obtain ⟨⟨hlen, hreply⟩, _⟩ := hawaited
  exact ⟨by rw [hreply], hlen.symm, hanswers⟩

variable [LawfulTcpSocket σ]

/-- The actor answers the parked read with the front of the receive buffer, or with its end. -/
theorem Up.answerRead {read : PendingRead} {result : Except VConnError (List UInt8)} (h : Up stream s)
    (hconn : s.conn = some c) (hread : c.read = some read)
    (hcut : repliedBytes [(read.reply, result)] ++ (rxBuffer s.socket).drop read.maxLen =
      rxBuffer s.socket) (hend : result = .ok [] → s.Drained) :
    (s.install (((Service.setRead ⟨c, s.socket, s.answers⟩ none).setSocket
      (recvSlice s.socket (min read.maxLen (recvQueue s.socket))).2).answerRead read.reply result)).UpAt
        stream s.up := by
  obtain ⟨hup, _, hanswers⟩ := h.flight.parkedRead hconn hread
  have hdata := h.data
  rw [hup] at hdata ⊢
  obtain ⟨hstream, _⟩ := hdata
  have hdrop : rxBuffer (recvSlice s.socket (min read.maxLen (recvQueue s.socket))).2 =
      (rxBuffer s.socket).drop read.maxLen := by
    rw [rxBuffer_recvSlice, recvQueue_eq, ← List.drop_eq_drop_min]
  refine ⟨?_, fun reply hmem => ?_⟩
  · change s.given ++ repliedBytes (s.answers.read ++ [(read.reply, result)]) ++
      (rxBuffer (recvSlice s.socket _).2 ++ s.client) = stream
    rw [hdrop, hanswers, List.nil_append, List.append_assoc, ← List.append_assoc (repliedBytes _), hcut]
    rw [hanswers] at hstream
    simpa [repliedBytes, unread] using hstream
  · have hresult : result = .ok [] := by
      simp only [install, Service.answerRead, Service.setSocket, Service.setRead, hanswers,
        List.nil_append, List.mem_singleton, Prod.mk.injEq] at hmem
      exact hmem.2.symm
    obtain ⟨hfin, hrx⟩ := hend hresult
    refine ⟨(rxFinReceived_recvSlice _ _).trans hfin, ?_⟩
    exact hdrop.trans (by rw [hrx, List.drop_nil])

theorem Up.installRead {w : Service (Traced σ)} (h : Up stream s) (hconn : s.conn = some c)
    (hstep : Service.ReadStep s.callers ⟨c, s.socket, s.answers⟩ w) : Up stream (s.install w) := by
  have hdata := h.data
  refine ⟨h.flight.installRead hconn hstep, fun hfin => h.fin (hstep.frame.rxFinReceived ▸ hfin), ?_⟩
  change (s.install w).UpAt stream s.up
  cases hstep with
  | idle => exact hdata
  | parked => exact hdata
  | cancelled read hread hclosed =>
      simp [callers, (h.flight.parkedRead hconn hread).1] at hclosed
  | empty read hread hopen hlen =>
      rw [(h.flight.parkedRead hconn hread).2.1] at hlen
      cases hlen
  | data read hread hopen hpos hne =>
      refine h.answerRead hconn hread (List.take_append_drop _ _) fun hnil => ?_
      have hzero : read.maxLen = 0 ∨ rxBuffer s.socket = [] := by
        simpa [List.take_eq_nil_iff] using hnil
      rcases hzero with hzero | hrx
      · omega
      · exact absurd hrx hne
  | finished read hread hopen hpos hrx hfin =>
      have hrx : rxBuffer s.socket = [] := hrx
      exact h.answerRead hconn hread (by simp [hrx, repliedBytes]) fun _ => ⟨hfin, hrx⟩
  | aborted read hread hopen hpos hrx hfin =>
      have hrx : rxBuffer s.socket = [] := hrx
      refine h.answerRead hconn hread (by simp [hrx, repliedBytes]) fun hok => ?_
      cases hok

omit [LawfulTcpSocket σ] in
theorem Up.installFrame {w : Service (Traced σ)} (h : Up stream s) (hflight : Flight (s.install w))
    (hfin : rxFinReceived w.socket = rxFinReceived s.socket)
    (hrx : rxBuffer w.socket = rxBuffer s.socket) (hread : w.answers.read = s.answers.read) :
    Up stream (s.install w) := by
  refine ⟨hflight, fun hw => h.fin (hfin ▸ hw), ?_⟩
  refine h.data.frame rfl (congrArg (· ++ s.client) hrx) hread ?_
  rintro ⟨hfin', hrx'⟩
  exact ⟨hfin.trans hfin', hrx.trans hrx'⟩

theorem Up.installWrite {w : Service (Traced σ)} (h : Up stream s) (hconn : s.conn = some c)
    (hstep : Service.WriteStep s.callers ⟨c, s.socket, s.answers⟩ w) : Up stream (s.install w) :=
  h.installFrame (h.flight.installWrite hconn hstep) hstep.frame.rxFinReceived hstep.frame.rxBuffer
    hstep.frame.answersRead

/-- No command touches what the client has sent. -/
theorem Up.installCmd {cmd : ConnCmd} {rest : List ConnCmd} (h : Up stream s)
    (hconn : s.conn = some c) (hqueue : c.cmdRx.queue = cmd :: rest) :
    Up stream (s.install (Service.handleCmd (Service.setQueue ⟨c, s.socket, s.answers⟩ rest) cmd)) := by
  have hflight := h.flight.installCmd hconn hqueue
  obtain ⟨_, hread⟩ := Service.handleCmd_reads (v := ⟨c, s.socket, s.answers⟩) hqueue
    (h.flight.reads.of_some hconn)
  rcases Service.handleCmd_cases (Service.setQueue ⟨c, s.socket, s.answers⟩ rest) cmd with
    ⟨reply, rfl⟩ | ⟨reply, rfl⟩ | ⟨hsocket, _⟩
  · exact h.installFrame hflight (rxFinReceived_close s.socket) (rxBuffer_close s.socket) hread
  · exact h.installFrame hflight (rxFinReceived_abort s.socket) (rxBuffer_abort s.socket) hread
  · exact h.installFrame hflight (congrArg rxFinReceived hsocket) (congrArg rxBuffer hsocket) hread

theorem keptByService_up : KeptByService (Up (σ := σ) stream) where
  read h hconn hstep := h.installRead hconn hstep
  write h hconn hstep := h.installWrite hconn hstep
  cmd h hconn hqueue := h.installCmd hconn hqueue
  serving b h hb := ⟨h.flight.setServing b hb, h.fin, h.data⟩

omit [LawfulTcpSocket σ] in
theorem Up.unread_of_drained (h : Up stream s) (hdrained : s.Drained) : s.unread = [] := by
  rw [unread, hdrained.2, h.fin hdrained.1, List.append_nil]

omit [LawfulTcpSocket σ] in
/-- The reply to a read goes to `write_all`, or ends the loop when the stream is over. -/
theorem Up.readRecv {reply : ReplyId} {result : Except VConnError (List UInt8)}
    {rest : List (ReplyId × Except VConnError (List UInt8))} (h : Up stream s)
    (hup : s.up = .awaitRead reply)
    (hawait : Oneshot.await s.answers.read (s.reads.map Prod.snd) (.error .actorGone) reply =
      some (result, rest)) :
    UpAt stream { s with
      up := .afterRead result
      answers := { s.answers with read := rest } } (.afterRead result) := by
  have hdata := h.data
  have hreads := h.flight.reads
  rw [hup] at hdata hreads
  have hpre := hdata.given_prefix
  obtain ⟨hstream, hend⟩ := hdata
  obtain ⟨_, _, hresult⟩ := hreads.await_cases (fun hheld => by simp [hheld]) hawait
  rcases hresult with hanswers | ⟨_, _, rfl⟩
  swap
  · exact hpre
  rw [hanswers] at hstream hend
  rcases result with e | (_ | ⟨b, data⟩)
  · exact hpre
  · have hdrained := hend reply (by simp)
    refine ⟨?_, hdrained⟩
    change s.given = stream
    rw [← hstream, h.unread_of_drained hdrained]
    simp [repliedBytes]
  · exact hstream

omit [LawfulTcpSocket σ] in
theorem Up.writeSome {n : Nat} {rest : List UInt8} (h : Up stream s) (hup : s.up = .writeAll rest)
    (hle : n ≤ rest.length) :
    let point : UpPoint := if n < rest.length then .writeAll (rest.drop n) else .read
    UpAt stream { s with writer := s.writer ++ [.write (rest.take n)], up := point } point := by
  have hdata : s.given ++ rest ++ s.unread = stream := by simpa [hup, UpAt] using h.data
  have hgiven (up : UpPoint) : given { s with writer := s.writer ++ [.write (rest.take n)], up := up } =
      s.given ++ rest.take n := by simp [given, WriterCall.given]
  intro point
  rcases Nat.lt_or_ge n rest.length with hlt | hge
  · rw [show point = .writeAll (rest.drop n) from if_pos hlt]
    simp only [UpAt, hgiven, List.append_assoc]
    rw [← List.append_assoc (rest.take n), List.take_append_drop, ← List.append_assoc]
    exact hdata
  · rw [show point = .read from if_neg (by omega)]
    simp only [UpAt, hgiven]
    rw [List.take_of_length_le hge]
    exact hdata

variable {a : SessionAction σ}

/-- Every step keeps the bytes in order. -/
theorem Up.step (h : Up stream s) (hallowed : s.ArrivesInOrder a) (hstep : s.step a = some t) :
    Up stream t := by
  have hflight := h.flight.step hstep
  have hdata := h.data
  cases step_move hstep with
  | poll socket arrived rest hrun hserving hconn hclient hfin =>
      obtain ⟨hrx, hkeep⟩ := hallowed
      refine ⟨hflight, hfin, hdata.frame rfl ?_ rfl ?_⟩
      · change rxBuffer socket ++ rest = rxBuffer s.socket ++ s.client
        rw [hrx, hclient, List.append_assoc]
      · rintro ⟨hfin', hnil⟩
        have harrived : arrived = [] := (List.append_eq_nil_iff.mp (hclient ▸ h.fin hfin')).1
        have hempty : rxBuffer socket = [] := by rw [hrx, hnil, harrived, List.append_nil]
        exact ⟨hkeep hfin', hempty⟩
  | serviceBegin _ hbegin => exact keptByService_up.serviceBegin h hbegin
  | serviceNext _ hnext => exact keptByService_up.serviceNext h hnext
  | serviceEnd | stop | connect | connectFail | srcRead | srcEof | srcFail | writeSend | writeGone
  | closeWriteSend | closeWriteGone | join | closeSend => exact ⟨hflight, h.fin, hdata⟩
  | writeRecv | closeWriteRecv => exact ⟨hflight, h.fin, hdata.frame rfl rfl rfl id⟩
  | serviceDrop c hconn hserving hqueue hclosed =>
      rw [h.flight.failPending_of_closed hconn hclosed] at hflight ⊢
      have hfin : rxFinReceived (abort s.socket) = rxFinReceived s.socket := rxFinReceived_abort s.socket
      have hrx : rxBuffer (abort s.socket) = rxBuffer s.socket := rxBuffer_abort s.socket
      refine ⟨hflight, fun hw => h.fin (hfin ▸ hw), hdata.frame rfl (congrArg (· ++ s.client) hrx) rfl ?_⟩
      exact fun hdrained => ⟨hfin.trans hdrained.1, hrx.trans hdrained.2⟩
  | readSend c hpipe hup hconn =>
      have hreads := h.flight.reads
      rw [hup] at hdata hreads
      refine ⟨hflight, h.fin, ?_, fun reply hmem => ?_⟩
      · change s.given ++ repliedBytes s.answers.read ++ s.unread = stream
        rw [hreads.2]
        simpa [repliedBytes] using (show s.given ++ s.unread = stream from hdata)
      · rw [show ({ s.pushed c _ with up := _ } : Session σ).answers.read = [] from hreads.2] at hmem
        cases hmem
  | readGone | writeFail => exact ⟨hflight, h.fin, hdata.given_prefix⟩
  | readRecv reply result rest hup hawait => exact ⟨hflight, h.fin, h.readRecv hup hawait⟩
  | writeSome n rest hup hpos hle => exact ⟨hflight, h.fin, h.writeSome hup hle⟩
  | flush hup =>
      rw [hup] at hdata
      refine ⟨hflight, h.fin, ?_, hdata.2⟩
      have hgiven : (s.writer ++ [WriterCall.flush]).flatMap WriterCall.given = s.given := by
        simp [given, WriterCall.given]
      exact hgiven.trans hdata.1
  | closeGone | closeRecv =>
      refine ⟨hflight, h.fin, hdata.frame ?_ rfl rfl id⟩
      simp [finish, given, WriterCall.given, dropVConn]

omit [LawfulTcpSocket σ] in
theorem Up.accepted (vconn : VConn) (socket : σ) (client upstream : List UInt8)
    (hfin : rxFinReceived socket = true → client = []) :
    Up (rxBuffer socket ++ client) (Session.accepted vconn socket client upstream) :=
  ⟨.accepted vconn socket client upstream, hfin, rfl⟩

theorem Up.of_run {vconn : VConn} {socket : σ} {client upstream : List UInt8}
    {trace : List (SessionAction σ)} (hfin : rxFinReceived socket = true → client = [])
    (hrun : Transition.Run Session.step ArrivesInOrder
      (Session.accepted vconn socket client upstream) trace s) : Up (rxBuffer socket ++ client) s :=
  hrun.invariant (fun _ _ _ h hallowed hstep => h.step hallowed hstep)
    (.accepted vconn socket client upstream hfin)

omit [LawfulTcpSocket σ] in
/-- An empty reply on its way says that the stream is over. -/
theorem Up.drained_of_answer {reply : ReplyId} (h : Up stream s) (hmem : (reply, .ok []) ∈ s.answers.read) :
    s.Drained := by
  have hdata := h.data
  have hreads := h.flight.reads
  rcases hup : s.up with _ | awaited | _ | _ | _ <;> rw [hup] at hdata hreads
  case awaitRead => exact hdata.2 reply hmem
  all_goals
    rw [hreads.2] at hmem
    cases hmem

/-- The bytes given to the upstream writer are at every moment a prefix of the client's stream.
`copy_vconn_to` returns `Ok` only when the FIN was received and every byte before it was given to the
writer, and any read that asks for something is answered with nothing only at that end. -/
theorem given_prefix_of_stream {vconn : VConn} {socket : σ} {client upstream : List UInt8}
    {trace : List (SessionAction σ)} (hfin : rxFinReceived socket = true → client = [])
    (hrun : Transition.Run Session.step ArrivesInOrder
      (Session.accepted vconn socket client upstream) trace s) :
    s.given <+: rxBuffer socket ++ client ∧
      (s.up = .returned (.ok ()) →
        rxFinReceived s.socket = true ∧ s.given = rxBuffer socket ++ client) ∧
      (∀ reply, (reply, .ok []) ∈ s.answers.read →
        rxFinReceived s.socket = true ∧ rxBuffer s.socket = []) ∧
      ∀ (callers : Callers) (v : Service σ) (read : PendingRead), v.conn.read = some read →
        0 < read.maxLen →
        (Service.serviceRead callers v).answers.read = v.answers.read ++ [(read.reply, .ok [])] →
        rxFinReceived v.socket = true ∧ rxBuffer v.socket = [] := by
  have hup := Up.of_run hfin hrun
  refine ⟨hup.data.given_prefix, fun hok => ?_, fun reply hmem => hup.drained_of_answer hmem, ?_⟩
  · have hdata := hup.data
    rw [hok] at hdata
    exact ⟨hdata.2.1, hdata.1⟩
  · exact fun callers v read => Service.serviceRead_eof

/-- Two bytes arrive in two polls, the FIN with the second one; the reads that find the buffer empty
are parked. -/
theorem given_prefix_of_stream_two_arrivals :
    ∃ trace s, Transition.Run Session.step ArrivesInOrder (established 4 [1, 2] []) trace s ∧
      s.up = .returned (.ok ()) ∧ rxFinReceived s.socket = true ∧ s.given = [1, 2] := by
  let first : BufferedSocket := { (established 4 [1, 2] []).socket.socket with rxBuffer := [1] }
  let second : BufferedSocket := { first with
    state := .closeWait, rxBuffer := [2], rxFinReceived := true }
  let trace : List (SessionAction BufferedSocket) :=
    [.connect (.ok ()), .readSend, .serviceBegin, .serviceNext, .serviceEnd, .poll first [1],
      .serviceBegin, .serviceEnd, .readRecv, .writeSome 1, .readSend, .poll second [2], .serviceBegin,
      .serviceNext, .serviceEnd, .readRecv, .writeSome 1, .readSend, .serviceBegin, .serviceNext,
      .serviceEnd, .readRecv, .flush]
  have hexec : (Transition.execute step ArrivesInOrder (established 4 [1, 2] []) trace).any
      (fun s => decide (s.up = .returned (.ok ()))) = true := by decide +kernel
  obtain ⟨s, hrun, hs⟩ := Transition.Run.exists_of_execute hexec
  have hup := of_decide_eq_true hs
  obtain ⟨_, hok, _⟩ := given_prefix_of_stream (by decide) hrun
  exact ⟨trace, s, hrun, hup, (hok hup).1, (hok hup).2⟩

/-- The upstream writer was given the whole client stream, and then its write half was shut down
while the stream itself was still there. -/
def HalfClosesUpstream (stream : List UInt8) (s : Session σ) : Prop :=
  ∃ before after, s.writer = before ++ .shutdown :: after ∧ before.flatMap WriterCall.given = stream ∧
    after.flatMap WriterCall.given = [] ∧ .drop ∉ before

/-- The calls the relay makes on the upstream writer: never a shutdown, and the drop of the stream only
when `pipe` returns. -/
structure WriterOpen (s : Session σ) : Prop where
  shutdown : .shutdown ∉ s.writer
  drop : s.pipe.hasReturned = false → .drop ∉ s.writer

omit [LawfulTcpSocket σ] in
theorem WriterOpen.step (h : WriterOpen s) (hstep : s.step a = some t) : WriterOpen t := by
  have hservice (t : Session σ) (hwriter : t.writer = s.writer) (hpipe : t.pipe = s.pipe) :
      WriterOpen t := ⟨hwriter ▸ h.shutdown, by rw [hpipe, hwriter]; exact h.drop⟩
  cases step_move hstep with
  | serviceBegin _ hbegin =>
      obtain ⟨_, _, _, rfl⟩ := serviceBegin_cases hbegin
      exact hservice _ rfl rfl
  | serviceNext _ hnext =>
      obtain ⟨_, _, _, _, _, _, rfl⟩ := serviceNext_cases hnext
      exact hservice _ rfl rfl
  | writeSome | flush =>
      refine ⟨by simpa using h.shutdown, fun hpipe => ?_⟩
      simpa using h.drop hpipe
  | connect hpipe | join hpipe | closeSend _ hpipe =>
      exact ⟨h.shutdown, fun _ => h.drop (by rw [hpipe]; rfl)⟩
  | connectFail => exact ⟨h.shutdown, nofun⟩
  | closeGone | closeRecv => exact ⟨by simpa [finish] using h.shutdown, nofun⟩
  | _ => exact ⟨h.shutdown, h.drop⟩

/-- Whenever `copy_vconn_to` has returned because the client's stream ended, the writer was given the
whole stream but its write half was not shut down, nor was the stream dropped before `pipe` returns. -/
theorem not_halfClosesUpstream {vconn : VConn} {socket : σ} {client upstream : List UInt8}
    {trace : List (SessionAction σ)} (hfin : rxFinReceived socket = true → client = [])
    (hrun : Transition.Run Session.step ArrivesInOrder
      (Session.accepted vconn socket client upstream) trace s)
    (hup : s.up = .returned (.ok ())) :
    s.given = rxBuffer socket ++ client ∧ ¬ s.HalfClosesUpstream (rxBuffer socket ++ client) ∧
      (s.pipe.hasReturned = false → .drop ∉ s.writer) := by
  have hdata := (Up.of_run hfin hrun).data
  have hopen : WriterOpen s := hrun.invariant (fun _ _ _ h _ hstep => h.step hstep)
    ⟨List.not_mem_nil, fun _ => List.not_mem_nil⟩
  rw [hup] at hdata
  refine ⟨hdata.1, ?_, hopen.drop⟩
  rintro ⟨before, after, hwriter, _⟩
  exact hopen.shutdown (by simp [hwriter])

/-- The client sends one byte and its FIN: the byte is given to the writer, and no shutdown follows. -/
theorem not_halfClosesUpstream_one_byte :
    ∃ trace s, Transition.Run Session.step ArrivesInOrder (established 4 [1] []) trace s ∧
      s.up = .returned (.ok ()) ∧ s.given = [1] ∧ ¬ s.HalfClosesUpstream [1] := by
  let closed : BufferedSocket := { (established 4 [1] []).socket.socket with
    state := .closeWait, rxBuffer := [1], rxFinReceived := true }
  let trace : List (SessionAction BufferedSocket) :=
    [.connect (.ok ()), .poll closed [1], .readSend, .serviceBegin, .serviceNext, .serviceEnd, .readRecv,
      .writeSome 1, .readSend, .serviceBegin, .serviceNext, .serviceEnd, .readRecv, .flush]
  have hexec : (Transition.execute step ArrivesInOrder (established 4 [1] []) trace).any
      (fun s => decide (s.up = .returned (.ok ()))) = true := by decide +kernel
  obtain ⟨s, hrun, hs⟩ := Transition.Run.exists_of_execute hexec
  have hup := of_decide_eq_true hs
  obtain ⟨hgiven, hnot, _⟩ := not_halfClosesUpstream (by decide) hrun hup
  exact ⟨trace, s, hrun, hup, hgiven, hnot⟩

/-- An empty client stream: after its FIN the writer has seen a flush and nothing else. -/
theorem not_halfClosesUpstream_empty_stream :
    ∃ trace s, Transition.Run Session.step ArrivesInOrder (established 4 [] []) trace s ∧
      s.up = .returned (.ok ()) ∧ s.writer = [.flush] ∧ ¬ s.HalfClosesUpstream [] := by
  let closed : BufferedSocket := { (established 4 [] []).socket.socket with
    state := .closeWait, rxFinReceived := true }
  let trace : List (SessionAction BufferedSocket) :=
    [.connect (.ok ()), .poll closed [], .readSend, .serviceBegin, .serviceNext, .serviceEnd, .readRecv,
      .flush]
  have hexec : (Transition.execute step ArrivesInOrder (established 4 [] []) trace).any
      (fun s => decide (s.up = .returned (.ok ()) ∧ s.writer = [.flush])) = true := by decide +kernel
  obtain ⟨s, hrun, hs⟩ := Transition.Run.exists_of_execute hexec
  obtain ⟨hup, hwriter⟩ := of_decide_eq_true hs
  refine ⟨trace, s, hrun, hup, hwriter, ?_⟩
  rintro ⟨before, after, hsplit, _⟩
  have hmem : WriterCall.shutdown ∈ s.writer := by simp [hsplit]
  simp [hwriter] at hmem

end Session

end SmoltcpSocks
