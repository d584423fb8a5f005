import SmoltcpSocks.RelayExit
import SmoltcpSocks.RelayProtocol
import SmoltcpSocks.RelayUp

/-! The end of an orderly connection: both directions have returned `Ok` and `pipe` sends its close,
which the actor answers by aborting the socket. What the client has not acknowledged when the round
that takes the close begins is discarded. -/

namespace SmoltcpSocks

open TcpSocket

/-- What an abort finds in the transmit queue. -/
def SocketCall.discards : SocketCall → Option (List UInt8)
  | .abort pending _ => some pending
  | _ => none

/-- What the first abort of the socket found in its transmit queue. -/
def Traced.discarded {σ : Type} (s : Traced σ) : Option (List UInt8) :=
  s.calls.findSome? SocketCall.discards

section Discarded

variable {σ : Type} [TcpSocket σ]

omit [TcpSocket σ] in
theorem Traced.discarded_of_append {s t : Traced σ} {call : SocketCall}
    (h : t.calls = s.calls ++ [call]) (hcall : call.discards = none) : t.discarded = s.discarded := by
  rw [discarded, h, List.findSome?_append]
  simp [discarded, hcall]

theorem Traced.discarded_recvSlice (s : Traced σ) (n : Nat) :
    (recvSlice s n).2.discarded = s.discarded := by
  rcases h : recvSlice s.socket n with ⟨e | data, socket⟩
  · simp [recvSlice, h, discarded]
  · exact discarded_of_append (show _ = s.calls ++ [.recv data] by simp [recvSlice, h]) rfl

theorem Traced.discarded_sendSlice (s : Traced σ) (data : List UInt8) :
    (sendSlice s data).2.discarded = s.discarded := by
  rcases h : sendSlice s.socket data with ⟨e | n, socket⟩
  · simp [sendSlice, h, discarded]
  · exact discarded_of_append (show _ = s.calls ++ [.send (data.take n)] by simp [sendSlice, h]) rfl

theorem Traced.discarded_close (s : Traced σ) : (close s).discarded = s.discarded :=
  discarded_of_append rfl rfl

theorem Traced.discarded_abort (s : Traced σ) :
    (abort s).discarded = s.discarded.or (some (txBuffer s)) :=
  List.findSome?_append

theorem Service.ReadStep.discarded {callers : Callers} {v w : Service (Traced σ)}
    (h : Service.ReadStep callers v w) : w.socket.discarded = v.socket.discarded := by
  cases h with
  | idle | cancelled | empty | parked => rfl
  | data | finished | aborted => exact Traced.discarded_recvSlice _ _

theorem Service.WriteStep.discarded {callers : Callers} {v w : Service (Traced σ)}
    (h : Service.WriteStep callers v w) : w.socket.discarded = v.socket.discarded := by
  cases h with
  | idle | cancelled | empty | parked => rfl
  | sent | closed => exact Traced.discarded_sendSlice _ _

end Discarded

namespace Session

variable {σ : Type} [TcpSocket σ]

def Orderly (s : Session σ) : Prop := s.up = .returned (.ok ()) ∧ s.down = .returned (.ok ())

instance (s : Session σ) : Decidable s.Orderly := inferInstanceAs (Decidable (_ ∧ _))

/-- After an orderly end the first abort of the socket finds everything acknowledged, and the running
actor drops no socket that it has not aborted. -/
def TailDelivered (s : Session σ) : Prop :=
  s.Orderly → (∀ pending, s.socket.discarded = some pending → pending = []) ∧
    (s.running = true → s.conn = none → s.socket.discarded ≠ none)

/-- The client has acknowledged everything when a round begins that finds the close on the channel,
and when the close is sent into a round under way. -/
def ClosesAcknowledged (s : Session σ) : SessionAction σ → Prop
  | .serviceBegin => s.Orderly → s.closes ≠ [] → txBuffer s.socket = []
  | .closeSend => s.Orderly → s.serving = true → txBuffer s.socket = []
  | _ => True

instance (s : Session σ) : (a : SessionAction σ) → Decidable (s.ClosesAcknowledged a)
  | .serviceBegin | .closeSend => inferInstanceAs (Decidable (_ → _ → _))
  | .poll _ _ | .serviceNext | .serviceEnd | .stop | .connect _ | .readSend | .readRecv | .writeSome _
  | .writeFail _ | .flush | .srcRead _ | .srcEof | .srcFail _ | .writeSend | .writeRecv
  | .closeWriteSend | .closeWriteRecv | .join | .closeRecv => inferInstanceAs (Decidable True)

/-- A poll takes bytes off the transmit queue only from its front, as the client acknowledges them. -/
def SendsInOrder (s : Session σ) : SessionAction σ → Prop
  | .poll socket _ => txBuffer socket <:+ txBuffer s.socket
  | _ => True

instance (s : Session σ) : (a : SessionAction σ) → Decidable (s.SendsInOrder a)
  | .poll _ _ => inferInstanceAs (Decidable (_ <:+ _))
  | .serviceBegin | .serviceNext | .serviceEnd | .stop | .connect _ | .readSend | .readRecv
  | .writeSome _ | .writeFail _ | .flush | .srcRead _ | .srcEof | .srcFail _ | .writeSend | .writeRecv
  | .closeWriteSend | .closeWriteRecv | .join | .closeSend | .closeRecv => inferInstanceAs (Decidable True)

/-- What is known of the socket's first abort; `armed` in a round that may take the close. -/
structure Tail (armed : Bool) (s : Session σ) : Prop where
  flight : Flight s
  first : s.Orderly → ∀ pending, s.socket.discarded = some pending → pending = []
  before : s.pipe.awaited = none → s.pipe.hasReturned = false → s.socket.discarded = none
  waiting : s.closes ≠ [] → s.socket.discarded = none
  answered : s.answers.close ≠ [] → s.socket.discarded ≠ none
  after : s.pipe = .returned (.ok ()) → s.conn ≠ none → s.socket.discarded ≠ none
  removed : s.running = true → s.conn = none → s.socket.discarded ≠ none
  drained : armed = true → s.Orderly → s.closes ≠ [] → txBuffer s.socket = []

variable {s t : Session σ} {c : ConnState} {armed : Bool}

variable [LawfulTcpSocket σ]

omit [LawfulTcpSocket σ] in
/-- An operation of the actor that aborts nothing and answers no close. -/
theorem Tail.installFrame {w : Service (Traced σ)} (h : Tail armed s) (hconn : s.conn = some c)
    (hflight : Flight (s.install w)) (hdiscarded : w.socket.discarded = s.socket.discarded)
    (hcloses : w.conn.closes = c.closes) (hclose : w.answers.close = s.answers.close)
    (htx : s.Orderly → txBuffer w.socket = txBuffer s.socket) : Tail armed (s.install w) := by
  have hcloses' : (s.install w).closes = s.closes := by simpa [closes, install, hconn] using hcloses
  have hsome : s.conn ≠ none := by simp [hconn]
  refine ⟨hflight, ?_, ?_, ?_, ?_, ?_, ?_, ?_⟩
  · exact fun hord pending hp => h.first hord pending (hdiscarded ▸ hp)
  · exact fun hawaited hret => hdiscarded.trans (h.before hawaited hret)
  · exact fun hne => hdiscarded.trans (h.waiting (hcloses' ▸ hne))
  · intro hne
    rw [show (s.install w).socket.discarded = s.socket.discarded from hdiscarded]
    exact h.answered (by simpa [install, hclose] using hne)
  · intro hpipe _
    rw [show (s.install w).socket.discarded = s.socket.discarded from hdiscarded]
    exact h.after hpipe hsome
  · intro _ hnone
    cases hnone
  · exact fun harmed hord hne => (htx hord).trans (h.drained harmed hord (hcloses' ▸ hne))

theorem Tail.installRead {w : Service (Traced σ)} (h : Tail armed s) (hconn : s.conn = some c)
    (hstep : Service.ReadStep s.callers ⟨c, s.socket, s.answers⟩ w) : Tail armed (s.install w) :=
  h.installFrame hconn (h.flight.installRead hconn hstep) hstep.discarded
    (by rw [ConnState.closes, hstep.frame.cmdRx, ConnState.closes]) hstep.frame.answersClose
    fun _ => hstep.frame.txBuffer

/-- After an orderly end nothing is sent any more. -/
theorem Tail.installWrite {w : Service (Traced σ)} (h : Tail armed s) (hconn : s.conn = some c)
    (hstep : Service.WriteStep s.callers ⟨c, s.socket, s.answers⟩ w) : Tail armed (s.install w) := by
  refine h.installFrame hconn (h.flight.installWrite hconn hstep) hstep.discarded
    (by rw [ConnState.closes, hstep.frame.cmdRx, ConnState.closes]) hstep.frame.answersClose ?_
  intro hord
  have hnone := h.flight.write_eq_none hconn (by rw [hord.2]; rfl)
  cases hstep with
  | idle => rfl
  | cancelled _ hwrite | empty _ hwrite | parked _ hwrite | sent _ hwrite | closed _ hwrite =>
      simp [hnone] at hwrite

omit [LawfulTcpSocket σ] in
/-- The close aborts a socket that was not aborted before, with everything acknowledged. -/
theorem Tail.installClose {reply : ReplyId} {rest : List ConnCmd} (h : Tail true s)
    (hconn : s.conn = some c) (hqueue : c.cmdRx.queue = .close reply :: rest) :
    Tail true
      (s.install (Service.handleCmd (Service.setQueue ⟨c, s.socket, s.answers⟩ rest) (.close reply))) := by
  have hflight := h.flight.installCmd hconn hqueue
  have hne : s.closes ≠ [] := by
    simp [closes, hconn, ConnState.closes, hqueue, ConnCmd.asClose]
  obtain ⟨_, hawaited, hrest, hanswers⟩ : ∃ reply', s.pipe.awaited = some (reply, reply') ∧
      rest.filterMap ConnCmd.asClose = [] ∧ s.answers.close = [] := by
    have hcloses := h.flight.closes.of_some hconn
    rw [ConnState.closes, hqueue] at hcloses
    exact hcloses.awaited_of_held
  have hdiscarded : (abort s.socket).discarded = some (txBuffer s.socket) := by
    rw [Traced.discarded_abort, h.waiting hne]
    rfl
  have hsome : (abort s.socket).discarded ≠ none := by simp [hdiscarded]
  refine ⟨hflight, ?_, ?_, ?_, fun _ => hsome, fun _ _ => hsome, fun _ _ => hsome, ?_⟩
  · intro hord pending hp
    cases hdiscarded.symm.trans hp
    exact h.drained rfl hord hne
  · intro hnone
    cases hawaited.symm.trans hnone
  · exact fun hne' => absurd hrest hne'
  · exact fun _ _ hne' => absurd hrest hne'

theorem Tail.installCmd {cmd : ConnCmd} {rest : List ConnCmd} (h : Tail true s)
    (hconn : s.conn = some c) (hqueue : c.cmdRx.queue = cmd :: rest) :
    Tail true (s.install (Service.handleCmd (Service.setQueue ⟨c, s.socket, s.answers⟩ rest) cmd)) := by
  have hflight := h.flight.installCmd hconn hqueue
  have hcloses (hcmd : cmd.asClose = none) :
      (Service.handleCmd (Service.setQueue ⟨c, s.socket, s.answers⟩ rest) cmd).conn.closes = c.closes := by
    simp [ConnState.closes, Service.setQueue, hqueue, hcmd]
  rcases Service.handleCmd_cases (Service.setQueue ⟨c, s.socket, s.answers⟩ rest) cmd with
    ⟨reply, rfl⟩ | ⟨reply, rfl⟩ | ⟨hsocket, _, hclose, hcmd⟩
  · exact h.installFrame hconn hflight (Traced.discarded_close _) (hcloses rfl) rfl
      fun _ => txBuffer_close s.socket
  · exact h.installClose hconn hqueue
  · exact h.installFrame hconn hflight (congrArg Traced.discarded hsocket) (hcloses hcmd) hclose
      fun _ => congrArg txBuffer hsocket

theorem keptByService_tail : KeptByService (Tail (σ := σ) true) where
  read h hconn hstep := h.installRead hconn hstep
  write h hconn hstep := h.installWrite hconn hstep
  cmd h hconn hqueue := h.installCmd hconn hqueue
  serving b h hb := { h with flight := h.flight.setServing b hb }

variable {a : SessionAction σ}

omit [LawfulTcpSocket σ] in
/-- A step of the relay that leaves the socket, the entry's closes and `pipe` alone, and if it makes
the end orderly does so before the close. -/
theorem Tail.relayFrame (h : Tail armed s) (hflight : Flight t) (hsocket : t.socket = s.socket)
    (hpipe : t.pipe = s.pipe) (hcloses : t.closes = s.closes) (hclose : t.answers.close = s.answers.close)
    (hconn : t.conn = none ↔ s.conn = none) (hrunning : t.running = s.running)
    (hord : t.Orderly → s.Orderly ∨ s.pipe = .join) : Tail armed t := by
  have hjoin (hp : s.pipe = .join) : s.socket.discarded = none ∧ s.closes = [] := by
    refine ⟨h.before (by rw [hp]; rfl) (by rw [hp]; rfl), ?_⟩
    have hcloses := h.flight.closes
    rw [hp] at hcloses
    exact hcloses.1
  refine ⟨hflight, ?_, ?_, ?_, ?_, ?_, ?_, ?_⟩
  · intro ht pending hp
    rw [hsocket] at hp
    rcases hord ht with hs | hs
    · exact h.first hs pending hp
    · simp [(hjoin hs).1] at hp
  · rw [hpipe, hsocket]
    exact h.before
  · rw [hcloses, hsocket]
    exact h.waiting
  · rw [hclose, hsocket]
    exact h.answered
  · rw [hpipe, hsocket, ne_eq, hconn]
    exact h.after
  · rw [hrunning, hconn, hsocket]
    exact h.removed
  · intro harmed ht hne
    rw [hcloses] at hne
    rw [hsocket]
    rcases hord ht with hs | hs
    · exact h.drained harmed hs hne
    · exact absurd (hjoin hs).2 hne

omit [LawfulTcpSocket σ] in
theorem Tail.weaken (h : Tail true s) : Tail armed s := { h with drained := fun _ => h.drained rfl }

omit [LawfulTcpSocket σ] in
theorem Tail.setPipe {pipe : PipePoint} (h : Tail armed s) (hflight : Flight { s with pipe := pipe })
    (hawaited : s.pipe.awaited = none) (hret : s.pipe.hasReturned = false)
    (hpipe : pipe.hasReturned = false) : Tail armed { s with pipe := pipe } :=
  { h with
    flight := hflight
    before := fun _ _ => h.before hawaited hret
    after := fun hok => by
      rw [show pipe = .returned (.ok ()) from hok] at hpipe
      cases hpipe }

omit [LawfulTcpSocket σ] in
/-- `pipe` returns: from here on the entry only waits to be dropped. -/
theorem Tail.returned {pipe : PipePoint} {writer : List WriterCall} (h : Tail armed s)
    (hflight : Flight { s.dropVConn with writer := writer, pipe := pipe }) (hret : pipe.hasReturned = true)
    (hafter : pipe = .returned (.ok ()) → s.conn ≠ none → s.socket.discarded ≠ none) :
    Tail armed { s.dropVConn with writer := writer, pipe := pipe } := by
  have hcloses : s.dropVConn.closes = s.closes := dropVConn_requests ConnState.closes_ofKind s
  refine ⟨hflight, h.first, ?_, ?_, h.answered, ?_, ?_, ?_⟩
  · intro _ hret'
    cases hret.symm.trans hret'
  · intro hne
    exact h.waiting (hcloses ▸ hne)
  · exact fun hok hconn => hafter hok fun hnone => hconn ((dropVConn_conn_eq_none s).mpr hnone)
  · exact fun hrun hnone => h.removed hrun ((dropVConn_conn_eq_none s).mp hnone)
  · intro harmed hord hne
    exact h.drained harmed hord (hcloses ▸ hne)

omit [LawfulTcpSocket σ] in
/-- A copy direction sends one of its commands. -/
theorem Tail.pushed {cmd : ConnCmd} {up : UpPoint} {down : DownPoint} (h : Tail armed s)
    (hconn : s.conn = some c) (hcmd : cmd.asClose = none) (hpipe : s.pipe = .join)
    (hflight : Flight { s.pushed c cmd with up := up, down := down }) :
    Tail armed { s.pushed c cmd with up := up, down := down } := by
  refine h.relayFrame hflight rfl rfl ?_ rfl ?_ rfl fun _ => Or.inr hpipe
  · have hcloses := pushed_requests ConnState.closes_ofKind hconn cmd
    rw [hcmd, Option.toList_none, List.append_nil] at hcloses
    exact hcloses
  · simp [Session.pushed, hconn]

omit [LawfulTcpSocket σ] in
theorem Tail.poll {socket : σ} {rest : List UInt8} (h : Tail armed s) (harmed : armed = false)
    (hflight : Flight { s with socket := s.socket.poll socket, client := rest })
    (hconn : s.conn.isSome = true) :
    Tail armed { s with socket := s.socket.poll socket, client := rest } := by
  have hdiscarded : (s.socket.poll socket).discarded = s.socket.discarded :=
    Traced.discarded_of_append rfl rfl
  constructor
  case flight => exact hflight
  case drained =>
    intro harmed'
    cases harmed.symm.trans harmed'
  case removed =>
    intro _ hnone
    rw [show s.conn = none from hnone] at hconn
    cases hconn
  all_goals simp only [hdiscarded]
  · exact h.first
  · exact h.before
  · exact h.waiting
  · exact h.answered
  · exact h.after

omit [LawfulTcpSocket σ] in
/-- The entry is dropped: its socket was aborted before if the end was orderly. -/
theorem Tail.dropped (h : Tail armed s) (hconn : s.conn = some c) (hclosed : c.cmdRx.closed = true)
    (hflight : Flight { s with conn := none, socket := abort s.socket, serving := false }) :
    Tail false { s with conn := none, socket := abort s.socket, serving := false } := by
  have hret : s.pipe.hasReturned = true := (h.flight.entry c hconn).2 ▸ hclosed
  have hdiscarded : (abort s.socket).discarded = s.socket.discarded.or (some (txBuffer s.socket)) :=
    Traced.discarded_abort s.socket
  have hsome : (abort s.socket).discarded ≠ none := by
    rw [hdiscarded]
    cases s.socket.discarded <;> simp
  refine ⟨hflight, ?_, ?_, fun hne => absurd rfl hne, fun _ => hsome, fun _ _ => hsome,
    fun _ _ => hsome, nofun⟩
  · intro hord pending hp
    have hpipe : s.pipe = .returned (.ok ()) := by
      have horder := h.flight.order
      rcases hp : s.pipe with _ | _ | _ | _ | (e | _) <;> rw [hp] at hret horder <;> try cases hret
      · cases hord.1.symm.trans horder.1
    obtain ⟨first, hfirst⟩ := Option.ne_none_iff_exists'.mp (h.after hpipe (by simp [hconn]))
    rw [hdiscarded, hfirst] at hp
    exact h.first hord pending (hfirst.trans hp)
  · intro _ hnot
    cases hret.symm.trans hnot

/-- Every step keeps the socket's first abort behind the acknowledgement of all that was sent. -/
theorem Tail.step (h : Tail s.serving s) (hallowed : s.ClosesAcknowledged a) (hstep : s.step a = some t) :
    Tail t.serving t := by
  have hflight := h.flight.step hstep
  cases step_move hstep with
  | poll socket arrived rest hrun hserving hconn => exact h.poll hserving hflight hconn
  | serviceBegin _ hbegin =>
      have harmed : Tail true s := { h with drained := fun _ => hallowed }
      exact (keptByService_tail.serviceBegin harmed hbegin).weaken
  | serviceNext _ hnext =>
      obtain ⟨_, _, _, _, hserving, _⟩ := serviceNext_cases hnext
      rw [hserving] at h
      exact (keptByService_tail.serviceNext h hnext).weaken
  | serviceEnd c hconn => exact { h with flight := hflight, drained := nofun }
  | serviceDrop c hconn hserving hqueue hclosed =>
      rw [h.flight.failPending_of_closed hconn hclosed] at hflight ⊢
      exact h.dropped hconn hclosed hflight
  | stop =>
      exact ⟨hflight, h.first, h.before, fun hne => absurd rfl hne, h.answered,
        fun _ hne => absurd rfl hne, nofun, fun _ _ hne => absurd rfl hne⟩
  | connect hpipe => exact h.setPipe hflight (by rw [hpipe]; rfl) (by rw [hpipe]; rfl) rfl
  | connectFail e hpipe => exact h.returned hflight rfl nofun
  | readSend c hpipe hup hconn => exact h.pushed hconn rfl hpipe hflight
  | writeSend c buf written hdown hconn =>
      have hpipe := h.flight.join_of_down hdown nofun rfl
      exact h.pushed hconn rfl hpipe hflight
  | closeWriteSend c hdown hconn =>
      have hpipe := h.flight.join_of_down hdown nofun rfl
      exact h.pushed hconn rfl hpipe hflight
  | readGone hpipe | srcRead _ _ _ hpipe | srcEof hpipe | srcFail _ hpipe =>
      exact h.relayFrame hflight rfl rfl rfl rfl Iff.rfl rfl fun _ => Or.inr hpipe
  | readRecv _ _ _ hup | writeSome _ _ hup | writeFail _ _ hup | flush hup =>
      have hpipe := h.flight.join_of_up hup nofun rfl
      exact h.relayFrame hflight rfl rfl rfl rfl Iff.rfl rfl fun _ => Or.inr hpipe
  | writeGone _ _ hdown | writeRecv _ _ _ _ _ hdown | closeWriteGone hdown
  | closeWriteRecv _ _ _ hdown =>
      have hpipe := h.flight.join_of_down hdown nofun rfl
      exact h.relayFrame hflight rfl rfl rfl rfl Iff.rfl rfl fun _ => Or.inr hpipe
  | join hpipe => exact h.setPipe hflight (by rw [hpipe]; rfl) (by rw [hpipe]; rfl) rfl
  | closeSend c hpipe hconn =>
      have hnone : s.socket.discarded = none := h.before (by rw [hpipe]; rfl) (by rw [hpipe]; rfl)
      exact ⟨hflight, h.first, nofun, fun _ => hnone, h.answered, nofun, nofun,
        fun hserving hord _ => hallowed hord hserving⟩
  | closeGone hpipe hconn => exact h.returned hflight rfl fun _ hne => absurd hconn hne
  | closeRecv reply result rest hpipe hawait =>
      have hcloses := h.flight.closes
      rw [hpipe] at hcloses
      obtain ⟨hheld, rfl, hresult⟩ := hcloses.await_cases (fun hheld => by simp [hheld]) hawait
      have hafter (hconn : s.conn ≠ none) : s.socket.discarded ≠ none := by
        rcases hresult with hanswers | ⟨_, hgone, _⟩
        · exact h.answered (by simp [hanswers])
        · exact absurd hgone hconn
      have hs : s.dropVConn.closes = [] := (dropVConn_requests ConnState.closes_ofKind s).trans hheld
      refine ⟨hflight, h.first, nofun, fun hne => absurd hs hne, fun hne => absurd rfl hne, ?_, ?_,
        fun _ _ hne => absurd hs hne⟩
      · exact fun _ hconn => hafter fun hnone => hconn ((dropVConn_conn_eq_none s).mpr hnone)
      · exact fun hrun hnone => h.removed hrun ((dropVConn_conn_eq_none s).mp hnone)

omit [LawfulTcpSocket σ] in
theorem Tail.accepted (vconn : VConn) (socket : σ) (client upstream : List UInt8) :
    Tail armed (Session.accepted vconn socket client upstream) :=
  ⟨.accepted vconn socket client upstream, nofun, fun _ _ => rfl, fun _ => rfl, nofun, nofun, nofun, nofun⟩

/-- The actor is in a round with nothing but the close before it, and there is a tail to lose. -/
structure LosesTail (s : Session σ) : Prop where
  flight : Flight s
  orderly : s.Orderly
  serving : s.serving = true
  closes : s.closes ≠ []
  first : s.socket.discarded = none
  tail : txBuffer s.socket ≠ []

omit [TcpSocket σ] [LawfulTcpSocket σ] in
/-- A close in flight is alone on the channel. -/
theorem Flight.queue_eq_close (h : Flight s) (hconn : s.conn = some c) (hne : s.closes ≠ []) :
    ∃ reply, c.cmdRx.queue = [.close reply] ∧ s.pipe = .awaitClose reply := by
  have hpos := List.length_pos_of_ne_nil hne
  obtain ⟨_, _, hcloses, hidle⟩ := h.inFlight
  have hqueue := length_queue_le_held hconn
  simp only [readsInFlight, writesInFlight, closeWritesInFlight, closesInFlight] at hcloses hidle
  have hheld : s.closes = c.cmdRx.queue.filterMap ConnCmd.asClose := by simp [Session.closes, hconn, ConnState.closes]
  have hout := h.closes
  rw [hheld] at hne hout
  rcases hq : c.cmdRx.queue with _ | ⟨cmd, _ | ⟨cmd', rest⟩⟩
  · rw [hq] at hne
    exact absurd rfl hne
  · rw [hq] at hne hout
    cases cmd with
    | close reply =>
        obtain ⟨reply', hawaited, _⟩ := hout.awaited_of_held
        refine ⟨reply, rfl, ?_⟩
        rcases hpipe : s.pipe with _ | _ | _ | awaited | _ <;> rw [hpipe] at hawaited <;> cases hawaited
        rfl
    | _ => exact absurd rfl hne
  · rw [hq, List.length_cons, List.length_cons] at hqueue
    omega

/-- The round goes on with the close and with nothing else, and the close discards the tail. -/
theorem LosesTail.step (h : LosesTail s) (hstep : s.step a = some t) : ¬ t.TailDelivered := by
  obtain ⟨c, hconn⟩ := Option.isSome_iff_exists.mp (h.flight.serving h.serving)
  obtain ⟨reply, hqueue, hpipe⟩ := h.flight.queue_eq_close hconn h.closes
  obtain ⟨hup, hdown⟩ := h.orderly
  have hserving := h.serving
  cases step_move hstep with
  | serviceNext _ hnext =>
      obtain ⟨c', cmd, rest, hconn', _, hqueue', rfl⟩ := serviceNext_cases hnext
      cases hconn.symm.trans hconn'
      cases hqueue.symm.trans hqueue'
      intro htail
      have hdiscarded : (Service.serviceCmd s.callers ⟨c, s.socket, s.answers⟩ (.close reply) []).socket.discarded =
          some (txBuffer s.socket) := by
        refine (Service.serviceWrite_step _ _).discarded.trans ((Service.serviceRead_step _ _).discarded.trans ?_)
        exact (Traced.discarded_abort s.socket).trans (by rw [h.first]; rfl)
      exact h.tail ((htail ⟨hup, hdown⟩).1 _ hdiscarded)
  | serviceBegin _ hbegin =>
      obtain ⟨_, _, hidle, _⟩ := serviceBegin_cases hbegin
      cases hserving.symm.trans hidle
  | poll _ _ _ _ hidle | stop _ hidle => cases hserving.symm.trans hidle
  | serviceEnd c' hconn' _ hempty | serviceDrop c' hconn' _ hempty =>
      cases hconn.symm.trans hconn'
      cases hqueue.symm.trans hempty
  | connect hp | connectFail _ hp | readSend _ hp | readGone hp | srcRead _ _ _ hp | srcEof hp | srcFail _ hp
  | join hp | closeSend _ hp | closeGone hp => cases hpipe.symm.trans hp
  | readRecv _ _ _ hp | writeSome _ _ hp | writeFail _ _ hp | flush hp => cases hup.symm.trans hp
  | writeSend _ _ _ hp | writeGone _ _ hp | writeRecv _ _ _ _ _ hp | closeWriteSend _ hp | closeWriteGone hp
  | closeWriteRecv _ _ _ hp => cases hdown.symm.trans hp
  | closeRecv reply' _ _ hp hawait =>
      have hcloses := h.flight.closes
      rw [hp] at hcloses
      exact absurd (hcloses.await_cases (fun hheld => by simp [hheld]) hawait).1 h.closes

omit [LawfulTcpSocket σ] in
theorem LosesTail.exists_step (h : LosesTail s) : ∃ t, s.step .serviceNext = some t := by
  obtain ⟨c, hconn⟩ := Option.isSome_iff_exists.mp (h.flight.serving h.serving)
  obtain ⟨reply, hqueue, _⟩ := h.flight.queue_eq_close hconn h.closes
  change ∃ t, s.serviceNext = some t
  simp [Session.serviceNext, hconn, h.serving, CmdReceiver.tryRecv, hqueue]

/-- A step that does not meet the condition leads into a round that takes the close too early. -/
theorem Tail.losesTail (h : Tail s.serving s) (hstep : s.step a = some t) (hnot : ¬ s.ClosesAcknowledged a) :
    LosesTail t := by
  have hflight := h.flight.step hstep
  cases step_move hstep with
  | serviceBegin _ hbegin =>
      simp only [ClosesAcknowledged, Classical.not_imp] at hnot
      obtain ⟨hord, hne, htx⟩ := hnot
      obtain ⟨c, hconn, _, rfl⟩ := serviceBegin_cases hbegin
      have hread := h.flight.read_eq_none hconn (by rw [hord.1]; rfl)
      have hwrite := h.flight.write_eq_none hconn (by rw [hord.2]; rfl)
      -- nothing is parked, so that the round starts from the entry as it is
      have hio : Service.serviceIo s.callers ⟨c, s.socket, s.answers⟩ = ⟨c, s.socket, s.answers⟩ := by
        simp [Service.serviceIo, Service.serviceRead, Service.serviceWrite, hread, hwrite]
      rw [hio] at hflight ⊢
      refine ⟨hflight, hord, rfl, ?_, h.waiting hne, htx⟩
      simpa [closes, install, hconn] using hne
  | closeSend c hpipe hconn =>
      simp only [ClosesAcknowledged, Classical.not_imp] at hnot
      obtain ⟨hord, hserving, htx⟩ := hnot
      have hcloses := pushed_requests ConnState.closes_ofKind hconn (.close s.nextReply)
      refine ⟨hflight, hord, hserving, ?_, h.before (by rw [hpipe]; rfl) (by rw [hpipe]; rfl), htx⟩
      intro hnil
      cases (List.append_eq_nil_iff.mp (hcloses.symm.trans hnil)).2
  | closeGone _ hconn =>
      simp only [ClosesAcknowledged, Classical.not_imp] at hnot
      have hsome := h.flight.serving hnot.2.1
      rw [hconn] at hsome
      cases hsome
  | _ => exact absurd trivial hnot

/-- In every run in which the client has acknowledged everything by the round that takes the close,
the tail of an orderly connection is delivered; a next step that does not meet the condition leaves one step to
make, in which the tail is lost. -/
theorem tailDelivered_of_closesAcknowledged {vconn : VConn} {socket : σ} {client upstream : List UInt8}
    {trace : List (SessionAction σ)}
    (hrun : Transition.Run Session.step ClosesAcknowledged
      (Session.accepted vconn socket client upstream) trace s) :
    s.TailDelivered ∧ ∀ a t, s.step a = some t → ¬ s.ClosesAcknowledged a →
      (∃ u, t.step .serviceNext = some u) ∧ ∀ b u, t.step b = some u → ¬ u.TailDelivered := by
  have htail : Tail s.serving s :=
    hrun.invariant (I := fun s => Tail s.serving s) (fun _ _ _ h hallowed hstep => h.step hallowed hstep)
      (.accepted vconn socket client upstream)
  refine ⟨fun hord => ⟨htail.first hord, htail.removed⟩, ?_⟩
  intro a t hstep hnot
  have hloses := htail.losesTail hstep hnot
  exact ⟨hloses.exists_step, fun _ _ hnext => hloses.step hnext⟩

/-- One byte from upstream, acknowledged together with the client's FIN: the close finds nothing to
discard. -/
theorem tailDelivered_of_acknowledged_byte :
    ∃ trace s, Transition.Run Session.step ClosesAcknowledged (established 4 [] [9]) trace s ∧
      s.Orderly ∧ s.socket.discarded ≠ none ∧
      ∀ pending, s.socket.discarded = some pending → pending = [] := by
  let acked : BufferedSocket := { (established 4 [] [9]).socket.socket with
    state := .timeWait, rxFinReceived := true }
  let trace : List (SessionAction BufferedSocket) :=
    [.connect (.ok ()), .srcRead 1, .writeSend, .serviceBegin, .serviceNext, .serviceEnd, .writeRecv,
      .srcEof, .closeWriteSend, .serviceBegin, .serviceNext, .serviceEnd, .closeWriteRecv,
      .poll acked [], .readSend, .serviceBegin, .serviceNext, .serviceEnd, .readRecv, .flush, .join,
      .closeSend, .serviceBegin, .serviceNext]
  have hexec : (Transition.execute step ClosesAcknowledged (established 4 [] [9]) trace).any
      (fun s => decide (s.Orderly ∧ s.socket.discarded ≠ none)) = true := by decide +kernel
  obtain ⟨s, hrun, hs⟩ := Transition.Run.exists_of_execute hexec
  obtain ⟨hord, hsome⟩ := of_decide_eq_true hs
  exact ⟨trace, s, hrun, hord, hsome, ((tailDelivered_of_closesAcknowledged hrun).1 hord).1⟩

/-- The same connection, but the client's FIN comes before its acknowledgement: the half-close was
made, both directions return `Ok`, and the close discards the byte. -/
theorem not_tailDelivered_unacknowledged_byte :
    ∃ trace s, Transition.Run Session.step
        (fun s a => s.ArrivesInOrder a ∧ s.StaysClosed a ∧ s.SendsInOrder a)
        (established 4 [] [9]) trace s ∧
      s.Orderly ∧ .close ∈ s.socket.calls ∧ s.socket.discarded = some [9] ∧ ¬ s.TailDelivered := by
  let closing : BufferedSocket := { (established 4 [] [9]).socket.socket with
    state := .closing, rxFinReceived := true, txBuffer := [9] }
  let trace : List (SessionAction BufferedSocket) :=
    [.connect (.ok ()), .srcRead 1, .writeSend, .serviceBegin, .serviceNext, .serviceEnd, .writeRecv,
      .srcEof, .closeWriteSend, .serviceBegin, .serviceNext, .serviceEnd, .closeWriteRecv,
      .poll closing [], .readSend, .serviceBegin, .serviceNext, .serviceEnd, .readRecv, .flush, .join,
      .closeSend, .serviceBegin, .serviceNext]
  have hexec : (Transition.execute step
      (fun s a => s.ArrivesInOrder a ∧ s.StaysClosed a ∧ s.SendsInOrder a)
      (established 4 [] [9]) trace).any
      (fun s => decide (s.Orderly ∧ .close ∈ s.socket.calls ∧ s.socket.discarded = some [9])) = true := by
    decide +kernel
  obtain ⟨s, hrun, hs⟩ := Transition.Run.exists_of_execute hexec
  obtain ⟨hord, hclose, hdiscarded⟩ := of_decide_eq_true hs
  refine ⟨trace, s, hrun, hord, hclose, hdiscarded, fun htail => ?_⟩
  cases (htail hord).1 [9] hdiscarded

end Session

end SmoltcpSocks
