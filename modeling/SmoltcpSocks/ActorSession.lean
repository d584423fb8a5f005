import SmoltcpSocks.Actor
import SmoltcpSocks.Relay

/-! The two models of the actor's round agree. A session cuts the round at the points where it touches
the command channel, the actor takes it as one call for each entry; without relay steps in between, the
session's steps amount to that call. -/

namespace SmoltcpSocks

namespace Session

variable {σ : Type} [TcpSocket σ]

/-- The steps of a round that no relay step interrupts. -/
def round (s : Session σ) : List (SessionAction σ) :=
  .serviceBegin :: (s.conn.elim [] fun c => c.cmdRx.queue.map fun _ => .serviceNext) ++ [.serviceEnd]

/-- What the actor keeps under a handle is what the session says of its connection. -/
structure At (s : Session σ) (a : NetstackActor σ) (handle : SocketHandle) : Prop where
  conn : s.conn = a.conns.lookup handle
  socket : ∀ slot, a.sockets.lookup handle = some slot → s.socket = slot.socket
  answers : ∀ c, s.conn = some c → s.answers = a.answers c.cmdRx.chan

variable [LawfulTcpSocket σ] {s : Session σ} {c : ConnState}

/-- The turns of the loop of `service`, one step each. -/
theorem foldlM_serviceNext {queue : List ConnCmd} (hconn : s.conn = some c) (hqueue : c.cmdRx.queue = queue)
    (hserving : s.serving = true) :
    (queue.map fun _ => SessionAction.serviceNext).foldlM Session.step s =
      some (s.install (Service.serviceLoop s.callers queue ⟨c, s.socket, s.answers⟩)) := by
  induction queue generalizing s c with
  | nil =>
      have hs : s.install ⟨c, s.socket, s.answers⟩ = s := by
        rw [install, ← hconn]
      simp [Service.serviceLoop, hs]
  | cons cmd rest ih =>
      let v := Service.serviceCmd s.callers ⟨c, s.socket, s.answers⟩ cmd rest
      have hnext : s.step .serviceNext = some (s.install v) := by
        simp [Session.step, serviceNext, hconn, hserving, CmdReceiver.tryRecv, hqueue, v]
      have hrest : v.conn.cmdRx.queue = rest := by
        rw [show v.conn.cmdRx = _ from Service.cmdRx_serviceIo _, Service.cmdRx_handleCmd]
        rfl
      rw [List.map_cons, List.foldlM_cons, hnext]
      exact ih (s := s.install v) rfl hrest hserving

/-- A round services the whole channel and then drops the entry if its senders are gone. -/
theorem foldlM_round (hconn : s.conn = some c) (hserving : s.serving = false) :
    s.round.foldlM Session.step s = some
      (let v := Service.service s.callers ⟨c, s.socket, s.answers⟩
      if c.cmdRx.closed then
        let w := Service.failPending v
        { s with conn := none, socket := TcpSocket.abort w.socket, answers := w.answers }
      else s.install v) := by
  let first := Service.serviceIo s.callers ⟨c, s.socket, s.answers⟩
  let v := Service.service s.callers ⟨c, s.socket, s.answers⟩
  have hbegin : s.step .serviceBegin = some { s.install first with serving := true } := by
    simp [Session.step, serviceBegin, hconn, hserving, first]
  have hqueue : first.conn.cmdRx.queue = c.cmdRx.queue := by
    rw [show first.conn.cmdRx = c.cmdRx from Service.cmdRx_serviceIo _]
  have hloop := foldlM_serviceNext (s := { s.install first with serving := true }) rfl hqueue rfl
  have hcmdRx : v.conn.cmdRx = { c.cmdRx with queue := [] } := Service.cmdRx_service _ _
  have hend : Session.step { s.install v with serving := true } .serviceEnd = some
      (if c.cmdRx.closed then
        { s with
          conn := none
          socket := TcpSocket.abort (Service.failPending v).socket
          answers := (Service.failPending v).answers }
      else s.install v) := by
    rcases hclosed : c.cmdRx.closed <;>
      simp [Session.step, serviceEnd, install, hcmdRx, CmdReceiver.isEmpty, CmdReceiver.isClosed, hclosed,
        hserving]
  rw [round, hconn, List.cons_append, List.foldlM_cons, hbegin, Option.bind_eq_bind, Option.bind_some,
    Option.elim_some, List.foldlM_append, hloop]
  exact (List.foldlM_cons ..).trans (congrArg (· >>= _) hend)

/-- The actor's call on an entry does to the connection what the steps of the session's round do. -/
theorem At.serviceEntry {a b : NetstackActor σ} {handle : SocketHandle} {callers : ChanId → Callers}
    (h : At s a handle) (hserving : s.serving = false)
    (hcallers : ∀ c, s.conn = some c → callers c.cmdRx.chan = s.callers)
    (hstep : NetstackActor.serviceEntry callers a handle = some b) :
    ∃ t, s.round.foldlM Session.step s = some t ∧ At t b handle ∧ t.serving = false := by
  cases NetstackActor.entryStep_of_serviceEntry hstep with
  | kept c slot v hconn hslot hv hopen =>
      have hsconn := h.conn.trans hconn
      have hv' : v = Service.service s.callers ⟨c, s.socket, s.answers⟩ := by
        rw [hv, hcallers c hsconn, h.socket slot hslot, h.answers c hsconn]
      refine ⟨s.install v, ?_, ⟨?_, ?_, ?_⟩, hserving⟩
      · rw [foldlM_round hsconn hserving, ← hv', hopen]
        rfl
      · exact (AList.lookup_insert a.conns).symm
      · intro slot' hslot'
        rw [AList.lookup_insert] at hslot'
        cases hslot'
        rfl
      · intro c' hc'
        cases hc'
        have hchan : v.conn.cmdRx.chan = c.cmdRx.chan := by rw [hv, Service.cmdRx_service]
        rw [hchan]
        exact (Function.update_self c.cmdRx.chan v.answers a.answers).symm
  | dropped c slot v hconn hslot hv hclosed =>
      have hsconn := h.conn.trans hconn
      have hv' : v = Service.service s.callers ⟨c, s.socket, s.answers⟩ := by
        rw [hv, hcallers c hsconn, h.socket slot hslot, h.answers c hsconn]
      refine ⟨{ s with
        conn := none
        socket := TcpSocket.abort (Service.failPending v).socket
        answers := (Service.failPending v).answers }, ?_, ⟨?_, ?_, nofun⟩, hserving⟩
      · rw [foldlM_round hsconn hserving, ← hv', hclosed]
        rfl
      · exact (AList.lookup_erase handle a.conns).symm
      · intro slot' hslot'
        cases (AList.lookup_erase handle a.sockets).symm.trans hslot'

end Session

end SmoltcpSocks
