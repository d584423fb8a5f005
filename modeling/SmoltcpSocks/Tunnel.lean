import SmoltcpSocks.Socks5Dial
import SmoltcpSocks.SystemRun

/-! The program as a tunnel: the dial of `pipe` is the one of `Socks5Proxy::connect`, and what goes over the
connection to the SOCKS5 server is put together from its two users, the handshake and the relay. A server that
decodes it after the RFCs learns the destination of the client and is left with the client's bytes. -/

namespace SmoltcpSocks

open TcpSocket ByteStream Socks5

/-- `pipe` has an upstream, or had one. -/
def PipePoint.connected : PipePoint → Bool
  | .dial | .returned (.error _) => false
  | _ => true

namespace Socks5

variable {target : SocketAddr} {user : Option Credentials} {s rest : List UInt8}

theorem Accepts.methodSucceeds (h : Accepts user s rest) : MethodSucceeds user s := by
  obtain ⟨m, a, v, r, t, addr, port, rfl, hphase, _⟩ := h
  obtain ⟨rfl, rfl⟩ | ⟨rfl, creds, w, huser, hsend, rfl⟩ := hphase
  · exact Or.inl rfl
  · exact Or.inr ⟨rfl, ⟨creds, huser, hsend⟩, rfl⟩

/-- A server that accepted decodes the whole transcript and is left with what was written behind it. -/
theorem decodeClient_transcript (h : Accepts user s rest) (target : SocketAddr) (tail : List UInt8) :
    decodeClient (selected s) (transcript target user s ++ tail) = some (disclosed target user s, tail) := by
  have hmethod := h.methodSucceeds
  have hconnect : decodeAny decodeConnect (connectRequest target ++ tail) =
      some (some (.ip target.ip, target.port), tail) :=
    decodeAny_of_some (decodeConnect_writeRequest target.ip target.port tail)
      (List.append_ne_nil_of_left_ne_nil (connectRequest_ne_nil target) _)
  have hdecode := decodeGreeting_append (offered user) (authSent user (selected s) ++ (connectRequest target ++ tail))
  rw [transcript, List.append_assoc, List.append_assoc, decodeClient, hdecode]
  rcases hmethod with hzero | ⟨hselects, ⟨creds, rfl, hsend⟩, hstatus⟩
  · have hselected := selected_of_take hzero
    have hnot : ¬ SelectsUserPass s := by
      intro hselects
      cases hselected.symm.trans (selected_of_take hselects)
    have hsucceeds : MethodSucceeds user s := Or.inl hzero
    rw [hselected, authSent_of_ne (by decide)]
    simp [disclosed, hnot, hsucceeds, hconnect]
  · have hselected := selected_of_take hselects
    have hcreds : SelectsUserPass s ∧ HasCredentials (some creds) := ⟨hselects, creds, rfl, hsend⟩
    have hsucceeds : MethodSucceeds (some creds) s := Or.inr ⟨hselects, hcreds.2, hstatus⟩
    have hauth := decodeAny_of_some
      (decodeAuth_authMessage hsend.1.2 hsend.2.2 (connectRequest target ++ tail)) (by simp [authMessage])
    rw [hselected, authSent_eq, if_pos ⟨rfl, hcreds.2⟩]
    simp [disclosed, hcreds, hsucceeds, hconnect, authOf, hauth]

end Socks5

namespace Session

variable {σ : Type}

/-- The dial of `pipe` ends as `connect` does, and upstream then sends what `connect` left of the server's stream. -/
def DialEnds (dialled : Except IoError Upstream) (result : Except IoError Unit) (incoming : List UInt8) : Prop :=
  match dialled with
  | .ok up => result = .ok () ∧ incoming = up.stream.unread
  | .error e => result = .error e

instance (dialled : Except IoError Upstream) (result : Except IoError Unit) (incoming : List UInt8) :
    Decidable (DialEnds dialled result incoming) :=
  match dialled with
  | .ok _ => inferInstanceAs (Decidable (_ ∧ _))
  | .error _ => inferInstanceAs (Decidable (_ = _))

/-- A connection is dialled through `Socks5Proxy::connect`, `network` being what becomes of its TCP connection. -/
def DialsThrough (proxy : Socks5Proxy) (network : ChanId → String → Except IoError TcpStream) (s : Session σ) :
    SessionAction σ → Prop
  | .connect result => DialEnds (proxy.connect (network s.vconn.cmd) s.vconn.destination) result s.incoming
  | _ => True

instance (proxy : Socks5Proxy) (network : ChanId → String → Except IoError TcpStream) (s : Session σ) :
    (a : SessionAction σ) → Decidable (s.DialsThrough proxy network a)
  | .connect _ => inferInstanceAs (Decidable (DialEnds _ _ _))
  | .poll _ _ | .serviceBegin | .serviceNext | .serviceEnd | .stop | .readSend | .readRecv | .writeSome _
  | .writeFail _ | .flush | .srcRead _ | .srcEof | .srcFail _ | .writeSend | .writeRecv | .closeWriteSend
  | .closeWriteRecv | .join | .closeSend | .closeRecv => inferInstanceAs (Decidable True)

/-- What is in flight, together with how the connection came to its upstream. -/
structure Tunnelled (proxy : Socks5Proxy) (network : ChanId → String → Except IoError TcpStream)
    (upstream : List UInt8) (s : Session σ) : Prop where
  down : Down upstream s
  connected : s.pipe.connected = true →
    ∃ up, proxy.connect (network s.vconn.cmd) s.vconn.destination = .ok up ∧ up.stream.unread = upstream
  idle : s.pipe.connected = false → s.writer = [] ∧ s.received = []
  failed : ∀ error, s.pipe = .returned (.error error) →
    ∃ e, proxy.connect (network s.vconn.cmd) s.vconn.destination = .error e ∧ error = .dial s.vconn.destination e

variable {proxy : Socks5Proxy} {network : ChanId → String → Except IoError TcpStream} {upstream : List UInt8}
  {s t : Session σ} {a : SessionAction σ}

/-- A step that leaves `pipe` where it is. -/
theorem Tunnelled.frame (h : Tunnelled proxy network upstream s) (hdown : Down upstream t)
    (hvconn : t.vconn = s.vconn) (hpipe : t.pipe = s.pipe)
    (hkept : s.pipe = .join ∨ (t.writer = s.writer ∧ t.received = s.received)) :
    Tunnelled proxy network upstream t := by
  refine ⟨hdown, ?_, ?_, ?_⟩
  · rw [hpipe, hvconn]
    exact h.connected
  · intro hidle
    rw [hpipe] at hidle
    rcases hkept with hjoin | ⟨hwriter, hreceived⟩
    · rw [hjoin] at hidle
      cases hidle
    · rw [hwriter, hreceived]
      exact h.idle hidle
  · rw [hpipe, hvconn]
    exact h.failed

theorem Tunnelled.behindDial (h : Tunnelled proxy network upstream s) (hdown : Down upstream t)
    (hvconn : t.vconn = s.vconn) (hs : s.pipe.connected = true) (ht : t.pipe.connected = true) :
    Tunnelled proxy network upstream t := by
  refine ⟨hdown, fun _ => ?_, fun hidle => ?_, fun error hpipe => ?_⟩
  · rw [hvconn]
    exact h.connected hs
  · cases ht.symm.trans hidle
  · rw [hpipe] at ht
    cases ht

theorem Tunnelled.accepted (vconn : VConn) (socket : σ) (client upstream : List UInt8) :
    Tunnelled proxy network upstream (Session.accepted vconn socket client upstream) := by
  refine ⟨.accepted vconn socket client upstream, ?_, fun _ => ⟨rfl, rfl⟩, ?_⟩
  · intro hconnected
    cases hconnected
  · intro error herror
    cases herror

variable [TcpSocket σ] [LawfulTcpSocket σ]

theorem Tunnelled.step (h : Tunnelled proxy network upstream s) (hdials : s.DialsThrough proxy network a)
    (hstep : s.step a = some t) : Tunnelled proxy network upstream t := by
  have hdown := h.down.step hstep
  have hflight := h.down.flight
  cases step_move hstep with
  | serviceBegin _ hbegin =>
      obtain ⟨c, _, _, rfl⟩ := serviceBegin_cases hbegin
      exact h.frame hdown rfl rfl (Or.inr ⟨rfl, rfl⟩)
  | serviceNext _ hnext =>
      obtain ⟨c, cmd, rest, _, _, _, rfl⟩ := serviceNext_cases hnext
      exact h.frame hdown rfl rfl (Or.inr ⟨rfl, rfl⟩)
  | poll | serviceEnd | serviceDrop | stop | readSend | readGone | readRecv | writeFail | srcEof | srcFail
  | writeSend | writeGone | writeRecv | closeWriteSend | closeWriteGone | closeWriteRecv =>
      exact h.frame hdown rfl rfl (Or.inr ⟨rfl, rfl⟩)
  | writeSome n rest hup =>
      exact h.frame hdown rfl rfl (Or.inl (hflight.join_of_up hup (by simp) rfl))
  | flush hup => exact h.frame hdown rfl rfl (Or.inl (hflight.join_of_up hup (by simp) rfl))
  | srcRead n chunk rest hpipe => exact h.frame hdown rfl rfl (Or.inl hpipe)
  | connect hpipe =>
      rcases hconnect : proxy.connect (network s.vconn.cmd) s.vconn.destination with e | up <;>
        simp only [DialsThrough, DialEnds, hconnect] at hdials
      · cases hdials
      · have hreceived := (h.idle (by rw [hpipe]; rfl)).2
        refine ⟨hdown, ?_, ?_, ?_⟩
        · intro _
          refine ⟨up, hconnect, ?_⟩
          rw [← hdials.2, ← h.down.account, hreceived, List.nil_append]
        · intro hidle
          cases hidle
        · intro error herror
          cases herror
  | connectFail e hpipe =>
      rcases hconnect : proxy.connect (network s.vconn.cmd) s.vconn.destination with e' | up <;>
        simp only [DialsThrough, DialEnds, hconnect] at hdials
      · cases hdials
        refine ⟨hdown, ?_, fun _ => h.idle (by rw [hpipe]; rfl), ?_⟩
        · intro hconnected
          cases hconnected
        · intro error herror
          cases herror
          exact ⟨e, hconnect, rfl⟩
      · cases hdials.1
  | join hpipe => exact h.behindDial hdown rfl (by rw [hpipe]; rfl) rfl
  | closeSend c hpipe => exact h.behindDial hdown rfl (by rw [hpipe]; rfl) rfl
  | closeGone hpipe => exact h.behindDial hdown rfl (by rw [hpipe]; rfl) rfl
  | closeRecv reply result rest hpipe => exact h.behindDial hdown rfl (by rw [hpipe]; rfl) rfl

end Session

namespace System

variable {σ : Type} [TcpSocket σ] [LawfulTcpSocket σ] {start : Alloc σ}

/-- Every connection of every run is tunnelled. Once its dial has succeeded, the server has accepted, the bytes that
went to it decode to the greeting, the credentials it asked for and the request for the destination that the
client connected to, followed by exactly the bytes given by the relay; these are a prefix of the client's stream,
and the client is sent a prefix of what follows the server's reply. Before that, and after a dial that failed,
nothing has passed in either direction. -/
theorem tunnel_carries_each_connection (hstart : start.Fresh) (proxy : Socks5Proxy)
    (network : ChanId → String → Except IoError TcpStream) :
    ∃ sys₀ : System σ, spawn start = some sys₀ ∧ ∀ trace sys,
      Runs (fun s a => s.ArrivesInOrder a ∧ s.DialsThrough proxy network a) sys₀ trace sys →
      ∀ chan s, sys.view chan = some s → ∃ (s₀ : Session σ) (loc : IpEndpoint),
        HandedOverAs (fun s a => s.ArrivesInOrder a ∧ s.DialsThrough proxy network a) sys₀ trace sys chan s₀ ∧
        localEndpoint s₀.socket = some loc ∧
        (s.pipe.connected = true → ∃ up stream rest,
          proxy.connect (network chan) ⟨loc.addr, loc.port⟩ = .ok up ∧
          network chan proxy.serverAddr = .ok stream ∧ Accepts proxy.creds stream.sends rest ∧
          decodeClient (selected stream.sends) (up.stream.written ++ s.given) =
            some (disclosed ⟨loc.addr, loc.port⟩ proxy.creds stream.sends, s.given) ∧
          (disclosed ⟨loc.addr, loc.port⟩ proxy.creds stream.sends).connect = some (.ip loc.addr, loc.port) ∧
          s.given <+: s₀.unread ∧ (s.up = .returned (.ok ()) → s.given = s₀.unread) ∧
          s.socket.sent <+: rest ∧ (s.down = .returned (.ok ()) → s.socket.sent = rest)) ∧
        (s.pipe.connected = false → s.given = [] ∧ s.socket.sent = [] ∧
          ∀ error, s.pipe = .returned (.error error) → ∃ e,
            proxy.connect (network chan) ⟨loc.addr, loc.port⟩ = .error e ∧
            error = .dial ⟨loc.addr, loc.port⟩ e) := by
  obtain ⟨a, ha, _, _, hordered⟩ := spawn_eq hstart
  refine ⟨_, ha, fun trace sys hrun chan s hview => ?_⟩
  obtain ⟨s₀, ctrace, hborn, ⟨loc, remote, socket, client, incoming, rfl, _, hloc, _, hfin⟩, hsrun⟩ :=
    hordered.session_run rfl hrun hview
  have hup := Session.Up.of_run hfin (hsrun.mono fun _ _ _ h => h.1)
  have htunnel : Session.Tunnelled proxy network incoming s :=
    hsrun.invariant (fun _ _ _ h hallowed hstep => h.step hallowed.2 hstep) (.accepted _ _ _ _)
  have hvconn := vconn_of_run hsrun
  have hdown := htunnel.down.data
  have hsent := hdown.sent_prefix
  refine ⟨_, loc, hborn, hloc, fun hconnected => ?_, fun hidle => ?_⟩
  · obtain ⟨up, hconnect, hunread⟩ := htunnel.connected hconnected
    rw [hvconn] at hconnect
    obtain ⟨stream, rest, hstream, haccepts, _, rfl⟩ := Socks5Proxy.connect_ok_iff.mp hconnect
    obtain rfl : rest = incoming := hunread
    refine ⟨_, stream, rest, hconnect, hstream, haccepts, decodeClient_transcript haccepts _ s.given,
      if_pos haccepts.methodSucceeds, hup.data.given_prefix, ?_, ?_, ?_⟩
    · intro hok
      have hdata := hup.data
      rw [hok] at hdata
      exact hdata.1
    · rw [← htunnel.down.account]
      exact hsent.trans (List.prefix_append _ _)
    · intro hok
      rw [hok] at hdown
      obtain ⟨hall, hincoming, _⟩ := hdown
      rw [hall, ← htunnel.down.account, hincoming, List.append_nil]
  · obtain ⟨hwriter, hreceived⟩ := htunnel.idle hidle
    refine ⟨by rw [Session.given, hwriter]; rfl, ?_, ?_⟩
    · rw [hreceived] at hsent
      exact List.prefix_nil.mp hsent
    · have hfailed := htunnel.failed
      rwa [hvconn] at hfailed

def openServer (data : List UInt8) : TcpStream :=
  ⟨[5, 0] ++ [5, 0, 0, 1, 0, 0, 0, 0, 0, 0] ++ data, ⟨.other, "early eof"⟩, none, none⟩

/-- Two clients behind one proxy: the server of the second has decoded its destination and is left with its byte. -/
theorem tunnel_carries_each_connection_two_clients :
    let proxy : Socks5Proxy := ⟨"127.0.0.1", 1080, none⟩
    let allowed := fun (s : Session BufferedSocket) a =>
      s.ArrivesInOrder a ∧ s.DialsThrough proxy (fun _ _ => .ok (openServer [])) a
    ∃ sys₀ sys : System BufferedSocket, spawn .firstFree = some sys₀ ∧ Runs allowed sys₀ twoClients sys ∧
      ∃ (s s₀ : Session BufferedSocket) (loc : IpEndpoint) (up : Upstream) (messages : ClientMessages),
        sys.view 1 = some s ∧ s.given = [8] ∧ HandedOverAs allowed sys₀ twoClients sys 1 s₀ ∧
        localEndpoint s₀.socket = some loc ∧
        proxy.connect (fun _ => .ok (openServer [])) ⟨loc.addr, loc.port⟩ = .ok up ∧
        messages.connect = some (.ip loc.addr, loc.port) ∧
        decodeClient 0 (up.stream.written ++ s.given) = some (messages, [8]) := by
  intro proxy allowed
  have hexec : ((spawn .firstFree).bind fun sys => Transition.execute System.step
      (Everywhere fun s a => s.ArrivesInOrder a ∧ s.DialsThrough proxy (fun _ _ => .ok (openServer [])) a) sys
      twoClients).any (fun sys => decide ((sys.view 1).map (fun s => (s.given, s.pipe.connected)) =
        some ([8], true))) = true := by
    decide +kernel
  obtain ⟨sys₀, sys, hspawn, hrun, hs⟩ := exists_run_of_execute twoClients_fresh hexec
  obtain ⟨s, hview, hs⟩ := Option.map_eq_some_iff.mp (of_decide_eq_true hs)
  obtain ⟨hgiven, hconnected⟩ := Prod.mk.inj hs
  obtain ⟨sys₁, hspawn₁, hall⟩ := tunnel_carries_each_connection (σ := BufferedSocket) Alloc.firstFree_fresh proxy
    fun _ _ => .ok (openServer [])
  cases hspawn.symm.trans hspawn₁
  obtain ⟨s₀, loc, hborn, hloc, hup, _⟩ := hall twoClients sys hrun 1 s hview
  obtain ⟨up, _, _, hconnect, hstream, _, hdecode, hdst, _⟩ := hup hconnected
  cases hstream
  refine ⟨sys₀, sys, hspawn, hrun, s, s₀, loc, up, disclosed ⟨loc.addr, loc.port⟩ none (openServer []).sends, hview,
    hgiven, hborn, hloc, hconnect, hdst, ?_⟩
  rw [hgiven] at hdecode ⊢
  exact hdecode

end System

end SmoltcpSocks
