import SmoltcpSocks.StreamProgram
import SmoltcpSocks.ProxyUrl
import SmoltcpSocks.Socks5Transcript

/-! `Socks5Proxy::connect`: the TCP connection to the SOCKS5 server and the handshake over it. The server may break
off at any byte, in what it sends and in what it takes. -/

namespace SmoltcpSocks

open ByteStream Socks5

/-- The text of an `anyhow::Error` of the handshake. -/
def Socks5.HandshakeError.display : HandshakeError → String
  | .io e => e.message
  | .msg text => text

/-- A TCP connection to a server: what the server will send and the error of a read past its end, after how many
bytes writes fail, and the local address as far as the system tells it. -/
structure TcpStream where
  sends : List UInt8
  ending : IoError
  refuse : Option (Nat × IoError)
  localAddr : Option SocketAddr

namespace TcpStream

def peer (stream : TcpStream) : Peer HandshakeError where
  unread := stream.sends
  ending := .io stream.ending
  written := []
  refuse := stream.refuse.map fun (room, e) => (room, .io e)

def HasRoom (stream : TcpStream) (n : Nat) : Prop := ∀ room e, stream.refuse = some (room, e) → n ≤ room

end TcpStream

/-- The upstream end of a proxied connection. -/
structure Upstream where
  stream : Peer HandshakeError
  localAddr : SocketAddr

/-- `Socks5Proxy::connect`, with what `TcpStream::connect` comes to at each address. -/
def Socks5Proxy.connect (proxy : Socks5Proxy) (tcpConnect : String → Except IoError TcpStream)
    (target : SocketAddr) : Except IoError Upstream :=
  let addr := proxy.serverAddr
  match tcpConnect addr with
  | .error e => .error ⟨.other, "connect socks5 " ++ addr ++ ": " ++ e.message⟩
  | .ok stream =>
      let localAddr := stream.localAddr.getD ⟨target.ip, 0⟩
      match proxy.handshake target stream.peer with
      | (.error e, _) => .error ⟨.other, "socks5 handshake: " ++ e.display⟩
      | (.ok (), peer) => .ok ⟨peer, localAddr⟩

namespace Socks5

theorem program_authUserpass (creds : Credentials) : Program (authUserpass creds) := by
  unfold authUserpass
  simp only
  split_ifs
  · exact .bail _
  · exact .bail _
  · refine (Program.writeAll _).bind fun _ => (Program.readExact 2).bind fun status => ?_
    split_ifs
    · exact .bail _
    · exact .pure _

theorem program_selectMethod (user : Option Credentials) (selected : UInt8) : Program (selectMethod user selected) := by
  unfold selectMethod
  split_ifs
  · rcases user with _ | creds
    · exact .bail _
    · exact program_authUserpass creds
  · exact .pure _
  · exact .bail _
  · exact .bail _

theorem program_readReply : Program readReply := by
  refine (Program.readExact 3).bind fun rep => ?_
  split_ifs
  · exact .bail _
  · refine (Program.readExact 1).bind fun atyp => .bind ?_ fun skip => (Program.readExact _).bind fun _ => .pure _
    unfold addressSkip
    split_ifs
    · exact .pure _
    · exact .pure _
    · exact (Program.readExact 1).bind fun _ => .pure _
    · exact .bail _

theorem program_clientHandshake (target : SocketAddr) (user : Option Credentials) :
    Program (clientHandshake target user) := by
  refine (Program.writeAll _).bind fun _ => (Program.readExact 2).bind fun greeting => ?_
  split_ifs
  · exact .bail _
  · exact (program_selectMethod user _).bind fun _ => (Program.writeAll _).bind fun _ => program_readReply

theorem consumes_selectMethod (user : Option Credentials) (selected : UInt8) :
    Consumes 2 (selectMethod user selected) := by
  unfold selectMethod
  split_ifs
  · rcases user with _ | creds
    · exact (Consumes.bail _).mono (by decide)
    · simp only [authUserpass]
      split_ifs
      · exact (Consumes.bail _).mono (by decide)
      · exact (Consumes.bail _).mono (by decide)
      · refine (Consumes.writeAll _).bind (n := 2) fun _ _ _ _ => ?_
        refine (Consumes.readExact 2).bind (n := 0) fun status _ _ _ => ?_
        split_ifs
        · exact .bail _
        · exact .pure _
  · exact (Consumes.pure _).mono (by decide)
  · exact (Consumes.bail _).mono (by decide)
  · exact (Consumes.bail _).mono (by decide)

/-- The address of a reply has at most 255 bytes, with its length in front of it if it is a name. -/
theorem addressSkip_le {atyp : UInt8} {skip : Nat} {p q : Peer HandshakeError}
    (h : addressSkip atyp p = (.ok skip, q)) : skip ≤ 255 := by
  unfold addressSkip at h
  split_ifs at h
  · cases h
    decide
  · cases h
    decide
  · obtain ⟨len, r, _, h⟩ := ok_bind_iff.mp h
    cases h
    have := len[0].toNat_lt
    omega
  · cases h

theorem consumes_addressSkip (atyp : UInt8) : Consumes 1 (addressSkip atyp) := by
  unfold addressSkip
  split_ifs
  · exact (Consumes.pure _).mono (by decide)
  · exact (Consumes.pure _).mono (by decide)
  · exact (Consumes.readExact 1).bind fun _ _ _ _ => .pure _
  · exact (Consumes.bail _).mono (by decide)

theorem consumes_readReply : Consumes 262 readReply := by
  refine (Consumes.readExact 3).bind (n := 259) fun rep _ _ _ => ?_
  split_ifs
  · exact (Consumes.bail _).mono (by decide)
  · refine (Consumes.readExact 1).bind (n := 258) fun atyp _ _ _ => ?_
    refine (consumes_addressSkip _).bind (n := 257) fun skip _ _ hskip => ?_
    refine ((Consumes.readExact _).bind fun _ _ _ _ => .pure _).mono ?_
    have := addressSkip_le hskip
    omega

/-- The longest answer the handshake can read: the method, the status of the sub-negotiation and a reply with a name
of 255 bytes. -/
def MAX_ANSWER : Nat := 266

theorem consumes_clientHandshake (target : SocketAddr) (user : Option Credentials) :
    Consumes MAX_ANSWER (clientHandshake target user) := by
  refine (Consumes.writeAll _).bind (n := 266) fun _ _ _ _ => ?_
  refine (Consumes.readExact 2).bind (n := 264) fun greeting _ _ _ => ?_
  split_ifs
  · exact (Consumes.bail _).mono (by decide)
  · refine (consumes_selectMethod user _).bind (n := 262) fun _ _ _ _ => ?_
    exact (Consumes.writeAll _).bind fun _ _ _ _ => consumes_readReply

/-- What a server that accepts the connection is sent before the proxied data. -/
def transcript (target : SocketAddr) (user : Option Credentials) (s : List UInt8) : List UInt8 :=
  [VERSION, 0x01, offered user] ++ authSent user (selected s) ++ connectRequest target

variable {q : Peer HandshakeError}

/-- What a server is sent, wherever the handshake ends, begins the transcript. -/
theorem written_sending_begins (target : SocketAddr) (user : Option Credentials) (s : List UInt8)
    (ending : HandshakeError) :
    (clientHandshake target user (.sending s ending)).2.written <+: transcript target user s := by
  rw [written_clientHandshake, transcript]
  by_cases hauth : SelectsUserPass s ∧ HasCredentials user
  · have hsent : authSent user (selected s) = authOf user := by
      rw [authSent_eq, if_pos ⟨selected_of_take hauth.1, hauth.2⟩]
    rw [if_pos hauth, hsent]
    split_ifs
    · exact List.prefix_rfl
    · rw [List.append_nil]
      exact List.prefix_append _ _
  · rw [if_neg hauth, List.append_nil]
    by_cases hmethod : MethodSucceeds user s
    · rcases hmethod with hzero | ⟨hselects, hcreds, _⟩
      · have hsent : authSent user (selected s) = [] := by
          rw [selected_of_take hzero]
          exact authSent_of_ne (by decide)
        have hsucceeds : MethodSucceeds user s := Or.inl hzero
        rw [if_pos hsucceeds, hsent, List.append_nil]
      · exact absurd ⟨hselects, hcreds⟩ hauth
    · rw [if_neg hmethod, List.append_nil, List.append_assoc]
      exact List.prefix_append _ _

theorem clientHandshake_accepting_iff (target : SocketAddr) (user : Option Credentials) (stream : TcpStream)
    (h : stream.refuse = none) :
    clientHandshake target user stream.peer = (.ok (), q) ↔ ∃ rest, Accepts user stream.sends rest ∧
      q = ⟨rest, .io stream.ending, transcript target user stream.sends, none⟩ := by
  have hpeer : stream.peer = ⟨stream.sends, .io stream.ending, [], none⟩ := by
    rw [TcpStream.peer, h]
    rfl
  have htranscript {m : UInt8} {tail : List UInt8} (hsends : stream.sends = [5, m] ++ tail) :
      transcript target user stream.sends =
        [] ++ [VERSION, 0x01, offered user] ++ authSent user m ++ connectRequest target := by
    rw [transcript, selected_of_take (v := 5) (by rw [hsends]; rfl)]
    rfl
  rw [hpeer, clientHandshake_ok_iff rfl]
  constructor
  · rintro ⟨m, a, v, r, t, addr, port, rest, hsends, hphase, haddr, hport, rfl⟩
    refine ⟨rest, ⟨m, a, v, r, t, addr, port, hsends, hphase, haddr, hport⟩, ?_⟩
    rw [htranscript (by simpa only [List.append_assoc] using hsends)]
  · rintro ⟨rest, ⟨m, a, v, r, t, addr, port, hsends, hphase, haddr, hport⟩, rfl⟩
    refine ⟨m, a, v, r, t, addr, port, rest, hsends, hphase, haddr, hport, ?_⟩
    rw [htranscript (by simpa only [List.append_assoc] using hsends)]

/-- The handshake succeeds when the server's answer is in the grammar and it takes the whole transcript. -/
theorem clientHandshake_peer_iff (target : SocketAddr) (user : Option Credentials) (stream : TcpStream) :
    clientHandshake target user stream.peer = (.ok (), q) ↔ ∃ rest, Accepts user stream.sends rest ∧
      stream.HasRoom (transcript target user stream.sends).length ∧
      q = ⟨rest, .io stream.ending, transcript target user stream.sends, stream.refuse.map fun (room, e) =>
        (room - (transcript target user stream.sends).length, .io e)⟩ := by
  rcases hrefuse : stream.refuse with _ | ⟨room, e⟩
  · have hroom : stream.HasRoom (transcript target user stream.sends).length := by
      intro room e h
      cases hrefuse.symm.trans h
    rw [clientHandshake_accepting_iff target user stream hrefuse]
    constructor
    · rintro ⟨rest, hrest, rfl⟩
      exact ⟨rest, hrest, hroom, rfl⟩
    · rintro ⟨rest, hrest, _, rfl⟩
      exact ⟨rest, hrest, rfl⟩
  · have hpeer : stream.peer.refuse = some (room, .io e) := by
      rw [TcpStream.peer, hrefuse]
      rfl
    have hiff {q : Peer HandshakeError} :=
      clientHandshake_accepting_iff target user { stream with refuse := none } (q := q) rfl
    obtain ⟨w, hw, hrun⟩ := (program_clientHandshake target user).refused hpeer
    constructor
    · intro hok
      rw [Refused, hok] at hrun
      split_ifs at hrun with hfits
      · obtain ⟨hresult, rfl⟩ := Prod.mk.inj hrun
        obtain ⟨rest, hrest, hq⟩ := hiff.mp (Prod.ext hresult.symm rfl)
        obtain rfl : w = transcript target user stream.sends := by
          exact hw.symm.trans (congrArg Peer.written hq)
        refine ⟨rest, hrest, ?_, ?_⟩
        · intro room' e' h
          cases hrefuse.symm.trans h
          exact hfits
        · exact congrArg (Peer.withRoom · _ _) hq
      · cases hrun.1
    · rintro ⟨rest, hrest, hroom, rfl⟩
      have hok := hiff.mpr ⟨rest, hrest, rfl⟩
      have haccepting : clientHandshake target user stream.peer.accepting = _ := hok
      rw [haccepting] at hw
      obtain rfl : transcript target user stream.sends = w := hw
      rw [Refused, if_pos (hroom room e hrefuse), haccepting] at hrun
      exact hrun

/-- Whatever the server does, what it is sent begins the transcript. -/
theorem written_begins_transcript (target : SocketAddr) (user : Option Credentials) (stream : TcpStream) :
    (clientHandshake target user stream.peer).2.written <+: transcript target user stream.sends := by
  have hprefix := written_sending_begins target user stream.sends (.io stream.ending)
  rcases hrefuse : stream.refuse with _ | ⟨room, e⟩
  · rwa [show stream.peer = .sending stream.sends (.io stream.ending) by rw [TcpStream.peer, hrefuse]; rfl]
  · have hpeer : stream.peer.refuse = some (room, .io e) := by
      rw [TcpStream.peer, hrefuse]
      rfl
    obtain ⟨w, hw, hrun⟩ := (program_clientHandshake target user).refused hpeer
    have hprefix : w <+: transcript target user stream.sends := by
      rw [← List.nil_append w]
      exact hw ▸ hprefix
    unfold Refused at hrun
    split_ifs at hrun
    · rw [hrun]
      exact hw ▸ hprefix
    · rw [hrun.2]
      exact (List.take_prefix room w).trans hprefix

end Socks5

namespace Socks5Proxy

variable {proxy : Socks5Proxy} {tcpConnect : String → Except IoError TcpStream} {target : SocketAddr}
  {stream : TcpStream} {up : Upstream}

/-- What is sent over a connection to the server before the proxied data. -/
def preamble (proxy : Socks5Proxy) (target : SocketAddr) (stream : TcpStream) : List UInt8 :=
  transcript target proxy.creds stream.sends

/-- The connection behind the handshake, `rest` being the proxied data. -/
def upstream (proxy : Socks5Proxy) (target : SocketAddr) (stream : TcpStream) (rest : List UInt8) : Upstream where
  stream :=
    { unread := rest
      ending := .io stream.ending
      written := proxy.preamble target stream
      refuse := stream.refuse.map fun (room, e) => (room - (proxy.preamble target stream).length, .io e) }
  localAddr := stream.localAddr.getD ⟨target.ip, 0⟩

theorem connect_ok_iff : proxy.connect tcpConnect target = .ok up ↔ ∃ stream rest,
    tcpConnect proxy.serverAddr = .ok stream ∧ Accepts proxy.creds stream.sends rest ∧
    stream.HasRoom (proxy.preamble target stream).length ∧ up = proxy.upstream target stream rest := by
  rcases hstream : tcpConnect proxy.serverAddr with e | stream
  · simp only [connect, hstream, reduceCtorEq, false_and, exists_false]
  · have hiff {q : Peer HandshakeError} := clientHandshake_peer_iff target proxy.creds stream (q := q)
    simp only [connect, hstream, handshake, Except.ok.injEq]
    constructor
    · intro h
      rcases hrun : clientHandshake target proxy.creds stream.peer with ⟨e | _, q⟩ <;> rw [hrun] at h <;> cases h
      obtain ⟨rest, hrest, hroom, rfl⟩ := hiff.mp hrun
      exact ⟨stream, rest, rfl, hrest, hroom, rfl⟩
    · rintro ⟨_, rest, rfl, hrest, hroom, rfl⟩
      rw [hiff.mpr ⟨rest, hrest, hroom, rfl⟩]
      rfl

/-- Only the first bytes of the server's stream decide a dial. -/
theorem connect_take (h : tcpConnect proxy.serverAddr = .ok stream) :
    proxy.connect tcpConnect target =
      (proxy.connect (fun _ => .ok { stream with sends := stream.sends.take MAX_ANSWER }) target).map fun up =>
        { up with stream := up.stream.extend (stream.sends.drop MAX_ANSWER) } := by
  have htake := (consumes_clientHandshake target proxy.creds).take stream.peer
  simp only [connect, h, handshake]
  rw [htake]
  change _ = Except.map _ (match clientHandshake target proxy.creds
    { stream.peer with unread := stream.peer.unread.take MAX_ANSWER } with
    | (.error e, _) => _
    | (.ok (), peer) => _)
  rcases clientHandshake target proxy.creds { stream.peer with unread := stream.peer.unread.take MAX_ANSWER }
    with ⟨e | _, q⟩ <;> rfl

/-- A dial succeeds exactly when the server can be reached, answers within the grammar and takes the whole greeting,
sub-negotiation and request; the stream then stands at the first byte of the proxied data. A server that breaks off,
in either direction, has been sent the beginning of these and nothing else, and at most the first 266 bytes of its
stream are seen. -/
theorem dial_outcome (proxy : Socks5Proxy) (tcpConnect : String → Except IoError TcpStream) (target : SocketAddr) :
    (∀ up, proxy.connect tcpConnect target = .ok up ↔ ∃ stream rest,
      tcpConnect proxy.serverAddr = .ok stream ∧ Accepts proxy.creds stream.sends rest ∧
      stream.HasRoom (proxy.preamble target stream).length ∧ up = proxy.upstream target stream rest) ∧
    ∀ stream, tcpConnect proxy.serverAddr = .ok stream →
      (proxy.handshake target stream.peer).2.written <+: proxy.preamble target stream ∧
      proxy.connect tcpConnect target =
        (proxy.connect (fun _ => .ok { stream with sends := stream.sends.take MAX_ANSWER }) target).map fun up =>
          { up with stream := up.stream.extend (stream.sends.drop MAX_ANSWER) } :=
  ⟨fun _ => connect_ok_iff, fun stream hstream =>
    ⟨written_begins_transcript target proxy.creds stream, connect_take hstream⟩⟩

/-- A server that takes one byte less than the greeting and the request have. -/
theorem dial_outcome_one_byte_short :
    let proxy : Socks5Proxy := ⟨"127.0.0.1", 1080, none⟩
    let target : SocketAddr := ⟨.ofOctets 93 184 216 34, 443⟩
    let stream : TcpStream := ⟨[5, 0, 5, 0, 0, 1, 0, 0, 0, 0, 0, 0], ⟨.other, "early eof"⟩,
      some (12, ⟨.other, "broken pipe"⟩), none⟩
    (proxy.preamble target stream).length = 13 ∧
      ¬ ∃ up, proxy.connect (fun _ => .ok stream) target = .ok up := by
  refine ⟨by decide, ?_⟩
  rintro ⟨up, hup⟩
  obtain ⟨_, _, hstream, _, hroom, _⟩ := ((dial_outcome _ _ _).1 up).mp hup
  cases hstream
  exact absurd (hroom 12 _ rfl) (by decide)

end Socks5Proxy

end SmoltcpSocks
