import SmoltcpSocks.Socks5Grammar

/-! Whether the handshake accepts only servers that keep to RFC 1928 and RFC 1929. What a server says is read
off its stream by a decoder that is written from the RFCs. The client looks at the version of the method
selection, at the status and at the reply code; it passes over four other bytes. -/

namespace SmoltcpSocks.Socks5

open ByteStream

/-- What a server says, up to the reserved byte of its reply to CONNECT. -/
structure ServerMessages where
  method : UInt8
  /-- VER and STATUS of the sub-negotiation, if there was one. -/
  status : Option (UInt8 × UInt8)
  version : UInt8
  reply : UInt8
  reserved : UInt8
  deriving DecidableEq

/-- VER, METHOD, then VER, STATUS if the method is user/password, then VER, REP, RSV. -/
def decodeServer : List UInt8 → Option ServerMessages
  | _ :: method :: rest =>
      if method = 0x02 then
        match rest with
        | ver :: status :: version :: reply :: reserved :: _ =>
            some ⟨method, some (ver, status), version, reply, reserved⟩
        | _ => none
      else
        match rest with
        | version :: reply :: reserved :: _ => some ⟨method, none, version, reply, reserved⟩
        | _ => none
  | _ => none

/-- The messages are those of a server that keeps to the RFCs with a client that has these credentials. -/
structure ServerMessages.Regular (user : Option Credentials) (messages : ServerMessages) : Prop where
  method : messages.method = offered user
  status : ∀ status, messages.status = some status → status.1 = 0x01
  version : messages.version = 0x05
  reserved : messages.reserved = 0x00

/-- The server's transcript conforms to the RFCs. -/
def Conforms (user : Option Credentials) (s : List UInt8) : Prop :=
  ∃ messages, decodeServer s = some messages ∧ messages.Regular user

/-- One of the bytes that the client passes over is not the one of the RFCs: the method was not offered, the
status or the reply has another version, or the reserved byte is not zero. -/
inductive Irregular (user : Option Credentials) (m : UInt8) (a : List UInt8) (v r : UInt8) : Prop
  | method : m ≠ offered user → Irregular user m a v r
  | status (w : UInt8) : a = [w, 0] → w ≠ 0x01 → Irregular user m a v r
  | version : v ≠ 0x05 → Irregular user m a v r
  | reserved : r ≠ 0x00 → Irregular user m a v r

/-- A stream that passes every check of the client and is irregular in a byte that none of them is about. -/
def Overlooked (user : Option Credentials) (s : List UInt8) : Prop :=
  ∃ m a v r t addr port rest, s = [5, m] ++ a ++ [v, 0, r, t] ++ addr ++ port ++ rest ∧
    MethodPhase user m a ∧ Address t addr ∧ port.length = 2 ∧ Irregular user m a v r

variable {user : Option Credentials} {m : UInt8} {a : List UInt8}

/-- The messages on a stream that passes the checks of the client. -/
theorem decodeServer_of_methodPhase (hphase : MethodPhase user m a) (v r : UInt8) (tail : List UInt8) :
    ∃ status, decodeServer ([5, m] ++ a ++ [v, 0, r] ++ tail) = some ⟨m, status, v, 0, r⟩ ∧
      ∀ st, status = some st ↔ ∃ w, a = [w, 0] ∧ st = (w, 0) := by
  rcases hphase with ⟨rfl, rfl⟩ | ⟨rfl, creds, w, _, _, rfl⟩
  · exact ⟨none, rfl, fun _ => by simp⟩
  · exact ⟨some (w, 0), rfl, fun _ => by simp [eq_comm]⟩

theorem conforms_iff (hphase : MethodPhase user m a) (v r : UInt8) (tail : List UInt8) :
    Conforms user ([5, m] ++ a ++ [v, 0, r] ++ tail) ↔ ¬ Irregular user m a v r := by
  obtain ⟨status, hdecode, hstatus⟩ := decodeServer_of_methodPhase hphase v r tail
  constructor
  · rintro ⟨messages, hmessages, hregular⟩ hirregular
    cases hdecode.symm.trans hmessages
    cases hirregular with
    | method hne => exact hne hregular.method
    | status w ha hne => exact hne (hregular.status _ ((hstatus _).mpr ⟨w, ha, rfl⟩))
    | version hne => exact hne hregular.version
    | reserved hne => exact hne hregular.reserved
  · intro hregular
    refine ⟨_, hdecode, ?_, ?_, ?_, ?_⟩
    · exact not_not.mp fun hne => hregular (.method hne)
    · intro st hst
      obtain ⟨w, ha, rfl⟩ := (hstatus st).mp hst
      exact not_not.mp fun hne => hregular (.status w ha hne)
    · exact not_not.mp fun hne => hregular (.version hne)
    · exact not_not.mp fun hne => hregular (.reserved hne)

/-- What the handshake accepts conforms to the RFCs exactly when it overlooks nothing. -/
theorem accepted_conforms_iff (target : SocketAddr) (user : Option Credentials) (s : List UInt8)
    (ending : HandshakeError) :
    ((clientHandshake target user (.sending s ending)).1 = .ok () → Conforms user s) ↔ ¬ Overlooked user s := by
  constructor
  · rintro h ⟨m, a, v, r, t, addr, port, rest, hs, hphase, haddr, hport, hirregular⟩
    have hok : clientHandshake target user (.sending s ending) = (.ok (), _) :=
      (clientHandshake_ok_iff rfl).mpr ⟨m, a, v, r, t, addr, port, rest, hs, hphase, haddr, hport, rfl⟩
    have hconforms := h (congrArg Prod.fst hok)
    refine (conforms_iff hphase v r (t :: addr ++ port ++ rest)).mp ?_ hirregular
    simpa [hs] using hconforms
  · intro hnot hok
    obtain ⟨m, a, v, r, t, addr, port, rest, hs, hphase, haddr, hport, _⟩ :=
      (clientHandshake_ok_iff rfl).mp (Prod.ext hok rfl)
    have hregular : ¬ Irregular user m a v r := fun hirregular =>
      hnot ⟨m, a, v, r, t, addr, port, rest, hs, hphase, haddr, hport, hirregular⟩
    have hconforms := (conforms_iff hphase v r (t :: addr ++ port ++ rest)).mpr hregular
    rw [show s = _ from hs]
    simpa using hconforms

/-- Each of the four bytes by itself: the reply of another version or with a reserved byte, a status of another
version, and no authentication for a client that offers nothing but user/password. -/
theorem not_accepted_conforms :
    let target : SocketAddr := ⟨.v4 #v[93, 184, 216, 34], 443⟩
    let bob : Credentials := ⟨"bob", "hunter2"⟩
    ∀ entry ∈ [(none, [5, 0, 4, 0, 0, 1, 0, 0, 0, 0, 0, 0]), (none, [5, 0, 5, 0, 7, 1, 0, 0, 0, 0, 0, 0]),
        (some bob, [5, 2, 9, 0, 5, 0, 0, 1, 0, 0, 0, 0, 0, 0]), (some bob, [5, 0, 5, 0, 0, 1, 0, 0, 0, 0, 0, 0])],
      (clientHandshake target entry.1 (.sending entry.2 (.msg "eof"))).1 = .ok () ∧ ¬ Conforms entry.1 entry.2 := by
  intro target bob
  simp only [List.forall_mem_cons, List.not_mem_nil, false_implies, implies_true, and_true]
  refine ⟨⟨by rfl, ?_⟩, ⟨by rfl, ?_⟩, ⟨by decide +kernel, ?_⟩, by rfl, ?_⟩
  · rintro ⟨_, ⟨⟩, hregular⟩
    exact absurd hregular.version (by decide)
  · rintro ⟨_, ⟨⟩, hregular⟩
    exact absurd hregular.reserved (by decide)
  · rintro ⟨_, ⟨⟩, hregular⟩
    exact absurd (hregular.status _ rfl) (by decide)
  · rintro ⟨_, ⟨⟩, hregular⟩
    exact absurd hregular.method (by decide)

end SmoltcpSocks.Socks5
