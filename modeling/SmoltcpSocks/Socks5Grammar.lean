import SmoltcpSocks.Socks5

/-! The server streams the handshake accepts: the method phase, the reply to CONNECT and its bound
address, with the position at which the handshake leaves the stream. Each part of the client has one
lemma that says exactly when it is accepted and what it consumes. -/

namespace SmoltcpSocks.Socks5

open ByteStream

/-- Both fields fit behind their length bytes and are not empty. -/
def Credentials.Sendable (creds : Credentials) : Prop :=
  (1 ≤ (asBytes creds.username).length ∧ (asBytes creds.username).length ≤ 255) ∧
    1 ≤ (asBytes creds.password).length ∧ (asBytes creds.password).length ≤ 255

instance (creds : Credentials) : Decidable creds.Sendable := inferInstanceAs (Decidable (_ ∧ _))

/-- An address of the type `t` as it stands in a reply. -/
def Address (t : UInt8) (addr : List UInt8) : Prop :=
  (t = 1 ∧ addr.length = 4) ∨ (t = 4 ∧ addr.length = 16) ∨
    (t = 3 ∧ ∃ n name, addr = n :: name ∧ name.length = n.toNat)

/-- The server's part `a` of the method phase after selecting `m`. -/
def MethodPhase (user : Option Credentials) (m : UInt8) (a : List UInt8) : Prop :=
  (m = 0 ∧ a = []) ∨ (m = 2 ∧ ∃ creds w, user = some creds ∧ creds.Sendable ∧ a = [w, 0])

/-- The streams the handshake is meant to accept, with the proxied data `rest` behind the reply. -/
def Accepts (user : Option Credentials) (s rest : List UInt8) : Prop :=
  ∃ m a v r t addr port, s = [5, m] ++ a ++ [v, 0, r, t] ++ addr ++ port ++ rest ∧
    MethodPhase user m a ∧ Address t addr ∧ port.length = 2

theorem Credentials.sendable_iff (creds : Credentials) : creds.Sendable ↔
    ¬ ((asBytes creds.username).isEmpty ∨ (asBytes creds.password).isEmpty) ∧
      ¬ ((asBytes creds.username).length > 255 ∨ (asBytes creds.password).length > 255) := by
  simp only [Credentials.Sendable, List.isEmpty_iff, ← List.length_eq_zero_iff]
  omega

variable {p q : Peer HandshakeError}

theorem authUserpass_ok_iff {creds : Credentials} (haccept : p.refuse = none) :
    authUserpass creds p = (.ok (), q) ↔ creds.Sendable ∧ ∃ w rest, p.unread = w :: 0 :: rest ∧
      q = { p with
        unread := rest
        written := p.written ++ authMessage (asBytes creds.username) (asBytes creds.password) } := by
  unfold authUserpass
  rw [ok_guard_iff, ok_guard_iff, bind_writeAll haccept, ok_bind_iff, ← and_assoc,
    ← Credentials.sendable_iff]
  refine and_congr_right fun _ => ?_
  constructor
  · rintro ⟨status, q', hread, hstatus⟩
    obtain ⟨rest, hunread, rfl⟩ := readExact_ok_iff.mp hread
    obtain ⟨hzero, hq⟩ := ok_guard_iff.mp hstatus
    cases hq
    rw [toList_two, not_not.mp hzero] at hunread
    exact ⟨status[0], rest, hunread, rfl⟩
  · rintro ⟨w, rest, hunread, rfl⟩
    refine ⟨#v[w, 0], _, readExact_ok_iff.mpr ⟨rest, hunread, rfl⟩, ?_⟩
    exact ok_guard_iff.mpr ⟨by simp, rfl⟩

/-- What the client writes when the server selects a method: the sub-negotiation message, if there is
one to send. -/
def authSent (user : Option Credentials) (selected : UInt8) : List UInt8 :=
  match user with
  | some creds =>
      if selected = Method.USER_PASS ∧ creds.Sendable then
        authMessage (asBytes creds.username) (asBytes creds.password)
      else []
  | none => []

theorem authSent_of_ne {user : Option Credentials} {selected : UInt8}
    (h : selected ≠ Method.USER_PASS) : authSent user selected = [] := by
  cases user <;> simp [authSent, h]

theorem selectMethod_ok_iff {user : Option Credentials} {selected : UInt8} (haccept : p.refuse = none) :
    selectMethod user selected p = (.ok (), q) ↔ ∃ a rest, MethodPhase user selected a ∧
      p.unread = a ++ rest ∧
      q = { p with unread := rest, written := p.written ++ authSent user selected } := by
  unfold selectMethod
  by_cases hpass : selected = Method.USER_PASS
  · rw [if_pos hpass]
    rcases user with _ | creds
    · constructor
      · exact nofun
      · rintro ⟨a, rest, ⟨hzero, _⟩ | ⟨_, creds, w, hnone, _⟩, _⟩
        · cases hzero.symm.trans hpass
        · cases hnone
    · rw [authUserpass_ok_iff haccept]
      constructor
      · rintro ⟨hsend, w, rest, hunread, rfl⟩
        refine ⟨[w, 0], rest, Or.inr ⟨hpass, creds, w, rfl, hsend, rfl⟩, hunread, ?_⟩
        simp [authSent, hpass, hsend]
      · rintro ⟨a, rest, ⟨hzero, _⟩ | ⟨_, creds', w, huser, hsend, rfl⟩, hunread, rfl⟩
        · cases hzero.symm.trans hpass
        · cases huser
          refine ⟨hsend, w, rest, hunread, ?_⟩
          simp [authSent, hpass, hsend]
  · rw [if_neg hpass, authSent_of_ne hpass, List.append_nil]
    by_cases hnone : selected = Method.NO_AUTH
    · rw [if_pos hnone]
      constructor
      · intro h
        cases h
        exact ⟨[], p.unread, Or.inl ⟨hnone, rfl⟩, rfl, rfl⟩
      · rintro ⟨a, rest, ⟨_, rfl⟩ | ⟨htwo, _⟩, hunread, rfl⟩
        · rw [List.nil_append] at hunread
          rw [← hunread]
          rfl
        · exact absurd htwo hpass
    · rw [if_neg hnone]
      constructor
      · intro h
        split_ifs at h <;> cases h
      · rintro ⟨a, rest, ⟨hzero, _⟩ | ⟨htwo, _⟩, _⟩
        · exact absurd hzero hnone
        · exact absurd htwo hpass

theorem readRest_ok_iff {skip : Nat} :
    ((readExact (skip + 2) >>= fun _ => pure ()) : Io HandshakeError Unit) p = (.ok (), q) ↔
      ∃ addr port rest, p.unread = addr ++ port ++ rest ∧ addr.length = skip ∧ port.length = 2 ∧
        q = { p with unread := rest } := by
  rw [ok_bind_iff]
  constructor
  · rintro ⟨data, q', hread, hq⟩
    obtain ⟨rest, hunread, rfl⟩ := readExact_ok_iff.mp hread
    cases hq
    have hlen : data.toList.length = skip + 2 := Vector.length_toList
    refine ⟨data.toList.take skip, data.toList.drop skip, rest, ?_, ?_, ?_, rfl⟩
    · rw [hunread, List.take_append_drop]
    · rw [List.length_take]
      omega
    · rw [List.length_drop]
      omega
  · rintro ⟨addr, port, rest, hunread, haddr, hport, rfl⟩
    refine ⟨⟨(addr ++ port).toArray, by simp [haddr, hport]⟩, _,
      readExact_ok_iff.mpr ⟨rest, hunread, rfl⟩, rfl⟩

theorem readBindAddr_ok_iff :
    readBindAddr p = (.ok (), q) ↔ ∃ t addr port rest, p.unread = [t] ++ addr ++ port ++ rest ∧
      Address t addr ∧ port.length = 2 ∧ q = { p with unread := rest } := by
  unfold readBindAddr
  rw [ok_bind_iff]
  constructor
  · rintro ⟨atyp, q₁, hread, h⟩
    obtain ⟨rest₁, hunread, rfl⟩ := readExact_ok_iff.mp hread
    rw [toList_one] at hunread
    obtain ⟨skip, q₂, hskip, h⟩ := ok_bind_iff.mp h
    obtain ⟨addr, port, rest, hrest, haddr, hport, rfl⟩ := readRest_ok_iff.mp h
    unfold addressSkip at hskip
    split_ifs at hskip with h4 h6 hdomain
    · cases hskip
      obtain rfl : rest₁ = addr ++ port ++ rest := hrest
      exact ⟨_, addr, port, rest, by simp [hunread], Or.inl ⟨h4, haddr⟩, hport, rfl⟩
    · cases hskip
      obtain rfl : rest₁ = addr ++ port ++ rest := hrest
      exact ⟨_, addr, port, rest, by simp [hunread], Or.inr (Or.inl ⟨h6, haddr⟩), hport, rfl⟩
    · obtain ⟨len, q₃, hlen, hq⟩ := ok_bind_iff.mp hskip
      obtain ⟨rest₂, hunread₂, rfl⟩ := readExact_ok_iff.mp hlen
      cases hq
      obtain rfl : rest₂ = addr ++ port ++ rest := hrest
      obtain rfl : rest₁ = len.toList ++ (addr ++ port ++ rest) := hunread₂
      refine ⟨_, len[0] :: addr, port, rest, ?_, Or.inr (Or.inr ⟨hdomain, len[0], addr, rfl, haddr⟩),
        hport, rfl⟩
      rw [hunread, toList_one]
      simp
    · cases hskip
  · rintro ⟨t, addr, port, rest, hunread, haddr, hport, rfl⟩
    refine ⟨#v[t], _, readExact_ok_iff.mpr ⟨addr ++ port ++ rest, by simp [hunread], rfl⟩, ?_⟩
    rw [ok_bind_iff]
    rcases haddr with ⟨rfl, hlen⟩ | ⟨rfl, hlen⟩ | ⟨rfl, n, name, rfl, hlen⟩
    · exact ⟨4, _, rfl, readRest_ok_iff.mpr ⟨addr, port, rest, rfl, hlen, hport, rfl⟩⟩
    · exact ⟨16, _, rfl, readRest_ok_iff.mpr ⟨addr, port, rest, rfl, hlen, hport, rfl⟩⟩
    · refine ⟨n.toNat, { p with unread := name ++ port ++ rest }, ?_,
        readRest_ok_iff.mpr ⟨name, port, rest, rfl, hlen, hport, rfl⟩⟩
      exact ok_bind_iff.mpr ⟨#v[n], _, readExact_ok_iff.mpr ⟨name ++ port ++ rest, rfl, rfl⟩, rfl⟩

theorem readReply_ok_iff :
    readReply p = (.ok (), q) ↔ ∃ v r t addr port rest,
      p.unread = [v, 0, r, t] ++ addr ++ port ++ rest ∧ Address t addr ∧ port.length = 2 ∧
        q = { p with unread := rest } := by
  unfold readReply
  rw [ok_bind_iff]
  constructor
  · rintro ⟨rep, q', hread, h⟩
    obtain ⟨rest₁, hunread, rfl⟩ := readExact_ok_iff.mp hread
    obtain ⟨hzero, h⟩ := ok_guard_iff.mp h
    obtain ⟨t, addr, port, rest, hrest, haddr, hport, rfl⟩ := readBindAddr_ok_iff.mp h
    rw [toList_three, not_not.mp hzero] at hunread
    obtain rfl : rest₁ = [t] ++ addr ++ port ++ rest := hrest
    exact ⟨rep[0], rep[2], t, addr, port, rest, by simp [hunread], haddr, hport, rfl⟩
  · rintro ⟨v, r, t, addr, port, rest, hunread, haddr, hport, rfl⟩
    refine ⟨#v[v, 0, r], _, readExact_ok_iff.mpr ⟨[t] ++ addr ++ port ++ rest, by simp [hunread], rfl⟩,
      ok_guard_iff.mpr ⟨by simp, ?_⟩⟩
    exact readBindAddr_ok_iff.mpr ⟨t, addr, port, rest, rfl, haddr, hport, rfl⟩

/-- The CONNECT request for a target. -/
def connectRequest (target : SocketAddr) : List UInt8 :=
  (BindAddr.ip target.ip).writeRequest [VERSION, Cmd.CONNECT, 0x00] target.port

theorem clientHandshake_ok_iff {target : SocketAddr} {user : Option Credentials}
    (haccept : p.refuse = none) :
    clientHandshake target user p = (.ok (), q) ↔ ∃ m a v r t addr port rest,
      p.unread = [5, m] ++ a ++ [v, 0, r, t] ++ addr ++ port ++ rest ∧ MethodPhase user m a ∧
      Address t addr ∧ port.length = 2 ∧ q = { p with
        unread := rest
        written := p.written ++ [VERSION, 0x01, offered user] ++ authSent user m ++
          connectRequest target } := by
  unfold clientHandshake
  rw [bind_writeAll haccept, ok_bind_iff]
  constructor
  · rintro ⟨greeting, q₁, hread, h⟩
    obtain ⟨rest₁, hunread, rfl⟩ := readExact_ok_iff.mp hread
    obtain ⟨hversion, h⟩ := ok_guard_iff.mp h
    obtain ⟨_, q₂, hselect, h⟩ := ok_bind_iff.mp h
    obtain ⟨a, rest₂, hphase, hrest₁, rfl⟩ := (selectMethod_ok_iff (by exact haccept)).mp hselect
    replace h := (bind_writeAll (by exact haccept)).symm.trans h
    obtain ⟨v, r, t, addr, port, rest, hrest₂, haddr, hport, rfl⟩ := readReply_ok_iff.mp h
    obtain rfl : rest₁ = a ++ rest₂ := hrest₁
    obtain rfl : rest₂ = [v, 0, r, t] ++ addr ++ port ++ rest := hrest₂
    refine ⟨greeting[1], a, v, r, t, addr, port, rest, ?_, hphase, haddr, hport, rfl⟩
    rw [show p.unread = _ from hunread, toList_two, not_not.mp hversion]
    simp [VERSION]
  · rintro ⟨m, a, v, r, t, addr, port, rest, hunread, hphase, haddr, hport, rfl⟩
    refine ⟨#v[5, m], _, readExact_ok_iff.mpr ⟨a ++ ([v, 0, r, t] ++ addr ++ port ++ rest), ?_, rfl⟩,
      ok_guard_iff.mpr ⟨by simp [VERSION], ?_⟩⟩
    · simp [hunread]
    · refine ok_bind_iff.mpr
        ⟨(), _, (selectMethod_ok_iff (by exact haccept)).mpr ⟨a, _, hphase, rfl, rfl⟩, ?_⟩
      refine (bind_writeAll (by exact haccept)).trans ?_
      exact readReply_ok_iff.mpr ⟨v, r, t, addr, port, rest, rfl, haddr, hport, rfl⟩

/-- The handshake accepts exactly its reply grammar and leaves the stream at the first byte of the
proxied data; on every other stream it fails. -/
theorem clientHandshake_accepts (target : SocketAddr) (user : Option Credentials) (s : List UInt8)
    (ending : HandshakeError) :
    (∀ rest, ((clientHandshake target user (.sending s ending)).1 = .ok () ∧
      (clientHandshake target user (.sending s ending)).2.unread = rest) ↔ Accepts user s rest) ∧
    ((∃ e, (clientHandshake target user (.sending s ending)).1 = .error e) ↔
      ¬ ∃ rest, Accepts user s rest) := by
  have haccepts (rest : List UInt8) : ((clientHandshake target user (.sending s ending)).1 = .ok () ∧
      (clientHandshake target user (.sending s ending)).2.unread = rest) ↔ Accepts user s rest := by
    constructor
    · rintro ⟨hok, rfl⟩
      obtain ⟨m, a, v, r, t, addr, port, rest, hs, hphase, haddr, hport, hq⟩ :=
        (clientHandshake_ok_iff (p := .sending s ending) rfl).mp (Prod.ext hok rfl)
      rw [show (clientHandshake target user _).2.unread = rest from congrArg Peer.unread hq]
      exact ⟨m, a, v, r, t, addr, port, hs, hphase, haddr, hport⟩
    · rintro ⟨m, a, v, r, t, addr, port, hs, hphase, haddr, hport⟩
      rw [(clientHandshake_ok_iff (p := .sending s ending) rfl).mpr
        ⟨m, a, v, r, t, addr, port, rest, hs, hphase, haddr, hport, rfl⟩]
      exact ⟨rfl, rfl⟩
  refine ⟨haccepts, ?_, fun hnone => ?_⟩
  · rintro ⟨e, herror⟩ ⟨rest, hrest⟩
    obtain ⟨hok, _⟩ := (haccepts rest).mpr hrest
    cases herror.symm.trans hok
  · rcases hresult : (clientHandshake target user (.sending s ending)).1 with e | _
    · exact ⟨e, rfl⟩
    · exact absurd ⟨_, (haccepts _).mp ⟨hresult, rfl⟩⟩ hnone

end SmoltcpSocks.Socks5
