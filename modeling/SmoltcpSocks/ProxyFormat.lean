import SmoltcpSocks.ProxyUrl

/-! The format of a proxy URL, stated without the parser, and that the parser accepts exactly this format
and reads off what was written. -/

namespace SmoltcpSocks

/-- The ways to write a host: bare, or in brackets. -/
inductive HostWritten (host : String) : String → Prop
  | bare : host.toList.head? ≠ some '[' → HostWritten host host
  | bracketed : ¬ [']', ':'] <:+: host.toList → HostWritten host ("[" ++ host ++ "]")

/-- The ways to write a userinfo part; an empty user name or password counts as none. -/
inductive UserinfoWritten : Option String → Option String → String → Prop
  | absent : UserinfoWritten none none ""
  | user (u : String) : ':' ∉ u.toList → UserinfoWritten (nonEmpty u) none (u ++ "@")
  | both (u p : String) : ':' ∉ u.toList → UserinfoWritten (nonEmpty u) (nonEmpty p) (u ++ ":" ++ p ++ "@")

/-- The text is a URL with the parts of `url`. -/
structure Written (url : ProxyUrl) (raw : String) : Prop where
  scheme : url.scheme = "socks5" ∨ url.scheme = "socks5h"
  host : url.host ≠ "" ∧ '@' ∉ url.host.toList
  text : ∃ scheme userinfo host port, toAsciiLowercase scheme = url.scheme ∧
    UserinfoWritten url.username url.password userinfo ∧ HostWritten url.host host ∧
    Decimal.Spells port.toList url.port.toNat ∧
    raw = scheme ++ "://" ++ (userinfo ++ (host ++ ":" ++ port))

variable {s pat before behind : String} {c : Char}

theorem splitOnce_eq_some_iff : splitOnce s pat = some (before, behind) ↔
    Split.splitOnce pat.toList s.toList = some (before.toList, behind.toList) := by
  rw [splitOnce, Option.map_eq_some_iff]
  constructor
  · rintro ⟨parts, hsplit, hparts⟩
    cases hparts
    simpa using hsplit
  · intro h
    exact ⟨_, h, by simp⟩

theorem rsplitOnce_eq_some_iff : rsplitOnce s c = some (before, behind) ↔
    s.toList = before.toList ++ c :: behind.toList ∧ c ∉ behind.toList := by
  rw [rsplitOnce, Option.map_eq_some_iff, ← Split.rsplitOnce_eq_some_iff]
  constructor
  · rintro ⟨parts, hsplit, hparts⟩
    cases hparts
    simpa using hsplit
  · intro h
    exact ⟨_, h, by simp⟩

theorem rsplitOnce_eq_none_iff : rsplitOnce s c = none ↔ c ∉ s.toList := by
  rw [rsplitOnce, Option.map_eq_none_iff, Split.rsplitOnce_eq_none_iff]

theorem stripPrefix_eq_some_iff : stripPrefix s c = some behind ↔ s.toList = c :: behind.toList := by
  rw [stripPrefix]
  rcases hs : s.toList with _ | ⟨d, rest⟩
  · simp
  · by_cases hd : d = c
    · simp [hd, ← String.toList_inj]
    · simp [hd]

theorem stripPrefix_eq_none_iff : stripPrefix s c = none ↔ s.toList.head? ≠ some c := by
  rw [stripPrefix]
  rcases hs : s.toList with _ | ⟨d, rest⟩
  · simp
  · by_cases hd : d = c <;> simp [hd]

theorem parseU16_eq_some_iff {port : UInt16} :
    parseU16 s = some port ↔ Decimal.Spells s.toList port.toNat := by
  rw [parseU16, Option.map_eq_some_iff]
  constructor
  · rintro ⟨n, hn, rfl⟩
    obtain ⟨hlt, hspells⟩ := (Decimal.parseUnsigned_eq_some_iff (by decide)).mp hn
    rwa [UInt16.toNat_ofNat_of_lt' hlt]
  · intro h
    refine ⟨port.toNat, (Decimal.parseUnsigned_eq_some_iff (by decide)).mpr ⟨port.toNat_lt, h⟩, ?_⟩
    exact UInt16.ofNat_toNat

theorem notMem_port {port : String} {n : Nat} (h : Decimal.Spells port.toList n) :
    ':' ∉ port.toList ∧ '@' ∉ port.toList := by
  constructor <;> intro hmem <;> rcases h.isDigit_of_mem hmem with hc | hc <;> revert hc <;> decide

/-- What is read as a host and a port was written as one. -/
theorem hostWritten_of_parseHostPort {host : String} {port : UInt16} (h : parseHostPort s = .ok (host, port)) :
    ∃ hostText portText, HostWritten host hostText ∧ Decimal.Spells portText.toList port.toNat ∧
      s = hostText ++ ":" ++ portText := by
  unfold parseHostPort at h
  split at h
  next stripped hstrip =>
    rw [stripPrefix_eq_some_iff] at hstrip
    split at h
    next => cases h
    next addr portText hsplit =>
      split at h
      next => cases h
      next port' hport =>
        cases h
        rw [splitOnce_eq_some_iff] at hsplit
        refine ⟨"[" ++ host ++ "]", portText, .bracketed ?_, parseU16_eq_some_iff.mp hport, ?_⟩
        · exact Split.not_infix_of_splitOnce (by decide) hsplit
        · have hstripped := ((Split.splitOnce_eq_some_iff (by decide)).mp hsplit).1
          rw [← String.toList_inj, hstrip, hstripped]
          simp
  next hstrip =>
    split at h
    next => cases h
    next hostText portText hsplit =>
      split at h
      next => cases h
      next port' hport =>
        cases h
        obtain ⟨hs, _⟩ := rsplitOnce_eq_some_iff.mp hsplit
        refine ⟨host, portText, .bare fun hhead => ?_, parseU16_eq_some_iff.mp hport, ?_⟩
        · rw [stripPrefix_eq_none_iff, hs, List.head?_append, hhead] at hstrip
          exact hstrip rfl
        · rw [← String.toList_inj, hs]
          simp

/-- A host and a port are read off every text they are written as. -/
theorem parseHostPort_of_hostWritten {host hostText portText : String} {port : UInt16}
    (hhost : HostWritten host hostText) (hport : Decimal.Spells portText.toList port.toNat) :
    parseHostPort (hostText ++ ":" ++ portText) = .ok (host, port) := by
  have hparse := parseU16_eq_some_iff.mpr hport
  unfold parseHostPort
  cases hhost with
  | bare hhead =>
      have hstrip : stripPrefix (host ++ ":" ++ portText) '[' = none := by
        rw [stripPrefix_eq_none_iff]
        rcases hlist : host.toList with _ | ⟨c, rest⟩ <;> simp_all
      have hsplit : rsplitOnce (host ++ ":" ++ portText) ':' = some (host, portText) := by
        rw [rsplitOnce_eq_some_iff]
        exact ⟨by simp, (notMem_port hport).1⟩
      simp only [hstrip, hsplit, hparse]
  | bracketed hnot =>
      have hstrip : stripPrefix ("[" ++ host ++ "]" ++ ":" ++ portText) '[' =
          some (host ++ "]:" ++ portText) := by
        rw [stripPrefix_eq_some_iff]
        simp
      have hsplit : splitOnce (host ++ "]:" ++ portText) "]:" = some (host, portText) := by
        rw [splitOnce_eq_some_iff, String.toList_append, String.toList_append]
        exact Split.splitOnce_pair (by decide) hnot
      simp only [hstrip, hsplit, hparse]

theorem splitOnce_colon_eq_none_iff : splitOnce s ":" = none ↔ ':' ∉ s.toList := by
  rw [splitOnce, Option.map_eq_none_iff, Split.splitOnce_eq_none_iff (by decide)]
  exact not_congr (List.singleton_infix_iff ':' s.toList)

theorem splitOnce_colon_eq_some_iff :
    splitOnce s ":" = some (before, behind) ↔ s = before ++ ":" ++ behind ∧ ':' ∉ before.toList := by
  rw [splitOnce_eq_some_iff]
  constructor
  · intro h
    refine ⟨?_, fun hmem => ?_⟩
    · rw [← String.toList_inj, ((Split.splitOnce_eq_some_iff (by decide)).mp h).1]
      simp
    · exact Split.not_infix_of_splitOnce (by decide) h ((List.singleton_infix_iff ':' _).mpr hmem)
  · rintro ⟨rfl, hmem⟩
    rw [String.toList_append, String.toList_append]
    exact Split.splitOnce_of_notMem hmem

/-- The scheme ends where `://` stands first. -/
theorem splitOnce_scheme {scheme : String} (h : ':' ∉ scheme.toList) (rest : String) :
    splitOnce (scheme ++ "://" ++ rest) "://" = some (scheme, rest) := by
  rw [splitOnce_eq_some_iff, String.toList_append, String.toList_append]
  exact Split.splitOnce_of_notMem h

/-- The userinfo part ends at the last `@`. -/
theorem splitUserinfo_append {hostport : String} (h : '@' ∉ hostport.toList) (ui : String) :
    splitUserinfo (ui ++ "@" ++ hostport) = (some ui, hostport) := by
  have hsplit : rsplitOnce (ui ++ "@" ++ hostport) '@' = some (ui, hostport) := by
    rw [rsplitOnce_eq_some_iff]
    exact ⟨by simp, h⟩
  rw [splitUserinfo, hsplit]

/-- What is read as a userinfo part was written as one, or there is none. -/
theorem userinfoWritten_of_splitUserinfo (rest : String) : ∃ text,
    UserinfoWritten (parseUserinfo (splitUserinfo rest).1).1 (parseUserinfo (splitUserinfo rest).1).2 text ∧
      rest = text ++ (splitUserinfo rest).2 ∧ '@' ∉ (splitUserinfo rest).2.toList := by
  unfold splitUserinfo
  rcases hsplit : rsplitOnce rest '@' with _ | ⟨ui, hostport⟩
  · exact ⟨"", .absent, by simp, rsplitOnce_eq_none_iff.mp hsplit⟩
  · obtain ⟨heq, hnot⟩ := rsplitOnce_eq_some_iff.mp hsplit
    have hrest : rest = ui ++ "@" ++ hostport := by
      rw [← String.toList_inj, heq]
      simp
    rcases hcolon : splitOnce ui ":" with _ | ⟨u, p⟩
    · simp only [parseUserinfo, hcolon, Option.getD_none]
      exact ⟨ui ++ "@", .user ui (splitOnce_colon_eq_none_iff.mp hcolon), hrest, hnot⟩
    · simp only [parseUserinfo, hcolon, Option.getD_some]
      obtain ⟨rfl, hu⟩ := splitOnce_colon_eq_some_iff.mp hcolon
      exact ⟨u ++ ":" ++ p ++ "@", .both u p hu, hrest, hnot⟩

/-- A userinfo part is read off every text it is written as, when the rest has no `@`. -/
theorem splitUserinfo_of_userinfoWritten {hostport text : String} {username password : Option String}
    (h : UserinfoWritten username password text) (hnot : '@' ∉ hostport.toList) :
    (splitUserinfo (text ++ hostport)).2 = hostport ∧
      parseUserinfo (splitUserinfo (text ++ hostport)).1 = (username, password) := by
  cases h with
  | absent =>
      have hnone : rsplitOnce ("" ++ hostport) '@' = none := by
        rw [rsplitOnce_eq_none_iff]
        simpa using hnot
      rw [splitUserinfo, hnone]
      exact ⟨by simp, rfl⟩
  | user u hu =>
      rw [splitUserinfo_append hnot]
      refine ⟨rfl, ?_⟩
      simp only [parseUserinfo, splitOnce_colon_eq_none_iff.mpr hu, Option.getD_none]
      rfl
  | both u p hu =>
      rw [splitUserinfo_append hnot]
      refine ⟨rfl, ?_⟩
      simp only [parseUserinfo, splitOnce_colon_eq_some_iff.mpr ⟨rfl, hu⟩, Option.getD_some]

theorem colon_notMem_scheme {scheme : String}
    (h : toAsciiLowercase scheme = "socks5" ∨ toAsciiLowercase scheme = "socks5h") : ':' ∉ scheme.toList := by
  intro hmem
  have hlower : ':' ∈ (toAsciiLowercase scheme).toList := by
    rw [toAsciiLowercase, String.toList_ofList]
    exact List.mem_map.mpr ⟨':', hmem, rfl⟩
  rcases h with h | h <;> rw [h] at hlower <;> revert hlower <;> decide

theorem HostWritten.notMem {host text : String} (h : HostWritten host text) :
    '@' ∉ text.toList ↔ '@' ∉ host.toList := by
  cases h with
  | bare => rfl
  | bracketed => simp

/-- What the parser accepts is a text of the format. -/
theorem written_of_parse {raw : String} {url : ProxyUrl} (h : ProxyUrl.parse raw = .ok url) :
    Written url raw := by
  unfold ProxyUrl.parse at h
  split at h
  next => cases h
  next scheme rest hsplit =>
    dsimp only at h
    split at h
    next => cases h
    next hscheme =>
      split at h
      next => cases h
      next host port hhostport =>
        split at h
        next => cases h
        next hhost =>
          cases h
          obtain ⟨hraw, _⟩ := (Split.splitOnce_eq_some_iff (by decide)).mp (splitOnce_eq_some_iff.mp hsplit)
          obtain ⟨userinfo, huserinfo, hrest, hnot⟩ := userinfoWritten_of_splitUserinfo rest
          obtain ⟨hostText, portText, hwritten, hport, heq⟩ := hostWritten_of_parseHostPort hhostport
          have hat : '@' ∉ hostText.toList := by
            intro hmem
            rw [heq, String.toList_append, String.toList_append] at hnot
            exact hnot (List.mem_append_left _ (List.mem_append_left _ hmem))
          refine ⟨?_, ⟨?_, hwritten.notMem.mp hat⟩, scheme, userinfo, hostText, portText, rfl, huserinfo,
            hwritten, hport, ?_⟩
          · rwa [not_and_or, not_not, not_not] at hscheme
          · exact fun hnil => hhost (String.isEmpty_iff.mpr hnil)
          · rw [← heq, ← hrest, ← String.toList_inj, hraw]
            simp

/-- The parser accepts every text of the format and reads off what was written. -/
theorem parse_of_written {raw : String} {url : ProxyUrl} (h : Written url raw) :
    ProxyUrl.parse raw = .ok url := by
  obtain ⟨hscheme, hhost, scheme, userinfo, hostText, portText, hlower, huserinfo, hwritten, hport, rfl⟩ := h
  have hsplit := splitOnce_scheme (colon_notMem_scheme (hlower ▸ hscheme))
    (userinfo ++ (hostText ++ ":" ++ portText))
  have hnot : '@' ∉ (hostText ++ ":" ++ portText).toList := by
    simp [hwritten.notMem.mpr hhost.2, (notMem_port hport).2]
  obtain ⟨hrest, hparse⟩ := splitUserinfo_of_userinfoWritten huserinfo hnot
  have hhostport := parseHostPort_of_hostWritten hwritten hport
  have hsupported : ¬ (url.scheme ≠ "socks5" ∧ url.scheme ≠ "socks5h") := by
    rwa [not_and_or, not_not, not_not]
  have hempty : ¬ url.host.isEmpty = true := fun hempty => hhost.1 (String.isEmpty_iff.mp hempty)
  unfold ProxyUrl.parse
  simp only [hsplit, hlower, if_neg hsupported, hrest, hparse, hhostport, if_neg hempty]

def userinfoText : Option (String × String) → String
  | none => ""
  | some (user, password) => user ++ ":" ++ password ++ "@"

theorem nonEmpty_eq_some (h : s ≠ "") : nonEmpty s = some s := by
  rw [nonEmpty, if_neg fun hempty => h (String.isEmpty_iff.mp hempty)]

theorem userinfoWritten_text {userinfo : Option (String × String)}
    (h : ∀ user password, userinfo = some (user, password) → user ≠ "" ∧ ':' ∉ user.toList ∧ password ≠ "") :
    UserinfoWritten (userinfo.map Prod.fst) (userinfo.map Prod.snd) (userinfoText userinfo) := by
  rcases userinfo with _ | ⟨user, password⟩
  · exact .absent
  · obtain ⟨huser, hcolon, hpassword⟩ := h user password rfl
    have hwritten := UserinfoWritten.both user password hcolon
    rw [nonEmpty_eq_some huser, nonEmpty_eq_some hpassword] at hwritten
    exact hwritten

theorem spells_repr (n : Nat) : Decimal.Spells n.repr.toList n := by
  rw [Nat.toList_repr]
  exact Decimal.spells_toDigits n

theorem rsplitOnce_serverAddr (p : Socks5Proxy) :
    rsplitOnce p.serverAddr ':' = some (p.host, p.port.toNat.repr) := by
  rw [rsplitOnce_eq_some_iff]
  exact ⟨by simp [Socks5Proxy.serverAddr], (notMem_port (spells_repr _)).1⟩

/-- `parse` inverts the format and accepts nothing else, and the dialer's address splits into the host and
the port that were written. -/
theorem parse_inverts_format :
    (∀ (scheme host hostText : String) (userinfo : Option (String × String)) (port : UInt16),
      (toAsciiLowercase scheme = "socks5" ∨ toAsciiLowercase scheme = "socks5h") →
      host ≠ "" → '@' ∉ host.toList → HostWritten host hostText →
      (∀ user password, userinfo = some (user, password) → user ≠ "" ∧ ':' ∉ user.toList ∧ password ≠ "") →
      ProxyUrl.parse (scheme ++ "://" ++ (userinfoText userinfo ++ (hostText ++ ":" ++ port.toNat.repr))) =
        .ok ⟨toAsciiLowercase scheme, host, port, userinfo.map Prod.fst, userinfo.map Prod.snd⟩) ∧
    (∀ raw url, ProxyUrl.parse raw = .ok url → Written url raw) ∧
    (∀ raw url, ProxyUrl.parse raw = .ok url →
      rsplitOnce url.intoProxy.serverAddr ':' = some (url.host, url.port.toNat.repr) ∧
        parseU16 url.port.toNat.repr = some url.port) := by
  refine ⟨?_, fun raw url => written_of_parse, fun raw url _ => ?_⟩
  · intro scheme host hostText userinfo port hscheme hhost hat hwritten huserinfo
    exact parse_of_written ⟨hscheme, ⟨hhost, hat⟩, scheme, userinfoText userinfo, hostText,
      port.toNat.repr, rfl, userinfoWritten_text huserinfo, hwritten, spells_repr _, rfl⟩
  · exact ⟨rsplitOnce_serverAddr url.intoProxy, parseU16_eq_some_iff.mpr (spells_repr _)⟩

/-- Every delimiter of the format inside the password, and an IPv6 host. -/
theorem parse_inverts_format_delimiters :
    ProxyUrl.parse "SOCKS5h://bob:a@b:c://d@[::1]:1080" =
      .ok ⟨"socks5h", "::1", 1080, some "bob", some "a@b:c://d"⟩ := by
  refine parse_inverts_format.1 "SOCKS5h" "::1" "[::1]" (some ("bob", "a@b:c://d")) 1080 (Or.inr (by decide))
    (by decide) (by decide) (.bracketed (by decide)) ?_
  rintro user password ⟨⟩
  decide

end SmoltcpSocks
