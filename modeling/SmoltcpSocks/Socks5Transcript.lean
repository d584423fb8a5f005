import SmoltcpSocks.Socks5Grammar
import SmoltcpSocks.Socks5Server

/-! What the client writes during the handshake, for every server stream: the greeting, then the
sub-negotiation and the request only as far as the phases before them went. A server-side decoder of
RFC 1928 and RFC 1929 gets back exactly what was configured. -/

namespace SmoltcpSocks.Socks5

open ByteStream

def HasCredentials (user : Option Credentials) : Prop := ∃ creds, user = some creds ∧ creds.Sendable

/-- The server selected `USER_PASS` under the right version. -/
def SelectsUserPass (s : List UInt8) : Prop := s.take 2 = [5, 2]

instance (s : List UInt8) : Decidable (SelectsUserPass s) := inferInstanceAs (Decidable (_ = _))

/-- The whole method phase succeeds: no authentication, or one that ends with status 0. -/
def MethodSucceeds (user : Option Credentials) (s : List UInt8) : Prop :=
  s.take 2 = [5, 0] ∨ (SelectsUserPass s ∧ HasCredentials user ∧ s[3]? = some 0)

instance : (user : Option Credentials) → Decidable (HasCredentials user)
  | none => isFalse (by rintro ⟨_, h, _⟩; cases h)
  | some creds => decidable_of_iff creds.Sendable
      ⟨fun h => ⟨creds, rfl, h⟩, by rintro ⟨_, h, hsend⟩; cases h; exact hsend⟩

instance (user : Option Credentials) (s : List UInt8) : Decidable (MethodSucceeds user s) :=
  inferInstanceAs (Decidable (_ ∨ _))

/-- The sub-negotiation message of the credentials, if there are any. -/
def authOf : Option Credentials → List UInt8
  | some creds => authMessage (asBytes creds.username) (asBytes creds.password)
  | none => []

variable {p q : Peer HandshakeError} {user : Option Credentials} {target : SocketAddr}

theorem silent_addressSkip (atyp : UInt8) : Silent (addressSkip atyp) := by
  unfold addressSkip
  split_ifs
  · exact .pure _
  · exact .pure _
  · exact (Silent.readExact 1).bind fun _ => .pure _
  · exact .bail _

theorem silent_readReply : Silent readReply := by
  refine (Silent.readExact 3).bind fun rep => ?_
  split_ifs
  · exact .bail _
  · refine (Silent.readExact 1).bind fun atyp => (silent_addressSkip _).bind fun skip => ?_
    exact (Silent.readExact _).bind fun _ => .pure _

theorem written_authUserpass {creds : Credentials} (haccept : p.refuse = none) :
    (authUserpass creds p).2.written = p.written ++
      if creds.Sendable then authMessage (asBytes creds.username) (asBytes creds.password) else [] := by
  unfold authUserpass
  by_cases hsend : creds.Sendable
  · obtain ⟨hempty, hlong⟩ := creds.sendable_iff.mp hsend
    rw [if_pos hsend, if_neg hempty, if_neg hlong, bind_writeAll haccept]
    refine ((Silent.readExact 2).bind fun status => ?_) _
    split_ifs
    · exact .bail _
    · exact .pure _
  · rw [if_neg hsend, List.append_nil]
    rw [Credentials.sendable_iff, not_and_or, not_not, not_not] at hsend
    split_ifs with hempty hlong
    · rfl
    · rfl
    · exact absurd hsend (not_or_intro hempty hlong)

/-- Whatever comes of it, selecting a method writes the message that is due and nothing else. -/
theorem written_selectMethod (user : Option Credentials) (selected : UInt8) (haccept : p.refuse = none) :
    (selectMethod user selected p).2.written = p.written ++ authSent user selected := by
  unfold selectMethod
  by_cases hpass : selected = Method.USER_PASS
  · rw [if_pos hpass]
    rcases user with _ | creds
    · exact (List.append_nil _).symm
    · simp only [authSent, hpass, true_and]
      exact written_authUserpass haccept
  · rw [if_neg hpass, authSent_of_ne hpass, List.append_nil]
    split_ifs <;> rfl

/-- What is written behind the method selection: the request follows a method phase that succeeded. -/
theorem written_afterSelection {m : UInt8} (haccept : p.refuse = none) :
    ((do
      selectMethod user m
      writeAll (connectRequest target)
      readReply) p).2.written = p.written ++ authSent user m ++
        if (selectMethod user m p).1.isOk then connectRequest target else [] := by
  have hwritten := written_selectMethod user m haccept
  rcases hselect : selectMethod user m p with ⟨e | _, q⟩
  · rw [bind_error hselect]
    rw [hselect] at hwritten
    simpa [Except.isOk, Except.toBool] using hwritten
  · obtain ⟨_, _, _, _, rfl⟩ := (selectMethod_ok_iff haccept).mp hselect
    rw [bind_ok hselect, bind_writeAll]
    · exact (silent_readReply _).trans (by simp [Except.isOk, Except.toBool])
    · exact haccept

/-- The method phase of a server that answers with the right version succeeds as `select_method`
does. -/
theorem methodSucceeds_cons_iff (user : Option Credentials) (m : UInt8) {rest : List UInt8}
    (hunread : p.unread = rest) (haccept : p.refuse = none) :
    MethodSucceeds user (5 :: m :: rest) ↔ (selectMethod user m p).1.isOk = true := by
  have hok : (selectMethod user m p).1.isOk = true ↔
      ∃ a tail, MethodPhase user m a ∧ rest = a ++ tail := by
    rcases hselect : selectMethod user m p with ⟨e | _, q⟩
    · simp only [Except.isOk, Except.toBool, Bool.false_eq_true, false_iff]
      rintro ⟨a, tail, hphase, rfl⟩
      have := (selectMethod_ok_iff haccept).mpr ⟨a, tail, hphase, hunread, rfl⟩
      cases hselect.symm.trans this
    · obtain ⟨a, tail, hphase, hsplit, _⟩ := (selectMethod_ok_iff haccept).mp hselect
      simp only [Except.isOk, Except.toBool, true_iff]
      exact ⟨a, tail, hphase, hunread.symm.trans hsplit⟩
  rw [hok]
  constructor
  · rintro (hzero | ⟨hpass, ⟨creds, rfl, hsend⟩, hstatus⟩)
    · have hm : m = 0 := by simpa using hzero
      exact ⟨[], rest, Or.inl ⟨hm, rfl⟩, rfl⟩
    · have hm : m = 2 := by simpa [SelectsUserPass] using hpass
      rcases rest with _ | ⟨w, _ | ⟨status, tail⟩⟩
      · simp at hstatus
      · simp at hstatus
      · have hzero : status = 0 := by simpa using hstatus
        exact ⟨[w, 0], tail, Or.inr ⟨hm, creds, w, rfl, hsend, rfl⟩, by rw [hzero]; rfl⟩
  · rintro ⟨a, tail, ⟨rfl, rfl⟩ | ⟨rfl, creds, w, huser, hsend, rfl⟩, rfl⟩
    · exact Or.inl rfl
    · exact Or.inr ⟨rfl, ⟨creds, huser, hsend⟩, rfl⟩

theorem authSent_eq (user : Option Credentials) (m : UInt8) :
    authSent user m = if m = Method.USER_PASS ∧ HasCredentials user then authOf user else [] := by
  rcases user with _ | creds
  · simp [authSent, authOf]
  · have hcreds : HasCredentials (some creds) ↔ creds.Sendable := by simp [HasCredentials]
    simp only [authSent, authOf, hcreds]

/-- Everything the client writes, as the server's stream decides it. -/
theorem written_clientHandshake (target : SocketAddr) (user : Option Credentials) (s : List UInt8)
    (ending : HandshakeError) :
    (clientHandshake target user (.sending s ending)).2.written =
      [VERSION, 0x01, offered user] ++
        (if SelectsUserPass s ∧ HasCredentials user then authOf user else []) ++
        (if MethodSucceeds user s then connectRequest target else []) := by
  have hgreet : (Peer.sending s ending).refuse = none := rfl
  unfold clientHandshake
  rw [bind_writeAll hgreet]
  rcases s with _ | ⟨v, _ | ⟨m, rest⟩⟩
  · rw [bind_error (readExact_short (by simp [Peer.sending]))]
    simp [Peer.sending, SelectsUserPass, MethodSucceeds]
  · rw [bind_error (readExact_short (by simp [Peer.sending]))]
    simp [Peer.sending, SelectsUserPass, MethodSucceeds]
  · rw [bind_ok (readExact_append #v[v, m] rest rfl)]
    by_cases hv : v = VERSION
    · subst hv
      have hselects : SelectsUserPass (VERSION :: m :: rest) ↔ m = Method.USER_PASS := by
        simp [SelectsUserPass, VERSION, Method.USER_PASS]
      have hmethod := methodSucceeds_cons_iff user m
        (p := ⟨rest, ending, [VERSION, 0x01, offered user], none⟩) rfl rfl
      rw [if_neg (by simp)]
      refine (written_afterSelection (by exact hgreet)).trans ?_
      simp only [hselects, ← authSent_eq]
      exact congrArg _ (if_congr hmethod.symm rfl rfl)
    · have hfive : ¬ v = 5 := hv
      rw [if_pos (by simpa using hv)]
      simp [bail, Peer.sending, SelectsUserPass, MethodSucceeds, hfive]

def selected (s : List UInt8) : UInt8 := s[1]?.getD Method.NONE_ACCEPTABLE

/-- What a server learns: the offered method, and what the phases reached disclose. -/
def disclosed (target : SocketAddr) (user : Option Credentials) (s : List UInt8) : ClientMessages where
  methods := [offered user]
  auth :=
    if SelectsUserPass s ∧ HasCredentials user then
      user.map fun creds => (asBytes creds.username, asBytes creds.password)
    else none
  connect := if MethodSucceeds user s then some (.ip target.ip, target.port) else none

theorem selected_of_take {s : List UInt8} {v m : UInt8} (h : s.take 2 = [v, m]) : selected s = m := by
  rcases s with _ | ⟨v', _ | ⟨m', rest⟩⟩
  · cases h
  · cases h
  · simp only [List.take_succ_cons, List.take_zero, List.cons.injEq, and_true] at h
    simp [selected, h.2]

theorem connectRequest_ne_nil (target : SocketAddr) : connectRequest target ≠ [] := by
  rcases target with ⟨_ | _, port⟩ <;> simp [connectRequest, BindAddr.writeRequest]

theorem decodeConnect_connectRequest (target : SocketAddr) :
    decodeConnect (connectRequest target) = some ((.ip target.ip, target.port), []) := by
  have h := decodeConnect_writeRequest target.ip target.port []
  rwa [List.append_nil] at h

theorem decodeAny_connect (target : SocketAddr) (c : Prop) [Decidable c] :
    decodeAny decodeConnect (if c then connectRequest target else []) =
      some (if c then some (.ip target.ip, target.port) else none, []) := by
  by_cases hc : c
  · rw [if_pos hc, if_pos hc]
    exact decodeAny_of_some (decodeConnect_connectRequest target) (connectRequest_ne_nil target)
  · rw [if_neg hc, if_neg hc]
    rfl

/-- Decoding what the client writes gives back what was configured, with no bytes left over. -/
theorem decodeClient_written (target : SocketAddr) (user : Option Credentials) (s : List UInt8) :
    decodeClient (selected s) ([VERSION, 0x01, offered user] ++
      (if SelectsUserPass s ∧ HasCredentials user then authOf user else []) ++
      (if MethodSucceeds user s then connectRequest target else [])) =
        some (disclosed target user s, []) := by
  rw [List.append_assoc, decodeClient, decodeGreeting_append]
  by_cases hauth : SelectsUserPass s ∧ HasCredentials user
  · obtain ⟨hselects, creds, rfl, hsend⟩ := hauth
    have hdecode := decodeAuth_authMessage hsend.1.2 hsend.2.2
      (if MethodSucceeds (some creds) s then connectRequest target else [])
    have hany := decodeAny_of_some hdecode (by simp [authMessage])
    have hcreds : SelectsUserPass s ∧ HasCredentials (some creds) := ⟨hselects, creds, rfl, hsend⟩
    simp [disclosed, hcreds, selected_of_take hselects, authOf, hany, decodeAny_connect]
  · by_cases hselected : selected s = 0x02
    · -- the server waits for a sub-negotiation that does not come
      have hmethod : ¬ MethodSucceeds user s := by
        rintro (hzero | ⟨hselects, hcreds, _⟩)
        · cases (selected_of_take hzero).symm.trans hselected
        · exact hauth ⟨hselects, hcreds⟩
      simp [disclosed, hauth, hselected, hmethod, decodeAny]
    · simp [disclosed, hauth, hselected, decodeAny_connect]

/-- What the client writes is decided by the phases the server's stream reaches; a server-side decoder
recovers the offered method, the credentials and the target from it, and nothing of the credentials'
contents is in it unless the server selected `USER_PASS`. -/
theorem clientHandshake_discloses (target : SocketAddr) (user : Option Credentials) (s : List UInt8)
    (ending : HandshakeError) :
    (clientHandshake target user (.sending s ending)).2.written =
      [VERSION, 0x01, offered user] ++
        (if SelectsUserPass s ∧ HasCredentials user then authOf user else []) ++
        (if MethodSucceeds user s then connectRequest target else []) ∧
    decodeClient (selected s) (clientHandshake target user (.sending s ending)).2.written =
      some (disclosed target user s, []) ∧
    ∀ creds creds' : Credentials, SelectsUserPass s ∨
      (clientHandshake target (some creds) (.sending s ending)).2.written =
        (clientHandshake target (some creds') (.sending s ending)).2.written := by
  refine ⟨written_clientHandshake target user s ending, ?_, fun creds creds' => ?_⟩
  · rw [written_clientHandshake]
    exact decodeClient_written target user s
  · by_cases hselects : SelectsUserPass s
    · exact Or.inl hselects
    · right
      rw [written_clientHandshake, written_clientHandshake]
      simp [hselects, MethodSucceeds, offered]

end SmoltcpSocks.Socks5
