import SmoltcpSocks.ProxyFormat
import SmoltcpSocks.Socks5Transcript
import Mathlib.Data.List.TakeWhile

/-! The way of the credentials from the userinfo part of the URL to the greeting: `parse` makes an empty
user name or password none, `Socks5Proxy::new` keeps two of them or nothing, and `client_handshake` offers
user/password authentication when there is something. -/

namespace SmoltcpSocks

open Socks5 ByteStream

/-- The user name of a userinfo part: what stands before the first colon. -/
def userOf (ui : String) : String := String.ofList (ui.toList.takeWhile (· ≠ ':'))

def passwordOf (ui : String) : String := String.ofList ((ui.toList.dropWhile (· ≠ ':')).drop 1)

/-- A URL has this userinfo part: it stands between the scheme and the last `@`. -/
def HasUserinfo (raw ui : String) : Prop :=
  ∃ scheme hostport, ':' ∉ scheme.toList ∧ '@' ∉ hostport.toList ∧
    raw = scheme ++ "://" ++ (ui ++ "@" ++ hostport)

/-- The dialer has these credentials and greets every server with user/password authentication. -/
structure Authenticates (p : Socks5Proxy) (user password : String) : Prop where
  creds : p.creds = some ⟨user, password⟩
  offers : ∀ target, Opens [VERSION, 0x01, Method.USER_PASS] (p.handshake target)

variable {raw ui : String} {url : ProxyUrl}

theorem all_ne_colon (h : ':' ∉ ui.toList) : ∀ c ∈ ui.toList, decide (c ≠ ':') = true := by
  intro c hmem
  exact decide_eq_true fun heq => h (heq ▸ hmem)

theorem userOf_of_notMem (h : ':' ∉ ui.toList) : userOf ui = ui ∧ passwordOf ui = "" := by
  rw [userOf, passwordOf, List.takeWhile_eq_self_iff.mpr (all_ne_colon h),
    List.dropWhile_eq_nil_iff.mpr (all_ne_colon h), String.ofList_toList]
  exact ⟨rfl, rfl⟩

theorem userOf_append {user : String} (h : ':' ∉ user.toList) (password : String) :
    userOf (user ++ ":" ++ password) = user ∧ passwordOf (user ++ ":" ++ password) = password := by
  have hlist : (user ++ ":" ++ password).toList = user.toList ++ ':' :: password.toList := by simp
  rw [userOf, passwordOf, hlist, List.takeWhile_append_of_pos (all_ne_colon h),
    List.dropWhile_append_of_pos (all_ne_colon h)]
  simp

theorem parseUserinfo_some (ui : String) :
    parseUserinfo (some ui) = (nonEmpty (userOf ui), nonEmpty (passwordOf ui)) := by
  rcases hsplit : splitOnce ui ":" with _ | ⟨u, p⟩
  · obtain ⟨huser, hpassword⟩ := userOf_of_notMem (splitOnce_colon_eq_none_iff.mp hsplit)
    rw [huser, hpassword]
    simp only [parseUserinfo, hsplit, Option.getD_none]
  · obtain ⟨rfl, hu⟩ := splitOnce_colon_eq_some_iff.mp hsplit
    obtain ⟨huser, hpassword⟩ := userOf_append hu p
    rw [huser, hpassword]
    simp only [parseUserinfo, hsplit, Option.getD_some]

/-- What `parse` makes of the userinfo part. -/
theorem parse_userinfo (hui : HasUserinfo raw ui) (h : ProxyUrl.parse raw = .ok url) :
    url.username = nonEmpty (userOf ui) ∧ url.password = nonEmpty (passwordOf ui) := by
  obtain ⟨scheme, hostport, hscheme, hhostport, rfl⟩ := hui
  unfold ProxyUrl.parse at h
  simp only [splitOnce_scheme hscheme, splitUserinfo_append hhostport, parseUserinfo_some] at h
  split at h
  next => cases h
  next =>
    split at h
    next => cases h
    next =>
      split at h
      next => cases h
      next =>
        cases h
        simp only [and_self]

theorem appends_selectMethod (user : Option Credentials) (selected : UInt8) :
    Appends (selectMethod user selected) := by
  unfold selectMethod
  split_ifs
  · split
    next creds =>
      unfold authUserpass
      dsimp only
      split_ifs
      · exact (Silent.bail _).appends
      · exact (Silent.bail _).appends
      · refine (Appends.writeAll _).bind fun _ => (Silent.readExact 2).appends.bind fun status => ?_
        split_ifs
        · exact (Silent.bail _).appends
        · exact (Silent.pure _).appends
    next => exact (Silent.bail _).appends
  · exact (Silent.pure _).appends
  · exact (Silent.bail _).appends
  · exact (Silent.bail _).appends

/-- The client opens with the one method it offers. -/
theorem opens_clientHandshake (target : SocketAddr) (user : Option Credentials) :
    Opens [VERSION, 0x01, offered user] (clientHandshake target user) := by
  refine Opens.writeAll ((Silent.readExact 2).appends.bind fun greeting => ?_)
  split_ifs
  · exact (Silent.bail _).appends
  · exact (appends_selectMethod _ _).bind fun _ => (Appends.writeAll _).bind fun _ => silent_readReply.appends

/-- A dialer with credentials authenticates; nothing else decides the greeting. -/
theorem authenticates_iff {p : Socks5Proxy} {user password : String} :
    Authenticates p user password ↔ p.creds = some ⟨user, password⟩ := by
  refine ⟨Authenticates.creds, fun hcreds => ⟨hcreds, fun target => ?_⟩⟩
  rw [Socks5Proxy.handshake, hcreds]
  exact opens_clientHandshake target _

/-- `Socks5Proxy::new` keeps a user name and a password, or nothing. -/
theorem creds_new_eq_some_iff {host : String} {port : UInt16} {user password : String} :
    (Socks5Proxy.new host port (nonEmpty user) (nonEmpty password)).creds = some ⟨user, password⟩ ↔
      user ≠ "" ∧ password ≠ "" := by
  by_cases huser : user = ""
  · simp [Socks5Proxy.new, nonEmpty, huser]
  · by_cases hpassword : password = ""
    · simp [Socks5Proxy.new, nonEmpty, hpassword]
    · simp [Socks5Proxy.new, nonEmpty_eq_some huser, nonEmpty_eq_some hpassword, huser, hpassword]

/-- The credentials of a URL, if it has any, reach the server exactly when the userinfo part is not
one-sided. -/
theorem credentials_kept_iff (hparse : ProxyUrl.parse raw = .ok url) (hui : HasUserinfo raw ui) :
    (userOf ui ≠ "" ∨ passwordOf ui ≠ "" → Authenticates url.intoProxy (userOf ui) (passwordOf ui)) ↔
      (userOf ui = "" ↔ passwordOf ui = "") := by
  obtain ⟨husername, hpassword⟩ := parse_userinfo hui hparse
  rw [authenticates_iff, ProxyUrl.intoProxy, husername, hpassword, creds_new_eq_some_iff]
  by_cases huser : userOf ui = ""
  · simp [huser]
  · simp [huser]

/-- A user name and a password with every delimiter in it. -/
theorem credentials_kept_both :
    ∃ url, ProxyUrl.parse "socks5://bob:a@b:c@10.0.0.5:1080" = .ok url ∧
      Authenticates url.intoProxy "bob" "a@b:c" := by
  have hparse : ProxyUrl.parse "socks5://bob:a@b:c@10.0.0.5:1080" =
      .ok ⟨"socks5", "10.0.0.5", 1080, some "bob", some "a@b:c"⟩ := by decide
  have hui : HasUserinfo "socks5://bob:a@b:c@10.0.0.5:1080" "bob:a@b:c" :=
    ⟨"socks5", "10.0.0.5:1080", by decide, by decide, by decide⟩
  exact ⟨_, hparse, (credentials_kept_iff hparse hui).mpr (by decide) (by decide)⟩

/-- A user name without a password is dropped, and the client greets the server without authentication. -/
theorem credentials_dropped_user_only :
    ∃ url, ProxyUrl.parse "socks5://bob@10.0.0.5:1080" = .ok url ∧
      HasUserinfo "socks5://bob@10.0.0.5:1080" "bob" ∧ userOf "bob" ≠ "" ∧
      ¬ Authenticates url.intoProxy (userOf "bob") (passwordOf "bob") ∧
      ∀ target, Opens [VERSION, 0x01, Method.NO_AUTH] (url.intoProxy.handshake target) := by
  refine ⟨⟨"socks5", "10.0.0.5", 1080, some "bob", none⟩, by decide,
    ⟨"socks5", "10.0.0.5:1080", by decide, by decide, by decide⟩, by decide, ?_, ?_⟩
  · rw [authenticates_iff]
    decide
  · exact fun target => opens_clientHandshake target none

end SmoltcpSocks
