import SmoltcpSocks.Split
import SmoltcpSocks.Decimal
import SmoltcpSocks.Socks5

/-! The proxy URL of `proxy.rs`, `socks5://[user:pass@]host:port`, and the dialer that is built from it. -/

namespace SmoltcpSocks

open Socks5

inductive ProxyUrlError where
  | unsupportedScheme (scheme : String)
  | missingHost
  | badUrl (message : String)
  deriving DecidableEq

structure ProxyUrl where
  scheme : String
  host : String
  port : UInt16
  username : Option String
  password : Option String
  deriving DecidableEq

/-- `str::split_once` with a string: at its first occurrence. -/
def splitOnce (s pat : String) : Option (String × String) :=
  (Split.splitOnce pat.toList s.toList).map fun parts => (String.ofList parts.1, String.ofList parts.2)

/-- `str::rsplit_once` with a character: at its last occurrence. -/
def rsplitOnce (s : String) (sep : Char) : Option (String × String) :=
  (Split.rsplitOnce sep s.toList).map fun parts => (String.ofList parts.1, String.ofList parts.2)

/-- `str::strip_prefix` with a character. -/
def stripPrefix (s : String) (c : Char) : Option String :=
  match s.toList with
  | [] => none
  | d :: rest => if d = c then some (String.ofList rest) else none

def toAsciiLowercase (s : String) : String := String.ofList (s.toList.map Char.toLower)

def parseU16 (s : String) : Option UInt16 := (Decimal.parseUnsigned UInt16.size s.toList).map UInt16.ofNat

/-- `(!s.is_empty()).then(|| s.to_string())`. -/
def nonEmpty (s : String) : Option String := if s.isEmpty then none else some s

/-- Split `host:port` / `[v6]:port` into its parts. -/
def parseHostPort (s : String) : Except ProxyUrlError (String × UInt16) :=
  match stripPrefix s '[' with
  | some stripped =>
      -- IPv6 literal form: [addr]:port
      match splitOnce stripped "]:" with
      | none => .error (.badUrl "malformed ipv6")
      | some (addr, port) =>
          match parseU16 port with
          | none => .error (.badUrl "invalid port")
          | some port => .ok (addr, port)
  | none =>
      match rsplitOnce s ':' with
      | none => .error (.badUrl "missing port")
      | some (host, port) =>
          match parseU16 port with
          | none => .error (.badUrl "invalid port")
          | some port => .ok (host, port)

/-- The user name and the password of a userinfo part. -/
def parseUserinfo : Option String → Option String × Option String
  | some ui =>
      let parts := (splitOnce ui ":").getD (ui, "")
      (nonEmpty parts.1, nonEmpty parts.2)
  | none => (none, none)

/-- What stands before the last `@`, if there is one, and the rest. -/
def splitUserinfo (rest : String) : Option String × String :=
  match rsplitOnce rest '@' with
  | some (u, h) => (some u, h)
  | none => (none, rest)

def ProxyUrl.parse (raw : String) : Except ProxyUrlError ProxyUrl :=
  match splitOnce raw "://" with
  | none => .error (.unsupportedScheme raw)
  | some (scheme, rest) =>
      let scheme := toAsciiLowercase scheme
      if scheme ≠ "socks5" ∧ scheme ≠ "socks5h" then .error (.unsupportedScheme scheme)
      else
        let (userinfo, hostport) := splitUserinfo rest
        let (username, password) := parseUserinfo userinfo
        match parseHostPort hostport with
        | .error e => .error e
        | .ok (host, port) =>
            if host.isEmpty then .error .missingHost
            else .ok ⟨scheme, host, port, username, password⟩

/-- A dialer that connects a plain TCP stream to an upstream SOCKS5 server. -/
structure Socks5Proxy where
  host : String
  port : UInt16
  creds : Option Credentials
  deriving DecidableEq

namespace Socks5Proxy

def new (host : String) (port : UInt16) (username password : Option String) : Socks5Proxy :=
  let creds := match username, password with
    | some u, some p => some ⟨u, p⟩
    | _, _ => none
  ⟨host, port, creds⟩

def serverAddr (p : Socks5Proxy) : String := p.host ++ ":" ++ p.port.toNat.repr

def handshake (p : Socks5Proxy) (target : SocketAddr) : ByteStream.Io HandshakeError Unit :=
  clientHandshake target p.creds

end Socks5Proxy

def ProxyUrl.intoProxy (url : ProxyUrl) : Socks5Proxy :=
  .new url.host url.port url.username url.password

end SmoltcpSocks
