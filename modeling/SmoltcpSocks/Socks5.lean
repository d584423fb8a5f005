import SmoltcpSocks.VConn
import SmoltcpSocks.ByteStream

/-! The SOCKS5 client of `socks5.rs`: the greeting, the user/password sub-negotiation and the CONNECT
request of RFC 1928 and RFC 1929, as a program over the byte stream to the server. -/

namespace SmoltcpSocks.Socks5

open ByteStream

def VERSION : UInt8 := 0x05

def Method.NO_AUTH : UInt8 := 0x00
def Method.USER_PASS : UInt8 := 0x02
def Method.NONE_ACCEPTABLE : UInt8 := 0xff

def Cmd.CONNECT : UInt8 := 0x01

def Atyp.IPV4 : UInt8 := 0x01
def Atyp.DOMAIN : UInt8 := 0x03
def Atyp.IPV6 : UInt8 := 0x04

/-- The bytes of a string (`as_bytes`); `len` counts these. -/
def asBytes (s : String) : List UInt8 := s.toUTF8.data.toList

def toBeBytes (port : UInt16) : List UInt8 :=
  [UInt8.ofNat (port.toNat / 256), UInt8.ofNat (port.toNat % 256)]

/-- The `{:#04x}` spelling of a byte. -/
def hex (b : UInt8) : String :=
  let digits := Nat.toDigits 16 b.toNat
  "0x" ++ (if digits.length < 2 then "0" else "") ++ String.ofList digits

inductive BindAddr where
  | ip (ip : IpAddr)
  | domain (name : String)
  deriving DecidableEq

/-- Serialise an address and its port behind `w`. -/
def BindAddr.writeRequest (addr : BindAddr) (w : List UInt8) (port : UInt16) : List UInt8 :=
  (match addr with
    | .ip (.v4 octets) => w ++ [Atyp.IPV4] ++ octets.toList
    | .ip (.v6 octets) => w ++ [Atyp.IPV6] ++ octets.toList
    | .domain d => w ++ [Atyp.DOMAIN] ++ [UInt8.ofNat (asBytes d).length] ++ asBytes d) ++ toBeBytes port

structure Credentials where
  username : String
  password : String
  deriving DecidableEq

/-- The errors of the handshake (`anyhow::Error`). -/
inductive HandshakeError where
  | io (e : IoError)
  | msg (text : String)
  deriving DecidableEq

def replyStr (rep : UInt8) : String :=
  match rep with
  | 0x00 => "succeeded"
  | 0x01 => "general SOCKS server failure"
  | 0x02 => "connection not allowed by ruleset"
  | 0x03 => "network unreachable"
  | 0x04 => "host unreachable"
  | 0x05 => "connection refused"
  | 0x06 => "TTL expired"
  | 0x07 => "command not supported"
  | 0x08 => "address type not supported"
  | _ => "unassigned"

/-- The sub-negotiation message: version, then each field behind its length byte. -/
def authMessage (u p : List UInt8) : List UInt8 :=
  [0x01] ++ [UInt8.ofNat u.length] ++ u ++ [UInt8.ofNat p.length] ++ p

/-- RFC 1929 username/password sub-negotiation. -/
def authUserpass (creds : Credentials) : Io HandshakeError Unit :=
  let u := asBytes creds.username
  let p := asBytes creds.password
  if u.isEmpty ∨ p.isEmpty then bail (.msg "socks5: auth username/password empty")
  else if u.length > 255 ∨ p.length > 255 then bail (.msg "socks5: auth username/password too long")
  else do
    writeAll (authMessage u p)
    let status ← readExact 2
    if status[1] ≠ 0x00 then bail (.msg "socks5: rejected username/password")
    else pure ()

/-- How many address bytes follow an address type; a domain name has its length in front. -/
def addressSkip (atyp : UInt8) : Io HandshakeError Nat :=
  if atyp = Atyp.IPV4 then pure 4
  else if atyp = Atyp.IPV6 then pure 16
  else if atyp = Atyp.DOMAIN then do
    let len ← readExact 1
    pure len[0].toNat
  else bail (.msg ("socks5: unsupported reply atyp " ++ hex atyp))

/-- Read and discard the address and port of a successful reply. -/
def readBindAddr : Io HandshakeError Unit := do
  let atyp ← readExact 1
  let skip ← addressSkip atyp[0]
  let _ ← readExact (skip + 2)
  pure ()

/-- What the client does with the method the server selected. -/
def selectMethod (user : Option Credentials) (selected : UInt8) : Io HandshakeError Unit :=
  if selected = Method.USER_PASS then
    match user with
    | some creds => authUserpass creds
    | none => bail (.msg "socks5: auth required but no credentials")
  else if selected = Method.NO_AUTH then pure ()
  else if selected = Method.NONE_ACCEPTABLE then bail (.msg "socks5: no acceptable auth method")
  else bail (.msg ("socks5: unsupported method " ++ hex selected))

/-- The reply to CONNECT, up to the first byte of proxied data. -/
def readReply : Io HandshakeError Unit := do
  let rep ← readExact 3
  if rep[1] ≠ 0x00 then bail (.msg ("socks5: CONNECT rejected: " ++ replyStr rep[1]))
  else readBindAddr

/-- The one method the client offers. -/
def offered (user : Option Credentials) : UInt8 :=
  match user with
  | some _ => Method.USER_PASS
  | none => Method.NO_AUTH

def clientHandshake (target : SocketAddr) (user : Option Credentials) : Io HandshakeError Unit := do
  writeAll [VERSION, 0x01, offered user]
  let greeting ← readExact 2
  if greeting[0] ≠ VERSION then
    bail (.msg ("socks5: version mismatched (got " ++ hex greeting[0] ++ ")"))
  else do
    selectMethod user greeting[1]
    writeAll ((BindAddr.ip target.ip).writeRequest [VERSION, Cmd.CONNECT, 0x00] target.port)
    readReply

end SmoltcpSocks.Socks5
