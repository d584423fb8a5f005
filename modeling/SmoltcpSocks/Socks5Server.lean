import SmoltcpSocks.Socks5

/-! A server's view of the handshake: a decoder for the client's messages after RFC 1928 and RFC 1929.
It is written from the RFCs, not from the client, and covers what a client may send, not only what
this one does. A client that gives up simply sends no further message. -/

namespace SmoltcpSocks.Socks5

open ByteStream

/-- Where a CONNECT request goes. -/
inductive Destination where
  | ip (ip : IpAddr)
  | domain (name : List UInt8)
  deriving DecidableEq

/-- What a server learns from the bytes of a client. -/
structure ClientMessages where
  methods : List UInt8
  auth : Option (List UInt8 × List UInt8)
  connect : Option (Destination × UInt16)
  deriving DecidableEq

def decodeField : List UInt8 → Option (List UInt8 × List UInt8)
  | n :: rest => (splitFront n.toNat rest).map fun (field, rest) => (field.toList, rest)
  | [] => none

/-- VER, NMETHODS, METHODS. -/
def decodeGreeting : List UInt8 → Option (List UInt8 × List UInt8)
  | 0x05 :: rest => decodeField rest
  | _ => none

/-- VER, ULEN, UNAME, PLEN, PASSWD. -/
def decodeAuth : List UInt8 → Option ((List UInt8 × List UInt8) × List UInt8)
  | 0x01 :: rest => do
      let (username, rest) ← decodeField rest
      let (password, rest) ← decodeField rest
      some ((username, password), rest)
  | _ => none

/-- ATYP, DST.ADDR. -/
def decodeAddr : List UInt8 → Option (Destination × List UInt8)
  | 0x01 :: rest => (splitFront 4 rest).map fun (octets, rest) => (.ip (.v4 octets), rest)
  | 0x04 :: rest => (splitFront 16 rest).map fun (octets, rest) => (.ip (.v6 octets), rest)
  | 0x03 :: rest => (decodeField rest).map fun (name, rest) => (.domain name, rest)
  | _ => none

/-- DST.PORT in network order. -/
def decodePort : List UInt8 → Option (UInt16 × List UInt8)
  | hi :: lo :: rest => some (UInt16.ofNat (hi.toNat * 256 + lo.toNat), rest)
  | _ => none

/-- VER, CMD, RSV, DST.ADDR, DST.PORT of a CONNECT request. -/
def decodeConnect : List UInt8 → Option ((Destination × UInt16) × List UInt8)
  | 0x05 :: 0x01 :: 0x00 :: rest => do
      let (addr, rest) ← decodeAddr rest
      let (port, rest) ← decodePort rest
      some ((addr, port), rest)
  | _ => none

/-- A message, if the client sent any more bytes. -/
def decodeAny {α : Type} (decode : List UInt8 → Option (α × List UInt8)) :
    List UInt8 → Option (Option α × List UInt8)
  | [] => some (none, [])
  | bytes => (decode bytes).map fun (message, rest) => (some message, rest)

/-- All messages of a client to a server that selected the given method. -/
def decodeClient (selected : UInt8) (bytes : List UInt8) : Option (ClientMessages × List UInt8) := do
  let (methods, rest) ← decodeGreeting bytes
  let (auth, rest) ← if selected = 0x02 then decodeAny decodeAuth rest else some (none, rest)
  let (connect, rest) ← decodeAny decodeConnect rest
  some (⟨methods, auth, connect⟩, rest)

theorem decodeField_append {field : List UInt8} (h : field.length ≤ 255) (rest : List UInt8) :
    decodeField (UInt8.ofNat field.length :: (field ++ rest)) = some (field, rest) := by
  have hlen : (UInt8.ofNat field.length).toNat = field.length := by
    rw [UInt8.toNat_ofNat']
    omega
  have hsplit : splitFront (UInt8.ofNat field.length).toNat (field ++ rest) =
      some (⟨field.toArray, by simp [hlen]⟩, rest) := splitFront_eq_some_iff.mpr rfl
  rw [decodeField, hsplit]
  rfl

theorem decodeAuth_authMessage {u p : List UInt8} (hu : u.length ≤ 255) (hp : p.length ≤ 255)
    (rest : List UInt8) : decodeAuth (authMessage u p ++ rest) = some ((u, p), rest) := by
  have hsplit : authMessage u p ++ rest =
      0x01 :: UInt8.ofNat u.length :: (u ++ (UInt8.ofNat p.length :: (p ++ rest))) := by
    simp [authMessage]
  rw [hsplit]
  simp [decodeAuth, decodeField_append hu, decodeField_append hp]

theorem decodePort_toBeBytes (port : UInt16) (rest : List UInt8) :
    decodePort (toBeBytes port ++ rest) = some (port, rest) := by
  have hlt := port.toNat_lt
  have hport : UInt16.ofNat ((UInt8.ofNat (port.toNat / 256)).toNat * 256 +
      (UInt8.ofNat (port.toNat % 256)).toNat) = port := by
    apply UInt16.toNat_inj.mp
    simp only [UInt16.toNat_ofNat', UInt8.toNat_ofNat']
    omega
  simp only [toBeBytes, decodePort, List.cons_append, List.nil_append, hport]

/-- The request the client builds is the one for its target. -/
theorem decodeConnect_writeRequest (ip : IpAddr) (port : UInt16) (rest : List UInt8) :
    decodeConnect ((BindAddr.ip ip).writeRequest [VERSION, Cmd.CONNECT, 0x00] port ++ rest) =
      some ((.ip ip, port), rest) := by
  rcases ip with octets | octets
  · have hsplit := splitFront_append octets (toBeBytes port ++ rest)
    simp [BindAddr.writeRequest, VERSION, Cmd.CONNECT, Atyp.IPV4, decodeConnect, decodeAddr, hsplit,
      decodePort_toBeBytes]
  · have hsplit := splitFront_append octets (toBeBytes port ++ rest)
    simp [BindAddr.writeRequest, VERSION, Cmd.CONNECT, Atyp.IPV6, decodeConnect, decodeAddr, hsplit,
      decodePort_toBeBytes]

theorem decodeGreeting_append (method : UInt8) (rest : List UInt8) :
    decodeGreeting ([VERSION, 0x01, method] ++ rest) = some ([method], rest) := by
  have hfield : [method].length ≤ 255 := by simp
  exact decodeField_append hfield rest

theorem decodeAny_of_some {α : Type} {decode : List UInt8 → Option (α × List UInt8)}
    {bytes rest : List UInt8} {message : α} (hdecode : decode bytes = some (message, rest))
    (hne : bytes ≠ []) : decodeAny decode bytes = some (some message, rest) := by
  cases bytes with
  | nil => exact absurd rfl hne
  | cons b bytes => simp [decodeAny, hdecode]

end SmoltcpSocks.Socks5
