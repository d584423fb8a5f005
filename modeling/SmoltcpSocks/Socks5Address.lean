import SmoltcpSocks.Socks5Grammar
import SmoltcpSocks.Socks5Server

/-! The address encoder `write_request` and the address reader `read_bind_addr`. The encoder puts the length of
a domain name into one byte, so the reader passes over the whole name only up to 255 bytes, and the encoding of
a longer name can begin with that of another one. -/

namespace SmoltcpSocks.Socks5

open ByteStream

/-- The bytes that `write_request` appends. -/
def encoding (addr : BindAddr) (port : UInt16) : List UInt8 := addr.writeRequest [] port

/-- The length of the address fits into the byte in front of it, if there is one. -/
def BindAddr.Fits : BindAddr → Prop
  | .ip _ => True
  | .domain d => (asBytes d).length ≤ 255

/-- Two domain names with one length byte, of which the longer begins with the shorter and its port. -/
def RunsInto (addr : BindAddr) (port : UInt16) (addr' : BindAddr) : Prop :=
  ∃ d e, addr = .domain d ∧ addr' = .domain e ∧ (asBytes d).length % 256 = (asBytes e).length % 256 ∧
    asBytes d ++ toBeBytes port <+: asBytes e

/-- How many bytes of an encoding the reader consumes. -/
def BindAddr.consumed : BindAddr → Nat
  | .ip (.v4 _) => 7
  | .ip (.v6 _) => 19
  | .domain d => (asBytes d).length % 256 + 4

theorem writeRequest_eq_append (addr : BindAddr) (w : List UInt8) (port : UInt16) :
    addr.writeRequest w port = w ++ encoding addr port := by
  rcases addr with (octets | octets) | d <;> simp [encoding, BindAddr.writeRequest]

theorem encoding_v4 (octets : Vector UInt8 4) (port : UInt16) :
    encoding (.ip (.v4 octets)) port = 1 :: (octets.toList ++ toBeBytes port) := by
  simp [encoding, BindAddr.writeRequest, Atyp.IPV4]

theorem encoding_v6 (octets : Vector UInt8 16) (port : UInt16) :
    encoding (.ip (.v6 octets)) port = 4 :: (octets.toList ++ toBeBytes port) := by
  simp [encoding, BindAddr.writeRequest, Atyp.IPV6]

theorem encoding_domain (d : String) (port : UInt16) :
    encoding (.domain d) port =
      3 :: UInt8.ofNat (asBytes d).length :: (asBytes d ++ toBeBytes port) := by
  simp [encoding, BindAddr.writeRequest, Atyp.DOMAIN]

@[simp] theorem length_toBeBytes (port : UInt16) : (toBeBytes port).length = 2 := rfl

/-- An encoding is as long as what the reader consumes, or longer when the address does not fit. -/
theorem length_encoding (addr : BindAddr) (port : UInt16) :
    addr.consumed ≤ (encoding addr port).length ∧ (addr.consumed = (encoding addr port).length ↔ addr.Fits) := by
  rcases addr with (octets | octets) | d
  · simp [encoding_v4, BindAddr.consumed, BindAddr.Fits]
  · simp [encoding_v6, BindAddr.consumed, BindAddr.Fits]
  · simp only [encoding_domain, BindAddr.consumed, BindAddr.Fits, List.length_cons, List.length_append,
      length_toBeBytes]
    omega

variable {ending : HandshakeError}

theorem readBindAddr_cons {t : UInt8} {l : List UInt8} {n : Nat} (haddr : Address t (l.take n))
    (hlen : n + 2 ≤ l.length) :
    readBindAddr (.sending (t :: l) ending) = (.ok (), .sending (l.drop (n + 2)) ending) := by
  refine readBindAddr_ok_iff.mpr ⟨t, l.take n, (l.drop n).take 2, l.drop (n + 2), ?_, haddr, ?_, rfl⟩
  · rw [← List.drop_drop, List.append_assoc, List.append_assoc, List.take_append_drop, List.take_append_drop]
    rfl
  · rw [List.length_take, List.length_drop]
    omega

/-- The reader accepts every encoding and consumes as much of it as the length byte says. -/
theorem readBindAddr_encoding (addr : BindAddr) (port : UInt16) (suffix : List UInt8) :
    readBindAddr (.sending (encoding addr port ++ suffix) ending) =
      (.ok (), .sending ((encoding addr port ++ suffix).drop addr.consumed) ending) := by
  rcases addr with (octets | octets) | d
  · rw [encoding_v4, List.cons_append]
    refine readBindAddr_cons (n := 4) (Or.inl ⟨rfl, by simp⟩) ?_
    rw [List.length_append, List.length_append, Vector.length_toList, length_toBeBytes]
    omega
  · rw [encoding_v6, List.cons_append]
    refine readBindAddr_cons (n := 16) (Or.inr (Or.inl ⟨rfl, by simp⟩)) ?_
    rw [List.length_append, List.length_append, Vector.length_toList, length_toBeBytes]
    omega
  · have hbyte : (UInt8.ofNat (asBytes d).length).toNat = (asBytes d).length % 256 := UInt8.toNat_ofNat'
    rw [encoding_domain, List.cons_append, List.cons_append]
    refine readBindAddr_cons (n := (asBytes d).length % 256 + 1)
      (Or.inr (Or.inr ⟨rfl, UInt8.ofNat (asBytes d).length, _, rfl, ?_⟩)) ?_
    · rw [hbyte, List.length_take, List.length_append, List.length_append]
      omega
    · rw [List.length_cons, List.length_append, List.length_append, length_toBeBytes]
      omega

/-- The suffix is left unread exactly when the length of the address fits. -/
theorem readBindAddr_leaves_iff (addr : BindAddr) (port : UInt16) (suffix : List UInt8) :
    ((readBindAddr (.sending (encoding addr port ++ suffix) ending)).1 = .ok () ∧
      (readBindAddr (.sending (encoding addr port ++ suffix) ending)).2.unread = suffix) ↔ addr.Fits := by
  obtain ⟨hle, hfits⟩ := length_encoding addr port
  rw [readBindAddr_encoding, ← hfits]
  constructor
  · rintro ⟨_, hunread⟩
    have hlen := congrArg List.length hunread
    rw [Peer.sending, List.length_drop, List.length_append] at hlen
    omega
  · intro hlen
    rw [hlen]
    exact ⟨rfl, List.drop_left⟩

theorem asBytes_inj {d e : String} (h : asBytes d = asBytes e) : d = e :=
  String.toByteArray_inj.mp (ByteArray.ext (Array.toList_inj.mp h))

theorem toBeBytes_inj {port port' : UInt16} (h : toBeBytes port = toBeBytes port') : port = port' := by
  have hdecode := decodePort_toBeBytes port []
  rw [h, decodePort_toBeBytes] at hdecode
  cases hdecode
  rfl

theorem lengthByte_eq_iff {m n : Nat} : UInt8.ofNat m = UInt8.ofNat n ↔ m % 256 = n % 256 := by
  rw [← UInt8.toNat_inj, UInt8.toNat_ofNat', UInt8.toNat_ofNat']

variable {addr addr' : BindAddr} {port port' : UInt16} {d e : String}

/-- Behind addresses of one length the ports stand at one place. -/
theorem eq_of_append_prefix {l l' : List UInt8} (hlen : l.length = l'.length)
    (h : l ++ toBeBytes port <+: l' ++ toBeBytes port') : l = l' ∧ port = port' := by
  have heq := h.eq_of_length (by simp [hlen])
  obtain ⟨hl, hport⟩ := List.append_inj heq hlen
  exact ⟨hl, toBeBytes_inj hport⟩

theorem encoding_domain_prefix_iff (hne : (d, port) ≠ (e, port')) :
    encoding (.domain d) port <+: encoding (.domain e) port' ↔
      (asBytes d).length % 256 = (asBytes e).length % 256 ∧ asBytes d ++ toBeBytes port <+: asBytes e := by
  rw [encoding_domain, encoding_domain, List.cons_prefix_cons, List.cons_prefix_cons, lengthByte_eq_iff]
  refine ⟨fun ⟨_, hbyte, h⟩ => ⟨hbyte, ?_⟩, fun ⟨hbyte, h⟩ => ⟨rfl, hbyte, h.trans (List.prefix_append _ _)⟩⟩
  have hle := h.length_le
  rw [List.length_append, List.length_append, length_toBeBytes, length_toBeBytes] at hle
  by_cases hlen : (asBytes d).length = (asBytes e).length
  · obtain ⟨hbytes, rfl⟩ := eq_of_append_prefix hlen h
    cases asBytes_inj hbytes
    exact absurd rfl hne
  · -- lengths with the same byte differ by 256 at least, which leaves room for the port
    refine List.prefix_of_prefix_length_le h (List.prefix_append _ _) ?_
    rw [List.length_append, length_toBeBytes]
    omega

theorem eq_of_encoding_ip_prefix {ip : IpAddr} (h : encoding (.ip ip) port <+: encoding addr' port') :
    BindAddr.ip ip = addr' ∧ port = port' := by
  rcases ip with octets | octets <;> rcases addr' with (octets' | octets') | e <;>
    simp only [encoding_v4, encoding_v6, encoding_domain, List.cons_prefix_cons] at h
  case v4.ip.v4 | v6.ip.v6 =>
    obtain ⟨hoctets, rfl⟩ := eq_of_append_prefix (by rw [Vector.length_toList, Vector.length_toList]) h.2
    rw [Vector.toList_inj.mp hoctets]
    exact ⟨rfl, rfl⟩
  -- addresses of different types differ in their first byte
  all_goals exact absurd h.1 (by decide)

theorem not_encoding_domain_prefix {ip : IpAddr} : ¬ encoding (.domain d) port <+: encoding (.ip ip) port' := by
  intro h
  rcases ip with octets | octets <;>
    simp only [encoding_v4, encoding_v6, encoding_domain, List.cons_prefix_cons] at h <;>
    exact absurd h.1 (by decide)

/-- One encoding begins another one exactly when it runs into it. -/
theorem encoding_prefix_iff (hne : (addr, port) ≠ (addr', port')) :
    encoding addr port <+: encoding addr' port' ↔ RunsInto addr port addr' := by
  cases addr with
  | ip ip =>
      constructor
      · intro h
        obtain ⟨rfl, rfl⟩ := eq_of_encoding_ip_prefix h
        exact absurd rfl hne
      · rintro ⟨d, e, hip, _⟩
        cases hip
  | domain d =>
      cases addr' with
      | ip ip =>
          refine iff_of_false not_encoding_domain_prefix ?_
          rintro ⟨d, e, _, hip, _⟩
          cases hip
      | domain e =>
          rw [encoding_domain_prefix_iff fun heq => hne (by cases heq; rfl)]
          constructor
          · exact fun h => ⟨d, e, rfl, rfl, h⟩
          · rintro ⟨d', e', hd, he, h⟩
            cases hd
            cases he
            exact h

/-- A name whose length fits is run into by no other. -/
theorem BindAddr.Fits.not_runsInto (h : addr'.Fits) : ¬ RunsInto addr port addr' := by
  rintro ⟨d, e, rfl, rfl, hbyte, hstarts⟩
  have hle := hstarts.length_le
  rw [List.length_append, length_toBeBytes] at hle
  rw [BindAddr.Fits] at h
  omega

/-- The reader undoes the encoder exactly when the length of the address fits into its byte, and of two
encodings neither begins the other exactly when neither runs into the other, which they never do when both
lengths fit. -/
theorem encoder_reader_agree_iff (addr addr' : BindAddr) (port port' : UInt16) (w suffix : List UInt8)
    (ending : HandshakeError) :
    addr.writeRequest w port = w ++ encoding addr port ∧
    (((readBindAddr (.sending (encoding addr port ++ suffix) ending)).1 = .ok () ∧
      (readBindAddr (.sending (encoding addr port ++ suffix) ending)).2.unread = suffix) ↔ addr.Fits) ∧
    ((addr, port) ≠ (addr', port') →
      ((¬ encoding addr port <+: encoding addr' port' ∧ ¬ encoding addr' port' <+: encoding addr port) ↔
        ¬ RunsInto addr port addr' ∧ ¬ RunsInto addr' port' addr)) ∧
    ((addr, port) ≠ (addr', port') → addr.Fits → addr'.Fits →
      ¬ encoding addr port <+: encoding addr' port' ∧ ¬ encoding addr' port' <+: encoding addr port) := by
  refine ⟨writeRequest_eq_append addr w port, readBindAddr_leaves_iff addr port suffix, fun hne => ?_, ?_⟩
  · rw [encoding_prefix_iff hne, encoding_prefix_iff hne.symm]
  · intro hne hfits hfits'
    rw [encoding_prefix_iff hne, encoding_prefix_iff hne.symm]
    exact ⟨hfits'.not_runsInto, hfits.not_runsInto⟩

/-- Two names that fit, the longer of which begins with the shorter. -/
theorem encoder_reader_agree_two_names :
    (readBindAddr (.sending (encoding (.domain "a.example") 80 ++ [1, 2]) (.msg "eof"))).2.unread = [1, 2] ∧
      ¬ encoding (.domain "a.example") 80 <+: encoding (.domain "a.example.org") 80 := by
  have hfits : (BindAddr.domain "a.example").Fits ∧ (BindAddr.domain "a.example.org").Fits := by
    constructor <;> rw [BindAddr.Fits] <;> decide
  obtain ⟨_, hleaves, _, hstarts⟩ :=
    encoder_reader_agree_iff (.domain "a.example") (.domain "a.example.org") 80 80 [] [1, 2] (.msg "eof")
  exact ⟨(hleaves.mpr hfits.1).2, (hstarts (by decide) hfits.1 hfits.2).1⟩

/-- The length byte of a name of 256 bytes is zero: the reader leaves most of the name unread, and the encoding
of the empty name at the port `aa` begins that of the long one. -/
theorem not_encoder_reader_agree_long_name :
    let name := String.ofList (List.replicate 256 'a')
    ¬ ((readBindAddr (.sending (encoding (.domain name) 80 ++ []) (.msg "eof"))).1 = .ok () ∧
        (readBindAddr (.sending (encoding (.domain name) 80 ++ []) (.msg "eof"))).2.unread = []) ∧
      (BindAddr.domain "", (0x6161 : UInt16)) ≠ (.domain name, 80) ∧
      encoding (.domain "") 0x6161 <+: encoding (.domain name) 80 := by
  intro name
  have hlen : (asBytes name).length = 256 := by decide +kernel
  have hne : (BindAddr.domain "", (0x6161 : UInt16)) ≠ (.domain name, 80) := by
    intro heq
    cases congrArg Prod.snd heq
  refine ⟨?_, hne, ?_⟩
  · rw [readBindAddr_leaves_iff, BindAddr.Fits]
    omega
  · refine (encoding_prefix_iff hne).mpr ⟨"", name, rfl, rfl, ?_, by decide +kernel⟩
    rw [hlen]
    rfl

end SmoltcpSocks.Socks5
