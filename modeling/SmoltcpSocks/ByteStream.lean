import Mathlib.Data.List.Basic

/-! Programs that talk to a peer over a byte stream: exact reads, writes, and failure. A program runs
against what the peer will send; its outcome is a value or an error together with what is left unread
and what has been written. `ok_bind_iff` takes an accepting run apart, `Silent` says that a program
writes nothing whatever happens in it, and `Opens` what it writes first. -/

namespace ByteStream

/-- The other end of a stream: the bytes it will still send, the error of a read past their end, the
bytes written to it, and, if it stops accepting writes, after how many bytes and with which error. -/
structure Peer (ε : Type) where
  unread : List UInt8
  ending : ε
  written : List UInt8
  refuse : Option (Nat × ε)

/-- A peer that sends `bytes` and accepts everything written to it. -/
def Peer.sending {ε : Type} (bytes : List UInt8) (ending : ε) : Peer ε := ⟨bytes, ending, [], none⟩

def Io (ε α : Type) := Peer ε → Except ε α × Peer ε

variable {ε α β : Type}

instance : Monad (Io ε) where
  pure a p := (.ok a, p)
  bind x f p := match x p with
    | (.ok a, q) => f a q
    | (.error e, q) => (.error e, q)

def bail (e : ε) : Io ε α := fun p => (.error e, p)

def splitFront (n : Nat) (bytes : List UInt8) : Option (Vector UInt8 n × List UInt8) :=
  if h : n ≤ bytes.length then some (⟨(bytes.take n).toArray, by simp [h]⟩, bytes.drop n) else none

/-- Fill a buffer of `n` bytes; a stream that ends before has then been read to its end. -/
def readExact (n : Nat) : Io ε (Vector UInt8 n) := fun p =>
  match splitFront n p.unread with
  | some (data, rest) => (.ok data, { p with unread := rest })
  | none => (.error p.ending, { p with unread := [] })

/-- Write all bytes; a peer that refuses some of them has still taken those before. -/
def writeAll (data : List UInt8) : Io ε Unit := fun p =>
  match p.refuse with
  | none => (.ok (), { p with written := p.written ++ data })
  | some (room, e) =>
      if data.length ≤ room then
        (.ok (), { p with written := p.written ++ data, refuse := some (room - data.length, e) })
      else (.error e, { p with written := p.written ++ data.take room, refuse := some (0, e) })

theorem bind_apply (x : Io ε α) (f : α → Io ε β) (p : Peer ε) :
    (x >>= f) p = match x p with
      | (.ok a, q) => f a q
      | (.error e, q) => (.error e, q) := rfl

theorem bind_ok {x : Io ε α} {f : α → Io ε β} {p q : Peer ε} {a : α} (h : x p = (.ok a, q)) :
    (x >>= f) p = f a q := by
  rw [bind_apply, h]

theorem bind_error {x : Io ε α} {f : α → Io ε β} {p q : Peer ε} {e : ε} (h : x p = (.error e, q)) :
    (x >>= f) p = (.error e, q) := by
  rw [bind_apply, h]

/-- A sequence is accepted when both its parts are. -/
theorem ok_bind_iff {x : Io ε α} {f : α → Io ε β} {p r : Peer ε} {b : β} :
    (x >>= f) p = (.ok b, r) ↔ ∃ a q, x p = (.ok a, q) ∧ f a q = (.ok b, r) := by
  rw [bind_apply]
  rcases x p with ⟨e | a, q⟩ <;> simp

/-- A guarded program is accepted when its guard does not fail and the rest is accepted. -/
theorem ok_guard_iff {c : Prop} [Decidable c] {e : ε} {x : Io ε α} {p q : Peer ε} {a : α} :
    (if c then bail e else x) p = (.ok a, q) ↔ ¬ c ∧ x p = (.ok a, q) := by
  by_cases hc : c <;> simp [hc, bail]

theorem splitFront_eq_some_iff {n : Nat} {bytes rest : List UInt8} {data : Vector UInt8 n} :
    splitFront n bytes = some (data, rest) ↔ bytes = data.toList ++ rest := by
  have hlen : data.toList.length = n := Vector.length_toList
  unfold splitFront
  constructor
  · intro h
    split at h
    · cases h
      simp [Vector.toList]
    · cases h
  · rintro rfl
    rw [dif_pos (by rw [List.length_append]; omega)]
    simp only [List.take_left' hlen, List.drop_left' hlen]
    rfl

theorem splitFront_append {n : Nat} (data : Vector UInt8 n) (rest : List UInt8) :
    splitFront n (data.toList ++ rest) = some (data, rest) :=
  splitFront_eq_some_iff.mpr rfl

/-- An exact read is accepted when the stream starts with that many bytes. -/
theorem readExact_ok_iff {n : Nat} {p q : Peer ε} {data : Vector UInt8 n} :
    readExact n p = (.ok data, q) ↔
      ∃ rest, p.unread = data.toList ++ rest ∧ q = { p with unread := rest } := by
  simp only [← splitFront_eq_some_iff]
  unfold readExact
  rcases hsplit : splitFront n p.unread with _ | ⟨data', rest'⟩
  · simp
  · constructor
    · intro h
      cases h
      exact ⟨rest', rfl, rfl⟩
    · rintro ⟨rest, h, rfl⟩
      cases h
      rfl

theorem toList_one (v : Vector α 1) : v.toList = [getElem v 0 (by decide)] := by
  rcases v with ⟨⟨l⟩, h⟩
  match l, h with
  | [a], _ => rfl

theorem toList_two (v : Vector α 2) : v.toList = [getElem v 0 (by decide), getElem v 1 (by decide)] := by
  rcases v with ⟨⟨l⟩, h⟩
  match l, h with
  | [a, b], _ => rfl

theorem toList_three (v : Vector α 3) :
    v.toList = [getElem v 0 (by decide), getElem v 1 (by decide), getElem v 2 (by decide)] := by
  rcases v with ⟨⟨l⟩, h⟩
  match l, h with
  | [a, b, c], _ => rfl

theorem readExact_append {n : Nat} {p : Peer ε} (data : Vector UInt8 n) (rest : List UInt8)
    (h : p.unread = data.toList ++ rest) : readExact n p = (.ok data, { p with unread := rest }) :=
  readExact_ok_iff.mpr ⟨rest, h, rfl⟩

theorem readExact_short {n : Nat} {p : Peer ε} (h : p.unread.length < n) :
    readExact n p = (.error p.ending, { p with unread := [] }) := by
  have hnone : splitFront n p.unread = none := dif_neg (by omega)
  rw [readExact, hnone]

theorem writeAll_accepted {p : Peer ε} (data : List UInt8) (h : p.refuse = none) :
    writeAll data p = (.ok (), { p with written := p.written ++ data }) := by
  simp [writeAll, h]

theorem bind_writeAll {p : Peer ε} {data : List UInt8} {f : Unit → Io ε β} (h : p.refuse = none) :
    (writeAll data >>= f) p = f () { p with written := p.written ++ data } :=
  bind_ok (writeAll_accepted data h)

def Silent (x : Io ε α) : Prop := ∀ p, (x p).2.written = p.written

theorem Silent.pure (a : α) : Silent (Pure.pure a : Io ε α) := fun _ => rfl

theorem Silent.bail (e : ε) : Silent (ByteStream.bail e : Io ε α) := fun _ => rfl

theorem Silent.readExact (n : Nat) : Silent (ByteStream.readExact n : Io ε _) := by
  intro p
  unfold ByteStream.readExact
  rcases splitFront n p.unread with _ | _ <;> rfl

theorem Silent.bind {x : Io ε α} {f : α → Io ε β} (hx : Silent x) (hf : ∀ a, Silent (f a)) :
    Silent (x >>= f) := by
  intro p
  have hp := hx p
  rw [bind_apply]
  rcases hxp : x p with ⟨e | a, q⟩
  · rw [hxp] at hp
    exact hp
  · rw [hxp] at hp
    exact (hf a q).trans hp

def Appends (x : Io ε α) : Prop := ∀ p, p.written <+: (x p).2.written

theorem Silent.appends {x : Io ε α} (h : Silent x) : Appends x := by
  intro p
  refine ⟨[], ?_⟩
  rw [List.append_nil, h p]

theorem Appends.writeAll (data : List UInt8) : Appends (ByteStream.writeAll data : Io ε Unit) := by
  intro p
  unfold ByteStream.writeAll
  split
  · exact List.prefix_append _ _
  · split <;> exact List.prefix_append _ _

theorem Appends.bind {x : Io ε α} {f : α → Io ε β} (hx : Appends x) (hf : ∀ a, Appends (f a)) :
    Appends (x >>= f) := by
  intro p
  have hp := hx p
  rw [bind_apply]
  rcases hxp : x p with ⟨e | a, q⟩
  · rw [hxp] at hp
    exact hp
  · rw [hxp] at hp
    exact hp.trans (hf a q)

/-- The first thing the program writes is `data`, unless it fails on the way. -/
def Opens (data : List UInt8) (x : Io ε α) : Prop :=
  ∀ p, ∃ bytes, (x p).2.written = p.written ++ bytes ∧
    (data <+: bytes ∨ (bytes <+: data ∧ ∃ e, (x p).1 = .error e))

/-- A program opens with its first write. -/
theorem Opens.writeAll {data : List UInt8} {f : Unit → Io ε β} (hf : Appends (f ())) :
    Opens data (ByteStream.writeAll data >>= f) := by
  intro p
  by_cases hroom : ∀ room e, p.refuse = some (room, e) → data.length ≤ room
  · have hok : ∃ q, ByteStream.writeAll data p = (.ok (), q) ∧ q.written = p.written ++ data := by
      rcases hrefuse : p.refuse with _ | ⟨room, e⟩
      · exact ⟨_, writeAll_accepted data hrefuse, rfl⟩
      · simp [ByteStream.writeAll, hrefuse, hroom room e hrefuse]
    obtain ⟨q, hq, hwritten⟩ := hok
    obtain ⟨rest, hrest⟩ := hf q
    refine ⟨data ++ rest, ?_, Or.inl (List.prefix_append _ _)⟩
    rw [bind_ok hq, ← hrest, hwritten, List.append_assoc]
  · simp only [not_forall] at hroom
    obtain ⟨room, e, hrefuse, hshort⟩ := hroom
    have hfail : ByteStream.writeAll data p =
        (.error e, { p with written := p.written ++ data.take room, refuse := some (0, e) }) := by
      simp [ByteStream.writeAll, hrefuse, hshort]
    refine ⟨data.take room, ?_, Or.inr ⟨List.take_prefix _ _, e, ?_⟩⟩ <;> rw [bind_error hfail]

end ByteStream
