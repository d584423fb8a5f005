import SmoltcpSocks.ByteStream

/-! What holds of every program that is put together from exact reads, writes and failures: it sees of the peer's
stream only the bytes it reads, and a peer that stops accepting writes has taken the first bytes of what it
would have been given otherwise. `Consumes` bounds the bytes a program reads, and `Coupled` compares the runs of two
programs that write different bytes. -/

namespace ByteStream

variable {ε α β : Type}

/-- The programs that are put together from reads, writes and failures. -/
inductive Program : {α : Type} → Io ε α → Prop
  | pure {α : Type} (a : α) : Program (Pure.pure a)
  | bail {α : Type} (e : ε) : Program (ByteStream.bail e : Io ε α)
  | readExact (n : Nat) : Program (ByteStream.readExact n)
  | writeAll (data : List UInt8) : Program (ByteStream.writeAll data)
  | bind {α β : Type} {x : Io ε α} {f : α → Io ε β} : Program x → (∀ a, Program (f a)) → Program (x >>= f)

namespace Peer

/-- The same peer with further bytes behind its stream. -/
def extend (p : Peer ε) (more : List UInt8) : Peer ε := { p with unread := p.unread ++ more }

/-- The same peer, accepting everything written to it. -/
def accepting (p : Peer ε) : Peer ε := { p with refuse := none }

/-- The same peer with room for `room` further bytes, then failing with `e`. -/
def withRoom (p : Peer ε) (room : Nat) (e : ε) : Peer ε := { p with refuse := some (room, e) }

theorem withRoom_accepting {p : Peer ε} {room : Nat} {e : ε} (h : p.refuse = some (room, e)) :
    p.accepting.withRoom room e = p := by
  rw [withRoom, ← h]
  rfl

theorem accepting_withRoom {p : Peer ε} (h : p.refuse = none) (room : Nat) (e : ε) :
    (p.withRoom room e).accepting = p := by
  rw [accepting, ← h]
  rfl

end Peer

variable {x : Io ε α} {f : α → Io ε β} {p : Peer ε}

/-- No program takes back what it has written. -/
theorem Program.appends (h : Program x) : Appends x := by
  induction h with
  | pure a => exact (Silent.pure a).appends
  | bail e => exact (Silent.bail e).appends
  | readExact n => exact (Silent.readExact n).appends
  | writeAll data => exact .writeAll data
  | bind _ _ ihx ihf => exact ihx.bind ihf

/-- A peer that accepts everything keeps doing so. -/
theorem Program.refuse_none (h : Program x) (haccept : p.refuse = none) : (x p).2.refuse = none := by
  induction h generalizing p with
  | pure a => exact haccept
  | bail e => exact haccept
  | readExact n =>
      unfold ByteStream.readExact
      rcases splitFront n p.unread with _ | _ <;> exact haccept
  | writeAll data =>
      rw [writeAll_accepted data haccept]
      exact haccept
  | @bind α β x f _ _ ihx ihf =>
      have hx := ihx haccept
      rw [bind_apply]
      rcases hp : x p with ⟨e | a, q⟩ <;> rw [hp] at hx
      · exact hx
      · exact ihf a hx

/-- How a program runs that writes `w` to a peer which accepts everything, when the peer has room for `room` bytes
only: as it does there if `w` fits, and else it fails with the peer's error at the byte that is refused. -/
def Refused (room : Nat) (e : ε) (x : Io ε α) (p : Peer ε) (w : List UInt8) : Prop :=
  if w.length ≤ room then
    x p = ((x p.accepting).1, (x p.accepting).2.withRoom (room - w.length) e)
  else (x p).1 = .error e ∧ (x p).2.written = p.written ++ w.take room

/-- A refused write anywhere in a program ends it there. -/
theorem Program.refused (h : Program x) {room : Nat} {e : ε} (hrefuse : p.refuse = some (room, e)) :
    ∃ w, (x p.accepting).2.written = p.written ++ w ∧ Refused room e x p w := by
  have hsilent {α : Type} {x : Io ε α} {p : Peer ε} {room : Nat} (hwritten : (x p.accepting).2.written = p.written)
      (hx : x p = ((x p.accepting).1, (x p.accepting).2.withRoom room e)) :
      ∃ w, (x p.accepting).2.written = p.written ++ w ∧ Refused room e x p w := by
    refine ⟨[], by rw [hwritten, List.append_nil], ?_⟩
    exact (if_pos (Nat.zero_le room)).mpr hx
  induction h generalizing p room with
  | pure a => exact hsilent rfl (Prod.ext rfl (Peer.withRoom_accepting hrefuse).symm)
  | bail e => exact hsilent rfl (Prod.ext rfl (Peer.withRoom_accepting hrefuse).symm)
  | readExact n =>
      apply hsilent (Silent.readExact n _)
      unfold ByteStream.readExact
      simp only [Peer.accepting, Peer.withRoom, ← hrefuse]
      rcases splitFront n p.unread with _ | _ <;> rfl
  | writeAll data =>
      have haccepting : ByteStream.writeAll data p.accepting =
          (.ok (), { p.accepting with written := p.written ++ data }) := writeAll_accepted data rfl
      refine ⟨data, by rw [haccepting], ?_⟩
      unfold Refused
      rw [haccepting]
      simp only [ByteStream.writeAll, hrefuse]
      split_ifs with hroom
      · rfl
      · exact ⟨rfl, rfl⟩
  | @bind α β x f hx hf ihx ihf =>
      obtain ⟨w, hw, hfirst⟩ := ihx hrefuse
      have hnone := hx.refuse_none (p := p.accepting) rfl
      unfold Refused at hfirst ⊢
      simp only [bind_apply]
      rcases hrun : x p.accepting with ⟨e' | a, q⟩ <;> rw [hrun] at hw hfirst hnone
      · -- the first part fails anyway
        refine ⟨w, hw, ?_⟩
        split_ifs at hfirst ⊢ with hroom
        · rw [hfirst]
        · rcases hp : x p with ⟨e₁ | a, q₁⟩ <;> rw [hp] at hfirst <;> cases hfirst.1
          exact ⟨rfl, hfirst.2⟩
      · split_ifs at hfirst with hroom
        · have hsecond := Peer.accepting_withRoom hnone (room - w.length) e
          obtain ⟨w', hw', hrest⟩ := ihf a (p := q.withRoom (room - w.length) e) rfl
          rw [Refused, hsecond] at hrest
          rw [hsecond] at hw'
          refine ⟨w ++ w', ?_, ?_⟩
          · rw [← List.append_assoc, ← hw]
            exact hw'
          rw [hfirst, List.length_append]
          split_ifs at hrest ⊢ with hroom' hsum hsum
          · exact hrest.trans (by rw [Nat.sub_sub])
          · omega
          · omega
          · refine ⟨hrest.1, hrest.2.trans ?_⟩
            rw [List.take_append, List.take_of_length_le hroom, ← List.append_assoc, ← hw]
            rfl
        · obtain ⟨rest, hrest⟩ := (hf a).appends q
          refine ⟨w ++ rest, by rw [← hrest, ← List.append_assoc, ← hw], ?_⟩
          rw [if_neg (by rw [List.length_append]; omega)]
          rcases hp : x p with ⟨e₁ | a₁, q₁⟩ <;> rw [hp] at hfirst <;> cases hfirst.1
          refine ⟨rfl, hfirst.2.trans ?_⟩
          rw [List.take_append_of_le_length (by omega)]

/-- The program ran out of the stream. -/
def RanOut (x : Io ε α) (p : Peer ε) : Prop := (x p).1 = .error p.ending ∧ (x p).2.unread = []

/-- A program that reads at most `n` bytes of the stream and sees no more than it reads: bytes behind them change
nothing but what it leaves, unless it ran out of a stream of less than `n` bytes. -/
structure Consumes (n : Nat) (x : Io ε α) : Prop where
  ending : ∀ p, (x p).2.ending = p.ending
  read : ∀ p, ∃ read, p.unread = read ++ (x p).2.unread ∧ read.length ≤ n
  more : ∀ p more, x (p.extend more) = ((x p).1, (x p).2.extend more) ∨ (RanOut x p ∧ p.unread.length < n)

theorem Consumes.pure (a : α) : Consumes 0 (Pure.pure a : Io ε α) where
  ending _ := rfl
  read _ := ⟨[], rfl, Nat.le_refl 0⟩
  more _ _ := Or.inl rfl

theorem Consumes.bail (e : ε) : Consumes 0 (ByteStream.bail e : Io ε α) where
  ending _ := rfl
  read _ := ⟨[], rfl, Nat.le_refl 0⟩
  more _ _ := Or.inl rfl

theorem Consumes.writeAll (data : List UInt8) : Consumes 0 (ByteStream.writeAll data : Io ε Unit) := by
  have hcases (p : Peer ε) : ∃ (result : Except ε Unit) (written : List UInt8) (refuse : Option (Nat × ε)),
      ∀ unread, ByteStream.writeAll data { p with unread := unread } = (result, ⟨unread, p.ending, written, refuse⟩) := by
    rcases hrefuse : p.refuse with _ | ⟨room, e⟩
    · exact ⟨.ok (), p.written ++ data, none, fun _ => rfl⟩
    · by_cases hroom : data.length ≤ room
      · exact ⟨.ok (), p.written ++ data, some (room - data.length, e), fun _ => if_pos hroom⟩
      · exact ⟨.error e, p.written ++ data.take room, some (0, e), fun _ => if_neg hroom⟩
  constructor
  · intro p
    obtain ⟨_, _, _, h⟩ := hcases p
    rw [h p.unread]
  · intro p
    obtain ⟨_, _, _, h⟩ := hcases p
    rw [h p.unread]
    exact ⟨[], rfl, Nat.le_refl 0⟩
  · intro p more
    obtain ⟨_, _, _, h⟩ := hcases p
    left
    rw [Peer.extend, h (p.unread ++ more), h p.unread]
    rfl

theorem Consumes.readExact (n : Nat) : Consumes n (ByteStream.readExact n : Io ε _) := by
  have hcases (p : Peer ε) : p.unread.length < n ∨
      ∃ data rest, p.unread = Vector.toList (n := n) data ++ rest := by
    by_cases hshort : p.unread.length < n
    · exact Or.inl hshort
    · refine Or.inr ⟨⟨(p.unread.take n).toArray, by simp; omega⟩, p.unread.drop n, ?_⟩
      exact splitFront_eq_some_iff.mp (dif_pos (by omega))
  constructor
  · intro p
    rcases hcases p with hshort | ⟨data, rest, hunread⟩
    · rw [readExact_short hshort]
    · rw [readExact_append data rest hunread]
  · intro p
    rcases hcases p with hshort | ⟨data, rest, hunread⟩
    · rw [readExact_short hshort]
      exact ⟨p.unread, (List.append_nil _).symm, Nat.le_of_lt hshort⟩
    · rw [readExact_append data rest hunread]
      exact ⟨data.toList, hunread, Nat.le_of_eq Vector.length_toList⟩
  · intro p more
    rcases hcases p with hshort | ⟨data, rest, hunread⟩
    · refine Or.inr ⟨?_, hshort⟩
      rw [RanOut, readExact_short hshort]
      exact ⟨rfl, rfl⟩
    · left
      rw [readExact_append data rest hunread]
      apply readExact_append data (rest ++ more)
      rw [← List.append_assoc, ← hunread]
      rfl

theorem Consumes.mono {m n : Nat} (h : Consumes m x) (hle : m ≤ n) : Consumes n x := by
  refine ⟨h.ending, fun p => ?_, fun p more => ?_⟩
  · obtain ⟨read, hread, hlength⟩ := h.read p
    exact ⟨read, hread, Nat.le_trans hlength hle⟩
  · rcases h.more p more with hsame | ⟨hend, hshort⟩
    · exact Or.inl hsame
    · exact Or.inr ⟨hend, Nat.lt_of_lt_of_le hshort hle⟩

/-- A sequence reads what its parts read; the second part needs its bound only for values of the first. -/
theorem Consumes.bind {m n : Nat} (hx : Consumes m x) (hf : ∀ a p q, x p = (.ok a, q) → Consumes n (f a)) :
    Consumes (m + n) (x >>= f) := by
  refine ⟨fun p => ?_, fun p => ?_, fun p more => ?_⟩
  · have hending := hx.ending p
    rw [bind_apply]
    rcases hp : x p with ⟨e | a, q⟩ <;> rw [hp] at hending
    · exact hending
    · exact ((hf a p q hp).ending q).trans hending
  · obtain ⟨read, hread, hlength⟩ := hx.read p
    rw [bind_apply]
    rcases hp : x p with ⟨e | a, q⟩ <;> rw [hp] at hread
    · exact ⟨read, hread, by omega⟩
    · obtain ⟨read', hread', hlength'⟩ := (hf a p q hp).read q
      refine ⟨read ++ read', ?_, by rw [List.length_append]; omega⟩
      rw [List.append_assoc, ← hread', hread]
  · have hending := hx.ending p
    have hmore := hx.more p more
    obtain ⟨read, hread, hlength⟩ := hx.read p
    unfold RanOut at hmore ⊢
    rw [bind_apply, bind_apply]
    rcases hp : x p with ⟨e | a, q⟩ <;> rw [hp] at hmore hending hread
    · rcases hmore with hsame | ⟨⟨herror, hunread⟩, hshort⟩
      · exact Or.inl (by rw [hsame])
      · cases herror
        exact Or.inr ⟨⟨rfl, hunread⟩, by omega⟩
    · rcases hmore with hsame | ⟨⟨herror, _⟩, _⟩
      · rw [hsame]
        rcases (hf a p q hp).more q more with hrest | ⟨hend, hshort⟩
        · exact Or.inl hrest
        · rw [RanOut, hending] at hend
          have hsum : p.unread.length = read.length + q.unread.length := by rw [hread, List.length_append]
          exact Or.inr ⟨hend, by omega⟩
      · cases herror

/-- The first `n` bytes decide how the program ends and what it writes. -/
theorem Consumes.take {n : Nat} (h : Consumes n x) (p : Peer ε) :
    x p = ((x { p with unread := p.unread.take n }).1,
      (x { p with unread := p.unread.take n }).2.extend (p.unread.drop n)) := by
  have hp : ({ p with unread := p.unread.take n } : Peer ε).extend (p.unread.drop n) = p := by
    simp [Peer.extend]
  rcases h.more { p with unread := p.unread.take n } (p.unread.drop n) with hsame | ⟨_, hshort⟩
  · rwa [hp] at hsame
  · have hall : p.unread.length ≤ n := by
      simp only [List.length_take] at hshort
      omega
    simp only [List.take_of_length_le hall, List.drop_of_length_le hall, Peer.extend, List.append_nil]

/-- Peers that a program cannot tell apart: they have been given the same number of bytes. -/
structure Peer.Alike (p q : Peer ε) : Prop where
  unread : p.unread = q.unread
  ending : p.ending = q.ending
  refuse : p.refuse = q.refuse
  written : p.written.length = q.written.length

theorem Peer.Alike.refl (p : Peer ε) : p.Alike p := ⟨rfl, rfl, rfl, rfl⟩

/-- Programs that come to the same outcome against peers that are alike, and leave them alike. -/
def Coupled (x y : Io ε α) : Prop := ∀ p q, p.Alike q → (x p).1 = (y q).1 ∧ (x p).2.Alike (y q).2

theorem Coupled.writeAll {data data' : List UInt8} (h : data.length = data'.length) :
    Coupled (ByteStream.writeAll data : Io ε Unit) (ByteStream.writeAll data') := by
  intro p q hpq
  unfold ByteStream.writeAll
  rw [← hpq.refuse]
  rcases hrefuse : p.refuse with _ | ⟨room, e⟩
  · refine ⟨rfl, hpq.unread, hpq.ending, rfl, ?_⟩
    simp [hpq.written, h]
  · simp only [← h]
    split_ifs with hroom
    · refine ⟨rfl, hpq.unread, hpq.ending, rfl, ?_⟩
      simp [hpq.written, h]
    · refine ⟨rfl, hpq.unread, hpq.ending, rfl, ?_⟩
      simp [hpq.written, h]

theorem Coupled.bind {x y : Io ε α} {f g : α → Io ε β} (hxy : Coupled x y) (hfg : ∀ a, Coupled (f a) (g a)) :
    Coupled (x >>= f) (y >>= g) := by
  intro p q hpq
  have hfirst := hxy p q hpq
  rw [bind_apply, bind_apply]
  rcases hx : x p with ⟨e | a, p'⟩ <;> rcases hy : y q with ⟨e' | a', q'⟩ <;> rw [hx, hy] at hfirst <;>
    obtain ⟨hresult, halike⟩ := hfirst <;> cases hresult
  · exact ⟨rfl, halike⟩
  · exact hfg a p' q' halike

end ByteStream
