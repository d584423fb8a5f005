import Mathlib.Data.List.Infix

/-! Splitting a list at a separator: at the first occurrence of a pattern and at the last occurrence of an
element. Each split is determined by what it says of the input: the parts give it back, and no other
occurrence comes first, or last. -/

namespace Split

variable {α : Type} [DecidableEq α]

/-- Split at the first occurrence of a pattern that is not empty. -/
def splitOnce (pat : List α) : List α → Option (List α × List α)
  | [] => none
  | c :: rest =>
      if pat <+: c :: rest then some ([], (c :: rest).drop pat.length)
      else (splitOnce pat rest).map fun parts => (c :: parts.1, parts.2)

/-- Split at the last occurrence of an element. -/
def rsplitOnce (sep : α) : List α → Option (List α × List α)
  | [] => none
  | c :: rest =>
      match rsplitOnce sep rest with
      | some (before, behind) => some (c :: before, behind)
      | none => if c = sep then some ([], rest) else none

variable {pat l before behind : List α} {sep : α}

/-- The parts give the input back, and the pattern occurs nowhere before. -/
theorem splitOnce_eq_some_iff (hpat : pat ≠ []) : splitOnce pat l = some (before, behind) ↔
    l = before ++ pat ++ behind ∧ ∀ before' behind', l = before' ++ pat ++ behind' →
      before.length ≤ before'.length := by
  induction l generalizing before with
  | nil =>
      refine ⟨nofun, ?_⟩
      rintro ⟨heq, _⟩
      simp [hpat] at heq
  | cons c rest ih =>
      rw [splitOnce]
      split
      next hstarts =>
        obtain ⟨tail, htail⟩ := hstarts
        rw [← htail, List.drop_left, Option.some.injEq, Prod.mk.injEq]
        constructor
        · rintro ⟨rfl, rfl⟩
          exact ⟨rfl, fun _ _ _ => Nat.zero_le _⟩
        · rintro ⟨heq, hfirst⟩
          have hnil : before = [] := List.length_eq_zero_iff.mp (Nat.le_zero.mp (hfirst [] tail rfl))
          subst hnil
          exact ⟨rfl, List.append_cancel_left heq⟩
      next hstarts =>
        -- the pattern does not start here, so every occurrence lies behind the first element
        have hcons {before' behind'} (heq : c :: rest = before' ++ pat ++ behind') :
            ∃ before'', before' = c :: before'' ∧ rest = before'' ++ pat ++ behind' := by
          cases before' with
          | nil => exact absurd ⟨behind', heq.symm⟩ hstarts
          | cons d before'' =>
              obtain ⟨rfl, hrest⟩ := List.cons.inj heq
              exact ⟨before'', rfl, hrest⟩
        constructor
        · intro h
          obtain ⟨⟨tail, behind'⟩, hsplit, hparts⟩ := Option.map_eq_some_iff.mp h
          cases hparts
          obtain ⟨heq, hfirst⟩ := ih.mp hsplit
          refine ⟨by rw [heq]; rfl, fun before' behind'' heq' => ?_⟩
          obtain ⟨before'', rfl, heq''⟩ := hcons heq'
          exact Nat.succ_le_succ (hfirst before'' behind'' heq'')
        · rintro ⟨heq, hfirst⟩
          obtain ⟨tail, rfl, heq'⟩ := hcons heq
          refine Option.map_eq_some_iff.mpr ⟨(tail, behind), ih.mpr ⟨heq', ?_⟩, rfl⟩
          intro before' behind' heq''
          exact Nat.le_of_succ_le_succ (hfirst (c :: before') behind' (by rw [heq'']; rfl))

theorem splitOnce_eq_none_iff (hpat : pat ≠ []) : splitOnce pat l = none ↔ ¬ pat <:+: l := by
  induction l with
  | nil => simp [splitOnce, hpat]
  | cons c rest ih =>
      rw [splitOnce, List.infix_cons_iff, not_or]
      split
      next hstarts => simp [hstarts]
      next hstarts => rw [Option.map_eq_none_iff, ih, and_iff_right hstarts]

/-- A pattern whose first element is new is found where it stands. -/
theorem splitOnce_of_notMem {tail : List α} (h : sep ∉ before) :
    splitOnce (sep :: tail) (before ++ sep :: tail ++ behind) = some (before, behind) := by
  induction before with
  | nil => simp [splitOnce]
  | cons c rest ih =>
      rw [List.mem_cons, not_or] at h
      have hstarts : ¬ sep :: tail <+: c :: (rest ++ sep :: tail ++ behind) := by
        rw [List.cons_prefix_cons]
        exact fun hstarts => h.1 hstarts.1
      rw [List.cons_append, List.cons_append, splitOnce, if_neg hstarts, ih h.2]
      rfl

/-- A pattern of two different elements is found where it stands, unless it occurs before. -/
theorem splitOnce_pair {x y : α} (hne : x ≠ y) (h : ¬ [x, y] <:+: before) :
    splitOnce [x, y] (before ++ [x, y] ++ behind) = some (before, behind) := by
  induction before with
  | nil => simp [splitOnce]
  | cons c rest ih =>
      rw [List.infix_cons_iff, not_or] at h
      have hstarts : ¬ [x, y] <+: c :: (rest ++ [x, y] ++ behind) := by
        rw [List.cons_prefix_cons]
        rintro ⟨rfl, hstarts⟩
        cases rest with
        | nil => exact hne (List.cons_prefix_cons.mp hstarts).1.symm
        | cons d rest =>
            obtain ⟨rfl, _⟩ := List.cons_prefix_cons.mp hstarts
            exact h.1 ⟨rest, rfl⟩
      rw [List.cons_append, List.cons_append, splitOnce, if_neg hstarts, ih h.2]
      rfl

theorem not_infix_of_splitOnce (hpat : pat ≠ []) (h : splitOnce pat l = some (before, behind)) :
    ¬ pat <:+: before := by
  rintro ⟨front, back, heq⟩
  obtain ⟨hl, hfirst⟩ := (splitOnce_eq_some_iff hpat).mp h
  have hle := hfirst front (back ++ pat ++ behind) (by rw [hl, ← heq]; simp)
  have hlen := congrArg List.length heq
  have hpos := List.length_pos_iff.mpr hpat
  simp only [List.length_append] at hlen
  omega

theorem rsplitOnce_eq_none_iff : rsplitOnce sep l = none ↔ sep ∉ l := by
  induction l with
  | nil => simp [rsplitOnce]
  | cons c rest ih =>
      rw [rsplitOnce, List.mem_cons, not_or]
      rcases hrest : rsplitOnce sep rest with _ | parts
      · simp [ih.mp hrest, eq_comm]
      · have hmem : ¬ sep ∉ rest := by
          rw [← ih, hrest]
          nofun
        simp [hmem]

/-- The parts give the input back, and the element occurs nowhere behind. -/
theorem rsplitOnce_eq_some_iff :
    rsplitOnce sep l = some (before, behind) ↔ l = before ++ sep :: behind ∧ sep ∉ behind := by
  induction l generalizing before behind with
  | nil => simp [rsplitOnce]
  | cons c rest ih =>
      constructor
      · intro h
        rw [rsplitOnce] at h
        split at h
        next before' behind' hrest =>
          obtain ⟨heq, hbehind⟩ := ih.mp hrest
          cases h
          exact ⟨by rw [heq]; rfl, hbehind⟩
        next hrest =>
          split at h
          next hsep =>
            cases h
            exact ⟨by rw [hsep]; rfl, rsplitOnce_eq_none_iff.mp hrest⟩
          next => cases h
      · rintro ⟨heq, hbehind⟩
        rw [rsplitOnce]
        cases before with
        | nil =>
            obtain ⟨rfl, rfl⟩ := List.cons.inj heq
            simp [rsplitOnce_eq_none_iff.mpr hbehind]
        | cons d before =>
            obtain ⟨rfl, hrest⟩ := List.cons.inj heq
            rw [ih.mpr ⟨hrest, hbehind⟩]

end Split
