import Mathlib.Data.List.Induction

/-! Decimal numerals as a program reads them: an optional plus sign, then digits with leading zeros or
without, up to a bound. A numeral is determined by its number but for the sign and the zeros. -/

namespace Decimal

/-- The value of a list of digits, as long as it stays below the bound. -/
def parseDigits (bound : Nat) (digits : List Char) (init : Nat) : Option Nat :=
  digits.foldlM (fun n c => if c.isDigit ∧ 10 * n + (c.toNat - '0'.toNat) < bound then
    some (10 * n + (c.toNat - '0'.toNat)) else none) init

/-- The value of an unsigned numeral below the bound. -/
def parseUnsigned (bound : Nat) : List Char → Option Nat
  | [] => none
  | '+' :: digits => if digits.isEmpty then none else parseDigits bound digits 0
  | digits => parseDigits bound digits 0

/-- A numeral: an optional sign and any number of zeros before the usual digits. -/
def Spells (s : List Char) (n : Nat) : Prop :=
  ∃ sign ∈ [[], ['+']], ∃ zeros, s = sign ++ List.replicate zeros '0' ++ Nat.toDigits 10 n

variable {bound n init : Nat} {s digits : List Char} {c : Char}

theorem le_ofDigitChars (digits : List Char) (init : Nat) : init ≤ Nat.ofDigitChars 10 digits init := by
  rw [Nat.ofDigitChars_eq_ofDigitChars_zero]
  calc init ≤ 10 ^ digits.length * init := Nat.le_mul_of_pos_left _ (Nat.pow_pos (by decide))
    _ ≤ _ := Nat.le_add_right _ _

theorem parseDigits_eq_some_iff (hinit : init < bound) : parseDigits bound digits init = some n ↔
    (∀ c ∈ digits, c.isDigit = true) ∧ Nat.ofDigitChars 10 digits init = n ∧ n < bound := by
  induction digits generalizing init with
  | nil =>
      simp only [parseDigits, List.foldlM_nil, Nat.ofDigitChars_nil]
      constructor
      · rintro ⟨⟩
        exact ⟨nofun, rfl, hinit⟩
      · rintro ⟨_, rfl, _⟩
        rfl
  | cons c rest ih =>
      have hle := le_ofDigitChars rest (10 * init + (c.toNat - '0'.toNat))
      rw [parseDigits, List.foldlM_cons, Nat.ofDigitChars_cons, List.forall_mem_cons]
      split
      next hc =>
        rw [and_iff_right hc.1]
        exact ih hc.2
      next hc =>
        refine ⟨nofun, ?_⟩
        rintro ⟨⟨hdigit, _⟩, rfl, hbound⟩
        exact absurd ⟨hdigit, Nat.lt_of_le_of_lt hle hbound⟩ hc

theorem digitChar_of_isDigit (h : c.isDigit = true) :
    c.toNat - '0'.toNat < 10 ∧ Nat.digitChar (c.toNat - '0'.toNat) = c := by
  have hc := Char.isDigit_iff_toNat.mp h
  simp only [Char.reduceToNat] at hc ⊢
  have hlt : c.toNat - 48 < 10 := by omega
  have hdigit := Char.isDigit_iff_toNat.mp (Nat.isDigit_digitChar.trans (decide_eq_true hlt))
  have hval := Nat.toNat_digitChar_sub_48_of_lt_ten hlt
  simp only [Char.reduceToNat] at hdigit
  refine ⟨hlt, Char.toNat_inj.mp ?_⟩
  omega

/-- A list of digits is the usual one behind some zeros. -/
theorem exists_zeros (hne : digits ≠ []) (hdigits : ∀ c ∈ digits, c.isDigit = true) :
    ∃ zeros, digits = List.replicate zeros '0' ++ Nat.toDigits 10 (Nat.ofDigitChars 10 digits 0) := by
  induction digits using List.reverseRecOn with
  | nil => exact absurd rfl hne
  | append_singleton front c ih =>
      obtain ⟨hlt, hchar⟩ := digitChar_of_isDigit (hdigits c (by simp))
      have hlast : Nat.toDigits 10 (c.toNat - '0'.toNat) = [c] := by rw [Nat.toDigits_of_lt_base hlt, hchar]
      rw [Nat.ofDigitChars_append, Nat.ofDigitChars_cons, Nat.ofDigitChars_nil]
      by_cases hnil : front = []
      · refine ⟨0, ?_⟩
        rw [hnil, Nat.ofDigitChars_nil, Nat.mul_zero, Nat.zero_add, hlast]
        rfl
      · obtain ⟨zeros, hzeros⟩ := ih hnil fun d hd => hdigits d (List.mem_append_left _ hd)
        -- the zeros go on as long as the value is zero
        rcases Nat.eq_zero_or_pos (Nat.ofDigitChars 10 front 0) with hvalue | hvalue
        · refine ⟨zeros + 1, ?_⟩
          rw [hvalue, Nat.toDigits_zero] at hzeros
          rw [hvalue, Nat.mul_zero, Nat.zero_add, hlast, List.replicate_succ', ← hzeros]
        · refine ⟨zeros, ?_⟩
          rw [← Nat.toDigits_append_toDigits (by decide) hvalue hlt, hlast, ← List.append_assoc, ← hzeros]

theorem isDigit_of_mem_zeros {zeros : Nat} (h : c ∈ List.replicate zeros '0' ++ Nat.toDigits 10 n) :
    c.isDigit = true := by
  rcases List.mem_append.mp h with hmem | hmem
  · rw [List.eq_of_mem_replicate hmem]
    rfl
  · exact Nat.isDigit_of_mem_toDigits (by decide) (by decide) hmem

/-- A numeral is made of digits and the sign. -/
theorem Spells.isDigit_of_mem (h : Spells s n) (hmem : c ∈ s) : c = '+' ∨ c.isDigit = true := by
  obtain ⟨sign, hsign, zeros, rfl⟩ := h
  rw [List.append_assoc] at hmem
  rcases List.mem_append.mp hmem with hmem | hmem
  · have hcases : sign = [] ∨ sign = ['+'] := by simpa using hsign
    rcases hcases with rfl | rfl
    · cases hmem
    · exact Or.inl (List.mem_singleton.mp hmem)
  · exact Or.inr (isDigit_of_mem_zeros hmem)

theorem spells_toDigits (n : Nat) : Spells (Nat.toDigits 10 n) n := ⟨[], by simp, 0, rfl⟩

theorem parseDigits_eq_some_iff_zeros (hbound : 0 < bound) (hne : digits ≠ []) :
    parseDigits bound digits 0 = some n ↔
      n < bound ∧ ∃ zeros, digits = List.replicate zeros '0' ++ Nat.toDigits 10 n := by
  rw [parseDigits_eq_some_iff hbound]
  constructor
  · rintro ⟨hdigits, rfl, hlt⟩
    exact ⟨hlt, exists_zeros hne hdigits⟩
  · rintro ⟨hlt, zeros, rfl⟩
    refine ⟨fun c hmem => isDigit_of_mem_zeros hmem, ?_, hlt⟩
    simp [Nat.ofDigitChars_append]

/-- The numerals below the bound are those that spell a number below it. -/
theorem parseUnsigned_eq_some_iff (hbound : 0 < bound) :
    parseUnsigned bound s = some n ↔ n < bound ∧ Spells s n := by
  have hsign : Spells s n ↔ (∃ zeros, s = List.replicate zeros '0' ++ Nat.toDigits 10 n) ∨
      ∃ digits, s = '+' :: digits ∧ ∃ zeros, digits = List.replicate zeros '0' ++ Nat.toDigits 10 n := by
    simp [Spells]
  have hplus {digits : List Char} : ¬ ∃ zeros, '+' :: digits = List.replicate zeros '0' ++ Nat.toDigits 10 n := by
    rintro ⟨zeros, heq⟩
    have hdigit : '+'.isDigit = true := isDigit_of_mem_zeros (heq ▸ List.mem_cons_self)
    cases hdigit
  rw [hsign]
  unfold parseUnsigned
  split
  next => simp
  next digits =>
    split
    next hempty =>
      obtain rfl := List.isEmpty_iff.mp hempty
      simp [hplus]
    next hne =>
      rw [parseDigits_eq_some_iff_zeros hbound (by simpa using hne)]
      simp [hplus]
  next digits hnil hnotPlus =>
    rw [parseDigits_eq_some_iff_zeros hbound hnil, or_iff_left]
    rintro ⟨rest, heq, _⟩
    exact hnotPlus rest heq

end Decimal
