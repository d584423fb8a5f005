import Mathlib.Data.List.AList

/-! Tables from keys to values: Mathlib's association lists at a fixed type of values, with the map
over all values and a membership test by lookup. -/

/-- A finite table. -/
abbrev Table (κ β : Type) := AList fun _ : κ => β

namespace Table

variable {κ β γ : Type} [DecidableEq κ]

omit [DecidableEq κ] in
/-- Change every value, knowing its key. -/
def map (f : κ → β → γ) (t : Table κ β) : Table κ γ :=
  ⟨t.entries.map (.map id f), List.NodupKeys.map₂ f t.entries t.nodupKeys⟩

@[simp] theorem lookup_map (f : κ → β → γ) (t : Table κ β) (k : κ) :
    (map f t).lookup k = (t.lookup k).map (f k) :=
  List.dlookup_map₂ k

@[simp] theorem mem_map {f : κ → β → γ} {t : Table κ β} {k : κ} : k ∈ map f t ↔ k ∈ t := by
  rw [← AList.lookup_isSome, ← AList.lookup_isSome, lookup_map, Option.isSome_map]

theorem mem_iff {t : Table κ β} {k : κ} : k ∈ t ↔ ∃ b, t.lookup k = some b := by
  rw [← AList.lookup_isSome, Option.isSome_iff_exists]

theorem mem_of_lookup {t : Table κ β} {k : κ} {b : β} (h : t.lookup k = some b) : k ∈ t :=
  mem_iff.mpr ⟨b, h⟩

theorem lookup_insert_eq (t : Table κ β) (k k' : κ) (b : β) :
    (t.insert k b).lookup k' = if k' = k then some b else t.lookup k' := by
  by_cases h : k' = k
  · rw [if_pos h, h, AList.lookup_insert]
  · rw [if_neg h, AList.lookup_insert_ne h]

theorem lookup_erase_eq (t : Table κ β) (k k' : κ) :
    (t.erase k).lookup k' = if k' = k then none else t.lookup k' := by
  by_cases h : k' = k
  · rw [if_pos h, h, AList.lookup_erase]
  · rw [if_neg h, AList.lookup_erase_ne h]

end Table
