import Mathlib.Data.List.Perm.Basic

/-! Accounts of requests made to a server: each one has been answered, is still held, or was dropped
because the server may drop it, and it is in exactly one of these places. Requests are counted with
multiplicity, so that nothing has to be known about their identities. -/

namespace Ledger

variable {ρ β : Type}

/-- The requests are those answered, each with its answer, those held and those dropped. -/
structure Balanced (fits : ρ → β → Prop) (droppable : ρ → Prop) (requests held : List ρ)
    (answered : List (ρ × β)) : Prop where
  balance : ∃ dropped, requests.Perm (answered.map Prod.fst ++ held ++ dropped) ∧
    ∀ request ∈ dropped, droppable request
  fits : ∀ entry ∈ answered, fits entry.1 entry.2

namespace Balanced

variable {fits : ρ → β → Prop} {droppable droppable' : ρ → Prop} {requests held held' : List ρ}
  {answered : List (ρ × β)} {r : ρ} {b : β}

theorem start (fits : ρ → β → Prop) (droppable : ρ → Prop) (requests : List ρ) :
    Balanced fits droppable requests requests [] :=
  ⟨⟨[], by simp, nofun⟩, nofun⟩

theorem perm (h : Balanced fits droppable requests held answered) (hperm : held.Perm held') :
    Balanced fits droppable requests held' answered := by
  obtain ⟨⟨dropped, hbalance, hdropped⟩, hfits⟩ := h
  exact ⟨⟨dropped, hbalance.trans ((hperm.append_left _).append_right _), hdropped⟩, hfits⟩

theorem answer (h : Balanced fits droppable requests (r :: held) answered)
    (hfits : fits r b) :
    Balanced fits droppable requests held (answered ++ [(r, b)]) := by
  obtain ⟨⟨dropped, hbalance, hdropped⟩, hanswered⟩ := h
  refine ⟨⟨dropped, ?_, hdropped⟩, ?_⟩
  · simpa using hbalance
  · intro entry hmem
    rcases List.mem_append.mp hmem with hmem | hmem
    · exact hanswered entry hmem
    · rw [List.mem_singleton.mp hmem]
      exact hfits

theorem drop (h : Balanced fits droppable requests (r :: held) answered)
    (hdrop : droppable r) : Balanced fits droppable requests held answered := by
  obtain ⟨⟨dropped, hbalance, hdropped⟩, hanswered⟩ := h
  refine ⟨⟨r :: dropped, ?_, List.forall_mem_cons.mpr ⟨hdrop, hdropped⟩⟩, hanswered⟩
  refine hbalance.trans ?_
  simp only [List.append_assoc, List.cons_append]
  exact (List.perm_middle.symm).append_left _

/-- A new request reaches the server. -/
theorem request (h : Balanced fits droppable requests held answered) (r : ρ) :
    Balanced fits droppable (requests ++ [r]) (held ++ [r]) answered := by
  obtain ⟨⟨dropped, hbalance, hdropped⟩, hanswered⟩ := h
  refine ⟨⟨dropped, ?_, hdropped⟩, hanswered⟩
  refine (hbalance.append_right [r]).trans ?_
  simp only [List.append_assoc]
  exact (List.perm_append_comm.append_left _).append_left _

/-- More requests may be dropped. -/
theorem mono (h : Balanced fits droppable requests held answered)
    (hdroppable : ∀ request, droppable request → droppable' request) :
    Balanced fits droppable' requests held answered := by
  obtain ⟨⟨dropped, hbalance, hdropped⟩, hanswered⟩ := h
  exact ⟨⟨dropped, hbalance, fun request hmem => hdroppable request (hdropped request hmem)⟩, hanswered⟩

end Balanced

/-- The answers given behind `base` balance the requests, and `total` is what they are worth. -/
def Account {ω : Type} (fits : ρ → β → Prop) (droppable : ρ → Prop) (worth : ρ × β → List ω)
    (base : List β) (requests held : List ρ) (answers : List β) (total : List ω) : Prop :=
  ∃ answered, answers = base ++ answered.map Prod.snd ∧ Balanced fits droppable requests held answered ∧
    total = answered.flatMap worth

namespace Account

variable {ω : Type} {fits : ρ → β → Prop} {droppable droppable' : ρ → Prop} {worth : ρ × β → List ω}
  {base answers : List β} {requests held held' : List ρ} {total chunk : List ω} {r : ρ} {b : β}

theorem start (fits : ρ → β → Prop) (droppable : ρ → Prop) (worth : ρ × β → List ω) (base : List β)
    (requests : List ρ) : Account fits droppable worth base requests requests base [] :=
  ⟨[], (List.append_nil base).symm, .start fits droppable requests, rfl⟩

theorem answer (h : Account fits droppable worth base requests held answers total)
    (hheld : held.Perm (r :: held')) (hfits : fits r b) (hworth : worth (r, b) = chunk) :
    Account fits droppable worth base requests held' (answers ++ [b]) (total ++ chunk) := by
  obtain ⟨answered, rfl, hbalanced, rfl⟩ := h
  exact ⟨answered ++ [(r, b)], by simp, (hbalanced.perm hheld).answer hfits, by simp [hworth]⟩

theorem drop (h : Account fits droppable worth base requests held answers total)
    (hheld : held.Perm (r :: held')) (hdrop : droppable r) :
    Account fits droppable worth base requests held' answers total := by
  obtain ⟨answered, hanswers, hbalanced, htotal⟩ := h
  exact ⟨answered, hanswers, (hbalanced.perm hheld).drop hdrop, htotal⟩

/-- A new request reaches the server. -/
theorem request (h : Account fits droppable worth base requests held answers total) (r : ρ) :
    Account fits droppable worth base (requests ++ [r]) (held ++ [r]) answers total := by
  obtain ⟨answered, hanswers, hbalanced, htotal⟩ := h
  exact ⟨answered, hanswers, hbalanced.request r, htotal⟩

theorem requestOption (h : Account fits droppable worth base requests held answers total) (r : Option ρ) :
    Account fits droppable worth base (requests ++ r.toList) (held ++ r.toList) answers total := by
  cases r with
  | none => simpa using h
  | some r => exact h.request r

/-- More requests may be dropped. -/
theorem mono (h : Account fits droppable worth base requests held answers total)
    (hdroppable : ∀ request, droppable request → droppable' request) :
    Account fits droppable' worth base requests held answers total := by
  obtain ⟨answered, hanswers, hbalanced, htotal⟩ := h
  exact ⟨answered, hanswers, hbalanced.mono hdroppable, htotal⟩

end Account

end Ledger
