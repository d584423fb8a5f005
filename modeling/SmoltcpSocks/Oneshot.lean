import Mathlib.Data.List.Basic

/-! Oneshot reply channels, and the discipline of a caller that has at most one request outstanding
with a server: the server holds the request, or it has answered it, or it is gone. -/

namespace Oneshot

variable {ρ β : Type}

/-- Receive on a channel that has been answered. -/
def take (answers : List (Nat × β)) (reply : Nat) : Option (β × List (Nat × β)) :=
  match answers.lookup reply with
  | some result => some (result, answers.filter fun answer => answer.1 != reply)
  | none => none

/-- Await a reply: its answer, or `dropped` once the server no longer holds the sending end. Nothing
happens while it does. -/
def await (answers : List (Nat × β)) (held : List Nat) (dropped : β) (reply : Nat) :
    Option (β × List (Nat × β)) :=
  match take answers reply with
  | some result => some result
  | none => if reply ∈ held then none else some (dropped, answers)

/-- A reply is an answer that was sent, or the sending end is gone. -/
theorem mem_of_await {answers rest : List (Nat × β)} {held : List Nat} {dropped result : β} {reply : Nat}
    (h : await answers held dropped reply = some (result, rest)) : (reply, result) ∈ answers ∨ result = dropped := by
  rcases hlookup : answers.lookup reply with _ | found
  · simp only [await, take, hlookup] at h
    split at h
    · cases h
    · cases h
      exact Or.inr rfl
  · simp only [await, take, hlookup] at h
    cases h
    obtain ⟨before, after, rfl, _⟩ := List.lookup_eq_some_iff.mp hlookup
    exact Or.inl (by simp)

theorem countP_lt_of_await {answers rest : List (Nat × β)} {held : List Nat} {dropped result : β} {reply : Nat}
    {p : Nat × β → Bool} (h : await answers held dropped reply = some (result, rest))
    (hp : p (reply, result) = true) (hdropped : result ≠ dropped) : rest.countP p < answers.countP p := by
  have hmem := (mem_of_await h).resolve_right hdropped
  rcases hlookup : answers.lookup reply with _ | found
  · simp only [await, take, hlookup] at h
    split at h <;> cases h
    exact absurd rfl hdropped
  · simp only [await, take, hlookup, Option.some.injEq, Prod.mk.injEq] at h
    obtain ⟨_, rfl⟩ := h
    have hsplit := List.countP_eq_countP_filter_add answers p fun answer => answer.1 != reply
    have htaken : 0 < (answers.filter fun answer => !(answer.1 != reply)).countP p :=
      List.countP_pos_iff.mpr ⟨(reply, result), List.mem_filter.mpr ⟨hmem, by simp⟩, hp⟩
    omega

/-- Nothing is awaited for ever once the server holds nothing. -/
theorem exists_await_nil (answers : List (Nat × β)) (dropped : β) (reply : Nat) :
    ∃ outcome, await answers [] dropped reply = some outcome := by
  unfold await
  rcases take answers reply with _ | found
  · exact ⟨(dropped, answers), if_neg List.not_mem_nil⟩
  · exact ⟨found, rfl⟩

/-- A caller with at most one request outstanding, which it awaits on the channel given with it. -/
def Outstanding (held : List ρ) (answers : List (Nat × β)) (gone : Prop) : Option (ρ × Nat) → Prop
  | none => held = [] ∧ answers = []
  | some (request, reply) =>
      (held = [request] ∧ answers = []) ∨ (held = [] ∧ ∃ result, answers = [(reply, result)]) ∨
        (held = [] ∧ answers = [] ∧ gone)

variable {held : List ρ} {answers : List (Nat × β)} {gone gone' : Prop} {request : ρ} {reply : Nat}

/-- What the server holds is what the caller awaits, and nothing is behind it. -/
theorem Outstanding.awaited_of_held {awaited : Option (ρ × Nat)}
    (h : Outstanding (request :: held) answers gone awaited) :
    ∃ reply, awaited = some (request, reply) ∧ held = [] ∧ answers = [] := by
  rcases awaited with _ | ⟨request', reply⟩
  · cases h.1
  · rcases h with ⟨hheld, hanswers⟩ | ⟨hheld, _⟩ | ⟨hheld, _⟩
    · cases hheld
      exact ⟨reply, rfl, rfl, hanswers⟩
    · cases hheld
    · cases hheld

/-- There is at most one request on its way, and none when the caller awaits nothing. -/
theorem Outstanding.length_le {awaited : Option (ρ × Nat)} (h : Outstanding held answers gone awaited) :
    held.length + answers.length ≤ awaited.toList.length := by
  rcases awaited with _ | ⟨request, reply⟩
  · obtain ⟨rfl, rfl⟩ := h
    exact Nat.le_refl _
  · rcases h with ⟨rfl, rfl⟩ | ⟨rfl, result, rfl⟩ | ⟨rfl, rfl, _⟩
    · exact Nat.le_refl _
    · exact Nat.le_refl _
    · exact Nat.zero_le _

theorem Outstanding.answer {awaited : Option (ρ × Nat)}
    (h : Outstanding (request :: held) answers gone awaited)
    (hreply : ∀ reply', awaited = some (request, reply') → reply' = reply) (result : β) :
    Outstanding held (answers ++ [(reply, result)]) gone awaited := by
  obtain ⟨reply', rfl, rfl, rfl⟩ := h.awaited_of_held
  obtain rfl := hreply reply' rfl
  exact Or.inr (Or.inl ⟨rfl, result, rfl⟩)

/-- The server goes away with all it holds. -/
theorem Outstanding.drop {awaited : Option (ρ × Nat)}
    (h : Outstanding held answers gone awaited) (hgone : gone') :
    Outstanding ([] : List ρ) answers gone' awaited := by
  rcases awaited with _ | ⟨request, reply⟩
  · exact ⟨rfl, h.2⟩
  · rcases h with ⟨_, hanswers⟩ | ⟨_, result, hanswers⟩ | ⟨_, hanswers, _⟩
    · exact Or.inr (Or.inr ⟨rfl, hanswers, hgone⟩)
    · exact Or.inr (Or.inl ⟨rfl, result, hanswers⟩)
    · exact Or.inr (Or.inr ⟨rfl, hanswers, hgone⟩)

/-- While the server is there, what it holds is outstanding. -/
theorem Outstanding.of_some {γ : Type} {server : Option γ} {c : γ} {requests : γ → List ρ}
    {awaited : Option (ρ × Nat)} (h : Outstanding (server.elim [] requests) answers (server = none) awaited)
    (hserver : server = some c) : Outstanding (requests c) answers False awaited := by
  simpa [hserver] using h

theorem Outstanding.append_nil {awaited : Option (ρ × Nat)}
    (h : Outstanding held answers gone awaited) (hgone : gone → gone') :
    Outstanding (held ++ []) answers gone' awaited := by
  rw [List.append_nil]
  rcases awaited with _ | ⟨request, reply⟩
  · exact h
  · exact h.imp_right (Or.imp_right fun ⟨hheld, hanswers, hg⟩ => ⟨hheld, hanswers, hgone hg⟩)

theorem Outstanding.send (h : Outstanding held answers gone none) (request : ρ) (reply : Nat) :
    Outstanding (held ++ [request]) answers gone' (some (request, reply)) := by
  obtain ⟨rfl, rfl⟩ := h
  exact Or.inl ⟨rfl, rfl⟩

/-- Only the reply to the outstanding request is received, and it is the last answer there is. -/
theorem Outstanding.await_cases {ids : List Nat} {dropped result : β} {rest : List (Nat × β)}
    (h : Outstanding held answers gone (some (request, reply)))
    (hids : held = [request] → reply ∈ ids)
    (hawait : await answers ids dropped reply = some (result, rest)) :
    held = [] ∧ rest = [] ∧
      (answers = [(reply, result)] ∨ answers = [] ∧ gone ∧ result = dropped) := by
  rcases h with ⟨hheld, rfl⟩ | ⟨hheld, result', rfl⟩ | ⟨hheld, rfl, hgone⟩
  · simp [await, take, hids hheld] at hawait
  · simp only [await, take, List.lookup_cons, beq_self_eq_true, List.filter_cons, bne_self_eq_false,
      Bool.false_eq_true, if_false, List.filter_nil, Option.some.injEq, Prod.mk.injEq] at hawait
    obtain ⟨rfl, rfl⟩ := hawait
    exact ⟨hheld, rfl, Or.inl rfl⟩
  · simp only [await, take, List.lookup_nil] at hawait
    split at hawait
    · cases hawait
    · cases hawait
      exact ⟨hheld, rfl, Or.inr ⟨rfl, hgone, rfl⟩⟩

end Oneshot
