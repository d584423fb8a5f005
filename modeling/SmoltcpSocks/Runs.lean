import Mathlib.Data.List.Basic

/-! Runs of an executable transition function and the rules that carry a property of one step to
every run. The function computes the state an action leads to, or nothing when the action is not
possible; a side condition on states and actions restricts the runs further, so that an assumption
about the environment and the condition of a conditional result have the same form. -/

namespace Transition

variable {S A : Type}

/-- A run from `s` along `trace`, oldest action first, each of whose actions is allowed where it is
taken. -/
inductive Run (step : S → A → Option S) (allowed : S → A → Prop) (s : S) : List A → S → Prop
  | nil : Run step allowed s [] s
  | snoc {trace : List A} {t u : S} {a : A} :
      Run step allowed s trace t → allowed t a → step t a = some u →
        Run step allowed s (trace ++ [a]) u

variable {step : S → A → Option S} {allowed allowed' : S → A → Prop} {s t u : S} {trace : List A}

/-- What one allowed step preserves, every run preserves. -/
theorem Run.invariant {I : S → Prop}
    (hstep : ∀ t a u, I t → allowed t a → step t a = some u → I u)
    (hrun : Run step allowed s trace t) (hs : I s) : I t := by
  induction hrun with
  | nil => exact hs
  | snoc _ hallowed hnext ih => exact hstep _ _ _ ih hallowed hnext

/-- The same for a property that also speaks of the actions taken. -/
theorem Run.history {I : List A → S → Prop}
    (hstep : ∀ trace t a u, I trace t → allowed t a → step t a = some u → I (trace ++ [a]) u)
    (hrun : Run step allowed s trace t) (hs : I [] s) : I trace t := by
  induction hrun with
  | nil => exact hs
  | snoc _ hallowed hnext ih => exact hstep _ _ _ _ ih hallowed hnext

/-- Along a run in which no step raises a rank and the counted steps lower it, no more of these are made than the
rank allows. -/
theorem Run.countP_add_rank_le {I : S → Prop} {rank : S → Nat} {p : A → Bool}
    (hinv : ∀ t a u, I t → allowed t a → step t a = some u → I u)
    (hrank : ∀ t a u, I t → allowed t a → step t a = some u → rank u + (if p a then 1 else 0) ≤ rank t)
    (hrun : Run step allowed s trace t) (hs : I s) : trace.countP p + rank t ≤ rank s := by
  induction hrun with
  | nil => simp
  | snoc hrun hallowed hnext ih =>
      have hle := hrank _ _ _ (hrun.invariant hinv hs) hallowed hnext
      rw [List.countP_append, List.countP_singleton]
      omega

theorem Run.length_add_rank_le {I : S → Prop} {rank : S → Nat}
    (hinv : ∀ t a u, I t → allowed t a → step t a = some u → I u)
    (hrank : ∀ t a u, I t → allowed t a → step t a = some u → rank u < rank t)
    (hrun : Run step allowed s trace t) (hs : I s) : trace.length + rank t ≤ rank s := by
  have hcount := hrun.countP_add_rank_le (p := fun _ => true) hinv hrank hs
  rwa [List.countP_true] at hcount

/-- A run is also a run under any side condition that its actions meet. -/
theorem Run.mono (hrun : Run step allowed s trace t)
    (h : ∀ a ∈ trace, ∀ t, allowed t a → allowed' t a) : Run step allowed' s trace t := by
  induction hrun with
  | nil => exact .nil
  | snoc _ hallowed hnext ih =>
      refine .snoc (ih fun a ha => h a (List.mem_append_left _ ha)) (h _ ?_ _ hallowed) hnext
      exact List.mem_append_right _ (List.mem_singleton_self _)

theorem Run.append {trace' : List A} (hrun : Run step allowed s trace t)
    (hrun' : Run step allowed t trace' u) : Run step allowed s (trace ++ trace') u := by
  induction hrun' with
  | nil => simpa using hrun
  | snoc _ hallowed hnext ih =>
      rw [← List.append_assoc]
      exact .snoc ih hallowed hnext

/-- A monadic fold that succeeds is a run. -/
theorem Run.of_foldlM (h : trace.foldlM step s = some t) : Run step (fun _ _ => True) s trace t := by
  induction trace generalizing s with
  | nil =>
      cases h
      exact .nil
  | cons a rest ih =>
      obtain ⟨next, hnext, hrest⟩ := Option.bind_eq_some_iff.mp h
      exact Run.append (.snoc .nil trivial hnext) (ih hrest)

/-- A part of a system, as it was right after the step of the run that brought it into being. -/
def Born {C : Type} (step : S → A → Option S) (allowed : S → A → Prop) (view : S → Option C) (s : S)
    (trace : List A) (t : S) (c : C) : Prop :=
  ∃ before a after u v, trace = before ++ a :: after ∧ Run step allowed s before u ∧ allowed u a ∧
    step u a = some v ∧ Run step allowed v after t ∧ view u = none ∧ view v = some c

theorem Born.snoc {C : Type} {view : S → Option C} {a : A} {c : C} (h : Born step allowed view s trace t c)
    (hallowed : allowed t a) (hnext : step t a = some u) : Born step allowed view s (trace ++ [a]) u c := by
  obtain ⟨before, b, after, t', u', rfl, hbefore, hb, hstep, hafter, hnone, hview⟩ := h
  refine ⟨before, b, after ++ [a], t', u', ?_, hbefore, hb, hstep, .snoc hafter hallowed hnext, hnone, hview⟩
  rw [List.append_assoc, List.cons_append]

/-- A part of a system that comes into being in some step and from then on does in each step either
nothing or one step of its own has, wherever a run ends, made a run of its own. -/
theorem Run.component {C B : Type} (view : S → Option C) {cstep : C → B → Option C}
    {callowed : C → B → Prop} {I : S → Prop}
    (hinv : ∀ t a u, I t → allowed t a → step t a = some u → I u)
    (hstep : ∀ t a u c, I t → allowed t a → step t a = some u → view t = some c →
      view u = some c ∨ ∃ b d, callowed c b ∧ cstep c b = some d ∧ view u = some d)
    (hs : I s) (hnone : view s = none) (hrun : Run step allowed s trace t) {c : C} (hview : view t = some c) :
    ∃ c₀ ctrace, Born step allowed view s trace t c₀ ∧ Run cstep callowed c₀ ctrace c := by
  induction hrun generalizing c with
  | nil => cases hnone.symm.trans hview
  | @snoc trace t u a hrun hallowed hnext ih =>
      have hI : I t := hrun.invariant hinv hs
      rcases ht : view t with _ | d
      · exact ⟨c, [], ⟨trace, a, [], t, u, rfl, hrun, hallowed, hnext, .nil, ht, hview⟩, .nil⟩
      · obtain ⟨c₀, ctrace, hc₀, hcrun⟩ := ih ht
        rcases hstep t a u d hI hallowed hnext ht with hsame | ⟨b, d', hb, hd', hmoved⟩
        · cases hsame.symm.trans hview
          exact ⟨c₀, ctrace, hc₀.snoc hallowed hnext, hcrun⟩
        · cases hmoved.symm.trans hview
          exact ⟨c₀, ctrace ++ [b], hc₀.snoc hallowed hnext, .snoc hcrun hb hd'⟩

/-- Execute a list of actions, stopping where one is impossible or not allowed. -/
def execute (step : S → A → Option S) (allowed : S → A → Prop) [∀ s a, Decidable (allowed s a)] :
    S → List A → Option S
  | s, [] => some s
  | s, a :: rest =>
      if allowed s a then
        match step s a with
        | some t => execute step allowed t rest
        | none => none
      else none

theorem Run.of_execute [∀ s a, Decidable (allowed s a)] (h : execute step allowed s trace = some t) :
    Run step allowed s trace t := by
  induction trace generalizing s with
  | nil =>
      cases h
      exact .nil
  | cons a rest ih =>
      simp only [execute] at h
      split at h
      · rename_i hallowed
        split at h
        · rename_i next hnext
          exact Run.append (.snoc .nil hallowed hnext) (ih h)
        · cases h
      · cases h

/-- Executing a list of actions shows that a run reaches a state with a given property. -/
theorem Run.exists_of_execute [∀ s a, Decidable (allowed s a)] {p : S → Bool}
    (h : (execute step allowed s trace).any p = true) :
    ∃ t, Run step allowed s trace t ∧ p t = true := by
  obtain ⟨t, ht, hp⟩ := (Option.any_eq_true p _).mp h
  exact ⟨t, .of_execute ht, hp⟩

end Transition
