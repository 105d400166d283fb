import UhfReader.Lib.Run

/-!
# Simulations by labelled transitions

An abstract system is given by a relation `step`: it may go from a state to another with a label.
`Path step t as t'` says that it can go from `t` to `t'` with the labels `as`.

A system whose steps are given by a partial function is simulated by an abstract one, when each of
its events is matched by transitions with the labels that `label` gives to the event.  Then each
run is matched by a path with the labels of its events (`simulates`).
-/

namespace Lts

variable {τ α : Type*}

/-- The states that an abstract system goes through with the labels of a list. -/
inductive Path (step : τ → α → τ → Prop) : τ → List α → τ → Prop
  | nil (t : τ) : Path step t [] t
  | cons {t t' t'' : τ} {a : α} {as : List α} :
    step t a t' → Path step t' as t'' → Path step t (a :: as) t''

namespace Path

variable {step : τ → α → τ → Prop} {t t' t'' : τ} {a : α} {as as' : List α}

/-- A path of one transition. -/
theorem single (h : step t a t') :
  Path step t [a] t'
  := .cons h (.nil t')

theorem append (h : Path step t as t') (h' : Path step t' as' t'') :
  Path step t (as ++ as') t''
  := by
  induction h with
  | nil => exact h'
  | cons hstep _ ih => exact .cons hstep (ih h')

/-- What every transition keeps holds at the end of a path. -/
theorem invariant {I : τ → Prop} (hstep : ∀ t a t', I t → step t a t' → I t')
    (h : Path step t as t') (ht : I t) :
  I t'
  := by
  induction h with
  | nil => exact ht
  | cons hfirst _ ih => exact ih (hstep _ _ _ ht hfirst)

end Path

/-- The labels of the events of a run. -/
def labels {σ ε : Type*} (step : σ → ε → Option σ) (label : σ → ε → List α) :
    List ε → σ → List α
  | [], _ => []
  | e :: es, s =>
    label s e ++ match step s e with
      | none => []
      | some s' => labels step label es s'

/-- A run of a system whose events are matched by transitions is matched by a path. -/
theorem simulates {σ ε : Type*} {step : σ → ε → Option σ} {abstract : τ → α → τ → Prop}
    {label : σ → ε → List α} {R : σ → τ → Prop} {P : σ → ε → Prop}
    (hstep : ∀ s e s' t, R s t → P s e → step s e = some s' →
      ∃ t', Path abstract t (label s e) t' ∧ R s' t')
    {es : List ε} {s s' : σ} {t : τ} (hR : R s t) (hP : Run.Along step P es s)
    (hrun : Run.run step es s = some s') :
  ∃ t', Path abstract t (labels step label es s) t' ∧ R s' t'
  := by
  induction es generalizing s t with
  | nil =>
    cases hrun
    exact ⟨t, .nil t, hR⟩
  | cons e es ih =>
    obtain ⟨s₁, hs, hrest⟩ := Run.run_cons_eq_some hrun
    obtain ⟨t₁, hfirst, hR₁⟩ := hstep s e s₁ t hR hP.1 hs
    obtain ⟨t', hpath, hR'⟩ := ih hR₁ (hP.tail hs) hrest
    refine ⟨t', ?_, hR'⟩
    simp only [labels, hs]
    exact hfirst.append hpath

end Lts
