import Mathlib.Logic.Basic

/-!
# Runs of partial step functions

A system is given by a partial function `step`: what an event makes of a state, or `none`
when the event cannot happen there or ends the run.  `run` is the state after a list of
events, and `Along P es s` says that every event of a run meets the condition `P`, which may
depend on the state in which the event happens.

An invariant that every step keeps under `P` holds in every state that a run meeting `P`
reaches (`Along.invariant`).
-/

namespace Run

variable {σ ε : Type*} (step : σ → ε → Option σ)

/-- The state after the events of a list. -/
def run : List ε → σ → Option σ
  | [], s => some s
  | e :: es, s =>
    match step s e with
    | none => none
    | some s' => run es s'

/-- Every event of the run from `s` meets the condition `P`. -/
def Along (P : σ → ε → Prop) : List ε → σ → Prop
  | [], _ => True
  | e :: es, s =>
    P s e ∧ match step s e with
      | none => True
      | some s' => Along P es s'

variable {step} {P Q : σ → ε → Prop} {e : ε} {es es' : List ε} {s s' s'' : σ}

theorem run_cons_of_some (h : step s e = some s') :
  run step (e :: es) s = run step es s'
  := by
  simp only [run, h]

/-- The first step of a run that goes through. -/
theorem run_cons_eq_some (h : run step (e :: es) s = some s'') :
  ∃ s', step s e = some s' ∧ run step es s' = some s''
  := by
  simp only [run] at h
  split at h
  · cases h
  · rename_i s' hs'
    exact ⟨s', hs', h⟩

/-- Runs compose. -/
theorem run_append (h : run step es s = some s') :
  run step (es ++ es') s = run step es' s'
  := by
  induction es generalizing s with
  | nil =>
    cases h
    rfl
  | cons e es ih =>
    obtain ⟨t, ht, hrun⟩ := run_cons_eq_some h
    rw [List.cons_append, run_cons_of_some ht, ih hrun]

/-- A system of which another shows a part. -/
theorem run_map {τ : Type*} {step' : τ → ε → Option τ} (f : σ → τ)
    (h : ∀ s e, (step s e).map f = step' (f s) e) (es : List ε) (s : σ) :
  (run step es s).map f = run step' es (f s)
  := by
  induction es generalizing s with
  | nil => rfl
  | cons e es ih =>
    simp only [run]
    rw [← h s e]
    cases step s e with
    | none => rfl
    | some s' => exact ih s'

/-- The first part of a run that goes through goes through. -/
theorem exists_of_append (h : run step (es ++ es') s = some s'') :
  ∃ s', run step es s = some s'
  := by
  induction es generalizing s with
  | nil => exact ⟨s, rfl⟩
  | cons e es ih =>
    obtain ⟨t, ht, hrest⟩ := run_cons_eq_some h
    obtain ⟨s', hs'⟩ := ih hrest
    exact ⟨s', (run_cons_of_some ht).trans hs'⟩

namespace Along

/-- Whether a run meets a decidable condition is found by going through it. -/
instance instDecidable (step : σ → ε → Option σ) (P : σ → ε → Prop) [∀ s e, Decidable (P s e)] :
    (es : List ε) → (s : σ) → Decidable (Along step P es s)
  | [], _ => isTrue trivial
  | e :: es, s =>
    have : Decidable (match step s e with
        | none => True
        | some s' => Along step P es s') :=
      match step s e with
      | none => isTrue trivial
      | some s' => instDecidable step P es s'
    inferInstanceAs (Decidable (_ ∧ _))

theorem tail (h : Along step P (e :: es) s) (hs : step s e = some s') :
  Along step P es s'
  := by
  have := h.2
  rwa [hs] at this

/-- A run of one step. -/
theorem singleton (h : P s e) :
  Along step P [e] s
  := by
  refine ⟨h, ?_⟩
  split
  · trivial
  · trivial

theorem and (h : Along step P es s) (h' : Along step Q es s) :
  Along step (fun s e => P s e ∧ Q s e) es s
  := by
  induction es generalizing s with
  | nil => trivial
  | cons e es ih =>
    refine ⟨⟨h.1, h'.1⟩, ?_⟩
    split
    · trivial
    · rename_i s' hs'
      exact ih (h.tail hs') (h'.tail hs')

/-- A condition that the events meet in every state. -/
theorem of_forall (h : ∀ e ∈ es, ∀ s, P s e) :
  Along step P es s
  := by
  induction es generalizing s with
  | nil => trivial
  | cons e es ih =>
    refine ⟨h e List.mem_cons_self s, ?_⟩
    split
    · trivial
    · exact ih fun e' he' => h e' (List.mem_cons_of_mem e he')

/-- The first part of a run that meets a condition meets it. -/
theorem of_append (h : Along step P (es ++ es') s) :
  Along step P es s
  := by
  induction es generalizing s with
  | nil => trivial
  | cons e es ih =>
    refine ⟨h.1, ?_⟩
    split
    · trivial
    · rename_i s' hs'
      exact ih (tail h hs')

/-- A run meets a condition when its first part does, and the rest from where that ends. -/
theorem append_iff (hrun : run step es s = some s') :
  Along step P (es ++ es') s ↔ Along step P es s ∧ Along step P es' s'
  := by
  induction es generalizing s with
  | nil =>
    cases hrun
    exact ⟨fun h => ⟨trivial, h⟩, fun h => h.2⟩
  | cons e es ih =>
    obtain ⟨t, ht, hrest⟩ := run_cons_eq_some hrun
    simp only [List.cons_append, Along, ht, ih hrest, and_assoc]

/-- What every step keeps under the condition holds in every state reached under it. -/
theorem invariant {I : σ → Prop}
    (hstep : ∀ s e s', I s → P s e → step s e = some s' → I s')
    (hs : I s) (h : Along step P es s) (hrun : run step es s = some s') :
  I s'
  := by
  induction es generalizing s with
  | nil =>
    cases hrun
    exact hs
  | cons e es ih =>
    obtain ⟨t, ht, hrest⟩ := run_cons_eq_some hrun
    exact ih (hstep s e t hs h.1 ht) (h.tail ht) hrest

/-- A run goes through when every event can happen that meets the condition. -/
theorem exists_run {I : σ → Prop} (hstep : ∀ s e, I s → P s e → ∃ s', step s e = some s' ∧ I s')
    (hs : I s) (h : Along step P es s) :
  ∃ s', run step es s = some s' ∧ I s'
  := by
  induction es generalizing s with
  | nil => exact ⟨s, rfl, hs⟩
  | cons e es ih =>
    obtain ⟨t, ht, hI⟩ := hstep s e hs h.1
    obtain ⟨s', hrun, hI'⟩ := ih hI (h.tail ht)
    exact ⟨s', (run_cons_of_some ht).trans hrun, hI'⟩

/-- What holds of every event in a state that meets an invariant holds along the run. -/
theorem of_invariant {I : σ → Prop}
    (hstep : ∀ s e s', I s → P s e → step s e = some s' → I s')
    (hQ : ∀ s e, I s → P s e → Q s e) (hs : I s) (h : Along step P es s) :
  Along step Q es s
  := by
  induction es generalizing s with
  | nil => trivial
  | cons e es ih =>
    refine ⟨hQ s e hs h.1, ?_⟩
    split
    · trivial
    · rename_i s' hs'
      exact ih (hstep s e s' hs h.1 hs') (h.tail hs')

/-- Conditions that agree on the events of a run hold along it together. -/
theorem iff_of_invariant {I : σ → Prop} {R : σ → ε → Prop}
    (hstep : ∀ s e s', I s → R s e → step s e = some s' → I s')
    (hPQ : ∀ s e, I s → R s e → (P s e ↔ Q s e)) (hs : I s) (hR : Along step R es s) :
  Along step P es s ↔ Along step Q es s
  := by
  constructor
  · intro h
    exact (hR.and h).of_invariant (fun s e s' hI hRP => hstep s e s' hI hRP.1)
      (fun s e hI hRP => (hPQ s e hI hRP.1).mp hRP.2) hs
  · intro h
    exact (hR.and h).of_invariant (fun s e s' hI hRQ => hstep s e s' hI hRQ.1)
      (fun s e hI hRQ => (hPQ s e hI hRQ.1).mpr hRQ.2) hs

/-- Every state that is reached on the way meets `Q`. -/
def Throughout (step : σ → ε → Option σ) (Q : σ → Prop) (es : List ε) (s : σ) : Prop :=
  ∀ es₁ es₂ s', es = es₁ ++ es₂ → run step es₁ s = some s' → Q s'

theorem Throughout.head {Q : σ → Prop} (h : Throughout step Q es s) :
  Q s
  := h [] es s rfl rfl

theorem Throughout.tail {Q : σ → Prop} (h : Throughout step Q (e :: es) s)
    (hs : step s e = some s') :
  Throughout step Q es s'
  := by
  intro es₁ es₂ s'' hsplit hrun
  apply h (e :: es₁) es₂ s''
  · rw [hsplit, List.cons_append]
  · rwa [run_cons_of_some hs]

/-- When `P` tells of every event whether the state after it meets `Q`, the states reached in a
run meet `Q` if and only if its events meet `P`.  The events are those that meet `R`. -/
theorem throughout_iff {I Q : σ → Prop} {R : σ → ε → Prop}
    (hstep : ∀ s e s', I s → R s e → step s e = some s' → (Q s' ↔ P s e))
    (hinv : ∀ s e s', I s → R s e → P s e → step s e = some s' → I s')
    (hstop : ∀ s e, I s → R s e → step s e = none → P s e)
    (hI : I s) (hQ : Q s) (hR : Along step R es s) :
  Throughout step Q es s ↔ Along step P es s
  := by
  induction es generalizing s with
  | nil =>
    constructor
    · intro _
      trivial
    · intro _ es₁ es₂ s' hsplit hrun
      obtain ⟨rfl, -⟩ := List.nil_eq_append_iff.mp hsplit
      cases hrun
      exact hQ
  | cons e es ih =>
    constructor
    · intro h
      have hP : P s e := by
        cases hs : step s e with
        | none => exact hstop s e hI hR.1 hs
        | some s' => exact (hstep s e s' hI hR.1 hs).mp (h.tail hs).head
      refine ⟨hP, ?_⟩
      split
      · trivial
      · rename_i s' hs
        apply (ih (hinv s e s' hI hR.1 hP hs) ((hstep s e s' hI hR.1 hs).mpr hP)
          (hR.tail hs)).mp
        exact h.tail hs
    · intro h es₁ es₂ s'' hsplit hrun
      cases es₁ with
      | nil =>
        cases hrun
        exact hQ
      | cons e₁ es₁ =>
        rw [List.cons_append, List.cons.injEq] at hsplit
        obtain ⟨rfl, rfl⟩ := hsplit
        obtain ⟨s', hs, hrest⟩ := run_cons_eq_some hrun
        apply (ih (hinv s e s' hI hR.1 h.1 hs) ((hstep s e s' hI hR.1 hs).mpr h.1)
          (hR.tail hs)).mpr (h.tail hs) es₁ es₂ s'' rfl hrest

end Along

end Run
