import Mathlib.Logic.Basic

/-!
# Stateful computations that may not return

Rules for computations in `StateT σ Option`, where `none` stands for a computation that does
not return.

`Keeps f m` says that `m` does not change what `f` reads of the state, and `Traced goes hangs m`
that a machine can do what `m` does.  `SimAt Q s m m'` and `Sim Q m m'` compare two
computations: started in the state `s`, or in any one state, neither returns or both do, in the
same state and with results that `Q` relates.

`Ignores u m`, `Overwrites u m` and `Splits u cut m` compare `m` started in a state and in the
state updated by `u`.  The update is left in place, or lost, or the one or the other as `cut`
tells.
-/

namespace Stateful

variable {σ α β γ δ : Type}

/-- The result of a computation in sequence, taken apart. -/
theorem bind_eq_some {m : StateT σ Option α} {k : α → StateT σ Option β} {s s'' : σ} {b : β}
    (h : (m >>= k) s = some (b, s'')) :
  ∃ a s', m s = some (a, s') ∧ k a s' = some (b, s'')
  := by
  simp only [bind, StateT.bind, Option.bind_eq_some_iff] at h
  obtain ⟨⟨a, s'⟩, hm, hk⟩ := h
  exact ⟨a, s', hm, hk⟩

/-- A computation in sequence, when the first part is known to return. -/
theorem bind_of_some {m : StateT σ Option α} {k : α → StateT σ Option β} {s s' : σ} {a : α}
    (h : m s = some (a, s')) :
  (m >>= k) s = k a s'
  := by
  simp only [bind, StateT.bind, h, Option.bind_some]

theorem bind_get (k : σ → StateT σ Option β) (s : σ) :
  (get >>= k) s = k s s
  := rfl

theorem bind_modify (u : σ → σ) (k : PUnit → StateT σ Option β) (s : σ) :
  (modify u >>= k) s = k ⟨⟩ (u s)
  := rfl

/-! ### What a computation ends with -/

/-- The computation returns, with a value and a state of which `P` holds. -/
def Ends (m : StateT σ Option α) (P : α → σ → Prop) (s : σ) : Prop :=
  ∃ a s', m s = some (a, s') ∧ P a s'

theorem ends_pure {P : α → σ → Prop} (a : α) (s : σ) :
  Ends (pure a) P s ↔ P a s
  := by
  constructor
  · rintro ⟨_, _, heq, h⟩
    cases heq
    exact h
  · intro h
    exact ⟨a, s, rfl, h⟩

/-- A computation in sequence ends as its second part does from where the first one has led. -/
theorem ends_bind {P : β → σ → Prop} {m : StateT σ Option α} {k : α → StateT σ Option β} {s : σ} :
  Ends (m >>= k) P s ↔ ∃ a s', m s = some (a, s') ∧ Ends (k a) P s'
  := by
  constructor
  · rintro ⟨b, s'', h, hP⟩
    obtain ⟨a, s', hm, hk⟩ := bind_eq_some h
    exact ⟨a, s', hm, b, s'', hk, hP⟩
  · rintro ⟨a, s', hm, b, s'', hk, hP⟩
    exact ⟨b, s'', (bind_of_some hm).trans hk, hP⟩

theorem ends_get {P : β → σ → Prop} (k : σ → StateT σ Option β) (s : σ) :
  Ends (get >>= k) P s ↔ Ends (k s) P s
  := Iff.rfl

theorem ends_modify {P : β → σ → Prop} (u : σ → σ) (k : PUnit → StateT σ Option β) (s : σ) :
  Ends (modify u >>= k) P s ↔ Ends (k ⟨⟩) P (u s)
  := Iff.rfl

theorem ends_ite {c : Prop} [Decidable c] {P : α → σ → Prop} {m m' : StateT σ Option α} {s : σ} :
  Ends (if c then m else m') P s ↔ c ∧ Ends m P s ∨ ¬ c ∧ Ends m' P s
  := by
  split
  · rename_i hc
    simp only [hc, true_and, not_true_eq_false, false_and, or_false]
  · rename_i hc
    simp only [hc, false_and, not_false_eq_true, true_and, false_or]

/-! ### What a computation keeps -/

/-- The computation does not change what `f` reads of the state. -/
def Keeps (f : σ → γ) (m : StateT σ Option α) : Prop :=
  ∀ s a s', m s = some (a, s') → f s' = f s

/-- What a computation keeps, it keeps a part of. -/
theorem Keeps.comp {f : σ → γ} {m : StateT σ Option α} (h : Keeps f m) (part : γ → δ) :
  Keeps (fun s => part (f s)) m
  := by
  intro s a s' heq
  exact congrArg part (h s a s' heq)

/-! ### What a computation goes through -/

/-- `goes s s'` says that a machine can go from `s` to `s'`, and `hangs s` that it can go on from
`s` without end. -/
structure Tracing (goes : σ → σ → Prop) (hangs : σ → Prop) : Prop where
  refl : ∀ s, goes s s
  trans : ∀ {s s' s''}, goes s s' → goes s' s'' → goes s s''
  hang : ∀ {s s'}, goes s s' → hangs s' → hangs s

/-- The machine goes wherever the computation does, and can go on where the computation does not
return. -/
structure Traced (goes : σ → σ → Prop) (hangs : σ → Prop) (m : StateT σ Option α) : Prop where
  returns : ∀ {s a s'}, m s = some (a, s') → goes s s'
  hangs : ∀ {s}, m s = none → hangs s

namespace Traced

variable {goes : σ → σ → Prop} {hangs : σ → Prop}

/-- A computation that always returns. -/
theorem of_some {m : StateT σ Option α} (f : σ → α × σ) (hm : ∀ s, m s = some (f s))
    (h : ∀ s, goes s (f s).2) :
  Traced goes hangs m
  := by
  constructor
  · intro s a s' heq
    rw [hm, Option.some.injEq] at heq
    have hs : (f s).2 = s' := congrArg Prod.snd heq
    rw [← hs]
    apply h
  · intro s heq
    rw [hm] at heq
    cases heq

theorem modify {u : σ → σ} (h : ∀ s, goes s (u s)) :
  Traced goes hangs (modify u : StateT σ Option Unit)
  := by
  refine of_some (fun s => ((), u s)) (fun _ => rfl) ?_
  apply h

theorem modifyGet {u : σ → α × σ} (h : ∀ s, goes s (u s).2) :
  Traced goes hangs (modifyGet u : StateT σ Option α)
  := by
  apply of_some u (fun _ => rfl)
  apply h

theorem ite {c : Prop} [Decidable c] {m m' : StateT σ Option α} (h : Traced goes hangs m)
    (h' : Traced goes hangs m') :
  Traced goes hangs (if c then m else m')
  := by
  split
  · apply h
  · apply h'

/-- A computation that leads only to states in which `f` reads the same. -/
theorem keeps {f : σ → γ} {m : StateT σ Option α}
    (h : Traced (fun s s' => f s' = f s) hangs m) :
  Keeps f m
  := by
  intro s a s' heq
  apply h.returns heq

end Traced

namespace Tracing

variable {goes : σ → σ → Prop} {hangs : σ → Prop}

theorem pure (t : Tracing goes hangs) (a : α) :
  Traced goes hangs (pure a : StateT σ Option α)
  := by
  apply Traced.of_some (fun s => (a, s)) (fun _ => rfl)
  apply t.refl

theorem get (t : Tracing goes hangs) :
  Traced goes hangs (get : StateT σ Option σ)
  := by
  apply Traced.of_some (fun s => (s, s)) (fun _ => rfl)
  apply t.refl

theorem bind (t : Tracing goes hangs) {m : StateT σ Option α} {k : α → StateT σ Option β}
    (hm : Traced goes hangs m) (hk : ∀ a, Traced goes hangs (k a)) :
  Traced goes hangs (m >>= k)
  := by
  constructor
  · intro s b s'' h
    obtain ⟨a, s', hma, hka⟩ := bind_eq_some h
    apply t.trans (hm.returns hma) ((hk a).returns hka)
  · intro s h
    cases hma : m s with
    | none => apply hm.hangs hma
    | some x =>
      rw [bind_of_some hma] at h
      apply t.hang (hm.returns hma) ((hk x.1).hangs h)

/-- The machine that may go wherever `f` reads the same. -/
theorem of_keeps (f : σ → γ) :
  Tracing (fun s s' => f s' = f s) (fun _ => True)
  := by
  constructor
  · intro s
    rfl
  · intro s s' s'' h h'
    rw [h', h]
  · intro s s' _ _
    trivial

end Tracing

/-- What a computation keeps, as what it goes through. -/
theorem Keeps.traced {f : σ → γ} {m : StateT σ Option α} (h : Keeps f m) :
  Traced (fun s s' => f s' = f s) (fun _ => True) m
  := by
  constructor
  · intro s a s' heq
    apply h s a s' heq
  · intro s _
    trivial

/-! ### Two computations side by side -/

/-- Started in the state `s`, neither computation returns, or both return in the same state
with related results. -/
def SimAt (Q : σ → α → β → Prop) (s : σ) (m : StateT σ Option α) (m' : StateT σ Option β) : Prop :=
  (m s = none ∧ m' s = none) ∨ ∃ a b s', m s = some (a, s') ∧ m' s = some (b, s') ∧ Q s' a b

/-- Started in the same state, whichever it is, neither computation returns, or both return in
the same state with related results. -/
def Sim (Q : σ → α → β → Prop) (m : StateT σ Option α) (m' : StateT σ Option β) : Prop :=
  ∀ s, SimAt Q s m m'

variable {Q : σ → α → β → Prop} {s : σ}

theorem SimAt.pure {a : α} {b : β} (h : Q s a b) :
  SimAt Q s (pure a) (pure b)
  := .inr ⟨a, b, s, rfl, rfl, h⟩

/-- Computations that start alike are compared from where they differ. -/
theorem SimAt.bind {m : StateT σ Option γ} {k : γ → StateT σ Option α} {k' : γ → StateT σ Option β}
    (h : ∀ a s', m s = some (a, s') → SimAt Q s' (k a) (k' a)) :
  SimAt Q s (m >>= k) (m >>= k')
  := by
  cases hm : m s with
  | none =>
    left
    constructor
    · simp only [Bind.bind, StateT.bind, hm, Option.bind_none]
    · simp only [Bind.bind, StateT.bind, hm, Option.bind_none]
  | some x =>
    have hk := h x.1 x.2 hm
    simp only [SimAt, Bind.bind, StateT.bind, hm, Option.bind_some]
    exact hk

theorem SimAt.ite {c : Prop} [Decidable c] {m₁ m₂ : StateT σ Option α}
    {m₁' m₂' : StateT σ Option β} (h₁ : SimAt Q s m₁ m₁') (h₂ : SimAt Q s m₂ m₂') :
  SimAt Q s (if c then m₁ else m₂) (if c then m₁' else m₂')
  := by
  split
  · exact h₁
  · exact h₂

theorem Sim.bind (m : StateT σ Option γ) {k : γ → StateT σ Option α} {k' : γ → StateT σ Option β}
    (h : ∀ a, Sim Q (k a) (k' a)) :
  Sim Q (m >>= k) (m >>= k')
  := fun _ => SimAt.bind fun a s' _ => h a s'

theorem Sim.ite {c : Prop} [Decidable c] {m₁ m₂ : StateT σ Option α} {m₁' m₂' : StateT σ Option β}
    (h₁ : Sim Q m₁ m₁') (h₂ : Sim Q m₂ m₂') :
  Sim Q (if c then m₁ else m₂) (if c then m₁' else m₂')
  := fun s => SimAt.ite (h₁ s) (h₂ s)

theorem SimAt.mono {Q' : σ → α → β → Prop} {m : StateT σ Option α} {m' : StateT σ Option β}
    (h : SimAt Q s m m') (hQ : ∀ s a b, Q s a b → Q' s a b) :
  SimAt Q' s m m'
  := by
  obtain hnone | ⟨a, b, s', hm, hm', hab⟩ := h
  · exact .inl hnone
  · exact .inr ⟨a, b, s', hm, hm', hQ s' a b hab⟩

/-- Two computations that are compared with a third one. -/
theorem SimAt.of_common {Q : σ → α → α → Prop} (hQ : ∀ s a b c, Q s a b → Q s a c → Q s b c)
    {m m₁ m₂ : StateT σ Option α} (h₁ : SimAt Q s m m₁) (h₂ : SimAt Q s m m₂) :
  SimAt Q s m₁ m₂
  := by
  obtain ⟨hnone, hnone₁⟩ | ⟨a, b, s', hm, hm₁, hab⟩ := h₁
  · obtain ⟨-, hnone₂⟩ | ⟨a, c, s', hm, -, -⟩ := h₂
    · exact .inl ⟨hnone₁, hnone₂⟩
    · rw [hnone] at hm
      cases hm
  · obtain ⟨hnone, -⟩ | ⟨a', c, s'', hm', hm₂, hac⟩ := h₂
    · rw [hnone] at hm
      cases hm
    · rw [hm, Option.some.injEq, Prod.mk.injEq] at hm'
      obtain ⟨rfl, rfl⟩ := hm'
      exact .inr ⟨b, c, s', hm₁, hm₂, hQ s' a b c hab hac⟩

/-! ### What a computation ignores -/

/-- The computation takes no notice of the update `u`, and leaves it in place. -/
def Ignores (u : σ → σ) (m : StateT σ Option α) : Prop :=
  ∀ s, m (u s) = (m s).map fun x => (x.1, u x.2)

/-- The computation takes no notice of the update `u`, and it is lost. -/
def Overwrites (u : σ → σ) (m : StateT σ Option α) : Prop := ∀ s, m (u s) = m s

/-- The computation takes no notice of the update `u`.  When `cut` yields true the update is left
in place, and otherwise it is lost. -/
def Splits (u : σ → σ) (cut : StateT σ Option Bool) (m : StateT σ Option α) : Prop :=
  ∀ s, ((∃ s', cut s = some (true, s')) → m (u s) = (m s).map fun x => (x.1, u x.2))
    ∧ ((¬ ∃ s', cut s = some (true, s')) → m (u s) = m s)

section

variable {u : σ → σ}

theorem Ignores.pure (a : α) :
  Ignores u (pure a : StateT σ Option α)
  := fun _ => rfl

theorem Ignores.modify {v : σ → σ} (h : ∀ s, v (u s) = u (v s)) :
  Ignores u (modify v : StateT σ Option Unit)
  := fun s => congrArg (fun s' => some ((), s')) (h s)

theorem Ignores.modifyGet {v : σ → α × σ} (h : ∀ s, v (u s) = ((v s).1, u (v s).2)) :
  Ignores u (modifyGet v : StateT σ Option α)
  := fun s => congrArg some (h s)

theorem Ignores.bind {m : StateT σ Option α} {k : α → StateT σ Option β} (hm : Ignores u m)
    (hk : ∀ a, Ignores u (k a)) :
  Ignores u (m >>= k)
  := by
  intro s
  simp only [Bind.bind, StateT.bind, hm s]
  cases m s with
  | none => rfl
  | some x => exact hk x.1 x.2

theorem Overwrites.modify {v : σ → σ} (h : ∀ s, v (u s) = v s) :
  Overwrites u (modify v : StateT σ Option Unit)
  := fun s => congrArg (fun s' => some ((), s')) (h s)

/-- What is lost at the start stays lost. -/
theorem Overwrites.then {m : StateT σ Option α} (h : Overwrites u m)
    (k : α → StateT σ Option β) :
  Overwrites u (m >>= k)
  := by
  intro s
  simp only [Bind.bind, StateT.bind, h s]

theorem Overwrites.bind {m : StateT σ Option α} {k : α → StateT σ Option β} (hm : Ignores u m)
    (hk : ∀ a, Overwrites u (k a)) :
  Overwrites u (m >>= k)
  := by
  intro s
  simp only [Bind.bind, StateT.bind, hm s]
  cases m s with
  | none => rfl
  | some x => exact hk x.1 x.2

/-- A computation that goes on from the state, but does not look at what `u` updates. -/
theorem Overwrites.get {k : σ → StateT σ Option β} (hu : ∀ s, k (u s) = k s)
    (hk : ∀ s, Overwrites u (k s)) :
  Overwrites u (get >>= k)
  := by
  intro s
  rw [bind_get, bind_get, hu]
  exact hk s s

theorem Overwrites.ite {c : Prop} [Decidable c] {m m' : StateT σ Option α}
    (h : Overwrites u m) (h' : Overwrites u m') :
  Overwrites u (if c then m else m')
  := by
  split
  · exact h
  · exact h'

theorem Splits.of_ignores {cut : StateT σ Option Bool} {m : StateT σ Option α}
    (h : Ignores u m) (hcut : ∀ s, ∃ s', cut s = some (true, s')) :
  Splits u cut m
  := by
  intro s
  constructor
  · intro _
    exact h s
  · intro hnot
    exact absurd (hcut s) hnot

theorem Splits.of_overwrites {m : StateT σ Option α} (h : Overwrites u m) :
  Splits u (Pure.pure false) m
  := by
  intro s
  constructor
  · rintro ⟨s', hcut⟩
    cases hcut
  · intro _
    exact h s

theorem Splits.bind {m : StateT σ Option γ} {cut : γ → StateT σ Option Bool}
    {k : γ → StateT σ Option α} (hm : Ignores u m) (hk : ∀ a, Splits u (cut a) (k a)) :
  Splits u (m >>= cut) (m >>= k)
  := by
  intro s
  simp only [Bind.bind, StateT.bind, hm s]
  cases m s with
  | none =>
    constructor
    · intro _
      rfl
    · intro _
      rfl
  | some x => exact hk x.1 x.2

theorem Splits.get {cut : σ → StateT σ Option Bool} {k : σ → StateT σ Option α}
    (hu : ∀ s, k (u s) = k s) (hk : ∀ s, Splits u (cut s) (k s)) :
  Splits u (get >>= cut) (get >>= k)
  := by
  intro s
  rw [bind_get, bind_get, bind_get, hu]
  exact hk s s

theorem Splits.ite {c : Prop} [Decidable c] {cut cut' : StateT σ Option Bool}
    {m m' : StateT σ Option α} (h : Splits u cut m) (h' : Splits u cut' m') :
  Splits u (if c then cut else cut') (if c then m else m')
  := by
  split
  · exact h
  · exact h'

end

end Stateful
