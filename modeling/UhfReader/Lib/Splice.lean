import Mathlib.Data.Nat.Notation
import Mathlib.Tactic.Common

/-!
# Runs in a store

A store gives a value for each address.  `splice f a b n` is the store `f` with the `n` values from
the address `a` on replaced by the first `n` of `b`: what a write of a run of values is to leave.
A run may be written in two parts, and one that is there already changes nothing.

A run that was written at too low an address shows up at its own as a run that is shifted against
itself.  It is the right one only if all its values are those that were there before.
-/

namespace Splice

variable {α : Type*}

/-- The store `f` with the `n` values from `a` on replaced by the first `n` of `b`. -/
def splice (f : ℕ → α) (a : ℕ) (b : ℕ → α) (n : ℕ) : ℕ → α :=
  fun i => if a ≤ i ∧ i < a + n then b (i - a) else f i

variable {f g b : ℕ → α} {a i m n : ℕ}

theorem splice_inside (h : i < n) :
  splice f a b n (a + i) = b i
  := by
  rw [splice, if_pos ⟨Nat.le_add_right a i, Nat.add_lt_add_left h a⟩, Nat.add_sub_cancel_left]

theorem splice_outside (h : ¬ (a ≤ i ∧ i < a + n)) :
  splice f a b n i = f i
  :=
  if_neg h

/-- A store is what a write of a run is to leave if it has the run, and the old values elsewhere. -/
theorem eq_splice_iff :
  g = splice f a b n ↔ (∀ i < n, g (a + i) = b i) ∧ ∀ i, ¬ (a ≤ i ∧ i < a + n) → g i = f i
  := by
  constructor
  · rintro rfl
    exact ⟨fun i hi => splice_inside hi, fun i hi => splice_outside hi⟩
  · rintro ⟨hinside, houtside⟩
    funext i
    by_cases hi : a ≤ i ∧ i < a + n
    · obtain ⟨j, rfl⟩ := Nat.exists_eq_add_of_le hi.1
      have hj : j < n := Nat.lt_of_add_lt_add_left hi.2
      rw [hinside j hj, splice_inside hj]
    · rw [houtside i hi, splice_outside hi]

/-- A run is written in two parts. -/
theorem splice_splice (f : ℕ → α) (a : ℕ) (b : ℕ → α) (m n : ℕ) :
  splice (splice f a b m) (a + m) (fun i => b (m + i)) n = splice f a b (m + n)
  := by
  symm
  rw [eq_splice_iff]
  constructor
  · intro i hi
    rw [Nat.add_assoc]
    exact splice_inside (Nat.add_lt_add_left hi m)
  · intro i hi
    by_cases hfirst : a ≤ i ∧ i < a + m
    · rw [splice, splice, if_pos hfirst, if_pos ⟨hfirst.1, by omega⟩]
    · rw [splice_outside hfirst, splice_outside (by omega)]

/-- Writing what is there already. -/
theorem splice_same (h : ∀ i < n, f (a + i) = b i) :
  splice f a b n = f
  :=
  (eq_splice_iff.mpr ⟨h, fun _ _ => rfl⟩).symm

/-- A run that is `c` behind its last values, and before them the run shifted by `p`, is `c`
everywhere. -/
theorem const_of_shift {c : α} {p : ℕ} (hp : 0 < p)
    (h : ∀ i < n, b i = if i + p < n then b (i + p) else c) :
  ∀ i < n, b i = c
  := by
  intro i hi
  -- by induction on what is left of the run behind `i`
  induction hk : n - i using Nat.strongRecOn generalizing i with
  | ind k ih =>
    rw [h i hi]
    split
    · rename_i hshift
      exact ih (n - (i + p)) (by omega) (i + p) hshift rfl
    · rfl

end Splice
