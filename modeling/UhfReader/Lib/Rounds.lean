import Mathlib.Data.List.Nodup
import UhfReader.Lib.Simulation

/-!
# Rounds of a poller

A poller serves what is `pending`, one after the other, and when nothing is left it begins a round.
What it has served and what is pending are the rounds that it began (`conserved`).  When all rounds
are the same, nobody is served more than one time more often than another (`count_le`).
-/

namespace Lts

variable {σ ε α : Type*} {step : σ → ε → Option σ}

/-- What was served and what is pending at the end of a run are what was pending at its start and
the rounds that were begun. -/
theorem conserved (pending : σ → List α) (served : σ → ε → List α)
    (begun : σ → ε → List (List α))
    (hstep : ∀ s e s', step s e = some s' →
      served s e ++ pending s' = pending s ++ (begun s e).flatten)
    {es : List ε} {s s' : σ} (hrun : Run.run step es s = some s') :
  labels step served es s ++ pending s' = pending s ++ (labels step begun es s).flatten
  := by
  induction es generalizing s with
  | nil =>
    cases hrun
    exact (List.append_nil _).symm
  | cons e es ih =>
    obtain ⟨s₁, hs, hrest⟩ := Run.run_cons_eq_some hrun
    simp only [labels, hs]
    rw [List.append_assoc, ih hrest, ← List.append_assoc, hstep s e s₁ hs, List.flatten_append,
      List.append_assoc]

/-- A property of the labels of a run that those of each step have. -/
theorem forall_labels {label : σ → ε → List α} {I : σ → Prop} {P : α → Prop}
    (hlabel : ∀ s e, I s → ∀ a ∈ label s e, P a) {C : σ → ε → Prop}
    (hstep : ∀ s e s', I s → C s e → step s e = some s' → I s') {es : List ε} {s : σ} (hs : I s)
    (hcond : Run.Along step C es s) :
  ∀ a ∈ labels step label es s, P a
  := by
  induction es generalizing s with
  | nil =>
    intro a ha
    cases ha
  | cons e es ih =>
    intro a ha
    simp only [labels, List.mem_append] at ha
    obtain ha | ha := ha
    · exact hlabel s e hs a ha
    · cases hnext : step s e with
      | none =>
        rw [hnext] at ha
        cases ha
      | some s' =>
        rw [hnext] at ha
        exact ih (hstep s e s' hs hcond.1 hnext) (hcond.tail hnext) a ha

end Lts

namespace Rounds

variable {α : Type*} [BEq α]

theorem count_flatten_of_forall_eq {l : List α} {rounds : List (List α)}
    (hrounds : ∀ round ∈ rounds, round = l) (a : α) :
  rounds.flatten.count a = rounds.length * l.count a
  := by
  induction rounds with
  | nil => exact (Nat.zero_mul _).symm
  | cons round rounds ih =>
    rw [List.flatten_cons, List.count_append, hrounds round List.mem_cons_self,
      ih fun r hr => hrounds r (List.mem_cons_of_mem _ hr), List.length_cons, Nat.succ_mul,
      Nat.add_comm]

/-- When all rounds are the same, nobody of the round is served more than one time more often than
another of it. -/
theorem count_le [LawfulBEq α] {l done rest : List α} {rounds : List (List α)} (hl : l.Nodup)
    (hrounds : ∀ round ∈ rounds, round = l) (hdone : done ++ rest = rounds.flatten)
    (hrest : rest.Sublist l) {a b : α} (ha : a ∈ l) (hb : b ∈ l) :
  done.count a ≤ done.count b + 1
  := by
  have hcount : ∀ c ∈ l, done.count c + rest.count c = rounds.length := by
    intro c hc
    rw [← List.count_append, hdone, count_flatten_of_forall_eq hrounds,
      List.count_eq_one_of_mem hl hc, Nat.mul_one]
  have hleft : rest.count b ≤ 1 :=
    Nat.le_trans (hrest.count_le b) (List.nodup_iff_count_le_one.mp hl b)
  have hcounta := hcount a ha
  have hcountb := hcount b hb
  omega

end Rounds
