import Mathlib.Data.List.Basic
import Mathlib.Logic.Function.Basic

/-!
# Bits sent as pulses on two lines

Output lines are raised, lowered and held for a time.  A `Pair` of lines carries bits: a `0` is a
pulse on the one line and a `1` a pulse on the other.  What a receiver takes from the pair are the
moments at which a line rises.

`Carries p acts l` says that some acts, done when the lines of the pair are low, give the receiver
the bits `l`, leave the lines low, and at no moment have both of them high.  It is closed under
doing one thing after the other.
-/

namespace Lines

variable {ι : Type*}

/-- What is done with the lines. -/
inductive Act (ι : Type*) where
  | raise (i : ι)
  | lower (i : ι)
  | wait (time : ℕ)
  deriving DecidableEq, Repr

/-- Two different lines. -/
structure Pair (ι : Type*) where
  zero : ι
  one : ι
  ne : zero ≠ one

/-- The line for a bit. -/
def Pair.line (p : Pair ι) (b : Bool) : ι := if b then p.one else p.zero

variable [DecidableEq ι]

/-- The levels of the lines after an act. -/
def Act.apply (lv : ι → Bool) : Act ι → ι → Bool
  | .raise i => Function.update lv i true
  | .lower i => Function.update lv i false
  | .wait _ => lv

/-- The levels of the lines after some acts. -/
def levels (lv : ι → Bool) (acts : List (Act ι)) : ι → Bool := acts.foldl Act.apply lv

/-- After each of the acts the levels are as in `P`. -/
def Always (P : (ι → Bool) → Prop) : List (Act ι) → (ι → Bool) → Prop
  | [], _ => True
  | a :: acts, lv => P (a.apply lv) ∧ Always P acts (a.apply lv)

namespace Pair

/-- The bit that a receiver takes from an act: a line of the pair rises. -/
def bit (p : Pair ι) (lv : ι → Bool) : Act ι → List Bool
  | .raise i =>
    if lv i then [] else if i = p.zero then [false] else if i = p.one then [true] else []
  | .lower _ | .wait _ => []

/-- The bits that a receiver takes from some acts. -/
def received (p : Pair ι) : List (Act ι) → (ι → Bool) → List Bool
  | [], _ => []
  | a :: acts, lv => p.bit lv a ++ p.received acts (a.apply lv)

/-- Both lines are high. -/
def Clash (p : Pair ι) (lv : ι → Bool) : Prop := lv p.zero = true ∧ lv p.one = true

/-- Both lines are low. -/
def Quiet (p : Pair ι) (lv : ι → Bool) : Prop := lv p.zero = false ∧ lv p.one = false

/-- Both lines are lowered. -/
def settle (p : Pair ι) : List (Act ι) := [.lower p.zero, .lower p.one]

/-- The pulse for a bit. -/
def pulse (p : Pair ι) (width : ℕ) (b : Bool) : List (Act ι) :=
  [.raise (p.line b), .wait width, .lower (p.line b)]

/-- The acts send the bits `l` over the quiet pair. -/
structure Carries (p : Pair ι) (acts : List (Act ι)) (l : List Bool) : Prop where
  received : ∀ lv, p.Quiet lv → p.received acts lv = l
  quiet : ∀ lv, p.Quiet lv → p.Quiet (levels lv acts)
  apart : ∀ lv, p.Quiet lv → Always (fun lv => ¬ p.Clash lv) acts lv

variable {p : Pair ι} {acts acts' : List (Act ι)} {l l' : List Bool} {lv : ι → Bool}

omit [DecidableEq ι] in
theorem Quiet.not_clash (h : p.Quiet lv) :
  ¬ p.Clash lv
  := by
  rintro ⟨hzero, -⟩
  exact Bool.false_ne_true (h.1.symm.trans hzero)

omit [DecidableEq ι] in
theorem Quiet.line (h : p.Quiet lv) (b : Bool) :
  lv (p.line b) = false
  := by
  cases b with
  | false => exact h.1
  | true => exact h.2

end Pair

/-! ### One after the other -/

theorem levels_append (acts acts' : List (Act ι)) (lv : ι → Bool) :
  levels lv (acts ++ acts') = levels (levels lv acts) acts'
  := List.foldl_append

theorem Always.append {P : (ι → Bool) → Prop} {acts acts' : List (Act ι)} {lv : ι → Bool}
    (h : Always P acts lv) (h' : Always P acts' (levels lv acts)) :
  Always P (acts ++ acts') lv
  := by
  induction acts generalizing lv with
  | nil => exact h'
  | cons a acts ih => exact ⟨h.1, ih h.2 h'⟩

namespace Pair

variable {p : Pair ι} {acts acts' : List (Act ι)} {l l' : List Bool} {lv : ι → Bool}

theorem received_append (p : Pair ι) (acts acts' : List (Act ι)) (lv : ι → Bool) :
  p.received (acts ++ acts') lv = p.received acts lv ++ p.received acts' (levels lv acts)
  := by
  induction acts generalizing lv with
  | nil => rfl
  | cons a acts ih =>
    rw [List.cons_append, received, received, ih, List.append_assoc]
    rfl

/-- Whatever the levels are, lowering both lines makes the pair quiet. -/
theorem settle_spec (p : Pair ι) (lv : ι → Bool) :
  p.received p.settle lv = [] ∧ p.Quiet (levels lv p.settle)
    ∧ Always (fun lv => ¬ p.Clash lv) p.settle lv
  := by
  have hzero : Function.update lv p.zero false p.zero = false := Function.update_self ..
  have hquiet : p.Quiet (levels lv p.settle) := by
    constructor
    · exact (Function.update_of_ne p.ne ..).trans hzero
    · exact Function.update_self ..
  refine ⟨rfl, hquiet, ?_, hquiet.not_clash, trivial⟩
  rintro ⟨hhigh, -⟩
  exact Bool.false_ne_true (hzero.symm.trans hhigh)

namespace Carries

theorem nil (p : Pair ι) :
  p.Carries [] []
  := ⟨fun _ _ => rfl, fun _ h => h, fun _ _ => trivial⟩

/-- Bits sent one after the other. -/
theorem append (h : p.Carries acts l) (h' : p.Carries acts' l') :
  p.Carries (acts ++ acts') (l ++ l')
  := by
  constructor
  · intro lv hquiet
    rw [p.received_append, h.received lv hquiet, h'.received _ (h.quiet lv hquiet)]
  · intro lv hquiet
    rw [levels_append]
    exact h'.quiet _ (h.quiet lv hquiet)
  · intro lv hquiet
    exact (h.apart lv hquiet).append (h'.apart _ (h.quiet lv hquiet))

/-- Nothing is sent by waiting. -/
theorem wait (p : Pair ι) (time : ℕ) :
  p.Carries [.wait time] []
  := ⟨fun _ _ => rfl, fun _ h => h, fun _ h => ⟨h.not_clash, trivial⟩⟩

/-- Nothing is sent by lowering the lines. -/
theorem settle (p : Pair ι) :
  p.Carries p.settle []
  := ⟨fun lv _ => (p.settle_spec lv).1, fun lv _ => (p.settle_spec lv).2.1,
    fun lv _ => (p.settle_spec lv).2.2⟩

/-- A pulse sends its bit. -/
theorem pulse (p : Pair ι) (width : ℕ) (b : Bool) :
  p.Carries (p.pulse width b) [b]
  := by
  -- afterwards the levels are what they were
  have hlevels : ∀ lv, p.Quiet lv → levels lv (p.pulse width b) = lv := by
    intro lv hquiet
    show Function.update (Function.update lv (p.line b) true) (p.line b) false = lv
    rw [Function.update_idem, ← hquiet.line b, Function.update_eq_self]
  constructor
  · intro lv hquiet
    show (if lv (p.line b) = true then [] else if p.line b = p.zero then [false]
      else if p.line b = p.one then [true] else []) ++ [] = [b]
    rw [hquiet.line b, if_neg Bool.false_ne_true, List.append_nil]
    cases b with
    | false => exact if_pos rfl
    | true => exact (if_neg p.ne.symm).trans (if_pos rfl)
  · intro lv hquiet
    rw [hlevels lv hquiet]
    exact hquiet
  · intro lv hquiet
    -- only one line is raised
    have hraised : ¬ p.Clash (Function.update lv (p.line b) true) := by
      rintro ⟨hzero, hone⟩
      cases b with
      | false =>
        have hsame : Function.update lv p.zero true p.one = lv p.one :=
          Function.update_of_ne p.ne.symm ..
        exact Bool.false_ne_true (hquiet.2.symm.trans (hsame.symm.trans hone))
      | true =>
        have hsame : Function.update lv p.one true p.zero = lv p.zero :=
          Function.update_of_ne p.ne ..
        exact Bool.false_ne_true (hquiet.1.symm.trans (hsame.symm.trans hzero))
    have hlowered : ¬ p.Clash (levels lv (p.pulse width b)) := by
      rw [hlevels lv hquiet]
      exact hquiet.not_clash
    exact ⟨hraised, hraised, hlowered, trivial⟩

/-- A sequence that starts by lowering the lines sends its bits whatever the levels are. -/
theorem after_settle (h : p.Carries acts l) (lv : ι → Bool) :
  p.received (p.settle ++ acts) lv = l
    ∧ p.Quiet (levels lv (p.settle ++ acts))
    ∧ Always (fun lv => ¬ p.Clash lv) (p.settle ++ acts) lv
  := by
  obtain ⟨hnone, hquiet, hapart⟩ := p.settle_spec lv
  refine ⟨?_, ?_, hapart.append (h.apart _ hquiet)⟩
  · rw [p.received_append, hnone, h.received _ hquiet, List.nil_append]
  · rw [levels_append]
    exact h.quiet _ hquiet

end Carries

end Pair

end Lines
