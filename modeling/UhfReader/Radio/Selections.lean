import Mathlib.Data.List.Lex
import Mathlib.Data.Nat.Bitwise
import UhfReader.Radio

/-!
# The selections of ISO18000-6B tags

`Mask6BCheck` compares bytes of an identifier with those of the mask, as far as they are selected
by the bits of `MASK6B`.  The loop that goes through them is left at the first byte that decides.
`judgePairs` is this loop over the list of the selected pairs alone.
-/

open Memory

namespace UhfReader

/-! ### The comparisons -/

/-- The comparison `MASKSEL` holds for the pairs of a byte of the tag and one of the mask: `0` is
equal, `1` not equal, `2` greater and `3` smaller, where the first difference decides. -/
def Selected (sel : UInt8) (pairs : List (UInt8 × UInt8)) : Prop :=
  (sel = 0 ∧ ∀ p ∈ pairs, p.1 = p.2)
    ∨ (sel = 1 ∧ ∃ p ∈ pairs, p.1 ≠ p.2)
    ∨ (sel = 2 ∧ pairs.map Prod.snd < pairs.map Prod.fst)
    ∨ (sel = 3 ∧ pairs.map Prod.fst < pairs.map Prod.snd)

/-- The loop of `Mask6BCheck` over the selected pairs. -/
def judgePairs (sel : UInt8) : List (UInt8 × UInt8) → Bool
  | [] => sel = 0
  | (a, b) :: pairs =>
    if sel = 0 ∧ a ≠ b then false
    else if sel = 1 ∧ a ≠ b then true
    else if sel = 2 ∧ a < b then false
    else if sel = 2 ∧ a > b then true
    else if sel = 3 ∧ a > b then false
    else if sel = 3 ∧ a < b then true
    else judgePairs sel pairs

namespace Selected

variable {sel : UInt8} {pairs : List (UInt8 × UInt8)}

/-- Without pairs only the comparison for equality holds. -/
theorem nil_iff :
  Selected sel [] ↔ sel = 0
  := by
  simp [Selected, List.lt_irrefl]

/-- A pair of equal bytes decides nothing. -/
theorem cons_self_iff (a : UInt8) :
  Selected sel ((a, a) :: pairs) ↔ Selected sel pairs
  := by
  simp [Selected]

/-- A pair of different bytes decides. -/
theorem cons_iff_of_ne {a b : UInt8} (h : a ≠ b) :
  Selected sel ((a, b) :: pairs) ↔ sel = 1 ∨ sel = 2 ∧ b < a ∨ sel = 3 ∧ a < b
  := by
  simp [Selected, List.cons_lt_cons_iff, h, h.symm]

end Selected

/-- The loop finds out whether the comparison holds. -/
theorem judgePairs_iff (sel : UInt8) (pairs : List (UInt8 × UInt8)) :
  judgePairs sel pairs = true ↔ Selected sel pairs
  := by
  induction pairs with
  | nil =>
    rw [Selected.nil_iff]
    exact decide_eq_true_iff
  | cons p pairs ih =>
    obtain ⟨a, b⟩ := p
    unfold judgePairs
    by_cases hab : a = b
    · -- none of the tests succeeds
      subst hab
      rw [Selected.cons_self_iff, ← ih]
      simp [UInt8.lt_irrefl]
    · -- the bytes decide, unless `MASKSEL` is none of the four comparisons
      rw [Selected.cons_iff_of_ne hab]
      have hother : sel ≠ 0 → sel ≠ 1 → sel ≠ 2 → sel ≠ 3 → judgePairs sel pairs = false := by
        intro h0 h1 h2 h3
        rw [Bool.eq_false_iff, ne_eq, ih]
        simp [Selected, h0, h1, h2, h3]
      by_cases h0 : sel = 0
      · simp [h0, hab]
      by_cases h1 : sel = 1
      · simp [h1, hab]
      obtain hlt | hgt := UInt8.lt_or_lt_of_ne hab
      · have hnot : ¬ b < a := UInt8.lt_asymm hlt
        by_cases h2 : sel = 2
        · simp [h2, hlt, hnot]
        by_cases h3 : sel = 3
        · simp [h3, hlt, hnot]
        simp [h0, h1, h2, h3, hother h0 h1 h2 h3]
      · have hnot : ¬ a < b := UInt8.lt_asymm hgt
        by_cases h2 : sel = 2
        · simp [h2, hgt, hnot]
        by_cases h3 : sel = 3
        · simp [h3, hgt, hnot]
        simp [h0, h1, h2, h3, hother h0 h1 h2 h3]

/-! ### The selected bytes -/

/-- `MASK6B & (1 << (7 - tj))` -/
theorem selects_iff (mask : UInt8) {t : ℕ} (ht : t ≤ 7) :
  mask &&& (1 <<< UInt8.ofNat (7 - t)) ≠ 0 ↔ mask.toNat.testBit (7 - t) = true
  := by
  have hbit : (mask &&& (1 <<< UInt8.ofNat (7 - t))).toNat
      = (mask.toNat.testBit (7 - t)).toNat * 2 ^ (7 - t) := by
    have hlt : 2 ^ (7 - t) < 2 ^ 8 := Nat.pow_lt_pow_right Nat.one_lt_two (by omega)
    rw [UInt8.toNat_and, UInt8.toNat_shiftLeft, UInt8.toNat_ofNat', UInt8.toNat_one,
      Nat.mod_eq_of_lt (show 7 - t < 2 ^ 8 by omega), Nat.mod_eq_of_lt (show 7 - t < 8 by omega),
      Nat.one_shiftLeft, Nat.mod_eq_of_lt hlt, Nat.and_two_pow]
  rw [ne_eq, ← UInt8.toNat_inj, hbit, UInt8.toNat_zero]
  cases mask.toNat.testBit (7 - t) with
  | false => simp
  | true => simp

namespace Globals

/-- The pair of the tag and the mask at the byte `t` of the mask. -/
def maskPair (g : Globals) (uid : Mem) (t : ℕ) : UInt8 × UInt8 :=
  (uid (g.maskAddr6B.toNat + t), g.maskData6B.load t)

/-- Those of the bytes `ts` of the mask that `MASK6B` selects, with the bytes of the tag at
`MASKAddr6B`. -/
def maskPairs (g : Globals) (uid : Mem) (ts : List ℕ) : List (UInt8 × UInt8) :=
  (ts.filter fun t => g.mask6B.toNat.testBit (7 - t)).map (g.maskPair uid)

/-- The bytes of an identifier that are compared, with those of the mask. -/
def selectedPairs (g : Globals) (uid : Mem) : List (UInt8 × UInt8) :=
  g.maskPairs uid ((List.range 8).filter fun t => g.maskAddr6B.toNat + t < 8)

/-- The bytes that are compared are those up to the end of the identifier. -/
theorem selectedPairs_eq (g : Globals) (uid : Mem) :
  g.selectedPairs uid = g.maskPairs uid (List.range (8 - g.maskAddr6B.toNat))
  := by
  unfold selectedPairs
  congr 1
  generalize g.maskAddr6B.toNat = addr
  have hsplit : 8 = 8 - addr + (8 - (8 - addr)) := by omega
  rw [congrArg List.range hsplit, List.range_add, List.filter_append]
  have hinside : (List.range (8 - addr)).filter (fun t => addr + t < 8)
      = List.range (8 - addr) := by
    apply List.filter_eq_self.mpr
    intro t ht
    have hlt := List.mem_range.mp ht
    exact decide_eq_true (by omega)
  have hbehind : ((List.range (8 - (8 - addr))).map (8 - addr + ·)).filter
      (fun t => addr + t < 8) = [] := by
    apply List.filter_eq_nil_iff.mpr
    intro t ht
    obtain ⟨k, -, rfl⟩ := List.mem_map.mp ht
    simp only [decide_eq_true_eq]
    omega
  rw [hinside, hbehind, List.append_nil]

end Globals

/-- From `MASKAddr6B` on, the loop of `Mask6BCheck` goes through the selected bytes. -/
theorem mask6BCheckLoop_behind (g : Globals) (uid : Mem) (n : ℕ) :
  ∀ tj, g.maskAddr6B.toNat + tj + n = 8 →
    mask6BCheckLoop g uid n (g.maskAddr6B.toNat + tj) tj
      = judgePairs g.maskSel (g.maskPairs uid (List.range' tj n))
  := by
  induction n with
  | zero =>
    intro tj _
    rfl
  | succ n ih =>
    intro tj hn
    have hselects := selects_iff g.mask6B (t := tj) (by omega)
    -- the round after this one; behind the last byte there is none
    have hrest : (if tj + 1 > 7 then decide (g.maskSel = 0)
        else mask6BCheckLoop g uid n (g.maskAddr6B.toNat + tj + 1) (tj + 1))
        = judgePairs g.maskSel (g.maskPairs uid (List.range' (tj + 1) n)) := by
      split
      · obtain rfl : n = 0 := by omega
        rfl
      · exact ih (tj + 1) (by omega)
    unfold mask6BCheckLoop
    rw [if_pos (Nat.le_add_right _ _), hrest, List.range'_succ]
    unfold Globals.maskPairs
    by_cases hbit : g.mask6B.toNat.testBit (7 - tj) = true
    · rw [List.filter_cons_of_pos (by exact hbit), List.map_cons]
      simp only [eq_true (hselects.mpr hbit), true_and]
      rfl
    · rw [List.filter_cons_of_neg (by exact hbit)]
      simp only [eq_false (mt hselects.mp hbit), false_and, if_false]

/-- The loop of `Mask6BCheck` passes over the bytes before `MASKAddr6B`. -/
theorem mask6BCheckLoop_before (g : Globals) (uid : Mem) (n : ℕ) :
  ∀ i ≤ g.maskAddr6B.toNat, i + n = 8 →
    mask6BCheckLoop g uid n i 0
      = judgePairs g.maskSel (g.maskPairs uid (List.range (8 - g.maskAddr6B.toNat)))
  := by
  induction n with
  | zero =>
    intro i hi hn
    rw [show 8 - g.maskAddr6B.toNat = 0 by omega]
    rfl
  | succ n ih =>
    intro i hi hn
    obtain rfl | hlt := Nat.eq_or_lt_of_le hi
    · have hbehind := mask6BCheckLoop_behind g uid (n + 1) 0 hn
      rw [List.range_eq_range', show 8 - g.maskAddr6B.toNat = n + 1 by omega]
      exact hbehind
    · unfold mask6BCheckLoop
      rw [if_neg (Nat.not_le.mpr hlt)]
      exact ih (i + 1) hlt (by omega)

/-- `Mask6BCheck` accepts the identifiers for which no byte is to be compared, and those for whose
selected bytes the comparison `MASKSEL` with those of the mask holds. -/
theorem mask6BCheck_selected (g : Globals) (uid : Mem) :
  mask6BCheck g uid = true ↔
    g.mask6B = 0
      ∨ (g.maskSel = 0 ∧ ∀ p ∈ g.selectedPairs uid, p.1 = p.2)
      ∨ (g.maskSel = 1 ∧ ∃ p ∈ g.selectedPairs uid, p.1 ≠ p.2)
      ∨ (g.maskSel = 2
        ∧ (g.selectedPairs uid).map Prod.snd < (g.selectedPairs uid).map Prod.fst)
      ∨ (g.maskSel = 3
        ∧ (g.selectedPairs uid).map Prod.fst < (g.selectedPairs uid).map Prod.snd)
  := by
  show mask6BCheck g uid = true ↔ g.mask6B = 0 ∨ Selected g.maskSel (g.selectedPairs uid)
  rw [← judgePairs_iff, g.selectedPairs_eq,
    ← mask6BCheckLoop_before g uid 8 0 (Nat.zero_le _) rfl]
  unfold mask6BCheck
  by_cases hmask : g.mask6B = 0
  · rw [if_pos hmask]
    exact ⟨fun _ => .inl hmask, fun _ => rfl⟩
  · rw [if_neg hmask, or_iff_right hmask]

end UhfReader
