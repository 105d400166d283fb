import Mathlib.Data.Bool.Count
import Mathlib.Data.Nat.Bitwise

/-!
# Numbers as lists of bits

`bits n x` are the `n` lowest bits of `x`, the lowest one first, and `ofBits` is the number that
has given bits.  A number of several digits has the bits of its lowest digit in front
(`bits_add`).
-/

namespace Bits

/-- The `n` lowest bits of a number, the lowest one first. -/
def bits : ℕ → ℕ → List Bool
  | 0, _ => []
  | n + 1, x => x.testBit 0 :: bits n (x / 2)

/-- The number with the bits of a list, the lowest one first. -/
def ofBits : List Bool → ℕ
  | [] => 0
  | b :: l => b.toNat + 2 * ofBits l

@[simp]
theorem length_bits (n x : ℕ) :
  (bits n x).length = n
  := by
  induction n generalizing x with
  | zero => rfl
  | succ n ih => exact congrArg (· + 1) (ih (x / 2))

/-- The bits by their number. -/
theorem getElem_bits {n x i : ℕ} (h : i < (bits n x).length) :
  (bits n x)[i] = x.testBit i
  := by
  induction n generalizing x i with
  | zero => exact absurd h (Nat.not_lt_zero i)
  | succ n ih =>
    cases i with
    | zero => rfl
    | succ i =>
      rw [Nat.testBit_succ]
      exact ih (Nat.lt_of_succ_lt_succ h)

theorem bits_eq_map (n x : ℕ) :
  bits n x = (List.range n).map x.testBit
  := by
  apply List.ext_getElem
  · simp
  · intro i hi _
    rw [getElem_bits, List.getElem_map, List.getElem_range]

/-- The highest bit is the last one. -/
theorem bits_succ_last (n x : ℕ) :
  bits (n + 1) x = bits n x ++ [x.testBit n]
  := by
  rw [bits_eq_map, bits_eq_map, List.range_succ, List.map_append]
  rfl

/-- Higher bits than those do not matter. -/
@[simp]
theorem bits_mod (n x : ℕ) :
  bits n (x % 2 ^ n) = bits n x
  := by
  rw [bits_eq_map, bits_eq_map]
  apply List.map_congr_left
  intro i hi
  rw [Nat.testBit_mod_two_pow, decide_eq_true (List.mem_range.mp hi), Bool.true_and]

/-- A mask of one bit tests that bit. -/
theorem and_two_pow_ne_zero (x i : ℕ) :
  x &&& 2 ^ i ≠ 0 ↔ x.testBit i = true
  := by
  rw [Nat.and_two_pow]
  cases x.testBit i with
  | true => simp
  | false => simp

/-- The bits tell the number, as far as they go. -/
@[simp]
theorem ofBits_bits (n x : ℕ) :
  ofBits (bits n x) = x % 2 ^ n
  := by
  induction n generalizing x with
  | zero => exact (Nat.mod_one x).symm
  | succ n ih =>
    rw [bits, ofBits, ih, Nat.toNat_testBit, Nat.pow_zero, Nat.div_one, Nat.pow_succ',
      Nat.mod_mul]

/-- The bits of a number of two digits are those of the lower digit, and then those of the higher
one. -/
theorem bits_add {n x : ℕ} (m : ℕ) (hx : x < 2 ^ n) (y : ℕ) :
  bits (n + m) (x + 2 ^ n * y) = bits n x ++ bits m y
  := by
  induction n generalizing x with
  | zero =>
    obtain rfl : x = 0 := Nat.lt_one_iff.mp hx
    simp [bits]
  | succ n ih =>
    have hhalf : (x + 2 ^ (n + 1) * y) / 2 = x / 2 + 2 ^ n * y := by
      rw [Nat.pow_succ', Nat.mul_assoc, Nat.add_mul_div_left _ _ Nat.two_pos]
    have hlow : (x + 2 ^ (n + 1) * y).testBit 0 = x.testBit 0 := by
      rw [Nat.testBit_zero, Nat.testBit_zero, Nat.pow_succ', Nat.mul_assoc,
        Nat.add_mul_mod_self_left]
    rw [Nat.add_right_comm, bits, hlow, hhalf, ih (by omega)]
    rfl

/-- The first bits are those of the remainder, and of the number. -/
theorem take_bits {k n : ℕ} (x : ℕ) (h : k ≤ n) :
  (bits n x).take k = bits k x
  := by
  rw [bits_eq_map, bits_eq_map, ← List.map_take, List.take_range, Nat.min_eq_left h]

/-- The other bits are those of the quotient. -/
theorem drop_bits (k n x : ℕ) :
  (bits (k + n) x).drop k = bits n (x / 2 ^ k)
  := by
  induction k generalizing x with
  | zero => simp
  | succ k ih =>
    rw [Nat.add_right_comm, bits, List.drop_succ_cons, ih, Nat.div_div_eq_div_mul, Nat.pow_succ']

end Bits
