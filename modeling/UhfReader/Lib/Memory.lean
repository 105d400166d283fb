import Mathlib.Data.List.Basic
import Mathlib.Data.UInt

/-!
# Byte memories

A `Mem` is the memory from some base address on, one byte for each offset; a `Block n` is
an object of `n` bytes.  Both are written byte by byte with `put` and in runs with `copy`,
which is C's `memcpy`.  A write past the end of a block does not change it, and a read
past its end yields `0`.

`byteSum m n` is the sum modulo 256 of the first `n` bytes of `m`.  A frame is closed by
the byte that makes this sum zero.
-/

namespace Memory

/-- The bytes of a memory from a base address on. -/
abbrev Mem := ℕ → UInt8

/-- An object of `n` bytes. -/
abbrev Block (n : ℕ) := Fin n → UInt8

namespace Mem

/-- The memory `m` with the byte at `i` replaced. -/
def put (m : Mem) (i : ℕ) (b : UInt8) : Mem :=
  fun j => if j = i then b else m j

/-- The memory `m` with the `n` bytes from `off` on replaced by the first `n` of `src`. -/
def copy (m : Mem) (off : ℕ) (src : Mem) (n : ℕ) : Mem :=
  fun j => if off ≤ j ∧ j < off + n then src (j - off) else m j

/-- The memory `m` seen from the address `off` on. -/
def shift (m : Mem) (off : ℕ) : Mem :=
  fun i => m (off + i)

/-- The memory `m` with everything from `off` on replaced by `p`. -/
def graft (m : Mem) (off : ℕ) (p : Mem) : Mem :=
  fun i => if i < off then m i else p (i - off)

/-- The first `n` bytes of a memory. -/
def take (m : Mem) (n : ℕ) : List UInt8 :=
  (List.range n).map m

/-- The bit `i` of a memory, the highest bit of a byte first. -/
def bit (m : Mem) (i : ℕ) : Bool := (m (i / 8)).toNat.testBit (7 - i % 8)

/-- The bytes of a list from the base address on, followed by those of `rest`. -/
def ofList (l : List UInt8) (rest : Mem) : Mem :=
  fun i => l.getD i (rest (i - l.length))

@[simp]
theorem put_same (m : Mem) (i : ℕ) (b : UInt8) :
  m.put i b i = b
  := by
  simp [put]

theorem put_of_ne {m : Mem} {i j : ℕ} {b : UInt8} (h : j ≠ i) :
  m.put i b j = m j
  := by
  simp [put, h]

theorem put_self (m : Mem) (i : ℕ) :
  m.put i (m i) = m
  := by
  funext j
  rw [put]
  split
  · rename_i h
    rw [h]
  · rfl

theorem copy_inside {m : Mem} {off : ℕ} {src : Mem} {n i : ℕ} (h : i < n) :
  m.copy off src n (off + i) = src i
  := by
  simp [copy, h]

theorem copy_below {m : Mem} {off : ℕ} {src : Mem} {n j : ℕ} (h : j < off) :
  m.copy off src n j = m j
  := by
  simp only [copy]
  rw [if_neg]
  omega

@[simp]
theorem shift_apply (m : Mem) (off i : ℕ) :
  m.shift off i = m (off + i)
  := rfl

theorem graft_below {m : Mem} {off : ℕ} {p : Mem} {i : ℕ} (h : i < off) :
  m.graft off p i = m i
  := by
  simp [graft, h]

@[simp]
theorem graft_above (m : Mem) (off : ℕ) (p : Mem) (i : ℕ) :
  m.graft off p (off + i) = p i
  := by
  simp [graft]

@[simp]
theorem graft_shift (m : Mem) (off : ℕ) :
  m.graft off (m.shift off) = m
  := by
  funext i
  unfold graft shift
  split
  · rfl
  · congr 1
    omega

@[simp]
theorem length_take (m : Mem) (n : ℕ) :
  (m.take n).length = n
  := by
  simp [take]

theorem getElem_take {m : Mem} {n i : ℕ} (h : i < (m.take n).length) :
  (m.take n)[i] = m i
  := by
  simp [take]

/-- The first bytes of a memory, in two parts. -/
theorem take_add (m : Mem) (n k : ℕ) :
  m.take (n + k) = m.take n ++ (m.shift n).take k
  := by
  unfold take
  rw [List.range_add, List.map_append, List.map_map]
  rfl

/-- The first ones of the first bytes. -/
theorem take_take (m : Mem) {n k : ℕ} (h : k ≤ n) :
  (m.take n).take k = m.take k
  := by
  obtain ⟨d, rfl⟩ := Nat.exists_eq_add_of_le h
  rw [take_add, List.take_left' (length_take m k)]

/-- One of the bytes from a place on is replaced. -/
theorem take_shift_put (m : Mem) (a n off : ℕ) (b : UInt8) :
  ((m.put (a + off) b).shift a).take n = ((m.shift a).take n).set off b
  := by
  apply List.ext_getElem
  · simp
  · intro i hi _
    rw [List.getElem_set]
    simp only [take, List.getElem_map, List.getElem_range, shift_apply]
    split
    · rename_i heq
      rw [heq, put_same]
    · rename_i hne
      exact put_of_ne (by omega)

/-- A memory that starts with two lists has each of them at its place. -/
theorem take_append {m : Mem} {l l' : List UInt8} (h : m.take (l ++ l').length = l ++ l') :
  m.take l.length = l ∧ (m.shift l.length).take l'.length = l'
  := by
  rw [List.length_append, take_add] at h
  exact List.append_inj h (length_take m l.length)

/-- A run copied to the end of the first bytes follows them. -/
theorem take_copy (m src : Mem) (off n : ℕ) :
  (m.copy off src n).take (off + n) = m.take off ++ src.take n
  := by
  unfold take
  rw [List.range_add, List.map_append, List.map_map]
  congr 1
  · apply List.map_congr_left
    intro i hi
    exact copy_below (List.mem_range.mp hi)
  · apply List.map_congr_left
    intro i hi
    exact copy_inside (List.mem_range.mp hi)

theorem shift_put (m : Mem) (a k : ℕ) (b : UInt8) :
  (m.put (a + k) b).shift a = (m.shift a).put k b
  := by
  funext j
  simp [put]

/-- A byte stored behind the first bytes follows them. -/
theorem take_put (m : Mem) (n : ℕ) (b : UInt8) :
  (m.put n b).take (n + 1) = m.take n ++ [b]
  := by
  rw [take_add]
  congr 1
  · apply List.map_congr_left
    intro i hi
    exact put_of_ne (by have := List.mem_range.mp hi; omega)
  · exact congrArg (fun x => [x]) (put_same m n b)

theorem ofList_of_lt {l : List UInt8} {rest : Mem} {i : ℕ} (h : i < l.length) :
  ofList l rest i = l.get ⟨i, h⟩
  := by
  simp [ofList, h]

@[simp]
theorem take_ofList (l : List UInt8) (rest : Mem) :
  (ofList l rest).take l.length = l
  := by
  apply List.ext_getElem
  · rw [length_take]
  · intro i _ hi
    simp [take, ofList_of_lt hi]

/-- `m` and `m'` have the same first `n` bytes. -/
def AgreeBelow (n : ℕ) (m m' : Mem) : Prop :=
  ∀ i < n, m i = m' i

namespace AgreeBelow

theorem refl (n : ℕ) (m : Mem) :
  AgreeBelow n m m
  := fun _ _ => rfl

theorem mono {n k : ℕ} {m m' : Mem} (h : AgreeBelow n m m') (hk : k ≤ n) :
  AgreeBelow k m m'
  := fun i hi => h i (Nat.lt_of_lt_of_le hi hk)

theorem put {n : ℕ} {m m' : Mem} (h : AgreeBelow n m m') (i : ℕ) (b : UInt8) :
  AgreeBelow n (m.put i b) (m'.put i b)
  := by
  intro j hj
  simp only [Mem.put]
  rw [h j hj]

/-- The same byte put after the part agreed on extends it. -/
theorem put_next {n : ℕ} {m m' : Mem} (h : AgreeBelow n m m') (b : UInt8) :
  AgreeBelow (n + 1) (m.put n b) (m'.put n b)
  := by
  intro j hj
  simp only [Mem.put]
  split
  · rfl
  · apply h
    omega

theorem shift {n k : ℕ} {m m' : Mem} (h : AgreeBelow (n + k) m m') :
  AgreeBelow k (m.shift n) (m'.shift n)
  := by
  intro i hi
  apply h
  omega

theorem graft {n k off : ℕ} {m m' p p' : Mem} (h : AgreeBelow n m m') (hp : AgreeBelow k p p')
    (hoff : off ≤ n) :
  AgreeBelow (off + k) (m.graft off p) (m'.graft off p')
  := by
  intro i hi
  by_cases hlt : i < off
  · rw [graft_below hlt, graft_below hlt]
    exact h i (by omega)
  · have hi' : off + (i - off) = i := by omega
    rw [← hi', graft_above, graft_above]
    exact hp (i - off) (by omega)

theorem symm {n : ℕ} {m m' : Mem} (h : AgreeBelow n m m') :
  AgreeBelow n m' m
  := fun i hi => (h i hi).symm

theorem trans {n : ℕ} {m m' m'' : Mem} (h : AgreeBelow n m m') (h' : AgreeBelow n m' m'') :
  AgreeBelow n m m''
  := fun i hi => (h i hi).trans (h' i hi)

/-- Runs copied from sources that agree keep and extend the agreement. -/
theorem copy_of_agree {n : ℕ} {m m' src src' : Mem} (h : AgreeBelow n m m') {off k : ℕ}
    (hsrc : AgreeBelow k src src') (hoff : off ≤ n) :
  AgreeBelow (max n (off + k)) (m.copy off src k) (m'.copy off src' k)
  := by
  intro j hj
  simp only [Mem.copy]
  split
  · apply hsrc
    omega
  · apply h
    omega

/-- A run copied from the same source keeps the agreement, and extends it when it starts
inside the part already agreed on. -/
theorem copy {n : ℕ} {m m' : Mem} (h : AgreeBelow n m m') (off : ℕ) (src : Mem) (k : ℕ)
    (hoff : off ≤ n) :
  AgreeBelow (max n (off + k)) (m.copy off src k) (m'.copy off src k)
  := h.copy_of_agree (refl k src) hoff

theorem take_eq {n : ℕ} {m m' : Mem} (h : AgreeBelow n m m') :
  m.take n = m'.take n
  := by
  apply List.map_congr_left
  intro i hi
  apply h
  simpa using hi

theorem of_take_eq {n : ℕ} {m m' : Mem} (h : m.take n = m'.take n) :
  AgreeBelow n m m'
  := by
  intro i hi
  have hget := congrArg (fun l : List UInt8 => l.getD i 0) h
  simpa [Mem.take, hi] using hget

end AgreeBelow

theorem copy_congr {m src src' : Mem} {n : ℕ} (off : ℕ) (h : AgreeBelow n src src') :
  m.copy off src n = m.copy off src' n
  := by
  funext j
  simp only [copy]
  split
  · apply h
    omega
  · rfl

end Mem

namespace Block

variable {n : ℕ}

/-- The byte of a block at `i`, and `0` past its end. -/
def load (b : Block n) : Mem :=
  fun i => if h : i < n then b ⟨i, h⟩ else 0

/-- The block `b` with the byte at `i` replaced. -/
def put (b : Block n) (i : ℕ) (v : UInt8) : Block n :=
  fun j => if j.val = i then v else b j

/-- The block `b` with the bytes from `off` on replaced by the first `len` of `src`. -/
def copy (b : Block n) (off : ℕ) (src : Mem) (len : ℕ) : Block n :=
  fun j => if off ≤ j.val ∧ j.val < off + len then src (j.val - off) else b j

/-- The block of `n` zero bytes. -/
def zero (n : ℕ) : Block n := fun _ => 0

theorem load_of_lt {b : Block n} {i : ℕ} (h : i < n) :
  b.load i = b ⟨i, h⟩
  := by
  simp [load, h]

/-- Behind a block there is nothing. -/
theorem load_of_ge {b : Block n} {i : ℕ} (h : n ≤ i) :
  b.load i = 0
  := by
  simp [load, Nat.not_lt.mpr h]

theorem load_put {b : Block n} {i j : ℕ} {v : UInt8} (h : i < n) :
  (b.put i v).load j = if j = i then v else b.load j
  := by
  unfold load put
  by_cases hj : j < n
  · simp [hj]
  · have : j ≠ i := by omega
    simp [hj, this]

theorem load_put_eq (b : Block n) {i : ℕ} (h : i < n) (v : UInt8) :
  (b.put i v).load = b.load.put i v
  := by
  funext j
  exact load_put h

theorem put_put (b : Block n) (i : ℕ) (v w : UInt8) :
  (b.put i v).put i w = b.put i w
  := by
  funext j
  simp only [put]
  split
  · rfl
  · rfl

theorem put_comm (b : Block n) {i j : ℕ} (h : i ≠ j) (v w : UInt8) :
  (b.put i v).put j w = (b.put j w).put i v
  := by
  funext k
  simp only [put]
  by_cases hi : k.val = i
  · rw [if_neg (by omega), if_pos hi, if_pos hi]
  · rw [if_neg hi, if_neg hi]

theorem load_copy_inside {b : Block n} {off len i : ℕ} {src : Mem} (h : i < len)
    (hn : off + i < n) :
  (b.copy off src len).load (off + i) = src i
  := by
  simp [load, copy, h, hn]

theorem load_copy_outside {b : Block n} {off len j : ℕ} {src : Mem}
    (h : j < off ∨ off + len ≤ j) :
  (b.copy off src len).load j = b.load j
  := by
  unfold load copy
  split
  · rw [if_neg]
    dsimp only
    omega
  · rfl

/-- A block is determined by its bytes. -/
theorem ext_load {b b' : Block n} (h : ∀ i < n, b.load i = b'.load i) :
  b = b'
  := by
  funext j
  have := h j.val j.isLt
  rwa [load_of_lt j.isLt, load_of_lt j.isLt] at this

/-- Copying the bytes a block already has changes nothing. -/
theorem copy_eq_self {b : Block n} {off len : ℕ} {src : Mem}
    (h : ∀ i < len, off + i < n → src i = b.load (off + i)) :
  b.copy off src len = b
  := by
  funext j
  simp only [copy]
  split
  · rename_i hj
    have hlt : off + (j.val - off) < n := by omega
    rw [h (j.val - off) (by omega) hlt, load_of_lt hlt]
    congr 1
    apply Fin.ext
    dsimp only
    omega
  · rfl

theorem copy_congr {b : Block n} {off len : ℕ} {src src' : Mem}
    (h : Mem.AgreeBelow len src src') :
  b.copy off src len = b.copy off src' len
  := by
  funext j
  simp only [copy]
  split
  · apply h
    omega
  · rfl

end Block

/-! ### Bits of bytes -/

/-- Single bits of two bytes, shifted down, are the same if and only if the bits are. -/
theorem shift_and_one_eq_iff (x y : UInt8) {j k : ℕ} (hj : j ≤ 7) (hk : k ≤ 7) :
  x >>> UInt8.ofNat j &&& 1 = y >>> UInt8.ofNat k &&& 1 ↔ x.toNat.testBit j = y.toNat.testBit k
  := by
  have hbit : ∀ (x : UInt8) {j : ℕ}, j ≤ 7 →
      (x >>> UInt8.ofNat j &&& 1).toNat = x.toNat / 2 ^ j % 2 := by
    intro x j hj
    have hmod : j % 2 ^ 8 % 8 = j := by omega
    rw [UInt8.toNat_and, UInt8.toNat_shiftRight, UInt8.toNat_ofNat', hmod,
      Nat.shiftRight_eq_div_pow]
    exact Nat.and_one_is_mod _
  rw [← UInt8.toNat_inj, hbit x hj, hbit y hk, Nat.testBit_eq_decide_div_mod_eq,
    Nat.testBit_eq_decide_div_mod_eq, decide_eq_decide]
  omega

/-! ### Sums of bytes -/

/-- The sum modulo 256 of the first `n` bytes of a memory. -/
def byteSum (m : Mem) : ℕ → UInt8
  | 0 => 0
  | n + 1 => byteSum m n + m n

theorem byteSum_congr {m m' : Mem} {n : ℕ} (h : Mem.AgreeBelow n m m') :
  byteSum m n = byteSum m' n
  := by
  induction n with
  | zero => rfl
  | succ n ih =>
    simp only [byteSum]
    rw [ih (h.mono (Nat.le_succ n)), h n (Nat.lt_succ_self n)]

/-- Replacing one of the summed bytes changes the sum by the difference of the two. -/
theorem byteSum_put {m : Mem} {n i : ℕ} (h : i < n) (b : UInt8) :
  byteSum (m.put i b) n = byteSum m n - m i + b
  := by
  induction n with
  | zero => omega
  | succ n ih =>
    simp only [byteSum]
    by_cases hi : i = n
    · subst hi
      have hbelow : byteSum (m.put i b) i = byteSum m i := by
        apply byteSum_congr
        intro j hj
        apply Mem.put_of_ne
        omega
      rw [hbelow, Mem.put_same]
      grind
    · rw [ih (by omega), Mem.put_of_ne (by omega)]
      grind

/-- The byte that closes a frame: with it appended, the bytes sum to zero. -/
theorem byteSum_add_not_add_one (s : UInt8) :
  s + (~~~s + 1) = 0
  := by
  rw [← UInt8.neg_eq_not_add]
  grind

/-- A frame of `n` bytes closed with its checksum sums to zero. -/
theorem byteSum_close (m : Mem) (n : ℕ) :
  byteSum (m.put n (~~~(byteSum m n) + 1)) (n + 1) = 0
  := by
  have hbelow : byteSum (m.put n (~~~(byteSum m n) + 1)) n = byteSum m n := by
    apply byteSum_congr
    intro i hi
    apply Mem.put_of_ne
    omega
  rw [byteSum, hbelow, Mem.put_same]
  exact byteSum_add_not_add_one _

/-- The complement test of a checksum is the test that the sum with it is zero. -/
theorem not_add_one_eq_iff (s b : UInt8) :
  ~~~s + 1 = b ↔ s + b = 0
  := by
  rw [← UInt8.neg_eq_not_add]
  constructor
  · intro h
    rw [← h]
    grind
  · intro h
    grind

/-- The sum of the first bytes of a memory. -/
theorem byteSum_eq_sum (m : Mem) (n : ℕ) :
  byteSum m n = (m.take n).sum
  := by
  induction n with
  | zero => rfl
  | succ n ih =>
    rw [Mem.take_add, List.sum_append, ← ih, byteSum]
    exact congrArg (byteSum m n + ·) List.sum_singleton.symm

/-- The sum of the bytes of a list in memory. -/
theorem byteSum_ofList (l : List UInt8) (rest : Mem) :
  byteSum (Mem.ofList l rest) l.length = l.sum
  := by
  rw [byteSum_eq_sum, Mem.take_ofList]

/-- A frame that ends with its checksum sums to zero. -/
theorem sum_closed (l : List UInt8) :
  (l ++ [~~~ l.sum + 1]).sum = 0
  := by
  rw [List.sum_append, List.sum_singleton]
  exact byteSum_add_not_add_one l.sum

end Memory
