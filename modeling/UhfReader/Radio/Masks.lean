import UhfReader.Lib.Reading
import UhfReader.Radio

/-!
# The mask of a tag

`MaskCheck` compares a tag with a mask bit by bit, with a byte and a bit counter on either side.
`maskCheckReads` is the same loop as a computation that reads the two buffers, so that it also
tells which bytes are looked at.
-/

open Memory Reading

namespace UhfReader

/-- A byte that `MaskCheck` reads. -/
inductive MaskByte where
  /-- `buf[pos]` -/
  | tag (pos : ℕ)
  /-- `CMDMaskData[tpos]` -/
  | mask (tpos : ℕ)
  deriving DecidableEq, Repr

/-- The contents of the two buffers. -/
def maskBytes (tag mask : Mem) : MaskByte → UInt8
  | .tag pos => tag pos
  | .mask tpos => mask tpos

/-- The loop of `MaskCheck` for the mask address `addr`, with `n` rounds to go. -/
def maskLoopReads (addr : ℕ) : ℕ → ℕ → ℕ → ℕ → ℕ → ℕ → Query MaskByte UInt8 Bool
  | 0, _, _, _, _, _ => return true
  | n + 1, i, j, pos, tj, tpos =>
    let (j', pos') := if j + 1 > 7 then (0, pos + 1) else (j + 1, pos)
    if i ≥ addr then do
      let a ← Query.cell (.tag pos)
      let b ← Query.cell (.mask tpos)
      if a >>> UInt8.ofNat (7 - j) &&& 1 ≠ b >>> UInt8.ofNat (7 - tj) &&& 1 then return false
      else
        let (tj', tpos') := if tj + 1 > 7 then (0, tpos + 1) else (tj + 1, tpos)
        maskLoopReads addr n (i + 1) j' pos' tj' tpos'
    else maskLoopReads addr n (i + 1) j' pos' tj tpos

/-- `MaskCheck`, for a tag of `len` bytes and a mask of `masklen` bits at bit `addr`. -/
def maskCheckReads (addr : ℕ) (masklen : UInt8) (len : ℕ) : Query MaskByte UInt8 Bool :=
  if masklen = 0 then return true
  else
    let totallen := addr + masklen.toNat
    let totallen := if totallen > len * 8 then len * 8 else totallen
    if len * 8 ≤ addr then return false
    else maskLoopReads addr totallen 0 0 0 0 0

/-! ### The bits that are compared -/

/-- A tag of `n` bytes passes the mask of `len` bits at bit `addr`: it reaches up to the address,
and its bits from there on are those of the mask, as far as there are any. -/
def Passes6C (addr len : ℕ) (mask tag : Mem) (n : ℕ) : Prop :=
  len = 0 ∨ (addr < 8 * n ∧ ∀ i, addr ≤ i → i < min (addr + len) (8 * n) →
    tag.bit i = mask.bit (i - addr))

/-- The next bit of a byte, or the first one of the next byte. -/
theorem next_bit {i j pos j' pos' : ℕ} (hi : i = 8 * pos + j) (hj : j ≤ 7)
    (h : (if j + 1 > 7 then (0, pos + 1) else (j + 1, pos)) = (j', pos')) :
  i + 1 = 8 * pos' + j' ∧ j' ≤ 7
  := by
  split at h
  · obtain ⟨rfl, rfl⟩ := Prod.mk.inj h
    omega
  · obtain ⟨rfl, rfl⟩ := Prod.mk.inj h
    omega

/-- The bit `j` of byte `pos`. -/
theorem Mem.bit_eq (m : Mem) {i j pos : ℕ} (hi : i = 8 * pos + j) (hj : j ≤ 7) :
  m.bit i = (m pos).toNat.testBit (7 - j)
  := by
  have hdiv : i / 8 = pos := by omega
  have hmod : i % 8 = j := by omega
  rw [Mem.bit, hdiv, hmod]

/-- The byte holds a bit of the tag before bit `stop`, or one of the mask for such a bit. -/
def MaskByte.Before (addr stop : ℕ) : MaskByte → Prop
  | .tag pos => 8 * pos < stop
  | .mask tpos => addr + 8 * tpos < stop

section Loop

variable {addr : ℕ} {tag mask : Mem}

/-- The loop of `MaskCheck` compares the bits from the mask address on, and reads only bytes that
hold some of them.  The bit `i` of the tag is bit `j` of byte `pos`, and the bit of the mask that
belongs to it is bit `tj` of byte `tpos`. -/
theorem maskLoopReads_spec (n : ℕ) {i j pos tj tpos : ℕ} (htag : i = 8 * pos + j) (hj : j ≤ 7)
    (hmask : i - addr = 8 * tpos + tj) (htj : tj ≤ 7) :
  ((maskLoopReads addr n i j pos tj tpos).run (maskBytes tag mask) = true
      ↔ ∀ k, i ≤ k → k < i + n → addr ≤ k → tag.bit k = mask.bit (k - addr))
    ∧ ∀ c ∈ (maskLoopReads addr n i j pos tj tpos).places (maskBytes tag mask),
      c.Before addr (i + n)
  := by
  induction n generalizing i j pos tj tpos with
  | zero =>
    refine ⟨iff_of_true rfl ?_, ?_⟩
    · intro k hk hlt
      omega
    · intro c hc
      cases hc
  | succ n ih =>
    have hsplit : (∀ k, i ≤ k → k < i + (n + 1) → addr ≤ k → tag.bit k = mask.bit (k - addr))
        ↔ (addr ≤ i → tag.bit i = mask.bit (i - addr))
          ∧ ∀ k, i + 1 ≤ k → k < i + 1 + n → addr ≤ k → tag.bit k = mask.bit (k - addr) := by
      constructor
      · intro h
        exact ⟨h i (Nat.le_refl i) (by omega), fun k hk hlt => h k (by omega) (by omega)⟩
      · rintro ⟨hfirst, hrest⟩ k hk hlt
        obtain rfl | hk := Nat.eq_or_lt_of_le hk
        · exact hfirst
        · exact hrest k hk (by omega)
    have hstop : i + (n + 1) = i + 1 + n := by omega
    rw [hsplit, hstop]
    unfold maskLoopReads
    generalize hnext : (if j + 1 > 7 then (0, pos + 1) else (j + 1, pos)) = next
    obtain ⟨j', pos'⟩ := next
    obtain ⟨hi', hj'⟩ := next_bit htag hj hnext
    dsimp only
    by_cases haddr : i ≥ addr
    · rw [if_pos haddr]
      rw [Query.run_bind, Query.run_bind, Query.places_bind, Query.places_bind,
        ← List.append_assoc, Query.places_cell, Query.places_cell]
      have hbit : tag.bit i = mask.bit (i - addr)
          ↔ (Query.cell (.tag pos)).run (maskBytes tag mask) >>> UInt8.ofNat (7 - j) &&& 1
            = (Query.cell (.mask tpos)).run (maskBytes tag mask) >>> UInt8.ofNat (7 - tj) &&& 1 := by
        rw [Mem.bit_eq tag htag hj, Mem.bit_eq mask hmask htj]
        exact (shift_and_one_eq_iff _ _ (Nat.sub_le 7 j) (Nat.sub_le 7 tj)).symm
      have hhere : ∀ c ∈ [MaskByte.tag pos] ++ [MaskByte.mask tpos],
          c.Before addr (i + 1 + n) := by
        simp only [List.cons_append, List.nil_append, List.mem_cons, List.not_mem_nil, or_false]
        rintro c (rfl | rfl)
        · simp only [MaskByte.Before]
          omega
        · simp only [MaskByte.Before]
          omega
      by_cases hsame : tag.bit i = mask.bit (i - addr)
      · rw [if_neg (not_not.mpr (hbit.mp hsame))]
        generalize hnext : (if tj + 1 > 7 then (0, tpos + 1) else (tj + 1, tpos)) = next
        obtain ⟨tj', tpos'⟩ := next
        obtain ⟨ht', htj'⟩ := next_bit hmask htj hnext
        obtain ⟨hrun, hplaces⟩ := ih hi' hj' (show i + 1 - addr = 8 * tpos' + tj' by omega) htj'
        refine ⟨?_, ?_⟩
        · rw [hrun]
          exact (and_iff_right fun _ => hsame).symm
        · intro c hc
          rw [List.mem_append] at hc
          obtain hc | hc := hc
          · exact hhere c hc
          · exact hplaces c hc
      · rw [if_pos (hbit.not.mp hsame)]
        refine ⟨?_, ?_⟩
        · exact iff_of_false Bool.false_ne_true fun h => hsame (h.1 haddr)
        · rwa [Query.places_pure, List.append_nil]
    · rw [if_neg haddr]
      obtain ⟨hrun, hplaces⟩ := ih hi' hj' (show i + 1 - addr = 8 * tpos + tj by omega) htj
      refine ⟨?_, hplaces⟩
      rw [hrun]
      exact (and_iff_right fun hle => absurd hle haddr).symm

end Loop

/-- The loop of `MaskCheck` is the one that reads the mask in `CMDMaskData`. -/
theorem maskCheckLoop_eq (g : Globals) (buf : Mem) (n : ℕ) :
  ∀ i j pos tj tpos, maskCheckLoop g buf n i j pos tj tpos
    = (maskLoopReads g.cmdMaskaddr n i j pos tj tpos).run (maskBytes buf g.cmdMaskData.load)
  := by
  induction n with
  | zero =>
    intro i j pos tj tpos
    rfl
  | succ n ih =>
    intro i j pos tj tpos
    unfold maskCheckLoop maskLoopReads
    dsimp only
    by_cases haddr : i ≥ g.cmdMaskaddr
    · rw [if_pos haddr, if_pos haddr, Query.run_bind, Query.run_bind, apply_ite (Query.run _)]
      simp only [ih]
      rfl
    · rw [if_neg haddr, if_neg haddr]
      exact ih _ _ _ _ _

/-- `MaskCheck` reads the tag and the mask in `CMDMaskData`. -/
theorem maskCheck_eq (g : Globals) (buf : Mem) (len : ℕ) :
  maskCheck g buf len
    = (maskCheckReads g.cmdMaskaddr g.cmdMasklen len).run (maskBytes buf g.cmdMaskData.load)
  := by
  unfold maskCheck maskCheckReads
  dsimp only
  split
  · rfl
  · split
    · rfl
    · exact maskCheckLoop_eq g buf _ 0 0 0 0 0

/-- `MaskCheck` accepts the tags that pass the mask, and reads no byte behind the tag or behind the
last byte with bits of the mask. -/
theorem maskCheckReads_spec (addr : ℕ) (masklen : UInt8) (tag mask : Mem) (len : ℕ) :
  ((maskCheckReads addr masklen len).run (maskBytes tag mask) = true
      ↔ Passes6C addr masklen.toNat mask tag len)
    ∧ ∀ c ∈ (maskCheckReads addr masklen len).places (maskBytes tag mask),
      c.Before addr (min (addr + masklen.toNat) (8 * len))
  := by
  have hzero : masklen = 0 ↔ masklen.toNat = 0 := by
    rw [← UInt8.toNat_inj]
    rfl
  unfold maskCheckReads Passes6C
  by_cases hnone : masklen = 0
  · rw [if_pos hnone]
    exact ⟨iff_of_true rfl (.inl (hzero.mp hnone)), fun c hc => by cases hc⟩
  · rw [if_neg hnone, or_iff_right (hzero.not.mp hnone)]
    dsimp only
    by_cases hshort : len * 8 ≤ addr
    · rw [if_pos hshort]
      exact ⟨iff_of_false Bool.false_ne_true fun h => absurd h.1 (by omega),
        fun c hc => by cases hc⟩
    · have hmin : (if addr + masklen.toNat > len * 8 then len * 8 else addr + masklen.toNat)
          = min (addr + masklen.toNat) (8 * len) := by
        split
        · omega
        · omega
      rw [if_neg hshort, hmin]
      obtain ⟨hrun, hplaces⟩ := @maskLoopReads_spec addr tag mask
        (min (addr + masklen.toNat) (8 * len)) 0 0 0 0 0 rfl (Nat.zero_le 7)
        (Nat.zero_sub addr) (Nat.zero_le 7)
      rw [Nat.zero_add] at hrun hplaces
      refine ⟨?_, hplaces⟩
      rw [hrun, and_iff_right (show addr < 8 * len by omega)]
      constructor
      · intro h i haddr hi
        exact h i (Nat.zero_le i) hi haddr
      · intro h i _ hi haddr
        exact h i haddr hi

/-- `MaskCheck` accepts the tags that pass the mask. -/
theorem maskCheck_iff (g : Globals) (buf : Mem) (n : ℕ) :
  maskCheck g buf n = true
    ↔ Passes6C g.cmdMaskaddr g.cmdMasklen.toNat g.cmdMaskData.load buf n
  := by
  rw [maskCheck_eq]
  exact (maskCheckReads_spec _ _ _ _ _).1

/-- The bits behind the mask address, counted from it. -/
theorem passes6C_iff (addr len : ℕ) (mask tag : Mem) (n : ℕ) :
  Passes6C addr len mask tag n
    ↔ len = 0 ∨ (addr < 8 * n ∧ ∀ k < min len (8 * n - addr), tag.bit (addr + k) = mask.bit k)
  := by
  apply or_congr Iff.rfl
  apply and_congr Iff.rfl
  constructor
  · intro h k hk
    have hbit := h (addr + k) (Nat.le_add_right addr k) (by omega)
    rwa [Nat.add_sub_cancel_left] at hbit
  · intro h i hle hlt
    have hbit := h (i - addr) (by omega)
    rwa [Nat.add_sub_cancel' hle] at hbit

/-- `MaskCheck` compares the bits of the mask with those of the tag from the mask address on, as
far as the tag reaches, and reads no more than the bytes of the tag and those that hold the bits of
the mask.  It does so for whatever mask it finds in memory. -/
theorem maskCheck_prefix (g : Globals) (tag mask : Mem) (len : ℕ) :
  let reads := maskCheckReads g.cmdMaskaddr g.cmdMasklen len
  maskCheck g tag len = reads.run (maskBytes tag g.cmdMaskData.load)
    ∧ (reads.run (maskBytes tag mask) = true
      ↔ g.cmdMasklen = 0 ∨ (g.cmdMaskaddr < 8 * len
        ∧ ∀ k < min g.cmdMasklen.toNat (8 * len - g.cmdMaskaddr),
          tag.bit (g.cmdMaskaddr + k) = mask.bit k))
    ∧ (∀ pos, .tag pos ∈ reads.places (maskBytes tag mask) → pos < len)
    ∧ ∀ tpos, .mask tpos ∈ reads.places (maskBytes tag mask)
      → tpos < (g.cmdMasklen.toNat + 7) / 8
  := by
  intro reads
  obtain ⟨hrun, hplaces⟩ := maskCheckReads_spec g.cmdMaskaddr g.cmdMasklen tag mask len
  have hzero : g.cmdMasklen = 0 ↔ g.cmdMasklen.toNat = 0 := by
    rw [← UInt8.toNat_inj]
    rfl
  refine ⟨maskCheck_eq g tag len, ?_, ?_, ?_⟩
  · rw [hrun, passes6C_iff, hzero]
  · intro pos hpos
    have hbefore := hplaces _ hpos
    simp only [MaskByte.Before] at hbefore
    omega
  · intro tpos hpos
    have hbefore := hplaces _ hpos
    simp only [MaskByte.Before] at hbefore
    omega

end UhfReader
