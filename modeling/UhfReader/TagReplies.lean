import UhfReader.Handlers.Frames
import Mathlib.Data.Nat.Find

/-!
# The records of `0x57`

`GetTagRecord` puts the records of saved tags into `cmdTmpBuf`, one behind the other, and counts
their bytes in the eight bits of `cmdTmpLen`.  `Globals.recordPlace` tells from the saved rows
where each record stands and `Globals.recordRounds` how many there are; `tagRecord_cmdTmpLen_eq`
states that the code ends at that place.

When the count has wrapped around, a header can start before `cmdTmpBuf`, and its first bytes go
over the last 16 bytes of `g_device`.  `tagRecord_gDevice_iff` states when nothing of `g_device`
changes.
-/

open Memory

namespace UhfReader

namespace Globals

variable (g : Globals)

/-! ### Places of the records -/

/-- The length byte of the tag that the round `i` copies, in words. -/
def recordLen (i : ℕ) : UInt8 := g.cardMem (g.cmd57ReadTagCount + UInt8.ofNat i).toNat 0

/-- The place in `cmdTmpBuf` of the tag that the round `i` copies, behind its header of 16
bytes. -/
def recordPlace : ℕ → UInt8
  | 0 => 17
  | i + 1 => recordPlace i + (17 + 2 * g.recordLen i)

/-- The header of the records. -/
def recordsHeader : List UInt8 := recordHeader g.readClock.gDevice

/-- The bound that the second loop of `GetTagRecord` finds in `cmdTmpBuf[0]` after `i` rounds: the
number of tags left, until a record comes over it. -/
def recordBound : ℕ → UInt8
  | 0 => UInt8.ofNat (g.tagSaveCount % 256 - g.cmd57ReadTagCount.toNat)
  | i + 1 =>
    if g.recordPlace i = 0 then g.recordLen i
    else if (g.recordPlace i).toNat ≤ 16 then
      g.recordsHeader.getD (16 - (g.recordPlace i).toNat) 0
    else recordBound i

/-- The bound is a byte, so it is reached. -/
theorem recordBound_reached :
  ∃ n, (g.recordBound n).toNat ≤ n
  := ⟨255, Nat.le_of_lt_succ (UInt8.toNat_lt _)⟩

/-- The number of rounds of `GetTagRecord`. -/
def recordRounds : ℕ :=
  if g.tagSaveCount % 256 > g.cmd57ReadTagCount.toNat + 7 then 8
  else if g.tagSaveCount % 256 > g.cmd57ReadTagCount.toNat then Nat.find g.recordBound_reached
  else 0

/-- Of the headers of `n` records, the one of the round `i` is the last over the byte `x` of the 16
before `cmdTmpBuf`. -/
structure LastOver (n x i : ℕ) : Prop where
  round : i < n
  reaches : (g.recordPlace i).toNat ≤ x
  last : ∀ k, i < k → k < n → x < (g.recordPlace k).toNat

variable {g}

theorem LastOver.unique {n x i j : ℕ} (hi : g.LastOver n x i) (hj : g.LastOver n x j) :
  i = j
  := by
  obtain hlt | heq | hgt := Nat.lt_trichotomy i j
  · exact absurd (hi.last j hlt hj.round) (Nat.not_lt.mpr hj.reaches)
  · exact heq
  · exact absurd (hj.last i hgt hi.round) (Nat.not_lt.mpr hi.reaches)

end Globals

/-! ### One round -/

theorem recordRound_gDevice (g : Globals) :
  (recordRound g).gDevice
    = g.gDevice.copy (194 + g.cmdTmpLen.toNat) (fun k => (recordHeader g.gDevice).getD k 0)
        (16 - g.cmdTmpLen.toNat)
  := rfl

theorem recordRound_load_below (g : Globals) {i : ℕ} (hi : i < 194) :
  (recordRound g).gDevice.load i = g.gDevice.load i
  := by
  rw [recordRound_gDevice]
  apply Block.load_copy_outside
  omega

/-- A round stores to a byte before `cmdTmpBuf` that its header lies over. -/
theorem recordRound_load_above (g : Globals) {x : ℕ} (hx : x < 16) :
  (recordRound g).gDevice.load (194 + x)
    = if g.cmdTmpLen.toNat ≤ x then (recordHeader g.gDevice).getD (x - g.cmdTmpLen.toNat) 0
      else g.gDevice.load (194 + x)
  := by
  rw [recordRound_gDevice]
  split
  · rename_i hover
    obtain ⟨d, rfl⟩ := Nat.exists_eq_add_of_le hover
    rw [← Nat.add_assoc, Nat.add_sub_cancel_left, Block.load_copy_inside]
    · omega
    · omega
  · apply Block.load_copy_outside
    omega

/-- The header is not made of the bytes that a header can come over. -/
theorem recordHeader_congr {d d' : SDevice} (h : ∀ i < 194, d.load i = d'.load i) :
  recordHeader d = recordHeader d'
  := by
  have htime : (List.range 6).map (fun k => d.load (Offset.readerTime + k))
      = (List.range 6).map (fun k => d'.load (Offset.readerTime + k)) := by
    apply List.map_congr_left
    intro k hk
    have := List.mem_range.mp hk
    apply h
    simp only [Offset.readerTime]
    omega
  rw [recordHeader, recordHeader, htime, h _ (by decide), h _ (by decide)]

/-- A round leaves the bound at the start of `cmdTmpBuf` alone, unless its record comes over it. -/
theorem recordRound_bound (g : Globals) :
  (recordRound g).cmdTmpBuf.load 0
    = if g.cmdTmpLen = 0 then g.cardMem g.cmd57ReadTagCount.toNat 0
      else if g.cmdTmpLen.toNat ≤ 16 then
        (recordHeader g.gDevice).getD (16 - g.cmdTmpLen.toNat) 0
      else g.cmdTmpBuf.load 0
  := by
  by_cases hzero : g.cmdTmpLen = 0
  · rw [if_pos hzero, recordRound, hzero]
    exact Block.load_copy_inside (i := 0) (by omega) (by decide)
  · have hpos : 0 < g.cmdTmpLen.toNat := by
      apply Nat.pos_of_ne_zero
      intro h
      exact hzero (UInt8.toNat_inj.mp h)
    rw [if_neg hzero]
    refine (Block.load_copy_outside (.inl hpos)).trans ?_
    rw [Block.load_of_lt (by decide), Block.load_of_lt (by decide)]
    dsimp only
    rw [Nat.zero_add]
    split
    · rename_i hover
      rw [if_pos hover.1]
    · rename_i hover
      rw [if_neg (fun h => hover ⟨h, hpos⟩)]

/-! ### The rounds -/

/-- What is known of the globals after `n` rounds of `GetTagRecord` for the globals `g`. -/
structure RecordsWritten (g : Globals) (n : ℕ) (s : Globals) : Prop where
  place : s.cmdTmpLen = g.recordPlace n
  count : s.cmd57ReadTagCount = g.cmd57ReadTagCount + UInt8.ofNat n
  rows : s.cardIndex = g.cardIndex
  below : ∀ i < 194, s.gDevice.load i = g.readClock.gDevice.load i
  above : ∀ x < 16,
    (∃ i, g.LastOver n x i ∧ s.gDevice.load (194 + x)
        = g.recordsHeader.getD (x - (g.recordPlace i).toNat) 0)
      ∨ ((∀ i < n, x < (g.recordPlace i).toNat)
        ∧ s.gDevice.load (194 + x) = g.gDevice.load (194 + x))

namespace RecordsWritten

variable {g s : Globals} {n : ℕ}

theorem header (h : RecordsWritten g n s) :
  recordHeader s.gDevice = g.recordsHeader
  := recordHeader_congr h.below

theorem len (h : RecordsWritten g n s) :
  s.cardMem s.cmd57ReadTagCount.toNat 0 = g.recordLen n
  := by
  rw [Globals.recordLen, Globals.cardMem, Globals.cardMem, h.rows, h.count]

/-- Before the first round. -/
theorem start (hplace : s.cmdTmpLen = 17) (hcount : s.cmd57ReadTagCount = g.cmd57ReadTagCount)
    (hrows : s.cardIndex = g.cardIndex) (hdevice : s.gDevice = g.readClock.gDevice) :
  RecordsWritten g 0 s
  := by
  refine ⟨hplace, ?_, hrows, ?_, ?_⟩
  · rw [hcount]
    exact (UInt8.add_zero _).symm
  · intro i _
    rw [hdevice]
  · intro x _
    right
    refine ⟨fun i hi => absurd hi (Nat.not_lt_zero i), ?_⟩
    rw [hdevice]
    apply readClock_untouched
    simp only [Offset.readerTime]
    omega

/-- One round more. -/
theorem round (h : RecordsWritten g n s) :
  RecordsWritten g (n + 1) (recordRound s)
  := by
  refine ⟨?_, ?_, h.rows, ?_, ?_⟩
  · have hround : (recordRound s).cmdTmpLen
        = s.cmdTmpLen + (17 + 2 * s.cardMem s.cmd57ReadTagCount.toNat 0) := by
      apply UInt8.toNat_inj.mp
      show (UInt8.ofNat (17 + (s.cmdTmpLen.toNat + _) - 1)).toNat = _
      rw [UInt8.toNat_add, UInt8.toNat_add, UInt8.toNat_mul, UInt8.toNat_ofNat']
      simp only [UInt8.reduceToNat]
      omega
    rw [hround, h.place, h.len]
    rfl
  · show s.cmd57ReadTagCount + 1 = _
    rw [h.count, UInt8.add_assoc]
    congr 1
    exact (UInt8.ofNat_add n 1).symm
  · intro i hi
    rw [recordRound_load_below s hi, h.below i hi]
  · intro x hx
    rw [recordRound_load_above s hx, h.place, h.header]
    split
    · rename_i hover
      refine .inl ⟨n, ⟨Nat.lt_succ_self n, hover, ?_⟩, rfl⟩
      intro k hlt hle
      omega
    · rename_i hover
      obtain ⟨i, hlast, hload⟩ | ⟨hnone, hload⟩ := h.above x hx
      · refine .inl ⟨i, ⟨Nat.lt_succ_of_lt hlast.round, hlast.reaches, ?_⟩, hload⟩
        intro k hlt hle
        obtain hk | rfl := Nat.lt_succ_iff_lt_or_eq.mp hle
        · exact hlast.last k hlt hk
        · exact Nat.lt_of_not_le hover
      · refine .inr ⟨?_, hload⟩
        intro k hle
        obtain hk | rfl := Nat.lt_succ_iff_lt_or_eq.mp hle
        · exact hnone k hk
        · exact Nat.lt_of_not_le hover

theorem iterate (h : RecordsWritten g n s) (k : ℕ) :
  RecordsWritten g (n + k) (recordRound^[k] s)
  := by
  induction k with
  | zero => exact h
  | succ k ih =>
    rw [Function.iterate_succ_apply']
    exact ih.round

/-- The bound after one round more. -/
theorem bound (h : RecordsWritten g n s) (hbound : s.cmdTmpBuf.load 0 = g.recordBound n) :
  (recordRound s).cmdTmpBuf.load 0 = g.recordBound (n + 1)
  := by
  rw [recordRound_bound, h.place, h.len, h.header, hbound]
  rfl

/-- The second loop ends when the bound is reached. -/
theorem loop (fuel : ℕ) (h : RecordsWritten g n s) (hbound : s.cmdTmpBuf.load 0 = g.recordBound n)
    (hle : n ≤ Nat.find g.recordBound_reached) (hfuel : Nat.find g.recordBound_reached ≤ n + fuel) :
  RecordsWritten g (Nat.find g.recordBound_reached) (recordLoop fuel n s)
  := by
  induction fuel generalizing n s with
  | zero =>
    obtain rfl : n = Nat.find g.recordBound_reached := Nat.le_antisymm hle hfuel
    exact h
  | succ fuel ih =>
    unfold recordLoop
    rw [hbound]
    split
    · rename_i hlt
      have hne : n ≠ Nat.find g.recordBound_reached := by
        rintro heq
        have := Nat.find_spec g.recordBound_reached
        rw [← heq] at this
        omega
      apply ih h.round (h.bound hbound)
      · omega
      · omega
    · rename_i hnot
      obtain rfl : n = Nat.find g.recordBound_reached := by
        apply Nat.le_antisymm hle
        exact Nat.find_min' _ (Nat.not_lt.mp hnot)
      exact h

end RecordsWritten

/-- The globals that `GetTagRecord` leaves are those after the rounds, but for the number of the
next tag. -/
theorem tagRecord_recorded (g : Globals) :
  ∃ s, RecordsWritten g g.recordRounds s ∧ (tagRecord g).cmdTmpLen = s.cmdTmpLen
    ∧ (tagRecord g).gDevice = s.gDevice
  := by
  unfold tagRecord Globals.recordRounds
  dsimp only
  have hclock : g.readClock.tagSaveCount = g.tagSaveCount := rfl
  have hdone : g.readClock.cmd57ReadTagCount = g.cmd57ReadTagCount := rfl
  rw [hclock, hdone]
  split
  · refine ⟨_, (RecordsWritten.start ?_ ?_ ?_ ?_).iterate 8, rfl, rfl⟩
    · rfl
    · rfl
    · rfl
    · rfl
  · split
    · refine ⟨_, (RecordsWritten.start ?_ ?_ ?_ ?_).loop 256 ?_ (Nat.zero_le _) ?_, rfl, rfl⟩
      · rfl
      · rfl
      · rfl
      · rfl
      · exact (Block.load_put (by decide)).trans (if_pos rfl)
      · rw [Nat.zero_add]
        apply Nat.le_succ_of_le
        exact Nat.find_min' _ (Nat.le_of_lt_succ (UInt8.toNat_lt _))
    · exact ⟨{ g.readClock with cmdTmpLen := 17 }, RecordsWritten.start rfl rfl rfl rfl, rfl, rfl⟩

/-- `cmdTmpLen` is the place behind the last record. -/
theorem tagRecord_cmdTmpLen_eq (g : Globals) :
  (tagRecord g).cmdTmpLen = g.recordPlace g.recordRounds
  := by
  obtain ⟨s, hs, hlen, -⟩ := tagRecord_recorded g
  rw [hlen, hs.place]

/-- `0x57` leaves `g_device` as it was if and only if the clock still shows `ReaderTime`, and no
header that comes over the last bytes of `g_device` changes them. -/
theorem tagRecord_gDevice_iff (g : Globals) :
  (tagRecord g).gDevice = g.gDevice
    ↔ g.readClock.gDevice = g.gDevice
      ∧ ∀ x < 16, ∀ i, g.LastOver g.recordRounds x i →
        g.recordsHeader.getD (x - (g.recordPlace i).toNat) 0 = g.gDevice.load (194 + x)
  := by
  obtain ⟨s, hs, -, hdevice⟩ := tagRecord_recorded g
  rw [hdevice]
  constructor
  · intro hsame
    constructor
    · apply Block.ext_load
      intro i _
      by_cases hi : i < 194
      · rw [← hs.below i hi, hsame]
      · apply readClock_untouched
        simp only [Offset.readerTime]
        omega
    · intro x hx i hi
      obtain ⟨j, hj, hload⟩ | ⟨hnone, -⟩ := hs.above x hx
      · rw [hi.unique hj, ← hload, hsame]
      · exact absurd (hnone i hi.round) (Nat.not_lt.mpr hi.reaches)
  · rintro ⟨hclock, hlast⟩
    apply Block.ext_load
    intro i hi
    by_cases hbelow : i < 194
    · rw [hs.below i hbelow, hclock]
    · obtain ⟨x, rfl⟩ := Nat.exists_eq_add_of_le (Nat.not_lt.mp hbelow)
      obtain ⟨j, hj, hload⟩ | ⟨-, hload⟩ := hs.above x (by omega)
      · rw [hload, hlast x (by omega) j hj]
      · exact hload

end UhfReader
