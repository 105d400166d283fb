import UhfReader.Flash

/-!
# Losing power while the parameters are saved

`SaveData` erases the sector of the parameters and programs it from its first half-word on.
The first two half-words are `Flag`, which tells `ReadPara` that a record is stored.  So once
`Flag` is programmed, and until the last half-word of the record is, the flash holds a record
that counts as stored and is not: its unprogrammed half-words are `0xFFFF`.
-/

open Memory

namespace UhfReader

/-! ### Records -/

namespace SDevice

/-- `Flag` is the first two half-words. -/
theorem flagged_iff (d : SDevice) :
  d.Flagged ↔ d.halfWord 0 = 0x5a22 ∧ d.halfWord 1 = 0x5a5a
  := by
  have hflag : d.Flagged
      ↔ d.load 0 = 0x22 ∧ d.load 1 = 0x5a ∧ d.load 2 = 0x5a ∧ d.load 3 = 0x5a := by
    unfold Flagged
    constructor
    · intro h
      exact ⟨h 0 (by decide), h 1 (by decide), h 2 (by decide), h 3 (by decide)⟩
    · rintro ⟨h0, h1, h2, h3⟩ i hi
      obtain rfl | rfl | rfl | rfl : i = 0 ∨ i = 1 ∨ i = 2 ∨ i = 3 := by omega
      · exact h0
      · exact h1
      · exact h2
      · exact h3
  have hword : defaultPara.setWorkFlag.halfWord 0 = 0x5a22
      ∧ defaultPara.setWorkFlag.halfWord 1 = 0x5a5a := by decide
  rw [hflag, ← hword.1, ← hword.2, halfWord_eq_iff, halfWord_eq_iff]
  constructor
  · rintro ⟨h0, h1, h2, h3⟩
    exact ⟨⟨h0, h1⟩, h2, h3⟩
  · rintro ⟨⟨h0, h1⟩, h2, h3⟩
    exact ⟨h0, h1, h2, h3⟩

theorem flagged_setWorkFlag (d : SDevice) :
  d.setWorkFlag.Flagged
  := by
  intro i hi
  have : Offset.flag + i < 210 := by
    simp only [Offset.flag]
    omega
  exact Block.load_copy_inside hi this

/-- The version bytes are half-word 3, and `setVersion` overwrites just these. -/
theorem setVersion_eq_iff {d d' : SDevice} :
  d.setVersion = d'.setVersion
    ↔ ∀ j < deviceHalfWords, j ≠ 3 → d.halfWord j = d'.halfWord j
  := by
  have houtside : ∀ (d : SDevice) (i : ℕ), i < 6 ∨ 8 ≤ i → d.setVersion.load i = d.load i := by
    intro d i hi
    exact Block.load_copy_outside hi
  constructor
  · intro h j _ hj3
    rw [halfWord_eq_iff, ← houtside d _ (by omega), ← houtside d' _ (by omega),
      ← houtside d (2 * j + 1) (by omega), ← houtside d' (2 * j + 1) (by omega), h]
    exact ⟨rfl, rfl⟩
  · intro h
    apply ext_halfWord
    intro j hj
    rw [halfWord_eq_iff]
    by_cases hj3 : j = 3
    · subst hj3
      have hinside : ∀ (d : SDevice) (k : ℕ), k < 2 →
          d.setVersion.load (6 + k) = version.getD (2 + k) 0 := by
        intro d k hk
        have : Offset.getReaderVersion + 2 + k < 210 := by
          simp only [Offset.getReaderVersion]
          omega
        exact Block.load_copy_inside hk this
      exact ⟨(hinside d 0 (by decide)).trans (hinside d' 0 (by decide)).symm,
        (hinside d 1 (by decide)).trans (hinside d' 1 (by decide)).symm⟩
    · have hword := halfWord_eq_iff.mp (h j hj hj3)
      rw [houtside d _ (by omega), houtside d' _ (by omega), houtside d (2 * j + 1) (by omega),
        houtside d' (2 * j + 1) (by omega)]
      exact hword

end SDevice

/-! ### Starting again -/

/-- A record that counts as stored is taken over. -/
theorem readPara_of_flagged {f : Flash} (h : (stmflashReadDevice f).Flagged) :
  (readPara f).1 = (stmflashReadDevice f).setVersion
  := by
  unfold readPara
  dsimp only
  rw [if_pos h]

/-- Without a stored record the factory settings are stored and taken. -/
theorem readPara_of_not_flagged {f : Flash} (h : ¬ (stmflashReadDevice f).Flagged) :
  (readPara f).1 = defaultPara.setWorkFlag.setVersion
  := by
  have hflag : defaultPara.setWorkFlag.copy Offset.flag
      (stmflashReadDevice (saveDataTo f defaultPara).2).load 4 = defaultPara.setWorkFlag := by
    apply Block.copy_eq_self
    intro i _ _
    rw [saveDataTo, stmflashReadDevice_saveDataOps]
    simp only [Offset.flag, Nat.zero_add]
  unfold readPara
  dsimp only
  rw [if_neg h]
  exact congrArg SDevice.setVersion hflag

/-! ### Losing power -/

/-- The flash after the first `k` operations of `SaveData`. -/
def powerLost (f : Flash) (d : SDevice) (k : ℕ) : Flash :=
  FlashOp.applyAll f ((saveDataOps f d.setWorkFlag).take k)

/-- Over a stored record, the page is erased and the new record is programmed half-word by
half-word. -/
theorem powerLost_halfWord {f : Flash} (h : (stmflashReadDevice f).Flagged) (d : SDevice)
    {k j : ℕ} (hk : 1 ≤ k) (hj : j < deviceHalfWords) :
  powerLost f d k (paraBase + j) = if j + 1 < k then d.setWorkFlag.halfWord j else 0xFFFF
  := by
  have hstored : ∃ i < deviceHalfWords, f (paraBase + i) ≠ 0xFFFF := by
    refine ⟨0, by decide, ?_⟩
    rw [← halfWord_stmflashReadDevice f (by decide), ((SDevice.flagged_iff _).mp h).1]
    decide
  obtain ⟨m, rfl⟩ : ∃ m, k = m + 1 := ⟨k - 1, by omega⟩
  have hsector : (paraBase + j) / sectorHalfWords = paraBase / sectorHalfWords := by
    simp only [deviceHalfWords, paraBase, sectorHalfWords, paraStorageAddr] at hj ⊢
    omega
  have herased : FlashOp.apply f (.erasePage (paraBase / sectorHalfWords)) (paraBase + j)
      = 0xFFFF := if_pos hsector
  have htake : ∀ buf, (stmflashWriteNoCheck paraBase buf sectorHalfWords).take m
      = stmflashWriteNoCheck paraBase buf (min m sectorHalfWords) := by
    intro buf
    rw [stmflashWriteNoCheck, ← List.map_take, List.take_range]
    rfl
  rw [powerLost, saveDataOps_eq, if_pos hstored, List.take_succ_cons, htake, FlashOp.applyAll,
    List.foldl_cons, ← FlashOp.applyAll, applyAll_stmflashWriteNoCheck]
  by_cases hjm : j < m
  · have hlt : j < min m sectorHalfWords := by
      simp only [deviceHalfWords, sectorHalfWords] at hj ⊢
      omega
    rw [if_pos ⟨by omega, by omega, herased⟩, show paraBase + j - paraBase = j by omega,
      if_pos hj, if_pos (by omega)]
  · rw [if_neg (by omega), if_neg (by omega)]
    exact herased

/-- The record that is found after a loss of power. -/
theorem halfWord_powerLost {f : Flash} (h : (stmflashReadDevice f).Flagged) (d : SDevice)
    {k j : ℕ} (hk : 1 ≤ k) (hj : j < deviceHalfWords) :
  (stmflashReadDevice (powerLost f d k)).halfWord j
    = if j + 1 < k then d.setWorkFlag.halfWord j else 0xFFFF
  := by
  rw [halfWord_stmflashReadDevice _ hj, powerLost_halfWord h d hk hj]

/-- The record that is found counts as stored as soon as both half-words of `Flag` are
programmed. -/
theorem flagged_powerLost_iff {f : Flash} (h : (stmflashReadDevice f).Flagged) (d : SDevice)
    {k : ℕ} (hk : 1 ≤ k) :
  (stmflashReadDevice (powerLost f d k)).Flagged ↔ 3 ≤ k
  := by
  have hnew := (SDevice.flagged_iff _).mp (SDevice.flagged_setWorkFlag d)
  rw [SDevice.flagged_iff, halfWord_powerLost h d hk (by decide),
    halfWord_powerLost h d hk (by decide)]
  constructor
  · rintro ⟨-, h1⟩
    by_contra hlt
    rw [if_neg (by omega)] at h1
    exact absurd h1 (by decide)
  · intro h3
    rw [if_pos (by omega), if_pos (by omega)]
    exact hnew

/-- The old record, the new one or the factory settings, each with the version overwritten. -/
def IsWholeImage (old new d : SDevice) : Prop :=
  d = old.setVersion ∨ d = new.setVersion ∨ d = defaultPara.setWorkFlag.setVersion

/-- After a loss of power in the middle of the record, the factory settings are not what is
found: their last half-word is zero. -/
theorem halfWord_last_defaultPara :
  defaultPara.setWorkFlag.halfWord 104 = 0
  := by
  decide

/-- When power is lost after the first `k` operations of `SaveData`, the next start finds a
whole record if and only if `Flag` was not yet complete, or the record was, or the half-words
still missing are `0xFFFF` in the new record, or the old record happens to have the
half-words that are found.  The version half-word does not count. -/
theorem whole_image_iff (f : Flash) (d : SDevice) (k : ℕ)
    (h : (stmflashReadDevice f).Flagged) :
  IsWholeImage (stmflashReadDevice f) d.setWorkFlag (readPara (powerLost f d k)).1
    ↔ k ≤ 2 ∨ deviceHalfWords < k
      ∨ (∀ j < deviceHalfWords, j ≠ 3 → k ≤ j + 1 → d.setWorkFlag.halfWord j = 0xFFFF)
      ∨ ∀ j < deviceHalfWords, j ≠ 3 → (stmflashReadDevice f).halfWord j
          = if j + 1 < k then d.setWorkFlag.halfWord j else 0xFFFF
  := by
  rcases Nat.lt_or_ge 2 k with hk | hk
  · have hk1 : 1 ≤ k := by omega
    have hread := readPara_of_flagged ((flagged_powerLost_iff h d hk1).mpr (by omega))
    have hfound := fun j hj => halfWord_powerLost (k := k) (j := j) h d hk1 hj
    rw [IsWholeImage, hread, SDevice.setVersion_eq_iff, SDevice.setVersion_eq_iff,
      SDevice.setVersion_eq_iff]
    constructor
    · rintro (hold | hnew | hdefault)
      · right; right; right
        intro j hj hj3
        rw [← hold j hj hj3, hfound j hj]
      · right; right; left
        intro j hj hj3 hkj
        rw [← hnew j hj hj3, hfound j hj, if_neg (by omega)]
      · right; left
        by_contra hlt
        simp only [deviceHalfWords] at hlt
        have := hdefault 104 (by decide) (by decide)
        rw [halfWord_last_defaultPara, hfound 104 (by decide), if_neg (by omega)] at this
        exact absurd this (by decide)
    · rintro (hle | hlt | hmissing | hold)
      · omega
      · right; left
        intro j hj _
        rw [hfound j hj, if_pos (by omega)]
      · right; left
        intro j hj hj3
        rw [hfound j hj]
        split
        · rfl
        · exact (hmissing j hj hj3 (by omega)).symm
      · left
        intro j hj hj3
        rw [hfound j hj, hold j hj hj3]
  · constructor
    · intro _
      exact .inl hk
    · intro _
      rcases Nat.eq_zero_or_pos k with hzero | hpos
      · subst hzero
        left
        exact readPara_of_flagged h
      · right; right
        apply readPara_of_not_flagged
        rw [flagged_powerLost_iff h d hpos]
        omega

/-! ### An example -/

/-- The flash of a reader that runs with the factory settings. -/
def factoryFlash : Flash := fun a => defaultPara.setWorkFlag.halfWord (a - paraBase)

theorem stmflashReadDevice_factoryFlash :
  stmflashReadDevice factoryFlash = defaultPara.setWorkFlag
  := by
  apply SDevice.ext_halfWord
  intro i hi
  rw [halfWord_stmflashReadDevice _ hi, factoryFlash, Nat.add_sub_cancel_left]

/-- The whole record is found when power is lost after the last half-word of it. -/
theorem whole_image_after_last_halfWord :
  let d : SDevice := defaultPara.put Offset.outputPower 30
  IsWholeImage (stmflashReadDevice factoryFlash) d.setWorkFlag
    (readPara (powerLost factoryFlash d 106)).1
  := by
  intro d
  apply (whole_image_iff _ _ _ ?_).mpr
  · right; left
    decide
  · rw [stmflashReadDevice_factoryFlash]
    exact SDevice.flagged_setWorkFlag _

/-- The output power is changed and power is lost after 60 operations: the reader starts with
a record whose second half is `0xFF`. -/
theorem mixture_after_sixty_operations :
  let d : SDevice := defaultPara.put Offset.outputPower 30
  (stmflashReadDevice factoryFlash).Flagged
    ∧ ¬ IsWholeImage (stmflashReadDevice factoryFlash) d.setWorkFlag
      (readPara (powerLost factoryFlash d 60)).1
  := by
  intro d
  have hflag : (stmflashReadDevice factoryFlash).Flagged := by
    rw [stmflashReadDevice_factoryFlash]
    exact SDevice.flagged_setWorkFlag _
  refine ⟨hflag, ?_⟩
  have hread := readPara_of_flagged ((flagged_powerLost_iff hflag d (by decide)).mpr
    (show 3 ≤ 60 by decide))
  have hlast := halfWord_powerLost hflag d (show 1 ≤ 60 by decide)
    (show 104 < deviceHalfWords by decide)
  rw [if_neg (by decide)] at hlast
  rw [IsWholeImage, hread, SDevice.setVersion_eq_iff, SDevice.setVersion_eq_iff,
    SDevice.setVersion_eq_iff]
  rintro (hold | hnew | hdefault)
  · have := hold 104 (by decide) (by decide)
    rw [hlast, stmflashReadDevice_factoryFlash] at this
    exact absurd this (by decide)
  · have := hnew 104 (by decide) (by decide)
    rw [hlast] at this
    exact absurd this (by decide)
  · have := hdefault 104 (by decide) (by decide)
    rw [hlast] at this
    exact absurd this (by decide)

end UhfReader
