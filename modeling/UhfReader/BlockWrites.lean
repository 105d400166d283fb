import UhfReader.Storage
import UhfReader.Lib.Splice

/-!
# Writes over several sectors

`STMFLASH_Write` goes through the sectors of a block.  A sector with something to overwrite is
rewritten whole, and an erased one is programmed from `WriteAddr` on.  `WriteAddr` counts bytes, but
is advanced by half-words: from the second sector on it is too low, and what is programmed there
lands in front of the sector, or is lost.
-/

open Splice

namespace UhfReader

/-- `STMFLASH_Read` of `n` half-words, from the byte address `readAddr` from the start of the
flash. -/
def stmflashRead (f : Flash) (readAddr n : ℕ) : List UInt16 :=
  (List.range n).map fun i => f (readAddr / 2 + i)

/-- A block is written if it is read back, and nothing else has changed. -/
structure BlockWritten (f : Flash) (a : ℕ) (buf : ℕ → UInt16) (n : ℕ) (f' : Flash) : Prop where
  readsBack : stmflashRead f' a n = (List.range n).map buf
  unchanged : ∀ i, ¬ (a / 2 ≤ i ∧ i < a / 2 + n) → f' i = f i

/-- A sector of the block has to be rewritten, or nothing is to be written to it: there is something
else than `0xFFFF` in the flash, or there is not in the buffer. -/
def Unprogrammed (f : Flash) (a : ℕ) (buf : ℕ → UInt16) (n sector : ℕ) : Prop :=
  (∃ i, a ≤ i ∧ i < a + n ∧ i / sectorHalfWords = sector ∧ f i ≠ 0xFFFF)
    ∨ ∀ i, a ≤ i → i < a + n → i / sectorHalfWords = sector → buf (i - a) = 0xFFFF

theorem blockWritten_iff {f f' : Flash} {a : ℕ} {buf : ℕ → UInt16} {n : ℕ} :
  BlockWritten f a buf n f' ↔ f' = splice f (a / 2) buf n
  := by
  rw [eq_splice_iff]
  constructor
  · rintro ⟨hread, hunchanged⟩
    refine ⟨?_, hunchanged⟩
    intro i hi
    exact List.map_inj_left.mp hread i (List.mem_range.mpr hi)
  · rintro ⟨hinside, hunchanged⟩
    refine ⟨?_, hunchanged⟩
    apply List.map_congr_left
    intro i hi
    exact hinside i (List.mem_range.mp hi)

/-! ### The sectors behind the first -/

section Behind

variable {f f' : Flash} {a n r sector secpos secremain w : ℕ} {buf : ℕ → UInt16}

/-- The first sector of a run that starts with a sector. -/
theorem unprogrammed_head (hsize : r ≤ sectorHalfWords) (hr : r = n ∨ r = sectorHalfWords ∧ r ≤ n) :
  Unprogrammed f (secpos * sectorHalfWords) buf n secpos
    ↔ (∃ i < r, f (secpos * sectorHalfWords + i) ≠ 0xFFFF) ∨ ∀ i < r, buf i = 0xFFFF
  := by
  simp only [Unprogrammed, sectorHalfWords] at hsize hr ⊢
  apply or_congr
  · constructor
    · rintro ⟨i, hi, hn, hsector, hne⟩
      refine ⟨i - secpos * 1024, by omega, ?_⟩
      rwa [Nat.add_sub_cancel' hi]
    · rintro ⟨i, hi, hne⟩
      exact ⟨secpos * 1024 + i, by omega, by omega, by omega, hne⟩
  · constructor
    · intro h i hi
      rw [← h (secpos * 1024 + i) (by omega) (by omega) (by omega), Nat.add_sub_cancel_left]
    · intro h i hi hn hsector
      exact h _ (by omega)

/-- A later sector is the same in what is left of a run. -/
theorem unprogrammed_behind (hr : r ≤ n) (hsame : ∀ i, a + r ≤ i → f' i = f i)
    (hlater : ∀ i, a ≤ i → i / sectorHalfWords = sector → a + r ≤ i) :
  Unprogrammed f' (a + r) (fun i => buf (r + i)) (n - r) sector ↔ Unprogrammed f a buf n sector
  := by
  unfold Unprogrammed
  apply or_congr
  · constructor
    · rintro ⟨i, hi, hn, hsector, hne⟩
      refine ⟨i, by omega, by omega, hsector, ?_⟩
      rwa [← hsame i hi]
    · rintro ⟨i, hi, hn, hsector, hne⟩
      have hbehind := hlater i hi hsector
      refine ⟨i, hbehind, by omega, hsector, ?_⟩
      rwa [hsame i hbehind]
  · constructor
    · intro h i hi hn hsector
      have hbehind := hlater i hi hsector
      rw [← h i hbehind (by omega) hsector]
      congr 1
      omega
    · intro h i hi hn hsector
      rw [← h i (by omega) (by omega) hsector]
      dsimp only
      congr 1
      omega

/-- A sector behind a run has nothing to be written to it. -/
theorem unprogrammed_of_behind (h : a + n ≤ sector * sectorHalfWords) :
  Unprogrammed f a buf n sector
  := by
  refine .inr ?_
  intro i hi hn hsector
  simp only [sectorHalfWords] at h hsector
  omega

/-- A round does not touch what is behind its run. -/
theorem applyAll_sector_behind (hsize : secremain ≤ sectorHalfWords)
    (hlow : w < secpos * sectorHalfWords) {i : ℕ} (hi : secpos * sectorHalfWords + secremain ≤ i) :
  FlashOp.applyAll f (stmflashWriteSector f secpos 0 secremain w buf) i = f i
  := by
  by_cases hused : ∃ i < secremain, f (secpos * sectorHalfWords + (0 + i)) ≠ 0xFFFF
  · rw [applyAll_rewritten (by rwa [Nat.zero_add]) hused, splice_outside (by omega)]
  · rw [applyAll_programmed (by simpa only [not_exists, not_and, not_not] using hused)]
    dsimp only
    rw [if_neg (by omega)]

/-- A round that is to leave its run at its place must not program anything. -/
theorem unprogrammed_of_applyAll
    (hlow : w < secpos * sectorHalfWords)
    (hright : ∀ i < secremain, FlashOp.applyAll f
      (stmflashWriteSector f secpos 0 secremain w buf) (secpos * sectorHalfWords + i) = buf i) :
  (∃ i < secremain, f (secpos * sectorHalfWords + i) ≠ 0xFFFF) ∨ ∀ i < secremain, buf i = 0xFFFF
  := by
  by_cases hused : ∃ i < secremain, f (secpos * sectorHalfWords + i) ≠ 0xFFFF
  · exact .inl hused
  · -- the run is programmed at `w`, so that its own place holds it shifted by the distance
    refine .inr (const_of_shift (p := secpos * sectorHalfWords - w) (by omega) ?_)
    have hblank : ∀ i < secremain, f (secpos * sectorHalfWords + i) = 0xFFFF := by
      simpa only [not_exists, not_and, not_not] using hused
    intro i hi
    rw [← hright i hi, applyAll_programmed (by simpa only [Nat.zero_add] using hblank)]
    dsimp only
    rw [hblank i hi]
    by_cases hshift : i + (secpos * sectorHalfWords - w) < secremain
    · rw [if_pos ⟨by omega, by omega, rfl⟩, if_pos hshift]
      congr 1
      omega
    · rw [if_neg (by omega), if_neg hshift]

/-- A round that does not program anything leaves its run at its place. -/
theorem applyAll_unprogrammed (hsize : secremain ≤ sectorHalfWords)
    (h : (∃ i < secremain, f (secpos * sectorHalfWords + i) ≠ 0xFFFF)
      ∨ ∀ i < secremain, buf i = 0xFFFF) :
  FlashOp.applyAll f (stmflashWriteSector f secpos 0 secremain w buf)
    = splice f (secpos * sectorHalfWords) buf secremain
  := by
  by_cases hused : ∃ i < secremain, f (secpos * sectorHalfWords + i) ≠ 0xFFFF
  · have hrewritten := @applyAll_rewritten f secpos 0 secremain w buf (by rwa [Nat.zero_add])
      (by simpa only [Nat.zero_add] using hused)
    rwa [Nat.add_zero] at hrewritten
  · have hblank : ∀ i < secremain, f (secpos * sectorHalfWords + i) = 0xFFFF := by
      simpa only [not_exists, not_and, not_not] using hused
    have hdata := h.resolve_left hused
    rw [applyAll_programmed (by simpa only [Nat.zero_add] using hblank), splice_same]
    · -- only `0xFFFF` is programmed, and only where it is
      funext i
      split
      · rename_i hi
        rw [hdata _ (by omega), hi.2.2]
      · rfl
    · intro i hi
      rw [hblank i hi, hdata i hi]

/-- A later sector of a run of whole sectors is the same in the run without its first sector. -/
theorem unprogrammed_next (hmore : sectorHalfWords < n)
    (hsame : ∀ i, (secpos + 1) * sectorHalfWords ≤ i → f' i = f i) (hsector : secpos < sector) :
  Unprogrammed f' ((secpos + 1) * sectorHalfWords) (fun i => buf (sectorHalfWords + i))
      (n - sectorHalfWords) sector
    ↔ Unprogrammed f (secpos * sectorHalfWords) buf n sector
  := by
  rw [Nat.add_one_mul] at hsame ⊢
  apply unprogrammed_behind hmore.le hsame
  intro i hi hplace
  simp only [sectorHalfWords] at hplace ⊢
  omega

/-- A round of the loop that is not the last one. -/
theorem applyAll_round {fuel writeAddr : ℕ} (hmore : sectorHalfWords < n) :
  FlashOp.applyAll f (stmflashWriteLoop (fuel + 1) f secpos 0 sectorHalfWords writeAddr buf n)
    = FlashOp.applyAll
      (FlashOp.applyAll f (stmflashWriteSector f secpos 0 sectorHalfWords (writeAddr / 2) buf))
      (stmflashWriteLoop fuel
        (FlashOp.applyAll f (stmflashWriteSector f secpos 0 sectorHalfWords (writeAddr / 2) buf))
        (secpos + 1) 0
        (if n - sectorHalfWords > sectorHalfWords then sectorHalfWords else n - sectorHalfWords)
        (writeAddr + sectorHalfWords) (fun i => buf (sectorHalfWords + i)) (n - sectorHalfWords))
  := by
  rw [stmflashWriteLoop, if_neg hmore.ne', FlashOp.applyAll, List.foldl_append,
    ← FlashOp.applyAll, ← FlashOp.applyAll]

end Behind

/-- The loop of `STMFLASH_Write` from a second sector on, where `WriteAddr` is too low. -/
theorem applyAll_loop {fuel : ℕ} {f : Flash} {secpos writeAddr n : ℕ} {buf : ℕ → UInt16}
    (hone : 1 ≤ n) (hfuel : n ≤ fuel) (hlow : writeAddr / 2 < secpos * sectorHalfWords) :
  let f' := FlashOp.applyAll f (stmflashWriteLoop fuel f secpos 0
    (if n > sectorHalfWords then sectorHalfWords else n) writeAddr buf n)
  ((∀ i < n, f' (secpos * sectorHalfWords + i) = buf i)
      → ∀ s ≥ secpos, Unprogrammed f (secpos * sectorHalfWords) buf n s)
    ∧ ((∀ s ≥ secpos, Unprogrammed f (secpos * sectorHalfWords) buf n s)
      → f' = splice f (secpos * sectorHalfWords) buf n)
  := by
  induction fuel generalizing f secpos writeAddr n buf with
  | zero => omega
  | succ fuel ih =>
    dsimp only
    by_cases hlast : n ≤ sectorHalfWords
    · have hhead := @unprogrammed_head f n n secpos buf hlast (.inl rfl)
      rw [if_neg (Nat.not_lt.mpr hlast), stmflashWriteLoop, if_pos rfl]
      constructor
      · intro hright s hs
        obtain rfl | hs := Nat.eq_or_lt_of_le hs
        · exact hhead.mpr (unprogrammed_of_applyAll hlow hright)
        · apply unprogrammed_of_behind
          simp only [sectorHalfWords] at hlast ⊢
          omega
      · intro hall
        exact applyAll_unprogrammed hlast (hhead.mp (hall secpos (Nat.le_refl _)))
    · have hmore : sectorHalfWords < n := Nat.lt_of_not_le hlast
      have hsize : 1 ≤ sectorHalfWords := by decide
      have hnext : (secpos + 1) * sectorHalfWords = secpos * sectorHalfWords + sectorHalfWords :=
        Nat.add_one_mul _ _
      have hhead := @unprogrammed_head f n sectorHalfWords secpos buf (Nat.le_refl _)
        (.inr ⟨rfl, hmore.le⟩)
      rw [if_pos hmore, applyAll_round hmore]
      have hbehind := fun i => @applyAll_sector_behind f secpos _ _ buf
        (Nat.le_refl sectorHalfWords) hlow i
      have hright₁ := @unprogrammed_of_applyAll f secpos sectorHalfWords _ buf hlow
      have hsplice₁ := @applyAll_unprogrammed f secpos _ (writeAddr / 2) buf
        (Nat.le_refl sectorHalfWords)
      generalize FlashOp.applyAll f (stmflashWriteSector f secpos 0 sectorHalfWords
        (writeAddr / 2) buf) = f₁ at *
      obtain ⟨ih₁, ih₂⟩ := @ih f₁ (secpos + 1) (writeAddr + sectorHalfWords) (n - sectorHalfWords)
        (fun i => buf (sectorHalfWords + i)) (by omega) (by omega) (by omega)
      rw [← hnext] at hbehind
      constructor
      · intro hright
        have hrest := ih₁ (by
          intro i hi
          rw [hnext, Nat.add_assoc]
          exact hright (sectorHalfWords + i) (by omega))
        -- what follows leaves the sector alone, so the round has left it right
        have hfirst : ∀ i < sectorHalfWords, f₁ (secpos * sectorHalfWords + i) = buf i := by
          intro i hi
          rw [← hright i (by omega), ih₂ hrest, splice_outside (by omega)]
        intro s hs
        obtain rfl | hs := Nat.eq_or_lt_of_le hs
        · exact hhead.mpr (hright₁ hfirst)
        · exact (unprogrammed_next hmore hbehind hs).mp (hrest s hs)
      · intro hall
        rw [ih₂ fun s hs => (unprogrammed_next hmore hbehind hs).mpr (hall s (by omega)),
          hsplice₁ (hhead.mp (hall secpos (Nat.le_refl _))), hnext, splice_splice,
          Nat.add_sub_cancel' hmore.le]

/-! ### A block -/

section Block

variable {f : Flash} {k n : ℕ} {buf : ℕ → UInt16}

/-- The address of a half-word by its sector and its offset there. -/
theorem sector_offset (k : ℕ) :
  k / sectorHalfWords * sectorHalfWords + k % sectorHalfWords = k
  := Nat.div_add_mod' k sectorHalfWords

/-- A block that ends in the sector where it starts is written. -/
theorem applyAll_stmflashWrite_one (hk : 2 * k < 1024 * 512)
    (hn : n ≤ sectorHalfWords - k % sectorHalfWords) :
  FlashOp.applyAll f (stmflashWrite f (2 * k) buf n) = splice f k buf n
  := by
  have hoff : k % sectorHalfWords < sectorHalfWords := Nat.mod_lt _ (by decide)
  have hfirst := @applyAll_firstSector f (k / sectorHalfWords) (k % sectorHalfWords) n buf (by omega)
  rw [sector_offset] at hfirst
  rw [stmflashWrite, if_neg (Nat.not_le.mpr hk)]
  dsimp only
  rw [Nat.mul_mod_mul_left, Nat.mul_div_cancel_left _ Nat.two_pos,
    Nat.mul_div_mul_left _ _ Nat.two_pos, if_pos hn, stmflashWriteLoop]
  dsimp only
  rw [Nat.mul_div_cancel_left k Nat.two_pos, if_pos rfl]
  exact hfirst

/-- Of a longer block the half-words up to the end of the sector are written, and the loop goes on
with the next one. -/
theorem applyAll_stmflashWrite_more {r : ℕ} (hk : 2 * k < 1024 * 512)
    (hr : r = sectorHalfWords - k % sectorHalfWords) (hn : r < n) :
  FlashOp.applyAll f (stmflashWrite f (2 * k) buf n)
    = FlashOp.applyAll (splice f k buf r) (stmflashWriteLoop n (splice f k buf r)
        (k / sectorHalfWords + 1) 0 (if n - r > sectorHalfWords then sectorHalfWords else n - r)
        (2 * k + r) (fun i => buf (r + i)) (n - r))
  := by
  have hoff : k % sectorHalfWords < sectorHalfWords := Nat.mod_lt _ (by decide)
  have hfirst := @applyAll_firstSector f (k / sectorHalfWords) (k % sectorHalfWords) r buf (by omega)
  rw [sector_offset] at hfirst
  rw [stmflashWrite, if_neg (Nat.not_le.mpr hk)]
  dsimp only
  rw [Nat.mul_mod_mul_left, Nat.mul_div_cancel_left _ Nat.two_pos,
    Nat.mul_div_mul_left _ _ Nat.two_pos, ← hr, if_neg (Nat.not_le.mpr hn), stmflashWriteLoop]
  dsimp only
  rw [Nat.mul_div_cancel_left k Nat.two_pos, if_neg hn.ne', FlashOp.applyAll, List.foldl_append,
    ← FlashOp.applyAll, ← FlashOp.applyAll, hfirst]

end Block

/-- `STMFLASH_Write` writes a block if and only if it programs nothing in the sectors behind the
first. -/
theorem block_written_iff (f : Flash) (a : ℕ) (buf : ℕ → UInt16) (n : UInt16) (heven : 2 ∣ a)
    (hfits : a + 2 * n.toNat ≤ 1024 * 512) :
  BlockWritten f a buf n.toNat (FlashOp.applyAll f (stmflashWrite f a buf n.toNat))
    ↔ ∀ s > a / 2 / sectorHalfWords, Unprogrammed f (a / 2) buf n.toNat s
  := by
  obtain ⟨k, rfl⟩ := heven
  generalize n.toNat = n at *
  rw [blockWritten_iff, Nat.mul_div_cancel_left k Nat.two_pos]
  have hoff : k % sectorHalfWords < sectorHalfWords := Nat.mod_lt _ (by decide)
  obtain ⟨r, hr⟩ : ∃ r, r = sectorHalfWords - k % sectorHalfWords := ⟨_, rfl⟩
  have hnext : (k / sectorHalfWords + 1) * sectorHalfWords = k + r := by
    have hplace := sector_offset k
    rw [Nat.add_one_mul]
    omega
  by_cases hend : 2 * k ≥ 1024 * 512
  · -- the end of the flash, with nothing to write
    obtain rfl : n = 0 := by omega
    rw [stmflashWrite, if_pos hend]
    refine iff_of_true (splice_same ?_).symm ?_
    · intro i hi
      exact absurd hi (Nat.not_lt_zero i)
    · intro s hs
      exact .inr fun i hi hn => by omega
  · have hk : 2 * k < 1024 * 512 := Nat.lt_of_not_le hend
    by_cases hfirst : n ≤ r
    · refine iff_of_true (applyAll_stmflashWrite_one hk (hr ▸ hfirst)) ?_
      intro s hs
      apply unprogrammed_of_behind
      have hbelow : (k / sectorHalfWords + 1) * sectorHalfWords ≤ s * sectorHalfWords :=
        Nat.mul_le_mul_right _ hs
      omega
    · have hmore : r < n := Nat.lt_of_not_le hfirst
      rw [applyAll_stmflashWrite_more hk hr hmore]
      obtain ⟨hright, hall⟩ := @applyAll_loop n (splice f k buf r) (k / sectorHalfWords + 1)
        (2 * k + r) (n - r) (fun i => buf (r + i)) (by omega) (by omega) (by omega)
      rw [hnext] at hright hall
      have hlater : ∀ s ≥ k / sectorHalfWords + 1,
          (Unprogrammed (splice f k buf r) (k + r) (fun i => buf (r + i)) (n - r) s
          ↔ Unprogrammed f k buf n s) := by
        intro s hs
        apply unprogrammed_behind hmore.le
        · intro i hi
          exact splice_outside (by omega)
        · intro i hi hsector
          rw [← hnext, ← Nat.le_div_iff_mul_le (by decide), hsector]
          exact hs
      constructor
      · intro hblock s hs
        apply (hlater s hs).mp
        apply hright
        · intro i hi
          rw [hblock, Nat.add_assoc]
          exact splice_inside (by omega)
        · exact hs
      · intro hsectors
        rw [hall fun s hs => (hlater s hs).mpr (hsectors s hs), splice_splice,
          Nat.add_sub_cancel' hmore.le]

/-- Four half-words over the end of a sector, in a flash that has to be erased. -/
theorem block_written_used :
  BlockWritten (fun _ => 0) 2044 (fun i => UInt16.ofNat (i + 1)) 4
    (FlashOp.applyAll (fun _ => 0)
      (stmflashWrite (fun _ => 0) 2044 (fun i => UInt16.ofNat (i + 1)) 4))
  := by
  apply (block_written_iff (fun _ => 0) 2044 (fun i => UInt16.ofNat (i + 1)) 4
    (by decide) (by decide)).mpr
  intro s hs
  obtain rfl | hs := Nat.eq_or_lt_of_le hs
  · exact .inl ⟨1024, by decide, by decide, by decide, by decide⟩
  · apply unprogrammed_of_behind
    simp only [sectorHalfWords, UInt16.reduceToNat] at hs ⊢
    omega

/-- In an erased flash the last of four half-words is programmed in place of the third. -/
theorem block_misplaced :
  stmflashRead (FlashOp.applyAll (fun _ => 0xFFFF)
      (stmflashWrite (fun _ => 0xFFFF) 2044 (fun i => UInt16.ofNat (i + 1)) 4)) 2044 4
      = [1, 2, 4, 0xFFFF]
    ∧ ¬ BlockWritten (fun _ => 0xFFFF) 2044 (fun i => UInt16.ofNat (i + 1)) 4
      (FlashOp.applyAll (fun _ => 0xFFFF)
        (stmflashWrite (fun _ => 0xFFFF) 2044 (fun i => UInt16.ofNat (i + 1)) 4))
  := by
  have hread : stmflashRead (FlashOp.applyAll (fun _ => 0xFFFF)
      (stmflashWrite (fun _ => 0xFFFF) 2044 (fun i => UInt16.ofNat (i + 1)) 4)) 2044 4
      = [1, 2, 4, 0xFFFF] := by
    decide +kernel
  refine ⟨hread, ?_⟩
  intro h
  have hwrong := hread.symm.trans h.readsBack
  exact absurd hwrong (by decide)

end UhfReader
