import UhfReader.State
import UhfReader.Lib.Splice

/-!
# Parameter storage in the internal flash

The driver of `stm32flash.c` writes half-words into 2048-byte sectors.  A sector with
something to overwrite is read into `STMFLASH_BUF`, erased and written back whole.  The
driver is modelled by the list of erase and program operations it issues, so that a loss
of power is a prefix of that list.

`saveData` and `readPara` store and restore the record `g_device` at the start of sector
127.
-/

open Memory Splice

namespace UhfReader

/-- The contents of the flash, by half-word. -/
abbrev Flash := ℕ → UInt16

/-- `STM_SECTOR_SIZE / 2`, the number of half-words of a sector. -/
@[simp] def sectorHalfWords : ℕ := 1024

/-- An operation of the flash controller. -/
inductive FlashOp where
  /-- `FLASH_ErasePage`, by the number of the sector -/
  | erasePage (sector : ℕ)
  /-- `FLASH_ProgramHalfWord`, by the number of the half-word -/
  | programHalfWord (a : ℕ) (v : UInt16)
  deriving DecidableEq, Repr

namespace FlashOp

/-- The flash after an operation.  A page is erased to `0xFFFF`; a half-word is programmed
only when it is erased. -/
def apply (f : Flash) : FlashOp → Flash
  | erasePage s => fun i => if i / sectorHalfWords = s then 0xFFFF else f i
  | programHalfWord a v => fun i => if i = a ∧ f i = 0xFFFF then v else f i

/-- The flash after a list of operations. -/
def applyAll (f : Flash) (ops : List FlashOp) : Flash := ops.foldl apply f

end FlashOp

/-- `STMFLASH_Write_NoCheck`: program `n` half-words from half-word `a` on. -/
def stmflashWriteNoCheck (a : ℕ) (buf : ℕ → UInt16) (n : ℕ) : List FlashOp :=
  (List.range n).map fun i => .programHalfWord (a + i) (buf i)

/-- The operations of one round of the loop of `STMFLASH_Write`, for the `secremain`
half-words at offset `secoff` of sector `secpos`.  `writeAddr` is the half-word that
`WriteAddr` addresses; it is used only when nothing has to be erased. -/
def stmflashWriteSector (f : Flash) (secpos secoff secremain writeAddr : ℕ)
    (buf : ℕ → UInt16) : List FlashOp :=
  let stmflashBuf : ℕ → UInt16 := fun i => f (secpos * sectorHalfWords + i)
  if ∃ i < secremain, stmflashBuf (secoff + i) ≠ 0xFFFF then
    .erasePage secpos :: stmflashWriteNoCheck (secpos * sectorHalfWords)
      (fun i => if secoff ≤ i ∧ i < secoff + secremain then buf (i - secoff) else stmflashBuf i)
      sectorHalfWords
  else
    stmflashWriteNoCheck writeAddr buf secremain

/-- The loop of `STMFLASH_Write`.  `writeAddr` is the byte address from the start of the
flash; `WriteAddr+=secremain` advances it by half-words, not by bytes.  When that makes it odd, the
half-word that it lies in is taken for it: `FLASH_ProgramHalfWord` is only meant for even ones. -/
def stmflashWriteLoop :
    ℕ → Flash → ℕ → ℕ → ℕ → ℕ → (ℕ → UInt16) → ℕ → List FlashOp
  | 0, _, _, _, _, _, _, _ => []
  | fuel + 1, f, secpos, secoff, secremain, writeAddr, buf, numToWrite =>
    let ops := stmflashWriteSector f secpos secoff secremain (writeAddr / 2) buf
    if numToWrite = secremain then ops
    else
      let numToWrite := numToWrite - secremain
      ops ++ stmflashWriteLoop fuel (FlashOp.applyAll f ops) (secpos + 1) 0
        (if numToWrite > sectorHalfWords then sectorHalfWords else numToWrite)
        (writeAddr + secremain) (fun i => buf (secremain + i)) numToWrite

/-- The operations that `STMFLASH_Write` issues, for the byte address `offaddr` from the
start of the flash.  Each round writes at least one half-word, so `numToWrite + 1` rounds
are enough. -/
def stmflashWrite (f : Flash) (offaddr : ℕ) (buf : ℕ → UInt16) (numToWrite : ℕ) :
    List FlashOp :=
  if offaddr ≥ 1024 * 512 then []
  else
    let secoff := offaddr % (2 * sectorHalfWords) / 2
    let secremain := sectorHalfWords - secoff
    stmflashWriteLoop (numToWrite + 1) f (offaddr / (2 * sectorHalfWords)) secoff
      (if numToWrite ≤ secremain then numToWrite else secremain) offaddr buf numToWrite

/-- `PARA_STORAGE_ADDR`, as a byte address from the start of the flash. -/
@[simp] def paraStorageAddr : ℕ := 0x3F800

/-- The number of half-words of `g_device`. -/
@[simp] def deviceHalfWords : ℕ := 105

/-- The first half-word of the parameter block. -/
@[simp] def paraBase : ℕ := paraStorageAddr / 2

/-- The half-words of a record, low byte first. -/
def SDevice.halfWord (d : SDevice) (i : ℕ) : UInt16 :=
  (d.load (2 * i)).toUInt16 + (d.load (2 * i + 1)).toUInt16 * 256

/-- `STMFLASH_Read(PARA_STORAGE_ADDR, &g_device, sizeof(g_device)/2)`. -/
def stmflashReadDevice (f : Flash) : SDevice :=
  fun j => getByte (f (paraBase + j.val / 2)).toNat (j.val % 2)

/-- The flash operations of `SaveData`, for a record whose `Flag` is already set. -/
def saveDataOps (f : Flash) (d : SDevice) : List FlashOp :=
  stmflashWrite f paraStorageAddr d.halfWord deviceHalfWords

/-- `SaveData`: the record marked with `WORK_FLAG`, and the flash it is written to. -/
def saveDataTo (f : Flash) (d : SDevice) : SDevice × Flash :=
  (d.setWorkFlag, FlashOp.applyAll f (saveDataOps f d.setWorkFlag))

/-- `ReadPara`, which `initPara` calls at start-up with `g_device` cleared: the record in
`g_device` and the flash afterwards.  Reading the same flash five times yields the same
record, so it is read once. -/
def readPara (f : Flash) : SDevice × Flash :=
  let d := stmflashReadDevice f
  if d.Flagged then (d.setVersion, f)
  else
    let (d, f) := saveDataTo f defaultPara
    -- `g_device.Flag` is cleared and read back from the flash
    let d : SDevice := d.copy Offset.flag (stmflashReadDevice f).load 4
    (d.setVersion, f)

/-! ### Half-words -/

namespace SDevice

theorem toNat_halfWord (d : SDevice) (i : ℕ) :
  (d.halfWord i).toNat = (d.load (2 * i)).toNat + (d.load (2 * i + 1)).toNat * 256
  := by
  have hlo := (d.load (2 * i)).toNat_lt
  have hhi := (d.load (2 * i + 1)).toNat_lt
  simp only [halfWord, UInt16.toNat_add, UInt16.toNat_mul, UInt8.toNat_toUInt16,
    UInt16.toNat_ofNat]
  omega

theorem getByte_halfWord_zero (d : SDevice) (i : ℕ) :
  getByte (d.halfWord i).toNat 0 = d.load (2 * i)
  := by
  have hlo := (d.load (2 * i)).toNat_lt
  have hmod : (d.halfWord i).toNat / 256 ^ 0 % 256 = (d.load (2 * i)).toNat := by
    rw [toNat_halfWord]
    omega
  rw [getByte, hmod, UInt8.ofNat_toNat]

theorem getByte_halfWord_one (d : SDevice) (i : ℕ) :
  getByte (d.halfWord i).toNat 1 = d.load (2 * i + 1)
  := by
  have hlo := (d.load (2 * i)).toNat_lt
  have hhi := (d.load (2 * i + 1)).toNat_lt
  have hmod : (d.halfWord i).toNat / 256 ^ 1 % 256 = (d.load (2 * i + 1)).toNat := by
    rw [toNat_halfWord]
    omega
  rw [getByte, hmod, UInt8.ofNat_toNat]

/-- Half-words are equal when their bytes are. -/
theorem halfWord_eq_iff {d d' : SDevice} {i : ℕ} :
  d.halfWord i = d'.halfWord i
    ↔ d.load (2 * i) = d'.load (2 * i) ∧ d.load (2 * i + 1) = d'.load (2 * i + 1)
  := by
  constructor
  · intro h
    constructor
    · rw [← getByte_halfWord_zero, ← getByte_halfWord_zero, h]
    · rw [← getByte_halfWord_one, ← getByte_halfWord_one, h]
  · rintro ⟨hlo, hhi⟩
    rw [halfWord, halfWord, hlo, hhi]

/-- A record is determined by its half-words. -/
theorem ext_halfWord {d d' : SDevice} (h : ∀ i < deviceHalfWords, d.halfWord i = d'.halfWord i) :
  d = d'
  := by
  apply Block.ext_load
  intro j hj
  have hword := halfWord_eq_iff.mp (h (j / 2) (by simp only [deviceHalfWords]; omega))
  rcases Nat.mod_two_eq_zero_or_one j with heven | hodd
  · have hj2 : 2 * (j / 2) = j := by omega
    rw [hj2] at hword
    exact hword.1
  · have hj2 : 2 * (j / 2) + 1 = j := by omega
    rw [hj2] at hword
    exact hword.2

end SDevice

/-- The half-words of the record that is read are those of the flash. -/
theorem halfWord_stmflashReadDevice (f : Flash) {i : ℕ} (hi : i < deviceHalfWords) :
  (stmflashReadDevice f).halfWord i = f (paraBase + i)
  := by
  have hlt : 2 * i + 1 < 210 := by
    simp only [deviceHalfWords] at hi
    omega
  have hlo : Block.load (stmflashReadDevice f) (2 * i) = getByte (f (paraBase + i)).toNat 0 := by
    rw [Block.load_of_lt (by omega), stmflashReadDevice]
    dsimp only
    rw [show 2 * i / 2 = i by omega, show 2 * i % 2 = 0 by omega]
  have hhi : Block.load (stmflashReadDevice f) (2 * i + 1)
      = getByte (f (paraBase + i)).toNat 1 := by
    rw [Block.load_of_lt hlt, stmflashReadDevice]
    dsimp only
    rw [show (2 * i + 1) / 2 = i by omega, show (2 * i + 1) % 2 = 1 by omega]
  apply UInt16.toNat_inj.mp
  have hword := (f (paraBase + i)).toNat_lt
  rw [SDevice.toNat_halfWord, hlo, hhi]
  simp only [getByte, UInt8.toNat_ofNat']
  omega

/-! ### Writing -/

/-- Programming a run of half-words sets those that are erased. -/
theorem applyAll_stmflashWriteNoCheck (f : Flash) (a : ℕ) (buf : ℕ → UInt16) (n i : ℕ) :
  FlashOp.applyAll f (stmflashWriteNoCheck a buf n) i
    = if a ≤ i ∧ i < a + n ∧ f i = 0xFFFF then buf (i - a) else f i
  := by
  induction n with
  | zero =>
    rw [if_neg (by omega)]
    rfl
  | succ n ih =>
    have hlast : FlashOp.applyAll f (stmflashWriteNoCheck a buf (n + 1))
        = FlashOp.apply (FlashOp.applyAll f (stmflashWriteNoCheck a buf n))
          (.programHalfWord (a + n) (buf n)) := by
      simp only [FlashOp.applyAll, stmflashWriteNoCheck, List.range_succ, List.map_append,
        List.foldl_append]
      rfl
    rw [hlast, FlashOp.apply]
    dsimp only
    rw [ih]
    by_cases hi : i = a + n
    · subst hi
      have hnot : ¬ (a ≤ a + n ∧ a + n < a + n ∧ f (a + n) = 0xFFFF) := by omega
      rw [if_neg hnot, show a + n - a = n by omega]
      by_cases hf : f (a + n) = 0xFFFF
      · rw [if_pos ⟨rfl, hf⟩, if_pos ⟨by omega, by omega, hf⟩]
      · rw [if_neg (by tauto), if_neg (by tauto)]
    · have hiff : (a ≤ i ∧ i < a + (n + 1) ∧ f i = 0xFFFF)
          ↔ (a ≤ i ∧ i < a + n ∧ f i = 0xFFFF) := by
        constructor
        · rintro ⟨h1, h2, h3⟩
          exact ⟨h1, by omega, h3⟩
        · rintro ⟨h1, h2, h3⟩
          exact ⟨h1, by omega, h3⟩
      rw [if_neg (by tauto)]
      simp only [hiff]

/-- A sector that is erased and programmed whole holds what was in the buffer. -/
theorem applyAll_rewriteSector (f : Flash) (secpos : ℕ) (buf : ℕ → UInt16) :
  FlashOp.applyAll f (.erasePage secpos
      :: stmflashWriteNoCheck (secpos * sectorHalfWords) buf sectorHalfWords)
    = splice f (secpos * sectorHalfWords) buf sectorHalfWords
  := by
  funext i
  have hsector : i / sectorHalfWords = secpos
      ↔ secpos * sectorHalfWords ≤ i ∧ i < secpos * sectorHalfWords + sectorHalfWords := by
    simp only [sectorHalfWords]
    omega
  have herased : FlashOp.apply f (.erasePage secpos) i
      = if secpos * sectorHalfWords ≤ i ∧ i < secpos * sectorHalfWords + sectorHalfWords
        then 0xFFFF else f i := by
    rw [FlashOp.apply]
    simp only [hsector]
  rw [FlashOp.applyAll, List.foldl_cons, ← FlashOp.applyAll, applyAll_stmflashWriteNoCheck,
    herased, splice]
  by_cases hi : secpos * sectorHalfWords ≤ i ∧ i < secpos * sectorHalfWords + sectorHalfWords
  · rw [if_pos hi, if_pos ⟨hi.1, hi.2, rfl⟩, if_pos hi]
  · rw [if_neg hi, if_neg (by tauto), if_neg hi]

section Sector

variable {f : Flash} {secpos secoff secremain w : ℕ} {buf : ℕ → UInt16}

/-- A sector that is rewritten holds the run at its place. -/
theorem applyAll_rewritten (hfits : secoff + secremain ≤ sectorHalfWords)
    (hused : ∃ i < secremain, f (secpos * sectorHalfWords + (secoff + i)) ≠ 0xFFFF) :
  FlashOp.applyAll f (stmflashWriteSector f secpos secoff secremain w buf)
    = splice f (secpos * sectorHalfWords + secoff) buf secremain
  := by
  unfold stmflashWriteSector
  dsimp only
  rw [if_pos hused, applyAll_rewriteSector, eq_splice_iff]
  simp only [sectorHalfWords] at hfits ⊢
  constructor
  · intro i hi
    rw [Nat.add_assoc, splice_inside (by omega), if_pos ⟨by omega, by omega⟩,
      Nat.add_sub_cancel_left]
  · intro i hi
    rw [splice]
    split
    · rw [if_neg (by omega), Nat.add_sub_cancel' (by omega)]
    · rfl

/-- Where the run of the sector is erased, it is programmed from `WriteAddr` on. -/
theorem applyAll_programmed
    (hblank : ∀ i < secremain, f (secpos * sectorHalfWords + (secoff + i)) = 0xFFFF) :
  FlashOp.applyAll f (stmflashWriteSector f secpos secoff secremain w buf)
    = fun i => if w ≤ i ∧ i < w + secremain ∧ f i = 0xFFFF then buf (i - w) else f i
  := by
  have hnone : ¬ ∃ i < secremain, f (secpos * sectorHalfWords + (secoff + i)) ≠ 0xFFFF := by
    rintro ⟨i, hi, hne⟩
    exact hne (hblank i hi)
  unfold stmflashWriteSector
  dsimp only
  rw [if_neg hnone]
  funext i
  apply applyAll_stmflashWriteNoCheck

/-- The first sector is written at its place in any case. -/
theorem applyAll_firstSector (hfits : secoff + secremain ≤ sectorHalfWords) :
  FlashOp.applyAll f (stmflashWriteSector f secpos secoff secremain
      (secpos * sectorHalfWords + secoff) buf)
    = splice f (secpos * sectorHalfWords + secoff) buf secremain
  := by
  by_cases hused : ∃ i < secremain, f (secpos * sectorHalfWords + (secoff + i)) ≠ 0xFFFF
  · exact applyAll_rewritten hfits hused
  · have hblank : ∀ i < secremain, f (secpos * sectorHalfWords + (secoff + i)) = 0xFFFF := by
      intro i hi
      by_contra hne
      exact hused ⟨i, hi, hne⟩
    rw [applyAll_programmed hblank]
    funext i
    rw [splice]
    by_cases hi : secpos * sectorHalfWords + secoff ≤ i
        ∧ i < secpos * sectorHalfWords + secoff + secremain
    · have hword : f i = 0xFFFF := by
        rw [← hblank (i - (secpos * sectorHalfWords + secoff)) (by omega), ← Nat.add_assoc,
          Nat.add_sub_cancel' hi.1]
      rw [if_pos ⟨hi.1, hi.2, hword⟩, if_pos hi]
    · rw [if_neg (by tauto), if_neg hi]

end Sector

/-- `SaveData` writes within one sector: it rewrites the sector, or programs the erased
half-words of the record. -/
theorem saveDataOps_eq (f : Flash) (d : SDevice) :
  saveDataOps f d
    = if ∃ i < deviceHalfWords, f (paraBase + i) ≠ 0xFFFF then
        .erasePage (paraBase / sectorHalfWords) :: stmflashWriteNoCheck paraBase
          (fun i => if i < deviceHalfWords then d.halfWord i else f (paraBase + i))
          sectorHalfWords
      else stmflashWriteNoCheck paraBase d.halfWord deviceHalfWords
  := by
  unfold saveDataOps stmflashWrite stmflashWriteLoop stmflashWriteSector
  simp
  congr

/-- Both paths leave the record in its block. -/
theorem applyAll_saveDataOps_eq (f : Flash) (d : SDevice) :
  FlashOp.applyAll f (saveDataOps f d) = splice f paraBase d.halfWord deviceHalfWords
  := by
  have hround : saveDataOps f d = stmflashWriteSector f (paraBase / sectorHalfWords) 0
      deviceHalfWords (paraBase / sectorHalfWords * sectorHalfWords + 0) d.halfWord := by
    unfold saveDataOps stmflashWrite stmflashWriteLoop
    simp
  rw [hround, applyAll_firstSector (by decide)]
  rfl

/-- What `SaveData` stores is what is read back. -/
theorem stmflashReadDevice_saveDataOps (f : Flash) (d : SDevice) :
  stmflashReadDevice (FlashOp.applyAll f (saveDataOps f d)) = d
  := by
  apply SDevice.ext_halfWord
  intro i hi
  rw [halfWord_stmflashReadDevice _ hi, applyAll_saveDataOps_eq, splice_inside hi]

end UhfReader
