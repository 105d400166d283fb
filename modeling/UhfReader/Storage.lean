import UhfReader.Crash

/-!
# The stored parameters

`SaveData` writes the record over whatever the flash holds: over an erased block it programs
the record, otherwise it erases the sector and programs it whole, with the record in place of
the old one.  Either way the flash ends up as `storedImage`.  The next start finds the record
again, and where it finds none it stores the factory settings.
-/

open Memory

namespace UhfReader

/-- The half-words of the flash that hold the record. -/
def ParaBlock (a : ℕ) : Prop := paraBase ≤ a ∧ a < paraBase + deviceHalfWords

instance (a : ℕ) : Decidable (ParaBlock a) := inferInstanceAs (Decidable (_ ∧ _))

/-- The flash with a record in the parameter block. -/
def storedImage (f : Flash) (d : SDevice) : Flash :=
  fun a => if ParaBlock a then d.halfWord (a - paraBase) else f a

/-- Both paths of `SaveData` leave the same image. -/
theorem applyAll_saveDataOps (f : Flash) (d : SDevice) :
  FlashOp.applyAll f (saveDataOps f d) = storedImage f d
  :=
  applyAll_saveDataOps_eq f d

/-- The record that a stored image holds. -/
theorem stmflashReadDevice_storedImage (f : Flash) (d : SDevice) :
  stmflashReadDevice (storedImage f d) = d
  := by
  rw [← applyAll_saveDataOps, stmflashReadDevice_saveDataOps]

/-- The record and the image that `SaveData` leaves. -/
theorem saveDataTo_eq (f : Flash) (d : SDevice) :
  saveDataTo f d = (d.setWorkFlag, storedImage f d.setWorkFlag)
  := by
  rw [saveDataTo, applyAll_saveDataOps]

/-- A start on a stored record changes nothing in the flash. -/
theorem readPara_of_flagged_flash {f : Flash} (h : (stmflashReadDevice f).Flagged) :
  (readPara f).2 = f
  := by
  unfold readPara
  dsimp only
  rw [if_pos h]

/-- A start without a stored record stores the factory settings. -/
theorem readPara_of_not_flagged_flash {f : Flash} (h : ¬ (stmflashReadDevice f).Flagged) :
  (readPara f).2 = storedImage f defaultPara.setWorkFlag
  := by
  unfold readPara
  dsimp only
  rw [if_neg h, saveDataTo_eq]

/-- The factory settings already have the version of the software. -/
theorem setVersion_defaultPara :
  defaultPara.setWorkFlag.setVersion = defaultPara.setWorkFlag
  := by
  decide +kernel

/-- The first word of the parameter block is `WORK_FLAG`. -/
def FlagStored (f : Flash) : Prop := f paraBase = 0x5a22 ∧ f (paraBase + 1) = 0x5a5a

theorem flagged_stmflashReadDevice_iff (f : Flash) :
  (stmflashReadDevice f).Flagged ↔ FlagStored f
  := by
  rw [SDevice.flagged_iff, halfWord_stmflashReadDevice f (by decide),
    halfWord_stmflashReadDevice f (by decide), FlagStored, Nat.add_zero]

/-- `SaveData` and a restart give the record back, with `Flag` and the version set, whatever
the flash held before, and leave the rest of the flash alone.  A start on a flash without
`WORK_FLAG` ends with the factory settings in memory and in the flash. -/
theorem storage_round_trip :
  (∀ (d : SDevice) (f : Flash),
      (readPara (saveDataTo f d).2).1 = d.setWorkFlag.setVersion
      ∧ (readPara (saveDataTo f d).2).2 = (saveDataTo f d).2
      ∧ ∀ a, ¬ ParaBlock a → (saveDataTo f d).2 a = f a)
    ∧ ∀ f : Flash, ¬ FlagStored f →
        (readPara f).1 = defaultPara.setWorkFlag
        ∧ stmflashReadDevice (readPara f).2 = defaultPara.setWorkFlag
        ∧ ∀ a, ¬ ParaBlock a → (readPara f).2 a = f a
  := by
  constructor
  · intro d f
    have hread : stmflashReadDevice (saveDataTo f d).2 = d.setWorkFlag := by
      rw [saveDataTo_eq, stmflashReadDevice_storedImage]
    have hflag : (stmflashReadDevice (saveDataTo f d).2).Flagged := by
      rw [hread]
      apply SDevice.flagged_setWorkFlag
    refine ⟨?_, readPara_of_flagged_flash hflag, ?_⟩
    · rw [readPara_of_flagged hflag, hread]
    · intro a ha
      rw [saveDataTo_eq]
      exact if_neg ha
  · intro f hf
    rw [← flagged_stmflashReadDevice_iff] at hf
    refine ⟨?_, ?_, ?_⟩
    · rw [readPara_of_not_flagged hf, setVersion_defaultPara]
    · rw [readPara_of_not_flagged_flash hf, stmflashReadDevice_storedImage]
    · intro a ha
      rw [readPara_of_not_flagged_flash hf]
      exact if_neg ha

/-- A set output power is found again by a start on a flash that was erased. -/
theorem storage_round_trip_power :
  let d : SDevice := defaultPara.put Offset.outputPower 30
  (readPara (saveDataTo (fun _ => 0xFFFF) d).2).1 = d.setWorkFlag.setVersion
    ∧ (readPara fun _ => 0xFFFF).1 = defaultPara.setWorkFlag
  := by
  intro d
  have hround := storage_round_trip
  refine ⟨(hround.1 d _).1, (hround.2 (fun _ => 0xFFFF) ?_).1⟩
  intro h
  exact absurd h.1 (by decide)

end UhfReader
