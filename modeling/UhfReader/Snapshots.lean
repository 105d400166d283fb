import UhfReader.Judge

/-!
# Snapshots

With the `CallPCType` 0, and with 1 when `OutPutTimer` has expired, `judgeTag` keeps a copy of the
tags just read.  Rows without a valid length are left out of the count, but each other row is
copied to the place that it has in `CardIndex`, so that a row left out leaves a gap in which the
row of an earlier call remains.
-/

open Memory

namespace UhfReader

namespace Globals

/-- `judgeTag` takes a snapshot of the tags just read. -/
def Snapshot (g : Globals) : Prop :=
  g.gDevice.load Offset.callPCType = 0
    ∨ g.gDevice.load Offset.callPCType = 1 ∧ g.outPutTimer.isOverflow ≠ 0

/-- The rows kept, `TagSaveBuf[0..TagSaveCount)`. -/
def savedRows (g : Globals) : List Row := (List.range g.tagSaveCount).map g.tagSaveBuf

/-- After `judgeTag` the rows kept are those just read that are considered, in their order, unless
there are none and a message without tags is due. -/
def ReportsBatch (g : Globals) : Prop :=
  (judgeTag g).2.savedRows = g.validRows ∨ g.validRows = [] ∧ (judgeTag g).1 = 222

/-- No row that is left out comes before one that is considered. -/
def ValidFirst (g : Globals) : Prop :=
  ∀ i j, i < j → j < g.cardPos → (g.cardIndex j).Valid → (g.cardIndex i).Valid

/-- The rows that are considered are found at the first places: each at the place in `CardIndex`
that is its number among them or, when the row there is left out, in the same row of
`TagSaveBuf`. -/
def InPlace (g : Globals) : Prop :=
  ∀ i (h : i < g.validRows.length),
    g.validRows[i] = if (g.cardIndex i).Valid then g.cardIndex i else g.tagSaveBuf i

theorem length_validRows_le (g : Globals) :
  g.validRows.length ≤ g.cardPos
  := by
  have hle := List.length_filter_le (fun row : Row => decide row.Valid)
    ((List.range g.cardPos).map g.cardIndex)
  rw [List.length_map, List.length_range] at hle
  exact hle

/-- When no row is left out before a valid one, the valid ones are the first rows. -/
theorem ValidFirst.validRows_eq {g : Globals} (h : g.ValidFirst) :
  ∃ n ≤ g.cardPos, (∀ j < n, (g.cardIndex j).Valid) ∧ g.validRows = (List.range n).map g.cardIndex
  := by
  unfold ValidFirst at h
  unfold validRows
  generalize g.cardPos = pos at h ⊢
  induction pos with
  | zero =>
    use 0
    exact ⟨le_rfl, fun j hj => absurd hj (Nat.not_lt_zero j), rfl⟩
  | succ pos ih =>
    obtain ⟨n, hle, hvalid, hrows⟩ := ih fun i j hij hj => h i j hij (by omega)
    rw [List.range_succ, List.map_append, List.filter_append, hrows, List.map_singleton,
      List.filter_singleton]
    by_cases hlast : (g.cardIndex pos).Valid
    · -- all rows up to this one are valid
      have hall : ∀ j < pos + 1, (g.cardIndex j).Valid := by
        intro j hj
        obtain hlt | rfl := Nat.lt_succ_iff_lt_or_eq.mp hj
        · exact h j pos hlt (Nat.lt_succ_self pos) hlast
        · exact hlast
      have hfilter : ((List.range pos).map g.cardIndex).filter (·.Valid)
          = (List.range pos).map g.cardIndex := by
        apply List.filter_eq_self.mpr
        intro row hrow
        obtain ⟨j, hj, rfl⟩ := List.mem_map.mp hrow
        exact decide_eq_true (hall j (Nat.lt_succ_of_lt (List.mem_range.mp hj)))
      use pos + 1
      refine ⟨le_rfl, hall, ?_⟩
      rw [← hrows, hfilter, decide_eq_true hlast, cond_true, List.range_succ, List.map_append,
        List.map_singleton]
    · use n
      refine ⟨by omega, hvalid, ?_⟩
      rw [decide_eq_false hlast, cond_false, List.append_nil]

/-- Valid rows that come first are found at the first places. -/
theorem ValidFirst.inPlace {g : Globals} (h : g.ValidFirst) :
  g.InPlace
  := by
  obtain ⟨n, -, hvalid, hrows⟩ := h.validRows_eq
  intro i hi
  have hlt : i < n := by
    rw [hrows, List.length_map, List.length_range] at hi
    exact hi
  rw [if_pos (hvalid i hlt)]
  simp only [hrows, List.getElem_map, List.getElem_range]

/-- A copy holds the rows that are considered if and only if they are found at the first
places. -/
theorem savedRows_copyTags_iff (g : Globals) :
  g.copyTags.savedRows = g.validRows ↔ g.InPlace
  := by
  rw [copyTags_eq]
  unfold savedRows InPlace
  dsimp only
  -- a row among the first ones is one of those just read
  have hrow : ∀ i < g.validRows.length,
      (if i < g.cardPos ∧ (g.cardIndex i).Valid then g.cardIndex i else g.tagSaveBuf i)
        = if (g.cardIndex i).Valid then g.cardIndex i else g.tagSaveBuf i := by
    intro i hi
    have hlt := hi.trans_le g.length_validRows_le
    simp only [hlt, true_and]
  constructor
  · intro h i hi
    rw [← hrow i hi]
    have hget := List.getElem_of_eq h.symm hi
    rw [hget, List.getElem_map, List.getElem_range]
  · intro h
    apply List.ext_getElem
    · rw [List.length_map, List.length_range]
    · intro i _ hi
      rw [List.getElem_map, List.getElem_range, hrow i hi]
      exact (h i hi).symm

end Globals

/-- A snapshot is the copy of the tags just read, unless a message without tags is due. -/
theorem judgeTag_snapshot {g : Globals} (h : g.Snapshot) :
  (judgeTag g).2.savedRows = g.copyTags.savedRows
    ∨ g.validRows = [] ∧ (judgeTag g).1 = 222
  := by
  unfold judgeTag
  obtain hzero | ⟨hone, hoverflow⟩ := h
  · left
    rw [if_pos hzero]
  · rw [if_neg (by rw [hone]; decide), if_pos hone, if_neg hoverflow]
    dsimp only
    split
    · rename_i hempty
      right
      rw [copyTags_eq] at hempty
      exact ⟨List.length_eq_zero_iff.mp hempty.1, rfl⟩
    · left
      simp only [copyTags_eq]
      rfl

/-- A snapshot reports the tags just read, in their order, if and only if those that are considered
are found at the first places. -/
theorem snapshot_iff (g : Globals) (h : g.Snapshot) :
  g.ReportsBatch ↔ g.InPlace
  := by
  unfold Globals.ReportsBatch
  constructor
  · rintro (hsaved | ⟨hempty, -⟩)
    · obtain hcopy | ⟨hempty, -⟩ := judgeTag_snapshot h
      · exact g.savedRows_copyTags_iff.mp (hcopy.symm.trans hsaved)
      · intro i hi
        rw [hempty] at hi
        cases hi
    · intro i hi
      rw [hempty] at hi
      cases hi
  · intro hplace
    obtain hcopy | hempty := judgeTag_snapshot h
    · left
      exact hcopy.trans (g.savedRows_copyTags_iff.mpr hplace)
    · exact .inr hempty

/-- A reader that has just read the given rows, with the `CallPCType` 0. -/
def batchOf (rows : List Row) : Globals :=
  { (powerOn .blank).toGlobals with
    gDevice := Block.zero 210
    cardIndex := fun k => rows.getD k (Block.zero 39)
    cardPos := rows.length }

/-- Two valid rows are reported. -/
theorem snapshot_two :
  (batchOf [tagRow 1, tagRow 2]).ReportsBatch
  := by
  apply (snapshot_iff _ (.inl rfl)).mpr
  apply Globals.ValidFirst.inPlace
  intro i j hij hj _
  have hi : i < 1 := by
    have hlt : j < 2 := hj
    omega
  obtain rfl := Nat.lt_one_iff.mp hi
  decide

/-- A row without a length comes before a valid one: in place of the tag, one row is reported that
is none. -/
theorem snapshot_gap :
  (batchOf [Block.zero 39, tagRow 1]).Snapshot
    ∧ (batchOf [Block.zero 39, tagRow 1]).cardPos ≤ maxNum
    ∧ ¬ (batchOf [Block.zero 39, tagRow 1]).ReportsBatch
  := by
  refine ⟨.inl rfl, by decide, ?_⟩
  rintro (hsaved | ⟨hempty, -⟩)
  · have hlengths := congrArg (List.map fun row : Row => row.load 0) hsaved
    exact absurd hlengths (by decide +kernel)
  · exact absurd (congrArg List.length hempty) (by decide +kernel)

end UhfReader
