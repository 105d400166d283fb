import UhfReader.Active
import UhfReader.Lib.Stateful
import UhfReader.Snapshots

/-!
# Output of active mode

`sendDataOut` first decides whether anything is to be sent, and then sends a record for each row of
`TagSaveBuf[0..TagSaveCount)`.  When `OutPutTimer` has expired and `CallPCEnable` is set, a record
with an empty identifier is due, as a sign of life.  It is prepared by `chk = 222`, with which the
loops that send the rows leave out all identifiers.
-/

open Memory Stateful

namespace UhfReader

/-! ### Records -/

/-- The identifier in a row. -/
def Row.id (row : Row) : List UInt8 := (Mem.shift row.load 1).take (2 * (row.load 0).toNat)

/-- The rows are sent as text: to RS485, or to RS232 or RJ45 in the simple or the standard
format. -/
def SDevice.textOutput (d : SDevice) : Prop :=
  d.load Offset.cardOutModule = 1
    ∨ (d.load Offset.cardOutModule = 0 ∨ d.load Offset.cardOutModule = 2)
      ∧ (d.load Offset.outputDataType = 0 ∨ d.load Offset.outputDataType = 1)

instance (d : SDevice) : Decidable d.textOutput := inferInstanceAs (Decidable (_ ∨ _))

/-- The identifier of the record that is sent for a row, if there is one. -/
def rowRecord (chk : ℕ) (row : Row) : Option (List UInt8) :=
  if chk = 222 then some [] else if row.Valid then some row.id else none

/-- A sign of life has an empty record for each row. -/
theorem rowRecords_empty (n : ℕ) (rows : ℕ → Row) :
  (List.range n).filterMap (fun i => rowRecord 222 (rows i)) = List.replicate n []
  := by
  have hmap : (List.range n).filterMap (fun i => rowRecord 222 (rows i))
      = (List.range n).map fun _ => [] :=
    List.filterMap_eq_map_iff_forall_eq_some.mpr fun i _ => if_pos rfl
  rw [hmap, List.map_const', List.length_range]

/-- The identifiers of the records that are sent. -/
def outputRecords (chk : ℕ) (g : Globals) : List (List UInt8) :=
  if g.gDevice.textOutput then
    (List.range g.tagSaveCount).filterMap fun i => rowRecord chk (g.tagSaveBuf i)
  else []

/-! ### The decision -/

namespace Globals

/-- `CallPCType` is `1` for the Wiegand outputs. -/
def wiegandType (g : Globals) : Globals :=
  if g.gDevice.wiegand then { g with gDevice := g.gDevice.put Offset.callPCType 1 } else g

/-- `timerStart(&OutPutTimer, …)` -/
def startOutPutTimer (g : Globals) : Globals :=
  { g with outPutTimer := g.outPutTimer.start (outPutTime g.gDevice) }

@[simp]
theorem startOutPutTimer_gDevice (g : Globals) :
  g.startOutPutTimer.gDevice = g.gDevice
  := rfl

@[simp]
theorem startOutPutTimer_savedRows (g : Globals) :
  g.startOutPutTimer.savedRows = g.savedRows
  := rfl

/-- `chk` and the globals when `sendDataOut` has decided. -/
def decision (g : Globals) : ℕ × Globals :=
  let checked := checkOutput g.wiegandType
  if checked.1 = 1 then judgeOutput checked.2 else checked

/-- The identifiers of the records that `sendDataOut` sends. -/
def sentRecords (g : Globals) : List (List UInt8) :=
  if g.decision.1 ≠ 0 then outputRecords g.decision.1 g.decision.2.startOutPutTimer else []

end Globals

/-- `sendDataOut` sends the rows when the decision is to do so. -/
theorem sendDataOut_eq (output : ℕ → M Unit) (g : Globals) :
  let restore : M Unit := modify fun g' => { g' with
    gDevice := g'.gDevice.put Offset.callPCType (g.gDevice.load Offset.callPCType) }
  sendDataOut output g
    = if g.decision.1 ≠ 0 then
        (do output g.decision.1
            modify fun g => { g with readCount := 0 }
            restore : M Unit) g.decision.2.startOutPutTimer
      else restore g.decision.2
  := by
  intro restore
  have hrest : ∀ (chk : ℕ) (g' : Globals),
      (do
        if chk ≠ 0 then
          modify Globals.startOutPutTimer
          output chk
          modify fun g => { g with readCount := 0 }
        restore : M Unit) g'
        = if chk ≠ 0 then
            (do output chk
                modify fun g => { g with readCount := 0 }
                restore : M Unit) g'.startOutPutTimer
          else restore g' := by
    intro chk g'
    by_cases hchk : chk ≠ 0
    · rw [if_pos hchk, if_pos hchk]
      rfl
    · rw [if_neg hchk, if_neg hchk]
  have hjudged : sendDataOut output g
      = (do
          let chk ← if (checkOutput g.wiegandType).1 = 1 then modifyGet judgeOutput
            else pure (checkOutput g.wiegandType).1
          if chk ≠ 0 then
            modify Globals.startOutPutTimer
            output chk
            modify fun g => { g with readCount := 0 }
          restore : M Unit) (checkOutput g.wiegandType).2 := rfl
  rw [hjudged, Globals.decision]
  generalize checkOutput g.wiegandType = checked
  obtain ⟨chk, g'⟩ := checked
  by_cases hone : chk = 1
  · simp only [if_pos hone]
    exact hrest (judgeOutput g').1 (judgeOutput g').2
  · simp only [if_neg hone]
    exact hrest chk g'

/-! ### The sign of life -/

namespace Globals

/-- Tags that were read wait to be sent. -/
def Pending (g : Globals) : Prop := g.cardPos > 0 ∧ g.readCount > 0

/-- `OutPutTimer` has expired. -/
def Due (g : Globals) : Prop := g.outPutTimer.isOverflow ≠ 0

instance (g : Globals) : Decidable g.Pending := inferInstanceAs (Decidable (_ ∧ _))

instance (g : Globals) : Decidable g.Due := inferInstanceAs (Decidable (_ ≠ _))

/-- `CallPCType` is `0`, `CallPCEnable` is set, and the output is RS232, RS485 or RJ45. -/
structure SignsOfLife (g : Globals) : Prop where
  type : g.gDevice.load Offset.callPCType = 0
  enable : g.gDevice.load Offset.callPCEnable ≠ 0
  output : g.gDevice.load Offset.cardOutModule = 0 ∨ g.gDevice.load Offset.cardOutModule = 1
    ∨ g.gDevice.load Offset.cardOutModule = 2

/-- When tags are pending, a record is sent for each row that is considered, and when none are and
the timer has expired, one record with an empty identifier. -/
def SendsRecords (g : Globals) : Prop :=
  (g.Pending → g.sentRecords = g.validRows.map Row.id)
    ∧ (¬ g.Pending → g.Due → g.sentRecords = [[]])

/-- The rows that are considered have the tags that are found at the first places, as in
`InPlace`. -/
def TagsInPlace (g : Globals) : Prop :=
  ∀ i (h : i < g.validRows.length),
    Row.tag g.validRows[i]
      = Row.tag (if (g.cardIndex i).Valid then g.cardIndex i else g.tagSaveBuf i)

/-- The records are right: when the timer has expired, no row waits for a record, and as many rows
as empty records are due were kept at the last call; when it has not, the rows are found at the
first places, and they are not as many as `chk` has for a sign of life. -/
def RecordsFit (g : Globals) : Prop :=
  if g.Due then
    if g.Pending then g.validRows = [] ∧ (g.tagSaveCount = 0 ∨ ¬ g.gDevice.textOutput)
    else g.tagSaveCount = 1 ∧ g.gDevice.textOutput
  else
    g.Pending → g.validRows = []
      ∨ g.validRows.length ≠ 222 ∧ g.TagsInPlace ∧ g.gDevice.textOutput

/-- Rows that are found at the first places have their tags. -/
theorem InPlace.tagsInPlace {g : Globals} (h : g.InPlace) :
  g.TagsInPlace
  := by
  intro i hi
  rw [h i hi]

namespace SignsOfLife

variable {g : Globals}

theorem not_wiegand (h : g.SignsOfLife) :
  g.gDevice.wiegand = false
  := by
  unfold SDevice.wiegand
  obtain hout | hout | hout := h.output
  · rw [hout]
    decide
  · rw [hout]
    decide
  · rw [hout]
    decide

/-- What is checked first. -/
theorem checkOutput_eq (h : g.SignsOfLife) :
  checkOutput g.wiegandType
    = if g.Due then (222, { g with outPutTimer.isOverflow := 0, cardPos := 1, readCount := 0 })
      else (if g.Pending then 1 else 0, g)
  := by
  unfold wiegandType
  rw [h.not_wiegand, if_neg Bool.false_ne_true]
  unfold checkOutput
  dsimp only
  rw [h.type, if_neg (by decide), if_pos h.enable, h.not_wiegand, if_neg Bool.false_ne_true]
  rfl

/-- When the timer has expired, a sign of life is sent, whether tags are pending or not. -/
theorem decision_due (h : g.SignsOfLife) (hdue : g.Due) :
  g.decision = (222, { g with outPutTimer.isOverflow := 0, cardPos := 1, readCount := 0 })
  := by
  unfold decision
  rw [h.checkOutput_eq, if_pos hdue]
  rfl

/-- When it has not, pending tags are judged. -/
theorem decision_pending (h : g.SignsOfLife) (hdue : ¬ g.Due) (hpending : g.Pending) :
  g.decision = (g.validRows.length, { g.copyTags with cardPos := 0 })
  := by
  have hjudge : judgeTag g = (g.validRows.length, g.copyTags) := by
    unfold judgeTag
    rw [if_pos h.type, copyTags_eq]
  unfold decision
  rw [h.checkOutput_eq, if_neg hdue, if_pos hpending, if_pos rfl]
  unfold judgeOutput
  rw [hjudge]
  dsimp only
  rw [if_neg]
  rintro ⟨-, -, hoverflow⟩
  rw [copyTags_eq] at hoverflow
  exact hdue hoverflow

/-- A sign of life has as many empty records as rows were kept. -/
theorem sentRecords_due (h : g.SignsOfLife) (hdue : g.Due) :
  g.sentRecords = if g.gDevice.textOutput then List.replicate g.tagSaveCount [] else []
  := by
  unfold sentRecords
  rw [h.decision_due hdue, if_pos (Nat.succ_ne_zero 221)]
  unfold outputRecords
  rw [← rowRecords_empty g.tagSaveCount g.tagSaveBuf]
  rfl

end SignsOfLife

end Globals

/-! ### The records of copied rows -/

/-- The tag in a row is its length and its identifier. -/
theorem Row.tag_eq (row : Row) :
  row.tag = row.load 0 :: row.id
  := by
  unfold Row.tag Row.id Mem.take
  rw [List.range_succ_eq_map, List.map_cons, List.map_map]
  congr 1
  apply List.map_congr_left
  intro k _
  exact congrArg row.load (Nat.add_comm k 1)

/-- A valid row has an identifier. -/
theorem Row.id_ne_nil {row : Row} (h : row.Valid) :
  row.id ≠ []
  := by
  intro hnil
  have hlength := congrArg List.length hnil
  unfold Row.id at hlength
  rw [Mem.length_take] at hlength
  apply h.2
  exact UInt8.toNat_inj.mp (by simpa using hlength)

/-- The record for a row is that of a valid one if and only if the rows have the same tag. -/
theorem rowRecord_eq_iff {n : ℕ} (hn : n ≠ 222) (row : Row) {row' : Row} (h : row'.Valid) :
  rowRecord n row = some row'.id ↔ row'.tag = row.tag
  := by
  unfold rowRecord
  rw [if_neg hn]
  by_cases hvalid : row.Valid
  · rw [if_pos hvalid, Option.some_inj]
    constructor
    · intro hid
      -- the identifiers have the same number of bytes
      have hlength := congrArg List.length hid
      unfold Row.id at hlength
      rw [Mem.length_take, Mem.length_take] at hlength
      have hzero : row.load 0 = row'.load 0 := UInt8.toNat_inj.mp (by omega)
      rw [Row.tag_eq row, Row.tag_eq row', hid, hzero]
    · intro htag
      rw [Row.tag_eq row, Row.tag_eq row'] at htag
      exact (List.cons.inj htag).2.symm
  · rw [if_neg hvalid]
    constructor
    · intro hnone
      cases hnone
    · intro htag
      refine absurd ?_ hvalid
      unfold Row.Valid at h ⊢
      rw [← Row.load_of_tag_eq htag]
      exact h

namespace Globals

/-- The rows that are considered are valid. -/
theorem valid_of_mem_validRows {g : Globals} {row : Row} (h : row ∈ g.validRows) :
  row.Valid
  := of_decide_eq_true (List.mem_filter.mp h).2

/-- Only rows that are not considered have empty identifiers. -/
theorem validRows_eq_nil (g : Globals) (h : ∀ id ∈ g.validRows.map Row.id, id = []) :
  g.validRows = []
  := by
  apply List.eq_nil_iff_forall_not_mem.mpr
  intro row hrow
  apply Row.id_ne_nil (valid_of_mem_validRows hrow)
  exact h row.id (List.mem_map_of_mem hrow)

/-- The copied rows give the records of the rows just read if and only if these are found at the
first places. -/
theorem copied_records_iff (g : Globals) (hcount : g.validRows.length ≠ 222) :
  (List.range g.copyTags.tagSaveCount).filterMap
      (fun i => rowRecord g.validRows.length (g.copyTags.tagSaveBuf i))
    = g.validRows.map Row.id ↔ g.TagsInPlace
  := by
  have hmap : g.validRows.map Row.id
      = (List.range g.validRows.length).map
        fun i => Row.id (g.validRows.getD i (Block.zero 39)) := by
    apply List.ext_getElem
    · rw [List.length_map, List.length_map, List.length_range]
    · intro i hi _
      rw [List.length_map] at hi
      simp only [List.getElem_map, List.getElem_range, List.getD_eq_getElem _ _ hi]
  rw [copyTags_eq]
  dsimp only
  rw [hmap, List.filterMap_eq_map_iff_forall_eq_some]
  unfold TagsInPlace
  apply forall_congr'
  intro i
  rw [List.mem_range]
  apply forall_congr'
  intro hi
  have hvalid : Row.Valid g.validRows[i] := valid_of_mem_validRows (List.getElem_mem hi)
  have hlt : i < g.cardPos := hi.trans_le g.length_validRows_le
  rw [List.getD_eq_getElem _ _ hi]
  simp only [hlt, true_and]
  exact rowRecord_eq_iff hcount _ hvalid

namespace SignsOfLife

variable {g : Globals}

/-- As long as the timer has not expired, the records are those of the copied rows. -/
theorem sentRecords_pending (h : g.SignsOfLife) (hdue : ¬ g.Due) (hpending : g.Pending) :
  g.sentRecords = if g.validRows ≠ [] ∧ g.gDevice.textOutput then
      (List.range g.copyTags.tagSaveCount).filterMap
        fun i => rowRecord g.validRows.length (g.copyTags.tagSaveBuf i)
    else []
  := by
  unfold sentRecords
  rw [h.decision_pending hdue hpending]
  dsimp only
  by_cases hempty : g.validRows = []
  · rw [hempty, if_neg (fun hne => hne rfl), if_neg (fun hand => hand.1 rfl)]
  · rw [if_pos (fun hlength => hempty (List.length_eq_zero_iff.mp hlength))]
    simp only [ne_eq, hempty, not_false_eq_true, true_and]
    unfold outputRecords
    rw [copyTags_eq]
    rfl

/-- When the timer has expired, the records are right if and only if no row waits for one, or a
single row was kept at the last call. -/
theorem sendsRecords_due_iff (h : g.SignsOfLife) (hdue : g.Due) :
  g.SendsRecords ↔
    if g.Pending then g.validRows = [] ∧ (g.tagSaveCount = 0 ∨ ¬ g.gDevice.textOutput)
    else g.tagSaveCount = 1 ∧ g.gDevice.textOutput
  := by
  unfold SendsRecords
  rw [h.sentRecords_due hdue]
  by_cases hpending : g.Pending
  · rw [if_pos hpending]
    simp only [hpending, not_true_eq_false, true_implies, false_implies, and_true]
    constructor
    · intro hrecords
      have hempty : g.validRows = [] := by
        apply g.validRows_eq_nil
        intro id hid
        rw [← hrecords] at hid
        split at hid
        · exact List.eq_of_mem_replicate hid
        · cases hid
      refine ⟨hempty, ?_⟩
      rw [hempty, List.map_nil] at hrecords
      by_cases htext : g.gDevice.textOutput
      · rw [if_pos htext] at hrecords
        exact .inl ((List.replicate_eq_nil_iff _).mp hrecords)
      · exact .inr htext
    · rintro ⟨hempty, hnone⟩
      rw [hempty, List.map_nil]
      obtain hzero | htext := hnone
      · rw [hzero, List.replicate_zero, ite_self]
      · rw [if_neg htext]
  · rw [if_neg hpending]
    simp only [hpending, not_false_eq_true, true_implies, false_implies, true_and, hdue]
    constructor
    · intro hrecords
      by_cases htext : g.gDevice.textOutput
      · rw [if_pos htext] at hrecords
        have hlength := congrArg List.length hrecords
        rw [List.length_replicate] at hlength
        exact ⟨hlength, htext⟩
      · rw [if_neg htext] at hrecords
        cases hrecords
    · rintro ⟨hone, htext⟩
      rw [if_pos htext, hone, List.replicate_one]

/-- As long as the timer has not expired, the records are right if and only if the copied rows
give them. -/
theorem sendsRecords_pending_iff (h : g.SignsOfLife) (hdue : ¬ g.Due) :
  g.SendsRecords ↔ (g.Pending → g.validRows = []
    ∨ g.validRows.length ≠ 222 ∧ g.TagsInPlace ∧ g.gDevice.textOutput)
  := by
  unfold SendsRecords
  simp only [hdue, false_implies, implies_true, and_true]
  apply forall_congr'
  intro hpending
  rw [h.sentRecords_pending hdue hpending]
  by_cases hempty : g.validRows = []
  · simp only [hempty, ne_eq, not_true_eq_false, false_and, if_false, List.map_nil, true_or]
  · simp only [hempty, ne_eq, not_false_eq_true, true_and, false_or]
    have hne : g.validRows.map Row.id ≠ [] := fun hmap => hempty (List.map_eq_nil_iff.mp hmap)
    by_cases htext : g.gDevice.textOutput
    · simp only [htext, if_true, and_true]
      by_cases hcount : g.validRows.length = 222
      · simp only [hcount, not_true_eq_false, false_and, iff_false]
        intro hrecords
        refine absurd (g.validRows_eq_nil ?_) hempty
        intro id hid
        rw [← hrecords, rowRecords_empty] at hid
        exact List.eq_of_mem_replicate hid
      · simp only [hcount, not_false_eq_true, true_and]
        exact g.copied_records_iff hcount
    · simp only [htext, if_false, and_false, iff_false]
      exact fun hrecords => hne hrecords.symm

end SignsOfLife

/-- A call of `sendDataOut` sends a record for each row that waits for one, and a sign of life when
none does and the timer has expired, if and only if these rows fit. -/
theorem records_iff (g : Globals) (h : g.SignsOfLife) :
  g.SendsRecords ↔ g.RecordsFit
  := by
  unfold RecordsFit
  by_cases hdue : g.Due
  · rw [if_pos hdue]
    exact h.sendsRecords_due_iff hdue
  · rw [if_neg hdue]
    exact h.sendsRecords_pending_iff hdue

end Globals

/-- A reader with `CallPCEnable` set that has just read the given rows. -/
def callingReader (rows : List Row) : Globals :=
  { batchOf rows with
    gDevice := (Block.zero 210).put Offset.callPCEnable 1
    readCount := 1 }

theorem callingReader_signsOfLife (rows : List Row) :
  (callingReader rows).SignsOfLife
  := by
  have hload : ∀ k, (callingReader rows).gDevice.load k
      = ((Block.zero 210).put Offset.callPCEnable 1).load k := fun _ => rfl
  constructor
  · rw [hload]
    decide
  · rw [hload]
    decide
  · rw [hload]
    decide

/-- Two tags are sent. -/
theorem records_two :
  (callingReader [tagRow 1, tagRow 2]).Pending
    ∧ (callingReader [tagRow 1, tagRow 2]).SendsRecords
  := by
  refine ⟨by decide, ?_⟩
  apply (Globals.records_iff _ (callingReader_signsOfLife _)).mpr
  unfold Globals.RecordsFit
  rw [if_neg (by decide +kernel)]
  intro _
  right
  refine ⟨by decide +kernel, ?_, by decide +kernel⟩
  apply Globals.InPlace.tagsInPlace
  apply Globals.ValidFirst.inPlace
  intro i j hij hj _
  have hi : i < 1 := by
    have hlt : j < 2 := hj
    omega
  obtain rfl := Nat.lt_one_iff.mp hi
  decide

/-- The reader when its timer has expired. -/
def expiredReader (rows : List Row) : Globals :=
  { callingReader rows with outPutTimer.isOverflow := 1 }

/-- When the timer has expired, a tag that waits to be sent gives no record, and when no rows are
left from the last call, no sign of life is sent. -/
theorem records_expired :
  ((expiredReader [tagRow 1]).SignsOfLife ∧ (expiredReader [tagRow 1]).Pending
      ∧ ¬ (expiredReader [tagRow 1]).SendsRecords)
    ∧ (expiredReader []).SignsOfLife ∧ ¬ (expiredReader []).Pending ∧ (expiredReader []).Due
      ∧ ¬ (expiredReader []).SendsRecords
  := by
  have hsigns : ∀ rows, (expiredReader rows).SignsOfLife := by
    intro rows
    obtain ⟨htype, henable, houtput⟩ := callingReader_signsOfLife rows
    exact ⟨htype, henable, houtput⟩
  have hdue : ∀ rows, (expiredReader rows).Due := fun _ => (by decide : (1 : UInt8) ≠ 0)
  refine ⟨⟨hsigns _, by decide, ?_⟩, hsigns _, by decide, hdue _, ?_⟩
  · rw [(hsigns _).sendsRecords_due_iff (hdue _), if_pos (by decide)]
    rintro ⟨hempty, -⟩
    exact absurd (congrArg List.length hempty) (by decide +kernel)
  · rw [(hsigns _).sendsRecords_due_iff (hdue _), if_neg (by decide)]
    rintro ⟨hone, -⟩
    exact absurd hone (by decide +kernel)

end UhfReader
