import UhfReader.Labels
import UhfReader.Sending

/-!
# Old rows on the table

In active mode `workACT` collects tags in `CardIndex[0..CardPos)` and `sendDataOut` sends them and
sets `CardPos` to `0`.  `stored` keeps the rows that `decodeR2000` has stored since the last call
of `sendDataOut` that sent something, with their places.

With the `CallPCType` 0, two things make `sendDataOut` send an older row.  When `OutPutTimer` has
expired, `CardPos` is set to `1` for a sign of life, and with it `CardIndex[0]` is on the table
again, whatever it holds.  `readCard6C` sets `CardPos` to `0` before it counts a read, but
`readCard6B` and `EPC1G2_ListTagTID` do not, and the row is sent with the next tags, or without any.
And a row left out before a valid one uncovers a row of `TagSaveBuf` from an earlier call.
-/

open Memory Interrupts

namespace UhfReader

/-! ### The decision -/

/-- The judged rows stay where they are. -/
theorem judgeTag_cardIndex (g : Globals) :
  (judgeTag g).2.cardIndex = g.cardIndex
  := by
  unfold judgeTag
  split
  · rw [copyTags_eq]
  · split
    · split
      · rfl
      · dsimp only
        split
        · rw [copyTags_eq]
        · rw [copyTags_eq]
    · rfl

namespace Globals

/-- A sign of life goes before the rows. -/
def EarlySign (g : Globals) : Prop :=
  ¬ g.gDevice.load Offset.callPCType > 1 ∧ g.gDevice.load Offset.callPCEnable ≠ 0
    ∧ ¬ g.gDevice.wiegand ∧ g.Due

instance (g : Globals) : Decidable g.EarlySign := inferInstanceAs (Decidable (_ ∧ _ ∧ _ ∧ _))

theorem checkOutput_cases (g : Globals) :
  (checkOutput g).1 = 1 ∧ (checkOutput g).2.cardIndex = g.cardIndex
    ∨ checkOutput g = (0, g)
    ∨ g.EarlySign
      ∧ checkOutput g
        = (222, { g with outPutTimer.isOverflow := 0, cardPos := 1, readCount := 0 })
  := by
  unfold checkOutput
  dsimp only
  split
  · exact .inl ⟨rfl, rfl⟩
  · rename_i htype
    split
    · rename_i henable
      split
      · exact .inl ⟨rfl, rfl⟩
      · rename_i hwiegand
        split
        · rename_i hdue
          exact .inr (.inr ⟨⟨htype, henable, hwiegand, hdue⟩, rfl⟩)
        · split
          · exact .inl ⟨rfl, rfl⟩
          · exact .inr (.inl rfl)
    · split
      · exact .inl ⟨rfl, rfl⟩
      · exact .inr (.inl rfl)

theorem wiegandType_table (g : Globals) :
  g.wiegandType.cardIndex = g.cardIndex ∧ g.wiegandType.cardPos = g.cardPos
  := by
  unfold wiegandType
  split
  · exact ⟨rfl, rfl⟩
  · exact ⟨rfl, rfl⟩

theorem judgeOutput_table (g : Globals) :
  (judgeOutput g).2.cardIndex = g.cardIndex ∧ (judgeOutput g).2.cardPos = 0
  := by
  unfold judgeOutput
  dsimp only
  split
  · exact ⟨judgeTag_cardIndex g, rfl⟩
  · exact ⟨judgeTag_cardIndex g, rfl⟩

/-- What the decision does with the table: the rows are judged and taken off it, or nothing is
done, or `CardPos` is set to `1` for a sign of life. -/
theorem decision_table (g : Globals) :
  g.decision.2.cardIndex = g.cardIndex
    ∧ (g.decision.2.cardPos = 0 ∨ g.decision.1 = 0 ∧ g.decision.2.cardPos = g.cardPos
      ∨ g.wiegandType.EarlySign ∧ g.decision.2.cardPos = 1)
  := by
  obtain ⟨hrows, hpos⟩ := g.wiegandType_table
  unfold decision
  dsimp only
  obtain ⟨hone, hindex⟩ | hnone | ⟨hsign, hcheck⟩ := g.wiegandType.checkOutput_cases
  · rw [if_pos hone]
    obtain ⟨hjudged, hzero⟩ := judgeOutput_table (checkOutput g.wiegandType).2
    exact ⟨hjudged.trans (hindex.trans hrows), .inl hzero⟩
  · rw [hnone, if_neg Nat.zero_ne_one]
    exact ⟨hrows, .inr (.inl ⟨rfl, hpos⟩)⟩
  · rw [hcheck, if_neg (show ¬ 222 = 1 by decide)]
    exact ⟨hrows, .inr (.inr ⟨hsign, rfl⟩)⟩

/-! ### The rows that are sent -/

/-- The rows with an identifier that are sent after a decision. -/
def decidedRows (decision : ℕ × Globals) : List Row :=
  if decision.1 ≠ 0 ∧ decision.1 ≠ 222 ∧ decision.2.gDevice.sends then
    decision.2.savedRows.filter (·.Valid)
  else []

/-- The rows with an identifier that `sendDataOut` sends. -/
def sentRows (g : Globals) : List Row := decidedRows g.decision

/-- `sendDataOut` sends something, be it a sign of life. -/
def SendsAny (g : Globals) : Prop :=
  g.decision.1 ≠ 0 ∧ g.decision.2.gDevice.sends
    ∧ g.decision.2.savedRows.filterMap (rowRecord g.decision.1) ≠ []

instance (g : Globals) : Decidable g.SendsAny := inferInstanceAs (Decidable (_ ∧ _ ∧ _))

/-- A record with an identifier is that of a row that is sent. -/
theorem exists_sentRow {g : Globals} {id : List UInt8} (h : id ∈ g.sentRecords) (hid : id ≠ []) :
  ∃ row ∈ g.sentRows, row.id = id
  := by
  unfold sentRecords at h
  unfold sentRows decidedRows
  generalize g.decision = decision at h ⊢
  obtain ⟨chk, g'⟩ := decision
  dsimp only at h ⊢
  split at h
  · rename_i hzero
    unfold outputRecords at h
    split at h
    · rename_i htext
      obtain ⟨i, hi, hrecord⟩ := List.mem_filterMap.mp h
      unfold rowRecord at hrecord
      split at hrecord
      · exact absurd (Option.some.inj hrecord).symm hid
      · rename_i hsign
        split at hrecord
        · rename_i hvalid
          have hsends : g'.gDevice.sends := .inr htext
          rw [if_pos ⟨hzero, hsign, hsends⟩]
          use g'.tagSaveBuf i
          refine ⟨List.mem_filter.mpr ⟨List.mem_map_of_mem hi, ?_⟩, Option.some.inj hrecord⟩
          exact decide_eq_true hvalid
        · cases hrecord
    · cases h
  · cases h

/-- With the `CallPCType` 0, the rows just read are copied and sent. -/
def CopiesRows (g : Globals) : Prop :=
  g.gDevice.sends ∧ g.validRows.length ≠ 222
    ∧ if g.gDevice.wiegand then
        (g.Pending ∨ g.gDevice.load Offset.callPCEnable ≠ 0) ∧ g.Due
      else g.Pending ∧ ¬ (g.gDevice.load Offset.callPCEnable ≠ 0 ∧ g.Due)

instance (g : Globals) : Decidable g.CopiesRows := inferInstanceAs (Decidable (_ ∧ _ ∧ _))

/-- What is judged as tags just read is copied. -/
theorem judgeTag_copies {g : Globals} (h : g.Snapshot) (hne : g.validRows ≠ []) :
  ∃ timer pos, judgeTag g
    = (g.validRows.length, { g.copyTags with outPutTimer := timer, cardPos := pos })
  := by
  unfold judgeTag
  obtain hzero | ⟨hone, hoverflow⟩ := h
  · rw [if_pos hzero, copyTags_eq]
    exact ⟨g.outPutTimer, g.cardPos, rfl⟩
  · rw [if_neg (by rw [hone]; decide), if_pos hone, if_neg hoverflow]
    dsimp only
    rw [if_neg]
    · rw [copyTags_eq, copyTags_eq]
      exact ⟨_, 0, rfl⟩
    · rintro ⟨hempty, -⟩
      rw [copyTags_eq] at hempty
      exact hne (List.length_eq_zero_iff.mp hempty)

/-- When there are none, no rows are sent. -/
theorem judgeOutput_empty {g : Globals} (h : g.Snapshot) (hempty : g.validRows = []) :
  (judgeOutput g).1 = 0 ∨ (judgeOutput g).1 = 222
  := by
  have hlength : g.validRows.length = 0 := List.length_eq_zero_iff.mpr hempty
  have hjudge : (judgeTag g).1 = 0 ∨ (judgeTag g).1 = 222 := by
    unfold judgeTag
    obtain hzero | ⟨hone, hoverflow⟩ := h
    · rw [if_pos hzero, copyTags_eq]
      exact .inl hlength
    · rw [if_neg (by rw [hone]; decide), if_pos hone, if_neg hoverflow]
      dsimp only
      split
      · exact .inr rfl
      · rw [copyTags_eq]
        exact .inl hlength
  unfold judgeOutput
  dsimp only
  split
  · exact .inr rfl
  · exact hjudge

/-- The copies of the rows just read are sent. -/
theorem decidedRows_snapshot {g : Globals} (h : g.Snapshot) :
  decidedRows (judgeOutput g)
    = if g.gDevice.sends ∧ g.validRows.length ≠ 222 then g.copyTags.savedRows.filter (·.Valid)
      else []
  := by
  by_cases hempty : g.validRows = []
  · have hsaved : g.copyTags.savedRows = [] := by
      rw [copyTags_eq]
      unfold savedRows
      rw [hempty]
      rfl
    rw [hsaved, List.filter_nil, ite_self]
    obtain hzero | hsign := judgeOutput_empty h hempty
    · exact if_neg fun hand => hand.1 hzero
    · exact if_neg fun hand => hand.2.1 hsign
  · have hlength : g.validRows.length ≠ 0 := fun hzero => hempty (List.length_eq_zero_iff.mp hzero)
    obtain ⟨timer, pos, hjudge⟩ := judgeTag_copies h hempty
    have houtput : judgeOutput g = (g.validRows.length,
        { g.copyTags with outPutTimer := timer, cardPos := 0 }) := by
      unfold judgeOutput
      rw [hjudge]
      exact if_neg fun hand => hlength hand.1
    have hdevice : g.copyTags.gDevice = g.gDevice := by
      rw [copyTags_eq]
    rw [houtput]
    unfold decidedRows savedRows
    dsimp only
    rw [hdevice]
    simp only [ne_eq, hlength, not_false_eq_true, true_and, and_comm]

/-- Until the timer has expired, nothing is sent. -/
theorem decidedRows_waiting {g : Globals} (htype : g.gDevice.load Offset.callPCType = 1)
    (hdue : ¬ g.Due) :
  decidedRows (judgeOutput g) = []
  := by
  have hoverflow : g.outPutTimer.isOverflow = 0 := not_not.mp hdue
  have hjudge : judgeTag g = (0, g) := by
    unfold judgeTag
    rw [if_neg (by rw [htype]; decide), if_pos htype, if_pos hoverflow]
  unfold judgeOutput
  rw [hjudge]
  dsimp only
  rw [if_neg (fun hsign => hsign.2.2 hoverflow)]
  exact if_neg fun hand => hand.1 rfl

/-- Setting the `CallPCType` leaves the other settings alone. -/
theorem load_put_callPCType (d : SDevice) {k : ℕ} (hk : k ≠ Offset.callPCType) :
  (d.put Offset.callPCType 1).load k = d.load k
  := by
  rw [Block.load_put (by decide)]
  exact if_neg hk

theorem wiegand_put_callPCType (d : SDevice) :
  SDevice.wiegand (d.put Offset.callPCType 1) = d.wiegand
  := by
  unfold SDevice.wiegand
  rw [load_put_callPCType d (by decide)]

theorem sends_put_callPCType (d : SDevice) :
  SDevice.sends (d.put Offset.callPCType 1) ↔ d.sends
  := by
  unfold SDevice.sends SDevice.textOutput
  rw [wiegand_put_callPCType, load_put_callPCType d (by decide), load_put_callPCType d (by decide)]

theorem copyTags_savedRows_congr {g g' : Globals} (hindex : g'.cardIndex = g.cardIndex)
    (hpos : g'.cardPos = g.cardPos) (hsaved : g'.tagSaveBuf = g.tagSaveBuf) :
  g'.copyTags.savedRows = g.copyTags.savedRows ∧ g'.validRows = g.validRows
  := by
  have hrows : g'.validRows = g.validRows := by
    unfold validRows
    rw [hindex, hpos]
  refine ⟨?_, hrows⟩
  rw [copyTags_eq, copyTags_eq]
  unfold savedRows
  dsimp only
  rw [hrows, hindex, hpos, hsaved]

/-- With the `CallPCType` 1, which the Wiegand outputs have, the rows are judged when the timer has
expired. -/
theorem decidedRows_wiegand (g' : Globals) {g : Globals}
    (hdevice : g'.gDevice = g.gDevice.put Offset.callPCType 1)
    (htimer : g'.outPutTimer = g.outPutTimer) (hindex : g'.cardIndex = g.cardIndex)
    (hpos : g'.cardPos = g.cardPos) (hbuf : g'.tagSaveBuf = g.tagSaveBuf) :
  decidedRows (judgeOutput g')
    = if g.Due ∧ g.gDevice.sends ∧ g.validRows.length ≠ 222 then
        g.copyTags.savedRows.filter (·.Valid)
      else []
  := by
  have hone : g'.gDevice.load Offset.callPCType = 1 := by
    rw [hdevice, Block.load_put (by decide), if_pos rfl]
  have hdue : g'.Due ↔ g.Due := by
    unfold Due
    rw [htimer]
  have hsends : g'.gDevice.sends ↔ g.gDevice.sends := by
    rw [hdevice]
    apply sends_put_callPCType
  obtain ⟨hsaved, hrows⟩ := copyTags_savedRows_congr hindex hpos hbuf
  by_cases h : g'.Due
  · rw [decidedRows_snapshot (.inr ⟨hone, h⟩), hsaved, hrows]
    apply if_congr _ rfl rfl
    rw [hsends]
    exact (and_iff_right (hdue.mp h)).symm
  · rw [if_neg fun hand => h (hdue.mpr hand.1)]
    exact decidedRows_waiting hone h

/-- What is checked first for the Wiegand outputs. -/
theorem checkOutput_wiegand {g : Globals} (hwiegand : g.gDevice.wiegand) :
  ∃ readCount, checkOutput g.wiegandType
    = (if g.Pending ∨ g.gDevice.load Offset.callPCEnable ≠ 0 then 1 else 0,
        { g with gDevice := g.gDevice.put Offset.callPCType 1, readCount := readCount })
  := by
  unfold wiegandType
  rw [if_pos hwiegand]
  unfold checkOutput
  dsimp only
  rw [Block.load_put (by decide), if_pos rfl, if_neg (by decide),
    load_put_callPCType _ (by decide), wiegand_put_callPCType, if_pos hwiegand]
  by_cases henable : g.gDevice.load Offset.callPCEnable ≠ 0
  · use 0
    rw [if_pos henable, if_pos (.inr henable)]
  · use g.readCount
    rw [if_neg henable]
    exact congrArg (·, _) (if_congr (or_iff_left henable).symm rfl rfl)

/-- What is checked first for the other outputs. -/
theorem checkOutput_text {g : Globals} (htype : g.gDevice.load Offset.callPCType = 0)
    (hwiegand : ¬ g.gDevice.wiegand) :
  checkOutput g.wiegandType
    = if g.gDevice.load Offset.callPCEnable ≠ 0 ∧ g.Due then
        (222, { g with outPutTimer.isOverflow := 0, cardPos := 1, readCount := 0 })
      else (if g.Pending then 1 else 0, g)
  := by
  unfold wiegandType
  rw [if_neg hwiegand]
  unfold checkOutput
  dsimp only
  rw [htype, if_neg (by decide), if_neg hwiegand]
  by_cases henable : g.gDevice.load Offset.callPCEnable ≠ 0
  · rw [if_pos henable]
    exact if_congr ⟨fun hdue => ⟨henable, hdue⟩, fun hand => hand.2⟩ rfl rfl
  · have hsign : ¬ (g.gDevice.load Offset.callPCEnable ≠ 0 ∧ g.Due) := fun hand => henable hand.1
    rw [if_neg henable, if_neg hsign]
    rfl

/-- With the `CallPCType` 0, the rows that are sent are the copies of those just read. -/
theorem sentRows_eq {g : Globals} (htype : g.gDevice.load Offset.callPCType = 0) :
  g.sentRows = if g.CopiesRows then g.copyTags.savedRows.filter (·.Valid) else []
  := by
  have hnothing : ∀ {g' : Globals}, decidedRows (0, g') = [] := if_neg fun hand => hand.1 rfl
  unfold sentRows decision
  dsimp only
  by_cases hwiegand : g.gDevice.wiegand
  · have hcopies : g.CopiesRows ↔ (g.Pending ∨ g.gDevice.load Offset.callPCEnable ≠ 0)
        ∧ g.Due ∧ g.gDevice.sends ∧ g.validRows.length ≠ 222 := by
      unfold CopiesRows
      rw [if_pos hwiegand]
      tauto
    obtain ⟨readCount, hcheck⟩ := checkOutput_wiegand hwiegand
    rw [hcheck]
    by_cases hjudged : g.Pending ∨ g.gDevice.load Offset.callPCEnable ≠ 0
    · rw [if_pos hjudged, if_pos rfl]
      have hrows := decidedRows_wiegand (g := g)
        { g with gDevice := g.gDevice.put Offset.callPCType 1, readCount := readCount }
        rfl rfl rfl rfl rfl
      apply hrows.trans
      exact if_congr (hcopies.trans (and_iff_right hjudged)).symm rfl rfl
    · rw [if_neg hjudged, if_neg Nat.zero_ne_one, hnothing,
        if_neg fun h => hjudged (hcopies.mp h).1]
  · have hcopies : g.CopiesRows ↔ ¬ (g.gDevice.load Offset.callPCEnable ≠ 0 ∧ g.Due)
        ∧ g.Pending ∧ g.gDevice.sends ∧ g.validRows.length ≠ 222 := by
      unfold CopiesRows
      rw [if_neg hwiegand]
      tauto
    rw [checkOutput_text htype hwiegand]
    by_cases hsign : g.gDevice.load Offset.callPCEnable ≠ 0 ∧ g.Due
    · rw [if_pos hsign, if_neg (show ¬ 222 = 1 by decide), if_neg fun h => (hcopies.mp h).1 hsign]
      exact if_neg fun hand => hand.2.1 rfl
    · rw [if_neg hsign]
      by_cases hpending : g.Pending
      · rw [if_pos hpending, if_pos rfl, decidedRows_snapshot (.inl htype)]
        exact if_congr ⟨fun hand => hcopies.mpr ⟨hsign, hpending, hand⟩,
          fun h => (hcopies.mp h).2.2⟩ rfl rfl
      · rw [if_neg hpending, if_neg Nat.zero_ne_one, hnothing,
          if_neg fun h => hpending (hcopies.mp h).2.1]

end Globals

/-! ### The loop -/

/-- The loop of active mode: the globals, the antennas that `workACT` has still to read, and the
rows stored since the last call of `sendDataOut` that sent something, with their places in
`CardIndex`. -/
structure ActiveLoop where
  globals : Globals
  switchAtenna : UInt8
  stored : List (ℕ × Row)

/-- A step of the loop, or an interrupt between two of them. -/
inductive ActiveEvent where
  | rx (b : UInt8)
  | tick
  /-- `workACT`; `pinTriggle1` is the second trigger input -/
  | workACT (pinTriggle1 : UInt8)
  /-- `sendDataOut`; `busy` tells for which rows the relay is on -/
  | sendDataOut (busy : ℕ → Bool)

/-- A row that is stored at an interrupt is entered. -/
def enterRow (e : Event) (g : Globals) (stored : List (ℕ × Row)) : List (ℕ × Row) :=
  match e with
  | .rx b =>
    if g.StoresTag b then (g.cardPos, (uart4IRQHandler g b).cardIndex g.cardPos) :: stored
    else stored
  | .tick => stored
  | .poll => stored

/-- `sendDataOut` after a decision to send. -/
def sendDecided (busy : ℕ → Bool) (chk : ℕ) (callPCType : UInt8) : M Unit := do
  outputRows busy chk
  modify fun g => { g with readCount := 0 }
  modify fun g => { g with gDevice := g.gDevice.put Offset.callPCType callPCType }

def ActiveCode.sendDecided (busy : ℕ → Bool) (chk : ℕ) (callPCType : UInt8) :
    ActiveCode (sendDecided busy chk callPCType) :=
  .bind (outputRows busy chk) fun _ => .bind (modify _) fun _ => modify _

/-- A step of the loop.  It is `none` when a wait is not left.  With `whileSending`, what is stored
while a call sends its rows was stored since, and without, only what is stored after the call. -/
def activeStep (whileSending : Bool) (s : ActiveLoop) : ActiveEvent → Option ActiveLoop
  | .rx b => some { s with
      globals := uart4IRQHandler s.globals b
      stored := enterRow (.rx b) s.globals s.stored }
  | .tick => some { s with globals := timeUpdate s.globals }
  | .workACT pinTriggle1 =>
    ((ActiveCode.workACT pinTriggle1 s.switchAtenna).watch enterRow (s.globals, s.stored)).map
      fun out => ⟨out.2.1, out.1, out.2.2⟩
  | .sendDataOut busy =>
    let (chk, decided) := s.globals.decision
    let callPCType := s.globals.gDevice.load Offset.callPCType
    if chk ≠ 0 then
      ((ActiveCode.sendDecided busy chk callPCType).watch enterRow
        (decided.startOutPutTimer, if s.globals.SendsAny then [] else s.stored)).map
          fun out => ⟨out.2.1, s.switchAtenna,
            if s.globals.SendsAny ∧ ¬ whileSending then [] else out.2.2⟩
    else
      some { s with globals := { decided with
        gDevice := decided.gDevice.put Offset.callPCType callPCType } }

/-- The loop when it is entered. -/
def ActiveLoop.start (g : Globals) : ActiveLoop := ⟨g, 0, []⟩

/-- The loop without the record of the rows stored. -/
def ActiveLoop.code (s : ActiveLoop) : Globals × UInt8 := (s.globals, s.switchAtenna)

/-- What the functions of the loop do. -/
def codeStep (x : Globals × UInt8) : ActiveEvent → Option (Globals × UInt8)
  | .rx b => some (uart4IRQHandler x.1 b, x.2)
  | .tick => some (timeUpdate x.1, x.2)
  | .workACT pinTriggle1 => (workACT pinTriggle1 x.2 x.1).map fun out => (out.2, out.1)
  | .sendDataOut busy => (sendDataOut (outputRows busy) x.1).map fun out => (out.2, x.2)

/-- Without the record, a step of the loop is what the functions do. -/
theorem activeStep_code (whileSending : Bool) (s : ActiveLoop) (e : ActiveEvent) :
  (activeStep whileSending s e).map ActiveLoop.code = codeStep s.code e
  := by
  cases e with
  | rx b => rfl
  | tick => rfl
  | workACT pinTriggle1 =>
    have hcode := (ActiveCode.workACT pinTriggle1 s.switchAtenna).watch_state enterRow
      (s.globals, s.stored)
    simp only [activeStep, codeStep, ActiveLoop.code]
    rw [← hcode, Option.map_map, Option.map_map]
    rfl
  | sendDataOut busy =>
    simp only [activeStep, codeStep, ActiveLoop.code]
    rw [sendDataOut_eq]
    by_cases hzero : s.globals.decision.1 ≠ 0
    · have hcode := (ActiveCode.sendDecided busy s.globals.decision.1
        (s.globals.gDevice.load Offset.callPCType)).watch_state enterRow
        (s.globals.decision.2.startOutPutTimer, if s.globals.SendsAny then [] else s.stored)
      rw [if_pos hzero, if_pos hzero]
      change _ = (sendDecided _ _ _ _).map _
      rw [← hcode, Option.map_map, Option.map_map]
      rfl
    · rw [if_neg hzero, if_neg hzero]
      rfl

/-- Without the record, a run of the loop is one of its functions. -/
theorem activeRun_code (whileSending : Bool) (es : List ActiveEvent) (s : ActiveLoop) :
  (Run.run (activeStep whileSending) es s).map ActiveLoop.code = Run.run codeStep es s.code
  := Run.run_map ActiveLoop.code (activeStep_code whileSending) es s

/-- A cycle of the loop. -/
theorem codeRun_cycle (pinTriggle1 : UInt8) (busy : ℕ → Bool) (x : Globals × UInt8) :
  Run.run codeStep [.workACT pinTriggle1, .sendDataOut busy] x
    = (activeCycle (outputRows busy) pinTriggle1 x.2 x.1).map fun out => (out.2, out.1)
  := by
  simp only [Run.run, codeStep, activeCycle, Bind.bind, StateT.bind]
  cases workACT pinTriggle1 x.2 x.1 with
  | none => rfl
  | some out =>
    simp only [Option.map_some, Option.bind_some]
    cases sendDataOut (outputRows busy) out.2 with
    | none => rfl
    | some sent => rfl

/-! ### Rows stored -/

/-- The record has the rows that are at its places. -/
def Recorded (g : Globals) (stored : List (ℕ × Row)) : Prop :=
  ∀ i ∈ stored.map Prod.fst, (i, g.cardIndex i) ∈ stored

/-- From place `k` on, the rows on the table were stored since. -/
def NewFrom (k : ℕ) (g : Globals) (stored : List (ℕ × Row)) : Prop :=
  ∀ i, k ≤ i → i < g.cardPos → i ∈ stored.map Prod.fst

theorem recorded_nil (g : Globals) :
  Recorded g []
  := by
  intro i hi
  cases hi

/-- What is received is entered. -/
theorem recorded_rx {g : Globals} {stored : List (ℕ × Row)} (h : Recorded g stored) (b : UInt8) :
  Recorded (uart4IRQHandler g b) (enterRow (.rx b) g stored)
  := by
  obtain ⟨hstored, hunstored⟩ := uart4IRQHandler_table g b
  unfold enterRow
  dsimp only
  by_cases hstores : g.StoresTag b
  · obtain ⟨⟨row, hrow⟩, -⟩ := hstored hstores
    rw [if_pos hstores]
    intro i hi
    by_cases hplace : i = g.cardPos
    · rw [hplace]
      exact List.mem_cons_self
    · -- an older row is where it was
      rw [hrow, Function.update_of_ne hplace]
      obtain heq | hi := List.mem_cons.mp hi
      · exact absurd heq hplace
      · exact List.mem_cons_of_mem _ (h i hi)
  · rw [if_neg hstores]
    intro i hi
    rw [(hunstored hstores).rows]
    exact h i hi

theorem newFrom_rx {k : ℕ} {g : Globals} {stored : List (ℕ × Row)} (h : NewFrom k g stored)
    (b : UInt8) :
  NewFrom k (uart4IRQHandler g b) (enterRow (.rx b) g stored)
  := by
  obtain ⟨hstored, hunstored⟩ := uart4IRQHandler_table g b
  unfold enterRow
  dsimp only
  intro i hk hi
  by_cases hstores : g.StoresTag b
  · rw [(hstored hstores).pos] at hi
    rw [if_pos hstores]
    by_cases hplace : i = g.cardPos
    · rw [hplace]
      exact List.mem_cons_self
    · apply List.mem_cons_of_mem
      apply h i hk
      omega
  · rw [(hunstored hstores).pos] at hi
    rw [if_neg hstores]
    exact h i hk hi

/-- A tick changes neither the table nor the record. -/
theorem recorded_tick {g : Globals} {stored : List (ℕ × Row)} (h : Recorded g stored) :
  Recorded (timeUpdate g) stored
  := by
  intro i hi
  rw [(timeUpdate_table g).rows]
  exact h i hi

theorem newFrom_tick {k : ℕ} {g : Globals} {stored : List (ℕ × Row)} (h : NewFrom k g stored) :
  NewFrom k (timeUpdate g) stored
  := by
  intro i hk hi
  rw [(timeUpdate_table g).pos] at hi
  exact h i hk hi

theorem next_table {g g' : Globals} {es : List Event} (h : radio.next g = some (es, g')) :
  g'.cardIndex = g.cardIndex ∧ g'.cardPos = g.cardPos
  := by
  unfold radio at h
  dsimp only at h
  split at h
  · cases h
  · cases h
    exact ⟨rfl, rfl⟩

/-- The code of active mode and the interrupts keep the record. -/
theorem invariant_recorded :
  Invariant radio TableKept enterRow Recorded
  := by
  constructor
  · intro g g' stored hact h i hi
    rw [hact.rows]
    exact h i hi
  · intro g es g' stored hnext h i hi
    rw [(next_table hnext).1]
    exact h i hi
  · intro e f g stored hhandler h
    cases e with
    | rx b =>
      cases hhandler
      exact recorded_rx h b
    | tick =>
      cases hhandler
      exact recorded_tick h
    | poll => cases hhandler

theorem invariant_newFrom (k : ℕ) :
  Invariant radio TableKept enterRow (NewFrom k)
  := by
  constructor
  · intro g g' stored hact h i hk hi
    obtain hpos | hpos := hact.pos
    · rw [hpos] at hi
      exact h i hk hi
    · omega
  · intro g es g' stored hnext h i hk hi
    rw [(next_table hnext).2] at hi
    exact h i hk hi
  · intro e f g stored hhandler h
    cases e with
    | rx b =>
      cases hhandler
      exact newFrom_rx h b
    | tick =>
      cases hhandler
      exact newFrom_tick h
    | poll => cases hhandler

/-- Each step of the loop keeps the record. -/
theorem activeStep_recorded {whileSending : Bool} {s s' : ActiveLoop} {e : ActiveEvent}
    (h : Recorded s.globals s.stored) (hstep : activeStep whileSending s e = some s') :
  Recorded s'.globals s'.stored
  := by
  cases e with
  | rx b =>
    cases hstep
    exact recorded_rx h b
  | tick =>
    cases hstep
    exact recorded_tick h
  | workACT pinTriggle1 =>
    simp only [activeStep, Option.map_eq_some_iff] at hstep
    obtain ⟨out, hwatch, rfl⟩ := hstep
    exact invariant_recorded.watch _ hwatch h
  | sendDataOut busy =>
    have hrows := s.globals.decision_table.1
    simp only [activeStep] at hstep
    generalize s.globals.decision = decision at hrows hstep
    have hdecided : Recorded decision.2 s.stored := by
      intro i hi
      rw [hrows]
      exact h i hi
    split at hstep
    · simp only [Option.map_eq_some_iff] at hstep
      obtain ⟨out, hwatch, rfl⟩ := hstep
      dsimp only
      split
      · apply recorded_nil
      · apply invariant_recorded.watch _ hwatch
        split
        · apply recorded_nil
        · exact hdecided
    · cases hstep
      exact hdecided

/-! ### Rows that are sent -/

/-- The condition holds whenever `sendDataOut` is called. -/
def AtSend (P : ActiveLoop → Prop) (s : ActiveLoop) : ActiveEvent → Prop
  | .sendDataOut _ => P s
  | .rx _ => True
  | .tick => True
  | .workACT _ => True

instance (P : ActiveLoop → Prop) [h : DecidablePred P] (s : ActiveLoop) (e : ActiveEvent) :
    Decidable (AtSend P s e) :=
  match e with
  | .sendDataOut _ => h s
  | .rx _ => isTrue trivial
  | .tick => isTrue trivial
  | .workACT _ => isTrue trivial

theorem AtSend.mono {P Q : ActiveLoop → Prop} {s : ActiveLoop} {e : ActiveEvent}
    (h : AtSend P s e) (hPQ : P s → Q s) :
  AtSend Q s e
  := by
  cases e with
  | sendDataOut busy => exact hPQ h
  | rx b => trivial
  | tick => trivial
  | workACT pinTriggle1 => trivial

/-- The rows that `sendDataOut` sends, with the `CallPCType` 0, were stored since the last call that
sent something. -/
def NoPhantoms (s : ActiveLoop) : Prop :=
  s.globals.gDevice.load Offset.callPCType = 0 →
    ∀ row ∈ s.globals.sentRows, row ∈ s.stored.map Prod.snd

/-- When the rows are copied and sent, then at each of the first places, as many as there are valid
rows, a valid row was stored since, or the row is left out and none was kept there either. -/
def RowsStored (s : ActiveLoop) : Prop :=
  s.globals.gDevice.load Offset.callPCType = 0 → s.globals.CopiesRows →
    ∀ i < s.globals.validRows.length,
      if (s.globals.cardIndex i).Valid then i ∈ s.stored.map Prod.fst
      else ¬ (s.globals.tagSaveBuf i).Valid

instance : DecidablePred RowsStored :=
  fun _ => inferInstanceAs (Decidable (_ → _ → ∀ _ < _, _))

/-- A row that is sent is a valid one of the table, or one that was kept before. -/
theorem mem_sentRows {g : Globals} (htype : g.gDevice.load Offset.callPCType = 0) {row : Row}
    (h : row ∈ g.sentRows) :
  g.CopiesRows ∧ ∃ i < g.validRows.length,
    row = (if (g.cardIndex i).Valid then g.cardIndex i else g.tagSaveBuf i) ∧ row.Valid
  := by
  rw [Globals.sentRows_eq htype] at h
  split at h
  · rename_i hcopies
    obtain ⟨hsaved, hvalid⟩ := List.mem_filter.mp h
    rw [copyTags_eq] at hsaved
    obtain ⟨i, hi, hrow⟩ := List.mem_map.mp hsaved
    have hlength : i < g.validRows.length := List.mem_range.mp hi
    have hlt : i < g.cardPos := hlength.trans_le g.length_validRows_le
    simp only [hlt, true_and] at hrow
    exact ⟨hcopies, i, hlength, hrow.symm, of_decide_eq_true hvalid⟩
  · cases h

/-- The rows that a call sends were stored since, if those on the table were. -/
theorem RowsStored.noPhantoms {s : ActiveLoop} (hrecord : Recorded s.globals s.stored)
    (h : RowsStored s) :
  NoPhantoms s
  := by
  intro htype row hrow
  obtain ⟨hcopies, i, hi, heq, hvalid⟩ := mem_sentRows htype hrow
  have hplace := h htype hcopies i hi
  split at heq
  · rename_i hindex
    rw [if_pos hindex] at hplace
    rw [heq]
    exact List.mem_map_of_mem (hrecord i hplace)
  · rename_i hindex
    rw [if_neg hindex] at hplace
    rw [heq] at hvalid
    exact absurd hvalid hplace

/-- A run whose calls meet the condition sends no phantoms. -/
theorem noPhantoms_of_rowsStored {whileSending : Bool} {g : Globals} {es : List ActiveEvent}
    (h : Run.Along (activeStep whileSending) (AtSend RowsStored) es (.start g)) :
  Run.Along (activeStep whileSending) (AtSend NoPhantoms) es (.start g)
  := by
  refine Run.Along.of_invariant (I := fun s => Recorded s.globals s.stored) ?_ ?_
    (recorded_nil g) h
  · intro s e s' hrecord _ hstep
    exact activeStep_recorded hrecord hstep
  · intro s e hrecord hrows
    exact hrows.mono fun h => h.noPhantoms hrecord

/-- No phantom tags: in every run of active mode in which the rows that are sent were stored since
the last call that sent something, or were none before, each row sent is one of those stored. -/
theorem no_phantoms (whileSending : Bool) (g : Globals) (es : List ActiveEvent)
    (h : Run.Along (activeStep whileSending) (AtSend RowsStored) es (.start g)) :
  Run.Along (activeStep whileSending) (AtSend NoPhantoms) es (.start g)
  := noPhantoms_of_rowsStored h

/-- The answer to `AntennaCtrl`. -/
def antennaAnswer : List UInt8 :=
  let head := [0xA0, 0x04, 0x01, 0x74, commandSuccess]
  head ++ [~~~ head.sum + 1]

/-- A new reader that is triggered, reads ISO18000-6B tags and gives signs of life.  It will find a
tag at first, and none later. -/
def labelReader : Globals :=
  let beeped : List Event := List.replicate 30 .tick ++ [.poll]
  { (powerOn .blank).toGlobals with
    gDevice := ((((Block.zero 210).put Offset.tagType 1).put Offset.readTAGType 1).put
      Offset.callPCEnable 1).put Offset.callPCTimeInterver 1
    tmpAntenna := 2
    traffic :=
      [[], antennaAnswer.map .rx ++ [.poll], [], (label 1).bytes.map .rx ++ [.poll], beeped, beeped,
        [], antennaAnswer.map .rx ++ [.poll], [], (endFrame 1 1 0).map .rx ++ [.poll]] }

/-- `sendDataOut` with relays that are off. -/
def sendIdle : ActiveEvent := .sendDataOut fun _ => false

/-- A tag that was just read is sent. -/
theorem no_phantoms_label :
  Run.Along (activeStep false) (AtSend NoPhantoms) [.workACT 1, sendIdle] (.start labelReader)
  := by
  apply no_phantoms
  unfold labelReader
  rw [powerOn_eq]
  decide +kernel

/-- The tag is sent, the timer expires, a sign of life is given, and no tag is found: then the first
tag is sent again. -/
theorem phantom_label :
  ∃ es, ∀ whileSending, ∃ s, Run.run (activeStep whileSending) es (.start labelReader) = some s
    ∧ s.globals.gDevice.load Offset.callPCType = 0 ∧ s.stored = []
    ∧ s.globals.sentRows.map Row.id = [(label 1).uid]
    ∧ ¬ Run.Along (activeStep whileSending) (AtSend NoPhantoms) (es ++ [sendIdle])
      (.start labelReader)
  := by
  use [.workACT 1, sendIdle] ++ List.replicate 1000 .tick ++ [sendIdle, .workACT 1]
  intro whileSending
  have hrun : (Run.run (activeStep whileSending)
        ([.workACT 1, sendIdle] ++ List.replicate 1000 .tick ++ [sendIdle, .workACT 1])
        (.start labelReader)).map
      (fun s => (s.globals.gDevice.load Offset.callPCType, s.stored.length,
        s.globals.sentRows.map Row.id)) = some (0, 0, [(label 1).uid]) := by
    unfold labelReader
    rw [powerOn_eq]
    revert whileSending
    decide +kernel
  obtain ⟨s, hsome, hs⟩ := Option.map_eq_some_iff.mp hrun
  obtain ⟨htype, hlength, hids⟩ : _ ∧ _ ∧ _ := by
    simpa only [Prod.mk.injEq] using hs
  have hstored : s.stored = [] := List.length_eq_zero_iff.mp hlength
  refine ⟨s, hsome, htype, hstored, hids, ?_⟩
  intro halong
  have hsent := ((Run.Along.append_iff hsome).mp halong).2.1 htype
  rw [hstored, List.map_nil] at hsent
  cases hrows : s.globals.sentRows with
  | nil =>
    rw [hrows] at hids
    cases hids
  | cons row rows =>
    rw [hrows] at hsent
    exact absurd (hsent row List.mem_cons_self) List.not_mem_nil

/-! ### Old rows -/

/-- No sign of life goes before the rows. -/
def NoSign (s : ActiveLoop) : Prop := ¬ s.globals.wiegandType.EarlySign

/-- Only a sign of life puts an old row on the table, and only the first one. -/
theorem activeStep_newFrom {k : ℕ} {s s' : ActiveLoop} {e : ActiveEvent}
    (hsign : k = 0 → AtSend NoSign s e) (h : NewFrom k s.globals s.stored)
    (hstep : activeStep true s e = some s') :
  NewFrom k s'.globals s'.stored
  := by
  cases e with
  | rx b =>
    cases hstep
    exact newFrom_rx h b
  | tick =>
    cases hstep
    exact newFrom_tick h
  | workACT pinTriggle1 =>
    simp only [activeStep, Option.map_eq_some_iff] at hstep
    obtain ⟨out, hwatch, rfl⟩ := hstep
    exact (invariant_newFrom k).watch _ hwatch h
  | sendDataOut busy =>
    have htable := s.globals.decision_table.2
    simp only [activeStep] at hstep
    generalize s.globals.decision = decision at htable hstep
    -- the rows on the table after the decision
    have hdecided : ∀ stored, (decision.1 = 0 → stored = s.stored) →
        NewFrom k decision.2 stored := by
      intro stored hstored i hk hi
      obtain hpos | ⟨hzero, hpos⟩ | ⟨hearly, hpos⟩ := htable
      · omega
      · rw [hpos] at hi
        rw [hstored hzero]
        exact h i hk hi
      · exact absurd hearly (hsign (by omega))
    split at hstep
    · rename_i hzero
      simp only [Option.map_eq_some_iff] at hstep
      obtain ⟨out, hwatch, rfl⟩ := hstep
      simp only [not_true_eq_false, and_false, if_false]
      apply (invariant_newFrom k).watch _ hwatch
      exact hdecided _ fun h => absurd h hzero
    · cases hstep
      exact hdecided _ fun _ => rfl

/-- On an empty table there are no old rows. -/
theorem newFrom_start {k : ℕ} {g : Globals} (hpos : g.cardPos = 0) :
  NewFrom k g []
  := by
  intro i _ hi
  rw [hpos] at hi
  exact absurd hi (Nat.not_lt_zero i)

/-- In a run that starts with an empty table, all rows from the second on were stored since, and
without signs of life the first too. -/
theorem newFrom_of_run {k : ℕ} {g : Globals} {es : List ActiveEvent} {s : ActiveLoop}
    (hpos : g.cardPos = 0)
    (h : Run.Along (activeStep true) (fun s e => k = 0 → AtSend NoSign s e) es (.start g))
    (hrun : Run.run (activeStep true) es (.start g) = some s) :
  NewFrom k s.globals s.stored
  := by
  refine h.invariant (I := fun s => NewFrom k s.globals s.stored) ?_ ?_ hrun
  · intro s e s' hnew hsign hstep
    exact activeStep_newFrom hsign hnew hstep
  · apply newFrom_start hpos

/-- Without signs of life that go before the rows, and as long as no row that is left out comes
before a valid one, the rows that are sent were stored since. -/
theorem rowsStored_of_run {g : Globals} {es : List ActiveEvent} (hpos : g.cardPos = 0)
    (h : Run.Along (activeStep true) (AtSend fun s => NoSign s ∧ s.globals.ValidFirst) es
      (.start g)) :
  Run.Along (activeStep true) (AtSend RowsStored) es (.start g)
  := by
  refine Run.Along.of_invariant (I := fun s => NewFrom 0 s.globals s.stored) ?_ ?_ ?_ h
  · intro s e s' hnew hboth hstep
    exact activeStep_newFrom (fun _ => hboth.mono And.left) hnew hstep
  · intro s e hnew hboth
    apply hboth.mono
    rintro ⟨-, hfirst⟩ _ _ i hi
    obtain ⟨n, hle, hvalid, hrows⟩ := hfirst.validRows_eq
    rw [hrows, List.length_map, List.length_range] at hi
    rw [if_pos (hvalid i hi)]
    exact hnew i (Nat.zero_le i) (hi.trans_le hle)
  · apply newFrom_start hpos

/-- Without the two causes there are no phantoms: in every run from an empty table in which no sign
of life goes before the rows and no row that is left out comes before a valid one, each row sent was
stored since the last call that sent something. -/
theorem no_phantoms_without_causes {g : Globals} {es : List ActiveEvent} (hpos : g.cardPos = 0)
    (h : Run.Along (activeStep true) (AtSend fun s => NoSign s ∧ s.globals.ValidFirst) es
      (.start g)) :
  Run.Along (activeStep true) (AtSend NoPhantoms) es (.start g)
  := noPhantoms_of_rowsStored (rowsStored_of_run hpos h)

/-- In every run from an empty table, a phantom is the first row, or comes from a gap. -/
theorem phantom_first {g : Globals} {es : List ActiveEvent} {s : ActiveLoop} (hpos : g.cardPos = 0)
    (hrun : Run.run (activeStep true) es (.start g) = some s)
    (htype : s.globals.gDevice.load Offset.callPCType = 0) (hfirst : s.globals.ValidFirst)
    {row : Row} (hrow : row ∈ s.globals.sentRows) :
  row ∈ s.stored.map Prod.snd ∨ row = s.globals.cardIndex 0
  := by
  have hany : Run.Along (activeStep true) (fun s e => 1 = 0 → AtSend NoSign s e) es (.start g) :=
    Run.Along.of_forall fun _ _ _ hzero => absurd hzero Nat.one_ne_zero
  have hnew : NewFrom 1 s.globals s.stored := newFrom_of_run hpos hany hrun
  have hrecord : Recorded s.globals s.stored :=
    hany.invariant (I := fun s => Recorded s.globals s.stored)
      (fun _ _ _ h _ hstep => activeStep_recorded h hstep) (recorded_nil g) hrun
  obtain ⟨-, i, hi, heq, -⟩ := mem_sentRows htype hrow
  obtain ⟨n, hle, hvalid, hrows⟩ := hfirst.validRows_eq
  rw [hrows, List.length_map, List.length_range] at hi
  rw [if_pos (hvalid i hi)] at heq
  rw [heq]
  by_cases hzero : i = 0
  · right
    rw [hzero]
  · left
    exact List.mem_map_of_mem (hrecord i (hnew i (by omega) (hi.trans_le hle)))

end UhfReader
