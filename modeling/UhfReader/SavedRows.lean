import UhfReader.Snapshots

/-!
# Rows of `TagSaveBuf`

`TagSaveBuf` has `SAVEMAXNUM` rows.  `judgeStores` lists the rows that a call of `judgeTag` stores
into.  A snapshot stores no row behind the batch.  The other modes append at the cursor `count`,
and compare it with `TagHoldNum` only after the row has been stored: the row behind the table is
used when `count` is `SAVEMAXNUM` and a further tag comes.
-/

open Memory

namespace UhfReader

/-! ### The rows stored by a call -/

namespace Judging

/-- The row that a round of the main loop stores into. -/
def rowStored (s : Judging) (card : Row) : ℕ :=
  match (List.range s.tagSaveCount).find? fun k => sameTag (s.tagSaveBuf k) card with
  | some k => k
  | none =>
    ((List.range s.tagSaveCount).find? fun k => (s.tagSaveBuf k).load 0 = 0).getD s.count

/-- The rows that the main loop stores into. -/
def rowsStored (tmpNum : ℕ) : List Row → Judging → List ℕ
  | [], _ => []
  | row :: rows, s =>
    if row.Valid then s.rowStored row :: rowsStored tmpNum rows (s.judge tmpNum row)
    else rowsStored tmpNum rows s

/-- The variables before the main loop. -/
def start (g : Globals) : Judging := ⟨g.tagSaveBuf, g.tagSaveCount, g.tagSaveCount, 0⟩

/-- A round changes no other row. -/
theorem judge_tagSaveBuf {tmpNum : ℕ} {s : Judging} {card : Row} {i : ℕ}
    (h : i ≠ s.rowStored card) :
  (s.judge tmpNum card).tagSaveBuf i = s.tagSaveBuf i
  := by
  unfold rowStored at h
  unfold judge
  cases hfind : (List.range s.tagSaveCount).find? fun k => sameTag (s.tagSaveBuf k) card with
  | some k =>
    rw [hfind] at h
    exact Function.update_of_ne h _ _
  | none =>
    rw [hfind] at h
    dsimp only at h ⊢
    cases hfirst : (List.range s.tagSaveCount).find? fun k => (s.tagSaveBuf k).load 0 = 0 with
    | some k =>
      rw [hfirst] at h
      exact Function.update_of_ne h _ _
    | none =>
      rw [hfirst] at h
      unfold append
      dsimp only
      split
      · exact Function.update_of_ne h _ _
      · exact Function.update_of_ne h _ _

/-- The row is the slot that the tag is entered into. -/
theorem rowStored_eq_place {s : Judging} {card : Row} (h : card.Valid) :
  s.rowStored card = s.slots.place card.tag
  := by
  have hsame : ((List.range s.slots.window).find? fun k => s.slots.slot k = some card.tag)
      = (List.range s.tagSaveCount).find? fun k => sameTag (s.tagSaveBuf k) card := by
    have hpred : (fun k => decide (s.slots.slot k = some card.tag))
        = fun k => sameTag (s.tagSaveBuf k) card := by
      funext k
      rw [Bool.eq_iff_iff, decide_eq_true_eq]
      exact (sameTag_iff h).symm
    rw [hpred]
    rfl
  have hfirst : s.slots.firstFree
      = (List.range s.tagSaveCount).find? fun k => (s.tagSaveBuf k).load 0 = 0 := by
    unfold Slots.firstFree slots
    simp only [Row.isNone_entry]
  unfold rowStored Slots.place
  rw [hsame, hfirst]
  rfl

/-- The rows are the slots that the tags just read are entered into. -/
theorem rowsStored_eq_places (tmpNum : ℕ) (rows : List Row) (s : Judging) :
  rowsStored tmpNum rows s
    = Slots.places tmpNum ((rows.filter (·.Valid)).map Row.tag) s.slots
  := by
  induction rows generalizing s with
  | nil => rfl
  | cons row rows ih =>
    unfold rowsStored
    rw [List.filter_cons]
    by_cases hvalid : row.Valid
    · rw [if_pos hvalid, if_pos (decide_eq_true hvalid), List.map_cons, Slots.places,
        rowStored_eq_place hvalid, ih, slots_judge _ _ hvalid]
    · rw [if_neg hvalid, if_neg (by simpa using hvalid), ih]

/-- The main loop changes no other rows. -/
theorem foldl_tagSaveBuf {tmpNum : ℕ} {rows : List Row} {s : Judging} {i : ℕ}
    (h : i ∉ rowsStored tmpNum rows s) :
  (rows.foldl (fun s row => if row.Valid then s.judge tmpNum row else s) s).tagSaveBuf i
    = s.tagSaveBuf i
  := by
  induction rows generalizing s with
  | nil => rfl
  | cons row rows ih =>
    unfold rowsStored at h
    rw [List.foldl_cons]
    by_cases hvalid : row.Valid
    · rw [if_pos hvalid, List.mem_cons, not_or] at h
      rw [if_pos hvalid, ih h.2, judge_tagSaveBuf h.1]
    · rw [if_neg hvalid] at h
      rw [if_neg hvalid, ih h]

end Judging

/-- The main loop goes through the rows of `CardIndex`. -/
theorem judgeLoop_eq (g : Globals) :
  judgeLoop g
    = ((List.range g.cardPos).map g.cardIndex).foldl
        (fun s row => if row.Valid then s.judge g.gDevice.tmpNum row else s) (.start g)
  := by
  rw [List.foldl_map]
  rfl

/-- The rows of `TagSaveBuf` that `judgeTag` stores into. -/
def judgeStores (g : Globals) : List ℕ :=
  let copied := (List.range g.cardPos).filter fun j => (g.cardIndex j).Valid
  if g.gDevice.load Offset.callPCType = 0 then copied
  else if g.gDevice.load Offset.callPCType = 1 then
    if g.outPutTimer.isOverflow = 0 then [] else copied
  else
    let g := g.readClock
    (List.range g.tagSaveCount).filter (g.Expires ·)
      ++ Judging.rowsStored g.gDevice.tmpNum ((List.range g.cardPos).map g.cardIndex)
          (.start g.expireTags)

/-- A copy of the tags just read changes no other rows. -/
theorem copyTags_tagSaveBuf {g : Globals} {i : ℕ}
    (h : i ∉ (List.range g.cardPos).filter fun j => (g.cardIndex j).Valid) :
  g.copyTags.tagSaveBuf i = g.tagSaveBuf i
  := by
  rw [copyTags_eq]
  dsimp only
  rw [if_neg]
  rintro ⟨hlt, hvalid⟩
  exact h (List.mem_filter.mpr ⟨List.mem_range.mpr hlt, decide_eq_true hvalid⟩)

/-- No other row of `TagSaveBuf` changes. -/
theorem judgeTag_tagSaveBuf {g : Globals} {i : ℕ} (h : i ∉ judgeStores g) :
  (judgeTag g).2.tagSaveBuf i = g.tagSaveBuf i
  := by
  unfold judgeStores at h
  unfold judgeTag
  dsimp only at h
  split
  · rename_i hzero
    rw [if_pos hzero] at h
    exact copyTags_tagSaveBuf h
  · rename_i hzero
    rw [if_neg hzero] at h
    split
    · rename_i hone
      rw [if_pos hone] at h
      split
      · rfl
      · rename_i hoverflow
        rw [if_neg hoverflow] at h
        have hcopy := copyTags_tagSaveBuf (g := { g with outPutTimer.isOverflow := 0 }) h
        dsimp only
        split
        · exact hcopy
        · exact hcopy
    · rename_i hone
      rw [if_neg hone, List.mem_append, not_or] at h
      have hloop : (judgeLoop g.readClock.expireTags).tagSaveBuf i
          = (Judging.start g.readClock.expireTags).tagSaveBuf i := by
        rw [judgeLoop_eq]
        exact Judging.foldl_tagSaveBuf h.2
      unfold judgeKept
      refine hloop.trans ?_
      have hexpired : ¬ g.readClock.Expires i := by
        intro hexpires
        exact h.1 (List.mem_filter.mpr
          ⟨List.mem_range.mpr hexpires.1, decide_eq_true hexpires⟩)
      exact if_neg hexpired

/-! ### Runs -/

/-- What stores into `TagSaveBuf` or `TagSaveCount`. -/
inductive SaveEvent where
  /-- A call of `judgeTag`, with all the other globals as they are then. -/
  | judgeTag (g : Globals) (batch : g.cardPos ≤ maxNum)
  | clearTagListMem (g : Globals)
  /-- `TagSaveCount = 1` in `sendDataOut`, for a message without tags. -/
  | heartbeat

namespace SaveEvent

/-- The tags kept after a step. -/
def step (s : TagStore) : SaveEvent → Option TagStore
  | .judgeTag g _ => some (UhfReader.judgeTag (g.withTagStore s)).2.tagStore
  | .clearTagListMem g =>
    (UhfReader.clearTagListMem (fun _ => 0) (g.withTagStore s)).map fun ran => ran.2.tagStore
  | .heartbeat => some { s with tagSaveCount := 1 }

/-- `judgeTag` stores into rows of the table only. -/
def StoresInside (s : TagStore) : SaveEvent → Prop
  | .judgeTag g _ => ∀ k ∈ judgeStores (g.withTagStore s), k < maxNum
  | .clearTagListMem _ | .heartbeat => True

/-- There is room in the table: not all of it is in use, and fewer tags are to be kept than it has
rows; or the tags just read that are neither kept nor find a free row fit behind those kept. -/
def RoomToAppend (s : TagStore) : SaveEvent → Prop
  | .judgeTag g _ =>
    2 ≤ g.gDevice.load Offset.callPCType →
      g.gDevice.tmpNum < maxNum ∧ s.tagSaveCount < maxNum
        ∨ s.tagSaveCount + (s.newcomers g).length ≤ maxNum
  | .clearTagListMem _ | .heartbeat => True

end SaveEvent

theorem SDevice.tmpNum_le (d : SDevice) :
  d.tmpNum ≤ maxNum
  := by
  unfold SDevice.tmpNum
  dsimp only
  split
  · exact le_rfl
  · omega

theorem two_le_callPCType_iff (c : UInt8) :
  2 ≤ c ↔ c ≠ 0 ∧ c ≠ 1
  := by
  rw [UInt8.le_iff_toNat_le, ne_eq, ne_eq, ← UInt8.toNat_inj, ← UInt8.toNat_inj]
  have htwo : (2 : UInt8).toNat = 2 := rfl
  have hone : (1 : UInt8).toNat = 1 := rfl
  have hzero : (0 : UInt8).toNat = 0 := rfl
  omega

/-- The rows stored by a call that keeps tags: those that have expired, and those that the tags
just read are entered into. -/
theorem judgeStores_kept (s : TagStore) {g : Globals}
    (htype : 2 ≤ g.gDevice.load Offset.callPCType) :
  judgeStores (g.withTagStore s)
    = (List.range s.tagSaveCount).filter ((g.withTagStore s).readClock.Expires ·)
      ++ Slots.places g.gDevice.tmpNum (tagsRead g)
          { s.unexpired g with cursor := (s.unexpired g).window }
  := by
  obtain ⟨hzero, hone⟩ := (two_le_callPCType_iff _).mp htype
  have hnum : (g.withTagStore s).readClock.gDevice.tmpNum = g.gDevice.tmpNum :=
    tmpNum_readClock (g.withTagStore s)
  unfold judgeStores
  dsimp only
  rw [if_neg (by exact hzero), if_neg (by exact hone), Judging.rowsStored_eq_places, hnum]
  rfl

/-- A snapshot stores rows of the batch only. -/
theorem judgeStores_lt {g : Globals} (htype : ¬ 2 ≤ g.gDevice.load Offset.callPCType) :
  ∀ k ∈ judgeStores g, k < g.cardPos
  := by
  rw [two_le_callPCType_iff, not_and_or, not_not, not_not] at htype
  have hcopied : ∀ k ∈ (List.range g.cardPos).filter fun j => (g.cardIndex j).Valid,
      k < g.cardPos := by
    intro k hk
    exact List.mem_range.mp (List.mem_filter.mp hk).1
  unfold judgeStores
  dsimp only
  split
  · exact hcopied
  · rename_i hzero
    rw [if_pos (htype.resolve_left hzero)]
    split
    · intro k hk
      cases hk
    · exact hcopied

/-- After a snapshot as many rows are kept as are considered, or one for a message without tags. -/
theorem judgeTag_tagSaveCount {g : Globals} (htype : ¬ 2 ≤ g.gDevice.load Offset.callPCType) :
  (judgeTag g).2.tagStore.tagSaveCount = g.tagSaveCount
    ∨ (judgeTag g).2.tagStore.tagSaveCount = g.validRows.length
    ∨ (judgeTag g).2.tagStore.tagSaveCount = 1
  := by
  rw [two_le_callPCType_iff, not_and_or, not_not, not_not] at htype
  have hcopied : ∀ g : Globals, g.copyTags.tagSaveCount = g.validRows.length := by
    intro g
    rw [copyTags_eq]
  unfold judgeTag
  split
  · exact .inr (.inl (hcopied g))
  · rename_i hzero
    rw [if_pos (htype.resolve_left hzero)]
    split
    · exact .inl rfl
    · right
      dsimp only
      split
      · exact .inr rfl
      · exact .inl (hcopied { g with outPutTimer.isOverflow := 0 })

namespace SaveEvent

variable {s s' : TagStore}

/-- A call stores into rows of the table only if and only if there is room. -/
theorem storesInside_iff (hle : s.tagSaveCount ≤ maxNum) (e : SaveEvent) :
  StoresInside s e ↔ RoomToAppend s e
  := by
  cases e with
  | judgeTag g batch =>
    unfold StoresInside RoomToAppend
    dsimp only
    by_cases htype : 2 ≤ g.gDevice.load Offset.callPCType
    · have hroom := Slots.places_lt_iff (s := { s.unexpired g with cursor := s.tagSaveCount })
        g.gDevice.tmpNum_le le_rfl hle (tagsRead g)
      rw [judgeStores_kept s htype, imp_iff_right htype, List.forall_mem_append]
      have hexpired : ∀ k ∈ (List.range s.tagSaveCount).filter
          ((g.withTagStore s).readClock.Expires ·), k < maxNum := by
        intro k hk
        exact (List.mem_range.mp (List.mem_filter.mp hk).1).trans_le hle
      rw [and_iff_right hexpired]
      exact hroom
    · constructor
      · intro _ h
        exact absurd h htype
      · intro _ k hk
        exact (judgeStores_lt (g := g.withTagStore s) htype k hk).trans_le batch
  | clearTagListMem g => exact Iff.rfl
  | heartbeat => exact Iff.rfl

/-- No step counts more rows than the table has. -/
theorem tagSaveCount_step {e : SaveEvent} (hle : s.tagSaveCount ≤ maxNum)
    (h : step s e = some s') :
  s'.tagSaveCount ≤ maxNum
  := by
  cases e with
  | judgeTag g batch =>
    cases h
    by_cases htype : 2 ≤ g.gDevice.load Offset.callPCType
    · rw [(judgeTag_tagStore s htype).2]
      exact Slots.window_enterAll_le g.gDevice.tmpNum_le (by exact hle) _
    · obtain hsame | hvalid | hone := judgeTag_tagSaveCount (g := g.withTagStore s) htype
      · exact hsame.trans_le hle
      · exact hvalid.trans_le ((Globals.length_validRows_le _).trans batch)
      · rw [hone]
        decide
  | clearTagListMem g =>
    cases h
    show s.tagSaveCount / 256 * 256 ≤ maxNum
    exact (Nat.div_mul_le_self _ _).trans hle
  | heartbeat =>
    cases h
    show 1 ≤ maxNum
    decide

/-- The number of rows kept stays within the table. -/
theorem throughout_tagSaveCount (es : List SaveEvent) (hle : s.tagSaveCount ≤ maxNum) :
  Run.Along.Throughout step (fun s => s.tagSaveCount ≤ maxNum) es s
  := by
  intro es₁ es₂ s' _ hrun
  have halong : Run.Along step (fun _ _ => True) es₁ s := Run.Along.of_forall fun _ _ _ => trivial
  apply halong.invariant (I := fun s => s.tagSaveCount ≤ maxNum) _ hle hrun
  intro s e s' hle _ h
  exact tagSaveCount_step hle h

end SaveEvent

/-- In every run, `judgeTag` stores into rows of the table only, and never counts more rows than
the table has, if and only if there is room at every call. -/
theorem saved_rows_iff (es : List SaveEvent) :
  Run.Along SaveEvent.step SaveEvent.StoresInside es .empty
      ∧ Run.Along.Throughout SaveEvent.step (fun s => s.tagSaveCount ≤ maxNum) es .empty
    ↔ Run.Along SaveEvent.step SaveEvent.RoomToAppend es .empty
  := by
  have hempty : TagStore.empty.tagSaveCount ≤ maxNum := Nat.zero_le _
  rw [and_iff_left (SaveEvent.throughout_tagSaveCount es hempty)]
  constructor
  · intro h
    apply h.of_invariant (I := fun s => s.tagSaveCount ≤ maxNum)
    · intro s e s' hle _ hstep
      exact SaveEvent.tagSaveCount_step hle hstep
    · intro s e hle hinside
      exact (SaveEvent.storesInside_iff hle e).mp hinside
    · exact hempty
  · intro h
    apply h.of_invariant (I := fun s => s.tagSaveCount ≤ maxNum)
    · intro s e s' hle _ hstep
      exact SaveEvent.tagSaveCount_step hle hstep
    · intro s e hle hroom
      exact (SaveEvent.storesInside_iff hle e).mpr hroom
    · exact hempty

/-- A snapshot of tags with a valid length keeps them all. -/
theorem step_snapshot {g : Globals} (s : TagStore)
    (htype : g.gDevice.load Offset.callPCType = 0) (batch : g.cardPos ≤ maxNum)
    (hvalid : ∀ j < g.cardPos, (g.cardIndex j).Valid) :
  ∃ s', SaveEvent.step s (.judgeTag g batch) = some s' ∧ s'.tagSaveCount = g.cardPos
    ∧ ∀ k < g.cardPos, s'.tagSaveBuf k = g.cardIndex k
  := by
  have hjudge : (judgeTag (g.withTagStore s)).2 = (g.withTagStore s).copyTags := by
    unfold judgeTag
    rw [if_pos (by exact htype)]
  use (judgeTag (g.withTagStore s)).2.tagStore
  rw [hjudge]
  refine ⟨congrArg (fun g : Globals => some g.tagStore) hjudge, copyTags_tagSaveCount _ hvalid, ?_⟩
  intro k hk
  rw [copyTags_eq]
  exact if_pos ⟨hk, hvalid k hk⟩

theorem gDevice_readClock (g : Globals) (s : TagStore) :
  (g.withTagStore s).readClock.gDevice = g.readClock.gDevice
  := rfl

/-- When all rows are in use, none expires and the tag just read is in none of them, there is no
room for it. -/
theorem not_roomToAppend {g : Globals} {s : TagStore} {batch : g.cardPos ≤ maxNum} (row : Row)
    (htype : 2 ≤ g.gDevice.load Offset.callPCType) (hread : tagsRead g = [row.tag])
    (hfull : s.tagSaveCount = maxNum)
    (hrows : ∀ k < maxNum, (s.tagSaveBuf k).load 0 ≠ 0 ∧ (s.tagSaveBuf k).tag ≠ row.tag)
    (hexpires : ∀ k < maxNum, ¬ (g.withTagStore s).readClock.Expires k) :
  ¬ SaveEvent.RoomToAppend s (.judgeTag g batch)
  := by
  have hslot : ∀ k < maxNum, (s.unexpired g).slot k = some (s.tagSaveBuf k).tag := by
    intro k hk
    rw [TagStore.unexpired_slot, if_neg (hexpires k hk)]
    exact if_neg (hrows k hk).1
  have hwindow : (s.unexpired g).window = maxNum := hfull
  have hhas : row.tag ∉ (s.unexpired g).live := by
    rw [Slots.mem_live]
    rintro ⟨k, hk, htag⟩
    rw [hwindow] at hk
    rw [hslot k hk] at htag
    exact (hrows k hk).2 (Option.some.inj htag)
  have hfree : (s.unexpired g).free = 0 := by
    rw [← Slots.firstFree_eq_none_iff, Slots.firstFree, List.find?_eq_none, hwindow]
    intro k hk
    rw [hslot k (List.mem_range.mp hk)]
    exact Bool.false_ne_true
  have hnew : s.newcomers g = [row.tag] := by
    unfold TagStore.newcomers
    rw [hread, hfree, Slots.newcomers, if_neg hhas, if_neg (Nat.lt_irrefl 0)]
    rfl
  intro hroom
  have hcases := hroom htype
  rw [hnew, hfull, List.length_singleton] at hcases
  omega

/-- A tag with the number `k` as its identifier. -/
def numberedRow (k : ℕ) : Row :=
  (((Block.zero 39).put 0 1).put 1 (UInt8.ofNat (k / 256))).put 2 (UInt8.ofNat k)

/-- A reader that has just read the tags with the numbers from `first`, `count` of them. -/
def numbered (callPCType : UInt8) (first count : ℕ) : Globals :=
  { (powerOn .blank).toGlobals with
    gDevice := (Block.zero 210).put Offset.callPCType callPCType
    cardIndex := fun k => numberedRow (first + k)
    cardPos := count }

theorem numberedRow_load (k : ℕ) :
  (numberedRow k).load 0 = 1
    ∧ (numberedRow k).tag = [1, UInt8.ofNat (k / 256), UInt8.ofNat k]
  := by
  have hzero : (numberedRow k).load 0 = 1 := rfl
  refine ⟨hzero, ?_⟩
  unfold Row.tag
  rw [hzero]
  rfl

theorem numberedRow_valid (k : ℕ) :
  (numberedRow k).Valid
  := by
  unfold Row.Valid
  rw [(numberedRow_load k).1]
  decide

/-- Smaller numbers give other tags. -/
theorem numberedRow_tag_ne {k : ℕ} (h : k < maxNum) :
  (numberedRow k).tag ≠ (numberedRow maxNum).tag
  := by
  intro heq
  rw [(numberedRow_load k).2, (numberedRow_load maxNum).2] at heq
  simp only [List.cons.injEq, and_true, true_and] at heq
  obtain ⟨hhigh, hlow⟩ := heq
  have hhigh' := congrArg UInt8.toNat hhigh
  have hlow' := congrArg UInt8.toNat hlow
  simp only [UInt8.toNat_ofNat', maxNum] at hhigh' hlow'
  simp only [maxNum] at h
  omega

/-- After a snapshot of 500 tags, one further tag is stored behind the table. -/
theorem row_500_stored :
  ¬ Run.Along SaveEvent.step SaveEvent.StoresInside
      [.judgeTag (numbered 0 0 maxNum) le_rfl, .judgeTag (numbered 2 maxNum 1) (by decide)] .empty
  := by
  obtain ⟨s, hstep, hs, hrows⟩ := step_snapshot (g := numbered 0 0 maxNum) .empty rfl le_rfl
    fun j _ => numberedRow_valid (0 + j)
  have hrow : ∀ k < maxNum, s.tagSaveBuf k = numberedRow k := by
    intro k hk
    exact (hrows k hk).trans (congrArg numberedRow (Nat.zero_add k))
  have hfull : s.tagSaveCount = maxNum := hs
  intro halong
  have hinside := (halong.tail hstep).1
  rw [SaveEvent.storesInside_iff hfull.le] at hinside
  apply not_roomToAppend (numberedRow maxNum) _ _ hfull _ _ hinside
  · decide
  · decide +kernel
  · intro k hk
    rw [hrow k hk, (numberedRow_load k).1]
    exact ⟨by decide, numberedRow_tag_ne hk⟩
  · rintro k hk ⟨-, -, hlt⟩
    -- the clock still stands at midnight
    have hclock : seconds ((numbered 2 maxNum 1).withTagStore s).readClock.gDevice.load
        (Offset.readerTime + 3) = 0 := by
      rw [gDevice_readClock]
      decide +kernel
    rw [hclock] at hlt
    exact Nat.not_lt_zero _ hlt

end UhfReader
