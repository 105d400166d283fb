import UhfReader.Boot
import UhfReader.Clock
import UhfReader.Command
import UhfReader.Lib.Run
import UhfReader.Lib.Slots

/-!
# Saved tags

In active mode `judgeTag` decides which of the tags just read are reported, and keeps them in
`TagSaveBuf`.  The modes `CallPCType` 0 and 1 keep a copy of the tags just read.  The other modes
keep tags until they expire: a tag just read is looked up among the rows kept, and when it is new
it takes the place of an expired one or is appended.

The rows kept are a table of slots in the sense of `Lib.Slots`: `TagSaveCount` is its window, the
local variable `count` its cursor, and an expired row is a free slot.
-/

open Memory

namespace UhfReader

/-! ### `judgeTag` -/

/-- `tmpNum`, the number of tags to keep: `TagHoldNum`, at most `SAVEMAXNUM`. -/
def SDevice.tmpNum (d : SDevice) : ℕ :=
  let n := (d.load Offset.tagHoldNumH).toNat * 256 + (d.load Offset.tagHoldNumL).toNat
  if n > maxNum then maxNum else n

/-- `keeptime`, in seconds. -/
def SDevice.keeptime (d : SDevice) : ℕ :=
  (d.load Offset.tagExisTimeH).toNat * 256 + (d.load Offset.tagExisTimeL).toNat

/-- The seconds of a day for the hour, minute and second at `off`. -/
def seconds (m : Mem) (off : ℕ) : ℕ :=
  (m off).toNat * 3600 + (m (off + 1)).toNat * 60 + (m (off + 2)).toNat

/-- The rows that `judgeTag` considers: their length is 1 to 15. -/
def Row.Valid (row : Row) : Prop := ¬ row.load 0 > 15 ∧ row.load 0 ≠ 0

instance (row : Row) : Decidable row.Valid := inferInstanceAs (Decidable (_ ∧ _))

namespace Globals

/-- The copy of `CardIndex` that `judgeTag` makes for the `CallPCType` 0 and 1.  A row is copied
to its own place, even when rows before it are left out. -/
def copyTags (g : Globals) : Globals :=
  (List.range g.cardPos).foldl
    (fun g j =>
      if (g.cardIndex j).Valid then
        { g with
          tagSaveBuf := Function.update g.tagSaveBuf j (g.cardIndex j)
          tagSaveCount := g.tagSaveCount + 1 }
      else g)
    { g with tagSaveCount := 0 }

/-- The row has expired: it was first seen more than `keeptime` seconds ago, as far as the time
of day tells. -/
def Expires (g : Globals) (k : ℕ) : Prop :=
  k < g.tagSaveCount ∧ (g.tagSaveBuf k).load 0 ≠ 0
    ∧ seconds (g.tagSaveBuf k).load tagIdLength + g.gDevice.keeptime
      < seconds g.gDevice.load (Offset.readerTime + 3)

instance (g : Globals) (k : ℕ) : Decidable (g.Expires k) := inferInstanceAs (Decidable (_ ∧ _ ∧ _))

/-- The expired rows are marked by a zero length. -/
def expireTags (g : Globals) : Globals :=
  { g with tagSaveBuf := fun k =>
      if g.Expires k then (g.tagSaveBuf k).put 0 0 else g.tagSaveBuf k }

/-- `reduceTag`: a row has expired. -/
def reduceTag (g : Globals) : ℕ := if (List.range g.tagSaveCount).any (g.Expires ·) then 1 else 0

end Globals

/-- The variables of the main loop of `judgeTag`. -/
structure Judging where
  tagSaveBuf : ℕ → Row
  tagSaveCount : ℕ
  count : ℕ
  addTag : ℕ

/-- The tag just read is the one in the row kept: the lengths do not differ, unless the row is
free, and the bytes are the same. -/
def sameTag (row card : Row) : Bool :=
  let len := (card.load 0).toNat * 2
  let tmplen := (row.load 0).toNat * 2
  ¬ (len ≠ tmplen ∧ tmplen ≠ 0) ∧ compare row.load card.load (len + 1)

namespace Judging

/-- Replace the row `k`. -/
def setRow (s : Judging) (k : ℕ) (row : Row) : Judging :=
  { s with tagSaveBuf := Function.update s.tagSaveBuf k row }

/-- A new tag is put behind the rows kept.  When `count` has reached `tmpNum`, it starts again at
the first row. -/
def append (tmpNum : ℕ) (s : Judging) (card : Row) : Judging :=
  let s := s.setRow s.count card
  if s.count < tmpNum then { s with count := s.count + 1 }
  else { s with count := 0, tagSaveCount := tmpNum }

/-- A tag just read: the time of a row that has it is updated, or it takes the first free row, or
it is appended. -/
def judge (tmpNum : ℕ) (s : Judging) (card : Row) : Judging :=
  match (List.range s.tagSaveCount).find? fun k => sameTag (s.tagSaveBuf k) card with
  | some k =>
    s.setRow k ((s.tagSaveBuf k).copy (tagIdLength + 3) (Mem.shift card.load (tagIdLength + 3)) 3)
  | none =>
    match (List.range s.tagSaveCount).find? fun k => (s.tagSaveBuf k).load 0 = 0 with
    | some k => { s.setRow k card with addTag := 1 }
    | none => { s.append tmpNum card with addTag := 1 }

end Judging

/-- The main loop of `judgeTag`, over the rows of `CardIndex`. -/
def judgeLoop (g : Globals) : Judging :=
  (List.range g.cardPos).foldl
    (fun s j =>
      if (g.cardIndex j).Valid then s.judge g.gDevice.tmpNum (g.cardIndex j) else s)
    { tagSaveBuf := g.tagSaveBuf, tagSaveCount := g.tagSaveCount, count := g.tagSaveCount
      addTag := 0 }

/-- `judgeTag` for the `CallPCType` 2 and above: its result and the globals. -/
def judgeKept (g : Globals) : ℕ × Globals :=
  let g := g.readClock
  let reduceTag := g.reduceTag
  let s := judgeLoop g.expireTags
  let tagSaveCount :=
    if s.tagSaveCount ≠ g.gDevice.tmpNum then s.count else s.tagSaveCount
  let callPCType := g.gDevice.load Offset.callPCType
  (if callPCType = 2 then s.addTag else if callPCType = 3 then reduceTag
    else s.addTag + reduceTag,
    { g with tagSaveBuf := s.tagSaveBuf, tagSaveCount := tagSaveCount })

/-- `judgeTag`: its result and the globals.  `timerIsOverflow` takes the overflow back. -/
def judgeTag (g : Globals) : ℕ × Globals :=
  if g.gDevice.load Offset.callPCType = 0 then (g.copyTags.tagSaveCount, g.copyTags)
  else if g.gDevice.load Offset.callPCType = 1 then
    if g.outPutTimer.isOverflow = 0 then (0, g)
    else
      let g := { { g with outPutTimer.isOverflow := 0 }.copyTags with cardPos := 0 }
      if g.tagSaveCount = 0 ∧ g.gDevice.load Offset.callPCEnable ≠ 0 then
        (222, { g with tagSaveCount := 1 })
      else (g.tagSaveCount, g)
  else judgeKept g

/-! ### Copies of the tags just read -/

/-- The rows of `CardIndex` that are considered, in their order. -/
def Globals.validRows (g : Globals) : List Row :=
  ((List.range g.cardPos).map g.cardIndex).filter (·.Valid)

/-- The copy puts each row that is considered at its own place, and counts them. -/
theorem copyTags_eq (g : Globals) :
  g.copyTags
    = { g with
        tagSaveBuf := fun j =>
          if j < g.cardPos ∧ (g.cardIndex j).Valid then g.cardIndex j else g.tagSaveBuf j
        tagSaveCount := g.validRows.length }
  := by
  have hfold : ∀ n : ℕ,
      (List.range n).foldl
        (fun g j =>
          if (g.cardIndex j).Valid then
            { g with
              tagSaveBuf := Function.update g.tagSaveBuf j (g.cardIndex j)
              tagSaveCount := g.tagSaveCount + 1 }
          else g)
        { g with tagSaveCount := 0 }
      = { g with
          tagSaveBuf := fun j =>
            if j < n ∧ (g.cardIndex j).Valid then g.cardIndex j else g.tagSaveBuf j
          tagSaveCount := (((List.range n).map g.cardIndex).filter (·.Valid)).length } := by
    intro n
    induction n with
    | zero =>
      simp only [List.range_zero, List.foldl_nil, Nat.not_lt_zero, false_and, if_false,
        List.map_nil, List.filter_nil, List.length_nil]
    | succ n ih =>
      rw [List.range_succ, List.foldl_append, ih, List.foldl_cons, List.foldl_nil, List.map_append,
        List.filter_append, List.length_append, List.map_singleton]
      dsimp only
      -- the row `n` is copied or left out
      by_cases hvalid : (g.cardIndex n).Valid
      · rw [if_pos hvalid, List.filter_singleton, decide_eq_true hvalid, cond_true]
        congr 1
        funext j
        by_cases hj : j = n
        · rw [hj, Function.update_self, if_pos ⟨Nat.lt_succ_self n, hvalid⟩]
        · rw [Function.update_of_ne hj]
          simp only [Nat.lt_succ_iff_lt_or_eq, or_iff_left hj]
      · rw [if_neg hvalid, List.filter_singleton, decide_eq_false hvalid, cond_false]
        congr 1
        funext j
        by_cases hj : j = n
        · rw [hj, if_neg fun h => Nat.lt_irrefl n h.1, if_neg fun h => hvalid h.2]
        · simp only [Nat.lt_succ_iff_lt_or_eq, or_iff_left hj]
  exact hfold g.cardPos

/-- Rows with a tag in each are counted one by one. -/
theorem copyTags_tagSaveCount (g : Globals) (hvalid : ∀ j < g.cardPos, (g.cardIndex j).Valid) :
  g.copyTags.tagSaveCount = g.cardPos
  := by
  rw [copyTags_eq]
  show g.validRows.length = g.cardPos
  have hall : g.validRows = (List.range g.cardPos).map g.cardIndex := by
    apply List.filter_eq_self.mpr
    intro row hrow
    obtain ⟨j, hj, rfl⟩ := List.mem_map.mp hrow
    exact decide_eq_true (hvalid j (List.mem_range.mp hj))
  rw [hall, List.length_map, List.length_range]

/-! ### The rows kept as a table of slots -/

/-- The length and the identifier in a row. -/
def Row.tag (row : Row) : List UInt8 := row.load.take (2 * (row.load 0).toNat + 1)

/-- The tag in a row, if the row is not free. -/
def Row.entry (row : Row) : Option (List UInt8) := if row.load 0 = 0 then none else some row.tag

/-- The slots that the main loop of `judgeTag` works on. -/
def Judging.slots (s : Judging) : Slots (List UInt8) where
  slot k := (s.tagSaveBuf k).entry
  window := s.tagSaveCount
  cursor := s.count

theorem Row.Valid.le {row : Row} (h : row.Valid) :
  (row.load 0).toNat ≤ 15
  := by
  have := UInt8.le_iff_toNat_le.mp (UInt8.not_lt.mp h.1)
  exact this

theorem Row.Valid.entry_eq {row : Row} (h : row.Valid) :
  row.entry = some row.tag
  := if_neg h.2

theorem Row.isNone_entry (row : Row) :
  row.entry.isNone = decide (row.load 0 = 0)
  := by
  unfold Row.entry
  split
  · rename_i h
    simp [h]
  · rename_i h
    simp [h]

/-- Rows with the same tag have the same length. -/
theorem Row.load_of_tag_eq {row card : Row} (h : row.tag = card.tag) :
  row.load 0 = card.load 0
  := by
  have hlength := congrArg List.length h
  unfold Row.tag at hlength
  rw [Mem.length_take, Mem.length_take] at hlength
  exact UInt8.toNat_inj.mp (by omega)

theorem compare_iff {m m' : Mem} {n : ℕ} :
  compare m m' n = true ↔ m.take n = m'.take n
  := by
  unfold compare Mem.take
  simp

/-- A tag just read is found in the rows that have it. -/
theorem sameTag_iff {row card : Row} (h : card.Valid) :
  sameTag row card = true ↔ row.entry = some card.tag
  := by
  have hvalid := h.2
  unfold sameTag Row.entry
  simp only [decide_eq_true_eq, Bool.decide_and, Bool.and_eq_true, compare_iff]
  constructor
  · rintro ⟨-, hsame⟩
    have hzero : row.load 0 = card.load 0 := by
      have hget := List.getElem_of_eq hsame (i := 0) (by rw [Mem.length_take]; omega)
      simpa [Mem.take] using hget
    rw [hzero, if_neg hvalid]
    unfold Row.tag
    rw [hzero, Nat.mul_comm 2, hsame]
  · intro hentry
    split at hentry
    · cases hentry
    · have htag := Option.some.inj hentry
      have hzero := Row.load_of_tag_eq htag
      unfold Row.tag at htag
      rw [hzero, Nat.mul_comm 2] at htag
      refine ⟨?_, htag⟩
      rw [hzero]
      exact fun hne => absurd rfl hne.1

/-- The time in a row is no part of its tag. -/
theorem Row.entry_copy {row : Row} (h : (row.load 0).toNat ≤ 15) (src : Mem) :
  Row.entry (row.copy (tagIdLength + 3) src 3) = row.entry
  := by
  have hload : ∀ i < tagIdLength, (row.copy (tagIdLength + 3) src 3).load i = row.load i := by
    intro i hi
    exact Block.load_copy_outside (.inl (by omega))
  have hzero := hload 0 (by decide)
  unfold Row.entry Row.tag
  rw [hzero]
  split
  · rfl
  · congr 1
    apply Mem.AgreeBelow.take_eq
    intro i hi
    apply hload
    simp only [tagIdLength]
    omega

theorem Judging.slots_setRow (s : Judging) (k : ℕ) {card : Row} (h : card.Valid) :
  (s.setRow k card).slots = s.slots.put k card.tag
  := by
  apply Slots.ext
  · funext i
    rw [Slots.put_slot]
    by_cases hi : i = k
    · rw [if_pos hi, hi]
      simp [Judging.slots, Judging.setRow, h.entry_eq]
    · rw [if_neg hi]
      simp [Judging.slots, Judging.setRow, hi]
  · rfl
  · rfl

theorem Judging.slots_append (tmpNum : ℕ) (s : Judging) {card : Row} (h : card.Valid) :
  (s.append tmpNum card).slots = s.slots.append tmpNum card.tag
  := by
  have hput : s.slots.put s.slots.cursor card.tag = (s.setRow s.count card).slots :=
    (s.slots_setRow s.count h).symm
  unfold Judging.append Slots.append
  rw [hput]
  dsimp only
  by_cases hlt : s.count < tmpNum
  · rw [if_pos (by exact hlt), if_pos (by exact hlt)]
    rfl
  · rw [if_neg (by exact hlt), if_neg (by exact hlt)]
    rfl

/-- A round of the main loop enters the tag into the table of slots. -/
theorem Judging.slots_judge (tmpNum : ℕ) (s : Judging) {card : Row} (h : card.Valid) :
  (s.judge tmpNum card).slots = s.slots.enter tmpNum card.tag
  := by
  unfold Judging.judge Slots.enter
  cases hfind : (List.range s.tagSaveCount).find? fun k => sameTag (s.tagSaveBuf k) card with
  | some k =>
    have hk := List.mem_range.mp (List.mem_of_find?_eq_some hfind)
    have hsame := List.find?_some hfind
    have hentry := (sameTag_iff h).mp hsame
    rw [if_pos ⟨k, hk, hentry⟩]
    -- only the time of the row changes
    have hlen : ((s.tagSaveBuf k).load 0).toNat ≤ 15 := by
      have htag : (s.tagSaveBuf k).tag = card.tag := by
        unfold Row.entry at hentry
        split at hentry
        · cases hentry
        · exact Option.some.inj hentry
      rw [Row.load_of_tag_eq htag]
      exact h.le
    apply Slots.ext
    · funext i
      by_cases hi : i = k
      · rw [hi]
        simp only [Judging.slots, Judging.setRow, Function.update_self]
        exact Row.entry_copy hlen _
      · simp only [Judging.slots, Judging.setRow, Function.update_of_ne hi]
    · rfl
    · rfl
  | none =>
    have hhas : ¬ s.slots.Has card.tag := by
      rintro ⟨k, hk, hentry⟩
      have := List.find?_eq_none.mp hfind k (List.mem_range.mpr hk)
      exact this ((sameTag_iff h).mpr hentry)
    have hfirst : s.slots.firstFree
        = (List.range s.tagSaveCount).find? fun k => (s.tagSaveBuf k).load 0 = 0 := by
      unfold Slots.firstFree Judging.slots
      simp only [Row.isNone_entry]
    rw [if_neg hhas, hfirst]
    cases (List.range s.tagSaveCount).find? fun k => (s.tagSaveBuf k).load 0 = 0 with
    | some k => exact s.slots_setRow k h
    | none => exact s.slots_append tmpNum h

/-- The tags just read that `judgeTag` considers. -/
def tagsRead (g : Globals) : List (List UInt8) :=
  (((List.range g.cardPos).map g.cardIndex).filter (·.Valid)).map Row.tag

/-- The main loop enters the tags just read. -/
theorem slots_judgeLoop (g : Globals) :
  (judgeLoop g).slots
    = (tagsRead g).foldl (Slots.enter g.gDevice.tmpNum)
        (Judging.slots ⟨g.tagSaveBuf, g.tagSaveCount, g.tagSaveCount, 0⟩)
  := by
  have hfold : ∀ (rows : List Row) (s : Judging),
      (rows.foldl (fun s row => if row.Valid then s.judge g.gDevice.tmpNum row else s) s).slots
        = ((rows.filter (·.Valid)).map Row.tag).foldl (Slots.enter g.gDevice.tmpNum) s.slots := by
    intro rows
    induction rows with
    | nil =>
      intro s
      rfl
    | cons row rows ih =>
      intro s
      rw [List.foldl_cons, ih, List.filter_cons]
      by_cases hvalid : row.Valid
      · rw [if_pos hvalid, if_pos (decide_eq_true hvalid), List.map_cons, List.foldl_cons,
          Judging.slots_judge _ _ hvalid]
      · rw [if_neg hvalid, if_neg (by simpa using hvalid)]
  unfold judgeLoop tagsRead
  rw [← hfold, List.foldl_map]

/-! ### Calls of `judgeTag` -/

/-- `TagSaveBuf` and `TagSaveCount`. -/
@[ext]
structure TagStore where
  tagSaveBuf : ℕ → Row
  tagSaveCount : ℕ

/-- The tags kept among the globals. -/
def Globals.tagStore (g : Globals) : TagStore := ⟨g.tagSaveBuf, g.tagSaveCount⟩

/-- The globals with other tags kept. -/
def Globals.withTagStore (g : Globals) (s : TagStore) : Globals :=
  { g with tagSaveBuf := s.tagSaveBuf, tagSaveCount := s.tagSaveCount }

namespace TagStore

/-- No tag is kept. -/
def empty : TagStore := ⟨fun _ => Block.zero 39, 0⟩

/-- The rows kept as a table of slots between two calls. -/
def slots (s : TagStore) : Slots (List UInt8) where
  slot k := (s.tagSaveBuf k).entry
  window := s.tagSaveCount
  cursor := s.tagSaveCount

/-- The tag is kept in a row. -/
def Keeps (s : TagStore) (tag : List UInt8) : Prop :=
  ∃ k < s.tagSaveCount, (s.tagSaveBuf k).load 0 ≠ 0 ∧ (s.tagSaveBuf k).tag = tag

/-- No two rows keep the same tag. -/
def Unique (s : TagStore) : Prop :=
  ∀ i < s.tagSaveCount, ∀ j < s.tagSaveCount, (s.tagSaveBuf i).load 0 ≠ 0 →
    (s.tagSaveBuf i).tag = (s.tagSaveBuf j).tag → i = j

/-- The rows kept when `judgeTag` is called in the globals `g`, with those freed that have expired
by then. -/
def unexpired (s : TagStore) (g : Globals) : Slots (List UInt8) :=
  (g.withTagStore s).readClock.expireTags.tagStore.slots

/-- The tags just read that are neither among the rows kept nor find a free row. -/
def newcomers (s : TagStore) (g : Globals) : List (List UInt8) :=
  Slots.newcomers (s.unexpired g).live (s.unexpired g).free (tagsRead g)

theorem has_slots_iff (s : TagStore) (tag : List UInt8) :
  s.slots.Has tag ↔ s.Keeps tag
  := by
  unfold Slots.Has Keeps slots Row.entry
  constructor
  · rintro ⟨k, hk, hentry⟩
    dsimp only at hk hentry
    split at hentry
    · cases hentry
    · exact ⟨k, hk, by assumption, Option.some.inj hentry⟩
  · rintro ⟨k, hk, hlive, htag⟩
    refine ⟨k, hk, ?_⟩
    dsimp only
    rw [if_neg hlive, htag]

theorem unique_iff (s : TagStore) :
  s.Unique ↔ s.slots.UniqueBelow s.tagSaveCount
  := by
  unfold Unique Slots.UniqueBelow slots Row.entry
  constructor
  · intro h i hi j hj tag hit hjt
    dsimp only at hit hjt
    split at hit
    · cases hit
    · split at hjt
      · cases hjt
      · rw [← Option.some.inj hjt] at hit
        exact h i hi j hj (by assumption) (Option.some.inj hit)
  · intro h i hi j hj hlive htag
    have hlive' : (s.tagSaveBuf j).load 0 ≠ 0 := by
      rwa [← Row.load_of_tag_eq htag]
    apply h i hi j hj (s.tagSaveBuf i).tag
    · dsimp only
      rw [if_neg hlive]
    · dsimp only
      rw [if_neg hlive', htag]

/-- The rows that have not expired are kept. -/
theorem unexpired_slot (s : TagStore) (g : Globals) (k : ℕ) :
  (s.unexpired g).slot k
    = if (g.withTagStore s).readClock.Expires k then none else s.slots.slot k
  := by
  have hrow : (s.unexpired g).slot k
      = Row.entry (if (g.withTagStore s).readClock.Expires k then (s.tagSaveBuf k).put 0 0
          else s.tagSaveBuf k) := rfl
  rw [hrow]
  split
  · rfl
  · rfl

/-- The rows kept are distinct after some have expired, too. -/
theorem Unique.unexpired {s : TagStore} (h : s.Unique) (g : Globals) :
  (s.unexpired g).UniqueBelow s.tagSaveCount
  := by
  have hslot : ∀ k tag, (s.unexpired g).slot k = some tag → s.slots.slot k = some tag := by
    intro k tag hk
    rw [unexpired_slot] at hk
    split at hk
    · cases hk
    · exact hk
  intro i hi j hj tag hit hjt
  exact s.unique_iff.mp h i hi j hj tag (hslot i tag hit) (hslot j tag hjt)

end TagStore

theorem tmpNum_readClock (g : Globals) :
  g.readClock.gDevice.tmpNum = g.gDevice.tmpNum
  := by
  unfold SDevice.tmpNum Globals.readClock
  rw [Block.load_copy_outside (by decide), Block.load_copy_outside (by decide)]

/-- A call with a `CallPCType` of 2 or more enters the tags just read among those kept. -/
theorem judgeTag_tagStore (s : TagStore) {g : Globals}
    (htype : 2 ≤ g.gDevice.load Offset.callPCType) :
  let s' := (judgeTag (g.withTagStore s)).2.tagStore
  let after := (s.unexpired g).enterAll g.gDevice.tmpNum (tagsRead g)
  s'.slots.slot = after.slot ∧ s'.tagSaveCount = after.window
  := by
  intro s' after
  have hzero : g.gDevice.load Offset.callPCType ≠ 0 := by
    intro h
    rw [h] at htype
    exact absurd htype (by decide)
  have hone : g.gDevice.load Offset.callPCType ≠ 1 := by
    intro h
    rw [h] at htype
    exact absurd htype (by decide)
  have hjudge : judgeTag (g.withTagStore s) = judgeKept (g.withTagStore s) := by
    unfold judgeTag
    rw [if_neg (by exact hzero), if_neg (by exact hone)]
  have hnum : (g.withTagStore s).readClock.gDevice.tmpNum = g.gDevice.tmpNum :=
    tmpNum_readClock (g.withTagStore s)
  -- the slots at the end of the main loop
  have hloop : (judgeLoop (g.withTagStore s).readClock.expireTags).slots
      = (tagsRead g).foldl (Slots.enter g.gDevice.tmpNum)
          { s.unexpired g with cursor := (s.unexpired g).window } := by
    rw [← hnum]
    exact slots_judgeLoop _
  have hs' : s' = (judgeKept (g.withTagStore s)).2.tagStore := by
    unfold s'
    rw [hjudge]
  unfold judgeKept at hs'
  dsimp only [Globals.tagStore] at hs'
  rw [hnum] at hs'
  generalize judgeLoop (g.withTagStore s).readClock.expireTags = loop at hloop hs'
  unfold after Slots.enterAll
  rw [← hloop, hs']
  unfold Slots.settle
  split
  · rename_i hne
    rw [if_pos (by exact hne)]
    exact ⟨rfl, rfl⟩
  · rename_i hne
    rw [if_neg (by exact hne)]
    exact ⟨rfl, rfl⟩

/-- A call of `judgeTag` in the globals `g`, with a `CallPCType` of 2 or more and `num` tags to
keep. -/
def judgeStep (num : ℕ) (s : TagStore) (g : Globals) : Option TagStore :=
  if 2 ≤ g.gDevice.load Offset.callPCType ∧ g.gDevice.tmpNum = num then
    some (judgeTag (g.withTagStore s)).2.tagStore
  else none

/-- What a call does to the tags kept. -/
theorem judgeStep_eq_some {num : ℕ} {s s' : TagStore} {g : Globals}
    (h : judgeStep num s g = some s') :
  s'.slots.slot = ((s.unexpired g).enterAll num (tagsRead g)).slot
    ∧ s'.tagSaveCount = ((s.unexpired g).enterAll num (tagsRead g)).window
  := by
  unfold judgeStep at h
  split at h
  · rename_i hcall
    obtain ⟨htype, rfl⟩ := hcall
    rw [← Option.some.inj h]
    exact judgeTag_tagStore s htype
  · cases h

/-- The tags kept are never more than `TagHoldNum`. -/
theorem judgeStep_tagSaveCount {num : ℕ} {s s' : TagStore} {g : Globals}
    (hle : s.tagSaveCount ≤ num) (h : judgeStep num s g = some s') :
  s'.tagSaveCount ≤ num
  := by
  rw [(judgeStep_eq_some h).2]
  exact Slots.window_enterAll hle _

/-! ### No tag is kept twice -/

/-- The tags just read that find no free row come only once, unless all rows are in use.  It is in
the rows up to `TagSaveCount` only that a tag is looked up, and those behind them are added to
`TagSaveCount` at the end of the call. -/
def NewcomersOnce (num : ℕ) (s : TagStore) (g : Globals) : Prop :=
  s.tagSaveCount < num → (s.newcomers g).Nodup

instance (num : ℕ) (s : TagStore) (g : Globals) : Decidable (NewcomersOnce num s g) :=
  inferInstanceAs (Decidable (_ → _))

/-- In every run of calls of `judgeTag` from an empty store, in which the newcomers of a call come
only once, no tag is kept twice. -/
theorem saved_tags_unique (num : ℕ) (calls : List Globals) (s : TagStore)
    (honce : Run.Along (judgeStep num) (NewcomersOnce num) calls .empty)
    (hrun : Run.run (judgeStep num) calls .empty = some s) :
  s.Unique
  := by
  have hstep : ∀ (s : TagStore) (g : Globals) (s' : TagStore),
      s.tagSaveCount ≤ num ∧ s.Unique → NewcomersOnce num s g → judgeStep num s g = some s' →
      s'.tagSaveCount ≤ num ∧ s'.Unique := by
    rintro s g s' ⟨hle, hunique⟩ honce h
    refine ⟨judgeStep_tagSaveCount hle h, ?_⟩
    obtain ⟨hslot, hwindow⟩ := judgeStep_eq_some h
    have hafter := Slots.uniqueBelow_enterAll (s := s.unexpired g) (l := tagsRead g) hle
      (hunique.unexpired g) honce
    rw [TagStore.unique_iff, hwindow]
    intro i hi j hj tag hit hjt
    rw [hslot] at hit hjt
    exact hafter i hi j hj tag hit hjt
  have hempty : TagStore.empty.tagSaveCount ≤ num ∧ TagStore.empty.Unique := by
    refine ⟨Nat.zero_le _, ?_⟩
    intro i hi
    cases hi
  exact (honce.invariant hstep hempty hrun).2

/-- A tag with an identifier of one word. -/
def tagRow (b : UInt8) : Row := ((Block.zero 39).put 0 1).put 1 b

/-- A reader that has just read the tags in the given rows, and keeps `num` tags. -/
def afterReading (num : UInt8) (rows : List Row) : Globals :=
  { (powerOn .blank).toGlobals with
    gDevice := ((Block.zero 210).put Offset.callPCType 2).put Offset.tagHoldNumL num
    cardIndex := fun k => rows.getD k (Block.zero 39)
    cardPos := rows.length }

/-- Two calls, the second with a tag that is kept from the first. -/
theorem saved_tags_unique_two :
  ∃ s, Run.run (judgeStep 5)
      [afterReading 5 [tagRow 1, tagRow 2], afterReading 5 [tagRow 3, tagRow 1]] .empty = some s
    ∧ s.tagSaveCount = 3 ∧ s.Unique
  := by
  have hrun : (Run.run (judgeStep 5)
      [afterReading 5 [tagRow 1, tagRow 2], afterReading 5 [tagRow 3, tagRow 1]] .empty).map
      TagStore.tagSaveCount = some 3 := by
    decide +kernel
  rw [Option.map_eq_some_iff] at hrun
  obtain ⟨s, hrun, hcount⟩ := hrun
  exact ⟨s, hrun, hcount, saved_tags_unique 5 _ s (by decide +kernel) hrun⟩

/-- A tag that is read twice before it is kept is kept twice. -/
theorem new_tag_kept_twice :
  ∃ s, Run.run (judgeStep 5) [afterReading 5 [tagRow 1, tagRow 1]] .empty = some s ∧ ¬ s.Unique
  := by
  have hrun : (Run.run (judgeStep 5) [afterReading 5 [tagRow 1, tagRow 1]] .empty).map
      (fun s => (s.tagSaveCount, (s.tagSaveBuf 0).tag, (s.tagSaveBuf 1).tag))
      = some (2, [1, 1, 0], [1, 1, 0]) := by
    decide +kernel
  rw [Option.map_eq_some_iff] at hrun
  obtain ⟨s, hrun, hrows⟩ := hrun
  simp only [Prod.mk.injEq] at hrows
  obtain ⟨hcount, hzero, hone⟩ := hrows
  refine ⟨s, hrun, ?_⟩
  intro hunique
  have hlive : (s.tagSaveBuf 0).load 0 ≠ 0 := by
    intro hfree
    have hlength := congrArg List.length hzero
    rw [Row.tag, Mem.length_take, hfree] at hlength
    cases hlength
  exact absurd (hunique 0 (by omega) 1 (by omega) hlive (hzero.trans hone.symm)) (by decide)

/-! ### No tag is lost -/

/-- There is a row for each of the tags just read that find no free one. -/
def RowsForNewcomers (num : ℕ) (s : TagStore) (g : Globals) : Prop :=
  s.tagSaveCount + (s.newcomers g).length ≤ num

instance (num : ℕ) (s : TagStore) (g : Globals) : Decidable (RowsForNewcomers num s g) :=
  inferInstanceAs (Decidable (_ ≤ _))

/-- After every run of calls of `judgeTag` from an empty store, a further call that finds a row for
each of its newcomers keeps every valid tag just read, and the number of rows is within
`TagHoldNum`. -/
theorem saved_tags_kept (num : ℕ) (calls : List Globals) (s s' : TagStore) (g : Globals)
    (hrun : Run.run (judgeStep num) calls .empty = some s)
    (hrows : RowsForNewcomers num s g) (hcall : judgeStep num s g = some s') :
  (∀ j < g.cardPos, (g.cardIndex j).Valid → s'.Keeps (g.cardIndex j).tag)
    ∧ s'.tagSaveCount ≤ num
  := by
  have hle : s.tagSaveCount ≤ num := by
    have halong : Run.Along (judgeStep num) (fun _ _ => True) calls .empty :=
      Run.Along.of_forall fun _ _ _ => trivial
    have hstep : ∀ (s : TagStore) (g : Globals) (s' : TagStore), s.tagSaveCount ≤ num → True →
        judgeStep num s g = some s' → s'.tagSaveCount ≤ num := by
      intro s g s' hle _ h
      exact judgeStep_tagSaveCount hle h
    exact halong.invariant (I := fun s => s.tagSaveCount ≤ num) hstep (Nat.zero_le _) hrun
  refine ⟨?_, judgeStep_tagSaveCount hle hcall⟩
  intro j hj hvalid
  have hread : (g.cardIndex j).tag ∈ tagsRead g := by
    unfold tagsRead
    apply List.mem_map_of_mem
    rw [List.mem_filter]
    refine ⟨List.mem_map_of_mem (List.mem_range.mpr hj), ?_⟩
    exact decide_eq_true hvalid
  obtain ⟨hslot, hwindow⟩ := judgeStep_eq_some hcall
  obtain ⟨k, hk, hentry⟩ := Slots.has_enterAll (s := s.unexpired g) (by exact hrows) _ hread
  rw [← TagStore.has_slots_iff]
  refine ⟨k, ?_, ?_⟩
  · exact hk.trans_eq hwindow.symm
  · rw [hslot]
    exact hentry

/-- The tags of a second call are kept beside the one of the first. -/
theorem saved_tags_kept_two :
  ∃ s s', Run.run (judgeStep 3) [afterReading 3 [tagRow 1]] .empty = some s
    ∧ judgeStep 3 s (afterReading 3 [tagRow 2, tagRow 3]) = some s'
    ∧ s'.Keeps (tagRow 2).tag ∧ s'.Keeps (tagRow 3).tag
  := by
  have hrun : (Run.run (judgeStep 3) [afterReading 3 [tagRow 1]] .empty).map
      (fun s => (decide (RowsForNewcomers 3 s (afterReading 3 [tagRow 2, tagRow 3])),
        (judgeStep 3 s (afterReading 3 [tagRow 2, tagRow 3])).isSome)) = some (true, true) := by
    decide +kernel
  rw [Option.map_eq_some_iff] at hrun
  obtain ⟨s, hrun, hcall⟩ := hrun
  simp only [Prod.mk.injEq, decide_eq_true_eq] at hcall
  obtain ⟨hrows, hcall⟩ := hcall
  obtain ⟨s', hcall⟩ := Option.isSome_iff_exists.mp hcall
  obtain ⟨hkept, -⟩ := saved_tags_kept 3 _ s s' _ hrun hrows hcall
  exact ⟨s, s', hrun, hcall, hkept 0 (by decide) (by decide), hkept 1 (by decide) (by decide)⟩

/-- With all rows in use, one new tag is lost: it is put into the row behind them. -/
theorem new_tag_lost :
  ∃ s s', Run.run (judgeStep 1) [afterReading 1 [tagRow 1]] .empty = some s
    ∧ judgeStep 1 s (afterReading 1 [tagRow 2]) = some s' ∧ ¬ s'.Keeps (tagRow 2).tag
  := by
  have hrun : (Run.run (judgeStep 1) [afterReading 1 [tagRow 1]] .empty).bind
      (fun s => (judgeStep 1 s (afterReading 1 [tagRow 2])).map
        fun s' => (s'.tagSaveCount, (s'.tagSaveBuf 0).tag)) = some (1, [1, 1, 0]) := by
    decide +kernel
  obtain ⟨s, hrun, hcall⟩ := Option.bind_eq_some_iff.mp hrun
  obtain ⟨s', hcall, hrows⟩ := Option.map_eq_some_iff.mp hcall
  simp only [Prod.mk.injEq] at hrows
  obtain ⟨hcount, hzero⟩ := hrows
  refine ⟨s, s', hrun, hcall, ?_⟩
  rintro ⟨k, hk, -, htag⟩
  have hk0 : k = 0 := by omega
  rw [hk0, hzero] at htag
  exact absurd htag (by decide)

end UhfReader
