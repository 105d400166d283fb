import UhfReader.Atomicity
import UhfReader.Paging

/-!
# Saved tags in `common.c`

`main.c` keeps the saved tags in `TagSaveBuf` and counts them in `TagSaveCount`, an `unsigned int`.
`common.c` declares `TagSaveCount` as an `unsigned char`: `ClearTagListMem` clears its low byte and
`GetTagRecord` reads its low byte.  `GetTagRecord` takes the tags of a reply from `CardIndex`.
-/

open Memory

namespace UhfReader

/-! ### The count of both modules -/

/-- `TagSaveCount` as `common.c` reads it. -/
def Globals.byteCount (g : Globals) : ℕ := g.tagSaveCount % 256

/-- What uses the saved tags, or changes something else. -/
inductive CountEvent where
  | judgeTag
  | clearTagListMem
  | getTagRecord
  | elsewhere (f : Globals → Globals)

/-- The globals with the count that was last stored: by `judgeTag`, or zero by `ClearTagListMem`. -/
structure Counted where
  globals : Globals
  stored : ℕ

namespace Counted

/-- No count was stored yet but the one that is there. -/
def start (g : Globals) : Counted := ⟨g, g.tagSaveCount⟩

/-- A step of the globals.  Nothing else stores a count. -/
def step (s : Counted) : CountEvent → Option Counted
  | .judgeTag =>
    let judged := (UhfReader.judgeTag s.globals).2
    some ⟨judged, judged.tagSaveCount⟩
  | .clearTagListMem => (UhfReader.clearTagListMem (fun _ => 0) s.globals).map fun ran => ⟨ran.2, 0⟩
  | .getTagRecord =>
    (UhfReader.getTagRecord (fun _ => 0) s.globals).map fun ran => ⟨ran.2, s.stored⟩
  | .elsewhere f =>
    if (f s.globals).tagSaveCount = s.globals.tagSaveCount then some ⟨f s.globals, s.stored⟩
    else none

/-- Both modules work with the count that was last stored: `main.c` with all of it, which is zero
after `ClearTagListMem`, and `GetTagRecord` with the byte that it reads. -/
def Agrees (s : Counted) : CountEvent → Prop
  | .judgeTag => s.globals.tagSaveCount = s.stored
  | .clearTagListMem => ∀ s', s.step .clearTagListMem = some s' → s'.globals.tagSaveCount = 0
  | .getTagRecord => s.globals.byteCount = s.stored
  | .elsewhere _ => True

/-- The functions of `common.c` are called when the count fits into a byte. -/
def FitsByte (s : Counted) : CountEvent → Prop
  | .clearTagListMem | .getTagRecord => s.globals.tagSaveCount < 256
  | .judgeTag | .elsewhere _ => True

/-- The count among the globals is the one last stored. -/
def Current (s : Counted) : Prop := s.globals.tagSaveCount = s.stored

end Counted

/-- `GetTagRecord` does not change the count. -/
theorem tagRecord_tagSaveCount (g : Globals) :
  (tagRecord g).tagSaveCount = g.tagSaveCount
  := by
  apply tagRecord_frame (f := Globals.tagSaveCount)
  · intro g
    rfl
  · intro g buf len count
    rfl

namespace Counted

variable {s s' : Counted}

/-- The count is current until a count above 255 is cleared. -/
theorem Current.step {e : CountEvent} (h : s.Current)
    (hclear : e = .clearTagListMem → s.globals.tagSaveCount < 256) (hstep : s.step e = some s') :
  s'.Current
  := by
  cases e with
  | judgeTag =>
    cases hstep
    rfl
  | clearTagListMem =>
    cases hstep
    have hlt := hclear rfl
    show s.globals.tagSaveCount / 256 * 256 = 0
    omega
  | getTagRecord =>
    cases hstep
    exact (tagRecord_tagSaveCount s.globals).trans h
  | elsewhere f =>
    unfold Counted.step at hstep
    dsimp only at hstep
    split at hstep
    · rename_i hsame
      cases hstep
      exact hsame.trans h
    · cases hstep

/-- While the count is current, both modules work with it if and only if it fits into a byte. -/
theorem Current.agrees_iff (h : s.Current) (e : CountEvent) :
  s.Agrees e ↔ s.FitsByte e
  := by
  cases e with
  | judgeTag => exact ⟨fun _ => trivial, fun _ => h⟩
  | clearTagListMem =>
    have hcleared : s.Agrees .clearTagListMem ↔ s.globals.tagSaveCount / 256 * 256 = 0 := by
      constructor
      · intro hagrees
        exact hagrees _ rfl
      · rintro hzero s' hstep
        cases hstep
        exact hzero
    rw [hcleared]
    show _ ↔ s.globals.tagSaveCount < 256
    omega
  | getTagRecord =>
    show s.globals.tagSaveCount % 256 = s.stored ↔ s.globals.tagSaveCount < 256
    have hcurrent : s.globals.tagSaveCount = s.stored := h
    omega
  | elsewhere f => exact ⟨fun _ => trivial, fun _ => trivial⟩

/-- A step that fits into a byte keeps the count current. -/
theorem Current.step_fits {e : CountEvent} (h : s.Current) (hfits : s.FitsByte e)
    (hstep : s.step e = some s') :
  s'.Current
  := by
  apply h.step _ hstep
  rintro rfl
  exact hfits

end Counted

/-- In every run of calls of `judgeTag`, `ClearTagListMem` and `GetTagRecord`, the two modules work
with the same count if and only if the count fits into a byte whenever a function of `common.c` is
called. -/
theorem same_count_iff (es : List CountEvent) (g : Globals) :
  Run.Along Counted.step Counted.Agrees es (.start g)
    ↔ Run.Along Counted.step Counted.FitsByte es (.start g)
  := by
  constructor
  · intro h
    apply h.of_invariant (I := Counted.Current)
    · intro s e s' hcurrent hagrees
      exact hcurrent.step_fits ((hcurrent.agrees_iff e).mp hagrees)
    · intro s e hcurrent hagrees
      exact (hcurrent.agrees_iff e).mp hagrees
    · rfl
  · intro h
    apply h.of_invariant (I := Counted.Current)
    · intro s e s' hcurrent hfits
      exact hcurrent.step_fits hfits
    · intro s e hcurrent hfits
      exact (hcurrent.agrees_iff e).mpr hfits
    · rfl

/-- 256 tags have just been read. -/
def read256 (g : Globals) : Globals := { g with cardIndex := fun _ => tagRow 1, cardPos := 256 }

/-- After 256 tags were saved and cleared, `judgeTag` still sees 256. -/
theorem saved_256_not_cleared :
  ∃ s, Run.run Counted.step [.elsewhere read256, .judgeTag, .clearTagListMem]
      (.start (powerOn .blank).toGlobals) = some s
    ∧ s.globals.tagSaveCount = 256
    ∧ ¬ Run.Along Counted.step Counted.Agrees [.elsewhere read256, .judgeTag, .clearTagListMem]
        (.start (powerOn .blank).toGlobals)
  := by
  have htype : (powerOn .blank).gDevice.load Offset.callPCType = 0 := by
    rw [powerOn_eq]
    decide
  generalize (powerOn .blank).toGlobals = g at htype
  have hread : Counted.step (.start g) (.elsewhere read256) = some ⟨read256 g, g.tagSaveCount⟩ :=
    if_pos rfl
  have hjudge : judgeTag (read256 g) = ((read256 g).copyTags.tagSaveCount, (read256 g).copyTags) :=
    if_pos htype
  have hcount : (read256 g).copyTags.tagSaveCount = 256 := by
    apply copyTags_tagSaveCount
    intro j _
    show (tagRow 1).Valid
    decide
  have hsaved : Counted.step ⟨read256 g, g.tagSaveCount⟩ .judgeTag
      = some ⟨(read256 g).copyTags, 256⟩ := by
    unfold Counted.step
    dsimp only
    rw [hjudge, hcount]
  obtain ⟨s, hcleared, hleft⟩ : ∃ s,
      Counted.step ⟨(read256 g).copyTags, 256⟩ .clearTagListMem = some s
        ∧ s.globals.tagSaveCount = 256 := by
    refine ⟨_, rfl, ?_⟩
    show (read256 g).copyTags.tagSaveCount / 256 * 256 = 256
    rw [hcount]
  refine ⟨s, ?_, hleft, ?_⟩
  · rw [Run.run_cons_of_some hread, Run.run_cons_of_some hsaved, Run.run_cons_of_some hcleared]
    rfl
  · intro h
    have hagrees := ((h.tail hread).tail hsaved).1 s hcleared
    omega

/-! ### Replies with records -/

/-- The tag that a round of `GetTagRecord` copies, with its length byte. -/
def recordTag (g : Globals) : List UInt8 :=
  let row := g.cardMem g.cmd57ReadTagCount.toNat
  row.take (2 * (row 0).toNat + 1)

/-- The tags that the second loop of `GetTagRecord` copies. -/
def recordLoopTags : ℕ → ℕ → Globals → List (List UInt8)
  | 0, _, _ => []
  | fuel + 1, i, g =>
    if i < (g.cmdTmpBuf.load 0).toNat then
      recordTag g :: recordLoopTags fuel (i + 1) (recordRound g)
    else []

/-- The tags that `GetTagRecord` copies into its reply. -/
def recordTags (g : Globals) : List (List UInt8) :=
  let g := { g.readClock with cmdTmpLen := 17 }
  let done := g.cmd57ReadTagCount.toNat
  if g.byteCount > done + 7 then
    let g := { g with cmdTmpBuf := g.cmdTmpBuf.put 0 8 }
    (List.range 8).map fun i => recordTag (recordRound^[i] g)
  else if g.byteCount > done then
    recordLoopTags 256 0
      { g with cmdTmpBuf := g.cmdTmpBuf.put 0 (UInt8.ofNat (g.byteCount - done)) }
  else []

/-- The length of records: a header of 16 bytes and the tag with its length byte. -/
def recordsLength (tags : List (List UInt8)) : ℕ := (tags.map fun tag => 16 + tag.length).sum

theorem recordsLength_cons (tag : List UInt8) (tags : List (List UInt8)) :
  recordsLength (tag :: tags) = 16 + tag.length + recordsLength tags
  := by
  rw [recordsLength, List.map_cons, List.sum_cons, ← recordsLength]

theorem recordsLength_append (tags tags' : List (List UInt8)) :
  recordsLength (tags ++ tags') = recordsLength tags + recordsLength tags'
  := by
  rw [recordsLength, List.map_append, List.sum_append, ← recordsLength, ← recordsLength]

/-- A round adds the length of its record. -/
theorem recordRound_cmdTmpLen (g : Globals) :
  (recordRound g).cmdTmpLen = g.cmdTmpLen + UInt8.ofNat (16 + (recordTag g).length)
  := by
  have hlength : (recordTag g).length
      = 2 * (g.cardMem g.cmd57ReadTagCount.toNat 0).toNat + 1 := Mem.length_take _ _
  rw [hlength]
  show UInt8.ofNat (17 + (g.cmdTmpLen.toNat + _) - 1) = _
  apply UInt8.toNat_inj.mp
  rw [UInt8.toNat_add, UInt8.toNat_ofNat', UInt8.toNat_ofNat']
  omega

theorem iterate_recordRound_cmdTmpLen (n : ℕ) (g : Globals) :
  (recordRound^[n] g).cmdTmpLen
    = g.cmdTmpLen
      + UInt8.ofNat (recordsLength ((List.range n).map fun i => recordTag (recordRound^[i] g)))
  := by
  induction n with
  | zero => exact (UInt8.add_zero _).symm
  | succ n ih =>
    rw [Function.iterate_succ_apply', recordRound_cmdTmpLen, ih, UInt8.add_assoc,
      ← UInt8.ofNat_add, List.range_succ, List.map_append, recordsLength_append]
    rfl

theorem recordLoop_cmdTmpLen (fuel i : ℕ) (g : Globals) :
  (recordLoop fuel i g).cmdTmpLen
    = g.cmdTmpLen + UInt8.ofNat (recordsLength (recordLoopTags fuel i g))
  := by
  induction fuel generalizing i g with
  | zero => exact (UInt8.add_zero _).symm
  | succ fuel ih =>
    unfold recordLoop recordLoopTags
    split
    · rw [ih, recordRound_cmdTmpLen, UInt8.add_assoc, ← UInt8.ofNat_add, recordsLength_cons]
    · exact (UInt8.add_zero _).symm

/-- `cmdTmpLen` starts 16 bytes behind the place of the first record, and it ends 16 bytes behind
the last one. -/
theorem tagRecord_cmdTmpLen (g : Globals) :
  (tagRecord g).cmdTmpLen = 17 + UInt8.ofNat (recordsLength (recordTags g))
  := by
  unfold tagRecord recordTags Globals.byteCount
  dsimp only
  split
  · apply iterate_recordRound_cmdTmpLen
  · split
    · apply recordLoop_cmdTmpLen
    · rfl

/-- A reply to `0x57`: the tags whose records were put into it, its flag and its parameters. -/
structure RecordReply where
  tags : List (List UInt8)
  flag : UInt8
  para : List UInt8

/-- A reader with the replies to `0x57` that it has given. -/
structure Recorder where
  reader : Reader
  replies : List RecordReply

/-- A step of the reader, with its reply. -/
def Recorder.step (s : Recorder) : PagerEvent → Option Recorder
  | .request o buffer length =>
    (processParamTable o buffer length s.reader).map fun reply =>
      { reader := reply.2.2
        replies := s.replies
          ++ [⟨recordTags s.reader.toGlobals, reply.1, replyPara o reply.2.1⟩] }
  | .other f => some { s with reader := f s.reader }

/-- The requests ask for records, and nothing else touches the saved tags. -/
def AsksForRecords (s : Recorder) : PagerEvent → Prop
  | .request _ buffer _ => buffer 2 = 0x57
  | .other f => (f s.reader).tagStore = s.reader.tagStore ∧ Registered (f s.reader).gParamTable

/-- The tags that are saved. -/
def TagStore.saved (s : TagStore) : List (List UInt8) :=
  (List.range s.tagSaveCount).map fun k => (s.tagSaveBuf k).tag

/-- The replies give the saved tags by pages: each reply is sent, it counts its records, eight at
most, and is as long as they are, all records together are those of the saved tags in their order,
and a reply without records is the last one. -/
structure RecordsComplete (saved : List (List UInt8)) (replies : List RecordReply) : Prop where
  sent : ∀ reply ∈ replies, reply.flag = cmdoorCheckOk
  counted : ∀ reply ∈ replies,
    reply.tags.length ≤ 8 ∧ reply.para.head? = some (UInt8.ofNat reply.tags.length)
  length : ∀ reply ∈ replies, reply.para.length = 1 + recordsLength reply.tags
  complete : replies.flatMap RecordReply.tags = saved
  ended : ∃ pages last, replies = pages ++ [last] ∧ last.tags = [] ∧ ∀ page ∈ pages, page.tags ≠ []

/-- The number of parameters of a reply that is sent. -/
theorem length_replyPara_sent {o : CmdOrigin} {b : Mem} {n : UInt8} {r : Reader}
    (hlen : b 1 = emptyLen o + n) (hsent : (pack o (cmdoorCheckOk, b, r)).1 = cmdoorCheckOk) :
  (replyPara o (pack o (cmdoorCheckOk, b, r)).2.1).length = n.toNat
  := by
  have hshort : n.toNat < 251 := by
    by_contra hlong
    have herror := packet_long hlen (Nat.not_lt.mp hlong)
    rw [pack] at hsent
    exact absurd (herror.symm.trans hsent) (by decide)
  rw [pack]
  dsimp only
  rw [replyPara, Mem.length_take, packet_ok_len, hlen, toNat_emptyLen_add (by omega),
    Nat.add_sub_cancel_left]

/-- A reply with records is 16 bytes too long, or it is not sent. -/
theorem recordReply_too_long {o : CmdOrigin} {buffer : Mem} {length : ℕ} {r : Reader}
    (hreg : Registered r.gParamTable) (hcmd : buffer 2 = 0x57) {reply : UInt8 × Mem × Reader}
    (hreply : processParamTable o buffer length r = some reply) (hsent : reply.1 = cmdoorCheckOk) :
  (replyPara o reply.2.1).length ≠ 1 + recordsLength (recordTags r.toGlobals)
  := by
  have hentry := hreg.entry
    (show ((0x57 : UInt8), (⟨some .cmdTmpBuf, flagRD, 5, some .getTagRecord⟩ : SParamItem))
      ∈ registeredItems by decide) hcmd
  have hvalid : Valid o buffer length r.toGlobals := by
    obtain ⟨-, herror, -⟩ | ⟨_, _, hvalid, -⟩ := processParamTable_cases hreg hreply
    · exact absurd hsent herror
    · exact hvalid
  rw [processParamTable, processWith_of_valid _ hvalid, Option.map_eq_some_iff,
    dispatch_read _ hvalid hentry.flag] at hreply
  obtain ⟨outcome, hread, rfl⟩ := hreply
  by_cases hlen : readLen buffer = emptyLen o
  · obtain ⟨b, hrecord, hb⟩ := readRequest_record hcmd hlen hentry
    rw [hrecord, Option.some.injEq] at hread
    subst hread
    rw [length_replyPara_sent hb hsent, tagRecord_cmdTmpLen]
    intro heq
    -- the two lengths differ by 16 as bytes
    have hbyte := congrArg UInt8.ofNat heq
    rw [UInt8.ofNat_toNat, UInt8.ofNat_add] at hbyte
    exact absurd (add_right_cancel hbyte) (by decide)
  · rw [readRequest, if_pos hlen, Option.some.injEq] at hread
    subst hread
    have herror : ortherWrong ≠ cmdoorCheckOk := by decide
    rw [pack_error herror] at hsent
    exact absurd hsent herror

/-- Every reply of a recorder is 16 bytes too long, or was not sent. -/
def Recorder.TooLong (s : Recorder) : Prop :=
  ∀ reply ∈ s.replies, reply.flag = cmdoorCheckOk →
    reply.para.length ≠ 1 + recordsLength reply.tags

theorem Recorder.step_tooLong {s s' : Recorder} {e : PagerEvent}
    (h : Registered s.reader.gParamTable ∧ s.TooLong) (hasks : AsksForRecords s e)
    (hstep : s.step e = some s') :
  Registered s'.reader.gParamTable ∧ s'.TooLong
  := by
  obtain ⟨hreg, hlong⟩ := h
  cases e with
  | request o buffer length =>
    simp only [Recorder.step, Option.map_eq_some_iff] at hstep
    obtain ⟨reply, hreply, rfl⟩ := hstep
    refine ⟨processParamTable_registered hreg hreply, ?_⟩
    intro record hmem
    rw [List.mem_append, List.mem_singleton] at hmem
    obtain hold | rfl := hmem
    · exact hlong record hold
    · exact recordReply_too_long hreg hasks hreply
  | other f =>
    cases hstep
    exact ⟨hasks.2, hlong⟩

/-- The saved tags are never given completely: whatever is saved, in every run of requests `0x57`
the replies are not as long as their records, the last one without records among them. -/
theorem records_never_complete (es : List PagerEvent) (r : Reader) (s : Recorder)
    (hreg : Registered r.gParamTable)
    (hasks : Run.Along Recorder.step AsksForRecords es ⟨r, []⟩)
    (hrun : Run.run Recorder.step es ⟨r, []⟩ = some s) :
  ¬ RecordsComplete r.tagStore.saved s.replies
  := by
  intro hcomplete
  have hnone : Registered r.gParamTable ∧ Recorder.TooLong ⟨r, []⟩ := by
    refine ⟨hreg, ?_⟩
    intro reply hmem
    cases hmem
  obtain ⟨-, hlong⟩ := hasks.invariant
    (I := fun s : Recorder => Registered s.reader.gParamTable ∧ s.TooLong)
    (fun s e s' h => Recorder.step_tooLong h) hnone hrun
  obtain ⟨pages, last, hreplies, -⟩ := hcomplete.ended
  have hmem : last ∈ s.replies := by
    rw [hreplies]
    exact List.mem_append_right _ List.mem_cons_self
  exact hlong last hmem (hcomplete.sent last hmem) (hcomplete.length last hmem)

/-- A new reader with one saved tag. -/
def readerWithSavedTag : Reader :=
  { powerOn .blank with
    cardIndex := fun _ => tagRow 1
    tagSaveBuf := fun _ => tagRow 1
    tagSaveCount := 1 }

/-- The request `0x57`. -/
def recordRequest : PagerEvent :=
  .request .sourceFrom232 (requestBuffer .sourceFrom232 0x57 0 [0, 0, 0] fun _ => 0) 7

/-- Two requests are not answered completely. -/
theorem records_never_complete_two :
  ∃ s, Run.run Recorder.step [recordRequest, recordRequest] ⟨readerWithSavedTag, []⟩ = some s
    ∧ s.replies.length = 2 ∧ ¬ RecordsComplete readerWithSavedTag.tagStore.saved s.replies
  := by
  have hrun : (Run.run Recorder.step [recordRequest, recordRequest] ⟨readerWithSavedTag, []⟩).map
      (fun s => s.replies.length) = some 2 := by
    unfold readerWithSavedTag
    rw [powerOn_eq]
    decide +kernel
  obtain ⟨s, hrun, hlength⟩ := Option.map_eq_some_iff.mp hrun
  refine ⟨s, hrun, hlength, records_never_complete _ _ _ ?_ ?_ hrun⟩
  · unfold readerWithSavedTag
    dsimp only
    exact registered_powerOn .blank
  · apply Run.Along.of_forall
    intro e he s
    obtain rfl : e = recordRequest := by simpa using he
    show requestBuffer .sourceFrom232 0x57 0 [0, 0, 0] (fun _ => 0) 2 = 0x57
    decide

/-- The reply with the record of one tag with an identifier of one word has 36 parameters instead
of 20. -/
theorem record_of_36_bytes :
  ∃ s reply, Run.run Recorder.step [recordRequest] ⟨readerWithSavedTag, []⟩ = some s
    ∧ readerWithSavedTag.tagStore.saved = [[1, 1, 0]] ∧ s.replies = [reply]
    ∧ reply.tags = [[1, 1, 0]] ∧ reply.flag = cmdoorCheckOk ∧ reply.para.length = 36
    ∧ ∀ more, ¬ RecordsComplete readerWithSavedTag.tagStore.saved (s.replies ++ more)
  := by
  have hrun : (Run.run Recorder.step [recordRequest] ⟨readerWithSavedTag, []⟩).map
      (fun s => s.replies.map fun reply => (reply.tags, reply.flag, reply.para.length))
      = some [([[1, 1, 0]], cmdoorCheckOk, 36)] := by
    unfold readerWithSavedTag
    rw [powerOn_eq]
    decide +kernel
  obtain ⟨s, hrun, hreplies⟩ := Option.map_eq_some_iff.mp hrun
  obtain ⟨reply, more, hreply, hhead, hmore⟩ := List.map_eq_cons_iff.mp hreplies
  obtain rfl := List.map_eq_nil_iff.mp hmore
  simp only [Prod.mk.injEq] at hhead
  obtain ⟨htags, hflag, hlength⟩ := hhead
  refine ⟨s, reply, hrun, ?_, hreply, htags, hflag, hlength, ?_⟩
  · unfold readerWithSavedTag
    rw [powerOn_eq]
    decide +kernel
  · intro more hcomplete
    have hmem : reply ∈ s.replies ++ more := by
      rw [hreply]
      exact List.mem_cons_self
    have hwrong := hcomplete.length reply hmem
    rw [hlength, htags] at hwrong
    exact absurd hwrong (by decide)

end UhfReader
