import UhfReader.Collect

/-!
# Inventories of ISO18000-6B tags

`DetectTagNum` and `ReadLabelID` ask the R2000 with `0xB0` for the tags in the field.  Each tag
comes in a frame of its own, and a last frame gives their number.  Until that frame has arrived,
`Tag_R2000_CMD80_number` is zero, and the waiting loop takes this for the end of the inventory.
-/

open Memory

namespace UhfReader

/-! ### The frames of an inventory -/

/-- An ISO18000-6B tag, as the R2000 reports it in a frame `0xB0`. -/
structure LabelAnswer where
  address : UInt8
  antenna : UInt8
  uid : List UInt8
  length_uid : uid.length = 8

namespace LabelAnswer

/-- The frame up to its checksum: start, length, address, code, antenna and identifier. -/
def head (a : LabelAnswer) : List UInt8 := [0xA0, 0x0C, a.address, 0xB0, a.antenna] ++ a.uid

/-- The frame of a tag. -/
def bytes (a : LabelAnswer) : List UInt8 := a.head ++ [~~~ a.head.sum + 1]

/-- The row holds the tag: four words, which are its identifier. -/
def InRow (a : LabelAnswer) (row : Row) : Prop :=
  row.load 0 = 4 ∧ (Mem.shift row.load 1).take 8 = a.uid

variable (a : LabelAnswer)

theorem length_bytes :
  a.bytes.length = 14
  := by
  simp [bytes, head, a.length_uid]

/-- A byte of the identifier in the frame. -/
theorem bytes_uid {i : ℕ} (h : i < 8) :
  a.bytes.getD (5 + i) 0 = a.uid.getD i 0
  := by
  have hbytes : a.bytes = [0xA0, 0x0C, a.address, 0xB0, a.antenna]
      ++ (a.uid ++ [~~~ a.head.sum + 1]) := by
    simp [bytes, head]
  rw [hbytes, List.getD_append_right _ _ _ _ (by simp), List.getD_append]
  · congr 1
    simp
  · rw [a.length_uid, List.length_cons, List.length_cons, List.length_cons, List.length_cons,
      List.length_singleton]
    omega

theorem linkFrame :
  LinkFrame a.bytes
  := by
  have hlength := a.length_bytes
  refine ⟨⟨rfl, ?_⟩, by omega, by omega, ?_⟩
  · rw [hlength]
    rfl
  · exact (by decide : (0xB0 : UInt8) ≠ 0x70)

end LabelAnswer

/-- The row that `decodeR2000` writes for a frame `0xB0` holds the tag of the frame. -/
theorem LabelAnswer.inRow (a : LabelAnswer) (d : SDevice) (antenna : UInt8) (row : Row) {src : Mem}
    (hsrc : src.take 8 = a.uid) :
  a.InRow
    (Row.stampTime
      (Block.put (Block.put (Block.copy (Block.put row 0 4) 1 src 8) (tagIdLength + 6) antenna)
        (tagIdLength + 7) 0) d)
  := by
  constructor
  · rw [Row.load_stampTime_of_ne _ _ (.inl (by decide)), Block.load_put (by decide),
      if_neg (by decide), Block.load_put (by decide), if_neg (by decide),
      Block.load_copy_outside (.inl (by decide)), Block.load_put (by decide), if_pos rfl]
  · rw [← hsrc]
    apply Mem.AgreeBelow.take_eq
    intro i hi
    have hlow : 1 + i < tagIdLength := by
      simp only [tagIdLength]
      omega
    rw [Mem.shift_apply, Row.load_stampTime_of_ne _ _ (.inl hlow), Block.load_put (by decide),
      if_neg (by omega), Block.load_put (by decide), if_neg (by omega),
      Block.load_copy_inside hi (by omega)]

/-- The frame that ends an inventory of `n` tags. -/
def endFrame (address antenna : UInt8) (n : ℕ) : List UInt8 :=
  let head := [0xA0, 0x05, address, 0xB0, antenna, UInt8.ofNat n]
  head ++ [~~~ head.sum + 1]

/-- The frames of an inventory: one for each tag, and the one that gives their number. -/
def inventoryFrames (labels : List LabelAnswer) (address antenna : UInt8) : List (List UInt8) :=
  labels.map LabelAnswer.bytes ++ [endFrame address antenna labels.length]

/-! ### The first tag -/

/-- Decoding the frame of a tag appends a row with its identifier, and counts the frame. -/
theorem decodeR2000_label {g : Globals} {a : LabelAnswer}
    (hfull : g.r2000.Holds (Framing.full a.bytes)) (hmask : g.mask6B = 0)
    (hpos : g.cardPos < maxNum) :
  ∃ row beepFlag relayFlag, a.InRow row
    ∧ decodeR2000 g = { g with
        beepFlag := beepFlag, relayFlag := relayFlag
        cardIndex := fun k => if k = g.cardPos then row else g.cardIndex k
        cardPos := g.cardPos + 1
        tagR2000Cmd91Number := (g.tagR2000Cmd91Number + 1) % 2 ^ 32 }
  := by
  have hload : ∀ i < 14, g.r2000.load i = a.bytes.getD i 0 := by
    intro i hi
    apply getD_of_take (hfull.load_full a.linkFrame.short).1
    rwa [a.length_bytes]
  have hcmd : g.r2000.frameCmd = 0xB0 := hload 3 (by decide)
  have hlen : g.r2000.frameLen = 0x0C := hload 1 (by decide)
  have huid : (g.r2000.para.shift 1).take 8 = a.uid := by
    apply List.ext_getElem
    · rw [Mem.length_take, a.length_uid]
    · intro i hi hi'
      have hlt : i < 8 := by rwa [Mem.length_take] at hi
      have hbyte : g.r2000.load (5 + i) = a.uid.getD i 0 :=
        (hload _ (by omega)).trans (a.bytes_uid hlt)
      rw [List.getD_eq_getElem _ _ hi'] at hbyte
      rw [← hbyte]
      simp only [Mem.take, List.getElem_map, List.getElem_range, Mem.shift, SR2000TransData.para]
      congr 1
      omega
  have hmasked : mask6BCheck g (g.r2000.para.shift 1) = true := by
    unfold mask6BCheck
    rw [if_pos hmask]
  unfold decodeR2000
  rw [if_neg (by rw [hcmd]; decide), if_neg (by rw [hcmd]; decide), if_neg (by rw [hcmd]; decide),
    if_neg (by rw [hcmd]; decide), if_pos hcmd]
  unfold decode6B
  dsimp only
  rw [if_pos (by rw [hlen]; decide), if_pos hmasked,
    Globals.advanceCardPos_of_lt (by exact hpos)]
  obtain ⟨relayFlag, hrelay⟩ := Globals.linkRelay_eq _
  rw [hrelay]
  refine ⟨_, g.beepFlag + 1, relayFlag,
    a.inRow g.gDevice (g.r2000.para 0 + 1) (g.cardIndex g.cardPos) huid, ?_⟩
  unfold Globals.storeRow Globals.countTag
  congr 1
  funext k
  dsimp only
  split
  · rename_i hk
    rw [hk]
  · rfl

/-- The first frame is taken for the end of the inventory: `0xB0` returns `1` with one tag, whatever
comes after it. -/
theorem wait_first_label {a : LabelAnswer} {es : List Event} (later : List Event) {g : Globals}
    (hidle : g.r2000.Holds Framing.idle) (hmask : g.mask6B = 0) (hpos : g.cardPos = 0)
    (hexpected : g.tagR2000Cmd80Number = 0) (hbytes : rxBytes es = a.bytes)
    (htime : Run.Along (waitStep 0xB0) InTime (es ++ [.poll]) g) :
  ∃ g', waitR2000 0xB0 (es ++ [.poll] ++ later) g = some (1, g')
    ∧ g'.cardPos = 1 ∧ a.InRow (g'.cardIndex 0)
  := by
  obtain ⟨es₁, b, es₂, g₁, r, rfl, hnone, hrun, hsame, hstep, hfull, hlink, hlate⟩ :=
    run_arrives a.linkFrame hidle hbytes htime
  have hpos₁ : g₁.cardPos = 0 := (congrArg Inventory.cardPos hsame).trans hpos
  have hexpected₁ : g₁.tagR2000Cmd80Number = 0 :=
    (congrArg Inventory.tagR2000Cmd80Number hsame).trans hexpected
  have hmask₁ : g₁.mask6B = 0 := (congrArg Masks.mask6B (run_masks hrun)).trans hmask
  obtain ⟨row, _, _, hrow, hdecode⟩ := decodeR2000_label (g := { g₁ with r2000 := r }) hfull hmask₁
    (show g₁.cardPos < maxNum by rw [hpos₁]; decide)
  have hholds : (decodeR2000 { g₁ with r2000 := r }).r2000.Holds (Framing.full a.bytes) := by
    rwa [hlink]
  -- the next poll
  obtain ⟨es₃, es₄, g₂, hsplit, -, hrun₂, hfull₂, hsame₂⟩ := reaches_poll 0xB0 hnone hholds
  rw [hsplit] at hlate
  have hover : g₂.r2000.sendTimer.isOverflow = 0 := ((Run.Along.append_iff hrun₂).mp hlate).2.1 rfl
  have hinv : g₂.inventory = (decodeR2000 { g₁ with r2000 := r }).inventory := hsame₂
  rw [hdecode] at hinv
  have hexpected₂ : g₂.tagR2000Cmd80Number = 0 :=
    (congrArg Inventory.tagR2000Cmd80Number hinv).trans hexpected₁
  have hpos₂ : g₂.cardPos = 1 := by
    have := congrArg Inventory.cardPos hinv
    simpa [Globals.inventory, hpos₁] using this
  have hrow₂ : g₂.cardIndex 0 = row := by
    have := congrArg (fun s => Inventory.cardIndex s 0) hinv
    simpa [Globals.inventory, hpos₁] using this
  have hpoll : pollR2000 0xB0 g₂ = (takeFrame g₂, some 1) := by
    have hmark : g₂.r2000.setMark ≠ 0 := by
      rw [hfull₂.marked]
      exact (by decide : (1 : UInt8) ≠ 0)
    unfold pollR2000
    rw [if_neg (not_not.mpr hover), if_pos hmark, if_neg (by decide), if_pos rfl,
      if_pos (.inr hexpected₂), if_pos hexpected₂]
  refine ⟨takeFrame g₂, ?_, hpos₂, ?_⟩
  · have hevents : es₁ ++ .rx b :: es₂ ++ [.poll] ++ later
        = es₁ ++ (.rx b :: (es₃ ++ (.poll :: es₄ ++ later))) := by
      rw [← List.append_assoc es₃, ← hsplit]
      simp
    have hbyte : uart4IRQHandler g₁ b = decodeR2000 { g₁ with r2000 := r } := Option.some.inj hstep
    rw [hevents, waitR2000_append _ hrun, waitR2000, hbyte, waitR2000_append _ hrun₂]
    simp only [List.cons_append, waitR2000, hpoll]
  · show a.InRow (g₂.cardIndex 0)
    rwa [hrow₂]

/-! ### `DetectTagNum` and `ReadLabelID` -/

/-- The globals when `DetectTagNum` and `ReadLabelID` send `0xB0`. -/
def labelStart (g : Globals) : Globals :=
  { g with mask6B := 0, tagR2000Cmd91Number := 0, tagR2000Cmd80Number := 0, cardPos := 0 }

/-- `DetectTagNum` replies with the number of tags. -/
def Detects (p : Mem) (g : Globals) (n : ℕ) : Prop :=
  ∃ m g', detectTagNum p g = some (m, g') ∧ g'.cmdTmpLen = 1 ∧ (m 0).toNat = n

/-- `ReadLabelID` ends with the number of tags, and with their identifiers in the first rows. -/
def ReadsLabels (p : Mem) (g : Globals) (labels : List LabelAnswer) : Prop :=
  ∃ m g', readLabelID p g = some (m, g') ∧ g'.tagAllNumber = labels.length
    ∧ ∀ i (h : i < labels.length), (labels.get ⟨i, h⟩).InRow (g'.cardIndex i)

section

variable {p : Mem} {g g' : Globals}

/-- When the first frame arrives, `0xB0` returns `1` with one tag. -/
theorem encodeR2000_first_label {es later : List Event} {rest : List (List Event)} {a : LabelAnswer}
    (hindex : g.r2000.index = 0) (htraffic : g.traffic = (es ++ [.poll] ++ later) :: rest)
    (hbytes : rxBytes es = a.bytes)
    (htime : Run.Along (waitStep 0xB0) InTime (es ++ [.poll])
      ((sendCmd 0xB0 0 p (labelStart g)).setTraffic rest)) :
  ∃ g', encodeR2000 0xB0 p (labelStart g) = some (1, g') ∧ g'.cardPos = 1
    ∧ a.InRow (g'.cardIndex 0)
  := by
  have hstart : labelStart g = (labelStart g).setTraffic ((es ++ [.poll] ++ later) :: rest) := by
    rw [← htraffic]
    rfl
  have hinv := sendCmd_inventory (by decide : (0xB0 : UInt8) ≠ 0x78) 0 p (labelStart g)
  obtain ⟨g', hwait, hpos, hrow⟩ := wait_first_label later
    (g := (sendCmd 0xB0 0 p (labelStart g)).setTraffic rest) (a := a)
    (SR2000TransData.holds_idle_iff.mpr
      ⟨(sendCmd_link _ _ _ _).2, (sendCmd_index ⟨[], rfl, by decide⟩).1.trans hindex⟩)
    rfl (congrArg Inventory.cardPos hinv) (congrArg Inventory.tagR2000Cmd80Number hinv) hbytes htime
  refine ⟨g', ?_, hpos, hrow⟩
  rw [encodeR2000, hstart, encodeR2000From_setTraffic (by decide)]
  exact hwait

/-- An inventory replies with the tags collected when `0xB0` has returned. -/
theorem inventory6B_eq {flagReturn : UInt8} {onTags : M Mem}
    (hcall : encodeR2000 0xB0 p
      { g with tagR2000Cmd91Number := 0, tagR2000Cmd80Number := 0, cardPos := 0 }
      = some (flagReturn, g'))
    (hflag : flagReturn ≠ 0xFF) :
  inventory6B p onTags g = onTags g'
  := by
  unfold inventory6B
  rw [Stateful.bind_modify]
  refine (Stateful.bind_of_some hcall).trans ?_
  rw [if_pos hflag]

/-- `DetectTagNum` replies with the tags collected when `0xB0` returns `1`. -/
theorem detectTagNum_eq (hcall : encodeR2000 0xB0 p (labelStart g) = some (1, g')) :
  detectTagNum p g = some (p.put 0 (UInt8.ofNat g'.cardPos), { g' with cmdTmpLen := 1 })
  := by
  unfold detectTagNum
  rw [Stateful.bind_modify]
  exact inventory6B_eq hcall (by decide)

/-- `ReadLabelID` replies with the first page of the tags collected when `0xB0` returns `1`. -/
theorem readLabelID_eq (hcall : encodeR2000 0xB0 p (labelStart g) = some (1, g')) :
  readLabelID p g = replyFirstPage p appendRow g'
  := by
  unfold readLabelID
  rw [Stateful.bind_modify]
  exact inventory6B_eq hcall (by decide)

end

/-- An inventory of ISO18000-6B tags is complete for one tag only.  When the frames of 1 to 255 tags
and the one with their number arrive while `0xB0` waits, with a poll after each and none too late,
`DetectTagNum` replies with their number if and only if it is one, and so does `ReadLabelID` end
with all of them. -/
theorem labels_complete_iff (p : Mem) (g : Globals) (labels : List LabelAnswer)
    (address antenna : UInt8) (blocks : List (List Event)) (late : List Event)
    (rest : List (List Event)) (hone : 1 ≤ labels.length) (hmax : labels.length ≤ 255)
    (hindex : g.r2000.index = 0) (htraffic : g.traffic = (polled blocks ++ late) :: rest)
    (hblocks : List.Forall₂ (fun f es => rxBytes es = f) (inventoryFrames labels address antenna)
      blocks)
    (htime : Run.Along (waitStep 0xB0) InTime (polled blocks)
      ((sendCmd 0xB0 0 p (labelStart g)).setTraffic rest)) :
  (Detects p g labels.length ↔ labels.length = 1) ∧ (ReadsLabels p g labels ↔ labels.length = 1)
  := by
  obtain ⟨a, more, rfl⟩ := List.exists_cons_of_length_pos hone
  rw [inventoryFrames, List.map_cons, List.cons_append] at hblocks
  obtain ⟨es, blocks, hbytes, -, rfl⟩ := List.forall₂_cons_left_iff.mp hblocks
  have hevents : polled (es :: blocks) = (es ++ [.poll]) ++ polled blocks := rfl
  rw [hevents] at htraffic htime
  rw [List.append_assoc] at htraffic
  obtain ⟨g', hcall, hpos, hrow⟩ := encodeR2000_first_label hindex htraffic hbytes
    (Run.Along.of_append htime)
  constructor
  · have hreply := detectTagNum_eq hcall
    have hcount : (p.put 0 (UInt8.ofNat g'.cardPos)) 0 = 1 := by
      rw [Mem.put_same, hpos]
      rfl
    constructor
    · rintro ⟨m, g'', hdetect, -, hn⟩
      obtain ⟨rfl, rfl⟩ := Prod.mk.inj (Option.some.inj (hreply.symm.trans hdetect))
      rw [hcount] at hn
      exact hn.symm
    · intro hlength
      exact ⟨_, _, hreply, rfl, by rw [hcount, hlength]; rfl⟩
  · have hreply := (readLabelID_eq hcall).trans (replyFirstPage_eq p appendRow g')
    have hall : (firstPage g').tagAllNumber = 1 := by
      show g'.cardPos % 2 ^ 16 = 1
      omega
    constructor
    · rintro ⟨m, g'', hread, hn, -⟩
      obtain ⟨-, rfl⟩ := Prod.mk.inj (Option.some.inj (hreply.symm.trans hread))
      exact hn.symm.trans hall
    · intro hlength
      refine ⟨_, _, hreply, hall.trans hlength.symm, ?_⟩
      intro i hi
      obtain rfl : i = 0 := by omega
      exact hrow

/-- A tag. -/
def label (b : UInt8) : LabelAnswer where
  address := 1
  antenna := 0
  uid := [0xE0, 0x04, 0, 0, 0, 0, 0, b]
  length_uid := rfl

/-- A new reader, and the frames of the given tags that will answer it. -/
def readerWithLabels (labels : List LabelAnswer) : Globals :=
  (powerOn .blank).toGlobals.setTraffic
    [polled ((inventoryFrames labels 1 0).map fun f => f.map .rx)]

/-- One tag is read. -/
theorem labels_complete_one :
  Detects (fun _ => 0) (readerWithLabels [label 1]) 1
    ∧ ReadsLabels (fun _ => 0) (readerWithLabels [label 1]) [label 1]
  := by
  have htime : decide ((readerWithLabels [label 1]).r2000.index = 0
      ∧ Run.Along (waitStep 0xB0) InTime
        (polled ((inventoryFrames [label 1] 1 0).map fun f => f.map .rx))
        ((sendCmd 0xB0 0 (fun _ => 0) (labelStart (readerWithLabels [label 1]))).setTraffic []))
      = true := by
    unfold readerWithLabels
    rw [powerOn_eq]
    decide +kernel
  obtain ⟨hindex, htime⟩ := of_decide_eq_true htime
  have htraffic : (readerWithLabels [label 1]).traffic
      = [polled ((inventoryFrames [label 1] 1 0).map fun f => f.map .rx)] := rfl
  have hbytes : List.Forall₂ (fun f es => rxBytes es = f) (inventoryFrames [label 1] 1 0)
      ((inventoryFrames [label 1] 1 0).map fun f => f.map .rx) :=
    .cons (rxBytes_map _) (.cons (rxBytes_map _) .nil)
  obtain ⟨hdetects, hreads⟩ := labels_complete_iff (fun _ => 0) (readerWithLabels [label 1])
    [label 1] 1 0 ((inventoryFrames [label 1] 1 0).map fun f => f.map .rx) [] [] (by decide)
    (by decide) hindex (by rw [List.append_nil]; exact htraffic) hbytes htime
  exact ⟨hdetects.mpr rfl, hreads.mpr rfl⟩

/-- Of two tags the first one is reported. -/
theorem two_labels_read_as_one :
  (∃ m g', detectTagNum (fun _ => 0) (readerWithLabels [label 1, label 2]) = some (m, g')
      ∧ g'.cmdTmpLen = 1 ∧ m 0 = 1)
    ∧ ¬ Detects (fun _ => 0) (readerWithLabels [label 1, label 2]) 2
    ∧ ¬ ReadsLabels (fun _ => 0) (readerWithLabels [label 1, label 2]) [label 1, label 2]
  := by
  have hdetect : (detectTagNum (fun _ => 0) (readerWithLabels [label 1, label 2])).map
      (fun out => (out.2.cmdTmpLen, out.1 0)) = some (1, 1) := by
    unfold readerWithLabels
    rw [powerOn_eq]
    decide +kernel
  have hread : (readLabelID (fun _ => 0) (readerWithLabels [label 1, label 2])).map
      (fun out => out.2.tagAllNumber) = some 1 := by
    unfold readerWithLabels
    rw [powerOn_eq]
    decide +kernel
  obtain ⟨⟨m, g'⟩, hdetect, hreply⟩ := Option.map_eq_some_iff.mp hdetect
  obtain ⟨⟨m', g''⟩, hread, hall⟩ := Option.map_eq_some_iff.mp hread
  simp only [Prod.mk.injEq] at hreply
  dsimp only at hall
  refine ⟨⟨m, g', hdetect, hreply.1, hreply.2⟩, ?_, ?_⟩
  · rintro ⟨_, _, hother, -, hn⟩
    obtain ⟨rfl, rfl⟩ := Prod.mk.inj (Option.some.inj (hdetect.symm.trans hother))
    rw [hreply.2] at hn
    exact absurd hn (by decide)
  · rintro ⟨_, _, hother, hn, -⟩
    obtain ⟨rfl, rfl⟩ := Prod.mk.inj (Option.some.inj (hread.symm.trans hother))
    rw [hall] at hn
    exact absurd hn (by decide)

end UhfReader
