import Mathlib.Tactic.IntervalCases
import UhfReader.Handlers.Tags
import UhfReader.Lib.Stateful
import UhfReader.Resync

/-!
# Collecting the tags of an inventory

`EPC1G2_ListMaskTagID` asks the R2000 with `0x80` for an inventory and then with `0x91` for the
tags that were found.  Each of them comes in a frame of its own: the interrupt side appends a row
to `CardIndex` and counts the frame, and the waiting loop compares the count with the number that
the answer to `0x80` reported.
-/

open Memory

namespace UhfReader

/-! ### The frame of a tag -/

/-- A tag of the inventory buffer, as the R2000 reports it in a frame `0x91`.  `words` is the
length of its EPC in words. -/
structure TagAnswer where
  address : UInt8
  countHigh : UInt8
  countLow : UInt8
  pcHigh : UInt8
  pcLow : UInt8
  epc : List UInt8
  crcHigh : UInt8
  crcLow : UInt8
  rssi : UInt8
  freqAnt : UInt8
  invCount : UInt8
  words : ℕ
  length_epc : epc.length = 2 * words
  words_le : words ≤ 15

/-- The offsets of a row of `CardIndex` at which a tag with an EPC of `words` words is kept: the
length, the EPC, the two times, the antenna and the signal strength. -/
def rowOffsets (words : ℕ) : List ℕ :=
  0 :: ((List.range (2 * words)).map (1 + ·)
    ++ [tagIdLength, tagIdLength + 1, tagIdLength + 2, tagIdLength + 3, tagIdLength + 4,
      tagIdLength + 5, tagIdLength + 6, tagIdLength + 7])

/-- No two fields of a row overlap. -/
theorem nodup_rowOffsets {words : ℕ} (h : words ≤ 15) :
  (rowOffsets words).Nodup
  := by
  unfold rowOffsets
  rw [List.nodup_cons, List.nodup_append]
  refine ⟨?_, ?_, by decide, ?_⟩
  · simp [tagIdLength]
  · exact List.nodup_range.map (add_right_injective 1)
  · intro i hi j hj
    simp only [List.mem_map, List.mem_range] at hi
    simp only [tagIdLength, List.mem_cons, List.not_mem_nil, or_false] at hj
    omega

/-- The hour, minute and second of `g_device.ReaderTime`. -/
def SDevice.clock (d : SDevice) : List UInt8 :=
  [d.load (Offset.readerTime + 3), d.load (Offset.readerTime + 4), d.load (Offset.readerTime + 5)]

namespace TagAnswer

/-- The frame up to its checksum: start, length, address, code, number of tags, length of the
data, the data (PC, EPC and CRC), signal strength, antenna and number of reads. -/
def head (a : TagAnswer) : List UInt8 :=
  [0xA0, UInt8.ofNat (2 * a.words + 13), a.address, 0x91, a.countHigh, a.countLow,
    UInt8.ofNat (2 * a.words + 4), a.pcHigh, a.pcLow]
    ++ (a.epc ++ [a.crcHigh, a.crcLow, a.rssi, a.freqAnt, a.invCount])

/-- The frame of a tag. -/
def bytes (a : TagAnswer) : List UInt8 := a.head ++ [~~~ a.head.sum + 1]

/-- What a row keeps of a tag: the length of the EPC, the EPC, the time `d` had, twice, the number
of the antenna and the signal strength. -/
def rowBytes (a : TagAnswer) (d : SDevice) (antenna : UInt8) : List UInt8 :=
  UInt8.ofNat a.words :: (a.epc ++ d.clock ++ d.clock ++ [antenna, a.rssi])

/-- The row holds the tag. -/
def InRow (a : TagAnswer) (d : SDevice) (antenna : UInt8) (row : Row) : Prop :=
  (rowOffsets a.words).map row.load = a.rowBytes d antenna

variable (a : TagAnswer)

theorem length_bytes :
  a.bytes.length = 2 * a.words + 15
  := by
  simp [bytes, head, a.length_epc]

/-- A byte of the frame behind the first nine. -/
theorem bytes_getD_tail (i : ℕ) :
  a.bytes.getD (9 + i) 0
    = (a.epc ++ [a.crcHigh, a.crcLow, a.rssi, a.freqAnt, a.invCount, ~~~ a.head.sum + 1]).getD i 0
  := by
  have hbytes : a.bytes = [0xA0, UInt8.ofNat (2 * a.words + 13), a.address, 0x91, a.countHigh,
      a.countLow, UInt8.ofNat (2 * a.words + 4), a.pcHigh, a.pcLow]
      ++ (a.epc ++ [a.crcHigh, a.crcLow, a.rssi, a.freqAnt, a.invCount, ~~~ a.head.sum + 1]) := by
    simp [bytes, head]
  rw [hbytes, List.getD_append_right _ _ _ _ (by simp)]
  congr 1
  simp

theorem bytes_epc {i : ℕ} (h : i < 2 * a.words) :
  a.bytes.getD (9 + i) 0 = a.epc.getD i 0
  := by
  rw [bytes_getD_tail, List.getD_append]
  rwa [a.length_epc]

theorem bytes_rssi :
  a.bytes.getD (9 + (2 * a.words + 2)) 0 = a.rssi
  := by
  rw [bytes_getD_tail, List.getD_append_right _ _ _ _ (by rw [a.length_epc]; omega), a.length_epc]
  simp

theorem isFrame :
  Framing.IsFrame 0xA0 a.bytes
  := by
  refine ⟨rfl, ?_⟩
  have hone : a.bytes.getD 1 0 = UInt8.ofNat (2 * a.words + 13) := rfl
  have := a.words_le
  rw [length_bytes, hone, UInt8.toNat_ofNat']
  omega

theorem linkFrame :
  LinkFrame a.bytes
  := by
  have := a.words_le
  refine ⟨a.isFrame, ?_, ?_, ?_⟩
  · rw [length_bytes]
    omega
  · rw [length_bytes]
    omega
  · exact (by decide : (0x91 : UInt8) ≠ 0x70)

/-- The length of the EPC from the length of the data. -/
theorem ofNat_words {words : ℕ} (h : words ≤ 15) :
  (UInt8.ofNat (2 * words + 4) >>> 1) - 2 = UInt8.ofNat words
  := by
  interval_cases words
  all_goals rfl

end TagAnswer

/-! ### The row of a tag -/

/-- The time in a row does not touch its other fields. -/
theorem Row.load_stampTime_of_ne (row : Row) (d : SDevice) {i : ℕ}
    (h : i < tagIdLength ∨ tagIdLength + 6 ≤ i) :
  (row.stampTime d).load i = row.load i
  := by
  simp only [tagIdLength] at h
  unfold Row.stampTime
  rw [Block.load_copy_outside, Block.load_copy_outside]
  · simp only [tagIdLength]
    omega
  · simp only [tagIdLength]
    omega

/-- The row that `decodeR2000` writes for a frame `0x91` holds the tag of the frame. -/
theorem TagAnswer.inRow (a : TagAnswer) (d : SDevice) (antenna : UInt8) (row : Row) {src : Mem}
    (hsrc : src.take (2 * a.words) = a.epc) :
  a.InRow d antenna
    (Row.stampTime
      (Block.put (Block.put (Block.copy (Block.put row 0 (UInt8.ofNat a.words)) 1 src
        (2 * a.words)) (tagIdLength + 6) antenna) (tagIdLength + 7) a.rssi) d)
  := by
  have hwords := a.words_le
  unfold TagAnswer.InRow rowOffsets TagAnswer.rowBytes
  rw [List.map_cons]
  congr 1
  rw [List.map_append, List.append_assoc, List.append_assoc]
  congr 1
  rw [← hsrc, List.map_map]
  apply List.map_congr_left
  intro i hi
  rw [List.mem_range] at hi
  have hlow : 1 + i < tagIdLength := by
    simp only [tagIdLength]
    omega
  rw [Function.comp_apply, Row.load_stampTime_of_ne _ _ (.inl hlow),
    Block.load_put (by decide), if_neg (by omega), Block.load_put (by decide),
    if_neg (by omega), Block.load_copy_inside hi (by omega)]

/-- A byte of the frame of a tag in the buffer. -/
theorem load_tag {r : SR2000TransData} {a : TagAnswer} (hfull : r.Holds (Framing.full a.bytes))
    (i : ℕ) (hi : i < 2 * a.words + 15) :
  r.load i = a.bytes.getD i 0
  := by
  obtain ⟨hbytes, -⟩ := hfull.load_full a.linkFrame.short
  apply getD_of_take hbytes
  rwa [a.length_bytes]

/-- The frame of a tag is accepted when there is no mask. -/
theorem tag_accepted {g : Globals} {a : TagAnswer} (hfull : g.r2000.Holds (Framing.full a.bytes))
    (hmask : g.cmdMasklen = 0) :
  g.r2000.frameCmd = 0x91 ∧ g.r2000.frameLen > 4
    ∧ (g.r2000.para 2 >>> 1) - 2 = UInt8.ofNat a.words ∧ UInt8.ofNat a.words ≤ 15
    ∧ maskCheck g (g.r2000.para.shift 5) (2 * (UInt8.ofNat a.words).toNat) = true
  := by
  have hwords := a.words_le
  refine ⟨load_tag hfull 3 (by omega), ?_, ?_, ?_, ?_⟩
  · have hone : g.r2000.frameLen = UInt8.ofNat (2 * a.words + 13) := load_tag hfull 1 (by omega)
    rw [hone, gt_iff_lt, UInt8.lt_iff_toNat_lt, UInt8.toNat_ofNat']
    have hfour : (4 : UInt8).toNat = 4 := rfl
    omega
  · have hdata : g.r2000.para 2 = UInt8.ofNat (2 * a.words + 4) := load_tag hfull 6 (by omega)
    rw [hdata]
    exact TagAnswer.ofNat_words hwords
  · rw [UInt8.le_iff_toNat_le, UInt8.toNat_ofNat']
    have hfifteen : (15 : UInt8).toNat = 15 := rfl
    omega
  · unfold maskCheck
    rw [if_pos hmask]

/-- Decoding the frame of a tag appends a row that holds it, and counts the frame. -/
theorem decodeR2000_tag {g : Globals} {a : TagAnswer} (hfull : g.r2000.Holds (Framing.full a.bytes))
    (hmask : g.cmdMasklen = 0) (hpos : g.cardPos < maxNum) :
  ∃ row beepFlag relayFlag, a.InRow g.gDevice (g.antId + 1) row
    ∧ decodeR2000 g = { g with
        beepFlag := beepFlag, relayFlag := relayFlag
        cardIndex := fun k => if k = g.cardPos then row else g.cardIndex k
        cardPos := g.cardPos + 1
        tagR2000Cmd91Number := (g.tagR2000Cmd91Number + 1) % 2 ^ 32 }
  := by
  have hwords := a.words_le
  obtain ⟨hcmd, hlen, hepcLenth, hshort, hmasked⟩ := tag_accepted hfull hmask
  have hdata : g.r2000.para 2 = UInt8.ofNat (2 * a.words + 4) := load_tag hfull 6 (by omega)
  have htwice : 2 * (UInt8.ofNat a.words).toNat = 2 * a.words := by
    rw [UInt8.toNat_ofNat']
    omega
  have hepc : (g.r2000.para.shift 5).take (2 * a.words) = a.epc := by
    apply List.ext_getElem
    · rw [Mem.length_take, a.length_epc]
    · intro i hi hi'
      have hlt : i < 2 * a.words := by rwa [Mem.length_take] at hi
      have hbyte : g.r2000.load (9 + i) = a.epc.getD i 0 :=
        (load_tag hfull _ (by omega)).trans (a.bytes_epc hlt)
      rw [List.getD_eq_getElem _ _ hi'] at hbyte
      rw [← hbyte]
      simp only [Mem.take, List.getElem_map, List.getElem_range, Mem.shift,
        SR2000TransData.para]
      congr 1
      omega
  have hrssi : g.r2000.para ((g.r2000.para 2).toNat + 3) = a.rssi := by
    have hoff : 4 + ((g.r2000.para 2).toNat + 3) = 9 + (2 * a.words + 2) := by
      rw [hdata, UInt8.toNat_ofNat']
      omega
    have hpara : g.r2000.para ((g.r2000.para 2).toNat + 3)
        = g.r2000.load (4 + ((g.r2000.para 2).toNat + 3)) := rfl
    rw [hpara, hoff, load_tag hfull _ (by omega), a.bytes_rssi]
  unfold decodeR2000
  rw [if_neg (by rw [hcmd]; decide), if_neg (by rw [hcmd]; decide), if_neg (by rw [hcmd]; decide),
    if_pos hcmd]
  unfold decodeInventory
  dsimp only
  rw [if_pos hlen, hepcLenth, if_pos ⟨hshort, hmasked⟩, htwice, hrssi]
  rw [Globals.advanceCardPos_of_lt (by exact hpos)]
  obtain ⟨relayFlag, hrelay⟩ := Globals.linkRelay_eq _
  rw [hrelay]
  refine ⟨_, g.beepFlag + 1, relayFlag,
    a.inRow g.gDevice (g.antId + 1) (g.cardIndex g.cardPos) hepc, ?_⟩
  unfold Globals.storeRow Globals.countTag
  congr 1
  funext k
  dsimp only
  split
  · rename_i hk
    rw [hk]
  · rfl

/-! ### Collecting frame by frame -/

/-- The part of the globals that the tags of an inventory are collected with. -/
structure Inventory where
  gDevice : SDevice
  antId : UInt8
  cmdMasklen : UInt8
  tagR2000Cmd80Number : ℕ
  tagR2000Cmd91Number : ℕ
  cardIndex : ℕ → Row
  cardPos : ℕ

/-- The inventory among the globals. -/
def Globals.inventory (g : Globals) : Inventory where
  gDevice := g.gDevice
  antId := g.antId
  cmdMasklen := g.cmdMasklen
  tagR2000Cmd80Number := g.tagR2000Cmd80Number
  tagR2000Cmd91Number := g.tagR2000Cmd91Number
  cardIndex := g.cardIndex
  cardPos := g.cardPos

/-- The given tags, out of `n`, have been collected and counted, each in a row of its own. -/
structure Inventory.Collected (n : ℕ) (tags : List TagAnswer) (s : Inventory) : Prop where
  unmasked : s.cmdMasklen = 0
  expected : s.tagR2000Cmd80Number = n
  counted : s.tagR2000Cmd91Number = tags.length
  rows : s.cardPos = tags.length
  held : ∀ i (h : i < tags.length),
    (tags.get ⟨i, h⟩).InRow s.gDevice (s.antId + 1) (s.cardIndex i)

open Inventory

/-- The frame of a tag adds it to those collected. -/
theorem Inventory.Collected.decodeR2000 {n : ℕ} {tags : List TagAnswer} {g : Globals}
    {a : TagAnswer} (h : Collected n tags g.inventory) (hroom : tags.length < maxNum)
    (hfull : g.r2000.Holds (Framing.full a.bytes)) :
  Collected n (tags ++ [a]) (decodeR2000 g).inventory
  := by
  have hpos : g.cardPos = tags.length := h.rows
  have hcount : g.tagR2000Cmd91Number = tags.length := h.counted
  obtain ⟨row, _, _, hrow, heq⟩ := decodeR2000_tag hfull h.unmasked (by omega)
  rw [heq]
  refine ⟨h.unmasked, h.expected, ?_, ?_, ?_⟩
  · simp only [maxNum] at hroom
    simp only [Globals.inventory, hcount, List.length_append, List.length_singleton]
    omega
  · simp only [Globals.inventory, hpos, List.length_append, List.length_singleton]
  · intro i hi
    rw [List.length_append, List.length_singleton] at hi
    simp only [Globals.inventory, hpos]
    by_cases hlast : i = tags.length
    · subst hlast
      rw [if_pos rfl]
      simpa using hrow
    · rw [if_neg hlast]
      have hold := h.held i (by omega)
      have hget : (tags ++ [a]).get ⟨i, by simpa using hi⟩ = tags.get ⟨i, by omega⟩ := by
        simp [List.getElem_append_left (show i < tags.length by omega)]
      rw [hget]
      exact hold

/-- A system tick collects nothing. -/
theorem timeUpdate_inventory (g : Globals) :
  (timeUpdate g).inventory = g.inventory
  := by
  obtain ⟨-, h⟩ | ⟨-, _, _, _, _, _, _, h⟩ := timeUpdate_cases g
  · rw [h]
    rfl
  · rw [h]
    rfl

theorem rxBytes_append (es es' : List Event) :
  rxBytes (es ++ es') = rxBytes es ++ rxBytes es'
  := by
  induction es with
  | nil => rfl
  | cons e es ih =>
    cases e with
    | rx b => exact congrArg (b :: ·) ih
    | tick => exact ih
    | poll => exact ih

/-- A poll does not find that the timer of the wait has run out. -/
def InTime (g : Globals) (e : Event) : Prop := e = .poll → g.r2000.sendTimer.isOverflow = 0

instance (g : Globals) (e : Event) : Decidable (InTime g e) :=
  inferInstanceAs (Decidable (_ → _))

/-- A received byte does not make the timer of the wait run out. -/
theorem uart4IRQHandler_isOverflow {g : Globals} (h : g.r2000.sendTimer.isOverflow = 0)
    (b : UInt8) :
  (uart4IRQHandler g b).r2000.sendTimer.isOverflow = 0
  := by
  have hreceive : (g.r2000.receive b).1.sendTimer.isOverflow = 0 := by
    obtain ⟨-, -, ht⟩ | ⟨-, -, -, ht⟩ | ⟨-, -, hr⟩ := g.r2000.receive_cases b
    · rwa [ht]
    · rwa [ht]
    · rw [hr]
      rfl
  rw [uart4IRQHandler_r2000]
  split
  · exact hreceive
  · exact hreceive

/-- Without system ticks no poll comes too late. -/
theorem inTime_of_no_tick {cmd : UInt8} {es : List Event} (h : ∀ e ∈ es, e ≠ .tick) {g : Globals}
    (hover : g.r2000.sendTimer.isOverflow = 0) :
  Run.Along (waitStep cmd) InTime es g
  := by
  refine Run.Along.of_invariant (P := fun _ e => e ≠ .tick)
    (I := fun g => g.r2000.sendTimer.isOverflow = 0) ?_ (fun _ _ hI _ _ => hI) hover
    (Run.Along.of_forall fun e he _ => h e he)
  intro g e g' hzero hne hstep
  cases e with
  | rx b =>
    cases hstep
    exact uart4IRQHandler_isOverflow hzero b
  | tick => exact absurd rfl hne
  | poll =>
    obtain ⟨-, rfl⟩ | ⟨-, _, -, -, rfl⟩ := waitStep_poll hstep
    · exact hzero
    · rfl

/-- While no frame has arrived, a tick or a poll collects nothing, and the wait goes on. -/
theorem waitStep_quiet {cmd : UInt8} {g : Globals} {s : Framing.Receiver} {e : Event}
    (hholds : g.r2000.Holds s) (hmark : g.r2000.setMark = 0) (htime : InTime g e)
    (hquiet : rxBytes [e] = []) :
  ∃ g', waitStep cmd g e = some g' ∧ g'.r2000.Holds s ∧ g'.inventory = g.inventory
  := by
  cases e with
  | rx b => cases hquiet
  | tick => exact ⟨timeUpdate g, rfl, timeUpdate_holds hholds, timeUpdate_inventory g⟩
  | poll =>
    refine ⟨g, ?_, hholds, rfl⟩
    simp only [waitStep, pollR2000_nothing cmd (htime rfl) hmark]

/-- The bytes of a frame up to its last one arrive: the wait goes on and nothing is collected. -/
theorem run_gathers {cmd : UInt8} {f : List UInt8} (hf : LinkFrame f) {es : List Event}
    {g : Globals} {k : ℕ} (hholds : g.r2000.Holds (Framing.progress f k))
    {rest : List UInt8} (hbytes : f.drop k = rxBytes es ++ rest) (hmore : rest ≠ [])
    (htime : Run.Along (waitStep cmd) InTime es g) :
  ∃ g', Run.run (waitStep cmd) es g = some g'
    ∧ g'.r2000.Holds (Framing.progress f (k + (rxBytes es).length))
    ∧ g'.inventory = g.inventory
  := by
  induction es generalizing g k with
  | nil => exact ⟨g, rfl, hholds, rfl⟩
  | cons e es ih =>
    have hlt : k < f.length := by
      by_contra hge
      rw [List.drop_eq_nil_of_le (Nat.not_lt.mp hge)] at hbytes
      exact hmore (List.append_eq_nil_iff.mp hbytes.symm).2
    cases e with
    | rx b =>
      rw [List.drop_eq_getElem_cons hlt, rxBytes, List.cons_append, List.cons.injEq] at hbytes
      obtain ⟨rfl, hbytes⟩ := hbytes
      have hnot : k + 1 ≠ f.length := by
        intro hlast
        rw [List.drop_eq_nil_of_le (by omega)] at hbytes
        exact hmore (List.append_eq_nil_iff.mp hbytes.symm).2
      obtain ⟨r, hnext, htimer, heq⟩ := uart4IRQHandler_progress hf hlt hholds
      rw [if_neg hnot] at heq
      have hstep : waitStep cmd g (.rx f[k]) = some { g with r2000 := r } := congrArg some heq
      obtain ⟨g', hrun, hlast, hsame⟩ := ih (g := { g with r2000 := r }) hnext hbytes
        (htime.tail hstep)
      refine ⟨g', (Run.run_cons_of_some hstep).trans hrun, ?_, hsame⟩
      rwa [Nat.add_right_comm, Nat.add_assoc] at hlast
    | tick | poll =>
      have hmark : g.r2000.setMark = 0 := by
        have := hholds.marked
        rwa [Framing.progress, if_neg (Nat.ne_of_lt hlt)] at this
      obtain ⟨g₁, hstep, hnext, hsame₁⟩ := waitStep_quiet hholds hmark htime.1 rfl
      obtain ⟨g', hrun, hlast, hsame⟩ := ih hnext hbytes (htime.tail hstep)
      exact ⟨g', (Run.run_cons_of_some hstep).trans hrun, hlast, hsame.trans hsame₁⟩

/-- While nothing arrives, the wait goes on. -/
theorem run_idle {cmd : UInt8} {es : List Event} {g : Globals}
    (hholds : g.r2000.Holds Framing.idle) (hbytes : rxBytes es = [])
    (htime : Run.Along (waitStep cmd) InTime es g) :
  ∃ g', Run.run (waitStep cmd) es g = some g' ∧ g'.r2000.Holds Framing.idle
    ∧ g'.inventory = g.inventory
  := by
  induction es generalizing g with
  | nil => exact ⟨g, rfl, hholds, rfl⟩
  | cons e es ih =>
    cases e with
    | rx b => cases hbytes
    | tick | poll =>
      obtain ⟨g₁, hstep, hnext, hsame₁⟩ := waitStep_quiet hholds hholds.marked htime.1 rfl
      obtain ⟨g', hrun, hlast, hsame⟩ := ih hnext hbytes (htime.tail hstep)
      exact ⟨g', (Run.run_cons_of_some hstep).trans hrun, hlast, hsame.trans hsame₁⟩

/-- A poll that finds a frame compares the number of tags counted with the number expected. -/
theorem pollR2000_tag {f : List UInt8} {g : Globals} (hholds : g.r2000.Holds (Framing.full f))
    (hover : g.r2000.sendTimer.isOverflow = 0) :
  pollR2000 0x91 g
    = if g.inventory.tagR2000Cmd80Number ≤ g.inventory.tagR2000Cmd91Number then
        (takeFrame g, some 0)
      else (awaitFrame (r2000SedTimer + 800) g, none)
  := by
  have hmark : g.r2000.setMark ≠ 0 := by
    rw [hholds.marked]
    exact (by decide : (1 : UInt8) ≠ 0)
  unfold pollR2000
  rw [if_neg (not_not.mpr hover), if_pos hmark, if_pos rfl]
  rfl

/-- Until the next poll nothing but system ticks happens. -/
theorem reaches_poll (cmd : UInt8) {es : List Event} (hbytes : rxBytes es = []) {g : Globals}
    {s : Framing.Receiver} (hholds : g.r2000.Holds s) :
  ∃ es₁ es₂ g', es ++ [.poll] = es₁ ++ .poll :: es₂ ∧ rxBytes es₂ = []
    ∧ Run.run (waitStep cmd) es₁ g = some g' ∧ g'.r2000.Holds s ∧ g'.inventory = g.inventory
  := by
  induction es generalizing g with
  | nil => exact ⟨[], [], g, rfl, rfl, rfl, hholds, rfl⟩
  | cons e es ih =>
    cases e with
    | rx b => cases hbytes
    | tick =>
      obtain ⟨es₁, es₂, g', hsplit, hnone, hrun, hlast, hsame⟩ :=
        ih hbytes (timeUpdate_holds hholds)
      refine ⟨.tick :: es₁, es₂, g', congrArg (Event.tick :: ·) hsplit, hnone, hrun, hlast, ?_⟩
      exact hsame.trans (timeUpdate_inventory g)
    | poll =>
      refine ⟨[], es ++ [.poll], g, rfl, ?_, rfl, hholds, rfl⟩
      rw [rxBytes_append]
      exact congrArg (· ++ []) hbytes

/-- The next poll takes a frame that has arrived, and the wait goes on while tags are missing. -/
theorem run_takes {f : List UInt8} {es : List Event} {g : Globals}
    (hholds : g.r2000.Holds (Framing.full f)) (hbytes : rxBytes es = [])
    (hmissing : g.inventory.tagR2000Cmd91Number < g.inventory.tagR2000Cmd80Number)
    (htime : Run.Along (waitStep 0x91) InTime (es ++ [.poll]) g) :
  ∃ g', Run.run (waitStep 0x91) (es ++ [.poll]) g = some g' ∧ g'.r2000.Holds Framing.idle
    ∧ g'.inventory = g.inventory
  := by
  obtain ⟨es₁, es₂, g₁, hsplit, hnone, hrun, hfull, hsame⟩ := reaches_poll 0x91 hbytes hholds
  rw [hsplit] at htime ⊢
  have hlate := ((Run.Along.append_iff hrun).mp htime).2
  have hpoll := pollR2000_tag hfull (hlate.1 rfl)
  rw [← hsame] at hmissing
  rw [if_neg (Nat.not_le.mpr hmissing)] at hpoll
  have hstep : waitStep 0x91 g₁ .poll = some (awaitFrame (r2000SedTimer + 800) g₁) := by
    simp only [waitStep, hpoll]
  have hidle : (awaitFrame (r2000SedTimer + 800) g₁).r2000.Holds Framing.idle :=
    SR2000TransData.holds_idle_iff.mpr ⟨rfl, hfull.counted⟩
  obtain ⟨g', hrest, hlast, hinv⟩ := run_idle hidle hnone (hlate.tail hstep)
  refine ⟨g', ?_, hlast, hinv.trans hsame⟩
  rw [Run.run_append hrun, Run.run_cons_of_some hstep, hrest]

/-- The next poll takes the frame of the last tag, and the call returns. -/
theorem wait_takes_last {f : List UInt8} {es : List Event} {g : Globals}
    (hholds : g.r2000.Holds (Framing.full f)) (hbytes : rxBytes es = [])
    (hall : g.inventory.tagR2000Cmd80Number ≤ g.inventory.tagR2000Cmd91Number)
    (htime : Run.Along (waitStep 0x91) InTime (es ++ [.poll]) g) :
  ∃ g', (∀ es', waitR2000 0x91 (es ++ [.poll] ++ es') g = some (0, g'))
    ∧ g'.inventory = g.inventory
  := by
  obtain ⟨es₁, es₂, g₁, hsplit, hnone, hrun, hfull, hsame⟩ := reaches_poll 0x91 hbytes hholds
  rw [hsplit] at htime ⊢
  have hlate := ((Run.Along.append_iff hrun).mp htime).2
  have hpoll := pollR2000_tag hfull (hlate.1 rfl)
  rw [← hsame] at hall
  rw [if_pos hall] at hpoll
  refine ⟨takeFrame g₁, ?_, hsame⟩
  intro es'
  rw [List.append_assoc, waitR2000_append _ hrun]
  simp only [List.cons_append, waitR2000, hpoll]

/-- The last byte that arrives during a wait. -/
theorem exists_last_rx {es : List Event} (h : rxBytes es ≠ []) :
  ∃ es₁ b es₂, es = es₁ ++ .rx b :: es₂ ∧ rxBytes es₂ = []
  := by
  induction es with
  | nil => exact absurd rfl h
  | cons e es ih =>
    by_cases hrest : rxBytes es = []
    · cases e with
      | rx b => exact ⟨[], b, es, rfl, hrest⟩
      | tick => exact absurd hrest h
      | poll => exact absurd hrest h
    · obtain ⟨es₁, b, es₂, rfl, hnone⟩ := ih hrest
      exact ⟨e :: es₁, b, es₂, rfl, hnone⟩

/-- A frame arrives during a wait and is decoded with its last byte; nothing is collected
before. -/
theorem run_arrives {cmd : UInt8} {f : List UInt8} (hf : LinkFrame f) {es more : List Event}
    {g : Globals} (hidle : g.r2000.Holds Framing.idle) (hbytes : rxBytes es = f)
    (htime : Run.Along (waitStep cmd) InTime (es ++ more) g) :
  ∃ es₁ b es₂ g₁ r, es = es₁ ++ .rx b :: es₂ ∧ rxBytes es₂ = []
    ∧ Run.run (waitStep cmd) es₁ g = some g₁ ∧ g₁.inventory = g.inventory
    ∧ waitStep cmd g₁ (.rx b) = some (decodeR2000 { g₁ with r2000 := r })
    ∧ r.Holds (Framing.full f) ∧ (decodeR2000 { g₁ with r2000 := r }).r2000 = r
    ∧ Run.Along (waitStep cmd) InTime (es₂ ++ more) (decodeR2000 { g₁ with r2000 := r })
  := by
  have hlong := hf.long
  have hsome : rxBytes es ≠ [] := by
    rw [hbytes]
    rintro rfl
    exact absurd hlong (by decide)
  obtain ⟨es₁, b, es₂, rfl, hnone⟩ := exists_last_rx hsome
  rw [rxBytes_append, rxBytes, hnone] at hbytes
  rw [List.append_assoc] at htime
  -- the frame without its last byte
  have hearly : Run.Along (waitStep cmd) InTime es₁ g := Run.Along.of_append htime
  have hzero : g.r2000.Holds (Framing.progress f 0) := by
    rwa [Framing.progress_zero hf.frame]
  obtain ⟨g₁, hrun, hholds, hsame⟩ := run_gathers hf hzero
    (by rw [List.drop_zero, hbytes]) (List.cons_ne_nil b []) hearly
  rw [Nat.zero_add] at hholds
  -- the last byte
  have hcount : (rxBytes es₁).length + 1 = f.length := by
    rw [← hbytes, List.length_append, List.length_singleton]
  have hlt : (rxBytes es₁).length < f.length := by omega
  have hlast : f.get ⟨(rxBytes es₁).length, hlt⟩ = b := by
    simp only [List.get_eq_getElem, ← hbytes, List.getElem_concat_length]
  obtain ⟨r, hfull, -, heq⟩ := uart4IRQHandler_progress hf hlt hholds
  rw [hlast, if_pos hcount] at heq
  rw [hcount, Framing.progress_length] at hfull
  have hstep : waitStep cmd g₁ (.rx b) = some (decodeR2000 { g₁ with r2000 := r }) :=
    congrArg some heq
  refine ⟨es₁, b, es₂, g₁, r, rfl, hnone, hrun, hsame, hstep, hfull, ?_, ?_⟩
  · have hcode : r.frameCmd ≠ 0x70 := by
      have hload := getD_of_take (hfull.load_full hf.short).1 (i := 3) (by omega)
      unfold SR2000TransData.frameCmd
      rw [hload]
      exact hf.code
    rw [(decodeR2000_link _).1, if_neg hcode]
  · exact ((Run.Along.append_iff hrun).mp htime).2.tail hstep

/-- The frame of a tag arrives during a wait and is collected with its last byte. -/
theorem run_collects {n : ℕ} {tags : List TagAnswer} {a : TagAnswer} {es : List Event}
    {g : Globals} (hidle : g.r2000.Holds Framing.idle) (h : Collected n tags g.inventory)
    (hroom : tags.length < maxNum) (hbytes : rxBytes es = a.bytes)
    (htime : Run.Along (waitStep 0x91) InTime (es ++ [.poll]) g) :
  ∃ es₁ es₂ g', es ++ [.poll] = es₁ ++ (es₂ ++ [.poll]) ∧ rxBytes es₂ = []
    ∧ Run.run (waitStep 0x91) es₁ g = some g' ∧ g'.r2000.Holds (Framing.full a.bytes)
    ∧ Collected n (tags ++ [a]) g'.inventory
    ∧ Run.Along (waitStep 0x91) InTime (es₂ ++ [.poll]) g'
  := by
  obtain ⟨es₁, b, es₂, g₁, r, rfl, hnone, hrun, hsame, hstep, hfull, hlink, hlate⟩ :=
    run_arrives a.linkFrame hidle hbytes htime
  refine ⟨es₁ ++ [.rx b], es₂, _, by simp, hnone, ?_, ?_, ?_, hlate⟩
  · rw [Run.run_append hrun, Run.run_cons_of_some hstep]
    rfl
  · rwa [hlink]
  · apply Collected.decodeR2000 _ hroom hfull
    have hinv : Globals.inventory { g₁ with r2000 := r } = g.inventory := hsame
    rwa [hinv]

/-- The frame of a tag arrives and is taken, and more tags are missing. -/
theorem run_block {n : ℕ} {tags : List TagAnswer} {a : TagAnswer} {es : List Event}
    {g : Globals} (hidle : g.r2000.Holds Framing.idle) (h : Collected n tags g.inventory)
    (hroom : tags.length < maxNum) (hmissing : tags.length + 1 < n) (hbytes : rxBytes es = a.bytes)
    (htime : Run.Along (waitStep 0x91) InTime (es ++ [.poll]) g) :
  ∃ g', Run.run (waitStep 0x91) (es ++ [.poll]) g = some g' ∧ g'.r2000.Holds Framing.idle
    ∧ Collected n (tags ++ [a]) g'.inventory
  := by
  obtain ⟨es₁, es₂, g₁, hsplit, hnone, hrun, hfull, hcollected, hlate⟩ :=
    run_collects hidle h hroom hbytes htime
  have hexpected := hcollected.expected
  have hcounted := hcollected.counted
  rw [List.length_append, List.length_singleton] at hcounted
  obtain ⟨g₂, hrun₂, hidle₂, hsame⟩ := run_takes hfull hnone (by omega) hlate
  refine ⟨g₂, ?_, hidle₂, ?_⟩
  · rw [hsplit, Run.run_append hrun, hrun₂]
  · rwa [hsame]

/-! ### Collecting an inventory -/

/-- The events of each block are those during which the frame of one tag arrives. -/
def Deliver (tags : List TagAnswer) (blocks : List (List Event)) : Prop :=
  List.Forall₂ (fun a es => rxBytes es = a.bytes) tags blocks

/-- The blocks one after another, each followed by a poll. -/
def polled (blocks : List (List Event)) : List Event := blocks.flatMap (· ++ [.poll])

/-- A wait that goes on to the end of its events does not return. -/
theorem waitR2000_of_run {cmd : UInt8} {es : List Event} {g g' : Globals}
    (h : Run.run (waitStep cmd) es g = some g') :
  waitR2000 cmd es g = none
  := by
  have := waitR2000_append [] h
  rwa [List.append_nil] at this

/-- Some of the missing tags arrive, and the wait goes on. -/
theorem run_blocks {n : ℕ} {tags : List TagAnswer} {blocks : List (List Event)}
    (hblocks : Deliver tags blocks) :
  ∀ {done : List TagAnswer} {g : Globals}, done.length + tags.length ≤ maxNum →
    done.length + tags.length < n → g.r2000.Holds Framing.idle → Collected n done g.inventory →
    Run.Along (waitStep 0x91) InTime (polled blocks) g →
    ∃ g', Run.run (waitStep 0x91) (polled blocks) g = some g' ∧ g'.r2000.Holds Framing.idle
      ∧ Collected n (done ++ tags) g'.inventory
  := by
  induction hblocks with
  | nil =>
    intro done g _ _ hidle hdone _
    refine ⟨g, rfl, hidle, ?_⟩
    rwa [List.append_nil]
  | @cons a es tags blocks hbytes hblocks ih =>
    intro done g hroom hmissing hidle hdone htime
    have hpolled : polled (es :: blocks) = (es ++ [.poll]) ++ polled blocks := rfl
    rw [List.length_cons] at hroom hmissing
    rw [hpolled] at htime ⊢
    obtain ⟨g₁, hblock, hidle₁, hcollected⟩ := run_block hidle hdone (by omega) (by omega) hbytes
      (Run.Along.of_append htime)
    have hlength : (done ++ [a]).length = done.length + 1 := by simp
    obtain ⟨g', hrun, hidle', hcollected'⟩ := ih (by omega) (by omega) hidle₁ hcollected
      ((Run.Along.append_iff hblock).mp htime).2
    refine ⟨g', ?_, hidle', ?_⟩
    · rw [Run.run_append hblock, hrun]
    · rwa [List.append_assoc] at hcollected'

/-- The missing tags arrive.  The wait returns `0` with all tags collected, and not before their
last byte. -/
theorem wait_collects {n : ℕ} (hn : n ≤ maxNum) {tags : List TagAnswer}
    {blocks : List (List Event)} (hblocks : Deliver tags blocks) :
  ∀ {done : List TagAnswer} {g : Globals}, tags ≠ [] → done.length + tags.length = n →
    g.r2000.Holds Framing.idle → Collected n done g.inventory →
    Run.Along (waitStep 0x91) InTime (polled blocks) g →
    (∃ g', (∀ es', waitR2000 0x91 (polled blocks ++ es') g = some (0, g'))
        ∧ Collected n (done ++ tags) g'.inventory)
      ∧ ∀ es₁ es₂, polled blocks = es₁ ++ es₂ → rxBytes es₂ ≠ [] →
        waitR2000 0x91 es₁ g = none
  := by
  induction hblocks with
  | nil =>
    intro done g hne
    exact absurd rfl hne
  | @cons a es tags blocks hbytes hblocks ih =>
    intro done g _ hcount hidle hdone htime
    have hpolled : polled (es :: blocks) = (es ++ [.poll]) ++ polled blocks := rfl
    rw [List.length_cons] at hcount
    rw [hpolled] at htime ⊢
    -- a cut inside the frame at hand, before its last byte
    have hcut : ∀ cut rest, es ++ [.poll] = cut ++ rest → rxBytes rest ≠ [] →
        waitR2000 0x91 cut g = none := by
      intro cut rest heq hrest
      have hzero : g.r2000.Holds (Framing.progress a.bytes 0) := by
        rwa [Framing.progress_zero a.isFrame]
      have hall : rxBytes cut ++ rxBytes rest = a.bytes := by
        rw [← rxBytes_append, ← heq, rxBytes_append, hbytes]
        exact List.append_nil _
      have hearly : Run.Along (waitStep 0x91) InTime cut g := by
        rw [heq, List.append_assoc] at htime
        exact Run.Along.of_append htime
      obtain ⟨g', hrun', -⟩ := run_gathers a.linkFrame hzero
        (by rw [List.drop_zero, hall]) hrest hearly
      exact waitR2000_of_run hrun'
    cases hblocks with
    | nil =>
      rw [List.length_nil] at hcount
      obtain ⟨es₁, es₂, g₁, hsplit, hnone, hrun, hfull, hcollected, hlate⟩ :=
        run_collects hidle hdone (by omega) hbytes (Run.Along.of_append htime)
      have hexpected := hcollected.expected
      have hcounted := hcollected.counted
      rw [List.length_append, List.length_singleton] at hcounted
      obtain ⟨g', hwait, hsame⟩ := wait_takes_last hfull hnone (by omega) hlate
      refine ⟨⟨g', ?_, ?_⟩, ?_⟩
      · intro es'
        have hflat : polled [] = [] := rfl
        rw [hflat, List.append_nil, hsplit, List.append_assoc, waitR2000_append _ hrun]
        exact hwait es'
      · rw [hsame]
        exact hcollected
      · intro cut rest heq hrest
        have hflat : polled [] = [] := rfl
        rw [hflat, List.append_nil] at heq
        exact hcut cut rest heq hrest
    | @cons a' es' tags blocks hbytes' hblocks =>
      rw [List.length_cons] at hcount
      obtain ⟨g₂, hblock, hidle₂, hcollected⟩ := run_block hidle hdone (by omega) (by omega) hbytes
        (Run.Along.of_append htime)
      obtain ⟨⟨g', hwait, hcollected'⟩, hbefore⟩ := ih (List.cons_ne_nil _ _)
        (by rw [List.length_append, List.length_singleton, List.length_cons]; omega) hidle₂
        hcollected ((Run.Along.append_iff hblock).mp htime).2
      refine ⟨⟨g', ?_, ?_⟩, ?_⟩
      · intro es''
        rw [List.append_assoc, waitR2000_append _ hblock]
        exact hwait es''
      · rwa [List.append_assoc] at hcollected'
      · intro cut rest heq hrest
        obtain ⟨more, rfl, hmore⟩ | ⟨more, hstart, -⟩ := List.append_eq_append_iff.mp heq
        · rw [waitR2000_append _ hblock]
          exact hbefore more rest hmore hrest
        · rw [hstart] at hblock
          obtain ⟨g₃, hrun₃⟩ := Run.exists_of_append hblock
          exact waitR2000_of_run hrun₃

/-! ### The number of tags -/

/-- The codes of the frames that report tags. -/
def tagCodes : List UInt8 := [0x81, 0x8A, 0x91, 0xB0]

/-- A frame of another code collects nothing. -/
theorem decodeR2000_inventory {g : Globals} (h : g.r2000.frameCmd ∉ tagCodes) :
  (decodeR2000 g).inventory = g.inventory
  := by
  simp only [tagCodes, List.mem_cons, List.not_mem_nil, or_false, not_or] at h
  obtain ⟨h81, h8A, h91, hB0⟩ := h
  unfold decodeR2000
  rw [if_neg h81, if_neg h8A, if_neg h91, if_neg hB0]
  split
  · rfl
  · rfl

/-- A frame that was completed leaves no bytes gathered. -/
theorem SR2000TransData.receive_completes {r : SR2000TransData} {b : UInt8} (h : r.Completes b) :
  (r.receive b).1.index = 0
  := by
  unfold Completes at h
  unfold receive at h ⊢
  split
  · rename_i hmark
    rw [if_pos hmark] at h
    split
    · rename_i hstart
      rw [if_pos hstart] at h
      cases h
    · rename_i hstart
      rw [if_neg hstart] at h
      split
      · rename_i hindex
        rw [if_pos hindex] at h
        split
        · rfl
        · rename_i hmax
          rw [if_neg hmax] at h
          dsimp only at h ⊢
          split
          · split
            · rfl
            · rfl
          · rename_i hmore
            rw [if_neg hmore] at h
            cases h
      · rename_i hindex
        exact not_not.mp hindex
  · rename_i hmark
    rw [if_neg hmark] at h
    cases h

/-- A wait in which no frame was decoded before the one at hand: nothing was collected since the
inventory `s`, unless the frame at hand reports a tag. -/
structure FirstFrame (s : Inventory) (g : Globals) : Prop where
  unmarked : g.r2000.setMark = 0 → g.inventory = s
  index : g.r2000.setMark ≠ 0 → g.r2000.index = 0
  marked : g.r2000.setMark ≠ 0 → g.r2000.frameCmd ∉ tagCodes → g.inventory = s

/-- A byte completes the first frame of the wait at most. -/
theorem FirstFrame.uart4IRQHandler {s : Inventory} {g : Globals} (h : FirstFrame s g)
    (b : UInt8) :
  FirstFrame s (uart4IRQHandler g b)
  := by
  by_cases hmark : g.r2000.setMark = 0
  · have hnothing : ∀ g' : Globals, g'.r2000.setMark = 0 → g'.inventory = g.inventory →
        FirstFrame s g' := by
      intro g' hzero hsame
      exact ⟨fun _ => hsame.trans (h.unmarked hmark), fun hne => absurd hzero hne,
        fun hne => absurd hzero hne⟩
    rw [uart4IRQHandler_eq]
    obtain ⟨hcompl, hr, -⟩ | ⟨hcompl, -, hr, -⟩ | ⟨hcompl, -, hr⟩ := g.r2000.receive_cases b
    · rw [if_neg hcompl]
      exact hnothing _ (hr.trans hmark) rfl
    · rw [if_pos hcompl]
      have hindex := SR2000TransData.receive_completes hcompl
      generalize (g.r2000.receive b).1 = r at hr hindex
      have hlink := (decodeR2000_link { g with r2000 := r }).1
      obtain ⟨hreset, heq⟩ | ⟨hother, -⟩ := decodeR2000_cases { g with r2000 := r }
      · rw [heq]
        exact hnothing _ rfl rfl
      · rw [if_neg hother] at hlink
        refine ⟨?_, ?_, ?_⟩
        · intro hzero
          rw [hlink, hr] at hzero
          exact absurd hzero (by decide)
        · intro _
          rw [hlink]
          exact hindex
        · intro _ hcode
          rw [hlink] at hcode
          rw [decodeR2000_inventory hcode]
          exact h.unmarked hmark
    · rw [if_neg hcompl, hr]
      exact hnothing _ rfl rfl
  · have hdropped : UhfReader.uart4IRQHandler g b = g := by
      unfold UhfReader.uart4IRQHandler
      rw [SR2000TransData.receive_of_marked hmark]
      rfl
    rwa [hdropped]

theorem FirstFrame.timeUpdate {s : Inventory} {g : Globals} (h : FirstFrame s g) :
  FirstFrame s (timeUpdate g)
  := by
  obtain ⟨hmark, hbuf, -, -⟩ := timeUpdate_link g
  have hindex := timeUpdate_index g
  have hsame := timeUpdate_inventory g
  have hcode : (UhfReader.timeUpdate g).r2000.frameCmd = g.r2000.frameCmd := by
    unfold SR2000TransData.frameCmd
    rw [SR2000TransData.load_inside (by decide), SR2000TransData.load_inside (by decide), hbuf]
  refine ⟨?_, ?_, ?_⟩
  · rw [hmark, hsame]
    exact h.unmarked
  · rw [hmark, hindex]
    exact h.index
  · rw [hmark, hcode, hsame]
    exact h.marked

/-- A command that waits for one frame leaves the link idle when it returns `0`; unless the frame
reports a tag, nothing was collected. -/
theorem wait_single {cmd : UInt8} (hcmd : cmd ∈ singleCmds) {s : Inventory} {es : List Event}
    {g g' : Globals} (h : FirstFrame s g) (hwait : waitR2000 cmd es g = some (0, g')) :
  g'.r2000.Holds Framing.idle ∧ (g'.r2000.frameCmd ∉ tagCodes → g'.inventory = s)
  := by
  induction es generalizing g with
  | nil => cases hwait
  | cons e es ih =>
    cases e with
    | rx b => exact ih (h.uart4IRQHandler b) hwait
    | tick => exact ih h.timeUpdate hwait
    | poll =>
      simp only [waitR2000] at hwait
      by_cases hover : g.r2000.sendTimer.isOverflow = 0
      · by_cases hmark : g.r2000.setMark = 0
        · rw [pollR2000_nothing cmd hover hmark] at hwait
          exact ih h hwait
        · rw [pollR2000_single hcmd hover hmark] at hwait
          simp only [Option.some.injEq, Prod.mk.injEq, true_and] at hwait
          rw [← hwait]
          exact ⟨SR2000TransData.holds_idle_iff.mpr ⟨rfl, h.index hmark⟩, h.marked hmark⟩
      · -- a timeout is reported with another result
        obtain ⟨-, h91, hB0, h8A⟩ := singleCmds_known hcmd
        have htimeout : pollR2000 cmd g = ({ g with r2000 := .cleared }, some 0xFF) := by
          unfold pollR2000 timeoutR2000
          rw [if_pos hover]
          simp only [h91, hB0, h8A, or_self, false_and, if_false]
        rw [htimeout] at hwait
        simp at hwait

/-- Sending a command collects nothing. -/
theorem sendCmd_inventory {cmd : UInt8} (hcmd : cmd ≠ 0x78) (before : UInt8) (p : Mem)
    (g : Globals) :
  (sendCmd cmd before p g).inventory = g.inventory
  := by
  unfold sendCmd uart4Send
  dsimp only
  rw [if_neg hcmd]
  split
  · rfl
  · rfl

/-- A delay in which nothing arrives. -/
theorem foldl_interrupt_quiet {es : List Event} (hquiet : rxBytes es = []) {g : Globals}
    (h : g.r2000.Holds Framing.idle) :
  (es.foldl Globals.interrupt g).r2000.Holds Framing.idle
    ∧ (es.foldl Globals.interrupt g).inventory = g.inventory
  := by
  induction es generalizing g with
  | nil => exact ⟨h, rfl⟩
  | cons e es ih =>
    cases e with
    | rx b => cases hquiet
    | tick =>
      obtain ⟨hidle, hsame⟩ := ih hquiet (g := timeUpdate g) (timeUpdate_holds h)
      exact ⟨hidle, hsame.trans (timeUpdate_inventory g)⟩
    | poll => exact ih hquiet h

theorem uart4IRQHandler_traffic (g : Globals) (b : UInt8) :
  (uart4IRQHandler g b).traffic = g.traffic
  := by
  rw [uart4IRQHandler_eq]
  split
  · obtain ⟨-, heq⟩ | ⟨-, _, _, _, _, _, _, heq⟩ :=
      decodeR2000_cases { g with r2000 := (g.r2000.receive b).1 }
    · rw [heq]
    · rw [heq]
  · rfl

theorem timeUpdate_traffic (g : Globals) :
  (timeUpdate g).traffic = g.traffic
  := by
  obtain ⟨-, heq⟩ | ⟨-, _, _, _, _, _, _, heq⟩ := timeUpdate_cases g
  · rw [heq]
  · rw [heq]
    rfl

/-- A round of the waiting loop changes nothing but the link. -/
theorem pollR2000_eq (cmd : UInt8) (g : Globals) :
  ∃ r, (pollR2000 cmd g).1 = { g with r2000 := r }
  := by
  obtain ⟨-, r, _, hp⟩ | ⟨-, -, hp⟩ | ⟨-, -, _, -, -, hp⟩ | ⟨-, -, _, hp⟩ := pollR2000_cases cmd g
  · rw [hp]
    exact ⟨r, rfl⟩
  · rw [hp]
    exact ⟨g.r2000, rfl⟩
  · rw [hp]
    exact ⟨_, rfl⟩
  · rw [hp]
    exact ⟨_, rfl⟩

/-- A wait does not look at what the R2000 will do after it. -/
theorem waitR2000_traffic {cmd flag : UInt8} {es : List Event} {g g' : Globals}
    (h : waitR2000 cmd es g = some (flag, g')) :
  g'.traffic = g.traffic
  := by
  induction es generalizing g with
  | nil => cases h
  | cons e es ih =>
    cases e with
    | rx b => exact (ih h).trans (uart4IRQHandler_traffic g b)
    | tick => exact (ih h).trans (timeUpdate_traffic g)
    | poll =>
      simp only [waitR2000] at h
      obtain ⟨r, hr⟩ := pollR2000_eq cmd g
      generalize pollR2000 cmd g = outcome at h hr
      obtain ⟨g₁, result⟩ := outcome
      dsimp only at hr
      subst hr
      cases result with
      | none =>
        have hlater := ih h
        exact hlater
      | some flag' =>
        cases h
        rfl

/-- A command to the R2000 uses up one list of `traffic`. -/
theorem encodeR2000_traffic {cmd flag : UInt8} (hcmd : cmd ∈ knownCmds) {p : Mem} {es : List Event}
    {rest : List (List Event)} {g g' : Globals} (htraffic : g.traffic = es :: rest)
    (h : encodeR2000 cmd p g = some (flag, g')) :
  g'.traffic = rest
  := by
  unfold encodeR2000 encodeR2000From at h
  rw [if_pos hcmd, sendCmd_traffic, htraffic] at h
  exact waitR2000_traffic h

/-! ### The handler -/

/-- The frame in the buffer is the answer to `0x80` and reports `n` tags. -/
structure SR2000TransData.Reports (n : ℕ) (r : SR2000TransData) : Prop where
  code : r.frameCmd = 0x80
  long : r.frameLen > 4
  number : (r.para 1).toNat * 256 + (r.para 2).toNat = n

/-- The globals when `EPC1G2_ListMaskTagID` sends `0x80`. -/
def inventoryStart (p : Mem) (g : Globals) : Globals :=
  { g with cmdMaskaddr := (p 1).toNat * 256 + (p 2).toNat, cmdMasklen := 0, cardPos := 0 }

/-- The parameters of the request with the number of rounds. -/
def inventoryRounds (p : Mem) (g : Globals) : Mem :=
  p.put 0 (if g.gDevice.load Offset.maxReadCardNum < 20 then 255 else 1)

/-- The globals when `EPC1G2_ListMaskTagID` sends `0x91`: the number of tags is that of the answer
to `0x80`, the events of the delay have happened, and no tag is counted yet. -/
def retrievalStart (quiet : List Event) (traffic : List (List Event)) (g : Globals) : Globals :=
  { quiet.foldl Globals.interrupt
      { g with
        tagR2000Cmd80Number := (g.r2000.para 1).toNat * 256 + (g.r2000.para 2).toNat
        traffic := traffic }
    with tagR2000Cmd91Number := 0 }

/-- The reply of `EPC1G2_ListMaskTagID` and its variant when all tags are collected. -/
def replyFirstPage (p : Mem) (row : Globals → Listing → ℕ → Listing) : M Mem := do
  modify firstPage
  let g ← get
  replyListing <| listRows g (p.put 0 (UInt8.ofNat g.tagAllNumber)) g.tagSendCount.toNat (row g)

theorem replyFirstPage_eq (p : Mem) (row : Globals → Listing → ℕ → Listing) (g : Globals) :
  let l := listRows (firstPage g) (p.put 0 (UInt8.ofNat (firstPage g).tagAllNumber))
    (firstPage g).tagSendCount.toNat (row (firstPage g))
  replyFirstPage p row g
    = some (l.p, { firstPage g with cmdTmpLen := l.lenth, bakrssi := l.bakrssi })
  := rfl

/-- When the answer to `0x80` has reported tags and `0x91` returns `0`, the handler replies with
the first page. -/
theorem inventory6C_retrieves {p : Mem} (row : Globals → Listing → ℕ → Listing) {g g₁ : Globals}
    {quiet : List Event} {traffic : List (List Event)}
    (hcall : encodeR2000 0x80 (inventoryRounds p g) (inventoryStart p g) = some (0, g₁))
    (hlong : g₁.r2000.frameLen > 4)
    (hnumber : (g₁.r2000.para 1).toNat * 256 + (g₁.r2000.para 2).toNat > 0)
    (htraffic : g₁.traffic = quiet :: traffic) {g₂ : Globals}
    (hretrieve : encodeR2000 0x91 (inventoryRounds p g) (retrievalStart quiet traffic g₁)
      = some (0, g₂)) :
  inventory6C p row g = replyFirstPage (inventoryRounds p g) row g₂
  := by
  have hdelay : delayMs { g₁ with
        tagR2000Cmd80Number := (g₁.r2000.para 1).toNat * 256 + (g₁.r2000.para 2).toNat }
      = some ((), quiet.foldl Globals.interrupt { g₁ with
        tagR2000Cmd80Number := (g₁.r2000.para 1).toNat * 256 + (g₁.r2000.para 2).toNat
        traffic := traffic }) := by
    unfold delayMs
    dsimp only
    rw [htraffic]
    rfl
  unfold inventory6C
  rw [Stateful.bind_modify, Stateful.bind_get]
  refine (Stateful.bind_of_some hcall).trans ?_
  rw [Stateful.bind_get, if_pos ⟨rfl, hlong⟩, Stateful.bind_modify, Stateful.bind_get]
  refine (congrFun (if_pos hnumber) _).trans ?_
  refine (Stateful.bind_of_some hdelay).trans ?_
  rw [Stateful.bind_modify]
  refine (Stateful.bind_of_some hretrieve).trans ?_
  rw [if_pos rfl]
  rfl

/-- A system tick does not look at what the R2000 will do. -/
theorem timeUpdate_setTraffic (g : Globals) (traffic : List (List Event)) :
  timeUpdate (g.setTraffic traffic) = (timeUpdate g).setTraffic traffic
  := by
  unfold timeUpdate relayControl beepUpdate updateTimers Globals.setTraffic
  dsimp only
  repeat' split
  all_goals rfl

/-- What the R2000 will do is not looked at before `0x91` is sent. -/
theorem retrievalStart_traffic {quiet : List Event} (hquiet : rxBytes quiet = [])
    (traffic traffic' : List (List Event)) (g : Globals) :
  retrievalStart quiet traffic' g = (retrievalStart quiet traffic g).setTraffic traffic'
  := by
  have hfold : ∀ {es : List Event} (_ : rxBytes es = []) (g : Globals),
      es.foldl Globals.interrupt (g.setTraffic traffic')
        = (es.foldl Globals.interrupt g).setTraffic traffic' := by
    intro es hes
    induction es with
    | nil =>
      intro g
      rfl
    | cons e es ih =>
      intro g
      cases e with
      | rx b => cases hes
      | tick =>
        rw [List.foldl_cons, List.foldl_cons]
        simp only [Globals.interrupt]
        rw [timeUpdate_setTraffic, ih hes]
      | poll => exact ih hes g
  have hstart := hfold hquiet { g with
    tagR2000Cmd80Number := (g.r2000.para 1).toNat * 256 + (g.r2000.para 2).toNat
    traffic := traffic }
  unfold retrievalStart
  dsimp only [Globals.setTraffic] at hstart ⊢
  rw [hstart]

/-- The call for the tags, with the events of its wait. -/
theorem encodeR2000_retrieval {quiet : List Event} (hquiet : rxBytes quiet = []) (p : Mem)
    (es : List Event) (rest : List (List Event)) (g : Globals) :
  encodeR2000 0x91 p (retrievalStart quiet (es :: rest) g)
    = waitR2000 0x91 es (sendCmd 0x91 0 p (retrievalStart quiet rest g))
  := by
  rw [retrievalStart_traffic hquiet rest (es :: rest)]
  unfold encodeR2000
  rw [encodeR2000From_setTraffic (by decide), ← sendCmd_setTraffic,
    ← retrievalStart_traffic hquiet]

/-- The inventory when `0x91` is sent: no tag of the number reported is collected yet. -/
theorem collected_retrievalStart {p : Mem} {g g₁ : Globals} {n : ℕ}
    (hcall : encodeR2000 0x80 (inventoryRounds p g) (inventoryStart p g) = some (0, g₁))
    (hreport : g₁.r2000.Reports n) {quiet : List Event} (hquiet : rxBytes quiet = [])
    (traffic : List (List Event)) :
  (retrievalStart quiet traffic g₁).r2000.Holds Framing.idle
    ∧ Collected n [] (retrievalStart quiet traffic g₁).inventory
    ∧ (retrievalStart quiet traffic g₁).gDevice = g.gDevice
  := by
  obtain ⟨hidle, hsame⟩ : g₁.r2000.Holds Framing.idle
      ∧ (g₁.r2000.frameCmd ∉ tagCodes → g₁.inventory = (inventoryStart p g).inventory) := by
    unfold encodeR2000 encodeR2000From at hcall
    rw [if_pos (by decide)] at hcall
    split at hcall
    · cases hcall
    · rename_i es rest _
      have hsent := sendCmd_inventory (by decide : (0x80 : UInt8) ≠ 0x78) 0 (inventoryRounds p g)
        (inventoryStart p g)
      have hmark := (sendCmd_link 0x80 0 (inventoryRounds p g) (inventoryStart p g)).2
      refine wait_single (by decide) ⟨?_, ?_, ?_⟩ hcall
      · exact fun _ => hsent
      · exact fun hne => absurd hmark hne
      · exact fun hne => absurd hmark hne
  have hinv := hsame (by rw [hreport.code]; decide)
  obtain ⟨hlink, hquietly⟩ := foldl_interrupt_quiet hquiet (g := { g₁ with
    tagR2000Cmd80Number := (g₁.r2000.para 1).toNat * 256 + (g₁.r2000.para 2).toNat
    traffic := traffic }) hidle
  unfold Globals.inventory at hinv hquietly
  simp only [Inventory.mk.injEq] at hinv hquietly
  refine ⟨hlink, ⟨?_, ?_, rfl, ?_, ?_⟩, ?_⟩
  · exact hquietly.2.2.1.trans hinv.2.2.1
  · exact hquietly.2.2.2.1.trans hreport.number
  · exact hquietly.2.2.2.2.2.2.trans hinv.2.2.2.2.2.2
  · intro i hi
    cases hi
  · exact hquietly.1.trans hinv.1

/-- The state of the wait for `0x91`: the link is idle and no tag is collected yet. -/
theorem collected_sent {p : Mem} {g g₁ : Globals} {n : ℕ}
    (hcall : encodeR2000 0x80 (inventoryRounds p g) (inventoryStart p g) = some (0, g₁))
    (hreport : g₁.r2000.Reports n) {quiet : List Event} (hquiet : rxBytes quiet = [])
    (rest : List (List Event)) :
  let sent := sendCmd 0x91 0 (inventoryRounds p g) (retrievalStart quiet rest g₁)
  sent.r2000.Holds Framing.idle ∧ Collected n [] sent.inventory
  := by
  intro sent
  obtain ⟨hidle, hstart, -⟩ := collected_retrievalStart hcall hreport hquiet rest
  have hsent := sendCmd_inventory (by decide : (0x91 : UInt8) ≠ 0x78) 0 (inventoryRounds p g)
    (retrievalStart quiet rest g₁)
  constructor
  · refine SR2000TransData.holds_idle_iff.mpr ⟨(sendCmd_link _ _ _ _).2, ?_⟩
    rw [(sendCmd_index ⟨[], rfl, by decide⟩).1]
    exact hidle.counted
  · rwa [hsent]

/-- The frames of the tags reported arrive during the wait for `0x91`, with a poll after each and
none too late: `0x91` returns `0` with all of them collected, and not before the last byte of the
last frame. -/
theorem retrieval_collects {p : Mem} {g g₁ : Globals} {tags : List TagAnswer}
    {quiet : List Event} (late : List Event) {blocks rest : List (List Event)}
    (hone : 1 ≤ tags.length) (hmax : tags.length ≤ maxNum)
    (hcall : encodeR2000 0x80 (inventoryRounds p g) (inventoryStart p g) = some (0, g₁))
    (hreport : g₁.r2000.Reports tags.length) (hquiet : rxBytes quiet = [])
    (hblocks : Deliver tags blocks)
    (htime : Run.Along (waitStep 0x91) InTime (polled blocks)
      (sendCmd 0x91 0 (inventoryRounds p g) (retrievalStart quiet rest g₁))) :
  (∃ g₂, encodeR2000 0x91 (inventoryRounds p g)
        (retrievalStart quiet ((polled blocks ++ late) :: rest) g₁) = some (0, g₂)
      ∧ Collected tags.length tags g₂.inventory ∧ g₂.gDevice = g.gDevice)
    ∧ ∀ es₁ es₂, polled blocks = es₁ ++ es₂ → rxBytes es₂ ≠ [] →
      encodeR2000 0x91 (inventoryRounds p g) (retrievalStart quiet (es₁ :: rest) g₁) = none
  := by
  obtain ⟨-, -, hdevice⟩ := collected_retrievalStart hcall hreport hquiet rest
  obtain ⟨hlink, hstart⟩ := collected_sent hcall hreport hquiet rest
  have hne : tags ≠ [] := List.ne_nil_of_length_pos hone
  obtain ⟨⟨g₂, hwait, hcollected⟩, hbefore⟩ := wait_collects hmax hblocks hne
    (Nat.zero_add _) hlink hstart htime
  rw [List.nil_append] at hcollected
  have hretrieve : encodeR2000 0x91 (inventoryRounds p g)
      (retrievalStart quiet ((polled blocks ++ late) :: rest) g₁) = some (0, g₂) := by
    rw [encodeR2000_retrieval hquiet]
    exact hwait late
  have hdevice₂ : g₂.gDevice = g.gDevice := by
    have hkept := congrArg (fun x => x.1.gDevice) (encodeR2000From_undriven (by decide) hretrieve)
    have htraffic₂ := retrievalStart_traffic hquiet rest ((polled blocks ++ late) :: rest) g₁
    refine Eq.trans (b := (retrievalStart quiet rest g₁).gDevice) ?_ hdevice
    rw [htraffic₂] at hkept
    exact hkept
  refine ⟨⟨g₂, hretrieve, hcollected, hdevice₂⟩, ?_⟩
  intro es₁ es₂ hcut hmore
  rw [encodeR2000_retrieval hquiet]
  exact hbefore es₁ es₂ hcut hmore

/-- An inventory is collected completely.  When the answer to `0x80` has reported `n` tags, up to
`MAXNUM`, and the frames of `n` tags arrive during the wait for `0x91`, with a poll after each and
none too late, then `0x91` returns `0`, not before the last byte of the last frame, and
`EPC1G2_ListMaskTagID` ends with `n` tags in the first `n` rows. -/
theorem inventory_complete (p : Mem) (g g₁ : Globals) (tags : List TagAnswer)
    (quiet late : List Event) (blocks rest : List (List Event)) (hone : 1 ≤ tags.length)
    (hmax : tags.length ≤ maxNum)
    (hcall : encodeR2000 0x80 (inventoryRounds p g) (inventoryStart p g) = some (0, g₁))
    (hreport : g₁.r2000.Reports tags.length)
    (htraffic : g₁.traffic = quiet :: (polled blocks ++ late) :: rest)
    (hquiet : rxBytes quiet = []) (hblocks : Deliver tags blocks)
    (htime : Run.Along (waitStep 0x91) InTime (polled blocks)
      (sendCmd 0x91 0 (inventoryRounds p g) (retrievalStart quiet rest g₁))) :
  (∃ g₂ m g', encodeR2000 0x91 (inventoryRounds p g)
        (retrievalStart quiet ((polled blocks ++ late) :: rest) g₁) = some (0, g₂)
      ∧ epc1g2ListMaskTagID p g = some (m, g')
      ∧ g'.cardPos = tags.length ∧ g'.tagAllNumber = tags.length
      ∧ ∀ i (h : i < tags.length),
        (tags.get ⟨i, h⟩).InRow g.gDevice (g'.antId + 1) (g'.cardIndex i)
          ∧ (rowOffsets (tags.get ⟨i, h⟩).words).Nodup)
    ∧ ∀ es₁ es₂, polled blocks = es₁ ++ es₂ → rxBytes es₂ ≠ [] →
      encodeR2000 0x91 (inventoryRounds p g) (retrievalStart quiet (es₁ :: rest) g₁) = none
  := by
  obtain ⟨⟨g₂, hretrieve, hcollected, hdevice⟩, hbefore⟩ :=
    retrieval_collects late hone hmax hcall hreport hquiet hblocks htime
  have hreply := inventory6C_retrieves appendRow hcall hreport.long
    (by rw [hreport.number]; exact hone) htraffic hretrieve
  rw [replyFirstPage_eq] at hreply
  refine ⟨⟨g₂, _, _, hretrieve, hreply, ?_, ?_, ?_⟩, hbefore⟩
  · exact hcollected.rows
  · have hrows : g₂.cardPos = tags.length := hcollected.rows
    have hall : (firstPage g₂).tagAllNumber = g₂.cardPos % 2 ^ 16 := rfl
    simp only [maxNum] at hmax
    refine hall.trans ?_
    omega
  · intro i hi
    have hheld := hcollected.held i hi
    have hinv : g₂.inventory.gDevice = g.gDevice := hdevice
    rw [hinv] at hheld
    exact ⟨hheld, nodup_rowOffsets (tags.get ⟨i, hi⟩).words_le⟩

/-- A tag with an EPC of one word. -/
def shortTag : TagAnswer where
  address := 1
  countHigh := 0
  countLow := 1
  pcHigh := 0x08
  pcLow := 0
  epc := [0xE2, 0x03]
  crcHigh := 0xAB
  crcLow := 0xCD
  rssi := 0x4A
  freqAnt := 0x18
  invCount := 1
  words := 1
  length_epc := rfl
  words_le := by decide

/-- A tag with an EPC of two words. -/
def longerTag : TagAnswer where
  address := 1
  countHigh := 0
  countLow := 1
  pcHigh := 0x10
  pcLow := 0
  epc := [0xE2, 0x00, 0x34, 0x11]
  crcHigh := 0x12
  crcLow := 0x34
  rssi := 0x50
  freqAnt := 0x18
  invCount := 1
  words := 2
  length_epc := rfl
  words_le := by decide

/-- An answer to `0x80` that reports two tags. -/
def twoTagReport : List UInt8 :=
  [0xA0, 0x0C, 0x01, 0x80, 0x00, 0x00, 0x02, 0x00, 0x64, 0x00, 0x00, 0x00, 0x01, 0x6C]

/-- The frames of two tags, of which the second one comes in two parts. -/
def twoTagBlocks : List (List Event) :=
  [shortTag.bytes.map .rx, (longerTag.bytes.take 9).map .rx ++ List.replicate 10 .tick
    ++ (longerTag.bytes.drop 9).map .rx]

/-- A new reader collects two tags. -/
theorem inventory_complete_two :
  let g := (powerOn .blank).toGlobals.setTraffic
    [twoTagReport.map .rx ++ [.poll], [.tick], polled twoTagBlocks]
  ∃ m g', epc1g2ListMaskTagID (fun _ => 0) g = some (m, g') ∧ g'.cardPos = 2
    ∧ g'.tagAllNumber = 2 ∧ shortTag.InRow g.gDevice (g'.antId + 1) (g'.cardIndex 0)
    ∧ longerTag.InRow g.gDevice (g'.antId + 1) (g'.cardIndex 1)
  := by
  intro g
  have hcall : (encodeR2000 0x80 (inventoryRounds (fun _ => 0) g)
      (inventoryStart (fun _ => 0) g)).map
      (fun out => (out.1, out.2.r2000.load.take 14, out.2.traffic,
        decide (Run.Along (waitStep 0x91) InTime (polled twoTagBlocks)
          (sendCmd 0x91 0 (inventoryRounds (fun _ => 0) g) (retrievalStart [.tick] [] out.2)))))
      = some (0, twoTagReport, [[.tick], polled twoTagBlocks], true) := by
    unfold g
    rw [powerOn_eq]
    decide +kernel
  rw [Option.map_eq_some_iff] at hcall
  obtain ⟨⟨flag, g₁⟩, hcall, heq⟩ := hcall
  simp only [Prod.mk.injEq, decide_eq_true_eq] at heq
  obtain ⟨rfl, hframe, htraffic, htime⟩ := heq
  have hload : ∀ i < 14, g₁.r2000.load i = twoTagReport.getD i 0 := by
    intro i hi
    exact getD_of_take (f := twoTagReport) hframe hi
  have hreport : g₁.r2000.Reports 2 := by
    refine ⟨hload 3 (by decide), ?_, ?_⟩
    · rw [SR2000TransData.frameLen, hload 1 (by decide)]
      decide
    · rw [SR2000TransData.para, Mem.shift_apply, Mem.shift_apply, hload 5 (by decide),
        hload 6 (by decide)]
      decide
  have hdeliver : Deliver [shortTag, longerTag] twoTagBlocks :=
    .cons (rxBytes_map _) (.cons (by decide) .nil)
  obtain ⟨⟨_, m, g', -, hreply, hpos, hall, hrows⟩, -⟩ := inventory_complete (fun _ => 0) g g₁
    [shortTag, longerTag] [.tick] [] twoTagBlocks [] (by decide) (by decide) hcall
    hreport (by rw [htraffic, List.append_nil]) rfl hdeliver htime
  exact ⟨m, g', hreply, hpos, hall, (hrows 0 (by decide)).1, (hrows 1 (by decide)).1⟩

end UhfReader
