import UhfReader.Lib.Pieces
import UhfReader.Phantoms
import UhfReader.SavedRows

/-!
# Records of tags

What `sendDataOut` sends for the rows of `TagSaveBuf`.  A record is prepared in the static buffer
`buf`, which keeps what earlier records left there.  On RS485 a record is a frame with the address
of the reader, the antenna and the identifier in hexadecimal digits, closed by a checksum.

The loops leave out all identifiers when `chk` is `222`, the mark of a sign of life.  In the modes
that send a snapshot `chk` is the number of tags, and `222` tags are taken for a sign of life.
-/

open Memory Pieces

namespace UhfReader

/-! ### Hexadecimal digits -/

/-- `hextochar`, the character of a digit. -/
def hextochar (ch : UInt8) : UInt8 := if ch ≤ 9 then ch + 0x30 else ch - 10 + 0x41

/-- `charTohex`, the digit of a character. -/
def charTohex (ch : UInt8) : UInt8 := if ch ≤ 0x39 then ch - 0x30 else ch - 0x41 + 10

/-- The two characters of a byte. -/
def hexByte (b : UInt8) : List UInt8 := [hextochar (b >>> 4), hextochar (b &&& 0x0F)]

/-- The characters of some bytes. -/
def hexBytes (l : List UInt8) : List UInt8 := l.flatMap hexByte

/-- The bytes of some characters. -/
def fromHex : List UInt8 → List UInt8
  | a :: b :: l => (charTohex a * 16 + charTohex b) :: fromHex l
  | _ => []

/-- The digits `0` to `9` and `A` to `F`. -/
def HexDigit (c : UInt8) : Prop := 0x30 ≤ c ∧ c ≤ 0x39 ∨ 0x41 ≤ c ∧ c ≤ 0x46

instance (c : UInt8) : Decidable (HexDigit c) := inferInstanceAs (Decidable (_ ∨ _))

/-- The character of a digit tells the digit. -/
theorem hextochar_spec {ch : UInt8} (h : ch.toNat < 16) :
  charTohex (hextochar ch) = ch ∧ HexDigit (hextochar ch)
  := by
  have hall : ∀ k < 16, charTohex (hextochar (.ofNat k)) = .ofNat k
      ∧ HexDigit (hextochar (.ofNat k)) := by
    decide
  rw [← UInt8.ofNat_toNat (x := ch)]
  exact hall ch.toNat h

/-- The digits of a byte. -/
theorem digits_eq (b : UInt8) :
  (b >>> 4).toNat = b.toNat / 16 ∧ (b &&& 0x0F).toNat = b.toNat % 16
  := by
  constructor
  · rw [UInt8.toNat_shiftRight, Nat.shiftRight_eq_div_pow]
    rfl
  · rw [UInt8.toNat_and]
    exact Nat.and_two_pow_sub_one_eq_mod b.toNat 4

theorem digits_lt (b : UInt8) :
  (b >>> 4).toNat < 16 ∧ (b &&& 0x0F).toNat < 16
  := by
  have hb := b.toNat_lt
  rw [(digits_eq b).1, (digits_eq b).2]
  omega

theorem length_hexBytes (l : List UInt8) :
  (hexBytes l).length = 2 * l.length
  := by
  induction l with
  | nil => rfl
  | cons b l ih =>
    rw [hexBytes, List.flatMap_cons, List.length_append, ← hexBytes, ih, List.length_cons]
    simp only [hexByte, List.length_cons, List.length_nil]
    omega

theorem hexDigit_of_mem {l : List UInt8} {c : UInt8} (h : c ∈ hexBytes l) :
  HexDigit c
  := by
  obtain ⟨b, -, hc⟩ := List.mem_flatMap.mp h
  obtain ⟨hhigh, hlow⟩ := digits_lt b
  simp only [hexByte, List.mem_cons, List.not_mem_nil, or_false] at hc
  obtain rfl | rfl := hc
  · exact (hextochar_spec hhigh).2
  · exact (hextochar_spec hlow).2

/-- A byte is put together from its digits. -/
theorem digits_add (b : UInt8) :
  (b >>> 4) * 16 + (b &&& 0x0F) = b
  := by
  have hb := b.toNat_lt
  apply UInt8.toNat_inj.mp
  rw [UInt8.toNat_add, UInt8.toNat_mul, (digits_eq b).1, (digits_eq b).2]
  show (b.toNat / 16 * 16 % 2 ^ 8 + b.toNat % 16) % 2 ^ 8 = b.toNat
  omega

/-- The characters of bytes tell the bytes. -/
theorem fromHex_hexBytes (l : List UInt8) :
  fromHex (hexBytes l) = l
  := by
  induction l with
  | nil => rfl
  | cons b l ih =>
    obtain ⟨hhigh, hlow⟩ := digits_lt b
    show (charTohex (hextochar (b >>> 4)) * 16 + charTohex (hextochar (b &&& 0x0F)))
      :: fromHex (hexBytes l) = b :: l
    rw [ih, (hextochar_spec hhigh).1, (hextochar_spec hlow).1, digits_add]

/-! ### Rows with identifiers -/

/-- The rows that a record is sent for, with the identifiers of the records. -/
def rowIds (chk : ℕ) (rows : List Row) : List (Row × List UInt8) :=
  rows.filterMap fun row => (rowRecord chk row).map fun id => (row, id)

/-- Records are sent with their identifiers, unless `chk` is `222`. -/
theorem rowIds_of_ne {chk : ℕ} (h : chk ≠ 222) (rows : List Row) :
  rowIds chk rows = (rows.filter (·.Valid)).map fun row => (row, row.id)
  := by
  rw [← List.filterMap_eq_map, ← List.filterMap_eq_filter, List.filterMap_filterMap]
  apply List.filterMap_congr
  intro row _
  by_cases hvalid : row.Valid
  · simp [rowRecord, h, hvalid]
  · simp [rowRecord, h, hvalid, Option.guard]

/-- All rows have empty records when `chk` is `222`. -/
theorem rowIds_sign (rows : List Row) :
  rowIds 222 rows = rows.map fun row => (row, [])
  := by
  rw [← List.filterMap_eq_map]
  rfl

/-- A loop that sends a record for each row that has one; the state of type `σ` is what one round
leaves for the next. -/
def sendEach {σ : Type} (send : σ → Row → Option (List UInt8) × σ) :
    σ → List Row → List (List UInt8)
  | _, [] => []
  | s, row :: rows => (send s row).1.toList ++ sendEach send (send s row).2 rows

/-- A relation between a row with its identifier and the record that is sent holds for the whole
loop, when a round keeps what it rests on. -/
theorem sendEach_forall₂ {σ : Type} {send : σ → Row → Option (List UInt8) × σ} {chk : ℕ}
    {I : σ → Prop} {R : Row → List UInt8 → List UInt8 → Prop}
    (hsend : ∀ s row, I s → I (send s row).2
      ∧ Option.Rel (R row) (rowRecord chk row) (send s row).1)
    {s : σ} (hs : I s) (rows : List Row) :
  List.Forall₂ (fun p record => R p.1 p.2 record) (rowIds chk rows) (sendEach send s rows)
  := by
  induction rows generalizing s with
  | nil => exact .nil
  | cons row rows ih =>
    obtain ⟨hinv, hrel⟩ := hsend s row hs
    specialize ih hinv
    rw [sendEach]
    unfold rowIds at ih ⊢
    revert hrel
    generalize (send s row).1 = sent
    intro hrel
    cases hid : rowRecord chk row with
    | none =>
      rw [hid] at hrel
      cases hrel
      rw [List.filterMap_cons_none (by rw [hid]; rfl)]
      exact ih
    | some id =>
      rw [hid] at hrel
      cases hrel with
      | some hrow =>
        rw [List.filterMap_cons_some (by rw [hid]; rfl)]
        exact .cons hrow ih

/-! ### Calls that send tags -/

/-- What is sent after the decision. -/
def Globals.output {β : Type} (send : ℕ → Globals → List β) (g : Globals) : List β :=
  if g.decision.1 ≠ 0 then send g.decision.1 g.decision.2.startOutPutTimer else []

namespace Globals

/-- The globals when `sendDataOut` has checked whether there is something to do. -/
def checked (g : Globals) : Globals := (checkOutput g.wiegandType).2

/-- Tags are sent, and not a sign of life: the tags are judged, and the result is neither `0` nor
the `222` for a call that has found none. -/
structure SendsTags (g : Globals) : Prop where
  check : (checkOutput g.wiegandType).1 = 1
  judged : (judgeTag g.checked).1 ≠ 0
  tags : ¬ (g.checked.gDevice.load Offset.callPCType = 1 ∧ g.validRows = [])

/-- The rows that are kept when the tags have been judged. -/
def judgedRows (g : Globals) : List Row := (judgeTag g.checked).2.savedRows

/-- A snapshot of 222 tags is sent, which `chk` does not tell from a sign of life. -/
def MistakenForSign (g : Globals) : Prop :=
  ¬ 2 ≤ g.wiegandType.gDevice.load Offset.callPCType ∧ g.validRows.length = 222

instance (g : Globals) : Decidable g.MistakenForSign := inferInstanceAs (Decidable (_ ∧ _))

/-- In the modes that keep tags `judgeTag` tells whether there are new ones and expired ones. -/
theorem judgeKept_le (g : Globals) :
  (judgeKept g).1 ≤ 2
  := by
  have hjudge : ∀ (tmpNum : ℕ) (s : Judging) (card : Row), s.addTag ≤ 1 →
      (s.judge tmpNum card).addTag ≤ 1 := by
    intro tmpNum s card hle
    unfold Judging.judge
    split
    · exact hle
    · split
      · exact le_rfl
      · exact le_rfl
  have hadd : ∀ g : Globals, (judgeLoop g).addTag ≤ 1 := by
    intro g
    apply List.foldlRecOn (motive := fun s : Judging => s.addTag ≤ 1)
    · exact Nat.zero_le 1
    · intro s hle j _
      split
      · exact hjudge _ s _ hle
      · exact hle
  have hreduce : ∀ g : Globals, g.reduceTag ≤ 1 := by
    intro g
    unfold reduceTag
    split
    · exact le_rfl
    · exact Nat.zero_le 1
  unfold judgeKept
  dsimp only
  split
  · exact (hadd _).trans (by decide)
  · split
    · exact (hreduce _).trans (by decide)
    · exact Nat.add_le_add (hadd _) (hreduce _)

/-- In the others the result is the number of tags just read, which are kept, unless it is `0`, or
stands for a call that has found none. -/
theorem judgeTag_count {g : Globals} (htype : ¬ 2 ≤ g.gDevice.load Offset.callPCType)
    (hjudged : (judgeTag g).1 ≠ 0)
    (htags : ¬ (g.gDevice.load Offset.callPCType = 1 ∧ g.validRows = [])) :
  (judgeTag g).1 = g.validRows.length
    ∧ (judgeTag g).2.tagSaveCount = g.validRows.length
  := by
  have hcopied : ∀ g : Globals, g.copyTags.tagSaveCount = g.validRows.length := by
    intro g
    rw [copyTags_eq]
  rw [two_le_callPCType_iff, not_and_or, not_not, not_not] at htype
  revert hjudged
  unfold judgeTag
  split
  · intro _
    exact ⟨hcopied g, hcopied g⟩
  · rename_i hzero
    have hone := htype.resolve_left hzero
    rw [if_pos hone]
    split
    · exact fun hnone => absurd rfl hnone
    · intro _
      dsimp only
      split
      · rename_i hnone
        have hempty : g.validRows.length = 0 :=
          (hcopied { g with outPutTimer.isOverflow := 0 }).symm.trans hnone.1
        exact absurd ⟨hone, List.length_eq_zero_iff.mp hempty⟩ htags
      · exact ⟨hcopied { g with outPutTimer.isOverflow := 0 },
          hcopied { g with outPutTimer.isOverflow := 0 }⟩

/-- There is something to send. -/
theorem judgeOutput_of_ne {g : Globals} (h : (judgeTag g).1 ≠ 0) :
  judgeOutput g = ((judgeTag g).1, { (judgeTag g).2 with cardPos := 0 })
  := by
  unfold judgeOutput
  dsimp only
  rw [if_neg fun hnone => h hnone.1]

namespace SendsTags

variable {g : Globals}

theorem decision_eq (h : g.SendsTags) :
  g.decision = ((judgeTag g.checked).1, { (judgeTag g.checked).2 with cardPos := 0 })
  := by
  have hchecked : (checkOutput g.wiegandType).2 = g.checked := rfl
  rw [decision, if_pos h.check, hchecked, judgeOutput_of_ne h.judged]

/-- The check changes at most `read_count`. -/
theorem checked_eq (h : g.SendsTags) :
  ∃ n, g.checked = { g.wiegandType with readCount := n }
  := by
  have hcheck := h.check
  unfold checked
  generalize g.wiegandType = g' at hcheck ⊢
  unfold checkOutput at hcheck ⊢
  dsimp only at hcheck ⊢
  split
  · exact ⟨g'.readCount, rfl⟩
  · rename_i htype
    rw [if_neg htype] at hcheck
    split
    · rename_i henable
      rw [if_pos henable] at hcheck
      split
      · exact ⟨0, rfl⟩
      · rename_i hwiegand
        rw [if_neg hwiegand] at hcheck
        split
        · rename_i hdue
          rw [if_pos hdue] at hcheck
          exact absurd hcheck (show ¬ 222 = 1 by decide)
        · exact ⟨g'.readCount, rfl⟩
    · exact ⟨g'.readCount, rfl⟩

theorem checked_gDevice (h : g.SendsTags) :
  g.checked.gDevice = g.wiegandType.gDevice
  := by
  obtain ⟨n, heq⟩ := h.checked_eq
  rw [heq]

/-- The tags just read are the same. -/
theorem checked_validRows (h : g.SendsTags) :
  g.checked.validRows = g.validRows
  := by
  obtain ⟨n, heq⟩ := h.checked_eq
  obtain ⟨hrows, hpos⟩ := g.wiegandType_table
  rw [heq]
  unfold validRows
  dsimp only
  rw [hrows, hpos]

/-- `chk` is `222` if and only if there are 222 tags in a snapshot. -/
theorem chk_eq_iff (h : g.SendsTags) :
  g.decision.1 = 222 ↔ g.MistakenForSign
  := by
  have htags := h.tags
  rw [← h.checked_validRows] at htags
  rw [h.decision_eq]
  unfold MistakenForSign
  rw [← h.checked_gDevice, ← h.checked_validRows]
  dsimp only
  by_cases htype : 2 ≤ g.checked.gDevice.load Offset.callPCType
  · simp only [htype, not_true_eq_false, false_and, iff_false]
    obtain ⟨hzero, hone⟩ := (two_le_callPCType_iff _).mp htype
    unfold judgeTag
    rw [if_neg hzero, if_neg hone]
    have hle := g.checked.judgeKept_le
    omega
  · simp only [htype, not_false_eq_true, true_and]
    rw [(judgeTag_count htype h.judged htags).1]

/-- Then rows are kept. -/
theorem judgedRows_ne_nil (h : g.SendsTags) (hmistaken : g.MistakenForSign) :
  g.judgedRows ≠ []
  := by
  have htags := h.tags
  obtain ⟨htype, hcount⟩ := hmistaken
  rw [← h.checked_gDevice] at htype
  rw [← h.checked_validRows] at htags hcount
  have hsaved := (judgeTag_count htype h.judged htags).2
  intro hnil
  have hlength := congrArg List.length hnil
  unfold judgedRows savedRows at hlength
  rw [List.length_map, List.length_range, hsaved, hcount] at hlength
  cases hlength

/-- Of the device the decision changes `ReaderTime` and `CallPCType` at most. -/
theorem decision_load (h : g.SendsTags) {k : ℕ} (hk : Offset.readerTime + 6 ≤ k)
    (htype : k ≠ Offset.callPCType) :
  g.decision.2.gDevice.load k = g.gDevice.load k
  := by
  have hjudge : (judgeTag g.checked).2.gDevice.load k = g.checked.gDevice.load k := by
    unfold judgeTag
    split
    · rw [copyTags_eq]
    · split
      · split
        · rfl
        · dsimp only
          split
          · rw [copyTags_eq]
          · rw [copyTags_eq]
      · exact readClock_untouched g.checked (by omega)
  rw [h.decision_eq]
  refine hjudge.trans ?_
  rw [h.checked_gDevice]
  unfold wiegandType
  split
  · exact (Block.load_put (by decide)).trans (if_neg htype)
  · rfl

/-- What is sent, for the rows that are kept. -/
theorem output_eq {β : Type} (h : g.SendsTags) (send : ℕ → Globals → List β) :
  g.output send = send g.decision.1 g.decision.2.startOutPutTimer
    ∧ g.decision.2.savedRows = g.judgedRows
  := by
  rw [output, h.decision_eq, if_pos h.judged, judgedRows]
  generalize judgeTag g.checked = judged
  exact ⟨rfl, rfl⟩

end SendsTags

end Globals

/-! ### Frames on RS485 -/

/-- The pieces of a frame: the identifier, `STX`, the address of the reader, the antenna, and
`ETX`. -/
def rs485Pieces (d : SDevice) (antenna : UInt8) (id : List UInt8) : List (Piece UInt8) :=
  [⟨5, hexBytes id⟩, ⟨0, [0x02]⟩, ⟨1, hexByte d.address⟩, ⟨3, hexByte antenna⟩,
    ⟨5 + id.length * 2, [0x03]⟩]

/-- The frame for a row, and what it leaves in `buf`. -/
def rs485Row (d : SDevice) (chk : ℕ) (buf : Mem) (row : Row) : Option (List UInt8) × Mem :=
  match rowRecord chk row with
  | none => (none, buf)
  | some id =>
    let buf : Mem := fill buf (rs485Pieces d (row.load (tagIdLength + 6)) id)
    let buf := buf.put (id.length * 2 + 6) (setChecksum buf (id.length * 2 + 6))
    (some (buf.take (id.length * 2 + 7)), buf)

/-- The frames that `sendDataOut` sends on RS485. -/
def rs485Output (buf : Mem) (chk : ℕ) (g : Globals) : List (List UInt8) :=
  if g.gDevice.load Offset.cardOutModule = 1 then
    sendEach (rs485Row g.gDevice chk) buf g.savedRows
  else []

/-- A frame, and nothing that was left in `buf`. -/
def rs485Frame (address antenna : UInt8) (id : List UInt8) : List UInt8 :=
  let body := 0x02 :: hexBytes (address :: antenna :: id) ++ [0x03]
  body ++ [~~~ body.sum + 1]

theorem length_hexByte (b : UInt8) :
  (hexByte b).length = 2
  := rfl

theorem window_zero (m : Mem) (n : ℕ) :
  window m 0 n = m.take n
  := by
  apply List.map_congr_left
  intro i _
  exact congrArg m (Nat.zero_add i)

/-- The pieces of a frame, closed by the checksum, are the frame. -/
theorem take_rs485Pieces (d : SDevice) (buf : Mem) (antenna : UInt8) (id : List UInt8) :
  Mem.take (fill buf (rs485Pieces d antenna id)) (id.length * 2 + 6)
    = 0x02 :: hexBytes (d.address :: antenna :: id) ++ [0x03]
  := by
  have hlength := length_hexBytes id
  have hdigits := length_hexByte
  generalize hm : fill buf (rs485Pieces d antenna id) = m
  have hstx : window m 0 1 = [0x02] := by
    rw [← hm]
    apply window_fill buf [_] rfl
    simp [Piece.Apart, Piece.stop]
    omega
  have haddress : window m 1 2 = hexByte d.address := by
    rw [← hm]
    apply window_fill buf [_, _] rfl
    simp [Piece.Apart, Piece.stop, hdigits]
    omega
  have hantenna : window m 3 2 = hexByte antenna := by
    rw [← hm]
    apply window_fill buf [_, _, _] rfl
    simp [Piece.Apart, Piece.stop, hdigits]
  have hid : window m 5 (id.length * 2) = hexBytes id := by
    rw [← hm]
    apply window_fill buf [] (hlength.trans (Nat.mul_comm 2 _))
    simp [Piece.Apart, Piece.stop, hdigits]
  have hetx : window m (5 + id.length * 2) 1 = [0x03] := by
    rw [← hm]
    apply window_fill buf [_, _, _, _] rfl
    simp
  calc Mem.take m (id.length * 2 + 6)
    _ = window m 0 (1 + 2 + 2 + id.length * 2 + 1) := by
      rw [window_zero, show 1 + 2 + 2 + id.length * 2 + 1 = id.length * 2 + 6 by omega]
    _ = window m 0 1 ++ window m 1 2 ++ window m 3 2 ++ window m 5 (id.length * 2)
        ++ window m (5 + id.length * 2) 1 := by
      simp only [window_add, Nat.zero_add]
    _ = 0x02 :: hexBytes (d.address :: antenna :: id) ++ [0x03] := by
      rw [hstx, haddress, hantenna, hid, hetx]
      rfl

/-- The frame for a row does not depend on what was in `buf`. -/
theorem rs485Row_eq (d : SDevice) (chk : ℕ) (buf : Mem) (row : Row) :
  (rs485Row d chk buf row).1
    = (rowRecord chk row).map (rs485Frame d.address (row.load (tagIdLength + 6)))
  := by
  unfold rs485Row
  cases rowRecord chk row with
  | none => rfl
  | some id =>
    have htake := take_rs485Pieces d buf (row.load (tagIdLength + 6)) id
    dsimp only
    rw [Mem.take_put, setChecksum, byteSum_eq_sum, htake]
    rfl

/-- A frame that decodes to an address, an antenna and an identifier: `STX`, hexadecimal digits,
`ETX`, which is none of the bytes before it, and a checksum. -/
structure TagFrame (address antenna : UInt8) (id frame : List UInt8) : Prop where
  length : frame.length = 2 * id.length + 7
  stx : frame.head? = some 0x02
  digits : ∀ c ∈ (frame.drop 1).take (2 * id.length + 4), HexDigit c
  etx : frame.dropLast.idxOf 0x03 = 2 * id.length + 5
  sum : frame.sum = 0
  decoded : fromHex ((frame.drop 1).take (2 * id.length + 4)) = address :: antenna :: id

theorem rs485Frame_spec (address antenna : UInt8) (id : List UInt8) :
  TagFrame address antenna id (rs485Frame address antenna id)
  := by
  let digits := hexBytes (address :: antenna :: id)
  have hlength : digits.length = 2 * id.length + 4 := by
    rw [length_hexBytes, List.length_cons, List.length_cons]
    omega
  have hframe : rs485Frame address antenna id
      = (0x02 :: digits) ++ [0x03] ++ [~~~ (0x02 :: digits ++ [0x03]).sum + 1] := rfl
  have hdigits : ((rs485Frame address antenna id).drop 1).take (2 * id.length + 4) = digits := by
    rw [hframe, ← hlength, List.append_assoc, List.cons_append, List.drop_succ_cons,
      List.drop_zero, List.take_left]
  constructor
  · rw [hframe]
    simp [hlength]
  · rfl
  · rw [hdigits]
    exact fun c hc => hexDigit_of_mem hc
  · have habsent : (0x03 : UInt8) ∉ 0x02 :: digits := by
      rw [List.mem_cons, not_or]
      exact ⟨by decide, fun hmem => absurd (hexDigit_of_mem hmem) (by decide)⟩
    rw [hframe, List.dropLast_concat, List.idxOf_append_of_notMem habsent]
    simp [hlength]
  · exact sum_closed _
  · rw [hdigits]
    exact fromHex_hexBytes _

/-- A frame tells what it is for. -/
theorem TagFrame.unique {address antenna address' antenna' : UInt8} {id id' frame : List UInt8}
    (h : TagFrame address antenna id frame) (h' : TagFrame address' antenna' id' frame) :
  address = address' ∧ antenna = antenna' ∧ id = id'
  := by
  have hlength : id.length = id'.length := by
    have := h.length.symm.trans h'.length
    omega
  have hdecoded := h.decoded
  rw [hlength, h'.decoded] at hdecoded
  simpa using hdecoded.symm

/-- When all rows have empty records, these are not right for rows with identifiers. -/
theorem not_forall₂_of_sign {P : Row → List UInt8 → Prop} {R : Row → List UInt8 → List UInt8 → Prop}
    {rows : List Row} {records : List (List UInt8)} (hne : rows ≠ [])
    (hsent : List.Forall₂ (fun p record => R p.1 p.2 record) (rowIds 222 rows) records)
    (hclash : ∀ row row' record, row.Valid → R row' [] record → ¬ P row record) :
  ¬ List.Forall₂ P (rows.filter (·.Valid)) records
  := by
  intro hright
  rw [rowIds_sign] at hsent
  cases rows with
  | nil => exact hne rfl
  | cons row rows =>
    rw [List.map_cons] at hsent
    cases hsent with
    | cons hempty hsent =>
      generalize hvalid : (row :: rows).filter (·.Valid) = valid at hright
      cases hright with
      | cons htag hright =>
        rename_i tag _
        have htagmem : tag ∈ (row :: rows).filter (·.Valid) := by
          rw [hvalid]
          exact List.mem_cons_self
        have htagvalid : tag.Valid := of_decide_eq_true (List.mem_filter.mp htagmem).2
        exact hclash tag row _ htagvalid hempty htag

namespace Globals

/-- The frames on RS485 decode to the tags that are kept. -/
def FramesDecode (g : Globals) (buf : Mem) : Prop :=
  List.Forall₂
    (fun row frame => TagFrame g.gDevice.address (row.load (tagIdLength + 6)) row.id frame)
    (g.judgedRows.filter (·.Valid)) (g.output (rs485Output buf))

/-- A frame for a row with an identifier. -/
def FrameSent (g : Globals) (row : Row) (id frame : List UInt8) : Prop :=
  frame = rs485Frame g.gDevice.address (row.load (tagIdLength + 6)) id

namespace SendsTags

variable {g : Globals}

/-- The frames that are sent on RS485. -/
theorem frames_sent (h : g.SendsTags) (hmodule : g.gDevice.load Offset.cardOutModule = 1)
    (buf : Mem) :
  List.Forall₂ (fun p frame => g.FrameSent p.1 p.2 frame) (rowIds g.decision.1 g.judgedRows)
    (g.output (rs485Output buf))
  := by
  have haddress : g.decision.2.gDevice.address = g.gDevice.address :=
    h.decision_load (by decide) (by decide)
  have hmodule' : g.decision.2.gDevice.load Offset.cardOutModule = 1 :=
    (h.decision_load (by decide) (by decide)).trans hmodule
  obtain ⟨houtput, hrows⟩ := h.output_eq (rs485Output buf)
  have hframes : g.output (rs485Output buf)
      = sendEach (rs485Row g.decision.2.gDevice g.decision.1) buf g.judgedRows := by
    rw [houtput, rs485Output, startOutPutTimer_gDevice, if_pos hmodule',
      startOutPutTimer_savedRows, hrows]
  rw [hframes]
  refine sendEach_forall₂ (I := fun _ => True) ?_ trivial g.judgedRows
  intro buf row _
  refine ⟨trivial, ?_⟩
  unfold FrameSent
  rw [rs485Row_eq, haddress]
  cases rowRecord g.decision.1 row with
  | none => exact .none
  | some id => exact .some rfl

/-- The frames have the identifiers of `sentRecords`. -/
theorem frames_records (h : g.SendsTags) (hmodule : g.gDevice.load Offset.cardOutModule = 1)
    (buf : Mem) :
  (g.output (rs485Output buf)).map
      (fun frame => (fromHex ((frame.drop 1).take (frame.length - 3))).drop 2)
    = g.sentRecords
  := by
  have hids : (rowIds g.decision.1 g.judgedRows).map Prod.snd = g.sentRecords := by
    have htext : g.decision.2.gDevice.textOutput :=
      .inl ((h.decision_load (by decide) (by decide)).trans hmodule)
    obtain ⟨houtput, hrows⟩ := h.output_eq outputRecords
    have hsent : g.sentRecords = g.output outputRecords := rfl
    rw [hsent, houtput, ← hrows]
    generalize g.decision.2 = decided at htext ⊢
    rw [outputRecords, startOutPutTimer_gDevice, if_pos htext, rowIds, List.map_filterMap,
      savedRows, List.filterMap_map]
    apply List.filterMap_congr
    intro k _
    simp [startOutPutTimer]
  rw [← hids]
  symm
  rw [← List.forall₂_eq_eq_eq, List.forall₂_map_left_iff, List.forall₂_map_right_iff]
  refine (h.frames_sent hmodule buf).imp ?_
  rintro ⟨row, id⟩ frame rfl
  have htag := rs485Frame_spec g.gDevice.address (row.load (tagIdLength + 6)) id
  rw [htag.length, show 2 * id.length + 7 - 3 = 2 * id.length + 4 by omega, htag.decoded]
  rfl

/-- The identifiers of the tags are left out. -/
theorem not_framesDecode (h : g.SendsTags) (hmodule : g.gDevice.load Offset.cardOutModule = 1)
    (hmistaken : g.MistakenForSign) (buf : Mem) :
  ¬ g.FramesDecode buf
  := by
  have hsent := h.frames_sent hmodule buf
  rw [h.chk_eq_iff.mpr hmistaken] at hsent
  apply not_forall₂_of_sign (h.judgedRows_ne_nil hmistaken) hsent
  intro row row' frame hvalid hframe htag
  have hlength := htag.length
  rw [hframe, (rs485Frame_spec _ _ _).length] at hlength
  exact Row.id_ne_nil hvalid (List.length_eq_zero_iff.mp (by simpa using hlength.symm))

/-- The frames have the identifiers of the tags. -/
theorem framesDecode (h : g.SendsTags) (hmodule : g.gDevice.load Offset.cardOutModule = 1)
    (hmistaken : ¬ g.MistakenForSign) (buf : Mem) :
  g.FramesDecode buf
  := by
  have hsent := h.frames_sent hmodule buf
  rw [rowIds_of_ne fun hchk => hmistaken (h.chk_eq_iff.mp hchk), List.forall₂_map_left_iff]
    at hsent
  refine hsent.imp ?_
  rintro row frame rfl
  exact rs485Frame_spec _ _ _

end SendsTags

end Globals

/-- The frames on RS485 decode to the tags, whatever was in `buf`, if and only if the tags are not
taken for a sign of life, and a frame decodes in one way only. -/
theorem framesDecode_iff (g : Globals) (buf : Mem) (h : g.SendsTags)
    (hmodule : g.gDevice.load Offset.cardOutModule = 1) :
  (g.FramesDecode buf ↔ ¬ g.MistakenForSign)
    ∧ ∀ address antenna id address' antenna' id' frame, TagFrame address antenna id frame →
      TagFrame address' antenna' id' frame →
      address = address' ∧ antenna = antenna' ∧ id = id'
  := by
  refine ⟨?_, fun _ _ _ _ _ _ _ htag htag' => htag.unique htag'⟩
  constructor
  · exact fun hdecode hmistaken => h.not_framesDecode hmodule hmistaken buf hdecode
  · exact fun hmistaken => h.framesDecode hmodule hmistaken buf

/-- The call that takes a snapshot of some tags when `OutPutTimer` has expired. -/
theorem Globals.judgeTag_timed {g : Globals} (htype : g.gDevice.load Offset.callPCType = 1)
    (hdue : g.Due) (hne : g.validRows ≠ []) :
  judgeTag g = (g.validRows.length,
    { { g with outPutTimer.isOverflow := 0 }.copyTags with cardPos := 0 })
  := by
  have hcopied : { g with outPutTimer.isOverflow := 0 }.copyTags.tagSaveCount
      = g.validRows.length := by
    rw [copyTags_eq]
    rfl
  unfold judgeTag
  dsimp only
  rw [htype, if_neg (by decide), if_pos rfl, if_neg hdue, if_neg, hcopied]
  rintro ⟨hnone, -⟩
  exact hne (List.length_eq_zero_iff.mp (hcopied.symm.trans hnone))

/-- A reader that notifies from time to time, without signs of life, sends the tags just read when
`OutPutTimer` has expired. -/
theorem Globals.sendsTags_timed {g : Globals} (htype : g.gDevice.load Offset.callPCType = 1)
    (henable : g.gDevice.load Offset.callPCEnable = 0) (hpending : g.Pending) (hdue : g.Due)
    (hvalid : ∀ k < g.cardPos, (g.cardIndex k).Valid) :
  g.SendsTags ∧ g.judgedRows = (List.range g.cardPos).map g.cardIndex
    ∧ g.validRows = (List.range g.cardPos).map g.cardIndex
  := by
  have hrows : g.validRows = (List.range g.cardPos).map g.cardIndex := by
    apply List.filter_eq_self.mpr
    intro row hrow
    obtain ⟨k, hk, rfl⟩ := List.mem_map.mp hrow
    exact decide_eq_true (hvalid k (List.mem_range.mp hk))
  have hcount : g.validRows.length = g.cardPos := by
    rw [hrows, List.length_map, List.length_range]
  obtain ⟨d, hd, htype', henable'⟩ : ∃ d, g.wiegandType = { g with gDevice := d }
      ∧ d.load Offset.callPCType = 1 ∧ d.load Offset.callPCEnable = 0 := by
    unfold Globals.wiegandType
    split
    · refine ⟨g.gDevice.put Offset.callPCType 1, rfl, ?_, ?_⟩
      · exact (Block.load_put (by decide)).trans (if_pos rfl)
      · exact ((Block.load_put (by decide)).trans (if_neg (by decide))).trans henable
    · exact ⟨g.gDevice, rfl, htype, henable⟩
  have hcheck : checkOutput g.wiegandType = (1, { g with gDevice := d }) := by
    rw [hd]
    unfold checkOutput
    dsimp only
    rw [htype', henable', if_neg (by decide), if_neg (by decide)]
    exact Prod.ext (if_pos hpending) rfl
  have hchecked : g.checked = { g with gDevice := d } := congrArg Prod.snd hcheck
  have hne : g.checked.validRows ≠ [] := by
    rw [hchecked]
    intro hnone
    have hzero : g.validRows.length = 0 := congrArg List.length hnone
    exact Nat.ne_of_gt hpending.1 (hcount.symm.trans hzero)
  have hjudge := Globals.judgeTag_timed (g := g.checked) (by rw [hchecked]; exact htype')
    (by rw [hchecked]; exact hdue) hne
  refine ⟨⟨congrArg Prod.fst hcheck, ?_, ?_⟩, ?_, hrows⟩
  · rw [hjudge]
    exact fun hzero => hne (List.length_eq_zero_iff.mp hzero)
  · rintro ⟨-, hnone⟩
    rw [hnone] at hcount
    exact Nat.ne_of_gt hpending.1 hcount.symm
  · unfold Globals.judgedRows
    rw [hjudge, hchecked, copyTags_eq]
    show (List.range g.validRows.length).map (fun k =>
      if k < g.cardPos ∧ (g.cardIndex k).Valid then g.cardIndex k else g.tagSaveBuf k) = _
    rw [hcount]
    apply List.map_congr_left
    intro k hk
    have hlt := List.mem_range.mp hk
    exact if_pos ⟨hlt, hvalid k hlt⟩

/-- A reader with the parameters `d` that has just read `count` tags, and whose `OutPutTimer` has
expired. -/
def sendingReader (d : SDevice) (rows : ℕ → Row) (count : ℕ) : Globals :=
  { (powerOn .blank).toGlobals with
    gDevice := d
    cardIndex := rows
    cardPos := count
    readCount := 1
    outPutTimer.isOverflow := 1 }

/-- Parameters for an output, with a notification from time to time. -/
def timedOutput (cardOutModule : UInt8) : SDevice :=
  ((Block.zero 210).put Offset.cardOutModule cardOutModule).put Offset.callPCType 1

theorem sendingReader_spec {d : SDevice} {rows : ℕ → Row} {n : ℕ}
    (htype : d.load Offset.callPCType = 1) (henable : d.load Offset.callPCEnable = 0)
    (hcount : n > 0) (hvalid : ∀ k < n, (rows k).Valid) :
  (sendingReader d rows n).SendsTags
    ∧ (sendingReader d rows n).judgedRows = (List.range n).map rows
    ∧ (sendingReader d rows n).validRows = (List.range n).map rows
  := Globals.sendsTags_timed htype henable ⟨hcount, Nat.one_pos⟩ (by decide : (1 : UInt8) ≠ 0)
    hvalid

/-- Two tags are sent. -/
theorem framesDecode_two :
  (sendingReader (timedOutput 1) numberedRow 2).FramesDecode (fun _ => 0)
  := by
  obtain ⟨hsends, -, hrows⟩ := sendingReader_spec (d := timedOutput 1) (n := 2) rfl rfl
    (by decide) fun k _ => numberedRow_valid k
  have hnot : ¬ (sendingReader (timedOutput 1) numberedRow 2).MistakenForSign := by
    rintro ⟨-, hcount⟩
    rw [hrows] at hcount
    cases hcount
  exact (framesDecode_iff _ _ hsends rfl).1.mpr hnot

/-- The identifiers of 222 tags are left out. -/
theorem framesDecode_not_222 :
  (sendingReader (timedOutput 1) numberedRow 222).SendsTags
    ∧ ¬ (sendingReader (timedOutput 1) numberedRow 222).FramesDecode (fun _ => 0)
  := by
  obtain ⟨hsends, -, hrows⟩ := sendingReader_spec (d := timedOutput 1) (n := 222) rfl rfl
    (by decide) fun k _ => numberedRow_valid k
  refine ⟨hsends, ?_⟩
  have hmistaken : (sendingReader (timedOutput 1) numberedRow 222).MistakenForSign := by
    refine ⟨by decide, ?_⟩
    rw [hrows, List.length_map, List.length_range]
  exact hsends.not_framesDecode rfl hmistaken _

end UhfReader
