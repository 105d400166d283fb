import UhfReader.Records

/-!
# Text records

On RS232 and RJ45 `sendDataOut` sends a line of text of 166 characters for each row, in a simple or
a standard format.  The line is prepared in the static buffer `buf`: a part of it is written before
the loop over the rows, and the rest for each row.

The antenna of the simple format is among what is written before the loop, and it is read from the
row `i`, where `i` has no value yet.  What is read there is the parameter `stray`.
-/

open Memory Pieces

namespace UhfReader

/-- The two characters of a number. -/
def twoDigits (b : UInt8) : List UInt8 := [b / 10 + 0x30, b % 10 + 0x30]

@[simp]
theorem length_twoDigits (b : UInt8) :
  (twoDigits b).length = 2
  := rfl

/-- The codes of some characters. -/
def chars (l : List Char) : List UInt8 := l.map fun c => UInt8.ofNat c.toNat

/-- A time of day, or a date, with the given character between the numbers. -/
def threeNumbers (separator : Char) (m : Mem) (off : ℕ) : List UInt8 :=
  twoDigits (m off) ++ chars [separator] ++ twoDigits (m (off + 1)) ++ chars [separator]
    ++ twoDigits (m (off + 2))

/-- The spaces behind an identifier, and the end of the line. -/
def paddingPieces (off : ℕ) : List (Piece UInt8) :=
  [⟨off, List.replicate (164 - off) 0x20⟩, ⟨164, [0x0D, 0x0A]⟩]

/-! ### The simple format -/

/-- What is written before the loop: `read_count`, the antenna, and `TagType`. -/
def simpleHeader (g : Globals) (stray : UInt8) : List (Piece UInt8) :=
  let digit (n : ℕ) : UInt8 := UInt8.ofNat (n + 0x30)
  let tempCount := g.readCount % 100000
  [⟨0, [digit (tempCount / 10000), digit (tempCount % 10000 / 1000), digit (tempCount % 1000 / 100),
      digit (tempCount % 100 / 10), digit (tempCount % 10)]⟩,
    ⟨0, [0x30]⟩, ⟨5, chars [',', ' ']⟩, ⟨7, twoDigits stray⟩, ⟨9, chars [',', ' ']⟩,
    ⟨11, hexByte (g.gDevice.load Offset.tagType)⟩, ⟨13, chars [',', ' ']⟩]

/-- What is written for a row. -/
def simplePieces (id : List UInt8) : List (Piece UInt8) :=
  ⟨15, hexBytes id⟩ :: paddingPieces (id.length * 2 + 15)

/-- The line for a row, and what it leaves in `buf`. -/
def simpleRow (chk : ℕ) (buf : Mem) (row : Row) : Option (List UInt8) × Mem :=
  match rowRecord chk row with
  | none => (none, buf)
  | some id =>
    let buf : Mem := fill buf (simplePieces id)
    (some (buf.take 166), buf)

/-! ### The standard format -/

/-- What is written before the loop: `ReaderTime` at two places, and `TagType`. -/
def standardHeader (d : SDevice) : List (Piece UInt8) :=
  let date := threeNumbers '/' d.load Offset.readerTime
  let time := threeNumbers ':' d.load (Offset.readerTime + 3)
  [⟨0, chars ['D', 'i', 's', 'c', ':', '2', '0']⟩, ⟨7, date⟩, ⟨15, chars [' ']⟩, ⟨16, time⟩,
    ⟨24, chars [',', ' ', 'L', 'a', 's', 't', ':', '2', '0']⟩, ⟨33, date⟩, ⟨41, chars [' ']⟩,
    ⟨42, time⟩, ⟨50, chars [',', ' ', 'C', 'o', 'u', 'n', 't', ':', ' ', ' ', '-', ' ', ' ']⟩,
    ⟨63, chars [',', ' ', 'A', 'n', 't', ':']⟩,
    ⟨71, chars [',', ' ', 'T', 'y', 'p', 'e', ':']⟩, ⟨78, hexByte (d.load Offset.tagType)⟩,
    ⟨80, chars [',', ' ', 'T', 'a', 'g', ':']⟩]

/-- What is written for a row, whether a line is sent for it or not: the signal strength and the
antenna. -/
def antennaPieces (rssi : UInt8) (row : Row) : List (Piece UInt8) :=
  [⟨61, twoDigits rssi⟩, ⟨69, twoDigits (row.load (tagIdLength + 6))⟩]

/-- A time of a row, without the colons. -/
def clockPieces (off : ℕ) (row : Row) (col : ℕ) : List (Piece UInt8) :=
  [⟨off, twoDigits (row.load col)⟩, ⟨off + 3, twoDigits (row.load (col + 1))⟩,
    ⟨off + 6, twoDigits (row.load (col + 2))⟩]

/-- The times of a row: when the tag was first read, and when it was last read. -/
def timePieces (row : Row) : List (Piece UInt8) :=
  clockPieces 16 row tagIdLength ++ clockPieces 42 row (tagIdLength + 3)

/-- What else is written for a row that a line is sent for. -/
def standardPieces (row : Row) (id : List UInt8) : List (Piece UInt8) :=
  ⟨86, hexBytes id⟩ :: (if id ≠ [] then timePieces row else [])
    ++ paddingPieces (id.length * 2 + 86)

/-- The line for a row, and what it leaves in `buf` and `bakrssi`. -/
def standardRow (chk : ℕ) (s : Mem × ℕ) (row : Row) : Option (List UInt8) × Mem × ℕ :=
  let (rssi, bakrssi) := rssichk s.2 (row.load (tagIdLength + 7)).toNat
  let buf : Mem := fill s.1 (antennaPieces rssi row)
  match rowRecord chk row with
  | none => (none, buf, bakrssi)
  | some id =>
    let buf : Mem := fill buf (standardPieces row id)
    (some (buf.take 166), buf, bakrssi)

/-- The lines that `sendDataOut` sends on RS232 and RJ45. -/
def textOutput (stray : UInt8) (buf : Mem) (chk : ℕ) (g : Globals) : List (List UInt8) :=
  if g.gDevice.load Offset.cardOutModule = 0 ∨ g.gDevice.load Offset.cardOutModule = 2 then
    if g.gDevice.load Offset.outputDataType = 0 then
      sendEach (simpleRow chk) (fill buf (simpleHeader g stray)) g.savedRows
    else if g.gDevice.load Offset.outputDataType = 1 then
      sendEach (standardRow chk) (fill buf (standardHeader g.gDevice), g.bakrssi) g.savedRows
    else []
  else []

/-! ### What is in a line -/

/-- The tag in a line: the identifier from `tagCol` on, then spaces, and the end of the line. -/
structure TagText (tagCol : ℕ) (id record : List UInt8) : Prop where
  length : record.length = 166
  tag : (record.drop tagCol).take (164 - tagCol)
    = hexBytes id ++ List.replicate (164 - tagCol - 2 * id.length) 0x20
  ending : record.drop 164 = [0x0D, 0x0A]

/-- An identifier that is sent has at most 30 bytes. -/
theorem length_le_of_rowRecord {chk : ℕ} {row : Row} {id : List UInt8}
    (h : rowRecord chk row = some id) :
  id.length ≤ 30
  := by
  unfold rowRecord at h
  split at h
  · cases h
    exact Nat.zero_le 30
  · split at h
    · rename_i hvalid
      cases h
      unfold Row.id
      rw [Mem.length_take]
      have := hvalid.le
      omega
    · cases h

/-- A part of a line is a window of `buf`. -/
theorem take_drop_take (m : Mem) {i k : ℕ} (h : i + k ≤ 166) :
  ((m.take 166).drop i).take k = window m i k
  := by
  rw [← window_zero, take_drop_window m 0 k h, Nat.zero_add]

/-- The pieces of an identifier and its padding give the text of the tag. -/
theorem tagText_fill (buf : Mem) (ps : List (Piece UInt8)) {tagCol : ℕ} {id : List UInt8}
    (hid : id.length * 2 + tagCol ≤ 164) (hps : ∀ p ∈ ps, p.Apart tagCol (id.length * 2)) :
  TagText tagCol id (Mem.take
    (fill buf (⟨tagCol, hexBytes id⟩ :: ps ++ paddingPieces (id.length * 2 + tagCol))) 166)
  := by
  let off := id.length * 2 + tagCol
  generalize hm : fill buf (⟨tagCol, hexBytes id⟩ :: ps ++ paddingPieces off) = m
  have hdigits : window m tagCol (id.length * 2) = hexBytes id := by
    rw [← hm]
    apply window_fill buf [] ((length_hexBytes id).trans (Nat.mul_comm 2 _))
    intro p hp
    obtain hmem | hmem := List.mem_append.mp hp
    · exact hps p hmem
    · simp only [paddingPieces, List.mem_cons, List.not_mem_nil, or_false] at hmem
      obtain rfl | rfl := hmem
      · exact .inr (by show tagCol + id.length * 2 ≤ off; omega)
      · exact .inr (by show tagCol + id.length * 2 ≤ 164; omega)
  have hspaces : window m off (164 - off) = List.replicate (164 - off) 0x20 := by
    rw [← hm]
    apply window_fill buf (⟨tagCol, hexBytes id⟩ :: ps) List.length_replicate
    intro p hp
    obtain rfl := List.mem_singleton.mp hp
    exact .inr (by show off + (164 - off) ≤ 164; omega)
  have hending : window m 164 2 = [0x0D, 0x0A] := by
    have hsplit : fill buf (⟨tagCol, hexBytes id⟩ :: ps ++ paddingPieces off)
        = fill buf ((⟨tagCol, hexBytes id⟩ :: ps ++ [⟨off, List.replicate (164 - off) 0x20⟩])
          ++ [⟨164, [0x0D, 0x0A]⟩]) := by
      rw [List.append_assoc]
      rfl
    rw [← hm, hsplit]
    apply window_fill buf _ rfl
    simp
  constructor
  · exact Mem.length_take m 166
  · have hwidth : 164 - tagCol = id.length * 2 + (164 - off) := by omega
    rw [take_drop_take m (by omega), hwidth, window_add, hdigits, Nat.add_comm tagCol, hspaces]
    congr 2
    omega
  · have htake := take_drop_take m (show 164 + 2 ≤ 166 by decide)
    rw [hending] at htake
    rw [← htake, List.take_of_length_le]
    simp

/-! ### The lines for rows -/

/-- The line for a row in the simple format, with the antenna that `buf` has. -/
theorem simpleRow_spec (stray : UInt8) (chk : ℕ) (buf : Mem) (row : Row)
    (hbuf : window buf 7 2 = twoDigits stray) :
  window (simpleRow chk buf row).2 7 2 = twoDigits stray
    ∧ Option.Rel
      (fun id record => TagText 15 id record ∧ (record.drop 7).take 2 = twoDigits stray)
      (rowRecord chk row) (simpleRow chk buf row).1
  := by
  unfold simpleRow
  cases hid : rowRecord chk row with
  | none => exact ⟨hbuf, .none⟩
  | some id =>
    have hle := length_le_of_rowRecord hid
    have hkept : window (fill buf (simplePieces id)) 7 2 = twoDigits stray := by
      rw [window_fill_apart, hbuf]
      simp [simplePieces, paddingPieces, Piece.Apart]
    refine ⟨hkept, .some ⟨tagText_fill buf [] (by omega) (by simp), ?_⟩⟩
    rw [take_drop_take _ (by decide)]
    exact hkept

/-- A time between colons that are there. -/
theorem window_clockPieces {m : Mem} {off : ℕ} (row : Row) (col : ℕ)
    (hfirst : window m (off + 2) 1 = chars [':']) (hsecond : window m (off + 5) 1 = chars [':']) :
  window (fill m (clockPieces off row col)) off 8 = threeNumbers ':' row.load col
  := by
  generalize hm' : fill m (clockPieces off row col) = m'
  have hhour : window m' off 2 = twoDigits (row.load col) := by
    rw [← hm']
    apply window_fill m [] rfl
    simp [Piece.Apart]
  have hminute : window m' (off + 3) 2 = twoDigits (row.load (col + 1)) := by
    rw [← hm']
    apply window_fill m [_] rfl
    simp [Piece.Apart]
  have hsecond' : window m' (off + 6) 2 = twoDigits (row.load (col + 2)) := by
    rw [← hm']
    apply window_fill m [_, _] rfl
    simp
  have hcolon : ∀ k, k = 2 ∨ k = 5 → window m' (off + k) 1 = window m (off + k) 1 := by
    intro k hk
    rw [← hm']
    apply window_fill_apart
    simp [clockPieces, Piece.Apart, Piece.stop]
    omega
  calc window m' off 8
    _ = window m' off (2 + 1 + 2 + 1 + 2) := rfl
    _ = window m' off 2 ++ window m' (off + 2) 1 ++ window m' (off + 3) 2
        ++ window m' (off + 5) 1 ++ window m' (off + 6) 2 := by
      rw [window_add, window_add, window_add, window_add]
    _ = threeNumbers ':' row.load col := by
      rw [hhour, hcolon 2 (.inl rfl), hfirst, hminute, hcolon 5 (.inr rfl), hsecond, hsecond']
      rfl

/-- The times of a line are those of a row. -/
structure OwnTimes (row : Row) (record : List UInt8) : Prop where
  first : (record.drop 16).take 8 = threeNumbers ':' row.load tagIdLength
  last : (record.drop 42).take 8 = threeNumbers ':' row.load (tagIdLength + 3)

/-- The colons in the times are there. -/
def Colons (m : Mem) : Prop := ∀ k ∈ [18, 21, 44, 47], window m k 1 = chars [':']

/-- Before the identifier only the times of a row are written. -/
theorem standardPieces_apart {row : Row} {id : List UInt8} {off n : ℕ} (h : off + n ≤ 86)
    (htimes : ∀ p ∈ timePieces row, p.Apart off n) :
  ∀ p ∈ standardPieces row id, p.Apart off n
  := by
  intro p hp
  obtain hmem | hmem := List.mem_append.mp hp
  · obtain rfl | hmem := List.mem_cons.mp hmem
    · exact .inr h
    · split at hmem
      · exact htimes p hmem
      · cases hmem
  · simp only [paddingPieces, List.mem_cons, List.not_mem_nil, or_false] at hmem
    obtain rfl | rfl := hmem
    · exact .inr (by show off + n ≤ id.length * 2 + 86; omega)
    · exact .inr (by show off + n ≤ 164; omega)

/-- The times are written when there is an identifier. -/
theorem window_times {m : Mem} (row : Row) {id : List UInt8} (hcolons : Colons m) (hid : id ≠ []) :
  window (fill m (standardPieces row id)) 16 8 = threeNumbers ':' row.load tagIdLength
    ∧ window (fill m (standardPieces row id)) 42 8 = threeNumbers ':' row.load (tagIdLength + 3)
  := by
  let first := clockPieces 16 row tagIdLength
  let last := clockPieces 42 row (tagIdLength + 3)
  let padding := paddingPieces (id.length * 2 + 86)
  let m' := fill m [⟨86, hexBytes id⟩]
  have hfill : fill m (standardPieces row id) = fill (fill (fill m' first) last) padding := by
    rw [standardPieces, if_pos hid, timePieces, fill_append, fill_cons, fill_append]
    rfl
  have hm' : ∀ k ∈ [18, 21, 44, 47], window m' k 1 = chars [':'] := by
    intro k hk
    rw [window_fill_apart, hcolons k hk]
    revert k
    simp [Piece.Apart]
  have hpadding : ∀ off ≤ 78, ∀ p ∈ padding, p.Apart off 8 := by
    intro off hoff
    simp [padding, paddingPieces, Piece.Apart]
    omega
  rw [hfill]
  constructor
  · rw [window_fill_apart (hpadding 16 (by decide)), window_fill_apart]
    · exact window_clockPieces row tagIdLength (hm' 18 (by decide)) (hm' 21 (by decide))
    · simp [last, clockPieces, Piece.Apart]
  · rw [window_fill_apart (hpadding 42 (by decide))]
    apply window_clockPieces row (tagIdLength + 3)
    · rw [window_fill_apart]
      · exact hm' 44 (by decide)
      · simp [first, clockPieces, Piece.Apart, Piece.stop]
    · rw [window_fill_apart]
      · exact hm' 47 (by decide)
      · simp [first, clockPieces, Piece.Apart, Piece.stop]

/-- The line for a row in the standard format. -/
theorem standardRow_spec (chk : ℕ) (s : Mem × ℕ) (row : Row) (hcolons : Colons s.1) :
  Colons (standardRow chk s row).2.1
    ∧ Option.Rel
      (fun id record => TagText 86 id record
        ∧ (record.drop 69).take 2 = twoDigits (row.load (tagIdLength + 6))
        ∧ (id ≠ [] → OwnTimes row record))
      (rowRecord chk row) (standardRow chk s row).1
  := by
  unfold standardRow
  generalize rssichk s.2 (row.load (tagIdLength + 7)).toNat = rssi
  obtain ⟨rssi, bakrssi⟩ := rssi
  dsimp only
  generalize hm : fill s.1 (antennaPieces rssi row) = m
  have hantenna : window m 69 2 = twoDigits (row.load (tagIdLength + 6)) := by
    rw [← hm]
    apply window_fill s.1 [_] rfl
    simp
  have hm_colons : Colons m := by
    intro k hk
    rw [← hm, window_fill_apart, hcolons k hk]
    revert k
    simp [antennaPieces, Piece.Apart, Piece.stop]
  cases hid : rowRecord chk row with
  | none => exact ⟨hm_colons, .none⟩
  | some id =>
    have hle := length_le_of_rowRecord hid
    refine ⟨?_, .some ⟨?_, ?_, fun hne => ⟨?_, ?_⟩⟩⟩
    · intro k hk
      rw [window_fill_apart, hm_colons k hk]
      have hle : k ≤ 47 := by
        revert k
        decide
      apply standardPieces_apart (by omega)
      revert k
      simp [timePieces, clockPieces, Piece.Apart, Piece.stop]
    · apply tagText_fill m _ (by omega)
      split
      · simp [timePieces, clockPieces, Piece.Apart, Piece.stop]
      · simp
    · rw [take_drop_take _ (by decide), window_fill_apart, hantenna]
      apply standardPieces_apart (by decide)
      simp [timePieces, clockPieces, Piece.Apart, Piece.stop]
    · rw [take_drop_take _ (by decide)]
      exact (window_times row hm_colons hne).1
    · rw [take_drop_take _ (by decide)]
      exact (window_times row hm_colons hne).2

/-- The colons are written before the loop. -/
theorem colons_header (buf : Mem) (d : SDevice) :
  Colons (fill buf (standardHeader d))
  := by
  generalize hm : fill buf (standardHeader d) = m
  have hfirst : window m 16 8 = threeNumbers ':' d.load (Offset.readerTime + 3) := by
    rw [← hm]
    apply window_fill buf [_, _, _] rfl
    simp [Piece.Apart, Piece.stop, threeNumbers, chars]
  have hlast : window m 42 8 = threeNumbers ':' d.load (Offset.readerTime + 3) := by
    rw [← hm]
    apply window_fill buf [_, _, _, _, _, _, _] rfl
    simp [Piece.Apart, Piece.stop, threeNumbers, chars]
  intro k hk
  simp only [List.mem_cons, List.not_mem_nil, or_false] at hk
  obtain rfl | rfl | rfl | rfl := hk
  · rw [← take_drop_window m 16 1 (show 2 + 1 ≤ 8 by decide), hfirst]
    rfl
  · rw [← take_drop_window m 16 1 (show 5 + 1 ≤ 8 by decide), hfirst]
    rfl
  · rw [← take_drop_window m 42 1 (show 2 + 1 ≤ 8 by decide), hlast]
    rfl
  · rw [← take_drop_window m 42 1 (show 5 + 1 ≤ 8 by decide), hlast]
    rfl

/-- The text of a tag is not that of an empty identifier. -/
theorem TagText.ne_empty {tagCol : ℕ} {id record : List UInt8} (h : TagText tagCol [] record)
    (h' : TagText tagCol id record) (hid : id ≠ []) :
  False
  := by
  obtain ⟨b, l, rfl⟩ := List.exists_cons_of_ne_nil hid
  have htag := h'.tag.symm.trans h.tag
  -- the first character is a digit, and a space
  have hmem : hextochar (b >>> 4) ∈ hexBytes (b :: l) := List.mem_cons_self
  have hspace := List.mem_append_left
    (List.replicate (164 - tagCol - 2 * (b :: l).length) 0x20) hmem
  rw [htag] at hspace
  have heq := List.eq_of_mem_replicate hspace
  have hdigit := hexDigit_of_mem hmem
  rw [heq] at hdigit
  exact absurd hdigit (by decide)

/-- A number has its own two characters. -/
theorem twoDigits_inj {a b : UInt8} (h : twoDigits a = twoDigits b) :
  a = b
  := by
  unfold twoDigits at h
  simp only [List.cons.injEq, add_left_inj, and_true] at h
  have htens := congrArg UInt8.toNat h.1
  have hones := congrArg UInt8.toNat h.2
  rw [UInt8.toNat_div, UInt8.toNat_div] at htens
  rw [UInt8.toNat_mod, UInt8.toNat_mod] at hones
  apply UInt8.toNat_inj.mp
  rw [← Nat.div_add_mod a.toNat 10, ← Nat.div_add_mod b.toNat 10]
  exact congrArg₂ (fun x y => 10 * x + y) htens hones

/-! ### All writes are inside `buf` -/

/-- The pieces are written inside `buf`, of 170 bytes. -/
def Inside (ps : List (Piece UInt8)) : Prop := ∀ p ∈ ps, p.stop ≤ 170

theorem headers_inside (g : Globals) (stray : UInt8) :
  Inside (simpleHeader g stray) ∧ Inside (standardHeader g.gDevice)
  := by
  constructor
  · simp [Inside, simpleHeader, Piece.stop, chars, hexByte]
  · simp [Inside, standardHeader, Piece.stop, chars, hexByte, threeNumbers]

theorem rows_inside {chk : ℕ} {row : Row} {id : List UInt8} (h : rowRecord chk row = some id) :
  Inside (simplePieces id) ∧ Inside (standardPieces row id)
  := by
  have hle := length_le_of_rowRecord h
  constructor
  · simp [Inside, simplePieces, paddingPieces, Piece.stop, length_hexBytes]
    omega
  · by_cases hnil : id = []
    · simp [Inside, standardPieces, paddingPieces, Piece.stop, length_hexBytes, hnil]
    · simp [Inside, standardPieces, timePieces, clockPieces, paddingPieces, Piece.stop,
        length_hexBytes, hnil]
      omega

/-! ### The lines that are sent -/

/-- Where the antenna is in a line. -/
def SDevice.antennaCol (d : SDevice) : ℕ := if d.load Offset.outputDataType = 0 then 7 else 69

/-- Where the identifier starts in a line. -/
def SDevice.tagCol (d : SDevice) : ℕ := if d.load Offset.outputDataType = 0 then 15 else 86

/-- A line describes the tag in a row: it has its identifier, its antenna, and in the standard
format its times. -/
structure OwnRecord (d : SDevice) (row : Row) (record : List UInt8) : Prop where
  tag : TagText d.tagCol row.id record
  antenna : row.load (tagIdLength + 6) ≤ 99 →
    (record.drop d.antennaCol).take 2 = twoDigits (row.load (tagIdLength + 6))
  times : d.load Offset.outputDataType = 1 → OwnTimes row record

namespace Globals

/-- The lines that are sent describe the tags that are kept. -/
def RecordsOwn (g : Globals) (stray : UInt8) (buf : Mem) : Prop :=
  List.Forall₂ (OwnRecord g.gDevice) (g.judgedRows.filter (·.Valid))
    (g.output (textOutput stray buf))

/-- In the simple format all tags have the antenna `stray`. -/
def AntennasFit (g : Globals) (stray : UInt8) : Prop :=
  g.gDevice.load Offset.outputDataType = 0 → ∀ row ∈ g.judgedRows, row.Valid →
    row.load (tagIdLength + 6) ≤ 99 → row.load (tagIdLength + 6) = stray

/-- A line for a row with an identifier. -/
structure LineSent (g : Globals) (stray : UInt8) (row : Row) (id record : List UInt8) : Prop where
  tag : TagText g.gDevice.tagCol id record
  antenna : (record.drop g.gDevice.antennaCol).take 2
    = twoDigits (if g.gDevice.load Offset.outputDataType = 0 then stray
      else row.load (tagIdLength + 6))
  times : g.gDevice.load Offset.outputDataType = 1 → id ≠ [] → OwnTimes row record

/-- When a condition decides for each pair whether it is right, it decides whether all are. -/
theorem forall₂_iff_of_forall₂ {α β : Type} {S P : α → β → Prop} {F : α → Prop} {l : List α}
    {r : List β} (hiff : ∀ a b, S a b → (P a b ↔ F a)) (h : List.Forall₂ S l r) :
  List.Forall₂ P l r ↔ ∀ a ∈ l, F a
  := by
  induction h with
  | nil => simp
  | cons hab _ ih => rw [List.forall₂_cons, hiff _ _ hab, ih, List.forall_mem_cons]

namespace SendsTags

variable {g : Globals}

/-- The lines that are sent on RS232 and RJ45. -/
theorem lines_sent (h : g.SendsTags)
    (hmodule : g.gDevice.load Offset.cardOutModule = 0 ∨ g.gDevice.load Offset.cardOutModule = 2)
    (htype : g.gDevice.load Offset.outputDataType = 0 ∨ g.gDevice.load Offset.outputDataType = 1)
    (stray : UInt8) (buf : Mem) :
  List.Forall₂ (fun p record => g.LineSent stray p.1 p.2 record) (rowIds g.decision.1 g.judgedRows)
    (g.output (textOutput stray buf))
  := by
  have hmodule' : g.decision.2.gDevice.load Offset.cardOutModule
      = g.gDevice.load Offset.cardOutModule := h.decision_load (by decide) (by decide)
  have htype' : g.decision.2.gDevice.load Offset.outputDataType
      = g.gDevice.load Offset.outputDataType := h.decision_load (by decide) (by decide)
  obtain ⟨houtput, hrows⟩ := h.output_eq (textOutput stray buf)
  have hlines : g.output (textOutput stray buf)
      = if g.gDevice.load Offset.outputDataType = 0 then
          sendEach (simpleRow g.decision.1)
            (fill buf (simpleHeader g.decision.2.startOutPutTimer stray)) g.judgedRows
        else sendEach (standardRow g.decision.1)
          (fill buf (standardHeader g.decision.2.gDevice), g.decision.2.bakrssi) g.judgedRows := by
    rw [houtput, ← hrows]
    generalize g.decision.2 = decided at hmodule' htype' ⊢
    rw [textOutput, startOutPutTimer_gDevice, startOutPutTimer_savedRows, hmodule', htype',
      if_pos hmodule]
    obtain hzero | hone := htype
    · rw [if_pos hzero, if_pos hzero]
    · have hne : ¬ g.gDevice.load Offset.outputDataType = 0 := by
        rw [hone]
        decide
      rw [if_neg hne, if_neg hne, if_pos hone]
      rfl
  rw [hlines]
  obtain hzero | hone := htype
  · have hheader : window (fill buf (simpleHeader g.decision.2.startOutPutTimer stray)) 7 2
        = twoDigits stray := by
      apply window_fill buf [_, _, _] rfl
      simp [Piece.Apart]
    rw [if_pos hzero]
    have hsent := sendEach_forall₂ (simpleRow_spec stray g.decision.1) hheader g.judgedRows
    refine hsent.imp ?_
    rintro ⟨row, id⟩ record ⟨htag, hantenna⟩
    constructor
    · rw [SDevice.tagCol, if_pos hzero]
      exact htag
    · rw [SDevice.antennaCol, if_pos hzero, if_pos hzero]
      exact hantenna
    · intro hone
      rw [hzero] at hone
      exact absurd hone (by decide)
  · have hne : ¬ g.gDevice.load Offset.outputDataType = 0 := by
      rw [hone]
      decide
    rw [if_neg hne]
    have hsent := sendEach_forall₂ (I := fun s : Mem × ℕ => Colons s.1)
      (standardRow_spec g.decision.1)
      (s := (fill buf (standardHeader g.decision.2.gDevice), g.decision.2.bakrssi))
      (colons_header buf _) g.judgedRows
    refine hsent.imp ?_
    rintro ⟨row, id⟩ record ⟨htag, hantenna, htimes⟩
    constructor
    · rw [SDevice.tagCol, if_neg hne]
      exact htag
    · rw [SDevice.antennaCol, if_neg hne, if_neg hne]
      exact hantenna
    · exact fun _ => htimes

/-- The identifiers of the tags are left out. -/
theorem not_recordsOwn (h : g.SendsTags)
    (hmodule : g.gDevice.load Offset.cardOutModule = 0 ∨ g.gDevice.load Offset.cardOutModule = 2)
    (htype : g.gDevice.load Offset.outputDataType = 0 ∨ g.gDevice.load Offset.outputDataType = 1)
    (hmistaken : g.MistakenForSign) (stray : UInt8) (buf : Mem) :
  ¬ g.RecordsOwn stray buf
  := by
  have hsent := h.lines_sent hmodule htype stray buf
  rw [h.chk_eq_iff.mpr hmistaken] at hsent
  apply not_forall₂_of_sign (R := g.LineSent stray) (h.judgedRows_ne_nil hmistaken) hsent
  intro row row' record hvalid hline hown
  exact hline.tag.ne_empty hown.tag (Row.id_ne_nil hvalid)

/-- The lines describe the tags, if their antennas are right. -/
theorem recordsOwn_iff_of_not (h : g.SendsTags)
    (hmodule : g.gDevice.load Offset.cardOutModule = 0 ∨ g.gDevice.load Offset.cardOutModule = 2)
    (htype : g.gDevice.load Offset.outputDataType = 0 ∨ g.gDevice.load Offset.outputDataType = 1)
    (hmistaken : ¬ g.MistakenForSign) (stray : UInt8) (buf : Mem) :
  g.RecordsOwn stray buf ↔ g.AntennasFit stray
  := by
  have hsent := h.lines_sent hmodule htype stray buf
  rw [rowIds_of_ne fun hchk => hmistaken (h.chk_eq_iff.mp hchk), List.forall₂_map_left_iff]
    at hsent
  have hline : ∀ row record, row.Valid ∧ g.LineSent stray row row.id record →
      (OwnRecord g.gDevice row record ↔ (g.gDevice.load Offset.outputDataType = 0 →
        row.load (tagIdLength + 6) ≤ 99 → row.load (tagIdLength + 6) = stray)) := by
    rintro row record ⟨hvalid, htag, hantenna, htimes⟩
    constructor
    · intro hown hzero hle
      rw [if_pos hzero] at hantenna
      exact twoDigits_inj ((hown.antenna hle).symm.trans hantenna)
    · intro hfit
      refine ⟨htag, fun hle => ?_, fun hone => htimes hone (Row.id_ne_nil hvalid)⟩
      by_cases hzero : g.gDevice.load Offset.outputDataType = 0
      · rw [hantenna, if_pos hzero, hfit hzero hle]
      · rw [hantenna, if_neg hzero]
  have hvalid : ∀ row ∈ g.judgedRows.filter (·.Valid), row.Valid :=
    fun row hrow => of_decide_eq_true (List.mem_filter.mp hrow).2
  unfold RecordsOwn AntennasFit
  rw [forall₂_iff_of_forall₂ hline ((List.forall₂_and_left _ _).mpr ⟨hvalid, hsent⟩)]
  constructor
  · intro hfit hzero row hrow hvalid
    exact hfit row (List.mem_filter.mpr ⟨hrow, decide_eq_true hvalid⟩) hzero
  · intro hfit row hrow hzero
    obtain ⟨hmem, hvalid⟩ := List.mem_filter.mp hrow
    exact hfit hzero row hmem (of_decide_eq_true hvalid)

end SendsTags

end Globals

/-- The lines on RS232 and RJ45 describe the tags if and only if the tags are not taken for a sign
of life and, in the simple format, all have the antenna that is read before there is a row.  All
that is written for them is inside `buf`. -/
theorem recordsOwn_iff (g : Globals) (stray : UInt8) (buf : Mem) (h : g.SendsTags)
    (hmodule : g.gDevice.load Offset.cardOutModule = 0 ∨ g.gDevice.load Offset.cardOutModule = 2)
    (htype : g.gDevice.load Offset.outputDataType = 0
      ∨ g.gDevice.load Offset.outputDataType = 1) :
  (g.RecordsOwn stray buf ↔ ¬ g.MistakenForSign ∧ g.AntennasFit stray)
    ∧ Inside (simpleHeader g.decision.2.startOutPutTimer stray)
    ∧ Inside (standardHeader g.decision.2.gDevice)
    ∧ ∀ rssi, ∀ row ∈ g.judgedRows, Inside (antennaPieces rssi row)
      ∧ ∀ id, rowRecord g.decision.1 row = some id →
        Inside (simplePieces id) ∧ Inside (standardPieces row id)
  := by
  obtain ⟨hsimple, hstandard⟩ := headers_inside g.decision.2.startOutPutTimer stray
  rw [Globals.startOutPutTimer_gDevice] at hstandard
  refine ⟨?_, hsimple, hstandard, fun rssi row _ => ⟨?_, fun id hid => rows_inside hid⟩⟩
  · by_cases hmistaken : g.MistakenForSign
    · have hnot := h.not_recordsOwn hmodule htype hmistaken stray buf
      simp only [hmistaken, hnot, not_true_eq_false, false_and]
    · simp only [hmistaken, not_false_eq_true, true_and]
      exact h.recordsOwn_iff_of_not hmodule htype hmistaken stray buf
  · simp [Inside, antennaPieces, Piece.stop]

/-- A tag with a number as its identifier, read with an antenna. -/
def antennaRow (antenna : UInt8) (k : ℕ) : Row :=
  (numberedRow k).put (tagIdLength + 6) antenna

theorem antennaRow_spec (antenna : UInt8) (k : ℕ) :
  (antennaRow antenna k).Valid ∧ (antennaRow antenna k).load (tagIdLength + 6) = antenna
  := by
  have hload : ∀ j, (antennaRow antenna k).load j
      = if j = tagIdLength + 6 then antenna else (numberedRow k).load j :=
    fun j => Block.load_put (by decide)
  constructor
  · unfold Row.Valid
    rw [hload]
    exact numberedRow_valid k
  · rw [hload]
    exact if_pos rfl

/-- What the text outputs have of a few tags. -/
theorem textReader_spec {rows : ℕ → Row} (hrows : ∀ k, (rows k).Valid) :
  (sendingReader (timedOutput 0) rows 2).SendsTags
    ∧ ¬ (sendingReader (timedOutput 0) rows 2).MistakenForSign
    ∧ (sendingReader (timedOutput 0) rows 2).judgedRows = [rows 0, rows 1]
  := by
  obtain ⟨hsends, hjudged, hvalid⟩ := sendingReader_spec (d := timedOutput 0) (n := 2) rfl rfl
    (by decide) fun k _ => hrows k
  refine ⟨hsends, ?_, hjudged⟩
  rintro ⟨-, hcount⟩
  rw [hvalid] at hcount
  cases hcount

/-- Two tags of one antenna are described when the antenna is what is read before. -/
theorem recordsOwn_two :
  (sendingReader (timedOutput 0) (antennaRow 1) 2).RecordsOwn 1 (fun _ => 0)
  := by
  obtain ⟨hsends, hmistaken, hjudged⟩ := textReader_spec fun k => (antennaRow_spec 1 k).1
  refine (recordsOwn_iff _ 1 (fun _ => 0) hsends (.inl rfl) (.inl rfl)).1.mpr ⟨hmistaken, ?_⟩
  intro _ row hrow _ _
  rw [hjudged] at hrow
  simp only [List.mem_cons, List.not_mem_nil, or_false] at hrow
  obtain rfl | rfl := hrow
  · exact (antennaRow_spec 1 0).2
  · exact (antennaRow_spec 1 1).2

/-- Two tags of different antennas are not both described, whatever is read before. -/
theorem recordsOwn_antennas :
  (sendingReader (timedOutput 0) (fun k => antennaRow (.ofNat (k + 1)) k) 2).SendsTags
    ∧ ∀ stray buf, ¬ (sendingReader (timedOutput 0)
      (fun k => antennaRow (.ofNat (k + 1)) k) 2).RecordsOwn stray buf
  := by
  obtain ⟨hsends, hmistaken, hjudged⟩ :=
    textReader_spec fun k => (antennaRow_spec (.ofNat (k + 1)) k).1
  refine ⟨hsends, fun stray buf hown => ?_⟩
  have hfit := (hsends.recordsOwn_iff_of_not (.inl rfl) (.inl rfl) hmistaken stray buf).mp hown rfl
  rw [hjudged] at hfit
  have hantenna : ∀ k < 2, UInt8.ofNat (k + 1) ≤ 99 → UInt8.ofNat (k + 1) = stray := by
    intro k hk hle
    obtain ⟨hvalid, hload⟩ := antennaRow_spec (.ofNat (k + 1)) k
    have hmem : antennaRow (.ofNat (k + 1)) k ∈ [antennaRow (.ofNat (0 + 1)) 0,
        antennaRow (.ofNat (1 + 1)) 1] := by
      obtain rfl | rfl : k = 0 ∨ k = 1 := by omega
      · exact List.mem_cons_self
      · exact List.mem_cons_of_mem _ List.mem_cons_self
    have hstray := hfit _ hmem hvalid
    rw [hload] at hstray
    exact hstray hle
  have hsame := (hantenna 0 (by decide) (by decide)).trans
    (hantenna 1 (by decide) (by decide)).symm
  exact absurd hsame (by decide)

end UhfReader
