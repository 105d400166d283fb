import UhfReader.Records
import UhfReader.Wiegand

/-!
# Card numbers

On the Wiegand outputs `sendDataOut` sends four bytes of `TagSaveBuf` for each row, as the number of
a card.  They start at `CardStartPos` in the identifier, or four bytes behind it.  The start is
neither checked when it is set nor held against the length of the identifier, so the bytes may be
any of those behind it: bytes that an earlier tag left in the row, its times, or other rows.
-/

open Memory Lines

namespace UhfReader

/-- Where a byte comes from that is sent: it is `0` for a sign of life, or a byte of `TagSaveBuf`,
whose rows have 39 bytes. -/
inductive Source where
  | zero
  | saved (addr : ℕ)
  deriving DecidableEq, Repr

/-- The byte from a source.  Behind the table it is some byte of the memory `beyond`. -/
def Source.byte (g : Globals) (beyond : Mem) : Source → UInt8
  | .zero => 0
  | .saved addr =>
    if addr < 39 * maxNum then (g.tagSaveBuf (addr / 39)).load (addr % 39) else beyond addr

/-- The column of `TagSaveBuf[i]` that the bytes start at. -/
def SDevice.cardStart (d : SDevice) : ℕ :=
  if d.load Offset.cardSaveInTagPosition = 0 then (d.load Offset.cardStartPos).toNat + 1
  else (d.load Offset.cardStartPos).toNat + 5

/-- The bytes that are sent for `TagSaveBuf[i]`, if there are any. -/
def cardSources (d : SDevice) (chk i : ℕ) (row : Row) : Option (List Source) :=
  (rowRecord chk row).map fun _ =>
    (List.range 4).map fun j => if chk = 222 then .zero else .saved (39 * i + (d.cardStart + j))

/-- The port for an antenna. -/
def cardPort (antId : UInt8) : Pair ℕ := if antId &&& 0x01 = 0 then secondPort else firstPort

/-- The output of the card number in `buf`. -/
def sendCard (d : SDevice) (antId : UInt8) (buf : Mem) : List (Act ℕ) :=
  if d.load Offset.cardOutModule = 3 then
    if antId &&& 0x01 = 0 then packetDataWG261 d buf else packetDataWG26 d buf
  else if antId &&& 0x01 = 0 then packetDataWG341 d buf else packetDataWG34 d buf

/-- The rows of `TagSaveBuf` that a card number is sent for, with the sources of its bytes. -/
def cardOutput (chk : ℕ) (g : Globals) : List (ℕ × List Source) :=
  if g.gDevice.wiegand then
    (List.range g.tagSaveCount).filterMap fun i =>
      (cardSources g.gDevice chk i (g.tagSaveBuf i)).map fun sources => (i, sources)
  else []

/-- The output of `sendDataOut` on the Wiegand ports, with a delay of 900 ms behind each card
number. -/
def wiegandOutput (beyond : Mem) (chk : ℕ) (g : Globals) : List (Act ℕ) :=
  (cardOutput chk g).flatMap fun card =>
    sendCard g.gDevice ((g.tagSaveBuf card.1).load (tagIdLength + 6))
      (Mem.ofList (card.2.map fun source => source.byte g beyond) fun _ => 0) ++ [.wait 450000]

/-- The bytes of `buf` that a card number has. -/
def cardBytes (d : SDevice) (buf : Mem) : List UInt8 :=
  if d.load Offset.cardOutModule = 3 then [buf 0, buf 1, buf 2] else [buf 0, buf 1, buf 2, buf 3]

/-- A card number is received on its port as the code of its bytes. -/
theorem sendCard_spec (d : SDevice) (antId : UInt8) (buf : Mem) (lv : ℕ → Bool) :
  WiegandCode (msbFirst (cardBytes d buf)) ((cardPort antId).received (sendCard d antId buf) lv)
  := by
  unfold cardBytes cardPort sendCard
  split
  · split
    · exact (packetData26_spec secondPort d buf lv).1
    · exact (packetData26_spec firstPort d buf lv).1
  · split
    · exact (packetData34_spec secondPort d buf lv).1
    · exact (packetData34_spec firstPort d buf lv).1

/-- A byte of the identifier in `TagSaveBuf[i]`. -/
def Source.IdByte (i : ℕ) (row : Row) (source : Source) : Prop :=
  ∃ col, source = .saved (39 * i + col) ∧ 1 ≤ col ∧ col ≤ 2 * (row.load 0).toNat

theorem SDevice.cardStart_pos (d : SDevice) :
  1 ≤ d.cardStart
  := by
  unfold SDevice.cardStart
  split
  · exact Nat.le_add_left ..
  · exact Nat.le_add_left_of_le (by decide)

/-- The bytes for a valid row. -/
theorem cardSources_of_valid (d : SDevice) (chk i : ℕ) {row : Row} (h : row.Valid) :
  cardSources d chk i row = some ((List.range 4).map fun j =>
    if chk = 222 then .zero else .saved (39 * i + (d.cardStart + j)))
  := by
  unfold cardSources rowRecord
  by_cases hchk : chk = 222
  · rw [if_pos hchk]
    rfl
  · rw [if_neg hchk, if_pos h]
    rfl

/-- They are bytes of its identifier if and only if the row is not taken for a sign of life and the
identifier is long enough. -/
theorem idBytes_iff (d : SDevice) (chk i : ℕ) (row : Row) :
  (∀ j ∈ List.range 4, Source.IdByte i row
      (if chk = 222 then .zero else .saved (39 * i + (d.cardStart + j))))
    ↔ chk ≠ 222 ∧ d.cardStart + 3 ≤ 2 * (row.load 0).toNat
  := by
  constructor
  · intro hid
    obtain ⟨col, hcol, -, hle⟩ := hid 3 (by decide)
    split at hcol
    · cases hcol
    · rename_i hchk
      have haddr := Source.saved.inj hcol
      exact ⟨hchk, by omega⟩
  · rintro ⟨hchk, hle⟩ j hj
    have hlt := List.mem_range.mp hj
    have hpos := d.cardStart_pos
    rw [if_neg hchk]
    exact ⟨d.cardStart + j, rfl, by omega, by omega⟩

namespace Globals

/-- For each tag that is kept, the four bytes that are sent are bytes of its identifier. -/
def SendsIdBytes (g : Globals) : Prop :=
  ∀ i sources, (i, sources) ∈ g.output cardOutput → (g.decision.2.tagSaveBuf i).Valid →
    sources.length = 4 ∧ ∀ source ∈ sources, source.IdByte i (g.decision.2.tagSaveBuf i)

/-- The tags that are kept, unless there are none, are not taken for a sign of life, and four bytes
from `CardStartPos` on, or from four bytes behind it, are in their identifiers. -/
def CardsFit (g : Globals) : Prop :=
  ∀ row ∈ g.judgedRows, row.Valid →
    ¬ g.MistakenForSign ∧ g.gDevice.cardStart + 3 ≤ 2 * (row.load 0).toNat

namespace SendsTags

variable {g : Globals}

/-- The card numbers are sent for the rows that are kept. -/
theorem mem_cards_iff (h : g.SendsTags) (hmodule : g.gDevice.wiegand = true) (i : ℕ)
    (sources : List Source) :
  (i, sources) ∈ g.output cardOutput ↔ i < g.decision.2.tagSaveCount
    ∧ cardSources g.decision.2.gDevice g.decision.1 i (g.decision.2.tagSaveBuf i) = some sources
  := by
  have hwiegand : g.decision.2.gDevice.wiegand = true := by
    rw [← hmodule, SDevice.wiegand, h.decision_load (by decide) (by decide), SDevice.wiegand]
  rw [(h.output_eq cardOutput).1]
  generalize g.decision = decided at hwiegand ⊢
  rw [cardOutput, startOutPutTimer_gDevice, if_pos hwiegand, List.mem_filterMap]
  constructor
  · rintro ⟨k, hk, hsome⟩
    obtain ⟨sources', hsources, heq⟩ := Option.map_eq_some_iff.mp hsome
    cases heq
    exact ⟨List.mem_range.mp hk, hsources⟩
  · rintro ⟨hlt, hsources⟩
    refine ⟨i, List.mem_range.mpr hlt, ?_⟩
    exact Option.map_eq_some_iff.mpr ⟨sources, hsources, rfl⟩

theorem sendsIdBytes_iff_fit (h : g.SendsTags) (hmodule : g.gDevice.wiegand = true) :
  g.SendsIdBytes ↔ g.CardsFit
  := by
  have hstart : g.decision.2.gDevice.cardStart = g.gDevice.cardStart := by
    have hposition : g.decision.2.gDevice.load Offset.cardSaveInTagPosition
        = g.gDevice.load Offset.cardSaveInTagPosition := h.decision_load (by decide) (by decide)
    unfold SDevice.cardStart
    rw [hposition, h.decision_load (by decide) (by decide)]
  have hrows : g.judgedRows
      = (List.range g.decision.2.tagSaveCount).map g.decision.2.tagSaveBuf := by
    rw [h.decision_eq]
    rfl
  have hfit : ∀ i, (g.decision.2.tagSaveBuf i).Valid →
      ((∀ sources, cardSources g.decision.2.gDevice g.decision.1 i (g.decision.2.tagSaveBuf i)
          = some sources → sources.length = 4
        ∧ ∀ source ∈ sources, source.IdByte i (g.decision.2.tagSaveBuf i))
      ↔ ¬ g.MistakenForSign
        ∧ g.gDevice.cardStart + 3 ≤ 2 * ((g.decision.2.tagSaveBuf i).load 0).toNat) := by
    intro i hvalid
    rw [cardSources_of_valid _ _ _ hvalid, ← h.chk_eq_iff, ← hstart, ← ne_eq,
      ← idBytes_iff g.decision.2.gDevice g.decision.1 i]
    simp
  unfold SendsIdBytes CardsFit
  rw [hrows, List.forall_mem_map]
  constructor
  · intro hid i hi hvalid
    refine (hfit i hvalid).mp fun sources hsources => hid i sources ?_ hvalid
    exact (h.mem_cards_iff hmodule i sources).mpr ⟨List.mem_range.mp hi, hsources⟩
  · intro hcards i sources hmem hvalid
    obtain ⟨hlt, hsources⟩ := (h.mem_cards_iff hmodule i sources).mp hmem
    exact (hfit i hvalid).mpr (hcards i (List.mem_range.mpr hlt) hvalid) sources hsources

end SendsTags

end Globals

/-- A card number is sent on a Wiegand output for each tag that is kept.  Its four bytes are bytes
of the identifier if and only if the tags are not taken for a sign of life, and the four bytes at
the start that is set are inside their identifiers. -/
theorem sendsIdBytes_iff (g : Globals) (h : g.SendsTags) (hmodule : g.gDevice.wiegand = true) :
  (g.SendsIdBytes ↔ g.CardsFit)
    ∧ ∀ i < g.decision.2.tagSaveCount, (g.decision.2.tagSaveBuf i).Valid →
      ∃ sources, (i, sources) ∈ g.output cardOutput
  := by
  refine ⟨h.sendsIdBytes_iff_fit hmodule, fun i hi hvalid => ?_⟩
  exact ⟨_, (h.mem_cards_iff hmodule i _).mpr ⟨hi, cardSources_of_valid _ _ _ hvalid⟩⟩

/-- A tag with an identifier of six words. -/
def sixWords (k : ℕ) : Row := (numberedRow k).put 0 6

theorem sixWords_load (k : ℕ) :
  (sixWords k).load 0 = 6
  := (Block.load_put (by decide)).trans (if_pos rfl)

theorem sixWords_valid (k : ℕ) :
  (sixWords k).Valid
  := by
  unfold Row.Valid
  rw [sixWords_load]
  decide

/-- What a Wiegand output has of such a tag. -/
theorem cardReader_spec {d : SDevice} (htype : d.load Offset.callPCType = 1)
    (henable : d.load Offset.callPCEnable = 0) :
  (sendingReader d sixWords 1).SendsTags ∧ ¬ (sendingReader d sixWords 1).MistakenForSign
    ∧ (sendingReader d sixWords 1).judgedRows = [sixWords 0]
  := by
  obtain ⟨hsends, hjudged, hrows⟩ := sendingReader_spec htype henable (show 1 > 0 by decide)
    fun k _ => sixWords_valid k
  refine ⟨hsends, ?_, hjudged⟩
  rintro ⟨-, hcount⟩
  rw [hrows] at hcount
  cases hcount

/-- The first four bytes of an identifier are sent. -/
theorem sendsIdBytes_first :
  (sendingReader (timedOutput 3) sixWords 1).SendsIdBytes
  := by
  obtain ⟨hsends, hmistaken, hjudged⟩ := cardReader_spec (d := timedOutput 3) rfl rfl
  refine (sendsIdBytes_iff _ hsends (by decide)).1.mpr ?_
  intro row hrow _
  rw [hjudged] at hrow
  obtain rfl := List.mem_singleton.mp hrow
  refine ⟨hmistaken, ?_⟩
  rw [sixWords_load]
  decide

/-- Bytes behind the identifier are sent when the start is set to `9`, which command `0x13` does as
it is told to. -/
theorem sendsIdBytes_behind :
  (∀ value, rangeControl 0x13 value = cmdoorCheckOk)
    ∧ (sendingReader ((timedOutput 3).put Offset.cardStartPos 9) sixWords 1).SendsTags
    ∧ ¬ (sendingReader ((timedOutput 3).put Offset.cardStartPos 9) sixWords 1).SendsIdBytes
  := by
  obtain ⟨hsends, -, hjudged⟩ :=
    cardReader_spec (d := (timedOutput 3).put Offset.cardStartPos 9) rfl rfl
  refine ⟨fun _ => rfl, hsends, fun hid => ?_⟩
  have hfit := (hsends.sendsIdBytes_iff_fit (by decide)).mp hid
  have hmem : sixWords 0 ∈ (sendingReader ((timedOutput 3).put Offset.cardStartPos 9)
      sixWords 1).judgedRows := by
    rw [hjudged]
    exact List.mem_cons_self
  have hle := (hfit (sixWords 0) hmem (sixWords_valid 0)).2
  rw [sixWords_load] at hle
  exact absurd hle (by decide)

end UhfReader
