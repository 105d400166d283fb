import UhfReader.TagTable
import UhfReader.Labels

/-!
# Rows from frames

`decodeR2000` takes the identifier of a tag, and for some commands its signal strength, out of the
frame in the buffer.  The offsets are constants, or are computed from the length of the frame or
from a length inside of it, and they are not compared with the end of the frame: for a frame that
is too short for what it announces, they lie before or behind its parameters.
-/

open Memory

namespace UhfReader

/-! ### Rows -/

/-- The row holds an identifier of `n` words and a signal strength. -/
structure Row.Holds (row : Row) (n : UInt8) (id : Mem) (rssi : UInt8) : Prop where
  length : row.load 0 = n
  id : ∀ i < 2 * n.toNat, row.load (1 + i) = id i
  rssi : row.load (tagIdLength + 7) = rssi

namespace Row.Holds

variable {row : Row} {n rssi : UInt8} {id : Mem}

/-- The length and the identifier are stored. -/
theorem start (row : Row) {n : UInt8} (hn : n ≤ 15) (id : Mem) :
  Row.Holds (Block.copy (Block.put row 0 n) 1 id (2 * n.toNat)) n id (row.load (tagIdLength + 7))
  := by
  have hle : n.toNat ≤ 15 := UInt8.le_iff_toNat_le.mp hn
  constructor
  · rw [Block.load_copy_outside (.inl Nat.one_pos), Block.load_put (by decide), if_pos rfl]
  · intro i hi
    exact Block.load_copy_inside hi (by omega)
  · rw [Block.load_copy_outside (.inr _), Block.load_put (by decide), if_neg (by decide)]
    simp only [tagIdLength]
    omega

/-- The antenna is stored behind the times. -/
theorem antenna (h : row.Holds n id rssi) (hn : n ≤ 15) (antenna : UInt8) :
  Row.Holds (Block.put row (tagIdLength + 6) antenna) n id rssi
  := by
  have hle : n.toNat ≤ 15 := UInt8.le_iff_toNat_le.mp hn
  constructor
  · rw [Block.load_put (by decide), if_neg (by decide)]
    exact h.length
  · intro i hi
    rw [Block.load_put (by decide), if_neg (by simp only [tagIdLength]; omega)]
    exact h.id i hi
  · rw [Block.load_put (by decide), if_neg (by decide)]
    exact h.rssi

/-- The signal strength is stored behind the antenna. -/
theorem strength (h : row.Holds n id rssi) (hn : n ≤ 15) (rssi' : UInt8) :
  Row.Holds (Block.put row (tagIdLength + 7) rssi') n id rssi'
  := by
  have hle : n.toNat ≤ 15 := UInt8.le_iff_toNat_le.mp hn
  constructor
  · rw [Block.load_put (by decide), if_neg (by decide)]
    exact h.length
  · intro i hi
    rw [Block.load_put (by decide), if_neg (by simp only [tagIdLength]; omega)]
    exact h.id i hi
  · rw [Block.load_put (by decide), if_pos rfl]

/-- The times are stored behind the identifier. -/
theorem stampTime (h : row.Holds n id rssi) (hn : n ≤ 15) (d : SDevice) :
  (row.stampTime d).Holds n id rssi
  := by
  have hle : n.toNat ≤ 15 := UInt8.le_iff_toNat_le.mp hn
  constructor
  · rw [Row.load_stampTime_of_ne _ _ (.inl (by decide))]
    exact h.length
  · intro i hi
    rw [Row.load_stampTime_of_ne _ _ (.inl (by simp only [tagIdLength]; omega))]
    exact h.id i hi
  · rw [Row.load_stampTime_of_ne _ _ (.inr (by decide))]
    exact h.rssi

end Row.Holds

/-! ### What is taken out of the frame -/

namespace Globals

/-- `cmdRstr->para[k]` for an index that may be negative. -/
def paraAt (g : Globals) (k : ℤ) : UInt8 := g.r2000.loadInt (k + 4)

/-- The number of words of the identifier. -/
def idWords (g : Globals) : UInt8 :=
  if g.r2000.frameCmd = 0x81 then 6
  else if g.r2000.frameCmd = 0x8A then UInt8.ofNat ((g.r2000.frameLen.toNat + 512 - 7) / 2)
  else if g.r2000.frameCmd = 0x91 then (g.r2000.para 2 >>> 1) - 2
  else 4

/-- The index of the identifier among the parameters. -/
def idOffset (g : Globals) : ℤ :=
  if g.r2000.frameCmd = 0x81 then g.r2000.frameLen.toNat - 18
  else if g.r2000.frameCmd = 0x8A then 3
  else if g.r2000.frameCmd = 0x91 then 5
  else 1

/-- The index of the signal strength, for the commands that report one. -/
def rssiOffset (g : Globals) : Option ℤ :=
  if g.r2000.frameCmd = 0x8A then some (2 * g.idWords.toNat + 3)
  else if g.r2000.frameCmd = 0x91 then some ((g.r2000.para 2).toNat + 3)
  else none

/-- The signal strength that is stored: for `0xB0` it is zero, and for `0x81` that of the row is
left as it is. -/
def rowRssi (g : Globals) : UInt8 :=
  match g.rssiOffset with
  | some k => g.paraAt k
  | none =>
    if g.r2000.frameCmd = 0xB0 then 0 else (g.cardIndex g.cardPos).load (tagIdLength + 7)

/-- The index is one of the parameters of the frame. -/
def InPara (g : Globals) (k : ℤ) : Prop := 0 ≤ k ∧ k < g.r2000.frameLen.toNat - 3

instance (g : Globals) (k : ℤ) : Decidable (g.InPara k) := inferInstanceAs (Decidable (_ ∧ _))

/-- The frame is long enough for what it announces. -/
def FrameFits (g : Globals) : Prop :=
  (g.r2000.frameCmd = 0x81 → 18 ≤ g.r2000.frameLen.toNat)
    ∧ (g.r2000.frameCmd = 0x91 → (g.r2000.para 2).toNat + 7 ≤ g.r2000.frameLen.toNat)
    ∧ (g.r2000.frameCmd = 0xB0 → 12 ≤ g.r2000.frameLen.toNat)

instance (g : Globals) : Decidable g.FrameFits := inferInstanceAs (Decidable (_ ∧ _))

/-- The row that `decodeR2000` stores for the frame in the buffer. -/
def newRow (g : Globals) : Row := (decodeR2000 g).cardIndex g.cardPos

theorem paraAt_natCast (g : Globals) (k : ℕ) :
  g.paraAt k = g.r2000.para k
  := by
  unfold paraAt SR2000TransData.loadInt SR2000TransData.para
  rw [if_pos (by omega), Mem.shift_apply]
  congr 1
  omega

/-- The row that is stored when a tag is found. -/
theorem cardIndex_found (g : Globals) (b : UInt8) (row : Row → Row) {full : Globals → Globals}
    (hrows : ∀ g, (full g).cardIndex = g.cardIndex) :
  (({ g with beepFlag := b }.storeRow row).advanceCardPos full).cardIndex g.cardPos
    = row (g.cardIndex g.cardPos)
  := by
  unfold advanceCardPos storeRow
  dsimp only
  split
  · rw [hrows]
    exact if_pos rfl
  · exact if_pos rfl

theorem cardIndex_linkRelay (g : Globals) :
  g.linkRelay.cardIndex = g.cardIndex
  := by
  obtain ⟨flag, heq⟩ := g.linkRelay_eq
  rw [heq]

/-- Half of a length byte without the two words of the PC and the CRC. -/
theorem words_of_le {x : UInt8} (h : (x >>> 1) - 2 ≤ 15) :
  4 ≤ x.toNat ∧ ((x >>> 1) - 2).toNat = x.toNat / 2 - 2
  := by
  have hle := UInt8.le_iff_toNat_le.mp h
  have hlt := x.toNat_lt
  rw [UInt8.toNat_sub, UInt8.toNat_shiftRight] at hle ⊢
  simp only [UInt8.reduceToNat, Nat.reduceMod, Nat.shiftRight_eq_div_pow, Nat.pow_one] at hle ⊢
  omega

/-- The row holds what is taken out of the frame. -/
structure RowTaken (g : Globals) : Prop where
  words : g.idWords ≤ 15
  holds : g.newRow.Holds g.idWords (fun i => g.paraAt (g.idOffset + i)) g.rowRssi

theorem rowTaken_of_holds {g : Globals} (words rssi : UInt8) (id : Mem) (hwords : g.idWords = words)
    (hle : words ≤ 15) (hid : ∀ i : ℕ, id i = g.paraAt (g.idOffset + i)) (hrssi : rssi = g.rowRssi)
    (h : ∃ row : Row, g.newRow = row ∧ row.Holds words id rssi) :
  g.RowTaken
  := by
  obtain ⟨row, hrow, h⟩ := h
  subst hwords hrssi
  refine ⟨hle, ?_⟩
  rw [hrow]
  refine ⟨h.length, ?_, h.rssi⟩
  intro i hi
  rw [h.id i hi, hid i]

theorem rowTaken_read {g : Globals} (hcmd : g.r2000.frameCmd = 0x81) (h : g.HoldsRead) :
  g.RowTaken
  := by
  apply rowTaken_of_holds 6 ((g.cardIndex g.cardPos).load (tagIdLength + 7))
    (fun i => g.r2000.loadInt (g.r2000.frameLen.toNat - 2 - 12 + i))
  · unfold idWords
    rw [if_pos hcmd]
  · decide
  · intro i
    unfold paraAt idOffset
    rw [if_pos hcmd]
    congr 1
    omega
  · unfold rowRssi rssiOffset
    rw [hcmd, if_neg (by decide), if_neg (by decide)]
    rfl
  · refine ⟨_, ?_, ((Row.Holds.start (g.cardIndex g.cardPos) (by decide) _).antenna (by decide)
      ((g.r2000.loadInt (g.r2000.frameLen.toNat - 1) &&& 3) + 1)).stampTime (by decide) g.gDevice⟩
    unfold newRow decodeR2000 decodeRead
    rw [hcmd, if_neg (by decide), if_pos rfl]
    dsimp only
    rw [if_pos (by exact h), cardIndex_linkRelay]
    exact cardIndex_found g 1 _ fun _ => rfl

theorem rowTaken_fastInventory {g : Globals} (hcmd : g.r2000.frameCmd = 0x8A)
    (h : g.HoldsFastInventory) :
  g.RowTaken
  := by
  obtain ⟨hfive, hten, hlong, hle⟩ := h
  have hwords : g.idWords = UInt8.ofNat ((g.r2000.frameLen.toNat + 512 - 7) / 2) := by
    unfold idWords
    rw [hcmd, if_neg (by decide), if_pos rfl]
  rw [← hwords] at hle
  apply rowTaken_of_holds g.idWords (g.r2000.para (2 * g.idWords.toNat + 3))
    (g.r2000.para.shift 3) rfl hle
  · intro i
    unfold idOffset
    rw [hcmd, if_neg (by decide), if_pos rfl, Mem.shift_apply, ← paraAt_natCast]
    rfl
  · unfold rowRssi rssiOffset
    rw [if_pos hcmd]
    exact (g.paraAt_natCast _).symm
  · refine ⟨_, ?_, ((Row.Holds.start (g.cardIndex g.cardPos) hle _).antenna hle
      ((g.r2000.para 0 &&& 3) + 1)).strength hle _⟩
    rw [hwords] at hle ⊢
    unfold newRow decodeR2000 decodeFastInventory
    rw [hcmd, if_neg (by decide), if_neg (by decide), if_pos rfl]
    dsimp only
    rw [if_neg hfive, if_neg hten, if_pos ⟨hlong, hle⟩]
    exact cardIndex_found g _ _ fun _ => rfl

theorem rowTaken_inventory {g : Globals} (hcmd : g.r2000.frameCmd = 0x91) (h : g.HoldsInventory) :
  g.RowTaken
  := by
  obtain ⟨hlong, hle, hmask⟩ := h
  have hwords : g.idWords = (g.r2000.para 2 >>> 1) - 2 := by
    unfold idWords
    rw [hcmd, if_neg (by decide), if_neg (by decide), if_pos rfl]
  rw [← hwords] at hle hmask
  apply rowTaken_of_holds g.idWords (g.r2000.para ((g.r2000.para 2).toNat + 3))
    (g.r2000.para.shift 5) rfl hle
  · intro i
    unfold idOffset
    rw [hcmd, if_neg (by decide), if_neg (by decide), if_pos rfl, Mem.shift_apply,
      ← paraAt_natCast]
    rfl
  · unfold rowRssi rssiOffset
    rw [hcmd, if_neg (by decide), if_pos rfl]
    exact (g.paraAt_natCast _).symm
  · refine ⟨_, ?_, (((Row.Holds.start (g.cardIndex g.cardPos) hle _).antenna hle
      (g.antId + 1)).strength hle _).stampTime hle g.gDevice⟩
    rw [hwords] at hle hmask ⊢
    unfold newRow decodeR2000 decodeInventory
    rw [hcmd, if_neg (by decide), if_neg (by decide), if_neg (by decide), if_pos rfl]
    dsimp only
    rw [if_pos hlong, if_pos ⟨hle, hmask⟩, countTag, cardIndex_linkRelay]
    exact cardIndex_found g _ _ fun _ => rfl

theorem rowTaken_6B {g : Globals} (hcmd : g.r2000.frameCmd = 0xB0) (h : g.Holds6B) :
  g.RowTaken
  := by
  obtain ⟨hlong, hmask⟩ := h
  have hwords : g.idWords = 4 := by
    unfold idWords
    rw [hcmd, if_neg (by decide), if_neg (by decide), if_neg (by decide)]
  apply rowTaken_of_holds 4 0 (g.r2000.para.shift 1) hwords (by decide)
  · intro i
    unfold idOffset
    rw [hcmd, if_neg (by decide), if_neg (by decide), if_neg (by decide), Mem.shift_apply,
      ← paraAt_natCast]
    rfl
  · unfold rowRssi rssiOffset
    rw [hcmd, if_neg (by decide), if_neg (by decide)]
    rfl
  · refine ⟨_, ?_, (((Row.Holds.start (g.cardIndex g.cardPos) (by decide) _).antenna (by decide)
      (g.r2000.para 0 + 1)).strength (by decide) _).stampTime (by decide) g.gDevice⟩
    unfold newRow decodeR2000 decode6B
    rw [hcmd, if_neg (by decide), if_neg (by decide), if_neg (by decide), if_neg (by decide),
      if_pos rfl]
    dsimp only
    rw [if_pos hlong, if_pos hmask, countTag, cardIndex_linkRelay]
    exact cardIndex_found g _ _ fun _ => rfl

/-- Every row that is stored holds what is taken out of the frame. -/
theorem rowTaken (g : Globals) (h : g.StoresRow) :
  g.RowTaken
  := by
  unfold StoresRow at h
  split at h
  · cases h
  · split at h
    · exact rowTaken_read (by assumption) h
    · split at h
      · exact rowTaken_fastInventory (by assumption) h
      · split at h
        · exact rowTaken_inventory (by assumption) h
        · split at h
          · exact rowTaken_6B (by assumption) h
          · cases h

/-- The commands of frames that a row is stored for. -/
theorem StoresRow.cases {g : Globals} (h : g.StoresRow) :
  g.r2000.frameCmd = 0x81
    ∨ g.r2000.frameCmd = 0x8A ∧ g.HoldsFastInventory
    ∨ g.r2000.frameCmd = 0x91 ∧ g.HoldsInventory
    ∨ g.r2000.frameCmd = 0xB0
  := by
  unfold StoresRow at h
  split at h
  · cases h
  · split at h
    · exact .inl (by assumption)
    · split at h
      · exact .inr (.inl ⟨by assumption, h⟩)
      · split at h
        · exact .inr (.inr (.inl ⟨by assumption, h⟩))
        · split at h
          · exact .inr (.inr (.inr (by assumption)))
          · cases h

/-- Only parameters of the frame are taken if and only if the frame is long enough. -/
theorem taken_inside_iff (g : Globals) (h : g.StoresRow) :
  (∀ i < 2 * g.idWords.toNat, g.InPara (g.idOffset + i)) ∧ (∀ k ∈ g.rssiOffset, g.InPara k)
    ↔ g.FrameFits
  := by
  unfold InPara
  obtain hcmd | ⟨hcmd, hfive, hten, hlong, hle⟩ | ⟨hcmd, hlong, hle, -⟩ | hcmd := h.cases
  · have hwords : g.idWords.toNat = 6 := by
      unfold idWords
      rw [if_pos hcmd]
      rfl
    unfold FrameFits idOffset rssiOffset
    rw [hwords, hcmd, if_pos rfl, if_neg (by decide), if_neg (by decide)]
    constructor
    · rintro ⟨hid, -⟩
      have hfirst := (hid 0 (by decide)).1
      refine ⟨fun _ => by omega, fun h => absurd h (by decide), fun h => absurd h (by decide)⟩
    · rintro ⟨hlong, -⟩
      have hlen := hlong rfl
      refine ⟨fun i hi => by omega, fun k hk => by cases hk⟩
  · have hlen : 7 ≤ g.r2000.frameLen.toNat := by
      have hfour : 4 < g.r2000.frameLen.toNat := UInt8.lt_iff_toNat_lt.mp hlong
      have hlt := g.r2000.frameLen.toNat_lt
      have hle' := UInt8.le_iff_toNat_le.mp hle
      simp only [UInt8.toNat_ofNat', UInt8.reduceToNat] at hle'
      omega
    have hwords : g.idWords.toNat = (g.r2000.frameLen.toNat - 7) / 2 := by
      unfold idWords
      rw [hcmd, if_neg (by decide), if_pos rfl, UInt8.toNat_ofNat']
      have hlt := g.r2000.frameLen.toNat_lt
      omega
    unfold FrameFits idOffset rssiOffset
    rw [hwords, hcmd, if_pos rfl, if_neg (by decide), if_pos rfl]
    constructor
    · intro _
      exact ⟨fun h => absurd h (by decide), fun h => absurd h (by decide),
        fun h => absurd h (by decide)⟩
    · intro _
      refine ⟨fun i hi => by omega, ?_⟩
      rintro k ⟨⟩
      omega
  · obtain ⟨hfour, hwords⟩ := words_of_le hle
    have hid : g.idWords.toNat = (g.r2000.para 2).toNat / 2 - 2 := by
      unfold idWords
      rw [hcmd, if_neg (by decide), if_neg (by decide), if_pos rfl, hwords]
    unfold FrameFits idOffset rssiOffset
    rw [hid, hcmd, if_neg (by decide), if_neg (by decide), if_pos rfl, if_neg (by decide),
      if_pos rfl]
    constructor
    · rintro ⟨-, hrssi⟩
      have hlast := (hrssi _ rfl).2
      refine ⟨fun h => absurd h (by decide), fun _ => by omega, fun h => absurd h (by decide)⟩
    · rintro ⟨-, hlong, -⟩
      have hlen := hlong rfl
      refine ⟨fun i hi => by omega, ?_⟩
      rintro k ⟨⟩
      omega
  · have hwords : g.idWords.toNat = 4 := by
      unfold idWords
      rw [hcmd, if_neg (by decide), if_neg (by decide), if_neg (by decide)]
      rfl
    unfold FrameFits idOffset rssiOffset
    rw [hwords, hcmd, if_neg (by decide), if_neg (by decide), if_neg (by decide),
      if_neg (by decide), if_neg (by decide)]
    constructor
    · rintro ⟨hid, -⟩
      have hlast := (hid 7 (by decide)).2
      refine ⟨fun h => absurd h (by decide), fun h => absurd h (by decide), fun _ => by omega⟩
    · rintro ⟨-, -, hlong⟩
      have hlen := hlong rfl
      refine ⟨fun i hi => by omega, fun k hk => by cases hk⟩

/-- The globals when the frame that the byte `b` completes is decoded. -/
def received (g : Globals) (b : UInt8) : Globals := { g with r2000 := (g.r2000.receive b).1 }

end Globals

/-- A new reader that has received the given bytes from the R2000. -/
def receiving (bytes : List UInt8) : Globals :=
  bytes.foldl uart4IRQHandler (powerOn .blank).toGlobals

-- an answer that announces four words and ends before them gives a row with its checksum
example :
  let g := receiving [0xA0, 0x08, 0x01, 0x91, 0x00, 0x01, 0x0C, 0x30, 0x00]
  g.StoresTag 0x77 ∧ ¬ (g.received 0x77).FrameFits
    ∧ ((uart4IRQHandler g 0x77).cardIndex g.cardPos).load 1 = 0x77
  := by
  intro g
  unfold g receiving
  rw [powerOn_eq]
  decide +kernel

namespace Globals

/-- The byte is one of the parameters of the frame. -/
def IsPara (g : Globals) (v : UInt8) : Prop :=
  ∃ k < g.r2000.frameLen.toNat - 3, v = g.r2000.para k

instance (g : Globals) (v : UInt8) : Decidable (g.IsPara v) :=
  inferInstanceAs (Decidable (∃ k < _, _))

theorem isPara_paraAt {g : Globals} {k : ℤ} (h : g.InPara k) :
  g.IsPara (g.paraAt k)
  := by
  obtain ⟨hpos, hlt⟩ := h
  use k.toNat
  refine ⟨by omega, ?_⟩
  rw [← paraAt_natCast, Int.toNat_of_nonneg hpos]

end Globals

/-- A row that is stored for a frame holds only what is in the frame, when the frame is long enough
for what it announces.  A frame `0xB0` reports no signal strength, and zero is stored. -/
theorem rows_from_frame (g : Globals) (b : UInt8) (h : g.StoresTag b)
    (hfits : (g.received b).FrameFits) :
  let row := (uart4IRQHandler g b).cardIndex g.cardPos
  (∀ i < 2 * (row.load 0).toNat, (g.received b).IsPara (row.load (1 + i)))
    ∧ ((g.received b).r2000.frameCmd = 0x8A ∨ (g.received b).r2000.frameCmd = 0x91 →
      (g.received b).IsPara (row.load (tagIdLength + 7)))
    ∧ ((g.received b).r2000.frameCmd = 0xB0 → row.load (tagIdLength + 7) = 0)
  := by
  intro row
  obtain ⟨hcomplete, hstores⟩ := h
  have hrow : row = (g.received b).newRow := by
    unfold row Globals.newRow
    rw [uart4IRQHandler_eq, if_pos hcomplete]
    rfl
  obtain ⟨hwords, hholds⟩ := (g.received b).rowTaken hstores
  obtain ⟨hid, hrssi⟩ := ((g.received b).taken_inside_iff hstores).mpr hfits
  rw [hrow]
  refine ⟨?_, ?_, ?_⟩
  · intro i hi
    rw [hholds.length] at hi
    rw [hholds.id i hi]
    exact Globals.isPara_paraAt (hid i hi)
  · intro hcmd
    obtain ⟨k, hk⟩ : ∃ k, (g.received b).rssiOffset = some k := by
      unfold Globals.rssiOffset
      obtain hfast | hinventory := hcmd
      · rw [if_pos hfast]
        exact ⟨_, rfl⟩
      · rw [hinventory, if_neg (by decide), if_pos rfl]
        exact ⟨_, rfl⟩
    rw [hholds.rssi, Globals.rowRssi, hk]
    exact Globals.isPara_paraAt (hrssi k hk)
  · intro hcmd
    rw [hholds.rssi, Globals.rowRssi, Globals.rssiOffset, hcmd, if_neg (by decide),
      if_neg (by decide)]
    rfl

/-- The frame of a tag with the identifier `E0 04 01 02 03 04 05 06` up to its checksum. -/
def labelFrame : List UInt8 :=
  [0xA0, 0x0C, 0x01, 0xB0, 0x01, 0xE0, 0x04, 0x01, 0x02, 0x03, 0x04, 0x05, 0x06]

/-- The row of such a frame has its identifier. -/
theorem label_row_from_frame :
  let g := receiving labelFrame
  let row := (uart4IRQHandler g 0x9A).cardIndex 0
  row.load 0 = 4 ∧ (∀ i < 8, (g.received 0x9A).IsPara (row.load (1 + i)))
    ∧ row.load (tagIdLength + 7) = 0
  := by
  intro g row
  have hchecks : g.StoresTag 0x9A ∧ (g.received 0x9A).FrameFits
      ∧ (g.received 0x9A).r2000.frameCmd = 0xB0 ∧ row.load 0 = 4 ∧ g.cardPos = 0 := by
    unfold row g receiving
    rw [powerOn_eq]
    decide +kernel
  obtain ⟨hstores, hfits, hcmd, hlength, hpos⟩ := hchecks
  obtain ⟨hid, -, hrssi⟩ := rows_from_frame g 0x9A hstores hfits
  rw [hpos] at hid hrssi
  refine ⟨hlength, ?_, hrssi hcmd⟩
  intro i hi
  apply hid i
  rw [show Block.load ((uart4IRQHandler g 0x9A).cardIndex 0) 0 = 4 from hlength]
  exact hi

/-- Its signal strength is none of the parameters. -/
theorem label_rssi_not_in_frame :
  let g := receiving labelFrame
  g.StoresTag 0x9A
    ∧ ¬ (g.received 0x9A).IsPara
      (((uart4IRQHandler g 0x9A).cardIndex g.cardPos).load (tagIdLength + 7))
  := by
  intro g
  unfold g receiving
  rw [powerOn_eq]
  decide +kernel

end UhfReader
