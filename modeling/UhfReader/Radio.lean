import UhfReader.Flash

/-!
# The R2000 driver: receiving

`uart4IRQHandler` takes in one byte from the R2000 module and hands a complete frame to
`decodeR2000`, which collects tags in `CardIndex`.  `timeUpdate` is the system tick.
-/

open Memory

namespace UhfReader

/-! ### Tag filters -/

/-- The loop of `MaskCheck`, with `n` rounds to go. -/
def maskCheckLoop (g : Globals) (buf : Mem) : ℕ → ℕ → ℕ → ℕ → ℕ → ℕ → Bool
  | 0, _, _, _, _, _ => true
  | n + 1, i, j, pos, tj, tpos =>
    let (j', pos') := if j + 1 > 7 then (0, pos + 1) else (j + 1, pos)
    if i ≥ g.cmdMaskaddr then
      if buf pos >>> UInt8.ofNat (7 - j) &&& 1
          ≠ g.cmdMaskData.load tpos >>> UInt8.ofNat (7 - tj) &&& 1 then false
      else
        let (tj', tpos') := if tj + 1 > 7 then (0, tpos + 1) else (tj + 1, tpos)
        maskCheckLoop g buf n (i + 1) j' pos' tj' tpos'
    else maskCheckLoop g buf n (i + 1) j' pos' tj tpos

/-- `MaskCheck`: the tag of `len` bytes at `buf` passes the mask of `CMDMasklen` bits at
bit `CMDMaskaddr`. -/
def maskCheck (g : Globals) (buf : Mem) (len : ℕ) : Bool :=
  if g.cmdMasklen = 0 then true
  else
    let totallen := g.cmdMaskaddr + g.cmdMasklen.toNat
    let totallen := if totallen > len * 8 then len * 8 else totallen
    if len * 8 ≤ g.cmdMaskaddr then false
    else maskCheckLoop g buf totallen 0 0 0 0 0

/-- The loop of `Mask6BCheck`, with `n` rounds to go. -/
def mask6BCheckLoop (g : Globals) (buf : Mem) : ℕ → ℕ → ℕ → Bool
  | 0, _, _ => g.maskSel = 0
  | n + 1, i, tj =>
    if i ≥ g.maskAddr6B.toNat then
      let a := buf i
      let b := g.maskData6B.load tj
      let selected := g.mask6B &&& (1 <<< UInt8.ofNat (7 - tj)) ≠ 0
      if selected ∧ g.maskSel = 0 ∧ a ≠ b then false
      else if selected ∧ g.maskSel = 1 ∧ a ≠ b then true
      else if selected ∧ g.maskSel = 2 ∧ a < b then false
      else if selected ∧ g.maskSel = 2 ∧ a > b then true
      else if selected ∧ g.maskSel = 3 ∧ a > b then false
      else if selected ∧ g.maskSel = 3 ∧ a < b then true
      else if tj + 1 > 7 then g.maskSel = 0
      else mask6BCheckLoop g buf n (i + 1) (tj + 1)
    else mask6BCheckLoop g buf n (i + 1) tj

/-- `Mask6BCheck`: the identifier at `buf` passes the selection of command `0xFB`. -/
def mask6BCheck (g : Globals) (buf : Mem) : Bool :=
  if g.mask6B = 0 then true else mask6BCheckLoop g buf 8 0 0

/-! ### Decoding frames -/

/-- The hour, minute and second of `g_device.ReaderTime`, written twice into a row: as the
time it was first seen and as the time it was last seen. -/
def Row.stampTime (row : Row) (d : SDevice) : Row :=
  (row.copy tagIdLength (Mem.shift d.load (Offset.readerTime + 3)) 3).copy (tagIdLength + 3)
    (Mem.shift d.load (Offset.readerTime + 3)) 3

namespace Globals

/-- `CardPos++`, kept at most `MAXNUM`.  `full` is what `decodeR2000` does when the bound
is hit. -/
def advanceCardPos (g : Globals) (full : Globals → Globals) : Globals :=
  let g := { g with cardPos := g.cardPos + 1 }
  if g.cardPos > maxNum then full { g with cardPos := maxNum } else g

/-- In active mode, and when `RelayCTLEnable` is set, a tag starts the relay pulse. -/
def linkRelay (g : Globals) : Globals :=
  if g.gDevice.load Offset.readerWorkStatus = workAct
      ∧ g.gDevice.load Offset.relayCTLEnable ≠ 0 then
    { g with relayFlag := 1 }
  else g

/-- Replace the row `CardIndex[CardPos]`. -/
def storeRow (g : Globals) (row : Row → Row) : Globals :=
  { g with
    cardIndex := fun k => if k = g.cardPos then row (g.cardIndex k) else g.cardIndex k }

/-- `Tag_R2000_CMD91_number = Tag_R2000_CMD80_number`. -/
def closeCount (g : Globals) : Globals :=
  { g with tagR2000Cmd91Number := g.tagR2000Cmd80Number }

/-- `Tag_R2000_CMD91_number++`, on 32 bits. -/
def countTag (g : Globals) : Globals :=
  { g with tagR2000Cmd91Number := (g.tagR2000Cmd91Number + 1) % 2 ^ 32 }

theorem linkRelay_eq (g : Globals) :
  ∃ flag, g.linkRelay = { g with relayFlag := flag }
  := by
  unfold linkRelay
  split
  · exact ⟨_, rfl⟩
  · exact ⟨g.relayFlag, rfl⟩

/-- As long as there is room, `CardPos` counts the rows. -/
theorem advanceCardPos_of_lt {g : Globals} (h : g.cardPos < maxNum)
    (full : Globals → Globals) :
  g.advanceCardPos full = { g with cardPos := g.cardPos + 1 }
  := by
  unfold advanceCardPos
  exact if_neg (Nat.not_lt.mpr h)

end Globals

/-- `decodeR2000`, case `0x81`: the answer to a read.  The indices are counted back from
the length byte, and `para[k]` is `buf[k + 4]`. -/
def decodeRead (g : Globals) : Globals :=
  let len : ℤ := g.r2000.frameLen.toNat
  let r := g.r2000
  if len > 4 ∧ r.loadInt (len - 2) >>> 1 = 6 then
    let g := { g with beepFlag := 1 }
    let g := g.storeRow fun row =>
      let row := row.put 0 6
      let row : Row := row.copy 1 (fun i => r.loadInt (len - 2 - 12 + i)) 12
      let row : Row := row.put (tagIdLength + 6) ((r.loadInt (len - 1) &&& 3) + 1)
      row.stampTime g.gDevice
    (g.advanceCardPos Globals.closeCount).linkRelay
  else g

/-- `decodeR2000`, case `0x8A`: a tag or the end of a fast inventory. -/
def decodeFastInventory (g : Globals) : Globals :=
  let len := g.r2000.frameLen
  let para := g.r2000.para
  if len = 0x05 then g
  else
    -- `(cmdRstr->len - 7) >> 1` is an int, truncated to a byte
    let epcLenth := UInt8.ofNat ((len.toNat + 512 - 7) / 2)
    if len = 0x0A then
      let n := ((para 0).toNat * 256 + (para 1).toNat) * 256 + (para 2).toNat
      { g with tagR2000Cmd91Number := if n = 0 then 0xffffffff else n }
    else if len > 4 ∧ epcLenth ≤ 15 then
      let g := { g with beepFlag := g.beepFlag + 1 }
      let g := g.storeRow fun row =>
        let row := row.put 0 epcLenth
        let row : Row := row.copy 1 (para.shift 3) (2 * epcLenth.toNat)
        let row : Row := row.put (tagIdLength + 6) ((para 0 &&& 3) + 1)
        row.put (tagIdLength + 7) (para (2 * epcLenth.toNat + 3))
      g.advanceCardPos id
    else g

/-- `decodeR2000`, case `0x91`: a tag of the inventory buffer. -/
def decodeInventory (g : Globals) : Globals :=
  let para := g.r2000.para
  if g.r2000.frameLen > 4 then
    let epcLenth := (para 2 >>> 1) - 2
    let g :=
      if epcLenth ≤ 15 ∧ maskCheck g (para.shift 5) (2 * epcLenth.toNat) then
        let g := { g with beepFlag := g.beepFlag + 1 }
        let g := g.storeRow fun row =>
          let row := row.put 0 epcLenth
          let row : Row := row.copy 1 (para.shift 5) (2 * epcLenth.toNat)
          let row : Row := row.put (tagIdLength + 6) (g.antId + 1)
          let row : Row := row.put (tagIdLength + 7) (para ((para 2).toNat + 3))
          row.stampTime g.gDevice
        (g.advanceCardPos Globals.closeCount).linkRelay
      else g
    g.countTag
  else g

/-- `decodeR2000`, case `0xB0`: a tag or the end of an ISO18000-6B inventory. -/
def decode6B (g : Globals) : Globals :=
  let len := g.r2000.frameLen
  let para := g.r2000.para
  if len > 5 then
    let g :=
      if mask6BCheck g (para.shift 1) then
        let g := { g with beepFlag := g.beepFlag + 1 }
        let g := g.storeRow fun row =>
          let row := row.put 0 4
          let row : Row := row.copy 1 (para.shift 1) 8
          let row : Row := row.put (tagIdLength + 6) (para 0 + 1)
          let row : Row := row.put (tagIdLength + 7) 0
          row.stampTime g.gDevice
        (g.advanceCardPos Globals.closeCount).linkRelay
      else g
    g.countTag
  else if len = 5 then { g with tagR2000Cmd80Number := (para 1).toNat }
  else if len = 4 then { g with tagR2000Cmd80Number := 0 }
  else g

/-- `decodeR2000`, on the frame in `R2000.rec_buf.buf`. -/
def decodeR2000 (g : Globals) : Globals :=
  if g.r2000.frameCmd = 0x70 then
    { g with selfCheckFailure := 5, r2000.setMark := 0 }
  else if g.r2000.frameCmd = 0x81 then decodeRead g
  else if g.r2000.frameCmd = 0x8A then decodeFastInventory g
  else if g.r2000.frameCmd = 0x91 then decodeInventory g
  else if g.r2000.frameCmd = 0xB0 then decode6B g
  else g

/-! ### What decoding can do -/

/-- `g'` is `g` after tags were collected: only the tag table, its counters, the beeper and
the relay flag differ. -/
def Collects (g g' : Globals) : Prop :=
  ∃ beepFlag cardIndex cardPos relayFlag n91 n80,
    g' = { g with
      beepFlag := beepFlag, cardIndex := cardIndex, cardPos := cardPos, relayFlag := relayFlag
      tagR2000Cmd91Number := n91, tagR2000Cmd80Number := n80 }

namespace Collects

variable {g g' g'' : Globals}

theorem refl (g : Globals) :
  Collects g g
  := ⟨_, _, _, _, _, _, rfl⟩

theorem trans (h : Collects g g') (h' : Collects g' g'') :
  Collects g g''
  := by
  obtain ⟨_, _, _, _, _, _, rfl⟩ := h
  obtain ⟨_, _, _, _, _, _, rfl⟩ := h'
  exact ⟨_, _, _, _, _, _, rfl⟩

theorem beep (g : Globals) (b : UInt8) :
  Collects g { g with beepFlag := b }
  := ⟨_, _, _, _, _, _, rfl⟩

theorem storeRow (g : Globals) (row : Row → Row) :
  Collects g (g.storeRow row)
  := ⟨_, _, _, _, _, _, rfl⟩

theorem closeCount (g : Globals) :
  Collects g g.closeCount
  := ⟨_, _, _, _, _, _, rfl⟩

theorem countTag (g : Globals) :
  Collects g g.countTag
  := ⟨_, _, _, _, _, _, rfl⟩

theorem linkRelay (g : Globals) :
  Collects g g.linkRelay
  := by
  unfold Globals.linkRelay
  split
  · exact ⟨_, _, _, _, _, _, rfl⟩
  · exact refl g

theorem advanceCardPos (g : Globals) {full : Globals → Globals} (h : ∀ g, Collects g (full g)) :
  Collects g (g.advanceCardPos full)
  := by
  have hpos : ∀ n, Collects g { g with cardPos := n } := fun n => ⟨_, _, _, _, _, _, rfl⟩
  unfold Globals.advanceCardPos
  dsimp only
  split
  · exact (hpos maxNum).trans (h _)
  · exact hpos _

/-- A tag found: the beeper is set and the row is stored. -/
theorem found (g : Globals) (b : UInt8) (row : Row → Row) :
  Collects g ({ g with beepFlag := b }.storeRow row)
  := (beep g b).trans (storeRow _ row)

end Collects

theorem collects_decodeRead (g : Globals) :
  Collects g (decodeRead g)
  := by
  unfold decodeRead
  dsimp only
  split
  · exact ((Collects.found g _ _).trans (.advanceCardPos _ .closeCount)).trans (.linkRelay _)
  · exact .refl g

theorem collects_decodeFastInventory (g : Globals) :
  Collects g (decodeFastInventory g)
  := by
  unfold decodeFastInventory
  dsimp only
  split
  · exact .refl g
  · split
    · exact ⟨_, _, _, _, _, _, rfl⟩
    · split
      · exact (Collects.found g _ _).trans (.advanceCardPos _ .refl)
      · exact .refl g

theorem collects_decodeInventory (g : Globals) :
  Collects g (decodeInventory g)
  := by
  unfold decodeInventory
  dsimp only
  split
  · apply Collects.trans _ (.countTag _)
    split
    · exact ((Collects.found g _ _).trans (.advanceCardPos _ .closeCount)).trans (.linkRelay _)
    · exact .refl g
  · exact .refl g

theorem collects_decode6B (g : Globals) :
  Collects g (decode6B g)
  := by
  unfold decode6B
  dsimp only
  split
  · apply Collects.trans _ (.countTag _)
    split
    · exact ((Collects.found g _ _).trans (.advanceCardPos _ .closeCount)).trans (.linkRelay _)
    · exact .refl g
  · split
    · exact ⟨_, _, _, _, _, _, rfl⟩
    · split
      · exact ⟨_, _, _, _, _, _, rfl⟩
      · exact .refl g

/-- Decoding collects tags, or records that the R2000 was reset. -/
theorem decodeR2000_cases (g : Globals) :
  (g.r2000.frameCmd = 0x70 ∧ decodeR2000 g = { g with selfCheckFailure := 5, r2000.setMark := 0 })
    ∨ (g.r2000.frameCmd ≠ 0x70 ∧ Collects g (decodeR2000 g))
  := by
  unfold decodeR2000
  split
  · rename_i h
    exact .inl ⟨h, rfl⟩
  · rename_i h
    refine .inr ⟨h, ?_⟩
    split
    · exact collects_decodeRead g
    · split
      · exact collects_decodeFastInventory g
      · split
        · exact collects_decodeInventory g
        · split
          · exact collects_decode6B g
          · exact .refl g

/-! ### Receiving bytes -/

/-- `R2000_REV_TIMER` -/
@[simp] def r2000RevTimer : ℕ := 50

/-- `R2000_SED_TIMER` -/
@[simp] def r2000SedTimer : ℕ := 200

namespace SR2000TransData

/-- The part of `UART4_IRQHandler` that works on the link alone.  The flag tells whether a
frame of 4 to 255 bytes was completed, which is then decoded. -/
def receive (r : SR2000TransData) (tmpChar : UInt8) : SR2000TransData × Bool :=
  if r.setMark = 0 then
    if r.index = 0 ∧ tmpChar = 0xA0 then
      ({ r.store 0 tmpChar with index := 1, localTimer := r.localTimer.start r2000RevTimer },
        false)
    else if r.index ≠ 0 then
      if r.index > bufLen then
        ({ r with index := 0, len := 0, localTimer := r.localTimer.stop }, false)
      else
        let r := r.store r.index tmpChar
        if r.index > (r.load 1).toNat then
          let r := { r with len := r.index + 1, index := 0, localTimer := r.localTimer.stop }
          if r.len < 4 ∨ r.len > bufLen then (cleared, false)
          else ({ r with setMark := 1 }, true)
        else ({ r with index := r.index + 1 }, false)
    else (r, false)
  else (r, false)

end SR2000TransData

/-- `UART4_IRQHandler` -/
def uart4IRQHandler (g : Globals) (tmpChar : UInt8) : Globals :=
  let (r, complete) := g.r2000.receive tmpChar
  let g := { g with r2000 := r }
  if complete then decodeR2000 g else g

/-! ### The system tick -/

/-- `RelayControl`, which ends the relay pulse after 400 calls. -/
def relayControl (g : Globals) : Globals :=
  if g.relayFlag ≠ 0 then
    if g.relayCountTimes + 1 < 400 then
      { g with relayCountTimes := g.relayCountTimes + 1, relayOn := true, relayOn1 := true }
    else
      { g with relayFlag := 0, relayOn := false, relayOn1 := false, relayCountTimes := 0 }
  else g

/-- The beeper part of `Time_Update`. -/
def beepUpdate (g : Globals) : Globals :=
  if g.beepFlag ≠ 0 then
    if g.beepCountTimes + 1 > 2 then
      { g with beepFlag := g.beepFlag - 1, beepCountTimes := 0 }
    else { g with beepCountTimes := g.beepCountTimes + 1 }
  else g

/-- The timer part of `Time_Update`. -/
def updateTimers (g : Globals) : Globals :=
  { g with
    readCardTimer := g.readCardTimer.update
    outPutTimer := g.outPutTimer.update
    r2000.localTimer := g.r2000.localTimer.update
    r2000.sendTimer := g.r2000.sendTimer.updateUnguarded }

/-- `Time_Update`: on every tenth call the software timers are updated.  The watchdog test
`reboot`, which never returns when it lets the watchdog expire, is not part of it. -/
def timeUpdate (g : Globals) : Globals :=
  if g.sysTimer1 + 1 > 9 then
    updateTimers (beepUpdate (relayControl { g with sysTimer1 := 0 }))
  else { g with sysTimer1 := g.sysTimer1 + 1 }

/-! ### What interrupts can do -/

theorem decodeR2000_undriven (g : Globals) :
  (decodeR2000 g).undriven = g.undriven
  := by
  obtain ⟨-, h⟩ | ⟨-, _, _, _, _, _, _, h⟩ := decodeR2000_cases g
  · rw [h]
    rfl
  · rw [h]
    rfl

/-- A received byte leaves the settings and the length of the reply alone. -/
theorem uart4IRQHandler_undriven (g : Globals) (b : UInt8) :
  (uart4IRQHandler g b).undriven = g.undriven
  := by
  unfold uart4IRQHandler
  dsimp only
  split
  · rw [decodeR2000_undriven]
    rfl
  · rfl

/-- The relay and the beeper are all that `RelayControl` and the beeper part change. -/
theorem beepUpdate_relayControl (g : Globals) :
  ∃ relayFlag count on on1 beepFlag beepCount,
    beepUpdate (relayControl g)
      = { g with
          relayFlag := relayFlag, relayCountTimes := count, relayOn := on, relayOn1 := on1
          beepFlag := beepFlag, beepCountTimes := beepCount }
  := by
  have hrelay : ∃ relayFlag count on on1, relayControl g
      = { g with
          relayFlag := relayFlag, relayCountTimes := count, relayOn := on, relayOn1 := on1 } := by
    unfold relayControl
    repeat' split
    all_goals exact ⟨_, _, _, _, rfl⟩
  obtain ⟨_, _, _, _, h⟩ := hrelay
  rw [h]
  unfold beepUpdate
  repeat' split
  all_goals exact ⟨_, _, _, _, _, _, rfl⟩

/-- A system tick updates the software timers on every tenth call, and touches the relay and
the beeper besides. -/
theorem timeUpdate_cases (g : Globals) :
  (g.sysTimer1 + 1 ≤ 9 ∧ timeUpdate g = { g with sysTimer1 := g.sysTimer1 + 1 })
    ∨ (9 < g.sysTimer1 + 1 ∧ ∃ relayFlag count on on1 beepFlag beepCount,
      timeUpdate g = updateTimers { g with
        sysTimer1 := 0, relayFlag := relayFlag, relayCountTimes := count, relayOn := on
        relayOn1 := on1, beepFlag := beepFlag, beepCountTimes := beepCount })
  := by
  unfold timeUpdate
  split
  · rename_i h
    obtain ⟨_, _, _, _, _, _, heq⟩ := beepUpdate_relayControl { g with sysTimer1 := 0 }
    rw [heq]
    exact .inr ⟨h, _, _, _, _, _, _, rfl⟩
  · rename_i h
    exact .inl ⟨Nat.not_lt.mp h, rfl⟩

/-- A system tick leaves the settings and the length of the reply alone. -/
theorem timeUpdate_undriven (g : Globals) :
  (timeUpdate g).undriven = g.undriven
  := by
  obtain ⟨-, h⟩ | ⟨-, _, _, _, _, _, _, h⟩ := timeUpdate_cases g
  · rw [h]
    rfl
  · rw [h]
    rfl

end UhfReader
