import UhfReader.Clock
import UhfReader.Radio.Encode

/-!
# The command handlers

The functions of `common.c` that the parameter table refers to.  A handler gets the
parameters `p` of the request, wherever they stand in the receive buffer, and leaves the
parameters of the reply in their place; `cmdTmpLen` tells how many they are, and is
`BUF_LEN` when the command failed.
-/

open Memory

namespace UhfReader

/-- `cmdTmpLen = n` -/
def setCmdTmpLen (n : UInt8) : M Unit := modify fun g => { g with cmdTmpLen := n }

/-- `cmdTmpLen = BUF_LEN`, which reports that the command failed. -/
def fail (p : Mem) : M Mem := do
  setCmdTmpLen 0xFF
  return p

/-- `cmdTmpLen = n`, with the reply in `p`. -/
def reply (p : Mem) (n : UInt8) : M Mem := do
  setCmdTmpLen n
  return p

/-- `beepFlag = 1` -/
def beep : M Unit := modify fun g => { g with beepFlag := 1 }

/-- A handler that neither reads nor writes anything. -/
def idle (p : Mem) : M Mem := return p

/-! ### Parameters of the reader -/

/-- `SetBaudRate` (`0x01`) -/
def setBaudRate (p : Mem) : M Mem := do
  modify fun g => { g with
    gDevice := g.gDevice.put Offset.sysConnectParaChange
      (g.gDevice.load Offset.sysConnectParaChange ||| 0x01) }
  return p

/-- `SetRelay` (`0x03`) -/
def setRelay (p : Mem) : M Mem := do
  modify fun g => { g with
    relayOn := g.gDevice.load Offset.relayStatus &&& 0x01 ≠ 0
    relayOn1 := g.gDevice.load Offset.relayStatus &&& 0x02 ≠ 0 }
  return p

/-- The power that `SetOutputPower` makes of the power asked for. -/
def clampPower (b : UInt8) : UInt8 := if b < 20 then 20 else if b > 33 then 33 else b

/-- `SetOutputPower` (`0x04`).  The new power is in `g_device` before the R2000 is asked. -/
def setOutputPower (p : Mem) : M Mem := do
  let p := p.put 0 (clampPower (p 0))
  modify fun g => { g with gDevice := g.gDevice.put Offset.outputPower (p 0) }
  let flagReturn ← encodeR2000 0x76 p
  let g ← get
  if flagReturn = 0 ∧ g.r2000.para 0 = commandSuccess then
    modify fun g => { g with cmdTmpLen := 0, setFlag := 1 }
    return p
  else fail p

/-- `SetFrequency` (`0x05`) -/
def setFrequency (p : Mem) : M Mem := do
  modify fun g =>
    let d : SDevice := g.gDevice.copy Offset.freqSelect p 6
    let d : SDevice :=
      if d.load Offset.freqSelect < 4 then
        (d.put Offset.frequencyMax (d.load (Offset.freqSelect + 2))).put Offset.frequencyMin
          (d.load (Offset.freqSelect + 1))
      else d
    { g with gDevice := d, cmdTmpLen := 0, setFlag := 1 }
  return p

/-- `SetFrequency1` (`0x86`) -/
def setFrequency1 (p : Mem) : M Mem := do
  let g ← get
  let p := (p.put 0 (g.gDevice.load Offset.frequencyMin)).put 1
    (g.gDevice.load Offset.frequencyMax)
  let flagReturn ← encodeR2000 0x78 p
  let g ← get
  if flagReturn = 0 ∧ g.r2000.para 0 = commandSuccess then reply p 0
  else fail p

/-- `ReadParam` (`0x06`): `g_device` is read back from the flash.  Five equal readings are
one. -/
def readParam (p : Mem) : M Mem := do
  modify fun g => { g with gDevice := SDevice.setVersion (stmflashReadDevice g.flash) }
  return p

/-- `SetAntenna` (`0x0A`).  Whatever the R2000 answers counts as success. -/
def setAntenna (p : Mem) : M Mem := do
  delayMs
  let flagReturn ← encodeR2000 0x74 p
  if flagReturn = 0 then reply p 0 else fail p

/-- `SaveData` -/
def saveData : M Unit :=
  modify fun g => { g with
    gDevice := (saveDataTo g.flash g.gDevice).1
    flash := (saveDataTo g.flash g.gDevice).2 }

/-- `Reboot` (`0x0E`) -/
def reboot (p : Mem) : M Mem := do
  modify fun g => { g with sysReboot := 2 }
  return p

/-- The record after `ReadReaderPara` has restored the factory settings.  The MAC address
and `ReaderID` are kept. -/
def factoryReset (d : SDevice) : SDevice :=
  let d' := d.copy Offset.workpara (Mem.shift d.load Offset.factoryWorkpara) sizeofWorkParam
  let d' := d'.copy Offset.autoParam (Mem.shift d'.load Offset.factoryAutoParam) sizeofWorkParam
  let d' := d'.copy Offset.readerMAC1 (Mem.shift d.load Offset.readerMAC1) 6
  d'.copy Offset.readerID (Mem.shift d.load Offset.readerID) 10

/-- `ReadReaderPara` (`0x0D`) -/
def readReaderPara (p : Mem) : M Mem := do
  modify fun g => { g with gDevice := factoryReset g.gDevice }
  saveData
  reboot p

/-- The start value of `OutPutTimer`: `CallPCTimeInterver * 100`, and 100 for a Wiegand
output. -/
def outPutTime (d : SDevice) : ℕ :=
  if d.load Offset.cardOutModule = 3 ∨ d.load Offset.cardOutModule = 4 then 100
  else (d.load Offset.callPCTimeInterver).toNat * 100

/-- `SetReaderWorkType` (`0x0F`), called after the parameter was stored as
`ReaderWorkStatus`: `0` asks for command mode and `1` for active mode. -/
def setReaderWorkType (p : Mem) : M Mem := do
  modify fun g =>
    if g.gDevice.load Offset.readerWorkStatus = 0 then
      { g with
        gDevice := g.gDevice.put Offset.readerWorkStatus workCmd
        readCardTimer := g.readCardTimer.stop
        outPutTimer := g.outPutTimer.stop }
    else if g.gDevice.load Offset.readerWorkStatus = 1 then
      { g with
        gDevice := g.gDevice.put Offset.readerWorkStatus workAct
        readCardTimer := g.readCardTimer.start g.readCardTimeInterver.toNat
        outPutTimer := g.outPutTimer.start (outPutTime g.gDevice)
        cardPos := 0
        tmpAntenna := g.gDevice.load Offset.antenna }
    else g
  return p

/-- `ClearTagListMem` (`0x10`).  `common.c` declares `TagSaveCount` as a byte, so only its
low byte is cleared. -/
def clearTagListMem (p : Mem) : M Mem := do
  modify fun g => { g with
    cardIndex := fun _ => Block.zero 39
    tagSaveBuf := fun _ => Block.zero 39
    cardPos := 0
    tagSaveCount := g.tagSaveCount / 256 * 256 }
  return p

/-- `SetReaderTime` (`0x11`) -/
def setReaderTime (p : Mem) : M Mem := do
  modify fun g => { g with
    ds1302 := setTime g.ds1302 (Mem.shift g.gDevice.load Offset.readerTime) }
  return p

/-- `GetReaderTime` (`0x12`) -/
def getReaderTime (p : Mem) : M Mem := do
  modify Globals.readClock
  return p

/-- `GetReaderRevStatus` (`0x41`) -/
def getReaderRevStatus (p : Mem) : M Mem := do
  modify fun g => { g with gDevice := g.gDevice.put Offset.readerRevStatus g.pinTriggle }
  return p

/-! ### Saved tags -/

/-- `CardIndex` as memory, from the row `k` on. -/
def Globals.cardMem (g : Globals) (k : ℕ) : Mem :=
  fun i => (g.cardIndex (k + i / 39)).load (i % 39)

/-- The sixteen bytes that `GetTagRecord` writes before the identifier of a tag. -/
def recordHeader (d : SDevice) : List UInt8 :=
  (List.range 6).map (fun k => d.load (Offset.readerTime + k))
    ++ (List.range 6).map (fun k => d.load (Offset.readerTime + k))
    ++ [0, 0, d.load Offset.antenna, d.load Offset.tagType]

/-- One round of the loops of `GetTagRecord`.  The header of a record stands at
`cmdTmpLen - 17 + 1`, which is negative when `cmdTmpLen` has wrapped around: the start of the
header is then stored before `cmdTmpBuf`, over the last bytes of `g_device`, which ends where
`cmdTmpBuf` begins (`STMR2000.map`).  A row that does not fit at its place runs over `netif` behind
`cmdTmpBuf`, which nothing here reads, and no farther: `decodeR2000` stores rows of at most 15
words. -/
def recordRound (g : Globals) : Globals :=
  let pos := g.cmdTmpLen.toNat
  let row := g.cardMem g.cmd57ReadTagCount.toNat
  let n := 2 * (row 0).toNat + 1
  let header := recordHeader g.gDevice
  let headed : Block 255 := fun j =>
    if pos ≤ j.val + 16 ∧ j.val < pos then header.getD (j.val + 16 - pos) 0 else g.cmdTmpBuf j
  { g with
    gDevice := g.gDevice.copy (194 + pos) (fun k => header.getD k 0) (16 - pos)
    cmdTmpBuf := headed.copy pos row n
    cmdTmpLen := UInt8.ofNat (17 + (pos + n) - 1)
    cmd57ReadTagCount := g.cmd57ReadTagCount + 1 }

/-- The second loop of `GetTagRecord`, whose bound `cmdTmpBuf[0]` is read in every round. -/
def recordLoop : ℕ → ℕ → Globals → Globals
  | 0, _, g => g
  | fuel + 1, i, g =>
    if i < (g.cmdTmpBuf.load 0).toNat then recordLoop fuel (i + 1) (recordRound g) else g

/-- `GetTagRecord` (`0x57`), on the globals.  `common.c` sees the low byte of
`TagSaveCount`. -/
def tagRecord (g : Globals) : Globals :=
  let g := { g.readClock with cmdTmpLen := 17 }
  let count := g.tagSaveCount % 256
  let done := g.cmd57ReadTagCount.toNat
  if count > done + 7 then
    Nat.iterate recordRound 8 { g with cmdTmpBuf := g.cmdTmpBuf.put 0 8 }
  else if count > done then
    -- the bound is a byte, so 256 rounds are enough
    { recordLoop 256 0 { g with cmdTmpBuf := g.cmdTmpBuf.put 0 (UInt8.ofNat (count - done)) }
      with cmd57ReadTagCount := 0 }
  else { g with cmdTmpBuf := g.cmdTmpBuf.put 0 0, cmd57ReadTagCount := 0 }

/-- `GetTagRecord` (`0x57`) -/
def getTagRecord (p : Mem) : M Mem := do
  modify tagRecord
  return p

end UhfReader
