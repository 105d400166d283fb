import UhfReader.Lib.Memory

/-!
# The parameter record of the reader

`SDevice` is the packed record `g_device`, 210 bytes long.  The command handlers, the
parameter table and the flash driver all see it as bytes, so it is a block of bytes here,
and a member is the offset of its first byte.  `defaultPara` is the record of the factory
settings.

`STimer` is a software timer, counted down by the system tick.
-/

open Memory

namespace UhfReader

/-- The length of the receive buffers, `BUF_LEN`. -/
@[simp] def bufLen : ℕ := 255

/-- `WORK_ACT`: the reader reads tags on its own. -/
@[simp] def workAct : UInt8 := 0

/-- `WORK_CMD`: the reader waits for commands. -/
@[simp] def workCmd : UInt8 := 1

/-- `MAXNUM` and `SAVEMAXNUM`, the number of rows of the tag tables. -/
@[simp] def maxNum : ℕ := 500

/-- `TAGIDLENGTH`, the length byte of a row and its identifier. -/
@[simp] def tagIdLength : ℕ := 31

/-- Where a command came from. -/
inductive CmdOrigin where
  | sourceFrom232
  | sourceFrom485
  | sourceFromUDP
  deriving DecidableEq, Repr

/-! ### Return codes -/

@[simp] def cmdoorCheckOk : UInt8 := 0
@[simp] def noTag : UInt8 := 2
@[simp] def checksumWrong : UInt8 := 6
@[simp] def paraWrong : UInt8 := 7
@[simp] def invalidMasterCmd : UInt8 := 11
@[simp] def invalidInstruction : UInt8 := 30
@[simp] def ortherWrong : UInt8 := 32
@[simp] def errorNoReturn : UInt8 := 0xFF

/-- `command_success`, the first parameter of an R2000 frame that confirms a command. -/
@[simp] def commandSuccess : UInt8 := 0x10

/-! ### The record `g_device` -/

/-- The bytes of `g_device`. -/
abbrev SDevice := Block 210

/-! The offsets of the members of `g_device`. -/

namespace Offset

@[simp] def flag : ℕ := 0
@[simp] def getReaderVersion : ℕ := 4
@[simp] def relayStatus : ℕ := 8
@[simp] def readerTime : ℕ := 9
@[simp] def tagfilter : ℕ := 15
@[simp] def tagMaskData : ℕ := tagfilter + 4
@[simp] def readerRevStatus : ℕ := 50
@[simp] def readerOutStatus : ℕ := 51
@[simp] def freqSelect : ℕ := 55
@[simp] def readerID : ℕ := 61
@[simp] def workpara : ℕ := 71
@[simp] def factoryWorkpara : ℕ := 103
@[simp] def autoParam : ℕ := 135
@[simp] def factoryAutoParam : ℕ := 167
@[simp] def sysConnectParaChange : ℕ := 199

/-! The members of the working parameters, `SWorkParam`. -/

@[simp] def baudRate : ℕ := workpara
@[simp] def outputPower : ℕ := workpara + 1
@[simp] def frequencyMin : ℕ := workpara + 2
@[simp] def frequencyMax : ℕ := workpara + 3
@[simp] def radioDepth : ℕ := workpara + 4
@[simp] def readerWorkStatus : ℕ := workpara + 5
@[simp] def address : ℕ := workpara + 6
@[simp] def maxReadCardNum : ℕ := workpara + 7
@[simp] def tagType : ℕ := workpara + 8
@[simp] def readerIP1 : ℕ := workpara + 12
@[simp] def readerMAC1 : ℕ := workpara + 26

/-! The members of the automatic working parameters, `SAutoWorkParam`. -/

@[simp] def readTAGType : ℕ := autoParam
@[simp] def tagExisTimeH : ℕ := autoParam + 1
@[simp] def tagExisTimeL : ℕ := autoParam + 2
@[simp] def tagHoldNumH : ℕ := autoParam + 4
@[simp] def tagHoldNumL : ℕ := autoParam + 5
@[simp] def outputDataType : ℕ := autoParam + 6
@[simp] def cardOutModule : ℕ := autoParam + 7
@[simp] def widthOfWiegand : ℕ := autoParam + 8
@[simp] def interverOfWiegand : ℕ := autoParam + 9
@[simp] def cardStartPos : ℕ := autoParam + 10
@[simp] def cardSaveInTagPosition : ℕ := autoParam + 11
@[simp] def callPCTimeInterver : ℕ := autoParam + 12
@[simp] def callPCType : ℕ := autoParam + 13
@[simp] def callPCEnable : ℕ := autoParam + 14
@[simp] def antenna : ℕ := autoParam + 15
@[simp] def triggleType : ℕ := autoParam + 16
@[simp] def relayCTLEnable : ℕ := autoParam + 31

end Offset

/-- The length of `SWorkParam`, and of `SAutoWorkParam`. -/
@[simp] def sizeofWorkParam : ℕ := 32

/-- `WORK_FLAG`, the word `0x5a5a5a22` that marks a stored record, byte by byte. -/
def workFlag : List UInt8 := [0x22, 0x5a, 0x5a, 0x5a]

/-- The global `Version`: two bytes of hardware version and two of software version. -/
def version : List UInt8 := [0x03, 0x00, 0x07, 0x03]

namespace SDevice

/-- `g_device.Flag == WORK_FLAG`. -/
def Flagged (d : SDevice) : Prop :=
  ∀ i < 4, d.load (Offset.flag + i) = workFlag.getD i 0

instance (d : SDevice) : Decidable d.Flagged :=
  inferInstanceAs (Decidable (∀ i < 4, _))

/-- `g_device.Flag = WORK_FLAG`. -/
def setWorkFlag (d : SDevice) : SDevice :=
  d.copy Offset.flag (fun i => workFlag.getD i 0) 4

/-- The two bytes of software version of the record are overwritten by `Version`. -/
def setVersion (d : SDevice) : SDevice :=
  d.copy (Offset.getReaderVersion + 2) (fun i => version.getD (2 + i) 0) 2

/-- `g_device.workpara.ReaderWorkStatus`. -/
def readerWorkStatus (d : SDevice) : UInt8 := d.load Offset.readerWorkStatus

/-- `g_device.workpara.Address`. -/
def address (d : SDevice) : UInt8 := d.load Offset.address

/-- The working parameters, `g_device.workpara`. -/
def workpara (d : SDevice) : List UInt8 := (Mem.shift d.load Offset.workpara).take sizeofWorkParam

end SDevice

/-! ### The factory settings -/

/-- The working parameters that `defaultPara` writes, both as current and as factory ones. -/
def defaultWorkpara : List UInt8 :=
  [0x08, 25, 7, 59, 0x30, workAct, 1, 10, 4, 0, 1, 1, 192, 168, 0, 100, 0x07, 0xb1,
    255, 255, 255, 0, 192, 168, 0, 1, 1, 2, 3, 4, 5, 6]

/-- The automatic working parameters that `defaultPara` writes.  `MaxEPCATAtime = 1000`
stands in bytes 25 and 26. -/
def defaultAutoParam : List UInt8 :=
  [0, 1, 1, 2, 1, 1, 0, 3, 40, 200, 0, 0, 120, 0, 0, 1, 0, 192, 168, 0, 61, 0x13, 0x88,
    0, 0, 0xe8, 0x03, 0, 0, 0, 0, 0]

/-- The record that `defaultPara` leaves in `g_device`. -/
def defaultPara : SDevice :=
  let d := Block.zero 210
  let d := d.copy Offset.workpara (fun i => defaultWorkpara.getD i 0) 32
  let d := d.copy Offset.autoParam (fun i => defaultAutoParam.getD i 0) 32
  let d := d.copy Offset.getReaderVersion (fun i => version.getD i 0) 4
  let d := d.put Offset.freqSelect 1
  -- the record was just cleared, so the sum of `ReaderID` is zero and "1234567890" is set
  let d := d.copy Offset.readerID (fun i => [49, 50, 51, 52, 53, 54, 55, 56, 57, 48].getD i 0) 10
  let d := d.copy Offset.factoryWorkpara (fun i => defaultWorkpara.getD i 0) 32
  d.copy Offset.factoryAutoParam (fun i => defaultAutoParam.getD i 0) 32

/-! ### Software timers -/

/-- A software timer; `time` is a 32-bit count. -/
structure STimer where
  isStart : UInt8
  isOverflow : UInt8
  time : ℕ
  deriving DecidableEq, Repr

namespace STimer

/-- A cleared timer. -/
def cleared : STimer := ⟨0, 0, 0⟩

/-- `timerStart`. -/
def start (_ : STimer) (time : ℕ) : STimer := ⟨1, 0, time⟩

/-- `timerStop`. -/
def stop (t : STimer) : STimer := { t with isOverflow := 0, isStart := 0 }

/-- `time--`, on 32 bits. -/
def decrement (t : STimer) : STimer := { t with time := (t.time + (2 ^ 32 - 1)) % 2 ^ 32 }

/-- What one timer update of `Time_Update` does to a timer it finds not overflowed. -/
def count (t : STimer) : STimer :=
  if t.time = 1 then { t with isOverflow := 1 } else t.decrement

/-- One timer update of `Time_Update` for a timer whose `isStart` it tests. -/
def update (t : STimer) : STimer :=
  if t.isStart ≠ 0 ∧ t.isOverflow = 0 then t.count else t

/-- One timer update of `Time_Update` for `R2000.send_timer`, whose `isStart` it does not
test. -/
def updateUnguarded (t : STimer) : STimer :=
  if t.isOverflow = 0 then t.count else t

end STimer

end UhfReader
