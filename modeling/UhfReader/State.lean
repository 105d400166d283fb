import UhfReader.Device

/-!
# The state of the reader

`Globals` holds the global variables of the firmware that the command handlers, the R2000
driver and the interrupt handlers share, together with the flash memory, the clock chip
and the input pin they read.  `Reader` adds the global `TagDataOrigin`, which the handlers
use for one thing only: to find the parameters of the request in the receive buffer.

The R2000 module and the system tick are the environment.  `traffic` is what they do from
now on: one list of events for each of the waits the firmware makes.
-/

open Memory

namespace UhfReader

/-! ### The R2000 link -/

/-- `SR2000_TRANS_DATA`, the packed record of the serial link to the R2000 module.  Its
receive buffer is also where frames to be sent are built. -/
@[ext]
structure SR2000TransData where
  setMark : UInt8
  /-- `rec_buf.buf` -/
  buf : Block 255
  /-- `rec_buf.index`, the place of the next byte received -/
  index : ℕ
  /-- `rec_buf.len` -/
  len : ℕ
  localTimer : STimer
  sendTimer : STimer

/-- The 32-bit number `v` with its byte `k` (the lowest is byte 0) replaced. -/
def setByte (v k : ℕ) (b : UInt8) : ℕ :=
  v - v / 256 ^ k % 256 * 256 ^ k + b.toNat * 256 ^ k

/-- The byte `k` of the number `v`. -/
def getByte (v k : ℕ) : UInt8 := UInt8.ofNat (v / 256 ^ k % 256)

namespace SR2000TransData

/-- `memset(&R2000, 0, sizeof(R2000))`. -/
def cleared : SR2000TransData :=
  { setMark := 0, buf := Block.zero 255, index := 0, len := 0,
    localTimer := .cleared, sendTimer := .cleared }

/-- `R2000.rec_buf.buf[i] = b`.  The record is packed: a store past the 255 bytes of the
buffer hits `index`, `len` and the timers, in this order. -/
def store (r : SR2000TransData) (i : ℕ) (b : UInt8) : SR2000TransData :=
  if i < 255 then { r with buf := r.buf.put i b }
  else if i < 259 then { r with index := setByte r.index (i - 255) b }
  else if i < 263 then { r with len := setByte r.len (i - 259) b }
  else if i = 263 then { r with localTimer.isStart := b }
  else if i = 264 then { r with localTimer.isOverflow := b }
  else if i < 269 then { r with localTimer.time := setByte r.localTimer.time (i - 265) b }
  else if i = 269 then { r with sendTimer.isStart := b }
  else if i = 270 then { r with sendTimer.isOverflow := b }
  else if i < 275 then { r with sendTimer.time := setByte r.sendTimer.time (i - 271) b }
  else r

/-- `R2000.rec_buf.buf[i]`; past the 255 bytes of the buffer the members after it are read. -/
def load (r : SR2000TransData) : Mem := fun i =>
  if i < 255 then r.buf.load i
  else if i < 259 then getByte r.index (i - 255)
  else if i < 263 then getByte r.len (i - 259)
  else if i = 263 then r.localTimer.isStart
  else if i = 264 then r.localTimer.isOverflow
  else if i < 269 then getByte r.localTimer.time (i - 265)
  else if i = 269 then r.sendTimer.isStart
  else if i = 270 then r.sendTimer.isOverflow
  else if i < 275 then getByte r.sendTimer.time (i - 271)
  else 0

/-- `R2000.rec_buf.buf[i]` for an index that may be negative: `set_mark` stands right
before the buffer, and what stands before the record is read as zero. -/
def loadInt (r : SR2000TransData) (i : ℤ) : UInt8 :=
  if 0 ≤ i then r.load i.toNat else if i = -1 then r.setMark else 0

/-- `memcpy(&R2000.rec_buf.buf[off], src, n)`. -/
def memcpy (r : SR2000TransData) (off : ℕ) (src : Mem) : ℕ → SR2000TransData
  | 0 => r
  | n + 1 => (r.memcpy off src n).store (off + n) (src n)

/-- The length byte of the frame in the buffer, `cmdRstr->len`. -/
def frameLen (r : SR2000TransData) : UInt8 := r.load 1

/-- The command byte of the frame in the buffer, `cmdRstr->cmd`. -/
def frameCmd (r : SR2000TransData) : UInt8 := r.load 3

/-- The parameters of the frame in the buffer, `cmdRstr->para`. -/
def para (r : SR2000TransData) : Mem := r.load.shift 4

end SR2000TransData

/-- What can happen while the firmware waits: a byte of the R2000 arrives at
`UART4_IRQHandler`, `SysTick_Handler` calls `Time_Update`, or the waiting loop goes round
once. -/
inductive Event where
  | rx (b : UInt8)
  | tick
  | poll
  deriving DecidableEq, Repr

/-! ### The parameter table -/

/-- What the `value` of a table entry points to. -/
inductive ValuePtr where
  /-- a member of `g_device`, by its offset -/
  | device (off : ℕ)
  | tmpAntenna
  | sysReboot
  | cmdTmpBuf
  deriving DecidableEq, Repr

/-- The functions that the parameter table refers to. -/
inductive Handler where
  | setBaudRate | setRelay | setOutputPower | setFrequency | setFrequency1 | readParam
  | writeRadioDeep | readRadioDeep | writeParam | setAntenna | setReaderPara | readReaderPara
  | reboot | setReaderWorkType | clearTagListMem | setReaderTime | getReaderTime | setAutoPara
  | getAutoPara | setTagFilter | readR2000vertion | setReaderNetwork | setReaderMAC
  | getReaderRevStatus | setReaderOutStatus | getReaderOutStatus | immediatelyNotify
  | getTagRecord | updateProgrram
  | epc1g2ListRSSIMaskTag | epc1g2GetRSSIIDList | epc1g2Accessmatch | epc1g2ListTagID
  | epc1g2ListMaskTagID | epc1g2GetIDList | epc1g2ReadWordBlock | epc1g2WriteWordBlock
  | epc1g2WriteSetBlock | eraseTagData | destroyTag | epc1g2WriteEPC | dataLocking
  | epc1g2Changeeas | epc1g2EasAlarm | epc1g2ReadProtect | epc1g2RSTReadProtect
  | setUserDataProtect | readEPCAndData
  | detectTagNum | readLabelID | listIDReport | listSelectedID | readByteBlock | writeByteBlock
  | writeProtect | readWriteProtect | writeAByte
  deriving DecidableEq, Repr

/-- An entry of the parameter table, `SParamItem`.  `NULL` pointers are `none`. -/
@[ext]
structure SParamItem where
  value : Option ValuePtr
  flag : UInt8
  length : UInt8
  function : Option Handler
  deriving DecidableEq, Repr

/-- `Count_ParamItem_Max`, the number of entries of the parameter table. -/
@[simp] def countParamItemMax : ℕ := 70

/-- The parameter table `SParamTable` without its member `setFlag`.  Entry `i` serves the
command `tableIndex i`, and is free when that is `0`. -/
@[ext]
structure SParamTable where
  table : ℕ → SParamItem
  tableIndex : ℕ → ℕ

/-! ### The globals -/

/-- A row of a tag table: the length of the identifier in words, the identifier, the time
it was first and last seen, the antenna and the signal strength. -/
abbrev Row := Block 39

/-- The global variables of the firmware, with the chips it reads. -/
structure Globals where
  gDevice : SDevice
  gParamTable : SParamTable
  /-- `g_paramTable.setFlag` -/
  setFlag : ℕ
  cmdTmpBuf : Block 255
  cmdTmpLen : UInt8
  cmd57ReadTagCount : UInt8
  sysReboot : UInt8
  tmpAntenna : UInt8
  beepFlag : UInt8
  beepCountTimes : UInt8
  relayFlag : UInt8
  relayCountTimes : ℕ
  /-- the two relay outputs -/
  relayOn : Bool
  relayOn1 : Bool
  selfCheckFailure : ℕ
  cardIndex : ℕ → Row
  cardPos : ℕ
  tagSaveBuf : ℕ → Row
  tagSaveCount : ℕ
  tagSendCount : UInt8
  tagAllNumber : ℕ
  tagR2000Cmd80Number : ℕ
  tagR2000Cmd91Number : ℕ
  readCount : ℕ
  cmdMaskaddr : ℕ
  cmdMasklen : UInt8
  cmdMaskData : Block 31
  maskSel : UInt8
  maskAddr6B : UInt8
  mask6B : UInt8
  maskData6B : Block 8
  antId : UInt8
  bakrssi : ℕ
  readCardTimeInterver : UInt8
  readCardTimer : STimer
  outPutTimer : STimer
  sysTimer1 : ℕ
  r2000 : SR2000TransData
  /-- the flash memory, one half-word for each even address from `0x08000000` on -/
  flash : ℕ → UInt16
  /-- the registers of the DS1302 clock chip, by their write address -/
  ds1302 : ℕ → UInt8
  /-- the input that `GetPinTriggle` reads -/
  pinTriggle : UInt8
  /-- the serial number that `ReadID` reads at `0x1FFFF7E8` -/
  deviceSerial : Block 12
  /-- the frames sent to the R2000 so far, the latest last -/
  sent : List (List UInt8)
  /-- what the R2000 and the system tick do during the waits to come -/
  traffic : List (List Event)

/-- The part of the globals that requests are there to change and that is kept over a
restart, with the table that describes it. -/
@[ext]
structure Settings where
  gDevice : SDevice
  gParamTable : SParamTable
  setFlag : ℕ
  flash : ℕ → UInt16

/-- The settings among the globals. -/
def Globals.settings (g : Globals) : Settings :=
  { gDevice := g.gDevice, gParamTable := g.gParamTable, setFlag := g.setFlag, flash := g.flash }

/-- The settings and the length of the reply, which the R2000 driver and the interrupts leave
alone. -/
def Globals.undriven (g : Globals) : Settings × UInt8 := (g.settings, g.cmdTmpLen)

/-- The state of the reader between two steps of its main loop. -/
structure Reader extends Globals where
  tagDataOrigin : CmdOrigin

/-- A computation over the globals.  It yields `none` when it does not return: the wait it
is in is not left by the events of its `traffic`. -/
abbrev M := StateT Globals Option

end UhfReader
