import UhfReader.Judge

/-!
# Active mode

In active mode the main loop reads tags on its own.  `workACT` chooses an antenna and calls
`readCard`, which selects the antenna in the R2000 and takes an inventory or reads the TID of a
tag, and `sendDataOut` decides whether the tags collected are sent.

`AntennaCtrl` does not use `encodeR2000` and has a waiting loop of its own, in which frames of
other commands are dropped.
-/

open Memory

namespace UhfReader

/-! ### Choosing an antenna -/

/-- The frame that `AntennaCtrl` sends. -/
def antennaFrame (tmpAntenna : UInt8) : List UInt8 :=
  let head := [0xA0, 0x04, 0xFF, 0x74, SR2000TransData.antennaNumber tmpAntenna]
  head ++ [~~~ head.sum + 1]

/-- `AntennaCtrl` up to its waiting loop. -/
def sendAntenna (g : Globals) : Globals :=
  let frame := antennaFrame g.tmpAntenna
  let g := uart4Send (Mem.ofList frame fun _ => 0) 6 { g with r2000.setMark := 0 }
  { g with r2000.sendTimer := g.r2000.sendTimer.start r2000SedTimer }

/-- One round of the waiting loop of `AntennaCtrl`: the globals after it and, when the call
returns, its result. -/
def pollAntenna (g : Globals) : Globals × Option UInt8 :=
  if g.r2000.sendTimer.isOverflow ≠ 0 then ({ g with r2000 := .cleared }, some 0)
  else if g.r2000.setMark ≠ 0 then
    if g.r2000.frameCmd = 0x74 then
      (takeFrame g, some (if g.r2000.para 0 = commandSuccess then 1 else 0))
    else ({ g with r2000.setMark := 0 }, none)
  else (g, none)

/-- A waiting loop with the rounds `poll`, run over the events of one wait. -/
def waitLoop (poll : Globals → Globals × Option UInt8) :
    List Event → Globals → Option (UInt8 × Globals)
  | [], _ => none
  | .rx b :: es, g => waitLoop poll es (uart4IRQHandler g b)
  | .tick :: es, g => waitLoop poll es (timeUpdate g)
  | .poll :: es, g =>
    match poll g with
    | (g, some flag) => some (flag, g)
    | (g, none) => waitLoop poll es g

/-- The waiting loop of `encodeR2000` is one of these. -/
theorem waitR2000_eq_waitLoop (cmd : UInt8) (es : List Event) (g : Globals) :
  waitR2000 cmd es g = waitLoop (pollR2000 cmd) es g
  := by
  induction es generalizing g with
  | nil => rfl
  | cons e es ih =>
    cases e with
    | rx b => apply ih
    | tick => apply ih
    | poll =>
      simp only [waitR2000, waitLoop]
      obtain ⟨g', outcome⟩ := pollR2000 cmd g
      cases outcome with
      | none => apply ih
      | some flag => rfl

/-- A frame is sent with `send`, and the answer is waited for with the rounds `poll`. -/
def sendAndWait (send : Globals → Globals) (poll : Globals → Globals × Option UInt8) : M UInt8 :=
  fun g =>
    match (send g).traffic with
    | [] => none
    | es :: rest => waitLoop poll es ((send g).setTraffic rest)

/-- `encodeR2000` does so for the commands it knows. -/
theorem encodeR2000From_eq_sendAndWait (before : UInt8) {cmd : UInt8} (p : Mem)
    (hcmd : cmd ∈ knownCmds) :
  encodeR2000From before cmd p = sendAndWait (sendCmd cmd before p) (pollR2000 cmd)
  := by
  funext g
  unfold encodeR2000From sendAndWait
  rw [if_pos hcmd]
  cases (sendCmd cmd before p g).traffic with
  | nil => rfl
  | cons es rest => apply waitR2000_eq_waitLoop

/-- `AntennaCtrl` -/
def antennaCtrl : M UInt8 := do
  delayMs
  sendAndWait sendAntenna pollAntenna

/-! ### Reading tags -/

/-- `read_count++`, on 32 bits. -/
def Globals.countRead (g : Globals) : Globals :=
  { g with readCount := (g.readCount + 1) % 2 ^ 32 }

/-- `readCard6B`.  The frame of `0xB0` does not depend on the parameter buffer. -/
def readCard6B : M Unit := do
  modify Globals.readClock
  let flagReturn ← encodeR2000 0xB0 fun _ => 0
  if flagReturn ≠ 0xFF then modify Globals.countRead

/-- The tag filter of `g_device`, taken over as the mask.  `CMDMasklen` is a byte.  The stores of a
filter of 32 bits or more that come behind `CMDMaskData[31]`, where the linker has put
`g_paramTable` (`STMR2000.map`), are left out. -/
def Globals.loadMask (g : Globals) : Globals :=
  let filter := Mem.shift g.gDevice.load Offset.tagfilter
  { g with
    cmdMaskaddr := (filter 0).toNat * 256 + (filter 1).toNat
    cmdMasklen := filter 3
    cmdMaskData := g.cmdMaskData.copy 0 (Mem.shift g.gDevice.load Offset.tagMaskData)
      (filter 3).toNat
    antId := g.r2000.para 0 }

/-- `readCard6C`.  `CardPos` is reset when the answer to `0x80` has arrived. -/
def readCard6C : M Unit := do
  let g ← get
  let channel : Mem := fun _ => if g.gDevice.load Offset.maxReadCardNum < 20 then 255 else 1
  modify fun g => { g with tagR2000Cmd91Number := 0 }
  let flagReturn ← encodeR2000 0x80 channel
  if flagReturn = 0 then
    modify fun g => { g with cardPos := 0 }
    let g ← get
    if g.r2000.frameLen > 4 then
      modify fun g => { g with
        tagR2000Cmd80Number := (g.r2000.para 1).toNat * 256 + (g.r2000.para 2).toNat }
      let g ← get
      if g.tagR2000Cmd80Number > 0 then
        delayMs
        modify fun g => g.loadMask.readClock
        let _ ← encodeR2000 0x91 channel
        modify Globals.countRead

/-- The parameters with which `readCard` calls `EPC1G2_ListTagTID`. -/
def tidPara : Mem := Mem.ofList [0x02, 0x00, 0x06] fun _ => 0

/-- `EPC1G2_ListTagTID`.  Unlike `EPC1G2_ListTagID`, it leaves `CardPos` as it is. -/
def epc1g2ListTagTID (p : Mem) : M Unit := do
  modify fun g => { g with cmdMasklen := 0 }
  let flagReturn ← encodeR2000 0xC5 p
  let g ← get
  if flagReturn = 0 ∧ g.r2000.para 0 = commandSuccess then
    delayMs
    modify Globals.readClock
    let flagReturn ← encodeR2000 0xC1 p
    if flagReturn = 0 then modify Globals.countRead

/-- `readCard` -/
def readCard : M Unit := do
  let selected ← antennaCtrl
  if selected ≠ 0 then
    delayMs
    let g ← get
    if g.gDevice.load Offset.tagType = 1 then readCard6B
    else if g.gDevice.load Offset.tagType = 2 ∨ g.gDevice.load Offset.tagType = 4 then
      if g.gDevice.load Offset.cardSaveInTagPosition = 1 then epc1g2ListTagTID tidPara
      else readCard6C

/-! ### A cycle -/

/-- The lowest antenna of a mask. -/
def lowestAntenna (antennas : UInt8) : UInt8 :=
  (([1, 2, 4, 8, 16, 32, 64, 128] : List UInt8).find? fun i => antennas &&& i ≠ 0).getD 0

/-- The loop of `workACT`: the tags at the next antenna are read.  The result is
`switchAtenna`. -/
def readAntenna (switchAtenna : UInt8) : M UInt8 := do
  if switchAtenna ≠ 0 then
    let g ← get
    let i := lowestAntenna switchAtenna
    modify fun g => { g with tmpAntenna := switchAtenna &&& i }
    readCard
    modify fun g' => { g' with tmpAntenna := g.tmpAntenna }
    return switchAtenna &&& ~~~ i
  else return 0

/-- The antennas whose trigger inputs are active.  An input is active low when `TriggleType` is
not zero. -/
def triggeredAntennas (g : Globals) (pinTriggle1 : UInt8) : UInt8 :=
  let low : Bool := g.gDevice.load Offset.triggleType ≠ 0
  let first : UInt8 := if low = decide (g.pinTriggle = 0) then 0x05 else 0
  let second : UInt8 := if low = decide (pinTriggle1 = 0) then 0x0A else 0
  first ||| second

/-- The antennas of a new round, or none.  `timerIsOverflow` takes the overflow back. -/
def startRound (pinTriggle1 : UInt8) (g : Globals) : UInt8 × Globals :=
  if g.gDevice.load Offset.readTAGType = 0 then
    if g.readCardTimer.isOverflow ≠ 0 then
      (g.tmpAntenna, { g with
        readCardTimer := g.readCardTimer.start g.readCardTimeInterver.toNat })
    else (0, g)
  else (triggeredAntennas g pinTriggle1 &&& g.tmpAntenna, g)

/-- `workACT`, from and to the value of `switchAtenna`; `pinTriggle1` is the second trigger
input. -/
def workACT (pinTriggle1 switchAtenna : UInt8) : M UInt8 := do
  if switchAtenna ≠ 0 then readAntenna switchAtenna
  else
    let antennas ← modifyGet (startRound pinTriggle1)
    readAntenna antennas

/-- The tags are sent to the Wiegand outputs. -/
def SDevice.wiegand (d : SDevice) : Bool :=
  d.load Offset.cardOutModule = 3 ∨ d.load Offset.cardOutModule = 4

/-- `chk`, which tells whether `sendDataOut` has something to do, and the globals: `1` for tags to
judge, and `222` for a message without tags. -/
def checkOutput (g : Globals) : ℕ × Globals :=
  let chk := if g.cardPos > 0 ∧ g.readCount > 0 then 1 else 0
  if g.gDevice.load Offset.callPCType > 1 then (1, g)
  else if g.gDevice.load Offset.callPCEnable ≠ 0 then
    if g.gDevice.wiegand then (1, { g with readCount := 0 })
    else if g.outPutTimer.isOverflow ≠ 0 then
      (222, { g with outPutTimer.isOverflow := 0, cardPos := 1, readCount := 0 })
    else (chk, g)
  else (chk, g)

/-- The tags are judged and taken off `CardIndex`. -/
def judgeOutput (g : Globals) : ℕ × Globals :=
  let chk := (judgeTag g).1
  let g : Globals := { (judgeTag g).2 with cardPos := 0 }
  if chk = 0 ∧ g.gDevice.load Offset.callPCEnable ≠ 0 ∧ g.outPutTimer.isOverflow ≠ 0 then
    (222, { g with outPutTimer.isOverflow := 0, tagSaveCount := 1 })
  else (chk, g)

/-- `sendDataOut`; `output` sends the rows of `TagSaveBuf` in the form that `CardOutModule` asks
for. -/
def sendDataOut (output : ℕ → M Unit) : M Unit := do
  let g ← get
  let callPCType := g.gDevice.load Offset.callPCType
  modify fun g =>
    if g.gDevice.wiegand then { g with gDevice := g.gDevice.put Offset.callPCType 1 } else g
  let chk ← modifyGet checkOutput
  let chk ← if chk = 1 then modifyGet judgeOutput else pure chk
  if chk ≠ 0 then
    modify fun g => { g with outPutTimer := g.outPutTimer.start (outPutTime g.gDevice) }
    output chk
    modify fun g => { g with readCount := 0 }
  modify fun g => { g with gDevice := g.gDevice.put Offset.callPCType callPCType }

end UhfReader
