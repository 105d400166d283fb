import UhfReader.Handlers
import UhfReader.ParamTable

/-!
# Start-up

`powerOn` is the state in which the main loop starts.  `main` calls `initPara` on zeroed
globals; what it does after that up to the loop concerns the network and serial drivers and
the self-test of the R2000, and leaves the parameters as they are.
-/

open Memory

namespace UhfReader

/-- What a reader finds when the power comes on: the flash, the clock chip, its input pin,
its serial number, and what the R2000 will do. -/
structure Surroundings where
  flash : Flash
  ds1302 : ℕ → UInt8
  pinTriggle : UInt8
  deviceSerial : Block 12
  traffic : List (List Event)

/-- A reader that is switched on for the first time: its flash is erased, so it starts with
the factory settings. -/
def Surroundings.blank : Surroundings :=
  { flash := fun _ => 0xFFFF, ds1302 := fun _ => 0, pinTriggle := 0
    deviceSerial := Block.zero 12, traffic := [] }

/-- The globals before `main`, all zero. -/
def Globals.reset (e : Surroundings) : Globals :=
  { gDevice := Block.zero 210, gParamTable := .empty, setFlag := 0
    cmdTmpBuf := Block.zero 255, cmdTmpLen := 0, cmd57ReadTagCount := 0
    sysReboot := 0, tmpAntenna := 0, beepFlag := 0, beepCountTimes := 0
    relayFlag := 0, relayCountTimes := 0, relayOn := false, relayOn1 := false
    selfCheckFailure := 0
    cardIndex := fun _ => Block.zero 39, cardPos := 0
    tagSaveBuf := fun _ => Block.zero 39, tagSaveCount := 0
    tagSendCount := 0, tagAllNumber := 0, tagR2000Cmd80Number := 0, tagR2000Cmd91Number := 0
    readCount := 0, cmdMaskaddr := 0, cmdMasklen := 0, cmdMaskData := Block.zero 31
    maskSel := 0, maskAddr6B := 0, mask6B := 0, maskData6B := Block.zero 8
    antId := 0, bakrssi := 0, readCardTimeInterver := 0
    readCardTimer := .cleared, outPutTimer := .cleared, sysTimer1 := 0
    r2000 := .cleared
    flash := e.flash, ds1302 := e.ds1302, pinTriggle := e.pinTriggle
    deviceSerial := e.deviceSerial, sent := [], traffic := e.traffic }

/-- The interval between two readings that `initPara` sets for `ReadTagInterval`. -/
def readCardInterval (readTagInterval : UInt8) : UInt8 :=
  match readTagInterval with
  | 0 => 1
  | 1 => 2
  | 2 => 3
  | 3 => 5
  | 4 => 10
  | _ => 3

/-- `initPara` up to the registration of the commands: the parameters are read. -/
def loadPara (g : Globals) : Globals :=
  { g with
    gDevice := (readPara g.flash).1
    flash := (readPara g.flash).2
    -- the self-check after a failed attempt to store the factory settings
    selfCheckFailure := if (readPara g.flash).1.Flagged then g.selfCheckFailure else 2
    cardIndex := fun _ => Block.zero 39
    readCardTimer := .cleared
    outPutTimer := .cleared }

/-- `initPara` after the registration of the commands: the outputs and timers are set. -/
def applyPara (g : Globals) : Globals :=
  let d := g.gDevice
  let relays := d.load Offset.autoParam ≠ 1
  let g := { g with
    relayOn := relays ∧ d.load Offset.relayStatus &&& 0x01 ≠ 0
    relayOn1 := relays ∧ d.load Offset.relayStatus &&& 0x02 ≠ 0
    readCardTimeInterver := readCardInterval (d.load (Offset.autoParam + 3)) }
  if d.load Offset.readerWorkStatus = workAct then
    { g with
      readCardTimer := g.readCardTimer.start g.readCardTimeInterver.toNat
      outPutTimer := g.outPutTimer.start (outPutTime d)
      tmpAntenna := d.load Offset.antenna }
  else g

/-- `initPara` -/
def initPara (g : Globals) : Globals := applyPara (registryParams (loadPara g))

/-- The state in which the main loop starts. -/
def powerOn (e : Surroundings) : Reader :=
  { initPara (Globals.reset e) with tagDataOrigin := .sourceFrom232 }

/-- The main loop starts with the registered table. -/
theorem powerOn_eq (e : Surroundings) :
  powerOn e
    = { applyPara { loadPara (Globals.reset e) with gParamTable := .ofItems registeredItems }
        with tagDataOrigin := .sourceFrom232 }
  := by
  unfold powerOn initPara
  rw [registryParams_eq (g := loadPara (Globals.reset e)) rfl]

/-- The outputs and timers that `initPara` sets are no parameters. -/
theorem applyPara_frame {β : Type} (f : Globals → β) (g : Globals)
    (h : ∀ relayOn relayOn1 interval timer timer' antenna,
      f { g with
        relayOn := relayOn, relayOn1 := relayOn1, readCardTimeInterver := interval
        readCardTimer := timer, outPutTimer := timer', tmpAntenna := antenna } = f g) :
  f (applyPara g) = f g
  := by
  unfold applyPara
  dsimp only
  split
  · exact h _ _ _ _ _ _
  · exact h _ _ _ g.readCardTimer g.outPutTimer g.tmpAntenna

/-- The table, the parameters, the flash and `setFlag` that the main loop starts with. -/
theorem powerOn_spec (e : Surroundings) :
  (powerOn e).gParamTable = .ofItems registeredItems
    ∧ (powerOn e).gDevice = (readPara e.flash).1
    ∧ (powerOn e).flash = (readPara e.flash).2
    ∧ (powerOn e).setFlag = 0
  := by
  rw [powerOn_eq]
  refine ⟨?_, ?_, ?_, ?_⟩
  · exact applyPara_frame Globals.gParamTable _ fun _ _ _ _ _ _ => rfl
  · exact applyPara_frame Globals.gDevice _ fun _ _ _ _ _ _ => rfl
  · exact applyPara_frame Globals.flash _ fun _ _ _ _ _ _ => rfl
  · exact applyPara_frame Globals.setFlag _ fun _ _ _ _ _ _ => rfl

/-- The table has all functions then. -/
theorem registered_powerOn (e : Surroundings) :
  Registered (powerOn e).gParamTable
  := by
  rw [(powerOn_spec e).1]
  exact registered_ofItems

end UhfReader
