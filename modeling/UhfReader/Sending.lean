import UhfReader.ActiveCode
import UhfReader.Output
import UhfReader.TagRuns

/-!
# Sending the rows

The output of `sendDataOut`, row by row.  For each row that gives a record it ends in a wait for
the beeper, or in a delay.  The characters that are sent are left out.
-/

open Memory Interrupts

namespace UhfReader

/-- `while(beepFlag != 0);` -/
def waitBeep : M Unit := do
  let g ← get
  if g.beepFlag ≠ 0 then
    let _ ← sendAndWait id fun g => (g, if g.beepFlag = 0 then some 0 else none)

/-- `relayON` for the relay of an antenna.  A relay that is `busy`, still on from an earlier call,
is left as it is. -/
def relayON (busy : Bool) (antenna : UInt8) : M Unit := do
  if antenna = 1 ∨ antenna = 3 then
    if busy then delayMs else modify fun g => { g with relayOn := true }
  else if antenna = 2 ∨ antenna = 4 then
    if busy then delayMs else modify fun g => { g with relayOn1 := true }

/-- What `sendDataOut` does for `TagSaveBuf[i]`. -/
def sendRow (busy : Bool) (chk i : ℕ) : M Unit := do
  modify fun g => { g with beepFlag := 1 }
  let g ← get
  let row := g.tagSaveBuf i
  let antenna := row.load (tagIdLength + 6)
  if g.gDevice.wiegand then
    modify fun g => { g with antId := antenna }
    if (rowRecord chk row).isSome then delayMs
  else if (rowRecord chk row).isSome then
    if g.gDevice.load Offset.cardOutModule = 1 then
      relayON busy (antenna &&& 0x0F)
      -- `RS485Send` ends with a delay
      delayMs
    waitBeep

/-- What `sendDataOut` does for some of the rows; `busy` tells for which the relay is. -/
def sendRows (busy : ℕ → Bool) (chk : ℕ) : List ℕ → M Unit
  | [] => pure ()
  | i :: is => do
    sendRow (busy i) chk i
    sendRows busy chk is

/-- The tags are sent in some form. -/
def SDevice.sends (d : SDevice) : Prop := d.wiegand ∨ d.textOutput

instance (d : SDevice) : Decidable d.sends := inferInstanceAs (Decidable (_ ∨ _))

/-- The output of `sendDataOut`. -/
def outputRows (busy : ℕ → Bool) (chk : ℕ) : M Unit := do
  let g ← get
  if g.gDevice.sends then sendRows busy chk (List.range g.tagSaveCount)

namespace ActiveCode

def waitBeep : ActiveCode waitBeep :=
  .bind get fun _ =>
    .ite (.bind (sendAndWait (fun _ => rfl) fun g => ⟨g.r2000, rfl⟩) fun _ => .pure ())
      (.pure ())

def relayON (busy : Bool) (antenna : UInt8) : ActiveCode (relayON busy antenna) :=
  .ite (.ite delayMs (modify _))
    (.ite (.ite delayMs (modify _)) (.pure ()))

def sendRow (busy : Bool) (chk i : ℕ) : ActiveCode (sendRow busy chk i) :=
  .bind (modify _) fun _ =>
    .bind get fun _ =>
      .ite
        (.bind (modify _) fun _ => .ite delayMs (.pure ()))
        (.ite
          (.ite (.bind (relayON _ _) fun _ => .bind delayMs fun _ => waitBeep) waitBeep)
          (.pure ()))

def sendRows (busy : ℕ → Bool) (chk : ℕ) : (is : List ℕ) → ActiveCode (sendRows busy chk is)
  | [] => .pure ()
  | i :: is => .bind (sendRow (busy i) chk i) fun _ => sendRows busy chk is

def outputRows (busy : ℕ → Bool) (chk : ℕ) : ActiveCode (outputRows busy chk) :=
  .bind get fun _ => .ite (sendRows busy chk _) (.pure ())

end ActiveCode

/-- With this output, whatever the main loop does is a run of `TagTable`. -/
theorem main_run_outputRows (busy : ℕ → Bool) (e : Surroundings) {es : List MainEvent}
    {s : MainLoop} (h : Run.run (mainStep (outputRows busy)) es (.start e) = some s) :
  ∃ run n, Run.run tagStep run (.start e) = some ⟨s.toGlobals, n⟩
  := main_run (fun chk => traced_activeCode (.outputRows busy chk)) e h

end UhfReader
