import UhfReader.Lib.Interrupts
import UhfReader.TagTable

/-!
# The code of active mode

How `workACT` is made of acts, waits and delays.  Between interrupts it leaves `CardIndex` alone,
and `CardPos` too or sets it to `0`.
-/

open Memory Interrupts

namespace UhfReader

/-! ### Waits -/

/-- The waits and interrupts of the reader. -/
def radio : Machine Globals Event where
  next := fun g =>
    match g.traffic with
    | [] => none
    | es :: rest => some (es, g.setTraffic rest)
  handler := fun e =>
    match e with
    | .rx b => some fun g => uart4IRQHandler g b
    | .tick => some timeUpdate
    | .poll => none

/-- The waiting loops are those of the machine. -/
theorem waitLoop_eq_loop (poll : Globals → Globals × Option UInt8) (es : List Event) (g : Globals) :
  waitLoop poll es g = radio.loop poll es g
  := by
  induction es generalizing g with
  | nil => rfl
  | cons e es ih =>
    cases e with
    | rx b => exact ih (uart4IRQHandler g b)
    | tick => exact ih (timeUpdate g)
    | poll =>
      simp only [waitLoop, Machine.loop, radio]
      obtain ⟨g', outcome⟩ := poll g
      cases outcome with
      | some flag => rfl
      | none => exact ih g'

theorem sendAndWait_eq (send : Globals → Globals) (poll : Globals → Globals × Option UInt8) :
  (modify send >>= fun _ => radio.wait poll : M UInt8) = sendAndWait send poll
  := by
  funext g
  simp only [Stateful.bind_modify, Machine.wait, sendAndWait, radio]
  cases (send g).traffic with
  | nil => rfl
  | cons es rest => exact (waitLoop_eq_loop poll es _).symm

theorem delay_eq :
  radio.delay = delayMs
  := by
  funext g
  simp only [Machine.delay, delayMs, radio]
  cases g.traffic with
  | nil => rfl
  | cons es rest =>
    have hinterrupt : radio.interrupt = Globals.interrupt := by
      funext g e
      cases e with
      | rx b => rfl
      | tick => rfl
      | poll => rfl
    exact congrArg (fun f => some ((), es.foldl f (g.setTraffic rest))) hinterrupt

/-! ### Acts -/

/-- `CardIndex` is left alone, and `CardPos` too or it is set to `0`. -/
structure TableKept (g g' : Globals) : Prop where
  rows : g'.cardIndex = g.cardIndex
  pos : g'.cardPos = g.cardPos ∨ g'.cardPos = 0
  traffic : g'.traffic = g.traffic

/-- What the code between the interrupts keeps, unless it empties the table. -/
def Globals.table (g : Globals) : (ℕ → Row) × ℕ × List (List Event) :=
  (g.cardIndex, g.cardPos, g.traffic)

theorem TableKept.of_table {g g' : Globals} (h : g'.table = g.table) :
  TableKept g g'
  := by
  obtain ⟨hrows, h⟩ := Prod.mk.inj h
  obtain ⟨hpos, htraffic⟩ := Prod.mk.inj h
  exact ⟨hrows, .inl hpos, htraffic⟩

theorem sendCmd_table (cmd before : UInt8) (p : Mem) (g : Globals) :
  (sendCmd cmd before p g).table = g.table
  := by
  unfold sendCmd uart4Send
  dsimp only
  split
  · rfl
  · rfl

theorem sendAntenna_table (g : Globals) :
  (sendAntenna g).table = g.table
  := by
  unfold sendAntenna uart4Send
  dsimp only
  rfl

theorem pollAntenna_onlyLink :
  OnlyLink pollAntenna
  := by
  intro g
  unfold pollAntenna
  split
  · exact ⟨_, rfl⟩
  · split
    · split
      · exact ⟨_, rfl⟩
      · exact ⟨_, rfl⟩
    · exact ⟨g.r2000, rfl⟩

/-- A command that is not known is not sent. -/
theorem encodeR2000From_unknown {cmd : UInt8} (p : Mem) (hcmd : cmd ∉ knownCmds) :
  encodeR2000From 0 cmd p = modifyGet fun g =>
    (0xFF, { g with
      r2000 := ((g.r2000.store 0 0xA0).store 2 0xFF).store 3 (wireCmd cmd) })
  := by
  funext g
  exact if_neg hcmd

/-- How a piece of active mode is made. -/
abbrev ActiveCode {α : Type} (p : M α) := Code radio TableKept UInt8 p

namespace ActiveCode

/-- An update that leaves the table alone. -/
def modify (u : Globals → Globals)
    (h : ∀ g, TableKept g (u g) := by exact fun _ => .of_table rfl) :
    ActiveCode (modify u : M Unit) := .act (fun g => ((), u g)) h

def get : ActiveCode (get : M Globals) := .act (fun g => (g, g)) fun _ => .of_table rfl

def delayMs : ActiveCode delayMs := .congr delay_eq .delay

/-- A frame is sent and the answer is waited for. -/
def sendAndWait {send : Globals → Globals} {poll : Globals → Globals × Option UInt8}
    (hsend : ∀ g, (send g).table = g.table) (hpoll : OnlyLink poll) : ActiveCode (sendAndWait send poll) :=
  .congr (sendAndWait_eq send poll) <|
    .bind (modify send fun g => .of_table (hsend g)) fun _ =>
      .wait poll fun g => by
        obtain ⟨r, hr⟩ := hpoll g
        rw [hr]
        exact .of_table rfl

/-- A command to the R2000. -/
def encodeR2000 (cmd : UInt8) (p : Mem) : ActiveCode (encodeR2000 cmd p) :=
  if hcmd : cmd ∈ knownCmds then
    .congr (encodeR2000From_eq_sendAndWait 0 p hcmd).symm <|
      sendAndWait (sendCmd_table cmd 0 p) (pollR2000_eq cmd)
  else
    .congr (encodeR2000From_unknown p hcmd).symm <| .act _ fun _ => .of_table rfl

def antennaCtrl : ActiveCode antennaCtrl :=
  .bind delayMs fun _ => sendAndWait sendAntenna_table pollAntenna_onlyLink

/-! ### `workACT` -/

def readCard6B : ActiveCode readCard6B :=
  .bind (modify _) fun _ =>
    .bind (encodeR2000 _ _) fun _ => .ite (modify _) (.pure ())

/-- `readCard6C` empties the table when the answer to `0x80` has arrived. -/
def readCard6C : ActiveCode readCard6C :=
  .bind get fun _ =>
    .bind (modify _) fun _ =>
      .bind (encodeR2000 _ _) fun _ =>
        .ite
          (.bind (modify _ fun _ => ⟨rfl, .inr rfl, rfl⟩) fun _ =>
            .bind get fun _ =>
              .ite
                (.bind (modify _) fun _ =>
                  .bind get fun _ =>
                    .ite
                      (.bind delayMs fun _ =>
                        .bind (modify _) fun _ =>
                          .bind (encodeR2000 _ _) fun _ =>
                            modify _)
                      (.pure ()))
                (.pure ()))
          (.pure ())

def epc1g2ListTagTID (p : Mem) : ActiveCode (epc1g2ListTagTID p) :=
  .bind (modify _) fun _ =>
    .bind (encodeR2000 _ _) fun _ =>
      .bind get fun _ =>
        .ite
          (.bind delayMs fun _ =>
            .bind (modify _) fun _ =>
              .bind (encodeR2000 _ _) fun _ =>
                .ite (modify _) (.pure ()))
          (.pure ())

def readCard : ActiveCode readCard :=
  .bind antennaCtrl fun _ =>
    .ite
      (.bind delayMs fun _ =>
        .bind get fun _ =>
          .ite readCard6B (.ite (.ite (epc1g2ListTagTID _) readCard6C) (.pure ())))
      (.pure ())

def readAntenna (switchAtenna : UInt8) : ActiveCode (readAntenna switchAtenna) :=
  .ite
    (.bind get fun _ =>
      .bind (modify _) fun _ =>
        .bind readCard fun _ =>
          .bind (modify _) fun _ => .pure _)
    (.pure _)

theorem startRound_table (pinTriggle1 : UInt8) (g : Globals) :
  (startRound pinTriggle1 g).2.table = g.table
  := by
  unfold startRound
  split
  · split
    · rfl
    · rfl
  · rfl

def workACT (pinTriggle1 switchAtenna : UInt8) : ActiveCode (workACT pinTriggle1 switchAtenna) :=
  .ite (readAntenna _) <|
    .bind (.act (startRound pinTriggle1) fun g => .of_table (startRound_table pinTriggle1 g)) fun _ => readAntenna _

end ActiveCode

end UhfReader
