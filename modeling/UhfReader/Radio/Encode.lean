import UhfReader.Radio

/-!
# The R2000 driver: commands

`encodeR2000` builds a command frame in `R2000.rec_buf.buf`, sends it and waits for the
answer.  The wait is a run over the events of the next list of `traffic`: bytes received,
system ticks, and rounds of the waiting loop itself.  The events may come in any order; a
list that ends before the loop is left stands for a call that has not returned.
-/

open Memory

namespace UhfReader

/-- `SetChecksum` -/
def setChecksum (buf : Mem) (length : ℕ) : UInt8 := ~~~(byteSum buf length) + 1

/-! ### Building frames -/

namespace SR2000TransData

/-- The bytes of a list stored in the buffer from `off` on. -/
def storeList (r : SR2000TransData) (off : ℕ) : List UInt8 → SR2000TransData
  | [] => r
  | b :: bs => (r.store off b).storeList (off + 1) bs

/-- The frame of command `0x82`, which writes `n` words.  `before` is the byte that stands
before the parameters in the request: `buffer[len - 2]` is that byte when `len` has
wrapped to 1.  In the EPC bank the PC word is written along, with the new length. -/
def buildWrite (r : SR2000TransData) (before : UInt8) (p : Mem) : SR2000TransData :=
  let len := (p 0 * 2 + 3).toNat
  let n := p len
  let bank := if len = 1 then before else p (len - 2)
  let r := r.store 1 (10 + n * 2)
  let r := r.storeList 4 ((List.range 4).map fun k => p (len + n.toNat * 2 + 1 + k))
  let r := r.store 8 bank
  if bank = 0x01 then
    let r := r.store 1 (10 + n * 2 + 2)
    let r := r.storeList 9 [1, n + 1, n * 8, 0]
    r.memcpy 13 (p.shift (len + 1)) (n.toNat * 2)
  else
    let r := r.storeList 9 [p (len - 1), n]
    r.memcpy 11 (p.shift (len + 1)) (n.toNat * 2)

/-- The lock action that command `0x83` sends for the action byte of the request. -/
def lockAction (b : UInt8) : UInt8 :=
  if b = 0 then 0 else if b = 1 then 2 else if b = 2 then 1 else if b = 3 then 3
  else if b = 4 then 0 else if b = 5 then 2 else if b = 6 then 1 else if b = 7 then 3
  else b

/-- The antenna number that command `0x74` sends for an antenna mask. -/
def antennaNumber (b : UInt8) : UInt8 :=
  if b = 1 then 0 else if b = 2 then 1 else if b = 4 then 2 else if b = 8 then 3 else 0

/-- The frame of command `0x78`, for the frequency region `p[0]`.  Other regions leave the
buffer as it is. -/
def buildFrequency (r : SR2000TransData) (p : Mem) : SR2000TransData :=
  if p 0 = 1 ∨ p 0 = 2 ∨ p 0 = 3 then (r.store 1 0x06).storeList 4 [p 0, p 1, p 2]
  else if p 0 = 4 then (r.store 1 0x09).storeList 4 [p 0, p 1, p 2, p 3, p 4, p 5]
  else r

/-- The frame of the fast inventory `0x8A`, with the antennas of the mask. -/
def buildFastInventory (r : SR2000TransData) (antennas : UInt8) : SR2000TransData :=
  let slot (i : UInt8) : List UInt8 := [if antennas &&& (1 <<< i) ≠ 0 then i else 100, 1]
  (r.store 1 0x0D).storeList 4 (slot 0 ++ slot 1 ++ slot 2 ++ slot 3 ++ [0, 1])

/-- The frame of an ISO18000-6B command: the identifier and the bytes after it. -/
def build6B (r : SR2000TransData) (len : UInt8) (p : Mem) (n : ℕ) : SR2000TransData :=
  (r.store 1 len).memcpy 4 p n

end SR2000TransData

/-- The code that stands in the frame for a command; `0xC5`, `0xC2` and `0xC1` are second
forms of `0x85`, `0x82` and `0x81`. -/
def wireCmd (cmd : UInt8) : UInt8 :=
  if cmd = 0xC5 then 0x85 else if cmd = 0xC2 then 0x82 else if cmd = 0xC1 then 0x81 else cmd

/-- The commands that `encodeR2000` has a case for. -/
def knownCmds : List UInt8 :=
  [0x8A, 0x72, 0x74, 0x76, 0x78, 0x80, 0x81, 0x82, 0x83, 0x84, 0x85, 0x86, 0xC5, 0xC2,
    0xC1, 0x91, 0xB0, 0xB1, 0xB2, 0xB3, 0xB4, 0xB5]

/-- The `switch` of `encodeR2000`, on the link. -/
@[simp]
def buildFrame (cmd before : UInt8) (p : Mem) (antennas : UInt8) (r : SR2000TransData) :
    SR2000TransData :=
  match cmd with
  | 0x8A => r.buildFastInventory antennas
  | 0x72 => r.store 1 0x03
  | 0x74 => (r.store 1 0x04).store 4 (SR2000TransData.antennaNumber (p 0))
  | 0x76 => (r.store 1 0x04).store 4 (p 0)
  | 0x78 => r.buildFrequency p
  | 0x80 => (r.store 1 0x04).store 4 (p 0)
  | 0x81 =>
    let len := (p 0 * 2 + 1).toNat
    (r.store 1 (0x06 + 4)).storeList 4 ((List.range 7).map fun k => p (len + k))
  | 0x82 => r.buildWrite before p
  | 0x83 =>
    let len := (p 0 * 2 + 1).toNat
    let r := (r.store 1 9).storeList 4 ((List.range 4).map fun k => p (len + 2 + k))
    (r.store 8 (5 - p len)).store 9 (SR2000TransData.lockAction (p (len + 1)))
  | 0x84 =>
    let len := (p 0 * 2 + 1).toNat
    (r.store 1 0x07).storeList 4 ((List.range 4).map fun k => p (len + k))
  | 0x85 =>
    let len := p 0 * 2
    ((r.store 1 (5 + len)).storeList 4 [0, len]).memcpy 6 (p.shift 1) len.toNat
  | 0x86 => r.store 1 3
  | 0xC5 => (r.store 1 4).store 4 1
  | 0xC2 =>
    let len := p 0 * 2
    let r := r.store 1 (10 + len + 2)
    let r := r.storeList 4 ((List.range 4).map fun k => p (len.toNat + 1 + k))
    (r.storeList 8 [1, 1, p 0 + 1, p 0 * 8, 0]).memcpy 13 (p.shift 1) len.toNat
  | 0xC1 => (r.store 1 (0x06 + 4)).storeList 4 [p 0, p 1, p 2, 0, 0, 0, 0]
  | 0x91 => r.store 1 0x03
  | 0xB0 => r.store 1 0x03
  | 0xB1 => r.build6B 0x0D p 10
  | 0xB2 => (r.build6B (0x0D + p 9) p 10).memcpy 14 (p.shift 10) (p 9).toNat
  | 0xB3 => r.build6B 0x0C p 9
  | 0xB4 => r.build6B 0x0C p 9
  | 0xB5 => r.build6B 0x0C p 9
  | _ => r

/-- `UART4Send`, which sends nothing when `ucCount` is `BUF_LEN` or more. -/
def uart4Send (buf : Mem) (ucCount : ℕ) (g : Globals) : Globals :=
  if ucCount ≥ bufLen then g else { g with sent := g.sent ++ [buf.take ucCount] }

/-- The start value of `R2000.send_timer` for a command. -/
def sendTime (cmd : UInt8) : ℕ :=
  if cmd = 0x91 ∨ cmd = 0xB0 ∨ cmd = 0x80 then r2000SedTimer + 800 else r2000SedTimer

/-- `encodeR2000` up to its waiting loop: the frame is built, closed with its checksum and
sent, and the timer is started. -/
def sendCmd (cmd before : UInt8) (p : Mem) (g : Globals) : Globals :=
  let r := buildFrame cmd before p g.tmpAntenna
    (((g.r2000.store 0 0xA0).store 2 0xFF).store 3 (wireCmd cmd))
  -- `case 0x78` also records the region
  let gDevice := if cmd = 0x78 then g.gDevice.put Offset.freqSelect (p 0) else g.gDevice
  let len := (r.load 1 + 1).toNat
  let r := { r.store len (setChecksum r.load len) with setMark := 0 }
  let g := uart4Send r.load (len + 1) { g with gDevice := gDevice, r2000 := r }
  { g with r2000.sendTimer := g.r2000.sendTimer.start (sendTime cmd) }

/-! ### The waiting loop -/

/-- `encodeR2000` after its waiting loop has seen the timer run out.  `timerIsOverflow`
clears `isOverflow`, and `timerStop` does so again. -/
def timeoutR2000 (cmd : UInt8) (g : Globals) : Globals × UInt8 :=
  let stopped := { g with r2000.sendTimer := g.r2000.sendTimer.stop }
  if (cmd = 0x91 ∨ cmd = 0xB0) ∧ g.cardPos > 0 then (stopped, 0)
  else if cmd = 0x8A then (stopped, 0)
  else ({ g with r2000 := .cleared }, 0xFF)

/-- The frame at hand is taken and the timer is stopped. -/
def takeFrame (g : Globals) : Globals :=
  { g with r2000.setMark := 0, r2000.sendTimer := g.r2000.sendTimer.stop }

/-- The frame at hand is taken and the timer is started again. -/
def awaitFrame (time : ℕ) (g : Globals) : Globals :=
  { g with r2000.setMark := 0, r2000.sendTimer := g.r2000.sendTimer.start time }

/-- One round of the waiting loop of `encodeR2000`: the globals after it and, when the call
returns, its result. -/
def pollR2000 (cmd : UInt8) (g : Globals) : Globals × Option UInt8 :=
  if g.r2000.sendTimer.isOverflow ≠ 0 then
    ((timeoutR2000 cmd g).1, some (timeoutR2000 cmd g).2)
  else if g.r2000.setMark ≠ 0 then
    if cmd = 0x91 then
      if g.tagR2000Cmd91Number ≥ g.tagR2000Cmd80Number then (takeFrame g, some 0)
      else (awaitFrame (r2000SedTimer + 800) g, none)
    else if cmd = 0xB0 then
      if g.tagR2000Cmd91Number ≥ g.tagR2000Cmd80Number ∨ g.tagR2000Cmd80Number = 0 then
        (takeFrame g, some (if g.tagR2000Cmd80Number = 0 then 1 else 0))
      else (awaitFrame (r2000SedTimer + 800) g, none)
    else if cmd = 0x8A then
      if g.tagR2000Cmd91Number ≠ 0 then (takeFrame g, some 0)
      else (awaitFrame r2000SedTimer g, none)
    else (takeFrame g, some 0)
  else (g, none)

/-- The waiting loop of `encodeR2000`, run over the events of one wait. -/
def waitR2000 (cmd : UInt8) : List Event → Globals → Option (UInt8 × Globals)
  | [], _ => none
  | .rx b :: es, g => waitR2000 cmd es (uart4IRQHandler g b)
  | .tick :: es, g => waitR2000 cmd es (timeUpdate g)
  | .poll :: es, g =>
    match pollR2000 cmd g with
    | (g, some flag) => some (flag, g)
    | (g, none) => waitR2000 cmd es g

/-- What the R2000 and the system tick do from now on replaced. -/
def Globals.setTraffic (g : Globals) (traffic : List (List Event)) : Globals :=
  { g with traffic := traffic }

/-- `encodeR2000`, with the byte that stands before its parameter buffer. -/
def encodeR2000From (before cmd : UInt8) (p : Mem) : M UInt8 := fun g =>
  if cmd ∈ knownCmds then
    match (sendCmd cmd before p g).traffic with
    | [] => none
    | es :: rest => waitR2000 cmd es ((sendCmd cmd before p g).setTraffic rest)
  else
    let r := ((g.r2000.store 0 0xA0).store 2 0xFF).store 3 (wireCmd cmd)
    some (0xFF, { g with r2000 := r })

/-- `encodeR2000` -/
def encodeR2000 (cmd : UInt8) (p : Mem) : M UInt8 := encodeR2000From 0 cmd p

/-- What an interrupt does while the firmware is not polling. -/
def Globals.interrupt (g : Globals) : Event → Globals
  | .rx b => uart4IRQHandler g b
  | .tick => timeUpdate g
  | .poll => g

/-- `DelayMs`: interrupts go on while the firmware does nothing. -/
def delayMs : M Unit := fun g =>
  match g.traffic with
  | [] => some ((), g)
  | es :: rest => some ((), es.foldl Globals.interrupt (g.setTraffic rest))

/-! ### What a command to the R2000 can do -/

theorem timeoutR2000_link (cmd : UInt8) (g : Globals) :
  ∃ r, (timeoutR2000 cmd g).1 = { g with r2000 := r }
  := by
  unfold timeoutR2000
  dsimp only
  repeat' split
  all_goals exact ⟨_, rfl⟩

/-- A round of the waiting loop returns because the timer has run out, finds nothing, takes a
frame and goes on, or takes a frame and returns. -/
theorem pollR2000_cases (cmd : UInt8) (g : Globals) :
  (g.r2000.sendTimer.isOverflow ≠ 0
      ∧ ∃ r flag, pollR2000 cmd g = ({ g with r2000 := r }, some flag))
    ∨ (g.r2000.sendTimer.isOverflow = 0 ∧ g.r2000.setMark = 0 ∧ pollR2000 cmd g = (g, none))
    ∨ (g.r2000.sendTimer.isOverflow = 0 ∧ g.r2000.setMark ≠ 0
      ∧ ∃ time, 1 ≤ time ∧ time ≤ 1000 ∧ pollR2000 cmd g = (awaitFrame time g, none))
    ∨ (g.r2000.sendTimer.isOverflow = 0 ∧ g.r2000.setMark ≠ 0
      ∧ ∃ flag, pollR2000 cmd g = (takeFrame g, some flag))
  := by
  generalize hpoll : pollR2000 cmd g = outcome
  unfold pollR2000 at hpoll
  split at hpoll
  · rename_i hover
    obtain ⟨r, hr⟩ := timeoutR2000_link cmd g
    rw [hr] at hpoll
    exact .inl ⟨hover, r, _, hpoll.symm⟩
  · rename_i hover
    have hzero := not_not.mp hover
    split at hpoll
    · rename_i hmark
      split at hpoll
      · split at hpoll
        · exact .inr (.inr (.inr ⟨hzero, hmark, _, hpoll.symm⟩))
        · exact .inr (.inr (.inl ⟨hzero, hmark, _, by decide, by decide, hpoll.symm⟩))
      · split at hpoll
        · split at hpoll
          · exact .inr (.inr (.inr ⟨hzero, hmark, _, hpoll.symm⟩))
          · exact .inr (.inr (.inl ⟨hzero, hmark, _, by decide, by decide, hpoll.symm⟩))
        · split at hpoll
          · split at hpoll
            · exact .inr (.inr (.inr ⟨hzero, hmark, _, hpoll.symm⟩))
            · exact .inr (.inr (.inl ⟨hzero, hmark, _, by decide, by decide, hpoll.symm⟩))
          · exact .inr (.inr (.inr ⟨hzero, hmark, _, hpoll.symm⟩))
    · rename_i hmark
      exact .inr (.inl ⟨hzero, not_not.mp hmark, hpoll.symm⟩)

theorem pollR2000_undriven (cmd : UInt8) (g : Globals) :
  (pollR2000 cmd g).1.undriven = g.undriven
  := by
  obtain ⟨-, r, flag, h⟩ | ⟨-, -, h⟩ | ⟨-, -, time, -, -, h⟩ | ⟨-, -, flag, h⟩ :=
    pollR2000_cases cmd g
  · exact congrArg (fun x => x.1.undriven) h
  · exact congrArg (fun x => x.1.undriven) h
  · exact congrArg (fun x => x.1.undriven) h
  · exact congrArg (fun x => x.1.undriven) h

/-- What neither interrupts nor the rounds of the waiting loop change, waiting does not change. -/
theorem waitR2000_keeps {γ : Type} {f : Globals → γ} {cmd flag : UInt8} {es : List Event}
    {g g' : Globals} (hrx : ∀ g b, f (uart4IRQHandler g b) = f g)
    (htick : ∀ g, f (timeUpdate g) = f g) (hpoll : ∀ g, f (pollR2000 cmd g).1 = f g)
    (h : waitR2000 cmd es g = some (flag, g')) :
  f g' = f g
  := by
  induction es generalizing g with
  | nil => cases h
  | cons e es ih =>
    cases e with
    | rx b => exact (ih h).trans (hrx g b)
    | tick => exact (ih h).trans (htick g)
    | poll =>
      have hround := hpoll g
      simp only [waitR2000] at h
      split at h
      · rename_i heq
        simp only [Option.some.injEq, Prod.mk.injEq] at h
        rw [heq] at hround
        rw [← h.2]
        exact hround
      · rename_i heq
        rw [heq] at hround
        exact (ih h).trans hround

/-- Waiting leaves the settings and the length of the reply alone. -/
theorem waitR2000_undriven {cmd flag : UInt8} {es : List Event} {g g' : Globals}
    (h : waitR2000 cmd es g = some (flag, g')) :
  g'.undriven = g.undriven
  := waitR2000_keeps uart4IRQHandler_undriven timeUpdate_undriven (pollR2000_undriven cmd) h

/-- Sending a command records the region of command `0x78`, and touches no other settings. -/
theorem sendCmd_undriven (cmd before : UInt8) (p : Mem) (g : Globals) :
  (sendCmd cmd before p g).undriven
    = ({ g.settings with
          gDevice := if cmd = 0x78 then g.gDevice.put Offset.freqSelect (p 0) else g.gDevice },
        g.cmdTmpLen)
  := by
  unfold sendCmd uart4Send
  dsimp only
  split
  · rfl
  · rfl

theorem setTraffic_undriven (g : Globals) (traffic : List (List Event)) :
  (g.setTraffic traffic).undriven = g.undriven
  := rfl

/-- The settings and the length of the reply after a command are those after it was sent. -/
theorem encodeR2000From_undriven_sent {before cmd flag : UInt8} {p : Mem} {g g' : Globals}
    (hknown : cmd ∈ knownCmds) (h : encodeR2000From before cmd p g = some (flag, g')) :
  g'.undriven = (sendCmd cmd before p g).undriven
  := by
  unfold encodeR2000From at h
  rw [if_pos hknown] at h
  split at h
  · cases h
  · have hwait := waitR2000_undriven h
    rwa [setTraffic_undriven] at hwait

/-- A command to the R2000 other than `0x78` leaves the settings and the length of the reply
alone. -/
theorem encodeR2000From_undriven {before cmd flag : UInt8} {p : Mem} {g g' : Globals}
    (hcmd : cmd ≠ 0x78) (h : encodeR2000From before cmd p g = some (flag, g')) :
  g'.undriven = g.undriven
  := by
  by_cases hknown : cmd ∈ knownCmds
  · have hsend := sendCmd_undriven cmd before p g
    rw [if_neg hcmd] at hsend
    exact (encodeR2000From_undriven_sent hknown h).trans hsend
  · unfold encodeR2000From at h
    rw [if_neg hknown] at h
    simp only [Option.some.injEq, Prod.mk.injEq] at h
    rw [← h.2]
    rfl

/-- What interrupts do not change, `DelayMs` does not change. -/
theorem delayMs_keeps {γ : Type} {f : Globals → γ} {g g' : Globals}
    (hrx : ∀ g b, f (uart4IRQHandler g b) = f g) (htick : ∀ g, f (timeUpdate g) = f g)
    (htraffic : ∀ g traffic, f (Globals.setTraffic g traffic) = f g)
    (h : delayMs g = some ((), g')) :
  f g' = f g
  := by
  have hfold : ∀ (es : List Event) (g : Globals), f (es.foldl Globals.interrupt g) = f g := by
    intro es
    induction es with
    | nil =>
      intro g
      rfl
    | cons e es ih =>
      intro g
      rw [List.foldl_cons, ih]
      cases e with
      | rx b => exact hrx g b
      | tick => exact htick g
      | poll => rfl
  unfold delayMs at h
  split at h
  · cases h
    rfl
  · rename_i es rest _
    simp only [Option.some.injEq, Prod.mk.injEq, true_and] at h
    rw [← h, hfold, htraffic]

theorem delayMs_undriven {g g' : Globals} (h : delayMs g = some ((), g')) :
  g'.undriven = g.undriven
  := delayMs_keeps uart4IRQHandler_undriven timeUpdate_undriven setTraffic_undriven h

/-! ### The frames sent -/

/-- A received byte sends nothing. -/
theorem uart4IRQHandler_sent (g : Globals) (b : UInt8) :
  (uart4IRQHandler g b).sent = g.sent
  := by
  unfold uart4IRQHandler
  dsimp only
  split
  · obtain ⟨-, h⟩ | ⟨-, _, _, _, _, _, _, h⟩ :=
      decodeR2000_cases { g with r2000 := (g.r2000.receive b).1 }
    · rw [h]
    · rw [h]
  · rfl

theorem timeUpdate_sent (g : Globals) :
  (timeUpdate g).sent = g.sent
  := by
  obtain ⟨-, h⟩ | ⟨-, _, _, _, _, _, _, h⟩ := timeUpdate_cases g
  · rw [h]
  · rw [h]
    rfl

theorem pollR2000_sent (cmd : UInt8) (g : Globals) :
  (pollR2000 cmd g).1.sent = g.sent
  := by
  obtain ⟨-, r, flag, h⟩ | ⟨-, -, h⟩ | ⟨-, -, time, -, -, h⟩ | ⟨-, -, flag, h⟩ :=
    pollR2000_cases cmd g
  · rw [h]
  · rw [h]
  · rw [h]
    rfl
  · rw [h]
    rfl

theorem setTraffic_sent (g : Globals) (traffic : List (List Event)) :
  (g.setTraffic traffic).sent = g.sent
  := rfl

/-- A command sends its own frame and no other. -/
theorem encodeR2000From_sent {before cmd flag : UInt8} {p : Mem} {g g' : Globals}
    (hknown : cmd ∈ knownCmds) (h : encodeR2000From before cmd p g = some (flag, g')) :
  g'.sent = (sendCmd cmd before p g).sent
  := by
  unfold encodeR2000From at h
  rw [if_pos hknown] at h
  split at h
  · cases h
  · have hwait := waitR2000_keeps (f := Globals.sent) uart4IRQHandler_sent timeUpdate_sent
      (pollR2000_sent cmd) h
    rwa [setTraffic_sent] at hwait

theorem delayMs_sent {g g' : Globals} (h : delayMs g = some ((), g')) :
  g'.sent = g.sent
  := delayMs_keeps (f := Globals.sent) uart4IRQHandler_sent timeUpdate_sent setTraffic_sent h

end UhfReader
