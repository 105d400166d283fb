import UhfReader.Boot
import UhfReader.Command
import UhfReader.Lib.Run

/-!
# Waiting for the R2000

`encodeR2000` waits for an answer until `R2000.send_timer` runs out.  The timer is a member
of the record that `UART4_IRQHandler` clears when it gets a frame of less than 4 or more than
255 bytes, and `Time_Update` counts it down whether it was started or not: a cleared timer
wraps around to `2^32 - 1` and does not run out for months.  As long as no such frame comes,
the timer stays armed and the wait ends.

The wait ends with the first frame that the command is content with, whatever command that
frame answers.
-/

open Memory

namespace UhfReader

/-! ### What one byte does -/

namespace SR2000TransData

variable {r : SR2000TransData} {b : UInt8} {i : ℕ}

/-- The byte completes a frame that is then decoded. -/
def Completes (r : SR2000TransData) (b : UInt8) : Prop := (r.receive b).2 = true

instance (r : SR2000TransData) (b : UInt8) : Decidable (r.Completes b) :=
  inferInstanceAs (Decidable (_ = true))

/-- The byte completes a frame of less than 4 or more than 255 bytes. -/
def Clears (r : SR2000TransData) (b : UInt8) : Prop :=
  r.setMark = 0 ∧ r.index ≠ 0 ∧ r.index ≤ bufLen
    ∧ ((r.store r.index b).load 1).toNat < (r.store r.index b).index
    ∧ ((r.store r.index b).index + 1 < 4 ∨ (r.store r.index b).index + 1 > bufLen)

instance (r : SR2000TransData) (b : UInt8) : Decidable (r.Clears b) :=
  inferInstanceAs (Decidable (_ ∧ _ ∧ _ ∧ _ ∧ _))

theorem store_setMark (r : SR2000TransData) (i : ℕ) (b : UInt8) :
  (r.store i b).setMark = r.setMark
  := by
  unfold store
  repeat' split
  all_goals rfl

/-- A store into the buffer or right behind it does not reach the timers. -/
theorem store_sendTimer (h : i ≤ bufLen) :
  (r.store i b).sendTimer = r.sendTimer
  := by
  simp only [bufLen] at h
  unfold store
  split
  · rfl
  · rw [if_pos (by omega)]

/-- What a received byte does: nothing to the timer and the mark, or it completes a frame and
sets the mark, or it clears the record. -/
theorem receive_cases (r : SR2000TransData) (b : UInt8) :
  (¬ r.Completes b ∧ (r.receive b).1.setMark = r.setMark
      ∧ (r.receive b).1.sendTimer = r.sendTimer)
    ∨ (r.Completes b ∧ r.setMark = 0 ∧ (r.receive b).1.setMark = 1
      ∧ (r.receive b).1.sendTimer = r.sendTimer)
    ∨ (¬ r.Completes b ∧ r.Clears b ∧ (r.receive b).1 = cleared)
  := by
  unfold Completes receive
  split
  · rename_i hmark
    split
    · exact .inl ⟨by simp, store_setMark r 0 b, store_sendTimer (by decide)⟩
    · split
      · rename_i hindex
        split
        · exact .inl ⟨by simp, rfl, rfl⟩
        · rename_i hmax
          dsimp only
          split
          · rename_i hlast
            split
            · rename_i hlen
              exact .inr (.inr ⟨by simp, ⟨hmark, hindex, Nat.not_lt.mp hmax, hlast, hlen⟩, rfl⟩)
            · exact .inr (.inl ⟨rfl, hmark, rfl, store_sendTimer (Nat.not_lt.mp hmax)⟩)
          · exact .inl ⟨by simp, store_setMark r _ b, store_sendTimer (Nat.not_lt.mp hmax)⟩
      · exact .inl ⟨by simp, rfl, rfl⟩
  · exact .inl ⟨by simp, rfl, rfl⟩

/-- While a frame waits to be taken, bytes are dropped. -/
theorem receive_of_marked (h : r.setMark ≠ 0) :
  r.receive b = (r, false)
  := by
  unfold receive
  rw [if_neg h]

end SR2000TransData

/-- Decoding a frame leaves the link and the tick counter as they are, except that a frame
`0x70` takes the mark back. -/
theorem decodeR2000_link (g : Globals) :
  (decodeR2000 g).r2000
      = (if g.r2000.frameCmd = 0x70 then { g.r2000 with setMark := 0 } else g.r2000)
    ∧ (decodeR2000 g).sysTimer1 = g.sysTimer1
  := by
  obtain ⟨hcmd, h⟩ | ⟨hcmd, _, _, _, _, _, _, h⟩ := decodeR2000_cases g
  · rw [h, if_pos hcmd]
    exact ⟨rfl, rfl⟩
  · rw [h, if_neg hcmd]
    exact ⟨rfl, rfl⟩

/-- A byte that completes a frame has it decoded. -/
theorem uart4IRQHandler_eq (g : Globals) (b : UInt8) :
  uart4IRQHandler g b
    = if g.r2000.Completes b then decodeR2000 { g with r2000 := (g.r2000.receive b).1 }
      else { g with r2000 := (g.r2000.receive b).1 }
  := rfl

/-- The link after a byte was received. -/
theorem uart4IRQHandler_r2000 (g : Globals) (b : UInt8) :
  (uart4IRQHandler g b).r2000
    = if g.r2000.Completes b ∧ (g.r2000.receive b).1.frameCmd = 0x70 then
        { (g.r2000.receive b).1 with setMark := 0 }
      else (g.r2000.receive b).1
  := by
  rw [uart4IRQHandler_eq]
  by_cases hcompl : g.r2000.Completes b
  · rw [if_pos hcompl, (decodeR2000_link _).1]
    by_cases hcmd : (g.r2000.receive b).1.frameCmd = 0x70
    · rw [if_pos hcmd, if_pos ⟨hcompl, hcmd⟩]
    · rw [if_neg hcmd, if_neg (fun h => hcmd h.2)]
  · rw [if_neg hcompl, if_neg (fun h => hcompl h.1)]

theorem uart4IRQHandler_sysTimer1 (g : Globals) (b : UInt8) :
  (uart4IRQHandler g b).sysTimer1 = g.sysTimer1
  := by
  unfold uart4IRQHandler
  dsimp only
  split
  · exact (decodeR2000_link _).2
  · rfl

/-- A byte that does not clear the record leaves the timer of the wait alone. -/
theorem uart4IRQHandler_sendTimer {g : Globals} {b : UInt8} (h : ¬ g.r2000.Clears b) :
  (uart4IRQHandler g b).r2000.sendTimer = g.r2000.sendTimer
  := by
  have hreceive : (g.r2000.receive b).1.sendTimer = g.r2000.sendTimer := by
    obtain ⟨-, -, ht⟩ | ⟨-, -, -, ht⟩ | ⟨-, hc, -⟩ := g.r2000.receive_cases b
    · exact ht
    · exact ht
    · exact absurd hc h
  rw [uart4IRQHandler_r2000]
  split
  · exact hreceive
  · exact hreceive

/-- A byte that neither completes a frame nor clears the record leaves the mark alone. -/
theorem uart4IRQHandler_setMark {g : Globals} {b : UInt8} (hclear : ¬ g.r2000.Clears b)
    (hcompl : ¬ g.r2000.Completes b) :
  (uart4IRQHandler g b).r2000.setMark = g.r2000.setMark
  := by
  rw [uart4IRQHandler_r2000, if_neg (fun h => hcompl h.1)]
  obtain ⟨-, hm, -⟩ | ⟨hc, -⟩ | ⟨-, hc, -⟩ := g.r2000.receive_cases b
  · exact hm
  · exact absurd hc hcompl
  · exact absurd hc hclear

/-- The link and the tick counter after a system tick. -/
theorem timeUpdate_link (g : Globals) :
  (timeUpdate g).r2000.setMark = g.r2000.setMark ∧ (timeUpdate g).r2000.buf = g.r2000.buf
    ∧ (timeUpdate g).r2000.sendTimer
      = (if 9 < g.sysTimer1 + 1 then g.r2000.sendTimer.updateUnguarded else g.r2000.sendTimer)
    ∧ (timeUpdate g).sysTimer1 = if 9 < g.sysTimer1 + 1 then 0 else g.sysTimer1 + 1
  := by
  obtain ⟨hle, h⟩ | ⟨hlt, _, _, _, _, _, _, h⟩ := timeUpdate_cases g
  · rw [h, if_neg (Nat.not_lt.mpr hle), if_neg (Nat.not_lt.mpr hle)]
    exact ⟨rfl, rfl, rfl, rfl⟩
  · rw [h, if_pos hlt, if_pos hlt]
    exact ⟨rfl, rfl, rfl, rfl⟩

/-! ### Runs of the waiting loop -/

/-- What an event makes of a wait for the command `cmd`; `none` when the call returns. -/
def waitStep (cmd : UInt8) (g : Globals) : Event → Option Globals
  | .rx b => some (uart4IRQHandler g b)
  | .tick => some (timeUpdate g)
  | .poll =>
    match pollR2000 cmd g with
    | (g', none) => some g'
    | (_, some _) => none

/-- A poll after which the wait goes on found nothing, or took a frame and started the timer
again. -/
theorem waitStep_poll {cmd : UInt8} {g g' : Globals} (h : waitStep cmd g .poll = some g') :
  (g.r2000.setMark = 0 ∧ g' = g)
    ∨ (g.r2000.setMark ≠ 0 ∧ ∃ time, 1 ≤ time ∧ time ≤ 1000 ∧ g' = awaitFrame time g)
  := by
  simp only [waitStep] at h
  obtain ⟨-, r, flag, hp⟩ | ⟨-, hm, hp⟩ | ⟨-, hm, time, h1, hmax, hp⟩ | ⟨-, -, flag, hp⟩ :=
    pollR2000_cases cmd g
  · rw [hp] at h
    cases h
  · rw [hp] at h
    cases h
    exact .inl ⟨hm, rfl⟩
  · rw [hp] at h
    cases h
    exact .inr ⟨hm, time, h1, hmax, rfl⟩
  · rw [hp] at h
    cases h

/-- What a tag has to pass to be collected. -/
structure Masks where
  cmdMaskaddr : ℕ
  cmdMasklen : UInt8
  cmdMaskData : Block 31
  maskSel : UInt8
  maskAddr6B : UInt8
  mask6B : UInt8
  maskData6B : Block 8

/-- The masks among the globals. -/
def Globals.masks (g : Globals) : Masks :=
  { cmdMaskaddr := g.cmdMaskaddr, cmdMasklen := g.cmdMasklen, cmdMaskData := g.cmdMaskData
    maskSel := g.maskSel, maskAddr6B := g.maskAddr6B, mask6B := g.mask6B
    maskData6B := g.maskData6B }

/-- What arrives during a wait does not change the masks. -/
theorem waitStep_masks {cmd : UInt8} {g g' : Globals} {e : Event}
    (h : waitStep cmd g e = some g') :
  g'.masks = g.masks
  := by
  cases e with
  | rx b =>
    cases h
    unfold uart4IRQHandler
    dsimp only
    split
    · obtain ⟨-, hreset⟩ | ⟨-, _, _, _, _, _, _, hcollects⟩ :=
        decodeR2000_cases { g with r2000 := (g.r2000.receive b).1 }
      · rw [hreset]
        rfl
      · rw [hcollects]
        rfl
    · rfl
  | tick =>
    cases h
    obtain ⟨-, htick⟩ | ⟨-, _, _, _, _, _, _, htick⟩ := timeUpdate_cases g
    · rw [htick]
      rfl
    · rw [htick]
      rfl
  | poll =>
    obtain ⟨-, rfl⟩ | ⟨-, _, -, -, rfl⟩ := waitStep_poll h
    · rfl
    · rfl

theorem run_masks {cmd : UInt8} {es : List Event} {g g' : Globals}
    (h : Run.run (waitStep cmd) es g = some g') :
  g'.masks = g.masks
  := by
  have hall : Run.Along (waitStep cmd) (fun _ _ => True) es g :=
    Run.Along.of_forall fun _ _ _ => trivial
  exact hall.invariant (I := fun s => s.masks = g.masks)
    (fun s e s' hs _ hstep => (waitStep_masks hstep).trans hs) rfl h

/-- A wait that goes on for a while goes on from where it is then. -/
theorem waitR2000_append {cmd : UInt8} {es : List Event} (es' : List Event) {g g' : Globals}
    (h : Run.run (waitStep cmd) es g = some g') :
  waitR2000 cmd (es ++ es') g = waitR2000 cmd es' g'
  := by
  induction es generalizing g with
  | nil =>
    cases h
    rfl
  | cons e es ih =>
    obtain ⟨t, ht, hrest⟩ := Run.run_cons_eq_some h
    rw [← ih hrest]
    cases e with
    | rx b =>
      cases ht
      rfl
    | tick =>
      cases ht
      rfl
    | poll =>
      simp only [waitStep] at ht
      split at ht
      · rename_i heq
        cases ht
        simp only [List.cons_append, waitR2000, heq]
      · cases ht

/-- A wait that does not go on has returned. -/
theorem isSome_waitR2000_of_run {cmd : UInt8} {es : List Event} (es' : List Event) {g : Globals}
    (h : Run.run (waitStep cmd) es g = none) :
  (waitR2000 cmd (es ++ es') g).isSome
  := by
  induction es generalizing g with
  | nil => cases h
  | cons e es ih =>
    cases e with
    | rx b => exact ih h
    | tick => exact ih h
    | poll =>
      simp only [Run.run, waitStep] at h
      simp only [List.cons_append, waitR2000]
      split at h
      · rename_i hnone
        split at hnone
        · cases hnone
        · rename_i heq
          simp only [heq, Option.isSome_some]
      · rename_i hsome
        split at hsome
        · rename_i heq
          cases hsome
          simp only [heq]
          exact ih h
        · cases hsome

/-! ### The timer of the wait -/

/-- The timer has run out, or has between 1 and 1000 updates to go. -/
def STimer.Armed (t : STimer) : Prop := t.isOverflow = 0 → 1 ≤ t.time ∧ t.time ≤ 1000

theorem STimer.Armed.updateUnguarded {t : STimer} (h : t.Armed) :
  t.updateUnguarded.Armed
  := by
  unfold STimer.updateUnguarded
  split
  · rename_i hover
    have hle := h hover
    unfold STimer.count
    split
    · intro hzero
      exact absurd hzero (by decide : (1 : UInt8) ≠ 0)
    · intro _
      simp only [STimer.decrement]
      omega
  · exact h

/-- One update brings an armed timer one update closer to running out. -/
theorem STimer.updateUnguarded_progress {t : STimer} {n : ℕ}
    (h : t.isOverflow ≠ 0 ∨ 1 ≤ t.time ∧ t.time ≤ n + 1 ∧ t.time ≤ 1000) :
  t.updateUnguarded.isOverflow ≠ 0
    ∨ 1 ≤ t.updateUnguarded.time ∧ t.updateUnguarded.time ≤ n ∧ t.updateUnguarded.time ≤ 1000
  := by
  unfold STimer.updateUnguarded
  split
  · rename_i hover
    obtain hne | ⟨h1, hn, hmax⟩ := h
    · exact absurd hover hne
    · unfold STimer.count
      split
      · exact .inl (by decide : (1 : UInt8) ≠ 0)
      · refine .inr ?_
        simp only [STimer.decrement]
        omega
  · rename_i hover
    exact .inl hover

/-- The event does not bring a frame of less than 4 or more than 255 bytes. -/
def NoClear (g : Globals) (e : Event) : Prop := ∀ b, e = .rx b → ¬ g.r2000.Clears b

/-- The event does not complete a frame, either. -/
def NoFrame (g : Globals) (e : Event) : Prop :=
  NoClear g e ∧ ∀ b, e = .rx b → ¬ g.r2000.Completes b

/-- The timer of a wait stays armed, event by event. -/
theorem armed_waitStep {cmd : UInt8} {g g' : Globals} {e : Event}
    (h : g.r2000.sendTimer.Armed) (hclear : NoClear g e) (hstep : waitStep cmd g e = some g') :
  g'.r2000.sendTimer.Armed
  := by
  cases e with
  | rx b =>
    cases hstep
    rwa [uart4IRQHandler_sendTimer (hclear b rfl)]
  | tick =>
    cases hstep
    rw [(timeUpdate_link g).2.2.1]
    split
    · exact h.updateUnguarded
    · exact h
  | poll =>
    obtain ⟨-, rfl⟩ | ⟨-, time, h1, hmax, rfl⟩ := waitStep_poll hstep
    · exact h
    · intro _
      exact ⟨h1, hmax⟩

/-- The wait starts with the timer armed and no frame at hand. -/
theorem sendCmd_link (cmd before : UInt8) (p : Mem) (g : Globals) :
  (sendCmd cmd before p g).r2000.sendTimer.Armed ∧ (sendCmd cmd before p g).r2000.setMark = 0
  := by
  unfold sendCmd uart4Send
  dsimp only
  constructor
  · intro _
    simp only [STimer.start, sendTime]
    split
    · decide
    · decide
  · split
    · rfl
    · rfl

/-- The number of timer updates that `Time_Update` makes during a wait. -/
def timerUpdates (cmd : UInt8) : List Event → Globals → ℕ
  | [], _ => 0
  | e :: es, g =>
    (if e = .tick ∧ 9 < g.sysTimer1 + 1 then 1 else 0)
      + match waitStep cmd g e with
        | none => 0
        | some g' => timerUpdates cmd es g'

/-- A wait returns at the next poll once the timer has had its updates, when no frame comes
in meanwhile. -/
theorem isSome_waitR2000 {cmd : UInt8} {es : List Event} {g : Globals}
    (hmark : g.r2000.setMark = 0) (hquiet : Run.Along (waitStep cmd) NoFrame es g)
    (htime : g.r2000.sendTimer.isOverflow ≠ 0
      ∨ 1 ≤ g.r2000.sendTimer.time ∧ g.r2000.sendTimer.time ≤ timerUpdates cmd es g
        ∧ g.r2000.sendTimer.time ≤ 1000) :
  (waitR2000 cmd (es ++ [.poll]) g).isSome
  := by
  have hover : ∀ es' g, g.r2000.sendTimer.isOverflow ≠ 0 →
      (waitR2000 cmd (.poll :: es') g).isSome := by
    intro es' g hne
    obtain ⟨-, r, flag, hp⟩ | ⟨hzero, -⟩ | ⟨hzero, -⟩ | ⟨hzero, -⟩ := pollR2000_cases cmd g
    · simp only [waitR2000, hp, Option.isSome_some]
    · exact absurd hzero hne
    · exact absurd hzero hne
    · exact absurd hzero hne
  induction es generalizing g with
  | nil =>
    obtain hne | ⟨h1, hn, -⟩ := htime
    · exact hover [] g hne
    · simp only [timerUpdates] at hn
      omega
  | cons e es ih =>
    cases e with
    | rx b =>
      have hnot := hquiet.1.2 b rfl
      have hclear := hquiet.1.1 b rfl
      apply ih (g := uart4IRQHandler g b)
      · rw [uart4IRQHandler_setMark hclear hnot, hmark]
      · exact hquiet.tail rfl
      · rw [uart4IRQHandler_sendTimer hclear]
        simpa [timerUpdates, waitStep] using htime
    | tick =>
      obtain ⟨hm, -, ht, -⟩ := timeUpdate_link g
      apply ih (g := timeUpdate g)
      · rw [hm, hmark]
      · exact hquiet.tail rfl
      · rw [ht]
        simp only [timerUpdates, waitStep, true_and] at htime
        split at htime
        · rw [if_pos ‹_›]
          apply STimer.updateUnguarded_progress
          rwa [Nat.add_comm] at htime
        · rw [if_neg ‹_›]
          rwa [Nat.zero_add] at htime
    | poll =>
      obtain ⟨hne, -⟩ | ⟨-, -, hp⟩ | ⟨-, hm, -⟩ | ⟨-, hm, -⟩ := pollR2000_cases cmd g
      · exact hover _ g hne
      · have hstep : waitStep cmd g .poll = some g := by
          simp only [waitStep, hp]
        have hwait : waitR2000 cmd (.poll :: es ++ [.poll]) g
            = waitR2000 cmd (es ++ [.poll]) g := by
          simp only [List.cons_append, waitR2000, hp]
        rw [hwait]
        apply ih hmark (hquiet.tail hstep)
        simpa [timerUpdates, hstep] using htime
      · exact absurd hmark hm
      · exact absurd hmark hm

/-- Ten ticks make at least one timer update, as long as the wait goes on. -/
theorem count_tick_le {cmd : UInt8} {es : List Event} {g g' : Globals}
    (h : Run.run (waitStep cmd) es g = some g') :
  es.count .tick + min g.sysTimer1 9 ≤ 10 * timerUpdates cmd es g + min g'.sysTimer1 9
  := by
  induction es generalizing g with
  | nil =>
    cases h
    simp [timerUpdates]
  | cons e es ih =>
    obtain ⟨t, ht, hrest⟩ := Run.run_cons_eq_some h
    have := ih hrest
    simp only [timerUpdates, ht]
    cases e with
    | rx b =>
      cases ht
      rw [uart4IRQHandler_sysTimer1] at this
      simpa using this
    | tick =>
      cases ht
      obtain ⟨-, -, -, hs⟩ := timeUpdate_link g
      rw [hs] at this
      simp only [true_and, List.count_cons_self]
      split at this
      · rw [if_pos ‹_›]
        omega
      · rw [if_neg ‹_›]
        omega
    | poll =>
      have hsame : t.sysTimer1 = g.sysTimer1 := by
        obtain ⟨-, rfl⟩ | ⟨-, time, -, -, rfl⟩ := waitStep_poll ht
        · rfl
        · rfl
      rw [hsame] at this
      simpa using this

/-- In every run of the wait in which no frame of less than 4 or more than 255 bytes comes in,
the timer stays armed; and the call returns when 1000 timer updates, which ten ticks each
make, pass without a newly completed frame. -/
theorem wait_ends (cmd before : UInt8) (p : Mem) (g : Globals) (rest : List (List Event))
    (es : List Event) (g' : Globals)
    (hrun : Run.run (waitStep cmd) es ((sendCmd cmd before p g).setTraffic rest) = some g')
    (hclear : Run.Along (waitStep cmd) NoClear es ((sendCmd cmd before p g).setTraffic rest)) :
  g'.r2000.sendTimer.Armed
    ∧ ∀ es', g'.r2000.setMark = 0 → Run.Along (waitStep cmd) NoFrame es' g' →
      1000 ≤ timerUpdates cmd es' g' ∨ 10 * 1000 ≤ es'.count .tick →
      (waitR2000 cmd (es ++ (es' ++ [.poll])) ((sendCmd cmd before p g).setTraffic rest)).isSome
  := by
  have harmed : g'.r2000.sendTimer.Armed :=
    Run.Along.invariant (I := fun g => g.r2000.sendTimer.Armed)
      (fun _ _ _ h hc hs => armed_waitStep h hc hs) (sendCmd_link cmd before p g).1 hclear hrun
  refine ⟨harmed, ?_⟩
  intro es' hmark hquiet hlong
  rw [waitR2000_append _ hrun]
  cases hrun' : Run.run (waitStep cmd) es' g' with
  | none => exact isSome_waitR2000_of_run _ hrun'
  | some g'' =>
    have hupdates : 1000 ≤ timerUpdates cmd es' g' := by
      obtain h | h := hlong
      · exact h
      · have := count_tick_le hrun'
        omega
    apply isSome_waitR2000 hmark hquiet
    by_cases hzero : g'.r2000.sendTimer.isOverflow = 0
    · obtain ⟨h1, hmax⟩ := harmed hzero
      exact .inr ⟨h1, by omega, hmax⟩
    · exact .inl hzero

/-- Ticks bring no frames. -/
theorem along_ticks (cmd : UInt8) (n : ℕ) (g : Globals) :
  Run.Along (waitStep cmd) NoFrame (List.replicate n .tick) g
  := by
  induction n generalizing g with
  | zero => trivial
  | succ n ih =>
    refine ⟨⟨?_, ?_⟩, ih _⟩
    · intro b h
      cases h
    · intro b h
      cases h

instance (g : Globals) (e : Event) : Decidable (NoClear g e) :=
  match e with
  | .rx b => decidable_of_iff (¬ g.r2000.Clears b) <| by
    constructor
    · intro h b' heq
      cases heq
      exact h
    · intro h
      exact h b rfl
  | .tick => isTrue nofun
  | .poll => isTrue nofun

/-- The answer to the question for the version comes slowly and breaks off: it is waited for at most
10000 ticks from its last byte on. -/
theorem wait_ends_broken_off :
  let g := (sendCmd 0x72 0 (fun _ => 0) (powerOn .blank).toGlobals).setTraffic []
  let es : List Event := [.poll, .rx 0xA0, .rx 0x05] ++ List.replicate 10 .tick ++ [.rx 0xFF, .poll]
  (∃ g', Run.run (waitStep 0x72) es g = some g' ∧ g'.r2000.index = 3 ∧ g'.r2000.sendTimer.Armed)
    ∧ (waitR2000 0x72 (es ++ (List.replicate 10000 .tick ++ [.poll])) g).isSome
  := by
  intro g es
  have hclear : Run.Along (waitStep 0x72) NoClear es g := by
    unfold g
    rw [powerOn_eq]
    decide +kernel
  have hbroken : (Run.run (waitStep 0x72) es g).map
      (fun g => (g.r2000.index, g.r2000.setMark)) = some (3, 0) := by
    unfold g
    rw [powerOn_eq]
    decide +kernel
  obtain ⟨g', hrun, heq⟩ := Option.map_eq_some_iff.mp hbroken
  obtain ⟨hindex, hmark⟩ := Prod.mk.inj heq
  obtain ⟨harmed, hends⟩ := wait_ends 0x72 0 (fun _ => 0) (powerOn .blank).toGlobals [] es g' hrun
    hclear
  refine ⟨⟨g', hrun, hindex, harmed⟩, ?_⟩
  apply hends (List.replicate 10000 .tick) hmark (along_ticks _ _ _)
  right
  rw [List.count_replicate_self]

instance (t : STimer) : Decidable t.Armed := inferInstanceAs (Decidable (_ → _))

/-- Two bytes of noise, the start of a frame and a length of zero, disarm the timer: the next
update wraps it around. -/
theorem noise_disarms_timer :
  ∃ g', Run.run (waitStep 0x72) ([.rx 0xA0, .rx 0x00] ++ List.replicate 10 .tick)
      ((sendCmd 0x72 0 (fun _ => 0) (powerOn .blank).toGlobals).setTraffic []) = some g'
    ∧ g'.r2000.sendTimer.time = 2 ^ 32 - 1 ∧ ¬ g'.r2000.sendTimer.Armed
  := by
  have htimer : (Run.run (waitStep 0x72) ([.rx 0xA0, .rx 0x00] ++ List.replicate 10 .tick)
      ((sendCmd 0x72 0 (fun _ => 0) (powerOn .blank).toGlobals).setTraffic [])).map
        (fun g => g.r2000.sendTimer) = some ⟨0, 0, 2 ^ 32 - 1⟩ := by
    rw [powerOn_eq]
    decide
  rw [Option.map_eq_some_iff] at htimer
  obtain ⟨g', hrun, htimer⟩ := htimer
  refine ⟨g', hrun, ?_⟩
  rw [htimer]
  decide

/-! ### The frame that closes the wait -/

/-- The command byte of the frame that an event completes.  A frame `0x70` takes its mark
back and does not count. -/
def completedFrame (g : Globals) : Event → Option UInt8
  | .rx b =>
    if g.r2000.Completes b ∧ (g.r2000.receive b).1.frameCmd ≠ 0x70 then
      some (g.r2000.receive b).1.frameCmd
    else none
  | .tick => none
  | .poll => none

/-- The command byte of the last frame that is completed during a wait, or `last` when there
is none. -/
def lastFrame (cmd : UInt8) : List Event → Globals → Option UInt8 → Option UInt8
  | [], _, last => last
  | e :: es, g, last =>
    match waitStep cmd g e with
    | none => last
    | some g' => lastFrame cmd es g' ((completedFrame g e).or last)

/-- A frame that waits to be taken is the last one completed. -/
def FrameIsLast (g : Globals) (last : Option UInt8) : Prop :=
  g.r2000.setMark ≠ 0 → last = some g.r2000.frameCmd

theorem frameIsLast_waitStep {cmd : UInt8} {g g' : Globals} {e : Event} {last : Option UInt8}
    (h : FrameIsLast g last) (hstep : waitStep cmd g e = some g') :
  FrameIsLast g' ((completedFrame g e).or last)
  := by
  intro hmark
  cases e with
  | rx b =>
    cases hstep
    rw [uart4IRQHandler_r2000] at hmark ⊢
    obtain ⟨hcompl, hsame, -⟩ | ⟨hcompl, -⟩ | ⟨hcompl, -, hclear⟩ := g.r2000.receive_cases b
    · -- no frame was completed: if one waits, it was there before and the byte was dropped
      rw [if_neg (fun h => hcompl h.1)] at hmark ⊢
      rw [hsame] at hmark
      rw [completedFrame, if_neg (fun h => hcompl h.1), SR2000TransData.receive_of_marked hmark]
      exact h hmark
    · by_cases hcmd : (g.r2000.receive b).1.frameCmd = 0x70
      · rw [if_pos ⟨hcompl, hcmd⟩] at hmark
        exact absurd rfl hmark
      · rw [if_neg (fun h => hcmd h.2), completedFrame, if_pos ⟨hcompl, hcmd⟩]
        rfl
    · rw [if_neg (fun h => hcompl h.1), hclear] at hmark
      exact absurd rfl hmark
  | tick =>
    cases hstep
    obtain ⟨hm, hbuf, -, -⟩ := timeUpdate_link g
    rw [hm] at hmark
    have hcmd : (timeUpdate g).r2000.frameCmd = g.r2000.frameCmd := by
      simp only [SR2000TransData.frameCmd, SR2000TransData.load, hbuf]
      rfl
    rw [hcmd]
    exact h hmark
  | poll =>
    obtain ⟨-, rfl⟩ | ⟨-, time, -, -, rfl⟩ := waitStep_poll hstep
    · exact h hmark
    · exact absurd rfl hmark

/-- Over a whole wait, a frame that waits to be taken is the last one completed. -/
theorem lastFrame_eq {cmd : UInt8} {es : List Event} {g g' : Globals} {last : Option UInt8}
    (h : FrameIsLast g last) (hrun : Run.run (waitStep cmd) es g = some g')
    (hmark : g'.r2000.setMark ≠ 0) :
  lastFrame cmd es g last = some g'.r2000.frameCmd
  := by
  induction es generalizing g last with
  | nil =>
    cases hrun
    exact h hmark
  | cons e es ih =>
    obtain ⟨t, ht, hrest⟩ := Run.run_cons_eq_some hrun
    simp only [lastFrame, ht]
    exact ih (frameIsLast_waitStep h ht) hrest

theorem sendCmd_traffic (cmd before : UInt8) (p : Mem) (g : Globals) :
  (sendCmd cmd before p g).traffic = g.traffic
  := by
  unfold sendCmd uart4Send
  dsimp only
  split
  · rfl
  · rfl

/-- `encodeR2000` returns `0` because a frame was completed: the events of its wait are `es`,
then comes a poll that finds, in the state `g'`, the timer still running and a frame that the
command is content with. -/
structure ReturnsByFrame (before cmd : UInt8) (p : Mem) (g : Globals) (es : List Event)
    (rest : List (List Event)) (g' : Globals) : Prop where
  known : cmd ∈ knownCmds
  events : ∃ es', g.traffic = (es ++ .poll :: es') :: rest
  waits : Run.run (waitStep cmd) es ((sendCmd cmd before p g).setTraffic rest) = some g'
  running : g'.r2000.sendTimer.isOverflow = 0
  marked : g'.r2000.setMark ≠ 0
  returns : (pollR2000 cmd g').2 = some 0

theorem encodeR2000From_of_frame {before cmd : UInt8} {p : Mem} {g g' : Globals}
    {es : List Event} {rest : List (List Event)}
    (h : ReturnsByFrame before cmd p g es rest g') :
  encodeR2000From before cmd p g = some (0, takeFrame g')
  := by
  obtain ⟨es', htraffic⟩ := h.events
  have hpoll : pollR2000 cmd g' = (takeFrame g', some 0) := by
    have hret := h.returns
    obtain ⟨hover, -⟩ | ⟨-, hm, -⟩ | ⟨-, -, time, -, -, hp⟩ | ⟨-, -, flag, hp⟩ :=
      pollR2000_cases cmd g'
    · exact absurd h.running hover
    · exact absurd hm h.marked
    · rw [hp] at hret
      cases hret
    · rw [hp] at hret ⊢
      simp only [Option.some.injEq] at hret
      rw [hret]
  unfold encodeR2000From
  rw [if_pos h.known, sendCmd_traffic, htraffic]
  dsimp only
  rw [waitR2000_append _ h.waits, waitR2000, hpoll]

/-- A call that returns because a frame was completed finds the answer to its own command in
the buffer if and only if the last frame completed before that carries the command sent.
The wait accepts any other frame just as well. -/
theorem answer_matches_iff (before cmd : UInt8) (p : Mem) (g g' : Globals) (es : List Event)
    (rest : List (List Event)) (h : ReturnsByFrame before cmd p g es rest g') :
  (∃ g'', encodeR2000From before cmd p g = some (0, g'') ∧ g''.r2000.frameCmd = wireCmd cmd)
    ↔ lastFrame cmd es ((sendCmd cmd before p g).setTraffic rest) none = some (wireCmd cmd)
  := by
  have hstart : FrameIsLast ((sendCmd cmd before p g).setTraffic rest) none := by
    intro hmark
    exact absurd (sendCmd_link cmd before p g).2 hmark
  have hlast := lastFrame_eq hstart h.waits h.marked
  have hreturn := encodeR2000From_of_frame h
  rw [hlast]
  constructor
  · rintro ⟨g'', heq, hcmd⟩
    rw [hreturn, Option.some.injEq, Prod.mk.injEq] at heq
    rw [← heq.2] at hcmd
    exact congrArg some hcmd
  · intro hcmd
    exact ⟨takeFrame g', hreturn, Option.some.inj hcmd⟩

/-- What has to be computed of a wait to see that it returns by a frame. -/
theorem returnsByFrame_of_run (before cmd : UInt8) (p : Mem) (c : UInt8) {g : Globals}
    {es es' : List Event} {rest : List (List Event)} (hknown : cmd ∈ knownCmds)
    (htraffic : g.traffic = (es ++ .poll :: es') :: rest)
    (hrun : (Run.run (waitStep cmd) es ((sendCmd cmd before p g).setTraffic rest)).map
        (fun g => (g.r2000.sendTimer.isOverflow, g.r2000.setMark, (pollR2000 cmd g).2,
          g.r2000.frameCmd)) = some (0, 1, some 0, c)) :
  ∃ g', ReturnsByFrame before cmd p g es rest g' ∧ g'.r2000.frameCmd = c
  := by
  rw [Option.map_eq_some_iff] at hrun
  obtain ⟨g', hwaits, heq⟩ := hrun
  simp only [Prod.mk.injEq] at heq
  obtain ⟨hover, hmark, hret, hcmd⟩ := heq
  refine ⟨g', ⟨hknown, ⟨es', htraffic⟩, hwaits, hover, ?_, hret⟩, hcmd⟩
  rw [hmark]
  decide

/-- A new reader whose R2000 sends the bytes of `frame` during the first wait. -/
def answered (frame : List UInt8) : Globals :=
  (powerOn { Surroundings.blank with traffic := [frame.map .rx ++ [.poll]] }).toGlobals

theorem answered_traffic (frame : List UInt8) :
  (answered frame).traffic = [frame.map .rx ++ [.poll]]
  := by
  rw [answered, powerOn_eq]
  exact applyPara_frame Globals.traffic _ fun _ _ _ _ _ _ => rfl

/-- The R2000 answers the question for its version with its version. -/
theorem answer_matches_version :
  let frame : List UInt8 := [0xA0, 0x05, 0xFF, 0x72, 0x01, 0x02, 0xE7]
  ∃ g'', encodeR2000From 0 0x72 (fun _ => 0) (answered frame) = some (0, g'')
    ∧ g''.r2000.frameCmd = wireCmd 0x72
  := by
  intro frame
  obtain ⟨g', hret, -⟩ := returnsByFrame_of_run 0 0x72 (fun _ => 0) 0x72
    (by decide) (answered_traffic frame) (by rw [answered, powerOn_eq]; decide)
  apply (answer_matches_iff _ _ _ _ _ _ _ hret).mpr
  rw [answered, powerOn_eq]
  decide

/-- A tag is to be destroyed with command `0x84`, and a late frame `0x91` of an inventory
arrives: the call returns as if it were answered. -/
theorem late_frame_accepted :
  let frame : List UInt8 := [0xA0, 0x04, 0xFF, 0x91, 0x10, 0xBC]
  ∃ g', ReturnsByFrame 0 0x84 (fun _ => 0) (answered frame) (frame.map .rx) [] g'
    ∧ encodeR2000 0x84 (fun _ => 0) (answered frame) = some (0, takeFrame g')
    ∧ (takeFrame g').r2000.frameCmd ≠ wireCmd 0x84
  := by
  intro frame
  obtain ⟨g', hret, hcmd⟩ := returnsByFrame_of_run 0 0x84 (fun _ => 0) 0x91
    (by decide) (answered_traffic frame) (by rw [answered, powerOn_eq]; decide)
  refine ⟨g', hret, encodeR2000From_of_frame hret, ?_⟩
  have hsame : (takeFrame g').r2000.frameCmd = g'.r2000.frameCmd := rfl
  rw [hsame, hcmd]
  decide

end UhfReader
