import UhfReader.Boot
import UhfReader.Handlers
import UhfReader.Lib.Run

/-!
# The relays

Three parts of the program switch the two relays.  `sendDataOut` opens a door with `relayON`, for
2000 calls of `Time_Update`; `RelayControl` has both relays on for a pulse when a tag was found,
which its 400th call ends; and `SetRelay` switches them as a request wants.  They share the outputs,
and none looks at what the others do.

`relayON` runs in the main loop, and between its accesses interrupts fall.
-/

namespace UhfReader

/-! ### The outputs -/

/-- The relays. -/
inductive Relay where
  | relay1
  | relay2
  deriving DecidableEq, Repr

namespace Globals

/-- The output of a relay. -/
def relay (g : Globals) : Relay → Bool
  | .relay1 => g.relayOn
  | .relay2 => g.relayOn1

/-- `RELAYON` and `RELAYON1`, or `RELAYOFF` and `RELAYOFF1`. -/
def switch (g : Globals) (b : Bool) : Relay → Globals
  | .relay1 => { g with relayOn := b }
  | .relay2 => { g with relayOn1 := b }

/-- What `SetRelay` makes of the output of a relay. -/
def statusOf (g : Globals) : Relay → Bool
  | .relay1 => g.gDevice.load Offset.relayStatus &&& 0x01 ≠ 0
  | .relay2 => g.gDevice.load Offset.relayStatus &&& 0x02 ≠ 0

/-- The next call of `Time_Update` calls `RelayControl` while there is a pulse. -/
def Pulses (g : Globals) : Prop := 9 < g.sysTimer1 + 1 ∧ g.relayFlag ≠ 0

/-- The next call of `Time_Update` ends the pulse. -/
def PulseEnds (g : Globals) : Prop := g.Pulses ∧ ¬ g.relayCountTimes + 1 < 400

instance (g : Globals) : Decidable g.Pulses := inferInstanceAs (Decidable (_ ∧ _))

instance (g : Globals) : Decidable g.PulseEnds := inferInstanceAs (Decidable (_ ∧ _))

/-- The number of calls of `Time_Update` after which the pulse is over. -/
def pulseLeft (g : Globals) : ℕ :=
  if g.relayFlag = 0 then 0 else 10 * (400 - g.relayCountTimes) - g.sysTimer1

/-- The counters of `RelayControl` and `Time_Update` are in their ranges. -/
structure PulseClock (g : Globals) : Prop where
  count : g.relayCountTimes < 400
  divider : g.sysTimer1 ≤ 9

end Globals

/-! ### The relays and their users -/

/-- Where `relayON` is. -/
inductive RelayPhase where
  /-- it has returned -/
  | rests
  /-- the relay is switched on next -/
  | switches (r : Relay)
  /-- `Relay1Times` or `Relay2Times` is set next -/
  | counts (r : Relay)
  deriving DecidableEq, Repr

/-- The globals, `Relay1Times` and `Relay2Times`, and where `relayON` is. -/
structure Relays where
  globals : Globals
  times : Relay → ℕ
  phase : RelayPhase

/-- What happens to the relays. -/
inductive RelayEvent where
  /-- `sendDataOut` calls `relayON`, with a time of 2000 -/
  | relayON (r : Relay)
  /-- `relayON` goes on -/
  | proceeds
  /-- the R2000 reports a tag -/
  | tag
  /-- `Time_Update` -/
  | timeUpdate
  /-- a request stores parameters -/
  | store (d : SDevice)
  /-- `SetRelay` -/
  | setRelay

namespace Relays

/-- The relays when the main loop starts. -/
def start (e : Surroundings) : Relays := ⟨(powerOn e).toGlobals, fun _ => 0, .rests⟩

/-- `relay_isr_polling` for one of the relays. -/
def poll (s : Relays) (r : Relay) : Relays :=
  if s.times r ≠ 0 then
    { s with
      times := Function.update s.times r (s.times r - 1)
      globals := if s.times r - 1 = 0 then s.globals.switch false r else s.globals }
  else s

/-- `relay_isr_polling` -/
def relayIsrPolling (s : Relays) : Relays := (s.poll .relay1).poll .relay2

/-- `Time_Update` -/
def timeUpdate (s : Relays) : Relays :=
  let s := s.relayIsrPolling
  { s with globals := UhfReader.timeUpdate s.globals }

/-- What an event makes of the relays.  `relayON` leaves a relay alone whose time is not over. -/
def step (s : Relays) : RelayEvent → Option Relays
  | .relayON r =>
    match s.phase with
    | .rests => some { s with phase := if s.times r ≠ 0 then .rests else .switches r }
    | _ => none
  | .proceeds =>
    match s.phase with
    | .rests => none
    | .switches r => some { s with globals := s.globals.switch true r, phase := .counts r }
    | .counts r => some { s with times := Function.update s.times r 2000, phase := .rests }
  | .tag => some { s with globals := s.globals.linkRelay }
  | .timeUpdate => some s.timeUpdate
  | .store d => some { s with globals := { s.globals with gDevice := d } }
  | .setRelay =>
    ((UhfReader.setRelay fun _ => 0).run s.globals).map fun out => { s with globals := out.2 }

/-- `relayON` has switched the relay on, and its time is not over. -/
def Held (s : Relays) (r : Relay) : Prop := s.times r ≠ 0 ∨ s.phase = .counts r

/-- The event is the access of `relayON` that switches the relay on. -/
def Opens (s : Relays) (e : RelayEvent) (r : Relay) : Prop :=
  match e with
  | .proceeds => s.phase = .switches r
  | _ => False

/-- The event takes the output of a relay from `relayON` before its time. -/
def CutShort (s : Relays) : RelayEvent → Prop
  | .timeUpdate => s.globals.PulseEnds ∧ ∃ r, 1 < s.times r ∨ s.phase = .counts r
  | .setRelay => ∃ r, s.Held r ∧ s.globals.statusOf r = false
  | _ => False

/-- The event is a request that switches a relay on. -/
def SwitchesOn (s : Relays) : RelayEvent → Prop
  | .setRelay => ∃ r, s.globals.statusOf r = true
  | _ => False

end Relays

/-! ### What the functions do -/

namespace Globals

variable (g : Globals)

theorem relay_switch (b : Bool) (r r' : Relay) :
  (g.switch b r).relay r' = if r' = r then b else g.relay r'
  := by
  cases r with
  | relay1 | relay2 =>
    cases r' with
    | relay1 | relay2 => rfl

/-- The outputs are all that is switched. -/
theorem switch_frame {β : Type} (f : Globals → β) (b : Bool) (r : Relay)
    (h : ∀ on on1, f { g with relayOn := on, relayOn1 := on1 } = f g) :
  f (g.switch b r) = f g
  := by
  cases r with
  | relay1 => exact h b g.relayOn1
  | relay2 => exact h g.relayOn b

theorem relay_linkRelay (r : Relay) :
  g.linkRelay.relay r = g.relay r
  := by
  obtain ⟨flag, heq⟩ := g.linkRelay_eq
  rw [heq]
  cases r with
  | relay1 | relay2 => rfl

/-- What `RelayControl` and its caller look at and change. -/
def pulse : UInt8 × ℕ × ℕ × (Relay → Bool) :=
  (g.relayFlag, g.relayCountTimes, g.sysTimer1, g.relay)

/-- A call of `Time_Update` does not call `RelayControl`, or there is no pulse, or the pulse goes
on, or it ends. -/
theorem pulse_timeUpdate :
  (¬ 9 < g.sysTimer1 + 1
      ∧ (timeUpdate g).pulse = (g.relayFlag, g.relayCountTimes, g.sysTimer1 + 1, g.relay))
    ∨ (9 < g.sysTimer1 + 1 ∧ g.relayFlag = 0
      ∧ (timeUpdate g).pulse = (g.relayFlag, g.relayCountTimes, 0, g.relay))
    ∨ (9 < g.sysTimer1 + 1 ∧ g.relayFlag ≠ 0 ∧ g.relayCountTimes + 1 < 400
      ∧ (timeUpdate g).pulse = (g.relayFlag, g.relayCountTimes + 1, 0, fun _ => true))
    ∨ (g.PulseEnds ∧ (timeUpdate g).pulse = (0, 0, 0, fun _ => false))
  := by
  have hbeep : ∀ g, (updateTimers (beepUpdate g)).pulse = g.pulse := by
    intro g
    unfold beepUpdate
    repeat' split
    all_goals rfl
  have hrelays : ∀ b, Globals.relay { g with relayOn := b, relayOn1 := b } = fun _ => b := by
    intro b
    funext r
    cases r with
    | relay1 | relay2 => rfl
  unfold timeUpdate
  by_cases hcalls : 9 < g.sysTimer1 + 1
  · rw [if_pos hcalls, hbeep]
    right
    unfold relayControl
    by_cases hflag : g.relayFlag = 0
    · rw [if_neg (not_not_intro hflag)]
      exact .inl ⟨hcalls, hflag, rfl⟩
    · rw [if_pos (show g.relayFlag ≠ 0 from hflag)]
      by_cases hcount : g.relayCountTimes + 1 < 400
      · rw [if_pos (show g.relayCountTimes + 1 < 400 from hcount)]
        refine .inr (.inl ⟨hcalls, hflag, hcount, ?_⟩)
        exact congrArg (fun f => (g.relayFlag, g.relayCountTimes + 1, 0, f)) (hrelays true)
      · rw [if_neg (show ¬ g.relayCountTimes + 1 < 400 from hcount)]
        refine .inr (.inr ⟨⟨⟨hcalls, hflag⟩, hcount⟩, ?_⟩)
        exact congrArg (fun f => ((0 : UInt8), 0, 0, f)) (hrelays false)
  · rw [if_neg hcalls]
    exact .inl ⟨hcalls, rfl⟩

/-- The outputs after a call of `Time_Update`. -/
theorem relay_timeUpdate (r : Relay) :
  (timeUpdate g).relay r = ((g.relay r || decide g.Pulses) && !decide g.PulseEnds)
  := by
  have hrelay : (timeUpdate g).relay r = (timeUpdate g).pulse.2.2.2 r := rfl
  rw [hrelay]
  obtain ⟨hcalls, heq⟩ | ⟨hcalls, hflag, heq⟩ | ⟨hcalls, hflag, hcount, heq⟩ | ⟨hends, heq⟩ :=
    g.pulse_timeUpdate
  · have hpulses : ¬ g.Pulses := fun h => hcalls h.1
    simp [heq, hpulses, PulseEnds]
  · have hpulses : ¬ g.Pulses := fun h => h.2 hflag
    simp [heq, hpulses, PulseEnds]
  · have hpulses : g.Pulses := ⟨hcalls, hflag⟩
    simp [heq, hpulses, PulseEnds, hcount]
  · simp [heq, hends]

theorem relayFlag_timeUpdate :
  (timeUpdate g).relayFlag = if g.PulseEnds then 0 else g.relayFlag
  := by
  have hflag : (timeUpdate g).relayFlag = (timeUpdate g).pulse.1 := rfl
  rw [hflag]
  obtain ⟨hcalls, heq⟩ | ⟨hcalls, hflag, heq⟩ | ⟨hcalls, hflag, hcount, heq⟩ | ⟨hends, heq⟩ :=
    g.pulse_timeUpdate
  · rw [heq, if_neg fun h => hcalls h.1.1]
  · rw [heq, if_neg fun h => h.1.2 hflag]
  · rw [heq, if_neg fun h => h.2 hcount]
  · rw [heq, if_pos hends]

variable {g}

/-- The pulse comes to its end. -/
theorem PulseClock.timeUpdate (h : g.PulseClock) :
  (timeUpdate g).PulseClock ∧ (UhfReader.timeUpdate g).pulseLeft = g.pulseLeft - 1
  := by
  obtain ⟨hlt, hle⟩ := h
  obtain ⟨hcalls, heq⟩ | ⟨hcalls, hflag, heq⟩ | ⟨hcalls, hflag, hcount, heq⟩ | ⟨⟨⟨hcalls, hflag⟩,
    hcount⟩, heq⟩ := g.pulse_timeUpdate
  all_goals
    simp only [pulse, Prod.mk.injEq] at heq
    obtain ⟨hflag', hcount', hdivider', -⟩ := heq
    refine ⟨⟨by omega, by omega⟩, ?_⟩
    unfold pulseLeft
    rw [hflag', hcount', hdivider']
  · split
    · rfl
    · omega
  · rw [if_pos hflag, if_pos hflag]
  · rw [if_neg hflag, if_neg hflag]
    omega
  · rw [if_pos rfl, if_neg hflag]
    omega

/-- When nothing of the pulse is left, there is none. -/
theorem PulseClock.over (h : g.PulseClock) (hleft : g.pulseLeft = 0) :
  g.relayFlag = 0
  := by
  obtain ⟨hlt, hle⟩ := h
  unfold pulseLeft at hleft
  by_contra hflag
  rw [if_neg hflag] at hleft
  omega

theorem pulseLeft_le (g : Globals) :
  g.pulseLeft ≤ 4000
  := by
  unfold pulseLeft
  split
  · exact Nat.zero_le _
  · omega

end Globals

namespace Relays

variable (s : Relays)

theorem times_poll (r r' : Relay) :
  (s.poll r).times r' = if r' = r then s.times r' - 1 else s.times r'
  := by
  unfold poll
  split
  · dsimp only
    rw [Function.update_apply]
    split
    · rename_i heq
      rw [heq]
    · rfl
  · rename_i hzero
    split
    · rename_i heq
      rw [heq]
      omega
    · rfl

theorem relay_poll (r r' : Relay) :
  (s.poll r).globals.relay r' = (s.globals.relay r' && !decide (r' = r ∧ s.times r = 1))
  := by
  unfold poll
  split
  · rename_i hpos
    dsimp only
    split
    · rename_i hlast
      rw [Globals.relay_switch]
      by_cases heq : r' = r
      · simp [heq, show s.times r = 1 by omega]
      · simp [heq]
    · rename_i hmore
      simp [show s.times r ≠ 1 by omega]
  · rename_i hzero
    simp [show s.times r ≠ 1 by omega]

theorem phase_poll (r : Relay) :
  (s.poll r).phase = s.phase
  := by
  unfold poll
  split
  · rfl
  · rfl

/-- `relay_isr_polling` changes the outputs alone among the globals. -/
theorem globals_poll {β : Type} (f : Globals → β) (r : Relay)
    (h : ∀ g : Globals, ∀ on on1, f { g with relayOn := on, relayOn1 := on1 } = f g) :
  f (s.poll r).globals = f s.globals
  := by
  unfold poll
  split
  · dsimp only
    split
    · exact s.globals.switch_frame f false r (h s.globals)
    · rfl
  · rfl

theorem times_timeUpdate (r : Relay) :
  s.timeUpdate.times r = s.times r - 1
  := by
  show ((s.poll .relay1).poll .relay2).times r = _
  rw [times_poll, times_poll]
  cases r with
  | relay1 | relay2 => rfl

theorem phase_timeUpdate :
  s.timeUpdate.phase = s.phase
  := (phase_poll _ _).trans (phase_poll _ _)

/-- The rest of the globals are as if there were no relay times. -/
theorem globals_relayIsrPolling {β : Type} (f : Globals → β)
    (h : ∀ g : Globals, ∀ on on1, f { g with relayOn := on, relayOn1 := on1 } = f g) :
  f s.relayIsrPolling.globals = f s.globals
  := (globals_poll _ f _ h).trans (globals_poll _ f _ h)

theorem pulseEnds_relayIsrPolling :
  s.relayIsrPolling.globals.PulseEnds = s.globals.PulseEnds
  := s.globals_relayIsrPolling Globals.PulseEnds fun _ _ _ => rfl

theorem relay_relayIsrPolling (r : Relay) :
  s.relayIsrPolling.globals.relay r = (s.globals.relay r && !decide (s.times r = 1))
  := by
  unfold relayIsrPolling
  rw [relay_poll, relay_poll, times_poll]
  cases r with
  | relay1 | relay2 => simp

/-- The outputs after a call of `Time_Update`: a relay whose time is over goes off, a pulse has both
on, and its end both off. -/
theorem relay_timeUpdate (r : Relay) :
  s.timeUpdate.globals.relay r
    = ((s.globals.relay r && !decide (s.times r = 1) || decide s.globals.Pulses)
      && !decide s.globals.PulseEnds)
  := by
  show (UhfReader.timeUpdate s.relayIsrPolling.globals).relay r = _
  have hpulses : s.relayIsrPolling.globals.Pulses = s.globals.Pulses :=
    s.globals_relayIsrPolling Globals.Pulses fun _ _ _ => rfl
  rw [Globals.relay_timeUpdate, relay_relayIsrPolling]
  simp only [hpulses, pulseEnds_relayIsrPolling]

theorem relayFlag_timeUpdate :
  s.timeUpdate.globals.relayFlag = if s.globals.PulseEnds then 0 else s.globals.relayFlag
  := by
  show (UhfReader.timeUpdate s.relayIsrPolling.globals).relayFlag = _
  have hflag : s.relayIsrPolling.globals.relayFlag = s.globals.relayFlag :=
    s.globals_relayIsrPolling Globals.relayFlag fun _ _ _ => rfl
  rw [Globals.relayFlag_timeUpdate, hflag]
  simp only [pulseEnds_relayIsrPolling]

variable {s} {s' : Relays}

/-- `relayON` can be called when it has returned. -/
theorem step_relayON {r : Relay} (h : s.step (.relayON r) = some s') :
  s.phase = .rests
    ∧ s' = { s with phase := if s.times r ≠ 0 then RelayPhase.rests else .switches r }
  := by
  simp only [Relays.step] at h
  split at h
  · rename_i hphase
    cases h
    exact ⟨hphase, rfl⟩
  · cases h

/-- `relayON` goes on with the output or with the time. -/
theorem step_proceeds (h : s.step .proceeds = some s') :
  ∃ r, (s.phase = .switches r
      ∧ s' = { s with globals := s.globals.switch true r, phase := .counts r })
    ∨ (s.phase = .counts r
      ∧ s' = { s with times := Function.update s.times r 2000, phase := .rests })
  := by
  simp only [Relays.step] at h
  split at h
  · cases h
  · rename_i r hphase
    cases h
    exact ⟨r, .inl ⟨hphase, rfl⟩⟩
  · rename_i r hphase
    cases h
    exact ⟨r, .inr ⟨hphase, rfl⟩⟩

/-- `SetRelay` gives the outputs what is in `RelayStatus`. -/
theorem relay_setRelay (h : s.step .setRelay = some s') (r : Relay) :
  s'.globals.relay r = s.globals.statusOf r
  := by
  cases h
  cases r with
  | relay1 | relay2 => rfl

/-- What an event does that is no call of `Time_Update`, but for the outputs. -/
structure Passes (s : Relays) (e : RelayEvent) (s' : Relays) : Prop where
  held : ∀ r, s'.Held r ↔ s.Held r ∨ s.Opens e r
  times : ∀ r, s'.times r ≤ max (s.times r) 2000
  flag : s.globals.relayFlag ≠ 0 → s'.globals.relayFlag ≠ 0
  count : s'.globals.relayCountTimes = s.globals.relayCountTimes
  divider : s'.globals.sysTimer1 = s.globals.sysTimer1

theorem passes_of_step {e : RelayEvent} (he : e ≠ .timeUpdate) (h : s.step e = some s') :
  s.Passes e s'
  := by
  have hsame : ∀ r, s.times r ≤ max (s.times r) 2000 := fun r => le_max_left _ _
  cases e with
  | relayON r =>
    obtain ⟨hphase, rfl⟩ := step_relayON h
    refine ⟨fun r' => ?_, hsame, id, rfl, rfl⟩
    simp only [Held, Opens, hphase, or_false]
    split
    · simp
    · simp
  | proceeds =>
    obtain ⟨r, ⟨hphase, rfl⟩ | ⟨hphase, rfl⟩⟩ := step_proceeds h
    · refine ⟨fun r' => ?_, hsame, fun hflag => ?_, ?_, ?_⟩
      · simp [Held, Opens, hphase]
      · rwa [s.globals.switch_frame Globals.relayFlag true r fun _ _ => rfl]
      · exact s.globals.switch_frame Globals.relayCountTimes true r fun _ _ => rfl
      · exact s.globals.switch_frame Globals.sysTimer1 true r fun _ _ => rfl
    · refine ⟨fun r' => ?_, fun r' => ?_, id, rfl, rfl⟩
      · by_cases heq : r' = r
        · simp [Held, Opens, hphase, heq]
        · simp [Held, Opens, hphase, heq, Ne.symm heq]
      · dsimp only
        rw [Function.update_apply]
        split
        · exact le_max_right _ _
        · exact hsame r'
  | tag =>
    cases h
    refine ⟨fun _ => (or_iff_left id).symm, hsame, fun hflag => ?_, ?_, ?_⟩
    · unfold Globals.linkRelay
      split
      · exact (by decide : (1 : UInt8) ≠ 0)
      · exact hflag
    · obtain ⟨flag, heq⟩ := s.globals.linkRelay_eq
      dsimp only
      rw [heq]
    · obtain ⟨flag, heq⟩ := s.globals.linkRelay_eq
      dsimp only
      rw [heq]
  | timeUpdate => exact absurd rfl he
  | store d =>
    cases h
    exact ⟨fun _ => (or_iff_left id).symm, hsame, id, rfl, rfl⟩
  | setRelay =>
    cases h
    exact ⟨fun _ => (or_iff_left id).symm, hsame, id, rfl, rfl⟩

/-- The outputs after any other event than a call of `Time_Update` or `SetRelay`. -/
theorem relay_step {e : RelayEvent} (htick : e ≠ .timeUpdate) (hset : e ≠ .setRelay)
    (h : s.step e = some s') (r : Relay) :
  s'.globals.relay r = true ↔ s.globals.relay r = true ∨ s.Opens e r
  := by
  cases e with
  | relayON r' =>
    obtain ⟨-, rfl⟩ := step_relayON h
    exact (or_iff_left id).symm
  | proceeds =>
    obtain ⟨r', ⟨hphase, rfl⟩ | ⟨hphase, rfl⟩⟩ := step_proceeds h
    · rw [Globals.relay_switch]
      by_cases heq : r = r'
      · simp [Opens, hphase, heq]
      · simp [Opens, hphase, heq, Ne.symm heq]
    · simp [Opens, hphase]
  | tag =>
    cases h
    rw [Globals.relay_linkRelay]
    exact (or_iff_left id).symm
  | store d =>
    cases h
    cases r with
    | relay1 | relay2 => exact (or_iff_left id).symm
  | timeUpdate => exact absurd rfl htick
  | setRelay => exact absurd rfl hset

/-! ### Relays that are released -/

/-- A relay is on for `relayON` or for a pulse, and the counters are in their ranges. -/
structure Temporary (s : Relays) : Prop where
  reason : ∀ r, s.globals.relay r = true → s.Held r ∨ s.globals.relayFlag ≠ 0
  times : ∀ r, s.times r ≤ 2000
  clock : s.globals.PulseClock

theorem Temporary.timeUpdate (h : s.Temporary) :
  s.timeUpdate.Temporary ∧ s.timeUpdate.globals.pulseLeft = s.globals.pulseLeft - 1
  := by
  have hclock : s.relayIsrPolling.globals.PulseClock = s.globals.PulseClock :=
    s.globals_relayIsrPolling Globals.PulseClock fun _ _ _ =>
      propext ⟨fun h => ⟨h.1, h.2⟩, fun h => ⟨h.1, h.2⟩⟩
  have hleft : s.relayIsrPolling.globals.pulseLeft = s.globals.pulseLeft :=
    s.globals_relayIsrPolling Globals.pulseLeft fun _ _ _ => rfl
  obtain ⟨hclock', hleft'⟩ := (hclock ▸ h.clock : s.relayIsrPolling.globals.PulseClock).timeUpdate
  rw [hleft] at hleft'
  refine ⟨⟨?_, ?_, hclock'⟩, hleft'⟩
  · intro r hon
    rw [relay_timeUpdate, Bool.and_eq_true, Bool.or_eq_true, Bool.and_eq_true, Bool.not_eq_true',
      Bool.not_eq_true', decide_eq_false_iff_not, decide_eq_false_iff_not, decide_eq_true_eq] at hon
    obtain ⟨hon, hgoes⟩ := hon
    rw [relayFlag_timeUpdate, if_neg hgoes]
    obtain ⟨hon, hmore⟩ | hpulses := hon
    · obtain (htimes | hphase) | hflag := h.reason r hon
      · refine .inl (.inl ?_)
        rw [times_timeUpdate]
        omega
      · exact .inl (.inr ((phase_timeUpdate s).trans hphase))
      · exact .inr hflag
    · exact .inr hpulses.2
  · intro r
    rw [times_timeUpdate]
    exact (Nat.sub_le _ _).trans (h.times r)

/-- What one event preserves that is no request to switch a relay on. -/
theorem Temporary.step (h : s.Temporary) {e : RelayEvent} (he : ¬ s.SwitchesOn e)
    (hstep : s.step e = some s') :
  s'.Temporary
  := by
  by_cases htick : e = .timeUpdate
  · rw [htick] at hstep
    cases hstep
    exact h.timeUpdate.1
  · have hpasses := passes_of_step htick hstep
    refine ⟨fun r hon => ?_, fun r => ?_, hpasses.count ▸ h.clock.count,
      hpasses.divider ▸ h.clock.divider⟩
    · have hbefore : s.globals.relay r = true ∨ s.Opens e r := by
        by_cases hset : e = .setRelay
        · rw [hset] at hstep he
          rw [relay_setRelay hstep] at hon
          exact absurd ⟨r, hon⟩ he
        · exact (relay_step htick hset hstep r).mp hon
      obtain hon | hopens := hbefore
      · exact (h.reason r hon).imp (fun hheld => (hpasses.held r).mpr (.inl hheld)) hpasses.flag
      · exact .inl ((hpasses.held r).mpr (.inr hopens))
    · exact (hpasses.times r).trans (max_le (h.times r) (Nat.le_refl _))

/-- Calls of `Time_Update` alone. -/
theorem run_timeUpdates (s : Relays) (n : ℕ) :
  Run.run Relays.step (List.replicate n .timeUpdate) s = some (Relays.timeUpdate^[n] s)
  := by
  induction n generalizing s with
  | zero => rfl
  | succ n ih => exact ih s.timeUpdate

theorem Temporary.timeUpdates (h : s.Temporary) (n : ℕ) :
  (Relays.timeUpdate^[n] s).Temporary ∧ (Relays.timeUpdate^[n] s).phase = s.phase
    ∧ (∀ r, (Relays.timeUpdate^[n] s).times r = s.times r - n)
    ∧ (Relays.timeUpdate^[n] s).globals.pulseLeft = s.globals.pulseLeft - n
  := by
  induction n generalizing s with
  | zero => exact ⟨h, rfl, fun _ => rfl, rfl⟩
  | succ n ih =>
    obtain ⟨hnext, hleft⟩ := h.timeUpdate
    obtain ⟨htemporary, hphase, htimes, hleft'⟩ := ih hnext
    rw [Function.iterate_succ_apply]
    refine ⟨htemporary, hphase.trans s.phase_timeUpdate, fun r => ?_, ?_⟩
    · rw [htimes, times_timeUpdate]
      omega
    · rw [hleft', hleft]
      omega

theorem temporary_start {e : Surroundings} (hoff : ∀ r, (start e).globals.relay r = false) :
  (start e).Temporary
  := by
  refine ⟨fun r hon => ?_, fun _ => Nat.zero_le _, ?_⟩
  · rw [hoff r] at hon
    cases hon
  · have hcount : (powerOn e).relayCountTimes = 0 := by
      rw [powerOn_eq]
      exact applyPara_frame Globals.relayCountTimes _ fun _ _ _ _ _ _ => rfl
    have hdivider : (powerOn e).sysTimer1 = 0 := by
      rw [powerOn_eq]
      exact applyPara_frame Globals.sysTimer1 _ fun _ _ _ _ _ _ => rfl
    exact ⟨hcount ▸ (by decide : 0 < 400), hdivider ▸ (by decide : 0 ≤ 9)⟩

/-- With the factory settings the relays are off. -/
theorem off_blank (r : Relay) :
  (start .blank).globals.relay r = false
  := by
  cases r with
  | relay1 | relay2 => decide +kernel

end Relays

/-- When no relay was switched on by a request, both are off 4000 calls of `Time_Update` after
`relayON` was left and the last tag was found, whatever went on before. -/
theorem relays_released {e : Surroundings} (hoff : ∀ r, (Relays.start e).globals.relay r = false)
    {es : List RelayEvent} {s : Relays}
    (halong : Run.Along Relays.step (fun s e => ¬ s.SwitchesOn e) es (.start e))
    (hrun : Run.run Relays.step es (.start e) = some s) (hrests : s.phase = .rests) {n : ℕ}
    (hn : 4000 ≤ n) :
  ∃ s', Run.run Relays.step (List.replicate n .timeUpdate) s = some s'
    ∧ ∀ r, s'.globals.relay r = false
  := by
  have htemporary : s.Temporary :=
    halong.invariant (fun _ _ _ h he hstep => h.step he hstep) (Relays.temporary_start hoff) hrun
  obtain ⟨htemporary', hphase, htimes, hleft⟩ := htemporary.timeUpdates n
  refine ⟨_, Relays.run_timeUpdates s n, fun r => ?_⟩
  by_contra hon
  have hpulse := s.globals.pulseLeft_le
  obtain (hheld | hcounts) | hflag := htemporary'.reason r (Bool.eq_true_of_not_eq_false hon)
  · have hle := htemporary.times r
    rw [htimes] at hheld
    omega
  · rw [hphase, hrests] at hcounts
    cases hcounts
  · exact hflag (htemporary'.clock.over (by omega))

/-- In active mode, a door is opened and a tag starts a pulse. -/
theorem relays_released_pulse :
  ∃ s s', Run.run Relays.step
      [.store (((powerOn .blank).gDevice.put Offset.readerWorkStatus workAct).put
        Offset.relayCTLEnable 1), .relayON .relay1, .proceeds, .tag, .proceeds, .timeUpdate]
      (.start .blank) = some s
    ∧ s.globals.relayFlag = 1 ∧ s.globals.relayOn = true
    ∧ Run.run Relays.step (List.replicate 4000 .timeUpdate) s = some s'
    ∧ ∀ r, s'.globals.relay r = false
  := by
  obtain ⟨s, hrun, hs⟩ := (Option.any_eq_true ..).mp (by decide +kernel :
    (Run.run Relays.step
      [.store (((powerOn .blank).gDevice.put Offset.readerWorkStatus workAct).put
        Offset.relayCTLEnable 1), .relayON .relay1, .proceeds, .tag, .proceeds, .timeUpdate]
      (.start .blank)).any
      fun s => s.globals.relayFlag = 1 ∧ s.globals.relayOn = true ∧ s.phase = .rests)
  obtain ⟨hflag, hon, hrests⟩ := of_decide_eq_true hs
  obtain ⟨s', hrun', hoff'⟩ := relays_released Relays.off_blank
    (.of_forall (by simp [Relays.SwitchesOn])) hrun hrests (Nat.le_refl 4000)
  exact ⟨s, s', hrun, hflag, hon, hrun', hoff'⟩

/-! ### Doors that stay open -/

namespace Relays

variable {s s' : Relays}

/-- A relay that `relayON` has is on, and `relayON` does not begin before the time is over. -/
structure Kept (s : Relays) : Prop where
  on : ∀ r, s.Held r → s.globals.relay r = true
  fresh : ∀ r, s.phase = .switches r ∨ s.phase = .counts r → s.times r = 0

/-- A relay whose time is over is not switched on. -/
theorem fresh_step (h : ∀ r, s.phase = .switches r ∨ s.phase = .counts r → s.times r = 0)
    {e : RelayEvent} (hstep : s.step e = some s') :
  ∀ r, s'.phase = .switches r ∨ s'.phase = .counts r → s'.times r = 0
  := by
  intro r hphase'
  cases e with
  | relayON r' =>
    obtain ⟨-, rfl⟩ := step_relayON hstep
    dsimp only at hphase' ⊢
    split at hphase'
    · exact absurd hphase' nofun
    · rename_i htimes
      obtain hphase' | hphase' := hphase'
      · cases hphase'
        exact not_not.mp htimes
      · cases hphase'
  | proceeds =>
    obtain ⟨r', ⟨hphase, rfl⟩ | ⟨hphase, rfl⟩⟩ := step_proceeds hstep
    · obtain hphase' | hphase' := hphase'
      · cases hphase'
      · cases hphase'
        exact h r (.inl hphase)
    · exact absurd hphase' nofun
  | tag | store d =>
    cases hstep
    exact h r hphase'
  | setRelay =>
    cases hstep
    exact h r hphase'
  | timeUpdate =>
    cases hstep
    rw [phase_timeUpdate] at hphase'
    rw [times_timeUpdate, h r hphase']

/-- A relay stays on for `relayON` if and only if the event does not cut its time short. -/
theorem Kept.step_iff (h : s.Kept) {e : RelayEvent} (hstep : s.step e = some s') :
  (∀ r, s'.Held r → s'.globals.relay r = true) ↔ ¬ s.CutShort e
  := by
  by_cases htick : e = .timeUpdate
  · rw [htick] at hstep ⊢
    cases hstep
    have hheld : ∀ r, s.timeUpdate.Held r ↔ 1 < s.times r ∨ s.phase = .counts r := by
      intro r
      unfold Held
      rw [times_timeUpdate, phase_timeUpdate]
      refine or_congr_left ?_
      omega
    by_cases hends : s.globals.PulseEnds
    · simp only [hheld, relay_timeUpdate, hends, CutShort]
      simp
    · have hgoes : ¬ s.CutShort .timeUpdate := fun hcut => hends hcut.1
      refine iff_of_true (fun r hr => ?_) hgoes
      have hmore : s.Held r ∧ s.times r ≠ 1 := by
        obtain hlt | hphase := (hheld r).mp hr
        · exact ⟨.inl (by omega), by omega⟩
        · exact ⟨.inr hphase, by rw [h.fresh r (.inr hphase)]; decide⟩
      rw [relay_timeUpdate]
      simp [h.on r hmore.1, hmore.2, hends]
  · have hpasses := passes_of_step htick hstep
    by_cases hset : e = .setRelay
    · rw [hset] at hstep hpasses ⊢
      have hheld : ∀ r, s'.Held r ↔ s.Held r := fun r => (hpasses.held r).trans (or_iff_left id)
      simp only [hheld, relay_setRelay hstep, CutShort]
      simp
    · have hcut : ¬ s.CutShort e := by
        cases e with
        | timeUpdate => exact absurd rfl htick
        | setRelay => exact absurd rfl hset
        | relayON | proceeds | tag | store => exact id
      refine iff_of_true (fun r hr => ?_) hcut
      exact (relay_step htick hset hstep r).mpr (((hpasses.held r).mp hr).imp_left (h.on r))

theorem Kept.step (h : s.Kept) {e : RelayEvent} (he : ¬ s.CutShort e) (hstep : s.step e = some s') :
  s'.Kept
  := ⟨(h.step_iff hstep).mpr he, fresh_step h.fresh hstep⟩

/-- The event can happen, or cuts nothing short. -/
theorem not_cutShort_of_none {e : RelayEvent} (h : s.step e = none) :
  ¬ s.CutShort e
  := by
  cases e with
  | timeUpdate => cases h
  | setRelay => cases h
  | relayON | proceeds | tag | store => exact id

theorem kept_start (e : Surroundings) :
  (start e).Kept
  := by
  constructor
  · rintro r (htimes | hphase)
    · exact absurd rfl htimes
    · cases hphase
  · rintro r (hphase | hphase)
    · cases hphase
    · cases hphase

end Relays

/-- A door that was opened stays open for its time if and only if no pulse ends and no request
switches its relay off before. -/
theorem doors_open_iff {e : Surroundings} (es : List RelayEvent) :
  Run.Along.Throughout Relays.step (fun s => ∀ r, s.Held r → s.globals.relay r = true) es (.start e)
    ↔ Run.Along Relays.step (fun s e => ¬ s.CutShort e) es (.start e)
  := Run.Along.throughout_iff (I := Relays.Kept) (R := fun _ _ => True)
    (fun _ _ _ h _ hstep => h.step_iff hstep) (fun _ _ _ h _ he hstep => h.step he hstep)
    (fun _ _ _ _ hstop => Relays.not_cutShort_of_none hstop) (Relays.kept_start e)
    (Relays.kept_start e).on (.of_forall fun _ _ _ => trivial)

/-! ### For how long a door is open -/

/-- The event is a call of `Time_Update`. -/
def RelayEvent.isTick : RelayEvent → Bool
  | .timeUpdate => true
  | _ => false

/-- The event leaves the relays to `relayON`. -/
def RelayEvent.Spares : RelayEvent → Prop
  | .tag | .setRelay => False
  | _ => True

namespace Relays

variable {s s' : Relays} {r : Relay}

/-- As long as the time of a relay is not over, calls of `relayON` for it do nothing. -/
theorem times_step {e : RelayEvent} (hstep : s.step e = some s') (htimes : s.times r ≠ 0)
    (hphase : ¬ (s.phase = .switches r ∨ s.phase = .counts r)) :
  s'.times r = s.times r - [e].countP RelayEvent.isTick
    ∧ ¬ (s'.phase = .switches r ∨ s'.phase = .counts r)
  := by
  cases e with
  | relayON r' =>
    obtain ⟨-, rfl⟩ := step_relayON hstep
    refine ⟨rfl, ?_⟩
    dsimp only
    split
    · exact nofun
    · rename_i hover
      rintro (hphase' | hphase')
      · cases hphase'
        exact hover htimes
      · cases hphase'
  | proceeds =>
    obtain ⟨r', ⟨hswitches, rfl⟩ | ⟨hcounts, rfl⟩⟩ := step_proceeds hstep
    · refine ⟨rfl, ?_⟩
      rintro (hphase' | hphase')
      · cases hphase'
      · cases hphase'
        exact hphase (.inl hswitches)
    · refine ⟨Function.update_of_ne ?_ _ _, nofun⟩
      rintro rfl
      exact hphase (.inr hcounts)
  | timeUpdate =>
    cases hstep
    exact ⟨s.times_timeUpdate r, s.phase_timeUpdate ▸ hphase⟩
  | tag | store d =>
    cases hstep
    exact ⟨rfl, hphase⟩
  | setRelay =>
    cases hstep
    exact ⟨rfl, hphase⟩

/-- The time of a relay is counted down to its end. -/
theorem times_run {es : List RelayEvent} (hrun : Run.run Relays.step es s = some s')
    (hticks : es.countP RelayEvent.isTick < s.times r)
    (hphase : ¬ (s.phase = .switches r ∨ s.phase = .counts r)) :
  s'.times r = s.times r - es.countP RelayEvent.isTick
    ∧ ¬ (s'.phase = .switches r ∨ s'.phase = .counts r)
  := by
  induction es generalizing s with
  | nil =>
    cases hrun
    exact ⟨rfl, hphase⟩
  | cons e es ih =>
    obtain ⟨t, hstep, hrest⟩ := Run.run_cons_eq_some hrun
    have hsum : ([e] ++ es).countP RelayEvent.isTick
        = [e].countP RelayEvent.isTick + es.countP RelayEvent.isTick := List.countP_append
    rw [List.singleton_append] at hsum
    rw [hsum] at hticks ⊢
    obtain ⟨htimes, hphase'⟩ := times_step hstep (by omega) hphase
    obtain ⟨htimes', hphase''⟩ := ih hrest (by omega) hphase'
    exact ⟨by omega, hphase''⟩

/-- Without tags and requests, `relayON` has the relays to itself. -/
structure Doors (s : Relays) : Prop where
  kept : s.Kept
  noPulse : s.globals.relayFlag = 0

/-- A relay whose time is over goes off. -/
theorem Doors.closes (h : s.Doors) (hlast : s.times r = 1) :
  s.timeUpdate.globals.relay r = false
  := by
  have hpulses : ¬ s.globals.Pulses := fun hpulses => hpulses.2 h.noPulse
  rw [relay_timeUpdate, hlast]
  simp [hpulses]

theorem Doors.step (h : s.Doors) {e : RelayEvent} (he : e.Spares) (hstep : s.step e = some s') :
  s'.Doors
  := by
  have hcut : ¬ s.CutShort e := by
    cases e with
    | timeUpdate => exact fun hcut => hcut.1.1.2 h.noPulse
    | setRelay => exact he.elim
    | relayON | proceeds | tag | store => exact id
  refine ⟨h.kept.step hcut hstep, ?_⟩
  have hflag := h.noPulse
  cases e with
  | tag | setRelay => exact he.elim
  | store d =>
    cases hstep
    exact hflag
  | timeUpdate =>
    cases hstep
    rw [relayFlag_timeUpdate, hflag, ite_self]
  | relayON r =>
    obtain ⟨-, rfl⟩ := step_relayON hstep
    exact hflag
  | proceeds =>
    obtain ⟨r, ⟨-, rfl⟩ | ⟨-, rfl⟩⟩ := step_proceeds hstep
    · exact (s.globals.switch_frame Globals.relayFlag true r fun _ _ => rfl).trans hflag
    · exact hflag

theorem doors_start (e : Surroundings) :
  (start e).Doors
  := by
  refine ⟨kept_start e, ?_⟩
  have hflag : (powerOn e).relayFlag = 0 := by
    rw [powerOn_eq]
    exact applyPara_frame Globals.relayFlag _ fun _ _ _ _ _ _ => rfl
  exact hflag

end Relays

/-- Without tags and requests, a door that is opened is open until the 2000th call of `Time_Update`,
which closes it. -/
theorem door_open_exactly {e : Surroundings} {es es' : List RelayEvent} {s t s' : Relays}
    {r : Relay}
    (hspares : ∀ e ∈ es ++ es', e.Spares) (hrun : Run.run Relays.step es (.start e) = some s)
    (hphase : s.phase = .counts r) (hopened : s.step .proceeds = some t)
    (hrun' : Run.run Relays.step es' t = some s')
    (hticks : es'.countP RelayEvent.isTick < 2000) :
  s'.globals.relay r = true
    ∧ (es'.countP RelayEvent.isTick = 1999 → s'.timeUpdate.globals.relay r = false)
  := by
  have hinvariant : ∀ {es : List RelayEvent} {s s' : Relays}, (∀ e ∈ es, e.Spares) → s.Doors →
      Run.run Relays.step es s = some s' → s'.Doors := fun hes hs hrun =>
    Run.Along.invariant (P := fun _ e => e.Spares) (fun _ _ _ h he hstep => h.step he hstep) hs
      (.of_forall fun e he _ => hes e he) hrun
  have hdoors : s.Doors :=
    hinvariant (fun e he => hspares e (List.mem_append_left _ he)) (Relays.doors_start e) hrun
  have hdoors' : s'.Doors :=
    hinvariant (fun e he => hspares e (List.mem_append_right _ he))
      (hdoors.step (e := .proceeds) trivial hopened) hrun'
  -- `relayON` has set the time and returned
  have htimes : t.times r = 2000 ∧ t.phase = .rests := by
    simp only [Relays.step, hphase] at hopened
    cases hopened
    exact ⟨Function.update_self .., rfl⟩
  have hfree : ¬ (t.phase = .switches r ∨ t.phase = .counts r) := by
    rw [htimes.2]
    exact nofun
  obtain ⟨hleft, hfree'⟩ := Relays.times_run hrun' (htimes.1 ▸ hticks) hfree
  rw [htimes.1] at hleft
  refine ⟨hdoors'.kept.on r (.inl (by omega)), fun hlast => ?_⟩
  exact hdoors'.closes (by omega)

/-- The first door of a reader whose first relay has been stored as switched on: the door closes all
the same. -/
theorem door_open_exactly_relay1 :
  let e : Surroundings := { Surroundings.blank with
    flash := (saveDataTo Surroundings.blank.flash
      ((powerOn .blank).gDevice.put Offset.relayStatus 1)).2 }
  (Relays.start e).globals.relay .relay1 = true
    ∧ ∃ s t s', Run.run Relays.step [.relayON .relay1, .proceeds] (.start e) = some s
      ∧ s.step .proceeds = some t
      ∧ Run.run Relays.step (List.replicate 1999 .timeUpdate) t = some s'
      ∧ s'.globals.relay .relay1 = true ∧ s'.timeUpdate.globals.relay .relay1 = false
  := by
  intro e
  have hstored : (Relays.start e).globals.relay .relay1 = true := by
    unfold e Relays.start
    rw [powerOn_eq]
    decide +kernel
  have hspares : ∀ e ∈ [.relayON .relay1, .proceeds] ++ List.replicate 1999 .timeUpdate,
      RelayEvent.Spares e := by
    intro e he
    obtain he | he := List.mem_append.mp he
    · simp only [List.mem_cons, List.not_mem_nil, or_false] at he
      obtain rfl | rfl := he
      · trivial
      · trivial
    · rw [List.eq_of_mem_replicate he]
      trivial
  have hcount : (List.replicate 1999 RelayEvent.timeUpdate).countP RelayEvent.isTick = 1999 :=
    List.countP_replicate.trans (if_pos rfl)
  obtain ⟨hon, hlast⟩ := door_open_exactly (e := e) (r := .relay1) hspares rfl rfl rfl
    (Relays.run_timeUpdates _ 1999) (by rw [hcount]; decide)
  exact ⟨hstored, _, _, _, rfl, rfl, Relays.run_timeUpdates _ 1999, hon, hlast hcount⟩

end UhfReader
