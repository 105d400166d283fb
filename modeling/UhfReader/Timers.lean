import UhfReader.Boot
import UhfReader.Handlers
import UhfReader.Radio

/-!
# Software timers

`Time_Update` counts down seven timers, on every tenth of its calls.  A timer that stands at `1`
overflows, and any other is decremented on 32 bits, so that one that was started with `0` comes to
`1` only after `2 ^ 32 - 1` updates.
-/

namespace UhfReader

/-- The timers that `Time_Update` counts down. -/
inductive SoftTimer where
  | localTimer
  | local485Timer
  | uipTimer
  | readCardTimer
  | outPutTimer
  | r2000LocalTimer
  | r2000SendTimer
  deriving DecidableEq, Repr

/-- The globals with the timers of the serial ports and of the datagrams. -/
structure Timed where
  globals : Globals
  localTimer : STimer
  local485Timer : STimer
  uipTimer : STimer

namespace Timed

/-- A timer. -/
def get (s : Timed) : SoftTimer → STimer
  | .localTimer => s.localTimer
  | .local485Timer => s.local485Timer
  | .uipTimer => s.uipTimer
  | .readCardTimer => s.globals.readCardTimer
  | .outPutTimer => s.globals.outPutTimer
  | .r2000LocalTimer => s.globals.r2000.localTimer
  | .r2000SendTimer => s.globals.r2000.sendTimer

/-- A timer replaced. -/
def set (s : Timed) (w : SoftTimer) (t : STimer) : Timed :=
  match w with
  | .localTimer => { s with localTimer := t }
  | .local485Timer => { s with local485Timer := t }
  | .uipTimer => { s with uipTimer := t }
  | .readCardTimer => { s with globals := { s.globals with readCardTimer := t } }
  | .outPutTimer => { s with globals := { s.globals with outPutTimer := t } }
  | .r2000LocalTimer => { s with globals := { s.globals with r2000.localTimer := t } }
  | .r2000SendTimer => { s with globals := { s.globals with r2000.sendTimer := t } }

@[simp]
theorem get_set (s : Timed) (w : SoftTimer) (t : STimer) :
  (s.set w t).get w = t
  := by
  cases w with
  | localTimer | local485Timer | uipTimer | readCardTimer | outPutTimer | r2000LocalTimer
  | r2000SendTimer => rfl

theorem get_set_of_ne (s : Timed) {w w' : SoftTimer} (t : STimer) (h : w ≠ w') :
  (s.set w' t).get w = s.get w
  := by
  cases w' with
  | localTimer | local485Timer | uipTimer | readCardTimer | outPutTimer | r2000LocalTimer
  | r2000SendTimer =>
    cases w with
    | localTimer | local485Timer | uipTimer | readCardTimer | outPutTimer | r2000LocalTimer
    | r2000SendTimer => first | rfl | exact absurd rfl h

/-- The next call of `Time_Update` updates the timers. -/
def Updates (s : Timed) : Prop := s.globals.sysTimer1 + 1 > 9

instance (s : Timed) : Decidable s.Updates := inferInstanceAs (Decidable (_ > _))

theorem updates_set (s : Timed) (w : SoftTimer) (t : STimer) :
  (s.set w t).Updates ↔ s.Updates
  := by
  cases w with
  | localTimer | local485Timer | uipTimer | readCardTimer | outPutTimer | r2000LocalTimer
  | r2000SendTimer => rfl

/-- `Time_Update` -/
def timeUpdate (s : Timed) : Timed :=
  { globals := UhfReader.timeUpdate s.globals
    localTimer := if s.Updates then s.localTimer.update else s.localTimer
    local485Timer := if s.Updates then s.local485Timer.update else s.local485Timer
    uipTimer := if s.Updates then s.uipTimer.update else s.uipTimer }

end Timed

/-- One timer update of `Time_Update` for a timer; for `R2000.send_timer` it does not look at
`isStart`. -/
def SoftTimer.update (w : SoftTimer) (t : STimer) : STimer :=
  if w = .r2000SendTimer then t.updateUnguarded else t.update

/-- A call of `Time_Update` updates all timers, or none. -/
theorem Timed.get_timeUpdate (s : Timed) (w : SoftTimer) :
  s.timeUpdate.get w = if s.Updates then w.update (s.get w) else s.get w
  := by
  obtain ⟨hle, heq⟩ | ⟨hlt, _, _, _, _, _, _, heq⟩ := timeUpdate_cases s.globals
  · have hnot : ¬ s.Updates := Nat.not_lt.mpr hle
    cases w with
    | localTimer | local485Timer | uipTimer | readCardTimer | outPutTimer | r2000LocalTimer
    | r2000SendTimer => simp [Timed.timeUpdate, Timed.get, heq, hnot]
  · have hupdates : s.Updates := hlt
    cases w with
    | localTimer | local485Timer | uipTimer | readCardTimer | outPutTimer | r2000LocalTimer
    | r2000SendTimer =>
      simp [Timed.timeUpdate, Timed.get, heq, hupdates, SoftTimer.update, updateTimers]

/-! ### Runs -/

/-- What happens to the timers: `Time_Update` is called, or a timer is started or stopped, or it is
asked for its overflow, which `timerIsOverflow` takes back. -/
inductive TimerEvent where
  | timeUpdate
  | timerStart (w : SoftTimer) (time : ℕ)
  | timerStop (w : SoftTimer)
  | timerIsOverflow (w : SoftTimer)
  deriving DecidableEq, Repr

namespace TimerEvent

/-- The timer is started or stopped. -/
def Restarts (w : SoftTimer) : TimerEvent → Prop
  | .timerStart w' _ | .timerStop w' => w' = w
  | .timeUpdate | .timerIsOverflow _ => False

end TimerEvent

namespace Timed

/-- An event. -/
def step (s : Timed) : TimerEvent → Timed
  | .timeUpdate => s.timeUpdate
  | .timerStart w time => s.set w ((s.get w).start time)
  | .timerStop w => s.set w (s.get w).stop
  | .timerIsOverflow w => s.set w { s.get w with isOverflow := 0 }

/-- The timers after some events. -/
def run (s : Timed) (es : List TimerEvent) : Timed := es.foldl step s

/-- The number of timer updates among some events. -/
def updates : List TimerEvent → Timed → ℕ
  | [], _ => 0
  | e :: es, s => (if e = .timeUpdate ∧ s.Updates then 1 else 0) + updates es (s.step e)

variable {s : Timed} {w : SoftTimer} {e : TimerEvent} {es : List TimerEvent}

theorem run_concat (s : Timed) (es : List TimerEvent) (e : TimerEvent) :
  s.run (es ++ [e]) = (s.run es).step e
  := by
  rw [run, List.foldl_append]
  rfl

theorem updates_concat (s : Timed) (es : List TimerEvent) (e : TimerEvent) :
  updates (es ++ [e]) s
    = updates es s + if e = .timeUpdate ∧ (s.run es).Updates then 1 else 0
  := by
  induction es generalizing s with
  | nil => exact Nat.add_comm _ _
  | cons e' es ih =>
    rw [List.cons_append, updates, ih, updates, Nat.add_assoc]
    rfl

/-- A timer that is running, of the `n` updates after its start `u` have been made. -/
structure Counting (n u : ℕ) (t : STimer) : Prop where
  start : t.isStart ≠ 0
  pending : t.isOverflow = 0
  time : t.time = (n - u) % 2 ^ 32
  lt : u < n
  le : n ≤ 2 ^ 32

/-- The number of updates after which a timer overflows that is started with `time`. -/
def lasting (time : ℕ) : ℕ := if time = 0 then 2 ^ 32 else time

theorem Counting.of_start (t : STimer) {time : ℕ} (h : time < 2 ^ 32) :
  Counting (lasting time) 0 (t.start time)
  := by
  unfold lasting
  constructor
  · exact (by decide : (1 : UInt8) ≠ 0)
  · rfl
  · show time = _
    split
    · omega
    · omega
  · split
    · omega
    · omega
  · split
    · omega
    · omega

/-- An update of a running timer: the last one makes it overflow. -/
theorem Counting.update {n u : ℕ} {t : STimer} (h : Counting n u t) (w : SoftTimer) :
  if u + 1 = n then (w.update t).isOverflow = 1 else Counting n (u + 1) (w.update t)
  := by
  have hcount : w.update t = t.count := by
    unfold SoftTimer.update STimer.update STimer.updateUnguarded
    rw [if_pos h.pending, if_pos (And.intro h.start h.pending), ite_self]
  have hlt := h.lt
  have hle := h.le
  have htime := h.time
  rw [hcount]
  unfold STimer.count
  split
  · rename_i hlast
    rw [if_pos (by omega)]
  · rename_i hmore
    rw [if_neg (by omega)]
    unfold STimer.decrement
    constructor
    · dsimp only
      exact h.start
    · dsimp only
      exact h.pending
    · dsimp only
      omega
    · omega
    · exact hle

/-- A running timer is changed by timer updates only. -/
theorem Counting.step {n u : ℕ} (h : Counting n u (s.get w)) (he : ¬ e.Restarts w)
    (hlast : ¬ (e = .timeUpdate ∧ s.Updates)) :
  Counting n u ((s.step e).get w)
  := by
  cases e with
  | timeUpdate =>
    have hnot : ¬ s.Updates := fun hupdates => hlast ⟨rfl, hupdates⟩
    show Counting n u (s.timeUpdate.get w)
    rw [s.get_timeUpdate, if_neg hnot]
    exact h
  | timerStart w' time | timerStop w' =>
    have hne : w ≠ w' := fun heq => he heq.symm
    simp only [Timed.step]
    rw [s.get_set_of_ne _ hne]
    exact h
  | timerIsOverflow w' =>
    simp only [Timed.step]
    by_cases hw : w = w'
    · -- there is no overflow to take back
      subst hw
      rw [s.get_set]
      exact ⟨h.start, rfl, h.time, h.lt, h.le⟩
    · rw [s.get_set_of_ne _ hw]
      exact h

/-- As long as a timer has not overflowed, it is running. -/
theorem Counting.run {n : ℕ} (h : Counting n 0 (s.get w)) (hes : ∀ e ∈ es, ¬ e.Restarts w)
    (hlt : updates es s < n) :
  Counting n (updates es s) ((s.run es).get w)
  := by
  induction es using List.reverseRecOn with
  | nil => exact h
  | append_singleton es e ih =>
    have he := hes e (List.mem_append_right es List.mem_cons_self)
    have hbefore := fun e' he' => hes e' (List.mem_append_left [e] he')
    rw [updates_concat] at hlt ⊢
    rw [run_concat]
    by_cases hupdate : e = .timeUpdate ∧ (s.run es).Updates
    · rw [if_pos hupdate] at hlt ⊢
      have hrunning := (ih hbefore (by omega)).update w
      rw [if_neg (by omega)] at hrunning
      rw [hupdate.1]
      show Counting _ _ ((s.run es).timeUpdate.get w)
      rw [get_timeUpdate, if_pos hupdate.2]
      exact hrunning
    · rw [if_neg hupdate] at hlt ⊢
      exact (ih hbefore hlt).step he hupdate

/-- The update number `n` makes a running timer overflow. -/
theorem Counting.overflows {n : ℕ} (h : Counting n 0 (s.get w))
    (hes : ∀ e ∈ es, ¬ e.Restarts w) (hlast : updates es s + 1 = n)
    (hupdates : (s.run es).Updates) :
  (((s.run es).step .timeUpdate).get w).isOverflow = 1
  := by
  have hupdate := (h.run hes (by omega)).update w
  rw [if_pos hlast] at hupdate
  show ((s.run es).timeUpdate.get w).isOverflow = 1
  rw [get_timeUpdate, if_pos hupdates]
  exact hupdate

/-- A timer that was just started is running. -/
theorem counting_start (s : Timed) (w : SoftTimer) {time : ℕ} (h : time < 2 ^ 32) :
  Counting (lasting time) 0 ((s.step (.timerStart w time)).get w)
  := by
  show Counting _ _ ((s.set w _).get w)
  rw [get_set]
  exact .of_start _ h

end Timed

/-- Started with `time`, the timer overflows with the timer update number `max(time, 1)`, unless
it is started again or stopped: before, it has no overflow, and right after this update it has
one. -/
def SoftTimer.FiresOnTime (w : SoftTimer) (time : ℕ) : Prop :=
  ∀ (s : Timed) (es : List TimerEvent), (∀ e ∈ es, ¬ e.Restarts w) →
    let started := s.step (.timerStart w time)
    (Timed.updates es started < max time 1 → ((started.run es).get w).isOverflow = 0)
      ∧ (Timed.updates es started + 1 = max time 1 → (started.run es).Updates →
        (((started.run es).step .timeUpdate).get w).isOverflow = 1)

/-- Started with `0`, a timer is decremented by the first update, which should make it overflow. -/
theorem not_firesOnTime_zero (w : SoftTimer) :
  ¬ w.FiresOnTime 0
  := by
  intro hfires
  obtain ⟨s, hs⟩ : ∃ s : Timed, s.Updates := ⟨⟨{ Globals.reset .blank with sysTimer1 := 9 },
    .cleared, .cleared, .cleared⟩, by decide⟩
  have hupdates : (s.step (.timerStart w 0)).Updates := (s.updates_set w _).mpr hs
  have hoverflow := (hfires s [] fun e he => absurd he List.not_mem_nil).2 rfl hupdates
  have hcounting := (Timed.counting_start s w (Nat.two_pow_pos 32)).update w
  rw [if_neg (by decide)] at hcounting
  have hpending := hcounting.pending
  have hget := (s.step (.timerStart w 0)).get_timeUpdate w
  rw [if_pos hupdates] at hget
  rw [← hget] at hpending
  exact absurd (hpending.symm.trans hoverflow) (by decide)

/-- A timer overflows on time if and only if it is not started with `0`. -/
theorem firesOnTime_iff (w : SoftTimer) (time : UInt32) :
  w.FiresOnTime time.toNat ↔ time ≠ 0
  := by
  constructor
  · rintro hfires rfl
    exact not_firesOnTime_zero w hfires
  · intro hne s es hes started
    have htime : 0 < time.toNat := by
      apply Nat.pos_of_ne_zero
      intro hzero
      exact hne (UInt32.toNat_inj.mp hzero)
    have hcounting := Timed.counting_start s w time.toNat_lt
    rw [Timed.lasting, if_neg htime.ne'] at hcounting
    rw [Nat.max_eq_left htime]
    constructor
    · intro hbefore
      exact (hcounting.run hes hbefore).pending
    · intro hlast hupdates
      exact hcounting.overflows hes hlast hupdates

/-- The record with tags sent to RS232, and a time of `0` between two signs of life. -/
def restlessPara : SDevice :=
  (defaultPara.put Offset.cardOutModule 0).put Offset.callPCTimeInterver 0

/-- With this record `OutPutTimer` is started with `0`, and does not overflow on time. -/
theorem outPutTimer_late :
  outPutTime restlessPara = 0 ∧ ¬ SoftTimer.outPutTimer.FiresOnTime (outPutTime restlessPara)
  := by
  have htime : outPutTime restlessPara = 0 := by decide +kernel
  refine ⟨htime, ?_⟩
  rw [htime]
  exact not_firesOnTime_zero .outPutTimer

end UhfReader
