import Mathlib.Data.Bool.AllAny
import UhfReader.Boot
import UhfReader.Command
import UhfReader.Lib.Framing
import UhfReader.Lib.Run

/-!
# The serial ports

The RS232 and the RS485 port take in requests byte by byte and are served by the main loop.
The interrupt handlers and the module functions of the two ports are the same but for their
names; `SLocalTransData.receive` and `localModule` are what they have in common.

The buffer of a port is part of a packed record: a request handler that writes past its 255
bytes hits `index`, `len` and the timer.
-/

open Memory

namespace UhfReader

/-- `BootCode`, the first byte of a request. -/
@[simp] def bootCode : UInt8 := 0x40

/-- `LOCAL_REV_TIMER` -/
@[simp] def localRevTimer : ℕ := 50

/-- `LOCAL_485REV_TIMER` -/
@[simp] def local485RevTimer : ℕ := 50

/-- `SLOCAL_TRANS_DATA` and `SLOCAL_485_DATA`, the packed record of a serial port. -/
@[ext]
structure SLocalTransData where
  setMark : UInt8
  /-- `rec_buf.buf` -/
  buf : Block 255
  /-- `rec_buf.index`, the place of the next byte received -/
  index : ℕ
  /-- `rec_buf.len` -/
  len : ℕ
  localTimer : STimer

/-- The 32-bit number that stands in memory at `off`. -/
def loadNat (m : Mem) (off : ℕ) : ℕ :=
  (m off).toNat + 256 * ((m (off + 1)).toNat + 256 * ((m (off + 2)).toNat
    + 256 * (m (off + 3)).toNat))

namespace SLocalTransData

/-- `memset(&local, 0, sizeof(local))`. -/
def cleared : SLocalTransData :=
  { setMark := 0, buf := Block.zero 255, index := 0, len := 0, localTimer := .cleared }

/-- `local.rec_buf.buf[i] = b`, for `i` up to `BUF_LEN`: the byte behind the buffer is the
lowest of `index`. -/
def store (l : SLocalTransData) (i : ℕ) (b : UInt8) : SLocalTransData :=
  if i < 255 then { l with buf := l.buf.put i b }
  else { l with index := setByte l.index (i - 255) b }

/-- The memory from `local.rec_buf.buf` on: the buffer and the members after it. -/
def load (l : SLocalTransData) : Mem := fun i =>
  if i < 255 then l.buf.load i
  else if i < 259 then getByte l.index (i - 255)
  else if i < 263 then getByte l.len (i - 259)
  else if i = 263 then l.localTimer.isStart
  else if i = 264 then l.localTimer.isOverflow
  else if i < 269 then getByte l.localTimer.time (i - 265)
  else 0

/-- The record after the memory from `local.rec_buf.buf` on was written. -/
def written (l : SLocalTransData) (m : Mem) : SLocalTransData :=
  { setMark := l.setMark
    buf := fun i => m i.val
    index := loadNat m 255
    len := loadNat m 259
    localTimer := ⟨m 263, m 264, loadNat m 265⟩ }

/-- What the interrupt handlers of the ports do with a byte; `time` is the start value of the
receive timer. -/
def receive (time : ℕ) (l : SLocalTransData) (tmpChar : UInt8) : SLocalTransData :=
  if l.setMark = 0 then
    if l.index = 0 ∧ tmpChar = bootCode then
      { l.store 0 tmpChar with index := 1, localTimer := l.localTimer.start time }
    else if l.index ≠ 0 then
      if l.index > bufLen then
        { l with index := 0, len := 0, localTimer := l.localTimer.stop }
      else
        let l := l.store l.index tmpChar
        if l.index > (l.load 1).toNat then
          { l with len := l.index + 1, index := 0, setMark := 1, localTimer := l.localTimer.stop }
        else { l with index := l.index + 1 }
    else l
  else l

/-- The module functions up to their call of `processParamTable`: an expired timer resets the
port, and a frame that may be one is taken.  The flag tells whether it is processed. -/
def see (l : SLocalTransData) : SLocalTransData × Bool :=
  let l := if l.localTimer.isOverflow ≠ 0 then cleared else l
  if l.setMark ≠ 0 then
    if l.len < 4 ∨ l.len > bufLen then (cleared, false) else ({ l with setMark := 0 }, true)
  else (l, false)

/-- The call of `processParamTable`, which builds the reply in the buffer. -/
def process (cmdOrigin : CmdOrigin) (r : Reader) (l : SLocalTransData) :
    Option (UInt8 × SLocalTransData × Reader) :=
  (processParamTable cmdOrigin l.load l.len r).map fun out => (out.1, l.written out.2.1, out.2.2)

/-- The bytes that `RS232Send` and `RS485Send` put on the line. -/
def sendBytes (buf : Mem) (ucCount : ℕ) : List UInt8 :=
  if ucCount ≥ bufLen then [] else buf.take ucCount

/-- The module functions after `processParamTable` has returned `flag`: the port and the
bytes sent. -/
def reply (flag : UInt8) (l : SLocalTransData) : SLocalTransData × List UInt8 :=
  if flag ≠ errorNoReturn then
    let l := { l with len := (l.load 1).toNat + 2 }
    (l, sendBytes l.load l.len)
  else (l, [])

end SLocalTransData

/-- What the module functions of the ports do: the port, the rest of the reader and the bytes
sent.  It is `none` when `processParamTable` does not return. -/
def localModule (cmdOrigin : CmdOrigin) (r : Reader) (l : SLocalTransData) :
    Option (SLocalTransData × Reader × List UInt8) :=
  if l.see.2 then
    (l.see.1.process cmdOrigin r).map fun out =>
      ((SLocalTransData.reply out.1 out.2.1).1, out.2.2, (SLocalTransData.reply out.1 out.2.1).2)
  else some (l.see.1, r, [])

/-- `USART2_IRQHandler` -/
def usart2IRQHandler : SLocalTransData → UInt8 → SLocalTransData :=
  SLocalTransData.receive localRevTimer

/-- `USART1_IRQHandler` -/
def usart1IRQHandler : SLocalTransData → UInt8 → SLocalTransData :=
  SLocalTransData.receive local485RevTimer

/-- `Local_232_module` -/
def local232Module : Reader → SLocalTransData → Option (SLocalTransData × Reader × List UInt8) :=
  localModule .sourceFrom232

/-- `Local_485_module` -/
def local485Module : Reader → SLocalTransData → Option (SLocalTransData × Reader × List UInt8) :=
  localModule .sourceFrom485

/-- The serial ports that requests come in on. -/
inductive Port where
  | rs232
  | rs485
  deriving DecidableEq, Repr

namespace Port

/-- The interrupt handler of a port. -/
def irqHandler : Port → SLocalTransData → UInt8 → SLocalTransData
  | rs232 => usart2IRQHandler
  | rs485 => usart1IRQHandler

/-- The origin that the module function of a port gives to its requests. -/
def origin : Port → CmdOrigin
  | rs232 => .sourceFrom232
  | rs485 => .sourceFrom485

/-- The module function of a port. -/
def moduleFunction :
    Port → Reader → SLocalTransData → Option (SLocalTransData × Reader × List UInt8)
  | rs232 => local232Module
  | rs485 => local485Module

theorem irqHandler_eq (port : Port) :
  port.irqHandler = SLocalTransData.receive 50
  := by
  cases port with
  | rs232 => rfl
  | rs485 => rfl

theorem moduleFunction_eq (port : Port) :
  port.moduleFunction = localModule port.origin
  := by
  cases port with
  | rs232 => rfl
  | rs485 => rfl

end Port

/-! ### The receiver finds the frames of the byte stream -/

namespace SLocalTransData

variable {l : SLocalTransData} {time : ℕ} {b : UInt8} {s : Framing.Receiver}

/-- The port holds the receiver `s`. -/
def Holds (l : SLocalTransData) (s : Framing.Receiver) : Prop :=
  Framing.Represents l.setMark l.buf.load l.index l.len s

/-- No frame is under way and none waits to be taken. -/
def Idle (l : SLocalTransData) : Prop := l.setMark = 0 ∧ l.index = 0

theorem holds_idle_iff :
  l.Holds Framing.idle ↔ l.Idle
  := Framing.Represents.idle_iff

/-- A byte makes of the receiver what the automaton makes of it, as long as there is room. -/
theorem Holds.receive (h : l.Holds s) (hroom : s.gathered.length < 255) (time : ℕ) (b : UInt8) :
  (l.receive time b).Holds (Framing.feed bootCode s b)
  := by
  obtain ⟨gathered, frame⟩ := s
  unfold Holds at h ⊢
  unfold SLocalTransData.receive
  cases frame with
  | some f =>
    have hmark : l.setMark ≠ 0 := by
      rw [h.marked]
      exact (by decide : (1 : UInt8) ≠ 0)
    rw [if_neg hmark]
    exact h
  | none =>
    have hmark : l.setMark = 0 := h.marked
    rw [if_pos hmark]
    have hindex : l.index = gathered.length := h.counted
    by_cases hidle : gathered = []
    · subst hidle
      have hzero : l.index = 0 := hindex
      by_cases hb : b = bootCode
      · subst hb
        rw [if_pos ⟨hzero, rfl⟩]
        have hfeed := Framing.feed_idle_start bootCode
        unfold Framing.idle at hfeed
        rw [hfeed]
        unfold store
        rw [if_pos (by decide)]
        dsimp only
        rw [hmark, Block.load_put_eq _ (by decide)]
        exact Framing.Represents.store_start _ _ _
      · rw [if_neg (fun h => hb h.2), if_neg (not_not.mpr hzero)]
        have hfeed := Framing.feed_idle_of_ne hb
        unfold Framing.idle at hfeed
        rw [hfeed]
        exact h
    · have hpos : l.index ≠ 0 := by
        rw [hindex]
        exact fun hnil => hidle (List.length_eq_zero_iff.mp hnil)
      have hlt : l.index < 255 := by
        rw [hindex]
        exact hroom
      have hmax : ¬ l.index > bufLen := by
        simp only [bufLen]
        omega
      have hfeed : Framing.feed bootCode ⟨gathered, none⟩ b = Framing.gather gathered b :=
        Framing.feed_gathering hidle
      rw [if_neg (fun h => hpos h.1), if_pos hpos, if_neg hmax, hfeed]
      unfold store
      rw [if_pos hlt]
      dsimp only
      have hone : ({ l with buf := l.buf.put l.index b } : SLocalTransData).load 1
          = (l.buf.load.put l.index b) 1 := by
        rw [← Block.load_put_eq _ hlt]
        rfl
      rw [hmark] at h
      rw [hone]
      obtain ⟨hlast, hrep⟩ | ⟨hmore, hrep⟩ := h.store_next hidle b
      · rw [if_pos hlast]
        rw [← Block.load_put_eq _ hlt] at hrep
        exact hrep
      · rw [if_neg (Nat.not_lt.mpr hmore)]
        rw [← Block.load_put_eq _ hlt] at hrep
        dsimp only
        rw [hmark]
        exact hrep

/-- What the automaton makes of a stream of bytes is what the port makes of it, as long as
there is room. -/
theorem Holds.foldl (time : ℕ) {bs : List UInt8} (h : l.Holds s)
    (hroom : ∀ n < bs.length, ((bs.take n).foldl (Framing.feed bootCode) s).gathered.length < 255) :
  (bs.foldl (SLocalTransData.receive time) l).Holds (bs.foldl (Framing.feed bootCode) s)
  := by
  induction bs generalizing l s with
  | nil => exact h
  | cons b bs ih =>
    rw [List.foldl_cons, List.foldl_cons]
    apply ih (h.receive (hroom 0 (Nat.succ_pos _)) time b)
    intro n hn
    exact hroom (n + 1) (by simpa using hn)

/-- While a frame waits to be taken, bytes are dropped. -/
theorem foldl_receive_of_marked (h : l.setMark ≠ 0) (bs : List UInt8) :
  bs.foldl (SLocalTransData.receive time) l = l
  := by
  induction bs with
  | nil => rfl
  | cons b bs ih =>
    have hdrop : l.receive time b = l := by
      unfold SLocalTransData.receive
      rw [if_neg h]
    rw [List.foldl_cons, hdrop, ih]

end SLocalTransData

/-- From the idle state, noise and a frame of at most 255 bytes raise the mark with the last
byte, and the frame stands in the buffer. -/
theorem receives_frame (time : ℕ) {l : SLocalTransData} (hidle : l.Idle) {noise f : List UInt8}
    (hnoise : ∀ b ∈ noise, b ≠ bootCode) (hf : Framing.IsFrame bootCode f)
    (hfit : f.length ≤ 255) :
  (∀ n < (noise ++ f).length,
      (((noise ++ f).take n).foldl (SLocalTransData.receive time) l).setMark = 0)
    ∧ ((noise ++ f).foldl (SLocalTransData.receive time) l).Holds (Framing.full f)
  := by
  have hlength := hf.length
  have hstate : ∀ n ≤ (noise ++ f).length,
      ((noise ++ f).take n).foldl (Framing.feed bootCode) Framing.idle
        = Framing.progress f (n - noise.length) := by
    intro n hn
    rw [List.length_append] at hn
    have hquiet : ∀ b ∈ noise.take n, b ≠ bootCode := fun b hb => hnoise b (List.mem_of_mem_take hb)
    rw [List.take_append]
    exact Framing.foldl_feed_noise_take hquiet hf (by omega)
  have hroom : ∀ n < (noise ++ f).length,
      (((noise ++ f).take n).foldl (Framing.feed bootCode) Framing.idle).gathered.length < 255 := by
    intro n hn
    rw [hstate n (by omega)]
    rw [List.length_append] at hn
    obtain hlt | hnil := Framing.length_gathered_progress (n := n - noise.length) f (by omega)
    · omega
    · rw [hnil] at hlength
      simp at hlength
  have hholds := SLocalTransData.holds_idle_iff.mpr hidle
  constructor
  · intro n hn
    have hpart : (((noise ++ f).take n).foldl (SLocalTransData.receive time) l).Holds
        (((noise ++ f).take n).foldl (Framing.feed bootCode) Framing.idle) := by
      apply SLocalTransData.Holds.foldl time hholds
      intro k hk
      rw [List.length_take] at hk
      rw [List.take_take, Nat.min_eq_left (by omega)]
      exact hroom k (by omega)
    rw [List.length_append] at hn
    rw [hstate n (by rw [List.length_append]; omega), Framing.progress, if_neg (by omega)] at hpart
    exact hpart.marked
  · have hwhole := SLocalTransData.Holds.foldl time hholds hroom
    have hfinal := hstate (noise ++ f).length (Nat.le_refl _)
    rw [List.take_length, List.length_append, Nat.add_sub_cancel_left,
      Framing.progress_length] at hfinal
    rwa [hfinal] at hwhole

/-! ### Runs of a port -/

/-- A serial port with the divider of `Time_Update`. -/
structure Station where
  sysTimer1 : ℕ
  link : SLocalTransData

namespace Station

/-- A port after start-up. -/
def initial : Station := ⟨0, .cleared⟩

/-- `Time_Update`, for the receive timer of the port. -/
def tick (s : Station) : Station :=
  if s.sysTimer1 + 1 > 9 then
    { sysTimer1 := 0, link := { s.link with localTimer := s.link.localTimer.update } }
  else { s with sysTimer1 := s.sysTimer1 + 1 }

end Station

/-- What can happen at a port: a byte arrives, `SysTick_Handler` calls `Time_Update`, or the
main loop calls the module function, with the rest of the reader in the state `r`. -/
inductive SerialEvent where
  | rx (b : UInt8)
  | tick
  | call (r : Reader)

/-- What an event makes of a port; `none` when the module function does not return. -/
def serialStep (port : Port) (s : Station) : SerialEvent → Option Station
  | .rx b => some { s with link := port.irqHandler s.link b }
  | .tick => some s.tick
  | .call r => (port.moduleFunction r s.link).map fun out => { s with link := out.1 }

/-- A byte that is taken for a length byte is at most 253. -/
def LengthBytesFit (s : Station) (e : SerialEvent) : Prop :=
  ∀ b, e = .rx b → s.link.setMark = 0 → s.link.index = 1 → b.toNat ≤ 253

/-- `processParamTable` builds its reply without writing on `rec_buf.index`, which stands right
behind the buffer. -/
def RepliesFit (port : Port) (s : Station) (e : SerialEvent) : Prop :=
  ∀ r, e = .call r → s.link.see.2 = true →
    ∀ out, processParamTable port.origin s.link.see.1.load s.link.see.1.len r = some out →
      ∀ i < 4, out.2.1 (255 + i) = s.link.see.1.load (255 + i)

namespace SLocalTransData

variable {l : SLocalTransData} {time : ℕ} {b : UInt8}

/-- The receive timer is running or has expired. -/
def Timed (l : SLocalTransData) : Prop :=
  l.localTimer.isStart ≠ 0 ∨ l.localTimer.isOverflow ≠ 0

/-- The frame under way stays inside the buffer, and the receive timer watches over it. -/
structure Sound (l : SLocalTransData) : Prop where
  marked : l.setMark ≠ 0 → l.index = 0
  inside : l.index < bufLen
  length : 2 ≤ l.index → (l.buf.load 1).toNat ≤ 253
  timed : l.index ≠ 0 → l.Timed

theorem sound_of_index (h : l.index = 0) :
  l.Sound
  where
  marked := fun _ => h
  inside := by rw [h]; decide
  length := fun hle => by omega
  timed := fun hne => absurd h hne

/-- A byte keeps the port sound when it is not a length byte above 253. -/
theorem Sound.receive (h : l.Sound) (time : ℕ)
    (hlen : l.setMark = 0 → l.index = 1 → b.toNat ≤ 253) :
  (l.receive time b).Sound
  := by
  unfold SLocalTransData.receive
  split
  · rename_i hmark
    split
    · -- a frame starts
      have hone : ∀ buf, ({ l with buf := buf, index := 1, localTimer := l.localTimer.start time }
          : SLocalTransData).Sound := by
        intro buf
        constructor
        · exact fun hne => absurd hmark hne
        · exact (by decide : 1 < bufLen)
        · exact fun hle => absurd hle (by decide : ¬ 2 ≤ 1)
        · exact fun _ => .inl (by decide : (1 : UInt8) ≠ 0)
      exact hone _
    · split
      · rename_i hindex
        have hinside := h.inside
        simp only [bufLen] at hinside
        rw [if_neg (by simp only [bufLen]; omega)]
        unfold store
        rw [if_pos hinside]
        dsimp only
        split
        · exact sound_of_index rfl
        · -- the frame goes on: its length byte is at least its index
          rename_i hmore
          have hload : ({ l with buf := l.buf.put l.index b } : SLocalTransData).load 1
              = if 1 = l.index then b else l.buf.load 1 :=
            Block.load_put (b := l.buf) (j := 1) (v := b) hinside
          rw [hload] at hmore
          have hbound : (if 1 = l.index then b else l.buf.load 1).toNat ≤ 253 := by
            split
            · rename_i hone
              exact hlen hmark hone.symm
            · rename_i hone
              exact h.length (by omega)
          constructor
          · exact fun hne => absurd hmark hne
          · simp only [bufLen]
            omega
          · intro _
            dsimp only
            rw [Block.load_put hinside]
            exact hbound
          · exact fun _ => h.timed hindex
      · exact h
  · exact h

/-- A timer update leaves the timer running or expired. -/
theorem Timed.update (h : l.Timed) :
  ({ l with localTimer := l.localTimer.update } : SLocalTransData).Timed
  := by
  unfold Timed STimer.update STimer.count STimer.decrement
  dsimp only
  split
  · rename_i hrun
    split
    · exact .inr (by decide : (1 : UInt8) ≠ 0)
    · exact .inl hrun.1
  · exact h

theorem Sound.update (h : l.Sound) :
  ({ l with localTimer := l.localTimer.update } : SLocalTransData).Sound
  := ⟨h.marked, h.inside, h.length, fun hne => (h.timed hne).update⟩

/-- After its module function has looked at it, a sound port is sound, and idle when a request
is processed. -/
theorem Sound.see (h : l.Sound) :
  l.see.1.Sound ∧ (l.see.2 = true → l.see.1.Idle)
  := by
  have hcleared : cleared.Sound := sound_of_index rfl
  have hsound : (if l.localTimer.isOverflow ≠ 0 then cleared else l).Sound := by
    split
    · exact hcleared
    · exact h
  unfold SLocalTransData.see
  dsimp only
  generalize (if l.localTimer.isOverflow ≠ 0 then cleared else l) = l' at hsound ⊢
  split
  · rename_i hmark
    split
    · exact ⟨hcleared, fun h => by cases h⟩
    · exact ⟨sound_of_index (hsound.marked hmark), fun _ => ⟨rfl, hsound.marked hmark⟩⟩
  · exact ⟨hsound, fun h => by cases h⟩

end SLocalTransData

theorem loadNat_zero {m : Mem} {off : ℕ} (h : ∀ i < 4, m (off + i) = 0) :
  loadNat m off = 0
  := by
  have h0 := h 0 (by decide)
  have h1 := h 1 (by decide)
  have h2 := h 2 (by decide)
  have h3 := h 3 (by decide)
  unfold loadNat
  rw [Nat.add_zero] at h0
  rw [h0, h1, h2, h3]
  rfl

/-- The module function leaves a sound port sound, when the reply does not write on
`rec_buf.index`. -/
theorem SLocalTransData.Sound.localModule {o : CmdOrigin} {r : Reader} {l : SLocalTransData}
    {out : SLocalTransData × Reader × List UInt8} (h : l.Sound)
    (hfit : l.see.2 = true → ∀ out, processParamTable o l.see.1.load l.see.1.len r = some out →
      ∀ i < 4, out.2.1 (255 + i) = l.see.1.load (255 + i))
    (hout : UhfReader.localModule o r l = some out) :
  out.1.Sound
  := by
  obtain ⟨hsound, hidle⟩ := h.see
  unfold UhfReader.localModule at hout
  split at hout
  · rename_i hsee
    rw [Option.map_eq_some_iff] at hout
    obtain ⟨x, hx, rfl⟩ := hout
    unfold SLocalTransData.process at hx
    rw [Option.map_eq_some_iff] at hx
    obtain ⟨y, hy, rfl⟩ := hx
    have hindex : (l.see.1.written y.2.1).index = 0 := by
      apply loadNat_zero
      intro i hi
      rw [hfit hsee y hy i hi]
      have hzero := (hidle hsee).2
      unfold SLocalTransData.load
      rw [if_neg (by omega), if_pos (by omega), hzero]
      simp [getByte]
    apply SLocalTransData.sound_of_index
    unfold SLocalTransData.reply
    dsimp only
    split
    · exact hindex
    · exact hindex
  · cases hout
    exact hsound

/-- A step of a port keeps it sound. -/
theorem sound_serialStep {port : Port} {s s' : Station} {e : SerialEvent} (h : s.link.Sound)
    (hlen : LengthBytesFit s e) (hfit : RepliesFit port s e)
    (hstep : serialStep port s e = some s') :
  s'.link.Sound
  := by
  cases e with
  | rx b =>
    cases hstep
    rw [Port.irqHandler_eq]
    exact h.receive 50 (hlen b rfl)
  | tick =>
    cases hstep
    unfold Station.tick
    split
    · exact h.update
    · exact h
  | call r =>
    simp only [serialStep, Option.map_eq_some_iff] at hstep
    obtain ⟨out, hout, rfl⟩ := hstep
    rw [Port.moduleFunction_eq] at hout
    exact h.localModule (hfit r rfl) hout

/-- In every run from start-up with length bytes of at most 253 and replies that leave
`rec_buf.index` alone, the port is sound. -/
theorem sound_of_run {port : Port} {es : List SerialEvent} {s : Station}
    (hrun : Run.run (serialStep port) es .initial = some s)
    (hlen : Run.Along (serialStep port) LengthBytesFit es .initial)
    (hfit : Run.Along (serialStep port) (RepliesFit port) es .initial) :
  s.link.Sound
  := by
  apply Run.Along.invariant (I := fun s : Station => s.link.Sound)
    (P := fun s e => LengthBytesFit s e ∧ RepliesFit port s e) _ _ (hlen.and hfit) hrun
  · intro s e s' hs hcond hstep
    exact sound_serialStep hs hcond.1 hcond.2 hstep
  · exact SLocalTransData.sound_of_index rfl

/-- An expired timer makes the module function reset the port. -/
theorem localModule_of_expired (o : CmdOrigin) (r : Reader) {l : SLocalTransData}
    (h : l.localTimer.isOverflow ≠ 0) :
  localModule o r l = some (.cleared, r, [])
  := by
  have hsee : l.see = (.cleared, false) := by
    unfold SLocalTransData.see
    rw [if_pos h]
    rfl
  unfold localModule
  rw [hsee]
  rfl

/-- Framing on a serial port.  From the idle state, noise and a frame raise the mark exactly with
the last byte of the frame, which then stands in the buffer until it is taken.  And in every run
with length bytes of at most 253 in which no reply writes on `rec_buf.index`, a frame under way
has its timer running or expired, and a call that sees the expiry makes the port idle. -/
theorem framing_exact_and_recovers (port : Port) :
  (∀ (l : SLocalTransData) (noise : List UInt8) (L : UInt8) (body : List UInt8), l.Idle →
      (∀ b ∈ noise, b ≠ bootCode) → body.length = L.toNat → L.toNat ≤ 253 →
      let stream := noise ++ bootCode :: L :: body
      let l' := stream.foldl port.irqHandler l
      (∀ n < stream.length, ((stream.take n).foldl port.irqHandler l).setMark = 0)
        ∧ l'.setMark = 1 ∧ l'.len = L.toNat + 2
        ∧ l'.load.take (L.toNat + 2) = bootCode :: L :: body
        ∧ ∀ bs : List UInt8, bs.foldl port.irqHandler l' = l')
    ∧ ∀ (es : List SerialEvent) (s : Station),
      Run.run (serialStep port) es .initial = some s →
      Run.Along (serialStep port) LengthBytesFit es .initial →
      Run.Along (serialStep port) (RepliesFit port) es .initial →
      (s.link.setMark = 0 → s.link.index ≠ 0 → s.link.Timed)
        ∧ (s.link.localTimer.isOverflow ≠ 0 →
          ∀ r, ∃ out, port.moduleFunction r s.link = some out ∧ out.1.Idle)
  := by
  constructor
  · intro l noise L body hidle hnoise hbody hmax stream l'
    have hf : Framing.IsFrame bootCode (bootCode :: L :: body) := by
      constructor
      · rfl
      · simp [hbody]
    have hlength : (bootCode :: L :: body).length = L.toNat + 2 := by
      simp [hbody]
    obtain ⟨hbefore, hholds⟩ := receives_frame 50 hidle hnoise hf (by omega)
    rw [← Port.irqHandler_eq port] at hbefore hholds
    obtain ⟨hmark, -, hlen, htake⟩ := Framing.Represents.full_iff.mp hholds
    refine ⟨hbefore, hmark, ?_, ?_, ?_⟩
    · rw [← hlength]
      exact hlen
    · rw [← hlength, ← hlen]
      refine Eq.trans ?_ htake
      apply Mem.AgreeBelow.take_eq
      intro i hi
      rw [hlen, hlength] at hi
      unfold SLocalTransData.load
      rw [if_pos (by omega)]
    · intro bs
      unfold l'
      rw [Port.irqHandler_eq]
      apply SLocalTransData.foldl_receive_of_marked
      rw [Port.irqHandler_eq] at hmark
      rw [hmark]
      decide
  · intro es s hrun hlen hfit
    have hsound := sound_of_run hrun hlen hfit
    refine ⟨fun _ hne => hsound.timed hne, ?_⟩
    intro hexpired r
    rw [Port.moduleFunction_eq]
    exact ⟨_, localModule_of_expired port.origin r hexpired, rfl, rfl⟩

/-- A request for the version after a byte of noise; and a first byte that starts the timer. -/
theorem framing_version :
  let stream : List UInt8 := [0x55] ++ [0x40, 0x02, 0x02, 0xBC]
  (stream.foldl usart2IRQHandler .cleared).len = 4
    ∧ ∃ s, Run.run (serialStep .rs232) [.rx 0x40, .tick] .initial = some s ∧ s.link.index = 1
      ∧ s.link.Timed
  := by
  intro stream
  obtain ⟨hexact, hruns⟩ := framing_exact_and_recovers .rs232
  constructor
  · exact (hexact .cleared [0x55] 0x02 [0x02, 0xBC] ⟨rfl, rfl⟩
      (List.all_iff_forall_prop.mp (by decide)) rfl (by decide)).2.2.1
  · refine ⟨_, rfl, rfl, ?_⟩
    refine (hruns [.rx 0x40, .tick] _ rfl ?_ ?_).1 rfl (by decide)
    · refine ⟨?_, ?_, trivial⟩
      · intro b hb _ hindex
        exact absurd hindex (by decide)
      · intro b hb
        cases hb
    · refine ⟨?_, ?_, trivial⟩
      · intro r hr
        cases hr
      · intro r hr
        cases hr

/-- Bytes of at most 253 are no wrong length bytes, wherever they come. -/
theorem lengthBytesFit_of_le {port : Port} {bs : List UInt8} (h : ∀ b ∈ bs, b.toNat ≤ 253)
    (r : Reader) (s : Station) :
  Run.Along (serialStep port) LengthBytesFit (bs.map .rx ++ [.call r]) s
  := by
  apply Run.Along.of_forall
  intro e he s b heq _ _
  subst heq
  simp only [List.mem_append, List.mem_map, List.mem_singleton, reduceCtorEq, or_false,
    SerialEvent.rx.injEq, exists_eq_right] at he
  exact h b he

/-- A row with an identifier of 15 words, the fourteenth of which is `0x0500`. -/
def longRow : Row := fun i => if i.val = 0 then 15 else if i.val = 27 then 5 else 0

/-- A new reader in command mode, with a second page of eight long rows to be sent. -/
def pagedReader : Reader :=
  { powerOn .blank with
    gDevice := (powerOn .blank).gDevice.put Offset.readerWorkStatus 1
    cardIndex := fun _ => longRow
    tagAllNumber := 16
    tagSendCount := 8 }

/-- The request for the next page of identifiers with signal strengths. -/
def pageRequest : List UInt8 := [0x40, 0x04, 0xDE, 0x00, 0x00, 0xDE]

/-- A page of eight long identifiers with their signal strengths writes on `rec_buf.index`: the
port has a frame under way and no timer that would end it. -/
theorem page_starts_frame :
  ∃ s, Run.run (serialStep .rs232) (pageRequest.map .rx ++ [.call pagedReader]) .initial = some s
    ∧ Run.Along (serialStep .rs232) LengthBytesFit
        (pageRequest.map .rx ++ [.call pagedReader]) .initial
    ∧ s.link.setMark = 0 ∧ s.link.index = 5 ∧ ¬ s.link.Timed
  := by
  have heval : (Run.run (serialStep .rs232) (pageRequest.map .rx ++ [.call pagedReader])
      .initial).map (fun s => (s.link.setMark, s.link.index, s.link.localTimer))
      = some (0, 5, ⟨0, 0, 50⟩) := by
    unfold pagedReader
    rw [powerOn_eq]
    decide +kernel
  rw [Option.map_eq_some_iff] at heval
  obtain ⟨s, hrun, heq⟩ := heval
  simp only [Prod.mk.injEq] at heq
  obtain ⟨hmark, hindex, htimer⟩ := heq
  refine ⟨s, hrun, lengthBytesFit_of_le (List.all_iff_forall_prop.mp (by decide)) _ _, hmark,
    hindex, ?_⟩
  unfold SLocalTransData.Timed
  rw [htimer]
  decide

end UhfReader
