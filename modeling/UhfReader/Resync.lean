import Mathlib.Data.Bool.AllAny
import UhfReader.Radio.Reception

/-!
# The answer to a command

A command that waits for one frame gets its answer whenever it arrives in time, provided that no
frame was under way on the link when the command was sent.  A frame that was left incomplete is
never given up: `R2000.local_timer` is started for it, but nothing looks at that timer.  The
bytes of the answer are then taken for the rest of the old frame.
-/

open Memory

namespace UhfReader

/-- The bytes that arrive during a wait. -/
def rxBytes : List Event → List UInt8
  | [] => []
  | .rx b :: es => b :: rxBytes es
  | .tick :: es => rxBytes es
  | .poll :: es => rxBytes es

/-- A well-formed answer to a command: a frame of 4 to 255 bytes with the code of the command and
a checksum. -/
structure IsAnswer (cmd : UInt8) (f : List UInt8) : Prop where
  frame : Framing.IsFrame 0xA0 f
  long : 4 ≤ f.length
  short : f.length ≤ 255
  code : f.getD 3 0 = wireCmd cmd
  sum : f.sum = 0

/-- The commands of `encodeR2000` that wait for one frame. -/
def singleCmds : List UInt8 := knownCmds.filter fun cmd => cmd ∉ [0x91, 0xB0, 0x8A]

/-- However the bytes of a well-formed answer arrive during the wait before the timer runs out,
`encodeR2000` returns `0` with the answer in the buffer. -/
def GetsAnswer (before cmd : UInt8) (p : Mem) (g : Globals) : Prop :=
  ∀ (f : List UInt8) (es es' : List Event) (rest : List (List Event)),
    IsAnswer cmd f → rxBytes es = f →
    timerUpdates cmd es ((sendCmd cmd before p g).setTraffic rest) < sendTime cmd →
    ∃ g', encodeR2000From before cmd p (g.setTraffic ((es ++ .poll :: es') :: rest)) = some (0, g')
      ∧ g'.r2000.load.take f.length = f ∧ g'.r2000.len = f.length

theorem singleCmds_known {cmd : UInt8} (h : cmd ∈ singleCmds) :
  cmd ∈ knownCmds ∧ cmd ≠ 0x91 ∧ cmd ≠ 0xB0 ∧ cmd ≠ 0x8A
  := by
  unfold singleCmds at h
  simpa using h

theorem IsAnswer.linkFrame {cmd : UInt8} {f : List UInt8} (h : IsAnswer cmd f)
    (hcmd : cmd ∈ singleCmds) :
  LinkFrame f
  := by
  refine ⟨h.frame, h.long, h.short, ?_⟩
  rw [h.code]
  exact List.all_iff_forall_prop.mp
    (by decide : singleCmds.all fun cmd => wireCmd cmd ≠ 0x70) cmd hcmd

/-- Sending does not look at what the R2000 will do. -/
theorem sendCmd_setTraffic (cmd before : UInt8) (p : Mem) (g : Globals)
    (traffic : List (List Event)) :
  sendCmd cmd before p (g.setTraffic traffic) = (sendCmd cmd before p g).setTraffic traffic
  := by
  unfold sendCmd uart4Send
  dsimp only [Globals.setTraffic]
  split
  · rfl
  · rfl

/-- A call of a known command with the events of its wait. -/
theorem encodeR2000From_setTraffic {before cmd : UInt8} (hknown : cmd ∈ knownCmds) (p : Mem)
    (g : Globals) (es : List Event) (rest : List (List Event)) :
  encodeR2000From before cmd p (g.setTraffic (es :: rest))
    = waitR2000 cmd es ((sendCmd cmd before p g).setTraffic rest)
  := by
  unfold encodeR2000From
  rw [if_pos hknown, sendCmd_setTraffic]
  generalize sendCmd cmd before p g = sent
  rfl

/-! ### The answer arrives -/

/-- The timer of a wait has not run out and has more than `n` updates to go. -/
def STimer.Left (t : STimer) (n : ℕ) : Prop := t.isOverflow = 0 ∧ n < t.time ∧ t.time ≤ 1000

theorem STimer.decrement_time {t : STimer} (h : 1 ≤ t.time) (hmax : t.time ≤ 1000) :
  t.decrement.time = t.time - 1
  := by
  simp only [STimer.decrement]
  omega

theorem STimer.Left.updateUnguarded {t : STimer} {n : ℕ} (h : t.Left (n + 1)) :
  t.updateUnguarded.Left n
  := by
  obtain ⟨hover, hlt, hmax⟩ := h
  have htime := STimer.decrement_time (t := t) (by omega) hmax
  have hone : t.time ≠ 1 := by omega
  unfold STimer.updateUnguarded STimer.count
  rw [if_pos hover, if_neg hone]
  have hsame : t.decrement.isOverflow = t.isOverflow := by
    unfold STimer.decrement
    rfl
  refine ⟨hsame.trans hover, ?_, ?_⟩
  · rw [htime]
    omega
  · rw [htime]
    omega

/-- A command that waits for one frame is content with any. -/
theorem pollR2000_single {cmd : UInt8} (hcmd : cmd ∈ singleCmds) {g : Globals}
    (hover : g.r2000.sendTimer.isOverflow = 0) (hmark : g.r2000.setMark ≠ 0) :
  pollR2000 cmd g = (takeFrame g, some 0)
  := by
  obtain ⟨-, h91, hB0, h8A⟩ := singleCmds_known hcmd
  unfold pollR2000
  rw [if_neg (not_not.mpr hover), if_pos hmark, if_neg h91, if_neg hB0, if_neg h8A]

theorem pollR2000_nothing (cmd : UInt8) {g : Globals}
    (hover : g.r2000.sendTimer.isOverflow = 0) (hmark : g.r2000.setMark = 0) :
  pollR2000 cmd g = (g, none)
  := by
  unfold pollR2000
  rw [if_neg (not_not.mpr hover), if_neg (not_not.mpr hmark)]

/-- A system tick leaves what the link holds alone. -/
theorem timeUpdate_holds {g : Globals} {s : Framing.Receiver} (h : g.r2000.Holds s) :
  (timeUpdate g).r2000.Holds s
  := by
  obtain ⟨-, heq⟩ | ⟨-, _, _, _, _, _, _, heq⟩ := timeUpdate_cases g
  · rw [heq]
    exact h
  · rw [heq]
    exact h

/-- A wait for one frame returns with the frame, when its remaining bytes arrive in time. -/
theorem waitR2000_of_bytes {cmd : UInt8} (hcmd : cmd ∈ singleCmds) {f : List UInt8}
    (hf : LinkFrame f) (es' : List Event) {es : List Event} {g : Globals} {n : ℕ}
    (hn : n ≤ f.length) (hholds : g.r2000.Holds (Framing.progress f n))
    (hbytes : rxBytes es = f.drop n) (htime : g.r2000.sendTimer.Left (timerUpdates cmd es g)) :
  ∃ g', waitR2000 cmd (es ++ .poll :: es') g = some (0, g')
    ∧ g'.r2000.load.take f.length = f ∧ g'.r2000.len = f.length
  := by
  -- a poll that finds the whole frame returns it
  have hreturn : ∀ (es : List Event) (g : Globals), g.r2000.Holds (Framing.full f) →
      g.r2000.sendTimer.isOverflow = 0 →
      ∃ g', waitR2000 cmd (.poll :: es) g = some (0, g')
        ∧ g'.r2000.load.take f.length = f ∧ g'.r2000.len = f.length := by
    intro es g hfull hover
    have hmark : g.r2000.setMark ≠ 0 := by
      rw [hfull.marked]
      exact (by decide : (1 : UInt8) ≠ 0)
    refine ⟨takeFrame g, ?_, ?_⟩
    · simp only [waitR2000, pollR2000_single hcmd hover hmark]
    · obtain ⟨htake, hlen⟩ := hfull.load_full hf.short
      refine ⟨?_, hlen⟩
      refine Eq.trans ?_ htake
      apply Mem.AgreeBelow.take_eq
      intro i hi
      have hin : i < 255 := by
        have := hf.short
        omega
      rw [SR2000TransData.load_inside hin, SR2000TransData.load_inside hin]
      rfl
  induction es generalizing g n with
  | nil =>
    have hlast : n = f.length := by
      have := congrArg List.length hbytes
      rw [List.length_drop, rxBytes, List.length_nil] at this
      omega
    rw [hlast, Framing.progress_length] at hholds
    exact hreturn es' g hholds htime.1
  | cons e es ih =>
    cases e with
    | rx b =>
      have hlt : n < f.length := by
        have := congrArg List.length hbytes
        rw [List.length_drop, rxBytes, List.length_cons] at this
        omega
      rw [List.drop_eq_getElem_cons hlt, rxBytes, List.cons.injEq] at hbytes
      obtain ⟨rfl, hrest⟩ := hbytes
      obtain ⟨hnext, htimer⟩ := uart4IRQHandler_holds hf hlt hholds
      apply ih (g := uart4IRQHandler g f[n]) hlt hnext hrest
      have hsame : (uart4IRQHandler g f[n]).r2000.sendTimer = g.r2000.sendTimer := htimer
      rw [hsame]
      simpa [timerUpdates, waitStep] using htime
    | tick =>
      apply ih (g := timeUpdate g) hn (timeUpdate_holds hholds) hbytes
      rw [(timeUpdate_link g).2.2.1]
      simp only [timerUpdates, waitStep, true_and] at htime
      split at htime
      · rw [if_pos ‹_›]
        apply STimer.Left.updateUnguarded
        rwa [Nat.add_comm] at htime
      · rw [if_neg ‹_›]
        rwa [Nat.zero_add] at htime
    | poll =>
      by_cases hlast : n = f.length
      · rw [hlast, Framing.progress_length] at hholds
        exact hreturn _ g hholds htime.1
      · have hmark : g.r2000.setMark = 0 := by
          have := hholds.marked
          rwa [Framing.progress, if_neg hlast] at this
        have hpoll := pollR2000_nothing cmd htime.1 hmark
        have hwait : waitR2000 cmd (.poll :: es ++ .poll :: es') g
            = waitR2000 cmd (es ++ .poll :: es') g := by
          simp only [List.cons_append, waitR2000, hpoll]
        rw [hwait]
        apply ih hn hholds hbytes
        have hstep : waitStep cmd g .poll = some g := by
          simp only [waitStep, hpoll]
        simpa [timerUpdates, hstep] using htime

/-- A command gets its answer when no frame was under way. -/
theorem getsAnswer_of_index {before cmd : UInt8} {p : Mem} {g : Globals} (hcmd : cmd ∈ singleCmds)
    (hfit : FrameFits bufLen cmd before p g.tmpAntenna) (hindex : g.r2000.index = 0) :
  GetsAnswer before cmd p g
  := by
  intro f es es' rest hf hbytes htime
  rw [encodeR2000From_setTraffic (singleCmds_known hcmd).1]
  apply waitR2000_of_bytes hcmd (hf.linkFrame hcmd) es' (Nat.zero_le _) _ hbytes
  · have hstart : (sendCmd cmd before p g).r2000.sendTimer.isOverflow = 0
        ∧ (sendCmd cmd before p g).r2000.sendTimer.time = sendTime cmd := by
      rw [(sendCmd_r2000 cmd before p g).1]
      exact ⟨rfl, rfl⟩
    refine ⟨hstart.1, ?_, ?_⟩
    · exact htime.trans_eq hstart.2.symm
    · refine hstart.2.trans_le ?_
      unfold sendTime
      split
      · decide
      · decide
  · rw [Framing.progress_zero hf.frame, SR2000TransData.holds_idle_iff]
    exact ⟨(sendCmd_link cmd before p g).2, (sendCmd_index hfit).1.trans hindex⟩

/-! ### The answer is taken for something else -/

namespace SR2000TransData

variable {r : SR2000TransData} {b L : UInt8}

/-- The link does not hold the frame with the length byte `L`, and will not take the next byte
for a length byte. -/
structure Astray (L : UInt8) (r : SR2000TransData) : Prop where
  length : r.buf.load 1 ≠ L
  index : r.index ≠ 1

theorem astray_cleared (h : L ≠ 0) :
  cleared.Astray L
  := ⟨fun heq => h heq.symm, by decide⟩

/-- What the store of a byte other than zero does to the length byte and the index. -/
theorem store_astray (hlength : r.buf.load 1 ≠ L) (hzero : b ≠ 0) (hone : r.index = 1 → b ≠ L)
    (hindex : r.index ≠ 0) (hmax : ¬ r.index > bufLen) :
  (r.store r.index b).buf.load 1 ≠ L ∧ (r.store r.index b).index ≠ 0
  := by
  simp only [bufLen] at hmax
  by_cases hlt : r.index < 255
  · rw [store_inside hlt]
    refine ⟨?_, hindex⟩
    have hload : (r.withBuf (r.buf.put r.index b)).buf.load 1
        = if 1 = r.index then b else r.buf.load 1 :=
      Block.load_put (b := r.buf) (j := 1) (v := b) hlt
    rw [hload]
    split
    · rename_i heq
      exact hone heq.symm
    · exact hlength
  · -- the byte replaces the lowest byte of the index
    have hlast : r.index = 255 := by omega
    have hstore : r.store r.index b = { r with index := b.toNat } := by
      unfold store
      rw [if_neg hlt, if_pos (by omega), hlast]
      simp [setByte]
    rw [hstore]
    refine ⟨hlength, ?_⟩
    intro hnil
    apply hzero
    exact UInt8.toNat_inj.mp hnil

/-- A byte other than zero that neither starts a frame nor brings the length byte `L` leads
astray. -/
theorem receive_astray (hlength : r.buf.load 1 ≠ L) (hL : L ≠ 0) (hzero : b ≠ 0)
    (hstart : r.index ≠ 0 ∨ b ≠ 0xA0) (hone : r.index = 1 → r.setMark = 0 ∧ b ≠ L) :
  (r.receive b).1.Astray L
  := by
  unfold SR2000TransData.receive
  split
  · split
    · rename_i hboth
      obtain hne | hne := hstart
      · exact absurd hboth.1 hne
      · exact absurd hboth.2 hne
    · split
      · rename_i hindex
        split
        · exact ⟨hlength, Nat.zero_ne_one⟩
        · rename_i hmax
          obtain ⟨hbuf, hnext⟩ := store_astray hlength hzero (fun h => (hone h).2) hindex hmax
          dsimp only
          split
          · split
            · exact astray_cleared hL
            · exact ⟨hbuf, Nat.zero_ne_one⟩
          · refine ⟨hbuf, ?_⟩
            dsimp only
            omega
      · rename_i hindex
        rw [not_not] at hindex
        refine ⟨hlength, ?_⟩
        rw [hindex]
        exact Nat.zero_ne_one
  · rename_i hmark
    exact ⟨hlength, fun h => hmark (hone h).1⟩

end SR2000TransData

/-- A byte from the R2000 that leads astray. -/
theorem uart4IRQHandler_astray {g : Globals} {b L : UInt8}
    (h : (g.r2000.receive b).1.Astray L) :
  (uart4IRQHandler g b).r2000.Astray L
  := by
  rw [uart4IRQHandler_r2000]
  split
  · exact ⟨h.length, h.index⟩
  · exact h

/-- Bytes other than zero and the start byte do not bring the link back. -/
theorem foldl_astray {L : UInt8} (hL : L ≠ 0) {bs : List UInt8}
    (hbs : ∀ b ∈ bs, b ≠ 0 ∧ b ≠ 0xA0) {g : Globals} (h : g.r2000.Astray L) :
  (bs.foldl uart4IRQHandler g).r2000.Astray L
  := by
  induction bs generalizing g with
  | nil => exact h
  | cons b bs ih =>
    obtain ⟨hzero, hstart⟩ := hbs b List.mem_cons_self
    apply ih fun b' hb' => hbs b' (List.mem_cons_of_mem b hb')
    apply uart4IRQHandler_astray
    exact SR2000TransData.receive_astray h.length hL hzero (.inr hstart)
      fun hone => absurd hone h.index

/-- A wait in which only bytes arrive before a last poll. -/
theorem waitR2000_bytes (cmd : UInt8) (bs : List UInt8) (g : Globals) :
  waitR2000 cmd (bs.map .rx ++ [.poll]) g = waitR2000 cmd [.poll] (bs.foldl uart4IRQHandler g)
  := by
  induction bs generalizing g with
  | nil => rfl
  | cons b bs ih => exact ih (uart4IRQHandler g b)

theorem rxBytes_map (bs : List UInt8) :
  rxBytes (bs.map .rx) = bs
  := by
  induction bs with
  | nil => rfl
  | cons b bs ih => exact congrArg (b :: ·) ih

theorem timerUpdates_map (cmd : UInt8) (bs : List UInt8) (g : Globals) :
  timerUpdates cmd (bs.map .rx) g = 0
  := by
  induction bs generalizing g with
  | nil => rfl
  | cons b bs ih =>
    simp only [List.map_cons, timerUpdates, waitStep, reduceCtorEq, false_and, if_false]
    rw [ih]

/-- A poll that returns leaves the link astray. -/
theorem waitR2000_poll_astray {cmd L flag : UInt8} (hL : L ≠ 0) {g g' : Globals}
    (h : g.r2000.Astray L) (hwait : waitR2000 cmd [.poll] g = some (flag, g')) :
  g'.r2000.buf.load 1 ≠ L
  := by
  have hpoll := pollR2000_index cmd g
  simp only [waitR2000] at hwait
  split at hwait
  · rename_i g'' flag' heq
    simp only [Option.some.injEq, Prod.mk.injEq] at hwait
    rw [heq, hwait.2] at hpoll
    obtain hcleared | ⟨-, hbuf⟩ := hpoll
    · rw [hcleared]
      exact fun hzero => hL hzero.symm
    · dsimp only at hbuf
      rw [hbuf]
      exact h.length
  · cases hwait

/-- The frame of a command is a well-formed answer to it, too. -/
theorem isAnswer_frameBytes (cmd : UInt8) {fields : List UInt8} (h : fields.length ≤ 250) :
  IsAnswer cmd (frameBytes cmd fields)
  := by
  have hlength := length_frameBytes cmd fields
  refine ⟨⟨rfl, ?_⟩, by omega, by omega, rfl, sum_closed _⟩
  have hone : (frameBytes cmd fields).getD 1 0 = UInt8.ofNat (fields.length + 3) := rfl
  rw [hone, hlength, UInt8.toNat_ofNat']
  omega

theorem frameBytes_eq_cons (cmd : UInt8) (fields : List UInt8) :
  frameBytes cmd fields = 0xA0 :: (frameBytes cmd fields).tail
  := rfl

/-- The length byte of a short answer is neither zero nor the start byte. -/
theorem short_length {fields : List UInt8} (h : fields.length ≤ 1) :
  UInt8.ofNat (fields.length + 3) ≠ 0 ∧ 0xA0 ≠ UInt8.ofNat (fields.length + 3)
  := by
  obtain hlen | hlen : fields.length = 0 ∨ fields.length = 1 := by omega
  · rw [hlen]
    decide
  · rw [hlen]
    decide

/-- With a frame under way, an answer with another length byte than the one in the buffer is
missed. -/
theorem misses_answer {before cmd : UInt8} {p : Mem} {g : Globals} (hknown : cmd ∈ knownCmds)
    (hfit : FrameFits bufLen cmd before p g.tmpAntenna) (hindex : g.r2000.index ≠ 0)
    (fields : List UInt8) (hfields : fields.length ≤ 1)
    (hlength : (sendCmd cmd before p g).r2000.buf.load 1 ≠ UInt8.ofNat (fields.length + 3))
    (hbytes : ∀ b ∈ (frameBytes cmd fields).tail, b ≠ 0 ∧ b ≠ 0xA0) :
  ¬ GetsAnswer before cmd p g
  := by
  intro hgets
  obtain ⟨hL, hstart⟩ := short_length hfields
  have hanswer := isAnswer_frameBytes cmd (by omega : fields.length ≤ 250)
  have htime : timerUpdates cmd ((frameBytes cmd fields).map .rx)
      ((sendCmd cmd before p g).setTraffic []) < sendTime cmd := by
    rw [timerUpdates_map]
    unfold sendTime
    split
    · decide
    · decide
  obtain ⟨g', hcall, htake, -⟩ := hgets (frameBytes cmd fields)
    ((frameBytes cmd fields).map .rx) [] [] hanswer (rxBytes_map _) htime
  rw [encodeR2000From_setTraffic hknown, waitR2000_bytes, frameBytes_eq_cons,
    List.foldl_cons] at hcall
  have hfirst : (uart4IRQHandler ((sendCmd cmd before p g).setTraffic []) 0xA0).r2000.Astray
      (UInt8.ofNat (fields.length + 3)) := by
    apply uart4IRQHandler_astray
    apply SR2000TransData.receive_astray hlength hL (by decide)
    · left
      exact fun h => hindex ((sendCmd_index hfit).1.symm.trans h)
    · exact fun _ => ⟨(sendCmd_link cmd before p g).2, hstart⟩
  have hlast := foldl_astray hL hbytes hfirst
  apply waitR2000_poll_astray hL hlast hcall
  have hone := getD_of_take htake (i := 1) (by rw [length_frameBytes]; omega)
  rw [SR2000TransData.load_inside (by decide)] at hone
  exact hone

/-- No byte of a short answer but the first is zero or the start byte. -/
theorem short_answer_tail {cmd : UInt8} (hcmd : cmd ∈ singleCmds) {fields : List UInt8}
    (hfields : fields = [] ∨ fields = [1]) :
  ∀ b ∈ (frameBytes cmd fields).tail, b ≠ 0 ∧ b ≠ 0xA0
  := by
  refine List.all_iff_forall_prop.mp ?_
  obtain rfl | rfl := hfields
  · exact List.all_eq_true.mp (by decide : singleCmds.all fun cmd =>
      (frameBytes cmd []).tail.all fun b => b ≠ 0 ∧ b ≠ 0xA0) cmd hcmd
  · exact List.all_eq_true.mp (by decide : singleCmds.all fun cmd =>
      (frameBytes cmd [1]).tail.all fun b => b ≠ 0 ∧ b ≠ 0xA0) cmd hcmd

/-- A command that waits for one frame and is sent gets every well-formed answer that arrives in
time if and only if no frame was under way on the link: nothing gives up a frame that was left
incomplete. -/
theorem answer_received_iff (before cmd : UInt8) (p : Mem) (g : Globals) (hcmd : cmd ∈ singleCmds)
    (hsent : FrameFits (bufLen - 1) cmd before p g.tmpAntenna) :
  GetsAnswer before cmd p g ↔ g.r2000.index = 0
  := by
  have hfit : FrameFits bufLen cmd before p g.tmpAntenna := by
    obtain ⟨fields, hfields, hlength⟩ := hsent
    exact ⟨fields, hfields, by omega⟩
  constructor
  · intro hgets
    by_contra hindex
    have hknown := (singleCmds_known hcmd).1
    -- one of two answers does not have the length byte that is in the buffer
    by_cases hthree : (sendCmd cmd before p g).r2000.buf.load 1 = 3
    · apply misses_answer hknown hfit hindex [1] (by decide) _ (short_answer_tail hcmd (.inr rfl))
        hgets
      rw [hthree]
      decide
    · exact misses_answer hknown hfit hindex [] (by decide) hthree
        (short_answer_tail hcmd (.inl rfl)) hgets
  · exact getsAnswer_of_index hcmd hfit

/-- A new reader gets the answer to the question for the version of the R2000. -/
theorem version_received :
  GetsAnswer 0 0x72 (fun _ => 0) (powerOn .blank).toGlobals
  := by
  apply (answer_received_iff 0 0x72 (fun _ => 0) (powerOn .blank).toGlobals (by decide)
    ⟨[], rfl, by decide⟩).mpr
  rw [powerOn_eq]
  decide

/-- Two bytes of a frame that never went on were received before the question for the version is
sent: three bytes of the answer complete that frame, and the call returns with it. -/
theorem answer_completes_old_frame :
  let g := [0xA0, 0x05].foldl uart4IRQHandler (powerOn .blank).toGlobals
  let f : List UInt8 := [0xA0, 0x05, 0xFF, 0x72, 0x01, 0x02, 0xE7]
  g.r2000.setMark = 0 ∧ g.r2000.index = 2 ∧ IsAnswer 0x72 f
    ∧ ∃ g', encodeR2000 0x72 (fun _ => 0) (g.setTraffic [f.map .rx ++ [.poll]]) = some (0, g')
      ∧ g'.r2000.load.take f.length = [0xA0, 0x03, 0xA0, 0x05, 0xFF, 0x00, 0x00]
      ∧ g'.r2000.len = 5
  := by
  intro g f
  have hlink : (g.r2000.setMark, g.r2000.index) = (0, 2) := by
    unfold g
    rw [powerOn_eq]
    decide
  have hcall : (encodeR2000 0x72 (fun _ => 0) (g.setTraffic [f.map .rx ++ [.poll]])).map
      (fun out => (out.1, out.2.r2000.load.take f.length, out.2.r2000.len))
      = some (0, [0xA0, 0x03, 0xA0, 0x05, 0xFF, 0x00, 0x00], 5) := by
    unfold g
    rw [powerOn_eq]
    decide
  simp only [Prod.mk.injEq] at hlink
  rw [Option.map_eq_some_iff] at hcall
  obtain ⟨⟨flag, g'⟩, hcall, heq⟩ := hcall
  simp only [Prod.mk.injEq] at heq
  obtain ⟨rfl, htake, hlen⟩ := heq
  have hanswer : IsAnswer 0x72 f := ⟨⟨rfl, rfl⟩, by decide, by decide, rfl, by decide⟩
  exact ⟨hlink.1, hlink.2, hanswer, g', hcall, htake, hlen⟩

end UhfReader
