import UhfReader.Radio.Transmit

/-!
# The frequency band

`SelFreq` is called once at start-up and tells the R2000 the frequency band in `g_device`, with the
frame of command `0x78`.  It builds the frame on its own: `encodeR2000` has a case for `0x78`, too,
which takes the band from the parameters of a request.
-/

open Memory

namespace UhfReader

/-! ### The frame of `SelFreq` -/

namespace SDevice

/-- `g_device.FreqSelect.region` -/
def region (d : SDevice) : UInt8 := d.load Offset.freqSelect

/-- `g_device.FreqSelect.para[k]` -/
def freqPara (d : SDevice) (k : ℕ) : UInt8 := d.load (Offset.freqSelect + 1 + k)

/-- The six bytes of `g_device.FreqSelect`. -/
def freqBytes (d : SDevice) : Mem := Mem.shift d.load Offset.freqSelect

/-- `Ftemp`: the start frequency in the last three bytes of `FreqSelect`, the lowest byte first,
and the lower bound of the band counted from it in steps of `para[0]`. -/
def startFrequency (d : SDevice) : ℕ :=
  (d.freqPara 2).toNat + 256 * (d.freqPara 3).toNat + 65536 * (d.freqPara 4).toNat
    + (d.load Offset.frequencyMin).toNat * (d.freqPara 0).toNat

end SDevice

/-- The buffer at `R2000.rec_buf.buf` closed behind `n` bytes and sent. -/
def closeAndSend (n : ℕ) (g : Globals) : Globals :=
  let r := g.r2000.store n (setChecksum g.r2000.load n)
  uart4Send r.load (n + 1) { g with r2000 := r }

/-- `SelFreq` up to its waiting loop.  Nothing is sent for a region above 4. -/
def selFreqSend (g : Globals) : Globals :=
  let d := g.gDevice
  let r := g.r2000.storeList 0 [0xA0, 0x06, 0xFF, 0x78, d.region]
  let r := { r with setMark := 0 }
  let g :=
    if d.region < 4 then
      let r := r.storeList 5 [d.load Offset.frequencyMin, d.load Offset.frequencyMax]
      closeAndSend 7 { g with r2000 := r }
    else if d.region = 4 then
      let r := r.store 1 0x09
      let r := r.storeList 5
        [d.freqPara 0, d.load Offset.frequencyMax - d.load Offset.frequencyMin]
      let tep (k : ℕ) : UInt8 := getByte d.startFrequency k
      let r := r.storeList 7 [tep 2, tep 1, tep 0]
      closeAndSend 10 { g with r2000 := r }
    else { g with r2000 := r }
  { g with r2000.sendTimer := g.r2000.sendTimer.start r2000SedTimer }

/-- `SelFreq` when the R2000 does not confirm the band. -/
def selFreqFailed (g : Globals) : Globals :=
  { g with
    r2000.sendTimer := g.r2000.sendTimer.stop, r2000.setMark := 0, selfCheckFailure := 8 }

/-- One round of the waiting loop of `SelFreq`: the globals after it, and whether it returns.  A
frame that answers another command is dropped. -/
def pollSelFreq (g : Globals) : Globals × Bool :=
  if g.r2000.sendTimer.isOverflow ≠ 0 then (selFreqFailed g, true)
  else if g.r2000.setMark ≠ 0 then
    if g.r2000.frameCmd = 0x78 then
      if g.r2000.para 0 = commandSuccess then (takeFrame g, true)
      else (selFreqFailed (takeFrame g), true)
    else ({ g with r2000.setMark := 0 }, false)
  else (g, false)

/-- The waiting loop of `SelFreq`, run over the events of one wait. -/
def waitSelFreq : List Event → Globals → Option Globals
  | [], _ => none
  | .rx b :: es, g => waitSelFreq es (uart4IRQHandler g b)
  | .tick :: es, g => waitSelFreq es (timeUpdate g)
  | .poll :: es, g =>
    if (pollSelFreq g).2 then some (pollSelFreq g).1 else waitSelFreq es (pollSelFreq g).1

/-- `SelFreq` -/
def selFreq : M Unit := fun g =>
  match (selFreqSend g).traffic with
  | [] => none
  | es :: rest => (waitSelFreq es ((selFreqSend g).setTraffic rest)).map fun g => ((), g)

/-! ### What is sent -/

/-- A list of bytes at the start of the buffer is closed and sent. -/
theorem closeAndSend_sent (g : Globals) {l : List UInt8} (h : l.length + 1 < bufLen)
    (r : SR2000TransData) :
  (closeAndSend l.length { g with r2000 := r.storeList 0 l }).sent
    = g.sent ++ [l ++ [~~~ l.sum + 1]]
  := by
  simp only [bufLen] at h
  have hclosed : (r.storeList 0 l).store l.length (setChecksum (r.storeList 0 l).load l.length)
      = r.storeList 0 (l ++ [~~~ l.sum + 1]) := by
    rw [SR2000TransData.storeList_append, Nat.zero_add, setChecksum,
      byteSum_storeList (by omega)]
    rfl
  have hlength : (l ++ [~~~ l.sum + 1]).length = l.length + 1 := by
    rw [List.length_append, List.length_singleton]
  unfold closeAndSend uart4Send
  dsimp only
  rw [if_neg (by simp only [bufLen]; omega), hclosed, ← hlength, take_storeList (by omega)]

/-- The length byte of a longer frame is stored over the first one. -/
theorem storeList_longer (r : SR2000TransData) (region : UInt8) (l l' : List UInt8)
    (h : l.length = 2) :
  (((r.storeList 0 [0xA0, 0x06, 0xFF, 0x78, region]).store 1 0x09).storeList 5 l).storeList 7 l'
    = r.storeList 0 ([0xA0, 0x09, 0xFF, 0x78, region] ++ (l ++ l'))
  := by
  have hlength : (r.storeList 0 [0xA0, 0x06, 0xFF, 0x78, region]).store 1 0x09
      = r.storeList 0 [0xA0, 0x09, 0xFF, 0x78, region] := by
    have hsplit := @SR2000TransData.storeList_store_comm 1 2 [0xFF, 0x78, region]
      (by decide) (by simp) 0x09 ((r.store 0 0xA0).store 1 0x06)
    rw [SR2000TransData.store_store (by decide)] at hsplit
    exact hsplit
  rw [hlength, SR2000TransData.storeList_append, SR2000TransData.storeList_append, h]
  rfl

/-- The fields that `SelFreq` sends for a band. -/
def selFreqFields (d : SDevice) : List UInt8 :=
  if d.region < 4 then [d.region, d.load Offset.frequencyMin, d.load Offset.frequencyMax]
  else
    [d.region, d.freqPara 0, d.load Offset.frequencyMax - d.load Offset.frequencyMin,
      getByte d.startFrequency 2, getByte d.startFrequency 1, getByte d.startFrequency 0]

/-- `SelFreq` sends the frame of `0x78` with its fields, for a region up to 4. -/
theorem selFreqSend_sent {g : Globals} (h : g.gDevice.region ≤ 4) :
  (selFreqSend g).sent = g.sent ++ [frameBytes 0x78 (selFreqFields g.gDevice)]
  := by
  unfold selFreqSend selFreqFields
  dsimp only
  by_cases hlow : g.gDevice.region < 4
  · rw [if_pos hlow, if_pos hlow]
    exact closeAndSend_sent g (l := [0xA0, 0x06, 0xFF, 0x78, g.gDevice.region,
      g.gDevice.load Offset.frequencyMin, g.gDevice.load Offset.frequencyMax]) (by simp)
      { g.r2000 with setMark := 0 }
  · have hfour : g.gDevice.region = 4 := by
      rw [← UInt8.toNat_inj]
      rw [UInt8.le_iff_toNat_le] at h
      rw [UInt8.lt_iff_toNat_lt] at hlow
      exact Nat.le_antisymm h (Nat.not_lt.mp hlow)
    rw [if_neg hlow, if_neg hlow, if_pos hfour]
    have hsent := closeAndSend_sent g (l := [0xA0, 0x09, 0xFF, 0x78, g.gDevice.region,
      g.gDevice.freqPara 0, g.gDevice.load Offset.frequencyMax - g.gDevice.load Offset.frequencyMin,
      getByte g.gDevice.startFrequency 2, getByte g.gDevice.startFrequency 1,
      getByte g.gDevice.startFrequency 0]) (by simp) { g.r2000 with setMark := 0 }
    have hlink := storeList_longer { g.r2000 with setMark := 0 } g.gDevice.region
      [g.gDevice.freqPara 0, g.gDevice.load Offset.frequencyMax - g.gDevice.load Offset.frequencyMin]
      [getByte g.gDevice.startFrequency 2, getByte g.gDevice.startFrequency 1,
        getByte g.gDevice.startFrequency 0] rfl
    rw [List.length_cons] at hsent
    exact (congrArg (fun r => (closeAndSend 10 { g with r2000 := r }).sent) hlink).trans hsent

/-- A received byte, a tick or a round of the waiting loop of `SelFreq` sends nothing. -/
theorem waitSelFreq_sent {es : List Event} {g g' : Globals} (h : waitSelFreq es g = some g') :
  g'.sent = g.sent
  := by
  induction es generalizing g with
  | nil => cases h
  | cons e es ih =>
    cases e with
    | rx b => exact (ih h).trans (uart4IRQHandler_sent g b)
    | tick => exact (ih h).trans (timeUpdate_sent g)
    | poll =>
      have hpoll : (pollSelFreq g).1.sent = g.sent := by
        unfold pollSelFreq
        repeat' split
        all_goals rfl
      simp only [waitSelFreq] at h
      split at h
      · cases h
        exact hpoll
      · exact (ih h).trans hpoll

/-- `SelFreq` sends one frame, whatever happens while it waits for the answer. -/
theorem selFreq_sent {g g' : Globals} (h : selFreq g = some ((), g')) :
  g'.sent = (selFreqSend g).sent
  := by
  unfold selFreq at h
  split at h
  · cases h
  · rw [Option.map_eq_some_iff] at h
    obtain ⟨g₁, hwait, heq⟩ := h
    cases heq
    exact (waitSelFreq_sent hwait).trans (setTraffic_sent _ _)

/-! ### The two frames of `0x78` -/

/-- The working parameters are those of the band in `FreqSelect`: its bounds in the regions 1 to 3,
and its steps from its start on in region 4. -/
def BandKept (d : SDevice) : Prop :=
  (d.region ∈ [(1 : UInt8), 2, 3] ∧ d.load Offset.frequencyMin = d.freqPara 0
      ∧ d.load Offset.frequencyMax = d.freqPara 1)
    ∨ (d.region = 4 ∧ d.load Offset.frequencyMin = 0
      ∧ d.load Offset.frequencyMax = d.freqPara 1)

instance (d : SDevice) : Decidable (BandKept d) := inferInstanceAs (Decidable (_ ∨ _))

/-- The bytes of the start frequency, when the band is counted from it. -/
theorem getByte_startFrequency {d : SDevice} (h : d.load Offset.frequencyMin = 0) :
  getByte d.startFrequency 0 = d.freqPara 2 ∧ getByte d.startFrequency 1 = d.freqPara 3
    ∧ getByte d.startFrequency 2 = d.freqPara 4
  := by
  have h₂ := (d.freqPara 2).toNat_lt
  have h₃ := (d.freqPara 3).toNat_lt
  have h₄ := (d.freqPara 4).toNat_lt
  have hbyte : ∀ (v k : ℕ) (b : UInt8), v / 256 ^ k % 256 = b.toNat → getByte v k = b := by
    intro v k b hb
    rw [getByte, hb, UInt8.ofNat_toNat]
  have hstart : d.startFrequency = (d.freqPara 2).toNat + 256 * (d.freqPara 3).toNat
      + 65536 * (d.freqPara 4).toNat := by
    rw [SDevice.startFrequency, h]
    rw [show (0 : UInt8).toNat = 0 from rfl, Nat.zero_mul, Nat.add_zero]
  rw [hstart]
  refine ⟨hbyte _ _ _ ?_, hbyte _ _ _ ?_, hbyte _ _ _ ?_⟩
  all_goals omega

/-- The fields of the two frames for a band. -/
theorem bandKept_fields {d : SDevice} (before antennas : UInt8) (h : BandKept d) :
  d.region ≤ 4 ∧ ∃ fields, frameFields 0x78 before d.freqBytes antennas = some fields
    ∧ fields.length + 5 < bufLen
    ∧ (selFreqFields d = fields ↔ d.region ≠ 4 ∨ d.freqPara 2 = d.freqPara 4)
  := by
  obtain ⟨hmem, hmin, hmax⟩ | ⟨hfour, hmin, hmax⟩ := h
  · have hlow : ∀ region ∈ [(1 : UInt8), 2, 3], region < 4 ∧ region ≤ 4 ∧ region ≠ 4
        ∧ (region = 1 ∨ region = 2 ∨ region = 3) := by decide +kernel
    obtain ⟨hlt, hle, hne, hthree⟩ := hlow _ hmem
    refine ⟨hle, [d.region, d.freqPara 0, d.freqPara 1], if_pos hthree, by simp, ?_⟩
    unfold selFreqFields
    rw [if_pos hlt, hmin, hmax]
    exact iff_of_true rfl (.inl hne)
  · obtain ⟨hlowest, hmiddle, hhighest⟩ := getByte_startFrequency hmin
    have hfields : frameFields 0x78 before d.freqBytes antennas = some [d.region, d.freqPara 0,
        d.freqPara 1, d.freqPara 2, d.freqPara 3, d.freqPara 4] := by
      have hfirst : d.freqBytes 0 = 4 := hfour
      simp only [frameFields]
      rw [if_neg (by rw [hfirst]; decide), if_pos hfirst]
      rfl
    refine ⟨by rw [hfour]; decide, _, hfields, by simp, ?_⟩
    unfold selFreqFields
    rw [if_neg (by rw [hfour]; decide), hmin, hmax, hlowest, hmiddle, hhighest, UInt8.sub_zero,
      or_iff_right (not_not.mpr hfour)]
    simp only [List.cons.injEq, and_true, true_and]
    constructor
    · rintro ⟨hsame, -⟩
      exact hsame.symm
    · intro hsame
      exact ⟨hsame.symm, hsame⟩

/-- The frame that `SelFreq` sends is the one that `encodeR2000` sends for the six bytes of
`FreqSelect`, if and only if the region is not 4 or the lowest and the highest byte of the start
frequency are the same. -/
theorem selFreq_frame_iff (g : Globals) (before : UInt8) (h : BandKept g.gDevice) :
  ∃ frame frame', (selFreqSend g).sent = g.sent ++ [frame]
    ∧ (∀ traffic g', selFreq (g.setTraffic traffic) = some ((), g') → g'.sent = g.sent ++ [frame])
    ∧ (sendCmd 0x78 before g.gDevice.freqBytes g).sent = g.sent ++ [frame']
    ∧ (∀ traffic flag g',
      encodeR2000From before 0x78 g.gDevice.freqBytes (g.setTraffic traffic) = some (flag, g') →
        g'.sent = g.sent ++ [frame'])
    ∧ (frame = frame' ↔ g.gDevice.region ≠ 4 ∨ g.gDevice.freqPara 2 = g.gDevice.freqPara 4)
  := by
  obtain ⟨hregion, fields, hfields, hshort, hsame⟩ := bandKept_fields before g.tmpAntenna h
  refine ⟨_, frameBytes 0x78 fields, selFreqSend_sent hregion, ?_, sendCmd_frame hfields hshort,
    ?_, ?_⟩
  · intro traffic g' hrun
    exact (selFreq_sent hrun).trans (selFreqSend_sent (g := g.setTraffic traffic) hregion)
  · intro traffic flag g' hrun
    exact encodeR2000From_frame (g := g.setTraffic traffic) (by decide) hfields hshort hrun
  · rw [← hsame]
    exact ⟨frameBytes_inj, congrArg _⟩

/-- Globals with the six bytes of `FreqSelect` and the working parameters that go with them. -/
def bandOfRegion (freqSelect : List UInt8) : Globals :=
  { (powerOn .blank).toGlobals with
    gDevice := (((Block.zero 210).copy Offset.freqSelect (Mem.ofList freqSelect fun _ => 0) 6).put
      Offset.frequencyMin (if freqSelect.getD 0 0 = 4 then 0 else freqSelect.getD 1 0)).put
      Offset.frequencyMax (freqSelect.getD 2 0) }

/-- The band of region 1 from 7 to 59 is sent with the same frame. -/
theorem selFreq_frame_region :
  let g := bandOfRegion [1, 7, 59, 0, 0, 0]
  ∃ frame frame', (selFreqSend g).sent = g.sent ++ [frame]
    ∧ (sendCmd 0x78 0 g.gDevice.freqBytes g).sent = g.sent ++ [frame'] ∧ frame = frame'
  := by
  intro g
  obtain ⟨frame, frame', hsent, -, hsent', -, hiff⟩ := selFreq_frame_iff g 0 (by decide)
  exact ⟨frame, frame', hsent, hsent', hiff.mpr (.inl (by decide))⟩

/-- A band of region 4 that starts at `0x0E1F60` kHz is sent from the other end. -/
theorem selFreq_frame_reversed :
  let g := bandOfRegion [4, 5, 10, 0x60, 0x1F, 0x0E]
  BandKept g.gDevice ∧ (selFreqSend g).sent ≠ (sendCmd 0x78 0 g.gDevice.freqBytes g).sent
  := by
  decide +kernel

end UhfReader
