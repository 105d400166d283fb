import UhfReader.Overreads
import UhfReader.Radio.Frequency

/-!
# Selecting a region

`0x86` stores the six bytes of `FreqSelect` and calls `SetFrequency1`, which writes the bounds of
the band over the first two parameters before it sends them.  `encodeR2000` takes the first of what
it is given for the region, and records it in `g_device`.
-/

open Memory Stateful

namespace UhfReader

/-- The frame of `0x78` for a region and the bounds of the band. -/
def regionFrame (region frequencyMin frequencyMax : UInt8) : List UInt8 :=
  let head := [0xA0, 0x06, 0xFF, 0x78, region, frequencyMin, frequencyMax]
  head ++ [~~~ head.sum + 1]

/-- The region takes effect as requested: `FreqSelect` holds the parameters of the request, and
the frame with this region and the bounds of the band is sent, and no other. -/
structure RegionTaken (o : CmdOrigin) (buffer : Mem) (r r' : Reader) : Prop where
  region : r'.gDevice.region = buffer (paraOff o)
  freqSelect : ∀ k, 0 < k → k < 6 →
    r'.gDevice.load (Offset.freqSelect + k) = buffer (paraOff o + k)
  sent : r'.sent = r.sent ++ [regionFrame (buffer (paraOff o))
    (r.gDevice.load Offset.frequencyMin) (r.gDevice.load Offset.frequencyMax)]

/-- `SetFrequency1` sends the bounds of the band as region and lower bound, and the third
parameter as the upper one, when the lower bound of the band is one of the regions 1 to 3. -/
theorem setFrequency1_sent {p q : Mem} {g g' : Globals} (h : setFrequency1 p g = some (q, g'))
    (hregion : g.gDevice.load Offset.frequencyMin ∈ [(1 : UInt8), 2, 3]) :
  g'.sent = g.sent ++ [regionFrame (g.gDevice.load Offset.frequencyMin)
    (g.gDevice.load Offset.frequencyMax) (p 2)]
  := by
  have hfields : frameFields 0x78 0 (frequencyArgs g p) g.tmpAntenna
      = some [g.gDevice.load Offset.frequencyMin, g.gDevice.load Offset.frequencyMax, p 2] := by
    apply if_pos
    rw [frequencyArgs_first]
    simpa using hregion
  rw [setFrequency1_eq, Option.bind_eq_some_iff] at h
  obtain ⟨⟨flag, g₁⟩, hask, h⟩ := h
  have hsent := encodeR2000From_frame (by decide) hfields (by simp) hask
  dsimp only at h
  split at h
  · cases h
    exact hsent
  · cases h
    exact hsent

theorem regionFrame_inj {a b c a' b' c' : UInt8} (h : regionFrame a b c = regionFrame a' b' c') :
  a = a' ∧ b = b' ∧ c = c'
  := by
  have hfields : frameBytes 0x78 [a, b, c] = frameBytes 0x78 [a', b', c'] := h
  have hlist := frameBytes_inj hfields
  simpa using hlist

theorem region_of_rangeControl {region : UInt8} (h : rangeControl 0x86 region = cmdoorCheckOk) :
  region ∈ [(1 : UInt8), 2, 3]
  := by
  simp only [rangeControl, UInt8.lt_iff_toNat_lt, gt_iff_lt, UInt8.reduceToNat] at h
  split at h
  · exact absurd h (by decide)
  · rename_i hin
    simp only [List.mem_cons, List.not_mem_nil, or_false, ← UInt8.toNat_inj, UInt8.reduceToNat]
    omega

section

variable {o : CmdOrigin} {buffer : Mem} {length : ℕ} {r : Reader} {reply : UInt8 × Mem × Reader}

/-- An acknowledged `0x86` has a region of 1 to 3, and runs `SetFrequency1` on a reader that has
its parameters in `FreqSelect`. -/
theorem process_region (hreg : Registered r.gParamTable) (hcmd : buffer 2 = 0x86)
    (h : processParamTable o buffer length r = some reply) (hok : reply.1 = cmdoorCheckOk) :
  buffer (paraOff o) ∈ [(1 : UInt8), 2, 3]
    ∧ ∃ p q g g', setFrequency1 p g = some (q, g') ∧ reply.2.2.toGlobals = g'
      ∧ p 2 = buffer (paraOff r.tagDataOrigin + 2)
      ∧ g.gDevice = r.gDevice.copy Offset.freqSelect (buffer.shift (paraOff o)) 6
      ∧ g.sent = r.sent
  := by
  have hmem : (buffer 2,
      (⟨some (.device Offset.freqSelect), flagWR, 6, some .setFrequency1⟩ : SParamItem))
      ∈ registeredItems := by
    rw [hcmd]
    decide
  have hwindow : windowCmd (buffer 2) := by
    rw [hcmd]
    decide
  obtain ⟨-, herror, -⟩ | ⟨hvalid, hright, -, -⟩ :=
    process_window_cases hreg hmem rfl hwindow rfl h
  · exact absurd hok herror
  · have hrange : rangeControl 0x86 (buffer (paraOff o)) = cmdoorCheckOk := by
      rw [← hcmd]
      exact hright.2
    refine ⟨?_, ?_⟩
    · exact region_of_rangeControl hrange
    · rw [process_window hreg hvalid hmem rfl hwindow rfl hright, Option.map_eq_some_iff] at h
      obtain ⟨called, hcall, rfl⟩ := h
      obtain ⟨hnone, -⟩ | ⟨f, q, g', hf, hrun, rfl⟩ := callFunction_cases hcall
      · cases hnone
      · cases hf
        refine ⟨_, q, _, g', hrun, rfl, ?_, rfl, rfl⟩
        rw [Mem.shift_apply, Mem.put_of_ne (by omega)]
        rfl

/-- An acknowledged `0x86` takes effect as requested if and only if both bounds of the band and
the third parameter are the region: `SetFrequency1` sends the lower bound for the region, the upper
bound for the lower one, and the third parameter, where the last origin has it, for the upper
one. -/
theorem region_taken_iff (r : Reader) (hreg : Registered r.gParamTable) (o : CmdOrigin)
    (buffer : Mem) (length : ℕ) (reply : UInt8 × Mem × Reader) (hcmd : buffer 2 = 0x86)
    (h : processParamTable o buffer length r = some reply) (hok : reply.1 = cmdoorCheckOk) :
  RegionTaken o buffer r reply.2.2
    ↔ r.gDevice.load Offset.frequencyMin = buffer (paraOff o)
      ∧ r.gDevice.load Offset.frequencyMax = buffer (paraOff o)
      ∧ buffer (paraOff r.tagDataOrigin + 2) = buffer (paraOff o)
  := by
  obtain ⟨hregion, p, q, g, g', hrun, hafter, hthird, hdevice, hsent⟩ :=
    process_region hreg hcmd h hok
  have hset : g'.gDevice = g.gDevice.put Offset.freqSelect (g.gDevice.load Offset.frequencyMin) :=
    congrArg Settings.gDevice (setFrequency1_settings hrun)
  have hmin : g.gDevice.load Offset.frequencyMin = r.gDevice.load Offset.frequencyMin := by
    rw [hdevice]
    exact Block.load_copy_outside (by decide)
  have hmax : g.gDevice.load Offset.frequencyMax = r.gDevice.load Offset.frequencyMax := by
    rw [hdevice]
    exact Block.load_copy_outside (by decide)
  have hstored : g'.gDevice.region = r.gDevice.load Offset.frequencyMin := by
    rw [SDevice.region, hset, hmin, Block.load_put (by decide), if_pos rfl]
  have hframe : r.gDevice.load Offset.frequencyMin ∈ [(1 : UInt8), 2, 3] →
      g'.sent = r.sent ++ [regionFrame (r.gDevice.load Offset.frequencyMin)
        (r.gDevice.load Offset.frequencyMax) (buffer (paraOff r.tagDataOrigin + 2))] := by
    intro hmem
    rw [← hmin] at hmem
    rw [setFrequency1_sent hrun hmem, hmin, hmax, hthird, hsent]
  constructor
  · intro htaken
    have hlower : r.gDevice.load Offset.frequencyMin = buffer (paraOff o) := by
      rw [← hstored, ← hafter]
      exact htaken.region
    have hsent' := htaken.sent
    rw [hafter, hframe (hlower ▸ hregion)] at hsent'
    obtain ⟨-, hupper, hlast⟩ :=
      regionFrame_inj (List.singleton_inj.mp (List.append_cancel_left hsent'))
    exact ⟨hlower, hupper.trans hlower, hlast.trans (hupper.trans hlower)⟩
  · rintro ⟨hlower, hupper, hlast⟩
    refine ⟨?_, ?_, ?_⟩
    · rw [hafter, hstored, hlower]
    · intro k hpos hk
      rw [hafter, hset, Block.load_put (by simp only [Offset.freqSelect]; omega), if_neg (by omega),
        hdevice, Block.load_copy_inside hk (by simp only [Offset.freqSelect]; omega)]
      rfl
    · rw [hafter, hframe (hlower ▸ hregion), hlower, hupper, hlast]

/-- A request with six parameters for the region 1, not from RS485. -/
def bandRequest (cmd lower upper : UInt8) : Mem :=
  requestBuffer .sourceFrom232 cmd 0 [1, lower, upper, 0, 0, 0] fun _ => 0

/-- A new reader is set to command mode, its band is set to the one frequency 1, and the region 1
is selected. -/
theorem region_taken_one :
  ∃ buffer₀ r₀ buffer₁ r reply,
    processParamTable .sourceFrom232 commandModeRequest 5 (powerOn confirming)
        = some (cmdoorCheckOk, buffer₀, r₀)
      ∧ processParamTable .sourceFrom232 (bandRequest 0x05 1 1) 10 r₀
        = some (cmdoorCheckOk, buffer₁, r)
      ∧ processParamTable .sourceFrom232 (bandRequest 0x86 1 1) 10 r = some reply
      ∧ RegionTaken .sourceFrom232 (bandRequest 0x86 1 1) r reply.2.2
  := by
  have heval : ((processParamTable .sourceFrom232 commandModeRequest 5 (powerOn confirming)).bind
      fun mode => (processParamTable .sourceFrom232 (bandRequest 0x05 1 1) 10 mode.2.2).bind
        fun band => (processParamTable .sourceFrom232 (bandRequest 0x86 1 1) 10 band.2.2).map
        fun reply => (mode.1, band.1, reply.1, band.2.2.gDevice.load Offset.frequencyMin,
          band.2.2.gDevice.load Offset.frequencyMax, band.2.2.tagDataOrigin))
      = some (cmdoorCheckOk, cmdoorCheckOk, cmdoorCheckOk, 1, 1, .sourceFrom232) := by
    rw [powerOn_eq]
    decide +kernel
  obtain ⟨⟨flag₀, buffer₀, r₀⟩, hmode, hreplies⟩ := Option.bind_eq_some_iff.mp heval
  obtain ⟨⟨flag₁, buffer₁, r⟩, hband, hreplies⟩ := Option.bind_eq_some_iff.mp hreplies
  obtain ⟨reply, hreply, heq⟩ := Option.map_eq_some_iff.mp hreplies
  simp only [Prod.mk.injEq] at heq
  obtain ⟨rfl, rfl, hok, hmin, hmax, horigin⟩ := heq
  have hreg : Registered r.gParamTable := by
    apply processParamTable_registered _ hband
    exact registered_commandMode hmode
  refine ⟨buffer₀, r₀, buffer₁, r, reply, hmode, hband, hreply, ?_⟩
  apply (region_taken_iff r hreg _ _ _ _ (by decide) hreply hok).mpr
  rw [hmin, hmax, horigin]
  decide

/-- A new reader is set to command mode and told to select the region 1 with the band that it has:
the region becomes the lower bound of the band. -/
theorem region_not_taken :
  ∃ buffer₀ r reply,
    processParamTable .sourceFrom232 commandModeRequest 5 (powerOn confirming)
        = some (cmdoorCheckOk, buffer₀, r)
      ∧ processParamTable .sourceFrom232 (bandRequest 0x86 7 59) 10 r = some reply
      ∧ reply.1 = cmdoorCheckOk ∧ reply.2.2.gDevice.region = 7
      ∧ ¬ RegionTaken .sourceFrom232 (bandRequest 0x86 7 59) r reply.2.2
  := by
  have heval : ((processParamTable .sourceFrom232 commandModeRequest 5 (powerOn confirming)).bind
      fun mode => (processParamTable .sourceFrom232 (bandRequest 0x86 7 59) 10 mode.2.2).map
        fun reply => (mode.1, reply.1, reply.2.2.gDevice.region))
      = some (cmdoorCheckOk, cmdoorCheckOk, 7) := by
    rw [powerOn_eq]
    decide +kernel
  obtain ⟨⟨flag₀, buffer₀, r⟩, hmode, hreplies⟩ := Option.bind_eq_some_iff.mp heval
  obtain ⟨reply, hreply, heq⟩ := Option.map_eq_some_iff.mp hreplies
  simp only [Prod.mk.injEq] at heq
  obtain ⟨rfl, hok, hregion⟩ := heq
  refine ⟨buffer₀, r, reply, hmode, hreply, hok, hregion, ?_⟩
  intro htaken
  have hsame := htaken.region
  rw [hregion] at hsame
  exact absurd hsame (by decide)

end

end UhfReader
