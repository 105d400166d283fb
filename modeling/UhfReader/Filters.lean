import UhfReader.Active
import UhfReader.Effects
import UhfReader.Radio.Masks
import UhfReader.Wait

/-!
# The tag filter

`0x15` stores the tag filter in `g_device`, and `readCard6C` takes it over as the mask that
`MaskCheck` applies.  Both copy as many bytes as they are told: `0x15` the parameters of the
request, whatever their number, and `readCard6C` one byte for each bit of the mask.
-/

open Memory

namespace UhfReader

/-! ### Storing the filter -/

section Storing

variable {o : CmdOrigin} {buffer : Mem} {length : ℕ} {r : Reader} {reply : UInt8 × Mem × Reader}

/-- The bytes of `g_device` outside of its tag filter. -/
def OutsideFilter (i : ℕ) : Prop := i < Offset.tagfilter ∨ Offset.tagfilter + 35 ≤ i ∧ i < 210

/-- The parameters beyond the 35 bytes of the filter are what `g_device` holds behind it. -/
def FilterFits (o : CmdOrigin) (buffer : Mem) (d : SDevice) : Prop :=
  ∀ j < (buffer 1 - emptyLen o).toNat, 35 ≤ j → Offset.tagfilter + j < 210 →
    filterSource o buffer j = d.load (Offset.tagfilter + j)

/-- A filter of at most 35 bytes fits. -/
theorem filterFits_of_le (d : SDevice) (h : (buffer 1 - emptyLen o).toNat ≤ 35) :
  FilterFits o buffer d
  := by
  intro j hj hlong
  omega

/-- An acknowledged tag filter leaves the rest of `g_device` alone if and only if the parameters
beyond the filter are what is there already. -/
theorem filter_only_iff (r : Reader) (hreg : Registered r.gParamTable) (o : CmdOrigin)
    (buffer : Mem) (length : ℕ) (reply : UInt8 × Mem × Reader)
    (h : processParamTable o buffer length r = some reply) (hcmd : buffer 2 = 0x15)
    (hok : reply.1 = cmdoorCheckOk) :
  (∀ i, OutsideFilter i → reply.2.2.gDevice.load i = r.gDevice.load i)
    ↔ FilterFits o buffer r.gDevice
  := by
  rw [(tagFilter_stored hreg h hcmd hok).1]
  constructor
  · intro hsame j hj hlong hin
    have hkept := hsame (Offset.tagfilter + j) (.inr ⟨by omega, hin⟩)
    rwa [Block.load_copy_inside hj hin] at hkept
  · intro hfits i hout
    by_cases hcopied : Offset.tagfilter ≤ i
        ∧ i < Offset.tagfilter + (buffer 1 - emptyLen o).toNat
    · obtain ⟨j, rfl⟩ := Nat.exists_eq_add_of_le hcopied.1
      have hj : j < (buffer 1 - emptyLen o).toNat := by omega
      obtain hbelow | ⟨hlong, hin⟩ := hout
      · omega
      · rw [Block.load_copy_inside hj hin]
        exact hfits j hj (by omega) hin
    · apply Block.load_copy_outside
      omega

/-- A new reader is set to command mode and given a filter for one byte of the tag. -/
theorem filter_only_short :
  let write := requestBuffer .sourceFrom232 0x15 0 [0x00, 0x20, 0x00, 0x08, 0xE2] fun _ => 0
  ∃ buffer₀ r reply, processParamTable .sourceFrom232 commandModeRequest 5 (powerOn .blank)
      = some (cmdoorCheckOk, buffer₀, r)
    ∧ processParamTable .sourceFrom232 write 9 r = some reply
    ∧ ∀ i, OutsideFilter i → reply.2.2.gDevice.load i = r.gDevice.load i
  := by
  intro write
  have heval : ((processParamTable .sourceFrom232 commandModeRequest 5 (powerOn .blank)).bind
      fun mode => (processParamTable .sourceFrom232 write 9 mode.2.2).map
        fun reply => (mode.1, reply.1)) = some (cmdoorCheckOk, cmdoorCheckOk) := by
    rw [powerOn_eq]
    decide +kernel
  obtain ⟨⟨flag₀, buffer₀, r⟩, hmode, hreply⟩ := Option.bind_eq_some_iff.mp heval
  obtain ⟨reply, hreply, heq⟩ := Option.map_eq_some_iff.mp hreply
  simp only [Prod.mk.injEq] at heq
  obtain ⟨rfl, hok⟩ := heq
  have hreg : Registered r.gParamTable := registered_commandMode hmode
  refine ⟨buffer₀, r, reply, hmode, hreply, ?_⟩
  apply (filter_only_iff r hreg _ _ _ _ hreply (by decide) hok).mpr
  exact filterFits_of_le _ (by decide)

/-- A filter of 36 bytes writes over `ReaderRevStatus`. -/
theorem filter_over_status :
  let write := requestBuffer .sourceFrom232 0x15 0 (List.replicate 35 0 ++ [7]) fun _ => 0
  ∃ buffer₀ r reply, processParamTable .sourceFrom232 commandModeRequest 5 (powerOn .blank)
      = some (cmdoorCheckOk, buffer₀, r)
    ∧ processParamTable .sourceFrom232 write 40 r = some reply ∧ reply.1 = cmdoorCheckOk
    ∧ OutsideFilter Offset.readerRevStatus
    ∧ reply.2.2.gDevice.load Offset.readerRevStatus ≠ r.gDevice.load Offset.readerRevStatus
  := by
  intro write
  have heval : ((processParamTable .sourceFrom232 commandModeRequest 5 (powerOn .blank)).bind
      fun mode => (processParamTable .sourceFrom232 write 40 mode.2.2).map
        fun reply => (mode.1, reply.1, decide (reply.2.2.gDevice.load Offset.readerRevStatus
          ≠ mode.2.2.gDevice.load Offset.readerRevStatus)))
      = some (cmdoorCheckOk, cmdoorCheckOk, true) := by
    rw [powerOn_eq]
    decide +kernel
  obtain ⟨⟨flag₀, buffer₀, r⟩, hmode, hreply⟩ := Option.bind_eq_some_iff.mp heval
  obtain ⟨reply, hreply, heq⟩ := Option.map_eq_some_iff.mp hreply
  simp only [Prod.mk.injEq, decide_eq_true_eq] at heq
  obtain ⟨rfl, hok, hchanged⟩ := heq
  have hout : OutsideFilter Offset.readerRevStatus := by
    right
    decide
  exact ⟨buffer₀, r, reply, hmode, hreply, hok, hout, hchanged⟩

end Storing

/-! ### Applying the filter -/

namespace Globals

/-- The mask address in `g_device`, in bits. -/
def filterAddr (g : Globals) : ℕ :=
  (g.gDevice.load Offset.tagfilter).toNat * 256 + (g.gDevice.load (Offset.tagfilter + 1)).toNat

/-- The mask length in `g_device`, in bits. -/
def filterLen (g : Globals) : ℕ :=
  (g.gDevice.load (Offset.tagfilter + 2)).toNat * 256
    + (g.gDevice.load (Offset.tagfilter + 3)).toNat

/-- The places in `CMDMaskData` that `memcpy(CMDMaskData, TagMaskData, CMDMasklen)` writes. -/
def maskStores (g : Globals) : List ℕ := List.range g.loadMask.cmdMasklen.toNat

end Globals

/-- The copy writes only `CMDMaskData`. -/
def Globals.CopiesInside (g : Globals) : Prop := ∀ i ∈ g.maskStores, i < 31

/-- While `0x91` is waited for, `MaskCheck` accepts the tags that pass the filter in `g_device`. -/
def Globals.Applies (g : Globals) : Prop :=
  ∀ channel es g',
    Run.run (waitStep 0x91) es (sendCmd 0x91 0 channel g.loadMask.readClock) = some g' →
    ∀ tag n, maskCheck g' tag n = true
      ↔ Passes6C g.filterAddr g.filterLen (Mem.shift g.gDevice.load Offset.tagMaskData) tag n

theorem maskStores_inside_iff {g : Globals} (hlen : g.filterLen ≤ 248) :
  g.CopiesInside ↔ g.filterLen ≤ 31
  := by
  have hhigh : g.filterLen = g.loadMask.cmdMasklen.toNat := by
    have hsum : g.filterLen = (g.gDevice.load (Offset.tagfilter + 2)).toNat * 256
      + g.loadMask.cmdMasklen.toNat := rfl
    omega
  unfold Globals.CopiesInside Globals.maskStores
  simp only [List.mem_range]
  constructor
  · intro h
    by_contra hlong
    exact absurd (h 31 (by omega)) (by decide)
  · intro h i hi
    omega

/-- A mask of at most 31 bits is taken over as it is. -/
theorem applies_of_le {g : Globals} (hlen : g.filterLen ≤ 31) :
  g.Applies
  := by
  intro channel es g' hrun tag n
  have hmasks : g'.masks = g.loadMask.masks := (run_masks hrun).trans rfl
  have haddr : g'.cmdMaskaddr = g.filterAddr := congrArg Masks.cmdMaskaddr hmasks
  have hcount : g'.cmdMasklen.toNat = g.filterLen := by
    have hsum : g.filterLen = (g.gDevice.load (Offset.tagfilter + 2)).toNat * 256
        + (g.gDevice.load (Offset.tagfilter + 3)).toNat := rfl
    have hlow : g'.cmdMasklen = g.gDevice.load (Offset.tagfilter + 3) :=
      congrArg Masks.cmdMasklen hmasks
    rw [hlow]
    omega
  have hdata : g'.cmdMaskData = g.cmdMaskData.copy 0 (Mem.shift g.gDevice.load Offset.tagMaskData)
      (g.gDevice.load (Offset.tagfilter + 3)).toNat := congrArg Masks.cmdMaskData hmasks
  have hbit : ∀ i < g.filterLen, Mem.bit g'.cmdMaskData.load i
      = Mem.bit (Mem.shift g.gDevice.load Offset.tagMaskData) i := by
    intro i hi
    have hlow : g'.cmdMasklen = g.gDevice.load (Offset.tagfilter + 3) :=
      congrArg Masks.cmdMasklen hmasks
    rw [← hlow] at hdata
    have hload : (g.cmdMaskData.copy 0 (Mem.shift g.gDevice.load Offset.tagMaskData)
        g'.cmdMasklen.toNat).load (0 + i / 8)
        = Mem.shift g.gDevice.load Offset.tagMaskData (i / 8) :=
      Block.load_copy_inside (by omega) (by omega)
    rw [Nat.zero_add] at hload
    rw [Mem.bit, Mem.bit, hdata, hload]
  rw [maskCheck_iff, haddr, hcount]
  unfold Passes6C
  apply or_congr Iff.rfl
  apply and_congr Iff.rfl
  constructor
  · intro h i hle hlt
    rw [h i hle hlt]
    exact hbit _ (by omega)
  · intro h i hle hlt
    rw [h i hle hlt]
    exact (hbit _ (by omega)).symm

/-- A mask of at most 248 bits is copied inside `CMDMaskData` and applied as it is stored, if and
only if it has at most 31 bits. -/
theorem filter_applied_iff (g : Globals) (hlen : g.filterLen ≤ 248) :
  g.CopiesInside ∧ g.Applies ↔ g.filterLen ≤ 31
  := by
  rw [maskStores_inside_iff hlen]
  constructor
  · intro h
    exact h.1
  · intro h
    exact ⟨h, applies_of_le h⟩

/-- Globals with a filter in `g_device`: a mask of `len` bits at bit 32. -/
def withFilter (len : UInt8) : Globals :=
  { (powerOn .blank).toGlobals with
    gDevice := (Block.zero 210).copy Offset.tagfilter
      (Mem.ofList [0x00, 0x20, 0x00, len, 0xE2, 0x80] fun _ => 0) 6 }

/-- A filter for two bytes of the tag is applied. -/
theorem filter_applied_short :
  (withFilter 16).CopiesInside ∧ (withFilter 16).Applies
  := (filter_applied_iff (withFilter 16) (by decide)).mpr (by decide)

/-- With a mask of 96 bits, 96 bytes are copied into the 31 bytes of `CMDMaskData`. -/
theorem mask_copied_over :
  (withFilter 96).filterLen ≤ 248 ∧ ¬ ((withFilter 96).CopiesInside ∧ (withFilter 96).Applies)
  := by
  refine ⟨by decide, ?_⟩
  rintro ⟨hinside, -⟩
  have hstore : 95 ∈ (withFilter 96).maskStores := by
    apply List.mem_range.mpr
    decide
  exact absurd (hinside 95 hstore) (by decide)

end UhfReader
