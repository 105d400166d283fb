import UhfReader.Radio.Transmit
import UhfReader.Trailing

/-!
# Requests that read past their frames

A request that does not keep to its frame is told apart by what stands behind it: for each way to
leave the frame there is a byte behind it that changes the settings, a frame to the R2000, or the
reply.  Two commands can overrun the buffer for the R2000 besides; nothing is said about these.
-/

open Memory Stateful

namespace UhfReader

variable {o : CmdOrigin} {b b' : Mem} {length : ℕ} {r : Reader}

/-! ### Bytes behind a frame -/

/-- A byte behind the frame is changed. -/
theorem sameFrame_put {i : ℕ} (hi : (b 1).toNat + 2 ≤ i) (v : UInt8) :
  SameFrame b (b.put i v)
  := by
  intro j hj
  rw [Mem.put_of_ne (by omega)]

theorem shift_put (m : Mem) (off i : ℕ) (v : UInt8) :
  (m.put (off + i) v).shift off = (m.shift off).put i v
  := by
  funext j
  simp only [Mem.shift, Mem.put, Nat.add_left_cancel_iff]

/-- A parameter behind the frame is changed. -/
theorem sameFrame_putPara (hhead : HeadInside o b) {i : ℕ} (hi : frameRest o b ≤ i) (v : UInt8) :
  SameFrame b (b.put (paraOff o + i) v)
  := by
  apply sameFrame_put
  unfold HeadInside at hhead
  unfold frameRest at hi
  omega

/-- What stands behind the frame makes a difference. -/
def Differs (o : CmdOrigin) (b : Mem) (length : ℕ) (r : Reader) : Prop :=
  ∃ b', SameFrame b b'
    ∧ ¬ SameTraces (processParamTable o b length r) (processParamTable o b' length r)

/-- Requests whose results differ if both return. -/
theorem not_sameTraces {a a' : Option (UInt8 × Mem × Reader)} (hreturn : a.isSome)
    (h : ∀ x y, a = some x → a' = some y → ¬ SameTrace x y) :
  ¬ SameTraces a a'
  := by
  rintro (⟨hnone, -⟩ | ⟨x, y, hx, hy, hsame⟩)
  · rw [hnone] at hreturn
    cases hreturn
  · exact h x y hx hy hsame

/-! ### Functions of the third kind -/

/-- A valid request of the third kind whose length is right runs its function. -/
theorem processWith_function (run : HandlerRun) {f : Handler} (hreg : Registered r.gParamTable)
    (hvalid : Valid o b length r.toGlobals) (hmem : (b 2, f) ∈ otherFunctions)
    (hok : tagDataLenPurse o b = cmdoorCheckOk) :
  processWith run o b length r
    = (run (b (paraOff o - 1)) (b.shift (paraOff o)) f r.toGlobals).map fun ran =>
        pack o (finishOther o
          (b.graft (paraOff o) ran.1, { toGlobals := ran.2, tagDataOrigin := o }))
  := by
  have hall : ∀ x ∈ otherFunctions, ∃ e ∈ registeredItems, e.1 = x.1 ∧ e.2.flag = flagOTHR
      ∧ e.2.function = some x.2 := by decide
  obtain ⟨⟨c, item⟩, hitem, rfl, hothr, hf⟩ := hall _ hmem
  have hmatch := hreg.entry hitem rfl
  rw [processWith_of_valid run hvalid, dispatch_other run hvalid (hmatch.flag.trans hothr),
    otherRequest_of_function run _ hok (hmatch.function.trans hf), Option.map_map]
  rfl

theorem process_function {f : Handler} (hreg : Registered r.gParamTable)
    (hvalid : Valid o b length r.toGlobals) (hmem : (b 2, f) ∈ otherFunctions)
    (hok : tagDataLenPurse o b = cmdoorCheckOk) :
  processParamTable o b length r
    = (f.run (b (paraOff o - 1)) (b.shift (paraOff o)) r.toGlobals).map fun ran =>
        pack o (finishOther o
          (b.graft (paraOff o) ran.1, { toGlobals := ran.2, tagDataOrigin := o }))
  := processWith_function runHandler hreg hvalid hmem hok

/-- A request of the third kind that is carried out. -/
structure CarriedOut (o : CmdOrigin) (b : Mem) (length : ℕ) (r : Reader) : Prop where
  registered : Registered r.gParamTable
  valid : Valid o b length r.toGlobals
  head : HeadInside o b
  len : tagDataLenPurse o b = cmdoorCheckOk
  returns : (processParamTable o b length r).isSome

/-- A function that makes a difference in `g_device` or in the frames sent, for a byte behind the
frame. -/
theorem CarriedOut.differs_of_run {f : Handler} {i : ℕ} {v : UInt8} (h : CarriedOut o b length r)
    (hmem : (b 2, f) ∈ otherFunctions) (hwrite : b 2 ≠ 0xEB) (hi : frameRest o b ≤ i)
    (hne : ∀ before before' ran ran', f.run before (b.shift (paraOff o)) r.toGlobals = some ran →
      f.run before' ((b.shift (paraOff o)).put i v) r.toGlobals = some ran' →
      ran'.2.gDevice = ran.2.gDevice → ran'.2.sent ≠ ran.2.sent) :
  Differs o b length r
  := by
  have hframe := sameFrame_putPara h.head hi v
  have hcmd := hframe.cmd h.head
  have hpurse := hframe.purse h.head fun heq => absurd heq hwrite
  refine ⟨_, hframe, not_sameTraces h.returns ?_⟩
  intro x y hx hy hsame
  rw [process_function h.registered h.valid hmem h.len, Option.map_eq_some_iff] at hx
  rw [process_function h.registered (hframe.valid h.head h.valid) (hcmd ▸ hmem)
    (hpurse.trans h.len), Option.map_eq_some_iff, shift_put] at hy
  obtain ⟨ran, hran, rfl⟩ := hx
  obtain ⟨ran', hran', rfl⟩ := hy
  apply hne _ _ ran ran' hran hran'
  · have hdevice := hsame.gDevice
    rwa [pack, pack, finishOther_reader, finishOther_reader] at hdevice
  · have hsent := hsame.sent
    rwa [pack, pack, finishOther_reader, finishOther_reader] at hsent

/-! ### The functions that leave the frame -/

section

variable {p q : Mem} {g g' : Globals}

/-- What a handler sends after a command. -/
theorem asked_sent {before cmd : UInt8} {fields : List UInt8} {k : UInt8 → M Mem}
    (hknown : cmd ∈ knownCmds) (hframe : frameFields cmd before p g.tmpAntenna = some fields)
    (hfit : fields.length + 5 < bufLen)
    (h : (do let flagReturn ← encodeR2000From before cmd p; k flagReturn : M Mem) g
      = some (q, g')) :
  ∃ flagReturn g₁, encodeR2000From before cmd p g = some (flagReturn, g₁)
    ∧ g₁.sent = g.sent ++ [frameBytes cmd fields] ∧ k flagReturn g₁ = some (q, g')
  := by
  obtain ⟨flagReturn, g₁, hask, hrest⟩ := bind_eq_some h
  exact ⟨flagReturn, g₁, hask, encodeR2000From_frame hknown hframe hfit hask, hrest⟩

/-- `0x0A` sends the number of the antenna that its first parameter names. -/
theorem setAntenna_sent (h : setAntenna p g = some (q, g')) :
  g'.sent = g.sent ++ [frameBytes 0x74 [SR2000TransData.antennaNumber (p 0)]]
  := by
  obtain ⟨_, g₀, hdelay, h⟩ := bind_eq_some h
  obtain ⟨flagReturn, g₁, -, hsent, h⟩ := asked_sent (by decide) rfl
    (by simp) h
  rw [delayMs_sent hdelay] at hsent
  rw [← hsent]
  split at h
  · cases h
    rfl
  · cases h
    rfl

/-- `0xDD` sends the identifier. -/
theorem epc1g2Accessmatch_sent (hid : idBytes p < 248) (h : epc1g2Accessmatch p g = some (q, g')) :
  g'.sent = g.sent ++ [frameBytes 0x85 ([0, p 0 * 2] ++ (p.shift 1).take (idBytes p))]
  := by
  have hfit : ([0, p 0 * 2] ++ (p.shift 1).take (idBytes p)).length + 5 < bufLen := by
    rw [List.length_append, Mem.length_take]
    simp only [List.length_cons, List.length_nil, bufLen]
    omega
  obtain ⟨flagReturn, g₁, -, hsent, h⟩ := asked_sent (by decide) rfl hfit h
  obtain ⟨_, _, hget, h⟩ := bind_eq_some h
  cases hget
  rw [← hsent]
  split at h
  · cases h
    rfl
  · cases h
    rfl

/-- `0xEF` sends a command without parameters and, when that was confirmed, its first three. -/
theorem epc1g2ListTagID_sent (h : epc1g2ListTagID p g = some (q, g')) :
  ∃ sent, g'.sent = g.sent ++ frameBytes 0xC5 [1] :: sent
    ∧ (Confirmed 0xC5 p (tidStart g) → sent = [frameBytes 0xC1 [p 0, p 1, p 2, 0, 0, 0, 0]])
  := by
  obtain ⟨_, _, hstart, h⟩ := bind_eq_some h
  cases hstart
  obtain ⟨flagReturn, g₁, hask, hsent, h⟩ := asked_sent (by decide) rfl (by decide) h
  obtain ⟨_, _, hget, h⟩ := bind_eq_some h
  cases hget
  split at h
  · obtain ⟨_, g₂, hdelay, h⟩ := bind_eq_some h
    obtain ⟨flagReturn', g₃, -, hsent', h⟩ := asked_sent (by decide) rfl
      (by simp) h
    obtain ⟨_, _, hget, h⟩ := bind_eq_some h
    cases hget
    refine ⟨[frameBytes 0xC1 [p 0, p 1, p 2, 0, 0, 0, 0]], ?_, fun _ => rfl⟩
    have hend : g'.sent = g₃.sent := by
      split at h
      · cases h
        rfl
      · cases h
        rfl
    rw [hend, hsent', delayMs_sent hdelay, hsent, List.append_assoc]
    rfl
  · rename_i hrefused
    refine ⟨[], ?_, ?_⟩
    · cases h
      exact hsent
    · rintro ⟨g₂, hask', hpara⟩
      have hsame : (flagReturn, g₁) = (0, g₂) := Option.some.inj (hask.symm.trans hask')
      cases hsame
      exact absurd ⟨rfl, hpara⟩ hrefused

end

/-! ### Requests that are told apart by the state -/

namespace CarriedOut

/-- `0x04` without a power takes what stands behind the frame. -/
theorem differs_power (h : CarriedOut o b length r) (hcmd : b 2 = 0x04)
    (hrest : frameRest o b < 1) :
  Differs o b length r
  := by
  apply h.differs_of_run (f := .setOutputPower) (i := 0)
    (v := if clampPower (b.shift (paraOff o) 0) = 20 then 33 else 20)
  · rw [hcmd]
    decide
  · rw [hcmd]
    decide
  · omega
  · intro before before' ran ran' hran hran' hdevice
    exfalso
    have hpower : ∀ {p : Mem} {ran : Mem × Globals}, setOutputPower p r.toGlobals = some ran →
        ran.2.gDevice.load Offset.outputPower = clampPower (p 0) := by
      intro p ran hran
      have hput : ran.2.gDevice = r.gDevice.put Offset.outputPower (clampPower (p 0)) := by
        obtain ⟨-, -, hsettings⟩ | ⟨-, -, hsettings⟩ := setOutputPower_cases hran
        · exact congrArg Settings.gDevice hsettings
        · exact congrArg Settings.gDevice hsettings
      rw [hput, Block.load_put_eq _ (by decide), Mem.put_same]
    have hload := (hpower hran').symm.trans ((congrArg
      (fun d : SDevice => d.load Offset.outputPower) hdevice).trans (hpower hran))
    rw [Mem.put_same] at hload
    split at hload
    · rename_i htwenty
      rw [htwenty] at hload
      exact absurd hload (by decide)
    · rename_i hother
      exact hother (hload.symm.trans (by decide))

/-- `0x05` with less than six parameters takes what stands behind the frame. -/
theorem differs_frequency (h : CarriedOut o b length r) (hcmd : b 2 = 0x05)
    (hrest : frameRest o b < 6) :
  Differs o b length r
  := by
  generalize hi : frameRest o b = i at hrest
  apply h.differs_of_run (f := .setFrequency) (i := i) (v := b.shift (paraOff o) i + 1)
  · rw [hcmd]
    decide
  · rw [hcmd]
    decide
  · omega
  · intro before before' ran ran' hran hran' hdevice
    exfalso
    have hstored : ∀ {p : Mem} {ran : Mem × Globals}, setFrequency p r.toGlobals = some ran →
        ran.2.gDevice.load (Offset.freqSelect + i) = p i := by
      intro p ran hran
      cases hran
      have hcopy : (r.gDevice.copy Offset.freqSelect p 6).load (Offset.freqSelect + i) = p i := by
        apply Block.load_copy_inside hrest
        simp only [Offset.freqSelect]
        omega
      dsimp only
      split
      · rw [Block.load_put_eq _ (by decide), Block.load_put_eq _ (by decide), Mem.put_of_ne,
          Mem.put_of_ne]
        · exact hcopy
        · simp only [Offset.freqSelect, Offset.frequencyMax, Offset.workpara]
          omega
        · simp only [Offset.freqSelect, Offset.frequencyMin, Offset.workpara]
          omega
      · exact hcopy
    have hload := (hstored hran').symm.trans ((congrArg
      (fun d : SDevice => d.load (Offset.freqSelect + i)) hdevice).trans (hstored hran))
    rw [Mem.put_same] at hload
    exact absurd hload (by simp)

/-- `0x0A` without an antenna takes what stands behind the frame. -/
theorem differs_antenna (h : CarriedOut o b length r) (hcmd : b 2 = 0x0A)
    (hrest : frameRest o b < 1) :
  Differs o b length r
  := by
  apply h.differs_of_run (f := .setAntenna) (i := 0)
    (v := if SR2000TransData.antennaNumber (b.shift (paraOff o) 0) = 0 then 2 else 1)
  · rw [hcmd]
    decide
  · rw [hcmd]
    decide
  · omega
  · intro before before' ran ran' hran hran' _ hsent
    have hsent' := (setAntenna_sent hran').symm.trans (hsent.trans (setAntenna_sent hran))
    have hfields := frameBytes_inj (List.singleton_inj.mp (List.append_cancel_left hsent'))
    rw [Mem.put_same, List.singleton_inj] at hfields
    split at hfields
    · rename_i hzero
      rw [hzero] at hfields
      exact absurd hfields (by decide)
    · rename_i hother
      exact hother (hfields.symm.trans (by decide))

/-- `0xDD` takes the identifier from behind the frame. -/
theorem differs_match (h : CarriedOut o b length r) (hcmd : b 2 = 0xDD)
    (hfits : idBytes (b.shift (paraOff o)) < 248)
    (hrest : frameRest o b < idBytes (b.shift (paraOff o)) + 1) :
  Differs o b length r
  := by
  -- the length of the request leaves the checksum as the first parameter
  have hone : 1 ≤ frameRest o b := by
    have hempty := toNat_emptyLen_succ o
    have hoff := two_lt_paraOff o
    have hlen := tagDataLenPurse_ok_iff.mp h.len 2 (by rw [hcmd]; rfl)
    unfold frameRest
    omega
  generalize hi : frameRest o b = i at hrest hone
  generalize hp : b.shift (paraOff o) = p at hfits hrest
  apply h.differs_of_run (f := .epc1g2Accessmatch) (i := i) (v := p i + 1)
  · rw [hcmd]
    decide
  · rw [hcmd]
    decide
  · omega
  · intro before before' ran ran' hran hran' _ hsent
    rw [hp] at hran hran'
    have hzero : (p.put i (p i + 1)) 0 = p 0 := Mem.put_of_ne (by omega)
    have hid : idBytes (p.put i (p i + 1)) = idBytes p := by
      rw [idBytes, idBytes, hzero]
    have hsent' := (epc1g2Accessmatch_sent (hid ▸ hfits) hran').symm.trans
      (hsent.trans (epc1g2Accessmatch_sent hfits hran))
    have hfields := frameBytes_inj (List.singleton_inj.mp (List.append_cancel_left hsent'))
    rw [hzero, hid] at hfields
    have hbytes := Mem.AgreeBelow.of_take_eq (List.append_cancel_left hfields) (i - 1) (by omega)
    have hplace : 1 + (i - 1) = i := by omega
    rw [Mem.shift_apply, Mem.shift_apply, hplace, Mem.put_same] at hbytes
    exact absurd hbytes (by simp)

/-- `0xEF` with less than three parameters takes what stands behind the frame. -/
theorem differs_readTID (h : CarriedOut o b length r) (hcmd : b 2 = 0xEF)
    (hconfirmed : Confirmed 0xC5 (b.shift (paraOff o)) (tidStart r.toGlobals))
    (hrest : frameRest o b < 3) :
  Differs o b length r
  := by
  generalize hi : frameRest o b = i at hrest
  generalize hp : b.shift (paraOff o) = p at hconfirmed
  apply h.differs_of_run (f := .epc1g2ListTagID) (i := i) (v := p i + 1)
  · rw [hcmd]
    decide
  · rw [hcmd]
    decide
  · omega
  · intro before before' ran ran' hran hran' _ hsent
    rw [hp] at hran hran'
    obtain ⟨sent, hsent₀, hlast⟩ := epc1g2ListTagID_sent hran
    obtain ⟨sent', hsent₁, hlast'⟩ := epc1g2ListTagID_sent hran'
    have hconfirmed' : Confirmed 0xC5 (p.put i (p i + 1)) (tidStart r.toGlobals) := by
      unfold Confirmed
      rwa [encodeR2000_bare (by decide) (p.put i (p i + 1)) p]
    have hsame : sent' = sent :=
      (List.cons.inj (List.append_cancel_left (hsent₁.symm.trans (hsent.trans hsent₀)))).2
    rw [hlast hconfirmed, hlast' hconfirmed', List.singleton_inj] at hsame
    have hfields := frameBytes_inj hsame
    simp only [List.cons.injEq, and_true] at hfields
    obtain ⟨hzero, hone, htwo⟩ := hfields
    have hput : (p.put i (p i + 1)) i ≠ p i := by
      rw [Mem.put_same]
      simp
    obtain rfl | rfl | rfl : i = 0 ∨ i = 1 ∨ i = 2 := by omega
    · exact hput hzero
    · exact hput hone
    · exact hput htwo

end CarriedOut

/-! ### Requests that are told apart by their replies -/

/-- A byte of a reply that is sent is the same. -/
theorem SameResult.byte {x y : UInt8 × Mem × Reader} (h : SameResult x y)
    (hsent : x.1 ≠ errorNoReturn) {i : ℕ} (hi : i < (x.2.1 1).toNat + 2) :
  y.2.1 i = x.2.1 i
  := by
  have hframe := h.frame hsent
  unfold replyFrame at hframe
  have hlen := congrArg List.length hframe
  rw [Mem.length_take, Mem.length_take] at hlen
  rw [hlen] at hframe
  exact Mem.AgreeBelow.of_take_eq hframe i hi

/-- A reply of `n` parameters that is short enough is sent with these parameters. -/
theorem pack_finishOther_para {q : Mem} {g : Globals}
    (hshort : g.cmdTmpLen.toNat + (emptyLen o).toNat + 2 < bufLen) (b : Mem) :
  let y := pack o (finishOther o (b.graft (paraOff o) q, { toGlobals := g, tagDataOrigin := o }))
  y.1 = cmdoorCheckOk ∧ (y.2.1 1).toNat = g.cmdTmpLen.toNat + (emptyLen o).toNat
    ∧ ∀ i < g.cmdTmpLen.toNat, y.2.1 (paraOff o + i) = q i
  := by
  obtain ⟨hflag, hlen, hpara⟩ := pack_finishOther_ok (o := o)
    (b.graft (paraOff o) q, { toGlobals := g, tagDataOrigin := o }) hshort
  refine ⟨hflag, hlen, fun i hi => ?_⟩
  exact (hpara i hi).trans (Mem.graft_above _ _ _ _)

/-- The reply to a function that leaves `n` bytes has these bytes for its parameters. -/
theorem replyPara_function {q : Mem} {g : Globals} {n : ℕ} (hn : g.cmdTmpLen.toNat = n)
    (hshort : n + (emptyLen o).toNat + 2 < bufLen) (b : Mem) :
  let reply := pack o (finishOther o (b.graft (paraOff o) q, { toGlobals := g, tagDataOrigin := o }))
  reply.1 = cmdoorCheckOk ∧ replyPara o reply.2.1 = q.take n
  := by
  intro reply
  obtain ⟨hok, hlen, hpara⟩ := pack_finishOther_para (o := o) (q := q) (g := g)
    (by rwa [hn]) b
  refine ⟨hok, ?_⟩
  rw [hn] at hlen hpara
  rw [replyPara, hlen, Nat.add_sub_cancel]
  exact Mem.AgreeBelow.take_eq hpara

/-- An inventory that is cut off replies with what stands behind the frame. -/
theorem CarriedOut.differs_cutOff {f : Handler} (h : CarriedOut o b length r)
    (hmem : (b 2, f) ∈ otherFunctions) (hf : f ∈ inventories)
    (hcut : CutOff (b.shift (paraOff o)) r.toGlobals)
    (hshort : r.cmdTmpLen.toNat < 253 - (emptyLen o).toNat)
    (hrest : frameRest o b < r.cmdTmpLen.toNat) :
  Differs o b length r
  := by
  have hcmd : b 2 = 0xEE ∨ b 2 = 0xDF := by
    have hall : ∀ x ∈ otherFunctions, x.2 ∈ inventories → x.1 = 0xEE ∨ x.1 = 0xDF := by decide
    exact hall _ hmem hf
  have hwrite : b 2 ≠ 0xEB := by
    obtain hcmd | hcmd := hcmd
    · rw [hcmd]
      decide
    · rw [hcmd]
      decide
  have hthree : 3 ≤ frameRest o b := by
    have hempty := toNat_emptyLen_succ o
    have hoff := two_lt_paraOff o
    have hlen := tagDataLenPurse_ok_iff.mp h.len
      (6 + ((b.shift (paraOff o) 3).toNat + 7) / 8) (by
        obtain hcmd | hcmd := hcmd
        · rw [hcmd]
          rfl
        · rw [hcmd]
          rfl)
    unfold frameRest
    omega
  obtain ⟨row, -, hrun⟩ := run_inventory hf
  generalize hi : frameRest o b = i at hrest hthree
  have hframe := sameFrame_putPara h.head (Nat.le_of_eq hi) (b.shift (paraOff o) i + 1)
  have hpurse := hframe.purse h.head fun heq => absurd heq hwrite
  have hcmd' := hframe.cmd h.head
  refine ⟨_, hframe, not_sameTraces h.returns ?_⟩
  intro x y hx hy hsame
  rw [process_function h.registered h.valid hmem h.len, hrun] at hx
  rw [process_function h.registered (hframe.valid h.head h.valid) (hcmd' ▸ hmem)
    (hpurse.trans h.len), hrun, shift_put] at hy
  generalize hp : b.shift (paraOff o) = p at hcut hx hy
  have hcut' : CutOff (p.put i (p i + 1)) r.toGlobals := by
    unfold CutOff
    rwa [← inventoryCut_congr (p := p)]
    intro j hj
    rw [Mem.put_of_ne (by omega)]
  obtain ⟨n, g, hran, hlen⟩ := inventory6C_cutOff hcut row
  obtain ⟨n', g', hran', hlen'⟩ := inventory6C_cutOff hcut' row
  rw [hran, Option.map_some, Option.some.injEq] at hx
  rw [hran', Option.map_some, Option.some.injEq] at hy
  have hfits : r.cmdTmpLen.toNat + (emptyLen o).toNat + 2 < bufLen := by
    simp only [bufLen]
    omega
  obtain ⟨hflag, hcount, hpara⟩ := pack_finishOther_para (q := p.put 0 n) (hlen ▸ hfits) b
  obtain ⟨-, -, hpara'⟩ := pack_finishOther_para (q := (p.put i (p i + 1)).put 0 n') (hlen' ▸ hfits)
    (b.put (paraOff o + i) (p i + 1))
  rw [hx] at hflag
  rw [hx, hlen] at hcount hpara
  rw [hy, hlen'] at hpara'
  have hsent : x.1 ≠ errorNoReturn := by
    rw [hflag]
    decide
  have hempty := toNat_emptyLen_succ o
  -- the byte behind the frame is in both replies
  have hbyte := hsame.toSameResult.byte hsent (show paraOff o + i < (x.2.1 1).toNat + 2 by omega)
  rw [hpara i hrest, hpara' i hrest, Mem.put_of_ne (by omega), Mem.put_same,
    Mem.put_of_ne (by omega)] at hbyte
  exact absurd hbyte (by simp)

/-- A request of the third kind is answered with `ORTHERWRONG` if and only if its length is not
right. -/
theorem process_purse_iff {f : Handler} (hreg : Registered r.gParamTable)
    (hvalid : Valid o b length r.toGlobals) (hmem : (b 2, f) ∈ otherFunctions)
    {x : UInt8 × Mem × Reader} (hx : processParamTable o b length r = some x) :
  x.1 = ortherWrong ↔ tagDataLenPurse o b ≠ cmdoorCheckOk
  := by
  by_cases hok : tagDataLenPurse o b = cmdoorCheckOk
  · rw [process_function hreg hvalid hmem hok, Option.map_eq_some_iff] at hx
    obtain ⟨ran, -, rfl⟩ := hx
    refine iff_of_false ?_ (not_not.mpr hok)
    obtain ⟨-, hflag⟩ | ⟨-, hflag⟩ | ⟨-, hflag⟩ := pack_finishOther (o := o)
      (b.graft (paraOff o) ran.1, { toGlobals := ran.2, tagDataOrigin := o })
    · rw [hflag]
      decide
    · rw [hflag]
      decide
    · rw [hflag]
      decide
  · have hall : ∀ x ∈ otherFunctions, ∃ e ∈ registeredItems, e.1 = x.1 ∧ e.2.flag = flagOTHR := by
      decide
    obtain ⟨⟨c, item⟩, hitem, rfl, hothr⟩ := hall _ hmem
    have hmatch := hreg.entry hitem rfl
    rw [processParamTable, processWith_of_valid runHandler hvalid,
      dispatch_other runHandler hvalid (hmatch.flag.trans hothr)] at hx
    unfold otherRequest at hx
    dsimp only at hx
    rw [if_pos hok, Option.map_some, Option.some.injEq] at hx
    refine iff_of_true ?_ hok
    rw [← hx, pack_error hok]
    exact (tagDataLenPurse_cases o b).resolve_left hok

/-- The length of `0xEB` is judged by a count that stands behind the frame. -/
theorem differs_count (hreg : Registered r.gParamTable) (hvalid : Valid o b length r.toGlobals)
    (hhead : HeadInside o b) (hreturn : (processParamTable o b length r).isSome)
    (hcmd : b 2 = 0xEB) (hcount : ¬ CountInside o b) :
  Differs o b length r
  := by
  unfold CountInside at hcount
  push Not at hcount
  obtain ⟨⟨count, hfits⟩, hplace⟩ := hcount
  generalize hp : b.shift (paraOff o) = p at hplace
  have hjudge : ∀ v : UInt8,
      tagDataLenPurse o (b.put (paraOff o + (idBytes p + 3)) v) = cmdoorCheckOk
        ↔ (b 1).toNat = 10 + (p 0 * 2 + v * 2).toNat + ((emptyLen o).toNat - 2) := by
    intro v
    have hframe := sameFrame_putPara hhead hplace v
    have hfirst : (p.put (idBytes p + 3) v) 0 = p 0 := Mem.put_of_ne (by omega)
    have hid : idBytes (p.put (idBytes p + 3) v) = idBytes p :=
      congrArg (fun first : UInt8 => (first * 2).toNat) hfirst
    rw [tagDataLenPurse_ok_iff, hframe.cmd hhead, hcmd, hframe.len, shift_put, hp,
      tagDataLen_count, hid, hfirst, Mem.put_same]
    constructor
    · intro hlen
      exact hlen _ rfl
    · intro hlen n hn
      rw [← Option.some.inj hn, hlen]
  have hself : b.put (paraOff o + (idBytes p + 3)) (p (idBytes p + 3)) = b := by
    rw [← hp]
    exact Mem.put_self b _
  -- one count is right, and the next one is not
  have hother : ∃ v, ¬ (tagDataLenPurse o (b.put (paraOff o + (idBytes p + 3)) v) = cmdoorCheckOk
      ↔ tagDataLenPurse o b = cmdoorCheckOk) := by
    by_cases hok : tagDataLenPurse o b = cmdoorCheckOk
    · refine ⟨p (idBytes p + 3) + 1, fun hiff => ?_⟩
      have hnext := (hjudge _).mp (hiff.mpr hok)
      rw [← hself, hjudge] at hok
      have heq : p 0 * 2 + (p (idBytes p + 3) + 1) * 2 = p 0 * 2 + p (idBytes p + 3) * 2 := by
        apply UInt8.toNat_inj.mp
        omega
      rw [add_right_inj, add_mul] at heq
      exact absurd heq (by simp)
    · refine ⟨count, fun hiff => hok (hiff.mp ((hjudge count).mpr ?_))⟩
      rw [← hp]
      exact hfits
  obtain ⟨v, hv⟩ := hother
  have hframe := sameFrame_putPara hhead hplace v
  have hcmd' := hframe.cmd hhead
  have hmem : (b 2, Handler.epc1g2WriteWordBlock) ∈ otherFunctions := by
    rw [hcmd]
    decide
  refine ⟨_, hframe, not_sameTraces hreturn ?_⟩
  intro x y hx hy hsame
  apply hv
  have hiff := process_purse_iff hreg hvalid hmem hx
  have hiff' := process_purse_iff hreg (hframe.valid hhead hvalid) (hcmd' ▸ hmem) hy
  rw [hsame.flag, hiff] at hiff'
  exact (not_iff_not.mp hiff').symm

/-- The buffer for the R2000 may be overrun: by an identifier that does not fit into a frame, or
by more data than the length of the request tells. -/
def Overruns (o : CmdOrigin) (b : Mem) : Prop :=
  (b 2 = 0xDD ∧ 248 ≤ idBytes (b.shift (paraOff o)))
    ∨ (b 2 = 0xEB ∧ 256 ≤ idBytes (b.shift (paraOff o)) + dataBytes (b.shift (paraOff o)))

/-- What a function reads behind the frame makes a difference. -/
theorem CarriedOut.differs (h : CarriedOut o b length r) (hno : ¬ Overruns o b)
    (hreads : ¬ ReadsBelow (b 2) (253 - (emptyLen o).toNat) (frameRest o b) (b.shift (paraOff o))
      r.toGlobals) :
  Differs o b length r
  := by
  unfold Overruns at hno
  push Not at hno
  unfold ReadsBelow at hreads
  split at hreads
  · rename_i hcmd
    exact h.differs_power hcmd (Nat.not_le.mp hreads)
  · rename_i hcmd
    exact h.differs_antenna hcmd (Nat.not_le.mp hreads)
  · rename_i hcmd
    exact h.differs_frequency hcmd (Nat.not_le.mp hreads)
  · rename_i hcmd
    push Not at hreads
    exact h.differs_readTID hcmd hreads.1 hreads.2
  · rename_i hcmd
    exact h.differs_match hcmd (hno.1 hcmd) (Nat.not_le.mp hreads)
  · rename_i hcmd
    apply differs_count h.registered h.valid h.head h.returns hcmd
    intro hinside
    have hlen := tagDataLenPurse_ok_iff.mp h.len
    rw [hcmd, tagDataLen_count] at hlen
    exact hreads ⟨hinside ⟨_, hlen _ rfl⟩, fun _ => hno.2 hcmd⟩
  · rename_i hcmd
    push Not at hreads
    apply h.differs_cutOff (f := .epc1g2ListMaskTagID) _ (by decide) hreads.1 hreads.2.1 hreads.2.2
    rw [hcmd]
    decide
  · rename_i hcmd
    push Not at hreads
    apply h.differs_cutOff (f := .epc1g2ListRSSIMaskTag) _ (by decide) hreads.1 hreads.2.1
      hreads.2.2
    rw [hcmd]
    decide
  · exact absurd trivial hreads

/-! ### Frames without a command or an address -/

theorem SameTraces.of_some {a a' : Option (UInt8 × Mem × Reader)} {x : UInt8 × Mem × Reader}
    (h : SameTraces a a') (hx : a = some x) :
  ∃ y, a' = some y ∧ SameTrace x y
  := by
  obtain ⟨hnone, -⟩ | ⟨x', y, hx', hy, hsame⟩ := h
  · rw [hnone] at hx
    cases hx
  · rw [hx', Option.some.injEq] at hx
    subst hx
    exact ⟨y, hy, hsame⟩

/-- When nothing makes a difference, buffers with the same frame lead to the same. -/
theorem same_of_not_differs (hnot : ¬ Differs o b length r) {x : UInt8 × Mem × Reader}
    (hx : processParamTable o b length r = some x) (hframe : SameFrame b b') :
  ∃ y, processParamTable o b' length r = some y ∧ SameTrace x y
  := by
  apply SameTraces.of_some _ hx
  by_contra hdiffer
  exact hnot ⟨b', hframe, hdiffer⟩

/-- No request has the command 0. -/
theorem process_zero (hzero : b 2 = 0) :
  processParamTable o b length r = some (pack o (invalidInstruction, b, r))
  := by
  have hcheck : checkRequest o b length r.toGlobals = invalidInstruction := by
    unfold checkRequest
    dsimp only
    rw [if_pos hzero]
    split
    · rfl
    · rfl
  have hvalid : ¬ Valid o b length r.toGlobals := fun hvalid => hvalid.nonzero hzero
  rw [processParamTable, processWith_refused runHandler hvalid, refusal, hcheck, if_neg (by decide)]

/-- A command behind the frame makes a difference: it is in the reply. -/
theorem command_inside (hreturn : (processParamTable o b length r).isSome)
    (hnot : ¬ Differs o b length r) :
  0 < (b 1).toNat
  := by
  by_contra hlen
  obtain ⟨x, hx⟩ := Option.isSome_iff_exists.mp hreturn
  have hframe : SameFrame b (b.put 2 (if b 2 = 0 then 1 else 0)) := sameFrame_put (by omega) _
  obtain ⟨y, hy, hsame⟩ := same_of_not_differs hnot hx hframe
  have hinvalid : invalidInstruction ≠ cmdoorCheckOk := by decide
  -- one of the two requests has the command 0
  have hflag : x.1 = invalidInstruction := by
    by_cases hzero : b 2 = 0
    · rw [process_zero hzero, Option.some.injEq] at hx
      rw [← hx]
      exact pack_error hinvalid
    · rw [if_neg hzero, process_zero (Mem.put_same _ _ _), Option.some.injEq] at hy
      rw [← hsame.flag, ← hy]
      exact pack_error hinvalid
  have hsent : x.1 ≠ errorNoReturn := by
    rw [hflag]
    decide
  have hreply := processWith_frame hx hsent
  have hreply' := processWith_frame hy (hsame.flag ▸ hsent)
  have hlong : 2 ≤ (x.2.1 1).toNat := by
    have hle := UInt8.le_iff_toNat_le.mp hreply.long
    have hempty : 2 ≤ (emptyLen o).toNat := by cases o <;> decide
    omega
  have hbyte := hsame.toSameResult.byte hsent (show 2 < (x.2.1 1).toNat + 2 by omega)
  rw [hreply.cmd, hreply'.cmd, Mem.put_same] at hbyte
  split at hbyte
  · rename_i hzero
    rw [hzero] at hbyte
    exact absurd hbyte (by decide)
  · rename_i hzero
    exact hzero hbyte.symm

/-- A write request that is refused is answered. -/
theorem storeRequest_answered (o : CmdOrigin) (idindex : ℕ) (b : Mem) (r : Reader) :
  (storeRequest o idindex b r).1 ≠ errorNoReturn
  := by
  have hrange : ∀ cmd value, rangeControl cmd value ≠ errorNoReturn := by
    intro cmd value
    unfold rangeControl
    repeat' split
    all_goals decide
  have hvalue : (storeValue o idindex b r.toGlobals).1 ≠ errorNoReturn := by
    unfold storeValue
    dsimp only
    repeat' split
    all_goals first
      | exact hrange _ _
      | exact show ortherWrong ≠ errorNoReturn by decide
      | exact show cmdoorCheckOk ≠ errorNoReturn by decide
  have hfilter : (storeTagFilter o idindex b r.toGlobals).1 ≠ errorNoReturn := by
    unfold storeTagFilter
    dsimp only
    repeat' split
    all_goals first
      | exact show paraWrong ≠ errorNoReturn by decide
      | exact show cmdoorCheckOk ≠ errorNoReturn by decide
  unfold storeRequest
  dsimp only
  split
  · dsimp only
    split
    · decide
    · decide
  · dsimp only
    split
    · exact hfilter
    · exact hvalue

/-- The commands whose length is not judged. -/
theorem tagDataLen_eq_none {cmd : UInt8} {p : Mem} (h : tagDataLen cmd p = none) :
  cmd ∈ [(0xEF : UInt8), 0x0A, 0x04, 0x05]
  := by
  unfold tagDataLen at h
  dsimp only at h
  split at h
  all_goals first
    | decide
    | cases h

/-- A valid request without its address is answered, or has sent a frame to the R2000. -/
theorem short_request (hreg : Registered r.gParamTable)
    (hvalid : Valid .sourceFrom485 b length r.toGlobals) (hlen : (b 1).toNat = 1)
    {x : UInt8 × Mem × Reader} (hx : processParamTable .sourceFrom485 b length r = some x)
    (hnone : x.1 = errorNoReturn) :
  x.2.2.sent ≠ r.sent
  := by
  obtain ⟨item, hmem, hmatch⟩ := hreg.lookup hvalid.nonzero hvalid.registered
  obtain hwr | hrd | hothr := registeredItems_flag hmem
  · exfalso
    rw [processParamTable, processWith_of_valid runHandler hvalid,
      dispatch_write runHandler hvalid (hmatch.flag.trans hwr), Option.map_eq_some_iff] at hx
    obtain ⟨outcome, hout, rfl⟩ := hx
    obtain ⟨herror, rfl⟩ | ⟨called, hok, hcall, rfl⟩ := writeRequest_cases hout
    · rw [pack_error herror] at hnone
      exact storeRequest_answered _ _ _ _ hnone
    · rw [writeRequest_acknowledged hok hcall] at hnone
      exact absurd hnone (by decide)
  · exfalso
    have hread : readLen b ≠ emptyLen .sourceFrom485 := by
      have hone : b 1 = 1 := UInt8.toNat_inj.mp hlen
      unfold readLen
      rw [hone]
      split
      · decide
      · decide
    rw [processParamTable, processWith_of_valid runHandler hvalid,
      dispatch_read runHandler hvalid (hmatch.flag.trans hrd), readRequest, if_pos hread,
      Option.map_some, Option.some.injEq] at hx
    rw [← hx, pack_error (show ortherWrong ≠ cmdoorCheckOk by decide)] at hnone
    exact absurd (show ortherWrong = errorNoReturn from hnone) (by decide)
  · obtain ⟨f, hf⟩ := function_of_other hmem hothr
    have hmemf := mem_otherFunctions hmem hothr hf
    have hok : tagDataLenPurse .sourceFrom485 b = cmdoorCheckOk := by
      by_contra hwrong
      rw [(process_purse_iff hreg hvalid hmemf hx).mpr hwrong] at hnone
      exact absurd hnone (by decide)
    have hopen : b 2 ∈ [(0xEF : UInt8), 0x0A, 0x04, 0x05] := by
      apply tagDataLen_eq_none (p := b.shift (paraOff .sourceFrom485))
      rw [Option.eq_none_iff_forall_ne_some]
      intro n hn
      have htwo := two_le_tagDataLen hn
      have hthree := tagDataLenPurse_ok_iff.mp hok n hn
      simp only [emptyLen, UInt8.reduceToNat] at hthree
      omega
    rw [process_function hreg hvalid hmemf hok, Option.map_eq_some_iff] at hx
    obtain ⟨⟨q, g⟩, hran, rfl⟩ := hx
    have hkept : (pack .sourceFrom485 (finishOther .sourceFrom485
        (b.graft (paraOff .sourceFrom485) q,
          { toGlobals := g, tagDataOrigin := .sourceFrom485 }))).2.2.sent = g.sent := by
      rw [pack, finishOther_reader]
    -- a reply without parameters, and a failure, are answered
    have hlong : TooLong .sourceFrom485 g.cmdTmpLen :=
      (pack_finishOther_silent_iff (b.graft (paraOff .sourceFrom485) q,
        { toGlobals := g, tagDataOrigin := .sourceFrom485 })).mp hnone
    have hfits : ∀ n : UInt8, n = 0 ∨ n = 0xFF → ¬ TooLong .sourceFrom485 n := by
      rintro n (rfl | rfl) ⟨hlow, hhigh⟩
      · exact absurd hhigh (by decide)
      · exact absurd hlow (by decide)
    simp only [List.mem_cons, List.not_mem_nil, or_false] at hopen
    rw [hkept]
    obtain hcmd | hcmd | hcmd | hcmd := hopen
    · have hfun : f = .epc1g2ListTagID := by
        have hall : ∀ x ∈ otherFunctions, x.1 = 0xEF → x.2 = .epc1g2ListTagID := by decide
        exact hall _ hmemf hcmd
      subst hfun
      obtain ⟨sent, hsent, -⟩ := epc1g2ListTagID_sent hran
      rw [hsent]
      simp
    · have hfun : f = .setAntenna := by
        have hall : ∀ x ∈ otherFunctions, x.1 = 0x0A → x.2 = .setAntenna := by decide
        exact hall _ hmemf hcmd
      subst hfun
      rw [setAntenna_sent hran]
      simp
    · exfalso
      have hfun : f = .setOutputPower := by
        have hall : ∀ x ∈ otherFunctions, x.1 = 0x04 → x.2 = .setOutputPower := by decide
        exact hall _ hmemf hcmd
      subst hfun
      obtain ⟨-, hzero, -⟩ | ⟨-, hfail, -⟩ := setOutputPower_cases hran
      · exact hfits _ (.inl hzero) hlong
      · exact hfits _ (.inr hfail) hlong
    · exfalso
      have hfun : f = .setFrequency := by
        have hall : ∀ x ∈ otherFunctions, x.1 = 0x05 → x.2 = .setFrequency := by decide
        exact hall _ hmemf hcmd
      subst hfun
      cases hran
      exact hfits 0 (.inl rfl) hlong

/-- The reply to a request from RS485 that is refused has the address byte of the request. -/
theorem refused_address {flag : UInt8} (hflag : flag ≠ cmdoorCheckOk) (b : Mem) (r : Reader) :
  (pack .sourceFrom485 (flag, b, r)).2.1 3 = b 3
  := by
  unfold pack packet
  rw [if_pos hflag]
  dsimp only
  rw [Mem.put_of_ne (by decide), Mem.put_of_ne (by decide), Mem.put_of_ne (by decide),
    Mem.put_of_ne (by decide)]

/-- The address behind the frame makes a difference: the request is for the reader or not. -/
theorem address_inside (hreg : Registered r.gParamTable)
    (hreturn : (processParamTable .sourceFrom485 b length r).isSome)
    (hnot : ¬ Differs .sourceFrom485 b length r) :
  1 < (b 1).toNat
  := by
  by_contra hshort
  have hlen : (b 1).toNat = 1 := by
    have := command_inside hreturn hnot
    omega
  obtain ⟨x, hx⟩ := Option.isSome_iff_exists.mp hreturn
  generalize haddress : r.gDevice.load Offset.address = address
  have hframe : ∀ a : UInt8, SameFrame b (b.put 3 a) := fun a => sameFrame_put (by omega) a
  have hcmd : ∀ a : UInt8, (b.put 3 a) 2 = b 2 := fun a => Mem.put_of_ne (by decide)
  -- the reader is meant, and another one
  obtain ⟨y, hy, hsame⟩ := same_of_not_differs hnot hx (hframe address)
  obtain ⟨z, hz, hsame'⟩ := same_of_not_differs hnot hx (hframe (address + 1))
  have hforeign : ¬ Addressed .sourceFrom485 (b.put 3 (address + 1)) r.toGlobals := by
    intro haddr
    have hthree := haddr rfl
    rw [Mem.put_same, haddress] at hthree
    exact absurd hthree (by simp)
  have hrefused : ¬ Valid .sourceFrom485 (b.put 3 (address + 1)) length r.toGlobals :=
    fun hvalid => hforeign hvalid.addressed
  rw [processParamTable, processWith_refused runHandler hrefused, Option.some.injEq] at hz
  have hzflag : (pack .sourceFrom485 (refusal .sourceFrom485 (b.put 3 (address + 1)) length
      r.toGlobals, b.put 3 (address + 1), r)).1 = _ := pack_error (refusal_error _ _ _ _)
  rw [hz] at hzflag
  dsimp only at hzflag
  by_cases hwf : WellFormed b length r.toGlobals
  · have hwf' := (hframe (address + 1)).wellFormed (hcmd _) hwf
    have hcheck := (checkRequest_of_wellFormed hwf').2 hforeign
    have hnone : z.1 = errorNoReturn := by
      rw [hzflag, refusal, hcheck, if_neg (by decide)]
    have hynone : y.1 = errorNoReturn := hsame.flag.trans (hsame'.flag.symm.trans hnone)
    have hysent : y.2.2.sent = r.sent := by
      rw [hsame.sent, ← hsame'.sent, ← hz]
      rfl
    have hwf₀ := (hframe address).wellFormed (hcmd _) hwf
    have haddressed : Addressed .sourceFrom485 (b.put 3 address) r.toGlobals := by
      intro _
      rw [Mem.put_same, haddress]
    by_cases hmode : ModeAllowed (b.put 3 address) r.toGlobals
    · have hone : ((b.put 3 address) 1).toNat = 1 := by
        rw [(hframe address).len]
        exact hlen
      exact short_request hreg ⟨hwf₀, haddressed, hmode⟩ hone hy hynone hysent
    · have hvalid : ¬ Valid .sourceFrom485 (b.put 3 address) length r.toGlobals :=
        fun hvalid => hmode hvalid.mode
      rw [processParamTable, processWith_refused runHandler hvalid, refusal,
        (checkRequest_of_wellFormed hwf₀).1 haddressed, if_pos rfl, Option.some.injEq] at hy
      rw [← hy, pack_error (show invalidMasterCmd ≠ cmdoorCheckOk by decide)] at hynone
      exact absurd (show invalidMasterCmd = errorNoReturn from hynone) (by decide)
  · -- both are refused, with their address bytes
    have hnotwf : ∀ a : UInt8, ¬ WellFormed (b.put 3 a) length r.toGlobals := by
      intro a hwf'
      exact hwf ((hframe a).symm.wellFormed (hcmd a).symm hwf')
    have hvalid : ¬ Valid .sourceFrom485 (b.put 3 address) length r.toGlobals :=
      fun hvalid => hnotwf _ hvalid.toWellFormed
    have hsent : x.1 ≠ errorNoReturn := by
      have hcheck := checkRequest_of_not_wellFormed (o := .sourceFrom485) (hnotwf (address + 1))
      have hne : checkRequest .sourceFrom485 (b.put 3 (address + 1)) length r.toGlobals
          ≠ cmdoorCheckOk := by
        intro heq
        rw [heq] at hcheck
        exact absurd hcheck (by decide)
      rw [← hsame'.flag, hzflag, refusal, if_neg hne]
      intro heq
      rw [heq] at hcheck
      exact absurd hcheck (by decide)
    have hlong := UInt8.le_iff_toNat_le.mp (processWith_frame hx hsent).long
    have hthree : 3 ≤ (x.2.1 1).toNat := hlong
    have hbyte := hsame.toSameResult.byte hsent (show 3 < (x.2.1 1).toNat + 2 by omega)
    have hbyte' := hsame'.toSameResult.byte hsent (show 3 < (x.2.1 1).toNat + 2 by omega)
    rw [processParamTable, processWith_refused runHandler hvalid, Option.some.injEq] at hy
    rw [← hy, refused_address (refusal_error _ _ _ _), Mem.put_same] at hbyte
    rw [← hz, refused_address (refusal_error _ _ _ _), Mem.put_same, ← hbyte] at hbyte'
    exact absurd hbyte' (by simp)

/-- A request that nothing behind it makes a difference to has its head in the frame. -/
theorem head_inside (hreg : Registered r.gParamTable)
    (hreturn : (processParamTable o b length r).isSome) (hnot : ¬ Differs o b length r) :
  HeadInside o b
  := by
  have hcmd := command_inside hreturn hnot
  cases o with
  | sourceFrom485 =>
    have haddr := address_inside hreg hreturn hnot
    show 4 ≤ (b 1).toNat + 2
    omega
  | sourceFrom232 =>
    show 3 ≤ (b 1).toNat + 2
    omega
  | sourceFromUDP =>
    show 3 ≤ (b 1).toNat + 2
    omega

/-! ### Only the frame counts -/

/-- A request that keeps to its frame leads to the same settings, the same frames to the R2000 and
the same reply whatever stands behind it.  Conversely, a request that returns and does not overrun
the buffer for the R2000 keeps to its frame if it leads to the same whatever stands behind it. -/
theorem only_frame_counts_iff (r : Reader) (hreg : Registered r.gParamTable) (o : CmdOrigin)
    (b : Mem) (length : ℕ) :
  (KeepsToFrame o b length r → ∀ b', SameFrame b b' →
      SameTraces (processParamTable o b length r) (processParamTable o b' length r))
    ∧ ((processParamTable o b length r).isSome → ¬ Overruns o b →
      (∀ b', SameFrame b b' →
        SameTraces (processParamTable o b length r) (processParamTable o b' length r)) →
      KeepsToFrame o b length r)
  := by
  constructor
  · intro hkeeps b' hframe
    exact hkeeps.same hreg hframe
  · intro hreturn hno hall
    have hnot : ¬ Differs o b length r := by
      rintro ⟨b', hframe, hdiffer⟩
      exact hdiffer (hall b' hframe)
    have hhead := head_inside hreg hreturn hnot
    refine ⟨hhead, ?_, ?_⟩
    · intro hvalid hcmd
      by_contra hcount
      exact hnot (differs_count hreg hvalid hhead hreturn hcmd hcount)
    · intro hvalid hok
      by_contra hreads
      exact hnot (CarriedOut.differs ⟨hreg, hvalid, hhead, hok, hreturn⟩ hno hreads)

/-- A new reader answers the request for its version alike over a buffer of zeros and over one that
is full of other bytes. -/
theorem only_frame_counts_version :
  SameTraces
    (processParamTable .sourceFrom232 (Mem.ofList [0x40, 0x02, 0x02, 0xBC] fun _ => 0) 4
      (powerOn .blank))
    (processParamTable .sourceFrom232 (Mem.ofList [0x40, 0x02, 0x02, 0xBC] fun _ => 0xA5) 4
      (powerOn .blank))
  := by
  have hreg : Registered (powerOn .blank).gParamTable := registered_powerOn .blank
  apply (only_frame_counts_iff (powerOn .blank) hreg .sourceFrom232 _ 4).1
  · refine ⟨by decide, fun _ hcmd => ?_, fun _ _ => ?_⟩
    · exact absurd hcmd (by decide)
    · exact trivial
  · show ∀ i < 4, _
    decide

/-- A new reader is set to command mode and gets the request `0x05` without a frequency, over a
buffer of zeros and over one of sevens: what stands behind the request becomes the frequency. -/
theorem frequency_behind_frame :
  let b := Mem.ofList [0x40, 0x02, 0x05, 0xB9] fun _ => 0
  let b' := Mem.ofList [0x40, 0x02, 0x05, 0xB9] fun _ => 7
  SameFrame b b'
    ∧ ∃ buffer₀ r, processParamTable .sourceFrom232 commandModeRequest 5 (powerOn .blank)
        = some (cmdoorCheckOk, buffer₀, r)
      ∧ ∃ x y, processParamTable .sourceFrom232 b 4 r = some x
        ∧ processParamTable .sourceFrom232 b' 4 r = some y
        ∧ x.1 = cmdoorCheckOk ∧ y.1 = cmdoorCheckOk
        ∧ x.2.2.gDevice.load (Offset.freqSelect + 1) = 0
        ∧ y.2.2.gDevice.load (Offset.freqSelect + 1) = 7
        ∧ ¬ SameTraces (processParamTable .sourceFrom232 b 4 r)
          (processParamTable .sourceFrom232 b' 4 r)
  := by
  intro b b'
  have hframe : SameFrame b b' := by
    show ∀ i < 4, _
    decide
  have heval : ((processParamTable .sourceFrom232 commandModeRequest 5 (powerOn .blank)).bind
      fun mode => (processParamTable .sourceFrom232 b 4 mode.2.2).bind
        fun x => (processParamTable .sourceFrom232 b' 4 mode.2.2).map
        fun y => (mode.1, x.1, y.1, x.2.2.gDevice.load (Offset.freqSelect + 1),
          y.2.2.gDevice.load (Offset.freqSelect + 1)))
      = some (cmdoorCheckOk, cmdoorCheckOk, cmdoorCheckOk, 0, 7) := by
    rw [powerOn_eq]
    decide +kernel
  obtain ⟨⟨flag₀, buffer₀, r⟩, hmode, hreplies⟩ := Option.bind_eq_some_iff.mp heval
  obtain ⟨x, hx, hreplies⟩ := Option.bind_eq_some_iff.mp hreplies
  obtain ⟨y, hy, heq⟩ := Option.map_eq_some_iff.mp hreplies
  simp only [Prod.mk.injEq] at heq
  obtain ⟨rfl, hflag, hflag', hzero, hseven⟩ := heq
  refine ⟨hframe, buffer₀, r, hmode, x, y, hx, hy, hflag, hflag', hzero, hseven, fun hsame => ?_⟩
  obtain ⟨y', hy', hsame⟩ := hsame.of_some hx
  obtain rfl := Option.some.inj (hy.symm.trans hy')
  rw [hsame.gDevice, hzero] at hseven
  exact absurd hseven (by decide)

end UhfReader
