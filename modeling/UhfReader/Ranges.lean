import UhfReader.Effects
import UhfReader.ReadBack
import UhfReader.Storage

/-!
# The ranges of the working parameters

`0x01`, `0x04` and `0x0F` check that the baud rate, the output power and the working mode are in
their ranges.  Three other commands write the same bytes as part of more: `0x09` writes all the
working parameters, `0x15` copies as many bytes of a filter as the request has, beyond the
filter, and `0x0D` restores the factory copy.  None of them looks at the ranges.  The bytes stay
in range as long as what these three write is.

The second part is about `ReaderWorkStatus`, which start and stop change in `g_device` only.
The main loop saves `g_device` as a whole, so the next save of anything else makes the mode
permanent.
-/

open Memory Run

namespace UhfReader

variable {o : CmdOrigin} {buffer : Mem} {length : ℕ} {r : Reader} {reply : UInt8 × Mem × Reader}

/-! ### Ranges -/

/-- A value that the byte `i` of `g_device` may have. -/
structure Ranged (i : ℕ) (v : UInt8) : Prop where
  baudRate : i = Offset.baudRate → 4 ≤ v ∧ v ≤ 8
  outputPower : i = Offset.outputPower → 20 ≤ v ∧ v ≤ 33
  readerWorkStatus : i = Offset.readerWorkStatus → v = workAct ∨ v = workCmd

/-- The baud rate, the output power and the working mode are in their ranges. -/
structure InRange (d : SDevice) : Prop where
  baudRate : 4 ≤ d.load Offset.baudRate ∧ d.load Offset.baudRate ≤ 8
  outputPower : 20 ≤ d.load Offset.outputPower ∧ d.load Offset.outputPower ≤ 33
  readerWorkStatus : d.load Offset.readerWorkStatus = workAct
    ∨ d.load Offset.readerWorkStatus = workCmd

/-- The values that are copied over a window of `g_device` are in the ranges of their bytes. -/
def WindowRanged (off : ℕ) (src : Mem) (n : ℕ) : Prop :=
  ∀ i < n, off + i < 210 → Ranged (off + i) (src i)

/-- The bytes that have a range. -/
def rangedBytes : List ℕ := [Offset.baudRate, Offset.outputPower, Offset.readerWorkStatus]

instance (i : ℕ) (v : UInt8) : Decidable (Ranged i v) :=
  decidable_of_iff ((i = Offset.baudRate → 4 ≤ v ∧ v ≤ 8)
      ∧ (i = Offset.outputPower → 20 ≤ v ∧ v ≤ 33)
      ∧ (i = Offset.readerWorkStatus → v = workAct ∨ v = workCmd))
    ⟨fun h => ⟨h.1, h.2.1, h.2.2⟩, fun h => ⟨h.baudRate, h.outputPower, h.readerWorkStatus⟩⟩

namespace InRange

/-- Only the bytes that have a range count. -/
theorem of_bytes {d : SDevice} (h : ∀ i ∈ rangedBytes, Ranged i (d.load i)) :
  InRange d
  := by
  constructor
  · exact (h _ (by decide)).baudRate rfl
  · exact (h _ (by decide)).outputPower rfl
  · exact (h _ (by decide)).readerWorkStatus rfl

/-- Every byte is in its range. -/
theorem ranged {d : SDevice} (h : InRange d) (i : ℕ) :
  Ranged i (d.load i)
  := by
  constructor
  · rintro rfl
    exact h.baudRate
  · rintro rfl
    exact h.outputPower
  · rintro rfl
    exact h.readerWorkStatus

/-- Records that agree on the bytes that have a range. -/
theorem congr {d d' : SDevice} (h : InRange d) (heq : ∀ i ∈ rangedBytes, d'.load i = d.load i) :
  InRange d'
  := by
  apply of_bytes
  intro i hi
  rw [heq i hi]
  exact h.ranged i

/-- A copy keeps the ranges if and only if it copies values in range. -/
theorem copy_iff {d : SDevice} (h : InRange d) (off : ℕ) (src : Mem) (n : ℕ) :
  InRange (d.copy off src n) ↔ WindowRanged off src n
  := by
  constructor
  · intro hcopy i hi hsize
    have hvalue := hcopy.ranged (off + i)
    rwa [Block.load_copy_inside hi hsize] at hvalue
  · intro hwindow
    apply of_bytes
    intro j hmem
    have hall : ∀ i ∈ rangedBytes, i < 210 := by decide
    have hj := hall j hmem
    by_cases hinside : off ≤ j ∧ j < off + n
    · obtain ⟨i, rfl⟩ := Nat.exists_eq_add_of_le hinside.1
      have hi : i < n := by omega
      rw [Block.load_copy_inside hi hj]
      exact hwindow i hi hj
    · rw [Block.load_copy_outside (by omega)]
      exact h.ranged j

theorem put {d : SDevice} (h : InRange d) {i : ℕ} (hi : i < 210) {v : UInt8} (hv : Ranged i v) :
  InRange (d.put i v)
  := by
  apply of_bytes
  intro j _
  rw [Block.load_put hi]
  split
  · rename_i heq
    rw [heq]
    exact hv
  · exact h.ranged j

end InRange

theorem inRange_defaultPara :
  InRange defaultPara.setWorkFlag
  := by
  apply InRange.of_bytes
  decide

/-- `Flag` and the version have no range. -/
theorem inRange_setWorkFlag_iff (d : SDevice) :
  InRange d.setWorkFlag ↔ InRange d
  := by
  have heq : ∀ i ∈ rangedBytes, d.setWorkFlag.load i = d.load i := by
    intro i hi
    apply Block.load_copy_outside
    have hall : ∀ i ∈ rangedBytes, 4 ≤ i := by decide
    exact .inr (hall i hi)
  exact ⟨fun h => h.congr fun i hi => (heq i hi).symm, fun h => h.congr heq⟩

theorem InRange.setVersion {d : SDevice} (h : InRange d) :
  InRange d.setVersion
  := by
  apply h.congr
  intro i hi
  apply Block.load_copy_outside
  have hall : ∀ i ∈ rangedBytes, 8 ≤ i := by decide
  exact .inr (hall i hi)

/-- The factory copy is restored as the working parameters; what else is restored has no
range. -/
theorem inRange_factoryReset_iff {d : SDevice} (h : InRange d) :
  InRange (factoryReset d)
    ↔ WindowRanged Offset.workpara (Mem.shift d.load Offset.factoryWorkpara) sizeofWorkParam
  := by
  rw [← h.copy_iff]
  have heq : ∀ i ∈ rangedBytes, (factoryReset d).load i
      = (d.copy Offset.workpara (Mem.shift d.load Offset.factoryWorkpara) sizeofWorkParam).load i
      := by
    intro i hi
    have hall : ∀ i ∈ rangedBytes, 71 ≤ i ∧ i < 97 := by decide
    obtain ⟨hlo, hhi⟩ := hall i hi
    unfold factoryReset
    dsimp only
    rw [Block.load_copy_outside, Block.load_copy_outside, Block.load_copy_outside]
    · left
      simp only [Offset.autoParam]
      omega
    · left
      simp only [Offset.readerMAC1, Offset.workpara]
      omega
    · right
      simp only [Offset.readerID]
      omega
  exact ⟨fun hf => hf.congr fun i hi => (heq i hi).symm, fun hc => hc.congr heq⟩

/-! ### Requests that check the ranges -/

theorem ranged_baudRate {v : UInt8} (h : rangeControl 0x01 v = cmdoorCheckOk) :
  Ranged Offset.baudRate v
  := by
  have hrange : ¬ (v < 4 ∨ v > 8) := by
    intro hout
    rw [rangeControl, if_pos hout] at h
    exact absurd h (by decide)
  obtain ⟨hlo, hhi⟩ := not_or.mp hrange
  refine ⟨fun _ => ⟨UInt8.not_lt.mp hlo, UInt8.not_lt.mp hhi⟩, ?_, ?_⟩
  · intro heq
    exact absurd heq (by decide)
  · intro heq
    exact absurd heq (by decide)

theorem ranged_clampPower (v : UInt8) :
  Ranged Offset.outputPower (clampPower v)
  := by
  have hclamp : 20 ≤ clampPower v ∧ clampPower v ≤ 33 := by
    unfold clampPower
    split
    · decide
    · rename_i hlo
      split
      · decide
      · rename_i hhi
        exact ⟨UInt8.not_lt.mp hlo, UInt8.not_lt.mp hhi⟩
  refine ⟨?_, fun _ => hclamp, ?_⟩
  · intro heq
    exact absurd heq (by decide)
  · intro heq
    exact absurd heq (by decide)

theorem ranged_readerWorkStatus {v : UInt8} (h : v = workAct ∨ v = workCmd) :
  Ranged Offset.readerWorkStatus v
  := by
  refine ⟨?_, ?_, fun _ => h⟩
  · intro heq
    exact absurd heq (by decide)
  · intro heq
    exact absurd heq (by decide)

/-- `0x01` keeps the ranges. -/
theorem baudRate_inRange (hreg : Registered r.gParamTable)
    (h : processParamTable o buffer length r = some reply) (hcmd : buffer 2 = 0x01)
    (hin : InRange r.gDevice) :
  InRange reply.2.2.gDevice
  := by
  have hmem : (buffer 2,
      (⟨some (.device Offset.baudRate), flagWR, 1, some .setBaudRate⟩ : SParamItem))
      ∈ registeredItems := by
    rw [hcmd]
    decide
  have hwindow : windowCmd (buffer 2) := by
    rw [hcmd]
    decide
  obtain ⟨-, -, hsame⟩ | ⟨-, hright, -, buffer₁, called, hcall, hreader⟩ :=
    process_window_cases hreg hmem rfl hwindow rfl h
  · rwa [hsame]
  · have hrange : rangeControl 0x01 (buffer (paraOff o)) = cmdoorCheckOk := hcmd ▸ hright.range
    have hstored : InRange (r.storeWindow (buffer 2) Offset.baudRate (buffer.shift (paraOff o))
        1).gDevice := by
      apply (hin.copy_iff _ _ _).mpr
      intro i hi _
      obtain rfl : i = 0 := by omega
      exact ranged_baudRate hrange
    rw [hreader]
    apply hstored.congr
    intro i hi
    apply callFunction_untouched hcall
    intro f hf
    cases hf
    have hall : ∀ i ∈ rangedBytes, Handler.setBaudRate.touches i = false := by decide
    exact hall i hi

/-- `0x06` keeps the ranges when what the flash holds is in range. -/
theorem readParam_inRange (hreg : Registered r.gParamTable)
    (h : processParamTable o buffer length r = some reply) (hcmd : buffer 2 = 0x06)
    (hin : InRange r.gDevice) (hflash : InRange (stmflashReadDevice r.flash)) :
  InRange reply.2.2.gDevice
  := by
  obtain ⟨-, hsame⟩ | ⟨-, -, -, hdevice⟩ := readParam_spec hreg hcmd h
  · rwa [hsame]
  · rw [hdevice]
    apply hflash.setVersion.put (by decide)
    exact hin.ranged _

/-- The commands that write bytes that have a range without a look at it. -/
def unrangedCmds : List UInt8 := [0x09, 0x0D, 0x15]

/-- Every other command keeps the ranges, when what the flash holds is in range. -/
theorem process_inRange (hreg : Registered r.gParamTable)
    (h : processParamTable o buffer length r = some reply) (hcmd : buffer 2 ∉ unrangedCmds)
    (hin : InRange r.gDevice) (hflash : InRange (stmflashReadDevice r.flash)) :
  InRange reply.2.2.gDevice
  := by
  by_cases hbaud : buffer 2 = 0x01
  · exact baudRate_inRange hreg h hbaud hin
  by_cases hpower : buffer 2 = 0x04
  · obtain ⟨-, hr⟩ | ⟨-, hput, -⟩ := process_power hreg hpower h
    · rwa [hr]
    · rw [hput]
      apply hin.put (by decide)
      apply ranged_clampPower
  by_cases hread : buffer 2 = 0x06
  · exact readParam_inRange hreg h hread hin hflash
  by_cases hmode : buffer 2 = 0x0F
  · obtain ⟨-, -, hsame⟩ | ⟨-, -, hput⟩ := (process_workType hreg hmode h).2
    · rwa [hsame]
    · rw [hput]
      apply hin.put (by decide)
      exact ranged_readerWorkStatus (modeAsked_cases _)
  · apply hin.congr
    intro i hi
    apply processParamTable_untouched hreg h
    · intro hfilter
      apply hcmd
      rw [hfilter]
      decide
    · intro item hmem
      have hall : ∀ e ∈ registeredItems, e.1 ∉ unrangedCmds → e.1 ≠ 0x01 → e.1 ≠ 0x04 →
          e.1 ≠ 0x06 → e.1 ≠ 0x0F → ∀ i ∈ rangedBytes, e.2.touches i = false := by decide
      exact hall _ hmem hcmd hbaud hpower hread hmode i hi

/-! ### Requests and save steps -/

/-- One step of the reader: a request, or
`if(g_paramTable.setFlag) { SaveData(); g_paramTable.setFlag = 0; }`. -/
def Reader.step (r : Reader) : MemoEvent → Option Reader
  | .request o buffer length =>
    (processParamTable o buffer length r).map fun reply => reply.2.2
  | .save =>
    if r.setFlag ≠ 0 then
      some { r with
        gDevice := (saveDataTo r.flash r.gDevice).1
        flash := (saveDataTo r.flash r.gDevice).2
        setFlag := 0 }
    else some r

/-- A request that writes bytes which have a range without a look at it writes values in
range. -/
structure StoresRanged (o : CmdOrigin) (buffer : Mem) (d : SDevice) : Prop where
  /-- the working parameters given -/
  writeParam : buffer 2 = 0x09 → (buffer 1).toNat = sizeofWorkParam + (emptyLen o).toNat →
    WindowRanged Offset.workpara (buffer.shift (paraOff o)) sizeofWorkParam
  /-- the bytes of a filter that is longer than the member for it -/
  setTagFilter : buffer 2 = 0x15 → FilterRight o buffer →
    WindowRanged Offset.tagfilter (filterSource o buffer) (buffer 1 - emptyLen o).toNat
  /-- the factory copy of the working parameters -/
  readReaderPara : buffer 2 = 0x0D → buffer 1 = emptyLen o →
    WindowRanged Offset.workpara (Mem.shift d.load Offset.factoryWorkpara) sizeofWorkParam

/-- The steps of a run store values in range. -/
def StoresInRange (r : Reader) : MemoEvent → Prop
  | .request o buffer length => Valid o buffer length r.toGlobals → StoresRanged o buffer r.gDevice
  | .save => True

/-- Other requests store values in range. -/
theorem StoresRanged.of_cmd {d : SDevice} (h : buffer 2 ∉ unrangedCmds) :
  StoresRanged o buffer d
  := by
  simp only [unrangedCmds, List.mem_cons, List.not_mem_nil, or_false, not_or] at h
  obtain ⟨hwrite, hfactory, hfilter⟩ := h
  exact ⟨fun heq => absurd heq hwrite, fun heq => absurd heq hfilter,
    fun heq => absurd heq hfactory⟩

theorem StoresRanged.writeParam_iff {d : SDevice} (hcmd : buffer 2 = 0x09) :
  StoresRanged o buffer d ↔ ((buffer 1).toNat = sizeofWorkParam + (emptyLen o).toNat →
    WindowRanged Offset.workpara (buffer.shift (paraOff o)) sizeofWorkParam)
  := by
  constructor
  · intro h
    exact h.writeParam hcmd
  · intro h
    refine ⟨fun _ => h, ?_, ?_⟩
    · intro heq
      exact absurd (hcmd.symm.trans heq) (by decide)
    · intro heq
      exact absurd (hcmd.symm.trans heq) (by decide)

theorem StoresRanged.setTagFilter_iff {d : SDevice} (hcmd : buffer 2 = 0x15) :
  StoresRanged o buffer d ↔ (FilterRight o buffer →
    WindowRanged Offset.tagfilter (filterSource o buffer) (buffer 1 - emptyLen o).toNat)
  := by
  constructor
  · intro h
    exact h.setTagFilter hcmd
  · intro h
    refine ⟨?_, fun _ => h, ?_⟩
    · intro heq
      exact absurd (hcmd.symm.trans heq) (by decide)
    · intro heq
      exact absurd (hcmd.symm.trans heq) (by decide)

theorem StoresRanged.readReaderPara_iff {d : SDevice} (hcmd : buffer 2 = 0x0D) :
  StoresRanged o buffer d ↔ (buffer 1 = emptyLen o →
    WindowRanged Offset.workpara (Mem.shift d.load Offset.factoryWorkpara) sizeofWorkParam)
  := by
  constructor
  · intro h
    exact h.readReaderPara hcmd
  · intro h
    refine ⟨?_, ?_, fun _ => h⟩
    · intro heq
      exact absurd (hcmd.symm.trans heq) (by decide)
    · intro heq
      exact absurd (hcmd.symm.trans heq) (by decide)

/-- `0x09` keeps the ranges if and only if it writes values in range. -/
theorem writeParam_inRange_iff (hreg : Registered r.gParamTable)
    (h : processParamTable o buffer length r = some reply) (hcmd : buffer 2 = 0x09)
    (hin : InRange r.gDevice) :
  InRange reply.2.2.gDevice ↔ StoresInRange r (.request o buffer length)
  := by
  have hmem : (buffer 2,
      (⟨some (.device Offset.workpara), flagWR, 32, some .writeParam⟩ : SParamItem))
      ∈ registeredItems := by
    rw [hcmd]
    decide
  have hwindow : windowCmd (buffer 2) := by
    rw [hcmd]
    decide
  have hright : (buffer 1).toNat = sizeofWorkParam + (emptyLen o).toNat →
      WindowRight o buffer ⟨some (.device Offset.workpara), flagWR, 32, some .writeParam⟩ := by
    intro hlen
    refine ⟨hlen, ?_⟩
    rw [hcmd]
    rfl
  rw [StoresInRange, StoresRanged.writeParam_iff hcmd]
  obtain ⟨hwrong, -, hsame⟩ | ⟨hvalid, hwas, -, buffer₁, called, hcall, hreader⟩ :=
    process_window_cases hreg hmem rfl hwindow rfl h
  · rw [hsame]
    exact iff_of_true hin fun hvalid hlen => absurd ⟨hvalid, hright hlen⟩ hwrong
  · have hkept := callFunction_settings (fun f hf => by cases hf; decide) hcall
    have hdevice : called.2.gDevice
        = r.gDevice.copy Offset.workpara (buffer.shift (paraOff o)) sizeofWorkParam :=
      congrArg Settings.gDevice hkept
    rw [hreader, hdevice, hin.copy_iff]
    exact ⟨fun hwritten _ _ => hwritten, fun hstores => hstores hvalid hwas.len⟩

/-- `0x15` keeps the ranges if and only if the bytes beyond the filter are in range. -/
theorem setTagFilter_inRange_iff (hreg : Registered r.gParamTable)
    (h : processParamTable o buffer length r = some reply) (hcmd : buffer 2 = 0x15)
    (hin : InRange r.gDevice) :
  InRange reply.2.2.gDevice ↔ StoresInRange r (.request o buffer length)
  := by
  rw [StoresInRange, StoresRanged.setTagFilter_iff hcmd]
  obtain ⟨hinvalid, -, hsame⟩ | ⟨item, outcome, hvalid, -, -, -, -⟩ :=
    processParamTable_cases hreg h
  · rw [hsame]
    exact iff_of_true hin fun hvalid => absurd hvalid hinvalid
  · obtain ⟨reply', hrun, hcases⟩ := process_tagFilter hreg hvalid hcmd
    obtain rfl := Option.some.inj (hrun.symm.trans h)
    obtain ⟨hwrong, -, hsame, -⟩ | ⟨hright, -, hdevice, -⟩ := hcases
    · rw [hsame]
      exact iff_of_true hin fun _ hright => absurd hright hwrong
    · rw [hdevice, hin.copy_iff]
      exact ⟨fun hwritten _ _ => hwritten, fun hstores => hstores hvalid hright⟩

/-- `0x0D` keeps the ranges if and only if the factory copy is in range. -/
theorem readReaderPara_inRange_iff (hreg : Registered r.gParamTable)
    (h : processParamTable o buffer length r = some reply) (hcmd : buffer 2 = 0x0D)
    (hin : InRange r.gDevice) :
  InRange reply.2.2.gDevice ↔ StoresInRange r (.request o buffer length)
  := by
  rw [StoresInRange, StoresRanged.readReaderPara_iff hcmd]
  obtain ⟨hinvalid, -, hsame⟩ | ⟨item, outcome, hvalid, -, -, -, -⟩ :=
    processParamTable_cases hreg h
  · rw [hsame]
    exact iff_of_true hin fun hvalid => absurd hvalid hinvalid
  · obtain ⟨reply', hrun, -, hcases⟩ := process_factory hreg hvalid hcmd
    obtain rfl := Option.some.inj (hrun.symm.trans h)
    obtain ⟨hwrong, -, hsame, -⟩ | ⟨hlen, -, hdevice, -⟩ := hcases
    · rw [hsame]
      exact iff_of_true hin fun _ hlen => absurd hlen hwrong
    · rw [hdevice, saveDataTo_eq, inRange_setWorkFlag_iff, inRange_factoryReset_iff hin]
      exact ⟨fun hcopy _ _ => hcopy, fun hstores => hstores hvalid hlen⟩

/-- The parameters are in range, in `g_device` and in the flash. -/
structure RangeInv (r : Reader) : Prop where
  table : Registered r.gParamTable
  device : InRange r.gDevice
  stored : InRange (stmflashReadDevice r.flash)

theorem RangeInv.start (e : Surroundings) (h : ¬ FlagStored e.flash) :
  RangeInv (powerOn e)
  := by
  obtain ⟨htable, hdevice, hflash, -⟩ := powerOn_spec e
  rw [← flagged_stmflashReadDevice_iff] at h
  refine ⟨?_, ?_, ?_⟩
  · rw [htable]
    exact registered_ofItems
  · rw [hdevice, readPara_of_not_flagged h, setVersion_defaultPara]
    exact inRange_defaultPara
  · rw [hflash, readPara_of_not_flagged_flash h, stmflashReadDevice_storedImage]
    exact inRange_defaultPara

/-- After a step the parameters in `g_device` are in range if and only if the step stores values
in range. -/
theorem RangeInv.step_iff {r r' : Reader} {e : MemoEvent} (hinv : RangeInv r)
    (h : r.step e = some r') :
  InRange r'.gDevice ↔ StoresInRange r e
  := by
  cases e with
  | request o buffer length =>
    simp only [Reader.step, Option.map_eq_some_iff] at h
    obtain ⟨reply, hreply, rfl⟩ := h
    by_cases hwrite : buffer 2 = 0x09
    · exact writeParam_inRange_iff hinv.table hreply hwrite hinv.device
    by_cases hfilter : buffer 2 = 0x15
    · exact setTagFilter_inRange_iff hinv.table hreply hfilter hinv.device
    by_cases hfactory : buffer 2 = 0x0D
    · exact readReaderPara_inRange_iff hinv.table hreply hfactory hinv.device
    · have hother : buffer 2 ∉ unrangedCmds := by
        simp only [unrangedCmds, List.mem_cons, List.not_mem_nil, or_false, not_or]
        exact ⟨hwrite, hfactory, hfilter⟩
      constructor
      · intro _ _
        exact .of_cmd hother
      · intro _
        exact process_inRange hinv.table hreply hother hinv.device hinv.stored
  | save =>
    refine ⟨fun _ => trivial, fun _ => ?_⟩
    simp only [Reader.step] at h
    split at h
    · cases h
      dsimp only
      rw [saveDataTo_eq, inRange_setWorkFlag_iff]
      exact hinv.device
    · cases h
      exact hinv.device

/-- A step that stores values in range keeps the invariant. -/
theorem RangeInv.step {r r' : Reader} {e : MemoEvent} (hinv : RangeInv r)
    (hstores : StoresInRange r e) (h : r.step e = some r') :
  RangeInv r'
  := by
  have hdevice := (hinv.step_iff h).mpr hstores
  cases e with
  | request o buffer length =>
    simp only [Reader.step, Option.map_eq_some_iff] at h
    obtain ⟨reply, hreply, rfl⟩ := h
    refine ⟨processParamTable_registered hinv.table hreply, hdevice, ?_⟩
    by_cases hfactory : buffer 2 = 0x0D
    · obtain ⟨-, -, hsame⟩ | ⟨item, outcome, hvalid, -, -, -, -⟩ :=
        processParamTable_cases hinv.table hreply
      · rw [hsame]
        exact hinv.stored
      · obtain ⟨reply', hrun, -, hcases⟩ := process_factory hinv.table hvalid hfactory
        obtain rfl := Option.some.inj (hrun.symm.trans hreply)
        obtain ⟨-, -, -, hflash⟩ | ⟨-, -, hrecord, hflash⟩ := hcases
        · rw [hflash]
          exact hinv.stored
        · -- what `0x0D` saves is `g_device`
          rw [hrecord, saveDataTo_eq] at hdevice
          rw [hflash, saveDataTo_eq, stmflashReadDevice_storedImage]
          exact hdevice
    · rw [processParamTable_flash hinv.table hreply hfactory]
      exact hinv.stored
  | save =>
    simp only [Reader.step] at h
    split at h
    · cases h
      refine ⟨hinv.table, hdevice, ?_⟩
      dsimp only at hdevice ⊢
      rw [saveDataTo_eq] at hdevice ⊢
      rwa [stmflashReadDevice_storedImage]
    · cases h
      exact hinv

/-- A request that does not return stores nothing out of range. -/
theorem RangeInv.step_none {r : Reader} {e : MemoEvent} (hinv : RangeInv r)
    (h : r.step e = none) :
  StoresInRange r e
  := by
  cases e with
  | request o buffer length =>
    simp only [Reader.step, Option.map_eq_none_iff] at h
    intro hvalid
    refine ⟨?_, ?_, ?_⟩
    · intro hcmd hlen
      exfalso
      have hmem : (buffer 2,
          (⟨some (.device Offset.workpara), flagWR, 32, some .writeParam⟩ : SParamItem))
          ∈ registeredItems := by
        rw [hcmd]
        decide
      have hrun := process_window hinv.table hvalid hmem rfl
        (by rw [hcmd]; decide) rfl ⟨hlen, by rw [hcmd]; rfl⟩
      obtain ⟨called, hcall, -⟩ := callFunction_plain
        (.inr ⟨.writeParam, by decide, by decide, rfl⟩) (buffer.put 1 (emptyLen o))
        (r.storeWindow (buffer 2) Offset.workpara (buffer.shift (paraOff o)) 32)
      rw [h] at hrun
      dsimp only at hrun
      rw [show (32 : UInt8).toNat = 32 from rfl, hcall, Option.map_some] at hrun
      cases hrun
    · intro hcmd
      obtain ⟨reply, hrun, -⟩ := process_tagFilter hinv.table hvalid hcmd
      rw [h] at hrun
      cases hrun
    · intro hcmd
      obtain ⟨reply, hrun, -⟩ := process_factory hinv.table hvalid hcmd
      rw [h] at hrun
      cases hrun
  | save => trivial

/-- From the factory settings on, the baud rate, the output power and the working mode are in
their ranges in every state of a run if and only if every request `0x09`, `0x15` and `0x0D` that
is carried out stores values in range: the working parameters given, the bytes that a filter has
beyond its place, and the factory copy. -/
theorem ranges_kept_iff (e : Surroundings) (hfactory : ¬ FlagStored e.flash)
    (es : List MemoEvent) :
  Along.Throughout Reader.step (fun r => InRange r.gDevice) es (powerOn e)
    ↔ Along Reader.step StoresInRange es (powerOn e)
  := by
  have hstart := RangeInv.start e hfactory
  apply Along.throughout_iff (I := RangeInv) (R := fun _ _ => True)
  · intro r e r' hinv _ h
    exact hinv.step_iff h
  · intro r e r' hinv _ hstores h
    exact hinv.step hstores h
  · intro r e hinv _ h
    exact hinv.step_none h
  · exact hstart
  · exact hstart.device
  · exact .of_forall fun _ _ _ => trivial

/-- The flash of a new reader is erased. -/
theorem not_flagStored_blank :
  ¬ FlagStored Surroundings.blank.flash
  := by
  intro h
  exact absurd h.1 (by decide)

/-- A new reader is given an output power of 26, which is saved: the ranges are kept. -/
theorem ranges_kept_power :
  Along.Throughout Reader.step (fun r => InRange r.gDevice)
    [.request .sourceFrom232 (writeParamRequest (defaultWorkpara.set 1 26)) 36, .save]
    (powerOn .blank)
  := by
  apply (ranges_kept_iff .blank not_flagStored_blank _).mpr
  refine ⟨?_, ?_⟩
  · intro _
    refine ⟨fun _ _ => ?_, ?_, ?_⟩
    · intro i hi _
      revert i
      decide
    · intro heq
      exact absurd heq (by decide)
    · intro heq
      exact absurd heq (by decide)
  · split
    · trivial
    · refine ⟨trivial, ?_⟩
      split
      · trivial
      · trivial

/-- A new reader is given an output power of zero with the working parameters, and takes it. -/
theorem power_out_of_range :
  let es : List MemoEvent :=
    [.request .sourceFrom232 (writeParamRequest (defaultWorkpara.set 1 0)) 36]
  ¬ FlagStored Surroundings.blank.flash
    ∧ (∃ r, run Reader.step es (powerOn .blank) = some r
      ∧ r.gDevice.load Offset.outputPower = 0)
    ∧ ¬ Along.Throughout Reader.step (fun r => InRange r.gDevice) es (powerOn .blank)
  := by
  intro es
  have heval : (run Reader.step es (powerOn .blank)).map
      (fun r => r.gDevice.load Offset.outputPower) = some 0 := by
    rw [powerOn_eq]
    decide
  obtain ⟨r, hrun, hpower⟩ := Option.map_eq_some_iff.mp heval
  refine ⟨not_flagStored_blank, ⟨r, hrun, hpower⟩, ?_⟩
  intro hkept
  have hin : InRange r.gDevice := hkept es [] r (List.append_nil es).symm hrun
  have hlow := hin.outputPower.1
  rw [hpower] at hlow
  exact absurd hlow (by decide)

/-! ### Start and stop -/

/-- `ReaderWorkStatus` in the flash. -/
def storedStatus (r : Reader) : UInt8 :=
  (stmflashReadDevice r.flash).load Offset.readerWorkStatus

/-- A step that is no accepted `0x09`, `0x0C` or `0x0D`. -/
def WritesNoMode (r : Reader) : MemoEvent → Prop
  | .request o buffer length => buffer 2 ∈ [(0x09 : UInt8), 0x0C, 0x0D] →
      ∀ reply, processParamTable o buffer length r = some reply → reply.1 ≠ cmdoorCheckOk
  | .save => True

/-- A request that is no accepted `0x0D` leaves the flash alone. -/
theorem request_flash (hreg : Registered r.gParamTable)
    (h : processParamTable o buffer length r = some reply)
    (hno : WritesNoMode r (.request o buffer length)) :
  reply.2.2.flash = r.flash
  := by
  by_cases hcmd : buffer 2 = 0x0D
  · have herror : reply.1 ≠ cmdoorCheckOk := hno (by rw [hcmd]; decide) reply h
    obtain ⟨-, -, hsame⟩ | ⟨item, outcome, hvalid, -, -, -, -⟩ := processParamTable_cases hreg h
    · rw [hsame]
    · obtain ⟨reply', hrun, -, hcases⟩ := process_factory hreg hvalid hcmd
      obtain rfl := Option.some.inj (hrun.symm.trans h)
      obtain ⟨-, -, -, hflash⟩ | ⟨-, hok, -, -⟩ := hcases
      · exact hflash
      · exact absurd hok herror
  · exact processParamTable_flash hreg h hcmd

/-- The working mode that a request asks for: with `0x0F`, or with a filter of `0x15` that is so
long that it comes over `ReaderWorkStatus`. -/
def askedMode (o : CmdOrigin) (buffer : Mem) (length : ℕ) (r : Reader) : Option UInt8 :=
  if ¬ Valid o buffer length r.toGlobals then none
  else if buffer 2 = 0x0F ∧ WorkTypeRight o buffer then some (modeAsked (buffer (paraOff o)))
  else if buffer 2 = 0x15 ∧ FilterRight o buffer ∧ 61 < (buffer 1 - emptyLen o).toNat then
    some (filterSource o buffer 61)
  else none

/-- What the requests and save steps of a run come to for the working mode. -/
structure ModeTrack where
  /-- the mode that was asked for last -/
  asked : UInt8
  /-- there is something to save since the last save -/
  raised : Bool
  /-- the mode that was asked for when something was saved last -/
  saved : UInt8

namespace ModeTrack

/-- Before the first step. -/
def start (r : Reader) : ModeTrack :=
  { asked := r.gDevice.load Offset.readerWorkStatus, raised := r.setFlag ≠ 0,
    saved := storedStatus r }

/-- After a step that finds the reader in the state `r`. -/
def step (t : ModeTrack) (r : Reader) : MemoEvent → ModeTrack
  | .request o buffer length =>
    { t with
      asked := (askedMode o buffer length r).getD t.asked
      raised := t.raised || decide (Valid o buffer length r.toGlobals ∧ Raises o buffer r) }
  | .save => { t with raised := false, saved := if t.raised then t.asked else t.saved }

/-- After a run from the state `r`. -/
def after (t : ModeTrack) : List MemoEvent → Reader → ModeTrack
  | [], _ => t
  | e :: es, r =>
    match r.step e with
    | none => t
    | some r' => (t.step r e).after es r'

/-- What is tracked is what the reader has. -/
structure Tracks (t : ModeTrack) (r : Reader) : Prop where
  table : Registered r.gParamTable
  asked : r.gDevice.load Offset.readerWorkStatus = t.asked
  raised : r.setFlag ≠ 0 ↔ t.raised = true
  saved : storedStatus r = t.saved

/-- The working mode after `0x15`. -/
theorem filter_mode (hreg : Registered r.gParamTable)
    (hvalid : Valid o buffer length r.toGlobals)
    (h : processParamTable o buffer length r = some reply) (hcmd : buffer 2 = 0x15) :
  reply.2.2.gDevice.load Offset.readerWorkStatus
    = (if buffer 2 = 0x15 ∧ FilterRight o buffer ∧ 61 < (buffer 1 - emptyLen o).toNat then
        some (filterSource o buffer 61) else none).getD (r.gDevice.load Offset.readerWorkStatus)
  := by
  obtain ⟨reply', hreply, hcases⟩ := process_tagFilter hreg hvalid hcmd
  obtain rfl := Option.some.inj (hreply.symm.trans h)
  obtain ⟨hwrong, -, hsame, -⟩ | ⟨hright, -, hdevice, -⟩ := hcases
  · rw [if_neg (fun hboth => hwrong hboth.2.1), hsame, Option.getD_none]
  · rw [hdevice]
    have hplace : Offset.readerWorkStatus = Offset.tagfilter + 61 := rfl
    split
    · rename_i hlong
      rw [hplace, Block.load_copy_inside hlong.2.2 (by decide), Option.getD_some]
    · rename_i hshort
      have hlen : (buffer 1 - emptyLen o).toNat ≤ 61 := by
        by_contra hlong
        exact hshort ⟨hcmd, hright, Nat.not_le.mp hlong⟩
      rw [Option.getD_none, Block.load_copy_outside]
      right
      rw [hplace]
      exact Nat.add_le_add_left hlen _

/-- The working mode after a request that is no accepted `0x09` or `0x0D`. -/
theorem request_mode (hreg : Registered r.gParamTable)
    (h : processParamTable o buffer length r = some reply)
    (hno : WritesNoMode r (.request o buffer length)) :
  reply.2.2.gDevice.load Offset.readerWorkStatus
    = (askedMode o buffer length r).getD (r.gDevice.load Offset.readerWorkStatus)
  := by
  by_cases hvalid : Valid o buffer length r.toGlobals
  · rw [askedMode, if_neg (not_not.mpr hvalid)]
    by_cases hmode : buffer 2 = 0x0F
    · have hother : buffer 2 ≠ 0x15 := by
        rw [hmode]
        decide
      obtain ⟨hwrong, -, hsame⟩ | ⟨-, hright, hput⟩ := (process_workType hreg hmode h).2
      · rw [if_neg (fun hboth => hwrong ⟨hvalid, hboth.2⟩), if_neg (fun hboth => hother hboth.1),
          hsame, Option.getD_none]
      · rw [if_pos ⟨hmode, hright⟩, hput, Block.load_put (by decide), if_pos rfl, Option.getD_some]
    rw [if_neg (fun hboth => hmode hboth.1)]
    by_cases hfilter : buffer 2 = 0x15
    · exact filter_mode hreg hvalid h hfilter
    rw [if_neg (fun hboth => hfilter hboth.1), Option.getD_none]
    by_cases hread : buffer 2 = 0x06
    · exact readParam_readerWorkStatus hreg hread h
    by_cases hwrite : buffer 2 = 0x09
    · have herror : reply.1 ≠ cmdoorCheckOk := hno (by rw [hwrite]; decide) reply h
      obtain ⟨-, hsame⟩ | ⟨hok, -⟩ := writeParam_spec hreg hwrite h
      · rw [hsame]
      · exact absurd hok herror
    by_cases hreset : buffer 2 = 0x0D
    · have herror : reply.1 ≠ cmdoorCheckOk := hno (by rw [hreset]; decide) reply h
      obtain ⟨reply', hreply, -, hcases⟩ := process_factory hreg hvalid hreset
      obtain rfl := Option.some.inj (hreply.symm.trans h)
      obtain ⟨-, -, hsame, -⟩ | ⟨-, hok, -, -⟩ := hcases
      · rw [hsame]
      · exact absurd hok herror
    · have hall : ∀ e ∈ registeredItems, e.1 ∉ [(0x06 : UInt8), 0x09, 0x0D, 0x0F, 0x15] →
          e.2.touches Offset.readerWorkStatus = false := by decide
      apply processParamTable_untouched hreg h hfilter
      intro item hmem
      apply hall _ hmem
      simp only [List.mem_cons, List.not_mem_nil, or_false, not_or]
      exact ⟨hread, hwrite, hreset, hmode, hfilter⟩
  · obtain ⟨-, -, hr⟩ | ⟨item, outcome, hval, -⟩ := processParamTable_cases hreg h
    · rw [askedMode, if_pos hvalid, hr, Option.getD_none]
    · exact absurd hval hvalid

/-- A step keeps the track. -/
theorem Tracks.step {t : ModeTrack} {r r' : Reader} {e : MemoEvent} (ht : t.Tracks r)
    (hno : WritesNoMode r e) (h : r.step e = some r') :
  (t.step r e).Tracks r'
  := by
  cases e with
  | request o buffer length =>
    simp only [Reader.step, Option.map_eq_some_iff] at h
    obtain ⟨reply, hreply, rfl⟩ := h
    refine ⟨processParamTable_registered ht.table hreply, ?_, ?_, ?_⟩
    · rw [request_mode ht.table hreply hno, ht.asked]
      rfl
    · rw [process_setFlag ht.table hreply]
      dsimp only [ModeTrack.step]
      rw [Bool.or_eq_true, decide_eq_true_iff, ← ht.raised]
      split
      · rename_i hraises
        exact iff_of_true one_ne_zero (.inr hraises)
      · rename_i hquiet
        exact ⟨.inl, fun hup => hup.resolve_right hquiet⟩
    · rw [storedStatus, request_flash ht.table hreply hno]
      exact ht.saved
  | save =>
    simp only [Reader.step] at h
    split at h
    · rename_i hset
      cases h
      have hstatus : ∀ d : SDevice, d.setWorkFlag.load Offset.readerWorkStatus
          = d.load Offset.readerWorkStatus := by
        intro d
        apply Block.load_copy_outside
        decide
      refine ⟨ht.table, ?_, ?_, ?_⟩
      · dsimp only [ModeTrack.step]
        rw [saveDataTo_eq, hstatus]
        exact ht.asked
      · exact iff_of_false (fun hup => hup rfl) (fun hup => by cases hup)
      · rw [storedStatus]
        dsimp only [ModeTrack.step]
        rw [saveDataTo_eq, stmflashReadDevice_storedImage, hstatus, if_pos (ht.raised.mp hset)]
        exact ht.asked
    · rename_i hset
      cases h
      have hdown : ¬ t.raised = true := fun hup => hset (ht.raised.mpr hup)
      refine ⟨ht.table, ht.asked, ?_, ?_⟩
      · exact iff_of_false hset (fun hup => by cases hup)
      · dsimp only [ModeTrack.step]
        rw [if_neg hdown]
        exact ht.saved

/-- A run keeps the track. -/
theorem Tracks.after {t : ModeTrack} {r s : Reader} (ht : t.Tracks r) (es : List MemoEvent)
    (hno : Along Reader.step WritesNoMode es r) (hrun : run Reader.step es r = some s) :
  (t.after es r).Tracks s
  := by
  induction es generalizing t r with
  | nil =>
    cases hrun
    exact ht
  | cons e es ih =>
    obtain ⟨r', hstep, hrest⟩ := run_cons_eq_some hrun
    rw [ModeTrack.after, hstep]
    exact ih (ht.step hno.1 hstep) (hno.tail hstep) hrest

end ModeTrack

/-- The flash has the same `ReaderWorkStatus` after a run without an accepted `0x09`, `0x0C` or
`0x0D` if and only if this is the mode that was asked for when something was saved last. -/
theorem start_stop_not_saved_iff (r s : Reader) (hreg : Registered r.gParamTable)
    (es : List MemoEvent) (hno : Along Reader.step WritesNoMode es r)
    (hrun : run Reader.step es r = some s) :
  storedStatus s = storedStatus r
    ↔ ((ModeTrack.start r).after es r).saved = storedStatus r
  := by
  have hstart : (ModeTrack.start r).Tracks r := by
    refine ⟨hreg, rfl, ?_, rfl⟩
    rw [ModeTrack.start, decide_eq_true_iff]
  rw [(hstart.after es hno hrun).saved]

/-- The request `0x0F` for active mode, not from RS485. -/
def activeModeRequest : Mem := Mem.ofList [0x40, 0x03, 0x0F, 0x01, 0xAD] fun _ => 0

/-- The request `0x07` for a modulation depth of `0x41`, not from RS485. -/
def radioDepthRequest : Mem := Mem.ofList [0x40, 0x03, 0x07, 0x41, 0x75] fun _ => 0

/-- The request `0x13` for automatic parameters of zero, not from RS485. -/
def autoParaRequest : Mem := Mem.ofList ([0x40, 34, 0x13] ++ List.replicate 32 0 ++ [0x8B]) fun _ => 0

/-- A run without one of the commands that write the working mode. -/
theorem writesNoMode_along {es : List MemoEvent}
    (hcmd : ∀ o buffer length, .request o buffer length ∈ es →
      buffer 2 ∉ [(0x09 : UInt8), 0x0C, 0x0D]) (r : Reader) :
  Along Reader.step WritesNoMode es r
  := by
  apply Along.of_forall
  intro e he r
  cases e with
  | request o buffer length => exact fun hmem => absurd hmem (hcmd o buffer length he)
  | save => trivial

/-- A new reader is stopped and its modulation depth is changed, so that the stop is saved; then it
is started again before the automatic parameters are saved: it still starts in active mode. -/
theorem start_stop_not_saved_restart :
  let es : List MemoEvent := [.request .sourceFrom232 commandModeRequest 5,
    .request .sourceFrom232 radioDepthRequest 5, .save,
    .request .sourceFrom232 activeModeRequest 5, .request .sourceFrom232 autoParaRequest 36, .save]
  ∃ r, run Reader.step es (powerOn .blank) = some r
    ∧ storedStatus r = storedStatus (powerOn .blank)
  := by
  intro es
  have heval : (run Reader.step es (powerOn .blank)).map (fun _ => ()) = some () := by
    rw [powerOn_eq]
    decide +kernel
  obtain ⟨r, hrun, -⟩ := Option.map_eq_some_iff.mp heval
  have hsaved : ((ModeTrack.start (powerOn .blank)).after es (powerOn .blank)).saved
      = storedStatus (powerOn .blank) := by
    rw [powerOn_eq]
    decide +kernel
  refine ⟨r, hrun, ?_⟩
  apply (start_stop_not_saved_iff (powerOn .blank) r (registered_powerOn .blank) es _ hrun).mpr
    hsaved
  apply writesNoMode_along
  intro o buffer length he
  simp only [es, List.mem_cons, List.not_mem_nil, or_false, MemoEvent.request.injEq,
    reduceCtorEq, false_or] at he
  obtain ⟨-, rfl, -⟩ | ⟨-, rfl, -⟩ | ⟨-, rfl, -⟩ | ⟨-, rfl, -⟩ := he
  all_goals decide

/-- A new reader is stopped, then its modulation depth is changed: from the next save on it starts
in command mode. -/
theorem stop_saved_with_depth :
  let es : List MemoEvent := [.request .sourceFrom232 commandModeRequest 5,
    .request .sourceFrom232 radioDepthRequest 5, .save]
  Along Reader.step WritesNoMode es (powerOn .blank)
    ∧ storedStatus (powerOn .blank) = workAct
    ∧ ∃ r, run Reader.step es (powerOn .blank) = some r ∧ storedStatus r = workCmd
      ∧ storedStatus r ≠ storedStatus (powerOn .blank)
  := by
  intro es
  have hstart : storedStatus (powerOn .blank) = workAct := by
    rw [powerOn_eq]
    decide +kernel
  have heval : (run Reader.step es (powerOn .blank)).map storedStatus = some workCmd := by
    rw [powerOn_eq]
    decide +kernel
  obtain ⟨r, hrun, hstatus⟩ := Option.map_eq_some_iff.mp heval
  refine ⟨?_, hstart, r, hrun, hstatus, ?_⟩
  · apply writesNoMode_along
    intro o buffer length he
    simp only [es, List.mem_cons, List.not_mem_nil, or_false, MemoEvent.request.injEq,
      reduceCtorEq] at he
    obtain ⟨-, rfl, -⟩ | ⟨-, rfl, -⟩ := he
    all_goals decide
  · rw [hstatus, hstart]
    decide

end UhfReader
