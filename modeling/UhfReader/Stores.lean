import UhfReader.Effects

/-!
# What a request stores

`Stores o buffer r i v` says of a valid request that it stores the byte `v` at the place `i` of
`g_device`, and `Raises o buffer r` that it raises `setFlag`.  Both are stated on the request and
the state in which it comes, one case for each way in which a request gets at `g_device`.  Two
requests replace the record as a whole and have no case: `0x06`, which reads it back from the
flash, and `0x0D`, which restores the factory settings and saves them.

`process_setFlag` and `process_stores` state that the code does what the two say.
-/

open Memory Stateful

namespace UhfReader

variable {o : CmdOrigin} {buffer : Mem} {length : ℕ} {r : Reader} {reply : UInt8 × Mem × Reader}

/-! ### Requests that raise `setFlag` -/

/-- A write request for a window, which is right, and compares its parameters with what the window
holds only to find a difference. -/
def ChangesWindow (o : CmdOrigin) (buffer : Mem) (d : SDevice) (e : UInt8 × SParamItem) : Prop :=
  e.1 = buffer 2 ∧ e.2.flag = flagWR ∧ windowCmd e.1 ∧ WindowRight o buffer e.2
    ∧ e.2.deviceOff.all (fun off => ¬ (comparedCmd e.1
      ∧ WindowSame d off (buffer.shift (paraOff o)) e.2.length.toNat)) = true

/-- A valid request raises `setFlag`. -/
def Raises (o : CmdOrigin) (buffer : Mem) (r : Reader) : Prop :=
  buffer 2 = 0x05 ∨ buffer 2 = 0x0D
    ∨ (buffer 2 = 0x04 ∧ PowerConfirmed (buffer.shift (paraOff o)) r.toGlobals)
    ∨ (buffer 2 = 0x15 ∧ FilterRight o buffer ∧ buffer 1 ≠ emptyLen o + 4)
    ∨ ∃ e ∈ registeredItems, ChangesWindow o buffer r.gDevice e

instance decidableValid (o : CmdOrigin) (buffer : Mem) (length : ℕ) (g : Globals) :
    Decidable (Valid o buffer length g) :=
  decidable_of_iff ((g.gParamTable.getparaindex (buffer 2) < countParamItemMax ∧ buffer 2 ≠ 0
      ∧ (buffer 1).toNat + 2 ≤ length ∧ byteSum buffer ((buffer 1).toNat + 2) = 0)
      ∧ (o = .sourceFrom485 → buffer 3 = g.gDevice.load Offset.address)
      ∧ (g.gDevice.load Offset.readerWorkStatus = workAct → buffer 2 ∈ actCmds))
    ⟨fun h => ⟨⟨h.1.1, h.1.2.1, h.1.2.2.1, h.1.2.2.2⟩, h.2.1, h.2.2⟩,
      fun h => ⟨⟨h.registered, h.nonzero, h.complete, h.sum⟩, h.addressed, h.mode⟩⟩

instance (p : Mem) (g : Globals) : Decidable (PowerConfirmed p g) :=
  match h : askPower p g with
  | none => isFalse fun ⟨_, _, hask, _⟩ => by cases h.symm.trans hask
  | some (flag, g') =>
    decidable_of_iff (flag = 0 ∧ g'.r2000.para 0 = commandSuccess)
      ⟨fun hdone => ⟨flag, g', h, hdone⟩, fun ⟨_, _, hask, hdone⟩ => by
        cases h.symm.trans hask
        exact hdone⟩

instance (o : CmdOrigin) (buffer : Mem) (item : SParamItem) :
    Decidable (WindowRight o buffer item) :=
  decidable_of_iff ((buffer 1).toNat = item.length.toNat + (emptyLen o).toNat
      ∧ rangeControl (buffer 2) (buffer (paraOff o)) = cmdoorCheckOk)
    ⟨fun h => ⟨h.1, h.2⟩, fun h => ⟨h.len, h.range⟩⟩

instance (o : CmdOrigin) (buffer : Mem) (d : SDevice) (e : UInt8 × SParamItem) :
    Decidable (ChangesWindow o buffer d e) :=
  inferInstanceAs (Decidable (_ ∧ _))

instance (o : CmdOrigin) (buffer : Mem) (r : Reader) : Decidable (Raises o buffer r) :=
  inferInstanceAs (Decidable (_ ∨ _))

/-- The ways to raise `setFlag`, of which a command has one. -/
def raisingCmds : List UInt8 := [0x04, 0x05, 0x0D, 0x15]

/-- A command without a way of its own raises `setFlag` by the window it changes. -/
theorem raises_iff_window (hcmd : buffer 2 ∉ raisingCmds) :
  Raises o buffer r ↔ ∃ e ∈ registeredItems, ChangesWindow o buffer r.gDevice e
  := by
  simp only [raisingCmds, List.mem_cons, List.not_mem_nil, or_false, not_or] at hcmd
  obtain ⟨hpower, hfrequency, hfactory, hfilter⟩ := hcmd
  simp only [Raises, hpower, hfrequency, hfactory, hfilter, false_and, false_or]

/-- A command that is no write request for a window raises `setFlag` in a way of its own. -/
theorem not_raises (hcmd : buffer 2 ∉ raisingCmds)
    (hwindow : ∀ item, (buffer 2, item) ∈ registeredItems → item.flag = flagWR →
      ¬ windowCmd (buffer 2)) :
  ¬ Raises o buffer r
  := by
  rw [raises_iff_window hcmd]
  rintro ⟨⟨c, item⟩, hmem, hc, hwr, hcw, -⟩
  dsimp only at hc hcw
  subst hc
  exact hwindow item hmem hwr hcw

/-- For the commands with a way of their own, no window counts. -/
theorem no_window {d : SDevice} (hcmd : buffer 2 ∈ raisingCmds) :
  ¬ ∃ e ∈ registeredItems, ChangesWindow o buffer d e
  := by
  have hall : ∀ e ∈ registeredItems, e.1 ∈ raisingCmds → e.2.flag = flagWR → ¬ windowCmd e.1 := by
    decide
  rintro ⟨e, hmem, hc, hwr, hwindow, -⟩
  exact hall e hmem (hc ▸ hcmd) hwr hwindow

/-- The write request for a window of an entry raises `setFlag` when it is right, and the window
differs or is not looked at. -/
theorem raises_window_iff {item : SParamItem} {off : ℕ} (hmem : (buffer 2, item) ∈ registeredItems)
    (hwr : item.flag = flagWR) (hwindow : windowCmd (buffer 2))
    (hvalue : item.value = some (.device off)) :
  Raises o buffer r ↔ WindowRight o buffer item ∧ ¬ (comparedCmd (buffer 2)
    ∧ WindowSame r.gDevice off (buffer.shift (paraOff o)) item.length.toNat)
  := by
  have hall : ∀ e ∈ registeredItems, e.2.flag = flagWR → windowCmd e.1 → e.1 ∉ raisingCmds := by
    decide
  have hoff : item.deviceOff = some off := by
    rw [SParamItem.deviceOff, hvalue]
  rw [raises_iff_window (hall _ hmem hwr hwindow)]
  constructor
  · rintro ⟨⟨c, item'⟩, hmem', hc, -, -, hright, hdiffers⟩
    dsimp only at hc hright hdiffers
    subst hc
    obtain rfl := Registered.item_unique hmem hmem'
    rw [hoff, Option.all_some, decide_eq_true_iff] at hdiffers
    exact ⟨hright, hdiffers⟩
  · rintro ⟨hright, hdiffers⟩
    refine ⟨(buffer 2, item), hmem, rfl, hwr, hwindow, hright, ?_⟩
    dsimp only
    rw [hoff, Option.all_some, decide_eq_true_iff]
    exact hdiffers

/-- A request that is not there to change the settings does not raise `setFlag`. -/
theorem not_raises_of_not_write (hcmd : buffer 2 ∉ writeCmds) :
  ¬ Raises o buffer r
  := by
  have hways : ∀ c ∈ raisingCmds, c ∈ writeCmds := by decide +kernel
  have hwrite : ∀ e ∈ registeredItems, e.2.flag = flagWR → e.1 ∈ writeCmds := by decide +kernel
  apply not_raises (fun h => hcmd (hways _ h))
  intro item hmem hwr
  exact absurd (hwrite _ hmem hwr) hcmd

/-- The write requests that do nothing with the parameters: those without parameters, apart from
`0x0D`. -/
def quietCmds : List UInt8 := [0x0E, 0x10, 0x54, 0x88]

/-- The write requests by what they do with `g_device`. -/
theorem writeCmds_cases {c : UInt8} (h : c ∈ writeCmds) :
  (∃ item off, (c, item) ∈ registeredItems ∧ item.flag = flagWR ∧ windowCmd c
      ∧ item.value = some (.device off))
    ∨ c = 0x15 ∨ c = 0x0D ∨ c = 0x0F ∨ c = 0x04 ∨ c = 0x05 ∨ c ∈ quietCmds
  := by
  have hall : ∀ c ∈ writeCmds, (∃ e ∈ registeredItems, e.1 = c ∧ e.2.flag = flagWR ∧ windowCmd e.1)
      ∨ c = 0x15 ∨ c = 0x0D ∨ c = 0x0F ∨ c = 0x04 ∨ c = 0x05 ∨ c ∈ quietCmds := by
    decide +kernel
  obtain ⟨⟨c', item⟩, hmem, rfl, hwr, hwindow⟩ | hrest := hall c h
  · obtain ⟨off, hvalue, -⟩ := window_of_write hmem hwr hwindow
    exact .inl ⟨item, off, hmem, hwr, hwindow, hvalue⟩
  · exact .inr hrest

/-- A write request without parameters, apart from `0x0D`, leaves `setFlag` alone. -/
theorem process_quiet_setFlag (hreg : Registered r.gParamTable) (hcmd : buffer 2 ∈ quietCmds)
    (h : processParamTable o buffer length r = some reply) :
  reply.2.2.setFlag = r.setFlag
  := by
  have hall : ∀ e ∈ registeredItems, e.1 ∈ quietCmds → e.2.flag = flagWR
      ∧ ∀ f ∈ storingHandlers, e.2.function ≠ some f := by decide +kernel
  have hbare : ∀ c ∈ quietCmds, c ∈ bareCmds ∧ c ≠ 0x0D := by decide +kernel
  obtain ⟨-, -, hr⟩ | ⟨item, outcome, -, rfl, hmem, hmatch, hkind⟩ :=
    processParamTable_cases hreg h
  · rw [hr]
  · obtain ⟨hwr, hfun⟩ := hall _ hmem hcmd
    obtain ⟨hin, hreset⟩ := hbare _ hcmd
    have hstored : (storeRequest o (r.gParamTable.getparaindex (buffer 2)) buffer r).2.2.setFlag
        = r.setFlag := by
      unfold storeRequest
      dsimp only
      rw [if_pos hin, if_neg hreset]
    rw [pack]
    obtain ⟨-, hwrite⟩ | ⟨hrd, -⟩ | ⟨hothr, -⟩ := hkind
    · obtain ⟨-, rfl⟩ | ⟨called, -, hcall, rfl⟩ := writeRequest_cases hwrite
      · exact hstored
      · rw [storeRequest_function] at hcall
        have hbase := callFunction_base (fun f hf hstoring =>
          hfun f hstoring (hmatch.function.symm.trans hf)) hcall
        exact (congrArg (fun b => b.2.1) hbase).trans hstored
    · rw [hrd] at hwr
      exact absurd hwr (by decide)
    · rw [hothr] at hwr
      exact absurd hwr (by decide)

/-- The function of a write request for a window leaves `setFlag` alone. -/
theorem callFunction_window_setFlag {c : UInt8} {item : SParamItem} {b : Mem} {r : Reader}
    {called : Mem × Reader} (hmem : (c, item) ∈ registeredItems) (hwr : item.flag = flagWR)
    (hwindow : windowCmd c) (hcall : callFunction runHandler item.function b r = some called) :
  called.2.setFlag = r.setFlag
  := by
  have hall : ∀ e ∈ registeredItems, e.2.flag = flagWR → windowCmd e.1 →
      ∀ f ∈ storingHandlers, e.2.function ≠ some f := by decide
  have hbase := callFunction_base (fun f hf hstoring => hall _ hmem hwr hwindow f hstoring hf) hcall
  exact congrArg (fun b => b.2.1) hbase

/-- `setFlag` after a valid request. -/
theorem process_raises (hreg : Registered r.gParamTable)
    (hvalid : Valid o buffer length r.toGlobals)
    (h : processParamTable o buffer length r = some reply) :
  reply.2.2.setFlag = if Raises o buffer r then 1 else r.setFlag
  := by
  by_cases hwrite : buffer 2 ∈ writeCmds
  · obtain ⟨item, off, hmem, hwr, hwindow, hvalue⟩ | hfilter | hfactory | hmode | hpower
      | hfrequency | hquiet := writeCmds_cases hwrite
    · have hraises := raises_window_iff (o := o) (r := r) hmem hwr hwindow hvalue
      obtain ⟨hwrong, -, hr⟩ | ⟨-, hright, -, b, called, hcall, hreader⟩ :=
        process_window_cases hreg hmem hwr hwindow hvalue h
      · rw [if_neg, hr]
        rw [hraises]
        exact fun hboth => hwrong ⟨hvalid, hboth.1⟩
      · rw [hreader, callFunction_window_setFlag hmem hwr hwindow hcall]
        unfold Reader.storeWindow
        dsimp only
        by_cases hsame : comparedCmd (buffer 2)
            ∧ WindowSame r.gDevice off (buffer.shift (paraOff o)) item.length.toNat
        · rw [if_pos hsame, if_neg (fun hboth => (hraises.mp hboth).2 hsame)]
        · rw [if_neg hsame, if_pos (hraises.mpr ⟨hright, hsame⟩)]
    · have hraises : Raises o buffer r ↔ FilterRight o buffer ∧ buffer 1 ≠ emptyLen o + 4 := by
        simp [Raises, hfilter, no_window (show buffer 2 ∈ raisingCmds by rw [hfilter]; decide)]
      obtain ⟨reply', hrun, hcases⟩ := process_tagFilter hreg hvalid hfilter
      obtain rfl := Option.some.inj (hrun.symm.trans h)
      obtain ⟨hwrong, -, -, hset⟩ | ⟨hright, -, -, hset⟩ := hcases
      · rw [hset, if_neg (fun hboth => hwrong (hraises.mp hboth).1)]
      · rw [hset]
        by_cases hfour : buffer 1 = emptyLen o + 4
        · rw [if_pos hfour, if_neg (fun hboth => (hraises.mp hboth).2 hfour)]
        · rw [if_neg hfour, if_pos (hraises.mpr ⟨hright, hfour⟩)]
    · obtain ⟨reply', hrun, hset, -⟩ := process_factory hreg hvalid hfactory
      obtain rfl := Option.some.inj (hrun.symm.trans h)
      rw [hset, if_pos (.inr (.inl hfactory))]
    · rw [(process_workType hreg hmode h).1, if_neg]
      apply not_raises (by rw [hmode]; decide)
      rw [hmode]
      exact fun _ _ _ => by decide
    · have hraises : Raises o buffer r
          ↔ PowerConfirmed (buffer.shift (paraOff o)) r.toGlobals := by
        simp [Raises, hpower, no_window (show buffer 2 ∈ raisingCmds by rw [hpower]; decide)]
      obtain ⟨hinvalid, -⟩ | ⟨-, -, ⟨hconfirmed, hset⟩ | ⟨hrefused, -, hset⟩⟩ :=
        process_power hreg hpower h
      · exact absurd hvalid hinvalid
      · rw [hset, if_pos (hraises.mpr hconfirmed)]
      · rw [hset, if_neg (fun hboth => (hraises.mp hboth).not_refused hrefused)]
    · obtain ⟨hinvalid, -⟩ | ⟨-, -, hset⟩ := process_frequency hreg hfrequency h
      · exact absurd hvalid hinvalid
      · rw [hset, if_pos (.inl hfrequency)]
    · rw [process_quiet_setFlag hreg hquiet h, if_neg]
      have hall : ∀ c ∈ quietCmds, c ∉ raisingCmds ∧ ¬ windowCmd c := by decide +kernel
      apply not_raises (hall _ hquiet).1
      exact fun _ _ _ => (hall _ hquiet).2
  · rw [(processParamTable_of_not_write hreg hwrite h).1, if_neg (not_raises_of_not_write hwrite)]

/-- `setFlag` after a request. -/
theorem process_setFlag (hreg : Registered r.gParamTable)
    (h : processParamTable o buffer length r = some reply) :
  reply.2.2.setFlag
    = if Valid o buffer length r.toGlobals ∧ Raises o buffer r then 1 else r.setFlag
  := by
  by_cases hvalid : Valid o buffer length r.toGlobals
  · simp only [hvalid, true_and]
    exact process_raises hreg hvalid h
  · obtain ⟨-, -, hr⟩ | ⟨item, outcome, hval, -⟩ := processParamTable_cases hreg h
    · rw [if_neg (fun hboth => hvalid hboth.1), hr]
    · exact absurd hval hvalid

/-! ### Bytes that are stored -/

/-- A valid request stores the byte `v` at the place `i` of `g_device`. -/
inductive Stores (o : CmdOrigin) (buffer : Mem) (r : Reader) : ℕ → UInt8 → Prop where
  /-- `0x86` leaves another byte at the start of its window -/
  | window {item : SParamItem} {off k : ℕ} (hmem : (buffer 2, item) ∈ registeredItems)
    (hwr : item.flag = flagWR) (hwindow : windowCmd (buffer 2))
    (hvalue : item.value = some (.device off)) (hright : WindowRight o buffer item)
    (hk : k < item.length.toNat) (hlast : ¬ (buffer 2 = 0x86 ∧ k = 0)) :
    Stores o buffer r (off + k) (buffer (paraOff o + k))
  | setBaudRate {item : SParamItem} (hcmd : buffer 2 = 0x01)
    (hmem : (buffer 2, item) ∈ registeredItems) (hright : WindowRight o buffer item) :
    Stores o buffer r Offset.sysConnectParaChange
      (r.gDevice.load Offset.sysConnectParaChange ||| 0x01)
  | setFrequency1 {item : SParamItem} (hcmd : buffer 2 = 0x86)
    (hmem : (buffer 2, item) ∈ registeredItems) (hright : WindowRight o buffer item) :
    Stores o buffer r Offset.freqSelect (r.gDevice.load Offset.frequencyMin)
  | setTagFilter {k : ℕ} (hcmd : buffer 2 = 0x15) (hright : FilterRight o buffer)
    (hk : k < (buffer 1 - emptyLen o).toNat) :
    Stores o buffer r (Offset.tagfilter + k) (filterSource o buffer k)
  | setReaderWorkType (hcmd : buffer 2 = 0x0F) (hright : WorkTypeRight o buffer) :
    Stores o buffer r Offset.readerWorkStatus (modeAsked (buffer (paraOff o)))
  /-- whether the R2000 confirms the power or not -/
  | setOutputPower (hcmd : buffer 2 = 0x04) :
    Stores o buffer r Offset.outputPower (clampPower (buffer (paraOff o)))
  | setFrequency {i : ℕ} (hcmd : buffer 2 = 0x05) (hi : Handler.setFrequency.touches i = true) :
    Stores o buffer r i ((frequencyStored (buffer.shift (paraOff o)) r.gDevice).load i)
  | readerTime {k : ℕ} (hcmd : buffer 2 = 0x12 ∨ buffer 2 = 0x57)
    (hlen : readLen buffer = emptyLen o) (hk : k < 6) :
    Stores o buffer r (Offset.readerTime + k) ((getTime r.ds1302).getD k 0)
  /-- a header that comes over the last bytes of `g_device` -/
  | getTagRecord {x j : ℕ} (hcmd : buffer 2 = 0x57) (hlen : readLen buffer = emptyLen o)
    (hx : x < 16) (hlast : r.LastOver r.recordRounds x j) :
    Stores o buffer r (194 + x) (r.recordsHeader.getD (x - (r.recordPlace j).toNat) 0)
  | getReaderRevStatus (hcmd : buffer 2 = 0x41) (hlen : readLen buffer = emptyLen o) :
    Stores o buffer r Offset.readerRevStatus r.pinTriggle

/-- The byte `i` of `g_device` is one of those that the parameters of a write request are for. -/
def Globals.given (g : Globals) (o : CmdOrigin) (buffer : Mem) (i : ℕ) : Bool :=
  (g.entry buffer).deviceOff.any fun off => off ≤ i ∧ i < off + if buffer 2 = 0x15 then
    (buffer 1 - emptyLen o).toNat else (g.entry buffer).length.toNat

/-- A request stores the byte `i` of `g_device`, or leaves it alone, and then it was not to be
written. -/
def StoredOrKept (o : CmdOrigin) (buffer : Mem) (length : ℕ) (r : Reader)
    (reply : UInt8 × Mem × Reader) (i : ℕ) : Prop :=
  (Valid o buffer length r.toGlobals ∧ Stores o buffer r i (reply.2.2.gDevice.load i))
    ∨ (reply.2.2.gDevice.load i = r.gDevice.load i
      ∧ (reply.1 = cmdoorCheckOk → buffer 2 ∈ writeCmds → r.toGlobals.given o buffer i = false))

/-- A request that is refused leaves the byte alone. -/
theorem StoredOrKept.of_refused {i : ℕ} (herror : reply.1 ≠ cmdoorCheckOk)
    (hr : reply.2.2.gDevice = r.gDevice) :
  StoredOrKept o buffer length r reply i
  := by
  right
  rw [hr]
  exact ⟨rfl, fun hok => absurd hok herror⟩

/-- The bytes that the parameters of a command other than `0x15` are for. -/
theorem given_iff (hreg : Registered r.gParamTable) {item : SParamItem} {off i : ℕ}
    (hmem : (buffer 2, item) ∈ registeredItems) (hcmd : ¬ IsTagFilterCmd (buffer 2))
    (hvalue : item.value = some (.device off)) :
  r.toGlobals.given o buffer i = true ↔ off ≤ i ∧ i < off + item.length.toNat
  := by
  have hmatch := hreg.entry hmem rfl
  have hfilter : buffer 2 ≠ 0x15 := fun h => hcmd (.inl h)
  rw [Globals.given, SParamItem.deviceOff, hmatch.value, hvalue, hmatch.length hcmd,
    if_neg hfilter, Option.any_some, decide_eq_true_iff]

/-! ### Write requests -/

/-- A byte that a write request for a window leaves as its copy has it. -/
theorem storedOrKept_copy (hreg : Registered r.gParamTable)
    (hvalid : Valid o buffer length r.toGlobals) {item : SParamItem} {off i : ℕ}
    (hmem : (buffer 2, item) ∈ registeredItems) (hwr : item.flag = flagWR)
    (hwindow : windowCmd (buffer 2)) (hvalue : item.value = some (.device off))
    (hright : WindowRight o buffer item) (hi : i < 210) (hlast : ¬ (buffer 2 = 0x86 ∧ i = off))
    (hcopy : reply.2.2.gDevice.load i
      = (r.gDevice.copy off (buffer.shift (paraOff o)) item.length.toNat).load i) :
  StoredOrKept o buffer length r reply i
  := by
  have hother : ¬ IsTagFilterCmd (buffer 2) := not_tagFilter_of_write hmem hwr hwindow.2.1
  unfold StoredOrKept
  rw [hcopy]
  by_cases hinside : off ≤ i ∧ i < off + item.length.toNat
  · left
    refine ⟨hvalid, ?_⟩
    obtain ⟨k, rfl⟩ := Nat.exists_eq_add_of_le hinside.1
    have hk : k < item.length.toNat := by omega
    rw [Block.load_copy_inside hk hi, Mem.shift_apply]
    apply Stores.window hmem hwr hwindow hvalue hright hk
    rintro ⟨hcmd, rfl⟩
    exact hlast ⟨hcmd, rfl⟩
  · right
    refine ⟨Block.load_copy_outside (by omega), fun _ _ => ?_⟩
    rw [← Bool.not_eq_true, given_iff hreg hmem hother hvalue]
    exact hinside

/-- What a write request for a window leaves of `g_device`. -/
theorem storedOrKept_window (hreg : Registered r.gParamTable)
    (h : processParamTable o buffer length r = some reply) {item : SParamItem} {off i : ℕ}
    (hmem : (buffer 2, item) ∈ registeredItems) (hwr : item.flag = flagWR)
    (hwindow : windowCmd (buffer 2)) (hvalue : item.value = some (.device off)) (hi : i < 210) :
  StoredOrKept o buffer length r reply i
  := by
  have hall : ∀ e ∈ registeredItems, e.2.flag = flagWR → windowCmd e.1 →
      (∀ f ∈ settingHandlers, e.2.function ≠ some f)
        ∨ (e.1 = 0x01 ∧ e.2 = ⟨some (.device Offset.baudRate), flagWR, 1, some .setBaudRate⟩)
        ∨ (e.1 = 0x86
          ∧ e.2 = ⟨some (.device Offset.freqSelect), flagWR, 6, some .setFrequency1⟩) := by decide
  obtain ⟨-, herror, hr⟩ | ⟨hvalid, hright, -, b, called, hcall, hreader⟩ :=
    process_window_cases hreg hmem hwr hwindow hvalue h
  · exact .of_refused herror (by rw [hr])
  · have hcopied : ¬ (buffer 2 = 0x86 ∧ i = off) → reply.2.2.gDevice.load i
        = (r.gDevice.copy off (buffer.shift (paraOff o)) item.length.toNat).load i →
        StoredOrKept o buffer length r reply i :=
      storedOrKept_copy hreg hvalid hmem hwr hwindow hvalue hright hi
    obtain hplain | ⟨hcmd, hitem⟩ | ⟨hcmd, hitem⟩ := hall _ hmem hwr hwindow
    · have hkept := callFunction_settings (fun f hf hset => hplain f hset hf) hcall
      have hdevice : called.2.gDevice = _ := congrArg Settings.gDevice hkept
      apply hcopied
      · rintro ⟨hfrequency, -⟩
        have hfun : item.function = some .setFrequency1 := by
          have hone : ∀ e ∈ registeredItems, e.1 = 0x86 → e.2.function = some .setFrequency1 := by
            decide
          exact hone _ hmem hfrequency
        exact hplain _ (by decide) hfun
      · rw [hreader, hdevice]
        rfl
    · dsimp only at hcmd hitem
      obtain ⟨hnone, -⟩ | ⟨f, p, g, hf, hrun, rfl⟩ := callFunction_cases hcall
      · rw [hitem] at hnone
        cases hnone
      · rw [hitem] at hf hvalue
        cases hf
        cases hvalue
        cases hrun
        by_cases hlast : i = Offset.sysConnectParaChange
        · left
          refine ⟨hvalid, ?_⟩
          rw [hreader, hlast]
          dsimp only
          rw [Block.load_put_eq _ (by decide), Reader.storeWindow]
          dsimp only
          rw [Block.load_copy_outside (by rw [hitem]; decide)]
          exact .setBaudRate hcmd hmem hright
        · apply hcopied
          · rintro ⟨hfrequency, -⟩
            rw [hcmd] at hfrequency
            exact absurd hfrequency (by decide)
          · rw [hreader]
            dsimp only
            rw [Block.load_put (by decide), if_neg hlast]
            rfl
    · dsimp only at hcmd hitem
      obtain ⟨hnone, -⟩ | ⟨f, p, g, hf, hrun, rfl⟩ := callFunction_cases hcall
      · rw [hitem] at hnone
        cases hnone
      · rw [hitem] at hf hvalue
        cases hf
        cases hvalue
        have hdevice : g.gDevice = _ := congrArg Settings.gDevice (setFrequency1_settings hrun)
        by_cases hfirst : i = Offset.freqSelect
        · left
          refine ⟨hvalid, ?_⟩
          rw [hreader, hfirst]
          dsimp only
          rw [hdevice, Block.load_put_eq _ (by decide), Reader.storeWindow]
          dsimp only
          rw [Block.load_copy_outside (by rw [hitem]; decide)]
          exact .setFrequency1 hcmd hmem hright
        · apply hcopied
          · exact fun hboth => hfirst hboth.2
          · rw [hreader]
            dsimp only
            rw [hdevice, Block.load_put (by decide), if_neg hfirst]
            rfl

/-- What `0x15` leaves of `g_device`. -/
theorem storedOrKept_tagFilter (hreg : Registered r.gParamTable)
    (h : processParamTable o buffer length r = some reply) (hcmd : buffer 2 = 0x15) {i : ℕ}
    (hi : i < 210) :
  StoredOrKept o buffer length r reply i
  := by
  have hmem : (buffer 2,
      (⟨some (.device Offset.tagfilter), flagWR, 35, some .setTagFilter⟩ : SParamItem))
      ∈ registeredItems := by
    rw [hcmd]
    decide
  obtain ⟨-, herror, hr⟩ | ⟨item, outcome, hvalid, -⟩ := processParamTable_cases hreg h
  · exact .of_refused herror (by rw [hr])
  · obtain ⟨reply', hrun, hcases⟩ := process_tagFilter hreg hvalid hcmd
    obtain rfl := Option.some.inj (hrun.symm.trans h)
    obtain ⟨-, herror, hsame, -⟩ | ⟨hright, -, hdevice, -⟩ := hcases
    · exact .of_refused herror hsame
    · unfold StoredOrKept
      rw [hdevice]
      by_cases hinside : Offset.tagfilter ≤ i
          ∧ i < Offset.tagfilter + (buffer 1 - emptyLen o).toNat
      · left
        refine ⟨hvalid, ?_⟩
        obtain ⟨k, rfl⟩ := Nat.exists_eq_add_of_le hinside.1
        have hk : k < (buffer 1 - emptyLen o).toNat := by omega
        rw [Block.load_copy_inside hk hi]
        exact .setTagFilter hcmd hright hk
      · right
        refine ⟨Block.load_copy_outside (by omega), fun _ _ => ?_⟩
        have hmatch := hreg.entry hmem rfl
        rw [← Bool.not_eq_true, Globals.given, SParamItem.deviceOff, hmatch.value, if_pos hcmd,
          Option.any_some, decide_eq_true_iff]
        exact hinside

/-- What a request leaves that stores one byte of `g_device`. -/
theorem storedOrKept_put (hreg : Registered r.gParamTable)
    (hvalid : Valid o buffer length r.toGlobals) {item : SParamItem} {off i : ℕ} {v : UInt8}
    (hmem : (buffer 2, item) ∈ registeredItems) (hfilter : ¬ IsTagFilterCmd (buffer 2))
    (hvalue : item.value = some (.device off)) (hone : item.length = 1) (hoff : off < 210)
    (hstores : Stores o buffer r off v) (hput : reply.2.2.gDevice = r.gDevice.put off v) :
  StoredOrKept o buffer length r reply i
  := by
  unfold StoredOrKept
  rw [hput, Block.load_put hoff]
  split
  · rename_i heq
    rw [heq]
    exact .inl ⟨hvalid, hstores⟩
  · rename_i hne
    refine .inr ⟨rfl, fun _ _ => ?_⟩
    rw [← Bool.not_eq_true, given_iff hreg hmem hfilter hvalue, hone]
    simp only [UInt8.reduceToNat]
    omega

/-- What `0x0F` leaves of `g_device`. -/
theorem storedOrKept_workType (hreg : Registered r.gParamTable)
    (h : processParamTable o buffer length r = some reply) (hcmd : buffer 2 = 0x0F) (i : ℕ) :
  StoredOrKept o buffer length r reply i
  := by
  have hmem : (buffer 2, (⟨some (.device Offset.readerWorkStatus), flagWR, 1,
      some .setReaderWorkType⟩ : SParamItem)) ∈ registeredItems := by
    rw [hcmd]
    decide
  obtain ⟨-, herror, hsame⟩ | ⟨hvalid, hright, hput⟩ := (process_workType hreg hcmd h).2
  · exact .of_refused herror hsame
  · exact storedOrKept_put hreg hvalid hmem (by rw [hcmd]; decide) rfl rfl (by decide)
      (.setReaderWorkType hcmd hright) hput

/-- What `0x04` leaves of `g_device`. -/
theorem storedOrKept_power (hreg : Registered r.gParamTable)
    (h : processParamTable o buffer length r = some reply) (hcmd : buffer 2 = 0x04) (i : ℕ) :
  StoredOrKept o buffer length r reply i
  := by
  have hmem : (buffer 2,
      (⟨some (.device Offset.outputPower), flagOTHR, 1, some .setOutputPower⟩ : SParamItem))
      ∈ registeredItems := by
    rw [hcmd]
    decide
  obtain ⟨-, herror, hr⟩ | ⟨item, outcome, hval, -⟩ := processParamTable_cases hreg h
  · exact .of_refused herror (by rw [hr])
  · obtain ⟨hinvalid, -⟩ | ⟨hvalid, hput, -⟩ := process_power hreg hcmd h
    · exact absurd hval hinvalid
    · exact storedOrKept_put hreg hvalid hmem (by rw [hcmd]; decide) rfl rfl (by decide)
        (.setOutputPower hcmd) hput

/-- What `SetFrequency` does not touch, it does not change. -/
theorem frequencyStored_untouched (p : Mem) (d : SDevice) {i : ℕ}
    (hi : Handler.setFrequency.touches i = false) :
  (frequencyStored p d).load i = d.load i
  := by
  have hout := of_decide_eq_false hi
  simp only [not_or] at hout
  obtain ⟨hfreq, hmin, hmax⟩ := hout
  unfold frequencyStored
  dsimp only
  split
  · rw [Block.load_put (by decide), if_neg hmin, Block.load_put (by decide), if_neg hmax]
    apply Block.load_copy_outside
    omega
  · apply Block.load_copy_outside
    omega

/-- What `0x05` leaves of `g_device`. -/
theorem storedOrKept_frequency (hreg : Registered r.gParamTable)
    (h : processParamTable o buffer length r = some reply) (hcmd : buffer 2 = 0x05) (i : ℕ) :
  StoredOrKept o buffer length r reply i
  := by
  have hmem : (buffer 2,
      (⟨some (.device Offset.frequencyMin), flagOTHR, 2, some .setFrequency⟩ : SParamItem))
      ∈ registeredItems := by
    rw [hcmd]
    decide
  obtain ⟨-, herror, hr⟩ | ⟨item, outcome, hval, -⟩ := processParamTable_cases hreg h
  · exact .of_refused herror (by rw [hr])
  · obtain ⟨hinvalid, -⟩ | ⟨hvalid, hdevice, -⟩ := process_frequency hreg hcmd h
    · exact absurd hval hinvalid
    · unfold StoredOrKept
      rw [hdevice]
      cases hi : Handler.setFrequency.touches i with
      | true => exact .inl ⟨hvalid, .setFrequency hcmd hi⟩
      | false =>
        refine .inr ⟨frequencyStored_untouched _ _ hi, fun _ _ => ?_⟩
        rw [← Bool.not_eq_true, given_iff hreg hmem (by rw [hcmd]; decide) rfl]
        have hout := of_decide_eq_false hi
        simp only [Offset.frequencyMin, Offset.frequencyMax, UInt8.reduceToNat] at hout ⊢
        omega

/-! ### Read requests -/

/-- What a read request leaves of `g_device`, apart from `0x06`: it is refused, or what its function
leaves. -/
theorem process_read (hreg : Registered r.gParamTable)
    (h : processParamTable o buffer length r = some reply) {item : SParamItem} {f : Handler}
    (hmem : (buffer 2, item) ∈ registeredItems) (hrd : item.flag = flagRD)
    (hf : item.function = some f) (hcmd : buffer 2 ≠ 0x06) :
  reply.2.2.gDevice = r.gDevice
    ∨ ∃ b p p' g, Valid o buffer length r.toGlobals ∧ readLen buffer = emptyLen o
      ∧ f.run b p r.toGlobals = some (p', g) ∧ reply.2.2.gDevice = g.gDevice
  := by
  obtain ⟨-, -, hr⟩ | ⟨item', outcome, hvalid, rfl, hmem', hmatch, hkind⟩ :=
    processParamTable_cases hreg h
  · exact .inl (by rw [hr])
  · obtain rfl := Registered.item_unique hmem hmem'
    obtain ⟨hwr, -⟩ | ⟨-, hread⟩ | ⟨hothr, -⟩ := hkind
    · rw [hwr] at hrd
      exact absurd hrd (by decide)
    · obtain ⟨-, rfl⟩ | ⟨called, hlen, hcall, rfl⟩ := readRequest_cases hread
      · exact .inl rfl
      · right
        have hfun : (r.gParamTable.table (r.gParamTable.getparaindex (buffer 2))).function
            = some f := hmatch.function.trans hf
        rw [hfun] at hcall
        have hkeep : called.1 2 ≠ 0x06 := by
          rwa [callFunction_below (by decide) hcall]
        rw [pack]
        dsimp only
        rw [finishRead_untouched hkeep]
        obtain ⟨hnone, -⟩ | ⟨f', p', g, hf', hrun, rfl⟩ := callFunction_cases hcall
        · cases hnone
        · cases hf'
          exact ⟨_, _, p', g, hvalid, hlen, hrun, rfl⟩
    · rw [hothr] at hrd
      exact absurd hrd (by decide)

/-- The bytes of the clock, as `0x12` and `0x57` leave them. -/
theorem storedOrKept_clock {i : ℕ} (hvalid : Valid o buffer length r.toGlobals)
    (hcmd : buffer 2 = 0x12 ∨ buffer 2 = 0x57) (hlen : readLen buffer = emptyLen o) (hi : i < 210)
    (hclock : reply.2.2.gDevice.load i = r.readClock.gDevice.load i) :
  StoredOrKept o buffer length r reply i
  := by
  unfold StoredOrKept
  rw [hclock]
  by_cases htime : Offset.readerTime ≤ i ∧ i < Offset.readerTime + 6
  · left
    refine ⟨hvalid, ?_⟩
    obtain ⟨k, rfl⟩ := Nat.exists_eq_add_of_le htime.1
    have hk : k < 6 := by omega
    rw [Globals.readClock]
    dsimp only
    rw [Block.load_copy_inside hk hi]
    exact .readerTime hcmd hlen hk
  · right
    refine ⟨readClock_untouched _ htime, ?_⟩
    have hread : (0x12 : UInt8) ∉ writeCmds ∧ (0x57 : UInt8) ∉ writeCmds := by decide
    intro _ hwrite
    obtain hcmd | hcmd := hcmd
    · exact absurd (hcmd ▸ hwrite) hread.1
    · exact absurd (hcmd ▸ hwrite) hread.2

/-- What `0x12` leaves of `g_device`. -/
theorem storedOrKept_readerTime (hreg : Registered r.gParamTable)
    (h : processParamTable o buffer length r = some reply) (hcmd : buffer 2 = 0x12) {i : ℕ}
    (hi : i < 210) :
  StoredOrKept o buffer length r reply i
  := by
  have hmem : (buffer 2,
      (⟨some (.device Offset.readerTime), flagRD, 6, some .getReaderTime⟩ : SParamItem))
      ∈ registeredItems := by
    rw [hcmd]
    decide
  obtain hr | ⟨b, p, p', g, hvalid, hlen, hrun, hdevice⟩ :=
    process_read hreg h hmem rfl rfl (by rw [hcmd]; decide)
  · refine .inr ⟨by rw [hr], fun _ hwrite => ?_⟩
    rw [hcmd] at hwrite
    exact absurd hwrite (by decide)
  · cases hrun
    exact storedOrKept_clock hvalid (.inl hcmd) hlen hi (by rw [hdevice])

/-- What `0x57` leaves of `g_device`. -/
theorem storedOrKept_record (hreg : Registered r.gParamTable)
    (h : processParamTable o buffer length r = some reply) (hcmd : buffer 2 = 0x57) {i : ℕ}
    (hi : i < 210) :
  StoredOrKept o buffer length r reply i
  := by
  have hnot : buffer 2 ∉ writeCmds := by
    rw [hcmd]
    decide
  have hmem : (buffer 2, (⟨some .cmdTmpBuf, flagRD, 5, some .getTagRecord⟩ : SParamItem))
      ∈ registeredItems := by
    rw [hcmd]
    decide
  obtain hr | ⟨b, p, p', g, hvalid, hlen, hrun, hdevice⟩ :=
    process_read hreg h hmem rfl rfl (by rw [hcmd]; decide)
  · exact .inr ⟨by rw [hr], fun _ hwrite => absurd hwrite hnot⟩
  · cases hrun
    obtain ⟨s, hs, -, hrecorded⟩ := tagRecord_recorded r.toGlobals
    rw [hrecorded] at hdevice
    by_cases hbelow : i < 194
    · apply storedOrKept_clock hvalid (.inr hcmd) hlen hi
      rw [hdevice]
      exact hs.below i hbelow
    · obtain ⟨x, rfl⟩ := Nat.exists_eq_add_of_le (Nat.not_lt.mp hbelow)
      unfold StoredOrKept
      rw [hdevice]
      obtain ⟨j, hj, hload⟩ | ⟨-, hload⟩ := hs.above x (by omega)
      · rw [hload]
        exact .inl ⟨hvalid, .getTagRecord hcmd hlen (by omega) hj⟩
      · exact .inr ⟨hload, fun _ hwrite => absurd hwrite hnot⟩

/-- What `0x41` leaves of `g_device`. -/
theorem storedOrKept_revStatus (hreg : Registered r.gParamTable)
    (h : processParamTable o buffer length r = some reply) (hcmd : buffer 2 = 0x41) (i : ℕ) :
  StoredOrKept o buffer length r reply i
  := by
  have hmem : (buffer 2,
      (⟨some (.device Offset.readerRevStatus), flagRD, 1, some .getReaderRevStatus⟩ : SParamItem))
      ∈ registeredItems := by
    rw [hcmd]
    decide
  obtain hr | ⟨b, p, p', g, hvalid, hlen, hrun, hdevice⟩ :=
    process_read hreg h hmem rfl rfl (by rw [hcmd]; decide)
  · refine .inr ⟨by rw [hr], fun _ hwrite => ?_⟩
    rw [hcmd] at hwrite
    exact absurd hwrite (by decide)
  · cases hrun
    exact storedOrKept_put hreg hvalid hmem (by rw [hcmd]; decide) rfl rfl (by decide)
      (.getReaderRevStatus hcmd hlen) hdevice

/-! ### Every request -/

/-- The commands that are not write requests for a window and change `g_device`. -/
def storingCmds : List UInt8 := [0x04, 0x05, 0x06, 0x0D, 0x0F, 0x12, 0x15, 0x41, 0x57]

/-- A command that stores anything is a write request for a window, or one of `storingCmds`. -/
theorem Stores.cmd {i : ℕ} {v : UInt8} (h : Stores o buffer r i v) :
  windowCmd (buffer 2) ∨ buffer 2 ∈ storingCmds
  := by
  have hwindow : windowCmd 0x01 ∧ windowCmd 0x86 := by decide
  cases h with
  | window _ _ hwindow => exact .inl hwindow
  | setBaudRate hcmd => exact .inl (hcmd ▸ hwindow.1)
  | setFrequency1 hcmd => exact .inl (hcmd ▸ hwindow.2)
  | setTagFilter hcmd | setReaderWorkType hcmd | setOutputPower hcmd | setFrequency hcmd
  | getTagRecord hcmd | getReaderRevStatus hcmd =>
    right
    rw [hcmd]
    decide
  | readerTime hcmd =>
    right
    obtain hcmd | hcmd := hcmd
    · rw [hcmd]
      decide
    · rw [hcmd]
      decide

/-- `0x0F` stores `ReaderWorkStatus` only. -/
theorem Stores.workType {i : ℕ} {v : UInt8} (h : Stores o buffer r i v) (hcmd : buffer 2 = 0x0F) :
  i = Offset.readerWorkStatus
  := by
  cases h with
  | window _ _ hwindow =>
    rw [hcmd] at hwindow
    exact absurd hwindow (by decide)
  | setReaderWorkType => rfl
  | setBaudRate hother | setFrequency1 hother | setTagFilter hother | setOutputPower hother
  | setFrequency hother | getTagRecord hother | getReaderRevStatus hother =>
    rw [hcmd] at hother
    exact absurd hother (by decide)
  | readerTime hother =>
    rw [hcmd] at hother
    exact absurd hother (by decide)

/-- A command that is neither a write request for a window nor one of `storingCmds` has an entry
that touches nothing. -/
theorem untouched_plain {c : UInt8} {item : SParamItem} (hmem : (c, item) ∈ registeredItems)
    (hcmd : c ∉ storingCmds) (hwindow : ¬ (item.flag = flagWR ∧ windowCmd c)) (i : ℕ) :
  (item.flag = flagWR → item.deviceOff = none) ∧ item.touches i = false
  := by
  have hall : ∀ e ∈ registeredItems, e.1 ∉ storingCmds → ¬ (e.2.flag = flagWR ∧ windowCmd e.1) →
      (e.2.flag = flagWR → e.2.deviceOff = none)
        ∧ ∀ f ∈ settingHandlers, e.2.function ≠ some f := by decide
  obtain ⟨hvalue, hfun⟩ := hall _ hmem hcmd hwindow
  dsimp only at hvalue hfun
  refine ⟨hvalue, ?_⟩
  apply decide_eq_false
  rintro (⟨hwr, hcovers⟩ | hany)
  · have hnone := hvalue hwr
    unfold SParamItem.covers at hcovers
    split at hcovers
    · rename_i off heq
      rw [SParamItem.deviceOff, heq] at hnone
      cases hnone
    · cases hcovers
  · obtain ⟨f, hf, htouches⟩ := (Option.any_eq_true _ _).mp hany
    have hplain : f ∉ settingHandlers := fun hset => hfun f hset hf
    cases f
    case setBaudRate | setOutputPower | setFrequency | setFrequency1 | readParam | readReaderPara
        | setReaderWorkType | getReaderTime | getReaderRevStatus | getTagRecord =>
      exact absurd (by decide) hplain
    all_goals cases htouches

/-- A valid request stores each byte of `g_device` or leaves it alone. -/
theorem process_stores (hreg : Registered r.gParamTable)
    (h : processParamTable o buffer length r = some reply) (hload : buffer 2 ≠ 0x06)
    (hreset : buffer 2 ≠ 0x0D) {i : ℕ} (hi : i < 210) :
  StoredOrKept o buffer length r reply i
  := by
  by_cases hwindow : ∃ item, (buffer 2, item) ∈ registeredItems ∧ item.flag = flagWR
      ∧ windowCmd (buffer 2)
  · obtain ⟨item, hmem, hwr, hcmd⟩ := hwindow
    obtain ⟨off, hvalue, -⟩ := window_of_write hmem hwr hcmd
    exact storedOrKept_window hreg h hmem hwr hcmd hvalue hi
  by_cases hcmd : buffer 2 ∈ storingCmds
  · simp only [storingCmds, List.mem_cons, List.not_mem_nil, or_false] at hcmd
    obtain hcmd | hcmd | hcmd | hcmd | hcmd | hcmd | hcmd | hcmd | hcmd := hcmd
    · exact storedOrKept_power hreg h hcmd i
    · exact storedOrKept_frequency hreg h hcmd i
    · exact absurd hcmd hload
    · exact absurd hcmd hreset
    · exact storedOrKept_workType hreg h hcmd i
    · exact storedOrKept_readerTime hreg h hcmd hi
    · exact storedOrKept_tagFilter hreg h hcmd hi
    · exact storedOrKept_revStatus hreg h hcmd i
    · exact storedOrKept_record hreg h hcmd hi
  · have hplain : ∀ item, (buffer 2, item) ∈ registeredItems →
        (item.flag = flagWR → item.deviceOff = none) ∧ item.touches i = false := by
      intro item hmem
      exact untouched_plain hmem hcmd (fun hboth => hwindow ⟨item, hmem, hboth⟩) i
    right
    constructor
    · apply processParamTable_untouched hreg h
      · intro hfilter
        apply hcmd
        rw [hfilter]
        decide
      · exact fun item hmem => (hplain item hmem).2
    · intro hok hwrite
      obtain ⟨-, herror, -⟩ | ⟨item, outcome, -, -, hmem, hmatch, -⟩ :=
        processParamTable_cases hreg h
      · exact absurd hok herror
      · have hall : ∀ e ∈ registeredItems, e.1 ∈ writeCmds → e.1 ∉ storingCmds →
            e.2.flag = flagWR := by decide
        have hnone := (hplain item hmem).1 (hall _ hmem hwrite hcmd)
        have hvalue : (r.toGlobals.entry buffer).deviceOff = none := by
          rw [SParamItem.deviceOff, hmatch.value]
          exact hnone
        rw [Globals.given, hvalue, Option.any_none]

end UhfReader
