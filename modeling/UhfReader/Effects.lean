import UhfReader.Windows

/-!
# What a request can change

`Handler.touches` lists the bytes of `g_device` that a function of the table can change, and
`SParamItem.touches` adds the window of a write request.  A request leaves every other byte as
it is.  The exception is `0x15`, whose window is as long as the request says.

The specifications of the requests with a form of their own follow: `0x15`, `0x0D`, `0x0F`, `0x04`,
`0x05` and `0x06`.
-/

open Memory Stateful

namespace UhfReader

variable {o : CmdOrigin} {buffer : Mem} {length : ℕ} {r : Reader}

/-! ### Footprints -/

/-- The byte `i` of the value of a table entry. -/
def SParamItem.covers (item : SParamItem) (i : ℕ) : Bool :=
  match item.value with
  | some (.device off) => off ≤ i ∧ i < off + item.length.toNat
  | _ => false

/-- The byte `i` of `g_device` changes between two states. -/
def changes (r r' : Reader) (i : ℕ) : Bool := r.gDevice.load i ≠ r'.gDevice.load i

theorem changes_iff (r r' : Reader) (i : ℕ) :
  changes r r' i = true ↔ r'.gDevice.load i ≠ r.gDevice.load i
  := by
  rw [changes, decide_eq_true_iff]
  exact ne_comm

/-- The bytes of `g_device` that a function can change. -/
def Handler.touches (h : Handler) (i : ℕ) : Bool :=
  match h with
  | .setBaudRate => i = Offset.sysConnectParaChange
  | .setOutputPower => i = Offset.outputPower
  | .setFrequency =>
    (Offset.freqSelect ≤ i ∧ i < Offset.freqSelect + 6) ∨ i = Offset.frequencyMin
      ∨ i = Offset.frequencyMax
  | .setFrequency1 => i = Offset.freqSelect
  | .readParam | .readReaderPara => true
  | .setReaderWorkType => i = Offset.readerWorkStatus
  | .getReaderTime => Offset.readerTime ≤ i ∧ i < Offset.readerTime + 6
  | .getTagRecord => (Offset.readerTime ≤ i ∧ i < Offset.readerTime + 6) ∨ 194 ≤ i
  | .getReaderRevStatus => i = Offset.readerRevStatus
  | _ => false

/-- What a function does not touch, it does not change. -/
theorem run_untouched {before : UInt8} {p p' : Mem} {h : Handler} {g g' : Globals} {i : ℕ}
    (hrun : h.run before p g = some (p', g')) (hi : h.touches i = false) :
  g'.gDevice.load i = g.gDevice.load i
  := by
  by_cases hset : h ∈ settingHandlers
  · cases h
    case setBaudRate =>
      cases hrun
      exact (Block.load_put (by decide)).trans (if_neg (of_decide_eq_false hi))
    case setOutputPower =>
      have hput : (powerStored p g).gDevice.load i = g.gDevice.load i :=
        (Block.load_put (by decide)).trans (if_neg (of_decide_eq_false hi))
      obtain ⟨-, -, hafter⟩ | ⟨-, -, hafter⟩ := setOutputPower_cases hrun
      · exact (congrArg (fun s : Settings => s.gDevice.load i) hafter).trans hput
      · exact (congrArg (fun s : Settings => s.gDevice.load i) hafter).trans hput
    case setFrequency =>
      have hout := of_decide_eq_false hi
      simp only [not_or] at hout
      obtain ⟨hfreq, hmin, hmax⟩ := hout
      cases hrun
      dsimp only
      split
      · rw [Block.load_put (by decide), if_neg hmin, Block.load_put (by decide), if_neg hmax]
        apply Block.load_copy_outside
        omega
      · apply Block.load_copy_outside
        omega
    case setFrequency1 =>
      have hafter := setFrequency1_settings hrun
      refine (congrArg (fun s : Settings => s.gDevice.load i) hafter).trans ?_
      exact (Block.load_put (by decide)).trans (if_neg (of_decide_eq_false hi))
    case readParam | readReaderPara => cases hi
    case setReaderWorkType =>
      have hput : ∀ v, (g.gDevice.put Offset.readerWorkStatus v).load i = g.gDevice.load i := by
        intro v
        exact (Block.load_put (by decide)).trans (if_neg (of_decide_eq_false hi))
      cases hrun
      dsimp only
      split
      · exact hput _
      · split
        · exact hput _
        · rfl
    case getReaderTime =>
      cases hrun
      exact readClock_untouched g (of_decide_eq_false hi)
    case getTagRecord =>
      have hout := of_decide_eq_false hi
      rw [not_or, Nat.not_le] at hout
      cases hrun
      refine (tagRecord_frame (f := fun g => g.gDevice.load i) ?_ ?_ g).trans ?_
      · intro g
        exact recordRound_load_below g hout.2
      · intro g buf len count
        rfl
      · exact readClock_untouched g hout.1
    case getReaderRevStatus =>
      cases hrun
      exact (Block.load_put (by decide)).trans (if_neg (of_decide_eq_false hi))
    all_goals exact absurd hset (by decide)
  · have hkept := keeps_run before p hset g p' g' hrun
    exact congrArg (fun s : Settings => s.gDevice.load i) hkept

/-- What a function that is called does not touch, the call does not change. -/
theorem callFunction_untouched {function : Option Handler} {called : Mem × Reader} {i : ℕ}
    (hcall : callFunction runHandler function buffer r = some called)
    (hi : ∀ f, function = some f → f.touches i = false) :
  called.2.gDevice.load i = r.gDevice.load i
  := by
  obtain ⟨-, rfl⟩ | ⟨f, p, g, hf, hrun, rfl⟩ := callFunction_cases hcall
  · rfl
  · exact run_untouched hrun (hi f hf)

/-- The bytes of `g_device` that a request can change which an entry serves. -/
def SParamItem.touches (item : SParamItem) (i : ℕ) : Bool :=
  (item.flag = flagWR ∧ item.covers i = true) ∨ item.function.any (fun f => f.touches i) = true

theorem SParamItem.touches_eq_false {item : SParamItem} {i : ℕ} (h : item.touches i = false) :
  (item.flag = flagWR → item.covers i = false)
    ∧ ∀ f, item.function = some f → f.touches i = false
  := by
  have hnot := of_decide_eq_false h
  rw [not_or, not_and, Bool.not_eq_true, Bool.not_eq_true] at hnot
  refine ⟨hnot.1, ?_⟩
  intro f hf
  have hany := hnot.2
  rwa [hf] at hany

/-- Storing a value changes the bytes that the entry covers only. -/
theorem storeValue_untouched {idindex : ℕ} {g : Globals} {i : ℕ}
    (hi : (g.gParamTable.table idindex).covers i = false)
    (hstatus : buffer 2 = 0x0F → i ≠ Offset.readerWorkStatus) :
  (storeValue o idindex buffer g).2.gDevice.load i = g.gDevice.load i
  := by
  have hmemcpy : ∀ (f : ℕ) v, (g.gParamTable.table idindex).value = some v →
      ({ g with setFlag := f }.memcpyValue (buffer.shift (paraOff o))
        (g.gParamTable.table idindex).length.toNat v).gDevice.load i = g.gDevice.load i := by
    intro f v hv
    cases v with
    | device off =>
      rw [SParamItem.covers, hv] at hi
      have hout := of_decide_eq_false hi
      apply Block.load_copy_outside
      omega
    | tmpAntenna | sysReboot | cmdTmpBuf => rfl
  generalize hout : storeValue o idindex buffer g = out
  unfold storeValue at hout
  dsimp only at hout
  split at hout
  · subst hout
    rfl
  · split at hout
    · subst hout
      rfl
    · rename_i v hv
      split at hout
      · subst hout
        rfl
      · split at hout
        · rename_i hcmd
          subst hout
          exact (Block.load_put (by decide)).trans (if_neg (hstatus hcmd))
        · split at hout
          · subst hout
            exact hmemcpy 1 v hv
          · split at hout
            · subst hout
              rfl
            · subst hout
              exact hmemcpy _ v hv

/-- A write request other than `0x15` stores to the bytes that its entry covers only. -/
theorem storeRequest_untouched {idindex i : ℕ} (hfilter : buffer 2 ≠ 0x15)
    (hi : (r.gParamTable.table idindex).covers i = false)
    (hstatus : buffer 2 = 0x0F → i ≠ Offset.readerWorkStatus) :
  (storeRequest o idindex buffer r).2.2.gDevice.load i = r.gDevice.load i
  := by
  by_cases hbare : buffer 2 ∈ bareCmds
  · unfold storeRequest
    dsimp only
    rw [if_pos hbare]
  · rw [storeRequest_value o idindex r hbare hfilter]
    exact storeValue_untouched hi hstatus

/-- The value of a read request is filled in without a change of `g_device`. -/
theorem finishRead_untouched {idindex : ℕ} {readerWorkStatus : UInt8} {called : Mem × Reader}
    (hcmd : called.1 2 ≠ 0x06) :
  (finishRead o idindex readerWorkStatus called).2.2.gDevice = called.2.gDevice
  := by
  rw [finishRead, restoreWorkStatus, if_neg hcmd]
  obtain hload | ⟨-, n, hload⟩ := loadValue_settings o idindex called.1 called.2.toGlobals
  · exact congrArg Settings.gDevice hload
  · exact congrArg Settings.gDevice hload

/-- What the entry of a request does not touch, the request does not change. -/
theorem processParamTable_untouched (hreg : Registered r.gParamTable)
    {reply : UInt8 × Mem × Reader} (h : processParamTable o buffer length r = some reply)
    (hfilter : buffer 2 ≠ 0x15) {i : ℕ}
    (hi : ∀ item, (buffer 2, item) ∈ registeredItems → item.touches i = false) :
  reply.2.2.gDevice.load i = r.gDevice.load i
  := by
  obtain ⟨-, -, hr⟩ | ⟨item, outcome, -, rfl, hmem, hmatch, hkind⟩ :=
    processParamTable_cases hreg h
  · rw [hr]
  · obtain ⟨hcovers, htouch⟩ := SParamItem.touches_eq_false (hi item hmem)
    have hfun : (r.gParamTable.table (r.gParamTable.getparaindex (buffer 2))).function
        = item.function := hmatch.function
    rw [pack]
    obtain ⟨hwr, hwrite⟩ | ⟨-, hread⟩ | ⟨-, hother⟩ := hkind
    · have hentry : (r.gParamTable.table (r.gParamTable.getparaindex (buffer 2))).covers i
          = false := by
        have htag : ¬ IsTagFilterCmd (buffer 2) := not_tagFilter_of_write hmem hwr hfilter
        have hvalue := hmatch.value
        have hlength := hmatch.length htag
        rw [Globals.entry] at hvalue hlength
        rw [SParamItem.covers, hvalue, hlength]
        exact hcovers hwr
      have hstatus : buffer 2 = 0x0F → i ≠ Offset.readerWorkStatus := by
        rintro hcmd rfl
        rw [hcmd] at hi
        exact absurd (hi _ (show ((0x0F : UInt8), (⟨some (.device Offset.readerWorkStatus), flagWR,
          1, some .setReaderWorkType⟩ : SParamItem)) ∈ registeredItems by decide)) (by decide)
      have hstored := storeRequest_untouched (o := o) hfilter hentry hstatus
      obtain ⟨-, rfl⟩ | ⟨called, -, hcall, rfl⟩ := writeRequest_cases hwrite
      · exact hstored
      · rw [storeRequest_function, hfun] at hcall
        exact (callFunction_untouched hcall htouch).trans hstored
    · obtain ⟨-, rfl⟩ | ⟨called, -, hcall, rfl⟩ := readRequest_cases hread
      · rfl
      · have hkept := callFunction_untouched (i := i) hcall (by rwa [hfun])
        have hparam : buffer 2 ≠ 0x06 := by
          intro hcmd
          rw [hcmd] at hi
          have hall := hi _ (show ((0x06 : UInt8), (⟨some (.device Offset.workpara), flagRD, 32,
            some .readParam⟩ : SParamItem)) ∈ registeredItems by decide)
          cases (SParamItem.touches_eq_false hall).2 _ rfl
        rw [finishRead_untouched (by rwa [callFunction_below (by decide) hcall])]
        exact hkept
    · obtain ⟨-, rfl⟩ | ⟨-, -, rfl⟩ | ⟨f, called, -, hf, hcall, rfl⟩ := otherRequest_cases hother
      · rfl
      · rfl
      · rw [finishOther_reader]
        apply callFunction_untouched hcall
        intro f' hf'
        exact htouch _ (hfun.symm.trans (hf.trans hf'))

/-- The flash is written by `0x0D` only. -/
theorem processParamTable_flash (hreg : Registered r.gParamTable)
    {reply : UInt8 × Mem × Reader} (h : processParamTable o buffer length r = some reply)
    (hcmd : buffer 2 ≠ 0x0D) :
  reply.2.2.flash = r.flash
  := by
  obtain ⟨-, -, hr⟩ | ⟨item, outcome, -, rfl, hmem, hmatch, hkind⟩ :=
    processParamTable_cases hreg h
  · rw [hr]
  · have hfun : (r.gParamTable.table (r.gParamTable.getparaindex (buffer 2))).function
        = item.function := hmatch.function
    have hnot : item.function ≠ some .readReaderPara := by
      intro hfactory
      exact hcmd (cmd_of_readReaderPara hmem hfactory).1
    rw [pack]
    obtain ⟨-, hwrite⟩ | ⟨-, hread⟩ | ⟨-, hother⟩ := hkind
    · obtain ⟨hflash, -, -⟩ := storeRequest_base o (r.gParamTable.getparaindex (buffer 2)) buffer r
      obtain ⟨-, rfl⟩ | ⟨called, -, hcall, rfl⟩ := writeRequest_cases hwrite
      · exact hflash
      · rw [storeRequest_function, hfun] at hcall
        exact ((callFunction_setFlag hcall).2 hnot).trans hflash
    · obtain ⟨-, rfl⟩ | ⟨called, -, hcall, rfl⟩ := readRequest_cases hread
      · rfl
      · rw [hfun] at hcall
        exact (finishRead_base o _ _ called).2.1.trans ((callFunction_setFlag hcall).2 hnot)
    · obtain ⟨-, rfl⟩ | ⟨-, -, rfl⟩ | ⟨f, called, -, hf, hcall, rfl⟩ := otherRequest_cases hother
      · rfl
      · rfl
      · rw [finishOther_reader]
        apply (callFunction_setFlag hcall).2
        rw [← hf, hfun]
        exact hnot

/-! ### Requests that write over the ranges of others -/

/-- Where a tag filter is read from: one without mask bytes is read at the same place in both
layouts. -/
def filterSource (o : CmdOrigin) (buffer : Mem) : Mem :=
  if buffer 1 = emptyLen o + 4 then buffer.shift 3 else buffer.shift (paraOff o)

/-- A tag filter has at least the mask address and the mask length. -/
def FilterRight (o : CmdOrigin) (buffer : Mem) : Prop := ¬ buffer 1 < emptyLen o + 4

instance (o : CmdOrigin) (buffer : Mem) : Decidable (FilterRight o buffer) :=
  inferInstanceAs (Decidable (¬ _))

/-- A tag filter that is too short changes nothing but the length of its entry; another one is
copied over `g_device` with as many bytes as the request has. -/
theorem storeTagFilter_spec (o : CmdOrigin) (buffer : Mem) {idindex : ℕ} {g : Globals}
    (hvalue : (g.gParamTable.table idindex).value = some (.device Offset.tagfilter)) :
  (¬ FilterRight o buffer ∧ (storeTagFilter o idindex buffer g).1 ≠ cmdoorCheckOk
      ∧ (storeTagFilter o idindex buffer g).2.gDevice = g.gDevice
      ∧ (storeTagFilter o idindex buffer g).2.setFlag = g.setFlag)
    ∨ (FilterRight o buffer ∧ (storeTagFilter o idindex buffer g).1 = cmdoorCheckOk
      ∧ (storeTagFilter o idindex buffer g).2.gDevice
        = g.gDevice.copy Offset.tagfilter (filterSource o buffer) (buffer 1 - emptyLen o).toNat
      ∧ (storeTagFilter o idindex buffer g).2.setFlag
        = if buffer 1 = emptyLen o + 4 then g.setFlag else 1)
  := by
  unfold storeTagFilter FilterRight filterSource
  dsimp only
  by_cases hfour : buffer 1 = emptyLen o + 4
  · right
    have hright : ¬ buffer 1 < emptyLen o + 4 := by
      rw [hfour]
      exact UInt8.lt_irrefl _
    rw [if_pos hfour, if_pos hfour, if_pos hfour, hvalue]
    exact ⟨hright, rfl, rfl, rfl⟩
  · rw [if_neg hfour, if_neg hfour, if_neg hfour]
    by_cases hshort : buffer 1 < emptyLen o + 4
    · left
      rw [if_pos hshort]
      exact ⟨not_not.mpr hshort, show paraWrong ≠ cmdoorCheckOk by decide, rfl, rfl⟩
    · right
      rw [if_neg hshort, hvalue]
      exact ⟨hshort, rfl, rfl, rfl⟩

/-- What `0x15` does. -/
theorem process_tagFilter (hreg : Registered r.gParamTable)
    (hvalid : Valid o buffer length r.toGlobals) (hcmd : buffer 2 = 0x15) :
  ∃ reply, processParamTable o buffer length r = some reply
    ∧ ((¬ FilterRight o buffer ∧ reply.1 ≠ cmdoorCheckOk ∧ reply.2.2.gDevice = r.gDevice
        ∧ reply.2.2.setFlag = r.setFlag)
      ∨ (FilterRight o buffer ∧ reply.1 = cmdoorCheckOk
        ∧ reply.2.2.gDevice = r.gDevice.copy Offset.tagfilter (filterSource o buffer)
            (buffer 1 - emptyLen o).toNat
        ∧ reply.2.2.setFlag = if buffer 1 = emptyLen o + 4 then r.setFlag else 1))
  := by
  have hmem : (buffer 2,
      (⟨some (.device Offset.tagfilter), flagWR, 35, some .setTagFilter⟩ : SParamItem))
      ∈ registeredItems := by
    rw [hcmd]
    decide
  have hmatch := hreg.entry hmem rfl
  have hfun : (r.gParamTable.table (r.gParamTable.getparaindex (buffer 2))).function
      = some .setTagFilter := hmatch.function
  have hbare : buffer 2 ∉ bareCmds := by
    rw [hcmd]
    decide
  have hstored : storeRequest o (r.gParamTable.getparaindex (buffer 2)) buffer r
      = ((storeTagFilter o (r.gParamTable.getparaindex (buffer 2)) buffer r.toGlobals).1,
          buffer.put 1 (buffer 1 - ((storeTagFilter o (r.gParamTable.getparaindex (buffer 2)) buffer
            r.toGlobals).2.gParamTable.table (r.gParamTable.getparaindex (buffer 2))).length),
          { r with toGlobals :=
              (storeTagFilter o (r.gParamTable.getparaindex (buffer 2)) buffer
                r.toGlobals).2 }) := by
    unfold storeRequest
    dsimp only
    rw [if_neg hbare, if_pos hcmd]
  rw [processParamTable, processWith_of_valid runHandler hvalid,
    dispatch_write runHandler hvalid hmatch.flag, writeRequest]
  obtain ⟨hright, hflag, hdevice, hset⟩ | ⟨hright, hflag, hdevice, hset⟩ :=
    storeTagFilter_spec o buffer hmatch.value
  · have herror : (storeRequest o (r.gParamTable.getparaindex (buffer 2)) buffer r).1
        ≠ cmdoorCheckOk := by
      rw [hstored]
      exact hflag
    rw [if_neg herror, Option.map_some]
    refine ⟨_, rfl, .inl ⟨hright, ?_, ?_, ?_⟩⟩
    · rwa [pack_error herror]
    · rw [pack, hstored]
      exact hdevice
    · rw [pack, hstored]
      exact hset
  · have hok : (storeRequest o (r.gParamTable.getparaindex (buffer 2)) buffer r).1
        = cmdoorCheckOk := by
      rw [hstored]
      exact hflag
    rw [if_pos hok, storeRequest_function, hfun, callFunction_setTagFilter, Option.map_some,
      Option.map_some]
    refine ⟨_, rfl, .inr ⟨hright, ?_, ?_, ?_⟩⟩
    · apply pack_ok (n := 0)
      · rw [UInt8.add_zero]
        exact storeRequest_len hok
      · decide
    · rw [pack, hstored]
      exact hdevice
    · rw [pack, hstored]
      exact hset

/-- What `0x15` stores when it is acknowledged. -/
theorem tagFilter_stored (hreg : Registered r.gParamTable) {reply : UInt8 × Mem × Reader}
    (h : processParamTable o buffer length r = some reply) (hcmd : buffer 2 = 0x15)
    (hok : reply.1 = cmdoorCheckOk) :
  reply.2.2.gDevice = r.gDevice.copy Offset.tagfilter (filterSource o buffer)
      (buffer 1 - emptyLen o).toNat
    ∧ reply.2.2.setFlag = if buffer 1 = emptyLen o + 4 then r.setFlag else 1
  := by
  obtain ⟨-, herror, -⟩ | ⟨item, outcome, hvalid, -, -, -, -⟩ := processParamTable_cases hreg h
  · exact absurd hok herror
  · obtain ⟨reply', hrun, hcases⟩ := process_tagFilter hreg hvalid hcmd
    obtain rfl := Option.some.inj (hrun.symm.trans h)
    obtain ⟨-, herror, -⟩ | ⟨-, -, hdevice, hset⟩ := hcases
    · exact absurd hok herror
    · exact ⟨hdevice, hset⟩

/-- The function of `0x0D` restores the factory settings and saves them. -/
theorem callFunction_readReaderPara (buffer : Mem) (r : Reader) :
  callFunction runHandler (some .readReaderPara) buffer r
    = some (buffer, { r with
        gDevice := (saveDataTo r.flash (factoryReset r.gDevice)).1
        flash := (saveDataTo r.flash (factoryReset r.gDevice)).2
        sysReboot := 2 })
  := by
  have hrun : ∀ p g, readReaderPara p g = some (p, { g with
      gDevice := (saveDataTo g.flash (factoryReset g.gDevice)).1
      flash := (saveDataTo g.flash (factoryReset g.gDevice)).2
      sysReboot := 2 }) := by
    intro p g
    rw [readReaderPara, bind_modify, saveData, bind_modify]
    dsimp only
    generalize saveDataTo g.flash (factoryReset g.gDevice) = saved
    rfl
  rw [callFunction]
  dsimp only [runHandler, Handler.run]
  rw [hrun, Option.map_some, Mem.graft_shift]

/-- What `0x0D` does: the factory settings are restored and saved, unless the request has
parameters. -/
theorem process_factory (hreg : Registered r.gParamTable)
    (hvalid : Valid o buffer length r.toGlobals) (hcmd : buffer 2 = 0x0D) :
  ∃ reply, processParamTable o buffer length r = some reply
    ∧ reply.2.2.setFlag = 1
    ∧ ((buffer 1 ≠ emptyLen o ∧ reply.1 ≠ cmdoorCheckOk ∧ reply.2.2.gDevice = r.gDevice
        ∧ reply.2.2.flash = r.flash)
      ∨ (buffer 1 = emptyLen o ∧ reply.1 = cmdoorCheckOk
        ∧ reply.2.2.gDevice = (saveDataTo r.flash (factoryReset r.gDevice)).1
        ∧ reply.2.2.flash = (saveDataTo r.flash (factoryReset r.gDevice)).2))
  := by
  have hmem : (buffer 2, (⟨none, flagWR, 4, some .readReaderPara⟩ : SParamItem))
      ∈ registeredItems := by
    rw [hcmd]
    decide
  have hmatch := hreg.entry hmem rfl
  have hfun : (r.gParamTable.table (r.gParamTable.getparaindex (buffer 2))).function
      = some .readReaderPara := hmatch.function
  have hstored := storeRequest_factory o (r.gParamTable.getparaindex (buffer 2)) r hcmd
  rw [processParamTable, processWith_of_valid runHandler hvalid,
    dispatch_write runHandler hvalid hmatch.flag, writeRequest]
  by_cases hlen : buffer 1 = emptyLen o
  · rw [if_neg (not_not.mpr hlen)] at hstored
    have hok : (storeRequest o (r.gParamTable.getparaindex (buffer 2)) buffer r).1
        = cmdoorCheckOk := by rw [hstored]
    have hcall := callFunction_readReaderPara
      (storeRequest o (r.gParamTable.getparaindex (buffer 2)) buffer r).2.1
      (storeRequest o (r.gParamTable.getparaindex (buffer 2)) buffer r).2.2
    have hack := writeRequest_acknowledged hok hcall
    rw [if_pos hok, storeRequest_function, hfun, hcall, Option.map_some, Option.map_some]
    refine ⟨_, rfl, ?_, .inr ⟨hlen, hack, ?_, ?_⟩⟩
    · rw [pack, hstored]
    · rw [pack, hstored]
    · rw [pack, hstored]
  · rw [if_pos hlen] at hstored
    have herror : (storeRequest o (r.gParamTable.getparaindex (buffer 2)) buffer r).1
        ≠ cmdoorCheckOk := by
      rw [hstored]
      exact show ortherWrong ≠ cmdoorCheckOk by decide
    rw [if_neg herror, Option.map_some]
    refine ⟨_, rfl, ?_, .inl ⟨hlen, by rwa [pack_error herror], ?_, ?_⟩⟩
    · rw [pack, hstored]
    · rw [pack, hstored]
    · rw [pack, hstored]

/-- `0x0F` has one parameter, and this asks for one of the two modes. -/
def WorkTypeRight (o : CmdOrigin) (buffer : Mem) : Prop :=
  (buffer 1).toNat = 1 + (emptyLen o).toNat
    ∧ rangeControl 0x0F (buffer (paraOff o)) = cmdoorCheckOk

instance (o : CmdOrigin) (buffer : Mem) : Decidable (WorkTypeRight o buffer) :=
  inferInstanceAs (Decidable (_ ∧ _))

/-- The working mode that a parameter of `0x0F` asks for. -/
def modeAsked (value : UInt8) : UInt8 := if value = 0 then workCmd else workAct

theorem modeAsked_cases (value : UInt8) :
  modeAsked value = workAct ∨ modeAsked value = workCmd
  := by
  unfold modeAsked
  split
  · exact .inr rfl
  · exact .inl rfl

theorem WorkTypeRight.value (h : WorkTypeRight o buffer) :
  buffer (paraOff o) = 0 ∨ buffer (paraOff o) = 1
  := by
  have hle : ¬ buffer (paraOff o) > 1 := by
    intro hgt
    have hrange := h.2
    rw [rangeControl, if_pos hgt] at hrange
    exact absurd hrange (by decide)
  rw [gt_iff_lt, UInt8.lt_iff_toNat_lt] at hle
  rw [← UInt8.toNat_inj, ← UInt8.toNat_inj]
  simp only [UInt8.reduceToNat] at hle ⊢
  omega

/-- `0x0F` stores the working mode it asks for, without a look at `setFlag`. -/
theorem storeValue_workType {idindex : ℕ} {g : Globals} (hcmd : buffer 2 = 0x0F)
    (hvalue : (g.gParamTable.table idindex).value = some (.device Offset.readerWorkStatus))
    (hlength : (g.gParamTable.table idindex).length = 1) :
  (¬ WorkTypeRight o buffer ∧ (storeValue o idindex buffer g).1 ≠ cmdoorCheckOk
      ∧ (storeValue o idindex buffer g).2 = g)
    ∨ (WorkTypeRight o buffer ∧ storeValue o idindex buffer g = (cmdoorCheckOk,
        { g with gDevice := g.gDevice.put Offset.readerWorkStatus (buffer (paraOff o)) }))
  := by
  by_cases hright : WindowRight o buffer (g.gParamTable.table idindex)
  · right
    have hlen := hright.len
    have hrange := hright.range
    rw [hlength] at hlen
    rw [hcmd] at hrange
    refine ⟨⟨hlen, hrange⟩, ?_⟩
    unfold storeValue
    dsimp only
    rw [if_neg (not_not.mpr hright.len), hvalue, hcmd]
    dsimp only
    rw [Mem.shift_apply, Nat.add_zero, hrange, if_neg (by decide), if_pos rfl]
  · left
    refine ⟨?_, storeValue_wrong hvalue hright⟩
    rintro ⟨hlen, hrange⟩
    apply hright
    refine ⟨?_, ?_⟩
    · rw [hlength]
      exact hlen
    · rw [hcmd]
      exact hrange

/-- What `0x0F` does: `ReaderWorkStatus` is the mode asked for, or as it was, and `setFlag` is
not raised. -/
theorem process_workType (hreg : Registered r.gParamTable) (hcmd : buffer 2 = 0x0F)
    {reply : UInt8 × Mem × Reader} (h : processParamTable o buffer length r = some reply) :
  reply.2.2.setFlag = r.setFlag
    ∧ ((¬ (Valid o buffer length r.toGlobals ∧ WorkTypeRight o buffer)
        ∧ reply.1 ≠ cmdoorCheckOk ∧ reply.2.2.gDevice = r.gDevice)
      ∨ (Valid o buffer length r.toGlobals ∧ WorkTypeRight o buffer
        ∧ reply.2.2.gDevice
          = r.gDevice.put Offset.readerWorkStatus (modeAsked (buffer (paraOff o)))))
  := by
  obtain ⟨hinvalid, herror, hr⟩ | ⟨item, outcome, hvalid, rfl, hmem, hmatch, hkind⟩ :=
    processParamTable_cases hreg h
  · rw [hr]
    exact ⟨rfl, .inl ⟨fun hboth => hinvalid hboth.1, herror, rfl⟩⟩
  · rw [hcmd] at hmem hmatch
    obtain rfl : item = ⟨some (.device Offset.readerWorkStatus), flagWR, 1,
        some .setReaderWorkType⟩ := Registered.item_unique hmem (by decide)
    obtain ⟨-, hwrite⟩ | ⟨hrd, -⟩ | ⟨hothr, -⟩ := hkind
    · have hstore := storeValue_workType (o := o) hcmd hmatch.value (hmatch.length (by decide))
      have hrequest := storeRequest_value o (r.gParamTable.getparaindex (buffer 2)) r
        (show buffer 2 ∉ bareCmds by rw [hcmd]; decide)
        (show buffer 2 ≠ 0x15 by rw [hcmd]; decide)
      obtain ⟨herror, rfl⟩ | ⟨called, hok, hcall, rfl⟩ := writeRequest_cases hwrite
      · obtain ⟨hwrong, -, hsame⟩ | ⟨-, hput⟩ := hstore
        · refine ⟨?_, .inl ⟨fun hboth => hwrong hboth.2, by rwa [pack_error herror], ?_⟩⟩
          · rw [pack, hrequest, hsame]
          · rw [pack, hrequest, hsame]
        · rw [hrequest, hput] at herror
          exact absurd rfl herror
      · obtain ⟨-, herror, -⟩ | ⟨hright, hput⟩ := hstore
        · rw [hrequest] at hok
          exact absurd hok herror
        · have hfun : (r.gParamTable.table (r.gParamTable.getparaindex (buffer 2))).function
              = some .setReaderWorkType := hmatch.function
          have hload : (r.gDevice.put Offset.readerWorkStatus (buffer (paraOff o))).load
              Offset.readerWorkStatus = buffer (paraOff o) := by
            rw [Block.load_put (by decide), if_pos rfl]
          rw [storeRequest_function, hfun, hrequest, hput] at hcall
          obtain ⟨hnone, -⟩ | ⟨f, p, g, hf, hrun, rfl⟩ := callFunction_cases hcall
          · cases hnone
          · cases hf
            cases hrun
            rw [pack, modeAsked]
            dsimp only
            rw [hload]
            obtain hzero | hone := hright.value
            · rw [if_pos hzero, if_pos hzero]
              exact ⟨rfl, .inr ⟨hvalid, hright, Block.put_put _ _ _ _⟩⟩
            · rw [if_neg (by rw [hone]; decide), if_pos hone, if_neg (by rw [hone]; decide)]
              exact ⟨rfl, .inr ⟨hvalid, hright, Block.put_put _ _ _ _⟩⟩
    · exact absurd hrd (by decide)
    · exact absurd hothr (by decide)

/-- A request of the third kind that may have any length runs its function on its parameters. -/
theorem process_anyLength (hreg : Registered r.gParamTable) {item : SParamItem} {f : Handler}
    (hmem : (buffer 2, item) ∈ registeredItems) (hothr : item.flag = flagOTHR)
    (hf : item.function = some f) (hlen : tagDataLenPurse o buffer = cmdoorCheckOk)
    {reply : UInt8 × Mem × Reader} (h : processParamTable o buffer length r = some reply) :
  (¬ Valid o buffer length r.toGlobals ∧ reply.2.2 = r)
    ∨ ∃ p g, Valid o buffer length r.toGlobals
      ∧ f.run (buffer (paraOff o - 1)) (buffer.shift (paraOff o)) r.toGlobals = some (p, g)
      ∧ reply.2.2 = { toGlobals := g, tagDataOrigin := o }
      ∧ (g.cmdTmpLen = 0xFF → reply.1 ≠ cmdoorCheckOk)
  := by
  obtain ⟨hinvalid, -, hr⟩ | ⟨item', outcome, hvalid, rfl, hmem', hmatch, hkind⟩ :=
    processParamTable_cases hreg h
  · exact .inl ⟨hinvalid, hr⟩
  · right
    obtain rfl := Registered.item_unique hmem hmem'
    obtain ⟨hwr, -⟩ | ⟨hrd, -⟩ | ⟨-, hother⟩ := hkind
    · rw [hwr] at hothr
      exact absurd hothr (by decide)
    · rw [hrd] at hothr
      exact absurd hothr (by decide)
    · rw [otherRequest_of_function runHandler _ hlen (hmatch.function.trans hf),
        Option.map_eq_some_iff] at hother
      obtain ⟨⟨p, g⟩, hrun, rfl⟩ := hother
      refine ⟨p, g, hvalid, hrun, ?_, ?_⟩
      · rw [pack, finishOther_reader]
      · intro hfail
        have herror : noTag ≠ cmdoorCheckOk := by decide
        rw [finishOther_refused hfail, pack_error herror]
        exact herror

/-- What `0x04` does: it stores the output power, and raises `setFlag` when the R2000 confirms
it. -/
theorem process_power (hreg : Registered r.gParamTable) (hcmd : buffer 2 = 0x04)
    {reply : UInt8 × Mem × Reader} (h : processParamTable o buffer length r = some reply) :
  (¬ Valid o buffer length r.toGlobals ∧ reply.2.2 = r)
    ∨ (Valid o buffer length r.toGlobals
      ∧ reply.2.2.gDevice
        = r.gDevice.put Offset.outputPower (clampPower (buffer (paraOff o)))
      ∧ ((PowerConfirmed (buffer.shift (paraOff o)) r.toGlobals ∧ reply.2.2.setFlag = 1)
        ∨ (PowerRefused (buffer.shift (paraOff o)) r.toGlobals ∧ reply.1 ≠ cmdoorCheckOk
          ∧ reply.2.2.setFlag = r.setFlag)))
  := by
  have hmem : (buffer 2,
      (⟨some (.device Offset.outputPower), flagOTHR, 1, some .setOutputPower⟩ : SParamItem))
      ∈ registeredItems := by
    rw [hcmd]
    decide
  have hlen : tagDataLenPurse o buffer = cmdoorCheckOk := by
    rw [tagDataLenPurse, hcmd]
    rfl
  obtain hrefused | ⟨p, g, hvalid, hrun, hreader, hfail⟩ :=
    process_anyLength hreg hmem rfl rfl hlen h
  · exact .inl hrefused
  · right
    rw [hreader]
    obtain ⟨hconfirmed, -, hset⟩ | ⟨hrefused, hlong, hset⟩ := setOutputPower_cases hrun
    · exact ⟨hvalid, congrArg Settings.gDevice hset,
        .inl ⟨hconfirmed, congrArg Settings.setFlag hset⟩⟩
    · exact ⟨hvalid, congrArg Settings.gDevice hset,
        .inr ⟨hrefused, hfail hlong, congrArg Settings.setFlag hset⟩⟩

/-- The record after `SetFrequency`. -/
def frequencyStored (p : Mem) (d : SDevice) : SDevice :=
  let d : SDevice := d.copy Offset.freqSelect p 6
  if d.load Offset.freqSelect < 4 then
    (d.put Offset.frequencyMax (d.load (Offset.freqSelect + 2))).put Offset.frequencyMin
      (d.load (Offset.freqSelect + 1))
  else d

/-- What `0x05` does: it stores the frequencies, and raises `setFlag`. -/
theorem process_frequency (hreg : Registered r.gParamTable) (hcmd : buffer 2 = 0x05)
    {reply : UInt8 × Mem × Reader} (h : processParamTable o buffer length r = some reply) :
  (¬ Valid o buffer length r.toGlobals ∧ reply.2.2 = r)
    ∨ (Valid o buffer length r.toGlobals
      ∧ reply.2.2.gDevice = frequencyStored (buffer.shift (paraOff o)) r.gDevice
      ∧ reply.2.2.setFlag = 1)
  := by
  have hmem : (buffer 2,
      (⟨some (.device Offset.frequencyMin), flagOTHR, 2, some .setFrequency⟩ : SParamItem))
      ∈ registeredItems := by
    rw [hcmd]
    decide
  have hlen : tagDataLenPurse o buffer = cmdoorCheckOk := by
    rw [tagDataLenPurse, hcmd]
    rfl
  obtain hrefused | ⟨p, g, hvalid, hrun, hreader, -⟩ :=
    process_anyLength hreg hmem rfl rfl hlen h
  · exact .inl hrefused
  · right
    cases hrun
    rw [hreader]
    exact ⟨hvalid, rfl, rfl⟩

/-! ### Reading `g_device` back -/

/-- A request for which `ReadParam` is carried out. -/
structure ReadParamRequest (o : CmdOrigin) (buffer : Mem) (length : ℕ) (g : Globals) : Prop
    extends Valid o buffer length g where
  cmd : buffer 2 = 0x06
  len : buffer 1 = emptyLen o

/-- The function of `ReadParam` reads `g_device` back from the flash. -/
theorem callFunction_readParam {called : Mem × Reader}
    (h : callFunction runHandler (some .readParam) buffer r = some called) :
  called = (buffer, { r with gDevice := SDevice.setVersion (stmflashReadDevice r.flash) })
  := by
  obtain ⟨hnone, -⟩ | ⟨f, p, g, hf, hrun, rfl⟩ := callFunction_cases h
  · cases hnone
  · cases hf
    cases hrun
    rw [Mem.graft_shift]

/-- The value of `ReadParam` is filled in after the function was called. -/
theorem loadValue_readParam {idindex : ℕ} {g : Globals} (hcmd : buffer 2 = 0x06)
    (hvalue : (g.gParamTable.table idindex).value = some (.device Offset.workpara))
    (hlength : (g.gParamTable.table idindex).length = 32) :
  loadValue o idindex buffer g
    = ((buffer.copy (paraOff o) (Mem.shift g.gDevice.load Offset.workpara) sizeofWorkParam).put 1
        (buffer 1 + 32), g)
  := by
  have hlen : (buffer.copy (paraOff o) (Mem.shift g.gDevice.load Offset.workpara)
      sizeofWorkParam) 1 = buffer 1 := by
    apply Mem.copy_below
    have := two_lt_paraOff o
    omega
  unfold loadValue
  dsimp only
  rw [hvalue, hlength, hcmd]
  dsimp only
  rw [if_neg (by decide), if_neg (by decide)]
  rw [← hlen]
  rfl

/-- `ReadParam` answers with the working parameters of the flash, and leaves the flash image
in `g_device`, with the current `ReaderWorkStatus`; refused, it changes nothing. -/
theorem readParam_spec (hreg : Registered r.gParamTable) (hcmd : buffer 2 = 0x06)
    {reply : UInt8 × Mem × Reader} (h : processParamTable o buffer length r = some reply) :
  (reply.1 ≠ cmdoorCheckOk ∧ reply.2.2.gDevice = r.gDevice)
    ∨ (ReadParamRequest o buffer length r.toGlobals ∧ reply.2.1 1 = emptyLen o + 32
      ∧ (∀ i < sizeofWorkParam, reply.2.1 (paraOff o + i)
        = (SDevice.setVersion (stmflashReadDevice r.flash)).load (Offset.workpara + i))
      ∧ reply.2.2.gDevice = (SDevice.setVersion (stmflashReadDevice r.flash)).put
        Offset.readerWorkStatus (r.gDevice.load Offset.readerWorkStatus))
  := by
  obtain ⟨-, hflag, hr⟩ | ⟨item, outcome, hvalid, rfl, hmem, hmatch, hkind⟩ :=
    processParamTable_cases hreg h
  · exact .inl ⟨hflag, by rw [hr]⟩
  · rw [hcmd] at hmem hmatch
    obtain rfl : item = ⟨some (.device Offset.workpara), flagRD, 32, some .readParam⟩ :=
      Registered.item_unique hmem (by decide)
    obtain ⟨hwr, -⟩ | ⟨-, hread⟩ | ⟨hothr, -⟩ := hkind
    · exact absurd hwr (by decide)
    · obtain ⟨-, rfl⟩ | ⟨called, hlen, hcall, rfl⟩ := readRequest_cases hread
      · left
        have herror : ortherWrong ≠ cmdoorCheckOk := by decide
        exact ⟨by rwa [pack_error herror], rfl⟩
      · right
        have hoff := two_lt_paraOff o
        have hfun := hmatch.function
        rw [Globals.entry] at hfun
        rw [hfun] at hcall
        obtain rfl := callFunction_readParam hcall
        have hlenbyte : buffer 1 = emptyLen o := by
          rwa [readLen, if_neg (by rw [hcmd]; decide)] at hlen
        have hload := loadValue_readParam (o := o)
          (g := { r with
            gDevice := SDevice.setVersion (stmflashReadDevice r.flash) : Reader }.toGlobals)
          hcmd hmatch.value (hmatch.length (by decide))
        rw [pack, finishRead]
        dsimp only
        rw [hload]
        dsimp only
        rw [hlenbyte]
        refine ⟨⟨hvalid, hcmd, hlenbyte⟩, ?_, ?_, ?_⟩
        · rw [packet_ok_len, Mem.put_same]
        · intro i hi
          rw [packet_ok_para, Mem.put_of_ne (by omega), Mem.copy_inside hi]
          · rfl
          · rw [Mem.put_same]
            simp only [sizeofWorkParam] at hi
            have hlen : (emptyLen o + 32).toNat = (emptyLen o).toNat + 32 := by
              cases o <;> decide
            omega
        · rw [restoreWorkStatus, if_pos hcmd]
    · exact absurd hothr (by decide)

/-- `ReadParam` keeps `ReaderWorkStatus`. -/
theorem readParam_readerWorkStatus (hreg : Registered r.gParamTable) (hcmd : buffer 2 = 0x06)
    {reply : UInt8 × Mem × Reader} (h : processParamTable o buffer length r = some reply) :
  reply.2.2.gDevice.load Offset.readerWorkStatus = r.gDevice.load Offset.readerWorkStatus
  := by
  obtain ⟨-, hsame⟩ | ⟨-, -, -, hdevice⟩ := readParam_spec hreg hcmd h
  · rw [hsame]
  · rw [hdevice, Block.load_put (by decide), if_pos rfl]

end UhfReader
