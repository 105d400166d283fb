import UhfReader.Handlers.Frames
import UhfReader.Validation

/-!
# What a request does to the settings

`processParamTable_cases` takes a request apart: it is refused and changes nothing, or it is
valid and carried out by the kind of its entry.  From it follow the facts that hold of every
request: the table stays the registered one, `setFlag` is never lowered, and the flash is
written by `0x0D` only, which raises `setFlag`.
-/

open Memory Stateful

namespace UhfReader

variable {o : CmdOrigin} {buffer : Mem} {length : ℕ} {r : Reader}

/-! ### Requests by the kind of their entry -/

/-- The kinds that entries are registered with. -/
theorem registeredItems_flag {c : UInt8} {item : SParamItem} (h : (c, item) ∈ registeredItems) :
  item.flag = flagWR ∨ item.flag = flagRD ∨ item.flag = flagOTHR
  := by
  have hall : ∀ e ∈ registeredItems,
      e.2.flag = flagWR ∨ e.2.flag = flagRD ∨ e.2.flag = flagOTHR := by decide
  exact hall _ h

/-- A write request has the length of its entry, unless it is the one for the tag filter. -/
theorem not_tagFilter_of_write {c : UInt8} {item : SParamItem} (h : (c, item) ∈ registeredItems)
    (hwr : item.flag = flagWR) (hc : c ≠ 0x15) :
  ¬ IsTagFilterCmd c
  := by
  have hread : ∀ e ∈ registeredItems, e.2.flag = flagWR → e.1 ≠ 0x16 := by decide
  rintro (heq | heq)
  · exact hc heq
  · exact hread _ h hwr heq

/-- A read request has the length of its entry, unless it is the one for the tag filter. -/
theorem not_tagFilter_of_read {c : UInt8} {item : SParamItem} (h : (c, item) ∈ registeredItems)
    (hrd : item.flag = flagRD) (hc : c ≠ 0x16) :
  ¬ IsTagFilterCmd c
  := by
  have hwrite : ∀ e ∈ registeredItems, e.2.flag = flagRD → e.1 ≠ 0x15 := by decide
  rintro (heq | heq)
  · exact hwrite _ h hrd heq
  · exact hc heq

/-- Every entry of the third kind has a function. -/
theorem function_of_other {c : UInt8} {item : SParamItem} (h : (c, item) ∈ registeredItems)
    (hothr : item.flag = flagOTHR) :
  ∃ f, item.function = some f
  := by
  have hsome : ∀ e ∈ registeredItems, e.2.flag = flagOTHR → e.2.function.isSome := by decide
  exact Option.isSome_iff_exists.mp (hsome _ h hothr)

/-- The function that reads the tag records. -/
theorem function_of_record {c : UInt8} {item : SParamItem} (h : (c, item) ∈ registeredItems)
    (hc : c = 0x57) :
  item.function = some .getTagRecord
  := by
  have hall : ∀ e ∈ registeredItems, e.1 = 0x57 → e.2.function = some .getTagRecord := by decide
  exact hall _ h hc

/-- The entry that serves a request. -/
def Globals.entry (g : Globals) (buffer : Mem) : SParamItem :=
  g.gParamTable.table (g.gParamTable.getparaindex (buffer 2))

section Kinds

variable (run : HandlerRun)

/-- A valid request is let through by the mode. -/
theorem modeAllows_of_valid (h : Valid o buffer length r.toGlobals) :
  ¬ ¬ modeAllows (buffer 2) r.toGlobals = true
  := not_not.mpr ((modeAllows_iff _ _).mpr h.mode)

theorem dispatch_write (hvalid : Valid o buffer length r.toGlobals)
    (hkind : (r.toGlobals.entry buffer).flag = flagWR) :
  dispatch run o buffer r
    = writeRequest run o (r.gParamTable.getparaindex (buffer 2)) buffer r
  := by
  rw [Globals.entry] at hkind
  unfold dispatch
  dsimp only
  rw [if_neg (modeAllows_of_valid hvalid), hkind, if_pos (by decide)]

theorem dispatch_read (hvalid : Valid o buffer length r.toGlobals)
    (hkind : (r.toGlobals.entry buffer).flag = flagRD) :
  dispatch run o buffer r
    = readRequest run o (r.gParamTable.getparaindex (buffer 2)) buffer r
  := by
  rw [Globals.entry] at hkind
  unfold dispatch
  dsimp only
  rw [if_neg (modeAllows_of_valid hvalid), hkind, if_neg (by decide), if_pos (by decide)]

theorem dispatch_other (hvalid : Valid o buffer length r.toGlobals)
    (hkind : (r.toGlobals.entry buffer).flag = flagOTHR) :
  dispatch run o buffer r
    = otherRequest run o (r.gParamTable.getparaindex (buffer 2)) buffer r
  := by
  rw [Globals.entry] at hkind
  unfold dispatch
  dsimp only
  rw [if_neg (modeAllows_of_valid hvalid), hkind, if_neg (by decide), if_neg (by decide),
    if_pos (by decide)]

end Kinds

/-- A request is refused and changes nothing, or it is valid and carried out by the kind of
the entry registered for it. -/
theorem processParamTable_cases (hreg : Registered r.gParamTable)
    {reply : UInt8 × Mem × Reader} (h : processParamTable o buffer length r = some reply) :
  (¬ Valid o buffer length r.toGlobals ∧ reply.1 ≠ cmdoorCheckOk ∧ reply.2.2 = r)
    ∨ ∃ item outcome, Valid o buffer length r.toGlobals ∧ reply = pack o outcome
      ∧ (buffer 2, item) ∈ registeredItems
      ∧ (r.toGlobals.entry buffer).Matches (buffer 2) item
      ∧ ((item.flag = flagWR
          ∧ writeRequest runHandler o (r.gParamTable.getparaindex (buffer 2)) buffer r
            = some outcome)
        ∨ (item.flag = flagRD
          ∧ readRequest runHandler o (r.gParamTable.getparaindex (buffer 2)) buffer r
            = some outcome)
        ∨ (item.flag = flagOTHR
          ∧ otherRequest runHandler o (r.gParamTable.getparaindex (buffer 2)) buffer r
            = some outcome))
  := by
  by_cases hvalid : Valid o buffer length r.toGlobals
  · right
    obtain ⟨item, hmem, hmatch⟩ := hreg.lookup hvalid.nonzero hvalid.registered
    rw [processParamTable, processWith_of_valid runHandler hvalid, Option.map_eq_some_iff] at h
    obtain ⟨outcome, hdispatch, hreply⟩ := h
    refine ⟨item, outcome, hvalid, hreply.symm, hmem, hmatch, ?_⟩
    obtain hkind | hkind | hkind := registeredItems_flag hmem
    · rw [dispatch_write runHandler hvalid (hmatch.flag.trans hkind)] at hdispatch
      exact .inl ⟨hkind, hdispatch⟩
    · rw [dispatch_read runHandler hvalid (hmatch.flag.trans hkind)] at hdispatch
      exact .inr (.inl ⟨hkind, hdispatch⟩)
    · rw [dispatch_other runHandler hvalid (hmatch.flag.trans hkind)] at hdispatch
      exact .inr (.inr ⟨hkind, hdispatch⟩)
  · left
    obtain ⟨flag, buffer', hp, hflag⟩ := processWith_of_not_valid runHandler hvalid
    rw [processParamTable, hp, Option.some.injEq] at h
    subst h
    exact ⟨hvalid, hflag, rfl⟩

/-- A request that failed is not acknowledged. -/
theorem pack_error {outcome : UInt8 × Mem × Reader} (h : outcome.1 ≠ cmdoorCheckOk) :
  (pack o outcome).1 = outcome.1
  := packet_error h

/-! ### Storing and loading values -/

theorem memcpyValue_base (g : Globals) (src : Mem) (n : ℕ) (v : ValuePtr) :
  (g.memcpyValue src n v).settings.base = g.settings.base
  := by
  cases v with
  | device off => rfl
  | tmpAntenna => rfl
  | sysReboot => rfl
  | cmdTmpBuf => rfl

/-- The table, `setFlag` and the flash after a tag filter was stored. -/
theorem storeTagFilter_base (o : CmdOrigin) (idindex : ℕ) (buffer : Mem) (g : Globals) :
  (storeTagFilter o idindex buffer g).2.settings.base
    = (g.gParamTable.setLength idindex (buffer 1 - emptyLen o),
        if buffer 1 = emptyLen o + 4 ∨ buffer 1 < emptyLen o + 4 then g.setFlag else 1, g.flash)
  := by
  unfold storeTagFilter
  dsimp only
  by_cases hfour : buffer 1 = emptyLen o + 4
  · rw [if_pos hfour, if_pos (.inl hfour)]
    split
    · rfl
    · rename_i v _
      have hkept := memcpyValue_base g (buffer.shift 3) (buffer 1 - emptyLen o).toNat v
      exact congrArg (fun b => (b.1.setLength idindex (buffer 1 - emptyLen o), b.2)) hkept
  · rw [if_neg hfour]
    by_cases hshort : buffer 1 < emptyLen o + 4
    · rw [if_pos hshort, if_pos (.inr hshort)]
      rfl
    · rw [if_neg hshort, if_neg (not_or.mpr ⟨hfour, hshort⟩)]
      split
      · rfl
      · rename_i v _
        have hkept := memcpyValue_base { g with setFlag := 1 } (buffer.shift (paraOff o))
          (buffer 1 - emptyLen o).toNat v
        exact congrArg (fun b => (b.1.setLength idindex (buffer 1 - emptyLen o), b.2)) hkept

/-- Storing a value keeps the table and the flash, and never lowers `setFlag`. -/
theorem storeValue_base (o : CmdOrigin) (idindex : ℕ) (buffer : Mem) (g : Globals) :
  (storeValue o idindex buffer g).2.settings.base = g.settings.base
    ∨ (storeValue o idindex buffer g).2.settings.base = (g.gParamTable, 1, g.flash)
  := by
  generalize hout : storeValue o idindex buffer g = out
  unfold storeValue at hout
  dsimp only at hout
  split at hout
  · subst hout
    exact .inl rfl
  · split at hout
    · subst hout
      exact .inl rfl
    · split at hout
      · subst hout
        exact .inl rfl
      · split at hout
        · subst hout
          exact .inl rfl
        · split at hout
          · subst hout
            right
            exact memcpyValue_base _ _ _ _
          · split at hout
            · subst hout
              exact .inl rfl
            · subst hout
              dsimp only
              rw [memcpyValue_base]
              by_cases hcmd : buffer 2 = 0x0A
              · left
                rw [if_neg (not_not.mpr hcmd)]
              · right
                rw [if_pos hcmd]
                rfl

/-- Storing the value of a write request leaves the flash alone, never lowers `setFlag`, and
changes the table for the command `0x15` only. -/
theorem storeRequest_base (o : CmdOrigin) (idindex : ℕ) (buffer : Mem) (r : Reader) :
  (storeRequest o idindex buffer r).2.2.flash = r.flash
    ∧ ((storeRequest o idindex buffer r).2.2.setFlag = r.setFlag
      ∨ (storeRequest o idindex buffer r).2.2.setFlag = 1)
    ∧ ((storeRequest o idindex buffer r).2.2.gParamTable = r.gParamTable
      ∨ buffer 2 = 0x15 ∧ (storeRequest o idindex buffer r).2.2.gParamTable
        = r.gParamTable.setLength idindex (buffer 1 - emptyLen o))
  := by
  generalize hout : storeRequest o idindex buffer r = out
  unfold storeRequest at hout
  dsimp only at hout
  split at hout
  · subst hout
    refine ⟨rfl, ?_, .inl rfl⟩
    dsimp only
    split
    · exact .inr rfl
    · exact .inl rfl
  · subst hout
    dsimp only
    by_cases hcmd : buffer 2 = 0x15
    · rw [if_pos hcmd]
      have hbase := storeTagFilter_base o idindex buffer r.toGlobals
      refine ⟨congrArg (fun b => b.2.2) hbase, ?_, .inr ⟨hcmd, congrArg (fun b => b.1) hbase⟩⟩
      have hflag : (storeTagFilter o idindex buffer r.toGlobals).2.setFlag = _ :=
        congrArg (fun b => b.2.1) hbase
      rw [hflag]
      dsimp only
      split
      · exact .inl rfl
      · exact .inr rfl
    · rw [if_neg hcmd]
      obtain hbase | hbase := storeValue_base o idindex buffer r.toGlobals
      · exact ⟨congrArg (fun b => b.2.2) hbase, .inl (congrArg (fun b => b.2.1) hbase),
          .inl (congrArg (fun b => b.1) hbase)⟩
      · exact ⟨congrArg (fun b => b.2.2) hbase, .inr (congrArg (fun b => b.2.1) hbase),
          .inl (congrArg (fun b => b.1) hbase)⟩

/-- Filling in the value of a read request changes the table for the command `0x16` only. -/
theorem loadValue_settings (o : CmdOrigin) (idindex : ℕ) (buffer : Mem) (g : Globals) :
  (loadValue o idindex buffer g).2.settings = g.settings
    ∨ buffer 2 = 0x16 ∧ ∃ n, (loadValue o idindex buffer g).2.settings
      = { g.settings with gParamTable := g.gParamTable.setLength idindex n }
  := by
  generalize hout : loadValue o idindex buffer g = out
  unfold loadValue at hout
  dsimp only at hout
  split at hout
  · split at hout
    · subst hout
      exact .inl rfl
    · subst hout
      exact .inl rfl
  · split at hout
    · subst hout
      exact .inl rfl
    · split at hout
      · rename_i hcmd
        subst hout
        exact .inr ⟨hcmd, _, rfl⟩
      · subst hout
        exact .inl rfl

/-- The low byte of the mask length asks for at most 32 bytes of the mask. -/
theorem maskBytes_le (bits : UInt8) :
  (if bits = 0 then (0 : UInt8) else UInt8.ofNat ((bits.toNat + 7) / 8)).toNat ≤ 32
  := by
  have := bits.toNat_lt
  split
  · decide
  · rw [UInt8.toNat_ofNat']
    omega

/-- The two runs of `loadTagFilter` are one. -/
theorem loadTagFilter_copy (m src : Mem) (off : ℕ) {n : UInt8} (hn : n.toNat ≤ 32) :
  (m.copy off src 4).copy (off + 4) (src.shift 4) n.toNat = m.copy off src (n + 4).toNat
  := by
  have hsum : (n + 4).toNat = n.toNat + 4 := by
    rw [UInt8.toNat_add]
    simp only [UInt8.reduceToNat]
    omega
  funext j
  simp only [Mem.copy, Mem.shift]
  rw [hsum]
  grind

/-- The filter is one run of at most 36 bytes. -/
theorem loadTagFilter_eq (idindex : ℕ) (g : Globals) :
  ∃ (n : UInt8) (g' : Globals), n.toNat ≤ 200
    ∧ ∀ off buffer, 1 < off → loadTagFilter off idindex buffer g
      = ((buffer.copy off (Mem.shift g.gDevice.load Offset.tagfilter) n.toNat).put 1 (buffer 1 + n),
          g')
  := by
  have hn := maskBytes_le (Mem.shift g.gDevice.load Offset.tagfilter 3)
  unfold loadTagFilter
  dsimp only
  generalize (if Mem.shift g.gDevice.load Offset.tagfilter 3 = 0 then (0 : UInt8)
    else UInt8.ofNat (((Mem.shift g.gDevice.load Offset.tagfilter 3).toNat + 7) / 8)) = n at hn ⊢
  refine ⟨n + 4, { g with gParamTable := g.gParamTable.setLength idindex (n + 4) }, ?_, ?_⟩
  · rw [UInt8.toNat_add]
    simp only [UInt8.reduceToNat]
    omega
  · intro off buffer hoff
    rw [loadTagFilter_copy _ _ _ hn, Mem.copy_below hoff]

/-- A read request is answered with the same bytes wherever its reply stands: `n` of them, all
of which are at most 200 except for `0x57`. -/
theorem loadValue_eq {cmd : UInt8} {item : SParamItem} {idindex : ℕ} {g : Globals}
    (hmem : (cmd, item) ∈ registeredItems)
    (hmatch : (g.gParamTable.table idindex).Matches cmd item) (hrd : item.flag = flagRD) :
  ∃ (src : Mem) (n : UInt8) (g' : Globals), (cmd = 0x57 → n = g.cmdTmpLen ∧ g' = g)
    ∧ (cmd ≠ 0x57 → n.toNat ≤ 200)
    ∧ ∀ o buffer, buffer 2 = cmd → readLen buffer = emptyLen o → loadValue o idindex buffer g
      = ((buffer.copy (paraOff o) src n.toNat).put 1 (emptyLen o + n), g')
  := by
  have hone : ∀ o : CmdOrigin, 1 < paraOff o := by
    intro o
    cases o <;> decide
  have hcopy : ∀ (o : CmdOrigin) (buffer src : Mem) n,
      (buffer.copy (paraOff o) src n) 1 = buffer 1 := by
    intro o buffer src n
    exact Mem.copy_below (hone o)
  cases hvalue : item.value with
  | none =>
    have hall : ∀ e ∈ registeredItems, e.2.flag = flagRD → e.2.value = none → e.1 = 0x8D := by
      decide
    have hserial : cmd = 0x8D := hall _ hmem hrd hvalue
    subst hserial
    refine ⟨g.deviceSerial.load, 12, g, fun h => absurd h (by decide), fun _ => by decide, ?_⟩
    intro o buffer hcmd hlen
    rw [readLen, if_neg (by rw [hcmd]; decide)] at hlen
    unfold loadValue
    dsimp only
    rw [hmatch.value, hvalue]
    dsimp only
    rw [if_pos hcmd, hcopy, hlen]
    rfl
  | some v =>
    by_cases hrecord : cmd = 0x57
    · subst hrecord
      refine ⟨g.valueMem v, g.cmdTmpLen, g, fun _ => ⟨rfl, rfl⟩, fun h => absurd rfl h, ?_⟩
      intro o buffer hcmd hlen
      rw [readLen, if_pos hcmd] at hlen
      unfold loadValue
      dsimp only
      rw [hmatch.value, hvalue]
      dsimp only
      rw [if_pos hcmd, hcopy, hlen]
    · by_cases hfilter : cmd = 0x16
      · subst hfilter
        obtain ⟨n, g', hn, hload⟩ := loadTagFilter_eq idindex g
        refine ⟨Mem.shift g.gDevice.load Offset.tagfilter, n, g', fun h => absurd h hrecord,
          fun _ => hn, ?_⟩
        intro o buffer hcmd hlen
        rw [readLen, if_neg (by rw [hcmd]; decide)] at hlen
        unfold loadValue
        dsimp only
        rw [hmatch.value, hvalue]
        dsimp only
        rw [if_neg (by rw [hcmd]; decide), if_pos hcmd, hload _ _ (hone o), hlen]
      · have hshort : ∀ e ∈ registeredItems, e.2.length.toNat ≤ 200 := by decide
        have hnot : ¬ IsTagFilterCmd cmd := not_tagFilter_of_read hmem hrd hfilter
        refine ⟨g.valueMem v, item.length, g, fun h => absurd h hrecord, fun _ => hshort _ hmem, ?_⟩
        intro o buffer hcmd hlen
        rw [readLen, if_neg (by rw [hcmd]; exact hrecord)] at hlen
        unfold loadValue
        dsimp only
        rw [hmatch.value, hvalue]
        dsimp only
        rw [if_neg (by rw [hcmd]; exact hrecord), if_neg (by rw [hcmd]; exact hfilter), hcopy, hlen,
          hmatch.length hnot]

theorem restoreWorkStatus_base (cmd readerWorkStatus : UInt8) (g : Globals) :
  (restoreWorkStatus cmd readerWorkStatus g).settings.base = g.settings.base
  := by
  unfold restoreWorkStatus
  split
  · rfl
  · rfl

/-! ### Calling functions -/

section Call

variable {function : Option Handler} {called : Mem × Reader}

theorem callFunction_gParamTable
    (h : callFunction runHandler function buffer r = some called) :
  called.2.gParamTable = r.gParamTable
  := by
  obtain ⟨-, rfl⟩ | ⟨f, p, g, -, hrun, rfl⟩ := callFunction_cases h
  · rfl
  · exact keeps_run_gParamTable _ _ f _ _ _ hrun

/-- A function that is not one of `storingHandlers` changes `g_device` at most. -/
theorem callFunction_base (hnot : ∀ f, function = some f → f ∉ storingHandlers)
    (h : callFunction runHandler function buffer r = some called) :
  called.2.settings.base = r.settings.base
  := by
  obtain ⟨-, rfl⟩ | ⟨f, p, g, hf, hrun, rfl⟩ := callFunction_cases h
  · rfl
  · exact keeps_run_base _ _ (hnot f hf) _ _ _ hrun

/-- A function that is not one of `settingHandlers` does not change the settings. -/
theorem callFunction_settings (hnot : ∀ f, function = some f → f ∉ settingHandlers)
    (h : callFunction runHandler function buffer r = some called) :
  called.2.settings = r.settings
  := by
  obtain ⟨-, rfl⟩ | ⟨f, p, g, hf, hrun, rfl⟩ := callFunction_cases h
  · rfl
  · exact keeps_run _ _ (hnot f hf) _ _ _ hrun

end Call

/-- A function leaves the flash alone or is `ReadReaderPara`, and does not lower `setFlag`. -/
theorem run_setFlag {before : UInt8} {p p' : Mem} {h : Handler} {g g' : Globals}
    (hrun : h.run before p g = some (p', g')) :
  (g'.setFlag = g.setFlag ∨ g'.setFlag = 1) ∧ (h ≠ .readReaderPara → g'.flash = g.flash)
  := by
  by_cases hmem : h ∈ storingHandlers
  · cases h
    case setOutputPower =>
      obtain ⟨-, -, hset⟩ | ⟨-, -, hset⟩ := setOutputPower_cases hrun
      · exact ⟨.inr (congrArg Settings.setFlag hset), fun _ => congrArg Settings.flash hset⟩
      · exact ⟨.inl (congrArg Settings.setFlag hset), fun _ => congrArg Settings.flash hset⟩
    case setFrequency =>
      cases hrun
      exact ⟨.inr rfl, fun _ => rfl⟩
    case readReaderPara =>
      cases hrun
      exact ⟨.inl rfl, fun hne => absurd rfl hne⟩
    all_goals exact absurd hmem (by decide)
  · have hbase := keeps_run_base before p hmem g p' g' hrun
    exact ⟨.inl (congrArg (fun b => b.2.1) hbase), fun _ => congrArg (fun b => b.2.2) hbase⟩

theorem callFunction_setFlag {function : Option Handler} {called : Mem × Reader}
    (h : callFunction runHandler function buffer r = some called) :
  (called.2.setFlag = r.setFlag ∨ called.2.setFlag = 1)
    ∧ (function ≠ some .readReaderPara → called.2.flash = r.flash)
  := by
  obtain ⟨-, rfl⟩ | ⟨f, p, g, hf, hrun, rfl⟩ := callFunction_cases h
  · exact ⟨.inl rfl, fun _ => rfl⟩
  · obtain ⟨hflag, hflash⟩ := run_setFlag hrun
    refine ⟨hflag, fun hne => hflash ?_⟩
    intro heq
    exact hne (hf.trans (congrArg some heq))

/-! ### Every request -/

/-- The commands that are there to change the settings: the write requests, and two of the
third kind. -/
def writeCmds : List UInt8 :=
  0x04 :: 0x05 :: (registeredItems.filter fun e => e.2.flag = flagWR).map fun e => e.1

/-- `0x0D` alone has the function that writes the flash, and it is a write request. -/
theorem cmd_of_readReaderPara {c : UInt8} {item : SParamItem} (hmem : (c, item) ∈ registeredItems)
    (hf : item.function = some .readReaderPara) :
  c = 0x0D ∧ item.flag = flagWR
  := by
  have hall : ∀ e ∈ registeredItems, e.2.function = some .readReaderPara →
      e.1 = 0x0D ∧ e.2.flag = flagWR := by decide
  exact hall _ hmem hf

/-- Commands that are not there to change the settings have functions that change `g_device`
at most. -/
theorem storingHandlers_of_not_write {c : UInt8} {item : SParamItem} {f : Handler}
    (hmem : (c, item) ∈ registeredItems) (hcmd : c ∉ writeCmds) (hf : item.function = some f) :
  f ∉ storingHandlers
  := by
  have hall : ∀ e ∈ registeredItems, e.1 ∉ writeCmds →
      ∀ f ∈ storingHandlers, e.2.function ≠ some f := by decide
  intro hstoring
  exact hall _ hmem hcmd f hstoring hf

/-- After a read request the table is the same, up to the length of the entry of `0x16`, and
`setFlag` and the flash are what the function left. -/
theorem finishRead_base (o : CmdOrigin) (idindex : ℕ) (readerWorkStatus : UInt8)
    (called : Mem × Reader) :
  (finishRead o idindex readerWorkStatus called).2.2.setFlag = called.2.setFlag
    ∧ (finishRead o idindex readerWorkStatus called).2.2.flash = called.2.flash
    ∧ ((finishRead o idindex readerWorkStatus called).2.2.gParamTable = called.2.gParamTable
      ∨ called.1 2 = 0x16 ∧ ∃ n, (finishRead o idindex readerWorkStatus called).2.2.gParamTable
        = called.2.gParamTable.setLength idindex n)
  := by
  have hrestore := restoreWorkStatus_base (called.1 2) readerWorkStatus
    (loadValue o idindex called.1 called.2.toGlobals).2
  obtain hload | ⟨hcmd, n, hload⟩ :=
    loadValue_settings o idindex called.1 called.2.toGlobals
  · rw [hload] at hrestore
    exact ⟨congrArg (fun b => b.2.1) hrestore, congrArg (fun b => b.2.2) hrestore,
      .inl (congrArg (fun b => b.1) hrestore)⟩
  · rw [hload] at hrestore
    exact ⟨congrArg (fun b => b.2.1) hrestore, congrArg (fun b => b.2.2) hrestore,
      .inr ⟨hcmd, n, congrArg (fun b => b.1) hrestore⟩⟩

/-- A request of the third kind whose length is right runs its function on the parameters. -/
theorem otherRequest_of_function (run : HandlerRun) (idindex : ℕ) {f : Handler}
    (hlen : tagDataLenPurse o buffer = cmdoorCheckOk)
    (hf : (r.gParamTable.table idindex).function = some f) :
  otherRequest run o idindex buffer r
    = (run (buffer (paraOff o - 1)) (buffer.shift (paraOff o)) f r.toGlobals).map fun ran =>
        finishOther o (buffer.graft (paraOff o) ran.1, { toGlobals := ran.2, tagDataOrigin := o })
  := by
  unfold otherRequest
  dsimp only
  rw [if_neg (not_not.mpr hlen), hf]
  dsimp only
  rw [callFunction, Option.map_map]
  rfl

/-- A request of the third kind leaves the state that its function left. -/
theorem finishOther_reader (o : CmdOrigin) (called : Mem × Reader) :
  (finishOther o called).2.2 = called.2
  := by
  unfold finishOther
  split
  · rfl
  · rfl

/-- The table stays the registered one. -/
theorem processParamTable_registered (hreg : Registered r.gParamTable)
    {reply : UInt8 × Mem × Reader} (h : processParamTable o buffer length r = some reply) :
  Registered reply.2.2.gParamTable
  := by
  obtain ⟨-, -, hr⟩ | ⟨item, outcome, -, rfl, -, -, hkind⟩ := processParamTable_cases hreg h
  · rwa [hr]
  · rw [pack]
    obtain ⟨-, hwrite⟩ | ⟨-, hread⟩ | ⟨-, hother⟩ := hkind
    · obtain ⟨-, -, htable⟩ :=
        storeRequest_base o (r.gParamTable.getparaindex (buffer 2)) buffer r
      have hstored : Registered (storeRequest o (r.gParamTable.getparaindex (buffer 2)) buffer
          r).2.2.gParamTable := by
        obtain htable | ⟨hcmd, htable⟩ := htable
        · rwa [htable]
        · rw [htable]
          exact hreg.setLength (.inl hcmd) _
      obtain ⟨-, rfl⟩ | ⟨called, -, hcall, rfl⟩ := writeRequest_cases hwrite
      · exact hstored
      · rwa [← callFunction_gParamTable hcall] at hstored
    · obtain ⟨-, rfl⟩ | ⟨called, -, hcall, rfl⟩ := readRequest_cases hread
      · exact hreg
      · have hkept := callFunction_gParamTable hcall
        obtain ⟨-, -, htable | ⟨hcmd, n, htable⟩⟩ := finishRead_base o
          (r.gParamTable.getparaindex (buffer 2)) (r.gDevice.load Offset.readerWorkStatus) called
        · rwa [htable, hkept]
        · rw [callFunction_below (by decide) hcall] at hcmd
          rw [htable, hkept]
          exact hreg.setLength (.inr hcmd) _
    · obtain ⟨-, rfl⟩ | ⟨-, -, rfl⟩ | ⟨f, called, -, -, hcall, rfl⟩ := otherRequest_cases hother
      · exact hreg
      · exact hreg
      · rw [finishOther_reader, callFunction_gParamTable hcall]
        exact hreg

/-- Storing the value of a write request does not change which function is called. -/
theorem storeRequest_function (o : CmdOrigin) (idindex : ℕ) (buffer : Mem) (r : Reader) :
  ((storeRequest o idindex buffer r).2.2.gParamTable.table idindex).function
    = (r.gParamTable.table idindex).function
  := by
  obtain ⟨-, -, htable | ⟨-, htable⟩⟩ := storeRequest_base o idindex buffer r
  · rw [htable]
  · rw [htable, SParamTable.setLength, SParamTable.setItem]
    dsimp only
    rw [if_pos rfl]

/-- The default case of a write request, for a command other than `0x15`. -/
theorem storeRequest_value (o : CmdOrigin) (idindex : ℕ) {buffer : Mem} (r : Reader)
    (hbare : buffer 2 ∉ bareCmds) (hfilter : buffer 2 ≠ 0x15) :
  storeRequest o idindex buffer r
    = ((storeValue o idindex buffer r.toGlobals).1,
        buffer.put 1 (buffer 1
          - ((storeValue o idindex buffer r.toGlobals).2.gParamTable.table idindex).length),
        { r with toGlobals := (storeValue o idindex buffer r.toGlobals).2 })
  := by
  unfold storeRequest
  dsimp only
  rw [if_neg hbare, if_neg hfilter]

/-- `0x0D` raises `setFlag` before its length is looked at. -/
theorem storeRequest_factory (o : CmdOrigin) (idindex : ℕ) {buffer : Mem} (r : Reader)
    (hcmd : buffer 2 = 0x0D) :
  storeRequest o idindex buffer r
    = (if buffer 1 ≠ emptyLen o then ortherWrong else cmdoorCheckOk, buffer,
        { r with setFlag := 1 })
  := by
  have hbare : buffer 2 ∈ bareCmds := by
    rw [hcmd]
    decide
  have hupdate : buffer 2 ≠ 0x88 := by
    rw [hcmd]
    decide
  unfold storeRequest
  dsimp only
  rw [if_pos hbare, if_pos hcmd, if_neg hupdate]

/-- No request lowers `setFlag`, and one that writes the flash raises it. -/
theorem processParamTable_setFlag (hreg : Registered r.gParamTable)
    {reply : UInt8 × Mem × Reader} (h : processParamTable o buffer length r = some reply) :
  (reply.2.2.setFlag = r.setFlag ∧ reply.2.2.flash = r.flash) ∨ reply.2.2.setFlag = 1
  := by
  obtain ⟨-, -, hr⟩ | ⟨item, outcome, -, rfl, hmem, hmatch, hkind⟩ :=
    processParamTable_cases hreg h
  · exact .inl ⟨by rw [hr], by rw [hr]⟩
  · have hfun : (r.gParamTable.table (r.gParamTable.getparaindex (buffer 2))).function
        = item.function := hmatch.function
    rw [pack]
    obtain ⟨-, hwrite⟩ | ⟨hrd, hread⟩ | ⟨hothr, hother⟩ := hkind
    · obtain ⟨hflash, hflag, -⟩ :=
        storeRequest_base o (r.gParamTable.getparaindex (buffer 2)) buffer r
      obtain ⟨-, rfl⟩ | ⟨called, -, hcall, rfl⟩ := writeRequest_cases hwrite
      · obtain hflag | hflag := hflag
        · exact .inl ⟨hflag, hflash⟩
        · exact .inr hflag
      · obtain ⟨hcalled, hkept⟩ := callFunction_setFlag hcall
        rw [storeRequest_function, hfun] at hkept
        by_cases hfactory : item.function = some .readReaderPara
        · right
          rw [storeRequest_factory o _ r (cmd_of_readReaderPara hmem hfactory).1] at hcalled
          obtain hcalled | hcalled := hcalled
          · exact hcalled
          · exact hcalled
        · obtain hcalled | hcalled := hcalled
          · obtain hflag | hflag := hflag
            · exact .inl ⟨hcalled.trans hflag, (hkept hfactory).trans hflash⟩
            · exact .inr (hcalled.trans hflag)
          · exact .inr hcalled
    · obtain ⟨-, rfl⟩ | ⟨called, -, hcall, rfl⟩ := readRequest_cases hread
      · exact .inl ⟨rfl, rfl⟩
      · obtain ⟨hcalled, hkept⟩ := callFunction_setFlag hcall
        rw [hfun] at hkept
        obtain ⟨hflag, hflash, -⟩ := finishRead_base o
          (r.gParamTable.getparaindex (buffer 2)) (r.gDevice.load Offset.readerWorkStatus) called
        have hnot : item.function ≠ some .readReaderPara := by
          intro hfactory
          rw [(cmd_of_readReaderPara hmem hfactory).2] at hrd
          exact absurd hrd (by decide)
        obtain hcalled | hcalled := hcalled
        · exact .inl ⟨hflag.trans hcalled, hflash.trans (hkept hnot)⟩
        · exact .inr (hflag.trans hcalled)
    · obtain ⟨-, rfl⟩ | ⟨-, -, rfl⟩ | ⟨f, called, -, hf, hcall, rfl⟩ := otherRequest_cases hother
      · exact .inl ⟨rfl, rfl⟩
      · exact .inl ⟨rfl, rfl⟩
      · obtain ⟨hcalled, hkept⟩ := callFunction_setFlag hcall
        have hnot : some f ≠ some .readReaderPara := by
          intro hfactory
          rw [← hf, hfun] at hfactory
          rw [(cmd_of_readReaderPara hmem hfactory).2] at hothr
          exact absurd hothr (by decide)
        rw [finishOther_reader]
        obtain hcalled | hcalled := hcalled
        · exact .inl ⟨hcalled, hkept hnot⟩
        · exact .inr hcalled

/-- A request that is not there to change the settings keeps `setFlag` and the flash. -/
theorem processParamTable_of_not_write (hreg : Registered r.gParamTable)
    {reply : UInt8 × Mem × Reader} (hcmd : buffer 2 ∉ writeCmds)
    (h : processParamTable o buffer length r = some reply) :
  reply.2.2.setFlag = r.setFlag ∧ reply.2.2.flash = r.flash
  := by
  obtain ⟨-, -, hr⟩ | ⟨item, outcome, -, rfl, hmem, hmatch, hkind⟩ :=
    processParamTable_cases hreg h
  · exact ⟨by rw [hr], by rw [hr]⟩
  · have hnot : ∀ f, (r.gParamTable.table (r.gParamTable.getparaindex (buffer 2))).function
        = some f → f ∉ storingHandlers := by
      intro f hf
      exact storingHandlers_of_not_write hmem hcmd (hmatch.function.symm.trans hf)
    rw [pack]
    obtain ⟨hwr, -⟩ | ⟨-, hread⟩ | ⟨-, hother⟩ := hkind
    · exfalso
      apply hcmd
      have hall : ∀ e ∈ registeredItems, e.2.flag = flagWR → e.1 ∈ writeCmds := by decide
      exact hall _ hmem hwr
    · obtain ⟨-, rfl⟩ | ⟨called, -, hcall, rfl⟩ := readRequest_cases hread
      · exact ⟨rfl, rfl⟩
      · have hbase := callFunction_base hnot hcall
        obtain ⟨hflag, hflash, -⟩ := finishRead_base o
          (r.gParamTable.getparaindex (buffer 2)) (r.gDevice.load Offset.readerWorkStatus) called
        exact ⟨hflag.trans (congrArg (fun b => b.2.1) hbase),
          hflash.trans (congrArg (fun b => b.2.2) hbase)⟩
    · obtain ⟨-, rfl⟩ | ⟨-, -, rfl⟩ | ⟨f, called, -, hf, hcall, rfl⟩ := otherRequest_cases hother
      · exact ⟨rfl, rfl⟩
      · exact ⟨rfl, rfl⟩
      · have hbase := callFunction_base (fun f' hf' => hnot f' (hf.trans hf')) hcall
        rw [finishOther_reader]
        exact ⟨congrArg (fun b => b.2.1) hbase, congrArg (fun b => b.2.2) hbase⟩

/-! ### Some requests -/

/-- The request `0x0F` for command mode, not from RS485. -/
def commandModeRequest : Mem := Mem.ofList [0x40, 0x03, 0x0F, 0x00, 0xAE] fun _ => 0

/-- A new reader that was set to command mode has the registered parameter table. -/
theorem registered_commandMode {e : Surroundings} {buffer : Mem} {r : Reader}
    (h : processParamTable .sourceFrom232 commandModeRequest 5 (powerOn e)
      = some (cmdoorCheckOk, buffer, r)) :
  Registered r.gParamTable
  := processParamTable_registered (registered_powerOn e) h

/-- The request `0x09` that writes the working parameters, not from RS485. -/
def writeParamRequest (workpara : List UInt8) : Mem :=
  let frame := [0x40, 34, 0x09] ++ workpara
  Mem.ofList (frame ++ [~~~ frame.sum + 1]) fun _ => 0

end UhfReader
