import UhfReader.Agreement

/-!
# Windows of the parameter record

A write request for a member of `g_device` copies its parameters over a window of the record,
and a read request answers with one.  `Reader.storeWindow` is what the copy does: `setFlag` is
left alone when the window holds the parameters already, except for two commands that raise it
anyway.

The plain commands have functions that leave the settings alone.  For them the window is all
that changes, and what was written is read back.
-/

open Memory Stateful

namespace UhfReader

variable {o : CmdOrigin} {buffer : Mem} {length idindex off n : ℕ} {r : Reader}
  {item : SParamItem}

/-- The parameters of a request stand where those of a reply do. -/
abbrev requestPara (o : CmdOrigin) (buffer : Mem) : List UInt8 := replyPara o buffer

/-! ### Storing a window -/

/-- `compare` finds the window to hold the parameters already. -/
def WindowSame (d : SDevice) (off : ℕ) (para : Mem) (n : ℕ) : Prop :=
  compare (Mem.shift d.load off) para n = true

instance (d : SDevice) (off : ℕ) (para : Mem) (n : ℕ) : Decidable (WindowSame d off para n) :=
  inferInstanceAs (Decidable (_ = _))

theorem windowSame_iff {d : SDevice} {para : Mem} :
  WindowSame d off para n ↔ ∀ i < n, d.load (off + i) = para i
  := by
  rw [WindowSame, compare, List.all_eq_true]
  constructor
  · intro h i hi
    exact of_decide_eq_true (h i (List.mem_range.mpr hi))
  · intro h i hi
    exact decide_eq_true (h i (List.mem_range.mp hi))

/-- Copying what the window holds already changes nothing. -/
theorem WindowSame.copy_eq {d : SDevice} {para : Mem} (h : WindowSame d off para n) :
  d.copy off para n = d
  := by
  apply Block.copy_eq_self
  intro i hi _
  exact (windowSame_iff.mp h i hi).symm

/-- `0x09` and `0x13` store their parameters without a comparison. -/
def comparedCmd (cmd : UInt8) : Prop := cmd ≠ 0x09 ∧ cmd ≠ 0x13

instance (cmd : UInt8) : Decidable (comparedCmd cmd) := inferInstanceAs (Decidable (_ ∧ _))

/-- The reader with the `n` bytes from `off` on of `g_device` replaced by parameters. -/
def Reader.storeWindow (r : Reader) (cmd : UInt8) (off : ℕ) (para : Mem) (n : ℕ) : Reader :=
  { r with
    setFlag := if comparedCmd cmd ∧ WindowSame r.gDevice off para n then r.setFlag else 1
    gDevice := r.gDevice.copy off para n }

/-- A window that changes raises `setFlag`. -/
theorem Reader.storeWindow_setFlag (r : Reader) (cmd : UInt8) (off : ℕ) (para : Mem) (n : ℕ) :
  (r.storeWindow cmd off para n).setFlag = 1
    ∨ (r.storeWindow cmd off para n).gDevice = r.gDevice
      ∧ (r.storeWindow cmd off para n).setFlag = r.setFlag
  := by
  unfold storeWindow
  dsimp only
  split
  · rename_i h
    exact .inr ⟨h.2.copy_eq, rfl⟩
  · exact .inl rfl

/-- Parameters that the window does not hold raise `setFlag`. -/
theorem Reader.storeWindow_of_differs {cmd : UInt8} {para : Mem}
    (h : ¬ WindowSame r.gDevice off para n) :
  (r.storeWindow cmd off para n).setFlag = 1
  := by
  unfold storeWindow
  dsimp only
  rw [if_neg (not_and_of_not_right _ h)]

/-- The request has as many parameters as the entry says, and the first is in the range for
the command. -/
structure WindowRight (o : CmdOrigin) (buffer : Mem) (item : SParamItem) : Prop where
  len : (buffer 1).toNat = item.length.toNat + (emptyLen o).toNat
  range : rangeControl (buffer 2) (buffer (paraOff o)) = cmdoorCheckOk

/-- The default case of a write request, when the request is right. -/
theorem storeValue_window {g : Globals}
    (hvalue : (g.gParamTable.table idindex).value = some (.device off))
    (hright : WindowRight o buffer (g.gParamTable.table idindex))
    (hstatus : buffer 2 ≠ 0x0F) (hantenna : buffer 2 ≠ 0x0A) :
  storeValue o idindex buffer g
    = (cmdoorCheckOk,
        { g with
          setFlag :=
            if comparedCmd (buffer 2) ∧ WindowSame g.gDevice off (buffer.shift (paraOff o))
                (g.gParamTable.table idindex).length.toNat then g.setFlag else 1
          gDevice := g.gDevice.copy off (buffer.shift (paraOff o))
            (g.gParamTable.table idindex).length.toNat })
  := by
  have hrange : rangeControl (buffer 2) (buffer.shift (paraOff o) 0) = cmdoorCheckOk := hright.range
  unfold storeValue
  dsimp only
  rw [if_neg (not_not.mpr hright.len), hvalue]
  dsimp only
  rw [hrange, if_neg (not_not.mpr rfl), if_neg hstatus]
  by_cases hplain : comparedCmd (buffer 2)
  · rw [if_neg (not_or.mpr hplain)]
    by_cases hsame : WindowSame g.gDevice off (buffer.shift (paraOff o))
        (g.gParamTable.table idindex).length.toNat
    · have hcompare : compare (g.valueMem (.device off)) (buffer.shift (paraOff o))
          (g.gParamTable.table idindex).length.toNat = true := hsame
      rw [if_pos hcompare, if_pos ⟨hplain, hsame⟩, hsame.copy_eq]
    · have hcompare : ¬ compare (g.valueMem (.device off)) (buffer.shift (paraOff o))
          (g.gParamTable.table idindex).length.toNat = true := hsame
      rw [if_neg hcompare, if_pos hantenna, if_neg (not_and_of_not_right _ hsame)]
      rfl
  · have hraise : buffer 2 = 0x09 ∨ buffer 2 = 0x13 := by
      by_contra hnot
      exact hplain (not_or.mp hnot)
    rw [if_pos hraise, if_neg (not_and_of_not_left _ hplain)]
    rfl

/-- The default case of a write request, when the request is not right. -/
theorem storeValue_wrong {g : Globals}
    (hvalue : (g.gParamTable.table idindex).value = some (.device off))
    (hwrong : ¬ WindowRight o buffer (g.gParamTable.table idindex)) :
  (storeValue o idindex buffer g).1 ≠ cmdoorCheckOk ∧ (storeValue o idindex buffer g).2 = g
  := by
  unfold storeValue
  dsimp only
  by_cases hlen : (buffer 1).toNat
      = (g.gParamTable.table idindex).length.toNat + (emptyLen o).toNat
  · have hrange : rangeControl (buffer 2) (buffer.shift (paraOff o) 0) ≠ cmdoorCheckOk := by
      intro hok
      exact hwrong ⟨hlen, hok⟩
    rw [if_neg (not_not.mpr hlen), hvalue]
    dsimp only
    rw [if_pos hrange]
    exact ⟨hrange, rfl⟩
  · rw [if_pos hlen]
    exact ⟨show ortherWrong ≠ cmdoorCheckOk by decide, rfl⟩

/-! ### Write requests for a window -/

/-- The commands of write requests that copy their parameters over a window as they are. -/
def windowCmd (cmd : UInt8) : Prop := cmd ∉ bareCmds ∧ cmd ≠ 0x15 ∧ cmd ≠ 0x0F

instance (cmd : UInt8) : Decidable (windowCmd cmd) := inferInstanceAs (Decidable (_ ∧ _))

/-- The offset of the member of `g_device` that an entry refers to. -/
def SParamItem.deviceOff (item : SParamItem) : Option ℕ :=
  match item.value with
  | some (.device off) => some off
  | _ => none

theorem SParamItem.value_of_deviceOff (h : item.deviceOff = some off) :
  item.value = some (.device off)
  := by
  unfold deviceOff at h
  split at h
  · rename_i off' hvalue
    rw [hvalue, Option.some.inj h]
  · cases h

/-- Their entries refer to members of `g_device`. -/
theorem window_of_write {c : UInt8} (hmem : (c, item) ∈ registeredItems) (hwr : item.flag = flagWR)
    (hcmd : windowCmd c) :
  ∃ off, item.value = some (.device off) ∧ off + item.length.toNat ≤ 210
  := by
  have hall : ∀ e ∈ registeredItems, e.2.flag = flagWR → windowCmd e.1 →
      e.2.deviceOff.any (fun off => off + e.2.length.toNat ≤ 210) = true := by decide
  have hany := hall _ hmem hwr hcmd
  dsimp only at hany
  cases hoff : item.deviceOff with
  | none =>
    rw [hoff] at hany
    cases hany
  | some off =>
    rw [hoff, Option.any_some, decide_eq_true_iff] at hany
    exact ⟨off, SParamItem.value_of_deviceOff hoff, hany⟩

theorem SParamItem.Matches.windowRight_iff {c : UInt8} {entry : SParamItem}
    (hmatch : entry.Matches c item) (hcmd : ¬ IsTagFilterCmd c) :
  WindowRight o buffer entry ↔ WindowRight o buffer item
  := by
  have hlength := hmatch.length hcmd
  constructor
  · rintro ⟨hlen, hrange⟩
    exact ⟨hlength ▸ hlen, hrange⟩
  · rintro ⟨hlen, hrange⟩
    exact ⟨hlength.symm ▸ hlen, hrange⟩

/-- A write request for a window that is not right is refused and changes nothing. -/
theorem process_window_wrong (hreg : Registered r.gParamTable)
    (hvalid : Valid o buffer length r.toGlobals) (hmem : (buffer 2, item) ∈ registeredItems)
    (hwr : item.flag = flagWR) (hcmd : windowCmd (buffer 2))
    (hwrong : ¬ WindowRight o buffer item) :
  ∃ reply, processParamTable o buffer length r = some reply ∧ reply.1 ≠ cmdoorCheckOk
    ∧ reply.2.2 = r
  := by
  have hmatch := hreg.entry hmem rfl
  have hother : ¬ IsTagFilterCmd (buffer 2) := not_tagFilter_of_write hmem hwr hcmd.2.1
  obtain ⟨off, hvalue, -⟩ := window_of_write hmem hwr hcmd
  obtain ⟨herror, hsame⟩ := storeValue_wrong (o := o) (hmatch.value.trans hvalue)
    ((hmatch.windowRight_iff hother).not.mpr hwrong)
  have hstored := storeRequest_value o (r.gParamTable.getparaindex (buffer 2)) r hcmd.1 hcmd.2.1
  have hrefused : (storeRequest o (r.gParamTable.getparaindex (buffer 2)) buffer r).1
      ≠ cmdoorCheckOk := by
    rwa [hstored]
  rw [processParamTable, processWith_of_valid runHandler hvalid,
    dispatch_write runHandler hvalid (hmatch.flag.trans hwr), writeRequest, if_neg hrefused,
    Option.map_some]
  refine ⟨_, rfl, ?_, ?_⟩
  · rwa [pack_error hrefused]
  · rw [pack, hstored, hsame]

/-- A write request for a window that is right stores it, calls its function and is
acknowledged. -/
theorem process_window (hreg : Registered r.gParamTable)
    (hvalid : Valid o buffer length r.toGlobals) (hmem : (buffer 2, item) ∈ registeredItems)
    (hwr : item.flag = flagWR) (hcmd : windowCmd (buffer 2))
    (hvalue : item.value = some (.device off)) (hright : WindowRight o buffer item) :
  processParamTable o buffer length r
    = (callFunction runHandler item.function (buffer.put 1 (emptyLen o))
        (r.storeWindow (buffer 2) off (buffer.shift (paraOff o)) item.length.toNat)).map
      fun called => pack o (cmdoorCheckOk, called)
  := by
  have hmatch := hreg.entry hmem rfl
  have hother : ¬ IsTagFilterCmd (buffer 2) := not_tagFilter_of_write hmem hwr hcmd.2.1
  have hantenna : buffer 2 ≠ 0x0A := by
    have hall : ∀ e ∈ registeredItems, e.2.flag = flagWR → e.1 ≠ 0x0A := by decide
    exact hall _ hmem hwr
  have hwindow := storeValue_window (o := o) (hmatch.value.trans hvalue)
    ((hmatch.windowRight_iff hother).mpr hright) hcmd.2.2 hantenna
  have hstored := storeRequest_value o (r.gParamTable.getparaindex (buffer 2)) r hcmd.1 hcmd.2.1
  have hlength : (r.gParamTable.table (r.gParamTable.getparaindex (buffer 2))).length
      = item.length := hmatch.length hother
  have hfun : (r.gParamTable.table (r.gParamTable.getparaindex (buffer 2))).function
      = item.function := hmatch.function
  have hok : (storeRequest o (r.gParamTable.getparaindex (buffer 2)) buffer r).1
      = cmdoorCheckOk := by
    rw [hstored]
    exact congrArg Prod.fst hwindow
  have hreader : (storeRequest o (r.gParamTable.getparaindex (buffer 2)) buffer r).2.2
      = r.storeWindow (buffer 2) off (buffer.shift (paraOff o)) item.length.toNat := by
    rw [hstored, ← hlength]
    exact congrArg (fun stored : UInt8 × Globals => { r with toGlobals := stored.2 }) hwindow
  rw [processParamTable, processWith_of_valid runHandler hvalid,
    dispatch_write runHandler hvalid (hmatch.flag.trans hwr), writeRequest, if_pos hok,
    storeRequest_function, hfun, hreader, storeRequest_buffer hok, Option.map_map]
  rfl

/-- A write request for a window is refused and changes nothing, or it is right and is carried
out. -/
theorem process_window_cases (hreg : Registered r.gParamTable)
    (hmem : (buffer 2, item) ∈ registeredItems) (hwr : item.flag = flagWR)
    (hcmd : windowCmd (buffer 2)) (hvalue : item.value = some (.device off))
    {reply : UInt8 × Mem × Reader} (h : processParamTable o buffer length r = some reply) :
  (¬ (Valid o buffer length r.toGlobals ∧ WindowRight o buffer item)
      ∧ reply.1 ≠ cmdoorCheckOk ∧ reply.2.2 = r)
    ∨ (Valid o buffer length r.toGlobals ∧ WindowRight o buffer item
      ∧ reply.1 = cmdoorCheckOk ∧ ∃ buffer₁ called, callFunction runHandler item.function buffer₁
          (r.storeWindow (buffer 2) off (buffer.shift (paraOff o)) item.length.toNat)
        = some called ∧ reply.2.2 = called.2)
  := by
  by_cases hvalid : Valid o buffer length r.toGlobals
  · by_cases hright : WindowRight o buffer item
    · right
      rw [process_window hreg hvalid hmem hwr hcmd hvalue hright, Option.map_eq_some_iff] at h
      obtain ⟨called, hcall, rfl⟩ := h
      refine ⟨hvalid, hright, ?_, _, called, hcall, rfl⟩
      apply pack_ok (n := 0)
      · rw [callFunction_below (by decide) hcall, Mem.put_same, UInt8.add_zero]
      · decide
    · left
      obtain ⟨reply', hrun, herror, hsame⟩ :=
        process_window_wrong hreg hvalid hmem hwr hcmd hright
      obtain rfl := Option.some.inj (hrun.symm.trans h)
      exact ⟨fun hboth => hright hboth.2, herror, hsame⟩
  · left
    obtain ⟨flag, buffer', hrun, herror⟩ := processWith_of_not_valid runHandler hvalid
    obtain rfl := Option.some.inj (hrun.symm.trans h)
    exact ⟨fun hboth => hvalid hboth.1, herror, rfl⟩

/-! ### Read requests for a window -/

/-- A read request for a window is answered with the window, and leaves the settings alone, when
its function does. -/
theorem process_readWindow (hreg : Registered r.gParamTable)
    (hvalid : Valid o buffer length r.toGlobals) (hmem : (buffer 2, item) ∈ registeredItems)
    (hrd : item.flag = flagRD) (hplain : buffer 2 ∉ [0x06, 0x16, 0x57])
    (hnot : ∀ f, item.function = some f → f ∉ settingHandlers)
    (hvalue : item.value = some (.device off)) (hlen : buffer 1 = emptyLen o) :
  ∃ buffer' r', processParamTable o buffer length r = some (cmdoorCheckOk, buffer', r')
    ∧ replyPara o buffer' = (Mem.shift r.gDevice.load off).take item.length.toNat
    ∧ r'.settings = r.settings
  := by
  simp only [List.mem_cons, List.not_mem_nil, or_false, not_or] at hplain
  obtain ⟨hparam, hfilter, hrecord⟩ := hplain
  have hmatch := hreg.entry hmem rfl
  have hother : ¬ IsTagFilterCmd (buffer 2) := not_tagFilter_of_read hmem hrd hfilter
  have hshort : item.length.toNat < 250 := by
    have hall : ∀ e ∈ registeredItems, e.2.length.toNat < 250 := by decide
    exact hall _ hmem
  have hfun : (r.gParamTable.table (r.gParamTable.getparaindex (buffer 2))).function
      = item.function := hmatch.function
  obtain ⟨u, hu⟩ := callFunction_read hmem hrd
  have hcall := hu buffer r
  have hkept : (u r.toGlobals).settings = r.settings := callFunction_settings hnot hcall
  have hdevice : (u r.toGlobals).gDevice = r.gDevice := congrArg Settings.gDevice hkept
  have htable : (u r.toGlobals).gParamTable = r.gParamTable := congrArg Settings.gParamTable hkept
  have hvalue' : (r.gParamTable.table (r.gParamTable.getparaindex (buffer 2))).value
      = some (.device off) := hmatch.value.trans hvalue
  have hlength : (r.gParamTable.table (r.gParamTable.getparaindex (buffer 2))).length
      = item.length := hmatch.length hother
  have hreadLen : readLen buffer = emptyLen o := by rwa [readLen, if_neg hrecord]
  have hkeep : (buffer.copy (paraOff o) (Mem.shift r.gDevice.load off) item.length.toNat) 1
      = buffer 1 := by
    apply Mem.copy_below
    have := two_lt_paraOff o
    omega
  have hload : loadValue o (r.gParamTable.getparaindex (buffer 2)) buffer (u r.toGlobals)
      = ((buffer.copy (paraOff o) (Mem.shift r.gDevice.load off) item.length.toNat).put 1
          (emptyLen o + item.length), u r.toGlobals) := by
    unfold loadValue
    dsimp only
    rw [htable, hvalue', hlength]
    dsimp only
    rw [if_neg hrecord, if_neg hfilter, Globals.valueMem, hdevice, hkeep, hlen]
  have hrun : processParamTable o buffer length r
      = some (pack o (cmdoorCheckOk,
          (buffer.copy (paraOff o) (Mem.shift r.gDevice.load off) item.length.toNat).put 1
            (emptyLen o + item.length), { r with toGlobals := u r.toGlobals })) := by
    rw [processParamTable, processWith_of_valid runHandler hvalid,
      dispatch_read runHandler hvalid (hmatch.flag.trans hrd), readRequest,
      if_neg (not_not.mpr hreadLen), hfun, hcall, Option.map_some, Option.map_some, finishRead]
    dsimp only
    rw [hload, restoreWorkStatus, if_neg hparam]
  obtain ⟨hok, hpara⟩ := replyPara_ok (o := o) (n := item.length)
    (Mem.put_same (buffer.copy (paraOff o) (Mem.shift r.gDevice.load off) item.length.toNat) 1
      (emptyLen o + item.length)) hshort
  rw [pack, hok] at hrun
  refine ⟨_, _, hrun, ?_, hkept⟩
  rw [hpara]
  apply Mem.AgreeBelow.take_eq
  intro i hi
  have hoff := two_lt_paraOff o
  rw [Mem.shift_apply, Mem.put_of_ne (by omega), Mem.copy_inside hi]

/-! ### Plain commands -/

/-- The write commands that copy their parameters over a window and do nothing else with the
settings. -/
def plainCmds : List UInt8 := [0x03, 0x07, 0x0C, 0x13, 0x17, 0x30, 0x32, 0x42, 0x85, 0x8B]

/-- The command that reads the window of a plain command.  The window of `0x02` starts with the
one of `0x85` and is longer. -/
def getterOf (cmd : UInt8) : Option UInt8 :=
  match cmd with
  | 0x03 => some 0x0B
  | 0x07 => some 0x08
  | 0x13 => some 0x14
  | 0x30 => some 0x31
  | 0x32 => some 0x33
  | 0x42 => some 0x43
  | 0x85 => some 0x02
  | 0x8B => some 0x8C
  | _ => none

/-- A request with the command `cmd` that passes the checks of `processParamTable`, apart from
the one of the working mode. -/
structure CheckedRequest (o : CmdOrigin) (cmd : UInt8) (buffer : Mem) (length : ℕ) (g : Globals) :
    Prop extends WellFormed buffer length g where
  addressed : Addressed o buffer g
  cmd : buffer 2 = cmd

theorem CheckedRequest.valid {cmd : UInt8} {g : Globals} (h : CheckedRequest o cmd buffer length g)
    (hmode : g.gDevice.load Offset.readerWorkStatus ≠ workAct) :
  Valid o buffer length g
  := ⟨h.toWellFormed, h.addressed, fun hact => absurd hact hmode⟩

/-- A plain command takes any value. -/
theorem rangeControl_plain {cmd : UInt8} (h : cmd ∈ plainCmds) (value : UInt8) :
  rangeControl cmd value = cmdoorCheckOk
  := by
  simp only [plainCmds, List.mem_cons, List.not_mem_nil, or_false] at h
  rcases h with rfl | rfl | rfl | rfl | rfl | rfl | rfl | rfl | rfl | rfl
  all_goals rfl

/-- A plain command is right when the number of its parameters is. -/
theorem windowRight_plain (h : buffer 2 ∈ plainCmds) (hpos : 0 < item.length.toNat) :
  WindowRight o buffer item ↔ (requestPara o buffer).length = item.length.toNat
  := by
  rw [requestPara, replyPara, Mem.length_take]
  constructor
  · rintro ⟨hlen, -⟩
    omega
  · intro hcount
    refine ⟨by omega, ?_⟩
    apply rangeControl_plain h

/-- What the table has of the plain commands: their functions leave the settings alone, and the
windows do not reach the working mode and the address of the reader. -/
theorem plainCmds_registered {cmd : UInt8} (h : cmd ∈ plainCmds)
    (hmem : (cmd, item) ∈ registeredItems) :
  item.flag = flagWR ∧ windowCmd cmd ∧ 0 < item.length.toNat
    ∧ (item.function = none ∨ ∃ f ∈ updateHandlers, f ∉ settingHandlers ∧ item.function = some f)
  := by
  have hall : ∀ e ∈ registeredItems, e.1 ∈ plainCmds → e.2.flag = flagWR ∧ windowCmd e.1
      ∧ 0 < e.2.length.toNat ∧ (e.2.function = none
        ∨ ∃ f ∈ updateHandlers, f ∉ settingHandlers ∧ e.2.function = some f) := by decide
  exact hall _ hmem h

/-- The window of a plain command does not reach the working mode. -/
theorem plain_window_status {cmd : UInt8} (h : cmd ∈ plainCmds)
    (hmem : (cmd, item) ∈ registeredItems) (hvalue : item.value = some (.device off)) :
  Offset.readerWorkStatus < off ∨ off + item.length.toNat ≤ Offset.readerWorkStatus
  := by
  have hall : ∀ e ∈ registeredItems, e.1 ∈ plainCmds → e.2.deviceOff.all (fun off =>
      Offset.readerWorkStatus < off ∨ off + e.2.length.toNat ≤ Offset.readerWorkStatus)
      = true := by decide
  have hoff := hall _ hmem h
  rw [SParamItem.deviceOff, hvalue, Option.all_some, decide_eq_true_iff] at hoff
  exact hoff

/-- The command that reads the window of a plain command is registered with a window that starts
with it, and has no more than it but for `0x02`. -/
theorem getter_registered {cmd getter : UInt8} (hmem : (cmd, item) ∈ registeredItems)
    (hgetter : getterOf cmd = some getter) :
  ∃ item', (getter, item') ∈ registeredItems ∧ item'.value = item.value ∧ item'.flag = flagRD
    ∧ getter ∉ [0x06, 0x16, 0x57] ∧ (∀ f, item'.function = some f → f ∉ settingHandlers)
    ∧ item.length.toNat ≤ item'.length.toNat ∧ (getter ≠ 0x02 → item'.length = item.length)
  := by
  have hall : ∀ e ∈ registeredItems, ∀ getter ∈ getterOf e.1, ∃ e' ∈ registeredItems,
      e'.1 = getter ∧ e'.2.value = e.2.value ∧ e'.2.flag = flagRD
        ∧ getter ∉ ([0x06, 0x16, 0x57] : List UInt8)
        ∧ (∀ f ∈ settingHandlers, e'.2.function ≠ some f)
        ∧ e.2.length.toNat ≤ e'.2.length.toNat
        ∧ (getter ≠ 0x02 → e'.2.length = e.2.length) := by decide +kernel
  obtain ⟨⟨c, item'⟩, hmem', rfl, hvalue, hflag, hplain, hfun, hle, hlength⟩ :=
    hall _ hmem getter hgetter
  refine ⟨item', hmem', hvalue, hflag, hplain, ?_, hle, hlength⟩
  intro f hf hset
  exact hfun f hset hf

/-- The function of a plain command returns and leaves the settings alone. -/
theorem callFunction_plain {function : Option Handler}
    (hfun : function = none
      ∨ ∃ f ∈ updateHandlers, f ∉ settingHandlers ∧ function = some f) (b : Mem) (r : Reader) :
  ∃ called, callFunction runHandler function b r = some called
    ∧ called.2.settings = r.settings ∧ called.1 1 = b 1
  := by
  have hreturns : ∃ called, callFunction runHandler function b r = some called := by
    obtain rfl | ⟨f, hf, -, rfl⟩ := hfun
    · exact ⟨_, rfl⟩
    · obtain ⟨u, hu⟩ := run_update hf
      simp only [callFunction, hu, Option.map_some]
      exact ⟨_, rfl⟩
  obtain ⟨called, hcall⟩ := hreturns
  refine ⟨called, hcall, ?_, callFunction_below (by decide) hcall⟩
  apply callFunction_settings _ hcall
  intro f hf
  obtain rfl | ⟨f', -, hnot, rfl⟩ := hfun
  · cases hf
  · cases hf
    exact hnot

/-- A plain command is answered with success when the number of its parameters is right, and
then its window is all that changes. -/
theorem process_plain (hreg : Registered r.gParamTable)
    (hvalid : Valid o buffer length r.toGlobals) (hcmd : buffer 2 ∈ plainCmds)
    (hmem : (buffer 2, item) ∈ registeredItems) (hvalue : item.value = some (.device off)) :
  ∃ flag buffer' r', processParamTable o buffer length r = some (flag, buffer', r')
    ∧ (flag = cmdoorCheckOk ↔ (requestPara o buffer).length = item.length.toNat)
    ∧ (flag = cmdoorCheckOk → r'.settings
      = (r.storeWindow (buffer 2) off (buffer.shift (paraOff o)) item.length.toNat).settings)
  := by
  obtain ⟨hwr, hwindow, hpos, hfun⟩ := plainCmds_registered hcmd hmem
  have hright_iff := windowRight_plain (o := o) hcmd hpos
  by_cases hright : WindowRight o buffer item
  · have hrun := process_window hreg hvalid hmem hwr hwindow hvalue hright
    obtain ⟨called, hcall, hset, hone⟩ := callFunction_plain hfun (buffer.put 1 (emptyLen o))
      (r.storeWindow (buffer 2) off (buffer.shift (paraOff o)) item.length.toNat)
    rw [hcall, Option.map_some] at hrun
    have hok : (pack o (cmdoorCheckOk, called)).1 = cmdoorCheckOk := by
      apply pack_ok (n := 0)
      · rw [hone, Mem.put_same, UInt8.add_zero]
      · decide
    refine ⟨_, _, _, hrun, ?_, fun _ => hset⟩
    exact ⟨fun _ => hright_iff.mp hright, fun _ => hok⟩
  · obtain ⟨reply, hrun, herror, -⟩ := process_window_wrong hreg hvalid hmem hwr hwindow hright
    refine ⟨_, _, _, hrun, ?_, fun hok => absurd hok herror⟩
    exact ⟨fun hok => absurd hok herror, fun hcount => absurd (hright_iff.mpr hcount) hright⟩

/-- In command mode, each of the plain commands, from any origin, is answered with success if and
only if it has as many parameters as its entry says.  Then `g_device` is as before with the
window of the entry replaced by the parameters, `setFlag` is raised if that is a change, and the
command that reads the window, sent next from any origin, is answered with the parameters, and
`0x02` with these and two more bytes. -/
theorem plain_write_reads_back (r : Reader) (hreg : Registered r.gParamTable)
    (hmode : r.gDevice.load Offset.readerWorkStatus ≠ workAct) (cmd : UInt8)
    (hcmd : cmd ∈ plainCmds) (off : ℕ) (n : UInt8) (function : Option Handler)
    (hitem : deviceItem cmd off flagWR n function ∈ registeredItems) (o : CmdOrigin)
    (buffer : Mem) (length : ℕ) (h : CheckedRequest o cmd buffer length r.toGlobals) :
  ∃ flag buffer' r', processParamTable o buffer length r = some (flag, buffer', r')
    ∧ (flag = cmdoorCheckOk ↔ (requestPara o buffer).length = n.toNat)
    ∧ (flag = cmdoorCheckOk →
      r'.gDevice = r.gDevice.copy off (buffer.shift (paraOff o)) n.toNat
      ∧ (r'.gDevice ≠ r.gDevice → r'.setFlag ≠ 0)
      ∧ ∀ getter, getterOf cmd = some getter → ∀ (o₁ : CmdOrigin) (buffer₁ : Mem) (length₁ : ℕ),
        CheckedRequest o₁ getter buffer₁ length₁ r'.toGlobals → buffer₁ 1 = emptyLen o₁ →
        ∃ buffer₂ r₂ rest,
          processParamTable o₁ buffer₁ length₁ r' = some (cmdoorCheckOk, buffer₂, r₂)
          ∧ replyPara o₁ buffer₂ = requestPara o buffer ++ rest
          ∧ (getter ≠ 0x02 → rest = []))
  := by
  obtain rfl := h.cmd
  obtain ⟨flag, buffer', r', hrun, hflag, hset⟩ :=
    process_plain hreg (h.valid hmode) hcmd hitem rfl
  refine ⟨flag, buffer', r', hrun, hflag, ?_⟩
  intro hok
  have hdevice : r'.gDevice = r.gDevice.copy off (buffer.shift (paraOff o)) n.toNat :=
    congrArg Settings.gDevice (hset hok)
  refine ⟨hdevice, ?_, ?_⟩
  · intro hchanged
    have hsetFlag : r'.setFlag = _ := congrArg Settings.setFlag (hset hok)
    rw [hsetFlag]
    obtain hone | ⟨hsame, -⟩ :=
      r.storeWindow_setFlag (buffer 2) off (buffer.shift (paraOff o)) n.toNat
    · intro hzero
      exact absurd (hone.symm.trans hzero) (by decide)
    · exact absurd (hdevice.trans hsame) hchanged
  · intro getter hgetter o₁ buffer₁ length₁ h₁ hlen₁
    obtain rfl := h₁.cmd
    obtain ⟨item', hmem', hvalue', hrd, hplain, hfun, hle, hlength⟩ :=
      getter_registered hitem hgetter
    have hstatus : r'.gDevice.load Offset.readerWorkStatus ≠ workAct := by
      rw [hdevice, Block.load_copy_outside]
      · exact hmode
      · exact plain_window_status hcmd hitem rfl
    obtain ⟨buffer₂, r₂, hrun₂, hpara₂, -⟩ := process_readWindow
      (processParamTable_registered hreg hrun) (h₁.valid hstatus) hmem' hrd hplain hfun
      hvalue' hlen₁
    dsimp only at hle hlength
    obtain ⟨k, hk⟩ : ∃ k, item'.length.toNat = n.toNat + k := Nat.exists_eq_add_of_le hle
    have hsize : off + n.toNat ≤ 210 := by
      obtain ⟨off', hoff', hsize⟩ := window_of_write hitem rfl (plainCmds_registered hcmd hitem).2.1
      cases hoff'
      exact hsize
    have hcount : (requestPara o buffer).length = n.toNat := hflag.mp hok
    have hwindow : (Mem.shift r'.gDevice.load off).take n.toNat = requestPara o buffer := by
      rw [requestPara, replyPara, Mem.length_take] at hcount
      rw [requestPara, replyPara, hcount]
      apply Mem.AgreeBelow.take_eq
      intro i hi
      rw [Mem.shift_apply, hdevice, Block.load_copy_inside hi (by omega)]
    refine ⟨buffer₂, r₂, ((Mem.shift r'.gDevice.load off).shift n.toNat).take k, hrun₂, ?_, ?_⟩
    · rw [hpara₂, hk, Mem.take_add, hwindow]
    · intro hother
      have hzero : k = 0 := by
        rw [hlength hother] at hk
        omega
      rw [hzero]
      rfl

/-- A new reader is set to command mode and given a modulation depth of `0x41`, which is read back
over RS485. -/
theorem plain_write_reads_back_depth :
  let write := Mem.ofList [0x40, 0x03, 0x07, 0x41, 0x75] fun _ => 0
  let read := Mem.ofList [0x40, 0x03, 0x08, 0x01, 0xB4] fun _ => 0
  ∃ buffer₀ r, processParamTable .sourceFrom232 commandModeRequest 5 (powerOn .blank)
      = some (cmdoorCheckOk, buffer₀, r)
    ∧ ∃ buffer' r', processParamTable .sourceFrom232 write 5 r = some (cmdoorCheckOk, buffer', r')
      ∧ r'.gDevice = r.gDevice.copy Offset.radioDepth (write.shift 3) 1
      ∧ ∃ buffer₂ r₂, processParamTable .sourceFrom485 read 5 r'
          = some (cmdoorCheckOk, buffer₂, r₂)
        ∧ replyPara .sourceFrom485 buffer₂ = [0x41]
  := by
  intro write read
  have heval : (processParamTable .sourceFrom232 commandModeRequest 5 (powerOn .blank)).map
      (fun reply => (reply.1, reply.2.2.gDevice.load Offset.readerWorkStatus,
        reply.2.2.gDevice.load Offset.address)) = some (cmdoorCheckOk, workCmd, 1) := by
    rw [powerOn_eq]
    decide
  obtain ⟨⟨flag₀, buffer₀, r⟩, hstart, heq⟩ := Option.map_eq_some_iff.mp heval
  simp only [Prod.mk.injEq] at heq
  obtain ⟨rfl, hmode, haddress⟩ := heq
  refine ⟨buffer₀, r, hstart, ?_⟩
  have hreg : Registered r.gParamTable := registered_commandMode hstart
  have hitem : deviceItem 0x07 Offset.radioDepth flagWR 1 (some .writeRadioDeep)
      ∈ registeredItems := by decide
  have hread : deviceItem 0x08 Offset.radioDepth flagRD 1 (some .readRadioDeep)
      ∈ registeredItems := by decide
  have hwrite : CheckedRequest .sourceFrom232 0x07 write 5 r.toGlobals := by
    refine ⟨⟨(hreg.found hitem).1, by decide, by decide, by decide⟩, ?_, rfl⟩
    intro horigin
    cases horigin
  obtain ⟨flag, buffer', r', hrun, hflag, hstored⟩ := plain_write_reads_back r hreg
    (by rw [hmode]; decide) 0x07 (by decide) _ _ _ hitem .sourceFrom232 write 5 hwrite
  obtain rfl := hflag.mpr (by decide)
  obtain ⟨hdevice, -, hgetter⟩ := hstored rfl
  refine ⟨buffer', r', hrun, hdevice, ?_⟩
  have hreg' : Registered r'.gParamTable := processParamTable_registered hreg hrun
  have hchecked : CheckedRequest .sourceFrom485 0x08 read 5 r'.toGlobals := by
    refine ⟨⟨(hreg'.found hread).1, by decide, by decide, by decide⟩, ?_, rfl⟩
    intro _
    rw [hdevice, Block.load_copy_outside (by decide), haddress]
    rfl
  obtain ⟨buffer₂, r₂, rest, hrun₂, hpara, hrest⟩ :=
    hgetter 0x08 rfl .sourceFrom485 read 5 hchecked rfl
  refine ⟨buffer₂, r₂, hrun₂, ?_⟩
  rw [hpara, hrest (by decide)]
  rfl

end UhfReader
