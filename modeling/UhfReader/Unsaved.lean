import UhfReader.Effects

/-!
# Changes that are not noticed

The main loop saves `g_device` when `setFlag` is raised, and each place that changes a parameter
is meant to raise it.  Two do not: a tag filter without mask bytes, and `0x86` with the
frequencies that are set already, whose function then changes the first of them.  What they
change is lost with the power, unless the flash happens to hold it.
-/

open Memory

namespace UhfReader

variable {o : CmdOrigin} {buffer : Mem} {length : ℕ} {r : Reader} {reply : UInt8 × Mem × Reader}

/-- The members of `g_device` that hold parameters, with their lengths. -/
def paramFields : List (ℕ × ℕ) :=
  [(Offset.getReaderVersion, 4), (Offset.relayStatus, 1), (Offset.tagfilter, 35),
    (Offset.freqSelect, 6), (Offset.readerID, 10), (Offset.workpara, 32),
    (Offset.factoryWorkpara, 32), (Offset.autoParam, 32), (Offset.factoryAutoParam, 32)]

/-- The byte `i` of `g_device` belongs to a parameter. -/
def IsParameter (i : ℕ) : Prop := ∃ f ∈ paramFields, f.1 ≤ i ∧ i < f.1 + f.2

instance (i : ℕ) : Decidable (IsParameter i) := inferInstanceAs (Decidable (∃ f ∈ paramFields, _))

/-- The commands that write parameters, apart from start and stop and `0x0E`. -/
def savedCmds : List UInt8 := writeCmds.filter fun c => c ≠ 0x0F ∧ c ≠ 0x0E

/-- The flash holds every parameter that changed. -/
def SavedAlready (r r' : Reader) : Prop :=
  ∀ i, IsParameter i → changes r r' i = true →
    (stmflashReadDevice r'.flash).load i = r'.gDevice.load i

/-- A change of a parameter is noticed: `setFlag` is raised, or the change is saved already. -/
def Noticed (r r' : Reader) : Prop :=
  (∃ i, IsParameter i ∧ changes r r' i = true) → r'.setFlag ≠ 0 ∨ SavedAlready r r'

/-- A tag filter without mask bytes changes a byte that the flash does not hold. -/
structure FilterForgotten (o : CmdOrigin) (buffer : Mem) (r : Reader) : Prop where
  cmd : buffer 2 = 0x15
  bare : buffer 1 = emptyLen o + 4
  lost : ∃ i < 4, buffer (3 + i) ≠ r.gDevice.load (Offset.tagfilter + i)
    ∧ buffer (3 + i) ≠ (stmflashReadDevice r.flash).load (Offset.tagfilter + i)

/-- `0x86` repeats what is set, and the function leaves the lower frequency in the first byte
of `FreqSelect`, where neither `g_device` nor the flash holds it. -/
structure FrequencyForgotten (o : CmdOrigin) (buffer : Mem) (r : Reader) : Prop where
  cmd : buffer 2 = 0x86
  same : WindowSame r.gDevice Offset.freqSelect (buffer.shift (paraOff o)) 6
  lost : r.gDevice.load Offset.frequencyMin ≠ r.gDevice.load Offset.freqSelect
    ∧ r.gDevice.load Offset.frequencyMin
      ≠ (stmflashReadDevice r.flash).load Offset.freqSelect

/-! ### The two commands -/

/-- A filter without mask bytes that is acknowledged is stored, and `setFlag` is left alone. -/
theorem filter_unnoticed (hreg : Registered r.gParamTable)
    (h : processParamTable o buffer length r = some reply) (hok : reply.1 = cmdoorCheckOk)
    (hcmd : buffer 2 = 0x15) (hbare : buffer 1 = emptyLen o + 4) :
  reply.2.2.setFlag = r.setFlag
    ∧ reply.2.2.gDevice = r.gDevice.copy Offset.tagfilter (buffer.shift 3) 4
  := by
  obtain ⟨hdevice, hset⟩ := tagFilter_stored hreg h hcmd hok
  have hfour : (buffer 1 - emptyLen o).toNat = 4 := by
    rw [hbare]
    cases o <;> decide
  rw [filterSource, if_pos hbare, hfour] at hdevice
  rw [if_pos hbare] at hset
  exact ⟨hset, hdevice⟩

/-- `0x86` that repeats what is set and is acknowledged changes the first byte of `FreqSelect`,
and `setFlag` is left alone. -/
theorem frequency_unnoticed (hreg : Registered r.gParamTable)
    (h : processParamTable o buffer length r = some reply) (hok : reply.1 = cmdoorCheckOk)
    (hcmd : buffer 2 = 0x86)
    (hsame : WindowSame r.gDevice Offset.freqSelect (buffer.shift (paraOff o)) 6) :
  reply.2.2.setFlag = r.setFlag
    ∧ reply.2.2.gDevice
      = r.gDevice.put Offset.freqSelect (r.gDevice.load Offset.frequencyMin)
  := by
  have hmem : (buffer 2,
      (⟨some (.device Offset.freqSelect), flagWR, 6, some .setFrequency1⟩ : SParamItem))
      ∈ registeredItems := by
    rw [hcmd]
    decide
  have hplain : windowCmd (buffer 2) ∧ comparedCmd (buffer 2) := by
    rw [hcmd]
    decide
  obtain ⟨-, herror, -⟩ | ⟨-, -, -, buffer₁, called, hcall, hreader⟩ :=
    process_window_cases hreg hmem rfl hplain.1 rfl h
  · exact absurd hok herror
  · have hstored : (r.storeWindow (buffer 2) Offset.freqSelect (buffer.shift (paraOff o)) 6)
        = r := by
      rw [Reader.storeWindow, if_pos ⟨hplain.2, hsame⟩, hsame.copy_eq]
    dsimp only at hcall
    obtain ⟨hnone, -⟩ | ⟨f, p, g, hf, hrun, rfl⟩ := callFunction_cases hcall
    · cases hnone
    · cases hf
      have hset := setFrequency1_settings hrun
      rw [show (6 : UInt8).toNat = 6 from rfl, hstored] at hset
      rw [hreader]
      exact ⟨congrArg Settings.setFlag hset, congrArg Settings.gDevice hset⟩

/-! ### The other commands -/

/-- The function of a write request for a window does not change parameters, but for `0x86`. -/
theorem callFunction_parameter {c : UInt8} {item : SParamItem} {called : Mem × Reader} {i : ℕ}
    (hmem : (c, item) ∈ registeredItems) (hwr : item.flag = flagWR) (hwindow : windowCmd c)
    (hcmd : c ≠ 0x86) (hi : IsParameter i)
    (hcall : callFunction runHandler item.function buffer r = some called) :
  called.2.gDevice.load i = r.gDevice.load i
  := by
  have hall : ∀ e ∈ registeredItems, e.2.flag = flagWR → windowCmd e.1 → e.1 ≠ 0x86 →
      (∀ f ∈ settingHandlers, e.2.function ≠ some f) ∨ e.2.function = some .setBaudRate := by
    decide
  obtain hnot | hbaud := hall _ hmem hwr hwindow hcmd
  · have hkept := callFunction_settings (fun f hf hset => hnot f hset hf) hcall
    exact congrArg (fun s : Settings => s.gDevice.load i) hkept
  · apply callFunction_untouched hcall
    intro f hf
    obtain rfl := Option.some.inj (hbaud.symm.trans hf)
    apply decide_eq_false
    rintro rfl
    exact absurd hi (by decide)

/-- An acknowledged write of a window raises `setFlag` or leaves the parameters alone, or is the
`0x86` that does neither. -/
theorem noticed_window (hreg : Registered r.gParamTable)
    (h : processParamTable o buffer length r = some reply) (hok : reply.1 = cmdoorCheckOk)
    {item : SParamItem} (hmem : (buffer 2, item) ∈ registeredItems) (hwr : item.flag = flagWR)
    (hwindow : windowCmd (buffer 2)) :
  reply.2.2.setFlag ≠ 0
    ∨ (∀ i, IsParameter i → reply.2.2.gDevice.load i = r.gDevice.load i)
    ∨ (buffer 2 = 0x86 ∧ WindowSame r.gDevice Offset.freqSelect (buffer.shift (paraOff o)) 6)
  := by
  obtain ⟨off, hvalue, -⟩ := window_of_write hmem hwr hwindow
  obtain ⟨-, herror, -⟩ | ⟨-, -, -, buffer₁, called, hcall, hreader⟩ :=
    process_window_cases hreg hmem hwr hwindow hvalue h
  · exact absurd hok herror
  · have hraised : (r.storeWindow (buffer 2) off (buffer.shift (paraOff o))
        item.length.toNat).setFlag = 1 → called.2.setFlag ≠ 0 := by
      intro hset
      obtain hcalled | hcalled := (callFunction_setFlag hcall).1
      · rw [hcalled, hset]
        exact one_ne_zero
      · rw [hcalled]
        exact one_ne_zero
    rw [hreader]
    by_cases hfrequency : buffer 2 = 0x86
    · obtain rfl : item = ⟨some (.device Offset.freqSelect), flagWR, 6, some .setFrequency1⟩ := by
        rw [hfrequency] at hmem
        exact Registered.item_unique hmem (by decide)
      cases hvalue
      by_cases hsame : WindowSame r.gDevice Offset.freqSelect (buffer.shift (paraOff o)) 6
      · exact .inr (.inr ⟨hfrequency, hsame⟩)
      · left
        apply hraised
        exact Reader.storeWindow_of_differs hsame
    · obtain hset | ⟨hdevice, -⟩ := r.storeWindow_setFlag (buffer 2) off
        (buffer.shift (paraOff o)) item.length.toNat
      · exact .inl (hraised hset)
      · right; left
        intro i hi
        rw [callFunction_parameter hmem hwr hwindow hfrequency hi hcall, hdevice]

/-- `0x10`, `0x54` and `0x88` leave `g_device` alone. -/
theorem untouched_bare {c : UInt8} {item : SParamItem} (hmem : (c, item) ∈ registeredItems)
    (hcmd : c ∈ [(0x10 : UInt8), 0x54, 0x88]) (i : ℕ) :
  item.touches i = false
  := by
  have hall : ∀ e ∈ registeredItems, e.1 ∈ [(0x10 : UInt8), 0x54, 0x88] → e.2.value = none
      ∧ (e.2.function = some .clearTagListMem ∨ e.2.function = some .immediatelyNotify
        ∨ e.2.function = some .updateProgrram) := by decide
  obtain ⟨hvalue, hfun⟩ := hall _ hmem hcmd
  dsimp only at hvalue hfun
  apply decide_eq_false
  rw [SParamItem.covers, hvalue]
  rintro (⟨-, hcovers⟩ | hany)
  · cases hcovers
  · obtain hfun | hfun | hfun := hfun
    all_goals
      rw [hfun] at hany
      cases hany

/-- An acknowledged `0x04` or `0x05` raises `setFlag`. -/
theorem noticed_other (hreg : Registered r.gParamTable)
    (h : processParamTable o buffer length r = some reply) (hok : reply.1 = cmdoorCheckOk)
    {item : SParamItem} (hmem : (buffer 2, item) ∈ registeredItems) (hothr : item.flag = flagOTHR)
    (hcmd : buffer 2 ∈ savedCmds) :
  reply.2.2.setFlag ≠ 0
  := by
  have hall : ∀ e ∈ registeredItems, e.2.flag = flagOTHR → e.1 ∈ savedCmds →
      e.2.function = some .setOutputPower ∨ e.2.function = some .setFrequency := by decide
  have hpower := hall _ hmem hothr hcmd
  obtain ⟨-, herror, -⟩ | ⟨item', outcome, -, rfl, hmem', hmatch, hkind⟩ :=
    processParamTable_cases hreg h
  · exact absurd hok herror
  · obtain rfl := Registered.item_unique hmem hmem'
    have hfun : (r.gParamTable.table (r.gParamTable.getparaindex (buffer 2))).function
        = item.function := hmatch.function
    obtain ⟨hwr, -⟩ | ⟨hrd, -⟩ | ⟨-, hother⟩ := hkind
    · rw [hwr] at hothr
      exact absurd hothr (by decide)
    · rw [hrd] at hothr
      exact absurd hothr (by decide)
    · obtain ⟨herror, rfl⟩ | ⟨-, hnone, -⟩ | ⟨f, called, -, hf, hcall, rfl⟩ :=
        otherRequest_cases hother
      · rw [pack_error herror] at hok
        exact absurd hok herror
      · rw [hfun] at hnone
        rw [hnone] at hpower
        obtain hpower | hpower := hpower
        · cases hpower
        · cases hpower
      · rw [pack, finishOther_reader]
        rw [hfun] at hf
        obtain ⟨hnone, -⟩ | ⟨f', p, g, hf', hrun, rfl⟩ := callFunction_cases hcall
        · cases hnone
        · cases hf'
          rw [hf] at hpower
          obtain hpower | hpower := hpower
          · cases hpower
            obtain ⟨-, -, hset⟩ | ⟨-, hfail, -⟩ := setOutputPower_cases hrun
            · rw [show g.setFlag = 1 from congrArg Settings.setFlag hset]
              exact one_ne_zero
            · have herror : noTag ≠ cmdoorCheckOk := by decide
              rw [finishOther_refused hfail, pack_error herror] at hok
              exact absurd hok herror
          · cases hpower
            cases hrun
            exact one_ne_zero

/-- An acknowledged write of parameters raises `setFlag` or leaves the parameters alone, or is
one of the two that do neither. -/
theorem noticed_cases (hreg : Registered r.gParamTable)
    (h : processParamTable o buffer length r = some reply) (hok : reply.1 = cmdoorCheckOk)
    (hcmd : buffer 2 ∈ savedCmds) :
  reply.2.2.setFlag ≠ 0
    ∨ (∀ i, IsParameter i → reply.2.2.gDevice.load i = r.gDevice.load i)
    ∨ (buffer 2 = 0x15 ∧ buffer 1 = emptyLen o + 4)
    ∨ (buffer 2 = 0x86 ∧ WindowSame r.gDevice Offset.freqSelect (buffer.shift (paraOff o)) 6)
  := by
  obtain ⟨-, herror, -⟩ | ⟨item, outcome, hvalid, -, hmem, -, hkind⟩ :=
    processParamTable_cases hreg h
  · exact absurd hok herror
  · obtain ⟨hwr, -⟩ | ⟨hrd, -⟩ | ⟨hothr, -⟩ := hkind
    · by_cases hwindow : windowCmd (buffer 2)
      · obtain hset | hsame | hfrequency := noticed_window hreg h hok hmem hwr hwindow
        · exact .inl hset
        · exact .inr (.inl hsame)
        · exact .inr (.inr (.inr hfrequency))
      · have hrest : ∀ c ∈ savedCmds, ¬ windowCmd c →
            c = 0x15 ∨ c = 0x0D ∨ c ∈ [(0x10 : UInt8), 0x54, 0x88] ∨ c = 0x04 ∨ c = 0x05 := by
          decide +kernel
        obtain hfilter | hfactory | hbare | hpower | hfrequency := hrest _ hcmd hwindow
        · by_cases hfour : buffer 1 = emptyLen o + 4
          · exact .inr (.inr (.inl ⟨hfilter, hfour⟩))
          · left
            rw [(tagFilter_stored hreg h hfilter hok).2, if_neg hfour]
            exact one_ne_zero
        · obtain ⟨reply', hrun, hset, -⟩ := process_factory hreg hvalid hfactory
          obtain rfl := Option.some.inj (hrun.symm.trans h)
          left
          rw [hset]
          exact one_ne_zero
        · right; left
          intro i _
          apply processParamTable_untouched hreg h
          · intro hfilter
            rw [hfilter] at hbare
            exact absurd hbare (by decide)
          · intro item' hmem'
            exact untouched_bare hmem' hbare i
        · have hall : ∀ e ∈ registeredItems, e.2.flag = flagWR → e.1 ≠ 0x04 := by decide
          exact absurd hpower (hall _ hmem hwr)
        · have hall : ∀ e ∈ registeredItems, e.2.flag = flagWR → e.1 ≠ 0x05 := by decide
          exact absurd hfrequency (hall _ hmem hwr)
    · have hall : ∀ e ∈ registeredItems, e.2.flag = flagRD → e.1 ∉ savedCmds := by decide
      exact absurd hcmd (hall _ hmem hrd)
    · exact .inl (noticed_other hreg h hok hmem hothr hcmd)

/-! ### Which changes are noticed -/

/-- A byte of `g_device` that an acknowledged filter without mask bytes changes. -/
theorem filter_changes {d : SDevice} {src : Mem} {i : ℕ}
    (h : (d.copy Offset.tagfilter src 4).load i ≠ d.load i) :
  ∃ k < 4, i = Offset.tagfilter + k ∧ src k ≠ d.load i
  := by
  have hinside : Offset.tagfilter ≤ i ∧ i < Offset.tagfilter + 4 := by
    by_contra hout
    apply h
    apply Block.load_copy_outside
    omega
  obtain ⟨k, rfl⟩ := Nat.exists_eq_add_of_le hinside.1
  have hk : k < 4 := by omega
  rw [Block.load_copy_inside hk (by simp only [Offset.tagfilter]; omega)] at h
  exact ⟨k, hk, rfl, h⟩

/-- A change that is neither in the flash nor flagged is not noticed. -/
theorem not_noticed {r r' : Reader} {i : ℕ} {byte : UInt8} (hparam : IsParameter i)
    (hdown : r'.setFlag = 0) (hafter : r'.gDevice.load i = byte)
    (hnew : byte ≠ r.gDevice.load i) (hlost : byte ≠ (stmflashReadDevice r'.flash).load i) :
  ¬ Noticed r r'
  := by
  intro hnoticed
  have hchange : changes r r' i = true := by
    rw [changes_iff, hafter]
    exact hnew
  obtain hraised | hsaved := hnoticed ⟨i, hparam, hchange⟩
  · exact hraised hdown
  · exact hlost (hafter.symm.trans (hsaved i hparam hchange).symm)

section Acknowledged

variable (hreg : Registered r.gParamTable) (h : processParamTable o buffer length r = some reply)
  (hok : reply.1 = cmdoorCheckOk)

include hreg h hok

theorem FilterForgotten.not_noticed (hforgotten : FilterForgotten o buffer r)
    (hdown : r.setFlag = 0) :
  ¬ Noticed r reply.2.2
  := by
  obtain ⟨hset, hdevice⟩ := filter_unnoticed hreg h hok hforgotten.cmd hforgotten.bare
  have hflash : reply.2.2.flash = r.flash :=
    processParamTable_flash hreg h (by rw [hforgotten.cmd]; decide)
  obtain ⟨i, hi, hnew, hlost⟩ := hforgotten.lost
  have hparam : IsParameter (Offset.tagfilter + i) :=
    ⟨(Offset.tagfilter, 35), by decide, Nat.le_add_right _ _,
      Nat.add_lt_add_left (Nat.lt_trans hi (by decide)) _⟩
  apply UhfReader.not_noticed hparam (hset.trans hdown) _ hnew (hflash ▸ hlost)
  rw [hdevice, Block.load_copy_inside hi (by simp only [Offset.tagfilter]; omega),
    Mem.shift_apply]

theorem FrequencyForgotten.not_noticed (hforgotten : FrequencyForgotten o buffer r)
    (hdown : r.setFlag = 0) :
  ¬ Noticed r reply.2.2
  := by
  obtain ⟨hset, hdevice⟩ := frequency_unnoticed hreg h hok hforgotten.cmd hforgotten.same
  have hflash : reply.2.2.flash = r.flash :=
    processParamTable_flash hreg h (by rw [hforgotten.cmd]; decide)
  obtain ⟨hnew, hlost⟩ := hforgotten.lost
  apply UhfReader.not_noticed (by decide) (hset.trans hdown) _ hnew (hflash ▸ hlost)
  rw [hdevice, Block.load_put (by decide), if_pos rfl]

/-- A filter without mask bytes that is new to `g_device` is in the flash, if it is not
forgotten. -/
theorem filter_saved (hcmd : buffer 2 = 0x15) (hbare : buffer 1 = emptyLen o + 4)
    (hnot : ¬ FilterForgotten o buffer r) :
  SavedAlready r reply.2.2
  := by
  obtain ⟨-, hdevice⟩ := filter_unnoticed hreg h hok hcmd hbare
  have hflash : reply.2.2.flash = r.flash :=
    processParamTable_flash hreg h (by rw [hcmd]; decide)
  intro j _ hj
  rw [changes_iff, hdevice] at hj
  obtain ⟨k, hk, rfl, hnew⟩ := filter_changes hj
  rw [hdevice, Block.load_copy_inside hk (by simp only [Offset.tagfilter]; omega), hflash]
  by_contra hlost
  exact hnot ⟨hcmd, hbare, k, hk, hnew, fun heq => hlost heq.symm⟩

/-- The lower frequency in the first byte of `FreqSelect` is in the flash, if it is not
forgotten. -/
theorem frequency_saved (hcmd : buffer 2 = 0x86)
    (hsame : WindowSame r.gDevice Offset.freqSelect (buffer.shift (paraOff o)) 6)
    (hnot : ¬ FrequencyForgotten o buffer r) :
  SavedAlready r reply.2.2
  := by
  obtain ⟨-, hdevice⟩ := frequency_unnoticed hreg h hok hcmd hsame
  have hflash : reply.2.2.flash = r.flash :=
    processParamTable_flash hreg h (by rw [hcmd]; decide)
  intro j _ hj
  rw [changes_iff, hdevice, Block.load_put (by decide)] at hj
  split at hj
  · rename_i hfirst
    subst hfirst
    rw [hdevice, Block.load_put (by decide), if_pos rfl, hflash]
    by_contra hlost
    exact hnot ⟨hcmd, hsame, hj, fun heq => hlost heq.symm⟩
  · exact absurd rfl hj

end Acknowledged

/-- What an acknowledged write of parameters changes is noticed, unless `setFlag` was down and
the request is a tag filter without mask bytes that is new to `g_device` and to the flash, or a
`0x86` that repeats what is set when neither `g_device` nor the flash has the lower frequency in
the first byte of `FreqSelect`. -/
theorem changes_noticed_iff (r : Reader) (hreg : Registered r.gParamTable) (o : CmdOrigin)
    (buffer : Mem) (length : ℕ) (reply : UInt8 × Mem × Reader)
    (h : processParamTable o buffer length r = some reply) (hok : reply.1 = cmdoorCheckOk)
    (hcmd : buffer 2 ∈ savedCmds) :
  Noticed r reply.2.2
    ↔ r.setFlag ≠ 0 ∨ ¬ (FilterForgotten o buffer r ∨ FrequencyForgotten o buffer r)
  := by
  constructor
  · intro hnoticed
    by_contra hnot
    rw [not_or, not_not, not_not] at hnot
    obtain ⟨hdown, hfilter | hfrequency⟩ := hnot
    · exact hfilter.not_noticed hreg h hok hdown hnoticed
    · exact hfrequency.not_noticed hreg h hok hdown hnoticed
  · rintro hcond ⟨i, hi, hchange⟩
    obtain hraised | hsame | ⟨hfilter, hbare⟩ | ⟨hfrequency, hwindow⟩ :=
      noticed_cases hreg h hok hcmd
    · exact .inl hraised
    · rw [changes_iff] at hchange
      exact absurd (hsame i hi) hchange
    · obtain hup | hnot := hcond
      · left
        rwa [(filter_unnoticed hreg h hok hfilter hbare).1]
      · right
        exact filter_saved hreg h hok hfilter hbare fun hforgotten => hnot (.inl hforgotten)
    · obtain hup | hnot := hcond
      · left
        rwa [(frequency_unnoticed hreg h hok hfrequency hwindow).1]
      · right
        exact frequency_saved hreg h hok hfrequency hwindow fun hforgotten =>
          hnot (.inr hforgotten)

/-- A new reader is set to command mode and given a modulation depth of `0x41`, which raises
`setFlag`. -/
theorem changes_noticed_depth :
  let write := Mem.ofList [0x40, 0x03, 0x07, 0x41, 0x75] fun _ => 0
  ∃ buffer₀ r reply, processParamTable .sourceFrom232 commandModeRequest 5 (powerOn .blank)
      = some (cmdoorCheckOk, buffer₀, r)
    ∧ processParamTable .sourceFrom232 write 5 r = some reply
    ∧ Noticed r reply.2.2
  := by
  intro write
  have heval : ((processParamTable .sourceFrom232 commandModeRequest 5 (powerOn .blank)).bind
      fun mode => (processParamTable .sourceFrom232 write 5 mode.2.2).map
        fun reply => (mode.1, reply.1)) = some (cmdoorCheckOk, cmdoorCheckOk) := by
    rw [powerOn_eq]
    decide
  obtain ⟨⟨flag₀, buffer₀, r⟩, hmode, hreply⟩ := Option.bind_eq_some_iff.mp heval
  obtain ⟨reply, hreply, heq⟩ := Option.map_eq_some_iff.mp hreply
  simp only [Prod.mk.injEq] at heq
  obtain ⟨rfl, hok⟩ := heq
  have hreg : Registered r.gParamTable := registered_commandMode hmode
  refine ⟨buffer₀, r, reply, hmode, hreply, ?_⟩
  apply (changes_noticed_iff r hreg _ _ _ _ hreply hok (by decide)).mpr
  right
  rintro (hfilter | hfrequency)
  · exact absurd hfilter.cmd (by decide)
  · exact absurd hfrequency.cmd (by decide)

/-- A new reader is set to command mode and given a filter for the mask address 256: the filter
is acknowledged, and gone with the power. -/
theorem filter_not_noticed :
  let write := Mem.ofList [0x40, 0x06, 0x15, 0x01, 0x00, 0x00, 0x00, 0xA4] fun _ => 0
  ∃ buffer₀ r reply, processParamTable .sourceFrom232 commandModeRequest 5 (powerOn .blank)
      = some (cmdoorCheckOk, buffer₀, r)
    ∧ processParamTable .sourceFrom232 write 8 r = some reply ∧ reply.1 = cmdoorCheckOk
    ∧ write 2 ∈ savedCmds
    ∧ ¬ Noticed r reply.2.2
  := by
  intro write
  have heval : ((processParamTable .sourceFrom232 commandModeRequest 5 (powerOn .blank)).bind
      fun mode => (processParamTable .sourceFrom232 write 8 mode.2.2).map
        fun reply => (mode.1, mode.2.2.gDevice.load Offset.tagfilter, reply.1,
          reply.2.2.gDevice.load Offset.tagfilter, reply.2.2.setFlag,
          (stmflashReadDevice reply.2.2.flash).load Offset.tagfilter))
      = some (cmdoorCheckOk, 0, cmdoorCheckOk, 1, 0, 0) := by
    rw [powerOn_eq]
    decide +kernel
  obtain ⟨⟨flag₀, buffer₀, r⟩, hmode, hreply⟩ := Option.bind_eq_some_iff.mp heval
  obtain ⟨reply, hreply, heq⟩ := Option.map_eq_some_iff.mp hreply
  simp only [Prod.mk.injEq] at heq
  obtain ⟨rfl, hbefore, hok, hafter, hdown, hflash⟩ := heq
  refine ⟨buffer₀, r, reply, hmode, hreply, hok, by decide, ?_⟩
  intro hnoticed
  have hchange : changes r reply.2.2 Offset.tagfilter = true := by
    rw [changes_iff, hbefore, hafter]
    decide
  obtain hraised | hsaved := hnoticed ⟨Offset.tagfilter, by decide, hchange⟩
  · exact hraised hdown
  · have := hsaved Offset.tagfilter (by decide) hchange
    rw [hafter, hflash] at this
    exact absurd this (by decide)

end UhfReader
