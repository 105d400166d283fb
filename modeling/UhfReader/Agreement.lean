import UhfReader.Origins
import UhfReader.LongReplies

/-!
# Both layouts of a request do the same

The three kinds of requests are taken one after the other.  For each of them the outcomes for
the two layouts are compared, from the values stored up to the reply, and `origins_agree_iff`
puts them together.
-/

open Memory Stateful

namespace UhfReader

variable {o o' : CmdOrigin} {cmd address : UInt8} {para : List UInt8} {b b' : Mem} {r : Reader}
  {idindex : ℕ} {item : SParamItem}

/-! ### Write requests -/

theorem memcpyValue_congr {src src' : Mem} {n : ℕ} (h : Mem.AgreeBelow n src src') (g : Globals)
    (v : ValuePtr) :
  g.memcpyValue src n v = g.memcpyValue src' n v
  := by
  cases v with
  | device off =>
    simp only [Globals.memcpyValue]
    rw [Block.copy_congr h]
  | tmpAntenna =>
    simp only [Globals.memcpyValue]
    split
    · rename_i hn
      rw [h 0 hn]
    · rfl
  | sysReboot =>
    simp only [Globals.memcpyValue]
    split
    · rename_i hn
      rw [h 0 hn]
    · rfl
  | cmdTmpBuf =>
    simp only [Globals.memcpyValue]
    rw [Block.copy_congr h]

theorem compare_congr {src src' : Mem} {n : ℕ} (h : Mem.AgreeBelow n src src') (m : Mem) :
  compare m src n = compare m src' n
  := by
  rw [Bool.eq_iff_iff]
  simp only [compare, List.all_eq_true, List.mem_range, decide_eq_true_eq]
  constructor
  · intro hall i hi
    rw [← h i hi]
    exact hall i hi
  · intro hall i hi
    rw [h i hi]
    exact hall i hi

/-- A value is stored alike when the lengths of two requests are judged alike, and the
parameters are the same. -/
theorem storeValue_congr (g : Globals) (hcmd : b' 2 = b 2) {n : ℕ}
    (hn : (g.gParamTable.table idindex).length.toNat = n) (hpos : 0 < n)
    (hlen : (b' 1).toNat = n + (emptyLen o').toNat ↔ (b 1).toNat = n + (emptyLen o).toNat)
    (hpara : (b 1).toNat = n + (emptyLen o).toNat →
      Mem.AgreeBelow n (b.shift (paraOff o)) (b'.shift (paraOff o'))) :
  storeValue o' idindex b' g = storeValue o idindex b g
  := by
  unfold storeValue
  dsimp only
  rw [hcmd, hn]
  by_cases hright : (b 1).toNat = n + (emptyLen o).toNat
  · have hagree := hpara hright
    rw [if_neg (not_not.mpr hright), if_neg (not_not.mpr (hlen.mpr hright))]
    cases (g.gParamTable.table idindex).value with
    | none => rfl
    | some v =>
      dsimp only
      rw [← hagree 0 hpos, memcpyValue_congr hagree, memcpyValue_congr hagree,
        compare_congr hagree]
  · rw [if_pos hright, if_pos fun heq => hright (hlen.mp heq)]

/-- A filter is stored alike when the lengths of two requests are judged alike, and the bytes
stored are the same. -/
theorem storeTagFilter_congr (g : Globals) (hcount : b' 1 - emptyLen o' = b 1 - emptyLen o)
    (hfour : b' 1 = emptyLen o' + 4 ↔ b 1 = emptyLen o + 4)
    (hlt : b' 1 < emptyLen o' + 4 ↔ b 1 < emptyLen o + 4)
    (hplace : b 1 = emptyLen o + 4 → Mem.AgreeBelow 4 (b.shift 3) (b'.shift 3))
    (hpara : ¬ b 1 < emptyLen o + 4 → Mem.AgreeBelow (b 1 - emptyLen o).toNat
      (b.shift (paraOff o)) (b'.shift (paraOff o'))) :
  storeTagFilter o' idindex b' g = storeTagFilter o idindex b g
  := by
  unfold storeTagFilter
  dsimp only
  rw [hcount]
  by_cases hbare : b 1 = emptyLen o + 4
  · have hn : (b 1 - emptyLen o).toNat = 4 := by
      rw [hbare]
      cases o <;> rfl
    rw [if_pos hbare, if_pos (hfour.mpr hbare), hn]
    cases (g.gParamTable.table idindex).value with
    | none => rfl
    | some v =>
      dsimp only
      rw [memcpyValue_congr (hplace hbare)]
  · rw [if_neg hbare, if_neg (hfour.not.mpr hbare)]
    by_cases hshort : b 1 < emptyLen o + 4
    · rw [if_pos hshort, if_pos (hlt.mpr hshort)]
    · rw [if_neg hshort, if_neg (hlt.not.mpr hshort)]
      cases (g.gParamTable.table idindex).value with
      | none => rfl
      | some v =>
        dsimp only
        rw [memcpyValue_congr (hpara hshort)]

namespace IsRequest

/-- A value is stored alike. -/
theorem storeValue_eq (hb : IsRequest o cmd address para b) (hb' : IsRequest o' cmd address para b')
    (g : Globals) (hpos : 0 < (g.gParamTable.table idindex).length.toNat) :
  storeValue o' idindex b' g = storeValue o idindex b g
  := by
  apply storeValue_congr g (hb'.cmd.trans hb.cmd.symm) rfl hpos
  · exact (hb'.len_eq_iff _).trans (hb.len_eq_iff _).symm
  · intro hlen
    rw [← (hb.len_eq_iff _).mp hlen]
    exact hb.agree hb'

/-- The filter is stored with the length of the parameters. -/
theorem len_sub_emptyLen (hb : IsRequest o cmd address para b) :
  b 1 - emptyLen o = UInt8.ofNat para.length
  := by
  have hshort := hb.short
  have hlen := hb.len
  apply UInt8.toNat_inj.mp
  rw [UInt8.toNat_sub_of_le, UInt8.toNat_ofNat']
  · omega
  · rw [UInt8.le_iff_toNat_le]
    omega

theorem toNat_emptyLen_add_four (o : CmdOrigin) :
  (emptyLen o + 4).toNat = 4 + (emptyLen o).toNat
  := by
  cases o <;> rfl

theorem len_eq_four_iff (hb : IsRequest o cmd address para b) :
  b 1 = emptyLen o + 4 ↔ para.length = 4
  := by
  rw [← UInt8.toNat_inj, toNat_emptyLen_add_four]
  exact hb.len_eq_iff 4

theorem len_lt_four_iff (hb : IsRequest o cmd address para b) :
  b 1 < emptyLen o + 4 ↔ para.length < 4
  := by
  rw [UInt8.lt_iff_toNat_lt, toNat_emptyLen_add_four, hb.len]
  omega

/-- A filter is stored alike, when it has mask bytes or is read at the same place. -/
theorem storeTagFilter_eq (hb : IsRequest o cmd address para b)
    (hb' : IsRequest o' cmd address para b') (g : Globals)
    (hplace : para.length = 4 → Mem.AgreeBelow 4 (b.shift 3) (b'.shift 3)) :
  storeTagFilter o' idindex b' g = storeTagFilter o idindex b g
  := by
  have hcount : (b 1 - emptyLen o).toNat = para.length := by
    have hshort := hb.short
    rw [hb.len_sub_emptyLen, UInt8.toNat_ofNat']
    omega
  apply storeTagFilter_congr
  · exact hb'.len_sub_emptyLen.trans hb.len_sub_emptyLen.symm
  · exact hb'.len_eq_four_iff.trans hb.len_eq_four_iff.symm
  · exact hb'.len_lt_four_iff.trans hb.len_lt_four_iff.symm
  · intro hfour
    exact hplace (hb.len_eq_four_iff.mp hfour)
  · intro _
    rw [hcount]
    exact hb.agree hb'

/-- A filter of four bytes is stored from the fourth byte of the buffer on, in both layouts. -/
theorem storeRequest_filter (hb : IsRequest o 0x15 address para b)
    (hvalue : (r.gParamTable.table (r.gParamTable.getparaindex (b 2))).value
      = some (.device Offset.tagfilter)) (hfour : para.length = 4) :
  (storeRequest o (r.gParamTable.getparaindex (b 2)) b r).1 = cmdoorCheckOk
    ∧ (storeRequest o (r.gParamTable.getparaindex (b 2)) b r).2.2.gDevice
      = r.gDevice.copy Offset.tagfilter (b.shift 3) 4
  := by
  have hcount : b 1 - emptyLen o = 4 := by
    rw [hb.len_sub_emptyLen, hfour]
    rfl
  have hbare : b 2 ∉ bareCmds := by
    rw [hb.cmd]
    decide
  unfold storeRequest storeTagFilter
  dsimp only
  rw [if_neg hbare, if_pos hb.cmd, if_pos (hb.len_eq_four_iff.mpr hfour), hvalue, hcount]
  exact ⟨rfl, rfl⟩

/-- A write request stores alike, up to the call of its function. -/
theorem storeRequest_same (hb : IsRequest o cmd address para b)
    (hb' : IsRequest o' cmd address para b') (hmem : (cmd, item) ∈ registeredItems)
    (hmatch : (r.gParamTable.table idindex).Matches cmd item) (hwr : item.flag = flagWR)
    (hplace : cmd = 0x15 → para.length = 4 → Mem.AgreeBelow 4 (b.shift 3) (b'.shift 3)) :
  (storeRequest o' idindex b' r).1 = (storeRequest o idindex b r).1
    ∧ (storeRequest o' idindex b' r).2.2.toGlobals = (storeRequest o idindex b r).2.2.toGlobals
  := by
  by_cases hbare : cmd ∈ bareCmds
  · unfold storeRequest
    dsimp only
    rw [hb.cmd, hb'.cmd, if_pos hbare, if_pos hbare]
    refine ⟨?_, rfl⟩
    dsimp only
    by_cases hnil : para.length = 0
    · rw [if_neg (not_not.mpr (hb.len_eq_emptyLen_iff.mpr hnil)),
        if_neg (not_not.mpr (hb'.len_eq_emptyLen_iff.mpr hnil))]
    · rw [if_pos (hb.len_eq_emptyLen_iff.not.mpr hnil),
        if_pos (hb'.len_eq_emptyLen_iff.not.mpr hnil)]
  · by_cases hfilter : cmd = 0x15
    · unfold storeRequest
      dsimp only
      rw [hb.cmd, hb'.cmd, if_neg hbare, if_neg hbare, if_pos hfilter, if_pos hfilter]
      dsimp only
      rw [hb.storeTagFilter_eq hb' r.toGlobals (hplace hfilter)]
      exact ⟨rfl, rfl⟩
    · have hpos : 0 < (r.gParamTable.table idindex).length.toNat := by
        have hall : ∀ e ∈ registeredItems, 0 < e.2.length.toNat := by decide
        have hother : ¬ IsTagFilterCmd cmd := not_tagFilter_of_write hmem hwr hfilter
        rw [hmatch.length hother]
        exact hall _ hmem
      have hvalue := hb.storeValue_eq hb' r.toGlobals hpos
      rw [← hb.cmd] at hbare hfilter
      rw [storeRequest_value o idindex r hbare hfilter]
      rw [hb.cmd, ← hb'.cmd] at hbare hfilter
      rw [storeRequest_value o' idindex r hbare hfilter, hvalue]
      exact ⟨rfl, rfl⟩

end IsRequest

/-- The functions that change the globals without a look at the parameters. -/
def updateHandlers : List Handler :=
  [.setBaudRate, .setRelay, .readParam, .writeRadioDeep, .readRadioDeep, .writeParam,
    .setReaderPara, .readReaderPara, .reboot, .setReaderWorkType, .clearTagListMem,
    .setReaderTime, .getReaderTime, .setAutoPara, .getAutoPara, .setTagFilter,
    .setReaderNetwork, .setReaderMAC, .getReaderRevStatus, .setReaderOutStatus,
    .getReaderOutStatus, .immediatelyNotify, .getTagRecord, .updateProgrram]

theorem run_update {f : Handler} (h : f ∈ updateHandlers) :
  ∃ u : Globals → Globals, ∀ before p g, f.run before p g = some (p, u g)
  := by
  simp only [updateHandlers, List.mem_cons, List.not_mem_nil, or_false] at h
  rcases h with rfl | rfl | rfl | rfl | rfl | rfl | rfl | rfl | rfl | rfl | rfl | rfl | rfl | rfl
    | rfl | rfl | rfl | rfl | rfl | rfl | rfl | rfl | rfl | rfl
  all_goals exact ⟨_, fun _ _ _ => rfl⟩

/-- The functions of write and read requests, and what they do with the settings. -/
theorem function_of_stored (hmem : (cmd, item) ∈ registeredItems) (hkind : item.flag ≠ flagOTHR) :
  item.function = none ∨ item.function = some .setFrequency1
    ∨ ∃ f ∈ updateHandlers, item.function = some f
  := by
  have hall : ∀ e ∈ registeredItems, e.2.flag ≠ flagOTHR → e.2.function = none
      ∨ e.2.function = some .setFrequency1 ∨ ∃ f ∈ updateHandlers, e.2.function = some f := by
    decide
  exact hall _ hmem hkind

/-- `SetFrequency1` returns or not, and changes the settings, whatever its parameters. -/
theorem setFrequency1_settings_eq (p p' : Mem) (g : Globals) :
  (setFrequency1 p' g).map (fun ran => ran.2.settings)
    = (setFrequency1 p g).map (fun ran => ran.2.settings)
  := by
  have hreturn := setFrequency1_returns p p' g
  cases hran : setFrequency1 p g with
  | none =>
    rw [hran, Option.isSome_none, Option.isSome_eq_false_iff, Option.isNone_iff_eq_none] at hreturn
    rw [hreturn]
  | some ran =>
    rw [hran, Option.isSome_some, Option.isSome_iff_exists] at hreturn
    obtain ⟨ran', hran'⟩ := hreturn
    rw [hran']
    exact congrArg some ((setFrequency1_settings hran').trans (setFrequency1_settings hran).symm)

/-- The function of a write request changes the settings alike, wherever it finds its
parameters. -/
theorem callFunction_settings_eq {r r' : Reader} (hg : r'.toGlobals = r.toGlobals)
    (hmem : (cmd, item) ∈ registeredItems) (hkind : item.flag ≠ flagOTHR) (b b' : Mem) :
  (callFunction runHandler item.function b' r').map (fun called => called.2.settings)
    = (callFunction runHandler item.function b r).map (fun called => called.2.settings)
  := by
  obtain hnone | hfrequency | ⟨f, hf, hfun⟩ := function_of_stored hmem hkind
  · rw [hnone]
    simp only [callFunction, Option.map_some, hg]
  · rw [hfrequency]
    simp only [callFunction, Option.map_map, hg]
    exact setFrequency1_settings_eq (b.shift (paraOff r.tagDataOrigin))
      (b'.shift (paraOff r'.tagDataOrigin)) r.toGlobals
  · obtain ⟨u, hu⟩ := run_update hf
    rw [hfun]
    simp only [callFunction, hu, Option.map_some, hg]

/-- Neither of two options is there, or both are with the same image. -/
theorem map_eq_map_cases {α β γ : Type} {f : α → γ} {f' : β → γ} {a : Option α} {a' : Option β}
    (h : a'.map f' = a.map f) :
  (a = none ∧ a' = none) ∨ ∃ x y, a = some x ∧ a' = some y ∧ f' y = f x
  := by
  cases a with
  | none =>
    cases a' with
    | none => exact .inl ⟨rfl, rfl⟩
    | some y => cases h
  | some x =>
    cases a' with
    | none => cases h
    | some y => exact .inr ⟨x, y, rfl, rfl, Option.some.inj h⟩

/-- A write request has the same outcome in both layouts. -/
theorem IsRequest.writeRequest_same (hb : IsRequest o cmd address para b)
    (hb' : IsRequest o' cmd address para b') (hmem : (cmd, item) ∈ registeredItems)
    (hmatch : (r.gParamTable.table idindex).Matches cmd item) (hwr : item.flag = flagWR)
    (hplace : cmd = 0x15 → para.length = 4 → Mem.AgreeBelow 4 (b.shift 3) (b'.shift 3)) :
  SameOutcomes o o' (writeRequest runHandler o idindex b r)
    (writeRequest runHandler o' idindex b' r)
  := by
  obtain ⟨hflag, hglobals⟩ := hb.storeRequest_same hb' hmem hmatch hwr hplace
  have hdevice := congrArg Globals.gDevice hglobals
  have hset := congrArg Globals.setFlag hglobals
  by_cases hok : (storeRequest o idindex b r).1 = cmdoorCheckOk
  · have hok' := hflag.trans hok
    have hothr : item.flag ≠ flagOTHR := by
      rw [hwr]
      decide
    have hcalls := callFunction_settings_eq hglobals hmem hothr (storeRequest o idindex b r).2.1
      (storeRequest o' idindex b' r).2.1
    unfold writeRequest
    dsimp only
    rw [if_pos hok, if_pos hok', storeRequest_function, storeRequest_function, hmatch.function]
    obtain ⟨hnone, hnone'⟩ | ⟨called, called', hcall, hcall', hsettings⟩ := map_eq_map_cases hcalls
    · left
      rw [hnone, hnone']
      exact ⟨rfl, rfl⟩
    · right
      rw [hcall, hcall']
      refine ⟨_, _, rfl, rfl, rfl, congrArg Settings.gDevice hsettings,
        congrArg Settings.setFlag hsettings, fun _ => ⟨0, ?_, ?_, by decide, ?_⟩⟩
      · rw [callFunction_below (by decide) hcall, storeRequest_len hok, UInt8.add_zero]
      · rw [callFunction_below (by decide) hcall', storeRequest_len hok', UInt8.add_zero]
      · intro _ i hi
        exact absurd hi (Nat.not_lt_zero i)
  · have hok' : (storeRequest o' idindex b' r).1 ≠ cmdoorCheckOk := by rwa [hflag]
    unfold writeRequest
    dsimp only
    rw [if_neg hok, if_neg hok']
    exact .inr ⟨_, _, rfl, rfl, hflag, hdevice, hset, fun heq => absurd heq hok⟩

/-! ### Read requests -/

/-- The function of a write or read request other than `0x86` changes the globals without a look
at the buffer. -/
theorem callFunction_globals (hmem : (cmd, item) ∈ registeredItems) (hkind : item.flag ≠ flagOTHR)
    (hne : item.function ≠ some .setFrequency1) :
  ∃ u : Globals → Globals, ∀ b r, callFunction runHandler item.function b r
    = some (b, { r with toGlobals := u r.toGlobals })
  := by
  obtain hnone | hfrequency | ⟨f, hf, hfun⟩ := function_of_stored hmem hkind
  · refine ⟨id, fun b r => ?_⟩
    rw [hnone]
    rfl
  · exact absurd hfrequency hne
  · obtain ⟨u, hu⟩ := run_update hf
    refine ⟨u, fun b r => ?_⟩
    rw [hfun]
    simp only [callFunction, hu, Option.map_some, Mem.graft_shift]

theorem callFunction_read (hmem : (cmd, item) ∈ registeredItems) (hrd : item.flag = flagRD) :
  ∃ u : Globals → Globals, ∀ b r, callFunction runHandler item.function b r
    = some (b, { r with toGlobals := u r.toGlobals })
  := by
  have hothr : item.flag ≠ flagOTHR := by
    rw [hrd]
    decide
  have hall : ∀ e ∈ registeredItems, e.2.flag = flagRD →
      e.2.function ≠ some .setFrequency1 := by decide
  exact callFunction_globals hmem hothr (hall _ hmem hrd)

/-- The number of parameters of a read request. -/
def readCount (cmd : UInt8) : ℕ := if cmd = 0x57 then 3 else 0

theorem IsRequest.readLen_iff (hb : IsRequest o cmd address para b) :
  readLen b = emptyLen o ↔ para.length = readCount cmd
  := by
  rw [readLen, readCount, hb.cmd]
  split
  · have hlen := hb.len
    have hshort := hb.short
    rw [sub_eq_iff_eq_add, ← UInt8.toNat_inj, toNat_emptyLen_add (by decide), hlen]
    simp only [UInt8.reduceToNat]
    omega
  · exact hb.len_eq_emptyLen_iff

/-- A read request has the same outcome in both layouts. -/
theorem IsRequest.readRequest_same (hb : IsRequest o cmd address para b)
    (hb' : IsRequest o' cmd address para b') (hmem : (cmd, item) ∈ registeredItems)
    (hmatch : (r.gParamTable.table idindex).Matches cmd item) (hrd : item.flag = flagRD)
    (hrecord : cmd = 0x57 → para.length = 3 → (tagRecord r.toGlobals).cmdTmpLen ≠ 250) :
  SameOutcomes o o' (readRequest runHandler o idindex b r) (readRequest runHandler o' idindex b' r)
  := by
  unfold readRequest
  by_cases hlen : para.length = readCount cmd
  · have hlenb := hb.readLen_iff.mpr hlen
    have hlenb' := hb'.readLen_iff.mpr hlen
    obtain ⟨u, hu⟩ := callFunction_read hmem hrd
    have htable : ((u r.toGlobals).gParamTable.table idindex).Matches cmd item := by
      have hkept : (u r.toGlobals).gParamTable = r.gParamTable := callFunction_gParamTable (hu b r)
      rwa [hkept]
    obtain ⟨src, n, g', hn, hshort, hload⟩ := loadValue_eq hmem htable hrd
    have hne : n ≠ 250 := by
      rintro rfl
      by_cases hcmd : cmd = 0x57
      · have hu' := hu b r
        rw [function_of_record hmem hcmd] at hu'
        have htag : tagRecord r.toGlobals = u r.toGlobals :=
          congrArg (fun called => called.2.toGlobals) (Option.some.inj hu')
        rw [readCount, if_pos hcmd] at hlen
        apply hrecord hcmd hlen
        rw [htag]
        exact (hn hcmd).1.symm
      · exact absurd (hshort hcmd) (by decide)
    rw [if_neg (not_not.mpr hlenb), if_neg (not_not.mpr hlenb'), hmatch.function, hu, hu,
      Option.map_some, Option.map_some]
    unfold finishRead
    dsimp only
    rw [hload o b hb.cmd hlenb, hload o' b' hb'.cmd hlenb', hb.cmd, hb'.cmd]
    refine .inr ⟨_, _, rfl, rfl, rfl, rfl, rfl, fun _ => ⟨n, ?_, ?_, hne, fun _ => ?_⟩⟩
    · dsimp only
      rw [Mem.put_same]
    · dsimp only
      rw [Mem.put_same]
    · intro i hi
      have hreply : ∀ (o : CmdOrigin) (m : Mem) (v : UInt8),
          (((m.copy (paraOff o) src n.toNat).put 1 v).shift (paraOff o)) i = src i := by
        intro o m v
        have := two_lt_paraOff o
        rw [Mem.shift_apply, Mem.put_of_ne (by omega), Mem.copy_inside hi]
      dsimp only
      rw [hreply, hreply]
  · rw [if_pos (hb.readLen_iff.not.mpr hlen), if_pos (hb'.readLen_iff.not.mpr hlen)]
    exact sameOutcomes_error (by decide) b b' r

/-! ### Requests of the third kind -/

/-- The length byte that is asked for depends on parameters of the request, except for `0xEB`. -/
theorem tagDataLen_congr {n : ℕ} {p p' : Mem} (hp : Mem.AgreeBelow n p p') (hcmd : cmd ≠ 0xEB)
    (h : tagDataLen cmd p = some (n + 2)) :
  tagDataLen cmd p' = some (n + 2)
  := by
  have hfirst : 1 ≤ n → p' 0 = p 0 := fun hn => (hp 0 hn).symm
  have hmask : 4 ≤ n → p' 3 = p 3 := fun hn => (hp 3 hn).symm
  have hcount : 10 ≤ n → p' 9 = p 9 := fun hn => (hp 9 hn).symm
  unfold tagDataLen at h ⊢
  dsimp only at h ⊢
  split at h
  case h_10 => exact absurd rfl hcmd
  -- the length is fixed, or the byte it depends on is there when the length is right
  all_goals simp only [Option.some.injEq, reduceCtorEq] at h
  all_goals first
    | exact congrArg some h
    | rw [hfirst (by omega), h]
    | rw [hmask (by omega), h]
    | rw [hcount (by omega), h]

theorem tagDataLen_none (p p' : Mem) (h : tagDataLen cmd p = none) :
  tagDataLen cmd p' = none
  := by
  unfold tagDataLen at h ⊢
  dsimp only at h ⊢
  split at h
  all_goals first
    | rfl
    | cases h

/-- The length byte of `0xEB` is judged by the first parameter and the count. -/
theorem tagDataLen_count (p : Mem) :
  tagDataLen 0xEB p = some (10 + (p 0 * 2 + p (idBytes p + 3) * 2).toNat)
  := by
  simp only [tagDataLen]
  rw [toNat_idBytes_add_one]

/-- The length byte that `0xEB` is judged by. -/
theorem tagDataLen_write (p : Mem) :
  tagDataLen 0xEB p = some (10 + (idBytes p + dataBytes p) % 256)
  := by
  have hdata : (p 0 * 2 + p (idBytes p + 3) * 2).toNat = (idBytes p + dataBytes p) % 256 := by
    rw [UInt8.toNat_add, UInt8.toNat_mul (p (idBytes p + 3))]
    simp only [idBytes, dataBytes, UInt8.reduceToNat]
    omega
  rw [tagDataLen_count, hdata]

/-- The parameters of a request, with nothing behind them. -/
def paraMem (para : List UInt8) : Mem := Mem.ofList para fun _ => 0

theorem IsRequest.agree_paraMem (hb : IsRequest o cmd address para b) :
  Mem.AgreeBelow para.length (paraMem para) (b.shift (paraOff o))
  := by
  intro i hi
  rw [Mem.shift_apply, hb.para i hi, paraMem, Mem.ofList_of_lt hi]

/-- The request has the length that `TagDataLenPurse` asks for. -/
def LengthRight (cmd : UInt8) (para : List UInt8) : Prop :=
  tagDataLen cmd (paraMem para) = none ∨ tagDataLen cmd (paraMem para) = some (para.length + 2)

/-- The command finds what it reads among the parameters of the request:

* `0x04`, `0x05` and `0x0A` are carried out whatever the length of the request, and `0xDD` only
  without parameters;
* `0xEF` is too, and reads three parameters when the R2000 confirms its first command;
* `0xEB` counts the bytes to write in eight bits, once the R2000 has confirmed the selection of
  the tag, and the place of that count is not checked;
* `0xEE` and `0xDF` reply with as many bytes as the last reply had when they are cut off. -/
def ParaInside (cmd : UInt8) (para : List UInt8) (g : Globals) : Prop :=
  match cmd with
  | 0x04 | 0x0A | 0xDD => 1 ≤ para.length
  | 0x05 => 6 ≤ para.length
  | 0xEF => Confirmed 0xC5 (paraMem para) (tidStart g) → 3 ≤ para.length
  | 0xEE | 0xDF => LengthRight cmd para → CutOff (paraMem para) g →
      g.cmdTmpLen.toNat < 250 → g.cmdTmpLen.toNat ≤ para.length
  | 0xEB => idBytes (paraMem para) + 3 < para.length
      ∧ (LengthRight 0xEB para → Confirmed 0x85 (paraMem para) g →
        idBytes (paraMem para) + dataBytes (paraMem para) < 256)
  | _ => True

/-- The length is judged alike, by the parameters of the request. -/
theorem IsRequest.tagDataLenPurse_eq (hb : IsRequest o cmd address para b) {g : Globals}
    (hin : ParaInside cmd para g) :
  (LengthRight cmd para ∧ tagDataLenPurse o b = cmdoorCheckOk)
    ∨ ¬ LengthRight cmd para ∧ tagDataLenPurse o b = ortherWrong
  := by
  have hagree := hb.agree_paraMem
  have hsome : tagDataLen cmd (b.shift (paraOff o)) = some (para.length + 2)
      ↔ tagDataLen cmd (paraMem para) = some (para.length + 2) := by
    by_cases hcmd : cmd = 0xEB
    · subst hcmd
      have hid : idBytes (b.shift (paraOff o)) = idBytes (paraMem para) :=
        idBytes_congr hagree (Nat.zero_lt_of_lt hin.1)
      rw [tagDataLen_write, tagDataLen_write, dataBytes, dataBytes, hid, hagree _ hin.1]
    · exact ⟨tagDataLen_congr hagree.symm hcmd, tagDataLen_congr hagree hcmd⟩
  have hnone : tagDataLen cmd (b.shift (paraOff o)) = none
      ↔ tagDataLen cmd (paraMem para) = none := ⟨tagDataLen_none _ _, tagDataLen_none _ _⟩
  have hlen : ∀ n, (b 1).toNat = n + ((emptyLen o).toNat - 2) ↔ n = para.length + 2 := by
    intro n
    have := hb.len
    cases o <;> simp only [emptyLen, UInt8.reduceToNat] at this ⊢ <;> omega
  unfold tagDataLenPurse LengthRight
  rw [hb.cmd, ← hsome, ← hnone]
  cases tagDataLen cmd (b.shift (paraOff o)) with
  | none => exact .inl ⟨.inl rfl, rfl⟩
  | some n =>
    dsimp only
    by_cases hn : n = para.length + 2
    · rw [if_neg (not_not.mpr ((hlen n).mpr hn)), hn]
      exact .inl ⟨.inr rfl, rfl⟩
    · rw [if_pos ((hlen n).not.mpr hn)]
      refine .inr ⟨?_, rfl⟩
      rintro (h | h)
      · cases h
      · exact hn (Option.some.inj h)

theorem LengthRight.count (h : LengthRight cmd para) {n : ℕ}
    (hn : tagDataLen cmd (paraMem para) = some n) :
  n = para.length + 2
  := by
  obtain hnone | hsome := h
  · rw [hn] at hnone
    cases hnone
  · rw [hn] at hsome
    exact Option.some.inj hsome

/-- The functions of the third kind, with their commands. -/
def otherFunctions : List (UInt8 × Handler) :=
  [(0x04, .setOutputPower), (0x05, .setFrequency), (0x0A, .setAntenna), (0x18, .readR2000vertion),
    (0xDF, .epc1g2ListRSSIMaskTag), (0xDE, .epc1g2GetRSSIIDList), (0xDD, .epc1g2Accessmatch),
    (0xEF, .epc1g2ListTagID), (0xEE, .epc1g2ListMaskTagID), (0xED, .epc1g2GetIDList),
    (0xEC, .epc1g2ReadWordBlock), (0xEB, .epc1g2WriteWordBlock), (0xEA, .epc1g2WriteSetBlock),
    (0xE9, .eraseTagData), (0xE8, .destroyTag), (0xE7, .epc1g2WriteEPC), (0xE6, .dataLocking),
    (0xE5, .epc1g2Changeeas), (0xE4, .epc1g2EasAlarm), (0xE3, .epc1g2ReadProtect),
    (0xE2, .epc1g2RSTReadProtect), (0xE1, .setUserDataProtect), (0xE0, .readEPCAndData),
    (0xFF, .detectTagNum), (0xFE, .readLabelID), (0xFD, .listIDReport), (0xFB, .listSelectedID),
    (0xF6, .readByteBlock), (0xF5, .writeByteBlock), (0xF4, .writeProtect),
    (0xF3, .readWriteProtect), (0xF2, .writeAByte)]

theorem mem_otherFunctions {f : Handler} (hmem : (cmd, item) ∈ registeredItems)
    (hothr : item.flag = flagOTHR) (hf : item.function = some f) :
  (cmd, f) ∈ otherFunctions
  := by
  have hall : ∀ e ∈ registeredItems, e.2.flag = flagOTHR →
      ∃ x ∈ otherFunctions, e.1 = x.1 ∧ e.2.function = some x.2 := by decide
  obtain ⟨x, hx, hcmd, hfun⟩ := hall _ hmem hothr
  dsimp only at hcmd hfun
  rw [hf, Option.some.injEq] at hfun
  rw [hcmd, hfun]
  exact hx

section Run

variable {p p' : Mem} {g : Globals}

/-- The command reads no more than `m` of the parameters `p`:

* `0x04`, `0x05`, `0x0A` and `0xEF` are carried out whatever the length of the request, and
  `0xDD` only without parameters;
* `0xEB` counts the bytes to write in eight bits, and the place of that count is not checked;
* `0xEE` and `0xDF` reply with as many bytes as the last reply had when they are cut off, and
  replies of `limit` bytes do not count. -/
def ReadsBelow (cmd : UInt8) (limit m : ℕ) (p : Mem) (g : Globals) : Prop :=
  match cmd with
  | 0x04 | 0x0A => 1 ≤ m
  | 0x05 => 6 ≤ m
  | 0xEF => Confirmed 0xC5 p (tidStart g) → 3 ≤ m
  | 0xDD => idBytes p + 1 ≤ m
  | 0xEB => idBytes p + 3 < m ∧ (Confirmed 0x85 p g → idBytes p + dataBytes p < 256)
  | 0xEE | 0xDF => CutOff p g → g.cmdTmpLen.toNat < limit → g.cmdTmpLen.toNat ≤ m
  | _ => True

/-- `0xF5` and `0xF2` write and reply with the bytes that the tenth parameter counts. -/
theorem alike_writeBytes (hp : Mem.AgreeBelow (10 + (p 9).toNat) p p') :
  Alike (writeByteBlock p) (writeByteBlock p')
  := alike_writeByteBlock (encodeR2000_write6B hp) (hp 9 (by omega)).symm hp.shift

/-- A tag is written with the first parameters alone. -/
theorem simAt_write_inside (before before' : UInt8) {k m limit : ℕ} (hshort : k ≤ 253)
    (hk : k ≤ m) (hlimit : limit ≤ 255) (hp : Mem.AgreeBelow m p p')
    (hlen : ∀ n, tagDataLen 0xEB p = some n → n = k + 2) (hreads : ReadsBelow 0xEB limit m p g) :
  SimAt (SameBelow limit) g (epc1g2WriteWordBlock before p) (epc1g2WriteWordBlock before' p')
  := by
  have hcount := hlen _ (tagDataLen_write p)
  have hplace := hreads.1
  apply simAt_epc1g2WriteWordBlock before before' hlimit (encodeR2000_select (hp.mono (by omega)))
  intro hconfirmed
  have hwrap := hreads.2 hconfirmed
  rw [Nat.mod_eq_of_lt hwrap] at hcount
  exact encodeR2000From_write before before' (by omega) (hp.mono (by omega))

/-- A function of the third kind does the same when the parameters that it reads are the
same. -/
theorem simAt_run {f : Handler} (before before' : UInt8) (hmem : (cmd, f) ∈ otherFunctions)
    {k m limit : ℕ} (hshort : k ≤ 253) (hk : k ≤ m) (hlimit : limit ≤ 255)
    (hp : Mem.AgreeBelow m p p') (hlen : ∀ n, tagDataLen cmd p = some n → n = k + 2)
    (hreads : ReadsBelow cmd limit m p g) :
  SimAt (SameBelow limit) g (f.run before p) (f.run before' p')
  := by
  have hrow : ∀ g l l' k, Listing.Same l l' → Listing.Same (appendRow g l k) (appendRow g l' k) :=
    fun g _ _ k h => same_appendRow g h k
  have hrssi : ∀ (g : Globals) l l' (i j : ℕ), Listing.Same l l' →
      Listing.Same (appendRssi g (appendRow g l i) j) (appendRssi g (appendRow g l' i) j) :=
    fun g _ _ i j h => same_appendRssi g (same_appendRow g h i) j
  simp only [otherFunctions, List.mem_cons, List.not_mem_nil, or_false, Prod.mk.injEq] at hmem
  obtain ⟨rfl, rfl⟩ | ⟨rfl, rfl⟩ | ⟨rfl, rfl⟩ | ⟨rfl, rfl⟩ | ⟨rfl, rfl⟩ | ⟨rfl, rfl⟩ | ⟨rfl, rfl⟩
    | ⟨rfl, rfl⟩ | ⟨rfl, rfl⟩ | ⟨rfl, rfl⟩ | ⟨rfl, rfl⟩ | ⟨rfl, rfl⟩ | ⟨rfl, rfl⟩ | ⟨rfl, rfl⟩
    | ⟨rfl, rfl⟩ | ⟨rfl, rfl⟩ | ⟨rfl, rfl⟩ | ⟨rfl, rfl⟩ | ⟨rfl, rfl⟩ | ⟨rfl, rfl⟩ | ⟨rfl, rfl⟩
    | ⟨rfl, rfl⟩ | ⟨rfl, rfl⟩ | ⟨rfl, rfl⟩ | ⟨rfl, rfl⟩ | ⟨rfl, rfl⟩ | ⟨rfl, rfl⟩ | ⟨rfl, rfl⟩
    | ⟨rfl, rfl⟩ | ⟨rfl, rfl⟩ | ⟨rfl, rfl⟩ | ⟨rfl, rfl⟩ := hmem
  -- parameters of the reader
  · exact (alike_setOutputPower (hp.mono hreads)).at hlimit g
  · exact (alike_setFrequency (hp.mono hreads)).at hlimit g
  · exact (alike_setAntenna (hp.mono hreads)).at hlimit g
  · exact (alike_readR2000vertion p p').at hlimit g
  -- EPC C1G2
  · have hcount := hlen (6 + ((p 3).toNat + 7) / 8) rfl
    exact simAt_inventory6C hp (by omega) (fun g l l' k h => hrssi g l l' k k h) hlimit hreads
  · exact (alike_nextRows fun g pos l l' k h => hrssi g l l' (pos + k) k h).at hlimit g
  · exact (alike_epc1g2Accessmatch (hp.mono hreads)).at hlimit g
  · exact simAt_epc1g2ListTagID hlimit fun hconfirmed => hp.mono (hreads hconfirmed)
  · have hcount := hlen (6 + ((p 3).toNat + 7) / 8) rfl
    exact simAt_inventory6C hp (by omega) hrow hlimit hreads
  · exact (alike_nextRows fun g pos l l' k h => same_appendRow g h (pos + k)).at hlimit g
  · have hcount := hlen (10 + idBytes p) rfl
    have hselect := encodeR2000_select (hp.mono (show idBytes p + 1 ≤ m by omega))
    exact (alike_epc1g2ReadWordBlock hselect (encodeR2000_read (hp.mono (by omega)))).at hlimit g
  · exact simAt_write_inside before before' hshort hk hlimit hp hlen hreads
  · have hcount := hlen (9 + idBytes p) rfl
    have hselect := encodeR2000_select (hp.mono (show idBytes p + 1 ≤ m by omega))
    exact (alike_epc1g2WriteSetBlock hselect (encodeR2000_lock (hp.mono (by omega)))).at hlimit g
  · exact (alike_reply_zero p p').at hlimit g
  · have hcount := hlen (7 + idBytes p) rfl
    have hselect := encodeR2000_select (hp.mono (show idBytes p + 1 ≤ m by omega))
    exact (alike_destroyTag hselect (encodeR2000_kill (hp.mono (by omega)))).at hlimit g
  · have hcount := hlen (7 + idBytes p) rfl
    have hid := hp.mono (show idBytes p + 5 ≤ m by omega)
    exact (alike_epc1g2WriteEPC (tmpEpcdata_congr hid) (encodeR2000_writeEPC hid)).at hlimit g
  · exact (alike_reply_zero p p').at hlimit g
  · exact (alike_reply_zero p p').at hlimit g
  · exact (alike_reply_zero p p').at hlimit g
  · exact (alike_reply_zero p p').at hlimit g
  · exact (alike_reply_zero p p').at hlimit g
  · exact (alike_reply_zero p p').at hlimit g
  · have hcount := hlen 5 rfl
    exact (alike_readEPCAndData (hp.mono (by omega))).at hlimit g
  -- ISO18000-6B
  · exact (alike_detectTagNum p p').at hlimit g
  · exact (alike_readLabelID p p').at hlimit g
  · exact (alike_listIDReport p p').at hlimit g
  · have hcount := hlen 13 rfl
    exact (alike_listSelectedID (hp.mono (by omega))).at hlimit g
  · have hcount := hlen 12 rfl
    exact (alike_readByteBlock (hp.mono (by omega))).at hlimit g
  · have hcount := hlen (12 + (p 9).toNat) rfl
    exact (alike_writeBytes (hp.mono (by omega))).at hlimit g
  · have hcount := hlen 11 rfl
    exact (alike_writeProtect (hp.mono (by omega))).at hlimit g
  · have hcount := hlen 11 rfl
    exact (alike_readWriteProtect (hp.mono (by omega))).at hlimit g
  · have hcount := hlen (12 + (p 9).toNat) rfl
    exact (alike_writeBytes (hp.mono (by omega))).at hlimit g

/-- A command that finds what it reads among the parameters of the request reads no more. -/
theorem ParaInside.readsBelow (hlen : LengthRight cmd para) (hin : ParaInside cmd para g) :
  ReadsBelow cmd 250 para.length (paraMem para) g
  := by
  unfold ParaInside at hin
  unfold ReadsBelow
  split at hin
  · exact hin
  · exact hin
  · have hnone := hlen.count (n := 2) rfl
    omega
  · exact hin
  · exact hin
  · exact hin hlen
  · exact hin hlen
  · exact ⟨hin.1, hin.2 hlen⟩
  · split
    all_goals trivial

/-- A function of the third kind does the same for requests with the same parameters. -/
theorem run_alike {f : Handler} (before before' : UInt8) (hmem : (cmd, f) ∈ otherFunctions)
    (hshort : para.length ≤ 252) (hpara : Mem.AgreeBelow para.length (paraMem para) p)
    (hp : Mem.AgreeBelow para.length p p') (hlen : LengthRight cmd para)
    (hin : ParaInside cmd para g) :
  SimAt SameReply g (f.run before p) (f.run before' p')
  := by
  have hrun : ∀ {q} (before : UInt8), Mem.AgreeBelow para.length (paraMem para) q →
      SimAt (SameBelow 250) g (f.run 0 (paraMem para)) (f.run before q) := fun before hq =>
    simAt_run 0 before hmem (by omega) (Nat.le_refl _) (by decide) hq (fun _ => hlen.count)
      (hin.readsBelow hlen)
  -- both are compared with the parameters alone
  apply SimAt.of_common _ (hrun before hpara) (hrun before' (hpara.trans hp))
  intro g' q q₁ q₂ h₁ h₂ hshort'
  exact (h₁ hshort').symm.trans (h₂ hshort')

/-- A function of the third kind builds a reply of 250 bytes for the requests of `LongReply`. -/
theorem repliesLong_run {f : Handler} (before : UInt8) (hmem : (cmd, f) ∈ otherFunctions) {k : ℕ}
    (hshort : k ≤ 252) (hlen : ∀ n, tagDataLen cmd p = some n → n = k + 2) :
  RepliesLong (f.run before p) g ↔ LongReply cmd p g
  := by
  have hcounted : tagDataLen cmd p = some (12 + (p 9).toNat) → p 9 ≠ 250 := by
    intro hcount h
    have := hlen _ hcount
    rw [h] at this
    simp only [UInt8.reduceToNat] at this
    omega
  have hnever : ∀ {m : M Mem}, ¬ RepliesLong m g → (RepliesLong m g ↔ False) := fun h =>
    iff_false_intro h
  simp only [otherFunctions, List.mem_cons, List.not_mem_nil, or_false, Prod.mk.injEq] at hmem
  obtain ⟨rfl, rfl⟩ | ⟨rfl, rfl⟩ | ⟨rfl, rfl⟩ | ⟨rfl, rfl⟩ | ⟨rfl, rfl⟩ | ⟨rfl, rfl⟩ | ⟨rfl, rfl⟩
    | ⟨rfl, rfl⟩ | ⟨rfl, rfl⟩ | ⟨rfl, rfl⟩ | ⟨rfl, rfl⟩ | ⟨rfl, rfl⟩ | ⟨rfl, rfl⟩ | ⟨rfl, rfl⟩
    | ⟨rfl, rfl⟩ | ⟨rfl, rfl⟩ | ⟨rfl, rfl⟩ | ⟨rfl, rfl⟩ | ⟨rfl, rfl⟩ | ⟨rfl, rfl⟩ | ⟨rfl, rfl⟩
    | ⟨rfl, rfl⟩ | ⟨rfl, rfl⟩ | ⟨rfl, rfl⟩ | ⟨rfl, rfl⟩ | ⟨rfl, rfl⟩ | ⟨rfl, rfl⟩ | ⟨rfl, rfl⟩
    | ⟨rfl, rfl⟩ | ⟨rfl, rfl⟩ | ⟨rfl, rfl⟩ | ⟨rfl, rfl⟩ := hmem
  -- parameters of the reader
  · exact hnever repliesLong_setOutputPower
  · exact hnever repliesLong_setFrequency
  · exact hnever repliesLong_setAntenna
  · exact hnever repliesLong_readR2000vertion
  -- EPC C1G2
  · exact repliesLong_epc1g2ListRSSIMaskTag
  · exact repliesLong_epc1g2GetRSSIIDList
  · exact hnever repliesLong_epc1g2Accessmatch
  · exact repliesLong_epc1g2ListTagID
  · exact repliesLong_epc1g2ListMaskTagID
  · exact repliesLong_epc1g2GetIDList
  · exact repliesLong_epc1g2ReadWordBlock
  · exact hnever repliesLong_access
  · exact hnever repliesLong_access
  · exact hnever (repliesLong_short (by decide))
  · exact hnever repliesLong_access
  · exact hnever repliesLong_epc1g2WriteEPC
  · exact hnever (repliesLong_short (by decide))
  · exact hnever (repliesLong_short (by decide))
  · exact hnever (repliesLong_short (by decide))
  · exact hnever (repliesLong_short (by decide))
  · exact hnever (repliesLong_short (by decide))
  · exact hnever (repliesLong_short (by decide))
  · exact hnever repliesLong_readEPCAndData
  -- ISO18000-6B
  · exact hnever repliesLong_detectTagNum
  · exact repliesLong_readLabelID
  · exact repliesLong_listIDReport
  · exact repliesLong_listSelectedID
  · exact repliesLong_readByteBlock
  · exact hnever (repliesLong_writeByteBlock (hcounted rfl))
  · exact hnever repliesLong_writeProtect
  · exact hnever repliesLong_readWriteProtect
  · exact hnever (repliesLong_writeByteBlock (hcounted rfl))

end Run

/-- The reply of a function of the third kind is the same in both layouts. -/
theorem SameReply.finishOther {q q' : Mem} {g : Globals} (h : SameReply g q q')
    (hne : g.cmdTmpLen ≠ 250) (b b' : Mem) :
  SameOutcome o o'
    (finishOther o (b.graft (paraOff o) q, { toGlobals := g, tagDataOrigin := o }))
    (finishOther o' (b'.graft (paraOff o') q', { toGlobals := g, tagDataOrigin := o' }))
  := by
  have hreply : ∀ (o : CmdOrigin) (m q : Mem) (v : UInt8) (i : ℕ),
      (((m.graft (paraOff o) q).put 1 v).shift (paraOff o)) i = q i := by
    intro o m q v i
    have := two_lt_paraOff o
    rw [Mem.shift_apply, Mem.put_of_ne (by omega), Mem.graft_above]
  unfold UhfReader.finishOther
  dsimp only
  split
  · exact ⟨rfl, rfl, rfl, fun hok => absurd hok (show noTag ≠ cmdoorCheckOk by decide)⟩
  · refine ⟨rfl, rfl, rfl, fun _ => ⟨g.cmdTmpLen, ?_, ?_, hne, ?_⟩⟩
    · dsimp only
      rw [Mem.put_same, UInt8.add_comm]
    · dsimp only
      rw [Mem.put_same, UInt8.add_comm]
    · intro hshort i hi
      dsimp only
      rw [hreply, hreply]
      exact h hshort i hi

/-- A request of the third kind has the same outcome in both layouts. -/
theorem IsRequest.otherRequest_same (hb : IsRequest o cmd address para b)
    (hb' : IsRequest o' cmd address para b') (hmem : (cmd, item) ∈ registeredItems)
    (hmatch : (r.gParamTable.table (r.gParamTable.getparaindex cmd)).Matches cmd item)
    (hothr : item.flag = flagOTHR) (hin : ParaInside cmd para r.toGlobals)
    (hnot : LengthRight cmd para → ¬ LongReply cmd (paraMem para) r.toGlobals) :
  SameOutcomes o o' (otherRequest runHandler o (r.gParamTable.getparaindex cmd) b r)
    (otherRequest runHandler o' (r.gParamTable.getparaindex cmd) b' r)
  := by
  obtain ⟨hlen, hok⟩ | ⟨hlen, hwrong⟩ := hb.tagDataLenPurse_eq hin
  · obtain ⟨-, hok'⟩ | ⟨hlen', -⟩ := hb'.tagDataLenPurse_eq hin
    · obtain ⟨f, hf⟩ := function_of_other hmem hothr
      have hfun := hmatch.function.trans hf
      rw [otherRequest_of_function runHandler _ hok hfun,
        otherRequest_of_function runHandler _ hok' hfun]
      dsimp only [runHandler]
      have hmemf := mem_otherFunctions hmem hothr hf
      obtain ⟨hnone, hnone'⟩ | ⟨q, q', g', hran, hran', hsame⟩ :=
        run_alike (b (paraOff o - 1)) (b' (paraOff o' - 1)) hmemf hb.short hb.agree_paraMem
          (hb.agree hb') hlen hin
      · left
        rw [hnone, hnone']
        exact ⟨rfl, rfl⟩
      · have hne : g'.cmdTmpLen ≠ 250 := by
          intro hlong
          obtain ⟨-, hnone⟩ | ⟨q₀, q₁, g₁, hran₀, hran₁, -⟩ :=
            run_alike 0 (b (paraOff o - 1)) hmemf hb.short (Mem.AgreeBelow.refl _ _)
              hb.agree_paraMem hlen hin
          · rw [hran] at hnone
            cases hnone
          · rw [hran, Option.some.injEq, Prod.mk.injEq] at hran₁
            obtain ⟨-, rfl⟩ := hran₁
            apply hnot hlen
            rw [← repliesLong_run 0 hmemf hb.short fun _ => hlen.count]
            exact ⟨q₀, g', hran₀, hlong⟩
        right
        rw [hran, hran']
        exact ⟨_, _, rfl, rfl, SameReply.finishOther hsame hne b b'⟩
    · exact absurd hlen hlen'
  · obtain ⟨hlen', -⟩ | ⟨-, hwrong'⟩ := hb'.tagDataLenPurse_eq hin
    · exact absurd hlen' hlen
    · unfold otherRequest
      dsimp only
      rw [hwrong, hwrong', if_pos (by decide), if_pos (by decide)]
      exact sameOutcomes_error (by decide) b b' r

/-! ### Replies of 250 bytes -/

/-- A command is carried out, and replies with 250 bytes: the reply fits into the layout without
an address only. -/
structure FitsOneLayout (cmd : UInt8) (para : List UInt8) (g : Globals) : Prop where
  mode : modeAllows cmd g = true
  len : cmd ≠ 0x57 → LengthRight cmd para
  count : cmd = 0x57 → para.length = 3
  reply : LongReply cmd (paraMem para) g

/-- The commands that can reply with 250 bytes, with their entries. -/
theorem LongReply.registered {p : Mem} {g : Globals} (h : LongReply cmd p g) :
  ∃ item, (cmd, item) ∈ registeredItems ∧ (cmd = 0x57 ∨ item.flag = flagOTHR)
  := by
  have hall : ∀ c ∈ [0x57, 0xFE, 0xFB, 0xFD, 0xEE, 0xDF, 0xED, 0xDE, 0xEC, 0xEF, 0xF6],
      ∃ e ∈ registeredItems, c = e.1 ∧ (c = 0x57 ∨ e.2.flag = flagOTHR) := by
    decide +kernel
  have hmem : cmd ∈ [0x57, 0xFE, 0xFB, 0xFD, 0xEE, 0xDF, 0xED, 0xDE, 0xEC, 0xEF, 0xF6] := by
    unfold LongReply at h
    split at h
    case h_12 => cases h
    all_goals decide
  obtain ⟨e, he, rfl, hflag⟩ := hall cmd hmem
  exact ⟨e.2, he, hflag⟩

/-- A reply of 250 bytes in one layout. -/
theorem IsRequest.dispatch_long (hreg : Registered r.gParamTable)
    (hb : IsRequest o cmd (r.gDevice.load Offset.address) para b)
    (hin : ParaInside cmd para r.toGlobals) (hlong : FitsOneLayout cmd para r.toGlobals) :
  ∃ m r', dispatch runHandler o b r = some (cmdoorCheckOk, m, r') ∧ m 1 = emptyLen o + 250
  := by
  obtain ⟨item, hmem, hflag⟩ := hlong.reply.registered
  have hne : cmd ≠ 0 := by
    have hall : ∀ e ∈ registeredItems, e.1 ≠ 0 := by decide
    exact hall _ hmem
  obtain ⟨hfound, hmatch⟩ := hreg.found hmem
  have hvalid := hb.valid hfound hne hlong.mode
  have hentry := hreg.entry hmem hb.cmd
  by_cases hcmd : cmd = 0x57
  · subst hcmd
    obtain rfl : item = ⟨some .cmdTmpBuf, flagRD, 5, some .getTagRecord⟩ :=
      Registered.item_unique hmem (by decide)
    have hreply : r.recordPlace r.recordRounds = 250 := hlong.reply
    obtain ⟨m, hread, hm⟩ := readRequest_record (o := o) hb.cmd
      (hb.readLen_iff.mpr (hlong.count rfl)) hmatch
    refine ⟨m, { r with toGlobals := tagRecord r.toGlobals }, ?_, ?_⟩
    · rw [dispatch_read runHandler hvalid hentry.flag, hb.cmd]
      exact hread
    · rw [hm, tagRecord_cmdTmpLen_eq, hreply]
  · have hothr : item.flag = flagOTHR := hflag.resolve_left hcmd
    obtain ⟨f, hf⟩ := function_of_other hmem hothr
    have hmemf := mem_otherFunctions hmem hothr hf
    have hlength := hlong.len hcmd
    have hok : tagDataLenPurse o b = cmdoorCheckOk := by
      obtain ⟨-, hok⟩ | ⟨hwrong, -⟩ := hb.tagDataLenPurse_eq hin
      · exact hok
      · exact absurd hlength hwrong
    obtain ⟨q, g', hran, hlen⟩ :=
      (repliesLong_run 0 hmemf hb.short fun _ => hlength.count).mpr hlong.reply
    obtain ⟨hnone, -⟩ | ⟨q₀, q', g₀, hran₀, hran', -⟩ :=
      run_alike 0 (b (paraOff o - 1)) hmemf hb.short (Mem.AgreeBelow.refl _ _) hb.agree_paraMem
        hlength hin
    · rw [hnone] at hran
      cases hran
    · rw [hran, Option.some.injEq, Prod.mk.injEq] at hran₀
      obtain ⟨-, rfl⟩ := hran₀
      have hfinish : finishOther o
          (b.graft (paraOff o) q', { toGlobals := g', tagDataOrigin := o })
          = (cmdoorCheckOk, (b.graft (paraOff o) q').put 1 (g'.cmdTmpLen + emptyLen o),
            { toGlobals := g', tagDataOrigin := o }) := by
        rw [finishOther, if_neg]
        dsimp only
        rw [hlen]
        decide
      have hdispatch := dispatch_other runHandler hvalid (hentry.flag.trans hothr)
      rw [hb.cmd, otherRequest_of_function runHandler _ hok (hmatch.function.trans hf)] at hdispatch
      dsimp only [runHandler] at hdispatch
      rw [hran', Option.map_some, hfinish] at hdispatch
      refine ⟨_, _, hdispatch, ?_⟩
      rw [Mem.put_same, hlen, UInt8.add_comm]

/-- It is sent over RS232, and not over RS485. -/
theorem not_agree_of_long {x x' : Option (UInt8 × Mem × Reader)} {m m' : Mem} {r r' : Reader}
    (hx : x = some (cmdoorCheckOk, m, r)) (hx' : x' = some (cmdoorCheckOk, m', r'))
    (hm : m 1 = emptyLen .sourceFrom232 + 250) (hm' : m' 1 = emptyLen .sourceFrom485 + 250) :
  ¬ Agree .sourceFrom232 .sourceFrom485 (x.map (pack .sourceFrom232))
    (x'.map (pack .sourceFrom485))
  := by
  subst hx hx'
  rintro (⟨hnone, -⟩ | ⟨y, y', hy, hy', hsame⟩)
  · cases hnone
  · have hflag := hsame.flag
    rw [← Option.some.inj hy, ← Option.some.inj hy', pack, pack] at hflag
    dsimp only at hflag
    rw [packet_ok_flag, packet_ok_flag, hm, hm'] at hflag
    exact absurd hflag (by decide)

/-! ### Every request -/

/-- A request that has passed the checks has the same outcome in both layouts. -/
theorem IsRequest.dispatch_same (hreg : Registered r.gParamTable)
    (hb : IsRequest o cmd (r.gDevice.load Offset.address) para b)
    (hb' : IsRequest o' cmd (r.gDevice.load Offset.address) para b')
    (hfound : r.gParamTable.getparaindex cmd < countParamItemMax) (hcmd : cmd ≠ 0)
    (hin : modeAllows cmd r.toGlobals = true → ParaInside cmd para r.toGlobals)
    (hlong : ¬ FitsOneLayout cmd para r.toGlobals)
    (hplace : modeAllows cmd r.toGlobals = true → cmd = 0x15 → para.length = 4 →
      Mem.AgreeBelow 4 (b.shift 3) (b'.shift 3)) :
  SameOutcomes o o' (dispatch runHandler o b r) (dispatch runHandler o' b' r)
  := by
  by_cases hmode : modeAllows cmd r.toGlobals = true
  · have hvalid := hb.valid hfound hcmd hmode
    have hvalid' := hb'.valid hfound hcmd hmode
    have hin := hin hmode
    obtain ⟨item, hmem, hmatch⟩ := hreg.lookup hcmd hfound
    have hentry := hreg.entry hmem hb.cmd
    have hentry' := hreg.entry hmem hb'.cmd
    obtain hwr | hrd | hothr := registeredItems_flag hmem
    · rw [dispatch_write _ hvalid (hentry.flag.trans hwr),
        dispatch_write _ hvalid' (hentry'.flag.trans hwr), hb.cmd, hb'.cmd]
      exact hb.writeRequest_same hb' hmem hmatch hwr (hplace hmode)
    · rw [dispatch_read _ hvalid (hentry.flag.trans hrd),
        dispatch_read _ hvalid' (hentry'.flag.trans hrd), hb.cmd, hb'.cmd]
      apply hb.readRequest_same hb' hmem hmatch hrd
      rintro rfl hthree hrecord
      rw [tagRecord_cmdTmpLen_eq] at hrecord
      exact hlong ⟨hmode, fun hne => absurd rfl hne, fun _ => hthree, hrecord⟩
    · rw [dispatch_other _ hvalid (hentry.flag.trans hothr),
        dispatch_other _ hvalid' (hentry'.flag.trans hothr), hb.cmd, hb'.cmd]
      apply hb.otherRequest_same hb' hmem hmatch hothr hin
      intro hlen hreply
      refine hlong ⟨hmode, fun _ => hlen, ?_, hreply⟩
      have hother : ∀ e ∈ registeredItems, e.2.flag = flagOTHR → e.1 ≠ 0x57 := by decide
      intro hrecord
      exact absurd hrecord (hother _ hmem hothr)
  · unfold dispatch
    dsimp only
    rw [hb.cmd, hb'.cmd, if_pos hmode, if_pos hmode]
    exact sameOutcomes_error (by decide) b b' r

/-- A filter of four bytes is read from the byte before its place for RS485. -/
theorem IsRequest.shift_agree_iff (hb : IsRequest .sourceFrom232 cmd address para b)
    (hb' : IsRequest .sourceFrom485 cmd address para b') (hfour : para.length = 4) :
  Mem.AgreeBelow 4 (b.shift 3) (b'.shift 3) ↔ ∀ x ∈ para, x = address
  := by
  have haddr : b' 3 = address := hb'.address rfl
  have hplace : ∀ i (h : i < para.length), b (3 + i) = para.get ⟨i, h⟩ := hb.para
  have hplace' : ∀ i (h : i < para.length), b' (3 + (i + 1)) = para.get ⟨i, h⟩ := by
    intro i h
    rw [← hb'.para i h]
    congr 1
    show 3 + (i + 1) = 4 + i
    omega
  constructor
  · intro h
    -- each byte is the one before it, and the first is the address
    have hall : ∀ i (hi : i < para.length), para.get ⟨i, hi⟩ = address := by
      intro i
      induction i with
      | zero =>
        intro hi
        rw [← hplace 0 hi, ← haddr]
        exact h 0 (by decide)
      | succ i ih =>
        intro hi
        rw [← ih (by omega), ← hplace' i (by omega), ← hplace (i + 1) hi]
        exact h (i + 1) (by omega)
    intro x hx
    obtain ⟨i, hi, rfl⟩ := List.getElem_of_mem hx
    exact hall i hi
  · intro h i hi
    rw [Mem.shift_apply, Mem.shift_apply, hplace i (by omega), h _ (List.get_mem _ _)]
    cases i with
    | zero => exact haddr.symm
    | succ i => rw [hplace' i (by omega), h _ (List.get_mem _ _)]

/-- What a filter of four bytes leaves in `g_device`. -/
theorem IsRequest.process_filter (hreg : Registered r.gParamTable)
    (hb : IsRequest o 0x15 (r.gDevice.load Offset.address) para b)
    (hmode : modeAllows 0x15 r.toGlobals = true) (hfour : para.length = 4) :
  ∃ reply, processParamTable o b (para.length + (emptyLen o).toNat + 2) r = some reply
    ∧ reply.2.2.gDevice = r.gDevice.copy Offset.tagfilter (b.shift 3) 4
  := by
  have hmem : ((0x15 : UInt8),
      (⟨some (.device Offset.tagfilter), flagWR, 35, some .setTagFilter⟩ : SParamItem))
      ∈ registeredItems := by decide
  have hfound := (hreg.found hmem).1
  have hentry := hreg.entry hmem hb.cmd
  have hvalid := hb.valid hfound (by decide) hmode
  obtain ⟨hflag, hdevice⟩ := hb.storeRequest_filter hentry.value hfour
  have hfun : (r.gParamTable.table (r.gParamTable.getparaindex (b 2))).function
      = some .setTagFilter := hentry.function
  refine ⟨pack o (cmdoorCheckOk, (storeRequest o (r.gParamTable.getparaindex (b 2)) b r).2), ?_,
    hdevice⟩
  rw [hb.process_known hfound (by decide), dispatch_write _ hvalid hentry.flag, writeRequest,
    if_pos hflag, storeRequest_function, hfun, callFunction_setTagFilter, Option.map_some,
    Option.map_some]

/-- A filter of four bytes that does not consist of the address of the reader. -/
structure ShiftedFilter (cmd : UInt8) (para : List UInt8) (g : Globals) : Prop where
  filter : cmd = 0x15
  mode : modeAllows cmd g = true
  len : para.length = 4
  differ : ∃ x ∈ para, x ≠ g.gDevice.load Offset.address

/-- Requests with the same command and parameters are answered alike in both layouts, as long as
the code keeps to the parameters of the request, if and only if they do not carry a filter of
four bytes other than the address, and their reply does not have 250 bytes. -/
theorem origins_agree_iff (r : Reader) (hreg : Registered r.gParamTable) (cmd : UInt8)
    (para : List UInt8) (hshort : para.length ≤ 252) (rest rest' : Mem)
    (hin : modeAllows cmd r.toGlobals = true → ParaInside cmd para r.toGlobals) :
  Agree .sourceFrom232 .sourceFrom485
      (processParamTable .sourceFrom232
        (requestBuffer .sourceFrom232 cmd (r.gDevice.load Offset.address) para rest)
        (para.length + 4) r)
      (processParamTable .sourceFrom485
        (requestBuffer .sourceFrom485 cmd (r.gDevice.load Offset.address) para rest')
        (para.length + 5) r)
    ↔ ¬ ShiftedFilter cmd para r.toGlobals ∧ ¬ FitsOneLayout cmd para r.toGlobals
  := by
  have hb := isRequest_requestBuffer .sourceFrom232 cmd (r.gDevice.load Offset.address) rest hshort
  have hb' := isRequest_requestBuffer .sourceFrom485 cmd (r.gDevice.load Offset.address) rest'
    hshort
  generalize requestBuffer .sourceFrom232 cmd (r.gDevice.load Offset.address) para rest = b at hb ⊢
  generalize requestBuffer .sourceFrom485 cmd (r.gDevice.load Offset.address) para rest' = b'
    at hb' ⊢
  constructor
  · intro hagree
    constructor
    · rintro ⟨rfl, hmode, hfour, x, hx, hne⟩
      obtain ⟨reply, hreply, hdevice⟩ := hb.process_filter hreg hmode hfour
      obtain ⟨reply', hreply', hdevice'⟩ := hb'.process_filter hreg hmode hfour
      obtain ⟨hnone, -⟩ | ⟨y, y', hy, hy', hsame⟩ := hagree
      · exact absurd (hnone.symm.trans hreply) (by simp)
      · obtain rfl := Option.some.inj (hy.symm.trans hreply)
        obtain rfl := Option.some.inj (hy'.symm.trans hreply')
        have hcopy := hdevice'.symm.trans (hsame.gDevice.trans hdevice)
        apply hne
        apply (hb.shift_agree_iff hb' hfour).mp _ x hx
        intro i hi
        have hload := congrArg (fun d : SDevice => d.load (Offset.tagfilter + i)) hcopy
        have hsize : Offset.tagfilter + i < 210 := by
          simp only [Offset.tagfilter]
          omega
        rw [Block.load_copy_inside hi hsize, Block.load_copy_inside hi hsize] at hload
        exact hload.symm
    · intro hlong
      have hin := hin hlong.mode
      obtain ⟨item, hmem, -⟩ := hlong.reply.registered
      have hall : ∀ e ∈ registeredItems, e.1 ≠ 0 := by decide
      have hcmd : cmd ≠ 0 := hall _ hmem
      have hp := hb.process_known (hreg.found hmem).1 hcmd
      have hp' := hb'.process_known (hreg.found hmem).1 hcmd
      obtain ⟨m, r₁, hrun, hm⟩ := hb.dispatch_long hreg hin hlong
      obtain ⟨m', r₂, hrun', hm'⟩ := hb'.dispatch_long hreg hin hlong
      rw [show (para.length + 4) = para.length + (emptyLen .sourceFrom232).toNat + 2 from rfl,
        show (para.length + 5) = para.length + (emptyLen .sourceFrom485).toNat + 2 from rfl,
        hp, hp'] at hagree
      exact not_agree_of_long hrun hrun' hm hm' hagree
  · rintro ⟨hnot, hlong⟩
    by_cases hknown : r.gParamTable.getparaindex cmd < countParamItemMax ∧ cmd ≠ 0
    · obtain ⟨hfound, hcmd⟩ := hknown
      have hp := hb.process_known hfound hcmd
      have hp' := hb'.process_known hfound hcmd
      rw [show (para.length + 4) = para.length + (emptyLen .sourceFrom232).toNat + 2 from rfl,
        show (para.length + 5) = para.length + (emptyLen .sourceFrom485).toNat + 2 from rfl,
        hp, hp']
      apply SameOutcomes.pack
      apply hb.dispatch_same hreg hb' hfound hcmd hin hlong
      intro hmode hfilter hfour
      apply (hb.shift_agree_iff hb' hfour).mpr
      intro x hx
      by_contra hne
      exact hnot ⟨hfilter, hmode, hfour, x, hx, hne⟩
    · have hunknown : r.gParamTable.getparaindex cmd ≥ countParamItemMax ∨ cmd = 0 := by
        by_contra h
        push Not at h
        exact hknown h
      rw [hb.process_unknown hunknown, hb'.process_unknown hunknown]
      apply SameOutcomes.pack
      exact sameOutcomes_error (by decide) b b' r

/-- A new reader is asked for its version over RS232 and RS485. -/
theorem version_agrees :
  let r := powerOn .blank
  Agree .sourceFrom232 .sourceFrom485
    (processParamTable .sourceFrom232
      (requestBuffer .sourceFrom232 0x02 (r.gDevice.load Offset.address) [] fun _ => 0) 4 r)
    (processParamTable .sourceFrom485
      (requestBuffer .sourceFrom485 0x02 (r.gDevice.load Offset.address) [] fun _ => 0) 5 r)
  := by
  intro r
  have hreg : Registered r.gParamTable := registered_powerOn .blank
  apply (origins_agree_iff r hreg 0x02 [] (by decide) _ _ _).mpr
  · constructor
    · intro hfilter
      exact absurd hfilter.filter (by decide)
    · intro hlong
      exact hlong.reply
  · intro _
    trivial

/-- A new reader is set to command mode and gets a filter for the mask address 256: it is stored
as sent over RS232, and after the address of the reader over RS485. -/
theorem filter_stored_shifted :
  ∃ buffer₀ r, processParamTable .sourceFrom232 commandModeRequest 5 (powerOn .blank)
      = some (cmdoorCheckOk, buffer₀, r)
    ∧ ¬ Agree .sourceFrom232 .sourceFrom485
      (processParamTable .sourceFrom232
        (requestBuffer .sourceFrom232 0x15 (r.gDevice.load Offset.address) [1, 0, 0, 0]
          fun _ => 0) 8 r)
      (processParamTable .sourceFrom485
        (requestBuffer .sourceFrom485 0x15 (r.gDevice.load Offset.address) [1, 0, 0, 0]
          fun _ => 0) 9 r)
  := by
  have heval : ((processParamTable .sourceFrom232 commandModeRequest 5 (powerOn .blank)).bind
      fun mode =>
        (processParamTable .sourceFrom232
          (requestBuffer .sourceFrom232 0x15 (mode.2.2.gDevice.load Offset.address) [1, 0, 0, 0]
            fun _ => 0) 8 mode.2.2).bind
        fun reply => (processParamTable .sourceFrom485
          (requestBuffer .sourceFrom485 0x15 (mode.2.2.gDevice.load Offset.address) [1, 0, 0, 0]
            fun _ => 0) 9 mode.2.2).map
        fun reply' => (mode.1, reply.2.2.gDevice.load (Offset.tagfilter + 1),
          reply'.2.2.gDevice.load (Offset.tagfilter + 1)))
      = some (cmdoorCheckOk, 0, 1) := by
    rw [powerOn_eq]
    decide
  obtain ⟨⟨flag₀, buffer₀, r⟩, hmode, hreplies⟩ := Option.bind_eq_some_iff.mp heval
  obtain ⟨reply, hreply, hreplies⟩ := Option.bind_eq_some_iff.mp hreplies
  obtain ⟨reply', hreply', heq⟩ := Option.map_eq_some_iff.mp hreplies
  simp only [Prod.mk.injEq] at heq
  obtain ⟨rfl, hzero, hone⟩ := heq
  refine ⟨buffer₀, r, hmode, ?_⟩
  rintro (⟨hnone, -⟩ | ⟨x, y, hx, hy, hsame⟩)
  · rw [hnone] at hreply
    cases hreply
  · obtain rfl := Option.some.inj (hx.symm.trans hreply)
    obtain rfl := Option.some.inj (hy.symm.trans hreply')
    rw [hsame.gDevice, hzero] at hone
    exact absurd hone (by decide)

end UhfReader
