import UhfReader.Agreement
import UhfReader.Handlers.Lengths
import UhfReader.Windows

/-!
# What earlier commands leave behind

`cmdTmpLen` and `TagDataOrigin` keep the values of earlier commands.  A request is meant to be
answered as if they had any others: the functions of the third kind run after `TagDataOrigin`
was set for the request, and set `cmdTmpLen` before they end.

Two paths miss this.  The function of `0x86` runs with the `TagDataOrigin` of an earlier
request, and writes to its parameters there: in a reply to RS485, the address byte may be lost.
And an inventory that is cut off does not set `cmdTmpLen`: the length of the last reply becomes
that of its own.
-/

open Memory Stateful

namespace UhfReader

variable {o : CmdOrigin} {buffer : Mem} {length : ℕ} {r : Reader}

/-- The reader as other earlier commands may have left it. -/
def Reader.withLeftovers (r : Reader) (n : UInt8) (origin : CmdOrigin) : Reader :=
  { toGlobals := r.toGlobals.withTmpLen n, tagDataOrigin := origin }

/-! ### Results -/

/-- The frame of a reply. -/
def replyFrame (reply : UInt8 × Mem × Reader) : List UInt8 :=
  reply.2.1.take ((reply.2.1 1).toNat + 2)

/-- Two requests have the same result: the same flag, the same `g_device` and, when they are
answered, the same reply. -/
structure SameResult (x y : UInt8 × Mem × Reader) : Prop where
  flag : y.1 = x.1
  gDevice : y.2.2.gDevice = x.2.2.gDevice
  frame : x.1 ≠ errorNoReturn → replyFrame y = replyFrame x

/-- Two requests come to the same before their replies are packed. -/
structure SameFinish (o : CmdOrigin) (x y : UInt8 × Mem × Reader) : Prop where
  flag : y.1 = x.1
  gDevice : y.2.2.gDevice = x.2.2.gDevice
  head : Mem.AgreeBelow (paraOff o) x.2.1 y.2.1
  para : x.1 = cmdoorCheckOk → (x.2.1 1).toNat + 2 < bufLen →
    Mem.AgreeBelow ((x.2.1 1).toNat + 1) x.2.1 y.2.1

theorem SameFinish.of_buffer {x y : UInt8 × Mem × Reader} (hflag : y.1 = x.1)
    (hbuffer : y.2.1 = x.2.1) (hdevice : y.2.2.gDevice = x.2.2.gDevice) :
  SameFinish o x y
  := by
  refine ⟨hflag, hdevice, ?_, ?_⟩
  · rw [hbuffer]
    exact .refl _ _
  · intro _ _
    rw [hbuffer]
    exact .refl _ _

/-- A checksum over the same bytes. -/
theorem agreeBelow_checksum {n : ℕ} {b b' : Mem} (h : Mem.AgreeBelow n b b') :
  Mem.AgreeBelow (n + 1) (b.put n (setChecksum b n)) (b'.put n (setChecksum b' n))
  := by
  have hsum : setChecksum b' n = setChecksum b n := by
    rw [setChecksum, setChecksum, byteSum_congr h]
  rw [hsum]
  exact h.put_next _

theorem emptyLen_add_one (o : CmdOrigin) :
  (emptyLen o + 1).toNat = paraOff o
  := by
  rw [toNat_emptyLen_add (by decide)]
  exact toNat_emptyLen_succ o

/-- Error replies differ only in what the buffers have before the parameters. -/
theorem packet_error_congr {flag : UInt8} (hflag : flag ≠ cmdoorCheckOk) {b b' : Mem}
    (h : Mem.AgreeBelow (paraOff o) b b') :
  ((packet o flag b bufLen).2 1).toNat + 2 = paraOff o + 2
    ∧ Mem.AgreeBelow (paraOff o + 2) (packet o flag b bufLen).2 (packet o flag b' bufLen).2
  := by
  have hoff := two_lt_paraOff o
  have hlen : ∀ b : Mem, (((b.put 0 0xF4).put 1 (emptyLen o + 1)).put (paraOff o) flag) 1
      = emptyLen o + 1 := by
    intro b
    rw [Mem.put_of_ne (by omega), Mem.put_same]
  have hagree := ((h.put 0 0xF4).put 1 (emptyLen o + 1)).put_next flag
  unfold packet
  rw [if_pos hflag, if_pos hflag]
  dsimp only
  rw [hlen, hlen, emptyLen_add_one]
  constructor
  · rw [Mem.put_of_ne (by omega), hlen, emptyLen_add_one]
  · exact agreeBelow_checksum hagree

/-- Replies to requests that succeeded differ only in what the buffers have of the frame. -/
theorem packet_ok_congr {b b' : Mem} (hlong : ¬ b 1 < emptyLen o)
    (h : Mem.AgreeBelow ((b 1).toNat + 1) b b') :
  Mem.AgreeBelow ((b 1).toNat + 2) (packet o cmdoorCheckOk b bufLen).2
    (packet o cmdoorCheckOk b' bufLen).2
  := by
  have hone : b' 1 = b 1 := by
    have hoff := two_lt_paraOff o
    have := paraOff_add_sub hlong
    exact (h 1 (by omega)).symm
  have hput : ∀ b : Mem, (b.put 0 0xF0) 1 = b 1 := fun b => Mem.put_of_ne (by decide)
  unfold packet
  rw [if_neg (not_not.mpr rfl), if_neg (not_not.mpr rfl)]
  dsimp only
  rw [hput, hput, hone, if_neg hlong, if_neg hlong, paraOff_add_sub hlong]
  exact agreeBelow_checksum (h.put 0 0xF0)

/-- What comes to the same has the same result. -/
theorem SameFinish.pack {x y : UInt8 × Mem × Reader} (h : SameFinish o x y) :
  SameResult (pack o x) (pack o y)
  := by
  obtain ⟨flag, b, r⟩ := x
  obtain ⟨flag', b', r'⟩ := y
  obtain ⟨hflag, hdevice, hhead, hpara⟩ := h
  dsimp only at hflag hdevice hhead hpara
  subst hflag
  have hoff := two_lt_paraOff o
  have hone : b' 1 = b 1 := (hhead 1 (by omega)).symm
  unfold UhfReader.pack
  dsimp only
  by_cases hok : flag' = cmdoorCheckOk
  · subst hok
    have hflags : (packet o cmdoorCheckOk b' bufLen).1 = (packet o cmdoorCheckOk b bufLen).1 := by
      rw [packet_ok_flag, packet_ok_flag, hone]
    refine ⟨hflags, hdevice, fun hsent => ?_⟩
    rw [packet_ok_flag] at hsent
    have hfits : ¬ (b 1 < emptyLen o ∨ (b 1).toNat + 2 ≥ bufLen) := by
      intro hnot
      rw [if_pos hnot] at hsent
      exact hsent rfl
    rw [not_or] at hfits
    unfold replyFrame
    dsimp only
    rw [packet_ok_len, packet_ok_len, hone]
    exact (packet_ok_congr hfits.1 (hpara rfl (Nat.not_le.mp hfits.2))).symm.take_eq
  · refine ⟨(packet_error hok).trans (packet_error hok).symm, hdevice, fun _ => ?_⟩
    obtain ⟨hlen, hagree⟩ := packet_error_congr hok hhead
    obtain ⟨hlen', -⟩ := packet_error_congr hok hhead.symm
    unfold replyFrame
    dsimp only
    rw [hlen, hlen']
    exact hagree.symm.take_eq

/-- Neither of two requests returns, or both do and come to the same. -/
def SameFinishes (o : CmdOrigin) (a a' : Option (UInt8 × Mem × Reader)) : Prop :=
  (a = none ∧ a' = none) ∨ ∃ x y, a = some x ∧ a' = some y ∧ SameFinish o x y

/-- Neither of two requests returns, or both do with the same result. -/
def SameResults (a a' : Option (UInt8 × Mem × Reader)) : Prop :=
  (a = none ∧ a' = none) ∨ ∃ x y, a = some x ∧ a' = some y ∧ SameResult x y

theorem SameFinishes.pack {a a' : Option (UInt8 × Mem × Reader)} (h : SameFinishes o a a') :
  SameResults (a.map (pack o)) (a'.map (pack o))
  := by
  obtain ⟨rfl, rfl⟩ | ⟨x, y, rfl, rfl, hsame⟩ := h
  · exact .inl ⟨rfl, rfl⟩
  · exact .inr ⟨_, _, rfl, rfl, hsame.pack⟩

theorem SameFinishes.some {x y : UInt8 × Mem × Reader} (h : SameFinish o x y) :
  SameFinishes o (some x) (some y)
  := .inr ⟨x, y, rfl, rfl, h⟩

/-! ### Write requests -/

section

variable {idindex : ℕ} {item : SParamItem} {cmd : UInt8} (n : UInt8) (origin : CmdOrigin)

theorem storeTagFilter_withTmpLen (g : Globals) :
  storeTagFilter o idindex buffer (g.withTmpLen n)
    = ((storeTagFilter o idindex buffer g).1, (storeTagFilter o idindex buffer g).2.withTmpLen n)
  := by
  have htable : (g.withTmpLen n).gParamTable = g.gParamTable := rfl
  unfold storeTagFilter
  dsimp only
  rw [htable]
  by_cases hfour : buffer 1 = emptyLen o + 4
  · rw [if_pos hfour, if_pos hfour]
    cases (g.gParamTable.table idindex).value with
    | none => rfl
    | some v => cases v <;> rfl
  · rw [if_neg hfour, if_neg hfour]
    by_cases hlt : buffer 1 < emptyLen o + 4
    · rw [if_pos hlt, if_pos hlt]
      rfl
    · rw [if_neg hlt, if_neg hlt]
      cases (g.gParamTable.table idindex).value with
      | none => rfl
      | some v => cases v <;> rfl

theorem storeValue_withTmpLen (g : Globals) :
  storeValue o idindex buffer (g.withTmpLen n)
    = ((storeValue o idindex buffer g).1, (storeValue o idindex buffer g).2.withTmpLen n)
  := by
  have htable : (g.withTmpLen n).gParamTable = g.gParamTable := rfl
  have hvalue : ∀ v, (g.withTmpLen n).valueMem v = g.valueMem v := by
    intro v
    cases v <;> rfl
  unfold storeValue
  dsimp only
  rw [htable]
  cases (g.gParamTable.table idindex).value with
  | none =>
    split
    · rfl
    · rfl
  | some v =>
    dsimp only
    rw [hvalue]
    cases v
    all_goals
      repeat' split
      all_goals rfl

/-- A write request up to the call of its function takes no notice of what is left behind. -/
theorem storeRequest_withLeftovers :
  storeRequest o idindex buffer (r.withLeftovers n origin)
    = ((storeRequest o idindex buffer r).1, (storeRequest o idindex buffer r).2.1,
        (storeRequest o idindex buffer r).2.2.withLeftovers n
          (if buffer 2 = 0x88 then o else origin))
  := by
  unfold storeRequest
  dsimp only
  by_cases hbare : buffer 2 ∈ bareCmds
  · rw [if_pos hbare, if_pos hbare]
    rfl
  · have hupdate : buffer 2 ≠ 0x88 := by
      intro hcmd
      rw [hcmd] at hbare
      exact hbare (by decide)
    have hglobals : (r.withLeftovers n origin).toGlobals = r.toGlobals.withTmpLen n := rfl
    rw [if_neg hbare, if_neg hbare, if_neg hupdate, hglobals, storeTagFilter_withTmpLen,
      storeValue_withTmpLen]
    by_cases hfilter : buffer 2 = 0x15
    · rw [if_pos hfilter, if_pos hfilter]
      rfl
    · rw [if_neg hfilter, if_neg hfilter]
      rfl

/-- The functions that update the globals leave the length of the last reply alone, but for
`GetTagRecord`. -/
theorem ignores_update {f : Handler} (h : f ∈ updateHandlers) (hne : f ≠ .getTagRecord)
    (before : UInt8) (p : Mem) :
  Ignores (Globals.withTmpLen n) (f.run before p)
  := by
  have hupdate : ∀ u : Globals → Globals, (∀ g, u (g.withTmpLen n) = (u g).withTmpLen n) →
      Ignores (Globals.withTmpLen n) (do modify u; return p : M Mem) :=
    fun u hu => Ignores.bind (Ignores.modify hu) fun _ => Ignores.pure p
  cases f
  case setReaderWorkType =>
    apply hupdate
    intro g
    dsimp only [Globals.withTmpLen]
    split
    · rfl
    · split
      · rfl
      · rfl
  case readReaderPara =>
    refine Ignores.bind (Ignores.modify fun _ => rfl) ?_
    intro _
    have hsave : Ignores (Globals.withTmpLen n) saveData := by
      apply Ignores.modify
      intro g
      dsimp only [Globals.withTmpLen]
    apply Ignores.bind hsave
    intro _
    exact hupdate _ fun _ => rfl
  case getTagRecord => exact absurd rfl hne
  case setBaudRate | setRelay | readParam | reboot | clearTagListMem | setReaderTime
      | getReaderTime | getReaderRevStatus =>
    exact hupdate _ fun _ => rfl
  case writeRadioDeep | readRadioDeep | writeParam | setReaderPara | setAutoPara | getAutoPara
      | setTagFilter | setReaderNetwork | setReaderMAC | setReaderOutStatus | getReaderOutStatus
      | immediatelyNotify | updateProgrram =>
    exact Ignores.pure p
  all_goals exact absurd h (by decide)

/-- The function of a write or read request other than `0x86` updates the globals, and takes no
notice of what is left behind. -/
theorem callFunction_update (hmem : (cmd, item) ∈ registeredItems) (hkind : item.flag ≠ flagOTHR)
    (hne : item.function ≠ some .setFrequency1) :
  ∃ u : Globals → Globals, (∀ b r, callFunction runHandler item.function b r
      = some (b, { r with toGlobals := u r.toGlobals }))
    ∧ ((item.function = some .getTagRecord ∧ u = tagRecord)
      ∨ (item.function ≠ some .getTagRecord ∧ ∀ g, u (g.withTmpLen n) = (u g).withTmpLen n))
  := by
  obtain hnone | hfrequency | ⟨f, hf, hfun⟩ := function_of_stored hmem hkind
  · refine ⟨id, fun b r => ?_, .inr ⟨?_, fun g => rfl⟩⟩
    · rw [hnone]
      rfl
    · rw [hnone]
      exact Option.some_ne_none _ |>.symm
  · exact absurd hfrequency hne
  · obtain ⟨u, hu⟩ := run_update hf
    refine ⟨u, fun b r => ?_, ?_⟩
    · rw [hfun]
      simp only [callFunction, hu, Option.map_some, Mem.graft_shift]
    · by_cases hrecord : f = .getTagRecord
      · subst hrecord
        refine .inl ⟨hfun, ?_⟩
        funext g
        have hran := hu 0 (fun _ => 0) g
        exact (congrArg Prod.snd (Option.some.inj hran)).symm
      · refine .inr ⟨?_, fun g => ?_⟩
        · rw [hfun]
          intro heq
          exact hrecord (Option.some.inj heq)
        · have hran := ignores_update n hf hrecord 0 (fun _ => 0) g
          rw [hu, hu] at hran
          exact congrArg Prod.snd (Option.some.inj hran)

/-- A write request that is refused is refused whatever is left behind. -/
theorem writeRequest_refused (herror : (storeRequest o idindex buffer r).1 ≠ cmdoorCheckOk) :
  SameFinishes o (writeRequest runHandler o idindex buffer r)
    (writeRequest runHandler o idindex buffer (r.withLeftovers n origin))
  := by
  unfold writeRequest
  dsimp only
  rw [storeRequest_withLeftovers, if_neg herror, if_neg herror]
  apply SameFinishes.some
  exact .of_buffer rfl rfl rfl

/-- A write request other than `0x86` comes to the same, whatever is left behind. -/
theorem writeRequest_leftovers (hmem : (cmd, item) ∈ registeredItems)
    (hmatch : (r.gParamTable.table idindex).Matches cmd item) (hwr : item.flag = flagWR)
    (hne : item.function ≠ some .setFrequency1) :
  SameFinishes o (writeRequest runHandler o idindex buffer r)
    (writeRequest runHandler o idindex buffer (r.withLeftovers n origin))
  := by
  have hothr : item.flag ≠ flagOTHR := by
    rw [hwr]
    decide
  obtain ⟨u, hu, hleft⟩ := callFunction_update n hmem hothr hne
  have hdevice : ∀ g, (u (g.withTmpLen n)).gDevice = (u g).gDevice := by
    intro g
    obtain ⟨-, rfl⟩ | ⟨-, hleft⟩ := hleft
    · rfl
    · rw [hleft]
      rfl
  have hfunction := (storeRequest_function o idindex buffer r).trans hmatch.function
  by_cases hok : (storeRequest o idindex buffer r).1 = cmdoorCheckOk
  · have hfunction' : (((storeRequest o idindex buffer r).2.2.withLeftovers n
        (if buffer 2 = 0x88 then o else origin)).gParamTable.table idindex).function
        = item.function := hfunction
    unfold writeRequest
    dsimp only
    rw [storeRequest_withLeftovers, if_pos hok, if_pos hok, hfunction, hfunction', hu, hu,
      Option.map_some, Option.map_some]
    apply SameFinishes.some
    exact .of_buffer rfl rfl (hdevice _)
  · exact writeRequest_refused n origin hok

/-! ### Read requests -/

theorem loadValue_withTmpLen (g : Globals) (hcmd : buffer 2 ≠ 0x57) :
  loadValue o idindex buffer (g.withTmpLen n)
    = ((loadValue o idindex buffer g).1, (loadValue o idindex buffer g).2.withTmpLen n)
  := by
  have htable : (g.withTmpLen n).gParamTable = g.gParamTable := rfl
  unfold loadValue
  dsimp only
  rw [htable]
  cases (g.gParamTable.table idindex).value with
  | none =>
    dsimp only
    split
    · rfl
    · rfl
  | some v =>
    dsimp only
    rw [if_neg hcmd, if_neg hcmd]
    split
    · rfl
    · cases v <;> rfl

theorem finishRead_leftovers (readerWorkStatus : UInt8) (hcmd : buffer 2 ≠ 0x57) (g : Globals)
    (origin' : CmdOrigin) :
  SameFinish o
    (finishRead o idindex readerWorkStatus (buffer, { toGlobals := g, tagDataOrigin := origin }))
    (finishRead o idindex readerWorkStatus
      (buffer, { toGlobals := g.withTmpLen n, tagDataOrigin := origin' }))
  := by
  unfold finishRead
  dsimp only
  rw [loadValue_withTmpLen n g hcmd]
  refine SameFinish.of_buffer rfl rfl ?_
  unfold restoreWorkStatus
  dsimp only
  split
  · rfl
  · rfl

/-- A read request comes to the same, whatever is left behind. -/
theorem readRequest_leftovers (hmem : (cmd, item) ∈ registeredItems) (hcmd : buffer 2 = cmd)
    (hmatch : (r.gParamTable.table idindex).Matches cmd item) (hrd : item.flag = flagRD) :
  SameFinishes o (readRequest runHandler o idindex buffer r)
    (readRequest runHandler o idindex buffer (r.withLeftovers n origin))
  := by
  have hothr : item.flag ≠ flagOTHR := by
    rw [hrd]
    decide
  have hfrequency : ∀ e ∈ registeredItems, e.2.flag = flagRD →
      e.2.function ≠ some .setFrequency1 := by decide
  obtain ⟨u, hu, hleft⟩ := callFunction_update n hmem hothr (hfrequency _ hmem hrd)
  have hfunction : ((r.withLeftovers n origin).gParamTable.table idindex).function
      = item.function := hmatch.function
  unfold readRequest
  by_cases hlen : readLen buffer = emptyLen o
  · rw [if_neg (not_not.mpr hlen), if_neg (not_not.mpr hlen), hmatch.function, hfunction, hu, hu,
      Option.map_some, Option.map_some]
    apply SameFinishes.some
    obtain ⟨-, rfl⟩ | ⟨hne, hleft⟩ := hleft
    · exact .of_buffer rfl rfl rfl
    · have hother : buffer 2 ≠ 0x57 := by
        rw [hcmd]
        intro heq
        exact hne (function_of_record hmem heq)
      have hglobals : (r.withLeftovers n origin).toGlobals = r.toGlobals.withTmpLen n := rfl
      rw [hglobals, hleft]
      exact finishRead_leftovers n r.tagDataOrigin _ hother _ origin
  · rw [if_pos hlen, if_pos hlen]
    apply SameFinishes.some
    exact .of_buffer rfl rfl rfl

/-! ### Requests of the third kind -/

/-- The inventories, which may be cut off. -/
def inventories : List Handler := [.epc1g2ListMaskTagID, .epc1g2ListRSSIMaskTag]

/-- The functions that build a reply overwrite the length of the last one, but for the two
inventories. -/
theorem overwrites_run {f : Handler} (hupdate : f ∉ updateHandlers) (hnot : f ∉ inventories)
    (before : UInt8) (p : Mem) :
  Overwrites (Globals.withTmpLen n) (f.run before p)
  := by
  cases f
  case setOutputPower => exact overwrites_setOutputPower p
  case setFrequency => exact overwrites_setFrequency p
  case setFrequency1 => exact overwrites_setFrequency1 p
  case setAntenna => exact overwrites_setAntenna p
  case readR2000vertion => exact overwrites_readR2000vertion p
  case epc1g2GetRSSIIDList =>
    rw [Handler.run, UhfReader.epc1g2GetRSSIIDList]
    exact overwrites_nextRows p fun _ => rfl
  case epc1g2GetIDList =>
    rw [Handler.run, UhfReader.epc1g2GetIDList]
    exact overwrites_nextRows p fun _ => rfl
  case epc1g2Accessmatch => exact overwrites_epc1g2Accessmatch p
  case epc1g2ListTagID => exact overwrites_epc1g2ListTagID p
  case epc1g2ReadWordBlock => exact overwrites_epc1g2ReadWordBlock p
  case epc1g2WriteWordBlock | epc1g2WriteSetBlock | destroyTag =>
    exact overwrites_selectTag p (overwrites_confirmed _ _ _ _)
  case epc1g2WriteEPC => exact overwrites_epc1g2WriteEPC p
  case readEPCAndData => exact overwrites_readEPCAndData p
  case detectTagNum => exact overwrites_detectTagNum p
  case readLabelID => exact overwrites_readLabelID p
  case listIDReport => exact overwrites_listIDReport p
  case listSelectedID => exact overwrites_listSelectedID p
  case readByteBlock => exact overwrites_readByteBlock p
  case writeByteBlock | writeAByte => exact overwrites_writeByteBlock p
  case writeProtect => exact overwrites_writeProtect p
  case readWriteProtect => exact overwrites_readWriteProtect p
  case eraseTagData | dataLocking | epc1g2Changeeas | epc1g2EasAlarm | epc1g2ReadProtect
      | epc1g2RSTReadProtect | setUserDataProtect =>
    exact overwrites_reply p 0
  case epc1g2ListMaskTagID | epc1g2ListRSSIMaskTag => exact absurd (by decide) hnot
  all_goals exact absurd (by decide) hupdate

/-- The functions of the third kind build replies. -/
theorem not_update_of_other {f : Handler} (hmem : (cmd, item) ∈ registeredItems)
    (hothr : item.flag = flagOTHR) (hf : item.function = some f) :
  f ∉ updateHandlers
  := by
  have hall : ∀ e ∈ registeredItems, e.2.flag = flagOTHR → ∀ f ∈ updateHandlers,
      e.2.function ≠ some f := by decide
  intro hupdate
  exact hall _ hmem hothr f hupdate hf

/-- A request of the third kind comes to the same, whatever is left behind, if its function
does. -/
theorem otherRequest_leftovers {f : Handler}
    (hfun : (r.gParamTable.table idindex).function = some f)
    (hrun : tagDataLenPurse o buffer = cmdoorCheckOk → ∀ before,
      f.run before (buffer.shift (paraOff o)) (r.toGlobals.withTmpLen n)
        = f.run before (buffer.shift (paraOff o)) r.toGlobals) :
  SameFinishes o (otherRequest runHandler o idindex buffer r)
    (otherRequest runHandler o idindex buffer (r.withLeftovers n origin))
  := by
  by_cases hlen : tagDataLenPurse o buffer = cmdoorCheckOk
  · have hfun' : ((r.withLeftovers n origin).gParamTable.table idindex).function = some f := hfun
    have hglobals : (r.withLeftovers n origin).toGlobals = r.toGlobals.withTmpLen n := rfl
    rw [otherRequest_of_function runHandler _ hlen hfun,
      otherRequest_of_function runHandler _ hlen hfun', hglobals]
    dsimp only [runHandler]
    rw [hrun hlen]
    cases f.run (buffer (paraOff o - 1)) (buffer.shift (paraOff o)) r.toGlobals with
    | none => exact .inl ⟨rfl, rfl⟩
    | some ran => exact SameFinishes.some (.of_buffer rfl rfl rfl)
  · unfold otherRequest
    dsimp only
    rw [if_pos hlen, if_pos hlen]
    apply SameFinishes.some
    exact .of_buffer rfl rfl rfl

end

/-- A reply of `n` parameters does not fit; 255 stands for a command that failed. -/
def TooLong (o : CmdOrigin) (n : UInt8) : Prop :=
  n.toNat < 255 ∧ 255 ≤ n.toNat + (emptyLen o).toNat + 2

/-- The flag of a request of the third kind tells whether its function failed, and whether its
reply fits. -/
theorem pack_finishOther (called : Mem × Reader) :
  (called.2.cmdTmpLen = 0xFF ∧ (pack o (finishOther o called)).1 = noTag)
    ∨ (TooLong o called.2.cmdTmpLen ∧ (pack o (finishOther o called)).1 = errorNoReturn)
    ∨ (called.2.cmdTmpLen.toNat + (emptyLen o).toNat + 2 < bufLen
      ∧ (pack o (finishOther o called)).1 = cmdoorCheckOk)
  := by
  have hlt := called.2.cmdTmpLen.toNat_lt
  by_cases hfailed : called.2.cmdTmpLen.toNat ≥ bufLen
  · left
    have heq : called.2.cmdTmpLen = 0xFF := by
      apply UInt8.toNat_inj.mp
      simp only [bufLen] at hfailed
      simp only [UInt8.reduceToNat]
      omega
    refine ⟨heq, ?_⟩
    unfold finishOther
    rw [if_pos hfailed]
    exact packet_error (show noTag ≠ cmdoorCheckOk by decide)
  · right
    by_cases hshort : called.2.cmdTmpLen.toNat + (emptyLen o).toNat + 2 < bufLen
    · exact .inr ⟨hshort, (pack_finishOther_ok _ hshort).1⟩
    · left
      simp only [bufLen] at hfailed hshort
      refine ⟨⟨by omega, by omega⟩, ?_⟩
      unfold finishOther
      rw [if_neg (by simp only [bufLen]; omega), pack]
      dsimp only
      rw [packet_ok_flag, Mem.put_same, if_pos]
      rw [UInt8.lt_iff_toNat_lt, UInt8.toNat_add]
      simp only [bufLen]
      omega

/-- A reply that does not fit is the only one that is not sent. -/
theorem pack_finishOther_silent_iff (called : Mem × Reader) :
  (pack o (finishOther o called)).1 = errorNoReturn ↔ TooLong o called.2.cmdTmpLen
  := by
  obtain ⟨heq, hflag⟩ | ⟨hlong, hflag⟩ | ⟨hshort, hflag⟩ := pack_finishOther (o := o) called
  · rw [hflag, TooLong, heq]
    exact iff_of_false (by decide) (by simp)
  · exact iff_of_true hflag hlong
  · rw [hflag, TooLong]
    simp only [bufLen] at hshort
    exact iff_of_false (by decide) (by omega)

/-- A failed function is the only one that is answered with `NOTAG`. -/
theorem pack_finishOther_noTag_iff (called : Mem × Reader) :
  (pack o (finishOther o called)).1 = noTag ↔ called.2.cmdTmpLen = 0xFF
  := by
  obtain ⟨heq, hflag⟩ | ⟨hlong, hflag⟩ | ⟨hshort, hflag⟩ := pack_finishOther (o := o) called
  · exact iff_of_true hflag heq
  · rw [hflag]
    refine iff_of_false (by decide) fun heq => ?_
    rw [TooLong, heq] at hlong
    exact absurd hlong.1 (by decide)
  · rw [hflag]
    refine iff_of_false (by decide) fun heq => ?_
    rw [heq] at hshort
    simp only [bufLen, UInt8.reduceToNat] at hshort
    omega

/-- Replies of different lengths are the same only when neither is sent. -/
theorem sameResult_finishOther_iff (p : Mem) (g : Globals) (n n' : UInt8) :
  SameResult (pack o (finishOther o (p, { toGlobals := g.withTmpLen n, tagDataOrigin := o })))
      (pack o (finishOther o (p, { toGlobals := g.withTmpLen n', tagDataOrigin := o })))
    ↔ n = n' ∨ (TooLong o n ∧ TooLong o n')
  := by
  let called : Mem × Reader := (p, { toGlobals := g.withTmpLen n, tagDataOrigin := o })
  let called' : Mem × Reader := (p, { toGlobals := g.withTmpLen n', tagDataOrigin := o })
  have hsilent : (pack o (finishOther o called)).1 = errorNoReturn ↔ TooLong o n :=
    pack_finishOther_silent_iff called
  have hsilent' : (pack o (finishOther o called')).1 = errorNoReturn ↔ TooLong o n' :=
    pack_finishOther_silent_iff called'
  constructor
  · rintro ⟨hflag, -, hframe⟩
    change (pack o (finishOther o called')).1 = (pack o (finishOther o called)).1 at hflag
    by_cases hlong : TooLong o n
    · right
      exact ⟨hlong, hsilent'.mp (hflag.trans (hsilent.mpr hlong))⟩
    · left
      have hsent : (pack o (finishOther o called)).1 ≠ errorNoReturn := mt hsilent.mp hlong
      obtain ⟨heq, hn⟩ | ⟨hlong', -⟩ | ⟨hshort, hn⟩ := pack_finishOther (o := o) called
      · have heq' : n' = 0xFF := (pack_finishOther_noTag_iff called').mp (hflag.trans hn)
        exact Eq.trans heq heq'.symm
      · exact absurd hlong' hlong
      · obtain ⟨-, hn'⟩ | ⟨hlong', -⟩ | ⟨hshort', -⟩ := pack_finishOther (o := o) called'
        · rw [hflag, hn] at hn'
          exact absurd hn' (by decide)
        · exact absurd (hflag.symm.trans (hsilent'.mpr hlong')) hsent
        · -- both replies are sent, so their lengths are the same
          have hlen : _ = n.toNat + (emptyLen o).toNat := (pack_finishOther_ok _ hshort).2.1
          have hlen' : _ = n'.toNat + (emptyLen o).toNat := (pack_finishOther_ok _ hshort').2.1
          have hcount : (replyFrame (pack o (finishOther o called'))).length
              = (replyFrame (pack o (finishOther o called))).length :=
            congrArg List.length (hframe hsent)
          rw [replyFrame, replyFrame, Mem.length_take, Mem.length_take, hlen, hlen'] at hcount
          apply UInt8.toNat_inj.mp
          omega
  · rintro (rfl | ⟨hlong, hlong'⟩)
    · exact ⟨rfl, rfl, fun _ => rfl⟩
    · have hn := hsilent.mpr hlong
      refine ⟨(hsilent'.mpr hlong').trans hn.symm, ?_, fun hsent => absurd hn hsent⟩
      rw [pack, pack]
      dsimp only
      rw [finishOther_reader, finishOther_reader]
      rfl

/-! ### The two exceptions -/

/-- `0x86` is carried out, and in one of the two states only its function writes over the address
byte of the reply. -/
structure StaleAddress (o : CmdOrigin) (buffer : Mem) (length : ℕ) (r : Reader)
    (origin : CmdOrigin) : Prop where
  cmd : buffer 2 = 0x86
  valid : Valid o buffer length r.toGlobals
  layout : o = .sourceFrom485
  len : buffer 1 = 9
  region : 1 ≤ buffer 4 ∧ buffer 4 ≤ 3
  origins : ¬ (r.tagDataOrigin = .sourceFrom485 ↔ origin = .sourceFrom485)
  address : r.gDevice.load Offset.frequencyMin ≠ r.gDevice.load Offset.address

/-- An inventory is carried out and cut off, and the two lengths left behind are not both of
replies that do not fit. -/
structure StaleLength (o : CmdOrigin) (buffer : Mem) (length : ℕ) (r : Reader) (n : UInt8) :
    Prop where
  cmd : buffer 2 = 0xEE ∨ buffer 2 = 0xDF
  valid : Valid o buffer length r.toGlobals
  len : tagDataLenPurse o buffer = cmdoorCheckOk
  cut : CutOff (buffer.shift (paraOff o)) r.toGlobals
  lengths : ¬ (r.cmdTmpLen = n ∨ (TooLong o r.cmdTmpLen ∧ TooLong o n))

/-- The parameters that `SetFrequency1` returns. -/
theorem setFrequency1_args {p p' : Mem} {g g' : Globals}
    (h : setFrequency1 p g = some (p', g')) :
  p' = frequencyArgs g p
  := by
  rw [setFrequency1_eq, Option.bind_eq_some_iff] at h
  obtain ⟨asked, -, h⟩ := h
  split at h
  · cases h
    rfl
  · cases h
    rfl

/-- The buffer after the function of `0x86`: up to the length byte of the reply and its command
it is as it was, and the byte after them is the lower frequency unless the last origin was
RS485. -/
theorem callFunction_frequency {called : Mem × Reader}
    (h : callFunction runHandler (some .setFrequency1) buffer r = some called) :
  Mem.AgreeBelow 3 buffer called.1
    ∧ called.1 3 = if r.tagDataOrigin = .sourceFrom485 then buffer 3
      else r.gDevice.load Offset.frequencyMin
  := by
  obtain ⟨hnone, -⟩ | ⟨f, p, g, hf, hrun, rfl⟩ := callFunction_cases h
  · cases hnone
  · cases hf
    obtain rfl := setFrequency1_args hrun
    have hoff := two_lt_paraOff r.tagDataOrigin
    constructor
    · intro i hi
      exact (Mem.graft_below (by omega)).symm
    · dsimp only
      split
      · rename_i horigin
        apply Mem.graft_below
        rw [horigin]
        decide
      · rename_i horigin
        have hthree : paraOff r.tagDataOrigin = 3 := by
          cases horig : r.tagDataOrigin with
          | sourceFrom485 => exact absurd horig horigin
          | sourceFrom232 => rfl
          | sourceFromUDP => rfl
        rw [hthree]
        exact (Mem.graft_above buffer 3 _ 0).trans (frequencyArgs_first _ _)

/-- What is left behind does not change what becomes of the settings in the function of
`0x86`. -/
theorem callFunction_frequency_settings (b : Mem) (n : UInt8) (origin : CmdOrigin) :
  (callFunction runHandler (some .setFrequency1) b (r.withLeftovers n origin)).map
      (fun called => called.2.settings)
    = (callFunction runHandler (some .setFrequency1) b r).map (fun called => called.2.settings)
  := by
  have hglobals : (r.withLeftovers n origin).toGlobals = r.toGlobals.withTmpLen n := rfl
  have hover := overwrites_setFrequency1 (n := n)
    (b.shift (paraOff (r.withLeftovers n origin).tagDataOrigin)) r.toGlobals
  simp only [callFunction, Option.map_map, hglobals]
  exact (congrArg (Option.map fun ran => ran.2.settings) hover).trans
    (setFrequency1_settings_eq (b.shift (paraOff r.tagDataOrigin)) _ r.toGlobals)

theorem Valid.withLeftovers (h : Valid o buffer length r.toGlobals) (n : UInt8)
    (origin : CmdOrigin) :
  Valid o buffer length (r.withLeftovers n origin).toGlobals
  := ⟨⟨h.registered, h.nonzero, h.complete, h.sum⟩, h.addressed, h.mode⟩

/-- The entry of `0x86`. -/
def frequencyItem : SParamItem :=
  ⟨some (.device Offset.freqSelect), flagWR, 6, some .setFrequency1⟩

/-- `0x86` is right for RS485 when it has six parameters, and the first is a region. -/
theorem windowRight_frequency_iff (hcmd : buffer 2 = 0x86) :
  WindowRight .sourceFrom485 buffer frequencyItem ↔ buffer 1 = 9 ∧ 1 ≤ buffer 4 ∧ buffer 4 ≤ 3
  := by
  have hlen : (buffer 1).toNat = 9 ↔ buffer 1 = 9 := by
    rw [← UInt8.toNat_inj]
    rfl
  have hrange : rangeControl (buffer 2) (buffer 4) = cmdoorCheckOk
      ↔ 1 ≤ buffer 4 ∧ buffer 4 ≤ 3 := by
    have hunfold : rangeControl 0x86 (buffer 4)
        = if buffer 4 > 3 ∨ buffer 4 < 1 then paraWrong else cmdoorCheckOk := rfl
    rw [hcmd, hunfold]
    split
    · rename_i hout
      constructor
      · intro h
        exact absurd h (by decide)
      · rintro ⟨hlow, hhigh⟩
        obtain habove | hbelow := hout
        · exact absurd habove (UInt8.not_lt.mpr hhigh)
        · exact absurd hbelow (UInt8.not_lt.mpr hlow)
    · rename_i hin
      rw [not_or, gt_iff_lt, UInt8.not_lt, UInt8.not_lt] at hin
      exact ⟨fun _ => ⟨hin.2, hin.1⟩, fun _ => rfl⟩
  constructor
  · rintro ⟨h, hregion⟩
    exact ⟨hlen.mp h, hrange.mp hregion⟩
  · rintro ⟨h, hregion⟩
    exact ⟨hlen.mpr h, hrange.mpr hregion⟩

/-- Two replies without parameters are the same, unless RS485 finds different address bytes. -/
theorem sameResult_bare_iff {called called' : Mem × Reader}
    (hdevice : called'.2.gDevice = called.2.gDevice) (hlen : called.1 1 = emptyLen o)
    (hbelow : Mem.AgreeBelow 3 called.1 called'.1) :
  SameResult (pack o (cmdoorCheckOk, called)) (pack o (cmdoorCheckOk, called'))
    ↔ (o = .sourceFrom485 → called'.1 3 = called.1 3)
  := by
  have hlen' : called'.1 1 = emptyLen o := (hbelow 1 (by decide)).symm.trans hlen
  constructor
  · rintro ⟨-, -, hframe⟩ rfl
    have hflag : (pack .sourceFrom485 (cmdoorCheckOk, called)).1 = cmdoorCheckOk := by
      rw [pack]
      dsimp only
      rw [packet_ok_flag, hlen, if_neg (by decide)]
    have hsent := hframe (by rw [hflag]; decide)
    have hkept : ∀ b : Mem, b 1 = emptyLen .sourceFrom485 →
        (packet .sourceFrom485 cmdoorCheckOk b bufLen).2 3 = b 3 := by
      intro b hb
      apply packet_ok_kept (by decide)
      rw [hb]
      decide
    rw [replyFrame, replyFrame, pack, pack] at hsent
    dsimp only at hsent
    rw [packet_ok_len, packet_ok_len, hlen, hlen'] at hsent
    have hthree := Mem.AgreeBelow.of_take_eq hsent 3 (by decide)
    rwa [hkept _ hlen, hkept _ hlen'] at hthree
  · intro hthree
    have hhead : Mem.AgreeBelow (paraOff o) called.1 called'.1 := by
      intro i hi
      by_cases hlow : i < 3
      · exact hbelow i hlow
      · cases o with
        | sourceFrom485 =>
          obtain rfl : i = 3 := by
            simp only [paraOff] at hi
            omega
          exact (hthree rfl).symm
        | sourceFrom232 => exact absurd hi hlow
        | sourceFromUDP => exact absurd hi hlow
    apply SameFinish.pack
    refine ⟨rfl, hdevice, hhead, fun _ _ => ?_⟩
    have hcount : (called.1 1).toNat + 1 = paraOff o := by
      rw [hlen]
      cases o <;> rfl
    dsimp only
    rwa [hcount]

/-- Both requests return or neither, and their results are the same if and only if `P` holds. -/
def SameIff (P : Prop) (a a' : Option (UInt8 × Mem × Reader)) : Prop :=
  a'.isSome = a.isSome ∧ ∀ x y, a = some x → a' = some y → (SameResult x y ↔ P)

theorem SameResults.sameIff {P : Prop} {a a' : Option (UInt8 × Mem × Reader)}
    (h : SameResults a a') (hP : P) :
  SameIff P a a'
  := by
  obtain ⟨rfl, rfl⟩ | ⟨x, y, rfl, rfl, hsame⟩ := h
  · refine ⟨rfl, ?_⟩
    intro x y hx
    cases hx
  · refine ⟨rfl, ?_⟩
    intro x' y' hx hy
    cases hx
    cases hy
    exact ⟨fun _ => hP, fun _ => hsame⟩

/-- The results of `0x86` are the same, unless the address byte of the reply is lost in one of
the two states. -/
theorem frequency_leftovers (hreg : Registered r.gParamTable)
    (hvalid : Valid o buffer length r.toGlobals) (hcmd : buffer 2 = 0x86) (n : UInt8)
    (origin : CmdOrigin) :
  SameIff (¬ StaleAddress o buffer length r origin) (processParamTable o buffer length r)
    (processParamTable o buffer length (r.withLeftovers n origin))
  := by
  have hvalid' := hvalid.withLeftovers n origin
  have hmem : (buffer 2, frequencyItem) ∈ registeredItems := by
    rw [hcmd]
    decide
  have hwindow : windowCmd (buffer 2) := by
    rw [hcmd]
    decide
  by_cases hright : WindowRight o buffer frequencyItem
  · have hrun := process_window hreg hvalid hmem rfl hwindow rfl hright
    have hrun' := process_window (r := r.withLeftovers n origin) hreg hvalid' hmem rfl hwindow rfl
      hright
    have hstore : (r.withLeftovers n origin).storeWindow (buffer 2) Offset.freqSelect
        (buffer.shift (paraOff o)) frequencyItem.length.toNat
        = (r.storeWindow (buffer 2) Offset.freqSelect (buffer.shift (paraOff o))
            frequencyItem.length.toNat).withLeftovers n origin := rfl
    have hmin : (r.storeWindow (buffer 2) Offset.freqSelect (buffer.shift (paraOff o))
        frequencyItem.length.toNat).gDevice.load Offset.frequencyMin
        = r.gDevice.load Offset.frequencyMin :=
      Block.load_copy_outside (.inr (by decide))
    rw [hstore] at hrun'
    have horigin : (r.storeWindow (buffer 2) Offset.freqSelect (buffer.shift (paraOff o))
        frequencyItem.length.toNat).tagDataOrigin = r.tagDataOrigin := rfl
    generalize r.storeWindow (buffer 2) Offset.freqSelect (buffer.shift (paraOff o))
      frequencyItem.length.toNat = stored at hrun hrun' hmin horigin
    rw [hrun, hrun']
    have hsettings := callFunction_frequency_settings (r := stored) (buffer.put 1 (emptyLen o)) n
      origin
    obtain ⟨hnone, hnone'⟩ | ⟨called, called', hcall, hcall', heq⟩ := map_eq_map_cases hsettings
    · have hnone : callFunction runHandler frequencyItem.function (buffer.put 1 (emptyLen o))
          stored = none := hnone
      have hnone' : callFunction runHandler frequencyItem.function (buffer.put 1 (emptyLen o))
          (stored.withLeftovers n origin) = none := hnone'
      rw [hnone, hnone']
      refine ⟨rfl, ?_⟩
      intro x y hx
      cases hx
    · have hcall : callFunction runHandler frequencyItem.function (buffer.put 1 (emptyLen o))
          stored = some called := hcall
      have hcall' : callFunction runHandler frequencyItem.function (buffer.put 1 (emptyLen o))
          (stored.withLeftovers n origin) = some called' := hcall'
      obtain ⟨hbelow, hthree⟩ := callFunction_frequency hcall
      obtain ⟨hbelow', hthree'⟩ := callFunction_frequency hcall'
      rw [hcall, hcall', Option.map_some, Option.map_some]
      refine ⟨rfl, ?_⟩
      intro x y hx hy
      cases hx
      cases hy
      rw [sameResult_bare_iff (congrArg Settings.gDevice heq)
        ((hbelow 1 (by decide)).symm.trans (Mem.put_same _ _ _)) (hbelow.symm.trans hbelow')]
      have hmin' : (stored.withLeftovers n origin).gDevice.load Offset.frequencyMin
          = r.gDevice.load Offset.frequencyMin := hmin
      have horigin' : (stored.withLeftovers n origin).tagDataOrigin = origin := rfl
      rw [hthree, hthree', hmin, hmin', horigin, horigin', Mem.put_of_ne (by decide)]
      constructor
      · rintro hsame ⟨-, -, rfl, -, -, horigins, haddress⟩
        have haddr : buffer 3 = r.gDevice.load Offset.address := hvalid.addressed rfl
        have hsame := hsame rfl
        by_cases hfour : r.tagDataOrigin = .sourceFrom485
        · have hthree : origin ≠ .sourceFrom485 := fun heq => horigins (iff_of_true hfour heq)
          rw [if_pos hfour, if_neg hthree] at hsame
          exact haddress (hsame.trans haddr)
        · have hfour' : origin = .sourceFrom485 := by
            by_contra heq
            exact horigins (iff_of_false hfour heq)
          rw [if_neg hfour, if_pos hfour'] at hsame
          exact haddress (hsame.symm.trans haddr)
      · rintro hstale rfl
        have haddr : buffer 3 = r.gDevice.load Offset.address := hvalid.addressed rfl
        have hwrite := (windowRight_frequency_iff hcmd).mp hright
        by_cases hsame : r.tagDataOrigin = .sourceFrom485 ↔ origin = .sourceFrom485
        · simp only [hsame]
        · have haddress : r.gDevice.load Offset.frequencyMin = buffer 3 := by
            rw [haddr]
            by_contra hne
            exact hstale ⟨hcmd, hvalid, rfl, hwrite.1, hwrite.2, hsame, hne⟩
          rw [haddress, ite_self, ite_self]
  · have hwrong := storeValue_wrong (o := o) (hreg.entry hmem rfl).value
      (((hreg.entry hmem rfl).windowRight_iff (by rw [hcmd]; decide)).not.mpr hright)
    have herror : (storeRequest o (r.gParamTable.getparaindex (buffer 2)) buffer r).1
        ≠ cmdoorCheckOk := by
      rw [storeRequest_value o _ r hwindow.1 hwindow.2.1]
      exact hwrong.1
    apply SameResults.sameIff
    · have hentry := (hreg.entry hmem rfl).flag
      rw [processParamTable, processParamTable, processWith_of_valid runHandler hvalid,
        processWith_of_valid runHandler hvalid', dispatch_write runHandler hvalid hentry,
        dispatch_write runHandler hvalid' hentry]
      apply SameFinishes.pack
      exact writeRequest_refused n origin herror
    · intro hstale
      obtain rfl := hstale.layout
      exact hright ((windowRight_frequency_iff hcmd).mpr ⟨hstale.len, hstale.region⟩)

/-- The functions of the two inventories. -/
theorem run_inventory {f : Handler} (h : f ∈ inventories) :
  ∃ row : Globals → Listing → ℕ → Listing, (∀ n g, row (Globals.withTmpLen n g) = row g)
    ∧ ∀ before p, f.run before p = inventory6C p row
  := by
  simp only [inventories, List.mem_cons, List.not_mem_nil, or_false] at h
  obtain rfl | rfl := h
  · exact ⟨_, fun _ _ => rfl, fun _ _ => rfl⟩
  · exact ⟨_, fun _ _ => rfl, fun _ _ => rfl⟩

/-- The results of an inventory are the same, unless it is cut off and replies with the length
left behind. -/
theorem inventory_leftovers {idindex : ℕ} {f : Handler} (hf : f ∈ inventories)
    (hfun : (r.gParamTable.table idindex).function = some f) (n : UInt8) (origin : CmdOrigin) :
  SameIff (tagDataLenPurse o buffer = cmdoorCheckOk →
      CutOff (buffer.shift (paraOff o)) r.toGlobals →
      r.cmdTmpLen = n ∨ (TooLong o r.cmdTmpLen ∧ TooLong o n))
    ((otherRequest runHandler o idindex buffer r).map (pack o))
    ((otherRequest runHandler o idindex buffer (r.withLeftovers n origin)).map (pack o))
  := by
  obtain ⟨row, hrow, hrun⟩ := run_inventory hf
  have hsplit := fun n => splits_inventory6C (buffer.shift (paraOff o)) (hrow n) r.toGlobals
  by_cases hcut : tagDataLenPurse o buffer = cmdoorCheckOk
      ∧ CutOff (buffer.shift (paraOff o)) r.toGlobals
  · obtain ⟨hlen, hcut⟩ := hcut
    have hleft := (hsplit n).1 hcut
    have hkept := (hsplit r.cmdTmpLen).1 hcut
    have hfun' : ((r.withLeftovers n origin).gParamTable.table idindex).function = some f := hfun
    have hglobals : (r.withLeftovers n origin).toGlobals = r.toGlobals.withTmpLen n := rfl
    have hsame : r.toGlobals.withTmpLen r.cmdTmpLen = r.toGlobals := rfl
    rw [otherRequest_of_function runHandler _ hlen hfun,
      otherRequest_of_function runHandler _ hlen hfun', hglobals]
    dsimp only [runHandler]
    rw [hrun, hleft]
    rw [hsame] at hkept
    cases hran : inventory6C (buffer.shift (paraOff o)) row r.toGlobals with
    | none =>
      refine ⟨rfl, ?_⟩
      intro x y hx
      cases hx
    | some ran =>
      rw [hran, Option.map_some, Option.some.injEq] at hkept
      refine ⟨rfl, ?_⟩
      intro x y hx hy
      cases hx
      cases hy
      have hglobals : ran.2 = ran.2.withTmpLen r.cmdTmpLen := congrArg Prod.snd hkept
      have hiff := sameResult_finishOther_iff (o := o) (buffer.graft (paraOff o) ran.1) ran.2
        r.cmdTmpLen n
      rw [← hglobals] at hiff
      constructor
      · intro hresult _ _
        exact hiff.mp hresult
      · intro h
        exact hiff.mpr (h hlen hcut)
  · apply SameResults.sameIff
    · apply SameFinishes.pack
      apply otherRequest_leftovers n origin hfun
      intro hlen before
      rw [hrun]
      apply (hsplit n).2
      intro hcutoff
      exact hcut ⟨hlen, hcutoff⟩
    · intro hlen hcutoff
      exact absurd ⟨hlen, hcutoff⟩ hcut

theorem SameIff.congr {P P' : Prop} {a a' : Option (UInt8 × Mem × Reader)} (h : SameIff P a a')
    (hP : P ↔ P') :
  SameIff P' a a'
  := ⟨h.1, fun x y hx hy => (h.2 x y hx hy).trans hP⟩

/-- What earlier commands left in `cmdTmpLen` and `TagDataOrigin` makes no difference to the
result of a request, unless `0x86` loses the address byte of its reply or an inventory that is
cut off replies with the length left behind. -/
theorem no_leftovers_iff (r : Reader) (hreg : Registered r.gParamTable) (o : CmdOrigin)
    (buffer : Mem) (length : ℕ) (n : UInt8) (origin : CmdOrigin) :
  SameIff (¬ StaleAddress o buffer length r origin ∧ ¬ StaleLength o buffer length r n)
    (processParamTable o buffer length r)
    (processParamTable o buffer length (r.withLeftovers n origin))
  := by
  by_cases hvalid : Valid o buffer length r.toGlobals
  · have hvalid' := hvalid.withLeftovers n origin
    obtain ⟨item, hmem, hmatch⟩ := hreg.lookup hvalid.nonzero hvalid.registered
    by_cases hfrequency : buffer 2 = 0x86
    · apply (frequency_leftovers hreg hvalid hfrequency n origin).congr
      have hnot : ¬ StaleLength o buffer length r n := by
        intro hstale
        have hcmd := hstale.cmd
        rw [hfrequency] at hcmd
        exact absurd hcmd (by decide)
      exact (and_iff_left hnot).symm
    · have haddress : ¬ StaleAddress o buffer length r origin :=
        fun hstale => hfrequency hstale.cmd
      have hrun := processWith_of_valid runHandler hvalid
      have hrun' := processWith_of_valid runHandler hvalid'
      rw [processParamTable, processParamTable, hrun, hrun']
      by_cases hinventory : buffer 2 = 0xEE ∨ buffer 2 = 0xDF
      · have hall : ∀ e ∈ registeredItems, e.1 = 0xEE ∨ e.1 = 0xDF → e.2.flag = flagOTHR
            ∧ ∃ f ∈ inventories, e.2.function = some f := by decide
        obtain ⟨hothr, f, hf, hfun⟩ := hall _ hmem hinventory
        have hkind := hmatch.flag.trans hothr
        rw [dispatch_other runHandler hvalid hkind, dispatch_other runHandler hvalid' hkind]
        apply (inventory_leftovers hf (hmatch.function.trans hfun) n origin).congr
        constructor
        · intro hlengths
          refine ⟨haddress, fun hstale => ?_⟩
          exact hstale.lengths (hlengths hstale.len hstale.cut)
        · rintro ⟨-, hlength⟩ hlen hcut
          by_contra hlengths
          exact hlength ⟨hinventory, hvalid, hlen, hcut, hlengths⟩
      · have hlength : ¬ StaleLength o buffer length r n := fun hstale => hinventory hstale.cmd
        refine SameResults.sameIff (SameFinishes.pack ?_) ⟨haddress, hlength⟩
        obtain hwr | hrd | hothr := registeredItems_flag hmem
        · have hkind := hmatch.flag.trans hwr
          have hne : ∀ e ∈ registeredItems, e.2.function = some .setFrequency1 → e.1 = 0x86 := by
            decide
          rw [dispatch_write runHandler hvalid hkind, dispatch_write runHandler hvalid' hkind]
          exact writeRequest_leftovers n origin hmem hmatch hwr
            fun hfun => hfrequency (hne _ hmem hfun)
        · have hkind := hmatch.flag.trans hrd
          rw [dispatch_read runHandler hvalid hkind, dispatch_read runHandler hvalid' hkind]
          exact readRequest_leftovers n origin hmem rfl hmatch hrd
        · have hkind := hmatch.flag.trans hothr
          have hinv : ∀ e ∈ registeredItems, ∀ f ∈ inventories, e.2.function = some f →
              e.1 = 0xEE ∨ e.1 = 0xDF := by decide
          obtain ⟨f, hf⟩ := function_of_other hmem hothr
          rw [dispatch_other runHandler hvalid hkind, dispatch_other runHandler hvalid' hkind]
          apply otherRequest_leftovers n origin (hmatch.function.trans hf)
          intro _ before
          exact overwrites_run n (not_update_of_other hmem hothr hf)
            (fun hmemf => hinventory (hinv _ hmem f hmemf hf)) before _ _
  · have hvalid' : ¬ Valid o buffer length (r.withLeftovers n origin).toGlobals := by
      intro h
      exact hvalid (h.withLeftovers r.cmdTmpLen r.tagDataOrigin)
    apply SameResults.sameIff
    · rw [processParamTable, processParamTable, processWith_refused runHandler hvalid,
        processWith_refused runHandler hvalid']
      exact .inr ⟨_, _, rfl, rfl, SameFinish.pack (.of_buffer rfl rfl rfl)⟩
    · exact ⟨fun hstale => hvalid hstale.valid, fun hstale => hvalid hstale.valid⟩

/-- A new reader answers the request for its version alike after a request from RS485 that was
answered with seven parameters. -/
theorem no_leftovers_version :
  let buffer := Mem.ofList [0x40, 0x02, 0x02, 0xBC] fun _ => 0
  let r := powerOn .blank
  ∃ x y, processParamTable .sourceFrom232 buffer 4 r = some x
    ∧ processParamTable .sourceFrom232 buffer 4 (r.withLeftovers 7 .sourceFrom485) = some y
    ∧ SameResult x y
  := by
  intro buffer r
  have hreg : Registered r.gParamTable := registered_powerOn .blank
  have hreturn : (processParamTable .sourceFrom232 buffer 4 r).isSome := by
    unfold r
    rw [powerOn_eq]
    decide
  obtain ⟨hsome, hsame⟩ := no_leftovers_iff r hreg .sourceFrom232 buffer 4 7 .sourceFrom485
  obtain ⟨x, hx⟩ := Option.isSome_iff_exists.mp hreturn
  obtain ⟨y, hy⟩ := Option.isSome_iff_exists.mp (hsome.trans hreturn)
  refine ⟨x, y, hx, hy, (hsame x y hx hy).mpr ⟨fun hstale => ?_, fun hstale => ?_⟩⟩
  · exact absurd hstale.cmd (by decide)
  · exact absurd hstale.cmd (by decide)

/-- A new reader whose R2000 answers the first command with a success. -/
def confirming : Surroundings :=
  { Surroundings.blank with
    traffic := [([0xA0, 0x04, 0x01, 0x78, 0x10, 0xD3] : List UInt8).map .rx ++ [.poll]] }

/-- A new reader is set to command mode over RS232 and gets the request `0x86` over RS485.  It
replies with the lower frequency in place of its address, and would have replied with its address
after a request from RS485 whose function builds a reply. -/
theorem address_byte_lost :
  let buffer := Mem.ofList [0x40, 0x09, 0x86, 0x01, 0x01, 0, 0, 0, 0, 0, 0x2F] fun _ => 0
  ∃ buffer₀ r, processParamTable .sourceFrom232 commandModeRequest 5 (powerOn confirming)
      = some (cmdoorCheckOk, buffer₀, r)
    ∧ ∃ x y, processParamTable .sourceFrom485 buffer 11 r = some x
      ∧ processParamTable .sourceFrom485 buffer 11
        (r.withLeftovers r.cmdTmpLen .sourceFrom485) = some y
      ∧ replyFrame x = [0xF0, 0x03, 0x86, 0x07, 0x80]
      ∧ replyFrame y = [0xF0, 0x03, 0x86, 0x01, 0x86]
      ∧ ¬ SameResult x y
  := by
  intro buffer
  have heval : ((processParamTable .sourceFrom232 commandModeRequest 5 (powerOn confirming)).bind
      fun mode => (processParamTable .sourceFrom485 buffer 11 mode.2.2).bind
        fun x => (processParamTable .sourceFrom485 buffer 11
          (mode.2.2.withLeftovers mode.2.2.cmdTmpLen .sourceFrom485)).map
        fun y => (mode.1, x.1, replyFrame x, replyFrame y))
      = some (cmdoorCheckOk, cmdoorCheckOk, [0xF0, 0x03, 0x86, 0x07, 0x80],
          [0xF0, 0x03, 0x86, 0x01, 0x86]) := by
    rw [powerOn_eq]
    decide +kernel
  obtain ⟨⟨flag₀, buffer₀, r⟩, hmode, hreplies⟩ := Option.bind_eq_some_iff.mp heval
  obtain ⟨x, hx, hreplies⟩ := Option.bind_eq_some_iff.mp hreplies
  obtain ⟨y, hy, heq⟩ := Option.map_eq_some_iff.mp hreplies
  simp only [Prod.mk.injEq] at heq
  obtain ⟨rfl, hflag, hframe, hframe'⟩ := heq
  refine ⟨buffer₀, r, hmode, x, y, hx, hy, hframe, hframe', fun hsame => ?_⟩
  have hsent : x.1 ≠ errorNoReturn := by
    rw [hflag]
    decide
  have hequal := hsame.frame hsent
  rw [hframe, hframe'] at hequal
  exact absurd hequal (by decide)

end UhfReader
