import UhfReader.Reply
import UhfReader.Requests
import UhfReader.TagReplies

/-!
# Requests that fail

A request that is answered with an error, or not at all, should leave `g_device` and `setFlag`
as they were.  Three commands do not keep to this: `0x0D` raises `setFlag` before it looks at
its length, `0x04` stores the output power before the R2000 confirms it, and `0x57` reads the
clock into `g_device`, and can store headers of records over its last bytes, before its reply
turns out to be too long.  `error_atomic_iff` states that there is no other exception.
-/

open Memory

namespace UhfReader

variable {o : CmdOrigin} {buffer : Mem} {length idindex : ℕ} {r : Reader}

/-- A request that is not acknowledged leaves `g_device` and `setFlag` as they were. -/
def ErrorAtomic (o : CmdOrigin) (buffer : Mem) (length : ℕ) (r : Reader) : Prop :=
  ∀ flag buffer' r', processParamTable o buffer length r = some (flag, buffer', r') →
    flag ≠ cmdoorCheckOk → r'.gDevice = r.gDevice ∧ r'.setFlag = r.setFlag

/-- Only what happens after the checks matters. -/
theorem errorAtomic_iff_dispatch :
  ErrorAtomic o buffer length r
    ↔ (Valid o buffer length r.toGlobals → ∀ outcome,
      dispatch runHandler o buffer r = some outcome →
      (pack o outcome).1 ≠ cmdoorCheckOk →
      outcome.2.2.gDevice = r.gDevice ∧ outcome.2.2.setFlag = r.setFlag)
  := by
  constructor
  · intro hatomic hvalid outcome hdispatch herror
    have hp : processParamTable o buffer length r = some (pack o outcome) := by
      rw [processParamTable, processWith_of_valid _ hvalid, hdispatch, Option.map_some]
    exact hatomic _ _ _ hp herror
  · intro h flag buffer' r' hp herror
    by_cases hvalid : Valid o buffer length r.toGlobals
    · rw [processParamTable, processWith_of_valid _ hvalid, Option.map_eq_some_iff] at hp
      obtain ⟨outcome, hdispatch, hreply⟩ := hp
      have hflag : (pack o outcome).1 = flag := congrArg Prod.fst hreply
      have hr' : outcome.2.2 = r' := congrArg (fun x => x.2.2) hreply
      rw [← hr']
      rw [← hflag] at herror
      exact h hvalid outcome hdispatch herror
    · obtain ⟨_, _, hp', -⟩ := processWith_of_not_valid runHandler hvalid
      rw [processParamTable, hp', Option.some.injEq] at hp
      cases hp
      exact ⟨rfl, rfl⟩

/-! ### Replies that are sent -/

/-- The outcome of a request that succeeded is kept when the reply is not too long. -/
theorem pack_ok {b : Mem} {n : UInt8} (hlen : b 1 = emptyLen o + n) (hn : n.toNat ≤ 200) :
  (pack o (cmdoorCheckOk, b, r)).1 = cmdoorCheckOk
  := by
  have hempty : (emptyLen o).toNat ≤ 3 := by cases o <;> decide
  apply packet_ok_sent hlen
  simp only [bufLen]
  omega

/-- The length byte of the reply to a write request that stored its value. -/
theorem storeRequest_len
    (hok : (storeRequest o idindex buffer r).1 = cmdoorCheckOk) :
  (storeRequest o idindex buffer r).2.1 1 = emptyLen o
  := by
  by_cases hbare : buffer 2 ∈ bareCmds
  · unfold storeRequest at hok ⊢
    dsimp only at hok ⊢
    rw [if_pos hbare] at hok ⊢
    dsimp only at hok ⊢
    split at hok
    · exact absurd hok (by decide)
    · rename_i hlen
      exact not_not.mp hlen
  · by_cases hfilter : buffer 2 = 0x15
    · have hbase := storeTagFilter_base o idindex buffer r.toGlobals
      have htable : (storeTagFilter o idindex buffer r.toGlobals).2.gParamTable
          = r.gParamTable.setLength idindex (buffer 1 - emptyLen o) :=
        congrArg (fun b => b.1) hbase
      unfold storeRequest
      dsimp only
      rw [if_neg hbare, if_pos hfilter]
      dsimp only
      rw [Mem.put_same, htable, SParamTable.setLength, SParamTable.setItem]
      dsimp only
      rw [if_pos rfl]
      grind
    · rw [storeRequest_value o idindex r hbare hfilter] at hok ⊢
      dsimp only at hok ⊢
      have htable : (storeValue o idindex buffer r.toGlobals).2.gParamTable = r.gParamTable := by
        obtain hbase | hbase := storeValue_base o idindex buffer r.toGlobals
        · exact congrArg (fun b => b.1) hbase
        · exact congrArg (fun b => b.1) hbase
      rw [Mem.put_same, htable]
      unfold storeValue at hok
      dsimp only at hok
      split at hok
      · exact absurd (show ortherWrong = cmdoorCheckOk from hok) (by decide)
      · rename_i hlen
        have heq := not_not.mp hlen
        apply UInt8.toNat_inj.mp
        rw [UInt8.toNat_sub_of_le]
        · omega
        · rw [UInt8.le_iff_toNat_le]
          omega

/-- The buffer after a write request has stored its value: the length byte is that of a reply
without parameters. -/
theorem storeRequest_buffer
    (hok : (storeRequest o idindex buffer r).1 = cmdoorCheckOk) :
  (storeRequest o idindex buffer r).2.1 = buffer.put 1 (emptyLen o)
  := by
  have hput : ∃ v, (storeRequest o idindex buffer r).2.1 = buffer.put 1 v := by
    unfold storeRequest
    dsimp only
    split
    · exact ⟨buffer 1, (Mem.put_self buffer 1).symm⟩
    · exact ⟨_, rfl⟩
  obtain ⟨v, hv⟩ := hput
  have hlen := storeRequest_len hok
  rw [hv, Mem.put_same] at hlen
  rw [hv, hlen]

/-! ### Requests that stop early -/

/-- A value that is refused is not stored. -/
theorem storeValue_error {g : Globals}
    (herror : (storeValue o idindex buffer g).1 ≠ cmdoorCheckOk) :
  (storeValue o idindex buffer g).2 = g
  := by
  generalize hout : storeValue o idindex buffer g = out at herror ⊢
  unfold storeValue at hout
  dsimp only at hout
  split at hout
  · subst hout
    rfl
  · split at hout
    · subst hout
      rfl
    · split at hout
      · subst hout
        rfl
      · rename_i hrange
        have hok := not_not.mp hrange
        -- every branch from here on returns the flag of `rangeControl`
        exfalso
        apply herror
        split at hout
        · subst hout
          exact hok
        · split at hout
          · subst hout
            exact hok
          · split at hout
            · subst hout
              exact hok
            · subst hout
              exact hok

/-- A write request that does not store its value leaves `g_device` alone, and raises `setFlag`
for the command `0x0D` only. -/
theorem storeRequest_error (herror : (storeRequest o idindex buffer r).1 ≠ cmdoorCheckOk)
    (hcmd : buffer 2 ≠ 0x0D) :
  (storeRequest o idindex buffer r).2.2.gDevice = r.gDevice
    ∧ (storeRequest o idindex buffer r).2.2.setFlag = r.setFlag
  := by
  generalize hout : storeRequest o idindex buffer r = out at herror ⊢
  unfold storeRequest at hout
  dsimp only at hout
  split at hout
  · subst hout
    exact ⟨rfl, rfl⟩
  · split at hout
    · subst hout
      unfold storeTagFilter at herror ⊢
      dsimp only at herror ⊢
      split at herror
      · exact absurd rfl herror
      · rename_i hfour
        rw [if_neg hfour]
        split at herror
        · rename_i hshort
          rw [if_pos hshort]
          exact ⟨rfl, rfl⟩
        · exact absurd rfl herror
    · subst hout
      dsimp only at herror ⊢
      rw [storeValue_error herror]
      exact ⟨rfl, rfl⟩

/-! ### Requests other than the three exceptions -/

/-- A write request that stored its value is acknowledged. -/
theorem writeRequest_acknowledged {called : Mem × Reader}
    (hok : (storeRequest o idindex buffer r).1 = cmdoorCheckOk) {function : Option Handler}
    (hcall : callFunction runHandler function (storeRequest o idindex buffer r).2.1
      (storeRequest o idindex buffer r).2.2 = some called) :
  (pack o (cmdoorCheckOk, called)).1 = cmdoorCheckOk
  := by
  apply pack_ok (n := 0)
  · rw [callFunction_below (by decide) hcall, storeRequest_len hok, UInt8.add_zero]
  · decide

/-- A read request of the right length, other than `0x57`, is acknowledged. -/
theorem readRequest_acknowledged {item : SParamItem} {called : Mem × Reader}
    {readerWorkStatus : UInt8} (hmem : (buffer 2, item) ∈ registeredItems)
    (hmatch : (r.gParamTable.table idindex).Matches (buffer 2) item) (hflag : item.flag = flagRD)
    (hcmd : buffer 2 ≠ 0x57) (hlen : readLen buffer = emptyLen o)
    (hcall : callFunction runHandler (r.gParamTable.table idindex).function buffer r
      = some called) :
  (pack o (finishRead o idindex readerWorkStatus called)).1 = cmdoorCheckOk
  := by
  have hsame : called.1 2 = buffer 2 := callFunction_below (by decide) hcall
  have hlen' : readLen called.1 = emptyLen o := by
    rw [readLen, hsame, callFunction_below (by decide) hcall]
    exact hlen
  rw [← callFunction_gParamTable hcall] at hmatch
  obtain ⟨src, n, g', -, hshort, hload⟩ := loadValue_eq hmem hmatch hflag
  rw [finishRead, hload o called.1 hsame hlen']
  apply pack_ok (n := n)
  · dsimp only
    rw [Mem.put_same]
  · exact hshort hcmd

/-- The functions of the third kind that change the settings belong to `0x04` and `0x05`. -/
theorem settingHandlers_of_other {c : UInt8} {item : SParamItem} {f : Handler}
    (hmem : (c, item) ∈ registeredItems) (hflag : item.flag = flagOTHR)
    (hf : item.function = some f) :
  f ∉ settingHandlers ∨ c = 0x04 ∨ f = .setFrequency
  := by
  have hall : ∀ e ∈ registeredItems, e.2.flag = flagOTHR →
      (∀ f ∈ settingHandlers, e.2.function ≠ some f) ∨ e.1 = 0x04
        ∨ e.2.function = some .setFrequency := by decide
  obtain hnot | hpower | hfrequency := hall _ hmem hflag
  · left
    intro hmem
    exact hnot f hmem hf
  · exact .inr (.inl hpower)
  · right; right
    exact Option.some.inj (hf.symm.trans hfrequency)

/-- `0x05` is acknowledged. -/
theorem setFrequency_acknowledged {called : Mem × Reader}
    (hcall : callFunction runHandler (some .setFrequency) buffer r = some called) :
  (pack o (finishOther o called)).1 = cmdoorCheckOk
  := by
  obtain ⟨hnone, -⟩ | ⟨f, p, g, hf, hrun, rfl⟩ := callFunction_cases hcall
  · cases hnone
  · cases hf
    cases hrun
    apply pack_ok (n := 0)
    · rw [Mem.put_same]
      exact UInt8.add_comm _ _
    · decide

/-- Requests other than the three exceptions are atomic. -/
theorem errorAtomic_of_cmd (hreg : Registered r.gParamTable)
    (hcmd : buffer 2 ∉ [0x04, 0x0D, 0x57]) :
  ErrorAtomic o buffer length r
  := by
  have hpower : buffer 2 ≠ 0x04 := fun heq => hcmd (by rw [heq]; decide)
  have hreset : buffer 2 ≠ 0x0D := fun heq => hcmd (by rw [heq]; decide)
  have hrecord : buffer 2 ≠ 0x57 := fun heq => hcmd (by rw [heq]; decide)
  rw [errorAtomic_iff_dispatch]
  intro hvalid outcome hdispatch herror
  obtain ⟨item, hmem, hmatch⟩ := hreg.lookup hvalid.nonzero hvalid.registered
  obtain hwr | hrd | hothr := registeredItems_flag hmem
  · rw [dispatch_write _ hvalid (hmatch.flag.trans hwr)] at hdispatch
    obtain ⟨hstop, rfl⟩ | ⟨called, hok, hcall, rfl⟩ := writeRequest_cases hdispatch
    · exact storeRequest_error hstop hreset
    · exact absurd (writeRequest_acknowledged hok hcall) herror
  · rw [dispatch_read _ hvalid (hmatch.flag.trans hrd)] at hdispatch
    obtain ⟨-, rfl⟩ | ⟨called, hlen, hcall, rfl⟩ := readRequest_cases hdispatch
    · exact ⟨rfl, rfl⟩
    · exact absurd (readRequest_acknowledged hmem hmatch hrd hrecord hlen hcall) herror
  · rw [dispatch_other _ hvalid (hmatch.flag.trans hothr)] at hdispatch
    obtain ⟨-, rfl⟩ | ⟨-, -, rfl⟩ | ⟨f, called, -, hf, hcall, rfl⟩ := otherRequest_cases hdispatch
    · exact ⟨rfl, rfl⟩
    · exact ⟨rfl, rfl⟩
    · obtain hnot | hcmd' | rfl :=
        settingHandlers_of_other hmem hothr (hmatch.function.symm.trans hf)
      · rw [finishOther_reader]
        have hkept := callFunction_settings (fun f' hf' => by cases hf'; exact hnot) hcall
        exact ⟨congrArg Settings.gDevice hkept, congrArg Settings.setFlag hkept⟩
      · exact absurd hcmd' hpower
      · exact absurd (setFrequency_acknowledged hcall) herror

/-! ### The three exceptions -/

/-- `0x0D` with a wrong length, while `setFlag` is not raised. -/
structure RefusedReset (o : CmdOrigin) (buffer : Mem) (length : ℕ) (r : Reader) : Prop
    extends Valid o buffer length r.toGlobals where
  cmd : buffer 2 = 0x0D
  len : buffer 1 ≠ emptyLen o
  setFlag : r.setFlag ≠ 1

/-- `0x04` with a new power, which the R2000 does not confirm. -/
structure UnconfirmedPower (o : CmdOrigin) (buffer : Mem) (length : ℕ) (r : Reader) : Prop
    extends Valid o buffer length r.toGlobals where
  cmd : buffer 2 = 0x04
  power : r.gDevice.load Offset.outputPower ≠ clampPower (buffer (paraOff o))
  refused : PowerRefused (buffer.shift (paraOff o)) r.toGlobals

/-- `0x57` for more records than fit into a reply, when the clock has gone on, or when the header
of a record comes over other bytes at the end of `g_device`. -/
structure OverlongRecord (o : CmdOrigin) (buffer : Mem) (length : ℕ) (r : Reader) : Prop
    extends Valid o buffer length r.toGlobals where
  cmd : buffer 2 = 0x57
  len : readLen buffer = emptyLen o
  long : (emptyLen o).toNat + (r.recordPlace r.recordRounds).toNat + 2 ≥ bufLen
  changes : r.readClock.gDevice ≠ r.gDevice
    ∨ ∃ x < 16, ∃ i, r.LastOver r.recordRounds x i
      ∧ r.recordsHeader.getD (x - (r.recordPlace i).toNat) 0 ≠ r.gDevice.load (194 + x)

/-- The entry found for a registered command. -/
theorem Registered.entry (hreg : Registered r.gParamTable) {c : UInt8} {item : SParamItem}
    (hmem : (c, item) ∈ registeredItems) (hcmd : buffer 2 = c) :
  (r.toGlobals.entry buffer).Matches c item
  := by
  rw [Globals.entry, hcmd]
  exact (hreg.found hmem).2

theorem errorAtomic_reset (hreg : Registered r.gParamTable) (hcmd : buffer 2 = 0x0D) :
  ErrorAtomic o buffer length r ↔ ¬ RefusedReset o buffer length r
  := by
  have hentry := hreg.entry
    (show ((0x0D : UInt8), (⟨none, flagWR, 4, some .readReaderPara⟩ : SParamItem))
      ∈ registeredItems by decide) hcmd
  have hstore := storeRequest_factory o (r.gParamTable.getparaindex (buffer 2)) r hcmd
  rw [errorAtomic_iff_dispatch]
  constructor
  · intro hatomic hrefused
    have hstop : (storeRequest o (r.gParamTable.getparaindex (buffer 2)) buffer r).1
        = ortherWrong := by
      rw [hstore, if_pos hrefused.len]
    have herror : (storeRequest o (r.gParamTable.getparaindex (buffer 2)) buffer r).1
        ≠ cmdoorCheckOk := by
      rw [hstop]
      decide
    have hdispatch : dispatch runHandler o buffer r
        = some (storeRequest o (r.gParamTable.getparaindex (buffer 2)) buffer r) := by
      rw [dispatch_write _ hrefused.toValid hentry.flag, writeRequest, if_neg herror]
    obtain ⟨-, hflag⟩ := hatomic hrefused.toValid _ hdispatch (by rwa [pack_error herror])
    rw [hstore] at hflag
    exact hrefused.setFlag hflag.symm
  · intro hnot hvalid outcome hdispatch herror
    rw [dispatch_write _ hvalid hentry.flag] at hdispatch
    obtain ⟨hstop, rfl⟩ | ⟨called, hok, hcall, rfl⟩ := writeRequest_cases hdispatch
    · rw [hstore] at hstop ⊢
      have hlen : buffer 1 ≠ emptyLen o := by
        intro heq
        rw [if_neg (not_not.mpr heq)] at hstop
        exact hstop rfl
      refine ⟨rfl, ?_⟩
      by_contra hflag
      exact hnot ⟨hvalid, hcmd, hlen, fun heq => hflag heq.symm⟩
    · exact absurd (writeRequest_acknowledged hok hcall) herror

/-- `0x04` fails when the R2000 does not confirm the power. -/
theorem finishOther_refused {called : Mem × Reader} (h : called.2.cmdTmpLen = 0xFF) :
  finishOther o called = (noTag, called)
  := by
  rw [finishOther, if_pos]
  rw [h]
  decide

theorem errorAtomic_power (hreg : Registered r.gParamTable) (hcmd : buffer 2 = 0x04) :
  ErrorAtomic o buffer length r ↔ ¬ UnconfirmedPower o buffer length r
  := by
  have hentry := hreg.entry
    (show ((0x04 : UInt8),
        (⟨some (.device Offset.outputPower), flagOTHR, 1, some .setOutputPower⟩ : SParamItem))
      ∈ registeredItems by decide) hcmd
  have hlen : tagDataLenPurse o buffer = cmdoorCheckOk := by
    rw [tagDataLenPurse, hcmd]
    rfl
  have hother := otherRequest_of_function runHandler (r.gParamTable.getparaindex (buffer 2)) hlen
    hentry.function
  rw [errorAtomic_iff_dispatch]
  constructor
  · intro hatomic hunconfirmed
    obtain ⟨p', g', hrun⟩ := hunconfirmed.refused.returns
    obtain ⟨hconfirmed, -⟩ | ⟨-, hfail, hset⟩ := setOutputPower_cases hrun
    · exact hconfirmed.not_refused hunconfirmed.refused
    · have hdispatch : dispatch runHandler o buffer r
          = some (noTag, buffer.graft (paraOff o) p', { toGlobals := g', tagDataOrigin := o }) := by
        rw [dispatch_other _ hunconfirmed.toValid hentry.flag, hother]
        show (setOutputPower _ _).map _ = _
        rw [hrun, Option.map_some, finishOther_refused hfail]
      have herror : noTag ≠ cmdoorCheckOk := by decide
      obtain ⟨hdevice, -⟩ := hatomic hunconfirmed.toValid _ hdispatch (by rwa [pack_error herror])
      have hstored : g'.gDevice = (powerStored (buffer.shift (paraOff o)) r.toGlobals).gDevice :=
        congrArg Settings.gDevice hset
      apply hunconfirmed.power
      dsimp only at hdevice
      rw [← hdevice, hstored, powerStored, Block.load_put (by decide), if_pos rfl]
      rfl
  · intro hnot hvalid outcome hdispatch herror
    rw [dispatch_other _ hvalid hentry.flag, hother, Option.map_eq_some_iff] at hdispatch
    obtain ⟨⟨p', g'⟩, hrun, rfl⟩ := hdispatch
    rw [finishOther_reader]
    obtain ⟨-, hdone, -⟩ | ⟨hrefused, -, hset⟩ := setOutputPower_cases hrun
    · exfalso
      apply herror
      rw [finishOther, if_neg (by rw [hdone]; decide)]
      apply pack_ok (n := 0)
      · rw [Mem.put_same, hdone]
        exact UInt8.add_comm _ _
      · decide
    · refine ⟨?_, congrArg Settings.setFlag hset⟩
      -- the power stored is the one that was there before
      have hstored : g'.gDevice = (powerStored (buffer.shift (paraOff o)) r.toGlobals).gDevice :=
        congrArg Settings.gDevice hset
      have hpower : r.gDevice.load Offset.outputPower = clampPower (buffer (paraOff o)) := by
        by_contra hpower
        exact hnot ⟨hvalid, hcmd, hpower, hrefused⟩
      dsimp only
      rw [hstored, powerStored]
      apply Block.ext_load
      intro i _
      dsimp only
      rw [Block.load_put (by decide)]
      split
      · rename_i hi
        rw [hi, hpower]
        rfl
      · rfl

/-- What `0x57` does when its length is right: the flag and the state. -/
theorem readRequest_record (hcmd : buffer 2 = 0x57) (hlen : readLen buffer = emptyLen o)
    (hentry : (r.gParamTable.table idindex).Matches 0x57
      ⟨some .cmdTmpBuf, flagRD, 5, some .getTagRecord⟩) :
  ∃ b, readRequest runHandler o idindex buffer r
      = some (cmdoorCheckOk, b, { r with toGlobals := tagRecord r.toGlobals })
    ∧ b 1 = emptyLen o + (tagRecord r.toGlobals).cmdTmpLen
  := by
  have hcall : callFunction runHandler (some .getTagRecord) buffer r
      = some (buffer.graft (paraOff r.tagDataOrigin) (buffer.shift (paraOff r.tagDataOrigin)),
        { r with toGlobals := tagRecord r.toGlobals }) := rfl
  rw [Mem.graft_shift] at hcall
  have hmatch : ((tagRecord r.toGlobals).gParamTable.table idindex).Matches 0x57
      ⟨some .cmdTmpBuf, flagRD, 5, some .getTagRecord⟩ := by
    rw [show (tagRecord r.toGlobals).gParamTable = r.gParamTable from
      callFunction_gParamTable hcall]
    exact hentry
  obtain ⟨src, n, g', hrecord, -, hload⟩ := loadValue_eq
    (show ((0x57 : UInt8), (⟨some .cmdTmpBuf, flagRD, 5, some .getTagRecord⟩ : SParamItem))
      ∈ registeredItems by decide) hmatch rfl
  obtain ⟨rfl, rfl⟩ := hrecord rfl
  refine ⟨(loadValue o idindex buffer (tagRecord r.toGlobals)).1, ?_, ?_⟩
  · rw [readRequest, if_neg (not_not.mpr hlen), hentry.function, hcall, Option.map_some, finishRead]
    dsimp only
    rw [hload o buffer hcmd hlen, restoreWorkStatus, if_neg (by rw [hcmd]; decide)]
  · rw [hload o buffer hcmd hlen]
    dsimp only
    rw [Mem.put_same]

/-- A reply has no room in the buffer when it is as long as that, or its length is no byte. -/
theorem noRoom_iff (o : CmdOrigin) (n : UInt8) :
  (emptyLen o + n < emptyLen o ∨ (emptyLen o + n).toNat + 2 ≥ bufLen)
    ↔ (emptyLen o).toNat + n.toNat + 2 ≥ bufLen
  := by
  have hempty : (emptyLen o).toNat ≤ 3 := by cases o <;> decide
  have hbyte := n.toNat_lt
  rw [UInt8.lt_iff_toNat_lt, UInt8.toNat_add]
  simp only [bufLen]
  omega

/-- The two ways in which `0x57` changes `g_device`. -/
theorem tagRecord_gDevice_ne_iff (g : Globals) :
  (tagRecord g).gDevice ≠ g.gDevice
    ↔ g.readClock.gDevice ≠ g.gDevice
      ∨ ∃ x < 16, ∃ i, g.LastOver g.recordRounds x i
        ∧ g.recordsHeader.getD (x - (g.recordPlace i).toNat) 0 ≠ g.gDevice.load (194 + x)
  := by
  rw [ne_eq, tagRecord_gDevice_iff, not_and_or]
  simp only [not_forall, exists_prop, ne_eq]

theorem errorAtomic_record (hreg : Registered r.gParamTable) (hcmd : buffer 2 = 0x57) :
  ErrorAtomic o buffer length r ↔ ¬ OverlongRecord o buffer length r
  := by
  have hentry := hreg.entry
    (show ((0x57 : UInt8), (⟨some .cmdTmpBuf, flagRD, 5, some .getTagRecord⟩ : SParamItem))
      ∈ registeredItems by decide) hcmd
  have hlong : ∀ b : Mem, b 1 = emptyLen o + (tagRecord r.toGlobals).cmdTmpLen →
      ∀ r', ((pack o (cmdoorCheckOk, b, r')).1 ≠ cmdoorCheckOk
        ↔ (emptyLen o).toNat + (r.recordPlace r.recordRounds).toNat + 2 ≥ bufLen) := by
    intro b hb r'
    rw [pack]
    dsimp only
    rw [packet_ok_flag, hb, ← tagRecord_cmdTmpLen_eq, ← noRoom_iff]
    split
    · rename_i hroom
      exact ⟨fun _ => hroom, fun _ => by decide⟩
    · rename_i hroom
      exact ⟨fun h => absurd rfl h, fun h => absurd h hroom⟩
  rw [errorAtomic_iff_dispatch]
  constructor
  · intro hatomic hrecord
    obtain ⟨b, hread, hb⟩ := readRequest_record hcmd hrecord.len hentry
    have hdispatch := dispatch_read runHandler hrecord.toValid hentry.flag
    rw [hread] at hdispatch
    have herror := (hlong b hb { r with toGlobals := tagRecord r.toGlobals }).mpr hrecord.long
    obtain ⟨hsame, -⟩ := hatomic hrecord.toValid _ hdispatch herror
    exact (tagRecord_gDevice_ne_iff r.toGlobals).mpr hrecord.changes hsame
  · intro hnot hvalid outcome hdispatch herror
    rw [dispatch_read _ hvalid hentry.flag] at hdispatch
    by_cases hlen : readLen buffer = emptyLen o
    · obtain ⟨b, hread, hb⟩ := readRequest_record hcmd hlen hentry
      rw [hread, Option.some.injEq] at hdispatch
      subst hdispatch
      refine ⟨?_, congrArg (fun b => b.2.1) (tagRecord_base r.toGlobals)⟩
      by_contra hchanges
      apply hnot
      exact ⟨hvalid, hcmd, hlen, (hlong b hb _).mp herror,
        (tagRecord_gDevice_ne_iff r.toGlobals).mp hchanges⟩
    · rw [readRequest, if_pos hlen, Option.some.injEq] at hdispatch
      subst hdispatch
      exact ⟨rfl, rfl⟩

/-! ### Every request -/

/-- A request that is not acknowledged leaves `g_device` and `setFlag` as they were if and only
if it is none of the three exceptions: `0x0D` with a wrong length while `setFlag` is not raised,
`0x04` with a new power that the R2000 does not confirm, and `0x57` for more records than fit
into a reply, which changes the time or the bytes at the end of `g_device`. -/
theorem error_atomic_iff (r : Reader) (hreg : Registered r.gParamTable) (o : CmdOrigin)
    (buffer : Mem) (length : ℕ) :
  ErrorAtomic o buffer length r
    ↔ ¬ RefusedReset o buffer length r ∧ ¬ UnconfirmedPower o buffer length r
      ∧ ¬ OverlongRecord o buffer length r
  := by
  by_cases hreset : buffer 2 = 0x0D
  · rw [errorAtomic_reset hreg hreset]
    refine ⟨fun h => ⟨h, ?_, ?_⟩, fun h => h.1⟩
    · intro hpower
      exact absurd (hpower.cmd.symm.trans hreset) (by decide)
    · intro hrecord
      exact absurd (hrecord.cmd.symm.trans hreset) (by decide)
  · by_cases hpower : buffer 2 = 0x04
    · rw [errorAtomic_power hreg hpower]
      refine ⟨fun h => ⟨fun h' => hreset h'.cmd, h, ?_⟩, fun h => h.2.1⟩
      intro hrecord
      exact absurd (hrecord.cmd.symm.trans hpower) (by decide)
    · by_cases hrecord : buffer 2 = 0x57
      · rw [errorAtomic_record hreg hrecord]
        exact ⟨fun h => ⟨fun h' => hreset h'.cmd, fun h' => hpower h'.cmd, h⟩, fun h => h.2.2⟩
      · constructor
        · intro _
          exact ⟨fun h => hreset h.cmd, fun h => hpower h.cmd, fun h => hrecord h.cmd⟩
        · intro _
          apply errorAtomic_of_cmd hreg
          simp only [List.mem_cons, List.not_mem_nil, or_false, not_or]
          exact ⟨hpower, hreset, hrecord⟩

/-- A request `0x09` with too few parameters leaves a new reader as it was. -/
theorem short_write_is_atomic :
  let buffer := Mem.ofList [0x40, 0x02, 0x09, 0xB5] fun _ => 0
  ErrorAtomic .sourceFrom232 buffer 4 (powerOn .blank)
    ∧ (processParamTable .sourceFrom232 buffer 4 (powerOn .blank)).map Prod.fst
      = some ortherWrong
  := by
  intro buffer
  constructor
  · apply (error_atomic_iff _ _ _ _ _).mpr
    · refine ⟨fun h => ?_, fun h => ?_, fun h => ?_⟩
      · exact absurd h.cmd (by decide)
      · exact absurd h.cmd (by decide)
      · exact absurd h.cmd (by decide)
    · exact registered_powerOn .blank
  · rw [powerOn_eq]
    decide

/-- A new reader is set to command mode and gets a request `0x0D` with a parameter: the answer
is an error, and `setFlag` is raised. -/
theorem refused_reset_raises_setFlag :
  let buffer := Mem.ofList [0x40, 0x03, 0x0D, 0x00, 0xB0] fun _ => 0
  ∃ buffer₀ r, processParamTable .sourceFrom232 commandModeRequest 5 (powerOn .blank)
      = some (cmdoorCheckOk, buffer₀, r)
    ∧ r.setFlag = 0
    ∧ (∃ buffer' r', processParamTable .sourceFrom232 buffer 5 r = some (ortherWrong, buffer', r')
      ∧ r'.setFlag = 1)
    ∧ ¬ ErrorAtomic .sourceFrom232 buffer 5 r
  := by
  intro buffer
  have heval : ((processParamTable .sourceFrom232 commandModeRequest 5 (powerOn .blank)).bind
      fun mode => (processParamTable .sourceFrom232 buffer 5 mode.2.2).map
        fun reply => (mode.1, mode.2.2.setFlag, reply.1, reply.2.2.setFlag))
      = some (cmdoorCheckOk, 0, ortherWrong, 1) := by
    rw [powerOn_eq]
    decide
  obtain ⟨⟨flag₀, buffer₀, r⟩, hmode, hreply⟩ := Option.bind_eq_some_iff.mp heval
  obtain ⟨⟨flag, buffer', r'⟩, hp, heq⟩ := Option.map_eq_some_iff.mp hreply
  simp only [Prod.mk.injEq] at heq
  obtain ⟨rfl, hbefore, rfl, hafter⟩ := heq
  refine ⟨buffer₀, r, hmode, hbefore, ⟨buffer', r', hp, hafter⟩, ?_⟩
  intro hatomic
  obtain ⟨-, hsame⟩ := hatomic _ _ _ hp (by decide)
  rw [hbefore, hafter] at hsame
  exact absurd hsame (by decide)

end UhfReader
