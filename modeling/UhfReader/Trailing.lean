import UhfReader.Leftovers

/-!
# What stands behind a request

The receive buffer holds a request, and behind it whatever was there before.  A request is meant
to be answered by its own bytes alone: two buffers that hold the same frame should lead to the
same settings, the same frames to the R2000 and the same reply.

`KeepsToFrame` lists what that takes.  The commands `0x04`, `0x05`, `0x0A` and `0xEF` are carried
out with any number of parameters, `0xDD` with none, `0xEB` looks for its count where its first
parameter points to, and an inventory that is cut off replies with the bytes at hand.
-/

open Memory Stateful

namespace UhfReader

variable {o : CmdOrigin} {b b' : Mem} {length idindex : ℕ} {r : Reader} {item : SParamItem}

/-! ### Results -/

/-- Two requests have the same result, and send the same frames to the R2000. -/
structure SameTrace (x y : UInt8 × Mem × Reader) : Prop extends SameResult x y where
  sent : y.2.2.sent = x.2.2.sent

/-- Neither of two requests returns, or both do with the same result and the same frames. -/
def SameTraces (a a' : Option (UInt8 × Mem × Reader)) : Prop :=
  (a = none ∧ a' = none) ∨ ∃ x y, a = some x ∧ a' = some y ∧ SameTrace x y

/-- Neither of two requests returns, or both come to the same in the same state. -/
def SameEnds (o : CmdOrigin) (a a' : Option (UInt8 × Mem × Reader)) : Prop :=
  (a = none ∧ a' = none) ∨ ∃ x y, a = some x ∧ a' = some y ∧ SameFinish o x y ∧ y.2.2 = x.2.2

theorem SameEnds.pack {a a' : Option (UInt8 × Mem × Reader)} (h : SameEnds o a a') :
  SameTraces (a.map (pack o)) (a'.map (pack o))
  := by
  obtain ⟨rfl, rfl⟩ | ⟨x, y, rfl, rfl, hsame, hreader⟩ := h
  · exact .inl ⟨rfl, rfl⟩
  · exact .inr ⟨_, _, rfl, rfl, hsame.pack, congrArg Globals.sent (congrArg _ hreader)⟩

/-- Requests that are refused alike. -/
theorem SameEnds.error {flag : UInt8} (hflag : flag ≠ cmdoorCheckOk) {c c' : Mem}
    (hhead : Mem.AgreeBelow (paraOff o) c c') (r : Reader) :
  SameEnds o (some (flag, c, r)) (some (flag, c', r))
  := .inr ⟨_, _, rfl, rfl, ⟨rfl, rfl, hhead, fun hok => absurd hok hflag⟩, rfl⟩

/-- Replies of `n` parameters that are the same. -/
theorem SameEnds.reply {n : UInt8} {c c' : Mem} (hhead : Mem.AgreeBelow (paraOff o) c c')
    (hpara : n.toNat + (emptyLen o).toNat + 2 < bufLen →
      Mem.AgreeBelow (paraOff o + n.toNat) c c') (r : Reader) :
  SameEnds o (some (cmdoorCheckOk, c.put 1 (n + emptyLen o), r))
    (some (cmdoorCheckOk, c'.put 1 (n + emptyLen o), r))
  := by
  have hempty := toNat_emptyLen_succ o
  have hoff : paraOff o ≤ 4 := by cases o <;> decide
  have hsum : (n + emptyLen o).toNat = (n.toNat + (emptyLen o).toNat) % 256 := UInt8.toNat_add _ _
  refine .inr ⟨_, _, rfl, rfl, ⟨rfl, rfl, hhead.put 1 _, fun _ hlen => ?_⟩, rfl⟩
  dsimp only at hlen ⊢
  rw [Mem.put_same] at hlen ⊢
  apply Mem.AgreeBelow.put
  simp only [bufLen] at hlen hpara
  -- a length byte that has wrapped around counts less than the head
  by_cases hwrap : n.toNat + (emptyLen o).toNat < 256
  · apply (hpara (by omega)).mono
    omega
  · apply hhead.mono
    have := n.toNat_lt
    omega

/-- Replies without parameters that are the same. -/
theorem SameEnds.bare {c c' : Mem} (hlen : c 1 = emptyLen o)
    (hhead : Mem.AgreeBelow (paraOff o) c c') (r : Reader) :
  SameEnds o (some (cmdoorCheckOk, c, r)) (some (cmdoorCheckOk, c', r))
  := by
  have hoff := two_lt_paraOff o
  have hlen' : c' 1 = emptyLen o := (hhead 1 (by omega)).symm.trans hlen
  have hput : ∀ c : Mem, c 1 = emptyLen o → c.put 1 (0 + emptyLen o) = c := by
    intro c h
    rw [zero_add, ← h, Mem.put_self]
  rw [← hput c hlen, ← hput c' hlen']
  apply SameEnds.reply hhead
  intro _
  exact hhead

/-! ### Frames -/

/-- Two buffers hold the same frame. -/
def SameFrame (b b' : Mem) : Prop := Mem.AgreeBelow ((b 1).toNat + 2) b b'

/-- The number of bytes from the first parameter up to the end of the frame. -/
def frameRest (o : CmdOrigin) (b : Mem) : ℕ := (b 1).toNat + 2 - paraOff o

/-- The frame holds all that stands before the parameters. -/
def HeadInside (o : CmdOrigin) (b : Mem) : Prop := paraOff o ≤ (b 1).toNat + 2

instance (o : CmdOrigin) (b : Mem) : Decidable (HeadInside o b) :=
  inferInstanceAs (Decidable (_ ≤ _))

namespace SameFrame

theorem len (h : SameFrame b b') :
  b' 1 = b 1
  := (h 1 (by omega)).symm

theorem symm (h : SameFrame b b') :
  SameFrame b' b
  := by
  unfold SameFrame
  rw [h.len]
  exact Mem.AgreeBelow.symm h

theorem head (h : SameFrame b b') (hhead : HeadInside o b) :
  Mem.AgreeBelow (paraOff o) b b'
  := Mem.AgreeBelow.mono h hhead

theorem cmd (h : SameFrame b b') (hhead : HeadInside o b) :
  b' 2 = b 2
  := (h.head hhead 2 (two_lt_paraOff o)).symm

/-- The parameters in the frame and the checksum are the same. -/
theorem para (h : SameFrame b b') :
  Mem.AgreeBelow (frameRest o b) (b.shift (paraOff o)) (b'.shift (paraOff o))
  := by
  unfold frameRest
  by_cases hhead : paraOff o ≤ (b 1).toNat + 2
  · apply Mem.AgreeBelow.shift
    rwa [Nat.add_sub_cancel' hhead]
  · intro i hi
    omega

theorem checkRequest (h : SameFrame b b') (hhead : HeadInside o b) (length : ℕ) (g : Globals) :
  checkRequest o b' length g = checkRequest o b length g
  := by
  have hagree : Mem.AgreeBelow ((b 1).toNat + 1) b b' := Mem.AgreeBelow.mono h (by omega)
  have haddr : (if o = .sourceFrom485 then
        if b' 3 ≠ g.gDevice.load Offset.address then errorNoReturn else cmdoorCheckOk
      else cmdoorCheckOk)
      = if o = .sourceFrom485 then
        if b 3 ≠ g.gDevice.load Offset.address then errorNoReturn else cmdoorCheckOk
      else cmdoorCheckOk := by
    split
    · rename_i horigin
      subst horigin
      rw [h.head hhead 3 (by decide)]
    · rfl
  unfold UhfReader.checkRequest
  dsimp only
  rw [haddr, h.len, h.cmd hhead, byteSum_congr hagree, h ((b 1).toNat + 1) (by omega)]

theorem wellFormed (h : SameFrame b b') (hcmd : b' 2 = b 2) {g : Globals}
    (hwf : WellFormed b length g) :
  WellFormed b' length g
  := by
  obtain ⟨hreg, hzero, hcomplete, hsum⟩ := hwf
  refine ⟨?_, ?_, ?_, ?_⟩
  · rwa [hcmd]
  · rwa [hcmd]
  · rwa [h.len]
  · rwa [h.len, ← byteSum_congr h]

theorem valid (h : SameFrame b b') (hhead : HeadInside o b) {g : Globals}
    (hvalid : Valid o b length g) :
  Valid o b' length g
  := by
  have hcmd := h.cmd hhead
  refine ⟨h.wellFormed hcmd hvalid.toWellFormed, ?_, ?_⟩
  · rintro rfl
    rw [← h.head hhead 3 (by decide)]
    exact hvalid.addressed rfl
  · unfold ModeAllowed
    rw [hcmd]
    exact hvalid.mode

end SameFrame

/-! ### Write requests -/

/-- The length of a request that is stored. -/
theorem storeValue_len {g : Globals} (hok : (storeValue o idindex b g).1 = cmdoorCheckOk) :
  (b 1).toNat = (g.gParamTable.table idindex).length.toNat + (emptyLen o).toNat
  := by
  unfold storeValue at hok
  dsimp only at hok
  by_contra hlen
  rw [if_pos hlen] at hok
  exact absurd (show ortherWrong = cmdoorCheckOk from hok) (by decide)

/-- A write request is stored by its frame. -/
theorem SameFrame.storeRequest (h : SameFrame b b') (hhead : HeadInside o b)
    (hmem : (b 2, item) ∈ registeredItems)
    (hmatch : (r.gParamTable.table idindex).Matches (b 2) item) (hwr : item.flag = flagWR) :
  (storeRequest o idindex b' r).1 = (storeRequest o idindex b r).1
    ∧ (storeRequest o idindex b' r).2.2 = (storeRequest o idindex b r).2.2
    ∧ Mem.AgreeBelow ((b 1).toNat + 2) (storeRequest o idindex b r).2.1
      (storeRequest o idindex b' r).2.1
  := by
  have hempty := toNat_emptyLen_succ o
  by_cases hbare : b 2 ∈ bareCmds
  · unfold UhfReader.storeRequest
    dsimp only
    rw [h.cmd hhead, if_pos hbare, if_pos hbare, h.len]
    exact ⟨rfl, rfl, h⟩
  · have hstored : (if b 2 = 0x15 then storeTagFilter o idindex b' r.toGlobals
        else storeValue o idindex b' r.toGlobals)
        = if b 2 = 0x15 then storeTagFilter o idindex b r.toGlobals
          else storeValue o idindex b r.toGlobals := by
      split
      · apply storeTagFilter_congr
        · rw [h.len]
        · rw [h.len]
        · rw [h.len]
        · intro hfour
          apply Mem.AgreeBelow.shift
          apply Mem.AgreeBelow.mono h
          rw [hfour]
          cases o <;> decide
        · intro hlong
          apply h.para.mono
          have hle : emptyLen o ≤ b 1 := by
            rw [UInt8.lt_iff_toNat_lt] at hlong
            rw [UInt8.le_iff_toNat_le]
            rw [IsRequest.toNat_emptyLen_add_four] at hlong
            omega
          rw [frameRest, UInt8.toNat_sub_of_le _ _ hle]
          omega
      · rename_i hfilter
        have hother : ¬ IsTagFilterCmd (b 2) := not_tagFilter_of_write hmem hwr hfilter
        have hpos : ∀ e ∈ registeredItems, 0 < e.2.length.toNat := by decide
        apply storeValue_congr r.toGlobals (h.cmd hhead) (n := item.length.toNat)
        · rw [hmatch.length hother]
        · exact hpos _ hmem
        · rw [h.len]
        · intro hlen
          apply h.para.mono
          unfold frameRest
          omega
    unfold UhfReader.storeRequest
    dsimp only
    rw [h.cmd hhead, if_neg hbare, if_neg hbare, hstored, h.len]
    exact ⟨rfl, rfl, Mem.AgreeBelow.put h 1 _⟩

/-- `0x86` finds its six parameters in the frame, wherever the last origin puts them. -/
theorem SameFrame.callFrequency (h : SameFrame b b')
    (hlen : (b 1).toNat = 6 + (emptyLen o).toNat) :
  SameEnds o
    ((callFunction runHandler (some .setFrequency1) (b.put 1 (emptyLen o)) r).map
      fun called => (cmdoorCheckOk, called))
    ((callFunction runHandler (some .setFrequency1) (b'.put 1 (emptyLen o)) r).map
      fun called => (cmdoorCheckOk, called))
  := by
  have hoff : ∀ o, 2 < paraOff o ∧ paraOff o ≤ 4 := by
    intro o
    cases o <;> decide
  have hempty : 2 ≤ (emptyLen o).toNat := by cases o <;> decide
  have hkept : Mem.AgreeBelow ((b 1).toNat + 2) (b.put 1 (emptyLen o)) (b'.put 1 (emptyLen o)) :=
    Mem.AgreeBelow.put h 1 _
  obtain ⟨hlow, hhigh⟩ := hoff r.tagDataOrigin
  generalize hplace : paraOff r.tagDataOrigin = off at hlow hhigh
  have hp : Mem.AgreeBelow 6 ((b.put 1 (emptyLen o)).shift off)
      ((b'.put 1 (emptyLen o)).shift off) :=
    Mem.AgreeBelow.shift (hkept.mono (by omega))
  unfold callFunction
  dsimp only [runHandler, Handler.run]
  rw [hplace]
  obtain ⟨hnone, hnone'⟩ | ⟨q, q', g, hran, hran', hsame⟩ := simAt_setFrequency1 hp r.toGlobals
  · rw [hnone, hnone']
    exact .inl ⟨rfl, rfl⟩
  · rw [hran, hran']
    have hagree : Mem.AgreeBelow (off + 6) ((b.put 1 (emptyLen o)).graft off q)
        ((b'.put 1 (emptyLen o)).graft off q') := hkept.graft hsame (by omega)
    have hone : ((b.put 1 (emptyLen o)).graft off q) 1 = emptyLen o := by
      rw [Mem.graft_below (by omega), Mem.put_same]
    apply SameEnds.bare hone
    apply hagree.mono
    have := (hoff o).2
    omega

/-- A write request is carried out by its frame. -/
theorem SameFrame.writeRequest (h : SameFrame b b') (hhead : HeadInside o b)
    (hmem : (b 2, item) ∈ registeredItems)
    (hmatch : (r.gParamTable.table idindex).Matches (b 2) item) (hwr : item.flag = flagWR) :
  SameEnds o (writeRequest runHandler o idindex b r) (writeRequest runHandler o idindex b' r)
  := by
  obtain ⟨hflag, hreader, hagree⟩ := h.storeRequest hhead hmem hmatch hwr
  have hkept := h.head hhead
  have hfunction := (storeRequest_function o idindex b r).trans hmatch.function
  have hothr : item.flag ≠ flagOTHR := by
    rw [hwr]
    decide
  unfold UhfReader.writeRequest
  dsimp only
  by_cases hok : (UhfReader.storeRequest o idindex b r).1 = cmdoorCheckOk
  · have hok' := hflag.trans hok
    rw [if_pos hok, if_pos hok', hreader, hfunction, storeRequest_buffer hok,
      storeRequest_buffer hok']
    by_cases hfrequency : item.function = some .setFrequency1
    · have hall : ∀ e ∈ registeredItems, e.2.function = some .setFrequency1 →
          e.1 = 0x86 ∧ e.2.length.toNat = 6 := by decide
      obtain ⟨hcmd, hsix⟩ := hall _ hmem hfrequency
      dsimp only at hcmd hsix
      have hbare : b 2 ∉ bareCmds := by
        rw [hcmd]
        decide
      have hfilter : ¬ IsTagFilterCmd (b 2) := by
        rw [hcmd]
        decide
      rw [storeRequest_value o idindex r hbare fun heq => hfilter (.inl heq)] at hok
      have hlen := storeValue_len hok
      rw [hmatch.length hfilter, hsix] at hlen
      rw [hfrequency]
      exact h.callFrequency hlen
    · obtain ⟨u, hu⟩ := callFunction_globals hmem hothr hfrequency
      rw [hu, hu, Option.map_some, Option.map_some]
      exact SameEnds.bare (Mem.put_same _ _ _) (hkept.put 1 _) _
  · have hok' : (UhfReader.storeRequest o idindex b' r).1 ≠ cmdoorCheckOk := by rwa [hflag]
    rw [if_neg hok, if_neg hok']
    refine .inr ⟨_, _, rfl, rfl, ⟨hflag, congrArg _ (congrArg _ hreader), hagree.mono hhead, ?_⟩,
      hreader⟩
    intro heq
    exact absurd heq hok

/-! ### Read requests -/

/-- A read request is carried out by its frame. -/
theorem SameFrame.readRequest (h : SameFrame b b') (hhead : HeadInside o b)
    (hmem : (b 2, item) ∈ registeredItems)
    (hmatch : (r.gParamTable.table idindex).Matches (b 2) item) (hrd : item.flag = flagRD) :
  SameEnds o (readRequest runHandler o idindex b r) (readRequest runHandler o idindex b' r)
  := by
  have hcmd := h.cmd hhead
  have hkept := h.head hhead
  have hsame : readLen b' = readLen b := by
    unfold readLen
    rw [hcmd, h.len]
  unfold UhfReader.readRequest
  rw [hsame]
  by_cases hlen : readLen b = emptyLen o
  · obtain ⟨u, hu⟩ := callFunction_read hmem hrd
    have htable : ((u r.toGlobals).gParamTable.table idindex).Matches (b 2) item := by
      have hkept : (u r.toGlobals).gParamTable = r.gParamTable := callFunction_gParamTable (hu b r)
      rwa [hkept]
    obtain ⟨src, n, g, -, -, hload⟩ := loadValue_eq hmem htable hrd
    rw [if_neg (not_not.mpr hlen), if_neg (not_not.mpr hlen), hmatch.function, hu, hu,
      Option.map_some, Option.map_some]
    unfold finishRead
    dsimp only
    rw [hload o b rfl hlen, hload o b' hcmd (hsame.trans hlen), hcmd, add_comm]
    have hcopy := hkept.copy_of_agree (Mem.AgreeBelow.refl n.toNat src) (Nat.le_refl _)
    apply SameEnds.reply (hcopy.mono (by omega))
    intro _
    exact hcopy.mono (by omega)
  · rw [if_pos hlen, if_pos hlen]
    exact SameEnds.error (show ortherWrong ≠ cmdoorCheckOk by decide) hkept r

/-! ### Requests of the third kind -/

/-- Some count makes the length of a request `0xEB` right. -/
def CountFits (o : CmdOrigin) (b : Mem) : Prop :=
  ∃ count : UInt8, (b 1).toNat
    = 10 + (b (paraOff o) * 2 + count * 2).toNat + ((emptyLen o).toNat - 2)

/-- The count of `0xEB` stands in the frame, if the length of the request leaves it open. -/
def CountInside (o : CmdOrigin) (b : Mem) : Prop :=
  CountFits o b → idBytes (b.shift (paraOff o)) + 3 < frameRest o b

theorem tagDataLenPurse_cases (o : CmdOrigin) (b : Mem) :
  tagDataLenPurse o b = cmdoorCheckOk ∨ tagDataLenPurse o b = ortherWrong
  := by
  unfold tagDataLenPurse
  split
  · exact .inl rfl
  · split
    · exact .inr rfl
    · exact .inl rfl

theorem tagDataLenPurse_ok_iff :
  tagDataLenPurse o b = cmdoorCheckOk
    ↔ ∀ n, tagDataLen (b 2) (b.shift (paraOff o)) = some n →
      (b 1).toNat = n + ((emptyLen o).toNat - 2)
  := by
  unfold tagDataLenPurse
  cases tagDataLen (b 2) (b.shift (paraOff o)) with
  | none => simp
  | some n =>
    dsimp only
    split
    · rename_i hlen
      constructor
      · intro h
        exact absurd (show ortherWrong = cmdoorCheckOk from h) (by decide)
      · intro h
        exact absurd (h n rfl) hlen
    · rename_i hlen
      constructor
      · intro _ n' heq
        rw [← Option.some.inj heq]
        exact not_not.mp hlen
      · intro _
        rfl

/-- Every length that is asked for counts the length byte and the command. -/
theorem two_le_tagDataLen {cmd : UInt8} {p : Mem} {n : ℕ} (h : tagDataLen cmd p = some n) :
  2 ≤ n
  := by
  unfold tagDataLen at h
  dsimp only at h
  split at h
  all_goals
    simp only [Option.some.injEq, reduceCtorEq] at h
    try omega

theorem CountInside.sameFrame (hcount : CountInside o b) (h : SameFrame b b') :
  CountInside o b'
  := by
  have hrest : frameRest o b' = frameRest o b := by
    rw [frameRest, frameRest, h.len]
  have hempty := toNat_emptyLen_succ o
  have hoff := two_lt_paraOff o
  rintro ⟨count, hfits⟩
  rw [h.len] at hfits
  have hfirst : 0 < frameRest o b := by
    unfold frameRest
    omega
  have hpara : b' (paraOff o) = b (paraOff o) := (h.para 0 hfirst).symm
  rw [hpara] at hfits
  rw [hrest, idBytes_congr h.para hfirst]
  exact hcount ⟨count, hfits⟩

/-- The length of a request is right for its frame. -/
theorem SameFrame.purse_ok (h : SameFrame b b') (hhead : HeadInside o b)
    (hcount : b 2 = 0xEB → CountInside o b) (hok : tagDataLenPurse o b = cmdoorCheckOk) :
  tagDataLenPurse o b' = cmdoorCheckOk
  := by
  have hempty := toNat_emptyLen_succ o
  have hoff := two_lt_paraOff o
  rw [tagDataLenPurse_ok_iff] at hok ⊢
  intro n hn
  rw [h.cmd hhead] at hn
  rw [h.len]
  by_cases hwrite : b 2 = 0xEB
  · rw [hwrite, tagDataLen_count] at hok
    rw [hwrite, tagDataLen_count] at hn
    have hlen := hok _ rfl
    have hplace := hcount hwrite ⟨_, hlen⟩
    have hfirst : 0 < frameRest o b := by omega
    rw [idBytes_congr h.para hfirst, ← h.para 0 hfirst, ← h.para _ hplace, Option.some.injEq] at hn
    omega
  · cases hsome : tagDataLen (b 2) (b.shift (paraOff o)) with
    | none =>
      rw [tagDataLen_none _ _ hsome] at hn
      cases hn
    | some n₀ =>
      have hlen := hok n₀ hsome
      have htwo := two_le_tagDataLen hsome
      have hplus : n₀ = n₀ - 2 + 2 := by omega
      rw [hplus] at hsome
      have hpara : Mem.AgreeBelow (n₀ - 2) (b.shift (paraOff o)) (b'.shift (paraOff o)) := by
        apply h.para.mono
        unfold frameRest
        omega
      rw [tagDataLen_congr hpara hwrite hsome, Option.some.injEq] at hn
      omega

/-- The length of a request is judged by its frame. -/
theorem SameFrame.purse (h : SameFrame b b') (hhead : HeadInside o b)
    (hcount : b 2 = 0xEB → CountInside o b) :
  tagDataLenPurse o b' = tagDataLenPurse o b
  := by
  have hhead' : HeadInside o b' := by
    unfold HeadInside
    rwa [h.len]
  have hcount' : b' 2 = 0xEB → CountInside o b' := by
    rw [h.cmd hhead]
    intro hwrite
    exact (hcount hwrite).sameFrame h
  obtain hok | hwrong := tagDataLenPurse_cases o b
  · rw [hok, h.purse_ok hhead hcount hok]
  · obtain hok' | hwrong' := tagDataLenPurse_cases o b'
    · rw [h.symm.purse_ok hhead' hcount' hok'] at hwrong
      exact absurd hwrong (by decide)
    · rw [hwrong, hwrong']

/-- A request of the right length has as many parameters as are asked for. -/
theorem count_of_purse (hok : tagDataLenPurse o b = cmdoorCheckOk) :
  ∃ k ≤ frameRest o b, k ≤ 253
    ∧ ∀ n, tagDataLen (b 2) (b.shift (paraOff o)) = some n → n = k + 2
  := by
  have hempty := toNat_emptyLen_succ o
  have hoff := two_lt_paraOff o
  rw [tagDataLenPurse_ok_iff] at hok
  cases hsome : tagDataLen (b 2) (b.shift (paraOff o)) with
  | none => exact ⟨0, Nat.zero_le _, Nat.zero_le _, fun n hn => nomatch hn⟩
  | some n =>
    have hlen := hok n hsome
    have htwo := two_le_tagDataLen hsome
    have hlt := (b 1).toNat_lt
    refine ⟨n - 2, ?_, by omega, ?_⟩
    · unfold frameRest
      omega
    · intro n' heq
      rw [← Option.some.inj heq]
      omega

/-- A request of the third kind is carried out by its frame, when it keeps to that. -/
theorem SameFrame.otherRequest (h : SameFrame b b') (hhead : HeadInside o b)
    (hmem : (b 2, item) ∈ registeredItems)
    (hmatch : (r.gParamTable.table idindex).Matches (b 2) item) (hothr : item.flag = flagOTHR)
    (hcount : b 2 = 0xEB → CountInside o b)
    (hreads : tagDataLenPurse o b = cmdoorCheckOk →
      ReadsBelow (b 2) (253 - (emptyLen o).toNat) (frameRest o b) (b.shift (paraOff o))
        r.toGlobals) :
  SameEnds o (otherRequest runHandler o idindex b r) (otherRequest runHandler o idindex b' r)
  := by
  have hkept := h.head hhead
  have hpurse := h.purse hhead hcount
  by_cases hok : tagDataLenPurse o b = cmdoorCheckOk
  · obtain ⟨f, hf⟩ := function_of_other hmem hothr
    have hfun := hmatch.function.trans hf
    have hlimit : 253 - (emptyLen o).toNat ≤ 255 := by omega
    obtain ⟨k, hk, hshort, hlen⟩ := count_of_purse hok
    rw [otherRequest_of_function runHandler _ hok hfun,
      otherRequest_of_function runHandler _ (hpurse.trans hok) hfun]
    dsimp only [runHandler]
    obtain ⟨hnone, hnone'⟩ | ⟨q, q', g, hran, hran', hsame⟩ :=
      simAt_run (b (paraOff o - 1)) (b' (paraOff o - 1)) (mem_otherFunctions hmem hothr hf) hshort
        hk hlimit h.para hlen (hreads hok)
    · rw [hnone, hnone']
      exact .inl ⟨rfl, rfl⟩
    · rw [hran, hran', Option.map_some, Option.map_some]
      have hzero : Mem.AgreeBelow 0 q q' := fun i hi => absurd hi (Nat.not_lt_zero i)
      have hgraft : Mem.AgreeBelow (paraOff o) (b.graft (paraOff o) q) (b'.graft (paraOff o) q') :=
        hkept.graft hzero (Nat.le_refl _)
      unfold finishOther
      dsimp only
      by_cases hfailed : g.cmdTmpLen.toNat ≥ bufLen
      · rw [if_pos hfailed, if_pos hfailed]
        exact SameEnds.error (show noTag ≠ cmdoorCheckOk by decide) hgraft _
      · rw [if_neg hfailed, if_neg hfailed]
        apply SameEnds.reply hgraft
        intro hfits
        simp only [bufLen] at hfits
        exact hkept.graft (hsame (by omega)) (Nat.le_refl _)
  · unfold UhfReader.otherRequest
    dsimp only
    rw [hpurse, if_pos hok, if_pos hok]
    exact SameEnds.error hok hkept r

/-! ### Every request -/

/-- The request is answered by its frame alone:

* the frame holds all that stands before the parameters;
* if the length of a request `0xEB` leaves the count open, the count stands in the frame;
* what the function of a request reads stands in the frame, too. -/
structure KeepsToFrame (o : CmdOrigin) (b : Mem) (length : ℕ) (r : Reader) : Prop where
  head : HeadInside o b
  count : Valid o b length r.toGlobals → b 2 = 0xEB → CountInside o b
  reads : Valid o b length r.toGlobals → tagDataLenPurse o b = cmdoorCheckOk →
    ReadsBelow (b 2) (253 - (emptyLen o).toNat) (frameRest o b) (b.shift (paraOff o)) r.toGlobals

/-- A request that keeps to its frame leads to the same whatever stands behind it. -/
theorem KeepsToFrame.same (h : KeepsToFrame o b length r) (hreg : Registered r.gParamTable)
    (hframe : SameFrame b b') :
  SameTraces (processParamTable o b length r) (processParamTable o b' length r)
  := by
  have hcmd := hframe.cmd h.head
  by_cases hvalid : Valid o b length r.toGlobals
  · have hvalid' := hframe.valid h.head hvalid
    obtain ⟨item, hmem, hmatch⟩ := hreg.lookup hvalid.nonzero hvalid.registered
    rw [processParamTable, processParamTable, processWith_of_valid runHandler hvalid,
      processWith_of_valid runHandler hvalid']
    apply SameEnds.pack
    have hentry : r.toGlobals.entry b' = r.toGlobals.entry b := by
      rw [Globals.entry, Globals.entry, hcmd]
    obtain hwr | hrd | hothr := registeredItems_flag hmem
    · have hkind := hmatch.flag.trans hwr
      rw [dispatch_write runHandler hvalid hkind,
        dispatch_write runHandler hvalid' ((congrArg _ hentry).trans hkind), hcmd]
      exact hframe.writeRequest h.head hmem hmatch hwr
    · have hkind := hmatch.flag.trans hrd
      rw [dispatch_read runHandler hvalid hkind,
        dispatch_read runHandler hvalid' ((congrArg _ hentry).trans hkind), hcmd]
      exact hframe.readRequest h.head hmem hmatch hrd
    · have hkind := hmatch.flag.trans hothr
      rw [dispatch_other runHandler hvalid hkind,
        dispatch_other runHandler hvalid' ((congrArg _ hentry).trans hkind), hcmd]
      exact hframe.otherRequest h.head hmem hmatch hothr (h.count hvalid) (h.reads hvalid)
  · have hhead' : HeadInside o b' := by
      have hhead := h.head
      unfold HeadInside at hhead ⊢
      rwa [hframe.len]
    have hvalid' : ¬ Valid o b' length r.toGlobals :=
      fun hvalid' => hvalid (hframe.symm.valid hhead' hvalid')
    have hrefusal : refusal o b' length r.toGlobals = refusal o b length r.toGlobals := by
      rw [refusal, refusal, hframe.checkRequest h.head]
    rw [processParamTable, processParamTable, processWith_refused runHandler hvalid,
      processWith_refused runHandler hvalid', hrefusal]
    exact (SameEnds.error (refusal_error o b length r.toGlobals) (hframe.head h.head) r).pack

end UhfReader
