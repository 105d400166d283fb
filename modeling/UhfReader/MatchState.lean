import UhfReader.Leftovers
import UhfReader.WordWrites

/-!
# Requests that depend on the match

`EPC1G2_WriteEPC` and `ReadEPCAndData` first ask the R2000, with `0x86`, whether a match is active,
that is, whether a tag is selected.

If so, `EPC1G2_WriteEPC` has `0xC5` clear the match and sends the write from `tmpEpcdata`, a copy of
the request that was made before.  `tmpEpcdata` has 35 bytes on the stack.  `epc1g2WriteEPCOn` is
the function with the bytes that the stack holds from there on.
-/

open Memory Stateful

namespace UhfReader

/-! ### The copy of the request -/

/-- `tmpEpcdata`, and what the stack holds behind it. -/
def tmpEpcdataOn (stack p : Mem) : Mem := Mem.copy stack 0 p (copyCount (p 0))

/-- `EPC1G2_WriteEPC`, with the bytes that the stack holds from `tmpEpcdata` on. -/
def epc1g2WriteEPCOn (stack p : Mem) : M Mem := do
  let tmp := tmpEpcdataOn stack p
  let flagReturn ← encodeR2000 0x86 p
  let g ← get
  let r := g.r2000
  if flagReturn = 0 ∧ r.para 0 = 0 then
    let p := (p.put 0 (r.para 1 >>> 1)).copy 1 (r.para.shift 2) (r.para 1).toNat
    let flagReturn ← encodeR2000 0xC5 p
    let g ← get
    if flagReturn = 0 ∧ g.r2000.para 0 = commandSuccess then
      let flagReturn ← encodeR2000 0xC2 tmp
      confirmAccess flagReturn p
    else fail p
  else if flagReturn = 0 ∧ r.para 0 = 1 then
    let flagReturn ← encodeR2000 0xC2 p
    confirmAccess flagReturn p
  else fail p

/-- On a stack of zeros it is the function as it is modelled elsewhere. -/
theorem epc1g2WriteEPCOn_zero :
  epc1g2WriteEPCOn (fun _ => 0) = epc1g2WriteEPC
  := rfl

/-- The functions of the table, with the bytes that the stack of `EPC1G2_WriteEPC` holds. -/
def runHandlerOn (stack : Mem) : HandlerRun := fun before p handler =>
  if handler = .epc1g2WriteEPC then epc1g2WriteEPCOn stack p else handler.run before p

/-- `processParamTable`, with the bytes that the stack of `EPC1G2_WriteEPC` holds. -/
def processParamTableOn (stack : Mem) (cmdOrigin : CmdOrigin) (buffer : Mem) (length : ℕ)
    (r : Reader) : Option (UInt8 × Mem × Reader) :=
  processWith (runHandlerOn stack) cmdOrigin buffer length r

theorem processParamTableOn_zero :
  processParamTableOn (fun _ => 0) = processParamTable
  := by
  have hrun : runHandlerOn (fun _ => 0) = runHandler := by
    funext before p handler
    unfold runHandlerOn
    split
    · rename_i heq
      rw [heq]
      rfl
    · rfl
  funext o buffer length r
  unfold processParamTableOn processParamTable
  rw [hrun]

/-- The copy agrees with the request where it was copied, and where the stack holds the same. -/
theorem tmpEpcdataOn_agree {stack p : Mem} {n : ℕ} :
  Mem.AgreeBelow n (tmpEpcdataOn stack p) p
    ↔ ∀ i, copyCount (p 0) ≤ i → i < n → stack i = p i
  := by
  unfold tmpEpcdataOn Mem.AgreeBelow Mem.copy
  constructor
  · intro h i hcopied hi
    have hsame := h i hi
    rwa [if_neg (by omega)] at hsame
  · intro h i hi
    by_cases hcopied : i < copyCount (p 0)
    · rw [if_pos (by omega), Nat.sub_zero]
    · rw [if_neg (by omega)]
      exact h i (Nat.not_lt.mp hcopied) hi

/-- The copy has the words of the identifier in any case. -/
theorem tmpEpcdataOn_first (stack p : Mem) :
  tmpEpcdataOn stack p 0 = p 0
  := by
  have hpos := (copyCount_bounds p).1
  exact tmpEpcdataOn_agree.mpr (fun i hcopied hi => absurd hi (by omega)) 0 Nat.one_pos

/-! ### The frame of a write -/

/-- The bytes of the frame of `0xC2` between its code and its checksum. -/
def epcFields (p : Mem) : List UInt8 :=
  (p.shift (idBytes p + 1)).take 4
    ++ ([1, 1, p 0 + 1, p 0 * 8, 0] ++ (p.shift 1).take (idBytes p))

theorem length_epcFields (p : Mem) :
  (epcFields p).length = idBytes p + 9
  := by
  simp only [epcFields, List.length_append, Mem.length_take, List.length_cons, List.length_nil]
  omega

/-- The fields are those of another memory with as many words if and only if the identifier and the
password are. -/
theorem epcFields_eq_iff {p q : Mem} (h : q 0 = p 0) :
  epcFields q = epcFields p ↔ Mem.AgreeBelow (idBytes p + 5) q p
  := by
  have hid : idBytes q = idBytes p := by rw [idBytes, idBytes, h]
  have hparts : ∀ m : Mem, m.take (idBytes p + 5)
      = m.take 1 ++ ((m.shift 1).take (idBytes p) ++ (m.shift (idBytes p + 1)).take 4) := by
    intro m
    have hlength : idBytes p + 5 = 1 + (idBytes p + 4) := by omega
    have hshift : m.shift (idBytes p + 1) = (m.shift 1).shift (idBytes p) := by
      funext i
      simp only [Mem.shift_apply]
      congr 1
      omega
    rw [hlength, Mem.take_add, Mem.take_add, hshift]
  have hfirst : q.take 1 = p.take 1 := by
    simp only [Mem.take, List.range_one, List.map_cons, List.map_nil, h]
  constructor
  · intro hfields
    unfold epcFields at hfields
    rw [hid, h] at hfields
    obtain ⟨hpassword, hrest⟩ := List.append_inj hfields
      ((Mem.length_take _ 4).trans (Mem.length_take _ 4).symm)
    apply Mem.AgreeBelow.of_take_eq
    rw [hparts, hparts, hfirst, hpassword, List.append_cancel_left hrest]
  · intro hagree
    have htake := hagree.take_eq
    rw [hparts, hparts, hfirst] at htake
    obtain ⟨hidentifier, hpassword⟩ := List.append_inj (List.append_cancel_left htake)
      ((Mem.length_take _ (idBytes p)).trans (Mem.length_take _ (idBytes p)).symm)
    unfold epcFields
    rw [hid, h, hidentifier, hpassword]

/-- A frame writes the identifier that a request asks for, with the password: it is proper, starts
at the PC word, which has the number of words in its upper five bits, and goes on with the
identifier. -/
structure CarriesEPC (p : Mem) (f : List UInt8) : Prop where
  proper : ProperFrame f
  code : f.getD 3 0 = 0x82
  length : f.length = 2 * idWords p + 14
  password : (WordWrite.ofFrame f).password = (p.shift (2 * idWords p + 1)).take 4
  bank : (WordWrite.ofFrame f).bank = 1
  start : (WordWrite.ofFrame f).start = 1
  count : (WordWrite.ofFrame f).count = idWords p + 1
  words : ((WordWrite.ofFrame f).data 0).toNat / 8 = idWords p
  identifier : ∀ i < 2 * idWords p, (WordWrite.ofFrame f).data (2 + i) = p (1 + i)

/-- The PC word has room for a number of words up to 31. -/
theorem carriesEPC_iff (p : Mem) :
  CarriesEPC p (frameBytes 0x82 (epcFields p)) ↔ idWords p ≤ 31
  := by
  have hword : (p 0).toNat = idWords p := rfl
  constructor
  · intro h
    have hbyte := ((WordWrite.ofFrame (frameBytes 0x82 (epcFields p))).data 0).toNat_lt
    have hwords := h.words
    omega
  · intro h
    have hid : idBytes p = 2 * idWords p := idBytes_eq_idWords (by omega)
    have hlength := length_epcFields p
    have hfields : epcFields p = (p.shift (2 * idWords p + 1)).take 4
        ++ ([1] ++ (1 :: (p 0 + 1) :: [p 0 * 8, 0] ++ (p.shift 1).take (2 * idWords p))) := by
      unfold epcFields
      rw [hid]
      rfl
    obtain ⟨hpassword, hbank, hstart, hcount, hfront, hdata⟩ :=
      ofFrame_frameBytes (Mem.length_take _ 4) hfields
    refine ⟨properFrame_frameBytes _ (by omega), rfl, ?_, hpassword, hbank, hstart, ?_, ?_, ?_⟩
    · rw [length_frameBytes, hlength, hid]
    · rw [hcount, UInt8.toNat_add, hword]
      simp only [UInt8.reduceToNat]
      omega
    · have hpc := hfront 0 Nat.two_pos
      rw [List.getD_cons_zero] at hpc
      rw [hpc, UInt8.toNat_mul, hword]
      simp only [UInt8.reduceToNat]
      omega
    · intro i hi
      exact hdata i hi

/-- The R2000 reports an active match, and confirms that it is cleared. -/
def MatchCleared (p : Mem) (g : Globals) : Prop :=
  ∃ g₁, encodeR2000 0x86 p g = some (0, g₁) ∧ g₁.r2000.para 0 = 0 ∧ Confirmed 0xC5 p g₁

/-- The R2000 reports that no match is active. -/
def NoMatch (p : Mem) (g : Globals) : Prop :=
  ∃ g₁, encodeR2000 0x86 p g = some (0, g₁) ∧ g₁.r2000.para 0 = 1

/-- The fields of a write that fits into a frame. -/
theorem frameFields_epc {p : Mem} (hid : idWords p ≤ 31) (before antennas : UInt8) :
  frameFields 0xC2 before p antennas = some (epcFields p)
    ∧ (epcFields p).length + 5 < bufLen
  := by
  have hbytes : idBytes p = 2 * idWords p := idBytes_eq_idWords (by omega)
  refine ⟨rfl, ?_⟩
  rw [length_epcFields, hbytes, bufLen]
  omega

section Sent

variable {stack p q : Mem} {g g' : Globals}

/-- With an active match, the copy is sent. -/
theorem epc1g2WriteEPCOn_cleared (hid : idWords p ≤ 31) (hmatch : MatchCleared p g)
    (h : epc1g2WriteEPCOn stack p g = some (q, g')) :
  g'.sent = g.sent ++ [frameBytes 0x86 [], frameBytes 0xC5 [1],
    frameBytes 0x82 (epcFields (tmpEpcdataOn stack p))]
  := by
  obtain ⟨g₁, hasked, hzero, g₂, hcleared, hconfirmed⟩ := hmatch
  have hsame : idWords (tmpEpcdataOn stack p) = idWords p :=
    congrArg UInt8.toNat (tmpEpcdataOn_first stack p)
  obtain ⟨flagReturn, _, hask, hsent, h⟩ := asked_sent (by decide) rfl (by decide) h
  cases hask.symm.trans hasked
  obtain ⟨_, _, hget, h⟩ := bind_eq_some h
  cases hget
  dsimp only at h
  rw [if_pos ⟨rfl, hzero⟩] at h
  obtain ⟨flagReturn', _, hask', hsent', h⟩ := asked_sent (by decide) rfl (by decide) h
  cases hask'.symm.trans ((congrFun (encodeR2000_bare (by decide) _ p) g₁).trans hcleared)
  obtain ⟨_, _, hget, h⟩ := bind_eq_some h
  cases hget
  rw [if_pos ⟨rfl, hconfirmed⟩] at h
  obtain ⟨hfields, hfit⟩ := frameFields_epc (p := tmpEpcdataOn stack p) (by omega) 0 g₂.tmpAntenna
  obtain ⟨flagReturn'', g₃, -, hsent'', h⟩ := asked_sent (by decide) hfields hfit h
  rw [silent_confirmAccess flagReturn'' _ _ _ _ h, hsent'', hsent', hsent, List.append_assoc,
    List.append_assoc]
  rfl

/-- Without a match, the parameters of the request are sent. -/
theorem epc1g2WriteEPCOn_free (hid : idWords p ≤ 31) (hmatch : NoMatch p g)
    (h : epc1g2WriteEPCOn stack p g = some (q, g')) :
  g'.sent = g.sent ++ [frameBytes 0x86 [], frameBytes 0x82 (epcFields p)]
  := by
  obtain ⟨g₁, hasked, hone⟩ := hmatch
  obtain ⟨flagReturn, _, hask, hsent, h⟩ := asked_sent (by decide) rfl (by decide) h
  cases hask.symm.trans hasked
  obtain ⟨_, _, hget, h⟩ := bind_eq_some h
  cases hget
  dsimp only at h
  rw [if_neg (by rw [hone]; decide), if_pos ⟨rfl, hone⟩] at h
  obtain ⟨hfields, hfit⟩ := frameFields_epc hid 0 g₁.tmpAntenna
  obtain ⟨flagReturn', g₂, -, hsent', h⟩ := asked_sent (by decide) hfields hfit h
  rw [silent_confirmAccess flagReturn' _ _ _ _ h, hsent', hsent, List.append_assoc]
  rfl

end Sent

/-! ### A request to write an EPC -/

/-- Both runs send the same frame to write the identifier that the request asks for: the run with
an active match after the two that find and clear it, the other after the one that finds none. -/
def SameWrite (p : Mem) (r r' : Reader) (reply reply' : UInt8 × Mem × Reader) : Prop :=
  ∃ frame, reply.2.2.sent = r.sent ++ [frameBytes 0x86 [], frameBytes 0xC5 [1], frame]
    ∧ reply'.2.2.sent = r'.sent ++ [frameBytes 0x86 [], frame] ∧ CarriesEPC p frame

/-- The copy has the identifier and the password: it has room for identifiers of 15 words, and
longer ones depend on what the stack holds behind it. -/
theorem tmpEpcdataOn_whole {stack p : Mem} (hid : idWords p ≤ 31) :
  Mem.AgreeBelow (idBytes p + 5) (tmpEpcdataOn stack p) p
    ↔ idWords p ≤ 15 ∨ ∀ i, 35 ≤ i → i < 2 * idWords p + 5 → stack i = p i
  := by
  have hbytes : idBytes p = 2 * idWords p := idBytes_eq_idWords (by omega)
  have hword : (p 0).toNat = idWords p := rfl
  have hsum : (p 0 * 2 + 5).toNat = 2 * idWords p + 5 := by
    simp only [UInt8.toNat_add, UInt8.toNat_mul, UInt8.reduceToNat, hword]
    omega
  rw [tmpEpcdataOn_agree, hbytes, copyCount, hsum]
  split
  · constructor
    · exact .inr
    · rintro (hshort | hstack)
      · omega
      · exact hstack
  · refine iff_of_true ?_ (.inl (by omega))
    intro i hcopied hi
    omega

/-- A valid request `0xE7` whose length is right is sent to the R2000 with the same frame whether a
match is active or not, and as it is asked for, if and only if its identifier has at most 15 words,
or at most 31 and the stack behind `tmpEpcdata` happens to hold the rest of the request. -/
theorem writeEPC_same_iff (stack : Mem) (r r' : Reader) (hreg : Registered r.gParamTable)
    (hreg' : Registered r'.gParamTable) (o : CmdOrigin) (b : Mem) (length : ℕ)
    (hvalid : Valid o b length r.toGlobals) (hvalid' : Valid o b length r'.toGlobals)
    (hcmd : b 2 = 0xE7) (hok : tagDataLenPurse o b = cmdoorCheckOk)
    (hmatch : MatchCleared (b.shift (paraOff o)) r.toGlobals)
    (hfree : NoMatch (b.shift (paraOff o)) r'.toGlobals)
    (reply reply' : UInt8 × Mem × Reader)
    (h : processParamTableOn stack o b length r = some reply)
    (h' : processParamTableOn stack o b length r' = some reply') :
  SameWrite (b.shift (paraOff o)) r r' reply reply'
    ↔ idWords (b.shift (paraOff o)) ≤ 31
      ∧ (idWords (b.shift (paraOff o)) ≤ 15
        ∨ ∀ i, 35 ≤ i → i < 2 * idWords (b.shift (paraOff o)) + 5 →
          stack i = b (paraOff o + i))
  := by
  have hmem : (b 2, Handler.epc1g2WriteEPC) ∈ otherFunctions := by
    rw [hcmd]
    decide
  rw [processParamTableOn, processWith_function _ hreg hvalid hmem hok,
    Option.map_eq_some_iff] at h
  rw [processParamTableOn, processWith_function _ hreg' hvalid' hmem hok,
    Option.map_eq_some_iff] at h'
  obtain ⟨⟨q, g⟩, hrun, rfl⟩ := h
  obtain ⟨⟨q', g'⟩, hrun', rfl⟩ := h'
  dsimp only [runHandlerOn] at hrun hrun'
  rw [if_pos rfl] at hrun hrun'
  generalize hp : b.shift (paraOff o) = p at *
  have hafter : ∀ (q : Mem) (g : Globals),
      (pack o (finishOther o (b.graft (paraOff o) q,
        { toGlobals := g, tagDataOrigin := o }))).2.2.sent = g.sent := fun q g =>
    congrArg (fun r : Reader => r.sent) (finishOther_reader o _)
  have hplace : ∀ i, b (paraOff o + i) = p i := by
    intro i
    rw [← hp, Mem.shift_apply]
  simp only [hplace, SameWrite, hafter]
  constructor
  · rintro ⟨frame, hsent, hsent', hcarries⟩
    have hid : idWords p ≤ 31 := by
      have hbyte := ((WordWrite.ofFrame frame).data 0).toNat_lt
      have hwords := hcarries.words
      omega
    refine ⟨hid, ?_⟩
    rw [epc1g2WriteEPCOn_cleared hid hmatch hrun] at hsent
    rw [epc1g2WriteEPCOn_free hid hfree hrun'] at hsent'
    have hframe := List.append_cancel_left hsent
    have hframe' := List.append_cancel_left hsent'
    simp only [List.cons.injEq, and_true, true_and] at hframe hframe'
    apply (tmpEpcdataOn_whole hid).mp
    apply (epcFields_eq_iff (tmpEpcdataOn_first stack p)).mp
    exact frameBytes_inj (hframe.trans hframe'.symm)
  · rintro ⟨hid, hwhole⟩
    have hfields := (epcFields_eq_iff (tmpEpcdataOn_first stack p)).mpr
      ((tmpEpcdataOn_whole hid).mpr hwhole)
    refine ⟨frameBytes 0x82 (epcFields p), ?_, ?_, (carriesEPC_iff p).mpr hid⟩
    · rw [epc1g2WriteEPCOn_cleared hid hmatch hrun, hfields]
    · exact epc1g2WriteEPCOn_free hid hfree hrun'

/-- A request to write an identifier, with the password `01 02 03 04`. -/
def epcRequest (identifier : List UInt8) : Mem :=
  requestBuffer .sourceFrom232 0xE7 0
    ([UInt8.ofNat (identifier.length / 2)] ++ identifier ++ [1, 2, 3, 4]) fun _ => 0

/-- The R2000 confirms a write. -/
def writeConfirmed : List UInt8 := frameBytes 0x82 [0, 1, 2, 0xE2, 0, commandSuccess, 0, 1]

/-- The R2000 reports an active match, and confirms that it is cleared and the write. -/
def matchedAnswers : List (List UInt8) :=
  [frameBytes 0x86 [0, 2, 0xE2, 0], frameBytes 0x85 [commandSuccess], writeConfirmed]

/-- The R2000 reports that no match is active, and confirms the write. -/
def freeAnswers : List (List UInt8) := [frameBytes 0x86 [1], writeConfirmed]

/-- Two new readers are set to command mode and told to write the identifier `AA BB`, one of them
with an active match: they send the same frame. -/
theorem writeEPC_same_short :
  let b := epcRequest [0xAA, 0xBB]
  ∃ buffer₀ buffer₀' r r' reply reply',
    processParamTable .sourceFrom232 commandModeRequest 5 (powerOn (answering matchedAnswers))
        = some (cmdoorCheckOk, buffer₀, r)
      ∧ processParamTable .sourceFrom232 commandModeRequest 5 (powerOn (answering freeAnswers))
        = some (cmdoorCheckOk, buffer₀', r')
      ∧ processParamTableOn (fun _ => 0) .sourceFrom232 b 11 r = some reply
      ∧ processParamTableOn (fun _ => 0) .sourceFrom232 b 11 r' = some reply'
      ∧ SameWrite (b.shift 3) r r' reply reply'
  := by
  intro b
  have heval :
      ((processParamTable .sourceFrom232 commandModeRequest 5
          (powerOn (answering matchedAnswers))).bind
        fun mode => (encodeR2000 0x86 (b.shift 3) mode.2.2.toGlobals).bind
        fun asked => (encodeR2000 0xC5 (b.shift 3) asked.2).bind
        fun cleared => (processParamTableOn (fun _ => 0) .sourceFrom232 b 11 mode.2.2).map
        fun _ => ([mode.1, checkRequest .sourceFrom232 b 11 mode.2.2.toGlobals, asked.1,
          asked.2.r2000.para 0, cleared.1, cleared.2.r2000.para 0],
          modeAllows (b 2) mode.2.2.toGlobals))
      = some ([cmdoorCheckOk, cmdoorCheckOk, 0, 0, 0, commandSuccess], true) := by
    rw [powerOn_eq]
    decide +kernel
  have heval' :
      ((processParamTable .sourceFrom232 commandModeRequest 5
          (powerOn (answering freeAnswers))).bind
        fun mode => (encodeR2000 0x86 (b.shift 3) mode.2.2.toGlobals).bind
        fun asked => (processParamTableOn (fun _ => 0) .sourceFrom232 b 11 mode.2.2).map
        fun _ => ([mode.1, checkRequest .sourceFrom232 b 11 mode.2.2.toGlobals, asked.1,
          asked.2.r2000.para 0], modeAllows (b 2) mode.2.2.toGlobals))
      = some ([cmdoorCheckOk, cmdoorCheckOk, 0, 1], true) := by
    rw [powerOn_eq]
    decide +kernel
  obtain ⟨⟨flag₀, buffer₀, r⟩, hmode, heval⟩ := Option.bind_eq_some_iff.mp heval
  obtain ⟨⟨flag₁, g₁⟩, hasked, heval⟩ := Option.bind_eq_some_iff.mp heval
  obtain ⟨⟨flag₂, g₂⟩, hcleared, heval⟩ := Option.bind_eq_some_iff.mp heval
  obtain ⟨reply, hreply, heq⟩ := Option.map_eq_some_iff.mp heval
  obtain ⟨⟨flag₀', buffer₀', r'⟩, hmode', heval'⟩ := Option.bind_eq_some_iff.mp heval'
  obtain ⟨⟨flag₁', g₁'⟩, hasked', heval'⟩ := Option.bind_eq_some_iff.mp heval'
  obtain ⟨reply', hreply', heq'⟩ := Option.map_eq_some_iff.mp heval'
  simp only [Prod.mk.injEq, List.cons.injEq, and_true] at heq heq'
  obtain ⟨⟨rfl, hcheck, rfl, hzero, rfl, hconfirmed⟩, hallows⟩ := heq
  obtain ⟨⟨rfl, hcheck', rfl, hone⟩, hallows'⟩ := heq'
  refine ⟨buffer₀, buffer₀', r, r', reply, reply', hmode, hmode', hreply, hreply', ?_⟩
  exact (writeEPC_same_iff (fun _ => 0) r r' (registered_commandMode hmode)
    (registered_commandMode hmode') .sourceFrom232 b 11
    (valid_of_check hcheck ((modeAllows_iff b _).mp hallows))
    (valid_of_check hcheck' ((modeAllows_iff b _).mp hallows')) (by decide) (by decide)
    ⟨g₁, hasked, hzero, g₂, hcleared, hconfirmed⟩ ⟨g₁', hasked', hone⟩ reply reply' hreply
    hreply').mpr ⟨by decide, .inl (by decide)⟩

/-- Two new readers are set to command mode and told to write an identifier of 16 words, one of them
with an active match: it sends a password without the last two bytes of the one in the request. -/
theorem password_cut :
  let b := epcRequest (List.replicate 32 0x11)
  ∃ buffer₀ buffer₀' r r' reply reply',
    processParamTable .sourceFrom232 commandModeRequest 5 (powerOn (answering matchedAnswers))
        = some (cmdoorCheckOk, buffer₀, r)
      ∧ processParamTable .sourceFrom232 commandModeRequest 5 (powerOn (answering freeAnswers))
        = some (cmdoorCheckOk, buffer₀', r')
      ∧ tagDataLenPurse .sourceFrom232 b = cmdoorCheckOk
      ∧ processParamTableOn (fun _ => 0) .sourceFrom232 b 41 r = some reply
      ∧ processParamTableOn (fun _ => 0) .sourceFrom232 b 41 r' = some reply'
      ∧ (reply.1, reply'.1) = (cmdoorCheckOk, cmdoorCheckOk)
      ∧ reply.2.2.sent.getLast?.map (fun frame => (WordWrite.ofFrame frame).password)
        = some [1, 2, 0, 0]
      ∧ reply'.2.2.sent.getLast?.map (fun frame => (WordWrite.ofFrame frame).password)
        = some [1, 2, 3, 4]
      ∧ ¬ SameWrite (b.shift 3) r r' reply reply'
  := by
  intro b
  have heval :
      ((processParamTable .sourceFrom232 commandModeRequest 5
          (powerOn (answering matchedAnswers))).bind
        fun mode => (processParamTableOn (fun _ => 0) .sourceFrom232 b 41 mode.2.2).map
        fun reply => ([mode.1, reply.1],
          reply.2.2.sent.getLast?.map fun frame => (WordWrite.ofFrame frame).password))
      = some ([cmdoorCheckOk, cmdoorCheckOk], some [1, 2, 0, 0]) := by
    rw [powerOn_eq]
    decide +kernel
  have heval' :
      ((processParamTable .sourceFrom232 commandModeRequest 5
          (powerOn (answering freeAnswers))).bind
        fun mode => (processParamTableOn (fun _ => 0) .sourceFrom232 b 41 mode.2.2).map
        fun reply => ([mode.1, reply.1],
          reply.2.2.sent.getLast?.map fun frame => (WordWrite.ofFrame frame).password))
      = some ([cmdoorCheckOk, cmdoorCheckOk], some [1, 2, 3, 4]) := by
    rw [powerOn_eq]
    decide +kernel
  obtain ⟨⟨flag₀, buffer₀, r⟩, hmode, heval⟩ := Option.bind_eq_some_iff.mp heval
  obtain ⟨reply, hreply, heq⟩ := Option.map_eq_some_iff.mp heval
  obtain ⟨⟨flag₀', buffer₀', r'⟩, hmode', heval'⟩ := Option.bind_eq_some_iff.mp heval'
  obtain ⟨reply', hreply', heq'⟩ := Option.map_eq_some_iff.mp heval'
  simp only [Prod.mk.injEq, List.cons.injEq, and_true] at heq heq'
  obtain ⟨⟨rfl, hflag⟩, hsent⟩ := heq
  obtain ⟨⟨rfl, hflag'⟩, hsent'⟩ := heq'
  refine ⟨buffer₀, buffer₀', r, r', reply, reply', hmode, hmode', by decide, hreply, hreply',
    by rw [hflag, hflag'], hsent, hsent', ?_⟩
  rintro ⟨frame, hframe, hframe', -⟩
  rw [hframe, List.getLast?_append] at hsent
  rw [hframe', List.getLast?_append] at hsent'
  exact absurd (hsent.symm.trans hsent') (by decide)

/-! ### A request to read -/

/-- The R2000 reports the match state `state`, 0 for an active match and 1 for none, confirms that
an active match is cleared, and answers the read with `a`. -/
def ReadServed (state : UInt8) (p : Mem) (g : Globals) (a : ReadAnswer) : Prop :=
  ∃ g₁, encodeR2000 0x86 p g = some (0, g₁) ∧ g₁.r2000.para 0 = state
    ∧ (state = 0 → ∃ g₂ g₃, encodeR2000 0xC5 p g₁ = some (0, g₂)
      ∧ g₂.r2000.para 0 = commandSuccess ∧ encodeR2000 0xC1 (tmpEpcdata p) g₂ = some (0, g₃)
      ∧ g₃.r2000.load.take a.bytes.length = a.bytes)
    ∧ (state = 1 → ∃ g₂, encodeR2000 0xC1 p g₁ = some (0, g₂)
      ∧ g₂.r2000.load.take a.bytes.length = a.bytes)

/-- The reply has the data of the answer for its parameters. -/
def ReturnsData (o : CmdOrigin) (reply : UInt8 × Mem × Reader) (a : ReadAnswer) : Prop :=
  reply.1 = cmdoorCheckOk ∧ replyPara o reply.2.1 = a.data

/-- The function fails when a match is active, and leaves no bytes for the reply when none is. -/
theorem readEPCAndData_served {state : UInt8} {p : Mem} {g : Globals} {a : ReadAnswer}
    (hstate : state = 0 ∨ state = 1) (h : ReadServed state p g a) :
  ∃ q g', readEPCAndData p g = some (q, g')
    ∧ g'.cmdTmpLen = if state = 0 then 0xFF else 0
  := by
  obtain ⟨g₁, hasked, rfl, -, hfree⟩ := h
  unfold readEPCAndData
  rw [bind_of_some hasked, bind_get]
  obtain hzero | hone := hstate
  · rw [hzero, if_neg (by decide), if_pos rfl]
    exact ⟨p, { g₁ with cmdTmpLen := 0xFF }, rfl, rfl⟩
  · obtain ⟨g₂, hread, hbytes⟩ := hfree hone
    rw [if_pos ⟨rfl, hone⟩, bind_of_some hread, bind_get]
    rw [if_pos ⟨rfl, ReadAnswer.frameLen_long hbytes⟩, hone, if_neg (by decide)]
    exact ⟨_, { g₂ with beepFlag := 1, cmdTmpLen := 0 }, rfl, rfl⟩

/-- A valid request `0xE0` whose read is answered with data is never answered with the data: the
reply is a failure when a match is active, and is empty when none is. -/
theorem readEPCAndData_never (r : Reader) (hreg : Registered r.gParamTable) (o : CmdOrigin) (b : Mem)
    (length : ℕ) (hvalid : Valid o b length r.toGlobals) (hcmd : b 2 = 0xE0)
    (hok : tagDataLenPurse o b = cmdoorCheckOk) (state : UInt8) (hstate : state = 0 ∨ state = 1)
    (a : ReadAnswer) (ha : a.data ≠ [])
    (h : ReadServed state (b.shift (paraOff o)) r.toGlobals a) :
  ∃ reply, processParamTable o b length r = some reply
    ∧ (state = 0 → reply.1 = noTag)
    ∧ (state = 1 → reply.1 = cmdoorCheckOk ∧ replyPara o reply.2.1 = [])
    ∧ ¬ ReturnsData o reply a
  := by
  have hmem : (b 2, Handler.readEPCAndData) ∈ otherFunctions := by
    rw [hcmd]
    decide
  obtain ⟨q, g', hrun, hlen⟩ := readEPCAndData_served hstate h
  use pack o (finishOther o (b.graft (paraOff o) q, { toGlobals := g', tagDataOrigin := o }))
  constructor
  · rw [process_function hreg hvalid hmem hok]
    exact congrArg (Option.map _) hrun
  · obtain rfl | rfl := hstate
    · rw [if_pos rfl] at hlen
      have hfailed := (pack_finishOther_noTag_iff (o := o)
        (b.graft (paraOff o) q, { toGlobals := g', tagDataOrigin := o })).mpr hlen
      refine ⟨fun _ => hfailed, fun hone => absurd hone (by decide), ?_⟩
      rintro ⟨hsuccess, -⟩
      exact absurd (hfailed.symm.trans hsuccess) (by decide)
    · rw [if_neg (by decide)] at hlen
      obtain ⟨hflag, hempty⟩ := replyPara_function (o := o) (q := q)
        (congrArg UInt8.toNat hlen) (by cases o <;> decide) b
      refine ⟨fun hzero => absurd hzero (by decide), fun _ => ⟨hflag, hempty⟩, ?_⟩
      rintro ⟨-, hdata⟩
      exact ha (hdata.symm.trans hempty)

/-- A request to read two words of the bank 3. -/
def dataRequest : Mem := requestBuffer .sourceFrom232 0xE0 0 [3, 0, 2] fun _ => 0

/-- A new reader is set to command mode and told to read while a match is active: it fails, though
the R2000 would clear the match and answer the read. -/
theorem readEPCAndData_matched :
  let e := answering [frameBytes 0x86 [0, 2, 0xE2, 0], frameBytes 0x85 [commandSuccess],
    tagAnswer.bytes]
  ∃ buffer₀ r reply, processParamTable .sourceFrom232 commandModeRequest 5 (powerOn e)
      = some (cmdoorCheckOk, buffer₀, r)
    ∧ processParamTable .sourceFrom232 dataRequest 7 r = some reply ∧ reply.1 = noTag
    ∧ ¬ ReturnsData .sourceFrom232 reply tagAnswer
  := by
  intro e
  have heval : ((processParamTable .sourceFrom232 commandModeRequest 5 (powerOn e)).bind
      fun mode => (encodeR2000 0x86 (dataRequest.shift 3) mode.2.2.toGlobals).bind
        fun asked => (encodeR2000 0xC5 (dataRequest.shift 3) asked.2).bind
        fun cleared => (encodeR2000 0xC1 (tmpEpcdata (dataRequest.shift 3)) cleared.2).map
        fun read => ([mode.1, checkRequest .sourceFrom232 dataRequest 7 mode.2.2.toGlobals,
          asked.1, asked.2.r2000.para 0, cleared.1, cleared.2.r2000.para 0, read.1],
          modeAllows (dataRequest 2) mode.2.2.toGlobals,
          read.2.r2000.load.take tagAnswer.bytes.length))
      = some ([cmdoorCheckOk, cmdoorCheckOk, 0, 0, 0, commandSuccess, 0], true,
        tagAnswer.bytes) := by
    rw [powerOn_eq]
    decide +kernel
  obtain ⟨⟨flag₀, buffer₀, r⟩, hmode, heval⟩ := Option.bind_eq_some_iff.mp heval
  obtain ⟨⟨flag₁, g₁⟩, hasked, heval⟩ := Option.bind_eq_some_iff.mp heval
  obtain ⟨⟨flag₂, g₂⟩, hcleared, heval⟩ := Option.bind_eq_some_iff.mp heval
  obtain ⟨⟨flag₃, g₃⟩, hread, heq⟩ := Option.map_eq_some_iff.mp heval
  simp only [Prod.mk.injEq, List.cons.injEq, and_true] at heq
  obtain ⟨⟨rfl, hcheck, rfl, hzero, rfl, hconfirmed, rfl⟩, hallows, hbytes⟩ := heq
  obtain ⟨reply, hreply, hfailed, -, hnever⟩ := readEPCAndData_never r
    (registered_commandMode hmode) .sourceFrom232 dataRequest 7
    (valid_of_check hcheck ((modeAllows_iff _ _).mp hallows)) (by decide) (by decide) 0 (.inl rfl)
    tagAnswer (by decide)
    ⟨g₁, hasked, hzero, fun _ => ⟨g₂, g₃, hcleared, hconfirmed, hread, hbytes⟩,
      fun hone => absurd hone (by decide)⟩
  exact ⟨buffer₀, r, reply, hmode, hreply, hfailed rfl, hnever⟩

/-- A new reader is set to command mode and told to read while no match is active: the R2000 answers
with four bytes of data, and the reply reports a success and has no parameters. -/
theorem data_lost :
  let e := answering [frameBytes 0x86 [1], tagAnswer.bytes]
  ∃ buffer₀ r reply, processParamTable .sourceFrom232 commandModeRequest 5 (powerOn e)
      = some (cmdoorCheckOk, buffer₀, r)
    ∧ Valid .sourceFrom232 dataRequest 7 r.toGlobals
    ∧ tagDataLenPurse .sourceFrom232 dataRequest = cmdoorCheckOk
    ∧ ReadServed 1 (dataRequest.shift 3) r.toGlobals tagAnswer
    ∧ processParamTable .sourceFrom232 dataRequest 7 r = some reply
    ∧ reply.1 = cmdoorCheckOk ∧ replyPara .sourceFrom232 reply.2.1 = []
    ∧ ¬ ReturnsData .sourceFrom232 reply tagAnswer
  := by
  intro e
  have heval : ((processParamTable .sourceFrom232 commandModeRequest 5 (powerOn e)).bind
      fun mode => (encodeR2000 0x86 (dataRequest.shift 3) mode.2.2.toGlobals).bind
        fun asked => (encodeR2000 0xC1 (dataRequest.shift 3) asked.2).bind
        fun read => (processParamTable .sourceFrom232 dataRequest 7 mode.2.2).map
        fun reply => ([mode.1, checkRequest .sourceFrom232 dataRequest 7 mode.2.2.toGlobals,
          asked.1, asked.2.r2000.para 0, read.1, reply.1],
          modeAllows (dataRequest 2) mode.2.2.toGlobals,
          read.2.r2000.load.take tagAnswer.bytes.length, replyPara .sourceFrom232 reply.2.1))
      = some ([cmdoorCheckOk, cmdoorCheckOk, 0, 1, 0, cmdoorCheckOk], true, tagAnswer.bytes,
        []) := by
    rw [powerOn_eq]
    decide +kernel
  obtain ⟨⟨flag₀, buffer₀, r⟩, hmode, heval⟩ := Option.bind_eq_some_iff.mp heval
  obtain ⟨⟨flag₁, g₁⟩, hasked, heval⟩ := Option.bind_eq_some_iff.mp heval
  obtain ⟨⟨flag₂, g₂⟩, hread, heval⟩ := Option.bind_eq_some_iff.mp heval
  obtain ⟨reply, hreply, heq⟩ := Option.map_eq_some_iff.mp heval
  simp only [Prod.mk.injEq, List.cons.injEq, and_true] at heq
  obtain ⟨⟨rfl, hcheck, rfl, hone, rfl, hok⟩, hallows, hbytes, hempty⟩ := heq
  refine ⟨buffer₀, r, reply, hmode, valid_of_check hcheck ((modeAllows_iff _ _).mp hallows),
    by decide, ⟨g₁, hasked, hone, fun hzero => absurd hzero (by decide),
      fun _ => ⟨g₂, hread, hbytes⟩⟩, hreply, hok, hempty, ?_⟩
  rintro ⟨-, hdata⟩
  exact absurd (hempty.symm.trans hdata) (by decide)

end UhfReader
