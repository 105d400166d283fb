import UhfReader.Atomicity
import UhfReader.Handlers.Reads

/-!
# The two layouts of a request

A request from RS485 has the address of the reader before its parameters.  Each branch of
`processParamTable` is there twice, once for either layout, and is meant to do the same for
the same command and parameters.  `SameAnswer` is what this means for the two replies.

The branches agree as long as the code stays within the parameters of the request.  It does
not in a few places: a tag filter of four bytes is taken from a byte too early for RS485,
some commands are carried out with fewer parameters than they read, and one length of reply
fits only one of the layouts.
-/

open Memory Stateful

namespace UhfReader

/-! ### Requests -/

/-- What stands before the parameters of a request, for `n` of them. -/
def requestHead (o : CmdOrigin) (cmd address : UInt8) (n : ℕ) : List UInt8 :=
  match o with
  | .sourceFrom485 => [0x40, UInt8.ofNat (n + 3), cmd, address]
  | _ => [0x40, UInt8.ofNat (n + 2), cmd]

/-- The request with the command `cmd` and the parameters `para`, in the layout of an origin. -/
def requestFrame (o : CmdOrigin) (cmd address : UInt8) (para : List UInt8) : List UInt8 :=
  let body := requestHead o cmd address para.length ++ para
  body ++ [~~~ body.sum + 1]

/-- The receive buffer with a request, and `rest` behind it. -/
def requestBuffer (o : CmdOrigin) (cmd address : UInt8) (para : List UInt8) (rest : Mem) : Mem :=
  Mem.ofList (requestFrame o cmd address para) rest

/-- What the code sees of a request in the receive buffer. -/
structure IsRequest (o : CmdOrigin) (cmd address : UInt8) (para : List UInt8) (buffer : Mem) :
    Prop where
  short : para.length ≤ 252
  len : (buffer 1).toNat = para.length + (emptyLen o).toNat
  cmd : buffer 2 = cmd
  address : o = .sourceFrom485 → buffer 3 = address
  para : ∀ i (h : i < para.length), buffer (paraOff o + i) = para.get ⟨i, h⟩
  sum : byteSum buffer ((buffer 1).toNat + 2) = 0

theorem length_requestHead (o : CmdOrigin) (cmd address : UInt8) (n : ℕ) :
  (requestHead o cmd address n).length = paraOff o
  := by
  cases o <;> rfl

theorem length_requestFrame (o : CmdOrigin) (cmd address : UInt8) (para : List UInt8) :
  (requestFrame o cmd address para).length = para.length + (emptyLen o).toNat + 2
  := by
  have hoff := toNat_emptyLen_succ o
  simp only [requestFrame, List.length_append, length_requestHead, List.length_singleton]
  omega

/-- A byte of the head of a request. -/
theorem requestBuffer_head (o : CmdOrigin) (cmd address : UInt8) (para : List UInt8) (rest : Mem)
    {i : ℕ} (hi : i < paraOff o) :
  requestBuffer o cmd address para rest i
    = (requestHead o cmd address para.length).getD i 0
  := by
  have hlen := length_requestHead o cmd address para.length
  rw [← hlen] at hi
  simp only [requestBuffer, requestFrame, Mem.ofList]
  rw [List.append_assoc, List.getD_append _ _ _ _ hi, List.getD_eq_getElem _ _ hi,
    List.getD_eq_getElem _ _ hi]

/-- A parameter of a request. -/
theorem requestBuffer_para (o : CmdOrigin) (cmd address : UInt8) (para : List UInt8) (rest : Mem)
    {i : ℕ} (hi : i < para.length) :
  requestBuffer o cmd address para rest (paraOff o + i) = para.get ⟨i, hi⟩
  := by
  have hlen := length_requestHead o cmd address para.length
  simp only [requestBuffer, requestFrame, Mem.ofList]
  rw [List.append_assoc, List.getD_append_right _ _ _ _ (by omega), hlen, Nat.add_sub_cancel_left,
    List.getD_append _ _ _ _ hi, List.getD_eq_getElem _ _ hi]
  rfl

theorem isRequest_requestBuffer (o : CmdOrigin) (cmd address : UInt8) {para : List UInt8}
    (rest : Mem) (h : para.length ≤ 252) :
  IsRequest o cmd address para (requestBuffer o cmd address para rest)
  := by
  have hone : 1 < paraOff o := by cases o <;> decide
  have htwo : 2 < paraOff o := two_lt_paraOff o
  have hlen : (requestBuffer o cmd address para rest 1).toNat
      = para.length + (emptyLen o).toNat := by
    rw [requestBuffer_head _ _ _ _ _ hone]
    cases o <;> simp only [requestHead, emptyLen, List.getD_cons_succ, List.getD_cons_zero,
      UInt8.toNat_ofNat', UInt8.reduceToNat] <;> omega
  refine ⟨h, hlen, ?_, ?_, ?_, ?_⟩
  · rw [requestBuffer_head _ _ _ _ _ htwo]
    cases o <;> rfl
  · rintro rfl
    rw [requestBuffer_head _ _ _ _ _ (show 3 < paraOff .sourceFrom485 by decide)]
    rfl
  · intro i hi
    exact requestBuffer_para o cmd address para rest hi
  · rw [hlen, ← length_requestFrame o cmd address para, requestBuffer, byteSum_ofList, requestFrame]
    exact sum_closed _

/-! ### Replies -/

/-- The parameters of a reply. -/
def replyPara (o : CmdOrigin) (buffer : Mem) : List UInt8 :=
  (buffer.shift (paraOff o)).take ((buffer 1).toNat - (emptyLen o).toNat)

/-- Two requests were answered alike. -/
structure SameAnswer (o o' : CmdOrigin) (x y : UInt8 × Mem × Reader) : Prop where
  flag : y.1 = x.1
  gDevice : y.2.2.gDevice = x.2.2.gDevice
  setFlag : y.2.2.setFlag = x.2.2.setFlag
  para : x.1 ≠ errorNoReturn → replyPara o' y.2.1 = replyPara o x.2.1

/-- Neither of two requests was answered, or both were, alike. -/
def Agree (o o' : CmdOrigin) (a b : Option (UInt8 × Mem × Reader)) : Prop :=
  (a = none ∧ b = none) ∨ ∃ x y, a = some x ∧ b = some y ∧ SameAnswer o o' x y

/-- Two requests have the same outcome.  A reply of exactly 250 bytes would fit one layout but
not the other. -/
structure SameOutcome (o o' : CmdOrigin) (x y : UInt8 × Mem × Reader) : Prop where
  flag : y.1 = x.1
  gDevice : y.2.2.gDevice = x.2.2.gDevice
  setFlag : y.2.2.setFlag = x.2.2.setFlag
  reply : x.1 = cmdoorCheckOk → ∃ n : UInt8, x.2.1 1 = emptyLen o + n ∧ y.2.1 1 = emptyLen o' + n
    ∧ n ≠ 250 ∧ (n.toNat < 250 →
      Mem.AgreeBelow n.toNat (x.2.1.shift (paraOff o)) (y.2.1.shift (paraOff o')))

/-- The only parameter of an error reply is its flag. -/
theorem replyPara_error {o : CmdOrigin} {flag : UInt8} (buffer : Mem) (h : flag ≠ cmdoorCheckOk) :
  replyPara o (packet o flag buffer bufLen).2 = [flag]
  := by
  have hoff := two_lt_paraOff o
  have hlen : (packet o flag buffer bufLen).2 1 = emptyLen o + 1 := by
    unfold packet
    rw [if_pos h]
    dsimp only
    rw [Mem.put_of_ne (by omega), Mem.put_of_ne (by omega), Mem.put_same]
  have hpara : (packet o flag buffer bufLen).2 (paraOff o) = flag := by
    unfold packet
    rw [if_pos h]
    dsimp only
    rw [Mem.put_of_ne (by omega), Mem.put_same]
  have hone : (emptyLen o + 1).toNat - (emptyLen o).toNat = 1 := by cases o <;> decide
  rw [replyPara, hlen, hone]
  simp only [Mem.take, List.range_one, List.map_cons, List.map_nil, Mem.shift_apply, Nat.add_zero,
    hpara]

/-- The parameters of a reply that is sent. -/
theorem replyPara_ok {o : CmdOrigin} {buffer : Mem} {n : UInt8} (hlen : buffer 1 = emptyLen o + n)
    (hn : n.toNat < 250) :
  (packet o cmdoorCheckOk buffer bufLen).1 = cmdoorCheckOk
    ∧ replyPara o (packet o cmdoorCheckOk buffer bufLen).2
      = (buffer.shift (paraOff o)).take n.toNat
  := by
  have htoNat := toNat_emptyLen_add (o := o) (show n.toNat < 253 by omega)
  have hempty : (emptyLen o).toNat ≤ 3 := by cases o <;> decide
  constructor
  · apply packet_ok_sent hlen
    simp only [bufLen]
    omega
  · rw [replyPara, packet_ok_len, hlen, htoNat, Nat.add_sub_cancel_left]
    apply Mem.AgreeBelow.take_eq
    intro i hi
    apply packet_ok_para
    rw [hlen, htoNat]
    omega

/-- A reply that is too long is not sent. -/
theorem packet_long {o : CmdOrigin} {buffer : Mem} {n : UInt8} (hlen : buffer 1 = emptyLen o + n)
    (hn : 251 ≤ n.toNat) :
  (packet o cmdoorCheckOk buffer bufLen).1 = errorNoReturn
  := by
  have hlt := n.toNat_lt
  rw [packet_ok_flag, hlen, if_pos]
  rw [UInt8.lt_iff_toNat_lt, UInt8.toNat_add]
  cases o <;> simp only [emptyLen, UInt8.reduceToNat, bufLen] <;> omega

/-- Requests with the same outcome are answered alike. -/
theorem SameOutcome.pack {o o' : CmdOrigin} {x y : UInt8 × Mem × Reader}
    (h : SameOutcome o o' x y) :
  SameAnswer o o' (pack o x) (pack o' y)
  := by
  obtain ⟨flag, b, r⟩ := x
  obtain ⟨flag', b', r'⟩ := y
  obtain ⟨hflag, hdevice, hset, hreply⟩ := h
  dsimp only at hflag hdevice hset hreply
  subst hflag
  unfold UhfReader.pack
  dsimp only
  by_cases hok : flag' = cmdoorCheckOk
  · subst hok
    obtain ⟨n, hlen, hlen', hne, hagree⟩ := hreply rfl
    by_cases hn : n.toNat < 250
    · obtain ⟨hsent, hpara⟩ := replyPara_ok hlen hn
      obtain ⟨hsent', hpara'⟩ := replyPara_ok hlen' hn
      refine ⟨hsent'.trans hsent.symm, hdevice, hset, fun _ => ?_⟩
      dsimp only
      rw [hpara, hpara']
      exact (hagree hn).symm.take_eq
    · have hlong : 251 ≤ n.toNat := by
        have : n.toNat ≠ 250 := fun heq => hne (UInt8.toNat_inj.mp heq)
        omega
      have hnone := packet_long hlen hlong
      refine ⟨(packet_long hlen' hlong).trans hnone.symm, hdevice, hset, ?_⟩
      intro hsent
      exact absurd hnone hsent
  · refine ⟨(packet_error hok).trans (packet_error hok).symm, hdevice, hset, fun _ => ?_⟩
    exact (replyPara_error b' hok).trans (replyPara_error b hok).symm

/-- Neither of two requests has an outcome, or both have the same. -/
def SameOutcomes (o o' : CmdOrigin) (a a' : Option (UInt8 × Mem × Reader)) : Prop :=
  (a = none ∧ a' = none) ∨ ∃ x y, a = some x ∧ a' = some y ∧ SameOutcome o o' x y

theorem SameOutcomes.pack {o o' : CmdOrigin} {a a' : Option (UInt8 × Mem × Reader)}
    (h : SameOutcomes o o' a a') :
  Agree o o' (a.map (pack o)) (a'.map (pack o'))
  := by
  obtain ⟨rfl, rfl⟩ | ⟨x, y, rfl, rfl, hsame⟩ := h
  · exact .inl ⟨rfl, rfl⟩
  · exact .inr ⟨_, _, rfl, rfl, hsame.pack⟩

/-- Requests that fail with the same flag before they change anything. -/
theorem sameOutcomes_error {o o' : CmdOrigin} {flag : UInt8} (h : flag ≠ cmdoorCheckOk)
    (b b' : Mem) (r : Reader) :
  SameOutcomes o o' (some (flag, b, r)) (some (flag, b', r))
  := .inr ⟨_, _, rfl, rfl, rfl, rfl, rfl, fun hok => absurd hok h⟩

/-! ### The checks -/

namespace IsRequest

variable {o o' : CmdOrigin} {cmd address : UInt8} {para : List UInt8} {b b' : Mem} {r : Reader}

/-- Two requests with the same parameters agree on them. -/
theorem agree (hb : IsRequest o cmd address para b) (hb' : IsRequest o' cmd address para b') :
  Mem.AgreeBelow para.length (b.shift (paraOff o)) (b'.shift (paraOff o'))
  := by
  intro i hi
  rw [Mem.shift_apply, Mem.shift_apply, hb.para i hi, hb'.para i hi]

/-- The length byte tells how many parameters there are. -/
theorem len_eq_iff (hb : IsRequest o cmd address para b) (n : ℕ) :
  (b 1).toNat = n + (emptyLen o).toNat ↔ para.length = n
  := by
  rw [hb.len]
  omega

theorem len_eq_emptyLen_iff (hb : IsRequest o cmd address para b) :
  b 1 = emptyLen o ↔ para.length = 0
  := by
  rw [← UInt8.toNat_inj, ← hb.len_eq_iff 0, Nat.zero_add]

theorem wellFormed (hb : IsRequest o cmd address para b)
    (hfound : r.gParamTable.getparaindex cmd < countParamItemMax) (hcmd : cmd ≠ 0) :
  WellFormed b (para.length + (emptyLen o).toNat + 2) r.toGlobals
  := by
  refine ⟨?_, ?_, ?_, hb.sum⟩
  · rwa [hb.cmd]
  · rwa [hb.cmd]
  · rw [hb.len]

theorem valid (hb : IsRequest o cmd (r.gDevice.load Offset.address) para b)
    (hfound : r.gParamTable.getparaindex cmd < countParamItemMax) (hcmd : cmd ≠ 0)
    (hmode : modeAllows cmd r.toGlobals = true) :
  Valid o b (para.length + (emptyLen o).toNat + 2) r.toGlobals
  := by
  refine ⟨hb.wellFormed hfound hcmd, hb.address, ?_⟩
  rw [← modeAllows_iff, hb.cmd]
  exact hmode

/-- A request for an unknown command is refused. -/
theorem process_unknown (hb : IsRequest o cmd address para b)
    (h : r.gParamTable.getparaindex cmd ≥ countParamItemMax ∨ cmd = 0) (length : ℕ) :
  processParamTable o b length r = (some (invalidInstruction, b, r)).map (pack o)
  := by
  have hcheck : checkRequest o b length r.toGlobals = invalidInstruction := by
    unfold checkRequest
    dsimp only
    rw [hb.cmd]
    obtain hunknown | hzero := h
    · rw [if_pos hunknown]
    · rw [if_pos hzero]
      split
      · rfl
      · rfl
  unfold processParamTable processWith
  dsimp only
  rw [hcheck, if_neg (by decide)]

/-- A request that is known is carried out, or refused by the mode. -/
theorem process_known (hb : IsRequest o cmd (r.gDevice.load Offset.address) para b)
    (hfound : r.gParamTable.getparaindex cmd < countParamItemMax) (hcmd : cmd ≠ 0) :
  processParamTable o b (para.length + (emptyLen o).toNat + 2) r
    = (dispatch runHandler o b r).map (pack o)
  := by
  have hcheck := (checkRequest_of_wellFormed (o := o) (hb.wellFormed hfound hcmd)).1 hb.address
  unfold processParamTable processWith
  dsimp only
  rw [if_pos hcheck]

end IsRequest

end UhfReader
