import UhfReader.Handlers.Tags
import UhfReader.ParamTable

/-!
# Processing a request

`processParamTable` checks a request in the receive buffer, carries it out and builds the
reply in the same buffer.  A request from RS485 carries the address of the reader between
the command and its parameters, so `paraOff` and `emptyLen` are one larger there; the
source has each branch twice, once for either layout.

`processWith` is `processParamTable` over an arbitrary meaning of the functions that the
table refers to.
-/

open Memory

namespace UhfReader

/-- The place of the parameters in a request: `cmdstr1->para` for RS485, `cmdstr->para`
otherwise. -/
def paraOff : CmdOrigin → ℕ
  | .sourceFrom485 => 4
  | _ => 3

/-- The length byte of a request without parameters. -/
def emptyLen : CmdOrigin → UInt8
  | .sourceFrom485 => 3
  | _ => 2

/-! ### The reply frame -/

/-- `packet`: the reply is marked and closed with its checksum. -/
def packet (cmdOrigin : CmdOrigin) (returnFlag : UInt8) (buffer : Mem) (size : ℕ) :
    UInt8 × Mem :=
  if returnFlag ≠ cmdoorCheckOk then
    let b := (buffer.put 0 0xF4).put 1 (emptyLen cmdOrigin + 1)
    let b := b.put (paraOff cmdOrigin) returnFlag
    let b := b.put (paraOff cmdOrigin + 1) (setChecksum b ((b 1).toNat + 1))
    (if (b 1).toNat + 2 ≥ size then errorNoReturn else returnFlag, b)
  else
    let b := buffer.put 0 0xF0
    if b 1 < emptyLen cmdOrigin then (errorNoReturn, b)
    else
      let b := b.put (paraOff cmdOrigin + ((b 1).toNat - (emptyLen cmdOrigin).toNat))
        (setChecksum b ((b 1).toNat + 1))
      (if (b 1).toNat + 2 ≥ size then errorNoReturn else returnFlag, b)

/-! ### Checks -/

/-- The length byte that `TagDataLenPurse` asks for, for a request that is not from RS485
and has the parameters `para`; any length is allowed where it is `none`.  RS485 asks for one
more.  `mlen` and `temp_lenth` are bytes, their sums with the constants are not. -/
def tagDataLen (cmd : UInt8) (para : Mem) : Option ℕ :=
  let words := (para 0 * 2).toNat
  match cmd with
  | 0xEF | 0x0A | 0x04 | 0x05 => none
  | 0xEE | 0xDF => some (6 + ((para 3).toNat + 7) / 8)
  | 0xED | 0xDE => some 4
  | 0xEC => some (10 + words)
  | 0xEB => some (10 + (para 0 * 2 + para ((para 0 * 2 + 1).toNat + 2) * 2).toNat)
  | 0xEA | 0xE9 => some (9 + words)
  | 0xE8 | 0xE7 | 0xE3 => some (7 + words)
  | 0xE5 => some (8 + words)
  | 0xE4 => some 2
  | 0xE2 => some (6 + words)
  | 0xE0 => some 5
  | 0xFF | 0xFE => some 2
  | 0xFD => some 4
  | 0xFB => some 13
  | 0xF6 => some 12
  | 0xF5 | 0xF2 => some (12 + (para 9).toNat)
  | 0xF4 | 0xF3 => some 11
  | _ => some 2

/-- `TagDataLenPurse` -/
def tagDataLenPurse (cmdOrigin : CmdOrigin) (buffer : Mem) : UInt8 :=
  match tagDataLen (buffer 2) (buffer.shift (paraOff cmdOrigin)) with
  | none => cmdoorCheckOk
  | some n =>
    if (buffer 1).toNat ≠ n + ((emptyLen cmdOrigin).toNat - 2) then ortherWrong
    else cmdoorCheckOk

/-- `rangeControl` -/
def rangeControl (cmd value : UInt8) : UInt8 :=
  match cmd with
  | 0x01 => if value < 4 ∨ value > 8 then paraWrong else cmdoorCheckOk
  | 0x04 => if value < 20 ∨ value > 33 then paraWrong else cmdoorCheckOk
  | 0x05 => if value < 1 ∨ value > 63 then paraWrong else cmdoorCheckOk
  | 0x0F => if value > 1 then paraWrong else cmdoorCheckOk
  | 0x86 => if value > 3 ∨ value < 1 then paraWrong else cmdoorCheckOk
  | _ => cmdoorCheckOk

/-- `compare` -/
def compare (buf1 buf2 : Mem) (count : ℕ) : Bool :=
  (List.range count).all fun i => buf1 i = buf2 i

/-- The checks at the start of `processParamTable`, in the order of its `if` chain. -/
def checkRequest (cmdOrigin : CmdOrigin) (buffer : Mem) (length : ℕ) (g : Globals) : UInt8 :=
  let len := (buffer 1).toNat
  let cmd := buffer 2
  let addr := buffer 3
  let sum := ~~~(byteSum buffer (len + 1)) + 1
  if g.gParamTable.getparaindex cmd ≥ countParamItemMax then invalidInstruction
  else if cmd = 0 then invalidInstruction
  else if len + 2 > length then ortherWrong
  else if sum ≠ buffer (len + 1) then checksumWrong
  else if cmdOrigin = .sourceFrom485 then
    if addr ≠ g.gDevice.load Offset.address then errorNoReturn else cmdoorCheckOk
  else cmdoorCheckOk

/-- The commands that are carried out in active mode, too. -/
def actCmds : List UInt8 := [0x02, 0x0F, 0x10, 0x54, 0x57, 0x0E, 0x88, 0x09, 0x13]

/-- The working mode lets the command through. -/
def modeAllows (cmd : UInt8) (g : Globals) : Bool :=
  g.gDevice.load Offset.readerWorkStatus ≠ workAct ∨ cmd ∈ actCmds

/-! ### Values of table entries -/

namespace Globals

/-- What `value` points to. -/
def valueMem (g : Globals) : ValuePtr → Mem
  | .device off => Mem.shift g.gDevice.load off
  | .tmpAntenna => fun i => if i = 0 then g.tmpAntenna else 0
  | .sysReboot => fun i => if i = 0 then g.sysReboot else 0
  | .cmdTmpBuf => g.cmdTmpBuf.load

/-- `memcpy(value, src, n)`.  What is written past the end of the object `value` points
into is not kept. -/
def memcpyValue (g : Globals) (src : Mem) (n : ℕ) : ValuePtr → Globals
  | .device off => { g with gDevice := g.gDevice.copy off src n }
  | .tmpAntenna => { g with tmpAntenna := if 0 < n then src 0 else g.tmpAntenna }
  | .sysReboot => { g with sysReboot := if 0 < n then src 0 else g.sysReboot }
  | .cmdTmpBuf => { g with cmdTmpBuf := g.cmdTmpBuf.copy 0 src n }

end Globals

/-- The default case of a write request, for the command `0x15`: the flag and the globals
with the filter stored.  A filter without mask bytes is taken from `cmdstr->para` for both
layouts, and does not raise `setFlag`. -/
def storeTagFilter (cmdOrigin : CmdOrigin) (idindex : ℕ) (buffer : Mem) (g : Globals) :
    UInt8 × Globals :=
  let len := buffer 1
  let n := len - emptyLen cmdOrigin
  let write (src : Mem) (g : Globals) : Globals :=
    match (g.gParamTable.table idindex).value with
    | none => g
    | some v => g.memcpyValue src n.toNat v
  let setLength (g : Globals) : Globals :=
    { g with gParamTable := g.gParamTable.setLength idindex n }
  if len = emptyLen cmdOrigin + 4 then
    (cmdoorCheckOk, setLength (write (buffer.shift 3) g))
  else if len < emptyLen cmdOrigin + 4 then (paraWrong, setLength g)
  else
    (cmdoorCheckOk, setLength (write (buffer.shift (paraOff cmdOrigin)) { g with setFlag := 1 }))

/-- The default case of a write request, for the other commands: the flag and the globals
with the value stored. -/
def storeValue (cmdOrigin : CmdOrigin) (idindex : ℕ) (buffer : Mem) (g : Globals) :
    UInt8 × Globals :=
  let cmd := buffer 2
  let para := buffer.shift (paraOff cmdOrigin)
  let item := g.gParamTable.table idindex
  let n := item.length.toNat
  if (buffer 1).toNat ≠ n + (emptyLen cmdOrigin).toNat then (ortherWrong, g)
  else
    match item.value with
    | none => (cmdoorCheckOk, g)
    | some v =>
      let flag := rangeControl cmd (para 0)
      if flag ≠ cmdoorCheckOk then (flag, g)
      else if cmd = 0x0F then
        (flag, { g with gDevice := g.gDevice.put Offset.readerWorkStatus (para 0) })
      else if cmd = 0x09 ∨ cmd = 0x13 then
        (flag, { g with setFlag := 1 }.memcpyValue para n v)
      else if compare (g.valueMem v) para n then (flag, g)
      else
        (flag, { g with setFlag := if cmd ≠ 0x0A then 1 else g.setFlag }.memcpyValue para n v)

/-- The reply to `0x16`: the four bytes of mask address and mask length, and as many bytes
of the mask as the low byte of the mask length asks for.  The length of the entry becomes
that of the reply. -/
def loadTagFilter (off idindex : ℕ) (buffer : Mem) (g : Globals) : Mem × Globals :=
  let filter := Mem.shift g.gDevice.load Offset.tagfilter
  let b := buffer.copy off filter 4
  let bits := filter 3
  let n : UInt8 := if bits = 0 then 0 else UInt8.ofNat ((bits.toNat + 7) / 8)
  let b := b.copy (off + 4) (filter.shift 4) n.toNat
  (b.put 1 (b 1 + (n + 4)), { g with gParamTable := g.gParamTable.setLength idindex (n + 4) })

/-- The value of a read request copied into the reply. -/
def loadValue (cmdOrigin : CmdOrigin) (idindex : ℕ) (buffer : Mem) (g : Globals) :
    Mem × Globals :=
  let cmd := buffer 2
  let off := paraOff cmdOrigin
  let item := g.gParamTable.table idindex
  match item.value with
  | none =>
    if cmd = 0x8D then
      let b := buffer.copy off g.deviceSerial.load 12
      (b.put 1 (b 1 + 12), g)
    else (buffer, g)
  | some v =>
    if cmd = 0x57 then
      let b := buffer.copy off (g.valueMem v) g.cmdTmpLen.toNat
      (b.put 1 (b 1 - 3 + g.cmdTmpLen), g)
    else if cmd = 0x16 then loadTagFilter off idindex buffer g
    else
      let b := buffer.copy off (g.valueMem v) item.length.toNat
      (b.put 1 (b 1 + item.length), g)

/-! ### Requests -/

section Process

/-- A meaning of the functions of the table: `run before p h` is the function `h` on the
parameters `p`, with the byte `before` in front of them. -/
abbrev HandlerRun := UInt8 → Mem → Handler → M Mem

variable (run : HandlerRun)

/-- `Function(buffer)`: the function finds its parameters by `TagDataOrigin`. -/
def callFunction (function : Option Handler) (buffer : Mem) (r : Reader) :
    Option (Mem × Reader) :=
  match function with
  | none => some (buffer, r)
  | some h =>
    let off := paraOff r.tagDataOrigin
    (run (buffer (off - 1)) (buffer.shift off) h r.toGlobals).map fun ran =>
      (buffer.graft off ran.1, { r with toGlobals := ran.2 })

/-- The commands of write requests that have no parameters. -/
def bareCmds : List UInt8 := [0x0D, 0x0E, 0x10, 0x54, 0x88]

/-- A write request up to the call of its function: the flag, the buffer and the state. -/
def storeRequest (cmdOrigin : CmdOrigin) (idindex : ℕ) (buffer : Mem) (r : Reader) :
    UInt8 × Mem × Reader :=
  let cmd := buffer 2
  if cmd ∈ bareCmds then
    (if buffer 1 ≠ emptyLen cmdOrigin then ortherWrong else cmdoorCheckOk, buffer,
      { r with
        setFlag := if cmd = 0x0D then 1 else r.setFlag
        tagDataOrigin := if cmd = 0x88 then cmdOrigin else r.tagDataOrigin })
  else
    let stored :=
      if cmd = 0x15 then storeTagFilter cmdOrigin idindex buffer r.toGlobals
      else storeValue cmdOrigin idindex buffer r.toGlobals
    (stored.1, buffer.put 1 (buffer 1 - (stored.2.gParamTable.table idindex).length),
      { r with toGlobals := stored.2 })

/-- A write request, `Flag_ParamItem_WR`. -/
def writeRequest (cmdOrigin : CmdOrigin) (idindex : ℕ) (buffer : Mem) (r : Reader) :
    Option (UInt8 × Mem × Reader) :=
  let stored := storeRequest cmdOrigin idindex buffer r
  if stored.1 = cmdoorCheckOk then
    (callFunction run (stored.2.2.gParamTable.table idindex).function stored.2.1 stored.2.2).map
      fun called => (cmdoorCheckOk, called)
  else some stored

/-- The length byte that a read request is judged by; `0x57` has three more parameters. -/
def readLen (buffer : Mem) : UInt8 := if buffer 2 = 0x57 then buffer 1 - 3 else buffer 1

/-- `ReaderWorkStatus` survives `0x06`, which reads `g_device` back from the flash. -/
def restoreWorkStatus (cmd readerWorkStatus : UInt8) (g : Globals) : Globals :=
  if cmd = 0x06 then
    { g with gDevice := g.gDevice.put Offset.readerWorkStatus readerWorkStatus }
  else g

/-- A read request after the call of its function. -/
def finishRead (cmdOrigin : CmdOrigin) (idindex : ℕ) (readerWorkStatus : UInt8)
    (called : Mem × Reader) : UInt8 × Mem × Reader :=
  let loaded := loadValue cmdOrigin idindex called.1 called.2.toGlobals
  (cmdoorCheckOk, loaded.1,
    { called.2 with toGlobals := restoreWorkStatus (called.1 2) readerWorkStatus loaded.2 })

/-- A read request, `Flag_ParamItem_RD`. -/
def readRequest (cmdOrigin : CmdOrigin) (idindex : ℕ) (buffer : Mem) (r : Reader) :
    Option (UInt8 × Mem × Reader) :=
  if readLen buffer ≠ emptyLen cmdOrigin then some (ortherWrong, buffer, r)
  else
    (callFunction run (r.gParamTable.table idindex).function buffer r).map
      (finishRead cmdOrigin idindex (r.gDevice.load Offset.readerWorkStatus))

/-- A request of the kind `Flag_ParamItem_OTHR` after the call of its function. -/
def finishOther (cmdOrigin : CmdOrigin) (called : Mem × Reader) : UInt8 × Mem × Reader :=
  if called.2.cmdTmpLen.toNat ≥ bufLen then (noTag, called)
  else (cmdoorCheckOk, called.1.put 1 (called.2.cmdTmpLen + emptyLen cmdOrigin), called.2)

/-- A request of the kind `Flag_ParamItem_OTHR`, whose function builds the reply. -/
def otherRequest (cmdOrigin : CmdOrigin) (idindex : ℕ) (buffer : Mem) (r : Reader) :
    Option (UInt8 × Mem × Reader) :=
  let flag := tagDataLenPurse cmdOrigin buffer
  if flag ≠ cmdoorCheckOk then some (flag, buffer, r)
  else
    match (r.gParamTable.table idindex).function with
    | none => some (flag, buffer.put 1 (emptyLen cmdOrigin), r)
    | some h =>
      (callFunction run (some h) buffer { r with tagDataOrigin := cmdOrigin }).map
        (finishOther cmdOrigin)

/-- A request that has passed the checks. -/
def dispatch (cmdOrigin : CmdOrigin) (buffer : Mem) (r : Reader) :
    Option (UInt8 × Mem × Reader) :=
  let idindex := r.gParamTable.getparaindex (buffer 2)
  let kind := (r.gParamTable.table idindex).flag
  if ¬ modeAllows (buffer 2) r.toGlobals then some (invalidMasterCmd, buffer, r)
  else if kind &&& flagWR ≠ 0 then writeRequest run cmdOrigin idindex buffer r
  else if kind &&& flagRD ≠ 0 then readRequest run cmdOrigin idindex buffer r
  else if kind &&& flagOTHR ≠ 0 then otherRequest run cmdOrigin idindex buffer r
  else some (cmdoorCheckOk, buffer, r)

/-- The outcome of a request with its reply packed. -/
def pack (cmdOrigin : CmdOrigin) (outcome : UInt8 × Mem × Reader) : UInt8 × Mem × Reader :=
  let packed := packet cmdOrigin outcome.1 outcome.2.1 bufLen
  (packed.1, packed.2, outcome.2.2)

/-- `processParamTable`, for a meaning `run` of the functions of the table: the flag, the
buffer with the reply, and the state.  It is `none` when the function called does not
return. -/
def processWith (cmdOrigin : CmdOrigin) (buffer : Mem) (length : ℕ) (r : Reader) :
    Option (UInt8 × Mem × Reader) :=
  let checked := checkRequest cmdOrigin buffer length r.toGlobals
  let result :=
    if checked = cmdoorCheckOk then dispatch run cmdOrigin buffer r
    else some (checked, buffer, r)
  result.map (pack cmdOrigin)

/-! ### What a request can do -/

variable {run : HandlerRun} {o : CmdOrigin} {idindex length : ℕ} {buffer : Mem} {r : Reader}

/-- A function of the table writes at its parameters and on the globals only. -/
theorem callFunction_cases {function : Option Handler} {called : Mem × Reader}
    (h : callFunction run function buffer r = some called) :
  (function = none ∧ called = (buffer, r))
    ∨ ∃ f p g, function = some f
      ∧ run (buffer (paraOff r.tagDataOrigin - 1)) (buffer.shift (paraOff r.tagDataOrigin)) f
          r.toGlobals = some (p, g)
      ∧ called = (buffer.graft (paraOff r.tagDataOrigin) p, { r with toGlobals := g })
  := by
  cases function with
  | none => exact .inl ⟨rfl, (Option.some.inj h).symm⟩
  | some f =>
    simp only [callFunction, Option.map_eq_some_iff] at h
    obtain ⟨⟨p, g⟩, hran, hcalled⟩ := h
    exact .inr ⟨f, p, g, rfl, hran, hcalled.symm⟩

/-- A function of the table leaves what stands before the parameters. -/
theorem callFunction_below {function : Option Handler} {called : Mem × Reader} {i : ℕ}
    (hi : i < 3) (h : callFunction run function buffer r = some called) :
  called.1 i = buffer i
  := by
  obtain ⟨-, rfl⟩ | ⟨f, p, g, -, -, rfl⟩ := callFunction_cases h
  · rfl
  · apply Mem.graft_below
    cases r.tagDataOrigin <;> simp only [paraOff] <;> omega

/-- A write request stores its value and, when that went well, calls its function. -/
theorem writeRequest_cases {outcome : UInt8 × Mem × Reader}
    (h : writeRequest run o idindex buffer r = some outcome) :
  ((storeRequest o idindex buffer r).1 ≠ cmdoorCheckOk
      ∧ outcome = storeRequest o idindex buffer r)
    ∨ ∃ called, (storeRequest o idindex buffer r).1 = cmdoorCheckOk
      ∧ callFunction run
          ((storeRequest o idindex buffer r).2.2.gParamTable.table idindex).function
          (storeRequest o idindex buffer r).2.1 (storeRequest o idindex buffer r).2.2
        = some called
      ∧ outcome = (cmdoorCheckOk, called)
  := by
  unfold writeRequest at h
  dsimp only at h
  split at h
  · rename_i hok
    rw [Option.map_eq_some_iff] at h
    obtain ⟨called, hcall, houtcome⟩ := h
    exact .inr ⟨called, hok, hcall, houtcome.symm⟩
  · rename_i hok
    exact .inl ⟨hok, (Option.some.inj h).symm⟩

/-- A read request of the right length calls its function and fills in the value. -/
theorem readRequest_cases {outcome : UInt8 × Mem × Reader}
    (h : readRequest run o idindex buffer r = some outcome) :
  (readLen buffer ≠ emptyLen o ∧ outcome = (ortherWrong, buffer, r))
    ∨ ∃ called, readLen buffer = emptyLen o
      ∧ callFunction run (r.gParamTable.table idindex).function buffer r = some called
      ∧ outcome = finishRead o idindex (r.gDevice.load Offset.readerWorkStatus) called
  := by
  unfold readRequest at h
  split at h
  · rename_i hlen
    exact .inl ⟨hlen, (Option.some.inj h).symm⟩
  · rename_i hlen
    rw [Option.map_eq_some_iff] at h
    obtain ⟨called, hcall, houtcome⟩ := h
    exact .inr ⟨called, not_not.mp hlen, hcall, houtcome.symm⟩

/-- A request of the third kind calls its function when its length is right. -/
theorem otherRequest_cases {outcome : UInt8 × Mem × Reader}
    (h : otherRequest run o idindex buffer r = some outcome) :
  (tagDataLenPurse o buffer ≠ cmdoorCheckOk ∧ outcome = (tagDataLenPurse o buffer, buffer, r))
    ∨ (tagDataLenPurse o buffer = cmdoorCheckOk ∧ (r.gParamTable.table idindex).function = none
      ∧ outcome = (cmdoorCheckOk, buffer.put 1 (emptyLen o), r))
    ∨ ∃ f called, tagDataLenPurse o buffer = cmdoorCheckOk
      ∧ (r.gParamTable.table idindex).function = some f
      ∧ callFunction run (some f) buffer { r with tagDataOrigin := o } = some called
      ∧ outcome = finishOther o called
  := by
  unfold otherRequest at h
  dsimp only at h
  split at h
  · rename_i hlen
    exact .inl ⟨hlen, (Option.some.inj h).symm⟩
  · rename_i hlen
    have hok := not_not.mp hlen
    rw [hok] at h
    split at h
    · rename_i hfun
      exact .inr (.inl ⟨hok, hfun, (Option.some.inj h).symm⟩)
    · rename_i f hfun
      rw [Option.map_eq_some_iff] at h
      obtain ⟨called, hcall, houtcome⟩ := h
      exact .inr (.inr ⟨f, called, hok, hfun, hcall, houtcome.symm⟩)

/-- A request that has passed the checks is refused by the mode, or carried out by its
kind. -/
theorem dispatch_cases {outcome : UInt8 × Mem × Reader}
    (h : dispatch run o buffer r = some outcome) :
  outcome = (invalidMasterCmd, buffer, r) ∨ outcome = (cmdoorCheckOk, buffer, r)
    ∨ writeRequest run o (r.gParamTable.getparaindex (buffer 2)) buffer r = some outcome
    ∨ readRequest run o (r.gParamTable.getparaindex (buffer 2)) buffer r = some outcome
    ∨ otherRequest run o (r.gParamTable.getparaindex (buffer 2)) buffer r = some outcome
  := by
  unfold dispatch at h
  dsimp only at h
  split at h
  · exact .inl (Option.some.inj h).symm
  · split at h
    · exact .inr (.inr (.inl h))
    · split at h
      · exact .inr (.inr (.inr (.inl h)))
      · split at h
        · exact .inr (.inr (.inr (.inr h)))
        · exact .inr (.inl (Option.some.inj h).symm)

/-- `processWith` packs the outcome of the checks or of the request. -/
theorem processWith_cases {reply : UInt8 × Mem × Reader}
    (h : processWith run o buffer length r = some reply) :
  ∃ outcome, reply = pack o outcome
    ∧ ((checkRequest o buffer length r.toGlobals ≠ cmdoorCheckOk
        ∧ outcome = (checkRequest o buffer length r.toGlobals, buffer, r))
      ∨ checkRequest o buffer length r.toGlobals = cmdoorCheckOk
        ∧ dispatch run o buffer r = some outcome)
  := by
  unfold processWith at h
  dsimp only at h
  rw [Option.map_eq_some_iff] at h
  obtain ⟨outcome, houtcome, hreply⟩ := h
  refine ⟨outcome, hreply.symm, ?_⟩
  split at houtcome
  · rename_i hok
    exact .inr ⟨hok, houtcome⟩
  · rename_i hok
    exact .inl ⟨hok, (Option.some.inj houtcome).symm⟩

end Process

/-- The functions of the table as they are in the source. -/
abbrev runHandler : HandlerRun := fun before p h => h.run before p

/-- `processParamTable` -/
def processParamTable (cmdOrigin : CmdOrigin) (buffer : Mem) (length : ℕ) (r : Reader) :
    Option (UInt8 × Mem × Reader) :=
  processWith runHandler cmdOrigin buffer length r

/-- `SetTagFilter` does nothing: the filter is stored before it is called. -/
theorem callFunction_setTagFilter (b : Mem) (r : Reader) :
  callFunction runHandler (some .setTagFilter) b r = some (b, r)
  := by
  have hidle : callFunction runHandler (some .setTagFilter) b r
      = some (b.graft (paraOff r.tagDataOrigin) (b.shift (paraOff r.tagDataOrigin)), r) := rfl
  rw [hidle, Mem.graft_shift]

end UhfReader
