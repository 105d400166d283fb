import UhfReader.Boot
import UhfReader.Command

/-!
# Which requests are carried out

`Valid` collects what a request has to meet.  A request that is not valid changes nothing
but the reply buffer, and a valid frame with one byte changed fails the sum test.

The address test comes last in the chain of checks.  A frame for another reader on the bus
is therefore ignored only when the other checks pass, and is answered with an error
otherwise.
-/

open Memory

namespace UhfReader

/-! ### The chain of checks -/

/-- What a request of `length` bytes has to meet before it is looked up by its address. -/
structure WellFormed (buffer : Mem) (length : ℕ) (g : Globals) : Prop where
  registered : g.gParamTable.getparaindex (buffer 2) < countParamItemMax
  nonzero : buffer 2 ≠ 0
  complete : (buffer 1).toNat + 2 ≤ length
  sum : byteSum buffer ((buffer 1).toNat + 2) = 0

/-- The address byte of a request from RS485 is the address of the reader. -/
def Addressed (cmdOrigin : CmdOrigin) (buffer : Mem) (g : Globals) : Prop :=
  cmdOrigin = .sourceFrom485 → buffer 3 = g.gDevice.load Offset.address

/-- In active mode the command is one of those allowed there. -/
def ModeAllowed (buffer : Mem) (g : Globals) : Prop :=
  g.gDevice.load Offset.readerWorkStatus = workAct → buffer 2 ∈ actCmds

/-- What a request has to meet to be carried out. -/
structure Valid (cmdOrigin : CmdOrigin) (buffer : Mem) (length : ℕ) (g : Globals) : Prop
    extends WellFormed buffer length g where
  addressed : Addressed cmdOrigin buffer g
  mode : ModeAllowed buffer g

theorem modeAllows_iff (buffer : Mem) (g : Globals) :
  modeAllows (buffer 2) g = true ↔ ModeAllowed buffer g
  := by
  unfold modeAllows ModeAllowed
  rw [decide_eq_true_iff]
  exact imp_iff_not_or.symm

/-- A well-formed request passes every check but that of its address. -/
theorem checkRequest_of_wellFormed {o : CmdOrigin} {buffer : Mem} {length : ℕ} {g : Globals}
    (h : WellFormed buffer length g) :
  (Addressed o buffer g → checkRequest o buffer length g = cmdoorCheckOk)
    ∧ (¬ Addressed o buffer g → checkRequest o buffer length g = errorNoReturn)
  := by
  have hsum : ~~~(byteSum buffer ((buffer 1).toNat + 1)) + 1 = buffer ((buffer 1).toNat + 1) := by
    rw [not_add_one_eq_iff]
    exact h.sum
  unfold checkRequest Addressed
  dsimp only
  rw [if_neg (Nat.not_le.mpr h.registered), if_neg h.nonzero, if_neg (Nat.not_lt.mpr h.complete),
    if_neg (not_not.mpr hsum)]
  constructor
  · intro haddr
    split
    · rename_i horigin
      rw [if_neg (not_not.mpr (haddr horigin))]
    · rfl
  · intro haddr
    rw [Classical.not_imp] at haddr
    rw [if_pos haddr.1, if_pos haddr.2]

/-- A request that is not well formed is refused before its address is looked at. -/
theorem checkRequest_of_not_wellFormed {o : CmdOrigin} {buffer : Mem} {length : ℕ} {g : Globals}
    (h : ¬ WellFormed buffer length g) :
  checkRequest o buffer length g ∈ [invalidInstruction, ortherWrong, checksumWrong]
  := by
  unfold checkRequest
  dsimp only
  split
  · simp
  · rename_i hreg
    split
    · simp
    · rename_i hzero
      split
      · simp
      · rename_i hlen
        split
        · simp
        · rename_i hsum
          exfalso
          apply h
          refine ⟨Nat.not_le.mp hreg, hzero, Nat.not_lt.mp hlen, ?_⟩
          exact (not_add_one_eq_iff _ _).mp (not_not.mp hsum)

/-- The flag of an error is the flag that is returned. -/
theorem packet_error {o : CmdOrigin} {flag : UInt8} {buffer : Mem} (h : flag ≠ cmdoorCheckOk) :
  (packet o flag buffer bufLen).1 = flag
  := by
  unfold packet
  rw [if_pos h]
  dsimp only
  rw [if_neg]
  have hlen : ∀ c, (((((buffer.put 0 0xF4).put 1 (emptyLen o + 1)).put (paraOff o) flag).put
      (paraOff o + 1) c) 1) = emptyLen o + 1 := by
    intro c
    rw [Mem.put_of_ne, Mem.put_of_ne, Mem.put_same]
    · cases o <;> decide
    · cases o <;> decide
  rw [hlen]
  cases o <;> decide

section Process

variable (run : HandlerRun) {o : CmdOrigin} {buffer : Mem} {length : ℕ} {r : Reader}

/-- A request that fails a check is answered with the flag of that check. -/
theorem processWith_of_check (h : checkRequest o buffer length r.toGlobals ≠ cmdoorCheckOk) :
  ∃ buffer', processWith run o buffer length r
    = some (checkRequest o buffer length r.toGlobals, buffer', r)
  := by
  unfold processWith
  dsimp only
  rw [if_neg h, Option.map_some]
  refine ⟨(packet o (checkRequest o buffer length r.toGlobals) buffer bufLen).2, ?_⟩
  rw [pack, packet_error h]

/-- A request that the mode does not allow is answered with `INVALIDMASTERCMD`. -/
theorem processWith_of_mode (h : checkRequest o buffer length r.toGlobals = cmdoorCheckOk)
    (hmode : ¬ ModeAllowed buffer r.toGlobals) :
  ∃ buffer', processWith run o buffer length r = some (invalidMasterCmd, buffer', r)
  := by
  have hgate : modeAllows (buffer 2) r.toGlobals ≠ true := by
    rwa [Ne, modeAllows_iff]
  unfold processWith dispatch
  dsimp only
  rw [if_pos h, if_pos hgate, Option.map_some]
  refine ⟨(packet o invalidMasterCmd buffer bufLen).2, ?_⟩
  rw [pack, packet_error (show invalidMasterCmd ≠ cmdoorCheckOk by decide)]

/-- A valid request is carried out, and its outcome is packed into the reply. -/
theorem processWith_of_valid (h : Valid o buffer length r.toGlobals) :
  processWith run o buffer length r = (dispatch run o buffer r).map (pack o)
  := by
  unfold processWith
  dsimp only
  rw [if_pos ((checkRequest_of_wellFormed h.toWellFormed).1 h.addressed)]

/-- The flag of a request that is not valid: that of the check it fails, or of the mode. -/
def refusal (o : CmdOrigin) (buffer : Mem) (length : ℕ) (g : Globals) : UInt8 :=
  if checkRequest o buffer length g = cmdoorCheckOk then invalidMasterCmd
  else checkRequest o buffer length g

theorem refusal_error (o : CmdOrigin) (buffer : Mem) (length : ℕ) (g : Globals) :
  refusal o buffer length g ≠ cmdoorCheckOk
  := by
  unfold refusal
  split
  · decide
  · rename_i hcheck
    exact hcheck

/-- A request that passes the checks and that the mode allows is valid. -/
theorem valid_of_check (hcheck : checkRequest o buffer length r.toGlobals = cmdoorCheckOk)
    (hmode : ModeAllowed buffer r.toGlobals) :
  Valid o buffer length r.toGlobals
  := by
  have hwf : WellFormed buffer length r.toGlobals := by
    by_contra hnot
    have := checkRequest_of_not_wellFormed (o := o) hnot
    rw [hcheck] at this
    exact absurd this (by decide)
  have haddr : Addressed o buffer r.toGlobals := by
    by_contra hnot
    rw [(checkRequest_of_wellFormed hwf).2 hnot] at hcheck
    exact absurd hcheck (by decide)
  exact ⟨hwf, haddr, hmode⟩

/-- A request that is not valid is refused. -/
theorem processWith_refused (h : ¬ Valid o buffer length r.toGlobals) :
  processWith run o buffer length r
    = some (pack o (refusal o buffer length r.toGlobals, buffer, r))
  := by
  unfold processWith refusal
  dsimp only
  by_cases hcheck : checkRequest o buffer length r.toGlobals = cmdoorCheckOk
  · have hgate : modeAllows (buffer 2) r.toGlobals ≠ true := by
      rw [Ne, modeAllows_iff]
      exact fun hmode => h (valid_of_check hcheck hmode)
    unfold dispatch
    dsimp only
    rw [if_pos hcheck, if_pos hcheck, if_pos hgate]
    rfl
  · rw [if_neg hcheck, if_neg hcheck]
    rfl

/-- A request that is not valid leaves the state as it is and is answered with an error, or
not at all. -/
theorem processWith_of_not_valid (h : ¬ Valid o buffer length r.toGlobals) :
  ∃ flag buffer', processWith run o buffer length r = some (flag, buffer', r)
    ∧ flag ≠ cmdoorCheckOk
  := by
  refine ⟨_, _, processWith_refused run h, ?_⟩
  have herror := refusal_error o buffer length r.toGlobals
  rwa [packet_error herror]

end Process

/-! ### Only valid frames act -/

/-- Changing one byte of a frame that sums to zero, other than its length byte, makes the
sum test fail. -/
theorem sum_ne_zero_of_put {buffer : Mem} {i : ℕ} {b : UInt8}
    (hsum : byteSum buffer ((buffer 1).toNat + 2) = 0) (hi : i < (buffer 1).toNat + 2)
    (hlen : i ≠ 1) (hb : b ≠ buffer i) :
  byteSum (buffer.put i b) (((buffer.put i b) 1).toNat + 2) ≠ 0
  := by
  rw [Mem.put_of_ne (Ne.symm hlen), byteSum_put hi, hsum]
  intro hzero
  apply hb
  grind

/-- Only valid frames act: a request that is not valid changes nothing but the reply buffer
and is not acknowledged, and no valid frame stays one when a single byte other than the
length byte is changed. -/
theorem only_valid_frames_act :
  (∀ (r : Reader) (o : CmdOrigin) (buffer : Mem) (length : ℕ),
      ¬ Valid o buffer length r.toGlobals →
      ∃ flag buffer', processParamTable o buffer length r = some (flag, buffer', r)
        ∧ flag ≠ cmdoorCheckOk)
    ∧ ∀ (r : Reader) (o : CmdOrigin) (buffer : Mem) (length : ℕ),
      Valid o buffer length r.toGlobals →
      ∀ (i : ℕ) (b : UInt8), i ≤ (buffer 1).toNat + 1 → i ≠ 1 → b ≠ buffer i →
        byteSum (buffer.put i b) (((buffer.put i b) 1).toNat + 2) ≠ 0
  := by
  constructor
  · intro r o buffer length h
    exact processWith_of_not_valid _ h
  · intro r o buffer length h i b hi hlen hb
    exact sum_ne_zero_of_put h.sum (by omega) hlen hb

/-- The request `0x02` for the version, received by a new reader: it is valid, and no longer
so with its checksum changed. -/
theorem only_valid_frames_act_version :
  let buffer := Mem.ofList [0x40, 0x02, 0x02, 0xBC] fun _ => 0
  Valid .sourceFrom232 buffer 4 (powerOn .blank).toGlobals
    ∧ (∃ flag buffer', processParamTable .sourceFrom232 (buffer.put 3 0) 4 (powerOn .blank)
        = some (flag, buffer', powerOn .blank) ∧ flag ≠ cmdoorCheckOk)
    ∧ byteSum (buffer.put 3 0) (((buffer.put 3 0) 1).toNat + 2) ≠ 0
  := by
  intro buffer
  have hvalid : Valid .sourceFrom232 buffer 4 (powerOn .blank).toGlobals := by
    obtain ⟨htable, hdevice, -, -⟩ := powerOn_spec .blank
    refine ⟨⟨?_, by decide, by decide, by decide⟩, ?_, ?_⟩
    · rw [htable]
      decide
    · intro h
      cases h
    · intro _
      decide
  refine ⟨hvalid, ?_, ?_⟩
  · apply only_valid_frames_act.1
    intro h
    exact absurd h.sum (by decide)
  · exact only_valid_frames_act.2 _ _ _ _ hvalid 3 0 (by decide) (by decide) (by decide)

/-! ### Frames for another reader -/

/-- A request from RS485 for another reader is answered with the flag of the first check
that it fails, and the check of the address is one of them. -/
theorem processParamTable_foreign {r : Reader} {buffer : Mem} (length : ℕ)
    (haddr : buffer 3 ≠ r.gDevice.load Offset.address) :
  ∃ buffer', processParamTable .sourceFrom485 buffer length r
    = some (checkRequest .sourceFrom485 buffer length r.toGlobals, buffer', r)
  := by
  apply processWith_of_check
  by_cases hwf : WellFormed buffer length r.toGlobals
  · have hnot : ¬ Addressed .sourceFrom485 buffer r.toGlobals := fun h => haddr (h rfl)
    rw [(checkRequest_of_wellFormed hwf).2 hnot]
    decide
  · intro hok
    have := checkRequest_of_not_wellFormed (o := .sourceFrom485) hwf
    rw [hok] at this
    exact absurd this (by decide)

/-- A request from RS485 for another reader is left unanswered if and only if it is well
formed. -/
theorem silent_iff_wellFormed (r : Reader) (buffer : Mem) (length : ℕ)
    (haddr : buffer 3 ≠ r.gDevice.load Offset.address) :
  (∃ buffer' r', processParamTable .sourceFrom485 buffer length r
      = some (errorNoReturn, buffer', r'))
    ↔ WellFormed buffer length r.toGlobals
  := by
  obtain ⟨buffer', hp⟩ := processParamTable_foreign length haddr
  constructor
  · rintro ⟨buffer'', r'', hq⟩
    rw [hp, Option.some.injEq, Prod.mk.injEq] at hq
    by_contra hwf
    have hflag := checkRequest_of_not_wellFormed (o := .sourceFrom485) hwf
    rw [hq.1] at hflag
    exact absurd hflag (by decide)
  · intro hwf
    have hnot : ¬ Addressed .sourceFrom485 buffer r.toGlobals := fun h => haddr (h rfl)
    rw [(checkRequest_of_wellFormed hwf).2 hnot] at hp
    exact ⟨buffer', r, hp⟩

/-- The request `0x02` for the reader with address 2, seen by a new reader, which has
address 1: it is well formed, and left unanswered. -/
theorem silent_version_request :
  let buffer := Mem.ofList [0x40, 0x03, 0x02, 0x02, 0xB9] fun _ => 0
  WellFormed buffer 5 (powerOn .blank).toGlobals
    ∧ ∃ buffer' r', processParamTable .sourceFrom485 buffer 5 (powerOn .blank)
      = some (errorNoReturn, buffer', r')
  := by
  intro buffer
  obtain ⟨htable, hdevice, -, -⟩ := powerOn_spec .blank
  have hwf : WellFormed buffer 5 (powerOn .blank).toGlobals := by
    refine ⟨?_, by decide, by decide, by decide⟩
    rw [htable]
    decide
  refine ⟨hwf, (silent_iff_wellFormed _ _ _ ?_).mpr hwf⟩
  rw [hdevice]
  decide

/-- The same request damaged on the bus is answered by the reader it is not meant for. -/
theorem answers_damaged_foreign_frame :
  let buffer := Mem.ofList [0x40, 0x03, 0x02, 0x02, 0x00] fun _ => 0
  buffer 3 ≠ (powerOn .blank).gDevice.load Offset.address
    ∧ (∃ buffer' r', processParamTable .sourceFrom485 buffer 5 (powerOn .blank)
        = some (checksumWrong, buffer', r'))
    ∧ ¬ ∃ buffer' r', processParamTable .sourceFrom485 buffer 5 (powerOn .blank)
        = some (errorNoReturn, buffer', r')
  := by
  intro buffer
  obtain ⟨htable, hdevice, -, -⟩ := powerOn_spec .blank
  have haddr : buffer 3 ≠ (powerOn .blank).gDevice.load Offset.address := by
    rw [hdevice]
    decide
  have hcheck : checkRequest .sourceFrom485 buffer 5 (powerOn .blank).toGlobals
      = checksumWrong := by
    unfold checkRequest
    rw [htable]
    dsimp only
    rw [if_neg (by decide), if_neg (by decide), if_neg (by decide), if_pos (by decide)]
  obtain ⟨buffer', hp⟩ := processParamTable_foreign 5 haddr
  rw [hcheck] at hp
  refine ⟨haddr, ⟨buffer', _, hp⟩, ?_⟩
  rintro ⟨buffer'', r'', hq⟩
  rw [hp, Option.some.injEq, Prod.mk.injEq] at hq
  exact absurd hq.1 (by decide)

end UhfReader
