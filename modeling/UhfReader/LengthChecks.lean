import UhfReader.Overreads
import UhfReader.Radio.Parameters

/-!
# Length checks

`TagDataLenPurse` computes the length that a request with counts in it must have in variables of
eight bits.  The function of the request and `encodeR2000` read and write as many bytes as the
counts say, and `encodeR2000` copies them to a buffer of 255 bytes.  For the commands of
`countedCmds` the requests that pass the check are told apart into those that are read inside their
frames, written inside the buffer and as long as they say, and the others.
-/

open Memory Reading Stateful

namespace UhfReader

/-! ### The commands with counts -/

/-- The commands that write or select by an identifier whose length is checked, and those that
write bytes. -/
def countedCmds : List UInt8 := [0xEC, 0xEB, 0xEA, 0xE8, 0xE7, 0xF5, 0xF2]

/-- The length of a request without what its counts stand for. -/
def fixedLen (o : CmdOrigin) (cmd : UInt8) : ℕ :=
  let fixed :=
    match cmd with
    | 0xEC | 0xEB => 10
    | 0xEA => 9
    | 0xE8 | 0xE7 => 7
    | 0xF5 | 0xF2 => 12
    | _ => 0
  fixed + ((emptyLen o).toNat - 2)

/-- The words that `0xEB` writes. -/
def dataWords (p : Mem) : ℕ := (p (2 * (p 0).toNat + 3)).toNat

/-- The bytes that the counts of a request stand for: twice the words of the identifier and of the
data, or the bytes of the data. -/
def countedBytes (cmd : UInt8) (p : Mem) : ℕ :=
  match cmd with
  | 0xEC | 0xEA | 0xE8 | 0xE7 => 2 * (p 0).toNat
  | 0xEB => 2 * (p 0).toNat + 2 * dataWords p
  | 0xF5 | 0xF2 => (p 9).toNat
  | _ => 0

/-- The commands to the R2000 to which the function of a command gives its parameters.  The
function of `0xE7` sends `0xC5`, too, which has no parameters. -/
def passedOn (cmd : UInt8) : List UInt8 :=
  match cmd with
  | 0xEC => [0x85, 0x81]
  | 0xEB => [0x85, 0x82]
  | 0xEA => [0x85, 0x83]
  | 0xE8 => [0x85, 0x84]
  | 0xE7 => [0x86, 0xC5, 0xC2]
  | 0xF5 | 0xF2 => [0xB2]
  | _ => []

/-- The number of parameters that `0xE7` copies, for the number of words in an identifier. -/
def copyCount (words : UInt8) : ℕ :=
  let n := (words * 2 + 5).toNat
  if n > 35 then 35 else n

/-- What the function of a command reads itself: `0xE7` keeps a copy of its parameters, and `0xF5`
and `0xF2` reply with the data. -/
def ownReads (off : ℕ) (cmd : UInt8) : Query ℕ UInt8 (List UInt8) :=
  match cmd with
  | 0xE7 => do
    let words ← para off 0
    paras off 0 (copyCount words)
  | 0xF5 | 0xF2 => do
    let n ← para off 9
    paras off 10 n.toNat
  | _ => return []

/-- The places of the buffer that the function of a request and `encodeR2000` read: `run_readFields`
finds the fields of the frames there, and by `alike_reads` no other place matters. -/
def readPlaces (o : CmdOrigin) (b : Mem) (g : Globals) : List ℕ :=
  (passedOn (b 2)).flatMap (fun cmd => (readFields (paraOff o) cmd g.tmpAntenna).places b)
    ++ (ownReads (paraOff o) (b 2)).places b

/-- The places of `R2000.rec_buf.buf` that they write, which are those of the stores that build the
frames (`apply_frameStores`); `0xC2` is sent with the parameters or with the copy of them. -/
def writePlaces (o : CmdOrigin) (b : Mem) (g : Globals) : List ℕ :=
  (passedOn (b 2)).flatMap
      (fun cmd => writtenPlaces cmd (b (paraOff o - 1)) (b.shift (paraOff o)) g)
    ++ if b 2 = 0xE7 then writtenPlaces 0xC2 0 (tmpEpcdata (b.shift (paraOff o))) g else []

/-- The length check was sound: the request is read inside its frame and written inside the buffer
for the R2000, and its length is the one that its counts stand for. -/
structure ChecksSound (o : CmdOrigin) (b : Mem) : Prop where
  reads : ∀ g, ∀ i ∈ readPlaces o b g, i ≤ (b 1).toNat + 1
  writes : ∀ g, ∀ k ∈ writePlaces o b g, k < bufLen
  length : (b 1).toNat = fixedLen o (b 2) + countedBytes (b 2) (b.shift (paraOff o))

/-- The counts of a request are small enough: the sum does not wrap around, and the frame for the
R2000 fits into its buffer. -/
def CountsFit (o : CmdOrigin) (b : Mem) : Prop :=
  let p := b.shift (paraOff o)
  match b 2 with
  | 0xEC | 0xEA | 0xE8 => (p 0).toNat < 128
  | 0xEB =>
    (p 0).toNat + dataWords p ≤ 122
      ∧ dataWords p ≤ if p (2 * (p 0).toNat + 1) = 0x01 then 120 else 121
  | 0xE7 => (p 0).toNat ≤ 120
  | 0xF5 | 0xF2 => (p 9).toNat ≤ 240
  | _ => True

/-! ### What the functions read -/

variable {o : CmdOrigin} {b b' : Mem}

theorem tmpEpcdata_eq (p : Mem) :
  tmpEpcdata p = Mem.copy (fun _ => 0) 0 p (copyCount (p 0))
  := rfl

/-- No more than the identifier and the password is copied, and the length at least. -/
theorem copyCount_bounds (p : Mem) :
  0 < copyCount (p 0) ∧ copyCount (p 0) ≤ idBytes p + 5
  := by
  have hodd : (p 0 * 2 + 5).toNat % 2 = 1 := by
    simp only [UInt8.toNat_add, UInt8.toNat_mul, UInt8.reduceToNat]
    omega
  have hle : (p 0 * 2 + 5).toNat ≤ idBytes p + 5 := toNat_add_le (p 0 * 2) 5
  unfold copyCount
  dsimp only
  split
  · omega
  · omega

/-- The copy that `0xE7` keeps is what it reads itself. -/
theorem tmpEpcdata_agree (off : ℕ) (h : ∀ i ∈ (ownReads off 0xE7).places b, b' i = b i) :
  tmpEpcdata (b.shift off) = tmpEpcdata (b'.shift off)
  := by
  simp only [ownReads, Query.places_bind, List.mem_append, mem_places_para, mem_places_paras,
    run_para] at h
  have hzero : b'.shift off 0 = b.shift off 0 := h _ (.inl rfl)
  rw [tmpEpcdata_eq, tmpEpcdata_eq, hzero]
  apply Mem.copy_congr
  intro i hi
  exact (h (off + i) (.inr (by omega))).symm

/-- The byte before the parameters matters to `0x82` alone. -/
theorem encodeR2000From_before {cmd : UInt8} (hregion : cmd ≠ 0x78) (hwrite : cmd ≠ 0x82)
    (before before' : UInt8) (p : Mem) :
  encodeR2000From before cmd p = encodeR2000From before' cmd p
  := by
  apply encodeR2000From_congr hregion
  intro antennas r
  unfold buildFrame
  split
  case h_8 => exact absurd rfl hwrite
  all_goals rfl

/-- What agrees where the function of a request reads is the same to the R2000. -/
theorem send_agree (h : ∀ g, ∀ i ∈ readPlaces o b g, b' i = b i) {cmd : UInt8}
    (hpassed : cmd ∈ passedOn (b 2)) (hregion : cmd ≠ 0x78) :
  encodeR2000From (b (paraOff o - 1)) cmd (b.shift (paraOff o))
    = encodeR2000From (b' (paraOff o - 1)) cmd (b'.shift (paraOff o))
  := by
  apply encodeR2000From_agree hregion
  intro antennas i hi
  apply h { (powerOn .blank).toGlobals with tmpAntenna := antennas }
  apply List.mem_append_left
  exact List.mem_flatMap.mpr ⟨cmd, hpassed, hi⟩

/-- A command other than `0x82` is the same to the R2000. -/
theorem encode_agree (h : ∀ g, ∀ i ∈ readPlaces o b g, b' i = b i) {cmd : UInt8}
    (hpassed : cmd ∈ passedOn (b 2)) (hregion : cmd ≠ 0x78) (hwrite : cmd ≠ 0x82) :
  encodeR2000 cmd (b.shift (paraOff o)) = encodeR2000 cmd (b'.shift (paraOff o))
  := by
  unfold encodeR2000
  rw [encodeR2000From_before hregion hwrite 0 (b (paraOff o - 1)), send_agree h hpassed hregion,
    encodeR2000From_before hregion hwrite (b' (paraOff o - 1)) 0]

/-- What the function reads itself is the same. -/
theorem own_agree (h : ∀ g, ∀ i ∈ readPlaces o b g, b' i = b i) :
  ∀ i ∈ (ownReads (paraOff o) (b 2)).places b, b' i = b i
  := by
  intro i hi
  apply h (powerOn .blank).toGlobals
  exact List.mem_append_right _ hi

/-- The bytes that `0xF5` and `0xF2` write are the same. -/
theorem data_agree (off : ℕ) {cmd : UInt8} (hcmd : cmd = 0xF5 ∨ cmd = 0xF2)
    (h : ∀ i ∈ (ownReads off cmd).places b, b' i = b i) :
  b'.shift off 9 = b.shift off 9
    ∧ Mem.AgreeBelow (b.shift off 9).toNat ((b.shift off).shift 10) ((b'.shift off).shift 10)
  := by
  have hread : ∀ i, i = off + 9 ∨ off + 10 ≤ i ∧ i < off + 10 + (b.shift off 9).toNat →
      b' i = b i := by
    intro i hi
    apply h
    obtain rfl | rfl := hcmd
    · simp only [ownReads, Query.places_bind, List.mem_append, mem_places_para, mem_places_paras,
        run_para]
      exact hi
    · simp only [ownReads, Query.places_bind, List.mem_append, mem_places_para, mem_places_paras,
        run_para]
      exact hi
  refine ⟨hread _ (.inl rfl), ?_⟩
  intro i hi
  exact (hread (off + (10 + i)) (.inr (by omega))).symm

/-- The function of a request does the same for all buffers that agree where it reads. -/
theorem alike_reads {f : Handler} (hcmd : b 2 ∈ countedCmds) (hmem : (b 2, f) ∈ otherFunctions)
    (h : ∀ g, ∀ i ∈ readPlaces o b g, b' i = b i) :
  Alike (f.run (b (paraOff o - 1)) (b.shift (paraOff o)))
    (f.run (b' (paraOff o - 1)) (b'.shift (paraOff o)))
  := by
  have hsend := @send_agree _ _ _ h
  have hencode := @encode_agree _ _ _ h
  have hown := own_agree h
  have hf : ∀ x ∈ otherFunctions, x.1 ∈ countedCmds → x ∈ [(0xEC, .epc1g2ReadWordBlock),
      (0xEB, .epc1g2WriteWordBlock), (0xEA, .epc1g2WriteSetBlock), (0xE8, .destroyTag),
      (0xE7, .epc1g2WriteEPC), (0xF5, .writeByteBlock), (0xF2, .writeAByte)] := by decide
  have hlist := hf _ hmem hcmd
  generalize hb : b 2 = cmd at hlist hsend hencode hown
  simp only [List.mem_cons, List.not_mem_nil, or_false, Prod.mk.injEq] at hlist
  obtain ⟨rfl, rfl⟩ | ⟨rfl, rfl⟩ | ⟨rfl, rfl⟩ | ⟨rfl, rfl⟩ | ⟨rfl, rfl⟩ | ⟨rfl, rfl⟩
    | ⟨rfl, rfl⟩ := hlist
  · apply alike_epc1g2ReadWordBlock
    · exact hencode (by decide) (by decide) (by decide)
    · exact hencode (by decide) (by decide) (by decide)
  · intro g
    apply simAt_epc1g2WriteWordBlock _ _ (Nat.le_refl 255)
    · exact hencode (by decide) (by decide) (by decide)
    · intro _
      exact hsend (by decide) (by decide)
  · apply alike_epc1g2WriteSetBlock
    · exact hencode (by decide) (by decide) (by decide)
    · exact hencode (by decide) (by decide) (by decide)
  · apply alike_destroyTag
    · exact hencode (by decide) (by decide) (by decide)
    · exact hencode (by decide) (by decide) (by decide)
  · apply alike_epc1g2WriteEPC
    · exact tmpEpcdata_agree _ hown
    · exact hencode (by decide) (by decide) (by decide)
  · obtain ⟨hcount, hdata⟩ := data_agree _ (.inl rfl) hown
    exact alike_writeByteBlock (hencode (by decide) (by decide) (by decide)) hcount hdata
  · obtain ⟨hcount, hdata⟩ := data_agree _ (.inr rfl) hown
    exact alike_writeByteBlock (hencode (by decide) (by decide) (by decide)) hcount hdata

/-! ### How far the commands read and how much they write -/

/-- The number of parameters up to the last one that is read. -/
def readLength (cmd : UInt8) (p : Mem) : ℕ :=
  match cmd with
  | 0x85 => idBytes p + 1
  | 0x81 => idBytes p + 8
  | 0x82 => idBytes p + dataBytes p + 8
  | 0x83 => idBytes p + 7
  | 0x84 | 0xC2 => idBytes p + 5
  | 0x86 | 0xC5 => 0
  | 0xB2 => 10 + (p 9).toNat
  | _ => 0

/-- The number of fields in a frame; `0x82` puts the new length before a new identifier. -/
def fieldCount (cmd : UInt8) (p : Mem) : ℕ :=
  match cmd with
  | 0x85 => idBytes p + 2
  | 0x81 => 7
  | 0x82 => dataBytes p + if p (idBytes p + 1) = 0x01 then 9 else 7
  | 0x83 => 6
  | 0x84 => 4
  | 0xC2 => idBytes p + 9
  | 0x86 => 0
  | 0xC5 => 1
  | 0xB2 => 10 + (p 9).toNat
  | _ => 0

/-- The commands to the R2000 with parameters of a request whose length is checked. -/
def passedCmds : List UInt8 := [0x85, 0x81, 0x82, 0x83, 0x84, 0x86, 0xC5, 0xC2, 0xB2]

theorem mem_passedCmds {cmd c : UInt8} (hcmd : cmd ∈ countedCmds) (h : c ∈ passedOn cmd) :
  c ∈ passedCmds
  := by
  have hall : ∀ cmd ∈ countedCmds, ∀ c ∈ passedOn cmd, c ∈ passedCmds := by decide +kernel
  exact hall cmd hcmd c h

/-- What `0x82` reads ends with the password, when the places do not wrap around. -/
theorem readWrite_lt {off : ℕ} {b : Mem} {antennas : UInt8} (hid : idBytes (b.shift off) < 253)
    {i : ℕ} (hi : i ∈ (readFields off 0x82 antennas).places b) :
  i < off + (idBytes (b.shift off) + dataBytes (b.shift off) + 8)
  := by
  simp only [readFields, Query.places_bind, Query.places_pure, Query.places_cell, mem_places_para,
    mem_places_paras, run_para, List.mem_append, List.mem_singleton, List.not_mem_nil,
    or_false] at hi
  have hdata : (b.shift off (idBytes (b.shift off) + 3)).toNat * 2 = dataBytes (b.shift off) := rfl
  rw [toNat_idBytes_add_three hid] at hi
  obtain rfl | rfl | ⟨-, hlt⟩ | rfl | hrest := hi
  · omega
  · omega
  · omega
  · omega
  · have hlt := mem_places_readData hrest
    omega

/-- No parameter behind `readLength` is read. -/
theorem readFields_lt {off : ℕ} {b : Mem} {cmd antennas : UInt8} (hcmd : cmd ∈ passedCmds)
    (hid : cmd = 0x82 → idBytes (b.shift off) < 253) {i : ℕ}
    (hi : i ∈ (readFields off cmd antennas).places b) :
  i < off + readLength cmd (b.shift off)
  := by
  by_cases hwrite : cmd = 0x82
  · have hshort := hid hwrite
    subst hwrite
    exact readWrite_lt hshort hi
  · have hone := toNat_idBytes_add_one (b.shift off)
    have hwords : (b.shift off 0 * 2).toNat = idBytes (b.shift off) := rfl
    simp only [passedCmds, List.mem_cons, List.not_mem_nil, or_false, hwrite, false_or] at hcmd
    obtain rfl | rfl | rfl | rfl | rfl | rfl | rfl | rfl := hcmd
    all_goals simp only [readFields, Query.places_bind, Query.places_pure, mem_places_para,
      mem_places_paras, run_para, List.mem_append, List.not_mem_nil, or_false] at hi
    all_goals simp only [readLength]
    all_goals omega

/-- The bank of `0x82`, when its place does not wrap around. -/
theorem bank_eq {p : Mem} (hid : idBytes p < 253) (before : UInt8) :
  (if (p 0 * 2 + 3).toNat = 1 then before else p ((p 0 * 2 + 3).toNat - 2)) = p (idBytes p + 1)
  := by
  rw [toNat_idBytes_add_three hid, if_neg (by omega)]
  rfl

/-- The frame of a command has `fieldCount` fields. -/
theorem exists_fields {cmd : UInt8} (hcmd : cmd ∈ passedCmds) {p : Mem}
    (hid : cmd = 0x82 → idBytes p < 253) (before antennas : UInt8) :
  ∃ fields, frameFields cmd before p antennas = some fields ∧ fields.length = fieldCount cmd p
  := by
  have hwords : (p 0 * 2).toNat = idBytes p := rfl
  simp only [passedCmds, List.mem_cons, List.not_mem_nil, or_false] at hcmd
  obtain rfl | rfl | rfl | rfl | rfl | rfl | rfl | rfl | rfl := hcmd
  all_goals refine ⟨_, rfl, ?_⟩
  case inr.inr.inl =>
    have hshort := hid rfl
    rw [bank_eq hshort, toNat_idBytes_add_three hshort]
    simp only [fieldCount, dataBytes]
    split
    · simp only [List.length_append, List.length_cons, List.length_nil, Mem.length_take]
      omega
    · simp only [List.length_append, List.length_cons, List.length_nil, Mem.length_take]
      omega
  all_goals simp only [fieldCount, List.length_append, List.length_cons, List.length_nil,
    Mem.length_take]
  all_goals omega

/-- A command writes inside the buffer if and only if it has few enough fields. -/
theorem writes_iff {cmd : UInt8} (hcmd : cmd ∈ passedCmds) {p : Mem}
    (hid : cmd = 0x82 → idBytes p < 253) (before : UInt8) (g : Globals) :
  (∀ k ∈ writtenPlaces cmd before p g, k < bufLen) ↔ fieldCount cmd p ≤ 250
  := by
  obtain ⟨fields, hfields, hlength⟩ := exists_fields hcmd hid before g.tmpAntenna
  rw [writtenPlaces_lt_iff hfields, hlength]
  simp only [bufLen]
  omega

/-! ### Requests whose counts fit -/

/-- The copy that `0xE7` keeps starts with the length of the identifier. -/
theorem idBytes_tmpEpcdata (p : Mem) :
  idBytes (tmpEpcdata p) = idBytes p
  := by
  have hpos := (copyCount_bounds p).1
  have hfirst : tmpEpcdata p 0 = p 0 := if_pos ⟨Nat.le_refl 0, by rwa [Nat.zero_add]⟩
  unfold idBytes
  rw [hfirst]

theorem idBytes_eq (p : Mem) :
  idBytes p = 2 * (p 0).toNat % 256
  := by
  simp only [idBytes, UInt8.toNat_mul, UInt8.reduceToNat]
  omega

/-- What a function reads itself it gives to the R2000, too. -/
theorem ownReads_lt {off : ℕ} {cmd : UInt8} {i : ℕ} (hi : i ∈ (ownReads off cmd).places b) :
  ∃ c ∈ passedOn cmd, i < off + readLength c (b.shift off)
  := by
  unfold ownReads at hi
  split at hi
  · refine ⟨0xC2, by decide, ?_⟩
    have hle := (copyCount_bounds (b.shift off)).2
    simp only [Query.places_bind, mem_places_para, mem_places_paras, run_para,
      List.mem_append] at hi
    simp only [readLength]
    omega
  · refine ⟨0xB2, by decide, ?_⟩
    simp only [Query.places_bind, mem_places_para, mem_places_paras, run_para,
      List.mem_append] at hi
    simp only [readLength]
    omega
  · refine ⟨0xB2, by decide, ?_⟩
    simp only [Query.places_bind, mem_places_para, mem_places_paras, run_para,
      List.mem_append] at hi
    simp only [readLength]
    omega
  · cases hi

section

variable (hcmd : b 2 ∈ countedCmds)
  (hid : b 2 = 0xEB → idBytes (b.shift (paraOff o)) < 253)

include hcmd hid

theorem short_of_write {c : UInt8} (hc : c ∈ passedOn (b 2)) :
  c = 0x82 → idBytes (b.shift (paraOff o)) < 253
  := by
  have hall : ∀ cmd ∈ countedCmds, 0x82 ∈ passedOn cmd → cmd = 0xEB := by decide +kernel
  rintro rfl
  exact hid (hall _ hcmd hc)

/-- A request is read inside its frame when the frame is long enough for what is passed on. -/
theorem reads_inside
    (h : ∀ c ∈ passedOn (b 2), paraOff o + readLength c (b.shift (paraOff o)) ≤ (b 1).toNat + 2)
    (g : Globals) :
  ∀ i ∈ readPlaces o b g, i ≤ (b 1).toNat + 1
  := by
  intro i hi
  obtain hpassed | hown := List.mem_append.mp hi
  · obtain ⟨c, hc, hread⟩ := List.mem_flatMap.mp hpassed
    have hlt := readFields_lt (mem_passedCmds hcmd hc) (short_of_write hcmd hid hc) hread
    have := h c hc
    omega
  · obtain ⟨c, hc, hlt⟩ := ownReads_lt hown
    have := h c hc
    omega

/-- A request is written inside the buffer if and only if what is passed on has few enough
fields. -/
theorem writes_inside_iff :
  (∀ g, ∀ k ∈ writePlaces o b g, k < bufLen)
    ↔ ∀ c ∈ passedOn (b 2), fieldCount c (b.shift (paraOff o)) ≤ 250
  := by
  constructor
  · intro h c hc
    apply (writes_iff (mem_passedCmds hcmd hc) (short_of_write hcmd hid hc)
      (b (paraOff o - 1)) (powerOn .blank).toGlobals).mp
    intro k hk
    exact h _ k (List.mem_append_left _ (List.mem_flatMap.mpr ⟨c, hc, hk⟩))
  · intro h g k hk
    obtain hpassed | hcopy := List.mem_append.mp hk
    · obtain ⟨c, hc, hwrite⟩ := List.mem_flatMap.mp hpassed
      exact (writes_iff (mem_passedCmds hcmd hc) (short_of_write hcmd hid hc) _ _).mpr (h c hc) k
        hwrite
    · split at hcopy
      · rename_i hepc
        have hfew := h 0xC2 (by rw [hepc]; decide)
        apply (writes_iff (by decide) (fun heq => absurd heq (by decide)) 0 g).mpr _ k hcopy
        simpa only [fieldCount, idBytes_tmpEpcdata] using hfew
      · cases hcopy

/-- What makes the length check sound. -/
theorem checksSound_iff_of_reads
    (h : ∀ c ∈ passedOn (b 2), paraOff o + readLength c (b.shift (paraOff o)) ≤ (b 1).toNat + 2) :
  ChecksSound o b
    ↔ (∀ c ∈ passedOn (b 2), fieldCount c (b.shift (paraOff o)) ≤ 250)
      ∧ (b 1).toNat = fixedLen o (b 2) + countedBytes (b 2) (b.shift (paraOff o))
  := by
  rw [← writes_inside_iff hcmd hid]
  constructor
  · rintro ⟨-, hwrites, hlength⟩
    exact ⟨hwrites, hlength⟩
  · rintro ⟨hwrites, hlength⟩
    exact ⟨reads_inside hcmd hid h, hwrites, hlength⟩

end

/-- What stands behind a request whose length check was sound has no effect. -/
theorem ChecksSound.alike (h : ChecksSound o b) {f : Handler} (hcmd : b 2 ∈ countedCmds)
    (hmem : (b 2, f) ∈ otherFunctions) (hsame : ∀ i ≤ (b 1).toNat + 1, b' i = b i) :
  Alike (f.run (b (paraOff o - 1)) (b.shift (paraOff o)))
    (f.run (b' (paraOff o - 1)) (b'.shift (paraOff o)))
  := alike_reads hcmd hmem fun g i hi => hsame i (h.reads g i hi)

/-- The words that `0xEB` writes are counted behind the identifier. -/
theorem dataBytes_eq {p : Mem} (h : (p 0).toNat < 128) :
  dataBytes p = 2 * dataWords p
  := by
  have hid := idBytes_eq p
  rw [Nat.mod_eq_of_lt (by omega)] at hid
  unfold dataBytes dataWords
  rw [hid, Nat.mul_comm]

/-- A request `0xEB` is as long as it says if and only if the sum does not wrap around. -/
theorem checks_write_iff (hb : b 2 = 0xEB) (hok : tagDataLenPurse o b = cmdoorCheckOk) :
  ChecksSound o b ↔ CountsFit o b
  := by
  have hlen := tagDataLenPurse_ok_iff.mp hok
  rw [hb] at hlen
  have hpurse := hlen _ (tagDataLen_write _)
  have hempty := toNat_emptyLen_succ o
  have hoff := two_lt_paraOff o
  have hbyte := (b 1).toNat_lt
  have hid := idBytes_eq (b.shift (paraOff o))
  by_cases hsum : (b.shift (paraOff o) 0).toNat + dataWords (b.shift (paraOff o)) ≤ 122
  · -- nothing wraps around
    have hwords : idBytes (b.shift (paraOff o)) = 2 * (b.shift (paraOff o) 0).toNat := by omega
    have hdata := dataBytes_eq (p := b.shift (paraOff o)) (by omega)
    have hcmd : b 2 ∈ countedCmds := by
      rw [hb]
      decide
    rw [checksSound_iff_of_reads hcmd fun _ => by omega]
    · simp only [hb, passedOn, fixedLen, countedBytes, CountsFit, List.mem_cons, List.not_mem_nil,
        or_false, forall_eq_or_imp, forall_eq, fieldCount]
      rw [hwords]
      split
      · omega
      · omega
    · simp only [hb, passedOn, List.mem_cons, List.not_mem_nil, or_false, forall_eq_or_imp,
        forall_eq, readLength]
      omega
  · constructor
    · intro hsound
      have hlength := hsound.length
      simp only [hb, fixedLen, countedBytes] at hlength
      omega
    · intro hfit
      simp only [CountsFit, hb] at hfit
      exact absurd hfit.1 hsum

/-- The commands other than `0xEB` count one thing, and what passes the check of its length is as
long as the parameters that are read. -/
theorem reads_fit (hcmd : b 2 ∈ countedCmds) (hwrite : b 2 ≠ 0xEB)
    (hok : tagDataLenPurse o b = cmdoorCheckOk) :
  ∀ c ∈ passedOn (b 2), paraOff o + readLength c (b.shift (paraOff o)) ≤ (b 1).toNat + 2
  := by
  have hlen := tagDataLenPurse_ok_iff.mp hok
  have hempty := toNat_emptyLen_succ o
  have hoff := two_lt_paraOff o
  have hwords : (b.shift (paraOff o) 0 * 2).toNat = idBytes (b.shift (paraOff o)) := rfl
  simp only [countedCmds, List.mem_cons, List.not_mem_nil, or_false, hwrite, false_or] at hcmd
  obtain hb | hb | hb | hb | hb | hb := hcmd
  all_goals
    rw [hb] at hlen ⊢
    have hlength := hlen _ rfl
    simp only [passedOn, List.mem_cons, List.not_mem_nil, or_false, forall_eq_or_imp, forall_eq,
      readLength]
    omega

/-- The length checks of the commands with counts are sound for a request that passes them if and
only if its counts are small enough. -/
theorem length_checks_iff (o : CmdOrigin) (b : Mem) (hcmd : b 2 ∈ countedCmds)
    (hok : tagDataLenPurse o b = cmdoorCheckOk) :
  ChecksSound o b ↔ CountsFit o b
  := by
  by_cases hwrite : b 2 = 0xEB
  · exact checks_write_iff hwrite hok
  rw [checksSound_iff_of_reads hcmd (fun heq => absurd heq hwrite) (reads_fit hcmd hwrite hok)]
  have hlen := tagDataLenPurse_ok_iff.mp hok
  have hbyte := (b 1).toNat_lt
  have hid := idBytes_eq (b.shift (paraOff o))
  have hwords : (b.shift (paraOff o) 0 * 2).toNat = idBytes (b.shift (paraOff o)) := rfl
  simp only [countedCmds, List.mem_cons, List.not_mem_nil, or_false, hwrite, false_or] at hcmd
  obtain hb | hb | hb | hb | hb | hb := hcmd
  all_goals
    rw [hb] at hlen
    have hlength := hlen _ rfl
    simp only [hb, passedOn, fixedLen, countedBytes, CountsFit, List.mem_cons, List.not_mem_nil,
      or_false, forall_eq_or_imp, forall_eq, fieldCount]
    omega

/-- The RS232 request `0xEC` for two words of the tag with an identifier of one word. -/
def wordRequest : Mem :=
  Mem.ofList [0x40, 0x0C, 0xEC, 1, 0x11, 0x22, 0, 0, 2, 0, 0, 0, 0, 0x92] fun _ => 0

/-- It is read inside its frame. -/
theorem length_checks_read :
  ChecksSound .sourceFrom232 wordRequest
  := by
  apply (length_checks_iff .sourceFrom232 wordRequest (by decide) (by decide)).mpr
  show (wordRequest 3).toNat < 128
  decide

/-- The RS232 request `0xEB` for 128 words of data, though it has ten bytes after the length. -/
def wrappedRequest : Mem :=
  Mem.ofList [0x40, 0x0A, 0xEB, 0, 3, 0, 128, 0, 0, 0, 0, 0x48] fun _ => 0

/-- The request passes the check.  It is read far behind its frame, written behind the buffer, and
not as long as it says. -/
theorem length_wraps_around :
  wrappedRequest 2 ∈ countedCmds ∧ tagDataLenPurse .sourceFrom232 wrappedRequest = cmdoorCheckOk
    ∧ ¬ (∀ g, ∀ i ∈ readPlaces .sourceFrom232 wrappedRequest g, i ≤ (wrappedRequest 1).toNat + 1)
    ∧ ¬ (∀ g, ∀ k ∈ writePlaces .sourceFrom232 wrappedRequest g, k < bufLen)
    ∧ ¬ ChecksSound .sourceFrom232 wrappedRequest
  := by
  refine ⟨by decide, by decide, ?_, ?_, ?_⟩
  · intro hreads
    have hread := hreads (powerOn .blank).toGlobals 200 (by decide +kernel)
    exact absurd hread (by decide)
  · rw [writes_inside_iff (by decide) (by decide)]
    decide +kernel
  · intro hsound
    exact absurd hsound.length (by decide)

end UhfReader
