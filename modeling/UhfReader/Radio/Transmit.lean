import UhfReader.Boot
import UhfReader.Lib.Run
import UhfReader.Radio.Link

/-!
# Sending a frame to the R2000, store by store

`encodeR2000` builds the frame it sends in the receive buffer, while `UART4_IRQHandler` may
store incoming bytes there.  `Transmission` is the part of `encodeR2000` up to the end of
`UART4Send` as a list of operations, one for each store and for each byte transmitted; a
received byte can come between any two of them.

Run without a byte coming in, the operations are `sendCmd` (`reaches_sendCmd`), and the bytes
transmitted are the frame of the command, `frameBytes`.  The same holds in every run in which
the receiver drops the bytes that come in.
-/

open Memory

namespace UhfReader

/-! ### The frame of a command -/

/-- The bytes of the frame of a command between its code and its checksum.  There is no frame
for a command that `encodeR2000` has no case for, and none for a region that the case `0x78`
does not know. -/
def frameFields (cmd before : UInt8) (p : Mem) (antennas : UInt8) : Option (List UInt8) :=
  match cmd with
  | 0x8A =>
    let slot (i : UInt8) : List UInt8 := [if antennas &&& (1 <<< i) ≠ 0 then i else 100, 1]
    some (slot 0 ++ slot 1 ++ slot 2 ++ slot 3 ++ [0, 1])
  | 0x72 => some []
  | 0x74 => some [SR2000TransData.antennaNumber (p 0)]
  | 0x76 => some [p 0]
  | 0x78 =>
    if p 0 = 1 ∨ p 0 = 2 ∨ p 0 = 3 then some [p 0, p 1, p 2]
    else if p 0 = 4 then some [p 0, p 1, p 2, p 3, p 4, p 5]
    else none
  | 0x80 => some [p 0]
  | 0x81 => some ((p.shift (p 0 * 2 + 1).toNat).take 7)
  | 0x82 =>
    let len := (p 0 * 2 + 3).toNat
    let n := p len
    let bank := if len = 1 then before else p (len - 2)
    some ((p.shift (len + n.toNat * 2 + 1)).take 4
      ++ ([bank] ++ ((if bank = 0x01 then [1, n + 1, n * 8, 0] else [p (len - 1), n])
        ++ (p.shift (len + 1)).take (n.toNat * 2))))
  | 0x83 =>
    let len := (p 0 * 2 + 1).toNat
    some ((p.shift (len + 2)).take 4 ++ [5 - p len, SR2000TransData.lockAction (p (len + 1))])
  | 0x84 => some ((p.shift (p 0 * 2 + 1).toNat).take 4)
  | 0x85 => some ([0, p 0 * 2] ++ (p.shift 1).take (p 0 * 2).toNat)
  | 0x86 => some []
  | 0xC5 => some [1]
  | 0xC2 =>
    let len := (p 0 * 2).toNat
    some ((p.shift (len + 1)).take 4 ++ ([1, 1, p 0 + 1, p 0 * 8, 0] ++ (p.shift 1).take len))
  | 0xC1 => some [p 0, p 1, p 2, 0, 0, 0, 0]
  | 0x91 => some []
  | 0xB0 => some []
  | 0xB1 => some (p.take 10)
  | 0xB2 => some (p.take 10 ++ (p.shift 10).take (p 9).toNat)
  | 0xB3 => some (p.take 9)
  | 0xB4 => some (p.take 9)
  | 0xB5 => some (p.take 9)
  | _ => none

/-- The header, the length, the address and the code of a frame, and its fields. -/
def frameHead (cmd : UInt8) (fields : List UInt8) : List UInt8 :=
  [0xA0, UInt8.ofNat (fields.length + 3), 0xFF, wireCmd cmd] ++ fields

/-- The frame with the given fields. -/
def frameBytes (cmd : UInt8) (fields : List UInt8) : List UInt8 :=
  frameHead cmd fields ++ [~~~ (frameHead cmd fields).sum + 1]

/-- The command has a frame, of at most `n` bytes. -/
def FrameFits (n : ℕ) (cmd before : UInt8) (p : Mem) (antennas : UInt8) : Prop :=
  ∃ fields, frameFields cmd before p antennas = some fields ∧ fields.length + 5 ≤ n

namespace SR2000TransData

variable {r : SR2000TransData}

/-! ### Stores -/

theorem store_inside {i : ℕ} (h : i < 255) (b : UInt8) :
  r.store i b = r.withBuf (r.buf.put i b)
  := by
  unfold store
  rw [if_pos h]
  rfl

theorem load_inside {i : ℕ} (h : i < 255) :
  r.load i = r.buf.load i
  := by
  unfold load
  rw [if_pos h]

theorem load_store {i j : ℕ} (hi : i < 255) (hj : j < 255) (b : UInt8) :
  (r.store i b).load j = if j = i then b else r.load j
  := by
  rw [store_inside hi, load_inside hj, load_inside hj]
  exact Block.load_put hi

theorem store_store {i : ℕ} (h : i < 255) (a b : UInt8) :
  (r.store i a).store i b = r.store i b
  := by
  rw [store_inside h, store_inside h, store_inside h]
  exact congrArg r.withBuf (r.buf.put_put i a b)

theorem store_comm {i j : ℕ} (hi : i < 255) (hj : j < 255) (hne : i ≠ j) (a b : UInt8) :
  (r.store i a).store j b = (r.store j b).store i a
  := by
  rw [store_inside hi, store_inside hj, store_inside hj, store_inside hi]
  exact congrArg r.withBuf (r.buf.put_comm hne a b)

theorem storeList_append (off : ℕ) (l l' : List UInt8) (r : SR2000TransData) :
  r.storeList off (l ++ l') = (r.storeList off l).storeList (off + l.length) l'
  := by
  induction l generalizing r off with
  | nil => rfl
  | cons b l ih =>
    simp only [List.cons_append, storeList, List.length_cons]
    rw [ih, Nat.add_assoc, Nat.add_comm 1]

theorem memcpy_eq_storeList (off : ℕ) (src : Mem) (n : ℕ) (r : SR2000TransData) :
  r.memcpy off src n = r.storeList off (src.take n)
  := by
  induction n with
  | zero => rfl
  | succ n ih =>
    rw [memcpy, ih]
    unfold Mem.take
    rw [List.range_succ, List.map_append, storeList_append, List.length_map, List.length_range]
    rfl

theorem storeList_store_comm {i off : ℕ} (l : List UInt8) (hi : i < off)
    (hoff : off + l.length ≤ 255) (b : UInt8) (r : SR2000TransData) :
  (r.storeList off l).store i b = (r.store i b).storeList off l
  := by
  induction l generalizing r off with
  | nil => rfl
  | cons c l ih =>
    rw [List.length_cons] at hoff
    simp only [storeList]
    rw [ih (by omega) (by omega), store_comm (by omega) (by omega) (by omega)]

/-- A list stored inside the buffer changes the buffer only. -/
theorem storeList_inside {off : ℕ} (l : List UInt8) (h : off + l.length ≤ 255)
    (r : SR2000TransData) :
  ∃ buf, r.storeList off l = r.withBuf buf
    ∧ (∀ i < off, buf.load i = r.buf.load i)
    ∧ ∀ i (hi : i < l.length), buf.load (off + i) = l.get ⟨i, hi⟩
  := by
  induction l generalizing r off with
  | nil =>
    refine ⟨r.buf, rfl, fun _ _ => rfl, ?_⟩
    intro i hi
    exact absurd hi (Nat.not_lt_zero i)
  | cons b l ih =>
    rw [List.length_cons] at h
    have hrest : off + 1 + l.length ≤ 255 := by omega
    obtain ⟨buf, heq, hbelow, hinside⟩ := ih hrest (r.store off b)
    rw [store_inside (by omega)] at heq hbelow
    refine ⟨buf, ?_, ?_, ?_⟩
    · rw [storeList, store_inside (by omega), heq]
      rfl
    · intro i hi
      rw [hbelow i (by omega)]
      refine (Block.load_put (by omega)).trans ?_
      rw [if_neg (by omega)]
    · intro i hi
      cases i with
      | zero =>
        rw [Nat.add_zero, hbelow off (by omega)]
        refine (Block.load_put (by omega)).trans ?_
        rw [if_pos rfl]
        rfl
      | succ i =>
        have hnext := hinside i (by simpa using hi)
        rw [Nat.add_assoc, Nat.add_comm 1] at hnext
        exact hnext

end SR2000TransData

/-- The length byte of a frame with `n` words of data. -/
theorem ofNat_add_words (k : ℕ) (n : UInt8) :
  UInt8.ofNat (k + n.toNat * 2) = UInt8.ofNat k + n * 2
  := by
  rw [UInt8.ofNat_add, UInt8.ofNat_mul, UInt8.ofNat_toNat]
  rfl

/-- The length byte of a frame with `n` bytes of data. -/
theorem ofNat_length_take (l : List UInt8) (m : Mem) (n : UInt8) :
  UInt8.ofNat ((l ++ m.take n.toNat).length + 3) = UInt8.ofNat (l.length + 3) + n
  := by
  rw [List.length_append, Mem.length_take, Nat.add_right_comm, UInt8.ofNat_add,
    UInt8.ofNat_toNat]

/-- `0x82`: the length byte of a write to the EPC bank is stored twice. -/
theorem buildWrite_eq {before : UInt8} {p : Mem} (antennas : UInt8) {fields : List UInt8}
    (h : frameFields 0x82 before p antennas = some fields) (r : SR2000TransData) :
  r.buildWrite before p = (r.store 1 (UInt8.ofNat (fields.length + 3))).storeList 4 fields
  := by
  simp only [frameFields, Option.some.injEq] at h
  unfold SR2000TransData.buildWrite
  dsimp only at h ⊢
  generalize (p 0 * 2 + 3).toNat = len at h ⊢
  generalize (if len = 1 then before else p (len - 2)) = bank at h ⊢
  have hpass : (List.range 4).map (fun k => p (len + (p len).toNat * 2 + 1 + k))
      = (p.shift (len + (p len).toNat * 2 + 1)).take 4 := rfl
  rw [hpass]
  generalize hpassword : (p.shift (len + (p len).toNat * 2 + 1)).take 4 = password at h ⊢
  have hfour : password.length = 4 := by
    rw [← hpassword, Mem.length_take]
  generalize hdata : (p.shift (len + 1)).take ((p len).toNat * 2) = data at h
  have hwords : data.length = (p len).toNat * 2 := by
    rw [← hdata, Mem.length_take]
  split
  · rename_i hbank
    rw [if_pos hbank] at h
    have hlen : UInt8.ofNat (fields.length + 3) = 10 + p len * 2 + 2 := by
      have : fields.length + 3 = 12 + (p len).toNat * 2 := by
        rw [← h]
        simp only [List.length_append, List.length_cons, List.length_nil, hfour, hwords]
        omega
      rw [this, ofNat_add_words]
      grind
    rw [hlen, ← h, SR2000TransData.memcpy_eq_storeList, hdata,
      SR2000TransData.store_comm (by decide) (by decide) (by decide),
      SR2000TransData.storeList_store_comm _ (by decide) (by rw [hfour]; decide),
      SR2000TransData.store_store (by decide),
      SR2000TransData.storeList_append, hfour]
    rfl
  · rename_i hbank
    rw [if_neg hbank] at h
    have hlen : UInt8.ofNat (fields.length + 3) = 10 + p len * 2 := by
      have : fields.length + 3 = 10 + (p len).toNat * 2 := by
        rw [← h]
        simp only [List.length_append, List.length_cons, List.length_nil, hfour, hwords]
        omega
      rw [this, ofNat_add_words]
      rfl
    rw [hlen, ← h, SR2000TransData.memcpy_eq_storeList, hdata,
      SR2000TransData.storeList_append, hfour]
    rfl

/-- A frame is built by storing its length and its fields. -/
theorem buildFrame_eq {cmd before : UInt8} {p : Mem} {antennas : UInt8} {fields : List UInt8}
    (h : frameFields cmd before p antennas = some fields) (r : SR2000TransData) :
  buildFrame cmd before p antennas r
    = (r.store 1 (UInt8.ofNat (fields.length + 3))).storeList 4 fields
  := by
  unfold frameFields at h
  split at h
  all_goals simp only [buildFrame]
  · cases h
    rfl
  · cases h
    rfl
  · cases h
    rfl
  · cases h
    rfl
  · unfold SR2000TransData.buildFrequency
    split at h
    · cases h
      rw [if_pos ‹_›]
      rfl
    · rw [if_neg ‹_›]
      split at h
      · cases h
        rw [if_pos ‹_›]
        rfl
      · cases h
  · cases h
    rfl
  · cases h
    rfl
  · exact buildWrite_eq antennas h r
  · cases h
    rfl
  · cases h
    rfl
  · cases h
    rw [ofNat_length_take, SR2000TransData.storeList_append,
      SR2000TransData.memcpy_eq_storeList]
    rfl
  · cases h
    rfl
  · cases h
    rfl
  · cases h
    rw [← List.append_assoc, ofNat_length_take, SR2000TransData.storeList_append,
      SR2000TransData.memcpy_eq_storeList]
    have hlen : 10 + p 0 * 2 + 2 = UInt8.ofNat (9 + 3) + p 0 * 2 := by
      have : UInt8.ofNat (9 + 3) = 10 + 2 := rfl
      rw [this]
      grind
    rw [hlen]
    rfl
  · cases h
    rfl
  · cases h
    rfl
  · cases h
    rfl
  · cases h
    exact SR2000TransData.memcpy_eq_storeList 4 p 10 _
  · cases h
    rw [ofNat_length_take, SR2000TransData.storeList_append, Mem.length_take,
      SR2000TransData.memcpy_eq_storeList]
    unfold SR2000TransData.build6B
    rw [SR2000TransData.memcpy_eq_storeList]
    rfl
  · cases h
    exact SR2000TransData.memcpy_eq_storeList 4 p 9 _
  · cases h
    exact SR2000TransData.memcpy_eq_storeList 4 p 9 _
  · cases h
    exact SR2000TransData.memcpy_eq_storeList 4 p 9 _
  · cases h

/-- The link with the frame of a command in its buffer, up to the checksum. -/
def builtLink (cmd before : UInt8) (p : Mem) (antennas : UInt8) (r : SR2000TransData) :
    SR2000TransData :=
  buildFrame cmd before p antennas (((r.store 0 0xA0).store 2 0xFF).store 3 (wireCmd cmd))

/-- The checksum stored behind the frame in the buffer. -/
def SR2000TransData.close (r : SR2000TransData) : SR2000TransData :=
  r.store (r.load 1 + 1).toNat (setChecksum r.load (r.load 1 + 1).toNat)

theorem builtLink_eq {cmd before : UInt8} {p : Mem} {antennas : UInt8} {fields : List UInt8}
    (h : frameFields cmd before p antennas = some fields) (r : SR2000TransData) :
  builtLink cmd before p antennas r = r.storeList 0 (frameHead cmd fields)
  := by
  unfold builtLink frameHead
  rw [buildFrame_eq h, SR2000TransData.store_comm (i := 3) (by decide) (by decide) (by decide),
    SR2000TransData.store_comm (i := 2) (by decide) (by decide) (by decide),
    SR2000TransData.storeList_append]
  rfl

/-- The first bytes of the buffer after a list was stored there. -/
theorem take_storeList {l : List UInt8} (h : l.length ≤ 255) (r : SR2000TransData) :
  (r.storeList 0 l).load.take l.length = l
  := by
  have hfits : 0 + l.length ≤ 255 := by omega
  obtain ⟨buf, heq, -, hinside⟩ := r.storeList_inside l hfits
  apply List.ext_get
  · exact Mem.length_take _ _
  · intro i hi hl
    have hload := hinside i hl
    rw [Nat.zero_add] at hload
    have hinto : i < 255 := by omega
    have hbuf : (r.withBuf buf).load i = buf.load i :=
      SR2000TransData.load_inside (r := r.withBuf buf) hinto
    simp only [heq, Mem.take, List.get_eq_getElem, List.getElem_map, List.getElem_range]
    exact hbuf.trans hload

theorem length_frameHead (cmd : UInt8) (fields : List UInt8) :
  (frameHead cmd fields).length = fields.length + 4
  := by
  simp [frameHead]

theorem length_frameBytes (cmd : UInt8) (fields : List UInt8) :
  (frameBytes cmd fields).length = fields.length + 5
  := by
  simp [frameBytes, frameHead]

/-- The sum of the first bytes of the buffer after a list was stored there. -/
theorem byteSum_storeList {l : List UInt8} (h : l.length ≤ 255) (r : SR2000TransData) :
  byteSum (r.storeList 0 l).load l.length = l.sum
  := by
  rw [← byteSum_ofList l fun _ => 0]
  apply byteSum_congr
  intro i hi
  have htake := take_storeList h r
  rw [Mem.ofList_of_lt hi]
  have hget := List.getElem_of_eq htake (i := i) (by rwa [Mem.length_take])
  simpa [Mem.take] using hget

/-- The length byte of a frame in the buffer. -/
theorem load_builtLink {cmd before : UInt8} {p : Mem} {antennas : UInt8} {fields : List UInt8}
    (h : frameFields cmd before p antennas = some fields) (hfit : fields.length + 4 ≤ 255)
    (r : SR2000TransData) :
  (builtLink cmd before p antennas r).load 1 = UInt8.ofNat (fields.length + 3)
  := by
  have hlength := length_frameHead cmd fields
  have htake := take_storeList (l := frameHead cmd fields) (by omega) r
  rw [← builtLink_eq h] at htake
  have hget := List.getElem_of_eq htake (i := 1) (by rw [Mem.length_take]; omega)
  simpa [Mem.take, frameHead] using hget

/-- A frame that fits is closed with its checksum. -/
theorem close_builtLink {cmd before : UInt8} {p : Mem} {antennas : UInt8} {fields : List UInt8}
    (h : frameFields cmd before p antennas = some fields) (hfit : fields.length + 5 ≤ 255)
    (r : SR2000TransData) :
  ((builtLink cmd before p antennas r).load 1 + 1).toNat = fields.length + 4
    ∧ (builtLink cmd before p antennas r).close = r.storeList 0 (frameBytes cmd fields)
  := by
  have hlength := length_frameHead cmd fields
  have hlen : ((builtLink cmd before p antennas r).load 1 + 1).toNat = fields.length + 4 := by
    rw [load_builtLink h (by omega), UInt8.toNat_add, UInt8.toNat_ofNat']
    have : (1 : UInt8).toNat = 1 := rfl
    omega
  refine ⟨hlen, ?_⟩
  unfold SR2000TransData.close
  rw [hlen, builtLink_eq h, frameBytes, SR2000TransData.storeList_append, Nat.zero_add, hlength]
  unfold setChecksum
  rw [← hlength, byteSum_storeList (by omega)]
  rfl

/-- A frame that fits leaves the index alone, and a length byte of at most 253 in the buffer. -/
theorem sendCmd_index {before cmd : UInt8} {p : Mem} {g : Globals}
    (hfit : FrameFits bufLen cmd before p g.tmpAntenna) :
  (sendCmd cmd before p g).r2000.index = g.r2000.index
    ∧ ((sendCmd cmd before p g).r2000.buf.load 1).toNat ≤ 253
  := by
  obtain ⟨fields, hfields, hlength⟩ := hfit
  simp only [bufLen] at hlength
  have hlist := length_frameBytes cmd fields
  have hfits : 0 + (frameBytes cmd fields).length ≤ 255 := by omega
  obtain ⟨-, hclose⟩ := close_builtLink hfields (by omega) g.r2000
  obtain ⟨buf, heq, -, hinside⟩ := g.r2000.storeList_inside (frameBytes cmd fields) hfits
  rw [heq] at hclose
  have hlink : (sendCmd cmd before p g).r2000
      = closeFrame cmd (builtLink cmd before p g.tmpAntenna g.r2000) := (sendCmd_r2000 _ _ _ _).1
  have hframe : closeFrame cmd (builtLink cmd before p g.tmpAntenna g.r2000)
      = { (builtLink cmd before p g.tmpAntenna g.r2000).close with
          setMark := 0
          sendTimer := (builtLink cmd before p g.tmpAntenna g.r2000).close.sendTimer.start
            (sendTime cmd) } := rfl
  rw [hlink, hframe, hclose]
  refine ⟨rfl, ?_⟩
  have hone := hinside 1 (by omega)
  rw [Nat.zero_add] at hone
  have hbyte : (frameBytes cmd fields).get ⟨1, by omega⟩ = UInt8.ofNat (fields.length + 3) := rfl
  rw [hbyte] at hone
  have hload : (g.r2000.withBuf buf).buf.load 1 = UInt8.ofNat (fields.length + 3) := hone
  dsimp only
  rw [hload, UInt8.toNat_ofNat']
  omega

/-! ### Operations -/

/-- A store `R2000.rec_buf.buf[i] = value`.  The value may be computed from the buffer. -/
abbrev Store := ℕ × (Mem → UInt8)

/-- The stores of the bytes of a list from `off` on. -/
def storesAt (off : ℕ) : List UInt8 → List Store
  | [] => []
  | b :: bs => (off, fun _ => b) :: storesAt (off + 1) bs

/-- The stores that `encodeR2000` starts with. -/
def headStores (cmd : UInt8) : List Store :=
  storesAt 0 [0xA0] ++ (storesAt 2 [0xFF] ++ storesAt 3 [wireCmd cmd])

/-- The stores of the `switch` of `encodeR2000`; those of `0x82` up to the test of the bank. -/
def caseStores (cmd before : UInt8) (p : Mem) (antennas : UInt8) : List Store :=
  match cmd with
  | 0x8A =>
    let slot (i : UInt8) : List UInt8 := [if antennas &&& (1 <<< i) ≠ 0 then i else 100, 1]
    storesAt 1 [0x0D] ++ storesAt 4 (slot 0 ++ slot 1 ++ slot 2 ++ slot 3 ++ [0, 1])
  | 0x72 => storesAt 1 [0x03]
  | 0x74 =>
    storesAt 1 [0x04] ++ (storesAt 4 [0] ++ storesAt 4 [SR2000TransData.antennaNumber (p 0)])
  | 0x76 => storesAt 1 [0x04] ++ storesAt 4 [p 0]
  | 0x78 =>
    if p 0 = 1 ∨ p 0 = 2 ∨ p 0 = 3 then storesAt 1 [0x06] ++ storesAt 4 [p 0, p 1, p 2]
    else if p 0 = 4 then storesAt 1 [0x09] ++ storesAt 4 [p 0, p 1, p 2, p 3, p 4, p 5]
    else []
  | 0x80 => storesAt 1 [0x04] ++ storesAt 4 [p 0]
  | 0x81 => storesAt 1 [0x06 + 4] ++ storesAt 4 ((p.shift (p 0 * 2 + 1).toNat).take 7)
  | 0x82 =>
    let len := (p 0 * 2 + 3).toNat
    let bank := if len = 1 then before else p (len - 2)
    storesAt 1 [10 + p len * 2]
      ++ (storesAt 4 ((p.shift (len + (p len).toNat * 2 + 1)).take 4) ++ storesAt 8 [bank])
  | 0x83 =>
    let len := (p 0 * 2 + 1).toNat
    storesAt 1 [9] ++ (storesAt 4 ((p.shift (len + 2)).take 4)
      ++ (storesAt 8 [5 - p len] ++ (storesAt 9 [p (len + 1)]
        ++ [((9, fun buf => SR2000TransData.lockAction (buf 9)) : Store)])))
  | 0x84 => storesAt 1 [0x07] ++ storesAt 4 ((p.shift (p 0 * 2 + 1).toNat).take 4)
  | 0x85 =>
    let len := p 0 * 2
    storesAt 1 [5 + len] ++ (storesAt 4 [0, len] ++ storesAt 6 ((p.shift 1).take len.toNat))
  | 0x86 => storesAt 1 [3]
  | 0xC5 => storesAt 1 [4] ++ storesAt 4 [1]
  | 0xC2 =>
    let len := p 0 * 2
    storesAt 1 [10 + len + 2] ++ (storesAt 4 ((p.shift (len.toNat + 1)).take 4)
      ++ (storesAt 8 [1, 1, p 0 + 1, p 0 * 8, 0] ++ storesAt 13 ((p.shift 1).take len.toNat)))
  | 0xC1 => storesAt 1 [0x06 + 4] ++ storesAt 4 [p 0, p 1, p 2, 0, 0, 0, 0]
  | 0x91 => storesAt 1 [0x03]
  | 0xB0 => storesAt 1 [0x03]
  | 0xB1 => storesAt 1 [0x0D] ++ storesAt 4 (p.take 10)
  | 0xB2 =>
    storesAt 1 [0x0D + p 9] ++ (storesAt 4 (p.take 10)
      ++ storesAt 14 ((p.shift 10).take (p 9).toNat))
  | 0xB3 => storesAt 1 [0x0C] ++ storesAt 4 (p.take 9)
  | 0xB4 => storesAt 1 [0x0C] ++ storesAt 4 (p.take 9)
  | 0xB5 => storesAt 1 [0x0C] ++ storesAt 4 (p.take 9)
  | _ => []

/-- The stores of case `0x82` behind its test of the bank, which it reads back from the
buffer. -/
def bankStores (p : Mem) (buf : Mem) : List Store :=
  let len := (p 0 * 2 + 3).toNat
  let n := p len
  if buf 8 = 0x01 then
    [((1, fun buf => buf 1 + 2) : Store)] ++ (storesAt 9 [1, n + 1, n * 8, 0]
      ++ storesAt 13 ((p.shift (len + 1)).take (n.toNat * 2)))
  else storesAt 9 [p (len - 1), n] ++ storesAt 11 ((p.shift (len + 1)).take (n.toNat * 2))

/-- An operation of `encodeR2000` on the link. -/
inductive TransmitOp where
  | set (s : Store)
  /-- the stores to come depend on the buffer -/
  | choose (stores : Mem → List Store)
  /-- the checksum is computed and stored -/
  | close
  | clearMark
  /-- `UART4Send` puts the byte at `i` on the line -/
  | transmit (i : ℕ)

/-- The operations that build the frame. -/
def buildOps (cmd before : UInt8) (p : Mem) (antennas : UInt8) : List TransmitOp :=
  (headStores cmd ++ caseStores cmd before p antennas).map .set
    ++ if cmd = 0x82 then [.choose (bankStores p)] else []

/-- The operations of `UART4Send`. -/
def sendOps (ucCount : ℕ) : List TransmitOp :=
  if ucCount ≥ bufLen then [] else (List.range ucCount).map .transmit

/-- `encodeR2000` on its way to its waiting loop: what it has still to do, the globals, and
the bytes transmitted so far. -/
structure Transmission where
  todo : List TransmitOp
  globals : Globals
  out : List UInt8

/-- The next operation is carried out. -/
def Transmission.next : Transmission → Option Transmission
  | ⟨[], _, _⟩ => none
  | ⟨.set s :: todo, g, out⟩ =>
    some ⟨todo, { g with r2000 := g.r2000.store s.1 (s.2 g.r2000.load) }, out⟩
  | ⟨.choose stores :: todo, g, out⟩ =>
    some ⟨(stores g.r2000.load).map .set ++ todo, g, out⟩
  | ⟨.close :: todo, g, out⟩ =>
    some ⟨.clearMark :: (sendOps ((g.r2000.load 1 + 1).toNat + 1) ++ todo),
      { g with r2000 := g.r2000.close }, out⟩
  | ⟨.clearMark :: todo, g, out⟩ => some ⟨todo, { g with r2000.setMark := 0 }, out⟩
  | ⟨.transmit i :: todo, g, out⟩ => some ⟨todo, g, out ++ [g.r2000.load i]⟩

/-- What can happen during a transmission: `encodeR2000` goes on by one operation, or a byte
of the R2000 arrives. -/
inductive TransmitEvent where
  | go
  | rx (b : UInt8)
  deriving DecidableEq, Repr

/-- A step of a transmission. -/
def transmitStep (t : Transmission) : TransmitEvent → Option Transmission
  | .go => t.next
  | .rx b => some { t with globals := uart4IRQHandler t.globals b }

/-- `encodeR2000` as it starts. -/
def Transmission.start (cmd before : UInt8) (p : Mem) (g : Globals) : Transmission where
  todo := buildOps cmd before p g.tmpAntenna ++ [.close]
  globals :=
    { g with
      gDevice := if cmd = 0x78 then g.gDevice.put Offset.freqSelect (p 0) else g.gDevice }
  out := []

/-! ### Operations without interrupts -/

namespace SR2000TransData

/-- The link after a list of stores. -/
def apply (r : SR2000TransData) (stores : List Store) : SR2000TransData :=
  stores.foldl (fun r s => r.store s.1 (s.2 r.load)) r

theorem apply_append (r : SR2000TransData) (l l' : List Store) :
  r.apply (l ++ l') = (r.apply l).apply l'
  := by
  unfold apply
  rw [List.foldl_append]

theorem apply_storesAt (off : ℕ) (l : List UInt8) (r : SR2000TransData) :
  r.apply (storesAt off l) = r.storeList off l
  := by
  induction l generalizing r off with
  | nil => rfl
  | cons b l ih => exact ih (off + 1) (r.store off b)

end SR2000TransData

/-- The stores of a command other than `0x82` build its frame. -/
theorem apply_caseStores {cmd : UInt8} (hcmd : cmd ≠ 0x82) (before : UInt8) (p : Mem)
    (antennas : UInt8) (r : SR2000TransData) :
  r.apply (caseStores cmd before p antennas) = buildFrame cmd before p antennas r
  := by
  unfold caseStores
  split
  all_goals simp only [buildFrame, SR2000TransData.apply_append, SR2000TransData.apply_storesAt]
  · rfl
  · rfl
  · exact SR2000TransData.store_store (i := 4) (by decide) _ _
  · rfl
  · unfold SR2000TransData.buildFrequency
    split
    · rfl
    · split
      · rfl
      · rfl
  · rfl
  · rfl
  · exact absurd rfl hcmd
  · -- `0x83`: the action is stored and read back
    simp only [SR2000TransData.apply, SR2000TransData.storeList, List.foldl_cons, List.foldl_nil]
    rw [SR2000TransData.load_store (by decide) (by decide), if_pos rfl,
      SR2000TransData.store_store (i := 9) (by decide)]
    rfl
  · rfl
  · exact (SR2000TransData.memcpy_eq_storeList 6 _ _ _).symm
  · rfl
  · rfl
  · exact (SR2000TransData.memcpy_eq_storeList 13 _ _ _).symm
  · rfl
  · rfl
  · rfl
  · exact (SR2000TransData.memcpy_eq_storeList 4 p 10 _).symm
  · unfold SR2000TransData.build6B
    rw [SR2000TransData.memcpy_eq_storeList, SR2000TransData.memcpy_eq_storeList]
    rfl
  · exact (SR2000TransData.memcpy_eq_storeList 4 p 9 _).symm
  · exact (SR2000TransData.memcpy_eq_storeList 4 p 9 _).symm
  · exact (SR2000TransData.memcpy_eq_storeList 4 p 9 _).symm
  · rfl

/-- The stores of `0x82` build its frame. -/
theorem apply_bankStores (before : UInt8) (p : Mem) (antennas : UInt8) (r : SR2000TransData) :
  (r.apply (caseStores 0x82 before p antennas)).apply
      (bankStores p (r.apply (caseStores 0x82 before p antennas)).load)
    = buildFrame 0x82 before p antennas r
  := by
  have hfirst : r.apply (caseStores 0x82 before p antennas)
      = ((r.store 1 (10 + p (p 0 * 2 + 3).toNat * 2)).storeList 4
          ((p.shift ((p 0 * 2 + 3).toNat + (p (p 0 * 2 + 3).toNat).toNat * 2 + 1)).take 4)).store 8
            (if (p 0 * 2 + 3).toNat = 1 then before else p ((p 0 * 2 + 3).toNat - 2)) := by
    simp only [caseStores, SR2000TransData.apply_append, SR2000TransData.apply_storesAt]
    rfl
  have hread : ∀ (r : SR2000TransData) (l : List UInt8) (b c : UInt8), l.length = 4 →
      (((r.store 1 b).storeList 4 l).store 8 c).load 1 = b := by
    intro r l b c hl
    rw [SR2000TransData.load_store (by decide) (by decide), if_neg (by decide)]
    rw [← SR2000TransData.storeList_store_comm l (by decide) (by rw [hl]; decide),
      SR2000TransData.load_store (by decide) (by decide), if_pos rfl]
  rw [hfirst]
  simp only [buildFrame]
  unfold bankStores SR2000TransData.buildWrite
  dsimp only
  rw [SR2000TransData.load_store (by decide) (by decide), if_pos rfl]
  generalize (if (p 0 * 2 + 3).toNat = 1 then before else p ((p 0 * 2 + 3).toNat - 2)) = bank
  split
  · rw [SR2000TransData.apply_append, SR2000TransData.apply_append,
      SR2000TransData.apply_storesAt, SR2000TransData.apply_storesAt,
      SR2000TransData.memcpy_eq_storeList]
    simp only [SR2000TransData.apply, List.foldl_cons, List.foldl_nil]
    rw [hread _ _ _ _ (Mem.length_take _ _)]
    rfl
  · rw [SR2000TransData.apply_append, SR2000TransData.apply_storesAt,
      SR2000TransData.apply_storesAt, SR2000TransData.memcpy_eq_storeList]
    rfl

namespace Transmission

/-- The transmission gets from `t` to `u` without a byte coming in. -/
def Reaches (t u : Transmission) : Prop :=
  ∃ n, Run.run transmitStep (List.replicate n .go) t = some u

namespace Reaches

variable {t u v : Transmission} {todo : List TransmitOp} {g : Globals} {out : List UInt8}

theorem refl (t : Transmission) :
  Reaches t t
  := ⟨0, rfl⟩

theorem trans (h : Reaches t u) (h' : Reaches u v) :
  Reaches t v
  := by
  obtain ⟨n, hn⟩ := h
  obtain ⟨m, hm⟩ := h'
  refine ⟨n + m, ?_⟩
  rw [List.replicate_add, Run.run_append hn, hm]

theorem of_next (h : t.next = some u) :
  Reaches t u
  := by
  refine ⟨1, ?_⟩
  have hstep : transmitStep t .go = some u := h
  simp only [List.replicate, Run.run, hstep]

theorem sets (l : List Store) (todo : List TransmitOp) (g : Globals) (out : List UInt8) :
  Reaches ⟨l.map .set ++ todo, g, out⟩ ⟨todo, { g with r2000 := g.r2000.apply l }, out⟩
  := by
  induction l generalizing g with
  | nil => exact refl _
  | cons s l ih =>
    refine trans (of_next rfl) ?_
    exact ih { g with r2000 := g.r2000.store s.1 (s.2 g.r2000.load) }

theorem transmits (l : List ℕ) (g : Globals) (out : List UInt8) :
  Reaches ⟨l.map .transmit, g, out⟩ ⟨[], g, out ++ l.map g.r2000.load⟩
  := by
  induction l generalizing out with
  | nil =>
    rw [List.map_nil, List.map_nil, List.append_nil]
    exact refl _
  | cons i l ih =>
    refine trans (of_next rfl) ?_
    have h := ih (out ++ [g.r2000.load i])
    rw [List.append_assoc] at h
    exact h

/-- The operations that build a frame leave it in the buffer. -/
theorem builds (cmd before : UInt8) (p : Mem) (todo : List TransmitOp) (g : Globals)
    (out : List UInt8) :
  Reaches ⟨buildOps cmd before p g.tmpAntenna ++ todo, g, out⟩
    ⟨todo, { g with r2000 := builtLink cmd before p g.tmpAntenna g.r2000 }, out⟩
  := by
  unfold buildOps
  rw [List.append_assoc]
  refine trans (sets _ _ _ _) ?_
  rw [SR2000TransData.apply_append]
  have hhead : g.r2000.apply (headStores cmd)
      = ((g.r2000.store 0 0xA0).store 2 0xFF).store 3 (wireCmd cmd) := rfl
  rw [hhead]
  unfold builtLink
  by_cases hcmd : cmd = 0x82
  · subst hcmd
    rw [if_pos rfl, ← apply_bankStores]
    refine trans (of_next rfl) ?_
    exact sets _ _ _ _
  · rw [if_neg hcmd, apply_caseStores hcmd]
    exact refl _

end Reaches

/-- The link when the frame is about to be transmitted. -/
def sentLink (cmd before : UInt8) (p : Mem) (g : Globals) : SR2000TransData :=
  { (builtLink cmd before p g.tmpAntenna g.r2000).close with setMark := 0 }

/-- The number of bytes that `UART4Send` is called for. -/
def sentCount (cmd before : UInt8) (p : Mem) (g : Globals) : ℕ :=
  ((builtLink cmd before p g.tmpAntenna g.r2000).load 1 + 1).toNat + 1

/-- `encodeR2000` when the frame has been transmitted without a byte coming in. -/
def finish (cmd before : UInt8) (p : Mem) (g : Globals) : Transmission where
  todo := []
  globals := { (start cmd before p g).globals with r2000 := sentLink cmd before p g }
  out :=
    if sentCount cmd before p g ≥ bufLen then []
    else (sentLink cmd before p g).load.take (sentCount cmd before p g)

theorem reaches_finish (cmd before : UInt8) (p : Mem) (g : Globals) :
  Reaches (start cmd before p g) (finish cmd before p g)
  := by
  refine (Reaches.builds cmd before p [.close] (start cmd before p g).globals []).trans ?_
  refine (Reaches.of_next rfl).trans ((Reaches.of_next rfl).trans ?_)
  rw [List.append_nil]
  unfold finish sendOps
  dsimp only
  split
  · rename_i hcount
    have : sentCount cmd before p g ≥ bufLen := hcount
    rw [if_pos this]
    exact Reaches.refl _
  · rename_i hcount
    have : ¬ sentCount cmd before p g ≥ bufLen := hcount
    rw [if_neg this]
    exact Reaches.transmits _ _ _

/-- Undisturbed, the operations are `sendCmd`. -/
theorem sendCmd_eq_finish (cmd before : UInt8) (p : Mem) (g : Globals) :
  sendCmd cmd before p g
    = { (finish cmd before p g).globals with
        sent :=
          if sentCount cmd before p g ≥ bufLen then g.sent
          else g.sent ++ [(finish cmd before p g).out]
        r2000.sendTimer := (sentLink cmd before p g).sendTimer.start (sendTime cmd) }
  := by
  have hsend : sendCmd cmd before p g
      = let g' := uart4Send (sentLink cmd before p g).load (sentCount cmd before p g)
          (finish cmd before p g).globals
        { g' with r2000.sendTimer := g'.r2000.sendTimer.start (sendTime cmd) } := rfl
  rw [hsend]
  unfold uart4Send finish
  dsimp only
  split
  · rfl
  · rfl

/-- What is reached on the way to the end gets there. -/
theorem Reaches.of_end {s t u : Transmission} (hu : Reaches s u) (hend : u.todo = [])
    (ht : Reaches s t) :
  Reaches t u
  := by
  obtain ⟨n, hn⟩ := hu
  obtain ⟨m, hm⟩ := ht
  obtain hlt | hle := Nat.lt_or_ge n m
  · -- the end cannot be left
    exfalso
    have hmore : m = n + (m - n - 1 + 1) := by omega
    rw [hmore, List.replicate_add, Run.run_append hn, List.replicate_succ] at hm
    obtain ⟨v, hv, -⟩ := Run.run_cons_eq_some hm
    have hnext : u.next = some v := hv
    obtain ⟨todo, g, out⟩ := u
    subst hend
    cases hnext
  · refine ⟨n - m, ?_⟩
    rwa [← Nat.add_sub_cancel' hle, List.replicate_add, Run.run_append hm] at hn

/-- Bytes on the line are never taken back. -/
theorem out_of_next {t u : Transmission} (h : t.next = some u) :
  t.out <+: u.out
  := by
  obtain ⟨todo, g, out⟩ := t
  cases todo with
  | nil => cases h
  | cons op todo =>
    cases op with
    | transmit i =>
      cases h
      exact List.prefix_append _ _
    | set s =>
      cases h
      exact List.prefix_rfl
    | choose stores =>
      cases h
      exact List.prefix_rfl
    | close =>
      cases h
      exact List.prefix_rfl
    | clearMark =>
      cases h
      exact List.prefix_rfl

theorem Reaches.out {t u : Transmission} (h : Reaches t u) :
  t.out <+: u.out
  := by
  obtain ⟨n, hn⟩ := h
  induction n generalizing t with
  | zero =>
    cases hn
    exact List.prefix_rfl
  | succ n ih =>
    rw [List.replicate_succ] at hn
    obtain ⟨v, hv, hrest⟩ := Run.run_cons_eq_some hn
    exact (out_of_next hv).trans (ih hrest)

theorem Reaches.eq_of_end {t u : Transmission} (h : Reaches t u) (hend : t.todo = []) :
  u = t
  := by
  obtain ⟨n, hn⟩ := h
  cases n with
  | zero =>
    cases hn
    rfl
  | succ n =>
    rw [List.replicate_succ] at hn
    obtain ⟨v, hv, -⟩ := Run.run_cons_eq_some hn
    have hnext : t.next = some v := hv
    obtain ⟨todo, g, out⟩ := t
    subst hend
    cases hnext

/-- The bytes transmitted undisturbed are the frame, when it is shorter than `BUF_LEN`. -/
theorem finish_out {cmd before : UInt8} {p : Mem} {g : Globals} {fields : List UInt8}
    (h : frameFields cmd before p g.tmpAntenna = some fields) (hfit : fields.length + 5 < bufLen) :
  (finish cmd before p g).out = frameBytes cmd fields
  := by
  simp only [bufLen] at hfit
  obtain ⟨hlen, hclose⟩ := close_builtLink h (by omega) g.r2000
  have hcount : sentCount cmd before p g = (frameBytes cmd fields).length := by
    unfold sentCount
    rw [hlen, length_frameBytes]
  have hshort : ¬ sentCount cmd before p g ≥ bufLen := by
    rw [hcount, length_frameBytes, bufLen]
    omega
  have hload : (sentLink cmd before p g).load
      = (g.r2000.storeList 0 (frameBytes cmd fields)).load := by
    rw [← hclose]
    rfl
  unfold finish
  dsimp only
  rw [if_neg hshort, hload, hcount]
  exact take_storeList (by rw [length_frameBytes]; omega) g.r2000

end Transmission

/-- A command sends its frame, when it is shorter than `BUF_LEN`. -/
theorem sendCmd_frame {before cmd : UInt8} {p : Mem} {g : Globals} {fields : List UInt8}
    (hframe : frameFields cmd before p g.tmpAntenna = some fields)
    (hfit : fields.length + 5 < bufLen) :
  (sendCmd cmd before p g).sent = g.sent ++ [frameBytes cmd fields]
  := by
  have hout := Transmission.finish_out hframe hfit
  have hcount : ¬ Transmission.sentCount cmd before p g ≥ bufLen := by
    intro hlong
    unfold Transmission.finish at hout
    dsimp only at hout
    rw [if_pos hlong] at hout
    have hlen := length_frameBytes cmd fields
    rw [← hout, List.length_nil] at hlen
    omega
  rw [Transmission.sendCmd_eq_finish]
  dsimp only
  rw [if_neg hcount, hout]

/-- A command that returns has sent its frame, when it is shorter than `BUF_LEN`. -/
theorem encodeR2000From_frame {before cmd flag : UInt8} {p : Mem} {g g' : Globals}
    {fields : List UInt8} (hknown : cmd ∈ knownCmds)
    (hframe : frameFields cmd before p g.tmpAntenna = some fields)
    (hfit : fields.length + 5 < bufLen) (h : encodeR2000From before cmd p g = some (flag, g')) :
  g'.sent = g.sent ++ [frameBytes cmd fields]
  := by
  rw [encodeR2000From_sent hknown h, sendCmd_frame hframe hfit]

/-- Frames with different fields differ. -/
theorem frameBytes_inj {cmd : UInt8} {fields fields' : List UInt8}
    (h : frameBytes cmd fields = frameBytes cmd fields') :
  fields = fields'
  := by
  have hlen : fields.length = fields'.length := by
    have := congrArg List.length h
    rw [length_frameBytes, length_frameBytes] at this
    omega
  have hhead : frameHead cmd fields = frameHead cmd fields' := by
    apply List.append_inj_left h
    rw [length_frameHead, length_frameHead, hlen]
  exact List.append_inj_right hhead rfl

/-! ### Operations and interrupts -/

/-- The receiver drops the byte: a frame waits to be taken, or none is under way and the byte
does not start one. -/
def SR2000TransData.Drops (r : SR2000TransData) (b : UInt8) : Prop :=
  r.setMark ≠ 0 ∨ r.index = 0 ∧ b ≠ 0xA0

instance (r : SR2000TransData) (b : UInt8) : Decidable (r.Drops b) :=
  inferInstanceAs (Decidable (_ ∨ _))

theorem uart4IRQHandler_of_drops {g : Globals} {b : UInt8} (h : g.r2000.Drops b) :
  uart4IRQHandler g b = g
  := by
  have hreceive : g.r2000.receive b = (g.r2000, false) := by
    unfold SR2000TransData.receive
    obtain hmark | ⟨hindex, hb⟩ := h
    · rw [if_neg hmark]
    · rw [if_neg (fun h : _ ∧ _ => hb h.2), if_neg (not_not.mpr hindex), ite_self]
  unfold uart4IRQHandler
  rw [hreceive]
  rfl

/-- A byte that arrives during the transmission is dropped by the receiver. -/
def BytesDropped (t : Transmission) (e : TransmitEvent) : Prop :=
  ∀ b, e = .rx b → t.globals.r2000.Drops b

/-- In every run in which the receiver drops the bytes that arrive while a frame is built and
transmitted, the bytes on the line are the beginning of the frame, and in the end the whole
frame, when it is shorter than `BUF_LEN`. -/
theorem transmits_built_frame (cmd before : UInt8) (p : Mem) (g : Globals) (fields : List UInt8)
    (hframe : frameFields cmd before p g.tmpAntenna = some fields)
    (hfit : fields.length + 5 < bufLen) (es : List TransmitEvent) (t : Transmission)
    (hrun : Run.run transmitStep es (.start cmd before p g) = some t)
    (hdrop : Run.Along transmitStep BytesDropped es (.start cmd before p g)) :
  t.out <+: frameBytes cmd fields ∧ (t.todo = [] → t.out = frameBytes cmd fields)
  := by
  -- dropped bytes do not disturb the operations
  have hreach : Transmission.Reaches (.start cmd before p g) t := by
    apply Run.Along.invariant (I := Transmission.Reaches (.start cmd before p g)) _
      (Transmission.Reaches.refl _) hdrop hrun
    intro t e t' ht hd hstep
    cases e with
    | go => exact ht.trans (.of_next hstep)
    | rx b =>
      have hsame : t' = t := by
        simp only [transmitStep, Option.some.injEq] at hstep
        rw [← hstep, uart4IRQHandler_of_drops (hd b rfl)]
      rw [hsame]
      exact ht
  have hfinish := (Transmission.reaches_finish cmd before p g).of_end rfl hreach
  have hout := Transmission.finish_out hframe hfit
  constructor
  · rw [← hout]
    exact hfinish.out
  · intro hend
    rw [← hout, hfinish.eq_of_end hend]

/-- The end of a run, computed. -/
theorem exists_of_out {es : List TransmitEvent} {t : Transmission} {out : List UInt8}
    (h : (Run.run transmitStep es t).map (fun t => (t.todo.isEmpty, t.out)) = some (true, out)) :
  ∃ t', Run.run transmitStep es t = some t' ∧ t'.todo = [] ∧ t'.out = out
  := by
  rw [Option.map_eq_some_iff] at h
  obtain ⟨t', hrun, heq⟩ := h
  simp only [Prod.mk.injEq, List.isEmpty_iff] at heq
  exact ⟨t', hrun, heq.1, heq.2⟩

instance (t : Transmission) : (e : TransmitEvent) → Decidable (BytesDropped t e)
  | .go => isTrue fun _ h => nomatch h
  | .rx b => decidable_of_iff (t.globals.r2000.Drops b)
      ⟨fun h _ hb => TransmitEvent.rx.inj hb ▸ h, fun h => h b rfl⟩

/-- The question for the version is sent as it was built, with noise on the line. -/
theorem transmits_built_frame_version :
  let t := Transmission.start 0x72 0 (fun _ => 0) (powerOn .blank).toGlobals
  let es := [.go, .rx 0x55] ++ List.replicate 10 TransmitEvent.go
  ∃ t', Run.run transmitStep es t = some t' ∧ t'.out = frameBytes 0x72 []
  := by
  intro t es
  have hdrop : Run.Along transmitStep BytesDropped es t := by
    unfold t es
    rw [powerOn_eq]
    decide
  have hend : (Run.run transmitStep es t).map (fun t => (t.todo.isEmpty, t.out))
      = some (true, [0xA0, 0x03, 0xFF, 0x72, 0xEC]) := by
    unfold t es
    rw [powerOn_eq]
    decide
  obtain ⟨t', hrun, htodo, -⟩ := exists_of_out hend
  obtain ⟨-, hout⟩ := transmits_built_frame 0x72 0 (fun _ => 0) (powerOn .blank).toGlobals [] rfl
    (by decide) es t' hrun hdrop
  exact ⟨t', hrun, hout htodo⟩

/-- Two bytes of a late frame arrive before the checksum is stored: the second one replaces the
length byte, and a frame of seven bytes leaves the UART. -/
theorem late_bytes_replace_length :
  let g := (powerOn .blank).toGlobals
  let es := List.replicate 4 .go ++ [.rx 0xA0, .rx 0x05] ++ List.replicate 9 TransmitEvent.go
  frameFields 0x72 0 (fun _ => 0) g.tmpAntenna = some []
    ∧ ∃ t, Run.run transmitStep es (.start 0x72 0 (fun _ => 0) g) = some t ∧ t.todo = []
      ∧ t.out = [0xA0, 0x05, 0xFF, 0x72, 0x00, 0x00, 0xEA] ∧ t.out ≠ frameBytes 0x72 []
  := by
  intro g es
  refine ⟨rfl, ?_⟩
  have hend : (Run.run transmitStep es (.start 0x72 0 (fun _ => 0) g)).map
      (fun t => (t.todo.isEmpty, t.out))
      = some (true, [0xA0, 0x05, 0xFF, 0x72, 0x00, 0x00, 0xEA]) := by
    unfold g es
    rw [powerOn_eq]
    decide
  obtain ⟨t, hrun, htodo, hout⟩ := exists_of_out hend
  refine ⟨t, hrun, htodo, hout, ?_⟩
  rw [hout]
  decide

end UhfReader
