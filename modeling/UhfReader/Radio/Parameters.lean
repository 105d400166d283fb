import UhfReader.Lib.Reading
import UhfReader.Radio.Transmit

/-!
# Where a command reads and writes

`readFields` collects the fields of a frame from the buffer of a request byte by byte, as the
`switch` of `encodeR2000` does, and so tells where the command reads.  The places at which it
writes are those of its stores.  They are inside the buffer if and only if the frame fits into it.
-/

open Memory Reading

namespace UhfReader

/-! ### Reading -/

section

variable (off : ℕ)

/-- The parameter `k` of a request whose parameters start at `off` in its buffer. -/
def para (k : ℕ) : Query ℕ UInt8 UInt8 := Query.cell (off + k)

/-- The `n` parameters from `start` on. -/
def paras (start n : ℕ) : Query ℕ UInt8 (List UInt8) :=
  Query.cells ((List.range n).map fun k => off + (start + k))

@[simp]
theorem run_para (b : Mem) (k : ℕ) :
  (para off k).run b = b.shift off k
  := rfl

theorem mem_places_para {b : Mem} {k i : ℕ} :
  i ∈ (para off k).places b ↔ i = off + k
  := List.mem_singleton

@[simp]
theorem run_paras (b : Mem) (start n : ℕ) :
  (paras off start n).run b = ((b.shift off).shift start).take n
  := by
  unfold paras Mem.take
  rw [Query.run_cells, List.map_map]
  rfl

theorem mem_places_paras {b : Mem} {start n i : ℕ} :
  i ∈ (paras off start n).places b ↔ off + start ≤ i ∧ i < off + start + n
  := by
  unfold paras
  rw [Query.places_cells, List.mem_map]
  constructor
  · rintro ⟨k, hk, rfl⟩
    have := List.mem_range.mp hk
    omega
  · rintro ⟨hle, hlt⟩
    exact ⟨i - (off + start), List.mem_range.mpr (by omega), by omega⟩

/-- The fields of `0x78` for a region. -/
def readFrequency (region : UInt8) : Query ℕ UInt8 (Option (List UInt8)) :=
  if region = 1 ∨ region = 2 ∨ region = 3 then do
    let rest ← paras off 1 2
    return some (region :: rest)
  else if region = 4 then do
    let rest ← paras off 1 5
    return some (region :: rest)
  else return none

/-- The fields of `0x82` behind the bank, for `n` words whose number stands at `len`. -/
def readData (len : ℕ) (n bank : UInt8) : Query ℕ UInt8 (List UInt8) :=
  if bank = 0x01 then do
    let data ← paras off (len + 1) (n.toNat * 2)
    return [1, n + 1, n * 8, 0] ++ data
  else do
    let address ← para off (len - 1)
    let data ← paras off (len + 1) (n.toNat * 2)
    return [address, n] ++ data

/-- The fields of the frame of a command, as `frameFields` has them, read from the buffer of the
request. -/
def readFields (cmd antennas : UInt8) : Query ℕ UInt8 (Option (List UInt8)) :=
  match cmd with
  | 0x8A => return frameFields 0x8A 0 (fun _ => 0) antennas
  | 0x72 => return some []
  | 0x74 => do
    let antenna ← para off 0
    return some [SR2000TransData.antennaNumber antenna]
  | 0x76 => do
    let power ← para off 0
    return some [power]
  | 0x78 => do
    let region ← para off 0
    readFrequency off region
  | 0x80 => do
    let channel ← para off 0
    return some [channel]
  | 0x81 => do
    let words ← para off 0
    let fields ← paras off (words * 2 + 1).toNat 7
    return some fields
  | 0x82 => do
    let words ← para off 0
    let len := (words * 2 + 3).toNat
    let n ← para off len
    let password ← paras off (len + n.toNat * 2 + 1) 4
    -- the byte before the parameters when `len` has wrapped around to 1
    let bank ← Query.cell (off + len - 2)
    let rest ← readData off len n bank
    return some (password ++ ([bank] ++ rest))
  | 0x83 => do
    let words ← para off 0
    let len := (words * 2 + 1).toNat
    let password ← paras off (len + 2) 4
    let area ← para off len
    let action ← para off (len + 1)
    return some (password ++ [5 - area, SR2000TransData.lockAction action])
  | 0x84 => do
    let words ← para off 0
    let password ← paras off (words * 2 + 1).toNat 4
    return some password
  | 0x85 => do
    let words ← para off 0
    let id ← paras off 1 (words * 2).toNat
    return some ([0, words * 2] ++ id)
  | 0x86 => return some []
  | 0xC5 => return some [1]
  | 0xC2 => do
    let words ← para off 0
    let password ← paras off ((words * 2).toNat + 1) 4
    let id ← paras off 1 (words * 2).toNat
    return some (password ++ ([1, 1, words + 1, words * 8, 0] ++ id))
  | 0xC1 => do
    let fields ← paras off 0 3
    return some (fields ++ [0, 0, 0, 0])
  | 0x91 => return some []
  | 0xB0 => return some []
  | 0xB1 => do
    let fields ← paras off 0 10
    return some fields
  | 0xB2 => do
    let n ← para off 9
    let fields ← paras off 0 10
    let data ← paras off 10 n.toNat
    return some (fields ++ data)
  | 0xB3 => do
    let fields ← paras off 0 9
    return some fields
  | 0xB4 => do
    let fields ← paras off 0 9
    return some fields
  | 0xB5 => do
    let fields ← paras off 0 9
    return some fields
  | _ => return none

end

variable {off : ℕ} {b b' : Mem}

theorem shift_zero (m : Mem) :
  m.shift 0 = m
  := by
  funext i
  exact congrArg m (Nat.zero_add i)

/-- The place of the bank is found from the place of the count, which is odd. -/
theorem bank_at (off : ℕ) (b : Mem) (words : UInt8) :
  b (off + (words * 2 + 3).toNat - 2)
    = if (words * 2 + 3).toNat = 1 then b (off - 1) else b.shift off ((words * 2 + 3).toNat - 2)
  := by
  have hodd : (words * 2 + 3).toNat % 2 = 1 := by
    simp only [UInt8.toNat_add, UInt8.toNat_mul, UInt8.reduceToNat]
    omega
  split
  · rename_i hone
    rw [hone]
    rfl
  · rw [Mem.shift_apply, Nat.add_sub_assoc (by omega)]

theorem run_readData (off : ℕ) (b : Mem) (len : ℕ) (n bank : UInt8) :
  (readData off len n bank).run b
    = (if bank = 0x01 then [1, n + 1, n * 8, 0] else [b.shift off (len - 1), n])
      ++ ((b.shift off).shift (len + 1)).take (n.toNat * 2)
  := by
  unfold readData
  split
  · simp only [Query.run_bind, Query.run_pure, run_paras]
  · simp only [Query.run_bind, Query.run_pure, run_para, run_paras]

theorem mem_places_readData {b : Mem} {len : ℕ} {n bank : UInt8} {i : ℕ}
    (h : i ∈ (readData off len n bank).places b) :
  i < off + (len + 1 + n.toNat * 2)
  := by
  unfold readData at h
  split at h
  · simp only [Query.places_bind, Query.places_pure, List.append_nil, mem_places_paras] at h
    omega
  · simp only [Query.places_bind, Query.places_pure, List.append_nil, List.mem_append,
      mem_places_para, mem_places_paras] at h
    omega

/-- What is read are the fields of the frame. -/
theorem run_readFields (off : ℕ) (b : Mem) (cmd antennas : UInt8) :
  (readFields off cmd antennas).run b
    = frameFields cmd (b (off - 1)) (b.shift off) antennas
  := by
  unfold readFields
  split
  all_goals simp only [frameFields, Query.run_bind, Query.run_pure, run_para, run_paras]
  · -- `0x78`: the region is read first
    generalize hregion : b.shift off 0 = region
    unfold readFrequency
    split
    · rw [Query.run_bind, run_paras]
      rfl
    · split
      · rw [Query.run_bind, run_paras]
        rfl
      · rfl
  · -- `0x82`: the bank is read before the data
    simp only [Query.run_cell, bank_at, run_readData]
  · rw [shift_zero]
    rfl
  · rw [shift_zero]
  · rw [shift_zero]
  · rw [shift_zero]
  · rw [shift_zero]
  · rw [shift_zero]

/-- Without a frame the buffer is left as it is. -/
theorem buildFrame_of_none {cmd before : UInt8} {p : Mem} {antennas : UInt8}
    (h : frameFields cmd before p antennas = none) (r : SR2000TransData) :
  buildFrame cmd before p antennas r = r
  := by
  unfold frameFields at h
  split at h
  all_goals simp only [buildFrame]
  all_goals try cases h
  · unfold SR2000TransData.buildFrequency
    split at h
    · cases h
    · rw [if_neg ‹_›]
      split at h
      · cases h
      · rw [if_neg ‹_›]

/-- Requests that agree where a command reads are the same to the driver. -/
theorem encodeR2000From_agree {cmd : UInt8} (hcmd : cmd ≠ 0x78)
    (h : ∀ antennas, ∀ i ∈ (readFields off cmd antennas).places b, b' i = b i) :
  encodeR2000From (b (off - 1)) cmd (b.shift off)
    = encodeR2000From (b' (off - 1)) cmd (b'.shift off)
  := by
  apply encodeR2000From_congr hcmd
  intro antennas r
  have hfields : frameFields cmd (b' (off - 1)) (b'.shift off) antennas
      = frameFields cmd (b (off - 1)) (b.shift off) antennas := by
    rw [← run_readFields, ← run_readFields]
    exact Query.run_congr (h antennas)
  cases hframe : frameFields cmd (b (off - 1)) (b.shift off) antennas with
  | none => rw [buildFrame_of_none hframe, buildFrame_of_none (hfields.trans hframe)]
  | some fields => rw [buildFrame_eq hframe, buildFrame_eq (hfields.trans hframe)]

/-! ### Writing -/

/-- The stores of the `switch` of `encodeR2000`, with those before it. -/
def frameStores (cmd before : UInt8) (p : Mem) (g : Globals) : List Store :=
  let stores := headStores cmd ++ caseStores cmd before p g.tmpAntenna
  stores ++ if cmd = 0x82 then bankStores p (g.r2000.apply stores).load else []

/-- The places of `R2000.rec_buf.buf` at which `encodeR2000` writes; the checksum comes last. -/
def writtenPlaces (cmd before : UInt8) (p : Mem) (g : Globals) : List ℕ :=
  (frameStores cmd before p g).map Prod.fst
    ++ [((builtLink cmd before p g.tmpAntenna g.r2000).load 1 + 1).toNat]

/-- The stores build the frame. -/
theorem apply_frameStores (cmd before : UInt8) (p : Mem) (g : Globals) :
  g.r2000.apply (frameStores cmd before p g) = builtLink cmd before p g.tmpAntenna g.r2000
  := by
  unfold frameStores builtLink
  dsimp only
  have hhead : g.r2000.apply (headStores cmd)
      = ((g.r2000.store 0 0xA0).store 2 0xFF).store 3 (wireCmd cmd) := rfl
  rw [SR2000TransData.apply_append, SR2000TransData.apply_append, hhead]
  by_cases hcmd : cmd = 0x82
  · subst hcmd
    rw [if_pos rfl, apply_bankStores]
  · rw [if_neg hcmd, apply_caseStores hcmd]
    rfl

theorem mem_storesAt {k off : ℕ} {l : List UInt8} :
  k ∈ (storesAt off l).map Prod.fst ↔ off ≤ k ∧ k < off + l.length
  := by
  induction l generalizing off with
  | nil =>
    simp only [storesAt, List.map_nil, List.not_mem_nil, List.length_nil, false_iff]
    omega
  | cons c l ih =>
    simp only [storesAt, List.map_cons, List.mem_cons, ih, List.length_cons]
    omega

/-- The bank that `0x82` reads back is the one it has stored. -/
theorem load_bank (before : UInt8) (p : Mem) (antennas : UInt8) (r : SR2000TransData) :
  (r.apply (caseStores 0x82 before p antennas)).load 8
    = if (p 0 * 2 + 3).toNat = 1 then before else p ((p 0 * 2 + 3).toNat - 2)
  := by
  simp only [caseStores, SR2000TransData.apply_append, SR2000TransData.apply_storesAt,
    SR2000TransData.storeList]
  rw [SR2000TransData.load_store (by decide) (by decide), if_pos rfl]

/-- The stores of the `switch` are those of the length and of the fields. -/
theorem mem_caseStores {cmd before : UInt8} {p : Mem} {antennas : UInt8} {fields : List UInt8}
    (hcmd : cmd ≠ 0x82) (h : frameFields cmd before p antennas = some fields) {k : ℕ} :
  k ∈ (caseStores cmd before p antennas).map Prod.fst ↔ k = 1 ∨ 4 ≤ k ∧ k < fields.length + 4
  := by
  unfold frameFields at h
  split at h
  case h_5 =>
    -- `0x78`: the number of fields depends on the region
    unfold caseStores
    split at h
    · cases h
      rw [if_pos ‹_›]
      simp only [List.map_append, List.mem_append, mem_storesAt, List.length_cons, List.length_nil]
      omega
    · rw [if_neg ‹_›]
      split at h
      · cases h
        rw [if_pos ‹_›]
        simp only [List.map_append, List.mem_append, mem_storesAt, List.length_cons,
          List.length_nil]
        omega
      · cases h
  case h_8 => exact absurd rfl hcmd
  all_goals cases h
  all_goals simp only [caseStores, List.map_append, List.mem_append, mem_storesAt,
    List.length_append, List.length_cons, List.length_nil, Mem.length_take, List.map_cons,
    List.map_nil, List.mem_singleton]
  all_goals omega

/-- Those of `0x82`, where the length may be stored twice. -/
theorem mem_writeStores {before : UInt8} {p : Mem} {antennas : UInt8} {fields : List UInt8}
    (h : frameFields 0x82 before p antennas = some fields) {buf : Mem}
    (hbank : buf 8 = if (p 0 * 2 + 3).toNat = 1 then before else p ((p 0 * 2 + 3).toNat - 2))
    {k : ℕ} :
  k ∈ (caseStores 0x82 before p antennas ++ bankStores p buf).map Prod.fst
    ↔ k = 1 ∨ 4 ≤ k ∧ k < fields.length + 4
  := by
  simp only [frameFields, Option.some.injEq] at h
  generalize (if (p 0 * 2 + 3).toNat = 1 then before else p ((p 0 * 2 + 3).toNat - 2)) = bank
    at h hbank
  unfold bankStores
  dsimp only
  rw [hbank]
  by_cases hepc : bank = 0x01
  · rw [if_pos hepc] at h ⊢
    subst h
    simp only [caseStores, List.map_append, List.mem_append, mem_storesAt, List.length_append,
      List.length_cons, List.length_nil, Mem.length_take, List.map_cons, List.map_nil,
      List.mem_singleton]
    omega
  · rw [if_neg hepc] at h ⊢
    subst h
    simp only [caseStores, List.map_append, List.mem_append, mem_storesAt, List.length_append,
      List.length_cons, List.length_nil, Mem.length_take]
    omega

/-- The stores fill the buffer up to the checksum. -/
theorem mem_frameStores {cmd before : UInt8} {p : Mem} {g : Globals} {fields : List UInt8}
    (h : frameFields cmd before p g.tmpAntenna = some fields) {k : ℕ} :
  k ∈ (frameStores cmd before p g).map Prod.fst ↔ k < fields.length + 4
  := by
  have hstores : k ∈ (frameStores cmd before p g).map Prod.fst
      ↔ k ∈ (headStores cmd).map Prod.fst ∨ k = 1 ∨ 4 ≤ k ∧ k < fields.length + 4 := by
    unfold frameStores
    dsimp only
    rw [List.append_assoc, List.map_append, List.mem_append]
    by_cases hcmd : cmd = 0x82
    · subst hcmd
      rw [if_pos rfl, SR2000TransData.apply_append, mem_writeStores h (load_bank _ _ _ _)]
    · rw [if_neg hcmd, List.append_nil, mem_caseStores hcmd h]
  rw [hstores]
  simp only [headStores, List.map_append, List.mem_append, mem_storesAt, List.length_cons,
    List.length_nil]
  omega

/-- A command writes inside the buffer if and only if its frame fits there. -/
theorem writtenPlaces_lt_iff {cmd before : UInt8} {p : Mem} {g : Globals} {fields : List UInt8}
    (h : frameFields cmd before p g.tmpAntenna = some fields) :
  (∀ k ∈ writtenPlaces cmd before p g, k < bufLen) ↔ fields.length + 5 ≤ bufLen
  := by
  unfold writtenPlaces
  simp only [List.mem_append, List.mem_singleton, mem_frameStores h, bufLen]
  constructor
  · intro hinside
    by_contra hlong
    by_cases hclose : fields.length + 4 ≤ 255
    · -- the checksum stands right behind the buffer
      have hlast := hinside _ (.inr rfl)
      have hlength : fields.length = 251 := by omega
      rw [load_builtLink h hclose, hlength] at hlast
      exact absurd hlast (by decide)
    · exact absurd (hinside 255 (.inl (by omega))) (by decide)
  · rintro hfit k (hk | rfl)
    · omega
    · rw [(close_builtLink h hfit g.r2000).1]
      omega

end UhfReader
