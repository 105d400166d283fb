import Mathlib.Data.List.GetD
import UhfReader.State

/-!
# The parameter table

`registryParams` fills the parameter table at start-up, one entry for each command.  From
then on the table is the one registered, except for the `length` of the two entries for
the tag filter, which the commands `0x15` and `0x16` change.  `Registered` states this, and
`lookup_of_registered` is what the rest of the development uses of it.
-/

namespace UhfReader

/-- `Flag_ParamItem_RD` -/
@[simp] def flagRD : UInt8 := 0x01

/-- `Flag_ParamItem_WR` -/
@[simp] def flagWR : UInt8 := 0x02

/-- `Flag_ParamItem_OTHR` -/
@[simp] def flagOTHR : UInt8 := 0x04

namespace SParamTable

/-- The table at start-up, all bytes zero. -/
def empty : SParamTable :=
  { table := fun _ => ⟨none, 0, 0, none⟩, tableIndex := fun _ => 0 }

/-- The first entry whose command is `id`, or `Count_ParamItem_Max`. -/
def find (t : SParamTable) (id : ℕ) : ℕ :=
  ((List.range countParamItemMax).find? fun i => t.tableIndex i = id).getD countParamItemMax

/-- `getparaindex` -/
def getparaindex (t : SParamTable) (id : UInt8) : ℕ := t.find id.toNat

/-- The entry `i` replaced. -/
def setItem (t : SParamTable) (i : ℕ) (item : SParamItem) : SParamTable :=
  { t with table := fun k => if k = i then item else t.table k }

/-- `g_paramTable.table[i].length = length` -/
def setLength (t : SParamTable) (i : ℕ) (length : UInt8) : SParamTable :=
  t.setItem i { t.table i with length := length }

/-- The entry `i` and the command it serves replaced. -/
def setEntry (t : SParamTable) (i id : ℕ) (item : SParamItem) : SParamTable :=
  { t.setItem i item with tableIndex := fun k => if k = i then id else t.tableIndex k }

end SParamTable

/-- `registryParam`: the first free entry is taken. -/
def registryParam (id : UInt8) (item : SParamItem) (g : Globals) : Globals :=
  let i := g.gParamTable.find 0
  if i ≥ countParamItemMax then { g with selfCheckFailure := 1 }
  else { g with gParamTable := g.gParamTable.setEntry i id.toNat item }

/-- `unRegistryParam` -/
def unRegistryParam (id : UInt8) (g : Globals) : Globals :=
  let i := g.gParamTable.getparaindex id
  if i ≥ countParamItemMax then g
  else { g with gParamTable := g.gParamTable.setEntry i 0 ⟨none, 0, 0, none⟩ }

/-- The arguments of one call of `registryParam`, for a member of `g_device`. -/
def deviceItem (id : UInt8) (off : ℕ) (flag length : UInt8) (function : Option Handler) :
    UInt8 × SParamItem :=
  (id, ⟨some (.device off), flag, length, function⟩)

/-- The arguments of one call of `registryParam` with the value `NULL` and the length
`sizeof(NULL)`. -/
def nullItem (id flag : UInt8) (function : Option Handler) : UInt8 × SParamItem :=
  (id, ⟨none, flag, 4, function⟩)

/-- The arguments of the calls of `registryParam` in `registryParams`. -/
def registeredItems : List (UInt8 × SParamItem) :=
  [ deviceItem 0x01 Offset.baudRate flagWR 1 (some .setBaudRate),
    deviceItem 0x02 Offset.getReaderVersion flagRD 4 none,
    deviceItem 0x03 Offset.relayStatus flagWR 1 (some .setRelay),
    deviceItem 0x04 Offset.outputPower flagOTHR 1 (some .setOutputPower),
    deviceItem 0x05 Offset.frequencyMin flagOTHR 2 (some .setFrequency),
    deviceItem 0x06 Offset.workpara flagRD 32 (some .readParam),
    deviceItem 0x07 Offset.radioDepth flagWR 1 (some .writeRadioDeep),
    deviceItem 0x08 Offset.radioDepth flagRD 1 (some .readRadioDeep),
    deviceItem 0x09 Offset.workpara flagWR 32 (some .writeParam),
    (0x0A, ⟨some .tmpAntenna, flagOTHR, 1, some .setAntenna⟩),
    deviceItem 0x0B Offset.relayStatus flagRD 1 none,
    deviceItem 0x0C Offset.factoryWorkpara flagWR 32 (some .setReaderPara),
    nullItem 0x0D flagWR (some .readReaderPara),
    (0x0E, ⟨some .sysReboot, flagWR, 1, some .reboot⟩),
    deviceItem 0x0F Offset.readerWorkStatus flagWR 1 (some .setReaderWorkType),
    nullItem 0x10 flagWR (some .clearTagListMem),
    deviceItem 0x11 Offset.readerTime flagWR 6 (some .setReaderTime),
    deviceItem 0x12 Offset.readerTime flagRD 6 (some .getReaderTime),
    deviceItem 0x13 Offset.autoParam flagWR 32 (some .setAutoPara),
    deviceItem 0x14 Offset.autoParam flagRD 32 (some .getAutoPara),
    deviceItem 0x15 Offset.tagfilter flagWR 35 (some .setTagFilter),
    deviceItem 0x16 Offset.tagfilter flagRD 35 none,
    deviceItem 0x17 Offset.factoryAutoParam flagWR 32 none,
    nullItem 0x18 flagOTHR (some .readR2000vertion),
    deviceItem 0x30 Offset.readerIP1 flagWR 14 (some .setReaderNetwork),
    deviceItem 0x31 Offset.readerIP1 flagRD 14 none,
    deviceItem 0x32 Offset.readerMAC1 flagWR 6 (some .setReaderMAC),
    deviceItem 0x33 Offset.readerMAC1 flagRD 6 none,
    deviceItem 0x41 Offset.readerRevStatus flagRD 1 (some .getReaderRevStatus),
    deviceItem 0x42 Offset.readerOutStatus flagWR 1 (some .setReaderOutStatus),
    deviceItem 0x43 Offset.readerOutStatus flagRD 1 (some .getReaderOutStatus),
    nullItem 0x54 flagWR (some .immediatelyNotify),
    (0x57, ⟨some .cmdTmpBuf, flagRD, 5, some .getTagRecord⟩),
    deviceItem 0x85 Offset.getReaderVersion flagWR 2 none,
    deviceItem 0x86 Offset.freqSelect flagWR 6 (some .setFrequency1),
    deviceItem 0x87 Offset.freqSelect flagRD 6 none,
    nullItem 0x88 flagWR (some .updateProgrram),
    deviceItem 0x8B Offset.readerID flagWR 10 none,
    deviceItem 0x8C Offset.readerID flagRD 10 none,
    nullItem 0x8D flagRD none,
    nullItem 0xDF flagOTHR (some .epc1g2ListRSSIMaskTag),
    nullItem 0xDE flagOTHR (some .epc1g2GetRSSIIDList),
    nullItem 0xDD flagOTHR (some .epc1g2Accessmatch),
    nullItem 0xEF flagOTHR (some .epc1g2ListTagID),
    nullItem 0xEE flagOTHR (some .epc1g2ListMaskTagID),
    nullItem 0xED flagOTHR (some .epc1g2GetIDList),
    nullItem 0xEC flagOTHR (some .epc1g2ReadWordBlock),
    nullItem 0xEB flagOTHR (some .epc1g2WriteWordBlock),
    nullItem 0xEA flagOTHR (some .epc1g2WriteSetBlock),
    nullItem 0xE9 flagOTHR (some .eraseTagData),
    nullItem 0xE8 flagOTHR (some .destroyTag),
    nullItem 0xE7 flagOTHR (some .epc1g2WriteEPC),
    nullItem 0xE6 flagOTHR (some .dataLocking),
    nullItem 0xE5 flagOTHR (some .epc1g2Changeeas),
    nullItem 0xE4 flagOTHR (some .epc1g2EasAlarm),
    nullItem 0xE3 flagOTHR (some .epc1g2ReadProtect),
    nullItem 0xE2 flagOTHR (some .epc1g2RSTReadProtect),
    nullItem 0xE1 flagOTHR (some .setUserDataProtect),
    nullItem 0xE0 flagOTHR (some .readEPCAndData),
    nullItem 0xFF flagOTHR (some .detectTagNum),
    nullItem 0xFE flagOTHR (some .readLabelID),
    nullItem 0xFD flagOTHR (some .listIDReport),
    nullItem 0xFB flagOTHR (some .listSelectedID),
    nullItem 0xF6 flagOTHR (some .readByteBlock),
    nullItem 0xF5 flagOTHR (some .writeByteBlock),
    nullItem 0xF4 flagOTHR (some .writeProtect),
    nullItem 0xF3 flagOTHR (some .readWriteProtect),
    nullItem 0xF2 flagOTHR (some .writeAByte) ]

/-- `registryParams` -/
def registryParams (g : Globals) : Globals :=
  registeredItems.foldl (fun g e => registryParam e.1 e.2 g) g

/-! ### The table that is registered -/

namespace SParamTable

/-- The table with the entries of `l`, in this order, and its other entries free. -/
def ofItems (l : List (UInt8 × SParamItem)) : SParamTable :=
  { table := fun i => (l.map fun e => e.2).getD i ⟨none, 0, 0, none⟩
    tableIndex := fun i => (l.map fun e => e.1.toNat).getD i 0 }

/-- The first entry found serves the command, and no entry before it does. -/
theorem find_eq_of_first {t : SParamTable} {id i : ℕ} (hi : i < countParamItemMax)
    (h : t.tableIndex i = id) (hfirst : ∀ k < i, t.tableIndex k ≠ id) :
  t.find id = i
  := by
  have hfind : (List.range countParamItemMax).find? (fun k => t.tableIndex k = id) = some i := by
    rw [List.find?_range_eq_some]
    refine ⟨by simpa using h, by simpa using hi, ?_⟩
    intro k hk
    simpa using hfirst k hk
  rw [find, hfind]
  rfl

theorem tableIndex_find {t : SParamTable} {id : ℕ} (h : t.find id < countParamItemMax) :
  t.tableIndex (t.find id) = id
  := by
  unfold find at h ⊢
  cases hfind : (List.range countParamItemMax).find? (fun k => t.tableIndex k = id) with
  | none =>
    rw [hfind] at h
    exact absurd h (Nat.lt_irrefl _)
  | some i => simpa using List.find?_some hfind

/-- The entry after the last one of a list, with the value for the new element. -/
theorem getD_concat {α : Type} (l : List α) (a d : α) (i : ℕ) :
  (l ++ [a]).getD i d = if i = l.length then a else l.getD i d
  := by
  split
  · subst i
    simp
  · rcases Nat.lt_or_ge i l.length with hlt | hge
    · rw [List.getD_append _ _ _ _ hlt]
    · rw [List.getD_eq_default _ _ hge, List.getD_eq_default]
      rw [List.length_append, List.length_singleton]
      omega

/-- Registering at the first free entry appends to the table. -/
theorem setEntry_ofItems (l : List (UInt8 × SParamItem)) (e : UInt8 × SParamItem) :
  (ofItems l).setEntry l.length e.1.toNat e.2 = ofItems (l ++ [e])
  := by
  apply SParamTable.ext
  · funext i
    simp only [setEntry, setItem, ofItems, List.map_append, List.map_cons, List.map_nil]
    rw [getD_concat, List.length_map]
  · funext i
    simp only [setEntry, setItem, ofItems, List.map_append, List.map_cons, List.map_nil]
    rw [getD_concat, List.length_map]

theorem tableIndex_ofItems (l : List (UInt8 × SParamItem)) (i : ℕ) :
  (ofItems l).tableIndex i = (l.map fun e => e.1.toNat).getD i 0
  := rfl

theorem find_zero_ofItems {l : List (UInt8 × SParamItem)} (hids : ∀ e ∈ l, e.1 ≠ 0)
    (hl : l.length < countParamItemMax) :
  (ofItems l).find 0 = l.length
  := by
  apply find_eq_of_first hl
  · rw [tableIndex_ofItems, List.getD_eq_default _ _ (by simp)]
  · intro k hk hzero
    rw [tableIndex_ofItems, List.getD_eq_getElem _ _ (by simpa using hk), List.getElem_map] at hzero
    apply hids _ (List.getElem_mem hk)
    apply UInt8.toNat_inj.mp
    simpa using hzero

end SParamTable

/-- A list of registrations that fits fills the table in order, and changes nothing else. -/
theorem foldl_registryParam (rest : List (UInt8 × SParamItem)) :
  ∀ (l : List (UInt8 × SParamItem)) (g : Globals), g.gParamTable = .ofItems l →
    (∀ e ∈ l ++ rest, e.1 ≠ 0) → (l ++ rest).length ≤ countParamItemMax →
    rest.foldl (fun g e => registryParam e.1 e.2 g) g
      = { g with gParamTable := .ofItems (l ++ rest) }
  := by
  induction rest with
  | nil =>
    intro l g h _ _
    rw [List.append_nil, ← h]
    rfl
  | cons e rest ih =>
    intro l g h hids hlen
    have hlt : l.length < countParamItemMax := by
      simp at hlen ⊢
      omega
    have hstep : registryParam e.1 e.2 g = { g with gParamTable := .ofItems (l ++ [e]) } := by
      have hfind := SParamTable.find_zero_ofItems
        (fun e he => hids e (List.mem_append_left _ he)) hlt
      unfold registryParam
      rw [h, hfind]
      dsimp only
      rw [if_neg (Nat.not_le.mpr hlt), SParamTable.setEntry_ofItems]
    have happend : l ++ e :: rest = l ++ [e] ++ rest := List.append_cons l e rest
    rw [List.foldl_cons, hstep, happend]
    rw [happend] at hids hlen
    exact ih (l ++ [e]) _ rfl hids hlen

/-- `registryParams` registers every entry of its list; the table has room for all. -/
theorem registryParams_eq {g : Globals} (h : g.gParamTable = .empty) :
  registryParams g = { g with gParamTable := .ofItems registeredItems }
  := by
  apply foldl_registryParam registeredItems [] g h
  · decide
  · decide

/-- The commands `0x15` and `0x16`, which change the length of their entries. -/
def IsTagFilterCmd (id : UInt8) : Prop := id = 0x15 ∨ id = 0x16

instance (id : UInt8) : Decidable (IsTagFilterCmd id) :=
  inferInstanceAs (Decidable (_ ∨ _))

/-- The entry `item` is the entry registered for the command `id`, up to the length of the
entries for the tag filter. -/
structure SParamItem.Matches (id : UInt8) (item registered : SParamItem) : Prop where
  value : item.value = registered.value
  flag : item.flag = registered.flag
  function : item.function = registered.function
  length : ¬ IsTagFilterCmd id → item.length = registered.length

/-- The table is the one that `registryParams` leaves, up to the length of the entries for
the tag filter. -/
structure Registered (t : SParamTable) : Prop where
  index : ∀ i, t.tableIndex i = (registeredItems.map fun e => e.1.toNat).getD i 0
  item : ∀ i e, registeredItems[i]? = some e → (t.table i).Matches e.1 e.2

/-- The table is registered after `registryParams`. -/
theorem registered_ofItems :
  Registered (.ofItems registeredItems)
  := by
  constructor
  · intro i
    rfl
  · intro i e he
    have hitem : (SParamTable.ofItems registeredItems).table i = e.2 := by
      simp [SParamTable.ofItems, he]
    rw [hitem]
    exact ⟨rfl, rfl, rfl, fun _ => rfl⟩

namespace Registered

variable {t : SParamTable}

theorem tableIndex_eq (h : Registered t) {i : ℕ} (hi : i < registeredItems.length) :
  t.tableIndex i = registeredItems[i].1.toNat
  := by
  rw [h.index, List.getD_eq_getElem _ _ (by simpa using hi), List.getElem_map]

/-- The entry found for a command other than `0` is the one registered for it. -/
theorem lookup (h : Registered t) {c : UInt8} (hc : c ≠ 0)
    (hfound : t.getparaindex c < countParamItemMax) :
  ∃ item, (c, item) ∈ registeredItems ∧ (t.table (t.getparaindex c)).Matches c item
  := by
  have hindex := SParamTable.tableIndex_find hfound
  have hlt : t.find c.toNat < registeredItems.length := by
    by_contra hge
    rw [h.index, List.getD_eq_default _ _ (by simpa using hge)] at hindex
    apply hc
    apply UInt8.toNat_inj.mp
    simpa using hindex.symm
  rw [h.tableIndex_eq hlt] at hindex
  have hid := UInt8.toNat_inj.mp hindex
  generalize hi : t.find c.toNat = i at hlt hid
  refine ⟨registeredItems[i].2, ?_, ?_⟩
  · rw [← hid]
    exact List.getElem_mem hlt
  · have hmatch := h.item _ _ (List.getElem?_eq_getElem hlt)
    rw [SParamTable.getparaindex, hi]
    rwa [hid] at hmatch

/-- No command is registered twice. -/
theorem registeredItems_nodup :
  (registeredItems.map fun e => e.1).Nodup
  := by
  decide

/-- Every command of the list is found, at its entry. -/
theorem found (h : Registered t) {c : UInt8} {item : SParamItem}
    (hmem : (c, item) ∈ registeredItems) :
  t.getparaindex c < countParamItemMax ∧ (t.table (t.getparaindex c)).Matches c item
  := by
  obtain ⟨i, hi, hget⟩ := List.getElem_of_mem hmem
  have hmax : i < countParamItemMax := by
    have : registeredItems.length ≤ countParamItemMax := by decide
    omega
  have hfind : t.getparaindex c = i := by
    apply SParamTable.find_eq_of_first hmax
    · rw [h.tableIndex_eq hi, hget]
    · intro k hk heq
      have hklt : k < registeredItems.length := by omega
      rw [h.tableIndex_eq hklt] at heq
      have hid := UInt8.toNat_inj.mp heq
      have hne := List.pairwise_iff_getElem.mp registeredItems_nodup k i (by simpa using hklt)
        (by simpa using hi) hk
      apply hne
      rw [List.getElem_map, List.getElem_map, hid, hget]
  rw [hfind]
  refine ⟨hmax, ?_⟩
  have := h.item _ _ (List.getElem?_eq_getElem hi)
  rwa [hget] at this

/-- The entry found for a command of the list is the one of the list. -/
theorem item_unique {c : UInt8} {item item' : SParamItem} (h : (c, item) ∈ registeredItems)
    (h' : (c, item') ∈ registeredItems) :
  item = item'
  := by
  have := List.inj_on_of_nodup_map registeredItems_nodup h h' rfl
  exact congrArg Prod.snd this

/-- Changing the length of an entry for the tag filter keeps the table registered. -/
theorem setLength (h : Registered t) {c : UInt8} (hc : IsTagFilterCmd c) (length : UInt8) :
  Registered (t.setLength (t.getparaindex c) length)
  := by
  constructor
  · exact h.index
  · intro i e he
    have hmatch := h.item i e he
    simp only [SParamTable.setLength, SParamTable.setItem]
    split
    · rename_i hi
      subst hi
      refine ⟨hmatch.value, hmatch.flag, hmatch.function, ?_⟩
      intro hnot
      exfalso
      apply hnot
      obtain ⟨hlt, hget⟩ := List.getElem?_eq_some_iff.mp he
      have hfound : t.getparaindex c < countParamItemMax := by
        have : registeredItems.length ≤ countParamItemMax := by decide
        omega
      have hindex : t.tableIndex (t.getparaindex c) = c.toNat :=
        SParamTable.tableIndex_find hfound
      rw [h.tableIndex_eq hlt, hget] at hindex
      have hid := UInt8.toNat_inj.mp hindex
      rwa [hid]
    · exact hmatch

end Registered

end UhfReader
