import UhfReader.Boot
import UhfReader.Lib.Keyed
import UhfReader.Lib.Run

/-!
# Registrations

The parameter table under any sequence of calls of `registryParam` and `unRegistryParam`.  It is a
table of keyed slots in the sense of `Lib.Keyed`: `table_index` has the keys, of which `0` marks a
free slot, and `table` the values.  `Registrations` remembers beside the globals what was
registered last for each command that is registered.
-/

namespace UhfReader

namespace SParamTable

/-- The table as one of keyed slots. -/
def keyed (t : SParamTable) : Keyed ℕ SParamItem := ⟨t.tableIndex, t.table⟩

theorem find_keyed (t : SParamTable) (id : ℕ) :
  t.keyed.find countParamItemMax id = t.find id
  := rfl

/-- Where a command is found, and what is found there. -/
def lookup (t : SParamTable) (id : UInt8) : ℕ × SParamItem :=
  (t.getparaindex id, t.table (t.getparaindex id))

/-- Replacing an entry changes the lookup of none but the command it had and the one it gets. -/
theorem lookup_setEntry {t : SParamTable} {i new : ℕ} {item : SParamItem} {id : UInt8}
    (hi : i < countParamItemMax) (hold : t.tableIndex i ≠ id.toNat) (hnew : new ≠ id.toNat) :
  (t.setEntry i new item).lookup id = t.lookup id
  := by
  have hfind : (t.setEntry i new item).getparaindex id = t.getparaindex id :=
    Keyed.find_set (t := t.keyed) (v := item) (fun _ => hold) hnew
  have hvalue : (t.setEntry i new item).table (t.getparaindex id)
      = t.table (t.getparaindex id) :=
    Keyed.value_set_find (t := t.keyed) (k := new) hi hold
  rw [lookup, hfind, hvalue, lookup]

end SParamTable

/-- A call that changes the table. -/
inductive TableCall where
  | registryParam (id : UInt8) (item : SParamItem)
  | unRegistryParam (id : UInt8)
  deriving DecidableEq, Repr

/-- The command that a call is about. -/
def TableCall.id : TableCall → UInt8
  | .registryParam id _ => id
  | .unRegistryParam id => id

/-- The globals with the commands that are registered, each with what was registered for it. -/
structure Registrations where
  globals : Globals
  held : List (UInt8 × SParamItem)

namespace Registrations

/-- Nothing is registered yet. -/
def start (g : Globals) : Registrations := ⟨g, []⟩

/-- The command is registered. -/
def Registered (s : Registrations) (id : UInt8) : Prop := ∃ item, (id, item) ∈ s.held

instance (s : Registrations) (id : UInt8) : Decidable (s.Registered id) :=
  decidable_of_iff (id ∈ s.held.map Prod.fst) (by simp [Registered])

/-- As many commands are registered as there are entries. -/
def Full (s : Registrations) : Prop := s.held.length = countParamItemMax

instance (s : Registrations) : Decidable s.Full := inferInstanceAs (Decidable (_ = _))

/-- A call.  `registryParam` is called for commands other than `0` that are not registered, and
the command is registered then, unless the table is full. -/
def step (s : Registrations) : TableCall → Option Registrations
  | .registryParam id item =>
    if id ≠ 0 ∧ ¬ s.Registered id then
      some ⟨UhfReader.registryParam id item s.globals,
        if s.Full then s.held else (id, item) :: s.held⟩
    else none
  | .unRegistryParam id =>
    some ⟨UhfReader.unRegistryParam id s.globals, s.held.filter fun e => e.1 ≠ id⟩

/-- The commands that are registered as entries of the table. -/
def heldEntries (s : Registrations) : List (ℕ × SParamItem) :=
  s.held.map fun e => (e.1.toNat, e.2)

/-- The table has the entries of the registered commands. -/
def Kept (s : Registrations) : Prop :=
  s.globals.gParamTable.keyed.Holds 0 countParamItemMax s.heldEntries

variable {s s' : Registrations} {id : UInt8} {item : SParamItem}

theorem mem_heldEntries :
  (id.toNat, item) ∈ s.heldEntries ↔ (id, item) ∈ s.held
  := by
  simp [heldEntries, UInt8.toNat_inj]

theorem toNat_ne_zero (h : id ≠ 0) :
  id.toNat ≠ 0
  := by
  intro hzero
  exact h (UInt8.toNat_inj.mp hzero)

namespace Kept

variable (h : s.Kept)

include h

/-- A command other than `0` is found if and only if it is registered. -/
theorem getparaindex_lt_iff (hid : id ≠ 0) :
  s.globals.gParamTable.getparaindex id < countParamItemMax ↔ s.Registered id
  := by
  have hfind := Keyed.Holds.find_lt_iff h (toNat_ne_zero hid)
  simp only [mem_heldEntries] at hfind
  exact hfind

/-- The entry that is found is the one that was registered. -/
theorem table_getparaindex (hmem : (id, item) ∈ s.held) :
  s.globals.gParamTable.table (s.globals.gParamTable.getparaindex id) = item
  := Keyed.Holds.value_find h (mem_heldEntries.mpr hmem)

/-- There is a free entry if and only if the table is not full. -/
theorem find_zero_lt_iff :
  s.globals.gParamTable.find 0 < countParamItemMax ↔ ¬ s.Full
  := by
  have hfind := Keyed.Holds.find_vacant_lt_iff h
  have hle := Keyed.Holds.length_le h
  rw [heldEntries, List.length_map] at hfind hle
  rw [SParamTable.find_keyed] at hfind
  rw [hfind]
  exact ⟨fun hlt => hlt.ne, fun hne => lt_of_le_of_ne hle hne⟩

/-- Registering keeps the table. -/
theorem registryParam (hid : id ≠ 0) (hnew : ¬ s.Registered id) (item : SParamItem) :
  Kept ⟨UhfReader.registryParam id item s.globals,
    if s.Full then s.held else (id, item) :: s.held⟩
  := by
  unfold UhfReader.registryParam
  dsimp only
  by_cases hfull : s.Full
  · -- there is no free entry
    have hfind := mt h.find_zero_lt_iff.mp (not_not.mpr hfull)
    rw [if_pos (Nat.not_lt.mp hfind), if_pos hfull]
    exact h
  · have hfind := h.find_zero_lt_iff.mpr hfull
    rw [if_neg (Nat.not_le.mpr hfind), if_neg hfull]
    apply Keyed.Holds.insert h hfind (Keyed.key_find hfind) (toNat_ne_zero hid)
    intro item' hmem
    exact hnew ⟨item', mem_heldEntries.mp hmem⟩

/-- Unregistering keeps the table. -/
theorem unRegistryParam (id : UInt8) :
  Kept ⟨UhfReader.unRegistryParam id s.globals, s.held.filter fun e => e.1 ≠ id⟩
  := by
  unfold UhfReader.unRegistryParam
  dsimp only
  have hfilter : (s.held.filter fun e => e.1 ≠ id).map (fun e => (e.1.toNat, e.2))
      = s.heldEntries.filter fun e => e.1 ≠ id.toNat := by
    rw [heldEntries, List.filter_map]
    congr 1
    apply List.filter_congr
    intro e _
    simp [UInt8.toNat_inj]
  unfold Kept heldEntries
  rw [hfilter]
  by_cases hfind : s.globals.gParamTable.getparaindex id < countParamItemMax
  · rw [if_neg (Nat.not_le.mpr hfind)]
    exact Keyed.Holds.erase h hfind (Keyed.key_find hfind) ⟨none, 0, 0, none⟩
  · rw [if_pos (Nat.not_lt.mp hfind)]
    exact Keyed.Holds.erase_absent h (mt Keyed.find_lt_iff.mpr hfind)

/-- Every call keeps the table. -/
theorem step {call : TableCall} (hstep : s.step call = some s') :
  s'.Kept
  := by
  cases call with
  | registryParam id item =>
    simp only [Registrations.step] at hstep
    split at hstep
    · rename_i hguard
      cases hstep
      exact h.registryParam hguard.1 hguard.2 item
    · cases hstep
  | unRegistryParam id =>
    cases hstep
    exact h.unRegistryParam id

omit h in
/-- In every run from a table without entries, the table has the entries of the commands that are
registered. -/
theorem of_run {g : Globals} {calls : List TableCall} (hempty : g.gParamTable = .empty)
    (hrun : Run.run Registrations.step calls (.start g) = some s) :
  s.Kept
  := by
  have hstart : (Registrations.start g).Kept := by
    apply Keyed.Holds.empty
    intro i _
    show g.gParamTable.tableIndex i = 0
    rw [hempty]
    rfl
  have hall : Run.Along Registrations.step (fun _ _ => True) calls (.start g) :=
    Run.Along.of_forall fun _ _ _ => trivial
  exact hall.invariant (fun s call s' hkept _ hstep => hkept.step hstep) hstart hrun

end Kept

/-- A call leaves the lookup of the other commands as it is. -/
theorem lookup_step {call : TableCall} (hstep : s.step call = some s') (hid : id ≠ 0)
    (hother : id ≠ call.id) :
  s'.globals.gParamTable.lookup id = s.globals.gParamTable.lookup id
  := by
  have hne : call.id.toNat ≠ id.toNat := fun heq => hother (UInt8.toNat_inj.mp heq).symm
  have hzero : 0 ≠ id.toNat := (toNat_ne_zero hid).symm
  cases call with
  | registryParam new item =>
    simp only [Registrations.step] at hstep
    split at hstep
    · cases hstep
      unfold UhfReader.registryParam
      dsimp only
      split
      · rfl
      · rename_i hfree
        have hkey := SParamTable.tableIndex_find (Nat.not_le.mp hfree)
        exact SParamTable.lookup_setEntry (Nat.not_le.mp hfree) (hkey.trans_ne hzero) hne
    · cases hstep
  | unRegistryParam old =>
    cases hstep
    unfold UhfReader.unRegistryParam
    dsimp only
    split
    · rfl
    · rename_i hfound
      have hkey := SParamTable.tableIndex_find (Nat.not_le.mp hfound)
      exact SParamTable.lookup_setEntry (Nat.not_le.mp hfound) (hkey.trans_ne hne) hzero

/-- `registryParam` reports a failure when the table is full, and only then. -/
theorem selfCheckFailure_step (h : s.Kept) (hstep : s.step (.registryParam id item) = some s') :
  s'.globals.selfCheckFailure = if s.Full then 1 else s.globals.selfCheckFailure
  := by
  simp only [Registrations.step] at hstep
  split at hstep
  · cases hstep
    unfold UhfReader.registryParam
    dsimp only
    by_cases hfull : s.Full
    · have hfind := mt h.find_zero_lt_iff.mp (not_not.mpr hfull)
      rw [if_pos (Nat.not_lt.mp hfind), if_pos hfull]
    · have hfind := h.find_zero_lt_iff.mpr hfull
      rw [if_neg (Nat.not_le.mpr hfind), if_neg hfull]
  · cases hstep

end Registrations

/-- In every run of registrations and their removals from an empty table, the table is the finite
map of what is registered: a command is found if and only if it is registered, with what was
registered last for it; a call changes the lookup of no other command; and a registration fails if
and only if all entries are taken.  The command `0`, which marks the free entries, is found if and
only if there is one. -/
theorem table_is_map {g : Globals} {calls : List TableCall} {s : Registrations}
    (hempty : g.gParamTable = .empty)
    (hrun : Run.run Registrations.step calls (.start g) = some s) :
  (∀ id ≠ 0, s.globals.gParamTable.getparaindex id < countParamItemMax ↔ s.Registered id)
    ∧ (∀ id item, (id, item) ∈ s.held →
      s.globals.gParamTable.table (s.globals.gParamTable.getparaindex id) = item)
    ∧ (∀ call s', s.step call = some s' → ∀ id ≠ 0, id ≠ call.id →
      s'.globals.gParamTable.lookup id = s.globals.gParamTable.lookup id)
    ∧ (∀ id item s', s.step (.registryParam id item) = some s' →
      s'.globals.selfCheckFailure = if s.Full then 1 else s.globals.selfCheckFailure)
    ∧ (s.Full ↔ ∀ i < countParamItemMax, s.globals.gParamTable.tableIndex i ≠ 0)
    ∧ (s.globals.gParamTable.getparaindex 0 < countParamItemMax ↔ ¬ s.Full)
  := by
  have hkept := Registrations.Kept.of_run hempty hrun
  refine ⟨?_, ?_, ?_, ?_, ?_, ?_⟩
  · intro id hid
    exact hkept.getparaindex_lt_iff hid
  · intro id item hmem
    exact hkept.table_getparaindex hmem
  · intro call s' hstep id hid hother
    exact Registrations.lookup_step hstep hid hother
  · intro id item s' hstep
    exact Registrations.selfCheckFailure_step hkept hstep
  · have hfree : ¬ s.Full ↔ ∃ i < countParamItemMax, s.globals.gParamTable.tableIndex i = 0 :=
      hkept.find_zero_lt_iff.symm.trans (Keyed.find_lt_iff (t := s.globals.gParamTable.keyed))
    rw [← not_not (a := s.Full), hfree]
    push Not
    rfl
  · exact hkept.find_zero_lt_iff

/-- A value of `length` bytes that can be read. -/
def readItem (length : UInt8) : SParamItem := ⟨none, flagRD, length, none⟩

/-- Two commands are registered, and the first one makes room for a third. -/
def reusingCalls : List TableCall :=
  [.registryParam 1 (readItem 1), .registryParam 2 (readItem 2), .unRegistryParam 1,
    .registryParam 3 (readItem 3)]

/-- A command takes the entry that another one has left, in front of one that was registered
before it. -/
theorem table_reused :
  ∃ s, Run.run Registrations.step reusingCalls (.start (.reset .blank)) = some s
    ∧ s.globals.gParamTable.getparaindex 3 < countParamItemMax
    ∧ s.globals.gParamTable.table (s.globals.gParamTable.getparaindex 3) = readItem 3
    ∧ ¬ s.globals.gParamTable.getparaindex 1 < countParamItemMax
    ∧ s.globals.gParamTable.getparaindex 0 < countParamItemMax
  := by
  refine ⟨_, rfl, ?_⟩
  obtain ⟨hfound, hitem, -, -, -, hzero⟩ := @table_is_map (.reset .blank) reusingCalls _ rfl rfl
  refine ⟨(hfound 3 (by decide)).mpr ⟨readItem 3, ?_⟩, hitem 3 (readItem 3) ?_, ?_, ?_⟩
  · decide
  · decide
  · rw [hfound 1 (by decide)]
    decide
  · rw [hzero]
    decide

end UhfReader
