import Mathlib.Data.List.Find
import Mathlib.Data.List.Nodup
import Mathlib.Data.List.Perm.Basic
import Mathlib.Data.List.Range

/-!
# Keyed slots

A table of keyed slots is a pair of arrays: the slot `i` holds the value `value i` under the key
`key i`, and it is free when that is the key `vacant`.  A key is looked up by going through the
slots from the first one on, and a new entry is put into the first free slot, so that entries stand
in no particular order and with gaps between them.

`Holds t l` says that a table stands for the finite map with the entries `l`: its entries are
those of `l` in some order, and no key occurs twice.  New entries and removals keep this
(`Holds.insert`, `Holds.erase`), and lookups find what the map has (`Holds.find_lt_iff`,
`Holds.value_find`).
-/

/-- A table of slots with a key and a value in each. -/
@[ext]
structure Keyed (κ ν : Type*) where
  key : ℕ → κ
  value : ℕ → ν

namespace Keyed

variable {κ ν : Type*} [DecidableEq κ] {vacant : κ} {cap : ℕ}

/-- The first slot with the key `k`, or the capacity when there is none. -/
def find (cap : ℕ) (t : Keyed κ ν) (k : κ) : ℕ :=
  ((List.range cap).find? fun i => t.key i = k).getD cap

/-- The slot `i` replaced. -/
def set (t : Keyed κ ν) (i : ℕ) (k : κ) (v : ν) : Keyed κ ν where
  key j := if j = i then k else t.key j
  value j := if j = i then v else t.value j

/-- What is in a slot, unless it is free. -/
def entry (vacant : κ) (t : Keyed κ ν) (i : ℕ) : Option (κ × ν) :=
  if t.key i = vacant then none else some (t.key i, t.value i)

/-- What is in the slots below the capacity, in their order. -/
def entries (vacant : κ) (cap : ℕ) (t : Keyed κ ν) : List (κ × ν) :=
  (List.range cap).filterMap (t.entry vacant)

/-- The table has the entries of `l` in some order, each under its own key. -/
structure Holds (vacant : κ) (cap : ℕ) (t : Keyed κ ν) (l : List (κ × ν)) : Prop where
  perm : (t.entries vacant cap).Perm l
  nodup : (l.map Prod.fst).Nodup

variable {t : Keyed κ ν} {l : List (κ × ν)} {i : ℕ} {k : κ} {v : ν}

/-! ### Looking up -/

/-- The slot that is found has the key. -/
theorem key_find (h : t.find cap k < cap) :
  t.key (t.find cap k) = k
  := by
  unfold find at h ⊢
  cases hfind : (List.range cap).find? fun i => t.key i = k with
  | none =>
    rw [hfind] at h
    exact absurd h (Nat.lt_irrefl cap)
  | some i =>
    have hkey := List.find?_some hfind
    exact of_decide_eq_true hkey

/-- A key is found if and only if it is in a slot. -/
theorem find_lt_iff :
  t.find cap k < cap ↔ ∃ i < cap, t.key i = k
  := by
  constructor
  · intro h
    exact ⟨t.find cap k, h, key_find h⟩
  · rintro ⟨i, hi, hkey⟩
    unfold find
    cases hfind : (List.range cap).find? fun i => t.key i = k with
    | none =>
      have hnone := List.find?_eq_none.mp hfind i (List.mem_range.mpr hi)
      exact absurd (decide_eq_true hkey) hnone
    | some j => exact List.mem_range.mp (List.mem_of_find?_eq_some hfind)

/-- Tables in which the same slots have a key find it in the same place. -/
theorem find_congr {t' : Keyed κ ν} (h : ∀ i < cap, t.key i = k ↔ t'.key i = k) :
  t.find cap k = t'.find cap k
  := by
  unfold find
  congr 1
  apply List.find?_congr
  intro i hi
  exact decide_eq_decide.mpr (h i (List.mem_range.mp hi))

/-! ### Replacing a slot -/

omit [DecidableEq κ] in
theorem key_set_self (t : Keyed κ ν) (i : ℕ) (k : κ) (v : ν) :
  (t.set i k v).key i = k
  := if_pos rfl

theorem entry_set_of_ne {j : ℕ} (h : j ≠ i) :
  (t.set i k v).entry vacant j = t.entry vacant j
  := by
  simp only [entry, set, if_neg h]

/-- A key that a slot neither has nor gets is found where it was. -/
theorem find_set {k' : κ} (hold : i < cap → t.key i ≠ k') (hnew : k ≠ k') :
  (t.set i k v).find cap k' = t.find cap k'
  := by
  apply find_congr
  intro j hj
  by_cases hji : j = i
  · subst hji
    rw [key_set_self]
    exact ⟨fun h => absurd h hnew, fun h => absurd h (hold hj)⟩
  · simp only [set, if_neg hji]

/-- Nor does what is found for it change. -/
theorem value_set_find {k' : κ} (hi : i < cap) (hold : t.key i ≠ k') :
  (t.set i k v).value (t.find cap k') = t.value (t.find cap k')
  := by
  have hne : t.find cap k' ≠ i := by
    intro heq
    have hlt : t.find cap k' < cap := heq.trans_lt hi
    have hkey := key_find hlt
    rw [heq] at hkey
    exact hold hkey
  exact if_neg hne

/-- The entries before, in and behind a slot. -/
theorem entries_split (vacant : κ) (t : Keyed κ ν) (hi : i < cap) :
  ∃ before behind,
    t.entries vacant cap = before ++ (t.entry vacant i).toList ++ behind
      ∧ ∀ k v, (t.set i k v).entries vacant cap
        = before ++ ((t.set i k v).entry vacant i).toList ++ behind
  := by
  obtain ⟨m, rfl⟩ := Nat.exists_eq_add_of_lt hi
  -- the other slots stay as they are
  have hbefore : ∀ k v, (List.range i).filterMap ((t.set i k v).entry vacant)
      = (List.range i).filterMap (t.entry vacant) := by
    intro k v
    apply List.filterMap_congr
    intro j hj
    exact entry_set_of_ne (List.mem_range.mp hj).ne
  have hbehind : ∀ k v, ((List.range m).map (i + 1 + ·)).filterMap ((t.set i k v).entry vacant)
      = ((List.range m).map (i + 1 + ·)).filterMap (t.entry vacant) := by
    intro k v
    apply List.filterMap_congr
    intro j hj
    obtain ⟨d, -, rfl⟩ := List.mem_map.mp hj
    exact entry_set_of_ne (by omega)
  have hsplit : ∀ t : Keyed κ ν, t.entries vacant (i + m + 1)
      = (List.range i).filterMap (t.entry vacant) ++ (t.entry vacant i).toList
        ++ ((List.range m).map (i + 1 + ·)).filterMap (t.entry vacant) := by
    intro t
    unfold entries
    rw [show i + m + 1 = i + 1 + m by omega, List.range_add, List.range_succ,
      List.filterMap_append, List.filterMap_append]
    congr 2
  refine ⟨_, _, hsplit t, ?_⟩
  intro k v
  rw [hsplit, hbefore, hbehind]

namespace Holds

/-- A table in which all slots are free. -/
theorem empty (h : ∀ i < cap, t.key i = vacant) :
  t.Holds vacant cap []
  := by
  constructor
  · rw [entries, List.filterMap_eq_nil_iff.mpr]
    intro i hi
    exact if_pos (h i (List.mem_range.mp hi))
  · exact List.nodup_nil

variable (h : t.Holds vacant cap l)

include h

/-- The entries are those in slots that are not free. -/
theorem mem_iff :
  (k, v) ∈ l ↔ k ≠ vacant ∧ ∃ i < cap, t.key i = k ∧ t.value i = v
  := by
  rw [← h.perm.mem_iff]
  simp only [entries, entry, List.mem_filterMap, List.mem_range]
  constructor
  · rintro ⟨i, hi, hentry⟩
    split at hentry
    · cases hentry
    · rename_i hkey
      cases hentry
      exact ⟨hkey, i, hi, rfl, rfl⟩
  · rintro ⟨hk, i, hi, rfl, rfl⟩
    exact ⟨i, hi, if_neg hk⟩

/-- No two entries have the same key. -/
theorem eq_of_mem {v' : ν} (hv : (k, v) ∈ l) (hv' : (k, v') ∈ l) :
  v = v'
  := by
  have heq := List.inj_on_of_nodup_map h.nodup hv hv' rfl
  exact (Prod.mk.inj heq).2

/-- A key is found if and only if there is an entry for it. -/
theorem find_lt_iff (hk : k ≠ vacant) :
  t.find cap k < cap ↔ ∃ v, (k, v) ∈ l
  := by
  rw [Keyed.find_lt_iff]
  simp only [h.mem_iff, hk, ne_eq, not_false_eq_true, true_and]
  constructor
  · rintro ⟨i, hi, hkey⟩
    exact ⟨t.value i, i, hi, hkey, rfl⟩
  · rintro ⟨v, i, hi, hkey, -⟩
    exact ⟨i, hi, hkey⟩

/-- The slot that is found has the value of the entry. -/
theorem value_find (hmem : (k, v) ∈ l) :
  t.value (t.find cap k) = v
  := by
  have hk := (h.mem_iff.mp hmem).1
  have hlt := (h.find_lt_iff hk).mpr ⟨v, hmem⟩
  have hfound : (k, t.value (t.find cap k)) ∈ l := h.mem_iff.mpr ⟨hk, _, hlt, key_find hlt, rfl⟩
  exact h.eq_of_mem hfound hmem

theorem length_le :
  l.length ≤ cap
  := by
  rw [← h.perm.length_eq]
  exact (List.length_filterMap_le _ _).trans_eq List.length_range

/-- There is a free slot if and only if there are fewer entries than slots. -/
theorem find_vacant_lt_iff :
  t.find cap vacant < cap ↔ l.length < cap
  := by
  rw [Keyed.find_lt_iff, ← h.perm.length_eq]
  have hle := h.perm.length_eq.trans_le h.length_le
  -- as many entries as slots means that no slot is free
  have hfull : (t.entries vacant cap).length = cap ↔ ∀ i < cap, t.key i ≠ vacant := by
    have hall := List.filterMap_length_eq_length (f := t.entry vacant) (l := List.range cap)
    rw [List.length_range] at hall
    rw [entries, hall]
    simp [entry, Option.isSome_ite']
  constructor
  · rintro ⟨i, hi, hkey⟩
    apply lt_of_le_of_ne hle
    intro heq
    exact hfull.mp heq i hi hkey
  · intro hlt
    by_contra hnone
    apply hlt.ne
    apply hfull.mpr
    intro i hi hkey
    exact hnone ⟨i, hi, hkey⟩

/-- A new entry, put into a free slot. -/
theorem insert (hi : i < cap) (hfree : t.key i = vacant) (hk : k ≠ vacant)
    (hnew : ∀ v, (k, v) ∉ l) (v : ν) :
  (t.set i k v).Holds vacant cap ((k, v) :: l)
  := by
  obtain ⟨before, behind, hold, hset⟩ := entries_split vacant t hi
  have hnone : t.entry vacant i = none := if_pos hfree
  have hsome : (t.set i k v).entry vacant i = some (k, v) := by
    unfold entry
    rw [key_set_self, if_neg hk]
    congr 2
    exact if_pos rfl
  constructor
  · rw [hset, hsome]
    have hperm := h.perm
    rw [hold, hnone, Option.toList_none, List.append_nil] at hperm
    rw [Option.toList_some, List.append_assoc, List.singleton_append]
    exact List.perm_middle.trans (hperm.cons (k, v))
  · rw [List.map_cons, List.nodup_cons]
    refine ⟨?_, h.nodup⟩
    intro hmem
    obtain ⟨⟨k', v'⟩, hmem', rfl⟩ := List.mem_map.mp hmem
    exact hnew v' hmem'

/-- The entry of a slot is removed by freeing the slot. -/
theorem erase (hi : i < cap) (hkey : t.key i = k) (v : ν) :
  (t.set i vacant v).Holds vacant cap (l.filter fun e => e.1 ≠ k)
  := by
  obtain ⟨before, behind, hold, hset⟩ := entries_split vacant t hi
  have hfreed : (t.set i vacant v).entry vacant i = none := if_pos (key_set_self t i vacant v)
  -- the other slots have other keys
  have hother : ∀ e ∈ before ++ behind, e.1 ≠ k := by
    rintro ⟨k', v'⟩ hmem rfl
    by_cases hk : k' = vacant
    · have hmem' : (k', v') ∈ l := by
        apply h.perm.mem_iff.mp
        rw [hold, List.append_assoc]
        rw [List.mem_append] at hmem ⊢
        exact hmem.imp_right (List.mem_append_right _)
      exact (h.mem_iff.mp hmem').1 hk
    · have hsome : t.entry vacant i = some (k', t.value i) := by
        unfold entry
        rw [hkey, if_neg hk]
      have hnodup := ((h.perm.map Prod.fst).nodup_iff).mpr h.nodup
      rw [hold, hsome, Option.toList_some, List.append_assoc, List.singleton_append] at hnodup
      have hmiddle := (List.perm_middle.map Prod.fst).nodup_iff.mp hnodup
      have hkeys : k' ∈ (before ++ behind).map Prod.fst := List.mem_map.mpr ⟨_, hmem, rfl⟩
      exact (List.nodup_cons.mp hmiddle).1 hkeys
  have hfilter : (t.entries vacant cap).filter (fun e => e.1 ≠ k)
      = (t.set i vacant v).entries vacant cap := by
    have hslot : (t.entry vacant i).toList.filter (fun e => e.1 ≠ k) = [] := by
      apply List.filter_eq_nil_iff.mpr
      intro e he
      unfold entry at he
      split at he
      · cases he
      · obtain rfl := List.mem_singleton.mp he
        simp [hkey]
    have hself : (before ++ behind).filter (fun e => e.1 ≠ k) = before ++ behind :=
      List.filter_eq_self.mpr fun e he => decide_eq_true (hother e he)
    rw [hset, hfreed, hold, List.filter_append, List.filter_append, hslot, Option.toList_none,
      List.append_nil, List.append_nil, ← List.filter_append, hself]
  constructor
  · rw [← hfilter]
    exact h.perm.filter _
  · exact h.nodup.sublist (List.filter_sublist.map Prod.fst)

/-- A key that is in no slot has no entry to be removed. -/
theorem erase_absent (hkey : ¬ ∃ i < cap, t.key i = k) :
  t.Holds vacant cap (l.filter fun e => e.1 ≠ k)
  := by
  rw [List.filter_eq_self.mpr]
  · exact h
  · rintro ⟨k', v⟩ hmem
    obtain ⟨-, i, hi, hi', -⟩ := h.mem_iff.mp hmem
    apply decide_eq_true
    rintro rfl
    exact hkey ⟨i, hi, hi'⟩

end Holds

end Keyed
