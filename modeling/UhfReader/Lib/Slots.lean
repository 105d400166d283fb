import Mathlib.Data.Finset.Card
import Mathlib.Data.Finset.Range
import Mathlib.Logic.Function.Basic

/-!
# Tables of slots

A table of slots holds values in numbered slots, some of which are free.  Only the slots below
`window` are looked at.  During a batch new values are entered one by one: into the first free
slot of the window, or else into the slot at `cursor`, which stands behind the window until the
batch is over.  When the cursor has reached the capacity, it starts again at zero and the window
is the whole table.

`newcomers` are the values of a batch that find no free slot.  When they are distinct, a batch
keeps the values in the window distinct (`Unique.enterAll`); when there is room for all of them
behind the window, every value of the batch is in the window afterwards (`has_enterAll`).  The slot
behind the table is used when the cursor has reached the capacity (`places_lt_iff`).
-/

variable {α : Type*}

/-- A table of slots with its window and its cursor. -/
@[ext]
structure Slots (α : Type*) where
  slot : ℕ → Option α
  window : ℕ
  cursor : ℕ

namespace Slots

/-- The value is in a slot of the window. -/
def Has (s : Slots α) (a : α) : Prop := ∃ k < s.window, s.slot k = some a

/-- The values in the window. -/
def live (s : Slots α) : List α := (List.range s.window).filterMap s.slot

/-- The number of free slots in the window. -/
def free (s : Slots α) : ℕ := {k ∈ Finset.range s.window | (s.slot k).isNone}.card

/-- The first free slot of the window. -/
def firstFree (s : Slots α) : Option ℕ := (List.range s.window).find? fun k => (s.slot k).isNone

/-- The value put into the slot `k`. -/
def put (s : Slots α) (k : ℕ) (a : α) : Slots α := { s with slot := Function.update s.slot k a }

/-- The value put into the slot at the cursor, for a table of `cap` slots. -/
def append (cap : ℕ) (s : Slots α) (a : α) : Slots α :=
  if s.cursor < cap then { s.put s.cursor a with cursor := s.cursor + 1 }
  else { s.put s.cursor a with cursor := 0, window := cap }

/-- No value is in two of the first `n` slots. -/
def UniqueBelow (n : ℕ) (s : Slots α) : Prop :=
  ∀ i < n, ∀ j < n, ∀ a, s.slot i = some a → s.slot j = some a → i = j

variable {s s' : Slots α} {a b : α} {k n cap : ℕ}

theorem mem_live :
  a ∈ s.live ↔ s.Has a
  := by
  simp [live, Has]

instance [DecidableEq α] (s : Slots α) (a : α) : Decidable (s.Has a) :=
  decidable_of_iff (a ∈ s.live) mem_live

/-! ### Free slots -/

theorem firstFree_eq_some (h : s.firstFree = some k) :
  k < s.window ∧ s.slot k = none
  := by
  have hmem := List.mem_of_find?_eq_some h
  have hfree := List.find?_some h
  exact ⟨List.mem_range.mp hmem, Option.isNone_iff_eq_none.mp hfree⟩

theorem firstFree_eq_none_iff :
  s.firstFree = none ↔ s.free = 0
  := by
  simp [firstFree, free, List.find?_eq_none, Finset.filter_eq_empty_iff]

/-! ### Putting values -/

theorem put_slot (s : Slots α) (k : ℕ) (a : α) (i : ℕ) :
  (s.put k a).slot i = if i = k then some a else s.slot i
  := by
  simp [put, Function.update_apply]

/-- A value put behind the window does not change what is in it. -/
theorem live_put_of_le (h : s.window ≤ k) :
  (s.put k a).live = s.live ∧ (s.put k a).free = s.free
  := by
  have hsame : ∀ i ∈ List.range s.window, (s.put k a).slot i = s.slot i := by
    intro i hi
    rw [List.mem_range] at hi
    rw [put_slot, if_neg (by omega)]
  constructor
  · exact List.filterMap_congr hsame
  · unfold free
    congr 1
    apply Finset.filter_congr
    intro i hi
    rw [hsame i (List.mem_range.mpr (Finset.mem_range.mp hi))]

/-- A value put into a free slot of the window is one more in it. -/
theorem mem_live_put (hk : k < s.window) (hfree : s.slot k = none) :
  b ∈ (s.put k a).live ↔ b = a ∨ b ∈ s.live
  := by
  simp only [mem_live, Has, put_slot]
  constructor
  · rintro ⟨i, hi, hb⟩
    split at hb
    · left
      exact (Option.some.inj hb).symm
    · right
      exact ⟨i, hi, hb⟩
  · rintro (rfl | ⟨i, hi, hb⟩)
    · exact ⟨k, hk, if_pos rfl⟩
    · refine ⟨i, hi, ?_⟩
      rw [if_neg, hb]
      rintro rfl
      rw [hfree] at hb
      cases hb

/-- A value put into a free slot of the window takes it. -/
theorem free_put (hk : k < s.window) (hfree : s.slot k = none) :
  (s.put k a).free + 1 = s.free
  := by
  have hmem : k ∈ {i ∈ Finset.range s.window | (s.slot i).isNone} := by
    simp [hk, hfree]
  have herase : ({i ∈ Finset.range (s.put k a).window | ((s.put k a).slot i).isNone} : Finset ℕ)
      = {i ∈ Finset.range s.window | (s.slot i).isNone}.erase k := by
    ext i
    simp only [put_slot, Finset.mem_filter, Finset.mem_erase, Finset.mem_range]
    by_cases hi : i = k
    · simp [hi]
    · simp only [ne_eq, hi, not_false_eq_true, true_and]
      rfl
  unfold free
  rw [herase, Finset.card_erase_add_one hmem]

/-- A value put into a slot, when none of the other slots has it. -/
theorem UniqueBelow.put (h : ∀ i < n, ∀ j < n, i ≠ k → j ≠ k → ∀ b, s.slot i = some b →
      s.slot j = some b → i = j)
    (hnew : ∀ i < n, i ≠ k → s.slot i ≠ some a) :
  (s.put k a).UniqueBelow n
  := by
  intro i hi j hj b hib hjb
  rw [put_slot] at hib hjb
  by_cases hik : i = k
  · by_cases hjk : j = k
    · rw [hik, hjk]
    · rw [if_pos hik] at hib
      rw [if_neg hjk, ← Option.some.inj hib] at hjb
      exact absurd hjb (hnew j hj hjk)
  · rw [if_neg hik] at hib
    by_cases hjk : j = k
    · rw [if_pos hjk] at hjb
      rw [← Option.some.inj hjb] at hib
      exact absurd hib (hnew i hi hik)
    · rw [if_neg hjk] at hjb
      exact h i hi j hj hik hjk b hib hjb

/-! ### Entering a batch -/

variable [DecidableEq α]

/-- A value entered into a table of `cap` slots: nothing happens when the window has it. -/
def enter (cap : ℕ) (s : Slots α) (a : α) : Slots α :=
  if s.Has a then s
  else
    match s.firstFree with
    | some k => s.put k a
    | none => s.append cap a

/-- The end of a batch: the window reaches up to the cursor, unless it is the whole table. -/
def settle (cap : ℕ) (s : Slots α) : Slots α :=
  if s.window ≠ cap then { s with window := s.cursor } else s

/-- A batch of values entered one by one. -/
def enterAll (cap : ℕ) (s : Slots α) (l : List α) : Slots α :=
  (l.foldl (enter cap) { s with cursor := s.window }).settle cap

/-- The values of a batch that are neither known nor find one of the `free` slots.  A value that
has found a slot is known from then on; a newcomer is not. -/
def newcomers (known : List α) (free : ℕ) : List α → List α
  | [] => []
  | a :: l =>
    if a ∈ known then newcomers known free l
    else if 0 < free then newcomers (a :: known) (free - 1) l
    else a :: newcomers known 0 l

theorem newcomers_congr {known known' : List α} (h : ∀ a, a ∈ known ↔ a ∈ known') (free : ℕ)
    (l : List α) :
  newcomers known free l = newcomers known' free l
  := by
  induction l generalizing known known' free with
  | nil => rfl
  | cons a l ih =>
    have hcons : ∀ b, b ∈ a :: known ↔ b ∈ a :: known' := by
      intro b
      rw [List.mem_cons, List.mem_cons, h]
    unfold newcomers
    rw [ih h free, ih h 0, ih hcons]
    simp only [h]

/-- What entering a value can do, and what it leaves of the newcomers. -/
theorem enter_cases (cap : ℕ) (s : Slots α) (a : α) (l : List α) :
  (s.Has a ∧ s.enter cap a = s
      ∧ newcomers s.live s.free (a :: l) = newcomers s.live s.free l)
    ∨ (¬ s.Has a ∧ 0 < s.free ∧ ∃ k < s.window, s.slot k = none ∧ s.enter cap a = s.put k a
      ∧ newcomers s.live s.free (a :: l) = newcomers (s.put k a).live (s.put k a).free l)
    ∨ (¬ s.Has a ∧ s.free = 0 ∧ s.enter cap a = s.append cap a
      ∧ newcomers s.live s.free (a :: l) = a :: newcomers s.live s.free l)
  := by
  unfold enter
  by_cases h : s.Has a
  · left
    refine ⟨h, if_pos h, ?_⟩
    rw [newcomers, if_pos (mem_live.mpr h)]
  · right
    have hmem : a ∉ s.live := fun hlive => h (mem_live.mp hlive)
    rw [if_neg h]
    cases hfirst : s.firstFree with
    | some k =>
      left
      obtain ⟨hk, hnone⟩ := firstFree_eq_some hfirst
      have hput := free_put (a := a) hk hnone
      have hpos : 0 < s.free := by omega
      refine ⟨h, hpos, k, hk, hnone, rfl, ?_⟩
      rw [newcomers, if_neg hmem, if_pos hpos, ← hput, Nat.add_sub_cancel]
      apply newcomers_congr
      intro b
      rw [mem_live_put hk hnone, List.mem_cons]
    | none =>
      right
      have hzero := firstFree_eq_none_iff.mp hfirst
      refine ⟨h, hzero, rfl, ?_⟩
      rw [newcomers, if_neg hmem, hzero]
      rfl

/-! ### The values in the window are distinct -/

/-- The invariant of a batch with the values `l` still to come.  Either the window is the whole
table, or the values entered behind it are distinct from those in it and do not come again. -/
def Entering (cap : ℕ) (l : List α) (s : Slots α) : Prop :=
  (s.window = cap ∧ s.UniqueBelow cap)
    ∨ (s.window ≤ s.cursor ∧ s.cursor ≤ cap ∧ s.UniqueBelow s.cursor
      ∧ (s.window < s.cursor → s.free = 0) ∧ (newcomers s.live s.free l).Nodup
      ∧ ∀ k < s.cursor, s.window ≤ k → ∀ a, s.slot k = some a → a ∉ newcomers s.live s.free l)

theorem Entering.enter {l : List α} (h : s.Entering cap (a :: l)) :
  (s.enter cap a).Entering cap l
  := by
  obtain ⟨hfull, hunique⟩ | ⟨hwindow, hcursor, hunique, hfilled, hnodup, hbehind⟩ := h
  · -- the whole table is in the window, so the value is nowhere in the table when it is entered
    left
    have hnew : ¬ s.Has a → ∀ k, (s.put k a).UniqueBelow cap := by
      intro hhas k
      apply UniqueBelow.put
      · intro i hi j hj _ _
        exact hunique i hi j hj
      · intro i hi _ hia
        exact hhas ⟨i, by omega, hia⟩
    obtain ⟨-, heq, -⟩ | ⟨hhas, -, k, -, -, heq, -⟩ | ⟨hhas, -, heq, -⟩ := enter_cases cap s a l
    · rw [heq]
      exact ⟨hfull, hunique⟩
    · rw [heq]
      exact ⟨hfull, hnew hhas k⟩
    · rw [heq]
      unfold append
      split
      · exact ⟨hfull, hnew hhas s.cursor⟩
      · exact ⟨rfl, hnew hhas s.cursor⟩
  · obtain ⟨-, heq, hleft⟩ | ⟨hhas, hpos, k, hk, hnone, heq, hleft⟩ | ⟨hhas, hzero, heq, hleft⟩ :=
      enter_cases cap s a l
    · right
      rw [heq]
      rw [hleft] at hnodup hbehind
      exact ⟨hwindow, hcursor, hunique, hfilled, hnodup, hbehind⟩
    · -- there is a free slot, so nothing has been entered behind the window
      right
      have hsame : s.cursor = s.window := by
        by_contra hne
        have := hfilled (by omega)
        omega
      rw [heq]
      rw [hleft] at hnodup hbehind
      refine ⟨hwindow, hcursor, ?_, ?_, hnodup, ?_⟩
      · apply UniqueBelow.put
        · intro i hi j hj _ _
          exact hunique i hi j hj
        · intro i hi _ hia
          exact hhas ⟨i, by
            have : i < s.cursor := hi
            omega, hia⟩
      · intro hlt
        have : s.window < s.cursor := hlt
        omega
      · intro i hi hle
        have : i < s.cursor := hi
        have : s.window ≤ i := hle
        omega
    · rw [hleft] at hnodup hbehind
      rw [heq]
      unfold append
      split
      · rename_i hlt
        right
        obtain ⟨hlive, hfree⟩ := live_put_of_le (a := a) hwindow
        obtain ⟨hfresh, hnodup⟩ := List.nodup_cons.mp hnodup
        have hnew : (s.put s.cursor a).UniqueBelow (s.cursor + 1) := by
          apply UniqueBelow.put
          · intro i hi j hj hic hjc
            exact hunique i (by omega) j (by omega)
          · intro i hi hic hia
            by_cases hin : i < s.window
            · exact hhas ⟨i, hin, hia⟩
            · exact hbehind i (by omega) (by omega) a hia List.mem_cons_self
        have hlast : ∀ k < s.cursor + 1, s.window ≤ k → ∀ b, (s.put s.cursor a).slot k = some b →
            b ∉ newcomers (s.put s.cursor a).live (s.put s.cursor a).free l := by
          intro k hk hle b hb
          rw [hlive, hfree]
          rw [put_slot] at hb
          split at hb
          · rwa [← Option.some.inj hb]
          · intro hmem
            exact hbehind k (by omega) hle b hb (List.mem_cons_of_mem a hmem)
        rw [← hlive, ← hfree] at hnodup
        exact ⟨Nat.le_succ_of_le hwindow, hlt, hnew, fun _ => hfree.trans hzero, hnodup, hlast⟩
      · -- the table is full: the value is put behind it, and the window is the whole table
        left
        refine ⟨rfl, ?_⟩
        intro i hi j hj b hib hjb
        have hi' : i ≠ s.cursor := by omega
        have hj' : j ≠ s.cursor := by omega
        have hib' : (s.put s.cursor a).slot i = some b := hib
        have hjb' : (s.put s.cursor a).slot j = some b := hjb
        rw [put_slot, if_neg hi'] at hib'
        rw [put_slot, if_neg hj'] at hjb'
        exact hunique i (by omega) j (by omega) b hib' hjb'

theorem Entering.foldl {l : List α} (h : s.Entering cap l) :
  (l.foldl (Slots.enter cap) s).Entering cap []
  := by
  induction l generalizing s with
  | nil => exact h
  | cons a l ih => exact ih h.enter

/-- A batch keeps the values in the window distinct, when the window is the whole table or no
newcomer of the batch comes twice. -/
theorem uniqueBelow_enterAll (hwindow : s.window ≤ cap) (h : s.UniqueBelow s.window) {l : List α}
    (hnew : s.window < cap → (newcomers s.live s.free l).Nodup) :
  (s.enterAll cap l).UniqueBelow (s.enterAll cap l).window
  := by
  have hstart : Entering cap l { s with cursor := s.window } := by
    by_cases hfull : s.window = cap
    · left
      refine ⟨hfull, ?_⟩
      rw [← hfull]
      exact h
    · right
      refine ⟨le_rfl, hwindow, h, ?_, hnew (by omega), ?_⟩
      · intro hlt
        exact absurd hlt (lt_irrefl _)
      · intro k hk hle
        exact absurd hk (Nat.not_lt.mpr hle)
  unfold enterAll settle
  obtain ⟨hfull, hunique⟩ | ⟨hle, hcursor, hunique, -⟩ := hstart.foldl
  · rw [if_neg (not_not.mpr hfull), hfull]
    exact hunique
  · split
    · exact hunique
    · rename_i hfull
      have hwhole := not_not.mp hfull
      rw [hwhole]
      rwa [le_antisymm hcursor (hwhole.symm.trans_le hle)] at hunique

/-! ### The window and the cursor -/

/-- The window reaches no further after a value has been entered. -/
theorem window_enter_le {N : ℕ} (hcap : cap ≤ N) (hwindow : s.window ≤ N) (a : α) :
  (s.enter cap a).window ≤ N
  := by
  obtain ⟨-, heq, -⟩ | ⟨-, -, k, -, -, heq, -⟩ | ⟨-, -, heq, -⟩ := enter_cases cap s a []
  · rwa [heq]
  · rwa [heq]
  · rw [heq]
    unfold append
    split
    · exact hwindow
    · exact hcap

/-- The cursor comes no further than to the end of the table. -/
theorem cursor_enter_le {N : ℕ} (hcap : cap ≤ N) (hcursor : s.cursor ≤ N) (a : α) :
  (s.enter cap a).cursor ≤ N
  := by
  obtain ⟨-, heq, -⟩ | ⟨-, -, k, -, -, heq, -⟩ | ⟨-, -, heq, -⟩ := enter_cases cap s a []
  · rwa [heq]
  · rwa [heq]
  · rw [heq]
    unfold append
    split
    · rename_i hlt
      exact hlt.trans_le hcap
    · exact Nat.zero_le N

/-- The window after a batch reaches no further than before, or than the table. -/
theorem window_enterAll_le {N : ℕ} (hcap : cap ≤ N) (hwindow : s.window ≤ N) (l : List α) :
  (s.enterAll cap l).window ≤ N
  := by
  have hfold : ∀ (l : List α) (s : Slots α), s.window ≤ N → s.cursor ≤ N →
      (l.foldl (Slots.enter cap) s).window ≤ N ∧ (l.foldl (Slots.enter cap) s).cursor ≤ N := by
    intro l
    induction l with
    | nil =>
      intro s hwindow hcursor
      exact ⟨hwindow, hcursor⟩
    | cons a l ih =>
      intro s hwindow hcursor
      exact ih _ (window_enter_le hcap hwindow a) (cursor_enter_le hcap hcursor a)
  obtain ⟨hend, hcursor⟩ := hfold l { s with cursor := s.window } hwindow hwindow
  unfold enterAll settle
  split
  · exact hcursor
  · exact hend

/-- The window after a batch is inside the table. -/
theorem window_enterAll (hwindow : s.window ≤ cap) (l : List α) :
  (s.enterAll cap l).window ≤ cap
  := window_enterAll_le le_rfl hwindow l

/-! ### No value of a batch is lost -/

/-- The invariant of a batch with the values `l` still to come: those that have come are in the
table before the cursor, and there is room for the newcomers. -/
structure Keeping (cap : ℕ) (come l : List α) (s : Slots α) : Prop where
  window : s.window ≤ s.cursor
  room : s.cursor + (newcomers s.live s.free l).length ≤ cap
  kept : ∀ a ∈ come, ∃ k < s.cursor, s.slot k = some a

theorem Keeping.enter {come l : List α} (h : s.Keeping cap come (a :: l)) :
  (s.enter cap a).Keeping cap (come ++ [a]) l
  := by
  have hroom := h.room
  obtain ⟨⟨k, hk, hka⟩, heq, hleft⟩ | ⟨-, -, k, hk, hnone, heq, hleft⟩ | ⟨-, -, heq, hleft⟩ :=
    enter_cases cap s a l
  · rw [heq]
    rw [hleft] at hroom
    refine ⟨h.window, hroom, ?_⟩
    intro b hb
    rw [List.mem_append, List.mem_singleton] at hb
    obtain hb | rfl := hb
    · exact h.kept b hb
    · exact ⟨k, hk.trans_le h.window, hka⟩
  · rw [heq]
    rw [hleft] at hroom
    refine ⟨h.window, hroom, ?_⟩
    intro b hb
    rw [List.mem_append, List.mem_singleton] at hb
    obtain hb | rfl := hb
    · obtain ⟨i, hi, hib⟩ := h.kept b hb
      refine ⟨i, hi, ?_⟩
      rw [put_slot, if_neg, hib]
      rintro rfl
      rw [hnone] at hib
      cases hib
    · exact ⟨k, hk.trans_le h.window, by rw [put_slot, if_pos rfl]⟩
  · rw [hleft, List.length_cons] at hroom
    have hlt : s.cursor < cap := by omega
    obtain ⟨hlive, hfree⟩ := live_put_of_le (a := a) h.window
    rw [heq, append, if_pos hlt]
    refine ⟨Nat.le_succ_of_le h.window, ?_, ?_⟩
    · have hsame : newcomers (s.put s.cursor a).live (s.put s.cursor a).free l
          = newcomers s.live s.free l := by rw [hlive, hfree]
      have : s.cursor + 1 + (newcomers (s.put s.cursor a).live (s.put s.cursor a).free l).length
          ≤ cap := by
        rw [hsame]
        omega
      exact this
    · intro b hb
      rw [List.mem_append, List.mem_singleton] at hb
      obtain hb | rfl := hb
      · obtain ⟨i, hi, hib⟩ := h.kept b hb
        refine ⟨i, Nat.lt_succ_of_lt hi, ?_⟩
        have : (s.put s.cursor a).slot i = some b := by
          rw [put_slot, if_neg (by omega), hib]
        exact this
      · refine ⟨s.cursor, Nat.lt_succ_self _, ?_⟩
        have : (s.put s.cursor b).slot s.cursor = some b := by
          rw [put_slot, if_pos rfl]
        exact this

theorem Keeping.foldl {come l : List α} (h : s.Keeping cap come l) :
  (l.foldl (Slots.enter cap) s).Keeping cap (come ++ l) []
  := by
  induction l generalizing s come with
  | nil => rwa [List.append_nil]
  | cons a l ih =>
    have hrest := ih h.enter
    rwa [List.append_assoc] at hrest

/-- Every value of a batch is in the window afterwards, when there is room behind the window for
all its newcomers. -/
theorem has_enterAll {l : List α} (hroom : s.window + (newcomers s.live s.free l).length ≤ cap) :
  ∀ a ∈ l, (s.enterAll cap l).Has a
  := by
  have hstart : Keeping cap [] l { s with cursor := s.window } :=
    ⟨le_rfl, hroom, fun a ha => absurd ha List.not_mem_nil⟩
  have hend := hstart.foldl
  have hle := hend.window
  have hcap := hend.room
  intro a ha
  obtain ⟨k, hk, hka⟩ := hend.kept a (by simpa using ha)
  unfold enterAll settle
  split
  · exact ⟨k, hk, hka⟩
  · rename_i hfull
    refine ⟨k, ?_, hka⟩
    rw [not_not.mp hfull] at hle ⊢
    omega

/-! ### The slots that a batch uses -/

/-- The slot used for a value: the one that has it, the first free one, or the one at the
cursor. -/
def place (s : Slots α) (a : α) : ℕ :=
  match (List.range s.window).find? fun k => s.slot k = some a with
  | some k => k
  | none => s.firstFree.getD s.cursor

/-- The slots used for the values of a batch. -/
def places (cap : ℕ) : List α → Slots α → List ℕ
  | [], _ => []
  | a :: l, s => s.place a :: places cap l (s.enter cap a)

/-- The slot used is in the window, and has the value or is free, unless a value is appended. -/
theorem place_cases (s : Slots α) (a : α) :
  ((s.Has a ∨ 0 < s.free) ∧ s.place a < s.window
      ∧ (s.slot (s.place a) = some a ∨ s.slot (s.place a) = none))
    ∨ (¬ s.Has a ∧ s.free = 0 ∧ s.place a = s.cursor)
  := by
  unfold place
  cases hfind : (List.range s.window).find? fun k => s.slot k = some a with
  | some k =>
    left
    have hk := List.mem_range.mp (List.mem_of_find?_eq_some hfind)
    have hka : s.slot k = some a := by
      simpa using List.find?_some hfind
    exact ⟨.inl ⟨k, hk, hka⟩, hk, .inl hka⟩
  | none =>
    cases hfirst : s.firstFree with
    | some k =>
      left
      have hk := firstFree_eq_some hfirst
      have hpos : s.free ≠ 0 := by
        intro hzero
        rw [firstFree_eq_none_iff.mpr hzero] at hfirst
        cases hfirst
      exact ⟨.inr (Nat.pos_of_ne_zero hpos), hk.1, .inr hk.2⟩
    | none =>
      right
      refine ⟨?_, firstFree_eq_none_iff.mp hfirst, rfl⟩
      rintro ⟨k, hk, hka⟩
      exact List.find?_eq_none.mp hfind k (List.mem_range.mpr hk) (decide_eq_true hka)

/-- In a table with fewer than `N` slots, and one behind them, no other is used. -/
theorem places_lt_of_cap_lt {N : ℕ} (hcap : cap < N) (hwindow : s.window ≤ N)
    (hcursor : s.cursor ≤ cap) (l : List α) :
  ∀ k ∈ places cap l s, k < N
  := by
  induction l generalizing s with
  | nil =>
    intro k hk
    cases hk
  | cons a l ih =>
    intro k hk
    obtain rfl | hk := List.mem_cons.mp hk
    · obtain ⟨-, hlt, -⟩ | ⟨-, -, heq⟩ := s.place_cases a
      · exact hlt.trans_le hwindow
      · rw [heq]
        exact hcursor.trans_lt hcap
    · exact ih (window_enter_le hcap.le hwindow a) (cursor_enter_le le_rfl hcursor a) k hk

/-- A batch uses the first `N` slots only if and only if the table has fewer and the cursor has not
yet come so far, or the newcomers of the batch do not bring it there. -/
theorem places_lt_iff {N : ℕ} (hcap : cap ≤ N) (hwindow : s.window ≤ s.cursor)
    (hcursor : s.cursor ≤ N) (l : List α) :
  (∀ k ∈ places cap l s, k < N)
    ↔ cap < N ∧ s.cursor < N ∨ s.cursor + (newcomers s.live s.free l).length ≤ N
  := by
  induction l generalizing s with
  | nil =>
    constructor
    · intro _
      exact .inr hcursor
    · intro _ k hk
      cases hk
  | cons a l ih =>
    unfold places
    rw [List.forall_mem_cons]
    obtain ⟨hfound, hlt, -⟩ | ⟨hhas, hzero, hplace⟩ := s.place_cases a
    · -- the slot is in the window, and the cursor stays
      rw [and_iff_right (hlt.trans_le (hwindow.trans hcursor))]
      obtain ⟨-, heq, hleft⟩ | ⟨-, -, k, -, -, heq, hleft⟩ | ⟨hhas, hzero, -⟩ :=
        enter_cases cap s a l
      · rw [heq, hleft]
        exact ih hwindow hcursor
      · rw [heq, hleft]
        exact ih hwindow hcursor
      · obtain h | h := hfound
        · exact absurd h hhas
        · omega
    · obtain ⟨h, -⟩ | ⟨-, hpos, -⟩ | ⟨-, -, heq, hleft⟩ := enter_cases cap s a l
      · exact absurd h hhas
      · omega
      · rw [hplace, heq, hleft, List.length_cons]
        by_cases hfull : s.cursor = N
        · -- the value is put behind the table
          omega
        · unfold append
          split
          · obtain ⟨hlive, hfree⟩ := live_put_of_le (a := a) hwindow
            have hrest := ih (s := { s.put s.cursor a with cursor := s.cursor + 1 })
              (Nat.le_succ_of_le hwindow) (by
                show s.cursor + 1 ≤ N
                omega)
            have hsame : newcomers { s.put s.cursor a with cursor := s.cursor + 1 }.live
                { s.put s.cursor a with cursor := s.cursor + 1 }.free l
                = newcomers s.live s.free l := by
              rw [← hlive, ← hfree]
              rfl
            rw [hrest, hsame]
            dsimp only
            omega
          · -- the cursor starts again at the first slot
            have hrest := places_lt_of_cap_lt (N := N)
              (s := { s.put s.cursor a with cursor := 0, window := cap }) (by omega) hcap
              (Nat.zero_le cap) l
            constructor
            · intro _
              left
              omega
            · intro _
              exact ⟨by omega, hrest⟩

/-! ### What becomes of a value that does not come again -/

/-- Entering a value leaves it in the slot used for it, and changes no other. -/
theorem enter_slot (cap : ℕ) (s : Slots α) (a : α) :
  (s.enter cap a).slot = Function.update s.slot (s.place a) (some a)
  := by
  unfold enter place
  cases hfind : (List.range s.window).find? fun k => s.slot k = some a with
  | some k =>
    have hk := List.mem_range.mp (List.mem_of_find?_eq_some hfind)
    have hka : s.slot k = some a := by
      simpa using List.find?_some hfind
    rw [if_pos ⟨k, hk, hka⟩, ← hka, Function.update_eq_self]
  | none =>
    have hhas : ¬ s.Has a := by
      rintro ⟨k, hk, hka⟩
      exact List.find?_eq_none.mp hfind k (List.mem_range.mpr hk) (decide_eq_true hka)
    rw [if_neg hhas]
    cases s.firstFree with
    | some k => rfl
    | none =>
      unfold append
      dsimp only
      split
      · rfl
      · rfl

/-- A slot that is not used keeps its value. -/
theorem slot_foldl_of_not_mem {l : List α} (h : k ∉ places cap l s) :
  (l.foldl (Slots.enter cap) s).slot k = s.slot k
  := by
  induction l generalizing s with
  | nil => rfl
  | cons b l ih =>
    obtain ⟨hplace, hrest⟩ := not_or.mp (mt List.mem_cons.mpr h)
    rw [List.foldl_cons, ih hrest, enter_slot, Function.update_of_ne hplace]

/-- A slot that does not have a value does not get it from a batch without it. -/
theorem slot_foldl_ne {l : List α} (hnew : a ∉ l) (h : s.slot k ≠ some a) :
  (l.foldl (Slots.enter cap) s).slot k ≠ some a
  := by
  induction l generalizing s with
  | nil => exact h
  | cons b l ih =>
    obtain ⟨hb, hrest⟩ := not_or.mp (mt List.mem_cons.mpr hnew)
    apply ih hrest
    rw [enter_slot, Function.update_apply]
    split
    · intro heq
      exact hb (Option.some.inj heq).symm
    · exact h

/-- A value that does not come again stays in its slot if and only if the batch does not use the
slot. -/
theorem slot_foldl_eq_iff {l : List α} (hnew : a ∉ l) (h : s.slot k = some a) :
  (l.foldl (Slots.enter cap) s).slot k = some a ↔ k ∉ places cap l s
  := by
  constructor
  · intro hslot hmem
    induction l generalizing s with
    | nil => cases hmem
    | cons b l ih =>
      obtain ⟨hb, hrest⟩ := not_or.mp (mt List.mem_cons.mpr hnew)
      by_cases hplace : k = s.place b
      · refine slot_foldl_ne hrest ?_ hslot
        rw [enter_slot, hplace, Function.update_self]
        intro heq
        exact hb (Option.some.inj heq).symm
      · apply ih hrest _ hslot ((List.mem_cons.mp hmem).resolve_left hplace)
        rw [enter_slot, Function.update_of_ne hplace, h]
  · intro hmem
    rw [slot_foldl_of_not_mem hmem, h]

/-- With room for the newcomers, no slot is used for a value that has another one. -/
theorem not_mem_places_of_room {l : List α} (hk : k < s.window) (hwindow : s.window ≤ s.cursor)
    (hroom : s.cursor + (newcomers s.live s.free l).length ≤ cap) (hnew : a ∉ l)
    (h : s.slot k = some a) :
  k ∉ places cap l s
  := by
  induction l generalizing s with
  | nil => exact List.not_mem_nil
  | cons b l ih =>
    obtain ⟨hb, hrest⟩ := not_or.mp (mt List.mem_cons.mpr hnew)
    have hplace : k ≠ s.place b := by
      intro heq
      rw [heq] at h hk
      obtain ⟨-, -, hsame | hnone⟩ | ⟨-, -, hcursor⟩ := s.place_cases b
      · exact hb (Option.some.inj (h.symm.trans hsame))
      · rw [hnone] at h
        cases h
      · omega
    have hslot : (s.enter cap b).slot k = some a := by
      rw [enter_slot, Function.update_of_ne hplace, h]
    have hmem : k ∉ places cap l (s.enter cap b) := by
      obtain ⟨-, heq, hleft⟩ | ⟨-, -, j, -, -, heq, hleft⟩ | ⟨-, -, heq, hleft⟩ :=
        enter_cases cap s b l
      · rw [heq] at hslot ⊢
        rw [hleft] at hroom
        exact ih hk hwindow hroom hrest hslot
      · rw [heq] at hslot ⊢
        rw [hleft] at hroom
        exact ih hk hwindow hroom hrest hslot
      · rw [hleft, List.length_cons] at hroom
        obtain ⟨hlive, hfree⟩ := live_put_of_le (a := b) hwindow
        rw [heq, append, if_pos (by omega)] at hslot ⊢
        refine ih (s := { s.put s.cursor b with cursor := s.cursor + 1 }) hk
          (Nat.le_succ_of_le hwindow) ?_ hrest hslot
        rw [← hlive, ← hfree] at hroom
        have hnext : s.cursor + 1
            + (newcomers (s.put s.cursor b).live (s.put s.cursor b).free l).length ≤ cap := by
          omega
        exact hnext
    intro hin
    exact (List.mem_cons.mp hin).elim hplace hmem

/-- Entering a value leaves the window where it is or makes it the whole table. -/
theorem window_enter (cap : ℕ) (s : Slots α) (a : α) :
  (s.enter cap a).window = cap
    ∨ (s.enter cap a).window = s.window ∧ s.cursor ≤ (s.enter cap a).cursor
  := by
  obtain ⟨-, heq, -⟩ | ⟨-, -, k, -, -, heq, -⟩ | ⟨-, -, heq, -⟩ := enter_cases cap s a []
  · rw [heq]
    exact .inr ⟨rfl, le_rfl⟩
  · rw [heq]
    exact .inr ⟨rfl, le_rfl⟩
  · rw [heq]
    unfold append
    split
    · exact .inr ⟨rfl, Nat.le_succ _⟩
    · exact .inl rfl

/-- A batch leaves the window where it is or makes it the whole table. -/
theorem window_foldl (cap : ℕ) (l : List α) (s : Slots α) :
  (l.foldl (Slots.enter cap) s).window = cap
    ∨ (l.foldl (Slots.enter cap) s).window = s.window
      ∧ s.cursor ≤ (l.foldl (Slots.enter cap) s).cursor
  := by
  induction l generalizing s with
  | nil => exact .inr ⟨rfl, le_rfl⟩
  | cons a l ih =>
    rw [List.foldl_cons]
    obtain hcap | ⟨hwindow, hcursor⟩ := ih (s.enter cap a)
    · exact .inl hcap
    · obtain hfull | ⟨hsame, hle⟩ := window_enter cap s a
      · exact .inl (hwindow.trans hfull)
      · exact .inr ⟨hwindow.trans hsame, hle.trans hcursor⟩

/-- With a cursor behind the table, the window becomes the whole table when there is a newcomer,
and else nothing moves. -/
theorem window_foldl_of_lt {l : List α} (hcursor : cap < s.cursor) :
  (newcomers s.live s.free l ≠ [] → (l.foldl (Slots.enter cap) s).window = cap)
    ∧ (newcomers s.live s.free l = [] →
      (l.foldl (Slots.enter cap) s).window = s.window
        ∧ (l.foldl (Slots.enter cap) s).cursor = s.cursor)
  := by
  induction l generalizing s with
  | nil => exact ⟨fun h => absurd rfl h, fun _ => ⟨rfl, rfl⟩⟩
  | cons a l ih =>
    rw [List.foldl_cons]
    obtain ⟨-, heq, hleft⟩ | ⟨-, -, k, -, -, heq, hleft⟩ | ⟨-, -, heq, hleft⟩ :=
      enter_cases cap s a l
    · rw [heq, hleft]
      exact ih hcursor
    · rw [heq, hleft]
      exact ih hcursor
    · rw [hleft]
      refine ⟨fun _ => ?_, fun h => by cases h⟩
      have hwindow : (s.enter cap a).window = cap := by
        rw [heq, append, if_neg (by omega)]
      obtain hfull | ⟨hsame, -⟩ := window_foldl cap l (s.enter cap a)
      · exact hfull
      · exact hsame.trans hwindow

/-- A slot of the window is behind it after a batch if and only if it is behind the table and the
batch has a newcomer. -/
theorem window_enterAll_le_iff (hk : k < s.window) (l : List α) :
  (s.enterAll cap l).window ≤ k ↔ cap ≤ k ∧ newcomers s.live s.free l ≠ []
  := by
  unfold enterAll settle
  by_cases hcap : cap ≤ k
  · have hlt : cap < s.window := hcap.trans_lt hk
    obtain ⟨hsome, hnone⟩ := window_foldl_of_lt (l := l) (s := { s with cursor := s.window }) hlt
    by_cases hnew : newcomers s.live s.free l = []
    · obtain ⟨hwindow, hcursor⟩ := hnone hnew
      have hne : (l.foldl (Slots.enter cap) { s with cursor := s.window }).window ≠ cap := by
        rw [hwindow]
        exact hlt.ne'
      rw [if_pos hne]
      constructor
      · intro hle
        rw [hcursor] at hle
        exact absurd hle (Nat.not_le.mpr hk)
      · rintro ⟨-, h⟩
        exact absurd hnew h
    · have hwindow := hsome hnew
      rw [if_neg (not_not.mpr hwindow), hwindow]
      exact ⟨fun h => ⟨h, hnew⟩, fun h => h.1⟩
  · constructor
    · intro hle
      obtain hfull | ⟨-, hcursor⟩ := window_foldl cap l { s with cursor := s.window }
      · rw [if_neg (not_not.mpr hfull), hfull] at hle
        exact absurd hle hcap
      · have hcursor' : s.window ≤ _ := hcursor
        split at hle
        · exact absurd (hcursor'.trans (by exact hle)) (Nat.not_le.mpr hk)
        · rename_i hfull
          rw [not_not.mp hfull] at hle
          exact absurd hle hcap
    · rintro ⟨h, -⟩
      exact absurd h hcap

end Slots
