import Mathlib.Data.List.Forall2
import Mathlib.Data.Nat.ModEq
import Mathlib.Logic.Function.Basic

/-!
# Rings of slots

Two parties share `n` slots.  One of them fills the slots in their order and begins again after the
last one, the other one empties them in the same order.  A slot is `free`, or it `has` an element.

`Holds n free has i l` says that from the slot `i` on the ring has the elements of `l`, and that its
other slots are free.  Such a ring is a queue of at most `n` elements: the slot after its elements
takes the next one (`Holds.push`), and its first slot gives the first one (`Holds.pop`).
-/

namespace Ring

variable {α : Type*} {n i k : ℕ}

/-- The slot `k` slots after `i`. -/
def place (n i k : ℕ) : ℕ := (i + k) % n

theorem place_lt (h : i < n) (k : ℕ) :
  place n i k < n
  := Nat.mod_lt _ (Nat.zero_lt_of_lt h)

@[simp]
theorem place_zero (h : i < n) :
  place n i 0 = i
  := Nat.mod_eq_of_lt h

theorem place_place (n i k k' : ℕ) :
  place n (place n i k) k' = place n i (k + k')
  := by
  unfold place
  rw [Nat.mod_add_mod, Nat.add_assoc]

@[simp]
theorem place_self (h : i < n) :
  place n i n = i
  := by
  unfold place
  rw [Nat.add_mod_right, Nat.mod_eq_of_lt h]

/-- Slots less than a round apart are different. -/
theorem place_inj {k k' : ℕ} (hk : k < n) (hk' : k' < n) (h : place n i k = place n i k') :
  k = k'
  := by
  have hmod : k ≡ k' [MOD n] := Nat.ModEq.add_left_cancel' i h
  rw [Nat.ModEq, Nat.mod_eq_of_lt hk, Nat.mod_eq_of_lt hk'] at hmod
  exact hmod

/-- A slot less than a round after another one is not that one. -/
theorem place_ne (hi : i < n) (hk : k < n) (hpos : 0 < k) :
  place n i k ≠ i
  := by
  intro heq
  have hzero : place n i k = place n i 0 := by
    rw [place_zero hi]
    exact heq
  exact Nat.ne_of_gt hpos (place_inj hk (Nat.zero_lt_of_lt hk) hzero)

/-- What a loop over the slots makes of a table, when each round only looks at its own slot. -/
theorem foldl_update {β : Type*} (f : ℕ → β → β) (m : ℕ) (t : ℕ → β) (j : ℕ) :
  (List.range m).foldl (fun t i => Function.update t i (f i (t i))) t j
    = if j < m then f j (t j) else t j
  := by
  induction m with
  | zero => rfl
  | succ m ih =>
    rw [List.range_succ, List.foldl_append, List.foldl_cons, List.foldl_nil]
    by_cases heq : j = m
    · subst heq
      rw [Function.update_self, if_pos (Nat.lt_succ_self j)]
      congr 1
      rw [ih, if_neg (Nat.lt_irrefl j)]
    · rw [Function.update_of_ne heq, ih]
      congr 1
      exact propext ⟨Nat.lt_succ_of_lt, fun h => Nat.lt_of_le_of_ne (Nat.le_of_lt_succ h) heq⟩

/-- From `i` on the ring has the elements of `l`, and its other slots are free. -/
structure Holds (n : ℕ) (free : ℕ → Prop) (has : ℕ → α → Prop) (i : ℕ) (l : List α) : Prop where
  bound : i < n
  room : l.length ≤ n
  elem : ∀ k (h : k < l.length), has (place n i k) l[k]
  rest : ∀ k, l.length ≤ k → k < n → free (place n i k)

namespace Holds

variable {free free' : ℕ → Prop} {has has' : ℕ → α → Prop} {l : List α} {a b : α}

/-- The slot that takes the next element. -/
theorem free_next (h : Holds n free has i l) (hroom : l.length < n) :
  free (place n i l.length)
  := h.rest _ (Nat.le_refl _) hroom

/-- The first slot has the first element. -/
theorem has_first (h : Holds n free has i (a :: l)) :
  has i a
  := by
  have := h.elem 0 (Nat.zero_lt_succ _)
  rwa [place_zero h.bound] at this

/-- The first slot of an empty ring is free. -/
theorem free_first (h : Holds n free has i []) :
  free i
  := by
  have := h.rest 0 (Nat.le_refl _) (Nat.zero_lt_of_lt h.bound)
  rwa [place_zero h.bound] at this

/-- In a full ring the slot that takes the next element is the first one. -/
theorem next_of_full (h : Holds n free has i l) (hfull : l.length = n) :
  place n i l.length = i
  := by
  rw [hfull, place_self h.bound]

/-- The slot that takes the next element is free as long as there is room. -/
theorem free_next_iff (h : Holds n free has i l) (hexcl : ∀ j a, has j a → ¬ free j) :
  free (place n i l.length) ↔ l.length < n
  := by
  constructor
  · intro hfree
    by_contra hfull
    have heq : l.length = n := Nat.le_antisymm h.room (Nat.not_lt.mp hfull)
    cases l with
    | nil => exact absurd h.bound (by rw [← heq]; exact Nat.not_lt_zero i)
    | cons a l =>
      rw [h.next_of_full heq] at hfree
      exact hexcl i a h.has_first hfree
  · exact h.free_next

/-- What changes nothing in the slots of a ring. -/
theorem mono (h : Holds n free has i l) (hfree : ∀ j < n, free j → free' j)
    (hhas : ∀ j < n, ∀ a, has j a → has' j a) :
  Holds n free' has' i l
  where
  bound := h.bound
  room := h.room
  elem k hk := hhas _ (place_lt h.bound k) _ (h.elem k hk)
  rest k hk hkn := hfree _ (place_lt h.bound k) (h.rest k hk hkn)

/-- The elements become others that the same slots have. -/
theorem change {β : Type*} {has' : ℕ → β → Prop} {l' : List β} (h : Holds n free has i l)
    (hall : List.Forall₂ (fun a a' => ∀ j, has j a → has' j a') l l') :
  Holds n free has' i l'
  where
  bound := h.bound
  room := hall.length_eq ▸ h.room
  elem k hk := by
    have hlt : k < l.length := hall.length_eq ▸ hk
    exact hall.get hlt hk _ (h.elem k hlt)
  rest k hk hkn := h.rest k (hall.length_eq ▸ hk) hkn

/-- A ring of which all slots are free. -/
theorem empty (hi : i < n) (hfree : ∀ j < n, free j) :
  Holds n free has i ([] : List α)
  where
  bound := hi
  room := Nat.zero_le n
  elem _ hk := absurd hk (Nat.not_lt_zero _)
  rest k _ _ := hfree _ (place_lt hi k)

/-- An element is put into the slot after the last one. -/
theorem push (h : Holds n free has i l) (hroom : l.length < n) (ha : has' (place n i l.length) a)
    (hfree : ∀ j < n, j ≠ place n i l.length → free j → free' j)
    (hhas : ∀ j < n, j ≠ place n i l.length → ∀ b, has j b → has' j b) :
  Holds n free' has' i (l ++ [a])
  where
  bound := h.bound
  room := by
    rw [List.length_append]
    exact hroom
  elem k hk := by
    rw [List.length_append] at hk
    obtain hlt | heq := Nat.lt_succ_iff_lt_or_eq.mp hk
    · rw [List.getElem_append_left hlt]
      refine hhas _ (place_lt h.bound k) ?_ _ (h.elem k hlt)
      intro heq
      exact absurd (place_inj (Nat.lt_trans hlt hroom) hroom heq) (Nat.ne_of_lt hlt)
    · have hk' : k = l.length := heq
      rw [List.getElem_concat_length hk', hk']
      exact ha
  rest k hk hkn := by
    rw [List.length_append] at hk
    refine hfree _ (place_lt h.bound k) ?_ (h.rest k (Nat.le_of_succ_le hk) hkn)
    intro heq
    exact absurd (place_inj hkn hroom heq) (Nat.ne_of_gt hk)

/-- The first element is taken out of its slot. -/
theorem pop (h : Holds n free has i (a :: l)) (hi : free' i)
    (hfree : ∀ j < n, j ≠ i → free j → free' j)
    (hhas : ∀ j < n, j ≠ i → ∀ b, has j b → has' j b) :
  Holds n free' has' (place n i 1) l
  where
  bound := place_lt h.bound 1
  room := Nat.le_of_succ_le h.room
  elem k hk := by
    have hn : k + 1 < n := Nat.lt_of_lt_of_le (Nat.succ_lt_succ hk) h.room
    rw [place_place, Nat.add_comm 1 k]
    exact hhas _ (place_lt h.bound _) (place_ne h.bound hn (Nat.succ_pos k)) _
      (h.elem (k + 1) (Nat.succ_lt_succ hk))
  rest k hk hkn := by
    rw [place_place, Nat.add_comm 1 k]
    by_cases hlast : k + 1 = n
    · rw [hlast, place_self h.bound]
      exact hi
    · have hn : k + 1 < n := Nat.lt_of_le_of_ne hkn hlast
      exact hfree _ (place_lt h.bound _) (place_ne h.bound hn (Nat.succ_pos k))
        (h.rest (k + 1) (Nat.succ_le_succ hk) hn)

/-- The first element becomes another one. -/
theorem replace (h : Holds n free has i (a :: l)) (hb : has' i b)
    (hfree : ∀ j < n, j ≠ i → free j → free' j)
    (hhas : ∀ j < n, j ≠ i → ∀ c, has j c → has' j c) :
  Holds n free' has' i (b :: l)
  where
  bound := h.bound
  room := h.room
  elem k hk := by
    cases k with
    | zero =>
      rw [place_zero h.bound]
      exact hb
    | succ k =>
      have hn : k + 1 < n := Nat.lt_of_lt_of_le hk h.room
      exact hhas _ (place_lt h.bound _) (place_ne h.bound hn (Nat.succ_pos k)) _
        (h.elem (k + 1) hk)
  rest k hk hkn := by
    have hpos : 0 < k := Nat.lt_of_lt_of_le (Nat.zero_lt_succ _) hk
    exact hfree _ (place_lt h.bound _) (place_ne h.bound hkn hpos) (h.rest k hk hkn)

end Holds

end Ring
