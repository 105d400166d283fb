import Mathlib.Data.List.Chain
import Mathlib.Data.List.Perm.Basic

/-!
# Blocks that tile a range

The range of an allocator is tiled by blocks, which are used or free.  A tiling is `Settled` when no
two neighbours are free: then a free block cannot be made larger without a block being given back.

`cells p l` are the blocks of `l` with their places, when the first one is at `p`.  `firstFree` is
the place of the first free block, and `fit` that of the first free block that is large enough.
-/

namespace Tiling

/-- A block of a tiling. -/
structure Block where
  size : ℕ
  used : Bool
  deriving DecidableEq

/-- What the blocks of a list take up. -/
def total : List Block → ℕ
  | [] => 0
  | b :: l => b.size + total l

@[simp]
theorem total_nil :
  total [] = 0
  := rfl

@[simp]
theorem total_cons (b : Block) (l : List Block) :
  total (b :: l) = b.size + total l
  := rfl

@[simp]
theorem total_append (l l' : List Block) :
  total (l ++ l') = total l + total l'
  := by
  induction l with
  | nil => exact (Nat.zero_add _).symm
  | cons b l ih => rw [List.cons_append, total_cons, ih, total_cons, Nat.add_assoc]

/-- The blocks with their places. -/
def cells : ℕ → List Block → List (ℕ × Block)
  | _, [] => []
  | p, b :: l => (p, b) :: cells (p + b.size) l

@[simp]
theorem cells_nil (p : ℕ) :
  cells p [] = []
  := rfl

@[simp]
theorem cells_cons (p : ℕ) (b : Block) (l : List Block) :
  cells p (b :: l) = (p, b) :: cells (p + b.size) l
  := rfl

theorem cells_append (p : ℕ) (l l' : List Block) :
  cells p (l ++ l') = cells p l ++ cells (p + total l) l'
  := by
  induction l generalizing p with
  | nil => rfl
  | cons b l ih =>
    rw [List.cons_append, cells_cons, ih, cells_cons, total_cons, List.cons_append, Nat.add_assoc]

theorem mem_of_mem_cells {p : ℕ} {l : List Block} {c : ℕ × Block} (h : c ∈ cells p l) :
  c.2 ∈ l
  := by
  induction l generalizing p with
  | nil => cases h
  | cons b l ih =>
    obtain h | h := List.mem_cons.mp h
    · rw [h]
      exact List.mem_cons_self
    · exact List.mem_cons_of_mem b (ih h)

theorem size_le_total {l : List Block} {b : Block} (h : b ∈ l) :
  b.size ≤ total l
  := by
  induction l with
  | nil => cases h
  | cons c l ih =>
    rw [total_cons]
    obtain rfl | h := List.mem_cons.mp h
    · exact Nat.le_add_right _ _
    · exact Nat.le_trans (ih h) (Nat.le_add_left _ _)

/-- There are few blocks when each of them takes up some room. -/
theorem length_le_total {l : List Block} (h : ∀ b ∈ l, 0 < b.size) :
  l.length ≤ total l
  := by
  induction l with
  | nil => exact Nat.le_refl 0
  | cons b l ih =>
    have hb := h b List.mem_cons_self
    have hl := ih fun c hc => h c (List.mem_cons_of_mem b hc)
    rw [List.length_cons, total_cons]
    omega

/-- A cell lies inside the range. -/
theorem cell_bounds {p : ℕ} {l : List Block} {c : ℕ × Block} (h : c ∈ cells p l) :
  p ≤ c.1 ∧ c.1 + c.2.size ≤ p + total l
  := by
  induction l generalizing p with
  | nil => cases h
  | cons b l ih =>
    obtain h | h := List.mem_cons.mp h
    · rw [h, total_cons]
      simp only
      omega
    · have := ih h
      rw [total_cons]
      omega

/-- Two cells are the same one, or they are apart. -/
theorem cells_apart {p : ℕ} {l : List Block} {c c' : ℕ × Block} (h : c ∈ cells p l)
    (h' : c' ∈ cells p l) :
  c = c' ∨ c.1 + c.2.size ≤ c'.1 ∨ c'.1 + c'.2.size ≤ c.1
  := by
  induction l generalizing p with
  | nil => cases h
  | cons b l ih =>
    obtain h | h := List.mem_cons.mp h
    · obtain h' | h' := List.mem_cons.mp h'
      · exact .inl (h.trans h'.symm)
      · rw [h]
        exact .inr (.inl (cell_bounds h').1)
    · obtain h' | h' := List.mem_cons.mp h'
      · rw [h']
        exact .inr (.inr (cell_bounds h).1)
      · exact ih h h'

/-- The cells stand one behind the other. -/
theorem cells_pairwise (p : ℕ) (l : List Block) :
  (cells p l).Pairwise fun c c' => c.1 + c.2.size ≤ c'.1
  := by
  induction l generalizing p with
  | nil => exact .nil
  | cons b l ih => exact .cons (fun c hc => (cell_bounds hc).1) (ih (p + b.size))

/-- The blocks in front of a cell, and those behind it. -/
theorem exists_of_mem_cells {p : ℕ} {l : List Block} {c : ℕ × Block} (h : c ∈ cells p l) :
  ∃ l₁ l₂, l = l₁ ++ c.2 :: l₂ ∧ c.1 = p + total l₁
  := by
  induction l generalizing p with
  | nil => cases h
  | cons b l ih =>
    obtain rfl | h := List.mem_cons.mp h
    · exact ⟨[], l, rfl, rfl⟩
    · obtain ⟨l₁, l₂, hl, hc⟩ := ih h
      refine ⟨b :: l₁, l₂, by rw [List.cons_append, ← hl], ?_⟩
      rw [hc, total_cons, Nat.add_assoc]

/-! ### Free blocks -/

/-- No two neighbours are free. -/
def Settled (l : List Block) : Prop := l.IsChain fun a b => a.used ∨ b.used

theorem settled_middle {l r : List Block} {b : Block} :
  Settled (l ++ b :: r) ↔ Settled l ∧ Settled r ∧ (∀ a ∈ l.getLast?, a.used ∨ b.used)
    ∧ ∀ c ∈ r.head?, b.used ∨ c.used
  := by
  unfold Settled
  rw [List.isChain_append, List.isChain_cons]
  simp only [List.head?_cons, Option.mem_some_iff, forall_eq']
  tauto

/-- The place of the first free block, or the end. -/
def firstFree : ℕ → List Block → ℕ
  | p, [] => p
  | p, b :: l => if b.used then firstFree (p + b.size) l else p

theorem firstFree_used {l : List Block} (h : ∀ b ∈ l, b.used) (p : ℕ) (l' : List Block) :
  firstFree p (l ++ l') = firstFree (p + total l) l'
  := by
  induction l generalizing p with
  | nil => rfl
  | cons b l ih =>
    rw [List.cons_append, firstFree, if_pos (h b List.mem_cons_self),
      ih fun c hc => h c (List.mem_cons_of_mem b hc), total_cons, Nat.add_assoc]

/-- The blocks in front of the first free one are used. -/
theorem firstFree_split (p : ℕ) (l : List Block) :
  ∃ l₁ l₂, l = l₁ ++ l₂ ∧ (∀ b ∈ l₁, b.used) ∧ firstFree p l = p + total l₁
  := by
  induction l generalizing p with
  | nil => exact ⟨[], [], rfl, nofun, rfl⟩
  | cons b l ih =>
    rw [firstFree]
    split
    · rename_i hused
      obtain ⟨l₁, l₂, rfl, hl₁, hfirst⟩ := ih (p + b.size)
      refine ⟨b :: l₁, l₂, rfl, List.forall_mem_cons.mpr ⟨hused, hl₁⟩, ?_⟩
      rw [hfirst, total_cons, Nat.add_assoc]
    · exact ⟨[], b :: l, rfl, nofun, rfl⟩

/-- What is behind a free block has no part in it. -/
theorem firstFree_append {l : List Block} (h : ∃ b ∈ l, b.used = false) (p : ℕ)
    (l' l'' : List Block) :
  firstFree p (l ++ l') = firstFree p (l ++ l'')
  := by
  induction l generalizing p with
  | nil =>
    obtain ⟨b, hb, -⟩ := h
    cases hb
  | cons b l ih =>
    rw [List.cons_append, List.cons_append, firstFree, firstFree]
    cases hb : b.used with
    | false => rfl
    | true =>
      obtain ⟨c, hc, hfree⟩ := h
      obtain rfl | hc := List.mem_cons.mp hc
      · cases hb.symm.trans hfree
      · exact congrArg (ite _ · _) (ih ⟨c, hc, hfree⟩ _)

theorem le_firstFree (p : ℕ) (l : List Block) :
  p ≤ firstFree p l
  := by
  induction l generalizing p with
  | nil => exact Nat.le_refl p
  | cons b l ih =>
    rw [firstFree]
    split
    · exact Nat.le_trans (Nat.le_add_right _ _) (ih _)
    · exact Nat.le_refl p

/-- A free block is not behind the end of its list. -/
theorem firstFree_lt {l : List Block} (h : ∃ b ∈ l, b.used = false) (hpos : ∀ b ∈ l, 0 < b.size)
    (p : ℕ) (r : List Block) :
  firstFree p (l ++ r) < p + total l
  := by
  induction l generalizing p with
  | nil =>
    obtain ⟨b, hb, -⟩ := h
    cases hb
  | cons b l ih =>
    have hb := hpos b List.mem_cons_self
    rw [List.cons_append, firstFree, total_cons]
    cases hused : b.used with
    | false =>
      rw [if_neg Bool.false_ne_true]
      omega
    | true =>
      obtain ⟨c, hc, hfree⟩ := h
      obtain rfl | hc := List.mem_cons.mp hc
      · cases hused.symm.trans hfree
      · have := ih ⟨c, hc, hfree⟩ (fun d hd => hpos d (List.mem_cons_of_mem b hd)) (p + b.size)
        rw [if_pos rfl]
        omega

/-- A list has a free block, or all its blocks are used. -/
theorem free_or_used (l : List Block) :
  (∃ b ∈ l, b.used = false) ∨ ∀ b ∈ l, b.used
  := by
  by_cases h : ∃ b ∈ l, b.used = false
  · exact .inl h
  · right
    intro b hb
    by_contra hfree
    exact h ⟨b, hb, Bool.eq_false_iff.mpr hfree⟩

/-- Two free neighbours that are made one. -/
theorem firstFree_join (p : ℕ) (l r : List Block) {x : Block} (y : Block) (hx : x.used = false)
    (size : ℕ) :
  firstFree p (l ++ ⟨size, false⟩ :: r) = firstFree p (l ++ x :: y :: r)
  := by
  obtain hfree | hused := free_or_used l
  · exact firstFree_append hfree p _ _
  · rw [firstFree_used hused, firstFree_used hused, firstFree, firstFree, hx]
    rfl

/-- The place of the first free block of a size, if there is one. -/
def fit (size : ℕ) : ℕ → List Block → Option ℕ
  | _, [] => none
  | p, b :: l => if b.used = false ∧ size ≤ b.size then some p else fit size (p + b.size) l

theorem fit_used {size : ℕ} {l : List Block} (h : ∀ b ∈ l, b.used) (p : ℕ) (l' : List Block) :
  fit size p (l ++ l') = fit size (p + total l) l'
  := by
  induction l generalizing p with
  | nil => rfl
  | cons b l ih =>
    have hb : ¬ (b.used = false ∧ size ≤ b.size) := by
      rw [h b List.mem_cons_self]
      exact nofun
    rw [List.cons_append, fit, if_neg hb, ih fun c hc => h c (List.mem_cons_of_mem b hc),
      total_cons, Nat.add_assoc]

theorem fit_eq_none_iff {size p : ℕ} {l : List Block} :
  fit size p l = none ↔ ∀ b ∈ l, b.used = false → b.size < size
  := by
  induction l generalizing p with
  | nil => exact ⟨fun _ => nofun, fun _ => rfl⟩
  | cons b l ih =>
    rw [fit]
    split
    · rename_i hfit
      refine ⟨nofun, fun h => ?_⟩
      have := h b List.mem_cons_self hfit.1
      omega
    · rename_i hfit
      rw [ih, List.forall_mem_cons]
      refine ⟨fun h => ⟨fun hfree => ?_, h⟩, fun h => h.2⟩
      by_contra hlarge
      exact hfit ⟨hfree, Nat.not_lt.mp hlarge⟩

/-- The block that is found. -/
theorem exists_of_fit {size p q : ℕ} {l : List Block} (h : fit size p l = some q) :
  ∃ l₁ b l₂, l = l₁ ++ b :: l₂ ∧ q = p + total l₁ ∧ b.used = false ∧ size ≤ b.size
  := by
  induction l generalizing p with
  | nil => cases h
  | cons b l ih =>
    rw [fit] at h
    split at h
    · rename_i hfit
      cases h
      exact ⟨[], b, l, rfl, rfl, hfit.1, hfit.2⟩
    · obtain ⟨l₁, c, l₂, rfl, rfl, hfree, hsize⟩ := ih h
      exact ⟨b :: l₁, c, l₂, rfl, by rw [total_cons, Nat.add_assoc], hfree, hsize⟩

/-- A range that is settled and has no used block is one free block. -/
theorem eq_singleton_of_free {l : List Block} (h : Settled l) (hfree : ∀ b ∈ l, b.used = false)
    (hne : l ≠ []) :
  l = [⟨total l, false⟩]
  := by
  cases l with
  | nil => exact absurd rfl hne
  | cons b l =>
    cases l with
    | nil =>
      obtain ⟨size, used⟩ := b
      cases hfree _ List.mem_cons_self
      rfl
    | cons c l =>
      have hb := hfree b List.mem_cons_self
      have hc := hfree c (List.mem_cons_of_mem b List.mem_cons_self)
      obtain hused | hused := (List.isChain_cons_cons.mp h).1
      · cases hb.symm.trans hused
      · cases hc.symm.trans hused

end Tiling
