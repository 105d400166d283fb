import Mathlib.Data.List.Basic

/-!
# Lists by pages

`page c l i` is the page `i` of the list `l` when each page holds `c` elements.  The pages of a
list are its elements in their order, and after the last page there are empty ones only.
-/

namespace Pages

variable {α β : Type*}

/-- The page `i` of a list, with `c` elements on a page. -/
def page (c : ℕ) (l : List α) (i : ℕ) : List α := (l.drop (c * i)).take c

theorem length_page (c : ℕ) (l : List α) (i : ℕ) :
  (page c l i).length = min c (l.length - c * i)
  := by
  simp [page]

/-- A page after the last one is empty. -/
theorem page_eq_nil {c : ℕ} {l : List α} {i : ℕ} (h : l.length ≤ c * i) :
  page c l i = []
  := by
  rw [page, List.drop_eq_nil_of_le h, List.take_nil]

/-- The first pages of a list are its first elements. -/
theorem flatMap_page (c : ℕ) (l : List α) (k : ℕ) :
  (List.range k).flatMap (page c l) = l.take (c * k)
  := by
  induction k with
  | zero => simp
  | succ k ih =>
    rw [List.range_succ, List.flatMap_append, ih, List.flatMap_singleton, page, Nat.mul_succ,
      List.take_add]

/-- All pages of a list together, with what stands for each of its elements. -/
theorem flatMap_page_all {c : ℕ} {l : List α} {k : ℕ} (h : l.length ≤ c * k) (f : α → List β) :
  (List.range k).flatMap (fun i => (page c l i).flatMap f) = l.flatMap f
  := by
  rw [← List.flatMap_assoc, flatMap_page, List.take_of_length_le h]

/-- A page of the numbers below `n`. -/
theorem page_range (c n i : ℕ) :
  page c (List.range n) i = (List.range (min c (n - c * i))).map (c * i + ·)
  := by
  unfold page
  apply List.ext_getElem
  · simp
  · intro j _ _
    simp

end Pages
