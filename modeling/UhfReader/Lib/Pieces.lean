import Mathlib.Data.List.GetD

/-!
# Pieces of a record

A record is prepared in a store, piece by piece: a `Piece` has values for the places from some
offset on.  `window m off n` are the values of a store at `n` places, and what is in a window is
known from the last piece that was written there (`window_fill`), as long as the pieces after it
are apart from it.

A store that serves for several records keeps what was written for earlier ones, wherever a record
has no piece.  When the pieces of a record leave no place open, nothing of an earlier one remains.
-/

namespace Pieces

variable {α : Type*}

/-- Values for the places from `off` on. -/
structure Piece (α : Type*) where
  off : ℕ
  values : List α

namespace Piece

/-- The place behind a piece. -/
def stop (f : Piece α) : ℕ := f.off + f.values.length

/-- The store `m` with the values of a piece at its places. -/
def put (m : ℕ → α) (f : Piece α) : ℕ → α :=
  fun i => if i < f.off then m i else f.values.getD (i - f.off) (m i)

/-- A piece has no place among the `n` from `off` on. -/
def Apart (f : Piece α) (off n : ℕ) : Prop := f.stop ≤ off ∨ off + n ≤ f.off

end Piece

/-- The store `m` after pieces were written one after the other. -/
def fill (m : ℕ → α) (fs : List (Piece α)) : ℕ → α := fs.foldl Piece.put m

/-- The values of a store at the `n` places from `off` on. -/
def window (m : ℕ → α) (off n : ℕ) : List α := (List.range n).map fun i => m (off + i)

@[simp]
theorem length_window (m : ℕ → α) (off n : ℕ) :
  (window m off n).length = n
  := by
  simp [window]

theorem getElem_window {m : ℕ → α} {off n i : ℕ} (h : i < (window m off n).length) :
  (window m off n)[i] = m (off + i)
  := by
  simp [window]

/-- A window in two parts. -/
theorem window_add (m : ℕ → α) (off n k : ℕ) :
  window m off (n + k) = window m off n ++ window m (off + n) k
  := by
  unfold window
  rw [List.range_add, List.map_append, List.map_map]
  congr 1
  apply List.map_congr_left
  intro i _
  exact congrArg m (Nat.add_assoc off n i).symm

/-- A window inside another one. -/
theorem take_drop_window (m : ℕ → α) (off k : ℕ) {n i : ℕ} (h : i + k ≤ n) :
  ((window m off n).drop i).take k = window m (off + i) k
  := by
  obtain ⟨r, rfl⟩ := Nat.exists_eq_add_of_le h
  rw [Nat.add_assoc, window_add, List.drop_left' (length_window m off i), window_add,
    List.take_left' (length_window m (off + i) k)]

theorem put_outside {m : ℕ → α} {f : Piece α} {i : ℕ} (h : i < f.off ∨ f.stop ≤ i) :
  f.put m i = m i
  := by
  unfold Piece.stop at h
  unfold Piece.put
  split
  · rfl
  · exact List.getD_eq_default _ _ (by omega)

/-- A window keeps its values when a piece is written apart from it. -/
theorem window_put_apart {m : ℕ → α} {f : Piece α} {off n : ℕ} (h : f.Apart off n) :
  window (f.put m) off n = window m off n
  := by
  apply List.map_congr_left
  intro i hi
  have hlt := List.mem_range.mp hi
  apply put_outside
  unfold Piece.Apart at h
  omega

/-- The places of a piece have its values. -/
theorem window_put_same (m : ℕ → α) (f : Piece α) :
  window (f.put m) f.off f.values.length = f.values
  := by
  apply List.ext_getElem
  · exact length_window ..
  · intro i _ hi
    rw [getElem_window, Piece.put, if_neg (by omega), Nat.add_sub_cancel_left]
    exact List.getD_eq_getElem _ _ hi

@[simp]
theorem fill_nil (m : ℕ → α) :
  fill m [] = m
  := rfl

@[simp]
theorem fill_cons (m : ℕ → α) (f : Piece α) (fs : List (Piece α)) :
  fill m (f :: fs) = fill (f.put m) fs
  := rfl

theorem fill_append (m : ℕ → α) (fs gs : List (Piece α)) :
  fill m (fs ++ gs) = fill (fill m fs) gs
  := List.foldl_append

/-- A window keeps its values when pieces are written apart from it. -/
theorem window_fill_apart {m : ℕ → α} {fs : List (Piece α)} {off n : ℕ}
    (h : ∀ f ∈ fs, f.Apart off n) :
  window (fill m fs) off n = window m off n
  := by
  induction fs generalizing m with
  | nil => rfl
  | cons f fs ih =>
    rw [fill_cons, ih fun f' hf' => h f' (List.mem_cons_of_mem f hf'),
      window_put_apart (h f List.mem_cons_self)]

/-- A piece is found in the store when the pieces that are written after it are apart from it. -/
theorem window_fill (m : ℕ → α) (ps : List (Piece α)) {p : Piece α} {qs : List (Piece α)} {n : ℕ}
    (hn : p.values.length = n) (h : ∀ q ∈ qs, q.Apart p.off n) :
  window (fill m (ps ++ p :: qs)) p.off n = p.values
  := by
  rw [fill_append, fill_cons, window_fill_apart h, ← hn, window_put_same]

end Pieces
