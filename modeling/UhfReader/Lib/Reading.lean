import Mathlib.Data.List.Basic

/-!
# Computations that read a memory

A `Query` reads one cell after the other, and may choose the next cell by what it has read so
far.  Over a memory it has a result, and the places that it reads in turn.  Memories that agree on
these places lead to the same result, by way of the same places.
-/

namespace Reading

universe u v

/-- A computation that reads cells with contents in `β` at places in `ι`. -/
inductive Query (ι : Type v) (β α : Type u) where
  | done (a : α)
  | read (i : ι) (next : β → Query ι β α)

namespace Query

variable {ι : Type v} {β α γ : Type u}

/-- One computation after the other. -/
def bind (q : Query ι β α) (k : α → Query ι β γ) : Query ι β γ :=
  match q with
  | .done a => k a
  | .read i next => .read i fun b => (next b).bind k

instance : Monad (Query ι β) where
  pure := .done
  bind := bind

/-- The cell at a place. -/
def cell (i : ι) : Query ι β β := .read i .done

/-- The cells at some places. -/
def cells : List ι → Query ι β (List β)
  | [] => pure []
  | i :: is => do
    let b ← cell i
    let bs ← cells is
    return b :: bs

/-- The result over a memory. -/
def run (m : ι → β) : Query ι β α → α
  | .done a => a
  | .read i next => (next (m i)).run m

/-- The places that are read over a memory. -/
def places (m : ι → β) : Query ι β α → List ι
  | .done _ => []
  | .read i next => i :: (next (m i)).places m

variable (m : ι → β)

@[simp]
theorem run_pure (a : α) :
  (pure a : Query ι β α).run m = a
  := rfl

@[simp]
theorem places_pure (a : α) :
  (pure a : Query ι β α).places m = []
  := rfl

@[simp]
theorem run_bind (q : Query ι β α) (k : α → Query ι β γ) :
  (q >>= k).run m = (k (q.run m)).run m
  := by
  induction q with
  | done a => rfl
  | read i next ih => exact ih (m i)

@[simp]
theorem places_bind (q : Query ι β α) (k : α → Query ι β γ) :
  (q >>= k).places m = q.places m ++ (k (q.run m)).places m
  := by
  induction q with
  | done a => rfl
  | read i next ih => exact congrArg (i :: ·) (ih (m i))

@[simp]
theorem run_cell (i : ι) :
  (cell i).run m = m i
  := rfl

@[simp]
theorem places_cell (i : ι) :
  (cell i).places m = [i]
  := rfl

@[simp]
theorem run_cells (is : List ι) :
  (cells is).run m = is.map m
  := by
  induction is with
  | nil => rfl
  | cons i is ih =>
    simp only [cells, run_bind, run_cell, run_pure, ih, List.map_cons]

@[simp]
theorem places_cells (is : List ι) :
  (cells is).places m = is
  := by
  induction is with
  | nil => rfl
  | cons i is ih =>
    simp only [cells, places_bind, places_cell, places_pure, ih, List.append_nil,
      List.singleton_append]

variable {m} {m' : ι → β}

/-- Cells that are not read do not matter. -/
theorem run_congr {q : Query ι β α} (h : ∀ i ∈ q.places m, m' i = m i) :
  q.run m' = q.run m
  := by
  induction q with
  | done a => rfl
  | read i next ih =>
    have hi : m' i = m i := h i List.mem_cons_self
    unfold run
    rw [hi]
    apply ih
    intro j hj
    exact h j (List.mem_cons_of_mem i hj)

end Query

end Reading
