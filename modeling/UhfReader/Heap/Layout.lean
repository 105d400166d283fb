import UhfReader.Heap

/-!
# The blocks of the heap

The `struct mem`s of the heap are a doubly linked list that runs through it from its start to its
end: `Tiled h l` says that the heap `h` is tiled by the blocks of `l`.  The operations of the heap
are made of three steps: a block becomes used or free, two neighbours that are free are made one,
and a `struct mem` is put into a block.  None of them touches the data of a block that is used
before and after it.
-/

open Memory Tiling

namespace UhfReader

/-! ### Numbers in memory -/

theorem putU16_of_ne {m : Mem} {i v j : ℕ} (h : j < i ∨ i + 2 ≤ j) :
  putU16 m i v j = m j
  := by
  unfold putU16
  rw [Mem.put_of_ne (by omega), Mem.put_of_ne (by omega)]

theorem u16At_congr {m m' : Mem} {i : ℕ} (h : ∀ j, i ≤ j → j < i + 2 → m' j = m j) :
  u16At m' i = u16At m i
  := by
  unfold u16At
  rw [h i (Nat.le_refl i) (by omega), h (i + 1) (by omega) (by omega)]

theorem u16At_putU16 (m : Mem) (i : ℕ) {v : ℕ} (h : v < 2 ^ 16) :
  u16At (putU16 m i v) i = v
  := by
  unfold u16At putU16
  rw [Mem.put_of_ne (by omega), Mem.put_same, Mem.put_same, UInt8.toNat_ofNat', UInt8.toNat_ofNat']
  omega

theorem u16At_putU16_of_ne {m : Mem} {i v j : ℕ} (h : j + 2 ≤ i ∨ i + 2 ≤ j) :
  u16At (putU16 m i v) j = u16At m j
  := u16At_congr fun _ _ _ => putU16_of_ne (by omega)

/-! ### Headers -/

/-- A `struct mem` in memory. -/
structure Header (m : Mem) (p next prev : ℕ) (used : Bool) : Prop where
  next : u16At m p = next
  prev : u16At m (p + 2) = prev
  used : m (p + 4) = if used then 1 else 0

theorem Header.congr {m m' : Mem} {p next prev : ℕ} {used : Bool} (h : Header m p next prev used)
    (hsame : ∀ j, p ≤ j → j < p + 5 → m' j = m j) :
  Header m' p next prev used
  where
  next := (u16At_congr fun j hj hj' => hsame j hj (by omega)).trans h.next
  prev := (u16At_congr fun j hj hj' => hsame j (by omega) (by omega)).trans h.prev
  used := (hsame (p + 4) (by omega) (by omega)).trans h.used

/-- The blocks of a list from `p` on, with `prev` before the first one. -/
def Seg (m : Mem) : (prev p : ℕ) → List Block → Prop
  | _, _, [] => True
  | prev, p, b :: l => Header m p (p + b.size) prev b.used ∧ Seg m p (p + b.size) l

/-- The place of the last block. -/
def lastPlace : (prev p : ℕ) → List Block → ℕ
  | prev, _, [] => prev
  | _, p, b :: l => lastPlace p (p + b.size) l

theorem lastPlace_concat (prev p : ℕ) (l : List Block) (a : Block) :
  lastPlace prev p (l ++ [a]) = p + total l
  := by
  induction l generalizing prev p with
  | nil => rfl
  | cons b l ih => rw [List.cons_append, lastPlace, ih, total_cons, Nat.add_assoc]

theorem seg_append {m : Mem} {prev p : ℕ} {l r : List Block} :
  Seg m prev p (l ++ r) ↔ Seg m prev p l ∧ Seg m (lastPlace prev p l) (p + total l) r
  := by
  induction l generalizing prev p with
  | nil => exact (true_and _).symm ▸ Iff.rfl
  | cons b l ih =>
    rw [List.cons_append, Seg, Seg, ih, lastPlace, total_cons, Nat.add_assoc, and_assoc]

/-- Blocks are large enough for a `struct mem` and data, and aligned. -/
def Proper (b : Block) : Prop := 20 ≤ b.size ∧ b.size % 4 = 0

theorem total_mod {l : List Block} (h : ∀ b ∈ l, Proper b) :
  total l % 4 = 0
  := by
  induction l with
  | nil => rfl
  | cons b l ih =>
    have hb := (h b List.mem_cons_self).2
    have hl := ih fun c hc => h c (List.mem_cons_of_mem b hc)
    rw [total_cons]
    omega

theorem Seg.congr {m m' : Mem} {prev p : ℕ} {l : List Block} (h : Seg m prev p l)
    (hproper : ∀ b ∈ l, Proper b) (hsame : ∀ j, p ≤ j → j < p + total l → m' j = m j) :
  Seg m' prev p l
  := by
  induction l generalizing prev p with
  | nil => trivial
  | cons b l ih =>
    have hb := (hproper b List.mem_cons_self).1
    rw [total_cons] at hsame
    refine ⟨h.1.congr fun j hj hj' => hsame j hj (by omega), ?_⟩
    exact ih h.2 (fun c hc => hproper c (List.mem_cons_of_mem b hc)) fun j hj hj' =>
      hsame j (by omega) (by omega)

/-- Blocks depend on their headers only. -/
theorem Seg.congr_headers {m m' : Mem} {prev p : ℕ} {l : List Block} (h : Seg m prev p l)
    (hsame : ∀ c ∈ cells p l, ∀ j, c.1 ≤ j → j < c.1 + 5 → m' j = m j) :
  Seg m' prev p l
  := by
  induction l generalizing prev p with
  | nil => trivial
  | cons b l ih =>
    rw [cells_cons] at hsame
    exact ⟨h.1.congr (hsame (p, b) List.mem_cons_self),
      ih h.2 fun c hc => hsame c (List.mem_cons_of_mem _ hc)⟩

/-- Only the first block is linked to what is before it. -/
theorem Seg.relink {m m' : Mem} {prev prev' p : ℕ} {l : List Block} (h : Seg m prev p l)
    (hproper : ∀ b ∈ l, Proper b) (hprev : l ≠ [] → u16At m' (p + 2) = prev')
    (hsame : ∀ j, p ≤ j → j < p + total l → j ≠ p + 2 → j ≠ p + 3 → m' j = m j) :
  Seg m' prev' p l
  := by
  cases l with
  | nil => trivial
  | cons b l =>
    have hb := (hproper b List.mem_cons_self).1
    rw [total_cons] at hsame
    refine ⟨⟨?_, hprev (List.cons_ne_nil b l), ?_⟩, ?_⟩
    · exact (u16At_congr fun j hj hj' =>
        hsame j hj (by omega) (by omega) (by omega)).trans h.1.next
    · exact (hsame (p + 4) (by omega) (by omega) (by omega) (by omega)).trans h.1.used
    · exact h.2.congr (fun c hc => hproper c (List.mem_cons_of_mem b hc)) fun j hj hj' =>
        hsame j (by omega) (by omega) (by omega) (by omega)

/-! ### The whole heap -/

/-- The heap is tiled by the blocks of a list. -/
structure Tiled (h : RamHeap) (l : List Block) : Prop where
  seg : Seg h.ram 0 0 l
  size : total l = memSizeAligned
  proper : ∀ b ∈ l, Proper b
  ramEnd : h.ram (memSizeAligned + 4) = 1

/-- The blocks that are used, with their places. -/
def usedCells (p : ℕ) (l : List Block) : List (ℕ × Block) := (cells p l).filter fun c => c.2.used

/-- The data of blocks are the same in two memories. -/
def DataKept (m m' : Mem) (cs : List (ℕ × Block)) : Prop :=
  ∀ c ∈ cs, ∀ j, c.1 + sizeofStructMem ≤ j → j < c.1 + c.2.size → m' j = m j

theorem DataKept.refl (m : Mem) (cs : List (ℕ × Block)) :
  DataKept m m cs
  := fun _ _ _ _ _ => rfl

theorem DataKept.mono {m m' : Mem} {cs cs' : List (ℕ × Block)} (h : DataKept m m' cs)
    (hsub : cs' ⊆ cs) :
  DataKept m m' cs'
  := fun c hc => h c (hsub hc)

theorem DataKept.trans {m m' m'' : Mem} {cs : List (ℕ × Block)} (h : DataKept m m' cs)
    (h' : DataKept m' m'' cs) :
  DataKept m m'' cs
  := fun c hc j hj hj' => (h' c hc j hj hj').trans (h c hc j hj hj')

theorem usedCells_append (p : ℕ) (l r : List Block) :
  usedCells p (l ++ r) = usedCells p l ++ usedCells (p + total l) r
  := by
  unfold usedCells
  rw [cells_append, List.filter_append]

theorem usedCells_cons (p : ℕ) (b : Block) (l : List Block) :
  usedCells p (b :: l) = (if b.used then [(p, b)] else []) ++ usedCells (p + b.size) l
  := by
  unfold usedCells
  rw [cells_cons, List.filter_cons]
  split
  · rfl
  · rfl

/-! ### What is written -/

/-- A byte of a `struct mem`, or one behind the last block. -/
def TouchesHeader (l : List Block) (j : ℕ) : Prop :=
  (∃ c ∈ cells 0 l, c.1 ≤ j ∧ j < c.1 + sizeofStructMem) ∨ total l ≤ j

theorem mem_cells_middle (l : List Block) (b : Block) (r : List Block) :
  (total l, b) ∈ cells 0 (l ++ b :: r)
  := by
  rw [cells_append, Nat.zero_add]
  exact List.mem_append_right _ List.mem_cons_self

theorem touches_middle (l : List Block) (b : Block) (r : List Block) {k : ℕ}
    (hk : k < sizeofStructMem) :
  TouchesHeader (l ++ b :: r) (total l + k)
  := .inl ⟨_, mem_cells_middle l b r, Nat.le_add_right _ _, Nat.add_lt_add_left hk _⟩

/-- What is behind the first blocks is the next `struct mem`, or the end. -/
theorem touches_behind (l r : List Block) {k : ℕ} (hk : k < sizeofStructMem) :
  TouchesHeader (l ++ r) (total l + k)
  := by
  cases r with
  | nil =>
    right
    rw [List.append_nil]
    exact Nat.le_add_right _ _
  | cons c r => exact touches_middle l c r hk

/-- The data of a block are apart from what is written for other ones. -/
theorem DataKept.of_touches {m m' : Mem} {l : List Block} (hproper : ∀ b ∈ l, Proper b)
    (h : ∀ j, m' j = m j ∨ TouchesHeader l j) :
  DataKept m m' (usedCells 0 l)
  := by
  intro c hc j hj hj'
  have hcell := (List.mem_filter.mp hc).1
  obtain hsame | ⟨c', hc', hle, hlt⟩ | hend := h j
  · exact hsame
  · exfalso
    have hsize : sizeofStructMem ≤ c'.2.size := by
      have := (hproper c'.2 (mem_of_mem_cells hc')).1
      unfold sizeofStructMem
      omega
    unfold sizeofStructMem at *
    obtain rfl | hbefore | hbehind := cells_apart hcell hc'
    · omega
    · omega
    · omega
  · have := (cell_bounds hcell).2
    omega

/-! ### The steps of the operations -/

namespace Tiled

variable {h : RamHeap} {l r : List Block} {b : Block}

/-- A block among the other ones. -/
theorem split (hl : Tiled h (l ++ b :: r)) :
  Seg h.ram 0 0 l ∧ Header h.ram (total l) (total l + b.size) (lastPlace 0 0 l) b.used
    ∧ Seg h.ram (total l) (total l + b.size) r ∧ total l + b.size + total r = memSizeAligned
  := by
  obtain ⟨hleft, hmid, hright⟩ := seg_append.mp hl.seg
  have hsize := hl.size
  rw [total_append, total_cons] at hsize
  rw [Nat.zero_add] at hmid hright
  exact ⟨hleft, hmid, hright, by omega⟩

/-- The heap does not look at `lfree` for its blocks. -/
theorem setLfree (hl : Tiled h l) (v : ℕ) :
  Tiled (h.setLfree v) l
  := ⟨hl.seg, hl.size, hl.proper, hl.ramEnd⟩

/-- A block becomes used or free. -/
theorem setUsed (hl : Tiled h (l ++ b :: r)) (u : Bool) :
  Tiled (h.setUsed (total l) (if u then 1 else 0)) (l ++ ⟨b.size, u⟩ :: r)
    ∧ DataKept h.ram (h.setUsed (total l) (if u then 1 else 0)).ram
      (usedCells 0 (l ++ ⟨b.size, u⟩ :: r))
  := by
  obtain ⟨hleft, hmid, hright, hsize⟩ := hl.split
  have hproper : ∀ c ∈ l ++ ⟨b.size, u⟩ :: r, Proper c := by
    intro c hc
    obtain hc | hc := List.mem_append.mp hc
    · exact hl.proper c (List.mem_append_left _ hc)
    · obtain rfl | hc := List.mem_cons.mp hc
      · exact hl.proper b (List.mem_append_right _ List.mem_cons_self)
      · exact hl.proper c (List.mem_append_right _ (List.mem_cons_of_mem b hc))
  have hb := (hl.proper b (List.mem_append_right _ List.mem_cons_self)).1
  have hne : ∀ j, j ≠ total l + 4 →
      (h.setUsed (total l) (if u then 1 else 0)).ram j = h.ram j := by
    intro j hj
    exact Mem.put_of_ne hj
  refine ⟨⟨seg_append.mpr ⟨?_, ⟨?_, ?_⟩⟩, ?_, hproper, ?_⟩, ?_⟩
  · refine hleft.congr (fun c hc => hl.proper c (List.mem_append_left _ hc)) ?_
    intro j _ hj
    exact hne j (by omega)
  · rw [Nat.zero_add]
    refine ⟨?_, ?_, Mem.put_same ..⟩
    · exact (u16At_congr fun j _ _ => hne j (by omega)).trans hmid.next
    · exact (u16At_congr fun j _ _ => hne j (by omega)).trans hmid.prev
  · rw [Nat.zero_add]
    refine hright.congr (fun c hc => hl.proper c
      (List.mem_append_right _ (List.mem_cons_of_mem b hc))) ?_
    intro j hj _
    exact hne j (by omega)
  · have := hl.size
    rw [total_append, total_cons] at this ⊢
    exact this
  · rw [hne _ (by omega)]
    exact hl.ramEnd
  · refine .of_touches hproper fun j => ?_
    by_cases hj : j = total l + 4
    · rw [hj]
      exact .inr (touches_middle l _ r (by decide))
    · exact .inl (hne j hj)

/-- What clients write leaves the blocks as they are. -/
theorem write (hl : Tiled h l) {c : ℕ × Block} (hc : c ∈ cells 0 l) {j : ℕ}
    (hlow : c.1 + sizeofStructMem ≤ j) (hhigh : j < c.1 + c.2.size) (v : UInt8) :
  Tiled { h with ram := h.ram.put j v } l
  := by
  have hne : ∀ c' ∈ cells 0 l, ∀ k, c'.1 ≤ k → k < c'.1 + 5 → h.ram.put j v k = h.ram k := by
    intro c' hc' k hk hk'
    apply Mem.put_of_ne
    have := (hl.proper c'.2 (mem_of_mem_cells hc')).1
    unfold sizeofStructMem at hlow
    obtain rfl | hbefore | hbehind := cells_apart hc hc'
    · omega
    · omega
    · omega
  have hbound := (cell_bounds hc).2
  have hsize := hl.size
  refine ⟨hl.seg.congr_headers hne, hsize, hl.proper, ?_⟩
  rw [← hl.ramEnd]
  exact Mem.put_of_ne (by omega)

/-- The blocks of a list that is put together again. -/
theorem proper_middle {mid : List Block} (hl : Tiled h (l ++ mid ++ r)) (mid' : List Block)
    (hmid : ∀ c ∈ mid', Proper c) :
  ∀ c ∈ l ++ (mid' ++ r), Proper c
  := by
  intro c hc
  obtain hc | hc := List.mem_append.mp hc
  · exact hl.proper c (List.mem_append_left _ (List.mem_append_left _ hc))
  · obtain hc | hc := List.mem_append.mp hc
    · exact hmid c hc
    · exact hl.proper c (List.mem_append_right _ hc)

/-- Two neighbours that are free are made one. -/
theorem joinMem {x y : Block} (hl : Tiled h (l ++ x :: y :: r)) (hx : x.used = false) :
  Tiled (h.joinMem (total l) (total l + x.size)) (l ++ ⟨x.size + y.size, false⟩ :: r)
    ∧ DataKept h.ram (h.joinMem (total l) (total l + x.size)).ram
      (usedCells 0 (l ++ ⟨x.size + y.size, false⟩ :: r))
  := by
  obtain ⟨hleft, hmid, ⟨hy, hright⟩, hsize⟩ := hl.split
  rw [total_cons] at hsize
  have hpx := hl.proper x (by simp)
  have hpy := hl.proper y (by simp)
  unfold Proper memSizeAligned at *
  have hproper : ∀ c ∈ l ++ ⟨x.size + y.size, false⟩ :: r, Proper c :=
    proper_middle (show Tiled h (l ++ [x, y] ++ r) by rwa [List.append_assoc])
      [⟨x.size + y.size, false⟩] fun c hc => by
        rw [List.mem_singleton.mp hc]
        exact ⟨Nat.le_trans hpx.1 (Nat.le_add_right _ _), by simp only; omega⟩
  have hnext : h.next (total l + x.size) = total l + x.size + y.size := hy.next
  have hsame : (h.setNext (total l) (h.next (total l + x.size))).next (total l + x.size)
      = total l + x.size + y.size := (u16At_putU16_of_ne (by omega)).trans hy.next
  have hram : (h.joinMem (total l) (total l + x.size)).ram
      = putU16 (putU16 h.ram (total l) (total l + x.size + y.size))
        (total l + x.size + y.size + 2) (total l) := by
    unfold RamHeap.joinMem
    simp only [RamHeap.setPrev, hsame]
    rw [RamHeap.setNext, hnext]
  have hne : ∀ j, j ≠ total l → j ≠ total l + 1 → j ≠ total l + x.size + y.size + 2 →
      j ≠ total l + x.size + y.size + 3 →
      (h.joinMem (total l) (total l + x.size)).ram j = h.ram j := by
    intro j _ _ _ _
    rw [hram, putU16_of_ne (by omega), putU16_of_ne (by omega)]
  refine ⟨⟨seg_append.mpr ⟨?_, ⟨?_, ?_, ?_⟩, ?_⟩, ?_, hproper, ?_⟩, ?_⟩
  · refine hleft.congr (fun c hc => hl.proper c (List.mem_append_left _ hc)) ?_
    intro j _ hj
    exact hne j (by omega) (by omega) (by omega) (by omega)
  · rw [Nat.zero_add, hram, u16At_putU16_of_ne (by omega), u16At_putU16 _ _ (by omega)]
    exact Nat.add_assoc ..
  · rw [Nat.zero_add]
    exact (u16At_congr fun j _ _ =>
      hne j (by omega) (by omega) (by omega) (by omega)).trans hmid.prev
  · rw [Nat.zero_add, hne _ (by omega) (by omega) (by omega) (by omega), hmid.used, hx]
  · rw [Nat.zero_add]
    change Seg _ (total l) (total l + (x.size + y.size)) r
    rw [← Nat.add_assoc]
    refine hright.relink (fun c hc => hl.proper c (by simp [hc])) (fun _ => ?_) ?_
    · rw [hram, u16At_putU16 _ _ (by omega)]
    · intro j hj _ h2 h3
      exact hne j (by omega) (by omega) (by omega) (by omega)
  · have := hl.size
    simp only [total_append, total_cons] at this ⊢
    rw [Nat.add_assoc x.size]
    exact this
  · rw [hne _ (by unfold memSizeAligned; omega) (by unfold memSizeAligned; omega)
      (by unfold memSizeAligned; omega) (by unfold memSizeAligned; omega)]
    exact hl.ramEnd
  · refine .of_touches hproper fun j => ?_
    have hbehind := fun {k : ℕ} (hk : k < sizeofStructMem) =>
      touches_behind (l ++ [⟨x.size + y.size, false⟩]) r hk
    simp only [List.append_assoc, List.singleton_append, total_append, total_cons, total_nil,
      Nat.add_zero, ← Nat.add_assoc] at hbehind
    by_cases h0 : j = total l
    · exact .inr (h0 ▸ touches_middle l _ r (k := 0) (by decide))
    by_cases h1 : j = total l + 1
    · exact .inr (h1 ▸ touches_middle l _ r (by decide))
    by_cases h2 : j = total l + x.size + y.size + 2
    · exact .inr (h2 ▸ hbehind (by decide))
    by_cases h3 : j = total l + x.size + y.size + 3
    · exact .inr (h3 ▸ hbehind (by decide))
    · exact .inl (hne j h0 h1 h2 h3)

/-- What `insertMem` writes: the new `struct mem`, the link to it from the one before it, and that
from the one behind it. -/
theorem insertMem_ram {mem ptr2 behind : ℕ} (hmem : mem + 20 ≤ ptr2) (hptr : ptr2 + 20 ≤ behind)
    (hbehind : behind ≤ memSizeAligned) (h : RamHeap) :
  let m := (h.insertMem mem ptr2 behind).ram
  u16At m mem = ptr2 ∧ Header m ptr2 behind mem false
    ∧ (behind ≠ memSizeAligned → u16At m (behind + 2) = ptr2)
    ∧ ∀ j, j ≠ mem → j ≠ mem + 1 → (j < ptr2 ∨ ptr2 + 5 ≤ j) → j ≠ behind + 2 → j ≠ behind + 3 →
      m j = h.ram j
  := by
  intro m
  unfold memSizeAligned at *
  let m₁ := putU16 (putU16 (putU16 (h.ram.put (ptr2 + 4) 0) ptr2 behind) (ptr2 + 2) mem) mem ptr2
  have hnext₁ : u16At m₁ ptr2 = behind := by
    rw [u16At_putU16_of_ne (by omega), u16At_putU16_of_ne (by omega), u16At_putU16 _ _ (by omega)]
  have hmem₁ : u16At m₁ mem = ptr2 := u16At_putU16 _ _ (by omega)
  have hprev₁ : u16At m₁ (ptr2 + 2) = mem := by
    rw [u16At_putU16_of_ne (by omega), u16At_putU16 _ _ (by omega)]
  have hused₁ : m₁ (ptr2 + 4) = 0 := by
    simp only [m₁]
    rw [putU16_of_ne (by omega), putU16_of_ne (by omega), putU16_of_ne (by omega), Mem.put_same]
  have hne₁ : ∀ j, j ≠ mem → j ≠ mem + 1 → (j < ptr2 ∨ ptr2 + 5 ≤ j) → m₁ j = h.ram j := by
    intro j _ _ _
    simp only [m₁]
    rw [putU16_of_ne (by omega), putU16_of_ne (by omega), putU16_of_ne (by omega),
      Mem.put_of_ne (by omega)]
  by_cases hend : behind = 1024
  · have hm : m = m₁ := by
      change (RamHeap.insertMem h mem ptr2 behind).ram = m₁
      unfold RamHeap.insertMem
      refine congrArg RamHeap.ram (if_neg ?_)
      exact not_not_intro (hnext₁.trans hend)
    rw [hm]
    exact ⟨hmem₁, ⟨hnext₁, hprev₁, hused₁⟩, fun hne => absurd hend hne,
      fun j h0 h1 h2 _ _ => hne₁ j h0 h1 h2⟩
  · have hm : m = putU16 m₁ (behind + 2) ptr2 := by
      change (RamHeap.insertMem h mem ptr2 behind).ram = _
      unfold RamHeap.insertMem
      refine (congrArg RamHeap.ram (if_pos ?_)).trans ?_
      · exact fun heq => hend (hnext₁.symm.trans heq)
      · exact congrArg (fun n => putU16 m₁ (n + 2) ptr2) hnext₁
    rw [hm]
    refine ⟨?_, ⟨?_, ?_, ?_⟩, fun _ => u16At_putU16 _ _ (by omega), ?_⟩
    · rw [u16At_putU16_of_ne (by omega), hmem₁]
    · rw [u16At_putU16_of_ne (by omega), hnext₁]
    · rw [u16At_putU16_of_ne (by omega), hprev₁]
    · rw [putU16_of_ne (by omega)]
      exact hused₁
    · intro j h0 h1 h2 h3 h4
      rw [putU16_of_ne (by omega)]
      exact hne₁ j h0 h1 h2

/-- A `struct mem` is put behind the first `size` bytes of some blocks. -/
theorem insertMem {mid : List Block} (hl : Tiled h (l ++ (b :: mid) ++ r)) {size : ℕ}
    (hsize : 20 ≤ size) (halign : size % 4 = 0) (hrest : size + 20 ≤ total (b :: mid)) :
  let h' := h.insertMem (total l) (total l + size) (total l + total (b :: mid))
  let l' := l ++ ⟨size, b.used⟩ :: ⟨total (b :: mid) - size, false⟩ :: r
  Tiled h' l' ∧ DataKept h.ram h'.ram (usedCells 0 l')
  := by
  intro h' l'
  have hl' := hl
  rw [List.append_assoc, List.cons_append] at hl'
  obtain ⟨hleft, hmid, -, hsum⟩ := hl'.split
  have hright := (seg_append.mp hl.seg).2
  rw [Nat.zero_add, total_append] at hright
  have htotal : total l + total (b :: mid) + total r = memSizeAligned := by
    have := hl.size
    rw [total_append, total_append] at this
    exact this
  have hmod := total_mod fun c hc =>
    hl.proper c (List.mem_append_left _ (List.mem_append_right _ hc))
  have hproper : ∀ c ∈ l', Proper c :=
    hl.proper_middle [⟨size, b.used⟩, ⟨total (b :: mid) - size, false⟩] fun c hc => by
      rw [List.mem_cons, List.mem_singleton] at hc
      obtain rfl | rfl := hc
      · exact ⟨hsize, halign⟩
      · exact ⟨by simp only; omega, by simp only; omega⟩
  obtain ⟨hnext, hnew, hback, hne⟩ := insertMem_ram
    (show total l + 20 ≤ total l + size by omega)
    (show total l + size + 20 ≤ total l + total (b :: mid) by omega)
    (by rw [← htotal]; exact Nat.le_add_right _ _) h
  have hb := hl.proper b (by simp)
  refine ⟨⟨seg_append.mpr ⟨?_, ⟨?_, ?_, ?_⟩, ⟨?_, ?_⟩⟩, ?_, hproper, ?_⟩, ?_⟩
  · refine hleft.congr (fun c hc =>
      hl.proper c (List.mem_append_left _ (List.mem_append_left _ hc))) ?_
    intro j _ hj
    exact hne j (by omega) (by omega) (by omega) (by omega) (by omega)
  · rw [Nat.zero_add]
    exact hnext
  · rw [Nat.zero_add]
    exact (u16At_congr fun j _ _ =>
      hne j (by omega) (by omega) (by omega) (by omega) (by omega)).trans hmid.prev
  · rw [Nat.zero_add]
    exact (hne _ (by omega) (by omega) (by omega) (by omega) (by omega)).trans hmid.used
  · rw [Nat.zero_add]
    have hsum' : total l + size + (total (b :: mid) - size) = total l + total (b :: mid) := by
      omega
    change Header _ (total l + size) (total l + size + (total (b :: mid) - size)) (total l) false
    rw [hsum']
    exact hnew
  · rw [Nat.zero_add]
    change Seg _ (total l + size) (total l + size + (total (b :: mid) - size)) r
    rw [show total l + size + (total (b :: mid) - size) = total l + total (b :: mid) by omega]
    refine hright.relink (fun c hc => hl.proper c (List.mem_append_right _ hc)) ?_ ?_
    · intro hne'
      apply hback
      cases r with
      | nil => exact absurd rfl hne'
      | cons c r =>
        have hc := (hl.proper c (by simp)).1
        have hcons := total_cons c r
        omega
    · intro j hj _ h2 h3
      exact hne j (by omega) (by omega) (by omega) (by omega) (by omega)
  · have hcons := total_cons b mid
    simp only [l', total_append, total_cons]
    omega
  · refine (hne _ ?_ ?_ ?_ ?_ ?_).trans hl.ramEnd
    all_goals omega
  · refine .of_touches hproper fun j => ?_
    have hptr := fun {k : ℕ} (hk : k < sizeofStructMem) =>
      touches_middle (l ++ [⟨size, b.used⟩]) ⟨total (b :: mid) - size, false⟩ r hk
    have hend := fun {k : ℕ} (hk : k < sizeofStructMem) =>
      touches_behind (l ++ [⟨size, b.used⟩, ⟨total (b :: mid) - size, false⟩]) r hk
    simp only [List.append_assoc, List.cons_append, List.nil_append, total_append, total_cons,
      total_nil, Nat.add_zero] at hptr hend
    by_cases h0 : j = total l
    · exact .inr (h0 ▸ touches_middle l _ _ (k := 0) (by decide))
    by_cases h1 : j = total l + 1
    · exact .inr (h1 ▸ touches_middle l _ _ (by decide))
    by_cases h2 : j < total l + size ∨ total l + size + 5 ≤ j
    · by_cases h3 : j = total l + total (b :: mid) + 2
      · right
        rw [h3]
        have := hend (k := 2) (by decide)
        rwa [show size + (b.size + total mid - size) = total (b :: mid) by
          rw [total_cons] at hrest ⊢; omega] at this
      by_cases h4 : j = total l + total (b :: mid) + 3
      · right
        rw [h4]
        have := hend (k := 3) (by decide)
        rwa [show size + (b.size + total mid - size) = total (b :: mid) by
          rw [total_cons] at hrest ⊢; omega] at this
      · exact .inl (hne j h0 h1 h2 h3 h4)
    · right
      obtain ⟨k, rfl⟩ := Nat.exists_eq_add_of_le (show total l + size ≤ j by omega)
      exact hptr (by unfold sizeofStructMem; omega)

end Tiled

end UhfReader
