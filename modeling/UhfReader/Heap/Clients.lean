import UhfReader.Heap.Operations

/-!
# What clients get from the heap

However clients ask for memory, shrink it, write it and give it back, their objects are aligned,
inside the heap and apart from one another, and hold what the clients have written.  `mem_malloc`
takes the first free block that is large enough, and when everything has been given back the heap is
one free block again.
-/

open Memory Tiling

namespace UhfReader

/-! ### Objects and blocks -/

/-- An object lies in a block. -/
structure Lies (m : Mem) (o : Object) (c : ℕ × Block) : Prop where
  addr : o.addr = c.1 + sizeofStructMem
  room : o.data.length + sizeofStructMem ≤ c.2.size
  data : (m.shift o.addr).take o.data.length = o.data

theorem Lies.congr {m m' : Mem} {o : Object} {c : ℕ × Block} (h : Lies m o c)
    (hsame : ∀ j, c.1 + sizeofStructMem ≤ j → j < c.1 + c.2.size → m' j = m j) :
  Lies m' o c
  where
  addr := h.addr
  room := h.room
  data := by
    refine Eq.trans (Mem.AgreeBelow.take_eq fun i hi => ?_) h.data
    have haddr := h.addr
    have hroom := h.room
    exact hsame _ (by omega) (by omega)

/-- The objects are those of the used blocks. -/
structure Owned (s : HeapUse) (l : List Block) (ps : List (Object × (ℕ × Block))) : Prop where
  depicts : Depicts s.heap l
  objects : ps.map Prod.fst = s.objects
  cells : (ps.map Prod.snd).Perm (usedCells 0 l)
  lies : ∀ p ∈ ps, Lies s.heap.ram p.1 p.2

theorem owned_memInit (m : Mem) :
  Owned ⟨RamHeap.memInit m, []⟩ [⟨memSizeAligned, false⟩] []
  := ⟨depicts_memInit m, rfl, .nil, nofun⟩

/-- What clients may do: they use what they have, and `mem_malloc` is asked for less than what does
not fit into a `mem_size_t` any more. -/
def HeapUse.Allowed (s : HeapUse) : HeapEvent → Prop
  | .malloc size => size + 3 < 2 ^ 16
  | .free i => i < s.objects.length
  | .realloc i newsize => ∃ o ∈ s.objects[i]?, newsize ≤ o.data.length
  | .write i off _ => ∃ o ∈ s.objects[i]?, off < o.data.length

instance (s : HeapUse) : (e : HeapEvent) → Decidable (s.Allowed e)
  | .malloc size => inferInstanceAs (Decidable (size + 3 < 2 ^ 16))
  | .free i => inferInstanceAs (Decidable (i < s.objects.length))
  | .realloc i newsize => inferInstanceAs (Decidable (∃ o ∈ s.objects[i]?, newsize ≤ o.data.length))
  | .write i off _ => inferInstanceAs (Decidable (∃ o ∈ s.objects[i]?, off < o.data.length))

namespace Owned

variable {s : HeapUse} {l : List Block} {ps : List (Object × (ℕ × Block))}

/-- An object is in a block that is used. -/
theorem exists_block (ho : Owned s l ps) {i : ℕ} {o : Object} (hi : s.objects[i]? = some o) :
  ∃ l₁ b l₂, l = l₁ ++ b :: l₂ ∧ b.used ∧ ps[i]? = some (o, total l₁, b)
  := by
  rw [← ho.objects, List.getElem?_map, Option.map_eq_some_iff] at hi
  obtain ⟨⟨o', c⟩, hp, rfl⟩ := hi
  have hmem : c ∈ usedCells 0 l :=
    ho.cells.subset (List.mem_map_of_mem (List.mem_of_getElem? hp))
  obtain ⟨hcell, hused⟩ := List.mem_filter.mp hmem
  obtain ⟨l₁, l₂, hl, hc⟩ := exists_of_mem_cells hcell
  rw [Nat.zero_add] at hc
  exact ⟨l₁, c.2, l₂, hl, hused, by rw [hp, ← hc]⟩

/-- The other objects, when one is left out. -/
theorem cells_eraseIdx {u : List (ℕ × Block)} {c : ℕ × Block} {i : ℕ} {o : Object}
    (hperm : (ps.map Prod.snd).Perm u) (hi : ps[i]? = some (o, c)) :
  u.Perm (c :: (ps.eraseIdx i).map Prod.snd)
  := by
  obtain ⟨hlt, hget⟩ := List.getElem?_eq_some_iff.mp hi
  refine hperm.symm.trans ?_
  have := (List.getElem_cons_eraseIdx_perm hlt).map Prod.snd
  rw [hget] at this
  exact this.symm

theorem malloc (ho : Owned s l ps) {size : ℕ} (hfits : size + 3 < 2 ^ 16) :
  ∃ s' l' ps', s.step (.malloc size) = some s' ∧ Owned s' l' ps'
  := by
  by_cases hsize : size = 0
  · refine ⟨s, l, ps, ?_, ho⟩
    rw [hsize]
    rfl
  obtain ⟨-, hmalloc⟩ | ⟨h', l', u₁, u₂, p, n, -, hmalloc, hd, hold, hnew, hn, hkept⟩ :=
    ho.depicts.malloc hsize hfits
  · refine ⟨s, l, ps, ?_, ho⟩
    simp only [HeapUse.step, hmalloc, Option.map_some]
  · let o : Object := ⟨p + sizeofStructMem, (h'.ram.shift (p + sizeofStructMem)).take size⟩
    refine ⟨⟨h', s.objects ++ [o]⟩, l', ps ++ [(o, p, ⟨n, true⟩)], ?_, hd, ?_, ?_, ?_⟩
    · simp only [HeapUse.step, hmalloc, Option.map_some]
      rfl
    · rw [List.map_append, ho.objects]
      rfl
    · rw [List.map_append, hnew]
      have hperm := ho.cells
      rw [hold] at hperm
      exact (List.perm_append_singleton _ _).trans ((hperm.cons _).trans List.perm_middle.symm)
    · intro q hq
      obtain hq | hq := List.mem_append.mp hq
      · have hcell := ho.cells.subset (List.mem_map_of_mem (f := Prod.snd) hq)
        exact (ho.lies q hq).congr (hkept q.2 hcell)
      · rw [List.mem_singleton.mp hq]
        have hlength : o.data.length = size := Mem.length_take _ _
        exact ⟨rfl, by rw [hlength]; exact hn, by rw [hlength]⟩

theorem free (ho : Owned s l ps) {i : ℕ} (hi : i < s.objects.length) :
  ∃ s' l' ps', s.step (.free i) = some s' ∧ Owned s' l' ps'
  := by
  have hget := List.getElem?_eq_getElem hi
  obtain ⟨l₁, b, l₂, rfl, hused, hp⟩ := ho.exists_block hget
  have hlies := ho.lies _ (List.mem_of_getElem? hp)
  obtain ⟨l', hd, hcells, hkept⟩ := ho.depicts.free hused
  have hperm := cells_eraseIdx ho.cells hp
  rw [usedCells_used 0 l₁ l₂ hused, Nat.zero_add] at hperm
  have hperm' := (hperm.symm.trans List.perm_middle).cons_inv
  have hstep : s.step (.free i) = some ⟨s.heap.memFree (some s.objects[i].addr),
      s.objects.eraseIdx i⟩ := by
    simp only [HeapUse.step, hget, Option.map_some]
  refine ⟨_, l', ps.eraseIdx i, hstep, ?_, ?_, ?_, ?_⟩
  · rw [hlies.addr]
    exact hd
  · rw [← List.eraseIdx_map, ho.objects]
  · rw [hcells]
    exact hperm'
  · intro q hq
    have hcell := hperm'.subset (List.mem_map_of_mem (f := Prod.snd) hq)
    rw [← hcells] at hcell
    rw [hlies.addr]
    exact (ho.lies q (List.mem_of_mem_eraseIdx hq)).congr (hkept q.2 hcell)

/-- An object is given a new value, and the blocks are the same ones but for the size of its own. -/
theorem set (ho : Owned s l ps) {i : ℕ} {o o' : Object} {l₁ l₂ l' : List Block} {b b' : Block}
    {heap : RamHeap} (hl : l = l₁ ++ b :: l₂) (hused : b.used) (hp : ps[i]? = some (o, total l₁, b))
    (hd : Depicts heap l') (hcells : usedCells 0 l'
      = usedCells 0 l₁ ++ (total l₁, b') :: usedCells (total l₁ + b.size) l₂)
    (hlies : Lies heap.ram o' (total l₁, b'))
    (hkept : DataKept s.heap.ram heap.ram
      (usedCells 0 l₁ ++ usedCells (total l₁ + b.size) l₂)) :
  Owned ⟨heap, s.objects.set i o'⟩ l' (ps.set i (o', total l₁, b'))
  := by
  have hperm := cells_eraseIdx ho.cells hp
  rw [hl, usedCells_used 0 l₁ l₂ hused, Nat.zero_add] at hperm
  have hperm' := (hperm.symm.trans List.perm_middle).cons_inv
  obtain ⟨hi, hget⟩ := List.getElem?_eq_some_iff.mp hp
  have hset : (ps.set i (o', total l₁, b')).Perm ((o', total l₁, b') :: ps.eraseIdx i) :=
    List.set_perm_cons_eraseIdx hi _
  refine ⟨hd, ?_, ?_, ?_⟩
  · rw [List.map_set, ho.objects]
  · rw [hcells]
    exact (hset.map Prod.snd).trans ((hperm'.cons _).trans List.perm_middle.symm)
  · intro q hq
    obtain rfl | hq := List.mem_cons.mp (hset.subset hq)
    · exact hlies
    · have hcell := hperm'.subset (List.mem_map_of_mem (f := Prod.snd) hq)
      exact (ho.lies q (List.mem_of_mem_eraseIdx hq)).congr (hkept q.2 hcell)

theorem realloc (ho : Owned s l ps) {i newsize : ℕ} {o : Object} (hi : s.objects[i]? = some o)
    (hle : newsize ≤ o.data.length) :
  ∃ s' l' ps', s.step (.realloc i newsize) = some s' ∧ Owned s' l' ps'
  := by
  obtain ⟨l₁, b, l₂, rfl, hused, hp⟩ := ho.exists_block hi
  have hlies : Lies s.heap.ram o (total l₁, b) := ho.lies _ (List.mem_of_getElem? hp)
  have hroom : o.data.length + sizeofStructMem ≤ b.size := hlies.room
  obtain ⟨h', l', n, hrealloc, hd, hcells, hn, hnb, hkept⟩ :=
    ho.depicts.realloc hused (show newsize + sizeofStructMem ≤ b.size by omega)
  have hstep : s.step (.realloc i newsize)
      = some ⟨h', s.objects.set i ⟨o.addr, o.data.take newsize⟩⟩ := by
    simp only [HeapUse.step, hi, Option.bind_some, if_pos hle]
    rw [hlies.addr, hrealloc]
  refine ⟨_, l', _, hstep, ho.set rfl hused hp hd hcells ?_ ?_⟩
  · have hlength : (o.data.take newsize).length = newsize := by simp [hle]
    refine ⟨hlies.addr, by rw [hlength]; exact hn, ?_⟩
    have hdata := congrArg (List.take newsize) hlies.data
    rw [Mem.take_take _ hle] at hdata
    rw [hlength, ← hdata]
    refine Mem.AgreeBelow.take_eq fun j hj => ?_
    have hmem : (total l₁, ⟨n, true⟩) ∈ usedCells 0 l' := by
      rw [hcells]
      exact List.mem_append_right _ List.mem_cons_self
    have haddr := hlies.addr
    exact hkept _ hmem _ (by simp only at haddr ⊢; omega) (by simp only at haddr ⊢; omega)
  · rw [hcells] at hkept
    exact hkept.mono ((List.sublist_cons_self _ _).append_left _).subset

theorem write (ho : Owned s l ps) {i off : ℕ} {o : Object} (hi : s.objects[i]? = some o)
    (hlt : off < o.data.length) (v : UInt8) :
  ∃ s' l' ps', s.step (.write i off v) = some s' ∧ Owned s' l' ps'
  := by
  obtain ⟨l₁, b, l₂, rfl, hused, hp⟩ := ho.exists_block hi
  have hlies : Lies s.heap.ram o (total l₁, b) := ho.lies _ (List.mem_of_getElem? hp)
  have hroom : o.data.length + sizeofStructMem ≤ b.size := hlies.room
  have haddr : o.addr = total l₁ + sizeofStructMem := hlies.addr
  have hmem : (total l₁, b) ∈ Tiling.cells 0 (l₁ ++ b :: l₂) := mem_cells_middle l₁ b l₂
  have hlaid := ho.depicts.laid.write hmem (j := o.addr + off) (by simp only; omega)
    (by simp only; omega) v
  have hcells : usedCells 0 (l₁ ++ b :: l₂) = usedCells 0 l₁
      ++ (total l₁, b) :: usedCells (total l₁ + b.size) l₂ := by
    rw [usedCells_used 0 l₁ l₂ hused, Nat.zero_add]
  have hstep : s.step (.write i off v)
      = some ⟨{ s.heap with ram := s.heap.ram.put (o.addr + off) v },
        s.objects.set i ⟨o.addr, o.data.set off v⟩⟩ := by
    simp only [HeapUse.step, hi, Option.bind_some, if_pos hlt]
  refine ⟨_, _, _, hstep, ho.set rfl hused hp ⟨hlaid, ho.depicts.lfree, ho.depicts.settled⟩ hcells
    ⟨haddr, ?_, ?_⟩ ?_⟩
  · rw [List.length_set]
    exact hroom
  · rw [List.length_set, Mem.take_shift_put, hlies.data]
  · intro c hc j hj hj'
    refine Mem.put_of_ne ?_
    obtain hc | hc := List.mem_append.mp hc
    · have := (cell_bounds (List.mem_filter.mp hc).1).2
      omega
    · have := (cell_bounds (List.mem_filter.mp hc).1).1
      omega

/-- Every event that is allowed can happen, and keeps the objects. -/
theorem step (ho : Owned s l ps) {e : HeapEvent} (he : s.Allowed e) :
  ∃ s' l' ps', s.step e = some s' ∧ Owned s' l' ps'
  := by
  cases e with
  | malloc size => exact ho.malloc he
  | free i => exact ho.free he
  | realloc i newsize =>
    obtain ⟨o, hi, hle⟩ := he
    exact ho.realloc hi hle
  | write i off v =>
    obtain ⟨o, hi, hlt⟩ := he
    exact ho.write hi hlt v

end Owned

/-- A run of what clients may do goes through. -/
theorem owned_run (m : Mem) {events : List HeapEvent}
    (h : Run.Along HeapUse.step HeapUse.Allowed events ⟨RamHeap.memInit m, []⟩) :
  ∃ s, Run.run HeapUse.step events ⟨RamHeap.memInit m, []⟩ = some s ∧ ∃ l ps, Owned s l ps
  := by
  refine h.exists_run (I := fun s => ∃ l ps, Owned s l ps) ?_ ⟨_, _, owned_memInit m⟩
  rintro s e ⟨l, ps, ho⟩ he
  obtain ⟨s', l', ps', hstep, ho'⟩ := ho.step he
  exact ⟨s', hstep, l', ps', ho'⟩

/-! ### Results -/

/-- Two objects have no byte in common. -/
def Object.Apart (o o' : Object) : Prop :=
  o.addr + o.data.length ≤ o'.addr ∨ o'.addr + o'.data.length ≤ o.addr

/-- Whatever clients do, their objects are aligned, inside the heap, hold what the clients have
written, and are apart from one another. -/
theorem objects_kept (m : Mem) {events : List HeapEvent}
    (h : Run.Along HeapUse.step HeapUse.Allowed events ⟨RamHeap.memInit m, []⟩) :
  ∃ s, Run.run HeapUse.step events ⟨RamHeap.memInit m, []⟩ = some s
    ∧ (∀ o ∈ s.objects, o.addr % 4 = 0 ∧ sizeofStructMem ≤ o.addr
      ∧ o.addr + o.data.length ≤ memSizeAligned
      ∧ (s.heap.ram.shift o.addr).take o.data.length = o.data)
    ∧ s.objects.Pairwise Object.Apart
  := by
  obtain ⟨s, hrun, l, ps, ho⟩ := owned_run m h
  refine ⟨s, hrun, ?_, ?_⟩
  · rw [← ho.objects]
    intro o hobj
    obtain ⟨⟨o, c⟩, hp, rfl⟩ := List.mem_map.mp hobj
    have hlies : Lies s.heap.ram o c := ho.lies _ hp
    have hcell : c ∈ cells 0 l :=
      (List.mem_filter.mp (ho.cells.subset (List.mem_map_of_mem hp))).1
    obtain ⟨l₁, l₂, hl, hc⟩ := exists_of_mem_cells hcell
    have hmod := total_mod (l := l₁) fun b hb => ho.depicts.laid.proper b (by simp [hl, hb])
    have hbound := (cell_bounds hcell).2
    rw [ho.depicts.laid.size] at hbound
    have haddr := hlies.addr
    have hroom := hlies.room
    change o.addr % 4 = 0 ∧ sizeofStructMem ≤ o.addr ∧ o.addr + o.data.length ≤ memSizeAligned ∧ _
    refine ⟨?_, by omega, by omega, hlies.data⟩
    rw [haddr, hc]
    unfold sizeofStructMem
    omega
  · have hsorted : (usedCells 0 l).Pairwise fun c c' => c.1 + c.2.size ≤ c'.1
        ∨ c'.1 + c'.2.size ≤ c.1 := ((cells_pairwise 0 l).imp .inl).filter _
    have hpairs := (ho.cells.pairwise_iff fun h => h.symm).mpr hsorted
    rw [← ho.objects, List.pairwise_map]
    refine (List.pairwise_map.mp hpairs).imp_of_mem ?_
    intro p q hp hq hapart
    have hp' := ho.lies p hp
    have hq' := ho.lies q hq
    have haddr := hp'.addr
    have haddr' := hq'.addr
    have hroom := hp'.room
    have hroom' := hq'.room
    unfold Object.Apart
    omega

/-- Three objects, of which one is shrunk and one is given back. -/
theorem objects_kept_three :
  ∃ s, Run.run HeapUse.step [.malloc 100, .malloc 33, .write 0 99 7, .malloc 8, .realloc 0 20,
      .free 1, .malloc 60, .write 2 59 1] ⟨RamHeap.memInit fun _ => 0, []⟩ = some s
    ∧ (∀ o ∈ s.objects, o.addr % 4 = 0 ∧ sizeofStructMem ≤ o.addr
      ∧ o.addr + o.data.length ≤ memSizeAligned
      ∧ (s.heap.ram.shift o.addr).take o.data.length = o.data)
    ∧ s.objects.Pairwise Object.Apart
  := objects_kept _ (by decide +kernel)

/-- `mem_malloc` takes the first free block that is large enough, and there is one unless all blocks
that are not used are too small.  No two of them are neighbours. -/
theorem mem_malloc_first_fit (m : Mem) {events : List HeapEvent} {s : HeapUse}
    (h : Run.Along HeapUse.step HeapUse.Allowed events ⟨RamHeap.memInit m, []⟩)
    (hrun : Run.run HeapUse.step events ⟨RamHeap.memInit m, []⟩ = some s) {size : ℕ}
    (hpos : 0 < size) (hfits : size + 3 < 2 ^ 16) :
  ∃ l heap, Tiled s.heap l ∧ Settled l
    ∧ (s.objects.map Object.addr).Perm ((usedCells 0 l).map fun c => c.1 + sizeofStructMem)
    ∧ s.heap.memMalloc size
      = some ((fit (roomFor size + sizeofStructMem) 0 l).map (· + sizeofStructMem), heap)
  := by
  obtain ⟨s', hrun', l, ps, ho⟩ := owned_run m h
  cases hrun.symm.trans hrun'
  have haddr : s.objects.map Object.addr
      = (ps.map Prod.snd).map fun c => c.1 + sizeofStructMem := by
    rw [← ho.objects, List.map_map, List.map_map]
    exact List.map_congr_left fun p hp => (ho.lies p hp).addr
  have hperm := ho.cells.map fun c => c.1 + sizeofStructMem
  rw [← haddr] at hperm
  obtain ⟨hfit, hmalloc⟩ | ⟨h', _, _, _, p, _, hfit, hmalloc, _⟩ :=
    ho.depicts.malloc (Nat.pos_iff_ne_zero.mp hpos) hfits
  · refine ⟨l, s.heap, ho.depicts.laid, ho.depicts.settled, hperm, ?_⟩
    rw [hfit]
    exact hmalloc
  · refine ⟨l, h', ho.depicts.laid, ho.depicts.settled, hperm, ?_⟩
    rw [hfit]
    exact hmalloc

/-- A gap that is too small is passed over. -/
theorem mem_malloc_first_fit_gap :
  ∃ s l heap, Run.run HeapUse.step [.malloc 100, .malloc 33, .free 0]
      ⟨RamHeap.memInit fun _ => 0, []⟩ = some s
    ∧ Tiled s.heap l ∧ Settled l
    ∧ (s.objects.map Object.addr).Perm ((usedCells 0 l).map fun c => c.1 + sizeofStructMem)
    ∧ s.heap.memMalloc 120
      = some ((fit (roomFor 120 + sizeofStructMem) 0 l).map (· + sizeofStructMem), heap)
  := by
  obtain ⟨s, hrun⟩ := Option.isSome_iff_exists.mp (by decide +kernel :
    (Run.run HeapUse.step [.malloc 100, .malloc 33, .free 0]
      ⟨RamHeap.memInit fun _ => 0, []⟩).isSome)
  obtain ⟨l, heap, hresult⟩ :=
    mem_malloc_first_fit _ (by decide +kernel) hrun (by decide : 0 < 120) (by decide)
  exact ⟨s, l, heap, hrun, hresult⟩

/-- When clients have given everything back, the heap is one free block: every request is served
that fits into it. -/
theorem heap_whole_again (m : Mem) {events : List HeapEvent} {s : HeapUse}
    (h : Run.Along HeapUse.step HeapUse.Allowed events ⟨RamHeap.memInit m, []⟩)
    (hrun : Run.run HeapUse.step events ⟨RamHeap.memInit m, []⟩ = some s)
    (hall : s.objects = []) :
  Tiled s.heap [⟨memSizeAligned, false⟩] ∧ s.heap.lfree = 0
    ∧ ∀ size, 0 < size → size + sizeofStructMem ≤ memSizeAligned →
      ∃ heap, s.heap.memMalloc size = some (some sizeofStructMem, heap)
  := by
  obtain ⟨s', hrun', l, ps, ho⟩ := owned_run m h
  cases hrun.symm.trans hrun'
  have hps : ps = [] := by
    have := ho.objects
    rwa [hall, List.map_eq_nil_iff] at this
  have hnone : usedCells 0 l = [] := by
    have := ho.cells
    rw [hps] at this
    exact this.nil_eq.symm
  have hfree : ∀ b ∈ l, b.used = false := by
    intro b hb
    obtain ⟨l₁, l₂, rfl⟩ := List.append_of_mem hb
    by_contra hused
    rw [usedCells_used 0 l₁ l₂ (Bool.not_eq_false _ ▸ hused)] at hnone
    exact absurd hnone (by simp)
  have hsize := ho.depicts.laid.size
  have hl : l = [⟨memSizeAligned, false⟩] := by
    rw [← hsize]
    refine eq_singleton_of_free ho.depicts.settled hfree ?_
    rintro rfl
    cases hsize
  have hd := ho.depicts
  rw [hl] at hd
  refine ⟨hd.laid, hd.lfree, ?_⟩
  intro size hpos hle
  unfold sizeofStructMem memSizeAligned at hle
  obtain ⟨-, h12, -, hmin⟩ := roomFor_spec (show size + 3 < 2 ^ 16 by omega)
  have hroom := hmin 1016 (by omega) (by omega) (by omega)
  have hfit : fit (roomFor size + sizeofStructMem) 0 [⟨memSizeAligned, false⟩] = some 0 := by
    refine if_pos ⟨rfl, ?_⟩
    simp only [sizeofStructMem, memSizeAligned]
    omega
  obtain ⟨hno, -⟩ | ⟨h', _, _, _, p, _, hsome, hmalloc, _⟩ :=
    hd.malloc (Nat.pos_iff_ne_zero.mp hpos) (by omega)
  · cases hfit.symm.trans hno
  · cases hfit.symm.trans hsome
    exact ⟨h', by rw [hmalloc, Nat.zero_add]⟩

/-- Two objects that are given back in the order in which they were got. -/
theorem heap_whole_again_two :
  ∃ s, Run.run HeapUse.step [.malloc 100, .malloc 33, .free 0, .free 0]
      ⟨RamHeap.memInit fun _ => 0, []⟩ = some s
    ∧ Tiled s.heap [⟨memSizeAligned, false⟩] ∧ s.heap.lfree = 0
    ∧ ∀ size, 0 < size → size + sizeofStructMem ≤ memSizeAligned →
      ∃ heap, s.heap.memMalloc size = some (some sizeofStructMem, heap)
  := by
  obtain ⟨s, hrun, hnone⟩ := (Option.any_eq_true ..).mp (by decide +kernel :
    (Run.run HeapUse.step [.malloc 100, .malloc 33, .free 0, .free 0]
      ⟨RamHeap.memInit fun _ => 0, []⟩).any fun s => s.objects.isEmpty)
  exact ⟨s, hrun, heap_whole_again _ (by decide +kernel) hrun (List.isEmpty_iff.mp hnone)⟩

end UhfReader
