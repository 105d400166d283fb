import UhfReader.Heap.Layout

/-!
# What the operations of the heap do

`Depicts h l` says that the heap is tiled by the blocks of `l`, that no two neighbours of them are
free, and that `lfree` is the first free one.  Each operation goes from one such list to another:
`mem_malloc` takes the first free block that is large enough, `mem_free` makes a block one with its
free neighbours, and `mem_realloc` leaves the end of a block to what is behind it.
-/

open Memory Tiling

namespace UhfReader

/-- The heap is as a list of blocks shows it. -/
structure Depicts (h : RamHeap) (l : List Block) : Prop where
  laid : Tiled h l
  lfree : h.lfree = firstFree 0 l
  settled : Settled l

theorem roomFor_spec {size : ℕ} (h : size + 3 < 2 ^ 16) :
  size ≤ roomFor size ∧ 12 ≤ roomFor size ∧ roomFor size % 4 = 0
    ∧ ∀ n, n % 4 = 0 → 12 ≤ n → size ≤ n → roomFor size ≤ n
  := by
  have hroom : roomFor size = max ((size + 3) / 4 * 4) 12 := by
    unfold roomFor lwipMemAlignSize minSizeAligned
    rw [Nat.mod_eq_of_lt (by omega)]
  rw [hroom]
  refine ⟨by omega, by omega, by omega, fun n hmod hle hsize => ?_⟩
  omega

theorem subSize_eq {a b : ℕ} (hle : b ≤ a) (ha : a < 2 ^ 32) :
  subSize a b = a - b
  := by
  unfold subSize
  omega

theorem Tiled.length_lt {h : RamHeap} {l : List Block} (hl : Tiled h l) :
  l.length < memSizeAligned
  := by
  have hle : l.length ≤ total l := length_le_total fun b hb => by
    have := (hl.proper b hb).1
    omega
  rw [hl.size] at hle
  cases l with
  | nil => decide
  | cons b l =>
    have hb := (hl.proper b List.mem_cons_self).1
    have hrest := length_le_total (l := l) fun c hc => by
      have := (hl.proper c (List.mem_cons_of_mem b hc)).1
      omega
    have hsize := hl.size
    rw [total_cons] at hsize
    rw [List.length_cons]
    omega

/-! ### `mem_init` -/

theorem depicts_memInit (m : Mem) :
  Depicts (RamHeap.memInit m) [⟨memSizeAligned, false⟩]
  where
  laid := by
    refine ⟨⟨⟨rfl, rfl, rfl⟩, trivial⟩, rfl, ?_, rfl⟩
    intro b hb
    rw [List.mem_singleton.mp hb]
    exact ⟨by decide, by decide⟩
  lfree := rfl
  settled := .singleton _

/-! ### The loops of `mem_malloc` -/

/-- The search goes through the blocks. -/
theorem searchFree_eq {h : RamHeap} {size : ℕ} (hpos : 0 < size) {prev p : ℕ} {l : List Block}
    (hseg : Seg h.ram prev p l) (hproper : ∀ b ∈ l, Proper b)
    (hend : p + total l = memSizeAligned) {rounds : ℕ} (hrounds : l.length < rounds) :
  h.searchFree size rounds p = some (fit (size + sizeofStructMem) p l)
  := by
  induction l generalizing prev p rounds with
  | nil =>
    cases rounds with
    | zero => cases hrounds
    | succ rounds =>
      rw [total_nil, Nat.add_zero] at hend
      have hout : ¬ p < memSizeAligned - size := by omega
      rw [RamHeap.searchFree, if_neg hout, fit]
  | cons b l ih =>
    cases rounds with
    | zero => cases hrounds
    | succ rounds =>
      have hb := (hproper b List.mem_cons_self).1
      have hnext : h.next p = p + b.size := hseg.1.next
      have hused : h.used p = if b.used then 1 else 0 := hseg.1.used
      rw [total_cons] at hend
      rw [RamHeap.searchFree]
      by_cases hin : p < memSizeAligned - size
      · have hroom : subSize (h.next p) (p + sizeofStructMem) = b.size - sizeofStructMem := by
          unfold memSizeAligned at hend
          unfold sizeofStructMem
          rw [hnext, subSize_eq (by omega) (by omega)]
          omega
        have hcond : (h.used p = 0 ∧ subSize (h.next p) (p + sizeofStructMem) ≥ size)
            ↔ (b.used = false ∧ size + sizeofStructMem ≤ b.size) := by
          rw [hroom, hused]
          unfold sizeofStructMem
          cases b.used with
          | false =>
            simp only [Bool.false_eq_true, if_false, true_and]
            omega
          | true => simp
        rw [if_pos hin, fit]
        by_cases hfit : b.used = false ∧ size + sizeofStructMem ≤ b.size
        · rw [if_pos hfit, if_pos (hcond.mpr hfit)]
        · rw [if_neg hfit, if_neg fun hc => hfit (hcond.mp hc), hnext]
          exact ih hseg.2 (fun c hc => hproper c (List.mem_cons_of_mem b hc)) (by omega)
            (Nat.lt_of_succ_lt_succ hrounds)
      · rw [if_neg hin]
        refine congrArg some (fit_eq_none_iff.mpr ?_).symm
        intro c hc _
        have := size_le_total hc
        rw [total_cons] at this
        unfold sizeofStructMem
        omega

/-- The loop that moves `lfree` finds the first free block. -/
theorem nextFree_eq {h : RamHeap} {prev p : ℕ} {l : List Block} (hseg : Seg h.ram prev p l)
    (hproper : ∀ b ∈ l, Proper b) (hend : p + total l = memSizeAligned) {rounds : ℕ}
    (hrounds : l.length < rounds) :
  h.nextFree rounds p = some (firstFree p l)
  := by
  induction l generalizing prev p rounds with
  | nil =>
    cases rounds with
    | zero => cases hrounds
    | succ rounds =>
      rw [RamHeap.nextFree, if_neg fun hc => hc.2 hend, firstFree]
  | cons b l ih =>
    cases rounds with
    | zero => cases hrounds
    | succ rounds =>
      have hb := (hproper b List.mem_cons_self).1
      have hused : h.used p = if b.used then 1 else 0 := hseg.1.used
      rw [total_cons] at hend
      rw [RamHeap.nextFree, firstFree, hused]
      cases b.used with
      | false => simp
      | true =>
        have hne : p ≠ memSizeAligned := by omega
        rw [if_pos ⟨by simp, hne⟩, if_pos rfl, show h.next p = p + b.size from hseg.1.next]
        exact ih hseg.2 (fun c hc => hproper c (List.mem_cons_of_mem b hc)) (by omega)
          (Nat.lt_of_succ_lt_succ hrounds)

namespace Depicts

variable {h : RamHeap} {l r : List Block} {b : Block}

/-- The search of `mem_malloc`. -/
theorem search (hd : Depicts h l) {size : ℕ} (hpos : 0 < size) :
  h.searchFree size memSizeAligned h.lfree = some (fit (size + sizeofStructMem) 0 l)
  := by
  obtain ⟨l₁, l₂, rfl, hused, hfree⟩ := firstFree_split 0 l
  rw [← hd.lfree, Nat.zero_add] at hfree
  have hseg := (seg_append.mp hd.laid.seg).2
  have hlength := hd.laid.length_lt
  have hsize := hd.laid.size
  rw [total_append] at hsize
  rw [List.length_append] at hlength
  rw [Nat.zero_add] at hseg
  rw [hfree, searchFree_eq hpos hseg (fun b hb => hd.laid.proper b (List.mem_append_right _ hb))
    hsize (by omega), fit_used hused, Nat.zero_add]

end Depicts

/-- The first one of some blocks is free, or it is used or missing. -/
theorem head_cases (r : List Block) :
  (∃ y r', r = y :: r' ∧ y.used = false) ∨ ∀ c ∈ r.head?, c.used
  := by
  cases r with
  | nil => exact .inr nofun
  | cons y r =>
    cases hy : y.used with
    | false => exact .inl ⟨y, r, rfl, hy⟩
    | true =>
      right
      rintro c ⟨⟩
      exact hy

/-- What is behind a block is not free when it is a used block or the end. -/
theorem Tiled.used_behind {h : RamHeap} {l r : List Block} {b : Block}
    (hl : Tiled h (l ++ b :: r)) (hhead : ∀ c ∈ r.head?, c.used) :
  ¬ h.used (total l + b.size) = 0
  := by
  obtain ⟨-, -, hright, hsize⟩ := hl.split
  cases r with
  | nil =>
    have hend : h.used memSizeAligned = 1 := hl.ramEnd
    rw [total_nil, Nat.add_zero] at hsize
    rw [hsize, hend]
    decide
  | cons y r =>
    have hy : h.used (total l + b.size) = if y.used then 1 else 0 := hright.1.used
    rw [hy, if_pos (hhead y rfl)]
    decide

/-! ### `mem_free` -/

/-- Blocks are put together and apart, and the used ones stay what they are. -/
structure Rearranged (h : RamHeap) (l : List Block) (h' : RamHeap) (l' : List Block) : Prop where
  laid : Tiled h' l'
  lfree : h'.lfree = firstFree 0 l'
  used : usedCells 0 l' = usedCells 0 l
  kept : DataKept h.ram h'.ram (usedCells 0 l')

theorem Rearranged.refl {h : RamHeap} {l : List Block} (hl : Tiled h l)
    (hfirst : h.lfree = firstFree 0 l) :
  Rearranged h l h l
  := ⟨hl, hfirst, rfl, .refl _ _⟩

theorem Rearranged.trans {h h' h'' : RamHeap} {l l' l'' : List Block} (hr : Rearranged h l h' l')
    (hr' : Rearranged h' l' h'' l'') :
  Rearranged h l h'' l''
  where
  laid := hr'.laid
  lfree := hr'.lfree
  used := hr'.used.trans hr.used
  kept := DataKept.trans (by rw [hr'.used]; exact hr.kept) hr'.kept

/-- A block that is free does not count as a used one. -/
theorem usedCells_free (p : ℕ) (l r : List Block) {b : Block} (hb : b.used = false) :
  usedCells p (l ++ b :: r) = usedCells p l ++ usedCells (p + total l + b.size) r
  := by
  rw [usedCells_append, usedCells_cons, hb]
  rfl

/-- Two free neighbours are made one. -/
theorem rearranged_joinMem {h : RamHeap} {l r : List Block} {x y : Block}
    (hl : Tiled h (l ++ x :: y :: r)) (hfirst : h.lfree = firstFree 0 (l ++ x :: y :: r))
    (hx : x.used = false) (hy : y.used = false) :
  Rearranged h (l ++ x :: y :: r) (h.joinMem (total l) (total l + x.size))
    (l ++ ⟨x.size + y.size, false⟩ :: r)
  where
  laid := (hl.joinMem hx).1
  lfree := hfirst.trans (firstFree_join 0 l r y hx (x.size + y.size)).symm
  used := by
    rw [usedCells_free 0 l r rfl, usedCells_free 0 l (y :: r) hx, usedCells_cons, hy]
    rw [Nat.add_assoc (0 + total l), Nat.add_assoc]
    rfl
  kept := (hl.joinMem hx).2

/-- `lfree` is in front of what is behind a free block. -/
theorem lfree_lt {h : RamHeap} {l r : List Block} {x : Block} (hl : Tiled h (l ++ x :: r))
    (hfirst : h.lfree = firstFree 0 (l ++ x :: r)) (hx : x.used = false) :
  h.lfree < total l + x.size
  := by
  have hlt := firstFree_lt (l := l ++ [x]) ⟨x, by simp, hx⟩ (fun b hb => by
    have := (hl.proper b (by simp at hb ⊢; tauto)).1
    omega) 0 r
  rw [List.append_assoc, List.singleton_append, ← hfirst, total_append, total_cons, total_nil]
    at hlt
  omega

/-- The hole behind a free block is plugged. -/
theorem plugForward_rearranges {h : RamHeap} {l r : List Block} {x : Block}
    (hl : Tiled h (l ++ x :: r)) (hfirst : h.lfree = firstFree 0 (l ++ x :: r))
    (hx : x.used = false) (hr : Settled r) :
  ∃ n r', Rearranged h (l ++ x :: r) (h.plugForward (total l)) (l ++ ⟨n, false⟩ :: r')
    ∧ Settled r' ∧ ∀ c ∈ r'.head?, c.used
  := by
  obtain ⟨-, hmid, hright, hsize⟩ := hl.split
  have hxsize := (hl.proper x (by simp)).1
  have hnext : h.next (total l) = total l + x.size := hmid.next
  have hsame : x = ⟨x.size, false⟩ := by rw [← hx]
  unfold RamHeap.plugForward
  simp only [hnext]
  obtain ⟨y, r, rfl, hyused⟩ | hhead := head_cases r
  · have hy : h.used (total l + x.size) = if y.used then 1 else 0 := hright.1.used
    have hysize := (hl.proper y (by simp)).1
    have hlfree := lfree_lt hl hfirst hx
    have hchain := settled_middle.mp (show Settled ([] ++ y :: r) from hr)
    rw [total_cons] at hsize
    rw [hyused] at hy
    rw [if_pos ⟨by omega, hy, by omega⟩, if_neg (by omega)]
    refine ⟨x.size + y.size, r, rearranged_joinMem hl hfirst hx hyused, hchain.2.1, ?_⟩
    intro c hc
    have := hchain.2.2.2 c hc
    rwa [hyused, Bool.false_eq_true, false_or] at this
  · rw [if_neg fun hc => hl.used_behind hhead hc.2.1]
    exact ⟨x.size, r, hsame ▸ .refl hl hfirst, hr, hhead⟩

/-- The hole in front of a free block is plugged. -/
theorem plugBackward_rearranges {h : RamHeap} {l r : List Block} {n : ℕ}
    (hl : Tiled h (l ++ ⟨n, false⟩ :: r)) (hfirst : h.lfree = firstFree 0 (l ++ ⟨n, false⟩ :: r))
    (hsettled : Settled l) (hr : Settled r) (hhead : ∀ c ∈ r.head?, c.used) :
  ∃ l', Rearranged h (l ++ ⟨n, false⟩ :: r) (h.plugBackward (total l)) l' ∧ Settled l'
  := by
  obtain ⟨hleft, hmid, -, -⟩ := hl.split
  have hprev : h.prev (total l) = lastPlace 0 0 l := hmid.prev
  unfold RamHeap.plugBackward
  simp only [hprev]
  induction l using List.reverseRecOn with
  | nil =>
    rw [if_neg fun hc => hc.1 rfl]
    refine ⟨_, .refl hl hfirst, settled_middle.mpr ⟨hsettled, hr, nofun, ?_⟩⟩
    exact fun c hc => .inr (hhead c hc)
  | append_singleton l x _ =>
    rw [lastPlace_concat, Nat.zero_add]
    rw [List.append_assoc, List.singleton_append] at hl hfirst
    have hxsize := (hl.proper x (by simp)).1
    have hx : h.used (total l) = if x.used then 1 else 0 := hl.split.2.1.used
    have htotal : total (l ++ [x]) = total l + x.size := by simp
    have hchain := settled_middle.mp (show Settled (l ++ x :: []) from hsettled)
    cases hxused : x.used with
    | true =>
      rw [hxused, if_pos rfl] at hx
      rw [if_neg fun hc => by rw [hx] at hc; exact absurd hc.2 (by decide)]
      rw [List.append_assoc, List.singleton_append]
      have htail : Settled ([] ++ ⟨n, false⟩ :: r) :=
        settled_middle.mpr ⟨.nil, hr, nofun, fun c hc => .inr (hhead c hc)⟩
      refine ⟨_, .refl hl hfirst, settled_middle.mpr ⟨hchain.1, htail, ?_, ?_⟩⟩
      · exact fun a ha => .inr hxused
      · rintro c ⟨⟩
        exact .inl hxused
    | false =>
      have hlfree := lfree_lt hl hfirst hxused
      rw [hxused] at hx
      rw [if_pos ⟨by omega, hx⟩, if_neg (by omega), List.append_assoc, List.singleton_append,
        htotal]
      refine ⟨_, rearranged_joinMem hl hfirst hxused rfl, ?_⟩
      refine settled_middle.mpr ⟨hchain.1, hr, ?_, fun c hc => .inr (hhead c hc)⟩
      intro a ha
      have := hchain.2.2.1 a ha
      rw [hxused, Bool.false_eq_true, or_false] at this
      exact .inl this

/-- `lfree` when a block is given back. -/
theorem firstFree_free {l r : List Block} {b : Block} (hpos : ∀ c ∈ l, 0 < c.size)
    (hb : 0 < b.size) (hused : b.used) :
  firstFree 0 (l ++ ⟨b.size, false⟩ :: r)
    = if total l < firstFree 0 (l ++ b :: r) then total l else firstFree 0 (l ++ b :: r)
  := by
  obtain hfree | hall := free_or_used l
  · have hlt := firstFree_lt hfree hpos 0 (b :: r)
    rw [if_neg (by omega)]
    exact firstFree_append hfree 0 _ _
  · have hle := le_firstFree (total l + b.size) r
    have hlt : total l < firstFree (total l + b.size) r := by omega
    rw [firstFree_used hall, firstFree_used hall, Nat.zero_add, firstFree, firstFree, if_pos hused,
      if_pos hlt]
    rfl

/-- A pointer that `mem_malloc` has given is given back. -/
theorem Depicts.free {h : RamHeap} {l r : List Block} {b : Block} (hd : Depicts h (l ++ b :: r))
    (hused : b.used) :
  let h' := h.memFree (some (total l + sizeofStructMem))
  ∃ l', Depicts h' l'
    ∧ usedCells 0 l' = usedCells 0 l ++ usedCells (total l + b.size) r
    ∧ DataKept h.ram h'.ram (usedCells 0 l')
  := by
  intro h'
  have hb := (hd.laid.proper b (by simp)).1
  have hsize := hd.laid.split.2.2.2
  have hchain := settled_middle.mp hd.settled
  have hout : ¬ total l + sizeofStructMem ≥ memSizeAligned := by
    unfold sizeofStructMem
    omega
  let h₁ := h.setUsed (total l) 0
  have hset : Tiled h₁ (l ++ ⟨b.size, false⟩ :: r)
      ∧ DataKept h.ram h₁.ram (usedCells 0 (l ++ ⟨b.size, false⟩ :: r)) := hd.laid.setUsed false
  let h₂ := if total l < h₁.lfree then h₁.setLfree (total l) else h₁
  have hh' : h' = h₂.plugHoles (total l) := by
    change RamHeap.memFree h _ = _
    unfold RamHeap.memFree
    refine (if_neg hout).trans ?_
    rw [Nat.add_sub_cancel]
  have hfirst : h₂.lfree = firstFree 0 (l ++ ⟨b.size, false⟩ :: r) := by
    rw [firstFree_free (fun c hc => by have := (hd.laid.proper c (by simp [hc])).1; omega)
      (by omega) hused, ← hd.lfree]
    exact apply_ite RamHeap.lfree ..
  have hram : h₂.ram = h₁.ram := by
    refine (apply_ite RamHeap.ram ..).trans ?_
    exact ite_self _
  have hlaid : Tiled h₂ (l ++ ⟨b.size, false⟩ :: r) := by
    change Tiled (ite _ _ _) _
    split
    · exact hset.1.setLfree _
    · exact hset.1
  obtain ⟨n, r', hforward, hr', hhead⟩ := plugForward_rearranges hlaid hfirst rfl hchain.2.1
  obtain ⟨l', hbackward, hsettled⟩ :=
    plugBackward_rearranges hforward.laid hforward.lfree hchain.1 hr' hhead
  have hall := hforward.trans hbackward
  have husedCells : usedCells 0 l' = usedCells 0 l ++ usedCells (total l + b.size) r := by
    rw [hall.used, usedCells_free 0 l r rfl, Nat.zero_add]
  rw [hh']
  refine ⟨l', ⟨hall.laid, hall.lfree, hsettled⟩, husedCells, ?_⟩
  refine DataKept.trans ?_ hall.kept
  rw [hall.used, hram]
  exact hset.2

/-! ### `mem_realloc` -/

/-- A block that is used, among the other ones. -/
theorem usedCells_used (p : ℕ) (l r : List Block) {b : Block} (hb : b.used) :
  usedCells p (l ++ b :: r)
    = usedCells p l ++ (p + total l, b) :: usedCells (p + total l + b.size) r
  := by
  rw [usedCells_append, usedCells_cons, if_pos hb]
  rfl

/-- The end of a block is made a free one, with what is free behind it. -/
theorem Depicts.shrink {h : RamHeap} {l mid r : List Block} {b : Block}
    (hd : Depicts h (l ++ (b :: mid) ++ r)) (hused : b.used)
    (hhead : ∀ c ∈ r.head?, c.used) {size : ℕ} (hsize : 20 ≤ size) (halign : size % 4 = 0)
    (hrest : size + 20 ≤ total (b :: mid)) {lfree : ℕ}
    (hfirst : lfree
      = firstFree 0 (l ++ ⟨size, true⟩ :: ⟨total (b :: mid) - size, false⟩ :: r)) :
  let h' := (h.setLfree lfree).insertMem (total l) (total l + size) (total l + total (b :: mid))
  ∃ l', Depicts h' l'
    ∧ usedCells 0 l' = usedCells 0 l ++ (total l, ⟨size, true⟩)
      :: usedCells (total l + total (b :: mid)) r
    ∧ DataKept h.ram h'.ram (usedCells 0 l')
  := by
  intro h'
  obtain ⟨hlaid, hkept⟩ := (hd.laid.setLfree lfree).insertMem hsize halign hrest
  rw [hused] at hlaid hkept
  refine ⟨_, ⟨hlaid, ?_, ?_⟩, ?_, hkept⟩
  · refine Eq.trans ?_ hfirst
    change (RamHeap.insertMem (h.setLfree lfree) _ _ _).lfree = lfree
    unfold RamHeap.insertMem
    exact (apply_ite RamHeap.lfree ..).trans (ite_self _)
  · have hchain := hd.settled
    rw [List.append_assoc, List.cons_append] at hchain
    have hleft := (settled_middle.mp hchain).1
    have hright : Settled r := by
      rw [← List.cons_append, ← List.append_assoc] at hchain
      exact (List.isChain_append.mp hchain).2.1
    have htail : Settled ([] ++ ⟨total (b :: mid) - size, false⟩ :: r) :=
      settled_middle.mpr ⟨.nil, hright, nofun, fun c hc => .inr (hhead c hc)⟩
    exact settled_middle.mpr ⟨hleft, htail, fun _ _ => .inr rfl, fun _ _ => .inl rfl⟩
  · rw [usedCells_used 0 l _ rfl, Nat.zero_add, ← List.nil_append (_ :: r),
      usedCells_free _ [] r rfl]
    simp only [total_nil, Nat.add_zero, usedCells, cells_nil, List.filter_nil, List.nil_append]
    rw [Nat.add_assoc, Nat.add_sub_cancel' (by omega)]

/-- `lfree` when a free block is put behind the front of a used one. -/
theorem firstFree_shrink {l r : List Block} {b : Block} (hpos : ∀ c ∈ l, 0 < c.size) (size n : ℕ)
    (r' : List Block) :
  (∃ c ∈ l, c.used = false) ∧ firstFree 0 (l ++ b :: r) < total l
      ∧ firstFree 0 (l ++ ⟨size, true⟩ :: ⟨n, false⟩ :: r') = firstFree 0 (l ++ b :: r)
    ∨ (∀ c ∈ l, c.used)
      ∧ firstFree 0 (l ++ ⟨size, true⟩ :: ⟨n, false⟩ :: r') = total l + size
  := by
  obtain hfree | hall := free_or_used l
  · have hlt := firstFree_lt hfree hpos 0 (b :: r)
    exact .inl ⟨hfree, by omega, firstFree_append hfree 0 _ _⟩
  · refine .inr ⟨hall, ?_⟩
    rw [firstFree_used hall, Nat.zero_add]
    rfl

theorem ite_setLfree (h : RamHeap) (c : Prop) [Decidable c] (v : ℕ) :
  (if c then h.setLfree v else h) = h.setLfree (if c then v else h.lfree)
  := by
  split
  · rfl
  · rfl

/-- A free block that is behind a used one starts at the new end of it. -/
theorem Depicts.shrinkMem_free {h : RamHeap} {l r : List Block} {b y : Block}
    (hd : Depicts h (l ++ b :: y :: r)) (hused : b.used) (hy : y.used = false) {newsize : ℕ}
    (h12 : 12 ≤ newsize) (halign : newsize % 4 = 0) (hle : newsize + sizeofStructMem ≤ b.size)
    (size : ℕ) :
  let h' := h.shrinkMem (total l) newsize size
  ∃ l', Depicts h' l'
    ∧ usedCells 0 l' = usedCells 0 l ++ (total l, ⟨sizeofStructMem + newsize, true⟩)
      :: usedCells (total l + b.size) (y :: r)
    ∧ DataKept h.ram h'.ram (usedCells 0 l')
  := by
  intro h'
  unfold sizeofStructMem at hle
  obtain ⟨-, hmid, hright, -⟩ := hd.laid.split
  have hpos : ∀ c ∈ l, 0 < c.size := fun c hc => by
    have := (hd.laid.proper c (by simp [hc])).1
    omega
  have hysize := (hd.laid.proper y (by simp)).1
  have hnext : h.next (total l) = total l + b.size := hmid.next
  have hynext : h.next (total l + b.size) = total l + b.size + y.size := hright.1.next
  have hyused : h.used (total l + b.size) = 0 := by
    have : h.used (total l + b.size) = if y.used then 1 else 0 := hright.1.used
    rwa [hy] at this
  have hmiddle := settled_middle.mp
    (show Settled ([] ++ y :: r) from (settled_middle.mp hd.settled).2.1)
  have hhead : ∀ c ∈ r.head?, c.used := by
    intro c hc
    have := hmiddle.2.2.2 c hc
    rwa [hy, Bool.false_eq_true, false_or] at this
  have htotal : total [b, y] = b.size + y.size := by simp
  have hlfree : (if h.lfree = total l + b.size then total l + (sizeofStructMem + newsize)
      else h.lfree) = firstFree 0 (l ++ ⟨sizeofStructMem + newsize, true⟩
        :: ⟨total [b, y] - (sizeofStructMem + newsize), false⟩ :: r) := by
    obtain ⟨-, hlt, heq⟩ | ⟨hall, heq⟩ := firstFree_shrink (b := b) (r := y :: r) hpos
      (sizeofStructMem + newsize) (total [b, y] - (sizeofStructMem + newsize)) r
    · have := hd.lfree
      rw [heq, ← hd.lfree, if_neg (by omega)]
    · have hold : h.lfree = total l + b.size := by
        rw [hd.lfree, firstFree_used hall, firstFree, if_pos hused, firstFree, hy, Nat.zero_add]
        rfl
      rw [heq, if_pos hold]
  have hh' : h' = (h.setLfree (if h.lfree = total l + b.size
      then total l + (sizeofStructMem + newsize) else h.lfree)).insertMem (total l)
        (total l + (sizeofStructMem + newsize)) (total l + total [b, y]) := by
    change h.shrinkMem (total l) newsize size = _
    unfold RamHeap.shrinkMem
    simp only [hnext, hynext]
    rw [if_pos hyused, ite_setLfree, htotal, Nat.add_assoc (total l) sizeofStructMem,
      Nat.add_assoc (total l) b.size]
  have hd' : Depicts h (l ++ [b, y] ++ r) := by
    rwa [List.append_assoc]
  unfold sizeofStructMem at *
  obtain ⟨l', hl', hcells, hkept⟩ := hd'.shrink hused hhead (by omega) (by omega)
    (by rw [htotal]; omega) hlfree
  rw [hh']
  refine ⟨l', hl', ?_, hkept⟩
  rw [hcells, htotal, ← List.nil_append (y :: r), usedCells_free _ [] r hy]
  simp only [total_nil, Nat.add_zero, usedCells, cells_nil, List.filter_nil, List.nil_append,
    Nat.add_assoc]

/-- The end of a used block that has no free one behind it is made a block of its own. -/
theorem Depicts.shrinkMem_used {h : RamHeap} {l r : List Block} {b : Block}
    (hd : Depicts h (l ++ b :: r)) (hused : b.used) (hhead : ∀ c ∈ r.head?, c.used) {newsize : ℕ}
    (h12 : 12 ≤ newsize) (halign : newsize % 4 = 0) {size : ℕ}
    (hsize : size + sizeofStructMem = b.size)
    (hle : newsize + sizeofStructMem + minSizeAligned ≤ size) :
  let h' := h.shrinkMem (total l) newsize size
  ∃ l', Depicts h' l'
    ∧ usedCells 0 l' = usedCells 0 l ++ (total l, ⟨sizeofStructMem + newsize, true⟩)
      :: usedCells (total l + b.size) r
    ∧ DataKept h.ram h'.ram (usedCells 0 l')
  := by
  intro h'
  obtain ⟨-, hmid, -, -⟩ := hd.laid.split
  have hpos : ∀ c ∈ l, 0 < c.size := fun c hc => by
    have := (hd.laid.proper c (by simp [hc])).1
    omega
  have hnext : h.next (total l) = total l + b.size := hmid.next
  have hbehind := hd.laid.used_behind hhead
  have htotal : total [b] = b.size := by simp
  have hlfree : (if total l + (sizeofStructMem + newsize) < h.lfree
      then total l + (sizeofStructMem + newsize) else h.lfree)
      = firstFree 0 (l ++ ⟨sizeofStructMem + newsize, true⟩
        :: ⟨total [b] - (sizeofStructMem + newsize), false⟩ :: r) := by
    obtain ⟨-, hlt, heq⟩ | ⟨hall, heq⟩ := firstFree_shrink (b := b) (r := r) hpos
      (sizeofStructMem + newsize) (total [b] - (sizeofStructMem + newsize)) r
    · have := hd.lfree
      rw [heq, ← hd.lfree, if_neg (by omega)]
    · have hold : total l + b.size ≤ h.lfree := by
        rw [hd.lfree, firstFree_used hall, firstFree, if_pos hused, Nat.zero_add]
        exact le_firstFree _ _
      have hend : total l + (sizeofStructMem + newsize) < total l + b.size := by
        unfold sizeofStructMem at *
        omega
      rw [heq, if_pos (by omega)]
  have hh' : h' = (h.setLfree (if total l + (sizeofStructMem + newsize) < h.lfree
      then total l + (sizeofStructMem + newsize) else h.lfree)).insertMem (total l)
        (total l + (sizeofStructMem + newsize)) (total l + total [b]) := by
    change h.shrinkMem (total l) newsize size = _
    unfold RamHeap.shrinkMem
    simp only [hnext]
    rw [if_neg hbehind, if_pos hle, ite_setLfree, htotal, Nat.add_assoc (total l) sizeofStructMem]
    exact congrArg (RamHeap.insertMem _ _ _) hnext
  have hd' : Depicts h (l ++ [b] ++ r) := by
    rwa [List.append_assoc]
  unfold sizeofStructMem minSizeAligned at *
  obtain ⟨l', hl', hcells, hkept⟩ := hd'.shrink hused hhead (by omega) (by omega)
    (by rw [htotal]; omega) hlfree
  rw [hh']
  refine ⟨l', hl', ?_, hkept⟩
  rw [hcells, htotal]

/-- A pointer that `mem_malloc` has given is shrunk. -/
theorem Depicts.realloc {h : RamHeap} {l r : List Block} {b : Block} (hd : Depicts h (l ++ b :: r))
    (hused : b.used) {newsize : ℕ} (hle : newsize + sizeofStructMem ≤ b.size) :
  ∃ h' l' n, h.memRealloc (total l + sizeofStructMem) newsize
      = (some (total l + sizeofStructMem), h') ∧ Depicts h' l'
    ∧ usedCells 0 l' = usedCells 0 l ++ (total l, ⟨n, true⟩) :: usedCells (total l + b.size) r
    ∧ newsize + sizeofStructMem ≤ n ∧ n ≤ b.size ∧ DataKept h.ram h'.ram (usedCells 0 l')
  := by
  obtain ⟨-, hmid, hright, hsum⟩ := hd.laid.split
  have hb := hd.laid.proper b (by simp)
  have hsame : ∃ l', Depicts h l' ∧ usedCells 0 l' = usedCells 0 l ++ (total l, ⟨b.size, true⟩)
      :: usedCells (total l + b.size) r := by
    refine ⟨_, hd, ?_⟩
    rw [usedCells_used 0 l r hused, Nat.zero_add, ← hused]
  have hnext : h.next (total l) = total l + b.size := hmid.next
  unfold Proper at hb
  unfold memSizeAligned at hsum
  obtain ⟨hnew, h12, hmod, hmin⟩ := roomFor_spec (show newsize + 3 < 2 ^ 16 by
    unfold sizeofStructMem at hle
    omega)
  have hroom : roomFor newsize + sizeofStructMem ≤ b.size := by
    have := hmin (b.size - 8) (by omega) (by omega) (Nat.le_sub_of_add_le hle)
    unfold sizeofStructMem
    omega
  have hsize : subSize (total l + b.size) (total l + sizeofStructMem) % 2 ^ 16
      = b.size - sizeofStructMem := by
    unfold sizeofStructMem
    rw [subSize_eq (by omega) (by omega)]
    omega
  have hsmall : ¬ roomFor newsize > memSizeAligned := by
    unfold memSizeAligned
    omega
  have hin : ¬ total l + sizeofStructMem ≥ memSizeAligned := by
    unfold sizeofStructMem memSizeAligned
    omega
  unfold RamHeap.memRealloc
  simp only [Nat.add_sub_cancel, hnext, hsize]
  rw [if_neg hsmall, if_neg hin, if_neg (by omega)]
  obtain ⟨l₀, hl₀, hcells₀⟩ := hsame
  by_cases hexact : roomFor newsize = b.size - sizeofStructMem
  · rw [if_pos hexact]
    exact ⟨h, l₀, b.size, rfl, hl₀, hcells₀, hle, Nat.le_refl _, .refl _ _⟩
  rw [if_neg hexact]
  obtain ⟨y, r', rfl, hy⟩ | hhead := head_cases r
  · obtain ⟨l', hl', hcells, hkept⟩ := hd.shrinkMem_free hused hy h12 hmod hroom
      (b.size - sizeofStructMem)
    exact ⟨_, l', _, rfl, hl', hcells, by omega, by omega, hkept⟩
  · by_cases hsplit : roomFor newsize + sizeofStructMem + minSizeAligned ≤ b.size - sizeofStructMem
    · obtain ⟨l', hl', hcells, hkept⟩ := hd.shrinkMem_used hused hhead h12 hmod
        (Nat.sub_add_cancel (by omega)) hsplit
      exact ⟨_, l', _, rfl, hl', hcells, by omega, by omega, hkept⟩
    · refine ⟨_, l₀, b.size, rfl, ?_⟩
      have hstays : h.shrinkMem (total l) (roomFor newsize) (b.size - sizeofStructMem) = h := by
        unfold RamHeap.shrinkMem
        simp only [hnext]
        rw [if_neg (hd.laid.used_behind hhead), if_neg hsplit]
      rw [hstays]
      exact ⟨hl₀, hcells₀, hle, Nat.le_refl _, .refl _ _⟩

/-! ### `mem_malloc` -/

/-- The block that is found is taken, and what is left of it may be a block of its own. -/
theorem Tiled.takeBlock {h : RamHeap} {l r : List Block} {b : Block} (hl : Tiled h (l ++ b :: r))
    (hfree : b.used = false) {size : ℕ} (h12 : 12 ≤ size) (halign : size % 4 = 0)
    (hsize : size + sizeofStructMem ≤ b.size) :
  ∃ n rest, Tiled (h.takeBlock (total l) size) (l ++ ⟨n, true⟩ :: (rest ++ r))
    ∧ (rest = [] ∨ rest = [⟨b.size - n, false⟩]) ∧ n + total rest = b.size
    ∧ size + sizeofStructMem ≤ n
    ∧ DataKept h.ram (h.takeBlock (total l) size).ram (usedCells 0 (l ++ b :: r))
    ∧ (h.takeBlock (total l) size).lfree = h.lfree
  := by
  obtain ⟨-, hmid, -, hsum⟩ := hl.split
  have hnext : h.next (total l) = total l + b.size := hmid.next
  have hroom : subSize (h.next (total l)) (total l + sizeofStructMem)
      = b.size - sizeofStructMem := by
    unfold memSizeAligned at hsum
    unfold sizeofStructMem at *
    rw [hnext, subSize_eq (by omega) (by omega)]
    omega
  unfold RamHeap.takeBlock
  rw [hroom]
  by_cases hsplit : b.size - sizeofStructMem ≥ size + sizeofStructMem + minSizeAligned
  · rw [if_pos hsplit, hnext, Nat.add_assoc (total l)]
    have htotal : total [b] = b.size := by simp
    have hl' : Tiled h (l ++ [b] ++ r) := by
      rwa [List.append_assoc]
    unfold sizeofStructMem minSizeAligned at *
    obtain ⟨hlaid, hkept⟩ := hl'.insertMem (show 20 ≤ 8 + size by omega) (by omega)
      (by rw [htotal]; omega)
    rw [htotal, hfree] at hlaid hkept
    obtain ⟨hset, hkept'⟩ := hlaid.setUsed true
    refine ⟨8 + size, [⟨b.size - (8 + size), false⟩], hset, .inr rfl, ?_, by omega, ?_, ?_⟩
    · simp only [total_cons, total_nil]
      omega
    · have hold : usedCells 0 (l ++ b :: r) = usedCells 0 (l ++ ⟨8 + size, false⟩
          :: ⟨b.size - (8 + size), false⟩ :: r) := by
        rw [usedCells_free 0 l r hfree, usedCells_free 0 l _ rfl, ← List.nil_append (_ :: r),
          usedCells_free _ [] r rfl]
        simp only [total_nil, Nat.add_zero, usedCells, cells_nil, List.filter_nil, List.nil_append]
        rw [Nat.add_assoc (0 + total l) (8 + size), Nat.add_sub_cancel' (by omega)]
      rw [hold]
      refine hkept.trans (hkept'.mono ?_)
      rw [usedCells_free 0 l _ rfl, usedCells_used 0 l _ rfl]
      exact (List.sublist_cons_self _ _).append_left _ |>.subset
    · unfold RamHeap.insertMem
      exact (apply_ite RamHeap.lfree ..).trans (ite_self _)
  · rw [if_neg hsplit]
    obtain ⟨hset, hkept⟩ := hl.setUsed true
    refine ⟨b.size, [], hset, .inl rfl, rfl, hsize, hkept.mono ?_, rfl⟩
    rw [usedCells_free 0 l r hfree, usedCells_used 0 l r rfl]
    exact (List.sublist_cons_self _ _).append_left _ |>.subset

/-- `lfree` is the first free block again when a free one has been taken. -/
theorem Tiled.advanceLfree {h : RamHeap} {l r r' : List Block} {b c : Block}
    (hl : Tiled h (l ++ c :: r)) (hfirst : h.lfree = firstFree 0 (l ++ b :: r'))
    (hb : b.used = false) :
  h.advanceLfree (total l) = some (h.setLfree (firstFree 0 (l ++ c :: r)))
  := by
  have hpos : ∀ a ∈ l, 0 < a.size := fun a ha => by
    have := (hl.proper a (by simp [ha])).1
    omega
  unfold RamHeap.advanceLfree
  obtain hbefore | hall := free_or_used l
  · have hlt := firstFree_lt hbefore hpos 0 (b :: r')
    rw [if_neg (by omega), firstFree_append hbefore 0 _ (b :: r'), ← hfirst]
    rfl
  · have hhere : h.lfree = total l := by
      rw [hfirst, firstFree_used hall, firstFree, hb, Nat.zero_add]
      rfl
    have hseg := (seg_append.mp hl.seg).2
    have hlength := hl.length_lt
    have hsum := hl.size
    rw [total_append] at hsum
    rw [List.length_append] at hlength
    rw [Nat.zero_add] at hseg
    rw [if_pos hhere.symm, hhere, nextFree_eq hseg (fun a ha =>
      hl.proper a (List.mem_append_right _ ha)) hsum (by omega), firstFree_used hall,
      Nat.zero_add]
    rfl

/-- A block is found. -/
theorem memMalloc_some {h h' : RamHeap} {size ptr : ℕ} (hsize : size ≠ 0)
    (hlarge : ¬ roomFor size > memSizeAligned)
    (hsearch : h.searchFree (roomFor size) memSizeAligned h.lfree = some (some ptr))
    (hadvance : (h.takeBlock ptr (roomFor size)).advanceLfree ptr = some h') :
  h.memMalloc size = some (some (ptr + sizeofStructMem), h')
  := by
  simp only [RamHeap.memMalloc, if_neg hsize, if_neg hlarge, hsearch, hadvance, Option.map_some]

/-- No block is found. -/
theorem memMalloc_none {h : RamHeap} {size : ℕ} (hsize : size ≠ 0)
    (hlarge : ¬ roomFor size > memSizeAligned)
    (hsearch : h.searchFree (roomFor size) memSizeAligned h.lfree = some none) :
  h.memMalloc size = some (none, h)
  := by
  simp only [RamHeap.memMalloc, if_neg hsize, if_neg hlarge, hsearch]

/-- There is no such block in any heap. -/
theorem memMalloc_large {h : RamHeap} {size : ℕ} (hsize : size ≠ 0)
    (hlarge : roomFor size > memSizeAligned) :
  h.memMalloc size = some (none, h)
  := by
  simp only [RamHeap.memMalloc, if_neg hsize, if_pos hlarge]

/-- A request is served, or there is no free block that is large enough for it. -/
theorem Depicts.malloc {h : RamHeap} {l : List Block} (hd : Depicts h l) {size : ℕ}
    (hsize : size ≠ 0) (hfits : size + 3 < 2 ^ 16) :
  fit (roomFor size + sizeofStructMem) 0 l = none ∧ h.memMalloc size = some (none, h)
    ∨ ∃ h' l' u₁ u₂ p n, fit (roomFor size + sizeofStructMem) 0 l = some p
      ∧ h.memMalloc size = some (some (p + sizeofStructMem), h') ∧ Depicts h' l'
      ∧ usedCells 0 l = u₁ ++ u₂ ∧ usedCells 0 l' = u₁ ++ (p, ⟨n, true⟩) :: u₂
      ∧ size + sizeofStructMem ≤ n ∧ DataKept h.ram h'.ram (usedCells 0 l)
  := by
  obtain ⟨hnew, h12, hmod, -⟩ := roomFor_spec hfits
  by_cases hlarge : roomFor size > memSizeAligned
  · left
    refine ⟨fit_eq_none_iff.mpr fun b hb _ => ?_, memMalloc_large hsize hlarge⟩
    have := size_le_total hb
    rw [hd.laid.size] at this
    omega
  have hsearch := hd.search (show 0 < roomFor size by omega)
  cases hfit : fit (roomFor size + sizeofStructMem) 0 l with
  | none =>
    rw [hfit] at hsearch
    exact .inl ⟨rfl, memMalloc_none hsize hlarge hsearch⟩
  | some ptr =>
    right
    rw [hfit] at hsearch
    obtain ⟨l₁, b, l₂, rfl, hptr, hfree, hroom⟩ := exists_of_fit hfit
    rw [Nat.zero_add] at hptr
    obtain ⟨n, rest, hlaid, hrest, htotal, hn, hkept, hlfree⟩ :=
      hd.laid.takeBlock hfree h12 hmod hroom
    have hchain := settled_middle.mp hd.settled
    have hsettled : Settled (l₁ ++ ⟨n, true⟩ :: (rest ++ l₂)) := by
      refine settled_middle.mpr ⟨hchain.1, ?_, fun _ _ => .inr rfl, fun _ _ => .inl rfl⟩
      obtain rfl | rfl := hrest
      · exact hchain.2.1
      · change Settled ([] ++ ⟨b.size - n, false⟩ :: l₂)
        refine settled_middle.mpr ⟨.nil, hchain.2.1, nofun, fun c hc => .inr ?_⟩
        have := hchain.2.2.2 c hc
        rwa [hfree, Bool.false_eq_true, false_or] at this
    have hold : usedCells 0 (l₁ ++ b :: l₂)
        = usedCells 0 l₁ ++ usedCells (total l₁ + b.size) l₂ := by
      rw [usedCells_free 0 l₁ l₂ hfree, Nat.zero_add]
    have hcells : usedCells 0 (l₁ ++ ⟨n, true⟩ :: (rest ++ l₂)) = usedCells 0 l₁
        ++ (total l₁, ⟨n, true⟩) :: usedCells (total l₁ + b.size) l₂ := by
      rw [usedCells_used 0 l₁ _ rfl, Nat.zero_add, ← htotal, ← Nat.add_assoc]
      obtain rfl | rfl := hrest
      · rfl
      · rw [usedCells_append]
        rfl
    have hadvance := hlaid.advanceLfree (hlfree.trans hd.lfree) hfree
    subst hptr
    refine ⟨_, _, usedCells 0 l₁, usedCells (total l₁ + b.size) l₂, total l₁, n, rfl,
      memMalloc_some hsize hlarge hsearch hadvance,
      ⟨hlaid.setLfree _, RamHeap.lfree_setLfree _ _, hsettled⟩, hold, hcells, by omega, ?_⟩
    rw [RamHeap.ram_setLfree]
    exact hkept

end UhfReader
