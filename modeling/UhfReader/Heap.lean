import UhfReader.Lib.Memory
import UhfReader.Lib.Run
import UhfReader.Lib.Tiling

/-!
# The heap of lwIP

`mem_malloc`, `mem_free` and `mem_realloc` manage a heap of 1024 bytes, from which the pbufs of
outgoing datagrams are taken.  In front of each block stands a `struct mem` with the offsets of the
blocks before and behind it.  Neighbours that are free are made one block as soon as there are any.

Pointers are offsets from `ram`.
-/

open Memory

namespace UhfReader

/-- `MEM_SIZE_ALIGNED` -/
def memSizeAligned : ℕ := 1024

/-- `SIZEOF_STRUCT_MEM` -/
def sizeofStructMem : ℕ := 8

/-- `MIN_SIZE_ALIGNED` -/
def minSizeAligned : ℕ := 12

/-- `LWIP_MEM_ALIGN_SIZE(size)`, stored in a `mem_size_t` -/
def lwipMemAlignSize (size : ℕ) : ℕ := (size + 3) / 4 * 4 % 2 ^ 16

/-- The room for a request: it is aligned, and at least `MIN_SIZE_ALIGNED`. -/
def roomFor (size : ℕ) : ℕ := max (lwipMemAlignSize size) minSizeAligned

/-- The difference of two `size_t`. -/
def subSize (a b : ℕ) : ℕ := (a + 2 ^ 32 - b) % 2 ^ 32

/-- The `mem_size_t` at an offset. -/
def u16At (m : Mem) (i : ℕ) : ℕ := (m i).toNat + 256 * (m (i + 1)).toNat

/-- The memory with the `mem_size_t` at an offset replaced. -/
def putU16 (m : Mem) (i v : ℕ) : Mem :=
  (m.put i (UInt8.ofNat v)).put (i + 1) (UInt8.ofNat (v / 256))

/-- The heap: the memory from `ram` on and `lfree`. -/
structure RamHeap where
  ram : Mem
  lfree : ℕ

namespace RamHeap

/-! ### `struct mem` -/

/-- `mem->next` -/
def next (h : RamHeap) (mem : ℕ) : ℕ := u16At h.ram mem

/-- `mem->prev` -/
def prev (h : RamHeap) (mem : ℕ) : ℕ := u16At h.ram (mem + 2)

/-- `mem->used` -/
def used (h : RamHeap) (mem : ℕ) : UInt8 := h.ram (mem + 4)

/-- `mem->next = v` -/
def setNext (h : RamHeap) (mem v : ℕ) : RamHeap := { h with ram := putU16 h.ram mem v }

/-- `mem->prev = v` -/
def setPrev (h : RamHeap) (mem v : ℕ) : RamHeap := { h with ram := putU16 h.ram (mem + 2) v }

/-- `mem->used = v` -/
def setUsed (h : RamHeap) (mem : ℕ) (v : UInt8) : RamHeap := { h with ram := h.ram.put (mem + 4) v }

/-- `lfree = v` -/
def setLfree (h : RamHeap) (v : ℕ) : RamHeap := { h with lfree := v }

@[simp]
theorem ram_setLfree (h : RamHeap) (v : ℕ) :
  (h.setLfree v).ram = h.ram
  := rfl

@[simp]
theorem lfree_setLfree (h : RamHeap) (v : ℕ) :
  (h.setLfree v).lfree = v
  := rfl

/-! ### The operations -/

/-- `mem_init` -/
def memInit (m : Mem) : RamHeap :=
  let h : RamHeap := ⟨m, 0⟩
  let h := ((h.setNext 0 memSizeAligned).setPrev 0 0).setUsed 0 0
  let ramEnd := memSizeAligned
  let h := ((h.setUsed ramEnd 1).setNext ramEnd memSizeAligned).setPrev ramEnd memSizeAligned
  h.setLfree 0

/-- `mem` and the one behind it are made one. -/
def joinMem (h : RamHeap) (mem nmem : ℕ) : RamHeap :=
  let h := h.setNext mem (h.next nmem)
  h.setPrev (h.next nmem) mem

/-- The first half of `plug_holes`: the hole forward -/
def plugForward (h : RamHeap) (mem : ℕ) : RamHeap :=
  let nmem := h.next mem
  if mem ≠ nmem ∧ h.used nmem = 0 ∧ nmem ≠ memSizeAligned then
    let h := if h.lfree = nmem then h.setLfree mem else h
    h.joinMem mem nmem
  else h

/-- The second half of `plug_holes`: the hole backward -/
def plugBackward (h : RamHeap) (mem : ℕ) : RamHeap :=
  let pmem := h.prev mem
  if pmem ≠ mem ∧ h.used pmem = 0 then
    let h := if h.lfree = mem then h.setLfree pmem else h
    h.joinMem pmem mem
  else h

/-- `plug_holes` -/
def plugHoles (h : RamHeap) (mem : ℕ) : RamHeap := (h.plugForward mem).plugBackward mem

/-- `mem_free`, for a pointer that is not below `ram` -/
def memFree (h : RamHeap) : Option ℕ → RamHeap
  | none => h
  | some rmem =>
    if rmem ≥ memSizeAligned then h
    else
      let mem := rmem - sizeofStructMem
      let h := h.setUsed mem 0
      let h := if mem < h.lfree then h.setLfree mem else h
      h.plugHoles mem

/-- A `struct mem` is put at `ptr2`, behind `mem` and before `behind`. -/
def insertMem (h : RamHeap) (mem ptr2 behind : ℕ) : RamHeap :=
  let h := ((h.setUsed ptr2 0).setNext ptr2 behind).setPrev ptr2 mem
  let h := h.setNext mem ptr2
  if h.next ptr2 ≠ memSizeAligned then h.setPrev (h.next ptr2) ptr2 else h

/-- The end of the block at `mem`, which has room for `size` bytes, is made free. -/
def shrinkMem (h : RamHeap) (mem newsize size : ℕ) : RamHeap :=
  let mem2 := h.next mem
  let ptr2 := mem + sizeofStructMem + newsize
  if h.used mem2 = 0 then
    let next := h.next mem2
    let h := if h.lfree = mem2 then h.setLfree ptr2 else h
    h.insertMem mem ptr2 next
  else if newsize + sizeofStructMem + minSizeAligned ≤ size then
    let h := if ptr2 < h.lfree then h.setLfree ptr2 else h
    h.insertMem mem ptr2 (h.next mem)
  else h

/-- `mem_realloc`, for a pointer that is not below `ram`: the result and the heap -/
def memRealloc (h : RamHeap) (rmem newsize : ℕ) : Option ℕ × RamHeap :=
  let newsize := roomFor newsize
  if newsize > memSizeAligned then (none, h)
  else if rmem ≥ memSizeAligned then (some rmem, h)
  else
    let mem := rmem - sizeofStructMem
    let size := subSize (h.next mem) (mem + sizeofStructMem) % 2 ^ 16
    if newsize > size then (none, h)
    else if newsize = size then (some rmem, h)
    else (some rmem, h.shrinkMem mem newsize size)

/-- The loop of `mem_malloc`, for a number of rounds: the block it stops at, or `none` behind the
last one. -/
def searchFree (h : RamHeap) (size : ℕ) : (rounds : ℕ) → (ptr : ℕ) → Option (Option ℕ)
  | 0, _ => none
  | rounds + 1, ptr =>
    if ptr < memSizeAligned - size then
      if h.used ptr = 0 ∧ subSize (h.next ptr) (ptr + sizeofStructMem) ≥ size then some (some ptr)
      else h.searchFree size rounds (h.next ptr)
    else some none

/-- The loop that finds the next free block, for a number of rounds. -/
def nextFree (h : RamHeap) : (rounds : ℕ) → (ptr : ℕ) → Option ℕ
  | 0, _ => none
  | rounds + 1, ptr =>
    if h.used ptr ≠ 0 ∧ ptr ≠ memSizeAligned then h.nextFree rounds (h.next ptr) else some ptr

/-- The block at `ptr` is taken: what is left is a block of its own when it is large enough. -/
def takeBlock (h : RamHeap) (ptr size : ℕ) : RamHeap :=
  if subSize (h.next ptr) (ptr + sizeofStructMem)
      ≥ size + sizeofStructMem + minSizeAligned then
    (h.insertMem ptr (ptr + sizeofStructMem + size) (h.next ptr)).setUsed ptr 1
  else h.setUsed ptr 1

/-- `lfree` goes to the next free block when the block at `mem` was the first one. -/
def advanceLfree (h : RamHeap) (mem : ℕ) : Option RamHeap :=
  if mem = h.lfree then (h.nextFree memSizeAligned h.lfree).map h.setLfree else some h

/-- `mem_malloc`: the pointer or `NULL`, and the heap.  There is no result when a loop takes more
rounds than a heap can have blocks. -/
def memMalloc (h : RamHeap) (size : ℕ) : Option (Option ℕ × RamHeap) :=
  if size = 0 then some (none, h)
  else
    let size := roomFor size
    if size > memSizeAligned then some (none, h)
    else
      match h.searchFree size memSizeAligned h.lfree with
      | none => none
      | some none => some (none, h)
      | some (some ptr) =>
        ((h.takeBlock ptr size).advanceLfree ptr).map fun h => (some (ptr + sizeofStructMem), h)

end RamHeap

/-! ### Clients of the heap -/

/-- An object that a client has got: its pointer, and the bytes that the client has put there. -/
structure Object where
  addr : ℕ
  data : List UInt8

/-- The heap and the objects that clients have. -/
structure HeapUse where
  heap : RamHeap
  objects : List Object

/-- What clients do.  Objects are given by their places in the list. -/
inductive HeapEvent
  | malloc (size : ℕ)
  | free (i : ℕ)
  | realloc (i newsize : ℕ)
  /-- a byte of an object is written -/
  | write (i off : ℕ) (b : UInt8)

/-- What an event makes of the heap and the objects.  Clients give back and shrink only what they
have, and write only where they have asked for room. -/
def HeapUse.step (s : HeapUse) : HeapEvent → Option HeapUse
  | .malloc size =>
    (s.heap.memMalloc size).map fun out =>
      match out.1 with
      | none => ⟨out.2, s.objects⟩
      | some addr => ⟨out.2, s.objects ++ [⟨addr, (out.2.ram.shift addr).take size⟩]⟩
  | .free i =>
    s.objects[i]?.map fun o => ⟨s.heap.memFree (some o.addr), s.objects.eraseIdx i⟩
  | .realloc i newsize =>
    s.objects[i]?.bind fun o =>
      if newsize ≤ o.data.length then
        match s.heap.memRealloc o.addr newsize with
        | (none, _) => none
        | (some addr, heap) => some ⟨heap, s.objects.set i ⟨addr, o.data.take newsize⟩⟩
      else none
  | .write i off b =>
    s.objects[i]?.bind fun o =>
      if off < o.data.length then
        some ⟨{ s.heap with ram := s.heap.ram.put (o.addr + off) b },
          s.objects.set i ⟨o.addr, o.data.set off b⟩⟩
      else none

end UhfReader
