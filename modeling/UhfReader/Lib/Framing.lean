import Mathlib.Data.List.GetD
import UhfReader.Lib.Memory

/-!
# Frames on a byte stream

A frame is a start byte, a length byte and as many bytes as the length byte says.  `feed` is
the automaton that finds the frames of a byte stream: it skips bytes up to a start byte,
gathers bytes until the frame is complete, and then drops what comes until the frame is
taken.

`Represents` says how a receiver stores the state of the automaton: the bytes gathered stand
at the beginning of a buffer, `index` counts them, and a mark tells that a frame is complete.
-/

open Memory

namespace Framing

/-- A start byte, a length byte, and the number of bytes that it gives. -/
structure IsFrame (start : UInt8) (f : List UInt8) : Prop where
  head : f.getD 0 0 = start
  length : f.length = (f.getD 1 0).toNat + 2

/-- What a receiver has: the bytes of the frame under way, and a frame it has completed. -/
@[ext]
structure Receiver where
  gathered : List UInt8
  frame : Option (List UInt8)

/-- The receiver that waits for a start byte. -/
def idle : Receiver := ⟨[], none⟩

/-- The receiver with the complete frame `f`. -/
def full (f : List UInt8) : Receiver := ⟨[], some f⟩

/-- The receiver that has the bytes `l` of a frame under way. -/
def gathering (l : List UInt8) : Receiver := ⟨l, none⟩

/-- A byte that comes when the bytes `l` have been gathered.  The length byte may be that
byte itself. -/
def gather (l : List UInt8) (b : UInt8) : Receiver :=
  if ((l ++ [b]).getD 1 0).toNat < l.length then full (l ++ [b]) else gathering (l ++ [b])

/-- What a byte makes of a receiver. -/
def feed (start : UInt8) (s : Receiver) (b : UInt8) : Receiver :=
  if s.frame.isSome then s
  else if s.gathered = [] then (if b = start then gathering [b] else s)
  else gather s.gathered b

variable {start : UInt8} {s : Receiver} {f l bs : List UInt8} {b : UInt8}

theorem feed_idle_of_ne (h : b ≠ start) :
  feed start idle b = idle
  := by
  simp [feed, idle, h]

@[simp]
theorem feed_idle_start (start : UInt8) :
  feed start idle start = gathering [start]
  := by
  simp [feed, idle]

theorem feed_gathering (h : l ≠ []) :
  feed start (gathering l) b = gather l b
  := by
  simp [feed, gathering, h]

/-- Noise without a start byte is skipped. -/
theorem foldl_feed_noise (h : ∀ b ∈ bs, b ≠ start) :
  bs.foldl (feed start) idle = idle
  := by
  induction bs with
  | nil => rfl
  | cons b bs ih =>
    rw [List.foldl_cons, feed_idle_of_ne (h b List.mem_cons_self)]
    exact ih fun b' hb' => h b' (List.mem_cons_of_mem b hb')

/-- A byte adds at most itself to what is gathered. -/
theorem length_gathered_feed (start : UInt8) (s : Receiver) (b : UInt8) :
  (feed start s b).gathered.length ≤ s.gathered.length + 1
  := by
  unfold feed gather
  split
  · exact Nat.le_succ _
  · split
    · split
      · exact Nat.succ_le_succ (Nat.zero_le _)
      · exact Nat.le_succ _
    · split
      · exact Nat.zero_le _
      · exact (List.length_append).le

/-- A frame that is complete stays until it is taken. -/
theorem foldl_feed_full {f : List UInt8} (h : s.frame = some f) :
  bs.foldl (feed start) s = s
  := by
  induction bs with
  | nil => rfl
  | cons b bs ih =>
    have hkept : feed start s b = s := by
      unfold feed
      rw [h]
      rfl
    rw [List.foldl_cons, hkept, ih]

/-- A receiver without a frame had none before the last bytes came. -/
theorem frame_of_foldl (h : (bs.foldl (feed start) s).frame = none) :
  s.frame = none
  := by
  cases hframe : s.frame with
  | none => rfl
  | some f =>
    rw [foldl_feed_full hframe, hframe] at h
    cases h

/-- The receiver when the first `n` bytes of the frame `f` have arrived. -/
def progress (f : List UInt8) (n : ℕ) : Receiver :=
  if n = f.length then full f else gathering (f.take n)

theorem progress_zero (hf : IsFrame start f) :
  progress f 0 = idle
  := by
  unfold progress
  rw [if_neg (by have := hf.length; omega)]
  rfl

theorem progress_length (f : List UInt8) :
  progress f f.length = full f
  := if_pos rfl

/-- One more byte of a frame: the frame is complete if and only if it was the last one. -/
theorem feed_progress {n : ℕ} (hf : IsFrame start f) (hlt : n < f.length) :
  feed start (progress f n) (f.get ⟨n, hlt⟩) = progress f (n + 1)
  := by
  have hlen := hf.length
  have hnext : f.take n ++ [f.get ⟨n, hlt⟩] = f.take (n + 1) := by
    rw [List.take_add_one, List.getElem?_eq_getElem hlt]
    rfl
  have hcount : (f.take n).length = n := by
    rw [List.length_take]
    omega
  unfold progress
  rw [if_neg (by omega)]
  by_cases hzero : n = 0
  · subst hzero
    have hstart : f.get ⟨0, hlt⟩ = start := by
      rw [← hf.head, List.getD_eq_getElem _ _ hlt]
      rfl
    rw [if_neg (by omega), ← hnext, hstart]
    exact feed_idle_start start
  · have hne : f.take n ≠ [] := by
      intro h
      rw [h, List.length_nil] at hcount
      omega
    have hlength : (f.take (n + 1)).getD 1 0 = f.getD 1 0 := by
      rw [List.getD_eq_getElem?_getD, List.getD_eq_getElem?_getD,
        List.getElem?_take_of_lt (by omega)]
    rw [feed_gathering hne]
    unfold gather
    rw [hnext, hlength, hcount]
    by_cases hlast : n + 1 = f.length
    · rw [if_pos (by omega), if_pos hlast, hlast, List.take_length]
    · rw [if_neg (by omega), if_neg hlast]

/-- While a frame arrives, its bytes are gathered; with the last one it is complete. -/
theorem foldl_feed_take {n : ℕ} (hf : IsFrame start f) (hle : n ≤ f.length) :
  (f.take n).foldl (feed start) idle = progress f n
  := by
  induction n with
  | zero => exact (progress_zero hf).symm
  | succ n ih =>
    have hlt : n < f.length := hle
    rw [List.take_add_one, List.getElem?_eq_getElem hlt, Option.toList_some, List.foldl_append,
      ih (by omega)]
    exact feed_progress hf hlt

/-- A frame after noise, as it arrives. -/
theorem foldl_feed_noise_take {n : ℕ} (hnoise : ∀ b ∈ bs, b ≠ start) (hf : IsFrame start f)
    (hle : n ≤ f.length) :
  (bs ++ f.take n).foldl (feed start) idle = progress f n
  := by
  rw [List.foldl_append, foldl_feed_noise hnoise, foldl_feed_take hf hle]

/-- The bytes gathered of a frame are never more than those before its last one. -/
theorem length_gathered_progress {n : ℕ} (f : List UInt8) (hle : n ≤ f.length) :
  (progress f n).gathered.length < f.length ∨ f = []
  := by
  unfold progress
  split
  · cases f with
    | nil => exact .inr rfl
    | cons b f => exact .inl (Nat.succ_pos _)
  · left
    simp only [gathering, List.length_take]
    omega

/-- A frame is complete only with its last byte. -/
theorem progress_frame {n : ℕ} {f' : List UInt8} (h : (progress f n).frame = some f') :
  n = f.length ∧ f' = f
  := by
  unfold progress at h
  split at h
  · rename_i hn
    exact ⟨hn, (Option.some.inj h).symm⟩
  · cases h

/-! ### Receivers in memory -/

/-- The buffer `buf` with its `index`, its `len` and its mark holds the receiver `s`. -/
structure Represents (mark : UInt8) (buf : Mem) (index len : ℕ) (s : Receiver) : Prop where
  marked : mark = if s.frame.isSome then 1 else 0
  counted : index = s.gathered.length
  stored : buf.take index = s.gathered
  complete : ∀ f ∈ s.frame, len = f.length ∧ buf.take len = f ∧ s.gathered = []

namespace Represents

variable {mark : UInt8} {buf buf' : Mem} {index len : ℕ}

/-- The first `n + 1` bytes after a byte was stored at `n`. -/
theorem take_put_succ (m : Mem) (n : ℕ) (b : UInt8) :
  (m.put n b).take (n + 1) = m.take n ++ [b]
  := by
  have hbelow : Mem.AgreeBelow n (m.put n b) m := by
    intro i hi
    apply Mem.put_of_ne
    omega
  unfold Mem.take
  rw [List.range_succ, List.map_append, List.map_singleton, Mem.put_same]
  congr 1
  exact hbelow.take_eq

theorem idle_iff :
  Represents mark buf index len Framing.idle ↔ mark = 0 ∧ index = 0
  := by
  constructor
  · intro h
    exact ⟨h.marked, h.counted⟩
  · rintro ⟨rfl, rfl⟩
    refine ⟨rfl, rfl, rfl, ?_⟩
    intro f hf
    cases hf

theorem gathering_iff :
  Represents mark buf index len (Framing.gathering l)
    ↔ mark = 0 ∧ index = l.length ∧ buf.take index = l
  := by
  constructor
  · intro h
    exact ⟨h.marked, h.counted, h.stored⟩
  · rintro ⟨rfl, hindex, htake⟩
    refine ⟨rfl, hindex, htake, ?_⟩
    intro f hf
    cases hf

theorem full_iff :
  Represents mark buf index len (Framing.full f)
    ↔ mark = 1 ∧ index = 0 ∧ len = f.length ∧ buf.take len = f
  := by
  constructor
  · intro h
    have hf := h.complete f rfl
    exact ⟨h.marked, h.counted, hf.1, hf.2.1⟩
  · rintro ⟨rfl, rfl, hlen, htake⟩
    refine ⟨rfl, rfl, rfl, ?_⟩
    intro f' hf'
    cases hf'
    exact ⟨hlen, htake, rfl⟩

/-- The start byte is stored at the beginning of the buffer. -/
theorem store_start (buf : Mem) (len : ℕ) (b : UInt8) :
  Represents 0 (buf.put 0 b) 1 len (Framing.gathering [b])
  := by
  rw [gathering_iff]
  exact ⟨rfl, rfl, take_put_succ buf 0 b⟩

/-- A further byte is stored at `index`.  Then the length byte of the buffer tells whether
the frame is complete. -/
theorem store_next (h : Represents 0 buf index len (Framing.gathering l)) (hl : l ≠ [])
    (b : UInt8) :
  ((buf.put index b) 1).toNat < index
      ∧ Represents 1 (buf.put index b) 0 (index + 1) (Framing.gather l b)
    ∨ index ≤ ((buf.put index b) 1).toNat
      ∧ Represents 0 (buf.put index b) (index + 1) len (Framing.gather l b)
  := by
  obtain ⟨-, rfl, htake⟩ := gathering_iff.mp h
  have hpos : 0 < l.length := List.length_pos_iff.mpr hl
  have hnext : (buf.put l.length b).take (l.length + 1) = l ++ [b] := by
    rw [take_put_succ, htake]
  have hlength : (l ++ [b]).getD 1 0 = buf.put l.length b 1 := by
    rw [← hnext, List.getD_eq_getElem _ _ (by rw [Mem.length_take]; omega)]
    simp [Mem.take]
  unfold Framing.gather
  rw [hlength]
  split
  · rename_i hlast
    refine .inl ⟨hlast, full_iff.mpr ⟨rfl, rfl, ?_, hnext⟩⟩
    rw [List.length_append, List.length_singleton]
  · rename_i hmore
    refine .inr ⟨Nat.not_lt.mp hmore, gathering_iff.mpr ⟨rfl, ?_, hnext⟩⟩
    rw [List.length_append, List.length_singleton]

end Represents

end Framing
