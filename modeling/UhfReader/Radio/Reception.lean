import UhfReader.Lib.Framing
import UhfReader.Radio.Transmit
import UhfReader.Wait

/-!
# Frames from the R2000

`UART4_IRQHandler` finds the frames of the byte stream as the automaton of `Lib.Framing` does.
It differs in two cases: a frame of less than four bytes clears the record, and a frame `0x70`,
with which the R2000 reports a reset, takes its own mark back.
-/

open Memory

namespace UhfReader

namespace SR2000TransData

variable {r : SR2000TransData} {s : Framing.Receiver} {b : UInt8}

/-- The link holds the receiver `s`. -/
def Holds (r : SR2000TransData) (s : Framing.Receiver) : Prop :=
  Framing.Represents r.setMark r.buf.load r.index r.len s

theorem holds_idle_iff :
  r.Holds Framing.idle ↔ r.setMark = 0 ∧ r.index = 0
  := Framing.Represents.idle_iff

/-- A byte makes of the receiver what the automaton makes of it, as long as there is room and no
frame of less than four bytes ends.  The timer of the wait is left alone. -/
theorem Holds.receive (h : r.Holds s) (hroom : s.gathered.length < 255)
    (hlong : ∀ f, s.frame = none → (Framing.feed 0xA0 s b).frame = some f → 4 ≤ f.length) :
  (r.receive b).1.Holds (Framing.feed 0xA0 s b) ∧ (r.receive b).1.sendTimer = r.sendTimer
    ∧ ((r.receive b).2 = true ↔ s.frame = none ∧ (Framing.feed 0xA0 s b).frame.isSome)
  := by
  obtain ⟨gathered, frame⟩ := s
  unfold Holds at h ⊢
  unfold SR2000TransData.receive
  cases frame with
  | some f =>
    have hmark : r.setMark ≠ 0 := by
      rw [h.marked]
      exact (by decide : (1 : UInt8) ≠ 0)
    rw [if_neg hmark]
    refine ⟨h, rfl, ?_⟩
    simp
  | none =>
    have hmark : r.setMark = 0 := h.marked
    rw [if_pos hmark]
    have hindex : r.index = gathered.length := h.counted
    by_cases hidle : gathered = []
    · subst hidle
      have hzero : r.index = 0 := hindex
      by_cases hb : b = 0xA0
      · subst hb
        have hfeed := Framing.feed_idle_start 0xA0
        unfold Framing.idle at hfeed
        rw [if_pos ⟨hzero, rfl⟩, hfeed, store_inside (by decide)]
        refine ⟨?_, rfl, ?_⟩
        · dsimp only [withBuf]
          rw [hmark, Block.load_put_eq _ (by decide)]
          exact Framing.Represents.store_start _ _ _
        · simp [Framing.gathering]
      · have hfeed := Framing.feed_idle_of_ne hb
        unfold Framing.idle at hfeed
        rw [if_neg (fun h : _ ∧ _ => hb h.2), if_neg (not_not.mpr hzero), hfeed]
        refine ⟨h, rfl, ?_⟩
        simp
    · have hpos : r.index ≠ 0 := by
        rw [hindex]
        exact fun hnil => hidle (List.length_eq_zero_iff.mp hnil)
      have hlt : r.index < 255 := by
        rw [hindex]
        exact hroom
      have hmax : ¬ r.index > bufLen := by
        simp only [bufLen]
        omega
      have hfeed : Framing.feed 0xA0 ⟨gathered, none⟩ b = Framing.gather gathered b :=
        Framing.feed_gathering hidle
      have hone : (r.withBuf (r.buf.put r.index b)).load 1 = (r.buf.load.put r.index b) 1 := by
        rw [← Block.load_put_eq _ hlt]
        rfl
      rw [if_neg (fun h : _ ∧ _ => hpos h.1), if_pos hpos, if_neg hmax, store_inside hlt]
      rw [hfeed] at hlong ⊢
      rw [hmark] at h
      dsimp only
      rw [hone]
      obtain ⟨hlast, hrep⟩ | ⟨hmore, hrep⟩ := h.store_next hidle b
      · have hcond : (r.withBuf (r.buf.put r.index b)).index
            > ((r.buf.load.put r.index b) 1).toNat := hlast
        have hsome : (Framing.gather gathered b).frame.isSome := by
          by_contra hnone
          have hmarked := hrep.marked
          rw [if_neg hnone] at hmarked
          exact absurd hmarked (by decide)
        obtain ⟨f, hf⟩ := Option.isSome_iff_exists.mp hsome
        have hlength : r.index + 1 = f.length := (hrep.complete f hf).1
        have hfour := hlong f rfl hf
        have hfits : ¬ ((r.withBuf (r.buf.put r.index b)).index + 1 < 4
            ∨ (r.withBuf (r.buf.put r.index b)).index + 1 > bufLen) := by
          have : (r.withBuf (r.buf.put r.index b)).index = r.index := rfl
          simp only [bufLen, this]
          omega
        rw [if_pos hcond, if_neg hfits]
        rw [← Block.load_put_eq _ hlt] at hrep
        exact ⟨hrep, rfl, by simp [hsome]⟩
      · have hcond : ¬ (r.withBuf (r.buf.put r.index b)).index
            > ((r.buf.load.put r.index b) 1).toNat := Nat.not_lt.mpr hmore
        have hnone : ¬ (Framing.gather gathered b).frame.isSome := by
          intro hsome
          have hmarked := hrep.marked
          rw [if_pos hsome] at hmarked
          exact absurd hmarked (by decide)
        rw [if_neg hcond]
        rw [← Block.load_put_eq _ hlt] at hrep
        refine ⟨?_, rfl, by simp [hnone]⟩
        dsimp only [withBuf]
        rw [hmark]
        exact hrep

end SR2000TransData

/-- A frame that the link takes in: it has 4 to 255 bytes and does not report a reset. -/
structure LinkFrame (f : List UInt8) : Prop where
  frame : Framing.IsFrame 0xA0 f
  long : 4 ≤ f.length
  short : f.length ≤ 255
  code : f.getD 3 0 ≠ 0x70

/-- The bytes of the frame that the link holds. -/
theorem SR2000TransData.Holds.load_full {r : SR2000TransData} {f : List UInt8}
    (h : r.Holds (Framing.full f)) (hshort : f.length ≤ 255) :
  r.load.take f.length = f ∧ r.len = f.length
  := by
  obtain ⟨-, -, hlen, htake⟩ := Framing.Represents.full_iff.mp h
  refine ⟨?_, hlen⟩
  rw [hlen] at htake
  refine Eq.trans ?_ htake
  apply Mem.AgreeBelow.take_eq
  intro i hi
  exact SR2000TransData.load_inside (by omega)

/-- A byte of the first `n` bytes of a memory. -/
theorem getD_of_take {m : Mem} {f : List UInt8} (h : m.take f.length = f) {i : ℕ}
    (hi : i < f.length) :
  m i = f.getD i 0
  := by
  have hget := List.getElem_of_eq h (i := i) (by rwa [Mem.length_take])
  rw [List.getD_eq_getElem _ _ hi, ← hget]
  simp [Mem.take]

/-- One more byte of a frame arrives; the last one completes it. -/
theorem receive_progress {r : SR2000TransData} {f : List UInt8} {n : ℕ} (hf : LinkFrame f)
    (hlt : n < f.length) (h : r.Holds (Framing.progress f n)) :
  (r.receive (f.get ⟨n, hlt⟩)).1.Holds (Framing.progress f (n + 1))
    ∧ (r.receive (f.get ⟨n, hlt⟩)).1.sendTimer = r.sendTimer
    ∧ (r.Completes (f.get ⟨n, hlt⟩) ↔ n + 1 = f.length)
  := by
  have hlong := hf.long
  have hroom : (Framing.progress f n).gathered.length < 255 := by
    obtain hgathered | hnil := Framing.length_gathered_progress f (Nat.le_of_lt hlt)
    · have := hf.short
      omega
    · rw [hnil] at hlt
      simp at hlt
  have hfeed := Framing.feed_progress hf.frame hlt
  have hnone : (Framing.progress f n).frame = none := by
    unfold Framing.progress
    rw [if_neg (by omega)]
    rfl
  obtain ⟨hholds, htimer, hcomplete⟩ := h.receive (b := f.get ⟨n, hlt⟩) hroom (by
    intro f' _ hf'
    rw [hfeed] at hf'
    rw [(Framing.progress_frame hf').2]
    exact hlong)
  rw [hfeed] at hholds hcomplete
  refine ⟨hholds, htimer, ?_⟩
  rw [SR2000TransData.Completes, hcomplete, Option.isSome_iff_exists]
  constructor
  · rintro ⟨-, f', hf'⟩
    exact (Framing.progress_frame hf').1
  · intro hlast
    refine ⟨hnone, f, ?_⟩
    rw [hlast, Framing.progress_length]
    rfl

/-- One more byte of a frame arrives; with the last one the frame is decoded. -/
theorem uart4IRQHandler_progress {g : Globals} {f : List UInt8} {n : ℕ} (hf : LinkFrame f)
    (hlt : n < f.length) (h : g.r2000.Holds (Framing.progress f n)) :
  ∃ r, r.Holds (Framing.progress f (n + 1)) ∧ r.sendTimer = g.r2000.sendTimer
    ∧ uart4IRQHandler g (f.get ⟨n, hlt⟩)
      = if n + 1 = f.length then decodeR2000 { g with r2000 := r } else { g with r2000 := r }
  := by
  obtain ⟨hholds, htimer, hdone⟩ := receive_progress hf hlt h
  refine ⟨_, hholds, htimer, ?_⟩
  rw [uart4IRQHandler_eq]
  by_cases hlast : n + 1 = f.length
  · rw [if_pos (hdone.mpr hlast), if_pos hlast]
  · rw [if_neg (fun hc => hlast (hdone.mp hc)), if_neg hlast]

/-- The link after one more byte of a frame. -/
theorem uart4IRQHandler_holds {g : Globals} {f : List UInt8} {n : ℕ} (hf : LinkFrame f)
    (hlt : n < f.length) (h : g.r2000.Holds (Framing.progress f n)) :
  (uart4IRQHandler g (f.get ⟨n, hlt⟩)).r2000.Holds (Framing.progress f (n + 1))
    ∧ (uart4IRQHandler g (f.get ⟨n, hlt⟩)).r2000.sendTimer = g.r2000.sendTimer
  := by
  obtain ⟨r, hholds, htimer, heq⟩ := uart4IRQHandler_progress hf hlt h
  rw [heq]
  split
  · rename_i hlast
    rw [hlast, Framing.progress_length] at hholds ⊢
    have hcode : r.frameCmd ≠ 0x70 := by
      have hload := getD_of_take (hholds.load_full hf.short).1 (i := 3) (by
        have := hf.long
        omega)
      unfold SR2000TransData.frameCmd
      rw [hload]
      exact hf.code
    rw [(decodeR2000_link _).1, if_neg hcode]
    exact ⟨hholds, htimer⟩
  · exact ⟨hholds, htimer⟩

/-! ### What else happens to the link -/

/-- The index after a system tick. -/
theorem timeUpdate_index (g : Globals) :
  (timeUpdate g).r2000.index = g.r2000.index
  := by
  obtain ⟨-, h⟩ | ⟨-, _, _, _, _, _, _, h⟩ := timeUpdate_cases g
  · rw [h]
  · rw [h]
    rfl

/-- A round of the waiting loop leaves the index and the buffer alone or clears the link. -/
theorem pollR2000_index (cmd : UInt8) (g : Globals) :
  (pollR2000 cmd g).1.r2000 = .cleared
    ∨ (pollR2000 cmd g).1.r2000.index = g.r2000.index
      ∧ (pollR2000 cmd g).1.r2000.buf = g.r2000.buf
  := by
  unfold pollR2000
  split
  · unfold timeoutR2000
    dsimp only
    split
    · exact .inr ⟨rfl, rfl⟩
    · split
      · exact .inr ⟨rfl, rfl⟩
      · exact .inl rfl
  · repeat' split
    all_goals exact .inr ⟨rfl, rfl⟩

end UhfReader
