import UhfReader.Ethernet

/-!
# Frames that are received

The descriptors that the DMA has filled and the reader has not given back are a queue.  The reader
takes whole frames without errors from it, in the order in which they were stored, and stops for
good at anything else.

`ETH_IRQHandler` clears the flags of the interrupt behind its loop.  What the DMA stores after the
handler has last looked at a descriptor and before the flags are cleared stays in the ring without
an interrupt.
-/

open Memory

namespace UhfReader

/-! ### Single descriptors -/

/-- What `low_level_input` returns for a frame: pbufs with the frame, when the pool has enough. -/
def Carries (p : ℕ × Option (List (List UInt8))) (w : StoredFrame) : Prop :=
  p.2.map List.flatten = if pbufsFor w.frame.length ≤ p.1 then some w.frame else none

theorem rxDescTable_of_lt (tab : ℕ → EthDmaDesc) {i : ℕ} (h : i < ethRxBufNb) :
  rxDescTable tab i = ethDmaRxDescReceiveITConfig (rxDesc ethRxBufNb i)
  := by
  unfold rxDescTable ethDmaRxDescChainInit
  rw [Ring.foldl_update (fun _ d => ethDmaRxDescReceiveITConfig d), if_pos h,
    Ring.foldl_update (fun i _ => rxDesc ethRxBufNb i), if_pos h]

theorem next_rxDesc {i : ℕ} (h : i < ethRxBufNb) :
  (rxDesc ethRxBufNb i).Buffer2NextDescAddr = Ring.place ethRxBufNb i 1
  := by
  change (if i < ethRxBufNb - 1 then i + 1 else 0) = (i + 1) % ethRxBufNb
  unfold ethRxBufNb at *
  split
  · omega
  · omega

/-- The bytes of a frame from its length. -/
theorem frame_length {w : StoredFrame} (h : Whole w.status) :
  (frameLength w.status - 4).toUInt16.toNat = w.bytes.length - 4
  := by
  have hfits := w.fits
  have hmin := w.checksum_of_whole h
  unfold ethMaxPacketSize at hfits
  rw [w.length_of_whole h]
  have hlen : (UInt32.ofNat w.bytes.length).toNat = w.bytes.length := by
    rw [UInt32.toNat_ofNat']
    omega
  rw [UInt32.toNat_toUInt16, UInt32.toNat_sub_of_le]
  · rw [hlen]
    change (w.bytes.length - 4) % 65536 = _
    omega
  · rw [UInt32.le_iff_toNat_le, hlen]
    exact hmin

theorem length_frame (w : StoredFrame) :
  w.frame.length = w.bytes.length - 4
  := by
  unfold StoredFrame.frame
  rw [List.length_take]
  omega

theorem frameLength_ne_zero {w : StoredFrame} (h : Whole w.status) :
  frameLength w.status ≠ 0
  := by
  have hfits := w.fits
  have hmin := w.checksum_of_whole h
  unfold ethMaxPacketSize at hfits
  rw [w.length_of_whole h]
  intro hzero
  have hlen := congrArg UInt32.toNat hzero
  rw [UInt32.toNat_ofNat'] at hlen
  change _ = 0 at hlen
  omega

/-! ### The queue of the ring -/

namespace Reception

/-- A descriptor that is the DMA's. -/
def Free (s : Reception) (i : ℕ) : Prop :=
  (s.DMARxDscrTab i).Status &&& ethDmaRxDescOwn ≠ 0

/-- A descriptor and its buffer are as the DMA has left them. -/
def Has (s : Reception) (i : ℕ) (w : StoredFrame) : Prop :=
  (s.DMARxDscrTab i).Status = w.status
    ∧ (s.Rx_Buff.shift (i * ethMaxPacketSize)).take w.bytes.length = w.bytes

/-- The first one of a queue is not a whole frame without errors. -/
def Stuck (queue : List StoredFrame) : Prop :=
  ∃ w ∈ queue.head?, ¬ Whole w.status

/-- The handler has seen what is in the ring, apart from what was stored since. -/
def Seen (s : Reception) : Prop :=
  s.handler = .clears ∨ s.handler = .clearsSummary ∨ s.handler = .returned ∧ s.NIS = false

/-- The reader has taken the words of `taken`, and those of `queue` are in the ring. -/
structure Linked (s : Reception) (taken queue : List StoredFrame) : Prop where
  layout : Laid ethRxBufNb s.DMARxDscrTab
  ring : Ring.Holds ethRxBufNb s.Free s.Has s.DMARxDescToGet queue
  next : s.current = Ring.place ethRxBufNb s.DMARxDescToGet queue.length
  taking : s.handler = .takes → ∃ w rest, queue = w :: rest ∧ Whole w.status
  polled : s.suspended → s.RBUS
  waits : s.suspended → s.handler ≠ .resumes → queue.length = ethRxBufNb
  left : s.Seen → queue = s.unseen ∨ Stuck queue
  passed : List.Forall₂ Carries s.passed taken
  whole : ∀ w ∈ taken, Whole w.status

variable {s s' : Reception} {taken queue : List StoredFrame} {w : StoredFrame}

theorem Has.not_free {i : ℕ} (h : s.Has i w) :
  ¬ s.Free i
  := by
  unfold Free
  rw [h.1, w.released]
  exact not_not_intro rfl

theorem linked_lowLevelInit (tab : ℕ → EthDmaDesc) (buff : Mem) :
  (lowLevelInit tab buff).Linked [] []
  where
  layout i hi := by
    change (rxDescTable tab i).Buffer1Addr = _ ∧ (rxDescTable tab i).Buffer2NextDescAddr = _
    rw [rxDescTable_of_lt tab hi]
    exact ⟨rfl, next_rxDesc hi⟩
  ring := by
    apply Ring.Holds.empty (Nat.zero_lt_succ 3)
    intro i hi
    change (rxDescTable tab i).Status &&& ethDmaRxDescOwn ≠ 0
    rw [rxDescTable_of_lt tab hi]
    change ethDmaRxDescOwn &&& ethDmaRxDescOwn ≠ 0
    decide
  next := rfl
  taking h := by cases h
  polled h := by cases h
  waits h := by cases h
  left _ := .inl rfl
  passed := .nil
  whole _ h := by cases h

namespace Linked

/-! ### The DMA -/

/-- The DMA owns its descriptor as long as the ring is not full. -/
theorem free_current_iff (h : s.Linked taken queue) :
  s.Free s.current ↔ queue.length < ethRxBufNb
  := by
  rw [h.next]
  exact h.ring.free_next_iff fun _ _ hhas => hhas.not_free

theorem store (h : s.Linked taken queue) (hs : s.store w = some s') :
  s'.Linked taken (queue ++ [w])
  := by
  unfold Reception.store at hs
  simp only [] at hs
  split at hs
  · cases hs
  · rename_i hown
    have hroom : queue.length < ethRxBufNb := h.free_current_iff.mp hown
    have hcur : s.current < ethRxBufNb := by
      rw [h.next]
      exact Ring.place_lt h.ring.bound _
    obtain ⟨haddr, hnext⟩ := h.layout s.current hcur
    cases hs
    refine ⟨h.layout.setStatus s.current w.status, ?_, ?_, ?_, nofun, nofun, ?_, h.passed, h.whole⟩
    · refine h.ring.push hroom ⟨?_, ?_⟩ ?_ ?_
      · rw [← h.next]
        exact setStatus_self ..
      · rw [← h.next]
        change ((s.Rx_Buff.copy _ _ _).shift (s.current * ethMaxPacketSize)).take _ = _
        rw [haddr]
        apply Eq.trans _ (Mem.take_ofList w.bytes fun _ => 0)
        apply List.map_congr_left
        intro k hk
        exact Mem.copy_inside (List.mem_range.mp hk)
      · intro j _ hne hfree
        rw [← h.next] at hne
        change (setStatus _ _ _ j).Status &&& _ ≠ 0
        rw [setStatus_of_ne hne]
        exact hfree
      · intro j _ hne v hv
        rw [← h.next] at hne
        constructor
        · change (setStatus _ _ _ j).Status = _
          rw [setStatus_of_ne hne]
          exact hv.1
        · change ((s.Rx_Buff.copy _ _ _).shift (j * ethMaxPacketSize)).take _ = _
          rw [haddr, take_copy_apart s.Rx_Buff _ hne w.fits v.fits]
          exact hv.2
    · change (s.DMARxDscrTab s.current).Buffer2NextDescAddr = _
      rw [hnext, h.next, Ring.place_place, List.length_append]
      rfl
    · intro htakes
      obtain ⟨v, rest, rfl, hv⟩ := h.taking htakes
      exact ⟨v, rest ++ [w], rfl, hv⟩
    · intro hseen
      have hbefore : s.Seen := by
        obtain hclears | hsummary | ⟨hreturned, hnis⟩ := hseen
        · exact .inl hclears
        · exact .inr (.inl hsummary)
        · exact .inr (.inr ⟨hreturned, (Bool.or_eq_false_iff.mp hnis).1⟩)
      obtain heq | ⟨v, hv, hstuck⟩ := h.left hbefore
      · exact .inl (congrArg (· ++ [w]) heq)
      · refine .inr ⟨v, ?_, hstuck⟩
        cases queue with
        | nil => cases hv
        | cons a l => exact hv

theorem starve (h : s.Linked taken queue) (hs : s.starve = some s') :
  s'.Linked taken queue
  := by
  unfold Reception.starve at hs
  split at hs
  · rename_i hown
    cases hs
    refine { h with polled := fun _ => rfl, waits := ?_ }
    intro _ _
    have hfull : ¬ queue.length < ethRxBufNb := by
      rw [← h.free_current_iff]
      exact not_not_intro hown
    exact Nat.le_antisymm h.ring.room (Nat.not_lt.mp hfull)
  · cases hs

/-! ### The handler -/

/-- The first descriptor of the ring as the handler sees it. -/
theorem status_first (h : s.Linked taken (w :: queue)) :
  s.status = w.status
  := h.ring.has_first.1

/-- The handler sees a frame when the first one of the queue is whole. -/
theorem size_ne_zero_iff (h : s.Linked taken queue) :
  s.ethGetRxPktSize ≠ 0 ↔ ∃ w rest, queue = w :: rest ∧ Whole w.status
  := by
  unfold ethGetRxPktSize
  cases queue with
  | nil =>
    have hfree : s.status &&& ethDmaRxDescOwn ≠ 0 := h.ring.free_first
    rw [if_neg fun hc => hfree hc.1]
    simp
  | cons w rest =>
    rw [h.status_first]
    by_cases hwhole : Whole w.status
    · rw [if_pos ⟨w.released, hwhole⟩]
      exact ⟨fun _ => ⟨w, rest, rfl, hwhole⟩, fun _ => frameLength_ne_zero hwhole⟩
    · rw [if_neg fun hc => hwhole hc.2]
      constructor
      · intro hne
        exact absurd rfl hne
      · rintro ⟨_, _, heq, hw⟩
        cases heq
        exact absurd hw hwhole

/-- What `low_level_input` does with a whole frame. -/
theorem lowLevelInput_eq (h : s.Linked taken (w :: queue)) (hw : Whole w.status) (free : ℕ) :
  ∃ p, Carries (free, p) w ∧ s.lowLevelInput free = some (p, { s with
    DMARxDescToGet := Ring.place ethRxBufNb s.DMARxDescToGet 1
    DMARxDscrTab := setStatus s.DMARxDscrTab s.DMARxDescToGet ethDmaRxDescOwn })
  := by
  obtain ⟨haddr, hnext⟩ := h.layout _ h.ring.bound
  have hown : ¬ s.status &&& ethDmaRxDescOwn ≠ 0 := by
    rw [h.status_first, w.released]
    exact not_not_intro rfl
  refine ⟨(pbufAlloc free (w.bytes.length - 4)).map fun lens =>
    copyChain (s.Rx_Buff.shift (s.DMARxDescToGet * ethMaxPacketSize)) lens, ?_, ?_⟩
  · have hframe : (s.Rx_Buff.shift (s.DMARxDescToGet * ethMaxPacketSize)).take
        (w.bytes.length - 4) = w.frame := by
      have hbytes := h.ring.has_first.2
      obtain ⟨n, hn⟩ := Nat.exists_eq_add_of_le' (w.checksum_of_whole hw)
      unfold StoredFrame.frame
      rw [hn, Mem.take_add] at hbytes
      rw [hn, Nat.add_sub_cancel, ← hbytes, List.take_left' (Mem.length_take ..)]
    unfold Carries
    rw [length_frame, Option.map_map]
    split
    · rename_i henough
      obtain ⟨lens, hlens⟩ := Option.isSome_iff_exists.mp ((isSome_pbufAlloc free _).mpr henough)
      simp only [hlens, Option.map_some, Function.comp_apply, flatten_copyChain,
        sum_pbufAlloc hlens, hframe]
    · rename_i hfew
      rw [← isSome_pbufAlloc, Bool.not_eq_true, Option.isSome_eq_false_iff,
        Option.isNone_iff_eq_none] at hfew
      rw [hfew]
      rfl
  · unfold lowLevelInput ethRxPktChainMode
    rw [if_neg hown]
    simp only [h.status_first, if_pos hw, haddr, hnext, frame_length hw, Option.map_some]

/-- The handler takes the first one of the queue, and gives its descriptor back. -/
theorem take (h : s.Linked taken (w :: queue)) (hw : Whole w.status)
    {p : ℕ × Option (List (List UInt8))} (hp : Carries p w) :
  Linked { s with
      DMARxDescToGet := Ring.place ethRxBufNb s.DMARxDescToGet 1
      DMARxDscrTab := setStatus s.DMARxDscrTab s.DMARxDescToGet ethDmaRxDescOwn
      handler := .resumes
      passed := s.passed ++ [p] } (taken ++ [w]) queue
  := by
  refine ⟨h.layout.setStatus s.DMARxDescToGet ethDmaRxDescOwn, ?_, ?_, nofun, h.polled, ?_, ?_,
    List.rel_append h.passed (.cons hp .nil), ?_⟩
  · refine h.ring.pop ?_ ?_ ?_
    · change (setStatus _ _ _ _).Status &&& _ ≠ 0
      rw [setStatus_self]
      decide
    · intro j _ hne hfree
      change (setStatus _ _ _ j).Status &&& _ ≠ 0
      rw [setStatus_of_ne hne]
      exact hfree
    · intro j _ hne v hv
      refine ⟨?_, hv.2⟩
      change (setStatus _ _ _ j).Status = _
      rw [setStatus_of_ne hne]
      exact hv.1
  · change s.current = _
    rw [h.next, Ring.place_place, List.length_cons, Nat.add_comm]
  · intro _ hresumes
    exact absurd rfl hresumes
  · intro hseen
    obtain hclears | hsummary | ⟨hreturned, -⟩ := hseen
    · cases hclears
    · cases hsummary
    · cases hreturned
  · intro v hv
    obtain hv | hv := List.mem_append.mp hv
    · exact h.whole v hv
    · rw [List.mem_singleton.mp hv]
      exact hw

/-- The handler can always go on. -/
theorem handle_isSome (h : s.Linked taken queue) (hhandler : s.handler ≠ .returned) (free : ℕ) :
  (s.handle free).isSome
  := by
  unfold handle
  cases hcase : s.handler with
  | returned => exact absurd hcase hhandler
  | looks => rfl
  | takes =>
    obtain ⟨w, rest, rfl, hw⟩ := h.taking hcase
    obtain ⟨p, -, heq⟩ := h.lowLevelInput_eq hw free
    simp only [heq, Option.map_some, Option.isSome_some]
  | resumes => rfl
  | clears => rfl
  | clearsSummary => rfl

/-- A step of the handler. -/
theorem handle (h : s.Linked taken queue) {free : ℕ} (hs : s.handle free = some s') :
  ∃ taken' queue', s'.Linked taken' queue' ∧ taken' ++ queue' = taken ++ queue
  := by
  unfold Reception.handle at hs
  cases hcase : s.handler with
  | returned =>
    rw [hcase] at hs
    cases hs
  | looks =>
    rw [hcase] at hs
    cases hs
    refine ⟨taken, queue, ⟨h.layout, h.ring, h.next, ?_, h.polled, ?_, ?_, h.passed, h.whole⟩, rfl⟩
    · intro htakes
      by_cases hsize : s.ethGetRxPktSize ≠ 0
      · exact h.size_ne_zero_iff.mp hsize
      · simp [hsize] at htakes
    · intro hsuspended _
      exact h.waits hsuspended (by simp [hcase])
    · intro hseen
      have hsize : ¬ s.ethGetRxPktSize ≠ 0 := by
        intro hne
        simp [Seen, hne] at hseen
      rw [h.size_ne_zero_iff] at hsize
      cases queue with
      | nil => exact .inl rfl
      | cons w rest => exact .inr ⟨w, rfl, fun hw => hsize ⟨w, rest, rfl, hw⟩⟩
  | takes =>
    obtain ⟨w, rest, rfl, hw⟩ := h.taking hcase
    obtain ⟨p, hp, heq⟩ := h.lowLevelInput_eq hw free
    rw [hcase] at hs
    simp only [heq, Option.map_some] at hs
    cases hs
    exact ⟨taken ++ [w], rest, h.take hw hp, List.append_assoc ..⟩
  | resumes =>
    rw [hcase] at hs
    cases hs
    refine ⟨taken, queue, ?_, rfl⟩
    have hsuspended : s.resumeReception.suspended = false := by
      unfold resumeReception
      split
      · rfl
      · rename_i hrbus
        by_contra hne
        exact hrbus (h.polled (by simpa using hne))
    have hrest : s.resumeReception = { s with
        suspended := s.resumeReception.suspended, RBUS := s.resumeReception.RBUS } := by
      unfold resumeReception
      split
      · rfl
      · rfl
    rw [hrest]
    refine ⟨h.layout, h.ring, h.next, nofun, ?_, ?_, ?_, h.passed, h.whole⟩
    · intro hfalse
      rw [show _ = false from hsuspended] at hfalse
      cases hfalse
    · intro hfalse
      rw [show _ = false from hsuspended] at hfalse
      cases hfalse
    · simp [Seen]
  | clears =>
    rw [hcase] at hs
    cases hs
    refine ⟨taken, queue, ⟨h.layout, h.ring, h.next, nofun, h.polled, ?_, ?_, h.passed, h.whole⟩,
      rfl⟩
    · intro hsuspended _
      exact h.waits hsuspended (by simp [hcase])
    · intro _
      exact h.left (.inl hcase)
  | clearsSummary =>
    rw [hcase] at hs
    cases hs
    refine ⟨taken, queue, ⟨h.layout, h.ring, h.next, nofun, h.polled, ?_, ?_, h.passed, h.whole⟩,
      rfl⟩
    · intro hsuspended _
      exact h.waits hsuspended (by simp [hcase])
    · intro _
      exact h.left (.inr (.inl hcase))

theorem interrupt (h : s.Linked taken queue) (hreturned : s.handler = .returned) :
  Linked { s with handler := .looks } taken queue
  := by
  refine ⟨h.layout, h.ring, h.next, nofun, h.polled, ?_, ?_, h.passed, h.whole⟩
  · intro hsuspended _
    exact h.waits hsuspended (by simp [hreturned])
  · simp [Seen]

/-- What one event does to the queue. -/
theorem step (h : s.Linked taken queue) {e : RxEvent} (hs : s.step e = some s') :
  ∃ taken' queue', s'.Linked taken' queue' ∧ taken' ++ queue' = taken ++ queue ++ arrivals [e]
  := by
  cases e with
  | stored w => exact ⟨taken, queue ++ [w], h.store hs, (List.append_assoc ..).symm⟩
  | starved => exact ⟨taken, queue, h.starve hs, (List.append_nil _).symm⟩
  | interrupt =>
    simp only [Reception.step] at hs
    split at hs
    · rename_i hc
      cases hs
      exact ⟨taken, queue, h.interrupt hc.2, (List.append_nil _).symm⟩
    · cases hs
  | handler free =>
    obtain ⟨taken', queue', h', heq⟩ := h.handle hs
    exact ⟨taken', queue', h', heq.trans (List.append_nil _).symm⟩

/-- What a run does to the queue. -/
theorem run {events : List RxEvent} (h : s.Linked taken queue)
    (hrun : Run.run Reception.step events s = some s') :
  ∃ taken' queue', s'.Linked taken' queue' ∧ taken' ++ queue' = taken ++ queue ++ arrivals events
  := by
  induction events generalizing s taken queue with
  | nil =>
    cases hrun
    exact ⟨taken, queue, h, (List.append_nil _).symm⟩
  | cons e events ih =>
    obtain ⟨s₁, hs, hrest⟩ := Run.run_cons_eq_some hrun
    obtain ⟨taken₁, queue₁, h₁, heq₁⟩ := h.step hs
    obtain ⟨taken', queue', h', heq⟩ := ih h₁ hrest
    refine ⟨taken', queue', h', ?_⟩
    have hcons : arrivals (e :: events) = arrivals [e] ++ arrivals events := by
      cases e with
      | stored w => rfl
      | starved => rfl
      | interrupt => rfl
      | handler free => rfl
    rw [heq, heq₁, hcons, List.append_assoc]

end Linked

end Reception

/-! ### All runs -/

/-- Whatever the DMA stores and however its stores fall between the steps of the handler, the reader
takes whole frames without errors, and takes them in the order in which they were stored, each one
once: what was stored is what was taken, followed by what is in the ring.  LwIP is given that frame
without its checksum, unless the pool has too few pbufs for it.  The DMA waits for a poll demand
only while the ring is full or a descriptor has just been given back, and the handler always goes
on. -/
theorem frames_received_in_order {events : List RxEvent} {tab : ℕ → EthDmaDesc} {buff : Mem}
    {s : Reception}
    (hrun : Run.run Reception.step events (Reception.lowLevelInit tab buff) = some s) :
  ∃ taken queue, arrivals events = taken ++ queue
    ∧ (∀ w ∈ taken, Whole w.status)
    ∧ List.Forall₂ Carries s.passed taken
    ∧ queue.length ≤ ethRxBufNb
    ∧ (s.suspended → s.handler ≠ .resumes → queue.length = ethRxBufNb)
    ∧ (s.handler ≠ .returned → ∀ free, (s.step (.handler free)).isSome)
  := by
  obtain ⟨taken, queue, h, heq⟩ := (Reception.linked_lowLevelInit tab buff).run hrun
  exact ⟨taken, queue, heq.symm, h.whole, h.passed, h.ring.room, h.waits, h.handle_isSome⟩

/-- A frame of six bytes with its checksum. -/
def sixBytes : StoredFrame where
  status := 0x00060300
  bytes := [1, 2, 0, 0, 0, 0]
  released := by decide
  fits := by decide
  length_of_whole _ := by decide
  checksum_of_whole _ := by decide

/-- The DMA stores a second frame while the handler looks at the first one, and a third one behind
its last look. -/
def threeFrames : List RxEvent :=
  [.stored sixBytes, .interrupt, .handler 1, .stored sixBytes, .handler 1, .handler 1, .handler 1,
    .handler 1, .handler 1, .handler 1, .stored sixBytes, .handler 1, .handler 1]

theorem frames_received_in_order_three :
  ∃ s, Run.run Reception.step threeFrames
      (Reception.lowLevelInit (fun _ => ⟨0, 0, 0, 0⟩) fun _ => 0) = some s
    ∧ ∃ taken queue, arrivals threeFrames = taken ++ queue
      ∧ (∀ w ∈ taken, Whole w.status)
      ∧ List.Forall₂ Carries s.passed taken
      ∧ queue.length ≤ ethRxBufNb
      ∧ (s.suspended → s.handler ≠ .resumes → queue.length = ethRxBufNb)
      ∧ (s.handler ≠ .returned → ∀ free, (s.step (.handler free)).isSome)
  := by
  obtain ⟨s, hrun⟩ := Option.isSome_iff_exists.mp
    (by decide +kernel : (Run.run Reception.step threeFrames
      (Reception.lowLevelInit (fun _ => ⟨0, 0, 0, 0⟩) fun _ => 0)).isSome)
  exact ⟨s, hrun, frames_received_in_order hrun⟩

/-- When the handler has returned and no interrupt is asked for, what is left in the ring is exactly
what was stored after the handler had last looked at a descriptor, unless the ring begins with
something that is not a whole frame. -/
theorem frames_left_in_ring {events : List RxEvent} {tab : ℕ → EthDmaDesc} {buff : Mem}
    {s : Reception}
    (hrun : Run.run Reception.step events (Reception.lowLevelInit tab buff) = some s)
    (hreturned : s.handler = .returned) (hnis : s.NIS = false) :
  ∃ taken queue, arrivals events = taken ++ queue
    ∧ List.Forall₂ Carries s.passed taken
    ∧ (queue = s.unseen ∨ ∃ w ∈ queue.head?, ¬ Whole w.status)
  := by
  obtain ⟨taken, queue, h, heq⟩ := (Reception.linked_lowLevelInit tab buff).run hrun
  exact ⟨taken, queue, heq.symm, h.passed, h.left (.inr (.inr ⟨hreturned, hnis⟩))⟩

theorem frames_left_in_ring_late :
  ∃ s, Run.run Reception.step threeFrames
      (Reception.lowLevelInit (fun _ => ⟨0, 0, 0, 0⟩) fun _ => 0) = some s
    ∧ s.unseen.length = 1
    ∧ ∃ taken queue, arrivals threeFrames = taken ++ queue
      ∧ List.Forall₂ Carries s.passed taken
      ∧ (queue = s.unseen ∨ ∃ w ∈ queue.head?, ¬ Whole w.status)
  := by
  have hany : (Run.run Reception.step threeFrames
      (Reception.lowLevelInit (fun _ => ⟨0, 0, 0, 0⟩) fun _ => 0)).any (fun s =>
        s.unseen.length = 1 ∧ s.handler = .returned ∧ s.NIS = false) = true := by
    decide +kernel
  obtain ⟨s, hrun, hs⟩ := (Option.any_eq_true ..).mp hany
  obtain ⟨hlen, hreturned, hnis⟩ := of_decide_eq_true hs
  exact ⟨s, hrun, hlen, frames_left_in_ring hrun hreturned hnis⟩

end UhfReader
