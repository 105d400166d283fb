import UhfReader.Radio.Encode

/-!
# Waits that do not depend on the frame that was sent

The frame to be sent is built in the receive buffer, so what is left of it is still there when
the answer comes in.  Of the buffer, the receiver looks at the first four bytes only to decide
whether a frame is complete and whether it is taken.  `SameLink` relates states that agree on
these and on the rest of the link; a wait for the answer to `0x78` returns in both or in
neither.
-/

open Memory

namespace UhfReader

namespace SR2000TransData

/-- The link with another receive buffer. -/
def withBuf (r : SR2000TransData) (buf : Block 255) : SR2000TransData := { r with buf := buf }

/-- The links differ behind the first four bytes of the receive buffer at most. -/
def Like (r r' : SR2000TransData) : Prop :=
  ∃ buf, r' = r.withBuf buf ∧ ∀ i < 4, buf.load i = r.buf.load i

namespace Like

variable {r r' r'' : SR2000TransData}

theorem refl (r : SR2000TransData) :
  Like r r
  := ⟨r.buf, rfl, fun _ _ => rfl⟩

theorem symm (h : Like r r') :
  Like r' r
  := by
  obtain ⟨buf, rfl, hbuf⟩ := h
  exact ⟨r.buf, rfl, fun i hi => (hbuf i hi).symm⟩

theorem trans (h : Like r r') (h' : Like r' r'') :
  Like r r''
  := by
  obtain ⟨buf, rfl, hbuf⟩ := h
  obtain ⟨buf', rfl, hbuf'⟩ := h'
  exact ⟨buf', rfl, fun i hi => (hbuf' i hi).trans (hbuf i hi)⟩

theorem load (h : Like r r') {i : ℕ} (hi : i < 4) :
  r'.load i = r.load i
  := by
  obtain ⟨buf, rfl, hbuf⟩ := h
  have hlt : i < 255 := by omega
  simp only [SR2000TransData.load, if_pos hlt]
  exact hbuf i hi

/-- The same byte stored in both. -/
theorem store (h : Like r r') (i : ℕ) (b : UInt8) :
  Like (r.store i b) (r'.store i b)
  := by
  obtain ⟨buf, rfl, hbuf⟩ := h
  by_cases hi : i < 255
  · refine ⟨buf.put i b, ?_, ?_⟩
    · simp only [SR2000TransData.store, if_pos hi]
      rfl
    · intro j hj
      simp only [SR2000TransData.store, if_pos hi]
      rw [Block.load_put hi, Block.load_put hi, hbuf j hj]
  · have hkept : (r.store i b).buf = r.buf := by
      simp only [SR2000TransData.store, if_neg hi, apply_ite SR2000TransData.buf, ite_self]
    refine ⟨buf, ?_, ?_⟩
    · simp only [SR2000TransData.store, if_neg hi,
        apply_ite (fun x : SR2000TransData => x.withBuf buf)]
      rfl
    · rw [hkept]
      exact hbuf

/-- A byte stored behind the first four. -/
theorem store_right (r : SR2000TransData) {i : ℕ} (b : UInt8) (hi : 4 ≤ i) (hlt : i < 255) :
  Like r (r.store i b)
  := by
  refine ⟨r.buf.put i b, ?_, ?_⟩
  · simp only [SR2000TransData.store, if_pos hlt]
    rfl
  · intro j hj
    rw [Block.load_put hlt, if_neg (by omega)]

/-- Bytes stored behind the first four. -/
theorem storeList_right (l : List UInt8) :
  ∀ (r : SR2000TransData) (off : ℕ), 4 ≤ off → off + l.length ≤ 255 → Like r (r.storeList off l)
  := by
  induction l with
  | nil =>
    intro r off _ _
    exact refl r
  | cons b l ih =>
    intro r off hoff hlen
    rw [List.length_cons] at hlen
    exact (store_right r b hoff (by omega)).trans (ih _ _ (by omega) (by omega))

/-- An update of the link beside its receive buffer. -/
theorem update (h : Like r r') {u : SR2000TransData → SR2000TransData}
    (hu : ∀ r buf, u (r.withBuf buf) = (u r).withBuf buf) (hbuf : ∀ r, (u r).buf = r.buf) :
  Like (u r) (u r')
  := by
  obtain ⟨buf, rfl, hagree⟩ := h
  refine ⟨buf, hu r buf, ?_⟩
  rw [hbuf]
  exact hagree

/-- The part of `UART4_IRQHandler` after a byte of a frame was stored. -/
theorem advance (h : Like r r') :
  let next (x : SR2000TransData) : SR2000TransData × Bool :=
    if x.index > (x.load 1).toNat then
      let x := { x with len := x.index + 1, index := 0, localTimer := x.localTimer.stop }
      if x.len < 4 ∨ x.len > bufLen then (cleared, false)
      else ({ x with setMark := 1 }, true)
    else ({ x with index := x.index + 1 }, false)
  Like (next r).1 (next r').1 ∧ (next r').2 = (next r).2
  := by
  intro next
  have hload := h.load (show 1 < 4 by decide)
  have hlike := h
  obtain ⟨buf, rfl, -⟩ := hlike
  simp only [next]
  rw [hload]
  by_cases hdone : r.index > (r.load 1).toNat
  · rw [if_pos hdone, if_pos (show (r.withBuf buf).index > (r.load 1).toNat from hdone)]
    by_cases hlen : r.index + 1 < 4 ∨ r.index + 1 > bufLen
    · rw [if_pos hlen, if_pos (show (r.withBuf buf).index + 1 < 4
        ∨ (r.withBuf buf).index + 1 > bufLen from hlen)]
      exact ⟨refl cleared, rfl⟩
    · rw [if_neg hlen, if_neg (show ¬ ((r.withBuf buf).index + 1 < 4
        ∨ (r.withBuf buf).index + 1 > bufLen) from hlen)]
      refine ⟨?_, rfl⟩
      exact h.update
        (u := fun x => { x with
          len := x.index + 1, index := 0, localTimer := x.localTimer.stop, setMark := 1 })
        (fun _ _ => rfl) (fun _ => rfl)
  · rw [if_neg hdone, if_neg (show ¬ (r.withBuf buf).index > (r.load 1).toNat from hdone)]
    refine ⟨?_, rfl⟩
    exact h.update (u := fun x => { x with index := x.index + 1 }) (fun _ _ => rfl) (fun _ => rfl)

/-- A byte received. -/
theorem receive (h : Like r r') (b : UInt8) :
  Like (r.receive b).1 (r'.receive b).1 ∧ (r'.receive b).2 = (r.receive b).2
  := by
  have hlike := h
  obtain ⟨buf, rfl, -⟩ := hlike
  unfold SR2000TransData.receive
  by_cases hmark : r.setMark = 0
  · rw [if_pos hmark, if_pos (show (r.withBuf buf).setMark = 0 from hmark)]
    by_cases hstart : r.index = 0 ∧ b = 0xA0
    · rw [if_pos hstart, if_pos (show (r.withBuf buf).index = 0 ∧ b = 0xA0 from hstart)]
      refine ⟨?_, rfl⟩
      exact (h.store 0 b).update
        (u := fun x => { x with index := 1, localTimer := r.localTimer.start r2000RevTimer })
        (fun _ _ => rfl) (fun _ => rfl)
    · rw [if_neg hstart, if_neg (show ¬ ((r.withBuf buf).index = 0 ∧ b = 0xA0) from hstart)]
      by_cases hzero : r.index ≠ 0
      · rw [if_pos hzero, if_pos (show (r.withBuf buf).index ≠ 0 from hzero)]
        by_cases hlong : r.index > bufLen
        · rw [if_pos hlong, if_pos (show (r.withBuf buf).index > bufLen from hlong)]
          refine ⟨?_, rfl⟩
          exact h.update
            (u := fun x => { x with index := 0, len := 0, localTimer := x.localTimer.stop })
            (fun _ _ => rfl) (fun _ => rfl)
        · rw [if_neg hlong, if_neg (show ¬ (r.withBuf buf).index > bufLen from hlong)]
          exact (h.store r.index b).advance
      · rw [if_neg hzero, if_neg (show ¬ (r.withBuf buf).index ≠ 0 from hzero)]
        exact ⟨h, rfl⟩
  · rw [if_neg hmark, if_neg (show ¬ (r.withBuf buf).setMark = 0 from hmark)]
    exact ⟨h, rfl⟩

end Like

end SR2000TransData

/-- The states differ in what a wait for the answer to `0x78` does not look at. -/
structure SameLink (g g' : Globals) : Prop where
  r2000 : g.r2000.Like g'.r2000
  sysTimer1 : g'.sysTimer1 = g.sysTimer1

namespace SameLink

variable {g g' : Globals}

theorem setTraffic (h : SameLink g g') (traffic : List (List Event)) :
  SameLink (g.setTraffic traffic) (g'.setTraffic traffic)
  := ⟨h.r2000, h.sysTimer1⟩

/-- Collecting tags does not touch the link. -/
theorem collects {g₁ g₁' : Globals} (h : SameLink g g') (hg : Collects g g₁)
    (hg' : Collects g' g₁') :
  SameLink g₁ g₁'
  := by
  obtain ⟨_, _, _, _, _, _, rfl⟩ := hg
  obtain ⟨_, _, _, _, _, _, rfl⟩ := hg'
  exact ⟨h.r2000, h.sysTimer1⟩

theorem decodeR2000 (h : SameLink g g') :
  SameLink (decodeR2000 g) (decodeR2000 g')
  := by
  have hcmd : g'.r2000.frameCmd = g.r2000.frameCmd := h.r2000.load (by decide)
  obtain ⟨hreset, heq⟩ | ⟨hother, hcollects⟩ := decodeR2000_cases g
  · obtain ⟨-, heq'⟩ | ⟨hother', -⟩ := decodeR2000_cases g'
    · rw [heq, heq']
      refine ⟨?_, h.sysTimer1⟩
      exact h.r2000.update (u := fun x => { x with setMark := 0 }) (fun _ _ => rfl) (fun _ => rfl)
    · exact absurd (hcmd.trans hreset) hother'
  · obtain ⟨hreset', -⟩ | ⟨-, hcollects'⟩ := decodeR2000_cases g'
    · exact absurd (hcmd.symm.trans hreset') hother
    · exact h.collects hcollects hcollects'

theorem uart4IRQHandler (h : SameLink g g') (b : UInt8) :
  SameLink (uart4IRQHandler g b) (uart4IRQHandler g' b)
  := by
  obtain ⟨hlike, hcomplete⟩ := h.r2000.receive b
  unfold UhfReader.uart4IRQHandler
  dsimp only
  rw [hcomplete]
  have hnext : SameLink { g with r2000 := (g.r2000.receive b).1 }
      { g' with r2000 := (g'.r2000.receive b).1 } := ⟨hlike, h.sysTimer1⟩
  split
  · exact hnext.decodeR2000
  · exact hnext

theorem timeUpdate (h : SameLink g g') :
  SameLink (timeUpdate g) (timeUpdate g')
  := by
  obtain ⟨hlow, heq⟩ | ⟨hhigh, _, _, _, _, _, _, heq⟩ := timeUpdate_cases g
  · obtain ⟨-, heq'⟩ | ⟨hhigh', -⟩ := timeUpdate_cases g'
    · rw [heq, heq']
      refine ⟨h.r2000, ?_⟩
      dsimp only
      rw [h.sysTimer1]
    · rw [h.sysTimer1] at hhigh'
      omega
  · obtain ⟨hlow', -⟩ | ⟨-, _, _, _, _, _, _, heq'⟩ := timeUpdate_cases g'
    · rw [h.sysTimer1] at hlow'
      omega
    · rw [heq, heq']
      refine ⟨?_, rfl⟩
      exact h.r2000.update
        (u := fun x => { x with
          localTimer := x.localTimer.update, sendTimer := x.sendTimer.updateUnguarded })
        (fun _ _ => rfl) (fun _ => rfl)

/-- A round of the waiting loop for the answer to `0x78` returns in both states or in neither. -/
theorem pollR2000 (h : SameLink g g') :
  SameLink (pollR2000 0x78 g).1 (pollR2000 0x78 g').1
    ∧ (pollR2000 0x78 g').2 = (pollR2000 0x78 g).2
  := by
  have hmark : g'.r2000.setMark = g.r2000.setMark := by
    obtain ⟨buf, heq, -⟩ := h.r2000
    rw [heq]
    rfl
  have htimer : g'.r2000.sendTimer = g.r2000.sendTimer := by
    obtain ⟨buf, heq, -⟩ := h.r2000
    rw [heq]
    rfl
  unfold UhfReader.pollR2000
  rw [hmark, htimer]
  by_cases hover : g.r2000.sendTimer.isOverflow ≠ 0
  · rw [if_pos hover, if_pos hover]
    exact ⟨⟨.refl _, h.sysTimer1⟩, rfl⟩
  · rw [if_neg hover, if_neg hover]
    by_cases hframe : g.r2000.setMark ≠ 0
    · rw [if_pos hframe, if_pos hframe, if_neg (by decide), if_neg (by decide), if_neg (by decide),
        if_neg (by decide), if_neg (by decide), if_neg (by decide)]
      refine ⟨⟨?_, h.sysTimer1⟩, rfl⟩
      exact h.r2000.update (u := fun x => { x with setMark := 0, sendTimer := x.sendTimer.stop })
        (fun _ _ => rfl) (fun _ => rfl)
    · rw [if_neg hframe, if_neg hframe]
      exact ⟨h, rfl⟩

/-- A wait for the answer to `0x78` returns from both states or from neither. -/
theorem waitR2000 (h : SameLink g g') (es : List Event) :
  (waitR2000 0x78 es g').isSome = (waitR2000 0x78 es g).isSome
  := by
  induction es generalizing g g' with
  | nil => rfl
  | cons e es ih =>
    cases e with
    | rx b => exact ih (h.uart4IRQHandler b)
    | tick => exact ih h.timeUpdate
    | poll =>
      obtain ⟨hnext, hflag⟩ := h.pollR2000
      simp only [UhfReader.waitR2000]
      generalize UhfReader.pollR2000 0x78 g = out at hnext hflag ⊢
      generalize UhfReader.pollR2000 0x78 g' = out' at hnext hflag ⊢
      obtain ⟨g₁, flag⟩ := out
      obtain ⟨g₁', flag'⟩ := out'
      dsimp only at hnext hflag
      subst hflag
      cases flag' with
      | none => exact ih hnext
      | some flag => rfl

end SameLink

/-! ### Sending `0x78` -/

/-- The frames of `0x78` for the same region differ behind the first four bytes at most. -/
theorem buildFrequency_like {p p' : Mem} (h : p' 0 = p 0) (r : SR2000TransData) :
  r.buildFrequency p' = r.buildFrequency p
    ∨ ((r.buildFrequency p).Like (r.buildFrequency p')
      ∧ ((r.buildFrequency p).load 1 = 6 ∨ (r.buildFrequency p).load 1 = 9))
  := by
  unfold SR2000TransData.buildFrequency
  rw [h]
  split
  · right
    have hl := SR2000TransData.Like.storeList_right [p 0, p 1, p 2] (r.store 1 0x06) 4
      (by decide) (by simp)
    have hr := SR2000TransData.Like.storeList_right [p 0, p' 1, p' 2] (r.store 1 0x06) 4
      (by decide) (by simp)
    refine ⟨hl.symm.trans hr, .inl ?_⟩
    rw [hl.load (by decide)]
    rfl
  · split
    · right
      have hl := SR2000TransData.Like.storeList_right [p 0, p 1, p 2, p 3, p 4, p 5]
        (r.store 1 0x09) 4 (by decide) (by simp)
      have hr := SR2000TransData.Like.storeList_right [p 0, p' 1, p' 2, p' 3, p' 4, p' 5]
        (r.store 1 0x09) 4 (by decide) (by simp)
      refine ⟨hl.symm.trans hr, .inr ?_⟩
      rw [hl.load (by decide)]
      rfl
    · exact .inl rfl

/-- The link after a frame was closed and sent. -/
def closeFrame (cmd : UInt8) (r : SR2000TransData) : SR2000TransData :=
  let len := (r.load 1 + 1).toNat
  let r := r.store len (setChecksum r.load len)
  { r with setMark := 0, sendTimer := r.sendTimer.start (sendTime cmd) }

theorem sendCmd_r2000 (cmd before : UInt8) (p : Mem) (g : Globals) :
  (sendCmd cmd before p g).r2000 = closeFrame cmd (buildFrame cmd before p g.tmpAntenna
      (((g.r2000.store 0 0xA0).store 2 0xFF).store 3 (wireCmd cmd)))
    ∧ (sendCmd cmd before p g).sysTimer1 = g.sysTimer1
    ∧ (sendCmd cmd before p g).traffic = g.traffic
  := by
  unfold sendCmd uart4Send closeFrame
  dsimp only
  split
  · exact ⟨rfl, rfl, rfl⟩
  · exact ⟨rfl, rfl, rfl⟩

/-- Requests for which the same frame is built are the same to the driver. -/
theorem encodeR2000From_congr {before before' cmd : UInt8} {p p' : Mem} (hcmd : cmd ≠ 0x78)
    (h : ∀ antennas r, buildFrame cmd before p antennas r = buildFrame cmd before' p' antennas r) :
  encodeR2000From before cmd p = encodeR2000From before' cmd p'
  := by
  funext g
  have hsend : sendCmd cmd before p g = sendCmd cmd before' p' g := by
    unfold sendCmd
    rw [h, if_neg hcmd, if_neg hcmd]
  unfold encodeR2000From
  rw [hsend]

/-- Closing frames of `0x78` keeps them alike. -/
theorem closeFrame_like {r r' : SR2000TransData} (h : r.Like r')
    (hlen : r.load 1 = 6 ∨ r.load 1 = 9) :
  (closeFrame 0x78 r).Like (closeFrame 0x78 r')
  := by
  have hload := h.load (show 1 < 4 by decide)
  unfold closeFrame
  dsimp only
  rw [hload]
  have hpos : 4 ≤ (r.load 1 + 1).toNat ∧ (r.load 1 + 1).toNat < 255 := by
    obtain hsix | hnine := hlen
    · rw [hsix]
      decide
    · rw [hnine]
      decide
  have hstored := ((SR2000TransData.Like.store_right r
      (setChecksum r.load (r.load 1 + 1).toNat) hpos.1 hpos.2).symm.trans h).trans
    (SR2000TransData.Like.store_right r'
      (setChecksum r'.load (r.load 1 + 1).toNat) hpos.1 hpos.2)
  exact hstored.update
    (u := fun x => { x with setMark := 0, sendTimer := x.sendTimer.start (sendTime 0x78) })
    (fun _ _ => rfl) (fun _ => rfl)

/-- Sending `0x78` for the same region leaves the same link. -/
theorem sameLink_sendCmd {p p' : Mem} (h : p' 0 = p 0) (before before' : UInt8) (g : Globals) :
  SameLink (sendCmd 0x78 before p g) (sendCmd 0x78 before' p' g)
  := by
  obtain ⟨hlink, htimer, -⟩ := sendCmd_r2000 0x78 before p g
  obtain ⟨hlink', htimer', -⟩ := sendCmd_r2000 0x78 before' p' g
  refine ⟨?_, htimer'.trans htimer.symm⟩
  rw [hlink, hlink']
  simp only [buildFrame]
  obtain heq | ⟨hlike, hlen⟩ := buildFrequency_like h
    (((g.r2000.store 0 0xA0).store 2 0xFF).store 3 (wireCmd 0x78))
  · rw [heq]
    exact .refl _
  · exact closeFrame_like hlike hlen

/-- `0x78` returns for both of two requests with the same region, or for neither. -/
theorem encodeR2000_frequency_returns {p p' : Mem} (h : p' 0 = p 0) (g : Globals) :
  (encodeR2000 0x78 p' g).isSome = (encodeR2000 0x78 p g).isSome
  := by
  have hsame := sameLink_sendCmd h 0 0 g
  obtain ⟨-, -, htraffic⟩ := sendCmd_r2000 0x78 0 p g
  obtain ⟨-, -, htraffic'⟩ := sendCmd_r2000 0x78 0 p' g
  unfold encodeR2000 encodeR2000From
  rw [if_pos (by decide), if_pos (by decide), htraffic, htraffic']
  cases g.traffic with
  | nil => rfl
  | cons es rest => exact (hsame.setTraffic rest).waitR2000 es

end UhfReader
