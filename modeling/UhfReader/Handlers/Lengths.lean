import UhfReader.Handlers.Reads

/-!
# The length of the last reply

`cmdTmpLen` still holds the length of the last reply when a request comes in.  The R2000
driver, the delays and the interrupts take no notice of it, and neither do the handlers: most
of them overwrite it before they end, the handlers of write and read requests leave it alone,
and an inventory that is cut off leaves it as the length of its own reply.
-/

open Memory Stateful

namespace UhfReader

/-- The globals with another value left in `cmdTmpLen`. -/
def Globals.withTmpLen (n : UInt8) (g : Globals) : Globals := { g with cmdTmpLen := n }

section

variable (n : UInt8)

/-! ### The driver and the interrupts -/

namespace Globals

theorem storeRow_withTmpLen (g : Globals) (row : Row → Row) :
  (g.withTmpLen n).storeRow row = (g.storeRow row).withTmpLen n
  := rfl

theorem linkRelay_withTmpLen (g : Globals) :
  (g.withTmpLen n).linkRelay = g.linkRelay.withTmpLen n
  := by
  unfold linkRelay withTmpLen
  dsimp only
  split
  · rfl
  · rfl

theorem advanceCardPos_withTmpLen (g : Globals) {full : Globals → Globals}
    (h : ∀ g, full (withTmpLen n g) = (full g).withTmpLen n) :
  (g.withTmpLen n).advanceCardPos full = (g.advanceCardPos full).withTmpLen n
  := by
  unfold advanceCardPos
  dsimp only
  by_cases hfull : g.cardPos + 1 > maxNum
  · rw [if_pos hfull, ← h]
    exact if_pos hfull
  · rw [if_neg hfull]
    exact if_neg hfull

/-- A tag found in a fast inventory is entered in the table. -/
theorem enterFastTag_withTmpLen (g : Globals) (row : Row → Row) :
  ((g.withTmpLen n).storeRow row).advanceCardPos id
    = ((g.storeRow row).advanceCardPos id).withTmpLen n
  := by
  have hkept : ∀ g, id (withTmpLen n g) = (id g).withTmpLen n := fun _ => rfl
  rw [storeRow_withTmpLen, advanceCardPos_withTmpLen n _ hkept]

/-- A tag found is entered in the table. -/
theorem enterTag_withTmpLen (g : Globals) (row : Row → Row) :
  (((g.withTmpLen n).storeRow row).advanceCardPos closeCount).linkRelay
    = (((g.storeRow row).advanceCardPos closeCount).linkRelay).withTmpLen n
  := by
  have hclose : ∀ g, closeCount (withTmpLen n g) = g.closeCount.withTmpLen n := fun _ => rfl
  rw [storeRow_withTmpLen, advanceCardPos_withTmpLen n _ hclose, linkRelay_withTmpLen]

end Globals

theorem decodeRead_withTmpLen (g : Globals) :
  decodeRead (g.withTmpLen n) = (decodeRead g).withTmpLen n
  := by
  unfold decodeRead
  dsimp only
  by_cases htag : ((g.r2000.frameLen.toNat : ℤ) > 4
      ∧ g.r2000.loadInt ((g.r2000.frameLen.toNat : ℤ) - 2) >>> 1 = 6)
  · rw [if_pos htag]
    refine (if_pos htag).trans ?_
    exact Globals.enterTag_withTmpLen n { g with beepFlag := 1 } _
  · rw [if_neg htag]
    exact if_neg htag

theorem decodeFastInventory_withTmpLen (g : Globals) :
  decodeFastInventory (g.withTmpLen n) = (decodeFastInventory g).withTmpLen n
  := by
  unfold decodeFastInventory
  dsimp only
  by_cases hshort : g.r2000.frameLen = 0x05
  · rw [if_pos hshort]
    exact if_pos hshort
  · rw [if_neg hshort]
    refine (if_neg hshort).trans ?_
    by_cases hend : g.r2000.frameLen = 0x0A
    · rw [if_pos hend]
      exact if_pos hend
    · rw [if_neg hend]
      refine (if_neg hend).trans ?_
      by_cases htag : g.r2000.frameLen > 4
          ∧ UInt8.ofNat ((g.r2000.frameLen.toNat + 512 - 7) / 2) ≤ 15
      · rw [if_pos htag]
        refine (if_pos htag).trans ?_
        exact Globals.enterFastTag_withTmpLen n { g with beepFlag := g.beepFlag + 1 } _
      · rw [if_neg htag]
        exact if_neg htag

/-- The loop of `MaskCheck` looks at the mask alone. -/
theorem maskCheckLoop_withTmpLen (g : Globals) (buf : Mem) (k : ℕ) :
  ∀ i j pos tj tpos, maskCheckLoop (g.withTmpLen n) buf k i j pos tj tpos
    = maskCheckLoop g buf k i j pos tj tpos
  := by
  induction k with
  | zero =>
    intro i j pos tj tpos
    rfl
  | succ k ih =>
    intro i j pos tj tpos
    simp only [maskCheckLoop, ih]
    rfl

theorem mask6BCheckLoop_withTmpLen (g : Globals) (buf : Mem) (k : ℕ) :
  ∀ i tj, mask6BCheckLoop (g.withTmpLen n) buf k i tj = mask6BCheckLoop g buf k i tj
  := by
  induction k with
  | zero =>
    intro i tj
    rfl
  | succ k ih =>
    intro i tj
    simp only [mask6BCheckLoop, ih]
    rfl

theorem maskCheck_withTmpLen (g : Globals) (buf : Mem) (len : ℕ) :
  maskCheck (g.withTmpLen n) buf len = maskCheck g buf len
  := by
  unfold maskCheck
  simp only [maskCheckLoop_withTmpLen]
  rfl

theorem mask6BCheck_withTmpLen (g : Globals) (buf : Mem) :
  mask6BCheck (g.withTmpLen n) buf = mask6BCheck g buf
  := by
  unfold mask6BCheck
  simp only [mask6BCheckLoop_withTmpLen]
  rfl

theorem decodeInventory_withTmpLen (g : Globals) :
  decodeInventory (g.withTmpLen n) = (decodeInventory g).withTmpLen n
  := by
  have hmask := maskCheck_withTmpLen n g
  unfold decodeInventory
  dsimp only
  by_cases hlen : g.r2000.frameLen > 4
  · rw [if_pos hlen]
    refine (if_pos hlen).trans ?_
    by_cases htag : ((g.r2000.para 2 >>> 1) - 2 ≤ 15
        ∧ maskCheck g (g.r2000.para.shift 5) (2 * ((g.r2000.para 2 >>> 1) - 2).toNat))
    · rw [if_pos htag]
      have htag' := htag
      rw [← hmask] at htag'
      refine (congrArg Globals.countTag (if_pos htag')).trans ?_
      exact congrArg Globals.countTag
        (Globals.enterTag_withTmpLen n { g with beepFlag := g.beepFlag + 1 } _)
    · rw [if_neg htag]
      have htag' := htag
      rw [← hmask] at htag'
      exact congrArg Globals.countTag (if_neg htag')
  · rw [if_neg hlen]
    exact if_neg hlen

theorem decode6B_withTmpLen (g : Globals) :
  decode6B (g.withTmpLen n) = (decode6B g).withTmpLen n
  := by
  have hmask := mask6BCheck_withTmpLen n g
  unfold decode6B
  dsimp only
  by_cases hlen : g.r2000.frameLen > 5
  · rw [if_pos hlen]
    refine (if_pos hlen).trans ?_
    by_cases htag : mask6BCheck g (g.r2000.para.shift 1)
    · rw [if_pos htag]
      have htag' := htag
      rw [← hmask] at htag'
      refine (congrArg Globals.countTag (if_pos htag')).trans ?_
      exact congrArg Globals.countTag
        (Globals.enterTag_withTmpLen n { g with beepFlag := g.beepFlag + 1 } _)
    · rw [if_neg htag]
      have htag' := htag
      rw [← hmask] at htag'
      exact congrArg Globals.countTag (if_neg htag')
  · rw [if_neg hlen]
    refine (if_neg hlen).trans ?_
    by_cases hfive : g.r2000.frameLen = 5
    · rw [if_pos hfive]
      exact if_pos hfive
    · rw [if_neg hfive]
      refine (if_neg hfive).trans ?_
      by_cases hfour : g.r2000.frameLen = 4
      · rw [if_pos hfour]
        exact if_pos hfour
      · rw [if_neg hfour]
        exact if_neg hfour

theorem decodeR2000_withTmpLen (g : Globals) :
  decodeR2000 (g.withTmpLen n) = (decodeR2000 g).withTmpLen n
  := by
  unfold decodeR2000
  rw [decodeRead_withTmpLen, decodeFastInventory_withTmpLen, decodeInventory_withTmpLen,
    decode6B_withTmpLen]
  simp only [apply_ite (Globals.withTmpLen n)]
  rfl

theorem uart4IRQHandler_withTmpLen (g : Globals) (b : UInt8) :
  uart4IRQHandler (g.withTmpLen n) b = (uart4IRQHandler g b).withTmpLen n
  := by
  have hdecode := decodeR2000_withTmpLen n { g with r2000 := (g.r2000.receive b).1 }
  unfold uart4IRQHandler
  dsimp only
  rw [apply_ite (Globals.withTmpLen n), ← hdecode]
  rfl

theorem timeUpdate_withTmpLen (g : Globals) :
  timeUpdate (g.withTmpLen n) = (timeUpdate g).withTmpLen n
  := by
  unfold timeUpdate relayControl beepUpdate updateTimers Globals.withTmpLen
  dsimp only
  repeat' split
  all_goals rfl

theorem pollR2000_withTmpLen (cmd : UInt8) (g : Globals) :
  pollR2000 cmd (g.withTmpLen n) = ((pollR2000 cmd g).1.withTmpLen n, (pollR2000 cmd g).2)
  := by
  unfold pollR2000 timeoutR2000 takeFrame awaitFrame Globals.withTmpLen
  dsimp only
  repeat' split
  all_goals rfl

theorem waitR2000_withTmpLen (cmd : UInt8) (es : List Event) :
  ∀ g, waitR2000 cmd es (g.withTmpLen n)
    = (waitR2000 cmd es g).map fun out => (out.1, out.2.withTmpLen n)
  := by
  induction es with
  | nil =>
    intro g
    rfl
  | cons e es ih =>
    intro g
    cases e with
    | rx b =>
      rw [waitR2000, waitR2000, uart4IRQHandler_withTmpLen]
      exact ih _
    | tick =>
      rw [waitR2000, waitR2000, timeUpdate_withTmpLen]
      exact ih _
    | poll =>
      simp only [waitR2000, pollR2000_withTmpLen]
      obtain ⟨g', flag⟩ := pollR2000 cmd g
      cases flag with
      | none => exact ih g'
      | some flag => rfl

theorem sendCmd_withTmpLen (cmd before : UInt8) (p : Mem) (g : Globals) :
  sendCmd cmd before p (g.withTmpLen n) = (sendCmd cmd before p g).withTmpLen n
  := by
  unfold sendCmd uart4Send
  dsimp only [Globals.withTmpLen]
  split
  · rfl
  · rfl

/-- A command to the R2000 takes no notice of the length of the last reply. -/
theorem ignores_encode (before cmd : UInt8) (p : Mem) :
  Ignores (Globals.withTmpLen n) (encodeR2000From before cmd p)
  := by
  intro g
  unfold encodeR2000From
  rw [sendCmd_withTmpLen]
  generalize sendCmd cmd before p g = sent
  by_cases hknown : cmd ∈ knownCmds
  · rw [if_pos hknown, if_pos hknown]
    have htraffic : (sent.withTmpLen n).traffic = sent.traffic := rfl
    rw [htraffic]
    cases sent.traffic with
    | nil => rfl
    | cons es rest => exact waitR2000_withTmpLen n cmd es (sent.setTraffic rest)
  · rw [if_neg hknown, if_neg hknown]
    rfl

theorem ignores_delayMs :
  Ignores (Globals.withTmpLen n) delayMs
  := by
  have hfold : ∀ (es : List Event) (g : Globals), es.foldl Globals.interrupt (g.withTmpLen n)
      = (es.foldl Globals.interrupt g).withTmpLen n := by
    intro es
    induction es with
    | nil =>
      intro g
      rfl
    | cons e es ih =>
      intro g
      have hstep : (g.withTmpLen n).interrupt e = (g.interrupt e).withTmpLen n := by
        cases e with
        | rx b => exact uart4IRQHandler_withTmpLen n g b
        | tick => exact timeUpdate_withTmpLen n g
        | poll => rfl
      rw [List.foldl_cons, List.foldl_cons, hstep, ih]
  intro g
  have htraffic : (g.withTmpLen n).traffic = g.traffic := rfl
  unfold delayMs
  rw [htraffic]
  cases g.traffic with
  | nil => rfl
  | cons es rest =>
    have hnext := hfold es (g.setTraffic rest)
    exact congrArg (fun g => some ((), g)) hnext

end

section

variable {n : UInt8}

/-! ### Replies -/

theorem overwrites_reply (p : Mem) (k : UInt8) :
  Overwrites (Globals.withTmpLen n) (reply p k)
  := by
  apply Overwrites.then
  exact Overwrites.modify fun _ => rfl

theorem overwrites_fail (p : Mem) :
  Overwrites (Globals.withTmpLen n) (fail p)
  := overwrites_reply p 0xFF

theorem overwrites_replyListing (l : Listing) :
  Overwrites (Globals.withTmpLen n) (replyListing l)
  := by
  apply Overwrites.then
  exact Overwrites.modify fun _ => rfl

theorem overwrites_beep_then {m : M Mem} (h : Overwrites (Globals.withTmpLen n) m) :
  Overwrites (Globals.withTmpLen n) (do beep; m)
  := Overwrites.bind (Ignores.modify fun _ => rfl) fun _ => h

/-- What a handler overwrites after a command to the R2000. -/
theorem overwrites_encode {before cmd : UInt8} {q : Mem} {k : UInt8 → M Mem}
    (hk : ∀ flagReturn, Overwrites (Globals.withTmpLen n) (k flagReturn)) :
  Overwrites (Globals.withTmpLen n)
    (do let flagReturn ← encodeR2000From before cmd q; k flagReturn)
  := Overwrites.bind (ignores_encode n before cmd q) hk

/-- What a handler overwrites when it looks at the answer to a command. -/
theorem overwrites_ask {before cmd : UInt8} {q : Mem} {k : UInt8 → Globals → M Mem}
    (hu : ∀ flagReturn g, k flagReturn (Globals.withTmpLen n g) = k flagReturn g)
    (hk : ∀ flagReturn g, Overwrites (Globals.withTmpLen n) (k flagReturn g)) :
  Overwrites (Globals.withTmpLen n)
    (do let flagReturn ← encodeR2000From before cmd q; let g ← get; k flagReturn g)
  := overwrites_encode fun flagReturn => Overwrites.get (hu flagReturn) (hk flagReturn)

/-- The first page of a listing is sent. -/
theorem overwrites_firstPage {k : Globals → M Mem}
    (hu : ∀ g, k (Globals.withTmpLen n g) = k g)
    (hk : ∀ g, Overwrites (Globals.withTmpLen n) (k g)) :
  Overwrites (Globals.withTmpLen n) (do modify firstPage; let g ← get; k g)
  := Overwrites.bind (Ignores.modify fun _ => rfl) fun _ => Overwrites.get hu hk

/-! ### Handlers -/

theorem overwrites_setOutputPower (p : Mem) :
  Overwrites (Globals.withTmpLen n) (setOutputPower p)
  := by
  refine Overwrites.bind (Ignores.modify fun _ => rfl) ?_
  intro _
  refine overwrites_ask (fun _ _ => rfl) ?_
  intro flagReturn g
  apply Overwrites.ite _ (overwrites_fail _)
  apply Overwrites.then
  exact Overwrites.modify fun _ => rfl

theorem overwrites_setFrequency (p : Mem) :
  Overwrites (Globals.withTmpLen n) (setFrequency p)
  := by
  apply Overwrites.then
  exact Overwrites.modify fun _ => rfl

theorem overwrites_setFrequency1 (p : Mem) :
  Overwrites (Globals.withTmpLen n) (setFrequency1 p)
  := by
  refine Overwrites.get (fun _ => rfl) ?_
  intro g
  refine overwrites_ask (fun _ _ => rfl) ?_
  intro flagReturn g'
  exact Overwrites.ite (overwrites_reply _ 0) (overwrites_fail _)

theorem overwrites_setAntenna (p : Mem) :
  Overwrites (Globals.withTmpLen n) (setAntenna p)
  := by
  apply Overwrites.bind (ignores_delayMs n)
  intro _
  apply overwrites_encode
  intro flagReturn
  exact Overwrites.ite (overwrites_reply p 0) (overwrites_fail p)

theorem overwrites_readR2000vertion (p : Mem) :
  Overwrites (Globals.withTmpLen n) (readR2000vertion p)
  := by
  refine overwrites_ask (fun _ _ => rfl) ?_
  intro flagReturn g
  exact Overwrites.ite (overwrites_reply _ 2) (overwrites_fail p)

theorem overwrites_inventory6B (p : Mem) {onTags : M Mem}
    (h : Overwrites (Globals.withTmpLen n) onTags) :
  Overwrites (Globals.withTmpLen n) (inventory6B p onTags)
  := by
  refine Overwrites.bind (Ignores.modify fun _ => rfl) ?_
  intro _
  apply overwrites_encode
  intro flagReturn
  exact Overwrites.ite h (overwrites_fail p)

theorem overwrites_detectTagNum (p : Mem) :
  Overwrites (Globals.withTmpLen n) (detectTagNum p)
  := by
  refine Overwrites.bind (Ignores.modify fun _ => rfl) ?_
  intro _
  apply overwrites_inventory6B
  refine Overwrites.get (fun _ => rfl) ?_
  intro g
  exact overwrites_reply _ 1

theorem overwrites_readLabelID (p : Mem) :
  Overwrites (Globals.withTmpLen n) (readLabelID p)
  := by
  refine Overwrites.bind (Ignores.modify fun _ => rfl) ?_
  intro _
  apply overwrites_inventory6B
  refine overwrites_firstPage (fun _ => rfl) ?_
  intro g
  apply overwrites_replyListing

theorem nextPage_withTmpLen (n : UInt8) (g : Globals) :
  nextPage (g.withTmpLen n) = ((nextPage g).1, (nextPage g).2.withTmpLen n)
  := by
  unfold nextPage Globals.withTmpLen
  dsimp only
  split
  · rfl
  · rfl

theorem overwrites_listIDReport (p : Mem) :
  Overwrites (Globals.withTmpLen n) (listIDReport p)
  := by
  apply Overwrites.bind (Ignores.modifyGet (nextPage_withTmpLen n))
  intro tmplen
  refine Overwrites.get (fun _ => rfl) ?_
  intro g
  apply overwrites_replyListing

theorem overwrites_listSelectedID (p : Mem) :
  Overwrites (Globals.withTmpLen n) (listSelectedID p)
  := by
  refine Overwrites.bind (Ignores.modify fun _ => rfl) ?_
  intro _
  apply overwrites_inventory6B
  refine overwrites_firstPage (fun _ => rfl) ?_
  intro g
  apply overwrites_replyListing

theorem overwrites_command6B (cmd : UInt8) (p : Mem) {onFrame onShort : SR2000TransData → M Mem}
    (hframe : ∀ r, Overwrites (Globals.withTmpLen n) (onFrame r))
    (hshort : ∀ r, Overwrites (Globals.withTmpLen n) (onShort r)) :
  Overwrites (Globals.withTmpLen n) (command6B cmd p onFrame onShort)
  := by
  apply overwrites_encode
  intro flagReturn
  apply Overwrites.ite _ (overwrites_fail p)
  refine Overwrites.get (fun _ => rfl) ?_
  intro g
  exact Overwrites.ite (overwrites_beep_then (hframe _)) (hshort _)

theorem overwrites_readByteBlock (p : Mem) :
  Overwrites (Globals.withTmpLen n) (readByteBlock p)
  := by
  apply overwrites_command6B
  · intro r
    exact overwrites_reply _ _
  · intro r
    exact overwrites_fail p

theorem overwrites_writeByteBlock (p : Mem) :
  Overwrites (Globals.withTmpLen n) (writeByteBlock p)
  := by
  apply overwrites_command6B
  · intro r
    exact overwrites_reply _ _
  · intro r
    exact overwrites_fail p

theorem overwrites_writeProtect (p : Mem) :
  Overwrites (Globals.withTmpLen n) (writeProtect p)
  := by
  apply overwrites_command6B
  · intro r
    exact overwrites_reply p 0
  · intro r
    exact overwrites_fail p

theorem overwrites_readWriteProtect (p : Mem) :
  Overwrites (Globals.withTmpLen n) (readWriteProtect p)
  := by
  apply overwrites_command6B
  · intro r
    exact overwrites_reply _ 1
  · intro r
    exact overwrites_reply _ 1

theorem overwrites_nextRows (p : Mem) {row : Globals → ℕ → Listing → ℕ → Listing}
    (hrow : ∀ g, row (Globals.withTmpLen n g) = row g) :
  Overwrites (Globals.withTmpLen n) (nextRows p row)
  := by
  refine Overwrites.get (fun _ => rfl) ?_
  intro g
  apply Overwrites.bind (Ignores.modifyGet (nextPage_withTmpLen n))
  intro tmplen
  apply Overwrites.get
  · intro g'
    rw [hrow]
    rfl
  · intro g'
    apply overwrites_replyListing

theorem overwrites_selectTag (p : Mem) {access : M Mem}
    (h : Overwrites (Globals.withTmpLen n) access) :
  Overwrites (Globals.withTmpLen n) (selectTag p access)
  := by
  refine overwrites_ask (fun _ _ => rfl) ?_
  intro flagReturn g
  apply Overwrites.ite _ (overwrites_fail p)
  apply Overwrites.bind (ignores_delayMs n)
  intro _
  exact h

theorem overwrites_confirmAccess (flagReturn : UInt8) (p : Mem) :
  Overwrites (Globals.withTmpLen n) (confirmAccess flagReturn p)
  := by
  refine Overwrites.get (fun _ => rfl) ?_
  intro g
  exact Overwrites.ite (overwrites_beep_then (overwrites_reply p 0)) (overwrites_fail p)

/-- A command to the R2000 whose answer is confirmed. -/
theorem overwrites_confirmed (before cmd : UInt8) (q p : Mem) :
  Overwrites (Globals.withTmpLen n)
    (do let flagReturn ← encodeR2000From before cmd q; confirmAccess flagReturn p)
  := overwrites_encode fun flagReturn => overwrites_confirmAccess flagReturn p

theorem overwrites_epc1g2Accessmatch (p : Mem) :
  Overwrites (Globals.withTmpLen n) (epc1g2Accessmatch p)
  := by
  refine overwrites_ask (fun _ _ => rfl) ?_
  intro flagReturn g
  exact Overwrites.ite (overwrites_beep_then (overwrites_reply p 0)) (overwrites_fail p)

theorem overwrites_epc1g2ListTagID (p : Mem) :
  Overwrites (Globals.withTmpLen n) (epc1g2ListTagID p)
  := by
  refine Overwrites.bind (Ignores.modify fun _ => rfl) ?_
  intro _
  refine overwrites_ask (fun _ _ => rfl) ?_
  intro flagReturn g
  apply Overwrites.ite _ (overwrites_fail p)
  apply Overwrites.bind (ignores_delayMs n)
  intro _
  refine overwrites_ask (fun _ _ => rfl) ?_
  intro flagReturn' g'
  exact Overwrites.ite (overwrites_beep_then (overwrites_reply _ _)) (overwrites_fail p)

theorem overwrites_epc1g2ReadWordBlock (p : Mem) :
  Overwrites (Globals.withTmpLen n) (epc1g2ReadWordBlock p)
  := by
  apply overwrites_selectTag
  refine overwrites_ask (fun _ _ => rfl) ?_
  intro flagReturn g
  exact Overwrites.ite (overwrites_beep_then (overwrites_reply _ _)) (overwrites_fail p)

theorem overwrites_epc1g2WriteEPC (p : Mem) :
  Overwrites (Globals.withTmpLen n) (epc1g2WriteEPC p)
  := by
  refine overwrites_ask (fun _ _ => rfl) ?_
  intro flagReturn g
  apply Overwrites.ite
  · refine overwrites_ask (fun _ _ => rfl) ?_
    intro flagReturn' g'
    exact Overwrites.ite (overwrites_confirmed _ _ _ _) (overwrites_fail _)
  · exact Overwrites.ite (overwrites_confirmed _ _ _ _) (overwrites_fail p)

theorem overwrites_readEPCAndData (p : Mem) :
  Overwrites (Globals.withTmpLen n) (readEPCAndData p)
  := by
  refine overwrites_ask (fun _ _ => rfl) ?_
  intro flagReturn g
  apply Overwrites.ite _ (overwrites_fail p)
  refine overwrites_ask (fun _ _ => rfl) ?_
  intro flagReturn' g'
  exact Overwrites.ite (overwrites_beep_then (overwrites_reply _ _)) (overwrites_fail p)

/-- An inventory overwrites the length of the last reply, unless it is cut off. -/
theorem splits_inventory6C (p : Mem) {row : Globals → Listing → ℕ → Listing}
    (hrow : ∀ g, row (Globals.withTmpLen n g) = row g) :
  Splits (Globals.withTmpLen n) (inventoryCut p) (inventory6C p row)
  := by
  refine Splits.bind (Ignores.modify fun _ => rfl) ?_
  intro _
  refine Splits.get (fun _ => rfl) ?_
  intro g
  apply Splits.bind (ignores_encode n _ _ _)
  intro flagReturn
  refine Splits.get (fun _ => rfl) ?_
  intro g'
  apply Splits.ite _ (Splits.of_overwrites (overwrites_fail _))
  refine Splits.bind (Ignores.modify fun _ => rfl) ?_
  intro _
  refine Splits.get (fun _ => rfl) ?_
  intro g''
  apply Splits.ite _ (Splits.of_overwrites (overwrites_fail _))
  apply Splits.bind (ignores_delayMs n)
  intro _
  refine Splits.bind (Ignores.modify fun _ => rfl) ?_
  intro _
  apply Splits.bind (ignores_encode n _ _ _)
  intro flagReturn'
  by_cases hlisted : flagReturn' = 0
  · rw [if_pos hlisted, decide_eq_false (not_not.mpr hlisted)]
    apply Splits.of_overwrites
    apply overwrites_firstPage
    · intro g
      rw [hrow]
      rfl
    · intro g
      apply overwrites_replyListing
  · rw [if_neg hlisted, decide_eq_true hlisted]
    apply Splits.of_ignores (Ignores.pure _)
    intro g
    exact ⟨g, rfl⟩

end

end UhfReader
