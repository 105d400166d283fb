import UhfReader.Lib.Rounds
import UhfReader.Radio.Transmit
import UhfReader.Sending

/-!
# The antennas in turn

In active mode each call of `workACT` reads the tags at one antenna.  The antennas that are still
to be read are kept in `switchAtenna`; when there are none left, the next round begins when
`ReadCardTimer` has run out, or with the antennas whose trigger inputs are active.

What active mode selects is seen in the frames that it sends to the R2000: those with the command
`0x74`.
-/

open Memory Stateful

namespace UhfReader

/-! ### The antennas of a mask -/

/-- The antennas of a mask, the lowest first. -/
def antennas (mask : UInt8) : List UInt8 :=
  ([1, 2, 4, 8, 16, 32, 64, 128] : List UInt8).filter fun i => mask &&& i ≠ 0

/-- What holds of all masks can be tried out. -/
theorem forall_mask {P : UInt8 → Prop} (h : ∀ n < 256, P (UInt8.ofNat n)) (mask : UInt8) :
  P mask
  := by
  have hmask := h mask.toNat mask.toNat_lt
  rwa [UInt8.ofNat_toNat] at hmask

@[simp]
theorem antennas_zero :
  antennas 0 = []
  := by
  decide

/-- The lowest antenna of a mask, and the others. -/
theorem antennas_eq_cons {mask : UInt8} (h : mask ≠ 0) :
  antennas mask = lowestAntenna mask :: antennas (mask &&& ~~~ lowestAntenna mask)
  := by
  revert h
  refine forall_mask (P := fun mask => mask ≠ 0 →
    antennas mask = lowestAntenna mask :: antennas (mask &&& ~~~ lowestAntenna mask)) ?_ mask
  decide +kernel

theorem and_lowestAntenna (mask : UInt8) :
  mask &&& lowestAntenna mask = lowestAntenna mask
  := by
  refine forall_mask (P := fun mask => mask &&& lowestAntenna mask = lowestAntenna mask) ?_ mask
  decide +kernel

/-- The antennas of a part of a mask. -/
theorem antennas_sublist {mask mask' : UInt8} (h : mask' &&& mask = mask') :
  (antennas mask').Sublist (antennas mask)
  := by
  apply List.monotone_filter_right
  intro i hi
  simp only [ne_eq, decide_eq_true_eq] at hi ⊢
  intro hzero
  apply hi
  rw [← h, UInt8.and_assoc, hzero, UInt8.and_zero]

/-! ### The selections -/

/-- The frame selects an antenna. -/
def selects (frame : List UInt8) : Bool := frame.getD 3 0 = 0x74

/-- The frames sent so far that select an antenna. -/
def Globals.selections (g : Globals) : List (List UInt8) := g.sent.filter selects

/-- The antennas that `workACT` reads, how it begins a round, and what has been selected. -/
def Globals.guided (g : Globals) : UInt8 × UInt8 × List (List UInt8) :=
  (g.tmpAntenna, g.gDevice.load Offset.readTAGType, g.selections)

theorem guided_eq {g g' : Globals} (hantenna : g'.tmpAntenna = g.tmpAntenna)
    (hdevice : g'.gDevice = g.gDevice) (hsent : g'.sent = g.sent) :
  g'.guided = g.guided
  := by
  unfold Globals.guided Globals.selections
  rw [hantenna, hdevice, hsent]

theorem uart4IRQHandler_tmpAntenna (g : Globals) (b : UInt8) :
  (uart4IRQHandler g b).tmpAntenna = g.tmpAntenna
  := by
  unfold uart4IRQHandler
  dsimp only
  split
  · obtain ⟨-, h⟩ | ⟨-, _, _, _, _, _, _, h⟩ :=
      decodeR2000_cases { g with r2000 := (g.r2000.receive b).1 }
    · rw [h]
    · rw [h]
  · rfl

theorem timeUpdate_tmpAntenna (g : Globals) :
  (timeUpdate g).tmpAntenna = g.tmpAntenna
  := by
  obtain ⟨-, h⟩ | ⟨-, _, _, _, _, _, _, h⟩ := timeUpdate_cases g
  · rw [h]
  · rw [h]
    rfl

/-- The settings that are undriven contain `g_device`. -/
theorem gDevice_of_undriven {g g' : Globals} (h : g'.undriven = g.undriven) :
  g'.gDevice = g.gDevice
  := congrArg (fun s : Settings × UInt8 => s.1.gDevice) h

theorem uart4IRQHandler_guided (g : Globals) (b : UInt8) :
  (uart4IRQHandler g b).guided = g.guided
  := guided_eq (uart4IRQHandler_tmpAntenna g b) (gDevice_of_undriven (uart4IRQHandler_undriven g b))
    (uart4IRQHandler_sent g b)

theorem timeUpdate_guided (g : Globals) :
  (timeUpdate g).guided = g.guided
  := guided_eq (timeUpdate_tmpAntenna g) (gDevice_of_undriven (timeUpdate_undriven g))
    (timeUpdate_sent g)

theorem setTraffic_guided (g : Globals) (traffic : List (List Event)) :
  (g.setTraffic traffic).guided = g.guided
  := rfl

/-- The computation selects no antenna, and leaves what guides `workACT` alone. -/
def Guides {α : Type} (m : M α) : Prop :=
  Traced (fun g g' => g'.guided = g.guided) (fun _ => True) m

theorem follows_guides :
  Tracing (fun g g' => g'.guided = g.guided) (fun _ : Globals => True)
  := .of_keeps Globals.guided

theorem guides_modify {u : Globals → Globals} (h : ∀ g, (u g).guided = g.guided) :
  Guides (modify u : M Unit)
  := Traced.modify h

theorem guides_delayMs :
  Guides delayMs
  := by
  apply Keeps.traced
  intro g a g' h
  exact delayMs_keeps uart4IRQHandler_guided timeUpdate_guided setTraffic_guided h

/-- What a waiting loop leaves alone. -/
theorem waitLoop_keeps {γ : Type} {f : Globals → γ} {poll : Globals → Globals × Option UInt8}
    {es : List Event} {g g' : Globals} {flag : UInt8}
    (hrx : ∀ g b, f (uart4IRQHandler g b) = f g) (htick : ∀ g, f (timeUpdate g) = f g)
    (hpoll : ∀ g, f (poll g).1 = f g) (h : waitLoop poll es g = some (flag, g')) :
  f g' = f g
  := by
  induction es generalizing g with
  | nil => cases h
  | cons e es ih =>
    cases e with
    | rx b => exact (ih h).trans (hrx g b)
    | tick => exact (ih h).trans (htick g)
    | poll =>
      have hround := hpoll g
      simp only [waitLoop] at h
      generalize poll g = outcome at h hround
      obtain ⟨g₁, result⟩ := outcome
      cases result with
      | some flag' =>
        cases h
        exact hround
      | none => exact (ih h).trans hround

/-- What is sent before a wait is what is sent. -/
theorem sendAndWait_guided {send : Globals → Globals}
    {poll : Globals → Globals × Option UInt8} (hpoll : OnlyLink poll) {g g' : Globals}
    {flag : UInt8} (h : sendAndWait send poll g = some (flag, g')) :
  g'.guided = (send g).guided
  := by
  have hround : ∀ g, (poll g).1.guided = g.guided := by
    intro g
    obtain ⟨r, hr⟩ := hpoll g
    rw [hr]
    rfl
  unfold sendAndWait at h
  split at h
  · cases h
  · have hwait := waitLoop_keeps uart4IRQHandler_guided timeUpdate_guided hround h
    rwa [setTraffic_guided] at hwait

/-- The commands of active mode besides the selection of an antenna. -/
def readCmds : List UInt8 := [0x80, 0x91, 0xB0, 0xC5, 0xC1]

theorem guides_encodeR2000 {cmd : UInt8} (hcmd : cmd ∈ readCmds) (p : Mem) :
  Guides (encodeR2000 cmd p)
  := by
  have hknown : cmd ∈ knownCmds ∧ cmd ≠ 0x78 ∧ wireCmd cmd ≠ 0x74 := by
    revert cmd
    decide +kernel
  have hframe : ∀ antennas, ∃ fields, frameFields cmd 0 p antennas = some fields
      ∧ fields.length ≤ 7 := by
    intro antennas
    simp only [readCmds, List.mem_cons, List.not_mem_nil, or_false] at hcmd
    obtain rfl | rfl | rfl | rfl | rfl := hcmd
    all_goals exact ⟨_, rfl, by simp⟩
  apply Keeps.traced
  intro g flag g' h
  have hwait : encodeR2000 cmd p = sendAndWait (sendCmd cmd 0 p) (pollR2000 cmd) :=
    encodeR2000From_eq_sendAndWait 0 p hknown.1
  rw [hwait] at h
  rw [sendAndWait_guided (pollR2000_eq cmd) h]
  obtain ⟨fields, hfields, hlength⟩ := hframe g.tmpAntenna
  have hsent := sendCmd_frame hfields (by simp only [bufLen]; omega)
  have hdevice : (sendCmd cmd 0 p g).gDevice = g.gDevice := by
    have hundriven := sendCmd_undriven cmd 0 p g
    rw [if_neg hknown.2.1] at hundriven
    exact congrArg (fun s : Settings × UInt8 => s.1.gDevice) hundriven
  have hantenna : (sendCmd cmd 0 p g).tmpAntenna = g.tmpAntenna := by
    unfold sendCmd uart4Send
    dsimp only
    split
    · rfl
    · rfl
  have hselects : selects (frameBytes cmd fields) = false :=
    decide_eq_false hknown.2.2
  unfold Globals.guided Globals.selections
  rw [hantenna, hdevice, hsent, List.filter_append, List.filter_singleton, hselects]
  exact Prod.ext rfl (Prod.ext rfl (List.append_nil _))

/-! ### One antenna -/

theorem guides_readCard6B :
  Guides readCard6B
  := by
  refine follows_guides.bind (guides_modify (by intro g; rfl)) fun _ => ?_
  apply follows_guides.bind (guides_encodeR2000 (by decide) _)
  intro flagReturn
  exact Traced.ite (guides_modify (by intro g; rfl)) (follows_guides.pure _)

theorem guides_readCard6C :
  Guides readCard6C
  := by
  apply follows_guides.bind follows_guides.get
  intro g
  refine follows_guides.bind (guides_modify (by intro g; rfl)) fun _ => ?_
  apply follows_guides.bind (guides_encodeR2000 (by decide) _)
  intro flagReturn
  apply Traced.ite _ (follows_guides.pure _)
  refine follows_guides.bind (guides_modify (by intro g; rfl)) fun _ => ?_
  apply follows_guides.bind follows_guides.get
  intro g
  apply Traced.ite _ (follows_guides.pure _)
  refine follows_guides.bind (guides_modify (by intro g; rfl)) fun _ => ?_
  apply follows_guides.bind follows_guides.get
  intro g
  apply Traced.ite _ (follows_guides.pure _)
  apply follows_guides.bind guides_delayMs
  intro _
  refine follows_guides.bind (guides_modify (by intro g; rfl)) fun _ => ?_
  apply follows_guides.bind (guides_encodeR2000 (by decide) _)
  intro _
  exact guides_modify (by intro g; rfl)

theorem guides_epc1g2ListTagTID (p : Mem) :
  Guides (epc1g2ListTagTID p)
  := by
  refine follows_guides.bind (guides_modify (by intro g; rfl)) fun _ => ?_
  apply follows_guides.bind (guides_encodeR2000 (by decide) _)
  intro flagReturn
  apply follows_guides.bind follows_guides.get
  intro g
  apply Traced.ite _ (follows_guides.pure _)
  apply follows_guides.bind guides_delayMs
  intro _
  refine follows_guides.bind (guides_modify (by intro g; rfl)) fun _ => ?_
  apply follows_guides.bind (guides_encodeR2000 (by decide) _)
  intro flagReturn
  exact Traced.ite (guides_modify (by intro g; rfl)) (follows_guides.pure _)

/-- `AntennaCtrl` selects the antenna. -/
theorem antennaCtrl_guided {g g' : Globals} {flag : UInt8}
    (h : antennaCtrl g = some (flag, g')) :
  g'.guided = (g.tmpAntenna, g.gDevice.load Offset.readTAGType,
    g.selections ++ [antennaFrame g.tmpAntenna])
  := by
  obtain ⟨_, g₁, hdelay, h⟩ := bind_eq_some h
  have hkept : g₁.guided = g.guided := guides_delayMs.returns hdelay
  rw [sendAndWait_guided pollAntenna_onlyLink h]
  have hframe : (Mem.ofList (antennaFrame g₁.tmpAntenna) fun _ => 0).take 6
      = antennaFrame g₁.tmpAntenna := Mem.take_ofList (antennaFrame g₁.tmpAntenna) _
  have hsent : (sendAntenna g₁).sent = g₁.sent ++ [antennaFrame g₁.tmpAntenna] := by
    unfold sendAntenna uart4Send
    dsimp only
    rw [if_neg (by decide), hframe]
  have hselects : selects (antennaFrame g₁.tmpAntenna) = true := rfl
  have hsend : (sendAntenna g₁).guided = (g₁.guided.1, g₁.guided.2.1,
      g₁.guided.2.2 ++ [antennaFrame g₁.guided.1]) := by
    unfold Globals.guided Globals.selections
    rw [hsent, List.filter_append, List.filter_singleton, hselects]
    rfl
  rw [hsend, hkept]
  rfl

/-- `readCard` selects the antenna and no other. -/
theorem readCard_guided {g g' : Globals} (h : readCard g = some ((), g')) :
  g'.guided = (g.tmpAntenna, g.gDevice.load Offset.readTAGType,
    g.selections ++ [antennaFrame g.tmpAntenna])
  := by
  obtain ⟨selected, g₁, hselect, h⟩ := bind_eq_some h
  have hrest : Guides (if selected ≠ 0 then do
        delayMs
        let g ← get
        if g.gDevice.load Offset.tagType = 1 then readCard6B
        else if g.gDevice.load Offset.tagType = 2 ∨ g.gDevice.load Offset.tagType = 4 then
          if g.gDevice.load Offset.cardSaveInTagPosition = 1 then epc1g2ListTagTID tidPara
          else readCard6C
      else pure () : M Unit) := by
    apply Traced.ite _ (follows_guides.pure _)
    apply follows_guides.bind guides_delayMs
    intro _
    apply follows_guides.bind follows_guides.get
    intro g
    apply Traced.ite guides_readCard6B
    apply Traced.ite _ (follows_guides.pure _)
    exact Traced.ite (guides_epc1g2ListTagTID _) guides_readCard6C
  rw [← antennaCtrl_guided hselect]
  exact hrest.returns h

/-- The mask that a call of `workACT` works on: what is left of a round, or a new round. -/
def turnMask (pinTriggle1 switchAtenna : UInt8) (g : Globals) : UInt8 :=
  if switchAtenna ≠ 0 then switchAtenna else (startRound pinTriggle1 g).1

/-- The next antenna is selected, and the others are left. -/
theorem readAntenna_turn {switchAtenna rest : UInt8} {g g' : Globals}
    (h : readAntenna switchAtenna g = some (rest, g')) :
  g'.tmpAntenna = g.tmpAntenna
    ∧ g'.gDevice.load Offset.readTAGType = g.gDevice.load Offset.readTAGType
    ∧ ∃ now, antennas switchAtenna = now ++ antennas rest
      ∧ g'.selections = g.selections ++ now.map antennaFrame ∧ rest &&& switchAtenna = rest
  := by
  unfold readAntenna at h
  split at h
  · rename_i hmore
    obtain ⟨_, _, hget, h⟩ := bind_eq_some h
    cases hget
    obtain ⟨_, g₁, hmodify, h⟩ := bind_eq_some h
    obtain ⟨_, g₂, hread, h⟩ := bind_eq_some h
    obtain ⟨_, g₃, hrestore, h⟩ := bind_eq_some h
    cases hmodify
    cases hrestore
    cases h
    have hguided := readCard_guided hread
    obtain ⟨-, hguided⟩ := Prod.mk.inj hguided
    obtain ⟨htype, hselections⟩ := Prod.mk.inj hguided
    refine ⟨rfl, htype, [lowestAntenna switchAtenna], antennas_eq_cons hmore, ?_, ?_⟩
    · have hmask := and_lowestAntenna switchAtenna
      simp only [hmask] at hselections
      exact hselections
    · rw [UInt8.and_assoc, UInt8.and_comm, UInt8.and_assoc, UInt8.and_self, UInt8.and_comm]
  · rename_i hnone
    cases h
    rw [not_not.mp hnone]
    exact ⟨rfl, rfl, [], rfl, (List.append_nil _).symm, rfl⟩

theorem startRound_guided (pinTriggle1 : UInt8) (g : Globals) :
  (startRound pinTriggle1 g).2.guided = g.guided
  := by
  unfold startRound
  split
  · split
    · rfl
    · rfl
  · rfl

/-- A call of `workACT` selects the next antenna of the round. -/
theorem workACT_turn {pinTriggle1 switchAtenna rest : UInt8} {g g' : Globals}
    (h : workACT pinTriggle1 switchAtenna g = some (rest, g')) :
  g'.tmpAntenna = g.tmpAntenna
    ∧ g'.gDevice.load Offset.readTAGType = g.gDevice.load Offset.readTAGType
    ∧ ∃ now, antennas (turnMask pinTriggle1 switchAtenna g) = now ++ antennas rest
      ∧ g'.selections = g.selections ++ now.map antennaFrame
      ∧ rest &&& turnMask pinTriggle1 switchAtenna g = rest
  := by
  unfold workACT at h
  unfold turnMask
  split at h
  · rename_i hmore
    rw [if_pos hmore]
    exact readAntenna_turn h
  · rename_i hnone
    rw [if_neg hnone]
    obtain ⟨mask, g₁, hstart, h⟩ := bind_eq_some h
    have hround : startRound pinTriggle1 g = (mask, g₁) := Option.some.inj hstart
    have hguided := startRound_guided pinTriggle1 g
    rw [hround] at hguided ⊢
    obtain ⟨hantenna, hguided⟩ := Prod.mk.inj hguided
    obtain ⟨htype, hselections⟩ := Prod.mk.inj hguided
    obtain ⟨hantenna', htype', now, hnow, hselected, hrest⟩ := readAntenna_turn h
    exact ⟨hantenna'.trans hantenna, htype'.trans htype, now, hnow, by rw [hselected, hselections],
      hrest⟩

/-! ### Sending what was read -/

theorem copyTags_guided (g : Globals) :
  g.copyTags.guided = g.guided
  := by
  rw [copyTags_eq]
  rfl

theorem judgeTag_guided (g : Globals) :
  (judgeTag g).2.guided = g.guided
  := by
  unfold judgeTag
  split
  · apply copyTags_guided
  · split
    · split
      · rfl
      · dsimp only
        split
        · exact copyTags_guided { g with outPutTimer.isOverflow := 0 }
        · exact copyTags_guided { g with outPutTimer.isOverflow := 0 }
    · rfl

theorem judgeOutput_guided (g : Globals) :
  (judgeOutput g).2.guided = g.guided
  := by
  unfold judgeOutput
  dsimp only
  split
  · exact judgeTag_guided g
  · exact judgeTag_guided g

theorem checkOutput_guided (g : Globals) :
  (checkOutput g).2.guided = g.guided
  := by
  unfold checkOutput
  dsimp only
  split
  · rfl
  · split
    · split
      · rfl
      · split
        · rfl
        · rfl
    · rfl

/-- How the tags are sent is a parameter of its own. -/
theorem put_callPCType_guided (g : Globals) (b : UInt8) :
  ({ g with gDevice := g.gDevice.put Offset.callPCType b } : Globals).guided = g.guided
  := by
  have htype : (g.gDevice.put Offset.callPCType b).load Offset.readTAGType
      = g.gDevice.load Offset.readTAGType := by
    rw [Block.load_put (by decide), if_neg (by decide)]
  exact congrArg (fun b => (g.tmpAntenna, b, g.selections)) htype

theorem guides_sendDataOut {output : ℕ → M Unit} (houtput : ∀ chk, Guides (output chk)) :
  Guides (sendDataOut output)
  := by
  apply follows_guides.bind follows_guides.get
  intro g
  refine follows_guides.bind (guides_modify ?_) fun _ => ?_
  · intro g
    split
    · exact put_callPCType_guided g 1
    · rfl
  apply follows_guides.bind (Traced.modifyGet checkOutput_guided)
  intro chk
  have hlast : Guides (modify fun g' => { g' with
      gDevice := g'.gDevice.put Offset.callPCType (g.gDevice.load Offset.callPCType) } :
      M Unit) := by
    apply guides_modify
    intro g'
    exact put_callPCType_guided g' _
  have hrest : ∀ chk : ℕ, Guides (do
      if chk ≠ 0 then
        modify fun g => { g with outPutTimer := g.outPutTimer.start (outPutTime g.gDevice) }
        output chk
        modify fun g => { g with readCount := 0 }
      modify fun g' => { g' with
        gDevice := g'.gDevice.put Offset.callPCType (g.gDevice.load Offset.callPCType) } :
      M Unit) := by
    intro chk
    apply Traced.ite _ hlast
    refine follows_guides.bind (guides_modify (by intro g; rfl)) fun _ => ?_
    apply follows_guides.bind (houtput chk)
    intro _
    refine follows_guides.bind (guides_modify (by intro g; rfl)) fun _ => ?_
    exact hlast
  apply Traced.ite
  · apply follows_guides.bind (Traced.modifyGet judgeOutput_guided)
    intro chk
    apply hrest
  · apply hrest

theorem guides_sendRow (busy : Bool) (chk i : ℕ) :
  Guides (sendRow busy chk i)
  := by
  have hwait : Guides waitBeep := by
    apply follows_guides.bind follows_guides.get
    intro g
    apply Traced.ite _ (follows_guides.pure _)
    apply follows_guides.bind _ fun _ => follows_guides.pure _
    apply Keeps.traced
    intro g flag g' h
    exact sendAndWait_guided (fun g => ⟨g.r2000, rfl⟩) h
  have hrelay : ∀ antenna, Guides (relayON busy antenna) := by
    intro antenna
    apply Traced.ite
    · exact Traced.ite guides_delayMs (guides_modify (by intro g; rfl))
    · apply Traced.ite _ (follows_guides.pure _)
      exact Traced.ite guides_delayMs (guides_modify (by intro g; rfl))
  refine follows_guides.bind (guides_modify (by intro g; rfl)) fun _ => ?_
  apply follows_guides.bind follows_guides.get
  intro g
  apply Traced.ite
  · refine follows_guides.bind (guides_modify (by intro g; rfl)) fun _ => ?_
    exact Traced.ite guides_delayMs (follows_guides.pure _)
  · apply Traced.ite _ (follows_guides.pure _)
    apply Traced.ite _ hwait
    apply follows_guides.bind (hrelay _)
    intro _
    apply follows_guides.bind guides_delayMs
    intro _
    exact hwait

theorem guides_outputRows (busy : ℕ → Bool) (chk : ℕ) :
  Guides (outputRows busy chk)
  := by
  have hrows : ∀ is : List ℕ, Guides (sendRows busy chk is) := by
    intro is
    induction is with
    | nil => exact follows_guides.pure _
    | cons i is ih => exact follows_guides.bind (guides_sendRow (busy i) chk i) fun _ => ih
  apply follows_guides.bind follows_guides.get
  intro g
  exact Traced.ite (hrows _) (follows_guides.pure _)

/-! ### Rounds -/

/-- The selections of the antennas of a mask. -/
def selectionsOf (mask : UInt8) : List (List UInt8) := (antennas mask).map antennaFrame

@[simp]
theorem selectionsOf_zero :
  selectionsOf 0 = []
  := by
  unfold selectionsOf
  rw [antennas_zero]
  rfl

/-- The selections that are left of the round. -/
def MainLoop.pending (s : MainLoop) : List (List UInt8) := selectionsOf s.switchAtenna

/-- The mask of the round that an event of the main loop begins, if it begins one. -/
def MainLoop.roundMask (s : MainLoop) : MainEvent → Option UInt8
  | .active pinTriggle1 =>
    if s.gDevice.load Offset.readerWorkStatus = workAct ∧ s.switchAtenna = 0
        ∧ (startRound pinTriggle1 s.toGlobals).1 ≠ 0 then
      some (startRound pinTriggle1 s.toGlobals).1
    else none
  | .rx _ | .tick | .saveData | .clearSetFlag | .request .. | .cmdCtrl => none

/-- The selections of the round that an event of the main loop begins. -/
def MainLoop.roundsBegun (s : MainLoop) (e : MainEvent) : List (List (List UInt8)) :=
  (s.roundMask e).toList.map selectionsOf

/-- The selections that active mode sends in an event of the main loop. -/
def MainLoop.selectionsMade (output : ℕ → M Unit) (s : MainLoop) (e : MainEvent) :
    List (List UInt8) :=
  match e with
  | .active _ =>
    match mainStep output s e with
    | none => []
    | some s' => s'.selections.drop s.selections.length
  | .rx _ | .tick | .saveData | .clearSetFlag | .request .. | .cmdCtrl => []

/-- A cycle of active mode makes the next selection of the round. -/
theorem activeCycle_turn {output : ℕ → M Unit} (houtput : ∀ chk, Guides (output chk))
    {pinTriggle1 switchAtenna rest : UInt8} {g g' : Globals}
    (h : activeCycle output pinTriggle1 switchAtenna g = some (rest, g')) :
  g'.tmpAntenna = g.tmpAntenna
    ∧ g'.gDevice.load Offset.readTAGType = g.gDevice.load Offset.readTAGType
    ∧ ∃ now, antennas (turnMask pinTriggle1 switchAtenna g) = now ++ antennas rest
      ∧ g'.selections = g.selections ++ now.map antennaFrame
      ∧ rest &&& turnMask pinTriggle1 switchAtenna g = rest
  := by
  obtain ⟨rest', g₁, hwork, h⟩ := bind_eq_some h
  obtain ⟨_, g₂, hsend, h⟩ := bind_eq_some h
  cases h
  obtain ⟨hantenna, htype, now, hnow, hselections, hpart⟩ := workACT_turn hwork
  have hguided := (guides_sendDataOut houtput).returns hsend
  obtain ⟨hantenna', hguided⟩ := Prod.mk.inj hguided
  obtain ⟨htype', hselections'⟩ := Prod.mk.inj hguided
  exact ⟨hantenna'.trans hantenna, htype'.trans htype, now, hnow, hselections'.trans hselections,
    hpart⟩

/-- A call of `workACT` works on what is left of the round and on the round that it begins. -/
theorem pending_turnMask {s : MainLoop} (hwork : s.gDevice.load Offset.readerWorkStatus = workAct)
    (pinTriggle1 : UInt8) :
  s.pending ++ (s.roundsBegun (.active pinTriggle1)).flatten
    = selectionsOf (turnMask pinTriggle1 s.switchAtenna s.toGlobals)
  := by
  unfold MainLoop.pending MainLoop.roundsBegun MainLoop.roundMask turnMask
  dsimp only
  by_cases hleft : s.switchAtenna = 0
  · rw [if_neg (not_not.mpr hleft), hleft, selectionsOf_zero]
    split
    · exact List.append_nil _
    · rename_i hnone
      have hzero : (startRound pinTriggle1 s.toGlobals).1 = 0 := by
        by_contra hmask
        exact hnone ⟨hwork, rfl, hmask⟩
      rw [hzero]
      exact selectionsOf_zero.symm
  · rw [if_pos hleft, if_neg (fun h => hleft h.2.1)]
    exact List.append_nil _

/-- An event of the main loop makes selections of the round. -/
theorem rounds_step {output : ℕ → M Unit} (houtput : ∀ chk, Guides (output chk)) {s s' : MainLoop}
    {e : MainEvent} (h : mainStep output s e = some s') :
  s.selectionsMade output e ++ s'.pending = s.pending ++ (s.roundsBegun e).flatten
  := by
  have hidle : ∀ {s' : MainLoop}, s'.switchAtenna = s.switchAtenna →
      [] ++ s'.pending = s.pending ++ ([] : List (List (List UInt8))).flatten := by
    intro s' hsame
    unfold MainLoop.pending
    rw [hsame, List.nil_append]
    exact (List.append_nil _).symm
  cases e with
  | rx b =>
    cases h
    exact hidle rfl
  | tick =>
    cases h
    exact hidle rfl
  | saveData =>
    simp only [mainStep] at h
    split at h
    · cases h
      exact hidle rfl
    · cases h
      exact hidle rfl
  | clearSetFlag =>
    cases h
    exact hidle rfl
  | request o buffer length =>
    simp only [mainStep, Option.map_eq_some_iff] at h
    obtain ⟨out, -, rfl⟩ := h
    exact hidle rfl
  | active pinTriggle1 =>
    have hmade : s.selectionsMade output (.active pinTriggle1)
        = s'.selections.drop s.selections.length := by
      simp only [MainLoop.selectionsMade, h]
    rw [hmade]
    simp only [mainStep] at h
    split at h
    · rename_i hwork
      rw [Option.map_eq_some_iff] at h
      obtain ⟨⟨rest, g'⟩, hcycle, rfl⟩ := h
      obtain ⟨-, -, now, hnow, hselections, -⟩ := activeCycle_turn houtput hcycle
      rw [pending_turnMask hwork]
      unfold MainLoop.pending selectionsOf
      dsimp only
      rw [hnow, hselections, List.drop_left, List.map_append]
    · rename_i hwork
      cases h
      have hround : s.roundsBegun (.active pinTriggle1) = [] := by
        unfold MainLoop.roundsBegun MainLoop.roundMask
        dsimp only
        rw [if_neg (fun h => hwork h.1)]
        rfl
      rw [hround, List.drop_length]
      exact hidle rfl
  | cmdCtrl =>
    cases h
    exact hidle rfl

/-- The event is not a request. -/
def Unasked (_ : MainLoop) (e : MainEvent) : Prop := ∀ o buffer length, e ≠ .request o buffer length

/-- The antennas of `mask` are read when the timer has run out, and what is left of a round is a
part of them. -/
structure MainLoop.Polls (s : MainLoop) (mask : UInt8) : Prop where
  antenna : s.tmpAntenna = mask
  timed : s.gDevice.load Offset.readTAGType = 0
  part : s.switchAtenna &&& mask = s.switchAtenna

theorem MainLoop.Polls.of_guided {s : MainLoop} {g : Globals} {mask : UInt8} (h : s.Polls mask)
    (hguided : g.guided = s.toGlobals.guided) :
  MainLoop.Polls { s with toGlobals := g } mask
  := by
  obtain ⟨hantenna, hguided⟩ := Prod.mk.inj hguided
  obtain ⟨htype, -⟩ := Prod.mk.inj hguided
  exact ⟨hantenna.trans h.antenna, htype.trans h.timed, h.part⟩

/-- A new round has all antennas, when the timer begins it. -/
theorem MainLoop.Polls.round {s : MainLoop} {mask : UInt8} (h : s.Polls mask) (e : MainEvent) :
  ∀ round ∈ s.roundsBegun e, round = selectionsOf mask
  := by
  intro round hround
  obtain ⟨m, hm, rfl⟩ := List.mem_map.mp hround
  rw [Option.mem_toList] at hm
  cases e with
  | active pinTriggle1 =>
    simp only [MainLoop.roundMask] at hm
    split at hm
    · rename_i hbegin
      cases hm
      have hall : (startRound pinTriggle1 s.toGlobals).1 = s.tmpAntenna := by
        revert hbegin
        unfold startRound
        rw [if_pos h.timed]
        split
        · intro _
          rfl
        · rintro ⟨-, -, hzero⟩
          exact absurd rfl hzero
      rw [hall, h.antenna]
    · cases hm
  | rx b => cases hm
  | tick => cases hm
  | saveData => cases hm
  | clearSetFlag => cases hm
  | request o buffer length => cases hm
  | cmdCtrl => cases hm

/-- Without requests, the antennas stay the same. -/
theorem MainLoop.Polls.step {output : ℕ → M Unit} (houtput : ∀ chk, Guides (output chk))
    {s s' : MainLoop} {mask : UInt8} {e : MainEvent} (h : s.Polls mask) (hunasked : Unasked s e)
    (hstep : mainStep output s e = some s') :
  s'.Polls mask
  := by
  cases e with
  | rx b =>
    cases hstep
    exact h.of_guided (uart4IRQHandler_guided s.toGlobals b)
  | tick =>
    cases hstep
    exact h.of_guided (timeUpdate_guided s.toGlobals)
  | saveData =>
    simp only [mainStep] at hstep
    split at hstep
    · cases hstep
      have hload : (saveDataTo s.flash s.gDevice).1.load Offset.readTAGType
          = s.gDevice.load Offset.readTAGType := by
        have hbehind : Offset.flag + 4 ≤ Offset.readTAGType := by decide
        unfold saveDataTo SDevice.setWorkFlag
        dsimp only
        exact Block.load_copy_outside (.inr hbehind)
      exact ⟨h.antenna, hload.trans h.timed, h.part⟩
    · cases hstep
      exact h
  | clearSetFlag =>
    cases hstep
    exact ⟨h.antenna, h.timed, h.part⟩
  | request o buffer length => exact absurd rfl (hunasked o buffer length)
  | active pinTriggle1 =>
    simp only [mainStep] at hstep
    split at hstep
    · rw [Option.map_eq_some_iff] at hstep
      obtain ⟨⟨rest, g'⟩, hcycle, rfl⟩ := hstep
      obtain ⟨hantenna, htype, -, -, -, hpart⟩ := activeCycle_turn houtput hcycle
      refine ⟨hantenna.trans h.antenna, htype.trans h.timed, ?_⟩
      have hturn : turnMask pinTriggle1 s.switchAtenna s.toGlobals &&& mask
          = turnMask pinTriggle1 s.switchAtenna s.toGlobals := by
        unfold turnMask startRound
        split
        · exact h.part
        · rw [if_pos h.timed]
          split
          · rw [h.antenna, UInt8.and_self]
          · exact UInt8.zero_and
      dsimp only
      rw [← hpart, UInt8.and_assoc, hturn]
    · cases hstep
      exact h
  | cmdCtrl =>
    cases hstep
    have hload : (cmdCtrl s.toReader).gDevice.load Offset.readTAGType
        = s.gDevice.load Offset.readTAGType := by
      unfold cmdCtrl
      dsimp only
      split
      · rw [Block.load_put (by decide), if_neg (by decide)]
      · rfl
    exact ⟨h.antenna, hload.trans h.timed, h.part⟩

/-- The four antennas are selected with different frames. -/
theorem nodup_selectionsOf {mask : UInt8} (h : mask.toNat < 16) :
  (selectionsOf mask).Nodup
  := by
  revert h
  refine forall_mask (P := fun mask => mask.toNat < 16 → (selectionsOf mask).Nodup) ?_ mask
  decide +kernel

/-- Each antenna gets its turn: in every run of the main loop without requests, from a state in
which no round is under way and the reader reads by time, no configured antenna is selected more
than one time more often than another, whatever the interrupts do and whichever rows are sent. -/
theorem antennas_take_turns (busy : ℕ → Bool) {s₀ s : MainLoop} {es : List MainEvent}
    (hstart : s₀.switchAtenna = 0) (htimed : s₀.gDevice.load Offset.readTAGType = 0)
    (hports : s₀.tmpAntenna.toNat < 16)
    (hunasked : ∀ o buffer length, .request o buffer length ∉ es)
    (h : Run.run (mainStep (outputRows busy)) es s₀ = some s) :
  ∀ f ∈ selectionsOf s₀.tmpAntenna, ∀ f' ∈ selectionsOf s₀.tmpAntenna,
    (Lts.labels (mainStep (outputRows busy)) (MainLoop.selectionsMade (outputRows busy)) es
        s₀).count f
      ≤ (Lts.labels (mainStep (outputRows busy)) (MainLoop.selectionsMade (outputRows busy)) es
        s₀).count f' + 1
  := by
  have houtput := guides_outputRows busy
  have hpolls : s₀.Polls s₀.tmpAntenna := by
    refine ⟨rfl, htimed, ?_⟩
    rw [hstart]
    exact UInt8.zero_and
  have halong : Run.Along (mainStep (outputRows busy)) Unasked es s₀ := by
    apply Run.Along.of_forall
    intro e he s o buffer length heq
    rw [heq] at he
    exact hunasked o buffer length he
  have hrounds : ∀ round ∈ Lts.labels (mainStep (outputRows busy)) MainLoop.roundsBegun es s₀,
      round = selectionsOf s₀.tmpAntenna :=
    Lts.forall_labels (I := fun s => s.Polls s₀.tmpAntenna) (fun s e hs => hs.round e)
      (fun s e s' hs hC hstep => hs.step houtput hC hstep) hpolls halong
  have hlast : s.Polls s₀.tmpAntenna :=
    halong.invariant (I := fun s : MainLoop => s.Polls s₀.tmpAntenna)
      (fun s e s' hs hC hstep => hs.step houtput hC hstep) hpolls h
  have hconserved := Lts.conserved MainLoop.pending (MainLoop.selectionsMade (outputRows busy))
    MainLoop.roundsBegun (fun s e s' hs => rounds_step houtput hs) h
  have hnone : s₀.pending = [] := by
    unfold MainLoop.pending
    rw [hstart, selectionsOf_zero]
  rw [hnone, List.nil_append] at hconserved
  intro f hf f' hf'
  exact Rounds.count_le (nodup_selectionsOf hports) hrounds hconserved
    ((antennas_sublist hlast.part).map antennaFrame) hf hf'

/-- Two antennas are configured, the timer has run out, and the R2000 refuses each selection: both
antennas are tried. -/
theorem antennas_take_turns_refused :
  let refusal : List Event := [.rx 0xA0, .rx 0x04, .rx 0x01, .rx 0x74, .rx 0x11, .rx 0xD6, .poll]
  let s₀ : MainLoop :=
    { MainLoop.start .blank with
      tmpAntenna := 3
      readCardTimer := ⟨1, 1, 0⟩
      traffic := [[], refusal, [], refusal] }
  let made := Lts.labels (mainStep (outputRows fun _ => false))
    (MainLoop.selectionsMade (outputRows fun _ => false)) [.active 0, .active 0] s₀
  made = [antennaFrame 1, antennaFrame 2]
    ∧ ∀ f ∈ selectionsOf 3, ∀ f' ∈ selectionsOf 3, made.count f ≤ made.count f' + 1
  := by
  intro refusal s₀ made
  have hmade : made = [antennaFrame 1, antennaFrame 2] := by
    unfold made s₀ MainLoop.start
    rw [powerOn_eq]
    decide +kernel
  have hruns : (Run.run (mainStep (outputRows fun _ => false))
      [.active 0, .active 0] s₀).isSome := by
    unfold s₀ MainLoop.start
    rw [powerOn_eq]
    decide +kernel
  have htimed : s₀.gDevice.load Offset.readTAGType = 0 := by
    unfold s₀ MainLoop.start
    rw [powerOn_eq]
    decide +kernel
  obtain ⟨s, hrun⟩ := Option.isSome_iff_exists.mp hruns
  exact ⟨hmade, antennas_take_turns (fun _ => false) rfl htimed (by decide)
    (by simp) hrun⟩

end UhfReader
