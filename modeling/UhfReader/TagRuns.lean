import UhfReader.ActiveCode
import UhfReader.Saving

/-!
# Requests and active mode as runs

The runs of `TagTable` leave open what the code between the interrupts does, except that it leaves
`CardPos` alone or sets it to `0` or `1`.  Here this is shown of the code: of every handler, of
`processParamTable`, of `workACT` and of `sendDataOut`.  `main_run` puts them together: whatever
the main loop does, however the interrupts fall, is one of these runs.
-/

open Memory Stateful Interrupts

namespace UhfReader

/-! ### Handlers -/

theorem follows_goes :
  Follows Goes Hangs
  := by
  constructor
  · apply tracing_goes
  · intro g g' h
    apply Goes.fore h.pos h.traffic
  · intro before cmd p _
    apply traced_encodeR2000From
  · apply traced_delayMs

/-- What a piece of code keeps when it neither stores tags nor waits. -/
def Globals.scan (g : Globals) : ℕ × List (List Event) := (g.cardPos, g.traffic)

theorem Goes.of_scan {g g' : Globals} (h : g'.scan = g.scan) :
  Goes g g'
  := by
  obtain ⟨hpos, htraffic⟩ := Prod.mk.inj h
  exact Goes.fore (.inl hpos) htraffic

/-- An update that leaves `CardPos` alone. -/
theorem traced_modify {u : Globals → Globals} (h : ∀ g, (u g).scan = g.scan) :
  Traced Goes Hangs (modify u : M Unit)
  := by
  apply Traced.modify
  intro g
  apply Goes.of_scan (h g)

theorem traced_setOutputPower (p : Mem) :
  Traced Goes Hangs (setOutputPower p)
  := by
  apply follows_goes.bind
  · apply traced_modify
    intro g
    rfl
  · intro _
    apply follows_goes.bind (traced_encodeR2000 _ _)
    intro flagReturn
    apply follows_goes.bind follows_goes.get
    intro g
    apply Traced.ite _ (traced_fail follows_goes _)
    apply traced_update follows_goes.toTracing
    intro g
    exact Goes.of_scan rfl

theorem traced_setFrequency1 (p : Mem) :
  Traced Goes Hangs (setFrequency1 p)
  := by
  apply follows_goes.bind follows_goes.get
  intro g
  apply follows_goes.bind (traced_encodeR2000 _ _)
  intro flagReturn
  apply follows_goes.bind follows_goes.get
  intro g'
  exact Traced.ite (traced_reply follows_goes _ 0) (traced_fail follows_goes _)

theorem traced_readReaderPara (p : Mem) :
  Traced Goes Hangs (readReaderPara p)
  := by
  apply follows_goes.bind
  · apply traced_modify
    intro g
    rfl
  · intro _
    apply follows_goes.bind
    · apply traced_modify
      intro g
      rfl
    · intro _
      apply traced_update follows_goes.toTracing
      intro g
      exact Goes.of_scan rfl

/-- `SetReaderWorkType` starts active mode with an empty table. -/
theorem traced_setReaderWorkType (p : Mem) :
  Traced Goes Hangs (setReaderWorkType p)
  := by
  apply traced_update follows_goes.toTracing
  intro g
  split
  · exact Goes.of_scan rfl
  · split
    · exact Goes.fore (.inr (Nat.zero_le 1)) rfl
    · apply tracing_goes.refl

/-- Every function of the table does what a run can do. -/
theorem traced_handler (before : UInt8) (p : Mem) (h : Handler) :
  Traced Goes Hangs (h.run before p)
  := by
  by_cases hmem : h ∈ settingHandlers
  · cases h
    case setOutputPower => apply traced_setOutputPower
    case setFrequency1 => apply traced_setFrequency1
    case readReaderPara => apply traced_readReaderPara
    case setReaderWorkType => apply traced_setReaderWorkType
    case getTagRecord =>
      apply traced_update follows_goes.toTracing
      intro g
      apply Goes.of_scan
      apply tagRecord_frame
      · intro g
        rfl
      · intro g buf len count
        rfl
    case setBaudRate | setFrequency | readParam | getReaderTime | getReaderRevStatus =>
      apply traced_update follows_goes.toTracing
      intro g
      exact Goes.of_scan rfl
    all_goals exact absurd hmem (by decide)
  · apply traced_run follows_goes before p hmem

/-! ### Requests -/

/-- The code leads from `r` to its outcome, or waits without end. -/
def Leads {α : Type} (reader : α → Reader) (r : Reader) : Option α → Prop
  | none => Hangs r.toGlobals
  | some a => Goes r.toGlobals (reader a).toGlobals

namespace Leads

variable {α β : Type} {reader : α → Reader} {r r' : Reader} {outcome : Option α}

/-- What is done afterwards. -/
theorem map {reader' : β → Reader} {k : α → β} (h : Leads reader r outcome)
    (hk : ∀ a, Goes (reader a).toGlobals (reader' (k a)).toGlobals) :
  Leads reader' r (outcome.map k)
  := by
  cases outcome with
  | none => apply h
  | some a => apply tracing_goes.trans h (hk a)

/-- What was done before. -/
theorem after (h : Leads reader r' outcome) (hbefore : Goes r.toGlobals r'.toGlobals) :
  Leads reader r outcome
  := by
  cases outcome with
  | none => apply tracing_goes.hang hbefore h
  | some a => apply tracing_goes.trans hbefore h

end Leads

section

variable (o : CmdOrigin) (idindex : ℕ) (buffer : Mem) (r : Reader)

theorem callFunction_leads (function : Option Handler) :
  Leads Prod.snd r (callFunction runHandler function buffer r)
  := by
  cases function with
  | none => apply tracing_goes.refl
  | some h =>
    have htraced := traced_handler (buffer (paraOff r.tagDataOrigin - 1))
      (buffer.shift (paraOff r.tagDataOrigin)) h
    unfold callFunction
    dsimp only [runHandler]
    generalize hran : h.run _ _ r.toGlobals = ran
    cases ran with
    | none => apply htraced.hangs hran
    | some out => apply htraced.returns hran

theorem memcpyValue_scan (g : Globals) (src : Mem) (n : ℕ) (v : ValuePtr) :
  (g.memcpyValue src n v).scan = g.scan
  := by
  cases v with
  | device off => rfl
  | tmpAntenna => rfl
  | sysReboot => rfl
  | cmdTmpBuf => rfl

theorem storeTagFilter_scan (g : Globals) :
  (storeTagFilter o idindex buffer g).2.scan = g.scan
  := by
  unfold storeTagFilter
  dsimp only
  split
  · split
    · rfl
    · apply memcpyValue_scan
  · split
    · rfl
    · split
      · rfl
      · apply memcpyValue_scan

theorem storeValue_scan (g : Globals) :
  (storeValue o idindex buffer g).2.scan = g.scan
  := by
  unfold storeValue
  dsimp only
  split
  · rfl
  · split
    · rfl
    · split
      · rfl
      · split
        · rfl
        · split
          · apply memcpyValue_scan
          · split
            · rfl
            · apply memcpyValue_scan

theorem storeRequest_scan :
  (storeRequest o idindex buffer r).2.2.scan = r.scan
  := by
  unfold storeRequest
  dsimp only
  split
  · rfl
  · split
    · apply storeTagFilter_scan
    · apply storeValue_scan

theorem loadValue_scan (g : Globals) :
  (loadValue o idindex buffer g).2.scan = g.scan
  := by
  unfold loadValue
  dsimp only
  split
  · split
    · rfl
    · rfl
  · split
    · rfl
    · split
      · rfl
      · rfl

theorem restoreWorkStatus_scan (cmd readerWorkStatus : UInt8) (g : Globals) :
  (restoreWorkStatus cmd readerWorkStatus g).scan = g.scan
  := by
  unfold restoreWorkStatus
  split
  · rfl
  · rfl

theorem writeRequest_leads :
  Leads (fun out => out.2.2) r (writeRequest runHandler o idindex buffer r)
  := by
  have hstored := Goes.of_scan (storeRequest_scan o idindex buffer r)
  unfold writeRequest
  dsimp only
  split
  · apply Leads.map
    · apply Leads.after (callFunction_leads _ _ _) hstored
    · intro called
      apply tracing_goes.refl
  · apply hstored

theorem readRequest_leads :
  Leads (fun out => out.2.2) r (readRequest runHandler o idindex buffer r)
  := by
  unfold readRequest
  split
  · apply tracing_goes.refl
  · apply Leads.map (callFunction_leads _ _ _)
    intro called
    apply Goes.of_scan
    exact (restoreWorkStatus_scan _ _ _).trans (loadValue_scan _ _ _ _)

theorem otherRequest_leads :
  Leads (fun out => out.2.2) r (otherRequest runHandler o idindex buffer r)
  := by
  unfold otherRequest
  dsimp only
  split
  · apply tracing_goes.refl
  · split
    · apply tracing_goes.refl
    · apply Leads.map
      · apply Leads.after (callFunction_leads _ _ _)
        apply tracing_goes.refl
      · intro called
        rw [finishOther_reader]
        apply tracing_goes.refl

theorem dispatch_leads :
  Leads (fun out => out.2.2) r (dispatch runHandler o buffer r)
  := by
  unfold dispatch
  dsimp only
  split
  · apply tracing_goes.refl
  · split
    · apply writeRequest_leads
    · split
      · apply readRequest_leads
      · split
        · apply otherRequest_leads
        · apply tracing_goes.refl

/-- A request, whatever it is, does what a run can do. -/
theorem processParamTable_leads (length : ℕ) :
  Leads (fun out => out.2.2) r (processParamTable o buffer length r)
  := by
  unfold processParamTable processWith
  dsimp only
  apply Leads.map
  · split
    · apply dispatch_leads
    · exact tracing_goes.refl r.toGlobals
  · intro outcome
    apply tracing_goes.refl

end

/-! ### Active mode -/

/-- A piece of active mode does what a run can do. -/
theorem traced_activeCode {α : Type} {p : M α} (c : ActiveCode p) :
  Traced Goes Hangs p
  := by
  have hgoes : ∀ g g', TableKept g g' → Foreground g g' := by
    intro g g' h
    obtain hpos | hpos := h.pos
    · exact .inl hpos
    · exact .inr (hpos.trans_le (Nat.zero_le 1))
  apply Code.traced tracing_goes _ _ _ c
  · intro g g' h
    exact Goes.fore (hgoes g g' h) h.traffic
  · intro poll hpoll
    have hwait : radio.wait poll = sendAndWait id poll := by
      rw [← sendAndWait_eq]
      rfl
    rw [hwait]
    apply traced_sendAndWait
    · intro g
      exact ⟨rfl, rfl⟩
    · intro g
      exact ⟨hgoes g _ (hpoll g), (hpoll g).traffic⟩
  · rw [delay_eq]
    apply traced_delayMs

theorem copyTags_scan (g : Globals) :
  g.copyTags.scan = g.scan
  := by
  rw [copyTags_eq]
  rfl

theorem copyTags_traffic (g : Globals) :
  g.copyTags.traffic = g.traffic
  := congrArg Prod.snd (copyTags_scan g)

theorem judgeTag_traffic (g : Globals) :
  (judgeTag g).2.traffic = g.traffic
  := by
  unfold judgeTag
  split
  · apply copyTags_traffic
  · split
    · split
      · rfl
      · dsimp only
        split
        · exact copyTags_traffic { g with outPutTimer.isOverflow := 0 }
        · exact copyTags_traffic { g with outPutTimer.isOverflow := 0 }
    · rfl

/-- The tags that were judged are taken off the table. -/
theorem judgeOutput_goes (g : Globals) :
  Goes g (judgeOutput g).2
  := by
  unfold judgeOutput
  dsimp only
  split
  · exact Goes.fore (.inr (Nat.zero_le 1)) (judgeTag_traffic g)
  · exact Goes.fore (.inr (Nat.zero_le 1)) (judgeTag_traffic g)

/-- A message without tags is prepared with `CardPos = 1`. -/
theorem checkOutput_goes (g : Globals) :
  Goes g (checkOutput g).2
  := by
  unfold checkOutput
  dsimp only
  split
  · apply tracing_goes.refl
  · split
    · split
      · exact Goes.of_scan rfl
      · split
        · exact Goes.fore (.inr (Nat.le_refl 1)) rfl
        · apply tracing_goes.refl
    · apply tracing_goes.refl

/-- Sending the tags does what a run can do, if the output itself does. -/
theorem traced_sendDataOut {output : ℕ → M Unit} (houtput : ∀ chk, Traced Goes Hangs (output chk)) :
  Traced Goes Hangs (sendDataOut output)
  := by
  apply follows_goes.bind follows_goes.get
  intro g
  apply follows_goes.bind
  · apply traced_modify
    intro g
    split
    · rfl
    · rfl
  · intro _
    apply follows_goes.bind (Traced.modifyGet checkOutput_goes)
    intro chk
    have hrest : ∀ chk : ℕ, Traced Goes Hangs (do
        if chk ≠ 0 then
          modify fun g => { g with outPutTimer := g.outPutTimer.start (outPutTime g.gDevice) }
          output chk
          modify fun g => { g with readCount := 0 }
        modify fun g' => { g' with
          gDevice := g'.gDevice.put Offset.callPCType (g.gDevice.load Offset.callPCType) } :
        M Unit) := by
      intro chk
      have hlast : Traced Goes Hangs (modify fun g' => { g' with
          gDevice := g'.gDevice.put Offset.callPCType (g.gDevice.load Offset.callPCType) } :
          M Unit) := by
        apply traced_modify
        intro g
        rfl
      apply Traced.ite _ hlast
      apply follows_goes.bind
      · apply traced_modify
        intro g
        rfl
      · intro _
        apply follows_goes.bind (houtput chk)
        intro _
        apply follows_goes.bind
        · apply traced_modify
          intro g
          rfl
        · intro _
          apply hlast
    apply Traced.ite
    · apply follows_goes.bind (Traced.modifyGet judgeOutput_goes)
      intro chk
      apply hrest
    · apply hrest

/-! ### The main loop -/

/-- The reader with the antennas that `workACT` has still to read. -/
structure MainLoop extends Reader where
  switchAtenna : UInt8

/-- A step of the main loop, or an interrupt between two of them. -/
inductive MainEvent where
  | rx (b : UInt8)
  | tick
  /-- `if(g_paramTable.setFlag) SaveData()` -/
  | saveData
  /-- `g_paramTable.setFlag = 0` -/
  | clearSetFlag
  | request (o : CmdOrigin) (buffer : Mem) (length : ℕ)
  /-- `workACT` and `sendDataOut`; `pinTriggle1` is the second trigger input -/
  | active (pinTriggle1 : UInt8)
  | cmdCtrl

/-- A cycle of active mode: the antennas left and the globals. -/
def activeCycle (output : ℕ → M Unit) (pinTriggle1 switchAtenna : UInt8) : M UInt8 := do
  let switchAtenna ← workACT pinTriggle1 switchAtenna
  sendDataOut output
  return switchAtenna

/-- One step of the main loop.  It is `none` when a wait is not left. -/
def mainStep (output : ℕ → M Unit) (s : MainLoop) : MainEvent → Option MainLoop
  | .rx b => some { s with toGlobals := uart4IRQHandler s.toGlobals b }
  | .tick => some { s with toGlobals := timeUpdate s.toGlobals }
  | .saveData =>
    if s.setFlag ≠ 0 then
      some { s with
        gDevice := (saveDataTo s.flash s.gDevice).1
        flash := (saveDataTo s.flash s.gDevice).2 }
    else some s
  | .clearSetFlag => some { s with setFlag := 0 }
  | .request o buffer length =>
    (processParamTable o buffer length s.toReader).map fun out => { s with toReader := out.2.2 }
  | .active pinTriggle1 =>
    if s.gDevice.load Offset.readerWorkStatus = workAct then
      (activeCycle output pinTriggle1 s.switchAtenna s.toGlobals).map fun out =>
        { s with toGlobals := out.2, switchAtenna := out.1 }
    else some s
  | .cmdCtrl => some { s with toReader := cmdCtrl s.toReader }

/-- The main loop when it is entered. -/
def MainLoop.start (e : Surroundings) : MainLoop := ⟨powerOn e, 0⟩

/-- A step of the main loop is a run. -/
theorem mainStep_passes {output : ℕ → M Unit} (houtput : ∀ chk, Traced Goes Hangs (output chk))
    {s s' : MainLoop} {e : MainEvent} (h : mainStep output s e = some s') :
  ∃ es, Passes es s.toGlobals s'.toGlobals
  := by
  have hpasses : ∀ {g g' : Globals}, Goes g g' → ∃ es, Passes es g g' := by
    rintro g g' ⟨es, hpass, -⟩
    exact ⟨es, hpass⟩
  cases e with
  | rx b =>
    cases h
    exact ⟨[.rx b], (Passes.nil _).rx⟩
  | tick =>
    cases h
    exact ⟨[.tick], (Passes.nil _).tick⟩
  | saveData =>
    simp only [mainStep] at h
    apply hpasses
    split at h
    · cases h
      exact Goes.of_scan rfl
    · cases h
      apply tracing_goes.refl
  | clearSetFlag =>
    cases h
    apply hpasses
    exact Goes.of_scan rfl
  | request o buffer length =>
    simp only [mainStep, Option.map_eq_some_iff] at h
    obtain ⟨out, hprocess, rfl⟩ := h
    have hleads := processParamTable_leads o buffer s.toReader length
    rw [hprocess] at hleads
    apply hpasses hleads
  | active pinTriggle1 =>
    simp only [mainStep] at h
    apply hpasses
    split at h
    · simp only [Option.map_eq_some_iff] at h
      obtain ⟨out, hcycle, rfl⟩ := h
      have htraced : Traced Goes Hangs (activeCycle output pinTriggle1 s.switchAtenna) := by
        apply follows_goes.bind (traced_activeCode (.workACT pinTriggle1 s.switchAtenna))
        intro switchAtenna
        apply follows_goes.bind (traced_sendDataOut houtput)
        intro _
        apply follows_goes.pure
      apply htraced.returns hcycle
    · cases h
      apply tracing_goes.refl
  | cmdCtrl =>
    cases h
    apply hpasses
    exact Goes.of_scan rfl

/-- Whatever the main loop does from the start on, for all requests and all interrupts, is a run
of `TagTable`. -/
theorem main_run {output : ℕ → M Unit} (houtput : ∀ chk, Traced Goes Hangs (output chk))
    (e : Surroundings) {es : List MainEvent} {s : MainLoop}
    (h : Run.run (mainStep output) es (MainLoop.start e) = some s) :
  ∃ run n, Run.run tagStep run (TagRun.start e) = some ⟨s.toGlobals, n⟩
  := by
  have hpasses : ∀ (es : List MainEvent) (s₀ : MainLoop),
      Run.run (mainStep output) es s₀ = some s → ∃ run, Passes run s₀.toGlobals s.toGlobals := by
    intro es
    induction es with
    | nil =>
      intro s₀ hrun
      cases hrun
      exact ⟨[], Passes.nil _⟩
    | cons e es ih =>
      intro s₀ hrun
      obtain ⟨s₁, hstep, hrest⟩ := Run.run_cons_eq_some hrun
      obtain ⟨run, hpass⟩ := mainStep_passes houtput hstep
      obtain ⟨run', hpass'⟩ := ih s₁ hrest
      exact ⟨run ++ run', hpass.append hpass'⟩
  obtain ⟨run, hpass⟩ := hpasses es _ h
  obtain ⟨n, hrun⟩ := hpass 0
  exact ⟨run, n, hrun⟩

end UhfReader
