import UhfReader.Held
import UhfReader.Lib.Run

/-!
# Saving the parameters

The main loop copies `g_device` to the flash when `setFlag` is raised, and then lowers
`setFlag`.  Requests over UDP are carried out in the Ethernet interrupt, so they can come
between these two steps, as can the system tick, whose test `reboot` lets the watchdog
expire when `setFlag` is down.  Requests from the serial lines and `CMDCtrl` are steps of the
main loop itself.

A write request that comes between the two steps is acknowledged, but its `setFlag` is
lowered without its value having been copied.  Some requests, and `CMDCtrl`, change bytes of
`g_device` that were written without raising `setFlag` at all.  When none of these finds anything
else in the flash than it stores, whatever was acknowledged is in the flash whenever `setFlag` is
down.
-/

open Memory Run

namespace UhfReader

/-! ### The main loop and the interrupts -/

/-- The reader with the place its main loop is at. -/
structure System where
  reader : Reader
  /-- the main loop has called `SaveData` and has yet to lower `setFlag` -/
  saving : Bool
  /-- `reboot` is in its endless loop, and the watchdog expires -/
  halted : Bool
  /-- the bytes of `g_device` that acknowledged write requests have written -/
  written : ℕ → Bool

/-- A step of the main loop or an interrupt. -/
inductive SystemEvent where
  /-- `if(g_paramTable.setFlag) SaveData()` -/
  | saveData
  /-- `g_paramTable.setFlag = 0` -/
  | clearSetFlag
  | cmdCtrl
  | request (o : CmdOrigin) (buffer : Mem) (length : ℕ)
  | sysTick

/-- `CMDCtrl`, without the serial drivers. -/
def cmdCtrl (r : Reader) : Reader :=
  { r with
    gDevice :=
      if r.gDevice.load Offset.sysConnectParaChange &&& 0x01 = 1 then
        r.gDevice.put Offset.sysConnectParaChange
          (r.gDevice.load Offset.sysConnectParaChange &&& 0xfe)
      else r.gDevice
    sysReboot := if r.sysReboot > 1 then r.sysReboot - 1 else r.sysReboot }

/-- `reboot`, which `Time_Update` calls with every timer update, does not return. -/
def rebootHalts (r : Reader) : Bool := r.sysTimer1 + 1 > 9 ∧ r.sysReboot = 1 ∧ r.setFlag = 0

namespace System

/-- The state in which the main loop starts. -/
def start (e : Surroundings) : System :=
  { reader := powerOn e, saving := false, halted := false, written := fun _ => false }

/-- The system after a request. -/
def answer (s : System) (o : CmdOrigin) (buffer : Mem) (reply : UInt8 × Mem × Reader) : System :=
  { s with
    reader := reply.2.2
    written := fun i => s.written i || writtenBy o buffer s.reader reply i }

/-- One step.  The steps of the main loop come one after the other; the interrupts come at any
time, until `reboot` no longer returns. -/
def step (s : System) (e : SystemEvent) : Option System :=
  if s.halted then none
  else
    match e with
    | .saveData =>
      if s.saving = false ∧ s.reader.setFlag ≠ 0 then
        some { s with
          reader.gDevice := (saveDataTo s.reader.flash s.reader.gDevice).1
          reader.flash := (saveDataTo s.reader.flash s.reader.gDevice).2
          saving := true }
      else none
    | .clearSetFlag =>
      if s.saving then some { s with reader.setFlag := 0, saving := false } else none
    | .cmdCtrl => if s.saving then none else some { s with reader := cmdCtrl s.reader }
    | .request o buffer length =>
      if o ≠ .sourceFromUDP ∧ s.saving then none
      else (processParamTable o buffer length s.reader).map (s.answer o buffer)
    | .sysTick =>
      if rebootHalts s.reader then some { s with halted := true }
      else some { s with reader.toGlobals := timeUpdate s.reader.toGlobals }

/-- The flash image of the parameters holds what was written. -/
def Stored (s : System) : Prop := Held s.reader s.written

/-- A step stores nothing that the main loop fails to save: it finds in the flash what it stores, or
`setFlag` up, or raises it, and then not between `SaveData` and the lowering of `setFlag`. -/
def NothingLost (s : System) : SystemEvent → Prop
  | .request o buffer length =>
    StoresHeld o buffer length s.reader
        (fun i => s.written i = true ∨ Writes o buffer s.reader)
      ∨ s.saving = false ∧ (s.reader.setFlag ≠ 0 ∨ Raises o buffer s.reader)
  | .cmdCtrl =>
    s.written Offset.sysConnectParaChange = true →
      s.reader.gDevice.load Offset.sysConnectParaChange &&& 0x01 = 1 →
      s.reader.setFlag ≠ 0
        ∨ (stmflashReadDevice s.reader.flash).load Offset.sysConnectParaChange
          = s.reader.gDevice.load Offset.sysConnectParaChange &&& 0xfe
  | _ => True

/-! ### What holds in every state -/

/-- What was written is in the flash, or `setFlag` is raised and the copy is still to come. -/
structure Inv (s : System) : Prop where
  table : Registered s.reader.gParamTable
  version : MarksNoVersion s.written
  stored : s.saving = true ∨ s.reader.setFlag = 0 → s.Stored
  halted : s.halted = true → s.reader.setFlag = 0

theorem inv_start (e : Surroundings) :
  (start e).Inv
  := by
  refine ⟨registered_powerOn e, ?_, ?_, ?_⟩
  · intro i hi
    cases hi
  · intro _ i hi
    cases hi
  · intro _
    exact (powerOn_spec e).2.2.2

/-- A step that leaves the settings alone keeps the invariant. -/
theorem Inv.of_settings {s : System} (hinv : s.Inv) {g : Globals}
    (hset : g.settings = s.reader.settings) (hhalt : s.halted = false) :
  { s with reader.toGlobals := g : System }.Inv
  := by
  have hdevice : g.gDevice = s.reader.gDevice := congrArg Settings.gDevice hset
  have htable : g.gParamTable = s.reader.gParamTable := congrArg Settings.gParamTable hset
  have hflag : g.setFlag = s.reader.setFlag := congrArg Settings.setFlag hset
  have hflash : g.flash = s.reader.flash := congrArg Settings.flash hset
  refine ⟨?_, hinv.version, ?_, ?_⟩
  · dsimp only
    rw [htable]
    exact hinv.table
  · intro hdue i hi
    dsimp only at hdue hi ⊢
    rw [hflag] at hdue
    rw [hdevice, hflash]
    exact hinv.stored hdue i hi
  · intro hhalted
    rw [hhalt] at hhalted
    cases hhalted

/-- A request keeps the invariant when it stores nothing that is not saved. -/
theorem Inv.answer {s : System} (hinv : s.Inv) (hhalt : s.halted = false) {o : CmdOrigin}
    {buffer : Mem} {length : ℕ} {reply : UInt8 × Mem × Reader}
    (hcond : s.NothingLost (.request o buffer length))
    (h : processParamTable o buffer length s.reader = some reply) :
  (s.answer o buffer reply).Inv
  := by
  refine ⟨processParamTable_registered hinv.table h, ?_, ?_, ?_⟩
  · intro i hi
    obtain hwritten | hnew := Bool.or_eq_true_iff.mp hi
    · exact hinv.version i hwritten
    · exact writtenBy_version hinv.table h i hnew
  · intro hdue
    have hflag : reply.2.2.setFlag = _ := process_setFlag hinv.table h
    have hbefore : s.saving = true ∨ s.reader.setFlag = 0 := by
      obtain hsaving | hdown := hdue
      · exact .inl hsaving
      · right
        dsimp only [System.answer] at hdown
        rw [hflag] at hdown
        split at hdown
        · cases hdown
        · exact hdown
    apply (hinv.stored hbefore).request hinv.table hinv.version
      (fun i hi => Bool.or_eq_true_iff.mp hi) (fun i _ hwatched => hwatched) _ h
    obtain hheld | ⟨hidle, hup⟩ := hcond
    · exact hheld
    · -- `setFlag` is down after the request, so the request is not one that is carried out
      intro hvalid
      exfalso
      obtain hsaving | hdown := hdue
      · rw [System.answer, hidle] at hsaving
        cases hsaving
      · dsimp only [System.answer] at hdown
        rw [hflag] at hdown
        split at hdown
        · cases hdown
        · rename_i hquiet
          obtain hup | hraises := hup
          · exact hup hdown
          · exact hquiet ⟨hvalid, hraises⟩
  · intro hhalted
    rw [System.answer, hhalt] at hhalted
    cases hhalted

/-- `CMDCtrl` keeps the invariant when the byte that it clears is not left behind. -/
theorem Inv.cmdCtrl {s : System} (hinv : s.Inv) (hhalt : s.halted = false)
    (hidle : s.saving = false) (hcond : s.NothingLost .cmdCtrl) :
  { s with reader := UhfReader.cmdCtrl s.reader : System }.Inv
  := by
  refine ⟨hinv.table, hinv.version, ?_, ?_⟩
  · intro hdue i hi
    have hstored : (stmflashReadDevice s.reader.flash).load i = s.reader.gDevice.load i :=
      hinv.stored hdue i hi
    dsimp only [UhfReader.cmdCtrl]
    split
    · rename_i hbit
      rw [Block.load_put (by decide)]
      split
      · rename_i hbyte
        rw [hbyte]
        rw [hbyte] at hi
        obtain hup | hcleared := hcond hi hbit
        · obtain hsaving | hdown := hdue
          · dsimp only at hsaving
            rw [hidle] at hsaving
            cases hsaving
          · exact absurd hdown hup
        · exact hcleared
      · exact hstored
    · exact hstored
  · intro hhalted
    dsimp only at hhalted
    rw [hhalt] at hhalted
    cases hhalted

/-- Every step keeps the invariant that stores nothing which is not saved. -/
theorem Inv.step {s s' : System} {e : SystemEvent} (hinv : s.Inv) (hcond : s.NothingLost e)
    (h : s.step e = some s') :
  s'.Inv
  := by
  unfold System.step at h
  split at h
  · cases h
  · rename_i hhalted
    have hhalt : s.halted = false := Bool.eq_false_of_not_eq_true hhalted
    cases e with
    | saveData =>
      dsimp only at h
      split at h
      · cases h
        refine ⟨hinv.table, hinv.version, ?_, fun hh => absurd hh hhalted⟩
        -- the copy is complete, whatever was written before
        intro _ i _
        dsimp only
        rw [saveDataTo, stmflashReadDevice_saveDataOps]
      · cases h
    | clearSetFlag =>
      dsimp only at h
      split at h
      · rename_i hsaving
        cases h
        exact ⟨hinv.table, hinv.version, fun _ => hinv.stored (.inl hsaving), fun _ => rfl⟩
      · cases h
    | cmdCtrl =>
      dsimp only at h
      split at h
      · cases h
      · rename_i hidle
        cases h
        exact hinv.cmdCtrl hhalt (Bool.eq_false_of_not_eq_true hidle) hcond
    | request o buffer length =>
      dsimp only at h
      split at h
      · cases h
      · rw [Option.map_eq_some_iff] at h
        obtain ⟨reply, hreply, rfl⟩ := h
        exact hinv.answer hhalt hcond hreply
    | sysTick =>
      dsimp only at h
      split at h
      · rename_i hhalts
        cases h
        simp only [rebootHalts, decide_eq_true_eq] at hhalts
        exact ⟨hinv.table, hinv.version, hinv.stored, fun _ => hhalts.2.2⟩
      · cases h
        exact hinv.of_settings (congrArg Prod.fst (timeUpdate_undriven s.reader.toGlobals)) hhalt

end System

/-- No acknowledged write is lost in a run in which no step stores anything that the main loop
fails to save: whenever `setFlag` is down and the main loop is not saving, and in particular when
`reboot` lets the watchdog expire, the flash image equals `g_device` on every byte that an
acknowledged request has written. -/
theorem acknowledged_writes_stored (e : Surroundings) (es : List SystemEvent) (s : System)
    (hcond : Along System.step System.NothingLost es (System.start e))
    (hrun : run System.step es (System.start e) = some s) :
  (s.reader.setFlag = 0 → s.saving = false → s.Stored) ∧ (s.halted = true → s.Stored)
  := by
  have hinv : s.Inv :=
    Along.invariant (fun _ _ _ => System.Inv.step) (System.inv_start e) hcond hrun
  constructor
  · intro hzero _
    exact hinv.stored (.inr hzero)
  · intro hhalted
    exact hinv.stored (.inr (hinv.halted hhalted))

/-- A new reader is given a new output power and is told to reboot: when `reboot` no longer
returns, the new power is in the flash. -/
theorem power_stored_before_reboot :
  let reboot := Mem.ofList [0x40, 0x02, 0x0E, 0xB0] fun _ => 0
  let es : List SystemEvent :=
    [.request .sourceFromUDP (writeParamRequest (defaultWorkpara.set 1 26)) 36]
      ++ ([.request .sourceFromUDP reboot 4, .saveData, .clearSetFlag]
        ++ ([.cmdCtrl] ++ List.replicate 10 .sysTick))
  ∃ s, run System.step es (System.start .blank) = some s ∧ s.halted = true
    ∧ s.written Offset.outputPower = true
    ∧ s.Stored
  := by
  intro reboot es
  have heval : (run System.step es (System.start .blank)).map
      (fun s => (s.halted, s.written Offset.outputPower)) = some (true, true) := by
    rw [System.start, powerOn_eq]
    decide
  obtain ⟨s, hrun, hs⟩ := Option.map_eq_some_iff.mp heval
  simp only [Prod.mk.injEq] at hs
  obtain ⟨s₁, hrun₁⟩ := exists_of_append hrun
  have hrest₁ := hrun
  rw [run_append hrun₁] at hrest₁
  obtain ⟨s₂, hrun₂⟩ := exists_of_append hrest₁
  have hwritten : s₂.written Offset.sysConnectParaChange = false := by
    have heval₂ : (run System.step
        ([.request .sourceFromUDP (writeParamRequest (defaultWorkpara.set 1 26)) 36]
          ++ [.request .sourceFromUDP reboot 4, .saveData, .clearSetFlag])
        (System.start .blank)).map (fun s => s.written Offset.sysConnectParaChange)
          = some false := by
      rw [System.start, powerOn_eq]
      decide
    rw [run_append hrun₁, hrun₂] at heval₂
    exact Option.some.inj heval₂
  have hrest₂ := hrest₁
  rw [run_append hrun₂] at hrest₂
  obtain ⟨s₃, hrun₃⟩ := exists_of_append hrest₂
  have hcond : Along System.step System.NothingLost es (System.start .blank) := by
    rw [Along.append_iff hrun₁, Along.append_iff hrun₂, Along.append_iff hrun₃]
    refine ⟨Along.singleton ?_, ?_, Along.singleton ?_, ?_⟩
    · -- `0x09` raises `setFlag` whatever the window holds
      refine .inr ⟨rfl, .inr ?_⟩
      have hmem : ((0x09 : UInt8), (⟨some (.device Offset.workpara), flagWR, 32,
          some .writeParam⟩ : SParamItem)) ∈ registeredItems := by decide
      apply (raises_window_iff hmem rfl (by decide) rfl).mpr
      exact ⟨⟨by decide, by decide⟩, fun hsame => absurd hsame.1 (by decide)⟩
    · apply Along.of_forall
      intro e he s
      simp only [List.mem_cons, List.not_mem_nil, or_false] at he
      obtain rfl | rfl | rfl := he
      · left
        intro _ _ _ i v hstores
        have hnone : ¬ windowCmd (reboot 2) ∧ reboot 2 ∉ storingCmds := by decide
        exact absurd hstores.cmd (not_or.mpr hnone)
      · trivial
      · trivial
    · intro hset
      rw [hwritten] at hset
      cases hset
    · apply Along.of_forall
      intro e he s
      rw [List.eq_of_mem_replicate he]
      trivial
  exact ⟨s, hrun, hs.1, hs.2, (acknowledged_writes_stored .blank es s hcond hrun).2 hs.1⟩

/-- A new reader is given an output power of 26, and one of 30 between `SaveData` and the
lowering of `setFlag`.  Both requests are acknowledged, and the second is lost. -/
theorem write_lost_while_saving :
  let es : List SystemEvent :=
    [.request .sourceFromUDP (writeParamRequest (defaultWorkpara.set 1 26)) 36, .saveData,
      .request .sourceFromUDP (writeParamRequest (defaultWorkpara.set 1 30)) 36, .clearSetFlag]
  ∃ s, run System.step es (System.start .blank) = some s
    ∧ s.reader.setFlag = 0 ∧ s.saving = false
    ∧ s.written Offset.outputPower = true
    ∧ s.reader.gDevice.load Offset.outputPower = 30
    ∧ (stmflashReadDevice s.reader.flash).load Offset.outputPower = 26
    ∧ ¬ s.Stored
  := by
  intro es
  have heval : (run System.step es (System.start .blank)).map
      (fun s => (s.reader.setFlag, s.saving, s.written Offset.outputPower,
        s.reader.gDevice.load Offset.outputPower,
        (stmflashReadDevice s.reader.flash).load Offset.outputPower))
        = some (0, false, true, 30, 26) := by
    rw [System.start, powerOn_eq]
    decide +kernel
  obtain ⟨s, hrun, hs⟩ := Option.map_eq_some_iff.mp heval
  simp only [Prod.mk.injEq] at hs
  obtain ⟨hflag, hsaving, hwritten, hdevice, hflash⟩ := hs
  refine ⟨s, hrun, hflag, hsaving, hwritten, hdevice, hflash, ?_⟩
  intro hstored
  have := hstored _ hwritten
  rw [hdevice, hflash] at this
  exact absurd this (by decide)

end UhfReader
