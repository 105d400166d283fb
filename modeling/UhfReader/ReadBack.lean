import UhfReader.Held
import UhfReader.Lib.Run

/-!
# Reading the working parameters back

`WriteParam` (`0x09`) changes the working parameters in `g_device`, and the main loop copies
them to the flash later.  `ReadParam` (`0x06`) reads the whole of `g_device` back from the
flash before it answers.  A reading that comes before the main loop has
saved answers with old parameters and discards the new ones, and so does one that comes after a
write of which the main loop is not told.  Without these, and as long as no other command writes
over the working parameters, `ReadParam` answers with what the latest `WriteParam` gave.
-/

open Memory Run

namespace UhfReader

variable {o : CmdOrigin} {buffer : Mem} {length : ℕ} {r : Reader}

/-! ### `WriteParam` -/

/-- `WriteParam`, acknowledged, leaves its parameters as the working parameters and raises
`setFlag`; refused, it changes nothing. -/
theorem writeParam_spec (hreg : Registered r.gParamTable) (hcmd : buffer 2 = 0x09)
    {reply : UInt8 × Mem × Reader} (h : processParamTable o buffer length r = some reply) :
  (reply.1 ≠ cmdoorCheckOk ∧ reply.2.2.gDevice = r.gDevice)
    ∨ (reply.1 = cmdoorCheckOk
      ∧ reply.2.2.gDevice
        = r.gDevice.copy Offset.workpara (buffer.shift (paraOff o)) sizeofWorkParam
      ∧ reply.2.2.setFlag = 1)
  := by
  have hmem : (buffer 2,
      (⟨some (.device Offset.workpara), flagWR, 32, some .writeParam⟩ : SParamItem))
      ∈ registeredItems := by
    rw [hcmd]
    decide
  have hwindow : windowCmd (buffer 2) ∧ ¬ comparedCmd (buffer 2) := by
    rw [hcmd]
    decide
  obtain ⟨-, herror, hr⟩ | ⟨-, -, hok, b, called, hcall, hreader⟩ :=
    process_window_cases hreg hmem rfl hwindow.1 rfl h
  · exact .inl ⟨herror, by rw [hr]⟩
  · right
    have hkept := callFunction_settings (fun f hf => by cases hf; decide) hcall
    have hraised : (r.storeWindow (buffer 2) Offset.workpara (buffer.shift (paraOff o)) 32).setFlag
        = 1 := by
      rw [Reader.storeWindow, if_neg (fun hsame => hwindow.2 hsame.1)]
    rw [hreader]
    exact ⟨hok, congrArg Settings.gDevice hkept, (congrArg Settings.setFlag hkept).trans hraised⟩

/-- What an acknowledged `0x0D` makes of the working parameters: the factory copy, with the MAC
address as it was. -/
theorem factoryReset_workpara (d : SDevice) {k : ℕ} (hk : k < sizeofWorkParam) :
  (factoryReset d).setWorkFlag.load (Offset.workpara + k)
    = if k < 26 then d.load (Offset.factoryWorkpara + k) else d.load (Offset.workpara + k)
  := by
  simp only [sizeofWorkParam] at hk
  rw [SDevice.setWorkFlag, Block.load_copy_outside
    (by simp only [Offset.flag, Offset.workpara]; omega)]
  unfold factoryReset
  dsimp only
  rw [Block.load_copy_outside (by simp only [Offset.readerID, Offset.workpara]; omega)]
  split
  · rw [Block.load_copy_outside (by simp only [Offset.readerMAC1, Offset.workpara]; omega),
      Block.load_copy_outside (by simp only [Offset.autoParam, Offset.workpara]; omega),
      Block.load_copy_inside (by simp only [sizeofWorkParam]; omega)
        (by simp only [Offset.workpara]; omega), Mem.shift_apply]
  · obtain ⟨j, rfl⟩ : ∃ j, k = 26 + j := Nat.exists_eq_add_of_le (by omega)
    have hplace : Offset.workpara + (26 + j) = Offset.readerMAC1 + j := by
      simp only [Offset.workpara, Offset.readerMAC1]
      omega
    rw [hplace, Block.load_copy_inside (by omega)
      (by simp only [Offset.readerMAC1, Offset.workpara]; omega), Mem.shift_apply]

/-! ### Requests and save steps -/

/-- A reader with what was written to it. -/
structure Memo where
  reader : Reader
  /-- the parameters of the latest acknowledged `WriteParam` -/
  last : Option Mem
  /-- the bytes of `g_device` that acknowledged write requests have written since the last save -/
  unsaved : ℕ → Bool

/-- A request, or a save step of the main loop. -/
inductive MemoEvent where
  | request (o : CmdOrigin) (buffer : Mem) (length : ℕ)
  | save

namespace Memo

/-- The state in which the main loop starts. -/
def start (e : Surroundings) : Memo :=
  { reader := powerOn e, last := none, unsaved := fun _ => false }

/-- The state after a request. -/
def answer (s : Memo) (o : CmdOrigin) (buffer : Mem) (reply : UInt8 × Mem × Reader) : Memo :=
  { reader := reply.2.2
    last :=
      if buffer 2 = 0x09 ∧ reply.1 = cmdoorCheckOk then some (buffer.shift (paraOff o)) else s.last
    unsaved := fun i => s.unsaved i || writtenBy o buffer s.reader reply i }

/-- One step.  `if(g_paramTable.setFlag) { SaveData(); g_paramTable.setFlag = 0; }` is one
step here. -/
def step (s : Memo) : MemoEvent → Option Memo
  | .request o buffer length =>
    (processParamTable o buffer length s.reader).map (s.answer o buffer)
  | .save =>
    if s.reader.setFlag ≠ 0 then
      some { s with
        reader.gDevice := (saveDataTo s.reader.flash s.reader.gDevice).1
        reader.flash := (saveDataTo s.reader.flash s.reader.gDevice).2
        reader.setFlag := 0
        unsaved := fun _ => false }
    else some s

/-- The bytes of `g_device` that `ReadParam` has to find in the flash: those written and not saved,
apart from `ReaderWorkStatus`, which it keeps, and the working parameters once they were given. -/
def marked (s : Memo) (i : ℕ) : Bool :=
  (s.unsaved i = true ∧ i ≠ Offset.readerWorkStatus)
    ∨ (s.last.isSome = true ∧ Offset.workpara ≤ i ∧ i < Offset.workpara + sizeofWorkParam)

/-- What another valid request stores over the working parameters that were given is what they were
given as, apart from the working mode. -/
structure KeepsGiven (s : Memo) (o : CmdOrigin) (buffer : Mem) : Prop where
  stores : buffer 2 ≠ 0x06 → buffer 2 ≠ 0x09 → buffer 2 ≠ 0x0D → ∀ p, s.last = some p →
    ∀ k < sizeofWorkParam, k ≠ 5 → ∀ v, Stores o buffer s.reader (Offset.workpara + k) v → v = p k
  /-- `0x0D` restores the factory copy, apart from the MAC address -/
  reset : buffer 2 = 0x0D → buffer 1 = emptyLen o → ∀ p, s.last = some p → ∀ k < 26, k ≠ 5 →
    s.reader.gDevice.load (Offset.factoryWorkpara + k) = p k

/-- What the requests of a run have to meet. -/
structure ReadsSaved (s : Memo) (o : CmdOrigin) (buffer : Mem) (length : ℕ) : Prop where
  /-- `ReadParam` is carried out only when nothing is left to save -/
  read : ReadParamRequest o buffer length s.reader.toGlobals → s.reader.setFlag = 0
  /-- a write raises `setFlag` or finds it raised, or finds in the flash what it stores -/
  write : StoresHeld o buffer length s.reader (fun i => s.marked i = true
      ∨ (Writes o buffer s.reader ∧ i ≠ Offset.readerWorkStatus))
    ∨ s.reader.setFlag ≠ 0 ∨ Raises o buffer s.reader
  keeps : Valid o buffer length s.reader.toGlobals → s.KeepsGiven o buffer

/-- The steps of a run meet what they have to. -/
def SavedBeforeRead (s : Memo) : MemoEvent → Prop
  | .request o buffer length => s.ReadsSaved o buffer length
  | .save => True

/-! ### What holds in every state -/

/-- `g_device` has the working parameters that were given, and the flash holds what was written
when `setFlag` is down. -/
structure Inv (s : Memo) : Prop where
  table : Registered s.reader.gParamTable
  version : MarksNoVersion s.unsaved
  held : s.reader.setFlag = 0 → Held s.reader s.marked
  given : ∀ p, s.last = some p → ∀ k < sizeofWorkParam, k ≠ 5 →
    s.reader.gDevice.load (Offset.workpara + k) = p k

theorem inv_start (e : Surroundings) :
  (start e).Inv
  := by
  refine ⟨registered_powerOn e, ?_, ?_, ?_⟩
  · intro i hi
    cases hi
  · intro _ i hi
    cases hi
  · intro p hp
    cases hp

theorem Inv.marked_version {s : Memo} (hinv : s.Inv) :
  MarksNoVersion s.marked
  := by
  intro i hi
  obtain hunsaved | hpara := of_decide_eq_true hi
  · exact hinv.version i hunsaved.1
  · simp only [Offset.workpara] at hpara
    omega

/-- The working parameters are marked once they were given. -/
theorem marked_workpara {s : Memo} {p : Mem} (hlast : s.last = some p) {k : ℕ}
    (hk : k < sizeofWorkParam) :
  s.marked (Offset.workpara + k) = true
  := by
  apply decide_eq_true
  right
  rw [hlast]
  exact ⟨rfl, Nat.le_add_right _ _, Nat.add_lt_add_left hk _⟩

/-- A request after which `setFlag` is down found it down, and stores what the flash holds. -/
theorem ReadsSaved.down {s : Memo} {o : CmdOrigin} {buffer : Mem} {length : ℕ}
    {reply : UInt8 × Mem × Reader} (hcond : s.ReadsSaved o buffer length)
    (hreg : Registered s.reader.gParamTable)
    (h : processParamTable o buffer length s.reader = some reply)
    (hdown : reply.2.2.setFlag = 0) :
  s.reader.setFlag = 0 ∧ StoresHeld o buffer length s.reader (fun i => s.marked i = true
    ∨ (Writes o buffer s.reader ∧ i ≠ Offset.readerWorkStatus))
  := by
  have hflag : reply.2.2.setFlag = _ := process_setFlag hreg h
  rw [hdown] at hflag
  split at hflag
  · cases hflag
  · rename_i hquiet
    refine ⟨hflag.symm, ?_⟩
    obtain hheld | hup | hraises := hcond.write
    · exact hheld
    · exact absurd hflag.symm hup
    · intro hvalid
      exact absurd ⟨hvalid, hraises⟩ hquiet

/-- What `0x06` leaves of the marked bytes. -/
theorem Inv.readParam {s : Memo} (hinv : s.Inv) {o : CmdOrigin} {buffer : Mem} {length : ℕ}
    {reply : UInt8 × Mem × Reader} (hcond : s.ReadsSaved o buffer length)
    (h : processParamTable o buffer length s.reader = some reply) (hcmd : buffer 2 = 0x06) {i : ℕ}
    (hi : s.marked i = true) :
  reply.2.2.gDevice.load i = s.reader.gDevice.load i
  := by
  obtain ⟨-, hsame⟩ | ⟨hread, -, -, -⟩ := readParam_spec hinv.table hcmd h
  · rw [hsame]
  · exact (hinv.held (hcond.read hread)).readParam hinv.table hinv.marked_version h hcmd i hi

/-- A request keeps the working parameters that were given. -/
theorem Inv.given_answer {s : Memo} (hinv : s.Inv) {o : CmdOrigin} {buffer : Mem} {length : ℕ}
    {reply : UInt8 × Mem × Reader} (hcond : s.ReadsSaved o buffer length)
    (h : processParamTable o buffer length s.reader = some reply)
    (hnot : buffer 2 = 0x09 → reply.1 ≠ cmdoorCheckOk) {p : Mem} (hlast : s.last = some p)
    {k : ℕ} (hk : k < sizeofWorkParam) (hmode : k ≠ 5) :
  reply.2.2.gDevice.load (Offset.workpara + k) = p k
  := by
  have hgiven := hinv.given p hlast k hk hmode
  by_cases hread : buffer 2 = 0x06
  · rw [hinv.readParam hcond h hread (marked_workpara hlast hk), hgiven]
  by_cases hwrite : buffer 2 = 0x09
  · obtain ⟨-, hsame⟩ | ⟨hok, -, -⟩ := writeParam_spec hinv.table hwrite h
    · rw [hsame, hgiven]
    · exact absurd hok (hnot hwrite)
  by_cases hreset : buffer 2 = 0x0D
  · obtain ⟨-, -, hr⟩ | ⟨item, outcome, hvalid, -⟩ := processParamTable_cases hinv.table h
    · rw [hr, hgiven]
    · obtain ⟨reply', hreply, -, ⟨-, -, hsame, -⟩ | ⟨hlen, -, hdevice, -⟩⟩ :=
        process_factory hinv.table hvalid hreset
      · obtain rfl := Option.some.inj (hreply.symm.trans h)
        rw [hsame, hgiven]
      · obtain rfl := Option.some.inj (hreply.symm.trans h)
        rw [hdevice, saveDataTo_eq, factoryReset_workpara _ hk]
        split
        · rename_i hfactory
          exact (hcond.keeps hvalid).reset hreset hlen p hlast k hfactory hmode
        · exact hgiven
  · simp only [sizeofWorkParam] at hk
    obtain ⟨hvalid, hstores⟩ | ⟨hsame, -⟩ := process_stores hinv.table h hread hreset
      (show Offset.workpara + k < 210 by simp only [Offset.workpara]; omega)
    · exact (hcond.keeps hvalid).stores hread hwrite hreset p hlast k hk hmode _ hstores
    · rw [hsame, hgiven]

/-- A request keeps the invariant. -/
theorem Inv.answer {s : Memo} (hinv : s.Inv) {o : CmdOrigin} {buffer : Mem} {length : ℕ}
    {reply : UInt8 × Mem × Reader} (hcond : s.ReadsSaved o buffer length)
    (h : processParamTable o buffer length s.reader = some reply) :
  (s.answer o buffer reply).Inv
  := by
  refine ⟨processParamTable_registered hinv.table h, ?_, ?_, ?_⟩
  · intro i hi
    obtain hunsaved | hnew := Bool.or_eq_true_iff.mp hi
    · exact hinv.version i hunsaved
    · exact writtenBy_version hinv.table h i hnew
  · intro hdown
    obtain ⟨hbefore, hstores⟩ := hcond.down hinv.table h hdown
    -- an acknowledged `WriteParam` has raised `setFlag`
    have hlast : (s.answer o buffer reply).last = s.last := by
      rw [Memo.answer, if_neg]
      rintro ⟨hwrite, hok⟩
      obtain ⟨herror, -⟩ | ⟨-, -, hraised⟩ := writeParam_spec hinv.table hwrite h
      · exact herror hok
      · dsimp only [Memo.answer] at hdown
        rw [hraised] at hdown
        cases hdown
    apply (hinv.held hbefore).request hinv.table hinv.marked_version _ _ hstores h
    · intro i hi
      obtain ⟨hunsaved, hmode⟩ | hpara := of_decide_eq_true hi
      · obtain hunsaved | hnew := Bool.or_eq_true_iff.mp hunsaved
        · exact .inl (decide_eq_true (.inl ⟨hunsaved, hmode⟩))
        · exact .inr hnew
      · rw [hlast] at hpara
        exact .inl (decide_eq_true (.inr hpara))
    · intro i hi hwatched
      obtain hmarked | hwrites := hwatched
      · exact .inl hmarked
      · obtain ⟨-, hmode⟩ | hpara := of_decide_eq_true hi
        · exact .inr ⟨hwrites, hmode⟩
        · rw [hlast] at hpara
          exact .inl (decide_eq_true (.inr hpara))
  · intro p hp k hk hmode
    dsimp only [Memo.answer] at hp ⊢
    split at hp
    · rename_i hwrite
      cases hp
      obtain ⟨herror, -⟩ | ⟨-, hcopied, -⟩ := writeParam_spec hinv.table hwrite.1 h
      · exact absurd hwrite.2 herror
      · rw [hcopied, Block.load_copy_inside hk]
        simp only [Offset.workpara, sizeofWorkParam] at hk ⊢
        omega
    · rename_i hnot
      exact hinv.given_answer hcond h (fun hwrite hok => hnot ⟨hwrite, hok⟩) hp hk hmode

theorem Inv.step {s s' : Memo} {e : MemoEvent} (hinv : s.Inv) (hcond : s.SavedBeforeRead e)
    (h : s.step e = some s') :
  s'.Inv
  := by
  cases e with
  | request o buffer length =>
    simp only [Memo.step, Option.map_eq_some_iff] at h
    obtain ⟨reply, hreply, rfl⟩ := h
    exact hinv.answer hcond hreply
  | save =>
    simp only [Memo.step] at h
    split at h
    · cases h
      refine ⟨hinv.table, ?_, ?_, ?_⟩
      · intro i hi
        cases hi
      · intro _ i _
        dsimp only
        rw [saveDataTo, stmflashReadDevice_saveDataOps]
      · intro p hp k hk hmode
        -- `SaveData` writes `Flag` in `g_device`, which stands before the working parameters
        dsimp only at hp ⊢
        rw [saveDataTo, SDevice.setWorkFlag, Block.load_copy_outside]
        · exact hinv.given p hp k hk hmode
        · right
          simp only [Offset.flag, Offset.workpara]
          omega
    · cases h
      exact hinv

end Memo

/-- Read-your-writes for the working parameters, in a run whose requests meet what they have to:
`ReadParam` answers with the working parameters that the latest acknowledged `WriteParam` gave and
with the current `ReaderWorkStatus`, and it leaves every byte as it is that an acknowledged request
has written and that is not saved yet. -/
theorem reads_your_writes (e : Surroundings) (es : List MemoEvent) (s : Memo) (o : CmdOrigin)
    (buffer buffer' : Mem) (length : ℕ) (flag : UInt8) (r' : Reader)
    (hcond : Along Memo.step Memo.SavedBeforeRead (es ++ [.request o buffer length])
      (Memo.start e))
    (hrun : run Memo.step es (Memo.start e) = some s)
    (hcmd : buffer 2 = 0x06)
    (h : processParamTable o buffer length s.reader = some (flag, buffer', r')) :
  (flag = cmdoorCheckOk → ∀ p, s.last = some p → buffer' 1 = emptyLen o + 32
      ∧ (∀ k < sizeofWorkParam, k ≠ 5 → buffer' (paraOff o + k) = p k)
      ∧ buffer' (paraOff o + 5) = s.reader.gDevice.load Offset.readerWorkStatus)
    ∧ ∀ i, s.unsaved i = true → r'.gDevice.load i = s.reader.gDevice.load i
  := by
  obtain ⟨hbefore, hread, -⟩ := (Along.append_iff hrun).mp hcond
  have hinv : s.Inv :=
    Along.invariant (fun _ _ _ => Memo.Inv.step) (Memo.inv_start e) hbefore hrun
  constructor
  · intro hok p hlast
    obtain ⟨herror, -⟩ | ⟨hrequest, hlen, hpara, -⟩ := readParam_spec hinv.table hcmd h
    · exact absurd hok herror
    have hheld := hinv.held (hread.read hrequest)
    have hanswer : ∀ k < sizeofWorkParam,
        buffer' (paraOff o + k) = s.reader.gDevice.load (Offset.workpara + k) := by
      intro k hk
      refine (hpara k hk).trans ?_
      rw [SDevice.setVersion, Block.load_copy_outside]
      · exact hheld _ (Memo.marked_workpara hlast hk)
      · simp only [Offset.getReaderVersion, Offset.workpara]
        omega
    refine ⟨hlen, ?_, hanswer 5 (by decide)⟩
    intro k hk hmode
    rw [hanswer k hk, hinv.given p hlast k hk hmode]
  · intro i hi
    by_cases hmode : i = Offset.readerWorkStatus
    · rw [hmode]
      exact readParam_readerWorkStatus hinv.table hcmd h
    · exact hinv.readParam hread h hcmd (decide_eq_true (.inl ⟨hi, hmode⟩))

/-! ### Examples -/

/-- The request `0x0F` for command mode, and a request `0x09` with an output power of 26. -/
def commandModeThenWrite : List MemoEvent :=
  [.request .sourceFrom232 commandModeRequest 5,
    .request .sourceFromUDP (writeParamRequest ((defaultWorkpara.set 1 26).set 5 workCmd)) 36]

/-- The request `0x06`, not from RS485. -/
def readParamRequest : Mem := Mem.ofList [0x40, 0x02, 0x06, 0xB8] fun _ => 0

/-- The two requests meet what they have to, as long as no working parameters were given. -/
theorem commandModeThenWrite_along (e : Surroundings) :
  Along Memo.step Memo.SavedBeforeRead commandModeThenWrite (Memo.start e)
  := by
  have hmem : ((0x09 : UInt8), (⟨some (.device Offset.workpara), flagWR, 32,
      some .writeParam⟩ : SParamItem)) ∈ registeredItems := by decide
  refine ⟨⟨?_, .inl ?_, ?_⟩, ?_⟩
  · intro hread
    exact absurd hread.cmd (by decide)
  · -- `ReaderWorkStatus` is all that `0x0F` stores
    intro _ _ _ i v hstores hwatch
    exfalso
    have hmode : i = Offset.readerWorkStatus := hstores.workType rfl
    obtain hmarked | ⟨-, hother⟩ := hwatch
    · obtain ⟨hunsaved, -⟩ | ⟨hlast, -⟩ := of_decide_eq_true hmarked
      · cases hunsaved
      · cases hlast
    · exact hother hmode
  · intro _
    refine ⟨?_, ?_⟩
    · intro _ _ _ p hp
      cases hp
    · intro _ _ p hp
      cases hp
  · split
    · trivial
    · apply Along.singleton
      refine ⟨?_, .inr (.inr ?_), ?_⟩
      · intro hread
        exact absurd hread.cmd (by decide)
      · apply (raises_window_iff hmem rfl (by decide) rfl).mpr
        exact ⟨⟨by decide, by decide⟩, fun hsame => absurd hsame.1 (by decide)⟩
      · intro _
        refine ⟨?_, ?_⟩
        · intro _ hother
          exact absurd rfl hother
        · intro hreset
          exact absurd hreset (by decide)

/-- The power written by `WriteParam` is the one that `ReadParam` answers after a save
step. -/
theorem power_read_back_after_save :
  ∃ s p buffer' r', run Memo.step (commandModeThenWrite ++ [.save]) (Memo.start .blank) = some s
    ∧ processParamTable .sourceFrom232 readParamRequest 4 s.reader
      = some (cmdoorCheckOk, buffer', r')
    ∧ s.last = some p ∧ p 1 = 26
    ∧ buffer' (paraOff .sourceFrom232 + 1) = p 1
    ∧ buffer' (paraOff .sourceFrom232 + 5) = s.reader.gDevice.load Offset.readerWorkStatus
  := by
  have heval : ((run Memo.step (commandModeThenWrite ++ [.save]) (Memo.start .blank)).bind
      fun s => s.last.bind fun p =>
        (processParamTable .sourceFrom232 readParamRequest 4 s.reader).map
          fun reply => (s.reader.setFlag, p 1, reply.1)) = some (0, 26, cmdoorCheckOk) := by
    rw [Memo.start, powerOn_eq]
    decide
  obtain ⟨s, hrun, hreply⟩ := Option.bind_eq_some_iff.mp heval
  obtain ⟨p, hlast, hreply⟩ := Option.bind_eq_some_iff.mp hreply
  obtain ⟨⟨flag, buffer', r'⟩, hp, heq⟩ := Option.map_eq_some_iff.mp hreply
  simp only [Prod.mk.injEq] at heq
  obtain ⟨hdown, hgiven, rfl⟩ := heq
  obtain ⟨s₁, hrun₁⟩ := exists_of_append hrun
  have hcond : Along Memo.step Memo.SavedBeforeRead
      (commandModeThenWrite ++ [.save] ++ [.request .sourceFrom232 readParamRequest 4])
      (Memo.start .blank) := by
    rw [Along.append_iff hrun, Along.append_iff hrun₁]
    refine ⟨⟨commandModeThenWrite_along _, Along.singleton trivial⟩, Along.singleton ?_⟩
    refine ⟨fun _ => hdown, .inl ?_, fun _ => ⟨?_, ?_⟩⟩
    · intro _ hother
      exact absurd rfl hother
    · intro hother
      exact absurd rfl hother
    · intro hreset
      exact absurd hreset (by decide)
  have hread := (reads_your_writes .blank _ s _ _ _ _ _ _ hcond hrun rfl hp).1 rfl p hlast
  obtain ⟨-, hgave, hmode⟩ := hread
  exact ⟨s, p, buffer', r', hrun, hp, hlast, hgiven, hgave 1 (by decide) (by decide), hmode⟩

/-- Without the save step, `ReadParam` answers with the old power, and the new one is gone. -/
theorem power_discarded_by_read :
  ∃ s p buffer' r', run Memo.step commandModeThenWrite (Memo.start .blank) = some s
    ∧ s.reader.gDevice.load Offset.readerWorkStatus = workCmd
    ∧ s.last = some p ∧ p 1 = 26
    ∧ s.unsaved Offset.outputPower = true
    ∧ s.reader.gDevice.load Offset.outputPower = 26
    ∧ processParamTable .sourceFrom232 readParamRequest 4 s.reader
      = some (cmdoorCheckOk, buffer', r')
    ∧ buffer' (paraOff .sourceFrom232 + 1) = 25
    ∧ r'.gDevice.load Offset.outputPower = 25
  := by
  have heval : ((run Memo.step commandModeThenWrite (Memo.start .blank)).bind fun s =>
      s.last.bind fun p =>
        (processParamTable .sourceFrom232 readParamRequest 4 s.reader).map fun reply =>
          ([s.reader.gDevice.load Offset.readerWorkStatus, p 1,
            s.reader.gDevice.load Offset.outputPower, reply.1,
            reply.2.1 (paraOff .sourceFrom232 + 1), reply.2.2.gDevice.load Offset.outputPower],
            s.unsaved Offset.outputPower))
      = some ([workCmd, 26, 26, cmdoorCheckOk, 25, 25], true) := by
    rw [Memo.start, powerOn_eq]
    decide +kernel
  obtain ⟨s, hrun, hreply⟩ := Option.bind_eq_some_iff.mp heval
  obtain ⟨p, hlast, hreply⟩ := Option.bind_eq_some_iff.mp hreply
  obtain ⟨⟨flag, buffer', r'⟩, hp, heq⟩ := Option.map_eq_some_iff.mp hreply
  simp only [Prod.mk.injEq, List.cons.injEq] at heq
  obtain ⟨⟨hmode, hgiven, hpower, rfl, hanswer, hgone, -⟩, hunsaved⟩ := heq
  exact ⟨s, p, buffer', r', hrun, hmode, hlast, hgiven, hunsaved, hpower, hp, hanswer, hgone⟩

end UhfReader
