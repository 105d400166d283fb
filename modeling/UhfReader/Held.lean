import UhfReader.Storage
import UhfReader.Stores

/-!
# What the flash holds of the record

`Held r mark` says that the flash holds the marked bytes of `g_device`.  A request keeps this, and
the bytes that it writes are held as well, if what it stores is in the flash already
(`Held.request`).  A request that finds other bytes there has to raise `setFlag`, or to find it
raised, so that the main loop saves what it stores.
-/

open Memory

namespace UhfReader

variable {o : CmdOrigin} {buffer : Mem} {length : ℕ} {r : Reader} {reply : UInt8 × Mem × Reader}
  {mark : ℕ → Bool}

/-- The bytes of `g_device` that a request has written: those that its parameters are for, and those
that it has changed, when it is a write request and acknowledged. -/
def writtenBy (o : CmdOrigin) (buffer : Mem) (r : Reader) (reply : UInt8 × Mem × Reader) (i : ℕ) :
    Bool :=
  reply.1 = cmdoorCheckOk ∧ buffer 2 ∈ writeCmds
    ∧ (r.toGlobals.given o buffer i = true ∨ changes r reply.2.2 i = true)

/-- The flash holds the marked bytes of `g_device`. -/
def Held (r : Reader) (mark : ℕ → Bool) : Prop :=
  ∀ i, mark i = true → (stmflashReadDevice r.flash).load i = r.gDevice.load i

/-- A write request that the R2000 does not refuse. -/
def Writes (o : CmdOrigin) (buffer : Mem) (r : Reader) : Prop :=
  buffer 2 ∈ writeCmds
    ∧ ¬ (buffer 2 = 0x04 ∧ PowerRefused (buffer.shift (paraOff o)) r.toGlobals)

/-- What a valid request stores in the bytes that are watched is in the flash already.  `0x06`
stores what the flash holds, and `0x0D` saves what it stores. -/
def StoresHeld (o : CmdOrigin) (buffer : Mem) (length : ℕ) (r : Reader) (watch : ℕ → Prop) :
    Prop :=
  Valid o buffer length r.toGlobals → buffer 2 ≠ 0x06 → buffer 2 ≠ 0x0D →
    ∀ i v, Stores o buffer r i v → watch i → (stmflashReadDevice r.flash).load i = v

/-- The bytes that are written are not those of the software version, which `0x06` replaces. -/
def MarksNoVersion (mark : ℕ → Bool) : Prop := ∀ i, mark i = true → i ≠ 6 ∧ i ≠ 7

/-! ### Requests that replace the record -/

/-- What an acknowledged `0x0D` leaves of the bytes of the version. -/
theorem factoryReset_version (d : SDevice) {i : ℕ} (hi : i = 6 ∨ i = 7) :
  (factoryReset d).setWorkFlag.load i = d.load i
  := by
  have hlow : i < 61 := by omega
  rw [SDevice.setWorkFlag, Block.load_copy_outside (by simp only [Offset.flag]; omega)]
  unfold factoryReset
  dsimp only
  rw [Block.load_copy_outside, Block.load_copy_outside, Block.load_copy_outside,
    Block.load_copy_outside]
  all_goals
    left
    simp only [Offset.workpara, Offset.autoParam, Offset.readerMAC1, Offset.readerID]
    omega

/-- The bytes that a write request is for are those that its entry covers. -/
theorem given_eq_covers (hreg : Registered r.gParamTable) {item : SParamItem} (i : ℕ)
    (hmem : (buffer 2, item) ∈ registeredItems) (hcmd : ¬ IsTagFilterCmd (buffer 2)) :
  r.toGlobals.given o buffer i = item.covers i
  := by
  have hmatch := hreg.entry hmem rfl
  have hfilter : buffer 2 ≠ 0x15 := fun h => hcmd (.inl h)
  rw [Globals.given, SParamItem.deviceOff, hmatch.value, hmatch.length hcmd, if_neg hfilter]
  unfold SParamItem.covers
  cases item.value with
  | none => rfl
  | some value => cases value <;> rfl

/-- No write request writes the bytes of the version. -/
theorem writtenBy_version (hreg : Registered r.gParamTable)
    (h : processParamTable o buffer length r = some reply) :
  MarksNoVersion (writtenBy o buffer r reply)
  := by
  intro i hi
  rw [writtenBy, decide_eq_true_iff, changes_iff] at hi
  obtain ⟨hok, hwrite, hbyte⟩ := hi
  rw [Ne, Ne, ← not_or]
  intro hversion
  obtain ⟨-, herror, -⟩ | ⟨item, outcome, hvalid, -, hmem, hmatch, -⟩ :=
    processParamTable_cases hreg h
  · exact herror hok
  by_cases hfilter : buffer 2 = 0x15
  · obtain ⟨hdevice, -⟩ := tagFilter_stored hreg h hfilter hok
    obtain hgiven | hchanged := hbyte
    · obtain rfl : item = ⟨some (.device Offset.tagfilter), flagWR, 35, some .setTagFilter⟩ := by
        rw [hfilter] at hmem
        exact Registered.item_unique hmem (by decide)
      rw [Globals.given, SParamItem.deviceOff, hmatch.value, Option.any_some,
        decide_eq_true_iff] at hgiven
      simp only [Offset.tagfilter] at hgiven
      omega
    · apply hchanged
      rw [hdevice]
      apply Block.load_copy_outside
      simp only [Offset.tagfilter]
      omega
  by_cases hreset : buffer 2 = 0x0D
  · obtain hgiven | hchanged := hbyte
    · obtain rfl : item = ⟨none, flagWR, 4, some .readReaderPara⟩ := by
        rw [hreset] at hmem
        exact Registered.item_unique hmem (by decide)
      rw [Globals.given, SParamItem.deviceOff, hmatch.value, Option.any_none] at hgiven
      cases hgiven
    · obtain ⟨reply', hrun, -, ⟨-, -, hsame, -⟩ | ⟨-, -, hdevice, -⟩⟩ :=
        process_factory hreg hvalid hreset
      · obtain rfl := Option.some.inj (hrun.symm.trans h)
        exact hchanged (by rw [hsame])
      · obtain rfl := Option.some.inj (hrun.symm.trans h)
        apply hchanged
        rw [hdevice, saveDataTo_eq]
        exact factoryReset_version _ hversion
  · have hall : ∀ e ∈ registeredItems, e.1 ∈ writeCmds → e.1 ≠ 0x0D → ∀ i, i = 6 ∨ i = 7 →
        e.2.touches i = false ∧ e.2.covers i = false := by
      intro e he hcmd hne i hi
      have hsix : ∀ e ∈ registeredItems, e.1 ∈ writeCmds → e.1 ≠ 0x0D →
          (e.2.touches 6 = false ∧ e.2.covers 6 = false)
            ∧ e.2.touches 7 = false ∧ e.2.covers 7 = false := by decide
      obtain rfl | rfl := hi
      · exact (hsix e he hcmd hne).1
      · exact (hsix e he hcmd hne).2
    have htag : ¬ IsTagFilterCmd (buffer 2) := by
      have hread : (0x16 : UInt8) ∉ writeCmds := by decide
      rintro (heq | heq)
      · exact hfilter heq
      · exact hread (heq ▸ hwrite)
    obtain hgiven | hchanged := hbyte
    · rw [given_eq_covers hreg i hmem htag, (hall _ hmem hwrite hreset i hversion).2] at hgiven
      cases hgiven
    · apply hchanged
      apply processParamTable_untouched hreg h hfilter
      intro item' hmem'
      exact (hall _ hmem' hwrite hreset i hversion).1

/-- `0x06` leaves the marked bytes held. -/
theorem Held.readParam (hheld : Held r mark) (hreg : Registered r.gParamTable)
    (hversion : MarksNoVersion mark) (h : processParamTable o buffer length r = some reply)
    (hcmd : buffer 2 = 0x06) :
  ∀ i, mark i = true → reply.2.2.gDevice.load i = r.gDevice.load i
  := by
  intro i hi
  obtain ⟨-, hsame⟩ | ⟨-, -, -, hdevice⟩ := readParam_spec hreg hcmd h
  · rw [hsame]
  · obtain ⟨hsix, hseven⟩ := hversion i hi
    rw [hdevice, Block.load_put (by decide)]
    split
    · rename_i hmode
      rw [hmode]
    · rw [SDevice.setVersion, Block.load_copy_outside]
      · exact hheld i hi
      · simp only [Offset.getReaderVersion]
        omega

/-- A request keeps the marked bytes held, and those that it writes, if what it stores there is in
the flash. -/
theorem Held.request {mark' : ℕ → Bool} {watch : ℕ → Prop} (hheld : Held r mark)
    (hreg : Registered r.gParamTable) (hversion : MarksNoVersion mark)
    (hnew : ∀ i, mark' i = true → mark i = true ∨ writtenBy o buffer r reply i = true)
    (hwatch : ∀ i, mark' i = true → mark i = true ∨ Writes o buffer r → watch i)
    (hstores : StoresHeld o buffer length r watch)
    (h : processParamTable o buffer length r = some reply) :
  Held reply.2.2 mark'
  := by
  intro i hi
  have hwritten := hnew i hi
  rw [writtenBy, decide_eq_true_iff] at hwritten
  by_cases hload : buffer 2 = 0x06
  · have hread : (0x06 : UInt8) ∉ writeCmds := by decide
    obtain hmark | ⟨-, hwrite, -⟩ := hwritten
    · rw [hheld.readParam hreg hversion h hload i hmark,
        processParamTable_flash hreg h (by rw [hload]; decide)]
      exact hheld i hmark
    · exact absurd (hload ▸ hwrite) hread
  by_cases hreset : buffer 2 = 0x0D
  · obtain ⟨-, herror, hr⟩ | ⟨item, outcome, hvalid, -⟩ := processParamTable_cases hreg h
    · rw [hr]
      exact hheld i (hwritten.resolve_right fun hboth => herror hboth.1)
    · obtain ⟨reply', hrun, -, ⟨-, herror, hsame, hflash⟩ | ⟨-, -, hdevice, hflash⟩⟩ :=
        process_factory hreg hvalid hreset
      · obtain rfl := Option.some.inj (hrun.symm.trans h)
        rw [hsame, hflash]
        exact hheld i (hwritten.resolve_right fun hboth => herror hboth.1)
      · -- `0x0D` saves what it restores
        obtain rfl := Option.some.inj (hrun.symm.trans h)
        rw [hdevice, hflash, saveDataTo_eq, stmflashReadDevice_storedImage]
  · rw [processParamTable_flash hreg h hreset]
    by_cases hsize : i < 210
    · obtain ⟨hvalid, hstored⟩ | ⟨hsame, hgiven⟩ := process_stores hreg h hload hreset hsize
      · apply hstores hvalid hload hreset i _ hstored
        apply hwatch i hi
        obtain hmark | ⟨hok, hwrite, -⟩ := hwritten
        · exact .inl hmark
        · right
          refine ⟨hwrite, ?_⟩
          rintro ⟨hpower, hrefused⟩
          obtain ⟨hinvalid, -⟩ | ⟨-, -, ⟨hconfirmed, -⟩ | ⟨-, herror, -⟩⟩ :=
            process_power hreg hpower h
          · exact hinvalid hvalid
          · exact hconfirmed.not_refused hrefused
          · exact herror hok
      · rw [hsame]
        obtain hmark | ⟨hok, hwrite, hgiven' | hchanged⟩ := hwritten
        · exact hheld i hmark
        · rw [hgiven hok hwrite] at hgiven'
          cases hgiven'
        · rw [changes_iff] at hchanged
          exact absurd hsame hchanged
    · rw [Block.load_of_ge (Nat.not_lt.mp hsize), Block.load_of_ge (Nat.not_lt.mp hsize)]

end UhfReader
