import UhfReader.Handlers.Tags
import UhfReader.Lib.Stateful

/-!
# What the handlers leave alone

No handler changes the parameter table, and the handlers that talk to tags do not change
the settings at all.  The handlers that do are listed in `settingHandlers`; all of them but
`ReadReaderPara` leave the flash alone.

The handlers for tags are sequences of commands to the R2000, delays and updates of the globals
that `Touches` describes.  Whatever can be said of these pieces and of their sequences, in the
sense of `Follows`, is said once for all of these handlers in `traced_run`.
-/

open Memory Stateful

namespace UhfReader

/-! ### The driver -/

theorem keeps_encodeR2000From_undriven {before cmd : UInt8} (p : Mem) (hcmd : cmd ≠ 0x78) :
  Keeps Globals.undriven (encodeR2000From before cmd p)
  := by
  intro g flag g' h
  exact encodeR2000From_undriven hcmd h

theorem keeps_delayMs_undriven :
  Keeps Globals.undriven delayMs
  := by
  intro g a g' h
  exact delayMs_undriven h

/-- The code outside the interrupts leaves `CardPos` as it is, or sets it to `0` or `1`. -/
def Foreground (g g' : Globals) : Prop := g'.cardPos = g.cardPos ∨ g'.cardPos ≤ 1

instance (g g' : Globals) : Decidable (Foreground g g') := inferInstanceAs (Decidable (_ ∨ _))

/-- What the handlers for tags do between the commands to the R2000. -/
structure Touches (g g' : Globals) : Prop where
  settings : g'.settings = g.settings
  traffic : g'.traffic = g.traffic
  pos : Foreground g g'

theorem nextPage_touches (g : Globals) :
  Touches g (nextPage g).2
  := by
  unfold nextPage
  split
  · exact ⟨rfl, rfl, .inl rfl⟩
  · exact ⟨rfl, rfl, .inl rfl⟩

/-- A handler that updates the globals and leaves the parameters as they are. -/
theorem traced_update {goes : Globals → Globals → Prop} {hangs : Globals → Prop}
    (t : Tracing goes hangs) {u : Globals → Globals} (p : Mem) (h : ∀ g, goes g (u g)) :
  Traced goes hangs (do modify u; return p : M Mem)
  := by
  apply t.bind (Traced.modify h)
  intro _
  apply t.pure

/-- A machine that can do what the handlers for tags are made of.  The command `0x78` is the one
that changes a setting. -/
structure Follows (goes : Globals → Globals → Prop) (hangs : Globals → Prop) : Prop
    extends Tracing goes hangs where
  touch : ∀ {g g'}, Touches g g' → goes g g'
  send : ∀ (before : UInt8) {cmd : UInt8} (p : Mem), cmd ≠ 0x78 →
    Traced goes hangs (encodeR2000From before cmd p)
  delay : Traced goes hangs delayMs

section

variable {goes : Globals → Globals → Prop} {hangs : Globals → Prop} (f : Follows goes hangs)

include f

theorem Follows.modify {u : Globals → Globals} (h : ∀ g, Touches g (u g)) :
  Traced goes hangs (modify u : M Unit)
  := Traced.modify fun g => f.touch (h g)

theorem Follows.modifyGet {α : Type} {u : Globals → α × Globals} (h : ∀ g, Touches g (u g).2) :
  Traced goes hangs (modifyGet u : M α)
  := Traced.modifyGet fun g => f.touch (h g)

/-! ### Replies -/

theorem traced_reply (p : Mem) (n : UInt8) :
  Traced goes hangs (reply p n)
  := by
  apply f.bind
  · apply f.modify
    intro g
    exact ⟨rfl, rfl, .inl rfl⟩
  · intro _
    exact f.pure p

theorem traced_fail (p : Mem) :
  Traced goes hangs (fail p)
  := traced_reply f p 0xFF

theorem traced_beep_then {m : M Mem} (h : Traced goes hangs m) :
  Traced goes hangs (do beep; m)
  := by
  apply f.bind
  · apply f.modify
    intro g
    exact ⟨rfl, rfl, .inl rfl⟩
  · intro _
    exact h

theorem traced_replyListing (l : Listing) :
  Traced goes hangs (replyListing l)
  := by
  apply f.bind
  · apply f.modify
    intro g
    exact ⟨rfl, rfl, .inl rfl⟩
  · intro _
    exact f.pure l.p

/-! ### Handlers for tags -/

/-- The first page of a listing is sent. -/
theorem traced_firstPage {k : Globals → M Mem} (h : ∀ g, Traced goes hangs (k g)) :
  Traced goes hangs (do modify firstPage; let g ← get; k g)
  := by
  apply f.bind
  · apply f.modify
    intro g
    exact ⟨rfl, rfl, .inl rfl⟩
  · intro _
    apply f.bind f.get
    exact h

theorem traced_inventory6B (p : Mem) {onTags : M Mem} (h : Traced goes hangs onTags) :
  Traced goes hangs (inventory6B p onTags)
  := by
  apply f.bind
  · apply f.modify
    intro g
    exact ⟨rfl, rfl, .inr (Nat.zero_le 1)⟩
  · intro _
    apply f.bind (f.send 0 p (by decide))
    intro flagReturn
    exact Traced.ite h (traced_fail f p)

theorem traced_command6B (cmd : UInt8) (hcmd : cmd ≠ 0x78) (p : Mem)
    {onFrame onShort : SR2000TransData → M Mem}
    (hframe : ∀ r, Traced goes hangs (onFrame r))
    (hshort : ∀ r, Traced goes hangs (onShort r)) :
  Traced goes hangs (command6B cmd p onFrame onShort)
  := by
  apply f.bind (f.send 0 p hcmd)
  intro flagReturn
  apply Traced.ite _ (traced_fail f p)
  apply f.bind f.get
  intro g
  exact Traced.ite (traced_beep_then f (hframe _)) (hshort _)

theorem traced_inventory6C (p : Mem) (row : Globals → Listing → ℕ → Listing) :
  Traced goes hangs (inventory6C p row)
  := by
  apply f.bind
  · apply f.modify
    intro g
    exact ⟨rfl, rfl, .inr (Nat.zero_le 1)⟩
  · intro _
    apply f.bind f.get
    intro g
    apply f.bind (f.send 0 _ (by decide))
    intro flagReturn
    apply f.bind f.get
    intro g'
    apply Traced.ite _ (traced_fail f _)
    apply f.bind
    · apply f.modify
      intro g
      exact ⟨rfl, rfl, .inl rfl⟩
    · intro _
      apply f.bind f.get
      intro g''
      apply Traced.ite _ (traced_fail f _)
      apply f.bind f.delay
      intro _
      apply f.bind
      · apply f.modify
        intro g
        exact ⟨rfl, rfl, .inl rfl⟩
      · intro _
        apply f.bind (f.send 0 _ (by decide))
        intro flagReturn'
        apply Traced.ite _ (f.pure _)
        exact traced_firstPage f fun g => traced_replyListing f _

theorem traced_nextRows (p : Mem) (row : Globals → ℕ → Listing → ℕ → Listing) :
  Traced goes hangs (nextRows p row)
  := by
  apply f.bind f.get
  intro g
  apply f.bind (f.modifyGet nextPage_touches)
  intro tmplen
  apply f.bind f.get
  intro g'
  exact traced_replyListing f _

theorem traced_selectTag (p : Mem) {access : M Mem} (h : Traced goes hangs access) :
  Traced goes hangs (selectTag p access)
  := by
  apply f.bind (f.send 0 p (by decide))
  intro flagReturn
  apply f.bind f.get
  intro g
  apply Traced.ite _ (traced_fail f p)
  apply f.bind f.delay
  intro _
  exact h

theorem traced_confirmAccess (flagReturn : UInt8) (p : Mem) :
  Traced goes hangs (confirmAccess flagReturn p)
  := by
  apply f.bind f.get
  intro g
  exact Traced.ite (traced_beep_then f (traced_reply f p 0)) (traced_fail f p)

/-- A command to the R2000 whose answer is confirmed. -/
theorem traced_confirmed {before cmd : UInt8} (hcmd : cmd ≠ 0x78) (q p : Mem) :
  Traced goes hangs
    (do let flagReturn ← encodeR2000From before cmd q; confirmAccess flagReturn p)
  := by
  apply f.bind (f.send _ q hcmd)
  intro flagReturn
  exact traced_confirmAccess f flagReturn p

theorem traced_readR2000vertion (p : Mem) :
  Traced goes hangs (readR2000vertion p)
  := by
  apply f.bind (f.send 0 p (by decide))
  intro flagReturn
  apply f.bind f.get
  intro g
  exact Traced.ite (traced_reply f _ 2) (traced_fail f p)

theorem traced_epc1g2Accessmatch (p : Mem) :
  Traced goes hangs (epc1g2Accessmatch p)
  := by
  apply f.bind (f.send 0 p (by decide))
  intro flagReturn
  apply f.bind f.get
  intro g
  exact Traced.ite (traced_beep_then f (traced_reply f p 0)) (traced_fail f p)

theorem traced_epc1g2ListTagID (p : Mem) :
  Traced goes hangs (epc1g2ListTagID p)
  := by
  apply f.bind
  · apply f.modify
    intro g
    exact ⟨rfl, rfl, .inr (Nat.zero_le 1)⟩
  · intro _
    apply f.bind (f.send 0 p (by decide))
    intro flagReturn
    apply f.bind f.get
    intro g
    apply Traced.ite _ (traced_fail f p)
    apply f.bind f.delay
    intro _
    apply f.bind (f.send 0 p (by decide))
    intro flagReturn'
    apply f.bind f.get
    intro g'
    exact Traced.ite (traced_beep_then f (traced_reply f _ _)) (traced_fail f p)

theorem traced_epc1g2ReadWordBlock (p : Mem) :
  Traced goes hangs (epc1g2ReadWordBlock p)
  := by
  apply traced_selectTag f
  apply f.bind (f.send 0 p (by decide))
  intro flagReturn
  apply f.bind f.get
  intro g
  exact Traced.ite (traced_beep_then f (traced_reply f _ _)) (traced_fail f p)

theorem traced_epc1g2WriteEPC (p : Mem) :
  Traced goes hangs (epc1g2WriteEPC p)
  := by
  apply f.bind (f.send 0 p (by decide))
  intro flagReturn
  apply f.bind f.get
  intro g
  apply Traced.ite
  · apply f.bind (f.send 0 _ (by decide))
    intro flagReturn'
    apply f.bind f.get
    intro g'
    exact Traced.ite (traced_confirmed f (by decide) _ _) (traced_fail f _)
  · exact Traced.ite (traced_confirmed f (by decide) _ _) (traced_fail f p)

theorem traced_readEPCAndData (p : Mem) :
  Traced goes hangs (readEPCAndData p)
  := by
  apply f.bind (f.send 0 p (by decide))
  intro flagReturn
  apply f.bind f.get
  intro g
  apply Traced.ite _ (traced_fail f p)
  apply f.bind (f.send 0 p (by decide))
  intro flagReturn'
  apply f.bind f.get
  intro g'
  exact Traced.ite (traced_beep_then f (traced_reply f _ _)) (traced_fail f p)

theorem traced_detectTagNum (p : Mem) :
  Traced goes hangs (detectTagNum p)
  := by
  apply f.bind
  · apply f.modify
    intro g
    exact ⟨rfl, rfl, .inl rfl⟩
  · intro _
    apply traced_inventory6B f
    apply f.bind f.get
    intro g
    exact traced_reply f _ 1

theorem traced_readLabelID (p : Mem) :
  Traced goes hangs (readLabelID p)
  := by
  apply f.bind
  · apply f.modify
    intro g
    exact ⟨rfl, rfl, .inl rfl⟩
  · intro _
    apply traced_inventory6B f
    exact traced_firstPage f fun g => traced_replyListing f _

theorem traced_listIDReport (p : Mem) :
  Traced goes hangs (listIDReport p)
  := by
  apply f.bind (f.modifyGet nextPage_touches)
  intro tmplen
  apply f.bind f.get
  intro g
  exact traced_replyListing f _

theorem traced_listSelectedID (p : Mem) :
  Traced goes hangs (listSelectedID p)
  := by
  apply f.bind
  · apply f.modify
    intro g
    exact ⟨rfl, rfl, .inl rfl⟩
  · intro _
    apply traced_inventory6B f
    exact traced_firstPage f fun g => traced_replyListing f _

theorem traced_readByteBlock (p : Mem) :
  Traced goes hangs (readByteBlock p)
  := by
  apply traced_command6B f _ (by decide)
  · intro r
    exact traced_reply f _ _
  · intro r
    exact traced_fail f p

theorem traced_writeByteBlock (p : Mem) :
  Traced goes hangs (writeByteBlock p)
  := by
  apply traced_command6B f _ (by decide)
  · intro r
    exact traced_reply f _ _
  · intro r
    exact traced_fail f p

theorem traced_writeProtect (p : Mem) :
  Traced goes hangs (writeProtect p)
  := by
  apply traced_command6B f _ (by decide)
  · intro r
    exact traced_reply f p 0
  · intro r
    exact traced_fail f p

theorem traced_readWriteProtect (p : Mem) :
  Traced goes hangs (readWriteProtect p)
  := by
  apply traced_command6B f _ (by decide)
  · intro r
    exact traced_reply f _ 1
  · intro r
    exact traced_reply f _ 1

/-! ### Handlers for the parameters -/

theorem traced_setAntenna (p : Mem) :
  Traced goes hangs (setAntenna p)
  := by
  apply f.bind f.delay
  intro _
  apply f.bind (f.send 0 p (by decide))
  intro flagReturn
  exact Traced.ite (traced_reply f p 0) (traced_fail f p)

/-- The handlers that change the settings. -/
def settingHandlers : List Handler :=
  [.setBaudRate, .setOutputPower, .setFrequency, .setFrequency1, .readParam, .readReaderPara,
    .setReaderWorkType, .getReaderTime, .getReaderRevStatus, .getTagRecord]

/-- The handlers that are not listed are made of the pieces of `Follows`. -/
theorem traced_run (before : UInt8) (p : Mem) {h : Handler} (hnot : h ∉ settingHandlers) :
  Traced goes hangs (h.run before p)
  := by
  cases h
  case setBaudRate | setOutputPower | setFrequency | setFrequency1 | readParam | readReaderPara
      | setReaderWorkType | getReaderTime | getReaderRevStatus | getTagRecord =>
    exact absurd (by decide) hnot
  case setRelay | reboot | setReaderTime =>
    apply traced_update f.toTracing
    intro g
    exact f.touch ⟨rfl, rfl, .inl rfl⟩
  case clearTagListMem =>
    apply traced_update f.toTracing
    intro g
    exact f.touch ⟨rfl, rfl, .inr (Nat.zero_le 1)⟩
  case setAntenna => exact traced_setAntenna f p
  case readR2000vertion => exact traced_readR2000vertion f p
  case epc1g2ListRSSIMaskTag =>
    rw [Handler.run, UhfReader.epc1g2ListRSSIMaskTag]
    exact traced_inventory6C f p _
  case epc1g2ListMaskTagID =>
    rw [Handler.run, UhfReader.epc1g2ListMaskTagID]
    exact traced_inventory6C f p _
  case epc1g2GetRSSIIDList =>
    rw [Handler.run, UhfReader.epc1g2GetRSSIIDList]
    exact traced_nextRows f p _
  case epc1g2GetIDList =>
    rw [Handler.run, UhfReader.epc1g2GetIDList]
    exact traced_nextRows f p _
  case epc1g2Accessmatch => exact traced_epc1g2Accessmatch f p
  case epc1g2ListTagID => exact traced_epc1g2ListTagID f p
  case epc1g2ReadWordBlock => exact traced_epc1g2ReadWordBlock f p
  case epc1g2WriteWordBlock | epc1g2WriteSetBlock | destroyTag =>
    exact traced_selectTag f p (traced_confirmed f (by decide) p p)
  case epc1g2WriteEPC => exact traced_epc1g2WriteEPC f p
  case readEPCAndData => exact traced_readEPCAndData f p
  case detectTagNum => exact traced_detectTagNum f p
  case readLabelID => exact traced_readLabelID f p
  case listIDReport => exact traced_listIDReport f p
  case listSelectedID => exact traced_listSelectedID f p
  case readByteBlock => exact traced_readByteBlock f p
  case writeByteBlock | writeAByte => exact traced_writeByteBlock f p
  case writeProtect => exact traced_writeProtect f p
  case readWriteProtect => exact traced_readWriteProtect f p
  case eraseTagData | dataLocking | epc1g2Changeeas | epc1g2EasAlarm | epc1g2ReadProtect
      | epc1g2RSTReadProtect | setUserDataProtect =>
    exact traced_reply f p 0
  all_goals exact f.pure p

end

/-- A machine that keeps the settings can follow. -/
theorem follows_settings :
  Follows (fun g g' => g'.settings = g.settings) (fun _ => True)
  := by
  constructor
  · apply Tracing.of_keeps
  · intro g g' h
    exact h.settings
  · intro before cmd p hcmd
    apply Keeps.traced
    exact (keeps_encodeR2000From_undriven p hcmd).comp Prod.fst
  · apply Keeps.traced
    exact keeps_delayMs_undriven.comp Prod.fst

/-- The handlers that are not listed do not change the settings. -/
theorem keeps_run (before : UInt8) (p : Mem) {h : Handler} (hnot : h ∉ settingHandlers) :
  Keeps Globals.settings (h.run before p)
  := by
  apply Traced.keeps
  exact traced_run follows_settings before p hnot

/-- A handler that updates the globals and leaves the parameters as they are. -/
theorem keeps_update {γ : Type} {f : Globals → γ} {u : Globals → Globals} (p : Mem)
    (h : ∀ g, f (u g) = f g) :
  Keeps f (do modify u; return p : M Mem)
  := by
  apply Traced.keeps
  apply traced_update (Tracing.of_keeps f)
  apply h

/-! ### Handlers that change the settings -/

/-- What no round of `GetTagRecord` changes, its second loop does not change. -/
theorem recordLoop_frame {β : Type} {f : Globals → β} (h : ∀ g, f (recordRound g) = f g)
    (fuel : ℕ) :
  ∀ (i : ℕ) (g : Globals), f (recordLoop fuel i g) = f g
  := by
  induction fuel with
  | zero =>
    intro i g
    rfl
  | succ fuel ih =>
    intro i g
    unfold recordLoop
    split
    · exact (ih (i + 1) (recordRound g)).trans (h g)
    · rfl

theorem iterate_recordRound_frame {β : Type} {f : Globals → β} (h : ∀ g, f (recordRound g) = f g)
    (n : ℕ) :
  ∀ g : Globals, f (recordRound^[n] g) = f g
  := by
  induction n with
  | zero =>
    intro g
    rfl
  | succ n ih =>
    intro g
    exact (ih (recordRound g)).trans (h g)

/-- What neither the rounds of `GetTagRecord` nor its bookkeeping change. -/
theorem tagRecord_frame {β : Type} {f : Globals → β} (hround : ∀ g, f (recordRound g) = f g)
    (hbook : ∀ g buf len count,
      f { g with cmdTmpBuf := buf, cmdTmpLen := len, cmd57ReadTagCount := count } = f g)
    (g : Globals) :
  f (tagRecord g) = f g.readClock
  := by
  unfold tagRecord
  dsimp only
  split
  · rw [iterate_recordRound_frame hround]
    apply hbook g.readClock
  · split
    · refine (hbook _ _ _ 0).trans ?_
      rw [recordLoop_frame hround]
      apply hbook g.readClock
    · apply hbook g.readClock

/-- The settings apart from the parameters. -/
def Settings.base (s : Settings) : SParamTable × ℕ × Flash := (s.gParamTable, s.setFlag, s.flash)

/-- `GetTagRecord` changes no settings but the parameters. -/
theorem tagRecord_base (g : Globals) :
  (tagRecord g).settings.base = g.settings.base
  := by
  apply tagRecord_frame (f := fun g => g.settings.base)
  · intro g
    rfl
  · intro g buf len count
    rfl

/-- The globals in which `SetOutputPower` asks the R2000 for the power. -/
def powerStored (p : Mem) (g : Globals) : Globals :=
  { g with gDevice := g.gDevice.put Offset.outputPower (clampPower (p 0)) }

/-- What comes of asking the R2000 for the power of a request. -/
def askPower (p : Mem) (g : Globals) : Option (UInt8 × Globals) :=
  encodeR2000 0x76 (p.put 0 (clampPower (p 0))) (powerStored p g)

/-- The R2000 is asked for the power of a request and confirms it. -/
def PowerConfirmed (p : Mem) (g : Globals) : Prop :=
  ∃ flag g', askPower p g = some (flag, g') ∧ flag = 0 ∧ g'.r2000.para 0 = commandSuccess

/-- The R2000 is asked for the power of a request and answers otherwise, or not in time. -/
def PowerRefused (p : Mem) (g : Globals) : Prop :=
  ∃ flag g', askPower p g = some (flag, g') ∧ ¬ (flag = 0 ∧ g'.r2000.para 0 = commandSuccess)

theorem PowerConfirmed.not_refused {p : Mem} {g : Globals} (h : PowerConfirmed p g) :
  ¬ PowerRefused p g
  := by
  obtain ⟨flag, g₁, hask, hconfirmed⟩ := h
  rintro ⟨flag', g₁', hask', hrefused⟩
  rw [hask, Option.some.injEq, Prod.mk.injEq] at hask'
  obtain ⟨rfl, rfl⟩ := hask'
  exact hrefused hconfirmed

/-- `SetOutputPower` after the R2000 was asked. -/
theorem setOutputPower_eq (p : Mem) (g : Globals) :
  setOutputPower p g
    = (askPower p g).map fun asked =>
        if asked.1 = 0 ∧ asked.2.r2000.para 0 = commandSuccess then
          (p.put 0 (clampPower (p 0)), { asked.2 with cmdTmpLen := 0, setFlag := 1 })
        else (p.put 0 (clampPower (p 0)), { asked.2 with cmdTmpLen := 0xFF })
  := by
  have hask : setOutputPower p g = (askPower p g).bind fun asked =>
      (if asked.1 = 0 ∧ asked.2.r2000.para 0 = commandSuccess then do
        modify fun g => { g with cmdTmpLen := 0, setFlag := 1 }
        return p.put 0 (clampPower (p 0))
      else fail (p.put 0 (clampPower (p 0))) : M Mem) asked.2 := rfl
  rw [hask]
  cases askPower p g with
  | none => rfl
  | some asked =>
    rw [Option.bind_some, Option.map_some]
    split
    · rfl
    · rfl

/-- `SetOutputPower` has stored the power, and raises `setFlag` when the R2000 confirms it. -/
theorem setOutputPower_cases {p p' : Mem} {g g' : Globals}
    (h : setOutputPower p g = some (p', g')) :
  (PowerConfirmed p g ∧ g'.cmdTmpLen = 0
      ∧ g'.settings = { (powerStored p g).settings with setFlag := 1 })
    ∨ (PowerRefused p g ∧ g'.cmdTmpLen = 0xFF ∧ g'.settings = (powerStored p g).settings)
  := by
  rw [setOutputPower_eq, Option.map_eq_some_iff] at h
  obtain ⟨⟨flag, g₁⟩, hask, hout⟩ := h
  have hkept : g₁.settings = (powerStored p g).settings :=
    (follows_settings.send 0 _ (show (0x76 : UInt8) ≠ 0x78 by decide)).returns hask
  dsimp only at hout
  split at hout
  · rename_i hconfirmed
    cases hout
    exact .inl ⟨⟨flag, g₁, hask, hconfirmed⟩, rfl,
      congrArg (fun s : Settings => { s with setFlag := 1 }) hkept⟩
  · rename_i hrefused
    cases hout
    exact .inr ⟨⟨flag, g₁, hask, hrefused⟩, rfl, hkept⟩

/-- `SetOutputPower` returns when the R2000 does not confirm the power. -/
theorem PowerRefused.returns {p : Mem} {g : Globals} (h : PowerRefused p g) :
  ∃ p' g', setOutputPower p g = some (p', g')
  := by
  obtain ⟨flag, g₁, hask, -⟩ := h
  rw [setOutputPower_eq, hask, Option.map_some]
  exact ⟨_, _, rfl⟩

/-- `SetFrequency1` leaves its first argument, the lower frequency, in `FreqSelect[0]`. -/
theorem setFrequency1_settings {p p' : Mem} {g g' : Globals}
    (h : setFrequency1 p g = some (p', g')) :
  g'.settings
    = { g.settings with
        gDevice := g.gDevice.put Offset.freqSelect (g.gDevice.load Offset.frequencyMin) }
  := by
  obtain ⟨_, _, hget, h⟩ := bind_eq_some h
  cases hget
  obtain ⟨flagReturn, g₁, hask, h⟩ := bind_eq_some h
  have hsent : g₁.settings = _ := congrArg Prod.fst
    ((encodeR2000From_undriven_sent (by decide) hask).trans (sendCmd_undriven _ _ _ _))
  dsimp only at hsent
  rw [if_pos rfl, Mem.put_of_ne (by decide), Mem.put_same] at hsent
  rw [← hsent]
  obtain ⟨_, _, hget, h⟩ := bind_eq_some h
  cases hget
  split at h
  · exact (traced_reply follows_settings _ 0).returns h
  · exact (traced_fail follows_settings _).returns h

/-- The handlers that change the settings beyond `g_device`. -/
def storingHandlers : List Handler := [.setOutputPower, .setFrequency, .readReaderPara]

/-- A handler that is not listed changes `g_device` at most. -/
theorem keeps_run_base (before : UInt8) (p : Mem) {h : Handler} (hnot : h ∉ storingHandlers) :
  Keeps (fun g => g.settings.base) (h.run before p)
  := by
  by_cases hmem : h ∈ settingHandlers
  · cases h
    case setOutputPower | setFrequency | readReaderPara => exact absurd (by decide) hnot
    case setBaudRate | readParam | getReaderTime | getReaderRevStatus =>
      exact keeps_update p fun g => rfl
    case setReaderWorkType =>
      apply keeps_update p
      intro g
      split
      · rfl
      · split
        · rfl
        · rfl
    case getTagRecord =>
      apply keeps_update p
      exact tagRecord_base
    case setFrequency1 =>
      intro g p' g' hrun
      dsimp only
      rw [setFrequency1_settings hrun]
      rfl
    all_goals exact absurd hmem (by decide)
  · exact (keeps_run before p hmem).comp Settings.base

/-- No handler changes the parameter table. -/
theorem keeps_run_gParamTable (before : UInt8) (p : Mem) (h : Handler) :
  Keeps (fun g => g.gParamTable) (h.run before p)
  := by
  by_cases hmem : h ∈ storingHandlers
  · cases h
    case setOutputPower =>
      intro g p' g' hrun
      obtain ⟨-, -, hset⟩ | ⟨-, -, hset⟩ := setOutputPower_cases hrun
      · exact congrArg Settings.gParamTable hset
      · exact congrArg Settings.gParamTable hset
    case setFrequency => exact keeps_update p fun g => rfl
    case readReaderPara =>
      intro g p' g' hrun
      cases hrun
      rfl
    all_goals exact absurd hmem (by decide)
  · exact (keeps_run_base before p hmem).comp fun b => b.1

end UhfReader
