import UhfReader.Handlers.Reads
import UhfReader.TagReplies

/-!
# Replies of 250 bytes

A reply with 250 parameters fits into the layout without an address and not into the one with
it.  `LongReply` tells from the saved rows and the answers of the R2000 which requests get one,
and `repliesLong_run` states that the functions of the table build one for these only.
-/

open Memory Stateful

namespace UhfReader

variable {p q : Mem} {g : Globals}

/-! ### Answers of the R2000 -/

/-- The R2000 answers a command in time, and `g'` holds its answer. -/
def Answers (cmd : UInt8) (p : Mem) (g g' : Globals) : Prop := encodeR2000 cmd p g = some (0, g')

/-- The R2000 confirms a command, and `g'` is what the pause after it leads to. -/
def ConfirmedThen (cmd : UInt8) (p : Mem) (g g' : Globals) : Prop :=
  ∃ g₁, Answers cmd p g g₁ ∧ g₁.r2000.para 0 = commandSuccess ∧ delayMs g₁ = some ((), g')

/-- The R2000 reads words of the tag that a request gives, and answers with `n` bytes of them. -/
def WordsRead (n : UInt8) (p : Mem) (g : Globals) : Prop :=
  ∃ g₁ g₂, ConfirmedThen 0x85 p g g₁ ∧ Answers 0x81 p g₁ g₂ ∧ g₂.r2000.frameLen > 4
    ∧ g₂.r2000.load (g₂.r2000.frameLen - 2).toNat = n

/-- The R2000 reads the TID of a tag, and answers with a frame of `n` bytes. -/
def TidRead (n : UInt8) (p : Mem) (g : Globals) : Prop :=
  ∃ g₁ g₂, ConfirmedThen 0xC5 p (tidStart g) g₁ ∧ Answers 0xC1 p g₁ g₂ ∧ g₂.r2000.frameLen = n

/-! ### Pages -/

/-- The number of bytes, modulo 256, of a page with `n` rows of `CardIndex` from the row `pos` on,
which follow their count.  A row has its length byte and its identifier, and `k` is 2 where the
signal strength follows them. -/
def Globals.pageBytes (g : Globals) (pos : ℕ) (k : UInt8) : ℕ → UInt8
  | 0 => 1
  | i + 1 => g.pageBytes pos k i + (2 * (g.cardIndex (pos + i)).load 0 + k)

/-- An inventory with `0xB0` finds tags, and `g'` has them in `CardIndex`. -/
def Found6B (p : Mem) (g g' : Globals) : Prop :=
  ∃ flag, encodeR2000 0xB0 p { g with
      tagR2000Cmd91Number := 0, tagR2000Cmd80Number := 0, cardPos := 0 } = some (flag, g')
    ∧ flag ≠ 0xFF

/-- The parameters of an inventory with `0x80` and `0x91`. -/
def inventoryPara (p : Mem) (g : Globals) : Mem :=
  p.put 0 (if g.gDevice.load Offset.maxReadCardNum < 20 then 255 else 1)

/-- The R2000 counts tags for `0x80`, and `g'` is where it is asked for them with `0x91`. -/
def TagsCounted (p : Mem) (g g' : Globals) : Prop :=
  ∃ g₁ g₂,
    Answers 0x80 (inventoryPara p g) { g with
      cmdMaskaddr := (p 1).toNat * 256 + (p 2).toNat, cmdMasklen := 0, cardPos := 0 } g₁
    ∧ g₁.r2000.frameLen > 4
    ∧ (g₁.r2000.para 1).toNat * 256 + (g₁.r2000.para 2).toNat > 0
    ∧ delayMs { g₁ with
        tagR2000Cmd80Number := (g₁.r2000.para 1).toNat * 256 + (g₁.r2000.para 2).toNat }
      = some ((), g₂)
    ∧ g' = { g₂ with tagR2000Cmd91Number := 0 }

/-- An inventory with `0x80` and `0x91` finds tags, and `g'` has them in `CardIndex`. -/
def Found6C (p : Mem) (g g' : Globals) : Prop :=
  ∃ g₁, TagsCounted p g g₁ ∧ Answers 0x91 (inventoryPara p g) g₁ g'

/-- The first page of the tags found has 250 bytes. -/
def LongFirstPage (k : UInt8) (g : Globals) : Prop :=
  g.pageBytes 0 k (firstPage g).tagSendCount.toNat = 250

/-- The command builds a reply of 250 bytes when it is carried out. -/
def LongReply (cmd : UInt8) (p : Mem) (g : Globals) : Prop :=
  match cmd with
  | 0x57 => g.recordPlace g.recordRounds = 250
  | 0xFE => ∃ g', Found6B p { g with mask6B := 0 } g' ∧ LongFirstPage 1 g'
  | 0xFB => ∃ g', Found6B p { g with
        maskSel := p 0, maskAddr6B := p 1, mask6B := p 2, maskData6B := fun i => p (3 + i.val) } g'
      ∧ LongFirstPage 1 g'
  | 0xFD => g.pageBytes 0 1 (nextPage g).1 = 250
  | 0xEE => (CutOff p g ∧ g.cmdTmpLen = 250) ∨ ∃ g', Found6C p g g' ∧ LongFirstPage 1 g'
  | 0xDF => (CutOff p g ∧ g.cmdTmpLen = 250) ∨ ∃ g', Found6C p g g' ∧ LongFirstPage 2 g'
  | 0xED => g.pageBytes g.tagSendCount.toNat 1 (nextPage g).1 = 250
  | 0xDE => g.pageBytes g.tagSendCount.toNat 2 (nextPage g).1 = 250
  | 0xEC => WordsRead 250 p g
  -- the frame has three bytes more than the reply
  | 0xEF => TidRead 253 p g
  -- the frame has four bytes more than the reply
  | 0xF6 => ∃ g', Answers 0xB1 p g g' ∧ g'.r2000.frameLen = 254
  | _ => False

/-! ### The length of a reply -/

/-- The function returns with a reply of 250 bytes. -/
def RepliesLong (m : M Mem) (g : Globals) : Prop := Ends m (fun _ g' => g'.cmdTmpLen = 250) g

theorem repliesLong_reply (n : UInt8) :
  RepliesLong (reply q n) g ↔ n = 250
  := by
  constructor
  · rintro ⟨_, _, heq, h⟩
    cases heq
    exact h
  · intro h
    exact ⟨q, { g with cmdTmpLen := n }, rfl, h⟩

theorem repliesLong_fail :
  ¬ RepliesLong (fail q) g
  := by
  intro h
  exact absurd ((repliesLong_reply 0xFF).mp h) (by decide)

theorem repliesLong_short {n : UInt8} (hn : n ≠ 250) :
  ¬ RepliesLong (reply q n) g
  := (repliesLong_reply n).not.mpr hn

theorem repliesLong_bind {α : Type} {m : M α} {k : α → M Mem} :
  RepliesLong (m >>= k) g ↔ ∃ a g', m g = some (a, g') ∧ RepliesLong (k a) g'
  := ends_bind

theorem repliesLong_modifyGet {α : Type} {u : Globals → α × Globals} {k : α → M Mem} :
  RepliesLong (modifyGet u >>= k) g ↔ RepliesLong (k (u g).1) (u g).2
  := by
  rw [repliesLong_bind]
  constructor
  · rintro ⟨a, g', heq, h⟩
    rwa [show u g = (a, g') from Option.some.inj heq]
  · intro h
    exact ⟨_, _, rfl, h⟩

theorem repliesLong_get {k : Globals → M Mem} :
  RepliesLong (get >>= k) g ↔ RepliesLong (k g) g
  := Iff.rfl

theorem repliesLong_ite {c : Prop} [Decidable c] {m m' : M Mem} :
  RepliesLong (if c then m else m') g ↔ c ∧ RepliesLong m g ∨ ¬ c ∧ RepliesLong m' g
  := ends_ite

/-- A function that fails otherwise. -/
theorem repliesLong_or_fail {c : Prop} [Decidable c] {m : M Mem} :
  RepliesLong (if c then m else fail q) g ↔ c ∧ RepliesLong m g
  := by
  rw [repliesLong_ite]
  simp only [repliesLong_fail, and_false, or_false]

/-- A function that asks the R2000, and goes on when there is an answer for it. -/
theorem repliesLong_ask {cmd : UInt8} {k : UInt8 → Globals → M Mem} :
  RepliesLong (do let flag ← encodeR2000 cmd q; let g ← get; k flag g) g
    ↔ ∃ flag g', encodeR2000 cmd q g = some (flag, g') ∧ RepliesLong (k flag g') g'
  := repliesLong_bind

theorem repliesLong_confirmed {cmd : UInt8} {m : M Mem} :
  RepliesLong
      (do
        let flagReturn ← encodeR2000 cmd p
        let g ← get
        if flagReturn = 0 ∧ g.r2000.para 0 = commandSuccess then m else fail q) g
    ↔ ∃ g', Answers cmd p g g' ∧ g'.r2000.para 0 = commandSuccess ∧ RepliesLong m g'
  := by
  rw [repliesLong_ask]
  simp only [repliesLong_or_fail]
  constructor
  · rintro ⟨flag, g', hask, ⟨rfl, hconfirmed⟩, hm⟩
    exact ⟨g', hask, hconfirmed, hm⟩
  · rintro ⟨g', hask, hconfirmed, hm⟩
    exact ⟨0, g', hask, ⟨rfl, hconfirmed⟩, hm⟩

/-- A function that goes on after a pause when the R2000 has confirmed a command. -/
theorem repliesLong_confirmedThen {cmd : UInt8} {m : M Mem} :
  RepliesLong
      (do
        let flagReturn ← encodeR2000 cmd p
        let g ← get
        if flagReturn = 0 ∧ g.r2000.para 0 = commandSuccess then do
          delayMs
          m
        else fail q) g
    ↔ ∃ g', ConfirmedThen cmd p g g' ∧ RepliesLong m g'
  := by
  rw [repliesLong_confirmed]
  simp only [repliesLong_bind]
  constructor
  · rintro ⟨g₁, hask, hconfirmed, _, g', hdelay, hm⟩
    exact ⟨g', ⟨g₁, hask, hconfirmed, hdelay⟩, hm⟩
  · rintro ⟨g', ⟨g₁, hask, hconfirmed, hdelay⟩, hm⟩
    exact ⟨g₁, hask, hconfirmed, (), g', hdelay, hm⟩

/-! ### Short replies -/

theorem repliesLong_setOutputPower :
  ¬ RepliesLong (setOutputPower p) g
  := by
  rintro ⟨_, g', hrun, hlen⟩
  obtain ⟨-, hdone, -⟩ | ⟨-, hfail, -⟩ := setOutputPower_cases hrun
  · rw [hdone] at hlen
    exact absurd hlen (by decide)
  · rw [hfail] at hlen
    exact absurd hlen (by decide)

theorem repliesLong_setFrequency :
  ¬ RepliesLong (setFrequency p) g
  := by
  rintro ⟨_, g', hrun, hlen⟩
  cases hrun
  exact absurd (show (0 : UInt8) = 250 from hlen) (by decide)

theorem repliesLong_setAntenna :
  ¬ RepliesLong (setAntenna p) g
  := by
  unfold setAntenna
  simp only [repliesLong_bind, repliesLong_or_fail, repliesLong_reply]
  rintro ⟨_, _, -, _, _, -, -, hlen⟩
  exact absurd hlen (by decide)

theorem repliesLong_readR2000vertion :
  ¬ RepliesLong (readR2000vertion p) g
  := by
  unfold readR2000vertion
  rw [repliesLong_ask]
  simp only [repliesLong_or_fail, repliesLong_reply]
  rintro ⟨_, _, -, -, hlen⟩
  exact absurd hlen (by decide)

theorem repliesLong_confirmAccess (flagReturn : UInt8) :
  ¬ RepliesLong (confirmAccess flagReturn p) g
  := by
  intro h
  have h : RepliesLong (if flagReturn = 0 ∧ g.r2000.frameLen > 4
      ∧ g.r2000.para ((g.r2000.para 2).toNat + 3) = commandSuccess then do
        beep
        reply p 0
      else fail p) g := h
  rw [repliesLong_or_fail, repliesLong_bind] at h
  obtain ⟨-, _, _, -, h⟩ := h
  exact repliesLong_short (by decide) h

theorem repliesLong_epc1g2Accessmatch :
  ¬ RepliesLong (epc1g2Accessmatch p) g
  := by
  unfold epc1g2Accessmatch
  rw [repliesLong_confirmed]
  rintro ⟨g', -, -, h⟩
  exact repliesLong_short (by decide)
    (show RepliesLong (reply p 0) { g' with beepFlag := 1 } from h)

/-- An access to the tag that a request gives. -/
theorem repliesLong_selectTag {access : M Mem} :
  RepliesLong (selectTag p access) g ↔ ∃ g', ConfirmedThen 0x85 p g g' ∧ RepliesLong access g'
  := repliesLong_confirmedThen

/-- An access that is confirmed without data. -/
theorem repliesLong_access {before cmd : UInt8} :
  ¬ RepliesLong (selectTag p do
      let flagReturn ← encodeR2000From before cmd p
      confirmAccess flagReturn p) g
  := by
  rw [repliesLong_selectTag]
  rintro ⟨_, -, h⟩
  rw [repliesLong_bind] at h
  obtain ⟨flagReturn, _, -, h⟩ := h
  exact repliesLong_confirmAccess flagReturn h

theorem repliesLong_epc1g2WriteEPC :
  ¬ RepliesLong (epc1g2WriteEPC p) g
  := by
  have hwrite : ∀ (tmp m : Mem) g, ¬ RepliesLong (do
      let flagReturn ← encodeR2000 0xC2 tmp
      confirmAccess flagReturn m) g := by
    intro tmp m g h
    rw [repliesLong_bind] at h
    obtain ⟨flagReturn, _, -, h⟩ := h
    exact repliesLong_confirmAccess flagReturn h
  unfold epc1g2WriteEPC
  dsimp only
  rw [repliesLong_ask]
  simp only [repliesLong_ite, repliesLong_confirmed, repliesLong_fail, hwrite, and_false,
    exists_false, or_false, not_false_eq_true]

/-- The reply has as many bytes as the answer to the last command says, which is 0. -/
theorem repliesLong_readEPCAndData :
  ¬ RepliesLong (readEPCAndData p) g
  := by
  unfold readEPCAndData
  rw [repliesLong_ask]
  simp only [repliesLong_or_fail]
  rintro ⟨_, g', -, -, h⟩
  rw [repliesLong_ask] at h
  obtain ⟨flag, g'', -, h⟩ := h
  rw [repliesLong_or_fail] at h
  obtain ⟨⟨rfl, -⟩, h⟩ := h
  exact repliesLong_short (by decide)
    (show RepliesLong (reply _ 0) { g'' with beepFlag := 1 } from h)

/-- A command to an ISO18000-6B tag, whose short answers get short replies. -/
theorem repliesLong_command6B {cmd : UInt8} {onFrame onShort : SR2000TransData → M Mem}
    (hshort : ∀ r g, ¬ RepliesLong (onShort r) g) :
  RepliesLong (command6B cmd p onFrame onShort) g
    ↔ ∃ g', Answers cmd p g g' ∧ g'.r2000.frameLen > 4
      ∧ RepliesLong (onFrame g'.r2000) { g' with beepFlag := 1 }
  := by
  unfold command6B
  rw [repliesLong_bind]
  simp only [repliesLong_or_fail]
  constructor
  · rintro ⟨flag, g', hask, rfl, h⟩
    have h : RepliesLong (if g'.r2000.frameLen > 4 then do
        beep
        onFrame g'.r2000
      else onShort g'.r2000) g' := h
    rw [repliesLong_ite] at h
    obtain ⟨hlong, h⟩ | ⟨-, h⟩ := h
    · exact ⟨g', hask, hlong, h⟩
    · exact absurd h (hshort _ _)
  · rintro ⟨g', hask, hlong, h⟩
    refine ⟨0, g', hask, rfl, ?_⟩
    show RepliesLong (if g'.r2000.frameLen > 4 then do
        beep
        onFrame g'.r2000
      else onShort g'.r2000) g'
    rw [if_pos hlong]
    exact h

/-- A short answer is reported with one byte at most. -/
theorem repliesLong_command6B_short {cmd n m : UInt8} (hn : n ≠ 250) (hm : m ≠ 250)
    {f f' : SR2000TransData → Mem} :
  ¬ RepliesLong (command6B cmd p (fun r => reply (f r) n) (fun r => reply (f' r) m)) g
  := by
  rw [repliesLong_command6B fun _ _ => repliesLong_short hm]
  rintro ⟨_, -, -, h⟩
  exact repliesLong_short hn h

theorem repliesLong_readWriteProtect :
  ¬ RepliesLong (readWriteProtect p) g
  := repliesLong_command6B_short (by decide) (by decide)

theorem repliesLong_writeByteBlock (hcount : p 9 ≠ 250) :
  ¬ RepliesLong (writeByteBlock p) g
  := by
  unfold writeByteBlock
  rw [repliesLong_command6B fun _ _ => repliesLong_fail]
  rintro ⟨_, -, -, h⟩
  exact repliesLong_short hcount h

theorem repliesLong_writeProtect :
  ¬ RepliesLong (writeProtect p) g
  := by
  unfold writeProtect
  rw [repliesLong_command6B fun _ _ => repliesLong_fail]
  rintro ⟨_, -, -, h⟩
  exact repliesLong_short (by decide) h

/-- An inventory with `0xB0` fails or goes on with the tags found. -/
theorem repliesLong_inventory6B {onTags : M Mem} :
  RepliesLong (inventory6B p onTags) g ↔ ∃ g', Found6B p g g' ∧ RepliesLong onTags g'
  := by
  have hask : RepliesLong (inventory6B p onTags) g ↔ RepliesLong
      (do
        let flagReturn ← encodeR2000 0xB0 p
        if flagReturn ≠ 0xFF then onTags else fail p)
      { g with tagR2000Cmd91Number := 0, tagR2000Cmd80Number := 0, cardPos := 0 } := Iff.rfl
  rw [hask, repliesLong_bind]
  simp only [repliesLong_or_fail]
  constructor
  · rintro ⟨flag, g', hfound, hflag, h⟩
    exact ⟨g', ⟨flag, hfound, hflag⟩, h⟩
  · rintro ⟨g', ⟨flag, hfound, hflag⟩, h⟩
    exact ⟨flag, g', hfound, hflag, h⟩

theorem repliesLong_detectTagNum :
  ¬ RepliesLong (detectTagNum p) g
  := by
  intro h
  have h : RepliesLong (inventory6B p do
      let g ← get
      reply (p.put 0 (UInt8.ofNat g.cardPos)) 1) { g with mask6B := 0 } := h
  rw [repliesLong_inventory6B] at h
  obtain ⟨g', -, h⟩ := h
  exact repliesLong_short (by decide)
    (show RepliesLong (reply (p.put 0 (UInt8.ofNat g'.cardPos)) 1) g' from h)

/-! ### Replies with the data of a tag -/

theorem repliesLong_epc1g2ReadWordBlock :
  RepliesLong (epc1g2ReadWordBlock p) g ↔ WordsRead 250 p g
  := by
  have hread : ∀ g, RepliesLong
      (do
        let flagReturn ← encodeR2000 0x81 p
        let g ← get
        let r := g.r2000
        if flagReturn = 0 ∧ r.frameLen > 4 then
          beep
          let last := (r.frameLen - 2).toNat
          let len := r.load last
          reply (p.copy 0 (fun i => r.loadInt (last - len.toNat + i)) len.toNat) len
        else fail p) g
      ↔ ∃ g', Answers 0x81 p g g' ∧ g'.r2000.frameLen > 4
        ∧ g'.r2000.load (g'.r2000.frameLen - 2).toNat = 250 := by
    intro g
    dsimp only
    rw [repliesLong_ask]
    simp only [repliesLong_or_fail]
    constructor
    · rintro ⟨flag, g', hask, ⟨rfl, hlong⟩, h⟩
      exact ⟨g', hask, hlong, (repliesLong_reply (g := { g' with beepFlag := 1 }) _).mp h⟩
    · rintro ⟨g', hask, hlong, h⟩
      exact ⟨0, g', hask, ⟨rfl, hlong⟩,
        (repliesLong_reply (g := { g' with beepFlag := 1 }) _).mpr h⟩
  unfold epc1g2ReadWordBlock WordsRead
  rw [repliesLong_selectTag]
  simp only [hread]
  constructor
  · rintro ⟨g₁, hselected, g₂, hask, hlong, h⟩
    exact ⟨g₁, g₂, hselected, hask, hlong, h⟩
  · rintro ⟨g₁, g₂, hselected, hask, hlong, h⟩
    exact ⟨g₁, hselected, g₂, hask, hlong, h⟩

theorem repliesLong_epc1g2ListTagID :
  RepliesLong (epc1g2ListTagID p) g ↔ TidRead 253 p g
  := by
  have hread : ∀ g, RepliesLong
      (do
        let flagReturn ← encodeR2000 0xC1 p
        let g ← get
        if flagReturn = 0 ∧ g.r2000.frameLen > 4 then
          beep
          reply (p.copy 0 g.r2000.para (g.r2000.frameLen - 3).toNat) (g.r2000.frameLen - 3)
        else fail p) g
      ↔ ∃ g', Answers 0xC1 p g g' ∧ g'.r2000.frameLen = 253 := by
    intro g
    rw [repliesLong_ask]
    simp only [repliesLong_or_fail]
    constructor
    · rintro ⟨flag, g', hask, ⟨rfl, -⟩, h⟩
      have h := (repliesLong_reply (g := { g' with beepFlag := 1 }) _).mp h
      exact ⟨g', hask, sub_eq_iff_eq_add.mp h⟩
    · rintro ⟨g', hask, h⟩
      refine ⟨0, g', hask, ⟨rfl, ?_⟩, (repliesLong_reply (g := { g' with beepFlag := 1 }) _).mpr ?_⟩
      · rw [h]
        decide
      · rw [h]
        decide
  have hstart : RepliesLong (epc1g2ListTagID p) g ↔ RepliesLong
      (do
        let flagReturn ← encodeR2000 0xC5 p
        let g ← get
        if flagReturn = 0 ∧ g.r2000.para 0 = commandSuccess then do
          delayMs
          let flagReturn ← encodeR2000 0xC1 p
          let g ← get
          if flagReturn = 0 ∧ g.r2000.frameLen > 4 then
            beep
            reply (p.copy 0 g.r2000.para (g.r2000.frameLen - 3).toNat) (g.r2000.frameLen - 3)
          else fail p
        else fail p) (tidStart g) := Iff.rfl
  rw [hstart, repliesLong_confirmedThen, TidRead]
  simp only [hread]
  constructor
  · rintro ⟨g₁, hselected, g₂, hask, h⟩
    exact ⟨g₁, g₂, hselected, hask, h⟩
  · rintro ⟨g₁, g₂, hselected, hask, h⟩
    exact ⟨g₁, hselected, g₂, hask, h⟩

theorem repliesLong_readByteBlock :
  RepliesLong (readByteBlock p) g ↔ ∃ g', Answers 0xB1 p g g' ∧ g'.r2000.frameLen = 254
  := by
  unfold readByteBlock
  rw [repliesLong_command6B fun _ _ => repliesLong_fail]
  simp only [repliesLong_reply]
  constructor
  · rintro ⟨g', hask, -, h⟩
    exact ⟨g', hask, sub_eq_iff_eq_add.mp h⟩
  · rintro ⟨g', hask, h⟩
    refine ⟨g', hask, ?_, ?_⟩
    · rw [h]
      decide
    · rw [h]
      decide

/-! ### Pages of tags -/

/-- The length of a page, when each row has the length of its identifier and `k` bytes more. -/
theorem lenth_listRows {k : UInt8} (pos : ℕ) (row : Listing → ℕ → Listing)
    (hrow : ∀ l i, (row l i).lenth = l.lenth + (2 * (g.cardIndex (pos + i)).load 0 + k)) (n : ℕ)
    (g' : Globals) :
  (listRows g' q n row).lenth = g.pageBytes pos k n
  := by
  induction n with
  | zero => rfl
  | succ n ih =>
    have hlast : listRows g' q (n + 1) row = row (listRows g' q n row) n := by
      unfold listRows
      rw [List.range_succ, List.foldl_append]
      rfl
    rw [hlast, hrow, ih]
    rfl

theorem lenth_appendRow (g : Globals) (l : Listing) (i : ℕ) :
  (appendRow g l i).lenth = l.lenth + (2 * (g.cardIndex i).load 0 + 1)
  := by
  rw [mul_comm]
  rfl

theorem lenth_appendRssi (g : Globals) (l : Listing) (i j : ℕ) :
  (appendRssi g (appendRow g l i) j).lenth = l.lenth + (2 * (g.cardIndex i).load 0 + 2)
  := by
  have happend : (appendRssi g (appendRow g l i) j).lenth = (appendRow g l i).lenth + 1 := rfl
  rw [happend, lenth_appendRow, UInt8.add_assoc, UInt8.add_assoc]
  rfl

theorem repliesLong_replyListing (l : Listing) :
  RepliesLong (replyListing l) g ↔ l.lenth = 250
  := repliesLong_reply (q := l.p) (g := { g with bakrssi := l.bakrssi }) l.lenth

/-- The first page of the tags found. -/
theorem repliesLong_firstPage {k : UInt8} (first : Globals → UInt8)
    {row : Globals → Listing → ℕ → Listing}
    (hrow : ∀ g l i, (row g l i).lenth = l.lenth + (2 * (g.cardIndex i).load 0 + k)) :
  RepliesLong
      (do
        modify firstPage
        let g ← get
        replyListing <| listRows g (p.put 0 (first g)) g.tagSendCount.toNat (row g)) g
    ↔ LongFirstPage k g
  := by
  have hlength := lenth_listRows (q := p.put 0 (first (firstPage g))) (g := g) 0
    (row (firstPage g)) (fun l i => by rw [hrow, Nat.zero_add]; rfl)
    (firstPage g).tagSendCount.toNat (firstPage g)
  rw [LongFirstPage, ← hlength]
  exact repliesLong_replyListing _

theorem repliesLong_readLabelID :
  RepliesLong (readLabelID p) g
    ↔ ∃ g', Found6B p { g with mask6B := 0 } g' ∧ LongFirstPage 1 g'
  := by
  have hstart : RepliesLong (readLabelID p) g ↔ RepliesLong (inventory6B p do
      modify firstPage
      let g ← get
      replyListing <| listRows g (p.put 0 (UInt8.ofNat g.tagAllNumber)) g.tagSendCount.toNat
        (appendRow g)) { g with mask6B := 0 } := Iff.rfl
  rw [hstart, repliesLong_inventory6B]
  simp only [repliesLong_firstPage (fun g => UInt8.ofNat g.tagAllNumber) lenth_appendRow]

theorem repliesLong_listSelectedID :
  RepliesLong (listSelectedID p) g
    ↔ ∃ g', Found6B p { g with
          maskSel := p 0, maskAddr6B := p 1, mask6B := p 2, maskData6B := fun i => p (3 + i.val) }
        g' ∧ LongFirstPage 1 g'
  := by
  have hstart : RepliesLong (listSelectedID p) g ↔ RepliesLong (inventory6B p do
      modify firstPage
      let g ← get
      replyListing <| listRows g (p.put 0 g.tagSendCount) g.tagSendCount.toNat
        (appendRow g)) { g with
          maskSel := p 0, maskAddr6B := p 1, mask6B := p 2
          maskData6B := fun i => p (3 + i.val) } :=
    Iff.rfl
  rw [hstart, repliesLong_inventory6B]
  simp only [repliesLong_firstPage (fun g => g.tagSendCount) lenth_appendRow]

theorem nextPage_cardIndex (g : Globals) :
  (nextPage g).2.cardIndex = g.cardIndex
  := by
  unfold nextPage
  split
  · rfl
  · rfl

/-- A page whose rows are taken from the row `pos` on. -/
theorem repliesLong_nextPage {k : UInt8} (first : UInt8) (pos : ℕ)
    (row : Globals → Listing → ℕ → Listing)
    (hrow : ∀ g l i, (row g l i).lenth = l.lenth + (2 * (g.cardIndex (pos + i)).load 0 + k)) :
  RepliesLong (replyListing (listRows (nextPage g).2 (p.put 0 first) (nextPage g).1
      (row (nextPage g).2))) (nextPage g).2
    ↔ g.pageBytes pos k (nextPage g).1 = 250
  := by
  rw [repliesLong_replyListing, lenth_listRows pos]
  intro l i
  rw [hrow, nextPage_cardIndex]

theorem repliesLong_listIDReport :
  RepliesLong (listIDReport p) g ↔ g.pageBytes 0 1 (nextPage g).1 = 250
  := by
  unfold listIDReport
  rw [repliesLong_modifyGet, repliesLong_get]
  apply repliesLong_nextPage _ 0 appendRow
  intro g l i
  rw [lenth_appendRow, Nat.zero_add]

theorem repliesLong_nextRows {k : UInt8} (row : Globals → ℕ → Listing → ℕ → Listing)
    (hrow : ∀ g pos l i, (row g pos l i).lenth
      = l.lenth + (2 * (g.cardIndex (pos + i)).load 0 + k)) :
  RepliesLong (nextRows p row) g ↔ g.pageBytes g.tagSendCount.toNat k (nextPage g).1 = 250
  := repliesLong_nextPage (UInt8.ofNat (g.tagAllNumber + 256 - g.tagSendCount.toNat))
    g.tagSendCount.toNat (fun g' => row g' g.tagSendCount.toNat)
    fun g' l i => hrow g' g.tagSendCount.toNat l i

theorem ends_ask {α : Type} {P : α → Globals → Prop} {cmd : UInt8} {k : UInt8 → M α} :
  Ends (encodeR2000 cmd q >>= k) P g
    ↔ ∃ flag g', encodeR2000 cmd q g = some (flag, g') ∧ Ends (k flag) P g'
  := ends_bind

theorem ends_delay {α : Type} {P : α → Globals → Prop} {k : Unit → M α} :
  Ends (delayMs >>= k) P g ↔ ∃ g', delayMs g = some ((), g') ∧ Ends (k ()) P g'
  := by
  rw [ends_bind]
  constructor
  · rintro ⟨_, g', hdelay, h⟩
    exact ⟨g', hdelay, h⟩
  · rintro ⟨g', hdelay, h⟩
    exact ⟨(), g', hdelay, h⟩

/-- The R2000 counts tags, and then does not list them in time. -/
theorem cutOff_iff :
  CutOff p g ↔ ∃ g₁ flag g', TagsCounted p g g₁
    ∧ encodeR2000 0x91 (inventoryPara p g) g₁ = some (flag, g') ∧ flag ≠ 0
  := by
  have hends : CutOff p g ↔ Ends (inventoryCut p) (fun cut _ => cut = true) g := by
    constructor
    · rintro ⟨g', h⟩
      exact ⟨true, g', h, rfl⟩
    · rintro ⟨_, g', h, rfl⟩
      exact ⟨g', h⟩
  rw [hends]
  unfold inventoryCut
  simp only [ends_modify, ends_get, ends_ask, ends_delay, ends_ite, ends_pure, decide_eq_true_eq,
    Bool.false_eq_true, and_false, or_false]
  constructor
  · rintro ⟨flag, g₁, hask, ⟨rfl, hlong⟩, hsome, g₂, hdelay, flag', g', hlist, h⟩
    exact ⟨_, flag', g', ⟨g₁, g₂, hask, hlong, hsome, hdelay, rfl⟩, hlist, h⟩
  · rintro ⟨_, flag', g', ⟨g₁, g₂, hask, hlong, hsome, hdelay, rfl⟩, hlist, h⟩
    exact ⟨0, g₁, hask, ⟨rfl, hlong⟩, hsome, g₂, hdelay, flag', g', hlist, h⟩

/-- `cmdTmpLen` is still the length of the last reply. -/
theorem TagsCounted.cmdTmpLen {g' : Globals} (h : TagsCounted p g g') :
  g'.cmdTmpLen = g.cmdTmpLen
  := by
  obtain ⟨g₁, g₂, hask, -, -, hdelay, rfl⟩ := h
  have hasked := keeps_encodeR2000_cmdTmpLen _ (by decide) _ _ _ hask
  exact (keeps_delayMs_cmdTmpLen _ _ _ hdelay).trans hasked

/-- An inventory with `0x80` and `0x91` lists the tags found, or is cut off. -/
theorem repliesLong_inventory6C {k : UInt8} (row : Globals → Listing → ℕ → Listing)
    (hrow : ∀ g l i, (row g l i).lenth = l.lenth + (2 * (g.cardIndex i).load 0 + k)) :
  RepliesLong (inventory6C p row) g
    ↔ (CutOff p g ∧ g.cmdTmpLen = 250) ∨ ∃ g', Found6C p g g' ∧ LongFirstPage k g'
  := by
  have hfail : ∀ q g, ¬ Ends (fail q) (fun _ g' => g'.cmdTmpLen = 250) g :=
    fun _ _ => repliesLong_fail
  have hpage := fun q g => repliesLong_firstPage (p := q) (g := g)
    (fun g => UInt8.ofNat g.tagAllNumber) hrow
  rw [cutOff_iff]
  unfold inventory6C RepliesLong
  simp only [ends_modify, ends_get, ends_ask, ends_delay, ends_ite, ends_pure, hfail, and_false,
    or_false]
  constructor
  · rintro ⟨flag, g₁, hask, ⟨rfl, hlong⟩, hsome, g₂, hdelay, flag', g', hlist, h⟩
    have hcounted : TagsCounted p g _ := ⟨g₁, g₂, hask, hlong, hsome, hdelay, rfl⟩
    obtain ⟨rfl, h⟩ | ⟨hcut, h⟩ := h
    · right
      exact ⟨g', ⟨_, hcounted, hlist⟩, (hpage _ g').mp h⟩
    · left
      have hkept := keeps_encodeR2000_cmdTmpLen _ (by decide) _ _ _ hlist
      exact ⟨⟨_, flag', g', hcounted, hlist, hcut⟩, (hkept.trans hcounted.cmdTmpLen).symm.trans h⟩
  · rintro (⟨⟨_, flag', g', hcounted, hlist, hcut⟩, h⟩ | ⟨g', ⟨_, hcounted, hlist⟩, h⟩)
    · have hkept := keeps_encodeR2000_cmdTmpLen _ (by decide) _ _ _ hlist
      have hlen := hkept.trans hcounted.cmdTmpLen
      obtain ⟨g₁, g₂, hask, hlong, hsome, hdelay, rfl⟩ := hcounted
      exact ⟨0, g₁, hask, ⟨rfl, hlong⟩, hsome, g₂, hdelay, flag', g', hlist,
        .inr ⟨hcut, hlen.trans h⟩⟩
    · obtain ⟨g₁, g₂, hask, hlong, hsome, hdelay, rfl⟩ := hcounted
      exact ⟨0, g₁, hask, ⟨rfl, hlong⟩, hsome, g₂, hdelay, 0, g', hlist,
        .inl ⟨rfl, (hpage _ g').mpr h⟩⟩

theorem repliesLong_epc1g2ListMaskTagID :
  RepliesLong (epc1g2ListMaskTagID p) g
    ↔ (CutOff p g ∧ g.cmdTmpLen = 250) ∨ ∃ g', Found6C p g g' ∧ LongFirstPage 1 g'
  := repliesLong_inventory6C appendRow lenth_appendRow

theorem repliesLong_epc1g2ListRSSIMaskTag :
  RepliesLong (epc1g2ListRSSIMaskTag p) g
    ↔ (CutOff p g ∧ g.cmdTmpLen = 250) ∨ ∃ g', Found6C p g g' ∧ LongFirstPage 2 g'
  := repliesLong_inventory6C (fun g l k => appendRssi g (appendRow g l k) k)
    fun g l i => lenth_appendRssi g l i i

theorem repliesLong_epc1g2GetIDList :
  RepliesLong (epc1g2GetIDList p) g
    ↔ g.pageBytes g.tagSendCount.toNat 1 (nextPage g).1 = 250
  := repliesLong_nextRows (fun g pos l i => appendRow g l (pos + i))
    fun g pos l i => lenth_appendRow g l (pos + i)

theorem repliesLong_epc1g2GetRSSIIDList :
  RepliesLong (epc1g2GetRSSIIDList p) g
    ↔ g.pageBytes g.tagSendCount.toNat 2 (nextPage g).1 = 250
  := repliesLong_nextRows (fun g pos l i => appendRssi g (appendRow g l (pos + i)) i)
    fun g pos l i => lenth_appendRssi g l (pos + i) i

end UhfReader
