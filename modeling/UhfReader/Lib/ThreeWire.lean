import UhfReader.Lib.Bits

/-!
# Registers on three wires

A chip with registers that is read and written over three lines: a line that selects it, a clock,
and one for data in both directions.  While it is selected it latches a bit on each rising edge of
the clock, the lowest bit of a byte first.  The first eight bits are a command.  The lowest bit of
a command is set for a read: then the chip shifts a byte out, a bit on each falling edge.  After
any other command it takes a second byte, to write it.

What the registers are is left open: `Registers` says what a command reads, and what it writes.
The master's side are `send` and `receive`, which move whole bytes bit by bit; `write_spec` and
`read_spec` are what the chip does with a command in full.
-/

open Bits

namespace ThreeWire

variable {σ : Type*}

/-- What commands do with registers of type `σ`: a command and a byte that is written are given as
numbers, as is a byte that is read. -/
structure Registers (σ : Type*) where
  read : σ → ℕ → ℕ
  write : σ → ℕ → ℕ → σ

/-- A chip: its registers, the bits that it has latched since it was selected, those that it has
still to shift out, and the bit that it has shifted out last. -/
structure Chip (σ : Type*) where
  memory : σ
  latched : List Bool
  pending : List Bool
  out : Bool

namespace Chip

/-- A bit is latched.  It may be the last one of a command to read, or of a byte to write. -/
def latch (R : Registers σ) (c : Chip σ) (b : Bool) : Chip σ :=
  let latched := c.latched ++ [b]
  if latched.head? = some true ∧ latched.length = 8 then
    { c with latched := latched, pending := bits 8 (R.read c.memory (ofBits latched)) }
  else if latched.head? = some false ∧ latched.length = 16 then
    { c with
      latched := latched
      memory := R.write c.memory (ofBits (latched.take 8)) (ofBits (latched.drop 8)) }
  else { c with latched := latched }

/-- A bit is shifted out. -/
def shift (c : Chip σ) : Chip σ :=
  match c.pending with
  | [] => c
  | b :: pending => { c with pending := pending, out := b }

/-- The chip is selected, or no longer selected. -/
def reset (c : Chip σ) : Chip σ := { c with latched := [], pending := [] }

end Chip

/-- The lines with the chip: whether it is selected, the clock, the level that the master has set
for the data, and whether the master drives that line. -/
structure Bus (σ : Type*) where
  chip : Chip σ
  select : Bool
  clock : Bool
  data : Bool
  driven : Bool

namespace Bus

/-- The level of the data line. -/
def level (bus : Bus σ) : Bool := if bus.driven then bus.data else bus.chip.out

def setSelect (b : Bool) (bus : Bus σ) : Bus σ :=
  if b = bus.select then bus else { bus with select := b, chip := bus.chip.reset }

def setClock (R : Registers σ) (b : Bool) (bus : Bus σ) : Bus σ :=
  if b = bus.clock then bus
  else if bus.select then
    { bus with clock := b, chip := if b then bus.chip.latch R bus.level else bus.chip.shift }
  else { bus with clock := b }

def setData (b : Bool) (bus : Bus σ) : Bus σ := { bus with data := b }

/-- The master no longer drives the data line; the level that it has set is high. -/
def setIn (bus : Bus σ) : Bus σ := { bus with driven := false, data := true }

/-- The master drives the data line. -/
def setOut (bus : Bus σ) : Bus σ := { bus with driven := true }

/-- The master sends a bit. -/
def send (R : Registers σ) (bus : Bus σ) (b : Bool) : Bus σ :=
  ((bus.setClock R false).setData b).setClock R true

/-- The master clocks a bit out of the chip. -/
def clockOut (R : Registers σ) (bus : Bus σ) : Bus σ := (bus.setClock R true).setClock R false

/-- The bits that the master reads one after the other, and the lines afterwards. -/
def receive (R : Registers σ) : ℕ → Bus σ → List Bool × Bus σ
  | 0, bus => ([], bus)
  | n + 1, bus =>
    let bus := bus.clockOut R
    ((bus.level :: (bus.receive R n).1), (bus.receive R n).2)

/-- The chip is not selected, and the master drives the data line. -/
structure Idle (bus : Bus σ) : Prop where
  select : bus.select = false
  driven : bus.driven = true

/-- The chip is selected and takes bits of the master. -/
structure Listens (bus : Bus σ) (memory : σ) (latched : List Bool) : Prop where
  select : bus.select = true
  driven : bus.driven = true
  memory : bus.chip.memory = memory
  latched : bus.chip.latched = latched
  pending : bus.chip.pending = []

/-- The chip shifts out the bits `pending` after a command to read. -/
structure Delivers (bus : Bus σ) (memory : σ) (pending : List Bool) : Prop where
  select : bus.select = true
  driven : bus.driven = false
  memory : bus.chip.memory = memory
  command : bus.chip.latched.head? = some true
  length : 8 ≤ bus.chip.latched.length
  pending : bus.chip.pending = pending

end Bus

/-- Bits that do not complete a command to read, or a byte to write. -/
def Incomplete (l : List Bool) : Prop := l.length < 8 ∨ l.head? = some false ∧ l.length < 16

theorem Incomplete.of_append {l l' : List Bool} (h : Incomplete (l ++ l')) (hne : l ≠ []) :
  Incomplete l
  := by
  obtain hlt | ⟨hhead, hlt⟩ := h
  · rw [List.length_append] at hlt
    exact .inl (by omega)
  · rw [List.head?_append_of_ne_nil l hne] at hhead
    rw [List.length_append] at hlt
    exact .inr ⟨hhead, by omega⟩

variable {R : Registers σ}

/-- Until it completes something, a bit is only latched. -/
theorem Chip.latch_incomplete {c : Chip σ} {b : Bool} (h : Incomplete (c.latched ++ [b])) :
  c.latch R b = { c with latched := c.latched ++ [b] }
  := by
  unfold Chip.latch
  dsimp only
  rw [if_neg, if_neg]
  · rintro ⟨-, hlength⟩
    obtain hlt | ⟨-, hlt⟩ := h
    · omega
    · omega
  · rintro ⟨hhead, hlength⟩
    obtain hlt | ⟨hfalse, -⟩ := h
    · omega
    · rw [hhead] at hfalse
      cases hfalse

/-- While a byte is shifted out, a bit is only latched. -/
theorem Chip.latch_reading {c : Chip σ} {b : Bool} (hcommand : c.latched.head? = some true)
    (hlength : 8 ≤ c.latched.length) :
  c.latch R b = { c with latched := c.latched ++ [b] }
  := by
  unfold Chip.latch
  dsimp only
  rw [if_neg, if_neg]
  · rintro ⟨hfalse, -⟩
    rw [List.head?_append, hcommand] at hfalse
    cases hfalse
  · rintro ⟨-, height⟩
    rw [List.length_append, List.length_singleton] at height
    omega

namespace Bus

variable {bus : Bus σ} {memory : σ} {latched pending : List Bool}

namespace Listens

/-- A bit that the master sends is latched. -/
theorem send_eq (h : bus.Listens memory latched) (b : Bool) :
  bus.send R b = { bus with chip := bus.chip.latch R b, data := b, clock := true }
  := by
  -- the falling edge shifts nothing out
  have hshift : bus.chip.shift = bus.chip := by
    unfold Chip.shift
    rw [h.pending]
  have hlow : bus.setClock R false = { bus with clock := false } := by
    unfold setClock
    split
    · rename_i hclock
      rw [hclock]
    · rw [if_pos h.select, if_neg Bool.false_ne_true, hshift]
  rw [send, hlow]
  unfold setData setClock level
  dsimp only
  rw [if_neg (by decide), if_pos h.select, if_pos rfl, if_pos h.driven]

/-- Bits that do not complete anything are latched, and nothing else happens. -/
theorem sends (h : bus.Listens memory latched) {l : List Bool} (hl : Incomplete (latched ++ l)) :
  (l.foldl (send R) bus).Listens memory (latched ++ l)
  := by
  induction l generalizing bus latched with
  | nil =>
    rw [List.append_nil]
    exact h
  | cons b l ih =>
    have hl' : Incomplete ((latched ++ [b]) ++ l) := by
      rw [List.append_assoc]
      exact hl
    have hb : Incomplete (bus.chip.latched ++ [b]) := by
      rw [h.latched]
      exact hl'.of_append (List.concat_ne_nil b latched)
    have hnext : (bus.send R b).Listens memory (latched ++ [b]) := by
      rw [h.send_eq, Chip.latch_incomplete hb]
      exact ⟨h.select, h.driven, h.memory, congrArg (· ++ [b]) h.latched, h.pending⟩
    rw [List.foldl_cons]
    have hrest := ih hnext hl'
    rw [List.append_assoc] at hrest
    exact hrest

end Listens

/-- A chip that is selected while the clock is low takes bits. -/
theorem Idle.listens (h : bus.Idle) :
  ((bus.setClock R false).setSelect true).Listens bus.chip.memory []
  := by
  have hlow : bus.setClock R false = { bus with clock := false } := by
    unfold setClock
    split
    · rename_i hclock
      rw [hclock]
    · rw [if_neg (Bool.eq_false_iff.mp h.select)]
  rw [hlow]
  unfold setSelect
  dsimp only
  rw [if_neg (by rw [h.select]; decide)]
  exact ⟨rfl, h.driven, rfl, rfl, rfl⟩

/-- When the chip is no longer selected, it keeps its registers only. -/
theorem setSelect_false (h : bus.select = true) :
  bus.setSelect false = { bus with select := false, chip := bus.chip.reset }
  := by
  unfold setSelect
  rw [if_neg]
  rw [h]
  decide

/-- A command to write, with a byte, writes the byte. -/
theorem write_spec (h : bus.Idle) {a : ℕ} (ha : a.testBit 0 = false) (d : ℕ) :
  let bus' := ((bits 8 a ++ bits 8 d).foldl (send R)
    ((bus.setClock R false).setSelect true)).setSelect false
  bus'.Idle ∧ bus'.chip.memory = R.write bus.chip.memory (a % 2 ^ 8) (d % 2 ^ 8)
  := by
  have hhead : ∀ l, (bits 8 a ++ l).head? = some false := by
    intro l
    rw [← ha]
    rfl
  -- all bits but the last one are only latched
  have hlistens := (Idle.listens (R := R) h).sends (R := R) (l := bits 8 a ++ bits 7 d)
    (.inr ⟨hhead _, by simp⟩)
  rw [List.nil_append] at hlistens
  rw [bits_succ_last 7 d, ← List.append_assoc, List.foldl_append]
  generalize (bits 8 a ++ bits 7 d).foldl (send R) ((bus.setClock R false).setSelect true) = bus₁
    at hlistens ⊢
  have hlatched : bus₁.chip.latched ++ [d.testBit 7] = bits 8 a ++ bits 8 d := by
    rw [hlistens.latched, List.append_assoc, ← bits_succ_last]
  have hlatch : (bus₁.chip.latch R (d.testBit 7)).memory
      = R.write bus.chip.memory (a % 2 ^ 8) (d % 2 ^ 8) := by
    unfold Chip.latch
    dsimp only
    rw [hlatched, if_neg, if_pos, hlistens.memory, List.take_left' (length_bits 8 a),
      List.drop_left' (length_bits 8 a), ofBits_bits, ofBits_bits]
    · exact ⟨hhead _, by simp⟩
    · rintro ⟨htrue, -⟩
      rw [hhead] at htrue
      cases htrue
  rw [List.foldl_cons, List.foldl_nil, hlistens.send_eq, setSelect_false]
  · exact ⟨⟨rfl, hlistens.driven⟩, hlatch⟩
  · exact hlistens.select

/-- A bit that the chip shifts out is read by the master. -/
theorem Delivers.clockOut {b : Bool} (h : bus.Delivers memory (b :: pending)) :
  (bus.clockOut R).level = b ∧ (bus.clockOut R).Delivers memory pending
  := by
  have hrise : (bus.setClock R true).clock = true
      ∧ (bus.setClock R true).Delivers memory (b :: pending) := by
    unfold setClock
    split
    · rename_i hclock
      exact ⟨hclock.symm, h⟩
    · rw [if_pos h.select, if_pos rfl]
      rw [Chip.latch_reading h.command h.length]
      refine ⟨rfl, h.select, h.driven, h.memory, ?_, ?_, h.pending⟩
      · rw [List.head?_append, h.command]
        rfl
      · rw [List.length_append]
        exact Nat.le_add_right_of_le h.length
  obtain ⟨hclock, hhigh⟩ := hrise
  unfold Bus.clockOut
  generalize bus.setClock R true = bus₁ at hclock hhigh ⊢
  have hfall : bus₁.setClock R false
      = { bus₁ with clock := false, chip := { bus₁.chip with pending := pending, out := b } } := by
    unfold setClock Chip.shift
    rw [hclock, if_neg (by decide), if_pos hhigh.select, if_neg Bool.false_ne_true, hhigh.pending]
  rw [hfall]
  refine ⟨?_, hhigh.select, hhigh.driven, hhigh.memory, hhigh.command, hhigh.length, rfl⟩
  unfold level
  dsimp only
  rw [hhigh.driven, if_neg Bool.false_ne_true]

/-- Bits that the chip shifts out are read by the master. -/
theorem Delivers.receive (h : bus.Delivers memory pending) :
  (bus.receive R pending.length).1 = pending
    ∧ (bus.receive R pending.length).2.Delivers memory []
  := by
  induction pending generalizing bus with
  | nil => exact ⟨rfl, h⟩
  | cons b pending ih =>
    obtain ⟨hlevel, hnext⟩ := h.clockOut (R := R)
    obtain ⟨hbits, hdelivers⟩ := ih hnext
    exact ⟨congrArg₂ List.cons hlevel hbits, hdelivers⟩

/-- A command to read is answered by the byte, and changes nothing. -/
theorem read_spec (h : bus.Idle) {a : ℕ} (ha : a.testBit 0 = true) :
  let received := (((bits 8 a).foldl (send R)
    ((bus.setClock R false).setSelect true)).setIn).receive R 8
  received.1 = bits 8 (R.read bus.chip.memory (a % 2 ^ 8))
    ∧ (received.2.setSelect false).setOut.Idle
    ∧ (received.2.setSelect false).setOut.chip.memory = bus.chip.memory
  := by
  -- all bits but the last one are only latched
  have hlistens := (Idle.listens (R := R) h).sends (R := R) (l := bits 7 a) (.inl (by simp))
  rw [List.nil_append] at hlistens
  rw [bits_succ_last 7 a, List.foldl_append]
  generalize (bits 7 a).foldl (send R) ((bus.setClock R false).setSelect true) = bus₁
    at hlistens ⊢
  have hlatched : bus₁.chip.latched ++ [a.testBit 7] = bits 8 a := by
    rw [hlistens.latched, ← bits_succ_last]
  rw [List.foldl_cons, List.foldl_nil, hlistens.send_eq]
  have hdelivers : ({ bus₁ with
      chip := bus₁.chip.latch R (a.testBit 7), data := a.testBit 7, clock := true }
      : Bus σ).setIn.Delivers bus.chip.memory (bits 8 (R.read bus.chip.memory (a % 2 ^ 8))) := by
    have hhead : (bits 8 a).head? = some true := by
      rw [← ha]
      rfl
    have hlatch : bus₁.chip.latch R (a.testBit 7) = { bus₁.chip with
        latched := bits 8 a, pending := bits 8 (R.read bus.chip.memory (a % 2 ^ 8)) } := by
      unfold Chip.latch
      dsimp only
      rw [hlatched, if_pos ⟨hhead, length_bits 8 a⟩, ofBits_bits, hlistens.memory]
    rw [hlatch]
    exact ⟨hlistens.select, rfl, hlistens.memory, hhead, (length_bits 8 a).ge, rfl⟩
  generalize ({ bus₁ with
      chip := bus₁.chip.latch R (a.testBit 7), data := a.testBit 7, clock := true }
      : Bus σ).setIn = bus₂ at hdelivers ⊢
  obtain ⟨hbits, hdone⟩ := hdelivers.receive (R := R)
  rw [length_bits] at hbits hdone
  refine ⟨hbits, ?_⟩
  rw [setSelect_false hdone.select]
  exact ⟨⟨rfl, rfl⟩, hdone.memory⟩

end Bus

end ThreeWire
