import UhfReader.Clock
import UhfReader.Lib.ThreeWire

/-!
# The DS1302 on its lines

`writeByte` and `readByte` as they move the lines of the DS1302, with `getTime` and `setTime` over
them.  They do to the registers of the chip what `Clock` says (`getTime_holds`, `setTime_holds`),
so what follows from it holds for the lines: a calendar time that is set is read back
(`clock_round_trip`).
-/

open Memory Bits ThreeWire

namespace UhfReader.Ds1302

/-- The lines of the DS1302: `RST` selects the chip, `SCLK` is its clock and `IO` has the data. -/
abbrev Wires := Bus (ℕ → UInt8)

/-- The registers of the chip, with its write protection. -/
def registers : Registers (ℕ → UInt8) where
  read regs rAddr := (UhfReader.readByte regs rAddr).toNat
  write regs wAddr data := UhfReader.writeByte regs wAddr (UInt8.ofNat data)

/-- `writeByte` -/
def writeByte (wAddr data : UInt8) (bus : Wires) : Wires :=
  let ad := (data.toUInt16 <<< 8) ||| wAddr.toUInt16
  let bus := (bus.setClock registers false).setSelect true
  let bus := (List.range 16).foldl
    (fun bus i => bus.send registers (ad &&& (1 <<< UInt16.ofNat i) ≠ 0)) bus
  bus.setSelect false

/-- The loop that reads `n` bits from bit `i` on. -/
def readBits : ℕ → ℕ → UInt8 → Wires → UInt8 × Wires
  | 0, _, data, bus => (data, bus)
  | n + 1, i, data, bus =>
    let bus := bus.clockOut registers
    readBits n (i + 1) (data ||| (bus.level.toUInt8 <<< UInt8.ofNat i)) bus

/-- `readByte` -/
def readByte (rAddr : UInt8) (bus : Wires) : UInt8 × Wires :=
  let bus := (bus.setClock registers false).setSelect true
  let bus := (List.range 8).foldl
    (fun bus i => bus.send registers (rAddr &&& (1 <<< UInt8.ofNat i) ≠ 0)) bus
  let read := readBits 8 0 0 bus.setIn
  (read.1, (read.2.setSelect false).setOut)

/-- The address after `addr` in the loop of `getTime`, which leaves the day of the week out. -/
def nextAddr (addr : UInt8) : UInt8 :=
  if addr - 2 = 0x8B then addr - 2 - 2 else addr - 2

/-- The loop of `getTime` that reads `n` registers. -/
def readRegs : ℕ → UInt8 → Wires → List UInt8 × Wires
  | 0, _, bus => ([], bus)
  | n + 1, addr, bus =>
    let read := readByte addr bus
    let rest := readRegs n (nextAddr addr) read.2
    (read.1 :: rest.1, rest.2)

/-- `getTime` -/
def getTime (bus : Wires) : List UInt8 × Wires :=
  let read := readRegs 6 0x8D bus
  let recbuf : Mem := fun i => read.1.getD i 0
  ([recbuf 0, recbuf 1 &&& 0x1f, recbuf 2 &&& 0x3f, recbuf 3 &&& 0x3f, recbuf 4 &&& 0x7f,
    recbuf 5 &&& 0x7f].map bcd2hex, read.2)

/-- The loop of `setTime` that writes `n` registers, from `reg[i]` on. -/
def writeRegs (reg : Mem) : ℕ → ℕ → UInt8 → Wires → Wires
  | 0, _, _, bus => bus
  | n + 1, i, addr, bus => writeRegs reg n (i + 1) (addr - 2) (writeByte addr (reg i) bus)

/-- `setTime` -/
def setTime (time : Mem) (bus : Wires) : Wires :=
  let clock : Mem := fun i => hex2bcd (time i)
  let read := getTime bus
  let reg : Mem := fun i => hex2bcd (read.1.getD i 0)
  let reg := reg.put 0 (clock 0)
  let reg := reg.put 1 0x01
  let reg := reg.put 2 (clock 1 &&& 0x1f)
  let reg := reg.put 3 (clock 2 &&& 0x3f)
  let reg := reg.put 4 ((reg 3 &&& 0x80) ||| (clock 3 &&& 0x3f))
  let reg := reg.put 5 (clock 4 &&& 0x7f)
  let reg := reg.put 6 ((reg 5 &&& 0x80) ||| (clock 5 &&& 0x7f))
  let bus := writeByte 0x8E 0x00 read.2
  let bus := writeRegs reg 7 0 0x8C bus
  writeByte 0x8E 0x80 bus

/-- `set_24hours` -/
def set24hours (state : UInt8) (bus : Wires) : Wires :=
  let read := readByte 0x85 bus
  let tmp := (read.1 &&& (0x7f : UInt8)) ||| (state <<< (7 : UInt8))
  let bus := writeByte 0x8E 0x00 read.2
  let bus := writeByte 0x84 tmp bus
  writeByte 0x8E 0x80 bus

/-- `rtc_gpio_config`: all lines are outputs, `IO_L` and `RST_L`. -/
def rtcGpioConfig (bus : Wires) : Wires := (bus.setOut.setData false).setSelect false

/-- `RTC_init` -/
def rtcInit (bus : Wires) : Wires := set24hours 0 (rtcGpioConfig bus)

/-! ### Bytes on the lines -/

/-- The test of a bit of a word. -/
theorem test_word (ad : UInt16) {i : ℕ} (hi : i < 16) :
  decide (ad &&& (1 <<< UInt16.ofNat i) ≠ 0) = ad.toNat.testBit i
  := by
  have hmask : ((1 : UInt16) <<< UInt16.ofNat i).toNat = 2 ^ i := by
    have hlt : 2 ^ i < 2 ^ 16 := Nat.pow_lt_pow_right (by decide) hi
    rw [UInt16.toNat_shiftLeft, UInt16.toNat_ofNat', Nat.mod_eq_of_lt (a := i) (by omega),
      Nat.mod_eq_of_lt hi, Nat.shiftLeft_eq]
    exact (congrArg (· % 2 ^ 16) (Nat.one_mul (2 ^ i))).trans (Nat.mod_eq_of_lt hlt)
  rw [Bool.eq_iff_iff, decide_eq_true_iff, ← and_two_pow_ne_zero, ne_eq, ← UInt16.toNat_inj,
    UInt16.toNat_and, hmask]
  rfl

/-- The test of a bit of a byte. -/
theorem test_byte (b : UInt8) {i : ℕ} (hi : i < 8) :
  decide (b &&& (1 <<< UInt8.ofNat i) ≠ 0) = b.toNat.testBit i
  := by
  have hmask : ((1 : UInt8) <<< UInt8.ofNat i).toNat = 2 ^ i := by
    have hlt : 2 ^ i < 2 ^ 8 := Nat.pow_lt_pow_right (by decide) hi
    rw [UInt8.toNat_shiftLeft, UInt8.toNat_ofNat', Nat.mod_eq_of_lt (a := i) (by omega),
      Nat.mod_eq_of_lt hi, Nat.shiftLeft_eq]
    exact (congrArg (· % 2 ^ 8) (Nat.one_mul (2 ^ i))).trans (Nat.mod_eq_of_lt hlt)
  rw [Bool.eq_iff_iff, decide_eq_true_iff, ← and_two_pow_ne_zero, ne_eq, ← UInt8.toNat_inj,
    UInt8.toNat_and, hmask]
  rfl

/-- The loop of `writeByte` sends the bits of the word. -/
theorem sends_word (ad : UInt16) (bus : Wires) :
  (List.range 16).foldl
      (fun bus i => bus.send registers (ad &&& (1 <<< UInt16.ofNat i) ≠ 0)) bus
    = (bits 16 ad.toNat).foldl (Bus.send registers) bus
  := by
  rw [bits_eq_map, List.foldl_map]
  apply List.foldl_ext
  intro bus i hi
  rw [test_word ad (List.mem_range.mp hi)]

/-- The first loop of `readByte` sends the bits of the address. -/
theorem sends_byte (rAddr : UInt8) (bus : Wires) :
  (List.range 8).foldl
      (fun bus i => bus.send registers (rAddr &&& (1 <<< UInt8.ofNat i) ≠ 0)) bus
    = (bits 8 rAddr.toNat).foldl (Bus.send registers) bus
  := by
  rw [bits_eq_map, List.foldl_map]
  apply List.foldl_ext
  intro bus i hi
  rw [test_byte rAddr (List.mem_range.mp hi)]

/-- The bits of an address with a byte: those of the address, and then those of the byte. -/
theorem bits_word (wAddr data : UInt8) :
  bits 16 ((data.toUInt16 <<< 8) ||| wAddr.toUInt16).toNat
    = bits 8 wAddr.toNat ++ bits 8 data.toNat
  := by
  have hdata := data.toNat_lt
  have hword : ((data.toUInt16 <<< 8) ||| wAddr.toUInt16).toNat
      = wAddr.toNat + 2 ^ 8 * data.toNat := by
    rw [UInt16.toNat_or, UInt16.toNat_shiftLeft, UInt8.toNat_toUInt16, UInt8.toNat_toUInt16]
    show data.toNat <<< 8 % 2 ^ 16 ||| wAddr.toNat = _
    rw [Nat.mod_eq_of_lt (by rw [Nat.shiftLeft_eq]; omega),
      ← Nat.shiftLeft_add_eq_or_of_lt wAddr.toNat_lt, Nat.shiftLeft_eq]
    omega
  rw [hword]
  exact bits_add 8 wAddr.toNat_lt data.toNat

/-- The lines are idle, and the chip has the registers `regs`. -/
structure Holds (bus : Wires) (regs : ℕ → UInt8) : Prop where
  idle : bus.Idle
  memory : bus.chip.memory = regs

variable {bus : Wires} {regs : ℕ → UInt8}

/-- `writeByte` writes the register, where the write protection lets it. -/
theorem Holds.writeByte (h : Holds bus regs) (wAddr : UInt8)
    (heven : wAddr.toNat.testBit 0 = false) (data : UInt8) :
  Holds (writeByte wAddr data bus) (UhfReader.writeByte regs wAddr.toNat data)
  := by
  obtain ⟨hidle, hmemory⟩ := Bus.write_spec (R := registers) h.idle heven data.toNat
  rw [Nat.mod_eq_of_lt wAddr.toNat_lt, Nat.mod_eq_of_lt data.toNat_lt, h.memory] at hmemory
  unfold Ds1302.writeByte
  dsimp only
  rw [sends_word, bits_word]
  refine ⟨hidle, hmemory.trans ?_⟩
  show UhfReader.writeByte regs wAddr.toNat (UInt8.ofNat data.toNat) = _
  rw [UInt8.ofNat_toNat]

/-- A bit put above others. -/
theorem or_bit {data : UInt8} {i : ℕ} (hi : i < 8) (hdata : data.toNat < 2 ^ i) (b : Bool) :
  (data ||| (b.toUInt8 <<< UInt8.ofNat i)).toNat = data.toNat + 2 ^ i * b.toNat
  := by
  have hb : b.toUInt8.toNat = b.toNat := by
    cases b with
    | true => rfl
    | false => rfl
  have hlt : 2 ^ i * b.toNat < 2 ^ 8 := by
    calc 2 ^ i * b.toNat
      _ ≤ 2 ^ i * 1 := Nat.mul_le_mul_left (2 ^ i) (Bool.toNat_le b)
      _ = 2 ^ i := Nat.mul_one (2 ^ i)
      _ < 2 ^ 8 := Nat.pow_lt_pow_right (by decide) hi
  have hshift : (b.toUInt8 <<< UInt8.ofNat i).toNat = b.toNat <<< i := by
    rw [UInt8.toNat_shiftLeft, UInt8.toNat_ofNat', hb, Nat.mod_eq_of_lt (a := i) (by omega),
      Nat.mod_eq_of_lt hi, Nat.mod_eq_of_lt]
    rw [Nat.shiftLeft_eq, Nat.mul_comm]
    exact hlt
  rw [UInt8.toNat_or, hshift, Nat.lor_comm, ← Nat.shiftLeft_add_eq_or_of_lt hdata,
    Nat.shiftLeft_eq, Nat.mul_comm, Nat.add_comm]

/-- The loop of `readByte` puts the bits that it reads above those that it has. -/
theorem readBits_eq {n i : ℕ} (hle : i + n ≤ 8) (data : UInt8) (hdata : data.toNat < 2 ^ i)
    (bus : Wires) :
  (readBits n i data bus).1.toNat = data.toNat + 2 ^ i * ofBits (bus.receive registers n).1
    ∧ (readBits n i data bus).2 = (bus.receive registers n).2
  := by
  induction n generalizing i data bus with
  | zero => exact ⟨rfl, rfl⟩
  | succ n ih =>
    have hbit := or_bit (by omega) hdata (bus.clockOut registers).level
    have hlt : data.toNat + 2 ^ i * (bus.clockOut registers).level.toNat < 2 ^ (i + 1) := by
      rw [Nat.pow_succ]
      cases (bus.clockOut registers).level with
      | true => exact (congrArg (data.toNat + ·) (Nat.mul_one _)).trans_lt (by omega)
      | false => exact hdata.trans (by omega)
    rw [← hbit] at hlt
    obtain ⟨hread, hbus⟩ := ih (by omega) _ hlt (bus.clockOut registers)
    refine ⟨hread.trans ?_, hbus⟩
    rw [hbit, Nat.pow_succ, Nat.mul_assoc, Nat.add_assoc, ← Nat.mul_add]
    rfl

/-- `readByte` reads the register. -/
theorem Holds.readByte (h : Holds bus regs) (rAddr : UInt8)
    (hodd : rAddr.toNat.testBit 0 = true) :
  (readByte rAddr bus).1 = UhfReader.readByte regs rAddr.toNat
    ∧ Holds (readByte rAddr bus).2 regs
  := by
  obtain ⟨hbits, hidle, hmemory⟩ := Bus.read_spec (R := registers) h.idle hodd
  rw [Nat.mod_eq_of_lt rAddr.toNat_lt, h.memory] at hbits
  unfold Ds1302.readByte
  dsimp only
  rw [sends_byte]
  generalize ((bits 8 rAddr.toNat).foldl (Bus.send registers)
    ((bus.setClock registers false).setSelect true)).setIn = bus₁ at hbits hidle hmemory ⊢
  obtain ⟨hread, hbus⟩ := readBits_eq (n := 8) (i := 0) (by omega) 0 (by decide) bus₁
  rw [hbits, ofBits_bits] at hread
  rw [hbus]
  refine ⟨UInt8.toNat_inj.mp (hread.trans ?_), hidle, hmemory.trans h.memory⟩
  show 0 + 2 ^ 0 * ((UhfReader.readByte regs rAddr.toNat).toNat % 2 ^ 8) = _
  rw [Nat.mod_eq_of_lt (UInt8.toNat_lt _), Nat.zero_add, Nat.pow_zero, Nat.one_mul]

/-! ### The operations on the registers -/

/-- The address two below is one for the same direction. -/
theorem testBit_sub_two (addr : UInt8) :
  (addr - 2).toNat.testBit 0 = addr.toNat.testBit 0
  := by
  have htwo : (2 : UInt8).toNat = 2 := rfl
  rw [Nat.testBit_zero, Nat.testBit_zero, UInt8.toNat_sub, htwo]
  congr 1
  rw [eq_iff_iff]
  omega

/-- The addresses of `getTime` stay those of reads. -/
theorem testBit_nextAddr (addr : UInt8) :
  (nextAddr addr).toNat.testBit 0 = addr.toNat.testBit 0
  := by
  unfold nextAddr
  split
  · rw [testBit_sub_two, testBit_sub_two]
  · exact testBit_sub_two addr

/-- The loop of `getTime` reads one register after the other. -/
theorem Holds.readRegs (h : Holds bus regs) (n : ℕ) (addr : UInt8)
    (hodd : addr.toNat.testBit 0 = true) :
  (readRegs n addr bus).1
      = (List.range n).map (fun k => UhfReader.readByte regs (nextAddr^[k] addr).toNat)
    ∧ Holds (readRegs n addr bus).2 regs
  := by
  induction n generalizing bus addr with
  | zero => exact ⟨rfl, h⟩
  | succ n ih =>
    obtain ⟨hread, hnext⟩ := h.readByte addr hodd
    obtain ⟨hrest, hholds⟩ := ih hnext (nextAddr addr) ((testBit_nextAddr addr).trans hodd)
    refine ⟨?_, hholds⟩
    rw [List.range_succ_eq_map, List.map_cons, List.map_map]
    exact congrArg₂ List.cons hread hrest

/-- `getTime` reads the clock, and leaves it as it is. -/
theorem Holds.getTime (h : Holds bus regs) :
  (getTime bus).1 = UhfReader.getTime regs ∧ Holds (getTime bus).2 regs
  := by
  obtain ⟨hread, hholds⟩ := h.readRegs 6 0x8D (by decide)
  refine ⟨?_, hholds⟩
  unfold Ds1302.getTime
  dsimp only
  rw [hread]
  rfl

/-- What the loop of `setTime` does to the registers. -/
def storeRegs (reg : Mem) : ℕ → ℕ → UInt8 → (ℕ → UInt8) → ℕ → UInt8
  | 0, _, _, regs => regs
  | n + 1, i, addr, regs =>
    storeRegs reg n (i + 1) (addr - 2) (UhfReader.writeByte regs addr.toNat (reg i))

/-- The loop of `setTime` writes one register after the other. -/
theorem Holds.writeRegs (h : Holds bus regs) (reg : Mem) (n i : ℕ) (addr : UInt8)
    (heven : addr.toNat.testBit 0 = false) :
  Holds (writeRegs reg n i addr bus) (storeRegs reg n i addr regs)
  := by
  induction n generalizing bus regs i addr with
  | zero => exact h
  | succ n ih =>
    exact ih (h.writeByte addr heven (reg i)) (i + 1) (addr - 2) ((testBit_sub_two addr).trans heven)

/-- `setTime` sets the clock. -/
theorem Holds.setTime (h : Holds bus regs) (time : Mem) :
  Holds (setTime time bus) (UhfReader.setTime regs time)
  := by
  have hopen := h.getTime.2.writeByte 0x8E (by decide) 0x00
  exact (hopen.writeRegs _ 7 0 0x8C (by decide)).writeByte 0x8E (by decide) 0x80

/-- `set_24hours` leaves the lines idle. -/
theorem Holds.set24hours (h : Holds bus regs) (state : UInt8) :
  (set24hours state bus).Idle
  := by
  have hopen := (h.readByte 0x85 (by decide)).2.writeByte 0x8E (by decide) 0x00
  exact ((hopen.writeByte 0x84 (by decide) _).writeByte 0x8E (by decide) 0x80).idle

/-- What happens to the lines after `RTC_init`: the functions are called, and the registers change
by themselves. -/
inductive Event
  | getTime
  | setTime (time : Mem)
  | ticks (regs : ℕ → UInt8)

/-- The lines after an event. -/
def Event.apply (bus : Wires) : Event → Wires
  | getTime => (Ds1302.getTime bus).2
  | setTime time => Ds1302.setTime time bus
  | ticks regs => { bus with chip := { bus.chip with memory := regs } }

/-- `RTC_init` leaves the lines idle, however they were. -/
theorem rtcInit_idle (bus : Wires) :
  (rtcInit bus).Idle
  := by
  have hconfig : (rtcGpioConfig bus).Idle := by
    unfold rtcGpioConfig Bus.setSelect
    split
    · rename_i hselect
      exact ⟨hselect.symm, rfl⟩
    · exact ⟨rfl, rfl⟩
  exact Holds.set24hours ⟨hconfig, rfl⟩ 0

/-- Every event leaves the lines idle. -/
theorem Event.apply_idle {bus : Wires} (h : bus.Idle) (e : Event) :
  (e.apply bus).Idle
  := by
  cases e with
  | getTime => exact (Holds.getTime ⟨h, rfl⟩).2.idle
  | setTime time => exact (Holds.setTime ⟨h, rfl⟩ time).idle
  | ticks regs => exact ⟨h.select, h.driven⟩

/-- So the lines are idle between the calls, in every run. -/
theorem run_idle (bus : Wires) (events : List Event) :
  (events.foldl Event.apply (rtcInit bus)).Idle
  := by
  have h := rtcInit_idle bus
  generalize rtcInit bus = bus₁ at h ⊢
  induction events generalizing bus₁ with
  | nil => exact h
  | cons e events ih => exact ih _ (Event.apply_idle h e)

/-! ### The calendar -/

/-- A calendar time: year, month, day, hour, minute and second. -/
structure CalendarTime (time : Mem) : Prop where
  year : time 0 ≤ 99
  month : 1 ≤ time 1 ∧ time 1 ≤ 12
  day : 1 ≤ time 2 ∧ time 2 ≤ 31
  hour : time 3 ≤ 23
  minute : time 4 ≤ 59
  second : time 5 ≤ 59

/-- A byte is the BCD code of a value: its digits are the two halves. -/
def IsBcd (b v : UInt8) : Prop :=
  b.toNat / 16 = v.toNat / 10 ∧ b.toNat % 16 = v.toNat % 10

/-- The registers have a time, and their control bits: the oscillator is not halted, hours are
counted up to 24, and the registers are write protected. -/
structure Stores (regs : ℕ → UInt8) (time : Mem) : Prop where
  year : IsBcd (regs 0x8C) (time 0)
  month : IsBcd (regs 0x88) (time 1)
  day : IsBcd (regs 0x86) (time 2)
  hour : IsBcd (regs 0x84) (time 3)
  minute : IsBcd (regs 0x82) (time 4)
  second : IsBcd (regs 0x80) (time 5)
  running : regs 0x80 &&& 0x80 = 0
  hours24 : regs 0x84 &&& 0x80 = 0
  control : regs 0x8E = 0x80

theorem toNat_hex2bcd {v : UInt8} (h : v ≤ 99) :
  (hex2bcd v).toNat = v.toNat / 10 * 16 + v.toNat % 10
  := by
  have hlt : v.toNat ≤ 99 := UInt8.le_iff_toNat_le.mp h
  unfold hex2bcd
  rw [UInt8.toNat_add, UInt8.toNat_mul, UInt8.toNat_div, UInt8.toNat_mod]
  show (v.toNat / 10 * 16 % 2 ^ 8 + v.toNat % 10) % 2 ^ 8 = _
  omega

theorem isBcd_hex2bcd {v : UInt8} (h : v ≤ 99) :
  IsBcd (hex2bcd v) v
  := by
  rw [IsBcd, toNat_hex2bcd h]
  omega

/-- `BCD2HEX` undoes `HEX2BCD`. -/
theorem bcd2hex_hex2bcd {v : UInt8} (h : v ≤ 99) :
  bcd2hex (hex2bcd v) = v
  := by
  have hlt : v.toNat ≤ 99 := UInt8.le_iff_toNat_le.mp h
  rw [← UInt8.toNat_inj]
  unfold bcd2hex
  rw [UInt8.toNat_add, UInt8.toNat_mul, UInt8.toNat_div, UInt8.toNat_mod, toNat_hex2bcd h]
  show ((v.toNat / 10 * 16 + v.toNat % 10) / 16 * 10 % 2 ^ 8
    + (v.toNat / 10 * 16 + v.toNat % 10) % 16) % 2 ^ 8 = v.toNat
  omega

/-- A mask of the `k` lowest bits keeps the codes of values up to `m`, if they have no others. -/
theorem hex2bcd_and {v m mask : UInt8} (hv : v ≤ m) (k : ℕ)
    (hm : m ≤ 99 ∧ m.toNat / 10 * 16 + 9 < 2 ^ k ∧ mask.toNat = 2 ^ k - 1) :
  hex2bcd v &&& mask = hex2bcd v
  := by
  obtain ⟨hle, hlt, hmask⟩ := hm
  have hnat : v.toNat ≤ m.toNat := UInt8.le_iff_toNat_le.mp hv
  rw [← UInt8.toNat_inj, UInt8.toNat_and, hmask, Nat.and_two_pow_sub_one_eq_mod,
    toNat_hex2bcd (UInt8.le_trans hv hle), Nat.mod_eq_of_lt]
  omega

/-- So what is written under such a mask is the code of the value. -/
theorem isBcd_and {v m mask : UInt8} (hv : v ≤ m) (k : ℕ)
    (hm : m ≤ 99 ∧ m.toNat / 10 * 16 + 9 < 2 ^ k ∧ mask.toNat = 2 ^ k - 1) :
  IsBcd (hex2bcd v &&& mask) v
  := by
  rw [hex2bcd_and hv k hm]
  exact isBcd_hex2bcd (UInt8.le_trans hv hm.1)

/-- And what is read under the mask again is the value. -/
theorem bcd2hex_and {v m mask : UInt8} (hv : v ≤ m) (k : ℕ)
    (hm : m ≤ 99 ∧ m.toNat / 10 * 16 + 9 < 2 ^ k ∧ mask.toNat = 2 ^ k - 1) :
  bcd2hex (hex2bcd v &&& mask &&& mask) = v
  := by
  rw [hex2bcd_and hv k hm, hex2bcd_and hv k hm]
  exact bcd2hex_hex2bcd (UInt8.le_trans hv hm.1)

/-- What a mask keeps has no bits outside of it. -/
theorem and_and_eq_zero {mask mask' : UInt8} (h : mask &&& mask' = 0) (b : UInt8) :
  b &&& mask &&& mask' = 0
  := by
  rw [UInt8.and_assoc, h, UInt8.and_zero]

/-- `setTime` first removes the write protection, so that it writes all registers, whatever they
were, and then puts it back. -/
theorem setTime_registers (regs : ℕ → UInt8) (time : Mem) :
  let regs' := UhfReader.setTime regs time
  regs' 0x8C = hex2bcd (time 0) ∧ regs' 0x88 = hex2bcd (time 1) &&& 0x1f
    ∧ regs' 0x86 = hex2bcd (time 2) &&& 0x3f ∧ regs' 0x84 = hex2bcd (time 3) &&& 0x3f
    ∧ regs' 0x82 = hex2bcd (time 4) &&& 0x7f ∧ regs' 0x80 = hex2bcd (time 5) &&& 0x7f
    ∧ regs' 0x8E = 0x80
  := by
  -- the bits that are taken over from other entries are none
  have hday := and_and_eq_zero (by decide : (0x3f : UInt8) &&& 0x80 = 0) (hex2bcd (time 2))
  have hminute := and_and_eq_zero (by decide : (0x7f : UInt8) &&& 0x80 = 0) (hex2bcd (time 4))
  simp [UhfReader.setTime, UhfReader.writeByte, hday, hminute]

/-- A calendar time that is set is stored, each value in its register. -/
theorem stores_setTime (regs : ℕ → UInt8) {time : Mem} (h : CalendarTime time) :
  Stores (UhfReader.setTime regs time) time
  := by
  obtain ⟨hyear, hmonth, hday, hhour, hminute, hsecond, hcontrol⟩ := setTime_registers regs time
  constructor
  case year => exact hyear ▸ isBcd_hex2bcd h.year
  case month => exact hmonth ▸ isBcd_and h.month.2 5 (by decide)
  case day => exact hday ▸ isBcd_and h.day.2 6 (by decide)
  case hour => exact hhour ▸ isBcd_and h.hour 6 (by decide)
  case minute => exact hminute ▸ isBcd_and h.minute 7 (by decide)
  case second => exact hsecond ▸ isBcd_and h.second 7 (by decide)
  case running => exact hsecond ▸ and_and_eq_zero (by decide) _
  case hours24 => exact hhour ▸ and_and_eq_zero (by decide) _
  case control => exact hcontrol

/-- A calendar time that is set is what is read then. -/
theorem getTime_setTime (regs : ℕ → UInt8) {time : Mem} (h : CalendarTime time) :
  UhfReader.getTime (UhfReader.setTime regs time) = time.take 6
  := by
  obtain ⟨hyear, hmonth, hday, hhour, hminute, hsecond, -⟩ := setTime_registers regs time
  unfold UhfReader.getTime UhfReader.readByte
  rw [hyear, hmonth, hday, hhour, hminute, hsecond, bcd2hex_hex2bcd h.year,
    bcd2hex_and h.month.2 5 (by decide), bcd2hex_and h.day.2 6 (by decide),
    bcd2hex_and h.hour 6 (by decide), bcd2hex_and h.minute 7 (by decide),
    bcd2hex_and h.second 7 (by decide)]
  rfl

/-- Between idle lines, whatever the registers of the chip are, a calendar time that is set with
`setTime` is stored in the registers, which are protected then, and `getTime` reads it back. -/
theorem clock_round_trip {bus : Wires} (hbus : bus.Idle) {time : Mem} (h : CalendarTime time) :
  (getTime (setTime time bus)).1 = time.take 6
    ∧ Stores (setTime time bus).chip.memory time
    ∧ (getTime (setTime time bus)).2.chip.memory = (setTime time bus).chip.memory
    ∧ (getTime (setTime time bus)).2.Idle
  := by
  have hset := Holds.setTime ⟨hbus, rfl⟩ time
  obtain ⟨hread, hholds⟩ := hset.getTime
  refine ⟨?_, ?_, hholds.memory.trans hset.memory.symm, hholds.idle⟩
  · rw [hread]
    exact getTime_setTime bus.chip.memory h
  · rw [hset.memory]
    exact stores_setTime bus.chip.memory h

/-- The last second of a year. -/
def lastSecond : Mem := fun i => [99, 12, 31, 23, 59, 59].getD i 0

/-- Lines at a low level, with a chip that is halted and write protected. -/
def haltedWires : Wires := ⟨⟨fun _ => 0xFF, [], [], false⟩, false, false, false, false⟩

theorem clock_round_trip_last :
  (getTime (setTime lastSecond (rtcInit haltedWires))).1 = lastSecond.take 6
  := by
  have htime : CalendarTime lastSecond :=
    ⟨by decide, by decide, by decide, by decide, by decide, by decide⟩
  exact (clock_round_trip (rtcInit_idle haltedWires) htime).1

end UhfReader.Ds1302
