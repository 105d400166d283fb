import UhfReader.State

/-!
# The DS1302 clock

`getTime` and `setTime` at the level of the clock registers.  A register is named by its
write address; it is read at the address after that.
-/

open Memory

namespace UhfReader

/-- `BCD2HEX` -/
def bcd2hex (b : UInt8) : UInt8 := b / 16 * 10 + b % 16

/-- `HEX2BCD` -/
def hex2bcd (b : UInt8) : UInt8 := b / 10 * 16 + b % 10

/-- `readByte`: the read address is odd, one above the write address of the register. -/
def readByte (regs : ℕ → UInt8) (addr : ℕ) : UInt8 := regs (addr - 1)

/-- `writeByte`: a register other than the control register `0x8E` keeps its value while
the write protection bit is set. -/
def writeByte (regs : ℕ → UInt8) (addr : ℕ) (b : UInt8) : ℕ → UInt8 :=
  if addr ≠ 0x8E ∧ regs 0x8E &&& 0x80 ≠ 0 then regs
  else fun a => if a = addr then b else regs a

/-- `getTime`: year, month, day, hour, minute and second. -/
def getTime (regs : ℕ → UInt8) : List UInt8 :=
  [bcd2hex (readByte regs 0x8D), bcd2hex (readByte regs 0x89 &&& 0x1f),
    bcd2hex (readByte regs 0x87 &&& 0x3f), bcd2hex (readByte regs 0x85 &&& 0x3f),
    bcd2hex (readByte regs 0x83 &&& 0x7f), bcd2hex (readByte regs 0x81 &&& 0x7f)]

/-- `setTime`.  The registers are read first, but what is read is overwritten before it is
used, so the reading has no effect. -/
def setTime (regs : ℕ → UInt8) (time : Mem) : ℕ → UInt8 :=
  let clock : Mem := fun i => hex2bcd (time i)
  let regs := writeByte regs 0x8E 0x00
  let regs := writeByte regs 0x8C (clock 0)
  let regs := writeByte regs 0x8A 0x01
  let regs := writeByte regs 0x88 (clock 1 &&& 0x1f)
  let regs := writeByte regs 0x86 (clock 2 &&& 0x3f)
  let regs := writeByte regs 0x84 ((clock 2 &&& 0x3f &&& 0x80) ||| (clock 3 &&& 0x3f))
  let regs := writeByte regs 0x82 (clock 4 &&& 0x7f)
  let regs := writeByte regs 0x80 ((clock 4 &&& 0x7f &&& 0x80) ||| (clock 5 &&& 0x7f))
  writeByte regs 0x8E 0x80

/-- `getTime(g_device.ReaderTime)` -/
def Globals.readClock (g : Globals) : Globals :=
  { g with
    gDevice := g.gDevice.copy Offset.readerTime (fun i => (getTime g.ds1302).getD i 0) 6 }

/-- The time is all that it changes of the parameters. -/
theorem readClock_untouched (g : Globals) {i : ℕ}
    (hi : ¬ (Offset.readerTime ≤ i ∧ i < Offset.readerTime + 6)) :
  g.readClock.gDevice.load i = g.gDevice.load i
  := by
  rw [Globals.readClock]
  dsimp only
  apply Block.load_copy_outside
  omega

end UhfReader
