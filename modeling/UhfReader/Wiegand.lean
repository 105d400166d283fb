import UhfReader.Device
import UhfReader.Lib.Bits
import UhfReader.Lib.Lines

/-!
# The Wiegand outputs

`packetDataWG26` and `packetDataWG34` send a card number as pulses on two lines, with a parity bit
in front of it and one behind it.  `packetDataWG261` and `packetDataWG341` do the same on the lines
of the second port.  A pulse is active between `WGDATA0CLR` and `WGDATA0SET`, which set and reset
the pin (a transistor behind it inverts the level).
-/

open Memory Lines Bits

namespace UhfReader

/-- The pins of `GPIOE` with `DATA0` and `DATA1` of the first port. -/
def firstPort : Pair ℕ := ⟨13, 14, by decide⟩

/-- The pins of `GPIOE` with `DATA0` and `DATA1` of the second port. -/
def secondPort : Pair ℕ := ⟨11, 10, by decide⟩

/-- `WGDATA0SET; WGDATA1SET` -/
def wgDataSet (port : Pair ℕ) : List (Act ℕ) := [.lower port.zero, .lower port.one]

/-- A bit: `WGDATA1CLR` or `WGDATA0CLR`, then a delay, and the line is set again. -/
def sendBit (port : Pair ℕ) (d : SDevice) (b : Bool) : List (Act ℕ) :=
  let width := (d.load Offset.widthOfWiegand).toNat * 5
  if b then [.raise port.one, .wait width, .lower port.one]
  else [.raise port.zero, .wait width, .lower port.zero]

/-- `Delay2us(g_device.AutoParam.InterverOfWiegand * 5)` -/
def interver (d : SDevice) : List (Act ℕ) :=
  [.wait ((d.load Offset.interverOfWiegand).toNat * 5)]

/-- A loop that adds the ones among the `n` lowest bits of `checkTemp` to `oneNum`. -/
def countOnes : ℕ → UInt8 → UInt8 → UInt8
  | 0, _, oneNum => oneNum
  | n + 1, checkTemp, oneNum =>
    countOnes n (checkTemp >>> 1) (if checkTemp &&& 0x01 ≠ 0 then oneNum + 1 else oneNum)

/-- The bytes of the card number in `buf`, of 32 bits, the first one on top. -/
def packBuf (ch : Mem) : UInt32 :=
  (List.range 4).foldl (fun buf i => (buf <<< 8) + (ch i).toUInt32) 0

/-- The loop that sends the `n` highest bits of `buf`. -/
def sendBuf (port : Pair ℕ) (d : SDevice) : ℕ → UInt32 → List (Act ℕ)
  | 0, _ => []
  | n + 1, buf =>
    wgDataSet port ++ sendBit port d (buf &&& 0x80000000 ≠ 0) ++ interver d
      ++ sendBuf port d n (buf <<< 1)

/-- What the functions have in common: the two parity bits, and between them `n` bits of the card
number. -/
def packetData (port : Pair ℕ) (d : SDevice) (n : ℕ) (ch : Mem) (even odd : Bool) :
    List (Act ℕ) :=
  wgDataSet port ++ sendBit port d even ++ interver d ++ sendBuf port d n (packBuf ch)
    ++ wgDataSet port ++ sendBit port d odd

/-- The 26 bits: `even` is for the first byte and the high half of the second one, `odd` for its
low half and the third byte. -/
def packetData26 (port : Pair ℕ) (d : SDevice) (ch : Mem) : List (Act ℕ) :=
  packetData port d 24 ch (countOnes 4 (ch 1 >>> 4) (countOnes 8 (ch 0) 0) % 2 ≠ 0)
    (countOnes 8 (ch 2) (countOnes 4 (ch 1) 0) % 2 = 0)

/-- The 34 bits: `even` is for the first two bytes, `odd` for the other two. -/
def packetData34 (port : Pair ℕ) (d : SDevice) (ch : Mem) : List (Act ℕ) :=
  packetData port d 32 ch (countOnes 8 (ch 1) (countOnes 8 (ch 0) 0) % 2 ≠ 0)
    (countOnes 8 (ch 3) (countOnes 8 (ch 2) 0) % 2 = 0)

def packetDataWG26 : SDevice → Mem → List (Act ℕ) := packetData26 firstPort

def packetDataWG34 : SDevice → Mem → List (Act ℕ) := packetData34 firstPort

def packetDataWG261 : SDevice → Mem → List (Act ℕ) := packetData26 secondPort

def packetDataWG341 : SDevice → Mem → List (Act ℕ) := packetData34 secondPort

/-! ### The bits that are sent -/

/-- The bits of bytes, the highest bit of each first. -/
def msbFirst (bytes : List UInt8) : List Bool := bytes.flatMap fun b => (bits 8 b.toNat).reverse

/-- A Wiegand code for some data: the data between two parity bits, so that the first half of the
code has an even number of ones and the second half an odd one. -/
structure WiegandCode (l code : List Bool) : Prop where
  length : code.length = l.length + 2
  carried : (code.drop 1).take l.length = l
  even : (code.take (code.length / 2)).count true % 2 = 0
  odd : (code.drop (code.length / 2)).count true % 2 = 1

/-- Two halves with their parity bits. -/
theorem WiegandCode.of_halves {l l' : List Bool} (hlength : l.length = l'.length) :
  WiegandCode (l ++ l')
    (decide (l.count true % 2 ≠ 0) :: (l ++ l') ++ [decide (l'.count true % 2 = 0)])
  := by
  have hhalf : (decide (l.count true % 2 ≠ 0) :: (l ++ l')
      ++ [decide (l'.count true % 2 = 0)]).length / 2 = l.length + 1 := by
    simp only [List.length_append, List.length_cons, List.length_nil, ← hlength]
    omega
  constructor
  · simp only [List.length_append, List.length_cons, List.length_nil]
  · exact List.take_left
  · rw [hhalf]
    by_cases h : l.count true % 2 = 0
    · simp [h]
    · simp [h]
      omega
  · rw [hhalf]
    by_cases h : l'.count true % 2 = 0
    · simp [h]
      omega
    · simp [h]
      omega

/-- The parity of the ones that are counted. -/
theorem countOnes_parity (n : ℕ) (checkTemp oneNum : UInt8) :
  (countOnes n checkTemp oneNum).toNat % 2
    = (oneNum.toNat + (bits n checkTemp.toNat).count true) % 2
  := by
  induction n generalizing checkTemp oneNum with
  | zero => rfl
  | succ n ih =>
    have hhalf : (checkTemp >>> 1).toNat = checkTemp.toNat / 2 := by
      rw [UInt8.toNat_shiftRight, Nat.shiftRight_eq_div_pow]
      rfl
    have hlow : checkTemp &&& 0x01 ≠ 0 ↔ checkTemp.toNat.testBit 0 = true := by
      rw [Ne, ← UInt8.toNat_inj, UInt8.toNat_and, Nat.testBit_zero]
      show ¬ checkTemp.toNat &&& 1 = 0 ↔ _
      rw [Nat.and_one_is_mod, decide_eq_true_iff]
      omega
    have hsucc : (oneNum + 1).toNat % 2 = (oneNum.toNat + 1) % 2 := by
      rw [UInt8.toNat_add]
      exact Nat.mod_mod_of_dvd _ (by decide)
    rw [countOnes, ih, bits, hhalf]
    by_cases h : checkTemp &&& 0x01 ≠ 0
    · rw [if_pos h, hlow.mp h, List.count_cons_self]
      omega
    · have hzero : checkTemp.toNat.testBit 0 = false := Bool.eq_false_iff.mpr (h ∘ hlow.mpr)
      rw [if_neg h, hzero, List.count_cons_of_ne Bool.false_ne_true]

/-- A byte is shifted into the number, which has `n` bits before. -/
theorem bits_push {n : ℕ} (buf : UInt32) (hn : n ≤ 24) (hbuf : buf.toNat < 2 ^ n) (c : UInt8) :
  ((buf <<< 8) + c.toUInt32).toNat < 2 ^ (n + 8)
    ∧ (bits (n + 8) ((buf <<< 8) + c.toUInt32).toNat).reverse
      = (bits n buf.toNat).reverse ++ (bits 8 c.toNat).reverse
  := by
  have hc : c.toNat < 2 ^ 8 := c.toNat_lt
  have hlt : c.toNat + 2 ^ 8 * buf.toNat < 2 ^ (n + 8) := by
    rw [Nat.pow_add]
    omega
  have h32 : 2 ^ (n + 8) ≤ 2 ^ 32 := Nat.pow_le_pow_right Nat.two_pos (by omega)
  have hshift : (buf <<< 8).toNat = 2 ^ 8 * buf.toNat := by
    rw [UInt32.toNat_shiftLeft, Nat.shiftLeft_eq, Nat.mul_comm]
    exact Nat.mod_eq_of_lt (Nat.lt_of_le_of_lt (Nat.le_add_left _ c.toNat)
      (Nat.lt_of_lt_of_le hlt h32))
  have hpush : ((buf <<< 8) + c.toUInt32).toNat = c.toNat + 2 ^ 8 * buf.toNat := by
    rw [UInt32.toNat_add, hshift, UInt8.toNat_toUInt32, Nat.add_comm]
    exact Nat.mod_eq_of_lt (Nat.lt_of_lt_of_le hlt h32)
  rw [hpush, Nat.add_comm n, bits_add n hc, List.reverse_append]
  exact ⟨Nat.add_comm n 8 ▸ hlt, rfl⟩

/-- The number has the bits of the bytes. -/
theorem bits_packBuf (ch : Mem) :
  (bits 32 (packBuf ch).toNat).reverse = msbFirst [ch 0, ch 1, ch 2, ch 3]
  := by
  obtain ⟨hlt0, hbits0⟩ := bits_push (n := 0) 0 (by decide) (by decide) (ch 0)
  obtain ⟨hlt1, hbits1⟩ := bits_push _ (by decide) hlt0 (ch 1)
  obtain ⟨hlt2, hbits2⟩ := bits_push _ (by decide) hlt1 (ch 2)
  obtain ⟨-, hbits3⟩ := bits_push _ (by decide) hlt2 (ch 3)
  have hpack : (bits 32 (packBuf ch).toNat).reverse = _ := hbits3
  rw [hpack, hbits2, hbits1, hbits0]
  rfl

/-- The highest bit goes out, the others move up. -/
theorem bits_shift (buf : UInt32) :
  (bits 32 buf.toNat).reverse
      = decide (buf &&& 0x80000000 ≠ 0) :: (bits 31 buf.toNat).reverse
    ∧ (bits 32 (buf <<< 1).toNat).reverse = (bits 31 buf.toNat).reverse ++ [false]
  := by
  constructor
  · have htop : decide (buf &&& 0x80000000 ≠ 0) = buf.toNat.testBit 31 := by
      have hand : (buf &&& 0x80000000).toNat = (buf.toNat.testBit 31).toNat * 2 ^ 31 :=
        Nat.and_two_pow buf.toNat 31
      rw [Bool.eq_iff_iff, decide_eq_true_iff, Ne, ← UInt32.toNat_inj, hand]
      cases buf.toNat.testBit 31 with
      | false => simp
      | true => simp
    rw [htop, bits_succ_last, List.reverse_append]
    rfl
  · have hdouble : (buf <<< 1).toNat = 2 * buf.toNat % 2 ^ 32 := by
      rw [UInt32.toNat_shiftLeft, Nat.shiftLeft_eq, Nat.mul_comm]
      rfl
    rw [hdouble, bits_mod, bits, Nat.mul_div_cancel_left _ Nat.two_pos, Nat.testBit_zero,
      Nat.mul_mod_right, List.reverse_cons]
    rfl

theorem sendBit_carries (port : Pair ℕ) (d : SDevice) (b : Bool) :
  port.Carries (sendBit port d b) [b]
  := by
  have hpulse := Pair.Carries.pulse port ((d.load Offset.widthOfWiegand).toNat * 5) b
  cases b with
  | false => exact hpulse
  | true => exact hpulse

theorem interver_carries (port : Pair ℕ) (d : SDevice) :
  port.Carries (interver d) []
  := .wait port _

/-- The loop sends the highest bits, the highest one first. -/
theorem sendBuf_carries (port : Pair ℕ) (d : SDevice) {n : ℕ} (hn : n ≤ 32) (buf : UInt32) :
  port.Carries (sendBuf port d n buf) ((bits 32 buf.toNat).reverse.take n)
  := by
  induction n generalizing buf with
  | zero => exact .nil port
  | succ n ih =>
    obtain ⟨hbits, hshift⟩ := bits_shift buf
    have hrest : (bits 32 (buf <<< 1).toNat).reverse.take n
        = (bits 31 buf.toNat).reverse.take n := by
      rw [hshift, List.take_append_of_le_length]
      simp only [List.length_reverse, length_bits]
      omega
    have hbit := (((Pair.Carries.settle port).append (sendBit_carries port d
      (buf &&& 0x80000000 ≠ 0))).append (interver_carries port d)).append
        (ih (by omega) (buf <<< 1))
    rw [hbits, List.take_succ_cons, ← hrest]
    exact hbit

/-! ### The functions -/

/-- What the functions have in common: the number is sent between the two other bits, whatever
the lines were before. -/
theorem packetData_spec (port : Pair ℕ) (d : SDevice) {n : ℕ} (hn : n ≤ 32) (ch : Mem)
    (even odd : Bool) (lv : ℕ → Bool) :
  port.received (packetData port d n ch even odd) lv
      = even :: (msbFirst [ch 0, ch 1, ch 2, ch 3]).take n ++ [odd]
    ∧ Always (fun lv => ¬ port.Clash lv) (packetData port d n ch even odd) lv
  := by
  have hbits := (((((sendBit_carries port d even).append (interver_carries port d)).append
    (sendBuf_carries port d hn (packBuf ch))).append (.settle port)).append
    (sendBit_carries port d odd)).after_settle lv
  rw [bits_packBuf] at hbits
  have hacts : packetData port d n ch even odd = port.settle ++ (sendBit port d even
      ++ interver d ++ sendBuf port d n (packBuf ch) ++ port.settle ++ sendBit port d odd) := by
    simp only [packetData, wgDataSet, Pair.settle, List.append_assoc]
  rw [hacts]
  exact ⟨by simpa using hbits.1, hbits.2.2⟩

/-- What `port` sends for a card number with the halves `l` and `l'`. -/
theorem packetData_halves (port : Pair ℕ) (d : SDevice) {n : ℕ} (hn : n ≤ 32) (ch : Mem)
    {even odd : Bool} {l l' : List Bool} (hlength : l.length = l'.length)
    (hdata : (msbFirst [ch 0, ch 1, ch 2, ch 3]).take n = l ++ l')
    (heven : even = decide (l.count true % 2 ≠ 0)) (hodd : odd = decide (l'.count true % 2 = 0))
    (lv : ℕ → Bool) :
  WiegandCode (l ++ l') (port.received (packetData port d n ch even odd) lv)
    ∧ Always (fun lv => ¬ port.Clash lv) (packetData port d n ch even odd) lv
  := by
  obtain ⟨hreceived, hapart⟩ := packetData_spec port d hn ch even odd lv
  refine ⟨?_, hapart⟩
  rw [hreceived, hdata, heven, hodd]
  exact .of_halves hlength

/-- The parity of the ones of two bytes. -/
theorem countOnes_two (n m : ℕ) (x y : UInt8) :
  countOnes m y (countOnes n x 0) % 2 = 0
    ↔ ((bits n x.toNat).reverse ++ (bits m y.toNat).reverse).count true % 2 = 0
  := by
  have hparity : (countOnes m y (countOnes n x 0)).toNat % 2
      = ((bits n x.toNat).count true + (bits m y.toNat).count true) % 2 := by
    rw [countOnes_parity, Nat.add_mod, countOnes_parity, ← Nat.add_mod, UInt8.toNat_zero,
      Nat.zero_add]
  rw [← UInt8.toNat_inj, UInt8.toNat_mod, List.count_append, List.count_reverse,
    List.count_reverse]
  exact hparity ▸ Iff.rfl

/-- The 26 bits are a code for three bytes. -/
theorem packetData26_spec (port : Pair ℕ) (d : SDevice) (ch : Mem) (lv : ℕ → Bool) :
  WiegandCode (msbFirst [ch 0, ch 1, ch 2]) (port.received (packetData26 port d ch) lv)
    ∧ Always (fun lv => ¬ port.Clash lv) (packetData26 port d ch) lv
  := by
  have hnibbles : bits 8 (ch 1).toNat
      = bits 4 (ch 1).toNat ++ bits 4 (ch 1 >>> 4).toNat := by
    have hhigh : (ch 1 >>> 4).toNat = (ch 1).toNat / 2 ^ 4 := by
      rw [UInt8.toNat_shiftRight, Nat.shiftRight_eq_div_pow]
      rfl
    rw [hhigh, ← drop_bits 4 4, ← take_bits _ (show 4 ≤ 4 + 4 by decide), List.take_append_drop]
  have hdata : msbFirst [ch 0, ch 1, ch 2]
      = ((bits 8 (ch 0).toNat).reverse ++ (bits 4 (ch 1 >>> 4).toNat).reverse)
        ++ ((bits 4 (ch 1).toNat).reverse ++ (bits 8 (ch 2).toNat).reverse) := by
    simp [msbFirst, hnibbles]
  rw [hdata]
  apply packetData_halves
  · decide
  · simp
  · rw [← hdata]
    simp [msbFirst, List.take_append, List.take_of_length_le]
  · exact decide_eq_decide.mpr (countOnes_two 8 4 _ _).not
  · exact decide_eq_decide.mpr (countOnes_two 4 8 _ _)

/-- The 34 bits are a code for four bytes. -/
theorem packetData34_spec (port : Pair ℕ) (d : SDevice) (ch : Mem) (lv : ℕ → Bool) :
  WiegandCode (msbFirst [ch 0, ch 1, ch 2, ch 3]) (port.received (packetData34 port d ch) lv)
    ∧ Always (fun lv => ¬ port.Clash lv) (packetData34 port d ch) lv
  := by
  have hdata : msbFirst [ch 0, ch 1, ch 2, ch 3]
      = ((bits 8 (ch 0).toNat).reverse ++ (bits 8 (ch 1).toNat).reverse)
        ++ ((bits 8 (ch 2).toNat).reverse ++ (bits 8 (ch 3).toNat).reverse) := by
    simp [msbFirst]
  rw [hdata]
  apply packetData_halves
  · decide
  · simp
  · rw [← hdata]
    simp [msbFirst]
  · exact decide_eq_decide.mpr (countOnes_two 8 8 _ _).not
  · exact decide_eq_decide.mpr (countOnes_two 8 8 _ _)

/-- What the functions send decodes back to the card number, on the first port and on the second
one. -/
theorem packetData_decodes (d : SDevice) (ch : Mem) (lv : ℕ → Bool) :
  (firstPort.received (packetDataWG26 d ch) lv).length = 26
    ∧ WiegandCode (msbFirst [ch 0, ch 1, ch 2]) (firstPort.received (packetDataWG26 d ch) lv)
    ∧ (firstPort.received (packetDataWG34 d ch) lv).length = 34
    ∧ WiegandCode (msbFirst [ch 0, ch 1, ch 2, ch 3])
      (firstPort.received (packetDataWG34 d ch) lv)
    ∧ secondPort.received (packetDataWG261 d ch) lv
      = firstPort.received (packetDataWG26 d ch) lv
    ∧ secondPort.received (packetDataWG341 d ch) lv
      = firstPort.received (packetDataWG34 d ch) lv
    ∧ Always (fun lv => ¬ firstPort.Clash lv) (packetDataWG26 d ch) lv
    ∧ Always (fun lv => ¬ firstPort.Clash lv) (packetDataWG34 d ch) lv
    ∧ Always (fun lv => ¬ secondPort.Clash lv) (packetDataWG261 d ch) lv
    ∧ Always (fun lv => ¬ secondPort.Clash lv) (packetDataWG341 d ch) lv
  := by
  obtain ⟨h26, hapart26⟩ := packetData26_spec firstPort d ch lv
  obtain ⟨h34, hapart34⟩ := packetData34_spec firstPort d ch lv
  have hsame : ∀ n even odd, n ≤ 32 → secondPort.received (packetData secondPort d n ch even odd) lv
      = firstPort.received (packetData firstPort d n ch even odd) lv := by
    intro n even odd hn
    exact (packetData_spec secondPort d hn ch even odd lv).1.trans
      (packetData_spec firstPort d hn ch even odd lv).1.symm
  refine ⟨?_, h26, ?_, h34, hsame _ _ _ (by decide), hsame _ _ _ (by decide), hapart26, hapart34,
    (packetData26_spec secondPort d ch lv).2, (packetData34_spec secondPort d ch lv).2⟩
  · exact h26.length.trans (by simp [msbFirst])
  · exact h34.length.trans (by simp [msbFirst])

end UhfReader
