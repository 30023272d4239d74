/-
  Stdiolink.Modbus.ModbusTypes — typed values in registers, `modbus_types.cpp`.

  A value of a data type takes one, two or four registers, in one of four byte orders.  The floats
  are their bits, as `memcpy` has them.

  Main results:
    * `combineRegisters32_split` / `combineRegisters64_split` — in each byte order, a number is the
      one of the registers that it is split into;
    * `byte_orders` — numbers and lists of registers determine each other, and the little-endian
      orders are the big-endian ones backwards.
-/
import Stdiolink.Lib.Bytes

namespace Stdiolink.Modbus

open Stdiolink.Lib

/-! ## §1. Types and orders -/

/-- `ByteOrder`. -/
inductive ByteOrder where
  | bigEndian
  | littleEndian
  | bigEndianByteSwap
  | littleEndianByteSwap
  deriving DecidableEq, Repr

/-- `DataType`. -/
inductive DataType where
  | int16
  | uint16
  | int32
  | uint32
  | float32
  | int64
  | uint64
  | float64
  deriving DecidableEq, Repr

def registersPerType : DataType → Nat
  | .int16 | .uint16 => 1
  | .int32 | .uint32 | .float32 => 2
  | .int64 | .uint64 | .float64 => 4

def parseByteOrder (str : String) : ByteOrder :=
  if str = "little_endian" then .littleEndian
  else if str = "big_endian_byte_swap" then .bigEndianByteSwap
  else if str = "little_endian_byte_swap" then .littleEndianByteSwap
  else .bigEndian

def parseDataType (str : String) : DataType :=
  if str = "int16" then .int16
  else if str = "uint16" then .uint16
  else if str = "int32" then .int32
  else if str = "uint32" then .uint32
  else if str = "float32" then .float32
  else if str = "int64" then .int64
  else if str = "uint64" then .uint64
  else if str = "float64" then .float64
  else .uint16

/-! ## §2. Registers and values -/

/-- `ByteOrderConverter`. -/
structure ByteOrderConverter where
  order : ByteOrder := .bigEndian

/-- The two bytes of a register, the other way round. -/
def swapBytes (register : UInt16) : UInt16 :=
  ((register &&& 0xFF) <<< 8) ||| ((register >>> 8) &&& 0xFF)

/-- The number with these two registers. -/
def joinRegisters (high low : UInt16) : UInt32 := (high.toUInt32 <<< 16) ||| low.toUInt32

namespace ByteOrderConverter

variable (conv : ByteOrderConverter)

def combineRegisters32 (high low : UInt16) : UInt32 :=
  match conv.order with
  | .bigEndian => joinRegisters high low
  | .littleEndian => joinRegisters low high
  | .bigEndianByteSwap => joinRegisters (swapBytes high) (swapBytes low)
  | .littleEndianByteSwap => joinRegisters (swapBytes low) (swapBytes high)

def combineRegisters64 (r0 r1 r2 r3 : UInt16) : UInt64 :=
  -- each half has its registers in the order of its own, the halves are exchanged after that
  let high := conv.combineRegisters32 r0 r1
  let low := conv.combineRegisters32 r2 r3
  match conv.order with
  | .bigEndian | .bigEndianByteSwap => (high.toUInt64 <<< 32) ||| low.toUInt64
  | .littleEndian | .littleEndianByteSwap => (low.toUInt64 <<< 32) ||| high.toUInt64

section Reading

variable (regs : List UInt16) (offset : Nat)

def toUInt16 : UInt16 := if offset ≥ regs.length then 0 else regs.getD offset 0

def toInt16 : Int16 := (toUInt16 regs offset).toInt16

def toUInt32 : UInt32 :=
  if offset + 1 ≥ regs.length then 0
  else conv.combineRegisters32 (regs.getD offset 0) (regs.getD (offset + 1) 0)

def toInt32 : Int32 := (conv.toUInt32 regs offset).toInt32

/-- `toFloat32`: the bits. -/
def toFloat32 : UInt32 := conv.toUInt32 regs offset

def toUInt64 : UInt64 :=
  if offset + 3 ≥ regs.length then 0
  else conv.combineRegisters64 (regs.getD offset 0) (regs.getD (offset + 1) 0)
    (regs.getD (offset + 2) 0) (regs.getD (offset + 3) 0)

def toInt64 : Int64 := (conv.toUInt64 regs offset).toInt64

/-- `toFloat64`: the bits. -/
def toFloat64 : UInt64 := conv.toUInt64 regs offset

end Reading

/-- `splitRegisters32`: `high` and `low`. -/
def splitRegisters32 (value : UInt32) : UInt16 × UInt16 :=
  let h := (value >>> 16).toUInt16
  let l := (value &&& 0xFFFF).toUInt16
  match conv.order with
  | .bigEndian => (h, l)
  | .littleEndian => (l, h)
  | .bigEndianByteSwap => (swapBytes h, swapBytes l)
  | .littleEndianByteSwap => (swapBytes l, swapBytes h)

/-- `splitRegisters64`: the four registers. -/
def splitRegisters64 (value : UInt64) : (UInt16 × UInt16) × (UInt16 × UInt16) :=
  let first := (value >>> 32).toUInt32
  let second := (value &&& 0xFFFFFFFF).toUInt32
  match conv.order with
  | .bigEndian | .bigEndianByteSwap =>
    (conv.splitRegisters32 first, conv.splitRegisters32 second)
  | .littleEndian | .littleEndianByteSwap =>
    (conv.splitRegisters32 second, conv.splitRegisters32 first)

def fromUInt16 (value : UInt16) : List UInt16 := [value]

def fromInt16 (value : Int16) : List UInt16 := fromUInt16 value.toUInt16

def fromUInt32 (value : UInt32) : List UInt16 :=
  let (high, low) := conv.splitRegisters32 value
  [high, low]

def fromInt32 (value : Int32) : List UInt16 := conv.fromUInt32 value.toUInt32

/-- `fromFloat32`, with the bits. -/
def fromFloat32 (raw : UInt32) : List UInt16 := conv.fromUInt32 raw

def fromUInt64 (value : UInt64) : List UInt16 :=
  let ((r0, r1), (r2, r3)) := conv.splitRegisters64 value
  [r0, r1, r2, r3]

def fromInt64 (value : Int64) : List UInt16 := conv.fromUInt64 value.toUInt64

/-- `fromFloat64`, with the bits. -/
def fromFloat64 (raw : UInt64) : List UInt16 := conv.fromUInt64 raw

end ByteOrderConverter

/-! ## §3. Round trips -/

theorem swapBytes_toNat (register : UInt16) :
    (swapBytes register).toNat = register.toNat % 256 * 256 + register.toNat / 256 := by
  have hlt := register.toNat_lt
  have hlow : (register &&& 0xFF).toNat = register.toNat % 256 := by
    show register.toNat &&& (2 ^ 8 - 1) = _
    rw [Nat.and_two_pow_sub_one_eq_mod]
  have hhigh : ((register >>> 8) &&& 0xFF).toNat = register.toNat / 256 := by
    show (register.toNat >>> 8) &&& (2 ^ 8 - 1) = _
    rw [Nat.and_two_pow_sub_one_eq_mod, Nat.shiftRight_eq_div_pow]
    omega
  have hshift : ((register &&& 0xFF) <<< 8).toNat = (register.toNat % 256) <<< 8 := by
    show (register &&& 0xFF).toNat <<< 8 % 65536 = _
    rw [hlow, Nat.shiftLeft_eq]
    omega
  have hor : (swapBytes register).toNat =
      ((register &&& 0xFF) <<< 8).toNat ||| ((register >>> 8) &&& 0xFF).toNat := rfl
  rw [hor, hshift, hhigh, ← Nat.shiftLeft_add_eq_or_of_lt (by omega), Nat.shiftLeft_eq]

@[simp] theorem swapBytes_swapBytes (register : UInt16) :
    swapBytes (swapBytes register) = register := by
  have hlt := register.toNat_lt
  apply UInt16.toNat_inj.mp
  rw [swapBytes_toNat, swapBytes_toNat]
  omega

theorem joinRegisters_toNat (high low : UInt16) :
    (joinRegisters high low).toNat = high.toNat * 65536 + low.toNat := by
  have hhigh := high.toNat_lt
  have hlow := low.toNat_lt
  have hor : (joinRegisters high low).toNat =
      (high.toNat <<< 16 % 2 ^ 32) ||| low.toNat := rfl
  have hshift : high.toNat <<< 16 % 2 ^ 32 = high.toNat <<< 16 := by
    rw [Nat.shiftLeft_eq]
    omega
  rw [hor, hshift, ← Nat.shiftLeft_add_eq_or_of_lt hlow, Nat.shiftLeft_eq]

/-- A number is the one of its two registers. -/
theorem joinRegisters_split (value : UInt32) :
    joinRegisters (value >>> 16).toUInt16 (value &&& 0xFFFF).toUInt16 = value := by
  have hlt := value.toNat_lt
  apply UInt32.toNat_inj.mp
  rw [joinRegisters_toNat]
  have hhigh : (value >>> 16).toUInt16.toNat = value.toNat / 65536 := by
    show value.toNat >>> 16 % 65536 = _
    rw [Nat.shiftRight_eq_div_pow]
    omega
  have hlow : (value &&& 0xFFFF).toUInt16.toNat = value.toNat % 65536 := by
    show (value.toNat &&& (2 ^ 16 - 1)) % 65536 = _
    rw [Nat.and_two_pow_sub_one_eq_mod]
    omega
  rw [hhigh, hlow]
  omega

/-- A number is the one of its two halves. -/
theorem joinHalves_split (value : UInt64) :
    ((value >>> 32).toUInt32.toUInt64 <<< 32) ||| (value &&& 0xFFFFFFFF).toUInt32.toUInt64 =
      value := by
  -- the halves do not overlap, so `|||` is a sum
  have hlt := value.toNat_lt
  apply UInt64.toNat_inj.mp
  have hlow : (value &&& 0xFFFFFFFF).toUInt32.toNat = value.toNat % 2 ^ 32 := by
    show (value.toNat &&& (2 ^ 32 - 1)) % 2 ^ 32 = _
    rw [Nat.and_two_pow_sub_one_eq_mod]
    omega
  have hhigh : (value >>> 32).toUInt32.toNat = value.toNat / 2 ^ 32 := by
    show value.toNat >>> 32 % 2 ^ 32 = _
    rw [Nat.shiftRight_eq_div_pow]
    omega
  have hor : (((value >>> 32).toUInt32.toUInt64 <<< 32) |||
      (value &&& 0xFFFFFFFF).toUInt32.toUInt64).toNat =
        ((value >>> 32).toUInt32.toNat <<< 32 % 2 ^ 64) |||
          (value &&& 0xFFFFFFFF).toUInt32.toNat := rfl
  rw [hor, hhigh, hlow]
  have hshift : (value.toNat / 2 ^ 32) <<< 32 % 2 ^ 64 = (value.toNat / 2 ^ 32) <<< 32 := by
    rw [Nat.shiftLeft_eq]
    omega
  rw [hshift, ← Nat.shiftLeft_add_eq_or_of_lt (Nat.mod_lt _ (by decide)), Nat.shiftLeft_eq]
  omega

namespace ByteOrderConverter

variable (conv : ByteOrderConverter)

/-- **Two registers**, in each byte order. -/
theorem combineRegisters32_split (value : UInt32) :
    conv.combineRegisters32 (conv.splitRegisters32 value).1 (conv.splitRegisters32 value).2 =
      value := by
  obtain ⟨order⟩ := conv
  cases order with
  | bigEndian => exact joinRegisters_split value
  | littleEndian => exact joinRegisters_split value
  | bigEndianByteSwap =>
    simp only [combineRegisters32, splitRegisters32, swapBytes_swapBytes]
    exact joinRegisters_split value
  | littleEndianByteSwap =>
    simp only [combineRegisters32, splitRegisters32, swapBytes_swapBytes]
    exact joinRegisters_split value

/-- **Four registers**. -/
theorem combineRegisters64_split (value : UInt64) :
    conv.combineRegisters64 (conv.splitRegisters64 value).1.1 (conv.splitRegisters64 value).1.2
        (conv.splitRegisters64 value).2.1 (conv.splitRegisters64 value).2.2 =
      value := by
  obtain ⟨order⟩ := conv
  cases order with
  | bigEndian =>
    simp only [combineRegisters64, splitRegisters64, combineRegisters32_split]
    exact joinHalves_split value
  | littleEndian =>
    simp only [combineRegisters64, splitRegisters64, combineRegisters32_split]
    exact joinHalves_split value
  | bigEndianByteSwap =>
    simp only [combineRegisters64, splitRegisters64, combineRegisters32_split]
    exact joinHalves_split value
  | littleEndianByteSwap =>
    simp only [combineRegisters64, splitRegisters64, combineRegisters32_split]
    exact joinHalves_split value

theorem toUInt32_fromUInt32 (value : UInt32) : conv.toUInt32 (conv.fromUInt32 value) 0 = value :=
  conv.combineRegisters32_split value

theorem toUInt64_fromUInt64 (value : UInt64) : conv.toUInt64 (conv.fromUInt64 value) 0 = value :=
  conv.combineRegisters64_split value

end ByteOrderConverter

/-! ## §4. Registers are those of their number -/

/-- Two registers are those of their number. -/
theorem split_joinRegisters (high low : UInt16) :
    (joinRegisters high low >>> 16).toUInt16 = high ∧
      (joinRegisters high low &&& 0xFFFF).toUInt16 = low := by
  have hhigh := high.toNat_lt
  have hlow := low.toNat_lt
  constructor
  · apply UInt16.toNat_inj.mp
    show (joinRegisters high low).toNat >>> 16 % 65536 = _
    rw [joinRegisters_toNat, Nat.shiftRight_eq_div_pow]
    omega
  · apply UInt16.toNat_inj.mp
    show ((joinRegisters high low).toNat &&& (2 ^ 16 - 1)) % 65536 = _
    rw [joinRegisters_toNat, Nat.and_two_pow_sub_one_eq_mod]
    omega

theorem joinHalves_toNat (high low : UInt32) :
    ((high.toUInt64 <<< 32) ||| low.toUInt64).toNat = high.toNat * 2 ^ 32 + low.toNat := by
  have hhigh := high.toNat_lt
  have hlow := low.toNat_lt
  have hor : ((high.toUInt64 <<< 32) ||| low.toUInt64).toNat =
      (high.toNat <<< 32 % 2 ^ 64) ||| low.toNat := rfl
  have hshift : high.toNat <<< 32 % 2 ^ 64 = high.toNat <<< 32 := by
    rw [Nat.shiftLeft_eq]
    omega
  rw [hor, hshift, ← Nat.shiftLeft_add_eq_or_of_lt hlow, Nat.shiftLeft_eq]

/-- Two halves are those of their number. -/
theorem split_joinHalves (high low : UInt32) :
    (((high.toUInt64 <<< 32) ||| low.toUInt64) >>> 32).toUInt32 = high ∧
      (((high.toUInt64 <<< 32) ||| low.toUInt64) &&& 0xFFFFFFFF).toUInt32 = low := by
  have hhigh := high.toNat_lt
  have hlow := low.toNat_lt
  constructor
  · apply UInt32.toNat_inj.mp
    show ((high.toUInt64 <<< 32) ||| low.toUInt64).toNat >>> 32 % 2 ^ 32 = _
    rw [joinHalves_toNat, Nat.shiftRight_eq_div_pow]
    omega
  · apply UInt32.toNat_inj.mp
    show (((high.toUInt64 <<< 32) ||| low.toUInt64).toNat &&& (2 ^ 32 - 1)) % 2 ^ 32 = _
    rw [joinHalves_toNat, Nat.and_two_pow_sub_one_eq_mod]
    omega

/-- Numbers, and lists of so many registers, determine each other. -/
structure Inverse {α : Type} (size : Nat) (fromValue : α → List UInt16)
    (toValue : List UInt16 → α) : Prop where
  length : ∀ value, (fromValue value).length = size
  value : ∀ value, toValue (fromValue value) = value
  registers : ∀ regs, regs.length = size → fromValue (toValue regs) = regs

namespace ByteOrderConverter

variable (conv : ByteOrderConverter)

theorem splitRegisters32_combine (high low : UInt16) :
    conv.splitRegisters32 (conv.combineRegisters32 high low) = (high, low) := by
  obtain ⟨order⟩ := conv
  cases order with
  | bigEndian =>
    obtain ⟨hhigh, hlow⟩ := split_joinRegisters high low
    simp only [combineRegisters32, splitRegisters32, hhigh, hlow]
  | littleEndian =>
    obtain ⟨hhigh, hlow⟩ := split_joinRegisters low high
    simp only [combineRegisters32, splitRegisters32, hhigh, hlow]
  | bigEndianByteSwap =>
    obtain ⟨hhigh, hlow⟩ := split_joinRegisters (swapBytes high) (swapBytes low)
    simp only [combineRegisters32, splitRegisters32, hhigh, hlow, swapBytes_swapBytes]
  | littleEndianByteSwap =>
    obtain ⟨hhigh, hlow⟩ := split_joinRegisters (swapBytes low) (swapBytes high)
    simp only [combineRegisters32, splitRegisters32, hhigh, hlow, swapBytes_swapBytes]

theorem splitRegisters64_combine (r0 r1 r2 r3 : UInt16) :
    conv.splitRegisters64 (conv.combineRegisters64 r0 r1 r2 r3) = ((r0, r1), (r2, r3)) := by
  have hfirst := conv.splitRegisters32_combine r0 r1
  have hsecond := conv.splitRegisters32_combine r2 r3
  obtain ⟨hhigh, hlow⟩ :=
    split_joinHalves (conv.combineRegisters32 r0 r1) (conv.combineRegisters32 r2 r3)
  obtain ⟨hhigh', hlow'⟩ :=
    split_joinHalves (conv.combineRegisters32 r2 r3) (conv.combineRegisters32 r0 r1)
  unfold splitRegisters64 combineRegisters64
  cases horder : conv.order with
  | bigEndian => simp only [hhigh, hlow, hfirst, hsecond]
  | littleEndian => simp only [hhigh', hlow', hfirst, hsecond]
  | bigEndianByteSwap => simp only [hhigh, hlow, hfirst, hsecond]
  | littleEndianByteSwap => simp only [hhigh', hlow', hfirst, hsecond]

theorem inverse32 : Inverse 2 conv.fromUInt32 (conv.toUInt32 · 0) where
  length _ := rfl
  value := conv.toUInt32_fromUInt32
  registers regs hregs := by
    obtain ⟨high, low, rfl⟩ := List.length_eq_two.mp hregs
    show [(conv.splitRegisters32 (conv.combineRegisters32 high low)).1,
      (conv.splitRegisters32 (conv.combineRegisters32 high low)).2] = _
    rw [conv.splitRegisters32_combine]

theorem inverse64 : Inverse 4 conv.fromUInt64 (conv.toUInt64 · 0) where
  length _ := rfl
  value := conv.toUInt64_fromUInt64
  registers regs hregs := by
    obtain ⟨r0, rest, rfl⟩ := List.exists_cons_of_length_eq_add_one hregs
    obtain ⟨r1, r2, r3, rfl⟩ := List.length_eq_three.mp (Nat.succ.inj hregs)
    show [(conv.splitRegisters64 (conv.combineRegisters64 r0 r1 r2 r3)).1.1,
      (conv.splitRegisters64 (conv.combineRegisters64 r0 r1 r2 r3)).1.2,
      (conv.splitRegisters64 (conv.combineRegisters64 r0 r1 r2 r3)).2.1,
      (conv.splitRegisters64 (conv.combineRegisters64 r0 r1 r2 r3)).2.2] = _
    rw [conv.splitRegisters64_combine]

/-- The order of the registers backwards, with the bytes of each as they are. -/
def reversed : ByteOrderConverter where
  order :=
    match conv.order with
    | .bigEndian => .littleEndian
    | .littleEndian => .bigEndian
    | .bigEndianByteSwap => .littleEndianByteSwap
    | .littleEndianByteSwap => .bigEndianByteSwap

theorem splitRegisters32_reversed (value : UInt32) :
    conv.reversed.splitRegisters32 value = (conv.splitRegisters32 value).swap := by
  unfold splitRegisters32 reversed
  cases conv.order <;> rfl

/-- **The other endianness** has the registers backwards. -/
theorem fromUInt64_reversed (value : UInt64) :
    conv.reversed.fromUInt64 value = (conv.fromUInt64 value).reverse := by
  have hhalf := conv.splitRegisters32_reversed
  unfold fromUInt64 splitRegisters64
  dsimp only
  rw [hhalf, hhalf]
  unfold reversed
  cases conv.order <;> rfl

end ByteOrderConverter

/-- **Byte orders.**  In each order, numbers and lists of registers determine each other, signed
numbers and floats through their bits, and the 64-bit orders of little endian are those of big
endian backwards. -/
theorem byte_orders :
    (∀ conv : ByteOrderConverter,
      Inverse 2 conv.fromUInt32 (conv.toUInt32 · 0) ∧
      Inverse 2 conv.fromInt32 (conv.toInt32 · 0) ∧
      Inverse 2 conv.fromFloat32 (conv.toFloat32 · 0) ∧
      Inverse 4 conv.fromUInt64 (conv.toUInt64 · 0) ∧
      Inverse 4 conv.fromInt64 (conv.toInt64 · 0) ∧
      Inverse 4 conv.fromFloat64 (conv.toFloat64 · 0)) ∧
    ∀ value,
      (ByteOrderConverter.mk .littleEndian).fromUInt64 value =
        ((ByteOrderConverter.mk .bigEndian).fromUInt64 value).reverse ∧
      (ByteOrderConverter.mk .littleEndianByteSwap).fromUInt64 value =
        ((ByteOrderConverter.mk .bigEndianByteSwap).fromUInt64 value).reverse := by
  refine ⟨fun conv => ?_, fun value => ⟨?_, ?_⟩⟩
  · have h32 := conv.inverse32
    have h64 := conv.inverse64
    refine ⟨h32, ⟨fun _ => rfl, fun value => ?_, fun regs hregs => ?_⟩, h32, h64,
      ⟨fun _ => rfl, fun value => ?_, fun regs hregs => ?_⟩, h64⟩
    · show (conv.toUInt32 (conv.fromUInt32 value.toUInt32) 0).toInt32 = value
      rw [h32.value, Int32.toInt32_toUInt32]
    · show conv.fromUInt32 (conv.toUInt32 regs 0).toInt32.toUInt32 = regs
      rw [UInt32.toUInt32_toInt32, h32.registers regs hregs]
    · show (conv.toUInt64 (conv.fromUInt64 value.toUInt64) 0).toInt64 = value
      rw [h64.value, Int64.toInt64_toUInt64]
    · show conv.fromUInt64 (conv.toUInt64 regs 0).toInt64.toUInt64 = regs
      rw [UInt64.toUInt64_toInt64, h64.registers regs hregs]
  · exact (ByteOrderConverter.mk .bigEndian).fromUInt64_reversed value
  · exact (ByteOrderConverter.mk .bigEndianByteSwap).fromUInt64_reversed value

end Stdiolink.Modbus
