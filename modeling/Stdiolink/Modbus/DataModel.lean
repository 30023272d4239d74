/-
  Stdiolink.Modbus.DataModel — function codes, exceptions, data areas and headers.

  The parts of `modbus_tcp_server.h` and of the enums of `modbus_tcp_server.cpp`
  that the request handlers read.  Data areas are lists; the four of one unit may
  have any sizes.
-/
import Stdiolink.Lib.Bytes

namespace Stdiolink.Modbus

open Stdiolink.Lib

/-! ## §1. Codes -/

/-- `ModbusFunctionCode`: the eight functions the server knows. -/
inductive ModbusFunctionCode where
  | readCoils
  | readDiscreteInputs
  | readHoldingRegisters
  | readInputRegisters
  | writeSingleCoil
  | writeSingleRegister
  | writeMultipleCoils
  | writeMultipleRegisters
  deriving Repr, DecidableEq

namespace ModbusFunctionCode

/-- The byte on the wire. -/
def code : ModbusFunctionCode → UInt8
  | readCoils => 0x01
  | readDiscreteInputs => 0x02
  | readHoldingRegisters => 0x03
  | readInputRegisters => 0x04
  | writeSingleCoil => 0x05
  | writeSingleRegister => 0x06
  | writeMultipleCoils => 0x0F
  | writeMultipleRegisters => 0x10

/-- The `switch (functionCode)`: which case a byte selects, if not the default. -/
def ofByte (b : UInt8) : Option ModbusFunctionCode :=
  [readCoils, readDiscreteInputs, readHoldingRegisters, readInputRegisters, writeSingleCoil,
    writeSingleRegister, writeMultipleCoils, writeMultipleRegisters].find? fun f => f.code = b

theorem code_of_ofByte {b : UInt8} {f : ModbusFunctionCode} (h : ofByte b = some f) :
    f.code = b := by
  simpa using List.find?_some h

/-- Bit 7 of the function is not set in a normal answer, -/
theorem code_highBit (f : ModbusFunctionCode) : f.code &&& 0x80 = 0 := by
  cases f <;> rfl

end ModbusFunctionCode

/-- and is set in an exception. -/
theorem highBit_set (fc : UInt8) : (fc ||| 0x80) &&& 0x80 ≠ 0 := by
  have hall : ∀ n : Fin 256, (UInt8.ofNat n ||| 0x80) &&& 0x80 ≠ 0 := by decide +kernel
  have hfc := hall ⟨fc.toNat, fc.toNat_lt⟩
  rwa [UInt8.ofNat_toNat] at hfc

/-- `ModbusException`. -/
inductive ModbusException where
  | illegalFunction
  | illegalDataAddress
  | illegalDataValue
  | slaveDeviceFailure
  | gatewayTargetDeviceFailed
  deriving Repr, DecidableEq

def ModbusException.code : ModbusException → UInt8
  | .illegalFunction => 0x01
  | .illegalDataAddress => 0x02
  | .illegalDataValue => 0x03
  | .slaveDeviceFailure => 0x04
  | .gatewayTargetDeviceFailed => 0x0B

/-! ## §2. Bytes -/

/-- `bytesToUInt16`. -/
def bytesToUInt16 (data : List UInt8) (offset : Nat) : UInt16 :=
  joinBytes (data.getD offset 0) (data.getD (offset + 1) 0)

/-- `uint16ToBytes`. -/
def uint16ToBytes (value : UInt16) : List UInt8 := wordBytes value

/-- Words after the first bytes. -/
theorem bytesToUInt16_drop (data : List UInt8) (n offset : Nat) :
    bytesToUInt16 (data.drop n) offset = bytesToUInt16 data (n + offset) := by
  simp only [bytesToUInt16, List.getD_eq_getElem?_getD, List.getElem?_drop, Nat.add_assoc]

/-- Words of the first bytes. -/
theorem bytesToUInt16_append {data : List UInt8} {offset : Nat} (more : List UInt8)
    (h : offset + 2 ≤ data.length) :
    bytesToUInt16 (data ++ more) offset = bytesToUInt16 data offset := by
  unfold bytesToUInt16
  rw [List.getD_append _ _ _ _ (by omega), List.getD_append _ _ _ _ (by omega)]

theorem length_flatMap_uint16ToBytes (f : Nat → UInt16) (count : Nat) :
    ((List.range count).flatMap fun k => uint16ToBytes (f k)).length = 2 * count := by
  induction count with
  | zero => rfl
  | succ n ih =>
    rw [List.range_succ, List.flatMap_append, List.length_append, ih]
    simp only [List.flatMap_cons, List.flatMap_nil, List.append_nil, uint16ToBytes,
      wordBytes_length]
    omega

/-- The words of a list, one after another. -/
theorem bytesToUInt16_flatMap (f : Nat → UInt16) {count i : Nat} (hi : i < count) :
    bytesToUInt16 ((List.range count).flatMap fun k => uint16ToBytes (f k)) (2 * i) = f i := by
  have hget : ∀ n j, j < 2 * n →
      (((List.range n).flatMap fun k => uint16ToBytes (f k))[j]?) =
        (uint16ToBytes (f (j / 2)))[j % 2]? := by
    intro n
    induction n with
    | zero => simp
    | succ n ih =>
      intro j hj
      have hlen := length_flatMap_uint16ToBytes f n
      rw [List.range_succ, List.flatMap_append]
      by_cases hlt : j < 2 * n
      · rw [List.getElem?_append_left (by omega), ih j hlt]
      · rw [List.getElem?_append_right (by omega), hlen]
        have hdiv : j / 2 = n := by omega
        have hmod : j - 2 * n = j % 2 := by omega
        simp [hdiv, hmod]
  have hhi : (2 * i) / 2 = i := by omega
  have hlo : (2 * i + 1) / 2 = i := by omega
  have hlo' : (2 * i + 1) % 2 = 1 := by omega
  simp only [bytesToUInt16, List.getD_eq_getElem?_getD]
  rw [hget count (2 * i) (by omega), hget count (2 * i + 1) (by omega), hhi, hlo, hlo']
  simp [uint16ToBytes, wordBytes, join_bytes]

/-! ## §3. Data areas and headers -/

/-- `ModbusTCPHeader`. -/
structure ModbusTCPHeader where
  transactionId : UInt16
  protocolId : UInt16
  length : UInt16
  unitId : UInt8
  deriving Repr, DecidableEq

/-- `ModbusDataArea`. -/
structure ModbusDataArea where
  coils : List Bool
  discreteInputs : List Bool
  holdingRegisters : List UInt16
  inputRegisters : List UInt16
  deriving Repr, DecidableEq

/-- The constructor. -/
def ModbusDataArea.ofSize (size : Nat) : ModbusDataArea :=
  { coils := List.replicate size false
    discreteInputs := List.replicate size false
    holdingRegisters := List.replicate size 0
    inputRegisters := List.replicate size 0 }

/-- The signals of the server about its data. -/
inductive ModbusSignal where
  | dataWritten (unitId : UInt8) (functionCode : ModbusFunctionCode) (address quantity : UInt16)
  | dataRead (unitId : UInt8) (functionCode : ModbusFunctionCode) (address quantity : UInt16)
  deriving Repr, DecidableEq

end Stdiolink.Modbus
