/-
  Stdiolink.Modbus.TypedRegisters — typed values of the TCP driver, `driver_modbustcp/main.cpp`.

  `write_holding_registers` reads the value as a double, casts it to the data type and splits it
  into registers.  Nothing checks that the value is one of the type; what a cast does with a value
  out of range is not defined and enters as a parameter.

  Main results:
    * `decode_encode`            — a value is read from the registers that it was written to;
    * `typed_values_round_trip`  — so it is by the commands, and no value is refused.
-/
import Stdiolink.Modbus.ModbusTypes
import Stdiolink.Modbus.TcpClient
import Stdiolink.Protocol.Doubles
import Stdiolink.Protocol.Jsonl

namespace Stdiolink.Modbus

open Stdiolink.Lib
open Stdiolink.Protocol
open Stdiolink.Protocol.Json

namespace ModbusTcpHandler

/-! ## §1. Values and registers -/

section Writing

variable (undefinedCast : DataType → ℚ → Int)

/-- `static_cast` of a double to an integer type with these bounds: towards zero. -/
def castTo (type : DataType) (lo hi : Int) (value : ℚ) : Int :=
  let n := value.num.tdiv value.den
  -- a double that does not fit after that has no defined result
  if lo ≤ n ∧ n ≤ hi then n else undefinedCast type value

/-- The registers of a value: the `switch` of `write_holding_registers`. -/
def encode (conv : ByteOrderConverter) (value : ℚ) : DataType → List UInt16
  | .int16 =>
    ByteOrderConverter.fromInt16
      (Int16.ofInt (castTo undefinedCast .int16 (-2 ^ 15) (2 ^ 15 - 1) value))
  | .uint16 =>
    ByteOrderConverter.fromUInt16
      (UInt16.ofInt (castTo undefinedCast .uint16 0 (2 ^ 16 - 1) value))
  | .int32 =>
    conv.fromInt32 (Int32.ofInt (castTo undefinedCast .int32 (-2 ^ 31) (2 ^ 31 - 1) value))
  | .uint32 => conv.fromUInt32 (UInt32.ofInt (castTo undefinedCast .uint32 0 (2 ^ 32 - 1) value))
  | .float32 => conv.fromFloat32 (UInt32.ofNat (binary32.ofRat value))
  | .int64 =>
    conv.fromInt64 (Int64.ofInt (castTo undefinedCast .int64 (-2 ^ 63) (2 ^ 63 - 1) value))
  | .uint64 => conv.fromUInt64 (UInt64.ofInt (castTo undefinedCast .uint64 0 (2 ^ 64 - 1) value))
  | .float64 => conv.fromFloat64 (UInt64.ofNat (binary64.ofRat value))

end Writing

/-- A double as a JSON value: only a finite one is a number. -/
def ofDouble : Option ℚ → Json
  | some v => num v
  | none => null

/-- The value in the registers from `i` on: the `switch` of `registersToJson`. -/
def decode (conv : ByteOrderConverter) (regs : List UInt16) (i : Nat) : DataType → Json
  | .int16 => num (ByteOrderConverter.toInt16 regs i).toInt
  | .uint16 => num (ByteOrderConverter.toUInt16 regs i).toNat
  | .int32 => num (conv.toInt32 regs i).toInt
  | .uint32 => num (conv.toUInt32 regs i).toNat
  | .float32 => ofDouble (binary32.toRat (conv.toFloat32 regs i).toNat)
  | .int64 => num (conv.toInt64 regs i).toInt
  | .uint64 =>
    -- the value is cast to `qint64`
    num (conv.toUInt64 regs i).toInt64.toInt
  | .float64 => ofDouble (binary64.toRat (conv.toFloat64 regs i).toNat)

/-- `registersToJson`. -/
def registersToJson (regs : List UInt16) (dataType byteOrder : String) : Json :=
  let conv : ByteOrderConverter := { order := parseByteOrder byteOrder }
  let dt := parseDataType dataType
  let step := registersPerType dt
  arr ((List.range (regs.length / step)).map fun k => decode conv regs (k * step) dt)

/-! ## §2. The commands -/

section Commands

variable {σ : Type*} (undefinedCast : DataType → ℚ → Int)
  (client : Operation → σ → ModbusResult × σ) (p : List (String × Json)) (device : σ)

/-- The address of a request, as it is passed to the client. -/
def addressOf : UInt16 := UInt16.ofInt (toInt (value p "address"))

def dataTypeOf : String := toStrOr "uint16" (value p "data_type")

def byteOrderOf : String := toStrOr "big_endian" (value p "byte_order")

/-- The registers that `write_holding_registers` writes. -/
def registersOf : List UInt16 :=
  encode undefinedCast { order := parseByteOrder (byteOrderOf p) } (toDouble (value p "value"))
    (parseDataType (dataTypeOf p))

/-- `write_holding_registers`, when the client is there. -/
def writeHoldingRegisters : Message × σ :=
  let regs := registersOf undefinedCast p
  let (result, device') := client (.writeMultipleRegisters (addressOf p) regs) device
  if result.success then (⟨.done, 0, obj [("written", num regs.length)]⟩, device')
  else (⟨.error, 2, obj [("message", str result.errorMessage)]⟩, device')

/-- `read_holding_registers`, when the client is there. -/
def readHoldingRegisters : Message × σ :=
  let count := UInt16.ofInt (toIntOr 1 (value p "count"))
  let (result, device') := client (.readHoldingRegisters (addressOf p) count) device
  if result.success then
    (⟨.done, 0, obj
      [("raw", arr (result.registers.map fun register => num register.toNat)),
        ("values", registersToJson result.registers (dataTypeOf p) (byteOrderOf p))]⟩, device')
  else (⟨.error, 2, obj [("message", str result.errorMessage)]⟩, device')

end Commands

/-- The values that are coils, -/
def coilsOf (values : List CellValue) : List Bool :=
  values.filterMap fun
    | .coil on => some on
    | .register _ => none

/-- and the ones that are registers. -/
def wordsOf (values : List CellValue) : List UInt16 :=
  values.filterMap fun
    | .coil _ => none
    | .register word => some word

/-- A client whose unit does what it is asked for. -/
def unitClient (op : Operation) (m : Memory AreaCell CellValue) :
    ModbusResult × Memory AreaCell CellValue :=
  match op.perform m with
  | some (m', values) =>
    ({ success := true, coils := coilsOf values, registers := wordsOf values }, m')
  | none =>
    ({ exception := ModbusException.illegalDataAddress.code
       errorMessage := exceptionMessage ModbusException.illegalDataAddress.code }, m)

/-! ## §3. Values of a type -/

/-- An integer with these bounds. -/
def IsInteger (lo hi : Int) (v : ℚ) : Prop := ∃ n : Int, v = n ∧ lo ≤ n ∧ n ≤ hi

/-- The values of a type. -/
def InType : DataType → ℚ → Prop
  | .int16, v => IsInteger (-2 ^ 15) (2 ^ 15 - 1) v
  | .uint16, v => IsInteger 0 (2 ^ 16 - 1) v
  | .int32, v => IsInteger (-2 ^ 31) (2 ^ 31 - 1) v
  | .uint32, v => IsInteger 0 (2 ^ 32 - 1) v
  | .float32, v => binary32.Represents v
  | .int64, v => IsInteger (-2 ^ 63) (2 ^ 63 - 1) v
  | .uint64, v => IsInteger 0 (2 ^ 64 - 1) v
  | .float64, v => binary64.Represents v

/-- **The values that are kept**: those of the type; of the types with 64 bits only what a double
is, and of `uint64` what a `qint64` is. -/
def Kept (type : DataType) (v : ℚ) : Prop :=
  InType type v ∧ (type = .int64 ∨ type = .uint64 → binary64.Represents v) ∧
    (type = .uint64 → v < 2 ^ 63)

/-! ## §4. Doubles -/

/-- Integers of up to 53 bits are doubles. -/
theorem represents_integer {lo hi : Int} {v : ℚ} (h : IsInteger lo hi v) (hlo : -2 ^ 53 < lo)
    (hhi : hi < 2 ^ 53) : binary64.Represents v := by
  obtain ⟨n, rfl, hn⟩ := h
  refine FloatFormat.represents_int ?_ (by decide)
  show n.natAbs < 2 ^ 53
  omega

/-- **What is kept** is a double. -/
theorem Kept.represents {type : DataType} {v : ℚ} (h : Kept type v) : binary64.Represents v := by
  obtain ⟨htype, hdouble, -⟩ := h
  cases type with
  | int16 => exact represents_integer htype (by decide) (by decide)
  | uint16 => exact represents_integer htype (by decide) (by decide)
  | int32 => exact represents_integer htype (by decide) (by decide)
  | uint32 => exact represents_integer htype (by decide) (by decide)
  | float32 => exact FloatFormat.Represents.mono (by decide) (by decide) (by decide) htype
  | int64 => exact hdouble (Or.inl rfl)
  | uint64 => exact hdouble (Or.inr rfl)
  | float64 => exact htype

/-! ## §5. Round trips -/

section RoundTrips

variable (undefinedCast : DataType → ℚ → Int) (conv : ByteOrderConverter)

/-- Integers are cast to themselves. -/
theorem castTo_integer {type : DataType} {lo hi n : Int} (hlo : lo ≤ n) (hhi : n ≤ hi) :
    castTo undefinedCast type lo hi (n : ℚ) = n := by
  unfold castTo
  have htrunc : (n : ℚ).num.tdiv (n : ℚ).den = n := by
    rw [Rat.num_intCast, Rat.den_intCast]
    exact Int.tdiv_one n
  dsimp only
  rw [htrunc, if_pos ⟨hlo, hhi⟩]

/-- Unsigned integers that fit. -/
theorem ofInt_natCast (m : Nat) :
    (m < 2 ^ 16 → UInt16.ofInt m = UInt16.ofNat m) ∧
      (m < 2 ^ 32 → UInt32.ofInt m = UInt32.ofNat m) ∧
      (m < 2 ^ 64 → UInt64.ofInt m = UInt64.ofNat m) := by
  refine ⟨fun h => congrArg UInt16.ofNat ?_, fun h => congrArg UInt32.ofNat ?_,
    fun h => congrArg UInt64.ofNat ?_⟩
  · exact Nat.mod_eq_of_lt h
  · exact Nat.mod_eq_of_lt h
  · exact Nat.mod_eq_of_lt h

/-- **A value of a type** is read from the registers that it was written to. -/
theorem decode_encode {type : DataType} {v : ℚ} (h : Kept type v) :
    decode conv (encode undefinedCast conv v type) 0 type = num v := by
  obtain ⟨htype, -, hsigned⟩ := h
  cases type with
  | int16 =>
    obtain ⟨n, rfl, hlo, hhi⟩ := htype
    rw [encode, decode]
    rw [castTo_integer undefinedCast hlo hhi]
    show num ((Int16.ofInt n).toInt : ℚ) = _
    rw [Int16.toInt_ofInt_of_le hlo (by omega)]
  | uint16 =>
    obtain ⟨n, rfl, hlo, hhi⟩ := htype
    rw [encode, decode]
    rw [castTo_integer undefinedCast hlo hhi]
    obtain ⟨m, rfl⟩ := Int.eq_ofNat_of_zero_le hlo
    have hlt : m < 2 ^ 16 := by omega
    show num ((UInt16.ofInt m).toNat : ℚ) = _
    rw [(ofInt_natCast m).1 hlt, UInt16.toNat_ofNat_of_lt' hlt, Int.cast_natCast]
  | int32 =>
    obtain ⟨n, rfl, hlo, hhi⟩ := htype
    rw [encode, decode]
    unfold ByteOrderConverter.toInt32 ByteOrderConverter.fromInt32
    rw [castTo_integer undefinedCast hlo hhi, conv.toUInt32_fromUInt32, Int32.toInt32_toUInt32,
      Int32.toInt_ofInt_of_le hlo (by omega)]
  | uint32 =>
    obtain ⟨n, rfl, hlo, hhi⟩ := htype
    rw [encode, decode]
    rw [castTo_integer undefinedCast hlo hhi, conv.toUInt32_fromUInt32]
    obtain ⟨m, rfl⟩ := Int.eq_ofNat_of_zero_le hlo
    have hlt : m < 2 ^ 32 := by omega
    rw [(ofInt_natCast m).2.1 hlt, UInt32.toNat_ofNat_of_lt' hlt, Int.cast_natCast]
  | float32 =>
    have hlt : binary32.ofRat v < UInt32.size := FloatFormat.ofRat_lt v
    rw [encode, decode]
    unfold ByteOrderConverter.toFloat32 ByteOrderConverter.fromFloat32
    rw [conv.toUInt32_fromUInt32, UInt32.toNat_ofNat_of_lt' hlt, FloatFormat.toRat_ofRat htype]
    rfl
  | int64 =>
    obtain ⟨n, rfl, hlo, hhi⟩ := htype
    rw [encode, decode]
    unfold ByteOrderConverter.toInt64 ByteOrderConverter.fromInt64
    rw [castTo_integer undefinedCast hlo hhi, conv.toUInt64_fromUInt64, Int64.toInt64_toUInt64,
      Int64.toInt_ofInt_of_le hlo (by omega)]
  | uint64 =>
    -- below 2^63 the cast to `qint64` changes nothing
    obtain ⟨n, rfl, hlo, hhi⟩ := htype
    have hsigned' : (n : ℚ) < 2 ^ 63 := hsigned rfl
    rw [encode, decode]
    rw [castTo_integer undefinedCast hlo hhi, conv.toUInt64_fromUInt64]
    obtain ⟨m, rfl⟩ := Int.eq_ofNat_of_zero_le hlo
    have hlt : m < 2 ^ 63 := by exact_mod_cast hsigned'
    rw [(ofInt_natCast m).2.2 (by omega), UInt64.toInt64_ofNat', Int64.toInt_ofNat_of_lt hlt]
  | float64 =>
    have hlt : binary64.ofRat v < UInt64.size := FloatFormat.ofRat_lt v
    rw [encode, decode]
    unfold ByteOrderConverter.toFloat64 ByteOrderConverter.fromFloat64
    rw [conv.toUInt64_fromUInt64, UInt64.toNat_ofNat_of_lt' hlt, FloatFormat.toRat_ofRat htype]
    rfl

theorem length_encode (value : ℚ) (type : DataType) :
    (encode undefinedCast conv value type).length = registersPerType type := by
  cases type <;> rfl

theorem registersToJson_encode {dataType byteOrder : String} {v : ℚ}
    (h : Kept (parseDataType dataType) v) :
    registersToJson
        (encode undefinedCast { order := parseByteOrder byteOrder } v (parseDataType dataType))
        dataType byteOrder =
      arr [num v] := by
  have hpos : 0 < registersPerType (parseDataType dataType) := by
    cases parseDataType dataType <;> decide
  unfold registersToJson
  dsimp only
  rw [length_encode, Nat.div_self hpos]
  show arr [decode _ _ (0 * _) _] = _
  rw [Nat.zero_mul, decode_encode undefinedCast _ h]

end RoundTrips

/-! ## §6. The commands -/

section Units

variable {m : Memory AreaCell CellValue} {address : UInt16} {regs : List UInt16}

open Operation (cellsFrom)

/-- The registers are there. -/
def RegistersThere (m : Memory AreaCell CellValue) (address : UInt16) (count : Nat) : Prop :=
  ∀ i < count, (m (.holdingRegisters, address.toNat + i)).isSome

theorem unitClient_write (hthere : RegistersThere m address regs.length) :
    unitClient (.writeMultipleRegisters address regs) m =
      ({ success := true }, m.writeAll (Operation.writeMultipleRegisters address regs).writes) := by
  have hcells : ∀ cell ∈ (Operation.writeMultipleRegisters address regs).cells,
      (m cell).isSome := by
    intro cell hcell
    simp only [Operation.cells, Operation.reads, Operation.writes, List.nil_append, List.map_map,
      List.mem_map, List.mem_range, Function.comp_apply] at hcell
    obtain ⟨i, hi, rfl⟩ := hcell
    exact hthere i hi
  unfold unitClient
  rw [Operation.perform_eq_some hcells]
  rfl

/-- **What has been written is read.** -/
theorem unitClient_read {count : UInt16} (hthere : RegistersThere m address regs.length)
    (hcount : count.toNat = regs.length) :
    (unitClient (.readHoldingRegisters address count)
      (m.writeAll (Operation.writeMultipleRegisters address regs).writes)).1 =
        { success := true, registers := regs } := by
  -- each register was written once
  have hwritten : ∀ i < regs.length,
      m.writeAll (Operation.writeMultipleRegisters address regs).writes
        (.holdingRegisters, address.toNat + i) = some (.register (regs.getD i 0)) := by
    intro i hi
    apply Memory.writeAll_of_mem
    · exact writes_nodup _
    · exact List.mem_map.mpr ⟨i, List.mem_range.mpr hi, rfl⟩
    · exact hthere i hi
  have hcells : ∀ cell ∈ (Operation.readHoldingRegisters address count).cells,
      (m.writeAll (Operation.writeMultipleRegisters address regs).writes cell).isSome := by
    intro cell hcell
    simp only [Operation.cells, Operation.reads, Operation.writes, List.map_nil, List.append_nil,
      cellsFrom, List.mem_map, List.mem_range] at hcell
    obtain ⟨i, hi, rfl⟩ := hcell
    rw [hwritten i (by omega)]
    rfl
  have hreads : (Operation.readHoldingRegisters address count).reads.filterMap
      (m.writeAll (Operation.writeMultipleRegisters address regs).writes) =
        (List.range regs.length).map fun i => .register (regs.getD i 0) := by
    rw [← hcount] at hwritten ⊢
    exact filterMap_cellsFrom hwritten
  have hcoils : coilsOf ((List.range regs.length).map fun i => .register (regs.getD i 0)) = [] := by
    unfold coilsOf
    rw [List.filterMap_map, List.filterMap_eq_nil_iff]
    exact fun _ _ => rfl
  have hwords : wordsOf ((List.range regs.length).map fun i => .register (regs.getD i 0)) =
      regs := by
    unfold wordsOf
    rw [List.filterMap_map]
    apply List.ext_getElem
    · simp
    · intro i _ hi
      simp [hi]
  unfold unitClient
  rw [Operation.perform_eq_some hcells, hreads]
  dsimp only
  rw [hcoils, hwords]

end Units

section Requests

variable (undefinedCast : DataType → ℚ → Int) {p q : List (String × Json)}
  {m : Memory AreaCell CellValue}

/-- The read request is for what the write request writes. -/
structure ReadsBack (p q : List (String × Json)) : Prop where
  address : addressOf q = addressOf p
  dataType : dataTypeOf q = dataTypeOf p
  byteOrder : byteOrderOf q = byteOrderOf p
  count : toIntOr 1 (value q "count") = registersPerType (parseDataType (dataTypeOf p))

/-- **No value is refused**, be it one of the type or not. -/
theorem writeHoldingRegisters_done
    (hthere : RegistersThere m (addressOf p)
      (registersPerType (parseDataType (dataTypeOf p)))) :
    writeHoldingRegisters undefinedCast unitClient p m =
      (⟨.done, 0, obj [("written", num (registersPerType (parseDataType (dataTypeOf p))))]⟩,
        m.writeAll (Operation.writeMultipleRegisters (addressOf p)
          (registersOf undefinedCast p)).writes) := by
  have hlen : (registersOf undefinedCast p).length =
      registersPerType (parseDataType (dataTypeOf p)) := length_encode _ _ _ _
  rw [← hlen] at hthere ⊢
  unfold writeHoldingRegisters
  dsimp only
  rw [unitClient_write hthere]
  rfl

/-- **Typed values.**  The registers that a request writes are there: then it is done, whatever the
value is; and a value that is kept is what a request reads back, for every data type and byte
order. -/
theorem typed_values_round_trip (p q : List (String × Json)) (m : Memory AreaCell CellValue)
    (hback : ReadsBack p q)
    (hthere : RegistersThere m (addressOf p)
      (registersPerType (parseDataType (dataTypeOf p)))) :
    (writeHoldingRegisters undefinedCast unitClient p m).1 =
        ⟨.done, 0, obj [("written", num (registersPerType (parseDataType (dataTypeOf p))))]⟩ ∧
      ∀ v, value p "value" = num v → Kept (parseDataType (dataTypeOf p)) v →
        (readHoldingRegisters unitClient q
            (writeHoldingRegisters undefinedCast unitClient p m).2).1 =
          ⟨.done, 0, obj
            [("raw", arr ((registersOf undefinedCast p).map fun register => num register.toNat)),
              ("values", arr [num v])]⟩ := by
  have hlen : (registersOf undefinedCast p).length =
      registersPerType (parseDataType (dataTypeOf p)) := length_encode _ _ _ _
  rw [writeHoldingRegisters_done undefinedCast hthere]
  refine ⟨rfl, fun v hv hkept => ?_⟩
  have hcount : (UInt16.ofInt (toIntOr 1 (value q "count"))).toNat =
      (registersOf undefinedCast p).length := by
    rw [hback.count, hlen]
    cases parseDataType (dataTypeOf p) <;> rfl
  rw [← hlen] at hthere
  have hread := unitClient_read hthere hcount
  have hvalues : registersToJson (registersOf undefinedCast p) (dataTypeOf p) (byteOrderOf p) =
      arr [num v] := by
    rw [registersOf, hv, toDouble_represents hkept.represents]
    exact registersToJson_encode undefinedCast hkept
  unfold readHoldingRegisters
  dsimp only
  rw [hback.address, hback.dataType, hback.byteOrder, hread]
  dsimp only
  rw [hvalues]
  rfl

/-- A unit with ten registers. -/
def tenRegisters : Memory AreaCell CellValue
  | (.holdingRegisters, address) => if address < 10 then some (.register 0) else none
  | _ => none

/-- The parameters of a request for register 4. -/
def paramsOf (dataType : String) (v : ℚ) : List (String × Json) :=
  [("address", num 4), ("byte_order", str "little_endian"), ("count", num 2),
    ("data_type", str dataType), ("value", num v)]

/-- A negative number in two registers. -/
theorem minus_seven_read_back :
    (readHoldingRegisters unitClient (paramsOf "int32" (-7))
        (writeHoldingRegisters (fun _ _ => 0) unitClient (paramsOf "int32" (-7))
          tenRegisters).2).1 =
      ⟨.done, 0, obj [("raw", arr [num 65529, num 65535]), ("values", arr [num (-7)])]⟩ := by
  refine ((typed_values_round_trip (fun _ _ => 0) (paramsOf "int32" (-7)) (paramsOf "int32" (-7))
    tenRegisters ⟨rfl, rfl, rfl, rfl⟩ ?_).2 (-7) rfl ?_).trans ?_
  · unfold RegistersThere
    decide +kernel
  · exact ⟨⟨-7, by norm_num, by decide, by decide⟩, fun h => absurd h (by decide),
      fun h => absurd h (by decide)⟩
  · rfl

/-- 2^63 is a value of `uint64` and is read back as -2^63; 2^53 + 1 is one of `int64` and is read
back as 2^53; and 3/2, which is none of `int16`, is written. -/
theorem values_not_kept :
    (InType .uint64 (2 ^ 63) ∧
        registersToJson (registersOf (fun _ _ => 0) (paramsOf "uint64" (2 ^ 63))) "uint64"
          "little_endian" = arr [num (-2 ^ 63)]) ∧
      (InType .int64 (2 ^ 53 + 1) ∧
        registersToJson (registersOf (fun _ _ => 0) (paramsOf "int64" (2 ^ 53 + 1))) "int64"
          "little_endian" = arr [num (2 ^ 53)]) ∧
      ¬ InType .int16 (3 / 2) ∧
        (writeHoldingRegisters (fun _ _ => 0) unitClient (paramsOf "int16" (3 / 2))
          tenRegisters).1.status = .done := by
  refine ⟨⟨⟨2 ^ 63, by norm_num, by decide, by decide⟩, by decide +kernel⟩,
    ⟨⟨2 ^ 53 + 1, by norm_num, by decide, by decide⟩, by decide +kernel⟩, ?_, ?_⟩
  · rintro ⟨n, hn, -⟩
    have hden := congrArg Rat.den hn
    rw [Rat.den_intCast] at hden
    revert hden
    decide +kernel
  · rw [writeHoldingRegisters_done]
    unfold RegistersThere
    decide +kernel

end Requests

end ModbusTcpHandler

end Stdiolink.Modbus
