/-
  Stdiolink.Modbus.SerialServer — the serial server, `modbus_rtu_serial_server.cpp`.

  The `switch` over the functions is the one of the RTU-over-TCP server, word for word.  What
  differs is around it: a request for a unit that is not there is not answered, and unit 0 stands
  for every unit: the four writes are done in all data areas, by code of their own, and nothing
  is answered.

  Main results:
    * `applyBroadcastWrite_eq`  — the code of the broadcast does what the `switch` does;
    * `broadcast_is_unicast`    — a broadcast is the same request to every unit.
-/
import Stdiolink.Modbus.RtuServer

namespace Stdiolink.Modbus

open Stdiolink.Lib
open ModbusRtuServer

/-- `ModbusRtuSerialServer`: what `processRtuRequest` reads and changes. -/
structure ModbusRtuSerialServer where
  unitDataAreas : UInt8 → Option ModbusDataArea

/-- What its `processRtuRequest` does. -/
structure SerialProcessed where
  server : ModbusRtuSerialServer
  signals : List ModbusSignal
  response : List UInt8

namespace ModbusRtuSerialServer

/-! ## §1. Requests -/

/-- `applyBroadcastWrite`: the data area after it. -/
def applyBroadcastWrite (fc : UInt8) (data : List UInt8) (area : ModbusDataArea) :
    ModbusDataArea :=
  let first := bytesToUInt16 data 0
  let second := bytesToUInt16 data 2
  let byteCount := (data.getD 4 0).toNat
  if fc = ModbusFunctionCode.code .writeSingleCoil && data.length ≥ 4 then
    if first.toNat < area.coils.length && (second = 0x0000 || second = 0xFF00) then
      { area with coils := area.coils.set first.toNat (second = 0xFF00) }
    else area
  else if fc = ModbusFunctionCode.code .writeSingleRegister && data.length ≥ 4 then
    if first.toNat < area.holdingRegisters.length then
      { area with holdingRegisters := area.holdingRegisters.set first.toNat second }
    else area
  else if fc = ModbusFunctionCode.code .writeMultipleCoils && data.length ≥ 5 then
    if second ≥ 1 && second ≤ 1968 && byteCount = (second.toNat + 7) / 8 &&
        data.length ≥ 5 + byteCount && first.toNat + second.toNat ≤ area.coils.length then
      { area with
        coils := setCells area.coils first.toNat second.toNat (bitAt (data.drop 5)) }
    else area
  else if fc = ModbusFunctionCode.code .writeMultipleRegisters && data.length ≥ 5 then
    if second ≥ 1 && second ≤ 123 && byteCount = second.toNat * 2 &&
        data.length ≥ 5 + byteCount &&
        first.toNat + second.toNat ≤ area.holdingRegisters.length then
      { area with
        holdingRegisters := setCells area.holdingRegisters first.toNat second.toNat
          fun i => bytesToUInt16 data (5 + i * 2) }
    else area
  else area

/-- The functions that a broadcast does. -/
def isBroadcastWrite (fc : UInt8) : Bool :=
  fc = ModbusFunctionCode.code .writeSingleCoil ||
    fc = ModbusFunctionCode.code .writeSingleRegister ||
    fc = ModbusFunctionCode.code .writeMultipleCoils ||
    fc = ModbusFunctionCode.code .writeMultipleRegisters

/-- The data area of one unit is replaced. -/
def setArea (server : ModbusRtuSerialServer) (unitId : UInt8) (area : ModbusDataArea) :
    ModbusRtuSerialServer :=
  ⟨fun u => if u = unitId then some area else server.unitDataAreas u⟩

/-- `processRtuRequest`. -/
def processRtuRequest (server : ModbusRtuSerialServer) (frame : List UInt8) : SerialProcessed :=
  if frame.length < 4 then ⟨server, [], []⟩
  else
    let unitId := frame.getD 0 0
    let fc := frame.getD 1 0
    let data := (frame.drop 2).take (frame.length - 4)
    if unitId = 0 then
      if isBroadcastWrite fc then
        ⟨⟨fun u => (server.unitDataAreas u).map (applyBroadcastWrite fc data)⟩, [], []⟩
      else ⟨server, [], []⟩
    else
      match server.unitDataAreas unitId with
      | none => ⟨server, [], []⟩
      | some area =>
        let exception (e : ModbusException) : SerialProcessed :=
          ⟨server, [], createRtuExceptionResponse unitId fc e⟩
        match ModbusFunctionCode.ofByte fc with
        | none => exception .illegalFunction
        | some function =>
          match handle unitId area data function with
          | .error e => exception e
          | .ok handled =>
              ⟨server.setArea unitId handled.area, handled.signals,
                buildRtuResponse unitId handled.pdu⟩

/-! ## §2. What the `switch` leaves of the data area -/

/-- The data area after the `switch`: that of the case, or the one that was there. -/
def areaAfter (unitId : UInt8) (area : ModbusDataArea) (data : List UInt8)
    (function : ModbusFunctionCode) : ModbusDataArea :=
  match handle unitId area data function with
  | .error _ => area
  | .ok handled => handled.area

section Areas

variable (unitId : UInt8) (area : ModbusDataArea) (data : List UInt8)

/-- **The two codes of the writes.**  The broadcast has the checks of the `switch` the other way
round, and skips where the `switch` answers with an exception. -/
theorem applyBroadcastWrite_eq {function : ModbusFunctionCode}
    (h : isBroadcastWrite function.code = true) :
    applyBroadcastWrite function.code data area = areaAfter unitId area data function := by
  unfold applyBroadcastWrite areaAfter handle
  cases function with
  | readCoils => cases h
  | readDiscreteInputs => cases h
  | readHoldingRegisters => cases h
  | readInputRegisters => cases h
  | writeSingleCoil =>
    dsimp only [writeSingleCoil, ModbusFunctionCode.code]
    grind
  | writeSingleRegister =>
    dsimp only [writeSingleRegister, ModbusFunctionCode.code]
    grind
  | writeMultipleCoils =>
    dsimp only [writeMultipleCoils, ModbusFunctionCode.code]
    grind
  | writeMultipleRegisters =>
    dsimp only [writeMultipleRegisters, ModbusFunctionCode.code]
    grind

end Areas

/-! ## §3. Frames -/

/-- The PDU of a frame: what is between the unit and the CRC. -/
def pduOf (frame : List UInt8) : List UInt8 := (frame.drop 1).take (frame.length - 3)

theorem pduOf_build (unitId : UInt8) (pdu : List UInt8) :
    pduOf (buildRtuResponse unitId pdu) = pdu := by
  unfold pduOf
  rw [length_buildRtuResponse]
  simp [buildRtuResponse]

/-- The arguments in a frame. -/
theorem data_build (unitId fc : UInt8) (data : List UInt8) :
    ((buildRtuResponse unitId (fc :: data)).drop 2).take
      ((buildRtuResponse unitId (fc :: data)).length - 4) = data := by
  have hlen : (buildRtuResponse unitId (fc :: data)).length - 4 = data.length := by
    rw [length_buildRtuResponse, List.length_cons]
    omega
  rw [hlen]
  simp [buildRtuResponse]

/-- A request for one unit leaves its data area as the `switch` does. -/
theorem processRtuRequest_area (server : ModbusRtuSerialServer) {unitId : UInt8}
    (hunit : unitId ≠ 0) (fc : UInt8) (data : List UInt8) :
    (server.processRtuRequest (buildRtuResponse unitId (fc :: data))).server.unitDataAreas unitId =
      (server.unitDataAreas unitId).map fun area =>
        match ModbusFunctionCode.ofByte fc with
        | none => area
        | some function => areaAfter unitId area data function := by
  have hlen : ¬ (buildRtuResponse unitId (fc :: data)).length < 4 := by
    rw [length_buildRtuResponse, List.length_cons]
    omega
  have hfirst : (buildRtuResponse unitId (fc :: data)).getD 0 0 = unitId := rfl
  have hsecond : (buildRtuResponse unitId (fc :: data)).getD 1 0 = fc := rfl
  unfold processRtuRequest
  rw [if_neg hlen]
  dsimp only
  rw [data_build, hfirst, hsecond, if_neg hunit]
  cases harea : server.unitDataAreas unitId with
  | none =>
    dsimp only
    rw [harea]
    rfl
  | some area =>
    cases ModbusFunctionCode.ofByte fc with
    | none =>
      dsimp only
      rw [harea]
      rfl
    | some function =>
      dsimp only [Option.map_some, areaAfter]
      cases handle unitId area data function with
      | error e => exact harea
      | ok handled => exact if_pos rfl

/-- A frame for unit 0, in terms of its PDU. -/
theorem processRtuRequest_broadcast (server : ModbusRtuSerialServer) {frame : List UInt8}
    (hunit : frame.head? = some 0) :
    server.processRtuRequest frame =
      match pduOf frame with
      | [] => ⟨server, [], []⟩
      | fc :: data =>
        if isBroadcastWrite fc then
          ⟨⟨fun u => (server.unitDataAreas u).map (applyBroadcastWrite fc data)⟩, [], []⟩
        else ⟨server, [], []⟩ := by
  obtain ⟨rest, rfl⟩ : ∃ rest, frame = 0 :: rest := by
    cases frame with
    | nil => cases hunit
    | cons first rest =>
      obtain rfl := Option.some.inj hunit
      exact ⟨rest, rfl⟩
  unfold processRtuRequest pduOf
  cases rest with
  | nil => rfl
  | cons fc rest =>
    simp only [List.length_cons, List.drop_succ_cons, List.drop_zero]
    by_cases hlen : rest.length < 2
    · have hnone : rest.length + 1 + 1 - 3 = 0 := by omega
      rw [if_pos (by omega), hnone, List.take_zero]
    · -- the function is in the PDU, the arguments are the rest of it
      have hsome : rest.length + 1 + 1 - 3 = (rest.length + 1 + 1 - 4) + 1 := by omega
      rw [if_neg (by omega), hsome, List.take_succ_cons]
      rfl

/-- A function of the broadcast is one of the `switch`. -/
theorem ofByte_of_isBroadcastWrite {fc : UInt8} (h : isBroadcastWrite fc = true) :
    ∃ function, ModbusFunctionCode.ofByte fc = some function ∧ function.code = fc := by
  simp only [isBroadcastWrite, Bool.or_eq_true, decide_eq_true_eq] at h
  obtain ((rfl | rfl) | rfl) | rfl := h
  · exact ⟨.writeSingleCoil, rfl, rfl⟩
  · exact ⟨.writeSingleRegister, rfl, rfl⟩
  · exact ⟨.writeMultipleCoils, rfl, rfl⟩
  · exact ⟨.writeMultipleRegisters, rfl, rfl⟩

/-- **A broadcast is unicast to everyone.**  A frame for unit 0 is not answered; if its function is
one of the four writes, every data area is left as the same PDU for that unit alone leaves it, and
else every data area is left as it was. -/
theorem broadcast_is_unicast (server : ModbusRtuSerialServer) (frame : List UInt8)
    (hunit : frame.head? = some 0) :
    (server.processRtuRequest frame).response = [] ∧
      ∀ unitId, (server.processRtuRequest frame).server.unitDataAreas unitId =
        if (pduOf frame).head?.any isBroadcastWrite then
          (server.processRtuRequest
            (buildRtuResponse unitId (pduOf frame))).server.unitDataAreas unitId
        else server.unitDataAreas unitId := by
  rw [processRtuRequest_broadcast server hunit]
  generalize pduOf frame = pdu
  cases pdu with
  | nil => exact ⟨rfl, fun _ => rfl⟩
  | cons fc data =>
    dsimp only
    rw [List.head?_cons, Option.any_some]
    by_cases hwrite : isBroadcastWrite fc = true
    · rw [if_pos hwrite]
      refine ⟨rfl, fun unitId => ?_⟩
      rw [if_pos hwrite]
      by_cases hzero : unitId = 0
      · -- the unit of the broadcast itself
        have hframe : (buildRtuResponse unitId (fc :: data)).head? = some 0 := congrArg some hzero
        rw [processRtuRequest_broadcast server hframe, pduOf_build]
        dsimp only
        rw [if_pos hwrite]
      · obtain ⟨function, hfunction, rfl⟩ := ofByte_of_isBroadcastWrite hwrite
        rw [processRtuRequest_area server hzero, hfunction]
        dsimp only
        congr 1
        funext area
        exact applyBroadcastWrite_eq unitId area data hwrite
    · rw [if_neg hwrite]
      refine ⟨rfl, fun unitId => ?_⟩
      rw [if_neg hwrite]

/-- A server with the units 1 and 7, of ten cells each. -/
def twoUnits : ModbusRtuSerialServer :=
  ⟨fun unitId => if unitId = 1 || unitId = 7 then some (.ofSize 10) else none⟩

/-- A broadcast sets coil 3 of unit 7, without an answer. -/
theorem broadcast_sets_coil :
    let after := twoUnits.processRtuRequest (buildRtuResponse 0 [0x05, 0, 3, 0xFF, 0])
    after.response = [] ∧
      (after.server.unitDataAreas 7).map (fun area => area.coils[3]?) = some (some true) := by
  intro after
  obtain ⟨hsilent, hareas⟩ :=
    broadcast_is_unicast twoUnits (buildRtuResponse 0 [0x05, 0, 3, 0xFF, 0]) rfl
  refine ⟨hsilent, ?_⟩
  -- as the unicast to unit 7 leaves it
  rw [hareas 7, pduOf_build]
  decide

end ModbusRtuSerialServer

end Stdiolink.Modbus
