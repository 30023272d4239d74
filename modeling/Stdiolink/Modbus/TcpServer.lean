/-
  Stdiolink.Modbus.TcpServer — requests and responses of `modbus_tcp_server.cpp`.

  `processRequest` checks the frame and the arguments itself and then calls one of
  eight handlers.  A handler answers with a PDU, which `processRequest` puts into a
  frame.  When a handler refuses, it answers with `createExceptionResponse`, which is
  a frame already, and that one is framed once more.

  Main results:
    * `handle_accepted` / `handle_refused` — what a handler answers;
    * `response_wellFormed_iff` — the response is one frame with a PDU iff the handler
      does not refuse.
-/
import Stdiolink.Modbus.DataModel

namespace Stdiolink.Modbus

open Stdiolink.Lib

/-- `ModbusTcpServer`: what `processRequest` reads and changes. -/
structure ModbusTcpServer where
  unitDataAreas : UInt8 → Option ModbusDataArea

/-- What a handler does: the data area after it, its signals and the bytes it returns. -/
structure Handled where
  area : ModbusDataArea
  signals : List ModbusSignal
  response : List UInt8

/-- What `processRequest` does. -/
structure Processed where
  server : ModbusTcpServer
  signals : List ModbusSignal
  response : List UInt8

namespace ModbusTcpServer

/-! ## §1. Frames -/

/-- `parseHeader`. -/
def parseHeader (data : List UInt8) : Option ModbusTCPHeader :=
  if data.length < 7 then none
  else some
    { transactionId := bytesToUInt16 data 0
      protocolId := bytesToUInt16 data 2
      length := bytesToUInt16 data 4
      unitId := data.getD 6 0 }

/-- `buildResponse`. -/
def buildResponse (header : ModbusTCPHeader) (pdu : List UInt8) : List UInt8 :=
  uint16ToBytes header.transactionId ++ uint16ToBytes header.protocolId ++
    uint16ToBytes (UInt16.ofNat (pdu.length + 1)) ++ header.unitId :: pdu

/-- `createExceptionResponse`. -/
def createExceptionResponse (header : ModbusTCPHeader) (functionCode : UInt8)
    (exception : ModbusException) : List UInt8 :=
  buildResponse header [functionCode ||| 0x80, exception.code]

/-! ## §2. Handlers -/

section Handlers

variable (header : ModbusTCPHeader) (area : ModbusDataArea)

/-- A handler that refuses. -/
def refuse (function : ModbusFunctionCode) (exception : ModbusException) : Handled :=
  ⟨area, [], createExceptionResponse header function.code exception⟩

/-- The common body of the two handlers that read bits. -/
def handleReadBits (function : ModbusFunctionCode) (bits : List Bool)
    (startAddress quantity : UInt16) : Handled :=
  if quantity < 1 || quantity > 2000 || startAddress.toNat + quantity.toNat > bits.length then
    refuse header area function .illegalDataAddress
  else
    let byteCount := (quantity.toNat + 7) / 8
    let byte (i : Nat) : UInt8 := UInt8.ofNat (packBits (fun bit =>
      decide (i * 8 + bit < quantity.toNat) &&
        bits.getD (startAddress.toNat + i * 8 + bit) false) 8)
    ⟨area, [.dataRead header.unitId function startAddress quantity],
      function.code :: UInt8.ofNat byteCount :: (List.range byteCount).map byte⟩

def handleReadCoils : UInt16 → UInt16 → Handled :=
  handleReadBits header area .readCoils area.coils

def handleReadDiscreteInputs : UInt16 → UInt16 → Handled :=
  handleReadBits header area .readDiscreteInputs area.discreteInputs

/-- The common body of the two handlers that read registers. -/
def handleReadRegisters (function : ModbusFunctionCode) (registers : List UInt16)
    (startAddress quantity : UInt16) : Handled :=
  if quantity < 1 || quantity > 125 ||
      startAddress.toNat + quantity.toNat > registers.length then
    refuse header area function .illegalDataAddress
  else
    ⟨area, [.dataRead header.unitId function startAddress quantity],
      function.code :: UInt8.ofNat (quantity.toNat * 2) ::
        (List.range quantity.toNat).flatMap fun i =>
          uint16ToBytes (registers.getD (startAddress.toNat + i) 0)⟩

def handleReadHoldingRegisters : UInt16 → UInt16 → Handled :=
  handleReadRegisters header area .readHoldingRegisters area.holdingRegisters

def handleReadInputRegisters : UInt16 → UInt16 → Handled :=
  handleReadRegisters header area .readInputRegisters area.inputRegisters

/-- The answer of the four writes: the function and two words of the request. -/
def echo (function : ModbusFunctionCode) (first second : UInt16) : List UInt8 :=
  function.code :: (uint16ToBytes first ++ uint16ToBytes second)

def handleWriteSingleCoil (address value : UInt16) : Handled :=
  if address.toNat ≥ area.coils.length then
    refuse header area .writeSingleCoil .illegalDataAddress
  else if value ≠ 0x0000 && value ≠ 0xFF00 then
    refuse header area .writeSingleCoil .illegalDataValue
  else
    ⟨{ area with coils := area.coils.set address.toNat (value = 0xFF00) },
      [.dataWritten header.unitId .writeSingleCoil address 1],
      echo .writeSingleCoil address value⟩

def handleWriteSingleRegister (address value : UInt16) : Handled :=
  if address.toNat ≥ area.holdingRegisters.length then
    refuse header area .writeSingleRegister .illegalDataAddress
  else
    ⟨{ area with holdingRegisters := area.holdingRegisters.set address.toNat value },
      [.dataWritten header.unitId .writeSingleRegister address 1],
      echo .writeSingleRegister address value⟩

/-- The loop of the two multiple writes: `values i` at `startAddress + i`. -/
def writeAll {α : Type} (cells : List α) (startAddress quantity : Nat) (values : Nat → α) :
    List α :=
  (List.range quantity).foldl (fun cells i => cells.set (startAddress + i) (values i)) cells

def handleWriteMultipleCoils (startAddress quantity : UInt16) (values : List UInt8) : Handled :=
  if quantity < 1 || quantity > 1968 ||
      startAddress.toNat + quantity.toNat > area.coils.length then
    refuse header area .writeMultipleCoils .illegalDataAddress
  else if values.length < (quantity.toNat + 7) / 8 then
    refuse header area .writeMultipleCoils .illegalDataValue
  else
    ⟨{ area with
        coils := writeAll area.coils startAddress.toNat quantity.toNat (bitAt values) },
      [.dataWritten header.unitId .writeMultipleCoils startAddress quantity],
      echo .writeMultipleCoils startAddress quantity⟩

def handleWriteMultipleRegisters (startAddress quantity : UInt16) (values : List UInt8) :
    Handled :=
  if quantity < 1 || quantity > 123 ||
      startAddress.toNat + quantity.toNat > area.holdingRegisters.length then
    refuse header area .writeMultipleRegisters .illegalDataAddress
  else if values.length < quantity.toNat * 2 then
    refuse header area .writeMultipleRegisters .illegalDataValue
  else
    ⟨{ area with
        holdingRegisters := writeAll area.holdingRegisters startAddress.toNat quantity.toNat
          fun i => bytesToUInt16 values (i * 2) },
      [.dataWritten header.unitId .writeMultipleRegisters startAddress quantity],
      echo .writeMultipleRegisters startAddress quantity⟩

end Handlers

/-! ## §3. Requests -/

/-- The checks of `processRequest` before it calls the handler: the arguments are there,
and for the multiple writes the byte count is right. -/
def argumentsOk (function : ModbusFunctionCode) (pdu : List UInt8) : Bool :=
  let quantity := (bytesToUInt16 pdu 2).toNat
  let byteCount := (pdu.getD 4 0).toNat
  match function with
  | .writeMultipleCoils =>
      !(pdu.length < 6) && !(byteCount ≠ (quantity + 7) / 8 || pdu.length < 5 + byteCount)
  | .writeMultipleRegisters =>
      !(pdu.length < 6) && !(byteCount ≠ quantity * 2 || pdu.length < 5 + byteCount)
  | _ => !(pdu.length < 4)

/-- The handler the `switch` calls. -/
def handle (header : ModbusTCPHeader) (area : ModbusDataArea) (function : ModbusFunctionCode)
    (pdu : List UInt8) : Handled :=
  let first := bytesToUInt16 pdu 0
  let second := bytesToUInt16 pdu 2
  match function with
  | .readCoils => handleReadCoils header area first second
  | .readDiscreteInputs => handleReadDiscreteInputs header area first second
  | .readHoldingRegisters => handleReadHoldingRegisters header area first second
  | .readInputRegisters => handleReadInputRegisters header area first second
  | .writeSingleCoil => handleWriteSingleCoil header area first second
  | .writeSingleRegister => handleWriteSingleRegister header area first second
  | .writeMultipleCoils => handleWriteMultipleCoils header area first second (pdu.drop 5)
  | .writeMultipleRegisters =>
      handleWriteMultipleRegisters header area first second (pdu.drop 5)

/-- The data area of one unit is replaced. -/
def setArea (server : ModbusTcpServer) (unitId : UInt8) (area : ModbusDataArea) :
    ModbusTcpServer :=
  ⟨fun u => if u = unitId then some area else server.unitDataAreas u⟩

/-- `processRequest`. -/
def processRequest (server : ModbusTcpServer) (request : List UInt8) : Processed :=
  let answer (response : List UInt8) : Processed := ⟨server, [], response⟩
  if request.length < 8 then answer []
  else
    match parseHeader request with
    | none => answer []
    | some header =>
      if header.protocolId ≠ 0 then answer []
      else
        let functionCode := request.getD 7 0
        match server.unitDataAreas header.unitId with
        | none =>
            answer (createExceptionResponse header functionCode .gatewayTargetDeviceFailed)
        | some area =>
          let pdu := request.drop 8
          match ModbusFunctionCode.ofByte functionCode with
          | none => answer (createExceptionResponse header functionCode .illegalFunction)
          | some function =>
            if !argumentsOk function pdu then
              answer (createExceptionResponse header functionCode .illegalDataValue)
            else
              let handled := handle header area function pdu
              ⟨server.setArea header.unitId handled.area, handled.signals,
                if handled.response.isEmpty then [] else buildResponse header handled.response⟩

/-! ## §4. What a response should be -/

/-- The body of a read of bits: the byte count and the packed bits, zero-padded. -/
def BitsBody (bits : List Bool) (startAddress quantity : Nat) (body : List UInt8) : Prop :=
  ∃ count data, body = count :: data ∧ count.toNat = data.length ∧
    data.length = (quantity + 7) / 8 ∧ 0 < quantity ∧
    (∀ i < quantity, bits[startAddress + i]? = some (bitAt data i)) ∧
    ∀ i ≥ quantity, bitAt data i = false

/-- The body of a read of registers: the byte count and the words. -/
def RegistersBody (registers : List UInt16) (startAddress quantity : Nat)
    (body : List UInt8) : Prop :=
  ∃ count data, body = count :: data ∧ count.toNat = data.length ∧
    data.length = 2 * quantity ∧ 0 < quantity ∧
    ∀ i < quantity, registers[startAddress + i]? = some (bytesToUInt16 data (2 * i))

/-- **The normal response body** of a function, for the arguments `pdu` and the data area
before the request.  The writes repeat their first two words. -/
def NormalBody (area : ModbusDataArea) (function : ModbusFunctionCode) (pdu body : List UInt8) :
    Prop :=
  let startAddress := (bytesToUInt16 pdu 0).toNat
  let quantity := (bytesToUInt16 pdu 2).toNat
  match function with
  | .readCoils => BitsBody area.coils startAddress quantity body
  | .readDiscreteInputs => BitsBody area.discreteInputs startAddress quantity body
  | .readHoldingRegisters => RegistersBody area.holdingRegisters startAddress quantity body
  | .readInputRegisters => RegistersBody area.inputRegisters startAddress quantity body
  | _ => 4 ≤ pdu.length ∧ body = pdu.take 4

/-- The PDU answers the request: the function code and a normal body, or the function code
with bit 7 set and one exception code. -/
def AnswersRequest (server : ModbusTcpServer) (request pdu : List UInt8) : Prop :=
  (∃ area function body, server.unitDataAreas (request.getD 6 0) = some area ∧
    ModbusFunctionCode.ofByte (request.getD 7 0) = some function ∧
    pdu = request.getD 7 0 :: body ∧ NormalBody area function (request.drop 8) body) ∨
  ∃ exception : ModbusException, pdu = [request.getD 7 0 ||| 0x80, exception.code]

/-- **One MBAP frame.**  Transaction id, protocol id and unit id are those of the request,
the length field counts the bytes after it, and the PDU answers the request. -/
def WellFormedResponse (server : ModbusTcpServer) (request response : List UInt8) : Prop :=
  ∃ high low pdu, response =
      request.take 4 ++ [high, low, request.getD 6 0] ++ pdu ∧
    high.toNat * 256 + low.toNat = pdu.length + 1 ∧ AnswersRequest server request pdu

/-- At least one and at most `limit` cells, all of them in an area of this size. -/
def Inside (first quantity : UInt16) (limit size : Nat) : Bool :=
  1 ≤ quantity.toNat && quantity.toNat ≤ limit && first.toNat + quantity.toNat ≤ size

/-- The handler of the function takes the arguments: they address cells of the area, the
quantity is within the limits, and a coil is switched on or off. -/
def handlerAccepts (area : ModbusDataArea) (function : ModbusFunctionCode)
    (pdu : List UInt8) : Bool :=
  let first := bytesToUInt16 pdu 0
  let second := bytesToUInt16 pdu 2
  match function with
  | .readCoils => Inside first second 2000 area.coils.length
  | .readDiscreteInputs => Inside first second 2000 area.discreteInputs.length
  | .readHoldingRegisters => Inside first second 125 area.holdingRegisters.length
  | .readInputRegisters => Inside first second 125 area.inputRegisters.length
  | .writeSingleCoil =>
      first.toNat < area.coils.length && (second = 0x0000 || second = 0xFF00)
  | .writeSingleRegister => first.toNat < area.holdingRegisters.length
  | .writeMultipleCoils => Inside first second 1968 area.coils.length
  | .writeMultipleRegisters => Inside first second 123 area.holdingRegisters.length

/-- The request gets as far as a handler, which refuses it. -/
def RefusedByHandler (server : ModbusTcpServer) (request : List UInt8) : Prop :=
  ∃ area function, server.unitDataAreas (request.getD 6 0) = some area ∧
    ModbusFunctionCode.ofByte (request.getD 7 0) = some function ∧
    argumentsOk function (request.drop 8) = true ∧
    handlerAccepts area function (request.drop 8) = false

/-! ## §5. Handlers -/

section HandlerLemmas

variable {header : ModbusTCPHeader} {area : ModbusDataArea} {function : ModbusFunctionCode}

variable {pdu : List UInt8} {quantity : UInt16}

theorem argumentsOk_length (h : argumentsOk function pdu = true) : 4 ≤ pdu.length := by
  unfold argumentsOk at h
  cases function <;> simp at h <;> omega

/-- The arguments of a multiple write: the byte count is right, and so many bytes follow. -/
theorem multiple_arguments {count : Nat}
    (h : (!decide (pdu.length < 6) && !(decide ((pdu.getD 4 0).toNat ≠ count) ||
      decide (pdu.length < 5 + (pdu.getD 4 0).toNat))) = true) :
    6 ≤ pdu.length ∧ (pdu.getD 4 0).toNat = count ∧ ¬ (pdu.drop 5).length < count := by
  simp only [Bool.and_eq_true, Bool.not_eq_true', decide_eq_false_iff_not,
    Bool.or_eq_false_iff, not_not] at h
  obtain ⟨hsix, hcount, hvalues⟩ := h
  rw [List.length_drop]
  omega

/-- Two words of the request, written again. -/
theorem echo_eq_take (h : 4 ≤ pdu.length) :
    echo function (bytesToUInt16 pdu 0) (bytesToUInt16 pdu 2) = function.code :: pdu.take 4 := by
  match pdu, h with
  | a :: b :: c :: d :: rest, _ =>
    simp [echo, bytesToUInt16, uint16ToBytes, wordBytes_join]

/-- The guard of the handlers that take a quantity. -/
theorem guard_eq {first : UInt16} (limit : UInt16) {size : Nat} {inside : Bool}
    (h : Inside first quantity limit.toNat size = inside) :
    (decide (quantity < 1) || decide (quantity > limit) ||
      decide (first.toNat + quantity.toNat > size)) = !inside := by
  have hone : quantity < 1 ↔ ¬ 1 ≤ quantity.toNat := by
    rw [UInt16.lt_iff_toNat_lt, Nat.not_le]
    exact Iff.rfl
  have hlimit : quantity > limit ↔ ¬ quantity.toNat ≤ limit.toNat := by
    rw [gt_iff_lt, UInt16.lt_iff_toNat_lt, Nat.not_le]
  have hsize : first.toNat + quantity.toNat > size ↔ ¬ first.toNat + quantity.toNat ≤ size := by
    omega
  rw [← h]
  simp only [Inside, Bool.not_and, ← decide_not]
  simp only [hone, hlimit, hsize]

theorem inside_iff {first : UInt16} {limit size : Nat} :
    Inside first quantity limit size = true ↔
      1 ≤ quantity.toNat ∧ quantity.toNat ≤ limit ∧ first.toNat + quantity.toNat ≤ size := by
  simp [Inside, and_assoc]

/-- **Reading bits.** -/
theorem handleReadBits_accepted {bits : List Bool} {startAddress : UInt16}
    (h : Inside startAddress quantity 2000 bits.length = true) :
    ∃ body, (handleReadBits header area function bits startAddress quantity).response =
        function.code :: body ∧ body.length < 255 ∧
      BitsBody bits startAddress.toNat quantity.toNat body := by
  have hguard := guard_eq 2000 h
  obtain ⟨hone, hlimit, hsize⟩ := inside_iff.mp h
  simp only [handleReadBits, hguard, Bool.not_true, Bool.false_eq_true, if_false]
  refine ⟨_, rfl, ?_, _, _, rfl, ?_, by simp, hone, fun i hi => ?_, fun i hi => ?_⟩
  · simp only [List.length_cons, List.length_map, List.length_range]
    omega
  · simp only [UInt8.toNat_ofNat', List.length_map, List.length_range]
    omega
  · have hdiv : i / 8 < (quantity.toNat + 7) / 8 := by omega
    have hpos : i / 8 * 8 + i % 8 = i := by omega
    have hadd : startAddress.toNat + i / 8 * 8 + i % 8 = startAddress.toNat + i := by omega
    have hin : startAddress.toNat + i < bits.length := by omega
    rw [bitAt_packed]
    simp [hdiv, hpos, hadd, hi, hin]
  · have hpos : i / 8 * 8 + i % 8 = i := by omega
    rw [bitAt_packed]
    simp [hpos, Nat.not_lt.mpr hi]

/-- **Reading registers.** -/
theorem handleReadRegisters_accepted {registers : List UInt16} {startAddress : UInt16}
    (h : Inside startAddress quantity 125 registers.length = true) :
    ∃ body, (handleReadRegisters header area function registers startAddress quantity).response =
        function.code :: body ∧ body.length < 255 ∧
      RegistersBody registers startAddress.toNat quantity.toNat body := by
  have hguard := guard_eq 125 h
  obtain ⟨hone, hlimit, hsize⟩ := inside_iff.mp h
  simp only [handleReadRegisters, hguard, Bool.not_true, Bool.false_eq_true, if_false]
  have hlen := length_flatMap_uint16ToBytes
    (fun i => registers.getD (startAddress.toNat + i) 0) quantity.toNat
  refine ⟨_, rfl, ?_, _, _, rfl, ?_, hlen, hone, fun i hi => ?_⟩
  · rw [List.length_cons, hlen]
    omega
  · rw [UInt8.toNat_ofNat', hlen]
    omega
  · have hin : startAddress.toNat + i < registers.length := by omega
    rw [bytesToUInt16_flatMap _ hi]
    simp [hin]

/-- **An accepted request** is answered with its function code and a normal body. -/
theorem handle_accepted (header : ModbusTCPHeader) (hargs : argumentsOk function pdu = true)
    (hacc : handlerAccepts area function pdu = true) :
    ∃ body, (handle header area function pdu).response = function.code :: body ∧
      body.length < 255 ∧ NormalBody area function pdu body := by
  have hlen := argumentsOk_length hargs
  have htake : (pdu.take 4).length < 255 := by
    rw [List.length_take]
    omega
  cases function with
  | readCoils => exact handleReadBits_accepted hacc
  | readDiscreteInputs => exact handleReadBits_accepted hacc
  | readHoldingRegisters => exact handleReadRegisters_accepted hacc
  | readInputRegisters => exact handleReadRegisters_accepted hacc
  | writeSingleCoil =>
    refine ⟨pdu.take 4, ?_, htake, hlen, rfl⟩
    simp only [handlerAccepts, Bool.and_eq_true, Bool.or_eq_true, decide_eq_true_eq] at hacc
    rw [← echo_eq_take hlen]
    simp only [handle, handleWriteSingleCoil]
    rw [if_neg (by omega), if_neg (by rcases hacc.2 with h | h <;> simp [h])]
  | writeSingleRegister =>
    refine ⟨pdu.take 4, ?_, htake, hlen, rfl⟩
    simp only [handlerAccepts, decide_eq_true_eq] at hacc
    rw [← echo_eq_take hlen]
    simp only [handle, handleWriteSingleRegister]
    rw [if_neg (by omega)]
  | writeMultipleCoils =>
    refine ⟨pdu.take 4, ?_, htake, hlen, rfl⟩
    -- `processRequest` has checked the byte count against the bytes that are there
    obtain ⟨-, -, hvalues⟩ := multiple_arguments hargs
    rw [← echo_eq_take hlen]
    simp only [handle, handleWriteMultipleCoils, guard_eq 1968 hacc, Bool.not_true,
      Bool.false_eq_true, if_false]
    rw [if_neg hvalues]
  | writeMultipleRegisters =>
    refine ⟨pdu.take 4, ?_, htake, hlen, rfl⟩
    obtain ⟨-, -, hvalues⟩ := multiple_arguments hargs
    rw [← echo_eq_take hlen]
    simp only [handle, handleWriteMultipleRegisters, guard_eq 123 hacc, Bool.not_true,
      Bool.false_eq_true, if_false]
    rw [if_neg hvalues]

/-- **A refused request** is answered with an exception frame; data and signals are those
of a request that did nothing.  Only the value of a coil is an illegal value. -/
theorem handle_refused_cases (header : ModbusTCPHeader)
    (hacc : handlerAccepts area function pdu = false) :
    handle header area function pdu = refuse header area function .illegalDataAddress ∨
      (function = .writeSingleCoil ∧ bytesToUInt16 pdu 2 ≠ 0x0000 ∧
        bytesToUInt16 pdu 2 ≠ 0xFF00) ∧
        handle header area function pdu = refuse header area function .illegalDataValue := by
  cases function with
  | readCoils => exact Or.inl (if_pos (guard_eq 2000 hacc))
  | readDiscreteInputs => exact Or.inl (if_pos (guard_eq 2000 hacc))
  | readHoldingRegisters => exact Or.inl (if_pos (guard_eq 125 hacc))
  | readInputRegisters => exact Or.inl (if_pos (guard_eq 125 hacc))
  | writeSingleCoil =>
    simp only [handlerAccepts, Bool.and_eq_false_iff, decide_eq_false_iff_not,
      Bool.or_eq_false_iff] at hacc
    simp only [handle, handleWriteSingleCoil]
    by_cases haddress : (bytesToUInt16 pdu 0).toNat ≥ area.coils.length
    · exact Or.inl (if_pos haddress)
    · obtain hout | ⟨hoff, hon⟩ := hacc
      · omega
      · refine Or.inr ⟨⟨trivial, hoff, hon⟩, (if_neg haddress).trans (if_pos ?_)⟩
        rw [decide_eq_true hoff, decide_eq_true hon]
        rfl
  | writeSingleRegister =>
    simp only [handlerAccepts, decide_eq_false_iff_not] at hacc
    exact Or.inl (if_pos (by omega))
  | writeMultipleCoils => exact Or.inl (if_pos (guard_eq 1968 hacc))
  | writeMultipleRegisters => exact Or.inl (if_pos (guard_eq 123 hacc))

theorem handle_refused (header : ModbusTCPHeader) (hacc : handlerAccepts area function pdu = false) :

    ∃ exception, handle header area function pdu = refuse header area function exception := by
  obtain h | ⟨-, h⟩ := handle_refused_cases header hacc
  · exact ⟨_, h⟩
  · exact ⟨_, h⟩

end HandlerLemmas

/-! ## §6. Responses -/

section Responses

variable {server : ModbusTcpServer} {request : List UInt8}

/-- The header of a request that is long enough. -/
def headerOf (request : List UInt8) : ModbusTCPHeader :=
  { transactionId := bytesToUInt16 request 0
    protocolId := bytesToUInt16 request 2
    length := bytesToUInt16 request 4
    unitId := request.getD 6 0 }

/-- A frame for the request's header: its ids, the length and the PDU. -/
theorem buildResponse_headerOf (hlen : 8 ≤ request.length) {pdu : List UInt8}
    (hpdu : pdu.length < 65535) :
    ∃ high low, buildResponse (headerOf request) pdu =
        request.take 4 ++ [high, low, request.getD 6 0] ++ pdu ∧
      high.toNat * 256 + low.toNat = pdu.length + 1 := by
  match request, hlen with
  | a :: b :: c :: d :: e :: f :: u :: g :: rest, _ =>
    refine ⟨(UInt16.ofNat (pdu.length + 1) >>> 8).toUInt8, (UInt16.ofNat (pdu.length + 1)).toUInt8,
      ?_, ?_⟩
    · simp [buildResponse, headerOf, bytesToUInt16, uint16ToBytes, wordBytes, join_hi, join_lo]
    · rw [← joinBytes_toNat, join_bytes, UInt16.toNat_ofNat']
      omega

/-- A frame whose PDU answers the request is well formed. -/
theorem wellFormed_buildResponse (hlen : 8 ≤ request.length) {pdu : List UInt8}
    (hpdu : pdu.length < 65535) :
    WellFormedResponse server request (buildResponse (headerOf request) pdu) ↔
      AnswersRequest server request pdu := by
  obtain ⟨high, low, heq, hcount⟩ := buildResponse_headerOf hlen hpdu
  rw [heq]
  constructor
  · rintro ⟨high', low', pdu', heq', -, hans⟩
    have hpre : (request.take 4 ++ [high, low, request.getD 6 0]).length =
        (request.take 4 ++ [high', low', request.getD 6 0]).length := by simp
    rw [(List.append_inj heq' hpre).2]
    exact hans
  · exact fun hans => ⟨high, low, pdu, rfl, hcount, hans⟩

/-- The exceptions of `processRequest` itself. -/
theorem wellFormed_exception (hlen : 8 ≤ request.length) (exception : ModbusException) :
    WellFormedResponse server request
      (createExceptionResponse (headerOf request) (request.getD 7 0) exception) :=
  (wellFormed_buildResponse hlen (by simp)).mpr (Or.inr ⟨exception, rfl⟩)

/-- The frame in a frame of a refusing handler is nine bytes of PDU, which answer nothing. -/
theorem not_answersRequest_refused {area : ModbusDataArea} {function : ModbusFunctionCode}
    (harea : server.unitDataAreas (request.getD 6 0) = some area)
    (hfunction : ModbusFunctionCode.ofByte (request.getD 7 0) = some function)
    (hacc : handlerAccepts area function (request.drop 8) = false)
    (exception : ModbusException) :
    ¬ AnswersRequest server request
      (createExceptionResponse (headerOf request) function.code exception) := by
  have hnine : (createExceptionResponse (headerOf request) function.code exception).length = 9 :=
    rfl
  -- a body of eight bytes, were it one
  have hbits : ∀ {bits : List Bool} {first quantity : UInt16} {body : List UInt8},
      body.length = 8 → BitsBody bits first.toNat quantity.toNat body →
        Inside first quantity 2000 bits.length = true := by
    rintro bits first quantity body hbody ⟨count, data, rfl, -, hdata, hpos, hin, -⟩
    rw [List.length_cons] at hbody
    have hlast := hin (quantity.toNat - 1) (by omega)
    have hsize := (List.getElem?_eq_some_iff.mp hlast).1
    exact inside_iff.mpr ⟨hpos, by omega, by omega⟩
  have hregs : ∀ {registers : List UInt16} {first quantity : Nat} {body : List UInt8},
      body.length = 8 → ¬ RegistersBody registers first quantity body := by
    rintro registers first quantity body hbody ⟨count, data, rfl, -, hdata, -, -⟩
    rw [List.length_cons] at hbody
    omega
  rintro (⟨area', function', body, harea', hfunction', hpdu, hbody⟩ | ⟨e, hpdu⟩)
  · obtain rfl := Option.some.inj (harea.symm.trans harea')
    obtain rfl := Option.some.inj (hfunction.symm.trans hfunction')
    have height : body.length = 8 := by
      rw [hpdu, List.length_cons] at hnine
      omega
    have htake : ∀ {pdu : List UInt8}, body ≠ pdu.take 4 := by
      intro pdu h
      rw [h, List.length_take] at height
      omega
    cases function with
    | readCoils => exact absurd (hbits height hbody) (Bool.eq_false_iff.mp hacc)
    | readDiscreteInputs => exact absurd (hbits height hbody) (Bool.eq_false_iff.mp hacc)
    | readHoldingRegisters => exact hregs height hbody
    | readInputRegisters => exact hregs height hbody
    | writeSingleCoil => exact htake hbody.2
    | writeSingleRegister => exact htake hbody.2
    | writeMultipleCoils => exact htake hbody.2
    | writeMultipleRegisters => exact htake hbody.2
  · rw [hpdu] at hnine
    simp at hnine

/-- **Responses.**  For every server and every request frame of at least 8 bytes with
protocol id 0, the response is one frame that answers the request iff the request does
not get to a handler that refuses it. -/
theorem response_wellFormed_iff (server : ModbusTcpServer) (request : List UInt8)
    (hlen : 8 ≤ request.length) (hproto : bytesToUInt16 request 2 = 0) :
    WellFormedResponse server request (server.processRequest request).response ↔
      ¬ RefusedByHandler server request := by
  have hheader : parseHeader request = some (headerOf request) := if_neg (by omega)
  have hshort : ¬ request.length < 8 := by omega
  have hproto' : ¬ (headerOf request).protocolId ≠ 0 := fun h => h hproto
  have hanswer : ∀ exception, WellFormedResponse server request
      (createExceptionResponse (headerOf request) (request.getD 7 0) exception) :=
    wellFormed_exception hlen
  unfold processRequest
  simp only [hshort, if_false, hheader, hproto']
  cases harea : server.unitDataAreas (headerOf request).unitId with
  | none =>
    refine iff_of_true (hanswer _) ?_
    rintro ⟨area, function, harea', -⟩
    exact absurd (harea.symm.trans harea') (by simp)
  | some area =>
    cases hfunction : ModbusFunctionCode.ofByte (request.getD 7 0) with
    | none =>
      refine iff_of_true (hanswer _) ?_
      rintro ⟨area', function, -, hfunction', -⟩
      exact absurd (hfunction.symm.trans hfunction') (by simp)
    | some function =>
      have hcode : function.code = request.getD 7 0 := ModbusFunctionCode.code_of_ofByte hfunction
      have hrefused : RefusedByHandler server request ↔
          argumentsOk function (request.drop 8) = true ∧
            handlerAccepts area function (request.drop 8) = false := by
        constructor
        · rintro ⟨area', function', harea', hfunction', hrest⟩
          obtain rfl := Option.some.inj (harea.symm.trans harea')
          obtain rfl := Option.some.inj (hfunction.symm.trans hfunction')
          exact hrest
        · exact fun hrest => ⟨area, function, harea, hfunction, hrest⟩
      rw [hrefused]
      dsimp only
      cases hargs : argumentsOk function (request.drop 8) with
      | false =>
        refine iff_of_true ?_ (by simp)
        simpa using hanswer .illegalDataValue
      | true =>
        cases hacc : handlerAccepts area function (request.drop 8) with
        | true =>
          obtain ⟨body, hresponse, hbody, hnormal⟩ :=
            handle_accepted (headerOf request) hargs hacc
          refine iff_of_true ?_ (by simp)
          simp only [Bool.not_true, Bool.false_eq_true, if_false, hresponse, List.isEmpty_cons]
          refine (wellFormed_buildResponse hlen (by simp; omega)).mpr (Or.inl ?_)
          exact ⟨area, function, body, harea, hfunction, by rw [hcode], hnormal⟩
        | false =>
          obtain ⟨exception, hhandle⟩ := handle_refused (headerOf request) hacc
          refine iff_of_false ?_ (by simp)
          simp only [Bool.not_true, Bool.false_eq_true, if_false, hhandle, refuse]
          rw [if_neg (by simp [createExceptionResponse, buildResponse, uint16ToBytes, wordBytes]),
            wellFormed_buildResponse hlen (by
              simp [createExceptionResponse, buildResponse, uint16ToBytes])]
          exact not_answersRequest_refused harea hfunction hacc exception

/-- A server with unit 1, ten cells in each area. -/
def tenCells : ModbusTcpServer := ⟨fun u => if u = 1 then some (.ofSize 10) else none⟩

/-- Read `quantity` coils from address 5 of unit 1, as transaction 1. -/
def readCoilsAtFive (quantity : UInt8) : List UInt8 :=
  [0x00, 0x01, 0x00, 0x00, 0x00, 0x06, 0x01, 0x01, 0x00, 0x05, 0x00, quantity]

/-- Three coils are there. -/
theorem three_coils_wellFormed :
    WellFormedResponse tenCells (readCoilsAtFive 3)
      (tenCells.processRequest (readCoilsAtFive 3)).response := by
  refine (response_wellFormed_iff tenCells (readCoilsAtFive 3) (by decide) (by decide)).mpr ?_
  rintro ⟨area, function, harea, hfunction, -, hacc⟩
  obtain rfl : .ofSize 10 = area := Option.some.inj harea
  obtain rfl : .readCoils = function := Option.some.inj hfunction
  revert hacc
  decide

/-- Ten coils are not: the answer is the frame of a frame. -/
theorem ten_coils_not_wellFormed :
    ¬ WellFormedResponse tenCells (readCoilsAtFive 10)
      (tenCells.processRequest (readCoilsAtFive 10)).response := by
  have hresponse : (tenCells.processRequest (readCoilsAtFive 10)).response =
      buildResponse (headerOf (readCoilsAtFive 10)) (createExceptionResponse
        (headerOf (readCoilsAtFive 10)) ModbusFunctionCode.readCoils.code .illegalDataAddress) := by
    decide
  rw [hresponse, wellFormed_buildResponse (by decide) (by decide)]
  exact not_answersRequest_refused (show _ = some (.ofSize 10) from rfl) rfl (by decide) _

/-- Writing back the area that is there. -/
theorem setArea_self {unitId : UInt8} {area : ModbusDataArea}
    (h : server.unitDataAreas unitId = some area) : server.setArea unitId area = server := by
  have hsame : (fun u => if u = unitId then some area else server.unitDataAreas u) =
      server.unitDataAreas := by
    funext u
    split_ifs with hu
    · rw [hu, h]
    · rfl
  rw [setArea, hsame]

end Responses

/-! ## §7. Requests in their frame -/

/-- A request: the header, with any transaction id and any length, and the PDU. -/
def requestFrame (transactionId length : UInt16) (unitId : UInt8) (pdu : List UInt8) :
    List UInt8 :=
  uint16ToBytes transactionId ++ uint16ToBytes 0 ++ uint16ToBytes length ++ unitId :: pdu

section Frames

variable (transactionId length : UInt16) (unitId : UInt8)

theorem length_requestFrame (pdu : List UInt8) :
    (requestFrame transactionId length unitId pdu).length = pdu.length + 7 := by
  simp [requestFrame, uint16ToBytes]
  omega

/-- The header of the frame is what it was built from. -/
theorem parseHeader_requestFrame (pdu : List UInt8) :
    parseHeader (requestFrame transactionId length unitId pdu) =
      some ⟨transactionId, 0, length, unitId⟩ := by
  have hlen := length_requestFrame transactionId length unitId pdu
  have hzero : joinBytes 0 0 = 0 := rfl
  rw [parseHeader, if_neg (by omega)]
  simp [requestFrame, uint16ToBytes, wordBytes, bytesToUInt16, join_bytes, hzero]

/-- The server on the frame, when it has the unit. -/
theorem processRequest_requestFrame {server : ModbusTcpServer} {area : ModbusDataArea}
    (harea : server.unitDataAreas unitId = some area) (fc : UInt8) (body : List UInt8) :
    server.processRequest (requestFrame transactionId length unitId (fc :: body)) =
      let header : ModbusTCPHeader := ⟨transactionId, 0, length, unitId⟩
      match ModbusFunctionCode.ofByte fc with
      | none => ⟨server, [], createExceptionResponse header fc .illegalFunction⟩
      | some function =>
        if !argumentsOk function body then
          ⟨server, [], createExceptionResponse header fc .illegalDataValue⟩
        else
          let handled := handle header area function body
          ⟨server.setArea unitId handled.area, handled.signals,
            if handled.response.isEmpty then [] else buildResponse header handled.response⟩ := by
  have hlen := length_requestFrame transactionId length unitId (fc :: body)
  rw [List.length_cons] at hlen
  have hfc : (requestFrame transactionId length unitId (fc :: body)).getD 7 0 = fc := rfl
  have hbody : (requestFrame transactionId length unitId (fc :: body)).drop 8 = body := rfl
  unfold processRequest
  rw [if_neg (by omega), parseHeader_requestFrame]
  simp only [ne_eq, not_true_eq_false, if_false, hfc, hbody, harea]

/-- And when it has not. -/
theorem processRequest_noUnit {server : ModbusTcpServer}
    (hnone : server.unitDataAreas unitId = none) (fc : UInt8) (body : List UInt8) :
    server.processRequest (requestFrame transactionId length unitId (fc :: body)) =
      ⟨server, [], createExceptionResponse ⟨transactionId, 0, length, unitId⟩ fc
        .gatewayTargetDeviceFailed⟩ := by
  have hlen := length_requestFrame transactionId length unitId (fc :: body)
  rw [List.length_cons] at hlen
  have hfc : (requestFrame transactionId length unitId (fc :: body)).getD 7 0 = fc := rfl
  unfold processRequest
  rw [if_neg (by omega), parseHeader_requestFrame]
  simp only [ne_eq, not_true_eq_false, if_false, hfc, hnone]

end Frames

end ModbusTcpServer

end Stdiolink.Modbus
