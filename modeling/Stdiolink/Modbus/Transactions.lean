/-
  Stdiolink.Modbus.Transactions — the TCP client and the TCP server on one operation.

  The two codecs are written one for themselves, in `modbus_client.cpp` and in
  `modbus_tcp_server.cpp`.  They meet in the bytes of the request and of the answer.  The client
  tells an exception by bit 7 of the function; where a handler refuses, this byte is the high byte
  of the transaction id, since the exception is a frame inside the frame.

  Main results:
    * `requested_pdu`       — the server is asked for the operation that the client was given;
    * `execute_performed`   — a performed operation is reported with its values;
    * `transaction_means_iff` — the report is right iff no exception is misread.
-/
import Stdiolink.Modbus.TcpClient

namespace Stdiolink.Modbus

open Stdiolink.Lib

/-! ## §1. What a transaction should mean -/

namespace Operation

/-- What is made of a normal answer. -/
def parse : Operation → List UInt8 → Option ModbusResult
  | readCoils _ count | readDiscreteInputs _ count =>
      fun response => ModbusClient.parseReadBitsResponse response count
  | readHoldingRegisters .. | readInputRegisters .. => ModbusClient.parseReadRegistersResponse
  | _ => ModbusClient.parseWriteResponse

end Operation

namespace ModbusClient

/-- The request of an operation. -/
def request (client : ModbusClient) (op : Operation) : List UInt8 :=
  (client.buildRequest op.functionCode op.pdu).1

/-- The operations of the client have one body. -/
theorem execute_eq (client : ModbusClient) (wire : Wire) (op : Operation) :
    client.execute wire op = client.transact wire op.functionCode op.pdu op.parse := by
  cases op <;> rfl

/-- The client reports a failure with this exception. -/
def Fails (result : Option ModbusResult) (exception : ModbusException) : Prop :=
  ∃ r, result = some r ∧ r.success = false ∧ r.exception = exception.code

/-- **What is reported is what was done.**  The operation was performed and is reported, with its
values; or it was not, nothing has changed, and the exception of the server is reported: there is no
such unit, or a cell of the operation is not there. -/
def MeansWhatItReports (server : ModbusTcpServer) (unitId : UInt8) (op : Operation)
    (after : ModbusTcpServer) (result : Option ModbusResult) : Prop :=
  match server.unitDataAreas unitId with
  | none => after = server ∧ Fails result .gatewayTargetDeviceFailed
  | some area =>
    match op.perform area.memory with
    | some (memory, values) =>
        (∃ area', after = server.setArea unitId area' ∧ area'.memory = memory) ∧
          ∃ r, result = some r ∧ r.success = true ∧ r.values = values
    | none => after = server ∧ Fails result .illegalDataAddress

/-- The unit is there, a cell of the operation is not, and the transaction id is not one whose two
bytes look like a failure with the exception that the server means. -/
def ExceptionMisread (server : ModbusTcpServer) (client : ModbusClient) (op : Operation) : Prop :=
  ∃ area, server.unitDataAreas client.unitId = some area ∧
    (∃ cell ∈ op.cells, area.memory cell = none) ∧
    ¬ (0x80 ≤ client.transactionId.toNat / 256 ∧ client.transactionId.toNat % 256 = 0x02)

/-! ## §2. The request -/

section Requests

open ModbusTcpServer (argumentsOk handlerAccepts)

theorem bytesToUInt16_twoWords (first second : UInt16) (rest : List UInt8) :
    bytesToUInt16 (twoWords first second ++ rest) 0 = first ∧
      bytesToUInt16 (twoWords first second ++ rest) 2 = second := by
  simp [twoWords, uint16ToBytes, wordBytes, bytesToUInt16, join_bytes]

theorem first_twoWords (first second : UInt16) :
    bytesToUInt16 (twoWords first second) 0 = first := by
  have h := (bytesToUInt16_twoWords first second []).1
  rwa [List.append_nil] at h

theorem second_twoWords (first second : UInt16) :
    bytesToUInt16 (twoWords first second) 2 = second := by
  have h := (bytesToUInt16_twoWords first second []).2
  rwa [List.append_nil] at h

theorem length_coilData (values : List Bool) :
    (coilData values).length = (values.length + 7) / 8 := by
  simp [coilData]

/-- The coils in their bytes. -/
theorem map_bitAt_coilData (values : List Bool) :
    (List.range values.length).map (bitAt (coilData values)) = values := by
  apply List.ext_getElem
  · simp
  · intro i _ hi
    have hdiv : i / 8 < (values.length + 7) / 8 := by omega
    have hpos : i / 8 * 8 + i % 8 = i := by omega
    rw [List.getElem_map, List.getElem_range, coilData, bitAt_packed]
    simp [hdiv, hpos, hi]

/-- The registers in their bytes. -/
theorem words_flatMap (values : List UInt16) :
    values.flatMap uint16ToBytes =
      (List.range values.length).flatMap fun i => uint16ToBytes (values.getD i 0) := by
  have hvalues : (List.range values.length).map (values.getD · 0) = values := by
    apply List.ext_getElem
    · simp
    · intro i _ hi
      simp [hi]
  conv_lhs => rw [← hvalues]
  rw [List.flatMap_map]

theorem map_words (values : List UInt16) :
    (List.range values.length).map
      (fun i => bytesToUInt16 (values.flatMap uint16ToBytes) (i * 2)) = values := by
  apply List.ext_getElem
  · simp
  · intro i _ hi
    rw [List.getElem_map, List.getElem_range, words_flatMap, Nat.mul_comm,
      bytesToUInt16_flatMap _ hi]
    simp [hi]

variable {op : Operation}

/-- **The server is asked for the operation** that the client was given. -/
theorem requested_pdu (h : op.WithinLimits) : requested op.functionCode op.pdu = op := by
  cases op with
  | readCoils address count =>
    simp only [requested, Operation.functionCode, Operation.pdu, first_twoWords, second_twoWords]
  | readDiscreteInputs address count =>
    simp only [requested, Operation.functionCode, Operation.pdu, first_twoWords, second_twoWords]
  | readHoldingRegisters address count =>
    simp only [requested, Operation.functionCode, Operation.pdu, first_twoWords, second_twoWords]
  | readInputRegisters address count =>
    simp only [requested, Operation.functionCode, Operation.pdu, first_twoWords, second_twoWords]
  | writeSingleCoil address value =>
    simp only [requested, Operation.functionCode, Operation.pdu, first_twoWords, second_twoWords]
    cases value <;> rfl
  | writeSingleRegister address value =>
    simp only [requested, Operation.functionCode, Operation.pdu, first_twoWords, second_twoWords]
  | writeMultipleCoils address values =>
    have hlen : (UInt16.ofNat values.length).toNat = values.length := by
      rw [UInt16.toNat_ofNat']
      obtain ⟨-, hlimit⟩ := h
      omega
    obtain ⟨hfirst, hsecond⟩ := bytesToUInt16_twoWords address (UInt16.ofNat values.length)
      (UInt8.ofNat ((values.length + 7) / 8) :: coilData values)
    have hdrop : (coilsPdu address values).drop 5 = coilData values := rfl
    simp only [requested, Operation.functionCode, Operation.pdu]
    rw [hdrop, coilsPdu, hfirst, hsecond, hlen, map_bitAt_coilData]
  | writeMultipleRegisters address values =>
    have hlen : (UInt16.ofNat values.length).toNat = values.length := by
      rw [UInt16.toNat_ofNat']
      obtain ⟨-, hlimit⟩ := h
      omega
    obtain ⟨hfirst, hsecond⟩ := bytesToUInt16_twoWords address (UInt16.ofNat values.length)
      (UInt8.ofNat (values.length * 2) :: values.flatMap uint16ToBytes)
    have hdrop : (registersPdu address values).drop 5 = values.flatMap uint16ToBytes := rfl
    simp only [requested, Operation.functionCode, Operation.pdu]
    rw [hdrop, registersPdu, hfirst, hsecond, hlen, map_words]

/-- Its arguments are complete, and the byte count is right. -/
theorem argumentsOk_pdu (h : op.WithinLimits) : argumentsOk op.functionCode op.pdu = true := by
  cases op with
  | readCoils address count => rfl
  | readDiscreteInputs address count => rfl
  | readHoldingRegisters address count => rfl
  | readInputRegisters address count => rfl
  | writeSingleCoil address value => cases value <;> rfl
  | writeSingleRegister address value => rfl
  | writeMultipleCoils address values =>
    obtain ⟨hone, hlimit⟩ := h
    have hlen : (coilsPdu address values).length = 5 + (values.length + 7) / 8 := by
      simp [coilsPdu, twoWords, uint16ToBytes, length_coilData]
      omega
    have hquantity : (bytesToUInt16 (coilsPdu address values) 2).toNat = values.length := by
      rw [coilsPdu, (bytesToUInt16_twoWords _ _ _).2, UInt16.toNat_ofNat']
      omega
    have hcount : ((coilsPdu address values).getD 4 0).toNat = (values.length + 7) / 8 := by
      show (UInt8.ofNat ((values.length + 7) / 8)).toNat = _
      rw [UInt8.toNat_ofNat']
      omega
    simp only [Operation.functionCode, Operation.pdu, argumentsOk, hlen, hquantity, hcount]
    simp
    omega
  | writeMultipleRegisters address values =>
    obtain ⟨hone, hlimit⟩ := h
    have hlen : (registersPdu address values).length = 5 + values.length * 2 := by
      simp [registersPdu, twoWords, uint16ToBytes, wordBytes]
      omega
    have hquantity : (bytesToUInt16 (registersPdu address values) 2).toNat = values.length := by
      rw [registersPdu, (bytesToUInt16_twoWords _ _ _).2, UInt16.toNat_ofNat']
      omega
    have hcount : ((registersPdu address values).getD 4 0).toNat = values.length * 2 := by
      show (UInt8.ofNat (values.length * 2)).toNat = _
      rw [UInt8.toNat_ofNat']
      omega
    simp only [Operation.functionCode, Operation.pdu, argumentsOk, hlen, hquantity, hcount]
    simp
    omega

theorem coilValueOk_pdu (op : Operation) : CoilValueOk op.functionCode op.pdu := by
  intro hcoil
  cases op with
  | writeSingleCoil address value =>
    simp only [Operation.pdu, second_twoWords]
    cases value
    · exact Or.inl rfl
    · exact Or.inr rfl
  | readCoils address count => cases hcoil
  | readDiscreteInputs address count => cases hcoil
  | readHoldingRegisters address count => cases hcoil
  | readInputRegisters address count => cases hcoil
  | writeSingleRegister address value => cases hcoil
  | writeMultipleCoils address values => cases hcoil
  | writeMultipleRegisters address values => cases hcoil

/-- **Its handler accepts** iff the cells of the operation are there. -/
theorem handlerAccepts_pdu (h : op.WithinLimits) (area : ModbusDataArea) :
    handlerAccepts area op.functionCode op.pdu = true ↔
      ∀ cell ∈ op.cells, (area.memory cell).isSome := by
  rw [accepts_iff, requested_pdu h]
  constructor
  · exact fun haccepts => haccepts.2.1
  · exact fun hcells => ⟨h, hcells, coilValueOk_pdu op⟩

/-- A handler that refuses such a request says that the address is illegal. -/
theorem handle_pdu_refused {area : ModbusDataArea} (header : ModbusTCPHeader)
    (hacc : handlerAccepts area op.functionCode op.pdu = false) :
    ModbusTcpServer.handle header area op.functionCode op.pdu =
      ModbusTcpServer.refuse header area op.functionCode .illegalDataAddress := by
  obtain h | ⟨⟨hcoil, hoff, hon⟩, -⟩ := ModbusTcpServer.handle_refused_cases header hacc
  · exact h
  · -- the client switches a coil on or off
    obtain hvalue | hvalue := coilValueOk_pdu op hcoil
    · exact absurd hvalue hoff
    · exact absurd hvalue hon

end Requests

/-! ## §3. The answer -/

section Answers

open ModbusTcpServer (buildResponse BitsBody RegistersBody NormalBody)

variable {header : ModbusTCPHeader}

theorem length_buildResponse (header : ModbusTCPHeader) (pdu : List UInt8) :
    (buildResponse header pdu).length = pdu.length + 7 := by
  simp [buildResponse, uint16ToBytes]
  omega

/-- What the server builds is an answer to the transaction. -/
theorem isAnswer_buildResponse (hproto : header.protocolId = 0) {pdu : List UInt8}
    (hone : 1 ≤ pdu.length) (hlen : pdu.length < 65535) :
    IsAnswer header.transactionId (buildResponse header pdu) := by
  have hfirst : bytesToUInt16 (buildResponse header pdu) 0 = header.transactionId :=
    join_bytes header.transactionId
  have hsecond : bytesToUInt16 (buildResponse header pdu) 2 = 0 :=
    (join_bytes header.protocolId).trans hproto
  have hfield : (bytesToUInt16 (buildResponse header pdu) 4).toNat = pdu.length + 1 := by
    have hword : bytesToUInt16 (buildResponse header pdu) 4 = UInt16.ofNat (pdu.length + 1) :=
      join_bytes _
    rw [hword, UInt16.toNat_ofNat']
    omega
  refine ⟨hfirst, hsecond, ?_, ?_⟩
  · rw [hfield]
    omega
  · rw [hfield, length_buildResponse]
    omega

variable (client : ModbusClient) (fc : ModbusFunctionCode) (op : Operation)

/-- The transaction id of a request is looked up in its first two bytes. -/
theorem readUInt16BE_request (pdu : List UInt8) :
    readUInt16BE (client.buildRequest fc pdu).1 0 = some client.transactionId := by
  simp [buildRequest, readUInt16BE, uint16ToBytes, wordBytes, join_bytes]

variable {rounds : List (Option (List UInt8))} {response answer : List UInt8}

/-- The operation, when this response has been read. -/
theorem execute_read (hread : readResponse client.transactionId rounds {} = some (.ok response)) :
    client.execute { rounds := rounds } op =
      (interpret op.functionCode response).bind fun (result, responseOut) =>
        if !result.success then some result else op.parse responseOut := by
  rw [execute_eq, transact, sendRequest]
  simp only [Bool.not_true, Bool.false_eq_true, if_false, readUInt16BE_request, hread, bind,
    Option.bind, pure]

/-- The operation, when no response could be read. -/
theorem execute_error {message : String}
    (hread : readResponse client.transactionId rounds {} = some (.error message)) :
    client.execute { rounds := rounds } op = some (.failed message) := by
  rw [execute_eq, transact, sendRequest]
  simp only [Bool.not_true, Bool.false_eq_true, if_false, readUInt16BE_request, hread, bind,
    Option.bind, pure]
  rfl

/-- The operation, when the answer is there in time. -/
theorem execute_answer (h : IsAnswer client.transactionId response)
    (hrounds : Delivers rounds response) :
    client.execute { rounds := rounds } op =
      (interpret op.functionCode response).bind fun (result, responseOut) =>
        if !result.success then some result else op.parse responseOut :=
  execute_read client op (readResponse_complete h List.prefix_rfl hrounds)

/-- What is made of an answer depends on the two bytes after the header. -/
theorem interpret_build (first second : UInt8) (rest : List UInt8) :
    interpret fc (buildResponse header (first :: second :: rest)) =
      if first &&& 0x80 ≠ 0 then
        some ({ exception := second, errorMessage := exceptionMessage second }, [])
      else if first ≠ fc.code then some (.failed "Unexpected function code", [])
      else some ({ success := true }, buildResponse header (first :: second :: rest)) := by
  have hlen := length_buildResponse header (first :: second :: rest)
  simp only [List.length_cons] at hlen
  have hlong : ¬ (buildResponse header (first :: second :: rest)).length < 8 := by omega
  have hseven : (buildResponse header (first :: second :: rest))[7]? = some first := rfl
  have height : (buildResponse header (first :: second :: rest))[8]? = some second := rfl
  unfold interpret
  simp only [hlong, if_false, hseven, height, bind, Option.bind, pure]

/-- An exception of the server, as the client has it. -/
theorem interpret_exception (exception : ModbusException) :
    interpret fc (ModbusTcpServer.createExceptionResponse header fc.code exception) =
      some ({ exception := exception.code, errorMessage := exceptionMessage exception.code }, []) :=
  (interpret_build fc _ _ []).trans (if_pos (highBit_set fc.code))

/-- A normal answer, as the client has it. -/
theorem interpret_normal (answer : List UInt8) :
    interpret fc (buildResponse header (fc.code :: answer)) =
      some ({ success := true }, buildResponse header (fc.code :: answer)) := by
  have hlen := length_buildResponse header (fc.code :: answer)
  rw [List.length_cons] at hlen
  have hlong : ¬ (buildResponse header (fc.code :: answer)).length < 8 := by omega
  have hseven : (buildResponse header (fc.code :: answer))[7]? = some fc.code := rfl
  unfold interpret
  simp only [hlong, if_false, hseven, bind, Option.bind, pure, fc.code_highBit, ne_eq,
    not_true_eq_false]

/-- A listing of bits. -/
theorem parse_bits {bits : List Bool} {first : Nat} {count : UInt16} (fc : UInt8)
    (h : BitsBody bits first count.toNat answer) :
    parseReadBitsResponse (buildResponse header (fc :: answer)) count =
      some { success := true,
             coils := (List.range count.toNat).map (bitAt (answer.drop 1)) } := by
  obtain ⟨byteCount, data, rfl, hcount, hdata, -, -, -⟩ := h
  have hlen := length_buildResponse header (fc :: byteCount :: data)
  simp only [List.length_cons] at hlen
  have height : (buildResponse header (fc :: byteCount :: data))[9 - 1]? = some byteCount := rfl
  exact parseBits_success (by omega) height (by omega) (by omega)

/-- A listing of registers. -/
theorem parse_registers {registers : List UInt16} {first count : Nat} (fc : UInt8)
    (h : RegistersBody registers first count answer) :
    parseReadRegistersResponse (buildResponse header (fc :: answer)) =
      some { success := true,
             registers := (List.range count).map
               fun i => bytesToUInt16 (answer.drop 1) (2 * i) } := by
  obtain ⟨byteCount, data, rfl, hcount, hdata, -, -⟩ := h
  have hlen := length_buildResponse header (fc :: byteCount :: data)
  simp only [List.length_cons] at hlen
  have height : (buildResponse header (fc :: byteCount :: data))[9 - 1]? = some byteCount := rfl
  have hhalf : byteCount.toNat / 2 = count := by omega
  rw [← hhalf]
  exact parseRegisters_success (by omega) height (by omega)

/-- **A normal answer** is parsed to the values that it lists. -/
theorem parse_normal (header : ModbusTCPHeader) {op : Operation} {area : ModbusDataArea}
    (h : NormalBody area op.functionCode op.pdu answer) :
    ∃ r, op.parse (buildResponse header (op.functionCode.code :: answer)) = some r ∧
      r.success = true ∧ r.values = listed op answer := by
  have hwrite : 4 ≤ op.pdu.length ∧ answer = op.pdu.take 4 →
      parseWriteResponse (buildResponse header (op.functionCode.code :: answer)) =
        some { success := true } := by
    rintro ⟨hfour, rfl⟩
    apply if_pos
    rw [length_buildResponse, List.length_cons, List.length_take]
    omega
  cases op with
  | readCoils address count =>
    simp only [NormalBody, Operation.functionCode, Operation.pdu, second_twoWords] at h
    refine ⟨_, parse_bits _ h, rfl, ?_⟩
    simp [ModbusResult.values, listed, listedCoils]
  | readDiscreteInputs address count =>
    simp only [NormalBody, Operation.functionCode, Operation.pdu, second_twoWords] at h
    refine ⟨_, parse_bits _ h, rfl, ?_⟩
    simp [ModbusResult.values, listed, listedCoils]
  | readHoldingRegisters address count =>
    simp only [NormalBody, Operation.functionCode, Operation.pdu, second_twoWords] at h
    refine ⟨_, parse_registers _ h, rfl, ?_⟩
    simp [ModbusResult.values, listed, listedRegisters]
  | readInputRegisters address count =>
    simp only [NormalBody, Operation.functionCode, Operation.pdu, second_twoWords] at h
    refine ⟨_, parse_registers _ h, rfl, ?_⟩
    simp [ModbusResult.values, listed, listedRegisters]
  | writeSingleCoil address value => exact ⟨_, hwrite h, rfl, rfl⟩
  | writeSingleRegister address value => exact ⟨_, hwrite h, rfl, rfl⟩
  | writeMultipleCoils address values => exact ⟨_, hwrite h, rfl, rfl⟩
  | writeMultipleRegisters address values => exact ⟨_, hwrite h, rfl, rfl⟩

/-- The parsers report no exception. -/
theorem parse_exception {op : Operation} {r : ModbusResult} (h : op.parse response = some r) :
    r.exception = 0 := by
  have hbits : ∀ count, parseBits 9 9 0 response count = some r → r.exception = 0 := by
    intro count hr
    unfold parseBits at hr
    split at hr
    · obtain rfl := Option.some.inj hr
      rfl
    · obtain ⟨byteCount, -, hr⟩ := Option.bind_eq_some_iff.mp hr
      split at hr
      · obtain rfl := Option.some.inj hr
        rfl
      · obtain ⟨coils, -, hr⟩ := Option.bind_eq_some_iff.mp hr
        obtain rfl := Option.some.inj hr
        rfl
  have hregisters : parseRegisters 9 9 0 response = some r → r.exception = 0 := by
    intro hr
    unfold parseRegisters at hr
    split at hr
    · obtain rfl := Option.some.inj hr
      rfl
    · obtain ⟨byteCount, -, hr⟩ := Option.bind_eq_some_iff.mp hr
      split at hr
      · obtain rfl := Option.some.inj hr
        rfl
      · obtain ⟨registers, -, hr⟩ := Option.bind_eq_some_iff.mp hr
        obtain rfl := Option.some.inj hr
        rfl
  have hwrite : parseWriteResponse response = some r → r.exception = 0 := by
    intro hr
    unfold parseWriteResponse at hr
    split at hr <;> obtain rfl := Option.some.inj hr <;> rfl
  cases op with
  | readCoils address count => exact hbits count h
  | readDiscreteInputs address count => exact hbits count h
  | readHoldingRegisters address count => exact hregisters h
  | readInputRegisters address count => exact hregisters h
  | writeSingleCoil address value => exact hwrite h
  | writeSingleRegister address value => exact hwrite h
  | writeMultipleCoils address values => exact hwrite h
  | writeMultipleRegisters address values => exact hwrite h

end Answers

/-! ## §4. The transaction -/

section Transactions

open ModbusTcpServer (buildResponse createExceptionResponse)

variable {server : ModbusTcpServer} {client : ModbusClient} {op : Operation}
  {rounds : List (Option (List UInt8))}

/-- The header that the server reads in the request. -/
def requestHeader (client : ModbusClient) (op : Operation) : ModbusTCPHeader :=
  ⟨client.transactionId, 0, UInt16.ofNat (op.pdu.length + 2), client.unitId⟩

theorem request_eq (client : ModbusClient) (op : Operation) :
    client.request op =
      ModbusTcpServer.requestFrame client.transactionId (UInt16.ofNat (op.pdu.length + 2))
        client.unitId (op.functionCode.code :: op.pdu) := rfl

theorem ofByte_code (function : ModbusFunctionCode) :
    ModbusFunctionCode.ofByte function.code = some function := by
  cases function <;> rfl

/-- There is no such unit. -/
theorem execute_noUnit (hnone : server.unitDataAreas client.unitId = none)
    (hrounds : Delivers rounds (server.processRequest (client.request op)).response) :
    (server.processRequest (client.request op)).server = server ∧
      Fails (client.execute { rounds := rounds } op) .gatewayTargetDeviceFailed := by
  rw [request_eq, ModbusTcpServer.processRequest_noUnit _ _ _ hnone] at hrounds ⊢
  have hanswer : IsAnswer client.transactionId (createExceptionResponse (requestHeader client op)
      op.functionCode.code .gatewayTargetDeviceFailed) :=
    isAnswer_buildResponse (show (requestHeader client op).protocolId = 0 from rfl)
      (show 1 ≤ 2 by omega) (show 2 < 65535 by omega)
  refine ⟨rfl, { exception := ModbusException.gatewayTargetDeviceFailed.code
                 errorMessage := exceptionMessage 0x0B }, ?_, rfl, rfl⟩
  rw [execute_answer client op hanswer hrounds, interpret_exception]
  rfl

/-- **A performed operation** is reported with its values. -/
theorem execute_performed (hlimits : op.WithinLimits) {area : ModbusDataArea}
    (harea : server.unitDataAreas client.unitId = some area)
    (hcells : ∀ cell ∈ op.cells, (area.memory cell).isSome)
    (hrounds : Delivers rounds (server.processRequest (client.request op)).response) :
    ∃ area' r, (server.processRequest (client.request op)).server =
        server.setArea client.unitId area' ∧
      client.execute { rounds := rounds } op = some r ∧ r.success = true ∧
      op.perform area.memory = some (area'.memory, r.values) := by
  have hargs := argumentsOk_pdu hlimits
  have hacc := (handlerAccepts_pdu hlimits area).mpr hcells
  obtain ⟨answer, hresponse, hlen, hnormal, hperform⟩ :=
    handle_performs (requestHeader client op) hargs hacc
  rw [requested_pdu hlimits] at hperform
  rw [request_eq, ModbusTcpServer.processRequest_requestFrame _ _ _ harea, ofByte_code]
    at hrounds ⊢
  rw [← requestHeader] at hrounds ⊢
  simp only [hargs, Bool.not_true, Bool.false_eq_true, if_false, hresponse, List.isEmpty_cons]
    at hrounds ⊢
  have hpdu : (op.functionCode.code :: answer).length = answer.length + 1 := rfl
  have hanswer : IsAnswer client.transactionId
      (buildResponse (requestHeader client op) (op.functionCode.code :: answer)) :=
    isAnswer_buildResponse (show (requestHeader client op).protocolId = 0 from rfl) (by omega)
      (by omega)
  obtain ⟨r, hparse, hsuccess, hvalues⟩ := parse_normal (requestHeader client op) hnormal
  refine ⟨_, r, rfl, ?_, hsuccess, ?_⟩
  · rw [execute_answer client op hanswer hrounds, interpret_normal]
    exact hparse
  · rw [hvalues]
    exact hperform

/-- Bit 7 of a byte. -/
theorem highBit_iff (byte : UInt8) : byte &&& 0x80 ≠ 0 ↔ 0x80 ≤ byte.toNat := by
  have hall : ∀ n : Fin 256, (UInt8.ofNat n &&& 0x80 ≠ 0) ↔ 0x80 ≤ n.val := by decide +kernel
  have hbyte := hall ⟨byte.toNat, byte.toNat_lt⟩
  rwa [UInt8.ofNat_toNat] at hbyte

/-- **A refusal** is reported iff the two bytes of the transaction id say the same. -/
theorem execute_refused (hlimits : op.WithinLimits) {area : ModbusDataArea}
    (harea : server.unitDataAreas client.unitId = some area)
    (hcells : ¬ ∀ cell ∈ op.cells, (area.memory cell).isSome)
    (hrounds : Delivers rounds (server.processRequest (client.request op)).response) :
    (server.processRequest (client.request op)).server = server ∧
      (Fails (client.execute { rounds := rounds } op) .illegalDataAddress ↔
        0x80 ≤ client.transactionId.toNat / 256 ∧ client.transactionId.toNat % 256 = 0x02) := by
  have hargs := argumentsOk_pdu hlimits
  have hacc : ModbusTcpServer.handlerAccepts area op.functionCode op.pdu = false := by
    rw [← Bool.not_eq_true, handlerAccepts_pdu hlimits area]
    exact hcells
  have hhandle := handle_pdu_refused (requestHeader client op) hacc
  rw [request_eq, ModbusTcpServer.processRequest_requestFrame _ _ _ harea, ofByte_code]
    at hrounds ⊢
  rw [← requestHeader] at hrounds ⊢
  simp only [hargs, Bool.not_true, Bool.false_eq_true, if_false, hhandle, ModbusTcpServer.refuse]
    at hrounds ⊢
  refine ⟨ModbusTcpServer.setArea_self harea, ?_⟩
  -- the PDU of the answer is a frame, which begins with the transaction id
  obtain ⟨rest, hrest, hnested⟩ : ∃ rest, rest.length = 7 ∧
      createExceptionResponse (requestHeader client op) op.functionCode.code .illegalDataAddress =
        (client.transactionId >>> 8).toUInt8 :: client.transactionId.toUInt8 :: rest :=
    ⟨_, rfl, rfl⟩
  have hhigh : (client.transactionId >>> 8).toUInt8.toNat = client.transactionId.toNat / 256 := by
    have hlt := client.transactionId.toNat_lt
    simp only [UInt16.toNat_toUInt8, UInt16.toNat_shiftRight]
    change client.transactionId.toNat >>> 8 % 256 = _
    rw [Nat.shiftRight_eq_div_pow]
    omega
  have hlow : client.transactionId.toUInt8 = 0x02 ↔ client.transactionId.toNat % 256 = 0x02 := by
    rw [← UInt8.toNat_inj, UInt16.toNat_toUInt8]
    rfl
  rw [hnested] at hrounds
  simp only [List.isEmpty_cons, Bool.false_eq_true, if_false] at hrounds
  have hanswer : IsAnswer client.transactionId (buildResponse (requestHeader client op)
      ((client.transactionId >>> 8).toUInt8 :: client.transactionId.toUInt8 :: rest)) :=
    isAnswer_buildResponse (show (requestHeader client op).protocolId = 0 from rfl) (by simp)
      (by simp [hrest])
  rw [execute_answer client op hanswer hrounds, interpret_build, ← hhigh, ← highBit_iff, ← hlow]
  have hnot : ∀ {result : Option ModbusResult}, (∀ r, result = some r → r.exception = 0) →
      ¬ Fails result .illegalDataAddress := by
    rintro result hzero ⟨r, hresult, -, hexception⟩
    rw [hzero r hresult] at hexception
    cases hexception
  by_cases hbit : (client.transactionId >>> 8).toUInt8 &&& 0x80 ≠ 0
  · -- taken for an exception, whose code is the low byte
    rw [if_pos hbit]
    constructor
    · rintro ⟨r, hresult, -, hexception⟩
      obtain rfl := Option.some.inj hresult
      exact ⟨hbit, hexception⟩
    · rintro ⟨-, hcode⟩
      exact ⟨_, rfl, rfl, hcode⟩
  · -- taken for a function code: another one is a failure without exception, and if it is the
    -- one that was asked for, the frame is parsed
    rw [if_neg hbit]
    refine iff_of_false (hnot fun r hresult => ?_) fun h => hbit h.1
    split_ifs at hresult
    · obtain rfl := Option.some.inj hresult
      rfl
    · exact parse_exception hresult

/-- **What the client reports is what the server has done**, for every server, transaction id, unit
and operation within the limits of the protocol, and for an answer that comes in time in any
pieces, iff no exception is misread. -/
theorem transaction_means_iff (server : ModbusTcpServer) (client : ModbusClient) (op : Operation)
    (rounds : List (Option (List UInt8))) (hlimits : op.WithinLimits)
    (hrounds : Delivers rounds (server.processRequest (client.request op)).response) :
    MeansWhatItReports server client.unitId op (server.processRequest (client.request op)).server
        (client.execute { rounds := rounds } op) ↔
      ¬ ExceptionMisread server client op := by
  unfold MeansWhatItReports ExceptionMisread
  cases harea : server.unitDataAreas client.unitId with
  | none =>
    refine iff_of_true (execute_noUnit harea hrounds) ?_
    rintro ⟨area, hsome, -⟩
    cases hsome
  | some area =>
    dsimp only
    by_cases hcells : ∀ cell ∈ op.cells, (area.memory cell).isSome
    · obtain ⟨area', r, hserver, hresult, hsuccess, hperform⟩ :=
        execute_performed hlimits harea hcells hrounds
      rw [hperform]
      refine iff_of_true ⟨⟨area', hserver, rfl⟩, r, hresult, hsuccess, rfl⟩ ?_
      rintro ⟨area'', hsome, ⟨cell, hmem, hnone⟩, -⟩
      obtain rfl := Option.some.inj hsome
      have hthere := hcells cell hmem
      rw [hnone] at hthere
      cases hthere
    · obtain ⟨hserver, hfails⟩ := execute_refused hlimits harea hcells hrounds
      rw [Operation.perform_eq_none hcells]
      dsimp only
      rw [hfails]
      push Not at hcells
      obtain ⟨cell, hmem, habsent⟩ := hcells
      have hnone := Option.not_isSome_iff_eq_none.mp habsent
      constructor
      · rintro ⟨-, hid⟩ ⟨area'', -, -, hmisread⟩
        exact hmisread hid
      · intro hno
        refine ⟨hserver, ?_⟩
        by_contra hid
        exact hno ⟨area, rfl, ⟨cell, hmem, hnone⟩, hid⟩

/-- A client that is about to send the transaction 0x0101 to unit 1. -/
def clientAt0101 : ModbusClient := { transactionId := 0x0101, unitId := 1 }

/-- What it reports when the answer comes in one piece. -/
def reportOf (op : Operation) : Option ModbusResult :=
  clientAt0101.execute { rounds :=
    [some (ModbusTcpServer.tenCells.processRequest (clientAt0101.request op)).response, none] } op

/-- Three coils from address 5 are read. -/
theorem three_coils_reported :
    MeansWhatItReports ModbusTcpServer.tenCells 1 (.readCoils 5 3)
      (ModbusTcpServer.tenCells.processRequest (clientAt0101.request (.readCoils 5 3))).server
      (reportOf (.readCoils 5 3)) := by
  refine (transaction_means_iff ModbusTcpServer.tenCells clientAt0101 (.readCoils 5 3)
    [some _, none] (by decide) ⟨[some _], [none], rfl, by simp, List.append_nil _⟩).mpr ?_
  rintro ⟨area, harea, ⟨cell, hmem, hnone⟩, -⟩
  obtain rfl : .ofSize 10 = area := Option.some.inj harea
  revert cell
  decide

/-- Ten coils from there are not, and the client reports success: the high byte of the transaction
id is the function code. -/
theorem ten_coils_misreported :
    ¬ MeansWhatItReports ModbusTcpServer.tenCells 1 (.readCoils 5 10)
      (ModbusTcpServer.tenCells.processRequest (clientAt0101.request (.readCoils 5 10))).server
      (reportOf (.readCoils 5 10)) := by
  have harea : ModbusTcpServer.tenCells.unitDataAreas 1 = some (.ofSize 10) := rfl
  have hperform : (Operation.readCoils 5 10).perform (ModbusDataArea.ofSize 10).memory = none := by
    apply Operation.perform_eq_none
    decide
  have hreport : (reportOf (.readCoils 5 10)).map ModbusResult.success = some true := by
    decide +kernel
  unfold MeansWhatItReports
  rw [harea]
  dsimp only
  rw [hperform]
  rintro ⟨-, r, hresult, hsuccess, -⟩
  rw [hresult, Option.map_some, hsuccess] at hreport
  cases hreport

end Transactions

end ModbusClient

end Stdiolink.Modbus
