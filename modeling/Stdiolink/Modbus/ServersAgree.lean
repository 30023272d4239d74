/-
  Stdiolink.Modbus.ServersAgree — the three servers on one request.

  The protocol logic is written three times.  `modbus_tcp_server.cpp` checks the arguments before
  it calls a handler, which checks the addresses; the RTU servers have both in one `case`.  Apart
  from the order of the checks, they differ in what a refusing handler answers: the TCP handlers
  give `processRequest` a frame where it expects a PDU.

  Main results:
    * `handle_accepted_eq`  — what is carried out is the same, data and answer;
    * `handle_badArguments` — bad arguments have the same exception;
    * `servers_agree_iff`   — the servers agree iff no handler of the TCP server refuses.
-/
import Stdiolink.Modbus.TcpServer
import Stdiolink.Modbus.SerialServer

namespace Stdiolink.Modbus

open Stdiolink.Lib

/-! ## §1. One request in three frames -/

/-- The PDU of a TCP answer: what is after the header. -/
def tcpPdu (response : List UInt8) : List UInt8 := response.drop 7

open ModbusRtuSerialServer (pduOf)
open ModbusTcpServer (requestFrame)

/-- **The same answer up to framing**, and the same data area. -/
structure SameAnswers (unitId : UInt8) (tcp : Processed) (rtu : RtuProcessed)
    (serial : SerialProcessed) : Prop where
  rtuPdu : pduOf rtu.response = tcpPdu tcp.response
  serialPdu : pduOf serial.response = tcpPdu tcp.response
  rtuArea : rtu.server.unitDataAreas unitId = tcp.server.unitDataAreas unitId
  serialArea : serial.server.unitDataAreas unitId = tcp.server.unitDataAreas unitId

/-- The arguments are there and the byte count is right, but the handler refuses them: for the
addresses, the quantity or the value of a coil. -/
def HandlerRefuses (area : ModbusDataArea) (functionCode : UInt8) (body : List UInt8) : Prop :=
  ∃ function, ModbusFunctionCode.ofByte functionCode = some function ∧
    ModbusTcpServer.argumentsOk function body = true ∧
    ModbusTcpServer.handlerAccepts area function body = false

/-! ## §2. The cases of the `switch` -/

section Cases

variable {area : ModbusDataArea} {function : ModbusFunctionCode} {body : List UInt8}

open ModbusTcpServer (argumentsOk handlerAccepts guard_eq Inside)

/-- Reading bits. -/
theorem readBits_eq (header : ModbusTCPHeader) (bits : List Bool) (hlen : 4 ≤ body.length)
    (hacc : Inside (bytesToUInt16 body 0) (bytesToUInt16 body 2) 2000 bits.length = true) :
    ModbusRtuServer.readBits header.unitId area body function bits =
      let handled := ModbusTcpServer.handleReadBits header area function bits
        (bytesToUInt16 body 0) (bytesToUInt16 body 2)
      .ok ⟨handled.area, handled.signals, handled.response⟩ := by
  have hshort : ¬ body.length < 4 := by omega
  simp only [ModbusRtuServer.readBits, ModbusTcpServer.handleReadBits, hshort,
    guard_eq 2000 hacc, if_false, Bool.not_true, Bool.false_eq_true]

/-- Reading registers. -/
theorem readRegisters_eq (header : ModbusTCPHeader) (registers : List UInt16)
    (hlen : 4 ≤ body.length)
    (hacc : Inside (bytesToUInt16 body 0) (bytesToUInt16 body 2) 125 registers.length = true) :
    ModbusRtuServer.readRegisters header.unitId area body function registers =
      let handled := ModbusTcpServer.handleReadRegisters header area function registers
        (bytesToUInt16 body 0) (bytesToUInt16 body 2)
      .ok ⟨handled.area, handled.signals, handled.response⟩ := by
  have hshort : ¬ body.length < 4 := by omega
  simp only [ModbusRtuServer.readRegisters, ModbusTcpServer.handleReadRegisters, hshort,
    guard_eq 125 hacc, if_false, Bool.not_true, Bool.false_eq_true]

theorem quantity_inside {first quantity : UInt16} (limit : UInt16) {size : Nat}
    (h : Inside first quantity limit.toNat size = true) :
    ¬ quantity < 1 ∧ ¬ quantity > limit ∧ ¬ first.toNat + quantity.toNat > size := by
  obtain ⟨hone, hlimit, hsize⟩ := ModbusTcpServer.inside_iff.mp h
  rw [gt_iff_lt, UInt16.lt_iff_toNat_lt, UInt16.lt_iff_toNat_lt]
  refine ⟨?_, by omega, by omega⟩
  intro hzero
  change quantity.toNat < 1 at hzero
  omega

/-- **What is carried out is the same**: the data area after it, the signals and the answer. -/
theorem handle_accepted_eq (header : ModbusTCPHeader) (hargs : argumentsOk function body = true)
    (hacc : handlerAccepts area function body = true) :
    ModbusRtuServer.handle header.unitId area body function =
      let handled := ModbusTcpServer.handle header area function body
      .ok ⟨handled.area, handled.signals, handled.response⟩ := by
  have hlen := ModbusTcpServer.argumentsOk_length hargs
  have hshort : ¬ body.length < 4 := by omega
  cases function with
  | readCoils => exact readBits_eq header area.coils hlen hacc
  | readDiscreteInputs => exact readBits_eq header area.discreteInputs hlen hacc
  | readHoldingRegisters => exact readRegisters_eq header area.holdingRegisters hlen hacc
  | readInputRegisters => exact readRegisters_eq header area.inputRegisters hlen hacc
  | writeSingleCoil =>
    simp only [handlerAccepts, Bool.and_eq_true, Bool.or_eq_true, decide_eq_true_eq] at hacc
    have hthere : ¬ (bytesToUInt16 body 0).toNat ≥ area.coils.length := by omega
    have hvalue : ¬ (decide (bytesToUInt16 body 2 ≠ 0x0000) &&
        decide (bytesToUInt16 body 2 ≠ 0xFF00)) = true := by
      obtain h | h := hacc.2 <;> simp [h]
    simp only [ModbusRtuServer.handle, ModbusTcpServer.handle, ModbusRtuServer.writeSingleCoil,
      ModbusTcpServer.handleWriteSingleCoil, hshort, hthere, hvalue, if_false]
    rfl
  | writeSingleRegister =>
    simp only [handlerAccepts, decide_eq_true_eq] at hacc
    have hthere : ¬ (bytesToUInt16 body 0).toNat ≥ area.holdingRegisters.length := by omega
    simp only [ModbusRtuServer.handle, ModbusTcpServer.handle,
      ModbusRtuServer.writeSingleRegister, ModbusTcpServer.handleWriteSingleRegister, hshort,
      hthere, if_false]
    rfl
  | writeMultipleCoils =>
    obtain ⟨hone, hlimit, hthere⟩ := quantity_inside 1968 hacc
    obtain ⟨hsix, hcount, hdrop⟩ := ModbusTcpServer.multiple_arguments hargs
    have hfive : ¬ body.length < 5 := by omega
    have hvalues : ¬ body.length < 5 + ((bytesToUInt16 body 2).toNat + 7) / 8 := by
      rw [List.length_drop] at hdrop
      omega
    simp only [ModbusRtuServer.handle, ModbusTcpServer.handle,
      ModbusRtuServer.writeMultipleCoils, ModbusTcpServer.handleWriteMultipleCoils, hone, hlimit,
      hthere, hfive, hcount, hvalues, hdrop, decide_false, Bool.or_false, ne_eq,
      not_true_eq_false, Bool.false_eq_true, if_false]
    rfl
  | writeMultipleRegisters =>
    obtain ⟨hone, hlimit, hthere⟩ := quantity_inside 123 hacc
    obtain ⟨hsix, hcount, hdrop⟩ := ModbusTcpServer.multiple_arguments hargs
    have hfive : ¬ body.length < 5 := by omega
    have hvalues : ¬ body.length < 5 + (bytesToUInt16 body 2).toNat * 2 := by
      rw [List.length_drop] at hdrop
      omega
    simp only [ModbusRtuServer.handle, ModbusTcpServer.handle,
      ModbusRtuServer.writeMultipleRegisters, ModbusTcpServer.handleWriteMultipleRegisters, hone,
      hlimit, hthere, hfive, hcount, hvalues, hdrop, decide_false, Bool.or_false, ne_eq,
      not_true_eq_false, Bool.false_eq_true, if_false, bytesToUInt16_drop]
    rfl

/-- The guard of a multiple write: the arguments are checked with the quantity. -/
theorem badArguments_guard (quantity limit : UInt16) {count : Nat}
    (h : (!decide (body.length < 6) && !(decide ((body.getD 4 0).toNat ≠ count) ||
      decide (body.length < 5 + (body.getD 4 0).toNat))) = false)
    (hfive : ¬ body.length < 5) (hpos : 1 ≤ quantity.toNat → 1 ≤ count) :
    (decide (quantity < 1) || decide (quantity > limit) ||
      decide ((body.getD 4 0).toNat ≠ count) ||
        decide (body.length < 5 + (body.getD 4 0).toNat)) = true := by
  by_cases hone : quantity < 1
  · simp [hone]
  · -- a quantity of at least one needs values, and five bytes leave no room for them
    have hquantity : 1 ≤ quantity.toNat := by
      rw [UInt16.lt_iff_toNat_lt] at hone
      change ¬ quantity.toNat < 1 at hone
      omega
    have hcount := hpos hquantity
    simp only [Bool.and_eq_false_iff, Bool.not_eq_false', decide_eq_true_eq, Bool.or_eq_true]
      at h ⊢
    omega

/-- **Bad arguments.**  Where the TCP server does not get to a handler, the RTU servers have the
same exception: the byte count of five bytes cannot be right. -/
theorem handle_badArguments (unitId : UInt8) (hargs : argumentsOk function body = false) :
    ModbusRtuServer.handle unitId area body function = .error .illegalDataValue := by
  unfold ModbusRtuServer.handle
  cases function with
  | writeMultipleCoils =>
    by_cases hfive : body.length < 5
    · exact if_pos hfive
    · have hguard := badArguments_guard (bytesToUInt16 body 2) 1968 hargs
        hfive (by omega)
      unfold ModbusRtuServer.writeMultipleCoils
      rw [if_neg hfive]
      exact if_pos hguard
  | writeMultipleRegisters =>
    by_cases hfive : body.length < 5
    · exact if_pos hfive
    · have hguard := badArguments_guard (bytesToUInt16 body 2) 123 hargs
        hfive (by omega)
      unfold ModbusRtuServer.writeMultipleRegisters
      rw [if_neg hfive]
      exact if_pos hguard
  | _ =>
    simp only [argumentsOk, Bool.not_eq_false', decide_eq_true_eq] at hargs
    exact if_pos hargs

/-- Bits that are not there. -/
theorem readBits_refused (unitId : UInt8) (bits : List Bool)
    (hacc : Inside (bytesToUInt16 body 0) (bytesToUInt16 body 2) 2000 bits.length = false) :
    ∃ exception, ModbusRtuServer.readBits unitId area body function bits = .error exception := by
  by_cases hshort : body.length < 4
  · exact ⟨_, if_pos hshort⟩
  · exact ⟨_, (if_neg hshort).trans (if_pos (guard_eq 2000 hacc))⟩

/-- Registers that are not there. -/
theorem readRegisters_refused (unitId : UInt8) (registers : List UInt16)
    (hacc : Inside (bytesToUInt16 body 0) (bytesToUInt16 body 2) 125 registers.length = false) :
    ∃ exception,
      ModbusRtuServer.readRegisters unitId area body function registers = .error exception := by
  by_cases hshort : body.length < 4
  · exact ⟨_, if_pos hshort⟩
  · exact ⟨_, (if_neg hshort).trans (if_pos (guard_eq 125 hacc))⟩

/-- Where a handler of the TCP server refuses, the RTU servers have an exception. -/
theorem handle_refused_error (unitId : UInt8) (hacc : handlerAccepts area function body = false) :
    ∃ exception, ModbusRtuServer.handle unitId area body function = .error exception := by
  unfold ModbusRtuServer.handle
  cases function with
  | readCoils => exact readBits_refused unitId area.coils hacc
  | readDiscreteInputs => exact readBits_refused unitId area.discreteInputs hacc
  | readHoldingRegisters => exact readRegisters_refused unitId area.holdingRegisters hacc
  | readInputRegisters => exact readRegisters_refused unitId area.inputRegisters hacc
  | writeSingleCoil =>
    unfold ModbusRtuServer.writeSingleCoil
    dsimp only [handlerAccepts] at hacc ⊢
    split_ifs with hshort haddress hvalue
    · exact ⟨_, rfl⟩
    · exact ⟨_, rfl⟩
    · exact ⟨_, rfl⟩
    · grind
  | writeSingleRegister =>
    simp only [handlerAccepts, decide_eq_false_iff_not, Nat.not_lt] at hacc
    unfold ModbusRtuServer.writeSingleRegister
    dsimp only
    split_ifs with hshort
    · exact ⟨_, rfl⟩
    · exact ⟨_, rfl⟩
  | writeMultipleCoils =>
    have hout := guard_eq 1968 hacc
    unfold ModbusRtuServer.writeMultipleCoils
    dsimp only
    split_ifs with hshort hbad haddress
    · exact ⟨_, rfl⟩
    · exact ⟨_, rfl⟩
    · exact ⟨_, rfl⟩
    · grind
  | writeMultipleRegisters =>
    have hout := guard_eq 123 hacc
    unfold ModbusRtuServer.writeMultipleRegisters
    dsimp only
    split_ifs with hshort hbad haddress
    · exact ⟨_, rfl⟩
    · exact ⟨_, rfl⟩
    · exact ⟨_, rfl⟩
    · grind

end Cases

/-! ## §3. The three answers -/

section Answers

open ModbusRtuServer (buildRtuResponse)
open ModbusRtuSerialServer (pduOf_build data_build)

variable {unitId : UInt8} {area : ModbusDataArea} (fc : UInt8) (body : List UInt8)

theorem tcpPdu_build (header : ModbusTCPHeader) (pdu : List UInt8) :
    tcpPdu (ModbusTcpServer.buildResponse header pdu) = pdu := rfl

/-- What the `switch` of the RTU servers comes to. -/
def switchResult (unitId : UInt8) (area : ModbusDataArea) (fc : UInt8) (data : List UInt8) :
    Except ModbusException RtuHandled :=
  match ModbusFunctionCode.ofByte fc with
  | none => .error .illegalFunction
  | some function => ModbusRtuServer.handle unitId area data function

/-- The PDU of the answer. -/
def resultPdu (fc : UInt8) : Except ModbusException RtuHandled → List UInt8
  | .error exception => [fc ||| 0x80, exception.code]
  | .ok handled => handled.pdu

/-- The data area after the request, -/
def resultArea (area : ModbusDataArea) : Except ModbusException RtuHandled → ModbusDataArea
  | .error _ => area
  | .ok handled => handled.area

/-- and those of all units. -/
def resultAreas (areas : UInt8 → Option ModbusDataArea) (unitId : UInt8) :
    Except ModbusException RtuHandled → UInt8 → Option ModbusDataArea
  | .error _ => areas
  | .ok handled => fun u => if u = unitId then some handled.area else areas u

theorem resultAreas_self {areas : UInt8 → Option ModbusDataArea}
    (harea : areas unitId = some area) (result : Except ModbusException RtuHandled) :
    resultAreas areas unitId result unitId = some (resultArea area result) := by
  cases result with
  | error exception => exact harea
  | ok handled => exact if_pos rfl

/-- The RTU-over-TCP server, when the unit is there. -/
theorem rtuRequest_found (server : ModbusRtuServer) {frame : List UInt8}
    (hlen : ¬ frame.length < 4) (harea : server.unitDataAreas (frame.getD 0 0) = some area) :
    let result := switchResult (frame.getD 0 0) area (frame.getD 1 0)
      ((frame.drop 2).take (frame.length - 4))
    (server.processRtuRequest frame).response =
        buildRtuResponse (frame.getD 0 0) (resultPdu (frame.getD 1 0) result) ∧
      (server.processRtuRequest frame).server.unitDataAreas =
        resultAreas server.unitDataAreas (frame.getD 0 0) result := by
  unfold ModbusRtuServer.processRtuRequest switchResult
  rw [if_neg hlen]
  dsimp only
  rw [harea]
  dsimp only
  cases ModbusFunctionCode.ofByte (frame.getD 1 0) with
  | none => exact ⟨rfl, rfl⟩
  | some function =>
    dsimp only
    cases ModbusRtuServer.handle (frame.getD 0 0) area
        ((frame.drop 2).take (frame.length - 4)) function with
    | error exception => exact ⟨rfl, rfl⟩
    | ok handled => exact ⟨rfl, rfl⟩

/-- The serial server, when the unit is there. -/
theorem serialRequest_found (server : ModbusRtuSerialServer) {frame : List UInt8}
    (hlen : ¬ frame.length < 4) (hunit : frame.getD 0 0 ≠ 0)
    (harea : server.unitDataAreas (frame.getD 0 0) = some area) :
    let result := switchResult (frame.getD 0 0) area (frame.getD 1 0)
      ((frame.drop 2).take (frame.length - 4))
    (server.processRtuRequest frame).response =
        buildRtuResponse (frame.getD 0 0) (resultPdu (frame.getD 1 0) result) ∧
      (server.processRtuRequest frame).server.unitDataAreas =
        resultAreas server.unitDataAreas (frame.getD 0 0) result := by
  unfold ModbusRtuSerialServer.processRtuRequest switchResult
  rw [if_neg hlen]
  dsimp only
  rw [if_neg hunit, harea]
  dsimp only
  cases ModbusFunctionCode.ofByte (frame.getD 1 0) with
  | none => exact ⟨rfl, rfl⟩
  | some function =>
    dsimp only
    cases ModbusRtuServer.handle (frame.getD 0 0) area
        ((frame.drop 2).take (frame.length - 4)) function with
    | error exception => exact ⟨rfl, rfl⟩
    | ok handled => exact ⟨rfl, rfl⟩

theorem length_build (unitId : UInt8) :
    ¬ (buildRtuResponse unitId (fc :: body)).length < 4 := by
  rw [ModbusRtuServer.length_buildRtuResponse, List.length_cons]
  omega

/-- The RTU-over-TCP server on the frame. -/
theorem rtuRequest_build (server : ModbusRtuServer)
    (harea : server.unitDataAreas unitId = some area) :
    let processed := server.processRtuRequest (buildRtuResponse unitId (fc :: body))
    pduOf processed.response = resultPdu fc (switchResult unitId area fc body) ∧
      processed.server.unitDataAreas unitId =
        some (resultArea area (switchResult unitId area fc body)) := by
  obtain ⟨hresponse, hareas⟩ := rtuRequest_found server (length_build fc body unitId) harea
  rw [data_build] at hresponse hareas
  dsimp only
  rw [hresponse, hareas]
  exact ⟨pduOf_build _ _, resultAreas_self harea _⟩

/-- The serial server on the frame. -/
theorem serialRequest_build (server : ModbusRtuSerialServer) (hunit : unitId ≠ 0)
    (harea : server.unitDataAreas unitId = some area) :
    let processed := server.processRtuRequest (buildRtuResponse unitId (fc :: body))
    pduOf processed.response = resultPdu fc (switchResult unitId area fc body) ∧
      processed.server.unitDataAreas unitId =
        some (resultArea area (switchResult unitId area fc body)) := by
  obtain ⟨hresponse, hareas⟩ :=
    serialRequest_found server (length_build fc body unitId) hunit harea
  rw [data_build] at hresponse hareas
  dsimp only
  rw [hresponse, hareas]
  exact ⟨pduOf_build _ _, resultAreas_self harea _⟩

end Answers

/-- What one server answers is what all answer, if the TCP server has that answer. -/
theorem sameAnswers_iff {unitId fc : UInt8} {body : List UInt8} {area : ModbusDataArea}
    (hunit : unitId ≠ 0) {rtu : ModbusRtuServer} {serial : ModbusRtuSerialServer}
    (hrtu : rtu.unitDataAreas unitId = some area)
    (hserial : serial.unitDataAreas unitId = some area) (tcp : Processed) :
    SameAnswers unitId tcp
        (rtu.processRtuRequest (ModbusRtuServer.buildRtuResponse unitId (fc :: body)))
        (serial.processRtuRequest (ModbusRtuServer.buildRtuResponse unitId (fc :: body))) ↔
      tcpPdu tcp.response = resultPdu fc (switchResult unitId area fc body) ∧
        tcp.server.unitDataAreas unitId =
          some (resultArea area (switchResult unitId area fc body)) := by
  obtain ⟨hrtuPdu, hrtuArea⟩ := rtuRequest_build fc body rtu hrtu
  obtain ⟨hserialPdu, hserialArea⟩ := serialRequest_build fc body serial hunit hserial
  constructor
  · intro h
    exact ⟨h.rtuPdu.symm.trans hrtuPdu, h.rtuArea.symm.trans hrtuArea⟩
  · rintro ⟨hpdu, harea⟩
    exact ⟨hrtuPdu.trans hpdu.symm, hserialPdu.trans hpdu.symm, hrtuArea.trans harea.symm,
      hserialArea.trans harea.symm⟩

/-- **The servers agree** on a unit that all of them have, with the same data area, iff the request
is not one that a handler refuses: then the TCP server answers with a frame in a frame. -/
theorem servers_agree_iff (tcp : ModbusTcpServer) (rtu : ModbusRtuServer)
    (serial : ModbusRtuSerialServer) (unitId : UInt8) (area : ModbusDataArea)
    (transactionId length : UInt16) (fc : UInt8) (body : List UInt8) (hunit : unitId ≠ 0)
    (htcp : tcp.unitDataAreas unitId = some area) (hrtu : rtu.unitDataAreas unitId = some area)
    (hserial : serial.unitDataAreas unitId = some area) :
    SameAnswers unitId (tcp.processRequest (requestFrame transactionId length unitId (fc :: body)))
        (rtu.processRtuRequest (ModbusRtuServer.buildRtuResponse unitId (fc :: body)))
        (serial.processRtuRequest (ModbusRtuServer.buildRtuResponse unitId (fc :: body))) ↔
      ¬ HandlerRefuses area fc body := by
  rw [sameAnswers_iff hunit hrtu hserial, ModbusTcpServer.processRequest_requestFrame _ _ _ htcp]
  unfold switchResult
  cases hfunction : ModbusFunctionCode.ofByte fc with
  | none =>
    refine iff_of_true ⟨rfl, htcp⟩ ?_
    rintro ⟨function, hsome, -⟩
    exact absurd (hfunction.symm.trans hsome) (by simp)
  | some function =>
    have hrefuses : HandlerRefuses area fc body ↔
        ModbusTcpServer.argumentsOk function body = true ∧
          ModbusTcpServer.handlerAccepts area function body = false := by
      constructor
      · rintro ⟨function', hsome, hrest⟩
        obtain rfl := Option.some.inj (hfunction.symm.trans hsome)
        exact hrest
      · exact fun hrest => ⟨function, hfunction, hrest⟩
    rw [hrefuses]
    dsimp only
    cases hargs : ModbusTcpServer.argumentsOk function body with
    | false =>
      -- `processRequest` refuses by itself, with one frame
      rw [handle_badArguments unitId hargs]
      exact iff_of_true ⟨rfl, htcp⟩ (by simp)
    | true =>
      set header : ModbusTCPHeader := ⟨transactionId, 0, length, unitId⟩ with hheader
      cases hacc : ModbusTcpServer.handlerAccepts area function body with
      | true =>
        have hsame := handle_accepted_eq header hargs hacc
        obtain ⟨answer, hanswer, -, -⟩ := ModbusTcpServer.handle_accepted header hargs hacc
        rw [show header.unitId = unitId from rfl] at hsame
        rw [hsame]
        refine iff_of_true ⟨?_, if_pos rfl⟩ (by simp)
        simp only [Bool.not_true, Bool.false_eq_true, if_false, hanswer, List.isEmpty_cons]
        exact tcpPdu_build _ _
      | false =>
        -- whichever exceptions they are, the lengths are different
        obtain ⟨exception, hrefused⟩ := ModbusTcpServer.handle_refused header hacc
        obtain ⟨exception', herror⟩ := handle_refused_error unitId hacc
        rw [herror]
        refine iff_of_false ?_ (by simp)
        rintro ⟨hpdu, -⟩
        have hlength := congrArg List.length hpdu
        simp only [Bool.not_true, Bool.false_eq_true, if_false, hrefused,
          ModbusTcpServer.refuse] at hlength
        cases hlength

/-- The RTU servers with the unit of `tenCells`. -/
def rtuOfTen : ModbusRtuServer := ⟨ModbusTcpServer.tenCells.unitDataAreas⟩

def serialOfTen : ModbusRtuSerialServer := ⟨ModbusTcpServer.tenCells.unitDataAreas⟩

/-- The servers agree on three coils from address 5. -/
theorem three_coils_same :
    SameAnswers 1
      (ModbusTcpServer.tenCells.processRequest (requestFrame 1 6 1 [0x01, 0, 5, 0, 3]))
      (rtuOfTen.processRtuRequest (ModbusRtuServer.buildRtuResponse 1 [0x01, 0, 5, 0, 3]))
      (serialOfTen.processRtuRequest (ModbusRtuServer.buildRtuResponse 1 [0x01, 0, 5, 0, 3])) := by
  refine (servers_agree_iff ModbusTcpServer.tenCells rtuOfTen serialOfTen 1 (.ofSize 10) 1 6 0x01
    [0, 5, 0, 3] (by decide) rfl rfl rfl).mpr ?_
  rintro ⟨function, hfunction, -, hacc⟩
  obtain rfl : .readCoils = function := Option.some.inj hfunction
  revert hacc
  decide

/-- Ten coils from there are refused by all of them, and the TCP server says it otherwise. -/
theorem ten_coils_differ :
    ¬ SameAnswers 1
      (ModbusTcpServer.tenCells.processRequest (requestFrame 1 6 1 [0x01, 0, 5, 0, 10]))
      (rtuOfTen.processRtuRequest (ModbusRtuServer.buildRtuResponse 1 [0x01, 0, 5, 0, 10]))
      (serialOfTen.processRtuRequest
        (ModbusRtuServer.buildRtuResponse 1 [0x01, 0, 5, 0, 10])) := by
  intro h
  have hpdu := h.rtuPdu
  revert hpdu
  decide +kernel

end Stdiolink.Modbus
