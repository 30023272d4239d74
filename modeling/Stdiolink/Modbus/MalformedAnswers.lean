/-
  Stdiolink.Modbus.MalformedAnswers — what the three clients accept as the answer to a read.

  The TCP client (`modbus_client.cpp`) does not look at the unit, the RTU-over-TCP client
  (`modbus_rtu_client.cpp`) neither at the unit nor at the function, and none of the three compares
  the byte count with what was asked for.  The serial client is `modbus_rtu_serial_client.cpp`.

  Main results:
    * `parseRead_iff`     — the parsers are right iff the byte count is, where it is satisfied;
    * `clients_trust_iff` — the answers for which the clients are right, one condition for each.
-/
import Stdiolink.Modbus.Transactions
import Stdiolink.Modbus.RtuClient

namespace Stdiolink.Modbus

open Stdiolink.Lib
open ModbusClient (parseBits parseRegisters)
open ModbusRtuServer (buildRtuResponse crcMatches)

/-! ## §1. The serial client -/

namespace ModbusRtuSerialClient

open ModbusRtuClient (verifyCRC)

/-- `parseResponse`. -/
def parseResponse (response : List UInt8) (expectedUnitId expectedFc : UInt8) (bitCount : UInt16) :
    Option ModbusResult := do
  if response.isEmpty then return .failed "Response timeout"
  if response.length < 5 then return .failed "Response too short"
  let valid ← verifyCRC response
  if !valid then return .failed "CRC error"
  let responseUnitId ← response[0]?
  if responseUnitId ≠ expectedUnitId then
    return .failed ("Unit ID mismatch: expected " ++ toString expectedUnitId.toNat ++ ", got " ++
      toString responseUnitId.toNat)
  let fc ← response[1]?
  if fc &&& 0x80 ≠ 0 then
    let code ← response[2]?
    return { exception := code, errorMessage := exceptionMessage code }
  if fc ≠ expectedFc then return .failed "Unexpected function code"
  -- the length has been checked above, so the parsers have no least one
  if fc = 0x01 ∨ fc = 0x02 then parseBits 0 3 2 response bitCount
  else if fc = 0x03 ∨ fc = 0x04 then parseRegisters 0 3 2 response
  else if response.length < 8 then return .failed "Write response too short"
  else return { success := true }

section Operations

variable (unitId : UInt8) (response : List UInt8)

def readCoils (count : UInt16) : Option ModbusResult := parseResponse response unitId 0x01 count

def readDiscreteInputs (count : UInt16) : Option ModbusResult :=
  parseResponse response unitId 0x02 count

def readHoldingRegisters : Option ModbusResult := parseResponse response unitId 0x03 0

def readInputRegisters : Option ModbusResult := parseResponse response unitId 0x04 0

def writeSingleCoil : Option ModbusResult := parseResponse response unitId 0x05 0

def writeSingleRegister : Option ModbusResult := parseResponse response unitId 0x06 0

def writeMultipleCoils : Option ModbusResult := parseResponse response unitId 0x0F 0

def writeMultipleRegisters : Option ModbusResult := parseResponse response unitId 0x10 0

/-- The operation of the client that stands for an operation, with the bytes that `sendRequest`
returns. -/
def execute : Operation → Option ModbusResult
  | .readCoils _ count => readCoils unitId response count
  | .readDiscreteInputs _ count => readDiscreteInputs unitId response count
  | .readHoldingRegisters .. => readHoldingRegisters unitId response
  | .readInputRegisters .. => readInputRegisters unitId response
  | .writeSingleCoil .. => writeSingleCoil unitId response
  | .writeSingleRegister .. => writeSingleRegister unitId response
  | .writeMultipleCoils .. => writeMultipleCoils unitId response
  | .writeMultipleRegisters .. => writeMultipleRegisters unitId response

end Operations

end ModbusRtuSerialClient

/-! ## §2. Answers to be trusted -/

namespace Operation

/-- How many values a read asks for, -/
def valuesRead (op : Operation) : Nat :=
  match op.coilsRead, op.registersRead with
  | some count, _ => count.toNat
  | none, some count => count.toNat
  | none, none => 0

/-- and the byte count of its answer. -/
def bytesRead (op : Operation) : Nat :=
  match op.coilsRead, op.registersRead with
  | some count, _ => (count.toNat + 7) / 8
  | none, some count => 2 * count.toNat
  | none, none => 0

end Operation

/-- **Trusted rightly.**  No byte outside the answer is looked up; and if success is reported, then
the answer has, from `start` on, the unit, the function and the byte count that were asked for, and
so many values are reported. -/
def TrustsRightly (op : Operation) (unitId : UInt8) (start : Nat) (response : List UInt8)
    (result : Option ModbusResult) : Prop :=
  ∃ r, result = some r ∧ (r.success = true →
    (response.getD start 0 = unitId ∧ response.getD (start + 1) 0 = op.functionCode.code) ∧
      (response.getD (start + 2) 0).toNat = op.bytesRead ∧ r.values.length = op.valuesRead)

/-- An answer for which the TCP client is right: an exception has its code; and where the function
is the one asked for and the byte count is satisfied, the unit and the byte count are right. -/
def TcpAnswerOk (op : Operation) (unitId : UInt8) (response : List UInt8) : Prop :=
  (8 ≤ response.length → response.getD 7 0 &&& 0x80 ≠ 0 → 9 ≤ response.length) ∧
    (9 ≤ response.length → response.getD 7 0 = op.functionCode.code →
      9 + (response.getD 8 0).toNat ≤ response.length →
        response.getD 6 0 = unitId ∧ (response.getD 8 0).toNat = op.bytesRead)

/-- An answer for which the RTU-over-TCP client is right: where the CRC is valid, the answer is no
exception and the byte count is satisfied, the unit, the function and the byte count are right. -/
def RtuAnswerOk (op : Operation) (unitId : UInt8) (response : List UInt8) : Prop :=
  6 ≤ response.length → crcMatches response = true → response.getD 1 0 &&& 0x80 = 0 →
    5 + (response.getD 2 0).toNat ≤ response.length →
      (response.getD 0 0 = unitId ∧ response.getD 1 0 = op.functionCode.code) ∧
        (response.getD 2 0).toNat = op.bytesRead

/-- An answer for which the serial client is right: where the CRC is valid, the unit and the
function are right and the byte count is satisfied, the byte count is right. -/
def SerialAnswerOk (op : Operation) (unitId : UInt8) (response : List UInt8) : Prop :=
  5 ≤ response.length → crcMatches response = true → response.getD 0 0 = unitId →
    response.getD 1 0 = op.functionCode.code →
      5 + (response.getD 2 0).toNat ≤ response.length →
        (response.getD 2 0).toNat = op.bytesRead

/-! ## §3. The parsers -/

section Parsers

variable {op : Operation} {least offset tail : Nat} {response : List UInt8} {byteCount : UInt8}

/-- The parser of a read, with the constants of a client. -/
def parseRead (least offset tail : Nat) (op : Operation) (response : List UInt8) :
    Option ModbusResult :=
  match op.coilsRead with
  | some count => parseBits least offset tail response count
  | none => parseRegisters least offset tail response

/-- A response that is too short is a failure. -/
theorem parseRead_short (op : Operation) (offset tail : Nat) (h : response.length < least) :
    ∃ r, parseRead least offset tail op response = some r ∧ r.success = false := by
  unfold parseRead
  cases op.coilsRead with
  | some count => exact ⟨_, if_pos h, rfl⟩
  | none => exact ⟨_, if_pos h, rfl⟩

/-- So is one that is shorter than its byte count says. -/
theorem parseRead_incomplete (op : Operation) (hleast : least ≤ response.length)
    (hbyte : response[offset - 1]? = some byteCount)
    (hshort : response.length < offset + byteCount.toNat + tail) :
    ∃ r, parseRead least offset tail op response = some r ∧ r.success = false := by
  unfold parseRead
  cases op.coilsRead with
  | some count =>
    dsimp only
    unfold parseBits
    simp only [Nat.not_lt.mpr hleast, if_false, hbyte, bind, Option.bind_some, hshort, if_true]
    exact ⟨_, rfl, rfl⟩
  | none =>
    dsimp only
    unfold parseRegisters
    simp only [Nat.not_lt.mpr hleast, if_false, hbyte, bind, Option.bind_some, hshort, if_true]
    exact ⟨_, rfl, rfl⟩

/-- With the right byte count there are as many values as were asked for. -/
theorem parseRead_exact (hread : op.isWrite = false) (hleast : least ≤ response.length)
    (hbyte : response[offset - 1]? = some byteCount)
    (hlong : offset + byteCount.toNat + tail ≤ response.length)
    (hexact : byteCount.toNat = op.bytesRead) :
    ∃ r, parseRead least offset tail op response = some r ∧ r.success = true ∧
      r.values.length = op.valuesRead := by
  unfold parseRead
  unfold Operation.isWrite at hread
  unfold Operation.bytesRead at hexact
  unfold Operation.valuesRead
  cases hcoils : op.coilsRead with
  | some count =>
    rw [hcoils] at hexact
    dsimp only at hexact ⊢
    refine ⟨_, ModbusClient.parseBits_success hleast hbyte hlong (by omega), rfl, ?_⟩
    simp [ModbusResult.values]
  | none =>
    rw [hcoils] at hread hexact
    cases hregisters : op.registersRead with
    | none =>
      rw [hregisters] at hread
      cases hread
    | some count =>
      rw [hregisters] at hexact
      dsimp only at hexact ⊢
      refine ⟨_, ModbusClient.parseRegisters_success hleast hbyte hlong, rfl, ?_⟩
      simp [ModbusResult.values]
      omega

/-- Otherwise success is reported, or a byte outside is looked up. -/
theorem parseRead_long (op : Operation) (hleast : least ≤ response.length)
    (hbyte : response[offset - 1]? = some byteCount)
    (hlong : offset + byteCount.toNat + tail ≤ response.length) :
    parseRead least offset tail op response = none ∨
      ∃ r, parseRead least offset tail op response = some r ∧ r.success = true := by
  unfold parseRead
  cases op.coilsRead with
  | some count => exact ModbusClient.parseBits_long hleast hbyte hlong
  | none => exact Or.inr ⟨_, ModbusClient.parseRegisters_success hleast hbyte hlong, rfl⟩

/-- **The parsers are right** iff the byte count is, where it is satisfied; `P` is what else should
hold of the answer. -/
theorem parseRead_iff (P : Prop) (hread : op.isWrite = false) (hleast : least ≤ response.length)
    (hbyte : response[offset - 1]? = some byteCount) :
    (∃ r, parseRead least offset tail op response = some r ∧ (r.success = true →
        P ∧ byteCount.toNat = op.bytesRead ∧ r.values.length = op.valuesRead)) ↔
      (offset + byteCount.toNat + tail ≤ response.length → P ∧ byteCount.toNat = op.bytesRead) := by
  by_cases hlong : offset + byteCount.toNat + tail ≤ response.length
  · -- enough bytes: success, or an index outside
    constructor
    · rintro ⟨r, hresult, htrust⟩ _
      obtain hnone | ⟨r', hresult', hsuccess⟩ :=
        parseRead_long op hleast hbyte hlong
      · rw [hnone] at hresult
        cases hresult
      · obtain rfl := Option.some.inj (hresult'.symm.trans hresult)
        obtain ⟨hP, hexact, -⟩ := htrust hsuccess
        exact ⟨hP, hexact⟩
    · intro h
      obtain ⟨hP, hexact⟩ := h hlong
      obtain ⟨r, hresult, -, hvalues⟩ := parseRead_exact hread hleast hbyte hlong hexact
      exact ⟨r, hresult, fun _ => ⟨hP, hexact, hvalues⟩⟩
  · refine iff_of_true ?_ fun h => absurd h hlong
    obtain ⟨r, hresult, hfailure⟩ :=
      parseRead_incomplete op hleast hbyte (Nat.lt_of_not_le hlong)
    refine ⟨r, hresult, fun hsuccess => ?_⟩
    rw [hfailure] at hsuccess
    cases hsuccess

end Parsers

/-! ## §4. The clients -/

section Clients

variable {op : Operation} {unitId : UInt8} {response : List UInt8}

/-- A failure is always right. -/
theorem trusts_failure {start : Nat} {result : Option ModbusResult}
    (h : ∃ r, result = some r ∧ r.success = false) :
    TrustsRightly op unitId start response result := by
  obtain ⟨r, hresult, hfailure⟩ := h
  refine ⟨r, hresult, fun hsuccess => ?_⟩
  rw [hfailure] at hsuccess
  cases hsuccess

theorem getElem?_eq_getD {i : Nat} (h : i < response.length) :
    response[i]? = some (response.getD i 0) := by
  rw [List.getD_eq_getElem _ _ h, List.getElem?_eq_getElem h]

theorem parse_eq_parseRead (hread : op.isWrite = false) : op.parse = parseRead 9 9 0 op := by
  cases op <;> first | rfl | cases hread

theorem parserOf_eq_parseRead (hread : op.isWrite = false) :
    ModbusRtuClient.parserOf op = parseRead 6 3 2 op := by
  cases op <;> first | rfl | cases hread

/-- The TCP client. -/
theorem tcp_trusts_iff (client : ModbusClient) (hread : op.isWrite = false)
    {rounds : List (Option (List UInt8))}
    (hresponse : ModbusClient.readResponse client.transactionId rounds {} =
      some (.ok response)) :
    TrustsRightly op client.unitId 6 response (client.execute { rounds := rounds } op) ↔
      TcpAnswerOk op client.unitId response := by
  rw [ModbusClient.execute_read client op hresponse, parse_eq_parseRead hread]
  unfold ModbusClient.interpret TcpAnswerOk
  by_cases height : response.length < 8
  · rw [if_pos height]
    exact iff_of_true (trusts_failure ⟨_, rfl, rfl⟩) ⟨fun h => by omega, fun h => by omega⟩
  have hseven : response[7]? = some (response.getD 7 0) := getElem?_eq_getD (by omega)
  rw [if_neg height, hseven]
  simp only [bind, Option.bind_some, pure]
  by_cases hbit : response.getD 7 0 &&& 0x80 ≠ 0
  · -- an exception, which is no function that was asked for
    have hother : response.getD 7 0 ≠ op.functionCode.code := by
      intro hfc
      rw [hfc] at hbit
      exact hbit op.functionCode.code_highBit
    rw [if_pos hbit]
    by_cases hnine : 9 ≤ response.length
    · rw [getElem?_eq_getD (by omega : 8 < response.length)]
      exact iff_of_true (trusts_failure ⟨_, rfl, rfl⟩)
        ⟨fun _ _ => hnine, fun _ hfc => absurd hfc hother⟩
    · rw [List.getElem?_eq_none (by omega)]
      refine iff_of_false ?_ fun h => hnine (h.1 (by omega) hbit)
      rintro ⟨r, hnone, -⟩
      cases hnone
  · -- no exception: the parser runs if the function is the one that was asked for
    rw [if_neg hbit]
    by_cases hfc : response.getD 7 0 ≠ op.functionCode.code
    · rw [if_pos hfc]
      exact iff_of_true (trusts_failure ⟨_, rfl, rfl⟩)
        ⟨fun _ h => absurd h hbit, fun _ h => absurd h hfc⟩
    · rw [if_neg hfc]
      rw [not_not] at hfc
      simp only [Option.bind_some, Bool.not_true, Bool.false_eq_true, if_false]
      by_cases hnine : 9 ≤ response.length
      · have hbyte : response[9 - 1]? = some (response.getD 8 0) := getElem?_eq_getD (by omega)
        unfold TrustsRightly
        rw [parseRead_iff _ hread hnine hbyte]
        constructor
        · intro h
          refine ⟨fun _ h => absurd h hbit, fun _ _ hlong => ?_⟩
          obtain ⟨⟨hunit, -⟩, hexact⟩ := h hlong
          exact ⟨hunit, hexact⟩
        · intro h hlong
          obtain ⟨hunit, hexact⟩ := h.2 hnine hfc hlong
          exact ⟨⟨hunit, hfc⟩, hexact⟩
      · obtain ⟨r, hr, hfailure⟩ := parseRead_short op 9 0 (Nat.lt_of_not_le hnine)
        exact iff_of_true (trusts_failure ⟨r, hr, hfailure⟩)
          ⟨fun _ h => absurd h hbit, fun h => absurd h hnine⟩

/-- The RTU-over-TCP client. -/
theorem rtu_trusts_iff (hread : op.isWrite = false) {rounds : List (Option (List UInt8))}
    (hresponse : ModbusRtuClient.readResponse (ModbusRtuClient.minLenOf op) rounds [] =
      some response) :
    TrustsRightly op unitId 0 response (ModbusRtuClient.execute { rounds := rounds } op) ↔
      RtuAnswerOk op unitId response := by
  have hexecute : ModbusRtuClient.execute { rounds := rounds } op =
      ModbusRtuClient.interpret (parseRead 6 3 2 op) response := by
    rw [ModbusRtuClient.execute_eq, ModbusRtuClient.transact, parserOf_eq_parseRead hread]
    show (ModbusRtuClient.readResponse _ rounds []).bind _ = _
    rw [hresponse]
    rfl
  rw [hexecute]
  unfold ModbusRtuClient.interpret RtuAnswerOk
  by_cases hfive : response.length < 5
  · rw [if_pos hfive]
    exact iff_of_true (trusts_failure ⟨_, rfl, rfl⟩) fun h => by omega
  have hfour : 4 ≤ response.length := by omega
  rw [if_neg hfive, ModbusRtuClient.verifyCRC_eq]
  simp only [hfour, decide_true, Bool.true_and, bind, Option.bind_some, pure]
  by_cases hcrc : crcMatches response = true
  · have hone : response[1]? = some (response.getD 1 0) := getElem?_eq_getD (by omega)
    have htwo : response[3 - 1]? = some (response.getD 2 0) := getElem?_eq_getD (by omega)
    simp only [hcrc, Bool.not_true, Bool.false_eq_true, if_false, hone, Option.bind_some]
    by_cases hbit : response.getD 1 0 &&& 0x80 ≠ 0
    · rw [if_pos hbit, show response[2]? = some (response.getD 2 0) from htwo]
      exact iff_of_true (trusts_failure ⟨_, rfl, rfl⟩) fun _ _ h => absurd h hbit
    · rw [if_neg hbit]
      rw [not_not] at hbit
      by_cases hsix : 6 ≤ response.length
      · -- neither the unit nor the function has been looked at
        unfold TrustsRightly
        rw [parseRead_iff _ hread hsix htwo]
        constructor
        · exact fun h _ _ _ hlong => h (by omega)
        · exact fun h hlong => h hsix trivial hbit (by omega)
      · obtain ⟨r, hr, hfailure⟩ := parseRead_short op 3 2 (Nat.lt_of_not_le hsix)
        exact iff_of_true (trusts_failure ⟨r, hr, hfailure⟩) fun h => absurd h hsix
  · rw [Bool.not_eq_true] at hcrc
    simp only [hcrc, Bool.not_false, if_true]
    exact iff_of_true (trusts_failure ⟨_, rfl, rfl⟩) fun _ h => absurd h (by simp)

/-- The call of `parseResponse` for a read, and what its last part is. -/
theorem serial_execute_parse (hread : op.isWrite = false) (unitId : UInt8)
    (response : List UInt8) :
    ∃ count, ModbusRtuSerialClient.execute unitId response op =
        ModbusRtuSerialClient.parseResponse response unitId op.functionCode.code count ∧
      parseRead 0 3 2 op response =
        if op.functionCode.code = 0x01 ∨ op.functionCode.code = 0x02 then
          parseBits 0 3 2 response count
        else if op.functionCode.code = 0x03 ∨ op.functionCode.code = 0x04 then
          parseRegisters 0 3 2 response
        else if response.length < 8 then some (.failed "Write response too short")
        else some { success := true } := by
  cases op with
  | readCoils address count => exact ⟨count, rfl, rfl⟩
  | readDiscreteInputs address count => exact ⟨count, rfl, rfl⟩
  | readHoldingRegisters address count => exact ⟨0, rfl, rfl⟩
  | readInputRegisters address count => exact ⟨0, rfl, rfl⟩
  | writeSingleCoil address value => cases hread
  | writeSingleRegister address value => cases hread
  | writeMultipleCoils address values => cases hread
  | writeMultipleRegisters address values => cases hread

/-- The serial client, with the parser of a read. -/
theorem serial_execute_eq (hread : op.isWrite = false) (unitId : UInt8)
    (hresponse : 5 ≤ response.length) :
    ModbusRtuSerialClient.execute unitId response op =
      if crcMatches response = false then some (.failed "CRC error")
      else if response.getD 0 0 ≠ unitId then
        some (.failed ("Unit ID mismatch: expected " ++ toString unitId.toNat ++ ", got " ++
          toString (response.getD 0 0).toNat))
      else if response.getD 1 0 &&& 0x80 ≠ 0 then
        some { exception := response.getD 2 0,
               errorMessage := exceptionMessage (response.getD 2 0) }
      else if response.getD 1 0 ≠ op.functionCode.code then
        some (.failed "Unexpected function code")
      else parseRead 0 3 2 op response := by
  have hempty : ¬ response.isEmpty = true := by
    cases response with
    | nil => cases hresponse
    | cons _ _ => exact Bool.false_ne_true
  have hshort : ¬ response.length < 5 := by omega
  have hfour : 4 ≤ response.length := by omega
  have hzero : response[0]? = some (response.getD 0 0) := getElem?_eq_getD (by omega)
  have hone : response[1]? = some (response.getD 1 0) := getElem?_eq_getD (by omega)
  have htwo : response[2]? = some (response.getD 2 0) := getElem?_eq_getD (by omega)
  obtain ⟨count, hexecute, hparsed⟩ := serial_execute_parse hread unitId response
  rw [hexecute, hparsed]
  unfold ModbusRtuSerialClient.parseResponse
  rw [if_neg hempty, if_neg hshort, ModbusRtuClient.verifyCRC_eq, hzero, hone, htwo]
  simp only [hfour, decide_true, Bool.true_and, bind, Option.bind_some, pure]
  cases hcrc : crcMatches response with
  | false => rfl
  | true =>
    simp only [Bool.not_true, Bool.false_eq_true, Bool.true_eq_false, if_false]
    by_cases hfc : response.getD 1 0 ≠ op.functionCode.code
    · rw [if_pos hfc, if_pos hfc]
    · rw [not_not] at hfc
      rw [hfc]

/-- A response that is too short for the serial client. -/
theorem serial_execute_short (hread : op.isWrite = false) (unitId : UInt8)
    (hshort : response.length < 5) :
    ∃ r, ModbusRtuSerialClient.execute unitId response op = some r ∧ r.success = false := by
  obtain ⟨count, hexecute, -⟩ := serial_execute_parse hread unitId response
  rw [hexecute]
  unfold ModbusRtuSerialClient.parseResponse
  by_cases hempty : response.isEmpty = true
  · rw [if_pos hempty]
    exact ⟨_, rfl, rfl⟩
  · rw [if_neg hempty, if_pos hshort]
    exact ⟨_, rfl, rfl⟩

/-- The serial client. -/
theorem serial_trusts_iff (hread : op.isWrite = false) (unitId : UInt8) (response : List UInt8) :
    TrustsRightly op unitId 0 response (ModbusRtuSerialClient.execute unitId response op) ↔
      SerialAnswerOk op unitId response := by
  unfold SerialAnswerOk
  by_cases hfive : 5 ≤ response.length
  · have htwo : response[3 - 1]? = some (response.getD 2 0) := getElem?_eq_getD (by omega)
    rw [serial_execute_eq hread unitId hfive]
    by_cases hcrc : crcMatches response = false
    · rw [if_pos hcrc]
      refine iff_of_true (trusts_failure ⟨_, rfl, rfl⟩) fun _ h => ?_
      rw [hcrc] at h
      cases h
    rw [if_neg hcrc]
    rw [Bool.not_eq_false] at hcrc
    by_cases hunit : response.getD 0 0 ≠ unitId
    · rw [if_pos hunit]
      exact iff_of_true (trusts_failure ⟨_, rfl, rfl⟩) fun _ _ h => absurd h hunit
    rw [if_neg hunit]
    rw [not_not] at hunit
    by_cases hbit : response.getD 1 0 &&& 0x80 ≠ 0
    · rw [if_pos hbit]
      refine iff_of_true (trusts_failure ⟨_, rfl, rfl⟩) fun _ _ _ hfc => ?_
      rw [hfc] at hbit
      exact absurd op.functionCode.code_highBit hbit
    rw [if_neg hbit]
    by_cases hfc : response.getD 1 0 ≠ op.functionCode.code
    · rw [if_pos hfc]
      exact iff_of_true (trusts_failure ⟨_, rfl, rfl⟩) fun _ _ _ h => absurd h hfc
    rw [if_neg hfc]
    rw [not_not] at hfc
    unfold TrustsRightly
    rw [parseRead_iff _ hread (Nat.zero_le _) htwo]
    constructor
    · exact fun h _ _ _ _ hlong => (h (by omega)).2
    · exact fun h hlong => ⟨⟨hunit, hfc⟩, h hfive hcrc hunit hfc (by omega)⟩
  · exact iff_of_true
      (trusts_failure (serial_execute_short hread unitId (Nat.lt_of_not_le hfive)))
      fun h => absurd h hfive

/-! ## §5. All clients -/

/-- What the TCP client reads is a frame or an error, whatever arrives. -/
theorem tcp_readResponse_isSome (transactionId : UInt16) (rounds : List (Option (List UInt8))) :
    ∀ reading, (ModbusClient.readResponse transactionId rounds reading).isSome := by
  induction rounds with
  | nil => exact fun _ => rfl
  | cons arrived rounds ih =>
    intro reading
    rw [ModbusClient.readResponse]
    by_cases hdone : reading.expectedLength.any (· ≤ reading.response.length)
    · rw [ModbusClient.round_done transactionId hdone]
      rfl
    · obtain ⟨message, hround⟩ | ⟨next, hround, -⟩ :=
        ModbusClient.round_cases transactionId hdone arrived
      · rw [hround]
        rfl
      · rw [hround]
        exact ih next

/-- **The clients are right** about the answers that meet their conditions, and about no others.
For each, this is all that can be read: nothing is looked up outside what has arrived. -/
theorem clients_trust_iff (op : Operation) (hread : op.isWrite = false) :
    (∀ (client : ModbusClient) rounds, ∃ outcome,
      ModbusClient.readResponse client.transactionId rounds {} = some outcome ∧
        match outcome with
        | .error message =>
          client.execute { rounds := rounds } op = some (.failed message)
        | .ok response =>
          (TrustsRightly op client.unitId 6 response (client.execute { rounds := rounds } op) ↔
            TcpAnswerOk op client.unitId response)) ∧
      (∀ unitId rounds, ∃ response,
        ModbusRtuClient.readResponse (ModbusRtuClient.minLenOf op) rounds [] = some response ∧
          (TrustsRightly op unitId 0 response
              (ModbusRtuClient.execute { rounds := rounds } op) ↔
            RtuAnswerOk op unitId response)) ∧
      ∀ unitId response,
        TrustsRightly op unitId 0 response (ModbusRtuSerialClient.execute unitId response op) ↔
          SerialAnswerOk op unitId response := by
  refine ⟨?_, ?_, serial_trusts_iff hread⟩
  · intro client rounds
    obtain ⟨outcome, houtcome⟩ :=
      Option.isSome_iff_exists.mp (tcp_readResponse_isSome client.transactionId rounds {})
    refine ⟨outcome, houtcome, ?_⟩
    cases outcome with
    | error message => exact ModbusClient.execute_error client op houtcome
    | ok response => exact tcp_trusts_iff client hread houtcome
  · intro unitId rounds
    obtain ⟨before, after, -, hresponse, -, -⟩ :=
      ModbusRtuClient.readResponse_spec (ModbusRtuClient.minLenOf op) rounds []
    exact ⟨_, hresponse, rtu_trusts_iff hread hresponse⟩

/-- One register of unit 1, as the serial client has it. -/
theorem one_register_trusted :
    TrustsRightly (.readHoldingRegisters 0 1) 1 0 (buildRtuResponse 1 [3, 2, 0, 7])
      (ModbusRtuSerialClient.execute 1 (buildRtuResponse 1 [3, 2, 0, 7])
        (.readHoldingRegisters 0 1)) := by
  refine ((clients_trust_iff (.readHoldingRegisters 0 1) rfl).2.2 1 _).mpr ?_
  unfold SerialAnswerOk
  decide +kernel

/-- Ten coils are read of one byte: the TCP client looks for the rest outside the answer, and the
serial client takes it from the CRC.  The RTU-over-TCP client takes a register of unit 2 for a coil
of unit 1. -/
theorem malformed_answers_trusted :
    ModbusClient.execute { transactionId := 0, unitId := 1 }
        { rounds := [some [0, 0, 0, 0, 0, 4, 1, 1, 1, 0xFF], none] } (.readCoils 0 10) = none ∧
      (∃ r, ModbusRtuClient.execute { rounds := [some (buildRtuResponse 2 [4, 1, 1])] }
          (.readCoils 0 1) = some r ∧ r.success = true) ∧
      ∃ r, ModbusRtuSerialClient.execute 1 (buildRtuResponse 1 [1, 1, 0xFF]) (.readCoils 0 10) =
          some r ∧ r.success = true ∧ r.values.length = 10 := by
  refine ⟨by decide +kernel, ⟨{ success := true, coils := [true] }, by decide +kernel, rfl⟩, ?_⟩
  refine ⟨{ success := true, coils := ?_ }, ?_, rfl, ?_⟩
  · exact List.replicate 8 true ++ [true, false]
  · decide +kernel
  · rfl

end Clients

end Stdiolink.Modbus
