/-
  Stdiolink.Modbus.TcpClient — the TCP client, `modbus_client.cpp`.

  A request is built, sent, and the answer is read in the rounds of a loop that ends with the
  timeout.  The first seven bytes say how long the answer is; what is decoded are so many bytes.
  Bytes are looked up with a check: where the source would look outside an array, there is no
  result.

  Main results:
    * `round_cases`           — a round reads what has arrived, and goes on or reports an error;
    * `readResponse_complete` — an answer that is there in time is what is read, in any pieces.
-/
import Stdiolink.Modbus.MemoryModel
import Stdiolink.Lib.Checked

namespace Stdiolink.Modbus

open Stdiolink.Lib

/-! ## §1. Results -/

/-- Two hexadecimal digits. -/
def hexByte (byte : UInt8) : String :=
  String.ofList [Nat.digitChar (byte.toNat / 16), Nat.digitChar (byte.toNat % 16)]

/-- `exceptionMessage`, for the byte of an exception code. -/
def exceptionMessage (code : UInt8) : String :=
  match code with
  | 0x00 => "No error"
  | 0x01 => "Illegal function"
  | 0x02 => "Illegal data address"
  | 0x03 => "Illegal data value"
  | 0x04 => "Slave device failure"
  | 0x05 => "Acknowledge"
  | 0x06 => "Slave device busy"
  | 0x08 => "Memory parity error"
  | 0x0A => "Gateway path unavailable"
  | 0x0B => "Gateway target device failed to respond"
  | _ => "Unknown exception: 0x" ++ hexByte code

/-- `ModbusResult`; the exception code 0 is `None`. -/
structure ModbusResult where
  success : Bool := false
  exception : UInt8 := 0
  errorMessage : String := ""
  coils : List Bool := []
  registers : List UInt16 := []
  deriving Repr, DecidableEq

/-- A failure with this message. -/
def ModbusResult.failed (message : String) : ModbusResult := { errorMessage := message }

/-- The values of a result. -/
def ModbusResult.values (result : ModbusResult) : List CellValue :=
  result.coils.map .coil ++ result.registers.map .register

/-- `ModbusClient`: what a transaction reads and changes. -/
structure ModbusClient where
  transactionId : UInt16 := 0
  unitId : UInt8 := 1

namespace ModbusClient

/-! ## §2. Reading an answer -/

/-- `readUInt16BE`. -/
def readUInt16BE (data : List UInt8) (offset : Nat) : Option UInt16 := do
  let high ← data[offset]?
  let low ← data[offset + 1]?
  return joinBytes high low

/-- The checks of the header: an error, or the length of the answer. -/
def checkHeader (expectedTransactionId : UInt16) (response : List UInt8) :
    Option (Except String Nat) := do
  let transactionId ← readUInt16BE response 0
  if transactionId ≠ expectedTransactionId then return .error "Unexpected transaction id"
  let protocolId ← readUInt16BE response 2
  if protocolId ≠ 0 then return .error "Unexpected protocol id"
  let length ← readUInt16BE response 4
  if length < 2 then return .error "Invalid MBAP length"
  return .ok (6 + length.toNat)

/-- The variables of the loop of `readResponse`. -/
structure Reading where
  response : List UInt8 := []
  expectedLength : Option Nat := none

/-- One round of the loop: it returns, or goes on. -/
inductive Round where
  | returns (result : Option (Except String (List UInt8)))
  | goesOn (reading : Reading)

/-- A round; `arrived` is what `readAll` has, if `waitForReadyRead` did not wait in vain. -/
def round (expectedTransactionId : UInt16) (reading : Reading) (arrived : Option (List UInt8)) :
    Round :=
  -- the test is at the top of the loop, so a complete answer needs one more round
  if reading.expectedLength.any (· ≤ reading.response.length) then
    .returns (some (.ok (reading.response.take (reading.expectedLength.getD 0))))
  else
    match arrived with
    | none => .goesOn reading
    | some chunk =>
      let response := reading.response ++ chunk
      -- the header is checked once, as soon as it is there
      if reading.expectedLength.isNone && response.length ≥ 7 then
        match checkHeader expectedTransactionId response with
        | none => .returns none
        | some (.error message) => .returns (some (.error message))
        | some (.ok expectedLength) => .goesOn ⟨response, some expectedLength⟩
      else .goesOn { reading with response := response }

/-- The message when the time is over. -/
def timeoutMessage (reading : Reading) : String :=
  if reading.expectedLength.any (reading.response.length < ·) then "Response truncated"
  else if reading.response.isEmpty then "Read timeout"
  else "Response too short"

/-- `readResponse`, with the rounds for which there is time. -/
def readResponse (expectedTransactionId : UInt16) :
    List (Option (List UInt8)) → Reading → Option (Except String (List UInt8))
  | [], reading => some (.error (timeoutMessage reading))
  | arrived :: rounds, reading =>
    match round expectedTransactionId reading arrived with
    | .returns result => result
    | .goesOn reading => readResponse expectedTransactionId rounds reading

/-! ## §3. Transactions -/

/-- What the socket does during a transaction. -/
structure Wire where
  connected : Bool := true
  written : Bool := true
  rounds : List (Option (List UInt8))

/-- `buildRequest`: the request, and the client with the next transaction id. -/
def buildRequest (client : ModbusClient) (fc : ModbusFunctionCode) (pdu : List UInt8) :
    List UInt8 × ModbusClient :=
  (uint16ToBytes client.transactionId ++ uint16ToBytes 0 ++
      uint16ToBytes (UInt16.ofNat (pdu.length + 2)) ++ client.unitId :: fc.code :: pdu,
    { client with transactionId := client.transactionId + 1 })

/-- What `sendRequest` makes of the answer: the result, and `responseOut`. -/
def interpret (expectedFc : ModbusFunctionCode) (response : List UInt8) :
    Option (ModbusResult × List UInt8) := do
  if response.length < 8 then return (.failed "Response too short", [])
  let fc ← response[7]?
  if fc &&& 0x80 ≠ 0 then
    -- eight bytes are enough to get here, the code is the ninth
    let code ← response[8]?
    return ({ exception := code, errorMessage := exceptionMessage code }, [])
  if fc ≠ expectedFc.code then return (.failed "Unexpected function code", [])
  return ({ success := true }, response)

/-- `sendRequest`. -/
def sendRequest (wire : Wire) (request : List UInt8) (expectedFc : ModbusFunctionCode) :
    Option (ModbusResult × List UInt8) := do
  if !wire.connected then return (.failed "Not connected", [])
  if !wire.written then return (.failed "Write timeout", [])
  let expectedTransactionId ← readUInt16BE request 0
  match ← readResponse expectedTransactionId wire.rounds {} with
  | .error message => return (.failed message, [])
  | .ok response => interpret expectedFc response

/-- The common body of the functions that parse bits: the data begin at `offset`, after their byte
count, and `tail` bytes follow them. -/
def parseBits (least offset tail : Nat) (response : List UInt8) (count : UInt16) :
    Option ModbusResult := do
  if response.length < least then return .failed "Response too short for bit data"
  let byteCount ← response[offset - 1]?
  if response.length < offset + byteCount.toNat + tail then
    return .failed "Incomplete bit data"
  -- the guard was for the byte count of the answer, the loop runs to the count of the request
  let coils ← (List.range count.toNat).mapM fun i => do
    let byte ← response[offset + i / 8]?
    return byte.toNat.testBit (i % 8)
  return { success := true, coils := coils }

/-- The common body of the functions that parse registers. -/
def parseRegisters (least offset tail : Nat) (response : List UInt8) : Option ModbusResult := do
  if response.length < least then return .failed "Response too short for register data"
  let byteCount ← response[offset - 1]?
  if response.length < offset + byteCount.toNat + tail then
    return .failed "Incomplete register data"
  let regCount := byteCount.toNat / 2
  let registers ← (List.range regCount).mapM fun i => readUInt16BE response (offset + i * 2)
  return { success := true, registers := registers }

/-- `parseReadBitsResponse`. -/
def parseReadBitsResponse : List UInt8 → UInt16 → Option ModbusResult := parseBits 9 9 0

/-- `parseReadRegistersResponse`. -/
def parseReadRegistersResponse : List UInt8 → Option ModbusResult := parseRegisters 9 9 0

/-- `parseWriteResponse`. -/
def parseWriteResponse (response : List UInt8) : Option ModbusResult :=
  if response.length ≥ 12 then some { success := true }
  else some (.failed "Write response too short")

/-- The common body of the operations. -/
def transact (client : ModbusClient) (wire : Wire) (fc : ModbusFunctionCode) (pdu : List UInt8)
    (parse : List UInt8 → Option ModbusResult) : Option ModbusResult := do
  let (result, response) ← sendRequest wire (client.buildRequest fc pdu).1 fc
  if !result.success then return result
  parse response

/-- Two words of a PDU. -/
def twoWords (first second : UInt16) : List UInt8 := uint16ToBytes first ++ uint16ToBytes second

/-- `coilData`. -/
def coilData (values : List Bool) : List UInt8 :=
  (List.range ((values.length + 7) / 8)).map fun k =>
    UInt8.ofNat (packBits (fun bit => values.getD (k * 8 + bit) false) 8)

/-- The PDU of `writeMultipleCoils`. -/
def coilsPdu (address : UInt16) (values : List Bool) : List UInt8 :=
  twoWords address (UInt16.ofNat values.length) ++
    UInt8.ofNat ((values.length + 7) / 8) :: coilData values

/-- The PDU of `writeMultipleRegisters`. -/
def registersPdu (address : UInt16) (values : List UInt16) : List UInt8 :=
  twoWords address (UInt16.ofNat values.length) ++
    UInt8.ofNat (values.length * 2) :: values.flatMap uint16ToBytes

section Operations

variable (client : ModbusClient) (wire : Wire)

def readCoils (address count : UInt16) : Option ModbusResult :=
  client.transact wire .readCoils (twoWords address count) (parseReadBitsResponse · count)

def readDiscreteInputs (address count : UInt16) : Option ModbusResult :=
  client.transact wire .readDiscreteInputs (twoWords address count)
    (parseReadBitsResponse · count)

def readHoldingRegisters (address count : UInt16) : Option ModbusResult :=
  client.transact wire .readHoldingRegisters (twoWords address count) parseReadRegistersResponse

def readInputRegisters (address count : UInt16) : Option ModbusResult :=
  client.transact wire .readInputRegisters (twoWords address count) parseReadRegistersResponse

def writeSingleCoil (address : UInt16) (value : Bool) : Option ModbusResult :=
  client.transact wire .writeSingleCoil (twoWords address (if value then 0xFF00 else 0x0000))
    parseWriteResponse

def writeSingleRegister (address value : UInt16) : Option ModbusResult :=
  client.transact wire .writeSingleRegister (twoWords address value) parseWriteResponse

def writeMultipleCoils (address : UInt16) (values : List Bool) : Option ModbusResult :=
  client.transact wire .writeMultipleCoils (coilsPdu address values) parseWriteResponse

def writeMultipleRegisters (address : UInt16) (values : List UInt16) : Option ModbusResult :=
  client.transact wire .writeMultipleRegisters (registersPdu address values) parseWriteResponse

/-- The operation of the client that stands for an operation. -/
def execute : Operation → Option ModbusResult
  | .readCoils address count => client.readCoils wire address count
  | .readDiscreteInputs address count => client.readDiscreteInputs wire address count
  | .readHoldingRegisters address count => client.readHoldingRegisters wire address count
  | .readInputRegisters address count => client.readInputRegisters wire address count
  | .writeSingleCoil address value => client.writeSingleCoil wire address value
  | .writeSingleRegister address value => client.writeSingleRegister wire address value
  | .writeMultipleCoils address values => client.writeMultipleCoils wire address values
  | .writeMultipleRegisters address values => client.writeMultipleRegisters wire address values

end Operations

end ModbusClient

/-- The function that a client asks for. -/
def Operation.functionCode : Operation → ModbusFunctionCode
  | .readCoils .. => .readCoils
  | .readDiscreteInputs .. => .readDiscreteInputs
  | .readHoldingRegisters .. => .readHoldingRegisters
  | .readInputRegisters .. => .readInputRegisters
  | .writeSingleCoil .. => .writeSingleCoil
  | .writeSingleRegister .. => .writeSingleRegister
  | .writeMultipleCoils .. => .writeMultipleCoils
  | .writeMultipleRegisters .. => .writeMultipleRegisters

/-- The arguments in its request. -/
def Operation.pdu : Operation → List UInt8
  | .readCoils address count | .readDiscreteInputs address count
  | .readHoldingRegisters address count | .readInputRegisters address count =>
      ModbusClient.twoWords address count
  | .writeSingleCoil address value => ModbusClient.twoWords address (if value then 0xFF00 else 0)
  | .writeSingleRegister address value => ModbusClient.twoWords address value
  | .writeMultipleCoils address values => ModbusClient.coilsPdu address values
  | .writeMultipleRegisters address values => ModbusClient.registersPdu address values

namespace ModbusClient

/-! ## §4. Answers that come in time -/

/-- A frame for this transaction. -/
structure IsAnswer (transactionId : UInt16) (response : List UInt8) : Prop where
  transaction : bytesToUInt16 response 0 = transactionId
  protocol : bytesToUInt16 response 2 = 0
  two_le : 2 ≤ (bytesToUInt16 response 4).toNat
  length : response.length = 6 + (bytesToUInt16 response 4).toNat

/-- **The answer is there in time**: it has been read, in any pieces, before the last round. -/
def Delivers (rounds : List (Option (List UInt8))) (response : List UInt8) : Prop :=
  ∃ before after, rounds = before ++ after ∧ after ≠ [] ∧
    (before.filterMap id).flatten = response

theorem readUInt16BE_eq {data : List UInt8} {offset : Nat} (h : offset + 1 < data.length) :
    readUInt16BE data offset = some (bytesToUInt16 data offset) := by
  have hhigh : data[offset]? = some (data.getD offset 0) := by
    rw [List.getD_eq_getElem _ _ (by omega), List.getElem?_eq_getElem (by omega)]
  have hlow : data[offset + 1]? = some (data.getD (offset + 1) 0) := by
    rw [List.getD_eq_getElem _ _ h, List.getElem?_eq_getElem h]
  unfold readUInt16BE
  rw [hhigh, hlow]
  rfl

section Reads

variable {transactionId : UInt16} {response stream : List UInt8}

variable {part : List UInt8}

/-- The checks of a header look up nothing outside seven bytes. -/
theorem checkHeader_isSome (transactionId : UInt16) (h : 7 ≤ part.length) :
    ∃ outcome, checkHeader transactionId part = some outcome := by
  unfold checkHeader
  rw [readUInt16BE_eq (by omega), readUInt16BE_eq (by omega), readUInt16BE_eq (by omega)]
  simp only [bind, Option.bind_some, pure]
  split_ifs <;> exact ⟨_, rfl⟩

/-- **What a round can do**, if the answer is not complete: it reads what has arrived, and reports
an error or goes on. -/
theorem round_cases (transactionId : UInt16) {reading : Reading}
    (hmore : ¬ reading.expectedLength.any (· ≤ reading.response.length))
    (arrived : Option (List UInt8)) :
    (∃ message, round transactionId reading arrived = .returns (some (.error message))) ∨
      ∃ next, round transactionId reading arrived = .goesOn next ∧
        next.response = reading.response ++ arrived.getD [] := by
  unfold round
  rw [if_neg hmore]
  cases arrived with
  | none => exact Or.inr ⟨reading, rfl, (List.append_nil _).symm⟩
  | some chunk =>
    dsimp only
    by_cases hheader : (reading.expectedLength.isNone &&
        decide ((reading.response ++ chunk).length ≥ 7)) = true
    · rw [if_pos hheader]
      simp only [Bool.and_eq_true, decide_eq_true_eq] at hheader
      obtain ⟨outcome, houtcome⟩ := checkHeader_isSome transactionId hheader.2
      rw [houtcome]
      cases outcome with
      | error message => exact Or.inl ⟨message, rfl⟩
      | ok expectedLength => exact Or.inr ⟨_, rfl, rfl⟩
    · rw [if_neg hheader]
      exact Or.inr ⟨_, rfl, rfl⟩

/-- A round that finds the answer complete. -/
theorem round_done (transactionId : UInt16) {reading : Reading}
    (hdone : reading.expectedLength.any (· ≤ reading.response.length))
    (arrived : Option (List UInt8)) :
    round transactionId reading arrived =
      .returns (some (.ok (reading.response.take (reading.expectedLength.getD 0)))) :=
  if_pos hdone

/-- The header is in the first seven bytes; more than the answer may follow. -/
theorem checkHeader_part (h : IsAnswer transactionId response) (hstream : response <+: stream)
    (hpart : part <+: stream) (hseven : 7 ≤ part.length) :
    checkHeader transactionId part = some (.ok response.length) := by
  have hlen := h.length
  have hfield : ∀ offset, offset + 2 ≤ 7 →
      readUInt16BE part offset = some (bytesToUInt16 response offset) := by
    intro offset hoffset
    obtain ⟨extra, hextra⟩ := hstream
    obtain ⟨rest, hrest⟩ := hpart
    have htwo := h.two_le
    rw [readUInt16BE_eq (by omega), ← bytesToUInt16_append rest (by omega), hrest, ← hextra,
      bytesToUInt16_append extra (by omega)]
  have htwo : ¬ bytesToUInt16 response 4 < 2 := by
    rw [UInt16.lt_iff_toNat_lt, Nat.not_lt]
    exact h.two_le
  unfold checkHeader
  rw [hfield 0 (by omega), hfield 2 (by omega), hfield 4 (by omega)]
  simp only [bind, Option.bind, h.transaction, h.protocol, ne_eq, not_true_eq_false, if_false,
    htwo, hlen, pure]

/-- The variables of the loop, when this part of the stream has been read. -/
def readingOf (part : List UInt8) (total : Nat) : Reading :=
  ⟨part, if part.length < 7 then none else some total⟩

theorem readingOf_short (h : part.length < 7) (total : Nat) :
    readingOf part total = ⟨part, none⟩ := by
  rw [readingOf, if_pos h]

theorem readingOf_known (h : 7 ≤ part.length) (total : Nat) :
    readingOf part total = ⟨part, some total⟩ := by
  rw [readingOf, if_neg (Nat.not_lt.mpr h)]

/-- A round that finds the answer complete returns it. -/
theorem round_complete (h : IsAnswer transactionId response) (hpart : response <+: part)
    (arrived : Option (List UInt8)) :
    round transactionId (readingOf part response.length) arrived =
      .returns (some (.ok response)) := by
  have hle := hpart.length_le
  have hseven : 7 ≤ part.length := by
    have htwo := h.two_le
    have hlen := h.length
    omega
  unfold round
  rw [readingOf_known hseven, if_pos (by simpa using hle)]
  dsimp only
  rw [Option.getD_some, ← List.prefix_iff_eq_take.mp hpart]

/-- A round that reads one more piece. -/
theorem round_part (h : IsAnswer transactionId response) (hstream : response <+: stream)
    (hshort : part.length < response.length) (arrived : Option (List UInt8))
    (hpart : part ++ arrived.getD [] <+: stream) :
    round transactionId (readingOf part response.length) arrived =
      .goesOn (readingOf (part ++ arrived.getD []) response.length) := by
  unfold round
  cases arrived with
  | none =>
    rw [Option.getD_none, List.append_nil]
    by_cases hseven : part.length < 7
    · rw [readingOf_short hseven]
      rfl
    · rw [readingOf_known (Nat.le_of_not_lt hseven)]
      exact if_neg (by simp [hshort])
  | some chunk =>
    rw [Option.getD_some] at hpart ⊢
    have hchunk : (part ++ chunk).length = part.length + chunk.length := List.length_append
    by_cases hseven : part.length < 7
    · rw [readingOf_short hseven]
      -- the header may be complete now, and is checked then
      by_cases hnow : (part ++ chunk).length < 7
      · rw [readingOf_short hnow]
        simp only [List.length_append] at hnow ⊢
        simp [hnow]
      · rw [readingOf_known (Nat.le_of_not_lt hnow)]
        have hcheck := checkHeader_part h hstream hpart (Nat.le_of_not_lt hnow)
        have hseven' : 7 ≤ part.length + chunk.length := by omega
        simp [hseven', hcheck]
    · have hknown : 7 ≤ (part ++ chunk).length := by omega
      rw [readingOf_known (Nat.le_of_not_lt hseven), readingOf_known hknown]
      simp
      omega

/-- The rounds that bring the rest of the stream, and one more. -/
theorem readResponse_part (h : IsAnswer transactionId response) (hstream : response <+: stream)
    (before : List (Option (List UInt8))) :
    ∀ part : List UInt8, part ++ (before.filterMap id).flatten = stream →
      ∀ after, after ≠ [] →
        readResponse transactionId (before ++ after) (readingOf part response.length) =
          some (.ok response) := by
  -- what has been read stays a prefix of the stream; the answer may be complete before its end
  induction before with
  | nil =>
    intro part hpart after hafter
    obtain rfl : part = stream := (List.append_nil part).symm.trans hpart
    cases after with
    | nil => exact absurd rfl hafter
    | cons arrived after => rw [List.nil_append, readResponse, round_complete h hstream]
  | cons arrived before ih =>
    intro part hpart after hafter
    have hflat : ((arrived :: before).filterMap id).flatten =
        arrived.getD [] ++ (before.filterMap id).flatten := by
      cases arrived <;> rfl
    rw [hflat, ← List.append_assoc] at hpart
    rw [List.cons_append, readResponse]
    by_cases hshort : part.length < response.length
    · rw [round_part h hstream hshort arrived ⟨_, hpart⟩]
      exact ih _ hpart after hafter
    · have hprefix : part <+: stream := by
        rw [← hpart, List.append_assoc]
        exact List.prefix_append _ _
      rw [round_complete h (List.prefix_of_prefix_length_le hstream hprefix (by omega))]

/-- **An answer that is there in time** is what is read, also if more follows it. -/
theorem readResponse_complete {rounds : List (Option (List UInt8))}
    (h : IsAnswer transactionId response) (hstream : response <+: stream)
    (hrounds : Delivers rounds stream) :
    readResponse transactionId rounds {} = some (.ok response) := by
  obtain ⟨before, after, rfl, hafter, hflat⟩ := hrounds
  exact readResponse_part h hstream before [] hflat after hafter

end Reads

/-! ## §5. Parsing -/

section Parsing

variable {least offset tail : Nat} {response : List UInt8} {byteCount : UInt8}

/-- Enough bytes for the coils. -/
theorem parseBits_success {count : UInt16} (hleast : least ≤ response.length)
    (hbyte : response[offset - 1]? = some byteCount)
    (hlong : offset + byteCount.toNat + tail ≤ response.length)
    (hfits : offset + (count.toNat + 7) / 8 ≤ response.length) :
    parseBits least offset tail response count =
      some { success := true,
             coils := (List.range count.toNat).map (bitAt (response.drop offset)) } := by
  have hbits : ∀ i ∈ List.range count.toNat,
      (response[offset + i / 8]?.bind fun byte => some (byte.toNat.testBit (i % 8))) =
        some (bitAt (response.drop offset) i) := by
    intro i hi
    rw [List.mem_range] at hi
    have hin : offset + i / 8 < response.length := by omega
    simp [bitAt, hin]
  unfold parseBits
  simp only [Nat.not_lt.mpr hleast, if_false, hbyte, bind, Option.bind_some, pure,
    Nat.not_lt.mpr hlong]
  rw [mapM_eq_some_map hbits]
  rfl

/-- Enough bytes for the byte count: the coils are there, or one of them is outside. -/
theorem parseBits_long {count : UInt16} (hleast : least ≤ response.length)
    (hbyte : response[offset - 1]? = some byteCount)
    (hlong : offset + byteCount.toNat + tail ≤ response.length) :
    parseBits least offset tail response count = none ∨
      ∃ r, parseBits least offset tail response count = some r ∧ r.success = true := by
  unfold parseBits
  simp only [Nat.not_lt.mpr hleast, if_false, hbyte, bind, Option.bind_some, pure,
    Nat.not_lt.mpr hlong]
  cases (List.range count.toNat).mapM fun i =>
      response[offset + i / 8]?.bind fun byte => some (byte.toNat.testBit (i % 8)) with
  | none => exact Or.inl rfl
  | some coils => exact Or.inr ⟨_, rfl, rfl⟩

/-- The registers are as many as the byte count says, and all of them are there. -/
theorem parseRegisters_success (hleast : least ≤ response.length)
    (hbyte : response[offset - 1]? = some byteCount)
    (hlong : offset + byteCount.toNat + tail ≤ response.length) :
    parseRegisters least offset tail response =
      some { success := true,
             registers := (List.range (byteCount.toNat / 2)).map
               fun i => bytesToUInt16 (response.drop offset) (2 * i) } := by
  have hwords : ∀ i ∈ List.range (byteCount.toNat / 2),
      readUInt16BE response (offset + i * 2) =
        some (bytesToUInt16 (response.drop offset) (2 * i)) := by
    intro i hi
    rw [List.mem_range] at hi
    rw [readUInt16BE_eq (by omega), bytesToUInt16_drop, Nat.mul_comm i 2]
  unfold parseRegisters
  simp only [Nat.not_lt.mpr hleast, if_false, hbyte, bind, Option.bind_some, pure,
    Nat.not_lt.mpr hlong]
  rw [mapM_eq_some_map hwords]
  rfl

end Parsing

end ModbusClient

end Stdiolink.Modbus
