/-
  Stdiolink.Modbus.RtuClient — the RTU-over-TCP client, `modbus_rtu_client.cpp`.

  The answer has no length field.  After each read, `readResponse` takes the third byte for a byte
  count and compares what has come with the length that would follow from it; when the time is
  over, what has come is the response.  In the answer to a write the third byte is the high byte
  of the address.

  Main results:
    * `readResponse_spec`  — what is read ends where the length first seems reached;
    * `interpret_answer`   — a whole answer is decoded to what it says;
    * `answer_survives_iff` — so is an answer that comes in pieces, iff it is not cut short.
-/
import Stdiolink.Modbus.TcpClient
import Stdiolink.Modbus.RtuServer

namespace Stdiolink.Modbus

open Stdiolink.Lib
open ModbusClient (Wire readUInt16BE parseBits parseRegisters)
open ModbusRtuServer (buildRtuResponse crcMatches)

namespace ModbusRtuClient

/-! ## §1. The client -/

/-- `verifyCRC`. -/
def verifyCRC (frame : List UInt8) : Option Bool := do
  if frame.length < 4 then return false
  let low ← frame[frame.length - 2]?
  let high ← frame[frame.length - 1]?
  return calculateCRC16 (frame.take (frame.length - 2)) = joinBytes high low

/-- One round of the loop of `readResponse`: it returns, or goes on. -/
inductive Round where
  | returns (result : Option (List UInt8))
  | goesOn (response : List UInt8)

/-- A round; `arrived` is what `readAll` has, if `waitForReadyRead` did not wait in vain. -/
def round (expectedMinLen : Nat) (response : List UInt8) (arrived : Option (List UInt8)) : Round :=
  let response := response ++ arrived.getD []
  if response.length ≥ 5 then
    match response[1]?, response[2]? with
    | some fc, some byteCount =>
      -- an exception has five bytes, and they are there
      if fc &&& 0x80 ≠ 0 then .returns (some response)
      else
        -- five bytes are three bytes, so the expected minimum is never what counts
        let expectedLen :=
          if response.length ≥ 3 then 3 + byteCount.toNat + 2 else expectedMinLen
        if response.length ≥ expectedLen then .returns (some response) else .goesOn response
    | _, _ => .returns none
  else .goesOn response

/-- `readResponse`, with the rounds for which there is time. -/
def readResponse (expectedMinLen : Nat) :
    List (Option (List UInt8)) → List UInt8 → Option (List UInt8)
  -- when the time is over, what has come is returned, and the caller checks it
  | [], response => some response
  | arrived :: rounds, response =>
    match round expectedMinLen response arrived with
    | .returns result => result
    | .goesOn response => readResponse expectedMinLen rounds response

/-- `parseReadBitsResponse`. -/
def parseReadBitsResponse : List UInt8 → UInt16 → Option ModbusResult := parseBits 6 3 2

/-- `parseReadRegistersResponse`. -/
def parseReadRegistersResponse : List UInt8 → Option ModbusResult := parseRegisters 6 3 2

/-- `parseWriteResponse`. -/
def parseWriteResponse (response : List UInt8) : Option ModbusResult :=
  if response.length ≥ 8 then some { success := true }
  else some (.failed "Write response too short")

/-- What an operation makes of the response. -/
def interpret (parse : List UInt8 → Option ModbusResult) (response : List UInt8) :
    Option ModbusResult := do
  if response.length < 5 then return .failed "Response too short"
  let valid ← verifyCRC response
  if !valid then return .failed "CRC error"
  let fc ← response[1]?
  if fc &&& 0x80 ≠ 0 then
    let code ← response[2]?
    return { exception := code, errorMessage := exceptionMessage code }
  parse response

/-- The common body of the operations, after the request has been written. -/
def transact (wire : Wire) (expectedMinLen : Nat) (parse : List UInt8 → Option ModbusResult) :
    Option ModbusResult := do
  if !wire.written then return .failed "Write timeout"
  let response ← readResponse expectedMinLen wire.rounds []
  interpret parse response

section Operations

variable (wire : Wire)

def readCoils (count : UInt16) : Option ModbusResult :=
  transact wire 6 (parseReadBitsResponse · count)

def readDiscreteInputs (count : UInt16) : Option ModbusResult :=
  transact wire 6 (parseReadBitsResponse · count)

def readHoldingRegisters (count : UInt16) : Option ModbusResult :=
  transact wire (5 + count.toNat * 2) parseReadRegistersResponse

def readInputRegisters (count : UInt16) : Option ModbusResult :=
  transact wire (5 + count.toNat * 2) parseReadRegistersResponse

def writeSingleCoil : Option ModbusResult := transact wire 8 parseWriteResponse

def writeSingleRegister : Option ModbusResult := transact wire 8 parseWriteResponse

def writeMultipleCoils : Option ModbusResult := transact wire 8 parseWriteResponse

def writeMultipleRegisters : Option ModbusResult := transact wire 8 parseWriteResponse

/-- The operation of the client that stands for an operation. -/
def execute : Operation → Option ModbusResult
  | .readCoils _ count => readCoils wire count
  | .readDiscreteInputs _ count => readDiscreteInputs wire count
  | .readHoldingRegisters _ count => readHoldingRegisters wire count
  | .readInputRegisters _ count => readInputRegisters wire count
  | .writeSingleCoil .. => writeSingleCoil wire
  | .writeSingleRegister .. => writeSingleRegister wire
  | .writeMultipleCoils .. => writeMultipleCoils wire
  | .writeMultipleRegisters .. => writeMultipleRegisters wire

end Operations

/-! ## §2. Answers -/

/-- What came in some rounds. -/
def received (rounds : List (Option (List UInt8))) : List UInt8 := (rounds.filterMap id).flatten

end ModbusRtuClient

/-- How many coils, or registers, an operation reads. -/
def Operation.coilsRead : Operation → Option UInt16
  | .readCoils _ count | .readDiscreteInputs _ count => some count
  | _ => none

def Operation.registersRead : Operation → Option UInt16
  | .readHoldingRegisters _ count | .readInputRegisters _ count => some count
  | _ => none

/-- The four writes. -/
def Operation.isWrite (op : Operation) : Bool := op.coilsRead.isNone && op.registersRead.isNone

namespace ModbusRtuClient

/-- **A well-formed answer** to an operation, without unit and CRC, and what it says. -/
inductive IsAnswerTo (op : Operation) : List UInt8 → ModbusResult → Prop
  | coils {count : UInt16} {data : List UInt8} (hop : op.coilsRead = some count)
      (hone : 1 ≤ count.toNat) (hlen : data.length = (count.toNat + 7) / 8)
      (hbyte : data.length < 256) :
      IsAnswerTo op (op.functionCode.code :: UInt8.ofNat data.length :: data)
        { success := true, coils := (List.range count.toNat).map (bitAt data) }
  | registers {count : UInt16} {data : List UInt8} (hop : op.registersRead = some count)
      (hone : 1 ≤ count.toNat) (hlen : data.length = 2 * count.toNat)
      (hbyte : data.length < 256) :
      IsAnswerTo op (op.functionCode.code :: UInt8.ofNat data.length :: data)
        { success := true,
          registers := (List.range count.toNat).map fun i => bytesToUInt16 data (2 * i) }
  | written (hop : op.isWrite = true) :
      IsAnswerTo op (op.functionCode.code :: op.pdu.take 4) { success := true }
  | exception (code : UInt8) :
      IsAnswerTo op [op.functionCode.code ||| 0x80, code]
        { exception := code, errorMessage := exceptionMessage code }

/-- **Cut short**: the answer is a normal one to a write, and at the end of some round so many bytes
have come that the high byte of the address, taken for a byte count, is satisfied before the answer
is complete. -/
def CutShort (op : Operation) (answer : List UInt8) (rounds : List (Option (List UInt8))) : Prop :=
  op.isWrite = true ∧ answer.getD 1 0 &&& 0x80 = 0 ∧
    ∃ before after, rounds = before ++ after ∧
      5 + (answer.getD 2 0).toNat ≤ (received before).length ∧ (received before).length ≤ 7

/-! ## §3. Reading -/

section Reads

/-- What has come looks complete. -/
def Stops (response : List UInt8) : Prop :=
  5 ≤ response.length ∧ (response.getD 1 0 &&& 0x80 ≠ 0 ∨
    5 + (response.getD 2 0).toNat ≤ response.length)

instance (response : List UInt8) : Decidable (Stops response) := by
  unfold Stops
  infer_instance

theorem round_eq (expectedMinLen : Nat) (response : List UInt8) (arrived : Option (List UInt8)) :
    round expectedMinLen response arrived =
      if Stops (response ++ arrived.getD []) then .returns (some (response ++ arrived.getD []))
      else .goesOn (response ++ arrived.getD []) := by
  unfold round
  generalize response ++ arrived.getD [] = response
  dsimp only
  by_cases hfive : response.length ≥ 5
  · have hone : response[1]? = some (response.getD 1 0) := by
      rw [List.getD_eq_getElem _ _ (by omega), List.getElem?_eq_getElem (by omega)]
    have htwo : response[2]? = some (response.getD 2 0) := by
      rw [List.getD_eq_getElem _ _ (by omega), List.getElem?_eq_getElem (by omega)]
    have hthree : 3 + (response.getD 2 0).toNat + 2 = 5 + (response.getD 2 0).toNat := by omega
    rw [if_pos hfive, hone, htwo]
    dsimp only
    rw [if_pos (by omega : response.length ≥ 3), hthree]
    by_cases hbit : response.getD 1 0 &&& 0x80 ≠ 0
    · rw [if_pos hbit, if_pos (show Stops response from ⟨hfive, Or.inl hbit⟩)]
    · rw [if_neg hbit]
      by_cases hlong : response.length ≥ 5 + (response.getD 2 0).toNat
      · rw [if_pos hlong, if_pos (show Stops response from ⟨hfive, Or.inr hlong⟩)]
      · rw [if_neg hlong, if_neg fun h : Stops response => h.2.elim hbit hlong]
  · rw [if_neg hfive, if_neg fun h : Stops response => hfive h.1]

theorem received_cons (arrived : Option (List UInt8)) (rounds : List (Option (List UInt8))) :
    received (arrived :: rounds) = arrived.getD [] ++ received rounds := by
  cases arrived <;> rfl

/-- **What is read** is what came in the rounds up to the first one after which it looks complete,
or in all of them. -/
theorem readResponse_spec (expectedMinLen : Nat) (rounds : List (Option (List UInt8))) :
    ∀ part : List UInt8, ∃ before after, rounds = before ++ after ∧
      readResponse expectedMinLen rounds part = some (part ++ received before) ∧
      (Stops (part ++ received before) ∨ after = []) ∧
      ∀ before' after', rounds = before' ++ after' → before' ≠ [] →
        Stops (part ++ received before') →
          (received before).length ≤ (received before').length := by
  -- the first round either looks complete, and is `before`, or belongs to it
  induction rounds with
  | nil =>
    intro part
    refine ⟨[], [], rfl, ?_, Or.inr rfl, ?_⟩
    · rw [readResponse]
      exact congrArg some (List.append_nil part).symm
    · intro before' after' hrounds hne
      exact absurd (List.append_eq_nil_iff.mp hrounds.symm).1 hne
  | cons arrived rounds ih =>
    intro part
    rw [readResponse, round_eq]
    have hone : received [arrived] = arrived.getD [] := by
      rw [received_cons]
      exact List.append_nil _
    by_cases hstops : Stops (part ++ arrived.getD [])
    · rw [if_pos hstops]
      refine ⟨[arrived], rounds, rfl, ?_, Or.inl ?_, ?_⟩
      · rw [hone]
      · rwa [hone]
      · intro before' after' hrounds hne _
        cases before' with
        | nil => exact absurd rfl hne
        | cons arrived' before' =>
          obtain ⟨rfl, -⟩ := List.cons.inj hrounds
          rw [hone, received_cons, List.length_append]
          omega
    · rw [if_neg hstops]
      obtain ⟨before, after, hrounds, hread, hend, hfirst⟩ := ih (part ++ arrived.getD [])
      refine ⟨arrived :: before, after, ?_, ?_, ?_, ?_⟩
      · rw [hrounds]
        rfl
      · rw [received_cons, ← List.append_assoc]
        exact hread
      · rwa [received_cons, ← List.append_assoc]
      · intro before' after' hrounds' hne hstops'
        cases before' with
        | nil => exact absurd rfl hne
        | cons arrived' before' =>
          obtain ⟨rfl, hrest⟩ := List.cons.inj hrounds'
          rw [received_cons, ← List.append_assoc] at hstops'
          rw [received_cons, received_cons, List.length_append, List.length_append]
          by_cases hempty : before' = []
          · subst hempty
            rw [show received [] = [] from rfl, List.append_nil] at hstops'
            exact absurd hstops' hstops
          · have hle := hfirst before' after' hrest hempty hstops'
            omega

end Reads

/-! ## §4. Decoding -/

section Decoding

theorem verifyCRC_eq (frame : List UInt8) :
    verifyCRC frame = some (decide (4 ≤ frame.length) && crcMatches frame) := by
  unfold verifyCRC
  by_cases hfour : frame.length < 4
  · rw [if_pos hfour]
    have hnot : ¬ 4 ≤ frame.length := by omega
    simp [hnot]
  · have hlow : frame[frame.length - 2]? = some (frame.getD (frame.length - 2) 0) := by
      rw [List.getD_eq_getElem _ _ (by omega), List.getElem?_eq_getElem (by omega)]
    have hhigh : frame[frame.length - 1]? = some (frame.getD (frame.length - 1) 0) := by
      rw [List.getD_eq_getElem _ _ (by omega), List.getElem?_eq_getElem (by omega)]
    have hle : 4 ≤ frame.length := by omega
    rw [if_neg hfour, hlow, hhigh]
    simp only [bind, Option.bind, pure, hle, decide_true, Bool.true_and, crcMatches]
    congr 1
    exact decide_eq_decide.mpr eq_comm

/-- A whole frame. -/
theorem interpret_build (parse : List UInt8 → Option ModbusResult) (unitId first second : UInt8)
    (rest : List UInt8) :
    interpret parse (buildRtuResponse unitId (first :: second :: rest)) =
      if first &&& 0x80 ≠ 0 then
        some { exception := second, errorMessage := exceptionMessage second }
      else parse (buildRtuResponse unitId (first :: second :: rest)) := by
  have hlen := ModbusRtuServer.length_buildRtuResponse unitId (first :: second :: rest)
  simp only [List.length_cons] at hlen
  have hfive : ¬ (buildRtuResponse unitId (first :: second :: rest)).length < 5 := by omega
  have hfour : 4 ≤ (buildRtuResponse unitId (first :: second :: rest)).length := by omega
  have hone : (buildRtuResponse unitId (first :: second :: rest))[1]? = some first := rfl
  have htwo : (buildRtuResponse unitId (first :: second :: rest))[2]? = some second := rfl
  unfold interpret
  simp only [hfive, if_false, verifyCRC_eq, hfour, decide_true,
    ModbusRtuServer.crcMatches_build, Bool.and_self, Bool.not_true, Bool.false_eq_true, hone, htwo,
    bind, Option.bind, pure]

/-- A response of less than eight bytes is no success of a write. -/
theorem interpret_short {response : List UInt8} (hlen : response.length < 8) {r : ModbusResult}
    (h : interpret parseWriteResponse response = some r) : r.success = false := by
  unfold interpret at h
  rw [verifyCRC_eq] at h
  simp only [bind, Option.bind, pure] at h
  split_ifs at h
  · obtain rfl := Option.some.inj h
    rfl
  · obtain rfl := Option.some.inj h
    rfl
  · cases hone : response[1]? with
    | none =>
      rw [hone] at h
      cases h
    | some fc =>
      rw [hone] at h
      dsimp only at h
      split_ifs at h
      · cases htwo : response[2]? with
        | none =>
          rw [htwo] at h
          cases h
        | some code =>
          rw [htwo] at h
          obtain rfl := Option.some.inj h
          rfl
      · rw [parseWriteResponse, if_neg (by omega)] at h
        obtain rfl := Option.some.inj h
        rfl

/-- The parser of an operation. -/
def parserOf : Operation → List UInt8 → Option ModbusResult
  | .readCoils _ count | .readDiscreteInputs _ count =>
      fun response => parseReadBitsResponse response count
  | .readHoldingRegisters .. | .readInputRegisters .. => parseReadRegistersResponse
  | _ => parseWriteResponse

/-- The expected minimum length of an operation. -/
def minLenOf : Operation → Nat
  | .readCoils .. | .readDiscreteInputs .. => 6
  | .readHoldingRegisters _ count | .readInputRegisters _ count => 5 + count.toNat * 2
  | _ => 8

theorem execute_eq (wire : Wire) (op : Operation) :
    execute wire op = transact wire (minLenOf op) (parserOf op) := by
  cases op <;> rfl

variable {op : Operation}

theorem parserOf_coils {count : UInt16} (h : op.coilsRead = some count) :
    parserOf op = fun response => parseReadBitsResponse response count := by
  cases op <;> cases h <;> rfl

theorem parserOf_registers {count : UInt16} (h : op.registersRead = some count) :
    parserOf op = parseReadRegistersResponse := by
  cases op <;> cases h <;> rfl

theorem parserOf_write (h : op.isWrite = true) : parserOf op = parseWriteResponse := by
  cases op <;> cases h <;> rfl

theorem length_pdu_take (op : Operation) : (op.pdu.take 4).length = 4 := by
  cases op <;> rfl

/-- **A whole answer** is decoded to what it says. -/
theorem interpret_answer {pdu : List UInt8} {result : ModbusResult} (h : IsAnswerTo op pdu result)
    (unitId : UInt8) :
    interpret (parserOf op) (buildRtuResponse unitId pdu) = some result := by
  have hlen := ModbusRtuServer.length_buildRtuResponse unitId pdu
  cases h with
  | @coils count data hop hone hdata hbyte =>
    simp only [List.length_cons] at hlen
    -- the byte count is the length of the data, which is less than 256
    have hcount : (UInt8.ofNat data.length).toNat = data.length := by
      rw [UInt8.toNat_ofNat']
      omega
    rw [interpret_build, if_neg (fun hbit => hbit op.functionCode.code_highBit),
      parserOf_coils hop]
    refine (ModbusClient.parseBits_success (by omega) rfl (by omega) (by omega)).trans ?_
    congr 2
    apply List.map_congr_left
    intro i hi
    rw [List.mem_range] at hi
    exact bitAt_append _ (by omega)
  | @registers count data hop hone hdata hbyte =>
    simp only [List.length_cons] at hlen
    have hcount : (UInt8.ofNat data.length).toNat = data.length := by
      rw [UInt8.toNat_ofNat']
      omega
    have hhalf : (UInt8.ofNat data.length).toNat / 2 = count.toNat := by omega
    rw [interpret_build, if_neg (fun hbit => hbit op.functionCode.code_highBit),
      parserOf_registers hop]
    refine (ModbusClient.parseRegisters_success (by omega) rfl (by omega)).trans ?_
    rw [hhalf]
    congr 2
    apply List.map_congr_left
    intro i hi
    rw [List.mem_range] at hi
    exact bytesToUInt16_append _ (by omega)
  | written hop =>
    have hfour := length_pdu_take op
    cases hbody : op.pdu.take 4 with
    | nil =>
      rw [hbody] at hfour
      cases hfour
    | cons second rest =>
      rw [hbody] at hlen hfour
      simp only [List.length_cons] at hlen hfour
      rw [interpret_build, if_neg (fun hbit => hbit op.functionCode.code_highBit),
        parserOf_write hop]
      exact if_pos (by omega)
  | exception code =>
    rw [interpret_build]
    exact if_pos (highBit_set _)

end Decoding

/-! ## §5. Answers in pieces -/

section Pieces

theorem received_append (before after : List (Option (List UInt8))) :
    received (before ++ after) = received before ++ received after := by
  unfold received
  rw [List.filterMap_append, List.flatten_append]

/-- The first bytes of an answer look complete as the answer says. -/
theorem stops_part {part : List UInt8} (rest : List UInt8) (hfive : 5 ≤ part.length) :
    Stops part ↔ (part ++ rest).getD 1 0 &&& 0x80 ≠ 0 ∨
      5 + ((part ++ rest).getD 2 0).toNat ≤ part.length := by
  rw [List.getD_append _ _ _ _ (by omega), List.getD_append _ _ _ _ (by omega)]
  constructor
  · exact fun h => h.2
  · exact fun h => ⟨hfive, h⟩

/-- An answer other than a normal one to a write looks complete only when it is. -/
theorem stops_whole {op : Operation} {pdu : List UInt8} {result : ModbusResult}
    (h : IsAnswerTo op pdu result) (unitId : UInt8)
    (hother : ¬ (op.isWrite = true ∧ (buildRtuResponse unitId pdu).getD 1 0 &&& 0x80 = 0))
    {part rest : List UInt8} (hparts : part ++ rest = buildRtuResponse unitId pdu)
    (hstops : Stops part) : rest = [] := by
  have hlen := congrArg List.length hparts
  rw [ModbusRtuServer.length_buildRtuResponse, List.length_append] at hlen
  have hcases := (stops_part rest hstops.1).mp hstops
  have hfive := hstops.1
  rw [hparts] at hcases
  apply List.eq_nil_of_length_eq_zero
  cases h with
  | @coils count data hop hone hdata hbyte
  | @registers count data hop hone hdata hbyte =>
    simp only [List.length_cons] at hlen
    obtain hbit | hcount := hcases
    · exact absurd op.functionCode.code_highBit hbit
    · change 5 + (UInt8.ofNat data.length).toNat ≤ part.length at hcount
      rw [UInt8.toNat_ofNat'] at hcount
      omega
  | written hop => exact absurd ⟨hop, op.functionCode.code_highBit⟩ hother
  | exception code =>
    simp only [List.length_cons, List.length_nil] at hlen
    omega

/-- The normal answer to a write has eight bytes. -/
theorem length_written {op : Operation} {pdu : List UInt8} {result : ModbusResult}
    (h : IsAnswerTo op pdu result) (unitId : UInt8)
    (hwrite : op.isWrite = true ∧ (buildRtuResponse unitId pdu).getD 1 0 &&& 0x80 = 0) :
    (buildRtuResponse unitId pdu).length = 8 ∧ result = { success := true } := by
  obtain ⟨hop, hbit⟩ := hwrite
  cases h with
  | @coils count data hop' =>
    rw [Operation.isWrite, hop'] at hop
    cases hop
  | @registers count data hop' =>
    rw [Operation.isWrite, hop', Bool.and_comm] at hop
    cases hop
  | written =>
    rw [ModbusRtuServer.length_buildRtuResponse, List.length_cons, length_pdu_take]
    exact ⟨rfl, rfl⟩
  | exception code => exact absurd hbit (highBit_set _)

/-- **Answers in pieces.**  A well-formed answer to any operation is decoded to what it says when it
comes in one piece; when it comes in other pieces, all of them in time, it is so iff it is not
cut short. -/
theorem answer_survives_iff (op : Operation) (unitId : UInt8) (pdu : List UInt8)
    (result : ModbusResult) (rounds : List (Option (List UInt8))) (h : IsAnswerTo op pdu result)
    (hrounds : received rounds = buildRtuResponse unitId pdu) :
    execute { rounds := [some (buildRtuResponse unitId pdu)] } op = some result ∧
      (execute { rounds := rounds } op = some result ↔
        ¬ CutShort op (buildRtuResponse unitId pdu) rounds) := by
  have hinterpret := interpret_answer h unitId
  constructor
  · have hread : readResponse (minLenOf op) [some (buildRtuResponse unitId pdu)] [] =
        some (buildRtuResponse unitId pdu) := by
      rw [readResponse, round_eq]
      split_ifs <;> rfl
    rw [execute_eq, transact, hread]
    exact hinterpret
  · obtain ⟨before, after, hsplit, hread, hend, hfirst⟩ :=
      readResponse_spec (minLenOf op) rounds []
    rw [List.nil_append] at hread hend
    have hparts : received before ++ received after = buildRtuResponse unitId pdu := by
      rw [← received_append, ← hsplit, hrounds]
    have hexecute : execute { rounds := rounds } op =
        interpret (parserOf op) (received before) := by
      rw [execute_eq, transact]
      show (readResponse (minLenOf op) rounds []).bind _ = _
      rw [hread]
      rfl
    -- nothing is left when the whole answer has been read
    have hwhole : received after = [] → execute { rounds := rounds } op = some result := by
      intro hnil
      rw [hnil, List.append_nil] at hparts
      rw [hexecute, hparts, hinterpret]
    by_cases hwrite : op.isWrite = true ∧ (buildRtuResponse unitId pdu).getD 1 0 &&& 0x80 = 0
    · -- the third byte is one of the address, and the first round that satisfies it ends the loop
      obtain ⟨height, rfl⟩ := length_written h unitId hwrite
      have hlen := congrArg List.length hparts
      rw [List.length_append, height] at hlen
      constructor
      · rintro hresult ⟨-, -, before', after', hsplit', hfive, hseven⟩
        have hparts' : received before' ++ received after' = buildRtuResponse unitId pdu := by
          rw [← received_append, ← hsplit', hrounds]
        have hstops' : Stops (received before') := by
          rw [stops_part (received after') (by omega), hparts']
          exact Or.inr hfive
        have hne : before' ≠ [] := by
          rintro rfl
          exact absurd hfive (by simp [received])
        have hshort := hfirst before' after' hsplit' hne (by rwa [List.nil_append])
        rw [hexecute, parserOf_write hwrite.1] at hresult
        exact absurd (interpret_short (by omega) hresult) (by simp)
      · intro hnot
        apply hwhole
        obtain hstops | rfl := hend
        · have hcases := (stops_part (received after) hstops.1).mp hstops
          rw [hparts] at hcases
          obtain hbit | hcount := hcases
          · exact absurd hwrite.2 hbit
          · apply List.eq_nil_of_length_eq_zero
            by_contra hpos
            exact hnot ⟨hwrite.1, hwrite.2, before, after, hsplit, hcount, by omega⟩
        · rfl
    · -- the third byte is the byte count, or the answer is an exception
      refine iff_of_true (hwhole ?_) fun hcut => hwrite ⟨hcut.1, hcut.2.1⟩
      obtain hstops | rfl := hend
      · exact stops_whole h unitId hwrite hparts hstops
      · rfl

/-- The answer to a write of register 0, in one byte and seven. -/
theorem one_byte_then_seven :
    execute { rounds := [some [1], some ((buildRtuResponse 1 [6, 0, 0, 0, 42]).drop 1)] }
      (.writeSingleRegister 0 42) = some { success := true } := by
  refine (answer_survives_iff (.writeSingleRegister 0 42) 1 [6, 0, 0, 0, 42] { success := true }
    [some [1], some ((buildRtuResponse 1 [6, 0, 0, 0, 42]).drop 1)] (.written rfl) rfl).2.mpr ?_
  rintro ⟨-, -, before, after, hsplit, hfive, hseven⟩
  change 5 ≤ _ at hfive
  match before, hsplit with
  | [], _ => cases hfive
  | [first], hsplit =>
    rw [← (List.cons.inj hsplit).1] at hfive
    revert hfive
    decide
  | [first, second], hsplit =>
    rw [← (List.cons.inj hsplit).1, ← (List.cons.inj (List.cons.inj hsplit).2).1] at hseven
    revert hseven
    decide
  | _ :: _ :: _ :: _, hsplit => cases hsplit

/-- The same answer, with the first five bytes in one piece. -/
theorem five_bytes_then_three :
    execute { rounds := [some ((buildRtuResponse 1 [6, 0, 0, 0, 42]).take 5),
        some ((buildRtuResponse 1 [6, 0, 0, 0, 42]).drop 5)] } (.writeSingleRegister 0 42) ≠
      execute { rounds := [some (buildRtuResponse 1 [6, 0, 0, 0, 42])] }
        (.writeSingleRegister 0 42) := by
  decide +kernel

end Pieces

end ModbusRtuClient

end Stdiolink.Modbus
