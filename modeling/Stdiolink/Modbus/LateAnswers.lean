/-
  Stdiolink.Modbus.LateAnswers — one connection of the TCP client over many transactions.

  The server answers each request once and in order.  What of an answer has not been read when its
  transaction ends stays on the socket, and the next transaction reads it first: `readResponse`
  does not skip an answer with another transaction id, and `sendRequest` does not clear the socket.

  Main results:
    * `late_answers_iff` — in every run, a request whose answer comes in time is answered by it iff
      what is read begins with it;
    * `run_in_time`      — as long as no answer is late, every request is answered;
    * `stays_behind`     — after a late answer, no request need ever be answered again.
-/
import Stdiolink.Lib.Machine
import Stdiolink.Modbus.Transactions

namespace Stdiolink.Modbus

open Stdiolink.Lib

namespace ModbusClient

/-! ## §1. Connections -/

/-- What the loop of `readResponse` takes off the socket. -/
def taken (expectedTransactionId : UInt16) : List (Option (List UInt8)) → Reading → List UInt8
  | [], _ => []
  | arrived :: rounds, reading =>
    if reading.expectedLength.any (· ≤ reading.response.length) then []
    else
      -- `readAll` takes all that is there, also when the round ends in an error
      arrived.getD [] ++
        match round expectedTransactionId reading arrived with
        | .returns _ => []
        | .goesOn reading => taken expectedTransactionId rounds reading

/-- A client, and what of the answers to its requests it has not read. -/
structure Connection where
  client : ModbusClient
  unread : List UInt8 := []

/-- A transaction: the operation, the answer of the server, and what each round of the loop finds on
the socket, if it comes to that round. -/
structure Transaction where
  operation : Operation
  answer : List UInt8
  rounds : List (Option (List UInt8))

section Steps

variable (connection : Connection) (t : Transaction)

/-- What the client can read during the transaction, in this order. -/
def Connection.stream : List UInt8 := connection.unread ++ t.answer

/-- The connection after the transaction. -/
def Connection.after : Connection where
  client := (connection.client.buildRequest t.operation.functionCode t.operation.pdu).2
  unread := (connection.stream t).drop
    (taken connection.client.transactionId t.rounds {}).length

/-- The result of the operation. -/
def Connection.result : Option ModbusResult :=
  connection.client.execute { rounds := t.rounds } t.operation

/-- The server answers once and in order. -/
structure Served : Prop where
  isAnswer : IsAnswer connection.client.transactionId t.answer
  inOrder : (t.rounds.filterMap id).flatten <+: connection.stream t

/-- All of the answer is there in time. -/
def InTime : Prop := Delivers t.rounds (connection.stream t)

/-- The request is answered by its own answer: it is read, and the result is what it means. -/
structure Answered : Prop where
  read : readResponse connection.client.transactionId t.rounds {} = some (.ok t.answer)
  result : connection.result t =
    (interpret t.operation.functionCode t.answer).bind fun (result, responseOut) =>
      if !result.success then some result else t.operation.parse responseOut

/-- What is read begins with the answer. -/
def Undisturbed : Prop := t.answer <+: connection.stream t

end Steps

/-- Transactions one after another, with their results. -/
def transactions : Machine Connection Transaction (Option ModbusResult) where
  step connection t := (connection.after t, [connection.result t])

/-! ## §2. One transaction -/

section OneTransaction

variable {connection : Connection} {t : Transaction}

/-- What is returned has been taken off the socket. -/
theorem readResponse_taken {transactionId : UInt16} {response : List UInt8}
    (rounds : List (Option (List UInt8))) :
    ∀ reading, readResponse transactionId rounds reading = some (.ok response) →
      response <+: reading.response ++ taken transactionId rounds reading := by
  -- what is taken moves into the variables of the loop, round by round
  induction rounds with
  | nil =>
    intro reading h
    cases h
  | cons arrived rounds ih =>
    intro reading h
    rw [readResponse] at h
    rw [taken]
    by_cases hdone : reading.expectedLength.any (· ≤ reading.response.length)
    · rw [round_done transactionId hdone] at h
      rw [if_pos hdone, List.append_nil]
      obtain rfl := Except.ok.inj (Option.some.inj h)
      exact List.take_prefix _ _
    rw [if_neg hdone]
    obtain ⟨message, hround⟩ | ⟨next, hround, hnext⟩ := round_cases transactionId hdone arrived
    · rw [hround] at h
      cases h
    · rw [hround] at h ⊢
      have hresponse := ih next h
      rw [hnext, List.append_assoc] at hresponse
      exact hresponse

/-- No more is taken off the socket than there is. -/
theorem taken_received {transactionId : UInt16} (rounds : List (Option (List UInt8))) :
    ∀ reading, taken transactionId rounds reading <+: (rounds.filterMap id).flatten := by
  induction rounds with
  | nil => exact fun _ => List.prefix_rfl
  | cons arrived rounds ih =>
    intro reading
    have hflat : ((arrived :: rounds).filterMap id).flatten =
        arrived.getD [] ++ (rounds.filterMap id).flatten := by
      cases arrived <;> rfl
    rw [taken, hflat]
    by_cases hdone : reading.expectedLength.any (· ≤ reading.response.length)
    · rw [if_pos hdone]
      exact List.nil_prefix
    · rw [if_neg hdone, List.prefix_append_right_inj]
      cases round transactionId reading arrived with
      | returns result => exact List.nil_prefix
      | goesOn next => exact ih next

/-- The answer, once it has been read, gives the result. -/
theorem answered_of_read
    (h : readResponse connection.client.transactionId t.rounds {} = some (.ok t.answer)) :
    Answered connection t :=
  ⟨h, execute_read connection.client t.operation h⟩

/-- **A request whose answer comes in time** is answered by it iff what is read begins with it. -/
theorem answered_iff (hserved : Served connection t) (hin : InTime connection t) :
    Answered connection t ↔ Undisturbed connection t := by
  constructor
  · intro h
    have htaken : t.answer <+: taken connection.client.transactionId t.rounds {} :=
      readResponse_taken t.rounds {} h.read
    exact (htaken.trans (taken_received t.rounds {})).trans hserved.inOrder
  · intro h
    exact answered_of_read (readResponse_complete hserved.isAnswer h hin)

/-- With nothing unread before, nothing is unread after. -/
theorem after_unread (hserved : Served connection t) (hin : InTime connection t)
    (hunread : connection.unread = []) : (connection.after t).unread = [] := by
  have hstream : connection.stream t = t.answer := by
    rw [Connection.stream, hunread, List.nil_append]
  have hanswered : Answered connection t := by
    refine (answered_iff hserved hin).mpr ⟨[], ?_⟩
    rw [List.append_nil, hstream]
  have hlen : t.answer.length ≤ (taken connection.client.transactionId t.rounds {}).length :=
    (readResponse_taken t.rounds {} hanswered.read).length_le
  show (connection.stream t).drop _ = []
  rw [hstream]
  exact List.drop_eq_nil_of_le hlen

end OneTransaction

/-! ## §3. Runs -/

section Runs

variable {connection : Connection}

/-- **Runs without a late answer**: every request is answered. -/
theorem run_in_time {ts : List Transaction}
    (hserved : transactions.EveryStep (fun c t => Served c.state t) (Machine.start connection) ts)
    (hin : transactions.EveryStep (fun c t => InTime c.state t) (Machine.start connection) ts)
    (hunread : connection.unread = []) :
    transactions.EveryStep (fun c t => Answered c.state t) (Machine.start connection) ts := by
  -- the invariant: nothing is unread between two transactions
  refine Machine.everyStep_of_invariant (fun c => c.state.unread = [])
    (fun c t hnone h => after_unread h.1 h.2 hnone) ?_ hunread (hserved.and hin)
  rintro c t hnone ⟨ht, htime⟩
  refine (answered_iff ht htime).mpr ?_
  rw [Undisturbed, Connection.stream, hnone]
  exact List.prefix_rfl

/-- **Late answers.**  In every run, a request whose answer comes in time is answered by it iff what
is read, the unread bytes of earlier answers and the answer, begins with the answer; and as long as
no answer is late, nothing is unread. -/
theorem late_answers_iff (connection : Connection) (ts : List Transaction)
    (hserved : transactions.EveryStep (fun c t => Served c.state t) (Machine.start connection)
      ts) :
    transactions.EveryStep
        (fun c t => InTime c.state t → (Answered c.state t ↔ Undisturbed c.state t))
        (Machine.start connection) ts ∧
      (connection.unread = [] →
        transactions.EveryStep (fun c t => InTime c.state t) (Machine.start connection) ts →
          transactions.EveryStep (fun c t => Answered c.state t) (Machine.start connection) ts) :=
  ⟨hserved.mono fun _ _ ht hin => answered_iff ht hin,
    fun hunread hin => run_in_time hserved hin hunread⟩

/-- A new connection to unit 1. -/
def newConnection : Connection where
  client := { transactionId := 0, unitId := 1 }

/-- One register with this transaction id. -/
def registerAnswer (transactionId : UInt8) : List UInt8 :=
  [0, transactionId, 0, 0, 0, 5, 1, 3, 2, 0, 7]

/-- The read of register 0, answered with this transaction id. -/
def readRegister (transactionId : UInt8) (rounds : List (Option (List UInt8))) : Transaction where
  operation := .readHoldingRegisters 0 1
  answer := registerAnswer transactionId
  rounds := rounds

theorem isAnswer_zero : IsAnswer 0 (registerAnswer 0) := ⟨rfl, rfl, by decide, rfl⟩

theorem isAnswer_one : IsAnswer 1 (registerAnswer 1) := ⟨rfl, rfl, by decide, rfl⟩

/-- Two answers in time, the second in two pieces. -/
theorem two_in_time :
    transactions.EveryStep (fun c t => Answered c.state t) (Machine.start newConnection)
      [readRegister 0 [some (registerAnswer 0), none],
        readRegister 1 [some ((registerAnswer 1).take 4), some ((registerAnswer 1).drop 4),
          none]] := by
  refine (late_answers_iff newConnection _ ?_).2 rfl ?_
  · exact ⟨⟨isAnswer_zero, List.prefix_rfl⟩, ⟨isAnswer_one, List.prefix_rfl⟩, trivial⟩
  · exact ⟨⟨[some _], [none], rfl, by simp, rfl⟩, ⟨[some _, some _], [none], rfl, by simp, rfl⟩,
      trivial⟩

/-- The first answer is late, and the second, which is in time, is not read any more. -/
theorem second_spoiled :
    let late := readRegister 0 [none]
    let next := readRegister 1 [some (registerAnswer 0), some (registerAnswer 1), none]
    transactions.EveryStep (fun c t => Served c.state t) (Machine.start newConnection)
        [late, next] ∧
      (newConnection.after late).unread = late.answer ∧
      InTime (newConnection.after late) next ∧ ¬ Answered (newConnection.after late) next := by
  refine ⟨⟨⟨isAnswer_zero, List.nil_prefix⟩, ⟨isAnswer_one, List.prefix_rfl⟩, trivial⟩, rfl,
    ⟨[some _, some _], [none], rfl, by simp, rfl⟩, fun h => ?_⟩
  have herror : readResponse (newConnection.after (readRegister 0 [none])).client.transactionId
      [some (registerAnswer 0), some (registerAnswer 1), none] {} =
        some (.error "Unexpected transaction id") := by
    decide
  cases herror.symm.trans h.read

/-- What is unread is the answer to the request before. -/
def Behind (connection : Connection) : Prop :=
  IsAnswer (connection.client.transactionId - 1) connection.unread

/-- The first piece that is read is what is unread. -/
def ReadsUnread (connection : Connection) (t : Transaction) : Prop :=
  ∃ idle rest, t.rounds = List.replicate idle none ++ some connection.unread :: rest

/-- Rounds in which nothing arrives do not count. -/
theorem idle_rounds (transactionId : UInt16) (rounds : List (Option (List UInt8))) (idle : Nat) :
    readResponse transactionId (List.replicate idle none ++ rounds) {} =
        readResponse transactionId rounds {} ∧
      taken transactionId (List.replicate idle none ++ rounds) {} =
        taken transactionId rounds {} := by
  induction idle with
  | zero => exact ⟨rfl, rfl⟩
  | succ idle ih => exact ih

/-- The answer to another request is an error, and is taken off the socket. -/
theorem other_answer {transactionId other : UInt16} {response : List UInt8}
    (h : IsAnswer other response) (hother : other ≠ transactionId)
    (rest : List (Option (List UInt8))) :
    readResponse transactionId (some response :: rest) {} =
        some (.error "Unexpected transaction id") ∧
      taken transactionId (some response :: rest) {} = response := by
  have hseven : response.length ≥ 7 := by
    have htwo := h.two_le
    have hlen := h.length
    omega
  have hcheck : checkHeader transactionId response =
      some (.error "Unexpected transaction id") := by
    unfold checkHeader
    rw [readUInt16BE_eq (by omega), h.transaction]
    exact if_pos hother
  have hround : round transactionId {} (some response) =
      .returns (some (.error "Unexpected transaction id")) := by
    unfold round
    simp [hseven, hcheck]
  constructor
  · rw [readResponse, hround]
  · rw [taken, hround]
    exact List.append_nil _

/-- Such a transaction fails and leaves its own answer unread. -/
theorem behind_step {t : Transaction} (hserved : Served connection t) (hbehind : Behind connection)
    (hreads : ReadsUnread connection t) :
    readResponse connection.client.transactionId t.rounds {} =
        some (.error "Unexpected transaction id") ∧
      Behind (connection.after t) := by
  obtain ⟨idle, rest, hrounds⟩ := hreads
  have hother : connection.client.transactionId - 1 ≠ connection.client.transactionId := by
    intro h
    have hnat := congrArg UInt16.toNat h
    rw [UInt16.toNat_sub] at hnat
    have hlt := connection.client.transactionId.toNat_lt
    have hone : (1 : UInt16).toNat = 1 := rfl
    omega
  obtain ⟨hread, htaken⟩ := other_answer hbehind hother rest
  obtain ⟨hidleRead, hidleTaken⟩ :=
    idle_rounds connection.client.transactionId (some connection.unread :: rest) idle
  rw [← hrounds] at hidleRead hidleTaken
  refine ⟨hidleRead.trans hread, ?_⟩
  have hunread : (connection.after t).unread = t.answer := by
    show (connection.unread ++ t.answer).drop _ = _
    rw [hidleTaken, htaken]
    exact List.drop_left
  have hid : (connection.after t).client.transactionId - 1 = connection.client.transactionId :=
    UInt16.add_sub_cancel connection.client.transactionId 1
  rw [Behind, hunread, hid]
  exact hserved.isAnswer

/-- **One answer behind**, where each transaction reads one answer, no request is answered any
more. -/
theorem stays_behind {ts : List Transaction}
    (hserved : transactions.EveryStep (fun c t => Served c.state t) (Machine.start connection) ts)
    (hreads : transactions.EveryStep (fun c t => ReadsUnread c.state t) (Machine.start connection)
      ts)
    (hbehind : Behind connection) :
    transactions.EveryStep
      (fun c t => c.state.result t = some (.failed "Unexpected transaction id"))
      (Machine.start connection) ts := by
  -- the invariant: what is unread is one whole answer, and it is the last one
  refine Machine.everyStep_of_invariant (fun c => Behind c.state) ?_ ?_ hbehind
    (hserved.and hreads)
  · rintro c t hb ⟨ht, hread⟩
    exact (behind_step ht hb hread).2
  · rintro c t hb ⟨ht, hread⟩
    exact execute_error c.state.client t.operation (behind_step ht hb hread).1

/-- The late answer to request 0, and two requests after it. -/
theorem one_late_answer :
    transactions.EveryStep
      (fun c t => c.state.result t = some (.failed "Unexpected transaction id"))
      (Machine.start ⟨⟨1, 1⟩, registerAnswer 0⟩)
      [readRegister 1 [some (registerAnswer 0)], readRegister 2 [none, some (registerAnswer 1)]] :=
  stays_behind
    ⟨⟨isAnswer_one, registerAnswer 1, by decide⟩,
      ⟨⟨rfl, rfl, by decide, rfl⟩, registerAnswer 2, by decide⟩, trivial⟩
    ⟨⟨0, [], rfl⟩, ⟨1, [], rfl⟩, trivial⟩ isAnswer_zero

end Runs

end ModbusClient

end Stdiolink.Modbus
