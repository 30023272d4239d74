/-
  Stdiolink.Js.DriverProxy — the commands of an `openDriver` proxy.

  `proxy/driver_proxy.cpp` over the schedulers.  A command is an asynchronous function: it runs up
  to an `await`, and goes on in a job when the promise that it awaits has been settled.  Settled
  promises make jobs, which run first in, first out.

  Without a timeout a command awaits `__scheduleTask(task)` once; with one it awaits
  `__waitAny([task], remaining)` in a loop, until what `resolveTerminalMessage` returns is not null.

  Only the proxy holds the task of a command, so the operations of the script name other tasks.
-/
import Stdiolink.Js.JsConvert
import Stdiolink.Js.Schedulers

namespace Stdiolink.Js

open Stdiolink.Lib
open Stdiolink.Protocol
open Stdiolink.Host

/-! ## §1. Values of JavaScript. -/

/-- `ToInt32`, of a non-negative integer. -/
def toInt32 (n : Nat) : Int :=
  if n % 0x100000000 < 0x80000000 then (n % 0x100000000 : Nat)
  else (n % 0x100000000 : Nat) - 0x100000000

/-- An `Error`: the argument of its constructor, and the fields that were set. -/
structure JsError where
  message : JsValue
  code : Option JsValue := none
  data : Option JsValue := none

/-- How the promise of a command is settled. -/
inductive CommandResult where
  | resolved (value : JsValue)
  | rejected (error : JsError)

/-! ## §2. The answer of a task. -/

/-- `terminalError(task, cmd)`. -/
def terminalError (host : HostState) (cmd : String) (task : Nat) : JsError where
  message :=
    if (host.tasks task).errorText ≠ "" then .str (host.tasks task).errorText
    else .str ("driver exited during command: " ++ cmd)
  code := some (.num (if (host.tasks task).terminal then (host.tasks task).exitCode else -1))

/-- The error of a message with the status error. -/
def messageError (cmd : String) (msg : Message) : JsError :=
  let message := (qjsonToJsValue msg.payload).getProperty "message"
  { message := if message.truthy then message else .str ("Command failed: " ++ cmd)
    code := some (.num msg.code)
    data := some (qjsonToJsValue msg.payload) }

/-- What `resolveTerminalMessage` returns or throws for a message. -/
def answer (cmd : String) (msg : Message) : Except JsError JsValue :=
  match msg.status with
  | .event => .ok .null
  | .error => .error (messageError cmd msg)
  | .done => .ok (qjsonToJsValue msg.payload)

/-- What it throws where there is no message, and whether it calls `target.terminate()`. -/
def noAnswer (host : HostState) (cmd : String) (task timeoutMs : Nat) : JsError × Bool :=
  if host.isDone task then (terminalError host cmd task, false)
  else if timeoutMs > 0 then
    ({ message := .str ("Command timeout: " ++ cmd ++ " (" ++ toString timeoutMs ++ "ms)")
       code := some (.str "ETIMEDOUT") }, true)
  else ({ message := .str ("Command ended without terminal response: " ++ cmd) }, false)

/-! ## §3. The service. -/

/-- A command, from the call of the proxy on. -/
structure Command where
  driver : Nat
  cmd : String
  task : Nat
  timeoutMs : Nat
  deadline : Nat
  awaiting : Nat
  result : Option CommandResult := none

structure Service where
  schedulers : Schedulers := {}
  commands : List Command := []
  /-- The settled promises whose jobs have not run. -/
  jobs : List (Nat × Settlement) := []

namespace Service

/-- What the schedulers do; the promises that they settle make jobs. -/
def onSchedulers (a : Action Schedulers JsEvent) : Action Service JsEvent := fun s =>
  ({ s with
      schedulers := (a s.schedulers).1
      jobs := s.jobs ++ settlements (a s.schedulers).2 }, (a s.schedulers).2)

def setCommand (j : Nat) (command : Command) : Action Service JsEvent :=
  Action.modify fun s => { s with commands := s.commands.set j command }

/-- The asynchronous function of a command returns or throws. -/
def settle (j : Nat) (command : Command) (result : CommandResult) : Action Service JsEvent :=
  setCommand j { command with result := some result }

/-- One round of the loop, up to its `await`. -/
def awaitAny (j : Nat) (command : Command) (now : Nat) : Action Service JsEvent :=
  let remaining := command.deadline - now
  -- `__waitAny` reads its argument as an int32, and throws if that is below -1
  if toInt32 remaining < -1 then
    settle j command (.rejected { message := .str "__waitAny: timeoutMs must be >= -1" })
  else
    Action.bind fun s =>
      Action.seq (setCommand j { command with awaiting := s.schedulers.promises })
        (onSchedulers (Schedulers.waitAny [command.task] (toInt32 remaining) now))

variable (qt : Qt)

/-- `target.terminate()`: `kill`, and `waitForFinished(200)`. -/
def terminate (d : Nat) (m : HostState.Meanwhile) : Action HostState HostEvent :=
  Action.bind fun s =>
    if (s.drivers d).proc.running then HostState.waitForBytesWritten qt d m else Action.skip

/-- A command goes on with a message, or without one. -/
def goOn (j : Nat) (command : Command) (msg : Option Message) (now : Nat)
    (m : HostState.Meanwhile) : Action Service JsEvent :=
  match msg with
  | none =>
    Action.bind fun s =>
      let thrown := noAnswer s.schedulers.host command.cmd command.task command.timeoutMs
      Action.seq
        (if thrown.2 then onSchedulers (Schedulers.onHost (terminate qt command.driver m))
        else Action.skip)
        (settle j command (.rejected thrown.1))
  | some msg =>
    match answer command.cmd msg with
    | .error error => settle j command (.rejected error)
    | .ok value =>
      if command.timeoutMs ≤ 0 then settle j command (.resolved value)
      -- `if (value !== null) return value;`
      else if value ≠ .null then settle j command (.resolved value)
      else awaitAny j command now

/-- The job of a settled promise, for the command that awaits it. -/
def resume (j : Nat) (command : Command) (value : Settlement) (now : Nat)
    (m : HostState.Meanwhile) : Action Service JsEvent :=
  match value with
  | .null => goOn qt j command none now m
  | .message msg => goOn qt j command (some msg) now m
  | .item _ msg => goOn qt j command (some msg) now m
  | .refused text => settle j command (.rejected { message := .str text })

/-- The command awaits this promise. -/
def awaits (p : Nat) (command : Command) : Bool :=
  command.result.isNone && command.awaiting = p

/-- `executePendingJobs`: the first job runs. -/
def runJob (now : Nat) (m : HostState.Meanwhile) : Action Service JsEvent := fun s =>
  match s.jobs with
  | [] => (s, [])
  | (p, value) :: jobs =>
    let s := { s with jobs := jobs }
    match s.commands.findIdx? (awaits p) with
    -- the promise is one of the script's own
    | none => (s, [])
    | some j =>
      match s.commands[j]? with
      | none => (s, [])
      | some command => resume qt j command value now m s

/-- A request of the driver is in flight. -/
def busy (s : Service) (d : Nat) : Bool :=
  s.commands.any fun command => command.driver = d && command.result.isNone

/-- A command of the proxy is called. -/
def call (d : Nat) (cmd : String) (data : Json) (written : Bool) (m : HostState.Meanwhile)
    (timeoutMs now : Nat) : Action Service JsEvent := fun s =>
  -- DriverBusyError
  if s.busy d then (s, [])
  else
    let requested := onSchedulers
      (Schedulers.onHost (HostState.request qt d cmd data written m)) s
    let command : Command := {
      driver := d
      cmd := cmd
      task := s.schedulers.host.created
      timeoutMs := timeoutMs
      deadline := now + timeoutMs
      awaiting := s.schedulers.promises }
    Action.extend
      (Action.extend requested
        (Action.modify fun s => { s with commands := s.commands ++ [command] }))
      (if timeoutMs ≤ 0 then onSchedulers (Schedulers.scheduleTask command.task)
      else awaitAny s.commands.length command now)

end Service

/-! ## §4. The service as a machine. -/

/-- The tasks that an operation of the script names. -/
def SchedulerOp.names : SchedulerOp → List Nat
  | .waitAny tasks _ _ => tasks
  | .scheduleTask k => [k]
  | .tryNext k => [k]
  | .waitNext k _ => [k]
  | _ => []

inductive ServiceOp where
  | call (driver : Nat) (cmd : String) (data : Json) (written : Bool)
      (meanwhile : HostState.Meanwhile) (timeoutMs now : Nat)
  | runJob (now : Nat) (meanwhile : HostState.Meanwhile)
  /-- A poll, or what the script and the processes do. -/
  | other (op : SchedulerOp)

/-- The script can name these tasks: they exist, and are not the proxies' own. -/
def Service.mayName (s : Service) (ks : List Nat) : Bool :=
  ks.all fun k => k < s.schedulers.host.created && k ∉ s.commands.map Command.task

def ServiceOp.action (qt : Qt) : ServiceOp → Action Service JsEvent
  | .call d cmd data written m timeoutMs now => Service.call qt d cmd data written m timeoutMs now
  | .runJob now m => Service.runJob qt now m
  | .other op =>
    Action.bind fun s =>
      if s.mayName op.names then Service.onSchedulers (op.action qt) else Action.skip

def serviceMachine (qt : Qt) : Machine Service ServiceOp JsEvent where
  step s op := op.action qt s

/-- A service that has just been started, with driver processes in any state. -/
def freshService (drivers : Nat → Process) : Service :=
  { schedulers := { host := freshHost drivers } }

end Stdiolink.Js
