/-
  Stdiolink.Host.Model — drivers, tasks and waits of the host side.

  `host/driver.cpp`, `host/task.cpp` and `host/wait_any.cpp`.  A driver process is what
  `QProcess` shows of it: the bytes it has written that the host has not received
  (`pipe`), those received and not read (`unread`), and whether its end has been
  noticed.  Tasks are numbered; a handle with no task behind it is invalid.

  A wait runs until it returns or enters its event loop.  A waiting loop is an entry of
  `waits`, outermost first; a signal of a process runs the `quitIfReady` slots of the
  loops connected to it, and only the innermost loop can return.
-/
import Stdiolink.Lib.Action
import Stdiolink.Lib.Machine
import Stdiolink.Lib.Lines
import Stdiolink.Protocol.Jsonl
import Mathlib.Logic.Function.Basic

namespace Stdiolink.Host

open Stdiolink.Lib
open Stdiolink.Protocol

/-! ## §1. State and events -/

/-- What the host code uses of Qt's conversions. -/
structure Qt where
  fromJson : FromJson
  fromUtf8 : List UInt8 → String

/-- A driver process, as `QProcess` shows it. -/
structure Process where
  program : String := ""
  running : Bool := true
  exitCode : Int := 0
  crashed : Bool := false
  pipe : List UInt8 := []
  unread : List UInt8 := []

/-- `Driver`; `cur` is the task of `m_cur`. -/
structure Driver where
  proc : Process := {}
  buf : List UInt8 := []
  cur : Option Nat := none

structure TaskState where
  terminal : Bool := false
  exitCode : Int := 0
  errorText : String := ""
  finalPayload : Json := .null
  queue : List Message := []

/-- What a task tells about its end. -/
structure Outcome where
  exitCode : Int
  errorText : String
  finalPayload : Json

def TaskState.outcome (t : TaskState) : Outcome := ⟨t.exitCode, t.errorText, t.finalPayload⟩

/-- A `waitNext` or `waitAnyNext` in its event loop, with the drivers whose signals are
connected to it. -/
structure Wait where
  tasks : List Nat
  drivers : List Nat
  quit : Bool := false
  timedOut : Bool := false

/-- The host.  Tasks from `created` on do not exist. -/
structure HostState where
  drivers : Nat → Driver := fun _ => {}
  tasks : Nat → TaskState := fun _ => {}
  owner : Nat → Nat := fun _ => 0
  created : Nat := 0
  waits : List Wait := []

/-- Where a message comes from: a line read from a driver, or the host itself. -/
inductive Origin where
  | line (driver : Nat) (bytes : List UInt8)
  | host
  deriving Repr, DecidableEq

inductive HostEvent where
  | requested (driver task : Nat) (cmd : String) (data : Json) (sent : Bool)
  /-- `pumpStdout` goes to work.  It is stale when the current task has ended and the
  buffer overflows or holds a complete line. -/
  | pumping (driver : Nat) (stale overflow : Bool)
  /-- A message is appended to the queue of a task, which then has this outcome. -/
  | pushed (task : Nat) (message : Message) (outcome : Outcome) (origin : Origin)
  /-- The host gives up on a task, early when the process runs or has written bytes that
  have not been read. -/
  | gaveUp (task : Nat) (early : Bool)
  | returned (task : Nat) (message : Message)
  | waitFailed (tasks : List Nat) (timedOut : Bool)
  /-- `m_buf.clear()`, with what was in the buffer. -/
  | cleared (driver : Nat) (bytes : List UInt8)
  | wrote (driver : Nat) (bytes : List UInt8)
  | exited (driver : Nat)

namespace HostState

def setTask (s : HostState) (k : Nat) (t : TaskState) : HostState :=
  { s with tasks := Function.update s.tasks k t }

def setDriver (s : HostState) (d : Nat) (driver : Driver) : HostState :=
  { s with drivers := Function.update s.drivers d driver }

/-- `m_buf` of a driver is replaced. -/
def setBuf (s : HostState) (d : Nat) (buf : List UInt8) : HostState :=
  s.setDriver d { s.drivers d with buf := buf }

def setProc (s : HostState) (d : Nat) (proc : Process) : HostState :=
  s.setDriver d { s.drivers d with proc := proc }

/-! ## §2. Tasks -/

/-- `Task::isValid`. -/
def isValid (s : HostState) (k : Nat) : Bool := k < s.created

/-- `Task::hasQueued`. -/
def hasQueued (s : HostState) (k : Nat) : Bool := s.isValid k && !(s.tasks k).queue.isEmpty

/-- `Task::isDone`. -/
def isDone (s : HostState) (k : Nat) : Bool :=
  !s.isValid k || (s.tasks k).terminal && (s.tasks k).queue.isEmpty

/-- `Driver::isRunning`, of a task's owner. -/
def isRunning (s : HostState) (k : Nat) : Bool := (s.drivers (s.owner k)).proc.running

/-- `Driver::exitContext`. -/
def exitContext (p : Process) : String :=
  let program := if p.program.isEmpty then "<unknown>" else p.program
  let exitCode : Int := if p.running then -1 else p.exitCode
  let exitStatus :=
    if p.running then "running" else if p.crashed then "crash" else "normal"
  "program=" ++ program ++ ", exitCode=" ++ toString exitCode ++ ", exitStatus=" ++ exitStatus

/-- The text `exitedMsg` of a task's owner. -/
def exitedMsg (s : HostState) (k : Nat) : String :=
  "driver process exited without sending a response: " ++
    exitContext (s.drivers (s.owner k)).proc

/-- Append a message and write the other fields with `settle`. -/
def push (k : Nat) (origin : Origin) (msg : Message) (settle : TaskState → TaskState) :
    Action HostState HostEvent := fun s =>
  let t := settle { s.tasks k with queue := (s.tasks k).queue ++ [msg] }
  (s.setTask k t, [.pushed k msg t.outcome origin])

/-- The text in an error's payload, if it has one. -/
def messageText (payload : Json) (default : String) : String :=
  match payload with
  | .obj members =>
      if Json.hasKey members "message" then (Json.value members "message").toStr else default
  | _ => default

/-- `Driver::pushError`, for the current task `k`. -/
def pushError (k : Nat) (origin : Origin) (code : Int) (payload : List (String × Json)) :
    Action HostState HostEvent :=
  push k origin ⟨.error, code, .obj payload⟩ fun t =>
    { t with
      terminal := true
      exitCode := code
      finalPayload := .obj payload
      errorText := messageText (.obj payload) t.errorText }

/-- `Task::forceTerminal`. -/
def forceTerminal (k : Nat) (code : Int) (error : String) : Action HostState HostEvent :=
  Action.bind fun s =>
    if !s.isValid k || (s.tasks k).terminal then Action.skip
    else
      push k .host ⟨.error, code, .obj [("message", .str error)]⟩ fun t =>
        { t with
          terminal := true
          exitCode := code
          errorText := error
          finalPayload := .obj [("message", .str error)] }

/-- The owner's process runs, or not all it has written has been read. -/
def isEarly (s : HostState) (k : Nat) : Bool :=
  let proc := (s.drivers (s.owner k)).proc
  proc.running || !proc.pipe.isEmpty || !proc.unread.isEmpty

/-- `forceTerminal` for a process that has gone. -/
def abandon (k : Nat) : Action HostState HostEvent :=
  Action.bind fun s =>
    if !s.isValid k || (s.tasks k).terminal then Action.skip
    else
      Action.seq (Action.emit fun s => .gaveUp k (s.isEarly k))
        (forceTerminal k 1001 (s.exitedMsg k))

/-- The test of `tryNext` and of the waits that makes the host give up on a task. -/
def givesUp (s : HostState) (k : Nat) : Bool :=
  s.isValid k && (s.tasks k).queue.isEmpty && !(s.tasks k).terminal && !s.isRunning k

/-- Give up on a task whose process has gone. -/
def giveUp (k : Nat) : Action HostState HostEvent :=
  Action.bind fun s => if s.givesUp k then abandon k else Action.skip

/-- Take the first message off the queue. -/
def take (k : Nat) : Action HostState HostEvent := fun s =>
  match (s.tasks k).queue with
  | [] => (s, [])
  | m :: rest =>
      if s.isValid k then (s.setTask k { s.tasks k with queue := rest }, [.returned k m])
      else (s, [])

/-- `Task::tryNext`. -/
def tryNext (k : Nat) : Action HostState HostEvent := Action.seq (giveUp k) (take k)

/-- What `tryNext` returns; when it is false, `tryNext` has changed nothing. -/
def offers (s : HostState) (k : Nat) : Bool := s.hasQueued k || s.givesUp k

/-- `tryNext` of one task after another, until one has a message. -/
def tryEach : List Nat → Action HostState HostEvent
  | [] => Action.skip
  | k :: ks => Action.bind fun s => if s.offers k then tryNext k else tryEach ks

/-! ## §3. Reading the driver's output -/

section Pump

variable (qt : Qt)

/-- `Driver::kMaxOutputBufferBytes`. -/
def maxOutputBufferBytes : Nat := 8 * 1024 * 1024

/-- The branch of `pumpStdout` for a parsed message, up to `m_cur.reset()`. -/
def acceptMessage (k : Nat) (origin : Origin) (msg : Message) : Action HostState HostEvent :=
  push k origin msg fun t =>
    if msg.isTerminal then
      { t with
        terminal := true
        exitCode := msg.code
        finalPayload := msg.payload
        errorText :=
          if msg.status = .error then messageText msg.payload t.errorText else t.errorText }
    else t

/-- `m_cur.reset()`. -/
def resetCur (d : Nat) : Action HostState HostEvent :=
  Action.modify fun s => s.setDriver d { s.drivers d with cur := none }

/-- The body of the loop of `pumpStdout`; it stops after an invalid line and after the end
of the task. -/
def pumpLine (d k : Nat) (acc : HostState × List HostEvent) (line : List UInt8) :
    (HostState × List HostEvent) × Bool :=
  match parseResponse qt.fromJson line with
  -- an invalid line ends the task; m_cur is kept
  | none =>
      (Action.extend acc (pushError k (.line d line) 1000
        [("message", .str "invalid response"), ("raw", .str (qt.fromUtf8 line))]), true)
  | some msg =>
      if msg.isTerminal then
        -- m_cur is reset only on this branch
        (Action.extend (Action.extend acc (acceptMessage k (.line d line) msg)) (resetCur d), true)
      else (Action.extend acc (acceptMessage k (.line d line) msg), false)

/-- The loop `while (tryReadLine(line))`. -/
def readLines (d k : Nat) : Action HostState HostEvent := fun s =>
  let out := forLines newline (pumpLine qt d k) (s, []) (s.drivers d).buf
  (out.1.1.setBuf d out.2, out.1.2)

/-- `m_buf.clear()`. -/
def clearBuf (d : Nat) : Action HostState HostEvent :=
  Action.seq (Action.emit fun s => .cleared d (s.drivers d).buf)
    (Action.modify fun s => s.setBuf d [])

/-- The buffer is too long. -/
def overflows (s : HostState) (d : Nat) : Bool := (s.drivers d).buf.length > maxOutputBufferBytes

/-- `m_buf.append(m_proc.readAllStandardOutput())`. -/
def readAll (d : Nat) : Action HostState HostEvent :=
  Action.modify fun s =>
    s.setDriver d
      { s.drivers d with
        buf := (s.drivers d).buf ++ (s.drivers d).proc.unread
        proc := { (s.drivers d).proc with unread := [] } }

/-- A pump that finds work for a task that has ended. -/
def stale (s : HostState) (d k : Nat) : Bool :=
  -- m_cur outlives the task after an invalid line
  (s.tasks k).terminal && (s.overflows d || (s.drivers d).buf.contains newline)

/-- `Driver::pumpStdout`. -/
def pumpStdout (d : Nat) : Action HostState HostEvent :=
  Action.bind fun s =>
    match (s.drivers d).cur with
    -- without a current task nothing is read: the bytes stay in the process
    | none => Action.skip
    | some k =>
        Action.seq (readAll d)
          (Action.seq (Action.emit fun s => .pumping d (s.stale d k) (s.overflows d))
            (Action.bind fun s =>
              -- the limit is tested before the lines, so complete lines are dropped with the rest
              if s.overflows d then
                Action.seq
                  (pushError k .host 1002
                    [("channel", .str "stdout"), ("limit", .num maxOutputBufferBytes),
                      ("message", .str "output buffer overflow")])
                  (clearBuf d)
              else readLines qt d k))

/-- `t.owner()->pumpStdout()`. -/
def pumpOwner (k : Nat) : Action HostState HostEvent :=
  Action.bind fun s => if s.isValid k then pumpStdout qt (s.owner k) else Action.skip

/-! ## §4. Waits -/

/-- `hasQueued() || isDone()` over the tasks of a wait: when its loop is left. -/
def ready (s : HostState) (ks : List Nat) : Bool := ks.any s.hasQueued || ks.all s.isDone

/-- `quitIfReady`, up to `loop.quit()`. -/
def quitIfReady (ks : List Nat) : Action HostState HostEvent :=
  Action.seq (Action.forEach ks (pumpOwner qt)) (Action.forEach ks giveUp)

/-- The slot of the wait number `i`. -/
def slot (d i : Nat) : Action HostState HostEvent :=
  Action.bind fun s =>
    match s.waits[i]? with
    | none => Action.skip
    | some w =>
      -- the slots of outer waits run too, while an inner loop does
      if d ∈ w.drivers then
        Action.seq (quitIfReady qt w.tasks)
          (Action.modify fun s =>
            { s with waits := s.waits.set i { w with quit := w.quit || s.ready w.tasks } })
      else Action.skip

/-- A signal of the process of driver `d`. -/
def notify (d : Nat) : Action HostState HostEvent :=
  Action.bind fun s => Action.forEach (List.range s.waits.length) (slot qt d)

/-- The pre-check of `waitAnyNext`, for one task. -/
def preCheck (k : Nat) : Action HostState HostEvent :=
  Action.bind fun s =>
    -- a running process is left to the signals
    if s.isValid k && !s.isDone k && !s.isRunning k then
      Action.seq (pumpOwner qt k)
        (Action.bind fun s => if !s.hasQueued k then abandon k else Action.skip)
    else Action.skip

/-- The drivers whose signals a wait connects. -/
def connected (s : HostState) (ks : List Nat) : List Nat :=
  (ks.filter fun k => s.isValid k && !s.isDone k).map s.owner

/-- One round of checks: a message, or nothing more to come, or go on. -/
def check (ks : List Nat) (goOn : Action HostState HostEvent) : Action HostState HostEvent :=
  Action.bind fun s =>
    if ks.any s.offers then tryEach ks
    else if ks.all s.isDone then Action.emit fun _ => .waitFailed ks false
    else goOn

/-- `loop.exec()`. -/
def enterLoop (ks drivers : List Nat) : Action HostState HostEvent :=
  -- the innermost loop is the last of the list
  Action.modify fun s => { s with waits := s.waits ++ [{ tasks := ks, drivers := drivers }] }

/-- `waitAnyNext`, until it returns or enters its loop. -/
def waitAnyNext (ks : List Nat) : Action HostState HostEvent :=
  check ks
    (Action.seq (Action.forEach ks (pumpOwner qt))
      (check ks
        (Action.bind fun s =>
          Action.seq (Action.forEach ks (preCheck qt))
            (check ks (enterLoop ks (s.connected ks))))))

/-- `Task::waitNext`, until it returns or enters its loop. -/
def waitNext (k : Nat) : Action HostState HostEvent :=
  check [k]
    (Action.seq (pumpOwner qt k)
      (check [k]
        -- the process is looked at only after a pump
        (Action.bind fun s =>
          if s.isRunning k then enterLoop [k] [s.owner k]
          else
            Action.seq (pumpOwner qt k)
              (Action.bind fun s =>
                if s.offers k then tryNext k
                else Action.seq (abandon k) (tryNext k)))))

/-- The innermost loop has been quit: its wait returns. -/
def resume : Action HostState HostEvent := fun s =>
  match s.waits.getLast? with
  | none => (s, [])
  | some w =>
    -- only the innermost loop can return; outer ones wait for it
    if w.quit then
      Action.bind (fun s =>
        if w.tasks.any s.offers then tryEach w.tasks
        else Action.emit fun _ => .waitFailed w.tasks w.timedOut)
        { s with waits := s.waits.dropLast }
    else (s, [])

/-- The timer of a wait fires, or its break flag is seen. -/
def expire (i : Nat) : Action HostState HostEvent :=
  Action.modify fun s =>
    match s.waits[i]? with
    | none => s
    | some w => { s with waits := s.waits.set i { w with quit := true, timedOut := true } }

/-! ## §5. The process -/

/-- The process writes to its standard output. -/
def write (d : Nat) (bytes : List UInt8) : Action HostState HostEvent :=
  Action.seq
    (Action.modify fun s =>
      s.setProc d { (s.drivers d).proc with pipe := (s.drivers d).proc.pipe ++ bytes })
    (Action.emit fun _ => .wrote d bytes)

/-- `QProcess` takes at most `n` bytes from the pipe. -/
def receive (d n : Nat) : Action HostState HostEvent :=
  Action.modify fun s =>
    s.setProc d
      { (s.drivers d).proc with
        unread := (s.drivers d).proc.unread ++ (s.drivers d).proc.pipe.take n
        pipe := (s.drivers d).proc.pipe.drop n }

/-- `readyReadStandardOutput`, if there is something to receive. -/
def deliver (d n : Nat) : Action HostState HostEvent :=
  Action.bind fun s =>
    if ((s.drivers d).proc.pipe.take n).isEmpty then Action.skip
    else Action.seq (receive d n) (notify qt d)

/-- The process is known to have ended. -/
def markExited (d : Nat) (exitCode : Int) (crashed : Bool) : Action HostState HostEvent :=
  Action.seq
    (Action.modify fun s =>
      s.setProc d
        { (s.drivers d).proc with running := false, exitCode := exitCode, crashed := crashed })
    (Action.emit fun _ => .exited d)

/-- `finished`, once. -/
def observeExit (d : Nat) (exitCode : Int) (crashed : Bool) : Action HostState HostEvent :=
  Action.bind fun s =>
    if (s.drivers d).proc.running then
      Action.seq (markExited d exitCode crashed) (notify qt d)
    else Action.skip

/-- What may happen while `request` waits for its bytes to be written. -/
structure Meanwhile where
  wrote : List UInt8 := []
  received : Nat := 0
  exited : Option (Int × Bool) := none

/-- `m_proc.waitForBytesWritten(10)`. -/
def waitForBytesWritten (d : Nat) (m : Meanwhile) : Action HostState HostEvent :=
  Action.seq (write d m.wrote)
    (Action.seq (deliver qt d m.received)
      (match m.exited with
      | none => Action.skip
      | some (exitCode, crashed) => observeExit qt d exitCode crashed))

/-- `request` on a task that cannot be answered. -/
def requestError (k : Nat) (text : String) : Action HostState HostEvent :=
  Action.bind fun s =>
    Action.seq (Action.emit fun s => .gaveUp k (s.isEarly k))
      (pushError k .host 1001 [("message", .str (text ++ exitContext (s.drivers (s.owner k)).proc))])

/-- The test of `request` after the write, on the current task.  `m_cur` is gone here only
when an outer wait on the driver has read the whole answer.  The code then follows a null
pointer; a run in which it does is left out by asking for the `handle`. -/
def checkSent (d : Nat) : Action HostState HostEvent :=
  Action.bind fun s =>
    match (s.drivers d).cur with
    | none => Action.skip
    | some k =>
        if !(s.drivers d).proc.running && !(s.tasks k).terminal then
          requestError k "driver process exited while sending request: "
        else Action.skip

/-- `m_cur = std::make_shared<TaskState>()`. -/
def newTask (d : Nat) : Action HostState HostEvent :=
  Action.modify fun s =>
    { s with
      tasks := Function.update s.tasks s.created {}
      owner := Function.update s.owner s.created d
      drivers := Function.update s.drivers d { s.drivers d with cur := some s.created }
      created := s.created + 1 }

/-- `Driver::request`; `written` is whether `m_proc.write` succeeds. -/
def request (d : Nat) (cmd : String) (data : Json) (written : Bool) (m : Meanwhile) :
    Action HostState HostEvent :=
  Action.bind fun s =>
    let k := s.created
    Action.seq (newTask d)
      (Action.seq (Action.emit fun _ => .requested d k cmd data written)
        (Action.seq
          -- the task exists before the write is tried
          (if !written then requestError k "failed to write request: "
          else
            Action.seq
              (Action.bind fun s =>
                if (s.drivers d).proc.running then waitForBytesWritten qt d m else Action.skip)
              (checkSent d))
          -- what a pump read meanwhile is cleared with the old bytes
          (clearBuf d)))

/-- The handle `{this, m_cur}` that `request` returns, in the state it leaves.  With `m_cur`
gone it is invalid: nobody can read the messages of the task any more. -/
def handle (s : HostState) (d : Nat) : Option Nat := (s.drivers d).cur

end Pump

end HostState

/-! ## §6. The host as a machine -/

inductive HostOp where
  | request (driver : Nat) (cmd : String) (data : Json) (written : Bool)
      (meanwhile : HostState.Meanwhile)
  | pumpStdout (driver : Nat)
  | tryNext (task : Nat)
  | waitNext (task : Nat)
  | waitAnyNext (tasks : List Nat)
  | forceTerminal (task : Nat) (code : Int) (error : String)
  | expire (wait : Nat)
  | resume
  | write (driver : Nat) (bytes : List UInt8)
  | deliver (driver n : Nat)
  | observeExit (driver : Nat) (exitCode : Int) (crashed : Bool)

def HostOp.action (qt : Qt) : HostOp → Action HostState HostEvent
  | .request d cmd data written m => HostState.request qt d cmd data written m
  | .pumpStdout d => HostState.pumpStdout qt d
  | .tryNext k => HostState.tryNext k
  | .waitNext k => HostState.waitNext qt k
  | .waitAnyNext ks => HostState.waitAnyNext qt ks
  | .forceTerminal k code error => HostState.forceTerminal k code error
  | .expire i => HostState.expire i
  | .resume => HostState.resume
  | .write d bytes => HostState.write d bytes
  | .deliver d n => HostState.deliver qt d n
  | .observeExit d exitCode crashed => HostState.observeExit qt d exitCode crashed

/-- The host as a machine. -/
def hostMachine (qt : Qt) : Machine HostState HostOp HostEvent where
  step s op := op.action qt s

end Stdiolink.Host
