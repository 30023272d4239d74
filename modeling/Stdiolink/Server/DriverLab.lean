/-
  Stdiolink.Server.DriverLab — one DriverLab connection, `http/driverlab_ws_connection.cpp`.

  A connection joins a web socket to a driver process.  Messages of the client, the signals of the
  process and those of the socket change the same pointer `m_process`; an `exec` is written to the
  process, which is restarted for it first where it has exited and the mode is one-shot.

  What the environment decides is part of the inputs: the clock, whether a start fails at once, and
  whether a process that is killed has finished in time.

  Main results:
    * `answered_iff` — one step: where an `exec` is answered, or written to a live process;
    * `execs_answered_iff` — every step of a run, from the state of the step alone;
    * `suppressed_restart_writes` — the third rapid crash: the restart is suppressed, and the
      command is written all the same.
-/
import Stdiolink.Lib.Action
import Stdiolink.Lib.Bytes
import Stdiolink.Protocol.JsonlStream

namespace Stdiolink.Server

open Stdiolink.Lib
open Stdiolink.Protocol

/-! ## §1. The connection -/

/-- `QProcess::ProcessState`, of the process of a driver. -/
inductive DriverProcessState where
  | starting
  | running
  | notRunning
  deriving DecidableEq

/-- The process behind `m_process`, with what its `started` handler has captured. -/
structure DriverProcess where
  state : DriverProcessState := .starting
  pid : Int := 0
  /-- `closeWriteChannel` has not been called; behind it every write fails. -/
  writable : Bool := true
  queryMeta : Bool
  isRestart : Bool
  deriving DecidableEq

structure DriverLabWsConnection where
  driverId : String
  runMode : String
  /-- The socket is in `ConnectedState`. -/
  connected : Bool := true
  process : Option DriverProcess := none
  stdoutBuffer : List UInt8 := []
  metaSent : Bool := false
  closing : Bool := false
  consecutiveFastCrashes : Nat := 0
  lastDriverStart : Int := 0
  restartSuppressed : Bool := false
  lastExitWasCrash : Bool := false
  isRestarting : Bool := false

/-- What can be seen of a connection.  A write carries the process as it is then. -/
inductive LabEvent where
  | sent (msg : List (String × Json))
  | wrote (process : Option DriverProcess) (line : List UInt8)
  | socketClosed (reason : String)
  | closed
  deriving DecidableEq

/-- What a connection uses of Qt. -/
structure LabQt where
  fromJson : FromJson
  toJson : ToJson
  fromUtf8 : List UInt8 → String

/-- How `QProcess::start` goes: a signal follows later, or `errorOccurred` comes before it returns.
In the second case the socket is closed, and may be disconnected at once. -/
inductive StartOutcome where
  | pending
  | failsAtOnce (errorString : String) (disconnects : Bool)
  deriving DecidableEq

abbrev LabAction := Action DriverLabWsConnection LabEvent

namespace DriverLabWsConnection

open Lib.Action (skip modify emit seq bind)

def kMaxOutputBufferBytes : Nat := 8 * 1024 * 1024
def kMaxRapidCrashes : Nat := 3
def kRapidCrashWindowMs : Int := 2000

/-- `m_process && m_process->state() != QProcess::NotRunning`. -/
def isLive (s : DriverLabWsConnection) : Bool :=
  match s.process with
  | none => false
  | some p => p.state ≠ .notRunning

def sendJson (msg : List (String × Json)) : LabAction :=
  bind fun s => if s.connected then emit fun _ => .sent msg else skip

def sendError (message : String) : LabAction :=
  sendJson (Json.record [("type", .str "error"), ("message", .str message)])

/-- `m_socket->close`. -/
def closeSocket (reason : String) : LabAction :=
  bind fun s =>
    if s.connected then
      seq (modify fun s => { s with connected := false }) (emit fun _ => .socketClosed reason)
    else skip

def onDriverFinished (exitCode : Int) (crashed : Bool) : LabAction :=
  bind fun s =>
    if s.closing then skip
    else
      let reason := if crashed then "driver crashed" else "driver exited normally"
      seq (modify fun s => { s with lastExitWasCrash := crashed || exitCode ≠ 0 })
        (seq (sendJson (Json.record [("type", .str "driver.exited"), ("exitCode", .num exitCode),
            ("exitStatus", .str (if crashed then "crash" else "normal")), ("reason", .str reason)]))
          (if s.runMode = "keepalive" then closeSocket reason else skip))

/-- `stopDriver`; `killed` is the exit code of a process that is killed, unless it has not finished
in time. -/
def stopDriver (killed : Option Int) : LabAction :=
  bind fun s =>
    seq
      (if s.isLive then
        match killed with
        | some exitCode => onDriverFinished exitCode true
        | none => skip
      else skip)
      (modify fun s => { s with process := none })

def onSocketDisconnected (killed : Option Int) : LabAction :=
  seq (modify fun s => { s with connected := false, closing := true })
    (seq (stopDriver killed) (emit fun _ => .closed))

def onDriverErrorOccurred (errorString : String) : LabAction :=
  bind fun s =>
    if s.closing then skip
    else seq (sendError ("driver failed to start: " ++ errorString)) (closeSocket "driver start failed")

/-- The state of the process changes. -/
def setProcess (f : DriverProcess → DriverProcess) : LabAction :=
  modify fun s => { s with process := s.process.map f }

def startDriver (queryMeta : Bool) (now : Int) (outcome : StartOutcome) : LabAction :=
  seq
    (modify fun s => { s with
      process := some { queryMeta := queryMeta, isRestart := s.isRestarting }
      lastDriverStart := now
      metaSent := !queryMeta
      stdoutBuffer := []
      isRestarting := false })
    (match outcome with
    | .pending => skip
    | .failsAtOnce errorString disconnects =>
        seq (setProcess fun p => { p with state := .notRunning })
          (seq (onDriverErrorOccurred errorString)
            (if disconnects then onSocketDisconnected none else skip)))

/-- The crashes in a row, with the one that made this restart necessary. -/
def countCrashes (s : DriverLabWsConnection) (now : Int) : Nat :=
  if s.lastExitWasCrash then
    if now - s.lastDriverStart < kRapidCrashWindowMs then s.consecutiveFastCrashes + 1 else 0
  else 0

def restartDriverForOneShot (now : Int) (outcome : StartOutcome) : LabAction :=
  seq (modify fun s => { s with consecutiveFastCrashes := s.countCrashes now })
    (bind fun s =>
      if s.consecutiveFastCrashes ≥ kMaxRapidCrashes then
        seq (modify fun s => { s with restartSuppressed := true })
          (sendError "driver restart suppressed: too many rapid crashes")
      else
        seq (modify fun s => { s with process := none, isRestarting := true })
          (startDriver false now outcome))

variable (qt : LabQt)

/-- The end of `handleExecMessage`. -/
def writeCommand (msg : List (String × Json)) : LabAction :=
  let cmd := Json.put [] ("cmd", Json.value msg "cmd")
  let cmd := if Json.hasKey msg "data" then Json.put cmd ("data", Json.value msg "data") else cmd
  emit fun s => .wrote s.process (qt.toJson cmd ++ [newline])

def handleExecMessage (msg : List (String × Json)) (now : Int) (outcome : StartOutcome) :
    LabAction :=
  bind fun s =>
    if !s.isLive then
      if s.runMode = "oneshot" then
        if s.restartSuppressed then sendError "driver restart suppressed due to rapid crashes"
        else seq (restartDriverForOneShot now outcome) (writeCommand qt msg)
      else sendError "driver is not running"
    else writeCommand qt msg

def handleCancelMessage : LabAction :=
  bind fun s => if s.isLive then setProcess fun p => { p with writable := false } else skip

def onTextMessageReceived (text : List UInt8) (now : Int) (outcome : StartOutcome) : LabAction :=
  match qt.fromJson text with
  | some (.obj msg) =>
      let type := (Json.value msg "type").toStr
      if type = "exec" then handleExecMessage qt msg now outcome
      else if type = "cancel" then handleCancelMessage
      else sendError ("unknown message type: " ++ type)
  | _ => sendError "invalid JSON"

/-- The handler of `QProcess::started`. -/
def onDriverStarted (pid : Int) : LabAction :=
  seq (setProcess fun p => { p with state := .running, pid := pid })
    (bind fun s =>
      match s.process with
      | none => skip
      | some p =>
          seq
            (if p.isRestart then
              sendJson (Json.record [("type", .str "driver.restarted"), ("pid", .num pid),
                ("reason", .str "oneshot auto-restart")])
            else sendJson (Json.record [("type", .str "driver.started"), ("pid", .num pid)]))
            (if p.queryMeta then
              emit fun s => .wrote s.process
                (plainText "\x7b\x22cmd\x22:\x22meta.describe\x22,\x22data\x22:\x7b\x7d\x7d\n")
            else skip))

def forwardStdoutLine (line : List UInt8) : LabAction :=
  sendJson (Json.record [("type", .str "stdout"), ("message",
    match qt.fromJson line with
    | some (.obj obj) => .obj obj
    | _ => .str (qt.fromUtf8 line))])

/-- What a line is if it is the answer to the query for metadata. -/
def metaAnswer (line : List UInt8) : Option Json :=
  match qt.fromJson line with
  | some (.obj obj) =>
      if (Json.value obj "status").toStr = "done" then some (Json.value obj "data") else none
  | _ => none

/-- One line of the driver. -/
def handleLine (line : List UInt8) : LabAction :=
  if trimmed line = [] then skip
  else
    bind fun s =>
      match if s.metaSent then none else metaAnswer qt (trimmed line) with
      | some data =>
          seq (modify fun s => { s with metaSent := true })
            (sendJson (Json.record [("type", .str "meta"), ("driverId", .str s.driverId),
              ("pid", .num ((s.process.map DriverProcess.pid).getD 0)),
              ("runMode", .str s.runMode), ("meta", data)]))
      | none => forwardStdoutLine qt (trimmed line)

/-- The loop over the complete lines. -/
def handleLines (buffer : List UInt8) : LabAction := fun s =>
  let r := forLines newline (fun r line => (Action.extend r (handleLine qt line), false)) (s, []) buffer
  ({ r.1.1 with stdoutBuffer := r.2 }, r.1.2)

def onDriverStdoutReady (chunk : List UInt8) (killed : Option Int) : LabAction :=
  bind fun s =>
    let buffer := s.stdoutBuffer ++ chunk
    if buffer.length > kMaxOutputBufferBytes then
      seq (sendJson (Json.record [("type", .str "error"), ("message", .str "output buffer overflow"),
          ("channel", .str "stdout"), ("limit", .num kMaxOutputBufferBytes)]))
        (seq (modify fun s => { s with stdoutBuffer := [] }) (stopDriver killed))
    else handleLines qt buffer

def closeForPongTimeout (killed : Option Int) : LabAction :=
  seq (modify fun s => { s with closing := true })
    (seq (stopDriver killed) (closeSocket "pong timeout"))

/-- The timer that runs while metadata is queried. -/
def onMetaTimeout : LabAction :=
  bind fun s => if s.metaSent then skip else sendError "meta query timeout"

end DriverLabWsConnection

/-- What happens to a connection. -/
inductive LabInput where
  | clientMessage (text : List UInt8) (now : Int) (outcome : StartOutcome)
  | driverStarted (pid : Int)
  | driverFailedToStart (errorString : String)
  | driverStdout (chunk : List UInt8) (killed : Option Int)
  | driverFinished (exitCode : Int) (crashed : Bool)
  | metaTimeout
  | socketDisconnected (killed : Option Int)
  | pongTimeout (killed : Option Int)

open DriverLabWsConnection

/-- The process is in this state. -/
def DriverLabWsConnection.processIs (s : DriverLabWsConnection) (state : DriverProcessState) : Bool :=
  (s.process.map DriverProcess.state) = some state

variable (qt : LabQt)

/-- The reaction to an input; a socket that is not connected receives nothing, and a process
signals only what its state allows. -/
def labReaction (input : LabInput) (s : DriverLabWsConnection) :
    DriverLabWsConnection × List LabEvent :=
  match input with
  | .clientMessage text now outcome =>
      if s.connected then onTextMessageReceived qt text now outcome s else (s, [])
  | .driverStarted pid => if s.processIs .starting then onDriverStarted pid s else (s, [])
  | .driverFailedToStart errorString =>
      if s.processIs .starting then
        Action.seq (setProcess fun p => { p with state := .notRunning })
          (onDriverErrorOccurred errorString) s
      else (s, [])
  | .driverStdout chunk killed =>
      if s.processIs .running then onDriverStdoutReady qt chunk killed s else (s, [])
  | .driverFinished exitCode crashed =>
      if s.processIs .running then
        Action.seq (setProcess fun p => { p with state := .notRunning, pid := 0 })
          (onDriverFinished exitCode crashed) s
      else (s, [])
  | .metaTimeout => onMetaTimeout s
  | .socketDisconnected killed => onSocketDisconnected killed s
  | .pongTimeout killed => closeForPongTimeout killed s

def driverLab : Machine DriverLabWsConnection LabInput LabEvent where
  step s input := labReaction qt input s

/-- The connection after its constructor, which starts the driver. -/
def newConnection (driverId runMode : String) (now : Int) (outcome : StartOutcome) :
    DriverLabWsConnection :=
  (startDriver true now outcome { driverId := driverId, runMode := runMode }).1

/-! ## §2. Answers -/

/-- A write to a process that is there and has not exited. -/
def LabEvent.ToLive : LabEvent → Prop
  | .wrote process _ => ∃ p, process = some p ∧ p.state ≠ .notRunning
  | _ => True

/-- A write that the process will read. -/
def LabEvent.Accepted : LabEvent → Prop
  | .wrote process _ => ∃ p, process = some p ∧ p.state ≠ .notRunning ∧ p.writable = true
  | _ => False

def LabEvent.IsError : LabEvent → Prop
  | .sent msg => Json.value msg "type" = .str "error"
  | _ => False

/-- The input is an `exec` that the connection receives. -/
def IsExec (s : DriverLabWsConnection) : LabInput → Prop
  | .clientMessage text _ _ =>
      s.connected = true ∧
        ∃ msg, qt.fromJson text = some (.obj msg) ∧ Json.value msg "type" = .str "exec"
  | _ => False

/-- **An exec is answered**: it is written to a process that reads it, or the client gets an error;
and nothing is written to a missing or dead process. -/
def Answered (s : DriverLabWsConnection) (input : LabInput) : Prop :=
  let events := (labReaction qt input s).2
  (IsExec qt s input → (∃ e ∈ events, e.Accepted) ∨ ∃ e ∈ events, e.IsError) ∧
    ∀ e ∈ events, e.ToLive

/-- The process has crashed again shortly after its start, for the third time in a row. -/
def ThirdRapidCrash (s : DriverLabWsConnection) (now : Int) : Prop :=
  s.lastExitWasCrash = true ∧ now - s.lastDriverStart < kRapidCrashWindowMs ∧
    kMaxRapidCrashes ≤ s.consecutiveFastCrashes + 1

/-- The state before an `exec` allows it to be answered: a live process can still be written to; and
one that has to be restarted has not crashed for the third time, and its start does not fail at
once. -/
def CanAnswer (s : DriverLabWsConnection) (input : LabInput) : Prop :=
  IsExec qt s input →
    match input with
    | .clientMessage _ now outcome =>
        (∀ p, s.process = some p → p.state ≠ .notRunning → p.writable = true) ∧
          (s.isLive = false → s.runMode = "oneshot" → s.restartSuppressed = false →
            ¬ ThirdRapidCrash s now ∧ outcome = .pending)
    | _ => True

/-! ## §3. Actions that write nothing -/

/-- Nothing has been written to a process. -/
def Silent (events : List LabEvent) : Prop := ∀ e ∈ events, ∀ process line, e ≠ .wrote process line

theorem Silent.toLive {events : List LabEvent} (h : Silent events) : ∀ e ∈ events, e.ToLive := by
  intro e he
  cases e with
  | wrote process line => exact absurd rfl (h _ he process line)
  | sent | socketClosed | closed => trivial

/-- The action writes nothing. -/
def KeepsSilent (a : LabAction) : Prop :=
  Action.Sat (fun events _ => Silent events) a (fun events _ => Silent events)

namespace KeepsSilent

variable {a b : LabAction}

theorem events (h : KeepsSilent a) (s : DriverLabWsConnection) : Silent (a s).2 :=
  h [] s fun _ he => absurd he List.not_mem_nil

theorem skip : KeepsSilent Action.skip := Action.Sat.skip

theorem modify (f : DriverLabWsConnection → DriverLabWsConnection) :
    KeepsSilent (Action.modify f) := Action.Sat.modify fun _ _ h => h

theorem seq (ha : KeepsSilent a) (hb : KeepsSilent b) : KeepsSilent (Action.seq a b) :=
  Action.Sat.seq ha hb

theorem bind {f : DriverLabWsConnection → LabAction} (h : ∀ s, KeepsSilent (f s)) :
    KeepsSilent (Action.bind f) := Action.Sat.bind fun s => (h s).atState s

theorem ite {c : Prop} [Decidable c] (ha : KeepsSilent a) (hb : KeepsSilent b) :
    KeepsSilent (if c then a else b) := by
  split_ifs
  · exact ha
  · exact hb

theorem emit {e : DriverLabWsConnection → LabEvent}
    (he : ∀ s process line, e s ≠ .wrote process line) : KeepsSilent (Action.emit e) := by
  apply Action.Sat.emit
  intro events s hsilent e' he'
  obtain he' | he' := List.mem_append.mp he'
  · exact hsilent e' he'
  · rw [List.mem_singleton.mp he']
    exact he s

theorem sendJson (msg : List (String × Json)) : KeepsSilent (sendJson msg) :=
  bind fun _ => ite (emit fun _ _ _ => nofun) skip

theorem sendError (message : String) : KeepsSilent (sendError message) := sendJson _

theorem closeSocket (reason : String) : KeepsSilent (closeSocket reason) :=
  bind fun _ => ite (seq (modify _) (emit fun _ _ _ => nofun)) skip

theorem onDriverFinished (exitCode : Int) (crashed : Bool) :
    KeepsSilent (onDriverFinished exitCode crashed) :=
  bind fun _ => ite skip (seq (modify _) (seq (sendJson _) (ite (closeSocket _) skip)))

theorem stopDriver (killed : Option Int) : KeepsSilent (stopDriver killed) := by
  apply bind
  intro s
  apply seq
  · cases killed with
    | none => exact ite skip skip
    | some exitCode => exact ite (onDriverFinished exitCode true) skip
  · exact modify _

theorem onSocketDisconnected (killed : Option Int) : KeepsSilent (onSocketDisconnected killed) :=
  seq (modify _) (seq (stopDriver killed) (emit fun _ _ _ => nofun))

theorem onDriverErrorOccurred (errorString : String) :
    KeepsSilent (onDriverErrorOccurred errorString) :=
  bind fun _ => ite skip (seq (sendError _) (closeSocket _))

theorem startDriver (queryMeta : Bool) (now : Int) (outcome : StartOutcome) :
    KeepsSilent (startDriver queryMeta now outcome) := by
  apply seq
  · exact modify _
  · cases outcome with
    | pending => exact skip
    | failsAtOnce errorString disconnects =>
      exact seq (modify _) (seq (onDriverErrorOccurred _) (ite (onSocketDisconnected none) skip))

theorem restartDriverForOneShot (now : Int) (outcome : StartOutcome) :
    KeepsSilent (restartDriverForOneShot now outcome) :=
  seq (modify _) (bind fun _ =>
    ite (seq (modify _) (sendError _)) (seq (modify _) (startDriver false now outcome)))

theorem handleCancelMessage : KeepsSilent handleCancelMessage :=
  bind fun _ => ite (modify _) skip

theorem handleLine (line : List UInt8) : KeepsSilent (handleLine qt line) := by
  apply ite skip
  apply bind
  intro s
  split
  · exact seq (modify _) (sendJson _)
  · exact sendJson _

theorem handleLines (buffer : List UInt8) : KeepsSilent (handleLines qt buffer) := by
  intro events s hsilent
  show Silent (events ++ (forLines newline _ (s, []) buffer).1.2)
  apply forLines_rule
    (fun (r : DriverLabWsConnection × List LabEvent) (_ : List UInt8) => Silent (events ++ r.2))
    (fun (r : DriverLabWsConnection × List LabEvent) (_ : List UInt8) => Silent (events ++ r.2))
  · intro r line rest _ hr
    show Silent (events ++ (Action.extend r (DriverLabWsConnection.handleLine qt line)).2)
    rw [Action.append_extend_snd]
    exact handleLine qt line _ _ hr
  · exact fun r buffer _ hr => hr
  · simpa using hsilent

theorem onDriverStdoutReady (chunk : List UInt8) (killed : Option Int) :
    KeepsSilent (onDriverStdoutReady qt chunk killed) :=
  bind fun _ => ite (seq (sendJson _) (seq (modify _) (stopDriver killed))) (handleLines qt _)

theorem closeForPongTimeout (killed : Option Int) : KeepsSilent (closeForPongTimeout killed) :=
  seq (modify _) (seq (stopDriver killed) (closeSocket _))

theorem onMetaTimeout : KeepsSilent onMetaTimeout := bind fun _ => ite skip (sendError _)

end KeepsSilent

/-! ## §4. One step -/

/-- A command is one write. -/
theorem writeCommand_events (msg : List (String × Json)) (s : DriverLabWsConnection) :
    ∃ line, (writeCommand qt msg s).2 = [.wrote s.process line] := ⟨_, rfl⟩

variable {s : DriverLabWsConnection}

/-- A connected client gets the error. -/
theorem sendError_events (h : s.connected = true) (message : String) :
    (sendError message s).2 =
      [.sent (Json.record [("type", .str "error"), ("message", .str message)])] := by
  unfold sendError sendJson
  rw [Action.bind_apply, if_pos h]
  rfl

theorem isError_sendError (message : String) :
    (LabEvent.sent (Json.record [("type", .str "error"), ("message", .str message)])).IsError := by
  show Json.value _ "type" = _
  rw [Json.value_record (by simp)]
  rfl

@[simp] theorem sendJson_state (msg : List (String × Json)) (s : DriverLabWsConnection) :
    (sendJson msg s).1 = s := by
  unfold sendJson
  rw [Action.bind_apply]
  split_ifs <;> rfl

@[simp] theorem sendError_state (message : String) (s : DriverLabWsConnection) :
    (sendError message s).1 = s := sendJson_state _ s

@[simp] theorem process_closeSocket (reason : String) (s : DriverLabWsConnection) :
    (closeSocket reason s).1.process = s.process := by
  unfold closeSocket
  rw [Action.bind_apply]
  split_ifs <;> rfl

theorem process_onDriverErrorOccurred (errorString : String) (s : DriverLabWsConnection) :
    (onDriverErrorOccurred errorString s).1.process = s.process := by
  unfold onDriverErrorOccurred
  rw [Action.bind_apply]
  split_ifs
  · rfl
  · simp

/-- A start that fails at once leaves no live process. -/
theorem isLive_startDriver_fails (queryMeta : Bool) (now : Int) (errorString : String)
    (disconnects : Bool) (s : DriverLabWsConnection) :
    (startDriver queryMeta now (.failsAtOnce errorString disconnects) s).1.isLive = false := by
  unfold startDriver isLive
  cases disconnects with
  | false =>
    simp only [Action.seq_apply, Bool.false_eq_true, if_false, Action.skip_apply]
    rw [process_onDriverErrorOccurred]
    rfl
  | true => rfl

theorem countCrashes_iff (s : DriverLabWsConnection) (now : Int) :
    kMaxRapidCrashes ≤ s.countCrashes now ↔ ThirdRapidCrash s now := by
  unfold countCrashes ThirdRapidCrash
  split_ifs with hcrash hwindow
  · simp [hcrash, hwindow]
  · simp [hcrash, hwindow, kMaxRapidCrashes]
  · simp [hcrash, kMaxRapidCrashes]

/-- **A restart leaves a live process** unless it is suppressed or fails. -/
theorem restart_live_iff (hdead : s.isLive = false) (now : Int) (outcome : StartOutcome) :
    (restartDriverForOneShot now outcome s).1.isLive = true ↔
      ¬ ThirdRapidCrash s now ∧ outcome = .pending := by
  rw [← countCrashes_iff]
  unfold restartDriverForOneShot
  rw [Action.seq_apply, Action.modify_apply]
  dsimp only
  rw [Action.bind_apply]
  by_cases hthird : kMaxRapidCrashes ≤ s.countCrashes now
  · -- the dead process stays
    rw [if_pos hthird, Action.seq_apply, sendError_state]
    show s.isLive = true ↔ _
    simp [hdead, hthird]
  · rw [if_neg hthird, Action.seq_apply]
    cases outcome with
    | pending =>
      rw [iff_true_right ⟨hthird, rfl⟩]
      rfl
    | failsAtOnce errorString disconnects =>
      have hfails := isLive_startDriver_fails false now errorString disconnects
      simp [hfails]

/-- It is one that can be written to. -/
theorem process_restart {now : Int} (h : ¬ ThirdRapidCrash s now) :
    ∃ p, (restartDriverForOneShot now .pending s).1.process = some p ∧ p.state ≠ .notRunning ∧
      p.writable = true := by
  rw [← countCrashes_iff] at h
  unfold restartDriverForOneShot
  rw [Action.seq_apply, Action.modify_apply]
  dsimp only
  rw [Action.bind_apply, if_neg h]
  exact ⟨_, rfl, nofun, rfl⟩

theorem toLive_wrote (s : DriverLabWsConnection) (line : List UInt8) :
    (LabEvent.wrote s.process line).ToLive ↔ s.isLive = true := by
  unfold LabEvent.ToLive isLive
  cases s.process with
  | none => simp
  | some p => simp

/-- An `exec`, by the state that it meets. -/
theorem exec_answered_iff (hconnected : s.connected = true) (msg : List (String × Json)) (now : Int)
    (outcome : StartOutcome) :
    let events := (handleExecMessage qt msg now outcome s).2
    (((∃ e ∈ events, e.Accepted) ∨ ∃ e ∈ events, e.IsError) ∧ ∀ e ∈ events, e.ToLive) ↔
      (∀ p, s.process = some p → p.state ≠ .notRunning → p.writable = true) ∧
        (s.isLive = false → s.runMode = "oneshot" → s.restartSuppressed = false →
          ¬ ThirdRapidCrash s now ∧ outcome = .pending) := by
  intro events
  have herror (message : String) (h : events = (sendError message s).2) :
      ((∃ e ∈ events, e.Accepted) ∨ ∃ e ∈ events, e.IsError) ∧ ∀ e ∈ events, e.ToLive := by
    rw [h, sendError_events hconnected]
    constructor
    · exact .inr ⟨_, List.mem_singleton_self _, isError_sendError message⟩
    · exact List.forall_mem_singleton.mpr trivial
  have hevents : events = (handleExecMessage qt msg now outcome s).2 := rfl
  unfold handleExecMessage at hevents
  rw [Action.bind_apply] at hevents
  cases hlive : s.isLive with
  | true =>
    -- the command is written to the process as it is
    obtain ⟨line, hline⟩ := writeCommand_events qt msg s
    rw [hlive, Bool.not_true, if_neg Bool.false_ne_true, hline] at hevents
    obtain ⟨p, hp, hstate⟩ := (toLive_wrote s line).mpr hlive
    rw [hevents]
    constructor
    · rintro ⟨⟨e, he, haccepted⟩ | ⟨e, he, herror⟩, -⟩
      · obtain rfl := List.mem_singleton.mp he
        obtain ⟨q, hq, -, hwritable⟩ := haccepted
        constructor
        · intro p' hp' _
          rw [Option.some.inj (hp'.symm.trans hq)]
          exact hwritable
        · exact nofun
      · obtain rfl := List.mem_singleton.mp he
        exact absurd herror id
    · rintro ⟨hwritable, -⟩
      constructor
      · exact .inl ⟨_, List.mem_singleton_self _, p, hp, hstate, hwritable p hp hstate⟩
      · exact List.forall_mem_singleton.mpr ⟨p, hp, hstate⟩
  | false =>
    rw [hlive, Bool.not_false, if_pos rfl] at hevents
    have hwritable : ∀ p, s.process = some p → p.state ≠ .notRunning → p.writable = true := by
      intro p hp hstate
      have := (toLive_wrote s []).mp ⟨p, hp, hstate⟩
      rw [hlive] at this
      exact absurd this Bool.false_ne_true
    by_cases hmode : s.runMode = "oneshot"
    · rw [if_pos hmode] at hevents
      cases hsuppressed : s.restartSuppressed with
      | true =>
        rw [hsuppressed, if_pos rfl] at hevents
        exact iff_of_true (herror _ hevents) ⟨hwritable, nofun⟩
      | false =>
        -- the command is written to what the restart has left
        obtain ⟨line, hline⟩ := writeCommand_events qt msg (restartDriverForOneShot now outcome s).1
        rw [hsuppressed, if_neg Bool.false_ne_true, Action.seq_apply, hline] at hevents
        have hwrote : .wrote (restartDriverForOneShot now outcome s).1.process line ∈ events := by
          rw [hevents]
          simp
        constructor
        · rintro ⟨-, hall⟩
          have hafter := (toLive_wrote _ line).mp (hall _ hwrote)
          exact ⟨hwritable, fun _ _ _ => (restart_live_iff hlive now outcome).mp hafter⟩
        · rintro ⟨-, hmay⟩
          obtain ⟨hthird, rfl⟩ := hmay rfl hmode rfl
          obtain ⟨p, hp, hstate, hopen⟩ := process_restart hthird
          constructor
          · exact .inl ⟨_, hwrote, p, hp, hstate, hopen⟩
          · intro e he
            rw [hevents] at he
            obtain he | he := List.mem_append.mp he
            · exact ((KeepsSilent.restartDriverForOneShot now .pending).events s).toLive e he
            · rw [List.mem_singleton.mp he]
              exact ⟨p, hp, hstate⟩
    · rw [if_neg hmode] at hevents
      exact iff_of_true (herror _ hevents) ⟨hwritable, fun _ h => absurd h hmode⟩

/-- The handler of `started` writes to the process that has just started. -/
theorem started_toLive (pid : Int) (s : DriverLabWsConnection) :
    ∀ e ∈ (onDriverStarted pid s).2, e.ToLive := by
  unfold onDriverStarted setProcess
  rw [Action.seq_apply, Action.modify_apply, Action.bind_apply]
  cases hp : s.process with
  | none => simp
  | some p =>
    dsimp only [Option.map_some]
    rw [Action.seq_apply, List.nil_append]
    intro e he
    obtain he | he := List.mem_append.mp he
    · exact ((KeepsSilent.ite (.sendJson _) (.sendJson _)).events _).toLive e he
    · have hstate (c : Prop) [Decidable c] (msg msg' : List (String × Json))
          (s : DriverLabWsConnection) : ((if c then sendJson msg else sendJson msg') s).1 = s := by
        split_ifs <;> exact sendJson_state _ s
      rw [hstate] at he
      by_cases hquery : p.queryMeta = true
      · rw [if_pos hquery] at he
        rw [List.mem_singleton.mp he]
        exact ⟨_, rfl, nofun⟩
      · rw [if_neg hquery] at he
        exact absurd he List.not_mem_nil

/-- A message that is no `exec` writes nothing. -/
theorem KeepsSilent.onTextMessageReceived {text : List UInt8} (now : Int) (outcome : StartOutcome)
    (h : ∀ msg, qt.fromJson text = some (.obj msg) → Json.value msg "type" ≠ .str "exec") :
    KeepsSilent (onTextMessageReceived qt text now outcome) := by
  unfold DriverLabWsConnection.onTextMessageReceived
  split
  · next msg hmsg =>
    have hexec : (Json.value msg "type").toStr ≠ "exec" :=
      fun htype => h msg hmsg ((Json.toStr_eq_iff (by decide)).mp htype)
    dsimp only
    rw [if_neg hexec]
    exact ite handleCancelMessage (sendError _)
  · exact sendError _

/-- Only an `exec` and the start of the driver write. -/
theorem reaction_toLive {input : LabInput} (h : ¬ IsExec qt s input) :
    ∀ e ∈ (labReaction qt input s).2, e.ToLive := by
  unfold labReaction
  cases input with
  | clientMessage text now outcome =>
    by_cases hconnected : s.connected = true
    · dsimp only
      rw [if_pos hconnected]
      have hsilent := KeepsSilent.onTextMessageReceived qt now outcome
        fun msg hmsg hexec => h ⟨hconnected, msg, hmsg, hexec⟩
      exact (hsilent.events s).toLive
    · simp [hconnected]
  | driverStarted pid =>
    dsimp only
    split_ifs
    · exact started_toLive pid s
    · simp
  | driverFailedToStart errorString =>
    dsimp only
    split_ifs
    · exact (((KeepsSilent.modify _).seq (.onDriverErrorOccurred errorString)).events s).toLive
    · simp
  | driverStdout chunk killed =>
    dsimp only
    split_ifs
    · exact ((KeepsSilent.onDriverStdoutReady qt chunk killed).events s).toLive
    · simp
  | driverFinished exitCode crashed =>
    dsimp only
    split_ifs
    · exact (((KeepsSilent.modify _).seq (.onDriverFinished exitCode crashed)).events s).toLive
    · simp
  | metaTimeout => exact (KeepsSilent.onMetaTimeout.events s).toLive
  | socketDisconnected killed => exact ((KeepsSilent.onSocketDisconnected killed).events s).toLive
  | pongTimeout killed => exact ((KeepsSilent.closeForPongTimeout killed).events s).toLive

/-- **One step.** -/
theorem answered_iff (s : DriverLabWsConnection) (input : LabInput) :
    Answered qt s input ↔ CanAnswer qt s input := by
  unfold Answered CanAnswer
  by_cases hexec : IsExec qt s input
  · cases input with
    | clientMessage text now outcome =>
      obtain ⟨hconnected, msg, hmsg, htype⟩ := id hexec
      have hreaction : labReaction qt (.clientMessage text now outcome) s =
          handleExecMessage qt msg now outcome s := by
        unfold labReaction onTextMessageReceived
        dsimp only
        rw [if_pos hconnected, hmsg]
        dsimp only
        rw [if_pos ((Json.toStr_eq_iff (by decide)).mpr htype)]
      rw [hreaction]
      dsimp only
      rw [imp_iff_right hexec, imp_iff_right hexec]
      exact exec_answered_iff qt hconnected msg now outcome
    | _ => exact absurd hexec id
  · dsimp only
    exact iff_of_true ⟨fun h => absurd h hexec, reaction_toLive qt hexec⟩ (fun h => absurd h hexec)

/-- **Every exec of a run is answered exactly when the state before each of them allows it.** -/
theorem execs_answered_iff (driverId runMode : String) (now : Int) (outcome : StartOutcome)
    (inputs : List LabInput) :
    (driverLab qt).EveryStep (fun c input => Answered qt c.state input)
        (Machine.start (newConnection driverId runMode now outcome)) inputs ↔
      (driverLab qt).EveryStep (fun c input => CanAnswer qt c.state input)
        (Machine.start (newConnection driverId runMode now outcome)) inputs := by
  apply Machine.everyStep_congr_of_invariant (fun _ => True)
  · exact fun _ _ _ => trivial
  · exact fun c input _ => answered_iff qt c.state input
  · trivial

/-- A message `exec`, and Qt on it. -/
def runText : List UInt8 :=
  plainText "\x7b\x22cmd\x22:\x22run\x22,\x22type\x22:\x22exec\x22\x7d"

def runQt : LabQt where
  fromJson text :=
    if text = runText then some (.obj [("cmd", .str "run"), ("type", .str "exec")]) else none
  toJson _ := plainText "\x7b\x22cmd\x22:\x22run\x22\x7d"
  fromUtf8 _ := ""

/-- A driver that starts and exits with code 1, three times. -/
def threeCrashes : List LabInput :=
  [.driverStarted 1, .driverFinished 1 false,
    .clientMessage runText 100 .pending, .driverStarted 2, .driverFinished 1 false,
    .clientMessage runText 200 .pending, .driverStarted 3, .driverFinished 1 false]

/-- The exec behind the third crash is answered by an error, and written to the dead process. -/
theorem suppressed_restart_writes :
    ¬ (driverLab runQt).EveryStep (fun c input => Answered runQt c.state input)
      (Machine.start (newConnection "d" "oneshot" 0 .pending))
      (threeCrashes ++ [.clientMessage runText 300 .pending]) := by
  intro h
  have hlast := Machine.everyStep_iff.mp h threeCrashes _ [] rfl
  -- what is written, and to which process
  have hwrote : LabEvent.wrote (some { state := .notRunning, queryMeta := false, isRestart := true })
      (plainText "\x7b\x22cmd\x22:\x22run\x22\x7d" ++ [newline]) ∈
      (labReaction runQt (.clientMessage runText 300 .pending)
        ((driverLab runQt).run (Machine.start (newConnection "d" "oneshot" 0 .pending))
          threeCrashes).state).2 := by
    decide +kernel
  obtain ⟨p, hp, hstate⟩ := hlast.2 _ hwrote
  obtain rfl := Option.some.inj hp
  exact hstate rfl

end Stdiolink.Server
