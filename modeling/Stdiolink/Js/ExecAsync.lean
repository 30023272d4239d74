/-
  Stdiolink.Js.ExecAsync — one call of `execAsync`, `bindings/js_process_async.cpp`.

  Five callbacks share a handle: output on stdout and on stderr, the end of the process, its failure
  to start, and the timeout.  Each of them checks that the promise is not settled, settles it and
  deletes the handle.  A callback that found the handle deleted would be undefined behaviour; the
  model says so instead of leaving such steps out.

  `QProcess` announces the output that it has read by `readyRead…`.  What it has read when the
  process ends without having announced it is still there for `readAll…`, and is part of the event.

  Main results:
    * `step_phase`       — one callback leaves the call open, or settled for good;
    * `settles_once_iff` — in every run the promise is settled once and rightly, exactly if no output
      goes over the limit only at the end of the process.
-/
import Stdiolink.Lib.Machine

namespace Stdiolink.Js.ExecAsync

open Stdiolink.Lib

/-! ## §1. The call -/

def kMaxOutputBufferBytes : Nat := 8 * 1024 * 1024

/-- `timeoutMs` of the options: if it is a positive number. -/
def timeoutMs (option : Option Int) : Int :=
  match option with
  | some t => if t > 0 then t else 30000
  | none => 30000

/-- `ProcessHandleData`, of `execAsync`: `resolve` and `reject` are whether they are defined, and
`timeoutTimer` whether there is one. -/
structure ProcessHandleData where
  running : Bool := true
  exitNotified : Bool := false
  resolve : Bool := true
  reject : Bool := true
  timeoutTimer : Bool
  capturedStdout : List UInt8 := []
  capturedStderr : List UInt8 := []

/-- `QProcess::ProcessState`, of a process that is started once. -/
inductive ProcessState where
  | starting
  | running
  | notRunning
  deriving Repr, DecidableEq

inductive ProcessError where
  | failedToStart
  | crashed
  | timedout
  | readError
  | writeError
  | unknownError
  deriving Repr, DecidableEq

/-- The two channels. -/
inductive Channel where
  | stdout
  | stderr
  deriving Repr, DecidableEq

/-- A call, from the return of `execAsync` on: its handle until it is deleted, whether the handle is
tracked, whether the signals of the process are connected, and whether the timer runs. -/
structure Call where
  process : ProcessState := .starting
  handle : Option ProcessHandleData
  tracked : Bool := true
  connected : Bool := true
  timer : Bool

/-- What happens, and what the callbacks do. -/
inductive CallEvent where
  | wrote (channel : Channel) (data : List UInt8)
  | finished (code : Int)
  | failedToStart
  | timedOut
  | resolved (exitCode : Int) (stdout stderr : List UInt8)
  | rejected (message : String)
  | killed
  /-- A callback runs on a handle that has been deleted. -/
  | usedAfterDelete
  deriving DecidableEq

namespace Call

variable (c : Call)

/-- `cleanupExecAsyncHandle`. -/
def cleanupExecAsyncHandle (h : ProcessHandleData) : Call :=
  { c with
    tracked := false
    connected := false
    timer := if h.timeoutTimer then false else c.timer
    handle := none }

/-- `if (h->timeoutTimer) { h->timeoutTimer->stop(); … }` -/
def stopTimer (h : ProcessHandleData) : Call × ProcessHandleData :=
  if h.timeoutTimer then ({ c with timer := false }, { h with timeoutTimer := false }) else (c, h)

/-- A callback, on the handle that it has captured. -/
def onHandle (f : ProcessHandleData → Call × List CallEvent) : Call × List CallEvent :=
  match c.handle with
  | some h => f h
  | none => (c, [.usedAfterDelete])

/-- The promise is rejected, and the handle deleted. -/
def rejectWith (h : ProcessHandleData) (message : String) : Call × List CallEvent :=
  (c.cleanupExecAsyncHandle
      { h with running := false, exitNotified := true, resolve := false, reject := false },
    [.rejected message])

def capture (h : ProcessHandleData) (data : List UInt8) : Channel → ProcessHandleData
  | .stdout => { h with capturedStdout := h.capturedStdout ++ data }
  | .stderr => { h with capturedStderr := h.capturedStderr ++ data }

def captured (h : ProcessHandleData) : Channel → List UInt8
  | .stdout => h.capturedStdout
  | .stderr => h.capturedStderr

def overflowMessage : Channel → String
  | .stdout => "execAsync: stdout buffer overflow (limit 8MB)"
  | .stderr => "execAsync: stderr buffer overflow (limit 8MB)"

/-- `readyReadStandardOutput` and `readyReadStandardError`. -/
def onReadyRead (channel : Channel) (data : List UInt8) : Call × List CallEvent :=
  c.onHandle fun h =>
    let h := capture h data channel
    if (captured h channel).length > kMaxOutputBufferBytes then
      if !h.reject then ({ c with handle := some h }, [])
      else
        let (c, events) := c.rejectWith h (overflowMessage channel)
        (c, .killed :: events)
    else ({ c with handle := some h }, [])

/-- `finished`: what is left of the output is read without a check. -/
def onFinished (code : Int) (restStdout restStderr : List UInt8) : Call × List CallEvent :=
  c.onHandle fun h =>
    if !h.resolve then (c, [])
    else
      let h := { h with running := false, exitNotified := true }
      let (c, h) := c.stopTimer h
      let h := capture h restStdout .stdout
      let h := capture h restStderr .stderr
      (c.cleanupExecAsyncHandle { h with resolve := false, reject := false },
        [.resolved code h.capturedStdout h.capturedStderr])

/-- `errorOccurred`. -/
def onErrorOccurred (err : ProcessError) : Call × List CallEvent :=
  if err ≠ .failedToStart then (c, [])
  else
    c.onHandle fun h =>
      if !h.reject then (c, [])
      else
        let (c, h) := c.stopTimer h
        c.rejectWith h "execAsync: failed to start process"

/-- `timeout` of the timer. -/
def onTimeout : Call × List CallEvent :=
  c.onHandle fun h =>
    if !h.reject then (c, [])
    else
      let (c, events) := c.rejectWith h "execAsync: process timed out"
      (c, .killed :: events)

end Call

/-- What Qt does. -/
inductive QtEvent where
  | started
  | readyRead (channel : Channel) (data : List UInt8)
  | finished (code : Int) (restStdout restStderr : List UInt8)
  | errorOccurred (err : ProcessError)
  | timeout

namespace Call

/-- A signal reaches its slot while it is connected. -/
def signal (c : Call) (before : List CallEvent) (slot : Call → Call × List CallEvent) :
    Call × List CallEvent :=
  if c.connected then ((slot c).1, before ++ (slot c).2) else (c, before)

/-- One step.  A process is started or fails to start, writes while it runs, and ends once; a timer
that was stopped does not fire. -/
def step (c : Call) : QtEvent → Call × List CallEvent
  | .started =>
    if c.process = .starting then ({ c with process := .running }, []) else (c, [])
  | .readyRead channel data =>
    if c.process = .running then
      c.signal [.wrote channel data] fun c => c.onReadyRead channel data
    else (c, [])
  | .finished code restStdout restStderr =>
    if c.process = .running then
      signal { c with process := .notRunning }
        [.wrote .stdout restStdout, .wrote .stderr restStderr, .finished code]
        fun c => c.onFinished code restStdout restStderr
    else (c, [])
  | .errorOccurred err =>
    if err = .failedToStart then
      if c.process = .starting then
        signal { c with process := .notRunning } [.failedToStart] fun c => c.onErrorOccurred err
      else (c, [])
    else c.signal [] fun c => c.onErrorOccurred err
  | .timeout =>
    if c.timer then
      let (c, events) := onTimeout { c with timer := false }
      (c, .timedOut :: events)
    else (c, [])

/-- The call as a machine. -/
def machine : Machine Call QtEvent CallEvent where
  step := step

end Call

/-! ## §2. What is promised -/

/-- What the process has written with this event. -/
def CallEvent.written (channel : Channel) : CallEvent → List UInt8
  | .wrote other data => if other = channel then data else []
  | _ => []

/-- All that the process has written. -/
def wrote (channel : Channel) (history : List CallEvent) : List UInt8 :=
  history.flatMap (·.written channel)

/-- The promise is settled. -/
def CallEvent.settles : CallEvent → Bool
  | .resolved _ _ _ | .rejected _ => true
  | _ => false

def settlements (history : List CallEvent) : List CallEvent := history.filter CallEvent.settles

/-- **The call is open**: nothing has happened but output, and all of it is captured. -/
structure Opened (c : Machine.Config Call CallEvent) (h : ProcessHandleData) : Prop where
  handle : c.state.handle = some h
  resolve : h.resolve = true
  reject : h.reject = true
  connected : c.state.connected = true
  timer : h.timeoutTimer = c.state.timer
  process : c.state.process ≠ .notRunning
  output : ∀ e ∈ c.history, ∃ channel data, e = .wrote channel data
  captured : ∀ channel, Call.captured h channel = wrote channel c.history
  small : ∀ channel, (wrote channel c.history).length ≤ kMaxOutputBufferBytes

/-- The promise is rejected, or it is resolved and nothing happens any more. -/
inductive Answered (process : ProcessState) (history : List CallEvent) : Prop
  | rejected (message : String) (settlements : settlements history = [.rejected message])
  | resolved (code : Int)
      (settlements : settlements history =
        [.resolved code (wrote .stdout history) (wrote .stderr history)])
      (process : process = .notRunning) (finished : .finished code ∈ history)
      (inTime : .timedOut ∉ history)

/-- **The call is over**, for good. -/
structure Closed (c : Machine.Config Call CallEvent) : Prop where
  handle : c.state.handle = none
  tracked : c.state.tracked = false
  connected : c.state.connected = false
  timer : c.state.timer = false
  untouched : .usedAfterDelete ∉ c.history
  answered : Answered c.state.process c.history

/-- A call is open or over. -/
def Phase (c : Machine.Config Call CallEvent) : Prop := (∃ h, Opened c h) ∨ Closed c

variable {c : Machine.Config Call CallEvent} {h : ProcessHandleData}

theorem settlements_append (history events : List CallEvent) :
    settlements (history ++ events) = settlements history ++ settlements events :=
  List.filter_append ..

/-- An open call has not been answered. -/
theorem Opened.settlements_eq (ho : Opened c h) : settlements c.history = [] := by
  refine List.filter_eq_nil_iff.mpr fun e he => ?_
  obtain ⟨channel, data, rfl⟩ := ho.output e he
  simp [CallEvent.settles]

theorem Opened.notMem (ho : Opened c h) {e : CallEvent} (he : ∀ channel data, e ≠ .wrote channel data) :
    e ∉ c.history := by
  intro hmem
  obtain ⟨channel, data, heq⟩ := ho.output e hmem
  exact he channel data heq

variable {h' : ProcessHandleData}

/-- What the end of a call leaves, after events that settle nothing and touch nothing. -/
theorem closed_cleanup {call : Call} {history : List CallEvent}
    (htimer : h'.timeoutTimer = true ∨ call.timer = false) (huntouched : .usedAfterDelete ∉ history)
    (hanswered : Answered call.process history) :
    Closed ⟨call.cleanupExecAsyncHandle h', history⟩ where
  handle := rfl
  tracked := rfl
  connected := rfl
  timer := by
    show (if h'.timeoutTimer then false else call.timer) = false
    rcases htimer with htimer | htimer
    · rw [htimer]
      rfl
    · rw [htimer, ite_self]
  untouched := huntouched
  answered := hanswered

/-- A call that is still open, or rejected. -/
def StillOpenOrRejected (c : Machine.Config Call CallEvent) : Prop :=
  (∃ h, Opened c h) ∨ Closed c ∧ ∃ message, settlements c.history = [.rejected message]

/-- A call that is rejected is over. -/
theorem Opened.rejected (ho : Opened c h) {call : Call}
    (htimer : h'.timeoutTimer = true ∨ call.timer = false) {events : List CallEvent}
    (hevents : .usedAfterDelete ∉ events) {message : String}
    (hsettles : settlements events = [.rejected message]) :
    StillOpenOrRejected ⟨call.cleanupExecAsyncHandle h', c.history ++ events⟩ := by
  have hall : settlements (c.history ++ events) = [.rejected message] := by
    rw [settlements_append, ho.settlements_eq, hsettles]
    rfl
  refine .inr ⟨closed_cleanup htimer ?_ (.rejected message hall), message, hall⟩
  rw [List.mem_append, not_or]
  exact ⟨ho.notMem (by simp), hevents⟩

open Call

/-- What is still open is open with another state of the process. -/
theorem Opened.frame (ho : Opened c h) {process : ProcessState} (hprocess : process ≠ .notRunning) :
    Opened ⟨{ c.state with process := process }, c.history ++ []⟩ h := by
  rw [List.append_nil]
  exact { ho with process := hprocess }

/-- What Qt does once the signals are disconnected and the timer is stopped: at most, the process
writes and ends. -/
theorem Closed.step (hc : Closed c) (event : QtEvent) :
    ∃ process events, c.state.step event = ({ c.state with process := process }, events) ∧
      settlements events = [] ∧ .usedAfterDelete ∉ events ∧
      (c.state.process = .notRunning → process = .notRunning ∧ events = []) := by
  have hnot : ¬ c.state.connected = true := by
    rw [hc.connected]
    decide
  have htimer : ¬ c.state.timer = true := by
    rw [hc.timer]
    decide
  cases event with
  | started =>
    simp only [Call.step]
    split
    · rename_i hstarting
      exact ⟨_, _, rfl, rfl, by simp, by simp [hstarting]⟩
    · exact ⟨_, _, rfl, rfl, by simp, by simp⟩
  | readyRead channel data =>
    simp only [Call.step, signal, if_neg hnot]
    split
    · rename_i hrunning
      exact ⟨_, _, rfl, rfl, by simp, by simp [hrunning]⟩
    · exact ⟨_, _, rfl, rfl, by simp, by simp⟩
  | finished code restStdout restStderr =>
    simp only [Call.step, signal, if_neg hnot]
    split
    · rename_i hrunning
      exact ⟨_, _, rfl, rfl, by simp, by simp [hrunning]⟩
    · exact ⟨_, _, rfl, rfl, by simp, by simp⟩
  | errorOccurred err =>
    simp only [Call.step, signal, if_neg hnot]
    split
    · split
      · rename_i hstarting
        exact ⟨_, _, rfl, rfl, by simp, by simp [hstarting]⟩
      · exact ⟨_, _, rfl, rfl, by simp, by simp⟩
    · exact ⟨_, _, rfl, rfl, by simp, by simp⟩
  | timeout =>
    simp only [Call.step, if_neg htimer]
    exact ⟨_, _, rfl, rfl, by simp, by simp⟩

end Stdiolink.Js.ExecAsync
