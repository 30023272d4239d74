/-
  Stdiolink.Server.InstanceLife — the signals of one instance, from start to end.

  `manager/instance_manager.cpp` connects four signals of a `QProcess` and two timers, and any of
  them may come in any order that Qt allows, also before `startInstance` returns.  The handlers
  read and write the status, `startFailedEmitted` and the map of instances.

  The file descriptors, the log writer and the guard of an instance play no part in its signals
  and are left out.

  Main results:
    * `Moves.of_action` — what one step can do to an instance, and what is emitted for it;
    * `life_cycle_iff`  — the signals of every instance are "started, finished" or "start failed,
      finished", iff a start that has been given up is not reported after all.
-/
import Stdiolink.Lib.Machine
import Stdiolink.Lib.Action
import Stdiolink.Server.InstanceManager

namespace Stdiolink.Server

open Stdiolink.Lib

/-! ## §1. Instances and their processes -/

/-- `QProcess::ProcessState`. -/
inductive ProcessState where
  | notRunning
  | starting
  | running
  deriving Repr, DecidableEq

/-- `QProcess::ProcessError`. -/
inductive ProcessError where
  | failedToStart
  | crashed
  | timedout
  | readError
  | writeError
  | unknownError
  deriving Repr, DecidableEq

/-- `Instance::status`. -/
inductive InstanceStatus where
  | starting
  | running
  | failed
  | stopped
  deriving Repr, DecidableEq

/-- An instance with what its handlers read: its process, its status and its timers. -/
structure LiveInstance extends Instance where
  process : ProcessState := .starting
  status : InstanceStatus := .starting
  startFailedEmitted : Bool := false
  /-- The single shot of 5 s has not fired. -/
  startTimer : Bool := true
  /-- The run timeout timer is active. -/
  runTimeoutTimer : Bool := false
  timedOut : Bool := false
  timeoutReason : String := ""

/-- `m_instances`. -/
structure LifeManager where
  instances : SortedMap Nat LiveInstance := SortedMap.empty
  nextId : Nat := 0
  below : ∀ id i, instances.find? id = some i → id < nextId := by
    simp only [SortedMap.find?_empty, reduceCtorEq, false_implies, implies_true]

/-- The signals of the manager, and the calls of `QProcess::kill`. -/
inductive LifeEvent where
  | instanceStarted (instanceId : Nat) (projectId : String)
  | instanceStartFailed (instanceId : Nat) (projectId error : String)
  | instanceFinished (instanceId : Nat) (projectId : String) (exitCode : Int)
      (exitStatus : ExitStatus)
  | kill (instanceId : Nat)
  deriving Repr, DecidableEq

namespace LifeManager

/-- Change an instance that is there. -/
def update (m : LifeManager) (id : Nat) (f : LiveInstance → LiveInstance) : LifeManager where
  instances := m.instances.mapValues fun k i => if k = id then f i else i
  nextId := m.nextId
  below k i h := by
    rw [SortedMap.find?_mapValues, Option.map_eq_some_iff] at h
    obtain ⟨i', hi', -⟩ := h
    exact m.below k i' hi'

/-- `m_instances.erase`. -/
def erase (m : LifeManager) (id : Nat) : LifeManager where
  instances := m.instances.erase id
  nextId := m.nextId
  below k i h := by
    rw [SortedMap.find?_erase] at h
    split_ifs at h
    exact m.below k i h

/-- `m_instances.emplace`, with everything `startInstance` sets before `QProcess::start`. -/
def emplace (m : LifeManager) (project : Project) (serviceDir : String) : LifeManager where
  instances := m.instances.insert m.nextId
    { id := m.nextId, projectId := project.id, serviceId := project.serviceId,
      serviceDir := serviceDir, config := project.config,
      runTimeoutMs := project.schedule.runTimeoutMs }
  nextId := m.nextId + 1
  below k i h := by
    rw [SortedMap.find?_insert] at h
    split_ifs at h with hk
    · omega
    · exact Nat.lt_succ_of_lt (m.below k i h)

/-! ## §2. The handlers -/

/-- `QProcess::started`. -/
def started (id : Nat) : Action LifeManager LifeEvent := fun m =>
  match m.instances.find? id with
  | none => (m, [])
  | some i =>
    Action.seq
      (Action.modify fun m => m.update id fun i =>
        { i with
          process := .running
          status := .running
          runTimeoutTimer := decide (0 < i.runTimeoutMs) })
      (Action.emit fun _ => .instanceStarted id i.projectId) m

/-- `QProcess::errorOccurred`.  After `FailedToStart` there is no `finished`, so the handler emits
`instanceFinished` itself. -/
def errorOccurred (id : Nat) (error : ProcessError) (errorString : String) :
    Action LifeManager LifeEvent := fun m =>
  if error ≠ .failedToStart then (m, [])
  else
    match m.instances.find? id with
    | none => (m, [])
    | some i =>
      Action.seq
        (Action.modify fun m => m.update id fun i =>
          { i with process := .notRunning, status := .failed, startFailedEmitted := true })
        (Action.seq
          (Action.emit fun _ => .instanceStartFailed id i.projectId errorString)
          (Action.seq
            (Action.emit fun _ => .instanceFinished id i.projectId (-1) .crashExit)
            (Action.modify fun m => m.erase id))) m

/-- The text for a process that ends before it has started. -/
def earlyExitReason (abnormal : Bool) (exitCode : Int) : String :=
  if abnormal then "process exited during startup (code " ++ toString exitCode ++ ")"
  else "process exited normally before started signal"

/-- `InstanceManager::onProcessFinished`. -/
def onProcessFinished (id : Nat) (exitCode : Int) (exitStatus : ExitStatus) :
    Action LifeManager LifeEvent := fun m =>
  match m.instances.find? id with
  | none => (m, [])
  | some i =>
    let wasStarting := decide (i.status = .starting)
    let abnormal := decide (exitStatus = .crashExit ∨ exitCode ≠ 0)
    Action.seq
      (Action.modify fun m => m.update id fun i =>
        { i with
          process := .notRunning
          status := if abnormal then .failed else .stopped
          runTimeoutTimer := false })
      (Action.seq
        (if wasStarting && !i.startFailedEmitted then
          Action.emit fun _ =>
            .instanceStartFailed id i.projectId (earlyExitReason abnormal exitCode)
        else Action.skip)
        (Action.seq
          (Action.emit fun _ => .instanceFinished id i.projectId exitCode exitStatus)
          (Action.modify fun m => m.erase id))) m

/-- The single shot of 5 s that `startInstance` leaves. -/
def startTimeout (id : Nat) : Action LifeManager LifeEvent := fun m =>
  match m.instances.find? id with
  | none => (m, [])
  | some i =>
    let fired : LifeManager := m.update id fun i => { i with startTimer := false }
    if i.status = .starting then
      Action.seq
        (Action.modify fun m => m.update id fun i => { i with startFailedEmitted := true })
        (Action.seq
          (Action.emit fun _ => .instanceStartFailed id i.projectId "start timeout (5s)")
          (Action.emit fun _ => .kill id)) fired
    else (fired, [])

/-- The timeout of `runTimeoutTimer`, a single shot as well. -/
def runTimeout (id : Nat) : Action LifeManager LifeEvent := fun m =>
  match m.instances.find? id with
  | none => (m, [])
  | some i =>
    let fired : LifeManager := m.update id fun i => { i with runTimeoutTimer := false }
    if i.process = .notRunning then (fired, [])
    else
      Action.seq
        (Action.modify fun m => m.update id fun i =>
          { i with
            timedOut := true
            timeoutReason := "service run timeout (" ++ toString i.runTimeoutMs ++ " ms)" })
        (Action.emit fun _ => .kill id) fired

/-- `InstanceManager::terminateInstance`. -/
def terminateInstance (id : Nat) : Action LifeManager LifeEvent := fun m =>
  match m.instances.find? id with
  | none => (m, [])
  | some i => if i.process = .notRunning then (m, []) else (m, [.kill id])

/-- `InstanceManager::terminateByProject`: the ids are collected first. -/
def terminateByProject (projectId : String) : Action LifeManager LifeEvent := fun m =>
  Action.forEach ((m.instances.entries.filter fun e => e.2.projectId = projectId).map Prod.fst)
    terminateInstance m

/-- `InstanceManager::terminateAll`. -/
def terminateAll : Action LifeManager LifeEvent := fun m =>
  Action.forEach m.instances.keys terminateInstance m

end LifeManager

/-! ## §3. Runs -/

/-- What may happen next. -/
inductive LifeOp where
  /-- `startInstance` reaches `QProcess::start`. -/
  | startInstance (project : Project) (serviceDir : String)
  | started (instanceId : Nat)
  | errorOccurred (instanceId : Nat) (error : ProcessError) (errorString : String)
  | finished (instanceId : Nat) (exitCode : Int) (exitStatus : ExitStatus)
  | startTimeout (instanceId : Nat)
  | runTimeout (instanceId : Nat)
  | terminateInstance (instanceId : Nat)
  | terminateByProject (projectId : String)
  | terminateAll

/-- What the step does. -/
def LifeOp.action : LifeOp → Action LifeManager LifeEvent
  | .startInstance project serviceDir => Action.modify fun m => m.emplace project serviceDir
  | .started id => LifeManager.started id
  | .errorOccurred id error errorString => LifeManager.errorOccurred id error errorString
  | .finished id exitCode exitStatus => LifeManager.onProcessFinished id exitCode exitStatus
  | .startTimeout id => LifeManager.startTimeout id
  | .runTimeout id => LifeManager.runTimeout id
  | .terminateInstance id => LifeManager.terminateInstance id
  | .terminateByProject projectId => LifeManager.terminateByProject projectId
  | .terminateAll => LifeManager.terminateAll

/-- Qt allows the step: a process starts at most once and before it finishes, one that fails to
start does neither, and a single shot fires once. -/
def LifeManager.possible (m : LifeManager) : LifeOp → Bool
  | .started id => (m.instances.find? id).all fun i => decide (i.process = .starting)
  | .errorOccurred id .failedToStart _ =>
      (m.instances.find? id).all fun i => decide (i.process = .starting)
  | .finished id _ _ => (m.instances.find? id).all fun i => decide (i.process ≠ .notRunning)
  | .startTimeout id => (m.instances.find? id).all fun i => i.startTimer
  | .runTimeout id => (m.instances.find? id).all fun i => i.runTimeoutTimer
  | _ => true

/-- The manager with its processes and timers; what Qt does not allow does not happen. -/
def lifeMachine : Machine LifeManager LifeOp LifeEvent where
  step m op := if m.possible op then op.action m else (m, [])

/-- The signals of an instance. -/
inductive LifeSignal where
  | started
  | startFailed
  | finished
  deriving Repr, DecidableEq

/-- The signal that the event is for the instance. -/
def LifeEvent.signal? (id : Nat) : LifeEvent → Option LifeSignal
  | .instanceStarted i _ => if i = id then some .started else none
  | .instanceStartFailed i _ _ => if i = id then some .startFailed else none
  | .instanceFinished i _ _ _ => if i = id then some .finished else none
  | .kill _ => none

/-- The signals emitted for the instance, oldest first. -/
def signals (id : Nat) (h : List LifeEvent) : List LifeSignal :=
  h.filterMap (LifeEvent.signal? id)

/-- The signals so far lead to "started, finished" or to "start failed, finished". -/
def InOrder (t : List LifeSignal) : Prop :=
  t <+: [.started, .finished] ∨ t <+: [.startFailed, .finished]

/-- **The property.**  The signals of every instance come in order, and it is in the map exactly
until it has finished. -/
def LifeCycle (c : Machine.Config LifeManager LifeEvent) : Prop :=
  ∀ id, id < c.state.nextId →
    InOrder (signals id c.history) ∧
      (c.state.instances.contains id = true ↔ .finished ∉ signals id c.history)

/-- **The condition.**  A start that was given up after 5 s is not reported after all: neither
`started` nor `FailedToStart` comes for an instance whose start timeout has fired. -/
def NotGivenUp (m : LifeManager) : LifeOp → Prop
  | .started id => ∀ i, m.instances.find? id = some i → i.process = .starting →
      i.startFailedEmitted = false
  | .errorOccurred id .failedToStart _ => ∀ i, m.instances.find? id = some i →
      i.process = .starting → i.startFailedEmitted = false
  | _ => True

/-! ## §4. What one step can do -/

@[simp] theorem signals_nil (id : Nat) : signals id [] = [] := rfl

theorem signals_append (id : Nat) (h h' : List LifeEvent) :
    signals id (h ++ h') = signals id h ++ signals id h' :=
  List.filterMap_append

namespace LifeManager

variable {m : LifeManager} {id j : Nat} {i : LiveInstance}

theorem update_find?_of_ne (f : LiveInstance → LiveInstance) (hj : j ≠ id) :
    (m.update id f).instances.find? j = m.instances.find? j := by
  show (m.instances.mapValues _).find? j = _
  rw [SortedMap.find?_mapValues]
  cases m.instances.find? j with
  | none => rfl
  | some i => rw [Option.map_some, if_neg hj]

theorem update_find?_self (f : LiveInstance → LiveInstance)
    (hi : m.instances.find? id = some i) : (m.update id f).instances.find? id = some (f i) := by
  show (m.instances.mapValues _).find? id = _
  rw [SortedMap.find?_mapValues, hi, Option.map_some, if_pos rfl]

theorem erase_find?_of_ne (hj : j ≠ id) :
    (m.erase id).instances.find? j = m.instances.find? j := by
  show (m.instances.erase id).find? j = _
  rw [SortedMap.find?_erase, if_neg hj]

theorem erase_find?_self : (m.erase id).instances.find? id = none :=
  SortedMap.find?_erase_self m.instances id

end LifeManager

/-- What may become of an instance in one step, with the signals emitted for it.  Under `inTime` a
start that Qt reports had not been given up. -/
inductive Moves (inTime : Prop) :
    LiveInstance → Option LiveInstance → List LifeSignal → Prop
  | started (i i' : LiveInstance) (hfrom : i.process = .starting) (hto : i'.process = .running)
      (hstatus : i'.status = .running) (hflag : i'.startFailedEmitted = i.startFailedEmitted)
      (htimer : i'.startTimer = i.startTimer) (htime : inTime → i.startFailedEmitted = false) :
      Moves inTime i (some i') [.started]
  | failedToStart (i : LiveInstance) (hfrom : i.process = .starting)
      (htime : inTime → i.startFailedEmitted = false) :
      Moves inTime i none [.startFailed, .finished]
  | exitedEarly (i : LiveInstance) (hstatus : i.status = .starting)
      (hflag : i.startFailedEmitted = false) : Moves inTime i none [.startFailed, .finished]
  | exited (i : LiveInstance) (h : i.status ≠ .starting ∨ i.startFailedEmitted = true) :
      Moves inTime i none [.finished]
  | givenUp (i i' : LiveInstance) (hstatus : i.status = .starting) (htimer : i.startTimer = true)
      (hprocess : i'.process = i.process) (hstatus' : i'.status = i.status)
      (hflag : i'.startFailedEmitted = true) (htimer' : i'.startTimer = false) :
      Moves inTime i (some i') [.startFailed]
  | quiet (i i' : LiveInstance) (hprocess : i'.process = i.process)
      (hstatus : i'.status = i.status) (hflag : i'.startFailedEmitted = i.startFailedEmitted)
      (htimer : i'.startTimer = true → i.startTimer = true) : Moves inTime i (some i') []

/-- The step concerns no instance but this one. -/
structure OnlyOn (id : Nat) (m : LifeManager) (out : LifeManager × List LifeEvent) : Prop where
  nextId : out.1.nextId = m.nextId
  others : ∀ j, j ≠ id → out.1.instances.find? j = m.instances.find? j
  silent : ∀ j, j ≠ id → signals j out.2 = []

/-- The step concerns this instance alone, if it is there, and moves it. -/
def MovesOne (inTime : Prop) (id : Nat) (m : LifeManager)
    (out : LifeManager × List LifeEvent) : Prop :=
  OnlyOn id m out ∧
    match m.instances.find? id with
    | none => out.1.instances.find? id = none ∧ signals id out.2 = []
    | some i => Moves inTime i (out.1.instances.find? id) (signals id out.2)

/-- Nothing happens. -/
theorem MovesOne.nothing (inTime : Prop) (id : Nat) (m : LifeManager) :
    MovesOne inTime id m (m, []) := by
  refine ⟨⟨rfl, fun _ _ => rfl, fun _ _ => rfl⟩, ?_⟩
  split
  · rename_i hnone
    exact ⟨hnone, rfl⟩
  · rename_i i hi
    rw [hi]
    exact Moves.quiet i i rfl rfl rfl fun h => h

namespace LifeManager

variable {m : LifeManager} {id : Nat} {i : LiveInstance}

/-- A step that moves an instance that is there. -/
theorem movesOne_of_find? {inTime : Prop} {out : LifeManager × List LifeEvent}
    (hi : m.instances.find? id = some i) (honly : OnlyOn id m out)
    (hmove : Moves inTime i (out.1.instances.find? id) (signals id out.2)) :
    MovesOne inTime id m out := by
  refine ⟨honly, ?_⟩
  rw [hi]
  exact hmove

/-- A step that changes the instance and then removes it. -/
theorem erased_movesOne {inTime : Prop} {f : LiveInstance → LiveInstance} {events : List LifeEvent}
    (hi : m.instances.find? id = some i) (hothers : ∀ j, j ≠ id → signals j events = [])
    (hmove : Moves inTime i none (signals id events)) :
    MovesOne inTime id m (erase (m.update id f) id, events) := by
  apply movesOne_of_find? hi
  · exact ⟨rfl, fun j hj => (erase_find?_of_ne hj).trans (update_find?_of_ne _ hj), hothers⟩
  · show Moves _ i ((erase _ id).instances.find? id) _
    rw [erase_find?_self]
    exact hmove

/-- Qt's order, for an instance that is there. -/
theorem possible_starting (hi : m.instances.find? id = some i)
    (h : (m.instances.find? id).all (fun i => decide (i.process = .starting)) = true) :
    i.process = .starting := by
  rw [hi] at h
  exact of_decide_eq_true h

theorem started_movesOne (hpossible : m.possible (.started id) = true) :
    MovesOne (NotGivenUp m (.started id)) id m (started id m) := by
  unfold started
  split
  · exact MovesOne.nothing _ id m
  · rename_i i hi
    have hfrom := possible_starting hi hpossible
    apply movesOne_of_find? hi
    · refine ⟨rfl, ?_, ?_⟩
      · intro j hj
        exact update_find?_of_ne _ hj
      · intro j hj
        show signals j [.instanceStarted id i.projectId] = []
        simp [signals, LifeEvent.signal?, hj.symm]
    · show Moves _ i ((m.update id _).instances.find? id)
        (signals id [.instanceStarted id i.projectId])
      rw [update_find?_self _ hi]
      simp only [signals, LifeEvent.signal?, List.filterMap_cons, List.filterMap_nil, if_pos]
      exact Moves.started i _ hfrom rfl rfl rfl rfl fun h => h i hi hfrom

theorem errorOccurred_movesOne (error : ProcessError) (errorString : String)
    (hpossible : m.possible (.errorOccurred id error errorString) = true) :
    MovesOne (NotGivenUp m (.errorOccurred id error errorString)) id m
      (errorOccurred id error errorString m) := by
  unfold errorOccurred
  split_ifs with herror
  · exact MovesOne.nothing _ id m
  · rw [not_not] at herror
    subst herror
    split
    · exact MovesOne.nothing _ id m
    · rename_i i hi
      have hfrom := possible_starting hi hpossible
      apply erased_movesOne hi
      · intro j hj
        simp [signals, LifeEvent.signal?, hj.symm]
      · simp only [Action.seq_apply, Action.modify_apply, Action.emit_apply, List.nil_append,
          List.append_nil, List.singleton_append, signals, LifeEvent.signal?,
          List.filterMap_cons, List.filterMap_nil, if_pos]
        exact Moves.failedToStart i hfrom fun h => h i hi hfrom

theorem onProcessFinished_movesOne (inTime : Prop) (exitCode : Int) (exitStatus : ExitStatus) :
    MovesOne inTime id m (onProcessFinished id exitCode exitStatus m) := by
  unfold onProcessFinished
  split
  · exact MovesOne.nothing _ id m
  · rename_i i hi
    dsimp only
    by_cases hearly : (decide (i.status = .starting) && !i.startFailedEmitted) = true
    · -- ended before it started: the failure is reported here
      rw [if_pos hearly]
      rw [Bool.and_eq_true, decide_eq_true_eq, Bool.not_eq_true'] at hearly
      apply erased_movesOne hi
      · intro j hj
        simp [signals, LifeEvent.signal?, hj.symm]
      · simp only [Action.seq_apply, Action.modify_apply, Action.emit_apply, List.nil_append,
          List.append_nil, List.singleton_append, signals, LifeEvent.signal?,
          List.filterMap_cons, List.filterMap_nil, if_pos]
        exact Moves.exitedEarly i hearly.1 hearly.2
    · rw [if_neg hearly]
      rw [Bool.and_eq_true, decide_eq_true_eq, Bool.not_eq_true', not_and_or,
        Bool.not_eq_false] at hearly
      apply erased_movesOne hi
      · intro j hj
        simp [signals, LifeEvent.signal?, hj.symm]
      · simp only [Action.seq_apply, Action.modify_apply, Action.emit_apply, Action.skip_apply,
          List.nil_append, List.append_nil, signals, LifeEvent.signal?, List.filterMap_cons,
          List.filterMap_nil, if_pos]
        exact Moves.exited i hearly

theorem startTimeout_movesOne (inTime : Prop) (hpossible : m.possible (.startTimeout id) = true) :
    MovesOne inTime id m (startTimeout id m) := by
  unfold startTimeout
  split
  · exact MovesOne.nothing _ id m
  · rename_i i hi
    have htimer : i.startTimer = true := by
      have hall : (m.instances.find? id).all (fun i => i.startTimer) = true := hpossible
      rw [hi] at hall
      exact hall
    have hfired := update_find?_self (fun i => { i with startTimer := false }) hi
    dsimp only
    split_ifs with hstatus
    · apply movesOne_of_find? hi
      · refine ⟨rfl, ?_, ?_⟩
        · intro j hj
          exact (update_find?_of_ne _ hj).trans (update_find?_of_ne _ hj)
        · intro j hj
          show signals j [.instanceStartFailed id i.projectId "start timeout (5s)", .kill id] = []
          simp [signals, LifeEvent.signal?, hj.symm]
      · show Moves _ i ((update _ id _).instances.find? id)
          (signals id [.instanceStartFailed id i.projectId "start timeout (5s)", .kill id])
        rw [update_find?_self _ hfired]
        simp only [signals, LifeEvent.signal?, List.filterMap_cons, List.filterMap_nil, if_pos]
        exact Moves.givenUp i _ hstatus htimer rfl rfl rfl rfl
    · apply movesOne_of_find? hi
      · refine ⟨rfl, ?_, fun _ _ => rfl⟩
        intro j hj
        exact update_find?_of_ne _ hj
      · rw [hfired]
        exact Moves.quiet i _ rfl rfl rfl fun h => by cases h

theorem runTimeout_movesOne (inTime : Prop) : MovesOne inTime id m (runTimeout id m) := by
  unfold runTimeout
  split
  · exact MovesOne.nothing _ id m
  · rename_i i hi
    have hfired := update_find?_self (fun i => { i with runTimeoutTimer := false }) hi
    dsimp only
    split_ifs
    · apply movesOne_of_find? hi
      · refine ⟨rfl, ?_, fun _ _ => rfl⟩
        intro j hj
        exact update_find?_of_ne _ hj
      · rw [hfired]
        exact Moves.quiet i _ rfl rfl rfl fun h => h
    · apply movesOne_of_find? hi
      · refine ⟨rfl, ?_, fun _ _ => rfl⟩
        intro j hj
        exact (update_find?_of_ne _ hj).trans (update_find?_of_ne _ hj)
      · show Moves _ i ((update _ id _).instances.find? id) []
        rw [update_find?_self _ hfired]
        exact Moves.quiet i _ rfl rfl rfl fun h => h

/-- Terminating only kills: the map stays, and `finished` is still to come. -/
theorem terminateInstance_eq (id : Nat) (m : LifeManager) :
    (terminateInstance id m).1 = m ∧ ∀ j, signals j (terminateInstance id m).2 = [] := by
  unfold terminateInstance
  split
  · exact ⟨rfl, fun _ => rfl⟩
  · split_ifs
    · exact ⟨rfl, fun _ => rfl⟩
    · exact ⟨rfl, fun _ => rfl⟩

theorem forEach_terminateInstance_eq (ids : List Nat) (m : LifeManager) :
    (Action.forEach ids terminateInstance m).1 = m ∧
      ∀ j, signals j (Action.forEach ids terminateInstance m).2 = [] := by
  induction ids with
  | nil => exact ⟨rfl, fun _ => rfl⟩
  | cons id ids ih =>
    obtain ⟨hsame, hsilent⟩ := terminateInstance_eq id m
    rw [Action.forEach_cons, Action.seq_apply, hsame]
    refine ⟨ih.1, ?_⟩
    intro j
    rw [signals_append, hsilent j, ih.2 j]
    rfl

end LifeManager

/-- **The step lemma.**  A step starts an instance, or moves one, or moves none. -/
theorem Moves.of_action (m : LifeManager) (op : LifeOp) (hpossible : m.possible op = true) :
    (∃ project serviceDir, op.action m = (m.emplace project serviceDir, [])) ∨
      (∃ id, MovesOne (NotGivenUp m op) id m (op.action m)) ∨
      ((op.action m).1 = m ∧ ∀ j, signals j (op.action m).2 = []) := by
  cases op with
  | startInstance project serviceDir => exact Or.inl ⟨project, serviceDir, rfl⟩
  | started id => exact Or.inr (Or.inl ⟨id, LifeManager.started_movesOne hpossible⟩)
  | errorOccurred id error errorString =>
    exact Or.inr (Or.inl ⟨id, LifeManager.errorOccurred_movesOne error errorString hpossible⟩)
  | finished id exitCode exitStatus =>
    exact Or.inr (Or.inl ⟨id, LifeManager.onProcessFinished_movesOne _ exitCode exitStatus⟩)
  | startTimeout id => exact Or.inr (Or.inl ⟨id, LifeManager.startTimeout_movesOne _ hpossible⟩)
  | runTimeout id => exact Or.inr (Or.inl ⟨id, LifeManager.runTimeout_movesOne _⟩)
  | terminateInstance id => exact Or.inr (Or.inr (LifeManager.terminateInstance_eq id m))
  | terminateByProject projectId =>
    exact Or.inr (Or.inr (LifeManager.forEach_terminateInstance_eq _ m))
  | terminateAll => exact Or.inr (Or.inr (LifeManager.forEach_terminateInstance_eq _ m))

/-! ## §5. The invariant -/

/-- What the signals so far say of a live instance.  A start that was given up leaves the instance
starting, so a later `started` is reported after the failure. -/
structure Alive (i : LiveInstance) (t : List LifeSignal) : Prop where
  starting : i.process = .starting →
    i.status = .starting ∧ t = if i.startFailedEmitted then [.startFailed] else []
  running : i.process ≠ .starting →
    i.status = .running ∧ t = if i.startFailedEmitted then [.startFailed, .started] else [.started]
  givenUp : i.startFailedEmitted = true → i.startTimer = false

/-- The signals end with the one `finished`. -/
def Ended (t : List LifeSignal) : Prop := ∃ u, t = u ++ [.finished] ∧ .finished ∉ u

/-- Where the instance is in its life. -/
def Stage (m : LifeManager) (h : List LifeEvent) (id : Nat) : Prop :=
  match m.instances.find? id with
  | some i => Alive i (signals id h)
  | none => if id < m.nextId then Ended (signals id h) else signals id h = []

namespace Alive

variable {i : LiveInstance} {t : List LifeSignal}

theorem not_finished (h : Alive i t) : .finished ∉ t := by
  by_cases hp : i.process = .starting
  · rw [(h.starting hp).2]
    split <;> decide
  · rw [(h.running hp).2]
    split <;> decide

/-- Only a starting instance has the status. -/
theorem process_of_status (h : Alive i t) (hstatus : i.status = .starting) :
    i.process = .starting := by
  by_cases hp : i.process = .starting
  · exact hp
  · have hrunning := (h.running hp).1
    rw [hstatus] at hrunning
    cases hrunning

/-- Before the start timeout nothing has been said of a starting instance. -/
theorem silent (h : Alive i t) (hp : i.process = .starting) (hflag : i.startFailedEmitted = false) :
    t = [] := by
  rw [(h.starting hp).2, hflag]
  rfl

/-- What a move does to the signals. -/
theorem moved (h : Alive i t) {inTime : Prop} {i' : Option LiveInstance} {u : List LifeSignal}
    (hmove : Moves inTime i i' u) :
    (∀ k, i' = some k → Alive k (t ++ u)) ∧ (i' = none → Ended (t ++ u)) := by
  cases hmove with
  | started k hfrom hto hstatus hflag htimer _ =>
    refine ⟨?_, fun hnone => by cases hnone⟩
    intro k' hk'
    obtain rfl := Option.some.inj hk'
    obtain ⟨-, ht⟩ := h.starting hfrom
    refine ⟨?_, ?_, ?_⟩
    · intro hp
      rw [hto] at hp
      cases hp
    · intro _
      refine ⟨hstatus, ?_⟩
      rw [ht, hflag]
      split <;> rfl
    · rw [hflag, htimer]
      exact h.givenUp
  | failedToStart hfrom _ =>
    refine ⟨(fun k hk => by cases hk), fun _ => ⟨t ++ [.startFailed], by simp, ?_⟩⟩
    intro hmem
    obtain hmem | hmem := List.mem_append.mp hmem
    · exact h.not_finished hmem
    · cases List.mem_singleton.mp hmem
  | exitedEarly hstatus hflag =>
    refine ⟨(fun k hk => by cases hk), fun _ => ⟨t ++ [.startFailed], by simp, ?_⟩⟩
    intro hmem
    obtain hmem | hmem := List.mem_append.mp hmem
    · exact h.not_finished hmem
    · cases List.mem_singleton.mp hmem
  | exited hexit => exact ⟨(fun k hk => by cases hk), fun _ => ⟨t, rfl, h.not_finished⟩⟩
  | givenUp k hstatus htimer hprocess hstatus' hflag htimer' =>
    refine ⟨?_, fun hnone => by cases hnone⟩
    intro k' hk'
    obtain rfl := Option.some.inj hk'
    have hp := h.process_of_status hstatus
    -- the timer has not fired before, so nothing was emitted
    have hbefore : i.startFailedEmitted = false := by
      cases hflag' : i.startFailedEmitted with
      | false => rfl
      | true => exact absurd (htimer.symm.trans (h.givenUp hflag')) (by decide)
    refine ⟨?_, ?_, fun _ => htimer'⟩
    · intro _
      refine ⟨hstatus'.trans hstatus, ?_⟩
      rw [h.silent hp hbefore, hflag]
      rfl
    · intro hne
      exact absurd (hprocess.trans hp) hne
  | quiet k hprocess hstatus hflag htimer =>
    refine ⟨?_, fun hnone => by cases hnone⟩
    intro k' hk'
    obtain rfl := Option.some.inj hk'
    rw [List.append_nil]
    refine ⟨?_, ?_, ?_⟩
    · rw [hprocess, hstatus, hflag]
      exact h.starting
    · rw [hprocess, hstatus, hflag]
      exact h.running
    · rw [hflag]
      intro hgiven
      cases hk : k.startTimer with
      | false => rfl
      | true => exact absurd ((htimer hk).symm.trans (h.givenUp hgiven)) (by decide)

/-- An instance whose signals are in order has been given up only while it is starting. -/
theorem given_up_starting (h : Alive i t) (hin : InOrder t) (hflag : i.startFailedEmitted = true) :
    i.process = .starting := by
  by_cases hp : i.process = .starting
  · exact hp
  · have ht := (h.running hp).2
    rw [hflag] at ht
    rw [ht] at hin
    exact absurd hin (by unfold InOrder; decide)

/-- **Moves keep the signals in order**, unless a start that was given up is reported. -/
theorem inOrder_moved (h : Alive i t) (hin : InOrder t) {inTime : Prop}
    {i' : Option LiveInstance} {u : List LifeSignal} (hmove : Moves inTime i i' u)
    (htime : inTime) : InOrder (t ++ u) := by
  cases hmove with
  | started k hfrom _ _ _ _ hbefore =>
    rw [h.silent hfrom (hbefore htime)]
    unfold InOrder
    decide
  | failedToStart hfrom hbefore =>
    rw [h.silent hfrom (hbefore htime)]
    unfold InOrder
    decide
  | exitedEarly hstatus hflag =>
    rw [h.silent (h.process_of_status hstatus) hflag]
    unfold InOrder
    decide
  | exited hexit =>
    by_cases hp : i.process = .starting
    · obtain ⟨hstatus, ht⟩ := h.starting hp
      obtain hno | hflag := hexit
      · exact absurd hstatus hno
      · rw [ht, hflag]
        unfold InOrder
        decide
    · have ht := (h.running hp).2
      cases hflag : i.startFailedEmitted with
      | true => exact absurd (h.given_up_starting hin hflag) hp
      | false =>
        rw [ht, hflag]
        unfold InOrder
        decide
  | givenUp k hstatus htimer _ _ _ _ =>
    have hbefore : i.startFailedEmitted = false := by
      cases hflag' : i.startFailedEmitted with
      | false => rfl
      | true => exact absurd (htimer.symm.trans (h.givenUp hflag')) (by decide)
    rw [h.silent (h.process_of_status hstatus) hbefore]
    unfold InOrder
    decide
  | quiet k _ _ _ _ =>
    rw [List.append_nil]
    exact hin

end Alive

/-- The signals of another instance do not change. -/
theorem Stage.congr {m m' : LifeManager} {h h' : List LifeEvent} {id : Nat} (hs : Stage m h id)
    (hfind : m'.instances.find? id = m.instances.find? id)
    (hnext : id < m'.nextId ↔ id < m.nextId) (hsignals : signals id h' = signals id h) :
    Stage m' h' id := by
  unfold Stage at hs ⊢
  rw [hfind, hsignals]
  cases hi : m.instances.find? id with
  | some i =>
    rw [hi] at hs
    exact hs
  | none =>
    rw [hi] at hs
    dsimp only at hs ⊢
    by_cases hlt : id < m.nextId
    · rw [if_pos hlt] at hs
      rw [if_pos (hnext.mpr hlt)]
      exact hs
    · rw [if_neg hlt] at hs
      rw [if_neg fun h => hlt (hnext.mp h)]
      exact hs

variable {c : Machine.Config LifeManager LifeEvent}

/-- **The invariant is kept.** -/
theorem stage_next (op : LifeOp) (h : ∀ id, Stage c.state c.history id) :
    ∀ id, Stage (lifeMachine.next c op).state (lifeMachine.next c op).history id := by
  show ∀ id, Stage (if c.state.possible op then op.action c.state else (c.state, [])).1
    (c.history ++ (if c.state.possible op then op.action c.state else (c.state, [])).2) id
  split_ifs with hpossible
  · intro id
    obtain ⟨project, serviceDir, hnew⟩ | ⟨target, honly, hown⟩ | ⟨hsame, hsilent⟩ :=
      Moves.of_action c.state op hpossible
    · rw [hnew, List.append_nil]
      by_cases hid : id = c.state.nextId
      · -- the new instance is starting, and nothing has been emitted for it
        have hbefore := h id
        have hnone : c.state.instances.find? id = none := by
          cases hi : c.state.instances.find? id with
          | none => rfl
          | some i => exact absurd (c.state.below id i hi) (by omega)
        unfold Stage at hbefore ⊢
        rw [hnone] at hbefore
        dsimp only at hbefore
        rw [if_neg (by omega)] at hbefore
        have hfind : (c.state.emplace project serviceDir).instances.find? id = some
            { id := c.state.nextId, projectId := project.id, serviceId := project.serviceId,
              serviceDir := serviceDir, config := project.config,
              runTimeoutMs := project.schedule.runTimeoutMs } := by
          rw [hid]
          exact SortedMap.find?_insert_self _ _ _
        rw [hfind, hbefore]
        refine ⟨fun _ => ⟨rfl, rfl⟩, fun hne => absurd rfl hne, fun hflag => by cases hflag⟩
      · apply (h id).congr
        · show (c.state.instances.insert c.state.nextId _).find? id = _
          exact SortedMap.find?_insert_of_ne _ hid _
        · show id < c.state.nextId + 1 ↔ id < c.state.nextId
          omega
        · rfl
    · by_cases hid : id = target
      · subst hid
        have hbefore := h id
        unfold Stage at hbefore ⊢
        rw [signals_append, honly.nextId]
        cases hi : c.state.instances.find? id with
        | none =>
          rw [hi] at hown hbefore
          dsimp only at hown hbefore
          rw [hown.1, hown.2, List.append_nil]
          exact hbefore
        | some i =>
          rw [hi] at hown hbefore
          dsimp only at hown hbefore
          have hmoved := Alive.moved hbefore hown
          cases hafter : (op.action c.state).1.instances.find? id with
          | some k => exact hmoved.1 k hafter
          | none =>
            dsimp only
            rw [if_pos (c.state.below id i hi)]
            exact hmoved.2 hafter
      · apply (h id).congr (honly.others id hid)
        · rw [honly.nextId]
        · rw [signals_append, honly.silent id hid, List.append_nil]
    · rw [hsame]
      apply (h id).congr rfl Iff.rfl
      rw [signals_append, hsilent id, List.append_nil]
  · rw [List.append_nil]
    exact h

/-- An instance is in the map exactly until it has finished. -/
theorem Stage.mapped {m : LifeManager} {h : List LifeEvent} {id : Nat} (hs : Stage m h id)
    (hid : id < m.nextId) :
    m.instances.contains id = true ↔ .finished ∉ signals id h := by
  unfold Stage at hs
  cases hi : m.instances.find? id with
  | some i =>
    rw [hi] at hs
    exact iff_of_true (SortedMap.contains_eq_true.mpr ⟨i, hi⟩) hs.not_finished
  | none =>
    rw [hi] at hs
    dsimp only at hs
    rw [if_pos hid] at hs
    obtain ⟨u, hu, -⟩ := hs
    apply iff_of_false
    · rw [SortedMap.contains, hi]
      decide
    · rw [hu]
      simp

/-! ## §6. Runs -/

/-- The manager before its first instance. -/
def lifeStart : Machine.Config LifeManager LifeEvent := Machine.start {}

theorem lifeStart_stage (id : Nat) : Stage lifeStart.state lifeStart.history id := rfl

/-- Signals in order stay in order under a step in time. -/
theorem inOrder_next {op : LifeOp} (hstage : ∀ id, Stage c.state c.history id)
    (hin : ∀ id, id < c.state.nextId → InOrder (signals id c.history))
    (htime : c.state.possible op = true → NotGivenUp c.state op) (id : Nat)
    (hid : id < (lifeMachine.next c op).state.nextId) :
    InOrder (signals id (lifeMachine.next c op).history) := by
  have hempty : InOrder [] := Or.inl (List.nil_prefix)
  -- an id not in use yet has no signals
  have hall : ∀ j, InOrder (signals j c.history) := by
    intro j
    by_cases hj : j < c.state.nextId
    · exact hin j hj
    · have hs := hstage j
      unfold Stage at hs
      cases hi : c.state.instances.find? j with
      | some i => exact absurd (c.state.below j i hi) hj
      | none =>
        rw [hi] at hs
        dsimp only at hs
        rw [if_neg hj] at hs
        rw [hs]
        exact hempty
  revert hid
  show id < (if c.state.possible op then op.action c.state else (c.state, [])).1.nextId →
    InOrder (signals id
      (c.history ++ (if c.state.possible op then op.action c.state else (c.state, [])).2))
  split_ifs with hpossible
  · intro _
    rw [signals_append]
    obtain ⟨project, serviceDir, hnew⟩ | ⟨target, honly, hown⟩ | ⟨-, hsilent⟩ :=
      Moves.of_action c.state op hpossible
    · rw [hnew, signals_nil, List.append_nil]
      exact hall id
    · by_cases heq : id = target
      · subst heq
        have hs := hstage id
        unfold Stage at hs
        cases hi : c.state.instances.find? id with
        | none =>
          rw [hi] at hown
          dsimp only at hown
          rw [hown.2, List.append_nil]
          exact hall id
        | some i =>
          rw [hi] at hown hs
          exact Alive.inOrder_moved hs (hall id) hown (htime hpossible)
      · rw [honly.silent id heq, List.append_nil]
        exact hall id
    · rw [hsilent id, List.append_nil]
      exact hall id
  · intro _
    rw [List.append_nil]
    exact hall id

/-- A report after the failure is out of order. -/
theorem notGivenUp_of_next {op : LifeOp} (hstage : ∀ id, Stage c.state c.history id)
    (hnext : ∀ id, id < (lifeMachine.next c op).state.nextId →
      InOrder (signals id (lifeMachine.next c op).history)) (hpossible : c.state.possible op = true) :
    NotGivenUp c.state op := by
  have hstep : lifeMachine.step c.state op = op.action c.state := if_pos hpossible
  -- what was said of an instance that is starting although it was given up
  have hsaid : ∀ id i, c.state.instances.find? id = some i → i.process = .starting →
      i.startFailedEmitted = true → signals id c.history = [.startFailed] := by
    intro id i hi hp hflag
    have hs := hstage id
    unfold Stage at hs
    rw [hi] at hs
    rw [(hs.starting hp).2, hflag]
    rfl
  have hreport : ∀ id i, c.state.instances.find? id = some i → i.process = .starting →
      ∀ u, signals id (op.action c.state).2 = u → ¬ InOrder ([.startFailed] ++ u) →
        (op.action c.state).1.nextId = c.state.nextId → i.startFailedEmitted = false := by
    intro id i hi hp u hu hout hid
    cases hflag : i.startFailedEmitted with
    | false => rfl
    | true =>
      have hin := hnext id (by
        show id < (lifeMachine.step c.state op).1.nextId
        rw [hstep, hid]
        exact c.state.below id i hi)
      have hhistory : (lifeMachine.next c op).history = c.history ++ (op.action c.state).2 := by
        show c.history ++ (lifeMachine.step c.state op).2 = _
        rw [hstep]
      rw [hhistory, signals_append, hsaid id i hi hp hflag, hu] at hin
      exact absurd hin hout
  unfold NotGivenUp
  split
  · rename_i id
    intro i hi hp
    have haction : ((LifeOp.started id).action c.state).2 = [.instanceStarted id i.projectId] ∧
        ((LifeOp.started id).action c.state).1.nextId = c.state.nextId := by
      show (LifeManager.started id c.state).2 = _ ∧ (LifeManager.started id c.state).1.nextId = _
      unfold LifeManager.started
      rw [hi]
      exact ⟨rfl, rfl⟩
    apply hreport id i hi hp [.started] _ _ haction.2
    · rw [haction.1]
      simp [signals, LifeEvent.signal?]
    · unfold InOrder
      decide
  · rename_i id errorString
    intro i hi hp
    have haction : ((LifeOp.errorOccurred id .failedToStart errorString).action c.state).2 =
          [.instanceStartFailed id i.projectId errorString,
            .instanceFinished id i.projectId (-1) .crashExit] ∧
        ((LifeOp.errorOccurred id .failedToStart errorString).action c.state).1.nextId =
          c.state.nextId := by
      show (LifeManager.errorOccurred id .failedToStart errorString c.state).2 = _ ∧
        (LifeManager.errorOccurred id .failedToStart errorString c.state).1.nextId = _
      unfold LifeManager.errorOccurred
      rw [if_neg (by decide), hi]
      exact ⟨rfl, rfl⟩
    apply hreport id i hi hp [.startFailed, .finished] _ _ haction.2
    · rw [haction.1]
      simp [signals, LifeEvent.signal?]
    · unfold InOrder
      decide
  · trivial

/-- **The life cycle of instances.**  Along every run that Qt allows, the signals of every instance
are "started, finished" or "start failed, finished", each at most once, and the instance is in the
map exactly until it has finished, iff no start is reported that was given up before. -/
theorem life_cycle_iff (ops : List LifeOp) :
    lifeMachine.EveryState LifeCycle lifeStart ops ↔
      lifeMachine.EveryStep
        (fun c op => c.state.possible op = true → NotGivenUp c.state op) lifeStart ops := by
  apply Machine.everyState_iff_everyStep_of_invariant (fun c => ∀ id, Stage c.state c.history id)
  · intro c op h
    exact stage_next op h
  · intro c op hstage hlife
    constructor
    · intro hnext hpossible
      exact notGivenUp_of_next hstage (fun id hid => (hnext id hid).1) hpossible
    · intro htime id hid
      refine ⟨?_, (stage_next op hstage id).mapped hid⟩
      exact inOrder_next hstage (fun id hid => (hlife id hid).1) htime id hid
  · exact lifeStart_stage
  · intro id hid
    exact absurd hid (Nat.not_lt_zero id)

/-- A project of the runs below. -/
def echoProject : Project := { id := "p", name := "P", serviceId := "echo" }

/-- The start timeout fires and kills the process; `started` is delivered before `finished`. -/
def startedTooLate : List LifeOp :=
  [.startInstance echoProject "/srv/echo", .startTimeout 0, .started 0, .finished 0 9 .crashExit]

/-- The instance is reported as failed to start, and then as started. -/
theorem startedTooLate_out_of_order :
    signals 0 (lifeMachine.run lifeStart startedTooLate).history =
        [.startFailed, .started, .finished] ∧
      ¬ lifeMachine.EveryState LifeCycle lifeStart startedTooLate := by
  have hsignals : signals 0 (lifeMachine.run lifeStart startedTooLate).history =
      [.startFailed, .started, .finished] := by decide
  refine ⟨hsignals, ?_⟩
  intro h
  obtain ⟨-, -, -, -, hlast⟩ := h
  have hin : InOrder (signals 0 (lifeMachine.run lifeStart startedTooLate).history) :=
    (hlast 0 (by decide)).1
  rw [hsignals] at hin
  exact absurd hin (by unfold InOrder; decide)

end Stdiolink.Server
