/-
  Stdiolink.Server.ScheduleEngine — `manager/schedule_engine.cpp`.

  The engine keeps its own copies of the project and service maps, one
  fixed-rate timer per project, a failure count and a suppression flag per
  project, and the delayed restarts it has armed.  A delayed restart is a
  `QTimer::singleShot` closure: nothing cancels it, so it is modelled as an entry
  of `restarts` that stays until it fires.

  Every function that can start an instance takes the operating system's answer
  (`SpawnOutcome`) as an input.  When a start fails inside `QProcess::start`, the
  instance manager reports the instance finished while the engine is still in the
  call; `startInstance` below runs the slot at that point.
-/
import Stdiolink.Lib.Action
import Stdiolink.Server.InstanceManager

namespace Stdiolink.Server

open Stdiolink.Lib

/-! ## §1. State and events -/

/-- A running fixed-rate timer with what its closure captured. -/
structure FixedRateTimer where
  timerId : Nat
  intervalMs : Int
  serviceDir : String
  deriving Repr, DecidableEq

/-- An armed delayed restart with what its closure captured. -/
structure RestartTimer where
  timerId : Nat
  projectId : String
  serviceDir : String
  delayMs : Int
  deriving Repr, DecidableEq

/-- Which branch put a project into `m_restartSuppressed`.  The code only asks
for membership; the reason says whether it was a stop or the crash loop. -/
inductive SuppressReason where
  | stopped
  | crashLoop
  deriving Repr, DecidableEq

structure ScheduleEngine where
  services : ServiceMap := SortedMap.empty
  projects : ProjectMap := ProjectMap.empty
  timers : SortedMap String FixedRateTimer := SortedMap.empty
  consecutiveFailures : SortedMap String Int := SortedMap.empty
  restartSuppressed : SortedMap String SuppressReason := SortedMap.empty
  shuttingDown : Bool := false
  restarts : List RestartTimer := []
  nextTimer : Nat := 0

/-- The engine with the instance manager it points to. -/
structure Scheduler where
  engine : ScheduleEngine := {}
  manager : InstanceManager := {}

/-- Which part of the engine called `startInstance`. -/
inductive StartCaller where
  | daemon
  | fixedRate
  deriving Repr, DecidableEq

inductive ScheduleEvent where
  | scheduleTriggered (projectId scheduleType : String)
  | scheduleSuppressed (projectId reason : String) (consecutiveFailures : Int)
  /-- The engine calls `startInstance`; `held` is what it has under the project's id. -/
  | startCall (caller : StartCaller) (project : Project) (serviceDir : String)
      (held : Option Project)
  | instanceCreated (instanceId : Nat) (projectId : String)
  | instanceFinished (instanceId : Nat) (projectId : String) (exitCode : Int)
      (exitStatus : ExitStatus)
  /-- A delayed restart is armed for the record the engine holds. -/
  | restartArmed (restart : RestartTimer) (project : Project)

/-! ## §2. Engine operations -/

namespace ScheduleEngine

/-- `ScheduleEngine::stopAll`. -/
def stopAll (e : ScheduleEngine) : ScheduleEngine :=
  { e with
    timers := SortedMap.empty
    consecutiveFailures := SortedMap.empty
    restartSuppressed := SortedMap.empty }

/-- The first statements of `startAll`: stop everything, take the new maps. -/
def load (e : ScheduleEngine) (projects : ProjectMap) (services : ServiceMap) :
    ScheduleEngine :=
  { e.stopAll with projects := projects, services := services }

/-- The first statements of `startProject`: take the record and the service map, and
clear what the engine knows about the project. -/
def install (e : ScheduleEngine) (project : Project) (services : ServiceMap) :
    ScheduleEngine :=
  { e with
    projects := e.projects.insert project
    services := services
    timers := e.timers.erase project.id
    restartSuppressed := e.restartSuppressed.erase project.id
    consecutiveFailures := e.consecutiveFailures.erase project.id }

/-- `ScheduleEngine::stopProject`. -/
def stopProject (e : ScheduleEngine) (projectId : String) : ScheduleEngine :=
  { e with
    timers := e.timers.erase projectId
    restartSuppressed := e.restartSuppressed.insert projectId .stopped
    consecutiveFailures := e.consecutiveFailures.erase projectId }

/-- `ScheduleEngine::resumeProject`. -/
def resumeProject (e : ScheduleEngine) (projectId : String) : ScheduleEngine :=
  { e with
    restartSuppressed := e.restartSuppressed.erase projectId
    consecutiveFailures := e.consecutiveFailures.erase projectId }

/-- `ScheduleEngine::startFixedRate`: create the timer and start it. -/
def startFixedRate (e : ScheduleEngine) (project : Project) (serviceDir : String) :
    ScheduleEngine :=
  { e with
    timers := e.timers.insert project.id
      ⟨e.nextTimer, project.schedule.intervalMs, serviceDir⟩
    nextTimer := e.nextTimer + 1 }

/-- The closure `onInstanceFinished` hands to `QTimer::singleShot`. -/
def restartFor (e : ScheduleEngine) (project : Project) (serviceDir : String) : RestartTimer :=
  ⟨e.nextTimer, project.id, serviceDir, project.schedule.restartDelayMs⟩

/-- `QTimer::singleShot`: the closure waits until it fires. -/
def armRestart (e : ScheduleEngine) (r : RestartTimer) : ScheduleEngine :=
  { e with restarts := e.restarts ++ [r], nextTimer := e.nextTimer + 1 }

/-- `m_consecutiveFailures.value(projectId, 0)`. -/
def failures (e : ScheduleEngine) (projectId : String) : Int :=
  (e.consecutiveFailures.find? projectId).getD 0

/-- `ScheduleEngine::onInstanceFinished`. -/
def onInstanceFinished (projectId : String) (exitCode : Int) (exitStatus : ExitStatus) :
    Action ScheduleEngine ScheduleEvent := fun e =>
  if e.shuttingDown || e.restartSuppressed.contains projectId then (e, [])
  else
    match e.projects.find? projectId with
    | none => (e, [])
    | some project =>
      if !project.enabled || !project.valid || project.schedule.type ≠ .daemon then (e, [])
      else if exitStatus = .normalExit ∧ exitCode = 0 then
        ({ e with consecutiveFailures := e.consecutiveFailures.erase projectId }, [])
      else
        let failures := e.failures projectId + 1
        let e := { e with consecutiveFailures := e.consecutiveFailures.insert projectId failures }
        if failures ≥ project.schedule.maxConsecutiveFailures then
          ({ e with restartSuppressed := e.restartSuppressed.insert projectId .crashLoop },
            [.scheduleSuppressed projectId "crash_loop" failures])
        else
          match e.services.find? project.serviceId with
          | none => (e, [])
          | some service =>
            let r := e.restartFor project service.serviceDir
            (e.armRestart r, [.restartArmed r project])

end ScheduleEngine

/-! ## §3. Operations that reach the instance manager -/

namespace Scheduler

/-- Run an engine operation. -/
def onEngine (f : ScheduleEngine → ScheduleEngine) : Action Scheduler ScheduleEvent :=
  Action.modify fun s => { s with engine := f s.engine }

/-- Deliver `instanceFinished` to the engine's slot. -/
def notifyFinished (projectId : String) (exitCode : Int) (exitStatus : ExitStatus) :
    Action Scheduler ScheduleEvent := fun s =>
  let out := ScheduleEngine.onInstanceFinished projectId exitCode exitStatus s.engine
  ({ s with engine := out.1 }, out.2)

/-- The end of an instance as the manager handles it (`onProcessFinished`, or the
`FailedToStart` handler): emit `instanceFinished`, then erase the instance. -/
def endInstance (instanceId : Nat) (projectId : String) (exitCode : Int)
    (exitStatus : ExitStatus) : Action Scheduler ScheduleEvent :=
  Action.seq (Action.emit fun _ => .instanceFinished instanceId projectId exitCode exitStatus)
    (Action.seq (notifyFinished projectId exitCode exitStatus)
      (Action.modify fun s => { s with manager := s.manager.remove instanceId }))

/-- A process exits: `onProcessFinished` looks its instance up first. -/
def processFinished (instanceId : Nat) (exitCode : Int) (exitStatus : ExitStatus) :
    Action Scheduler ScheduleEvent := fun s =>
  match s.manager.instances.find? instanceId with
  | none => (s, [])
  | some i => endInstance instanceId i.projectId exitCode exitStatus s

/-- `InstanceManager::startInstance` with its signals. -/
def startInstance (project : Project) (serviceDir : String) (outcome : SpawnOutcome) :
    Action Scheduler ScheduleEvent := fun s =>
  match s.manager.startInstance project serviceDir outcome with
  | .error _ => (s, [])
  | .ok (id, manager) =>
    let created : Scheduler := { s with manager := manager }
    match outcome with
    | .failedToStart =>
      let out := endInstance id project.id (-1) .crashExit created
      (out.1, .instanceCreated id project.id :: out.2)
    | _ => (created, [.instanceCreated id project.id])

/-- A call of `startInstance` by the engine. -/
def callStart (caller : StartCaller) (project : Project) (serviceDir : String)
    (outcome : SpawnOutcome) : Action Scheduler ScheduleEvent :=
  Action.seq
    (Action.emit fun s =>
      .startCall caller project serviceDir (s.engine.projects.find? project.id))
    (startInstance project serviceDir outcome)

/-- `ScheduleEngine::startDaemon`. -/
def startDaemon (project : Project) (serviceDir : String) (outcome : SpawnOutcome) :
    Action Scheduler ScheduleEvent := fun s =>
  if s.engine.shuttingDown || s.engine.restartSuppressed.contains project.id then (s, [])
  else if s.manager.instanceCount project.id > 0 then (s, [])
  else
    Action.seq (Action.emit fun _ => .scheduleTriggered project.id "daemon")
      (callStart .daemon project serviceDir outcome) s

/-- The service lookup and the switch on the schedule type that `startAll` and
`startProject` share. -/
def launch (project : Project) (outcome : SpawnOutcome) :
    Action Scheduler ScheduleEvent := fun s =>
  match s.engine.services.find? project.serviceId with
  | none => (s, [])
  | some service =>
    match project.schedule.type with
    | .manual => (s, [])
    | .fixedRate => onEngine (·.startFixedRate project service.serviceDir) s
    | .daemon => startDaemon project service.serviceDir outcome s

/-- One round of the loop of `startAll`. -/
def startEntry (project : Project) (outcome : SpawnOutcome) :
    Action Scheduler ScheduleEvent := fun s =>
  if !project.enabled || !project.valid then (s, []) else launch project outcome s

/-- `ScheduleEngine::startAll`. -/
def startAll (projects : ProjectMap) (services : ServiceMap) (spawn : String → SpawnOutcome) :
    Action Scheduler ScheduleEvent :=
  Action.seq (onEngine (·.load projects services))
    (Action.forEach projects.values fun p => startEntry p (spawn p.id))

/-- `ScheduleEngine::startProject`. -/
def startProject (project : Project) (services : ServiceMap) (outcome : SpawnOutcome) :
    Action Scheduler ScheduleEvent :=
  Action.seq
    (onEngine (·.install project services))
    (fun s =>
      if s.engine.shuttingDown || !project.enabled || !project.valid then (s, [])
      else launch project outcome s)

/-- The timeout closure of `startFixedRate`, for the timer of `projectId`. -/
def fixedRateTick (projectId : String) (outcome : SpawnOutcome) :
    Action Scheduler ScheduleEvent := fun s =>
  match s.engine.timers.find? projectId with
  | none => (s, [])
  | some timer =>
    if s.engine.shuttingDown then (s, [])
    else
      match s.engine.projects.find? projectId with
      | none => (s, [])
      | some project =>
        if !project.enabled || !project.valid || project.schedule.type ≠ .fixedRate then (s, [])
        else if (s.manager.instanceCount projectId : Int) ≥ project.schedule.maxConcurrent then
          (s, [])
        else
          Action.seq (Action.emit fun _ => .scheduleTriggered projectId "fixed_rate")
            (callStart .fixedRate project timer.serviceDir outcome) s

/-- The armed restart with this timer id. -/
def findRestart (s : Scheduler) (timerId : Nat) : Option RestartTimer :=
  s.engine.restarts.find? fun r => r.timerId = timerId

/-- The closure armed by `onInstanceFinished` fires; it fires once. -/
def restartFires (timerId : Nat) (outcome : SpawnOutcome) :
    Action Scheduler ScheduleEvent := fun s =>
  match s.findRestart timerId with
  | none => (s, [])
  | some r =>
    let s : Scheduler := { s with engine :=
      { s.engine with restarts := s.engine.restarts.filter fun q => q.timerId ≠ timerId } }
    if s.engine.shuttingDown || s.engine.restartSuppressed.contains r.projectId then (s, [])
    else
      match s.engine.projects.find? r.projectId with
      | none => (s, [])
      | some project => startDaemon project r.serviceDir outcome s

end Scheduler

/-! ## §4. What each operation can do -/

namespace ScheduleEngine

/-- **Every outcome of the slot.**  Either nothing happens, or the record the
engine holds runs as a daemon and the exit counts: a normal exit clears the
failure count, an abnormal one suppresses the project, finds its service gone,
or arms a restart. -/
theorem onInstanceFinished_cases (e : ScheduleEngine) (projectId : String) (exitCode : Int)
    (exitStatus : ExitStatus) :
    onInstanceFinished projectId exitCode exitStatus e = (e, []) ∨
    ∃ project, e.shuttingDown = false ∧ e.restartSuppressed.contains projectId = false ∧
      e.projects.find? projectId = some project ∧ project.RunsAs .daemon ∧
      ∃ failures, (∀ other, other ≠ projectId →
          failures.find? other = e.consecutiveFailures.find? other) ∧
        let e' := { e with consecutiveFailures := failures }
        onInstanceFinished projectId exitCode exitStatus e = (e', []) ∨
        (onInstanceFinished projectId exitCode exitStatus e =
          ({ e' with restartSuppressed := e.restartSuppressed.insert projectId .crashLoop },
            [.scheduleSuppressed projectId "crash_loop" (e.failures projectId + 1)])) ∨
        ∃ service, e.services.find? project.serviceId = some service ∧
          onInstanceFinished projectId exitCode exitStatus e =
            (e'.armRestart (e.restartFor project service.serviceDir),
              [.restartArmed (e.restartFor project service.serviceDir) project]) := by
  by_cases hg : e.shuttingDown || e.restartSuppressed.contains projectId
  · left
    simp [onInstanceFinished, hg]
  cases hp : e.projects.find? projectId with
  | none =>
    left
    simp [onInstanceFinished, hg, hp]
  | some project =>
    by_cases hr : project.RunsAs .daemon
    · right
      obtain ⟨hen, hv, ht⟩ := hr
      simp only [Bool.or_eq_true, not_or, Bool.not_eq_true] at hg
      refine ⟨project, hg.1, hg.2, rfl, ⟨hen, hv, ht⟩, ?_⟩
      by_cases hx : exitStatus = .normalExit ∧ exitCode = 0
      · refine ⟨e.consecutiveFailures.erase projectId,
          fun other hne => by rw [SortedMap.find?_erase, if_neg hne], Or.inl ?_⟩
        simp [onInstanceFinished, hg, hp, hen, hv, ht, hx]
      · refine ⟨e.consecutiveFailures.insert projectId (e.failures projectId + 1),
          fun other hne => by rw [SortedMap.find?_insert, if_neg hne], ?_⟩
        by_cases hmax : e.failures projectId + 1 ≥ project.schedule.maxConsecutiveFailures
        · right; left
          simp [onInstanceFinished, hg, hp, hen, hv, ht, hx, hmax]
        · cases hs : e.services.find? project.serviceId with
          | none =>
            left
            simp [onInstanceFinished, hg, hp, hen, hv, ht, hx, hmax, hs]
          | some service =>
            right; right
            refine ⟨service, rfl, ?_⟩
            simp [onInstanceFinished, hg, hp, hen, hv, ht, hx, hmax, hs, restartFor]
    · left
      simp only [onInstanceFinished, hg, hp, Bool.false_eq_true, if_false]
      simp
      intro hen hv ht
      exact absurd ⟨hen, hv, ht⟩ hr

/-- The two engines have the same records, timers and shutdown flag: what the slot
and the starts leave alone. -/
structure SameRecords (e e' : ScheduleEngine) : Prop where
  projects : e'.projects = e.projects
  services : e'.services = e.services
  timers : e'.timers = e.timers
  shuttingDown : e'.shuttingDown = e.shuttingDown

@[refl] theorem SameRecords.refl (e : ScheduleEngine) : SameRecords e e :=
  ⟨rfl, rfl, rfl, rfl⟩

theorem onInstanceFinished_sameRecords (e : ScheduleEngine) (projectId : String)
    (exitCode : Int) (exitStatus : ExitStatus) :
    SameRecords e (onInstanceFinished projectId exitCode exitStatus e).1 := by
  rcases onInstanceFinished_cases e projectId exitCode exitStatus with
    h | ⟨_, -, -, -, -, _, -, h | h | ⟨_, -, h⟩⟩
  · rw [h]
  all_goals
    rw [h]
    exact ⟨rfl, rfl, rfl, rfl⟩

end ScheduleEngine

namespace Scheduler

open ScheduleEngine (SameRecords)

variable (project : Project) (serviceDir : String) (outcome : SpawnOutcome) (s : Scheduler)

/-- **Every outcome of a start.**  The manager refuses and nothing changes, the
instance runs, or it has failed to start and is already finished. -/
theorem startInstance_cases :
    (startInstance project serviceDir outcome s = (s, []) ∧
      ¬ (project.valid = true ∧ serviceDir ≠ "" ∧ ∀ error, outcome ≠ .refused error)) ∨
    project.valid = true ∧ serviceDir ≠ "" ∧
      let created : Scheduler := { s with manager := s.manager.add project serviceDir }
      (outcome = .running ∧ startInstance project serviceDir outcome s =
          (created, [.instanceCreated s.manager.nextId project.id])) ∨
      (outcome = .failedToStart ∧ startInstance project serviceDir outcome s =
          ((endInstance s.manager.nextId project.id (-1) .crashExit created).1,
            .instanceCreated s.manager.nextId project.id ::
              (endInstance s.manager.nextId project.id (-1) .crashExit created).2)) := by
  by_cases h : project.valid = true ∧ serviceDir ≠ "" ∧ ∀ error, outcome ≠ .refused error
  · right
    obtain ⟨hv, hd, hout⟩ := h
    refine ⟨hv, hd, ?_⟩
    cases outcome with
    | refused error => exact absurd rfl (hout error)
    | running =>
      left
      simp [startInstance, InstanceManager.startInstance, hv, hd]
    | failedToStart =>
      right
      simp [startInstance, InstanceManager.startInstance, hv, hd]
  · left
    refine ⟨?_, h⟩
    cases hstart : s.manager.startInstance project serviceDir outcome with
    | error e => simp [startInstance, hstart]
    | ok r =>
      obtain ⟨hv, hd, -, -⟩ := InstanceManager.startInstance_ok hstart
      refine absurd ⟨hv, hd, ?_⟩ h
      rintro error rfl
      simp [InstanceManager.startInstance, hv, hd] at hstart

theorem endInstance_sameRecords (instanceId : Nat) (projectId : String) (exitCode : Int)
    (exitStatus : ExitStatus) (s : Scheduler) :
    SameRecords s.engine (endInstance instanceId projectId exitCode exitStatus s).1.engine :=
  ScheduleEngine.onInstanceFinished_sameRecords s.engine projectId exitCode exitStatus

theorem startInstance_sameRecords :
    SameRecords s.engine (startInstance project serviceDir outcome s).1.engine := by
  rcases startInstance_cases project serviceDir outcome s with
    ⟨h, -⟩ | ⟨-, -, ⟨-, h⟩ | ⟨-, h⟩⟩
  · rw [h]
  · rw [h]
  · rw [h]
    exact endInstance_sameRecords _ _ _ _ { s with manager := s.manager.add project serviceDir }

/-- What `startDaemon` asks before it starts: no shutdown, no suppression, no live
instance. -/
def DaemonMayStart (s : Scheduler) (projectId : String) : Prop :=
  s.engine.shuttingDown = false ∧ s.engine.restartSuppressed.contains projectId = false ∧
    s.manager.instanceCount projectId = 0

instance (s : Scheduler) (projectId : String) : Decidable (s.DaemonMayStart projectId) :=
  inferInstanceAs (Decidable (_ ∧ _ ∧ _))

theorem startDaemon_of_mayStart {s : Scheduler} {project : Project}
    (h : s.DaemonMayStart project.id) (serviceDir : String) (outcome : SpawnOutcome) :
    startDaemon project serviceDir outcome s =
      ((callStart .daemon project serviceDir outcome s).1,
        .scheduleTriggered project.id "daemon" ::
          (callStart .daemon project serviceDir outcome s).2) := by
  obtain ⟨hsd, hsup, hcount⟩ := h
  simp [startDaemon, hsd, hsup, hcount]

theorem startDaemon_of_not_mayStart {s : Scheduler} {project : Project}
    (h : ¬ s.DaemonMayStart project.id) (serviceDir : String) (outcome : SpawnOutcome) :
    startDaemon project serviceDir outcome s = (s, []) := by
  unfold startDaemon
  split_ifs with hg hc
  · rfl
  · rfl
  · simp only [Bool.or_eq_true, not_or, Bool.not_eq_true] at hg
    exact absurd ⟨hg.1, hg.2, by omega⟩ h

theorem callStart_sameRecords (caller : StartCaller) (project : Project) (serviceDir : String)
    (outcome : SpawnOutcome) (s : Scheduler) :
    SameRecords s.engine (callStart caller project serviceDir outcome s).1.engine :=
  startInstance_sameRecords project serviceDir outcome s

theorem startDaemon_sameRecords :
    SameRecords s.engine (startDaemon project serviceDir outcome s).1.engine := by
  by_cases h : s.DaemonMayStart project.id
  · rw [startDaemon_of_mayStart h]
    exact callStart_sameRecords _ _ _ _ s
  · rw [startDaemon_of_not_mayStart h]

/-- Launching changes neither record map, and takes no shutdown back. -/
theorem launch_frame :
    (launch project outcome s).1.engine.projects = s.engine.projects ∧
      (launch project outcome s).1.engine.services = s.engine.services ∧
      (launch project outcome s).1.engine.shuttingDown = s.engine.shuttingDown := by
  unfold launch
  split
  · exact ⟨rfl, rfl, rfl⟩
  · split
    · exact ⟨rfl, rfl, rfl⟩
    · exact ⟨rfl, rfl, rfl⟩
    · have h := startDaemon_sameRecords project ‹ServiceInfo›.serviceDir outcome s
      exact ⟨h.projects, h.services, h.shuttingDown⟩

theorem startEntry_projects :
    (startEntry project outcome s).1.engine.projects = s.engine.projects ∧
      (startEntry project outcome s).1.engine.services = s.engine.services := by
  unfold startEntry
  split_ifs
  · exact ⟨rfl, rfl⟩
  · have h := launch_frame project outcome s
    exact ⟨h.1, h.2.1⟩

/-- `startProject` installs the record, then launches it unless it may not run. -/
theorem startProject_eq (services : ServiceMap) (outcome : SpawnOutcome) (s : Scheduler) :
    startProject project services outcome s =
      (let installed : Scheduler := { s with engine := s.engine.install project services }
      if s.engine.shuttingDown || !project.enabled || !project.valid then (installed, [])
      else launch project outcome installed) := by
  simp only [startProject, Action.seq_apply, onEngine, Action.modify_apply, List.nil_append]
  rfl

/-- A tick does nothing, or starts a project that runs at a fixed rate and is
below its limit. -/
theorem fixedRateTick_cases (projectId : String) (outcome : SpawnOutcome) (s : Scheduler) :
    fixedRateTick projectId outcome s = (s, []) ∨
    ∃ timer project, s.engine.timers.find? projectId = some timer ∧
      s.engine.shuttingDown = false ∧ s.engine.projects.find? projectId = some project ∧
      project.RunsAs .fixedRate ∧
      (s.manager.instanceCount projectId : Int) < project.schedule.maxConcurrent ∧
      fixedRateTick projectId outcome s =
        ((callStart .fixedRate project timer.serviceDir outcome s).1,
          .scheduleTriggered projectId "fixed_rate" ::
            (callStart .fixedRate project timer.serviceDir outcome s).2) := by
  unfold fixedRateTick
  cases ht : s.engine.timers.find? projectId with
  | none => exact Or.inl rfl
  | some timer =>
    cases hsd : s.engine.shuttingDown with
    | true => exact Or.inl (by simp)
    | false =>
      cases hp : s.engine.projects.find? projectId with
      | none => exact Or.inl (by simp)
      | some project =>
        by_cases hr : project.RunsAs .fixedRate
        · by_cases hc : (s.manager.instanceCount projectId : Int) ≥ project.schedule.maxConcurrent
          · left
            simp [hr.1, hr.2.1, hr.2.2, hc]
          · right
            refine ⟨timer, project, rfl, rfl, rfl, hr, by omega, ?_⟩
            simp [hr.1, hr.2.1, hr.2.2, hc]
        · left
          simp only [Project.RunsAs, not_and] at hr
          simp only [Bool.false_eq_true, if_false]
          cases hen : project.enabled <;> cases hv : project.valid <;> simp_all

/-- Take a fired restart out of the armed ones. -/
def popRestart (s : Scheduler) (timerId : Nat) : Scheduler :=
  { s with engine :=
    { s.engine with restarts := s.engine.restarts.filter fun q => q.timerId ≠ timerId } }

/-- A firing restart is taken out; then it does nothing, or hands the record the
engine holds now to `startDaemon`. -/
theorem restartFires_cases (timerId : Nat) (outcome : SpawnOutcome) (s : Scheduler) :
    (s.findRestart timerId = none ∧ restartFires timerId outcome s = (s, [])) ∨
    ∃ r, s.findRestart timerId = some r ∧
      ((¬ s.DaemonMayStart r.projectId ∨ s.engine.projects.find? r.projectId = none) ∧
          restartFires timerId outcome s = (s.popRestart timerId, []) ∨
        ∃ project, s.DaemonMayStart r.projectId ∧
          s.engine.projects.find? r.projectId = some project ∧
          restartFires timerId outcome s =
            startDaemon project r.serviceDir outcome (s.popRestart timerId)) := by
  unfold restartFires
  cases hr : s.findRestart timerId with
  | none => exact Or.inl ⟨rfl, rfl⟩
  | some r =>
    refine Or.inr ⟨r, rfl, ?_⟩
    cases hp : s.engine.projects.find? r.projectId with
    | none =>
      left
      refine ⟨Or.inr rfl, ?_⟩
      simp [hp, popRestart]
    | some project =>
      have hid : project.id = r.projectId := ProjectMap.id_of_find? hp
      by_cases hm : s.DaemonMayStart r.projectId
      · right
        refine ⟨project, hm, rfl, ?_⟩
        simp [hp, hm.1, hm.2.1, popRestart]
      · left
        refine ⟨Or.inl hm, ?_⟩
        have hm' : ¬ (s.popRestart timerId).DaemonMayStart project.id := by
          rw [hid]
          exact hm
        simp only [hp]
        split_ifs
        · rfl
        · exact startDaemon_of_not_mayStart hm' _ _

theorem fixedRateTick_sameRecords (projectId : String) (outcome : SpawnOutcome) (s : Scheduler) :
    SameRecords s.engine (fixedRateTick projectId outcome s).1.engine := by
  obtain h | ⟨timer, p, -, -, -, -, -, h⟩ := fixedRateTick_cases projectId outcome s
  · rw [h]
  · rw [h]
    exact callStart_sameRecords .fixedRate p timer.serviceDir outcome s

theorem restartFires_sameRecords (timerId : Nat) (outcome : SpawnOutcome) (s : Scheduler) :
    SameRecords s.engine (restartFires timerId outcome s).1.engine := by
  obtain ⟨-, h⟩ | ⟨r, -, ⟨-, h⟩ | ⟨p, -, -, h⟩⟩ := restartFires_cases timerId outcome s
  · rw [h]
  · rw [h]
    exact ⟨rfl, rfl, rfl, rfl⟩
  · rw [h]
    have hstart := startDaemon_sameRecords p r.serviceDir outcome (s.popRestart timerId)
    exact ⟨hstart.projects, hstart.services, hstart.timers, hstart.shuttingDown⟩

theorem processFinished_sameRecords (instanceId : Nat) (exitCode : Int) (exitStatus : ExitStatus)
    (s : Scheduler) :
    SameRecords s.engine (processFinished instanceId exitCode exitStatus s).1.engine := by
  unfold processFinished
  split
  · rfl
  · exact endInstance_sameRecords _ _ _ _ s

end Scheduler

end Stdiolink.Server
