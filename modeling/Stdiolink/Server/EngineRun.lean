/-
  Stdiolink.Server.EngineRun — runs of the schedule engine.

  The engine is driven by its own API (`startAll`, `startProject`, `stopProject`,
  `resumeProject`, `stopAll`, `setShuttingDown`), by finished instances, by its
  two kinds of timers and, on the manager's side, by starts it did not ask for.
  A run is a list of such operations in any order.

  Main results:
    * `starts_eligible_iff` — every start is for an enabled, valid project of
      the caller's schedule type, iff every delayed restart that reaches
      `startDaemon` finds such a record;
    * `shutting_down_final` — an engine that shuts down starts nothing any more.
-/
import Stdiolink.Lib.Machine
import Stdiolink.Server.ScheduleEngine

namespace Stdiolink.Server

open Stdiolink.Lib

/-! ## §1. The machine -/

/-- One step of a run of the engine and its instance manager. -/
inductive EngineOp where
  | startAll (projects : ProjectMap) (services : ServiceMap) (spawn : String → SpawnOutcome)
  | startProject (project : Project) (services : ServiceMap) (outcome : SpawnOutcome)
  | stopProject (projectId : String)
  | resumeProject (projectId : String)
  | stopAll
  | setShuttingDown (value : Bool)
  /-- A bare notification, tied to no live instance. -/
  | instanceFinished (projectId : String) (exitCode : Int) (exitStatus : ExitStatus)
  /-- The process of a live instance exits. -/
  | processFinished (instanceId : Nat) (exitCode : Int) (exitStatus : ExitStatus)
  | fixedRateTick (projectId : String) (outcome : SpawnOutcome)
  | restartFires (timerId : Nat) (outcome : SpawnOutcome)
  /-- `InstanceManager::startInstance` called from outside the engine. -/
  | manualStart (project : Project) (serviceDir : String) (outcome : SpawnOutcome)

/-- What the operation does. -/
def EngineOp.action : EngineOp → Action Scheduler ScheduleEvent
  | .startAll projects services spawn => Scheduler.startAll projects services spawn
  | .startProject project services outcome => Scheduler.startProject project services outcome
  | .stopProject projectId => Scheduler.onEngine (·.stopProject projectId)
  | .resumeProject projectId => Scheduler.onEngine (·.resumeProject projectId)
  | .stopAll => Scheduler.onEngine (·.stopAll)
  | .setShuttingDown value => Scheduler.onEngine fun e => { e with shuttingDown := value }
  | .instanceFinished projectId exitCode exitStatus =>
      Scheduler.notifyFinished projectId exitCode exitStatus
  | .processFinished instanceId exitCode exitStatus =>
      Scheduler.processFinished instanceId exitCode exitStatus
  | .fixedRateTick projectId outcome => Scheduler.fixedRateTick projectId outcome
  | .restartFires timerId outcome => Scheduler.restartFires timerId outcome
  | .manualStart project serviceDir outcome => Scheduler.startInstance project serviceDir outcome

/-- The engine with its instance manager as a machine. -/
def engineMachine : Machine Scheduler EngineOp ScheduleEvent where
  step s op := op.action s

@[simp] theorem engineMachine_step (s : Scheduler) (op : EngineOp) :
    engineMachine.step s op = op.action s := rfl

/-! ## §2. Eligible starts -/

/-- The schedule type a caller of `startInstance` starts. -/
def StartCaller.type : StartCaller → ScheduleType
  | .daemon => .daemon
  | .fixedRate => .fixedRate

/-- A start is eligible: the record the engine holds for the project is enabled,
valid and of the caller's schedule type. -/
def ScheduleEvent.Eligible : ScheduleEvent → Prop
  | .startCall caller _ _ held => ∃ p, held = some p ∧ p.RunsAs caller.type
  | _ => True

instance (e : ScheduleEvent) : Decidable e.Eligible :=
  match e with
  | .startCall caller _ _ (some p) =>
      decidable_of_iff (p.RunsAs caller.type) (by simp [ScheduleEvent.Eligible])
  | .startCall _ _ _ none => isFalse (by simp [ScheduleEvent.Eligible])
  | .scheduleTriggered .. | .scheduleSuppressed .. | .instanceCreated ..
  | .instanceFinished .. | .restartArmed .. => isTrue trivial

/-- The restart at this step, if it gets past every guard on its way to
`startDaemon`'s call, finds a record that still runs as a daemon. -/
def RestartFindsDaemon (s : Scheduler) : EngineOp → Prop
  | .restartFires timerId _ =>
      ∀ r, s.findRestart timerId = some r → s.DaemonMayStart r.projectId →
        ∀ project, s.engine.projects.find? r.projectId = some project → project.RunsAs .daemon
  | _ => True

/-- All events emitted so far are eligible. -/
def AllEligible (h : List ScheduleEvent) : Prop := ∀ e ∈ h, e.Eligible

theorem AllEligible.append {h h' : List ScheduleEvent} (hh : AllEligible h)
    (hh' : AllEligible h') : AllEligible (h ++ h') :=
  List.forall_mem_append.mpr ⟨hh, hh'⟩

/-- The events contain no call of `startInstance` by the engine. -/
def NoStartCall (h : List ScheduleEvent) : Prop :=
  ∀ caller project serviceDir held, .startCall caller project serviceDir held ∉ h

theorem NoStartCall.allEligible {h : List ScheduleEvent} (hno : NoStartCall h) :
    AllEligible h := by
  intro e he
  cases e with
  | startCall caller project serviceDir held => exact absurd he (hno _ _ _ _)
  | _ => trivial

theorem onInstanceFinished_noStartCall (projectId : String) (exitCode : Int)
    (exitStatus : ExitStatus) (e : ScheduleEngine) :
    NoStartCall (ScheduleEngine.onInstanceFinished projectId exitCode exitStatus e).2 := by
  rcases ScheduleEngine.onInstanceFinished_cases e projectId exitCode exitStatus with
    h | ⟨_, -, -, -, -, _, -, h | h | ⟨_, -, h⟩⟩
  all_goals
    rw [h]
    simp [NoStartCall]

theorem endInstance_noStartCall (instanceId : Nat) (projectId : String) (exitCode : Int)
    (exitStatus : ExitStatus) (s : Scheduler) :
    NoStartCall (Scheduler.endInstance instanceId projectId exitCode exitStatus s).2 := by
  have h := onInstanceFinished_noStartCall projectId exitCode exitStatus s.engine
  simpa [Scheduler.endInstance, Scheduler.notifyFinished, NoStartCall] using h

/-- A start reports a creation and possibly an end, never a start call. -/
theorem startInstance_noStartCall (project : Project) (serviceDir : String)
    (outcome : SpawnOutcome) (s : Scheduler) :
    NoStartCall (Scheduler.startInstance project serviceDir outcome s).2 := by
  rcases Scheduler.startInstance_cases project serviceDir outcome s with
    ⟨h, -⟩ | ⟨-, -, ⟨-, h⟩ | ⟨-, h⟩⟩
  · simp [h, NoStartCall]
  · simp [h, NoStartCall]
  · have hend := endInstance_noStartCall s.manager.nextId project.id (-1) .crashExit
      { s with manager := s.manager.add project serviceDir }
    rw [h]
    simpa [NoStartCall] using hend

variable {s : Scheduler} {project : Project} {outcome : SpawnOutcome}

/-- The one start call of `callStart` carries the record the engine holds. -/
theorem callStart_eligible (caller : StartCaller) (project : Project) (serviceDir : String)
    (outcome : SpawnOutcome) :
    AllEligible (Scheduler.callStart caller project serviceDir outcome s).2 ↔
      ∃ p, s.engine.projects.find? project.id = some p ∧ p.RunsAs caller.type := by
  have h := (startInstance_noStartCall project serviceDir outcome s).allEligible
  constructor
  · intro hall
    exact hall (.startCall caller project serviceDir (s.engine.projects.find? project.id))
      (by simp [Scheduler.callStart])
  · rintro ⟨p, hp, hrun⟩
    refine AllEligible.append (h := [_]) ?_ h
    intro e he
    rw [List.mem_singleton.mp he]
    exact ⟨p, hp, hrun⟩

/-- `startDaemon` is eligible unless it gets past its guards with a record that
does not run as a daemon. -/
theorem startDaemon_eligible {serviceDir : String}
    (hheld : s.engine.projects.find? project.id = some project) :
    AllEligible (Scheduler.startDaemon project serviceDir outcome s).2 ↔
      (s.DaemonMayStart project.id → project.RunsAs .daemon) := by
  by_cases hm : s.DaemonMayStart project.id
  · have htrig : AllEligible [.scheduleTriggered project.id "daemon"] := by
      simp [AllEligible, ScheduleEvent.Eligible]
    have hcall := callStart_eligible .daemon project serviceDir outcome (s := s)
    rw [Scheduler.startDaemon_of_mayStart hm]
    constructor
    · intro h _
      obtain ⟨p, hp, hrun⟩ := hcall.mp fun e he => h e (List.mem_cons_of_mem _ he)
      rw [hheld] at hp
      rwa [Option.some.inj hp]
    · intro hrun
      exact htrig.append (hcall.mpr ⟨project, hheld, hrun hm⟩)
  · rw [Scheduler.startDaemon_of_not_mayStart hm]
    exact iff_of_true (by simp [AllEligible]) fun h => absurd h hm

/-- A record launched from the map it is held in is eligible. -/
theorem launch_eligible (hheld : s.engine.projects.find? project.id = some project)
    (hen : project.enabled = true) (hv : project.valid = true) :
    AllEligible (Scheduler.launch project outcome s).2 := by
  unfold Scheduler.launch
  split
  · simp [AllEligible]
  · cases ht : project.schedule.type with
    | manual => simp [AllEligible]
    | fixedRate => simp [AllEligible, Scheduler.onEngine]
    | daemon => exact (startDaemon_eligible hheld).mpr fun _ => ⟨hen, hv, ht⟩

theorem startEntry_eligible (hheld : s.engine.projects.find? project.id = some project) :
    AllEligible (Scheduler.startEntry project outcome s).2 := by
  unfold Scheduler.startEntry
  split_ifs with hbad
  · simp [AllEligible]
  · simp only [Bool.or_eq_true, Bool.not_eq_true', not_or, Bool.not_eq_false] at hbad
    exact launch_eligible hheld hbad.1 hbad.2

/-- The loop of `startAll` iterates over the map it has just installed. -/
theorem startAll_eligible (projects : ProjectMap) (services : ServiceMap)
    (spawn : String → SpawnOutcome) (s : Scheduler) :
    AllEligible (Scheduler.startAll projects services spawn s).2 := by
  have hloop : Action.Sat (fun h s => s.engine.projects = projects ∧ AllEligible h)
      (Action.forEach projects.values fun p => Scheduler.startEntry p (spawn p.id))
      (fun h s => s.engine.projects = projects ∧ AllEligible h) := by
    refine Action.Sat.forEach fun p hp h s hs => ⟨?_, ?_⟩
    · rw [(Scheduler.startEntry_projects p (spawn p.id) s).1, hs.1]
    · refine hs.2.append (startEntry_eligible ?_)
      rw [hs.1]
      exact ProjectMap.mem_values.mp hp
  exact (hloop [] _ ⟨rfl, by simp [AllEligible]⟩).2

theorem startProject_eligible (project : Project) (services : ServiceMap)
    (outcome : SpawnOutcome) (s : Scheduler) :
    AllEligible (Scheduler.startProject project services outcome s).2 := by
  rw [Scheduler.startProject_eq]
  dsimp only
  split_ifs with hbad
  · simp [AllEligible]
  · simp only [Bool.or_eq_true, Bool.not_eq_true', not_or, Bool.not_eq_true,
      Bool.not_eq_false] at hbad
    exact launch_eligible (ProjectMap.find?_insert_self s.engine.projects project)
      hbad.1.2 hbad.2

theorem fixedRateTick_eligible (projectId : String) (outcome : SpawnOutcome) (s : Scheduler) :
    AllEligible (Scheduler.fixedRateTick projectId outcome s).2 := by
  rcases Scheduler.fixedRateTick_cases projectId outcome s with
    h | ⟨timer, project, -, -, hp, hrun, -, h⟩
  · simp [h, AllEligible]
  · rw [h]
    refine AllEligible.append (h := [_]) (by simp [AllEligible, ScheduleEvent.Eligible]) ?_
    refine (callStart_eligible _ _ _ _).mpr ⟨project, ?_, hrun⟩
    rwa [ProjectMap.id_of_find? hp]

theorem onEngine_allEligible (f : ScheduleEngine → ScheduleEngine) (s : Scheduler) :
    AllEligible (Scheduler.onEngine f s).2 := by
  simp [Scheduler.onEngine, AllEligible]

/-- **The step lemma.**  Only a delayed restart can start an ineligible project,
and it does exactly when its guards pass and its record no longer runs as a daemon. -/
theorem action_eligible_iff (op : EngineOp) (s : Scheduler) :
    AllEligible (op.action s).2 ↔ RestartFindsDaemon s op := by
  cases op with
  | startAll projects services spawn =>
    exact iff_of_true (startAll_eligible projects services spawn s) trivial
  | startProject project services outcome =>
    exact iff_of_true (startProject_eligible project services outcome s) trivial
  | stopProject _ => exact iff_of_true (onEngine_allEligible _ s) trivial
  | resumeProject _ => exact iff_of_true (onEngine_allEligible _ s) trivial
  | stopAll => exact iff_of_true (onEngine_allEligible _ s) trivial
  | setShuttingDown _ => exact iff_of_true (onEngine_allEligible _ s) trivial
  | instanceFinished projectId exitCode exitStatus =>
    exact iff_of_true
      (onInstanceFinished_noStartCall projectId exitCode exitStatus s.engine).allEligible trivial
  | processFinished instanceId exitCode exitStatus =>
    refine iff_of_true ?_ trivial
    simp only [EngineOp.action, Scheduler.processFinished]
    split
    · simp [AllEligible]
    · exact (endInstance_noStartCall _ _ _ _ s).allEligible
  | fixedRateTick projectId outcome =>
    exact iff_of_true (fixedRateTick_eligible projectId outcome s) trivial
  | manualStart project serviceDir outcome =>
    exact iff_of_true (startInstance_noStartCall project serviceDir outcome s).allEligible trivial
  | restartFires timerId outcome =>
    simp only [EngineOp.action, RestartFindsDaemon]
    rcases Scheduler.restartFires_cases timerId outcome s with
      ⟨hr, h⟩ | ⟨r, hr, ⟨hstop, h⟩ | ⟨project, hm, hp, h⟩⟩
    · simp [h, hr, AllEligible]
    · rw [h]
      refine iff_of_true (by simp [AllEligible]) ?_
      intro r' hr' hm project hp
      obtain rfl := Option.some.inj (hr.symm.trans hr')
      rcases hstop with hstop | hnone
      · exact absurd hm hstop
      · simp [hnone] at hp
    · have hid := ProjectMap.id_of_find? hp
      rw [h, startDaemon_eligible (by rw [hid]; exact hp), hid]
      constructor
      · intro hrun r' hr' _ p' hp'
        obtain rfl := Option.some.inj (hr.symm.trans hr')
        obtain rfl := Option.some.inj (hp.symm.trans hp')
        exact hrun hm
      · intro hcond _
        exact hcond r hr hm project hp

/-! ## §3. Runs -/

/-- **Eligible starts.**  Along every run every start is eligible, iff every
delayed restart that gets past its guards finds a record that runs as a daemon. -/
theorem starts_eligible_iff (ops : List EngineOp) :
    engineMachine.EveryStep (fun c op => ∀ e ∈ (engineMachine.step c.state op).2, e.Eligible)
        (Machine.start {}) ops ↔
      engineMachine.EveryStep (fun c op => RestartFindsDaemon c.state op)
        (Machine.start {}) ops :=
  Machine.everyStep_congr_of_invariant (fun _ => True) (fun _ _ _ => trivial)
    (fun c op _ => action_eligible_iff op c.state) trivial

/-! ## §4. A replaced record -/

/-- The service of the runs below. -/
def echoService : ServiceInfo :=
  { id := "echo", name := "Echo", version := "1", serviceDir := "/srv/echo" }

def echoServices : ServiceMap := SortedMap.empty.insert "echo" echoService

/-- A daemon project on that service. -/
def echoDaemon : Project :=
  { id := "p", name := "P", serviceId := "echo", schedule := { type := .daemon } }

/-- The daemon crashes; before its restart fires the project is disabled and the
engine is loaded with the new record. -/
def disabledBeforeRestart : List EngineOp :=
  [.startAll (ProjectMap.empty.insert echoDaemon) echoServices fun _ => .running,
    .processFinished 0 1 .normalExit,
    .startAll (ProjectMap.empty.insert { echoDaemon with enabled := false }) echoServices
      fun _ => .running,
    .restartFires 0 .running]

theorem disabled_daemon_restarted :
    ¬ engineMachine.EveryStep
        (fun c op => ∀ e ∈ (engineMachine.step c.state op).2, e.Eligible)
        (Machine.start {}) disabledBeforeRestart := by
  rintro ⟨-, -, -, h, -⟩
  revert h
  decide

/-! ## §5. Shutting down -/

/-- The end of an instance, or a creation that somebody else than the engine asks for. -/
def EngineOp.Quiet (op : EngineOp) : ScheduleEvent → Prop
  | .instanceFinished .. => True
  | .instanceCreated _ projectId =>
      ∃ project serviceDir outcome, op = .manualStart project serviceDir outcome ∧
        projectId = project.id
  | _ => False

/-- Nothing is started; a timer may be armed. -/
theorem startEntry_down (project : Project) (outcome : SpawnOutcome) {s : Scheduler}
    (hdown : s.engine.shuttingDown = true) :
    (Scheduler.startEntry project outcome s).1.engine.shuttingDown = true ∧
      (Scheduler.startEntry project outcome s).2 = [] := by
  unfold Scheduler.startEntry Scheduler.launch
  split_ifs
  · exact ⟨hdown, rfl⟩
  · cases s.engine.services.find? project.serviceId with
    | none => exact ⟨hdown, rfl⟩
    | some service =>
      cases project.schedule.type <;> simp [Scheduler.startDaemon, Scheduler.onEngine, hdown,
        ScheduleEngine.startFixedRate]

/-- **The step lemma**, for an engine that is shutting down. -/
theorem action_down {op : EngineOp} {s : Scheduler} (hdown : s.engine.shuttingDown = true)
    (hop : op ≠ .setShuttingDown false) :
    (op.action s).1.engine.shuttingDown = true ∧ ∀ e ∈ (op.action s).2, op.Quiet e := by
  have hslot : ∀ projectId exitCode exitStatus,
      ScheduleEngine.onInstanceFinished projectId exitCode exitStatus s.engine = (s.engine, []) := by
    intro projectId exitCode exitStatus
    simp [ScheduleEngine.onInstanceFinished, hdown]
  cases op with
  | startAll projects services spawn =>
    have hloop : Action.Sat (fun h (s : Scheduler) => s.engine.shuttingDown = true ∧ h = [])
        (Action.forEach projects.values fun p => Scheduler.startEntry p (spawn p.id))
        (fun h s => s.engine.shuttingDown = true ∧ h = []) := by
      refine Action.Sat.forEach fun p _ h s hs => ?_
      rw [hs.2]
      exact startEntry_down p (spawn p.id) hs.1
    obtain ⟨hdown', hnone⟩ := hloop [] ⟨s.engine.load projects services, s.manager⟩ ⟨hdown, rfl⟩
    exact ⟨hdown', fun e he => absurd (hnone ▸ he : e ∈ []) (by simp)⟩
  | setShuttingDown value =>
    cases value with
    | true => exact ⟨rfl, by simp [EngineOp.action, Scheduler.onEngine]⟩
    | false => exact absurd rfl hop
  | processFinished instanceId exitCode exitStatus =>
    simp only [EngineOp.action, Scheduler.processFinished]
    split <;> simp [Scheduler.endInstance, Scheduler.notifyFinished, hslot, hdown, EngineOp.Quiet]
  | fixedRateTick projectId outcome =>
    simp only [EngineOp.action, Scheduler.fixedRateTick]
    split <;> simp [hdown]
  | restartFires timerId outcome =>
    simp only [EngineOp.action, Scheduler.restartFires]
    split <;> simp [hdown]
  | manualStart project serviceDir outcome =>
    simp only [EngineOp.action]
    rcases Scheduler.startInstance_cases project serviceDir outcome s with
      ⟨h, -⟩ | ⟨-, -, ⟨-, h⟩ | ⟨-, h⟩⟩ <;>
    simp [h, Scheduler.endInstance, Scheduler.notifyFinished, hslot, hdown, EngineOp.Quiet]
  | stopAll => exact ⟨hdown, by simp [EngineOp.action, Scheduler.onEngine]⟩
  | _ =>
    simp [EngineOp.action, Scheduler.onEngine, Scheduler.startProject_eq, Scheduler.notifyFinished,
      ScheduleEngine.stopProject, ScheduleEngine.resumeProject, ScheduleEngine.install, hslot,
      hdown]

/-- **Shutting down is final**: from then on, whatever timers fire, processes end and records come
in, the engine starts nothing, arms no restart and suppresses nothing. -/
theorem shutting_down_final (before : List EngineOp)
    (ops : List {op : EngineOp // op ≠ .setShuttingDown false}) :
    engineMachine.EveryStep (fun c op => ∀ e ∈ (engineMachine.step c.state op).2, op.Quiet e)
      (engineMachine.run (Machine.start {}) (before ++ [.setShuttingDown true]))
      (ops.map Subtype.val) := by
  refine Machine.everyStep_of_invariant (C := fun _ op => op ≠ .setShuttingDown false)
    (fun c => c.state.engine.shuttingDown = true) (fun c op hc hop => (action_down hc hop).1)
    (fun c op hc hop => (action_down hc hop).2) ?_ ?_
  · rw [Machine.run_append]
    rfl
  · refine Machine.everyStep_iff.mpr fun pre op post heq => ?_
    have hmem : op ∈ ops.map Subtype.val := by simp [heq]
    obtain ⟨op', -, rfl⟩ := List.mem_map.mp hmem
    exact op'.2

end Stdiolink.Server
