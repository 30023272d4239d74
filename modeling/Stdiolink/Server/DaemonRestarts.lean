/-
  Stdiolink.Server.DaemonRestarts — a daemon that ends is restarted, or stopped after too many
  failures, and nothing else.

  The engine learns of a daemon's end from `instanceFinished` alone, and arms a restart or
  suppresses the project in that slot.  An observer keeps what the engine is told of each project:
  the abnormal exits since the last normal one, and how its last instance ended.

  Main results:
    * `Minded.endInstance`  — the slot leaves a daemon suppressed, armed, or normally ended;
    * `supervised_step`     — every turn keeps daemons minded, unless a start of one is refused;
    * `restarts_kept`       — along every run without such a refusal no daemon is lost, and one that
      keeps crashing is started no further.
-/
import Mathlib.Data.List.Nodup
import Stdiolink.Server.EngineRun

namespace Stdiolink.Server

open Stdiolink.Lib

/-! ## §1. Turns and what is observed of them -/

/-- One turn of the event loop: an operation of the engine, or `handleProjectStart`, which resumes
the project and starts an instance in one go. -/
inductive EngineTurn where
  | op (op : EngineOp)
  | startRequest (project : Project) (serviceDir : String) (outcome : SpawnOutcome)

/-- What the turn does. -/
def EngineTurn.action : EngineTurn → Action Scheduler ScheduleEvent
  | .op operation => operation.action
  | .startRequest project serviceDir outcome =>
      Action.seq (Scheduler.onEngine (·.resumeProject project.id))
        (Scheduler.startInstance project serviceDir outcome)

/-- The turn calls `startAll`, `startProject`, `resumeProject` or `stopAll`. -/
def EngineTurn.callsEngine : EngineTurn → Bool
  | .op (.startAll _ _ _) => true
  | .op (.startProject _ _ _) => true
  | .op (.resumeProject _) => true
  | .op .stopAll => true
  | .op _ => false
  | .startRequest _ _ _ => true

/-- What the engine has been told of the exits of each project. -/
structure ExitLog where
  /-- Abnormal exits since the last normal one, or since the last call. -/
  consecutive : String → Nat := fun _ => 0
  /-- The last instance ended normally with code 0. -/
  endedNormally : String → Bool := fun _ => false

namespace ExitLog

/-- A normal exit with code 0. -/
def isNormal (exitCode : Int) (exitStatus : ExitStatus) : Bool :=
  decide (exitStatus = .normalExit ∧ exitCode = 0)

/-- The engine is told of an exit. -/
def note (log : ExitLog) (projectId : String) (exitCode : Int) (exitStatus : ExitStatus) :
    ExitLog where
  consecutive id :=
    if id = projectId then
      if isNormal exitCode exitStatus then 0 else log.consecutive id + 1
    else log.consecutive id
  endedNormally id :=
    if id = projectId then isNormal exitCode exitStatus else log.endedNormally id

/-- Only the end of an instance is noted. -/
def noteEvent (log : ExitLog) : ScheduleEvent → ExitLog
  | .instanceFinished _ projectId exitCode exitStatus => log.note projectId exitCode exitStatus
  | _ => log

def noteEvents (log : ExitLog) (events : List ScheduleEvent) : ExitLog :=
  events.foldl noteEvent log

/-- A call starts the count of failures afresh. -/
def restarted (log : ExitLog) : ExitLog := { log with consecutive := fun _ => 0 }

/-- What a turn adds: a bare notification is told to the engine, too. -/
def observe (log : ExitLog) (turn : EngineTurn) (events : List ScheduleEvent) : ExitLog :=
  match turn with
  | .op (.instanceFinished projectId exitCode exitStatus) =>
      log.note projectId exitCode exitStatus
  | turn => (if turn.callsEngine then log.restarted else log).noteEvents events

theorem noteEvents_append (log : ExitLog) (events events' : List ScheduleEvent) :
    log.noteEvents (events ++ events') = (log.noteEvents events).noteEvents events' :=
  List.foldl_append

end ExitLog

/-- The engine and its manager, with the observer. -/
def supervised : Machine (Scheduler × ExitLog) EngineTurn ScheduleEvent :=
  Machine.observe ⟨fun s turn => turn.action s⟩ ExitLog.observe

/-! ## §2. The property -/

/-- A daemon project that the engine minds: enabled, valid, of a known service, not suppressed. -/
def Watched (e : ScheduleEngine) (id : String) (p : Project) : Prop :=
  e.projects.find? id = some p ∧ p.RunsAs .daemon ∧ e.services.contains p.serviceId = true ∧
    e.restartSuppressed.contains id = false

/-- The project has a live instance or an armed restart timer. -/
def LiveOrArmed (s : Scheduler) (id : String) : Prop :=
  0 < s.manager.liveCount id ∨ ∃ r ∈ s.engine.restarts, r.projectId = id

/-- The daemon project has reached its limit of abnormal exits, with no normal one in between. -/
def InCrashLoop (s : Scheduler) (log : ExitLog) (id : String) : Prop :=
  ∃ p, s.engine.projects.find? id = some p ∧ p.RunsAs .daemon ∧ 0 < log.consecutive id ∧
    p.schedule.maxConsecutiveFailures ≤ (log.consecutive id : Int)

/-- **The property of a state.**  A daemon in a crash loop is suppressed, or the engine restarts
nothing at all; and, until it does, every watched daemon whose last instance did not end normally
has a live instance or an armed restart. -/
structure RestartsKept (s : Scheduler) (log : ExitLog) : Prop where
  suppressed : ∀ id, InCrashLoop s log id →
    s.engine.shuttingDown = true ∨ s.engine.restartSuppressed.contains id = true
  covered : s.engine.shuttingDown = false → ∀ id p, Watched s.engine id p →
    log.endedNormally id = false → LiveOrArmed s id

/-- The event is a call of `startInstance` by the engine for the project. -/
def ScheduleEvent.Starts (id : String) : ScheduleEvent → Prop
  | .startCall _ project _ _ => project.id = id
  | _ => False

/-- **The property of a turn.**  Between two calls the engine starts no instance of a daemon in a
crash loop. -/
def StartsNoCrashLoop (s : Scheduler) (log : ExitLog) (turn : EngineTurn) : Prop :=
  turn.callsEngine = false → ∀ id, InCrashLoop s log id → ∀ e ∈ (turn.action s).2, ¬ e.Starts id

/-! ## §3. When nothing is refused -/

/-- `startInstance` gets as far as the process. -/
def Accepted (project : Project) (serviceDir : String) (outcome : SpawnOutcome) : Prop :=
  project.valid = true ∧ serviceDir ≠ "" ∧ ∀ error, outcome ≠ .refused error

/-- Nothing is owed to the project: it has a live instance, an armed restart, or ended normally. -/
def Covered (s : Scheduler) (log : ExitLog) (id : String) : Prop :=
  LiveOrArmed s id ∨ log.endedNormally id = true

/-- A daemon launched with these services is not refused, or nothing is owed to it. -/
def LaunchAccepted (s : Scheduler) (log : ExitLog) (services : ServiceMap) (project : Project)
    (outcome : SpawnOutcome) : Prop :=
  project.RunsAs .daemon → ∀ serviceDir, services.dir? project.serviceId = some serviceDir →
    Accepted project serviceDir outcome ∨ Covered s log project.id

/-- **The condition.**  No start of a daemon is refused before there is a process:
* not by `startAll` or `startProject`, and no other daemon comes into the engine's care through the
  services they bring;
* not by a delayed restart, unless another one is armed;
* a suppression is lifted from a daemon only if nothing is owed to it, or the request that lifts it
  starts an instance;
* a shutdown is not taken back, and no project has the empty id. -/
def NothingRefused (s : Scheduler) (log : ExitLog) : EngineTurn → Prop
  | .op (.startAll projects services spawn) =>
      projects.find? "" = none ∧ (s.engine.shuttingDown = false →
        ∀ id p, projects.find? id = some p → LaunchAccepted s log services p (spawn id))
  | .op (.startProject project services outcome) =>
      project.id ≠ "" ∧ (s.engine.shuttingDown = false →
        LaunchAccepted s log services project outcome ∧
        ∀ id p, id ≠ project.id → s.engine.projects.find? id = some p → p.RunsAs .daemon →
          s.engine.restartSuppressed.contains id = false →
          services.contains p.serviceId = true →
          s.engine.services.contains p.serviceId = true ∨ Covered s log id)
  | .op (.resumeProject id) =>
      s.engine.shuttingDown = false → s.engine.restartSuppressed.contains id = true →
        ∀ p, s.engine.projects.find? id = some p → p.RunsAs .daemon →
          s.engine.services.contains p.serviceId = true → Covered s log id
  | .op .stopAll =>
      s.engine.shuttingDown = false → ∀ id, s.engine.restartSuppressed.contains id = true →
        ∀ p, s.engine.projects.find? id = some p → p.RunsAs .daemon →
          s.engine.services.contains p.serviceId = true → Covered s log id
  | .op (.setShuttingDown value) => s.engine.shuttingDown = true → value = true
  | .op (.restartFires timerId outcome) =>
      ∀ r, s.findRestart timerId = some r → s.DaemonMayStart r.projectId →
        ∀ p, Watched s.engine r.projectId p →
          Accepted p r.serviceDir outcome ∨ log.endedNormally r.projectId = true ∨
            ∃ q ∈ s.engine.restarts, q.timerId ≠ timerId ∧ q.projectId = r.projectId
  | .startRequest project serviceDir outcome =>
      s.engine.shuttingDown = false →
        Accepted project serviceDir outcome ∨
        (s.engine.restartSuppressed.contains project.id = true →
          ∀ p, s.engine.projects.find? project.id = some p → p.RunsAs .daemon →
            s.engine.services.contains p.serviceId = true → Covered s log project.id)
  | _ => True

/-! ## §4. The slot -/

/-- The count of failures is below the limit, and no smaller than what was observed. -/
def Bounded (e : ScheduleEngine) (log : ExitLog) (id : String) : Prop :=
  ∀ p, e.projects.find? id = some p → p.RunsAs .daemon → e.restartSuppressed.contains id = false →
    (log.consecutive id : Int) ≤ e.failures id ∧
      (0 < e.failures id → e.failures id < p.schedule.maxConsecutiveFailures)

/-- The project is minded: its failures are counted, and nothing is owed to it if it is watched. -/
structure Minded (s : Scheduler) (log : ExitLog) (id : String) : Prop where
  bounded : Bounded s.engine log id
  covered : ∀ p, Watched s.engine id p → Covered s log id

/-- The armed restarts have timer ids of their own, all below the next one. -/
structure TimersFresh (e : ScheduleEngine) : Prop where
  below : ∀ r ∈ e.restarts, r.timerId < e.nextTimer
  distinct : (e.restarts.map RestartTimer.timerId).Nodup

variable {e : ScheduleEngine} {id : String} {s : Scheduler} {log : ExitLog}

theorem TimersFresh.armRestart {e' : ScheduleEngine} (h : TimersFresh e)
    (hrestarts : e'.restarts = e.restarts) (hnext : e'.nextTimer = e.nextTimer) (project : Project)
    (serviceDir : String) :
    TimersFresh (e'.armRestart (e.restartFor project serviceDir)) := by
  refine ⟨?_, ?_⟩
  · intro r hr
    show r.timerId < e'.nextTimer + 1
    rw [hnext]
    obtain hr | hr := List.mem_append.mp hr
    · rw [hrestarts] at hr
      exact Nat.lt_succ_of_lt (h.below r hr)
    · rw [List.mem_singleton.mp hr]
      exact Nat.lt_succ_self _
  · show ((e'.restarts ++ [e.restartFor project serviceDir]).map RestartTimer.timerId).Nodup
    rw [hrestarts, List.map_append, List.nodup_append]
    refine ⟨h.distinct, List.pairwise_singleton _ _, ?_⟩
    intro a ha b hb heq
    obtain ⟨r, hr, rfl⟩ := List.mem_map.mp ha
    rw [List.map_singleton, List.mem_singleton] at hb
    have hlt := h.below r hr
    rw [heq, hb] at hlt
    exact Nat.lt_irrefl _ hlt

/-- The slot of one project leaves all others alone. -/
structure LeavesOthers (id : String) (e e' : ScheduleEngine) : Prop where
  records : ScheduleEngine.SameRecords e e'
  failures : ∀ j, j ≠ id → e'.failures j = e.failures j
  suppressed : ∀ j, j ≠ id → e'.restartSuppressed.contains j = e.restartSuppressed.contains j
  restarts : ∀ r ∈ e.restarts, r ∈ e'.restarts
  fresh : TimersFresh e → TimersFresh e'

namespace ScheduleEngine

variable {e : ScheduleEngine} {id : String} {exitCode : Int} {exitStatus : ExitStatus}

/-- The slot ignores what is not a daemon it minds. -/
theorem onInstanceFinished_ignored
    (h : ∀ p, e.projects.find? id = some p → p.RunsAs .daemon →
      e.restartSuppressed.contains id = true) :
    onInstanceFinished id exitCode exitStatus e = (e, []) := by
  obtain hnone | ⟨p, -, hsup, hp, hrun, -⟩ :=
    onInstanceFinished_cases e id exitCode exitStatus
  · exact hnone
  · have hsup' := h p hp hrun
    rw [hsup] at hsup'
    cases hsup'

/-- The slot clears the failure count at a normal exit. -/
theorem onInstanceFinished_normal {p : Project} (hsd : e.shuttingDown = false)
    (hsup : e.restartSuppressed.contains id = false) (hp : e.projects.find? id = some p)
    (hrun : p.RunsAs .daemon) (hexit : ExitLog.isNormal exitCode exitStatus = true) :
    (onInstanceFinished id exitCode exitStatus e).1 =
      { e with consecutiveFailures := e.consecutiveFailures.erase id } := by
  have hx : exitStatus = .normalExit ∧ exitCode = 0 := of_decide_eq_true hexit
  obtain ⟨hen, hv, ht⟩ := hrun
  simp [onInstanceFinished, hsd, hsup, hp, hen, hv, ht, hx]

/-- The slot at an abnormal exit: the count goes up, and the project is suppressed or a restart is
armed. -/
theorem onInstanceFinished_abnormal {p : Project} (hsd : e.shuttingDown = false)
    (hsup : e.restartSuppressed.contains id = false) (hp : e.projects.find? id = some p)
    (hrun : p.RunsAs .daemon) (hexit : ExitLog.isNormal exitCode exitStatus = false) :
    let counted := { e with consecutiveFailures :=
      e.consecutiveFailures.insert id (e.failures id + 1) }
    if e.failures id + 1 ≥ p.schedule.maxConsecutiveFailures then
      (onInstanceFinished id exitCode exitStatus e).1 =
        { counted with restartSuppressed := e.restartSuppressed.insert id .crashLoop }
    else
      (e.services.contains p.serviceId = false ∧
        (onInstanceFinished id exitCode exitStatus e).1 = counted) ∨
      ∃ service, (onInstanceFinished id exitCode exitStatus e).1 =
        counted.armRestart (e.restartFor p service) := by
  have hx : ¬ (exitStatus = .normalExit ∧ exitCode = 0) := of_decide_eq_false hexit
  obtain ⟨hen, hv, ht⟩ := hrun
  dsimp only
  split_ifs with hmax
  · simp [onInstanceFinished, hsd, hsup, hp, hen, hv, ht, hx, hmax]
  · cases hs : e.services.find? p.serviceId with
    | none =>
      left
      refine ⟨?_, ?_⟩
      · rw [SortedMap.contains, hs]
        rfl
      · simp [onInstanceFinished, hsd, hsup, hp, hen, hv, ht, hx, hmax, hs]
    | some service =>
      right
      refine ⟨service.serviceDir, ?_⟩
      simp [onInstanceFinished, hsd, hsup, hp, hen, hv, ht, hx, hmax, hs, restartFor]

/-- **What the slot can do to the engine.**  Nothing, or it counts for this one project, and may
suppress it or arm a restart for it. -/
theorem onInstanceFinished_leavesOthers (e : ScheduleEngine) (id : String) (exitCode : Int)
    (exitStatus : ExitStatus) :
    LeavesOthers id e (onInstanceFinished id exitCode exitStatus e).1 := by
  rcases onInstanceFinished_cases e id exitCode exitStatus with
    h | ⟨_, -, -, -, -, _, hcount, h | h | ⟨_, -, h⟩⟩
  · rw [h]
    exact ⟨SameRecords.refl e, fun _ _ => rfl, fun _ _ => rfl, fun _ hr => hr, fun h => h⟩
  · rw [h]
    exact ⟨⟨rfl, rfl, rfl, rfl⟩, fun j hj => congrArg (Option.getD · 0) (hcount j hj),
      fun _ _ => rfl, fun _ hr => hr, fun h => ⟨h.below, h.distinct⟩⟩
  · rw [h]
    refine ⟨⟨rfl, rfl, rfl, rfl⟩, fun j hj => congrArg (Option.getD · 0) (hcount j hj), ?_,
      fun _ hr => hr, fun h => ⟨h.below, h.distinct⟩⟩
    intro j hj
    show (e.restartSuppressed.insert id _).contains j = _
    rw [SortedMap.contains, SortedMap.find?_insert, if_neg hj]
    rfl
  · rw [h]
    refine ⟨⟨rfl, rfl, rfl, rfl⟩, fun j hj => congrArg (Option.getD · 0) (hcount j hj),
      fun _ _ => rfl, fun _ hr => List.mem_append_left _ hr, fun hfresh => ?_⟩
    apply hfresh.armRestart
    · rfl
    · rfl

end ScheduleEngine

namespace Minded

open ScheduleEngine (onInstanceFinished)

/-- **The slot.**  Whatever was owed to the project before, it is counted now, and it is suppressed,
armed or normally ended. -/
theorem notified {e : ScheduleEngine} {log : ExitLog} {id : String} (hsd : e.shuttingDown = false)
    (h : Bounded e log id) (manager : InstanceManager) (exitCode : Int) (exitStatus : ExitStatus) :
    Minded ⟨(onInstanceFinished id exitCode exitStatus e).1, manager⟩
      (log.note id exitCode exitStatus) id := by
  by_cases hmind : ∃ p, e.projects.find? id = some p ∧ p.RunsAs .daemon ∧
      e.restartSuppressed.contains id = false
  · obtain ⟨p, hp, hrun, hsup⟩ := hmind
    obtain ⟨hle, hlt⟩ := h p hp hrun hsup
    cases hexit : ExitLog.isNormal exitCode exitStatus with
    | true =>
      rw [ScheduleEngine.onInstanceFinished_normal hsd hsup hp hrun hexit]
      have hzero : ScheduleEngine.failures
          { e with consecutiveFailures := e.consecutiveFailures.erase id } id = 0 := by
        rw [ScheduleEngine.failures, SortedMap.find?_erase, if_pos rfl]
        rfl
      refine ⟨?_, ?_⟩
      · intro q _ _ _
        rw [hzero]
        simp [ExitLog.note, hexit]
      · intro q _
        right
        simp [ExitLog.note, hexit]
    | false =>
      -- one more abnormal exit, in the observer as in the engine
      have hone : ∀ e' : ScheduleEngine, e'.consecutiveFailures =
          e.consecutiveFailures.insert id (e.failures id + 1) →
          e'.failures id = e.failures id + 1 := by
        intro e' he'
        rw [ScheduleEngine.failures, he', SortedMap.find?_insert, if_pos rfl]
        rfl
      have hcount : ((log.note id exitCode exitStatus).consecutive id : Int) =
          log.consecutive id + 1 := by
        simp [ExitLog.note, hexit]
      have hcases := ScheduleEngine.onInstanceFinished_abnormal hsd hsup hp hrun hexit
      dsimp only at hcases
      split_ifs at hcases with hmax
      · -- the limit is reached: from here on the project is suppressed
        rw [hcases]
        have hgone : (e.restartSuppressed.insert id .crashLoop).contains id = true := by
          rw [SortedMap.contains, SortedMap.find?_insert, if_pos rfl]
          rfl
        refine ⟨?_, ?_⟩
        · intro q _ _ hno
          rw [hgone] at hno
          cases hno
        · intro q hq
          have hno := hq.2.2.2
          rw [hgone] at hno
          cases hno
      · have hbounded : ∀ e' : ScheduleEngine, e'.projects = e.projects →
            e'.consecutiveFailures = e.consecutiveFailures.insert id (e.failures id + 1) →
            Bounded e' (log.note id exitCode exitStatus) id := by
          intro e' hprojects hfailures q hq _ _
          rw [hprojects, hp] at hq
          obtain rfl := Option.some.inj hq
          rw [hone e' hfailures, hcount]
          omega
        obtain ⟨hgone, hcases⟩ | ⟨service, hcases⟩ := hcases
        · rw [hcases]
          refine ⟨hbounded _ rfl rfl, ?_⟩
          intro q hq
          obtain ⟨hq, -, hknown, -⟩ := hq
          obtain rfl : p = q := Option.some.inj (hp.symm.trans hq)
          exact absurd (hgone.symm.trans hknown) (by decide)
        · rw [hcases]
          refine ⟨hbounded _ rfl rfl, ?_⟩
          intro q _
          left; right
          refine ⟨_, List.mem_append_right _ (List.mem_singleton.mpr rfl), ?_⟩
          exact ProjectMap.id_of_find? hp
  · -- not a daemon that is minded: the slot ignores it, and nothing is asked of it
    have hnot : ∀ p, e.projects.find? id = some p → p.RunsAs .daemon →
        e.restartSuppressed.contains id = true := by
      intro p hp hrun
      cases hsup : e.restartSuppressed.contains id with
      | true => rfl
      | false => exact absurd ⟨p, hp, hrun, hsup⟩ hmind
    rw [ScheduleEngine.onInstanceFinished_ignored hnot]
    refine ⟨?_, ?_⟩
    · intro q hq hrun hsup
      exact absurd ((hnot q hq hrun).symm.trans hsup) (by decide)
    · intro q hq
      exact absurd ((hnot q hq.1 hq.2.1).symm.trans hq.2.2.2) (by decide)

end Minded

/-! ## §5. What concerns one project -/

/-- Everything but the one project is kept: records, counts, suppressions, armed restarts, live
instances and what was observed. -/
structure OthersKept (id : String) (s : Scheduler) (log : ExitLog) (s' : Scheduler)
    (log' : ExitLog) : Prop where
  projects : s'.engine.projects = s.engine.projects
  services : s'.engine.services = s.engine.services
  shuttingDown : s'.engine.shuttingDown = s.engine.shuttingDown
  failures : ∀ j, j ≠ id → s'.engine.failures j = s.engine.failures j
  suppressed : ∀ j, j ≠ id →
    s'.engine.restartSuppressed.contains j = s.engine.restartSuppressed.contains j
  restarts : ∀ r ∈ s.engine.restarts, r.projectId ≠ id → r ∈ s'.engine.restarts
  live : ∀ j, j ≠ id → s.manager.liveCount j ≤ s'.manager.liveCount j
  consecutive : ∀ j, j ≠ id → log'.consecutive j = log.consecutive j
  endedNormally : ∀ j, j ≠ id → log'.endedNormally j = log.endedNormally j
  fresh : TimersFresh s.engine → TimersFresh s'.engine

namespace OthersKept

variable {id j : String} {s s' s'' : Scheduler} {log log' log'' : ExitLog}

theorem refl (id : String) (s : Scheduler) (log : ExitLog) : OthersKept id s log s log :=
  ⟨rfl, rfl, rfl, fun _ _ => rfl, fun _ _ => rfl, fun _ hr _ => hr, fun _ _ => le_refl _,
    fun _ _ => rfl, fun _ _ => rfl, fun h => h⟩

theorem trans (h : OthersKept id s log s' log') (h' : OthersKept id s' log' s'' log'') :
    OthersKept id s log s'' log'' where
  projects := h'.projects.trans h.projects
  services := h'.services.trans h.services
  shuttingDown := h'.shuttingDown.trans h.shuttingDown
  failures j hj := (h'.failures j hj).trans (h.failures j hj)
  suppressed j hj := (h'.suppressed j hj).trans (h.suppressed j hj)
  restarts r hr hid := h'.restarts r (h.restarts r hr hid) hid
  live j hj := (h.live j hj).trans (h'.live j hj)
  consecutive j hj := (h'.consecutive j hj).trans (h.consecutive j hj)
  endedNormally j hj := (h'.endedNormally j hj).trans (h.endedNormally j hj)
  fresh hfresh := h'.fresh (h.fresh hfresh)

theorem bounded (h : OthersKept id s log s' log') (hj : j ≠ id) (hb : Bounded s.engine log j) :
    Bounded s'.engine log' j := by
  intro p hp hrun hsup
  rw [h.projects] at hp
  rw [h.suppressed j hj] at hsup
  rw [h.failures j hj, h.consecutive j hj]
  exact hb p hp hrun hsup

theorem covered (h : OthersKept id s log s' log') (hj : j ≠ id) (hc : Covered s log j) :
    Covered s' log' j := by
  obtain (hlive | ⟨r, hr, hid⟩) | hended := hc
  · left; left
    exact lt_of_lt_of_le hlive (h.live j hj)
  · left; right
    refine ⟨r, h.restarts r hr ?_, hid⟩
    rw [hid]
    exact hj
  · right
    rw [h.endedNormally j hj]
    exact hended

theorem watched (h : OthersKept id s log s' log') (hj : j ≠ id) {p : Project}
    (hw : Watched s'.engine j p) : Watched s.engine j p := by
  unfold Watched at hw
  rw [h.projects, h.services, h.suppressed j hj] at hw
  exact hw

theorem minded (h : OthersKept id s log s' log') (hj : j ≠ id) (hm : Minded s log j) :
    Minded s' log' j := by
  refine ⟨h.bounded hj hm.bounded, ?_⟩
  intro p hp
  exact h.covered hj (hm.covered p (h.watched hj hp))

end OthersKept

/-- The step minds its own project, and leaves the others alone. -/
def MindsOne (id : String) (s : Scheduler) (log : ExitLog)
    (out : Scheduler × List ScheduleEvent) : Prop :=
  OthersKept id s log out.1 (log.noteEvents out.2) ∧ Minded out.1 (log.noteEvents out.2) id

/-- Nothing is done, and nothing was owed to the project. -/
theorem MindsOne.nothing (h : Minded s log id) : MindsOne id s log (s, []) :=
  ⟨OthersKept.refl id s log, h⟩

/-- If all others are minded, so are all afterwards. -/
theorem MindsOne.all {out : Scheduler × List ScheduleEvent} (h : MindsOne id s log out)
    (hothers : ∀ j, j ≠ id → Minded s log j) (j : String) :
    Minded out.1 (log.noteEvents out.2) j := by
  by_cases hj : j = id
  · rw [hj]
    exact h.2
  · exact h.1.minded hj (hothers j hj)

/-- The events of the slot tell the observer nothing more. -/
theorem ExitLog.noteEvents_slot (log : ExitLog) (e : ScheduleEngine) (id : String)
    (exitCode : Int) (exitStatus : ExitStatus) :
    log.noteEvents (ScheduleEngine.onInstanceFinished id exitCode exitStatus e).2 = log := by
  obtain h | ⟨_, -, -, -, -, _, -, h | h | ⟨_, -, h⟩⟩ :=
    ScheduleEngine.onInstanceFinished_cases e id exitCode exitStatus
  all_goals rw [h]
  all_goals rfl

namespace Scheduler

open ScheduleEngine (onInstanceFinished)

variable {s : Scheduler} {log : ExitLog} {project : Project} {serviceDir : String}
  {outcome : SpawnOutcome}

/-- What `endInstance` tells the observer. -/
theorem noteEvents_endInstance (instanceId : Nat) (id : String) (exitCode : Int)
    (exitStatus : ExitStatus) :
    log.noteEvents (endInstance instanceId id exitCode exitStatus s).2 =
      log.note id exitCode exitStatus := by
  show ((log.note id exitCode exitStatus).noteEvents
    ((onInstanceFinished id exitCode exitStatus s.engine).2 ++ [])) = _
  rw [List.append_nil, ExitLog.noteEvents_slot]

/-- The slot, with a manager that has the instances of the other projects. -/
theorem notified_othersKept (id : String) (exitCode : Int) (exitStatus : ExitStatus)
    (manager : InstanceManager)
    (hlive : ∀ j, j ≠ id → s.manager.liveCount j ≤ manager.liveCount j) :
    OthersKept id s log ⟨(onInstanceFinished id exitCode exitStatus s.engine).1, manager⟩
      (log.note id exitCode exitStatus) := by
  have hothers := ScheduleEngine.onInstanceFinished_leavesOthers s.engine id exitCode exitStatus
  refine ⟨hothers.records.projects, hothers.records.services, hothers.records.shuttingDown,
    hothers.failures, hothers.suppressed, ?_, hlive, ?_, ?_, hothers.fresh⟩
  · intro r hr _
    exact hothers.restarts r hr
  · intro j hj
    exact if_neg hj
  · intro j hj
    exact if_neg hj

/-- **The end of an instance.** -/
theorem endInstance_mindsOne {instanceId : Nat} {id : String} (hsd : s.engine.shuttingDown = false)
    (howner : ∀ i, s.manager.instances.find? instanceId = some i → i.projectId = id)
    (h : Bounded s.engine log id) (exitCode : Int) (exitStatus : ExitStatus) :
    MindsOne id s log (endInstance instanceId id exitCode exitStatus s) := by
  unfold MindsOne
  rw [noteEvents_endInstance]
  refine ⟨?_, Minded.notified hsd h _ exitCode exitStatus⟩
  apply notified_othersKept
  intro j hj
  apply le_of_eq
  symm
  apply InstanceManager.liveCount_remove_of_ne
  intro i hi
  rw [howner i hi]
  exact hj.symm

/-- A new instance is live. -/
theorem added_mindsOne (h : Bounded s.engine log project.id) (serviceDir : String) :
    OthersKept project.id s log { s with manager := s.manager.add project serviceDir } log ∧
      Minded { s with manager := s.manager.add project serviceDir } log project.id := by
  have hlive : ∀ j, (s.manager.add project serviceDir).liveCount j =
      s.manager.liveCount j + if project.id = j then 1 else 0 :=
    s.manager.liveCount_add project serviceDir
  refine ⟨⟨rfl, rfl, rfl, fun _ _ => rfl, fun _ _ => rfl, fun _ hr _ => hr, ?_, fun _ _ => rfl,
    fun _ _ => rfl, fun hfresh => hfresh⟩, h, ?_⟩
  · intro j _
    show _ ≤ (s.manager.add project serviceDir).liveCount j
    rw [hlive]
    exact Nat.le_add_right _ _
  · intro _ _
    left; left
    show 0 < (s.manager.add project serviceDir).liveCount project.id
    rw [hlive, if_pos rfl]
    exact Nat.succ_pos _

/-- **A start.**  Either there is an instance, or its end is handled, or it is refused, which may
not happen while something is owed to the project. -/
theorem startInstance_mindsOne (hsd : s.engine.shuttingDown = false)
    (hbounded : Bounded s.engine log project.id)
    (haccept : Accepted project serviceDir outcome ∨
      ∀ p, Watched s.engine project.id p → Covered s log project.id) :
    MindsOne project.id s log (startInstance project serviceDir outcome s) := by
  obtain ⟨hnone, hrefused⟩ | ⟨-, -, ⟨-, hrun⟩ | ⟨-, hfail⟩⟩ :=
    startInstance_cases project serviceDir outcome s
  · rw [hnone]
    apply MindsOne.nothing
    refine ⟨hbounded, ?_⟩
    intro p hp
    exact (haccept.resolve_left hrefused) p hp
  · rw [hrun]
    exact added_mindsOne hbounded serviceDir
  · rw [hfail]
    obtain ⟨hadded, hminded⟩ := added_mindsOne hbounded serviceDir
    have hend : MindsOne project.id { s with manager := s.manager.add project serviceDir } log
        (endInstance s.manager.nextId project.id (-1) .crashExit
          { s with manager := s.manager.add project serviceDir }) := by
      apply endInstance_mindsOne
        (s := { s with manager := s.manager.add project serviceDir }) hsd _ hminded.bounded
      intro i hi
      have hnew : (s.manager.add project serviceDir).instances.find? s.manager.nextId =
          some (s.manager.newInstance project serviceDir) := by
        simp [InstanceManager.add]
      rw [Option.some.inj (hi.symm.trans hnew)]
      rfl
    exact ⟨hadded.trans hend.1, hend.2⟩

theorem startDaemon_mindsOne (hsd : s.engine.shuttingDown = false) (hid : project.id ≠ "")
    (hbounded : Bounded s.engine log project.id)
    (haccept : s.DaemonMayStart project.id → Accepted project serviceDir outcome ∨
      ∀ p, Watched s.engine project.id p → Covered s log project.id) :
    MindsOne project.id s log (startDaemon project serviceDir outcome s) := by
  by_cases hmay : s.DaemonMayStart project.id
  · rw [startDaemon_of_mayStart hmay]
    -- the trigger and the call itself tell the observer nothing
    exact startInstance_mindsOne hsd hbounded (haccept hmay)
  · rw [startDaemon_of_not_mayStart hmay]
    apply MindsOne.nothing
    refine ⟨hbounded, ?_⟩
    intro p hp
    left; left
    have hcount : s.manager.instanceCount project.id ≠ 0 := by
      intro hzero
      exact hmay ⟨hsd, hp.2.2.2, hzero⟩
    rw [InstanceManager.instanceCount_eq_liveCount _ hid] at hcount
    exact Nat.pos_of_ne_zero hcount

/-- **A launch** of a record that the engine holds and that may run. -/
theorem launch_mindsOne (hsd : s.engine.shuttingDown = false) (hid : project.id ≠ "")
    (hheld : s.engine.projects.find? project.id = some project)
    (hbounded : Bounded s.engine log project.id)
    (haccept : LaunchAccepted s log s.engine.services project outcome)
    (hruns : project.enabled = true ∧ project.valid = true) :
    MindsOne project.id s log (launch project outcome s) := by
  have hsame : ∀ p, Watched s.engine project.id p → p = project := by
    intro p hp
    exact Option.some.inj (hp.1.symm.trans hheld)
  unfold launch
  split
  · -- the service is not known
    rename_i hnone
    apply MindsOne.nothing
    refine ⟨hbounded, ?_⟩
    intro p hp
    have hknown := hp.2.2.1
    rw [hsame p hp, SortedMap.contains, hnone] at hknown
    cases hknown
  · rename_i service hservice
    -- a project of another schedule is not watched
    have hother : project.schedule.type ≠ .daemon → ∀ p, Watched s.engine project.id p → False := by
      intro htype p hp
      have hdaemon := hp.2.1.2.2
      rw [hsame p hp] at hdaemon
      exact htype hdaemon
    split
    · rename_i htype
      apply MindsOne.nothing
      refine ⟨hbounded, ?_⟩
      intro p hp
      exact (hother (by rw [htype]; decide) p hp).elim
    · rename_i htype
      refine ⟨⟨rfl, rfl, rfl, fun _ _ => rfl, fun _ _ => rfl, fun _ hr _ => hr,
        fun _ _ => le_refl _, fun _ _ => rfl, fun _ _ => rfl,
        fun h => ⟨fun r hr => Nat.lt_succ_of_lt (h.below r hr), h.distinct⟩⟩, hbounded, ?_⟩
      intro p hp
      exact (hother (by rw [htype]; decide) p hp).elim
    · rename_i htype
      apply startDaemon_mindsOne hsd hid hbounded
      intro _
      have hdir : s.engine.services.dir? project.serviceId = some service.serviceDir := by
        rw [ServiceMap.dir?, hservice]
        rfl
      obtain hok | hcovered := haccept ⟨hruns.1, hruns.2, htype⟩ _ hdir
      · exact Or.inl hok
      · exact Or.inr fun _ _ => hcovered

theorem startEntry_mindsOne (hsd : s.engine.shuttingDown = false) (hid : project.id ≠ "")
    (hheld : s.engine.projects.find? project.id = some project)
    (hbounded : Bounded s.engine log project.id)
    (haccept : LaunchAccepted s log s.engine.services project outcome) :
    MindsOne project.id s log (startEntry project outcome s) := by
  unfold startEntry
  split_ifs with hidle
  · apply MindsOne.nothing
    refine ⟨hbounded, ?_⟩
    intro p hp
    obtain rfl : p = project := Option.some.inj (hp.1.symm.trans hheld)
    have hrun := hp.2.1
    rw [hrun.1, hrun.2.1] at hidle
    cases hidle
  · rw [Bool.or_eq_true, not_or, Bool.not_eq_true', Bool.not_eq_true', Bool.not_eq_false,
      Bool.not_eq_false] at hidle
    exact launch_mindsOne hsd hid hheld hbounded haccept hidle

/-- **The loop of `startAll`.**  When the records still to be launched are done, all daemons are
minded. -/
theorem forEach_startEntry_minded {spawn : String → SpawnOutcome} {ps : List Project}
    {s : Scheduler} {log : ExitLog} (hsd : s.engine.shuttingDown = false)
    (hfresh : TimersFresh s.engine) (hdistinct : ps.Pairwise fun p q => p.id ≠ q.id)
    (hheld : ∀ p ∈ ps, s.engine.projects.find? p.id = some p) (hnamed : ∀ p ∈ ps, p.id ≠ "")
    (haccept : ∀ p ∈ ps, LaunchAccepted s log s.engine.services p (spawn p.id))
    (hbounded : ∀ id, Bounded s.engine log id)
    (hminded : ∀ id, (∀ p ∈ ps, p.id ≠ id) → Minded s log id) :
    let out := Action.forEach ps (fun p => startEntry p (spawn p.id)) s
    TimersFresh out.1.engine ∧ ∀ id, Minded out.1 (log.noteEvents out.2) id := by
  induction ps generalizing s log with
  | nil =>
    refine ⟨hfresh, ?_⟩
    intro id
    exact hminded id (by intro p hp; cases hp)
  | cons p ps ih =>
    obtain ⟨hp, hrest⟩ := List.pairwise_cons.mp hdistinct
    obtain ⟨hothers, hown⟩ := startEntry_mindsOne hsd
      (hnamed p List.mem_cons_self) (hheld p List.mem_cons_self) (hbounded p.id)
      (haccept p List.mem_cons_self)
    have hne : ∀ q ∈ ps, q.id ≠ p.id := fun q hq => (hp q hq).symm
    have hnext := @ih (startEntry p (spawn p.id) s).1 (log.noteEvents (startEntry p (spawn p.id) s).2)
      (hothers.shuttingDown.trans hsd) (hothers.fresh hfresh) hrest ?_ ?_ ?_ ?_ ?_
    · dsimp only at hnext ⊢
      refine ⟨hnext.1, ?_⟩
      intro id
      show Minded _ (log.noteEvents ((startEntry p (spawn p.id) s).2 ++ _)) id
      rw [ExitLog.noteEvents_append]
      exact hnext.2 id
    · intro q hq
      rw [hothers.projects]
      exact hheld q (List.mem_cons_of_mem _ hq)
    · intro q hq
      exact hnamed q (List.mem_cons_of_mem _ hq)
    · intro q hq hrun dir hdir
      rw [hothers.services] at hdir
      obtain hok | hcovered := haccept q (List.mem_cons_of_mem _ hq) hrun dir hdir
      · exact Or.inl hok
      · exact Or.inr (hothers.covered (hne q hq) hcovered)
    · intro id
      by_cases hid : id = p.id
      · rw [hid]
        exact hown.bounded
      · exact hothers.bounded hid (hbounded id)
    · intro id hid
      by_cases heq : id = p.id
      · rw [heq]
        exact hown
      · apply hothers.minded heq
        apply hminded id
        intro q hq
        obtain rfl | hq := List.mem_cons.mp hq
        · exact fun h => heq h.symm
        · exact hid q hq

/-- Nothing takes a shutdown back, and nothing but the two calls that bring records changes them. -/
theorem startAll_frame (projects : ProjectMap) (services : ServiceMap)
    (spawn : String → SpawnOutcome) (s : Scheduler) :
    (startAll projects services spawn s).1.engine.projects = projects ∧
      (startAll projects services spawn s).1.engine.shuttingDown = s.engine.shuttingDown := by
  have hloop : Action.Sat
      (fun _ t => t.engine.projects = projects ∧ t.engine.shuttingDown = s.engine.shuttingDown)
      (Action.forEach projects.values fun p => startEntry p (spawn p.id))
      (fun _ t => t.engine.projects = projects ∧
        t.engine.shuttingDown = s.engine.shuttingDown) := by
    apply Action.Sat.forEach
    intro p _ _ t ht
    unfold startEntry
    split_ifs
    · exact ht
    · have hframe := launch_frame p (spawn p.id) t
      exact ⟨hframe.1.trans ht.1, hframe.2.2.trans ht.2⟩
  exact hloop [] _ ⟨rfl, rfl⟩

end Scheduler

/-! ## §6. One turn -/

/-- **The invariant.**  Records have names; and, until the shutdown, the timers are told apart and
every project is minded. -/
structure Supervised (s : Scheduler) (log : ExitLog) : Prop where
  named : s.engine.projects.find? "" = none
  minded : s.engine.shuttingDown = false → TimersFresh s.engine ∧ ∀ id, Minded s log id

/-- A step that keeps the records and the shutdown flag has only the minding to show. -/
theorem Supervised.next {s' : Scheduler} {log' : ExitLog} (h : Supervised s log)
    (hrecords : ScheduleEngine.SameRecords s.engine s'.engine)
    (hminded : s.engine.shuttingDown = false → TimersFresh s.engine → (∀ id, Minded s log id) →
      TimersFresh s'.engine ∧ ∀ id, Minded s' log' id) : Supervised s' log' := by
  refine ⟨?_, ?_⟩
  · rw [hrecords.projects]
    exact h.named
  · intro hsd
    rw [hrecords.shuttingDown] at hsd
    obtain ⟨hfresh, hall⟩ := h.minded hsd
    exact hminded hsd hfresh hall

/-- A step that minds one project minds all. -/
theorem MindsOne.supervised {out : Scheduler × List ScheduleEvent} (h : MindsOne id s log out)
    (hfresh : TimersFresh s.engine) (hothers : ∀ j, j ≠ id → Minded s log j) :
    TimersFresh out.1.engine ∧ ∀ j, Minded out.1 (log.noteEvents out.2) j :=
  ⟨h.1.fresh hfresh, h.all hothers⟩

/-- A call lets the count begin again, for a project whose failures the engine has kept. -/
theorem Bounded.restarted {e' : ScheduleEngine} (h : Bounded e log id)
    (hprojects : e'.projects.find? id = e.projects.find? id)
    (hfailures : e'.failures id = e.failures id)
    (hsuppressed : e'.restartSuppressed.contains id = e.restartSuppressed.contains id) :
    Bounded e' log.restarted id := by
  intro p hp hrun hsup
  rw [hprojects] at hp
  rw [hsuppressed] at hsup
  obtain ⟨hle, hlt⟩ := h p hp hrun hsup
  rw [hfailures]
  refine ⟨?_, hlt⟩
  show (0 : Int) ≤ _
  omega

/-- Where the engine has forgotten the failures, the count begins again, too. -/
theorem Bounded.of_forgotten (hfailures : e.consecutiveFailures.find? id = none) :
    Bounded e log.restarted id := by
  intro p _ _ _
  have hzero : e.failures id = 0 := by
    rw [ScheduleEngine.failures, hfailures]
    rfl
  rw [hzero]
  refine ⟨le_refl _, ?_⟩
  intro h
  exact absurd h (lt_irrefl _)

namespace Supervised

variable {s : Scheduler} {log : ExitLog}

theorem startAll (projects : ProjectMap) (services : ServiceMap) (spawn : String → SpawnOutcome)
    (h : Supervised s log)
    (hcond : NothingRefused s log (.op (.startAll projects services spawn))) :
    let turn := EngineTurn.op (.startAll projects services spawn)
    Supervised (turn.action s).1 (log.observe turn (turn.action s).2) := by
  obtain ⟨hnamed, haccept⟩ := hcond
  obtain ⟨hprojects, hshut⟩ := Scheduler.startAll_frame projects services spawn s
  refine ⟨?_, ?_⟩
  · show (Scheduler.startAll projects services spawn s).1.engine.projects.find? "" = none
    rw [hprojects]
    exact hnamed
  · intro hsd
    have hsd : s.engine.shuttingDown = false := hshut.symm.trans hsd
    obtain ⟨hfresh, hall⟩ := h.minded hsd
    have hloaded : ∀ id, Bounded (s.engine.load projects services) log.restarted id :=
      fun id => Bounded.of_forgotten rfl
    apply Scheduler.forEach_startEntry_minded
      (s := { s with engine := s.engine.load projects services }) hsd
      ⟨hfresh.below, hfresh.distinct⟩ projects.values_pairwise_id _ _ _ hloaded
    · -- a record that is not in the loop is not held
      intro id hid
      refine ⟨hloaded id, ?_⟩
      intro p hp
      have hp : projects.find? id = some p := hp.1
      have hpid := ProjectMap.id_of_find? hp
      exact absurd hpid (hid p (ProjectMap.mem_values.mpr (hpid ▸ hp)))
    · intro p hp
      exact ProjectMap.mem_values.mp hp
    · intro p hp hempty
      have hfind := ProjectMap.mem_values.mp hp
      rw [hempty, hnamed] at hfind
      cases hfind
    · intro p hp
      exact haccept hsd p.id p (ProjectMap.mem_values.mp hp)

theorem startProject (project : Project) (services : ServiceMap) (outcome : SpawnOutcome)
    (h : Supervised s log)
    (hcond : NothingRefused s log (.op (.startProject project services outcome))) :
    let turn := EngineTurn.op (.startProject project services outcome)
    Supervised (turn.action s).1 (log.observe turn (turn.action s).2) := by
  obtain ⟨hid, hcond⟩ := hcond
  show Supervised (Scheduler.startProject project services outcome s).1
    (log.restarted.noteEvents (Scheduler.startProject project services outcome s).2)
  rw [Scheduler.startProject_eq]
  dsimp only
  have hheld : (s.engine.install project services).projects.find? project.id = some project :=
    ProjectMap.find?_insert_self _ _
  have hnamed : (s.engine.install project services).projects.find? "" = none := by
    show (s.engine.projects.insert project).find? "" = none
    rw [ProjectMap.find?_insert, if_neg (Ne.symm hid)]
    exact h.named
  have hown : Bounded (s.engine.install project services) log.restarted project.id := by
    apply Bounded.of_forgotten
    show (s.engine.consecutiveFailures.erase project.id).find? project.id = none
    rw [SortedMap.find?_erase, if_pos rfl]
  -- the other records stay, but may find their service now
  have hothers : s.engine.shuttingDown = false → ∀ j, j ≠ project.id →
      Minded { s with engine := s.engine.install project services } log.restarted j := by
    intro hsd j hj
    obtain ⟨-, hall⟩ := h.minded hsd
    have hprojects : (s.engine.install project services).projects.find? j =
        s.engine.projects.find? j := by
      show (s.engine.projects.insert project).find? j = _
      rw [ProjectMap.find?_insert, if_neg hj]
    have hsuppressed : (s.engine.install project services).restartSuppressed.contains j =
        s.engine.restartSuppressed.contains j := by
      show (s.engine.restartSuppressed.erase project.id).contains j = _
      rw [SortedMap.contains, SortedMap.find?_erase, if_neg hj]
      rfl
    refine ⟨(hall j).bounded.restarted hprojects ?_ hsuppressed, ?_⟩
    · show ((s.engine.consecutiveFailures.erase project.id).find? j).getD 0 = _
      rw [SortedMap.find?_erase, if_neg hj]
      rfl
    · intro p hp
      obtain ⟨hp, hrun, hknown, hsup⟩ := hp
      rw [hprojects] at hp
      rw [hsuppressed] at hsup
      obtain hbefore | hcovered := (hcond hsd).2 j p hj hp hrun hsup hknown
      · exact (hall j).covered p ⟨hp, hrun, hbefore, hsup⟩
      · exact hcovered
  split_ifs with hidle
  · refine ⟨hnamed, ?_⟩
    intro hsd
    refine ⟨⟨(h.minded hsd).1.below, (h.minded hsd).1.distinct⟩, ?_⟩
    intro j
    by_cases hj : j = project.id
    · rw [hj]
      refine ⟨hown, ?_⟩
      intro p hp
      obtain rfl : project = p := Option.some.inj (hheld.symm.trans hp.1)
      have hrun := hp.2.1
      have hsd : s.engine.shuttingDown = false := hsd
      rw [hsd, hrun.1, hrun.2.1] at hidle
      cases hidle
    · exact hothers hsd j hj
  · rw [Bool.or_eq_true, Bool.or_eq_true, not_or, not_or, Bool.not_eq_true', Bool.not_eq_true',
      Bool.not_eq_false, Bool.not_eq_false, Bool.not_eq_true] at hidle
    obtain ⟨⟨hsd, henabled⟩, hvalid⟩ := hidle
    have hframe := Scheduler.launch_frame project outcome
      { s with engine := s.engine.install project services }
    refine ⟨?_, ?_⟩
    · rw [hframe.1]
      exact hnamed
    · intro _
      have hlaunch := Scheduler.launch_mindsOne
        (s := { s with engine := s.engine.install project services }) hsd hid hheld hown
        (hcond hsd).1 ⟨henabled, hvalid⟩
      exact hlaunch.supervised ⟨(h.minded hsd).1.below, (h.minded hsd).1.distinct⟩ (hothers hsd)

/-- Lifting one suppression: the others stay minded, and the project's count begins again. -/
theorem resumed (h : Supervised s log) (id : String) (hsd : s.engine.shuttingDown = false) :
    (∀ j, j ≠ id → Minded { s with engine := s.engine.resumeProject id } log.restarted j) ∧
      Bounded (s.engine.resumeProject id) log.restarted id := by
  obtain ⟨-, hall⟩ := h.minded hsd
  refine ⟨?_, ?_⟩
  · intro j hj
    have hsuppressed : (s.engine.resumeProject id).restartSuppressed.contains j =
        s.engine.restartSuppressed.contains j := by
      show (s.engine.restartSuppressed.erase id).contains j = _
      rw [SortedMap.contains, SortedMap.find?_erase, if_neg hj]
      rfl
    refine ⟨(hall j).bounded.restarted rfl ?_ hsuppressed, ?_⟩
    · show ((s.engine.consecutiveFailures.erase id).find? j).getD 0 = _
      rw [SortedMap.find?_erase, if_neg hj]
      rfl
    · intro p hp
      obtain ⟨hp, hrun, hknown, hsup⟩ := hp
      rw [hsuppressed] at hsup
      exact (hall j).covered p ⟨hp, hrun, hknown, hsup⟩
  · apply Bounded.of_forgotten
    show (s.engine.consecutiveFailures.erase id).find? id = none
    rw [SortedMap.find?_erase, if_pos rfl]

/-- What is owed to a resumed project. -/
theorem resumed_covered (h : Supervised s log) {id : String}
    (hsd : s.engine.shuttingDown = false)
    (hcond : s.engine.restartSuppressed.contains id = true →
      ∀ p, s.engine.projects.find? id = some p → p.RunsAs .daemon →
        s.engine.services.contains p.serviceId = true → Covered s log id) :
    ∀ p, Watched (s.engine.resumeProject id) id p → Covered s log id := by
  intro p hp
  obtain ⟨hp, hrun, hknown, -⟩ := hp
  cases hsup : s.engine.restartSuppressed.contains id with
  | true => exact hcond hsup p hp hrun hknown
  | false => exact ((h.minded hsd).2 id).covered p ⟨hp, hrun, hknown, hsup⟩

theorem startRequest (project : Project) (serviceDir : String) (outcome : SpawnOutcome)
    (h : Supervised s log)
    (hcond : NothingRefused s log (.startRequest project serviceDir outcome)) :
    let turn := EngineTurn.startRequest project serviceDir outcome
    Supervised (turn.action s).1 (log.observe turn (turn.action s).2) := by
  have hrecords := Scheduler.startInstance_sameRecords project serviceDir outcome
    { s with engine := s.engine.resumeProject project.id }
  refine ⟨?_, ?_⟩
  · show (Scheduler.startInstance project serviceDir outcome
      { s with engine := s.engine.resumeProject project.id }).1.engine.projects.find? "" = none
    rw [hrecords.projects]
    exact h.named
  · intro hsd
    have hsd : s.engine.shuttingDown = false := hrecords.shuttingDown.symm.trans hsd
    obtain ⟨hothers, hown⟩ := h.resumed project.id hsd
    have hstart : MindsOne project.id { s with engine := s.engine.resumeProject project.id }
        log.restarted (Scheduler.startInstance project serviceDir outcome
          { s with engine := s.engine.resumeProject project.id }) := by
      apply Scheduler.startInstance_mindsOne (s := { s with
        engine := s.engine.resumeProject project.id }) hsd hown
      obtain hok | hlifted := hcond hsd
      · exact Or.inl hok
      · exact Or.inr (h.resumed_covered hsd hlifted)
    exact hstart.supervised ⟨(h.minded hsd).1.below, (h.minded hsd).1.distinct⟩ hothers

theorem restartFires (timerId : Nat) (outcome : SpawnOutcome) (h : Supervised s log)
    (hcond : NothingRefused s log (.op (.restartFires timerId outcome))) :
    Supervised (Scheduler.restartFires timerId outcome s).1
      (log.noteEvents (Scheduler.restartFires timerId outcome s).2) := by
  apply h.next (Scheduler.restartFires_sameRecords timerId outcome s)
  intro hsd hfresh hall
  have hpopfresh : TimersFresh (s.popRestart timerId).engine := by
    refine ⟨?_, ?_⟩
    · intro r hr
      exact hfresh.below r (List.mem_of_mem_filter hr)
    · exact (List.filter_sublist.map _).nodup hfresh.distinct
  obtain ⟨-, hnone⟩ | ⟨r, hr, hcases⟩ := Scheduler.restartFires_cases timerId outcome s
  · rw [hnone]
    exact ⟨hfresh, hall⟩
  have hmem : r ∈ s.engine.restarts := List.mem_of_find?_eq_some hr
  have htimer : r.timerId = timerId := by
    have hfound := List.find?_some hr
    exact of_decide_eq_true hfound
  -- the timer that fires is its project's; another project's has another id
  have hpop : OthersKept r.projectId s log (s.popRestart timerId) log := by
    refine ⟨rfl, rfl, rfl, fun _ _ => rfl, fun _ _ => rfl, ?_, fun _ _ => le_refl _,
      fun _ _ => rfl, fun _ _ => rfl, fun _ => hpopfresh⟩
    intro q hq hproject
    apply List.mem_filter.mpr
    refine ⟨hq, ?_⟩
    apply decide_eq_true
    intro hid
    have hsame : q = r := List.inj_on_of_nodup_map hfresh.distinct hq hmem (hid.trans htimer.symm)
    exact hproject (by rw [hsame])
  have hothers : ∀ j, j ≠ r.projectId → Minded (s.popRestart timerId) log j := by
    intro j hj
    exact hpop.minded hj (hall j)
  obtain ⟨hheld, hquiet⟩ | ⟨p, hmay, hp, hstart⟩ := hcases
  · rw [hquiet]
    refine ⟨hpopfresh, ?_⟩
    intro j
    by_cases hj : j = r.projectId
    · rw [hj]
      refine ⟨(hall r.projectId).bounded, ?_⟩
      intro p hp
      obtain ⟨hp, hrun, hknown, hsup⟩ := hp
      obtain hnot | hnone := hheld
      · -- not suppressed, no shutdown: there is a live instance
        left; left
        have hcount : s.manager.instanceCount r.projectId ≠ 0 := by
          intro hzero
          exact hnot ⟨hsd, hsup, hzero⟩
        have hne : r.projectId ≠ "" := by
          intro hempty
          have hp : s.engine.projects.find? r.projectId = some p := hp
          rw [hempty, h.named] at hp
          cases hp
        rw [InstanceManager.instanceCount_eq_liveCount _ hne] at hcount
        exact Nat.pos_of_ne_zero hcount
      · exact absurd (hp.symm.trans hnone) (by intro hno; cases hno)
    · exact hothers j hj
  · rw [hstart]
    have hid : p.id = r.projectId := ProjectMap.id_of_find? hp
    have hminds : MindsOne p.id (s.popRestart timerId) log
        (Scheduler.startDaemon p r.serviceDir outcome (s.popRestart timerId)) := by
      apply Scheduler.startDaemon_mindsOne (s := s.popRestart timerId) hsd
      · intro hempty
        rw [← hid, hempty, h.named] at hp
        cases hp
      · rw [hid]
        exact (hall r.projectId).bounded
      · intro _
        by_cases hwatched : Watched s.engine r.projectId p
        · obtain hok | hended | ⟨q, hq, hother, hproject⟩ := hcond r hr hmay p hwatched
          · exact Or.inl hok
          · right
            intro _ _
            right
            rw [hid]
            exact hended
          · right
            intro _ _
            left; right
            refine ⟨q, ?_, hproject.trans hid.symm⟩
            exact List.mem_filter.mpr ⟨hq, decide_eq_true hother⟩
        · right
          intro q hq
          rw [hid] at hq
          obtain rfl : p = q := Option.some.inj (hp.symm.trans hq.1)
          exact absurd hq hwatched
    apply hminds.supervised hpopfresh
    intro j hj
    rw [hid] at hj
    exact hothers j hj

theorem fixedRateTick (projectId : String) (outcome : SpawnOutcome) (h : Supervised s log) :
    Supervised (Scheduler.fixedRateTick projectId outcome s).1
      (log.noteEvents (Scheduler.fixedRateTick projectId outcome s).2) := by
  apply h.next (Scheduler.fixedRateTick_sameRecords projectId outcome s)
  intro hsd hfresh hall
  obtain hnone | ⟨timer, p, -, -, -, -, -, htick⟩ :=
    Scheduler.fixedRateTick_cases projectId outcome s
  · rw [hnone]
    exact ⟨hfresh, hall⟩
  · rw [htick]
    have hstart : MindsOne p.id s log (Scheduler.startInstance p timer.serviceDir outcome s) :=
      Scheduler.startInstance_mindsOne hsd (hall p.id).bounded (Or.inr (hall p.id).covered)
    exact hstart.supervised hfresh fun j _ => hall j

theorem processFinished (instanceId : Nat) (exitCode : Int) (exitStatus : ExitStatus)
    (h : Supervised s log) :
    Supervised (Scheduler.processFinished instanceId exitCode exitStatus s).1
      (log.noteEvents (Scheduler.processFinished instanceId exitCode exitStatus s).2) := by
  apply h.next (Scheduler.processFinished_sameRecords instanceId exitCode exitStatus s)
  intro hsd hfresh hall
  unfold Scheduler.processFinished
  split
  · exact ⟨hfresh, hall⟩
  · rename_i i hi
    have hend : MindsOne i.projectId s log
        (Scheduler.endInstance instanceId i.projectId exitCode exitStatus s) := by
      apply Scheduler.endInstance_mindsOne hsd _ (hall i.projectId).bounded
      intro i' hi'
      rw [Option.some.inj (hi'.symm.trans hi)]
    exact hend.supervised hfresh fun j _ => hall j

end Supervised

/-- **The step lemma.**  Every turn that meets the condition keeps the invariant. -/
theorem supervised_step (h : Supervised s log) (turn : EngineTurn)
    (hcond : NothingRefused s log turn) :
    Supervised (turn.action s).1 (log.observe turn (turn.action s).2) := by
  cases turn with
  | startRequest project serviceDir outcome =>
    exact h.startRequest project serviceDir outcome hcond
  | op operation =>
    cases operation with
    | startAll projects services spawn => exact h.startAll projects services spawn hcond
    | startProject project services outcome =>
      exact h.startProject project services outcome hcond
    | restartFires timerId outcome => exact h.restartFires timerId outcome hcond
    | fixedRateTick projectId outcome => exact h.fixedRateTick projectId outcome
    | processFinished instanceId exitCode exitStatus =>
      exact h.processFinished instanceId exitCode exitStatus
    | manualStart project serviceDir outcome =>
      apply h.next (Scheduler.startInstance_sameRecords project serviceDir outcome s)
      intro hsd hfresh hall
      have hstart : MindsOne project.id s log
          (Scheduler.startInstance project serviceDir outcome s) :=
        Scheduler.startInstance_mindsOne hsd (hall project.id).bounded
          (Or.inr (hall project.id).covered)
      exact hstart.supervised hfresh fun j _ => hall j
    | instanceFinished projectId exitCode exitStatus =>
      apply h.next
        (ScheduleEngine.onInstanceFinished_sameRecords s.engine projectId exitCode exitStatus)
      intro hsd hfresh hall
      have hothers := @Scheduler.notified_othersKept s log projectId exitCode exitStatus
        s.manager fun _ _ => le_refl _
      refine ⟨hothers.fresh hfresh, ?_⟩
      intro j
      by_cases hj : j = projectId
      · rw [hj]
        exact Minded.notified hsd (hall projectId).bounded s.manager exitCode exitStatus
      · exact hothers.minded hj (hall j)
    | stopProject projectId =>
      refine ⟨h.named, ?_⟩
      intro hsd
      obtain ⟨hfresh, hall⟩ := h.minded hsd
      refine ⟨⟨hfresh.below, hfresh.distinct⟩, ?_⟩
      have hothers : OthersKept projectId s log
          { s with engine := s.engine.stopProject projectId } log := by
        refine ⟨rfl, rfl, rfl, ?_, ?_, fun _ hr _ => hr, fun _ _ => le_refl _, fun _ _ => rfl,
          fun _ _ => rfl, fun hf => ⟨hf.below, hf.distinct⟩⟩
        · intro j hj
          show ((s.engine.consecutiveFailures.erase projectId).find? j).getD 0 = _
          rw [SortedMap.find?_erase, if_neg hj]
          rfl
        · intro j hj
          show (s.engine.restartSuppressed.insert projectId .stopped).contains j = _
          rw [SortedMap.contains, SortedMap.find?_insert, if_neg hj]
          rfl
      have hstopped : (s.engine.stopProject projectId).restartSuppressed.contains projectId =
          true := by
        show (s.engine.restartSuppressed.insert projectId .stopped).contains projectId = true
        rw [SortedMap.contains, SortedMap.find?_insert, if_pos rfl]
        rfl
      intro j
      by_cases hj : j = projectId
      · rw [hj]
        refine ⟨?_, ?_⟩
        · intro p _ _ hsup
          exact absurd (hstopped.symm.trans hsup) (by decide)
        · intro p hp
          exact absurd (hstopped.symm.trans hp.2.2.2) (by decide)
      · exact hothers.minded hj (hall j)
    | resumeProject projectId =>
      refine ⟨h.named, ?_⟩
      intro hsd
      have hfresh := (h.minded hsd).1
      obtain ⟨hothers, hown⟩ := h.resumed projectId hsd
      refine ⟨⟨hfresh.below, hfresh.distinct⟩, ?_⟩
      intro j
      by_cases hj : j = projectId
      · rw [hj]
        exact ⟨hown, h.resumed_covered hsd (hcond hsd)⟩
      · exact hothers j hj
    | stopAll =>
      refine ⟨h.named, ?_⟩
      intro hsd
      obtain ⟨hfresh, hall⟩ := h.minded hsd
      refine ⟨⟨hfresh.below, hfresh.distinct⟩, ?_⟩
      intro j
      refine ⟨Bounded.of_forgotten rfl, ?_⟩
      intro p hp
      obtain ⟨hp, hrun, hknown, -⟩ := hp
      cases hsup : s.engine.restartSuppressed.contains j with
      | true => exact hcond hsd j hsup p hp hrun hknown
      | false => exact (hall j).covered p ⟨hp, hrun, hknown, hsup⟩
    | setShuttingDown value =>
      refine ⟨h.named, ?_⟩
      intro hvalue
      have hvalue : value = false := hvalue
      cases hsd : s.engine.shuttingDown with
      | true => exact absurd (hvalue.symm.trans (hcond hsd)) (by decide)
      | false =>
        obtain ⟨hfresh, hall⟩ := h.minded hsd
        refine ⟨⟨hfresh.below, hfresh.distinct⟩, ?_⟩
        intro j
        exact ⟨(hall j).bounded, (hall j).covered⟩

/-- A minded daemon in a crash loop is suppressed. -/
theorem Supervised.suppressed (h : Supervised s log) (hloop : InCrashLoop s log id) :
    s.engine.shuttingDown = true ∨ s.engine.restartSuppressed.contains id = true := by
  cases hsd : s.engine.shuttingDown with
  | true => exact Or.inl rfl
  | false =>
    right
    cases hsup : s.engine.restartSuppressed.contains id with
    | true => rfl
    | false =>
      obtain ⟨p, hp, hrun, hpos, hmax⟩ := hloop
      obtain ⟨hle, hlt⟩ := ((h.minded hsd).2 id).bounded p hp hrun hsup
      have hbelow := hlt (by omega)
      omega

theorem Supervised.kept (h : Supervised s log) : RestartsKept s log := by
  refine ⟨fun id => h.suppressed, ?_⟩
  intro hsd id p hp hended
  obtain hcovered | hnormal := ((h.minded hsd).2 id).covered p hp
  · exact hcovered
  · exact absurd (hended.symm.trans hnormal) (by decide)

/-- Events without a start call start nothing. -/
theorem NoStartCall.not_starts {l : List ScheduleEvent} (h : NoStartCall l) (id : String) :
    ∀ e ∈ l, ¬ e.Starts id := by
  intro e he hstarts
  cases e with
  | startCall caller project serviceDir held => exact h _ _ _ _ he
  | _ => exact hstarts

/-- A call of `startInstance` for one project starts no other. -/
theorem callStart_starts {caller : StartCaller} {project : Project} {serviceDir : String}
    {outcome : SpawnOutcome} (hid : project.id ≠ id) :
    ∀ e ∈ (Scheduler.callStart caller project serviceDir outcome s).2, ¬ e.Starts id := by
  intro e he
  obtain rfl | he := List.mem_cons.mp he
  · exact hid
  · exact (startInstance_noStartCall project serviceDir outcome s).not_starts id e he

theorem Supervised.startsNoCrashLoop (h : Supervised s log) (turn : EngineTurn) :
    StartsNoCrashLoop s log turn := by
  intro hcall id hloop
  have hheld := h.suppressed hloop
  obtain ⟨p, hp, hrun, -⟩ := hloop
  cases turn with
  | startRequest project serviceDir outcome => cases hcall
  | op operation =>
    cases operation with
    | startAll projects services spawn => cases hcall
    | startProject project services outcome => cases hcall
    | resumeProject projectId => cases hcall
    | stopAll => cases hcall
    | stopProject projectId =>
      intro e he
      cases he
    | setShuttingDown value =>
      intro e he
      cases he
    | instanceFinished projectId exitCode exitStatus =>
      exact (onInstanceFinished_noStartCall projectId exitCode exitStatus s.engine).not_starts id
    | processFinished instanceId exitCode exitStatus =>
      show ∀ e ∈ (Scheduler.processFinished instanceId exitCode exitStatus s).2, ¬ e.Starts id
      unfold Scheduler.processFinished
      split
      · intro e he
        cases he
      · exact (endInstance_noStartCall _ _ _ _ s).not_starts id
    | manualStart project serviceDir outcome =>
      exact (startInstance_noStartCall project serviceDir outcome s).not_starts id
    | fixedRateTick projectId outcome =>
      show ∀ e ∈ (Scheduler.fixedRateTick projectId outcome s).2, ¬ e.Starts id
      obtain hnone | ⟨timer, q, -, -, hq, hfixed, -, htick⟩ :=
        Scheduler.fixedRateTick_cases projectId outcome s
      · rw [hnone]
        intro e he
        cases he
      · rw [htick]
        intro e he
        obtain rfl | he := List.mem_cons.mp he
        · exact fun hno => hno
        · -- the record that ticks is no daemon
          refine callStart_starts ?_ e he
          intro hid
          rw [ProjectMap.id_of_find? hq] at hid
          rw [hid, hp] at hq
          have htype := hfixed.2.2
          rw [← Option.some.inj hq, hrun.2.2] at htype
          cases htype
    | restartFires timerId outcome =>
      show ∀ e ∈ (Scheduler.restartFires timerId outcome s).2, ¬ e.Starts id
      obtain ⟨-, hnone⟩ | ⟨r, -, ⟨-, hquiet⟩ | ⟨q, hmay, hq, hstart⟩⟩ :=
        Scheduler.restartFires_cases timerId outcome s
      · rw [hnone]
        intro e he
        cases he
      · rw [hquiet]
        intro e he
        cases he
      · rw [hstart]
        have hid : q.id = r.projectId := ProjectMap.id_of_find? hq
        have hmay' : (s.popRestart timerId).DaemonMayStart q.id := by
          rw [hid]
          exact hmay
        rw [Scheduler.startDaemon_of_mayStart hmay']
        intro e he
        obtain rfl | he := List.mem_cons.mp he
        · exact fun hno => hno
        · refine callStart_starts ?_ e he
          intro heq
          rw [← heq, hid] at hheld
          obtain hsd | hsup := hheld
          · exact absurd (hmay.1.symm.trans hsd) (by decide)
          · exact absurd (hmay.2.1.symm.trans hsup) (by decide)

/-! ## §7. Runs -/

/-- The engine with nothing loaded. -/
def supervisedStart : Machine.Config (Scheduler × ExitLog) ScheduleEvent :=
  Machine.start ({}, {})

theorem supervisedStart_supervised :
    Supervised supervisedStart.state.1 supervisedStart.state.2 := by
  refine ⟨rfl, ?_⟩
  intro _
  refine ⟨⟨fun r hr => (List.not_mem_nil hr).elim, List.Pairwise.nil⟩, ?_⟩
  intro id
  refine ⟨?_, ?_⟩
  · intro p hp
    cases hp
  · intro p hp
    cases hp.1

/-- **Daemons are restarted or suppressed.**  Along every run in which no start of a daemon is
refused, every state keeps the restarts, and no turn starts a daemon in a crash loop. -/
theorem restarts_kept {turns : List EngineTurn}
    (hturns : supervised.EveryStep (fun c turn => NothingRefused c.state.1 c.state.2 turn)
      supervisedStart turns) :
    supervised.EveryState (fun c => RestartsKept c.state.1 c.state.2) supervisedStart turns ∧
      supervised.EveryStep (fun c turn => StartsNoCrashLoop c.state.1 c.state.2 turn)
        supervisedStart turns := by
  have hstep : ∀ (c : Machine.Config (Scheduler × ExitLog) ScheduleEvent) (turn : EngineTurn),
      Supervised c.state.1 c.state.2 → NothingRefused c.state.1 c.state.2 turn →
        Supervised (supervised.next c turn).state.1 (supervised.next c turn).state.2 := by
    intro c turn h hcond
    exact supervised_step h turn hcond
  constructor
  · apply Machine.everyState_of_invariant (fun c => Supervised c.state.1 c.state.2) hstep _
      supervisedStart_supervised hturns
    intro c h
    exact h.kept
  · apply Machine.everyStep_of_invariant (fun c => Supervised c.state.1 c.state.2) hstep _
      supervisedStart_supervised hturns
    intro c turn h _
    exact h.startsNoCrashLoop turn

/-- The daemon is started, crashes, and is started again by its timer. -/
def guardedCrash : List EngineTurn :=
  [.op (.startAll (ProjectMap.empty.insert echoDaemon) echoServices fun _ => .running),
    .op (.processFinished 0 1 .normalExit), .op (.restartFires 0 .running)]

theorem guardedCrash_kept :
    supervised.EveryState (fun c => RestartsKept c.state.1 c.state.2) supervisedStart
        guardedCrash ∧
      supervised.EveryStep (fun c turn => StartsNoCrashLoop c.state.1 c.state.2 turn)
        supervisedStart guardedCrash := by
  apply restarts_kept
  have haccept : ∀ p dir, p.valid = true → dir ≠ "" → Accepted p dir .running := by
    intro p dir hvalid hdir
    exact ⟨hvalid, hdir, fun _ h => by cases h⟩
  refine ⟨⟨rfl, ?_⟩, trivial, ?_, trivial⟩
  · intro _ id p hp hrun dir hdir
    have hp : p = echoDaemon := by
      have hp : (ProjectMap.empty.insert echoDaemon).find? id = some p := hp
      rw [ProjectMap.find?_insert] at hp
      split_ifs at hp
      · exact (Option.some.inj hp).symm
      · cases hp
    left
    apply haccept _ _ hrun.2.1
    rw [hp] at hdir
    intro hempty
    rw [hempty] at hdir
    revert hdir
    decide
  · intro r hr _ p hp
    left
    apply haccept _ _ hp.2.1.2.1
    have hfound : (some r).map RestartTimer.serviceDir = some "/srv/echo" := by
      rw [← hr]
      decide
    rw [Option.some.inj hfound]
    decide

/-- The same daemon, when its restart finds that the process guard cannot be started. -/
def refusedRestart : List EngineTurn :=
  [.op (.startAll (ProjectMap.empty.insert echoDaemon) echoServices fun _ => .running),
    .op (.processFinished 0 1 .normalExit),
    .op (.restartFires 0 (.refused "failed to start process guard server"))]

/-- The project is enabled, valid and not suppressed, its last instance has crashed, and nothing is
live or armed any more. -/
theorem refusedRestart_lost :
    ¬ supervised.EveryState (fun c => RestartsKept c.state.1 c.state.2) supervisedStart
        refusedRestart := by
  intro h
  obtain ⟨-, -, -, hlast⟩ := h
  have hwatched : Watched (supervised.run supervisedStart refusedRestart).state.1.engine "p"
      echoDaemon := by
    refine ⟨?_, by decide, by decide, by decide⟩
    exact ProjectMap.find?_insert_self _ echoDaemon
  obtain hlive | ⟨r, hr, -⟩ := hlast.covered (by decide) "p" echoDaemon hwatched (by decide)
  · revert hlive
    decide
  · have hnone : (supervised.run supervisedStart refusedRestart).state.1.engine.restarts = [] := by
      decide
    have hr : r ∈ (supervised.run supervisedStart refusedRestart).state.1.engine.restarts := hr
    rw [hnone] at hr
    cases hr

end Stdiolink.Server
