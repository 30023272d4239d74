/-
  Stdiolink.Server.ProjectIsolation — what a request on one project does to the others.

  A call of the engine for one project concerns that project only: the flags and the
  timer of every other one stay, and every event is about it.  A scheduling restart
  is the exception: it clears all flags and launches every project again.

  Main results:
    * `startAll_restarted` — what a scheduling restart leaves of one project;
    * `request_isolation` — a project request that restarts no scheduling leaves every
      other project alone; one that does leaves it as the restart does.
-/
import Stdiolink.Server.EngineRecords

namespace Stdiolink.Server

open Stdiolink.Lib

/-! ## §1. Calls that concern one project -/

/-- The project an event is about. -/
def ScheduleEvent.projectId : ScheduleEvent → String
  | .scheduleTriggered id _ => id
  | .scheduleSuppressed id _ _ => id
  | .startCall _ project _ _ => project.id
  | .instanceCreated _ id => id
  | .instanceFinished _ id _ _ => id
  | .restartArmed r _ => r.projectId

/-- The engine has the same suppression, failure count and fixed-rate timer of the
project. -/
structure SameSchedule (id : String) (e e' : ScheduleEngine) : Prop where
  restartSuppressed : e'.restartSuppressed.find? id = e.restartSuppressed.find? id
  consecutiveFailures : e'.consecutiveFailures.find? id = e.consecutiveFailures.find? id
  timer : e'.timers.find? id = e.timers.find? id

theorem SameSchedule.refl (id : String) (e : ScheduleEngine) : SameSchedule id e e :=
  ⟨rfl, rfl, rfl⟩

variable {id other : String} {s : Scheduler} {project : Project} {projects : ProjectMap}

theorem SameSchedule.trans {e e' e'' : ScheduleEngine} (h : SameSchedule id e e')
    (h' : SameSchedule id e' e'') : SameSchedule id e e'' :=
  ⟨h'.restartSuppressed.trans h.restartSuppressed,
    h'.consecutiveFailures.trans h.consecutiveFailures, h'.timer.trans h.timer⟩

/-- The call left the project `other` alone. -/
structure Spares (other : String) (s : Scheduler) (out : Scheduler × List ScheduleEvent) :
    Prop where
  schedule : SameSchedule other s.engine out.1.engine
  events : ∀ e ∈ out.2, e.projectId ≠ other
  manager : s.manager.Persists out.1.manager
  nextTimer : s.engine.nextTimer ≤ out.1.engine.nextTimer
  shuttingDown : out.1.engine.shuttingDown = s.engine.shuttingDown

theorem Spares.refl (other : String) (s : Scheduler) : Spares other s (s, []) :=
  ⟨SameSchedule.refl _ _, by simp, fun _ _ h => h, Nat.le_refl _, rfl⟩

/-- One call after another. -/
theorem Spares.seq {a b : Scheduler × List ScheduleEvent} (ha : Spares other s a)
    (hb : Spares other a.1 b) :
    Spares other s (b.1, a.2 ++ b.2) := by
  refine ⟨ha.schedule.trans hb.schedule, fun e he => ?_,
    fun id i h => hb.manager id i (ha.manager id i h), ha.nextTimer.trans hb.nextTimer,
    hb.shuttingDown.trans ha.shuttingDown⟩
  rcases List.mem_append.mp he with he | he
  · exact ha.events e he
  · exact hb.events e he

/-- The slot concerns the project it is called for. -/
theorem onInstanceFinished_spares {projectId : String} (hne : other ≠ projectId) (exitCode : Int)
    (exitStatus : ExitStatus) (e : ScheduleEngine) :
    let out := ScheduleEngine.onInstanceFinished projectId exitCode exitStatus e
    SameSchedule other e out.1 ∧ (∀ ev ∈ out.2, ev.projectId ≠ other) ∧
      e.nextTimer ≤ out.1.nextTimer := by
  dsimp only
  rcases ScheduleEngine.onInstanceFinished_cases e projectId exitCode exitStatus with
    h | ⟨project, -, -, hp, -, _, hcount, h | h | ⟨_, -, h⟩⟩
  · rw [h]
    exact ⟨SameSchedule.refl _ _, by simp, Nat.le_refl _⟩
  · rw [h]
    exact ⟨⟨rfl, hcount other hne, rfl⟩, by simp, Nat.le_refl _⟩
  · rw [h]
    refine ⟨⟨?_, hcount other hne, rfl⟩, ?_, Nat.le_refl _⟩
    · simp [SortedMap.find?_insert, hne]
    · simp [ScheduleEvent.projectId, Ne.symm hne]
  · have hid : project.id = projectId := ProjectMap.id_of_find? hp
    rw [h]
    refine ⟨⟨rfl, hcount other hne, rfl⟩, ?_, Nat.le_succ _⟩
    simp [ScheduleEvent.projectId, ScheduleEngine.restartFor, hid, Ne.symm hne]

theorem startInstance_spares (hne : other ≠ project.id) (serviceDir : String)
    (outcome : SpawnOutcome) (s : Scheduler) :
    Spares other s (Scheduler.startInstance project serviceDir outcome s) := by
  rcases Scheduler.startInstance_cases project serviceDir outcome s with
    ⟨ho, -⟩ | ⟨-, -, ⟨-, ho⟩ | ⟨-, ho⟩⟩
  · rw [ho]
    exact Spares.refl other s
  · rw [ho]
    exact ⟨SameSchedule.refl _ _, by simp [ScheduleEvent.projectId, Ne.symm hne],
      s.manager.persists_add project serviceDir, Nat.le_refl _, rfl⟩
  · obtain ⟨hsched, hev, hnext⟩ :=
      onInstanceFinished_spares hne (-1) .crashExit s.engine
    rw [ho]
    refine ⟨hsched, ?_, s.manager.persists_add_remove project serviceDir, hnext,
      (Scheduler.endInstance_sameRecords _ _ _ _
        { s with manager := s.manager.add project serviceDir }).shuttingDown⟩
    intro e he
    simp only [Scheduler.endInstance, Scheduler.notifyFinished, Action.seq_apply,
      Action.emit_apply, Action.modify_apply, List.append_nil, List.mem_cons,
      List.cons_append, List.nil_append] at he
    rcases he with rfl | rfl | he
    · exact Ne.symm hne
    · exact Ne.symm hne
    · exact hev e he

theorem callStart_spares (caller : StartCaller) (hne : other ≠ project.id) (serviceDir : String)
    (outcome : SpawnOutcome) (s : Scheduler) :
    Spares other s (Scheduler.callStart caller project serviceDir outcome s) := by
  refine Spares.seq ⟨SameSchedule.refl _ _, ?_, fun _ _ h => h, Nat.le_refl _, rfl⟩
    (startInstance_spares hne serviceDir outcome s)
  simp [ScheduleEvent.projectId, Ne.symm hne]

theorem startDaemon_spares (hne : other ≠ project.id) (serviceDir : String) (outcome : SpawnOutcome)
    (s : Scheduler) :
    Spares other s (Scheduler.startDaemon project serviceDir outcome s) := by
  unfold Scheduler.startDaemon
  split_ifs
  · exact Spares.refl other s
  · exact Spares.refl other s
  · refine Spares.seq ⟨SameSchedule.refl _ _, ?_, fun _ _ h => h, Nat.le_refl _, rfl⟩
      (callStart_spares .daemon hne serviceDir outcome s)
    simp [ScheduleEvent.projectId, Ne.symm hne]

theorem launch_spares (hne : other ≠ project.id) (outcome : SpawnOutcome) (s : Scheduler) :
    Spares other s (Scheduler.launch project outcome s) := by
  unfold Scheduler.launch
  split
  · exact Spares.refl other s
  · split
    · exact Spares.refl other s
    · refine ⟨⟨rfl, rfl, ?_⟩, by simp [Scheduler.onEngine], fun _ _ h => h, Nat.le_succ _, rfl⟩
      simp [Scheduler.onEngine, ScheduleEngine.startFixedRate, SortedMap.find?_insert, hne]
    · exact startDaemon_spares hne _ outcome s

theorem startEntry_spares (hne : other ≠ project.id) (outcome : SpawnOutcome) (s : Scheduler) :
    Spares other s (Scheduler.startEntry project outcome s) := by
  unfold Scheduler.startEntry
  split_ifs
  · exact Spares.refl other s
  · exact launch_spares hne outcome s

theorem startProject_spares (hne : other ≠ project.id) (services : ServiceMap)
    (outcome : SpawnOutcome) (s : Scheduler) :
    Spares other s (Scheduler.startProject project services outcome s) := by
  refine Spares.seq ⟨⟨?_, ?_, ?_⟩, by simp [Scheduler.onEngine], fun _ _ h => h,
    Nat.le_refl _, rfl⟩ ?_
  · simp [Scheduler.onEngine, ScheduleEngine.install, SortedMap.find?_erase, hne]
  · simp [Scheduler.onEngine, ScheduleEngine.install, SortedMap.find?_erase, hne]
  · simp [Scheduler.onEngine, ScheduleEngine.install, SortedMap.find?_erase, hne]
  · dsimp only
    split_ifs
    · exact Spares.refl other _
    · exact launch_spares hne outcome _

/-- Entries of other projects. -/
theorem forEach_startEntry_spares (other : String) (ps : List Project)
    (hps : ∀ p ∈ ps, other ≠ p.id) (spawn : String → SpawnOutcome) (s : Scheduler) :
    Spares other s (Action.forEach ps (fun p => Scheduler.startEntry p (spawn p.id)) s) := by
  induction ps generalizing s with
  | nil => exact Spares.refl other s
  | cons p ps ih =>
    exact Spares.seq (startEntry_spares (hps p (by simp)) (spawn p.id) s)
      (ih (fun q hq => hps q (by simp [hq])) _)

/-! ## §2. A scheduling restart -/

/-- Nothing is known about the project: no timer, no suppression, no failures. -/
structure Cleared (id : String) (e : ScheduleEngine) : Prop where
  timer : e.timers.find? id = none
  restartSuppressed : e.restartSuppressed.find? id = none
  consecutiveFailures : e.consecutiveFailures.find? id = none

/-- **What a restart with `projects` and `services` leaves of one project.**  A new timer
iff the project runs at a fixed rate; an instance only of an idle daemon; and cleared
flags, unless its own instance has failed to start. -/
structure RestartedAs (projects : ProjectMap) (services : ServiceMap) (id : String)
    (s : Scheduler) (out : Scheduler × List ScheduleEvent) : Prop where
  timer : out.1.engine.timers.contains id = true ↔
    ∃ p, projects.find? id = some p ∧ p.RunsAs .fixedRate ∧
      services.contains p.serviceId = true
  fresh : ∀ t, out.1.engine.timers.find? id = some t → s.engine.nextTimer ≤ t.timerId
  started : ∀ i, .instanceCreated i id ∈ out.2 →
    s.engine.shuttingDown = false ∧ s.manager.instanceCount id = 0 ∧
      ∃ p, projects.find? id = some p ∧ p.RunsAs .daemon ∧
        services.contains p.serviceId = true
  cleared : (∀ i exitCode exitStatus, .instanceFinished i id exitCode exitStatus ∉ out.2) →
    out.1.engine.restartSuppressed.find? id = none ∧
      out.1.engine.consecutiveFailures.find? id = none

/-- A project that is not launched stays cleared. -/
theorem Cleared.restartedAs (projects : ProjectMap) (services : ServiceMap)
    (hc : Cleared id s.engine)
    (hno : ∀ p, projects.find? id = some p → p.RunsAs .fixedRate →
      services.contains p.serviceId = false) :
    RestartedAs projects services id s (s, []) := by
  refine ⟨?_, ?_, by simp, fun _ => ⟨hc.restartSuppressed, hc.consecutiveFailures⟩⟩
  · simp only [SortedMap.contains, hc.timer, Option.isSome_none, Bool.false_eq_true, false_iff,
      not_exists, not_and, Bool.not_eq_true]
    exact hno
  · simp [hc.timer]

theorem startDaemon_restartedAs (hp : projects.find? project.id = some project)
    (hrun : project.RunsAs .daemon) (hc : Cleared project.id s.engine) {service : ServiceInfo}
    (hsvc : s.engine.services.find? project.serviceId = some service) (outcome : SpawnOutcome) :
    RestartedAs projects s.engine.services project.id s
      (Scheduler.startDaemon project service.serviceDir outcome s) := by
  have hnofix : ∀ p, projects.find? project.id = some p → p.RunsAs .fixedRate →
      s.engine.services.contains p.serviceId = false := by
    intro p hp' hfix
    obtain rfl := Option.some.inj (hp.symm.trans hp')
    exact absurd (hrun.2.2.symm.trans hfix.2.2) (by simp)
  by_cases hm : s.DaemonMayStart project.id
  · have hrec := Scheduler.startInstance_sameRecords project service.serviceDir outcome s
    rw [Scheduler.startDaemon_of_mayStart hm]
    have htimer : (Scheduler.callStart .daemon project service.serviceDir outcome s).1.engine.timers
        = s.engine.timers := hrec.timers
    refine ⟨?_, ?_, fun i _ => ?_, fun hno => ?_⟩
    · rw [htimer]
      exact (hc.restartedAs _ _ hnofix).timer
    · rw [htimer]
      exact (hc.restartedAs _ _ hnofix).fresh
    · refine ⟨hm.1, hm.2.2, project, hp, hrun, ?_⟩
      exact SortedMap.contains_eq_true.mpr ⟨service, hsvc⟩
    · rcases Scheduler.startInstance_cases project service.serviceDir outcome s with
        ⟨ho, -⟩ | ⟨-, -, ⟨-, ho⟩ | ⟨-, ho⟩⟩
      · simpa [Scheduler.callStart, ho] using ⟨hc.restartSuppressed, hc.consecutiveFailures⟩
      · simpa [Scheduler.callStart, ho] using ⟨hc.restartSuppressed, hc.consecutiveFailures⟩
      · refine absurd ?_ (hno s.manager.nextId (-1) .crashExit)
        simp [Scheduler.callStart, ho, Scheduler.endInstance]
  · rw [Scheduler.startDaemon_of_not_mayStart hm]
    exact hc.restartedAs _ _ hnofix

/-- The project's own entry in the loop of `startAll`. -/
theorem startEntry_restartedAs (hp : projects.find? project.id = some project)
    (hc : Cleared project.id s.engine) (outcome : SpawnOutcome) :
    RestartedAs projects s.engine.services project.id s
      (Scheduler.startEntry project outcome s) := by
  have hother : ¬ (project.RunsAs .fixedRate ∧
      s.engine.services.contains project.serviceId = true) →
      RestartedAs projects s.engine.services project.id s (s, []) := by
    intro hno
    refine hc.restartedAs _ _ fun p hp' hfix => ?_
    obtain rfl := Option.some.inj (hp.symm.trans hp')
    simpa using fun h => hno ⟨hfix, h⟩
  unfold Scheduler.startEntry
  split_ifs with hbad
  · refine hother fun ⟨hfix, _⟩ => ?_
    simp [hfix.1, hfix.2.1] at hbad
  · simp only [Bool.or_eq_true, Bool.not_eq_true', not_or, Bool.not_eq_false] at hbad
    unfold Scheduler.launch
    cases hsvc : s.engine.services.find? project.serviceId with
    | none =>
      refine hother fun ⟨_, hknown⟩ => ?_
      simp [SortedMap.contains, hsvc] at hknown
    | some service =>
      have hknown : s.engine.services.contains project.serviceId = true :=
        SortedMap.contains_eq_true.mpr ⟨service, hsvc⟩
      cases ht : project.schedule.type with
      | manual =>
        refine hother fun ⟨hfix, _⟩ => ?_
        exact absurd (ht.symm.trans hfix.2.2) (by simp)
      | daemon =>
        exact startDaemon_restartedAs hp ⟨hbad.1, hbad.2, ht⟩ hc hsvc outcome
      | fixedRate =>
        refine ⟨iff_of_true ?_ ⟨project, hp, ⟨hbad.1, hbad.2, ht⟩, hknown⟩, ?_, ?_, fun _ => ?_⟩
        · simp [Scheduler.onEngine, ScheduleEngine.startFixedRate, SortedMap.contains_insert]
        · simp [Scheduler.onEngine, ScheduleEngine.startFixedRate]
        · simp [Scheduler.onEngine]
        · exact ⟨hc.restartSuppressed, hc.consecutiveFailures⟩

/-- Calls that concern other projects, before and after, change nothing of it. -/
theorem RestartedAs.between {services : ServiceMap} {a b c : Scheduler × List ScheduleEvent}
    (ha : Spares id s a) (hb : RestartedAs projects services id a.1 b) (hc : Spares id b.1 c) :
    RestartedAs projects services id s (c.1, a.2 ++ (b.2 ++ c.2)) := by
  have hmem : ∀ ev : ScheduleEvent, ev.projectId = id → ev ∈ a.2 ++ (b.2 ++ c.2) →
      ev ∈ b.2 := by
    intro ev hid hev
    simp only [List.mem_append] at hev
    rcases hev with hev | hev | hev
    · exact absurd hid (ha.events ev hev)
    · exact hev
    · exact absurd hid (hc.events ev hev)
  refine ⟨?_, fun t ht => ?_, fun i hi => ?_, fun hno => ?_⟩
  · rw [← hb.timer]
    simp only [SortedMap.contains, hc.schedule.timer]
  · refine ha.nextTimer.trans (hb.fresh t ?_)
    rw [← hc.schedule.timer]
    exact ht
  · obtain ⟨hsd, hcount, hp⟩ := hb.started i (hmem _ rfl hi)
    refine ⟨ha.shuttingDown ▸ hsd, ?_, hp⟩
    by_contra hpos
    have := ha.manager.instanceCount_pos (Nat.pos_of_ne_zero hpos)
    omega
  · have hno' : ∀ i code st, .instanceFinished i id code st ∉ b.2 := by
      intro i code st hi
      refine hno i code st ?_
      simp only [List.mem_append]
      exact Or.inr (Or.inl hi)
    obtain ⟨hsup, hfail⟩ := hb.cleared hno'
    exact ⟨hc.schedule.restartSuppressed.trans hsup,
      hc.schedule.consecutiveFailures.trans hfail⟩

theorem Cleared.spares {out : Scheduler × List ScheduleEvent} (hc : Cleared id s.engine)
    (hs : Spares id s out) : Cleared id out.1.engine :=
  ⟨hs.schedule.timer.trans hc.timer, hs.schedule.restartSuppressed.trans hc.restartSuppressed,
    hs.schedule.consecutiveFailures.trans hc.consecutiveFailures⟩

theorem forEach_startEntry_services (ps : List Project) (spawn : String → SpawnOutcome)
    (s : Scheduler) :
    (Action.forEach ps (fun p => Scheduler.startEntry p (spawn p.id)) s).1.engine.services =
      s.engine.services := by
  induction ps generalizing s with
  | nil => rfl
  | cons p ps ih =>
    exact (ih _).trans (Scheduler.startEntry_projects p (spawn p.id) s).2

/-- **A scheduling restart**, for one project. -/
theorem startAll_restarted (projects : ProjectMap) (services : ServiceMap)
    (spawn : String → SpawnOutcome) (id : String) (s : Scheduler) :
    RestartedAs projects services id s (Scheduler.startAll projects services spawn s) := by
  set loaded : Scheduler := { s with engine := s.engine.load projects services } with hl
  have hc : Cleared id loaded.engine := ⟨rfl, rfl, rfl⟩
  have hall : RestartedAs projects services id loaded
      (Action.forEach projects.values (fun p => Scheduler.startEntry p (spawn p.id)) loaded) := by
    cases hp : projects.find? id with
    | none =>
      have hsp := forEach_startEntry_spares id projects.values
        (fun p hmem hid => by simp [hid, ProjectMap.mem_values.mp hmem] at hp) spawn loaded
      have hmid := (hc.spares hsp).restartedAs projects services
        (by simp [hp])
      simpa using RestartedAs.between hsp hmid (Spares.refl id _)
    | some p =>
      have hid : p.id = id := ProjectMap.id_of_find? hp
      subst hid
      obtain ⟨l₁, l₂, hsplit⟩ := List.append_of_mem (ProjectMap.mem_values.mpr hp)
      -- no other entry has the project's id
      have hpw := projects.values_pairwise_id
      rw [hsplit, List.pairwise_append] at hpw
      obtain ⟨-, hpw₂, hpw₁⟩ := hpw
      have hl₁ : ∀ q ∈ l₁, p.id ≠ q.id := fun q hq => (hpw₁ q hq p (by simp)).symm
      have hl₂ : ∀ q ∈ l₂, p.id ≠ q.id := (List.pairwise_cons.mp hpw₂).1
      have hsp₁ := forEach_startEntry_spares _ _ hl₁ spawn loaded
      have hown := startEntry_restartedAs hp (hc.spares hsp₁) (spawn p.id)
      rw [forEach_startEntry_services l₁ spawn loaded] at hown
      rw [hsplit, Action.forEach_append]
      exact RestartedAs.between hsp₁ hown (forEach_startEntry_spares _ _ hl₂ spawn _)
  have hstart : Scheduler.startAll projects services spawn s =
      Action.forEach projects.values (fun p => Scheduler.startEntry p (spawn p.id)) loaded := by
    simp [Scheduler.startAll, Scheduler.onEngine, hl]
  rw [hstart]
  exact ⟨hall.timer, hall.fresh, hall.started, hall.cleared⟩

/-! ## §3. Project requests -/

/-- The scheduler's event, if it is one. -/
def ServerEvent.engine? : ServerEvent → Option ScheduleEvent
  | .engine e _ => some e
  | _ => none

/-- A server step as seen by the scheduler. -/
def ServerManager.schedulerOut (out : ServerManager × List ServerEvent) :
    Scheduler × List ScheduleEvent :=
  (out.1.scheduler, out.2.filterMap ServerEvent.engine?)

/-- The project a step is about, if it is a project request or the return of its wait. -/
def ServerOp.onProject (s : ServerManager) : ServerOp → Option String
  | .create body _ _ => some ((body.toOption.bind ProjectBody.id).getD "")
  | .update id _ _ _ _ => some id
  | .delete id _ _ => some id
  | .reload id _ _ => some id
  | .setEnabled id _ _ _ _ => some id
  | .start id _ => some id
  | .stop id => some id
  | .resume _ _ => s.pending.head?.map PendingOp.projectId
  | _ => none

namespace ServerManager

theorem schedulerOut_seq (a b : Action ServerManager ServerEvent) (s : ServerManager) :
    schedulerOut (Action.seq a b s) =
      ((schedulerOut (b (a s).1)).1,
        (schedulerOut (a s)).2 ++ (schedulerOut (b (a s).1)).2) := by
  simp [schedulerOut]

theorem schedulerOut_onScheduler (a : Action Scheduler ScheduleEvent) (s : ServerManager) :
    schedulerOut (onScheduler a s) = a s.scheduler := by
  have h : ∀ l : List ScheduleEvent,
      (l.map fun e => ServerEvent.engine e s.projects).filterMap ServerEvent.engine? = l := by
    intro l
    induction l with
    | nil => rfl
    | cons e l ih => simp [ServerEvent.engine?, ih]
  simp [schedulerOut, onScheduler, h]

/-- The scheduler sees a scheduling restart as `startAll`. -/
theorem schedulerOut_startScheduling (spawn : String → SpawnOutcome) (s : ServerManager) :
    schedulerOut (startScheduling spawn s) =
      Scheduler.startAll s.projects s.services spawn s.scheduler := by
  simp only [startScheduling, schedulerOut_seq, Action.bind_apply, Action.emit_apply]
  rw [schedulerOut_onScheduler]
  rfl

/-- The step leaves the project `other` alone. -/
def StepSpares (other : String) (a : Action ServerManager ServerEvent) (s : ServerManager) :
    Prop := Spares other s.scheduler (schedulerOut (a s))

variable {other id : String} {a : Action ServerManager ServerEvent} {s : ServerManager}

theorem StepSpares.seq {b : Action ServerManager ServerEvent} (ha : StepSpares other a s)
    (hb : StepSpares other b (a s).1) :
    StepSpares other (Action.seq a b) s := by
  unfold StepSpares
  rw [schedulerOut_seq]
  exact Spares.seq ha hb

theorem respond_spares (other : String) (verb : Verb) (id : String)
    (response : ServerManager → Response) (s : ServerManager) :
    StepSpares other (respond verb id response) s := Spares.refl other s.scheduler

/-- Changing the server's own maps is nothing to the scheduler. -/
theorem modify_spares (other : String) {f : ServerManager → ServerManager}
    (hf : (f s).scheduler = s.scheduler) : StepSpares other (Action.modify f) s := by
  unfold StepSpares
  simp only [schedulerOut, Action.modify_apply, hf]
  exact Spares.refl other s.scheduler

theorem stopAndTerminate_spares (hne : other ≠ id) (s : ServerManager) :
    StepSpares other (stopAndTerminate id) s := by
  refine ⟨⟨?_, ?_, ?_⟩, ?_, fun _ _ h => h, Nat.le_refl _, rfl⟩
  · simp [schedulerOut, stopAndTerminate, onEngine, ScheduleEngine.stopProject,
      SortedMap.find?_insert, hne]
  · simp [schedulerOut, stopAndTerminate, onEngine, ScheduleEngine.stopProject,
      SortedMap.find?_erase, hne]
  · simp [schedulerOut, stopAndTerminate, onEngine, ScheduleEngine.stopProject,
      SortedMap.find?_erase, hne]
  · simp [schedulerOut, stopAndTerminate, onEngine]

theorem onScheduler_spares {a : Action Scheduler ScheduleEvent}
    (ha : Spares other s.scheduler (a s.scheduler)) :
    StepSpares other (onScheduler a) s := by
  unfold StepSpares
  rwa [schedulerOut_onScheduler]

/-- A scheduling restart in the middle of a step. -/
theorem restart_between {c : Action ServerManager ServerEvent} {spawn : String → SpawnOutcome}
    {projects : ProjectMap} {services : ServiceMap} (hp : (a s).1.projects = projects)
    (hs : (a s).1.services = services) (ha : StepSpares other a s)
    (hc : StepSpares other c (startScheduling spawn (a s).1).1) :
    RestartedAs projects services other s.scheduler
      (schedulerOut (Action.seq a (Action.seq (startScheduling spawn) c) s)) := by
  have hb : RestartedAs projects services other (a s).1.scheduler
      (schedulerOut (startScheduling spawn (a s).1)) := by
    rw [schedulerOut_startScheduling, hp, hs]
    exact startAll_restarted projects services spawn other _
  rw [schedulerOut_seq, schedulerOut_seq]
  exact RestartedAs.between ha hb hc

/-- What the step leaves of another project: nothing has happened to it, or scheduling
was restarted. -/
def LeavesOther (other : String) (restart : Option ProjectMap) (s : ServerManager)
    (out : ServerManager × List ServerEvent) : Prop :=
  match restart with
  | none => Spares other s.scheduler (schedulerOut out)
  | some projects => RestartedAs projects s.services other s.scheduler (schedulerOut out)

theorem restart_leavesOther (other : String) (spawn : String → SpawnOutcome) (verb : Verb)
    (id : String) (response : ServerManager → Response) (s : ServerManager) :
    LeavesOther other (some s.projects) s
      (Action.seq (startScheduling spawn) (respond verb id response) s) :=
  restart_between (a := Action.skip) rfl rfl (Spares.refl _ _) (respond_spares _ _ _ _ _)

theorem insert_restart_leavesOther (other : String) (project : Project)
    (spawn : String → SpawnOutcome) (verb : Verb) (id : String)
    (response : ServerManager → Response) (s : ServerManager) :
    LeavesOther other (some (s.projects.insert project)) s
      (Action.seq (Action.modify fun s => { s with projects := s.projects.insert project })
        (Action.seq (startScheduling spawn) (respond verb id response)) s) :=
  restart_between rfl rfl (modify_spares other rfl) (respond_spares _ _ _ _ _)

theorem finishPending_leavesOther (op : PendingOp) (finished : Bool) (storage : Except String Unit)
    (spawn : String → SpawnOutcome) (s : ServerManager) :
    LeavesOther other (restartsOnFinish op s.projects finished storage) s
      (finishPending op finished storage spawn s) := by
  cases finished with
  | false =>
    cases op
    all_goals exact restart_leavesOther other spawn _ _ _ s
  | true =>
    cases op with
    | update project => exact insert_restart_leavesOther other project spawn _ _ _ s
    | reload project => exact insert_restart_leavesOther other project spawn _ _ _ s
    | delete id =>
      cases storage with
      | error e => exact restart_leavesOther other spawn _ _ _ s
      | ok => exact StepSpares.seq (modify_spares other rfl) (respond_spares _ _ _ _ _)
    | disable updated _ =>
      exact StepSpares.seq (modify_spares other rfl) (respond_spares _ _ _ _ _)

/-- A step that begins by stopping its own project. -/
theorem LeavesOther.after_stop (hne : other ≠ id) {restart : Option ProjectMap}
    (h : LeavesOther other restart (stopAndTerminate id s).1 (a (stopAndTerminate id s).1)) :
    LeavesOther other restart s (Action.seq (stopAndTerminate id) a s) := by
  have hstop := stopAndTerminate_spares hne s
  cases restart with
  | none => exact StepSpares.seq hstop h
  | some projects =>
    have hb : RestartedAs projects s.services other (stopAndTerminate id s).1.scheduler
        (schedulerOut (a (stopAndTerminate id s).1)) := h
    have hall := RestartedAs.between hstop hb (Spares.refl other _)
    simp only [LeavesOther, schedulerOut_seq]
    simpa using hall

/-- Announcing the stop is nothing to the scheduler. -/
theorem LeavesOther.after_stopping {restart : Option ProjectMap}
    (h : LeavesOther other restart s (a s)) :
    LeavesOther other restart s (Action.seq (Action.emit fun _ => .stopping id) a s) := by
  have hout : schedulerOut (Action.seq (Action.emit fun _ => .stopping id) a s) =
      schedulerOut (a s) := rfl
  cases restart with
  | none =>
    simp only [LeavesOther, hout] at h ⊢
    exact h
  | some projects =>
    simp only [LeavesOther, hout] at h ⊢
    exact h

theorem stopProjectAndWait_leavesOther (op : PendingOp) (hne : other ≠ op.projectId)
    (storage : Except String Unit) (spawn : String → SpawnOutcome) (s : ServerManager) :
    LeavesOther other
      (if s.running op.projectId = 0 then restartsOnFinish op s.projects true storage else none)
      s (stopProjectAndWait op storage spawn s) := by
  refine LeavesOther.after_stop hne (LeavesOther.after_stopping ?_)
  have hrun : (stopAndTerminate op.projectId s).1.running op.projectId =
      s.running op.projectId := rfl
  simp only [Action.bind_apply, hrun]
  split_ifs with h0
  · exact finishPending_leavesOther op true storage spawn (stopAndTerminate op.projectId s).1
  · exact modify_spares other rfl

variable {validate : ConfigValidator} {other : String}

theorem create_leavesOther {body : Parsed ProjectBody} (saved : Except String Unit)
    (spawn : String → SpawnOutcome) (s : ServerManager) :
    LeavesOther other ((ServerOp.create body saved spawn).restartsWith validate s) s
      (create validate body saved spawn s) := by
  unfold create
  cases hc : checkCreate validate s body saved with
  | error r =>
    simp only [ServerOp.restartsWith, hc, Except.toOption, Option.map_none]
    exact respond_spares _ _ _ _ s
  | ok project =>
    simp only [ServerOp.restartsWith, hc, Except.toOption, Option.map_some]
    exact insert_restart_leavesOther other project spawn _ _ _ s

theorem update_leavesOther (hne : other ≠ id) (body : Parsed ProjectBody)
    (saved storage : Except String Unit) (spawn : String → SpawnOutcome) (s : ServerManager) :
    LeavesOther other ((ServerOp.update id body saved storage spawn).restartsWith validate s) s
      (update validate id body saved storage spawn s) := by
  unfold update
  cases hc : checkUpdate validate s id body saved with
  | error r =>
    simp only [ServerOp.restartsWith, hc]
    exact respond_spares _ _ _ _ s
  | ok project =>
    simp only [ServerOp.restartsWith, hc]
    exact stopProjectAndWait_leavesOther (.update project)
      (by rw [PendingOp.projectId, (checkUpdate_ok hc).1]; exact hne) storage spawn s

theorem delete_leavesOther (hne : other ≠ id) (storage : Except String Unit)
    (spawn : String → SpawnOutcome) (s : ServerManager) :
    LeavesOther other ((ServerOp.delete id storage spawn).restartsWith validate s) s
      (delete id storage spawn s) := by
  unfold delete
  by_cases hex : s.projects.contains id = true
  · by_cases hfl : s.inFlight id = true
    · simp only [ServerOp.restartsWith, hex, hfl, Bool.not_true, Bool.and_false, Bool.false_and,
        Bool.false_eq_true, if_false, if_true]
      exact respond_spares _ _ _ _ s
    · have h := stopProjectAndWait_leavesOther (.delete id) hne storage spawn s
      by_cases h0 : s.running id = 0
      · simpa [ServerOp.restartsWith, hex, hfl, PendingOp.projectId, h0] using h
      · simpa [ServerOp.restartsWith, hex, hfl, PendingOp.projectId, h0] using h
  · simp only [ServerOp.restartsWith, hex, Bool.not_false, Bool.false_and, Bool.false_eq_true,
      if_false, if_true]
    exact respond_spares _ _ _ _ s

theorem reload_leavesOther (hne : other ≠ id) (loaded : Except String ProjectDraft)
    (spawn : String → SpawnOutcome) (s : ServerManager) :
    LeavesOther other ((ServerOp.reload id loaded spawn).restartsWith validate s) s
      (reload validate id loaded spawn s) := by
  unfold reload
  cases hc : checkReload validate s id loaded with
  | error r =>
    simp only [ServerOp.restartsWith, hc]
    exact respond_spares _ _ _ _ s
  | ok project =>
    simp only [ServerOp.restartsWith, hc]
    exact stopProjectAndWait_leavesOther (.reload project)
      (by rw [PendingOp.projectId, (checkReload_ok hc).1]; exact hne) (.ok ()) spawn s

theorem setEnabled_leavesOther (hne : other ≠ id) (body : Parsed (Option Bool))
    (saved storage : Except String Unit) (spawn : String → SpawnOutcome) (s : ServerManager) :
    LeavesOther other none s (setEnabled id body saved storage spawn s) := by
  unfold setEnabled
  cases hc : checkEnabled s id body saved with
  | error r => exact respond_spares _ _ _ _ s
  | ok updated =>
    have hid : other ≠ updated.id := by
      rw [checkEnabled_id hc]
      exact hne
    dsimp only
    split_ifs with hen
    · exact StepSpares.seq (modify_spares other rfl)
        (StepSpares.seq (onScheduler_spares (startProject_spares hid _ _ _))
          (respond_spares _ _ _ _ _))
    · have h := stopProjectAndWait_leavesOther
        (.disable updated (Bool.eq_false_of_not_eq_true hen)) hid storage spawn s
      simpa [restartsOnFinish] using h

theorem start_leavesOther (hne : other ≠ id) (outcome : SpawnOutcome) (s : ServerManager) :
    LeavesOther other none s (start id outcome s) := by
  unfold start
  cases hc : checkStart s id with
  | error r => exact respond_spares _ _ _ _ s
  | ok check =>
    obtain ⟨-, p, service, hp, -, -, hcase⟩ := checkStart_ok hc
    have hid : other ≠ p.id := by
      rw [ProjectMap.id_of_find? hp]
      exact hne
    rcases hcase with ⟨rfl, -, -⟩ | ⟨rfl, -⟩
    · exact respond_spares _ _ _ _ s
    · have hresume : StepSpares other (onEngine (·.resumeProject id)) s := by
        refine ⟨⟨?_, ?_, rfl⟩, by simp [schedulerOut, onEngine], fun _ _ h => h, Nat.le_refl _,
          rfl⟩
        · simp [schedulerOut, onEngine, ScheduleEngine.resumeProject, SortedMap.find?_erase, hne]
        · simp [schedulerOut, onEngine, ScheduleEngine.resumeProject, SortedMap.find?_erase, hne]
      exact StepSpares.seq hresume
        (StepSpares.seq (onScheduler_spares (startInstance_spares hid _ _ _))
          (respond_spares _ _ _ _ _))

theorem stop_leavesOther (hne : other ≠ id) (s : ServerManager) :
    LeavesOther other none s (stop id s) := by
  unfold stop
  split_ifs
  · exact respond_spares _ _ _ _ s
  · exact respond_spares _ _ _ _ s
  · exact StepSpares.seq (stopAndTerminate_spares hne s) (respond_spares _ _ _ _ _)

theorem resume_leavesOther (storage : Except String Unit) (spawn : String → SpawnOutcome)
    (s : ServerManager) :
    LeavesOther other ((ServerOp.resume storage spawn).restartsWith validate s) s
      (resume storage spawn s) := by
  unfold resume
  cases hp : s.pending with
  | nil =>
    simp only [ServerOp.restartsWith, hp]
    exact Spares.refl other s.scheduler
  | cons op rest =>
    simp only [ServerOp.restartsWith, hp]
    exact finishPending_leavesOther op _ storage spawn { s with pending := rest }

end ServerManager

/-- A step of a request on one project leaves the schedule of every other project as it is and
starts no instance of it, unless the step restarts scheduling; then it leaves the other project as
a restart with the server's records does. -/
theorem step_isolation (validate : ConfigValidator) (s : ServerManager) (op : ServerOp)
    {project other : String} (hop : op.onProject s = some project) (hne : other ≠ project) :
    ServerManager.LeavesOther other (op.restartsWith validate s) s (op.action validate s) := by
  cases op with
  | create body saved spawn => exact ServerManager.create_leavesOther saved spawn s
  | update id body saved storage spawn =>
    obtain rfl := Option.some.inj hop
    exact ServerManager.update_leavesOther hne body saved storage spawn s
  | delete id storage spawn =>
    obtain rfl := Option.some.inj hop
    exact ServerManager.delete_leavesOther hne storage spawn s
  | reload id loaded spawn =>
    obtain rfl := Option.some.inj hop
    exact ServerManager.reload_leavesOther hne loaded spawn s
  | setEnabled id body saved storage spawn =>
    obtain rfl := Option.some.inj hop
    exact ServerManager.setEnabled_leavesOther hne body saved storage spawn s
  | start id outcome =>
    obtain rfl := Option.some.inj hop
    exact ServerManager.start_leavesOther hne outcome s
  | stop id =>
    obtain rfl := Option.some.inj hop
    exact ServerManager.stop_leavesOther hne s
  | resume storage spawn => exact ServerManager.resume_leavesOther storage spawn s
  | _ => simp [ServerOp.onProject] at hop

/-- **Isolation.**  In every run, each step of a request on one project leaves every other project
alone if it restarts no scheduling, and as the restart does if it does. -/
theorem request_isolation (validate : ConfigValidator)
    (c : Machine.Config ServerManager ServerEvent) (ops : List ServerOp) :
    (serverMachine validate).EveryStep (fun c op => ∀ project other,
      op.onProject c.state = some project → other ≠ project →
        ServerManager.LeavesOther other (op.restartsWith validate c.state) c.state
          (op.action validate c.state)) c ops := by
  rw [Machine.everyStep_iff]
  intro pre op post _ project other hop hne
  exact step_isolation validate _ op hop hne

/-- Stopping the daemon "p" restarts nothing, and leaves "q" alone. -/
theorem stop_isolated :
    Spares "q" echoServer.state.scheduler
      (ServerManager.schedulerOut ((ServerOp.stop "p").action acceptAll echoServer.state)) :=
  (request_isolation acceptAll echoServer [.stop "p"]).1 "p" "q" rfl (by decide)

/-- The daemon is stopped and its instance has ended. -/
def stoppedDaemon : ServerManager :=
  ((serverMachine acceptAll).run echoServer [.stop "p", .processFinished 0 9 .crashExit]).state

/-- Create a second project on the same service. -/
def createSecond : ServerOp :=
  .create (.ok { id := some "q", draft := .ok { name := "Q", serviceId := "echo" } }) (.ok ())
    fun _ => .running

/-- Creating "q" lifts the suppression of the stopped daemon "p" and starts it. -/
theorem create_restarts_stopped_daemon :
    createSecond.onProject stoppedDaemon = some "q" ∧
      ¬ Spares "p" stoppedDaemon.scheduler
        (ServerManager.schedulerOut (createSecond.action acceptAll stoppedDaemon)) := by
  refine ⟨by decide, fun h => ?_⟩
  have hsame := h.schedule.restartSuppressed
  revert hsame
  decide

end Stdiolink.Server
