/-
  Stdiolink.Server.EngineRecords — the engine's copy of the project records.

  The engine keeps the project map that `startAll` gave it and the records that
  `startProject` added.  The server changes its own map at other moments too.  The
  two may differ for a project the engine would not touch; they must agree for one
  it has scheduled.

  Main results:
    * `recordsCurrent_step` — the invariant "what the engine has scheduled agrees with
      the server's records" and the server steps that keep it;
    * `engine_acts_on_current_records` — along every run of such steps the engine
      starts and arms projects only on records the server has now.
-/
import Stdiolink.Server.ApiRouter
import Stdiolink.Server.EngineRun

namespace Stdiolink.Server

open Stdiolink.Lib

/-! ## §1. Agreement -/

/-- The server has an enabled and valid project with the record's id, service and
schedule. -/
def AgreesWith (projects : ProjectMap) (q : Project) : Prop :=
  ∃ p, projects.find? q.id = some p ∧ p.enabled = true ∧ p.valid = true ∧
    p.serviceId = q.serviceId ∧ p.schedule = q.schedule

instance (projects : ProjectMap) (q : Project) : Decidable (AgreesWith projects q) :=
  match hp : projects.find? q.id with
  | none => isFalse (by simp [AgreesWith, hp])
  | some p =>
      decidable_of_iff (p.enabled = true ∧ p.valid = true ∧ p.serviceId = q.serviceId ∧
        p.schedule = q.schedule) (by simp [AgreesWith, hp])

/-- The engine would start or restart the project by itself: a timer ticks for it, its
daemon is watched, or a restart is armed for it. -/
def Scheduled (e : ScheduleEngine) (projectId : String) : Prop :=
  e.shuttingDown = false ∧ ∃ q, e.projects.find? projectId = some q ∧
    (e.timers.contains projectId = true ∧ q.RunsAs .fixedRate ∨
      e.restartSuppressed.contains projectId = false ∧
        (q.RunsAs .daemon ∨ ∃ r ∈ e.restarts, r.projectId = projectId))

/-- **The invariant.**  The engine's record of every scheduled project agrees with the
server's. -/
def RecordsAgree (projects : ProjectMap) (e : ScheduleEngine) : Prop :=
  ∀ id q, e.projects.find? id = some q → Scheduled e id → AgreesWith projects q

/-- The record an event of the engine acts on: the one it starts or arms a restart for. -/
def ScheduleEvent.actsOn : ScheduleEvent → Option Project
  | .startCall _ project _ _ => some project
  | .restartArmed _ project => some project
  | _ => none

/-- Every record acted on agrees with the server's. -/
def AllCurrent (projects : ProjectMap) (h : List ScheduleEvent) : Prop :=
  ∀ e ∈ h, ∀ q, e.actsOn = some q → AgreesWith projects q

theorem AllCurrent.nil {projects : ProjectMap} : AllCurrent projects [] := by
  simp [AllCurrent]

theorem AllCurrent.append {projects : ProjectMap} {h h' : List ScheduleEvent}
    (hh : AllCurrent projects h) (hh' : AllCurrent projects h') :
    AllCurrent projects (h ++ h') :=
  List.forall_mem_append.mpr ⟨hh, hh'⟩

theorem agreesWith_self {projects : ProjectMap} {p : Project}
    (hp : projects.find? p.id = some p) (hen : p.enabled = true) (hv : p.valid = true) :
    AgreesWith projects p := ⟨p, hp, hen, hv, rfl, rfl⟩

/-- Agreement is about the one record. -/
theorem AgreesWith.congr {projects projects' : ProjectMap} {q : Project}
    (h : AgreesWith projects q) (heq : projects'.find? q.id = projects.find? q.id) :
    AgreesWith projects' q := by
  obtain ⟨p, hp, hrest⟩ := h
  exact ⟨p, heq.trans hp, hrest⟩

/-- An engine that has scheduled no more on the same records still agrees. -/
theorem RecordsAgree.mono {projects : ProjectMap} {e e' : ScheduleEngine}
    (h : RecordsAgree projects e) (hp : e'.projects = e.projects)
    (hs : ∀ id, Scheduled e' id → Scheduled e id) : RecordsAgree projects e' := by
  intro id q hq hsch
  exact h id q (hp ▸ hq) (hs id hsch)

/-- The server may change the records of projects the engine has not scheduled, and
any record in a way that keeps agreement. -/
theorem RecordsAgree.change {projects projects' : ProjectMap} {e : ScheduleEngine}
    (h : RecordsAgree projects e)
    (hc : ∀ id, Scheduled e id → ∀ q : Project, q.id = id → AgreesWith projects q →
      AgreesWith projects' q) : RecordsAgree projects' e := by
  intro id q hq hsch
  exact hc id hsch q (ProjectMap.id_of_find? hq) (h id q hq hsch)

/-! ## §2. The engine's operations -/

theorem scheduled_of_flags {e e' : ScheduleEngine} {id : String}
    (hsd : e'.shuttingDown = false → e.shuttingDown = false) (hp : e'.projects = e.projects)
    (ht : e'.timers.contains id = true → e.timers.contains id = true)
    (hsup : e'.restartSuppressed.contains id = false → e.restartSuppressed.contains id = false)
    (hr : ∀ r ∈ e'.restarts, r.projectId = id → r ∈ e.restarts ∨
      ∃ q, e.projects.find? id = some q ∧ q.RunsAs .daemon) :
    Scheduled e' id → Scheduled e id := by
  rintro ⟨hsd', q, hq, hcase⟩
  rw [hp] at hq
  refine ⟨hsd hsd', q, hq, ?_⟩
  rcases hcase with ⟨htimer, hrun⟩ | ⟨hs, hrun | ⟨r, hmem, hid⟩⟩
  · exact Or.inl ⟨ht htimer, hrun⟩
  · exact Or.inr ⟨hsup hs, Or.inl hrun⟩
  · rcases hr r hmem hid with hold | ⟨q', hq', hrun⟩
    · exact Or.inr ⟨hsup hs, Or.inr ⟨r, hold, hid⟩⟩
    · obtain rfl := Option.some.inj (hq.symm.trans hq')
      exact Or.inr ⟨hsup hs, Or.inl hrun⟩

/-- The slot schedules nothing new and arms a restart only on a scheduled record. -/
theorem onInstanceFinished_current {projects : ProjectMap} {e : ScheduleEngine}
    (h : RecordsAgree projects e) (projectId : String) (exitCode : Int)
    (exitStatus : ExitStatus) :
    RecordsAgree projects
        (ScheduleEngine.onInstanceFinished projectId exitCode exitStatus e).1 ∧
      AllCurrent projects
        (ScheduleEngine.onInstanceFinished projectId exitCode exitStatus e).2 := by
  rcases ScheduleEngine.onInstanceFinished_cases e projectId exitCode exitStatus with
    ho | ⟨project, hsd, hsup, hp, hrun, cf, -, ho | ho | ⟨_, -, ho⟩⟩
  · rw [ho]
    exact ⟨h, AllCurrent.nil⟩
  · rw [ho]
    exact ⟨h, AllCurrent.nil⟩
  · rw [ho]
    refine ⟨h.mono rfl fun id => scheduled_of_flags (fun h => h) rfl (fun h => h) ?_
      fun r hr _ => Or.inl hr, ?_⟩
    · intro hc
      rw [SortedMap.contains_insert, Bool.or_eq_false_iff] at hc
      exact hc.2
    · simp [AllCurrent, ScheduleEvent.actsOn]
  · rw [ho]
    have hid : project.id = projectId := ProjectMap.id_of_find? hp
    refine ⟨h.mono rfl fun id => scheduled_of_flags (fun h => h) rfl (fun h => h) (fun h => h)
      fun r hr hrid => ?_, ?_⟩
    · rcases List.mem_append.mp hr with hr | hr
      · exact Or.inl hr
      · right
        rw [List.mem_singleton.mp hr] at hrid
        have hpid : projectId = id := hid.symm.trans hrid
        exact ⟨project, hpid ▸ hp, hrun⟩
    · intro ev hev q hq
      rw [List.mem_singleton.mp hev] at hq
      obtain rfl := Option.some.inj hq
      exact h projectId project hp ⟨hsd, project, hp, Or.inr ⟨hsup, Or.inl hrun⟩⟩

theorem startInstance_current {projects : ProjectMap} {s : Scheduler}
    (h : RecordsAgree projects s.engine) (project : Project) (serviceDir : String)
    (outcome : SpawnOutcome) :
    RecordsAgree projects (Scheduler.startInstance project serviceDir outcome s).1.engine ∧
      AllCurrent projects (Scheduler.startInstance project serviceDir outcome s).2 := by
  rcases Scheduler.startInstance_cases project serviceDir outcome s with
    ⟨ho, -⟩ | ⟨-, -, ⟨-, ho⟩ | ⟨-, ho⟩⟩
  · rw [ho]
    exact ⟨h, AllCurrent.nil⟩
  · rw [ho]
    exact ⟨h, by simp [AllCurrent, ScheduleEvent.actsOn]⟩
  · obtain ⟨hrec, hall⟩ := onInstanceFinished_current h project.id (-1) .crashExit
    rw [ho]
    refine ⟨hrec, ?_⟩
    simpa [AllCurrent, ScheduleEvent.actsOn, Scheduler.endInstance, Scheduler.notifyFinished]
      using hall

theorem callStart_current {projects : ProjectMap} {s : Scheduler}
    (h : RecordsAgree projects s.engine) (caller : StartCaller) {project : Project}
    (hagree : AgreesWith projects project) (serviceDir : String) (outcome : SpawnOutcome) :
    RecordsAgree projects (Scheduler.callStart caller project serviceDir outcome s).1.engine ∧
      AllCurrent projects (Scheduler.callStart caller project serviceDir outcome s).2 := by
  obtain ⟨hrec, hall⟩ := startInstance_current h project serviceDir outcome
  refine ⟨hrec, AllCurrent.append (h := [_]) ?_ hall⟩
  intro e he q hq
  rw [List.mem_singleton.mp he] at hq
  obtain rfl := Option.some.inj hq
  exact hagree

theorem scheduleTriggered_current (projects : ProjectMap) (projectId type : String) :
    AllCurrent projects [.scheduleTriggered projectId type] := by
  simp [AllCurrent, ScheduleEvent.actsOn]

theorem startDaemon_current {projects : ProjectMap} {s : Scheduler}
    (h : RecordsAgree projects s.engine) {project : Project}
    (hagree : s.DaemonMayStart project.id → AgreesWith projects project)
    (serviceDir : String) (outcome : SpawnOutcome) :
    RecordsAgree projects (Scheduler.startDaemon project serviceDir outcome s).1.engine ∧
      AllCurrent projects (Scheduler.startDaemon project serviceDir outcome s).2 := by
  by_cases hm : s.DaemonMayStart project.id
  · obtain ⟨hrec, hall⟩ := callStart_current h .daemon (hagree hm) serviceDir outcome
    rw [Scheduler.startDaemon_of_mayStart hm]
    exact ⟨hrec, (scheduleTriggered_current projects project.id "daemon").append hall⟩
  · rw [Scheduler.startDaemon_of_not_mayStart hm]
    exact ⟨h, AllCurrent.nil⟩

/-- Launching a record that the engine holds and that agrees. -/
theorem launch_current {projects : ProjectMap} {s : Scheduler}
    (h : RecordsAgree projects s.engine) {project : Project}
    (hheld : s.engine.projects.find? project.id = some project)
    (hagree : AgreesWith projects project) (outcome : SpawnOutcome) :
    RecordsAgree projects (Scheduler.launch project outcome s).1.engine ∧
      AllCurrent projects (Scheduler.launch project outcome s).2 := by
  unfold Scheduler.launch
  split
  · exact ⟨h, AllCurrent.nil⟩
  · split
    · exact ⟨h, AllCurrent.nil⟩
    · refine ⟨?_, AllCurrent.nil⟩
      intro id q hq hsch
      by_cases hid : id = project.id
      · subst hid
        obtain rfl := Option.some.inj (hheld.symm.trans hq)
        exact hagree
      · refine h id q hq ?_
        revert hsch
        refine scheduled_of_flags (fun h => h) rfl (fun ht => ?_) (fun h => h)
          fun r hr _ => Or.inl hr
        simpa [Scheduler.onEngine, ScheduleEngine.startFixedRate, SortedMap.contains_insert,
          hid] using ht
    · exact startDaemon_current h (fun _ => hagree) _ outcome

/-- Restarts armed before a scheduling restart find an enabled and valid record, or
none, in the new map. -/
def RestartsEligible (e : ScheduleEngine) (projects : ProjectMap) : Prop :=
  e.shuttingDown = true ∨ ∀ r ∈ e.restarts, ∀ p, projects.find? r.projectId = some p →
    p.enabled = true ∧ p.valid = true

/-- **A scheduling restart** brings the engine's records up to date, whatever they were. -/
theorem startAll_current {projects : ProjectMap} {s : Scheduler}
    (helig : RestartsEligible s.engine projects) (services : ServiceMap)
    (spawn : String → SpawnOutcome) :
    RecordsAgree projects (Scheduler.startAll projects services spawn s).1.engine ∧
      AllCurrent projects (Scheduler.startAll projects services spawn s).2 := by
  have hload : RecordsAgree projects (s.engine.load projects services) := by
    rintro id q hq ⟨hsd, q', hq', hcase⟩
    obtain rfl := Option.some.inj (hq.symm.trans hq')
    have hqid : projects.find? q.id = some q := by
      rw [ProjectMap.id_of_find? hq]
      exact hq
    rcases hcase with ⟨ht, -⟩ | ⟨-, hrun | ⟨r, hmem, hrid⟩⟩
    · simp [ScheduleEngine.load, ScheduleEngine.stopAll] at ht
    · exact agreesWith_self hqid hrun.1 hrun.2.1
    · rcases helig with hsd' | helig
      · exact absurd (hsd'.symm.trans hsd) (by simp)
      · obtain ⟨hen, hv⟩ := helig r hmem q (hrid ▸ hq)
        exact agreesWith_self hqid hen hv
  have hloop : Action.Sat
      (fun h s => s.engine.projects = projects ∧ RecordsAgree projects s.engine ∧
        AllCurrent projects h)
      (Action.forEach projects.values fun p => Scheduler.startEntry p (spawn p.id))
      (fun h s => s.engine.projects = projects ∧ RecordsAgree projects s.engine ∧
        AllCurrent projects h) := by
    refine Action.Sat.forEach fun p hp h s ⟨hproj, hrec, hall⟩ => ?_
    have hp' := ProjectMap.mem_values.mp hp
    refine ⟨?_, ?_⟩
    · rw [(Scheduler.startEntry_projects p (spawn p.id) s).1, hproj]
    · unfold Scheduler.startEntry
      split_ifs with hbad
      · exact ⟨hrec, hall.append AllCurrent.nil⟩
      · simp only [Bool.or_eq_true, Bool.not_eq_true', not_or, Bool.not_eq_false] at hbad
        obtain ⟨hrec', hall'⟩ := launch_current hrec (hproj ▸ hp')
          (agreesWith_self hp' hbad.1 hbad.2) (spawn p.id)
        exact ⟨hrec', hall.append hall'⟩
  exact (hloop [] { s with engine := s.engine.load projects services }
    ⟨rfl, hload, AllCurrent.nil⟩).2

/-- Installing a record the server has just taken over. -/
theorem startProject_current {projects : ProjectMap} {s : Scheduler} {project : Project}
    (h : RecordsAgree projects s.engine) (hen : project.enabled = true)
    (hvalid : s.engine.shuttingDown = true ∨
      ∀ r ∈ s.engine.restarts, r.projectId = project.id → project.valid = true)
    (services : ServiceMap) (outcome : SpawnOutcome) :
    RecordsAgree (projects.insert project)
        (Scheduler.startProject project services outcome s).1.engine ∧
      AllCurrent (projects.insert project)
        (Scheduler.startProject project services outcome s).2 := by
  have hself : project.valid = true → AgreesWith (projects.insert project) project :=
    agreesWith_self (ProjectMap.find?_insert_self _ _) hen
  have hinst : RecordsAgree (projects.insert project)
      (s.engine.install project services) := by
    rintro id q hq ⟨hsd, q', hq', hcase⟩
    obtain rfl := Option.some.inj (hq.symm.trans hq')
    simp only [ScheduleEngine.install, ProjectMap.find?_insert] at hq
    split_ifs at hq with hid
    · obtain rfl := Option.some.inj hq
      rcases hcase with ⟨-, hrun⟩ | ⟨-, hrun | ⟨r, hmem, hrid⟩⟩
      · exact hself hrun.2.1
      · exact hself hrun.2.1
      · rcases hvalid with hsd' | hvalid
        · exact absurd (hsd'.symm.trans hsd) (by simp)
        · exact hself (hvalid r hmem (hrid.trans hid))
    · have hsch : Scheduled s.engine id := by
        refine ⟨hsd, q, hq, ?_⟩
        simpa [ScheduleEngine.install, SortedMap.contains_erase, hid] using hcase
      have hqid : q.id ≠ project.id := by
        rw [ProjectMap.id_of_find? hq]
        exact hid
      exact (h id q hq hsch).congr (by simp [ProjectMap.find?_insert, hqid])
  rw [Scheduler.startProject_eq]
  dsimp only
  split_ifs with hbad
  · exact ⟨hinst, AllCurrent.nil⟩
  · simp only [Bool.or_eq_true, Bool.not_eq_true', not_or, Bool.not_eq_false] at hbad
    exact launch_current (s := { s with engine := s.engine.install project services }) hinst
      (ProjectMap.find?_insert_self s.engine.projects project) (hself hbad.2) outcome

theorem fixedRateTick_current {projects : ProjectMap} {s : Scheduler}
    (h : RecordsAgree projects s.engine) (projectId : String) (outcome : SpawnOutcome) :
    RecordsAgree projects (Scheduler.fixedRateTick projectId outcome s).1.engine ∧
      AllCurrent projects (Scheduler.fixedRateTick projectId outcome s).2 := by
  rcases Scheduler.fixedRateTick_cases projectId outcome s with
    ho | ⟨timer, project, ht, hsd, hp, hrun, -, ho⟩
  · rw [ho]
    exact ⟨h, AllCurrent.nil⟩
  · have htc : s.engine.timers.contains projectId = true :=
      SortedMap.contains_eq_true.mpr ⟨timer, ht⟩
    have hagree := h projectId project hp ⟨hsd, project, hp, Or.inl ⟨htc, hrun⟩⟩
    obtain ⟨hrec, hall⟩ := callStart_current h .fixedRate hagree timer.serviceDir outcome
    rw [ho]
    exact ⟨hrec, (scheduleTriggered_current projects projectId "fixed_rate").append hall⟩

theorem restartFires_current {projects : ProjectMap} {s : Scheduler}
    (h : RecordsAgree projects s.engine) (timerId : Nat) (outcome : SpawnOutcome) :
    RecordsAgree projects (Scheduler.restartFires timerId outcome s).1.engine ∧
      AllCurrent projects (Scheduler.restartFires timerId outcome s).2 := by
  have hpop : RecordsAgree projects (s.popRestart timerId).engine :=
    h.mono rfl fun id => scheduled_of_flags (fun h => h) rfl (fun h => h) (fun h => h)
      fun r hr _ => Or.inl (List.mem_of_mem_filter hr)
  rcases Scheduler.restartFires_cases timerId outcome s with
    ⟨-, ho⟩ | ⟨r, hr, ⟨-, ho⟩ | ⟨project, hm, hp, ho⟩⟩
  · rw [ho]
    exact ⟨h, AllCurrent.nil⟩
  · rw [ho]
    exact ⟨hpop, AllCurrent.nil⟩
  · rw [ho]
    refine startDaemon_current hpop (fun _ => ?_) r.serviceDir outcome
    exact h r.projectId project hp
      ⟨hm.1, project, hp, Or.inr ⟨hm.2.1, Or.inr ⟨r, List.mem_of_find?_eq_some hr, rfl⟩⟩⟩

/-! ## §3. The server's steps -/

/-- The event, if it acts on a record, finds it in the server's map. -/
def ServerEvent.Current : ServerEvent → Prop
  | .engine e projects => ∀ q, e.actsOn = some q → AgreesWith projects q
  | _ => True

instance (e : ServerEvent) : Decidable e.Current :=
  match e with
  | .engine e projects =>
      match he : e.actsOn with
      | none => isTrue (by simp [ServerEvent.Current, he])
      | some q => decidable_of_iff (AgreesWith projects q) (by simp [ServerEvent.Current, he])
  | .schedulingRestarted | .stopping .. | .responded .. | .rescanned .. | .serviceResult .. => isTrue trivial

/-- The invariant with everything that happened so far. -/
def RecordsCurrent (h : List ServerEvent) (s : ServerManager) : Prop :=
  RecordsAgree s.projects s.scheduler.engine ∧ ∀ e ∈ h, e.Current

namespace ServerManager

theorem onScheduler_current {P : List ServerEvent → ServerManager → Prop}
    {a : Action Scheduler ScheduleEvent} (hP : ∀ h s, P h s → ∀ e ∈ h, e.Current)
    (ha : ∀ h s, P h s → RecordsAgree s.projects (a s.scheduler).1.engine ∧
      AllCurrent s.projects (a s.scheduler).2) :
    Action.Sat P (onScheduler a) RecordsCurrent := by
  intro h s hs
  obtain ⟨hrec, hall⟩ := ha h s hs
  refine ⟨hrec, fun e he => ?_⟩
  rcases List.mem_append.mp he with he | he
  · exact hP h s hs e he
  · obtain ⟨ev, hev, rfl⟩ := List.mem_map.mp he
    exact hall ev hev

/-- An event that is not the engine's. -/
theorem emit_current {e : ServerManager → ServerEvent} (hcur : ∀ s, (e s).Current) :
    Action.Sat RecordsCurrent (Action.emit e) RecordsCurrent := by
  refine Action.Sat.emit fun h s hs => ⟨hs.1, fun e' he => ?_⟩
  rcases List.mem_append.mp he with he | he
  · exact hs.2 e' he
  · rw [List.mem_singleton.mp he]
    exact hcur s

theorem respond_current (verb : Verb) (id : String) (response : ServerManager → Response) :
    Action.Sat RecordsCurrent (respond verb id response) RecordsCurrent :=
  emit_current fun _ => trivial

/-- A scheduling restart needs only eligible restarts. -/
theorem startScheduling_current (spawn : String → SpawnOutcome) :
    Action.Sat
      (fun h s => RestartsEligible s.scheduler.engine s.projects ∧ ∀ e ∈ h, e.Current)
      (startScheduling spawn) RecordsCurrent := by
  refine Action.Sat.seq (Action.Sat.emit fun h s hs => ?_) (Action.Sat.bind fun s₀ =>
    onScheduler_current (P := fun h s => s = s₀ ∧
      RestartsEligible s.scheduler.engine s.projects ∧ ∀ e ∈ h, e.Current)
      (fun h s hs => hs.2.2) fun h s ⟨heq, helig, _⟩ => ?_)
  · refine ⟨hs.1, fun e he => ?_⟩
    rcases List.mem_append.mp he with he | he
    · exact hs.2 e he
    · rw [List.mem_singleton.mp he]
      trivial
  · subst heq
    exact startAll_current helig s.services spawn

/-- Stopping schedules nothing. -/
theorem scheduled_stopProject {e : ScheduleEngine} {id projectId : String}
    (h : Scheduled (e.stopProject projectId) id) : id ≠ projectId ∧ Scheduled e id := by
  obtain ⟨hsd, q, hq, hcase⟩ := h
  by_cases hid : id = projectId
  · simp [ScheduleEngine.stopProject, SortedMap.contains_insert, SortedMap.contains_erase,
      hid] at hcase
  · refine ⟨hid, hsd, q, hq, ?_⟩
    simpa [ScheduleEngine.stopProject, SortedMap.contains_insert, SortedMap.contains_erase,
      hid] using hcase

theorem stopAndTerminate_current (projectId : String) :
    Action.Sat RecordsCurrent (stopAndTerminate projectId)
      (fun h s => RecordsCurrent h s ∧ ¬ Scheduled s.scheduler.engine projectId) := by
  refine Action.Sat.modify fun h s hs => ⟨⟨?_, hs.2⟩, fun hsch => ?_⟩
  · exact hs.1.mono rfl fun id hid => (scheduled_stopProject hid).2
  · exact (scheduled_stopProject hsch).1 rfl

/-- What a returning wait needs: eligible restarts for a scheduling restart, and
otherwise a project that is not scheduled any more. -/
def FinishKeepsRecords (op : PendingOp) (finished : Bool) (storage : Except String Unit)
    (s : ServerManager) : Prop :=
  (∀ m, restartsOnFinish op s.projects finished storage = some m →
    RestartsEligible s.scheduler.engine m) ∧
  (restartsOnFinish op s.projects finished storage = none →
    ¬ Scheduled s.scheduler.engine op.projectId)

/-- Take a record into the map and restart scheduling. -/
theorem insert_restart_current (project : Project) (spawn : String → SpawnOutcome)
    (verb : Verb) (id : String) (response : ServerManager → Response) :
    Action.Sat
      (fun h s => RestartsEligible s.scheduler.engine (s.projects.insert project) ∧
        ∀ e ∈ h, e.Current)
      (Action.seq (Action.modify fun s => { s with projects := s.projects.insert project })
        (Action.seq (startScheduling spawn) (respond verb id response)))
      RecordsCurrent :=
  Action.Sat.seq (Action.Sat.modify fun _ _ hs => hs)
    (Action.Sat.seq (startScheduling_current spawn) (respond_current verb id response))

theorem restart_current (spawn : String → SpawnOutcome) (verb : Verb) (id : String)
    (response : ServerManager → Response) :
    Action.Sat
      (fun h s => RestartsEligible s.scheduler.engine s.projects ∧ ∀ e ∈ h, e.Current)
      (Action.seq (startScheduling spawn) (respond verb id response)) RecordsCurrent :=
  Action.Sat.seq (startScheduling_current spawn) (respond_current verb id response)

theorem finishPending_current (op : PendingOp) (finished : Bool) (storage : Except String Unit)
    (spawn : String → SpawnOutcome) :
    Action.Sat (fun h s => RecordsCurrent h s ∧ FinishKeepsRecords op finished storage s)
      (finishPending op finished storage spawn) RecordsCurrent := by
  cases finished with
  | false =>
    cases op
    all_goals
      refine (restart_current spawn _ _ _).weaken (fun h s ⟨hs, hk⟩ => ⟨?_, hs.2⟩)
        fun _ _ hs => hs
      exact hk.1 _ rfl
  | true =>
    cases op with
    | update project =>
      refine (insert_restart_current project spawn _ _ _).weaken
        (fun h s ⟨hs, hk⟩ => ⟨hk.1 _ rfl, hs.2⟩) fun _ _ hs => hs
    | reload project =>
      refine (insert_restart_current project spawn _ _ _).weaken
        (fun h s ⟨hs, hk⟩ => ⟨hk.1 _ rfl, hs.2⟩) fun _ _ hs => hs
    | delete id =>
      cases storage with
      | error e =>
        refine (restart_current spawn _ _ _).weaken (fun h s ⟨hs, hk⟩ => ⟨?_, hs.2⟩)
          fun _ _ hs => hs
        exact hk.1 _ rfl
      | ok =>
        refine Action.Sat.seq (Action.Sat.modify fun h s ⟨hs, hk⟩ => ⟨?_, hs.2⟩)
          (respond_current _ _ _)
        refine hs.1.change fun id' hsch q hqid hag => hag.congr ?_
        have hne : q.id ≠ id := by
          rintro rfl
          exact hk.2 rfl (hqid ▸ hsch)
        simp [ProjectMap.find?_remove, PendingOp.projectId, hne]
    | disable updated _ =>
      refine Action.Sat.seq (Action.Sat.modify fun h s ⟨hs, hk⟩ => ⟨?_, hs.2⟩)
        (respond_current _ _ _)
      refine hs.1.change fun id' hsch q hqid hag => hag.congr ?_
      have hne : q.id ≠ updated.id := by
        intro hq
        exact hk.2 rfl (show Scheduled _ updated.id from hq ▸ hqid ▸ hsch)
      simp [ProjectMap.find?_insert, hne]

theorem stopProjectAndWait_current (op : PendingOp) (storage : Except String Unit)
    (spawn : String → SpawnOutcome) :
    Action.Sat
      (fun h s => RecordsCurrent h s ∧ (s.running op.projectId = 0 →
        ∀ m, restartsOnFinish op s.projects true storage = some m →
          RestartsEligible s.scheduler.engine m))
      (stopProjectAndWait op storage spawn) RecordsCurrent := by
  have hstop : Action.Sat
      (fun h s => RecordsCurrent h s ∧ (s.running op.projectId = 0 →
        ∀ m, restartsOnFinish op s.projects true storage = some m →
          RestartsEligible s.scheduler.engine m))
      (stopAndTerminate op.projectId)
      (fun h s => RecordsCurrent h s ∧ (s.running op.projectId = 0 →
        FinishKeepsRecords op true storage s)) := by
    intro h s ⟨hs, hk⟩
    obtain ⟨hrec, hno⟩ := stopAndTerminate_current op.projectId h s hs
    exact ⟨hrec, fun h0 => ⟨hk h0, fun _ => hno⟩⟩
  refine Action.Sat.seq hstop (Action.Sat.seq
    (Action.Sat.emit_frame (emit_current fun _ => trivial)) (Action.Sat.bind fun s₀ => ?_))
  by_cases h0 : s₀.running op.projectId = 0
  · simp only [h0, if_true]
    refine (finishPending_current op true storage spawn).weaken (fun h s ⟨heq, hs, hk⟩ => ?_)
      fun _ _ hs => hs
    subst heq
    exact ⟨hs, hk h0⟩
  · simp only [h0, if_false]
    exact Action.Sat.modify fun h s ⟨_, hs, _⟩ => hs

/-- Stopping the projects whose records have just been changed restores agreement. -/
theorem stopEach_current {projects : ProjectMap} {e : ScheduleEngine} (ps : List Project)
    (h : ∀ id q, e.projects.find? id = some q → Scheduled e id →
      (∃ p ∈ ps, p.id = id) ∨ AgreesWith projects q) :
    RecordsAgree projects (stopEach e ps) := by
  induction ps generalizing e with
  | nil =>
    intro id q hq hsch
    rcases h id q hq hsch with ⟨p, hp, -⟩ | hag
    · simp at hp
    · exact hag
  | cons p ps ih =>
    refine ih fun id q hq hsch => ?_
    obtain ⟨hne, hsch'⟩ := scheduled_stopProject hsch
    rcases h id q hq hsch' with ⟨p', hp', hid⟩ | hag
    · rcases List.mem_cons.mp hp' with rfl | hp'
      · exact absurd hid.symm hne
      · exact Or.inl ⟨p', hp', hid⟩
    · exact Or.inr hag

end ServerManager

/-! ## §4. Steps that keep the records current -/

/-- The step leaves no project scheduled on a record the server does not have:
* a scheduling restart finds armed restarts only for enabled and valid projects;
* enabling a project whose restart is armed makes it a valid one;
* a start request that resumes scheduling resumes a current record;
* a delete or disable request that waited returns to a project nothing has scheduled;
* a rescan that neither restarts scheduling nor stops projects invalidates no scheduled
  one. -/
def KeepsRecords (validate : ConfigValidator) (s : ServerManager) (op : ServerOp) : Prop :=
  (∀ m, op.restartsWith validate s = some m → RestartsEligible s.scheduler.engine m) ∧
  match op with
  | .setEnabled id body saved _ _ =>
      ∀ p, ServerManager.checkEnabled s id body saved = .ok p → p.enabled = true →
        s.scheduler.engine.shuttingDown = true ∨
          ∀ r ∈ s.scheduler.engine.restarts, r.projectId = p.id → p.valid = true
  | .start id _ =>
      ∀ p serviceDir, ServerManager.checkStart s id = .ok (.start p serviceDir) →
        s.scheduler.engine.shuttingDown = true ∨
          ∀ q, s.scheduler.engine.projects.find? id = some q →
            (q.RunsAs .daemon ∨ ∃ r ∈ s.scheduler.engine.restarts, r.projectId = id) →
            AgreesWith s.projects q
  | .resume storage _ =>
      ∀ op' rest, s.pending = op' :: rest →
        ServerManager.restartsOnFinish op' s.projects (s.running op'.projectId = 0) storage =
          none →
        ¬ Scheduled s.scheduler.engine op'.projectId
  | .rescanServices found true false false _ =>
      ∀ p, s.projects.find? p.id = some p → p.valid = true →
        (validateProject validate p found).valid = false →
        ¬ Scheduled s.scheduler.engine p.id
  | _ => True

namespace ServerManager

variable {validate : ConfigValidator}

theorem respond_currentStep {s : ServerManager} (hs : RecordsCurrent [] s) (verb : Verb)
    (id : String) (response : ServerManager → Response) :
    RecordsCurrent (respond verb id response s).2 (respond verb id response s).1 :=
  respond_current verb id response [] s hs

theorem create_current {s : ServerManager} (hs : RecordsCurrent [] s)
    {body : Parsed ProjectBody} {saved : Except String Unit} {spawn : String → SpawnOutcome}
    (hk : KeepsRecords validate s (.create body saved spawn)) :
    RecordsCurrent (create validate body saved spawn s).2
      (create validate body saved spawn s).1 := by
  unfold create
  cases hc : checkCreate validate s body saved with
  | error r => exact respond_currentStep hs _ _ _
  | ok project =>
    refine insert_restart_current project spawn .create project.id _ [] s ⟨?_, by simp⟩
    refine hk.1 _ ?_
    simp [ServerOp.restartsWith, hc, Except.toOption]

theorem update_current {s : ServerManager} (hs : RecordsCurrent [] s) {id : String}
    {body : Parsed ProjectBody} {saved storage : Except String Unit}
    {spawn : String → SpawnOutcome}
    (hk : KeepsRecords validate s (.update id body saved storage spawn)) :
    RecordsCurrent (update validate id body saved storage spawn s).2
      (update validate id body saved storage spawn s).1 := by
  unfold update
  cases hc : checkUpdate validate s id body saved with
  | error r => exact respond_currentStep hs _ _ _
  | ok project =>
    refine stopProjectAndWait_current (.update project) storage spawn [] s
      ⟨hs, fun h0 m hm => hk.1 m ?_⟩
    have h0' : s.running project.id = 0 := h0
    simpa [ServerOp.restartsWith, hc, h0'] using hm

theorem delete_current {s : ServerManager} (hs : RecordsCurrent [] s) {id : String}
    {storage : Except String Unit} {spawn : String → SpawnOutcome}
    (hk : KeepsRecords validate s (.delete id storage spawn)) :
    RecordsCurrent (delete id storage spawn s).2 (delete id storage spawn s).1 := by
  unfold delete
  split_ifs with hno hfl
  · exact respond_currentStep hs _ _ _
  · exact respond_currentStep hs _ _ _
  · refine stopProjectAndWait_current (.delete id) storage spawn [] s
      ⟨hs, fun h0 m hm => hk.1 m ?_⟩
    have h0' : s.running id = 0 := h0
    simp only [Bool.not_eq_true', Bool.not_eq_false, Bool.not_eq_true] at hno hfl
    simpa [ServerOp.restartsWith, hno, hfl, h0'] using hm

theorem reload_current {s : ServerManager} (hs : RecordsCurrent [] s) {id : String}
    {loaded : Except String ProjectDraft} {spawn : String → SpawnOutcome}
    (hk : KeepsRecords validate s (.reload id loaded spawn)) :
    RecordsCurrent (reload validate id loaded spawn s).2
      (reload validate id loaded spawn s).1 := by
  unfold reload
  cases hc : checkReload validate s id loaded with
  | error r => exact respond_currentStep hs _ _ _
  | ok project =>
    refine stopProjectAndWait_current (.reload project) (.ok ()) spawn [] s
      ⟨hs, fun h0 m hm => hk.1 m ?_⟩
    have h0' : s.running project.id = 0 := h0
    simpa [ServerOp.restartsWith, hc, h0'] using hm

theorem setEnabled_current {s : ServerManager} (hs : RecordsCurrent [] s) {id : String}
    {body : Parsed (Option Bool)} {saved storage : Except String Unit}
    {spawn : String → SpawnOutcome}
    (hk : KeepsRecords validate s (.setEnabled id body saved storage spawn)) :
    RecordsCurrent (setEnabled id body saved storage spawn s).2
      (setEnabled id body saved storage spawn s).1 := by
  unfold setEnabled
  cases hc : checkEnabled s id body saved with
  | error r => exact respond_currentStep hs _ _ _
  | ok updated =>
    dsimp only
    split_ifs with hen
    · have hprobe := startProject_current hs.1 hen (hk.2 updated hc hen) s.services (spawn id)
      refine (Action.Sat.seq (Action.Sat.modify
        (Q := fun h s' => s' = { s with projects := s.projects.insert updated } ∧
          ∀ e ∈ h, e.Current) fun h s' hs' => ?_)
        (Action.Sat.seq (onScheduler_current (fun _ _ hs' => hs'.2) fun h s' hs' => ?_)
          (respond_current .enabled id _))
        (P := fun h s' => s' = s ∧ ∀ e ∈ h, e.Current)) [] s ⟨rfl, by simp⟩
      · exact ⟨by rw [hs'.1], hs'.2⟩
      · rw [hs'.1]
        exact hprobe
    · refine stopProjectAndWait_current (.disable updated _) storage spawn [] s
        ⟨hs, fun _ m hm => ?_⟩
      simp [restartsOnFinish] at hm

theorem start_current {s : ServerManager} (hs : RecordsCurrent [] s) {id : String}
    {outcome : SpawnOutcome} (hk : KeepsRecords validate s (.start id outcome)) :
    RecordsCurrent (start id outcome s).2 (start id outcome s).1 := by
  unfold start
  cases hc : checkStart s id with
  | error r => exact respond_currentStep hs _ _ _
  | ok check =>
    cases check with
    | noop => exact respond_currentStep hs _ _ _
    | start project serviceDir =>
      have hresumed : RecordsAgree s.projects (s.scheduler.engine.resumeProject id) := by
        rintro id' q hq ⟨hsd, q', hq', hcase⟩
        obtain rfl := Option.some.inj (hq.symm.trans hq')
        by_cases hid : id' = id
        · subst hid
          rcases hcase with ⟨ht, hrun⟩ | ⟨-, hcase⟩
          · exact hs.1 id' q hq ⟨hsd, q, hq, Or.inl ⟨ht, hrun⟩⟩
          · rcases hk.2 project serviceDir hc with hsd' | hag
            · exact absurd (hsd'.symm.trans hsd) (by simp)
            · exact hag q hq hcase
        · refine hs.1 id' q hq ⟨hsd, q, hq, ?_⟩
          simpa [ScheduleEngine.resumeProject, SortedMap.contains_erase, hid] using hcase
      refine (Action.Sat.seq
        (Action.Sat.modify (Q := RecordsCurrent) fun h s' hs' => ?_)
        (Action.Sat.seq (onScheduler_current (fun _ _ hs' => hs'.2) fun h s' hs' => ?_)
          (respond_current .start id _))
        (P := fun h s' => s' = s ∧ ∀ e ∈ h, e.Current)) [] s ⟨rfl, by simp⟩
      · rw [hs'.1]
        exact ⟨hresumed, hs'.2⟩
      · exact startInstance_current hs'.1 project serviceDir outcome

theorem stop_current {s : ServerManager} (hs : RecordsCurrent [] s) (id : String) :
    RecordsCurrent (stop id s).2 (stop id s).1 := by
  unfold stop
  split_ifs
  · exact respond_currentStep hs _ _ _
  · exact respond_currentStep hs _ _ _
  · refine (Action.Sat.seq (stopAndTerminate_current id)
      ((respond_current .stop id _).weaken (fun h s hs => hs.1) fun _ _ hs => hs)) [] s hs

theorem resume_current {s : ServerManager} (hs : RecordsCurrent [] s)
    {storage : Except String Unit} {spawn : String → SpawnOutcome}
    (hk : KeepsRecords validate s (.resume storage spawn)) :
    RecordsCurrent (resume storage spawn s).2 (resume storage spawn s).1 := by
  unfold resume
  cases hp : s.pending with
  | nil => exact hs
  | cons op rest =>
    refine finishPending_current op _ storage spawn [] { s with pending := rest }
      ⟨hs, fun m hm => hk.1 m ?_, fun hnone => hk.2 op rest hp hnone⟩
    simpa [ServerOp.restartsWith, hp] using hm

/-- A record that was valid is turned invalid, or it still agrees. -/
theorem agreesWith_revalidated (found : ServiceMap) {projects : ProjectMap} {q : Project}
    (h : AgreesWith projects q) :
    AgreesWith (revalidated validate found projects) q ∨
      ∃ p, projects.find? q.id = some p ∧ p.valid = true ∧
        (validateProject validate p found).valid = false := by
  obtain ⟨p, hp, hen, hv, hsvc, hsched⟩ := h
  cases hval : (validateProject validate p found).valid with
  | false => exact Or.inr ⟨p, hp, hv, hval⟩
  | true =>
    left
    refine ⟨validateProject validate p found, ?_, ?_, hval, ?_, ?_⟩
    · simp [revalidated, hp]
    · simpa using hen
    · simpa using hsvc
    · simpa using hsched

theorem rescannedState_current {s : ServerManager} (hs : RecordsAgree s.projects s.scheduler.engine)
    {found : ServiceMap} {revalidate stopInvalid : Bool}
    (hk : revalidate = true → stopInvalid = false →
      ∀ p, s.projects.find? p.id = some p → p.valid = true →
        (validateProject validate p found).valid = false →
        ¬ Scheduled s.scheduler.engine p.id) :
    RecordsAgree (rescannedState validate s found revalidate stopInvalid).projects
      (rescannedState validate s found revalidate stopInvalid).scheduler.engine := by
  refine stopEach_current _ fun id q hq hsch => ?_
  have hag := hs id q hq hsch
  have hid : q.id = id := ProjectMap.id_of_find? hq
  cases revalidate with
  | false => exact Or.inr hag
  | true =>
    rcases agreesWith_revalidated found hag with
      hag' | ⟨p, hp, hv, hinv⟩
    · exact Or.inr hag'
    · have hpid : p.id = q.id := ProjectMap.id_of_find? hp
      cases stopInvalid with
      | false =>
        refine absurd hsch ?_
        rw [← hid, ← hpid]
        exact hk rfl rfl p (hpid ▸ hp) hv hinv
      | true =>
        left
        refine ⟨validateProject validate p found, ?_, by simp [hpid, hid]⟩
        refine List.mem_filter.mpr ⟨ProjectMap.mem_values.mpr ?_, by simp [hinv]⟩
        simp [revalidated, hpid, hp]

theorem rescanServices_current {s : ServerManager} (hs : RecordsCurrent [] s)
    {found : ServiceMap} {revalidate restart stopInvalid : Bool}
    {spawn : String → SpawnOutcome}
    (hk : KeepsRecords validate s
      (.rescanServices found revalidate restart stopInvalid spawn)) :
    RecordsCurrent (rescanServices validate found revalidate restart stopInvalid spawn s).2
      (rescanServices validate found revalidate restart stopInvalid spawn s).1 := by
  have hemit : Action.Sat RecordsCurrent
      (Action.emit fun _ => ServerEvent.rescanned
        (rescanStats validate s found revalidate restart)) RecordsCurrent := by
    refine Action.Sat.emit fun h s' hs' => ⟨hs'.1, fun e he => ?_⟩
    rcases List.mem_append.mp he with he | he
    · exact hs'.2 e he
    · rw [List.mem_singleton.mp he]
      trivial
  rw [rescanServices_apply]
  cases restart with
  | true =>
    refine Action.Sat.seq (startScheduling_current spawn) hemit [] _ ⟨?_, by simp⟩
    have helig := hk.1 _ rfl
    rcases helig with hsd | helig
    · left
      exact (stopEach_records _ _).2.2.1.trans hsd
    · right
      intro r hr
      refine helig r ?_
      rwa [show (rescannedState validate s found revalidate stopInvalid).scheduler.engine.restarts
        = s.scheduler.engine.restarts from (stopEach_records _ _).2.2.2] at hr
  | false =>
    refine Action.Sat.seq Action.Sat.skip hemit [] _ ⟨rescannedState_current hs.1 ?_, by simp⟩
    rintro rfl rfl
    exact hk.2

theorem deleteService_current {s : ServerManager} (hs : RecordsCurrent [] s)
    (serviceId : String) (force removed : Bool) :
    RecordsCurrent (deleteService serviceId force removed s).2
      (deleteService serviceId force removed s).1 := by
  rcases deleteService_cases serviceId force removed s with ⟨result, ho⟩ | ⟨services, result, -, ho⟩
  · rw [ho]
    exact ⟨hs.1, by simp [ServerEvent.Current]⟩
  · rw [ho]
    refine ⟨stopEach_current _ fun id q hq hsch => ?_, by simp [ServerEvent.Current]⟩
    obtain ⟨p, hp, hrest⟩ := hs.1 id q hq hsch
    have hid : q.id = id := ProjectMap.id_of_find? hq
    have hpid : p.id = q.id := ProjectMap.id_of_find? hp
    by_cases hsvc : p.serviceId = serviceId
    · left
      refine ⟨p, List.mem_filter.mpr ⟨ProjectMap.mem_values.mpr ?_, by simpa using hsvc⟩,
        hpid.trans hid⟩
      rwa [hpid]
    · right
      refine ⟨p, ?_, hrest⟩
      simp [hp, orphan, hsvc]

theorem createService_current {s : ServerManager} (hs : RecordsCurrent [] s)
    (request : ServiceCreateRequest) (loaded : Except String ServiceInfo) :
    RecordsCurrent (createService request loaded s).2 (createService request loaded s).1 := by
  obtain ⟨services, result, ho⟩ := createService_cases request loaded s
  rw [ho]
  exact ⟨hs.1, by simp [ServerEvent.Current]⟩

theorem reloadService_current {s : ServerManager} (hs : RecordsCurrent [] s)
    (serviceId : String) (loaded : Except String ServiceInfo) :
    RecordsCurrent (reloadService serviceId loaded s).2 (reloadService serviceId loaded s).1 := by
  obtain ⟨services, result, ho, -⟩ := reloadService_cases serviceId loaded s
  rw [ho]
  exact ⟨hs.1, by simp [ServerEvent.Current]⟩

theorem onScheduler_currentStep {s : ServerManager} {a : Action Scheduler ScheduleEvent}
    (ha : RecordsAgree s.projects (a s.scheduler).1.engine ∧ AllCurrent s.projects (a s.scheduler).2) :
    RecordsCurrent (onScheduler a s).2 (onScheduler a s).1 := by
  refine ⟨ha.1, fun e he => ?_⟩
  obtain ⟨ev, hev, rfl⟩ := List.mem_map.mp he
  exact ha.2 ev hev

end ServerManager

/-- **The step lemma.** -/
theorem recordsCurrent_step {validate : ConfigValidator} {s : ServerManager} {op : ServerOp}
    (hs : RecordsAgree s.projects s.scheduler.engine) (hk : KeepsRecords validate s op) :
    RecordsCurrent (op.action validate s).2 (op.action validate s).1 := by
  have hs' : RecordsCurrent [] s := ⟨hs, by simp⟩
  cases op with
  | create body saved spawn => exact ServerManager.create_current hs' hk
  | update id body saved storage spawn => exact ServerManager.update_current hs' hk
  | delete id storage spawn => exact ServerManager.delete_current hs' hk
  | reload id loaded spawn => exact ServerManager.reload_current hs' hk
  | setEnabled id body saved storage spawn => exact ServerManager.setEnabled_current hs' hk
  | start id outcome => exact ServerManager.start_current hs' hk
  | stop id => exact ServerManager.stop_current hs' id
  | resume storage spawn => exact ServerManager.resume_current hs' hk
  | rescanServices found revalidate restart stopInvalid spawn =>
    exact ServerManager.rescanServices_current hs' hk
  | createService request loaded => exact ServerManager.createService_current hs' request loaded
  | deleteService id force removed => exact ServerManager.deleteService_current hs' id force removed
  | reloadService id loaded => exact ServerManager.reloadService_current hs' id loaded
  | fixedRateTick projectId outcome =>
    exact ServerManager.onScheduler_currentStep (fixedRateTick_current hs projectId outcome)
  | restartFires timerId outcome =>
    exact ServerManager.onScheduler_currentStep (restartFires_current hs timerId outcome)
  | processFinished instanceId exitCode exitStatus =>
    refine ServerManager.onScheduler_currentStep ?_
    unfold Scheduler.processFinished
    split
    · exact ⟨hs, AllCurrent.nil⟩
    · obtain ⟨hrec, hall⟩ := onInstanceFinished_current hs ‹Instance›.projectId exitCode exitStatus
      refine ⟨hrec, ?_⟩
      simpa [AllCurrent, ScheduleEvent.actsOn, Scheduler.endInstance, Scheduler.notifyFinished]
        using hall
  | shutdown =>
    refine ⟨?_, by simp [ServerOp.action, ServerManager.shutdown, ServerManager.onEngine]⟩
    rintro id q - ⟨hsd, -⟩
    simp [ServerOp.action, ServerManager.shutdown, ServerManager.onEngine,
      ScheduleEngine.stopAll] at hsd

/-! ## §5. Runs -/

theorem booted_recordsAgree (services : ServiceMap) (projects : ProjectMap)
    (spawn : String → SpawnOutcome) :
    RecordsAgree (ServerManager.booted services projects spawn).state.projects
      (ServerManager.booted services projects spawn).state.scheduler.engine :=
  (ServerManager.startScheduling_current spawn []
    { services := services, projects := projects }
    ⟨Or.inr fun r hr => by simp at hr, by simp⟩).1

/-- **Current records.**  Along every run of the server whose steps leave no project
scheduled on a record it does not have, every start and every armed restart of the
engine is for a project that the server has, enabled and valid, with the same
service and schedule. -/
theorem engine_acts_on_current_records (validate : ConfigValidator) (services : ServiceMap)
    (projects : ProjectMap) (spawn : String → SpawnOutcome) {ops : List ServerOp}
    (hops : (serverMachine validate).EveryStep (fun c op => KeepsRecords validate c.state op)
      (ServerManager.booted services projects spawn) ops) :
    (serverMachine validate).EveryStep
      (fun c op => ∀ e ∈ ((serverMachine validate).step c.state op).2, e.Current)
      (ServerManager.booted services projects spawn) ops :=
  Machine.everyStep_of_invariant
    (fun c => RecordsAgree c.state.projects c.state.scheduler.engine)
    (fun _ _ hs hk => (recordsCurrent_step hs hk).1)
    (fun _ _ hs hk => (recordsCurrent_step hs hk).2)
    (booted_recordsAgree services projects spawn) hops

/-- A validator that accepts every config as it is. -/
def acceptAll : ConfigValidator := fun _ config => .ok config

/-- A server with the one daemon. -/
def echoServer : Machine.Config ServerManager ServerEvent :=
  ServerManager.booted echoServices (ProjectMap.empty.insert echoDaemon) fun _ => .running

/-- A crash, its restart and a stop. -/
theorem echoServer_acts_on_current_records :
    (serverMachine acceptAll).EveryStep
      (fun c op => ∀ e ∈ ((serverMachine acceptAll).step c.state op).2, e.Current)
      echoServer [.processFinished 0 1 .normalExit, .restartFires 0 .running, .stop "p"] := by
  refine engine_acts_on_current_records acceptAll echoServices
    (ProjectMap.empty.insert echoDaemon) (fun _ => .running) ⟨?_, ?_, ?_, trivial⟩
  all_goals exact ⟨fun m hm => by simp [ServerOp.restartsWith] at hm, trivial⟩

/-- The daemon is disabled; its instance is killed and the request returns; it is
started by hand and crashes; the restart fires. -/
def disabledThenStarted : List ServerOp :=
  [.setEnabled "p" (.ok (some false)) (.ok ()) (.ok ()) fun _ => .running,
    .processFinished 0 9 .crashExit,
    .resume (.ok ()) fun _ => .running,
    .start "p" .running,
    .processFinished 1 1 .normalExit,
    .restartFires 0 .running]

theorem disabled_project_started :
    ¬ (serverMachine acceptAll).EveryStep
        (fun c op => ∀ e ∈ ((serverMachine acceptAll).step c.state op).2, e.Current)
        echoServer disabledThenStarted := by
  rintro ⟨-, -, -, -, -, h, -⟩
  revert h
  decide

end Stdiolink.Server
