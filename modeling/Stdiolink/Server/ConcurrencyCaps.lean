/-
  Stdiolink.Server.ConcurrencyCaps — how many instances of a project are live.

  Four places start instances, each behind a guard of its own, and a change of a project's
  schedule changes the bound.  The guards of the engine look at the engine's copy of the record,
  so the copies must have the same schedule; and a schedule is replaced only while no instance of
  the project is live.

  Main results:
    * `capInvariant_step`  — every step keeps the bounds; a created project must find its bound kept;
    * `caps_hold`          — along every run without create requests no project exceeds its bound.
-/
import Stdiolink.Server.EngineRecords
import Stdiolink.Server.ProjectJson

namespace Stdiolink.Server

open Stdiolink.Lib
open Stdiolink.Protocol

/-! ## §1. Live instances and bounds -/

/-- The number of instances that the schedule names: one, or `maxConcurrent` at a fixed rate. -/
def Schedule.limit (schedule : Schedule) : Int :=
  match schedule.type with
  | .manual => 1
  | .fixedRate => schedule.maxConcurrent
  | .daemon => 1

/-- How many instances the schedule allows: none, where a rejected schedule has a negative limit. -/
def Schedule.cap (schedule : Schedule) : Int := max schedule.limit 0

/-- **The property.**  No project of the server has more live instances than its schedule allows. -/
def CapsHold (s : ServerManager) : Prop :=
  ∀ id p, s.projects.find? id = some p →
    (s.scheduler.manager.liveCount id : Int) ≤ p.schedule.cap

namespace Schedule

theorem cap_nonneg (schedule : Schedule) : 0 ≤ schedule.cap := le_max_right _ _

variable {schedule : Schedule}

theorem cap_daemon (h : schedule.type = .daemon) : schedule.cap = 1 := by
  rw [cap, limit, h]
  show max (1 : Int) 0 = 1
  decide

theorem cap_manual (h : schedule.type = .manual) : schedule.cap = 1 := by
  rw [cap, limit, h]
  show max (1 : Int) 0 = 1
  decide

theorem cap_fixedRate (h : schedule.type = .fixedRate) :
    schedule.cap = max schedule.maxConcurrent 0 := by
  rw [cap, limit, h]

/-- A schedule that was read allows an instance. -/
theorem cap_pos (h : Project.ScheduleRead schedule) : 1 ≤ schedule.cap := by
  obtain rfl | ⟨obj, hread⟩ := h
  · decide
  · have hbounds := fromJson_accepted hread
    unfold boundsError at hbounds
    cases htype : schedule.type with
    | manual => exact (cap_manual htype).ge
    | daemon => exact (cap_daemon htype).ge
    | fixedRate =>
      rw [cap_fixedRate htype]
      rw [htype] at hbounds
      dsimp only at hbounds
      split_ifs at hbounds with hinterval hmax
      · exact absurd hbounds (by decide)
      · exact absurd hbounds (by decide)
      · exact le_max_of_le_left (by omega)

end Schedule

/-! ## §2. What the scheduler does -/

/-- No project has more live instances than its schedule allows, and one with a delayed restart
may have an instance. -/
structure Within (projects : ProjectMap) (s : Scheduler) : Prop where
  live : ∀ id p, projects.find? id = some p → (s.manager.liveCount id : Int) ≤ p.schedule.cap
  armed : ∀ r ∈ s.engine.restarts, ∀ p, projects.find? r.projectId = some p → 1 ≤ p.schedule.cap

/-- The engine's records have the schedules of these projects. -/
def SameSchedules (projects : ProjectMap) (e : ScheduleEngine) : Prop :=
  ∀ id p q, projects.find? id = some p → e.projects.find? id = some q → q.schedule = p.schedule

/-- **The invariant of the scheduler.** -/
structure Capped (projects : ProjectMap) (s : Scheduler) : Prop where
  within : Within projects s
  same : SameSchedules projects s.engine

/-- There is room for one more instance of the project. -/
def Room (projects : ProjectMap) (s : Scheduler) (id : String) : Prop :=
  ∀ p, projects.find? id = some p → (s.manager.liveCount id : Int) + 1 ≤ p.schedule.cap

namespace Scheduler

open ScheduleEngine (onInstanceFinished)

variable {projects : ProjectMap}

variable {s : Scheduler} {project : Project}

/-- The slot changes no record, and arms a restart only for a daemon. -/
theorem onInstanceFinished_armed (h : Capped projects s) (projectId : String) (exitCode : Int)
    (exitStatus : ExitStatus) :
    ∀ r ∈ (onInstanceFinished projectId exitCode exitStatus s.engine).1.restarts,
      ∀ p, projects.find? r.projectId = some p → 1 ≤ p.schedule.cap := by
  intro r hr p hp
  obtain hnone | ⟨q, -, -, hq, hdaemon, failures, -, hcases⟩ :=
    ScheduleEngine.onInstanceFinished_cases s.engine projectId exitCode exitStatus
  · rw [hnone] at hr
    exact h.within.armed r hr p hp
  · obtain hcount | hsuppressed | ⟨service, -, harm⟩ := hcases
    · rw [hcount] at hr
      exact h.within.armed r hr p hp
    · rw [hsuppressed] at hr
      exact h.within.armed r hr p hp
    · rw [harm] at hr
      obtain hr | hr := List.mem_append.mp hr
      · exact h.within.armed r hr p hp
      · -- the new restart is for the engine's record, a daemon
        obtain rfl := List.mem_singleton.mp hr
        have hid : q.id = projectId := ProjectMap.id_of_find? hq
        have hschedule := h.same projectId p q (hid ▸ hp) hq
        rw [← hschedule, Schedule.cap_daemon hdaemon.2.2]

/-- An instance that ends makes room. -/
theorem endInstance_capped (h : Capped projects s) (instanceId : Nat) (projectId : String)
    (exitCode : Int) (exitStatus : ExitStatus) :
    Capped projects (endInstance instanceId projectId exitCode exitStatus s).1 := by
  have hrecords := endInstance_sameRecords instanceId projectId exitCode exitStatus s
  refine ⟨⟨?_, ?_⟩, ?_⟩
  · intro id p hp
    have hle := s.manager.liveCount_remove_le instanceId id
    have hlive := h.within.live id p hp
    show ((s.manager.remove instanceId).liveCount id : Int) ≤ _
    omega
  · exact onInstanceFinished_armed h projectId exitCode exitStatus
  · intro id p q hp hq
    rw [hrecords.projects] at hq
    exact h.same id p q hp hq

/-- **A start where there is room.** -/
theorem startInstance_capped (h : Capped projects s) (hroom : Room projects s project.id)
    (serviceDir : String) (outcome : SpawnOutcome) :
    Capped projects (startInstance project serviceDir outcome s).1 := by
  obtain ⟨hnone, -⟩ | ⟨-, -, ⟨-, hrun⟩ | ⟨-, hfail⟩⟩ :=
    startInstance_cases project serviceDir outcome s
  · rw [hnone]
    exact h
  · rw [hrun]
    refine ⟨⟨?_, h.within.armed⟩, h.same⟩
    intro id p hp
    show ((s.manager.add project serviceDir).liveCount id : Int) ≤ _
    rw [InstanceManager.liveCount_add]
    have hlive := h.within.live id p hp
    by_cases hid : project.id = id
    · subst hid
      have hone := hroom p hp
      rw [if_pos rfl]
      push_cast
      exact hone
    · rw [if_neg hid]
      exact hlive
  · -- the instance fails inside the call and is gone again
    rw [hfail]
    have hrecords := startInstance_sameRecords project serviceDir outcome s
    rw [hfail] at hrecords
    refine ⟨⟨?_, ?_⟩, ?_⟩
    · intro id p hp
      have hle := s.manager.liveCount_add_remove project serviceDir id
      have hlive := h.within.live id p hp
      show (((s.manager.add project serviceDir).remove s.manager.nextId).liveCount id : Int) ≤ _
      omega
    · exact onInstanceFinished_armed h project.id (-1) .crashExit
    · intro id p q hp hq
      rw [hrecords.projects] at hq
      exact h.same id p q hp hq

/-- No live instance leaves room for one. -/
theorem room_of_idle {id : String} (hidle : s.manager.instanceCount id = 0)
    (hcap : ∀ p, projects.find? id = some p → 1 ≤ p.schedule.cap) : Room projects s id := by
  intro p hp
  have hle := s.manager.liveCount_le_instanceCount id
  have hone := hcap p hp
  omega

theorem startDaemon_capped (h : Capped projects s)
    (hcap : ∀ p, projects.find? project.id = some p → 1 ≤ p.schedule.cap) (serviceDir : String)
    (outcome : SpawnOutcome) : Capped projects (startDaemon project serviceDir outcome s).1 := by
  by_cases hmay : s.DaemonMayStart project.id
  · rw [startDaemon_of_mayStart hmay]
    exact startInstance_capped h (room_of_idle hmay.2.2 hcap) serviceDir outcome
  · rw [startDaemon_of_not_mayStart hmay]
    exact h

/-- A project is launched on the schedule that the bound comes from. -/
theorem launch_capped (h : Capped projects s) (hproject : projects.find? project.id = some project)
    (outcome : SpawnOutcome) :
    Capped projects (launch project outcome s).1 := by
  unfold launch
  split
  · exact h
  · split
    · exact h
    · exact ⟨⟨h.within.live, h.within.armed⟩, h.same⟩
    · rename_i htype
      apply startDaemon_capped h
      intro p hp
      obtain rfl := Option.some.inj (hproject.symm.trans hp)
      rw [Schedule.cap_daemon htype]

/-- A scheduling restart takes the records over, and so their schedules. -/
theorem startAll_capped (h : Within projects s) (services : ServiceMap)
    (spawn : String → SpawnOutcome) : Capped projects (startAll projects services spawn s).1 := by
  have hload : Capped projects { s with engine := s.engine.load projects services } := by
    refine ⟨⟨h.live, h.armed⟩, ?_⟩
    intro id p q hp hq
    rw [Option.some.inj (hq.symm.trans hp)]
  have hloop : Action.Sat (fun _ s => Capped projects s)
      (Action.forEach projects.values fun p => startEntry p (spawn p.id))
      (fun _ s => Capped projects s) := by
    apply Action.Sat.forEach
    intro p hp _ s hs
    show Capped projects (startEntry p (spawn p.id) s).1
    unfold startEntry
    split_ifs
    · exact hs
    · exact launch_capped hs (ProjectMap.mem_values.mp hp) (spawn p.id)
  exact hloop [] _ hload

/-- The engine takes the record over that the server has. -/
theorem startProject_capped (hwithin : Within projects s)
    (hsame : ∀ id p q, id ≠ project.id → projects.find? id = some p →
      s.engine.projects.find? id = some q → q.schedule = p.schedule)
    (hproject : projects.find? project.id = some project) (services : ServiceMap)
    (outcome : SpawnOutcome) :
    Capped projects (startProject project services outcome s).1 := by
  have hinstall : Capped projects { s with engine := s.engine.install project services } := by
    refine ⟨⟨hwithin.live, hwithin.armed⟩, ?_⟩
    intro id p q hp hq
    have hq' : (s.engine.projects.insert project).find? id = some q := hq
    rw [ProjectMap.find?_insert] at hq'
    by_cases hid : id = project.id
    · rw [if_pos hid] at hq'
      rw [hid] at hp
      rw [← Option.some.inj hq', Option.some.inj (hp.symm.trans hproject)]
    · rw [if_neg hid] at hq'
      exact hsame id p q hid hp hq'
  rw [startProject_eq]
  split_ifs
  · exact hinstall
  · exact launch_capped hinstall hproject outcome

theorem fixedRateTick_capped (h : Capped projects s) (projectId : String) (outcome : SpawnOutcome) :
    Capped projects (fixedRateTick projectId outcome s).1 := by
  obtain hnone | ⟨timer, q, -, -, hq, hrun, hcount, htick⟩ :=
    fixedRateTick_cases projectId outcome s
  · rw [hnone]
    exact h
  · rw [htick]
    have hid : q.id = projectId := ProjectMap.id_of_find? hq
    apply startInstance_capped h
    intro p hp
    have hschedule := h.same projectId p q (hid ▸ hp) hq
    have hcap : p.schedule.cap = max q.schedule.maxConcurrent 0 := by
      rw [← hschedule, Schedule.cap_fixedRate hrun.2.2]
    have hle := s.manager.liveCount_le_instanceCount projectId
    rw [hid, hcap]
    apply le_max_of_le_left
    omega

theorem restartFires_capped (h : Capped projects s) (timerId : Nat) (outcome : SpawnOutcome) :
    Capped projects (restartFires timerId outcome s).1 := by
  have hpop : Capped projects (s.popRestart timerId) := by
    refine ⟨⟨h.within.live, ?_⟩, h.same⟩
    intro r hr p hp
    exact h.within.armed r (List.mem_of_mem_filter hr) p hp
  obtain ⟨-, hnone⟩ | ⟨r, hr, ⟨-, hquiet⟩ | ⟨q, -, hq, hstart⟩⟩ :=
    restartFires_cases timerId outcome s
  · rw [hnone]
    exact h
  · rw [hquiet]
    exact hpop
  · rw [hstart]
    have hid : q.id = r.projectId := ProjectMap.id_of_find? hq
    apply startDaemon_capped hpop
    intro p hp
    rw [hid] at hp
    exact h.within.armed r (List.mem_of_find?_eq_some hr) p hp

theorem processFinished_capped (h : Capped projects s) (instanceId : Nat) (exitCode : Int)
    (exitStatus : ExitStatus) :
    Capped projects (processFinished instanceId exitCode exitStatus s).1 := by
  unfold processFinished
  split
  · exact h
  · exact endInstance_capped h instanceId _ exitCode exitStatus

end Scheduler

/-! ## §3. What the server does -/

/-- A waiting request that goes on leaves a bound that can be kept: a new schedule allows an
instance, and disabling changes no schedule. -/
def PendingOp.Settles (projects : ProjectMap) : PendingOp → Prop
  | .update project => 1 ≤ project.schedule.cap
  | .delete _ => True
  | .reload project => 1 ≤ project.schedule.cap
  | .disable updated _ => ∃ p, projects.find? updated.id = some p ∧ p.schedule = updated.schedule

variable {projects : ProjectMap}

/-- Only the record of its own project matters to a waiting request. -/
theorem PendingOp.Settles.congr {projects' : ProjectMap} {op : PendingOp} (h : op.Settles projects)
    (hfind : projects'.find? op.projectId = projects.find? op.projectId) :
    op.Settles projects' := by
  cases op with
  | update _ => exact h
  | delete _ => trivial
  | reload _ => exact h
  | disable updated _ =>
    obtain ⟨p, hp, hschedule⟩ := h
    exact ⟨p, hfind.trans hp, hschedule⟩

/-- **The invariant of the server.** -/
structure CapInvariant (s : ServerManager) : Prop where
  scheduler : Capped s.projects s.scheduler
  waiting : ∀ op ∈ s.pending, op.Settles s.projects
  distinct : (s.pending.map PendingOp.projectId).Nodup

/-- The drafts of the step were read from JSON. -/
def ServerOp.DraftsRead : ServerOp → Prop
  | .create body _ _ => ∀ b draft, body = .ok b → b.draft = .ok draft → draft.Read
  | .update _ body _ _ _ => ∀ b draft, body = .ok b → b.draft = .ok draft → draft.Read
  | .reload _ loaded _ => ∀ draft, loaded = .ok draft → draft.Read
  | _ => True

/-- A created project has no more live instances than it may have. -/
def CreatesWithin (validate : ConfigValidator) (s : ServerManager) : ServerOp → Prop
  | .create body saved _ =>
      ∀ p, ServerManager.checkCreate validate s body saved = .ok p →
        (s.scheduler.manager.liveCount p.id : Int) ≤ p.schedule.cap
  | _ => True

/-- The schedules stay when the records are changed by `f`. -/
theorem find?_mapProjects_schedule {projects : ProjectMap} {f : Project → Project}
    (hf : ∀ p, (f p).id = p.id) (hschedule : ∀ p, (f p).schedule = p.schedule) {id : String}
    {p : Project} (h : (projects.mapProjects f hf).find? id = some p) :
    ∃ q, projects.find? id = some q ∧ p.schedule = q.schedule := by
  rw [ProjectMap.find?_mapProjects, Option.map_eq_some_iff] at h
  obtain ⟨q, hq, rfl⟩ := h
  exact ⟨q, hq, hschedule q⟩

/-- Other records with the same schedules have the same bounds. -/
theorem Capped.change {projects' : ProjectMap} {s : Scheduler} (h : Capped projects s)
    (hchange : ∀ id p, projects'.find? id = some p →
      ∃ q, projects.find? id = some q ∧ p.schedule = q.schedule) : Capped projects' s := by
  refine ⟨⟨?_, ?_⟩, ?_⟩
  · intro id p hp
    obtain ⟨q, hq, hschedule⟩ := hchange id p hp
    rw [hschedule]
    exact h.within.live id q hq
  · intro r hr p hp
    obtain ⟨q, hq, hschedule⟩ := hchange r.projectId p hp
    rw [hschedule]
    exact h.within.armed r hr q hq
  · intro id p q hp hq
    obtain ⟨p', hp', hschedule⟩ := hchange id p hp
    rw [hschedule]
    exact h.same id p' q hp' hq

/-- Another record for an idle project, on a schedule that allows an instance. -/
theorem Capped.insert_within {s : Scheduler} (h : Capped projects s) {project : Project}
    (hlive : (s.manager.liveCount project.id : Int) ≤ project.schedule.cap)
    (hcap : 1 ≤ project.schedule.cap) : Within (projects.insert project) s := by
  refine ⟨?_, ?_⟩
  · intro id p hp
    rw [ProjectMap.find?_insert] at hp
    split_ifs at hp with hid
    · rw [hid, ← Option.some.inj hp]
      exact hlive
    · exact h.within.live id p hp
  · intro r hr p hp
    rw [ProjectMap.find?_insert] at hp
    split_ifs at hp with hid
    · rw [← Option.some.inj hp]
      exact hcap
    · exact h.within.armed r hr p hp

namespace ServerManager

variable {s : ServerManager} {body : Parsed ProjectBody} {saved : Except String Unit}
  {spawn : String → SpawnOutcome}

theorem live_of_idle {id : String} (h : s.running id = 0) {schedule : Schedule} :
    (s.scheduler.manager.liveCount id : Int) ≤ schedule.cap := by
  have hle := s.scheduler.manager.liveCount_le_instanceCount id
  have hnonneg := schedule.cap_nonneg
  have hidle : s.scheduler.manager.instanceCount id = 0 := h
  omega

/-- The requests that wait are for other projects. -/
def OthersWait (s : ServerManager) (id : String) : Prop :=
  ∀ op ∈ s.pending, op.projectId ≠ id

theorem othersWait_of_not_inFlight {id : String} (h : s.inFlight id = false) : OthersWait s id := by
  intro op hop heq
  have hflight : s.inFlight id = true := List.any_eq_true.mpr ⟨op, hop, by simpa using heq⟩
  rw [h] at hflight
  cases hflight

/-- Waiting requests do not notice another project's new record. -/
theorem settles_insert (h : CapInvariant s) {project : Project} (hothers : OthersWait s project.id) :

    ∀ op ∈ s.pending, op.Settles (s.projects.insert project) := by
  intro op hop
  apply (h.waiting op hop).congr
  rw [ProjectMap.find?_insert, if_neg (hothers op hop)]

/-- Scheduling is restarted. -/
theorem startScheduling_capInvariant (hwithin : Within s.projects s.scheduler)
    (hwaiting : ∀ op ∈ s.pending, op.Settles s.projects)
    (hdistinct : (s.pending.map PendingOp.projectId).Nodup) (spawn : String → SpawnOutcome) :
    CapInvariant (startScheduling spawn s).1 :=
  ⟨Scheduler.startAll_capped hwithin s.services spawn, hwaiting, hdistinct⟩

/-- **A waiting request goes on.** -/
theorem finishPending_capInvariant (h : CapInvariant s) {op : PendingOp}
    (hop : op.Settles s.projects) (hothers : OthersWait s op.projectId) {finished : Bool}
    (hfinished : finished = true → s.running op.projectId = 0) (storage : Except String Unit)
    (spawn : String → SpawnOutcome) :
    CapInvariant (finishPending op finished storage spawn s).1 := by
  have hrestart : CapInvariant (startScheduling spawn s).1 :=
    startScheduling_capInvariant h.scheduler.within h.waiting h.distinct spawn
  cases finished with
  | false => cases op <;> exact hrestart
  | true =>
    have hidle := hfinished rfl
    have hinsert : ∀ project : Project, project.id = op.projectId → 1 ≤ project.schedule.cap →
        CapInvariant (startScheduling spawn
          { s with projects := s.projects.insert project }).1 := by
      intro project hid hcap
      apply startScheduling_capInvariant
      · apply h.scheduler.insert_within _ hcap
        rw [hid]
        exact live_of_idle hidle
      · exact settles_insert h (hid ▸ hothers)
      · exact h.distinct
    cases op with
    | update project => exact hinsert project rfl hop
    | reload project => exact hinsert project rfl hop
    | delete id =>
      cases storage with
      | error e => exact hrestart
      | ok =>
        refine ⟨h.scheduler.change ?_, ?_, h.distinct⟩
        · intro id' p hp
          have hp' : (s.projects.remove id).find? id' = some p := hp
          rw [ProjectMap.find?_remove] at hp'
          split_ifs at hp' with hid
          exact ⟨p, hp', rfl⟩
        · intro op' hop'
          apply (h.waiting op' hop').congr
          exact (ProjectMap.find?_remove _ _ _).trans (if_neg (hothers op' hop'))
    | disable updated _ =>
      obtain ⟨p, hp, hschedule⟩ := hop
      refine ⟨h.scheduler.change ?_, ?_, h.distinct⟩
      · intro id q hq
        have hq' : (s.projects.insert updated).find? id = some q := hq
        rw [ProjectMap.find?_insert] at hq'
        split_ifs at hq' with hid
        · rw [hid, ← Option.some.inj hq']
          exact ⟨p, hp, hschedule.symm⟩
        · exact ⟨q, hq', rfl⟩
      · exact settles_insert h hothers

/-- The project is stopped, and the request goes on or waits. -/
theorem stopProjectAndWait_capInvariant (h : CapInvariant s) {op : PendingOp}
    (hop : op.Settles s.projects) (hothers : OthersWait s op.projectId)
    (storage : Except String Unit) (spawn : String → SpawnOutcome) :
    CapInvariant (stopProjectAndWait op storage spawn s).1 := by
  -- stopping changes no record and no armed restart
  have hstopped : CapInvariant (stopAndTerminate op.projectId s).1 :=
    ⟨⟨⟨h.scheduler.within.live, h.scheduler.within.armed⟩, h.scheduler.same⟩, h.waiting,
      h.distinct⟩
  unfold stopProjectAndWait
  simp only [Action.seq_apply, Action.emit_apply, Action.bind_apply]
  split_ifs with hidle
  · exact finishPending_capInvariant hstopped hop hothers (fun _ => hidle) storage spawn
  · refine ⟨hstopped.scheduler, ?_, ?_⟩
    · intro op' hop'
      obtain rfl | hop' := List.mem_cons.mp hop'
      · exact hop
      · exact hstopped.waiting op' hop'
    · apply List.nodup_cons.mpr
      refine ⟨?_, hstopped.distinct⟩
      intro hmem
      obtain ⟨op', hop', heq⟩ := List.mem_map.mp hmem
      exact hothers op' hop' heq

/-! ## §4. The requests -/

variable {validate : ConfigValidator} {s : ServerManager} {id : String} {project : Project}

/-- A start request that goes on has found room. -/
theorem checkStart_room {serviceDir : String}
    (h : checkStart s id = .ok (.start project serviceDir)) :
    s.projects.find? id = some project ∧ (s.running id : Int) + 1 ≤ project.schedule.cap := by
  obtain ⟨hflight, p, service, hp, hvalid, hservice, -⟩ := checkStart_ok h
  simp only [checkStart, hflight, hp, hvalid, hservice, Bool.false_eq_true, if_false,
    Bool.not_true] at h
  cases htype : p.schedule.type with
  | manual =>
    rw [htype] at h
    dsimp only at h
    split_ifs at h with hbusy
    obtain ⟨rfl, -⟩ := StartCheck.start.inj (Except.ok.inj h)
    have hcap := Schedule.cap_manual htype
    exact ⟨hp, by omega⟩
  | fixedRate =>
    rw [htype] at h
    dsimp only at h
    split_ifs at h with hfull
    obtain ⟨rfl, -⟩ := StartCheck.start.inj (Except.ok.inj h)
    rw [Schedule.cap_fixedRate htype]
    exact ⟨hp, le_max_of_le_left (by omega)⟩
  | daemon =>
    rw [htype] at h
    dsimp only at h
    split_ifs at h with hbusy
    · exact absurd (Except.ok.inj h) (by intro heq; cases heq)
    · obtain ⟨rfl, -⟩ := StartCheck.start.inj (Except.ok.inj h)
      have hcap := Schedule.cap_daemon htype
      exact ⟨hp, by omega⟩

/-- A created project: nobody waits for it, as it was not there. -/
theorem create_capInvariant (h : CapInvariant s)
    (hread : ServerOp.DraftsRead (.create body saved spawn))
    (hwithin : CreatesWithin validate s (.create body saved spawn)) :
    CapInvariant (create validate body saved spawn s).1 := by
  unfold create
  cases hcheck : checkCreate validate s body saved with
  | error r => exact h
  | ok project =>
    obtain ⟨b, _, draft, hbody, -, hdraft, -, hproject, -⟩ := checkCreate_accepted hcheck
    obtain ⟨-, -, -, hnew⟩ := checkCreate_ok hcheck
    have hcap : 1 ≤ project.schedule.cap := by
      rw [hproject, validateProject_schedule]
      exact Schedule.cap_pos (hread b draft hbody hdraft).schedule
    have hwaiting : ∀ op ∈ s.pending, op.Settles (s.projects.insert project) := by
      intro op hop
      have hsettles := h.waiting op hop
      cases op with
      | update _ => exact hsettles
      | delete _ => trivial
      | reload _ => exact hsettles
      | disable updated disabled =>
        obtain ⟨p, hp, hsame⟩ := hsettles
        refine ⟨p, ?_, hsame⟩
        rw [ProjectMap.find?_insert, if_neg]
        · exact hp
        · intro heq
          rw [heq, hnew] at hp
          cases hp
    exact startScheduling_capInvariant
      (s := { s with projects := s.projects.insert project })
      (h.scheduler.insert_within (hwithin project hcheck) hcap) hwaiting h.distinct spawn

theorem update_capInvariant (h : CapInvariant s) {storage : Except String Unit}
    (hread : ServerOp.DraftsRead (.update id body saved storage spawn)) :
    CapInvariant (update validate id body saved storage spawn s).1 := by
  unfold update
  cases hcheck : checkUpdate validate s id body saved with
  | error r => exact h
  | ok project =>
    obtain ⟨b, draft, hbody, hdraft, -, hflight, hproject, -⟩ := checkUpdate_accepted hcheck
    have hid := (checkUpdate_ok hcheck).1
    apply stopProjectAndWait_capInvariant h
    · show 1 ≤ project.schedule.cap
      rw [hproject, validateProject_schedule]
      exact Schedule.cap_pos (hread b draft hbody hdraft).schedule
    · apply othersWait_of_not_inFlight
      show s.inFlight project.id = false
      rw [hid]
      exact hflight

theorem delete_capInvariant (h : CapInvariant s) (id : String) (storage : Except String Unit)
    (spawn : String → SpawnOutcome) : CapInvariant (delete id storage spawn s).1 := by
  unfold delete
  split_ifs with hno hflight
  · exact h
  · exact h
  · have hsettles : (PendingOp.delete id).Settles s.projects := trivial
    apply stopProjectAndWait_capInvariant h hsettles
    exact othersWait_of_not_inFlight (Bool.eq_false_of_not_eq_true hflight)

theorem reload_capInvariant (h : CapInvariant s) {loaded : Except String ProjectDraft}
    (hread : ServerOp.DraftsRead (.reload id loaded spawn)) :
    CapInvariant (reload validate id loaded spawn s).1 := by
  unfold reload
  cases hcheck : checkReload validate s id loaded with
  | error r => exact h
  | ok project =>
    obtain ⟨hid, hflight, draft, hloaded, hproject⟩ := checkReload_ok hcheck
    apply stopProjectAndWait_capInvariant h
    · show 1 ≤ project.schedule.cap
      rw [hproject, validateProject_schedule]
      exact Schedule.cap_pos (hread draft hloaded).schedule
    · apply othersWait_of_not_inFlight
      show s.inFlight project.id = false
      rw [hid]
      exact hflight

theorem setEnabled_capInvariant (h : CapInvariant s) (id : String) (body : Parsed (Option Bool))
    (saved storage : Except String Unit) (spawn : String → SpawnOutcome) :
    CapInvariant (setEnabled id body saved storage spawn s).1 := by
  unfold setEnabled
  cases hcheck : checkEnabled s id body saved with
  | error r => exact h
  | ok updated =>
    obtain ⟨hflight, p, hp, hid, hupdated⟩ := checkEnabled_ok hcheck
    have hname : updated.id = id := checkEnabled_id hcheck
    have hschedule : p.schedule = updated.schedule := by rw [hupdated]
    have hothers : OthersWait s updated.id := by
      rw [hname]
      exact othersWait_of_not_inFlight hflight
    dsimp only
    split_ifs with henabled
    · have hchange : Capped (s.projects.insert updated) s.scheduler := by
        apply h.scheduler.change
        intro id' q hq
        rw [ProjectMap.find?_insert] at hq
        split_ifs at hq with heq
        · rw [heq, hname, ← Option.some.inj hq]
          exact ⟨p, hp, hschedule.symm⟩
        · exact ⟨q, hq, rfl⟩
      have hstart : Capped (s.projects.insert updated)
          (Scheduler.startProject updated s.services (spawn id) s.scheduler).1 :=
        Scheduler.startProject_capped hchange.within (fun id' p' q _ => hchange.same id' p' q)
          (ProjectMap.find?_insert_self _ _) s.services (spawn id)
      exact ⟨hstart, settles_insert h hothers, h.distinct⟩
    · apply stopProjectAndWait_capInvariant h
      · refine ⟨p, ?_, hschedule⟩
        rw [hname]
        exact hp
      · exact hothers

theorem start_capInvariant (h : CapInvariant s) (id : String) (outcome : SpawnOutcome) :
    CapInvariant (start id outcome s).1 := by
  unfold start
  cases hcheck : checkStart s id with
  | error r => exact h
  | ok check =>
    cases check with
    | noop => exact h
    | start project serviceDir =>
      obtain ⟨hp, hroom⟩ := checkStart_room hcheck
      have hid : project.id = id := ProjectMap.id_of_find? hp
      have hresumed : Capped s.projects
          { s.scheduler with engine := s.scheduler.engine.resumeProject id } :=
        ⟨⟨h.scheduler.within.live, h.scheduler.within.armed⟩, h.scheduler.same⟩
      refine ⟨Scheduler.startInstance_capped hresumed ?_ serviceDir outcome, h.waiting,
        h.distinct⟩
      intro p hp'
      rw [hid] at hp' ⊢
      obtain rfl := Option.some.inj (hp.symm.trans hp')
      have hle := s.scheduler.manager.liveCount_le_instanceCount id
      have hrunning : s.running id = s.scheduler.manager.instanceCount id := rfl
      show (s.scheduler.manager.liveCount id : Int) + 1 ≤ _
      omega

theorem stop_capInvariant (h : CapInvariant s) (id : String) : CapInvariant (stop id s).1 := by
  unfold stop
  split_ifs
  · exact h
  · exact h
  · exact ⟨⟨⟨h.scheduler.within.live, h.scheduler.within.armed⟩, h.scheduler.same⟩, h.waiting,
      h.distinct⟩

/-- The innermost wait returns: the others wait for other projects. -/
theorem resume_capInvariant (h : CapInvariant s) (storage : Except String Unit)
    (spawn : String → SpawnOutcome) : CapInvariant (resume storage spawn s).1 := by
  unfold resume
  cases hpending : s.pending with
  | nil => exact h
  | cons op rest =>
    have hdistinct := h.distinct
    rw [hpending, List.map_cons, List.nodup_cons] at hdistinct
    have hrest : CapInvariant { s with pending := rest } := by
      refine ⟨h.scheduler, ?_, hdistinct.2⟩
      intro op' hop'
      apply h.waiting op'
      rw [hpending]
      exact List.mem_cons_of_mem _ hop'
    apply finishPending_capInvariant hrest
    · apply h.waiting op
      rw [hpending]
      exact List.mem_cons_self
    · intro op' hop' heq
      exact hdistinct.1 (List.mem_map.mpr ⟨op', hop', heq⟩)
    · intro hfinished
      exact of_decide_eq_true hfinished

/-- Changing validity, parameters or services changes no bound. -/
theorem capInvariant_of_schedules (h : CapInvariant s) (s' : ServerManager)
    (hmanager : s'.scheduler.manager = s.scheduler.manager)
    (hrecords : s'.scheduler.engine.projects = s.scheduler.engine.projects)
    (hrestarts : s'.scheduler.engine.restarts = s.scheduler.engine.restarts)
    (hpending : s'.pending = s.pending)
    (hto : ∀ id p, s'.projects.find? id = some p →
      ∃ q, s.projects.find? id = some q ∧ p.schedule = q.schedule)
    (hfrom : ∀ id p, s.projects.find? id = some p →
      ∃ q, s'.projects.find? id = some q ∧ q.schedule = p.schedule) : CapInvariant s' := by
  have hcapped : Capped s'.projects s.scheduler := h.scheduler.change hto
  refine ⟨⟨⟨?_, ?_⟩, ?_⟩, ?_, ?_⟩
  · rw [hmanager]
    exact hcapped.within.live
  · rw [hrestarts]
    exact hcapped.within.armed
  · unfold SameSchedules
    rw [hrecords]
    exact hcapped.same
  · rw [hpending]
    intro op hop
    have hsettles := h.waiting op hop
    cases op with
    | update _ => exact hsettles
    | delete _ => trivial
    | reload _ => exact hsettles
    | disable updated _ =>
      obtain ⟨p, hp, hschedule⟩ := hsettles
      obtain ⟨q, hq, hsame⟩ := hfrom updated.id p hp
      exact ⟨q, hq, hsame.trans hschedule⟩
  · rw [hpending]
    exact h.distinct

theorem orphan_schedule (serviceId : String) (p : Project) :
    (orphan serviceId p).schedule = p.schedule := by
  unfold orphan
  split <;> rfl

theorem rescanServices_capInvariant (h : CapInvariant s) (found : ServiceMap)
    (revalidate restart stopInvalid : Bool) (spawn : String → SpawnOutcome) :
    CapInvariant (rescanServices validate found revalidate restart stopInvalid spawn s).1 := by
  rw [rescanServices_apply]
  have hrescanned : CapInvariant (rescannedState validate s found revalidate stopInvalid) := by
    obtain ⟨hprojects, -, -, hrestarts⟩ := stopEach_records s.scheduler.engine
      (if revalidate && stopInvalid then
        (if revalidate then revalidated validate found s.projects else s.projects).values.filter
          fun p => !p.valid
      else [])
    refine capInvariant_of_schedules h _ rfl hprojects hrestarts rfl ?_ ?_
    · intro id p hp
      unfold rescannedState at hp
      cases revalidate with
      | false => exact ⟨p, hp, rfl⟩
      | true =>
        exact find?_mapProjects_schedule (fun q => validateProject_id validate q found)
          (fun q => validateProject_schedule validate q found) hp
    · intro id p hp
      unfold rescannedState
      cases revalidate with
      | false => exact ⟨p, hp, rfl⟩
      | true =>
        refine ⟨validateProject validate p found, ?_, validateProject_schedule _ _ _⟩
        show (revalidated validate found s.projects).find? id = _
        rw [revalidated, ProjectMap.find?_mapProjects, hp]
        rfl
  cases restart with
  | false => exact hrescanned
  | true =>
    exact startScheduling_capInvariant hrescanned.scheduler.within hrescanned.waiting
      hrescanned.distinct spawn

theorem deleteService_capInvariant (h : CapInvariant s) (serviceId : String)
    (force removed : Bool) : CapInvariant (deleteService serviceId force removed s).1 := by
  obtain ⟨result, hno⟩ | ⟨services, result, -, hdone⟩ :=
    deleteService_cases serviceId force removed s
  · rw [hno]
    exact h
  · rw [hdone]
    obtain ⟨hprojects, -, -, hrestarts⟩ := stopEach_records s.scheduler.engine
      (s.projects.values.filter fun p => p.serviceId = serviceId)
    refine capInvariant_of_schedules h _ rfl hprojects hrestarts rfl ?_ ?_
    · intro id p hp
      show ∃ q, s.projects.find? id = some q ∧ p.schedule = q.schedule
      exact find?_mapProjects_schedule (orphan_id serviceId) (orphan_schedule serviceId) hp
    · intro id p hp
      refine ⟨orphan serviceId p, ?_, orphan_schedule serviceId p⟩
      show (s.projects.mapProjects (orphan serviceId) (orphan_id serviceId)).find? id = _
      rw [ProjectMap.find?_mapProjects, hp]
      rfl

end ServerManager

/-! ## §5. Runs -/

/-- **The step lemma.** -/
theorem capInvariant_step {validate : ConfigValidator} {s : ServerManager} {op : ServerOp}
    (h : CapInvariant s) (hread : op.DraftsRead) (hwithin : CreatesWithin validate s op) :
    CapInvariant (op.action validate s).1 := by
  cases op with
  | create body saved spawn => exact ServerManager.create_capInvariant h hread hwithin
  | update id body saved storage spawn => exact ServerManager.update_capInvariant h hread
  | delete id storage spawn => exact ServerManager.delete_capInvariant h id storage spawn
  | reload id loaded spawn => exact ServerManager.reload_capInvariant h hread
  | setEnabled id body saved storage spawn =>
    exact ServerManager.setEnabled_capInvariant h id body saved storage spawn
  | start id outcome => exact ServerManager.start_capInvariant h id outcome
  | stop id => exact ServerManager.stop_capInvariant h id
  | resume storage spawn => exact ServerManager.resume_capInvariant h storage spawn
  | rescanServices found revalidate restart stopInvalid spawn =>
    exact ServerManager.rescanServices_capInvariant h found revalidate restart stopInvalid spawn
  | createService request loaded =>
    obtain ⟨services, result, hout⟩ := ServerManager.createService_cases request loaded s
    show CapInvariant (ServerManager.createService request loaded s).1
    rw [hout]
    exact ⟨h.scheduler, h.waiting, h.distinct⟩
  | deleteService id force removed => exact ServerManager.deleteService_capInvariant h id force removed
  | reloadService id loaded =>
    obtain ⟨services, result, hout, -⟩ := ServerManager.reloadService_cases id loaded s
    show CapInvariant (ServerManager.reloadService id loaded s).1
    rw [hout]
    exact ⟨h.scheduler, h.waiting, h.distinct⟩
  | fixedRateTick projectId outcome =>
    exact ⟨Scheduler.fixedRateTick_capped h.scheduler projectId outcome, h.waiting, h.distinct⟩
  | restartFires timerId outcome =>
    exact ⟨Scheduler.restartFires_capped h.scheduler timerId outcome, h.waiting, h.distinct⟩
  | processFinished instanceId exitCode exitStatus =>
    exact ⟨Scheduler.processFinished_capped h.scheduler instanceId exitCode exitStatus, h.waiting,
      h.distinct⟩
  | shutdown =>
    exact ⟨⟨⟨h.scheduler.within.live, h.scheduler.within.armed⟩, h.scheduler.same⟩, h.waiting,
      h.distinct⟩

theorem booted_capInvariant (services : ServiceMap) (projects : ProjectMap)
    (spawn : String → SpawnOutcome) :
    CapInvariant (ServerManager.booted services projects spawn).state := by
  apply ServerManager.startScheduling_capInvariant
  · refine ⟨?_, ?_⟩
    · intro id p _
      exact p.schedule.cap_nonneg
    · intro r hr
      cases hr
  · intro op hop
    cases hop
  · exact List.nodup_nil

/-- Along every run whose create requests find the bound of their project kept, no project has more
live instances than its schedule allows. -/
theorem caps_hold_of_creates_within (validate : ConfigValidator) (services : ServiceMap)
    (projects : ProjectMap) (spawn : String → SpawnOutcome) {ops : List ServerOp}
    (hops : (serverMachine validate).EveryStep
      (fun c op => op.DraftsRead ∧ CreatesWithin validate c.state op)
      (ServerManager.booted services projects spawn) ops) :
    (serverMachine validate).EveryState (fun c => CapsHold c.state)
      (ServerManager.booted services projects spawn) ops := by
  apply Machine.everyState_of_invariant (fun c => CapInvariant c.state) _ _ _ hops
  · intro c op h hop
    exact capInvariant_step h hop.1 hop.2
  · intro c h
    exact h.scheduler.within.live
  · exact booted_capInvariant services projects spawn

/-- The step is not a create request. -/
def ServerOp.CreatesNothing : ServerOp → Prop
  | .create _ _ _ => False
  | _ => True

/-- **Concurrency caps.**  In every state of every run of start, stop, update, reload, enable and
delete requests, of their waits, of ticks, delayed restarts, exits and all other steps but create
requests, no project has more live instances than its schedule in the server's map allows. -/
theorem caps_hold (validate : ConfigValidator) (services : ServiceMap) (projects : ProjectMap)
    (spawn : String → SpawnOutcome) (ops : List ServerOp) (hread : ∀ op ∈ ops, op.DraftsRead)
    (hcreate : ∀ op ∈ ops, op.CreatesNothing) :
    (serverMachine validate).EveryState (fun c => CapsHold c.state)
      (ServerManager.booted services projects spawn) ops := by
  apply caps_hold_of_creates_within
  rw [Machine.everyStep_iff]
  intro pre op post heq
  have hop : op ∈ ops := by
    rw [heq]
    simp
  refine ⟨hread op hop, ?_⟩
  cases op with
  | create body saved spawn => exact (hcreate _ hop).elim
  | _ => trivial

/-- A project that ticks, with two instances at most. -/
def twoAtOnce : Project :=
  { id := "p", name := "P", serviceId := "echo",
    schedule := { type := .fixedRate, intervalMs := 1000, maxConcurrent := 2 } }

/-- Three ticks, and a delete request that waits. -/
theorem twoAtOnce_caps_hold :
    (serverMachine acceptAll).EveryState (fun c => CapsHold c.state)
      (ServerManager.booted echoServices (ProjectMap.empty.insert twoAtOnce) fun _ => .running)
      [.fixedRateTick "p" .running, .fixedRateTick "p" .running, .fixedRateTick "p" .running,
        .delete "p" (.ok ()) fun _ => .running] := by
  apply caps_hold
  · intro op hop
    simp only [List.mem_cons, List.not_mem_nil, or_false] at hop
    obtain rfl | rfl | rfl | rfl := hop <;> trivial
  · intro op hop
    simp only [List.mem_cons, List.not_mem_nil, or_false] at hop
    obtain rfl | rfl | rfl | rfl := hop <;> trivial

/-- `config.json` of a project whose schedule is rejected. -/
def negativeConfig : List (String × Json) :=
  [("name", .str "P"),
    ("schedule", .obj [("maxConcurrent", .num (-1)), ("type", .str "fixed_rate")]),
    ("serviceId", .str "echo")]

/-- The record that loading it leaves. -/
def negativeRecord : Project :=
  let (project, parseError) := Project.fromStorageJson "p" negativeConfig
  { project with valid := false, error := parseError }

/-- The server boots with the rejected schedule in its map, and no instance is more than -1. -/
theorem negativeRecord_over_limit :
    let s := (ServerManager.booted echoServices (ProjectMap.empty.insert negativeRecord)
      fun _ => .running).state
    negativeRecord.error = "schedule.maxConcurrent must be >= 1" ∧
      ∃ p, s.projects.find? "p" = some p ∧
        ¬ (s.scheduler.manager.liveCount "p" : Int) ≤ p.schedule.limit := by
  refine ⟨by decide +kernel, negativeRecord, ?_, by decide +kernel⟩
  exact ProjectMap.find?_insert_self _ negativeRecord

end Stdiolink.Server
