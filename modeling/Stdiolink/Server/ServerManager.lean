/-
  Stdiolink.Server.ServerManager — `server_manager.cpp`.

  The server's own service and project maps, the scheduler they are handed to, and
  the operations of `ServerManager` on them.  The file system's part (what a scan
  finds, whether a directory can be removed) is an input.

  Every event of the scheduler is recorded together with the server's project map
  at that moment, so that what the engine acts on can be compared with what the
  server holds.
-/
import Stdiolink.Server.ScheduleEngine

namespace Stdiolink.Server

open Stdiolink.Lib
open Stdiolink.Protocol

/-! ## §1. State and events -/

/-- A project request that waits in `waitProjectFinished`, with what it does next.  Only
a request that disables waits in `handleProjectEnabled`. -/
inductive PendingOp where
  | update (project : Project)
  | delete (projectId : String)
  | reload (project : Project)
  | disable (updated : Project) (disabled : updated.enabled = false)

/-- The id the request holds in `m_projectMutationsInFlight`. -/
def PendingOp.projectId : PendingOp → String
  | .update project => project.id
  | .delete projectId => projectId
  | .reload project => project.id
  | .disable updated _ => updated.id

/-- The server.  `pending` is the stack of nested waits: a wait processes events, so
another request may begin inside it, and only the innermost one can return. -/
structure ServerManager where
  services : ServiceMap := SortedMap.empty
  projects : ProjectMap := ProjectMap.empty
  scheduler : Scheduler := {}
  pending : List PendingOp := []

/-- The project requests of `ApiRouter` that change something. -/
inductive Verb where
  | create
  | update
  | delete
  | start
  | stop
  | reload
  | enabled
  deriving Repr, DecidableEq

/-- What a project request answers. -/
inductive Response where
  | error (status : Nat) (message : String)
  /-- `projectToJson` of the project with its running count. -/
  | project (status : Nat) (project : Project) (running : Nat)
  | noContent
  | started (instanceId : Nat)
  | noop
  | stopped

structure ServiceRescanStats where
  added : Nat
  updated : Nat
  unchanged : Nat
  removed : Nat
  revalidatedProjects : Nat
  becameValid : Nat
  becameInvalid : Nat
  remainedInvalid : Nat
  invalidProjectIds : List String
  schedulingRestarted : Bool

inductive ServerEvent where
  /-- An event of the scheduler, with the server's project map at that moment. -/
  | engine (event : ScheduleEvent) (projects : ProjectMap)
  /-- `startAll` is called with the server's maps. -/
  | schedulingRestarted
  /-- A request has stopped the project and is going to wait for its instances. -/
  | stopping (projectId : String)
  | responded (verb : Verb) (projectId : String) (response : Response)
  | rescanned (stats : ServiceRescanStats)
  | serviceResult (result : Except String Unit)

namespace ServerManager

/-- Run an action of the scheduler. -/
def onScheduler (a : Action Scheduler ScheduleEvent) : Action ServerManager ServerEvent := fun s =>
  ({ s with scheduler := (a s.scheduler).1 },
    (a s.scheduler).2.map fun e => .engine e s.projects)

variable (a : Action Scheduler ScheduleEvent) (serviceId : String) (s : ServerManager)

@[simp] theorem onScheduler_projects : (onScheduler a s).1.projects = s.projects := rfl

@[simp] theorem onScheduler_scheduler : (onScheduler a s).1.scheduler = (a s.scheduler).1 := rfl

/-- An operation of the engine that emits nothing. -/
def onEngine (f : ScheduleEngine → ScheduleEngine) : Action ServerManager ServerEvent :=
  Action.modify fun s =>
    { s with scheduler := { s.scheduler with engine := f s.scheduler.engine } }

/-! ## §2. Scheduling and services -/

/-- `ServerManager::startScheduling`. -/
def startScheduling (spawn : String → SpawnOutcome) : Action ServerManager ServerEvent :=
  Action.seq (Action.emit fun _ => .schedulingRestarted)
    (Action.bind fun s => onScheduler (Scheduler.startAll s.projects s.services spawn))

/-- `stopProject` followed by `terminateByProject`.  A killed process ends later, as a
`processFinished` of its instance. -/
def stopAndTerminate (projectId : String) : Action ServerManager ServerEvent :=
  onEngine (·.stopProject projectId)

section Validator

variable (validate : ConfigValidator)

/-- The loop body of `rescanServices` over all projects: validate them again. -/
def revalidated (services : ServiceMap) (projects : ProjectMap) : ProjectMap :=
  projects.mapProjects (fun p => validateProject validate p services)
    fun p => validateProject_id validate p services

/-- The service changed between two scans. -/
def serviceChanged (prev cur : ServiceInfo) : Bool :=
  prev.name ≠ cur.name || prev.version ≠ cur.version || prev.serviceDir ≠ cur.serviceDir ||
    !(prev.rawConfigSchema == cur.rawConfigSchema)

/-- The statistics `rescanServices` returns. -/
def rescanStats (s : ServerManager) (found : ServiceMap) (revalidateProjects restartScheduling : Bool) :
    ServiceRescanStats :=
  let known := found.entries.filterMap fun e => (s.services.find? e.1).map (·, e.2)
  let after := revalidated validate found s.projects
  let checked := if revalidateProjects then s.projects.values.zip after.values else []
  { added := found.entries.countP fun e => !s.services.contains e.1
    updated := known.countP fun c => serviceChanged c.1 c.2
    unchanged := known.countP fun c => !serviceChanged c.1 c.2
    removed := s.services.entries.countP fun e => !found.contains e.1
    revalidatedProjects := checked.length
    becameValid := checked.countP fun c => !c.1.valid && c.2.valid
    becameInvalid := checked.countP fun c => c.1.valid && !c.2.valid
    remainedInvalid := checked.countP fun c => !c.1.valid && !c.2.valid
    invalidProjectIds := (checked.filter fun c => !c.2.valid).map (·.2.id)
    schedulingRestarted := restartScheduling }

/-- `ServerManager::rescanServices`, with what the scanner finds. -/
def rescanServices (found : ServiceMap)
    (revalidateProjects restartScheduling stopInvalidProjects : Bool)
    (spawn : String → SpawnOutcome) : Action ServerManager ServerEvent :=
  Action.bind fun before =>
    let projects :=
      if revalidateProjects then revalidated validate found before.projects else before.projects
    let invalid := projects.values.filter fun p => !p.valid
    Action.seq (Action.modify fun s => { s with services := found, projects := projects })
      (Action.seq
        (Action.forEach (if revalidateProjects && stopInvalidProjects then invalid else [])
          fun p => stopAndTerminate p.id)
        (Action.seq (if restartScheduling then startScheduling spawn else Action.skip)
          (Action.emit fun _ =>
            .rescanned (rescanStats validate before found revalidateProjects restartScheduling))))

end Validator

/-- `isValidServiceId`; the length is checked before the expression. -/
def isValidServiceId (id : String) : Bool :=
  id.length ≤ 128 && isValidProjectId id

/-- The fields of `ServiceCreateRequest` that are checked before the disk is touched. -/
structure ServiceCreateRequest where
  id : String
  name : String
  version : String
  /-- The text of `ServiceConfigSchema::fromJsonObject`'s error, if a schema is given. -/
  schemaError : Option String := none

/-- `ServerManager::createService` up to the change of the map; `loaded` is what writing
and loading the new directory gives. -/
def checkCreateService (s : ServerManager) (request : ServiceCreateRequest)
    (loaded : Except String ServiceInfo) : Except String ServiceInfo :=
  if !isValidServiceId request.id then .error "invalid service id"
  else if request.name = "" then .error "missing required field: name"
  else if request.version = "" then .error "missing required field: version"
  else
    match request.schemaError with
    | some e => .error ("invalid configSchema: " ++ e)
    | none => if s.services.contains request.id then .error "service already exists" else loaded

/-- `ServerManager::createService`. -/
def createService (request : ServiceCreateRequest) (loaded : Except String ServiceInfo) :
    Action ServerManager ServerEvent := fun s =>
  match checkCreateService s request loaded with
  | .error e => (s, [.serviceResult (.error e)])
  | .ok service =>
      ({ s with services := s.services.insert service.id service }, [.serviceResult (.ok ())])

/-- What `deleteService` does to an associated project. -/
def orphan (serviceId : String) (p : Project) : Project :=
  if p.serviceId = serviceId then
    { p with valid := false, error := "service '" ++ serviceId ++ "' has been deleted" }
  else p

theorem orphan_id (p : Project) : (orphan serviceId p).id = p.id := by
  unfold orphan
  split_ifs <;> rfl

/-- `ServerManager::deleteService`; `removed` is whether the directory could be removed. -/
def deleteService (serviceId : String) (force removed : Bool) : Action ServerManager ServerEvent :=
  Action.bind fun before =>
    let associated := before.projects.values.filter fun p => p.serviceId = serviceId
    if !before.services.contains serviceId then
      Action.emit fun _ => .serviceResult (.error "service not found")
    else if !associated.isEmpty && !force then
      Action.emit fun _ => .serviceResult (.error
        ("service has associated projects: " ++ String.intercalate ", " (associated.map (·.id))))
    else
      Action.seq
        (Action.modify fun s =>
          { s with projects := s.projects.mapProjects (orphan serviceId) (orphan_id serviceId) })
        (Action.seq (Action.forEach associated fun p => stopAndTerminate p.id)
          (if removed then
            Action.seq (Action.modify fun s => { s with services := s.services.erase serviceId })
              (Action.emit fun _ => .serviceResult (.ok ()))
          else
            Action.emit fun _ => .serviceResult (.error "failed to remove service directory")))

/-- `ServerManager::reloadService`; `loaded` is what `loadSingle` gives. -/
def reloadService (serviceId : String) (loaded : Except String ServiceInfo) :
    Action ServerManager ServerEvent := fun s =>
  if !s.services.contains serviceId then
    (s, [.serviceResult (.error "service not found in memory")])
  else
    match loaded with
    | .error e => (s, [.serviceResult (.error ("failed to reload service: " ++ e))])
    | .ok service =>
        ({ s with services := s.services.insert serviceId service }, [.serviceResult (.ok ())])

/-- `ServerManager::shutdown`. -/
def shutdown : Action ServerManager ServerEvent :=
  onEngine fun e => ({ e with shuttingDown := true } : ScheduleEngine).stopAll

/-! ## §3. What the service operations change -/

/-- The engine after `stopProject` of several projects. -/
def stopEach (e : ScheduleEngine) (ps : List Project) : ScheduleEngine :=
  ps.foldl (fun e p => e.stopProject p.id) e

/-- Stopping projects changes no record, no shutdown flag and no armed restart. -/
theorem stopEach_records (e : ScheduleEngine) (ps : List Project) :
    (stopEach e ps).projects = e.projects ∧ (stopEach e ps).services = e.services ∧
      (stopEach e ps).shuttingDown = e.shuttingDown ∧
      (stopEach e ps).restarts = e.restarts := by
  induction ps generalizing e with
  | nil => exact ⟨rfl, rfl, rfl, rfl⟩
  | cons p ps ih => exact ih (e.stopProject p.id)

theorem forEach_stopAndTerminate (ps : List Project) (s : ServerManager) :
    Action.forEach ps (fun p => stopAndTerminate p.id) s =
      ({ s with scheduler := { s.scheduler with engine := stopEach s.scheduler.engine ps } },
        []) := by
  induction ps generalizing s with
  | nil => rfl
  | cons p ps ih =>
    simp only [Action.forEach_cons, Action.seq_apply, ih]
    rfl

/-- The server once `rescanServices` has taken the new services, validated the projects
and stopped the invalid ones. -/
def rescannedState (validate : ConfigValidator) (s : ServerManager) (found : ServiceMap)
    (revalidateProjects stopInvalidProjects : Bool) : ServerManager :=
  let projects :=
    if revalidateProjects then revalidated validate found s.projects else s.projects
  let invalid := projects.values.filter fun p => !p.valid
  { s with
    services := found
    projects := projects
    scheduler :=
      { s.scheduler with
        engine := stopEach s.scheduler.engine
          (if revalidateProjects && stopInvalidProjects then invalid else []) } }

theorem rescanServices_apply (validate : ConfigValidator) (found : ServiceMap)
    (revalidateProjects restartScheduling stopInvalidProjects : Bool)
    (spawn : String → SpawnOutcome) (s : ServerManager) :
    rescanServices validate found revalidateProjects restartScheduling stopInvalidProjects
        spawn s =
      Action.seq (if restartScheduling then startScheduling spawn else Action.skip)
        (Action.emit fun _ =>
          .rescanned (rescanStats validate s found revalidateProjects restartScheduling))
        (rescannedState validate s found revalidateProjects stopInvalidProjects) := by
  simp only [rescanServices, Action.bind_apply, Action.seq_apply, Action.modify_apply,
    forEach_stopAndTerminate, List.nil_append, rescannedState]

/-- `createService` touches the service map only. -/
theorem createService_cases (request : ServiceCreateRequest)
    (loaded : Except String ServiceInfo) (s : ServerManager) :
    ∃ services result, createService request loaded s =
      ({ s with services := services }, [.serviceResult result]) := by
  unfold createService
  cases checkCreateService s request loaded with
  | error e => exact ⟨s.services, _, rfl⟩
  | ok service => exact ⟨_, _, rfl⟩

/-- `reloadService` replaces the data of a known service. -/
theorem reloadService_cases (loaded : Except String ServiceInfo) (s : ServerManager) :
    ∃ services result, reloadService serviceId loaded s =
        ({ s with services := services }, [.serviceResult result]) ∧
      ∀ id, services.contains id = s.services.contains id := by
  unfold reloadService
  split_ifs with hk
  · exact ⟨s.services, _, rfl, fun _ => rfl⟩
  · cases loaded with
    | error e => exact ⟨s.services, _, rfl, fun _ => rfl⟩
    | ok service =>
      refine ⟨_, _, rfl, fun id => ?_⟩
      rw [SortedMap.contains_insert]
      by_cases hid : id = serviceId
      · simpa [hid] using hk
      · simp [hid]

/-- `deleteService` is refused, or marks and stops the projects of the service. -/
theorem deleteService_cases (force removed : Bool) (s : ServerManager) :
    (∃ result, deleteService serviceId force removed s = (s, [.serviceResult result])) ∨
    ∃ services result, (∀ id, services.contains id = true → s.services.contains id = true) ∧
      deleteService serviceId force removed s =
      ({ s with
          services := services
          projects := s.projects.mapProjects (orphan serviceId) (orphan_id serviceId)
          scheduler :=
            { s.scheduler with
              engine := stopEach s.scheduler.engine
                (s.projects.values.filter fun p => p.serviceId = serviceId) } },
        [.serviceResult result]) := by
  simp only [deleteService, Action.bind_apply]
  split_ifs
  · exact Or.inl ⟨_, rfl⟩
  · exact Or.inl ⟨_, rfl⟩
  · right
    simp only [Action.seq_apply, Action.modify_apply, forEach_stopAndTerminate,
      Action.emit_apply, List.nil_append]
    refine ⟨_, _, fun id hid => ?_, rfl⟩
    simp only [SortedMap.contains_erase, Bool.and_eq_true] at hid
    exact hid.2
  · right
    simp only [Action.seq_apply, Action.modify_apply, forEach_stopAndTerminate,
      Action.emit_apply, List.nil_append]
    exact ⟨_, _, fun _ hid => hid, rfl⟩

end ServerManager

end Stdiolink.Server
