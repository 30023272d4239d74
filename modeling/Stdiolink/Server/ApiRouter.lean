/-
  Stdiolink.Server.ApiRouter — the project requests of `http/api_router.cpp`.

  Each handler checks its request and then acts.  The checks are functions of the
  server (`checkCreate`, `checkUpdate`, ...), so that a later statement can speak
  about "the requests that pass".  Parsed bodies and the answers of the file system
  are inputs.

  Update, delete, reload and disable wait for the project's instances.  The wait
  returns at once when there is none; otherwise it processes events until they are
  gone or the timeout passes, so the handler's rest is pushed on `pending` and runs
  as the step `resume`, with anything in between.
-/
import Stdiolink.Lib.Machine
import Stdiolink.Server.ServerManager

namespace Stdiolink.Server

open Stdiolink.Lib
open Stdiolink.Protocol

/-! ## §1. Requests -/

/-- What the handlers read from a parsed body: the `id` member, when it is a string, and
what `Project::fromJson` makes of the body. -/
structure ProjectBody where
  id : Option String := none
  draft : Except String ProjectDraft

/-- `parseJsonObjectBody`: the status and text of its failure, or the body. -/
abbrev Parsed (α : Type) := Except (Nat × String) α

namespace ServerManager

/-- `m_projectMutationsInFlight.contains`, seen from a new request. -/
def inFlight (s : ServerManager) (projectId : String) : Bool :=
  s.pending.any fun op => op.projectId = projectId

/-- The project's live instances. -/
def running (s : ServerManager) (projectId : String) : Nat :=
  s.scheduler.manager.instanceCount projectId

def notFound : Response := .error 404 "project not found"

/-- `projectOperationInProgressResponse`. -/
def operationInProgress (projectId : String) : Response :=
  .error 409 ("project operation already in progress: " ++ projectId)

/-- `projectBusyResponse`. -/
def busy (projectId : String) : Response :=
  .error 409 ("project instances still running after stop timeout: " ++ projectId)

/-- Answer a request. -/
def respond (verb : Verb) (projectId : String) (response : ServerManager → Response) :
    Action ServerManager ServerEvent :=
  Action.emit fun s => .responded verb projectId (response s)

/-- `jsonResponse(projectToJson(project, instanceManager), status)`. -/
def projectResponse (status : Nat) (project : Project) (s : ServerManager) : Response :=
  .project status project (s.running project.id)

/-! ## §2. Checks -/

section Checks

variable (validate : ConfigValidator) (s : ServerManager)

/-- `handleProjectCreate` up to `saveProject`. -/
def checkCreate (body : Parsed ProjectBody) (saved : Except String Unit) :
    Except Response Project :=
  match body with
  | .error (status, e) => .error (.error status e)
  | .ok body =>
    match body.id with
    | none => .error (.error 400 "missing required string field: id")
    | some id =>
      if !isValidProjectId id then .error (.error 400 "invalid project id")
      else if s.projects.contains id then .error (.error 409 "project already exists")
      else
        match body.draft with
        | .error e => .error (.error 400 e)
        | .ok draft =>
          let project := validateProject validate (Project.fromDraft id draft) s.services
          if !project.valid then .error (.error 400 ("project invalid: " ++ project.error))
          else
            match saved with
            | .error e => .error (.error 500 e)
            | .ok () => .ok project

/-- `handleProjectUpdate` up to `saveProject`. -/
def checkUpdate (id : String) (body : Parsed ProjectBody) (saved : Except String Unit) :
    Except Response Project :=
  if !s.projects.contains id then .error notFound
  else if s.inFlight id then .error (operationInProgress id)
  else
    match body with
    | .error (status, e) => .error (.error status e)
    | .ok body =>
      if body.id.any (· ≠ id) then .error (.error 409 "project id mismatch")
      else
        match body.draft with
        | .error e => .error (.error 400 e)
        | .ok draft =>
          let project := validateProject validate (Project.fromDraft id draft) s.services
          if !project.valid then .error (.error 400 ("project invalid: " ++ project.error))
          else
            match saved with
            | .error e => .error (.error 500 e)
            | .ok () => .ok project

/-- `handleProjectReload` up to the stop; `loaded` is what `loadProject` finds on disk for
a valid id. -/
def checkReload (id : String) (loaded : Except String ProjectDraft) : Except Response Project :=
  if s.inFlight id then .error (operationInProgress id)
  else if !isValidProjectId id then .error (.error 400 ("invalid project id: " ++ id))
  else
    match loaded with
    | .error e =>
      if e = "project not found: " ++ id then .error notFound else .error (.error 400 e)
    | .ok draft =>
      let project := validateProject validate (Project.fromDraft id draft) s.services
      if !project.valid then .error (.error 400 ("project invalid: " ++ project.error))
      else .ok project

/-- `handleProjectEnabled` up to `saveProject`; the body's `enabled` member, when it is a
boolean. -/
def checkEnabled (id : String) (body : Parsed (Option Bool)) (saved : Except String Unit) :
    Except Response Project :=
  match s.projects.find? id with
  | none => .error notFound
  | some project =>
    if s.inFlight id then .error (operationInProgress id)
    else
      match body with
      | .error (status, e) => .error (.error status e)
      | .ok none => .error (.error 400 "field 'enabled' is required and must be a bool")
      | .ok (some enabled) =>
        match saved with
        | .error e => .error (.error 500 e)
        | .ok () => .ok { project with enabled := enabled }

/-- What `handleProjectStart` finds when it may go on: the project runs already
(`noop`), or it is to be started in its service's directory. -/
inductive StartCheck where
  | noop
  | start (project : Project) (serviceDir : String)

/-- `handleProjectStart` up to `resumeProject`. -/
def checkStart (id : String) : Except Response StartCheck :=
  if s.inFlight id then .error (operationInProgress id)
  else
    match s.projects.find? id with
    | none => .error notFound
    | some project =>
      if !project.valid then .error (.error 400 ("project invalid: " ++ project.error))
      else
        match s.services.find? project.serviceId with
        | none => .error (.error 400 "service not found")
        | some service =>
          match project.schedule.type with
          | .manual =>
            if s.running id > 0 then .error (.error 409 "already running")
            else .ok (.start project service.serviceDir)
          | .fixedRate =>
            if (s.running id : Int) ≥ project.schedule.maxConcurrent then
              .error (.error 409 "max concurrent reached")
            else .ok (.start project service.serviceDir)
          | .daemon =>
            if s.running id > 0 then .ok .noop else .ok (.start project service.serviceDir)

variable {validate s} {id : String} {project : Project}

variable {saved : Except String Unit}

/-- A create that is accepted has validated its draft under a free id, and has saved it. -/
theorem checkCreate_accepted {body : Parsed ProjectBody}
    (h : checkCreate validate s body saved = .ok project) :
    ∃ b id draft, body = .ok b ∧ b.id = some id ∧ b.draft = .ok draft ∧
      s.projects.find? id = none ∧
      project = validateProject validate (Project.fromDraft id draft) s.services ∧
      project.valid = true ∧ saved = .ok () := by
  unfold checkCreate at h
  split at h
  · cases h
  · rename_i b
    split at h
    · cases h
    · rename_i id hid
      split_ifs at h with hidValid hex
      split at h
      · cases h
      · rename_i draft hdraft
        dsimp only at h
        split_ifs at h with hvalid
        split at h
        · cases h
        · obtain rfl := Except.ok.inj h
          rw [Bool.not_eq_true, Bool.not_eq_false'] at hvalid
          rw [Bool.not_eq_true, ProjectMap.contains, SortedMap.contains_eq_false] at hex
          exact ⟨b, id, draft, rfl, hid, hdraft, hex, rfl, hvalid, rfl⟩

/-- A created project has the id of the body. -/
theorem checkCreate_ok {body : Parsed ProjectBody}
    (h : checkCreate validate s body saved = .ok project) :
    ∃ b, body = .ok b ∧ b.id = some project.id ∧ s.projects.find? project.id = none := by
  obtain ⟨b, id, draft, hbody, hid, -, hfree, rfl, -⟩ := checkCreate_accepted h
  exact ⟨b, hbody, by simp [hid, Project.fromDraft], by rwa [validateProject_id]⟩

/-- So has an update, of a project that exists and that nothing else works on. -/
theorem checkUpdate_accepted {body : Parsed ProjectBody}
    (h : checkUpdate validate s id body saved = .ok project) :
    ∃ b draft, body = .ok b ∧ b.draft = .ok draft ∧ s.projects.contains id = true ∧
      s.inFlight id = false ∧
      project = validateProject validate (Project.fromDraft id draft) s.services ∧
      project.valid = true ∧ saved = .ok () := by
  unfold checkUpdate at h
  split_ifs at h with hex hfl
  split at h
  · cases h
  · rename_i b
    split_ifs at h
    split at h
    · cases h
    · rename_i draft hdraft
      dsimp only at h
      split_ifs at h with hvalid
      split at h
      · cases h
      · obtain rfl := Except.ok.inj h
        exact ⟨b, draft, rfl, hdraft, by simpa using hex, by simpa using hfl, rfl,
          by simpa using hvalid, rfl⟩

/-- An accepted update keeps the id. -/
theorem checkUpdate_ok {body : Parsed ProjectBody}
    (h : checkUpdate validate s id body saved = .ok project) :
    project.id = id ∧ s.projects.contains id = true ∧ s.inFlight id = false := by
  obtain ⟨_, _, -, -, hthere, hfree, rfl, -⟩ := checkUpdate_accepted h
  exact ⟨by simp [Project.fromDraft], hthere, hfree⟩

theorem checkReload_ok {loaded : Except String ProjectDraft}
    (h : checkReload validate s id loaded = .ok project) :
    project.id = id ∧ s.inFlight id = false ∧ ∃ draft, loaded = .ok draft ∧
      project = validateProject validate (Project.fromDraft id draft) s.services := by
  unfold checkReload at h
  split_ifs at h with hfl
  split at h
  · split_ifs at h
  · rename_i draft
    dsimp only at h
    split_ifs at h with hv
    obtain rfl := Except.ok.inj h
    exact ⟨by simp [Project.fromDraft], by simpa using hfl, draft, rfl, rfl⟩

/-- Enabling and disabling change the one field. -/
theorem checkEnabled_ok {body : Parsed (Option Bool)}
    (h : checkEnabled s id body saved = .ok project) :
    s.inFlight id = false ∧ ∃ p, s.projects.find? id = some p ∧ p.id = id ∧
      project = { p with enabled := project.enabled } := by
  unfold checkEnabled at h
  split at h
  · simp at h
  · rename_i p hp
    split_ifs at h with hfl
    split at h
    · simp at h
    · simp at h
    · split at h
      · simp at h
      · obtain rfl := Except.ok.inj h
        exact ⟨by simpa using hfl, p, hp, ProjectMap.id_of_find? hp, rfl⟩

theorem checkEnabled_id {body : Parsed (Option Bool)}
    (h : checkEnabled s id body saved = .ok project) : project.id = id := by
  obtain ⟨-, p, -, hid, heq⟩ := checkEnabled_ok h
  rw [heq]
  exact hid

/-- A start request that goes on has found a valid project of a known service. -/
theorem checkStart_ok {check : StartCheck} (h : checkStart s id = .ok check) :
    s.inFlight id = false ∧ ∃ p service, s.projects.find? id = some p ∧ p.valid = true ∧
      s.services.find? p.serviceId = some service ∧
      (check = .noop ∧ p.schedule.type = .daemon ∧ 0 < s.running id ∨
        check = .start p service.serviceDir ∧
          (p.schedule.type = .daemon → s.running id = 0)) := by
  by_cases hfl : s.inFlight id = true
  · simp [checkStart, hfl] at h
  cases hp : s.projects.find? id with
  | none => simp [checkStart, hfl, hp] at h
  | some p =>
    by_cases hv : p.valid = true
    · cases hs : s.services.find? p.serviceId with
      | none => simp [checkStart, hfl, hp, hv, hs] at h
      | some service =>
        refine ⟨by simpa using hfl, p, service, rfl, hv, hs, ?_⟩
        cases ht : p.schedule.type with
        | manual =>
          simp only [checkStart, hfl, hp, hv, hs, ht, Bool.false_eq_true, if_false,
            Bool.not_true] at h
          split_ifs at h
          exact Or.inr ⟨(Except.ok.inj h).symm, by simp⟩
        | fixedRate =>
          simp only [checkStart, hfl, hp, hv, hs, ht, Bool.false_eq_true, if_false,
            Bool.not_true] at h
          split_ifs at h
          exact Or.inr ⟨(Except.ok.inj h).symm, by simp⟩
        | daemon =>
          simp only [checkStart, hfl, hp, hv, hs, ht, Bool.false_eq_true, if_false,
            Bool.not_true] at h
          split_ifs at h with hrun
          · exact Or.inl ⟨(Except.ok.inj h).symm, rfl, hrun⟩
          · exact Or.inr ⟨(Except.ok.inj h).symm, fun _ => by omega⟩
    · simp [checkStart, hfl, hp, hv] at h

end Checks

/-! ## §3. Waiting for a project's instances -/

/-- What a waiting request does when `waitProjectFinished` returns `finished`; `storage`
is the answer of the rollback or of the removal, whichever it asks for. -/
def finishPending (op : PendingOp) (finished : Bool) (storage : Except String Unit)
    (spawn : String → SpawnOutcome) : Action ServerManager ServerEvent :=
  let id := op.projectId
  let rolledBack : Response :=
    match storage with
    | .error e => .error 500 ("rollback failed: " ++ e)
    | .ok () => busy id
  match op, finished with
  | .update _, false =>
      Action.seq (startScheduling spawn) (respond .update id fun _ => rolledBack)
  | .update project, true =>
      Action.seq (Action.modify fun s => { s with projects := s.projects.insert project })
        (Action.seq (startScheduling spawn) (respond .update id (projectResponse 200 project)))
  | .delete _, false =>
      Action.seq (startScheduling spawn) (respond .delete id fun _ => busy id)
  | .delete _, true =>
      match storage with
      | .error e =>
          Action.seq (startScheduling spawn) (respond .delete id fun _ => .error 500 e)
      | .ok () =>
          Action.seq (Action.modify fun s => { s with projects := s.projects.remove id })
            (respond .delete id fun _ => .noContent)
  | .reload _, false =>
      Action.seq (startScheduling spawn) (respond .reload id fun _ => busy id)
  | .reload project, true =>
      Action.seq (Action.modify fun s => { s with projects := s.projects.insert project })
        (Action.seq (startScheduling spawn) (respond .reload id (projectResponse 200 project)))
  | .disable _ _, false =>
      Action.seq (startScheduling spawn) (respond .enabled id fun _ => rolledBack)
  | .disable updated _, true =>
      Action.seq (Action.modify fun s => { s with projects := s.projects.insert updated })
        (respond .enabled id (projectResponse 200 updated))

/-- `stopProjectAndWait` and what follows it: at once when no instance is live, else later. -/
def stopProjectAndWait (op : PendingOp) (storage : Except String Unit)
    (spawn : String → SpawnOutcome) : Action ServerManager ServerEvent :=
  Action.seq (stopAndTerminate op.projectId)
    (Action.seq (Action.emit fun _ => .stopping op.projectId)
      (Action.bind fun s =>
        if s.running op.projectId = 0 then finishPending op true storage spawn
        else Action.modify fun s => { s with pending := op :: s.pending }))

/-- The innermost wait returns. -/
def resume (storage : Except String Unit) (spawn : String → SpawnOutcome) :
    Action ServerManager ServerEvent := fun s =>
  match s.pending with
  | [] => (s, [])
  | op :: rest =>
      finishPending op (s.running op.projectId = 0) storage spawn { s with pending := rest }

/-- The map with which a returning wait restarts scheduling, if it does. -/
def restartsOnFinish (op : PendingOp) (projects : ProjectMap) (finished : Bool)
    (storage : Except String Unit) : Option ProjectMap :=
  match op, finished with
  | .update project, true => some (projects.insert project)
  | .reload project, true => some (projects.insert project)
  | .delete _, true => if storage.toBool then none else some projects
  | .disable _ _, true => none
  | _, false => some projects

/-! ## §4. Handlers -/

section Handlers

variable (validate : ConfigValidator)

/-- `handleProjectCreate`. -/
def create (body : Parsed ProjectBody) (saved : Except String Unit)
    (spawn : String → SpawnOutcome) : Action ServerManager ServerEvent := fun s =>
  match checkCreate validate s body saved with
  | .error r =>
      respond .create ((body.toOption.bind ProjectBody.id).getD "") (fun _ => r) s
  | .ok project =>
      Action.seq (Action.modify fun s => { s with projects := s.projects.insert project })
        (Action.seq (startScheduling spawn)
          (respond .create project.id (projectResponse 201 project))) s

/-- `handleProjectUpdate`. -/
def update (id : String) (body : Parsed ProjectBody) (saved storage : Except String Unit)
    (spawn : String → SpawnOutcome) : Action ServerManager ServerEvent := fun s =>
  match checkUpdate validate s id body saved with
  | .error r => respond .update id (fun _ => r) s
  | .ok project => stopProjectAndWait (.update project) storage spawn s

/-- `handleProjectDelete`. -/
def delete (id : String) (storage : Except String Unit) (spawn : String → SpawnOutcome) :
    Action ServerManager ServerEvent := fun s =>
  if !s.projects.contains id then respond .delete id (fun _ => notFound) s
  else if s.inFlight id then respond .delete id (fun _ => operationInProgress id) s
  else stopProjectAndWait (.delete id) storage spawn s

/-- `handleProjectReload`. -/
def reload (id : String) (loaded : Except String ProjectDraft) (spawn : String → SpawnOutcome) :
    Action ServerManager ServerEvent := fun s =>
  match checkReload validate s id loaded with
  | .error r => respond .reload id (fun _ => r) s
  | .ok project => stopProjectAndWait (.reload project) (.ok ()) spawn s

end Handlers

/-- `handleProjectEnabled`. -/
def setEnabled (id : String) (body : Parsed (Option Bool)) (saved storage : Except String Unit)
    (spawn : String → SpawnOutcome) : Action ServerManager ServerEvent := fun s =>
  match checkEnabled s id body saved with
  | .error r => respond .enabled id (fun _ => r) s
  | .ok updated =>
    if he : updated.enabled = true then
      Action.seq (Action.modify fun s => { s with projects := s.projects.insert updated })
        (Action.seq (onScheduler (Scheduler.startProject updated s.services (spawn id)))
          (respond .enabled id (projectResponse 200 updated))) s
    else stopProjectAndWait (.disable updated (Bool.eq_false_of_not_eq_true he)) storage spawn s

/-- The answer to what `InstanceManager::startInstance` returns. -/
def startedResponse : Except String (Nat × InstanceManager) → Response
  | .error e => .error 500 e
  | .ok (instanceId, _) => .started instanceId

/-- `handleProjectStart`. -/
def start (id : String) (outcome : SpawnOutcome) : Action ServerManager ServerEvent := fun s =>
  match checkStart s id with
  | .error r => respond .start id (fun _ => r) s
  | .ok .noop => respond .start id (fun _ => .noop) s
  | .ok (.start project serviceDir) =>
      let started := s.scheduler.manager.startInstance project serviceDir outcome
      Action.seq (onEngine (·.resumeProject id))
        (Action.seq (onScheduler (Scheduler.startInstance project serviceDir outcome))
          (respond .start id fun _ => startedResponse started)) s

/-- `handleProjectStop`. -/
def stop (id : String) : Action ServerManager ServerEvent := fun s =>
  if !s.projects.contains id then respond .stop id (fun _ => notFound) s
  else if s.inFlight id then respond .stop id (fun _ => operationInProgress id) s
  else Action.seq (stopAndTerminate id) (respond .stop id fun _ => .stopped) s

end ServerManager

/-! ## §5. The server as a machine -/

/-- One step of the server: a request, the return of a wait, or something the engine or
the operating system does. -/
inductive ServerOp where
  | create (body : Parsed ProjectBody) (saved : Except String Unit)
      (spawn : String → SpawnOutcome)
  | update (id : String) (body : Parsed ProjectBody) (saved storage : Except String Unit)
      (spawn : String → SpawnOutcome)
  | delete (id : String) (storage : Except String Unit) (spawn : String → SpawnOutcome)
  | reload (id : String) (loaded : Except String ProjectDraft) (spawn : String → SpawnOutcome)
  | setEnabled (id : String) (body : Parsed (Option Bool)) (saved storage : Except String Unit)
      (spawn : String → SpawnOutcome)
  | start (id : String) (outcome : SpawnOutcome)
  | stop (id : String)
  | resume (storage : Except String Unit) (spawn : String → SpawnOutcome)
  | rescanServices (found : ServiceMap)
      (revalidateProjects restartScheduling stopInvalidProjects : Bool)
      (spawn : String → SpawnOutcome)
  | createService (request : ServerManager.ServiceCreateRequest)
      (loaded : Except String ServiceInfo)
  | deleteService (id : String) (force removed : Bool)
  | reloadService (id : String) (loaded : Except String ServiceInfo)
  | fixedRateTick (projectId : String) (outcome : SpawnOutcome)
  | restartFires (timerId : Nat) (outcome : SpawnOutcome)
  | processFinished (instanceId : Nat) (exitCode : Int) (exitStatus : ExitStatus)
  | shutdown

/-- What the step does. -/
def ServerOp.action (validate : ConfigValidator) : ServerOp → Action ServerManager ServerEvent
  | .create body saved spawn => ServerManager.create validate body saved spawn
  | .update id body saved storage spawn => ServerManager.update validate id body saved storage spawn
  | .delete id storage spawn => ServerManager.delete id storage spawn
  | .reload id loaded spawn => ServerManager.reload validate id loaded spawn
  | .setEnabled id body saved storage spawn => ServerManager.setEnabled id body saved storage spawn
  | .start id outcome => ServerManager.start id outcome
  | .stop id => ServerManager.stop id
  | .resume storage spawn => ServerManager.resume storage spawn
  | .rescanServices found revalidate restart stopInvalid spawn =>
      ServerManager.rescanServices validate found revalidate restart stopInvalid spawn
  | .createService request loaded => ServerManager.createService request loaded
  | .deleteService id force removed => ServerManager.deleteService id force removed
  | .reloadService id loaded => ServerManager.reloadService id loaded
  | .fixedRateTick projectId outcome =>
      ServerManager.onScheduler (Scheduler.fixedRateTick projectId outcome)
  | .restartFires timerId outcome =>
      ServerManager.onScheduler (Scheduler.restartFires timerId outcome)
  | .processFinished instanceId exitCode exitStatus =>
      ServerManager.onScheduler (Scheduler.processFinished instanceId exitCode exitStatus)
  | .shutdown => ServerManager.shutdown

/-- **The scheduling restarts.**  The project map this step hands to `startAll`, if it
restarts scheduling. -/
def ServerOp.restartsWith (validate : ConfigValidator) (s : ServerManager) :
    ServerOp → Option ProjectMap
  | .create body saved _ =>
      (ServerManager.checkCreate validate s body saved).toOption.map s.projects.insert
  | .update id body saved storage _ =>
      match ServerManager.checkUpdate validate s id body saved with
      | .error _ => none
      | .ok project =>
          if s.running project.id = 0 then
            ServerManager.restartsOnFinish (.update project) s.projects true storage
          else none
  | .delete id storage _ =>
      if s.projects.contains id && !s.inFlight id && s.running id = 0 then
        ServerManager.restartsOnFinish (.delete id) s.projects true storage
      else none
  | .reload id loaded _ =>
      match ServerManager.checkReload validate s id loaded with
      | .error _ => none
      | .ok project =>
          if s.running project.id = 0 then
            ServerManager.restartsOnFinish (.reload project) s.projects true (.ok ())
          else none
  | .resume storage _ =>
      match s.pending with
      | [] => none
      | op :: _ =>
          ServerManager.restartsOnFinish op s.projects (s.running op.projectId = 0) storage
  | .rescanServices found revalidate restart _ _ =>
      if restart then
        some (if revalidate then ServerManager.revalidated validate found s.projects
          else s.projects)
      else none
  | _ => none

/-- The server as a machine. -/
def serverMachine (validate : ConfigValidator) : Machine ServerManager ServerOp ServerEvent where
  step s op := op.action validate s

@[simp] theorem serverMachine_step (validate : ConfigValidator) (s : ServerManager)
    (op : ServerOp) : (serverMachine validate).step s op = op.action validate s := rfl

/-- The server when it begins to serve: `initialize` has loaded the maps, and
`startScheduling` has been called. -/
def ServerManager.booted (services : ServiceMap) (projects : ProjectMap)
    (spawn : String → SpawnOutcome) : Machine.Config ServerManager ServerEvent :=
  let out := ServerManager.startScheduling spawn { services := services, projects := projects }
  ⟨out.1, out.2⟩

end Stdiolink.Server
