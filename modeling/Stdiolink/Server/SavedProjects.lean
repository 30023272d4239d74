/-
  Stdiolink.Server.SavedProjects — a project that a request saved, loaded again.

  A create or an update reads its body, validates what it read and writes the result to two
  files.  The next start of the server reads the two files, with other readers, and validates
  again.  What the first validation let through has to get through the second one as it is.

  Main results:
    * `configValidator_again`  — a config that was accepted is accepted again, and kept;
    * `fromJson_accepted`      — what holds of a record that a request accepts;
    * `savedProject_loads`     — loading everything gives the saved project back.
-/
import Stdiolink.Server.ProjectSync
import Stdiolink.Server.SaveProject

namespace Stdiolink.Server

open Stdiolink.Lib
open Stdiolink.Protocol
open Stdiolink.Protocol.Json
open Stdiolink.Meta
open ProjectManager

/-! ## §1. Requests that save -/

/-- What the handlers take from the object of a body, for the project with the id. -/
def projectBody (id : String) (obj : List (String × Json)) : ProjectBody where
  id := if isString (value obj "id") then some (value obj "id").toStr else none
  draft :=
    let (project, parseError) := Project.fromJson id obj
    if parseError ≠ "" then .error parseError
    else .ok {
      name := project.name
      serviceId := project.serviceId
      enabled := project.enabled
      schedule := project.schedule
      config := project.config }

/-- A request whose body is an object. -/
inductive SaveRequest where
  | create (members : List (String × Json))
  | update (id : String) (members : List (String × Json))

namespace SaveRequest

/-- The id of the project: in the body of a create, in the path of an update. -/
def projectId : SaveRequest → String
  | .create members => (value members "id").toStr
  | .update id _ => id

/-- The members of the body. -/
def members : SaveRequest → List (String × Json)
  | .create members => members
  | .update _ members => members

/-- `handleProjectCreate` and `handleProjectUpdate`, up to what `saveProject` returns. -/
def check (validate : ConfigValidator) (s : ServerManager) (saved : Except String Unit)
    (request : SaveRequest) : Except Response Project :=
  let body := projectBody request.projectId request.members
  match request with
  | .create _ => ServerManager.checkCreate validate s (.ok body) saved
  | .update id _ => ServerManager.checkUpdate validate s id (.ok body) saved

end SaveRequest

/-! ## §2. What was accepted -/

section Accepted

variable {qt : ValidatorQt} {configSchema : ServiceInfo → ServiceConfigSchema}

/-- Only the last branch of the validation has a valid result. -/
theorem mergeAndValidate_ok {schema : ServiceConfigSchema}
    {fileConfig cliConfig out m : List (String × Json)} {result : ValidationResult}
    (h : mergeAndValidate qt schema fileConfig cliConfig .reject out = (result, m))
    (hvalid : result.valid = true) : result = ValidationResult.ok := by
  unfold mergeAndValidate at h
  dsimp only at h
  rw [if_pos rfl] at h
  split_ifs at h with hunknown hrejected
  · rw [← (Prod.mk.inj h).1] at hvalid
    rw [hvalid] at hunknown
    cases hunknown
  · rw [← (Prod.mk.inj h).1] at hvalid
    rw [hvalid] at hrejected
    cases hrejected
  · exact (Prod.mk.inj h).1.symm

/-- **A config that was accepted.**  It is an object in order, and accepted again as it is. -/
theorem configValidator_again {service : ServiceInfo} {config merged : Json}
    (h : configValidator qt configSchema service config = .ok merged) :
    ∃ m, merged = .obj m ∧ Sorted m ∧
      configValidator qt configSchema service (.obj m) = .ok (.obj m) := by
  unfold configValidator at h
  generalize hout : mergeAndValidate qt (configSchema service) [] config.toObject .reject [] = out
    at h
  obtain ⟨result, m⟩ := out
  dsimp only at h
  split_ifs at h with hvalid
  rw [Bool.not_eq_true, Bool.not_eq_false'] at hvalid
  obtain rfl := mergeAndValidate_ok hout hvalid
  refine ⟨m, (Except.ok.inj h).symm, (accepted_filled hout).1, ?_⟩
  unfold configValidator
  rw [show (Json.obj m).toObject = m from rfl, accepted_again_cli hout []]
  rfl

/-- What holds of a record that a request accepted: it reads without an error when it is written,
and validating it again changes nothing. -/
structure AcceptedProject (qt : ValidatorQt) (configSchema : ServiceInfo → ServiceConfigSchema)
    (services : ServiceMap) (id : String) (project : Project) : Prop extends
    Readable id project where
  valid : project.valid = true
  noError : project.error = ""
  reads : project.writtenError = ""
  again : validateProject (configValidator qt configSchema) project services = project

variable {id : String}

/-- **A body that a request accepts.** -/
theorem fromJson_accepted {services : ServiceMap} {obj : List (String × Json)} {read : Project}
    (hread : Project.fromJson id obj = (read, ""))
    (hvalid : (validateProject (configValidator qt configSchema) read services).valid = true) :
    AcceptedProject qt configSchema services id
      (validateProject (configValidator qt configSchema) read services) := by
  have hstage := Project.parseProjectJson_stage id obj true
  rw [show Project.parseProjectJson id obj true = (read, "") from hread] at hstage
  obtain ⟨⟨hid, hserviceId, hschedule, hasRead⟩, herror⟩ := hstage
  have hwritten : read.writtenError = "" := by
    obtain heq | hforeign := herror
    · exact heq.symm
    · exact absurd rfl hforeign.error
  obtain ⟨-, hresult⟩ | ⟨service, hfound, ⟨error, -, hresult⟩ | ⟨merged, hok, hresult⟩⟩ :=
    validateProject_cases qt configSchema services read
  · rw [hresult] at hvalid
    cases hvalid
  · rw [hresult] at hvalid
    cases hvalid
  obtain ⟨m, rfl, hsorted, hagain⟩ := configValidator_again hok
  rw [hresult]
  refine ⟨⟨⟨hid, hserviceId, hschedule, hasRead⟩, m, rfl, hsorted⟩, rfl, rfl, hwritten, ?_⟩
  -- the record has the service that it was validated against, and its filled config
  unfold validateProject
  dsimp only
  rw [hfound]
  dsimp only
  rw [hagain]

/-- The files of an accepted record load as the record. -/
theorem AcceptedProject.loadEntry_written {services : ServiceMap} {project : Project}
    (h : AcceptedProject qt configSchema services id project) (projectsDir : String) :
    loadEntry (configValidator qt configSchema) projectsDir services id (written project) =
      project := by
  obtain ⟨m, hm, hsorted⟩ := h.config
  have hservice : project.serviceId ≠ "" := by
    intro hempty
    have hreads := h.reads
    unfold Project.writtenError at hreads
    rw [if_pos hempty] at hreads
    split_ifs at hreads <;> exact absurd hreads (by decide)
  have hload : loadOne (projectDirPath projectsDir id) id (written project) = project := by
    rw [loadOne_written _ h.toReached hm hsorted, h.reads, if_neg hservice, if_pos rfl]
    obtain ⟨-, hvalid, herror, -, -⟩ := h
    cases project
    subst hvalid
    subst herror
    rfl
  unfold loadEntry
  rw [hload]
  dsimp only
  rw [if_pos h.valid, h.again]

/-! ## §3. Saved and loaded -/

/-- A draft that was read is validated as the record that was read. -/
theorem projectBody_draft {members : List (String × Json)} {draft : ProjectDraft}
    (h : (projectBody id members).draft = .ok draft) :
    ∃ read, Project.fromJson id members = (read, "") ∧
      draft = {
        name := read.name
        serviceId := read.serviceId
        enabled := read.enabled
        schedule := read.schedule
        config := read.config } ∧
      ∀ validate services, validateProject validate (Project.fromDraft id draft) services =
        validateProject validate read services := by
  have hstage := Project.parseProjectJson_stage id members true
  rw [show Project.parseProjectJson id members true = Project.fromJson id members from rfl]
    at hstage
  unfold projectBody at h
  dsimp only at h
  generalize Project.fromJson id members = parsed at h hstage
  obtain ⟨read, parseError⟩ := parsed
  have hid : read.id = id := hstage.id
  dsimp only at h
  split_ifs at h with herror
  rw [not_not] at herror
  refine ⟨read, by rw [herror], (Except.ok.inj h).symm, ?_⟩
  intro validate services
  rw [← Except.ok.inj h, ← hid]
  -- the validity is not looked at, it is set
  unfold validateProject Project.fromDraft
  rfl

variable {validate : ConfigValidator} {s : ServerManager} {saved : Except String Unit}
variable {project : Project}

/-- **A request that was accepted and saved.** -/
theorem SaveRequest.accepted {request : SaveRequest}
    (h : request.check validate s saved = .ok project) :
    ∃ read, Project.fromJson request.projectId request.members = (read, "") ∧
      project = validateProject validate read s.services ∧ project.valid = true ∧
      saved = .ok () := by
  have hdraft : ∃ draft, (projectBody request.projectId request.members).draft = .ok draft ∧
      project = validateProject validate (Project.fromDraft request.projectId draft) s.services ∧
      project.valid = true ∧ saved = .ok () := by
    cases request with
    | create members =>
      change ServerManager.checkCreate _ _ (.ok _) _ = _ at h
      obtain ⟨b, id, draft, hb, hid, hdraft, -, hproject, hvalid, hsaved⟩ :=
        ServerManager.checkCreate_accepted h
      obtain rfl := Except.ok.inj hb
      have hbody : (value members "id").toStr = id := by
        unfold projectBody at hid
        dsimp only at hid
        split_ifs at hid
        exact Option.some.inj hid
      refine ⟨draft, hdraft, ?_, hvalid, hsaved⟩
      show project = validateProject validate (Project.fromDraft (value members "id").toStr draft) _
      rw [hbody]
      exact hproject
    | update id members =>
      change ServerManager.checkUpdate _ _ _ (.ok _) _ = _ at h
      obtain ⟨b, draft, hb, hdraft, -, -, hproject, hvalid, hsaved⟩ :=
        ServerManager.checkUpdate_accepted h
      obtain rfl := Except.ok.inj hb
      exact ⟨draft, hdraft, hproject, hvalid, hsaved⟩
  obtain ⟨draft, hdraft, hproject, hvalid, hsaved⟩ := hdraft
  obtain ⟨read, hread, -, hsame⟩ := projectBody_draft hdraft
  rw [hsame] at hproject
  exact ⟨read, hread, hproject, hvalid, hsaved⟩

/-- **Saved projects load back.**  When a create or an update is accepted, and the files are saved,
the next start with the same services gives the project with every field as it was accepted: the
name, the service, the flag and the schedule are those of the body, and the config that was filled
and validated is accepted again. -/
theorem savedProject_loads (s : ServerManager) (request : SaveRequest) (run : SaveRun)
    (projectsDir : String) (disk : ProjectsDisk)
    (haccepted : request.check (configValidator qt configSchema) s
      (saveProject run projectsDir project disk).2 = .ok project) :
    (loadAll (configValidator qt configSchema) projectsDir s.services
        (saveProject run projectsDir project disk).1.store).find? request.projectId =
      some project ∧
    project.valid = true ∧
    ∃ read, Project.fromJson request.projectId request.members = (read, "") ∧
      project.id = request.projectId ∧ project.name = read.name ∧
      project.serviceId = read.serviceId ∧ project.enabled = read.enabled ∧
      project.schedule = read.schedule := by
  obtain ⟨read, hread, hproject, hvalid, hsaved⟩ := SaveRequest.accepted haccepted
  have hrecord : AcceptedProject qt configSchema s.services request.projectId project := by
    rw [hproject]
    apply fromJson_accepted hread
    rw [← hproject]
    exact hvalid
  have hid : project.id = request.projectId := hrecord.id
  refine ⟨?_, hvalid, read, hread, hid, ?_⟩
  · obtain ⟨⟨error, herror⟩, -⟩ | ⟨-, hvalidId, hstore⟩ :=
      saveProject_store run projectsDir project disk
    · rw [hsaved] at herror
      cases herror
    · rw [hid] at hvalidId hstore
      rw [find?_loadAll _ _ _ _ hvalidId, hstore, if_pos rfl, Option.map_some,
        hrecord.loadEntry_written]
  · rw [hproject]
    simp

end Accepted

/-- No step of a save fails. -/
def goodDisk : SaveRun where
  fails _ := false
  unique _ := "aaaaaa"
  uuid := "00000000-0000-0000-0000-000000000000"
  unique_length := fullDisk.unique_length
  uuid_length := fullDisk.uuid_length

/-- A server with one service, and the body of a project for it that ticks. -/
def oneService : ServerManager := { services := SortedMap.empty.insert "s" portService }

def tickingBody : List (String × Json) :=
  [("id", .str "p"), ("name", .str "n"),
    ("schedule", .obj [("intervalMs", .num 500), ("type", .str "fixed_rate")]),
    ("serviceId", .str "s")]

def tickingProject : Project where
  id := "p"
  name := "n"
  serviceId := "s"
  schedule := { type := .fixedRate, intervalMs := 500 }
  config := .obj [("port", .num 80)]

theorem savedProject_loads_ticking :
    (loadAll (configValidator plainQt fun _ => portSchema) "/projects" oneService.services
        (saveProject goodDisk "/projects" tickingProject none).1.store).find? "p" =
      some tickingProject ∧
    tickingProject.valid = true ∧
    ∃ read, Project.fromJson "p" tickingBody = (read, "") ∧
      tickingProject.id = "p" ∧ tickingProject.name = read.name ∧
      tickingProject.serviceId = read.serviceId ∧ tickingProject.enabled = read.enabled ∧
      tickingProject.schedule = read.schedule := by
  have haccepted : SaveRequest.check (configValidator plainQt fun _ => portSchema) oneService
      (saveProject goodDisk "/projects" tickingProject none).2 (.create tickingBody) =
      .ok tickingProject := by
    rfl
  exact savedProject_loads oneService (.create tickingBody) goodDisk "/projects" none haccepted

end Stdiolink.Server
