/-
  Stdiolink.Server.ProjectSync — the record in memory beside the files it came from.

  `loadOne` stops at the first stage that fails and leaves the record as far as it got.  The
  server keeps that record: a rescan runs only the last stage on it, and a request that toggles
  the enabled flag writes both files from it.  What the record holds is decided by the stage that
  failed and by the schemas it was validated against since.

  Main results:
    * `InStep.agrees`        — the record has the fields that loading its files gives;
    * `rewritable_iff`       — the load errors that survive rewriting, in terms of the files;
    * `enabled_frame`        — when toggling leaves what the files load as;
    * `rescan_agrees`        — when a rescan does what loading everything again would.
-/
import Stdiolink.Server.ProjectStore
import Stdiolink.Server.ApiRouter

namespace Stdiolink.Server

open Stdiolink.Lib
open Stdiolink.Protocol
open Stdiolink.Protocol.Json
open Stdiolink.Meta
open ProjectManager

section Sync

variable (qt : ValidatorQt) (configSchema : ServiceInfo → ServiceConfigSchema)
variable (projectDir id : String)

/-! ## §1. In step -/

/-- A record of the server's map and the files of its project, by what the server does to them.
In the middle of an update, where the files are new and the record is not, they are not in step. -/
inductive InStep : ProjectFiles → Project → Prop where
  /-- `initialize` and a reload read the files. -/
  | loaded (files : ProjectFiles) : isValidProjectId id = true →
      InStep files (loadOne projectDir id files)
  /-- They validate what they read, and a rescan validates it again. -/
  | validated {files : ProjectFiles} {p : Project} (services : ServiceMap) : InStep files p →
      InStep files (validateProject (configValidator qt configSchema) p services)
  /-- The service of the record is deleted. -/
  | orphaned {files : ProjectFiles} {p : Project} (serviceId : String) : InStep files p →
      InStep files (ServerManager.orphan serviceId p)
  /-- A request body becomes the record and is saved, once it is valid. -/
  | saved {obj : List (String × Json)} {read : Project} (services : ServiceMap) :
      isValidProjectId id = true → Project.fromJson id obj = (read, "") → Sorted read.config.toObject →
      (validateProject (configValidator qt configSchema) read services).valid = true →
      InStep (written (validateProject (configValidator qt configSchema) read services))
        (validateProject (configValidator qt configSchema) read services)
  /-- The files are written from the record: a toggle before it is done, or a rollback. -/
  | written {files : ProjectFiles} {p : Project} (enabled : Bool) : InStep files p →
      InStep (written { p with enabled := enabled }) p
  /-- The flag of the record is set. -/
  | toggled {files : ProjectFiles} {p : Project} (enabled : Bool) : InStep files p →
      InStep files { p with enabled := enabled }

/-- The record has the fields that the load gives, and where that succeeds its parameters. -/
structure Agrees (load p : Project) : Prop where
  id : p.id = load.id
  name : p.name = load.name
  serviceId : p.serviceId = load.serviceId
  schedule : p.schedule = load.schedule
  config : load.error = "" → UpToDefaults configSchema load.config p.config

/-- The fields of a record are as reading left them, and its parameters are an object. -/
structure Readable (p : Project) : Prop extends Project.Reached id p where
  config : ∃ m, p.config = .obj m ∧ Sorted m

variable {qt configSchema projectDir id}
variable {files : ProjectFiles} {p : Project}

/-- The parameters of a readable record, as members. -/
theorem Readable.sorted (h : Readable id p) : Sorted p.config.toObject := by
  obtain ⟨m, hm, hsorted⟩ := h.config
  rw [hm]
  exact hsorted

/-- Validating a readable record fills its parameters, or leaves them. -/
theorem Readable.filledOrSame (h : Readable id p) (qt : ValidatorQt)
    (configSchema : ServiceInfo → ServiceConfigSchema) (services : ServiceMap) :
    (validateProject (configValidator qt configSchema) p services).config = p.config ∨
      Filled configSchema p.config
        (validateProject (configValidator qt configSchema) p services).config :=
  validateProject_config services h.sorted

/-- Validating changes nothing that reading left. -/
theorem Readable.validated (h : Readable id p) (services : ServiceMap) :
    Readable id (validateProject (configValidator qt configSchema) p services) := by
  have hobject : ∃ m, (validateProject (configValidator qt configSchema) p services).config =
      .obj m ∧ Sorted m := by
    obtain hsame | ⟨service, hfilled⟩ := h.filledOrSame qt configSchema services
    · rw [hsame]
      exact h.config
    · exact ⟨_, hfilled, fillDefaults_sorted h.sorted _⟩
  obtain ⟨⟨hid, hservice, hschedule, hread⟩, -⟩ := h
  refine ⟨⟨?_, ?_, ?_, ?_⟩, hobject⟩
  · rw [validateProject_id, hid]
  · rw [validateProject_name, validateProject_serviceId]
    exact hservice
  · rw [validateProject_serviceId, validateProject_schedule]
    exact hschedule
  · rw [validateProject_schedule]
    exact hread

/-- A load leaves a readable record. -/
theorem readable_loadOne (files : ProjectFiles) : Readable id (loadOne projectDir id files) := by
  have h := loadOne_load projectDir id files
  exact ⟨h.toReached, h.config⟩

/-- A request body leaves a readable record. -/
theorem readable_fromJson {obj : List (String × Json)} {read : Project} {error : String}
    (h : Project.fromJson id obj = (read, error)) (hsorted : Sorted read.config.toObject) :
    Readable id read := by
  have hstage := Project.parseProjectJson_stage id obj true
  rw [show Project.parseProjectJson id obj true = (read, error) from h] at hstage
  refine ⟨hstage.toReached, ?_⟩
  have hparameters := Project.parseProjectJson_parameters id obj true
  rw [show Project.parseProjectJson id obj true = (read, error) from h] at hparameters
  obtain hnone | ⟨-, m, hm⟩ := hparameters
  · exact ⟨[], hnone, List.Pairwise.nil⟩
  · refine ⟨m, hm, ?_⟩
    rw [show read.config = .obj m from hm] at hsorted
    exact hsorted

/-- What is written from a readable record agrees with it. -/
theorem Readable.agrees_written (h : Readable id p) :
    Agrees configSchema (loadOne projectDir id (written p)) p := by
  obtain ⟨m, hm, hsorted⟩ := h.config
  rw [loadOne_written projectDir h.toReached hm hsorted]
  refine ⟨rfl, rfl, rfl, rfl, ?_⟩
  intro hnone
  dsimp only at hnone ⊢
  rw [if_pos hnone]
  exact Relation.ReflTransGen.refl

/-- The id of a record is a project id: loading and creating look at it. -/
theorem InStep.validId (h : InStep qt configSchema projectDir id files p) :
    isValidProjectId id = true := by
  induction h with
  | loaded _ hid => exact hid
  | validated _ _ ih => exact ih
  | orphaned _ _ ih => exact ih
  | saved _ hid _ _ _ => exact hid
  | written _ _ ih => exact ih
  | toggled _ _ ih => exact ih

/-- **In step.**  The record is readable, and has the fields that loading its files gives. -/
theorem InStep.agrees (h : InStep qt configSchema projectDir id files p) :
    Readable id p ∧ Agrees configSchema (loadOne projectDir id files) p := by
  induction h with
  | loaded files _ =>
    exact ⟨readable_loadOne files, rfl, rfl, rfl, rfl, fun _ => Relation.ReflTransGen.refl⟩
  | @validated files p services _ ih =>
    obtain ⟨hread, hid, hname, hservice, hschedule, hconfig⟩ := ih
    refine ⟨hread.validated services, ?_, ?_, ?_, ?_, ?_⟩
    · rw [validateProject_id, hid]
    · rw [validateProject_name, hname]
    · rw [validateProject_serviceId, hservice]
    · rw [validateProject_schedule, hschedule]
    · intro hnone
      obtain hsame | hfilled := hread.filledOrSame qt configSchema services
      · rw [hsame]
        exact hconfig hnone
      · exact (hconfig hnone).tail hfilled
  | @orphaned files p serviceId _ ih =>
    unfold ServerManager.orphan
    split_ifs
    · obtain ⟨⟨hreached, hobject⟩, hid, hname, hservice, hschedule, hconfig⟩ := ih
      exact ⟨⟨⟨hreached.id, hreached.serviceId, hreached.schedule, hreached.asRead⟩, hobject⟩,
        hid, hname, hservice, hschedule, hconfig⟩
    · exact ih
  | @saved obj read services _ hparsed hsorted _ =>
    have hread : Readable id (validateProject (configValidator qt configSchema) read services) :=
      (readable_fromJson hparsed hsorted).validated services
    exact ⟨hread, hread.agrees_written⟩
  | @written files p enabled _ ih =>
    obtain ⟨⟨hreached, hobject⟩, -⟩ := ih
    have hread : Readable id { p with enabled := enabled } :=
      ⟨⟨hreached.id, hreached.serviceId, hreached.schedule, hreached.asRead⟩, hobject⟩
    obtain ⟨hid, hname, hservice, hschedule, hconfig⟩ := hread.agrees_written
    exact ⟨⟨hreached, hobject⟩, hid, hname, hservice, hschedule, hconfig⟩
  | @toggled files p enabled _ ih =>
    obtain ⟨⟨hreached, hobject⟩, hid, hname, hservice, hschedule, hconfig⟩ := ih
    exact ⟨⟨⟨hreached.id, hreached.serviceId, hreached.schedule, hreached.asRead⟩, hobject⟩,
      hid, hname, hservice, hschedule, hconfig⟩

/-! ## §2. Toggling -/

/-- The files load as they did, but for the enabled flag; the parameters up to defaults. -/
structure SameLoad (configSchema : ServiceInfo → ServiceConfigSchema) (before after : Project) :
    Prop where
  id : after.id = before.id
  name : after.name = before.name
  serviceId : after.serviceId = before.serviceId
  schedule : after.schedule = before.schedule
  valid : after.valid = before.valid
  error : after.error = before.error
  config : UpToDefaults configSchema before.config after.config

/-- The record file is an object that reads without an error and the parameters are there as an
object or not at all; or it is rejected for an empty name or service, or for a bound of its
schedule. -/
def ProjectFiles.Rewritable (id : String) (files : ProjectFiles) : Prop :=
  ∃ members, files.config = some (.object members) ∧
    ((Project.fromStorageJson id members.entries).2 = "" ∧
        (files.param = none ∨ ∃ params, files.param = some (.object params)) ∨
      (Project.fromStorageJson id members.entries).2 ≠ "" ∧
        ((Project.fromStorageJson id members.entries).2 = "project name cannot be empty" ∨
          (Project.fromStorageJson id members.entries).2 = "project serviceId cannot be empty" ∨
          (Project.fromStorageJson id members.entries).2 =
            (Project.fromStorageJson id members.entries).1.schedule.boundsError))

/-- A record file that is no object leaves the record at its defaults, with a foreign error. -/
theorem error_of_no_object (h : ∀ members, files.config ≠ some (.object members)) :
    (loadOne projectDir id files).error ≠ (loadOne projectDir id files).writtenError := by
  unfold loadOne
  cases hfile : loadJsonObjectFile (projectDir ++ "/config.json") "project config file"
    files.config with
  | error error => exact (loadJsonObjectFile_error (Or.inl rfl) hfile).name
  | ok configObj =>
    unfold loadJsonObjectFile at hfile
    split at hfile
    · cases hfile
    · cases hfile
    · cases hfile
    · cases hfile
    · rename_i members hmembers
      exact absurd hmembers (h members)

/-- **Which load errors survive rewriting**, in terms of the files. -/
theorem rewritable_iff (projectDir id : String) (files : ProjectFiles) :
    files.Rewritable id ↔
      (loadOne projectDir id files).error = (loadOne projectDir id files).writtenError := by
  by_cases hobject : ∃ members, files.config = some (.object members)
  swap
  · rw [not_exists] at hobject
    refine iff_of_false ?_ (error_of_no_object hobject)
    intro h
    obtain ⟨members, hmembers, -⟩ := h
    exact hobject members hmembers
  obtain ⟨members, hmembers⟩ := hobject
  have hstage := Project.parseProjectJson_stage id members.entries false
  rw [show Project.parseProjectJson id members.entries false =
    Project.fromStorageJson id members.entries from rfl] at hstage
  unfold ProjectFiles.Rewritable loadOne
  simp only [hmembers, Option.some.injEq, FileContent.object.injEq, exists_eq_left', loadJsonObjectFile]
  generalize Project.fromStorageJson id members.entries = read at hstage
  obtain ⟨project, parseError⟩ := read
  obtain ⟨-, herror⟩ := hstage
  dsimp only at herror ⊢
  by_cases hparse : parseError = ""
  · -- the record was read, and the parameters decide
    subst hparse
    have hnone : project.writtenError = "" := by
      obtain heq | hforeign := herror
      · exact heq.symm
      · exact absurd rfl hforeign.error
    have hrecord : ∀ config valid error,
        ({ project with config := config, valid := valid, error := error } :
          Project).writtenError = "" := by
      intro _ _ _
      exact hnone
    cases hparam : files.param with
    | none => simp [hrecord]
    | some content =>
      cases content with
      | object params => simp [hrecord]
      | unreadable => simp [hrecord]
      | malformed errorString => simp [hrecord]
      | notObject => simp [hrecord]
  · -- the error of the record decides
    rw [if_pos hparse]
    constructor
    · intro h
      obtain ⟨hread, -⟩ | ⟨-, htext⟩ := h
      · exact absurd hread hparse
      · obtain heq | hforeign := herror
        · exact heq
        · obtain ⟨⟨-, hname, hservice, -⟩, hbounds⟩ := hforeign
          obtain htext | htext | htext := htext
          · exact absurd htext hname
          · exact absurd htext hservice
          · exact absurd htext hbounds
    · intro h
      refine Or.inr ⟨hparse, ?_⟩
      change parseError = project.writtenError at h
      unfold Project.writtenError at h
      split_ifs at h
      · exact Or.inl h
      · exact Or.inr (Or.inl h)
      · exact Or.inr (Or.inr h)

/-- The error of a written record is decided by three of its fields. -/
theorem writtenError_congr {p q : Project} (hname : p.name = q.name)
    (hservice : p.serviceId = q.serviceId) (hschedule : p.schedule = q.schedule) :
    p.writtenError = q.writtenError := by
  unfold Project.writtenError
  rw [hname, hservice, hschedule]

/-- **Rewriting the files of a record.**  They load as they did when the record agrees with them
and their load error is one that a written record has. -/
theorem sameLoad_written_iff (h : Readable id p) (files : ProjectFiles) (enabled : Bool) :
    SameLoad configSchema (loadOne projectDir id files)
        (loadOne projectDir id (written { p with enabled := enabled })) ↔
      Agrees configSchema (loadOne projectDir id files) p ∧ files.Rewritable id := by
  have hload := loadOne_load projectDir id files
  rw [rewritable_iff projectDir id files]
  generalize loadOne projectDir id files = load at hload
  obtain ⟨m, hm, hsorted⟩ := h.config
  have hreached : Project.Reached id { p with enabled := enabled } :=
    ⟨h.id, h.serviceId, h.schedule, h.asRead⟩
  have hwritten : ({ p with enabled := enabled } : Project).writtenError = p.writtenError := rfl
  rw [loadOne_written projectDir hreached hm hsorted, hwritten]
  constructor
  · intro hsame
    obtain ⟨-, hname, hservice, hschedule, -, herror, hconfig⟩ := hsame
    dsimp only at hname hservice hschedule herror hconfig
    refine ⟨⟨h.id.trans hload.id.symm, hname, hservice, hschedule, ?_⟩, ?_⟩
    · intro hnone
      rw [if_pos (herror.trans hnone)] at hconfig
      exact hconfig
    · rw [← herror]
      exact writtenError_congr hname hservice hschedule
  · intro hsame
    obtain ⟨⟨hid, hname, hservice, hschedule, hconfig⟩, herror⟩ := hsame
    have htext : p.writtenError = load.error := by
      rw [herror]
      exact writtenError_congr hname hservice hschedule
    refine ⟨hid, hname, hservice, hschedule, ?_, htext, ?_⟩
    · rw [Bool.eq_iff_iff, decide_eq_true_eq, htext, hload.valid]
    · dsimp only
      by_cases hnone : p.writtenError = ""
      · rw [if_pos hnone]
        exact hconfig (htext.symm.trans hnone)
      · rw [if_neg hnone, hload.failed (htext ▸ hnone)]
        exact Relation.ReflTransGen.refl

/-- **What toggling keeps.**  After a request that toggles the flag of a record the files load as
they did, but for the flag, exactly when they are still those of the record and can be rewritten.
The files that the record came from are those of the record. -/
theorem enabled_frame {held : ProjectFiles} {s : ServerManager} {body : Parsed (Option Bool)}
    {saved : Except String Unit} {updated : Project}
    (hstep : InStep qt configSchema projectDir id held p) (hp : s.projects.find? id = some p)
    (h : s.checkEnabled id body saved = .ok updated) (files : ProjectFiles) :
    (SameLoad configSchema (loadOne projectDir id files)
        (loadOne projectDir id (written updated)) ↔
      Agrees configSchema (loadOne projectDir id files) p ∧ files.Rewritable id) ∧
    (files = held → Agrees configSchema (loadOne projectDir id files) p) := by
  obtain ⟨hread, hagrees⟩ := hstep.agrees
  obtain ⟨-, q, hq, -, hupdated⟩ := ServerManager.checkEnabled_ok h
  obtain rfl := Option.some.inj (hp.symm.trans hq)
  constructor
  · rw [hupdated]
    exact sameLoad_written_iff hread files _
  · intro hfiles
    rw [hfiles]
    exact hagrees

/-! ## §3. Rescanning -/

/-- What a rescan computes of a record. -/
structure SameState (p q : Project) : Prop where
  valid : p.valid = q.valid
  error : p.error = q.error
  config : p.config = q.config

/-- The files load, and the parameters are those of the record, or the service accepts them and
fills both to the same; or they do not, the record has no parameters, and the service rejects that
with the very error of the load. -/
def RescanKeeps (qt : ValidatorQt) (configSchema : ServiceInfo → ServiceConfigSchema)
    (found : ServiceMap) (load p : Project) : Prop :=
  load.error = "" ∧ (p.config = load.config ∨
    ∃ service merged, found.find? load.serviceId = some service ∧
      configValidator qt configSchema service load.config = .ok merged ∧
      fillDefaults p.config.toObject (configSchema service).fields =
        fillDefaults load.config.toObject (configSchema service).fields) ∨
  load.error ≠ "" ∧ p.config = .obj [] ∧
    ∃ service, found.find? load.serviceId = some service ∧
      configValidator qt configSchema service (.obj []) = .error load.error

/-- The validation of a config depends on what it is filled to. -/
theorem configValidator_congr {service : ServiceInfo} {a b : Json} (ha : Sorted a.toObject)
    (hb : Sorted b.toObject)
    (h : fillDefaults a.toObject (configSchema service).fields =
      fillDefaults b.toObject (configSchema service).fields) :
    configValidator qt configSchema service a = configValidator qt configSchema service b := by
  unfold configValidator mergeAndValidate
  rw [deepMerge_empty_base _ ha, deepMerge_empty_base _ hb, h]

/-- The three outcomes of a validation. -/
theorem validateProject_cases (qt : ValidatorQt) (configSchema : ServiceInfo → ServiceConfigSchema)
    (services : ServiceMap) (p : Project) :
    services.find? p.serviceId = none ∧
      validateProject (configValidator qt configSchema) p services =
        { p with valid := false, error := "service not found: " ++ p.serviceId } ∨
    ∃ service, services.find? p.serviceId = some service ∧
      ((∃ error, configValidator qt configSchema service p.config = .error error ∧
          validateProject (configValidator qt configSchema) p services =
            { p with valid := false, error := error }) ∨
        ∃ merged, configValidator qt configSchema service p.config = .ok merged ∧
          validateProject (configValidator qt configSchema) p services =
            { p with config := merged, valid := true, error := "" }) := by
  unfold validateProject
  cases hservice : services.find? p.serviceId with
  | none => exact Or.inl ⟨rfl, rfl⟩
  | some service =>
    refine Or.inr ⟨service, rfl, ?_⟩
    cases hresult : configValidator qt configSchema service p.config with
    | error error => exact Or.inl ⟨error, rfl, by simp only [hresult]⟩
    | ok merged => exact Or.inr ⟨merged, rfl, by simp only [hresult]⟩

/-- **Two records of one service.**  Validating them gives the same when their parameters are the
same, or are accepted and filled to the same. -/
theorem sameState_validated_iff {found : ServiceMap} {p q : Project}
    (hservice : p.serviceId = q.serviceId) (hp : Sorted p.config.toObject)
    (hq : Sorted q.config.toObject) :
    SameState (validateProject (configValidator qt configSchema) p found)
        (validateProject (configValidator qt configSchema) q found) ↔
      p.config = q.config ∨
        ∃ service merged, found.find? q.serviceId = some service ∧
          configValidator qt configSchema service q.config = .ok merged ∧
          fillDefaults p.config.toObject (configSchema service).fields =
            fillDefaults q.config.toObject (configSchema service).fields := by
  constructor
  · intro hsame
    obtain ⟨hvalid, -, hconfig⟩ := hsame
    have hread := validateProject_cases qt configSchema found p
    rw [hservice] at hread
    obtain ⟨hq', hqResult⟩ | ⟨service, hfound, hqResult⟩ :=
      validateProject_cases qt configSchema found q
    · obtain ⟨_, hpResult⟩ | ⟨service, hfound, -⟩ := hread
      · rw [hpResult, hqResult] at hconfig
        exact Or.inl hconfig
      · rw [hq'] at hfound
        cases hfound
    obtain ⟨hnone, -⟩ | ⟨service', hfound', hpResult⟩ := hread
    · rw [hnone] at hfound
      cases hfound
    obtain rfl := Option.some.inj (hfound.symm.trans hfound')
    obtain ⟨_, -, hpResult⟩ | ⟨merged', hpOk, hpResult⟩ := hpResult
    · obtain ⟨_, -, hqResult⟩ | ⟨_, -, hqResult⟩ := hqResult
      · rw [hpResult, hqResult] at hconfig
        exact Or.inl hconfig
      · rw [hpResult, hqResult] at hvalid
        cases hvalid
    · obtain ⟨_, -, hqResult⟩ | ⟨merged, hqOk, hqResult⟩ := hqResult
      · rw [hpResult, hqResult] at hvalid
        cases hvalid
      · rw [hpResult, hqResult] at hconfig
        right
        refine ⟨service, merged, hfound, hqOk, ?_⟩
        have hfilled := (configValidator_ok hp hpOk).symm.trans
          (hconfig.trans (configValidator_ok hq hqOk))
        exact Json.obj.inj hfilled
  · intro h
    unfold validateProject
    rw [hservice]
    obtain hconfig | ⟨service, merged, hfound, hok, hfill⟩ := h
    · rw [hconfig]
      cases found.find? q.serviceId with
      | none => exact ⟨rfl, rfl, rfl⟩
      | some service =>
        dsimp only
        cases configValidator qt configSchema service q.config with
        | error error => exact ⟨rfl, rfl, rfl⟩
        | ok merged => exact ⟨rfl, rfl, rfl⟩
    · rw [hfound]
      dsimp only
      rw [configValidator_congr hp hq hfill, hok]
      exact ⟨rfl, rfl, rfl⟩

/-- No load has the error of a validation for an unknown service. -/
theorem load_error_ne {load : Project} (h : Load id load) (serviceId : String) :
    load.error ≠ "service not found: " ++ serviceId := by
  intro heq
  have hbegins : "service not found: ".toList <+: load.error.toList := by
    rw [heq, String.toList_append]
    exact List.prefix_append _ _
  obtain hwritten | hforeign := h.error
  · rw [hwritten] at hbegins
    unfold Project.writtenError at hbegins
    -- every text that a written record can have begins otherwise
    split_ifs at hbegins
    · exact absurd hbegins (by decide)
    · exact absurd hbegins (by decide)
    · exact Project.boundsError_begins _ hbegins
  · exact hforeign.service hbegins

/-- **A record whose files do not load.**  Validating it gives what the load gave only when the
service rejects a record without parameters, with that error. -/
theorem sameState_failed_iff {found : ServiceMap} {load : Project} (h : Load id load)
    (hfailed : load.error ≠ "") (hservice : p.serviceId = load.serviceId) :
    SameState (validateProject (configValidator qt configSchema) p found) load ↔
      p.config = .obj [] ∧ ∃ service, found.find? load.serviceId = some service ∧
        configValidator qt configSchema service (.obj []) = .error load.error := by
  have hinvalid : load.valid = false := by
    rw [Bool.eq_false_iff]
    intro hvalid
    exact hfailed (h.valid.mp hvalid)
  have hempty := h.failed hfailed
  rw [← hservice]
  constructor
  · intro hsame
    obtain ⟨hvalid, herror, hconfig⟩ := hsame
    obtain ⟨-, hresult⟩ | ⟨service, hfound, ⟨error, hrejected, hresult⟩ | ⟨_, -, hresult⟩⟩ :=
      validateProject_cases qt configSchema found p
    · rw [hresult] at herror
      exact absurd herror.symm (load_error_ne h _)
    · rw [hresult] at hconfig herror
      have hnone : p.config = .obj [] := hconfig.trans hempty
      rw [hnone] at hrejected
      rw [show error = load.error from herror] at hrejected
      exact ⟨hnone, service, hfound, hrejected⟩
    · rw [hresult, hinvalid] at hvalid
      cases hvalid
  · intro hsame
    obtain ⟨hnone, service, hfound, hrejected⟩ := hsame
    unfold validateProject
    rw [hfound]
    dsimp only
    rw [hnone, hrejected]
    exact ⟨hinvalid.symm, rfl, hempty.symm⟩

/-- **What a rescan does.**  It leaves a record that is in step as loading the directory again
would, exactly when `RescanKeeps`. -/
theorem rescan_agrees {projectsDir : String} {store : ProjectStore} {s : ServerManager}
    (hfiles : store.find? id = some files) (hp : s.projects.find? id = some p)
    (hstep : InStep qt configSchema (projectDirPath projectsDir id) id files p)
    (found : ServiceMap) (restartScheduling stopInvalidProjects : Bool)
    (spawn : String → SpawnOutcome) :
    ∃ rescanned reloaded,
      (ServerManager.rescanServices (configValidator qt configSchema) found true
        restartScheduling stopInvalidProjects spawn s).1.projects.find? id = some rescanned ∧
      (loadAll (configValidator qt configSchema) projectsDir found store).find? id =
        some reloaded ∧
      (SameState rescanned reloaded ↔ RescanKeeps qt configSchema found
        (loadOne (projectDirPath projectsDir id) id files) p) := by
  obtain ⟨hread, hagrees⟩ := hstep.agrees
  have hload := loadOne_load (projectDirPath projectsDir id) id files
  have hloadRead : Readable id (loadOne (projectDirPath projectsDir id) id files) :=
    readable_loadOne files
  have hprojects : (ServerManager.rescanServices (configValidator qt configSchema) found true
      restartScheduling stopInvalidProjects spawn s).1.projects =
      ServerManager.revalidated (configValidator qt configSchema) found s.projects := by
    rw [ServerManager.rescanServices_apply]
    cases restartScheduling <;> rfl
  refine ⟨validateProject (configValidator qt configSchema) p found,
    loadEntry (configValidator qt configSchema) projectsDir found id files, ?_, ?_, ?_⟩
  · rw [hprojects, ServerManager.revalidated, ProjectMap.find?_mapProjects, hp]
    rfl
  · rw [find?_loadAll _ _ _ _ hstep.validId, hfiles]
    rfl
  unfold loadEntry RescanKeeps
  dsimp only
  generalize loadOne (projectDirPath projectsDir id) id files = load at hagrees hload hloadRead
  by_cases hnone : load.error = ""
  · -- both validate, each its own record
    rw [if_pos (hload.valid.mpr hnone),
      sameState_validated_iff hagrees.serviceId hread.sorted hloadRead.sorted]
    simp only [hnone, true_and, ne_eq, not_true_eq_false, false_and, or_false]
  · have hinvalid : ¬ load.valid = true := fun h => hnone (hload.valid.mp h)
    rw [if_neg hinvalid]
    simp only [hnone, false_and, ne_eq, not_false_eq_true, true_and, false_or]
    exact sameState_failed_iff hload hnone hagrees.serviceId

end Sync

/-- A record that reads, with a parameter file that does not parse. -/
def halfStored : ProjectFiles where
  config := some (.object (SortedMap.ofEntries [("name", .str "n"), ("serviceId", .str "s")]))
  param := some (.malformed "unterminated object")

/-- The server that has loaded the files. -/
def servedWith (files : ProjectFiles) : ServerManager :=
  { projects := ProjectMap.empty.insert (loadOne "/projects/p" "p" files) }

theorem servedWith_find (files : ProjectFiles) :
    (servedWith files).projects.find? "p" = some (loadOne "/projects/p" "p" files) := by
  unfold servedWith
  rw [ProjectMap.find?_insert, if_pos (loadOne_id "/projects/p" "p" files).symm]

theorem servedWith_checkEnabled (files : ProjectFiles) (enabled : Bool) :
    (servedWith files).checkEnabled "p" (.ok (some enabled)) (.ok ()) =
      .ok { loadOne "/projects/p" "p" files with enabled := enabled } := by
  unfold ServerManager.checkEnabled
  rw [servedWith_find]
  rfl

/-- The same record without a parameter file. -/
def plainStored : ProjectFiles := { halfStored with param := none }

/-- Disabling it leaves what the files load as. -/
theorem plainStored_frame :
    let loaded := loadOne "/projects/p" "p" plainStored
    SameLoad (fun _ => {}) loaded
      (loadOne "/projects/p" "p" (written { loaded with enabled := false })) := by
  intro loaded
  have hstep : InStep plainQt (fun _ => {}) "/projects/p" "p" plainStored loaded :=
    InStep.loaded plainStored (by decide)
  have hframe := enabled_frame hstep (servedWith_find plainStored)
    (servedWith_checkEnabled plainStored false) plainStored
  have hrewritable : plainStored.Rewritable "p" :=
    ⟨_, rfl, .inl ⟨by decide +kernel, .inl rfl⟩⟩
  exact hframe.1.mpr ⟨hframe.2 rfl, hrewritable⟩

/-- **The parameters are lost.**  The record is loaded with the error of its parameter file; it is
disabled, the file is overwritten, and the load has no error. -/
theorem halfStored_overwritten :
    let loaded := loadOne "/projects/p" "p" halfStored
    let updated : Project := { loaded with enabled := false }
    InStep plainQt (fun _ => {}) "/projects/p" "p" halfStored loaded ∧
    (servedWith halfStored).projects.find? "p" = some loaded ∧
    (servedWith halfStored).checkEnabled "p" (.ok (some false)) (.ok ()) = .ok updated ∧
    loaded.error = "project param file parse error: unterminated object" ∧
    (loadOne "/projects/p" "p" (written updated)).error = "" ∧
    ¬ SameLoad (fun _ => {}) loaded (loadOne "/projects/p" "p" (written updated)) := by
  intro loaded updated
  have herror : loaded.error = "project param file parse error: unterminated object" := by
    decide +kernel
  have hnone : (loadOne "/projects/p" "p" (written updated)).error = "" := by
    decide +kernel
  refine ⟨InStep.loaded halfStored (by decide), servedWith_find halfStored,
    servedWith_checkEnabled halfStored false, herror, hnone, ?_⟩
  intro hsame
  have hkept := hsame.error
  rw [herror, hnone] at hkept
  exact absurd hkept (by decide)

/-- The projects directory that holds the files, and the services that a scan finds. -/
def halfStoredDirectory : ProjectStore := SortedMap.empty.insert "p" halfStored

def foundService : ServiceMap := SortedMap.empty.insert "s"
  { id := "s", name := "s", version := "1", serviceDir := "/services/s" }

/-- A rescan leaves the record without a parameter file as loading the directory would. -/
theorem plainStored_rescanned :
    let store : ProjectStore := SortedMap.empty.insert "p" plainStored
    ∃ rescanned reloaded,
      (ServerManager.rescanServices (configValidator plainQt fun _ => {}) foundService true
        false false (fun _ => .running) (servedWith plainStored)).1.projects.find? "p" =
        some rescanned ∧
      (loadAll (configValidator plainQt fun _ => {}) "/projects" foundService store).find? "p" =
        some reloaded ∧ SameState rescanned reloaded := by
  intro store
  have hfiles : store.find? "p" = some plainStored := SortedMap.find?_insert_self _ _ _
  have hp : (servedWith plainStored).projects.find? "p" =
      some (loadOne (projectDirPath "/projects" "p") "p" plainStored) := servedWith_find plainStored
  obtain ⟨rescanned, reloaded, hrescanned, hreloaded, hsame⟩ :=
    rescan_agrees hfiles hp (InStep.loaded plainStored (by decide)) foundService false false
      (fun _ => .running)
  -- the files load, and the record has their parameters
  exact ⟨rescanned, reloaded, hrescanned, hreloaded, hsame.mpr (.inl ⟨by decide +kernel, .inl rfl⟩)⟩

/-- **A record that does not load becomes valid.**  The rescan accepts the parameters that the
record was left with, none, and takes the error of the parameter file away. -/
theorem halfStored_becomes_valid :
    let validate := configValidator plainQt fun _ => {}
    let rescanned := (ServerManager.rescanServices validate foundService true false false
      (fun _ => .running) (servedWith halfStored)).1
    let reloaded := loadAll validate "/projects" foundService halfStoredDirectory
    InStep plainQt (fun _ => {}) (projectDirPath "/projects" "p") "p" halfStored
        (loadOne "/projects/p" "p" halfStored) ∧
      (servedWith halfStored).projects.find? "p" = some (loadOne "/projects/p" "p" halfStored) ∧
      (rescanned.projects.find? "p").map (fun q => (q.valid, q.error)) = some (true, "") ∧
      (reloaded.find? "p").map (fun q => (q.valid, q.error)) =
        some (false, "project param file parse error: unterminated object") := by
  intro validate rescanned reloaded
  refine ⟨InStep.loaded halfStored (by decide), servedWith_find halfStored, ?_, ?_⟩
  · decide +kernel
  · decide +kernel

end Stdiolink.Server
