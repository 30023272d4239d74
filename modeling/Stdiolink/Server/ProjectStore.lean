/-
  Stdiolink.Server.ProjectStore — the projects directory and what the server makes of it,
  `manager/project_manager.cpp`.

  Every project has a directory with `config.json` and `param.json`.  A file is what reading it
  gives: it is absent, cannot be opened, does not parse, or holds some value.  A record in memory
  is in step with its files when it came from them, or they from it, by the operations of the
  server.

  Main results:
    * `loadOne_load`     — how far a load got, and which errors a rewritten file would have again;
    * `loadOne_written`  — what loading the files of a saved record gives;
    * `InStep.agrees`    — a record that is in step has the fields that loading its files gives.
-/
import Stdiolink.Server.ProjectJson
import Stdiolink.Server.ServerManager
import Stdiolink.Meta.ServiceConfig

namespace Stdiolink.Server

open Stdiolink.Lib
open Stdiolink.Protocol
open Stdiolink.Protocol.Json
open Stdiolink.Meta

/-! ## §1. Files and directories -/

/-- What reading a file that is there gives. -/
inductive FileContent where
  | unreadable
  | malformed (errorString : String)
  | notObject
  | object (members : SortedMap String Json)

/-- The files of a project's directory that the manager reads. -/
structure ProjectFiles where
  config : Option FileContent := none
  param : Option FileContent := none

/-- The directories under the projects directory. -/
abbrev ProjectStore := SortedMap String ProjectFiles

/-- `loadJsonObjectFile`. -/
def loadJsonObjectFile (filePath objectLabel : String) (file : Option FileContent) :
    Except String (List (String × Json)) :=
  match file with
  | none => .error ("cannot open " ++ objectLabel ++ ": " ++ filePath)
  | some .unreadable => .error ("cannot open " ++ objectLabel ++ ": " ++ filePath)
  | some (.malformed errorString) => .error (objectLabel ++ " parse error: " ++ errorString)
  | some .notObject => .error (objectLabel ++ " must contain a JSON object")
  | some (.object members) => .ok members.entries

/-- `projectDirPath`. -/
def projectDirPath (projectsDir id : String) : String := projectsDir ++ "/" ++ id

namespace ProjectManager

/-- `ProjectManager::loadOne`. -/
def loadOne (projectDir id : String) (files : ProjectFiles) : Project :=
  match loadJsonObjectFile (projectDir ++ "/config.json") "project config file" files.config with
  | .error error => { id := id, name := "", serviceId := "", valid := false, error := error }
  | .ok configObj =>
    let (project, parseError) := Project.fromStorageJson id configObj
    if parseError ≠ "" then { project with valid := false, error := parseError }
    else if files.param.isSome then
      match loadJsonObjectFile (projectDir ++ "/param.json") "project param file" files.param with
      | .error error => { project with valid := false, error := error }
      | .ok paramsObj => { project with config := .obj paramsObj, valid := true, error := "" }
    else { project with config := .obj [], valid := true, error := "" }

/-- `ProjectManager::loadProject`. -/
def loadProject (projectsDir id : String) (store : ProjectStore) : Except String Project :=
  if !isValidProjectId id then .error ("invalid project id: " ++ id)
  else
    match store.find? id with
    | none => .error ("project not found: " ++ id)
    | some files =>
      let project := loadOne (projectDirPath projectsDir id) id files
      if !project.valid then .error project.error else .ok project

/-- One round of the loop of `loadAll`. -/
def loadEntry (validate : ConfigValidator) (projectsDir : String) (services : ServiceMap)
    (id : String) (files : ProjectFiles) : Project :=
  let project := loadOne (projectDirPath projectsDir id) id files
  if project.valid then validateProject validate project services else project

/-- `ProjectManager::loadAll`; the directories that are no project ids are skipped. -/
def loadAll (validate : ConfigValidator) (projectsDir : String) (services : ServiceMap)
    (store : ProjectStore) : ProjectMap :=
  store.entries.foldl
    (fun result entry =>
      if isValidProjectId entry.1 then
        result.insert (loadEntry validate projectsDir services entry.1 entry.2)
      else result)
    ProjectMap.empty

/-- The files that `saveProject` leaves when it succeeds. -/
def written (project : Project) : ProjectFiles where
  config := some (.object (SortedMap.ofEntries project.toJson))
  param := some (.object (SortedMap.ofEntries project.config.toObject))

end ProjectManager

/-! ## §2. How far a reading gets -/

namespace Project

/-- The error that reading the record back would have. -/
def writtenError (p : Project) : String :=
  if p.name = "" then "project name cannot be empty"
  else if p.serviceId = "" then "project serviceId cannot be empty"
  else p.schedule.boundsError

/-- The text is an error, none of the two about an empty name or service, and not the one that a
validation has for an unknown service. -/
structure OtherText (text : String) : Prop where
  error : text ≠ ""
  name : text ≠ "project name cannot be empty"
  serviceId : text ≠ "project serviceId cannot be empty"
  service : ¬ "service not found: ".toList <+: text.toList

instance (text : String) : Decidable (OtherText text) :=
  decidable_of_iff
    (text ≠ "" ∧ text ≠ "project name cannot be empty" ∧
      text ≠ "project serviceId cannot be empty" ∧ ¬ "service not found: ".toList <+: text.toList)
    ⟨fun h => ⟨h.1, h.2.1, h.2.2.1, h.2.2.2⟩, fun h => ⟨h.error, h.name, h.serviceId, h.service⟩⟩

/-- The error is none that a written record can have. -/
structure ForeignError (text : String) (p : Project) : Prop extends OtherText text where
  bounds : text ≠ p.schedule.boundsError

/-- The fields are read one after another; those that were not reached are at their defaults. -/
structure Reached (id : String) (p : Project) : Prop where
  id : p.id = id
  serviceId : p.name = "" → p.serviceId = ""
  schedule : p.serviceId = "" → p.schedule = {}
  asRead : p.schedule.AsRead

/-- How far the reading of a record got, and what it was rejected for. -/
structure ReadStage (id : String) (p : Project) (text : String) : Prop extends Reached id p where
  error : text = p.writtenError ∨ ForeignError text p

/-- A text that begins with other characters is another text. -/
theorem append_ne {a b c : String} (h : ¬ a.toList <+: c.toList) : a ++ b ≠ c := by
  intro heq
  apply h
  rw [← heq, String.toList_append]
  exact List.prefix_append _ _

variable {text : String}

/-- An error text with its argument. -/
theorem otherText_append {argument : String} (htext : OtherText text)
    (hname : ¬ text.toList <+: "project name cannot be empty".toList)
    (hservice : ¬ text.toList <+: "project serviceId cannot be empty".toList)
    (hunknown : ¬ text.toList <+: "service not found: ".toList) :
    OtherText (text ++ argument) := by
  refine ⟨?_, append_ne hname, append_ne hservice, ?_⟩
  · intro h
    exact htext.error (String.append_eq_empty_iff.mp h).1
  · intro h
    rw [String.toList_append] at h
    -- one of the two beginnings is a beginning of the other
    obtain h | h := List.prefix_or_prefix_of_prefix h (List.prefix_append _ _)
    · exact htext.service h
    · exact hunknown h

/-- Where the bounds hold, every other text is foreign. -/
theorem OtherText.foreign (h : OtherText text) {p : Project} (hbounds : p.schedule.boundsError = "") :
    ForeignError text p := by
  refine ⟨h, ?_⟩
  rw [hbounds]
  exact h.error

/-- What a schedule is rejected for, where it is not for its bounds. -/
theorem otherText_schedule
    (h : text = "schedule.runTimeoutMs must be an integer >= 0" ∨
      ∃ type, text = "unknown schedule type: " ++ type) : OtherText text := by
  obtain rfl | ⟨type, rfl⟩ := h
  · decide
  · exact otherText_append (by decide) (by decide) (by decide) (by decide)

/-- No bound has the text of an unknown service. -/
theorem boundsError_begins (schedule : Schedule) :
    ¬ "service not found: ".toList <+: schedule.boundsError.toList := by
  unfold Schedule.boundsError
  split
  · decide
  · split_ifs <;> decide
  · split_ifs <;> decide

/-- Where the record is complete, the written error is the one of the bounds. -/
theorem writtenError_complete {p : Project} (hname : p.name ≠ "") (hservice : p.serviceId ≠ "") :
    p.writtenError = p.schedule.boundsError := by
  rw [writtenError, if_neg hname, if_neg hservice]

section Stages

variable {id : String} {obj : List (String × Json)} {allow : Bool} {project : Project}

variable {text : String}

/-- The stage of a record with a name and a service. -/
theorem readStage_complete (hid : project.id = id) (hname : project.name ≠ "")
    (hservice : project.serviceId ≠ "") (hread : project.schedule.AsRead)
    (herror : text = project.schedule.boundsError ∨ ForeignError text project) :
    ReadStage id project text := by
  refine ⟨⟨hid, ?_, ?_, hread⟩, ?_⟩
  · intro h
    exact absurd h hname
  · intro h
    exact absurd h hservice
  · rw [writtenError_complete hname hservice]
    exact herror

/-- The stage of a record that has no service yet. -/
theorem readStage_early (hid : project.id = id) (hservice : project.serviceId = "")
    (hdefault : project.schedule = {})
    (herror : text = project.writtenError ∨ ForeignError text project) :
    ReadStage id project text := by
  refine ⟨⟨hid, fun _ => hservice, fun _ => hdefault, ?_⟩, herror⟩
  rw [hdefault]
  exact Schedule.asRead_default

/-- A schedule at its defaults is within its bounds. -/
theorem boundsError_default (h : project.schedule = {}) : project.schedule.boundsError = "" := by
  rw [h]
  rfl

/-- A step that rejects the record leaves it as it was read so far. -/
theorem readStage_rejected (hid : project.id = id) (hname : project.name ≠ "")
    (hservice : project.serviceId ≠ "") (hread : project.schedule.AsRead)
    (hbounds : project.schedule.boundsError = "") (htext : OtherText text) :
    ReadStage id project text :=
  readStage_complete hid hname hservice hread (Or.inr (htext.foreign hbounds))

theorem parseConfig_stage (hid : project.id = id) (hname : project.name ≠ "")
    (hservice : project.serviceId ≠ "") (hread : project.schedule.AsRead)
    (hbounds : project.schedule.boundsError = "") :
    ReadStage id (parseConfig obj allow project).1 (parseConfig obj allow project).2 := by
  have haccepted : ReadStage id project "" :=
    readStage_complete hid hname hservice hread (Or.inl hbounds.symm)
  unfold parseConfig
  split_ifs
  · have htext : OtherText "project field 'config' must be an object" := by decide
    exact readStage_rejected hid hname hservice hread hbounds htext
  · exact readStage_complete hid hname hservice hread (Or.inl hbounds.symm)
  · exact haccepted

theorem parseSchedule_stage (hid : project.id = id) (hname : project.name ≠ "")
    (hservice : project.serviceId ≠ "") (hdefault : project.schedule = {}) :
    ReadStage id (parseSchedule obj allow project).1 (parseSchedule obj allow project).2 := by
  have hread : project.schedule.AsRead := by
    rw [hdefault]
    exact Schedule.asRead_default
  have hbounds := boundsError_default hdefault
  have hstored : ({ project with
      schedule := (Schedule.fromJson (value obj "schedule").toObject).1 } :
      Project).schedule.AsRead := Schedule.fromJson_asRead _
  have herror := Schedule.fromJson_error (value obj "schedule").toObject
  unfold parseSchedule
  dsimp only
  split_ifs with hkey hobject hrejected
  · have htext : OtherText "project field 'schedule' must be an object" := by decide
    exact readStage_rejected hid hname hservice hread hbounds htext
  · -- the record has the schedule as far as it was read
    refine readStage_complete hid hname hservice hstored ?_
    obtain heq | ⟨hnone, htext⟩ := herror
    · exact Or.inl heq
    · exact Or.inr ((otherText_schedule htext).foreign hnone)
  · refine parseConfig_stage hid hname hservice hstored ?_
    rw [not_not] at hrejected
    obtain heq | ⟨hnone, -⟩ := herror
    · exact heq.symm.trans hrejected
    · exact hnone
  · exact parseConfig_stage hid hname hservice hread hbounds

theorem parseEnabled_stage (hid : project.id = id) (hname : project.name ≠ "")
    (hservice : project.serviceId ≠ "") (hdefault : project.schedule = {}) :
    ReadStage id (parseEnabled obj allow project).1 (parseEnabled obj allow project).2 := by
  have hread : project.schedule.AsRead := by
    rw [hdefault]
    exact Schedule.asRead_default
  unfold parseEnabled
  split_ifs
  · have htext : OtherText "project field 'enabled' must be a bool" := by decide
    exact readStage_rejected hid hname hservice hread (boundsError_default hdefault) htext
  · exact parseSchedule_stage hid hname hservice hdefault
  · exact parseSchedule_stage hid hname hservice hdefault

theorem parseServiceId_stage (hid : project.id = id) (hname : project.name ≠ "")
    (hservice : project.serviceId = "") (hdefault : project.schedule = {}) :
    ReadStage id (parseServiceId obj allow project).1 (parseServiceId obj allow project).2 := by
  have hbounds := boundsError_default hdefault
  unfold parseServiceId
  dsimp only
  split_ifs with hstring hempty
  · have htext : OtherText "missing required string field: serviceId" := by decide
    exact readStage_early hid hservice hdefault (Or.inr (htext.foreign hbounds))
  · apply readStage_early hid hservice hdefault
    left
    rw [writtenError, if_neg hname, if_pos hservice]
  · exact parseEnabled_stage hid hname hempty hdefault

theorem parseName_stage (hid : project.id = id) (hname : project.name = "")
    (hservice : project.serviceId = "") (hdefault : project.schedule = {}) :
    ReadStage id (parseName obj allow project).1 (parseName obj allow project).2 := by
  have hbounds := boundsError_default hdefault
  unfold parseName
  dsimp only
  split_ifs with hstring hempty
  · have htext : OtherText "missing required string field: name" := by decide
    exact readStage_early hid hservice hdefault (Or.inr (htext.foreign hbounds))
  · apply readStage_early hid hservice hdefault
    left
    rw [writtenError, if_pos hname]
  · exact parseServiceId_stage hid hempty hservice hdefault

/-- **How far a reading gets.** -/
theorem parseProjectJson_stage (id : String) (obj : List (String × Json)) (allow : Bool) :
    ReadStage id (parseProjectJson id obj allow).1 (parseProjectJson id obj allow).2 := by
  -- whatever is rejected before the name is foreign to a written record
  have hearly : ∀ text, OtherText text →
      ReadStage id ({ id := id, name := "", serviceId := "" } : Project) text := by
    intro text htext
    exact readStage_early rfl rfl rfl (Or.inr (htext.foreign rfl))
  unfold parseProjectJson
  dsimp only
  by_cases hconfig : (!allow && hasKey obj "config") = true
  · rw [if_pos hconfig]
    apply hearly
    show OtherText ("project metadata file must not contain 'config'; " ++
      "move service parameters to param.json")
    decide
  rw [if_neg hconfig]
  cases obj.find? fun member => !(knownFields allow).contains member.1 with
  | some member =>
    exact hearly _ (otherText_append (by decide) (by decide) (by decide) (by decide))
  | none =>
    dsimp only
    split_ifs
    · apply hearly
      show OtherText "project field 'id' must be a string"
      decide
    · rw [String.append_assoc, String.append_assoc]
      exact hearly _ (otherText_append (by decide) (by decide) (by decide) (by decide))
    · exact parseName_stage rfl rfl rfl rfl

end Stages

/-- Where a reading takes the parameters from: the record itself, or an object of the body. -/
def ParametersFrom (allow : Bool) (project read : Project) : Prop :=
  read.config = project.config ∨ allow = true ∧ ∃ m, read.config = .obj m

variable (obj : List (String × Json)) (allow : Bool) (project : Project)

theorem parseConfig_parameters :
    ParametersFrom allow project (parseConfig obj allow project).1 := by
  unfold parseConfig
  split_ifs with hkey hobject
  · exact Or.inl rfl
  · right
    rw [Bool.and_eq_true] at hkey
    rw [Bool.not_eq_true, Bool.not_eq_false'] at hobject
    refine ⟨hkey.1, ?_⟩
    dsimp only
    cases hvalue : value obj "config" with
    | obj m => exact ⟨m, rfl⟩
    | _ =>
      rw [hvalue] at hobject
      cases hobject
  · exact Or.inl rfl

theorem parseSchedule_parameters :
    ParametersFrom allow project (parseSchedule obj allow project).1 := by
  unfold parseSchedule
  dsimp only
  split_ifs
  · exact Or.inl rfl
  · exact Or.inl rfl
  · exact parseConfig_parameters obj allow _
  · exact parseConfig_parameters obj allow _

theorem parseEnabled_parameters :
    ParametersFrom allow project (parseEnabled obj allow project).1 := by
  unfold parseEnabled
  split_ifs
  · exact Or.inl rfl
  · exact parseSchedule_parameters obj allow _
  · exact parseSchedule_parameters obj allow _

theorem parseName_parameters : ParametersFrom allow project (parseName obj allow project).1 := by
  unfold parseName parseServiceId
  dsimp only
  split_ifs
  · exact Or.inl rfl
  · exact Or.inl rfl
  · exact Or.inl rfl
  · exact Or.inl rfl
  · exact parseEnabled_parameters obj allow _

/-- The parameters of a record that was read: none, or an object of its body. -/
theorem parseProjectJson_parameters (id : String) (obj : List (String × Json)) (allow : Bool) :
    (parseProjectJson id obj allow).1.config = .obj [] ∨
      allow = true ∧ ∃ m, (parseProjectJson id obj allow).1.config = .obj m := by
  unfold parseProjectJson
  dsimp only
  by_cases hconfig : (!allow && hasKey obj "config") = true
  · rw [if_pos hconfig]
    exact Or.inl rfl
  rw [if_neg hconfig]
  cases obj.find? fun member => !(knownFields allow).contains member.1 with
  | some member => exact Or.inl rfl
  | none =>
    dsimp only
    split_ifs
    · exact Or.inl rfl
    · exact Or.inl rfl
    · exact parseName_parameters obj allow _

/-- Reading a stored record reads no parameters. -/
theorem fromStorageJson_config (id : String) (obj : List (String × Json)) :
    (fromStorageJson id obj).1.config = .obj [] := by
  obtain h | ⟨hallow, -⟩ := parseProjectJson_parameters id obj false
  · exact h
  · cases hallow

end Project

/-! ## §3. What a load gives -/

namespace ProjectManager

open Project

/-- What holds of every record that a load gives. -/
structure Load (id : String) (p : Project) : Prop extends Reached id p where
  valid : p.valid = true ↔ p.error = ""
  error : p.error = p.writtenError ∨ ForeignError p.error p
  config : ∃ m, p.config = .obj m ∧ Sorted m
  failed : p.error ≠ "" → p.config = .obj []

/-- The errors of a file are none that a record can have. -/
theorem loadJsonObjectFile_error {filePath label error : String} {file : Option FileContent}
    (hlabel : label = "project config file" ∨ label = "project param file")
    (h : loadJsonObjectFile filePath label file = .error error) : OtherText error := by
  unfold loadJsonObjectFile at h
  obtain rfl | rfl := hlabel
  all_goals
    split at h
    · obtain rfl := Except.error.inj h
      rw [String.append_assoc, String.append_assoc]
      exact otherText_append (by decide) (by decide) (by decide) (by decide)
    · obtain rfl := Except.error.inj h
      rw [String.append_assoc, String.append_assoc]
      exact otherText_append (by decide) (by decide) (by decide) (by decide)
    · obtain rfl := Except.error.inj h
      rw [String.append_assoc]
      exact otherText_append (by decide) (by decide) (by decide) (by decide)
    · obtain rfl := Except.error.inj h
      decide
    · cases h

theorem loadJsonObjectFile_ok {filePath label : String} {file : Option FileContent}
    {obj : List (String × Json)} (h : loadJsonObjectFile filePath label file = .ok obj) :
    Sorted obj := by
  unfold loadJsonObjectFile at h
  split at h
  · cases h
  · cases h
  · cases h
  · cases h
  · obtain rfl := Except.ok.inj h
    exact SortedMap.sorted _

/-- A record that reads without an error is within its bounds. -/
theorem boundsError_of_written {p : Project} (h : p.writtenError = "") :
    p.schedule.boundsError = "" := by
  unfold writtenError at h
  split_ifs at h
  · exact absurd h (by decide)
  · exact absurd h (by decide)
  · exact h

variable (projectDir id : String) (files : ProjectFiles)

/-- **What a load gives.** -/
theorem loadOne_load : Load id (loadOne projectDir id files) := by
  unfold loadOne
  split
  · -- the record is at its defaults
    rename_i error herror
    have htext := loadJsonObjectFile_error (Or.inl rfl) herror
    have hreached : Reached id { id := id, name := "", serviceId := "" } :=
      ⟨rfl, fun _ => rfl, fun _ => rfl, Schedule.asRead_default⟩
    refine ⟨⟨hreached.id, hreached.serviceId, hreached.schedule, hreached.asRead⟩, ?_,
      Or.inr (htext.foreign rfl), ⟨[], rfl, List.Pairwise.nil⟩, fun _ => rfl⟩
    exact iff_of_false Bool.false_ne_true htext.error
  · rename_i configObj hconfig
    have hstage := parseProjectJson_stage id configObj false
    have hempty := fromStorageJson_config id configObj
    rw [show parseProjectJson id configObj false = fromStorageJson id configObj from rfl] at hstage
    generalize fromStorageJson id configObj = read at hstage hempty
    obtain ⟨project, parseError⟩ := read
    obtain ⟨⟨hid, hservice, hschedule, hread⟩, herror⟩ := hstage
    dsimp only at hempty herror hid hservice hschedule hread ⊢
    split_ifs with hparse hparam
    · -- the record was rejected
      refine ⟨⟨hid, hservice, hschedule, hread⟩, iff_of_false Bool.false_ne_true hparse, ?_,
        ⟨[], hempty, List.Pairwise.nil⟩, fun _ => hempty⟩
      obtain heq | hforeign := herror
      · exact Or.inl heq
      · exact Or.inr ⟨hforeign.toOtherText, hforeign.bounds⟩
    · rw [not_not] at hparse
      have hwritten : project.writtenError = "" := by
        obtain heq | hforeign := herror
        · exact heq.symm.trans hparse
        · exact absurd hparse hforeign.error
      split
      · rename_i error hfile
        have htext := loadJsonObjectFile_error (Or.inr rfl) hfile
        refine ⟨⟨hid, hservice, hschedule, hread⟩, ?_,
          Or.inr (htext.foreign (boundsError_of_written hwritten)),
          ⟨[], hempty, List.Pairwise.nil⟩, fun _ => hempty⟩
        exact iff_of_false Bool.false_ne_true htext.error
      · rename_i paramsObj hfile
        exact ⟨⟨hid, hservice, hschedule, hread⟩, iff_of_true rfl rfl, Or.inl hwritten.symm,
          ⟨paramsObj, rfl, loadJsonObjectFile_ok hfile⟩, fun h => absurd rfl h⟩
    · rw [not_not] at hparse
      have hwritten : project.writtenError = "" := by
        obtain heq | hforeign := herror
        · exact heq.symm.trans hparse
        · exact absurd hparse hforeign.error
      exact ⟨⟨hid, hservice, hschedule, hread⟩, iff_of_true rfl rfl, Or.inl hwritten.symm,
        ⟨[], rfl, List.Pairwise.nil⟩, fun h => absurd rfl h⟩

/-- **The files of a saved record.**  Loading them gives its fields, as far as reading gets, and
the error that it stops with. -/
theorem loadOne_written {id : String} {p : Project} (h : Reached id p) {m : List (String × Json)}
    (hconfig : p.config = .obj m) (hsorted : Sorted m) :
    loadOne projectDir id (written p) =
      { p with
        enabled := if p.serviceId = "" then true else p.enabled
        config := if p.writtenError = "" then p.config else .obj []
        valid := p.writtenError = ""
        error := p.writtenError } := by
  have hjson : (SortedMap.ofEntries p.toJson).entries = p.toJson :=
    SortedMap.entries_ofEntries (sorted_record _)
  have hparams : (SortedMap.ofEntries p.config.toObject).entries = m := by
    rw [hconfig]
    exact SortedMap.entries_ofEntries hsorted
  have hread := fromStorageJson_written p
  rw [Schedule.fromJson_toJson h.asRead] at hread
  obtain ⟨pid, name, serviceId, enabled, schedule, config, valid, error⟩ := p
  obtain ⟨rfl, hservice, hschedule, -⟩ := h
  dsimp only at hservice hschedule hconfig hparams hread ⊢
  subst hconfig
  unfold loadOne written
  simp only [loadJsonObjectFile, hjson, hparams, hread, Option.isSome_some]
  unfold writtenError
  by_cases hname : name = ""
  · subst hname
    obtain rfl := hservice rfl
    obtain rfl := hschedule rfl
    simp
  · by_cases hempty : serviceId = ""
    · subst hempty
      obtain rfl := hschedule rfl
      simp [hname]
    · by_cases hbounds : schedule.boundsError = ""
      · simp [hname, hempty, hbounds]
      · simp [hname, hempty, hbounds]

theorem loadOne_id : (loadOne projectDir id files).id = id := (loadOne_load projectDir id files).id

theorem loadEntry_id (validate : ConfigValidator) (projectsDir : String) (services : ServiceMap)
    (id : String) (files : ProjectFiles) :
    (loadEntry validate projectsDir services id files).id = id := by
  unfold loadEntry
  dsimp only
  split_ifs
  · rw [validateProject_id, loadOne_id]
  · exact loadOne_id _ _ _

/-- **The map of `loadAll`**: every directory with a project id is loaded, and nothing else. -/
theorem find?_loadAll (validate : ConfigValidator) (projectsDir : String) (services : ServiceMap)
    (store : ProjectStore) {id : String} (hid : isValidProjectId id = true) :
    (loadAll validate projectsDir services store).find? id =
      (store.find? id).map (loadEntry validate projectsDir services id) := by
  -- the listing has one entry for the id, and it decides whatever is in the map so far
  have hfold : ∀ (entries : List (String × ProjectFiles)) (result : ProjectMap),
      entries.Pairwise (fun a b => a.1 < b.1) →
      (entries.foldl
        (fun result entry =>
          if isValidProjectId entry.1 then
            result.insert (loadEntry validate projectsDir services entry.1 entry.2)
          else result) result).find? id =
        ((SortedMap.lookup id entries).map (loadEntry validate projectsDir services id)).or
          (result.find? id) := by
    intro entries
    induction entries with
    | nil =>
      intro result _
      rfl
    | cons entry rest ih =>
      intro result hsorted
      obtain ⟨key, files⟩ := entry
      obtain ⟨hfirst, hrest⟩ := List.pairwise_cons.mp hsorted
      rw [List.foldl_cons, ih _ hrest]
      by_cases hkey : id = key
      · subst hkey
        have hnone : SortedMap.lookup id rest = none := by
          rw [Option.eq_none_iff_forall_ne_some]
          intro other hother
          exact lt_irrefl id (hfirst _ (SortedMap.mem_of_lookup_eq_some hother))
        rw [hnone, SortedMap.lookup, if_pos rfl, if_pos hid, ProjectMap.find?_insert,
          if_pos (loadEntry_id _ _ _ _ _).symm]
        rfl
      · rw [SortedMap.lookup, if_neg hkey]
        congr 1
        split_ifs
        · rw [ProjectMap.find?_insert, loadEntry_id, if_neg hkey]
        · rfl
  have hlisting := hfold store.entries ProjectMap.empty store.sorted
  rw [ProjectMap.find?_empty, Option.or_none] at hlisting
  exact hlisting

end ProjectManager

/-! ## §4. Parameters up to defaults -/

section Defaults

variable (configSchema : ServiceInfo → ServiceConfigSchema)

/-- The second config is the first one, filled from a service's schema. -/
def Filled (a b : Json) : Prop :=
  ∃ service, b = .obj (fillDefaults a.toObject (configSchema service).fields)

/-- Filled any number of times, from whatever schemas there were. -/
def UpToDefaults : Json → Json → Prop := Relation.ReflTransGen (Filled configSchema)

variable {configSchema} {qt : ValidatorQt}

/-- What the validator accepts is the config, filled. -/
theorem configValidator_ok {service : ServiceInfo} {config merged : Json}
    (hsorted : Sorted config.toObject)
    (h : configValidator qt configSchema service config = .ok merged) :
    merged = .obj (fillDefaults config.toObject (configSchema service).fields) := by
  unfold configValidator at h
  dsimp only at h
  split_ifs at h with hvalid
  rw [← Except.ok.inj h]
  rw [Bool.not_eq_true, Bool.not_eq_false'] at hvalid
  unfold mergeAndValidate at hvalid ⊢
  rw [deepMerge_empty_base _ hsorted] at hvalid ⊢
  dsimp only at hvalid ⊢
  rw [if_pos rfl] at hvalid ⊢
  split_ifs at hvalid ⊢ with hunknown hrejected
  · change (rejectUnknownFields _ _ _).valid = true at hvalid
    rw [hvalid] at hunknown
    cases hunknown
  · change (validate _ _ _).valid = true at hvalid
    rw [hvalid] at hrejected
    cases hrejected
  · rfl

/-- Validating a record fills its parameters, or leaves them. -/
theorem validateProject_config (services : ServiceMap) {p : Project}
    (hsorted : Sorted p.config.toObject) :
    (validateProject (configValidator qt configSchema) p services).config = p.config ∨
      Filled configSchema p.config
        (validateProject (configValidator qt configSchema) p services).config := by
  unfold validateProject
  split
  · exact Or.inl rfl
  · rename_i service _
    split
    · exact Or.inl rfl
    · rename_i merged hmerged
      exact Or.inr ⟨service, configValidator_ok hsorted hmerged⟩

end Defaults

end Stdiolink.Server
