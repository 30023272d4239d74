/-
  Stdiolink.Server.Rollback — a record that is written over the files it was loaded from.

  A request that gives up after its save writes the record in memory back.  Where loading the
  files and validating the result had given that record, the question is whether the new files
  give it again.

  Main results:
    * `loadOne_rewritten`   — what a load gives once its own record was written;
    * `rollback_loads_iff`  — when the record is loaded and validated as it was.
-/
import Stdiolink.Server.SavedProjects

namespace Stdiolink.Server

open Stdiolink.Lib
open Stdiolink.Protocol
open Stdiolink.Protocol.Json
open Stdiolink.Meta
open ProjectManager

/-! ## §1. The flag of a record that was not read to its end -/

namespace Project

section Enabled

variable (obj : List (String × Json)) (allow : Bool) (project : Project)

theorem parseSchedule_serviceId :
    (parseSchedule obj allow project).1.serviceId = project.serviceId := by
  have hconfig : ∀ q : Project, (parseConfig obj allow q).1.serviceId = q.serviceId := by
    intro q
    unfold parseConfig
    split_ifs <;> rfl
  unfold parseSchedule
  dsimp only
  split_ifs
  · rfl
  · rfl
  · exact hconfig _
  · exact hconfig _

theorem parseEnabled_serviceId :
    (parseEnabled obj allow project).1.serviceId = project.serviceId := by
  unfold parseEnabled
  split_ifs
  · rfl
  · exact parseSchedule_serviceId obj allow _
  · exact parseSchedule_serviceId obj allow _

/-- The flag is read after the service: without a service it is at its default. -/
theorem parseName_enabled (henabled : project.enabled = true)
    (h : (parseName obj allow project).1.serviceId = "") :
    (parseName obj allow project).1.enabled = true := by
  unfold parseName parseServiceId at h ⊢
  dsimp only at h ⊢
  split_ifs at h ⊢ with hname hempty hservice hnone
  · exact henabled
  · exact henabled
  · exact henabled
  · exact henabled
  · rw [parseEnabled_serviceId] at h
    exact absurd h hnone

theorem parseProjectJson_enabled (id : String)
    (h : (parseProjectJson id obj allow).1.serviceId = "") :
    (parseProjectJson id obj allow).1.enabled = true := by
  unfold parseProjectJson at h ⊢
  dsimp only at h ⊢
  by_cases hconfig : (!allow && hasKey obj "config") = true
  · rw [if_pos hconfig]
  rw [if_neg hconfig] at h ⊢
  cases hfind : obj.find? fun member => !(knownFields allow).contains member.1 with
  | some member => rfl
  | none =>
    rw [hfind] at h
    dsimp only at h ⊢
    split_ifs at h ⊢
    · rfl
    · rfl
    · exact parseName_enabled obj allow _ rfl h

end Enabled

end Project

/-- A loaded record without a service has its flag at the default. -/
theorem loadOne_enabled {projectDir id : String} {files : ProjectFiles}
    (h : (loadOne projectDir id files).serviceId = "") :
    (loadOne projectDir id files).enabled = true := by
  unfold loadOne at h ⊢
  split at h
  · rfl
  · rename_i configObj _
    have henabled := Project.parseProjectJson_enabled configObj false id
    rw [show Project.parseProjectJson id configObj false = Project.fromStorageJson id configObj
      from rfl] at henabled
    generalize Project.fromStorageJson id configObj = read at h henabled
    obtain ⟨project, parseError⟩ := read
    dsimp only at h henabled ⊢
    split_ifs at h ⊢
    · exact henabled h
    · split at h
      · exact henabled h
      · exact henabled h
    · exact henabled h

/-! ## §2. Written over its own files -/

section Rewritten

variable {qt : ValidatorQt} {configSchema : ServiceInfo → ServiceConfigSchema}
variable {services : ServiceMap} {projectsDir id : String} {files : ProjectFiles} {load : Project}

/-- The fields of a loaded record, with another validity and other parameters, are written and
read back; the error is that of the reading. -/
theorem loadOne_rewritten (projectDir : String) (hload : Load id load) (valid : Bool)
    (error : String) {m : List (String × Json)} (hsorted : Sorted m) :
    loadOne projectDir id
        (written { load with config := .obj m, valid := valid, error := error }) =
      { load with
        enabled := if load.serviceId = "" then true else load.enabled
        config := if load.writtenError = "" then .obj m else .obj []
        valid := load.writtenError = ""
        error := load.writtenError } := by
  have hreached : Project.Reached id
      { load with config := .obj m, valid := valid, error := error } :=
    ⟨hload.id, hload.serviceId, hload.schedule, hload.asRead⟩
  rw [loadOne_written projectDir hreached rfl hsorted]
  rfl

/-- Where the load had no error, writing and loading takes the validation back. -/
theorem loadOne_rewritten_valid (projectDir : String) (hload : Load id load)
    (hnone : load.error = "") (valid : Bool) (error : String) {m : List (String × Json)}
    (hsorted : Sorted m) :
    loadOne projectDir id
        (written { load with config := .obj m, valid := valid, error := error }) =
      { load with config := .obj m } := by
  have hwritten : load.writtenError = "" := by
    obtain heq | hforeign := hload.error
    · rw [← heq, hnone]
    · exact absurd hnone hforeign.error
  have hservice : load.serviceId ≠ "" := by
    intro hempty
    unfold Project.writtenError at hwritten
    rw [if_pos hempty] at hwritten
    split_ifs at hwritten <;> exact absurd hwritten (by decide)
  have hvalid : load.valid = true := hload.valid.mpr hnone
  rw [loadOne_rewritten projectDir hload valid error hsorted, if_neg hservice, if_pos hwritten, hwritten]
  obtain ⟨_, _, _, _, _, _, _, _⟩ := load
  dsimp only at hnone hvalid
  rw [hnone, hvalid]
  rfl

/-- **The record of a load without an error.**  Validated, written over its files and loaded
again, it is validated to itself, whatever the validation says. -/
theorem rewritten_valid (hload : Load id load) (hnone : load.error = "") :
    loadEntry (configValidator qt configSchema) projectsDir services id
        (written (validateProject (configValidator qt configSchema) load services)) =
      validateProject (configValidator qt configSchema) load services := by
  obtain ⟨m, hm, hsorted⟩ := hload.config
  have hvalid : load.valid = true := hload.valid.mpr hnone
  have hsame : { load with config := .obj m } = load := by
    rw [← hm]
  have hwith : ∀ valid error, loadEntry (configValidator qt configSchema) projectsDir services id
      (written { load with valid := valid, error := error }) =
      validateProject (configValidator qt configSchema) load services := by
    intro valid error
    have hrewritten := loadOne_rewritten_valid (projectDirPath projectsDir id) hload hnone valid
      error hsorted
    rw [hsame, ← hm] at hrewritten
    unfold loadEntry
    rw [hrewritten]
    dsimp only
    rw [if_pos hvalid]
  obtain ⟨-, hresult⟩ | ⟨service, hfound, ⟨error, -, hresult⟩ | ⟨merged, hok, hresult⟩⟩ :=
    validateProject_cases qt configSchema services load
  · rw [hresult, hwith, hresult]
  · rw [hresult, hwith, hresult]
  · -- the filled parameters are accepted as they are
    obtain ⟨m', rfl, hsorted', hagain⟩ := configValidator_again hok
    rw [hresult]
    unfold loadEntry
    rw [loadOne_rewritten_valid _ hload hnone true "" hsorted']
    dsimp only
    rw [if_pos hvalid]
    unfold validateProject
    dsimp only
    rw [hfound]
    dsimp only
    rw [hagain]

/-- The service rejects a record without parameters, with the error that the load had. -/
def RejectsAlike (qt : ValidatorQt) (configSchema : ServiceInfo → ServiceConfigSchema)
    (services : ServiceMap) (load : Project) : Prop :=
  load.error ≠ "" ∧ load.writtenError = "" ∧
    ∃ service, services.find? load.serviceId = some service ∧
      configValidator qt configSchema service (.obj []) = .error load.error

/-- What loading gives once a record that did not load was written. -/
theorem loadOne_rewritten_failed (projectDir : String) (hload : Load id load)
    (hfailed : load.error ≠ "") (henabled : load.serviceId = "" → load.enabled = true) :
    loadOne projectDir id (written load) =
      { load with valid := load.writtenError = "", error := load.writtenError } := by
  have hempty := hload.failed hfailed
  have hflag : (if load.serviceId = "" then true else load.enabled) = load.enabled := by
    split_ifs with hservice
    · exact (henabled hservice).symm
    · rfl
  have hsame : { load with config := .obj [], valid := load.valid, error := load.error } =
      load := by
    rw [← hempty]
  have hrewritten := loadOne_rewritten projectDir hload load.valid load.error List.Pairwise.nil
  rw [hsame, hflag, ite_self, ← hempty] at hrewritten
  exact hrewritten

/-- **The record of a load with an error.**  It is loaded and validated as it was if the new files
have the same error, or load and are rejected with it. -/
theorem rewritten_failed_iff (hload : Load id load) (hfailed : load.error ≠ "")
    (henabled : load.serviceId = "" → load.enabled = true) :
    loadEntry (configValidator qt configSchema) projectsDir services id (written load) = load ↔
      load.error = load.writtenError ∨ RejectsAlike qt configSchema services load := by
  have hinvalid : load.valid = false := by
    rw [Bool.eq_false_iff]
    intro hvalid
    exact hfailed (hload.valid.mp hvalid)
  have hempty := hload.failed hfailed
  unfold loadEntry
  rw [loadOne_rewritten_failed _ hload hfailed henabled]
  dsimp only
  by_cases hwritten : load.writtenError = ""
  · -- the new files load, and the validation decides
    rw [if_pos (decide_eq_true hwritten)]
    have hother : load.error ≠ load.writtenError := by
      rw [hwritten]
      exact hfailed
    obtain ⟨hnone, hresult⟩ | ⟨service, hfound, ⟨error, hrejected, hresult⟩ | ⟨_, hok, hresult⟩⟩ :=
      validateProject_cases qt configSchema services
        { load with valid := load.writtenError = "", error := load.writtenError }
    · rw [hresult]
      dsimp only at hnone
      refine iff_of_false ?_ ?_
      · intro heq
        exact load_error_ne hload load.serviceId (congrArg Project.error heq).symm
      · intro h
        obtain h | ⟨-, -, service, hfound, -⟩ := h
        · exact hother h
        · rw [hnone] at hfound
          cases hfound
    · rw [hresult]
      dsimp only at hfound hrejected
      rw [hempty] at hrejected
      constructor
      · intro heq
        rw [show error = load.error from congrArg Project.error heq] at hrejected
        exact Or.inr ⟨hfailed, hwritten, service, hfound, hrejected⟩
      · intro h
        obtain h | ⟨-, -, service', hfound', hrejected'⟩ := h
        · exact absurd h hother
        · obtain rfl := Option.some.inj (hfound.symm.trans hfound')
          rw [Except.error.inj (hrejected.symm.trans hrejected'), ← hinvalid]
    · rw [hresult]
      dsimp only at hfound hok
      rw [hempty] at hok
      refine iff_of_false ?_ ?_
      · intro heq
        rw [← congrArg Project.valid heq] at hinvalid
        cases hinvalid
      · intro h
        obtain h | ⟨-, -, service', hfound', hrejected⟩ := h
        · exact hother h
        · obtain rfl := Option.some.inj (hfound.symm.trans hfound')
          rw [hok] at hrejected
          cases hrejected
  · -- the new files have an error of their own
    rw [decide_eq_false hwritten, if_neg Bool.false_ne_true]
    constructor
    · intro heq
      exact Or.inl (congrArg Project.error heq).symm
    · intro h
      obtain h | ⟨-, hnone, -⟩ := h
      · rw [← h, ← hinvalid]
      · exact absurd hnone hwritten

/-- **When a rollback gives back what was loaded.**  The record of the files, loaded and validated,
is written over them; it is loaded and validated as it was when the files are rewritable, or when
their error happens to be the one that the service has for a record without parameters. -/
theorem rollback_loads_iff (services : ServiceMap) (projectsDir id : String) (files : ProjectFiles) :
    loadEntry (configValidator qt configSchema) projectsDir services id
        (written (loadEntry (configValidator qt configSchema) projectsDir services id files)) =
      loadEntry (configValidator qt configSchema) projectsDir services id files ↔
    files.Rewritable id ∨ RejectsAlike qt configSchema services
      (loadOne (projectDirPath projectsDir id) id files) := by
  have hload := loadOne_load (projectDirPath projectsDir id) id files
  have henabled : (loadOne (projectDirPath projectsDir id) id files).serviceId = "" →
      (loadOne (projectDirPath projectsDir id) id files).enabled = true := loadOne_enabled
  rw [rewritable_iff (projectDirPath projectsDir id)]
  have hentry : loadEntry (configValidator qt configSchema) projectsDir services id files =
      if (loadOne (projectDirPath projectsDir id) id files).valid = true then
        validateProject (configValidator qt configSchema)
          (loadOne (projectDirPath projectsDir id) id files) services
      else loadOne (projectDirPath projectsDir id) id files := rfl
  rw [hentry]
  generalize loadOne (projectDirPath projectsDir id) id files = load at hload henabled
  by_cases hnone : load.error = ""
  · rw [if_pos (hload.valid.mpr hnone)]
    refine iff_of_true (rewritten_valid hload hnone) (Or.inl ?_)
    obtain heq | hforeign := hload.error
    · exact heq
    · exact absurd hnone hforeign.error
  · have hinvalid : ¬ load.valid = true := by
      intro hvalid
      exact hnone (hload.valid.mp hvalid)
    rw [if_neg hinvalid]
    exact rewritten_failed_iff hload hnone henabled

end Rewritten

end Stdiolink.Server
