/-
  Stdiolink.Server.Model — projects, schedules and services.

  The records the server keeps (`model/project.h`, `model/schedule.h`,
  `scanner/service_scanner.h`) and the checks on them that need no state:
  `isValidProjectId` and `validateProject`.  A `ProjectMap` carries the fact that
  every record is stored under its own id.
-/
import Stdiolink.Protocol.Json
import Mathlib.Data.String.Basic

namespace Stdiolink.Server

open Stdiolink.Lib
open Stdiolink.Protocol

/-! ## §1. Records -/

inductive ScheduleType where
  | manual
  | fixedRate
  | daemon
  deriving Repr, DecidableEq

structure Schedule where
  type : ScheduleType := .manual
  intervalMs : Int := 5000
  maxConcurrent : Int := 1
  restartDelayMs : Int := 3000
  maxConsecutiveFailures : Int := 5
  runTimeoutMs : Int := 0
  deriving Repr, DecidableEq

structure Project where
  id : String
  name : String
  serviceId : String
  enabled : Bool := true
  schedule : Schedule := {}
  config : Json := .obj []
  valid : Bool := true
  error : String := ""

/-- The project may be started as a project of type `t`. -/
def Project.RunsAs (p : Project) (t : ScheduleType) : Prop :=
  p.enabled = true ∧ p.valid = true ∧ p.schedule.type = t

instance (p : Project) (t : ScheduleType) : Decidable (p.RunsAs t) :=
  inferInstanceAs (Decidable (_ ∧ _ ∧ _))

/-- What `Project::fromJson` reads from a request body or a stored file: every
field but the id, which comes from the path, and the validity, which is computed. -/
structure ProjectDraft where
  name : String
  serviceId : String
  enabled : Bool := true
  schedule : Schedule := {}
  config : Json := .obj []

/-- The record a parsed draft gives; it is not validated yet. -/
def Project.fromDraft (id : String) (d : ProjectDraft) : Project :=
  { id := id, name := d.name, serviceId := d.serviceId, enabled := d.enabled,
    schedule := d.schedule, config := d.config }

structure ServiceInfo where
  id : String
  name : String
  version : String
  serviceDir : String
  rawConfigSchema : Json := .obj []

abbrev ServiceMap := SortedMap String ServiceInfo

/-- The directory of a known service. -/
def ServiceMap.dir? (services : ServiceMap) (serviceId : String) : Option String :=
  (services.find? serviceId).map ServiceInfo.serviceDir

/-! ## §2. Project maps -/

/-- The server's and the engine's map of projects: every record sits under its id. -/
structure ProjectMap where
  toMap : SortedMap String Project
  id_eq : ∀ k p, toMap.find? k = some p → p.id = k

namespace ProjectMap

def empty : ProjectMap := ⟨SortedMap.empty, by simp⟩

def find? (m : ProjectMap) (id : String) : Option Project := m.toMap.find? id

def contains (m : ProjectMap) (id : String) : Bool := m.toMap.contains id

/-- The records in id order. -/
def values (m : ProjectMap) : List Project := m.toMap.entries.map Prod.snd

def insert (m : ProjectMap) (p : Project) : ProjectMap :=
  ⟨m.toMap.insert p.id p, fun k q h => by
    rw [SortedMap.find?_insert] at h
    split_ifs at h with hk
    · rw [← Option.some.inj h, hk]
    · exact m.id_eq k q h⟩

def remove (m : ProjectMap) (id : String) : ProjectMap :=
  ⟨m.toMap.erase id, fun k q h => by
    rw [SortedMap.find?_erase] at h
    split_ifs at h
    exact m.id_eq k q h⟩

/-- Update every record by a function that keeps ids. -/
def mapProjects (m : ProjectMap) (f : Project → Project) (hf : ∀ p, (f p).id = p.id) :
    ProjectMap :=
  ⟨m.toMap.mapValues fun _ p => f p, fun k q h => by
    simp only [SortedMap.find?_mapValues, Option.map_eq_some_iff] at h
    obtain ⟨p, hp, rfl⟩ := h
    rw [hf, m.id_eq k p hp]⟩

theorem id_of_find? {m : ProjectMap} {id : String} {p : Project} (h : m.find? id = some p) :
    p.id = id := m.id_eq id p h

@[simp] theorem find?_empty (id : String) : empty.find? id = none := rfl

theorem find?_insert (m : ProjectMap) (id : String) (p : Project) :
    (m.insert p).find? id = if id = p.id then some p else m.find? id :=
  SortedMap.find?_insert m.toMap id p.id p

@[simp] theorem find?_insert_self (m : ProjectMap) (p : Project) :
    (m.insert p).find? p.id = some p := by
  simp [find?_insert]

theorem find?_remove (m : ProjectMap) (id id' : String) :
    (m.remove id').find? id = if id = id' then none else m.find? id :=
  SortedMap.find?_erase m.toMap id id'

@[simp] theorem find?_mapProjects (m : ProjectMap) (f : Project → Project)
    (hf : ∀ p, (f p).id = p.id) (id : String) :
    (m.mapProjects f hf).find? id = (m.find? id).map f :=
  SortedMap.find?_mapValues m.toMap (fun _ p => f p) id

theorem contains_eq_true {m : ProjectMap} {id : String} :
    m.contains id = true ↔ ∃ p, m.find? id = some p :=
  SortedMap.contains_eq_true

/-- Iterating over the values meets exactly the stored records. -/
theorem mem_values {m : ProjectMap} {p : Project} : p ∈ m.values ↔ m.find? p.id = some p := by
  constructor
  · intro h
    obtain ⟨⟨k, q⟩, hmem, rfl⟩ := List.mem_map.mp h
    have hk := SortedMap.mem_entries.mp hmem
    rw [find?, m.id_eq k q hk]
    exact hk
  · intro h
    exact List.mem_map.mpr ⟨(p.id, p), SortedMap.mem_entries.mpr h, rfl⟩

/-- No two iterated records share an id. -/
theorem values_pairwise_id (m : ProjectMap) :
    m.values.Pairwise fun p q => p.id ≠ q.id := by
  refine List.pairwise_map.mpr (m.toMap.sorted.imp_of_mem fun {a b} ha hb hlt => ?_)
  rw [m.id_eq a.1 a.2 (SortedMap.mem_entries.mp ha), m.id_eq b.1 b.2 (SortedMap.mem_entries.mp hb)]
  exact ne_of_lt hlt

end ProjectMap

/-! ## §3. Checks -/

/-- A character of `[A-Za-z0-9_-]`. -/
def isProjectIdChar (c : Char) : Bool :=
  c.isAlphanum || c == '_' || c == '-'

/-- `ProjectManager::isValidProjectId`: the expression `^[A-Za-z0-9_-]+$`, whose
`$` also matches before one final newline. -/
def isValidProjectId (id : String) : Bool :=
  let chars := id.toList
  let body := if chars.getLast? = some '\n' then chars.dropLast else chars
  !body.isEmpty && body.all isProjectIdChar

/-- `ServiceConfigValidator::mergeAndValidate` with no file config and unknown
fields rejected: the merged config, or the text of the failure. -/
abbrev ConfigValidator := ServiceInfo → Json → Except String Json

/-- `ProjectManager::validateProject`; its result is the `valid` flag. -/
def validateProject (validate : ConfigValidator) (project : Project) (services : ServiceMap) :
    Project :=
  match services.find? project.serviceId with
  | none =>
      { project with valid := false, error := "service not found: " ++ project.serviceId }
  | some service =>
      match validate service project.config with
      | .error e => { project with valid := false, error := e }
      | .ok merged => { project with config := merged, valid := true, error := "" }

section Validate

variable (validate : ConfigValidator) (project : Project) (services : ServiceMap)

@[simp] theorem validateProject_id :
    (validateProject validate project services).id = project.id := by
  unfold validateProject
  split
  · rfl
  · split <;> rfl

@[simp] theorem validateProject_enabled :
    (validateProject validate project services).enabled = project.enabled := by
  unfold validateProject
  split
  · rfl
  · split <;> rfl

@[simp] theorem validateProject_name :
    (validateProject validate project services).name = project.name := by
  unfold validateProject
  split
  · rfl
  · split <;> rfl

@[simp] theorem validateProject_serviceId :
    (validateProject validate project services).serviceId = project.serviceId := by
  unfold validateProject
  split
  · rfl
  · split <;> rfl

@[simp] theorem validateProject_schedule :
    (validateProject validate project services).schedule = project.schedule := by
  unfold validateProject
  split
  · rfl
  · split <;> rfl

end Validate

end Stdiolink.Server
