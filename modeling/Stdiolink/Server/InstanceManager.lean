/-
  Stdiolink.Server.InstanceManager — the live instances of every project.

  The part of `manager/instance_manager.cpp` that the scheduler and the request
  handlers observe: which instances exist, how many a project has, and what
  `startInstance` answers.  The operating system's part of a start (the service
  directory, the program, the temp file, the guard, the process itself) is the
  input `SpawnOutcome`.  Instance ids are numbered in creation order; the source
  draws them from a UUID.
-/
import Stdiolink.Server.Model

namespace Stdiolink.Server

open Stdiolink.Lib
open Stdiolink.Protocol

/-- `QProcess::ExitStatus`. -/
inductive ExitStatus where
  | normalExit
  | crashExit
  deriving Repr, DecidableEq

/-- How the operating system answers one start. -/
inductive SpawnOutcome where
  /-- A step before `QProcess::start` fails; `startInstance` returns this text. -/
  | refused (error : String)
  /-- The process is on its way; the instance stays in the map. -/
  | running
  /-- `errorOccurred(FailedToStart)` fires inside `QProcess::start`. -/
  | failedToStart
  deriving Repr, DecidableEq

structure Instance where
  id : Nat
  projectId : String
  serviceId : String
  serviceDir : String
  config : Json
  runTimeoutMs : Int

/-- No instance is live. -/
theorem find?_empty_below :
    ∀ id i, (SortedMap.empty : SortedMap Nat Instance).find? id = some i → id < 0 := by
  intro id i h
  cases h

/-- The instances by id; ids in use are below the next one. -/
structure InstanceManager where
  instances : SortedMap Nat Instance := SortedMap.empty
  nextId : Nat := 0
  below : ∀ id i, instances.find? id = some i → id < nextId := by exact find?_empty_below

namespace InstanceManager

/-- `InstanceManager::instanceCount`; the empty id counts every instance. -/
def instanceCount (m : InstanceManager) (projectId : String) : Nat :=
  if projectId = "" then m.instances.entries.length
  else m.instances.entries.countP fun e => e.2.projectId = projectId

/-- The instance the manager creates for a project. -/
def newInstance (m : InstanceManager) (project : Project) (serviceDir : String) : Instance :=
  { id := m.nextId, projectId := project.id, serviceId := project.serviceId,
    serviceDir := serviceDir, config := project.config,
    runTimeoutMs := project.schedule.runTimeoutMs }

/-- Enter the new instance into the map. -/
def add (m : InstanceManager) (project : Project) (serviceDir : String) : InstanceManager :=
  { instances := m.instances.insert m.nextId (m.newInstance project serviceDir)
    nextId := m.nextId + 1
    below := fun id i hi => by
      rw [SortedMap.find?_insert] at hi
      split_ifs at hi with hid
      · omega
      · exact Nat.lt_succ_of_lt (m.below id i hi) }

/-- `m_instances.erase`. -/
def remove (m : InstanceManager) (instanceId : Nat) : InstanceManager :=
  { instances := m.instances.erase instanceId
    nextId := m.nextId
    below := fun id i hi => by
      rw [SortedMap.find?_erase] at hi
      split_ifs at hi
      exact m.below id i hi }

/-- `InstanceManager::startInstance` up to `QProcess::start`: the error text, or the
new instance's id with the instance in the map. -/
def startInstance (m : InstanceManager) (project : Project) (serviceDir : String)
    (outcome : SpawnOutcome) : Except String (Nat × InstanceManager) :=
  if !project.valid then .error ("project invalid: " ++ project.error)
  else if serviceDir = "" then .error ("service directory not found: " ++ serviceDir)
  else
    match outcome with
    | .refused error => .error error
    | .running | .failedToStart => .ok (m.nextId, m.add project serviceDir)

variable {m : InstanceManager} {projectId : String}

/-- A project has a live instance iff the count is positive. -/
theorem instanceCount_pos :
    0 < m.instanceCount projectId ↔
      ∃ id i, m.instances.find? id = some i ∧ (projectId = "" ∨ i.projectId = projectId) := by
  unfold instanceCount
  split_ifs with h
  · rw [List.length_pos_iff_exists_mem]
    constructor
    · rintro ⟨⟨id, i⟩, hmem⟩
      exact ⟨id, i, SortedMap.mem_entries.mp hmem, Or.inl h⟩
    · rintro ⟨id, i, hfind, -⟩
      exact ⟨(id, i), SortedMap.mem_entries.mpr hfind⟩
  · rw [List.countP_pos_iff]
    constructor
    · rintro ⟨⟨id, i⟩, hmem, hp⟩
      exact ⟨id, i, SortedMap.mem_entries.mp hmem, Or.inr (by simpa using hp)⟩
    · rintro ⟨id, i, hfind, hp⟩
      refine ⟨(id, i), SortedMap.mem_entries.mpr hfind, ?_⟩
      simpa [h] using hp

/-- The project of a new instance has one. -/
theorem instanceCount_add (m : InstanceManager) (project : Project) (serviceDir : String) :
    0 < (m.add project serviceDir).instanceCount project.id :=
  instanceCount_pos.mpr
    ⟨m.nextId, m.newInstance project serviceDir, by simp [add], Or.inr rfl⟩

/-- The instances of `m` are still there in `m'`. -/
def Persists (m m' : InstanceManager) : Prop :=
  ∀ id i, m.instances.find? id = some i → m'.instances.find? id = some i

/-- A project with a live instance keeps it. -/
theorem Persists.instanceCount_pos {m' : InstanceManager} (h : m.Persists m')
    (hpos : 0 < m.instanceCount projectId) :
    0 < m'.instanceCount projectId := by
  obtain ⟨id, i, hi, hp⟩ := InstanceManager.instanceCount_pos.mp hpos
  exact InstanceManager.instanceCount_pos.mpr ⟨id, i, h id i hi, hp⟩

theorem persists_add (m : InstanceManager) (project : Project) (serviceDir : String) :
    m.Persists (m.add project serviceDir) := by
  intro id i hi
  have hne : id ≠ m.nextId := Nat.ne_of_lt (m.below id i hi)
  simpa [add, SortedMap.find?_insert, hne] using hi

/-- Removing what was just added leaves every older instance. -/
theorem persists_add_remove (m : InstanceManager) (project : Project) (serviceDir : String) :
    m.Persists ((m.add project serviceDir).remove m.nextId) := by
  intro id i hi
  have hne : id ≠ m.nextId := Nat.ne_of_lt (m.below id i hi)
  simpa [add, remove, SortedMap.find?_erase, SortedMap.find?_insert, hne] using hi

/-- A successful start has entered the instance, whatever becomes of the process. -/
theorem startInstance_ok {m' : InstanceManager} {project : Project} {serviceDir : String}
    {outcome : SpawnOutcome} {id : Nat}
    (h : m.startInstance project serviceDir outcome = .ok (id, m')) :
    project.valid = true ∧ serviceDir ≠ "" ∧ id = m.nextId ∧ m' = m.add project serviceDir := by
  unfold startInstance at h
  split_ifs at h with hv hd
  cases outcome with
  | refused e => simp at h
  | running =>
    obtain ⟨rfl, rfl⟩ := Prod.mk.inj (Except.ok.inj h)
    exact ⟨by simpa using hv, hd, rfl, rfl⟩
  | failedToStart =>
    obtain ⟨rfl, rfl⟩ := Prod.mk.inj (Except.ok.inj h)
    exact ⟨by simpa using hv, hd, rfl, rfl⟩

/-! ## Counting one project's instances -/

/-- The live instances of the project. -/
def liveCount (m : InstanceManager) (projectId : String) : Nat :=
  m.instances.entries.countP fun e => e.2.projectId = projectId

theorem liveCount_le_instanceCount (m : InstanceManager) (projectId : String) :
    m.liveCount projectId ≤ m.instanceCount projectId := by
  unfold instanceCount
  split_ifs
  · exact List.countP_le_length
  · exact le_refl _

theorem entries_add (m : InstanceManager) (project : Project) (serviceDir : String) :
    (m.add project serviceDir).instances.entries =
      m.instances.entries ++ [(m.nextId, m.newInstance project serviceDir)] := by
  apply SortedMap.insertEntry_last
  intro e he
  exact m.below e.1 e.2 (SortedMap.mem_entries.mp he)

/-- A new instance counts for its project alone. -/
theorem liveCount_add (m : InstanceManager) (project : Project) (serviceDir : String)
    (projectId : String) :
    (m.add project serviceDir).liveCount projectId =
      m.liveCount projectId + if project.id = projectId then 1 else 0 := by
  rw [liveCount, entries_add, List.countP_append]
  simp [liveCount, newInstance]

theorem liveCount_remove_le (m : InstanceManager) (instanceId : Nat) (projectId : String) :
    (m.remove instanceId).liveCount projectId ≤ m.liveCount projectId :=
  List.Sublist.countP_le List.filter_sublist

/-- An instance that is entered and removed again counts for nobody. -/
theorem liveCount_add_remove (m : InstanceManager) (project : Project) (serviceDir : String)
    (projectId : String) :
    ((m.add project serviceDir).remove m.nextId).liveCount projectId ≤ m.liveCount projectId := by
  have hentries : ((m.add project serviceDir).remove m.nextId).instances.entries =
      m.instances.entries.filter fun e => decide (e.1 ≠ m.nextId) := by
    show (m.add project serviceDir).instances.entries.filter _ = _
    rw [entries_add, List.filter_append]
    simp
  rw [liveCount, hentries]
  exact List.Sublist.countP_le List.filter_sublist

/-- With a name of its own the project's instances are what `instanceCount` counts. -/
theorem instanceCount_eq_liveCount (m : InstanceManager) (h : projectId ≠ "") :
    m.instanceCount projectId = m.liveCount projectId := by
  rw [instanceCount, if_neg h, liveCount]

/-- The instance that ends counts for its own project alone. -/
theorem liveCount_remove_of_ne {instanceId : Nat}
    (h : ∀ i, m.instances.find? instanceId = some i → i.projectId ≠ projectId) :
    (m.remove instanceId).liveCount projectId = m.liveCount projectId := by
  show (m.instances.entries.filter fun e => decide (e.1 ≠ instanceId)).countP _ = _
  rw [liveCount, List.countP_filter]
  apply List.countP_congr
  intro e he
  have hfind := SortedMap.mem_entries.mp he
  simp only [Bool.and_eq_true, decide_eq_true_eq]
  constructor
  · intro hboth
    exact hboth.1
  · intro hproject
    refine ⟨hproject, ?_⟩
    intro heq
    exact h e.2 (heq ▸ hfind) hproject

end InstanceManager

end Stdiolink.Server
