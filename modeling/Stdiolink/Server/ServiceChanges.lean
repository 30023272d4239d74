/-
  Stdiolink.Server.ServiceChanges — what a failed `createService` or `deleteService` leaves.

  A creation touches nothing but the disk before its last step.  It fails clean unless the new
  directory was made and cannot be removed again.  A forced deletion marks the projects of the
  service, stops them and kills their instances first and removes the directory last, so a removal
  that fails leaves all of that behind.

  The state has, beside the server, the instances whose processes have been killed.  The manager
  keeps such an instance until its process is reported finished.

  Main results:
    * `service_changes_atomic_iff` — when a failure leaves no trace;
    * `keptDirectory_marks`        — a deletion that fails and invalidates a project.
-/
import Stdiolink.Server.ServiceTable

namespace Stdiolink.Server

open Stdiolink.Lib
open Stdiolink.Protocol

/-! ## §1. Instances that are killed -/

/-- `InstanceManager::terminateByProject`: the instances whose processes are killed. -/
def InstanceManager.terminateByProject (m : InstanceManager) (projectId : String) : List Nat :=
  (m.instances.entries.filter fun e => e.2.projectId = projectId).map Prod.fst

/-- The server with the instances that have been killed. -/
structure LiveServer where
  manager : ServerManager
  killed : List Nat := []

namespace LiveServer

open ServerManager (orphan orphan_id)

/-- The instances that run: those of the manager that have not been killed. -/
def running (s : LiveServer) : List Nat :=
  (s.manager.scheduler.manager.instances.entries.map Prod.fst).filter
    fun instanceId => instanceId ∉ s.killed

/-- An action of the server that kills nothing. -/
def onManager (a : Action ServerManager ServerEvent) : Action LiveServer ServerEvent := fun s =>
  ({ s with manager := (a s.manager).1 }, (a s.manager).2)

/-- `stopProject` followed by `terminateByProject`. -/
def stopAndTerminate (projectId : String) : Action LiveServer ServerEvent := fun s =>
  ({ manager := (ServerManager.stopAndTerminate projectId s.manager).1
     killed := s.killed ++ s.manager.scheduler.manager.terminateByProject projectId },
    (ServerManager.stopAndTerminate projectId s.manager).2)

/-- The projects of a service. -/
def associated (s : ServerManager) (serviceId : String) : List Project :=
  s.projects.values.filter fun p => p.serviceId = serviceId

/-- `ServerManager::deleteService`; `removed` is whether the directory could be removed. -/
def deleteService (serviceId : String) (force removed : Bool) : Action LiveServer ServerEvent :=
  Action.bind fun before =>
    let associated := associated before.manager serviceId
    if !before.manager.services.contains serviceId then
      Action.emit fun _ => .serviceResult (.error "service not found")
    else if !associated.isEmpty && !force then
      Action.emit fun _ => .serviceResult (.error
        ("service has associated projects: " ++ String.intercalate ", " (associated.map (·.id))))
    else
      Action.seq
        (onManager (Action.modify fun s =>
          { s with projects := s.projects.mapProjects (orphan serviceId) (orphan_id serviceId) }))
        (Action.seq (Action.forEach associated fun p => stopAndTerminate p.id)
          (if removed then
            Action.seq
              (onManager (Action.modify fun s =>
                { s with services := s.services.erase serviceId }))
              (Action.emit fun _ => .serviceResult (.ok ()))
          else
            Action.emit fun _ => .serviceResult (.error "failed to remove service directory")))

/-- The loop over the projects: the engine stops each, and the instances of each are killed. -/
theorem forEach_stopAndTerminate (ps : List Project) (s : LiveServer) :
    Action.forEach ps (fun p => stopAndTerminate p.id) s =
      ({ manager := (Action.forEach ps (fun p => ServerManager.stopAndTerminate p.id) s.manager).1
         killed := s.killed ++
           ps.flatMap fun p => s.manager.scheduler.manager.terminateByProject p.id }, []) := by
  induction ps generalizing s with
  | nil => simp
  | cons p ps ih =>
    have hmanager : (stopAndTerminate p.id s).1.manager.scheduler.manager =
        s.manager.scheduler.manager := rfl
    have hevents : (stopAndTerminate p.id s).2 = [] := rfl
    rw [Action.forEach_cons, Action.seq_apply, ih, hmanager, hevents]
    rw [Action.forEach_cons, Action.seq_apply, List.flatMap_cons, ← List.append_assoc]
    rfl

variable (s : LiveServer) (serviceId : String)

/-! ## §2. Deletions that fail -/

/-- Nothing that a client can see of services, projects, schedules and instances has changed. -/
structure Unchanged (before after : LiveServer) : Prop where
  services : after.manager.services = before.manager.services
  validity : ∀ id, (after.manager.projects.find? id).map (fun p => (p.valid, p.error)) =
    (before.manager.projects.find? id).map fun p => (p.valid, p.error)
  suppressed : ∀ id, after.manager.scheduler.engine.restartSuppressed.contains id =
    before.manager.scheduler.engine.restartSuppressed.contains id
  running : after.running = before.running

theorem Unchanged.refl : Unchanged s s :=
  ⟨rfl, fun _ => rfl, fun _ => rfl, rfl⟩

/-- If the deletion reports a failure, nothing has changed. -/
def DeleteAtomic (s : LiveServer) (serviceId : String) (force removed : Bool) : Prop :=
  ∀ e, .serviceResult (.error e) ∈ (deleteService serviceId force removed s).2 →
    Unchanged s (deleteService serviceId force removed s).1

/-- The project looks as if its service had been deleted already. -/
structure Marked (s : LiveServer) (serviceId : String) (p : Project) : Prop where
  validity : p.valid = false ∧ p.error = "service '" ++ serviceId ++ "' has been deleted"
  suppressed : s.manager.scheduler.engine.restartSuppressed.contains p.id = true
  killed : ∀ i ∈ s.manager.scheduler.manager.terminateByProject p.id, i ∈ s.killed

/-- What a deletion leaves whose directory cannot be removed. -/
def afterFailedRemoval (s : LiveServer) (serviceId : String) : LiveServer where
  manager :=
    { s.manager with
      projects := s.manager.projects.mapProjects (orphan serviceId) (orphan_id serviceId)
      scheduler :=
        { s.manager.scheduler with
          engine := ServerManager.stopEach s.manager.scheduler.engine
            (associated s.manager serviceId) } }
  killed := s.killed ++ (associated s.manager serviceId).flatMap
    fun p => s.manager.scheduler.manager.terminateByProject p.id

/-- The set of suppressed projects after `stopProject` of several. -/
theorem suppressed_stopEach (e : ScheduleEngine) (ps : List Project) (id : String) :
    (ServerManager.stopEach e ps).restartSuppressed.contains id =
      (ps.any (fun p => p.id = id) || e.restartSuppressed.contains id) := by
  induction ps generalizing e with
  | nil => rfl
  | cons p ps ih =>
    show (ServerManager.stopEach (e.stopProject p.id) ps).restartSuppressed.contains id = _
    rw [ih]
    show (_ || (e.restartSuppressed.insert p.id .stopped).contains id) = _
    rw [SortedMap.contains_insert, List.any_cons]
    by_cases hid : id = p.id
    · simp [hid]
    · simp [hid, Ne.symm hid]

theorem mem_associated {s : ServerManager} {serviceId : String} {p : Project} :
    p ∈ associated s serviceId ↔ s.projects.find? p.id = some p ∧ p.serviceId = serviceId := by
  unfold associated
  rw [List.mem_filter, ProjectMap.mem_values, decide_eq_true_eq]

/-- The running instances are kept exactly if all those of the projects were killed before. -/
theorem running_afterFailedRemoval_iff :
    (s.afterFailedRemoval serviceId).running = s.running ↔
      ∀ p ∈ associated s.manager serviceId,
        ∀ i ∈ s.manager.scheduler.manager.terminateByProject p.id, i ∈ s.killed := by
  have hlive : ∀ p i, i ∈ s.manager.scheduler.manager.terminateByProject p →
      i ∈ s.manager.scheduler.manager.instances.entries.map Prod.fst := by
    intro p i hi
    obtain ⟨e, he, rfl⟩ := List.mem_map.mp hi
    exact List.mem_map_of_mem (List.mem_of_mem_filter he)
  constructor
  · intro h p hp i hi
    -- an instance that is killed now and was not before is missing afterwards
    by_contra hnot
    have hbefore : i ∈ s.running := List.mem_filter.mpr ⟨hlive p.id i hi, by simpa using hnot⟩
    rw [← h] at hbefore
    have hafter := (List.mem_filter.mp hbefore).2
    have hkilled : i ∈ (s.afterFailedRemoval serviceId).killed :=
      List.mem_append.mpr (Or.inr (List.mem_flatMap.mpr ⟨p, hp, hi⟩))
    simp [hkilled] at hafter
  · intro h
    show (s.manager.scheduler.manager.instances.entries.map Prod.fst).filter _ = List.filter _ _
    apply List.filter_congr
    intro i _
    have hsame : i ∈ (s.afterFailedRemoval serviceId).killed ↔ i ∈ s.killed := by
      show i ∈ s.killed ++ _ ↔ _
      rw [List.mem_append]
      constructor
      · intro hi
        rcases hi with hi | hi
        · exact hi
        · obtain ⟨p, hp, hmem⟩ := List.mem_flatMap.mp hi
          exact h p hp i hmem
      · exact Or.inl
    exact decide_eq_decide.mpr (not_congr hsame)

/-- **What a failed removal changes.**  Nothing, exactly if every project of the service is marked
already. -/
theorem unchanged_afterFailedRemoval_iff :
    Unchanged s (s.afterFailedRemoval serviceId) ↔
      ∀ p ∈ associated s.manager serviceId, Marked s serviceId p := by
  have hfind : ∀ id, (s.afterFailedRemoval serviceId).manager.projects.find? id =
      (s.manager.projects.find? id).map (orphan serviceId) :=
    fun id => ProjectMap.find?_mapProjects _ _ (orphan_id serviceId) id
  have hsuppressed : ∀ id,
      (s.afterFailedRemoval serviceId).manager.scheduler.engine.restartSuppressed.contains id =
        ((associated s.manager serviceId).any (fun p => p.id = id) ||
          s.manager.scheduler.engine.restartSuppressed.contains id) :=
    fun id => suppressed_stopEach _ _ id
  constructor
  · intro h p hp
    obtain ⟨hstored, hservice⟩ := mem_associated.mp hp
    refine ⟨?_, ?_, (running_afterFailedRemoval_iff s serviceId).mp h.running p hp⟩
    · have hvalidity := h.validity p.id
      rw [hfind, hstored] at hvalidity
      simp only [Option.map_some, orphan, hservice, if_true, Option.some.injEq,
        Prod.mk.injEq] at hvalidity
      exact ⟨hvalidity.1.symm, hvalidity.2.symm⟩
    · rw [← h.suppressed p.id, hsuppressed, Bool.or_eq_true]
      left
      exact List.any_eq_true.mpr ⟨p, hp, by simp⟩
  · intro h
    constructor
    · rfl
    · intro id
      rw [hfind]
      cases hstored : s.manager.projects.find? id with
      | none => rfl
      | some p =>
        by_cases hservice : p.serviceId = serviceId
        · have hid := ProjectMap.id_of_find? hstored
          have hp : p ∈ associated s.manager serviceId :=
            mem_associated.mpr ⟨by rw [hid]; exact hstored, hservice⟩
          obtain ⟨hvalid, herror⟩ := (h p hp).validity
          simp only [Option.map_some, orphan, hservice, if_true, hvalid, herror]
        · simp only [Option.map_some, orphan, hservice, if_false]
    · intro id
      rw [hsuppressed]
      cases hany : (associated s.manager serviceId).any fun p => p.id = id with
      | false => rfl
      | true =>
        obtain ⟨p, hp, hid⟩ := List.any_eq_true.mp hany
        rw [← of_decide_eq_true hid, (h p hp).suppressed]
        rfl
    · exact (running_afterFailedRemoval_iff s serviceId).mpr fun p hp => (h p hp).killed

/-- **Deletions that fail clean.**  The directory can be removed, or the deletion is refused before
it comes to that, or nothing is left to mark. -/
theorem delete_atomic_iff (force removed : Bool) :
    DeleteAtomic s serviceId force removed ↔
      removed = true ∨ force = false ∨ s.manager.services.contains serviceId = false ∨
        ∀ p ∈ associated s.manager serviceId, Marked s serviceId p := by
  rw [← unchanged_afterFailedRemoval_iff]
  unfold DeleteAtomic deleteService
  simp only [Action.bind_apply]
  by_cases hknown : s.manager.services.contains serviceId = true
  · by_cases hrefused : (!(associated s.manager serviceId).isEmpty && !force) = true
    · -- there are projects and no force
      have hforce : force = false := by
        cases force with
        | false => rfl
        | true => simp at hrefused
      rw [if_neg (by simp [hknown]), if_pos hrefused]
      exact iff_of_true (fun e _ => Unchanged.refl s) (Or.inr (Or.inl hforce))
    · rw [if_neg (by simp [hknown]), if_neg hrefused]
      cases removed with
      | true =>
        apply iff_of_true _ (Or.inl rfl)
        intro e he
        simp [forEach_stopAndTerminate, onManager] at he
      | false =>
        have hafter : ∀ a : LiveServer × List ServerEvent,
            a = (s.afterFailedRemoval serviceId,
              [.serviceResult (.error "failed to remove service directory")]) →
            ((∀ e, .serviceResult (.error e) ∈ a.2 → Unchanged s a.1) ↔
              Unchanged s (s.afterFailedRemoval serviceId)) := by
          intro a ha
          rw [ha]
          constructor
          · intro h
            exact h _ List.mem_cons_self
          · intro h e _
            exact h
        rw [hafter]
        · cases force with
          | true => simp [hknown]
          | false =>
            -- without force there is no project, so there is nothing to mark
            have hnone : associated s.manager serviceId = [] := by simpa using hrefused
            rw [unchanged_afterFailedRemoval_iff, hnone]
            simp
        · simp only [Action.seq_apply, forEach_stopAndTerminate,
            ServerManager.forEach_stopAndTerminate, onManager, Action.modify_apply,
            Action.emit_apply, List.nil_append, Bool.false_eq_true, if_false]
          rfl
  · rw [if_pos (by simpa using hknown)]
    rw [Bool.not_eq_true] at hknown
    exact iff_of_true (fun e _ => Unchanged.refl s) (Or.inr (Or.inr (Or.inl hknown)))

end LiveServer

/-! ## §3. Creations that fail -/

namespace ServiceHost

/-- If the creation reports a failure, the server is the same, and there is no directory where
there was none. -/
def CreateAtomic (qt : JsonText) (host : ServiceHost) (dataRoot : String) (create : ServiceCreate)
    (run : CreateRun) : Prop :=
  ∀ e, .serviceResult (.error e) ∈ (host.createService qt dataRoot create run).2 →
    (host.createService qt dataRoot create run).1.manager = host.manager ∧
      (host.disk.contains (dataRoot ++ "/services/" ++ create.id) = false →
        (host.createService qt dataRoot create run).1.disk.contains
          (dataRoot ++ "/services/" ++ create.id) = false)

section Create

variable {qt : JsonText} {host : ServiceHost} {create : ServiceCreate} {run : CreateRun}

theorem checkCreateService_of_accepts {s : ServerManager}
    {request : ServerManager.ServiceCreateRequest} (h : s.acceptsCreate request = true)
    (loaded : Except String ServiceInfo) : s.checkCreateService request loaded = loaded := by
  unfold ServerManager.acceptsCreate at h
  simp only [Bool.and_eq_true, decide_eq_true_eq, Bool.not_eq_true', Option.isNone_iff_eq_none,
    ne_eq] at h
  obtain ⟨⟨⟨⟨hid, hname⟩, hversion⟩, hschema⟩, hnew⟩ := h
  unfold ServerManager.checkCreateService
  rw [if_neg (by simp [hid]), if_neg hname, if_neg hversion, hschema]
  simp [hnew]

theorem checkCreateService_of_refuses {s : ServerManager}
    {request : ServerManager.ServiceCreateRequest} (h : s.acceptsCreate request = false)
    (loaded : Except String ServiceInfo) :
    ∃ e, s.checkCreateService request loaded = .error e := by
  unfold ServerManager.checkCreateService
  cases hschema : request.schemaError with
  | some e =>
    dsimp only
    split_ifs
    · exact ⟨_, rfl⟩
    · exact ⟨_, rfl⟩
    · exact ⟨_, rfl⟩
    · exact ⟨_, rfl⟩
  | none =>
    dsimp only
    split_ifs with hid hname hversion htaken
    · exact ⟨_, rfl⟩
    · exact ⟨_, rfl⟩
    · exact ⟨_, rfl⟩
    · exact ⟨_, rfl⟩
    · -- no check has refused it
      have hid' : ServerManager.isValidServiceId request.id = true := by simpa using hid
      simp [ServerManager.acceptsCreate, hid', hname, hversion, hschema, htaken] at h

variable {dataRoot : String}

/-- A creation that the checks refuse changes nothing. -/
theorem createService_refused (h : host.manager.acceptsCreate create.request = false) :
    ∃ e, host.createService qt dataRoot create run = (host, [.serviceResult (.error e)]) := by
  obtain ⟨e, he⟩ := checkCreateService_of_refuses h
    (createDirectory qt host.disk (dataRoot ++ "/services/" ++ create.id) create run).1
  refine ⟨e, ?_⟩
  unfold createService ServerManager.createService
  simp only [he, h, Bool.false_eq_true, if_false]

/-- A creation that passes them fails as it does on the disk. -/
theorem createService_failed {e : String} (h : host.manager.acceptsCreate create.request = true)
    (hfails : (createDirectory qt host.disk (dataRoot ++ "/services/" ++ create.id) create
      run).1 = .error e) :
    host.createService qt dataRoot create run =
      ({ host with disk :=
          (createDirectory qt host.disk (dataRoot ++ "/services/" ++ create.id) create run).2 },
        [.serviceResult (.error e)]) := by
  unfold createService ServerManager.createService
  simp only [checkCreateService_of_accepts h, hfails, h, if_true]

/-- Otherwise it reports success. -/
theorem createService_done {info : ServiceInfo}
    (h : host.manager.acceptsCreate create.request = true)
    (hdone : (createDirectory qt host.disk (dataRoot ++ "/services/" ++ create.id) create
      run).1 = .ok info) :
    (host.createService qt dataRoot create run).2 = [.serviceResult (.ok ())] := by
  unfold createService ServerManager.createService
  simp only [checkCreateService_of_accepts h, hdone]

/-- The writes stop at the first file that cannot be written. -/
theorem writeFiles_of_all {files : List (String × List UInt8)}
    (h : ∀ file ∈ files, run.written file.1 = true) : writeFiles run files = (files, none) := by
  induction files with
  | nil => rfl
  | cons file files ih =>
    have hrest := ih fun other hother => h other (List.mem_cons_of_mem _ hother)
    unfold writeFiles
    rw [h file List.mem_cons_self, hrest]
    rfl

theorem written_of_writeFiles {files : List (String × List UInt8)}
    (h : (writeFiles run files).2 = none) : ∀ file ∈ files, run.written file.1 = true := by
  induction files with
  | nil => simp
  | cons file files ih =>
    unfold writeFiles at h
    by_cases hwritten : run.written file.1 = true
    · rw [hwritten] at h
      intro other hother
      rcases List.mem_cons.mp hother with rfl | hother
      · exact hwritten
      · exact ih h other hother
    · rw [Bool.not_eq_true] at hwritten
      simp [hwritten] at h

/-- The new directory is filled and loads. -/
def Fills (qt : JsonText) (disk : ServicesDisk) (serviceDir : String) (create : ServiceCreate)
    (run : CreateRun) : Prop :=
  (∀ file ∈ create.files qt, run.written file.1 = true) ∧
    (loadService qt (disk.insert serviceDir (ServiceTree.ofFiles (create.files qt)))
      serviceDir).isOk = true

/-- **A creation on the disk.**  It reports an error and leaves no directory that was not there,
unless one was made, not filled, and could not be removed again. -/
theorem createDirectory_error {disk : ServicesDisk} {serviceDir e : String}
    (h : (createDirectory qt disk serviceDir create run).1 = .error e) :
    (disk.contains serviceDir = false →
        (createDirectory qt disk serviceDir create run).2.contains serviceDir = false) ↔
      run.removed = true ∨ disk.contains serviceDir = true ∨ run.made = false := by
  unfold createDirectory at h ⊢
  by_cases hthere : disk.contains serviceDir = true
  · simp [hthere]
  rw [if_neg hthere] at h ⊢
  by_cases hmade : (!run.made) = true
  · rw [if_pos hmade]
    have hnotMade : run.made = false := by simpa using hmade
    simp [hnotMade]
  rw [if_neg hmade] at h ⊢
  -- the directory was made, and it is there afterwards unless it was removed
  have hdone : (if run.removed then
        (disk.insert serviceDir (ServiceTree.ofFiles
          (writeFiles run (create.files qt)).1)).erase serviceDir
      else disk.insert serviceDir (ServiceTree.ofFiles
        (writeFiles run (create.files qt)).1)).contains serviceDir = !run.removed := by
    cases run.removed with
    | true => simp [SortedMap.contains_erase]
    | false => simp [SortedMap.contains_insert]
  have hmade' : run.made = true := by simpa using hmade
  have hleft : ∀ after : ServicesDisk, after.contains serviceDir = (!run.removed) →
      ((disk.contains serviceDir = false → after.contains serviceDir = false) ↔
        run.removed = true ∨ disk.contains serviceDir = true ∨ run.made = false) := by
    intro after hafter
    rw [hafter]
    simp [hthere, hmade']
  cases hwritten : (writeFiles run (create.files qt)).2 with
  | some error =>
    simp only [hwritten] at h ⊢
    exact hleft _ hdone
  | none =>
    simp only [hwritten] at h ⊢
    split at h
    next error hload => exact hleft _ hdone
    next => simp at h

/-- Without the directory, a creation fails as long as it is not filled or does not load. -/
theorem createDirectory_fails_iff {disk : ServicesDisk} {serviceDir : String}
    (hnew : disk.contains serviceDir = false) (hmade : run.made = true) :
    (∃ e, (createDirectory qt disk serviceDir create run).1 = .error e) ↔
      ¬ Fills qt disk serviceDir create run := by
  unfold createDirectory Fills
  rw [if_neg (by simp [hnew]), if_neg (by simp [hmade])]
  cases hwritten : (writeFiles run (create.files qt)).2 with
  | some error =>
    have hnot : ¬ ∀ file ∈ create.files qt, run.written file.1 = true := by
      intro hall
      rw [writeFiles_of_all hall] at hwritten
      simp at hwritten
    simp only [hwritten]
    exact iff_of_true ⟨error, rfl⟩ fun hfills => hnot hfills.1
  | none =>
    have hall := written_of_writeFiles hwritten
    rw [writeFiles_of_all hall]
    dsimp only
    cases hload : loadService qt
        (disk.insert serviceDir (ServiceTree.ofFiles (create.files qt))) serviceDir with
    | error error =>
      exact iff_of_true ⟨_, rfl⟩ fun hfills => by simp [Except.isOk, Except.toBool] at hfills
    | ok info =>
      apply iff_of_false
      · intro hfails
        obtain ⟨e, he⟩ := hfails
        simp at he
      · intro hnot
        exact hnot ⟨hall, rfl⟩

/-- **Creations that fail clean.**  A directory that was made can be removed again, or is filled
and loads, or the creation is refused before it makes one. -/
theorem create_atomic_iff (qt : JsonText) (host : ServiceHost) (dataRoot : String)
    (create : ServiceCreate) (run : CreateRun) :
    CreateAtomic qt host dataRoot create run ↔
      run.removed = true ∨ host.manager.acceptsCreate create.request = false ∨
        host.disk.contains (dataRoot ++ "/services/" ++ create.id) = true ∨ run.made = false ∨
        Fills qt host.disk (dataRoot ++ "/services/" ++ create.id) create run := by
  unfold CreateAtomic
  cases haccepts : host.manager.acceptsCreate create.request with
  | false =>
    obtain ⟨e, hrefused⟩ : ∃ e, host.createService qt dataRoot create run =
        (host, [.serviceResult (.error e)]) := createService_refused haccepts
    rw [hrefused]
    exact iff_of_true (fun _ _ => ⟨rfl, fun h => h⟩) (Or.inr (Or.inl rfl))
  | true =>
    cases hmade : (createDirectory qt host.disk (dataRoot ++ "/services/" ++ create.id) create
        run).1 with
    | ok info =>
      -- a creation that succeeds reports no failure, and it has filled its directory
      rw [createService_done haccepts hmade]
      apply iff_of_true
      · intro e he
        simp at he
      · by_contra hnot
        simp only [not_or, Bool.not_eq_true, Bool.not_eq_false] at hnot
        obtain ⟨-, -, hnew, hmadeRun, hfills⟩ := hnot
        obtain ⟨e, he⟩ := (createDirectory_fails_iff hnew hmadeRun).mpr hfills
        rw [hmade] at he
        simp at he
    | error error =>
      rw [createService_failed haccepts hmade]
      have hclean := createDirectory_error hmade
      constructor
      · intro h
        rcases hclean.mp (h error List.mem_cons_self).2 with h | h | h
        · exact Or.inl h
        · exact Or.inr (Or.inr (Or.inl h))
        · exact Or.inr (Or.inr (Or.inr (Or.inl h)))
      · intro h e _
        refine ⟨rfl, hclean.mpr ?_⟩
        rcases h with h | h | h | h | h
        · exact Or.inl h
        · simp at h
        · exact Or.inr (Or.inl h)
        · exact Or.inr (Or.inr h)
        · -- what is filled and loads does not fail
          by_contra hnot
          simp only [not_or, Bool.not_eq_true, Bool.not_eq_false] at hnot
          exact (createDirectory_fails_iff hnot.2.1 hnot.2.2).mp ⟨error, hmade⟩ h

end Create

end ServiceHost

/-! ## §4. Failures without a trace -/

/-- **When a failure leaves no trace.**  A creation fails clean unless it leaves the directory it
made; a deletion fails clean unless it is forced, its directory cannot be removed, and a project of
the service was not marked before. -/
theorem service_changes_atomic_iff (qt : JsonText) (host : ServiceHost) (dataRoot : String)
    (create : ServiceCreate) (run : CreateRun) (s : LiveServer) (serviceId : String)
    (force removed : Bool) :
    (ServiceHost.CreateAtomic qt host dataRoot create run ↔
      run.removed = true ∨ host.manager.acceptsCreate create.request = false ∨
        host.disk.contains (dataRoot ++ "/services/" ++ create.id) = true ∨ run.made = false ∨
        ServiceHost.Fills qt host.disk (dataRoot ++ "/services/" ++ create.id) create run) ∧
    (LiveServer.DeleteAtomic s serviceId force removed ↔
      removed = true ∨ force = false ∨ s.manager.services.contains serviceId = false ∨
        ∀ p ∈ LiveServer.associated s.manager serviceId, LiveServer.Marked s serviceId p) :=
  ⟨ServiceHost.create_atomic_iff qt host dataRoot create run,
    LiveServer.delete_atomic_iff s serviceId force removed⟩

/-- A server with the service `s` and a valid project of it. -/
def oneProject : LiveServer where
  manager :=
    { services := SortedMap.empty.insert "s"
        { id := "s", name := "s", version := "1", serviceDir := "/services/s" }
      projects := ProjectMap.empty.insert { id := "p", name := "p", serviceId := "s" } }

/-- **A service that is deleted only by its word.**  The directory cannot be removed, the deletion
reports that, the service is still there, and its project is invalid because the service "has been
deleted". -/
theorem keptDirectory_marks :
    serviceResult (oneProject.deleteService "s" true false).2 =
        .error "failed to remove service directory" ∧
      (oneProject.deleteService "s" true false).1.manager.services.contains "s" = true ∧
      ((oneProject.manager.projects.find? "p").map fun p => (p.valid, p.error)) =
        some (true, "") ∧
      (((oneProject.deleteService "s" true false).1.manager.projects.find? "p").map fun p =>
        (p.valid, p.error)) = some (false, "service 's' has been deleted") ∧
      ((oneProject.deleteService "s" true false).1.manager.scheduler.engine.restartSuppressed
        |>.contains "p") = true := by
  decide +kernel

end Stdiolink.Server
