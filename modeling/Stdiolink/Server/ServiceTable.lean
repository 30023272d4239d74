/-
  Stdiolink.Server.ServiceTable — the service table over runs.

  Five operations change the table or the directories behind it: a scan, `createService`,
  `deleteService`, a reload and a write through the file API.  A scan and a creation store a
  service under the id of its manifest; a reload stores it under the id of the request.  Between
  two of them the directories may change in any way.

  Main results:
    * `find?_scan`          — which directory a scan keeps for an id;
    * `rescan_of_keyed`     — a table keyed by id is what a scan of its directories gives;
    * `keyed_iff_meetsOwnId` — the table stays keyed by id exactly in the runs whose reloads meet
                               the id they store under;
    * `renamed_breaks_key`  — a manifest with another id, sent to `manifest.json`.
-/
import Stdiolink.Server.FileWrites

namespace Stdiolink.Server

open Stdiolink.Lib
open Stdiolink.Protocol
open Stdiolink.Meta

/-! ## §1. The operations -/

/-- What the checks of `createService` do not look at, beside the fields that they do. -/
structure ServiceCreate where
  id : String
  name : String
  version : String
  description : String := ""
  author : String := ""
  /-- `indexJs`, or the text of the template. -/
  indexJs : String := ""
  /-- The schema of the request, if it has one. -/
  configSchema : Option (List (String × Json)) := none
  /-- `templateConfigSchema` of the template type. -/
  templateSchema : List (String × Json) := []

namespace ServiceCreate

/-- The part that `createService` checks first. -/
def request (create : ServiceCreate) : ServerManager.ServiceCreateRequest where
  id := create.id
  name := create.name
  version := create.version
  schemaError := create.configSchema.bind fun obj =>
    match ServiceConfigSchema.fromJsonObject obj with
    | .error e => some e
    | .ok _ => none

/-- The manifest that `createService` writes. -/
def manifest (create : ServiceCreate) : List (String × Json) :=
  Json.record [
    ("manifestVersion", .str "1"), ("id", .str create.id), ("name", .str create.name),
    ("version", .str create.version),
    ("description", Json.given (create.description ≠ "") (.str create.description)),
    ("author", Json.given (create.author ≠ "") (.str create.author))]

/-- The files that `createService` writes, in order. -/
def files (qt : JsonText) (create : ServiceCreate) : List (String × List UInt8) :=
  [ ("manifest.json", toUtf8 (qt.toJson (.obj create.manifest))),
    ("index.js", toUtf8 create.indexJs),
    ("config.schema.json",
      toUtf8 (qt.toJson (.obj (create.configSchema.getD create.templateSchema)))) ]

end ServiceCreate

/-- What the file system answers while a service is created: whether the directory can be made,
which of its files can be written, and whether it can be removed again. -/
structure CreateRun where
  made : Bool
  written : String → Bool
  removed : Bool

/-- The `writeTextFile` calls of `createService`: the files that are written, and the text of the
first failure. -/
def writeFiles (run : CreateRun) :
    List (String × List UInt8) → List (String × List UInt8) × Option String
  | [] => ([], none)
  | (name, content) :: rest =>
    if !run.written name then ([], some ("failed to write " ++ name))
    else ((name, content) :: (writeFiles run rest).1, (writeFiles run rest).2)

namespace ServerManager

/-- The checks of `createService` on the request and on the service table. -/
def acceptsCreate (s : ServerManager) (request : ServiceCreateRequest) : Bool :=
  isValidServiceId request.id && request.name ≠ "" && request.version ≠ "" &&
    request.schemaError.isNone && !s.services.contains request.id

end ServerManager

namespace ServiceHost

section Operations

variable (qt : JsonText)

/-- `createService` on the disk: the loaded service or the error, and the directories after it. -/
def createDirectory (disk : ServicesDisk) (serviceDir : String) (create : ServiceCreate)
    (run : CreateRun) : Except String ServiceInfo × ServicesDisk :=
  if disk.contains serviceDir then (.error "service directory already exists", disk)
  else if !run.made then (.error "failed to create service directory", disk)
  else
    let files := writeFiles run (create.files qt)
    let filled := disk.insert serviceDir (ServiceTree.ofFiles files.1)
    -- whatever fails from here on, the directory is removed again, if it can be
    let failed := if run.removed then filled.erase serviceDir else filled
    match files.2 with
    | some e => (.error e, failed)
    | none =>
      match loadService qt filled serviceDir with
      | .error e => (.error ("failed to load created service: " ++ e), failed)
      | .ok info => (.ok info, filled)

/-- `ServerManager::createService` with the disk. -/
def createService (dataRoot : String) (create : ServiceCreate) (run : CreateRun) :
    Action ServiceHost ServerEvent := fun host =>
  let directory :=
    createDirectory qt host.disk (dataRoot ++ "/services/" ++ create.id) create run
  let created := ServerManager.createService create.request directory.1 host.manager
  ({ manager := created.1
     disk := if host.manager.acceptsCreate create.request then directory.2 else host.disk },
    created.2)

/-- `ServerManager::deleteService` with the disk.  `removed` is whether `removeRecursively`
succeeds. -/
def deleteService (id : String) (force removed : Bool) : Action ServiceHost ServerEvent :=
  fun host =>
    let serviceDir := (host.manager.services.dir? id).getD ""
    let deleted := ServerManager.deleteService id force removed host.manager
    let disk :=
      if host.manager.services.contains id && !deleted.1.services.contains id then
        host.disk.erase serviceDir
      else host.disk
    ({ manager := deleted.1, disk := disk }, deleted.2)

/-- `ServerManager::rescanServices` with the disk, listed in some order. -/
def rescanServices (validate : ConfigValidator) (entries : List String)
    (revalidateProjects restartScheduling stopInvalidProjects : Bool)
    (spawn : String → SpawnOutcome) : Action ServiceHost ServerEvent := fun host =>
  let rescanned := ServerManager.rescanServices validate (scan qt host.disk entries)
    revalidateProjects restartScheduling stopInvalidProjects spawn host.manager
  ({ host with manager := rescanned.1 }, rescanned.2)

end Operations

end ServiceHost

/-- A step of the server that has to do with services. -/
inductive ServiceOp where
  | rescan (validate : ConfigValidator) (entries : List String)
      (revalidateProjects restartScheduling stopInvalidProjects : Bool)
      (spawn : String → SpawnOutcome)
  | create (dataRoot : String) (create : ServiceCreate) (run : CreateRun)
  | delete (id : String) (force removed : Bool)
  | reload (id : String)
  | writeFile (id path : String) (body : Parsed (List (String × Json)))
      (outcome : Except String Unit)
  /-- Another request, or another program, changes the directories. -/
  | edited (disk : ServicesDisk)

/-- The server and the service directories as a machine. -/
def serviceMachine (qt : JsonText) : Machine ServiceHost ServiceOp Unit where
  step host
    | .rescan validate entries revalidateProjects restartScheduling stopInvalidProjects spawn =>
      ((host.rescanServices qt validate entries revalidateProjects restartScheduling
        stopInvalidProjects spawn).1, [])
    | .create dataRoot create run => ((host.createService qt dataRoot create run).1, [])
    | .delete id force removed => ((host.deleteService id force removed).1, [])
    | .reload id => ((host.reloadService qt id).1, [])
    | .writeFile id path body outcome =>
      ((host.handleServiceFileWrite qt id path body outcome).1, [])
    | .edited disk => ({ host with disk := disk }, [])

/-! ## §2. Scans -/

section Scan

variable {qt : JsonText} {disk : ServicesDisk}

/-- A scan goes on from a table: what is there stays, and of the directories that load the first
one with an id is kept. -/
theorem find?_scanFrom (entries : List String) (table : ServiceMap) (id : String) :
    (entries.foldl (scanEntry qt disk) table).find? id =
    (table.find? id).or
      ((entries.filterMap fun serviceDir => (loadService qt disk serviceDir).toOption).find?
        fun info => info.id = id) := by
  induction entries generalizing table with
  | nil => simp
  | cons serviceDir entries ih =>
    rw [List.foldl_cons, ih, List.filterMap_cons]
    unfold scanEntry
    cases hload : loadService qt disk serviceDir with
    | error e => rfl
    | ok info =>
      rw [Except.toOption, List.find?_cons]
      dsimp only
      by_cases hid : info.id = id
      · -- the id of the directory: it is stored unless the table has the id
        subst hid
        cases hknown : table.find? info.id with
        | none =>
          rw [if_neg (by simp [SortedMap.contains_eq_false.mpr hknown]),
            SortedMap.find?_insert_self]
          simp
        | some old =>
          rw [if_pos (SortedMap.contains_eq_true.mpr ⟨old, hknown⟩), hknown]
          simp
      · have hsame : SortedMap.find?
            (if table.contains info.id then table else table.insert info.id info) id =
              table.find? id := by
          split_ifs
          · rfl
          · exact SortedMap.find?_insert_of_ne table (Ne.symm hid) info
        rw [hsame]
        simp [hid]

/-- **What a scan keeps.**  Under an id, the first of the listed directories that loads with it. -/
theorem find?_scan (entries : List String) (id : String) :
    (scan qt disk entries).find? id =
      (entries.filterMap fun serviceDir => (loadService qt disk serviceDir).toOption).find?
        fun info => info.id = id := by
  unfold scan
  rw [find?_scanFrom, SortedMap.find?_empty, Option.none_or]

end Scan

/-! ## §3. Tables keyed by id -/

/-- Every entry is stored under its own id. -/
def KeyedById (services : ServiceMap) : Prop :=
  ∀ id service, services.find? id = some service → service.id = id

theorem keyedById_scan (qt : JsonText) (disk : ServicesDisk) (entries : List String) :
    KeyedById (scan qt disk entries) := by
  intro id service h
  rw [find?_scan] at h
  simpa using List.find?_some h

variable {services : ServiceMap}

theorem KeyedById.insert (h : KeyedById services) (service : ServiceInfo) :
    KeyedById (services.insert service.id service) := by
  intro id other hother
  rw [SortedMap.find?_insert] at hother
  split_ifs at hother with hid
  · rw [← Option.some.inj hother, hid]
  · exact h id other hother

theorem KeyedById.erase (h : KeyedById services) (id : String) : KeyedById (services.erase id) := by
  intro other service hother
  rw [SortedMap.find?_erase] at hother
  split_ifs at hother
  exact h other service hother

/-- What a reload stores keeps the table keyed exactly if it has the id it is stored under. -/
theorem KeyedById.insert_iff (h : KeyedById services) (id : String) (service : ServiceInfo) :
    KeyedById (services.insert id service) ↔ service.id = id := by
  constructor
  · intro hkeyed
    exact hkeyed id service (SortedMap.find?_insert_self services id service)
  · intro hid
    rw [← hid]
    exact h.insert service

/-- The directories of the table: each entry's is listed and still holds what the entry was loaded
from, and a listed directory of no entry does not load. -/
structure SameDirectories (qt : JsonText) (host : ServiceHost) (entries : List String) : Prop where
  listed : ∀ id service, host.manager.services.find? id = some service →
    service.serviceDir ∈ entries ∧ loadService qt host.disk service.serviceDir = .ok service
  known : ∀ serviceDir ∈ entries, ∀ info, loadService qt host.disk serviceDir = .ok info →
    ∃ id service, host.manager.services.find? id = some service ∧ service.serviceDir = serviceDir

/-- **A rescan gives the same table.**  Where the table is keyed by id, a scan of the same
directories, in any order, finds under every id what the table has. -/
theorem rescan_of_keyed {qt : JsonText} {host : ServiceHost} {entries : List String}
    (hkeyed : KeyedById host.manager.services) (hsame : SameDirectories qt host entries) :
    scan qt host.disk entries = host.manager.services := by
  -- whatever loads is an entry of the table
  have hentry : ∀ info ∈ entries.filterMap fun serviceDir =>
      (loadService qt host.disk serviceDir).toOption,
      host.manager.services.find? info.id = some info := by
    intro info hinfo
    obtain ⟨serviceDir, hdir, hload⟩ := List.mem_filterMap.mp hinfo
    have hloads : loadService qt host.disk serviceDir = .ok info := by
      cases hcase : loadService qt host.disk serviceDir with
      | error e => simp [hcase, Except.toOption] at hload
      | ok other =>
        rw [hcase] at hload
        rw [Option.some.inj hload]
    obtain ⟨id, service, hservice, rfl⟩ := hsame.known serviceDir hdir info hloads
    have hown := (hsame.listed id service hservice).2
    obtain rfl := Except.ok.inj (hown.symm.trans hloads)
    rw [hkeyed id service hservice]
    exact hservice
  apply SortedMap.ext_find?
  intro id
  rw [find?_scan]
  cases hfound : host.manager.services.find? id with
  | none =>
    apply List.find?_eq_none.mpr
    intro info hinfo hid
    have := hentry info hinfo
    rw [of_decide_eq_true hid, hfound] at this
    simp at this
  | some service =>
    -- the entry's own directory loads with the id, so a directory is found, and it is the entry
    have hlisted := hsame.listed id service hfound
    have hmem : service ∈ entries.filterMap fun serviceDir =>
        (loadService qt host.disk serviceDir).toOption :=
      List.mem_filterMap.mpr ⟨service.serviceDir, hlisted.1, by rw [hlisted.2]; rfl⟩
    have hsome : ((entries.filterMap fun serviceDir =>
        (loadService qt host.disk serviceDir).toOption).find? fun info => info.id = id).isSome :=
      List.find?_isSome.mpr ⟨service, hmem, by simp [hkeyed id service hfound]⟩
    obtain ⟨info, hinfo⟩ := Option.isSome_iff_exists.mp hsome
    rw [hinfo]
    have hid : info.id = id := by simpa using List.find?_some hinfo
    have := hentry info (List.mem_of_find?_eq_some hinfo)
    rw [hid, hfound] at this
    exact this.symm

/-! ## §4. The table over runs -/

namespace ServerManager

/-- A rescan takes what the scanner finds. -/
theorem rescanServices_services (validate : ConfigValidator) (found : ServiceMap)
    (revalidateProjects restartScheduling stopInvalidProjects : Bool)
    (spawn : String → SpawnOutcome) (s : ServerManager) :
    (rescanServices validate found revalidateProjects restartScheduling stopInvalidProjects
      spawn s).1.services = found := by
  rw [rescanServices_apply]
  cases restartScheduling with
  | true => rfl
  | false => rfl

/-- A creation stores the loaded service under its id, or changes no entry. -/
theorem createService_services (request : ServiceCreateRequest)
    (loaded : Except String ServiceInfo) (s : ServerManager) :
    (createService request loaded s).1.services = s.services ∨
      ∃ service, (createService request loaded s).1.services =
        s.services.insert service.id service := by
  unfold createService
  cases checkCreateService s request loaded with
  | error e => exact Or.inl rfl
  | ok service => exact Or.inr ⟨service, rfl⟩

/-- A deletion drops its entry, or changes no entry. -/
theorem deleteService_services (id : String) (force removed : Bool) (s : ServerManager) :
    (deleteService id force removed s).1.services = s.services ∨
      (deleteService id force removed s).1.services = s.services.erase id := by
  simp only [deleteService, Action.bind_apply]
  split_ifs
  · exact Or.inl rfl
  · exact Or.inl rfl
  · right
    simp only [Action.seq_apply, Action.modify_apply, forEach_stopAndTerminate,
      Action.emit_apply]
  · left
    simp only [Action.seq_apply, Action.modify_apply, forEach_stopAndTerminate,
      Action.emit_apply]

end ServerManager

namespace ServiceHost

/-- The id in the manifest of a directory, if the manifest can be read and is accepted. -/
def manifestId (qt : JsonText) (disk : ServicesDisk) (serviceDir : String) : Option String :=
  match disk.read serviceDir ["manifest.json"] with
  | some data => (manifestOf qt data).toOption.map ServiceManifest.id
  | none => none

variable {qt : JsonText}

theorem manifestId_of_loads {disk : ServicesDisk} {serviceDir : String} {info : ServiceInfo}
    (h : loadService qt disk serviceDir = .ok info) :
    manifestId qt disk serviceDir = some info.id := by
  obtain ⟨data, manifest, hdata, hmanifest, hid, -, -⟩ := (loadService_ok_iff.mp h).manifest
  unfold manifestId
  rw [hdata]
  show (manifestOf qt data).toOption.map _ = _
  rw [hmanifest, hid]
  rfl

/-- The directory of the entry does not load, or its manifest has the id of the entry. -/
def MeetsId (qt : JsonText) (host : ServiceHost) (id : String) : Prop :=
  ∀ service, host.manager.services.find? id = some service →
    (loadService qt host.disk service.serviceDir).isOk = true →
      manifestId qt host.disk service.serviceDir = some id

/-- No reload of the step meets a manifest with another id than the one it stores under. -/
def MeetsOwnId (qt : JsonText) (host : ServiceHost) : ServiceOp → Prop
  | .reload id => MeetsId qt host id
  | .writeFile id path body outcome =>
    reloads path = true → ∀ write, Writes qt host id path body outcome write →
      MeetsId qt (host.withContent write) id
  | _ => True

/-- **One reload.**  It keeps the table keyed exactly if it meets the id. -/
theorem keyedById_reload_iff {host : ServiceHost} {id : String}
    (h : KeyedById host.manager.services) :
    KeyedById (host.reloadService qt id).1.manager.services ↔ MeetsId qt host id := by
  rcases reloadService_cases qt host id with ⟨hnone, hresult⟩ | ⟨service, hservice, hcases⟩
  · rw [hresult]
    apply iff_of_true h
    intro service hservice
    rw [hnone] at hservice
    simp at hservice
  · rcases hcases with ⟨e, hload, hresult⟩ | ⟨loaded, hload, hresult⟩
    · rw [hresult]
      apply iff_of_true h
      intro other hother hok
      obtain rfl : other = service := Option.some.inj (hother.symm.trans hservice)
      rw [hload] at hok
      simp [Except.isOk, Except.toBool] at hok
    · rw [hresult]
      show KeyedById (host.manager.services.insert id loaded) ↔ _
      rw [h.insert_iff]
      have hid := manifestId_of_loads hload
      constructor
      · intro hsame other hother _
        obtain rfl : other = service := Option.some.inj (hother.symm.trans hservice)
        rw [hid, hsame]
      · intro hmeets
        have hok : (loadService qt host.disk service.serviceDir).isOk = true := by
          rw [hload]
          rfl
        exact Option.some.inj (hid.symm.trans (hmeets service hservice hok))

/-- What follows a write changes the table as a reload does, or not at all. -/
theorem afterWrite_fst (qt : JsonText) (host : ServiceHost) (id path : String)
    (write : FileWrite) :
    (afterWrite qt id path write host).1 =
      if reloads path then (host.reloadService qt id).1 else host := by
  unfold afterWrite
  by_cases hreloads : reloads path = true
  · simp only [if_pos hreloads]
    split
    next => rfl
    next => rfl
  · simp only [if_neg hreloads]

/-- **One step.**  A table that is keyed by id stays so exactly if the step meets no foreign id. -/
theorem keyedById_step_iff {host : ServiceHost} {op : ServiceOp}
    (h : KeyedById host.manager.services) :
    KeyedById ((serviceMachine qt).step host op).1.manager.services ↔ MeetsOwnId qt host op := by
  cases op with
  | rescan validate entries revalidateProjects restartScheduling stopInvalidProjects spawn =>
    apply iff_of_true _ trivial
    show KeyedById (ServerManager.rescanServices _ _ _ _ _ _ _).1.services
    rw [ServerManager.rescanServices_services]
    exact keyedById_scan qt host.disk entries
  | create dataRoot create run =>
    apply iff_of_true _ trivial
    show KeyedById (ServerManager.createService _ _ _).1.services
    rcases ServerManager.createService_services create.request
      (createDirectory qt host.disk (dataRoot ++ "/services/" ++ create.id) create run).1
      host.manager with hsame | ⟨service, hinsert⟩
    · rw [hsame]
      exact h
    · rw [hinsert]
      exact h.insert service
  | delete id force removed =>
    apply iff_of_true _ trivial
    show KeyedById (ServerManager.deleteService _ _ _ _).1.services
    rcases ServerManager.deleteService_services id force removed host.manager with hsame | herase
    · rw [hsame]
      exact h
    · rw [herase]
      exact h.erase id
  | reload id => exact keyedById_reload_iff h
  | writeFile id path body outcome =>
    show KeyedById (host.handleServiceFileWrite qt id path body outcome).1.manager.services ↔
      (reloads path = true → ∀ write, Writes qt host id path body outcome write →
        MeetsId qt (host.withContent write) id)
    rcases handleServiceFileWrite_cases qt host id path body outcome with
      ⟨⟨status, message, hrefused⟩, hnone⟩ | ⟨write, hwrites, hresult⟩
    · rw [hrefused]
      apply iff_of_true h
      intro _ write hwrites
      exact absurd hwrites (hnone write)
    · rw [hresult, afterWrite_fst]
      have hunique : ∀ other, Writes qt host id path body outcome other → other = write := by
        intro other hother
        exact Except.ok.inj (hother.checked.symm.trans hwrites.checked)
      by_cases hreloads : reloads path = true
      · have hreload : KeyedById ((host.withContent write).reloadService qt id).1.manager.services ↔
            MeetsId qt (host.withContent write) id := keyedById_reload_iff h
        rw [if_pos hreloads, hreload]
        constructor
        · intro hmeets _ other hother
          rw [hunique other hother]
          exact hmeets
        · intro hmeets
          exact hmeets hreloads write hwrites
      · rw [if_neg hreloads]
        exact iff_of_true h fun hyes => absurd hyes hreloads
  | edited disk => exact iff_of_true h trivial

/-- **The table over a run.**  From the empty table on, whatever the directories hold, a run keeps
every entry under its own id, and every table what a rescan of its directories gives, exactly if no
reload on the way meets a manifest with another id than the one it stores under. -/
theorem keyed_iff_meetsOwnId (qt : JsonText) (disk : ServicesDisk) (ops : List ServiceOp) :
    (serviceMachine qt).EveryState
        (fun c => KeyedById c.state.manager.services ∧
          ∀ entries, SameDirectories qt c.state entries →
            scan qt c.state.disk entries = c.state.manager.services)
        (Machine.start { disk := disk }) ops ↔
      (serviceMachine qt).EveryStep (fun c op => MeetsOwnId qt c.state op)
        (Machine.start { disk := disk }) ops := by
  have hrescan : ∀ state : ServiceHost, KeyedById state.manager.services →
      ∀ entries, SameDirectories qt state entries →
        scan qt state.disk entries = state.manager.services :=
    fun state hkeyed entries hsame => rescan_of_keyed hkeyed hsame
  have hempty : KeyedById (SortedMap.empty : ServiceMap) := by
    intro id service hfind
    simp at hfind
  apply Machine.everyState_iff_everyStep
  · intro c op hc
    have hstep : KeyedById ((serviceMachine qt).step c.state op).1.manager.services ↔
        MeetsOwnId qt c.state op := keyedById_step_iff hc.1
    constructor
    · intro hnext
      exact hstep.mp hnext.1
    · intro hmeets
      exact ⟨hstep.mpr hmeets, hrescan _ (hstep.mpr hmeets)⟩
  · exact ⟨hempty, hrescan _ hempty⟩

/-! ### A manifest with another id -/

/-- The manifest of `plainHost` with the id `t`. -/
def renamedManifest : String :=
  "\x7b\"manifestVersion\":\"1\",\"id\":\"t\",\"name\":\"s\",\"version\":\"1\"\x7d"

/-- `QJsonDocument` on the texts used here. -/
def renamedJson : JsonText where
  fromJson data :=
    if data = toUtf8 renamedManifest then
      .ok (.obj [("id", .str "t"), ("manifestVersion", .str "1"), ("name", .str "s"),
        ("version", .str "1")])
    else plainJson.fromJson data
  toJson _ := ""

/-- A scan finds the service `s`, and then its manifest is replaced through the file API. -/
def renamedRun : ServiceHost :=
  ((serviceMachine renamedJson).run (Machine.start { disk := plainHost.disk })
    [ .rescan (fun _ _ => .error "") ["/services/s"] true false false fun _ => .running,
      .writeFile "s" "manifest.json" (.ok [("content", .str renamedManifest)]) (.ok ()) ]).state

/-- **An entry under a foreign id.**  After the write the service `t` is stored under `s`, and a
rescan of the same directory stores it under `t`. -/
theorem renamed_breaks_key :
    (renamedRun.manager.services.find? "s").map (·.id) = some "t" ∧
      ((scan renamedJson renamedRun.disk ["/services/s"]).find? "s").map (·.id) = none ∧
      ((scan renamedJson renamedRun.disk ["/services/s"]).find? "t").map (·.id) = some "t" := by
  decide +kernel

end ServiceHost

end Stdiolink.Server
