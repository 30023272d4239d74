/-
  Stdiolink.Server.ServiceFiles — the directories of the services, `scanner/service_scanner.cpp`
  and `http/service_file_handler.cpp`, and the two requests of `http/api_router.cpp` that change
  a file in place, `handleServiceFileWrite` and `handleServiceFileDelete`.

  A service directory is a tree of files; what lies below something is below a directory.  The
  scanner reads three files of it.  The requests name a file by a relative path, which is checked,
  cleaned and then used, while the special cases of the handlers look at the path as it was sent.
  The platform is Unix: `/` separates names, and a backslash is a character like any other to the
  file system.  Links are not modelled; a path through one is refused.

  Main results:
    * `loadService_ok_iff`    — what a directory holds when it loads;
    * `handleServiceFileWrite_cases`, `handleServiceFileDelete_cases` — all that a request can do.
-/
import Stdiolink.Meta.ServiceSchema
import Stdiolink.Server.ApiRouter

namespace Stdiolink.Server

open Stdiolink.Lib
open Stdiolink.Protocol
open Stdiolink.Meta

/-! ## §1. Trees of files -/

/-- `QString::toUtf8`. -/
def toUtf8 (text : String) : List UInt8 := text.toUTF8.data.toList

/-- What lies at a path.  A file can be opened for reading or not. -/
inductive Node where
  | file (content : List UInt8) (readable : Bool)
  | dir
  deriving DecidableEq

/-- A service directory: what lies at each path below it. -/
structure ServiceTree where
  node : List String → Option Node
  root : node [] = some .dir
  parent : ∀ path name, node (path ++ [name]) ≠ none → node path = some .dir

namespace ServiceTree

/-- The tree with these files in its root, and nothing else. -/
def ofFiles (files : List (String × List UInt8)) : ServiceTree where
  node
    | [] => some .dir
    | [name] => (files.lookup name).map fun content => .file content true
    | _ => none
  root := rfl
  parent path name h := by
    match path with
    | [] => rfl
    | [_] => simp at h
    | _ :: _ :: _ => simp at h

/-- Give the file at this path another content. -/
def replace (tree : ServiceTree) (path : List String) (content : List UInt8) : ServiceTree where
  node q :=
    if q = path then
      match tree.node path with
      | some (.file _ readable) => some (.file content readable)
      | other => other
    else tree.node q
  root := by
    by_cases hpath : [] = path
    · rw [if_pos hpath, ← hpath, tree.root]
    · rw [if_neg hpath]
      exact tree.root
  parent q name h := by
    -- something lies below `q`, so a directory does, and a directory is not replaced
    have hbelow : tree.node (q ++ [name]) ≠ none := by
      intro hnone
      by_cases hq : q ++ [name] = path
      · rw [if_pos hq, ← hq, hnone] at h
        exact h rfl
      · rw [if_neg hq] at h
        exact h hnone
    have hdir := tree.parent q name hbelow
    by_cases hq : q = path
    · rw [if_pos hq, ← hq, hdir]
    · rw [if_neg hq]
      exact hdir

/-- Take the file at this path away. -/
def remove (tree : ServiceTree) (path : List String) : ServiceTree where
  node q :=
    if q = path ∧ tree.node path ≠ some .dir then none else tree.node q
  root := by
    by_cases hpath : [] = path
    · rw [← hpath, tree.root]
      simp
    · rw [if_neg fun h => hpath h.1]
      exact tree.root
  parent q name h := by
    have hbelow : tree.node (q ++ [name]) ≠ none := by
      intro hnone
      rw [hnone, ite_self] at h
      exact h rfl
    have hdir := tree.parent q name hbelow
    rw [if_neg]
    · exact hdir
    · intro hq
      rw [← hq.1] at hq
      exact hq.2 hdir

variable {path : List String}

theorem node_replace_self {tree : ServiceTree} {old : List UInt8} {readable : Bool}
    (h : tree.node path = some (.file old readable)) (content : List UInt8) :
    (tree.replace path content).node path = some (.file content readable) := by
  show (if path = path then _ else _) = _
  rw [if_pos rfl, h]

theorem node_replace_of_ne (tree : ServiceTree) {q : List String} (hq : q ≠ path)
    (content : List UInt8) : (tree.replace path content).node q = tree.node q := by
  show (if q = path then _ else _) = _
  rw [if_neg hq]

theorem node_remove_self {tree : ServiceTree} (h : tree.node path ≠ some .dir) :
    (tree.remove path).node path = none := by
  show (if path = path ∧ _ then _ else _) = _
  rw [if_pos ⟨rfl, h⟩]

theorem node_remove_of_ne (tree : ServiceTree) {q : List String} (hq : q ≠ path) :
    (tree.remove path).node q = tree.node q := by
  show (if q = path ∧ _ then _ else _) = _
  rw [if_neg fun h => hq h.1]

end ServiceTree

/-- The service directories by their absolute paths. -/
abbrev ServicesDisk := SortedMap String ServiceTree

namespace ServicesDisk

/-- What lies below a service directory, if there is one. -/
def node (disk : ServicesDisk) (serviceDir : String) (path : List String) : Option Node :=
  (disk.find? serviceDir).bind fun tree => tree.node path

/-- `QFile::readAll` of an opened file; nothing where it cannot be opened. -/
def read (disk : ServicesDisk) (serviceDir : String) (path : List String) : Option (List UInt8) :=
  match disk.node serviceDir path with
  | some (.file content true) => some content
  | _ => none

/-- Change the tree of a service directory. -/
def update (disk : ServicesDisk) (serviceDir : String) (f : ServiceTree → ServiceTree) :
    ServicesDisk :=
  match disk.find? serviceDir with
  | some tree => disk.insert serviceDir (f tree)
  | none => disk

theorem node_update_of_ne (disk : ServicesDisk) {serviceDir other : String} (h : other ≠ serviceDir)
    (f : ServiceTree → ServiceTree) (path : List String) :
    (disk.update serviceDir f).node other path = disk.node other path := by
  unfold update node
  split
  · rw [SortedMap.find?_insert_of_ne disk h]
  · rfl

theorem find?_update_self {disk : ServicesDisk} {serviceDir : String} {tree : ServiceTree}
    (h : disk.find? serviceDir = some tree) (f : ServiceTree → ServiceTree) :
    (disk.update serviceDir f).find? serviceDir = some (f tree) := by
  unfold update
  rw [h, SortedMap.find?_insert_self]

end ServicesDisk

/-! ## §2. Relative paths -/

namespace ServiceFileHandler

/-- `kMaxFileSize`. -/
def kMaxFileSize : Nat := 1024 * 1024

/-- `coreFiles`. -/
def coreFiles : List String := ["manifest.json", "index.js", "config.schema.json"]

/-- A path cut at its separators. -/
def split (isSeparator : Char → Bool) (path : String) : List String :=
  (path.toList.splitOnP isSeparator).map String.ofList

/-- `relativePath.split(QRegularExpression("[/\\\\]"))`. -/
def segments (relativePath : String) : List String :=
  split (fun c => c = '/' || c = '\\') relativePath

/-- The names that `QDir::cleanPath` leaves of a path without `..`. -/
def cleanSegments (relativePath : String) : List String :=
  (split (· = '/') relativePath).filter fun seg => seg ≠ "" && seg ≠ "."

/-- `QDir::isAbsolutePath`; a colon begins the name of a Qt resource. -/
def isAbsolutePath (path : String) : Bool :=
  path.toList.head? = some '/' || path.toList.head? = some ':'

/-- The loop of `isPathSafe` over the segments, from a directory on; `last` is the last of all
segments. -/
def stepsSafe (node : List String → Option Node) (last : String) (dir : List String) :
    List String → Bool
  | [] => true
  | seg :: rest =>
    if seg = "" || seg = "." then stepsSafe node last dir rest
    -- the step leaves the file system for the resources, where nothing of this path exists
    else if isAbsolutePath seg then true
    else
      match node (dir ++ [seg]) with
      | some (.file _ _) =>
        if seg ≠ last then false else stepsSafe node last (dir ++ [seg]) rest
      | _ => stepsSafe node last (dir ++ [seg]) rest

/-- `isPathSafe`. -/
def isPathSafe (node : List String → Option Node) (relativePath : String) : Bool :=
  if relativePath = "" then false
  else if isAbsolutePath relativePath then false
  else if (segments relativePath).contains ".." then false
  -- the cleaned path does not begin with the service directory and a separator
  else if cleanSegments relativePath = [] then false
  else stepsSafe node ((segments relativePath).getLastD "") [] (segments relativePath)

/-- `resolveSafePath`; the resolved path as its names below the service directory. -/
def resolveSafePath (node : List String → Option Node) (relativePath : String) :
    Except String (List String) :=
  if !isPathSafe node relativePath then .error "path rejected: unsafe or invalid"
  else .ok (cleanSegments relativePath)

/-- `atomicWrite` to a path where something lies.  A `QSaveFile` refuses a directory; otherwise
the file system answers, and a failed write leaves the old content. -/
def atomicWrite (disk : ServicesDisk) (serviceDir : String) (file : List String)
    (content : List UInt8) (outcome : Except String Unit) : Except String ServicesDisk :=
  match disk.node serviceDir file with
  | some (.file _ _) =>
    match outcome with
    | .error e => .error e
    | .ok () => .ok (disk.update serviceDir fun tree => tree.replace file content)
  | _ => .error "failed to open for writing: Filename refers to a directory"

theorem atomicWrite_ok_iff {disk after : ServicesDisk} {serviceDir : String} {file : List String}
    {content : List UInt8} {outcome : Except String Unit} :
    atomicWrite disk serviceDir file content outcome = .ok after ↔
      (∃ old readable, disk.node serviceDir file = some (.file old readable)) ∧
        outcome = .ok () ∧
        after = disk.update serviceDir fun tree => tree.replace file content := by
  unfold atomicWrite
  constructor
  · intro h
    split at h
    next old readable hfile =>
      split at h
      next => simp at h
      next => exact ⟨⟨old, readable, hfile⟩, rfl, (Except.ok.inj h).symm⟩
    next => simp at h
  · intro ⟨⟨old, readable, hfile⟩, houtcome, hafter⟩
    simp only [hfile, houtcome, hafter]

end ServiceFileHandler

/-! ## §3. Loading a service -/

/-- `QJsonDocument` on the text of a file: the value that `fromJson` reads, or its error string,
and the text that `toJson` writes. -/
structure JsonText where
  fromJson : List UInt8 → Except String Json
  toJson : Json → String

section Load

variable (qt : JsonText)

/-- `ServiceManifest::loadFromFile` after the file has been read. -/
def manifestOf (data : List UInt8) : Except String ServiceManifest :=
  match qt.fromJson data with
  | .error e => .error ("manifest.json parse error: " ++ e)
  | .ok (.obj obj) => ServiceManifest.fromJson obj
  | .ok _ => .error "manifest.json must contain a JSON object"

/-- `ServiceManifest::loadFromFile`. -/
def loadManifest (filePath : String) (data : Option (List UInt8)) : Except String ServiceManifest :=
  match data with
  | none => .error ("cannot open manifest file: " ++ filePath)
  | some data => manifestOf qt data

/-- `ServiceConfigSchema::fromJsonFile` after the file has been read. -/
def schemaOf (data : List UInt8) : Except String ServiceConfigSchema :=
  match qt.fromJson data with
  | .error e => .error ("config.schema.json parse error: " ++ e)
  | .ok (.obj obj) => ServiceConfigSchema.fromJsonObject obj
  | .ok _ => .error "config.schema.json must be a JSON object"

/-- `ServiceConfigSchema::fromJsonFile`. -/
def loadSchema (filePath : String) (data : Option (List UInt8)) :
    Except String ServiceConfigSchema :=
  match data with
  | none => .error ("cannot open config schema file: " ++ filePath)
  | some data => schemaOf qt data

/-- The last part of `loadService`, which reads the schema file again. -/
def rawSchema (filePath : String) (data : Option (List UInt8)) : Except String Json :=
  match data with
  | none => .error ("cannot open config schema file: " ++ filePath)
  | some data =>
    match qt.fromJson data with
    | .error e => .error ("config.schema.json parse error: " ++ e)
    | .ok (.obj obj) => .ok (.obj obj)
    | .ok _ => .error "config.schema.json parse error: no error occurred"

/-- `ServiceDirectory::validate`. -/
def validateDirectory (disk : ServicesDisk) (serviceDir : String) : Except String Unit :=
  if !disk.contains serviceDir then
    .error ("service directory does not exist: " ++ serviceDir)
  else if !(disk.node serviceDir ["manifest.json"]).isSome then
    .error ("missing manifest.json in service directory: " ++ serviceDir)
  else if !(disk.node serviceDir ["index.js"]).isSome then
    .error ("missing index.js in service directory: " ++ serviceDir)
  else if !(disk.node serviceDir ["config.schema.json"]).isSome then
    .error ("missing config.schema.json in service directory: " ++ serviceDir)
  else .ok ()

/-- `ServiceScanner::loadService`, and `loadSingle`: a service that is not valid is its error. -/
def loadService (disk : ServicesDisk) (serviceDir : String) : Except String ServiceInfo :=
  let manifestPath := serviceDir ++ "/manifest.json"
  let configSchemaPath := serviceDir ++ "/config.schema.json"
  match validateDirectory disk serviceDir with
  | .error e => .error e
  | .ok () =>
    match loadManifest qt manifestPath (disk.read serviceDir ["manifest.json"]) with
    | .error e => .error e
    | .ok manifest =>
      match loadSchema qt configSchemaPath (disk.read serviceDir ["config.schema.json"]) with
      | .error e => .error e
      | .ok _ =>
        match rawSchema qt configSchemaPath (disk.read serviceDir ["config.schema.json"]) with
        | .error e => .error e
        | .ok raw =>
          .ok {
            id := manifest.id
            name := manifest.name
            version := manifest.version
            serviceDir := serviceDir
            rawConfigSchema := raw }

/-- The loop body of `ServiceScanner::scan`. -/
def scanEntry (disk : ServicesDisk) (result : ServiceMap) (serviceDir : String) : ServiceMap :=
  match loadService qt disk serviceDir with
  | .error _ => result
  | .ok info => if result.contains info.id then result else result.insert info.id info

/-- `ServiceScanner::scan` of the directories in the order in which they are listed. -/
def scan (disk : ServicesDisk) (entries : List String) : ServiceMap :=
  entries.foldl (scanEntry qt disk) SortedMap.empty

end Load

/-! ## §4. What a directory holds when it loads -/

/-- The content of a file that is there can be read or not, whatever it is. -/
theorem ServicesDisk.read_eq_some {disk : ServicesDisk} {serviceDir : String} {path : List String}
    {content : List UInt8} :
    disk.read serviceDir path = some content ↔
      disk.node serviceDir path = some (.file content true) := by
  unfold ServicesDisk.read
  constructor
  · intro h
    split at h
    next found hfound =>
      obtain rfl := Option.some.inj h
      exact hfound
    next => simp at h
  · intro h
    rw [h]

/-- Something lies in a directory only if the directory is there. -/
theorem ServicesDisk.contains_of_node {disk : ServicesDisk} {serviceDir : String}
    {path : List String} {node : Node} (h : disk.node serviceDir path = some node) :
    disk.contains serviceDir = true := by
  unfold ServicesDisk.node at h
  obtain ⟨tree, htree, -⟩ := Option.bind_eq_some_iff.mp h
  exact SortedMap.contains_eq_true.mpr ⟨tree, htree⟩

/-- What `loadService` finds in a directory that it loads. -/
structure Loads (qt : JsonText) (disk : ServicesDisk) (serviceDir : String) (info : ServiceInfo) :
    Prop where
  /-- The manifest can be read and is accepted. -/
  manifest : ∃ data manifest, disk.read serviceDir ["manifest.json"] = some data ∧
    manifestOf qt data = .ok manifest ∧ info.id = manifest.id ∧ info.name = manifest.name ∧
      info.version = manifest.version
  entry : (disk.node serviceDir ["index.js"]).isSome = true
  /-- The schema can be read and is accepted. -/
  schema : ∃ data schema obj, disk.read serviceDir ["config.schema.json"] = some data ∧
    schemaOf qt data = .ok schema ∧ qt.fromJson data = .ok (.obj obj) ∧
      info.rawConfigSchema = .obj obj
  dir : info.serviceDir = serviceDir

section LoadLemmas

variable {qt : JsonText} {disk : ServicesDisk} {serviceDir : String}

theorem validateDirectory_ok_iff :
    validateDirectory disk serviceDir = .ok () ↔
      (disk.node serviceDir ["manifest.json"]).isSome = true ∧
        (disk.node serviceDir ["index.js"]).isSome = true ∧
        (disk.node serviceDir ["config.schema.json"]).isSome = true := by
  unfold validateDirectory
  constructor
  · intro h
    split_ifs at h with hdir hmanifest hentry hschema
    rw [Bool.not_eq_true, Bool.not_eq_false'] at hmanifest hentry hschema
    exact ⟨hmanifest, hentry, hschema⟩
  · intro ⟨hmanifest, hentry, hschema⟩
    obtain ⟨node, hnode⟩ := Option.isSome_iff_exists.mp hmanifest
    have hdir := ServicesDisk.contains_of_node hnode
    rw [if_neg (by simp [hdir]), if_neg (by simp [hmanifest]), if_neg (by simp [hentry]),
      if_neg (by simp [hschema])]

/-- A schema is an object before it is anything else. -/
theorem schemaOf_object {data : List UInt8} {schema : ServiceConfigSchema}
    (h : schemaOf qt data = .ok schema) :
    ∃ obj, qt.fromJson data = .ok (.obj obj) ∧
      ServiceConfigSchema.fromJsonObject obj = .ok schema := by
  unfold schemaOf at h
  split at h
  next => simp at h
  next obj hobj => exact ⟨obj, hobj, h⟩
  next => simp at h

/-- **What a directory holds when it loads.**  The manifest and the schema can be read and are
accepted, and there is an entry file. -/
theorem loadService_ok_iff {info : ServiceInfo} :
    loadService qt disk serviceDir = .ok info ↔ Loads qt disk serviceDir info := by
  constructor
  · intro h
    -- down the stages, each of which leaves its fact
    unfold loadService at h
    simp only at h
    split at h
    next => simp at h
    next hvalid =>
    split at h
    next => simp at h
    next manifest hmanifest =>
    split at h
    next => simp at h
    next schema hschema =>
    split at h
    next => simp at h
    next raw hraw =>
    obtain rfl := Except.ok.inj h
    unfold loadManifest at hmanifest
    unfold loadSchema at hschema
    unfold rawSchema at hraw
    cases hdata : disk.read serviceDir ["manifest.json"] with
    | none => simp [hdata] at hmanifest
    | some data =>
    cases htext : disk.read serviceDir ["config.schema.json"] with
    | none => simp [htext] at hschema
    | some text =>
      rw [hdata] at hmanifest
      rw [htext] at hschema hraw
      obtain ⟨obj, hobj, -⟩ := schemaOf_object hschema
      simp only [hobj] at hraw
      obtain rfl := Except.ok.inj hraw
      exact
        { manifest := ⟨data, manifest, hdata, hmanifest, rfl, rfl, rfl⟩
          entry := (validateDirectory_ok_iff.mp hvalid).2.1
          schema := ⟨text, schema, obj, htext, hschema, hobj, rfl⟩
          dir := rfl }
  · intro h
    obtain ⟨data, manifest, hdata, hmanifest, hid, hname, hversion⟩ := h.manifest
    obtain ⟨text, schema, obj, htext, hschema, hobj, hraw⟩ := h.schema
    have hvalid : validateDirectory disk serviceDir = .ok () := by
      apply validateDirectory_ok_iff.mpr
      rw [ServicesDisk.read_eq_some.mp hdata, ServicesDisk.read_eq_some.mp htext]
      exact ⟨rfl, h.entry, rfl⟩
    unfold loadService loadManifest loadSchema rawSchema
    simp only [hvalid, hdata, htext, hmanifest, hschema, hobj]
    rw [← hid, ← hname, ← hversion, ← hraw]
    cases info with
    | mk id name version dir raw =>
      obtain rfl : dir = serviceDir := h.dir
      rfl

end LoadLemmas

/-! ## §5. The requests -/

/-- What a request for a file answers. -/
inductive FileResponse where
  | error (status : Nat) (message : String)
  /-- `path`, `size` and `updated`. -/
  | updated (path : String) (size : Nat)
  | noContent
  deriving DecidableEq

inductive ServiceFileEvent where
  | written (serviceDir : String) (file : List String) (content : List UInt8)
  | removed (serviceDir : String) (file : List String)
  | reloaded (serviceId : String) (result : Except String Unit)
  | responded (response : FileResponse)
  deriving DecidableEq

/-- The server and the service directories it works on. -/
structure ServiceHost where
  manager : ServerManager := {}
  disk : ServicesDisk := SortedMap.empty

/-- The result that a service operation reports. -/
def serviceResult : List ServerEvent → Except String Unit
  | .serviceResult result :: _ => result
  | _ => .ok ()

/-- What a request that passes the checks of `handleServiceFileWrite` writes. -/
structure FileWrite where
  serviceDir : String
  file : List String
  content : List UInt8

namespace ServiceHost

open ServiceFileHandler

section Handlers

variable (qt : JsonText)

/-- `ServerManager::reloadService`, which reads the directory of the entry. -/
def reloadService (id : String) (host : ServiceHost) : ServiceHost × Except String Unit :=
  let serviceDir := (host.manager.services.dir? id).getD ""
  let reloaded :=
    ServerManager.reloadService id (loadService qt host.disk serviceDir) host.manager
  ({ host with manager := reloaded.1 }, serviceResult reloaded.2)

/-- The two blocks of `handleServiceFileWrite` about the content of a special file, which they
know by the path of the request. -/
def checkContent (relativePath : String) (content : List UInt8) : Parsed Unit :=
  if relativePath = "manifest.json" then
    match qt.fromJson content with
    | .ok (.obj obj) =>
      match ServiceManifest.fromJson obj with
      | .error manifestErr => .error (400, "invalid manifest: " ++ manifestErr)
      | .ok _ => .ok ()
    | _ => .error (400, "manifest.json must be valid JSON object")
  else if relativePath = "config.schema.json" then
    match qt.fromJson content with
    | .ok (.obj _) => .ok ()
    | _ => .error (400, "config.schema.json must be valid JSON object")
  else .ok ()

/-- `handleServiceFileWrite` up to `atomicWrite`. -/
def checkFileWrite (host : ServiceHost) (id relativePath : String)
    (body : Parsed (List (String × Json))) : Parsed FileWrite :=
  match host.manager.services.find? id with
  | none => .error (404, "service not found")
  | some service =>
    if relativePath = "" then .error (400, "missing 'path' query parameter")
    else
      match resolveSafePath (host.disk.node service.serviceDir) relativePath with
      | .error e => .error (400, e)
      | .ok file =>
        if (host.disk.node service.serviceDir file).isNone then
          .error (404, "file not found")
        else
          match body with
          | .error (status, e) => .error (status, e)
          | .ok body =>
            match Json.value body "content" with
            | .str text =>
              let content := toUtf8 text
              if content.length > kMaxFileSize then
                .error (413, "content too large (max 1MB)")
              else
                match checkContent qt relativePath content with
                | .error refusal => .error refusal
                | .ok () => .ok ⟨service.serviceDir, file, content⟩
            | _ => .error (400, "missing required string field: content")

/-- The paths after whose write the service is loaded again. -/
def reloads (relativePath : String) : Bool :=
  relativePath = "manifest.json" || relativePath = "config.schema.json"

/-- `handleServiceFileWrite` after `atomicWrite`. -/
def afterWrite (id relativePath : String) (write : FileWrite) :
    Action ServiceHost ServiceFileEvent := fun host =>
  let event := ServiceFileEvent.written write.serviceDir write.file write.content
  let updated := ServiceFileEvent.responded (.updated relativePath write.content.length)
  if reloads relativePath then
    let reloaded := host.reloadService qt id
    match reloaded.2 with
    | .error reloadError =>
      (reloaded.1, [event, .reloaded id (.error reloadError),
        .responded (.error 500 ("file written but reload failed: " ++ reloadError))])
    | .ok () => (reloaded.1, [event, .reloaded id (.ok ()), updated])
  else (host, [event, updated])

/-- `handleServiceFileWrite`; `outcome` is the file system's answer to the write. -/
def handleServiceFileWrite (id relativePath : String) (body : Parsed (List (String × Json)))
    (outcome : Except String Unit) : Action ServiceHost ServiceFileEvent := fun host =>
  match checkFileWrite qt host id relativePath body with
  | .error (status, message) => (host, [.responded (.error status message)])
  | .ok write =>
    match atomicWrite host.disk write.serviceDir write.file write.content outcome with
    | .error e => (host, [.responded (.error 500 e)])
    | .ok disk => afterWrite qt id relativePath write { host with disk := disk }

end Handlers

/-- `handleServiceFileDelete` up to `QFile::remove`. -/
def checkFileDelete (host : ServiceHost) (id relativePath : String) :
    Parsed (String × List String) :=
  match host.manager.services.find? id with
  | none => .error (404, "service not found")
  | some service =>
    if relativePath = "" then .error (400, "missing 'path' query parameter")
    else if coreFiles.contains relativePath then
      .error (400, "cannot delete core file: " ++ relativePath)
    else
      match resolveSafePath (host.disk.node service.serviceDir) relativePath with
      | .error e => .error (400, e)
      | .ok file =>
        if (host.disk.node service.serviceDir file).isNone then
          .error (404, "file not found")
        else .ok (service.serviceDir, file)

/-- `handleServiceFileDelete`; `removed` is the answer of the file system, which removes no
directory this way. -/
def handleServiceFileDelete (id relativePath : String) (removed : Bool) :
    Action ServiceHost ServiceFileEvent := fun host =>
  match checkFileDelete host id relativePath with
  | .error (status, message) => (host, [.responded (.error status message)])
  | .ok (serviceDir, file) =>
    if host.disk.node serviceDir file = some .dir || !removed then
      (host, [.responded (.error 500 "failed to delete file")])
    else
      ({ host with disk := host.disk.update serviceDir fun tree => tree.remove file },
        [.removed serviceDir file, .responded .noContent])

/-! ## §6. What the requests do -/

section Cases

variable {qt : JsonText} {host : ServiceHost} {id relativePath : String}

/-- A reload finds no entry, finds a directory that does not load, or stores what it loads under
the id of the request. -/
theorem reloadService_cases (qt : JsonText) (host : ServiceHost) (id : String) :
    (host.manager.services.find? id = none ∧
      host.reloadService qt id = (host, .error "service not found in memory")) ∨
    ∃ service, host.manager.services.find? id = some service ∧
      ((∃ e, loadService qt host.disk service.serviceDir = .error e ∧
          host.reloadService qt id = (host, .error ("failed to reload service: " ++ e))) ∨
        ∃ loaded, loadService qt host.disk service.serviceDir = .ok loaded ∧
          host.reloadService qt id =
            ({ host with
                manager := { host.manager with
                  services := host.manager.services.insert id loaded } }, .ok ())) := by
  cases hservice : host.manager.services.find? id with
  | none =>
    have hunknown := SortedMap.contains_eq_false.mpr hservice
    left
    refine ⟨rfl, ?_⟩
    simp [reloadService, ServerManager.reloadService, hunknown, serviceResult]
  | some service =>
    have hknown := SortedMap.contains_eq_true.mpr ⟨service, hservice⟩
    have hdir : (host.manager.services.dir? id).getD "" = service.serviceDir := by
      rw [ServiceMap.dir?, hservice]
      rfl
    right
    refine ⟨service, rfl, ?_⟩
    cases hload : loadService qt host.disk service.serviceDir with
    | error e =>
      left
      refine ⟨e, rfl, ?_⟩
      simp [reloadService, ServerManager.reloadService, hknown, hdir, hload, serviceResult]
    | ok loaded =>
      right
      refine ⟨loaded, rfl, ?_⟩
      simp [reloadService, ServerManager.reloadService, hknown, hdir, hload, serviceResult]

/-- What a request that passes the checks of a write has shown. -/
structure PassedWrite (qt : JsonText) (host : ServiceHost) (id relativePath : String)
    (write : FileWrite) : Prop where
  service : ∃ service, host.manager.services.find? id = some service ∧
    service.serviceDir = write.serviceDir
  resolved : resolveSafePath (host.disk.node write.serviceDir) relativePath = .ok write.file
  present : host.disk.node write.serviceDir write.file ≠ none
  content : checkContent qt relativePath write.content = .ok ()

theorem checkFileWrite_ok {body : Parsed (List (String × Json))} {write : FileWrite}
    (h : checkFileWrite qt host id relativePath body = .ok write) :
    PassedWrite qt host id relativePath write := by
  unfold checkFileWrite at h
  split at h
  next => simp at h
  next service hservice =>
  split_ifs at h
  split at h
  next => simp at h
  next file hfile =>
  split_ifs at h with hpresent
  split at h
  next => simp at h
  next =>
  split at h
  next text htext =>
    simp only at h
    split_ifs at h
    split at h
    next => simp at h
    next hcontent =>
      obtain rfl := Except.ok.inj h
      have hnode : host.disk.node service.serviceDir file ≠ none := by simpa using hpresent
      exact ⟨⟨service, hservice, rfl⟩, hfile, hnode, hcontent⟩
  next => simp at h

/-- The request passes its checks and its content reaches the disk. -/
structure Writes (qt : JsonText) (host : ServiceHost) (id relativePath : String)
    (body : Parsed (List (String × Json))) (outcome : Except String Unit) (write : FileWrite) :
    Prop where
  checked : checkFileWrite qt host id relativePath body = .ok write
  outcome : outcome = .ok ()
  isFile : ∃ old readable, host.disk.node write.serviceDir write.file = some (.file old readable)

/-- The host with the new content of a file on its disk. -/
def withContent (host : ServiceHost) (write : FileWrite) : ServiceHost :=
  { host with
    disk := host.disk.update write.serviceDir fun tree => tree.replace write.file write.content }

/-- **All that a write request can do.**  It is refused and changes nothing, or it writes its
content and goes on from there. -/
theorem handleServiceFileWrite_cases (qt : JsonText) (host : ServiceHost) (id relativePath : String)
    (body : Parsed (List (String × Json))) (outcome : Except String Unit) :
    ((∃ status message, handleServiceFileWrite qt id relativePath body outcome host =
        (host, [.responded (.error status message)])) ∧
      ∀ write, ¬ Writes qt host id relativePath body outcome write) ∨
    ∃ write, Writes qt host id relativePath body outcome write ∧
      handleServiceFileWrite qt id relativePath body outcome host =
        afterWrite qt id relativePath write (host.withContent write) := by
  unfold handleServiceFileWrite
  cases hcheck : checkFileWrite qt host id relativePath body with
  | error refusal =>
    left
    refine ⟨⟨refusal.1, refusal.2, rfl⟩, ?_⟩
    intro write hwrites
    rw [hwrites.checked] at hcheck
    simp at hcheck
  | ok write =>
    cases hwrite : atomicWrite host.disk write.serviceDir write.file write.content outcome with
    | error e =>
      left
      refine ⟨⟨500, e, by simp only [hwrite]⟩, ?_⟩
      intro other hother
      obtain rfl := Except.ok.inj (hother.checked.symm.trans hcheck)
      have hok : atomicWrite host.disk other.serviceDir other.file other.content outcome =
          .ok (host.withContent other).disk :=
        atomicWrite_ok_iff.mpr ⟨hother.isFile, hother.outcome, rfl⟩
      rw [hwrite] at hok
      simp at hok
    | ok after =>
      obtain ⟨hfile, houtcome, hafter⟩ := atomicWrite_ok_iff.mp hwrite
      right
      refine ⟨write, ⟨hcheck, houtcome, hfile⟩, ?_⟩
      simp only [hwrite, hafter]
      rfl

/-- A file that a request can remove. -/
structure Removes (host : ServiceHost) (id relativePath : String) (removed : Bool)
    (serviceDir : String) (file : List String) : Prop where
  service : ∃ service, host.manager.services.find? id = some service ∧
    service.serviceDir = serviceDir
  notCore : relativePath ∉ coreFiles
  resolved : resolveSafePath (host.disk.node serviceDir) relativePath = .ok file
  isFile : ∃ old readable, host.disk.node serviceDir file = some (.file old readable)
  removed : removed = true

theorem checkFileDelete_ok {serviceDir : String} {file : List String}
    (h : checkFileDelete host id relativePath = .ok (serviceDir, file)) :
    (∃ service, host.manager.services.find? id = some service ∧
        service.serviceDir = serviceDir) ∧ relativePath ∉ coreFiles ∧
      resolveSafePath (host.disk.node serviceDir) relativePath = .ok file ∧
      host.disk.node serviceDir file ≠ none := by
  unfold checkFileDelete at h
  split at h
  next => simp at h
  next service hservice =>
  split_ifs at h with hempty hcore
  split at h
  next => simp at h
  next resolved hresolved =>
  split_ifs at h with hpresent
  obtain ⟨rfl, rfl⟩ := Prod.mk.inj (Except.ok.inj h)
  have hnode : host.disk.node service.serviceDir resolved ≠ none := by simpa using hpresent
  have hnotCore : relativePath ∉ coreFiles := by simpa using hcore
  exact ⟨⟨service, hservice, rfl⟩, hnotCore, hresolved, hnode⟩

/-- **All that a delete request can do.**  It is refused and changes nothing, or it removes the
file its path resolves to. -/
theorem handleServiceFileDelete_cases (host : ServiceHost) (id relativePath : String)
    (removed : Bool) :
    (∃ status message, handleServiceFileDelete id relativePath removed host =
        (host, [.responded (.error status message)])) ∨
    ∃ serviceDir file, Removes host id relativePath removed serviceDir file ∧
      handleServiceFileDelete id relativePath removed host =
        ({ host with disk := host.disk.update serviceDir fun tree => tree.remove file },
          [.removed serviceDir file, .responded .noContent]) := by
  unfold handleServiceFileDelete
  cases hcheck : checkFileDelete host id relativePath with
  | error refusal => exact Or.inl ⟨refusal.1, refusal.2, rfl⟩
  | ok target =>
    obtain ⟨serviceDir, file⟩ := target
    obtain ⟨hservice, hcore, hresolved, hpresent⟩ := checkFileDelete_ok hcheck
    dsimp only
    by_cases hrefused : (host.disk.node serviceDir file = some .dir || !removed) = true
    · left
      exact ⟨500, "failed to delete file", if_pos hrefused⟩
    · right
      have hboth : host.disk.node serviceDir file ≠ some .dir ∧ removed = true := by
        simpa using hrefused
      -- something lies there that is no directory
      obtain ⟨node, hnode⟩ := Option.ne_none_iff_exists'.mp hpresent
      cases node with
      | dir => exact absurd hnode hboth.1
      | file old readable =>
        refine ⟨serviceDir, file, ?_, if_neg hrefused⟩
        exact ⟨hservice, hcore, hresolved, ⟨old, readable, hnode⟩, hboth.2⟩

end Cases

end ServiceHost

end Stdiolink.Server
