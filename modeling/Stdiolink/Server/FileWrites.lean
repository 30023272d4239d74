/-
  Stdiolink.Server.FileWrites — what `handleServiceFileWrite` leaves behind.

  A write is checked, made, and followed by a reload when its path is `manifest.json` or
  `config.schema.json`.  The check before the write is weaker than the reload after it, so there
  is a third outcome beside success and refusal: the file is written, the reload fails, and the
  answer is an error that says so.

  Main results:
    * `loads_withContent` — a file that the scanner does not read as JSON may hold anything;
    * `afterWrite_cases`  — no reload, a reload that fails, or one that stores what it loads;
    * `refusal_keeps_iff` — when an error changes nothing and a success leaves a service that
                            loads;
    * `badSchema_written` — a refused schema stays on the disk, and a respelled path breaks the
                            service without an error.
-/
import Stdiolink.Server.ServiceFiles

namespace Stdiolink.Server

open Stdiolink.Lib
open Stdiolink.Protocol
open Stdiolink.Meta

namespace ServiceHost

open ServiceFileHandler

/-! ## §1. The disk after a write -/

section Disk

variable {qt : JsonText} {host : ServiceHost} {write : FileWrite}

variable {serviceDir : String}

/-- Every other file is as it was. -/
theorem node_withContent_of_ne {file : List String}
    (h : (serviceDir, file) ≠ (write.serviceDir, write.file)) :
    (host.withContent write).disk.node serviceDir file = host.disk.node serviceDir file := by
  show (host.disk.update write.serviceDir _).node serviceDir file = _
  by_cases hdir : serviceDir = write.serviceDir
  · have hfile : file ≠ write.file := fun heq => h (by rw [hdir, heq])
    rw [hdir]
    unfold ServicesDisk.node
    cases htree : host.disk.find? write.serviceDir with
    | none => simp [ServicesDisk.update, htree]
    | some tree =>
      rw [ServicesDisk.find?_update_self htree]
      exact tree.node_replace_of_ne hfile write.content
  · exact host.disk.node_update_of_ne hdir _ file

/-- The written file holds the new content. -/
theorem node_withContent_self {old : List UInt8} {readable : Bool}
    (h : host.disk.node write.serviceDir write.file = some (.file old readable)) :
    (host.withContent write).disk.node write.serviceDir write.file =
      some (.file write.content readable) := by
  show (host.disk.update write.serviceDir _).node write.serviceDir write.file = _
  unfold ServicesDisk.node at h ⊢
  obtain ⟨tree, htree, hnode⟩ := Option.bind_eq_some_iff.mp h
  rw [ServicesDisk.find?_update_self htree]
  exact ServiceTree.node_replace_self hnode write.content

/-- A write makes no file unreadable, and another file reads as before. -/
theorem read_withContent_of_ne {file : List String}
    (h : (serviceDir, file) ≠ (write.serviceDir, write.file)) :
    (host.withContent write).disk.read serviceDir file = host.disk.read serviceDir file := by
  unfold ServicesDisk.read
  rw [node_withContent_of_ne h]

/-- **A file that is not read as JSON may hold anything.**  With a write to a file beside the
manifest and the schema a service loads if it did before, with the same data. -/
theorem loads_withContent {info : ServiceInfo}
    (hfile : ∃ old readable, host.disk.node write.serviceDir write.file = some (.file old readable))
    (hmanifest : write.file ≠ ["manifest.json"]) (hschema : write.file ≠ ["config.schema.json"]) :
    Loads qt (host.withContent write).disk serviceDir info ↔ Loads qt host.disk serviceDir info := by
  have hread : ∀ file, write.file ≠ file →
      (host.withContent write).disk.read serviceDir file = host.disk.read serviceDir file := by
    intro file hne
    apply read_withContent_of_ne
    intro heq
    exact hne (Prod.mk.inj heq).2.symm
  obtain ⟨old, readable, hold⟩ := hfile
  -- the entry file is there or not, also where it is the one written
  have hentry : ((host.withContent write).disk.node serviceDir ["index.js"]).isSome =
      (host.disk.node serviceDir ["index.js"]).isSome := by
    by_cases hsame : (serviceDir, ["index.js"]) = (write.serviceDir, write.file)
    · obtain ⟨hdir, hentry⟩ := Prod.mk.inj hsame
      rw [hdir, hentry, node_withContent_self hold, hold]
      rfl
    · rw [node_withContent_of_ne hsame]
  constructor
  · intro h
    have hm := h.manifest
    have hs := h.schema
    rw [hread _ hmanifest] at hm
    rw [hread _ hschema] at hs
    exact ⟨hm, hentry ▸ h.entry, hs, h.dir⟩
  · intro h
    refine ⟨?_, hentry ▸ h.entry, ?_, h.dir⟩
    · rw [hread _ hmanifest]
      exact h.manifest
    · rw [hread _ hschema]
      exact h.schema

end Disk

/-! ## §2. The reload -/

section Reload

variable {qt : JsonText} {host : ServiceHost} {id path : String}

theorem reloads_iff : reloads path = true ↔ path = "manifest.json" ∨ path = "config.schema.json" := by
  unfold reloads
  rw [Bool.or_eq_true, decide_eq_true_eq, decide_eq_true_eq]

/-- The path resolves to its cleaned segments, or to nothing. -/
theorem resolved_eq {node : List String → Option Node} {file : List String}
    (h : resolveSafePath node path = .ok file) : file = cleanSegments path := by
  unfold resolveSafePath at h
  split_ifs at h
  exact (Except.ok.inj h).symm

/-- The special paths resolve to the files they name. -/
theorem cleanSegments_special (h : path = "manifest.json" ∨ path = "config.schema.json") :
    cleanSegments path = ["manifest.json"] ∨ cleanSegments path = ["config.schema.json"] := by
  rcases h with rfl | rfl
  · left
    decide +kernel
  · right
    decide +kernel

/-- **After the write**: no reload, a reload that fails, or one that stores what it loads. -/
theorem afterWrite_cases {write : FileWrite} {service : ServiceInfo}
    (hservice : host.manager.services.find? id = some service)
    (hdir : service.serviceDir = write.serviceDir) :
    (reloads path = false ∧ afterWrite qt id path write (host.withContent write) =
      (host.withContent write, [.written write.serviceDir write.file write.content,
        .responded (.updated path write.content.length)])) ∨
    (∃ e, reloads path = true ∧
      loadService qt (host.withContent write).disk write.serviceDir = .error e ∧
      afterWrite qt id path write (host.withContent write) =
        (host.withContent write, [.written write.serviceDir write.file write.content,
          .reloaded id (.error ("failed to reload service: " ++ e)),
          .responded (.error 500
            ("file written but reload failed: " ++ ("failed to reload service: " ++ e)))])) ∨
    ∃ loaded, reloads path = true ∧
      loadService qt (host.withContent write).disk write.serviceDir = .ok loaded ∧
      afterWrite qt id path write (host.withContent write) =
        ({ host.withContent write with
            manager := { host.manager with
              services := host.manager.services.insert id loaded } },
          [.written write.serviceDir write.file write.content, .reloaded id (.ok ()),
            .responded (.updated path write.content.length)]) := by
  cases hreloads : reloads path with
  | false =>
    refine .inl ⟨rfl, ?_⟩
    unfold afterWrite
    simp [hreloads]
  | true =>
    rcases reloadService_cases qt (host.withContent write) id with ⟨hnone, -⟩ | ⟨found, hfound, h⟩
    · exact absurd (hnone.symm.trans hservice) (by simp)
    obtain rfl : found = service := Option.some.inj (hfound.symm.trans hservice)
    rw [hdir] at h
    rcases h with ⟨e, hload, hresult⟩ | ⟨loaded, hload, hresult⟩
    · refine .inr (.inl ⟨e, rfl, hload, ?_⟩)
      unfold afterWrite
      simp [hreloads, hresult]
    · refine .inr (.inr ⟨loaded, rfl, hload, ?_⟩)
      unfold afterWrite
      simp only [hreloads, if_true, hresult]
      rfl

end Reload

/-! ## §3. When an error changes nothing -/

/-- **The property.**  After an error the files and the service table are as they were, and after
a success the service loads. -/
structure RefusalKeeps (qt : JsonText) (host : ServiceHost) (id : String) (after : ServiceHost)
    (events : List ServiceFileEvent) : Prop where
  refused : ∀ status message, .responded (.error status message) ∈ events →
    after.manager = host.manager ∧
      ∀ serviceDir file, after.disk.node serviceDir file = host.disk.node serviceDir file
  loads : ∀ answered size, .responded (.updated answered size) ∈ events →
    ∀ service, host.manager.services.find? id = some service →
      ∃ info, Loads qt after.disk service.serviceDir info

/-- The manifest or the schema of a service, by whatever path. -/
def IsCore (write : FileWrite) : Prop :=
  write.file = ["manifest.json"] ∨ write.file = ["config.schema.json"]

/-- A content of the manifest or the schema that the service loads with, or the one that is there
already, if the path is the plain one; any content of another file of a service that loads. -/
def Fits (qt : JsonText) (host : ServiceHost) (path : String) (write : FileWrite) : Prop :=
  (IsCore write → (∃ info, Loads qt (host.withContent write).disk write.serviceDir info) ∨
    reloads path = true ∧
      ∃ readable, host.disk.node write.serviceDir write.file = some (.file write.content readable)) ∧
  (¬ IsCore write → ∃ info, Loads qt host.disk write.serviceDir info)

section Keeps

variable {qt : JsonText} {host : ServiceHost} {id path : String} {write : FileWrite}

/-- Without a reload, the service loads afterwards iff the content fits. -/
theorem fits_plain (hfile : ∃ old readable,
      host.disk.node write.serviceDir write.file = some (.file old readable))
    (hreloads : reloads path = false) :
    Fits qt host path write ↔
      ∃ info, Loads qt (host.withContent write).disk write.serviceDir info := by
  by_cases hcore : IsCore write
  · simp [Fits, hcore, hreloads]
  · obtain ⟨hmanifest, hschema⟩ := not_or.mp hcore
    simp [Fits, hcore, loads_withContent hfile hmanifest hschema]

/-- With a reload, the content may also be the old one. -/
theorem fits_reloaded (hcore : IsCore write) (hreloads : reloads path = true) :
    Fits qt host path write ↔
      (∃ info, Loads qt (host.withContent write).disk write.serviceDir info) ∨
        ∃ readable,
          host.disk.node write.serviceDir write.file = some (.file write.content readable) := by
  rw [Fits, and_iff_left (absurd hcore), imp_iff_right hcore, and_iff_right hreloads]

/-- The files are as they were iff the file holds its new content already. -/
theorem nodes_withContent_iff (hfile : ∃ old readable,
      host.disk.node write.serviceDir write.file = some (.file old readable)) :
    (∀ serviceDir file,
      (host.withContent write).disk.node serviceDir file = host.disk.node serviceDir file) ↔
      ∃ readable,
        host.disk.node write.serviceDir write.file = some (.file write.content readable) := by
  constructor
  · intro hsame
    obtain ⟨old, readable, hold⟩ := hfile
    exact ⟨readable, (hsame _ _).symm.trans (node_withContent_self hold)⟩
  · rintro ⟨readable, hold⟩ serviceDir file
    by_cases heq : (serviceDir, file) = (write.serviceDir, write.file)
    · obtain ⟨rfl, rfl⟩ := Prod.mk.inj heq
      rw [node_withContent_self hold, hold]
    · exact node_withContent_of_ne heq

/-- What a write leaves keeps the property iff the content fits. -/
theorem afterWrite_keeps_iff {service : ServiceInfo}
    (hservice : host.manager.services.find? id = some service)
    (hdir : service.serviceDir = write.serviceDir) (hresolved : write.file = cleanSegments path)
    (hfile : ∃ old readable,
      host.disk.node write.serviceDir write.file = some (.file old readable)) :
    RefusalKeeps qt host id (afterWrite qt id path write (host.withContent write)).1
        (afterWrite qt id path write (host.withContent write)).2 ↔ Fits qt host path write := by
  have hcore : reloads path = true → IsCore write := by
    intro hreloads
    rw [IsCore, hresolved]
    exact cleanSegments_special (reloads_iff.mp hreloads)
  rcases @afterWrite_cases qt host id path write service hservice hdir with
    ⟨hreloads, hafter⟩ | ⟨e, hreloads, hload, hafter⟩ | ⟨loaded, hreloads, hload, hafter⟩
  · rw [hafter, fits_plain hfile hreloads, ← hdir]
    constructor
    · intro hkeeps
      exact hkeeps.loads path write.content.length (by simp) service hservice
    · intro hloads
      refine ⟨by simp, ?_⟩
      intro _ _ _ other hother
      rwa [Option.some.inj (hother.symm.trans hservice)]
  · -- the answer is an error, and the directory does not load
    have hnone : ¬ ∃ info, Loads qt (host.withContent write).disk write.serviceDir info := by
      rintro ⟨info, hinfo⟩
      rw [loadService_ok_iff.mpr hinfo] at hload
      cases hload
    rw [hafter, fits_reloaded (hcore hreloads) hreloads, or_iff_right hnone,
      ← nodes_withContent_iff hfile]
    constructor
    · intro hkeeps
      exact (hkeeps.refused 500 _ (List.mem_cons_of_mem _ (List.mem_cons_of_mem _
        (List.mem_singleton.mpr rfl)))).2
    · intro hsame
      exact ⟨fun _ _ _ => ⟨rfl, hsame⟩, by simp⟩
  · have hloads : ∃ info, Loads qt (host.withContent write).disk write.serviceDir info :=
      ⟨loaded, loadService_ok_iff.mp hload⟩
    rw [hafter, fits_reloaded (hcore hreloads) hreloads]
    refine iff_of_true ⟨by simp, ?_⟩ (.inl hloads)
    intro _ _ _ other hother
    rw [Option.some.inj (hother.symm.trans hservice), hdir]
    exact hloads

end Keeps

/-- **When an error changes nothing and a success leaves a service that loads**: every write that
is made fits. -/
theorem refusal_keeps_iff (qt : JsonText) (host : ServiceHost) (id path : String)
    (body : Parsed (List (String × Json))) (outcome : Except String Unit) :
    RefusalKeeps qt host id (handleServiceFileWrite qt id path body outcome host).1
        (handleServiceFileWrite qt id path body outcome host).2 ↔
      ∀ write, Writes qt host id path body outcome write → Fits qt host path write := by
  rcases handleServiceFileWrite_cases qt host id path body outcome with
    ⟨⟨status, message, hrefused⟩, hnone⟩ | ⟨write, hwrites, hresult⟩
  · rw [hrefused]
    refine iff_of_true ⟨fun _ _ _ => ⟨rfl, fun _ _ => rfl⟩, by simp⟩ ?_
    intro write hwrites
    exact absurd hwrites (hnone write)
  · have hpassed := checkFileWrite_ok hwrites.checked
    obtain ⟨service, hservice, hdir⟩ := hpassed.service
    rw [hresult, afterWrite_keeps_iff hservice hdir (resolved_eq hpassed.resolved) hwrites.isFile]
    constructor
    · intro hfits other hother
      rwa [Except.ok.inj (hother.checked.symm.trans hwrites.checked)]
    · intro hfits
      exact hfits write hwrites

/-! ### A schema that is an object and no schema -/

/-- `{"manifestVersion":"1","id":"s","name":"s","version":"1"}`. -/
def plainManifest : String :=
  "\x7b\"manifestVersion\":\"1\",\"id\":\"s\",\"name\":\"s\",\"version\":\"1\"\x7d"

/-- The field `a` has a number where its descriptor should be. -/
def badSchema : String := "\x7b\"a\":5\x7d"

/-- `QJsonDocument` on the texts used here. -/
def plainJson : JsonText where
  fromJson data :=
    if data = toUtf8 plainManifest then
      .ok (.obj [("id", .str "s"), ("manifestVersion", .str "1"), ("name", .str "s"),
        ("version", .str "1")])
    else if data = toUtf8 "\x7b\x7d" then .ok (.obj [])
    else if data = toUtf8 badSchema then .ok (.obj [("a", .num 5)])
    else .error "illegal value"
  toJson _ := ""

/-- A server with one service whose directory loads. -/
def plainHost : ServiceHost where
  manager.services := SortedMap.empty.insert "s"
    { id := "s", name := "s", version := "1", serviceDir := "/services/s" }
  disk := SortedMap.empty.insert "/services/s" (ServiceTree.ofFiles
    [("manifest.json", toUtf8 plainManifest), ("index.js", []),
      ("config.schema.json", toUtf8 "\x7b\x7d")])

/-- PUT of the bad schema under a path. -/
def putBadSchema (path : String) : ServiceHost × List ServiceFileEvent :=
  handleServiceFileWrite plainJson "s" path (.ok [("content", .str badSchema)]) (.ok ()) plainHost

/-- **An error after the write, and a success that breaks the service.**  Sent to
`config.schema.json`, an object that is no schema is answered with an error and stays on the disk.
Sent to `./config.schema.json`, it is answered with success, and the service, which loaded before,
loads no more. -/
theorem badSchema_written :
    (putBadSchema "config.schema.json").2 =
        [.written "/services/s" ["config.schema.json"] (toUtf8 badSchema),
          .reloaded "s" (.error ("failed to reload service: " ++
            "field descriptor for \"a\" must be a JSON object")),
          .responded (.error 500 ("file written but reload failed: failed to reload service: " ++
            "field descriptor for \"a\" must be a JSON object"))] ∧
      plainHost.disk.node "/services/s" ["config.schema.json"] =
        some (.file (toUtf8 "\x7b\x7d") true) ∧
      (putBadSchema "config.schema.json").1.disk.node "/services/s" ["config.schema.json"] =
        some (.file (toUtf8 badSchema) true) ∧
      (putBadSchema "./config.schema.json").2 =
        [.written "/services/s" ["config.schema.json"] (toUtf8 badSchema),
          .responded (.updated "./config.schema.json" 7)] ∧
      (loadService plainJson plainHost.disk "/services/s").isOk = true ∧
      (loadService plainJson (putBadSchema "./config.schema.json").1.disk "/services/s").isOk =
        false := by
  decide +kernel

end ServiceHost

end Stdiolink.Server
