/-
  Stdiolink.Server.CoreFiles — what guards `manifest.json`, `index.js` and `config.schema.json`.

  The handlers know a core file by the path of the request; the file system knows it by the path
  that `resolveSafePath` makes of it.  The two agree but for the paths that respell a core file,
  `./manifest.json` among them: such a path is not equal to the name and resolves to it.

  A path that resolves to a core file has no other name in it and ends in this one: a file that is
  there is passed only as the last segment.  So the respellings are exactly the paths that put `.`
  and empty names before the core file's, the first of them a `.`.

  Main results:
    * `resolveSafePath_core_iff` — the paths that resolve to a core file that is there;
    * `core_guarded_iff`         — a path is harmless iff it respells no core file.
-/
import Stdiolink.Server.ServiceFiles

namespace Stdiolink.Server

open Stdiolink.Lib
open Stdiolink.Protocol
open Stdiolink.Meta

namespace ServiceFileHandler

/-! ## §1. Cutting at separators -/

section Split

variable {α : Type*} {p q : α → Bool} {l : List α}

/-- Separators that mark the same characters of a text cut it the same way. -/
theorem splitOnP_congr (h : ∀ c ∈ l, p c = q c) : l.splitOnP p = l.splitOnP q := by
  induction l with
  | nil => rfl
  | cons c l ih =>
    rw [List.splitOnP_cons_eq_if_modifyHead, List.splitOnP_cons_eq_if_modifyHead,
      h c List.mem_cons_self, ih fun d hd => h d (List.mem_cons_of_mem c hd)]

/-- What holds of a text without separators, and of two texts with a separator between them as
soon as it holds of both, holds of every text. -/
theorem separated_induction (p : α → Bool) {P : List α → Prop}
    (hpiece : ∀ l, (∀ c ∈ l, p c = false) → P l)
    (hcut : ∀ xs sep ys, p sep = true → P xs → P ys → P (xs ++ sep :: ys)) (l : List α) : P l := by
  have key : ∀ l xs : List α, (∀ c ∈ xs, p c = false) → P (xs ++ l) := by
    intro l
    induction l with
    | nil =>
      intro xs hxs
      rw [List.append_nil]
      exact hpiece xs hxs
    | cons c l ih =>
      intro xs hxs
      cases hc : p c with
      | true => exact hcut xs c l hc (hpiece xs hxs) (ih [] (by simp))
      | false =>
        -- the text before the first separator grows by `c`
        rw [List.append_cons]
        apply ih
        intro d hd
        rcases List.mem_append.mp hd with hd | hd
        · exact hxs d hd
        · rw [List.mem_singleton.mp hd, hc]
  exact key l [] (by simp)

/-- Every character is a separator or in one of the pieces. -/
theorem mem_splitOnP {c : α} (hc : c ∈ l) : p c = true ∨ ∃ piece ∈ l.splitOnP p, c ∈ piece := by
  induction l using separated_induction p with
  | hpiece l hl =>
    rw [List.splitOnP_eq_singleton hl]
    exact Or.inr ⟨l, List.mem_singleton_self l, hc⟩
  | hcut xs sep ys hsep ihx ihy =>
    rw [List.splitOnP_append_cons xs ys hsep]
    rcases List.mem_append.mp hc with hc | hc
    · rcases ihx hc with hmark | ⟨piece, hpiece, hmem⟩
      · exact Or.inl hmark
      · exact Or.inr ⟨piece, List.mem_append_left _ hpiece, hmem⟩
    · rcases List.mem_cons.mp hc with rfl | hc
      · exact Or.inl hsep
      · rcases ihy hc with hmark | ⟨piece, hpiece, hmem⟩
        · exact Or.inl hmark
        · exact Or.inr ⟨piece, List.mem_append_right _ hpiece, hmem⟩

/-- A piece is a part of the text. -/
theorem infix_of_mem_splitOnP {piece : List α} (h : piece ∈ l.splitOnP p) : piece <:+: l := by
  induction l using separated_induction p with
  | hpiece l hl =>
    rw [List.splitOnP_eq_singleton hl, List.mem_singleton] at h
    exact h ▸ List.infix_rfl
  | hcut xs sep ys hsep ihx ihy =>
    rw [List.splitOnP_append_cons xs ys hsep] at h
    rcases List.mem_append.mp h with h | h
    · exact (ihx h).trans (List.prefix_append xs _).isInfix
    · exact (ihy h).trans ((List.suffix_cons sep ys).trans (List.suffix_append xs _)).isInfix

/-- More separators cut the pieces further. -/
theorem splitOnP_finer (hpq : ∀ c, p c = true → q c = true) :
    l.splitOnP q = (l.splitOnP p).flatMap fun piece => piece.splitOnP q := by
  induction l using separated_induction p with
  | hpiece l hl => rw [List.splitOnP_eq_singleton hl, List.flatMap_singleton]
  | hcut xs sep ys hsep ihx ihy =>
    rw [List.splitOnP_append_cons xs ys hsep, List.splitOnP_append_cons xs ys (hpq sep hsep),
      List.flatMap_append, ihx, ihy]

end Split

/-! ## §2. Paths to a core file -/

/-- The path is a way to write the name of a core file: nothing but `.` and empty names beside it,
and it comes last. -/
structure Spells (core path : String) : Prop where
  relative : isAbsolutePath path = false
  clean : cleanSegments path = [core]
  last : (split (· = '/') path).getLast? = some core

instance (core path : String) : Decidable (Spells core path) :=
  decidable_of_iff
    (isAbsolutePath path = false ∧ cleanSegments path = [core] ∧
      (split (· = '/') path).getLast? = some core)
    ⟨fun h => ⟨h.1, h.2.1, h.2.2⟩, fun h => ⟨h.relative, h.clean, h.last⟩⟩

/-- And it is not the name itself. -/
def Respells (core path : String) : Prop := Spells core path ∧ path ≠ core

instance (core path : String) : Decidable (Respells core path) :=
  inferInstanceAs (Decidable (_ ∧ _))

theorem spells_core : ∀ core ∈ coreFiles, Spells core core := by decide +kernel

/-- A path with one name has only `.` and empty segments beside it. -/
theorem mem_split_of_clean {core path seg : String} (h : cleanSegments path = [core])
    (hseg : seg ∈ split (· = '/') path) : seg = "" ∨ seg = "." ∨ seg = core := by
  by_cases hnamed : (seg ≠ "" && seg ≠ ".") = true
  · have hmem : seg ∈ cleanSegments path := List.mem_filter.mpr ⟨hseg, hnamed⟩
    rw [h] at hmem
    exact Or.inr (Or.inr (List.mem_singleton.mp hmem))
  · have : seg = "" ∨ seg = "." := by
      by_contra hnot
      apply hnamed
      simpa using hnot
    rcases this with hempty | hdot
    · exact Or.inl hempty
    · exact Or.inr (Or.inl hdot)

/-- A path whose one name is a core file's has no backslash, so both ways to cut it agree. -/
theorem segments_of_clean {core path : String} (hcore : core ∈ coreFiles)
    (h : cleanSegments path = [core]) : segments path = split (· = '/') path := by
  have hplain : ∀ name ∈ "" :: "." :: coreFiles, '\\' ∉ name.toList := by decide +kernel
  have hslash : ∀ c ∈ path.toList, c ≠ '\\' := by
    intro c hc heq
    have hpiece := mem_splitOnP (p := fun c => decide (c = '/')) hc
    rw [heq] at hpiece
    rcases hpiece with hsep | ⟨piece, hpiece, hmem⟩
    · simp at hsep
    · -- the piece is one of the segments, none of which has a backslash
      have hseg : String.ofList piece ∈ split (· = '/') path := List.mem_map_of_mem hpiece
      have hname : String.ofList piece ∈ "" :: "." :: coreFiles := by
        rcases mem_split_of_clean h hseg with hempty | hdot | hname
        · rw [hempty]
          exact List.mem_cons_self
        · rw [hdot]
          exact List.mem_cons_of_mem _ List.mem_cons_self
        · rw [hname]
          exact List.mem_cons_of_mem _ (List.mem_cons_of_mem _ hcore)
      have := hplain _ hname
      rw [String.toList_ofList] at this
      exact this hmem
  unfold segments split
  rw [splitOnP_congr]
  intro c hc
  simp [hslash c hc]

section Steps

variable {node : List String → Option Node} {last : String}

/-- Segments without a name are passed. -/
theorem stepsSafe_of_nameless {dir segs : List String}
    (h : segs.filter (fun seg => seg ≠ "" && seg ≠ ".") = []) :
    stepsSafe node last dir segs = true := by
  induction segs with
  | nil => rfl
  | cons seg rest ih =>
    rw [List.filter_cons] at h
    split_ifs at h with hnamed
    unfold stepsSafe
    rw [if_pos]
    · exact ih h
    · by_contra hnot
      apply hnamed
      simpa using hnot

/-- On the way to a file that is there, the file is passed only as the last segment. -/
theorem stepsSafe_file {core : String} {segs : List String} {content : List UInt8} {readable : Bool}
    (h : segs.filter (fun seg => seg ≠ "" && seg ≠ ".") = [core])
    (hcore : isAbsolutePath core = false)
    (hfile : node [core] = some (.file content readable)) :
    stepsSafe node last [] segs = decide (core = last) := by
  induction segs with
  | nil => simp at h
  | cons seg rest ih =>
    rw [List.filter_cons] at h
    unfold stepsSafe
    by_cases hnamed : (seg ≠ "" && seg ≠ ".") = true
    · rw [if_pos hnamed] at h
      obtain ⟨rfl, hrest⟩ := List.cons.inj h
      have hname : ¬ (seg = "" || seg = ".") = true := by simpa using hnamed
      rw [if_neg hname, if_neg (by simp [hcore]), List.nil_append, hfile]
      by_cases hlast : seg = last
      · simp only [hlast, ne_eq, not_true_eq_false, if_false, decide_true]
        exact stepsSafe_of_nameless hrest
      · simp [hlast]
    · rw [if_neg hnamed] at h
      rw [if_pos]
      · exact ih h
      · by_contra hnot
        apply hnamed
        simpa using hnot

end Steps

/-- **The paths to a core file.**  Where the file is there, the paths that resolve to it are its
spellings. -/
theorem resolveSafePath_core_iff {node : List String → Option Node} {core path : String}
    {content : List UInt8} {readable : Bool} (hcore : core ∈ coreFiles)
    (hfile : node [core] = some (.file content readable)) :
    resolveSafePath node path = .ok [core] ↔ Spells core path := by
  have hname : ∀ core ∈ coreFiles, isAbsolutePath core = false ∧ core ≠ ".." := by decide +kernel
  -- what `isPathSafe` comes to once the path is known to have one name
  have hsafe (hclean : cleanSegments path = [core]) :
      isPathSafe node path = true ↔
        isAbsolutePath path = false ∧ (split (· = '/') path).getLast? = some core := by
    have hne : path ≠ "" := by
      intro hempty
      rw [hempty, show cleanSegments "" = [] by decide +kernel] at hclean
      simp at hclean
    have hdots : (segments path).contains ".." = false := by
      rw [segments_of_clean hcore hclean, List.contains_eq_mem, decide_eq_false_iff_not]
      intro hmem
      rcases mem_split_of_clean hclean hmem with h | h | h
      · simp at h
      · simp at h
      · exact (hname core hcore).2 h.symm
    have hsome : split (· = '/') path ≠ [] := by
      intro hnil
      rw [cleanSegments, hnil] at hclean
      simp at hclean
    have hlast : (segments path).getLastD "" = core ↔
        (split (· = '/') path).getLast? = some core := by
      rw [segments_of_clean hcore hclean, List.getLastD_eq_getLast?,
        List.getLast?_eq_some_getLast hsome, Option.getD_some, Option.some.injEq]
    unfold isPathSafe
    rw [if_neg hne]
    cases habsolute : isAbsolutePath path with
    | true => simp
    | false =>
      rw [if_neg Bool.false_ne_true, if_neg (by rw [hdots]; exact Bool.false_ne_true),
        if_neg (by rw [hclean]; exact List.cons_ne_nil _ _), ← hlast]
      have hsegs : (segments path).filter (fun seg => seg ≠ "" && seg ≠ ".") = [core] := by
        rw [segments_of_clean hcore hclean]
        exact hclean
      rw [stepsSafe_file hsegs (hname core hcore).1 hfile, decide_eq_true_eq, eq_comm]
      exact (and_iff_right rfl).symm
  unfold resolveSafePath
  constructor
  · intro h
    split_ifs at h with hunsafe
    have hclean := Except.ok.inj h
    have hsafePath : isPathSafe node path = true := by simpa using hunsafe
    have hboth := (hsafe hclean).mp hsafePath
    exact ⟨hboth.1, hclean, hboth.2⟩
  · intro h
    have hsafePath := (hsafe h.clean).mpr ⟨h.relative, h.last⟩
    rw [if_neg (by simp [hsafePath]), h.clean]

end ServiceFileHandler

/-! ## §3. Guarded paths -/

namespace ServiceHost

open ServiceFileHandler

/-- No DELETE of the path removes a core file of the service. -/
def DeleteKeepsCore (path : String) : Prop :=
  ∀ (host : ServiceHost) (id : String) (service : ServiceInfo) (removed : Bool),
    host.manager.services.find? id = some service → ∀ core ∈ coreFiles,
      (handleServiceFileDelete id path removed host).1.disk.node service.serviceDir [core] =
        host.disk.node service.serviceDir [core]

/-- A PUT of the path that writes the manifest of the service writes one that
`ServiceManifest::fromJson` accepts, and loads the service again before it answers. -/
def PutChecksManifest (qt : JsonText) (path : String) : Prop :=
  ∀ (host : ServiceHost) (id : String) (service : ServiceInfo)
    (body : Parsed (List (String × Json))) (outcome : Except String Unit) (content : List UInt8),
    host.manager.services.find? id = some service →
    .written service.serviceDir ["manifest.json"] content ∈
      (handleServiceFileWrite qt id path body outcome host).2 →
    (∃ obj manifest, qt.fromJson content = .ok (.obj obj) ∧
        ServiceManifest.fromJson obj = .ok manifest) ∧
      ∃ result response, (handleServiceFileWrite qt id path body outcome host).2 =
        [.written service.serviceDir ["manifest.json"] content, .reloaded id result,
          .responded response]

theorem reloads_manifest : reloads "manifest.json" = true := by decide +kernel

/-- The special case for the path `manifest.json` lets only manifests pass. -/
theorem checkContent_manifest {qt : JsonText} {content : List UInt8}
    (h : checkContent qt "manifest.json" content = .ok ()) :
    ∃ obj manifest, qt.fromJson content = .ok (.obj obj) ∧
      ServiceManifest.fromJson obj = .ok manifest := by
  unfold checkContent at h
  rw [if_pos rfl] at h
  split at h
  next obj hobj =>
    split at h
    next => simp at h
    next manifest hmanifest => exact ⟨obj, manifest, hobj, hmanifest⟩
  next => simp at h

/-- The events of a write: the write itself, a reload for the special paths, the answer. -/
theorem afterWrite_events (qt : JsonText) (host : ServiceHost) (id path : String)
    (write : FileWrite) :
    (reloads path = true ∧ ∃ result response, (afterWrite qt id path write host).2 =
        [.written write.serviceDir write.file write.content, .reloaded id result,
          .responded response]) ∨
    (reloads path = false ∧ ∃ response, (afterWrite qt id path write host).2 =
        [.written write.serviceDir write.file write.content, .responded response]) := by
  unfold afterWrite
  by_cases hreloads : reloads path = true
  · left
    refine ⟨hreloads, ?_⟩
    simp only [if_pos hreloads]
    split
    next e _ => exact ⟨.error e, _, rfl⟩
    next => exact ⟨.ok (), _, rfl⟩
  · right
    rw [Bool.not_eq_true] at hreloads
    simp only [hreloads, Bool.false_eq_true, if_false]
    exact ⟨trivial, _, rfl⟩

variable {path : String}

theorem deleteKeepsCore_of_guarded (h : ∀ core ∈ coreFiles, ¬ Respells core path) :
    DeleteKeepsCore path := by
  intro host id service removed hservice core hcore
  rcases handleServiceFileDelete_cases host id path removed with ⟨status, message, hrefused⟩ | hdone
  · rw [hrefused]
  · obtain ⟨serviceDir, file, hremoves, hresult⟩ := hdone
    rw [hresult]
    obtain ⟨found, hfound, hdir⟩ := hremoves.service
    obtain rfl := Option.some.inj (hfound.symm.trans hservice)
    show (host.disk.update serviceDir _).node found.serviceDir [core] = _
    rw [hdir]
    by_cases hfile : file = [core]
    · -- the path spells the core file, so it is its name, and that was refused
      obtain ⟨old, readable, hnode⟩ := hremoves.isFile
      rw [hfile] at hnode
      have hresolved := hremoves.resolved
      rw [hfile] at hresolved
      have hspells := (resolveSafePath_core_iff hcore hnode).mp hresolved
      have hsame : path = core := by
        by_contra hne
        exact h core hcore ⟨hspells, hne⟩
      rw [hsame] at hremoves
      exact absurd hcore hremoves.notCore
    · unfold ServicesDisk.node
      cases htree : host.disk.find? serviceDir with
      | none => simp [ServicesDisk.update, htree]
      | some tree =>
        rw [ServicesDisk.find?_update_self htree]
        exact tree.node_remove_of_ne (Ne.symm hfile)

theorem putChecksManifest_of_guarded (qt : JsonText) (h : ∀ core ∈ coreFiles, ¬ Respells core path) :
    PutChecksManifest qt path := by
  intro host id service body outcome content hservice hwritten
  rcases handleServiceFileWrite_cases qt host id path body outcome with
    ⟨⟨status, message, hrefused⟩, -⟩ | ⟨write, hwrites, hresult⟩
  · rw [hrefused] at hwritten
    simp at hwritten
  · rw [hresult] at hwritten ⊢
    -- whatever follows, this is the write of the request
    have hsame : service.serviceDir = write.serviceDir ∧ ["manifest.json"] = write.file ∧
        content = write.content := by
      rcases afterWrite_events qt (host.withContent write) id path write with
        ⟨-, result, response, hevents⟩ | ⟨-, response, hevents⟩
      · rw [hevents] at hwritten
        simpa using hwritten
      · rw [hevents] at hwritten
        simpa using hwritten
    obtain ⟨hdir, hfile, hcontent⟩ := hsame
    have hpassed := checkFileWrite_ok hwrites.checked
    obtain ⟨old, readable, hnode⟩ := hwrites.isFile
    have hcore : "manifest.json" ∈ coreFiles := by decide
    have hresolved := hpassed.resolved
    rw [← hfile] at hnode hresolved
    have hspells := (resolveSafePath_core_iff hcore hnode).mp hresolved
    have hpath : path = "manifest.json" := by
      by_contra hne
      exact h _ hcore ⟨hspells, hne⟩
    constructor
    · have hchecked := hpassed.content
      rw [hpath, ← hcontent] at hchecked
      exact checkContent_manifest hchecked
    · rw [hdir, hfile, hcontent]
      rcases afterWrite_events qt (host.withContent write) id path write with
        ⟨-, hevents⟩ | ⟨hnot, -⟩
      · exact hevents
      · rw [hpath, reloads_manifest] at hnot
        simp at hnot

/-! ### A host on which a respelled path does harm -/

/-- A service directory with the three core files, all of them empty. -/
def coreTree : ServiceTree := ServiceTree.ofFiles (coreFiles.map fun name => (name, []))

/-- A server with one service, in a directory with the core files. -/
def coreHost : ServiceHost where
  manager.services := SortedMap.empty.insert "s"
    { id := "s", name := "s", version := "1", serviceDir := "/services/s" }
  disk := SortedMap.empty.insert "/services/s" coreTree

theorem coreTree_node : ∀ core ∈ coreFiles,
    coreTree.node [core] = some (.file [] true) := by
  decide +kernel

/-- A core file spelled another way is deleted. -/
theorem respelled_deleted {core : String} (hcore : core ∈ coreFiles) (h : Respells core path) :
    (handleServiceFileDelete "s" path true coreHost).1.disk.node "/services/s" [core] = none := by
  have hnode : coreHost.disk.node "/services/s" [core] = some (.file [] true) :=
    coreTree_node core hcore
  have hresolved := (resolveSafePath_core_iff hcore hnode).mpr h.1
  have hne : path ≠ "" := by
    intro hempty
    have := h.1.clean
    rw [hempty, show cleanSegments "" = [] by decide +kernel] at this
    simp at this
  have hother : path ∉ coreFiles := by
    intro hmem
    have hclean := (spells_core path hmem).clean
    rw [h.1.clean] at hclean
    exact h.2 (List.cons.inj hclean).1.symm
  have hcheck : checkFileDelete coreHost "s" path = .ok ("/services/s", [core]) := by
    unfold checkFileDelete
    have hservice : coreHost.manager.services.find? "s" = some
        { id := "s", name := "s", version := "1", serviceDir := "/services/s" } := rfl
    simp only [hservice, if_neg hne, List.contains_eq_mem, hother, decide_false,
      Bool.false_eq_true, if_false, hresolved, hnode, Option.isNone_some]
  unfold handleServiceFileDelete
  simp only [hcheck, hnode]
  exact coreTree.node_remove_self (by simp [coreTree_node core hcore])

/-- **The paths that do no harm.**  No DELETE of a path removes a core file, and every manifest
that a PUT of it writes is checked and loaded, exactly if the path is no other spelling of a core
file. -/
theorem core_guarded_iff (qt : JsonText) (path : String) :
    DeleteKeepsCore path ∧ PutChecksManifest qt path ↔
      ∀ core ∈ coreFiles, ¬ Respells core path := by
  constructor
  · intro h core hcore hrespells
    have hkept := h.1 coreHost "s" _ true rfl core hcore
    rw [respelled_deleted hcore hrespells] at hkept
    have hnode := coreTree_node core hcore
    exact absurd (hkept.trans hnode) (by simp)
  · intro h
    exact ⟨deleteKeepsCore_of_guarded h, putChecksManifest_of_guarded qt h⟩

/-- **`./manifest.json` is not guarded.**  It can be deleted, and anything may be written to it
without a reload. -/
theorem dotManifest_unguarded :
    coreHost.disk.node "/services/s" ["manifest.json"] = some (.file [] true) ∧
      (handleServiceFileDelete "s" "./manifest.json" true coreHost).1.disk.node "/services/s"
        ["manifest.json"] = none ∧
      ∀ qt : JsonText, (handleServiceFileWrite qt "s" "./manifest.json"
          (.ok [("content", .str "not a manifest")]) (.ok ()) coreHost).2 =
        [.written "/services/s" ["manifest.json"] (toUtf8 "not a manifest"),
          .responded (.updated "./manifest.json" 14)] := by
  refine ⟨coreTree_node _ (by decide), by decide +kernel, ?_⟩
  intro qt
  rfl

end ServiceHost

end Stdiolink.Server
