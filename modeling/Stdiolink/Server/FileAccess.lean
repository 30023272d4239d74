/-
  Stdiolink.Server.FileAccess — which requests for files stay below their directory, in a tree
  with symbolic links.

  Both servers refuse `..`, so what they accept leads below the directory by its names.  What the
  names denote is decided by the last link among them: they stay inside iff this link does, with
  the names that follow it.

  The service handler looks for links at every segment of the request, and an accepted path meets
  none, as long as its segments are the names that the file system sees.  They are not where a
  backslash is part of a name, and a segment that is an absolute path of its own, one that begins
  with a colon, takes the rest of the loop out of the file system.  The static server looks at the
  end of the path alone and follows a link before it; the page that it falls back on is opened
  without a look.

  Main results:
    * `inside_iff_linkStays`     — a path stays inside iff its last link does;
    * `lastLink_of_isPathSafe`   — an accepted plain path of a service meets no link;
    * `accepted_inside_iff`      — the accepted paths that stay inside, and the runs that do.
-/
import Stdiolink.Server.LinkedFiles
import Stdiolink.Server.CoreFiles

namespace Stdiolink.Server.LinkedFiles

open Stdiolink.Lib
open Stdiolink.Server.ServiceFileHandler (segments cleanSegments isAbsolutePath split splitOnP_congr
  splitOnP_finer infix_of_mem_splitOnP)

/-! ## §1. Inside a directory -/

section Inside

variable (links : Nat) (tree : FileTree) (root : RootDir)

/-- The location lies below the directory, or is the directory's own. -/
def Within (loc : List String) : Prop :=
  ∃ base, root.location links tree = some base ∧ base <+: loc

/-- What the names denote, all links followed, lies within the directory. -/
def Inside (names : List String) : Prop :=
  ∀ loc, root.denotes links tree names = some loc → Within links tree root loc

/-- The last link among the names, if there is one, leads to where the names behind it lead to a
place within the directory. -/
def LinkStays (names : List String) : Prop :=
  ∀ through rest, tree.lastLink links root.start root.comps names = some (through, rest) →
    ∀ loc, tree.walk links root.start through = some loc → Within links tree root (loc ++ rest)

variable {links tree root}

/-- The file system takes the part of a path for a name. -/
def IsName (seg : String) : Prop := seg ≠ "" ∧ seg ≠ "." ∧ seg ≠ ".."

instance (seg : String) : Decidable (IsName seg) := inferInstanceAs (Decidable (_ ∧ _ ∧ _))

theorem comp_of_isName {seg : String} (h : IsName seg) : comp seg = .name seg := by
  unfold comp
  rw [if_neg h.2.1, if_neg h.2.2]

variable {names : List String}

theorem RootDir.path_of_names (hnames : ∀ name ∈ names, IsName name) :
    root.path names = root.comps ++ names.map .name :=
  congrArg (root.comps ++ ·) (List.map_congr_left fun name h => comp_of_isName (hnames name h))

/-- **A path stays inside iff its last link does.** -/
theorem inside_iff_linkStays (hnames : ∀ name ∈ names, IsName name) :
    Inside links tree root names ↔ LinkStays links tree root names := by
  unfold Inside LinkStays RootDir.denotes
  rw [RootDir.path_of_names hnames, LinkTree.walk_append]
  cases hlast : tree.lastLink links root.start root.comps names with
  | none =>
    constructor
    · intro _ through rest hfound
      simp at hfound
    · intro _ loc hloc
      obtain ⟨base, hbase, rfl⟩ := Option.map_eq_some_iff.mp hloc
      exact ⟨base, hbase, List.prefix_append base names⟩
  | some found =>
    constructor
    · intro h through rest hfound loc hloc
      obtain rfl := Option.some.inj hfound
      apply h
      show (tree.walk links root.start through).map (· ++ rest) = some (loc ++ rest)
      rw [hloc]
      rfl
    · intro h loc hloc
      obtain ⟨mid, hmid, rfl⟩ := Option.map_eq_some_iff.mp hloc
      exact h found.1 found.2 rfl mid hmid

theorem linkStays_of_lastLink_none (h : tree.lastLink links root.start root.comps names = none) :
    LinkStays links tree root names := by
  intro through rest hfound
  rw [h] at hfound
  simp at hfound

end Inside

/-! ## §2. No way up -/

section Names

variable {path : String}

/-- Without `..` between its slashes, a path leads on by names. -/
theorem isName_of_mem_cleanSegments (h : ".." ∉ split (· = '/') path) :
    ∀ name ∈ cleanSegments path, IsName name := by
  intro name hname
  have hmem := List.mem_filter.mp hname
  have hnamed : name ≠ "" ∧ name ≠ "." := by simpa using hmem.2
  exact ⟨hnamed.1, hnamed.2, fun heq => h (heq ▸ hmem.1)⟩

theorem mem_split {seg : String} {isSeparator : Char → Bool} :
    seg ∈ split isSeparator path ↔ seg.toList ∈ path.toList.splitOnP isSeparator := by
  unfold split
  constructor
  · intro h
    obtain ⟨piece, hpiece, rfl⟩ := List.mem_map.mp h
    rwa [String.toList_ofList]
  · intro h
    have := List.mem_map_of_mem (f := String.ofList) h
    rwa [String.ofList_toList] at this

/-- Cut at backslashes too, a path without `..` is one without `..` between its slashes. -/
theorem no_dots_of_segments (h : ".." ∉ segments path) : ".." ∉ split (· = '/') path := by
  intro hmem
  apply h
  unfold segments
  rw [mem_split] at hmem ⊢
  rw [splitOnP_finer (p := fun c => decide (c = '/')) (by simp +contextual)]
  exact List.mem_flatMap.mpr ⟨_, hmem, by decide⟩

theorem no_dots_of_text (h : ¬ ['.', '.'] <:+: path.toList) : ".." ∉ split (· = '/') path :=
  fun hmem => h (infix_of_mem_splitOnP (mem_split.mp hmem))

end Names

/-! ## §3. What the service handler sees -/

namespace ServiceFileHandler

/-- The segments of the path are the names that the file system sees, and none of them is an
absolute path. -/
def Plain (path : String) : Prop :=
  '\\' ∉ path.toList ∧ ∀ seg ∈ segments path, isAbsolutePath seg = false

instance (path : String) : Decidable (Plain path) := inferInstanceAs (Decidable (_ ∧ _))

section Steps

variable {links : Nat} {resources : List String → Bool} {tree : FileTree}
variable {serviceDir : List String} {last : String}

variable {path : String}

theorem cleanSegments_of_plain (h : Plain path) :
    cleanSegments path = (segments path).filter fun seg => seg ≠ "" && seg ≠ "." := by
  have hslash : ∀ c ∈ path.toList, c ≠ '\\' := by
    intro c hc heq
    exact h.1 (heq ▸ hc)
  unfold cleanSegments segments split
  rw [splitOnP_congr]
  intro c hc
  simp [hslash c hc]

/-- A step that is passed is no link. -/
theorem stepsSafe_cons {dir rest : List String} {seg : String}
    (hnamed : (seg = "" || seg = ".") = false) (hrelative : isAbsolutePath seg = false)
    (h : stepsSafe links resources tree serviceDir last dir (seg :: rest) = true) :
    (RootDir.absolute serviceDir).isSymLink links tree (dir ++ [seg]) = false ∧
      stepsSafe links resources tree serviceDir last (dir ++ [seg]) rest = true := by
  unfold stepsSafe at h
  rw [if_neg (by simp [hnamed]), if_neg (by simp [hrelative])] at h
  split at h
  next => simp at h
  next hlink =>
    rw [Bool.not_eq_true] at hlink
    split at h
    next => exact ⟨hlink, h⟩
    next => exact ⟨hlink, by split_ifs at h; exact h⟩

/-- The loop finds every link among the segments that it takes for names. -/
theorem lastLink_of_stepsSafe {dir segs : List String}
    (hrelative : ∀ seg ∈ segs, isAbsolutePath seg = false) (hdots : ∀ seg ∈ segs, seg ≠ "..")
    (h : stepsSafe links resources tree serviceDir last dir segs = true) :
    tree.lastLink links [] ((RootDir.absolute serviceDir).path dir)
      (segs.filter fun seg => seg ≠ "" && seg ≠ ".") = none := by
  induction segs generalizing dir with
  | nil => rfl
  | cons seg rest ih =>
    have hrest {dir : List String} := @ih dir
      (fun s hs => hrelative s (List.mem_cons_of_mem seg hs))
      fun s hs => hdots s (List.mem_cons_of_mem seg hs)
    rw [List.filter_cons]
    cases hnamed : (seg = "" || seg = "." : Bool) with
    | true =>
      -- skipped by the loop, and no name
      rw [if_neg (by simpa [imp_iff_not_or] using hnamed)]
      apply hrest
      unfold stepsSafe at h
      rwa [if_pos hnamed] at h
    | false =>
      rw [if_pos (by simpa using hnamed)]
      have hname : IsName seg := by
        simp only [Bool.or_eq_false_iff, decide_eq_false_iff_not] at hnamed
        exact ⟨hnamed.1, hnamed.2, hdots seg List.mem_cons_self⟩
      -- the loop has looked at the very path that ends in `seg`
      have hstep := stepsSafe_cons hnamed (hrelative seg List.mem_cons_self) h
      have hpath : (RootDir.absolute serviceDir).path dir ++ [Comp.name seg] =
          (RootDir.absolute serviceDir).path (dir ++ [seg]) := by
        simp [RootDir.path, comp_of_isName hname]
      rw [LinkTree.lastLink_cons, hpath, hrest hstep.2, Option.none_or, if_neg]
      exact Bool.eq_false_iff.mp hstep.1

theorem isPathSafe_true (h : isPathSafe links resources tree serviceDir path = true) :
    ".." ∉ segments path ∧
      stepsSafe links resources tree serviceDir ((segments path).getLastD "") []
        (segments path) = true := by
  unfold isPathSafe at h
  split_ifs at h with hempty habsolute hdots hnameless hlink
  exact ⟨by simpa using hdots, h⟩

/-- **An accepted plain path meets no link below the service directory.** -/
theorem lastLink_of_isPathSafe (hplain : Plain path)
    (h : isPathSafe links resources tree serviceDir path = true) :
    tree.lastLink links [] (RootDir.absolute serviceDir).comps (cleanSegments path) = none := by
  have hchecked := isPathSafe_true h
  have hsteps := lastLink_of_stepsSafe hplain.2
    (fun seg hseg heq => hchecked.1 (heq ▸ hseg)) hchecked.2
  rw [cleanSegments_of_plain hplain]
  rwa [RootDir.path, List.map_nil, List.append_nil] at hsteps

/-- What is accepted is the cleaned path, and it leads on by names. -/
theorem resolveSafePath_ok {names : List String}
    (h : resolveSafePath links resources tree serviceDir path = .ok names) :
    isPathSafe links resources tree serviceDir path = true ∧ names = cleanSegments path ∧
      ∀ name ∈ names, IsName name := by
  unfold resolveSafePath at h
  split_ifs at h with hunsafe
  have hsafe : isPathSafe links resources tree serviceDir path = true := by simpa using hunsafe
  obtain rfl := Except.ok.inj h
  exact ⟨hsafe, rfl,
    isName_of_mem_cleanSegments (no_dots_of_segments (isPathSafe_true hsafe).1)⟩

/-- What the service handler accepts stays inside iff the path is plain or its last link stays. -/
theorem inside_iff {names : List String}
    (h : resolveSafePath links resources tree serviceDir path = .ok names) :
    Inside links tree (RootDir.absolute serviceDir) names ↔
      Plain path ∨ LinkStays links tree (RootDir.absolute serviceDir) (cleanSegments path) := by
  obtain ⟨hsafe, rfl, hnames⟩ := resolveSafePath_ok h
  rw [inside_iff_linkStays hnames]
  constructor
  · exact Or.inr
  · rintro (hplain | hstays)
    · exact linkStays_of_lastLink_none (lastLink_of_isPathSafe hplain hsafe)
    · exact hstays

end Steps

end ServiceFileHandler

/-! ## §4. What the static server sees -/

namespace StaticFileServer

variable {links : Nat} {tree : FileTree} {server : StaticFileServer}

/-- What is accepted is the cleaned path, and it leads on by names. -/
theorem resolveSafePath_some {path : String} {names : List String}
    (h : server.resolveSafePath links tree path = some names) :
    names = cleanSegments path ∧ ∀ name ∈ names, IsName name := by
  unfold resolveSafePath at h
  split_ifs at h with hdots hroot hlink
  split at h
  next =>
    split_ifs at h
    obtain rfl := Option.some.inj h
    exact ⟨rfl, isName_of_mem_cleanSegments (no_dots_of_text hdots)⟩
  next => simp at h

/-- What the static server accepts stays inside iff the last link stays. -/
theorem inside_iff {path : String} {names : List String}
    (h : server.resolveSafePath links tree path = some names) :
    Inside links tree server.m_rootDir names ↔
      LinkStays links tree server.m_rootDir (cleanSegments path) := by
  obtain ⟨rfl, hnames⟩ := resolveSafePath_some h
  exact inside_iff_linkStays hnames

end StaticFileServer

/-! ## §5. What a request does -/

namespace FileRequest

/-- The directory that the request is for. -/
def root (server : StaticFileServer) : FileRequest → RootDir
  | .read serviceDir _ | .write serviceDir _ _ _ | .create serviceDir _ _ _
  | .delete serviceDir _ _ => RootDir.absolute serviceDir
  | .get _ => server.m_rootDir

/-- The names below it that `resolveSafePath` accepts. -/
def accepted (links : Nat) (resources : List String → Bool) (server : StaticFileServer)
    (tree : FileTree) : FileRequest → Option (List String)
  | .read serviceDir path | .write serviceDir path _ _ | .create serviceDir path _ _
  | .delete serviceDir path _ =>
    (ServiceFileHandler.resolveSafePath links resources tree serviceDir path).toOption
  | .get path => server.resolveSafePath links tree path

/-- The path of a service is plain, or its last link stays; the path of the web interface has a
last link that stays, and so does the page that it falls back on. -/
def Stays (links : Nat) (server : StaticFileServer) (tree : FileTree) : FileRequest → Prop
  | .read serviceDir path | .write serviceDir path _ _ | .create serviceDir path _ _
  | .delete serviceDir path _ =>
    ServiceFileHandler.Plain path ∨
      LinkStays links tree (RootDir.absolute serviceDir) (cleanSegments path)
  | .get path =>
    LinkStays links tree server.m_rootDir (cleanSegments path) ∧
      (StaticFileServer.hasExtension path = true ∨
        LinkStays links tree server.m_rootDir ["index.html"])

end FileRequest

/-- The request touches no file outside its directory: what it accepts denotes a place inside,
what it answers is what a file inside holds, and what it changes is inside, but for directories
that it makes. -/
structure Confined (links : Nat) (resources : List String → Bool) (server : StaticFileServer)
    (tree : FileTree) (r : FileRequest) : Prop where
  denotes : ∀ names ∈ r.accepted links resources server tree,
    Inside links tree (r.root server) names
  answers : ∀ content ∈ (serve links resources server tree r).2, ∃ loc data,
    Within links tree (r.root server) loc ∧ tree.node loc = some (.file data) ∧
      data.content = content
  changes : ∀ loc, (serve links resources server tree r).1.node loc ≠ tree.node loc →
    Within links tree (r.root server) loc ∨
      tree.node loc = none ∧ (serve links resources server tree r).1.node loc = some .dir

section Requests

variable {links : Nat} {resources : List String → Bool} {server : StaticFileServer}
variable {tree : FileTree} {serviceDir : List String} {path : String}

variable {content : List UInt8}

/-- What is read is the content of the file that the names denote. -/
theorem readAll_some {root : RootDir} {names : List String}
    (h : root.readAll links tree names = some content) (hinside : Inside links tree root names) :
    ∃ loc data, Within links tree root loc ∧ tree.node loc = some (.file data) ∧
      data.content = content := by
  unfold RootDir.readAll at h
  split at h
  next data hstat =>
    obtain ⟨loc, hloc, hnode⟩ := Option.bind_eq_some_iff.mp hstat
    split_ifs at h
    exact ⟨loc, data, hinside loc hloc, hnode, Option.some.inj h⟩
  next => simp at h

theorem handleServiceFileRead_some
    (h : handleServiceFileRead links resources tree serviceDir path = some content) :
    ∃ names, ServiceFileHandler.resolveSafePath links resources tree serviceDir path = .ok names ∧
      (RootDir.absolute serviceDir).readAll links tree names = some content := by
  unfold handleServiceFileRead at h
  split at h
  next => simp at h
  next names hnames =>
    split at h
    next => split_ifs at h; exact ⟨names, hnames, h⟩
    next => simp at h

/-- The tree is as it was, or has changed where an accepted path leads, and in directories made
on the way. -/
def ChangedAt (links : Nat) (resources : List String → Bool) (tree : FileTree)
    (serviceDir : List String) (path : String) (after : FileTree) : Prop :=
  after = tree ∨ ∃ names place,
    ServiceFileHandler.resolveSafePath links resources tree serviceDir path = .ok names ∧
      (RootDir.absolute serviceDir).denotes links tree names = some place ∧
      ∀ loc, after.node loc ≠ tree.node loc →
        loc = place ∨ tree.node loc = none ∧ after.node loc = some .dir

theorem handleServiceFileWrite_changedAt (content : List UInt8) (passes : Bool) :
    ChangedAt links resources tree serviceDir path
      (handleServiceFileWrite links resources tree serviceDir path content passes) := by
  unfold handleServiceFileWrite
  split
  next => exact Or.inl rfl
  next names hnames =>
    split
    next => exact Or.inl rfl
    next place hplace =>
      split
      next =>
        split
        next => exact Or.inr ⟨names, place, hnames, hplace, fun loc => LinkTree.node_put⟩
        next => exact Or.inl rfl
      next => exact Or.inl rfl

theorem handleServiceFileCreate_changedAt (content : List UInt8) (passes : Bool) :
    ChangedAt links resources tree serviceDir path
      (handleServiceFileCreate links resources tree serviceDir path content passes) := by
  unfold handleServiceFileCreate
  split
  next => exact Or.inl rfl
  next names hnames =>
    split
    next => exact Or.inl rfl
    next place hplace =>
      split
      next => exact Or.inl rfl
      next =>
        split
        next => exact Or.inr ⟨names, place, hnames, hplace, fun loc => LinkTree.node_put⟩
        next => exact Or.inl rfl

theorem handleServiceFileDelete_changedAt (passes : Bool) :
    ChangedAt links resources tree serviceDir path
      (handleServiceFileDelete links resources tree serviceDir path passes) := by
  unfold handleServiceFileDelete
  split
  next => exact Or.inl rfl
  next =>
    split
    next => exact Or.inl rfl
    next names hnames =>
      split
      next => exact Or.inl rfl
      next place hplace =>
        split
        next =>
          refine Or.inr ⟨names, place, hnames, hplace, ?_⟩
          intro loc hloc
          exact Or.inl (LinkTree.node_remove hloc)
        next => exact Or.inl rfl

/-- What has changed at a path that stays inside has changed inside. -/
theorem ChangedAt.within {after : FileTree}
    (h : ChangedAt links resources tree serviceDir path after)
    (hinside : ∀ names,
      ServiceFileHandler.resolveSafePath links resources tree serviceDir path = .ok names →
        Inside links tree (RootDir.absolute serviceDir) names)
    (loc : List String) (hloc : after.node loc ≠ tree.node loc) :
    Within links tree (RootDir.absolute serviceDir) loc ∨
      tree.node loc = none ∧ after.node loc = some .dir := by
  rcases h with rfl | ⟨names, place, hnames, hplace, hchanged⟩
  · exact absurd rfl hloc
  · rcases hchanged loc hloc with rfl | hmade
    · exact Or.inl (hinside names hnames loc hplace)
    · exact Or.inr hmade

/-- A found body is that of the accepted path or of the page that the server falls back on. -/
theorem missing_some (h : server.missing links tree path = some content) :
    (∃ names, server.resolveSafePath links tree path = some names ∧
        server.m_rootDir.readAll links tree names = some content) ∨
      StaticFileServer.hasExtension path = false ∧
        server.m_rootDir.readAll links tree ["index.html"] = some content := by
  unfold StaticFileServer.missing at h
  rw [ite_eq_iff] at h
  rcases h with ⟨-, h⟩ | ⟨-, h⟩
  · simp at h
  rw [ite_eq_iff] at h
  rcases h with ⟨-, h⟩ | ⟨-, h⟩
  · simp at h
  split at h
  next body hbody =>
    obtain rfl := Option.some.inj h
    unfold StaticFileServer.serveRaw at hbody
    split_ifs at hbody
    split at hbody
    next => simp at hbody
    next names hnames => exact Or.inl ⟨names, hnames, hbody⟩
  next =>
    split_ifs at h with hextension
    exact Or.inr ⟨Bool.eq_false_iff.mpr hextension, h⟩

/-! ## §6. Requests that stay inside -/

theorem mem_accepted {names : List String} :
    names ∈ (ServiceFileHandler.resolveSafePath links resources tree serviceDir path).toOption ↔
      ServiceFileHandler.resolveSafePath links resources tree serviceDir path = .ok names := by
  cases ServiceFileHandler.resolveSafePath links resources tree serviceDir path with
  | error e => simp [Except.toOption]
  | ok found => simp [Except.toOption]

/-- **A request whose links stay inside touches nothing outside.** -/
theorem confined_of_stays (r : FileRequest) (h : r.Stays links server tree) :
    Confined links resources server tree r := by
  -- the four requests of a service are for a path that stays inside
  have hservice (serviceDir : List String) (path : String)
      (hstays : ServiceFileHandler.Plain path ∨
        LinkStays links tree (RootDir.absolute serviceDir) (cleanSegments path))
      (names : List String)
      (hnames : ServiceFileHandler.resolveSafePath links resources tree serviceDir path =
        .ok names) : Inside links tree (RootDir.absolute serviceDir) names :=
    (ServiceFileHandler.inside_iff hnames).mpr hstays
  cases r with
  | read serviceDir path =>
    constructor
    case denotes =>
      exact fun names hnames => hservice serviceDir path h names (mem_accepted.mp hnames)
    case answers =>
      intro content hcontent
      obtain ⟨names, hnames, hread⟩ := handleServiceFileRead_some (Option.mem_toList.mp hcontent)
      exact readAll_some hread (hservice serviceDir path h names hnames)
    case changes => exact fun loc hloc => absurd rfl hloc
  | write serviceDir path content passes
  | create serviceDir path content passes =>
    constructor
    case denotes =>
      exact fun names hnames => hservice serviceDir path h names (mem_accepted.mp hnames)
    case answers => exact fun _ hcontent => absurd hcontent List.not_mem_nil
    case changes =>
      first
      | exact (handleServiceFileWrite_changedAt content passes).within (hservice serviceDir path h)
      | exact (handleServiceFileCreate_changedAt content passes).within (hservice serviceDir path h)
  | delete serviceDir path passes =>
    constructor
    case denotes =>
      exact fun names hnames => hservice serviceDir path h names (mem_accepted.mp hnames)
    case answers => exact fun _ hcontent => absurd hcontent List.not_mem_nil
    case changes =>
      exact (handleServiceFileDelete_changedAt passes).within (hservice serviceDir path h)
  | get path =>
    constructor
    case denotes => exact fun names hnames => (StaticFileServer.inside_iff hnames).mpr h.1
    case answers =>
      intro content hcontent
      rcases missing_some (Option.mem_toList.mp hcontent) with
        ⟨names, hnames, hread⟩ | ⟨hextension, hread⟩
      · exact readAll_some hread ((StaticFileServer.inside_iff hnames).mpr h.1)
      · -- the page is opened without a look
        apply readAll_some hread
        apply (inside_iff_linkStays (by decide)).mpr
        exact h.2.resolve_left (by rw [hextension]; exact Bool.false_ne_true)
    case changes => exact fun loc hloc => absurd rfl hloc

end Requests

/-! ## §7. Runs -/

/-- Of a step that is a request. -/
def OfRequest (P : FileTree → FileRequest → Prop) (c : Machine.Config FileTree (List UInt8)) :
    Step → Prop
  | .request r => P c.state r
  | .others _ => True

/-- **File access.**  An accepted path of a service stays inside iff it is plain or its last link
stays, an accepted path of the web interface iff its last link stays; and a run of requests, among
whatever else happens to the files, touches nothing outside if the links of each request stay. -/
theorem accepted_inside_iff (links : Nat) (resources : List String → Bool)
    (server : StaticFileServer) :
    (∀ tree serviceDir path names,
      ServiceFileHandler.resolveSafePath links resources tree serviceDir path = .ok names →
        (Inside links tree (RootDir.absolute serviceDir) names ↔
          ServiceFileHandler.Plain path ∨
            LinkStays links tree (RootDir.absolute serviceDir) (cleanSegments path))) ∧
      (∀ tree path names, server.resolveSafePath links tree path = some names →
        (Inside links tree server.m_rootDir names ↔
          LinkStays links tree server.m_rootDir (cleanSegments path))) ∧
      ∀ c steps,
        (machine links resources server).EveryStep
            (OfRequest fun tree r => r.Stays links server tree) c steps →
          (machine links resources server).EveryStep
            (OfRequest fun tree r => Confined links resources server tree r) c steps := by
  refine ⟨?_, ?_, ?_⟩
  · intro tree serviceDir path names hnames
    exact ServiceFileHandler.inside_iff hnames
  · intro tree path names hnames
    exact StaticFileServer.inside_iff hnames
  · intro c steps hsteps
    apply hsteps.mono
    intro c step hstep
    cases step with
    | request r => exact confined_of_stays r hstep
    | others tree => trivial

/-! ## §8. Links that are followed -/

/-- A page directory with a link to `/etc`, and a service directory with one whose name has a
backslash in it. -/
def linkedTree : FileTree :=
  LinkTree.ofEntries
    [(["etc"], .dir), (["etc", "passwd"], .file ⟨toUtf8 "root", true⟩),
      (["www"], .dir), (["www", "index.html"], .file ⟨[], true⟩),
      (["www", "out"], .link ⟨true, [.name "etc"]⟩),
      (["svc"], .dir), (["svc", "a\\b"], .link ⟨true, [.name "etc"]⟩)]
    (by decide)

/-- The page server of this tree. -/
def linkedServer : StaticFileServer :=
  StaticFileServer.ofRootDir 40 linkedTree (RootDir.absolute ["www"])

/-- The start page, and then a file of the service: the links of both requests stay. -/
theorem plain_run_confined :
    (machine 40 (fun _ => false) linkedServer).EveryStep
      (OfRequest fun tree r => Confined 40 (fun _ => false) linkedServer tree r)
      (Machine.start linkedTree)
      [.request (.get "/index.html"), .request (.create ["svc"] "lib/util.js" [] true)] := by
  apply (accepted_inside_iff 40 (fun _ => false) linkedServer).2.2
  refine ⟨⟨?_, Or.inl (by decide +kernel)⟩, Or.inl (by decide +kernel), trivial⟩
  exact linkStays_of_lastLink_none (by decide +kernel)

theorem etc_outside {names : List String} {name : String}
    (h : (RootDir.absolute [name]).denotes 40 linkedTree names = some ["etc", "passwd"])
    (hroot : (RootDir.absolute [name]).location 40 linkedTree = some [name])
    (hname : name ≠ "etc") :
    ¬ Inside 40 linkedTree (RootDir.absolute [name]) names := by
  intro hinside
  obtain ⟨base, hbase, hprefix⟩ := hinside _ h
  rw [hroot] at hbase
  obtain rfl := Option.some.inj hbase
  exact hname (List.cons_prefix_cons.mp hprefix).1

/-- Both servers accept a path that leads to `/etc/passwd`, and a run of one request answers it. -/
theorem link_followed_out :
    (∃ names, linkedServer.resolveSafePath 40 linkedTree "/out/passwd" = some names ∧
        ¬ Inside 40 linkedTree linkedServer.m_rootDir names) ∧
      (∃ names, ServiceFileHandler.resolveSafePath 40 (fun _ => false) linkedTree ["svc"]
            "a\\b/passwd" = .ok names ∧
          ¬ Inside 40 linkedTree (RootDir.absolute ["svc"]) names) ∧
      (serve 40 (fun _ => false) linkedServer linkedTree (.get "/out/passwd")).2 =
        [toUtf8 "root"] ∧
      ¬ (machine 40 (fun _ => false) linkedServer).EveryStep
          (OfRequest fun tree r => Confined 40 (fun _ => false) linkedServer tree r)
          (Machine.start linkedTree) [.request (.get "/out/passwd")] := by
  have hpage : ¬ Inside 40 linkedTree linkedServer.m_rootDir ["out", "passwd"] :=
    etc_outside (by decide +kernel) (by decide +kernel) (by decide)
  have haccepted : linkedServer.resolveSafePath 40 linkedTree "/out/passwd" =
      some ["out", "passwd"] := by decide +kernel
  refine ⟨⟨_, haccepted, hpage⟩, ⟨["a\\b", "passwd"], ?_, ?_⟩, ?_, ?_⟩
  · decide +kernel
  · exact etc_outside (by decide +kernel) (by decide +kernel) (by decide)
  · decide +kernel
  · intro hrun
    exact hpage (hrun.1.denotes _ haccepted)

end Stdiolink.Server.LinkedFiles
