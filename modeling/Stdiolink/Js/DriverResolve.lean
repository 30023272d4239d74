/-
  Stdiolink.Js.DriverResolve — where a script's driver is found, `bindings/js_driver_resolve.cpp`.

  Three places are searched in this order: the sub-directories of `drivers` below the data root, the
  directory of the application, and the current directory.  The first path that leads to something
  executable is taken, whatever that is: a directory is executable if it can be entered.

  The names of the data root, the application and the current directory are those of clean paths
  from the root, as the callers pass them; a place that is not given has none.

  Main results:
    * `resolve_path`       — the first candidate among all paths is taken;
    * `found_iff`          — when what is found is a program in its place;
    * `directory_found`    — a directory that is taken for a driver.
-/
import Mathlib.Data.List.Basic
import Stdiolink.Lib.LinkedTree
import Stdiolink.Server.ServiceFiles

namespace Stdiolink.Js.DriverResolve

open Stdiolink.Lib
open Stdiolink.Server.ServiceFileHandler (isAbsolutePath)

/-! ## §1. The file system -/

inductive Kind where
  | regular
  | directory
  | special
  deriving DecidableEq, Repr

/-- What `QFileInfo` says of what a path leads to, links followed. -/
structure Info where
  kind : Kind
  executable : Bool
  deriving DecidableEq, Repr

/-- A path from the root, or the name of a resource. -/
inductive FilePath where
  | file (comps : List (Comp String))
  | resource (segs : List String)
  deriving DecidableEq, Repr

/-- A name that a directory can have for something in it. -/
def Proper (name : String) : Prop :=
  name ≠ "" ∧ name ≠ "." ∧ name ≠ ".." ∧ '/' ∉ name.toList

instance (name : String) : Decidable (Proper name) := by
  unfold Proper
  infer_instance

/-- What the program sees of the files: where paths lead, and what directories list. -/
structure FileSystem where
  info : FilePath → Option Info
  entries : List (Comp String) → List String
  proper : ∀ dir, ∀ name ∈ entries dir, Proper name
  listed : ∀ dir name, Proper name → info (.file (dir ++ [.name name])) ≠ none →
    name ∈ entries dir
  parent : ∀ dir name, info (.file (dir ++ [.name name])) ≠ none →
    (info (.file dir)).any (fun info => info.kind = .directory) = true

/-- A part of a path between separators. -/
def comp (seg : String) : Comp String :=
  if seg = "" || seg = "." then .here
  else if seg = ".." then .up
  else .name seg

/-- `QDir::absoluteFilePath` for a path that does not begin with a separator. -/
def absoluteFilePath (dir : List (Comp String)) (segs : List String) : FilePath :=
  -- a colon begins the name of a resource
  if isAbsolutePath (segs.headD "") then .resource segs
  else if segs = [""] then .file dir
  else .file (dir ++ segs.map comp)

namespace FileSystem

variable (fs : FileSystem)

/-- `QDir::exists`. -/
def isDir (dir : List (Comp String)) : Bool :=
  (fs.info (.file dir)).any fun info => info.kind = .directory

/-- `QDir::entryList` for `Dirs | NoDotAndDotDot`: no hidden directory is listed. -/
def entryList (dir : List (Comp String)) : List String :=
  (fs.entries dir).filter fun name =>
    name.toList.head? ≠ some '.' && fs.isDir (dir ++ [.name name])

end FileSystem

/-! ## §2. Trees with links -/

section Trees

/-- What lies at a location; a file says whether it is a regular one. -/
def infoAt (executable : List String → Bool) (loc : List String) :
    Option (Entry String Bool) → Option Info
  | some (.file regular) => some ⟨if regular then .regular else .special, executable loc⟩
  | some .dir => some ⟨.directory, executable loc⟩
  | _ => none

theorem infoAt_ne_none {tree : LinkTree String Bool} {executable : List String → Bool}
    {walked : Option (List String)}
    (h : walked.bind (fun loc => infoAt executable loc (tree.node loc)) ≠ none) :
    walked.bind tree.node ≠ none := by
  cases walked with
  | none => exact absurd rfl h
  | some loc =>
    intro hnone
    apply h
    show infoAt executable loc (tree.node loc) = none
    rw [show tree.node loc = none from hnone]
    rfl

/-- **A tree of files** with links and executable bits, as the program sees it. -/
def FileSystem.ofTree (links : Nat) (tree : LinkTree String Bool) (executable : List String → Bool)
    (names : List String → List String)
    (hnames : ∀ loc name, name ∈ names loc ↔ tree.node (loc ++ [name]) ≠ none)
    (hproper : ∀ loc name, tree.node (loc ++ [name]) ≠ none → Proper name) : FileSystem where
  info
    | .resource _ => none
    | .file comps =>
      (tree.walk links [] comps).bind fun loc => infoAt executable loc (tree.node loc)
  entries dir := ((tree.walk links [] dir).map names).getD []
  proper dir name hname := by
    cases hwalk : tree.walk links [] dir with
    | none =>
      rw [hwalk] at hname
      cases hname
    | some loc =>
      rw [hwalk] at hname
      exact hproper loc name ((hnames loc name).mp hname)
  listed dir name _ hinfo := by
    obtain ⟨loc, hwalk, hnode⟩ := tree.walk_of_concat (infoAt_ne_none hinfo)
    rw [hwalk]
    exact (hnames loc name).mpr hnode
  parent dir name hinfo := by
    obtain ⟨loc, hwalk, hnode⟩ := tree.walk_of_concat (infoAt_ne_none hinfo)
    show (((tree.walk links [] dir).bind _).any _) = true
    rw [hwalk]
    show ((infoAt executable loc (tree.node loc)).any _) = true
    rw [tree.parent loc name hnode]
    rfl

/-- A tree that is listed, whose files and directories are all executable. -/
def FileSystem.ofEntries (entries : List (List String × Entry String Bool))
    (h : ∀ entry ∈ entries, entry.1.dropLast = [] ∨
      entries.lookup entry.1.dropLast = some .dir)
    (hproper : ∀ entry ∈ entries, ∀ name ∈ entry.1.getLast?, Proper name) : FileSystem :=
  .ofTree 40 (.ofEntries entries h) (fun _ => true) (LinkTree.namesIn entries)
    (fun _ _ => LinkTree.mem_namesIn h) fun loc name hnode => by
      obtain ⟨entry, hmem, hloc⟩ := LinkTree.exists_of_node_ofEntries hnode
      exact hproper entry hmem name (by rw [hloc, List.getLast?_concat]; rfl)

end Trees

/-! ## §3. The search -/

/-- `execName`, on Unix. -/
def execName (baseName : String) : String := baseName

/-- `isValidDriverName`. -/
def isValidDriverName (name : String) : Bool :=
  if '/' ∈ name.toList || '\\' ∈ name.toList then false
  else if ".exe".toList.isSuffixOf (name.toList.map Char.toLower) then false
  else true

structure DriverResolveResult where
  path : Option FilePath := none
  searchedPaths : List FilePath := []
  deriving DecidableEq, Repr

section Search

variable (fs : FileSystem) (name : String)

/-- `isDriverCandidate`, on Unix. -/
def isDriverCandidate (path : FilePath) : Bool :=
  match fs.info path with
  | none => false
  | some fi => fi.executable

/-- `dataRoot + "/drivers"`. -/
def driversDir (dataRoot : List String) : List (Comp String) :=
  dataRoot.map .name ++ [.name "drivers"]

/-- The paths below the sub-directories, in the order of the listing. -/
def subFiles (dataRoot : List String) : List FilePath :=
  (fs.entryList (driversDir dataRoot)).map fun sub =>
    absoluteFilePath (driversDir dataRoot) [sub, name]

/-- The first stage: `dataRoot/drivers/*/`. -/
def searchDrivers : Option (List String) → DriverResolveResult
  | none => {}
  | some dataRoot =>
    { path :=
        if fs.isDir (driversDir dataRoot) then
          (subFiles fs name dataRoot).find? (isDriverCandidate fs)
        else none
      searchedPaths := [.file (driversDir dataRoot ++ [.name "*", .here])] }

/-- The other stages: a directory itself. -/
def searchDir (dir : List String) : DriverResolveResult :=
  let p := absoluteFilePath (dir.map .name) [name]
  { path := if isDriverCandidate fs p then some p else none
    searchedPaths := [p] }

/-- What is found first, and all that was searched up to there. -/
def DriverResolveResult.orElse (first : DriverResolveResult) (rest : DriverResolveResult) :
    DriverResolveResult :=
  match first.path with
  | some _ => first
  | none => { rest with searchedPaths := first.searchedPaths ++ rest.searchedPaths }

/-- `resolveDriverPath`. -/
def resolveDriverPath (driverName : String) (dataRoot appDir : Option (List String))
    (cwd : List String) : DriverResolveResult :=
  if !isValidDriverName driverName then {}
  else
    let name := execName driverName
    (searchDrivers fs name dataRoot).orElse
      (((appDir.map (searchDir fs name)).getD {}).orElse (searchDir fs name cwd))

end Search

/-! ## §4. What should be found -/

/-- The places, in the order of preference. -/
inductive Place where
  | drivers
  | application
  | current
  deriving DecidableEq, Repr

def Place.rank : Place → Nat
  | .drivers => 0
  | .application => 1
  | .current => 2

section Claims

variable (fs : FileSystem) (driverName : String) (dataRoot appDir : Option (List String))
  (cwd : List String)

/-- The path lies directly in the place, under the driver's name. -/
def Lies (path : FilePath) : Place → Prop
  | .drivers => ∃ root sub, dataRoot = some root ∧ Proper sub ∧
      fs.isDir (driversDir root ++ [.name sub]) = true ∧
      path = .file (driversDir root ++ [.name sub, .name driverName])
  | .application => ∃ dir, appDir = some dir ∧ path = .file (dir.map .name ++ [.name driverName])
  | .current => path = .file (cwd.map .name ++ [.name driverName])

/-- The path leads to an executable regular file, and ends with the driver's name. -/
def IsProgram (path : FilePath) : Prop :=
  Proper driverName ∧ fs.info path = some ⟨.regular, true⟩ ∧
    ∃ dir, path = .file (dir ++ [.name driverName])

/-- **What is found is a program in its place**, and no earlier place has one. -/
def FoundInPlace : Prop :=
  ∀ path, (resolveDriverPath fs driverName dataRoot appDir cwd).path = some path →
    IsProgram fs driverName path ∧ ∃ place : Place,
      Lies fs driverName dataRoot appDir cwd path place ∧
      ∀ earlier : Place, earlier.rank < place.rank → ∀ other,
        Lies fs driverName dataRoot appDir cwd other earlier → ¬ IsProgram fs driverName other

/-- The paths outside the drivers, in the order in which they are looked at. -/
def laterFiles : List FilePath :=
  (appDir.map fun dir => absoluteFilePath (dir.map .name) [driverName]).toList ++
    [absoluteFilePath (cwd.map .name) [driverName]]

/-- The paths below the sub-directories that are looked at. -/
def driverFiles : List FilePath :=
  match dataRoot with
  | none => []
  | some root => if fs.isDir (driversDir root) then subFiles fs driverName root else []

/-- The listing or the path leaves this sub-directory out. -/
def LeftOut (sub : String) : Prop := sub.toList.head? = some '.' ∨ isAbsolutePath sub = true

/-- **Nothing stands in the way**: what is executable under the name is a program, unless a program
comes before it, and no program lies in a sub-directory that is left out while one outside is
taken. -/
structure NothingInTheWay : Prop where
  onlyPrograms : ∀ before path after,
    driverFiles fs driverName dataRoot ++ laterFiles driverName appDir cwd =
        before ++ path :: after →
      isDriverCandidate fs path = true →
        IsProgram fs driverName path ∨ ∃ other ∈ before, IsProgram fs driverName other
  leftOut : ∀ root sub, dataRoot = some root → LeftOut sub →
    Lies fs driverName dataRoot appDir cwd
      (.file (driversDir root ++ [.name sub, .name driverName])) .drivers →
    IsProgram fs driverName (.file (driversDir root ++ [.name sub, .name driverName])) →
      (∃ path ∈ driverFiles fs driverName dataRoot, IsProgram fs driverName path) ∨
      ∀ before path after, laterFiles driverName appDir cwd = before ++ path :: after →
        isDriverCandidate fs path = true →
          (∃ other ∈ before, isDriverCandidate fs other = true) ∨
          Lies fs driverName dataRoot appDir cwd path .drivers

end Claims

/-! ## §5. The paths that are looked at -/

section Paths

variable {fs : FileSystem} {driverName : String} {dataRoot appDir : Option (List String)}
  {cwd : List String}

/-- **The first candidate** among all paths is taken. -/
theorem resolve_path (h : isValidDriverName driverName = true) :
    (resolveDriverPath fs driverName dataRoot appDir cwd).path =
      (driverFiles fs driverName dataRoot ++ laterFiles driverName appDir cwd).find?
        (isDriverCandidate fs) := by
  have hdrivers : (searchDrivers fs driverName dataRoot).path =
      (driverFiles fs driverName dataRoot).find? (isDriverCandidate fs) := by
    unfold searchDrivers driverFiles
    cases dataRoot with
    | none => rfl
    | some root =>
      dsimp only
      split <;> rfl
  have hdir : ∀ dir, (searchDir fs driverName dir).path =
      [absoluteFilePath (dir.map .name) [driverName]].find? (isDriverCandidate fs) := by
    intro dir
    simp only [searchDir, List.find?_singleton]
  have happ : ((appDir.map (searchDir fs driverName)).getD {}).path =
      (appDir.map fun dir => absoluteFilePath (dir.map .name) [driverName]).toList.find?
        (isDriverCandidate fs) := by
    cases appDir with
    | none => rfl
    | some dir => exact hdir dir
  have horElse : ∀ first rest : DriverResolveResult,
      (first.orElse rest).path = first.path.or rest.path := by
    intro first rest
    unfold DriverResolveResult.orElse
    cases hfirst : first.path with
    | none => rfl
    | some path => exact hfirst
  unfold resolveDriverPath execName laterFiles
  rw [h, List.find?_append, List.find?_append, ← hdrivers, ← happ, ← hdir, ← horElse, ← horElse]
  rfl

variable {path : FilePath}

theorem IsProgram.candidate (h : IsProgram fs driverName path) :
    isDriverCandidate fs path = true := by
  rw [isDriverCandidate, h.2.1]

theorem comp_proper {name : String} (h : Proper name) : comp name = .name name := by
  unfold comp
  rw [if_neg, if_neg h.2.2.1]
  simp [h.1, h.2.1]

/-- The path of a proper name, where no resource is meant. -/
theorem absoluteFilePath_proper {dir : List (Comp String)} {sub : String} {names : List String}
    (hcolon : isAbsolutePath sub = false) (hproper : ∀ name ∈ sub :: names, Proper name) :
    absoluteFilePath dir (sub :: names) = .file (dir ++ (sub :: names).map .name) := by
  have hne : sub :: names ≠ [""] := by
    intro h
    exact (hproper sub List.mem_cons_self).1 (List.cons.inj h).1
  have hmap : (sub :: names).map comp = (sub :: names).map .name :=
    List.map_congr_left fun name hname => comp_proper (hproper name hname)
  unfold absoluteFilePath
  rw [List.headD_cons, hcolon, if_neg Bool.false_ne_true, if_neg hne, hmap]

/-- A program below the data root lies in a sub-directory. -/
theorem lies_of_mem_driverFiles (hmem : path ∈ driverFiles fs driverName dataRoot)
    (h : IsProgram fs driverName path) :
    Lies fs driverName dataRoot appDir cwd path .drivers := by
  unfold driverFiles at hmem
  cases dataRoot with
  | none => cases hmem
  | some root =>
    dsimp only at hmem
    split at hmem
    · obtain ⟨sub, hsub, rfl⟩ := List.mem_map.mp hmem
      unfold FileSystem.entryList at hsub
      obtain ⟨hentry, hfilter⟩ := List.mem_filter.mp hsub
      have hproper := fs.proper _ sub hentry
      have hdir := (Bool.and_eq_true _ _ ▸ hfilter).2
      obtain ⟨hname, -, dir, hpath⟩ := h
      cases hcolon : isAbsolutePath sub with
      | true =>
        unfold absoluteFilePath at hpath
        rw [List.headD_cons, hcolon] at hpath
        cases hpath
      | false =>
        refine ⟨root, sub, rfl, hproper, hdir, ?_⟩
        exact absoluteFilePath_proper hcolon (by simp [hproper, hname])
    · cases hmem

/-- A sub-directory that is not left out is looked at. -/
theorem mem_driverFiles {root : List String} {sub : String} (hsub : Proper sub)
    (hdir : fs.isDir (driversDir root ++ [.name sub]) = true) (hname : Proper driverName)
    (hseen : ¬ LeftOut sub) :
    .file (driversDir root ++ [.name sub, .name driverName]) ∈
      driverFiles fs driverName (some root) := by
  have hthere : fs.info (.file (driversDir root ++ [.name sub])) ≠ none := by
    intro hnone
    unfold FileSystem.isDir at hdir
    rw [hnone] at hdir
    cases hdir
  unfold LeftOut at hseen
  rw [not_or, Bool.not_eq_true] at hseen
  have hroot : fs.isDir (driversDir root) = true := fs.parent _ _ hthere
  unfold driverFiles
  dsimp only
  rw [if_pos hroot]
  refine List.mem_map.mpr ⟨sub, List.mem_filter.mpr ⟨fs.listed _ _ hsub hthere, ?_⟩, ?_⟩
  · rw [hdir, Bool.and_true]
    exact decide_eq_true hseen.1
  · exact absoluteFilePath_proper hseen.2 (by simp [hsub, hname])

/-- A program outside lies in its directory. -/
theorem absoluteFilePath_program {dir : List String}
    (h : IsProgram fs driverName (absoluteFilePath (dir.map .name) [driverName])) :
    absoluteFilePath (dir.map .name) [driverName] = .file (dir.map .name ++ [.name driverName]) ∧
      isAbsolutePath driverName = false := by
  obtain ⟨hname, -, base, hpath⟩ := h
  cases hcolon : isAbsolutePath driverName with
  | true =>
    unfold absoluteFilePath at hpath
    rw [List.headD_cons, hcolon] at hpath
    cases hpath
  | false => exact ⟨absoluteFilePath_proper hcolon (by simp [hname]), rfl⟩

/-- What is found before anything else is a program, if only programs are in the way. -/
theorem NothingInTheWay.program (h : NothingInTheWay fs driverName dataRoot appDir cwd)
    (hfind : (driverFiles fs driverName dataRoot ++ laterFiles driverName appDir cwd).find?
      (isDriverCandidate fs) = some path) : IsProgram fs driverName path := by
  obtain ⟨hcandidate, before, after, hsplit, hbefore⟩ := List.find?_eq_some_iff_append.mp hfind
  rcases h.onlyPrograms before path after hsplit hcandidate with hprogram | ⟨other, hmem, hother⟩
  · exact hprogram
  · have hno := hbefore other hmem
    rw [hother.candidate] at hno
    cases hno

/-- No sub-directory has a program if the first candidate lies outside them. -/
theorem NothingInTheWay.no_driver (h : NothingInTheWay fs driverName dataRoot appDir cwd)
    (hnone : ∀ other ∈ driverFiles fs driverName dataRoot, ¬ isDriverCandidate fs other = true)
    (hfind : (laterFiles driverName appDir cwd).find? (isDriverCandidate fs) = some path)
    (houtside : ¬ Lies fs driverName dataRoot appDir cwd path .drivers) {other : FilePath}
    (hlies : Lies fs driverName dataRoot appDir cwd other .drivers) :
    ¬ IsProgram fs driverName other := by
  intro hprogram
  obtain ⟨root, sub, rfl, hsub, hdir, rfl⟩ := id hlies
  by_cases hleft : LeftOut sub
  · obtain ⟨hcandidate, before, after, hsplit, hbefore⟩ := List.find?_eq_some_iff_append.mp hfind
    rcases h.leftOut root sub rfl hleft hlies hprogram with ⟨first, hmem, hfirst⟩ | hlater
    · exact hnone first hmem hfirst.candidate
    · rcases hlater before path after hsplit hcandidate with ⟨first, hmem, hfirst⟩ | hinside
      · have hno := hbefore first hmem
        rw [hfirst] at hno
        cases hno
      · exact houtside hinside
  · exact hnone _ (mem_driverFiles hsub hdir hprogram.1 hleft) hprogram.candidate

/-- The first program outside lies in its place, and in no earlier one outside. -/
theorem laterFiles_place
    (hfind : (laterFiles driverName appDir cwd).find? (isDriverCandidate fs) = some path)
    (hprogram : IsProgram fs driverName path) :
    Lies fs driverName dataRoot appDir cwd path .application ∨
      Lies fs driverName dataRoot appDir cwd path .current ∧
        ∀ other, Lies fs driverName dataRoot appDir cwd other .application →
          ¬ IsProgram fs driverName other := by
  unfold laterFiles at hfind
  cases appDir with
  | none =>
    obtain rfl := List.mem_singleton.mp (List.mem_of_find?_eq_some hfind)
    refine .inr ⟨(absoluteFilePath_program hprogram).1, ?_⟩
    rintro other ⟨dir, hdir, -⟩
    cases hdir
  | some dir =>
    rw [Option.map_some, Option.toList_some, List.singleton_append, List.find?_cons] at hfind
    cases happ : isDriverCandidate fs (absoluteFilePath (dir.map .name) [driverName]) with
    | true =>
      rw [happ] at hfind
      obtain rfl := Option.some.inj hfind
      exact .inl ⟨dir, rfl, (absoluteFilePath_program hprogram).1⟩
    | false =>
      rw [happ] at hfind
      obtain rfl := List.mem_singleton.mp (List.mem_of_find?_eq_some hfind)
      obtain ⟨hpath, hcolon⟩ := absoluteFilePath_program hprogram
      refine .inr ⟨hpath, ?_⟩
      rintro other ⟨dir', hdir, rfl⟩ hother
      obtain rfl := Option.some.inj hdir
      have hsame : absoluteFilePath (dir.map .name) [driverName] =
          .file (dir.map .name ++ [.name driverName]) :=
        absoluteFilePath_proper hcolon (by simp [hother.1])
      rw [hsame, hother.candidate] at happ
      cases happ

end Paths

/-- **When what is found is a program in its place**: if and only if the name is rejected, or nothing
stands in the way. -/
theorem found_iff (fs : FileSystem) (driverName : String) (dataRoot appDir : Option (List String))
    (cwd : List String) :
    FoundInPlace fs driverName dataRoot appDir cwd ↔
      isValidDriverName driverName = false ∨
        NothingInTheWay fs driverName dataRoot appDir cwd := by
  cases hvalid : isValidDriverName driverName with
  | false =>
    refine iff_of_true (fun path hpath => ?_) (.inl rfl)
    rw [resolveDriverPath, hvalid] at hpath
    cases hpath
  | true =>
    rw [or_iff_right (by decide)]
    unfold FoundInPlace
    rw [resolve_path hvalid]
    constructor
    · intro h
      refine ⟨?_, ?_⟩
      · intro before path after hsplit hcandidate
        rw [hsplit, List.find?_append] at h
        cases hbefore : before.find? (isDriverCandidate fs) with
        | some other =>
          rw [hbefore] at h
          exact .inr ⟨other, List.mem_of_find?_eq_some hbefore, (h other rfl).1⟩
        | none =>
          rw [hbefore, List.find?_cons_of_pos hcandidate] at h
          exact .inl (h path rfl).1
      · intro root sub hroot hleft hlies hprogram
        rw [List.find?_append] at h
        cases hdrivers : (driverFiles fs driverName dataRoot).find? (isDriverCandidate fs) with
        | some other =>
          rw [hdrivers] at h
          exact .inl ⟨other, List.mem_of_find?_eq_some hdrivers, (h other rfl).1⟩
        | none =>
          -- then something outside is taken, and the program that is left out comes before it
          refine .inr fun before path after hsplit hcandidate => ?_
          rw [hdrivers, hsplit, List.find?_append] at h
          cases hbefore : before.find? (isDriverCandidate fs) with
          | some other =>
            have hother := List.find?_some hbefore
            exact .inl ⟨other, List.mem_of_find?_eq_some hbefore, hother⟩
          | none =>
            rw [hbefore, List.find?_cons_of_pos hcandidate] at h
            obtain ⟨-, place, hplace, hearlier⟩ := h path rfl
            refine .inr ?_
            cases place with
            | drivers => exact hplace
            | application => exact absurd hprogram (hearlier .drivers (by decide) _ hlies)
            | current => exact absurd hprogram (hearlier .drivers (by decide) _ hlies)
    · intro h path hpath
      have hprogram := h.program hpath
      refine ⟨hprogram, ?_⟩
      have hfirst : ∀ earlier : Place, ¬ earlier.rank < Place.drivers.rank :=
        fun earlier => Nat.not_lt_zero _
      rw [List.find?_append] at hpath
      cases hdrivers : (driverFiles fs driverName dataRoot).find? (isDriverCandidate fs) with
      | some other =>
        rw [hdrivers] at hpath
        obtain rfl := Option.some.inj hpath
        exact ⟨.drivers, lies_of_mem_driverFiles (List.mem_of_find?_eq_some hdrivers) hprogram,
          fun earlier hlt => absurd hlt (hfirst earlier)⟩
      | none =>
        rw [hdrivers] at hpath
        have hnone := List.find?_eq_none.mp hdrivers
        by_cases hinside : Lies fs driverName dataRoot appDir cwd path .drivers
        · exact ⟨.drivers, hinside, fun earlier hlt => absurd hlt (hfirst earlier)⟩
        · rcases laterFiles_place hpath hprogram with happ | ⟨hcurrent, hno⟩
          · refine ⟨.application, happ, fun earlier hlt other hlies => ?_⟩
            cases earlier with
            | drivers => exact h.no_driver hnone hpath hinside hlies
            | application => exact absurd hlt (by decide)
            | current => exact absurd hlt (by decide)
          · refine ⟨.current, hcurrent, fun earlier hlt other hlies => ?_⟩
            cases earlier with
            | drivers => exact h.no_driver hnone hpath hinside hlies
            | application => exact hno other hlies
            | current => exact absurd hlt (by decide)

/-- The application directory has a directory `calc`, and the current one a program of this name. -/
def shadowed : FileSystem :=
  .ofEntries
    [(["app"], .dir), (["app", "calc"], .dir), (["work"], .dir), (["work", "calc"], .file true)]
    (by decide) (by decide)

/-- **A directory that is taken for a driver**, before the program. -/
theorem directory_found : ¬ FoundInPlace shadowed "calc" none (some ["app"]) ["work"] := by
  intro h
  have hpath : (resolveDriverPath shadowed "calc" none (some ["app"]) ["work"]).path =
      some (.file [.name "app", .name "calc"]) := by decide
  obtain ⟨⟨-, hregular, -⟩, -⟩ := h _ hpath
  have hinfo : shadowed.info (.file [.name "app", .name "calc"]) = some ⟨.directory, true⟩ := by
    decide
  rw [hinfo] at hregular
  cases hregular

end Stdiolink.Js.DriverResolve
