/-
  Stdiolink.Lib.LinkedTree — trees of files with symbolic links, and what a path denotes in them.

  A location is the list of names that leads to it from the root; a path is a list of components,
  walked from a directory on.  A link is followed wherever the walk meets it, the last component
  included, and its target may lead anywhere; the number of links that one walk follows is bounded.
  A walk goes on where nothing lies, so that a path denotes the location of a file that is not
  there yet.

  Where a path `xs ++ names` ends is decided by the last link that its names meet: the walk up to
  this link, and then the remaining names as they stand.

  Main results:
    * `walk_concat`      — a name that is no link is put at the end of where the walk stands;
    * `walk_append`      — where a path ends, by the last link on it;
    * `node_put`, `node_remove` — all that writing and removing a file changes.
-/
import Mathlib.Data.List.Induction
import Mathlib.Data.List.Infix

namespace Stdiolink.Lib

/-- A component of a path. -/
inductive Comp (ν : Type*) where
  | here
  | up
  | name (n : ν)
  deriving DecidableEq, Repr

/-- What a link leads to: a path from the root, or from the directory of the link. -/
structure Target (ν : Type*) where
  absolute : Bool
  comps : List (Comp ν)
  deriving DecidableEq, Repr

/-- What lies at a location. -/
inductive Entry (ν α : Type*) where
  | file (data : α)
  | dir
  | link (target : Target ν)
  deriving DecidableEq, Repr

namespace Entry

variable {ν α : Type*}

def isLink : Entry ν α → Bool
  | .link _ => true
  | _ => false

def isFile : Entry ν α → Bool
  | .file _ => true
  | _ => false

def isDir : Entry ν α → Bool
  | .dir => true
  | _ => false

end Entry

/-- A tree of files: what lies below something lies below a directory. -/
structure LinkTree (ν α : Type*) where
  node : List ν → Option (Entry ν α)
  root : node [] = some .dir
  parent : ∀ dir name, node (dir ++ [name]) ≠ none → node dir = some .dir

namespace LinkTree

variable {ν α : Type*}

/-! ## §1. Walks -/

section Walk

variable (t : LinkTree ν α)

def isDir (loc : List ν) : Bool :=
  match t.node loc with
  | some .dir => true
  | _ => false

/-- A walk up to the first link, which `follow` takes over with what remains. -/
def walkWith (follow : List ν → List (Comp ν) → Option (List ν)) (dir : List ν) :
    List (Comp ν) → Option (List ν)
  | [] => some dir
  | .here :: rest => if t.isDir dir then walkWith follow dir rest else none
  | .up :: rest => if t.isDir dir then walkWith follow dir.dropLast rest else none
  | .name n :: rest =>
    match t.node (dir ++ [n]) with
    | some (.link target) =>
      follow (if target.absolute then [] else dir) (target.comps ++ rest)
    | _ => walkWith follow (dir ++ [n]) rest

/-- The location that a path denotes, if no more than `links` links are met. -/
def walk : Nat → List ν → List (Comp ν) → Option (List ν)
  | 0 => t.walkWith fun _ _ => none
  | links + 1 => t.walkWith (walk links)

/-- What a path leads to. -/
def stat (links : Nat) (dir : List ν) (comps : List (Comp ν)) : Option (Entry ν α) :=
  (t.walk links dir comps).bind t.node

/-- What a path leads to when its last name is not followed. -/
def lstat (links : Nat) (dir : List ν) (comps : List (Comp ν)) : Option (Entry ν α) :=
  match comps.getLast? with
  | some (.name n) => (t.walk links dir comps.dropLast).bind fun loc => t.node (loc ++ [n])
  | _ => t.stat links dir comps

def isSymLink (links : Nat) (dir : List ν) (comps : List (Comp ν)) : Bool :=
  (t.lstat links dir comps).any Entry.isLink

/-- The last link among the names after `xs`: the path up to it, and the names that remain. -/
def lastLink (links : Nat) (dir : List ν) (xs : List (Comp ν)) :
    List ν → Option (List (Comp ν) × List ν)
  | [] => none
  | n :: rest =>
    (lastLink links dir (xs ++ [.name n]) rest).or
      (if t.isSymLink links dir (xs ++ [.name n]) then some (xs ++ [.name n], rest) else none)

end Walk

section WalkLemmas

variable {t : LinkTree ν α} {links : Nat} {dir : List ν}

theorem lstat_concat (xs : List (Comp ν)) (n : ν) :
    t.lstat links dir (xs ++ [.name n]) =
      (t.walk links dir xs).bind fun loc => t.node (loc ++ [n]) := by
  unfold lstat
  rw [List.getLast?_concat, List.dropLast_concat]

/-- The walk with one name more, for a walk that leaves its links to `follow`. -/
theorem walkWith_concat {follow : List ν → List (Comp ν) → Option (List ν)} {n : ν}
    (hfollow : ∀ from_ comps,
      (∀ loc, follow from_ comps = some loc →
        (t.node (loc ++ [n])).any Entry.isLink = false) →
      follow from_ (comps ++ [.name n]) = (follow from_ comps).map (· ++ [n]))
    {xs : List (Comp ν)}
    (hlink : ∀ loc, t.walkWith follow dir xs = some loc →
      (t.node (loc ++ [n])).any Entry.isLink = false) :
    t.walkWith follow dir (xs ++ [.name n]) = (t.walkWith follow dir xs).map (· ++ [n]) := by
  induction xs generalizing dir with
  | nil =>
    have hn := hlink dir rfl
    show (match t.node (dir ++ [n]) with
      | some (.link target) => _
      | _ => some (dir ++ [n])) = some (dir ++ [n])
    split
    next target htarget =>
      rw [htarget] at hn
      simp [Entry.isLink] at hn
    next => rfl
  | cons comp rest ih =>
    cases comp with
    | here =>
      simp only [List.cons_append, walkWith] at hlink ⊢
      split
      next hdir =>
        simp only [hdir, if_true] at hlink
        exact ih hlink
      next => rfl
    | up =>
      simp only [List.cons_append, walkWith] at hlink ⊢
      split
      next hdir =>
        simp only [hdir, if_true] at hlink
        exact ih hlink
      next => rfl
    | name m =>
      simp only [List.cons_append, walkWith] at hlink ⊢
      split
      next target htarget =>
        simp only [htarget] at hlink
        rw [← List.append_assoc]
        exact hfollow _ _ hlink
      next hother =>
        apply ih
        intro loc hloc
        apply hlink loc
        split
        next target htarget => exact absurd htarget (hother target)
        next => exact hloc

/-- **One name more.**  A name that is no link is put at the end of where the walk stands. -/
theorem walk_concat {xs : List (Comp ν)} {n : ν}
    (hlink : t.isSymLink links dir (xs ++ [.name n]) = false) :
    t.walk links dir (xs ++ [.name n]) = (t.walk links dir xs).map (· ++ [n]) := by
  have hnode : ∀ loc, t.walk links dir xs = some loc →
      (t.node (loc ++ [n])).any Entry.isLink = false := by
    intro loc hloc
    unfold isSymLink at hlink
    rw [lstat_concat, hloc] at hlink
    exact hlink
  -- on the links that may still be followed: behind each of them the walk has one fewer
  clear hlink
  induction links generalizing dir xs with
  | zero => exact walkWith_concat (fun _ _ _ => rfl) hnode
  | succ links ih => exact walkWith_concat (fun from_ comps h => ih h) hnode

/-- What a path leads to lies below what it leads to without its last name. -/
theorem walk_of_concat {xs : List (Comp ν)} {n : ν}
    (h : (t.walk links dir (xs ++ [.name n])).bind t.node ≠ none) :
    ∃ loc, t.walk links dir xs = some loc ∧ t.node (loc ++ [n]) ≠ none := by
  cases hlink : t.isSymLink links dir (xs ++ [.name n]) with
  | false =>
    rw [walk_concat hlink] at h
    cases hwalk : t.walk links dir xs with
    | none =>
      rw [hwalk] at h
      exact absurd rfl h
    | some loc =>
      rw [hwalk] at h
      exact ⟨loc, rfl, h⟩
  | true =>
    unfold isSymLink at hlink
    rw [lstat_concat] at hlink
    cases hwalk : t.walk links dir xs with
    | none =>
      rw [hwalk] at hlink
      cases hlink
    | some loc =>
      rw [hwalk] at hlink
      refine ⟨loc, rfl, fun hnone => ?_⟩
      rw [Option.bind_some, hnone] at hlink
      cases hlink

theorem lastLink_cons (xs : List (Comp ν)) (n : ν) (rest : List ν) :
    t.lastLink links dir xs (n :: rest) =
      (t.lastLink links dir (xs ++ [.name n]) rest).or
        (if t.isSymLink links dir (xs ++ [.name n]) then some (xs ++ [.name n], rest) else none) :=
  rfl

/-- **Where a path ends.**  The last link that the names meet is followed, and from there the
remaining names lead on as they stand. -/
theorem walk_append (names : List ν) (xs : List (Comp ν)) :
    t.walk links dir (xs ++ names.map .name) =
      match t.lastLink links dir xs names with
      | none => (t.walk links dir xs).map (· ++ names)
      | some (through, rest) => (t.walk links dir through).map (· ++ rest) := by
  induction names generalizing xs with
  | nil => simp [lastLink]
  | cons n rest ih =>
    have hsplit : xs ++ (n :: rest).map Comp.name = (xs ++ [.name n]) ++ rest.map .name := by simp
    rw [hsplit, ih, lastLink_cons]
    cases t.lastLink links dir (xs ++ [.name n]) rest with
    | some found => rfl
    | none =>
      -- the last link is `n`, or there is none and `n` is one more name
      rw [Option.none_or]
      by_cases hlink : t.isSymLink links dir (xs ++ [.name n]) = true
      · rw [if_pos hlink]
      · rw [if_neg hlink]
        show (t.walk links dir (xs ++ [.name n])).map _ = (t.walk links dir xs).map _
        rw [walk_concat (Bool.eq_false_iff.mpr hlink), Option.map_map]
        congr 1
        funext loc
        exact List.append_assoc loc [n] rest

section NoLinks

variable {base : List ν} {xs : List (Comp ν)}

end NoLinks

end WalkLemmas

/-! ## §2. Writing and removing a file -/

section Change

variable (t : LinkTree ν α)

/-- A file may be put here: nothing but a file lies here, and nothing but directories above. -/
structure CanPut (loc : List ν) : Prop where
  below : loc ≠ []
  self : ∀ entry ∈ t.node loc, entry.isFile = true
  above : ∀ dir ∈ loc.inits, dir ≠ loc → ∀ entry ∈ t.node dir, entry.isDir = true

variable [DecidableEq ν]

instance (loc : List ν) : Decidable (t.CanPut loc) :=
  decidable_of_iff
    (loc ≠ [] ∧ (∀ entry ∈ t.node loc, entry.isFile = true) ∧
      ∀ dir ∈ loc.inits, dir ≠ loc → ∀ entry ∈ t.node dir, entry.isDir = true)
    ⟨fun h => ⟨h.1, h.2.1, h.2.2⟩, fun h => ⟨h.below, h.self, h.above⟩⟩

/-- What lies where once a file has been written, with the directories above it that were not
there. -/
def putNode (loc : List ν) (data : α) (q : List ν) : Option (Entry ν α) :=
  if q = loc then some (.file data)
  else if q <+: loc ∧ t.node q = none then some .dir
  else t.node q

variable {t} in
theorem CanPut.putNode_root {loc : List ν} (h : t.CanPut loc) (data : α) :
    t.putNode loc data [] = some .dir := by
  unfold putNode
  rw [if_neg h.below.symm, if_neg fun hnew => by simp [t.root] at hnew, t.root]

variable {t} in
/-- Above the file are directories, or directories now. -/
theorem CanPut.putNode_above {loc : List ν} (h : t.CanPut loc) (data : α) {dir : List ν}
    (hdir : dir <+: loc) (hne : dir ≠ loc) : t.putNode loc data dir = some .dir := by
  unfold putNode
  rw [if_neg hne]
  cases hnode : t.node dir with
  | none => rw [if_pos ⟨hdir, rfl⟩]
  | some entry =>
    have hentry := h.above dir ((List.mem_inits _ _).mpr hdir) hne entry hnode
    cases entry with
    | dir => simp
    | file data => simp [Entry.isDir] at hentry
    | link target => simp [Entry.isDir] at hentry

variable {t} in
theorem CanPut.putNode_parent {loc : List ν} (h : t.CanPut loc) (data : α) (dir : List ν)
    (name : ν) (hbelow : t.putNode loc data (dir ++ [name]) ≠ none) :
    t.putNode loc data dir = some .dir := by
  by_cases hup : dir ++ [name] <+: loc
  · apply h.putNode_above data ((List.prefix_append dir [name]).trans hup)
    intro heq
    have hlen := hup.length_le
    rw [← heq, List.length_append, List.length_singleton] at hlen
    omega
  · -- the entry below `dir` is as it was, so a directory was here and no file is put in its place
    have hloc : dir ++ [name] ≠ loc := fun heq => hup (heq ▸ List.prefix_rfl)
    unfold putNode at hbelow
    rw [if_neg hloc, if_neg fun hnew => hup hnew.1] at hbelow
    have hdir := t.parent dir name hbelow
    unfold putNode
    rw [if_neg, if_neg fun hnew => by simp [hdir] at hnew, hdir]
    intro heq
    have hfile := h.self .dir (by rw [← heq, hdir]; rfl)
    simp [Entry.isFile] at hfile

/-- Write a file where one may be put. -/
def put (loc : List ν) (data : α) : LinkTree ν α :=
  if h : t.CanPut loc then
    { node := t.putNode loc data
      root := h.putNode_root data
      parent := h.putNode_parent data }
  else t

/-- Take the file here away. -/
def remove (loc : List ν) : LinkTree ν α :=
  if h : (t.node loc).any Entry.isFile = true then
    { node := fun q => if q = loc then none else t.node q
      root := by
        rw [if_neg, t.root]
        intro heq
        simp [← heq, t.root, Entry.isFile] at h
      parent := by
        intro dir name hbelow
        have hdir : t.node dir = some .dir := by
          apply t.parent dir name
          intro hnone
          rw [hnone, ite_self] at hbelow
          exact hbelow rfl
        rw [if_neg, hdir]
        intro heq
        simp [← heq, hdir, Entry.isFile] at h }
  else t

variable {t}

/-- Writing a file changes this file and makes directories where nothing was, nothing else. -/
theorem node_put {loc : List ν} {data : α} {q : List ν}
    (h : (t.put loc data).node q ≠ t.node q) :
    q = loc ∨ t.node q = none ∧ (t.put loc data).node q = some .dir := by
  unfold put at h ⊢
  split at h
  next hcan =>
    rw [dif_pos hcan]
    unfold putNode at h ⊢
    dsimp only at h ⊢
    by_cases hq : q = loc
    · exact Or.inl hq
    · by_cases hnew : q <+: loc ∧ t.node q = none
      · rw [if_neg hq, if_pos hnew]
        exact Or.inr ⟨hnew.2, rfl⟩
      · rw [if_neg hq, if_neg hnew] at h
        exact absurd rfl h
  next => exact absurd rfl h

/-- Removing a file changes this file alone. -/
theorem node_remove {loc : List ν} {q : List ν} (h : (t.remove loc).node q ≠ t.node q) :
    q = loc := by
  by_contra hq
  apply h
  unfold remove
  split
  next => exact if_neg hq
  next => rfl

end Change

/-! ## §3. Trees that are listed -/

section Listed

variable [DecidableEq ν]

/-- The tree that holds these entries and nothing else, each of them in a directory. -/
def ofEntries (entries : List (List ν × Entry ν α))
    (h : ∀ entry ∈ entries, entry.1.dropLast = [] ∨
      entries.lookup entry.1.dropLast = some .dir) : LinkTree ν α where
  node loc := if loc = [] then some .dir else entries.lookup loc
  root := if_pos rfl
  parent dir name hbelow := by
    rw [if_neg (by simp)] at hbelow
    obtain ⟨entry, hentry⟩ := Option.ne_none_iff_exists'.mp hbelow
    obtain ⟨before, after, heq, -⟩ := List.lookup_eq_some_iff.mp hentry
    have hdir := h (dir ++ [name], entry) (by simp [heq])
    rw [List.dropLast_concat] at hdir
    split
    next => rfl
    next hne => exact hdir.resolve_left hne

/-- The names of what lies in a directory. -/
def namesIn (entries : List (List ν × Entry ν α)) (dir : List ν) : List ν :=
  entries.filterMap fun entry => if entry.1.dropLast = dir then entry.1.getLast? else none

theorem node_ofEntries_concat {entries : List (List ν × Entry ν α)}
    {h : ∀ entry ∈ entries, entry.1.dropLast = [] ∨
      entries.lookup entry.1.dropLast = some .dir} {dir : List ν} {name : ν} :
    (ofEntries entries h).node (dir ++ [name]) = entries.lookup (dir ++ [name]) :=
  if_neg (by simp)

theorem exists_of_node_ofEntries {entries : List (List ν × Entry ν α)}
    {h : ∀ entry ∈ entries, entry.1.dropLast = [] ∨
      entries.lookup entry.1.dropLast = some .dir} {dir : List ν} {name : ν}
    (hnode : (ofEntries entries h).node (dir ++ [name]) ≠ none) :
    ∃ entry ∈ entries, entry.1 = dir ++ [name] := by
  rw [node_ofEntries_concat] at hnode
  obtain ⟨entry, hentry⟩ := Option.ne_none_iff_exists'.mp hnode
  obtain ⟨before, after, heq, -⟩ := List.lookup_eq_some_iff.mp hentry
  exact ⟨(dir ++ [name], entry), by simp [heq], rfl⟩

theorem mem_namesIn {entries : List (List ν × Entry ν α)}
    (h : ∀ entry ∈ entries, entry.1.dropLast = [] ∨
      entries.lookup entry.1.dropLast = some .dir) {dir : List ν} {name : ν} :
    name ∈ namesIn entries dir ↔ (ofEntries entries h).node (dir ++ [name]) ≠ none := by
  constructor
  · intro hname
    obtain ⟨entry, hmem, hentry⟩ := List.mem_filterMap.mp hname
    split at hentry
    next hdir =>
      obtain ⟨front, hfront⟩ := List.getLast?_eq_some_iff.mp hentry
      rw [hfront, List.dropLast_concat] at hdir
      rw [node_ofEntries_concat, ← hdir, ← hfront]
      intro hnone
      exact absurd (List.lookup_eq_none_iff.mp hnone entry hmem) (by simp)
    next => cases hentry
  · intro hnode
    obtain ⟨entry, hmem, hentry⟩ := exists_of_node_ofEntries hnode
    refine List.mem_filterMap.mpr ⟨entry, hmem, ?_⟩
    rw [hentry, List.dropLast_concat, if_pos rfl, List.getLast?_concat]

end Listed

end LinkTree

end Stdiolink.Lib
