/-
  Stdiolink.Server.SaveProject — `saveProject` step by step, `manager/project_manager.cpp`.

  Both files of a project are replaced: temp files are written, the files that are there are
  renamed to backups, the temp files are renamed to the final names.  When a step fails, what was
  done so far is undone.  Which steps fail is an input; the steps that undo succeed.

  Main results:
    * `rollbackSaveTransaction_restores` — what was done so far is undone, file by file;
    * `saveFiles_cases`                  — a save replaces both files, or none, and which it is;
    * `save_atomic_iff`                  — when what a later load sees is all or nothing.
-/
import Stdiolink.Server.ProjectStore

namespace Stdiolink.Server

open Stdiolink.Lib
open Stdiolink.Protocol
open Stdiolink.Protocol.Json
open ProjectManager

/-! ## §1. Directories -/

/-- The files of one directory. -/
abbrev Directory := SortedMap String FileContent

namespace Directory

/-- `QFile::rename`, which does not replace a file that is there. -/
def rename (dir : Directory) (oldName newName : String) : Option Directory :=
  match dir.find? oldName with
  | none => none
  | some content =>
      if dir.contains newName then none
      else some (SortedMap.insert (dir.erase oldName) newName content)

/-- The files that a load reads. -/
def projectFiles (dir : Directory) : ProjectFiles where
  config := dir.find? "config.json"
  param := dir.find? "param.json"

end Directory

/-- The projects directory, with the directories in it; it may be missing. -/
abbrev ProjectsDisk := Option (SortedMap String Directory)

/-- What loading the projects sees. -/
def ProjectsDisk.store (disk : ProjectsDisk) : ProjectStore :=
  (disk.getD SortedMap.empty).mapValues fun _ dir => dir.projectFiles

/-! ## §2. The transaction -/

/-- The steps of a save that can fail. -/
inductive SaveStep where
  | mkProjectsDir
  | mkProjectDir
  | openTemp (baseName : String)
  | writeTemp (baseName : String)
  | flushTemp (baseName : String)
  | backup (baseName : String)
  | install (baseName : String)
  | removeBackup (baseName : String)

/-- What one save meets: the steps that fail, the characters that `QTemporaryFile` puts in place
of `XXXXXX`, and the text of the UUID. -/
structure SaveRun where
  fails : SaveStep → Bool
  unique : String → String
  uuid : String
  unique_length : ∀ baseName, (unique baseName).length = 6
  uuid_length : uuid.length = 36

namespace SaveRun

variable (run : SaveRun)

def tempName (baseName : String) : String := baseName ++ "." ++ run.unique baseName ++ ".tmp"

def backupName (baseName : String) : String := baseName ++ ".bak." ++ run.uuid

end SaveRun

/-- `SaveTransactionEntry`, with the payload of the same index; paths are names in the project's
directory. -/
structure SaveTransactionEntry where
  finalPath : String
  payload : SortedMap String Json
  tempPath : String := ""
  backupPath : String := ""
  existed : Bool := false
  movedToBackup : Bool := false
  installed : Bool := false

section Transaction

variable (run : SaveRun) (dirPath : String)

/-- `writeTempJsonObjectFile`: the directory, the name of the temp file and the error. -/
def writeTempJsonObjectFile (dir : Directory) (baseName : String) (obj : SortedMap String Json) :
    Directory × String × String :=
  let tempPath := run.tempName baseName
  if run.fails (.openTemp baseName) || dir.contains tempPath then
    (dir, "", "cannot create temp file for: " ++ baseName)
  else
    -- the file is there from now on, with as much as was written
    let opened := dir.insert tempPath (.malformed "")
    if run.fails (.writeTemp baseName) then
      (opened.erase tempPath, tempPath, "write failed (incomplete): " ++ baseName)
    else if run.fails (.flushTemp baseName) then
      (opened.erase tempPath, tempPath, "cannot flush temp file for: " ++ baseName)
    else (opened.insert tempPath (.object obj), tempPath, "")

/-- One round of `cleanupTransactionTemps`, and the last step of a rollback. -/
def removeTemp (entry : SaveTransactionEntry) (dir : Directory) : Directory :=
  if entry.tempPath ≠ "" then dir.erase entry.tempPath else dir

/-- `cleanupTransactionTemps`. -/
def cleanupTransactionTemps (entries : List SaveTransactionEntry) (dir : Directory) : Directory :=
  entries.foldl (fun dir entry => removeTemp entry dir) dir

/-- One round of `rollbackSaveTransaction`: the directory and `rollbackError`. -/
def rollbackEntry (entry : SaveTransactionEntry) (state : Directory × String) :
    Directory × String :=
  let (dir, rollbackError) := state
  let dir := if entry.installed then dir.erase entry.finalPath else dir
  if entry.movedToBackup then
    match Directory.rename dir entry.backupPath entry.finalPath with
    | some dir => (removeTemp entry dir, rollbackError)
    | none =>
        (removeTemp entry dir,
          if rollbackError = "" then "rollback failed for: " ++ dirPath ++ "/" ++ entry.finalPath
          else rollbackError)
  else (removeTemp entry dir, rollbackError)

/-- `rollbackSaveTransaction`, from the last entry to the first. -/
def rollbackSaveTransaction (entries : List SaveTransactionEntry) (dir : Directory)
    (error : String) : Directory × String :=
  let (dir, rollbackError) := entries.foldr (rollbackEntry dirPath) (dir, "")
  (dir, if rollbackError = "" then error else error ++ "; " ++ rollbackError)

/-- The loop of `saveProject` over the temp files; `done` are the entries before `entries`. -/
def writeTemps (done entries : List SaveTransactionEntry) (dir : Directory) :
    Directory × Except String (List SaveTransactionEntry) :=
  match entries with
  | [] => (dir, .ok done)
  | entry :: rest =>
      let (dir, tempPath, error) :=
        writeTempJsonObjectFile run dir entry.finalPath entry.payload
      let entry := { entry with tempPath := tempPath }
      if error ≠ "" then (cleanupTransactionTemps (done ++ entry :: rest) dir, .error error)
      else writeTemps (done ++ [entry]) rest dir

/-- The loop over the backups. -/
def moveToBackups (done entries : List SaveTransactionEntry) (dir : Directory) :
    Directory × Except String (List SaveTransactionEntry) :=
  match entries with
  | [] => (dir, .ok done)
  | entry :: rest =>
      let entry := { entry with existed := dir.contains entry.finalPath }
      if !entry.existed then moveToBackups (done ++ [entry]) rest dir
      else
        let entry := { entry with backupPath := run.backupName entry.finalPath }
        let moved :=
          if run.fails (.backup entry.finalPath) then none
          else Directory.rename dir entry.finalPath entry.backupPath
        match moved with
        | none =>
            let (dir, error) := rollbackSaveTransaction dirPath (done ++ entry :: rest) dir
              ("cannot backup file: " ++ dirPath ++ "/" ++ entry.finalPath)
            (dir, .error error)
        | some dir => moveToBackups (done ++ [{ entry with movedToBackup := true }]) rest dir

/-- The loop over the final names. -/
def installTemps (done entries : List SaveTransactionEntry) (dir : Directory) :
    Directory × Except String (List SaveTransactionEntry) :=
  match entries with
  | [] => (dir, .ok done)
  | entry :: rest =>
      let moved :=
        if run.fails (.install entry.finalPath) then none
        else Directory.rename dir entry.tempPath entry.finalPath
      match moved with
      | none =>
          let (dir, error) := rollbackSaveTransaction dirPath (done ++ entry :: rest) dir
            ("cannot install file: " ++ dirPath ++ "/" ++ entry.finalPath)
          (dir, .error error)
      | some dir =>
          installTemps (done ++ [{ entry with installed := true, tempPath := "" }]) rest dir

/-- The last loop: a backup that cannot be removed stays. -/
def removeBackups (entries : List SaveTransactionEntry) (dir : Directory) : Directory :=
  entries.foldl
    (fun dir entry =>
      if entry.movedToBackup && entry.backupPath ≠ "" && !run.fails (.removeBackup entry.finalPath)
      then dir.erase entry.backupPath else dir)
    dir

/-- `saveProject` from the temp files on. -/
def saveFiles (entries : List SaveTransactionEntry) (dir : Directory) :
    Directory × Except String Unit :=
  match writeTemps run [] entries dir with
  | (dir, .error error) => (dir, .error error)
  | (dir, .ok entries) =>
    match moveToBackups run dirPath [] entries dir with
    | (dir, .error error) => (dir, .error error)
    | (dir, .ok entries) =>
      match installTemps run dirPath [] entries dir with
      | (dir, .error error) => (dir, .error error)
      | (dir, .ok entries) => (removeBackups run entries dir, .ok ())

end Transaction

/-- The entries and payloads of `saveProject`. -/
def saveEntries (project : Project) : List SaveTransactionEntry :=
  [{ finalPath := "config.json", payload := SortedMap.ofEntries project.toJson },
   { finalPath := "param.json", payload := SortedMap.ofEntries project.config.toObject }]

/-- `ProjectManager::saveProject`. -/
def ProjectManager.saveProject (run : SaveRun) (projectsDir : String) (project : Project)
    (disk : ProjectsDisk) : ProjectsDisk × Except String Unit :=
  if !isValidProjectId project.id then (disk, .error ("invalid project id: " ++ project.id))
  else if run.fails .mkProjectsDir then
    (disk, .error ("cannot create projects directory: " ++ projectsDir))
  else
    -- `mkpath` makes what is missing
    let dirs := disk.getD SortedMap.empty
    let dirPath := projectDirPath projectsDir project.id
    if run.fails .mkProjectDir then
      (some dirs, .error ("cannot create project directory: " ++ dirPath))
    else
      let dir := (dirs.find? project.id).getD SortedMap.empty
      let (dir, result) := saveFiles run dirPath (saveEntries project) dir
      (some (dirs.insert project.id dir), result)

/-! ## §3. The names of an entry -/

namespace Directory

variable {dir dir' : Directory} {oldName newName : String}

/-- What a rename does. -/
theorem rename_some (h : rename dir oldName newName = some dir') :
    ∃ content, dir.find? oldName = some content ∧ dir.find? newName = none ∧
      dir' = SortedMap.insert (dir.erase oldName) newName content := by
  unfold rename at h
  split at h
  · cases h
  · rename_i content hcontent
    split_ifs at h with hfree
    rw [Bool.not_eq_true, SortedMap.contains_eq_false] at hfree
    exact ⟨content, hcontent, hfree, (Option.some.inj h).symm⟩

/-- A rename to a free name goes through. -/
theorem rename_free {content : FileContent} (hold : dir.find? oldName = some content)
    (hnew : dir.find? newName = none) :
    rename dir oldName newName = some (SortedMap.insert (dir.erase oldName) newName content) := by
  have hfree : ¬ dir.contains newName = true := by
    rw [Bool.not_eq_true, SortedMap.contains_eq_false]
    exact hnew
  unfold rename
  rw [hold]
  dsimp only
  rw [if_neg hfree]

/-- The directories have the same files under names that begin with `baseName`. -/
def SameUnder (baseName : String) (dir dir' : Directory) : Prop :=
  ∀ name, baseName.toList <+: name.toList → dir'.find? name = dir.find? name

theorem SameUnder.refl (baseName : String) (dir : Directory) : SameUnder baseName dir dir :=
  fun _ _ => rfl

theorem SameUnder.trans {baseName : String} {a b c : Directory} (h : SameUnder baseName a b)
    (h' : SameUnder baseName b c) : SameUnder baseName a c :=
  fun name hname => (h' name hname).trans (h name hname)

end Directory

open Directory

namespace SaveRun

variable (run : SaveRun) (baseName : String)

theorem tempName_under : baseName.toList <+: (run.tempName baseName).toList := by
  unfold tempName
  rw [String.append_assoc, String.append_assoc, String.toList_append]
  exact List.prefix_append _ _

theorem backupName_under : baseName.toList <+: (run.backupName baseName).toList := by
  unfold backupName
  rw [String.append_assoc, String.toList_append]
  exact List.prefix_append _ _

theorem tempName_length : (run.tempName baseName).length = baseName.length + 11 := by
  have hunique := run.unique_length baseName
  simp only [tempName, String.length_append, hunique]
  rfl

theorem backupName_length : (run.backupName baseName).length = baseName.length + 41 := by
  have huuid := run.uuid_length
  simp only [backupName, String.length_append, huuid]
  rfl

theorem tempName_ne : run.tempName baseName ≠ baseName := by
  intro h
  have hlength := run.tempName_length baseName
  rw [h] at hlength
  omega

theorem backupName_ne : run.backupName baseName ≠ baseName := by
  intro h
  have hlength := run.backupName_length baseName
  rw [h] at hlength
  omega

theorem tempName_ne_backupName : run.tempName baseName ≠ run.backupName baseName := by
  intro h
  have htemp := run.tempName_length baseName
  have hbackup := run.backupName_length baseName
  rw [h] at htemp
  omega

end SaveRun

/-- No name begins with both. -/
def Unrelated (a b : String) : Prop :=
  ¬ a.toList <+: b.toList ∧ ¬ b.toList <+: a.toList

theorem Unrelated.symm {a b : String} (h : Unrelated a b) : Unrelated b a := ⟨h.2, h.1⟩

instance : Std.Symm Unrelated := ⟨fun _ _ h => h.symm⟩

/-- What is changed under one name is not seen under an unrelated one. -/
theorem Unrelated.not_under {a b name : String} (h : Unrelated a b)
    (ha : a.toList <+: name.toList) : ¬ b.toList <+: name.toList := by
  intro hb
  obtain hab | hba := List.prefix_or_prefix_of_prefix ha hb
  · exact h.1 hab
  · exact h.2 hba

section Frames

variable {a b name name' : String} {dir : Directory} {content : FileContent}

theorem sameUnder_insert (h : Unrelated a b) (ha : a.toList <+: name.toList) :
    SameUnder b dir (SortedMap.insert dir name content) := by
  intro other hother
  apply SortedMap.find?_insert_of_ne
  intro heq
  exact h.not_under ha (heq ▸ hother)

theorem sameUnder_erase (h : Unrelated a b) (ha : a.toList <+: name.toList) :
    SameUnder b dir (dir.erase name) := by
  intro other hother
  rw [SortedMap.find?_erase, if_neg]
  intro heq
  exact h.not_under ha (heq ▸ hother)

theorem sameUnder_rename {dir' : Directory} (h : Unrelated a b) (ha : a.toList <+: name.toList)
    (ha' : a.toList <+: name'.toList) (hrename : rename dir name name' = some dir') :
    SameUnder b dir dir' := by
  obtain ⟨content, -, -, rfl⟩ := rename_some hrename
  exact (sameUnder_erase h ha).trans (sameUnder_insert h ha')

end Frames

/-! ## §4. Undoing -/

section Undo

variable {run : SaveRun} (dirPath : String) {before dir dir' : Directory}
variable {entry : SaveTransactionEntry} {entries : List SaveTransactionEntry}

/-- What the flags of an entry say about the directory and the one before the save. -/
structure Held (run : SaveRun) (before dir : Directory) (entry : SaveTransactionEntry) : Prop where
  temp : entry.tempPath ≠ "" → entry.tempPath = run.tempName entry.finalPath
  untouched : entry.movedToBackup = false → entry.installed = false →
    dir.find? entry.finalPath = before.find? entry.finalPath
  created : entry.movedToBackup = false → entry.installed = true →
    before.find? entry.finalPath = none
  cleared : entry.movedToBackup = true → entry.installed = false →
    dir.find? entry.finalPath = none
  backup : entry.movedToBackup = true → entry.backupPath = run.backupName entry.finalPath ∧
    ∃ content, before.find? entry.finalPath = some content ∧
      dir.find? (run.backupName entry.finalPath) = some content

/-- Only the files under its name matter to an entry. -/
theorem Held.congr (h : Held run before dir entry) (hsame : SameUnder entry.finalPath dir dir') :
    Held run before dir' entry := by
  have hfinal := hsame entry.finalPath List.prefix_rfl
  have hbackup := hsame (run.backupName entry.finalPath) (run.backupName_under _)
  refine ⟨h.temp, ?_, h.created, ?_, ?_⟩
  · intro hmoved hinstalled
    rw [hfinal]
    exact h.untouched hmoved hinstalled
  · intro hmoved hinstalled
    rw [hfinal]
    exact h.cleared hmoved hinstalled
  · intro hmoved
    rw [hbackup]
    exact h.backup hmoved

/-- Removing the temp file leaves every other file. -/
theorem find?_removeTemp {name : String}
    (h : entry.tempPath ≠ "" → entry.tempPath ≠ name) :
    (removeTemp entry dir).find? name = dir.find? name := by
  unfold removeTemp
  split_ifs with htemp
  · rw [SortedMap.find?_erase, if_neg]
    intro heq
    exact h htemp heq.symm
  · rfl

theorem Held.temp_ne (h : Held run before dir entry) :
    entry.tempPath ≠ "" → entry.tempPath ≠ entry.finalPath := by
  intro htemp
  rw [h.temp htemp]
  exact run.tempName_ne _

/-- **Undoing one entry** brings its file back, without an error. -/
theorem rollbackEntry_restores (h : Held run before dir entry) (rollbackError : String) :
    (rollbackEntry dirPath entry (dir, rollbackError)).2 = rollbackError ∧
      (rollbackEntry dirPath entry (dir, rollbackError)).1.find? entry.finalPath =
        before.find? entry.finalPath := by
  unfold rollbackEntry
  dsimp only
  cases hmoved : entry.movedToBackup with
  | false =>
    refine ⟨rfl, ?_⟩
    show (removeTemp entry _).find? _ = _
    rw [find?_removeTemp h.temp_ne]
    cases hinstalled : entry.installed with
    | false => exact h.untouched hmoved hinstalled
    | true =>
      show (dir.erase entry.finalPath).find? entry.finalPath = _
      rw [SortedMap.find?_erase_self, h.created hmoved hinstalled]
  | true =>
    obtain ⟨hpath, content, hbefore, hcontent⟩ := h.backup hmoved
    -- the final name is free, whether the new file was installed or not
    have hfree : (if entry.installed = true then dir.erase entry.finalPath else dir).find?
        entry.finalPath = none := by
      cases hinstalled : entry.installed with
      | false => exact h.cleared hmoved hinstalled
      | true => exact SortedMap.find?_erase_self dir entry.finalPath
    have hkept : (if entry.installed = true then dir.erase entry.finalPath else dir).find?
        entry.backupPath = some content := by
      rw [hpath]
      split_ifs
      · rw [SortedMap.find?_erase, if_neg (run.backupName_ne _), hcontent]
      · exact hcontent
    rw [if_pos rfl, rename_free hkept hfree]
    refine ⟨rfl, ?_⟩
    show (removeTemp entry _).find? _ = _
    rw [find?_removeTemp h.temp_ne, SortedMap.find?_insert_self, hbefore]

/-- Undoing one entry touches nothing under an unrelated name. -/
theorem rollbackEntry_frame (h : Held run before dir entry) (rollbackError : String) {name : String}
    (hname : Unrelated entry.finalPath name) :
    SameUnder name dir (rollbackEntry dirPath entry (dir, rollbackError)).1 := by
  have htemp : ∀ d : Directory, SameUnder name d (removeTemp entry d) := by
    intro d
    unfold removeTemp
    split_ifs with htemp
    · apply sameUnder_erase hname
      rw [h.temp htemp]
      exact run.tempName_under _
    · exact SameUnder.refl name d
  have herased : SameUnder name dir
      (if entry.installed = true then dir.erase entry.finalPath else dir) := by
    split_ifs
    · exact sameUnder_erase hname List.prefix_rfl
    · exact SameUnder.refl name dir
  unfold rollbackEntry
  dsimp only
  cases hmoved : entry.movedToBackup with
  | false => exact herased.trans (htemp _)
  | true =>
    rw [if_pos rfl]
    have hunder : entry.finalPath.toList <+: entry.backupPath.toList := by
      rw [(h.backup hmoved).1]
      exact run.backupName_under _
    split
    · rename_i hrename
      exact (herased.trans (sameUnder_rename hname hunder List.prefix_rfl hrename)).trans (htemp _)
    · exact herased.trans (htemp _)

/-- The names of the entries, no two of them related. -/
def NamesApart (entries : List SaveTransactionEntry) : Prop :=
  (entries.map SaveTransactionEntry.finalPath).Pairwise Unrelated

/-- **Undoing a save.**  Every file is as it was, and the error is the one of the step. -/
theorem rollbackSaveTransaction_restores (hheld : ∀ e ∈ entries, Held run before dir e)
    (hapart : NamesApart entries) (error : String) :
    (rollbackSaveTransaction dirPath entries dir error).2 = error ∧
      ∀ e ∈ entries, (rollbackSaveTransaction dirPath entries dir error).1.find? e.finalPath =
        before.find? e.finalPath := by
  -- the last entry first, so that the others are still as their flags say
  have hfold : ∀ entries : List SaveTransactionEntry, (∀ e ∈ entries, Held run before dir e) →
      NamesApart entries →
      (entries.foldr (rollbackEntry dirPath) (dir, "")).2 = "" ∧
      (∀ e ∈ entries, (entries.foldr (rollbackEntry dirPath) (dir, "")).1.find? e.finalPath =
        before.find? e.finalPath) ∧
      ∀ name, (∀ e ∈ entries, Unrelated e.finalPath name) →
        SameUnder name dir (entries.foldr (rollbackEntry dirPath) (dir, "")).1 := by
    intro entries
    induction entries with
    | nil =>
      intro _ _
      refine ⟨rfl, ?_, fun name _ => SameUnder.refl name dir⟩
      intro e he
      cases he
    | cons first rest ih =>
      intro hheld hapart
      obtain ⟨hfirst, hrest⟩ := List.pairwise_cons.mp hapart
      obtain ⟨hnone, hrestored, hframe⟩ := ih (fun e he => hheld e (List.mem_cons_of_mem _ he)) hrest
      have hunrelated : ∀ e ∈ rest, Unrelated e.finalPath first.finalPath := by
        intro e he
        exact (hfirst _ (List.mem_map_of_mem he)).symm
      have hfirstHeld : Held run before (rest.foldr (rollbackEntry dirPath) (dir, "")).1 first :=
        (hheld first List.mem_cons_self).congr (hframe _ hunrelated)
      rw [List.foldr_cons]
      generalize rest.foldr (rollbackEntry dirPath) (dir, "") = state at *
      obtain ⟨undone, rollbackError⟩ := state
      dsimp only at hnone hrestored hframe hfirstHeld
      obtain ⟨herror, hback⟩ := rollbackEntry_restores dirPath hfirstHeld rollbackError
      refine ⟨herror.trans hnone, ?_, ?_⟩
      · intro e he
        obtain rfl | he := List.mem_cons.mp he
        · exact hback
        · rw [← hrestored e he]
          exact rollbackEntry_frame dirPath hfirstHeld rollbackError (hunrelated e he).symm _
            List.prefix_rfl
      · intro name hname
        apply (hframe name fun e he => hname e (List.mem_cons_of_mem _ he)).trans
        exact rollbackEntry_frame dirPath hfirstHeld rollbackError (hname first List.mem_cons_self)
  obtain ⟨hnone, hrestored, -⟩ := hfold entries hheld hapart
  unfold rollbackSaveTransaction
  dsimp only
  refine ⟨?_, hrestored⟩
  rw [if_pos hnone]

end Undo

/-! ## §5. The three loops -/

section Loops

variable {run : SaveRun} {before dir dir' : Directory}
variable {entry : SaveTransactionEntry} {done rest entries : List SaveTransactionEntry}

/-- The temp file of the name can be written. -/
def WritesTemp (run : SaveRun) (dir : Directory) (baseName : String) : Prop :=
  run.fails (.openTemp baseName) = false ∧ dir.contains (run.tempName baseName) = false ∧
    run.fails (.writeTemp baseName) = false ∧ run.fails (.flushTemp baseName) = false

/-- The file of the name can be moved to its backup, if there is one. -/
def BacksUp (run : SaveRun) (dir : Directory) (baseName : String) : Prop :=
  dir.contains baseName = true →
    run.fails (.backup baseName) = false ∧ dir.contains (run.backupName baseName) = false

/-- The new file of the name can be installed. -/
def Installs (run : SaveRun) (baseName : String) : Prop := run.fails (.install baseName) = false

/-- The file an entry is to be, and its content. -/
def SaveTransactionEntry.target (entry : SaveTransactionEntry) : String × SortedMap String Json :=
  (entry.finalPath, entry.payload)

/-- A loop ends with an error and every file as it was, or with all its entries at their next
stage. -/
def LoopEnds (before : Directory) (goes : String → Prop)
    (reached : Directory → SaveTransactionEntry → Prop)
    (entries rest : List SaveTransactionEntry)
    (out : Directory × Except String (List SaveTransactionEntry)) : Prop :=
  (∃ error, out.2 = .error error ∧ (∃ e ∈ rest, ¬ goes e.finalPath) ∧
    ∀ e ∈ entries, out.1.find? e.finalPath = before.find? e.finalPath) ∨
  ∃ after, out.2 = .ok after ∧ (∀ e ∈ rest, goes e.finalPath) ∧ (∀ e ∈ after, reached out.1 e) ∧
    after.map SaveTransactionEntry.target = entries.map SaveTransactionEntry.target

/-- A loop that goes on with a changed entry ends as one that goes on with the entry. -/
theorem LoopEnds.turn {goes : String → Prop} {reached : Directory → SaveTransactionEntry → Prop}
    {out : Directory × Except String (List SaveTransactionEntry)} (changed : SaveTransactionEntry)
    (htarget : changed.target = entry.target) (hgoes : goes entry.finalPath)
    (h : LoopEnds before goes reached ((done ++ [changed]) ++ rest) rest out) :
    LoopEnds before goes reached (done ++ entry :: rest) (entry :: rest) out := by
  have hname : changed.finalPath = entry.finalPath := congrArg Prod.fst htarget
  obtain ⟨error, herror, ⟨failed, hfailed, hnot⟩, hkept⟩ | ⟨after, hafter, hall, hreached, hmap⟩ := h
  · left
    refine ⟨error, herror, ⟨failed, List.mem_cons_of_mem _ hfailed, hnot⟩, ?_⟩
    intro e he
    obtain he | he := List.mem_append.mp he
    · exact hkept e (List.mem_append_left _ (List.mem_append_left _ he))
    · obtain rfl | he := List.mem_cons.mp he
      · rw [← hname]
        exact hkept changed (List.mem_append_left _ (List.mem_append_right _
          (List.mem_singleton_self _)))
      · exact hkept e (List.mem_append_right _ he)
  · right
    refine ⟨after, hafter, ?_, hreached, ?_⟩
    · intro e he
      obtain rfl | he := List.mem_cons.mp he
      · exact hgoes
      · exact hall e he
    · rw [hmap, List.append_assoc, List.singleton_append, List.map_append, List.map_cons, htarget,
        ← List.map_cons, ← List.map_append]

/-- Nothing has happened to the entry, nor under its name. -/
structure Initial (before dir : Directory) (entry : SaveTransactionEntry) : Prop where
  tempPath : entry.tempPath = ""
  fresh : entry.movedToBackup = false ∧ entry.installed = false
  same : SameUnder entry.finalPath before dir

/-- The temp file of the entry is there. -/
structure TempWritten (run : SaveRun) (before dir : Directory) (entry : SaveTransactionEntry) :
    Prop where
  tempPath : entry.tempPath = run.tempName entry.finalPath
  fresh : entry.movedToBackup = false ∧ entry.installed = false
  temp : dir.find? (run.tempName entry.finalPath) = some (.object entry.payload)
  final : dir.find? entry.finalPath = before.find? entry.finalPath
  backup : dir.find? (run.backupName entry.finalPath) =
    before.find? (run.backupName entry.finalPath)

/-- The name of the entry is free, and what was there is in the backup. -/
structure BackedUp (run : SaveRun) (before dir : Directory) (entry : SaveTransactionEntry) :
    Prop where
  held : Held run before dir entry
  tempPath : entry.tempPath = run.tempName entry.finalPath
  waiting : entry.installed = false
  temp : dir.find? (run.tempName entry.finalPath) = some (.object entry.payload)
  final : dir.find? entry.finalPath = none

/-- The new file is there. -/
structure Installed (run : SaveRun) (before dir : Directory) (entry : SaveTransactionEntry) :
    Prop where
  held : Held run before dir entry
  final : dir.find? entry.finalPath = some (.object entry.payload)

theorem Initial.congr (h : Initial before dir entry) (hsame : SameUnder entry.finalPath dir dir') :
    Initial before dir' entry :=
  ⟨h.tempPath, h.fresh, h.same.trans hsame⟩

theorem TempWritten.congr (h : TempWritten run before dir entry)
    (hsame : SameUnder entry.finalPath dir dir') : TempWritten run before dir' entry := by
  refine ⟨h.tempPath, h.fresh, ?_, ?_, ?_⟩
  · rw [hsame _ (run.tempName_under _)]
    exact h.temp
  · rw [hsame _ List.prefix_rfl]
    exact h.final
  · rw [hsame _ (run.backupName_under _)]
    exact h.backup

theorem BackedUp.congr (h : BackedUp run before dir entry)
    (hsame : SameUnder entry.finalPath dir dir') : BackedUp run before dir' entry := by
  refine ⟨h.held.congr hsame, h.tempPath, h.waiting, ?_, ?_⟩
  · rw [hsame _ (run.tempName_under _)]
    exact h.temp
  · rw [hsame _ List.prefix_rfl]
    exact h.final

theorem Installed.congr (h : Installed run before dir entry)
    (hsame : SameUnder entry.finalPath dir dir') : Installed run before dir' entry := by
  refine ⟨h.held.congr hsame, ?_⟩
  rw [hsame _ List.prefix_rfl]
  exact h.final

/-- An entry whose temp file is there can be undone. -/
theorem TempWritten.held (h : TempWritten run before dir entry) : Held run before dir entry := by
  refine ⟨fun _ => h.tempPath, fun _ _ => h.final, ?_, ?_, ?_⟩
  · intro _ hinstalled
    rw [h.fresh.2] at hinstalled
    cases hinstalled
  · intro hmoved
    rw [h.fresh.1] at hmoved
    cases hmoved
  · intro hmoved
    rw [h.fresh.1] at hmoved
    cases hmoved

/-- The entries around the one that a loop is at. -/
theorem NamesApart.around (h : NamesApart (done ++ entry :: rest)) :
    (∀ e ∈ done, Unrelated entry.finalPath e.finalPath) ∧
      ∀ e ∈ rest, Unrelated entry.finalPath e.finalPath := by
  unfold NamesApart at h
  rw [List.map_append, List.map_cons] at h
  obtain ⟨-, hrest, hdone⟩ := List.pairwise_append.mp h
  constructor
  · intro e he
    exact (hdone _ (List.mem_map_of_mem he) _ List.mem_cons_self).symm
  · intro e he
    exact (List.pairwise_cons.mp hrest).1 _ (List.mem_map_of_mem he)

/-- The names stay apart when an entry changes but for its name. -/
theorem NamesApart.replace (h : NamesApart (done ++ entry :: rest))
    {changed : SaveTransactionEntry} (hname : changed.finalPath = entry.finalPath) :
    NamesApart ((done ++ [changed]) ++ rest) := by
  unfold NamesApart at h ⊢
  rw [List.append_assoc, List.singleton_append, List.map_append, List.map_cons, hname,
    ← List.map_cons, ← List.map_append]
  exact h

/-- The temp file of an entry is none of the final files. -/
theorem NamesApart.temp_ne (h : NamesApart entries) {e e' : SaveTransactionEntry} (he : e ∈ entries)
    (he' : e' ∈ entries) : run.tempName e.finalPath ≠ e'.finalPath := by
  intro heq
  by_cases hname : e.finalPath = e'.finalPath
  · rw [← hname] at heq
    exact run.tempName_ne _ heq
  · have hunrelated : Unrelated e.finalPath e'.finalPath :=
      List.Pairwise.forall h (List.mem_map_of_mem he) (List.mem_map_of_mem he') hname
    have hunder := run.tempName_under e.finalPath
    rw [heq] at hunder
    exact hunrelated.1 hunder

/-- A file that is created and removed again. -/
theorem find?_created_removed {name : String} {content : FileContent}
    (hfree : dir.contains name = false) (other : String) :
    ((SortedMap.insert dir name content).erase name).find? other = dir.find? other := by
  rw [SortedMap.find?_erase]
  split_ifs with h
  · rw [h, SortedMap.contains_eq_false.mp hfree]
  · exact SortedMap.find?_insert_of_ne dir h content

/-- What writing a temp file does: the file is there with its content, or nothing has changed. -/
theorem writeTempJsonObjectFile_cases (run : SaveRun) (dir : Directory) (baseName : String)
    (obj : SortedMap String Json) :
    let out := writeTempJsonObjectFile run dir baseName obj
    out.2.2 ≠ "" ∧ ¬ WritesTemp run dir baseName ∧
        (out.2.1 = "" ∨ out.2.1 = run.tempName baseName) ∧
        (∀ name, out.1.find? name = dir.find? name) ∨
      out.2.2 = "" ∧ WritesTemp run dir baseName ∧ out.2.1 = run.tempName baseName ∧
        ∀ name, out.1.find? name =
          if name = run.tempName baseName then some (.object obj) else dir.find? name := by
  intro out
  have herror : ∀ text : String, text.toList ≠ [] → text ++ baseName ≠ "" := by
    intro text htext h
    apply htext
    rw [(String.append_eq_empty_iff.mp h).1]
    rfl
  unfold WritesTemp
  by_cases hopen : (run.fails (.openTemp baseName) || dir.contains (run.tempName baseName)) = true
  · have hout : out = (dir, "", "cannot create temp file for: " ++ baseName) := if_pos hopen
    rw [hout]
    refine Or.inl ⟨herror _ (by decide), ?_, Or.inl rfl, fun _ => rfl⟩
    intro h
    rw [h.1, h.2.1] at hopen
    cases hopen
  have hfree : run.fails (.openTemp baseName) = false ∧
      dir.contains (run.tempName baseName) = false := by
    rw [Bool.not_eq_true, Bool.or_eq_false_iff] at hopen
    exact hopen
  by_cases hwrite : run.fails (.writeTemp baseName) = true
  · have hout : out =
        ((SortedMap.insert dir (run.tempName baseName) (.malformed "")).erase
          (run.tempName baseName), run.tempName baseName,
          "write failed (incomplete): " ++ baseName) := (if_neg hopen).trans (if_pos hwrite)
    rw [hout]
    refine Or.inl ⟨herror _ (by decide), ?_, Or.inr rfl, find?_created_removed hfree.2⟩
    intro h
    rw [h.2.2.1] at hwrite
    cases hwrite
  by_cases hflush : run.fails (.flushTemp baseName) = true
  · have hout : out =
        ((SortedMap.insert dir (run.tempName baseName) (.malformed "")).erase
          (run.tempName baseName), run.tempName baseName,
          "cannot flush temp file for: " ++ baseName) :=
      (if_neg hopen).trans ((if_neg hwrite).trans (if_pos hflush))
    rw [hout]
    refine Or.inl ⟨herror _ (by decide), ?_, Or.inr rfl, find?_created_removed hfree.2⟩
    intro h
    rw [h.2.2.2] at hflush
    cases hflush
  have hout : out =
      (SortedMap.insert (SortedMap.insert dir (run.tempName baseName) (.malformed ""))
        (run.tempName baseName) (.object obj), run.tempName baseName, "") :=
    (if_neg hopen).trans ((if_neg hwrite).trans (if_neg hflush))
  rw [hout]
  rw [Bool.not_eq_true] at hwrite hflush
  refine Or.inr ⟨rfl, ⟨hfree.1, hfree.2, hwrite, hflush⟩, rfl, ?_⟩
  intro name
  rw [SortedMap.find?_insert, SortedMap.find?_insert]
  split_ifs <;> rfl

/-- Cleaning up leaves every file that is no temp file. -/
theorem find?_cleanupTransactionTemps {name : String}
    (h : ∀ e ∈ entries, e.tempPath ≠ "" → e.tempPath ≠ name) (dir : Directory) :
    (cleanupTransactionTemps entries dir).find? name = dir.find? name := by
  unfold cleanupTransactionTemps
  induction entries generalizing dir with
  | nil => rfl
  | cons first rest ih =>
    rw [List.foldl_cons, ih (fun e he => h e (List.mem_cons_of_mem _ he))]
    exact find?_removeTemp (h first List.mem_cons_self)

/-- **The temp files.** -/
theorem writeTemps_ends (hdone : ∀ e ∈ done, TempWritten run before dir e)
    (hrest : ∀ e ∈ rest, Initial before dir e) (hapart : NamesApart (done ++ rest)) :
    LoopEnds before (WritesTemp run before) (TempWritten run before) (done ++ rest) rest
      (writeTemps run done rest dir) := by
  induction rest generalizing done dir with
  | nil =>
    right
    refine ⟨done, rfl, ?_, hdone, by rw [List.append_nil]⟩
    intro e he
    cases he
  | cons entry rest ih =>
    obtain ⟨hdoneApart, hrestApart⟩ := hapart.around
    have hinitial := hrest entry List.mem_cons_self
    have hcontains : before.contains (run.tempName entry.finalPath) =
        dir.contains (run.tempName entry.finalPath) := by
      unfold SortedMap.contains
      rw [hinitial.same _ (run.tempName_under _)]
    have hwrites : WritesTemp run before entry.finalPath ↔ WritesTemp run dir entry.finalPath := by
      unfold WritesTemp
      rw [hcontains]
    unfold writeTemps
    dsimp only
    obtain ⟨herror, hfails, htemp, hsame⟩ | ⟨herror, hgoes, htemp, hnew⟩ :=
      writeTempJsonObjectFile_cases run dir entry.finalPath entry.payload
    · -- nothing is written, and what was is removed
      rw [if_pos herror]
      left
      refine ⟨_, rfl, ⟨entry, List.mem_cons_self, mt hwrites.mp hfails⟩, ?_⟩
      intro e he
      dsimp only
      rw [find?_cleanupTransactionTemps, hsame]
      · obtain hin | hin := List.mem_append.mp he
        · exact (hdone e hin).final
        · exact (hrest e hin).same _ List.prefix_rfl
      · -- each temp file is the one of an entry
        intro x hx hpath
        obtain hx | hx := List.mem_append.mp hx
        · rw [(hdone x hx).tempPath]
          exact hapart.temp_ne (List.mem_append_left _ hx) he
        · obtain rfl | hx := List.mem_cons.mp hx
          · obtain hnone | hname := htemp
            · exact absurd hnone hpath
            · dsimp only
              rw [hname]
              exact hapart.temp_ne (List.mem_append_right _ List.mem_cons_self) he
          · exact absurd (hrest x (List.mem_cons_of_mem _ hx)).tempPath hpath
    · rw [if_neg (not_not.mpr herror)]
      have hframe : ∀ e : SaveTransactionEntry, Unrelated entry.finalPath e.finalPath →
          SameUnder e.finalPath dir
            (writeTempJsonObjectFile run dir entry.finalPath entry.payload).1 := by
        intro e hunrelated name hname
        rw [hnew, if_neg]
        intro heq
        exact hunrelated.not_under (heq ▸ run.tempName_under _) hname
      have htarget : SaveTransactionEntry.target { entry with
          tempPath := (writeTempJsonObjectFile run dir entry.finalPath entry.payload).2.1 } =
          entry.target := rfl
      apply LoopEnds.turn _ htarget (hwrites.mpr hgoes)
      refine ih ?_ ?_ (hapart.replace rfl)
      · intro e he
        obtain he | he := List.mem_append.mp he
        · exact (hdone e he).congr (hframe e (hdoneApart e he))
        · rw [List.mem_singleton.mp he]
          refine ⟨htemp, hinitial.fresh, ?_, ?_, ?_⟩
          · rw [hnew, if_pos rfl]
          · rw [hnew, if_neg (run.tempName_ne _).symm]
            exact hinitial.same _ List.prefix_rfl
          · rw [hnew, if_neg (run.tempName_ne_backupName _).symm]
            exact hinitial.same _ (run.backupName_under _)
      · intro e he
        exact (hrest e (List.mem_cons_of_mem _ he)).congr (hframe e (hrestApart e he))

/-- An entry whose name was free from the start is at its next stage. -/
theorem TempWritten.notExisted (h : TempWritten run before dir entry)
    (hfree : dir.contains entry.finalPath = false) :
    BackedUp run before dir { entry with existed := false } := by
  have hheld := h.held
  exact ⟨⟨hheld.temp, hheld.untouched, hheld.created, hheld.cleared, hheld.backup⟩, h.tempPath,
    h.fresh.2, h.temp, SortedMap.contains_eq_false.mp hfree⟩

/-- An entry whose file was moved to its backup is at its next stage. -/
theorem TempWritten.moved (h : TempWritten run before dir entry)
    (hrename : rename dir entry.finalPath (run.backupName entry.finalPath) = some dir') :
    BackedUp run before dir' { entry with
      existed := true, backupPath := run.backupName entry.finalPath, movedToBackup := true } := by
  obtain ⟨content, hcontent, -, rfl⟩ := rename_some hrename
  have hfinal : (SortedMap.insert (dir.erase entry.finalPath) (run.backupName entry.finalPath)
      content).find? entry.finalPath = none := by
    rw [SortedMap.find?_insert_of_ne _ (run.backupName_ne _).symm, SortedMap.find?_erase_self]
  refine ⟨⟨fun _ => h.tempPath, ?_, ?_, fun _ _ => hfinal, ?_⟩, h.tempPath, h.fresh.2, ?_, hfinal⟩
  · intro hmoved
    cases hmoved
  · intro hmoved
    cases hmoved
  · intro _
    exact ⟨rfl, content, h.final.symm.trans hcontent, SortedMap.find?_insert_self _ _ _⟩
  · show SortedMap.find? _ (run.tempName entry.finalPath) = _
    rw [SortedMap.find?_insert_of_ne _ (run.tempName_ne_backupName _), SortedMap.find?_erase,
      if_neg (run.tempName_ne _)]
    exact h.temp

/-- A loop that fails at an entry and is undone. -/
theorem LoopEnds.undone (dirPath : String) {goes : String → Prop}
    {reached : Directory → SaveTransactionEntry → Prop} (changed : SaveTransactionEntry)
    (hname : changed.finalPath = entry.finalPath) (hnot : ¬ goes entry.finalPath)
    (hapart : NamesApart (done ++ entry :: rest)) (hdone : ∀ e ∈ done, Held run before dir e)
    (hentry : Held run before dir changed) (hrest : ∀ e ∈ rest, Held run before dir e)
    (error : String) :
    LoopEnds before goes reached (done ++ entry :: rest) (entry :: rest)
      ((rollbackSaveTransaction dirPath (done ++ changed :: rest) dir error).1,
        .error (rollbackSaveTransaction dirPath (done ++ changed :: rest) dir error).2) := by
  have hheld : ∀ e ∈ done ++ changed :: rest, Held run before dir e := by
    intro e he
    obtain he | he := List.mem_append.mp he
    · exact hdone e he
    · obtain rfl | he := List.mem_cons.mp he
      · exact hentry
      · exact hrest e he
  have hchanged : NamesApart (done ++ changed :: rest) := by
    have hreplaced := hapart.replace hname
    rw [List.append_assoc, List.singleton_append] at hreplaced
    exact hreplaced
  obtain ⟨-, hrestored⟩ := rollbackSaveTransaction_restores dirPath hheld hchanged error
  left
  refine ⟨_, rfl, ⟨entry, List.mem_cons_self, hnot⟩, ?_⟩
  intro e he
  obtain he | he := List.mem_append.mp he
  · exact hrestored e (List.mem_append_left _ he)
  · obtain rfl | he := List.mem_cons.mp he
    · rw [← hname]
      exact hrestored changed (List.mem_append_right _ List.mem_cons_self)
    · exact hrestored e (List.mem_append_right _ (List.mem_cons_of_mem _ he))

/-- **The backups.** -/
theorem moveToBackups_ends (dirPath : String) (hdone : ∀ e ∈ done, BackedUp run before dir e)
    (hrest : ∀ e ∈ rest, TempWritten run before dir e) (hapart : NamesApart (done ++ rest)) :
    LoopEnds before (BacksUp run before) (BackedUp run before) (done ++ rest) rest
      (moveToBackups run dirPath done rest dir) := by
  induction rest generalizing done dir with
  | nil =>
    right
    refine ⟨done, rfl, ?_, hdone, by rw [List.append_nil]⟩
    intro e he
    cases he
  | cons entry rest ih =>
    obtain ⟨hdoneApart, hrestApart⟩ := hapart.around
    have hentry := hrest entry List.mem_cons_self
    have hexists : before.contains entry.finalPath = dir.contains entry.finalPath := by
      unfold SortedMap.contains
      rw [hentry.final]
    have hbackup : before.contains (run.backupName entry.finalPath) =
        dir.contains (run.backupName entry.finalPath) := by
      unfold SortedMap.contains
      rw [hentry.backup]
    unfold moveToBackups
    dsimp only
    cases hthere : dir.contains entry.finalPath with
    | false =>
      have hgoes : BacksUp run before entry.finalPath := by
        intro h
        rw [hexists, hthere] at h
        cases h
      have htarget : SaveTransactionEntry.target { entry with existed := false } =
          entry.target := rfl
      apply LoopEnds.turn _ htarget hgoes
      refine ih ?_ ?_ (hapart.replace rfl)
      · intro e he
        obtain he | he := List.mem_append.mp he
        · exact hdone e he
        · rw [List.mem_singleton.mp he]
          exact hentry.notExisted hthere
      · intro e he
        exact hrest e (List.mem_cons_of_mem _ he)
    | true =>
      show LoopEnds _ _ _ _ _ (if (!true) = true then _ else _)
      rw [if_neg (by decide)]
      cases hmoved : (if run.fails (.backup entry.finalPath) = true then none
        else rename dir entry.finalPath (run.backupName entry.finalPath)) with
      | none =>
        have hnot : ¬ BacksUp run before entry.finalPath := by
          intro h
          obtain ⟨hfails, hfree⟩ := h (hexists.trans hthere)
          rw [hbackup, SortedMap.contains_eq_false] at hfree
          obtain ⟨content, hcontent⟩ := SortedMap.contains_eq_true.mp hthere
          rw [if_neg (by rw [hfails]; decide), rename_free hcontent hfree] at hmoved
          cases hmoved
        have hunmoved : TempWritten run before dir { entry with
            existed := true, backupPath := run.backupName entry.finalPath } :=
          ⟨hentry.tempPath, hentry.fresh, hentry.temp, hentry.final, hentry.backup⟩
        refine LoopEnds.undone dirPath _ ?_ hnot hapart (fun e he => (hdone e he).held)
          hunmoved.held (fun e he => (hrest e (List.mem_cons_of_mem _ he)).held) _
        rfl
      | some moved =>
        have hrename : rename dir entry.finalPath (run.backupName entry.finalPath) = some moved := by
          split_ifs at hmoved
          exact hmoved
        have hgoes : BacksUp run before entry.finalPath := by
          intro _
          obtain ⟨-, -, hfree, -⟩ := rename_some hrename
          rw [hbackup, SortedMap.contains_eq_false]
          split_ifs at hmoved with hfails
          exact ⟨Bool.eq_false_of_not_eq_true hfails, hfree⟩
        have hframe : ∀ e : SaveTransactionEntry, Unrelated entry.finalPath e.finalPath →
            SameUnder e.finalPath dir moved := by
          intro e hunrelated
          exact sameUnder_rename hunrelated List.prefix_rfl (run.backupName_under _) hrename
        have htarget : SaveTransactionEntry.target { entry with
            existed := true, backupPath := run.backupName entry.finalPath,
            movedToBackup := true } = entry.target := rfl
        apply LoopEnds.turn _ htarget hgoes
        refine ih ?_ ?_ (hapart.replace rfl)
        · intro e he
          obtain he | he := List.mem_append.mp he
          · exact (hdone e he).congr (hframe e (hdoneApart e he))
          · rw [List.mem_singleton.mp he]
            exact hentry.moved hrename
        · intro e he
          exact (hrest e (List.mem_cons_of_mem _ he)).congr (hframe e (hrestApart e he))

/-- An entry whose temp file got the final name is at its last stage. -/
theorem BackedUp.installed (h : BackedUp run before dir entry)
    (hrename : rename dir (run.tempName entry.finalPath) entry.finalPath = some dir') :
    Installed run before dir' { entry with installed := true, tempPath := "" } := by
  obtain ⟨content, hcontent, -, rfl⟩ := rename_some hrename
  have hpayload : content = .object entry.payload := Option.some.inj (hcontent.symm.trans h.temp)
  refine ⟨⟨fun hpath => absurd rfl hpath, ?_, ?_, ?_, ?_⟩, ?_⟩
  · intro _ hinstalled
    cases hinstalled
  · intro hmoved _
    exact (h.held.untouched hmoved h.waiting).symm.trans h.final
  · intro _ hinstalled
    cases hinstalled
  · intro hmoved
    obtain ⟨hpath, old, hbefore, hold⟩ := h.held.backup hmoved
    refine ⟨hpath, old, hbefore, ?_⟩
    show SortedMap.find? _ (run.backupName entry.finalPath) = _
    rw [SortedMap.find?_insert_of_ne _ (run.backupName_ne _), SortedMap.find?_erase,
      if_neg (run.tempName_ne_backupName _).symm]
    exact hold
  · show SortedMap.find? _ entry.finalPath = _
    rw [SortedMap.find?_insert_self, hpayload]

/-- **The final names.** -/
theorem installTemps_ends (dirPath : String) (hdone : ∀ e ∈ done, Installed run before dir e)
    (hrest : ∀ e ∈ rest, BackedUp run before dir e) (hapart : NamesApart (done ++ rest)) :
    LoopEnds before (Installs run) (Installed run before) (done ++ rest) rest
      (installTemps run dirPath done rest dir) := by
  induction rest generalizing done dir with
  | nil =>
    right
    refine ⟨done, rfl, ?_, hdone, by rw [List.append_nil]⟩
    intro e he
    cases he
  | cons entry rest ih =>
    obtain ⟨hdoneApart, hrestApart⟩ := hapart.around
    have hentry := hrest entry List.mem_cons_self
    unfold installTemps
    dsimp only
    rw [hentry.tempPath]
    cases hfails : run.fails (.install entry.finalPath) with
    | true =>
      rw [if_pos rfl]
      have hnot : ¬ Installs run entry.finalPath := by
        intro h
        rw [Installs, hfails] at h
        cases h
      exact LoopEnds.undone dirPath entry rfl hnot hapart (fun e he => (hdone e he).held)
        hentry.held (fun e he => (hrest e (List.mem_cons_of_mem _ he)).held) _
    | false =>
      obtain ⟨moved, hrename⟩ : ∃ moved,
          rename dir (run.tempName entry.finalPath) entry.finalPath = some moved :=
        ⟨_, rename_free hentry.temp hentry.final⟩
      rw [if_neg (by decide), hrename]
      have hframe : ∀ e : SaveTransactionEntry, Unrelated entry.finalPath e.finalPath →
          SameUnder e.finalPath dir moved := by
        intro e hunrelated
        exact sameUnder_rename hunrelated (run.tempName_under _) List.prefix_rfl hrename
      have htarget : SaveTransactionEntry.target { entry with
          installed := true, tempPath := "" } = entry.target := rfl
      apply LoopEnds.turn _ htarget hfails
      refine ih ?_ ?_ (hapart.replace rfl)
      · intro e he
        obtain he | he := List.mem_append.mp he
        · exact (hdone e he).congr (hframe e (hdoneApart e he))
        · rw [List.mem_singleton.mp he]
          exact hentry.installed hrename
      · intro e he
        exact (hrest e (List.mem_cons_of_mem _ he)).congr (hframe e (hrestApart e he))

/-- Removing the backups leaves the final files. -/
theorem find?_removeBackups {name : String}
    (h : ∀ e ∈ entries, e.movedToBackup = true → e.backupPath ≠ name) (dir : Directory) :
    (removeBackups run entries dir).find? name = dir.find? name := by
  unfold removeBackups
  induction entries generalizing dir with
  | nil => rfl
  | cons first rest ih =>
    rw [List.foldl_cons, ih (fun e he => h e (List.mem_cons_of_mem _ he))]
    split_ifs with hremove
    · rw [Bool.and_eq_true, Bool.and_eq_true] at hremove
      rw [SortedMap.find?_erase, if_neg]
      intro heq
      exact h first List.mem_cons_self hremove.1.1 heq.symm
    · rfl

/-- The backup of an entry is none of the final files. -/
theorem NamesApart.backup_ne (h : NamesApart entries) {e e' : SaveTransactionEntry}
    (he : e ∈ entries) (he' : e' ∈ entries) : run.backupName e.finalPath ≠ e'.finalPath := by
  intro heq
  by_cases hname : e.finalPath = e'.finalPath
  · rw [← hname] at heq
    exact run.backupName_ne _ heq
  · have hunrelated : Unrelated e.finalPath e'.finalPath :=
      List.Pairwise.forall h (List.mem_map_of_mem he) (List.mem_map_of_mem he') hname
    have hunder := run.backupName_under e.finalPath
    rw [heq] at hunder
    exact hunrelated.1 hunder

/-- The names stay apart when the entries are for the same targets. -/
theorem NamesApart.of_target {after : List SaveTransactionEntry} (h : NamesApart entries)
    (hmap : after.map SaveTransactionEntry.target = entries.map SaveTransactionEntry.target) :
    NamesApart after := by
  have hnames := congrArg (List.map Prod.fst) hmap
  rw [List.map_map, List.map_map] at hnames
  unfold NamesApart at h ⊢
  rw [show after.map SaveTransactionEntry.finalPath = entries.map SaveTransactionEntry.finalPath
    from hnames]
  exact h

/-- Every step of the save goes through. -/
def Completes (run : SaveRun) (dir : Directory) (names : List String) : Prop :=
  ∀ name ∈ names, WritesTemp run dir name ∧ BacksUp run dir name ∧ Installs run name

/-- Entries for the same targets have the same names. -/
theorem same_target {after : List SaveTransactionEntry}
    (hmap : after.map SaveTransactionEntry.target = entries.map SaveTransactionEntry.target)
    {e : SaveTransactionEntry} (he : e ∈ entries) :
    ∃ e' ∈ after, e'.finalPath = e.finalPath ∧ e'.payload = e.payload := by
  have hmem : e.target ∈ after.map SaveTransactionEntry.target := by
    rw [hmap]
    exact List.mem_map_of_mem he
  obtain ⟨e', he', htarget⟩ := List.mem_map.mp hmem
  exact ⟨e', he', congrArg Prod.fst htarget, congrArg Prod.snd htarget⟩

/-- **A save replaces every file, or none**, and which it is depends on its steps. -/
theorem saveFiles_cases {dirPath : String} {result : Except String Unit}
    (hapart : NamesApart entries) (hinitial : ∀ e ∈ entries, Initial dir dir e)
    (h : saveFiles run dirPath entries dir = (dir', result)) :
    (∃ error, result = .error error) ∧
        ¬ Completes run dir (entries.map SaveTransactionEntry.finalPath) ∧
        (∀ e ∈ entries, dir'.find? e.finalPath = dir.find? e.finalPath) ∨
      result = .ok () ∧ Completes run dir (entries.map SaveTransactionEntry.finalPath) ∧
        ∀ e ∈ entries, dir'.find? e.finalPath = some (.object e.payload) := by
  have hnone : ∀ (reached : SaveTransactionEntry → Prop), ∀ e ∈ ([] : List SaveTransactionEntry),
      reached e := by
    intro reached e he
    cases he
  have hwrites := writeTemps_ends (hnone (TempWritten run dir dir)) hinitial hapart
  unfold saveFiles at h
  generalize writeTemps run [] entries dir = written at hwrites h
  obtain ⟨dir₁, result₁⟩ := written
  obtain ⟨error, rfl, ⟨e, he, hnot⟩, hkept⟩ | ⟨after₁, rfl, hwritten, hreached₁, hmap₁⟩ := hwrites
  · obtain ⟨rfl, rfl⟩ := Prod.mk.inj h
    refine Or.inl ⟨⟨error, rfl⟩, ?_, hkept⟩
    intro hall
    exact hnot (hall _ (List.mem_map_of_mem he)).1
  -- the entries of the next loop are for the same targets
  have hapart₁ := hapart.of_target hmap₁
  have hbackups := moveToBackups_ends dirPath (hnone (BackedUp run dir dir₁)) hreached₁ hapart₁
  dsimp only at h
  generalize moveToBackups run dirPath [] after₁ dir₁ = moved at hbackups h
  obtain ⟨dir₂, result₂⟩ := moved
  obtain ⟨error, rfl, ⟨e, he, hnot⟩, hkept⟩ | ⟨after₂, rfl, hmoved, hreached₂, hmap₂⟩ := hbackups
  · obtain ⟨rfl, rfl⟩ := Prod.mk.inj h
    refine Or.inl ⟨⟨error, rfl⟩, ?_, ?_⟩
    · intro hall
      obtain ⟨e', he', hname, -⟩ := same_target hmap₁.symm he
      rw [← hname] at hnot
      exact hnot (hall _ (List.mem_map_of_mem he')).2.1
    · intro e he
      obtain ⟨e', he', hname, -⟩ := same_target hmap₁ he
      rw [← hname]
      exact hkept e' he'
  have htargets₂ := hmap₂.trans hmap₁
  have hapart₂ := hapart.of_target htargets₂
  have hinstalls := installTemps_ends dirPath (hnone (Installed run dir dir₂)) hreached₂ hapart₂
  dsimp only at h
  generalize installTemps run dirPath [] after₂ dir₂ = installed at hinstalls h
  obtain ⟨dir₃, result₃⟩ := installed
  obtain ⟨error, rfl, ⟨e, he, hnot⟩, hkept⟩ | ⟨after₃, rfl, hinstalled, hreached₃, hmap₃⟩ := hinstalls
  · obtain ⟨rfl, rfl⟩ := Prod.mk.inj h
    refine Or.inl ⟨⟨error, rfl⟩, ?_, ?_⟩
    · intro hall
      obtain ⟨e', he', hname, -⟩ := same_target htargets₂.symm he
      rw [← hname] at hnot
      exact hnot (hall _ (List.mem_map_of_mem he')).2.2
    · intro e he
      obtain ⟨e', he', hname, -⟩ := same_target htargets₂ he
      rw [← hname]
      exact hkept e' he'
  have htargets₃ := hmap₃.trans htargets₂
  have hapart₃ := hapart.of_target htargets₃
  obtain ⟨rfl, rfl⟩ := Prod.mk.inj h
  refine Or.inr ⟨rfl, ?_, ?_⟩
  · intro name hname
    obtain ⟨e, he, rfl⟩ := List.mem_map.mp hname
    obtain ⟨e₁, he₁, hname₁, -⟩ := same_target hmap₁ he
    obtain ⟨e₂, he₂, hname₂, -⟩ := same_target htargets₂ he
    exact ⟨hwritten e he, hname₁ ▸ hmoved e₁ he₁, hname₂ ▸ hinstalled e₂ he₂⟩
  · intro e he
    obtain ⟨e', he', hname, hpayload⟩ := same_target htargets₃ he
    rw [find?_removeBackups, ← hname, ← hpayload]
    · exact (hreached₃ e' he').final
    · intro x hx hmovedX
      rw [((hreached₃ x hx).held.backup hmovedX).1, ← hname]
      exact hapart₃.backup_ne hx he'

end Loops

/-! ## §6. What a later load sees -/

section Save

variable {run : SaveRun} {projectsDir : String} {project : Project} {disk : ProjectsDisk}

theorem ProjectsDisk.find?_store (disk : ProjectsDisk) (id : String) :
    disk.store.find? id = ((disk.getD SortedMap.empty).find? id).map Directory.projectFiles :=
  SortedMap.find?_mapValues _ _ _

/-- The record reads as it is when it is written. -/
def Project.ReadsBack (project : Project) : Prop :=
  project.name ≠ "" ∧ project.serviceId ≠ "" ∧
    Schedule.fromJson project.schedule.toJson = (project.schedule, "")

/-- **Loading what was saved.**  It gives the project exactly when the record reads back. -/
theorem loadProject_written {store : ProjectStore} (hid : isValidProjectId project.id = true)
    (hstore : store.find? project.id = some (written project)) {m : List (String × Json)}
    (hconfig : project.config = .obj m) (hsorted : Sorted m) :
    loadProject projectsDir project.id store = .ok { project with valid := true, error := "" } ↔
      project.ReadsBack := by
  have hjson : (SortedMap.ofEntries project.toJson).entries = project.toJson :=
    SortedMap.entries_ofEntries (sorted_record _)
  have hparams : (SortedMap.ofEntries project.config.toObject).entries = m := by
    rw [hconfig]
    exact SortedMap.entries_ofEntries hsorted
  have hread := project.fromStorageJson_written
  unfold Project.ReadsBack loadProject
  rw [hstore]
  simp only [hid, Bool.not_true, Bool.false_eq_true, if_false, loadOne, written,
    loadJsonObjectFile, hjson, hparams, hread, Option.isSome_some]
  generalize Schedule.fromJson project.schedule.toJson = schedule
  obtain ⟨schedule, error⟩ := schedule
  by_cases hname : project.name = ""
  · simp [hname]
  · by_cases hservice : project.serviceId = ""
    · simp [hname, hservice]
    · by_cases herror : error = ""
      · -- every field but the schedule is the one that was written
        obtain ⟨id, name, serviceId, enabled, written, config, valid, text⟩ := project
        dsimp only at hconfig hname hservice ⊢
        subst hconfig
        simp [hname, hservice, herror]
      · simp [hname, hservice, herror]

/-- When the save fails, a later `loadAll` sees what it saw before; when it succeeds, `loadProject`
gives the project and the files of the others are as they were. -/
def SaveAtomic (run : SaveRun) (projectsDir : String) (project : Project) (disk : ProjectsDisk) :
    Prop :=
  ((∃ error, (saveProject run projectsDir project disk).2 = .error error) →
    ∀ validate services,
      loadAll validate projectsDir services (saveProject run projectsDir project disk).1.store =
        loadAll validate projectsDir services disk.store) ∧
  ((saveProject run projectsDir project disk).2 = .ok () →
    loadProject projectsDir project.id (saveProject run projectsDir project disk).1.store =
        .ok { project with valid := true, error := "" } ∧
      ∀ id, id ≠ project.id →
        (saveProject run projectsDir project disk).1.store.find? id = disk.store.find? id)

/-- Every step that replaces the files goes through, in the directory as it is before. -/
def SaveCompletes (run : SaveRun) (project : Project) (disk : ProjectsDisk) : Prop :=
  Completes run (((disk.getD SortedMap.empty).find? project.id).getD SortedMap.empty)
    ["config.json", "param.json"]

/-- The save is refused before the project's directory is made; or the directory was there, or
every step goes through, and if every step does then the record reads back. -/
def SaveKeeps (run : SaveRun) (project : Project) (disk : ProjectsDisk) : Prop :=
  isValidProjectId project.id = false ∨ run.fails .mkProjectsDir = true ∨
    run.fails .mkProjectDir = true ∨
    ((disk.getD SortedMap.empty).contains project.id = true ∨ SaveCompletes run project disk) ∧
      (SaveCompletes run project disk → project.ReadsBack)

/-- A save that is refused leaves what a load sees. -/
theorem saveProject_refused (projectsDir : String) (disk : ProjectsDisk)
    (h : isValidProjectId project.id = false ∨ run.fails .mkProjectsDir = true ∨
      run.fails .mkProjectDir = true) :
    (∃ error, (saveProject run projectsDir project disk).2 = .error error) ∧
      (saveProject run projectsDir project disk).1.store = disk.store := by
  unfold saveProject
  by_cases hid : isValidProjectId project.id = false
  · rw [if_pos (by rw [hid]; rfl)]
    exact ⟨⟨_, rfl⟩, rfl⟩
  rw [Bool.not_eq_false] at hid
  rw [if_neg (by rw [hid]; decide)]
  by_cases hprojects : run.fails .mkProjectsDir = true
  · rw [if_pos hprojects]
    exact ⟨⟨_, rfl⟩, rfl⟩
  rw [if_neg hprojects]
  obtain h | h | h := h
  · rw [hid] at h
    cases h
  · exact absurd h hprojects
  · dsimp only
    rw [if_pos h]
    refine ⟨⟨_, rfl⟩, ?_⟩
    cases disk <;> rfl

/-- A save that is not refused works in the project's directory. -/
theorem saveProject_files (hid : isValidProjectId project.id = true)
    (hprojects : run.fails .mkProjectsDir = false) (hproject : run.fails .mkProjectDir = false) :
    saveProject run projectsDir project disk =
      (some ((disk.getD SortedMap.empty).insert project.id
        (saveFiles run (projectDirPath projectsDir project.id) (saveEntries project)
          (((disk.getD SortedMap.empty).find? project.id).getD SortedMap.empty)).1),
        (saveFiles run (projectDirPath projectsDir project.id) (saveEntries project)
          (((disk.getD SortedMap.empty).find? project.id).getD SortedMap.empty)).2) := by
  unfold saveProject
  rw [hid, hprojects, hproject]
  rfl

theorem namesApart_saveEntries (project : Project) : NamesApart (saveEntries project) := by
  unfold NamesApart
  show ["config.json", "param.json"].Pairwise Unrelated
  unfold Unrelated
  decide

theorem initial_saveEntries (project : Project) (dir : Directory) :
    ∀ e ∈ saveEntries project, Initial dir dir e := by
  intro e he
  obtain rfl | he := List.mem_cons.mp he
  · exact ⟨rfl, ⟨rfl, rfl⟩, SameUnder.refl _ dir⟩
  · rw [List.mem_singleton.mp he]
    exact ⟨rfl, ⟨rfl, rfl⟩, SameUnder.refl _ dir⟩

/-- The two files of a directory after a save. -/
theorem projectFiles_saved {dir dir' : Directory} {result : Except String Unit} {dirPath : String}
    (h : saveFiles run dirPath (saveEntries project) dir = (dir', result)) :
    (∃ error, result = .error error) ∧ ¬ Completes run dir ["config.json", "param.json"] ∧
        dir'.projectFiles = dir.projectFiles ∨
      result = .ok () ∧ Completes run dir ["config.json", "param.json"] ∧
        dir'.projectFiles = written project := by
  obtain ⟨herror, hnot, hkept⟩ | ⟨hok, hall, hnew⟩ :=
    saveFiles_cases (namesApart_saveEntries project) (initial_saveEntries project dir) h
  · left
    refine ⟨herror, hnot, ?_⟩
    have hconfig := hkept _ List.mem_cons_self
    have hparam := hkept _ (List.mem_cons_of_mem _ List.mem_cons_self)
    unfold projectFiles
    exact congrArg₂ ProjectFiles.mk hconfig hparam
  · right
    refine ⟨hok, hall, ?_⟩
    have hconfig := hnew _ List.mem_cons_self
    have hparam := hnew _ (List.mem_cons_of_mem _ List.mem_cons_self)
    exact congrArg₂ ProjectFiles.mk hconfig hparam

/-- The directory of a project is replaced in what a load sees. -/
theorem find?_store_insert (disk : ProjectsDisk) (id : String) (dir : Directory) (other : String) :
    (ProjectsDisk.store (some ((disk.getD SortedMap.empty).insert id dir))).find? other =
      if other = id then some dir.projectFiles else disk.store.find? other := by
  rw [ProjectsDisk.find?_store, ProjectsDisk.find?_store, Option.getD_some,
    SortedMap.find?_insert]
  split_ifs <;> rfl

/-- A directory that is there with the same files is no change. -/
theorem store_insert_same {id : String} {dir dir' : Directory}
    (hdir : (disk.getD SortedMap.empty).find? id = some dir)
    (hfiles : dir'.projectFiles = dir.projectFiles) :
    ProjectsDisk.store (some ((disk.getD SortedMap.empty).insert id dir')) = disk.store := by
  apply SortedMap.ext_find?
  intro other
  rw [find?_store_insert]
  split_ifs with h
  · rw [h, ProjectsDisk.find?_store, hdir, hfiles]
    rfl
  · rfl

/-- **What a save leaves.**  When it fails, what a load of a project that was there sees stays;
when it succeeds, the files of the project are the written ones, and the others stay. -/
theorem saveProject_store (run : SaveRun) (projectsDir : String) (project : Project)
    (disk : ProjectsDisk) :
    (∃ error, (saveProject run projectsDir project disk).2 = .error error) ∧
        ((disk.getD SortedMap.empty).contains project.id = true →
          (saveProject run projectsDir project disk).1.store = disk.store) ∨
      (saveProject run projectsDir project disk).2 = .ok () ∧
        isValidProjectId project.id = true ∧
        ∀ id, (saveProject run projectsDir project disk).1.store.find? id =
          if id = project.id then some (written project) else disk.store.find? id := by
  by_cases hrefused : isValidProjectId project.id = false ∨ run.fails .mkProjectsDir = true ∨
      run.fails .mkProjectDir = true
  · obtain ⟨herror, hstore⟩ := saveProject_refused projectsDir disk hrefused
    exact Or.inl ⟨herror, fun _ => hstore⟩
  rw [not_or, not_or, Bool.not_eq_false, Bool.not_eq_true, Bool.not_eq_true] at hrefused
  obtain ⟨hid, hprojects, hproject⟩ := hrefused
  rw [saveProject_files hid hprojects hproject]
  generalize hsave : saveFiles run (projectDirPath projectsDir project.id) (saveEntries project)
    (((disk.getD SortedMap.empty).find? project.id).getD SortedMap.empty) = out
  obtain ⟨dir', result⟩ := out
  dsimp only
  obtain ⟨herror, -, hfiles⟩ | ⟨hok, -, hfiles⟩ := projectFiles_saved hsave
  · left
    refine ⟨herror, ?_⟩
    intro hthere
    obtain ⟨dir, hdir⟩ := SortedMap.contains_eq_true.mp hthere
    rw [hdir] at hfiles
    exact store_insert_same hdir hfiles
  · right
    refine ⟨hok, hid, ?_⟩
    intro id
    rw [find?_store_insert, hfiles]

/-- **When a save is atomic.** -/
theorem save_atomic_iff (run : SaveRun) (projectsDir : String) (project : Project)
    (disk : ProjectsDisk) (hconfig : ∃ m, project.config = .obj m ∧ Sorted m) :
    SaveAtomic run projectsDir project disk ↔ SaveKeeps run project disk := by
  by_cases hrefused : isValidProjectId project.id = false ∨ run.fails .mkProjectsDir = true ∨
      run.fails .mkProjectDir = true
  · obtain ⟨⟨error, herror⟩, hstore⟩ := saveProject_refused projectsDir disk hrefused
    refine iff_of_true ⟨?_, ?_⟩ ?_
    · intro _ validate services
      rw [hstore]
    · intro hok
      rw [herror] at hok
      cases hok
    · obtain h | h | h := hrefused
      · exact Or.inl h
      · exact Or.inr (Or.inl h)
      · exact Or.inr (Or.inr (Or.inl h))
  have hnot := hrefused
  rw [not_or, not_or, Bool.not_eq_false, Bool.not_eq_true, Bool.not_eq_true] at hnot
  obtain ⟨hid, hprojects, hproject⟩ := hnot
  have hkeeps : SaveKeeps run project disk ↔
      ((disk.getD SortedMap.empty).contains project.id = true ∨ SaveCompletes run project disk) ∧
        (SaveCompletes run project disk → project.ReadsBack) := by
    unfold SaveKeeps
    rw [hid, hprojects, hproject]
    simp only [Bool.true_eq_false, Bool.false_eq_true, false_or]
  rw [hkeeps]
  unfold SaveAtomic SaveCompletes
  rw [saveProject_files hid hprojects hproject]
  generalize hsave : saveFiles run (projectDirPath projectsDir project.id) (saveEntries project)
    (((disk.getD SortedMap.empty).find? project.id).getD SortedMap.empty) = out
  obtain ⟨dir', result⟩ := out
  dsimp only
  have hstore := find?_store_insert disk project.id dir'
  obtain ⟨⟨error, rfl⟩, hincomplete, hfiles⟩ | ⟨rfl, hcomplete, hfiles⟩ := projectFiles_saved hsave
  · -- the save fails, and both files are as they were
    simp only [hincomplete, or_false, false_imp_iff, and_true, reduceCtorEq]
    constructor
    · intro h
      have hload := h ⟨error, rfl⟩ (fun _ _ => .error "") SortedMap.empty
      have hfound := congrArg (fun projects => (projects.find? project.id).isSome) hload
      simp only [find?_loadAll _ _ _ _ hid, hstore, if_true, Option.map_some, Option.isSome_some,
        Option.isSome_map, ProjectsDisk.find?_store] at hfound
      exact hfound.symm
    · intro hthere _ validate services
      obtain ⟨dir, hdir⟩ := SortedMap.contains_eq_true.mp hthere
      rw [hdir] at hfiles
      rw [store_insert_same hdir hfiles]
  · -- the save succeeds, and the files are those of the project
    obtain ⟨m, hm, hsorted⟩ := hconfig
    simp only [hcomplete, or_true, true_imp_iff, true_and, reduceCtorEq, exists_false,
      false_imp_iff]
    have hwritten : (ProjectsDisk.store (some ((disk.getD SortedMap.empty).insert project.id
        dir'))).find? project.id = some (written project) := by
      rw [hstore, if_pos rfl, hfiles]
    rw [loadProject_written hid hwritten hm hsorted]
    constructor
    · intro h
      exact h.1
    · intro h
      refine ⟨h, ?_⟩
      intro id hne
      rw [hstore, if_neg hne]

end Save

/-- The disk is full when the first temp file is written. -/
def fullDisk : SaveRun where
  fails
    | .writeTemp baseName => baseName = "config.json"
    | _ => false
  unique _ := "aaaaaa"
  uuid := "00000000-0000-0000-0000-000000000000"
  unique_length _ := by decide
  uuid_length := by decide

/-- A project that has no directory yet. -/
def newProject : Project := { id := "p", name := "n", serviceId := "s" }

/-- A save that fails in a directory that is there is atomic. -/
theorem failedSave_atomic :
    let disk : ProjectsDisk := some (SortedMap.empty.insert "p" SortedMap.empty)
    (saveProject fullDisk "/projects" newProject disk).2.toBool = false ∧
      SaveAtomic fullDisk "/projects" newProject disk := by
  intro disk
  refine ⟨by decide +kernel, (save_atomic_iff fullDisk "/projects" newProject disk
    ⟨[], rfl, List.Pairwise.nil⟩).mpr (.inr (.inr (.inr ⟨.inl (by decide +kernel), ?_⟩)))⟩
  intro _
  exact ⟨by decide, by decide, by decide +kernel⟩

/-- **A first save that fails leaves a project.**  The directory was made for it and stays, and the
next load finds it without a record. -/
theorem failedSave_leaves_project :
    let saved := saveProject fullDisk "/projects" newProject none
    let load (disk : ProjectsDisk) :=
      loadAll (fun _ _ => .error "") "/projects" SortedMap.empty disk.store
    saved.2.toBool = false ∧
      ((load none).find? "p").isSome = false ∧
      ((load saved.1).find? "p").map (fun q => (q.valid, q.error)) =
        some (false, "cannot open project config file: /projects/p/config.json") ∧
      ¬ SaveAtomic fullDisk "/projects" newProject none := by
  intro saved load
  have hfailed : saved.2.toBool = false := by decide +kernel
  have hbefore : ((load none).find? "p").isSome = false := by decide +kernel
  have hafter : ((load saved.1).find? "p").map (fun q => (q.valid, q.error)) =
      some (false, "cannot open project config file: /projects/p/config.json") := by
    decide +kernel
  refine ⟨hfailed, hbefore, hafter, ?_⟩
  intro hatomic
  have herror : ∃ error, saved.2 = .error error := by
    cases hresult : saved.2 with
    | error error => exact ⟨error, rfl⟩
    | ok _ =>
      rw [hresult] at hfailed
      cases hfailed
  have hsame := hatomic.1 herror (fun _ _ => .error "") SortedMap.empty
  rw [show loadAll _ _ _ saved.1.store = load saved.1 from rfl] at hsame
  rw [hsame] at hafter
  change ((load none).find? "p").map _ = _ at hafter
  cases hfind : (load none).find? "p" with
  | none =>
    rw [hfind] at hafter
    cases hafter
  | some _ =>
    rw [hfind] at hbefore
    cases hbefore

end Stdiolink.Server
