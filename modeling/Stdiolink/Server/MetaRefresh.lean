/-
  Stdiolink.Server.MetaRefresh — what a scan does when the metadata of a driver is refreshed,
  `DriverManagerScanner::scan` and `tryExportMeta`.

  A refresh runs the driver's executable, which writes `driver.meta.json` in place.  Whatever
  becomes of the run, the scan goes on to load the file as it finds it then: "keeping old meta" is
  a line in the log, and nothing that the scan does.

  Main results:
    * `find?_scanDrivers`       — the catalog by what each directory yields;
    * `failed_refresh_kept_iff` — a failed refresh keeps the driver exactly when the run left a meta
      file that loads to the same metadata;
    * `failed_export_drops_driver` — an executable that empties the file and fails.
-/
import Stdiolink.Server.DriverScan

namespace Stdiolink.Server

open Stdiolink.Lib
open Stdiolink.Protocol
open Stdiolink.Meta

section Refresh

variable (qt : JsonText) (computeMetaHash : List UInt8 → String) (driversDir : String)

/-! ## §1. One directory -/

/-- The directory as the loop of a scan leaves it, and the driver that it puts into the catalog. -/
structure ScannedDir where
  dir : DriverDir
  driver : Option DriverConfig := none

/-- The driver of a directory whose metadata is loaded. -/
def loadedDriver (dir : DriverDir) : Option DriverConfig :=
  (loadMetaFile qt computeMetaHash driversDir dir).filter fun config => !config.program.isEmpty

/-- One pass of the loop by its directory alone. -/
def scannedDir (refreshMeta : Bool) (dir : DriverDir) : ScannedDir :=
  if isFailedDir dir.name then ⟨dir, none⟩
  else
    let executable := findDriverExecutable driversDir dir
    match dir.metaFile with
    | .missing =>
      if executable.isEmpty then ⟨(markFailed dir).1, none⟩
      else
        let (dir, exported) := tryExportMeta qt dir
        if exported then ⟨dir, loadedDriver qt computeMetaHash driversDir dir⟩
        else ⟨(markFailed dir).1, none⟩
    | _ =>
      let dir := if refreshMeta && !executable.isEmpty then (tryExportMeta qt dir).1 else dir
      ⟨dir, loadedDriver qt computeMetaHash driversDir dir⟩

/-- What a driver does to the catalog. -/
def enter (catalog : DriverCatalog) (driver : Option DriverConfig) : DriverCatalog :=
  match driver with
  | none => catalog
  | some config => catalog.insert config.id config

/-- A refresh of this directory is tried, and `tryExportMeta` reports that it failed. -/
def RefreshFails (dir : DriverDir) : Prop :=
  isFailedDir dir.name = false ∧ findDriverExecutable driversDir dir ≠ "" ∧
    (tryExportMeta qt dir).2 = false

/-- The run of the executable leaves a meta file with this metadata. -/
def LeavesMeta (dir : DriverDir) (driverMeta : DriverMeta) : Prop :=
  match dir.run.written with
  | none => True
  | some file =>
    ∃ config,
      loadMetaFile qt computeMetaHash driversDir { dir with metaFile := file } = some config ∧
      config.driverMeta = driverMeta

variable {qt computeMetaHash driversDir}

/-- A pass of the loop that leaves this directory. -/
structure PassesDir (s : Scanned) (scanned : ScannedDir) (s' : Scanned) : Prop where
  dirs : s'.dirs = s.dirs ++ [scanned.dir]
  result : s'.result = enter s.result scanned.driver

/-- The statistics do not matter. -/
theorem PassesDir.of_stats {s s' : Scanned} {stats : ScanStats} {scanned : ScannedDir}
    (h : PassesDir { s with stats := stats } scanned s') : PassesDir s scanned s' :=
  ⟨h.dirs, h.result⟩

theorem scanLoaded_passes (dir : DriverDir) (s : Scanned) :
    PassesDir s ⟨dir, loadedDriver qt computeMetaHash driversDir dir⟩
      (scanLoaded qt computeMetaHash driversDir dir s) := by
  unfold scanLoaded loadedDriver
  cases hload : loadMetaFile qt computeMetaHash driversDir dir with
  | none => exact ⟨rfl, rfl⟩
  | some config =>
    cases hprogram : config.program.isEmpty with
    | true => constructor <;> simp [hprogram, enter, Option.filter]
    | false => constructor <;> simp [hprogram, enter, Option.filter]

theorem scanFailed_passes (dir : DriverDir) (s : Scanned) :
    PassesDir s ⟨(markFailed dir).1, none⟩ (scanFailed dir s) := by
  unfold scanFailed
  cases hmarked : (markFailed dir).2 with
  | true => constructor <;> simp [hmarked, enter]
  | false => constructor <;> simp [hmarked, enter]

/-- **One pass of the loop.** -/
theorem scanDir_passes (refreshMeta : Bool) (s : Scanned) (dir : DriverDir) :
    PassesDir s (scannedDir qt computeMetaHash driversDir refreshMeta dir)
      (scanDir qt computeMetaHash driversDir refreshMeta s dir) := by
  unfold scanDir scannedDir
  by_cases hfailed : isFailedDir dir.name = true
  · rw [if_pos hfailed, if_pos hfailed]
    exact ⟨rfl, rfl⟩
  · rw [if_neg hfailed, if_neg hfailed]
    dsimp only
    cases dir.metaFile with
    | missing =>
      by_cases hexec : (findDriverExecutable driversDir dir).isEmpty = true
      · rw [if_pos hexec, if_pos hexec]
        exact (scanFailed_passes dir _).of_stats
      · rw [if_neg hexec, if_neg hexec]
        by_cases hexport : (tryExportMeta qt dir).2 = true
        · rw [if_pos hexport, if_pos hexport]
          exact (scanLoaded_passes _ _).of_stats
        · rw [if_neg hexport, if_neg hexport]
          exact (scanFailed_passes _ _).of_stats
    | unreadable =>
      dsimp only
      split_ifs <;> exact (scanLoaded_passes _ _).of_stats
    | text data =>
      dsimp only
      split_ifs <;> exact (scanLoaded_passes _ _).of_stats

/-! ## §2. The whole scan -/

theorem foldl_scanDir (refreshMeta : Bool) (dirs : List DriverDir) (s : Scanned) :
    let scanned := dirs.map (scannedDir qt computeMetaHash driversDir refreshMeta)
    let s' := dirs.foldl (scanDir qt computeMetaHash driversDir refreshMeta) s
    s'.dirs = s.dirs ++ scanned.map ScannedDir.dir ∧
      s'.result = (scanned.map ScannedDir.driver).foldl enter s.result := by
  induction dirs generalizing s with
  | nil => simp
  | cons dir dirs ih =>
    intro scanned s'
    have hpass : PassesDir s (scannedDir qt computeMetaHash driversDir refreshMeta dir)
        (scanDir qt computeMetaHash driversDir refreshMeta s dir) :=
      scanDir_passes refreshMeta s dir
    obtain ⟨hdirs, hresult⟩ := ih (scanDir qt computeMetaHash driversDir refreshMeta s dir)
    rw [hpass.dirs, List.append_assoc] at hdirs
    rw [hpass.result] at hresult
    exact ⟨hdirs, hresult⟩

/-- A driver with another id does not get in the way. -/
theorem find?_foldl_enter {drivers : List (Option DriverConfig)} {id : String}
    (h : ∀ config, some config ∈ drivers → config.id ≠ id) (catalog : DriverCatalog) :
    (drivers.foldl enter catalog).find? id = catalog.find? id := by
  induction drivers generalizing catalog with
  | nil => rfl
  | cons driver drivers ih =>
    rw [List.foldl_cons, ih fun config hc => h config (List.mem_cons_of_mem _ hc)]
    cases driver with
    | none => rfl
    | some config => exact SortedMap.find?_insert_of_ne catalog (Ne.symm (h config (by simp))) _

/-- **The catalog under an id that only one directory may yield.** -/
theorem find?_scanDrivers {refreshMeta : Bool} {before after : List DriverDir} {dir : DriverDir}
    {id : String} (hothers : ∀ other ∈ before ++ after, ∀ config,
      (scannedDir qt computeMetaHash driversDir refreshMeta other).driver = some config →
      config.id ≠ id) :
    (scanDrivers qt computeMetaHash driversDir refreshMeta
        (some (before ++ dir :: after))).result.find? id =
      (scannedDir qt computeMetaHash driversDir refreshMeta dir).driver.filter
        fun config => config.id = id := by
  have hnone : ∀ dirs, dirs ⊆ before ++ after → ∀ config,
      some config ∈ (dirs.map (scannedDir qt computeMetaHash driversDir refreshMeta)).map
        ScannedDir.driver → config.id ≠ id := by
    intro dirs hdirs config hconfig
    simp only [List.map_map, List.mem_map, Function.comp_apply] at hconfig
    obtain ⟨other, hother, hyields⟩ := hconfig
    exact hothers other (hdirs hother) config hyields
  show ((before ++ dir :: after).foldl (scanDir qt computeMetaHash driversDir refreshMeta)
    {}).result.find? id = _
  rw [(foldl_scanDir refreshMeta (before ++ dir :: after) {}).2, List.map_append, List.map_append,
    List.map_cons, List.map_cons, List.foldl_append, List.foldl_cons,
    find?_foldl_enter (hnone after (List.subset_append_right _ _))]
  cases (scannedDir qt computeMetaHash driversDir refreshMeta dir).driver with
  | none => exact find?_foldl_enter (hnone before (List.subset_append_left _ _)) _
  | some config =>
    show (SortedMap.insert _ config.id config).find? id = _
    rw [SortedMap.find?_insert, find?_foldl_enter (hnone before (List.subset_append_left _ _))]
    by_cases hid : config.id = id
    · rw [if_pos hid.symm, Option.filter_some_pos (by simpa using hid)]
    · rw [if_neg (Ne.symm hid), Option.filter_some_neg (by simpa using hid)]
      rfl

/-! ## §3. A failed refresh -/

theorem tryExportMeta_dir (dir : DriverDir) :
    (tryExportMeta qt dir).1 = { dir with metaFile := dir.run.written.getD dir.metaFile } := by
  unfold tryExportMeta
  dsimp only
  split_ifs <;> (try rfl)
  split
  · split <;> rfl
  · rfl

variable {dir : DriverDir} {config : DriverConfig}

/-- What is loaded has the directory's executable as its program, and is named by its metadata. -/
theorem loadMetaFile_built (h : loadMetaFile qt computeMetaHash driversDir dir = some config) :
    config.program = findDriverExecutable driversDir dir ∧
      config.id = config.driverMeta.info.id := by
  unfold loadMetaFile at h
  split at h
  next data hdata =>
    split at h
    next obj hobj =>
      dsimp only at h
      split_ifs at h
      rw [← Option.some.inj h]
      exact ⟨rfl, rfl⟩
    next => cases h
  next => cases h

/-- The directory as the run of its executable leaves it. -/
def afterRun (dir : DriverDir) : DriverDir :=
  { dir with metaFile := dir.run.written.getD dir.metaFile }

/-- **A directory with metadata is refreshed**, and what is there then is loaded, whether the
refresh failed or not. -/
theorem scannedDir_refreshed (hload : loadMetaFile qt computeMetaHash driversDir dir = some config)
    (hname : isFailedDir dir.name = false) (hexec : findDriverExecutable driversDir dir ≠ "") :
    scannedDir qt computeMetaHash driversDir true dir =
      ⟨afterRun dir, loadMetaFile qt computeMetaHash driversDir (afterRun dir)⟩ := by
  have hempty : (findDriverExecutable driversDir dir).isEmpty = false := by
    rw [String.isEmpty_eq_false_iff]
    exact hexec
  have hdriver : loadedDriver qt computeMetaHash driversDir (afterRun dir) =
      loadMetaFile qt computeMetaHash driversDir (afterRun dir) := by
    unfold loadedDriver
    cases hleft : loadMetaFile qt computeMetaHash driversDir (afterRun dir) with
    | none => rfl
    | some left =>
      have hprogram : left.program = findDriverExecutable driversDir dir :=
        (loadMetaFile_built hleft).1.trans rfl
      rw [Option.filter_some_pos (by simp [hprogram, hempty])]
  unfold scannedDir
  rw [hname, if_neg (by simp)]
  cases hmeta : dir.metaFile with
  | text data =>
    simp only [hempty, tryExportMeta_dir]
    exact congrArg (ScannedDir.mk (afterRun dir)) hdriver
  | missing => simp [loadMetaFile, hmeta] at hload
  | unreadable => simp [loadMetaFile, hmeta] at hload

/-- **A failed refresh keeps the driver exactly when the run has left its metadata.**  The directory
is never renamed. -/
theorem failed_refresh_kept_iff {before after : List DriverDir} {dir : DriverDir}
    {config : DriverConfig} (hload : loadMetaFile qt computeMetaHash driversDir dir = some config)
    (hfails : RefreshFails qt driversDir dir)
    (hothers : ∀ other ∈ before ++ after, ∀ config',
      (scannedDir qt computeMetaHash driversDir true other).driver = some config' →
      config'.id ≠ config.id) :
    let scan := scanDrivers qt computeMetaHash driversDir true (some (before ++ dir :: after))
    (∃ dir', scan.dirs[before.length]? = some dir' ∧ dir'.name = dir.name) ∧
    ((∃ config', scan.result.find? config.id = some config' ∧
        config'.driverMeta = config.driverMeta) ↔
      LeavesMeta qt computeMetaHash driversDir dir config.driverMeta) := by
  intro scan
  obtain ⟨hname, hexec, -⟩ := hfails
  have hscanned := scannedDir_refreshed hload hname hexec
  have hfind : scan.result.find? config.id =
      (loadMetaFile qt computeMetaHash driversDir (afterRun dir)).filter
        fun config' => config'.id = config.id := by
    rw [find?_scanDrivers hothers, hscanned]
  refine ⟨⟨afterRun dir, ?_, rfl⟩, ?_⟩
  · have hdirs : scan.dirs = ((before ++ dir :: after).map
        (scannedDir qt computeMetaHash driversDir true)).map ScannedDir.dir :=
      (foldl_scanDir true (before ++ dir :: after) {}).1
    rw [hdirs, List.getElem?_map, List.getElem?_map, List.getElem?_append_right (Nat.le_refl _),
      Nat.sub_self]
    show some (scannedDir qt computeMetaHash driversDir true dir).dir = _
    rw [hscanned]
  · -- a driver with the same metadata has the same id
    have hleft : (∃ config', scan.result.find? config.id = some config' ∧
          config'.driverMeta = config.driverMeta) ↔
        ∃ config', loadMetaFile qt computeMetaHash driversDir (afterRun dir) = some config' ∧
          config'.driverMeta = config.driverMeta := by
      rw [hfind]
      constructor
      · rintro ⟨config', hfilter, hmeta⟩
        exact ⟨config', (Option.filter_eq_some_iff.mp hfilter).1, hmeta⟩
      · rintro ⟨config', hconfig', hmeta⟩
        have hid : config'.id = config.id := by
          rw [(loadMetaFile_built hconfig').2, (loadMetaFile_built hload).2, hmeta]
        exact ⟨config', Option.filter_eq_some_iff.mpr ⟨hconfig', by simpa using hid⟩, hmeta⟩
    rw [hleft]
    unfold LeavesMeta
    cases hwritten : dir.run.written with
    | none =>
      have hsame : afterRun dir = dir := by simp [afterRun, hwritten]
      rw [hsame]
      exact iff_of_true ⟨config, hload, rfl⟩ trivial
    | some file =>
      have hsame : afterRun dir = { dir with metaFile := file } := by simp [afterRun, hwritten]
      rw [hsame]

end Refresh

/-- `QJsonDocument` on a meta file of the driver `d` that has any content. -/
def filledText : JsonText where
  fromJson data :=
    if data = [] then .error "illegal value"
    else .ok (.obj [("info", .obj [("id", .str "d")])])
  toJson _ := ""

/-- The directory of the driver `d`, whose executable exits with code 1 after it has done this to
the meta file. -/
def failingD (written : Option MetaFile) : DriverDir where
  name := "d"
  metaFile := .text [123]
  files := ["stdio.drv.d"]
  run := { exitCode := 1, written := written }

/-- An executable that fails before it opens the file. -/
theorem untouched_refresh_kept :
    ∃ config', (scanDrivers filledText (fun _ => "") "" true (some [failingD none])).result.find?
      "d" = some config' ∧ config'.driverMeta.info.id = "d" := by
  obtain ⟨config, hload, hid⟩ : ∃ config,
      loadMetaFile filledText (fun _ => "") "" (failingD none) = some config ∧ config.id = "d" :=
    ⟨_, rfl, rfl⟩
  have hfails : RefreshFails filledText "" (failingD none) :=
    ⟨by decide +kernel, by decide +kernel, rfl⟩
  have hkept := @failed_refresh_kept_iff filledText (fun _ => "") "" [] [] _ config hload hfails
    (by simp)
  obtain ⟨config', hconfig', hmeta⟩ := hkept.2.mpr trivial
  rw [hid] at hconfig'
  exact ⟨config', hconfig', by rw [hmeta, ← (loadMetaFile_built hload).2, hid]⟩

/-- **The executable empties the meta file and exits with code 1.**  The driver, which had metadata,
is gone from the catalog; the directory keeps its name. -/
theorem failed_export_drops_driver :
    (loadMetaFile filledText (fun _ => "") "" (failingD (some (.text [])))).isSome = true ∧
      RefreshFails filledText "" (failingD (some (.text []))) ∧
      (scanDrivers filledText (fun _ => "") "" true
        (some [failingD (some (.text []))])).result.keys = [] := by
  exact ⟨by decide +kernel, ⟨by decide +kernel, by decide +kernel, rfl⟩, by decide +kernel⟩

end Stdiolink.Server
