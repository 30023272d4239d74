/-
  Stdiolink.Server.DriverScan — the driver directories, `scanner/driver_manager_scanner.cpp`, and
  the two rescans of `server_manager.cpp`.

  A scan goes through the directories under `drivers`, exports and loads the metadata of each and
  yields a catalog.  `rescanDrivers` scans at once; `rescanDriversAsync` scans in the thread pool
  and takes the catalog over when the scan has finished, unless its number is no longer current.

  Main results:
    * `newest_wins_iff` — a scan never replaces the result of one started later, and the last one
      started stays, exactly when every scan that finishes under the current number is the one
      started last;
    * `synchronous_overwritten` — `rescanDrivers` takes no number, so an asynchronous scan that
      was started before it replaces its result.
-/
import Stdiolink.Server.ServiceFiles

namespace Stdiolink.Server

open Stdiolink.Lib
open Stdiolink.Protocol
open Stdiolink.Meta

/-! ## §1. The directories -/

/-- `driver.meta.json` in a driver's directory. -/
inductive MetaFile where
  | missing
  | unreadable
  | text (data : List UInt8)

/-- One run of a driver's executable with `--export-meta`: how it ends, and what it leaves in the
meta file, if it touches the file at all. -/
structure ExportRun where
  finished : Bool := true
  normalExit : Bool := true
  exitCode : Int := 0
  written : Option MetaFile := none

/-- A directory under `drivers`: its executable files in the order of `entryList`, what its
executable does, and whether the directory can be renamed to `.failed`. -/
structure DriverDir where
  name : String
  metaFile : MetaFile := .missing
  files : List String := []
  run : ExportRun := {}
  failedExists : Bool := false
  renames : Bool := true

/-- `DriverConfig`. -/
structure DriverConfig where
  id : String := ""
  program : String := ""
  args : List String := []
  driverMeta : DriverMeta := {}
  metaHash : String := ""

/-- The drivers of a `DriverCatalog`, one for each id. -/
abbrev DriverCatalog := SortedMap String DriverConfig

/-- `DriverManagerScanner::ScanStats`. -/
structure ScanStats where
  scanned : Nat := 0
  updated : Nat := 0
  newlyFailed : Nat := 0
  skippedFailed : Nat := 0

/-- `PlatformUtils::isDriverExecutableName`. -/
def isDriverExecutableName (baseName : String) : Bool :=
  "stdio.drv.".toList.isPrefixOf baseName.toList

def isFailedDir (dirName : String) : Bool := ".failed".toList.isSuffixOf dirName.toList

/-- `DriverManagerScanner::markFailed`. -/
def markFailed (dir : DriverDir) : DriverDir × Bool :=
  if isFailedDir dir.name then (dir, true)
  else if dir.failedExists then (dir, false)
  else if dir.renames then ({ dir with name := dir.name ++ ".failed" }, true)
  else (dir, false)

/-- `DriverManagerScanner::findDriverExecutable`. -/
def findDriverExecutable (driversDir : String) (dir : DriverDir) : String :=
  match dir.files.find? isDriverExecutableName with
  | some file => driversDir ++ "/" ++ dir.name ++ "/" ++ file
  | none => ""

section Scan

variable (qt : JsonText) (computeMetaHash : List UInt8 → String)

/-- `DriverManagerScanner::loadMetaFile`. -/
def loadMetaFile (driversDir : String) (dir : DriverDir) : Option DriverConfig :=
  match dir.metaFile with
  | .text data =>
    match qt.fromJson data with
    | .ok (.obj obj) =>
      let driverMeta := DriverMeta.fromJson obj
      if driverMeta.info.id.isEmpty then none
      else some {
        id := driverMeta.info.id
        driverMeta := driverMeta
        metaHash := computeMetaHash data
        program := findDriverExecutable driversDir dir }
    | _ => none
  | _ => none

/-- `DriverManagerScanner::tryExportMeta`. -/
def tryExportMeta (dir : DriverDir) : DriverDir × Bool :=
  -- the executable writes the file in place, whatever becomes of it afterwards
  let dir := { dir with metaFile := dir.run.written.getD dir.metaFile }
  if !dir.run.finished then (dir, false)
  else if !dir.run.normalExit || dir.run.exitCode ≠ 0 then (dir, false)
  else
    match dir.metaFile with
    | .text data =>
      match qt.fromJson data with
      | .ok (.obj _) => (dir, true)
      | _ => (dir, false)
    | _ => (dir, false)

/-- What a scan has found so far, and the directories as it leaves them. -/
structure Scanned where
  result : DriverCatalog := SortedMap.empty
  stats : ScanStats := {}
  dirs : List DriverDir := []

/-- The last part of the loop of `scan`: the metadata is loaded. -/
def scanLoaded (driversDir : String) (dir : DriverDir) (s : Scanned) : Scanned :=
  let s := { s with dirs := s.dirs ++ [dir] }
  match loadMetaFile qt computeMetaHash driversDir dir with
  | none => s
  | some config =>
    if config.program.isEmpty then s
    else { s with
      result := s.result.insert config.id config
      stats := { s.stats with updated := s.stats.updated + 1 } }

/-- A directory without metadata whose export failed. -/
def scanFailed (dir : DriverDir) (s : Scanned) : Scanned :=
  let (dir, marked) := markFailed dir
  let s := { s with dirs := s.dirs ++ [dir] }
  if marked then { s with stats := { s.stats with newlyFailed := s.stats.newlyFailed + 1 } } else s

/-- One pass of the loop of `scan`. -/
def scanDir (driversDir : String) (refreshMeta : Bool) (s : Scanned) (dir : DriverDir) : Scanned :=
  if isFailedDir dir.name then
    { s with
      stats := { s.stats with skippedFailed := s.stats.skippedFailed + 1 }
      dirs := s.dirs ++ [dir] }
  else
    let s := { s with stats := { s.stats with scanned := s.stats.scanned + 1 } }
    let executable := findDriverExecutable driversDir dir
    match dir.metaFile with
    | .missing =>
      if executable.isEmpty then scanFailed dir s
      else
        let (dir, exported) := tryExportMeta qt dir
        if exported then scanLoaded qt computeMetaHash driversDir dir s else scanFailed dir s
    | _ =>
      if refreshMeta && !executable.isEmpty then
        -- a failed refresh is only logged
        scanLoaded qt computeMetaHash driversDir (tryExportMeta qt dir).1 s
      else scanLoaded qt computeMetaHash driversDir dir s

/-- `DriverManagerScanner::scan`; `none` where the directory is not there. -/
def scanDrivers (driversDir : String) (refreshMeta : Bool) (found : Option (List DriverDir)) :
    Scanned :=
  match found with
  | none => {}
  | some dirs => dirs.foldl (scanDir qt computeMetaHash driversDir refreshMeta) {}

end Scan

/-! ## §2. The rescans -/

/-- A scan in the thread pool.  Scans are counted in the order in which they are started;
`scanSeq` is the number that the server gave it. -/
structure RunningScan where
  scan : Nat
  scanSeq : UInt64
  refreshMeta : Bool

/-- What `ServerManager` keeps of the drivers, and the scans that have not finished. -/
structure DriverRescans where
  dataRoot : String
  latestDriverScanSeq : UInt64 := 0
  driverCatalog : DriverCatalog := SortedMap.empty
  started : Nat := 0
  running : List RunningScan := []

inductive ScanEvent where
  | finished (scan : Nat) (result : DriverCatalog) (stats : ScanStats)
  /-- The catalog is replaced by the result of the scan. -/
  | replaced (scan : Nat)

/-- The calls, and the scans of the thread pool finishing in any order, each with the directories
as it found them. -/
inductive ScanInput where
  | rescanDrivers (refreshMeta : Bool) (found : Option (List DriverDir))
  | rescanDriversAsync (refreshMeta present : Bool)
  | finish (k : Nat) (found : Option (List DriverDir))

namespace DriverRescans

section Step

variable (qt : JsonText) (computeMetaHash : List UInt8 → String)

def driversDir (s : DriverRescans) : String := s.dataRoot ++ "/drivers"

/-- `ServerManager::rescanDrivers`. -/
def rescanDrivers (refreshMeta : Bool) (found : Option (List DriverDir)) (s : DriverRescans) :
    DriverRescans × List ScanEvent :=
  let n := s.started
  let s := { s with started := n + 1 }
  match found with
  | none =>
    ({ s with driverCatalog := SortedMap.empty },
      [.finished n SortedMap.empty {}, .replaced n])
  | some dirs =>
    let drivers := scanDrivers qt computeMetaHash s.driversDir refreshMeta (some dirs)
    ({ s with driverCatalog := drivers.result },
      [.finished n drivers.result drivers.stats, .replaced n])

/-- `ServerManager::rescanDriversAsync`, up to the start of the scan. -/
def rescanDriversAsync (refreshMeta present : Bool) (s : DriverRescans) :
    DriverRescans × List ScanEvent :=
  let n := s.started
  let scanSeq := s.latestDriverScanSeq + 1
  let s := { s with started := n + 1, latestDriverScanSeq := scanSeq }
  if present then
    ({ s with running := s.running ++ [⟨n, scanSeq, refreshMeta⟩] }, [])
  else if scanSeq = s.latestDriverScanSeq then
    ({ s with driverCatalog := SortedMap.empty },
      [.finished n SortedMap.empty {}, .replaced n])
  else (s, [.finished n SortedMap.empty {}])

/-- The continuation of `rescanDriversAsync`. -/
def applyScan (r : RunningScan) (result : DriverCatalog) (stats : ScanStats) (s : DriverRescans) :
    DriverRescans × List ScanEvent :=
  if r.scanSeq = s.latestDriverScanSeq then
    ({ s with driverCatalog := result }, [.finished r.scan result stats, .replaced r.scan])
  else (s, [.finished r.scan result stats])

/-- A scan of the thread pool finishes. -/
def finishScan (k : Nat) (found : Option (List DriverDir)) (s : DriverRescans) :
    DriverRescans × List ScanEvent :=
  match s.running[k]? with
  | none => (s, [])
  | some r =>
    let drivers := scanDrivers qt computeMetaHash s.driversDir r.refreshMeta found
    applyScan r drivers.result drivers.stats { s with running := s.running.eraseIdx k }

def step (s : DriverRescans) (i : ScanInput) : DriverRescans × List ScanEvent :=
  match i with
  | .rescanDrivers refreshMeta found => rescanDrivers qt computeMetaHash refreshMeta found s
  | .rescanDriversAsync refreshMeta present => rescanDriversAsync refreshMeta present s
  | .finish k found => finishScan qt computeMetaHash k found s

end Step

end DriverRescans

/-- The server as a machine of driver rescans. -/
def rescanMachine (qt : JsonText) (computeMetaHash : List UInt8 → String) :
    Machine DriverRescans ScanInput ScanEvent where
  step := DriverRescans.step qt computeMetaHash

/-! ## §3. The newest scan -/

/-- The scans whose results became the catalog, in order. -/
def replacements (events : List ScanEvent) : List Nat :=
  events.filterMap fun
    | .replaced scan => some scan
    | .finished _ _ _ => none

/-- The results of the `n`-th scan. -/
def resultsOf (n : Nat) (events : List ScanEvent) : List DriverCatalog :=
  events.filterMap fun
    | .finished scan result _ => if scan = n then some result else none
    | .replaced _ => none

/-- The newest scan wins: the catalog is replaced by the results of later and later scans only,
and when no scan is unfinished it is the result of the scan that was started last. -/
structure NewestWins (c : Machine.Config DriverRescans ScanEvent) : Prop where
  ordered : (replacements c.history).Pairwise (· < ·)
  last : c.state.running = [] → 0 < c.state.started →
    resultsOf (c.state.started - 1) c.history = [c.state.driverCatalog]

/-- A scan that finishes under the current number is the one that was started last. -/
def Newest (c : Machine.Config DriverRescans ScanEvent) : ScanInput → Prop
  | .finish k _ =>
    ∀ r, c.state.running[k]? = some r → r.scanSeq = c.state.latestDriverScanSeq →
      r.scan + 1 = c.state.started
  | _ => True

def ScanInput.isAsync : ScanInput → Bool
  | .rescanDriversAsync _ _ => true
  | _ => false

/-- How many numbers the calls take. -/
def asyncCalls (is : List ScanInput) : Nat := is.countP ScanInput.isAsync

variable (n scan : Nat) (l : List ScanEvent)

@[simp] theorem replacements_append (l' : List ScanEvent) :
    replacements (l ++ l') = replacements l ++ replacements l' := List.filterMap_append

@[simp] theorem resultsOf_append (l' : List ScanEvent) :
    resultsOf n (l ++ l') = resultsOf n l ++ resultsOf n l' := List.filterMap_append

@[simp] theorem replacements_finished (result : DriverCatalog) (stats : ScanStats)
    (l : List ScanEvent) : replacements (.finished scan result stats :: l) = replacements l := rfl

@[simp] theorem replacements_replaced :
    replacements (.replaced scan :: l) = scan :: replacements l := rfl

@[simp] theorem replacements_nil : replacements [] = [] := rfl

@[simp] theorem resultsOf_nil : resultsOf n [] = [] := rfl

@[simp] theorem resultsOf_replaced : resultsOf n (.replaced scan :: l) = resultsOf n l := rfl

theorem resultsOf_finished (result : DriverCatalog) (stats : ScanStats) (l : List ScanEvent) :
    resultsOf n (.finished scan result stats :: l)
      = if scan = n then result :: resultsOf n l else resultsOf n l := by
  unfold resultsOf
  split <;> simp [*]

/-! ## §4. What a step does -/

/-- What an input can do, the scans seen by their results only. -/
inductive Rescanned (s : DriverRescans) : ScanInput → DriverRescans → List ScanEvent → Prop where
  | idle (k : Nat) (found : Option (List DriverDir)) (hk : s.running[k]? = none) :
      Rescanned s (.finish k found) s []
  | atOnce (i : ScanInput) (scanSeq : UInt64) (result : DriverCatalog) (stats : ScanStats)
      (hseq : scanSeq = s.latestDriverScanSeq ∧ i.isAsync = false ∨
        scanSeq = s.latestDriverScanSeq + 1 ∧ i.isAsync = true) (hnewest : ∀ c, Newest c i) :
      Rescanned s i
        { s with
          started := s.started + 1
          latestDriverScanSeq := scanSeq
          driverCatalog := result }
        [.finished s.started result stats, .replaced s.started]
  | begun (refreshMeta : Bool) :
      Rescanned s (.rescanDriversAsync refreshMeta true)
        { s with
          started := s.started + 1
          latestDriverScanSeq := s.latestDriverScanSeq + 1
          running := s.running ++ [⟨s.started, s.latestDriverScanSeq + 1, refreshMeta⟩] } []
  | applied (k : Nat) (found : Option (List DriverDir)) (r : RunningScan) (result : DriverCatalog)
      (stats : ScanStats) (hk : s.running[k]? = some r)
      (hseq : r.scanSeq = s.latestDriverScanSeq) :
      Rescanned s (.finish k found)
        { s with running := s.running.eraseIdx k, driverCatalog := result }
        [.finished r.scan result stats, .replaced r.scan]
  | dropped (k : Nat) (found : Option (List DriverDir)) (r : RunningScan) (result : DriverCatalog)
      (stats : ScanStats) (hk : s.running[k]? = some r)
      (hseq : r.scanSeq ≠ s.latestDriverScanSeq) :
      Rescanned s (.finish k found) { s with running := s.running.eraseIdx k }
        [.finished r.scan result stats]

section Step

variable {qt : JsonText} {computeMetaHash : List UInt8 → String}

theorem rescanned (s : DriverRescans) (i : ScanInput) :
    Rescanned s i (DriverRescans.step qt computeMetaHash s i).1
      (DriverRescans.step qt computeMetaHash s i).2 := by
  cases i with
  | rescanDrivers refreshMeta found =>
    cases found with
    | none => exact .atOnce _ _ _ _ (.inl ⟨rfl, rfl⟩) fun _ => trivial
    | some dirs => exact .atOnce _ _ _ _ (.inl ⟨rfl, rfl⟩) fun _ => trivial
  | rescanDriversAsync refreshMeta present =>
    cases present with
    | true => exact .begun refreshMeta
    | false =>
      -- the number taken a line earlier is still the latest one
      have hstep : DriverRescans.rescanDriversAsync refreshMeta false s =
          ({ s with
              started := s.started + 1
              latestDriverScanSeq := s.latestDriverScanSeq + 1
              driverCatalog := SortedMap.empty },
            [.finished s.started SortedMap.empty {}, .replaced s.started]) := by
        simp [DriverRescans.rescanDriversAsync]
      show Rescanned s _ (DriverRescans.rescanDriversAsync refreshMeta false s).1
        (DriverRescans.rescanDriversAsync refreshMeta false s).2
      rw [hstep]
      exact .atOnce _ _ _ _ (.inr ⟨rfl, rfl⟩) fun _ => trivial
  | finish k found =>
    show Rescanned s _ (DriverRescans.finishScan qt computeMetaHash k found s).1
      (DriverRescans.finishScan qt computeMetaHash k found s).2
    unfold DriverRescans.finishScan
    cases hk : s.running[k]? with
    | none => exact .idle k found hk
    | some r =>
      show Rescanned s _ (DriverRescans.applyScan _ _ _ _).1 (DriverRescans.applyScan _ _ _ _).2
      unfold DriverRescans.applyScan
      by_cases hseq : r.scanSeq = s.latestDriverScanSeq
      · simp only [hseq, if_true]
        exact .applied k found r _ _ hk hseq
      · simp only [hseq, if_false]
        exact .dropped k found r _ _ hk hseq

end Step

/-! ## §5. Scans and their results -/

/-- What holds in every run: a scan has one result, once it has finished. -/
structure Tracked (s : DriverRescans) (events : List ScanEvent) : Prop where
  running_lt : ∀ r ∈ s.running, r.scan < s.started
  unfinished : ∀ r ∈ s.running, resultsOf r.scan events = []
  apart : (s.running.map RunningScan.scan).Nodup
  unstarted : ∀ n, s.started ≤ n → resultsOf n events = []
  replaced : ∀ n ∈ replacements events, resultsOf n events ≠ []

namespace Tracked

variable {s s' : DriverRescans} {events new : List ScanEvent} {i : ScanInput}

/-- Only scans that were started replace the catalog. -/
theorem replaced_lt (h : Tracked s events) {n : Nat} (hn : n ∈ replacements events) :
    n < s.started := by
  by_contra hge
  exact h.replaced n hn (h.unstarted n (by omega))

/-- Another unfinished scan is another scan. -/
theorem scan_ne (h : Tracked s events) {k : Nat} {r r' : RunningScan}
    (hk : s.running[k]? = some r) (hr' : r' ∈ s.running.eraseIdx k) : r'.scan ≠ r.scan := by
  obtain ⟨j, hj, hget⟩ := List.mem_eraseIdx_iff_getElem?.mp hr'
  intro heq
  have hlen : j < (s.running.map RunningScan.scan).length := by
    rw [List.length_map]
    exact (List.getElem?_eq_some_iff.mp hget).choose
  -- the two places hold the same scan, and no scan is listed twice
  have hsame : (s.running.map RunningScan.scan)[j]? = (s.running.map RunningScan.scan)[k]? := by
    rw [List.getElem?_map, List.getElem?_map, hget, hk, Option.map_some, Option.map_some, heq]
  exact hj ((List.getElem?_inj hlen h.apart).mp hsame)

/-- What a finished scan adds to the results. -/
theorem finish (h : Tracked s events) {k : Nat} {r : RunningScan}
    (hk : s.running[k]? = some r) {result : DriverCatalog} {stats : ScanStats}
    (catalog : DriverCatalog) (rest : List ScanEvent) (hrest : ∀ n, resultsOf n rest = [])
    (hreplaced : ∀ n ∈ replacements rest, n = r.scan) :
    Tracked { s with running := s.running.eraseIdx k, driverCatalog := catalog }
      (events ++ .finished r.scan result stats :: rest) := by
  have hr : r ∈ s.running := List.mem_of_getElem? hk
  constructor
  · intro r' hr'
    exact h.running_lt r' (List.mem_of_mem_eraseIdx hr')
  · intro r' hr'
    have hne := h.scan_ne hk hr'
    rw [resultsOf_append, h.unfinished r' (List.mem_of_mem_eraseIdx hr'), resultsOf_finished,
      if_neg (Ne.symm hne), hrest]
    rfl
  · exact h.apart.sublist ((List.eraseIdx_sublist _ _).map _)
  · intro n hn
    have hlt := h.running_lt r hr
    have hn : s.started ≤ n := hn
    rw [resultsOf_append, h.unstarted n hn, resultsOf_finished, if_neg (by omega), hrest]
    rfl
  · intro n hn
    rw [replacements_append, replacements_finished, List.mem_append] at hn
    rw [resultsOf_append, resultsOf_finished]
    obtain hn | hn := hn
    · have := h.replaced n hn
      simp [this]
    · rw [if_pos (hreplaced n hn).symm]
      simp

/-- A step keeps the results in order. -/
theorem step (h : Tracked s events) (hs : Rescanned s i s' new) : Tracked s' (events ++ new) := by
  cases hs with
  | idle k found hk => rwa [List.append_nil]
  | atOnce _ scanSeq result stats hseq hnewest =>
    constructor
    · intro r hr
      have := h.running_lt r hr
      show r.scan < s.started + 1
      omega
    · intro r hr
      have := h.running_lt r hr
      rw [resultsOf_append, h.unfinished r hr, resultsOf_finished, if_neg (by omega)]
      rfl
    · exact h.apart
    · intro n hn
      have hn : s.started + 1 ≤ n := hn
      rw [resultsOf_append, h.unstarted n (by omega), resultsOf_finished, if_neg (by omega)]
      rfl
    · intro n hn
      rw [replacements_append, List.mem_append] at hn
      rw [resultsOf_append, resultsOf_finished]
      obtain hn | hn := hn
      · have := h.replaced n hn
        simp [this]
      · obtain rfl : n = s.started := by simpa using hn
        rw [if_pos rfl]
        simp
  | begun refreshMeta =>
    rw [List.append_nil]
    constructor
    · intro r hr
      obtain hr | hr := List.mem_append.mp hr
      · have := h.running_lt r hr
        show r.scan < s.started + 1
        omega
      · rw [List.mem_singleton.mp hr]
        exact Nat.lt_succ_self _
    · intro r hr
      obtain hr | hr := List.mem_append.mp hr
      · exact h.unfinished r hr
      · rw [List.mem_singleton.mp hr]
        exact h.unstarted _ (Nat.le_refl _)
    · show ((s.running ++ [_]).map RunningScan.scan).Nodup
      rw [List.map_append, List.nodup_append]
      refine ⟨h.apart, List.nodup_singleton _, ?_⟩
      intro n hn m hm
      obtain ⟨r, hr, rfl⟩ := List.mem_map.mp hn
      have hlt := h.running_lt r hr
      have hm : m = s.started := by simpa using hm
      omega
    · intro n hn
      have hn : s.started + 1 ≤ n := hn
      exact h.unstarted n (by omega)
    · exact h.replaced
  | applied k found r result stats hk hseq =>
    exact h.finish hk result [.replaced r.scan] (fun _ => rfl) fun n hn => by
      simpa using hn
  | dropped k found r result stats hk hseq =>
    exact h.finish hk s.driverCatalog [] (fun _ => rfl) fun n hn => by
      cases hn

end Tracked

/-! ## §6. The newest scan wins -/

/-- The scan that was started last is unfinished and has the current number, or its result is the
catalog. -/
structure Latest (s : DriverRescans) (events : List ScanEvent) : Prop where
  tracked : Tracked s events
  ordered : (replacements events).Pairwise (· < ·)
  last : 0 < s.started →
    (∃ r ∈ s.running, r.scan + 1 = s.started ∧ r.scanSeq = s.latestDriverScanSeq) ∨
      resultsOf (s.started - 1) events = [s.driverCatalog]

namespace Latest

variable {s s' : DriverRescans} {events new : List ScanEvent} {i : ScanInput}

theorem newestWins {c : Machine.Config DriverRescans ScanEvent} (h : Latest c.state c.history) :
    NewestWins c := by
  constructor
  · exact h.ordered
  · intro hidle hstarted
    obtain ⟨r, hr, -⟩ | hlast := h.last hstarted
    · rw [hidle] at hr
      cases hr
    · exact hlast

/-- A replacement by a scan newer than all before it. -/
theorem ordered_append (h : Latest s events) {n : Nat}
    (hn : ∀ m ∈ replacements events, m < n) :
    (replacements events ++ [n]).Pairwise (· < ·) := by
  rw [List.pairwise_append]
  refine ⟨h.ordered, List.pairwise_singleton _ _, ?_⟩
  intro m hm k hk
  rw [List.mem_singleton.mp hk]
  exact hn m hm

/-- A finishing scan under the current number was started last, so it replaces an older
result. -/
theorem replaced_lt (h : Latest s events) {r : RunningScan} (hr : r ∈ s.running)
    (hnewest : r.scan + 1 = s.started) : ∀ m ∈ replacements events, m < r.scan := by
  intro m hm
  have hlt := h.tracked.replaced_lt hm
  have hne : m ≠ r.scan := by
    intro heq
    apply h.tracked.replaced m hm
    rw [heq]
    exact h.tracked.unfinished r hr
  omega

/-- **One step.** -/
theorem step (h : Latest s events) (hs : Rescanned s i s' new)
    (hnewest : Newest ⟨s, events⟩ i) : Latest s' (events ++ new) := by
  have htracked := h.tracked.step hs
  cases hs with
  | idle k found hk => rwa [List.append_nil]
  | atOnce _ scanSeq result stats hseq _ =>
    refine ⟨htracked, ?_, fun _ => .inr ?_⟩
    · rw [replacements_append]
      exact h.ordered_append fun m hm => h.tracked.replaced_lt hm
    · show resultsOf s.started _ = [result]
      rw [resultsOf_append, h.tracked.unstarted _ (Nat.le_refl _), resultsOf_finished, if_pos rfl]
      rfl
  | begun refreshMeta =>
    refine ⟨htracked, ?_, fun _ => .inl ?_⟩
    · rw [List.append_nil]
      exact h.ordered
    · exact ⟨⟨s.started, s.latestDriverScanSeq + 1, refreshMeta⟩,
        List.mem_append_right _ (List.mem_singleton_self _), rfl, rfl⟩
  | applied k found r result stats hk hseq =>
    have hr : r ∈ s.running := List.mem_of_getElem? hk
    have hscan : r.scan + 1 = s.started := hnewest r hk hseq
    refine ⟨htracked, ?_, fun _ => .inr ?_⟩
    · rw [replacements_append]
      exact h.ordered_append (h.replaced_lt hr hscan)
    · show resultsOf (s.started - 1) _ = [result]
      have hlast : s.started - 1 = r.scan := by omega
      rw [hlast, resultsOf_append, h.tracked.unfinished r hr, resultsOf_finished, if_pos rfl]
      rfl
  | dropped k found r result stats hk hseq =>
    have hr : r ∈ s.running := List.mem_of_getElem? hk
    refine ⟨htracked, ?_, fun hstarted => ?_⟩
    · rw [replacements_append]
      simpa using h.ordered
    · obtain ⟨r', hr', hscan, hcur⟩ | hlast := h.last hstarted
      · -- the last scan has the current number, so it is not the one that finished
        refine .inl ⟨r', ?_, hscan, hcur⟩
        obtain ⟨j, hj⟩ := List.mem_iff_getElem?.mp hr'
        refine List.mem_eraseIdx_iff_getElem?.mpr ⟨j, ?_, hj⟩
        rintro rfl
        rw [hk] at hj
        rw [Option.some.inj hj] at hseq
        exact hseq hcur
      · refine .inr ?_
        show resultsOf (s.started - 1) _ = [s.driverCatalog]
        have hne : r.scan ≠ s.started - 1 := by
          intro heq
          have := h.tracked.unfinished r hr
          rw [heq, hlast] at this
          cases this
        rw [resultsOf_append, hlast, resultsOf_finished, if_neg hne]
        rfl

end Latest

/-- While the numbers do not come round: a scan whose number is current is followed only by scans
that have replaced the catalog. -/
structure Numbered (s : DriverRescans) (events : List ScanEvent) : Prop where
  le : ∀ r ∈ s.running, r.scanSeq ≤ s.latestDriverScanSeq
  later : ∀ r ∈ s.running, r.scanSeq = s.latestDriverScanSeq →
    ∀ n, r.scan < n → n < s.started → n ∈ replacements events

theorem toNat_next {n : UInt64} (h : n.toNat + 1 < 2 ^ 64) : (n + 1).toNat = n.toNat + 1 := by
  rw [UInt64.toNat_add]
  exact Nat.mod_eq_of_lt h

namespace Numbered

variable {s s' : DriverRescans} {events new : List ScanEvent} {i : ScanInput}

/-- The next number is larger than all that were given out. -/
theorem ne_next (h : Numbered s events) (hroom : s.latestDriverScanSeq.toNat + 1 < 2 ^ 64)
    {r : RunningScan} (hr : r ∈ s.running) :
    r.scanSeq ≤ s.latestDriverScanSeq + 1 ∧ r.scanSeq ≠ s.latestDriverScanSeq + 1 := by
  have hle := UInt64.le_iff_toNat_le.mp (h.le r hr)
  have hnext := toNat_next hroom
  constructor
  · rw [UInt64.le_iff_toNat_le, hnext]
    omega
  · intro heq
    rw [heq, hnext] at hle
    omega

/-- **One step**, while there is a number left. -/
theorem step (h : Numbered s events) (hs : Rescanned s i s' new)
    (hroom : s.latestDriverScanSeq.toNat + asyncCalls [i] < 2 ^ 64) :
    Numbered s' (events ++ new) ∧
      s'.latestDriverScanSeq.toNat = s.latestDriverScanSeq.toNat + asyncCalls [i] := by
  cases hs with
  | idle k found hk =>
    rw [List.append_nil]
    exact ⟨h, rfl⟩
  | atOnce _ scanSeq result stats hseq _ =>
    obtain ⟨rfl, hi⟩ | ⟨rfl, hi⟩ := hseq
    · have hcalls : asyncCalls [i] = 0 := by simp [asyncCalls, hi]
      refine ⟨⟨h.le, ?_⟩, by rw [hcalls]; rfl⟩
      intro r hr hcur n hlt hn
      rw [replacements_append, List.mem_append]
      have hn : n < s.started + 1 := hn
      by_cases heq : n = s.started
      · right
        simp [heq]
      · left
        exact h.later r hr hcur n hlt (by omega)
    · have hcalls : asyncCalls [i] = 1 := by simp [asyncCalls, hi]
      rw [hcalls] at hroom ⊢
      refine ⟨⟨fun r hr => (h.ne_next hroom hr).1, ?_⟩, toNat_next hroom⟩
      intro r hr hcur
      exact absurd hcur (h.ne_next hroom hr).2
  | begun refreshMeta =>
    have hroom : s.latestDriverScanSeq.toNat + 1 < 2 ^ 64 := hroom
    refine ⟨⟨?_, ?_⟩, toNat_next hroom⟩
    · intro r hr
      obtain hr | hr := List.mem_append.mp hr
      · exact (h.ne_next hroom hr).1
      · rw [List.mem_singleton.mp hr]
        exact UInt64.le_refl _
    · intro r hr hcur n hlt hn
      obtain hr | hr := List.mem_append.mp hr
      · exact absurd hcur (h.ne_next hroom hr).2
      · rw [List.mem_singleton.mp hr] at hlt
        have hlt : s.started < n := hlt
        have hn : n < s.started + 1 := hn
        omega
  | applied k found r result stats hk hseq
  | dropped k found r result stats hk hseq =>
    refine ⟨⟨fun r' hr' => h.le r' (List.mem_of_mem_eraseIdx hr'), ?_⟩, rfl⟩
    intro r' hr' hcur n hlt hn
    rw [replacements_append]
    exact List.mem_append_left _ (h.later r' (List.mem_of_mem_eraseIdx hr') hcur n hlt hn)

end Numbered

/-- A scan that finishes under the current number although another was started after it replaces
the result of that one. -/
theorem newest_of_ordered {s s' : DriverRescans} {events new : List ScanEvent} {i : ScanInput}
    (h : Tracked s events) (hnum : Numbered s events) (hs : Rescanned s i s' new)
    (hord : (replacements (events ++ new)).Pairwise (· < ·)) : Newest ⟨s, events⟩ i := by
  cases hs with
  | idle k found hk =>
    intro r hr
    rw [show s.running[k]? = some r from hr] at hk
    cases hk
  | atOnce _ scanSeq result stats hseq hnewest => exact hnewest _
  | begun refreshMeta => exact trivial
  | applied k found r result stats hk hseq =>
    intro r' hr' hcur
    have heq : r = r' := Option.some.inj (hk.symm.trans hr')
    subst heq
    show r.scan + 1 = s.started
    have hr : r ∈ s.running := List.mem_of_getElem? hk
    have hlt := h.running_lt r hr
    by_contra hne
    -- the scan after this one has been taken over already
    have hmem := hnum.later r hr hseq (r.scan + 1) (Nat.lt_succ_self _) (by omega)
    rw [replacements_append, List.pairwise_append] at hord
    have := hord.2.2 _ hmem r.scan (by simp)
    omega
  | dropped k found r result stats hk hseq =>
    intro r' hr' hcur
    have heq : r = r' := Option.some.inj (hk.symm.trans hr')
    subst heq
    exact absurd hcur hseq

section Run

variable {qt : JsonText} {computeMetaHash : List UInt8 → String}

/-- The server after `initialize`: a first scan is done, none is unfinished. -/
def DriverRescans.initialized (dataRoot : String) (catalog : DriverCatalog) : DriverRescans where
  dataRoot := dataRoot
  driverCatalog := catalog

theorem latest_initialized (dataRoot : String) (catalog : DriverCatalog) :
    Latest (.initialized dataRoot catalog) [] where
  tracked := {
    running_lt := by intro r hr; cases hr
    unfinished := by intro r hr; cases hr
    apart := List.nodup_nil
    unstarted := by intro n _; rfl
    replaced := by intro n hn; cases hn }
  ordered := List.Pairwise.nil
  last := by intro h; cases h

theorem numbered_initialized (dataRoot : String) (catalog : DriverCatalog) :
    Numbered (.initialized dataRoot catalog) [] where
  le := by intro r hr; cases hr
  later := by intro r hr; cases hr

/-- The run in which each result is taken over in its turn meets the condition at every step. -/
theorem everyStep_newest {c : Machine.Config DriverRescans ScanEvent} {is : List ScanInput}
    (h : Tracked c.state c.history) (hnum : Numbered c.state c.history)
    (hroom : c.state.latestDriverScanSeq.toNat + asyncCalls is < 2 ^ 64)
    (hrun : (rescanMachine qt computeMetaHash).EveryState NewestWins c is) :
    (rescanMachine qt computeMetaHash).EveryStep Newest c is := by
  induction is generalizing c with
  | nil => exact trivial
  | cons i is ih =>
    have hs : Rescanned c.state i (DriverRescans.step qt computeMetaHash c.state i).1
        (DriverRescans.step qt computeMetaHash c.state i).2 := rescanned c.state i
    have hcalls : asyncCalls (i :: is) = asyncCalls [i] + asyncCalls is := by
      unfold asyncCalls
      rw [← List.countP_append]
      rfl
    have hnext := hnum.step hs (by omega)
    have hwins : NewestWins ((rescanMachine qt computeMetaHash).next c i) := by
      cases is with
      | nil => exact hrun.2
      | cons j js => exact hrun.2.1
    refine ⟨newest_of_ordered h hnum hs hwins.ordered, ih (h.step hs) hnext.1 ?_ hrun.2⟩
    have hlatest := hnext.2
    show (DriverRescans.step qt computeMetaHash c.state i).1.latestDriverScanSeq.toNat + _ < _
    omega

/-- **The newest driver rescan wins** in every run in which each scan that finishes under the
current number is the one started last; and as long as the numbers do not come round, in no
other. -/
theorem newest_wins_iff (qt : JsonText) (computeMetaHash : List UInt8 → String) (dataRoot : String)
    (catalog : DriverCatalog) (inputs : List ScanInput) :
    ((rescanMachine qt computeMetaHash).EveryStep Newest
        (Machine.start (.initialized dataRoot catalog)) inputs →
      (rescanMachine qt computeMetaHash).EveryState NewestWins
        (Machine.start (.initialized dataRoot catalog)) inputs) ∧
    (asyncCalls inputs < 2 ^ 64 →
      ((rescanMachine qt computeMetaHash).EveryState NewestWins
          (Machine.start (.initialized dataRoot catalog)) inputs ↔
        (rescanMachine qt computeMetaHash).EveryStep Newest
          (Machine.start (.initialized dataRoot catalog)) inputs)) := by
  have hwins : (rescanMachine qt computeMetaHash).EveryStep Newest
        (Machine.start (.initialized dataRoot catalog)) inputs →
      (rescanMachine qt computeMetaHash).EveryState NewestWins
        (Machine.start (.initialized dataRoot catalog)) inputs := by
    intro hnewest
    apply Machine.everyState_of_invariant (fun c => Latest c.state c.history) _
      (fun c h => h.newestWins) (latest_initialized dataRoot catalog) hnewest
    intro c i h hc
    exact h.step (rescanned c.state i) hc
  refine ⟨hwins, fun hroom => ⟨fun hrun => ?_, hwins⟩⟩
  apply everyStep_newest (latest_initialized dataRoot catalog).tracked
    (numbered_initialized dataRoot catalog) _ hrun
  show (0 : UInt64).toNat + asyncCalls inputs < 2 ^ 64
  rw [UInt64.toNat_zero]
  omega

end Run

/-- `QJsonDocument` on the metadata of the driver `d`. -/
def driverText : JsonText where
  fromJson _ := .ok (.obj [("info", .obj [("id", .str "d")])])
  toJson _ := ""

/-- The directory of the driver `d`. -/
def driverD : DriverDir where
  name := "d"
  metaFile := .text []
  files := ["stdio.drv.d"]

/-- An asynchronous scan is started, `rescanDrivers` finds the driver `d`, and then the first scan
finishes, which has read the directory before `d` was put there. -/
def overtakenRun : Machine.Config DriverRescans ScanEvent :=
  (rescanMachine driverText fun _ => "").run (Machine.start (.initialized "" SortedMap.empty))
    [.rescanDriversAsync false true, .rescanDrivers false (some [driverD]), .finish 0 (some [])]

/-- **`rescanDrivers` takes no number.**  The earlier scan replaces the result of the later one,
and the driver is gone. -/
theorem synchronous_overwritten :
    replacements overtakenRun.history = [1, 0] ∧
      (resultsOf 1 overtakenRun.history).map SortedMap.keys = [["d"]] ∧
      overtakenRun.state.running.length = 0 ∧ overtakenRun.state.started = 2 ∧
      overtakenRun.state.driverCatalog.keys = [] ∧
      ¬ NewestWins overtakenRun := by
  have hkeys : replacements overtakenRun.history = [1, 0] := by decide +kernel
  refine ⟨hkeys, by decide +kernel, by decide +kernel, by decide +kernel, by decide +kernel, ?_⟩
  intro h
  have := h.ordered
  rw [hkeys] at this
  revert this
  decide

/-- Two asynchronous scans that finish in the other order: the first one is dropped. -/
theorem newest_wins_overlapping :
    (rescanMachine driverText fun _ => "").EveryState NewestWins
      (Machine.start (.initialized "" SortedMap.empty))
      [.rescanDriversAsync true true, .rescanDriversAsync true true, .finish 1 (some [driverD]),
        .finish 0 (some [])] := by
  apply (newest_wins_iff driverText (fun _ => "") "" SortedMap.empty _).1
  refine ⟨trivial, trivial, ?_, ?_, trivial⟩
  · intro r hr hcur
    obtain rfl := Option.some.inj hr
    rfl
  · intro r hr hcur
    obtain rfl := Option.some.inj hr
    exact absurd hcur (by decide)

end Stdiolink.Server
