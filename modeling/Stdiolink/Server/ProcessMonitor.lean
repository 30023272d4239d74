/-
  Stdiolink.Server.ProcessMonitor — process trees and process families,
  `manager/process_monitor.cpp` and `model/process_info.h`.

  A query walks the child processes of a root, reads each process it meets and turns its processor
  time into a percentage, with the sample that an earlier query left.  The system is a table of
  child processes, which need not be a tree, and what it says about each process.

  Main results:
    * `buildTree_eq`, `collectFamily_eq` — both traversals are one depth-first search, with the
      processes read in the order in which it meets them;
    * `process_queries_exact` — both queries end and report the root and what is below it, each
      process once, and both summaries are the sums over these.
-/
import Stdiolink.Lib.DepthFirst
import Stdiolink.Lib.SortedMap
import Mathlib.Algebra.BigOperators.Group.Finset.Basic
import Mathlib.Algebra.Ring.Int.Defs
import Mathlib.Algebra.Ring.Rat
import Mathlib.Data.Rat.Defs

namespace Stdiolink.Server

open Stdiolink.Lib

/-! ## §1. Processes -/

/-- `ProcessInfo`. -/
structure ProcessInfo where
  pid : Int := 0
  parentPid : Int := 0
  name : String := ""
  commandLine : String := ""
  status : String := ""
  startedAt : Option Int := none
  cpuPercent : ℚ := 0
  memoryRssBytes : Int := 0
  memoryVmsBytes : Int := 0
  threadCount : Int := 0
  uptimeSeconds : Int := 0
  ioReadBytes : Int := 0
  ioWriteBytes : Int := 0

/-- `ProcessTreeNode`. -/
inductive ProcessTreeNode where
  | mk (info : ProcessInfo) (children : List ProcessTreeNode)

/-- `ProcessTreeSummary`. -/
structure ProcessTreeSummary where
  totalProcesses : Int := 0
  totalCpuPercent : ℚ := 0
  totalMemoryRssBytes : Int := 0
  totalThreads : Int := 0

/-- The system as a query finds it: the children of the processes that have any, what there is to
read about a process, and the clock, in milliseconds, when the process is sampled. -/
structure ProcessTable where
  children : List (Int × List Int)
  info : Int → ProcessInfo := fun _ => {}
  now : Int → Int := fun _ => 0

namespace ProcessTable

/-- `ProcessMonitor::getChildPids`. -/
def getChildPids (t : ProcessTable) (pid : Int) : List Int := (t.children.lookup pid).getD []

/-- `ProcessMonitor::readProcessInfo`.  `cpuPercent` holds the processor time in milliseconds until
`calculateCpuPercent` has seen it. -/
def readProcessInfo (t : ProcessTable) (pid : Int) : ProcessInfo := { t.info pid with pid := pid }

/-- The process is the root or below it. -/
def Descends (t : ProcessTable) : Int → Int → Prop := DepthFirst.Reaches t.getChildPids

end ProcessTable

/-! ## §2. The monitor -/

/-- `ProcessMonitor::CpuSample`. -/
structure CpuSample where
  cpuTimeMs : Int
  timestamp : Int

structure ProcessMonitor where
  cpuSamples : SortedMap Int CpuSample := SortedMap.empty

/-- `static_cast<qint64>` of a double. -/
def toInt64 (q : ℚ) : Int := q.num.tdiv q.den

/-- What a traversal has so far: the set `visited` in the order of insertion, and, where it collects
a family, its processes. -/
structure Traversal where
  monitor : ProcessMonitor
  visited : List Int
  out : List ProcessInfo := []

namespace ProcessMonitor

/-- The percentage that two samples of a process give. -/
def percentBetween (old new : CpuSample) : ℚ :=
  let cpuDelta := new.cpuTimeMs - old.cpuTimeMs
  let wallDelta := new.timestamp - old.timestamp
  if wallDelta ≤ 0 then 0 else (cpuDelta : ℚ) / (wallDelta : ℚ) * 100

/-- `calculateCpuPercent`. -/
def calculateCpuPercent (now pid currentCpuTimeMs : Int) (m : ProcessMonitor) :
    ℚ × ProcessMonitor :=
  let sample : CpuSample := ⟨currentCpuTimeMs, now⟩
  match m.cpuSamples.find? pid with
  | none => (0, { m with cpuSamples := m.cpuSamples.insert pid sample })
  | some old => (percentBetween old sample, { m with cpuSamples := m.cpuSamples.insert pid sample })

/-- `cleanupSamples`. -/
def cleanupSamples (alivePids : List Int) (m : ProcessMonitor) : ProcessMonitor :=
  { m with cpuSamples := m.cpuSamples.filterKeys fun pid => alivePids.contains pid }

section Queries

variable (t : ProcessTable)

/-- `getProcessInfo`, and the lines of the traversals that do the same. -/
def getProcessInfo (pid : Int) (m : ProcessMonitor) : ProcessInfo × ProcessMonitor :=
  let info := t.readProcessInfo pid
  let cpu := m.calculateCpuPercent (t.now pid) pid (toInt64 info.cpuPercent)
  ({ info with cpuPercent := cpu.1 }, cpu.2)

/-- The loop of `buildTree`. -/
def buildChildren (build : Int → Traversal → Option (ProcessTreeNode × Traversal)) :
    List Int → Traversal → Option (List ProcessTreeNode × Traversal)
  | [], v => some ([], v)
  | childPid :: rest, v =>
    if childPid ∈ v.visited then buildChildren build rest v
    else
      match build childPid v with
      | none => none
      | some (child, v) => (buildChildren build rest v).map fun r => (child :: r.1, r.2)

/-- `buildTree`, so many calls deep. -/
def buildTree : Nat → Int → Traversal → Option (ProcessTreeNode × Traversal)
  | 0, _, _ => none
  | fuel + 1, pid, v =>
    let read := v.monitor.getProcessInfo t pid
    let v := { v with monitor := read.2, visited := v.visited ++ [pid] }
    (buildChildren (buildTree fuel) (t.getChildPids pid) v).map fun r => (.mk read.1 r.1, r.2)

/-- `getProcessTree`. -/
def getProcessTree (fuel : Nat) (rootPid : Int) (m : ProcessMonitor) :
    Option (ProcessTreeNode × ProcessMonitor) :=
  (buildTree t fuel rootPid ⟨m, [], []⟩).map fun r => (r.1, r.2.monitor.cleanupSamples r.2.visited)

/-- The loop of `collectFamily`. -/
def collectChildren (collect : Int → Traversal → Option Traversal) :
    List Int → Traversal → Option Traversal
  | [], v => some v
  | childPid :: rest, v =>
    if childPid ∈ v.visited then collectChildren collect rest v
    else
      let read := v.monitor.getProcessInfo t childPid
      let v := { monitor := read.2, visited := v.visited ++ [childPid], out := v.out ++ [read.1] }
      match collect childPid v with
      | none => none
      | some v => collectChildren collect rest v

/-- `collectFamily`, so many calls deep. -/
def collectFamily : Nat → Int → Traversal → Option Traversal
  | 0, _, _ => none
  | fuel + 1, pid, v => collectChildren t (collectFamily fuel) (t.getChildPids pid) v

/-- `getProcessFamily`. -/
def getProcessFamily (fuel : Nat) (rootPid : Int) (includeChildren : Bool) (m : ProcessMonitor) :
    Option (List ProcessInfo × ProcessMonitor) :=
  let root := m.getProcessInfo t rootPid
  let v : Traversal := ⟨root.2, [rootPid], [root.1]⟩
  (if includeChildren then collectFamily t fuel rootPid v else some v).map fun v =>
    (v.out, v.monitor.cleanupSamples v.visited)

end Queries

end ProcessMonitor

/-! ## §3. Summaries -/

namespace ProcessTreeSummary

/-- What a process uses is added. -/
def addTotals (summary : ProcessTreeSummary) (info : ProcessInfo) : ProcessTreeSummary :=
  { summary with
    totalCpuPercent := summary.totalCpuPercent + info.cpuPercent
    totalMemoryRssBytes := summary.totalMemoryRssBytes + info.memoryRssBytes
    totalThreads := summary.totalThreads + info.threadCount }

/-- The same, with the process counted. -/
def add (summary : ProcessTreeSummary) (info : ProcessInfo) : ProcessTreeSummary :=
  { summary.addTotals info with totalProcesses := summary.totalProcesses + 1 }

end ProcessTreeSummary

namespace ProcessTreeNode

def info : ProcessTreeNode → ProcessInfo
  | mk info _ => info

mutual

/-- How many nodes there are. -/
def size : ProcessTreeNode → Nat
  | mk _ children => sizeAll children + 1

def sizeAll : List ProcessTreeNode → Nat
  | [] => 0
  | node :: rest => size node + sizeAll rest

end

theorem sizeAll_append (nodes rest : List ProcessTreeNode) :
    sizeAll (nodes ++ rest) = sizeAll nodes + sizeAll rest := by
  induction nodes with
  | nil => simp [sizeAll]
  | cons node nodes ih =>
    rw [List.cons_append, sizeAll, sizeAll, ih]
    omega

theorem sizeAll_reverse (nodes : List ProcessTreeNode) : sizeAll nodes.reverse = sizeAll nodes := by
  induction nodes with
  | nil => rfl
  | cons node nodes ih =>
    rw [List.reverse_cons, sizeAll_append, ih]
    simp only [sizeAll]
    omega

end ProcessTreeNode

/-- The loop of `summarize` of a tree; the last child is the first to be taken off the stack. -/
def summarizeStack : List ProcessTreeNode → ProcessTreeSummary → ProcessTreeSummary
  | [], summary => summary
  | .mk info children :: stack, summary =>
    summarizeStack (children.reverse ++ stack) (summary.add info)
termination_by stack => ProcessTreeNode.sizeAll stack
decreasing_by
  simp only [List.unattach_reverse, List.unattach_attach, ProcessTreeNode.sizeAll_append,
    ProcessTreeNode.sizeAll_reverse, ProcessTreeNode.sizeAll, ProcessTreeNode.size]
  omega

/-- `ProcessMonitor::summarize` of a tree. -/
def summarizeTree (tree : ProcessTreeNode) : ProcessTreeSummary := summarizeStack [tree] {}

/-- `ProcessMonitor::summarize` of a list. -/
def summarize (processes : List ProcessInfo) : ProcessTreeSummary :=
  processes.foldl ProcessTreeSummary.addTotals { totalProcesses := processes.length }

/-! ## §4. One search -/

namespace ProcessTreeNode

mutual

/-- The processes of a tree, each before those below it. -/
def infos : ProcessTreeNode → List ProcessInfo
  | mk info children => info :: infosAll children

def infosAll : List ProcessTreeNode → List ProcessInfo
  | [] => []
  | node :: rest => infos node ++ infosAll rest

end

theorem infosAll_append (nodes rest : List ProcessTreeNode) :
    infosAll (nodes ++ rest) = infosAll nodes ++ infosAll rest := by
  induction nodes with
  | nil => rfl
  | cons node nodes ih => rw [List.cons_append, infosAll, infosAll, ih, List.append_assoc]

end ProcessTreeNode

open ProcessTreeNode (infos infosAll)
open ProcessMonitor (buildChildren)

section Search

variable (t : ProcessTable)

/-- The processes read one after another. -/
def readAll : List Int → ProcessMonitor → List ProcessInfo × ProcessMonitor
  | [], m => ([], m)
  | pid :: rest, m =>
    let read := m.getProcessInfo t pid
    let r := readAll rest read.2
    (read.1 :: r.1, r.2)

theorem readAll_append (pids rest : List Int) (m : ProcessMonitor) :
    readAll t (pids ++ rest) m =
      ((readAll t pids m).1 ++ (readAll t rest (readAll t pids m).2).1,
        (readAll t rest (readAll t pids m).2).2) := by
  induction pids generalizing m with
  | nil => rfl
  | cons pid pids ih =>
    show readAll t (pid :: (pids ++ rest)) m = _
    rw [readAll, ih]
    rfl

open DepthFirst RoseTree

mutual

/-- The tree of a search with the processes read as it meets them. -/
def readTree : RoseTree Int → ProcessMonitor → ProcessTreeNode
  | node pid children, m =>
    .mk (m.getProcessInfo t pid).1 (readTrees children (m.getProcessInfo t pid).2)

def readTrees : List (RoseTree Int) → ProcessMonitor → List ProcessTreeNode
  | [], _ => []
  | tree :: rest, m => readTree tree m :: readTrees rest (readAll t tree.preorder m).2

end

mutual

theorem infos_readTree (tree : RoseTree Int) (m : ProcessMonitor) :
    infos (readTree t tree m) = (readAll t tree.preorder m).1 := by
  cases tree with
  | node pid children =>
    rw [readTree, infos, preorder, readAll]
    exact congrArg _ (infosAll_readTrees children _)

theorem infosAll_readTrees (trees : List (RoseTree Int)) (m : ProcessMonitor) :
    infosAll (readTrees t trees m) = (readAll t (preorderAll trees) m).1 := by
  cases trees with
  | nil => rfl
  | cons tree rest =>
    rw [readTrees, infosAll, preorderAll, readAll_append, infos_readTree tree m,
      infosAll_readTrees rest]

end

variable {t}

/-- The loop of `buildTree` is the loop of the search. -/
theorem buildChildren_eq {search : Int → List Int → Option (RoseTree Int × List Int)}
    {build : Int → Traversal → Option (ProcessTreeNode × Traversal)}
    (hbuild : ∀ pid v tree seen, search pid v.visited = some (tree, seen) →
      build pid v =
        some (readTree t tree v.monitor, ⟨(readAll t tree.preorder v.monitor).2, seen, v.out⟩))
    {pids : List Int} {v : Traversal} {trees : List (RoseTree Int)} {seen : List Int}
    (h : searchAll search pids v.visited = some (trees, seen)) :
    buildChildren build pids v =
      some (readTrees t trees v.monitor,
        ⟨(readAll t (preorderAll trees) v.monitor).2, seen, v.out⟩) := by
  induction pids generalizing v trees with
  | nil =>
    obtain ⟨rfl, rfl⟩ := Prod.mk.inj (Option.some.inj h)
    rfl
  | cons pid pids ih =>
    rw [searchAll] at h
    rw [buildChildren]
    by_cases hpid : pid ∈ v.visited
    · rw [if_pos hpid] at h ⊢
      exact ih h
    · rw [if_neg hpid] at h ⊢
      cases hone : search pid v.visited with
      | none => simp [hone] at h
      | some one =>
        obtain ⟨tree, mid⟩ := one
        simp only [hone, Option.map_eq_some_iff, Prod.mk.injEq, Prod.exists] at h
        obtain ⟨rest, last, hrest, rfl, rfl⟩ := h
        have hnodes := ih (v := ⟨(readAll t tree.preorder v.monitor).2, mid, v.out⟩) hrest
        simp only [hbuild pid v tree mid hone, hnodes, Option.map_some, readTrees, preorderAll,
          readAll_append]

/-- **`buildTree` is a depth-first search**, which reads the processes as it meets them. -/
theorem buildTree_eq {fuel : Nat} {pid : Int} {v : Traversal} {tree : RoseTree Int}
    {seen : List Int}
    (h : search t.getChildPids fuel pid v.visited = some (tree, seen)) :
    ProcessMonitor.buildTree t fuel pid v =
      some (readTree t tree v.monitor,
        ⟨(readAll t tree.preorder v.monitor).2, seen, v.out⟩) := by
  induction fuel generalizing pid v tree seen with
  | zero => simp [search] at h
  | succ fuel ih =>
    simp only [search, Option.map_eq_some_iff, Prod.mk.injEq, Prod.exists] at h
    obtain ⟨trees, last, hloop, rfl, rfl⟩ := h
    have hbuild : ∀ pid v tree seen,
        search t.getChildPids fuel pid v.visited = some (tree, seen) →
        ProcessMonitor.buildTree t fuel pid v =
          some (readTree t tree v.monitor,
            ⟨(readAll t tree.preorder v.monitor).2, seen, v.out⟩) := by
      intro pid v tree seen hone
      exact ih hone
    have hnodes := buildChildren_eq hbuild
      (v := ⟨(v.monitor.getProcessInfo t pid).2, v.visited ++ [pid], v.out⟩) hloop
    simp only [ProcessMonitor.buildTree, hnodes, Option.map_some, readTree, preorder, readAll]

/-- The loop of `collectFamily` is the loop of the search. -/
theorem collectChildren_eq {search : Int → List Int → Option (RoseTree Int × List Int)}
    {collect : Int → Traversal → Option Traversal}
    (hcollect : ∀ pid seen tree seen', search pid seen = some (tree, seen') → ∀ m out,
      collect pid ⟨(m.getProcessInfo t pid).2, seen ++ [pid], out ++ [(m.getProcessInfo t pid).1]⟩ =
        some ⟨(readAll t tree.preorder m).2, seen', out ++ (readAll t tree.preorder m).1⟩)
    {pids seen : List Int} {trees : List (RoseTree Int)} {seen' : List Int}
    (h : searchAll search pids seen = some (trees, seen')) (m : ProcessMonitor)
    (out : List ProcessInfo) :
    ProcessMonitor.collectChildren t collect pids ⟨m, seen, out⟩ =
      some ⟨(readAll t (preorderAll trees) m).2, seen',
        out ++ (readAll t (preorderAll trees) m).1⟩ := by
  induction pids generalizing seen trees m out with
  | nil =>
    obtain ⟨rfl, rfl⟩ := Prod.mk.inj (Option.some.inj h)
    simp only [ProcessMonitor.collectChildren, preorderAll, readAll, List.append_nil]
  | cons pid pids ih =>
    rw [searchAll] at h
    rw [ProcessMonitor.collectChildren]
    by_cases hpid : pid ∈ seen
    · rw [if_pos hpid] at h ⊢
      exact ih h m out
    · rw [if_neg hpid] at h ⊢
      cases hone : search pid seen with
      | none => simp [hone] at h
      | some one =>
        obtain ⟨tree, mid⟩ := one
        simp only [hone, Option.map_eq_some_iff, Prod.mk.injEq, Prod.exists] at h
        obtain ⟨rest, last, hrest, rfl, rfl⟩ := h
        simp only [hcollect pid seen tree mid hone m out]
        rw [ih hrest, preorderAll, readAll_append, List.append_assoc]

/-- **`collectFamily` is the same search**, with its root marked and read before. -/
theorem collectFamily_eq {fuel : Nat} {pid : Int} {seen : List Int} {tree : RoseTree Int}
    {seen' : List Int} (h : search t.getChildPids fuel pid seen = some (tree, seen'))
    (m : ProcessMonitor) (out : List ProcessInfo) :
    ProcessMonitor.collectFamily t fuel pid
        ⟨(m.getProcessInfo t pid).2, seen ++ [pid], out ++ [(m.getProcessInfo t pid).1]⟩ =
      some ⟨(readAll t tree.preorder m).2, seen', out ++ (readAll t tree.preorder m).1⟩ := by
  induction fuel generalizing pid seen tree seen' m out with
  | zero => simp [search] at h
  | succ fuel ih =>
    simp only [search, Option.map_eq_some_iff, Prod.mk.injEq, Prod.exists] at h
    obtain ⟨trees, last, hloop, rfl, rfl⟩ := h
    rw [ProcessMonitor.collectFamily, collectChildren_eq _ hloop]
    · rw [preorder, readAll, List.append_assoc]
      rfl
    · intro pid seen tree seen' hone m out
      exact ih hone m out

/-! ## §5. What is read -/

/-- A process but for its percentage: what is the same for all queries. -/
def ProcessInfo.bare (info : ProcessInfo) : ProcessInfo := { info with cpuPercent := 0 }

theorem bare_readAll (pids : List Int) (m : ProcessMonitor) :
    (readAll t pids m).1.map ProcessInfo.bare =
      pids.map fun pid => (t.readProcessInfo pid).bare := by
  induction pids generalizing m with
  | nil => rfl
  | cons pid pids ih =>
    show _ :: _ = _ :: _
    rw [ih]
    rfl

theorem pids_readAll (pids : List Int) (m : ProcessMonitor) :
    (readAll t pids m).1.map ProcessInfo.pid = pids := by
  have hbare := congrArg (List.map ProcessInfo.pid) (bare_readAll (t := t) pids m)
  simpa [List.map_map, Function.comp_def, ProcessInfo.bare, ProcessTable.readProcessInfo]
    using hbare

/-- `after` counts these processes beside what `before` has. -/
structure AddsUp (before : ProcessTreeSummary) (processes : List ProcessInfo)
    (after : ProcessTreeSummary) : Prop where
  count : after.totalProcesses = before.totalProcesses + processes.length
  cpu : after.totalCpuPercent =
    before.totalCpuPercent + (processes.map ProcessInfo.cpuPercent).sum
  memory : after.totalMemoryRssBytes =
    before.totalMemoryRssBytes + (processes.map ProcessInfo.memoryRssBytes).sum
  threads : after.totalThreads = before.totalThreads + (processes.map ProcessInfo.threadCount).sum

theorem AddsUp.perm {before after : ProcessTreeSummary} {processes processes' : List ProcessInfo}
    (h : AddsUp before processes after) (hperm : processes.Perm processes') :
    AddsUp before processes' after where
  count := by rw [h.count, hperm.length_eq]
  cpu := by rw [h.cpu, (hperm.map _).sum_eq]
  memory := by rw [h.memory, (hperm.map _).sum_eq]
  threads := by rw [h.threads, (hperm.map _).sum_eq]

theorem AddsUp.cons {before after : ProcessTreeSummary} {info : ProcessInfo}
    {processes : List ProcessInfo} (h : AddsUp (before.add info) processes after) :
    AddsUp before (info :: processes) after where
  count := by
    have hcount := h.count
    simp only [ProcessTreeSummary.add, List.length_cons] at hcount ⊢
    omega
  cpu := by
    rw [h.cpu, List.map_cons, List.sum_cons, ← add_assoc]
    rfl
  memory := by
    rw [h.memory, List.map_cons, List.sum_cons, ← add_assoc]
    rfl
  threads := by
    rw [h.threads, List.map_cons, List.sum_cons, ← add_assoc]
    rfl

theorem infosAll_reverse_perm (nodes : List ProcessTreeNode) :
    (infosAll nodes.reverse).Perm (infosAll nodes) := by
  induction nodes with
  | nil => exact List.Perm.refl _
  | cons node nodes ih =>
    rw [List.reverse_cons, ProcessTreeNode.infosAll_append, infosAll, infosAll, infosAll,
      List.append_nil]
    exact List.perm_append_comm.trans (ih.append_left _)

theorem summarizeStack_addsUp (stack : List ProcessTreeNode) (summary : ProcessTreeSummary) :
    AddsUp summary (infosAll stack) (summarizeStack stack summary) := by
  induction stack, summary using summarizeStack.induct with
  | case1 summary =>
    rw [summarizeStack]
    constructor <;> simp [infosAll]
  | case2 info children stack summary ih =>
    simp only [List.unattach_reverse, List.unattach_attach] at ih
    rw [summarizeStack, infosAll, infos]
    apply AddsUp.cons
    apply ih.perm
    -- the stack holds the children the other way round
    rw [ProcessTreeNode.infosAll_append]
    exact (infosAll_reverse_perm children).append_right _

theorem summarizeTree_addsUp (tree : ProcessTreeNode) :
    AddsUp {} (infos tree) (summarizeTree tree) := by
  have hstack := summarizeStack_addsUp [tree] {}
  rw [infosAll, infosAll, List.append_nil] at hstack
  exact hstack

variable (processes : List ProcessInfo) (summary : ProcessTreeSummary)

/-- The loop over a list leaves the count alone. -/
theorem foldl_addTotals :
    AddsUp summary processes
      { processes.foldl ProcessTreeSummary.addTotals summary with
        totalProcesses := summary.totalProcesses + processes.length } := by
  induction processes generalizing summary with
  | nil => constructor <;> simp
  | cons info processes ih =>
    apply AddsUp.cons
    obtain ⟨-, hcpu, hmemory, hthreads⟩ := ih (summary.addTotals info)
    refine ⟨?_, hcpu, hmemory, hthreads⟩
    simp only [ProcessTreeSummary.add, List.length_cons]
    omega

theorem totalProcesses_foldl :
    (processes.foldl ProcessTreeSummary.addTotals summary).totalProcesses =
      summary.totalProcesses := by
  induction processes generalizing summary with
  | nil => rfl
  | cons info processes ih => exact ih (summary.addTotals info)

theorem summarize_addsUp : AddsUp {} processes (summarize processes) := by
  obtain ⟨-, hcpu, hmemory, hthreads⟩ :=
    foldl_addTotals processes { totalProcesses := processes.length }
  refine ⟨?_, hcpu, hmemory, hthreads⟩
  rw [summarize, totalProcesses_foldl]
  exact (zero_add _).symm

/-! ## §6. The queries -/

namespace ProcessTable

/-- The processes that the table names. -/
def pids (t : ProcessTable) (rootPid : Int) : Finset Int :=
  insert rootPid (t.children.flatMap Prod.snd).toFinset

theorem getChildPids_subset (t : ProcessTable) (rootPid pid : Int) :
    ∀ childPid ∈ t.getChildPids pid, childPid ∈ t.pids rootPid := by
  intro childPid hchild
  unfold getChildPids at hchild
  cases hlookup : t.children.lookup pid with
  | none => simp [hlookup] at hchild
  | some children =>
    obtain ⟨before, after, heq, -⟩ := List.lookup_eq_some_iff.mp hlookup
    rw [hlookup, Option.getD_some] at hchild
    apply Finset.mem_insert_of_mem
    rw [List.mem_toFinset, List.mem_flatMap]
    exact ⟨(pid, children), by simp [heq], hchild⟩

/-- The search below the root, and that it goes no deeper than there are processes. -/
theorem search_eq (t : ProcessTable) (rootPid : Int) :
    ∃ tree : RoseTree Int, tree.preorder.Nodup ∧
      (∀ pid, pid ∈ tree.preorder ↔ t.Descends rootPid pid) ∧
      ∀ fuel, (t.pids rootPid).card ≤ fuel →
        search t.getChildPids fuel rootPid [] = some (tree, tree.preorder) := by
  have hsome := search_isSome (fun pid _ => t.getChildPids_subset rootPid pid)
    (Finset.mem_insert_self rootPid _) (List.not_mem_nil (a := rootPid))
    (Finset.card_le_card Finset.sdiff_subset)
  obtain ⟨⟨tree, seen⟩, hsearch⟩ := Option.isSome_iff_exists.mp hsome
  refine ⟨tree, search_nodup hsearch, mem_search_iff hsearch, ?_⟩
  intro fuel hfuel
  rw [search_mono hfuel hsearch, search_marks hsearch]

end ProcessTable

/-- The processes are those of `pids`, each once. -/
structure ReportsOnce (processes : List ProcessInfo) (pids : Finset Int) : Prop where
  nodup : (processes.map ProcessInfo.pid).Nodup
  pids : (processes.map ProcessInfo.pid).toFinset = pids

/-- The totals are the sums over `pids`. -/
structure SumsOver (t : ProcessTable) (pids : Finset Int) (summary : ProcessTreeSummary) :
    Prop where
  processes : summary.totalProcesses = pids.card
  memory : summary.totalMemoryRssBytes = ∑ pid ∈ pids, (t.info pid).memoryRssBytes
  threads : summary.totalThreads = ∑ pid ∈ pids, (t.info pid).threadCount

theorem getProcessTree_eq {fuel : Nat} {rootPid : Int} {tree : RoseTree Int}
    (h : search t.getChildPids fuel rootPid [] = some (tree, tree.preorder)) (m : ProcessMonitor) :
    m.getProcessTree t fuel rootPid =
      some (readTree t tree m, (readAll t tree.preorder m).2.cleanupSamples tree.preorder) := by
  rw [ProcessMonitor.getProcessTree, buildTree_eq (v := ⟨m, [], []⟩) h]
  rfl

theorem getProcessFamily_eq {fuel : Nat} {rootPid : Int} {tree : RoseTree Int}
    (h : search t.getChildPids fuel rootPid [] = some (tree, tree.preorder)) (m : ProcessMonitor) :
    m.getProcessFamily t fuel rootPid true =
      some ((readAll t tree.preorder m).1,
        (readAll t tree.preorder m).2.cleanupSamples tree.preorder) := by
  have hcollect := collectFamily_eq h m []
  rw [List.nil_append, List.nil_append] at hcollect
  rw [ProcessMonitor.getProcessFamily, if_pos rfl, hcollect]
  rfl

theorem reportsOnce_readAll {pids : List Int} (hnodup : pids.Nodup) (m : ProcessMonitor) :
    ReportsOnce (readAll t pids m).1 pids.toFinset := by
  constructor
  · rw [pids_readAll]
    exact hnodup
  · rw [pids_readAll]

/-- What a summary adds up over processes that were read once each. -/
theorem AddsUp.sumsOver {pids : List Int} (hnodup : pids.Nodup) {m : ProcessMonitor}
    {summary : ProcessTreeSummary} (h : AddsUp {} (readAll t pids m).1 summary) :
    SumsOver t pids.toFinset summary := by
  have hbare := bare_readAll (t := t) pids m
  have hlength := congrArg List.length hbare
  have hmemory := congrArg (List.map ProcessInfo.memoryRssBytes) hbare
  have hthreads := congrArg (List.map ProcessInfo.threadCount) hbare
  rw [List.length_map, List.length_map] at hlength
  rw [List.map_map, List.map_map] at hmemory hthreads
  constructor
  · rw [h.count, hlength, List.toFinset_card_of_nodup hnodup]
    exact zero_add _
  · rw [h.memory, List.sum_toFinset _ hnodup]
    exact (zero_add _).trans (congrArg List.sum hmemory)
  · rw [h.threads, List.sum_toFinset _ hnodup]
    exact (zero_add _).trans (congrArg List.sum hthreads)

/-- **Process queries are exact.**  Whatever the table of children looks like, both queries end and
report the root and all that is below it, each process once, and both summaries are the sums over
these processes.  The queries may come at different times. -/
theorem process_queries_exact (t : ProcessTable) (rootPid : Int) (m m' : ProcessMonitor) :
    ∃ (pids : Finset Int) (tree : ProcessTreeNode) (family : List ProcessInfo)
      (after after' : ProcessMonitor),
      (∀ pid, pid ∈ pids ↔ t.Descends rootPid pid) ∧
      (∀ fuel, (t.pids rootPid).card ≤ fuel →
        m.getProcessTree t fuel rootPid = some (tree, after) ∧
        m'.getProcessFamily t fuel rootPid true = some (family, after')) ∧
      ReportsOnce tree.infos pids ∧ ReportsOnce family pids ∧
      SumsOver t pids (summarizeTree tree) ∧ SumsOver t pids (summarize family) := by
  obtain ⟨tree, hnodup, hmem, hsearch⟩ := t.search_eq rootPid
  refine ⟨tree.preorder.toFinset, readTree t tree m, (readAll t tree.preorder m').1,
    (readAll t tree.preorder m).2.cleanupSamples tree.preorder,
    (readAll t tree.preorder m').2.cleanupSamples tree.preorder, ?_, ?_, ?_, ?_, ?_, ?_⟩
  · intro pid
    rw [List.mem_toFinset, hmem]
  · intro fuel hfuel
    exact ⟨getProcessTree_eq (hsearch fuel hfuel) m, getProcessFamily_eq (hsearch fuel hfuel) m'⟩
  · rw [infos_readTree]
    exact reportsOnce_readAll hnodup m
  · exact reportsOnce_readAll hnodup m'
  · apply AddsUp.sumsOver hnodup (m := m)
    rw [← infos_readTree]
    exact summarizeTree_addsUp _
  · exact (summarize_addsUp _).sumsOver hnodup

end Search

end Stdiolink.Server
