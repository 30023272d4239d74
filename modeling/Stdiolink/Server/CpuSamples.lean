/-
  Stdiolink.Server.CpuSamples — the process requests of `http/api_router.cpp`,
  `handleInstanceProcessTree` and `handleInstanceResources`, on the one monitor of the server.

  A request samples the processes of its instance.  It finds the samples of the request before and
  leaves its own, all others removed: the table belongs to one request at a time, although it is
  there for all instances.

  Main results:
    * `find?_answer`                   — the table a request leaves: its own samples, no others;
    * `queries_undisturbed_iff`        — every percentage is the one between the last two samples of
      its process exactly when no other request came between them, or it would be zero anyhow;
    * `other_instance_erases_baseline` — one request for another instance in between, and a busy
      process is reported as idle.
-/
import Stdiolink.Server.ProcessMonitor
import Stdiolink.Lib.Machine
import Mathlib.Data.Rat.Cast.Order
import Mathlib.Tactic.NormNum

namespace Stdiolink.Server

open Stdiolink.Lib

/-! ## §1. The requests -/

inductive ResourceQuery where
  | processTree
  /-- With the value of the query item `includeChildren`, where there is one. -/
  | resources (includeChildren : Option String)

/-- A request, the status and the process of the instance it names, and the system as it finds it. -/
structure ResourceRequest where
  id : String
  instance? : Option (String × Int)
  query : ResourceQuery
  table : ProcessTable

inductive ResourceResponse where
  | error (status : Nat) (message : String)
  | tree (instanceId : String) (rootPid : Int) (root : ProcessTreeNode)
      (summary : ProcessTreeSummary)
  | resources (instanceId : String) (processes : List ProcessInfo) (summary : ProcessTreeSummary)

namespace ResourceRequest

/-- The checks of both handlers. -/
def checked (r : ResourceRequest) : Except ResourceResponse Int :=
  match r.instance? with
  | none => .error (.error 404 "instance not found")
  | some (status, pid) =>
    if status ≠ "running" then .error (.error 404 "instance not running") else .ok pid

/-- Whether the children of the instance's process are included. -/
def includesChildren (r : ResourceRequest) : Bool :=
  match r.query with
  | .processTree => true
  | .resources none => true
  | .resources (some value) => value != "false"

/-- A query goes no deeper than there are processes. -/
def levels (r : ResourceRequest) (rootPid : Int) : Nat := (r.table.pids rootPid).card

end ResourceRequest

/-- `handleInstanceProcessTree` and `handleInstanceResources`, where monitoring is supported. -/
def answer (m : ProcessMonitor) (r : ResourceRequest) : ProcessMonitor × List ResourceResponse :=
  match r.checked with
  | .error e => (m, [e])
  | .ok pid =>
    match r.query with
    | .processTree =>
      match m.getProcessTree r.table (r.levels pid) pid with
      | none => (m, [])
      | some (tree, m) => (m, [.tree r.id pid tree (summarizeTree tree)])
    | .resources _ =>
      match m.getProcessFamily r.table (r.levels pid) pid r.includesChildren with
      | none => (m, [])
      | some (processes, m) => (m, [.resources r.id processes (summarize processes)])

/-- The monitor that all requests share. -/
def monitorMachine : Machine ProcessMonitor ResourceRequest ResourceResponse where
  step := answer

/-! ## §2. Percentages by the last two samples -/

namespace ProcessTable

/-- What `calculateCpuPercent` stores for a process. -/
def sample (t : ProcessTable) (pid : Int) : CpuSample :=
  ⟨toInt64 (t.info pid).cpuPercent, t.now pid⟩

end ProcessTable

/-- The percentage that a sample and the one before it give. -/
def percentSince (old : Option CpuSample) (new : CpuSample) : ℚ :=
  match old with
  | none => 0
  | some old => ProcessMonitor.percentBetween old new

namespace ResourceRequest

/-- The request samples this process. -/
def Samples (r : ResourceRequest) (pid : Int) : Prop :=
  ∃ rootPid, r.checked = .ok rootPid ∧
    if r.includesChildren then r.table.Descends rootPid pid else pid = rootPid

/-- The request is answered with processes. -/
def Answered (r : ResourceRequest) : Prop := ∃ rootPid, r.checked = .ok rootPid

end ResourceRequest

section Last

open Classical

/-- The last sample that these requests took of a process. -/
noncomputable def lastSample (requests : List ResourceRequest) (pid : Int) : Option CpuSample :=
  requests.foldl (fun old r => if r.Samples pid then some (r.table.sample pid) else old) none

/-- The last of these requests that was answered with processes samples this one. -/
def SampledLast (requests : List ResourceRequest) (pid : Int) : Prop :=
  requests.foldl (fun old r => if r.Answered then r.Samples pid else old) False

end Last

/-- The processes that a response reports, and its total. -/
def ResourceResponse.reported : ResourceResponse → List ProcessInfo × ℚ
  | .error _ _ => ([], 0)
  | .tree _ _ root summary => (root.infos, summary.totalCpuPercent)
  | .resources _ processes summary => (processes, summary.totalCpuPercent)

/-- Every percentage of the response is the one between the last two samples of its process, and
the total is their sum. -/
structure AsIsolated (before : List ResourceRequest) (r : ResourceRequest)
    (response : ResourceResponse) : Prop where
  processes : ∀ info ∈ response.reported.1,
    info.cpuPercent = percentSince (lastSample before info.pid) (r.table.sample info.pid)
  total : response.reported.2 = (response.reported.1.map fun info =>
    percentSince (lastSample before info.pid) (r.table.sample info.pid)).sum

/-- Every process that the request samples was sampled by the request before it, if it was sampled
before at all; or else it has used no processor time since, or no time has passed. -/
def Undisturbed (before : List ResourceRequest) (r : ResourceRequest) : Prop :=
  ∀ pid, r.Samples pid → ∀ old, lastSample before pid = some old →
    SampledLast before pid ∨ (r.table.sample pid).cpuTimeMs = old.cpuTimeMs ∨
      (r.table.sample pid).timestamp ≤ old.timestamp

/-! ## §3. What a request leaves -/

section Reading

variable {t : ProcessTable}

theorem find?_calculateCpuPercent (now pid cpuTime : Int) (m : ProcessMonitor) (other : Int) :
    (m.calculateCpuPercent now pid cpuTime).2.cpuSamples.find? other =
      if other = pid then some ⟨cpuTime, now⟩ else m.cpuSamples.find? other := by
  unfold ProcessMonitor.calculateCpuPercent
  cases m.cpuSamples.find? pid with
  | none => exact SortedMap.find?_insert _ _ _ _
  | some old => exact SortedMap.find?_insert _ _ _ _

theorem find?_getProcessInfo (m : ProcessMonitor) (pid other : Int) :
    (m.getProcessInfo t pid).2.cpuSamples.find? other =
      if other = pid then some (t.sample pid) else m.cpuSamples.find? other :=
  find?_calculateCpuPercent _ _ _ m other

/-- A percentage depends on the sample that is there. -/
theorem cpuPercent_getProcessInfo (m : ProcessMonitor) (pid : Int) :
    (m.getProcessInfo t pid).1.cpuPercent =
      percentSince (m.cpuSamples.find? pid) (t.sample pid) := by
  show (m.calculateCpuPercent _ _ _).1 = _
  unfold ProcessMonitor.calculateCpuPercent
  cases m.cpuSamples.find? pid with
  | none => rfl
  | some old => rfl

theorem find?_readAll (pids : List Int) (m : ProcessMonitor) (other : Int) :
    (readAll t pids m).2.cpuSamples.find? other =
      if other ∈ pids then some (t.sample other) else m.cpuSamples.find? other := by
  induction pids generalizing m with
  | nil => rfl
  | cons pid pids ih =>
    show (readAll t pids (m.getProcessInfo t pid).2).2.cpuSamples.find? other = _
    rw [ih, find?_getProcessInfo]
    by_cases hother : other = pid
    · simp [hother]
    · simp [hother]

/-- Each process is reported by the sample that was there before the query. -/
theorem cpuPercent_readAll {pids : List Int} (hnodup : pids.Nodup) (m : ProcessMonitor) :
    ∀ info ∈ (readAll t pids m).1,
      info.cpuPercent = percentSince (m.cpuSamples.find? info.pid) (t.sample info.pid) := by
  induction pids generalizing m with
  | nil =>
    intro info hinfo
    cases hinfo
  | cons pid pids ih =>
    obtain ⟨hnew, hrest⟩ := List.nodup_cons.mp hnodup
    intro info hinfo
    obtain rfl | hinfo := List.mem_cons.mp hinfo
    · exact cpuPercent_getProcessInfo m pid
    · rw [ih hrest _ info hinfo, find?_getProcessInfo]
      -- the later processes are others
      have hpid : info.pid ∈ pids := by
        rw [← pids_readAll (t := t) pids (m.getProcessInfo t pid).2]
        exact List.mem_map_of_mem hinfo
      have hne : info.pid ≠ pid := by
        intro heq
        exact hnew (heq ▸ hpid)
      rw [if_neg hne]

end Reading

/-- What an answered request does, by the list of the processes that it samples. -/
structure Query (m : ProcessMonitor) (r : ResourceRequest) (pids : List Int) : Prop where
  nodup : pids.Nodup
  samples : ∀ pid, pid ∈ pids ↔ r.Samples pid
  leaves : (answer m r).1 = (readAll r.table pids m).2.cleanupSamples pids
  answers : ∃ response, (answer m r).2 = [response] ∧
    response.reported.1 = (readAll r.table pids m).1 ∧
    response.reported.2 = (response.reported.1.map ProcessInfo.cpuPercent).sum

variable {r : ResourceRequest}

theorem samples_iff {rootPid : Int} (h : r.checked = .ok rootPid) (pid : Int) :
    r.Samples pid ↔ if r.includesChildren then r.table.Descends rootPid pid else pid = rootPid := by
  constructor
  · rintro ⟨rootPid', hchecked, hsamples⟩
    obtain rfl := Except.ok.inj (h.symm.trans hchecked)
    exact hsamples
  · intro hsamples
    exact ⟨rootPid, h, hsamples⟩

theorem answer_query (m : ProcessMonitor) (h : r.Answered) : ∃ pids, Query m r pids := by
  obtain ⟨rootPid, hchecked⟩ := h
  obtain ⟨tree, hnodup, hmem, hsearch⟩ := r.table.search_eq rootPid
  have hlevels := hsearch (r.levels rootPid) (Nat.le_refl _)
  have htree := getProcessTree_eq hlevels m
  have hfamily := getProcessFamily_eq hlevels m
  cases hquery : r.query with
  | processTree =>
    have hall : r.includesChildren = true := by rw [ResourceRequest.includesChildren, hquery]
    have hanswer : answer m r = ((readAll r.table tree.preorder m).2.cleanupSamples tree.preorder,
        [.tree r.id rootPid (readTree r.table tree m) (summarizeTree (readTree r.table tree m))]) := by
      simp only [answer, hchecked, hquery, htree]
    refine ⟨tree.preorder, hnodup, ?_, by rw [hanswer], _, by rw [hanswer], ?_, ?_⟩
    · intro pid
      rw [samples_iff hchecked, if_pos hall, hmem]
    · exact infos_readTree _ _ _
    · exact (summarizeTree_addsUp _).cpu.trans (zero_add _)
  | resources value =>
    cases hall : r.includesChildren with
    | true =>
      have hanswer : answer m r =
          ((readAll r.table tree.preorder m).2.cleanupSamples tree.preorder,
            [.resources r.id (readAll r.table tree.preorder m).1
              (summarize (readAll r.table tree.preorder m).1)]) := by
        simp only [answer, hchecked, hquery, hall, hfamily]
      refine ⟨tree.preorder, hnodup, ?_, by rw [hanswer], _, by rw [hanswer], rfl, ?_⟩
      · intro pid
        rw [samples_iff hchecked, if_pos hall, hmem]
      · exact (summarize_addsUp _).cpu.trans (zero_add _)
    | false =>
      -- the root alone
      have hanswer : answer m r =
          ((readAll r.table [rootPid] m).2.cleanupSamples [rootPid],
            [.resources r.id (readAll r.table [rootPid] m).1
              (summarize (readAll r.table [rootPid] m).1)]) := by
        simp only [answer, hchecked, hquery, hall, ProcessMonitor.getProcessFamily, readAll]
        rfl
      refine ⟨[rootPid], List.nodup_singleton _, ?_, by rw [hanswer], _, by rw [hanswer], rfl, ?_⟩
      · intro pid
        rw [samples_iff hchecked, hall, if_neg (by simp), List.mem_singleton]
      · exact (summarize_addsUp _).cpu.trans (zero_add _)

open Classical in
/-- **The table a request leaves**: its own samples and no others. -/
theorem find?_answer (m : ProcessMonitor) (r : ResourceRequest) (pid : Int) :
    (answer m r).1.cpuSamples.find? pid =
      if r.Answered then if r.Samples pid then some (r.table.sample pid) else none
      else m.cpuSamples.find? pid := by
  by_cases h : r.Answered
  · obtain ⟨pids, hquery⟩ := answer_query m h
    rw [if_pos h, hquery.leaves]
    show (SortedMap.filterKeys _ _).find? pid = _
    rw [SortedMap.find?_filterKeys, find?_readAll]
    by_cases hpid : pid ∈ pids
    · rw [if_pos ((hquery.samples pid).mp hpid), if_pos hpid, if_pos (by simpa using hpid)]
    · rw [if_neg fun hs => hpid ((hquery.samples pid).mpr hs), if_neg (by simpa using hpid)]
  · rw [if_neg h]
    unfold answer
    cases hchecked : r.checked with
    | error e => rfl
    | ok rootPid => exact absurd ⟨rootPid, hchecked⟩ h

/-! ## §4. Runs -/

/-- The monitor after these requests. -/
def afterRequests (before : List ResourceRequest) : ProcessMonitor :=
  (monitorMachine.run (Machine.start {}) before).state

variable (before : List ResourceRequest)

theorem afterRequests_concat (r : ResourceRequest) :
    afterRequests (before ++ [r]) = (answer (afterRequests before) r).1 := by
  unfold afterRequests
  rw [Machine.run_append]
  rfl

section Last

open Classical

theorem lastSample_concat (before : List ResourceRequest) (r : ResourceRequest) (pid : Int) :
    lastSample (before ++ [r]) pid =
      if r.Samples pid then some (r.table.sample pid) else lastSample before pid := by
  rw [lastSample, List.foldl_append]
  rfl

theorem sampledLast_concat (before : List ResourceRequest) (r : ResourceRequest) (pid : Int) :
    SampledLast (before ++ [r]) pid =
      if r.Answered then r.Samples pid else SampledLast before pid := by
  rw [SampledLast, List.foldl_append]
  rfl

/-- A request that samples anything is answered. -/
theorem ResourceRequest.Samples.answered {r : ResourceRequest} {pid : Int} (h : r.Samples pid) :
    r.Answered := by
  obtain ⟨rootPid, hchecked, -⟩ := h
  exact ⟨rootPid, hchecked⟩

/-- **The samples that are there** are those of the last request. -/
theorem find?_afterRequests (before : List ResourceRequest) (pid : Int) :
    (afterRequests before).cpuSamples.find? pid =
      if SampledLast before pid then lastSample before pid else none := by
  induction before using List.reverseRecOn with
  | nil => exact (if_neg id).symm
  | append_singleton before r ih =>
    rw [afterRequests_concat, find?_answer, sampledLast_concat, lastSample_concat]
    by_cases h : r.Answered
    · rw [if_pos h, if_pos h]
      by_cases hs : r.Samples pid
      · rw [if_pos hs, if_pos hs, if_pos hs]
      · rw [if_neg hs, if_neg hs]
    · have hs : ¬r.Samples pid := fun hs => h hs.answered
      simp only [if_neg h, if_neg hs]
      exact ih

end Last

theorem percentBetween_eq_zero {old new : CpuSample} :
    ProcessMonitor.percentBetween old new = 0 ↔
      new.cpuTimeMs = old.cpuTimeMs ∨ new.timestamp ≤ old.timestamp := by
  unfold ProcessMonitor.percentBetween
  dsimp only
  split_ifs with hwall
  · exact iff_of_true rfl (.inr (by omega))
  · have hne : ((new.timestamp - old.timestamp : Int) : ℚ) ≠ 0 := by
      rw [Int.cast_ne_zero]
      omega
    rw [mul_eq_zero, div_eq_zero_iff, Int.cast_eq_zero]
    constructor
    · rintro ((h | h) | h)
      · exact .inl (by omega)
      · exact absurd h hne
      · exact absurd h (by norm_num)
    · rintro (h | h)
      · exact .inl (.inl (by omega))
      · omega

/-- A process is reported as it should be iff its baseline is still there, or makes no difference. -/
theorem percent_iff (pid : Int) (new : CpuSample) :
    percentSince ((afterRequests before).cpuSamples.find? pid) new =
        percentSince (lastSample before pid) new ↔
      ∀ old, lastSample before pid = some old →
        SampledLast before pid ∨ new.cpuTimeMs = old.cpuTimeMs ∨ new.timestamp ≤ old.timestamp := by
  rw [find?_afterRequests]
  by_cases hlast : SampledLast before pid
  · rw [if_pos hlast]
    exact iff_of_true rfl fun _ _ => .inl hlast
  · rw [if_neg hlast]
    cases hold : lastSample before pid with
    | none => simp
    | some old =>
      show 0 = ProcessMonitor.percentBetween old new ↔ _
      rw [eq_comm, percentBetween_eq_zero]
      simp [hlast]

theorem checked_error {e : ResourceResponse} (h : r.checked = .error e) : e.reported = ([], 0) := by
  unfold ResourceRequest.checked at h
  split at h
  next => rw [← Except.error.inj h, ResourceResponse.reported]
  next =>
    split at h
    next => rw [← Except.error.inj h, ResourceResponse.reported]
    next => cases h

/-- One request, after these. -/
theorem asIsolated_iff (r : ResourceRequest) :
    (∀ response ∈ (answer (afterRequests before) r).2, AsIsolated before r response) ↔
      Undisturbed before r := by
  by_cases h : r.Answered
  · obtain ⟨pids, hquery⟩ := answer_query (afterRequests before) h
    obtain ⟨response, hresponse, hreported, htotal⟩ := hquery.answers
    have hpercents := cpuPercent_readAll (t := r.table) hquery.nodup (afterRequests before)
    have hpids := pids_readAll (t := r.table) pids (afterRequests before)
    rw [hresponse]
    constructor
    · intro hall pid hpid
      have hisolated := hall response (by simp)
      obtain ⟨info, hinfo, rfl⟩ : ∃ info ∈ response.reported.1, info.pid = pid := by
        rw [← hquery.samples, ← hpids, List.mem_map] at hpid
        rw [hreported]
        exact hpid
      have hpercent := hisolated.processes info hinfo
      rw [hreported] at hinfo
      rw [hpercents info hinfo] at hpercent
      exact (percent_iff before info.pid _).mp hpercent
    · intro hundisturbed other hother
      rw [List.mem_singleton.mp hother]
      have hprocesses : ∀ info ∈ response.reported.1,
          info.cpuPercent =
            percentSince (lastSample before info.pid) (r.table.sample info.pid) := by
        intro info hinfo
        rw [hreported] at hinfo
        rw [hpercents info hinfo]
        apply (percent_iff before info.pid _).mpr
        apply hundisturbed
        rw [← hquery.samples, ← hpids]
        exact List.mem_map_of_mem hinfo
      refine ⟨hprocesses, ?_⟩
      rw [htotal]
      exact congrArg List.sum (List.map_congr_left hprocesses)
  · -- no process is sampled and none is reported
    have hnone : ∀ pid, ¬r.Samples pid := fun pid hs => h hs.answered
    apply iff_of_true
    · unfold answer
      cases hchecked : r.checked with
      | error e =>
        intro response hresponse
        rw [List.mem_singleton.mp hresponse]
        have hreported := checked_error hchecked
        constructor
        · intro info hinfo
          rw [hreported] at hinfo
          cases hinfo
        · rw [hreported]
          rfl
      | ok rootPid => exact absurd ⟨rootPid, hchecked⟩ h
    · intro pid hpid
      exact absurd hpid (hnone pid)

/-- **Requests do not disturb each other exactly when none comes in between.** -/
theorem queries_undisturbed_iff (requests : List ResourceRequest) :
    (∀ before r after, requests = before ++ r :: after →
      ∀ response ∈ (answer (afterRequests before) r).2, AsIsolated before r response) ↔
    ∀ before r after, requests = before ++ r :: after → Undisturbed before r := by
  constructor
  · intro h before r after heq
    exact (asIsolated_iff before r).mp (h before r after heq)
  · intro h before r after heq
    exact (asIsolated_iff before r).mpr (h before r after heq)

/-- A request for the tree of an instance whose process has no children. -/
def treeRequest (id : String) (pid cpuTimeMs now : Int) : ResourceRequest where
  id := id
  instance? := some ("running", pid)
  query := .processTree
  table := { children := [], info := fun _ => { cpuPercent := cpuTimeMs }, now := fun _ => now }

theorem toInt64_intCast (n : Int) : toInt64 (n : ℚ) = n := by simp [toInt64]

theorem samples_treeRequest (id : String) (pid cpuTimeMs now other : Int) :
    (treeRequest id pid cpuTimeMs now).Samples other ↔ other = pid := by
  have hchecked : (treeRequest id pid cpuTimeMs now).checked = .ok pid := rfl
  rw [samples_iff hchecked, if_pos (by rfl)]
  constructor
  · intro h
    obtain heq | ⟨mid, hstep, -⟩ := Relation.ReflTransGen.cases_head h
    · exact heq.symm
    · cases hstep
  · rintro rfl
    exact Relation.ReflTransGen.refl

/-- Instance `a` uses half a processor for a second, and is asked about at both ends.  A request for
`b` in between, whose process is another, and `a` is reported with 0 % in place of 50 %. -/
theorem other_instance_erases_baseline :
    let before := [treeRequest "a" 1 0 0, treeRequest "b" 2 0 500]
    let r := treeRequest "a" 1 500 1000
    (∀ pid, ¬((treeRequest "a" 1 0 0).Samples pid ∧ (treeRequest "b" 2 0 500).Samples pid)) ∧
    percentSince (lastSample before 1) (r.table.sample 1) = 50 ∧
    ∃ response, (answer (afterRequests before) r).2 = [response] ∧
      (response.reported.1.map fun info => (info.pid, info.cpuPercent)) = [(1, 0)] := by
  intro before r
  refine ⟨?_, ?_, _, rfl, rfl⟩
  · intro pid h
    rw [samples_treeRequest, samples_treeRequest] at h
    omega
  · have hlast : lastSample before 1 = some ⟨0, 0⟩ := by
      rw [show before = ([] ++ [treeRequest "a" 1 0 0]) ++ [treeRequest "b" 2 0 500] from rfl,
        lastSample_concat, lastSample_concat, samples_treeRequest, samples_treeRequest,
        if_neg (by decide), if_pos rfl]
      rfl
    have hsample : r.table.sample 1 = ⟨500, 1000⟩ := by
      show CpuSample.mk (toInt64 ((500 : Int) : ℚ)) 1000 = _
      rw [toInt64_intCast]
    rw [hlast, hsample]
    norm_num [percentSince, ProcessMonitor.percentBetween]

end Stdiolink.Server
