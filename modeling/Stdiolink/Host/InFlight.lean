/-
  Stdiolink.Host.InFlight — whose answer a line is.

  A line carries no name of the request that it answers: `pumpStdout` pushes it to the
  current task.  The driver answers its requests in order, each with one done or error line,
  so the line answers the request with the number of done and error lines before it.

  Main results:
    * `LineRead.attributed` — a line is pushed to the task of the request that it answers;
    * `no_cross_talk`       — along every run with one request in flight at a time.
-/
import Stdiolink.Host.Response

namespace Stdiolink.Host

open Stdiolink.Lib
open Stdiolink.Protocol

/-! ## §1. Requests and answers -/

/-- The task of a request that is sent to the driver. -/
def HostEvent.sentOn (d : Nat) : HostEvent → Option Nat
  | .requested d' k _ _ sent => if d' = d && sent then some k else none
  | _ => none

/-- The task and the line of the driver that is pushed to it. -/
def HostEvent.pushedLine (d : Nat) : HostEvent → Option (Nat × List UInt8)
  | .pushed k _ _ (.line d' line) => if d' = d then some (k, line) else none
  | _ => none

/-- The tasks of the requests that the driver was sent, in order. -/
def sentTasks (d : Nat) (h : List HostEvent) : List Nat := h.filterMap (HostEvent.sentOn d)

/-- The lines of the driver, in order, with the tasks they were pushed to. -/
def pushedLines (d : Nat) (h : List HostEvent) : List (Nat × List UInt8) :=
  h.filterMap (HostEvent.pushedLine d)

/-- The line is a done or error. -/
def isLast (qt : Qt) (line : List UInt8) : Bool :=
  match parseResponse qt.fromJson line with
  | some m => m.isTerminal
  | none => false

/-- How many answers these lines end. -/
def answered (qt : Qt) (lines : List (List UInt8)) : Nat := lines.countP (isLast qt)

/-- **The driver answers in order** with these lines: it writes nothing else, every line is a
message, and it begins a line only once it has received the request that the line answers, which
is the one with the number of the answers before the line. -/
structure AnswersInOrder (qt : Qt) (d : Nat) (lines : List (List UInt8)) (h : List HostEvent) :
    Prop where
  complete : ∀ l ∈ lines, newline ∉ l
  valid : ∀ l ∈ lines, ∃ m, parseResponse qt.fromJson l = some m
  writes : wroteBytes d h <+: frame newline lines
  asked : ∀ h₁ h₂ i, h = h₁ ++ h₂ →
    (frame newline (lines.take i)).length < (wroteBytes d h₁).length →
      answered qt (lines.take i) < (sentTasks d h₁).length

/-- **One request in flight.**  A request is made once all answers to the requests before it have
been read. -/
def OneInFlight (qt : Qt) (d : Nat) (h : List HostEvent) : Prop :=
  ∀ h₁ h₂ k cmd data sent, h = h₁ ++ .requested d k cmd data sent :: h₂ →
    answered qt (linesRead d h₁) = (sentTasks d h₁).length

/-- **The property.**  The lines that were read are the first that the driver wrote, as messages,
and each was pushed to the task of the request that it answers. -/
structure NoCrossTalk (qt : Qt) (d : Nat) (lines : List (List UInt8)) (h : List HostEvent) :
    Prop where
  inOrder : (pushedLines d h).map Prod.snd <+: lines
  parsed : ∀ k m o line, HostEvent.pushed k m o (.line d line) ∈ h →
    parseResponse qt.fromJson line = some m
  own : ∀ pre k line post, pushedLines d h = pre ++ (k, line) :: post →
    (sentTasks d h)[answered qt (lines.take pre.length)]? = some k

theorem pushedLines_snd (d : Nat) (h : List HostEvent) :
    (pushedLines d h).map Prod.snd = linesRead d h := by
  unfold pushedLines linesRead
  rw [List.map_filterMap]
  congr 1
  funext e
  cases e with
  | pushed k m o origin =>
    cases origin with
    | host => rfl
    | line d' line =>
      by_cases hd : d' = d
      · simp [HostEvent.pushedLine, HostEvent.lineOf, hd]
      · simp [HostEvent.pushedLine, HostEvent.lineOf, hd]
  | _ => rfl

section Prefixes

variable {qt : Qt} {d : Nat} {lines : List (List UInt8)} {h h' : List HostEvent}

theorem AnswersInOrder.of_append (ha : AnswersInOrder qt d lines (h ++ h')) :
    AnswersInOrder qt d lines h := by
  refine ⟨ha.complete, ha.valid, ?_, ?_⟩
  · refine List.IsPrefix.trans ?_ ha.writes
    rw [wroteBytes_append]
    exact List.prefix_append _ _
  · intro h₁ h₂ i heq
    exact ha.asked h₁ (h₂ ++ h') i (by rw [heq, List.append_assoc])

theorem OneInFlight.of_append (ho : OneInFlight qt d (h ++ h')) : OneInFlight qt d h := by
  intro h₁ h₂ k cmd data sent heq
  exact ho h₁ (h₂ ++ h') k cmd data sent (by rw [heq, List.append_assoc, List.cons_append])

end Prefixes

/-! ## §2. The invariant -/

/-- What is assumed of the run so far. -/
structure Orderly (qt : Qt) (d : Nat) (lines : List (List UInt8)) (h : List HostEvent) : Prop where
  answers : AnswersInOrder qt d lines h
  oneInFlight : OneInFlight qt d h
  nothingCleared : NothingCleared d h

theorem Orderly.of_append {qt : Qt} {d : Nat} {lines : List (List UInt8)} {h h' : List HostEvent}
    (ho : Orderly qt d lines (h ++ h')) : Orderly qt d lines h :=
  ⟨ho.answers.of_append, ho.oneInFlight.of_append, ho.nothingCleared.of_append⟩

/-- Every line was pushed to its task, and either nothing is in flight or it is the last request,
whose task is the current one. -/
structure Attributed (qt : Qt) (d : Nat) (h : List HostEvent) (s : HostState) : Prop where
  parsed : ∀ k m o line, HostEvent.pushed k m o (.line d line) ∈ h →
    parseResponse qt.fromJson line = some m
  own : ∀ pre k line post, pushedLines d h = pre ++ (k, line) :: post →
    (sentTasks d h)[answered qt (pre.map Prod.snd)]? = some k
  flight : answered qt (linesRead d h) = (sentTasks d h).length ∨
    answered qt (linesRead d h) + 1 = (sentTasks d h).length ∧
      (s.drivers d).cur = (sentTasks d h).getLast?

/-- **The invariant.** -/
structure InFlight (qt : Qt) (d : Nat) (lines : List (List UInt8)) (h : List HostEvent)
    (s : HostState) : Prop where
  accounted : Accounted [] d h s
  attributed : Orderly qt d lines h → Attributed qt d h s

section Invariant

variable {qt : Qt} {d : Nat} {lines : List (List UInt8)} {h : List HostEvent} {s s' : HostState}

/-- The lines that were read are the first that the driver wrote. -/
theorem linesRead_prefix {buf : List UInt8} (ha : AccountedWith [] d buf h s)
    (hno : NothingCleared d h) (hlines : ∀ l ∈ lines, newline ∉ l)
    (hwrites : wroteBytes d h <+: frame newline lines) : linesRead d h <+: lines := by
  obtain ⟨rest, hrest⟩ := hwrites
  have hbytes := ha.bytes
  rw [List.nil_append, takenBytes_eq hno] at hbytes
  rw [hbytes, List.append_assoc] at hrest
  obtain ⟨more, hmore, -⟩ := frame_prefix ha.lines hlines (List.not_mem_nil)
    (hrest.trans (List.append_nil _).symm)
  exact ⟨more, hmore.symm⟩

/-- **From the invariant to the property.** -/
theorem InFlight.noCrossTalk (hi : InFlight qt d lines h s) (ho : Orderly qt d lines h) :
    NoCrossTalk qt d lines h := by
  have hattributed := hi.attributed ho
  have hpre := linesRead_prefix hi.accounted ho.nothingCleared ho.answers.complete
    ho.answers.writes
  refine ⟨?_, hattributed.parsed, ?_⟩
  · rw [pushedLines_snd]
    exact hpre
  · intro pre k line post heq
    -- the lines before this one are the first that the driver wrote
    have hfront : pre.map Prod.snd = lines.take pre.length := by
      rw [← pushedLines_snd, heq, List.map_append] at hpre
      obtain ⟨more, rfl⟩ := hpre
      rw [List.append_assoc, List.take_append_of_le_length (by simp)]
      simp [List.take_of_length_le]
    rw [← hfront]
    exact hattributed.own pre k line post heq

/-- An event that is no request to the driver and reads no line of it. -/
structure Aside (d : Nat) (e : HostEvent) : Prop where
  sent : e.sentOn d = none
  line : e.pushedLine d = none

theorem Attributed.aside (ha : Attributed qt d h s) {e : HostEvent} (he : Aside d e) :
    Attributed qt d (h ++ [e]) s := by
  have hsent : sentTasks d (h ++ [e]) = sentTasks d h := by simp [sentTasks, he.sent]
  have hpushed : pushedLines d (h ++ [e]) = pushedLines d h := by simp [pushedLines, he.line]
  have hlines : linesRead d (h ++ [e]) = linesRead d h := by
    rw [← pushedLines_snd, hpushed, pushedLines_snd]
  refine ⟨?_, ?_, ?_⟩
  · intro k m o line hmem
    obtain hmem | hmem := List.mem_append.mp hmem
    · exact ha.parsed k m o line hmem
    · have hself := he.line
      rw [← List.mem_singleton.mp hmem] at hself
      simp [HostEvent.pushedLine] at hself
  · rw [hsent, hpushed]
    exact ha.own
  · rw [hsent, hlines]
    exact ha.flight

theorem Attributed.asides (ha : Attributed qt d h s) {es : List HostEvent}
    (hes : ∀ e ∈ es, Aside d e) : Attributed qt d (h ++ es) s := by
  induction es generalizing h with
  | nil => simpa using ha
  | cons e es ih =>
    have hnext := ih (ha.aside (hes e (by simp))) fun x hx => hes x (List.mem_cons_of_mem _ hx)
    simpa using hnext

theorem Attributed.state (ha : Attributed qt d h s)
    (hcur : (s'.drivers d).cur = (s.drivers d).cur) : Attributed qt d h s' := by
  refine ⟨ha.parsed, ha.own, ?_⟩
  rw [hcur]
  exact ha.flight

/-- **What neither asks the driver nor reads its lines** keeps the invariant. -/
theorem inFlight_aside {a : Action HostState HostEvent}
    (ha : Action.Sat (Accounted [] d) a (Accounted [] d))
    (haside : ∀ s, ((a s).1.drivers d).cur = (s.drivers d).cur ∧ ∀ e ∈ (a s).2, Aside d e) :
    Action.Sat (InFlight qt d lines) a (InFlight qt d lines) := by
  intro h s hi
  obtain ⟨hcur, hevents⟩ := haside s
  refine ⟨ha h s hi.accounted, ?_⟩
  intro ho
  exact ((hi.attributed ho.of_append).state hcur).asides hevents

end Invariant

/-! ## §3. A line -/

section Line

variable {qt : Qt} {d k : Nat} {lines : List (List UInt8)} {h : List HostEvent} {s : HostState}

/-- The loop of `pumpStdout` for the task, with what is left of the buffer. -/
structure ReadingFor (qt : Qt) (d k : Nat) (lines : List (List UInt8)) (buf : List UInt8)
    (h : List HostEvent) (s : HostState) : Prop where
  accounted : AccountedWith [] d buf h s
  cur : (s.drivers d).cur = some k
  attributed : Orderly qt d lines h → Attributed qt d h s

/-- The next line is one of the driver's, and the request that it answers has been sent. -/
theorem next_line {line rest : List UInt8} (hline : newline ∉ line)
    (ha : AccountedWith [] d (line ++ newline :: rest) h s) (ho : Orderly qt d lines h) :
    line ∈ lines ∧ answered qt (linesRead d h) < (sentTasks d h).length := by
  obtain ⟨more, hmore⟩ := linesRead_prefix ha ho.nothingCleared ho.answers.complete
    ho.answers.writes
  have hbytes := ha.bytes
  rw [List.nil_append, takenBytes_eq ho.nothingCleared] at hbytes
  obtain ⟨unwritten, hwritten⟩ := ho.answers.writes
  constructor
  · -- the line and what was read before it are the first lines
    have hstream : frame newline (linesRead d h ++ [line]) ++
        (rest ++ ((s.drivers d).proc.unread ++ (s.drivers d).proc.pipe) ++ unwritten) =
        frame newline lines ++ [] := by
      rw [List.append_nil, ← hwritten, hbytes, frame_append]
      simp
    have hcomplete : ∀ l ∈ linesRead d h ++ [line], newline ∉ l := by
      intro l hl
      obtain hl | hl := List.mem_append.mp hl
      · exact ha.lines l hl
      · rw [List.mem_singleton.mp hl]
        exact hline
    obtain ⟨after, hafter, -⟩ := frame_prefix hcomplete ho.answers.complete List.not_mem_nil hstream
    rw [hafter]
    simp
  · have htake : lines.take (linesRead d h).length = linesRead d h := by
      rw [← hmore]
      simp
    have hasked := ho.answers.asked h [] (linesRead d h).length (List.append_nil h).symm
    rw [htake] at hasked
    apply hasked
    rw [hbytes]
    simp

/-- **A line is pushed to the task of the request that it answers.** -/
theorem Attributed.line (ha : Attributed qt d h s) {line : List UInt8} {m : Message}
    (hm : parseResponse qt.fromJson line = some m) (hcur : (s.drivers d).cur = some k)
    (hsent : answered qt (linesRead d h) < (sentTasks d h).length) (o : Outcome) {s' : HostState}
    (hcur' : m.isTerminal = false → (s'.drivers d).cur = some k) :
    Attributed qt d (h ++ [.pushed k m o (.line d line)]) s' := by
  have hsame : sentTasks d (h ++ [.pushed k m o (.line d line)]) = sentTasks d h := by
    simp [sentTasks, HostEvent.sentOn]
  have hpushed : pushedLines d (h ++ [.pushed k m o (.line d line)]) =
      pushedLines d h ++ [(k, line)] := by
    simp [pushedLines, HostEvent.pushedLine]
  have hread : linesRead d (h ++ [.pushed k m o (.line d line)]) = linesRead d h ++ [line] := by
    simp [linesRead, HostEvent.lineOf]
  have hlast : isLast qt line = m.isTerminal := by
    rw [isLast, hm]
  -- something is in flight, so the current task is that of the last request
  obtain hnone | ⟨hone, htask⟩ := ha.flight
  · omega
  have hk : (sentTasks d h)[answered qt (linesRead d h)]? = some k := by
    rw [← hcur, htask, List.getLast?_eq_getElem?]
    congr 1
    omega
  refine ⟨?_, ?_, ?_⟩
  · intro k' m' o' line' hmem
    obtain hmem | hmem := List.mem_append.mp hmem
    · exact ha.parsed k' m' o' line' hmem
    · cases List.mem_singleton.mp hmem
      exact hm
  · rw [hsame, hpushed]
    intro pre k' line' post heq
    obtain rfl | ⟨post', x, rfl⟩ := List.eq_nil_or_concat post
    · obtain ⟨hpre, hself⟩ := List.append_inj' heq rfl
      obtain ⟨rfl, -⟩ := Prod.mk.inj (List.cons.inj hself).1
      rw [← hpre, pushedLines_snd]
      exact hk
    · rw [List.concat_eq_append, ← List.cons_append, ← List.append_assoc] at heq
      exact ha.own pre k' line' post' (List.append_inj' heq rfl).1
  · rw [hsame, hread, answered, List.countP_append, List.countP_singleton, hlast]
    cases hterm : m.isTerminal with
    | true =>
      left
      exact hone
    | false =>
      right
      refine ⟨hone, ?_⟩
      rw [hcur' hterm, ← hcur, htask]

/-- One round of the loop keeps the lines with their tasks; it does not stop at an invalid line. -/
theorem HostState.LineRead.attributed {acc : HostState × List HostEvent} {line rest : List UInt8}
    {out : (HostState × List HostEvent) × Bool} (hread : HostState.LineRead qt d k acc line out)
    (hline : newline ∉ line)
    (hr : ReadingFor qt d k lines (line ++ newline :: rest) (h ++ acc.2) acc.1) :
    (out.2 = false → (out.1.1.drivers d).cur = some k) ∧
      (Orderly qt d lines (h ++ out.1.2) → Attributed qt d (h ++ out.1.2) out.1.1) := by
  cases hread with
  | invalid m t hparse =>
    refine ⟨fun hstop => Bool.noConfusion hstop, ?_⟩
    rw [← List.append_assoc]
    intro ho
    obtain ⟨hmem, -⟩ := next_line hline hr.accounted ho.of_append
    obtain ⟨m', hm'⟩ := ho.answers.valid line hmem
    rw [hparse] at hm'
    cases hm'
  | event m t hparse hevent =>
    refine ⟨fun _ => hr.cur, ?_⟩
    rw [← List.append_assoc]
    intro ho
    obtain ⟨-, hsent⟩ := next_line hline hr.accounted ho.of_append
    exact (hr.attributed ho.of_append).line hparse hr.cur hsent _ fun _ => hr.cur
  | finish m t hparse hdone =>
    refine ⟨fun hstop => Bool.noConfusion hstop, ?_⟩
    rw [← List.append_assoc]
    intro ho
    obtain ⟨-, hsent⟩ := next_line hline hr.accounted ho.of_append
    refine (hr.attributed ho.of_append).line hparse hr.cur hsent _ ?_
    intro hno
    rw [hdone] at hno
    cases hno

/-- A line of another driver leaves the current task alone. -/
theorem HostState.LineRead.cur_other {e : Nat} {acc : HostState × List HostEvent}
    {line : List UInt8} {out : (HostState × List HostEvent) × Bool} (he : e ≠ d)
    (hread : HostState.LineRead qt e k acc line out) :
    (out.1.1.drivers d).cur = (acc.1.drivers d).cur := by
  cases hread with
  | invalid => rfl
  | event => rfl
  | finish => rw [HostState.setDriver_of_ne _ _ (Ne.symm he), HostState.setTask_drivers]

end Line

/-! ## §4. Every operation -/

namespace HostState

section Atoms

variable {qt : Qt} {d : Nat} {lines : List (List UInt8)}

theorem setDriver_cur (s : HostState) (d e : Nat) {driver : Driver}
    (hcur : driver.cur = (s.drivers e).cur) :
    ((s.setDriver e driver).drivers d).cur = (s.drivers d).cur := by
  by_cases hde : d = e
  · subst hde
    rw [setDriver_self]
    exact hcur
  · rw [setDriver_of_ne _ _ hde]

theorem inFlight_emit {e : HostState → HostEvent} (hbytes : ∀ s, (e s).NoBytes d)
    (he : ∀ s, Aside d (e s)) :
    Action.Sat (InFlight qt d lines) (Action.emit e) (InFlight qt d lines) := by
  refine inFlight_aside (accounted_emit [] d hbytes) ?_
  intro s
  refine ⟨rfl, ?_⟩
  intro x hmem
  rw [List.mem_singleton.mp hmem]
  exact he s

variable (e k : Nat)

theorem inFlight_push (msg : Message) (settle : TaskState → TaskState) :
    Action.Sat (InFlight qt d lines) (push k .host msg settle) (InFlight qt d lines) := by
  refine inFlight_aside (accounted_push [] d k msg settle) ?_
  intro s
  refine ⟨rfl, ?_⟩
  intro x hmem
  rw [List.mem_singleton.mp hmem]
  exact ⟨rfl, rfl⟩

theorem inFlight_gaveUp :
    Action.Sat (InFlight qt d lines) (Action.emit fun s => .gaveUp k (s.isEarly k))
      (InFlight qt d lines) :=
  inFlight_emit (fun _ => ⟨rfl, rfl, rfl⟩) fun _ => ⟨rfl, rfl⟩

theorem inFlight_forceTerminal (code : Int) (error : String) :
    Action.Sat (InFlight qt d lines) (forceTerminal k code error) (InFlight qt d lines) := by
  refine Action.Sat.bind fun s₀ => ?_
  split_ifs
  · exact Action.Sat.skip.atState _
  · exact (inFlight_push k _ _).atState _

theorem inFlight_abandon : Action.Sat (InFlight qt d lines) (abandon k) (InFlight qt d lines) := by
  refine Action.Sat.bind fun s₀ => ?_
  split_ifs
  · exact Action.Sat.skip.atState _
  · exact Action.Sat.seq ((inFlight_gaveUp k).atState _) (inFlight_forceTerminal k _ _)

theorem inFlight_clearBuf :
    Action.Sat (InFlight qt d lines) (clearBuf e) (InFlight qt d lines) := by
  refine inFlight_aside (accounted_clearBuf [] d e) ?_
  intro s
  refine ⟨setDriver_cur s d e rfl, ?_⟩
  intro x hmem
  rw [List.mem_singleton.mp hmem]
  exact ⟨rfl, rfl⟩

/-- The lines of the driver. -/
theorem inFlight_readLines_own :
    Action.Sat (fun h s => (s.drivers d).cur = some k ∧ InFlight qt d lines h s) (readLines qt d k)
      (InFlight qt d lines) := by
  intro h s hs
  obtain ⟨hcur, hi⟩ := hs
  have hloop : Orderly qt d lines
        (h ++ (forLines newline (pumpLine qt d k) (s, []) (s.drivers d).buf).1.2) →
      Attributed qt d (h ++ (forLines newline (pumpLine qt d k) (s, []) (s.drivers d).buf).1.2)
        (forLines newline (pumpLine qt d k) (s, []) (s.drivers d).buf).1.1 := by
    refine forLines_rule
      (fun (acc : HostState × List HostEvent) rest =>
        ReadingFor qt d k lines rest (h ++ acc.2) acc.1)
      (fun acc _ => Orderly qt d lines (h ++ acc.2) → Attributed qt d (h ++ acc.2) acc.1) ?_
      (fun _ _ _ hr => hr.attributed) (by simpa using ⟨hi.accounted, hcur, hi.attributed⟩)
    intro acc line rest hline hr
    have hread := pumpLine_read qt d k acc line
    obtain ⟨hgo, hattributed⟩ := hread.attributed hline hr
    split
    · exact hattributed
    · rename_i hstop
      exact ⟨hread.accounted hline hr.accounted, hgo (by simpa using hstop), hattributed⟩
  refine ⟨accounted_readLines qt [] d d k h s hi.accounted, ?_⟩
  intro ho
  exact (hloop ho).state (setDriver_cur _ d d rfl)

/-- The lines of another driver. -/
theorem inFlight_readLines_other {e : Nat} (he : e ≠ d) (k : Nat) :
    Action.Sat (InFlight qt d lines) (readLines qt e k) (InFlight qt d lines) := by
  refine inFlight_aside (accounted_readLines qt [] d e k) ?_
  intro s
  have hline : ∀ acc line out, LineRead qt e k acc line out →
      (acc.1.drivers d).cur = (s.drivers d).cur → (out.1.1.drivers d).cur = (s.drivers d).cur := by
    intro acc line out hread hcur
    rw [hread.cur_other he]
    exact hcur
  have hpush : ∀ m o line, Aside d (.pushed k m o (.line e line)) := by
    intro m o line
    exact ⟨rfl, by rw [HostEvent.pushedLine, if_neg he]⟩
  obtain ⟨hcur, hasides⟩ := forLines_aside (R := fun s' => (s'.drivers d).cur = (s.drivers d).cur)
    hline hpush rfl (s.drivers e).buf
  have hsame : ((readLines qt e k s).1.drivers d).cur =
      ((forLines newline (pumpLine qt e k) (s, []) (s.drivers e).buf).1.1.drivers d).cur :=
    setDriver_cur _ d e rfl
  exact ⟨hsame.trans hcur, hasides⟩

/-- **A pump.** -/
theorem inFlight_pumpStdout :
    Action.Sat (InFlight qt d lines) (pumpStdout qt e) (InFlight qt d lines) := by
  intro h s hs
  unfold pumpStdout
  rw [Action.bind_apply]
  cases hcur : (s.drivers e).cur with
  | none => simpa using hs
  | some k =>
    -- m_cur does not change before the lines are read
    have hread : Action.Sat (fun h s => (s.drivers e).cur = some k ∧ InFlight qt d lines h s)
        (readAll e) (fun h s => (s.drivers e).cur = some k ∧ InFlight qt d lines h s) := by
      intro h s hs
      have hsame : ((readAll e s).1.drivers e).cur = (s.drivers e).cur := setDriver_cur s e e rfl
      refine ⟨hsame.trans hs.1, ?_⟩
      exact inFlight_aside (accounted_readAll [] d e)
        (fun s => ⟨setDriver_cur s d e rfl, by intro _ hmem; cases hmem⟩) h s hs.2
    have hpumping : Action.Sat (fun h s => (s.drivers e).cur = some k ∧ InFlight qt d lines h s)
        (Action.emit fun s => .pumping e (s.stale e k) (s.overflows e))
        (fun h s => (s.drivers e).cur = some k ∧ InFlight qt d lines h s) := by
      intro h s hs
      exact ⟨hs.1, inFlight_emit (fun _ => ⟨rfl, rfl, rfl⟩) (fun _ => ⟨rfl, rfl⟩) h s hs.2⟩
    refine Action.Sat.seq hread (Action.Sat.seq hpumping (Action.Sat.bind fun s₁ => ?_)) h s
      ⟨hcur, hs⟩
    split_ifs
    -- an overflow pushes an error of the host, which is no line
    · refine Action.Sat.weaken (Action.Sat.seq (inFlight_push k _ _) (inFlight_clearBuf e))
        (fun _ _ hs => hs.2.2) fun _ _ hi => hi
    · by_cases hed : e = d
      · subst hed
        exact (inFlight_readLines_own k).atState _
      · exact (inFlight_readLines_other hed k).weaken (fun _ _ hs => hs.2.2) fun _ _ hi => hi

theorem inFlight_take : Action.Sat (InFlight qt d lines) (take k) (InFlight qt d lines) := by
  refine inFlight_aside (accounted_take [] d k) ?_
  intro s
  unfold take
  split
  · exact ⟨rfl, by simp⟩
  · split_ifs
    · refine ⟨rfl, ?_⟩
      intro x hmem
      rw [List.mem_singleton.mp hmem]
      exact ⟨rfl, rfl⟩
    · exact ⟨rfl, by simp⟩

/-- What a process does. -/
theorem inFlight_process {a : Action HostState HostEvent}
    (ha : Action.Sat (Accounted [] d) a (Accounted [] d)) (e : Nat)
    (hstate : ∀ s, ∃ proc, (a s).1 = s.setProc e proc) (hevents : ∀ s, ∀ x ∈ (a s).2, Aside d x) :
    Action.Sat (InFlight qt d lines) a (InFlight qt d lines) := by
  refine inFlight_aside ha ?_
  intro s
  obtain ⟨proc, hproc⟩ := hstate s
  refine ⟨?_, hevents s⟩
  rw [hproc]
  exact setDriver_cur s d e rfl

theorem keptByProcess_inFlight : KeptByProcess qt (InFlight qt d lines) where
  pump := inFlight_pumpStdout
  abandon := inFlight_abandon
  take := inFlight_take
  waits _ _ _ hi := ⟨AccountedWith.state hi.accounted rfl, fun ho => (hi.attributed ho).state rfl⟩
  failed h s ks timedOut hi :=
    inFlight_emit (e := fun _ => .waitFailed ks timedOut) (fun _ => ⟨rfl, rfl, rfl⟩)
      (fun _ => ⟨rfl, rfl⟩) h s hi
  write e bytes := by
    refine inFlight_process (accounted_write [] d e bytes) e (fun s => ⟨_, rfl⟩) ?_
    intro s x hmem
    rw [List.mem_singleton.mp hmem]
    exact ⟨rfl, rfl⟩
  receive e n := by
    refine inFlight_process ((keptByProcess_accounted qt [] d).receive e n) e (fun s => ⟨_, rfl⟩) ?_
    intro s x hmem
    cases hmem
  markExited e exitCode crashed := by
    refine inFlight_process ((keptByProcess_accounted qt [] d).markExited e exitCode crashed) e
      (fun s => ⟨_, rfl⟩) ?_
    intro s x hmem
    rw [List.mem_singleton.mp hmem]
    exact ⟨rfl, rfl⟩

theorem inFlight_requestError (text : String) :
    Action.Sat (InFlight qt d lines) (requestError k text) (InFlight qt d lines) :=
  Action.Sat.bind fun _ =>
    Action.Sat.seq ((inFlight_gaveUp k).atState _) (inFlight_push k _ _)

/-- **A request.**  When nothing is in flight before it, it is the one in flight after it. -/
theorem inFlight_newTask (cmd : String) (data : Json) (sent : Bool) :
    Action.Sat (fun h s => s.created = k ∧ InFlight qt d lines h s)
      (Action.seq (newTask e) (Action.emit fun _ => .requested e k cmd data sent))
      (InFlight qt d lines) := by
  intro h s hs
  obtain ⟨rfl, hi⟩ := hs
  have hacc : Action.Sat (Accounted [] d)
      (Action.seq (newTask e) (Action.emit fun _ => .requested e s.created cmd data sent))
      (Accounted [] d) :=
    Action.Sat.seq (accounted_newTask [] d e) (accounted_emit [] d fun _ => ⟨rfl, rfl, rfl⟩)
  refine ⟨hacc h s hi.accounted, ?_⟩
  show Orderly qt d lines (h ++ [.requested e s.created cmd data sent]) →
    Attributed qt d (h ++ [.requested e s.created cmd data sent]) (newTask e s).1
  intro ho
  have ha := hi.attributed ho.of_append
  by_cases hed : e = d
  · subst hed
    -- nothing is in flight, so the new request is the next to be answered
    have hidle := ho.oneInFlight h [] s.created cmd data sent rfl
    have hcur : ((newTask e s).1.drivers e).cur = some s.created := by simp [newTask]
    have hread : linesRead e (h ++ [.requested e s.created cmd data sent]) = linesRead e h := by
      simp [linesRead, HostEvent.lineOf]
    have hpushed : pushedLines e (h ++ [.requested e s.created cmd data sent]) =
        pushedLines e h := by
      simp [pushedLines, HostEvent.pushedLine]
    have hsent : sentTasks e (h ++ [.requested e s.created cmd data sent]) =
        sentTasks e h ++ if sent then [s.created] else [] := by
      cases sent <;> simp [sentTasks, HostEvent.sentOn]
    refine ⟨?_, ?_, ?_⟩
    · intro k m o line hmem
      obtain hmem | hmem := List.mem_append.mp hmem
      · exact ha.parsed k m o line hmem
      · cases List.mem_singleton.mp hmem
    · rw [hpushed, hsent]
      intro pre k line post heq
      have hk := ha.own pre k line post heq
      obtain ⟨hlt, -⟩ := List.getElem?_eq_some_iff.mp hk
      rw [List.getElem?_append_left hlt]
      exact hk
    · rw [hread, hsent, hcur, hidle]
      cases sent with
      | false => simp
      | true => simp
  -- a request on another driver
  · have haside : Aside d (.requested e s.created cmd data sent) := by
      refine ⟨?_, rfl⟩
      simp [HostEvent.sentOn, hed]
    have hcur : ((newTask e s).1.drivers d).cur = (s.drivers d).cur := by
      simp [newTask, Function.update_of_ne (Ne.symm hed)]
    exact (ha.state hcur).aside haside

theorem inFlight_request (cmd : String) (data : Json) (written : Bool) (m : Meanwhile) :
    Action.Sat (InFlight qt d lines) (request qt e cmd data written m) (InFlight qt d lines) :=
  keptByProcess_inFlight.outside.requestFrom e cmd data written m _ (fun _ => InFlight qt d lines)
    (fun k => inFlight_newTask e k cmd data written) (fun _ _ _ hi => hi)
    (fun k _ => inFlight_requestError k _) (checkSent_rule inFlight_requestError e) (inFlight_clearBuf e)

theorem inFlight_action (op : HostOp) :
    Action.Sat (InFlight qt d lines) (op.action qt) (InFlight qt d lines) :=
  keptByProcess_inFlight.action op
    (fun e cmd data written m _ => inFlight_request e cmd data written m)
    fun k code error _ => inFlight_forceTerminal k code error

end Atoms

end HostState

/-! ## §5. Every run -/

/-- **No cross-talk**, along every run with one request in flight at a time. -/
theorem no_cross_talk (qt : Qt) (drivers : Nat → Process) (d : Nat)
    (hempty : (drivers d).unread ++ (drivers d).pipe = []) (lines : List (List UInt8))
    (ops : List HostOp) :
    let h := ((hostMachine qt).run (Machine.start (freshHost drivers)) ops).history
    AnswersInOrder qt d lines h → OneInFlight qt d h → NothingCleared d h →
      NoCrossTalk qt d lines h := by
  intro h hanswers hone hno
  have hinv : InFlight qt d lines h
      ((hostMachine qt).run (Machine.start (freshHost drivers)) ops).state := by
    apply Machine.run_invariant (fun c => InFlight qt d lines c.history c.state)
    · intro c op hc
      exact HostState.inFlight_action op _ _ hc
    · refine ⟨⟨?_, ?_⟩, ?_⟩
      · simpa [wroteBytes, takenBytes, freshHost] using hempty.symm
      · intro line hline
        cases hline
      · intro _
        refine ⟨?_, ?_, Or.inl rfl⟩
        · intro k m o line hmem
          cases hmem
        · intro pre k line post heq
          exact absurd heq (by simp [pushedLines])
  exact hinv.noCrossTalk ⟨hanswers, hone, hno⟩

/-! ## §6. Two requests -/

/-- The event is a request to the driver. -/
def HostEvent.requests (d : Nat) : HostEvent → Bool
  | .requested d' _ _ _ _ => d' = d
  | _ => false

/-- What is assumed of the driver and the host, tried at every place of the history. -/
def orderlyAt (qt : Qt) (d : Nat) (lines : List (List UInt8)) (h : List HostEvent) (n : Nat) :
    Bool :=
  (List.range (lines.length + 1)).all fun i =>
    decide ((frame newline (lines.take i)).length < (wroteBytes d (h.take n)).length →
      answered qt (lines.take i) < (sentTasks d (h.take n)).length)

theorem asked_of_all {qt : Qt} {d : Nat} {lines : List (List UInt8)} {h : List HostEvent}
    (hall : (List.range (h.length + 1)).all (orderlyAt qt d lines h) = true) :
    ∀ h₁ h₂ i, h = h₁ ++ h₂ →
      (frame newline (lines.take i)).length < (wroteBytes d h₁).length →
        answered qt (lines.take i) < (sentTasks d h₁).length := by
  intro h₁ h₂ i heq hlong
  have hfront : h.take h₁.length = h₁ := by rw [heq]; simp
  have hmin : lines.take i = lines.take (min i lines.length) := by simp [List.take_eq_take_iff]
  rw [List.all_eq_true] at hall
  have hat := hall h₁.length (List.mem_range.mpr (by rw [heq, List.length_append]; omega))
  rw [orderlyAt, List.all_eq_true] at hat
  have hi := hat (min i lines.length) (List.mem_range.mpr (by omega))
  rw [decide_eq_true_eq, hfront, ← hmin] at hi
  exact hi hlong

theorem oneInFlight_of_all {qt : Qt} {d : Nat} {h : List HostEvent}
    (hall : (List.range h.length).all (fun n => !(h[n]?.any (HostEvent.requests d)) ||
      answered qt (linesRead d (h.take n)) = (sentTasks d (h.take n)).length) = true) :
    OneInFlight qt d h := by
  intro h₁ h₂ k cmd data sent heq
  have hfront : h.take h₁.length = h₁ := by rw [heq]; simp
  have hevent : h[h₁.length]? = some (.requested d k cmd data sent) := by rw [heq]; simp
  rw [List.all_eq_true] at hall
  have hat := hall h₁.length (List.mem_range.mpr (by rw [heq]; simp))
  rw [hfront, hevent] at hat
  simpa [HostEvent.requests] using hat

/-- Two requests, each read to its end before the next. -/
def oneByOne : List HostOp :=
  [.request 0 "scan" (.obj []) true {}, .write 0 (doneLine ++ [newline]), .deliver 0 64,
    .pumpStdout 0, .request 0 "stop" (.obj []) true {}, .write 0 (doneLine ++ [newline]),
    .deliver 0 64, .pumpStdout 0]

/-- Each of the two answers reaches its own task. -/
theorem answers_reach_their_tasks :
    NoCrossTalk sampleQt 0 [doneLine, doneLine]
      ((hostMachine sampleQt).run (Machine.start (freshHost fun _ => {})) oneByOne).history := by
  refine no_cross_talk sampleQt (fun _ => {}) 0 rfl [doneLine, doneLine] oneByOne
    ⟨?_, ?_, ?_, asked_of_all (by decide +kernel)⟩ (oneInFlight_of_all (by decide +kernel)) ?_
  · intro l hl
    rw [show l = doneLine by simpa using hl]
    exact doneLine_response.complete doneLine (by simp)
  · intro l hl
    rw [show l = doneLine by simpa using hl]
    exact ⟨doneMessage, rfl⟩
  · exact List.isPrefixOf_iff_prefix.mp (by decide +kernel)
  · exact (readFirst_of_all (d := 0) (k := 0) (by decide +kernel)).nothingCleared

/-- Two requests, the second before the first is answered. -/
def twoAtOnce : List HostOp :=
  [.request 0 "scan" (.obj []) true {}, .request 0 "stop" (.obj []) true {},
    .write 0 (doneLine ++ [newline]), .deliver 0 64, .pumpStdout 0]

/-- The answer to the first request reaches the task of the second. -/
theorem late_answer_misattributed :
    let h := ((hostMachine sampleQt).run (Machine.start (freshHost fun _ => {})) twoAtOnce).history
    AnswersInOrder sampleQt 0 [doneLine] h ∧ pushedLines 0 h = [(1, doneLine)] ∧
      ¬ NoCrossTalk sampleQt 0 [doneLine] h := by
  intro h
  have hpushed : pushedLines 0 h = [(1, doneLine)] := by rfl
  refine ⟨⟨?_, ?_, ?_, asked_of_all (by decide +kernel)⟩, hpushed, ?_⟩
  · exact doneLine_response.complete
  · intro l hl
    rw [List.mem_singleton.mp hl]
    exact ⟨doneMessage, rfl⟩
  · exact List.isPrefixOf_iff_prefix.mp (by decide +kernel)
  · intro hno
    have hown := hno.own [] 1 doneLine [] hpushed
    have hfirst : (sentTasks 0 h)[answered sampleQt ([doneLine].take 0)]? = some 0 := by rfl
    rw [List.length_nil, hfirst] at hown
    cases hown

end Stdiolink.Host
