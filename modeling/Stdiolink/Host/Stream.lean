/-
  Stdiolink.Host.Stream — the bytes of a driver's standard output.

  A byte that a driver has written is in the pipe, received and not read, or in `m_buf`; or
  it was in a line that was read, or in a buffer that was cleared.  The lines are read in the
  order in which they were written.

  Main results:
    * `pumpLine_read`  — what one round of the loop of `pumpStdout` does;
    * `accounted_run`  — along every run no byte of the output is lost, moved or read twice.
-/
import Stdiolink.Host.Rules

namespace Stdiolink.Host

open Stdiolink.Lib
open Stdiolink.Protocol

/-! ## §1. What the history records of the output -/

/-- What the driver writes with this event. -/
def HostEvent.wroteBy (d : Nat) : HostEvent → List UInt8
  | .wrote d' bytes => if d' = d then bytes else []
  | _ => []

/-- What this event takes out of the driver's buffer. -/
def HostEvent.takenFrom (d : Nat) : HostEvent → List UInt8
  | .pushed _ _ _ (.line d' line) => if d' = d then line ++ [newline] else []
  | .cleared d' bytes => if d' = d then bytes else []
  | _ => []

/-- The line of the driver that is read with this event. -/
def HostEvent.lineOf (d : Nat) : HostEvent → Option (List UInt8)
  | .pushed _ _ _ (.line d' line) => if d' = d then some line else none
  | _ => none

/-- Everything the driver has written. -/
def wroteBytes (d : Nat) (h : List HostEvent) : List UInt8 := h.flatMap (HostEvent.wroteBy d)

/-- Everything that was taken out of the driver's buffer. -/
def takenBytes (d : Nat) (h : List HostEvent) : List UInt8 := h.flatMap (HostEvent.takenFrom d)

/-- The lines of the driver that were read. -/
def linesRead (d : Nat) (h : List HostEvent) : List (List UInt8) :=
  h.filterMap (HostEvent.lineOf d)

@[simp] theorem wroteBytes_append (d : Nat) (h h' : List HostEvent) :
    wroteBytes d (h ++ h') = wroteBytes d h ++ wroteBytes d h' := List.flatMap_append

@[simp] theorem takenBytes_append (d : Nat) (h h' : List HostEvent) :
    takenBytes d (h ++ h') = takenBytes d h ++ takenBytes d h' := List.flatMap_append

@[simp] theorem linesRead_append (d : Nat) (h h' : List HostEvent) :
    linesRead d (h ++ h') = linesRead d h ++ linesRead d h' := List.filterMap_append

/-- Nothing that was read into the buffer was cleared. -/
def NothingCleared (d : Nat) (h : List HostEvent) : Prop :=
  ∀ bytes, HostEvent.cleared d bytes ∈ h → bytes = []

variable {d : Nat}

theorem NothingCleared.of_append {h h' : List HostEvent} (hno : NothingCleared d (h ++ h')) :
    NothingCleared d h :=
  fun bytes hmem => hno bytes (List.mem_append_left _ hmem)

theorem linesRead_cons (d : Nat) (e : HostEvent) (h : List HostEvent) :
    linesRead d (e :: h) = (e.lineOf d).toList ++ linesRead d h := by
  unfold linesRead
  rw [List.filterMap_cons]
  cases e.lineOf d with
  | none => rfl
  | some line => rfl

/-- An event takes the line that is read with it, if it does not clear the buffer. -/
theorem takenFrom_eq {e : HostEvent} (hno : ∀ bytes, e = .cleared d bytes → bytes = []) :
    e.takenFrom d = frame newline (e.lineOf d).toList := by
  cases e with
  | pushed k m o origin =>
    cases origin with
    | host => rfl
    | line d' line =>
      by_cases hd : d' = d
      · simp [HostEvent.takenFrom, HostEvent.lineOf, hd]
      · simp [HostEvent.takenFrom, HostEvent.lineOf, hd]
  | cleared d' bytes =>
    by_cases hd : d' = d
    · subst hd
      rw [hno bytes rfl]
      simp [HostEvent.takenFrom, HostEvent.lineOf]
    · simp [HostEvent.takenFrom, HostEvent.lineOf, hd]
  | _ => rfl

/-- Where nothing was cleared, what was taken are the lines that were read. -/
theorem takenBytes_eq {h : List HostEvent} (hno : NothingCleared d h) :
    takenBytes d h = frame newline (linesRead d h) := by
  induction h with
  | nil => rfl
  | cons e h ih =>
    have hrest := ih fun bytes hmem => hno bytes (List.mem_cons_of_mem _ hmem)
    have hhead := takenFrom_eq (d := d) (e := e) fun bytes heq => hno bytes (by rw [heq]; simp)
    rw [linesRead_cons, frame_append, ← hhead, ← hrest]
    rfl

/-- An event that neither writes nor takes. -/
structure HostEvent.NoBytes (d : Nat) (e : HostEvent) : Prop where
  wrote : e.wroteBy d = []
  taken : e.takenFrom d = []
  line : e.lineOf d = none

/-! ## §2. No byte is lost -/

/-- What the driver has written since the host had `start` of its output in hand, with `buf` for
what is left of the buffer. -/
structure AccountedWith (start : List UInt8) (d : Nat) (buf : List UInt8) (h : List HostEvent)
    (s : HostState) : Prop where
  bytes : start ++ wroteBytes d h =
    takenBytes d h ++ (buf ++ ((s.drivers d).proc.unread ++ (s.drivers d).proc.pipe))
  lines : ∀ line ∈ linesRead d h, newline ∉ line

/-- **No byte is lost**, and none is moved. -/
def Accounted (start : List UInt8) (d : Nat) (h : List HostEvent) (s : HostState) : Prop :=
  AccountedWith start d (s.drivers d).buf h s

section Accounted

variable {start : List UInt8} {d : Nat} {buf : List UInt8} {h : List HostEvent} {s : HostState}

theorem AccountedWith.noBytes (ha : AccountedWith start d buf h s) {e : HostEvent}
    (he : e.NoBytes d) : AccountedWith start d buf (h ++ [e]) s := by
  refine ⟨?_, ?_⟩
  · simpa [wroteBytes, takenBytes, he.wrote, he.taken] using ha.bytes
  · simpa [linesRead, he.line] using ha.lines

/-- Only the process of the driver is looked at. -/
theorem AccountedWith.state (ha : AccountedWith start d buf h s) {s' : HostState}
    (hproc : (s'.drivers d).proc.unread ++ (s'.drivers d).proc.pipe =
      (s.drivers d).proc.unread ++ (s.drivers d).proc.pipe) :
    AccountedWith start d buf h s' := by
  refine ⟨?_, ha.lines⟩
  rw [hproc]
  exact ha.bytes

/-- A line that is read is one that was written. -/
theorem AccountedWith.line {line rest : List UInt8} (hline : newline ∉ line)
    (ha : AccountedWith start d (line ++ newline :: rest) h s) (k : Nat) (m : Message)
    (o : Outcome) : AccountedWith start d rest (h ++ [.pushed k m o (.line d line)]) s := by
  refine ⟨?_, ?_⟩
  · have hbytes := ha.bytes
    simp only [wroteBytes_append, takenBytes_append]
    simp only [wroteBytes, takenBytes, List.flatMap_cons, List.flatMap_nil, HostEvent.wroteBy,
      HostEvent.takenFrom, if_true, List.append_nil]
    simpa [wroteBytes, takenBytes] using hbytes
  · intro l hl
    rw [linesRead_append, List.mem_append] at hl
    obtain hl | hl := hl
    · exact ha.lines l hl
    · have heq : l = line := by simpa [linesRead, HostEvent.lineOf] using hl
      rw [heq]
      exact hline

end Accounted

namespace HostState

@[simp] theorem setTask_drivers (s : HostState) (k : Nat) (t : TaskState) :
    (s.setTask k t).drivers = s.drivers := rfl

@[simp] theorem setDriver_self (s : HostState) (d : Nat) (driver : Driver) :
    (s.setDriver d driver).drivers d = driver := by
  simp [setDriver]

theorem setDriver_of_ne (s : HostState) {d e : Nat} (driver : Driver) (hde : d ≠ e) :
    (s.setDriver e driver).drivers d = s.drivers d := by
  simp [setDriver, Function.update_of_ne hde]

/-! ## §3. One round of the loop -/

/-- What `pumpStdout` does with a line for the task: an end in an error, an event, or the end that
the line says. -/
inductive LineRead (qt : Qt) (d k : Nat) (acc : HostState × List HostEvent) (line : List UInt8) :
    (HostState × List HostEvent) × Bool → Prop where
  | invalid (m : Message) (t : TaskState) :
      parseResponse qt.fromJson line = none → t.terminal = true →
      t.queue = (acc.1.tasks k).queue ++ [m] →
        LineRead qt d k acc line
          ((acc.1.setTask k t, acc.2 ++ [.pushed k m t.outcome (.line d line)]), true)
  | event (m : Message) (t : TaskState) :
      parseResponse qt.fromJson line = some m → m.isTerminal = false →
      t.terminal = (acc.1.tasks k).terminal → t.queue = (acc.1.tasks k).queue ++ [m] →
        LineRead qt d k acc line
          ((acc.1.setTask k t, acc.2 ++ [.pushed k m t.outcome (.line d line)]), false)
  | finish (m : Message) (t : TaskState) :
      parseResponse qt.fromJson line = some m → m.isTerminal = true → t.terminal = true →
      t.queue = (acc.1.tasks k).queue ++ [m] →
        LineRead qt d k acc line
          (((acc.1.setTask k t).setDriver d { acc.1.drivers d with cur := none },
            acc.2 ++ [.pushed k m t.outcome (.line d line)]), true)

theorem pumpLine_read (qt : Qt) (d k : Nat) (acc : HostState × List HostEvent)
    (line : List UInt8) : LineRead qt d k acc line (pumpLine qt d k acc line) := by
  unfold pumpLine
  cases hparse : parseResponse qt.fromJson line with
  | none => exact .invalid _ _ hparse rfl rfl
  | some m =>
    dsimp only
    -- an end resets m_cur, an event does not
    by_cases hm : m.isTerminal = true
    · rw [if_pos hm]
      simp only [Action.extend, acceptMessage, push, resetCur, Action.modify_apply, hm, if_true,
        List.append_nil]
      exact .finish m _ hparse hm rfl rfl
    · rw [if_neg hm]
      simp only [Action.extend, acceptMessage, push, hm, Bool.false_eq_true, if_false]
      exact .event m _ hparse (by simpa using hm) rfl rfl

variable {qt : Qt} {acc : HostState × List HostEvent} {line : List UInt8}
  {out : (HostState × List HostEvent) × Bool}

/-- The processes and buffers of the drivers are as before a line was read. -/
theorem LineRead.drivers {d k : Nat} (hread : LineRead qt d k acc line out) (e : Nat) :
    (out.1.1.drivers e).proc = (acc.1.drivers e).proc ∧
      (out.1.1.drivers e).buf = (acc.1.drivers e).buf := by
  cases hread with
  | invalid => exact ⟨rfl, rfl⟩
  | event => exact ⟨rfl, rfl⟩
  | finish =>
    by_cases hed : e = d
    · subst hed
      rw [setDriver_self]
      exact ⟨rfl, rfl⟩
    · rw [setDriver_of_ne _ _ hed]
      exact ⟨rfl, rfl⟩

/-- One event is recorded for the line. -/
theorem LineRead.events {d k : Nat} (hread : LineRead qt d k acc line out) :
    ∃ m o, out.1.2 = acc.2 ++ [.pushed k m o (.line d line)] := by
  cases hread with
  | invalid m t => exact ⟨m, t.outcome, rfl⟩
  | event m t => exact ⟨m, t.outcome, rfl⟩
  | finish m t => exact ⟨m, t.outcome, rfl⟩

/-- A line that is read for any task is accounted for. -/
theorem LineRead.accounted {start : List UInt8} {d k : Nat} {rest : List UInt8} {h : List HostEvent}
    (hread : LineRead qt d k acc line out) (hline : newline ∉ line)
    (ha : AccountedWith start d (line ++ newline :: rest) (h ++ acc.2) acc.1) :
    AccountedWith start d rest (h ++ out.1.2) out.1.1 := by
  -- the line goes from the buffer to the lines that were read
  obtain ⟨m, o, hevents⟩ := hread.events
  rw [hevents, ← List.append_assoc]
  exact (ha.line hline k m o).state (by rw [(hread.drivers d).1])

/-- The lines of a driver, for one that they are nothing to: what each line keeps of the state is
kept, and nothing is recorded but the messages of the lines. -/
theorem forLines_aside {e k : Nat} {R : HostState → Prop} {P : HostEvent → Prop}
    (hline : ∀ acc line out, LineRead qt e k acc line out → R acc.1 → R out.1.1)
    (hpush : ∀ m o line, P (.pushed k m o (.line e line))) {s : HostState} (hs : R s)
    (buf : List UInt8) :
    R (forLines newline (pumpLine qt e k) (s, []) buf).1.1 ∧
      ∀ x ∈ (forLines newline (pumpLine qt e k) (s, []) buf).1.2, P x := by
  -- the rest of the buffer does not matter
  refine forLines_rule (fun (acc : HostState × List HostEvent) _ => R acc.1 ∧ ∀ x ∈ acc.2, P x)
    (fun acc _ => R acc.1 ∧ ∀ x ∈ acc.2, P x) ?_ (fun _ _ _ hr => hr) ⟨hs, by simp⟩
  intro acc line rest _ hr
  obtain ⟨hstate, hall⟩ := hr
  have hread := pumpLine_read qt e k acc line
  have hnext : R (pumpLine qt e k acc line).1.1 ∧ ∀ x ∈ (pumpLine qt e k acc line).1.2, P x := by
    refine ⟨hline acc line _ hread hstate, ?_⟩
    obtain ⟨m, o, hevents⟩ := hread.events
    rw [hevents]
    intro x hx
    obtain hx | hx := List.mem_append.mp hx
    · exact hall x hx
    · rw [List.mem_singleton.mp hx]
      exact hpush m o line
  split
  · exact hnext
  · exact hnext

/-! ## §4. Every operation -/

section Atoms

variable (qt : Qt) (start : List UInt8) (d : Nat)

/-- What leaves the buffer and the process of the driver alone. -/
theorem accounted_modify {f : HostState → HostState}
    (hf : ∀ s, ((f s).drivers d).buf = (s.drivers d).buf ∧
      ((f s).drivers d).proc.unread ++ ((f s).drivers d).proc.pipe =
        (s.drivers d).proc.unread ++ (s.drivers d).proc.pipe) :
    Action.Sat (Accounted start d) (Action.modify f) (Accounted start d) := by
  refine Action.Sat.modify ?_
  intro h s ha
  rw [Accounted, (hf s).1]
  exact AccountedWith.state ha (hf s).2

theorem accounted_emit {e : HostState → HostEvent} (he : ∀ s, (e s).NoBytes d) :
    Action.Sat (Accounted start d) (Action.emit e) (Accounted start d) :=
  Action.Sat.emit fun _ _ ha => AccountedWith.noBytes ha (he _)

variable (e k : Nat)

/-- A message of the host itself. -/
theorem accounted_push (msg : Message) (settle : TaskState → TaskState) :
    Action.Sat (Accounted start d) (push k .host msg settle) (Accounted start d) := by
  intro h s ha
  have hstate : Accounted start d h (push k .host msg settle s).1 := AccountedWith.state ha rfl
  exact AccountedWith.noBytes hstate ⟨rfl, rfl, rfl⟩

theorem accounted_forceTerminal (code : Int) (error : String) :
    Action.Sat (Accounted start d) (forceTerminal k code error) (Accounted start d) := by
  refine Action.Sat.bind fun s₀ => ?_
  split_ifs
  · exact Action.Sat.skip.atState _
  · exact (accounted_push start d k _ _).atState _

theorem accounted_abandon : Action.Sat (Accounted start d) (abandon k) (Accounted start d) := by
  refine Action.Sat.bind fun s₀ => ?_
  split_ifs
  · exact Action.Sat.skip.atState _
  · exact Action.Sat.seq ((accounted_emit start d fun _ => ⟨rfl, rfl, rfl⟩).atState _)
      (accounted_forceTerminal start d k _ _)

theorem accounted_take : Action.Sat (Accounted start d) (take k) (Accounted start d) := by
  intro h s ha
  unfold take
  split
  · simpa using ha
  · split_ifs
    · rename_i m rest _ _
      have hstate : Accounted start d h (s.setTask k { s.tasks k with queue := rest }) :=
        AccountedWith.state ha rfl
      exact AccountedWith.noBytes hstate ⟨rfl, rfl, rfl⟩
    · simpa using ha

/-- `m_buf.append(m_proc.readAllStandardOutput())`. -/
theorem accounted_readAll : Action.Sat (Accounted start d) (readAll e) (Accounted start d) := by
  refine Action.Sat.modify ?_
  intro h s ha
  by_cases hde : d = e
  · subst hde
    refine ⟨?_, ha.lines⟩
    -- the bytes move from the process to the buffer
    rw [ha.bytes, setDriver_self]
    simp
  · rw [Accounted, setDriver_of_ne _ _ hde]
    exact AccountedWith.state ha (by rw [setDriver_of_ne _ _ hde])

/-- What is cleared is recorded. -/
theorem accounted_clearBuf : Action.Sat (Accounted start d) (clearBuf e) (Accounted start d) := by
  intro h s ha
  by_cases hde : d = e
  · subst hde
    refine ⟨?_, ?_⟩
    -- the cleared bytes count as taken
    · simp only [clearBuf, Action.seq_apply, Action.emit_apply, Action.modify_apply,
        wroteBytes_append, takenBytes_append, setBuf, setDriver_self]
      have hbytes := ha.bytes
      simp only [wroteBytes, takenBytes] at hbytes ⊢
      simpa [HostEvent.wroteBy, HostEvent.takenFrom] using hbytes
    · intro line hline
      apply ha.lines
      simpa [clearBuf, linesRead, HostEvent.lineOf] using hline
  · have hquiet : (HostEvent.cleared e (s.drivers e).buf).NoBytes d := by
      refine ⟨rfl, ?_, rfl⟩
      rw [HostEvent.takenFrom, if_neg (Ne.symm hde)]
    have hemit := AccountedWith.noBytes ha hquiet
    show Accounted start d (h ++ [.cleared e (s.drivers e).buf]) (s.setBuf e [])
    rw [Accounted, setBuf, setDriver_of_ne _ _ hde]
    exact AccountedWith.state hemit (by rw [setDriver_of_ne _ _ hde])

/-- The loop takes every line that it reads off the buffer. -/
theorem accounted_readLines :
    Action.Sat (Accounted start d) (readLines qt e k) (Accounted start d) := by
  intro h s ha
  by_cases hde : d = e
  · subst hde
    have hloop : AccountedWith start d
        (forLines newline (pumpLine qt d k) (s, []) (s.drivers d).buf).2
        (h ++ (forLines newline (pumpLine qt d k) (s, []) (s.drivers d).buf).1.2)
        (forLines newline (pumpLine qt d k) (s, []) (s.drivers d).buf).1.1 := by
      refine forLines_rule
        (fun (acc : HostState × List HostEvent) rest =>
          AccountedWith start d rest (h ++ acc.2) acc.1)
        (fun acc rest => AccountedWith start d rest (h ++ acc.2) acc.1) ?_ (fun _ _ _ hr => hr)
        (by simpa [Accounted] using ha)
      intro acc line rest hline hr
      have hnext := (pumpLine_read qt d k acc line).accounted hline hr
      split
      · exact hnext
      · exact hnext
    unfold Accounted readLines
    dsimp only [setBuf]
    rw [setDriver_self]
    exact hloop.state (by rw [setDriver_self])
  · have hloop : Accounted start d
        (h ++ (forLines newline (pumpLine qt e k) (s, []) (s.drivers e).buf).1.2)
        (forLines newline (pumpLine qt e k) (s, []) (s.drivers e).buf).1.1 := by
      refine forLines_rule
        (fun (acc : HostState × List HostEvent) _ => Accounted start d (h ++ acc.2) acc.1)
        (fun acc _ => Accounted start d (h ++ acc.2) acc.1) ?_ (fun _ _ _ hr => hr)
        (by simpa using ha)
      intro acc line rest hline hr
      have hread := pumpLine_read qt e k acc line
      obtain ⟨m, o, hevents⟩ := hread.events
      have hnext : Accounted start d (h ++ (pumpLine qt e k acc line).1.2)
          (pumpLine qt e k acc line).1.1 := by
        rw [hevents, ← List.append_assoc, Accounted, (hread.drivers d).2]
        have hother : (HostEvent.pushed k m o (.line e line)).NoBytes d := by
          refine ⟨rfl, ?_, ?_⟩
          · rw [HostEvent.takenFrom, if_neg (Ne.symm hde)]
          · rw [HostEvent.lineOf, if_neg (Ne.symm hde)]
        exact (AccountedWith.noBytes hr hother).state (by rw [(hread.drivers d).1])
      split
      · exact hnext
      · exact hnext
    unfold Accounted readLines
    dsimp only [setBuf]
    rw [setDriver_of_ne _ _ hde]
    exact AccountedWith.state hloop (by rw [setDriver_of_ne _ _ hde])

theorem accounted_pumpStdout :
    Action.Sat (Accounted start d) (pumpStdout qt e) (Accounted start d) := by
  refine Action.Sat.bind fun s₀ => ?_
  cases (s₀.drivers e).cur with
  | none => exact Action.Sat.skip.atState _
  | some k =>
    refine Action.Sat.seq ((accounted_readAll start d e).atState _)
      (Action.Sat.seq (accounted_emit start d fun _ => ⟨rfl, rfl, rfl⟩)
        (Action.Sat.bind fun s₁ => ?_))
    split_ifs
    · exact Action.Sat.seq ((accounted_push start d k _ _).atState _) (accounted_clearBuf start d e)
    · exact (accounted_readLines qt start d e k).atState _

theorem accounted_write (bytes : List UInt8) :
    Action.Sat (Accounted start d) (write e bytes) (Accounted start d) := by
  intro h s ha
  by_cases hde : d = e
  · subst hde
    refine ⟨?_, ?_⟩
    · have hbytes := ha.bytes
      simp only [write, Action.seq_apply, Action.emit_apply, Action.modify_apply,
        wroteBytes_append, takenBytes_append, setProc, setDriver_self]
      simp only [wroteBytes, takenBytes] at hbytes ⊢
      simp only [List.flatMap_cons, List.flatMap_nil, List.nil_append, HostEvent.wroteBy,
        HostEvent.takenFrom, if_true, List.append_nil, ← List.append_assoc] at hbytes ⊢
      rw [hbytes]
    · intro line hline
      apply ha.lines
      simpa [write, linesRead, HostEvent.lineOf] using hline
  · have hquiet : (HostEvent.wrote e bytes).NoBytes d := by
      refine ⟨?_, rfl, rfl⟩
      rw [HostEvent.wroteBy, if_neg (Ne.symm hde)]
    show Accounted start d (h ++ [.wrote e bytes]) (s.setProc e _)
    rw [Accounted, setProc, setDriver_of_ne _ _ hde]
    exact (AccountedWith.noBytes ha hquiet).state (by rw [setDriver_of_ne _ _ hde])

/-- A change of a process that keeps the bytes under way. -/
theorem accounted_setProc (proc : Process → Process)
    (hproc : ∀ p, (proc p).unread ++ (proc p).pipe = p.unread ++ p.pipe) :
    Action.Sat (Accounted start d)
      (Action.modify fun s => s.setProc e (proc (s.drivers e).proc)) (Accounted start d) := by
  apply accounted_modify
  intro s
  by_cases hde : d = e
  · subst hde
    rw [setProc, setDriver_self]
    exact ⟨rfl, hproc _⟩
  · rw [setProc, setDriver_of_ne _ _ hde]
    exact ⟨rfl, rfl⟩

theorem keptByProcess_accounted : KeptByProcess qt (Accounted start d) where
  pump := accounted_pumpStdout qt start d
  abandon := accounted_abandon start d
  take := accounted_take start d
  waits _ _ _ ha := AccountedWith.state ha rfl
  failed _ _ _ _ ha := AccountedWith.noBytes ha ⟨rfl, rfl, rfl⟩
  write := accounted_write start d
  receive e n := accounted_setProc start d e
    (fun p => { p with unread := p.unread ++ p.pipe.take n, pipe := p.pipe.drop n })
    fun p => by simp
  markExited e exitCode crashed := by
    refine Action.Sat.seq (accounted_setProc start d e
      (fun p => { p with running := false, exitCode := exitCode, crashed := crashed })
      fun p => rfl) ?_
    exact accounted_emit start d fun _ => ⟨rfl, rfl, rfl⟩

theorem accounted_newTask : Action.Sat (Accounted start d) (newTask e) (Accounted start d) := by
  apply accounted_modify
  intro s
  by_cases hde : d = e
  · subst hde
    simp
  · simp [Function.update_of_ne hde]

theorem accounted_requestError (text : String) :
    Action.Sat (Accounted start d) (requestError k text) (Accounted start d) :=
  Action.Sat.bind fun _ =>
    Action.Sat.seq ((accounted_emit start d fun _ => ⟨rfl, rfl, rfl⟩).atState _)
      (accounted_push start d k _ _)

theorem accounted_request (cmd : String) (data : Json) (written : Bool) (m : Meanwhile) :
    Action.Sat (Accounted start d) (request qt e cmd data written m) (Accounted start d) := by
  refine (keptByProcess_accounted qt start d).outside.requestFrom e cmd data written m _
    (fun _ => Accounted start d) ?_ (fun _ _ _ ha => ha)
    (fun k _ => accounted_requestError start d k _) (checkSent_rule (accounted_requestError start d) e)
    (accounted_clearBuf start d e)
  intro k
  refine Action.Sat.seq ((accounted_newTask start d e).weaken (fun _ _ hs => hs.2) fun _ _ ha => ha)
    (accounted_emit start d fun _ => ⟨rfl, rfl, rfl⟩)

theorem accounted_action (op : HostOp) :
    Action.Sat (Accounted start d) (op.action qt) (Accounted start d) :=
  (keptByProcess_accounted qt start d).action op
    (fun e cmd data written m _ => accounted_request qt start d e cmd data written m)
    fun k code error _ => accounted_forceTerminal start d k code error

end Atoms

end HostState

/-- **No byte of the output is lost, moved or read twice**, along every run. -/
theorem accounted_run (qt : Qt) (d : Nat) (s : HostState) (ops : List HostOp) :
    let start := (s.drivers d).buf ++ ((s.drivers d).proc.unread ++ (s.drivers d).proc.pipe)
    Accounted start d ((hostMachine qt).run (Machine.start s) ops).history
      ((hostMachine qt).run (Machine.start s) ops).state := by
  intro start
  apply Machine.run_invariant (fun c => Accounted start d c.history c.state)
  · intro c op hc
    exact HostState.accounted_action qt start d op _ _ hc
  · refine ⟨?_, ?_⟩
    · simp [start, wroteBytes, takenBytes]
    · intro line hline
      simp [linesRead] at hline

end Stdiolink.Host
