/-
  Stdiolink.Driver.StdioMode — the stdin of a driver, `runStdioMode` of `driver/driver_core.cpp`.

  A reader thread posts the lines, and the end of input, as queued calls.  The innermost running
  event loop runs them.  A handler that waits in a loop of its own is suspended meanwhile.

  Main results:
    * `Invariant.step`  — what every step keeps that does not disturb a waiting handler;
    * `stdio_serial`    — a run without such a step serves one line at a time, in order;
    * `waiting_handler_disturbed` — a line that is run inside the wait of another is answered before
      it, and the end of input cuts the wait of an accepted request short.
-/
import Mathlib.Data.List.Infix
import Stdiolink.Lib.Machine
import Stdiolink.Lib.Work
import Stdiolink.Driver.DriverCore

namespace Stdiolink.Driver

open Stdiolink.Lib
open Stdiolink.Protocol
open Stdiolink.Meta

/-! ## §1. What a line makes the driver do -/

/-- `ICommandHandler::handle`, with what it writes to the responder. -/
abbrev Handler (σ ρ : Type) := String → Json → Work σ ρ Message

/-- What a call of `processOneLine` writes. -/
def Call.work {σ ρ : Type} (handler : Handler σ ρ) : Call → Work σ ρ Message
  | .handle cmd data => handler cmd data
  | .done code payload => .say [⟨.done, code, payload⟩]
  | .error code payload => .say [⟨.error, code, .obj payload⟩]
  | .help => .finish

/-- `processOneLine` as work on the state of the handler. -/
def DriverCore.serve {σ ρ : Type} (core : DriverCore) (vqt : ValidatorQt) (lqt : LineQt)
    (handler : Handler σ ρ) (line : List UInt8) : Work σ ρ Message :=
  (core.processOneLine vqt lqt line).2.foldr (fun call rest => (call.work handler).andThen rest)
    .finish

namespace StdioMode

/-! ## §2. The main thread and the reader -/

/-- `DriverCore::Profile`. -/
inductive Profile where
  | oneShot
  | keepAlive
  deriving DecidableEq

/-- A call that the reader posts. -/
inductive Posted where
  | line (line : List UInt8)
  | endOfInput

/-- The loop of the reader goes on, has seen the stop, or has posted the last call. -/
inductive Reader where
  | reading
  | leaving
  | done
  deriving DecidableEq

/-- A handler in a loop of its own.  A loop that is entered after the quit runs nothing. -/
structure Suspended (σ ρ : Type) where
  resume : Option ρ → Work σ ρ Message
  reply : Option ρ := none
  live : Bool

/-- The queued calls, the flags of `DriverCore` and the handlers that wait, innermost first. -/
structure StdioState (σ ρ : Type) where
  shared : σ
  queue : List Posted := []
  reader : Reader := .reading
  acceptLines : Bool := true
  stopRequested : Bool := false
  quitScheduled : Bool := false
  frames : List (Suspended σ ρ) := []
  returned : Bool := false

/-- The reader reads a line or leaves, a loop runs a call, a waiting handler gets its reply, the
innermost loop returns. -/
inductive Op (ρ : Type) where
  | readLine (line : List UInt8)
  | endOfInput
  | runPosted
  | reply (frame : Nat) (value : ρ)
  | loopReturns

inductive Event where
  | posted (line : List UInt8)
  | began (line : List UInt8)
  | wrote (message : Message)

section Model

variable {σ ρ : Type} (profile : Profile) (serve : List UInt8 → Work σ ρ Message)

namespace StdioState

variable (s : StdioState σ ρ)

/-- The loop of the reader: a line, then a look at `m_stdioStopRequested`. -/
def readLine (line : List UInt8) : StdioState σ ρ × List Event :=
  match s.reader with
  | .reading =>
      ({ s with
          queue := s.queue ++ [.line line]
          reader := if s.stopRequested then .leaving else .reading },
        [.posted line])
  | _ => (s, [])

/-- The last call that the reader posts. -/
def endOfInput : StdioState σ ρ :=
  match s.reader with
  | .done => s
  | _ => { s with queue := s.queue ++ [.endOfInput], reader := .done }

/-- `scheduleStdioQuit`, on the main thread. -/
def scheduleStdioQuit : StdioState σ ρ := { s with quitScheduled := true }

/-- The end of `handleStdioLineOnMainThread`. -/
def finishLine : StdioState σ ρ :=
  match profile with
  | .oneShot => { s with acceptLines := false, stopRequested := true }.scheduleStdioQuit
  | .keepAlive => s

/-- Run the work of a line to its next wait, or to the end of the line. -/
def goOn (work : Work σ ρ Message) : StdioState σ ρ × List Event :=
  match work.run s.shared with
  | (shared, out, .wait resume) =>
      ({ s with
          shared := shared
          frames := { resume := resume, live := !s.quitScheduled } :: s.frames },
        out.map .wrote)
  | (shared, out, _) => ({ s with shared := shared }.finishLine profile, out.map .wrote)

/-- `handleStdioLineOnMainThread`. -/
def handleStdioLineOnMainThread (line : List UInt8) : StdioState σ ρ × List Event :=
  if !s.acceptLines then (s, [])
  else if isBlank line then (s, [])
  else ((s.goOn profile (serve line)).1, .began line :: (s.goOn profile (serve line)).2)

/-- Whether the innermost loop runs anything. -/
def running : Bool :=
  match s.frames with
  | [] => !s.returned
  | frame :: _ => frame.live

/-- The innermost loop runs the next queued call. -/
def runPosted : StdioState σ ρ × List Event :=
  if !s.running then (s, [])
  else
    match s.queue with
    | [] => (s, [])
    | .line line :: rest => { s with queue := rest }.handleStdioLineOnMainThread profile serve line
    | .endOfInput :: rest =>
        ({ s with queue := rest, stopRequested := true }.scheduleStdioQuit, [])

/-- The reply of a handler that waits. -/
def replyTo (i : Nat) (value : ρ) : StdioState σ ρ :=
  if !s.running then s
  else { s with frames := s.frames.modify i fun frame => { frame with reply := some value } }

/-- The innermost loop returns: that of a handler with its reply or on the quit, that of the
application on the quit. -/
def loopReturns : StdioState σ ρ × List Event :=
  match s.frames with
  | [] => (if s.quitScheduled then { s with returned := true } else s, [])
  | frame :: rest =>
      if s.quitScheduled || frame.reply.isSome then
        { s with frames := rest }.goOn profile (frame.resume frame.reply)
      else (s, [])

end StdioState

/-- One step of the driver. -/
def step (s : StdioState σ ρ) : Op ρ → StdioState σ ρ × List Event
  | .readLine line => s.readLine line
  | .endOfInput => (s.endOfInput, [])
  | .runPosted => s.runPosted profile serve
  | .reply i value => (s.replyTo i value, [])
  | .loopReturns => s.loopReturns profile

/-- `runStdioMode`. -/
def machine : Machine (StdioState σ ρ) (Op ρ) Event := ⟨step profile serve⟩

end Model

/-! ## §3. The sequential reference -/

/-- The lines that were posted. -/
def postedLines (h : List Event) : List (List UInt8) :=
  h.filterMap fun
    | .posted line => some line
    | _ => none

/-- The lines whose request was accepted. -/
def begunLines (h : List Event) : List (List UInt8) :=
  h.filterMap fun
    | .began line => some line
    | _ => none

/-- The lines on stdout. -/
def written (h : List Event) : List Message :=
  h.filterMap fun
    | .wrote message => some message
    | _ => none

/-- The lines that are served: those that are not blank, in OneShot the first of them. -/
def reference (profile : Profile) (lines : List (List UInt8)) : List (List UInt8) :=
  match profile with
  | .oneShot => (lines.filter fun line => !isBlank line).take 1
  | .keepAlive => lines.filter fun line => !isBlank line

section Spec

variable {σ ρ : Type} (profile : Profile) (serve : List UInt8 → Work σ ρ Message) (shared₀ : σ)

/-- The accepted lines were served in turn, each with its replies, and at most the last one still
waits. -/
def ServedInTurn (h : List Event) (s : StdioState σ ρ) : Prop :=
  match s.frames with
  | [] => Work.InTurn serve shared₀ (begunLines h) (written h) s.shared
  | [frame] =>
      Work.Underway serve shared₀ (begunLines h) (written h) (.wait frame.resume) s.shared
  | _ => False

/-- **One request at a time.**  The lines are taken in order, each is served to its end before the
next, `run` returns when all are served and is told to as soon as they are. -/
structure StrictlySerial (c : Machine.Config (StdioState σ ρ) Event) : Prop where
  ordered : begunLines c.history <+: reference profile (postedLines c.history)
  inTurn : ServedInTurn serve shared₀ c.history c.state
  whole : c.state.returned = true →
    begunLines c.history = reference profile (postedLines c.history) ∧ c.state.frames = []
  ends : c.state.frames = [] →
    (c.state.reader = .done ∧ c.state.queue = []) ∨
      (profile = .oneShot ∧ begunLines c.history ≠ []) → c.state.quitScheduled = true

end Spec

/-! ## §4. Lemmas of the history and of the reference -/

@[simp] theorem postedLines_append (h h' : List Event) :
    postedLines (h ++ h') = postedLines h ++ postedLines h' := List.filterMap_append

@[simp] theorem begunLines_append (h h' : List Event) :
    begunLines (h ++ h') = begunLines h ++ begunLines h' := List.filterMap_append

@[simp] theorem written_append (h h' : List Event) :
    written (h ++ h') = written h ++ written h' := List.filterMap_append

@[simp] theorem postedLines_wrote (out : List Message) :
    postedLines (out.map .wrote) = [] := by
  induction out with
  | nil => rfl
  | cons m out ih => exact ih

@[simp] theorem begunLines_wrote (out : List Message) : begunLines (out.map .wrote) = [] := by
  induction out with
  | nil => rfl
  | cons m out ih => exact ih

@[simp] theorem written_wrote (out : List Message) : written (out.map .wrote) = out := by
  induction out with
  | nil => rfl
  | cons m out ih =>
    rw [List.map_cons]
    show m :: written (out.map .wrote) = m :: out
    rw [ih]

/-- More lines do not change what comes before. -/
theorem reference_prefix (profile : Profile) (xs ys : List (List UInt8)) :
    reference profile xs <+: reference profile (xs ++ ys) := by
  cases profile with
  | oneShot =>
    show List.take 1 _ <+: List.take 1 _
    rw [List.filter_append]
    exact List.IsPrefix.take (List.prefix_append _ _) 1
  | keepAlive =>
    show List.filter _ _ <+: List.filter _ _
    rw [List.filter_append]
    exact List.prefix_append _ _

/-- A blank line is not served. -/
theorem reference_blank (profile : Profile) (xs : List (List UInt8)) {line : List UInt8}
    (hblank : isBlank line = true) : reference profile (xs ++ [line]) = reference profile xs := by
  have hfilter : (xs ++ [line]).filter (fun line => !isBlank line) =
      xs.filter fun line => !isBlank line := by
    rw [List.filter_append]
    simp [hblank]
  cases profile with
  | oneShot => exact congrArg (List.take 1) hfilter
  | keepAlive => exact hfilter

/-- A line that is not blank is served next, in OneShot if it is the first. -/
theorem reference_next {profile : Profile} {xs : List (List UInt8)} {line : List UInt8}
    (hblank : isBlank line = false)
    (hfirst : profile = .oneShot → reference profile xs = []) :
    reference profile (xs ++ [line]) = reference profile xs ++ [line] := by
  have hfilter : (xs ++ [line]).filter (fun line => !isBlank line) =
      (xs.filter fun line => !isBlank line) ++ [line] := by
    rw [List.filter_append]
    simp [hblank]
  cases profile with
  | oneShot =>
    have hnone := hfirst rfl
    show List.take 1 _ = reference .oneShot xs ++ [line]
    rw [hnone, hfilter]
    obtain hzero | hempty := List.take_eq_nil_iff.mp hnone
    · cases hzero
    · rw [hempty]
      rfl
  | keepAlive => exact hfilter

/-- In OneShot nothing is served after the first. -/
theorem reference_full {xs : List (List UInt8)} (hserved : reference .oneShot xs ≠ [])
    (ys : List (List UInt8)) : reference .oneShot (xs ++ ys) = reference .oneShot xs := by
  show List.take 1 _ = List.take 1 _
  rw [List.filter_append]
  apply List.take_append_of_le_length
  have hne : xs.filter (fun line => !isBlank line) ≠ [] := by
    intro hempty
    apply hserved
    show List.take 1 _ = []
    rw [hempty]
    rfl
  exact List.length_pos_of_ne_nil hne

/-- The lines among the queued calls. -/
def queuedLines (queue : List Posted) : List (List UInt8) :=
  queue.filterMap fun
    | .line line => some line
    | .endOfInput => none

@[simp] theorem queuedLines_append (q q' : List Posted) :
    queuedLines (q ++ q') = queuedLines q ++ queuedLines q' := List.filterMap_append

/-- The queue while the reader reads, and after it has posted its last call. -/
inductive Queued : Reader → List Posted → Prop where
  | lines {reader : Reader} (xs : List (List UInt8)) :
      reader ≠ .done → Queued reader (xs.map .line)
  | last (xs : List (List UInt8)) : Queued .done (xs.map .line ++ [.endOfInput])
  | empty : Queued .done []

namespace Queued

variable {reader : Reader} {queue : List Posted}

/-- Behind a line there is at least the last call, if it was posted. -/
theorem ofLine {line : List UInt8} (h : Queued reader (.line line :: queue)) :
    Queued reader queue ∧ (reader = .done → queue ≠ []) := by
  generalize hq : Posted.line line :: queue = q at h
  cases h with
  | lines xs hreader =>
    cases xs with
    | nil => cases hq
    | cons x xs =>
      obtain ⟨-, rfl⟩ := List.cons.inj hq
      exact ⟨.lines xs hreader, fun hdone => absurd hdone hreader⟩
  | last xs =>
    cases xs with
    | nil => cases hq
    | cons x xs =>
      obtain ⟨-, rfl⟩ := List.cons.inj hq
      exact ⟨.last xs, by simp⟩
  | empty => cases hq

theorem ofEnd (h : Queued reader (.endOfInput :: queue)) : reader = .done ∧ queue = [] := by
  generalize hq : Posted.endOfInput :: queue = q at h
  cases h with
  | lines xs hreader => cases xs <;> cases hq
  | last xs =>
    cases xs with
    | nil =>
      obtain ⟨-, rfl⟩ := List.cons.inj hq
      exact ⟨rfl, rfl⟩
    | cons x xs => cases hq
  | empty => cases hq

theorem addLine (h : Queued reader queue) (hreader : reader ≠ .done) {reader' : Reader}
    (hreader' : reader' ≠ .done) (line : List UInt8) :
    Queued reader' (queue ++ [.line line]) := by
  cases h with
  | lines xs _ =>
    have hmap : xs.map Posted.line ++ [.line line] = (xs ++ [line]).map .line := by simp
    rw [hmap]
    exact .lines _ hreader'
  | last xs => exact absurd rfl hreader
  | empty => exact absurd rfl hreader

theorem addEnd (h : Queued reader queue) (hreader : reader ≠ .done) :
    Queued .done (queue ++ [.endOfInput]) := by
  cases h with
  | lines xs _ => exact .last xs
  | last xs => exact absurd rfl hreader
  | empty => exact absurd rfl hreader

end Queued

/-! ## §5. The invariant -/

section Invariant

variable {σ ρ : Type} {profile : Profile} {serve : List UInt8 → Work σ ρ Message} {shared₀ : σ}

variable (profile) in
/-- What the queue and the flags say about the lines that were taken from it. -/
structure Accounted (h : List Event) (s : StdioState σ ρ) : Prop where
  taken : ∃ taken, postedLines h = taken ++ queuedLines s.queue ∧
    begunLines h = reference profile taken
  queued : Queued s.reader s.queue
  quit : s.quitScheduled = true → s.acceptLines = false ∨ s.reader = .done ∧ s.queue = []
  ended : s.reader = .done → s.queue = [] → s.quitScheduled = true

variable (profile serve shared₀) in
/-- The invariant of a run in which no waiting handler is disturbed. -/
structure Invariant (h : List Event) (s : StdioState σ ρ) : Prop where
  accounted : Accounted profile h s
  closed : s.acceptLines = false → profile = .oneShot ∧ s.frames = [] ∧
    s.quitScheduled = true ∧ begunLines h ≠ []
  fresh : profile = .oneShot → s.acceptLines = true → s.frames = [] → begunLines h = []
  inTurn : ServedInTurn serve shared₀ h s
  returned : s.returned = true → s.quitScheduled = true ∧ s.frames = []

/-- Work goes on to its next wait, or finishes the line. -/
theorem goOn_cases (profile : Profile) (s : StdioState σ ρ) (work : Work σ ρ Message) :
    ∃ out shared,
      (∃ resume, Work.Reaches work s.shared out (.wait resume) shared ∧
        s.goOn profile work =
          ({ s with
              shared := shared
              frames := { resume := resume, live := !s.quitScheduled } :: s.frames },
            out.map .wrote)) ∨
      (Work.Reaches work s.shared out .finish shared ∧
        s.goOn profile work = ({ s with shared := shared }.finishLine profile, out.map .wrote)) := by
  have hreaches := Work.run_reaches work s.shared
  have hstops := Work.run_stops work s.shared
  unfold StdioState.goOn
  generalize work.run s.shared = r at hreaches hstops
  obtain ⟨shared, out, left⟩ := r
  refine ⟨out, shared, ?_⟩
  cases left with
  | finish => exact Or.inr ⟨hreaches, rfl⟩
  | wait resume => exact Or.inl ⟨resume, hreaches, rfl⟩
  | act f next =>
    obtain hfinish | ⟨resume, hwait⟩ := hstops
    · cases hfinish
    · cases hwait

variable {h : List Event} {s : StdioState σ ρ}

/-- The account does not depend on the handlers. -/
theorem Accounted.state {s' : StdioState σ ρ} (hacc : Accounted profile h s)
    (hqueue : s'.queue = s.queue) (hreader : s'.reader = s.reader)
    (haccept : s'.acceptLines = s.acceptLines) (hquit : s'.quitScheduled = s.quitScheduled) :
    Accounted profile h s' := by
  obtain ⟨htaken, hqueued, hquitted, hended⟩ := hacc
  rw [← hqueue] at htaken
  rw [← hreader, ← hqueue] at hqueued
  rw [← hquit, ← haccept, ← hreader, ← hqueue] at hquitted
  rw [← hreader, ← hqueue, ← hquit] at hended
  exact ⟨htaken, hqueued, hquitted, hended⟩

/-- Nor on what is written. -/
theorem Accounted.wrote (hacc : Accounted profile h s) (out : List Message) :
    Accounted profile (h ++ out.map .wrote) s := by
  refine ⟨?_, hacc.queued, hacc.quit, hacc.ended⟩
  obtain ⟨taken, hposted, htaken⟩ := hacc.taken
  refine ⟨taken, ?_, ?_⟩
  · rw [postedLines_append, postedLines_wrote, List.append_nil]
    exact hposted
  · rw [begunLines_append, begunLines_wrote, List.append_nil]
    exact htaken

/-- The work of the line that is under way goes on, with no other handler waiting. -/
theorem Invariant.goOn {work : Work σ ρ Message} (hacc : Accounted profile h s)
    (hopen : s.acceptLines = true) (hframes : s.frames = []) (hrun : s.returned = false)
    (hway : Work.Underway serve shared₀ (begunLines h) (written h) work s.shared) :
    Invariant profile serve shared₀ (h ++ (s.goOn profile work).2) (s.goOn profile work).1 := by
  obtain ⟨out, shared, hcases⟩ := goOn_cases profile s work
  have hbegun : begunLines (h ++ out.map .wrote) = begunLines h := by simp
  have hwritten : written (h ++ out.map .wrote) = written h ++ out := by simp
  obtain ⟨resume, hreaches, heq⟩ | ⟨hreaches, heq⟩ := hcases
  · -- it waits in a loop of its own
    rw [heq]
    constructor
    · exact (hacc.wrote out).state rfl rfl rfl rfl
    · intro hclosed
      exact absurd (hclosed.symm.trans hopen) Bool.false_ne_true
    · intro _ _ hnone
      cases hnone
    · show ServedInTurn serve shared₀ _ _
      unfold ServedInTurn
      rw [hframes, hbegun, hwritten]
      exact hway.goOn hreaches
    · intro hreturned
      exact absurd (hrun.symm.trans hreturned) Bool.false_ne_true
  · -- the line is finished
    have hturn : ServedInTurn serve shared₀ (h ++ out.map .wrote) { s with shared := shared } := by
      unfold ServedInTurn
      rw [hframes, hbegun, hwritten]
      exact (hway.goOn hreaches).finish
    rw [heq]
    cases profile with
    | oneShot =>
      constructor
      · refine ⟨(hacc.wrote out).taken, hacc.queued, ?_, ?_⟩
        · intro _
          exact Or.inl rfl
        · intro _ _
          rfl
      · intro _
        refine ⟨rfl, hframes, rfl, ?_⟩
        rw [hbegun]
        exact hway.ne_nil
      · intro _ hopen'
        cases hopen'
      · exact hturn
      · intro hreturned
        exact absurd (hrun.symm.trans hreturned) Bool.false_ne_true
    | keepAlive =>
      constructor
      · exact (hacc.wrote out).state rfl rfl rfl rfl
      · intro hclosed
        exact absurd (hclosed.symm.trans hopen) Bool.false_ne_true
      · intro hprofile
        cases hprofile
      · exact hturn
      · intro hreturned
        exact absurd (hrun.symm.trans hreturned) Bool.false_ne_true

/-- The innermost loop is that of a waiting handler, and what it does next reaches the handler: it
runs a line, or it returns on the quit without the reply. -/
def disturbs (s : StdioState σ ρ) : Op ρ → Bool
  | .runPosted =>
      !s.frames.isEmpty &&
        match s.queue with
        | .line line :: _ => !isBlank line
        | _ => false
  | .loopReturns =>
      match s.frames with
      | frame :: _ => s.quitScheduled && frame.reply.isNone
      | [] => false
  | _ => false

/-- The reader posts a line. -/
theorem Invariant.readLine (hinv : Invariant profile serve shared₀ h s) (line : List UInt8) :
    Invariant profile serve shared₀ (h ++ (s.readLine line).2) (s.readLine line).1 := by
  unfold StdioState.readLine
  split
  next hreading =>
    have hbegun : begunLines (h ++ [.posted line]) = begunLines h := by simp [begunLines]
    have hwritten : written (h ++ [.posted line]) = written h := by simp [written]
    have hreader : s.reader ≠ .done := by simp [hreading]
    constructor
    · constructor
      · obtain ⟨taken, hposted, htaken⟩ := hinv.accounted.taken
        refine ⟨taken, ?_, hbegun.trans htaken⟩
        rw [postedLines_append, hposted, queuedLines_append, List.append_assoc]
        rfl
      · apply hinv.accounted.queued.addLine hreader
        split
        · simp
        · simp
      · intro hquit
        obtain hclosed | ⟨hdone, -⟩ := hinv.accounted.quit hquit
        · exact Or.inl hclosed
        · exact absurd hdone hreader
      · intro _ hempty
        exact absurd hempty (by simp)
    · rw [hbegun]
      exact hinv.closed
    · rw [hbegun]
      exact hinv.fresh
    · unfold ServedInTurn
      rw [hbegun, hwritten]
      exact hinv.inTurn
    · exact hinv.returned
  next =>
    rw [List.append_nil]
    exact hinv

/-- The reader posts its last call. -/
theorem Invariant.endOfInput (hinv : Invariant profile serve shared₀ h s) :
    Invariant profile serve shared₀ h s.endOfInput := by
  unfold StdioState.endOfInput
  split
  next => exact hinv
  next hreader =>
    constructor
    · constructor
      · obtain ⟨taken, hposted, htaken⟩ := hinv.accounted.taken
        refine ⟨taken, ?_, htaken⟩
        rw [hposted, queuedLines_append]
        simp [queuedLines]
      · exact hinv.accounted.queued.addEnd hreader
      · intro hquit
        obtain hclosed | ⟨hdone, -⟩ := hinv.accounted.quit hquit
        · exact Or.inl hclosed
        · exact absurd hdone hreader
      · intro _ hempty
        exact absurd hempty (by simp)
    · exact hinv.closed
    · exact hinv.fresh
    · exact hinv.inTurn
    · exact hinv.returned

/-- A line is taken from the queue. -/
theorem Accounted.takeLine {h' : List Event} {line : List UInt8} {rest : List Posted}
    (hacc : Accounted profile h s) (hqueue : s.queue = .line line :: rest)
    (hposted : postedLines h' = postedLines h)
    (hbegun : ∀ taken, begunLines h = reference profile taken →
      begunLines h' = reference profile (taken ++ [line])) :
    Accounted profile h' { s with queue := rest } := by
  have hqueued := hacc.queued
  rw [hqueue] at hqueued
  constructor
  · obtain ⟨taken, hsplit, htaken⟩ := hacc.taken
    refine ⟨taken ++ [line], ?_, hbegun taken htaken⟩
    rw [hposted, hsplit, hqueue, List.append_assoc]
    rfl
  · exact hqueued.ofLine.1
  · intro hquit
    obtain hclosed | ⟨-, hempty⟩ := hacc.quit hquit
    · exact Or.inl hclosed
    · rw [hqueue] at hempty
      cases hempty
  · intro hdone hempty
    exact absurd hempty (hqueued.ofLine.2 hdone)

/-- The main thread takes a line: it drops it, or serves it with no other handler waiting. -/
theorem Invariant.handleLine {line : List UInt8} {rest : List Posted}
    (hinv : Invariant profile serve shared₀ h s) (hqueue : s.queue = .line line :: rest)
    (hrun : s.running = true) (hfree : isBlank line = false → s.frames = []) :
    Invariant profile serve shared₀
      (h ++ ({ s with queue := rest }.handleStdioLineOnMainThread profile serve line).2)
      ({ s with queue := rest }.handleStdioLineOnMainThread profile serve line).1 := by
  unfold StdioState.handleStdioLineOnMainThread
  split
  next hdropped =>
    -- OneShot has served its line
    have hclosed : s.acceptLines = false := by simpa using hdropped
    obtain ⟨rfl, -, -, hserved⟩ := hinv.closed hclosed
    rw [List.append_nil]
    constructor
    · apply hinv.accounted.takeLine hqueue rfl
      intro taken htaken
      rw [htaken] at hserved
      rw [htaken, reference_full hserved]
    · exact hinv.closed
    · exact hinv.fresh
    · exact hinv.inTurn
    · exact hinv.returned
  next hopen =>
    have hopen : s.acceptLines = true := by simpa using hopen
    split
    next hblank =>
      rw [List.append_nil]
      constructor
      · apply hinv.accounted.takeLine hqueue rfl
        intro taken htaken
        rw [htaken, reference_blank profile taken hblank]
      · exact hinv.closed
      · exact hinv.fresh
      · exact hinv.inTurn
      · exact hinv.returned
    next hblank =>
      have hblank : isBlank line = false := by simpa using hblank
      have hframes := hfree hblank
      have hposted : postedLines (h ++ [.began line]) = postedLines h := by simp [postedLines]
      have hbegun : begunLines (h ++ [.began line]) = begunLines h ++ [line] := by
        simp [begunLines]
      have hwritten : written (h ++ [.began line]) = written h := by simp [written]
      rw [List.append_cons]
      refine Invariant.goOn ?_ hopen hframes ?_ ?_
      · apply hinv.accounted.takeLine hqueue hposted
        intro taken htaken
        rw [hbegun, htaken]
        apply (reference_next hblank _).symm
        intro hprofile
        rw [← htaken]
        exact hinv.fresh hprofile hopen hframes
      · show s.returned = false
        unfold StdioState.running at hrun
        rw [hframes] at hrun
        simpa using hrun
      · have hturn := hinv.inTurn
        unfold ServedInTurn at hturn
        rw [hframes] at hturn
        rw [hbegun, hwritten]
        exact hturn.begin line

/-- The innermost loop runs a call. -/
theorem Invariant.runPosted (hinv : Invariant profile serve shared₀ h s)
    (hfree : disturbs s .runPosted = false) :
    Invariant profile serve shared₀ (h ++ (s.runPosted profile serve).2)
      (s.runPosted profile serve).1 := by
  unfold StdioState.runPosted
  split
  next =>
    rw [List.append_nil]
    exact hinv
  next hrun =>
    have hrun : s.running = true := by simpa using hrun
    cases hqueue : s.queue with
    | nil =>
      show Invariant profile serve shared₀ (h ++ []) s
      rw [List.append_nil]
      exact hinv
    | cons call rest =>
      cases call with
      | line line =>
        apply hinv.handleLine hqueue hrun
        intro hblank
        unfold disturbs at hfree
        rw [hqueue] at hfree
        simpa [hblank] using hfree
      | endOfInput =>
        have hqueued := hinv.accounted.queued
        rw [hqueue] at hqueued
        obtain ⟨hdone, rfl⟩ := hqueued.ofEnd
        show Invariant profile serve shared₀ (h ++ []) _
        rw [List.append_nil]
        constructor
        · constructor
          · obtain ⟨taken, hposted, htaken⟩ := hinv.accounted.taken
            rw [hqueue] at hposted
            exact ⟨taken, hposted, htaken⟩
          · show Queued s.reader []
            rw [hdone]
            exact .empty
          · intro _
            exact Or.inr ⟨hdone, rfl⟩
          · intro _ _
            rfl
        · intro hclosed
          obtain ⟨hprofile, hframes, -, hserved⟩ := hinv.closed hclosed
          exact ⟨hprofile, hframes, rfl, hserved⟩
        · exact hinv.fresh
        · exact hinv.inTurn
        · intro hreturned
          exact ⟨rfl, (hinv.returned hreturned).2⟩

/-- What a waiting handler does next is the same with its reply. -/
theorem ServedInTurn.modify (hturn : ServedInTurn serve shared₀ h s) (i : Nat)
    {f : Suspended σ ρ → Suspended σ ρ} (hf : ∀ frame, (f frame).resume = frame.resume) :
    ServedInTurn serve shared₀ h { s with frames := s.frames.modify i f } := by
  unfold ServedInTurn at hturn ⊢
  cases hframes : s.frames with
  | nil =>
    rw [hframes] at hturn
    simpa using hturn
  | cons frame rest =>
    rw [hframes] at hturn
    cases rest with
    | cons _ _ => exact hturn.elim
    | nil =>
      cases i with
      | zero =>
        show Work.Underway serve shared₀ _ _ (.wait (f frame).resume) _
        rw [hf]
        exact hturn
      | succ i =>
        have hsame : [frame].modify (i + 1) f = [frame] := by simp
        rw [hsame]
        exact hturn

/-- A reply arrives. -/
theorem Invariant.replyTo (hinv : Invariant profile serve shared₀ h s) (i : Nat) (value : ρ) :
    Invariant profile serve shared₀ h (s.replyTo i value) := by
  unfold StdioState.replyTo
  split
  next => exact hinv
  next =>
    constructor
    · exact hinv.accounted.state rfl rfl rfl rfl
    · intro hclosed
      obtain ⟨hprofile, hframes, hquit, hserved⟩ := hinv.closed hclosed
      exact ⟨hprofile, List.modify_eq_nil_iff.mpr hframes, hquit, hserved⟩
    · intro hprofile hopen hframes
      exact hinv.fresh hprofile hopen (List.modify_eq_nil_iff.mp hframes)
    · exact hinv.inTurn.modify i fun _ => rfl
    · intro hreturned
      obtain ⟨hquit, hframes⟩ := hinv.returned hreturned
      exact ⟨hquit, List.modify_eq_nil_iff.mpr hframes⟩

/-- The innermost loop returns. -/
theorem Invariant.loopReturns (hinv : Invariant profile serve shared₀ h s)
    (hfree : disturbs s .loopReturns = false) :
    Invariant profile serve shared₀ (h ++ (s.loopReturns profile).2) (s.loopReturns profile).1 := by
  unfold StdioState.loopReturns
  have hturn := hinv.inTurn
  unfold ServedInTurn at hturn
  split
  next hframes =>
    dsimp only
    rw [List.append_nil]
    split
    next hquit =>
      -- the loop of the application
      constructor
      · exact hinv.accounted.state rfl rfl rfl rfl
      · exact hinv.closed
      · exact hinv.fresh
      · exact hinv.inTurn
      · intro _
        exact ⟨hquit, hframes⟩
    next => exact hinv
  next frame rest hframes =>
    rw [hframes] at hturn
    split
    next hreturns =>
      cases rest with
      | cons _ _ => exact hturn.elim
      | nil =>
        -- the reply is there, also if the quit was called
        have hreply : frame.reply.isSome = true := by
          unfold disturbs at hfree
          rw [hframes] at hfree
          cases hvalue : frame.reply with
          | some value => rfl
          | none =>
            have hquit : s.quitScheduled = true := by simpa [hvalue] using hreturns
            simp [hquit, hvalue] at hfree
        obtain ⟨value, hvalue⟩ := Option.isSome_iff_exists.mp hreply
        have hne : s.frames ≠ [] := by simp [hframes]
        rw [hvalue]
        refine Invariant.goOn ?_ ?_ rfl ?_ (hturn.replied value)
        · exact hinv.accounted.state rfl rfl rfl rfl
        · show s.acceptLines = true
          by_contra hclosed
          exact hne (hinv.closed (by simpa using hclosed)).2.1
        · show s.returned = false
          by_contra hreturned
          exact hne (hinv.returned (by simpa using hreturned)).2
    next =>
      rw [List.append_nil]
      exact hinv

/-- **What a step keeps** that does not disturb a waiting handler. -/
theorem Invariant.step (c : Machine.Config (StdioState σ ρ) Event) (op : Op ρ)
    (hinv : Invariant profile serve shared₀ c.history c.state)
    (hfree : disturbs c.state op = false) :
    Invariant profile serve shared₀ ((machine profile serve).next c op).history
      ((machine profile serve).next c op).state := by
  cases op with
  | readLine line => exact hinv.readLine line
  | endOfInput =>
    show Invariant profile serve shared₀ (c.history ++ []) _
    rw [List.append_nil]
    exact hinv.endOfInput
  | runPosted => exact hinv.runPosted hfree
  | reply i value =>
    show Invariant profile serve shared₀ (c.history ++ []) _
    rw [List.append_nil]
    exact hinv.replyTo i value
  | loopReturns => exact hinv.loopReturns hfree

/-- The invariant holds before anything has happened. -/
theorem Invariant.start : Invariant profile serve shared₀ [] { shared := shared₀ } := by
  constructor
  · constructor
    · refine ⟨[], rfl, ?_⟩
      cases profile <;> rfl
    · exact .lines [] (by simp)
    · intro hquit
      cases hquit
    · intro hdone
      cases hdone
  · intro hclosed
    cases hclosed
  · intro _ _ _
    rfl
  · exact .nil
  · intro hreturned
    cases hreturned

/-- Under the invariant one request is served at a time. -/
theorem Invariant.serial {c : Machine.Config (StdioState σ ρ) Event}
    (hinv : Invariant profile serve shared₀ c.history c.state) :
    StrictlySerial profile serve shared₀ c := by
  obtain ⟨taken, hposted, htaken⟩ := hinv.accounted.taken
  constructor
  · rw [htaken, hposted]
    exact reference_prefix profile taken _
  · exact hinv.inTurn
  · intro hreturned
    obtain ⟨hquit, hframes⟩ := hinv.returned hreturned
    refine ⟨?_, hframes⟩
    obtain hclosed | ⟨-, hempty⟩ := hinv.accounted.quit hquit
    · -- OneShot has served its line
      obtain ⟨rfl, -, -, hserved⟩ := hinv.closed hclosed
      rw [htaken] at hserved
      rw [hposted, htaken, reference_full hserved]
    · -- all lines were taken
      rw [hposted, hempty, htaken]
      exact congrArg (reference profile) (List.append_nil taken).symm
  · intro hframes hdone
    obtain ⟨hreader, hempty⟩ | ⟨hprofile, hserved⟩ := hdone
    · exact hinv.accounted.ended hreader hempty
    · cases hopen : c.state.acceptLines with
      | false => exact (hinv.closed hopen).2.2.1
      | true => exact absurd (hinv.fresh hprofile hopen hframes) hserved

/-- **A run in which no waiting handler is disturbed is sequential.**  No loop of a handler runs
another line, and none returns on the quit without its reply. -/
theorem stdio_serial (core : DriverCore) (vqt : ValidatorQt) (lqt : LineQt)
    (handler : Handler σ ρ) (profile : Profile) (shared₀ : σ) (ops : List (Op ρ))
    (hfree : (machine profile (core.serve vqt lqt handler)).EveryStep
      (fun c op => disturbs c.state op = false) (Machine.start { shared := shared₀ }) ops) :
    (machine profile (core.serve vqt lqt handler)).EveryState
      (StrictlySerial profile (core.serve vqt lqt handler) shared₀)
      (Machine.start { shared := shared₀ }) ops := by
  apply Machine.everyState_of_invariant
    (fun c => Invariant profile (core.serve vqt lqt handler) shared₀ c.history c.state) _ _ _ hfree
  · intro c op hinv hstep
    exact Invariant.step c op hinv hstep
  · intro c hinv
    exact hinv.serial
  · exact Invariant.start

end Invariant

/-! ## §6. Runs -/

/-- A request without data. -/
def request (cmd : String) : List UInt8 :=
  DriverCore.ascii ("\x7b\"cmd\":\"" ++ cmd ++ "\"\x7d")

/-- A Qt that knows two requests. -/
def twoRequests : LineQt :=
  DriverCore.lineQt [("\x7b\"cmd\":\"a\"\x7d", .obj [("cmd", .str "a")]),
    ("\x7b\"cmd\":\"b\"\x7d", .obj [("cmd", .str "b")])]

/-- A handler that waits for one reply and names the command in its answer. -/
def waitingHandler : Handler Unit Unit := fun cmd _ =>
  .wait fun
    | some () => .say [⟨.done, 0, .str cmd⟩]
    | none => .say [⟨.error, -1, .str cmd⟩]

/-- What it does with a line, in a driver without metadata. -/
def serveWaiting : List UInt8 → Work Unit Unit Message :=
  DriverCore.serve ⟨none⟩ plainQt twoRequests waitingHandler

/-- A run of this driver. -/
def waitingRun (profile : Profile) (ops : List (Op Unit)) :
    Machine.Config (StdioState Unit Unit) Event :=
  (machine profile serveWaiting).run (Machine.start { shared := () }) ops

/-- Two requests and a blank line.  The blank line is run while the first request waits. -/
def inOrder : List (Op Unit) :=
  [.readLine (request "a"), .readLine [], .readLine (request "b"), .runPosted, .runPosted,
    .reply 0 (), .loopReturns, .runPosted, .endOfInput, .reply 0 (), .loopReturns, .runPosted,
    .loopReturns]

/-- Both are answered in their order, and `run` returns. -/
theorem inOrder_serial :
    (machine .keepAlive serveWaiting).EveryState (StrictlySerial .keepAlive serveWaiting ())
      (Machine.start { shared := () }) inOrder ∧
    written (waitingRun .keepAlive inOrder).history =
      [⟨.done, 0, .str "a"⟩, ⟨.done, 0, .str "b"⟩] ∧
    (waitingRun .keepAlive inOrder).state.returned = true := by
  refine ⟨?_, by rfl, by rfl⟩
  apply stdio_serial
  exact ⟨rfl, rfl, rfl, rfl, rfl, rfl, rfl, rfl, rfl, rfl, rfl, rfl, rfl, trivial⟩

/-- Of two requests in OneShot the second is run while the first waits. -/
def overtaking : List (Op Unit) :=
  [.readLine (request "a"), .readLine (request "b"), .runPosted, .runPosted, .reply 0 (),
    .loopReturns, .loopReturns]

/-- The end of input is run while the only request waits. -/
def cutShort : List (Op Unit) :=
  [.readLine (request "a"), .endOfInput, .runPosted, .runPosted, .loopReturns]

/-- A request that is served to its end is done. -/
theorem done_of_reaches {s s' : Unit} {out : List Message}
    (h : Work.Reaches (serveWaiting (request "a")) s out .finish s') :
    out = [⟨.done, 0, .str "a"⟩] := by
  have hwork : serveWaiting (request "a") =
      .wait fun reply => ((match reply with
        | some () => .say [⟨.done, 0, .str "a"⟩]
        | none => .say [⟨.error, -1, .str "a"⟩] : Work Unit Unit Message)).andThen .finish := by
    rfl
  rw [hwork] at h
  cases h with
  | wait reply h =>
    cases h with
    | act h =>
      cases h with
      | refl => rfl

/-- **A waiting handler is disturbed.**  In OneShot a second request is served, and answered before
the first; the quit at the end of input turns the answer of an accepted request into an error. -/
theorem waiting_handler_disturbed :
    (written (waitingRun .oneShot overtaking).history =
        [⟨.done, 0, .str "b"⟩, ⟨.error, -1, .str "a"⟩] ∧
      ¬ StrictlySerial .oneShot serveWaiting () (waitingRun .oneShot overtaking)) ∧
    (written (waitingRun .keepAlive cutShort).history = [⟨.error, -1, .str "a"⟩] ∧
      ¬ StrictlySerial .keepAlive serveWaiting () (waitingRun .keepAlive cutShort)) := by
  refine ⟨⟨by rfl, ?_⟩, by rfl, ?_⟩
  · intro hserial
    have hbegun : begunLines (waitingRun .oneShot overtaking).history =
        [request "a", request "b"] := by rfl
    have hreference : reference .oneShot
        (postedLines (waitingRun .oneShot overtaking).history) = [request "a"] := by rfl
    have hordered := hserial.ordered
    rw [hbegun, hreference] at hordered
    exact absurd hordered.length_le (by decide)
  · intro hserial
    have hturn : Work.InTurn serveWaiting () [request "a"] [⟨.error, -1, .str "a"⟩] () :=
      hserial.inTurn
    have hanswer := done_of_reaches hturn.of_singleton
    cases hanswer

end StdioMode

end Stdiolink.Driver
