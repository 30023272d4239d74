/-
  Stdiolink.Host.OneTerminal — how often a task ends.

  A task ends with a done or error message.  `request`, `forceTerminal` and the waits
  look whether it has ended before they push one; `pumpStdout` does not, and only the
  branch for a parsed done or error line detaches the task from the driver.  So a pump
  that finds a complete line, or an overflow, for a task that has ended any other way
  pushes once more: a stale pump.  A run in which `request` would follow a null `m_cur`
counts as a run that goes on: what is pushed up to there is the same.

  Main results:
    * `pumpStdout_invariant` — a pump ends a task twice exactly when it is stale;
    * `one_terminal_iff` — along every run: no task is written after its end iff no
      pump is stale.
-/
import Stdiolink.Host.Rules

namespace Stdiolink.Host

open Stdiolink.Lib
open Stdiolink.Protocol

/-! ## §1. The messages of a task -/

/-- A message pushed to the task, with the outcome the task then has. -/
def HostEvent.pushedTo (k : Nat) : HostEvent → Option (Message × Outcome)
  | .pushed k' m o _ => if k' = k then some (m, o) else none
  | _ => none

/-- Everything pushed to the task so far. -/
def pushes (k : Nat) (h : List HostEvent) : List (Message × Outcome) :=
  h.filterMap (HostEvent.pushedTo k)

@[simp] theorem pushes_append (k : Nat) (h h' : List HostEvent) :
    pushes k (h ++ h') = pushes k h ++ pushes k h' :=
  List.filterMap_append

/-- Nothing comes after a terminal message. -/
def TerminalLast (ms : List (Message × Outcome)) : Prop :=
  ∀ pre m post, ms = pre ++ m :: post → m.1.isTerminal = true → post = []

/-- **The property.**  Nothing was pushed to a task after its first done or error message,
and what the task tells about its end is what it was then. -/
def OneTerminal (c : Machine.Config HostState HostEvent) : Prop :=
  ∀ k, TerminalLast (pushes k c.history) ∧
    ((c.state.tasks k).terminal = true → ∃ pre m,
      pushes k c.history = pre ++ [(m, (c.state.tasks k).outcome)] ∧ m.isTerminal = true)

def HostEvent.isStale : HostEvent → Bool
  | .pumping _ stale _ => stale
  | _ => false

/-- No pump found work for a task that had ended. -/
def NoStale (h : List HostEvent) : Prop := ∀ e ∈ h, e.isStale = false

theorem TerminalLast.of_append {ms ms' : List (Message × Outcome)}
    (h : TerminalLast (ms ++ ms')) : TerminalLast ms := by
  intro pre m post heq hm
  have hpost := h pre m (post ++ ms') (by rw [heq]; simp) hm
  exact (List.append_eq_nil_iff.mp hpost).1

theorem terminalLast_concat {ms : List (Message × Outcome)} {p : Message × Outcome}
    (hms : ∀ m ∈ ms, m.1.isTerminal = false) : TerminalLast (ms ++ [p]) := by
  intro pre m post heq hm
  rcases List.eq_nil_or_concat post with rfl | ⟨post', q, rfl⟩
  · rfl
  · rw [List.concat_eq_append, ← List.cons_append, ← List.append_assoc] at heq
    have hmem : m ∈ ms := by
      rw [(List.append_inj' heq rfl).1]
      simp
    rw [hms m hmem] at hm
    exact absurd hm (by simp)

/-! ## §2. What the history records -/

/-- The history and the state agree about every task: it has ended iff it was pushed a
terminal message, and its outcome is that of the last push. -/
structure Recorded (h : List HostEvent) (s : HostState) : Prop where
  curCreated : ∀ d k, (s.drivers d).cur = some k → k < s.created
  fresh : ∀ k, s.created ≤ k → pushes k h = []
  terminal : ∀ k, (s.tasks k).terminal = true ↔ ∃ p ∈ pushes k h, p.1.isTerminal = true
  outcome : ∀ k pre p, pushes k h = pre ++ [p] → (s.tasks k).outcome = p.2

/-- Some pump was stale, and some task was written after its end. -/
def Broken (h : List HostEvent) : Prop := ¬ NoStale h ∧ ∃ k, ¬ TerminalLast (pushes k h)

/-- **The invariant.**  Pumps were stale exactly when some task was written after its end. -/
structure Invariant (h : List HostEvent) (s : HostState) : Prop where
  recorded : Recorded h s
  stale : NoStale h ↔ ∀ k, TerminalLast (pushes k h)

theorem Broken.invariant {h : List HostEvent} {s : HostState} (hb : Broken h)
    (hr : Recorded h s) : Invariant h s :=
  ⟨hr, iff_of_false hb.1 fun hall => hb.2.elim fun k hk => hk (hall k)⟩

/-- Under the invariant the property says that no pump was stale. -/
theorem Invariant.oneTerminal_iff {c : Machine.Config HostState HostEvent}
    (hc : Invariant c.history c.state) : OneTerminal c ↔ NoStale c.history := by
  rw [hc.stale]
  refine ⟨fun h k => (h k).1, fun h k => ⟨h k, fun hterm => ?_⟩⟩
  obtain ⟨p, hp, hpt⟩ := (hc.recorded.terminal k).mp hterm
  obtain ⟨pre, post, heq⟩ := List.append_of_mem hp
  have hlast := h k pre p post heq hpt
  subst hlast
  refine ⟨pre, p.1, ?_, hpt⟩
  rw [hc.recorded.outcome k pre p heq, heq]

/-- A change of the state that leaves tasks and current tasks alone. -/
theorem Recorded.frame {h h' : List HostEvent} {s s' : HostState} (hr : Recorded h s)
    (hcur : ∀ d, (s'.drivers d).cur = (s.drivers d).cur ∨ (s'.drivers d).cur = none)
    (hcreated : s'.created = s.created)
    (htasks : ∀ k, (s'.tasks k).terminal = (s.tasks k).terminal ∧
      (s'.tasks k).outcome = (s.tasks k).outcome)
    (hpushes : ∀ k, pushes k h' = pushes k h) : Recorded h' s' := by
  refine ⟨fun d k hk => ?_, fun k hk => ?_, fun k => ?_, fun k pre p heq => ?_⟩
  · rw [hcreated]
    rcases hcur d with hd | hd
    · exact hr.curCreated d k (hd ▸ hk)
    · simp [hd] at hk
  · rw [hpushes k]
    exact hr.fresh k (hcreated ▸ hk)
  · rw [(htasks k).1, hpushes k]
    exact hr.terminal k
  · rw [(htasks k).2]
    exact hr.outcome k pre p (hpushes k ▸ heq)

theorem pushes_pushed (k k' : Nat) (h : List HostEvent) (m : Message) (o : Outcome)
    (origin : Origin) : pushes k (h ++ [.pushed k' m o origin]) =
      pushes k h ++ if k' = k then [(m, o)] else [] := by
  rw [pushes_append]
  congr 1
  by_cases hk : k' = k <;> simp [pushes, HostEvent.pushedTo, hk]

namespace HostState

/-- What `settle` may do: end the task if the message is terminal. -/
def Settles (msg : Message) (settle : TaskState → TaskState) : Prop :=
  ∀ t, (settle t).terminal = (t.terminal || msg.isTerminal)

variable {h : List HostEvent} {s : HostState} {k : Nat}

theorem push_recorded (hr : Recorded h s) (hk : k < s.created) (origin : Origin) {msg : Message}
    {settle : TaskState → TaskState} (hset : Settles msg settle) :
    Recorded (h ++ (push k origin msg settle s).2) (push k origin msg settle s).1 := by
  set t := settle { s.tasks k with queue := (s.tasks k).queue ++ [msg] } with ht
  have hp : ∀ k', pushes k' (h ++ [.pushed k msg t.outcome origin]) =
      pushes k' h ++ if k = k' then [(msg, t.outcome)] else [] := fun k' => pushes_pushed ..
  refine ⟨fun d j hj => hr.curCreated d j hj, fun j hj => ?_, fun j => ?_,
    fun j pre p heq => ?_⟩
  · have hne : k ≠ j := fun hkj => absurd hj (by rw [← hkj]; exact Nat.not_le.mpr hk)
    rw [push, hp, if_neg hne, List.append_nil]
    exact hr.fresh j hj
  · rw [push, hp]
    by_cases hkj : k = j
    · subst hkj
      have htask : ((s.setTask k t).tasks k) = t := by simp [setTask]
      rw [htask, ht, hset]
      simp only [Bool.or_eq_true, hr.terminal k, if_true, List.mem_append, List.mem_singleton,
        or_and_right, exists_or, exists_eq_left]
    · have htask : ((s.setTask k t).tasks j) = s.tasks j := by
        simp [setTask, Function.update_of_ne (Ne.symm hkj)]
      rw [htask, if_neg hkj, List.append_nil]
      exact hr.terminal j
  · rw [push, hp] at heq
    by_cases hkj : k = j
    · subst hkj
      have htask : ((s.setTask k t).tasks k) = t := by simp [setTask]
      rw [if_pos rfl] at heq
      obtain rfl : (msg, t.outcome) = p := by simpa using (List.append_inj' heq rfl).2
      rw [push, htask]
    · have htask : ((s.setTask k t).tasks j) = s.tasks j := by
        simp [setTask, Function.update_of_ne (Ne.symm hkj)]
      rw [if_neg hkj, List.append_nil] at heq
      rw [push, htask]
      exact hr.outcome j pre p heq

/-- A push to an open task leaves its end last. -/
theorem push_open (hi : Invariant h s) (hk : k < s.created) (hopen : (s.tasks k).terminal = false)
    (origin : Origin) {msg : Message} {settle : TaskState → TaskState} (hset : Settles msg settle) :
    Invariant (h ++ (push k origin msg settle s).2) (push k origin msg settle s).1 := by
  refine ⟨push_recorded hi.recorded hk origin hset, ?_⟩
  have hnone : ∀ p ∈ pushes k h, p.1.isTerminal = false := by
    intro p hp
    by_contra hne
    have hterm := (hi.recorded.terminal k).mpr ⟨p, hp, by simpa using hne⟩
    rw [hopen] at hterm
    cases hterm
  have hno : NoStale (h ++ (push k origin msg settle s).2) ↔ NoStale h := by
    simp [NoStale, push, HostEvent.isStale, or_imp, forall_and]
  rw [hno, hi.stale]
  refine forall_congr' fun j => ?_
  rw [push, pushes_pushed]
  by_cases hkj : k = j
  · subst hkj
    rw [if_pos rfl]
    exact ⟨fun _ => terminalLast_concat hnone, fun hlast => hlast.of_append⟩
  · rw [if_neg hkj, List.append_nil]

/-- A push to a task that has ended. -/
theorem push_ended (hr : Recorded h s) (hstale : ¬ NoStale h) (hterm : (s.tasks k).terminal = true)
    (origin : Origin) (msg : Message) (settle : TaskState → TaskState) :
    Broken (h ++ (push k origin msg settle s).2) := by
  refine ⟨fun hno => hstale fun e he => hno e (List.mem_append_left _ he), k, fun hlast => ?_⟩
  obtain ⟨p, hp, hpt⟩ := (hr.terminal k).mp hterm
  obtain ⟨pre, post, heq⟩ := List.append_of_mem hp
  rw [push, pushes_pushed, heq, if_pos rfl, List.append_assoc, List.cons_append] at hlast
  have hnil := hlast pre p _ rfl hpt
  simp at hnil

/-! ## §3. A pump -/

/-- A pump at work on the task: it is open, or the pump is stale. -/
structure AtWork (k : Nat) (h : List HostEvent) (s : HostState) : Prop where
  recorded : Recorded h s
  created : k < s.created
  whenOpen : (s.tasks k).terminal = false → Invariant h s
  whenEnded : (s.tasks k).terminal = true → ¬ NoStale h

/-- A push by a pump at work; the pump may go on unless the push has ended the task. -/
theorem AtWork.push {k : Nat} {h : List HostEvent} {s : HostState} (hw : AtWork k h s)
    (origin : Origin) {msg : Message} {settle : TaskState → TaskState}
    (hset : Settles msg settle) :
    Invariant (h ++ (push k origin msg settle s).2) (push k origin msg settle s).1 ∧
      (msg.isTerminal = false →
        AtWork k (h ++ (HostState.push k origin msg settle s).2)
          (HostState.push k origin msg settle s).1) := by
  have hr := push_recorded hw.recorded hw.created origin hset
  cases hterm : (s.tasks k).terminal with
  | false =>
    have hi := push_open (hw.whenOpen hterm) hw.created hterm origin hset
    refine ⟨hi, fun hmsg => ⟨hr, hw.created, fun _ => hi, fun hended => ?_⟩⟩
    have hstill : ((HostState.push k origin msg settle s).1.tasks k).terminal = false := by
      simp only [HostState.push, setTask, Function.update_self]
      rw [hset, hmsg, Bool.or_false]
      exact hterm
    rw [hstill] at hended
    cases hended
  | true =>
    have hb := push_ended hw.recorded (hw.whenEnded hterm) hterm origin msg settle
    exact ⟨hb.invariant hr, fun _ => ⟨hr, hw.created, fun _ => hb.invariant hr, fun _ => hb.1⟩⟩

/-- Detaching the task and replacing the buffer change no task. -/
theorem invariant_frame {h' : List HostEvent} {s' : HostState} (hi : Invariant h s)
    (hr : Recorded h' s') (hpushes : ∀ k, pushes k h' = pushes k h) (hno : NoStale h' ↔ NoStale h) :
    Invariant h' s' := by
  refine ⟨hr, ?_⟩
  rw [hno, hi.stale]
  exact forall_congr' fun k => by rw [hpushes k]

theorem invariant_setDriver (hi : Invariant h s) (d : Nat) {driver : Driver}
    (hcur : driver.cur = (s.drivers d).cur ∨ driver.cur = none) :
    Invariant h (s.setDriver d driver) := by
  refine invariant_frame hi (hi.recorded.frame (fun e => ?_) rfl (fun _ => ⟨rfl, rfl⟩)
    fun _ => rfl) (fun _ => rfl) Iff.rfl
  by_cases hed : e = d
  · subst hed
    simpa [setDriver] using hcur
  · left
    simp [setDriver, Function.update_of_ne hed]

/-- An event that is neither a push nor a pump. -/
theorem emit_invariant {e : HostState → HostEvent} (hpush : ∀ s k, (e s).pushedTo k = none)
    (hstale : ∀ s, (e s).isStale = false) :
    Action.Sat Invariant (Action.emit e) Invariant := by
  refine Action.Sat.emit fun h s hi => ?_
  have hp : ∀ k, pushes k (h ++ [e s]) = pushes k h := fun k => by simp [pushes, hpush]
  refine invariant_frame hi (hi.recorded.frame (fun _ => .inl rfl) rfl (fun _ => ⟨rfl, rfl⟩) hp)
    hp ?_
  simp [NoStale, hstale, or_imp, forall_and]

theorem clearBuf_invariant (d : Nat) : Action.Sat Invariant (clearBuf d) Invariant :=
  Action.Sat.seq (emit_invariant (fun _ _ => rfl) fun _ => rfl)
    (Action.Sat.modify fun _ _ hi => invariant_setDriver hi d (Or.inl rfl))

section Pump

variable (qt : Qt)

theorem settles_pushError (code : Int) (payload : List (String × Json)) :
    Settles ⟨.error, code, .obj payload⟩ fun t =>
      { t with
        terminal := true
        exitCode := code
        finalPayload := .obj payload
        errorText := messageText (.obj payload) t.errorText } := by
  intro t
  simp [Message.isTerminal]

theorem settles_acceptMessage (msg : Message) :
    Settles msg fun t =>
      if msg.isTerminal then
        { t with
          terminal := true
          exitCode := msg.code
          finalPayload := msg.payload
          errorText :=
            if msg.status = .error then messageText msg.payload t.errorText else t.errorText }
      else t := by
  intro t
  cases hmsg : msg.isTerminal <;> simp

theorem AtWork.pushError {k : Nat} {h : List HostEvent} {s : HostState} (hw : AtWork k h s)
    (origin : Origin) (code : Int) (payload : List (String × Json)) :
    Invariant (h ++ (pushError k origin code payload s).2) (pushError k origin code payload s).1 :=
  (hw.push origin (settles_pushError code payload)).1

theorem AtWork.acceptMessage {k : Nat} {h : List HostEvent} {s : HostState} (hw : AtWork k h s)
    (origin : Origin) (msg : Message) :
    Invariant (h ++ (acceptMessage k origin msg s).2) (acceptMessage k origin msg s).1 ∧
      (msg.isTerminal = false →
        AtWork k (h ++ (HostState.acceptMessage k origin msg s).2)
          (HostState.acceptMessage k origin msg s).1) :=
  hw.push origin (settles_acceptMessage msg)

theorem resetCur_invariant (d : Nat) : Action.Sat Invariant (resetCur d) Invariant :=
  Action.Sat.modify fun _ _ hi => invariant_setDriver hi d (Or.inr rfl)

/-- What a pump needs to read the buffer: it is at work on every complete line. -/
def Readable (k : Nat) (buf : List UInt8) (h : List HostEvent) (s : HostState) : Prop :=
  (newline ∈ buf → AtWork k h s) ∧ (newline ∉ buf → Invariant h s)

/-- **The lines of a pump.** -/
theorem readLines_invariant (d k : Nat) :
    Action.Sat (fun h s => Readable k (s.drivers d).buf h s) (readLines qt d k) Invariant := by
  intro h s hs
  have hstart : Readable k (s.drivers d).buf (h ++ (s, ([] : List HostEvent)).2) s := by
    simpa using hs
  have hloop : Invariant (h ++ (forLines newline (pumpLine qt d k) (s, []) (s.drivers d).buf).1.2)
      (forLines newline (pumpLine qt d k) (s, []) (s.drivers d).buf).1.1 := by
    refine forLines_rule
      (fun (acc : HostState × List HostEvent) rest => Readable k rest (h ++ acc.2) acc.1)
      (fun acc _ => Invariant (h ++ acc.2) acc.1) ?_ (fun _ _ hno hr => hr.2 hno) hstart
    rintro acc line rest - hr
    have hw := hr.1 (by simp)
    unfold pumpLine
    cases parseResponse qt.fromJson line with
    | none =>
      rw [if_pos rfl, Action.append_extend_snd]
      exact hw.pushError _ 1000 _
    | some msg =>
      have hpush := hw.acceptMessage (.line d line) msg
      cases hmsg : msg.isTerminal with
      | true =>
        simp only [hmsg, if_true, Action.append_extend_snd, Action.extend_fst]
        exact resetCur_invariant d _ _ hpush.1
      | false =>
        simp only [hmsg, Bool.false_eq_true, if_false, Action.append_extend_snd]
        exact ⟨fun _ => hpush.2 hmsg, fun _ => hpush.1⟩
  exact invariant_setDriver hloop d (Or.inl rfl)

/-- What goes on record when a pump goes to work. -/
theorem pumping_ready {d k : Nat} {h : List HostEvent} {s : HostState} (hi : Invariant h s)
    (hcur : (s.drivers d).cur = some k) :
    (s.overflows d = true →
      AtWork k (h ++ [.pumping d (s.stale d k) (s.overflows d)]) s) ∧
    (s.overflows d = false →
      Readable k (s.drivers d).buf (h ++ [.pumping d (s.stale d k) (s.overflows d)]) s) := by
  set h' := h ++ [HostEvent.pumping d (s.stale d k) (s.overflows d)]
  have hp : ∀ j, pushes j h' = pushes j h := fun j => by simp [h', pushes, HostEvent.pushedTo]
  have hr : Recorded h' s := hi.recorded.frame (fun _ => .inl rfl) rfl (fun _ => ⟨rfl, rfl⟩) hp
  have hk := hi.recorded.curCreated d k hcur
  have hno : NoStale h' ↔ NoStale h ∧ s.stale d k = false := by
    simp [h', NoStale, HostEvent.isStale, or_imp, forall_and]
  have hopen : s.stale d k = false → Invariant h' s := fun hstale =>
    invariant_frame hi hr hp (by rw [hno, and_iff_left hstale])
  have hwork : s.overflows d = true ∨ newline ∈ (s.drivers d).buf → AtWork k h' s := by
    intro hbuf
    have hstale : s.stale d k = (s.tasks k).terminal := by
      simpa [stale] using fun _ => hbuf
    refine ⟨hr, hk, fun hterm => hopen (hstale.trans hterm), fun hterm hn => ?_⟩
    rw [hno, hstale, hterm] at hn
    cases hn.2
  refine ⟨fun hov => hwork (.inl hov), fun hov => ⟨fun hmem => hwork (.inr hmem), fun hmem => ?_⟩⟩
  exact hopen (by simp [stale, hov, hmem])

/-- **A pump ends a task twice exactly when it is stale.** -/
theorem pumpStdout_invariant (d : Nat) : Action.Sat Invariant (pumpStdout qt d) Invariant := by
  refine Action.Sat.bind fun s₀ => ?_
  cases hcur : (s₀.drivers d).cur with
  | none => exact Action.Sat.skip.atState _
  | some k =>
    refine Action.Sat.seq (R := fun h s => Invariant h s ∧ (s.drivers d).cur = some k)
      (Action.Sat.modify ?_) (Action.Sat.seq
        (R := fun h s => (s.overflows d = true → AtWork k h s) ∧
          (s.overflows d = false → Readable k (s.drivers d).buf h s))
        (Action.Sat.emit fun h s hs => pumping_ready hs.1 hs.2) (Action.Sat.bind fun s₁ => ?_))
    · rintro h s ⟨rfl, hi⟩
      exact ⟨invariant_setDriver hi d (Or.inl rfl), by simpa [setDriver] using hcur⟩
    · split_ifs with hov
      · refine Action.Sat.seq (R := Invariant) ?_ (clearBuf_invariant d)
        rintro h s ⟨rfl, hs⟩
        exact (hs.1 hov).pushError _ _ _
      · rintro h s ⟨rfl, hs⟩
        exact readLines_invariant qt d k h s (hs.2 (by simpa using hov))

/-! ## §4. The rest of the host -/

theorem forceTerminal_invariant (k : Nat) (code : Int) (error : String) :
    Action.Sat Invariant (forceTerminal k code error) Invariant := by
  refine Action.Sat.bind fun s₀ => ?_
  split_ifs with hdone
  · exact Action.Sat.skip.atState _
  · rintro h s ⟨rfl, hi⟩
    simp only [isValid, Bool.or_eq_true, Bool.not_eq_true', decide_eq_false_iff_not, not_or,
      not_not, Bool.not_eq_true] at hdone
    refine push_open hi hdone.1 hdone.2 .host fun t => ?_
    simp [Message.isTerminal]

theorem take_invariant (k : Nat) : Action.Sat Invariant (take k) Invariant := by
  intro h s hi
  unfold take
  split
  · simpa using hi
  · rename_i m rest _
    split_ifs
    · have hframe : Invariant h (s.setTask k { s.tasks k with queue := rest }) := by
        refine invariant_frame hi (hi.recorded.frame (fun _ => .inl rfl) rfl (fun j => ?_)
          fun _ => rfl) (fun _ => rfl) Iff.rfl
        by_cases hjk : j = k
        · subst hjk
          simp [setTask, TaskState.outcome]
        · simp [setTask, Function.update_of_ne hjk]
      exact emit_invariant (e := fun _ => .returned k m) (fun _ _ => rfl) (fun _ => rfl) _ _ hframe
    · simpa using hi

theorem setProc_invariant (d : Nat) (proc : HostState → Process) :
    Action.Sat Invariant (Action.modify fun s => s.setProc d (proc s)) Invariant :=
  Action.Sat.modify fun _ _ hi => invariant_setDriver hi d (Or.inl rfl)

theorem keptByProcess_invariant : KeptByProcess qt Invariant where
  pump := pumpStdout_invariant qt
  abandon k := by
    refine Action.Sat.bind fun s₀ => ?_
    split_ifs
    · exact Action.Sat.skip.atState _
    · exact Action.Sat.seq
        ((emit_invariant (fun _ _ => rfl) fun _ => rfl).atState _)
        (forceTerminal_invariant k _ _)
  take := take_invariant
  waits h s ws hi := invariant_frame hi
    (hi.recorded.frame (fun _ => .inl rfl) rfl (fun _ => ⟨rfl, rfl⟩) fun _ => rfl)
    (fun _ => rfl) Iff.rfl
  failed h s ks timedOut hi :=
    emit_invariant (e := fun _ => .waitFailed ks timedOut) (fun _ _ => rfl) (fun _ => rfl) h s hi
  write d _ := Action.Sat.seq (setProc_invariant d _) (emit_invariant (fun _ _ => rfl) fun _ => rfl)
  receive d _ := setProc_invariant d _
  markExited d _ _ :=
    Action.Sat.seq (setProc_invariant d _) (emit_invariant (fun _ _ => rfl) fun _ => rfl)

/-- A task of the current one's driver that has not ended. -/
def Open (k : Nat) (h : List HostEvent) (s : HostState) : Prop :=
  Invariant h s ∧ k < s.created ∧ (s.tasks k).terminal = false

theorem newTask_open (d k : Nat) :
    Action.Sat (fun h s => s.created = k ∧ Invariant h s) (newTask d) (Open k) := by
  refine Action.Sat.modify ?_
  rintro h s ⟨rfl, hi⟩
  refine ⟨⟨⟨fun e j hj => ?_, fun j hj => hi.recorded.fresh j (Nat.le_of_succ_le hj), fun j => ?_,
    fun j pre p heq => ?_⟩, hi.stale⟩, Nat.lt_succ_self _, by simp⟩
  · dsimp only at hj ⊢
    by_cases hed : e = d
    · subst hed
      simp only [Function.update_self, Option.some.injEq] at hj
      omega
    · rw [Function.update_of_ne hed] at hj
      exact Nat.lt_succ_of_lt (hi.recorded.curCreated e j hj)
  · by_cases hj : j = s.created
    · subst hj
      simp [hi.recorded.fresh s.created (Nat.le_refl _)]
    · simpa [Function.update_of_ne hj] using hi.recorded.terminal j
  · by_cases hj : j = s.created
    · subst hj
      simp [hi.recorded.fresh s.created (Nat.le_refl _)] at heq
    · simpa [Function.update_of_ne hj] using hi.recorded.outcome j pre p heq

theorem requestError_invariant (k : Nat) (text : String) :
    Action.Sat (Open k) (requestError k text) Invariant := by
  refine Action.Sat.bind fun s₀ => Action.Sat.seq (R := Open k) ?_ ?_
  · rintro h s ⟨-, hi, hopen⟩
    exact ⟨emit_invariant (fun _ _ => rfl) (fun _ => rfl) h s hi, hopen⟩
  · rintro h s ⟨hi, hk, hopen⟩
    exact push_open hi hk hopen .host (settles_pushError _ _)

theorem checkSent_invariant (d : Nat) : Action.Sat Invariant (checkSent d) Invariant := by
  refine Action.Sat.bind fun s₀ => ?_
  cases hcur : (s₀.drivers d).cur with
  | none => exact Action.Sat.skip.atState _
  | some k =>
    dsimp only
    split_ifs with hgone
    · refine (requestError_invariant k _).weaken ?_ fun _ _ hi => hi
      rintro h s ⟨rfl, hi⟩
      simp only [Bool.and_eq_true, Bool.not_eq_true'] at hgone
      exact ⟨hi, hi.recorded.curCreated d k hcur, hgone.2⟩
    · exact Action.Sat.skip.atState _

theorem request_invariant (d : Nat) (cmd : String) (data : Json) (written : Bool)
    (m : Meanwhile) : Action.Sat Invariant (request qt d cmd data written m) Invariant := by
  refine (keptByProcess_invariant qt).outside.requestFrom d cmd data written m _ Open (fun k => ?_)
    (fun _ _ _ hopen => hopen.1) (fun k _ => requestError_invariant k _) (checkSent_invariant d)
    (clearBuf_invariant d)
  refine Action.Sat.seq (newTask_open d k) ?_
  intro h s hs
  exact ⟨emit_invariant (e := fun _ => .requested d k cmd data written) (fun _ _ => rfl)
    (fun _ => rfl) h s hs.1, hs.2⟩

theorem action_invariant (op : HostOp) : Action.Sat Invariant (op.action qt) Invariant :=
  (keptByProcess_invariant qt).action op
    (fun d cmd data written m _ => request_invariant qt d cmd data written m)
    fun k code error _ => forceTerminal_invariant k code error

end Pump

end HostState

/-! ## §5. Every run -/

/-- A host that has made no request yet, with drivers in any state. -/
def freshHost (drivers : Nat → Process) : HostState :=
  { drivers := fun d => { proc := drivers d } }

theorem invariant_fresh (drivers : Nat → Process) : Invariant [] (freshHost drivers) := by
  refine ⟨⟨fun d k hk => ?_, fun _ _ => rfl, fun k => ?_, fun k pre p heq => ?_⟩, ?_⟩
  · simp [freshHost] at hk
  · simp [freshHost, pushes]
  · simp [pushes] at heq
  · simp [NoStale, pushes, TerminalLast]

/-- No pump of this step is stale: where `pumpStdout` runs for a task that has ended, the
buffer with the unread bytes is within its limit and holds no complete line. -/
def PumpsInTime (qt : Qt) (c : Machine.Config HostState HostEvent) (op : HostOp) : Prop :=
  NoStale ((hostMachine qt).step c.state op).2

/-- **Every task ends at most once, exactly along the runs without a stale pump.** -/
theorem one_terminal_iff (qt : Qt) (drivers : Nat → Process) (ops : List HostOp) :
    (hostMachine qt).EveryState OneTerminal (Machine.start (freshHost drivers)) ops ↔
      (hostMachine qt).EveryStep (PumpsInTime qt) (Machine.start (freshHost drivers)) ops := by
  have hinv : ∀ c op, Invariant c.history c.state →
      Invariant ((hostMachine qt).next c op).history ((hostMachine qt).next c op).state :=
    fun c op => HostState.action_invariant qt op _ _
  refine Machine.everyState_iff_everyStep_of_invariant
    (fun c => Invariant c.history c.state) hinv (fun c op hc hone => ?_)
    (invariant_fresh drivers) ((invariant_fresh drivers).oneTerminal_iff.mpr (by simp [NoStale]))
  rw [hc.oneTerminal_iff] at hone
  rw [(hinv c op hc).oneTerminal_iff, Machine.next_history, NoStale, List.forall_mem_append]
  exact and_iff_right hone

/-- The bytes of an ASCII text. -/
def asciiBytes (text : String) : List UInt8 := text.toList.map fun c => c.toNat.toUInt8

/-- What `QJsonDocument::fromJson` makes of the lines of these examples. -/
def sampleQt : Qt where
  fromJson line :=
    if line = asciiBytes "\x7b\x22status\x22:\x22done\x22,\x22code\x22:0\x7d" then
      some (.obj [("code", .num 0), ("status", .str "done")])
    else none
  fromUtf8 _ := ""

/-- A driver prints a line that is no message and then its answer; two pumps read them. -/
def noisyAnswer : List HostOp :=
  [.request 0 "run" (.obj []) true {},
    .write 0 (asciiBytes "oops\n\x7b\x22status\x22:\x22done\x22,\x22code\x22:0\x7d\n"),
    .deliver 0 64, .pumpStdout 0, .pumpStdout 0]

/-- The task ends with the error for the first line, and again with the answer. -/
theorem answer_after_error :
    ¬ (hostMachine sampleQt).EveryState OneTerminal (Machine.start (freshHost fun _ => {}))
        noisyAnswer := by
  rintro ⟨-, -, -, -, -, hone⟩
  have hlast := (hone 0).1 _ _ _
    (rfl : pushes 0 _ = [] ++ _ :: [_]) rfl
  cases hlast

end Stdiolink.Host
