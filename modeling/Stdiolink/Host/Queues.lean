/-
  Stdiolink.Host.Queues — the queues of the tasks.

  A message is pushed to the queue of a task and taken off it, first in, first out.  Everything
  but a push and a take leaves the queues alone, and so a wait is described by what it takes.

  Main results:
    • `keptOutside_of_push` — an assertion about queues is kept beside the takes if pushes keep it;
    • `keptByProcess_queued`, `queued_request` — what was pushed is what was taken, and the queue;
    • `waitAny_tookOne` — a whole `waitAnyNext` takes at most one message, of one of its tasks.
-/
import Stdiolink.Host.OneTerminal

namespace Stdiolink.Host

open Stdiolink.Lib
open Stdiolink.Protocol

/-! ## §1. Everything beside pushes and takes. -/

/-- An event that is neither a push nor a take. -/
def HostEvent.isAside : HostEvent → Bool
  | .pushed _ _ _ _ => false
  | .returned _ _ => false
  | _ => true

namespace HostState

/-- `settle` writes the other fields of a task. -/
def KeepsQueue (settle : TaskState → TaskState) : Prop := ∀ t, (settle t).queue = t.queue

section Push

variable {qt : Qt} {P : List HostEvent → HostState → Prop}
variable (hdriver : ∀ h s d driver, P h s → P h (s.setDriver d driver))
variable (hemit : ∀ h s e, HostEvent.isAside e = true → P h s → P (h ++ [e]) s)
variable (hpush : ∀ k origin msg settle, KeepsQueue settle →
  Action.Sat P (push k origin msg settle) P)

include hpush in
theorem pushError_of_push (k : Nat) (origin : Origin) (code : Int)
    (payload : List (String × Json)) : Action.Sat P (pushError k origin code payload) P := by
  apply hpush
  intro t
  rfl

include hpush in
theorem acceptMessage_of_push (k : Nat) (origin : Origin) (msg : Message) :
    Action.Sat P (acceptMessage k origin msg) P := by
  apply hpush
  intro t
  cases hmsg : msg.isTerminal <;> simp

include hpush in
theorem forceTerminal_of_push (k : Nat) (code : Int) (error : String) :
    Action.Sat P (forceTerminal k code error) P := by
  apply Action.Sat.bind
  intro s₀
  split_ifs
  · exact Action.Sat.skip.atState _
  · have hkeeps := hpush k .host ⟨.error, code, .obj [("message", .str error)]⟩
      (fun t => { t with
        terminal := true
        exitCode := code
        errorText := error
        finalPayload := .obj [("message", .str error)] }) fun _ => rfl
    exact hkeeps.atState _

include hemit hpush in
theorem abandon_of_push (k : Nat) : Action.Sat P (abandon k) P := by
  apply Action.Sat.bind
  intro s₀
  split_ifs
  · exact Action.Sat.skip.atState _
  · refine Action.Sat.seq (R := P) ?_ (forceTerminal_of_push hpush k _ _)
    exact Action.Sat.emit fun h s hs => hemit h s _ rfl hs.2

include hemit hpush in
theorem requestError_of_push (k : Nat) (text : String) :
    Action.Sat P (requestError k text) P := by
  apply Action.Sat.bind
  intro s₀
  refine Action.Sat.seq (R := P) ?_ (pushError_of_push hpush k _ _ _)
  exact Action.Sat.emit fun h s hs => hemit h s _ rfl hs.2

include hdriver hemit in
theorem clearBuf_of_push (d : Nat) : Action.Sat P (clearBuf d) P := by
  refine Action.Sat.seq (R := P) ?_ ?_
  · exact Action.Sat.emit fun h s hs => hemit h s _ rfl hs
  · exact Action.Sat.modify fun h s hs => hdriver h s _ _ hs

include hdriver hpush in
theorem readLines_of_push (d k : Nat) : Action.Sat P (readLines qt d k) P := by
  intro h s hs
  have hstart : P (h ++ (s, ([] : List HostEvent)).2) s := by
    rw [List.append_nil]
    exact hs
  have hloop : P (h ++ (forLines newline (pumpLine qt d k) (s, []) (s.drivers d).buf).1.2)
      (forLines newline (pumpLine qt d k) (s, []) (s.drivers d).buf).1.1 := by
    refine forLines_rule (fun (acc : HostState × List HostEvent) _ => P (h ++ acc.2) acc.1)
      (fun acc _ => P (h ++ acc.2) acc.1) ?_ (fun _ _ _ hr => hr) hstart
    intro acc line rest _ hr
    unfold pumpLine
    cases parseResponse qt.fromJson line with
    | none =>
      rw [if_pos rfl, Action.append_extend_snd]
      exact pushError_of_push hpush k _ _ _ _ _ hr
    | some msg =>
      have haccept := acceptMessage_of_push hpush k (.line d line) msg _ _ hr
      cases hmsg : msg.isTerminal with
      | true =>
        simp only [hmsg, if_true, Action.append_extend_snd, Action.extend_fst]
        exact Action.Sat.modify (fun h s hs => hdriver h s _ _ hs) _ _ haccept
      | false =>
        simp only [hmsg, Bool.false_eq_true, if_false, Action.append_extend_snd]
        exact haccept
  exact hdriver _ _ _ _ hloop

include hdriver hemit hpush in
theorem pumpStdout_of_push (d : Nat) : Action.Sat P (pumpStdout qt d) P := by
  apply Action.Sat.bind
  intro s₀
  cases (s₀.drivers d).cur with
  | none => exact Action.Sat.skip.atState _
  | some k =>
    refine Action.Sat.seq (R := P) (Action.Sat.modify fun h s hs => hdriver h s _ _ hs.2)
      (Action.Sat.seq (R := P) (Action.Sat.emit fun h s hs => hemit h s _ rfl hs)
        (Action.Sat.bind fun s₁ => ?_))
    split_ifs
    · refine Action.Sat.seq (R := P) ?_ (clearBuf_of_push hdriver hemit d)
      exact (pushError_of_push hpush k _ _ _).atState _
    · exact (readLines_of_push hdriver hpush d k).atState _

include hdriver hemit hpush in
/-- **What pushes keep, everything beside the takes keeps**: reading, giving up, the waits and the
process. -/
theorem keptOutside_of_push (hwaits : ∀ h s ws, P h s → P h { s with waits := ws }) :
    KeptOutside qt P where
  pump := pumpStdout_of_push hdriver hemit hpush
  abandon := abandon_of_push hemit hpush
  waits := hwaits
  write d _ := by
    refine Action.Sat.seq (R := P) ?_ ?_
    · exact Action.Sat.modify fun h s hs => hdriver h s _ _ hs
    · exact Action.Sat.emit fun h s hs => hemit h s _ rfl hs
  receive d _ := Action.Sat.modify fun h s hs => hdriver h s _ _ hs
  markExited d _ _ := by
    refine Action.Sat.seq (R := P) ?_ ?_
    · exact Action.Sat.modify fun h s hs => hdriver h s _ _ hs
    · exact Action.Sat.emit fun h s hs => hemit h s _ rfl hs

end Push

end HostState

/-! ## §2. What is taken off the queues. -/

def HostEvent.taken : HostEvent → Option (Nat × Message)
  | .returned k m => some (k, m)
  | _ => none

/-- The messages taken so far, with their tasks. -/
def takes (h : List HostEvent) : List (Nat × Message) := h.filterMap HostEvent.taken

@[simp] theorem takes_append (h h' : List HostEvent) : takes (h ++ h') = takes h ++ takes h' :=
  List.filterMap_append

theorem takes_aside {e : HostEvent} (he : e.isAside = true) (h : List HostEvent) :
    takes (h ++ [e]) = takes h := by
  rw [takes_append]
  cases e with
  | returned k m => cases he
  | _ => exact List.append_nil _

namespace HostState

/-- Since `h₀` and `s₀` nothing was taken: the queues have only grown. -/
structure Quiet (h₀ : List HostEvent) (s₀ : HostState) (h : List HostEvent) (s : HostState) :
    Prop where
  taken : takes h = takes h₀
  queues : ∀ k < s₀.created, (s₀.tasks k).queue <+: (s.tasks k).queue
  created : s₀.created ≤ s.created

/-- Since `h₀` and `s₀` this message was taken of this task, and no other.  It was the first of
the queue, or the queue was empty; the other queues have only grown. -/
structure TookMessage (k : Nat) (m : Message) (h₀ : List HostEvent) (s₀ : HostState)
    (h : List HostEvent) (s : HostState) : Prop where
  taken : takes h = takes h₀ ++ [(k, m)]
  queues : ∀ j < s₀.created, (s₀.tasks j).queue <+:
    (if j = k then m :: (s.tasks k).queue else (s.tasks j).queue)
  created : s₀.created ≤ s.created

/-- Since `h₀` and `s₀` at most one message was taken, of one of these tasks. -/
def TookOne (ks : List Nat) (h₀ : List HostEvent) (s₀ : HostState) (h : List HostEvent)
    (s : HostState) : Prop :=
  Quiet h₀ s₀ h s ∨ ∃ k m, k ∈ ks ∧ TookMessage k m h₀ s₀ h s

variable {h₀ : List HostEvent} {s₀ : HostState}

theorem Quiet.refl (h : List HostEvent) (s : HostState) : Quiet h s h s where
  taken := rfl
  queues _ _ := List.prefix_rfl
  created := Nat.le_refl _

theorem Quiet.emit {h : List HostEvent} {s : HostState} (hq : Quiet h₀ s₀ h s) {e : HostEvent}
    (he : e.isAside = true) : Quiet h₀ s₀ (h ++ [e]) s where
  taken := (takes_aside he h).trans hq.taken
  queues := hq.queues
  created := hq.created

theorem quiet_push (k : Nat) (origin : Origin) (msg : Message) {settle : TaskState → TaskState}
    (hset : KeepsQueue settle) :
    Action.Sat (Quiet h₀ s₀) (push k origin msg settle) (Quiet h₀ s₀) := by
  intro h s hq
  constructor
  · show takes (h ++ [_]) = _
    rw [takes_append, hq.taken]
    exact List.append_nil _
  · intro j hj
    by_cases hjk : j = k
    · subst hjk
      show _ <+: (Function.update s.tasks j _ j).queue
      rw [Function.update_self, hset]
      exact (hq.queues j hj).trans (List.prefix_append _ _)
    · show _ <+: (Function.update s.tasks k _ j).queue
      rw [Function.update_of_ne hjk]
      exact hq.queues j hj
  · exact hq.created

variable (qt : Qt)

theorem keptOutside_quiet : KeptOutside qt (Quiet h₀ s₀) :=
  keptOutside_of_push (fun _ _ _ _ hq => ⟨hq.taken, hq.queues, hq.created⟩)
    (fun _ _ _ he hq => hq.emit he) (fun k origin msg _ hset => quiet_push k origin msg hset)
    fun _ _ _ hq => ⟨hq.taken, hq.queues, hq.created⟩

theorem take_tookOne (k : Nat) : Action.Sat (Quiet h₀ s₀) (take k) (TookOne [k] h₀ s₀) := by
  intro h s hq
  unfold take
  split
  · rw [List.append_nil]
    exact Or.inl hq
  · rename_i m rest hqueue
    split_ifs with hvalid
    · right
      refine ⟨k, m, List.mem_singleton_self k, ?_, ?_, hq.created⟩
      · show takes (h ++ [.returned k m]) = _
        rw [takes_append, hq.taken]
        rfl
      · intro j hj
        have hprefix := hq.queues j hj
        by_cases hjk : j = k
        · subst hjk
          rw [if_pos rfl]
          show _ <+: m :: (Function.update s.tasks j _ j).queue
          rw [Function.update_self]
          rw [hqueue] at hprefix
          exact hprefix
        · rw [if_neg hjk]
          show _ <+: (Function.update s.tasks k _ j).queue
          rw [Function.update_of_ne hjk]
          exact hprefix
    · rw [List.append_nil]
      exact Or.inl hq

theorem TookOne.mono {ks ks' : List Nat} (hsub : ∀ k ∈ ks, k ∈ ks') {h : List HostEvent}
    {s : HostState} (ht : TookOne ks h₀ s₀ h s) : TookOne ks' h₀ s₀ h s := by
  obtain hq | ⟨k, m, hk, hrest⟩ := ht
  · exact Or.inl hq
  · exact Or.inr ⟨k, m, hsub k hk, hrest⟩

theorem tryNext_tookOne (k : Nat) :
    Action.Sat (Quiet h₀ s₀) (tryNext k) (TookOne [k] h₀ s₀) := by
  refine Action.Sat.seq (R := Quiet h₀ s₀) ?_ (take_tookOne k)
  apply Action.Sat.bind
  intro s₁
  split_ifs
  · have habandon := abandon_of_push (P := Quiet h₀ s₀) (fun _ _ _ he hq => hq.emit he)
      (fun k origin msg _ hset => quiet_push k origin msg hset) k
    exact habandon.atState _
  · exact Action.Sat.skip.atState _

theorem tryEach_tookOne (ks : List Nat) :
    Action.Sat (Quiet h₀ s₀) (tryEach ks) (TookOne ks h₀ s₀) := by
  induction ks with
  | nil =>
    intro h s hq
    rw [tryEach, Action.skip_apply, List.append_nil]
    exact Or.inl hq
  | cons k ks ih =>
    apply Action.Sat.bind
    intro s₁
    split_ifs
    · exact ((tryNext_tookOne k).atState _).weaken (fun _ _ hq => hq) fun _ _ ht =>
        ht.mono (by simp)
    · exact (ih.atState _).weaken (fun _ _ hq => hq) fun _ _ ht =>
        ht.mono fun _ hj => List.mem_cons_of_mem k hj

theorem check_tookOne (ks : List Nat) {goOn : Action HostState HostEvent}
    (hgo : Action.Sat (Quiet h₀ s₀) goOn (TookOne ks h₀ s₀)) :
    Action.Sat (Quiet h₀ s₀) (check ks goOn) (TookOne ks h₀ s₀) := by
  apply Action.Sat.bind
  intro s₁
  split_ifs
  · exact (tryEach_tookOne ks).atState _
  · exact Action.Sat.emit fun h s hq => Or.inl (hq.2.emit rfl)
  · exact hgo.atState _

end HostState

/-! ## §3. A whole wait. -/

/-- What the driver processes do while an event loop runs. -/
inductive ProcessOp where
  | write (driver : Nat) (bytes : List UInt8)
  | deliver (driver n : Nat)
  | observeExit (driver : Nat) (exitCode : Int) (crashed : Bool)

def ProcessOp.action (qt : Qt) : ProcessOp → Action HostState HostEvent
  | .write d bytes => HostState.write d bytes
  | .deliver d n => HostState.deliver qt d n
  | .observeExit d exitCode crashed => HostState.observeExit qt d exitCode crashed

namespace HostState

variable (qt : Qt)

/-- `waitAnyNext`, with what it does where its event loop is. -/
def waitAnyUntil (ks : List Nat) (loop : HostState → Action HostState HostEvent) :
    Action HostState HostEvent :=
  check ks
    (Action.seq (Action.forEach ks (pumpOwner qt))
      (check ks
        (Action.bind fun s =>
          Action.seq (Action.forEach ks (preCheck qt)) (check ks (loop s)))))

/-- The end of `loop.exec()`, and `tryNext` once more. -/
def leaveLoop (ks : List Nat) : Action HostState HostEvent :=
  Action.seq (Action.modify fun s => { s with waits := s.waits.dropLast })
    (Action.bind fun s =>
      if ks.any s.offers then tryEach ks
      else Action.emit fun s => .waitFailed ks (!s.ready ks))

/-- A whole `waitAnyNext`: the loop is entered and left, at any time, when its timer fires or a
slot quits it.  `during` is what happens in between. -/
def waitAny (ks : List Nat) (during : List ProcessOp) : Action HostState HostEvent :=
  waitAnyUntil qt ks fun s =>
    Action.seq (enterLoop ks (s.connected ks))
      (Action.seq (Action.forEach during (ProcessOp.action qt)) (leaveLoop ks))

/-- `Task::waitNext`, with what it does where its event loop is. -/
def waitNextUntil (k : Nat) (loop : HostState → Action HostState HostEvent) :
    Action HostState HostEvent :=
  check [k]
    (Action.seq (pumpOwner qt k)
      (check [k]
        (Action.bind fun s =>
          if s.isRunning k then loop s
          else
            Action.seq (pumpOwner qt k)
              (Action.bind fun s =>
                if s.offers k then tryNext k
                else Action.seq (abandon k) (tryNext k)))))

/-- A whole `Task::waitNext`. -/
def waitNextWhile (k : Nat) (during : List ProcessOp) : Action HostState HostEvent :=
  waitNextUntil qt k fun s =>
    Action.seq (enterLoop [k] [s.owner k])
      (Action.seq (Action.forEach during (ProcessOp.action qt)) (leaveLoop [k]))

/-- `AnyItem`. -/
structure AnyItem where
  taskIndex : Nat
  msg : Message

/-- What `waitAnyNext` returns in `out`, if anything: the message it took, and the place of its
task. -/
def anyItem (ks : List Nat) (events : List HostEvent) : Option AnyItem :=
  (takes events).head?.map fun (k, m) => { taskIndex := ks.idxOf k, msg := m }

variable {qt}

theorem KeptOutside.process {P : List HostEvent → HostState → Prop} (hP : KeptOutside qt P)
    (op : ProcessOp) : Action.Sat P (op.action qt) P := by
  cases op with
  | write d bytes => exact hP.write d bytes
  | deliver d n => exact hP.deliver d n
  | observeExit d exitCode crashed => exact hP.observeExit d exitCode crashed

theorem KeptByProcess.leaveLoop {P : List HostEvent → HostState → Prop}
    (hP : KeptByProcess qt P) (ks : List Nat) : Action.Sat P (leaveLoop ks) P := by
  refine Action.Sat.seq (R := P) ?_ (Action.Sat.bind fun s₁ => ?_)
  · exact Action.Sat.modify fun h s hs => hP.waits h s _ hs
  · split_ifs
    · exact (hP.tryEach ks).atState _
    · exact Action.Sat.emit fun h s hs => hP.failed h s _ _ hs.2

/-- What the parts and the process keep, a whole wait keeps. -/
theorem KeptByProcess.waitAny {P : List HostEvent → HostState → Prop} (hP : KeptByProcess qt P)
    (ks : List Nat) (during : List ProcessOp) : Action.Sat P (waitAny qt ks during) P := by
  refine hP.check ks (Action.Sat.seq (Action.Sat.forEach fun k _ => hP.beside.pumpOwner k)
    (hP.check ks (Action.Sat.bind fun s₁ => ?_)))
  refine Action.Sat.seq ((Action.Sat.forEach fun k _ => hP.beside.preCheck k).atState _)
    (hP.check ks ?_)
  exact Action.Sat.seq (hP.beside.enterLoop ks _)
    (Action.Sat.seq (Action.Sat.forEach fun op _ => hP.outside.process op) (hP.leaveLoop ks))

theorem KeptByProcess.waitNextWhile {P : List HostEvent → HostState → Prop}
    (hP : KeptByProcess qt P) (k : Nat) (during : List ProcessOp) :
    Action.Sat P (waitNextWhile qt k during) P := by
  refine hP.check [k] (Action.Sat.seq (hP.beside.pumpOwner k)
    (hP.check [k] (Action.Sat.bind fun s₁ => ?_)))
  split_ifs
  · refine Action.Sat.seq ((hP.beside.enterLoop [k] _).atState _) ?_
    exact Action.Sat.seq (Action.Sat.forEach fun op _ => hP.outside.process op) (hP.leaveLoop [k])
  · refine Action.Sat.seq ((hP.beside.pumpOwner k).atState _) (Action.Sat.bind fun s₂ => ?_)
    split_ifs
    · exact (hP.tryNext k).atState _
    · exact Action.Sat.seq ((hP.abandon k).atState _) (hP.tryNext k)

variable {h₀ : List HostEvent} {s₀ : HostState}

theorem leaveLoop_tookOne (ks : List Nat) :
    Action.Sat (Quiet h₀ s₀) (leaveLoop ks) (TookOne ks h₀ s₀) := by
  refine Action.Sat.seq (R := Quiet h₀ s₀) ?_ (Action.Sat.bind fun s₁ => ?_)
  · exact Action.Sat.modify fun h s hq => ⟨hq.taken, hq.queues, hq.created⟩
  · split_ifs
    · exact (tryEach_tookOne ks).atState _
    · exact Action.Sat.emit fun h s hq => Or.inl (hq.2.emit rfl)

/-- **A whole wait takes at most one message**, of one of its tasks. -/
theorem waitAny_tookOne (ks : List Nat) (during : List ProcessOp) :
    Action.Sat (Quiet h₀ s₀) (waitAny qt ks during) (TookOne ks h₀ s₀) := by
  have hP : KeptOutside qt (Quiet h₀ s₀) := keptOutside_quiet qt
  have hpumps : Action.Sat (Quiet h₀ s₀) (Action.forEach ks (pumpOwner qt)) (Quiet h₀ s₀) :=
    Action.Sat.forEach fun k _ => hP.pumpOwner k
  refine check_tookOne ks (Action.Sat.seq hpumps (check_tookOne ks (Action.Sat.bind fun s₁ => ?_)))
  refine Action.Sat.seq ((Action.Sat.forEach fun k _ => hP.preCheck k).atState _)
    (check_tookOne ks ?_)
  exact Action.Sat.seq (hP.enterLoop ks _)
    (Action.Sat.seq (Action.Sat.forEach fun op _ => hP.process op) (leaveLoop_tookOne ks))

/-- So does a whole wait for one task. -/
theorem waitNextWhile_tookOne (k : Nat) (during : List ProcessOp) :
    Action.Sat (Quiet h₀ s₀) (waitNextWhile qt k during) (TookOne [k] h₀ s₀) := by
  have hP : KeptOutside qt (Quiet h₀ s₀) := keptOutside_quiet qt
  refine check_tookOne [k] (Action.Sat.seq (hP.pumpOwner k)
    (check_tookOne [k] (Action.Sat.bind fun s₁ => ?_)))
  split_ifs
  · refine Action.Sat.seq ((hP.enterLoop [k] _).atState _) ?_
    exact Action.Sat.seq (Action.Sat.forEach fun op _ => hP.process op) (leaveLoop_tookOne [k])
  · refine Action.Sat.seq ((hP.pumpOwner k).atState _) (Action.Sat.bind fun s₂ => ?_)
    split_ifs
    · exact (tryNext_tookOne k).atState _
    · exact Action.Sat.seq ((hP.abandon k).atState _) (tryNext_tookOne k)

variable (qt) in
/-- What a whole wait did, and what it returns. -/
theorem waitAny_cases (ks : List Nat) (during : List ProcessOp) (s : HostState) :
    (Quiet [] s (waitAny qt ks during s).2 (waitAny qt ks during s).1 ∧
      anyItem ks (waitAny qt ks during s).2 = none) ∨
    ∃ k m, k ∈ ks ∧ TookMessage k m [] s (waitAny qt ks during s).2 (waitAny qt ks during s).1 ∧
      anyItem ks (waitAny qt ks during s).2 = some { taskIndex := ks.idxOf k, msg := m } := by
  have htook : TookOne ks [] s ([] ++ (waitAny qt ks during s).2) (waitAny qt ks during s).1 :=
    waitAny_tookOne ks during [] s (Quiet.refl [] s)
  rw [List.nil_append] at htook
  obtain hq | ⟨k, m, hk, ht⟩ := htook
  · left
    refine ⟨hq, ?_⟩
    have htakes : takes (waitAny qt ks during s).2 = [] := hq.taken
    rw [anyItem, htakes]
    rfl
  · right
    refine ⟨k, m, hk, ht, ?_⟩
    have htakes : takes (waitAny qt ks during s).2 = [(k, m)] := ht.taken
    rw [anyItem, htakes]
    rfl

end HostState

/-! ## §4. First in, first out. -/

/-- The messages taken of one task. -/
def returns (k : Nat) (h : List HostEvent) : List Message :=
  (takes h).filterMap fun t => if t.1 = k then some t.2 else none

theorem returns_append (k : Nat) (h h' : List HostEvent) :
    returns k (h ++ h') = returns k h ++ returns k h' := by
  rw [returns, takes_append]
  exact List.filterMap_append

theorem returns_eq_of_takes {h h' : List HostEvent} (heq : takes h' = takes h) (k : Nat) :
    returns k h' = returns k h := by
  rw [returns, heq, returns]

/-- **The invariant.**  What was pushed to a task is what was taken of it, and then its queue. -/
def Queued (h : List HostEvent) (s : HostState) : Prop :=
  ∀ k, (pushes k h).map Prod.fst = returns k h ++ (s.tasks k).queue

theorem pushes_aside {e : HostEvent} (he : e.isAside = true) (k : Nat) (h : List HostEvent) :
    pushes k (h ++ [e]) = pushes k h := by
  rw [pushes_append]
  cases e with
  | pushed k' m o origin => cases he
  | _ => exact List.append_nil _

namespace HostState

theorem queued_emit {h : List HostEvent} {s : HostState} (hq : Queued h s) {e : HostEvent}
    (he : e.isAside = true) : Queued (h ++ [e]) s := by
  intro k
  rw [pushes_aside he, returns_eq_of_takes (takes_aside he h)]
  exact hq k

theorem queued_push (k : Nat) (origin : Origin) (msg : Message) {settle : TaskState → TaskState}
    (hset : KeepsQueue settle) : Action.Sat Queued (push k origin msg settle) Queued := by
  intro h s hq j
  have htakes : ∀ o, takes (h ++ [HostEvent.pushed k msg o origin]) = takes h := by
    intro o
    rw [takes_append]
    exact List.append_nil _
  show (pushes j (h ++ [_])).map Prod.fst =
    returns j (h ++ [_]) ++ (Function.update s.tasks k _ j).queue
  rw [pushes_pushed, returns_eq_of_takes (htakes _), List.map_append, hq j]
  by_cases hjk : j = k
  · subst hjk
    rw [if_pos rfl, Function.update_self, hset, List.append_assoc]
    rfl
  · rw [if_neg (Ne.symm hjk), Function.update_of_ne hjk]
    exact List.append_nil _

theorem queued_take (k : Nat) : Action.Sat Queued (take k) Queued := by
  intro h s hq
  unfold take
  split
  · rw [List.append_nil]
    exact hq
  · rename_i m rest hqueue
    split_ifs
    · intro j
      have hpushes : pushes j (h ++ [HostEvent.returned k m]) = pushes j h := by
        rw [pushes_append]
        exact List.append_nil _
      have hreturned : returns j [HostEvent.returned k m] = if k = j then [m] else [] := by
        by_cases hkj : k = j <;> simp [returns, takes, HostEvent.taken, hkj]
      show (pushes j (h ++ [_])).map Prod.fst =
        returns j (h ++ [_]) ++ (Function.update s.tasks k _ j).queue
      rw [hpushes, returns_append, hreturned, hq j]
      by_cases hjk : j = k
      · subst hjk
        rw [if_pos rfl, Function.update_self, hqueue, List.append_assoc]
        rfl
      · rw [if_neg (Ne.symm hjk), List.append_nil, Function.update_of_ne hjk]
    · rw [List.append_nil]
      exact hq

theorem keptByProcess_queued (qt : Qt) : KeptByProcess qt Queued := by
  have houtside : KeptOutside qt Queued :=
    keptOutside_of_push (fun _ _ _ _ hq => hq) (fun _ _ _ he hq => queued_emit hq he)
      (fun k origin msg _ hset => queued_push k origin msg hset) fun _ _ _ hq => hq
  exact {
    pump := houtside.pump
    abandon := houtside.abandon
    take := queued_take
    waits := houtside.waits
    failed := fun _ _ _ _ hq => queued_emit hq rfl
    write := houtside.write
    receive := houtside.receive
    markExited := houtside.markExited }

/-- A request starts with an empty queue for a task that nothing was pushed to. -/
theorem queued_request (qt : Qt) (d : Nat) (cmd : String) (data : Json) (written : Bool)
    (m : Meanwhile) :
    Action.Sat (fun h s => Recorded h s ∧ Queued h s) (request qt d cmd data written m) Queued := by
  have herror : ∀ k text, Action.Sat Queued (requestError k text) Queued :=
    requestError_of_push (fun _ _ _ he hq => queued_emit hq he)
      fun k origin msg _ hset => queued_push k origin msg hset
  refine (keptByProcess_queued qt).outside.requestFrom d cmd data written m _ (fun _ => Queued)
    (fun k => ?_) (fun _ _ _ hq => hq) (fun k _ => herror k _) (checkSent_rule herror d) ?_
  · refine Action.Sat.seq (R := Queued) (Action.Sat.modify ?_)
      (Action.Sat.emit fun h s hq => queued_emit hq rfl)
    intro h s hs j
    obtain ⟨-, hr, hq⟩ := hs
    have hj := hq j
    show (pushes j h).map Prod.fst = returns j h ++ (Function.update s.tasks s.created {} j).queue
    by_cases hnew : j = s.created
    · subst hnew
      rw [hr.fresh s.created (Nat.le_refl _)] at hj ⊢
      rw [Function.update_self]
      have hnothing := List.append_eq_nil_iff.mp hj.symm
      rw [hnothing.1]
      rfl
    · rw [Function.update_of_ne hnew]
      exact hj
  · exact clearBuf_of_push (fun _ _ _ _ hq => hq) (fun _ _ _ he hq => queued_emit hq he) d

/-- A request takes nothing; the queue of its task is a new one. -/
theorem quiet_request (qt : Qt) {h₀ : List HostEvent} {s₀ : HostState} (d : Nat) (cmd : String)
    (data : Json) (written : Bool) (m : Meanwhile) :
    Action.Sat (Quiet h₀ s₀) (request qt d cmd data written m) (Quiet h₀ s₀) := by
  have herror : ∀ k text, Action.Sat (Quiet h₀ s₀) (requestError k text) (Quiet h₀ s₀) :=
    requestError_of_push (fun _ _ _ he hq => hq.emit he)
      fun k origin msg _ hset => quiet_push k origin msg hset
  refine (keptOutside_quiet qt).requestFrom d cmd data written m _ (fun _ => Quiet h₀ s₀)
    (fun k => ?_) (fun _ _ _ hq => hq) (fun k _ => herror k _) (checkSent_rule herror d) ?_
  · refine Action.Sat.seq (R := Quiet h₀ s₀) (Action.Sat.modify ?_)
      (Action.Sat.emit fun h s hq => hq.emit rfl)
    intro h s hs
    obtain ⟨-, hq⟩ := hs
    refine ⟨hq.taken, ?_, Nat.le_succ_of_le hq.created⟩
    intro j hj
    show _ <+: (Function.update s.tasks s.created {} j).queue
    have hcreated := hq.created
    rw [Function.update_of_ne (by omega)]
    exact hq.queues j hj
  · exact clearBuf_of_push (fun _ _ _ _ hq => ⟨hq.taken, hq.queues, hq.created⟩)
      (fun _ _ _ he hq => hq.emit he) d

/-- A request makes a task. -/
theorem created_request (qt : Qt) (d : Nat) (cmd : String) (data : Json) (written : Bool)
    (m : Meanwhile) (s : HostState) :
    s.created < (request qt d cmd data written m s).1.created := by
  let P : List HostEvent → HostState → Prop := fun _ s' => s.created < s'.created
  have hP : KeptOutside qt P :=
    keptOutside_of_push (fun _ _ _ _ hs => hs) (fun _ _ _ _ hs => hs)
      (fun _ _ _ _ _ _ _ hs => hs) fun _ _ _ hs => hs
  have herror : ∀ k text, Action.Sat P (requestError k text) P :=
    requestError_of_push (fun _ _ _ _ hs => hs) fun _ _ _ _ _ _ _ hs => hs
  have hrequest : Action.Sat (fun _ s' => s' = s) (request qt d cmd data written m) P := by
    refine hP.requestFrom d cmd data written m _ (fun _ => P) (fun k => ?_) (fun _ _ _ hs => hs)
      (fun k _ => herror k _) (checkSent_rule herror d) ?_
    · refine Action.Sat.seq (R := P) (Action.Sat.modify ?_) (Action.Sat.emit fun _ _ hs => hs)
      intro h s' hs'
      rw [hs'.2]
      exact Nat.lt_succ_self _
    · exact clearBuf_of_push (fun _ _ _ _ hs => hs) (fun _ _ _ _ hs => hs) d
  exact hrequest [] s rfl

/-- A task is done when its terminal message is among the messages taken of it. -/
theorem isDone_iff {h : List HostEvent} {s : HostState} (hr : Recorded h s) (hq : Queued h s)
    {k : Nat} (hk : k < s.created) :
    s.isDone k = true ↔
      (∃ m ∈ returns k h, m.isTerminal = true) ∧ (s.tasks k).queue = [] := by
  have hvalid : s.isValid k = true := by
    unfold isValid
    simpa using hk
  unfold isDone
  rw [hvalid, Bool.not_true, Bool.false_or, Bool.and_eq_true, List.isEmpty_iff, hr.terminal k]
  constructor
  · intro hdone
    obtain ⟨⟨p, hp, hterminal⟩, hqueue⟩ := hdone
    have hall := hq k
    rw [hqueue, List.append_nil] at hall
    refine ⟨⟨p.1, ?_, hterminal⟩, hqueue⟩
    rw [← hall]
    exact List.mem_map_of_mem hp
  · intro hdone
    obtain ⟨⟨m, hm, hterminal⟩, hqueue⟩ := hdone
    have hpushed : m ∈ (pushes k h).map Prod.fst := by
      rw [hq k]
      exact List.mem_append_left _ hm
    obtain ⟨p, hp, heq⟩ := List.mem_map.mp hpushed
    exact ⟨⟨p, hp, by rw [heq]; exact hterminal⟩, hqueue⟩

end HostState

end Stdiolink.Host
