/-
  Stdiolink.Host.Response — what becomes of the response to a request.

  A driver that answers a request and exits has written its response to the pipe.  The
  host reads it line by line into the queue of the task; and where it finds the process gone
  and the queue empty, it gives up on the task with an error of its own.  `tryNext` and the
  test after the write in `request` do so without a look at what is still to be read.

  Main results:
    * `not_carries_of_read` — once all is read, an open task has been told no end;
    * `Served.kept`         — what the host reads first is delivered whole and in order;
    * `response_kept`       — for a valid handle, along every run in which the host reads before
      it gives up.
-/
import Stdiolink.Host.Stream
import Stdiolink.Host.OneTerminal

namespace Stdiolink.Host

open Stdiolink.Lib
open Stdiolink.Protocol

/-! ## §1. Responses -/

/-- The message that a task returns with this event. -/
def HostEvent.returnedBy (k : Nat) : HostEvent → Option Message
  | .returned k' m => if k' = k then some m else none
  | _ => none

/-- What the task has yielded. -/
def returnedTo (k : Nat) (h : List HostEvent) : List Message :=
  h.filterMap (HostEvent.returnedBy k)

/-- What was pushed to the task. -/
def messagesOf (k : Nat) (h : List HostEvent) : List Message := (pushes k h).map Prod.fst

@[simp] theorem messagesOf_append (k : Nat) (h h' : List HostEvent) :
    messagesOf k (h ++ h') = messagesOf k h ++ messagesOf k h' := by
  simp [messagesOf]

/-- The bytes hold a complete done or error line. -/
def Carries (qt : Qt) (bytes : List UInt8) : Prop :=
  ∃ lines line rest m, bytes = frame newline (lines ++ [line]) ++ rest ∧
    (∀ l ∈ lines ++ [line], newline ∉ l) ∧ parseResponse qt.fromJson line = some m ∧
      m.isTerminal = true

/-- The lines of a response: any events, then one done or error. -/
structure IsResponse (qt : Qt) (lines : List (List UInt8)) (messages : List Message) : Prop where
  complete : ∀ l ∈ lines, newline ∉ l
  parsed : lines.map (parseResponse qt.fromJson) = messages.map some
  ends : ∃ events last, messages = events ++ [last] ∧ last.isTerminal = true ∧
    ∀ m ∈ events, m.isTerminal = false

/-- The driver writes these lines and nothing else, all of them before it exits. -/
structure WritesThenExits (d : Nat) (lines : List (List UInt8)) (h : List HostEvent) : Prop where
  writes : wroteBytes d h <+: frame newline lines
  exits : ∀ h₁ h₂, h = h₁ ++ .exited d :: h₂ → wroteBytes d h₁ = frame newline lines

/-- The task yields these messages: in order, all of them before it is done, and all of them are at
hand once the exit is known and everything has been received and read. -/
structure Delivered (d k : Nat) (messages : List Message)
    (c : Machine.Config HostState HostEvent) : Prop where
  inOrder : returnedTo k c.history <+: messages
  whole : c.state.isDone k = true → returnedTo k c.history = messages
  atHand : (c.state.drivers d).proc.running = false → (c.state.drivers d).proc.pipe = [] →
    (c.state.drivers d).proc.unread = [] →
      returnedTo k c.history ++ (c.state.tasks k).queue = messages

/-- **The property.**  The host gives up on the task only when the driver has written no done or
error line, and a response is delivered. -/
structure ResponseKept (qt : Qt) (d k : Nat) (c : Machine.Config HostState HostEvent) : Prop where
  noFalseEnd : ∀ h₁ early h₂, c.history = h₁ ++ .gaveUp k early :: h₂ →
    ¬ Carries qt (wroteBytes d h₁)
  delivered : ∀ lines messages, IsResponse qt lines messages →
    WritesThenExits d lines c.history → Delivered d k messages c

/-- The host has read before it gave up: it gave up on the task only when the process had gone and
every byte was read, and it cleared nothing that was read into the buffer. -/
structure ReadFirst (d k : Nat) (h : List HostEvent) : Prop where
  notEarly : HostEvent.gaveUp k true ∉ h
  nothingCleared : NothingCleared d h

variable {d k : Nat} {h : List HostEvent} {qt : Qt}

theorem ReadFirst.of_append {h' : List HostEvent} (hr : ReadFirst d k (h ++ h')) :
    ReadFirst d k h :=
  ⟨fun hmem => hr.notEarly (List.mem_append_left _ hmem), hr.nothingCleared.of_append⟩

/-! ## §2. The invariant -/

/-- The host and the history agree about the task, which is the driver's only one. -/
structure Tracked (d k : Nat) (h : List HostEvent) (s : HostState) : Prop where
  created : k < s.created
  owner : s.owner k = d
  only : ∀ e, (s.drivers e).cur = some k → e = d
  current : ∀ j, (s.drivers d).cur = some j → j = k
  exitSeen : (s.drivers d).proc.running = false → HostEvent.exited d ∈ h
  yielded : returnedTo k h ++ (s.tasks k).queue = messagesOf k h

theorem returnedTo_event {e : HostEvent} (h : List HostEvent) (he : e.returnedBy k = none) :
    returnedTo k (h ++ [e]) = returnedTo k h := by
  simp [returnedTo, he]

theorem messagesOf_event {e : HostEvent} (h : List HostEvent) (he : e.pushedTo k = none) :
    messagesOf k (h ++ [e]) = messagesOf k h := by
  simp [messagesOf, pushes, he]

/-- Every line that was read is a message that was pushed. -/
def Parsed (qt : Qt) (d k : Nat) (h : List HostEvent) : Prop :=
  (linesRead d h).map (parseResponse qt.fromJson) = (messagesOf k h).map some

/-- A line was invalid, or the host gave up on the task. -/
def Failed (qt : Qt) (d k : Nat) (h : List HostEvent) : Prop :=
  (∃ line ∈ linesRead d h, parseResponse qt.fromJson line = none) ∨
    HostEvent.gaveUp k false ∈ h

theorem Failed.append (hf : Failed qt d k h) (h' : List HostEvent) : Failed qt d k (h ++ h') := by
  obtain ⟨line, hmem, hline⟩ | hgave := hf
  · refine Or.inl ⟨line, ?_, hline⟩
    rw [linesRead_append]
    exact List.mem_append_left _ hmem
  · exact Or.inr (List.mem_append_left _ hgave)

/-- The task waits for more, has been told its end, or failed. -/
inductive Phase (qt : Qt) (d k : Nat) (h : List HostEvent) (s : HostState) : Prop where
  | waiting : (s.tasks k).terminal = false → (s.drivers d).cur = some k → Parsed qt d k h →
      (∀ m ∈ messagesOf k h, m.isTerminal = false) → Phase qt d k h s
  | ended : (s.tasks k).terminal = true → (s.drivers d).cur = none → Parsed qt d k h →
      (∃ m ∈ messagesOf k h, m.isTerminal = true) → Phase qt d k h s
  | failed : (s.tasks k).terminal = true → Failed qt d k h → Phase qt d k h s

/-- What holds while the host reads first; `buf` is what is left of the buffer. -/
structure GoodWith (qt : Qt) (d k : Nat) (buf : List UInt8) (h : List HostEvent) (s : HostState) :
    Prop where
  phase : Phase qt d k h s
  noLine : (s.tasks k).terminal = false → newline ∉ buf
  noFalseEnd : ∀ h₁ early h₂, h = h₁ ++ .gaveUp k early :: h₂ → ¬ Carries qt (wroteBytes d h₁)
  gone : ∀ h₁ early h₂, h = h₁ ++ .gaveUp k early :: h₂ → HostEvent.exited d ∈ h₁

/-- **The invariant.** -/
structure Served (qt : Qt) (d k : Nat) (h : List HostEvent) (s : HostState) : Prop where
  accounted : Accounted [] d h s
  tracked : Tracked d k h s
  good : ReadFirst d k h → GoodWith qt d k (s.drivers d).buf h s

section Read

variable {qt : Qt} {d k : Nat} {h : List HostEvent} {s : HostState}

/-- Where nothing was cleared, the driver wrote the lines that were read and what is left. -/
theorem wroteBytes_eq (ha : Accounted [] d h s) (hno : NothingCleared d h) :
    wroteBytes d h = frame newline (linesRead d h) ++
      ((s.drivers d).buf ++ ((s.drivers d).proc.unread ++ (s.drivers d).proc.pipe)) := by
  have hbytes := ha.bytes
  rw [List.nil_append, takenBytes_eq hno] at hbytes
  exact hbytes

/-- A line that was read is one of the messages. -/
theorem Parsed.message (hparsed : Parsed qt d k h) {line : List UInt8} (hline : line ∈ linesRead d h)
    {m : Message} (hm : parseResponse qt.fromJson line = some m) : m ∈ messagesOf k h := by
  have hmem : some m ∈ (linesRead d h).map (parseResponse qt.fromJson) :=
    List.mem_map.mpr ⟨line, hline, hm⟩
  rw [hparsed] at hmem
  obtain ⟨m', hm', heq⟩ := List.mem_map.mp hmem
  rw [← Option.some.inj heq]
  exact hm'

/-- **Once all is read**, an open task has been told no end. -/
theorem not_carries_of_read (ha : Accounted [] d h s) (hno : NothingCleared d h)
    (hparsed : Parsed qt d k h) (hopen : ∀ m ∈ messagesOf k h, m.isTerminal = false)
    (hline : newline ∉ (s.drivers d).buf) (hunread : (s.drivers d).proc.unread = [])
    (hpipe : (s.drivers d).proc.pipe = []) : ¬ Carries qt (wroteBytes d h) := by
  intro hcarries
  obtain ⟨lines, line, rest, m, hbytes, hlines, hm, hterm⟩ := hcarries
  have hwrote := wroteBytes_eq ha hno
  rw [hunread, hpipe, List.append_nil, List.append_nil] at hwrote
  -- the done or error line is among those that were read
  obtain ⟨more, hread, -⟩ := frame_prefix hlines ha.lines hline (hbytes.symm.trans hwrote)
  have hmem : line ∈ linesRead d h := by
    rw [hread]
    simp
  rw [hopen m (hparsed.message hmem hm)] at hterm
  cases hterm

/-! ## §3. From the invariant to the response -/

variable {lines : List (List UInt8)} {messages : List Message}

/-- The lines that were read are the first lines of the response, and their messages its first
messages. -/
theorem read_prefix (ha : Accounted [] d h s) (hno : NothingCleared d h) (hparsed : Parsed qt d k h)
    (hresponse : IsResponse qt lines messages) (hwrites : wroteBytes d h <+: frame newline lines) :
    ∃ more tail, lines = linesRead d h ++ more ∧ messages = messagesOf k h ++ tail ∧
      more.map (parseResponse qt.fromJson) = tail.map some := by
  obtain ⟨rest, hrest⟩ := hwrites
  rw [wroteBytes_eq ha hno, List.append_assoc] at hrest
  obtain ⟨more, hlines, -⟩ := frame_prefix ha.lines hresponse.complete (y := [])
    (List.not_mem_nil) (hrest.trans (List.append_nil _).symm)
  have hmap := hresponse.parsed
  rw [hlines, List.map_append, hparsed] at hmap
  -- the messages are cut where the lines are
  obtain ⟨front, tail, hmessages, hfront, htail⟩ := List.map_eq_append_iff.mp hmap.symm
  have hsame : front = messagesOf k h := List.map_injective_iff.mpr (fun _ _ => Option.some.inj) hfront
  rw [hsame] at hmessages
  exact ⟨more, tail, hlines, hmessages, htail.symm⟩

theorem WritesThenExits.of_append {h' : List HostEvent} (hw : WritesThenExits d lines (h ++ h')) :
    WritesThenExits d lines h := by
  refine ⟨?_, ?_⟩
  · refine List.IsPrefix.trans ?_ hw.writes
    rw [wroteBytes_append]
    exact List.prefix_append _ _
  · intro h₁ h₂ heq
    exact hw.exits h₁ (h₂ ++ h') (by rw [heq, List.append_assoc, List.cons_append])

/-- All of a response is written once the exit is seen. -/
theorem WritesThenExits.all (hw : WritesThenExits d lines h) (hexit : HostEvent.exited d ∈ h) :
    wroteBytes d h = frame newline lines := by
  obtain ⟨h₁, h₂, heq⟩ := List.append_of_mem hexit
  have hfirst := hw.exits h₁ h₂ heq
  have hpre : frame newline lines <+: wroteBytes d h := by
    rw [heq, wroteBytes_append, hfirst]
    exact List.prefix_append _ _
  exact hw.writes.eq_of_length (Nat.le_antisymm hw.writes.length_le hpre.length_le)

/-- A whole response carries its end. -/
theorem IsResponse.carries (hresponse : IsResponse qt lines messages) :
    Carries qt (frame newline lines) := by
  obtain ⟨events, last, rfl, hterm, -⟩ := hresponse.ends
  have hmap := hresponse.parsed
  rw [List.map_append] at hmap
  obtain ⟨front, tail, hlines, -, htail⟩ := List.map_eq_append_iff.mp hmap
  obtain ⟨line, rest, rfl, hline, hrest⟩ := List.map_eq_cons_iff.mp htail
  obtain rfl := List.map_eq_nil_iff.mp hrest
  refine ⟨front, line, [], last, ?_, ?_, hline, hterm⟩
  · rw [hlines, List.append_nil]
  · rw [← hlines]
    exact hresponse.complete

/-- A response ends with its only done or error: what holds one is all of it. -/
theorem IsResponse.ended {front tail : List Message} (hresponse : IsResponse qt lines messages)
    (hcut : messages = front ++ tail) (hend : ∃ m ∈ front, m.isTerminal = true) : tail = [] := by
  obtain ⟨events, last, hmessages, -, hopen⟩ := hresponse.ends
  obtain ⟨m, hm, hterm⟩ := hend
  -- whatever follows the front would follow the end
  obtain rfl | ⟨tail', x, rfl⟩ := List.eq_nil_or_concat tail
  · rfl
  · rw [List.concat_eq_append, ← List.append_assoc, hmessages] at hcut
    have hevents := (List.append_inj' hcut rfl).1
    rw [hopen m (by rw [hevents]; exact List.mem_append_left _ hm)] at hterm
    cases hterm

end Read

/-- **What the host reads first is delivered**, whole and in order. -/
theorem Served.kept {c : Machine.Config HostState HostEvent} (hs : Served qt d k c.history c.state)
    (hread : ReadFirst d k c.history) :
    ResponseKept qt d k c := by
  have hgood := hs.good hread
  have ha := hs.accounted
  have hno := hread.nothingCleared
  refine ⟨hgood.noFalseEnd, ?_⟩
  intro lines messages hresponse hwrites
  have hyielded := hs.tracked.yielded
  have hdone : c.state.isDone k = true →
      (c.state.tasks k).terminal = true ∧ (c.state.tasks k).queue = [] := by
    intro hdone
    simpa [HostState.isDone, HostState.isValid, hs.tracked.created] using hdone
  cases hgood.phase with
  | waiting hopen hcur hparsed hnone =>
    obtain ⟨more, tail, hlines, hmessages, -⟩ := read_prefix ha hno hparsed hresponse hwrites.writes
    refine ⟨?_, ?_, ?_⟩
    · rw [hmessages, ← hyielded, List.append_assoc]
      exact List.prefix_append _ _
    · intro h
      rw [(hdone h).1] at hopen
      cases hopen
    · intro hrunning hpipe hunread
      -- all that was written is read, the end of the response with it
      have hall := hwrites.all (hs.tracked.exitSeen hrunning)
      have hcarries := not_carries_of_read ha hno hparsed hnone (hgood.noLine hopen) hunread hpipe
      rw [hall] at hcarries
      exact absurd hresponse.carries hcarries
  | ended hterm hcur hparsed hend =>
    obtain ⟨more, tail, hlines, hmessages, -⟩ := read_prefix ha hno hparsed hresponse hwrites.writes
    -- an end was read, and a response has only one
    have htail := hresponse.ended hmessages hend
    rw [htail, List.append_nil] at hmessages
    rw [hmessages, ← hyielded]
    refine ⟨List.prefix_append _ _, ?_, fun _ _ _ => rfl⟩
    intro h
    rw [(hdone h).2, List.append_nil]
  | failed hterm hwhy =>
    -- a response has no invalid line, and was not given up
    exfalso
    obtain ⟨line, hline, hinvalid⟩ | hgave := hwhy
    · -- a line that was read is a line of the response
      obtain ⟨rest, hrest⟩ := hwrites.writes
      rw [wroteBytes_eq ha hno, List.append_assoc] at hrest
      obtain ⟨more, hlines, -⟩ := frame_prefix ha.lines hresponse.complete (y := [])
        (List.not_mem_nil) (hrest.trans (List.append_nil _).symm)
      have hmem : none ∈ lines.map (parseResponse qt.fromJson) := by
        rw [hlines, ← hinvalid]
        exact List.mem_map.mpr ⟨line, List.mem_append_left _ hline, rfl⟩
      rw [hresponse.parsed] at hmem
      simp at hmem
    -- the host gave up after the exit, when the whole response had been written
    · obtain ⟨h₁, h₂, heq⟩ := List.append_of_mem hgave
      have hall := (heq ▸ hwrites).of_append.all (hgood.gone h₁ false h₂ heq)
      have hfalse := hgood.noFalseEnd h₁ false h₂ heq
      rw [hall] at hfalse
      exact hfalse hresponse.carries

/-! ## §4. What a step does to the task -/

/-- An event that is not about the task and reads no line of its driver. -/
structure Irrelevant (d k : Nat) (e : HostEvent) : Prop where
  pushed : e.pushedTo k = none
  returned : e.returnedBy k = none
  line : e.lineOf d = none
  kept : ∀ early, e ≠ .gaveUp k early

/-- Two states that agree about the task and its driver. -/
structure SameFor (d k : Nat) (s s' : HostState) : Prop where
  created : s.created ≤ s'.created
  owner : s'.owner k = s.owner k
  only : ∀ e, (s'.drivers e).cur = some k → (s.drivers e).cur = some k
  cur : (s'.drivers d).cur = (s.drivers d).cur
  buf : (s'.drivers d).buf = (s.drivers d).buf
  running : (s'.drivers d).proc.running = (s.drivers d).proc.running
  terminal : (s'.tasks k).terminal = (s.tasks k).terminal
  queue : (s'.tasks k).queue = (s.tasks k).queue

/-- An event in the history that is not the last one was there before the last one. -/
theorem split_concat {α : Type} {h h₁ h₂ : List α} {e g : α} (heq : h ++ [e] = h₁ ++ g :: h₂)
    (hne : e ≠ g) : ∃ h₃, h = h₁ ++ g :: h₃ := by
  obtain rfl | ⟨h₃, x, rfl⟩ := List.eq_nil_or_concat h₂
  · obtain ⟨-, hlast⟩ := List.append_inj' heq rfl
    exact absurd (List.cons.inj hlast).1 hne
  · rw [List.concat_eq_append, ← List.cons_append, ← List.append_assoc] at heq
    exact ⟨h₃, (List.append_inj' heq rfl).1⟩

/-- A list is split in one way at an event that is in it once. -/
theorem split_once {α : Type} {x : α} {front back h₁ h₂ : List α} (hfront : x ∉ front)
    (hback : x ∉ back) (heq : front ++ x :: back = h₁ ++ x :: h₂) : h₁ = front := by
  induction front generalizing h₁ with
  | nil =>
    cases h₁ with
    | nil => rfl
    | cons y h₁ =>
      obtain ⟨-, htail⟩ := List.cons.inj heq
      exact absurd (htail ▸ by simp) hback
  | cons y front ih =>
    cases h₁ with
    | nil =>
      obtain ⟨hhead, -⟩ := List.cons.inj heq
      exact absurd (by rw [hhead]; simp) hfront
    | cons z h₁ =>
      obtain ⟨rfl, htail⟩ := List.cons.inj heq
      rw [ih (fun hmem => hfront (List.mem_cons_of_mem _ hmem)) htail]

section Step

variable {qt : Qt} {d k : Nat} {buf : List UInt8} {h : List HostEvent} {s s' : HostState}

theorem SameFor.refl (s : HostState) : SameFor d k s s :=
  ⟨Nat.le_refl _, rfl, fun _ h => h, rfl, rfl, rfl, rfl, rfl⟩

theorem SameFor.trans {s'' : HostState} (h : SameFor d k s s') (h' : SameFor d k s' s'') :
    SameFor d k s s'' where
  created := Nat.le_trans h.created h'.created
  owner := h'.owner.trans h.owner
  only e hcur := h.only e (h'.only e hcur)
  cur := h'.cur.trans h.cur
  buf := h'.buf.trans h.buf
  running := h'.running.trans h.running
  terminal := h'.terminal.trans h.terminal
  queue := h'.queue.trans h.queue

theorem Tracked.same (ht : Tracked d k h s) (hsame : SameFor d k s s') : Tracked d k h s' where
  created := Nat.lt_of_lt_of_le ht.created hsame.created
  owner := hsame.owner.trans ht.owner
  only e hcur := ht.only e (hsame.only e hcur)
  current j hcur := ht.current j (hsame.cur ▸ hcur)
  exitSeen hrunning := ht.exitSeen (hsame.running ▸ hrunning)
  yielded := hsame.queue ▸ ht.yielded

theorem Tracked.irrelevant (ht : Tracked d k h s) {e : HostEvent} (he : Irrelevant d k e) :
    Tracked d k (h ++ [e]) s := by
  refine ⟨ht.created, ht.owner, ht.only, ht.current, ?_, ?_⟩
  · intro hrunning
    exact List.mem_append_left _ (ht.exitSeen hrunning)
  · rw [returnedTo_event h he.returned, messagesOf_event h he.pushed]
    exact ht.yielded

theorem Tracked.irrelevants (ht : Tracked d k h s) {es : List HostEvent}
    (hes : ∀ e ∈ es, Irrelevant d k e) : Tracked d k (h ++ es) s := by
  induction es generalizing h with
  | nil => simpa using ht
  | cons e es ih =>
    have hnext := ih (ht.irrelevant (hes e (by simp))) fun x hx => hes x (List.mem_cons_of_mem _ hx)
    simpa using hnext

theorem Phase.same (hp : Phase qt d k h s) (hterm : (s'.tasks k).terminal = (s.tasks k).terminal)
    (hcur : (s'.drivers d).cur = (s.drivers d).cur) : Phase qt d k h s' := by
  cases hp with
  | waiting hopen hsome hparsed hnone =>
    exact .waiting (hterm.trans hopen) (hcur.trans hsome) hparsed hnone
  | ended hend hnone hparsed hlast =>
    exact .ended (hterm.trans hend) (hcur.trans hnone) hparsed hlast
  | failed hend hwhy => exact .failed (hterm.trans hend) hwhy

theorem Phase.event (hp : Phase qt d k h s) {e : HostEvent} (hpush : e.pushedTo k = none)
    (hread : e.lineOf d = none) : Phase qt d k (h ++ [e]) s := by
  have hmessages := messagesOf_event h hpush
  have hlines : linesRead d (h ++ [e]) = linesRead d h := by simp [linesRead, hread]
  have hparsed : Parsed qt d k h → Parsed qt d k (h ++ [e]) := by
    intro hparsed
    rw [Parsed, hmessages, hlines]
    exact hparsed
  cases hp with
  | waiting hopen hsome hp hnone =>
    exact .waiting hopen hsome (hparsed hp) (by rw [hmessages]; exact hnone)
  | ended hend hnone hp hlast => exact .ended hend hnone (hparsed hp) (by rw [hmessages]; exact hlast)
  | failed hend hwhy => exact .failed hend (hwhy.append [e])

/-- An event after which the phase is known and that gives up nothing. -/
theorem GoodWith.step (hg : GoodWith qt d k buf h s) {e : HostEvent} {buf' : List UInt8}
    (hkept : ∀ early, e ≠ .gaveUp k early) (hphase : Phase qt d k (h ++ [e]) s')
    (hline : (s'.tasks k).terminal = false → newline ∉ buf') :
    GoodWith qt d k buf' (h ++ [e]) s' := by
  refine ⟨hphase, hline, ?_, ?_⟩
  · intro h₁ early h₂ heq
    obtain ⟨h₃, heq⟩ := split_concat heq (hkept early)
    exact hg.noFalseEnd h₁ early h₃ heq
  · intro h₁ early h₂ heq
    obtain ⟨h₃, heq⟩ := split_concat heq (hkept early)
    exact hg.gone h₁ early h₃ heq

theorem GoodWith.irrelevants (hg : GoodWith qt d k buf h s) {es : List HostEvent}
    (hes : ∀ e ∈ es, Irrelevant d k e) : GoodWith qt d k buf (h ++ es) s := by
  induction es generalizing h with
  | nil => simpa using hg
  | cons e es ih =>
    have he := hes e (by simp)
    have hnext := ih (hg.step he.kept (hg.phase.event he.pushed he.line) hg.noLine)
      fun x hx => hes x (List.mem_cons_of_mem _ hx)
    simpa using hnext

theorem GoodWith.same (hg : GoodWith qt d k buf h s) (hsame : SameFor d k s s') :
    GoodWith qt d k buf h s' :=
  ⟨hg.phase.same hsame.terminal hsame.cur, fun hopen => hg.noLine (hsame.terminal ▸ hopen),
    hg.noFalseEnd, hg.gone⟩

/-- **What does not touch the task** keeps the invariant. -/
theorem Served.untouched {a : Action HostState HostEvent} {Pre : HostState → Prop}
    (ha : Action.Sat (Accounted [] d) a (Accounted [] d))
    (hsame : ∀ s, Pre s → SameFor d k s (a s).1 ∧ ∀ e ∈ (a s).2, Irrelevant d k e) :
    Action.Sat (fun h s => Pre s ∧ Served qt d k h s) a (Served qt d k) := by
  intro h s hs
  obtain ⟨hpre, hs⟩ := hs
  obtain ⟨hstate, hevents⟩ := hsame s hpre
  refine ⟨ha h s hs.accounted, (hs.tracked.same hstate).irrelevants hevents, ?_⟩
  intro hread
  rw [hstate.buf]
  exact ((hs.good hread.of_append).same hstate).irrelevants hevents

end Step

namespace HostState

/-! ## §5. The other tasks and drivers -/

section Others

variable {qt : Qt} {d k : Nat}

variable {j e : Nat}

theorem sameFor_setTask (s : HostState) (t : TaskState) (hj : j ≠ k) :
    SameFor d k s (s.setTask j t) := by
  have htask : (s.setTask j t).tasks k = s.tasks k := by
    simp [setTask, Function.update_of_ne (Ne.symm hj)]
  exact ⟨Nat.le_refl _, rfl, fun _ h => h, rfl, rfl, rfl, by rw [htask], by rw [htask]⟩

theorem sameFor_setDriver (s : HostState) {driver : Driver} (he : e ≠ d)
    (hcur : driver.cur = some k → (s.drivers e).cur = some k) :
    SameFor d k s (s.setDriver e driver) := by
  have hdriver : (s.setDriver e driver).drivers d = s.drivers d := setDriver_of_ne _ _ (Ne.symm he)
  refine ⟨Nat.le_refl _, rfl, ?_, by rw [hdriver], by rw [hdriver], by rw [hdriver], rfl, rfl⟩
  intro e' hcur'
  by_cases hee : e' = e
  · subst hee
    rw [setDriver_self] at hcur'
    exact hcur hcur'
  · rw [setDriver_of_ne _ _ hee] at hcur'
    exact hcur'

theorem irrelevant_pushed (m : Message) (o : Outcome) {origin : Origin} (hj : j ≠ k)
    (horigin : ∀ line, origin ≠ .line d line) : Irrelevant d k (.pushed j m o origin) := by
  refine ⟨?_, rfl, ?_, ?_⟩
  · rw [HostEvent.pushedTo, if_neg hj]
  · cases origin with
    | host => rfl
    | line e line =>
      have he : e ≠ d := by
        intro hed
        subst hed
        exact horigin line rfl
      rw [HostEvent.lineOf, if_neg he]
  · intro early heq
    cases heq

/-- What touches neither the task nor its driver, in any state. -/
theorem untouched {a : Action HostState HostEvent}
    (ha : Action.Sat (Accounted [] d) a (Accounted [] d))
    (hsame : ∀ s, SameFor d k s (a s).1 ∧ ∀ e ∈ (a s).2, Irrelevant d k e) :
    Action.Sat (Served qt d k) a (Served qt d k) := by
  have hany : ∀ s, (fun _ : HostState => True) s →
      SameFor d k s (a s).1 ∧ ∀ e ∈ (a s).2, Irrelevant d k e := fun s _ => hsame s
  exact (Served.untouched ha hany).weaken (fun _ _ hs => ⟨trivial, hs⟩) fun _ _ hs => hs

theorem served_emit {e : HostState → HostEvent} (hbytes : ∀ s, (e s).NoBytes d)
    (he : ∀ s, Irrelevant d k (e s)) :
    Action.Sat (Served qt d k) (Action.emit e) (Served qt d k) := by
  refine untouched (accounted_emit [] d hbytes) ?_
  intro s
  refine ⟨SameFor.refl s, ?_⟩
  intro e' hmem
  rw [List.mem_singleton.mp hmem]
  exact he s

theorem served_push (hj : j ≠ k) (msg : Message) (settle : TaskState → TaskState) :
    Action.Sat (Served qt d k) (push j .host msg settle) (Served qt d k) := by
  refine untouched (accounted_push [] d j msg settle) ?_
  intro s
  refine ⟨sameFor_setTask s _ hj, ?_⟩
  intro e hmem
  rw [List.mem_singleton.mp hmem]
  exact irrelevant_pushed _ _ hj (by intro line h; cases h)

theorem served_forceTerminal (hj : j ≠ k) (code : Int) (error : String) :
    Action.Sat (Served qt d k) (forceTerminal j code error) (Served qt d k) := by
  refine Action.Sat.bind fun s₀ => ?_
  split_ifs
  · exact Action.Sat.skip.atState _
  · exact (served_push hj _ _).atState _

theorem served_gaveUp (hj : j ≠ k) :
    Action.Sat (Served qt d k) (Action.emit fun s => .gaveUp j (s.isEarly j)) (Served qt d k) := by
  refine served_emit (fun _ => ⟨rfl, rfl, rfl⟩) fun s => ⟨rfl, rfl, rfl, ?_⟩
  intro early heq
  exact hj (HostEvent.gaveUp.inj heq).1

theorem served_abandon_other (hj : j ≠ k) :
    Action.Sat (Served qt d k) (abandon j) (Served qt d k) := by
  refine Action.Sat.bind fun s₀ => ?_
  split_ifs
  · exact Action.Sat.skip.atState _
  · exact Action.Sat.seq ((served_gaveUp hj).atState _) (served_forceTerminal hj _ _)

/-- The buffer of another driver is read or cleared. -/
theorem served_driver {a : Action HostState HostEvent} (he : e ≠ d)
    (ha : Action.Sat (Accounted [] d) a (Accounted [] d))
    (hstate : ∀ s, ∃ driver : Driver, (a s).1 = s.setDriver e driver ∧
      driver.cur = (s.drivers e).cur) (hevents : ∀ s, ∀ e ∈ (a s).2, Irrelevant d k e) :
    Action.Sat (Served qt d k) a (Served qt d k) := by
  refine untouched ha ?_
  intro s
  obtain ⟨driver, hdriver, hcur⟩ := hstate s
  refine ⟨?_, hevents s⟩
  rw [hdriver]
  exact sameFor_setDriver s he fun h => hcur ▸ h

theorem served_clearBuf_other (he : e ≠ d) :
    Action.Sat (Served qt d k) (clearBuf e) (Served qt d k) := by
  refine served_driver he (accounted_clearBuf [] d e) (fun s => ⟨_, rfl, rfl⟩) ?_
  intro s e' hmem
  rw [List.mem_singleton.mp hmem]
  exact ⟨rfl, rfl, rfl, by intro _ h; cases h⟩

/-- A line of another driver for another task. -/
theorem LineRead.sameFor {acc : HostState × List HostEvent} {line : List UInt8}
    {out : (HostState × List HostEvent) × Bool} (he : e ≠ d) (hj : j ≠ k)
    (hread : LineRead qt e j acc line out) : SameFor d k acc.1 out.1.1 := by
  cases hread with
  | invalid m t => exact sameFor_setTask acc.1 t hj
  | event m t => exact sameFor_setTask acc.1 t hj
  | finish m t =>
    exact (sameFor_setTask acc.1 t hj).trans (sameFor_setDriver _ he (by intro h; cases h))

/-- The lines of another driver. -/
theorem served_readLines_other (he : e ≠ d) (hj : j ≠ k) :
    Action.Sat (Served qt d k) (readLines qt e j) (Served qt d k) := by
  refine untouched (accounted_readLines qt [] d e j) ?_
  intro s
  have hline : ∀ acc line out, LineRead qt e j acc line out → SameFor d k s acc.1 →
      SameFor d k s out.1.1 := by
    intro acc line out hread hsame
    exact hsame.trans (hread.sameFor he hj)
  have hpush : ∀ m o line, Irrelevant d k (.pushed j m o (.line e line)) := by
    intro m o line
    exact irrelevant_pushed m o hj fun line h => he (Origin.line.inj h).1
  obtain ⟨hsame, hirrelevant⟩ := forLines_aside hline hpush (SameFor.refl s) (s.drivers e).buf
  exact ⟨hsame.trans (sameFor_setDriver _ he fun h => h), hirrelevant⟩

theorem served_pump_other (he : e ≠ d) :
    Action.Sat (Served qt d k) (pumpStdout qt e) (Served qt d k) := by
  intro h s hs
  unfold pumpStdout
  rw [Action.bind_apply]
  cases hcur : (s.drivers e).cur with
  | none => simpa using hs
  | some j =>
    -- the current task of another driver is another task
    have hj : j ≠ k := by
      intro hjk
      rw [hjk] at hcur
      exact he (hs.tracked.only e hcur)
    have hread : Action.Sat (Served qt d k) (readAll e) (Served qt d k) :=
      served_driver he (accounted_readAll [] d e) (fun s => ⟨_, rfl, rfl⟩) (by simp [readAll])
    have hpumping : Action.Sat (Served qt d k)
        (Action.emit fun s => .pumping e (s.stale e j) (s.overflows e)) (Served qt d k) :=
      served_emit (fun _ => ⟨rfl, rfl, rfl⟩) fun _ => ⟨rfl, rfl, rfl, by intro _ h; cases h⟩
    refine Action.Sat.seq hread (Action.Sat.seq hpumping (Action.Sat.bind fun s₁ => ?_)) h s hs
    split_ifs
    · exact Action.Sat.seq ((served_push hj _ _).atState _) (served_clearBuf_other he)
    · exact (served_readLines_other he hj).atState _

end Others

/-! ## §6. The task and its driver -/

section Own

variable {qt : Qt} {d k : Nat} {h : List HostEvent} {s : HostState}

variable {m : Message}

/-- A message is appended to the queue of the task. -/
theorem tracked_push (ht : Tracked d k h s) {t : TaskState} (o : Outcome) (origin : Origin)
    (hqueue : t.queue = (s.tasks k).queue ++ [m]) :
    Tracked d k (h ++ [.pushed k m o origin]) (s.setTask k t) := by
  refine ⟨ht.created, ht.owner, ht.only, ht.current, ?_, ?_⟩
  · intro hrunning
    exact List.mem_append_left _ (ht.exitSeen hrunning)
  · have htask : (s.setTask k t).tasks k = t := by simp [setTask]
    rw [htask, hqueue, messagesOf_append, ← ht.yielded]
    simp [returnedTo, HostEvent.returnedBy, messagesOf, pushes, HostEvent.pushedTo]

theorem messagesOf_pushed (h : List HostEvent) (m : Message) (o : Outcome) (origin : Origin) :
    messagesOf k (h ++ [.pushed k m o origin]) = messagesOf k h ++ [m] := by
  simp [messagesOf, pushes, HostEvent.pushedTo]

theorem linesRead_pushed (h : List HostEvent) (m : Message) (o : Outcome) (line : List UInt8) :
    linesRead d (h ++ [.pushed k m o (.line d line)]) = linesRead d h ++ [line] := by
  simp [linesRead, HostEvent.lineOf]

/-- A line that is read is a message that is pushed. -/
theorem parsed_line (hp : Parsed qt d k h) {line : List UInt8} (o : Outcome)
    (hm : parseResponse qt.fromJson line = some m) :
    Parsed qt d k (h ++ [.pushed k m o (.line d line)]) := by
  rw [Parsed, linesRead_pushed, messagesOf_pushed, List.map_append, List.map_append, hp]
  simp [hm]

/-- The loop of `pumpStdout` on the lines of the driver, for the task. -/
structure Reading (qt : Qt) (d k : Nat) (h : List HostEvent) (s : HostState) : Prop where
  tracked : Tracked d k h s
  cur : (s.drivers d).cur = some k
  good : ReadFirst d k h → GoodWith qt d k [] h s

/-- The loop has ended. -/
structure DoneReading (qt : Qt) (d k : Nat) (buf : List UInt8) (h : List HostEvent)
    (s : HostState) : Prop where
  tracked : Tracked d k h s
  good : ReadFirst d k h → GoodWith qt d k buf h s

/-- **A line of the driver for the task.** -/
theorem LineRead.reading {acc : HostState × List HostEvent} {line : List UInt8}
    {out : (HostState × List HostEvent) × Bool} (hread : LineRead qt d k acc line out)
    (hr : Reading qt d k (h ++ acc.2) acc.1) (rest : List UInt8) :
    if out.2 then DoneReading qt d k rest (h ++ out.1.2) out.1.1
    else Reading qt d k (h ++ out.1.2) out.1.1 := by
  cases hread with
  | invalid m t hparse hterm hqueue =>
    -- the loop stops at an invalid line
    rw [if_pos rfl, ← List.append_assoc]
    have htask : (acc.1.setTask k t).tasks k = t := by simp [setTask]
    refine ⟨tracked_push hr.tracked _ _ hqueue, ?_⟩
    intro hfirst
    refine (hr.good hfirst.of_append).step (by intro _ hno; cases hno) ?_ ?_
    · refine .failed (by rw [htask]; exact hterm) (Or.inl ⟨line, ?_, hparse⟩)
      rw [linesRead_pushed]
      simp
    · intro hopen
      rw [htask, hterm] at hopen
      cases hopen
  | event m t hparse hevent hterm hqueue =>
    -- an event: the loop goes on
    rw [if_neg Bool.false_ne_true, ← List.append_assoc]
    have htask : (acc.1.setTask k t).tasks k = t := by simp [setTask]
    refine ⟨tracked_push hr.tracked _ _ hqueue, hr.cur, ?_⟩
    intro hfirst
    have hg := hr.good hfirst.of_append
    refine hg.step (by intro _ hno; cases hno) ?_ (fun _ => List.not_mem_nil)
    cases hg.phase with
    | waiting hopen _ hparsed hnone =>
      refine .waiting (by rw [htask, hterm]; exact hopen) hr.cur (parsed_line hparsed _ hparse) ?_
      rw [messagesOf_pushed]
      intro m' hm'
      obtain hm' | hm' := List.mem_append.mp hm'
      · exact hnone m' hm'
      · rw [List.mem_singleton.mp hm']
        exact hevent
    | ended _ hcur _ _ =>
      rw [hr.cur] at hcur
      cases hcur
    | failed hend hwhy => exact .failed (by rw [htask, hterm]; exact hend) (hwhy.append _)
  -- the end: the loop stops and m_cur is reset
  | finish m t hparse hdone hterm hqueue =>
    rw [if_pos rfl, ← List.append_assoc]
    have htask : (acc.1.setTask k t).tasks k = t := by simp [setTask]
    have htracked := tracked_push hr.tracked t.outcome (.line d line) hqueue
    refine ⟨⟨htracked.created, htracked.owner, ?_, ?_, ?_, htracked.yielded⟩, ?_⟩
    · intro e hcur
      by_cases hed : e = d
      · exact hed
      · rw [setDriver_of_ne _ _ hed] at hcur
        exact htracked.only e hcur
    · intro j hcur
      rw [setDriver_self] at hcur
      cases hcur
    · intro hrunning
      rw [setDriver_self] at hrunning
      exact htracked.exitSeen hrunning
    · intro hfirst
      have hg := hr.good hfirst.of_append
      refine hg.step (by intro _ hno; cases hno) ?_ ?_
      · cases hg.phase with
        | waiting hopen _ hparsed hnone =>
          refine .ended (by show ((acc.1.setTask k t).tasks k).terminal = true; rw [htask, hterm])
            (by rw [setDriver_self]) (parsed_line hparsed _ hparse) ⟨m, ?_, hdone⟩
          rw [messagesOf_pushed]
          simp
        | ended _ hcur _ _ =>
          rw [hr.cur] at hcur
          cases hcur
        | failed hend hwhy =>
          exact .failed (by show ((acc.1.setTask k t).tasks k).terminal = true; rw [htask, hterm])
            (hwhy.append _)
      · intro hopen
        change ((acc.1.setTask k t).tasks k).terminal = false at hopen
        rw [htask, hterm] at hopen
        cases hopen

/-- What changes only the driver's buffer and bytes. -/
theorem tracked_driver (ht : Tracked d k h s) (driver : Driver)
    (hcur : driver.cur = (s.drivers d).cur)
    (hrunning : driver.proc.running = (s.drivers d).proc.running) :
    Tracked d k h (s.setDriver d driver) := by
  refine ⟨ht.created, ht.owner, ?_, ?_, ?_, ht.yielded⟩
  · intro e he
    by_cases hed : e = d
    · exact hed
    · rw [setDriver_of_ne _ _ hed] at he
      exact ht.only e he
  · intro j hj
    rw [setDriver_self, hcur] at hj
    exact ht.current j hj
  · intro h
    rw [setDriver_self, hrunning] at h
    exact ht.exitSeen h

theorem good_driver {buf : List UInt8} (hg : GoodWith qt d k buf h s) (driver : Driver)
    (buf' : List UInt8) (hcur : driver.cur = (s.drivers d).cur)
    (hline : (s.tasks k).terminal = false → newline ∉ buf') :
    GoodWith qt d k buf' h (s.setDriver d driver) := by
  refine ⟨hg.phase.same rfl ?_, hline, hg.noFalseEnd, hg.gone⟩
  rw [setDriver_self, hcur]

/-- The lines of the driver. -/
theorem served_readLines :
    Action.Sat (fun h s => Accounted [] d h s ∧ Reading qt d k h s) (readLines qt d k)
      (Served qt d k) := by
  intro h s hs
  obtain ⟨ha, hr⟩ := hs
  have hloop : DoneReading qt d k (forLines newline (pumpLine qt d k) (s, []) (s.drivers d).buf).2
      (h ++ (forLines newline (pumpLine qt d k) (s, []) (s.drivers d).buf).1.2)
      (forLines newline (pumpLine qt d k) (s, []) (s.drivers d).buf).1.1 := by
    refine forLines_rule
      (fun (acc : HostState × List HostEvent) _ => Reading qt d k (h ++ acc.2) acc.1)
      (fun acc rest => DoneReading qt d k rest (h ++ acc.2) acc.1) ?_ ?_ (by simpa using hr)
    · intro acc line rest _ hr
      exact (pumpLine_read qt d k acc line).reading hr rest
    · intro acc rest hrest hr
      refine ⟨hr.tracked, ?_⟩
      intro hfirst
      have hg := hr.good hfirst
      exact ⟨hg.phase, fun _ => hrest, hg.noFalseEnd, hg.gone⟩
  refine ⟨accounted_readLines qt [] d d k h s ha, tracked_driver hloop.tracked _ rfl rfl, ?_⟩
  intro hfirst
  have hg := hloop.good hfirst
  unfold readLines
  dsimp only [setBuf]
  rw [setDriver_self]
  exact good_driver hg _ _ rfl hg.noLine

theorem irrelevant_cleared (bytes : List UInt8) : Irrelevant d k (.cleared d bytes) :=
  ⟨rfl, rfl, rfl, by intro _ h; cases h⟩

/-- Clearing the buffer. -/
theorem served_clearBuf : Action.Sat (Served qt d k) (clearBuf d) (Served qt d k) := by
  intro h s hs
  refine ⟨accounted_clearBuf [] d d h s hs.accounted, ?_, ?_⟩
  · exact (tracked_driver hs.tracked { s.drivers d with buf := [] } rfl rfl).irrelevant
      (irrelevant_cleared (s.drivers d).buf)
  · intro hfirst
    have hg := hs.good hfirst.of_append
    have hclear := good_driver hg { s.drivers d with buf := [] } [] rfl
      fun _ => List.not_mem_nil
    show GoodWith qt d k ((s.setBuf d []).drivers d).buf (h ++ [.cleared d (s.drivers d).buf])
      (s.setBuf d [])
    rw [setBuf, setDriver_self]
    exact hclear.step (by intro _ hno; cases hno) (hclear.phase.event rfl rfl) hclear.noLine

/-- The buffer overflows: what it holds is cleared. -/
theorem served_overflow (payload : List (String × Json)) :
    Action.Sat (fun h s => s.overflows d = true ∧ Accounted [] d h s ∧ Reading qt d k h s)
      (Action.seq (pushError k .host 1002 payload) (clearBuf d)) (Served qt d k) := by
  intro h s hs
  obtain ⟨hover, ha, hr⟩ := hs
  have hacc : Action.Sat (Accounted [] d)
      (Action.seq (pushError k .host 1002 payload) (clearBuf d)) (Accounted [] d) :=
    Action.Sat.seq (accounted_push [] d k _ _) (accounted_clearBuf [] d d)
  have htracked : Action.Sat (Tracked d k)
      (Action.seq (pushError k .host 1002 payload) (clearBuf d)) (Tracked d k) := by
    refine Action.Sat.seq (R := Tracked d k) (fun h s ht => tracked_push ht _ _ rfl) ?_
    intro h s ht
    exact (tracked_driver ht { s.drivers d with buf := [] } rfl rfl).irrelevant
      (irrelevant_cleared (s.drivers d).buf)
  refine ⟨hacc h s ha, htracked h s hr.tracked, ?_⟩
  · intro hfirst
    exfalso
    have hempty : (s.drivers d).buf = [] := by
      apply hfirst.nothingCleared
      simp [clearBuf, pushError, push]
    unfold overflows at hover
    rw [hempty] at hover
    simp [maxOutputBufferBytes] at hover

/-- **A pump of the driver.** -/
theorem served_pump_own : Action.Sat (Served qt d k) (pumpStdout qt d) (Served qt d k) := by
  intro h s hs
  unfold pumpStdout
  rw [Action.bind_apply]
  cases hcur : (s.drivers d).cur with
  | none => simpa using hs
  | some j =>
    obtain rfl := hs.tracked.current j hcur
    have hread : Action.Sat (fun h s => Accounted [] d h s ∧ Served qt d j h s ∧
        (s.drivers d).cur = some j) (readAll d)
        (fun h s => Accounted [] d h s ∧ Reading qt d j h s) := by
      intro h s hs
      obtain ⟨ha, hs, hcur⟩ := hs
      refine ⟨accounted_readAll [] d d h s ha, ?_, ?_, ?_⟩
      · rw [readAll, Action.modify_apply, List.append_nil]
        exact tracked_driver hs.tracked _ rfl rfl
      · rw [readAll, Action.modify_apply, setDriver_self]
        exact hcur
      · intro hfirst
        rw [readAll, Action.modify_apply, List.append_nil]
        exact good_driver (hs.good hfirst.of_append) _ [] rfl fun _ => List.not_mem_nil
    -- the record of the pump says nothing about the task
    have hpumping : Action.Sat (fun h s => Accounted [] d h s ∧ Reading qt d j h s)
        (Action.emit fun s => .pumping d (s.stale d j) (s.overflows d))
        (fun h s => Accounted [] d h s ∧ Reading qt d j h s) := by
      refine Action.Sat.emit ?_
      intro h s hs
      have hirrelevant : Irrelevant d j (.pumping d (s.stale d j) (s.overflows d)) :=
        ⟨rfl, rfl, rfl, by intro _ h; cases h⟩
      refine ⟨AccountedWith.noBytes hs.1 ⟨rfl, rfl, rfl⟩, hs.2.tracked.irrelevant hirrelevant,
        hs.2.cur, ?_⟩
      intro hfirst
      have hg := hs.2.good hfirst.of_append
      exact hg.step hirrelevant.kept (hg.phase.event rfl rfl) hg.noLine
    refine Action.Sat.seq hread (Action.Sat.seq hpumping (Action.Sat.bind fun s₁ => ?_)) h s
      ⟨hs.accounted, hs, hcur⟩
    split_ifs with hover
    · refine (served_overflow _).weaken ?_ fun _ _ h => h
      intro h s hs
      exact ⟨hs.1 ▸ hover, hs.2⟩
    · exact served_readLines.atState _

/-- What holds before each time the host gave up holds still, if it holds before the last. -/
theorem gaveUp_last {P : List HostEvent → Prop} {now : Bool} {o : Outcome} (hnow : P h)
    (hbefore : ∀ h₁ early h₂, h = h₁ ++ .gaveUp k early :: h₂ → P h₁) (h₁ : List HostEvent)
    (early : Bool) (h₂ : List HostEvent)
    (heq : h ++ [.gaveUp k now] ++ [.pushed k m o .host] = h₁ ++ .gaveUp k early :: h₂) :
    P h₁ := by
  obtain ⟨h₃, heq⟩ := split_concat heq (by intro hno; cases hno)
  obtain rfl | ⟨h₄, x, rfl⟩ := List.eq_nil_or_concat h₃
  · rw [← (List.append_inj' heq rfl).1]
    exact hnow
  · rw [List.concat_eq_append, ← List.cons_append, ← List.append_assoc] at heq
    exact hbefore h₁ early h₄ (List.append_inj' heq rfl).1

/-- **Giving up on the task.**  If it is not early, all that was written is read, and no end is
among it. -/
theorem served_giveUp (hs : Served qt d k h s) (hopen : (s.tasks k).terminal = false)
    {t : TaskState} (hterm : t.terminal = true) (hqueue : t.queue = (s.tasks k).queue ++ [m]) :
    Served qt d k (h ++ [.gaveUp k (s.isEarly k), .pushed k m t.outcome .host])
      (s.setTask k t) := by
  have hsplit : h ++ [.gaveUp k (s.isEarly k), .pushed k m t.outcome .host] =
      h ++ [.gaveUp k (s.isEarly k)] ++ [.pushed k m t.outcome .host] := by simp
  have htask : (s.setTask k t).tasks k = t := by simp [setTask]
  rw [hsplit]
  have hgave : Tracked d k (h ++ [.gaveUp k (s.isEarly k)]) s := by
    have ht := hs.tracked
    refine ⟨ht.created, ht.owner, ht.only, ht.current, ?_, ?_⟩
    · intro hrunning
      exact List.mem_append_left _ (ht.exitSeen hrunning)
    · rw [returnedTo_event h rfl, messagesOf_event h rfl]
      exact ht.yielded
  refine ⟨?_, tracked_push hgave _ _ hqueue, ?_⟩
  · exact ((AccountedWith.noBytes hs.accounted ⟨rfl, rfl, rfl⟩).noBytes ⟨rfl, rfl, rfl⟩).state rfl
  · intro hfirst
    have hfirst := hfirst.of_append
    have hg := hs.good hfirst.of_append
    have hearly : s.isEarly k = false := by
      by_contra hne
      rw [Bool.not_eq_false] at hne
      exact hfirst.notEarly (by rw [hne]; simp)
    rw [hearly]
    -- the process has gone and nothing is left to read
    simp only [isEarly, hs.tracked.owner, Bool.or_eq_false_iff, Bool.not_eq_false',
      List.isEmpty_iff] at hearly
    obtain ⟨⟨hrunning, hpipe⟩, hunread⟩ := hearly
    -- only an open task is given up
    have hcarries : ¬ Carries qt (wroteBytes d h) := by
      cases hg.phase with
      | waiting _ _ hparsed hnone =>
        exact not_carries_of_read hs.accounted hfirst.of_append.nothingCleared hparsed hnone
          (hg.noLine hopen) hunread hpipe
      | ended hend _ _ _ =>
        rw [hopen] at hend
        cases hend
      | failed hend _ =>
        rw [hopen] at hend
        cases hend
    refine ⟨?_, ?_, ?_, ?_⟩
    · exact .failed (by rw [htask]; exact hterm) (Or.inr (by simp))
    · intro hstill
      rw [htask, hterm] at hstill
      cases hstill
    · exact gaveUp_last hcarries hg.noFalseEnd
    · exact gaveUp_last (hs.tracked.exitSeen hrunning) hg.gone

theorem served_abandon (j : Nat) : Action.Sat (Served qt d k) (abandon j) (Served qt d k) := by
  by_cases hj : j = k
  · subst hj
    intro h s hs
    unfold abandon
    rw [Action.bind_apply]
    split_ifs with hdone
    · simpa using hs
    · simp only [Bool.or_eq_true, not_or, Bool.not_eq_true] at hdone
      have hforce : (!s.isValid j || (s.tasks j).terminal) = false := by
        rw [Bool.or_eq_false_iff]
        exact hdone
      simp only [Action.seq_apply, Action.emit_apply, forceTerminal, Action.bind_apply, hforce,
        Bool.false_eq_true, if_false]
      exact served_giveUp hs hdone.2 rfl rfl
  · exact served_abandon_other hj

/-- A message is taken off the queue. -/
theorem served_take (j : Nat) : Action.Sat (Served qt d k) (take j) (Served qt d k) := by
  by_cases hj : j = k
  · subst hj
    intro h s hs
    have hacc := accounted_take [] d j h s hs.accounted
    unfold take at hacc ⊢
    cases hqueue : (s.tasks j).queue with
    | nil => simpa using hs
    | cons m rest =>
      rw [hqueue] at hacc
      have hvalid : s.isValid j = true := by simpa [isValid] using hs.tracked.created
      simp only [hvalid, if_true] at hacc ⊢
      have htask : (s.setTask j { s.tasks j with queue := rest }).tasks j =
          { s.tasks j with queue := rest } := by simp [setTask]
      have ht := hs.tracked
      refine ⟨hacc, ⟨ht.created, ht.owner, ht.only, ht.current, ?_, ?_⟩, ?_⟩
      · intro hrunning
        exact List.mem_append_left _ (ht.exitSeen hrunning)
      -- what leaves the queue has been yielded
      · rw [htask, messagesOf_event h rfl, ← ht.yielded, hqueue]
        simp [returnedTo, HostEvent.returnedBy]
      · intro hfirst
        have hg := hs.good hfirst.of_append
        have hphase : Phase qt d j h (s.setTask j { s.tasks j with queue := rest }) :=
          hg.phase.same (by rw [htask]) rfl
        refine hg.step (by intro _ h; cases h) (hphase.event rfl rfl) ?_
        rw [htask]
        exact hg.noLine
  -- the message of another task
  · refine untouched (accounted_take [] d j) ?_
    intro s
    unfold take
    split
    · exact ⟨SameFor.refl s, by simp⟩
    · split_ifs
      · refine ⟨sameFor_setTask s _ hj, ?_⟩
        intro e hmem
        rw [List.mem_singleton.mp hmem]
        exact ⟨rfl, by rw [HostEvent.returnedBy, if_neg hj], rfl, by intro _ h; cases h⟩
      · exact ⟨SameFor.refl s, by simp⟩

/-- A change of a process that does not end it. -/
theorem sameFor_setProc (s : HostState) (e : Nat) {proc : Process}
    (hrunning : proc.running = (s.drivers e).proc.running) : SameFor d k s (s.setProc e proc) := by
  by_cases hed : e = d
  · subst hed
    refine ⟨Nat.le_refl _, rfl, ?_, ?_, ?_, ?_, rfl, rfl⟩
    · intro e' hcur
      by_cases hee : e' = e
      · subst hee
        rw [setProc, setDriver_self] at hcur
        exact hcur
      · rw [setProc, setDriver_of_ne _ _ hee] at hcur
        exact hcur
    · rw [setProc, setDriver_self]
    · rw [setProc, setDriver_self]
    · rw [setProc, setDriver_self]
      exact hrunning
  · exact sameFor_setDriver s hed fun h => h

theorem served_write (e : Nat) (bytes : List UInt8) :
    Action.Sat (Served qt d k) (write e bytes) (Served qt d k) := by
  refine untouched (accounted_write [] d e bytes) ?_
  intro s
  refine ⟨sameFor_setProc s e rfl, ?_⟩
  intro x hmem
  rw [List.mem_singleton.mp hmem]
  exact ⟨rfl, rfl, rfl, by intro _ h; cases h⟩

/-- The end of a process is noticed. -/
theorem served_markExited (e : Nat) (exitCode : Int) (crashed : Bool) :
    Action.Sat (Served qt d k) (markExited e exitCode crashed) (Served qt d k) := by
  have hacc := (keptByProcess_accounted qt [] d).markExited e exitCode crashed
  by_cases hed : e = d
  · subst hed
    intro h s hs
    have ht := hs.tracked
    have hirrelevant : Irrelevant e k (.exited e) := ⟨rfl, rfl, rfl, by intro _ h; cases h⟩
    have hdriver : Tracked e k (h ++ [.exited e]) s := ht.irrelevant hirrelevant
    refine ⟨hacc h s hs.accounted, ⟨hdriver.created, hdriver.owner, ?_, ?_, ?_, hdriver.yielded⟩, ?_⟩
    · intro e' hcur
      by_cases hee : e' = e
      · exact hee
      · exact ht.only e' (by simpa [markExited, setProc, setDriver_of_ne _ _ hee] using hcur)
    · intro j hcur
      exact ht.current j (by simpa [markExited, setProc] using hcur)
    · intro _
      simp [markExited]
    · intro hfirst
      have hold := hs.good hfirst.of_append
      have hbuf : ((markExited e exitCode crashed s).1.drivers e).buf = (s.drivers e).buf := by
        simp [markExited, setProc]
      have hcur : ((markExited e exitCode crashed s).1.drivers e).cur = (s.drivers e).cur := by
        simp [markExited, setProc]
      have hphase : Phase qt e k h (markExited e exitCode crashed s).1 :=
        hold.phase.same rfl hcur
      rw [hbuf]
      exact hold.step hirrelevant.kept (hphase.event rfl rfl) hold.noLine
  · refine untouched hacc ?_
    intro s
    refine ⟨sameFor_setDriver s hed fun h => h, ?_⟩
    intro x hmem
    rw [List.mem_singleton.mp hmem]
    exact ⟨rfl, rfl, rfl, by intro _ h; cases h⟩

theorem keptByProcess_served : KeptByProcess qt (Served qt d k) where
  pump e := by
    by_cases hed : e = d
    · subst hed
      exact served_pump_own
    · exact served_pump_other hed
  abandon := served_abandon
  take := served_take
  waits h s ws hs := ⟨AccountedWith.state hs.accounted rfl,
    hs.tracked.same ⟨Nat.le_refl _, rfl, fun _ h => h, rfl, rfl, rfl, rfl, rfl⟩, fun hfirst =>
      (hs.good hfirst).same ⟨Nat.le_refl _, rfl, fun _ h => h, rfl, rfl, rfl, rfl, rfl⟩⟩
  failed h s ks timedOut hs :=
    served_emit (e := fun _ => .waitFailed ks timedOut) (fun _ => ⟨rfl, rfl, rfl⟩)
      (fun _ => ⟨rfl, rfl, rfl, by intro _ h; cases h⟩) h s hs
  write := served_write
  receive e n := untouched ((keptByProcess_accounted qt [] d).receive e n) fun s =>
    ⟨sameFor_setProc s e rfl, by intro _ hmem; cases hmem⟩
  markExited := served_markExited

/-! ## §7. The request and what follows -/

/-- The host gives up on the task that it has just asked for. -/
theorem served_requestError (text : String) :
    Action.Sat (fun h s => Served qt d k h s ∧ (s.tasks k).terminal = false) (requestError k text)
      (Served qt d k) := by
  intro h s hs
  exact served_giveUp hs.1 hs.2 rfl rfl

theorem served_requestError_other {j : Nat} (hj : j ≠ k) (text : String) :
    Action.Sat (Served qt d k) (requestError j text) (Served qt d k) := by
  refine Action.Sat.bind fun s₀ => ?_
  exact Action.Sat.seq ((served_gaveUp hj).atState _) (served_push hj _ _)

theorem served_checkSent (e : Nat) : Action.Sat (Served qt d k) (checkSent e) (Served qt d k) := by
  intro h s hs
  unfold checkSent
  rw [Action.bind_apply]
  cases hcur : (s.drivers e).cur with
  | none => simpa using hs
  | some j =>
    dsimp only
    split_ifs with hgone
    · simp only [Bool.and_eq_true, Bool.not_eq_true'] at hgone
      by_cases hj : j = k
      · subst hj
        exact served_requestError _ h s ⟨hs, hgone.2⟩
      · exact served_requestError_other hj _ h s hs
    · simpa using hs

/-- The channel of a driver that runs is empty. -/
structure Idle (d k : Nat) (h : List HostEvent) (s : HostState) : Prop where
  history : h = []
  created : s.created = k
  running : (s.drivers d).proc.running = true
  buf : (s.drivers d).buf = []
  unread : (s.drivers d).proc.unread = []
  pipe : (s.drivers d).proc.pipe = []
  curs : ∀ e j, (s.drivers e).cur = some j → j < s.created

/-- **The new task** is served. -/
theorem served_newTask (cmd : String) (data : Json) (written : Bool) :
    Action.Sat (Idle d k)
      (Action.seq (newTask d) (Action.emit fun _ => .requested d k cmd data written))
      (fun h s => Served qt d k h s ∧ (s.tasks k).terminal = false) := by
  intro h s hidle
  obtain ⟨rfl, rfl, hrunning, hbuf, hunread, hpipe, hcurs⟩ := hidle
  -- nothing is left over from the requests before, so the account starts empty
  set s' := (newTask d s).1 with hs'
  have hdriver : s'.drivers d = { s.drivers d with cur := some s.created } := by
    simp [hs', newTask]
  have htask : s'.tasks s.created = {} := by simp [hs', newTask]
  show Served qt d s.created [.requested d s.created cmd data written] s' ∧ _
  refine ⟨⟨⟨?_, ?_⟩, ⟨?_, ?_, ?_, ?_, ?_, ?_⟩, ?_⟩, ?_⟩
  · rw [hdriver]
    simp [wroteBytes, takenBytes, HostEvent.wroteBy, HostEvent.takenFrom, hbuf, hunread, hpipe]
  · intro line hline
    simp [linesRead, HostEvent.lineOf] at hline
  · simp [hs', newTask]
  · simp [hs', newTask]
  · intro e hcur
    by_cases hed : e = d
    · exact hed
    · have hother : s'.drivers e = s.drivers e := by
        simp [hs', newTask, Function.update_of_ne hed]
      rw [hother] at hcur
      exact absurd (hcurs e _ hcur) (Nat.lt_irrefl _)
  · intro j hcur
    rw [hdriver] at hcur
    exact (Option.some.inj hcur).symm
  · intro hno
    rw [hdriver] at hno
    dsimp only at hno
    rw [hrunning] at hno
    cases hno
  · rw [htask]
    rfl
  · intro _
    refine ⟨.waiting ?_ ?_ rfl ?_, ?_, ?_, ?_⟩
    · rw [htask]
    · rw [hdriver]
    · intro m hm
      cases hm
    · intro _
      rw [hdriver, hbuf]
      exact List.not_mem_nil
    · intro h₁ early h₂ heq
      obtain ⟨h₃, heq⟩ := split_concat (h := []) heq (by intro hno; cases hno)
      simp at heq
    · intro h₁ early h₂ heq
      obtain ⟨h₃, heq⟩ := split_concat (h := []) heq (by intro hno; cases hno)
      simp at heq
  · show (s'.tasks s.created).terminal = false
    rw [htask]

/-- The request itself. -/
theorem served_request (cmd : String) (data : Json) (written : Bool) (m : Meanwhile) :
    Action.Sat (Idle d k) (request qt d cmd data written m) (Served qt d k) := by
  refine keptByProcess_served.outside.requestFrom d cmd data written m (Idle d k)
    (fun j h s => j = k ∧ Served qt d k h s ∧ (s.tasks k).terminal = false) ?_
    (fun _ _ _ hR => hR.2.1) ?_ (served_checkSent d) served_clearBuf
  · intro j h s hs
    obtain ⟨rfl, hidle⟩ := hs
    have hk := hidle.created
    subst hk
    exact ⟨rfl, served_newTask cmd data written h s hidle⟩
  · intro j _ h s hR
    obtain ⟨rfl, hR⟩ := hR
    exact served_requestError _ h s hR

/-- A request on another driver. -/
theorem served_request_other {e : Nat} (he : e ≠ d) (cmd : String) (data : Json)
    (written : Bool) (m : Meanwhile) :
    Action.Sat (Served qt d k) (request qt e cmd data written m) (Served qt d k) := by
  refine keptByProcess_served.outside.requestFrom e cmd data written m _
    (fun j h s => j ≠ k ∧ Served qt d k h s) ?_ (fun _ _ _ hR => hR.2) ?_ (served_checkSent e)
    (served_clearBuf_other he)
  · intro j h s hs
    obtain ⟨rfl, hs⟩ := hs
    have hne : s.created ≠ k := fun heq => absurd hs.tracked.created (by omega)
    refine ⟨hne, ?_⟩
    have hnew : Action.Sat (fun h s => k < s.created ∧ Served qt d k h s)
        (newTask e) (Served qt d k) := by
      refine Served.untouched (accounted_newTask [] d e) ?_
      intro s hlt
      have hother : ((newTask e s).1.drivers d) = s.drivers d := by
        simp [newTask, Function.update_of_ne (Ne.symm he)]
      have htask : ((newTask e s).1.tasks k) = s.tasks k := by
        simp [newTask, Function.update_of_ne (Nat.ne_of_lt hlt)]
      refine ⟨⟨?_, ?_, ?_, by rw [hother], by rw [hother], by rw [hother], by rw [htask],
        by rw [htask]⟩, by intro _ hmem; cases hmem⟩
      · simp [newTask]
      · simp [newTask, Function.update_of_ne (Nat.ne_of_lt hlt)]
      · intro e' hcur
        by_cases hee : e' = e
        · subst hee
          simp [newTask] at hcur
          omega
        · simpa [newTask, Function.update_of_ne hee] using hcur
    refine Action.Sat.seq hnew ?_ h s ⟨hs.tracked.created, hs⟩
    exact served_emit (fun _ => ⟨rfl, rfl, rfl⟩) fun _ => ⟨rfl, rfl, rfl, by intro _ h; cases h⟩
  · intro j _
    refine fun h s hR => served_requestError_other hR.1 _ h s hR.2

end Own

end HostState

theorem ReadFirst.append {h' : List HostEvent} (hr : ReadFirst d k h) (hr' : ReadFirst d k h') :
    ReadFirst d k (h ++ h') := by
  refine ⟨?_, ?_⟩
  · intro hmem
    obtain hmem | hmem := List.mem_append.mp hmem
    · exact hr.notEarly hmem
    · exact hr'.notEarly hmem
  · intro bytes hmem
    obtain hmem | hmem := List.mem_append.mp hmem
    · exact hr.nothingCleared bytes hmem
    · exact hr'.nothingCleared bytes hmem

/-- A state of the host after some run. -/
def Reachable (qt : Qt) (s : HostState) : Prop :=
  ∃ drivers ops, s = ((hostMachine qt).run (Machine.start (freshHost drivers)) ops).state

/-- The current tasks of a reachable host exist. -/
theorem Reachable.curs {s : HostState} (hs : Reachable qt s) (d j : Nat)
    (hcur : (s.drivers d).cur = some j) : j < s.created := by
  obtain ⟨drivers, ops, rfl⟩ := hs
  have hinv : Invariant ((hostMachine qt).run (Machine.start (freshHost drivers)) ops).history
      ((hostMachine qt).run (Machine.start (freshHost drivers)) ops).state := by
    apply Machine.run_invariant (fun c => Invariant c.history c.state)
    · intro c op hc
      exact HostState.action_invariant qt op _ _ hc
    · exact invariant_fresh drivers
  exact hinv.recorded.curCreated d j hcur

/-- No other request on the driver, and nobody ends the task from outside. -/
def HostOp.LeavesAlone (d k : Nat) : HostOp → Prop
  | .request d' _ _ _ _ => d' ≠ d
  | .forceTerminal k' _ _ => k' ≠ k
  | _ => True

/-- In this step the host reads before it gives up on the task, and clears nothing. -/
def ReadsFirst (qt : Qt) (d k : Nat) (c : Machine.Config HostState HostEvent) (op : HostOp) : Prop :=
  ReadFirst d k ((hostMachine qt).step c.state op).2

theorem served_action {op : HostOp} (hop : op.LeavesAlone d k) :
    Action.Sat (Served qt d k) (op.action qt) (Served qt d k) := by
  apply HostState.keptByProcess_served.action op
  · intro d' cmd data written m heq
    subst heq
    exact HostState.served_request_other hop cmd data written m
  · intro k' code error heq
    subst heq
    exact HostState.served_forceTerminal hop code error

/-- **A response written before the exit is kept**, for the task that the request returns, along
every run in which the host reads before it gives up. -/
theorem response_kept (qt : Qt) (s : HostState) (hs : Reachable qt s) (d k : Nat)
    (hrunning : (s.drivers d).proc.running = true)
    (hempty : (s.drivers d).buf ++ ((s.drivers d).proc.unread ++ (s.drivers d).proc.pipe) = [])
    (cmd : String) (data : Json) (written : Bool) (m : HostState.Meanwhile) (ops : List HostOp)
    (hhandle : ((hostMachine qt).next (Machine.start s)
      (.request d cmd data written m)).state.handle d = some k)
    (hops : ∀ op ∈ ops, op.LeavesAlone d k)
    (hread : (hostMachine qt).EveryStep (ReadsFirst qt d k) (Machine.start s)
      (.request d cmd data written m :: ops)) :
    (hostMachine qt).EveryState (ResponseKept qt d k)
      ((hostMachine qt).next (Machine.start s) (.request d cmd data written m)) ops := by
  obtain ⟨hbuf, hbytes⟩ := List.append_eq_nil_iff.mp hempty
  obtain ⟨hunread, hpipe⟩ := List.append_eq_nil_iff.mp hbytes
  have hstart : Served qt d s.created ((hostMachine qt).next (Machine.start s)
      (.request d cmd data written m)).history ((hostMachine qt).next (Machine.start s)
      (.request d cmd data written m)).state :=
    HostState.served_request cmd data written m [] s
      ⟨rfl, rfl, hrunning, hbuf, hunread, hpipe, hs.curs⟩
  -- a handle that is valid is that of the new task
  obtain rfl : k = s.created := hstart.tracked.current k hhandle
  have hsteps : (hostMachine qt).EveryStep
      (fun c op => op.LeavesAlone d s.created ∧ ReadsFirst qt d s.created c op)
      ((hostMachine qt).next (Machine.start s) (.request d cmd data written m)) ops := by
    rw [Machine.everyStep_iff]
    intro pre op post heq
    refine ⟨hops op (by rw [heq]; simp), ?_⟩
    exact (Machine.everyStep_iff.mp hread.2) pre op post heq
  apply Machine.everyState_of_invariant
    (fun c => Served qt d s.created c.history c.state ∧ ReadFirst d s.created c.history)
    ?_ ?_ ⟨hstart, ?_⟩ hsteps
  · intro c op hc hop
    exact ⟨served_action hop.1 _ _ hc.1, hc.2.append hop.2⟩
  · intro c hc
    exact hc.1.kept hc.2
  · exact hread.1

/-- The event is an early end of the task, or clears something. -/
def HostEvent.drops (d k : Nat) : HostEvent → Bool
  | .gaveUp k' early => k' = k && early
  | .cleared d' bytes => d' = d && !bytes.isEmpty
  | _ => false

theorem readFirst_of_all (hall : h.all (fun e => !e.drops d k) = true) : ReadFirst d k h := by
  rw [List.all_eq_true] at hall
  refine ⟨?_, ?_⟩
  · intro hmem
    have hdrop := hall _ hmem
    simp [HostEvent.drops] at hdrop
  · intro bytes hmem
    have hdrop := hall _ hmem
    simpa [HostEvent.drops] using hdrop

/-- A line that says that all went well. -/
def doneLine : List UInt8 := asciiBytes "\x7b\x22status\x22:\x22done\x22,\x22code\x22:0\x7d"

def doneMessage : Message := { status := .done, code := 0, payload := .undefined }

theorem doneLine_response : IsResponse sampleQt [doneLine] [doneMessage] := by
  refine ⟨?_, rfl, [], doneMessage, rfl, rfl, ?_⟩
  · intro l hl
    rw [List.mem_singleton.mp hl]
    decide
  · intro m hm
    cases hm

/-- The request, and what follows where the host reads in time. -/
def askedInTime : List HostOp :=
  [.write 0 (doneLine ++ [newline]), .deliver 0 9, .deliver 0 64, .pumpStdout 0,
    .observeExit 0 0 false, .tryNext 0, .tryNext 0]

/-- The response is kept when it is read before the exit is seen. -/
theorem response_read_in_time :
    (hostMachine sampleQt).EveryState (ResponseKept sampleQt 0 0)
      ((hostMachine sampleQt).next (Machine.start (freshHost fun _ => {}))
        (.request 0 "run" (.obj []) true {})) askedInTime := by
  refine response_kept sampleQt (freshHost fun _ => {}) ⟨fun _ => {}, [], rfl⟩ 0 0 rfl rfl "run"
    (.obj []) true {} askedInTime rfl ?_ ?_
  · intro op hop
    simp only [askedInTime, List.mem_cons, List.not_mem_nil, or_false] at hop
    obtain rfl | rfl | rfl | rfl | rfl | rfl | rfl := hop <;> trivial
  · refine ⟨?_, ?_, ?_, ?_, ?_, ?_, ?_, ?_, trivial⟩ <;>
      exact readFirst_of_all (by decide +kernel)

/-- The same without a pump between the bytes and the exit. -/
def askedTooLate : List HostOp :=
  [.write 0 (doneLine ++ [newline]), .deliver 0 64, .observeExit 0 0 false, .tryNext 0]

/-- The response has been received and the exit seen: `tryNext` says that there was none. -/
theorem response_lost :
    let c := (hostMachine sampleQt).run (Machine.start (freshHost fun _ => {}))
      (.request 0 "run" (.obj []) true {} :: askedTooLate)
    IsResponse sampleQt [doneLine] [doneMessage] ∧ WritesThenExits 0 [doneLine] c.history ∧
      (returnedTo 0 c.history).map Message.code = [1001] ∧ ¬ ResponseKept sampleQt 0 0 c := by
  intro c
  obtain ⟨m, o, hhistory⟩ : ∃ m o, c.history =
      [.requested 0 0 "run" (.obj []) true, .wrote 0 [], .cleared 0 [],
        .wrote 0 (doneLine ++ [newline])] ++ .exited 0 ::
      [.gaveUp 0 true, .pushed 0 m o .host, .returned 0 m] := ⟨_, _, rfl⟩
  have hwrites : WritesThenExits 0 [doneLine] c.history := by
    refine ⟨?_, ?_⟩
    · rw [hhistory]
      exact List.prefix_rfl
    · intro h₁ h₂ heq
      rw [hhistory] at heq
      rw [split_once (by simp) (by simp) heq]
      rfl
  refine ⟨doneLine_response, hwrites, rfl, ?_⟩
  intro hkept
  have hfalse := hkept.noFalseEnd _ true [.pushed 0 m o .host, .returned 0 m]
    (by rw [hhistory]; exact List.append_cons _ _ _)
  exact hfalse doneLine_response.carries

end Stdiolink.Host
