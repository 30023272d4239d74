/-
  Stdiolink.Js.Spawn — the output of a spawned process, `bindings/js_process_async.cpp`.

  Each time the process has output, what is there is made a string of its own and passed to the
  callbacks of the channel.  As long as there are none it is left unread.  The handle lives as long
  as the script holds it.

  `JS_NewStringLen` is a lenient reader of UTF-8, whichever; a string is its code points.

  Main results:
    * `run_delivered` — what a callback that is there from the start is passed;
    * `delivered_iff` — when that is the whole output.
-/
import Stdiolink.Js.ExecAsync
import Stdiolink.Lib.Utf8Reader

namespace Stdiolink.Js.Spawn

open Stdiolink.Lib
open ExecAsync (Channel)

/-! ## §1. The handle -/

/-- `ProcessHandleData`, of `spawn`: how many callbacks each channel has, which are numbered as they
were registered, and what of its output the process object holds unread. -/
structure ProcessHandleData where
  callbacks : Channel → Nat := fun _ => 0
  unread : Channel → List UInt8 := fun _ => []

/-- What happens: the script registers a callback, or there is output. -/
inductive SpawnEvent where
  | onOutput (channel : Channel)
  | readyRead (channel : Channel) (data : List UInt8)

/-- A callback is called with a string. -/
structure Called where
  channel : Channel
  callback : Nat
  str : List Nat
  deriving DecidableEq

namespace ProcessHandleData

variable (h : ProcessHandleData)

/-- `jsHandleOnStdout` and `jsHandleOnStderr`. -/
def onOutput (channel : Channel) : ProcessHandleData :=
  { h with callbacks := Function.update h.callbacks channel (h.callbacks channel + 1) }

/-- `readAllStandardOutput` and `readAllStandardError`. -/
def readAll (channel : Channel) : List UInt8 × ProcessHandleData :=
  (h.unread channel, { h with unread := Function.update h.unread channel [] })

/-- `readyReadStandardOutput` and `readyReadStandardError`. -/
def onReadyRead (newString : List UInt8 → List Nat) (channel : Channel) :
    ProcessHandleData × List Called :=
  if h.callbacks channel = 0 then (h, [])
  else
    let (data, h) := h.readAll channel
    let str := newString data
    (h, (List.range (h.callbacks channel)).map fun callback => ⟨channel, callback, str⟩)

/-- One step. -/
def step (newString : List UInt8 → List Nat) (h : ProcessHandleData) :
    SpawnEvent → ProcessHandleData × List Called
  | .onOutput channel => (h.onOutput channel, [])
  | .readyRead channel data =>
    onReadyRead { h with unread := Function.update h.unread channel (h.unread channel ++ data) }
      newString channel

end ProcessHandleData

/-- The handle as a machine. -/
def machine (newString : List UInt8 → List Nat) : Machine ProcessHandleData SpawnEvent Called where
  step := ProcessHandleData.step newString

/-! ## §2. What a callback is passed -/

/-- The code points of all strings that a callback was passed. -/
def delivered (channel : Channel) (callback : Nat) (history : List Called) : List Nat :=
  history.flatMap fun call =>
    if call.channel = channel ∧ call.callback = callback then call.str else []

/-- The chunks of a channel. -/
def chunks (channel : Channel) (events : List SpawnEvent) : List (List UInt8) :=
  events.filterMap fun
    | .readyRead other data => if other = channel then some data else none
    | .onOutput _ => none

variable {newString : List UInt8 → List Nat} {channel : Channel} {callback : Nat}

theorem delivered_append (history more : List Called) :
    delivered channel callback (history ++ more) =
      delivered channel callback history ++ delivered channel callback more :=
  List.flatMap_append

/-- Among the calls of one output there is one of each callback. -/
theorem delivered_range {str : List Nat} {n : Nat} (h : callback < n) :
    delivered channel callback ((List.range n).map fun i => ⟨channel, i, str⟩) = str := by
  induction n with
  | zero => omega
  | succ n ih =>
    rw [List.range_succ, List.map_append, delivered_append]
    by_cases hlast : callback = n
    · have hbefore : delivered channel callback
          ((List.range n).map fun i => (⟨channel, i, str⟩ : Called)) = [] := by
        rw [delivered, List.flatMap_eq_nil_iff]
        intro call hcall
        obtain ⟨i, hi, rfl⟩ := List.mem_map.mp hcall
        have hi := List.mem_range.mp hi
        exact if_neg fun h => by
          have : i = callback := h.2
          omega
      rw [hbefore, hlast]
      simp [delivered]
    · rw [ih (by omega)]
      have hne : ¬ n = callback := fun h => hlast h.symm
      simp [delivered, hne]

/-- The calls of another channel do not count. -/
theorem delivered_other {other : Channel} (hother : other ≠ channel) {str : List Nat} {n : Nat} :
    delivered channel callback ((List.range n).map fun i => ⟨other, i, str⟩) = [] := by
  rw [delivered, List.flatMap_eq_nil_iff]
  intro call hcall
  obtain ⟨i, -, rfl⟩ := List.mem_map.mp hcall
  exact if_neg fun h => hother h.1

/-- A callback is there, and nothing is left unread. -/
structure Ready (channel : Channel) (callback : Nat) (h : ProcessHandleData) : Prop where
  registered : callback < h.callbacks channel
  unread : h.unread channel = []

/-- **One step** passes the callback the string of its chunk, and leaves nothing unread. -/
theorem step_ready {h : ProcessHandleData} (hready : Ready channel callback h)
    (event : SpawnEvent) :
    Ready channel callback (h.step newString event).1 ∧
      delivered channel callback (h.step newString event).2 =
        (chunks channel [event]).flatMap newString := by
  cases event with
  | onOutput other =>
    refine ⟨⟨?_, hready.unread⟩, rfl⟩
    show callback < Function.update h.callbacks other (h.callbacks other + 1) channel
    by_cases hother : channel = other
    · rw [← hother, Function.update_self]
      have := hready.registered
      omega
    · rw [Function.update_of_ne hother]
      exact hready.registered
  | readyRead other data =>
    simp only [ProcessHandleData.step, ProcessHandleData.onReadyRead, ProcessHandleData.readAll]
    by_cases hother : other = channel
    · subst hother
      have hsome : h.callbacks other ≠ 0 := by
        have := hready.registered
        omega
      rw [if_neg hsome]
      refine ⟨⟨hready.registered, Function.update_self ..⟩, ?_⟩
      show delivered other callback ((List.range (h.callbacks other)).map fun i => ⟨other, i, _⟩) = _
      rw [delivered_range hready.registered, Function.update_self, hready.unread]
      simp [chunks]
    · have hchannel : channel ≠ other := fun h => hother h.symm
      have hnone : (chunks channel [.readyRead other data]).flatMap newString = [] := by
        simp [chunks, hother]
      rw [hnone]
      split
      · refine ⟨⟨hready.registered, ?_⟩, rfl⟩
        exact (Function.update_of_ne hchannel ..).trans hready.unread
      · refine ⟨⟨hready.registered, ?_⟩, delivered_other hother⟩
        show Function.update (Function.update h.unread other _) other _ channel = []
        rw [Function.update_of_ne hchannel, Function.update_of_ne hchannel]
        exact hready.unread

/-- **A whole run**: the callback is passed the string of each chunk. -/
theorem run_delivered {c : Machine.Config ProcessHandleData Called}
    (hready : Ready channel callback c.state) (events : List SpawnEvent) :
    delivered channel callback ((machine newString).run c events).history =
      delivered channel callback c.history ++ (chunks channel events).flatMap newString := by
  induction events generalizing c with
  | nil => simp [chunks]
  | cons event events ih =>
    obtain ⟨hnext, hstep⟩ : Ready channel callback (c.state.step newString event).1 ∧
        delivered channel callback (c.state.step newString event).2 =
          (chunks channel [event]).flatMap newString := step_ready hready event
    have hsplit : chunks channel (event :: events) =
        chunks channel [event] ++ chunks channel events :=
      List.filterMap_append (l := [event])
    rw [Machine.run_cons, ih hnext, hsplit, List.flatMap_append, ← hstep, ← List.append_assoc,
      ← delivered_append]
    rfl

/-! ## §3. When it is the whole output -/

/-- A handle whose callbacks have been registered before there is any output. -/
def spawned (callbacks : Channel → Nat) : ProcessHandleData where
  callbacks := callbacks

/-- **What a callback is passed is the output**, however it is cut, if and only if no chunk ends
inside a character, or inside a piece of malformed bytes that is read as one. -/
theorem delivered_iff (R : Utf8Reader) (callbacks : Channel → Nat)
    (hcallback : callback < callbacks channel) (events : List SpawnEvent) :
    delivered channel callback
        ((machine R.read).run (Machine.start (spawned callbacks)) events).history =
        R.read (chunks channel events).flatten ↔
      R.EndsEach (chunks channel events) := by
  have hready : Ready channel callback (spawned callbacks) := ⟨hcallback, rfl⟩
  rw [run_delivered (c := Machine.start (spawned callbacks)) hready]
  exact PieceReader.read_chunks_iff (R := R.toPieceReader) (chunks channel events)

/-- One callback on each channel. -/
def oneEach : Channel → Nat := fun _ => 1

/-- Two chunks of whole characters, to which the second channel has something to add. -/
def wholeChunks : List SpawnEvent :=
  [.readyRead .stdout (Utf8.encode ['é']), .readyRead .stderr [0], .readyRead .stdout (Utf8.encode ['a'])]

/-- They are delivered as they are. -/
theorem whole_delivered :
    delivered .stdout 0
        ((machine Utf8.byteByByte.read).run (Machine.start (spawned oneEach)) wholeChunks).history =
      Utf8.byteByByte.read (chunks .stdout wholeChunks).flatten := by
  refine (delivered_iff Utf8.byteByByte oneEach (show 0 < 1 by decide) wholeChunks).mpr ?_
  have htext : (chunks .stdout wholeChunks).flatten = Utf8.encode ['é', 'a'] := by decide
  rw [Utf8Reader.endsEach_iff htext]
  show ∀ chunk ∈ [Utf8.encode ['é'], Utf8.encode ['a']], ∃ part, chunk = Utf8.encode part
  intro chunk hchunk
  rcases List.mem_cons.mp hchunk with rfl | hchunk
  · exact ⟨['é'], rfl⟩
  · exact ⟨['a'], List.mem_singleton.mp hchunk⟩

/-- The two bytes of a character, in two chunks. -/
def cutChunks : List SpawnEvent := [.readyRead .stdout [0xC3], .readyRead .stdout [0xA9]]

/-- The callback is passed two replacement characters instead of the character. -/
theorem cut_replaced :
    delivered .stdout 0
        ((machine Utf8.byteByByte.read).run (Machine.start (spawned oneEach)) cutChunks).history =
        [0xFFFD, 0xFFFD] ∧
      Utf8.byteByByte.read (chunks .stdout cutChunks).flatten = ['é'.toNat] ∧
      delivered .stdout 0
        ((machine Utf8.byteByByte.read).run (Machine.start (spawned oneEach)) cutChunks).history ≠
        Utf8.byteByByte.read (chunks .stdout cutChunks).flatten := by
  have hcut : delivered .stdout 0
      ((machine Utf8.byteByByte.read).run (Machine.start (spawned oneEach)) cutChunks).history =
      [0xFFFD, 0xFFFD] := by
    have hready : Ready .stdout 0 (spawned oneEach) := ⟨show 0 < 1 by decide, rfl⟩
    rw [run_delivered (c := Machine.start (spawned oneEach)) hready]
    show [] ++ (Utf8.byteByByte.read [0xC3] ++ (Utf8.byteByByte.read [0xA9] ++ [])) = _
    rw [PieceReader.read_single (by simp) (by decide), PieceReader.read_single (by simp) (by decide)]
    decide
  have hwhole : Utf8.byteByByte.read (chunks .stdout cutChunks).flatten = ['é'.toNat] := by
    have htext : (chunks .stdout cutChunks).flatten = Utf8.encode ['é'] := by decide
    rw [htext]
    exact Utf8Reader.read_encode ['é']
  refine ⟨hcut, hwhole, ?_⟩
  rw [hcut, hwhole]
  decide

end Stdiolink.Js.Spawn
