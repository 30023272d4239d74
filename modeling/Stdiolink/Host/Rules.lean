/-
  Stdiolink.Host.Rules — rules for assertions about the host.

  `tryNext`, the waits and the slots of waiting loops are made of five parts: reading
  the output, giving up, taking a message, and two kinds of bookkeeping.  What these
  keep, every wait keeps; with what the process does, every operation but `request`
  and `forceTerminal`.  What happens beside the taking of messages has rules of its own.

  Main results:
    * `KeptBeside.notify`, `KeptOutside.waitForBytesWritten` — the slots and the process, where no
      message is taken;
    * `KeptByParts.waitNext`, `KeptByParts.waitAnyNext` — from the parts to the waits;
    * `KeptOutside.requestFrom`, `KeptByProcess.action` — the rules for a request and for
      any operation.
-/
import Stdiolink.Host.Model

namespace Stdiolink.Host

open Stdiolink.Lib
open Stdiolink.Protocol

namespace HostState

/-! ## §1. What happens beside the taking of messages -/

/-- The check after a write keeps what every failure of a request keeps. -/
theorem checkSent_rule {P : List HostEvent → HostState → Prop}
    (herror : ∀ k text, Action.Sat P (requestError k text) P) (d : Nat) :
    Action.Sat P (checkSent d) P := by
  refine Action.Sat.bind fun s₀ => ?_
  cases (s₀.drivers d).cur with
  | none => exact Action.Sat.skip.atState _
  | some k =>
    dsimp only
    split_ifs
    · exact (herror k _).atState _
    · exact Action.Sat.skip.atState _

/-- An assertion kept by reading output, by giving up and by what happens to the list of waits. -/
structure KeptBeside (qt : Qt) (P : List HostEvent → HostState → Prop) : Prop where
  pump : ∀ d, Action.Sat P (pumpStdout qt d) P
  abandon : ∀ k, Action.Sat P (abandon k) P
  waits : ∀ h s ws, P h s → P h { s with waits := ws }

namespace KeptBeside

variable {qt : Qt} {P : List HostEvent → HostState → Prop} (hP : KeptBeside qt P)

include hP

theorem pumpOwner (k : Nat) : Action.Sat P (pumpOwner qt k) P := by
  apply Action.Sat.bind
  intro s₀
  split_ifs
  · exact (hP.pump (s₀.owner k)).atState _
  · exact Action.Sat.skip.atState _

theorem giveUp (k : Nat) : Action.Sat P (giveUp k) P := by
  apply Action.Sat.bind
  intro s₀
  split_ifs
  · exact (hP.abandon k).atState _
  · exact Action.Sat.skip.atState _

theorem quitIfReady (ks : List Nat) : Action.Sat P (quitIfReady qt ks) P :=
  Action.Sat.seq (Action.Sat.forEach fun k _ => hP.pumpOwner k)
    (Action.Sat.forEach fun k _ => hP.giveUp k)

theorem slot (d i : Nat) : Action.Sat P (slot qt d i) P := by
  apply Action.Sat.bind
  intro s₀
  cases s₀.waits[i]? with
  | none => exact Action.Sat.skip.atState _
  | some w =>
    dsimp only
    split_ifs
    · exact Action.Sat.seq ((hP.quitIfReady w.tasks).atState _)
        (Action.Sat.modify fun h s hs => hP.waits h s _ hs)
    · exact Action.Sat.skip.atState _

/-- Signals of any process. -/
theorem notify (d : Nat) : Action.Sat P (notify qt d) P :=
  Action.Sat.bind fun _ =>
    (Action.Sat.forEach fun i _ => hP.slot d i).atState _

theorem preCheck (k : Nat) : Action.Sat P (preCheck qt k) P := by
  apply Action.Sat.bind
  intro s₀
  split_ifs
  · refine Action.Sat.seq ((hP.pumpOwner k).atState _) (Action.Sat.bind fun s₁ => ?_)
    split_ifs
    · exact (hP.abandon k).atState _
    · exact Action.Sat.skip.atState _
  · exact Action.Sat.skip.atState _

theorem enterLoop (ks drivers : List Nat) : Action.Sat P (enterLoop ks drivers) P :=
  Action.Sat.modify fun h s hs => hP.waits h s _ hs

theorem expire (i : Nat) : Action.Sat P (expire i) P := by
  apply Action.Sat.modify
  intro h s hs
  split
  · exact hs
  · exact hP.waits h s _ hs

end KeptBeside

/-- An assertion that the process keeps too. -/
structure KeptOutside (qt : Qt) (P : List HostEvent → HostState → Prop) : Prop
    extends KeptBeside qt P where
  write : ∀ d bytes, Action.Sat P (write d bytes) P
  receive : ∀ d n, Action.Sat P (receive d n) P
  markExited : ∀ d exitCode crashed, Action.Sat P (markExited d exitCode crashed) P

namespace KeptOutside

variable {qt : Qt} {P : List HostEvent → HostState → Prop} (hP : KeptOutside qt P)

include hP

theorem deliver (d n : Nat) : Action.Sat P (deliver qt d n) P := by
  apply Action.Sat.bind
  intro s₀
  split_ifs
  · exact Action.Sat.skip.atState _
  · exact Action.Sat.seq ((hP.receive d n).atState _) (hP.notify d)

theorem observeExit (d : Nat) (exitCode : Int) (crashed : Bool) :
    Action.Sat P (observeExit qt d exitCode crashed) P := by
  apply Action.Sat.bind
  intro s₀
  split_ifs
  · exact Action.Sat.seq ((hP.markExited d exitCode crashed).atState _) (hP.notify d)
  · exact Action.Sat.skip.atState _

theorem waitForBytesWritten (d : Nat) (m : Meanwhile) :
    Action.Sat P (waitForBytesWritten qt d m) P := by
  refine Action.Sat.seq (hP.write d _) (Action.Sat.seq (hP.deliver d _) ?_)
  cases m.exited with
  | none => exact Action.Sat.skip
  | some e => exact hP.observeExit d e.1 e.2

/-- **The rule for a request.**  `Pre` is what holds before it, and `R` once the new task is the
current one. -/
theorem requestFrom (d : Nat) (cmd : String) (data : Json) (written : Bool) (m : Meanwhile)
    (Pre : List HostEvent → HostState → Prop) (R : Nat → List HostEvent → HostState → Prop)
    (hnew : ∀ k, Action.Sat (fun h s => s.created = k ∧ Pre h s)
      (Action.seq (newTask d) (Action.emit fun _ => .requested d k cmd data written)) (R k))
    (hcurrent : ∀ k h s, R k h s → P h s)
    (herror : ∀ k, written = false →
      Action.Sat (R k) (requestError k "failed to write request: ") P)
    (hcheck : Action.Sat P (checkSent d) P) (hclear : Action.Sat P (clearBuf d) P) :
    Action.Sat Pre (HostState.request qt d cmd data written m) P := by
  refine Action.Sat.bind fun s₀ => ?_
  have hstart : Action.Sat (fun h s => s = s₀ ∧ Pre h s)
      (Action.seq (newTask d) (Action.emit fun _ => .requested d s₀.created cmd data written))
      (R s₀.created) :=
    (hnew s₀.created).weaken (fun _ _ hs => ⟨congrArg HostState.created hs.1, hs.2⟩)
      fun _ _ hR => hR
  have hrest : Action.Sat (R s₀.created)
      (if !written then requestError s₀.created "failed to write request: "
      else
        Action.seq
          (Action.bind fun s =>
            if (s.drivers d).proc.running then HostState.waitForBytesWritten qt d m else Action.skip)
          (checkSent d)) P := by
    cases written with
    | false => exact herror _ rfl
    | true =>
      refine Action.Sat.seq (R := P) ?_ hcheck
      refine Action.Sat.weaken (P := P) (Action.Sat.bind fun s₁ => ?_) (hcurrent _) fun _ _ hR => hR
      split_ifs
      · exact (hP.waitForBytesWritten d m).atState _
      · exact Action.Sat.skip.atState _
  intro h s hs
  have hall := Action.Sat.seq hstart (Action.Sat.seq hrest hclear) h s hs
  simpa only [Action.seq_apply, List.append_assoc] using hall

end KeptOutside

/-! ## §2. What the waits are made of -/

/-- An assertion that the parts of `tryNext` and of the waits keep: reading output, giving
up, taking a message, and what happens to the list of waits. -/
structure KeptByParts (qt : Qt) (P : List HostEvent → HostState → Prop) : Prop where
  pump : ∀ d, Action.Sat P (pumpStdout qt d) P
  abandon : ∀ k, Action.Sat P (abandon k) P
  take : ∀ k, Action.Sat P (take k) P
  waits : ∀ h s ws, P h s → P h { s with waits := ws }
  failed : ∀ h s ks timedOut, P h s → P (h ++ [.waitFailed ks timedOut]) s

namespace KeptByParts

variable {qt : Qt} {P : List HostEvent → HostState → Prop} (hP : KeptByParts qt P)

include hP

theorem beside : KeptBeside qt P where
  pump := hP.pump
  abandon := hP.abandon
  waits := hP.waits

theorem tryNext (k : Nat) : Action.Sat P (tryNext k) P :=
  Action.Sat.seq (hP.beside.giveUp k) (hP.take k)

theorem tryEach (ks : List Nat) : Action.Sat P (tryEach ks) P := by
  induction ks with
  | nil => exact Action.Sat.skip
  | cons k ks ih =>
    refine Action.Sat.bind fun s₀ => ?_
    split_ifs
    · exact (hP.tryNext k).atState _
    · exact ih.atState _

theorem check (ks : List Nat) {goOn : Action HostState HostEvent} (hgo : Action.Sat P goOn P) :
    Action.Sat P (check ks goOn) P := by
  refine Action.Sat.bind fun s₀ => ?_
  split_ifs
  · exact (hP.tryEach ks).atState _
  · exact Action.Sat.emit fun h s hs => hP.failed h s _ _ hs.2
  · exact hgo.atState _

theorem waitAnyNext (ks : List Nat) : Action.Sat P (waitAnyNext qt ks) P := by
  refine hP.check ks (Action.Sat.seq (Action.Sat.forEach fun k _ => hP.beside.pumpOwner k)
    (hP.check ks (Action.Sat.bind fun s₀ => ?_)))
  exact Action.Sat.seq
    ((Action.Sat.forEach fun k _ => hP.beside.preCheck k).atState _)
    (hP.check ks (hP.beside.enterLoop ks _))

theorem waitNext (k : Nat) : Action.Sat P (waitNext qt k) P := by
  refine hP.check [k] (Action.Sat.seq (hP.beside.pumpOwner k)
    (hP.check [k] (Action.Sat.bind fun s₀ => ?_)))
  split_ifs
  · exact (hP.beside.enterLoop [k] _).atState _
  · refine Action.Sat.seq ((hP.beside.pumpOwner k).atState _)
      (Action.Sat.bind fun s₁ => ?_)
    split_ifs
    · exact (hP.tryNext k).atState _
    · exact Action.Sat.seq ((hP.abandon k).atState _)
        (hP.tryNext k)

theorem resume : Action.Sat P resume P := by
  intro h s hs
  unfold HostState.resume
  split
  · simpa using hs
  · split_ifs
    · refine Action.Sat.bind (P := P) (fun s₀ => ?_) h _ (hP.waits h s _ hs)
      split_ifs
      · exact (hP.tryEach _).atState _
      · exact Action.Sat.emit fun h s hs => hP.failed h s _ _ hs.2
    · simpa using hs

end KeptByParts

/-! ## §3. The operations -/

/-- An assertion kept by everything but requests and forced ends. -/
structure KeptByProcess (qt : Qt) (P : List HostEvent → HostState → Prop) : Prop
    extends KeptByParts qt P where
  write : ∀ d bytes, Action.Sat P (write d bytes) P
  receive : ∀ d n, Action.Sat P (receive d n) P
  markExited : ∀ d exitCode crashed, Action.Sat P (markExited d exitCode crashed) P

namespace KeptByProcess

variable {qt : Qt} {P : List HostEvent → HostState → Prop} (hP : KeptByProcess qt P)

include hP

theorem outside : KeptOutside qt P where
  toKeptBeside := hP.toKeptByParts.beside
  write := hP.write
  receive := hP.receive
  markExited := hP.markExited

/-- Every operation, if the requests and the forced ends among them keep the assertion. -/
theorem action (op : HostOp)
    (hrequest : ∀ d cmd data written m, op = .request d cmd data written m →
      Action.Sat P (HostState.request qt d cmd data written m) P)
    (hforce : ∀ k code error, op = .forceTerminal k code error →
      Action.Sat P (forceTerminal k code error) P) :
    Action.Sat P (op.action qt) P := by
  cases op with
  | request d cmd data written m => exact hrequest d cmd data written m rfl
  | pumpStdout d => exact hP.pump d
  | tryNext k => exact hP.tryNext k
  | waitNext k => exact hP.waitNext k
  | waitAnyNext ks => exact hP.waitAnyNext ks
  | forceTerminal k code error => exact hforce k code error rfl
  | expire i => exact hP.beside.expire i
  | resume => exact hP.resume
  | write d bytes => exact hP.write d bytes
  | deliver d n => exact hP.outside.deliver d n
  | observeExit d exitCode crashed => exact hP.outside.observeExit d exitCode crashed

end KeptByProcess

end HostState

end Stdiolink.Host
