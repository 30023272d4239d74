/-
  Stdiolink.Lib.Action — state changes that emit events, and their triples.

  An `Action` is a state transformer with a list of emitted events.  `Sat P a Q`
  is the partial-correctness triple of such an action.  Assertions speak about the
  history (everything emitted so far) and the state: from a history and state with
  `P`, the action reaches a history and state with `Q`.
  The rules below follow the combinators (`skip`, `modify`, `emit`, `seq`,
  `forEach`), so a proof about a program follows the program's text.
-/
import Mathlib.Data.List.Basic

namespace Stdiolink.Lib

/-- A state transformer that emits events. -/
abbrev Action (σ ε : Type*) := σ → σ × List ε

namespace Action

variable {σ ε α : Type*}

/-- Do nothing. -/
def skip : Action σ ε := fun s => (s, [])

/-- Change the state, emit nothing. -/
def modify (f : σ → σ) : Action σ ε := fun s => (f s, [])

/-- Emit one event, computed from the state. -/
def emit (e : σ → ε) : Action σ ε := fun s => (s, [e s])

/-- Run `a`, then `b`. -/
def seq (a b : Action σ ε) : Action σ ε := fun s =>
  ((b (a s).1).1, (a s).2 ++ (b (a s).1).2)

/-- Choose the action from the state. -/
def bind (f : σ → Action σ ε) : Action σ ε := fun s => f s s

/-- Run `f x` for every `x` of the list, in order. -/
def forEach : List α → (α → Action σ ε) → Action σ ε
  | [], _ => skip
  | x :: xs, f => seq (f x) (forEach xs f)

/-- Go on from a result. -/
def extend (r : σ × List ε) (a : Action σ ε) : σ × List ε := ((a r.1).1, r.2 ++ (a r.1).2)

@[simp] theorem skip_apply (s : σ) : (skip : Action σ ε) s = (s, []) := rfl

@[simp] theorem modify_apply (f : σ → σ) (s : σ) : (modify f : Action σ ε) s = (f s, []) := rfl

@[simp] theorem emit_apply (e : σ → ε) (s : σ) : emit e s = (s, [e s]) := rfl

@[simp] theorem seq_apply (a b : Action σ ε) (s : σ) :
    seq a b s = ((b (a s).1).1, (a s).2 ++ (b (a s).1).2) := rfl

@[simp] theorem bind_apply (f : σ → Action σ ε) (s : σ) : bind f s = f s s := rfl

@[simp] theorem forEach_nil (f : α → Action σ ε) : forEach [] f = skip := rfl

@[simp] theorem forEach_cons (x : α) (xs : List α) (f : α → Action σ ε) :
    forEach (x :: xs) f = seq (f x) (forEach xs f) := rfl

@[simp] theorem extend_fst (r : σ × List ε) (a : Action σ ε) : (extend r a).1 = (a r.1).1 := rfl

/-- The history after going on. -/
@[simp] theorem append_extend_snd (h : List ε) (r : σ × List ε) (a : Action σ ε) :
    h ++ (extend r a).2 = h ++ r.2 ++ (a r.1).2 := by
  simp [extend]

theorem forEach_append (xs ys : List α) (f : α → Action σ ε) (s : σ) :
    forEach (xs ++ ys) f s = seq (forEach xs f) (forEach ys f) s := by
  induction xs generalizing s with
  | nil => simp
  | cons x xs ih => simp [ih]

/-! ## Triples -/

/-- `Sat P a Q`: with `P` of the history and the state before the action, `Q` holds
of the history and the state after it. -/
def Sat (P : List ε → σ → Prop) (a : Action σ ε) (Q : List ε → σ → Prop) : Prop :=
  ∀ h s, P h s → Q (h ++ (a s).2) (a s).1

namespace Sat

variable {P Q R : List ε → σ → Prop} {a b : Action σ ε}

theorem skip : Sat P (Action.skip : Action σ ε) P := by
  intro h s hP
  simpa using hP

theorem modify {f : σ → σ} (hf : ∀ h s, P h s → Q h (f s)) : Sat P (Action.modify f) Q := by
  intro h s hP
  simpa using hf h s hP

theorem emit {e : σ → ε} (he : ∀ h s, P h s → Q (h ++ [e s]) s) : Sat P (Action.emit e) Q :=
  fun h s hP => he h s hP

/-- Emitting an event frames every assertion about the state. -/
theorem emit_frame {e : σ → ε} {F : σ → Prop} (he : Sat P (Action.emit e) Q) :
    Sat (fun h s => P h s ∧ F s) (Action.emit e) (fun h s => Q h s ∧ F s) :=
  fun h s hP => ⟨he h s hP.1, hP.2⟩

theorem seq (ha : Sat P a R) (hb : Sat R b Q) : Sat P (Action.seq a b) Q := by
  intro h s hP
  have hR := ha h s hP
  have hQ := hb _ _ hR
  simpa [List.append_assoc] using hQ

theorem bind {f : σ → Action σ ε} (hf : ∀ s₀, Sat (fun h s => s = s₀ ∧ P h s) (f s₀) Q) :
    Sat P (Action.bind f) Q :=
  fun h s hP => hf s h s ⟨rfl, hP⟩

/-- What `bind` knows about the state may be forgotten. -/
theorem atState (ha : Sat P a Q) (s₀ : σ) : Sat (fun h s => s = s₀ ∧ P h s) a Q :=
  fun h s hP => ha h s hP.2

/-- Loops keep what every body keeps. -/
theorem forEach {l : List α} {f : α → Action σ ε} (hf : ∀ x ∈ l, Sat P (f x) P) :
    Sat P (Action.forEach l f) P := by
  induction l with
  | nil => exact skip
  | cons x xs ih =>
    exact seq (hf x (by simp)) (ih fun y hy => hf y (by simp [hy]))

theorem weaken {P' Q' : List ε → σ → Prop} (hab : Sat P a Q)
    (hP : ∀ h s, P' h s → P h s) (hQ : ∀ h s, Q h s → Q' h s) : Sat P' a Q' :=
  fun h s hP' => hQ _ _ (hab h s (hP h s hP'))

end Sat

end Action

end Stdiolink.Lib
