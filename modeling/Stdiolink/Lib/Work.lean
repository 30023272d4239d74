/-
  Stdiolink.Lib.Work — work that waits.

  A piece of work changes a shared state and produces output; now and then it waits, and goes
  on with the reply, or with none if the wait is cut short.  `run` takes it to its next wait.

  Main results:
    * `run_reaches`    — `run` is a run to the next wait, or to the end;
    * `Reaches.trans`  — runs compose;
    * `Underway.goOn`  — pieces of work in turn, the last of which may still be under way.
-/
import Mathlib.Data.List.Basic

namespace Stdiolink.Lib

/-- Work on a state in `σ` that waits for replies in `ρ` and produces output in `ω`. -/
inductive Work (σ ρ ω : Type) where
  | finish
  | act (f : σ → σ × List ω) (next : σ → Work σ ρ ω)
  | wait (resume : Option ρ → Work σ ρ ω)

namespace Work

variable {σ ρ ω α : Type}

/-- One piece of work, then another. -/
def andThen : Work σ ρ ω → Work σ ρ ω → Work σ ρ ω
  | .finish, w => w
  | .act f next, w => .act f fun s => (next s).andThen w
  | .wait resume, w => .wait fun reply => (resume reply).andThen w

/-- Produce some output. -/
def say (out : List ω) : Work σ ρ ω := .act (fun s => (s, out)) fun _ => .finish

/-- To the next wait: the state, the output, and the work that is left. -/
def run : Work σ ρ ω → σ → σ × List ω × Work σ ρ ω
  | .finish, s => (s, [], .finish)
  | .act f next, s =>
      (((next (f s).1).run (f s).1).1, (f s).2 ++ ((next (f s).1).run (f s).1).2.1,
        ((next (f s).1).run (f s).1).2.2)
  | .wait resume, s => (s, [], .wait resume)

/-- A run from a piece of work and a state to what is left of it, on which every wait is replied
to. -/
inductive Reaches : Work σ ρ ω → σ → List ω → Work σ ρ ω → σ → Prop where
  | refl (w : Work σ ρ ω) (s : σ) : Reaches w s [] w s
  | act {f : σ → σ × List ω} {next : σ → Work σ ρ ω} {s s' : σ} {out : List ω}
      {w : Work σ ρ ω} :
      Reaches (next (f s).1) (f s).1 out w s' → Reaches (.act f next) s ((f s).2 ++ out) w s'
  | wait {resume : Option ρ → Work σ ρ ω} {s s' : σ} {out : List ω} {w : Work σ ρ ω} (reply : ρ) :
      Reaches (resume (some reply)) s out w s' → Reaches (.wait resume) s out w s'

/-- `run` stops at the end or at a wait. -/
theorem run_stops (w : Work σ ρ ω) (s : σ) :
    (w.run s).2.2 = .finish ∨ ∃ resume, (w.run s).2.2 = .wait resume := by
  induction w generalizing s with
  | finish => exact Or.inl rfl
  | act f next ih => exact ih _ _
  | wait resume => exact Or.inr ⟨resume, rfl⟩

/-- **`run` is a run.** -/
theorem run_reaches (w : Work σ ρ ω) (s : σ) :
    Reaches w s (w.run s).2.1 (w.run s).2.2 (w.run s).1 := by
  induction w generalizing s with
  | finish => exact .refl _ _
  | act f next ih => exact .act (ih _ _)
  | wait resume => exact .refl _ _

variable {w : Work σ ρ ω} {s s₀ : σ} {out : List ω} {work : α → Work σ ρ ω} {xs : List α}

/-- **Runs compose.** -/
theorem Reaches.trans {w' w'' : Work σ ρ ω} {s' s'' : σ} {out' : List ω} (h : Reaches w s out w' s')
    (h' : Reaches w' s' out' w'' s'') :
    Reaches w s (out ++ out') w'' s'' := by
  induction h with
  | refl => exact h'
  | act _ ih =>
    rw [List.append_assoc]
    exact .act (ih h')
  | wait reply _ ih => exact .wait reply (ih h')

/-- Pieces of work, each run to its end before the next. -/
inductive InTurn (work : α → Work σ ρ ω) (s₀ : σ) : List α → List ω → σ → Prop where
  | nil : InTurn work s₀ [] [] s₀
  | snoc {xs : List α} {x : α} {s s' : σ} {out out' : List ω} :
      InTurn work s₀ xs out s → Reaches (work x) s out' .finish s' →
        InTurn work s₀ (xs ++ [x]) (out ++ out') s'

/-- Nothing runs, nothing changes. -/
theorem InTurn.of_nil (h : InTurn work s₀ [] out s) : out = [] ∧ s = s₀ := by
  generalize hxs : [] = xs at h
  cases h with
  | nil => exact ⟨rfl, rfl⟩
  | snoc _ _ => exact absurd hxs.symm (by simp)

/-- One piece alone. -/
theorem InTurn.of_singleton {x : α} (h : InTurn work s₀ [x] out s) :
    Reaches (work x) s₀ out .finish s := by
  generalize hxs : [x] = xs at h
  cases h with
  | nil => cases hxs
  | @snoc ys y _ _ _ _ hturn hlast =>
    obtain ⟨rfl, hy⟩ := (List.append_inj' hxs rfl : [] = ys ∧ [x] = [y])
    obtain ⟨rfl, -⟩ := List.cons.inj hy
    obtain ⟨rfl, rfl⟩ := hturn.of_nil
    exact hlast

/-- The same, of the last of which `w` may still be left. -/
inductive Underway (work : α → Work σ ρ ω) (s₀ : σ) :
    List α → List ω → Work σ ρ ω → σ → Prop where
  | last {xs : List α} {x : α} {s s' : σ} {out out' : List ω} {w : Work σ ρ ω} :
      InTurn work s₀ xs out s → Reaches (work x) s out' w s' →
        Underway work s₀ (xs ++ [x]) (out ++ out') w s'

/-- The last piece begins. -/
theorem InTurn.begin (h : InTurn work s₀ xs out s) (x : α) :
    Underway work s₀ (xs ++ [x]) out (work x) s := by
  have hbegin := Underway.last h (Reaches.refl (work x) s)
  rw [List.append_nil] at hbegin
  exact hbegin

/-- The last piece goes on. -/
theorem Underway.goOn {s' : σ} {out' : List ω} {w' : Work σ ρ ω} (h : Underway work s₀ xs out w s)
    (hgo : Reaches w s out' w' s') :
    Underway work s₀ xs (out ++ out') w' s' := by
  cases h with
  | last hturn hlast =>
    rw [List.append_assoc]
    exact .last hturn (hlast.trans hgo)

/-- A reply ends a wait. -/
theorem Underway.replied {resume : Option ρ → Work σ ρ ω}
    (h : Underway work s₀ xs out (.wait resume) s) (reply : ρ) :
    Underway work s₀ xs out (resume (some reply)) s := by
  have hgo := h.goOn (.wait reply (.refl (resume (some reply)) s))
  rw [List.append_nil] at hgo
  exact hgo

/-- When nothing is left, all were run in turn. -/
theorem Underway.finish (h : Underway work s₀ xs out .finish s) : InTurn work s₀ xs out s := by
  cases h with
  | last hturn hlast => exact .snoc hturn hlast

/-- Something has begun. -/
theorem Underway.ne_nil (h : Underway work s₀ xs out w s) : xs ≠ [] := by
  cases h with
  | last _ _ => simp

end Work

end Stdiolink.Lib
