/-
  Stdiolink.Lib.Loops — loops that are left from inside.

  A round of the loop gives the state for the next round, or ends the loop with an outcome.  How
  many rounds a loop takes, and what its outcome is, are functions of the state that it starts in;
  whether it ends at all is another question.

  Main results:
    * `runFor_iff`      — so many rounds are enough, and what comes out of them;
    * `ends_of_variant` — a loop whose rounds decrease a number ends.
-/
import Mathlib.Data.Nat.Notation
import Mathlib.Tactic.Common

namespace Stdiolink.Lib

section Loops

variable {σ ω : Type*} (round : σ → σ ⊕ ω)

/-- **The loop ends** after so many rounds, with this outcome. -/
inductive Ends : σ → Nat → ω → Prop
  | last {s : σ} {o : ω} (h : round s = .inr o) : Ends s 1 o
  | step {s s' : σ} {n : Nat} {o : ω} (h : round s = .inl s') (hrest : Ends s' n o) :
      Ends s (n + 1) o

/-- At most so many rounds: how many there were, and the outcome. -/
def runFor : Nat → σ → Option (Nat × ω)
  | 0, _ => none
  | n + 1, s =>
    match round s with
    | .inl s' => (runFor n s').map fun (k, o) => (k + 1, o)
    | .inr o => some (1, o)

variable {round}

/-- **So many rounds are enough.** -/
theorem runFor_iff {n k : Nat} {s : σ} {o : ω} :
    runFor round n s = some (k, o) ↔ Ends round s k o ∧ k ≤ n := by
  induction n generalizing s k with
  | zero =>
    constructor
    · intro h
      cases h
    · rintro ⟨hends, hle⟩
      cases hends <;> cases hle
  | succ n ih =>
    rw [runFor]
    constructor
    · intro h
      cases hround : round s with
      | inr outcome =>
        rw [hround] at h
        obtain ⟨rfl, rfl⟩ := Prod.mk.inj (Option.some.inj h)
        exact ⟨.last hround, Nat.succ_le_succ (Nat.zero_le n)⟩
      | inl s' =>
        rw [hround] at h
        obtain ⟨⟨k', o'⟩, hrest, heq⟩ := Option.map_eq_some_iff.mp h
        obtain ⟨rfl, rfl⟩ := Prod.mk.inj heq
        obtain ⟨hends, hle⟩ := ih.mp hrest
        exact ⟨.step hround hends, Nat.succ_le_succ hle⟩
    · rintro ⟨hends, hle⟩
      cases hends with
      | last h => rw [h]
      | step h hrest =>
        rw [h]
        exact Option.map_eq_some_iff.mpr ⟨_, ih.mpr ⟨hrest, Nat.le_of_succ_le_succ hle⟩, rfl⟩

/-- **Loops that end**: an invariant, and a number that each round decreases. -/
theorem ends_of_variant (Inv : σ → Prop) (variant : σ → Nat)
    (hstep : ∀ s s', Inv s → round s = .inl s' → Inv s' ∧ variant s' < variant s) :
    ∀ s, Inv s → ∃ n o, Ends round s n o ∧ n ≤ variant s + 1 := by
  intro s
  induction hn : variant s using Nat.strongRecOn generalizing s with
  | ind n ih =>
    intro hinv
    cases hround : round s with
    | inr o => exact ⟨1, o, .last hround, Nat.succ_le_succ (Nat.zero_le n)⟩
    | inl s' =>
      obtain ⟨hinv', hlt⟩ := hstep s s' hinv hround
      obtain ⟨k, o, hends, hle⟩ := ih (variant s') (hn ▸ hlt) s' rfl hinv'
      exact ⟨k + 1, o, .step hround hends, by omega⟩

end Loops

end Stdiolink.Lib
