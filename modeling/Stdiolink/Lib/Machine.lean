/-
  Stdiolink.Lib.Machine — labelled machines and the properties of their runs.

  A machine takes one input at a time, changes its state and emits observable
  events.  A configuration pairs the state with everything emitted so far, so a
  property of a run may speak about the past ("no instance was started since
  this timer was armed").

  Main results:
    * `everyStep_iff` — a step property holds along a run iff it holds at every
      split of the input list;
    * `run_invariant` — the invariant rule;
    * `everyStep_of_invariant` / `everyStep_congr_of_invariant` — from a step
      lemma under an invariant to a statement about whole runs;
    * `history_eq_of_related` — two machines in lockstep;
    * `since_concat` — what has not happened since, when one more event comes.
-/
import Mathlib.Data.List.Basic
import Mathlib.Data.List.Induction

namespace Stdiolink.Lib

/-- A deterministic machine: state `σ`, inputs `ι`, emitted events `ε`.
Nondeterminism of the environment is part of the input. -/
structure Machine (σ ι ε : Type*) where
  step : σ → ι → σ × List ε

namespace Machine

variable {σ ι ε : Type*}

/-- A state together with the events emitted on the way to it, oldest first. -/
structure Config (σ ε : Type*) where
  state : σ
  history : List ε

/-- A configuration in which nothing has been emitted yet. -/
def start (s : σ) : Config σ ε := ⟨s, []⟩

@[simp] theorem start_state (s : σ) : (start s : Config σ ε).state = s := rfl

@[simp] theorem start_history (s : σ) : (start s : Config σ ε).history = [] := rfl

variable (M : Machine σ ι ε)

/-- One step, with its events appended to the history. -/
def next (c : Config σ ε) (i : ι) : Config σ ε :=
  ⟨(M.step c.state i).1, c.history ++ (M.step c.state i).2⟩

@[simp] theorem next_state (c : Config σ ε) (i : ι) :
    (M.next c i).state = (M.step c.state i).1 := rfl

@[simp] theorem next_history (c : Config σ ε) (i : ι) :
    (M.next c i).history = c.history ++ (M.step c.state i).2 := rfl

/-- Feed a list of inputs. -/
def run (c : Config σ ε) : List ι → Config σ ε
  | [] => c
  | i :: is => run (M.next c i) is

@[simp] theorem run_nil (c : Config σ ε) : M.run c [] = c := rfl

@[simp] theorem run_cons (c : Config σ ε) (i : ι) (is : List ι) :
    M.run c (i :: is) = M.run (M.next c i) is := rfl

variable {M} in
variable {c : Config σ ε} {is : List ι} {P C Q : Config σ ε → ι → Prop}

/-- A run in two parts. -/
theorem run_append {js : List ι} : M.run c (is ++ js) = M.run (M.run c is) js := by
  induction is generalizing c with
  | nil => rfl
  | cons i is ih =>
    rw [List.cons_append, run_cons, run_cons]
    exact ih

/-! ## Step properties along a run -/

/-- `P` holds at every step of the run: of the configuration before the step
and of the input taken. -/
def EveryStep (P : Config σ ε → ι → Prop) : Config σ ε → List ι → Prop
  | _, [] => True
  | c, i :: is => P c i ∧ EveryStep P (M.next c i) is

variable {M}

@[simp] theorem everyStep_nil : M.EveryStep P c [] := trivial

@[simp] theorem everyStep_cons {i : ι} :
    M.EveryStep P c (i :: is) ↔ P c i ∧ M.EveryStep P (M.next c i) is := Iff.rfl

/-- A step property holds along a run iff it holds wherever the input list is
split. -/
theorem everyStep_iff :
    M.EveryStep P c is ↔
      ∀ pre i post, is = pre ++ i :: post → P (M.run c pre) i := by
  induction is generalizing c with
  | nil => simp
  | cons j js ih =>
    rw [everyStep_cons, ih]
    constructor
    · rintro ⟨hj, hjs⟩ pre i post heq
      cases pre with
      | nil =>
        obtain ⟨rfl, rfl⟩ := List.cons.inj heq
        exact hj
      | cons k pre =>
        obtain ⟨rfl, htl⟩ := List.cons.inj heq
        exact hjs pre i post htl
    · intro h
      refine ⟨h [] j js rfl, fun pre i post heq => ?_⟩
      exact h (j :: pre) i post (by rw [heq]; rfl)

variable (Inv : Config σ ε → Prop)

/-- **The invariant rule.**  What holds at the start and is kept by every step holds at the end of
the run. -/
theorem run_invariant (hstep : ∀ c i, Inv c → Inv (M.next c i)) (h0 : Inv c) :
    Inv (M.run c is) := by
  induction is generalizing c with
  | nil => exact h0
  | cons i is ih => exact ih (hstep c i h0)

/-- The invariant rule for a run whose steps all meet a condition. -/
theorem run_invariant_of_everyStep (hstep : ∀ c i, Inv c → C c i → Inv (M.next c i)) (h0 : Inv c)
    (hC : M.EveryStep C c is) :
    Inv (M.run c is) := by
  induction is generalizing c with
  | nil => exact h0
  | cons i is ih => exact ih (hstep c i h0 hC.1) hC.2

/-- A step lemma under an invariant gives the step property along the run. -/
theorem everyStep_of_invariant (hstep : ∀ c i, Inv c → C c i → Inv (M.next c i))
    (hP : ∀ c i, Inv c → C c i → P c i) (h0 : Inv c) (hC : M.EveryStep C c is) :
    M.EveryStep P c is := by
  induction is generalizing c with
  | nil => exact trivial
  | cons i is ih => exact ⟨hP c i h0 hC.1, ih (hstep c i h0 hC.1) hC.2⟩

/-- Two step properties that agree under an invariant kept by every step agree
along every run. -/
theorem everyStep_congr_of_invariant (hstep : ∀ c i, Inv c → Inv (M.next c i))
    (hPQ : ∀ c i, Inv c → (P c i ↔ Q c i)) (h0 : Inv c) :
    M.EveryStep P c is ↔ M.EveryStep Q c is := by
  induction is generalizing c with
  | nil => exact Iff.rfl
  | cons i is ih =>
    rw [everyStep_cons, everyStep_cons, hPQ c i h0, ih (hstep c i h0)]

variable (M) in
/-- `P` holds in every configuration of the run, the first and the last included. -/
def EveryState (P : Config σ ε → Prop) : Config σ ε → List ι → Prop
  | c, [] => P c
  | c, i :: is => P c ∧ EveryState P (M.next c i) is

/-- What an invariant implies holds all along a run whose steps keep the invariant. -/
theorem everyState_of_invariant {P : Config σ ε → Prop}
    (hstep : ∀ c i, Inv c → C c i → Inv (M.next c i)) (hP : ∀ c, Inv c → P c) (h0 : Inv c)
    (hC : M.EveryStep C c is) : M.EveryState P c is := by
  induction is generalizing c with
  | nil => exact hP c h0
  | cons i is ih => exact ⟨hP c h0, ih (hstep c i h0 hC.1) hC.2⟩

/-- Under an invariant kept by every step: if a step condition decides whether a property
survives the step, then along a run it decides whether the property holds throughout. -/
theorem everyState_iff_everyStep_of_invariant {P : Config σ ε → Prop}
    (hinv : ∀ c i, Inv c → Inv (M.next c i)) (hstep : ∀ c i, Inv c → P c → (P (M.next c i) ↔ C c i))
    (hi : Inv c) (h0 : P c) : M.EveryState P c is ↔ M.EveryStep C c is := by
  induction is generalizing c with
  | nil => exact iff_of_true h0 trivial
  | cons i is ih =>
    rw [EveryState, everyStep_cons, ← hstep c i hi h0]
    constructor
    · rintro ⟨-, his⟩
      have hnext : P (M.next c i) := by
        cases is with
        | nil => exact his
        | cons j js => exact his.1
      exact ⟨hnext, (ih (hinv c i hi) hnext).mp his⟩
    · rintro ⟨hnext, his⟩
      exact ⟨h0, (ih (hinv c i hi) hnext).mpr his⟩

/-- The same without an invariant. -/
theorem everyState_iff_everyStep {P : Config σ ε → Prop}
    (hstep : ∀ c i, P c → (P (M.next c i) ↔ C c i)) (h0 : P c) :
    M.EveryState P c is ↔ M.EveryStep C c is :=
  everyState_iff_everyStep_of_invariant (fun _ => True) (fun _ _ _ => trivial)
    (fun c i _ => hstep c i) trivial h0

/-- What holds all along a run holds at its end. -/
theorem EveryState.last {P : Config σ ε → Prop} {c : Config σ ε} {is : List ι}
    (h : M.EveryState P c is) : P (M.run c is) := by
  induction is generalizing c with
  | nil => exact h
  | cons i is ih => exact ih h.2

theorem EveryStep.mono (hPQ : ∀ c i, P c i → Q c i) (h : M.EveryStep P c is) : M.EveryStep Q c is :=
  everyStep_iff.mpr fun pre i post heq => hPQ _ i (everyStep_iff.mp h pre i post heq)

/-- Two step properties at once. -/
theorem EveryStep.and (hP : M.EveryStep P c is) (hQ : M.EveryStep Q c is) :
    M.EveryStep (fun c i => P c i ∧ Q c i) c is :=
  everyStep_iff.mpr fun pre i post heq =>
    ⟨everyStep_iff.mp hP pre i post heq, everyStep_iff.mp hQ pre i post heq⟩

/-! ## Two machines -/

/-- **Machines in lockstep.**  Two machines that emit the same at every step, as long as their states
are related, and whose states are related after it, have the same history after a run. -/
theorem history_eq_of_related {σ' : Type*} {M : Machine σ ι ε} {M' : Machine σ' ι ε}
    {R : σ → σ' → Prop} {C : σ → ι → Prop}
    (hstep : ∀ s s' i, R s s' → C s i →
      R (M.step s i).1 (M'.step s' i).1 ∧ (M.step s i).2 = (M'.step s' i).2) {c' : Config σ' ε}
    (h0 : R c.state c'.state) (hhistory : c.history = c'.history)
    (hC : M.EveryStep (fun c i => C c.state i) c is) :
    (M.run c is).history = (M'.run c' is).history := by
  induction is generalizing c c' with
  | nil => exact hhistory
  | cons i is ih =>
    obtain ⟨hrel, hemit⟩ := hstep c.state c'.state i h0 hC.1
    refine ih hrel ?_ hC.2
    rw [next_history, next_history, hhistory, hemit]

/-! ## Histories -/

/-- Since an event with `P` there has been none with `Q`. -/
def Since (P Q : ε → Prop) (history : List ε) : Prop :=
  ∃ before e after, history = before ++ e :: after ∧ P e ∧ ∀ e' ∈ after, ¬ Q e'

/-- **One more event.** -/
theorem since_concat {P Q : ε → Prop} {history : List ε} {e : ε} :
    Since P Q (history ++ [e]) ↔ P e ∨ Since P Q history ∧ ¬ Q e := by
  constructor
  · rintro ⟨before, e', after, h, hP, hQ⟩
    induction after using List.reverseRecOn with
    | nil =>
      obtain ⟨rfl, heq⟩ := List.append_inj' h rfl
      obtain rfl := List.singleton_inj.mp heq
      exact .inl hP
    | append_singleton after last _ =>
      rw [← List.cons_append, ← List.append_assoc] at h
      obtain ⟨rfl, heq⟩ := List.append_inj' h rfl
      obtain rfl := List.singleton_inj.mp heq
      refine .inr ⟨⟨before, e', after, rfl, hP, fun x hx => hQ x (by simp [hx])⟩, hQ e (by simp)⟩
  · rintro (hP | ⟨⟨before, e', after, rfl, hP, hQ⟩, hlast⟩)
    · exact ⟨history, e, [], rfl, hP, by simp⟩
    · refine ⟨before, e', after ++ [e], by simp, hP, ?_⟩
      intro x hx
      obtain hx | hx := List.mem_append.mp hx
      · exact hQ x hx
      · rw [List.mem_singleton.mp hx]
        exact hlast

/-! ## Observers -/

/-- The machine with an observer beside it, which keeps what `f` makes of the inputs and the
emitted events.  The observer never acts on the machine. -/
def observe {μ : Type*} (M : Machine σ ι ε) (f : μ → ι → List ε → μ) : Machine (σ × μ) ι ε where
  step s i := (((M.step s.1 i).1, f s.2 i (M.step s.1 i).2), (M.step s.1 i).2)

end Machine

end Stdiolink.Lib
