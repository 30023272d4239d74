/-
  Stdiolink.Lib.Chunks — loops that work off a buffer, and buffers that are filled in chunks.

  A round of such a loop looks at the state and at the buffer; it takes something off the buffer,
  with a new state and some output, or it ends the loop.  The buffer is worked off each time a
  chunk has been appended to it, and what is left waits for the next chunk.

  Main results:
    * `drains_iff`    — a loop whose rounds shorten the buffer ends, in one way;
    * `feed_eq_drain` — where more bytes do not change what a round does, the chunks do not matter.
-/
import Mathlib.Data.List.Basic

namespace Stdiolink.Lib

/-- How far a loop has come: the state, the output and what is left of the buffer. -/
structure Progress (σ α β : Type*) where
  state : σ
  output : List β
  rest : List α

/-- Output that came first. -/
def Progress.after {σ α β : Type*} (output : List β) (p : Progress σ α β) : Progress σ α β :=
  { p with output := output ++ p.output }

@[simp] theorem Progress.after_nil {σ α β : Type*} (p : Progress σ α β) : p.after [] = p := rfl

@[simp] theorem Progress.after_after {σ α β : Type*} (first second : List β)
    (p : Progress σ α β) : (p.after second).after first = p.after (first ++ second) := by
  simp only [Progress.after, List.append_assoc]

section Loop

variable {σ α β : Type*} (round : σ → List α → Option (Progress σ α β))

/-! ## §1. The loop -/

/-- **The loop**, as it runs: it ends with a round that says so. -/
inductive Drains : σ → List α → Progress σ α β → Prop
  | stop {s : σ} {buffer : List α} (h : round s buffer = none) : Drains s buffer ⟨s, [], buffer⟩
  | step {s : σ} {buffer : List α} {p q : Progress σ α β} (h : round s buffer = some p)
      (hrest : Drains p.state p.rest q) : Drains s buffer (q.after p.output)

/-- At most this many rounds of it. -/
def drainFor : Nat → σ → List α → Progress σ α β
  | 0, s, buffer => ⟨s, [], buffer⟩
  | n + 1, s, buffer =>
    match round s buffer with
    | none => ⟨s, [], buffer⟩
    | some p => (drainFor n p.state p.rest).after p.output

/-- As many rounds as there are bytes. -/
def drain (s : σ) (buffer : List α) : Progress σ α β := drainFor round buffer.length s buffer

/-- A round takes something off the buffer, and has nothing to do with an empty one. -/
def Shortens : Prop :=
  ∀ s buffer p, round s buffer = some p → p.rest.length < buffer.length

section Ends

variable {round} (hshort : Shortens round)

include hshort

variable {buffer : List α}

/-- So many rounds are enough. -/
theorem drains_drainFor {n : Nat} (s : σ) (hn : buffer.length ≤ n) :
    Drains round s buffer (drainFor round n s buffer) := by
  induction n generalizing s buffer with
  | zero =>
    -- the buffer is empty
    have hstop : round s buffer = none := by
      cases hround : round s buffer with
      | none => rfl
      | some p =>
        have hlt := hshort s buffer p hround
        omega
    exact .stop hstop
  | succ n ih =>
    unfold drainFor
    cases hround : round s buffer with
    | none => exact .stop hround
    | some p =>
      have hlt := hshort s buffer p hround
      exact .step hround (ih p.state (by omega))

theorem drains_drain (s : σ) (buffer : List α) : Drains round s buffer (drain round s buffer) :=
  drains_drainFor hshort s (Nat.le_refl _)

omit hshort in
/-- The loop ends in one way at most. -/
theorem Drains.unique {s : σ} {p q : Progress σ α β} (hp : Drains round s buffer p)
    (hq : Drains round s buffer q) : p = q := by
  induction hp generalizing q with
  | stop h =>
    cases hq with
    | stop => rfl
    | step h' => exact absurd (h.symm.trans h') (by simp)
  | step h _ ih =>
    cases hq with
    | stop h' => exact absurd (h'.symm.trans h) (by simp)
    | step h' hrest =>
      obtain rfl := Option.some.inj (h.symm.trans h')
      rw [ih hrest]

/-- **The loop ends**, in the one way that is computed. -/
theorem drains_iff {s : σ} {p : Progress σ α β} :
    Drains round s buffer p ↔ p = drain round s buffer := by
  constructor
  · exact fun h => h.unique (drains_drain hshort s buffer)
  · rintro rfl
    exact drains_drain hshort s buffer

/-- The loop, unrolled once. -/
theorem drain_eq (s : σ) (buffer : List α) :
    drain round s buffer =
      match round s buffer with
      | none => ⟨s, [], buffer⟩
      | some p => (drain round p.state p.rest).after p.output := by
  symm
  rw [← drains_iff hshort]
  cases hround : round s buffer with
  | none => exact .stop hround
  | some p => exact .step hround (drains_drain hshort p.state p.rest)

end Ends

/-! ## §2. Chunks -/

/-- The chunks come in one after another; after each of them the loop runs. -/
def feed (s : σ) (buffer : List α) : List (List α) → Progress σ α β
  | [] => ⟨s, [], buffer⟩
  | chunk :: chunks =>
    let p := drain round s (buffer ++ chunk)
    (feed p.state p.rest chunks).after p.output

section Cut

variable {round} {Stream : σ → List α → Prop}

/-- On these streams, a round that has something to do with a part of the stream does the same
with all of it. -/
def Steady (round : σ → List α → Option (Progress σ α β)) (Stream : σ → List α → Prop) : Prop :=
  ∀ s buffer more p, Stream s (buffer ++ more) → round s buffer = some p →
    round s (buffer ++ more) = some { p with rest := p.rest ++ more } ∧
      Stream p.state (p.rest ++ more)

variable (hshort : Shortens round) (hsteady : Steady round Stream)

include hshort hsteady

/-- The loop may run before the rest of the stream comes, or only then. -/
theorem drain_append {s : σ} {buffer : List α} {p : Progress σ α β} (h : Drains round s buffer p)
    (more : List α) (hstream : Stream s (buffer ++ more)) :
    drain round s (buffer ++ more) =
        (drain round p.state (p.rest ++ more)).after p.output ∧
      Stream p.state (p.rest ++ more) ∧ round p.state p.rest = none := by
  -- along the loop on the part: each of its rounds is one on the whole stream as well
  induction h with
  | stop h => exact ⟨rfl, hstream, h⟩
  | @step s buffer p q h _ ih =>
    obtain ⟨hmore, hstream'⟩ := hsteady s buffer more p hstream h
    obtain ⟨hdrain, hrest, hstop⟩ := ih hstream'
    refine ⟨?_, hrest, hstop⟩
    rw [drain_eq hshort, hmore]
    dsimp only
    rw [hdrain, Progress.after_after]
    rfl

/-- The chunks after a part of the stream that no round has anything to do with. -/
theorem feed_eq_drain_append (chunks : List (List α)) :
    ∀ (s : σ) (buffer : List α), round s buffer = none →
      Stream s (buffer ++ chunks.flatten) →
        feed round s buffer chunks = drain round s (buffer ++ chunks.flatten) := by
  induction chunks with
  | nil =>
    intro s buffer hstop _
    rw [List.flatten_nil, List.append_nil, drain_eq hshort, hstop]
    rfl
  | cons chunk chunks ih =>
    -- after a chunk the loop has nothing left to do, which is the hypothesis for the next one
    intro s buffer _ hstream
    rw [List.flatten_cons, ← List.append_assoc] at hstream ⊢
    obtain ⟨hdrain, hrest, hstop⟩ := drain_append hshort hsteady
      (drains_drain hshort s (buffer ++ chunk)) chunks.flatten hstream
    rw [hdrain, feed]
    rw [ih _ _ hstop hrest]

/-- **However the stream is cut**, the output is that of the whole stream. -/
theorem feed_eq_drain (s : σ) (chunks : List (List α)) (hstream : Stream s chunks.flatten) :
    feed round s [] chunks = drain round s chunks.flatten := by
  have hempty : round s [] = none := by
    cases hround : round s [] with
    | none => rfl
    | some p => exact absurd (hshort s [] p hround) (Nat.not_lt_zero _)
  exact feed_eq_drain_append hshort hsteady chunks s [] hempty hstream

end Cut

end Loop

end Stdiolink.Lib
