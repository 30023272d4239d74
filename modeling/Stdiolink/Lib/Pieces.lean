/-
  Stdiolink.Lib.Pieces — sequences that are read piece by piece.

  A reader takes a piece off the front and makes a value of it, until nothing is left.  A piece may
  end because of what is behind it, but a piece that has ended does not depend on that, and what
  begins inside a piece ends inside it.

  Main results:
    * `read_chunks_iff` — chunks give the same apart as together exactly if a piece ends where each
      of them does.
-/
import Mathlib.Data.List.Basic

namespace Stdiolink.Lib

/-- How a sequence is read. -/
structure PieceReader (α β : Type*) where
  /-- The length of the first piece. -/
  size : List α → Nat
  value : List α → β
  size_pos : ∀ xs, xs ≠ [] → 0 < size xs
  size_le : ∀ xs, size xs ≤ xs.length
  /-- A piece that ends in `xs` does not depend on what is behind `xs`. -/
  stable : ∀ xs ys, xs ≠ [] → size (xs ++ ys) ≤ xs.length → size xs = size (xs ++ ys)
  /-- What begins inside a piece ends inside it. -/
  nested : ∀ xs k, 0 < k → k < size xs → k + size (xs.drop k) ≤ size xs

namespace PieceReader

variable {α β : Type*} (R : PieceReader α β)

/-- The values of all pieces. -/
def read : List α → List β
  | [] => []
  | x :: xs => R.value ((x :: xs).take (R.size (x :: xs))) ::
      read ((x :: xs).drop (R.size (x :: xs)))
termination_by xs => xs.length
decreasing_by
  have hpos := R.size_pos (x :: xs) (List.cons_ne_nil x xs)
  rw [List.length_drop, List.length_cons]
  omega

/-- **A piece ends where `xs` does**, when `xs` is read with `ys` behind it. -/
inductive PieceEnds : List α → List α → Prop
  | nil (ys : List α) : PieceEnds [] ys
  | piece {xs ys : List α} (hne : xs ≠ []) (hsize : R.size (xs ++ ys) ≤ xs.length)
      (hrest : PieceEnds (xs.drop (R.size (xs ++ ys))) ys) : PieceEnds xs ys

@[simp] theorem read_nil : R.read [] = [] := by
  rw [read]

variable {R}

variable {xs ys : List α}

theorem read_of_ne_nil (h : xs ≠ []) :
    R.read xs = R.value (xs.take (R.size xs)) :: R.read (xs.drop (R.size xs)) := by
  cases xs with
  | nil => contradiction
  | cons x xs => rw [read]

/-- A single piece. -/
theorem read_single (h : xs ≠ []) (hsize : R.size xs = xs.length) : R.read xs = [R.value xs] := by
  rw [read_of_ne_nil h, hsize, List.take_length, List.drop_length, read_nil]

theorem read_length_pos (h : xs ≠ []) : 0 < (R.read xs).length := by
  rw [read_of_ne_nil h, List.length_cons]
  omega

/-- The first piece of what is not empty. -/
theorem pieceEnds_iff (h : xs ≠ []) :
    R.PieceEnds xs ys ↔ R.size (xs ++ ys) ≤ xs.length ∧
      R.PieceEnds (xs.drop (R.size (xs ++ ys))) ys := by
  constructor
  · intro hends
    cases hends with
    | nil => contradiction
    | piece _ hsize hrest => exact ⟨hsize, hrest⟩
  · rintro ⟨hsize, hrest⟩
    exact .piece h hsize hrest

/-! ## §1. Two sequences -/

/-- Where a piece ends, what is behind it is read on its own. -/
theorem PieceEnds.read_append (h : R.PieceEnds xs ys) :
    R.read (xs ++ ys) = R.read xs ++ R.read ys := by
  induction h with
  | nil ys =>
    rw [read_nil]
    rfl
  | @piece xs ys hne hsize _ ih =>
    have hboth : xs ++ ys ≠ [] := by simp [hne]
    rw [read_of_ne_nil hboth, read_of_ne_nil hne, R.stable xs ys hne hsize,
      List.take_append_of_le_length hsize, List.drop_append_of_le_length hsize, ih]
    rfl

/-- From inside a piece on, there is at least one piece more than behind it. -/
theorem read_inside (xs : List α) {k : Nat} (hpos : 0 < k) (hk : k < R.size xs) :
    (R.read (xs.drop (R.size xs))).length < (R.read (xs.drop k)).length := by
  -- by induction on what of the piece is left
  induction hleft : R.size xs - k using Nat.strongRecOn generalizing k with
  | _ left ih =>
    have hle := R.size_le xs
    have hne : xs.drop k ≠ [] := by
      rw [Ne, List.drop_eq_nil_iff]
      omega
    have hsize := R.size_pos _ hne
    have hnested := R.nested xs k hpos hk
    rw [read_of_ne_nil hne, List.length_cons, List.drop_drop]
    rcases Nat.lt_or_eq_of_le hnested with hlt | heq
    · have := ih (R.size xs - (k + R.size (xs.drop k))) (by omega) (k := k + R.size (xs.drop k))
        (by omega) hlt rfl
      omega
    · rw [heq]
      omega

/-- **Two sequences**: a piece ends where the first one does, or there are more pieces apart than
together. -/
theorem ends_or_longer (xs ys : List α) :
    R.PieceEnds xs ys ∨ (R.read (xs ++ ys)).length < (R.read xs).length + (R.read ys).length := by
  induction hlength : xs.length using Nat.strongRecOn generalizing xs with
  | _ n ih =>
    by_cases hne : xs = []
    · exact .inl (hne ▸ .nil ys)
    have hboth : xs ++ ys ≠ [] := by simp [hne]
    by_cases hsize : R.size (xs ++ ys) ≤ xs.length
    · -- the first piece is in `xs`
      have hpos := R.size_pos _ hboth
      rcases ih (xs.drop (R.size (xs ++ ys))).length (by rw [List.length_drop]; omega) _ rfl
        with hends | hlonger
      · exact .inl (.piece hne hsize hends)
      · right
        rw [read_of_ne_nil hboth, read_of_ne_nil hne, R.stable xs ys hne hsize,
          List.drop_append_of_le_length hsize, List.length_cons, List.length_cons]
        omega
    · -- it reaches over the end of `xs`
      right
      have hxs := read_length_pos (R := R) hne
      have hlt : xs.length < R.size (xs ++ ys) := by omega
      have hinside := read_inside (xs ++ ys) (List.length_pos_of_ne_nil hne) hlt
      rw [List.drop_left] at hinside
      rw [read_of_ne_nil hboth, List.length_cons]
      omega

/-! ## §2. Chunks -/

theorem read_append_length_le (xs ys : List α) :
    (R.read (xs ++ ys)).length ≤ (R.read xs).length + (R.read ys).length := by
  rcases ends_or_longer xs ys with hends | hlonger
  · have hlength : (R.read (xs ++ ys)).length = (R.read xs).length + (R.read ys).length := by
      rw [hends.read_append, List.length_append]
    exact Nat.le_of_eq hlength
  · exact Nat.le_of_lt hlonger

/-- Chunks give no fewer values than the whole. -/
theorem read_flatten_length_le (chunks : List (List α)) :
    (R.read chunks.flatten).length ≤ (chunks.flatMap R.read).length := by
  induction chunks with
  | nil => simp
  | cons chunk chunks ih =>
    rw [List.flatten_cons, List.flatMap_cons, List.length_append]
    have := read_append_length_le (R := R) chunk chunks.flatten
    omega

/-- Where a piece ends, the next end may be looked for from there. -/
theorem PieceEnds.append_iff {zs : List α} (h : R.PieceEnds xs (ys ++ zs)) :
    R.PieceEnds (xs ++ ys) zs ↔ R.PieceEnds ys zs := by
  generalize hrest : ys ++ zs = rest at h
  induction h with
  | nil _ => rfl
  | @piece xs _ hne hsize _ ih =>
    subst hrest
    have hne' : xs ++ ys ≠ [] := by simp [hne]
    rw [pieceEnds_iff hne', List.append_assoc, List.drop_append_of_le_length hsize, ih rfl,
      List.length_append]
    constructor
    · exact And.right
    · exact fun hends => ⟨by omega, hends⟩

/-- A piece ends where each of the chunks does. -/
def EndsEach (R : PieceReader α β) (chunks : List (List α)) : Prop :=
  ∀ before after, chunks = before ++ after → R.PieceEnds before.flatten after.flatten

theorem endsEach_cons {chunk : List α} {chunks : List (List α)} :
    R.EndsEach (chunk :: chunks) ↔ R.PieceEnds chunk chunks.flatten ∧ R.EndsEach chunks := by
  constructor
  · intro h
    have hfirst : R.PieceEnds chunk chunks.flatten := by
      simpa using h [chunk] chunks rfl
    refine ⟨hfirst, fun before after heq => ?_⟩
    subst heq
    rw [List.flatten_append] at hfirst
    exact hfirst.append_iff.mp (h (chunk :: before) after rfl)
  · rintro ⟨hfirst, hrest⟩ before after heq
    cases before with
    | nil => exact .nil _
    | cons first before =>
      rw [List.cons_append] at heq
      obtain ⟨rfl, htail⟩ := List.cons.inj heq
      rw [htail, List.flatten_append] at hfirst
      exact hfirst.append_iff.mpr (hrest before after htail)

/-- **Chunks that are read one by one** give what the whole gives exactly if a piece ends where each
of them does. -/
theorem read_chunks_iff (chunks : List (List α)) :
    chunks.flatMap R.read = R.read chunks.flatten ↔ R.EndsEach chunks := by
  constructor
  · intro h
    have hlength : (chunks.flatMap R.read).length ≤ (R.read chunks.flatten).length :=
      Nat.le_of_eq (congrArg List.length h)
    clear h
    induction chunks with
    | nil =>
      intro before after heq
      obtain ⟨rfl, rfl⟩ := List.append_eq_nil_iff.mp heq.symm
      exact .nil _
    | cons chunk chunks ih =>
      rw [List.flatMap_cons, List.flatten_cons, List.length_append] at hlength
      have hrest := read_flatten_length_le (R := R) chunks
      have hboth := read_append_length_le (R := R) chunk chunks.flatten
      refine endsEach_cons.mpr ⟨?_, ih (by omega)⟩
      rcases ends_or_longer (R := R) chunk chunks.flatten with hends | hlonger
      · exact hends
      · omega
  · intro h
    induction chunks with
    | nil => simp
    | cons chunk chunks ih =>
      obtain ⟨hfirst, hrest⟩ := endsEach_cons.mp h
      rw [List.flatMap_cons, List.flatten_cons, hfirst.read_append, ih hrest]

end PieceReader

end Stdiolink.Lib
