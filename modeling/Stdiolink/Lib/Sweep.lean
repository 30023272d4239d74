/-
  Stdiolink.Lib.Sweep — removing elements by index, from the last to the first.

  `for (i = size - 1; i >= 0; --i) if (due(i)) removeAt(i)`: going backwards, a removal does not
  move the elements that are still to be looked at.

  Main results:
    • `sweep_eq`   — what is left, and what was removed in which order;
    • `sweep_perm` — nothing is lost and nothing is there twice;
    • `filter_kept`, `filter_eraseIdx` — the elements of one kind, when elements are removed.
-/
import Mathlib.Data.List.Induction

namespace Stdiolink.Lib

section Sweep

variable {α : Type*} (due : Nat → α → Bool)

/-- The loop from the index below `n`: what is left, and what was removed, in this order. -/
def sweepFrom : Nat → List α → List α × List α
  | 0, xs => (xs, [])
  | i + 1, xs =>
    match xs[i]? with
    | none => sweepFrom i xs
    | some x =>
      if due i x then
        let rest := sweepFrom i (xs.eraseIdx i)
        (rest.1, x :: rest.2)
      else sweepFrom i xs

/-- The whole loop. -/
def sweep (xs : List α) : List α × List α := sweepFrom due xs.length xs

/-- The elements that are not due, at their own index. -/
def kept (xs : List α) : List α := (xs.zipIdx.filter fun p => !due p.2 p.1).map Prod.fst

/-- The elements that are due. -/
def removed (xs : List α) : List α := (xs.zipIdx.filter fun p => due p.2 p.1).map Prod.fst

theorem zipIdx_concat (xs : List α) (x : α) :
    (xs ++ [x]).zipIdx = xs.zipIdx ++ [(x, xs.length)] := by
  rw [List.zipIdx_append]
  simp

theorem kept_concat (xs : List α) (x : α) :
    kept due (xs ++ [x]) = kept due xs ++ if due xs.length x then [] else [x] := by
  unfold kept
  rw [zipIdx_concat, List.filter_append, List.map_append]
  by_cases hx : due xs.length x = true
  · simp [hx]
  · simp [hx]

theorem removed_concat (xs : List α) (x : α) :
    removed due (xs ++ [x]) = removed due xs ++ if due xs.length x then [x] else [] := by
  unfold removed
  rw [zipIdx_concat, List.filter_append, List.map_append]
  by_cases hx : due xs.length x = true
  · simp [hx]
  · simp [hx]

/-- The elements behind the index have been looked at. -/
theorem sweepFrom_eq (xs done : List α) :
    sweepFrom due xs.length (xs ++ done) = (kept due xs ++ done, (removed due xs).reverse) := by
  induction xs using List.reverseRecOn generalizing done with
  | nil => rfl
  | append_singleton xs x ih =>
    have hx : (xs ++ [x] ++ done)[xs.length]? = some x := by
      rw [List.append_assoc, List.getElem?_append_right (Nat.le_refl _), Nat.sub_self]
      rfl
    have herase : (xs ++ [x] ++ done).eraseIdx xs.length = xs ++ done := by
      rw [List.append_assoc, List.eraseIdx_append_of_length_le (Nat.le_refl _), Nat.sub_self]
      rfl
    rw [List.length_append, List.length_singleton, sweepFrom, hx, kept_concat, removed_concat]
    dsimp only
    by_cases hdue : due xs.length x = true
    · rw [if_pos hdue, if_pos hdue, if_pos hdue, herase, ih, List.append_nil,
        List.reverse_append]
      rfl
    · rw [if_neg hdue, if_neg hdue, if_neg hdue, List.append_assoc, ih, List.append_nil,
        List.append_assoc]

/-- **The loop removes what is due**, the last one first. -/
theorem sweep_eq (xs : List α) : sweep due xs = (kept due xs, (removed due xs).reverse) := by
  have hall := sweepFrom_eq due xs []
  rw [List.append_nil, List.append_nil] at hall
  exact hall

variable {due}

theorem kept_sublist (xs : List α) : (kept due xs).Sublist xs := by
  have hsub := (List.filter_sublist (l := xs.zipIdx) (p := fun p => !due p.2 p.1)).map Prod.fst
  rw [List.zipIdx_map_fst] at hsub
  exact hsub

/-- **Nothing is lost.** -/
theorem sweep_perm (xs : List α) : (kept due xs ++ removed due xs).Perm xs := by
  have hperm := (List.filter_append_perm (fun p : α × Nat => !due p.2 p.1) xs.zipIdx).map Prod.fst
  rw [List.map_append, List.zipIdx_map_fst] at hperm
  simpa [kept, removed] using hperm

variable {xs : List α} {x : α} {i : Nat}

theorem mem_removed : x ∈ removed due xs ↔ ∃ i, xs[i]? = some x ∧ due i x = true := by
  simp [removed, List.mem_zipIdx_iff_getElem?]

/-! ## The elements of one kind -/

variable {P : α → Bool}

/-- A sweep that no element of the kind is due in. -/
theorem filter_kept (h : ∀ i x, xs[i]? = some x → P x = true → due i x = false) :
    (kept due xs).filter P = xs.filter P := by
  unfold kept
  rw [List.filter_map, List.filter_filter]
  have hsame : xs.zipIdx.filter (fun p => (P ∘ Prod.fst) p && !due p.2 p.1) =
      xs.zipIdx.filter (P ∘ Prod.fst) := by
    apply List.filter_congr
    intro p hp
    have hget := List.mem_zipIdx_iff_getElem?.mp hp
    show (P p.1 && !due p.2 p.1) = P p.1
    cases hP : P p.1 with
    | false => rfl
    | true =>
      rw [h p.2 p.1 hget hP]
      rfl
  rw [hsame, ← List.filter_map, List.zipIdx_map_fst]

/-- A sweep that the only element of the kind is due in. -/
theorem filter_kept_single {y : α} (hy : xs.filter P = [y]) (hx : xs[i]? = some x) (hP : P x = true)
    (hdue : due i x = true) :
    (kept due xs).filter P = [] ∧ x = y := by
  have hmem : x ∈ removed due xs := mem_removed.mpr ⟨i, hx, hdue⟩
  have hsweep : (kept due xs ++ removed due xs).Perm xs := sweep_perm xs
  have hperm := hsweep.filter P
  rw [List.filter_append, hy] at hperm
  have hlength := hperm.length_eq
  have hremoved : x ∈ (removed due xs).filter P := List.mem_filter.mpr ⟨hmem, hP⟩
  have hpos := List.length_pos_of_mem hremoved
  rw [List.length_append, List.length_singleton] at hlength
  constructor
  · exact List.length_eq_zero_iff.mp (by omega)
  · exact List.mem_singleton.mp (hperm.subset (List.mem_append_right _ hremoved))

theorem eraseIdx_split (h : xs[i]? = some x) :
    ∃ l₁ l₂, xs = l₁ ++ x :: l₂ ∧ xs.eraseIdx i = l₁ ++ l₂ := by
  obtain ⟨hi, rfl⟩ := List.getElem?_eq_some_iff.mp h
  refine ⟨xs.take i, xs.drop (i + 1), ?_, List.eraseIdx_eq_take_drop_succ xs i⟩
  rw [List.getElem_cons_drop, List.take_append_drop]

/-- An element of another kind is removed. -/
theorem filter_eraseIdx (h : xs[i]? = some x) (hP : P x = false) :
    (xs.eraseIdx i).filter P = xs.filter P := by
  obtain ⟨l₁, l₂, hxs, herase⟩ := eraseIdx_split h
  rw [herase, hxs, List.filter_append, List.filter_append, List.filter_cons_of_neg (by simp [hP])]

/-- The only element of the kind is removed. -/
theorem filter_eraseIdx_single {y : α} (hy : xs.filter P = [y]) (hx : xs[i]? = some x)
    (hP : P x = true) : (xs.eraseIdx i).filter P = [] ∧ x = y := by
  obtain ⟨l₁, l₂, hxs, herase⟩ := eraseIdx_split hx
  rw [hxs, List.filter_append, List.filter_cons_of_pos hP] at hy
  have hlength := congrArg List.length hy
  rw [List.length_append, List.length_cons, List.length_singleton] at hlength
  have hnil₁ : l₁.filter P = [] := List.length_eq_zero_iff.mp (by omega)
  have hnil₂ : l₂.filter P = [] := List.length_eq_zero_iff.mp (by omega)
  constructor
  · rw [herase, List.filter_append, hnil₁, hnil₂, List.append_nil]
  · rw [hnil₁, hnil₂] at hy
    exact List.singleton_inj.mp hy

end Sweep

end Stdiolink.Lib
