/-
  Stdiolink.Lib.Assignments — values given at paths, one after another.

  An assignment is a path and a value.  `under s` are the assignments below the segment `s`,
  with the rest of their paths; `valuesAt p` are the values given at a path, in order.  Two
  lists say the same when they give the same values in the same order at every path.

  Main results:
    * `valuesAt_under`, `SameByPath.under` — going below a segment keeps what is said;
    * `SameByPath.of_perm` — where a path decides its value, the order does not matter;
    * `PrefixFree.under`, `prefixFree_of_under` — no path runs through the end of another,
      checked one segment at a time.
-/
import Mathlib.Data.List.Basic

namespace Stdiolink.Lib

section Assignments

variable {σ α : Type*} [DecidableEq σ]

/-! ## §1. Below a segment -/

/-- The assignment below a segment, if its path starts there. -/
def below (s : σ) (e : List σ × α) : Option (List σ × α) :=
  match e.1 with
  | [] => none
  | t :: rest => if t = s then some (rest, e.2) else none

/-- The assignments below a segment. -/
def under (s : σ) (es : List (List σ × α)) : List (List σ × α) := es.filterMap (below s)

variable {s : σ} {p : List σ} {es : List (List σ × α)}

theorem below_eq_some {e : List σ × α} {v : α} : below s e = some (p, v) ↔ e = (s :: p, v) := by
  obtain ⟨path, w⟩ := e
  cases path with
  | nil => simp [below]
  | cons t rest =>
    by_cases ht : t = s
    · subst ht
      simp [below]
    · simp [below, ht]

theorem mem_under {v : α} : (p, v) ∈ under s es ↔ (s :: p, v) ∈ es := by
  rw [under, List.mem_filterMap]
  constructor
  · intro h
    obtain ⟨e, he, hbelow⟩ := h
    rw [below_eq_some.mp hbelow] at he
    exact he
  · intro h
    exact ⟨_, h, below_eq_some.mpr rfl⟩

theorem under_append (s : σ) (es es' : List (List σ × α)) :
    under s (es ++ es') = under s es ++ under s es' := List.filterMap_append

@[simp] theorem under_nil (s : σ) : under s ([] : List (List σ × α)) = [] := rfl

theorem under_single_self (s : σ) (p : List σ) (v : α) : under s [(s :: p, v)] = [(p, v)] := by
  simp [under, below]

theorem under_single_of_ne {t : σ} (h : t ≠ s) (p : List σ) (v : α) :
    under s [(t :: p, v)] = [] := by
  simp [under, below, h]

theorem under_eq_nil : under s es = [] ↔ ∀ e ∈ es, ∀ p, e.1 ≠ s :: p := by
  constructor
  · intro h e he p hp
    obtain ⟨path, v⟩ := e
    subst hp
    have hmem : (p, v) ∈ under s es := mem_under.mpr he
    rw [h] at hmem
    cases hmem
  · intro h
    apply List.eq_nil_iff_forall_not_mem.mpr
    intro e he
    obtain ⟨p, v⟩ := e
    exact h _ (mem_under.mp he) p rfl

/-- The assignment with a segment in front of its path. -/
def above (s : σ) (e : List σ × α) : List σ × α := (s :: e.1, e.2)

omit [DecidableEq σ] in
@[simp] theorem above_path (s : σ) (e : List σ × α) : (above s e).1 = s :: e.1 := rfl

omit [DecidableEq σ] in
@[simp] theorem above_value (s : σ) (e : List σ × α) : (above s e).2 = e.2 := rfl

theorem under_above_self (s : σ) (es : List (List σ × α)) : under s (es.map (above s)) = es := by
  induction es with
  | nil => rfl
  | cons e rest ih =>
    show under s ([above s e] ++ rest.map (above s)) = _
    rw [under_append, ih]
    exact congrArg (· ++ rest) (under_single_self s e.1 e.2)

theorem under_above_of_ne {t : σ} (h : t ≠ s) (es : List (List σ × α)) :
    under s (es.map (above t)) = [] := by
  rw [under_eq_nil]
  intro e he p hpath
  obtain ⟨e', -, rfl⟩ := List.mem_map.mp he
  exact h (List.cons.inj hpath).1

/-! ## §2. The values at a path -/

/-- The values given at a path, in order. -/
def valuesAt (p : List σ) (es : List (List σ × α)) : List α :=
  (es.filter fun e => e.1 = p).map Prod.snd

theorem valuesAt_append (p : List σ) (es es' : List (List σ × α)) :
    valuesAt p (es ++ es') = valuesAt p es ++ valuesAt p es' := by
  rw [valuesAt, List.filter_append, List.map_append]
  rfl

/-- Going below a segment keeps the values and their order. -/
theorem valuesAt_under (s : σ) (p : List σ) (es : List (List σ × α)) :
    valuesAt p (under s es) = valuesAt (s :: p) es := by
  induction es with
  | nil => rfl
  | cons e rest ih =>
    show valuesAt p (under s ([e] ++ rest)) = valuesAt (s :: p) ([e] ++ rest)
    rw [under_append, valuesAt_append, valuesAt_append, ih]
    congr 1
    -- one assignment
    obtain ⟨path, v⟩ := e
    cases path with
    | nil => simp [under, below, valuesAt]
    | cons t path =>
      by_cases ht : t = s
      · subst ht
        by_cases hp : path = p <;> simp [under_single_self, valuesAt, hp]
      · rw [under_single_of_ne ht]
        simp [valuesAt, ht]

theorem valuesAt_eq_nil : valuesAt p es = [] ↔ ∀ e ∈ es, e.1 ≠ p := by
  rw [valuesAt, List.map_eq_nil_iff, List.filter_eq_nil_iff]
  simp

/-- The two lists give the same values in the same order at every path. -/
def SameByPath (es es' : List (List σ × α)) : Prop := ∀ p, valuesAt p es = valuesAt p es'

namespace SameByPath

variable {es es' : List (List σ × α)}

theorem symm (h : SameByPath es es') : SameByPath es' es := fun p => (h p).symm

theorem under (h : SameByPath es es') (s : σ) : SameByPath (under s es) (under s es') := by
  intro p
  rw [valuesAt_under, valuesAt_under]
  exact h (s :: p)

/-- A path that occurs on one side occurs on the other. -/
theorem exists_mem (h : SameByPath es es') {e : List σ × α} (he : e ∈ es) :
    ∃ e' ∈ es', e'.1 = e.1 := by
  by_contra hno
  have hnil : valuesAt e.1 es' = [] := by
    rw [valuesAt_eq_nil]
    intro e' he' heq
    exact hno ⟨e', he', heq⟩
  rw [← h e.1, valuesAt_eq_nil] at hnil
  exact hnil e he rfl

/-- What holds of all paths on one side holds of all on the other. -/
theorem forall_paths (h : SameByPath es es') {P : List σ → Prop} (hes : ∀ e ∈ es, P e.1) :
    ∀ e ∈ es', P e.1 := by
  intro e' he'
  obtain ⟨e, he, heq⟩ := h.symm.exists_mem he'
  rw [← heq]
  exact hes e he

theorem eq_nil (h : SameByPath es es') (hes : es = []) : es' = [] := by
  apply List.eq_nil_iff_forall_not_mem.mpr
  intro e' he'
  obtain ⟨e, he, -⟩ := h.symm.exists_mem he'
  rw [hes] at he
  cases he

/-- Where the path decides the value, the order does not matter. -/
theorem of_perm (h : es.Perm es') (hvalue : ∀ e ∈ es, ∀ f ∈ es, e.1 = f.1 → e.2 = f.2) :
    SameByPath es es' := by
  intro p
  have hperm : (valuesAt p es).Perm (valuesAt p es') := (h.filter _).map _
  cases hvalues : valuesAt p es with
  | nil =>
    rw [hvalues] at hperm
    exact hperm.nil_eq
  | cons v rest =>
    -- all values at the path are this one
    have hall : valuesAt p es = List.replicate (rest.length + 1) v := by
      rw [List.eq_replicate_iff]
      refine ⟨by rw [hvalues]; rfl, ?_⟩
      intro w hw
      have hv : v ∈ valuesAt p es := by
        rw [hvalues]
        simp
      obtain ⟨e, he, rfl⟩ := List.mem_map.mp hw
      obtain ⟨f, hf, rfl⟩ := List.mem_map.mp hv
      obtain ⟨he, hpath⟩ := List.mem_filter.mp he
      obtain ⟨hf, hpath'⟩ := List.mem_filter.mp hf
      exact hvalue e he f hf ((of_decide_eq_true hpath).trans (of_decide_eq_true hpath').symm)
    rw [hall] at hperm
    rw [← hvalues, hall]
    exact (List.perm_replicate.mp hperm.symm).symm

/-- Where there is one path only, the values are the same list. -/
theorem map_snd (h : SameByPath es es') {p : List σ} (hes : ∀ e ∈ es, e.1 = p) :
    es'.map Prod.snd = es.map Prod.snd := by
  have hall : ∀ l : List (List σ × α), (∀ e ∈ l, e.1 = p) → valuesAt p l = l.map Prod.snd := by
    intro l hl
    rw [valuesAt, List.filter_eq_self.mpr]
    intro e he
    exact decide_eq_true (hl e he)
  have hes' : ∀ e ∈ es', e.1 = p := h.forall_paths (P := fun q => q = p) hes
  rw [← hall es hes, ← hall es' hes', h p]

end SameByPath

/-! ## §3. No path through the end of another -/

/-- No path is a proper prefix of another. -/
def PrefixFree (es : List (List σ × α)) : Prop :=
  ∀ e ∈ es, ∀ e' ∈ es, e.1 <+: e'.1 → e.1 = e'.1

theorem PrefixFree.under {es : List (List σ × α)} (h : PrefixFree es) (s : σ) :
    PrefixFree (under s es) := by
  intro e he e' he' hprefix
  obtain ⟨p, v⟩ := e
  obtain ⟨p', v'⟩ := e'
  have heq := h _ (mem_under.mp he) _ (mem_under.mp he') (List.cons_prefix_cons.mpr ⟨rfl, hprefix⟩)
  exact (List.cons.inj heq).2

/-- Where every path has a first segment, it is enough to look below each. -/
theorem prefixFree_of_under (hne : ∀ e ∈ es, e.1 ≠ []) (h : ∀ s, PrefixFree (under s es)) :
    PrefixFree es := by
  intro e he e' he' hprefix
  obtain ⟨path, v⟩ := e
  obtain ⟨path', v'⟩ := e'
  cases path with
  | nil => exact absurd rfl (hne _ he)
  | cons s p =>
    cases path' with
    | nil => exact absurd rfl (hne _ he')
    | cons s' p' =>
      obtain ⟨hs, hp⟩ := List.cons_prefix_cons.mp hprefix
      subst hs
      have heq := h s (p, v) (mem_under.mpr he) (p', v') (mem_under.mpr he') hp
      show s :: p = s :: p'
      exact congrArg (s :: ·) heq

end Assignments

end Stdiolink.Lib
