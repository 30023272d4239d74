/-
  Stdiolink.Lib.Passes — items that wait for one another, handled in passes.

  A pass goes over the items that are left.  An item is done, or waits for the next pass, or ends
  the loop.  The loop also ends with a pass in which nothing is done.

  Main results:
    * `passes_end`     — there is at most one pass more than there are items;
    * `ends_keeps`     — what each item that comes up keeps holds in the end;
    * `Settled.ends_ok_iff` — where the items do not get in each other's way, they are all done if
      and only if they can be put in an order in which none waits.
-/
import Mathlib.Data.Finset.Dedup
import Mathlib.Data.Finset.Lattice.Lemmas
import Mathlib.Data.Finset.SDiff
import Stdiolink.Lib.Loops

namespace Stdiolink.Lib.Passes

/-- What becomes of an item. -/
inductive Handled (σ ε : Type*) where
  | done (s : σ)
  | waits (s : σ)
  | failed (s : σ) (e : ε)

variable {σ ι ε : Type*}

section Loop

variable (handle : σ → ι → Handled σ ε)

/-- One pass: the items that wait, and how many were done. -/
def pass : σ → List ι → Except (σ × ε) (σ × List ι × Nat)
  | s, [] => .ok (s, [], 0)
  | s, a :: rest =>
    match handle s a with
    | .failed s e => .error (s, e)
    | .waits s =>
      (pass s rest).map fun (s, waiting, progress) => (s, a :: waiting, progress)
    | .done s => (pass s rest).map fun (s, waiting, progress) => (s, waiting, progress + 1)

/-- One round of the loop. -/
def round (stuck : List ι → ε) : σ × List ι → (σ × List ι) ⊕ Except (σ × ε) σ
  | (s, []) => .inr (.ok s)
  | (s, a :: rest) =>
    match pass handle s (a :: rest) with
    | .error r => .inr (.error r)
    | .ok (s, waiting, progress) =>
      if progress = 0 then .inr (.error (s, stuck waiting)) else .inl (s, waiting)

/-- In a pass over these items, `a` comes up when the state is `t`. -/
inductive MetInPass : σ → List ι → σ → ι → Prop
  | here (s : σ) (a : ι) (rest : List ι) : MetInPass s (a :: rest) s a
  | done {s s' t : σ} {a b : ι} {rest : List ι} (h : handle s a = .done s')
      (hrest : MetInPass s' rest t b) : MetInPass s (a :: rest) t b
  | waits {s s' t : σ} {a b : ι} {rest : List ι} (h : handle s a = .waits s')
      (hrest : MetInPass s' rest t b) : MetInPass s (a :: rest) t b

/-- In the passes over these items, `a` comes up when the state is `t`. -/
inductive Met (stuck : List ι → ε) : σ → List ι → σ → ι → Prop
  | first {s t : σ} {a : ι} {items : List ι} (h : MetInPass handle s items t a) :
      Met stuck s items t a
  | later {s s' t : σ} {a : ι} {items waiting : List ι}
      (hround : round handle stuck (s, items) = .inl (s', waiting))
      (h : Met stuck s' waiting t a) : Met stuck s items t a

end Loop

section Rules

variable {handle : σ → ι → Handled σ ε} {stuck : List ι → ε}

/-! ## §1. What a pass does -/

variable {s : σ} {a : ι} {waiting items : List ι}

/-- A pass that goes through, by what becomes of its first item. -/
theorem pass_cons_ok {s' : σ} {rest : List ι} {progress : Nat}
    (h : pass handle s (a :: rest) = .ok (s', waiting, progress)) :
    (∃ t waiting', handle s a = .waits t ∧ pass handle t rest = .ok (s', waiting', progress) ∧
      waiting = a :: waiting') ∨
    (∃ t progress', handle s a = .done t ∧ pass handle t rest = .ok (s', waiting, progress') ∧
      progress = progress' + 1) := by
  rw [pass] at h
  cases hone : handle s a with
  | failed t e => rw [hone] at h; cases h
  | waits t =>
    rw [hone] at h
    cases hrest : pass handle t rest with
    | error r => simp only [hrest] at h; cases h
    | ok r =>
      simp only [hrest] at h
      cases h
      exact .inl ⟨t, r.2.1, rfl, hrest, rfl⟩
  | done t =>
    rw [hone] at h
    cases hrest : pass handle t rest with
    | error r => simp only [hrest] at h; cases h
    | ok r =>
      simp only [hrest] at h
      cases h
      exact .inr ⟨t, r.2.2, rfl, hrest, rfl⟩

/-- A pass that fails, by what becomes of its first item. -/
theorem pass_cons_error {rest : List ι} {r : σ × ε} (h : pass handle s (a :: rest) = .error r) :
    handle s a = .failed r.1 r.2 ∨
    (∃ t, handle s a = .waits t ∧ pass handle t rest = .error r) ∨
    (∃ t, handle s a = .done t ∧ pass handle t rest = .error r) := by
  rw [pass] at h
  cases hone : handle s a with
  | failed t e =>
    rw [hone] at h
    cases h
    exact .inl rfl
  | waits t =>
    rw [hone] at h
    cases hrest : pass handle t rest with
    | ok r => simp only [hrest] at h; cases h
    | error r =>
      simp only [hrest] at h
      cases h
      exact .inr (.inl ⟨t, rfl, hrest⟩)
  | done t =>
    rw [hone] at h
    cases hrest : pass handle t rest with
    | ok r => simp only [hrest] at h; cases h
    | error r =>
      simp only [hrest] at h
      cases h
      exact .inr (.inr ⟨t, rfl, hrest⟩)

/-- What waits is among the items, and the others are done. -/
theorem pass_count {s' : σ} {progress : Nat} (h : pass handle s items = .ok (s', waiting, progress)) :

    waiting.Sublist items ∧ waiting.length + progress = items.length := by
  induction items generalizing s waiting progress with
  | nil =>
    cases h
    exact ⟨List.Sublist.refl _, rfl⟩
  | cons a rest ih =>
    obtain ⟨t, waiting', -, hrest, rfl⟩ | ⟨t, progress', -, hrest, rfl⟩ := pass_cons_ok h
    · obtain ⟨hsub, hcount⟩ := ih hrest
      refine ⟨hsub.cons_cons a, ?_⟩
      simp only [List.length_cons]
      omega
    · obtain ⟨hsub, hcount⟩ := ih hrest
      refine ⟨hsub.cons a, ?_⟩
      simp only [List.length_cons]
      omega

/-- A round that does not end the loop. -/
theorem round_inl {s' : σ} (h : round handle stuck (s, items) = .inl (s', waiting)) :
    ∃ progress, pass handle s items = .ok (s', waiting, progress) ∧ 0 < progress := by
  cases items with
  | nil => cases h
  | cons a rest =>
    rw [round] at h
    cases hpass : pass handle s (a :: rest) with
    | error r => simp only [hpass] at h; cases h
    | ok r =>
      obtain ⟨t, more, progress⟩ := r
      simp only [hpass] at h
      split_ifs at h with hzero
      cases h
      exact ⟨progress, rfl, Nat.pos_of_ne_zero hzero⟩

/-- A round that ends the loop. -/
theorem round_inr {o : Except (σ × ε) σ} (h : round handle stuck (s, items) = .inr o) :
    (items = [] ∧ o = .ok s) ∨
    (∃ r, pass handle s items = .error r ∧ o = .error r) ∨
    (∃ t waiting, items ≠ [] ∧ pass handle s items = .ok (t, waiting, 0) ∧
      o = .error (t, stuck waiting)) := by
  cases items with
  | nil =>
    cases h
    exact .inl ⟨rfl, rfl⟩
  | cons a rest =>
    rw [round] at h
    cases hpass : pass handle s (a :: rest) with
    | error r =>
      simp only [hpass] at h
      cases h
      exact .inr (.inl ⟨r, rfl, rfl⟩)
    | ok r =>
      obtain ⟨t, waiting, progress⟩ := r
      simp only [hpass] at h
      split_ifs at h with hzero
      cases h
      exact .inr (.inr ⟨t, waiting, List.cons_ne_nil a rest, by rw [hzero], rfl⟩)

/-- **The passes end.** -/
theorem passes_end (s : σ) (items : List ι) :
    ∃ n o, Ends (round handle stuck) (s, items) n o ∧ n ≤ items.length + 1 := by
  apply ends_of_variant (fun _ => True) (fun c : σ × List ι => c.2.length) _ (s, items) trivial
  rintro ⟨t, left⟩ ⟨t', waiting⟩ - hround
  obtain ⟨progress, hpass, hpos⟩ := round_inl hround
  have hcount := (pass_count hpass).2
  exact ⟨trivial, by simp only; omega⟩

theorem MetInPass.mem {t : σ} (h : MetInPass handle s items t a) : a ∈ items := by
  induction h with
  | here s a rest => exact List.mem_cons_self
  | done _ _ ih => exact List.mem_cons_of_mem _ ih
  | waits _ _ ih => exact List.mem_cons_of_mem _ ih

/-- What comes up is among the items. -/
theorem Met.mem {t : σ} (h : Met handle stuck s items t a) : a ∈ items := by
  induction h with
  | first h => exact h.mem
  | later hround _ ih =>
    obtain ⟨progress, hpass, -⟩ := round_inl hround
    exact (pass_count hpass).1.mem ih

/-! ## §2. What every item keeps -/

section Keeps

variable {P : σ → Prop} {F : σ → ε → Prop}

/-- What an item that comes up keeps. -/
def KeepsAt (handle : σ → ι → Handled σ ε) (P : σ → Prop) (F : σ → ε → Prop) (t : σ) (a : ι) :
    Prop :=
  P t → (∀ t', handle t a = .done t' ∨ handle t a = .waits t' → P t') ∧
    ∀ t' e, handle t a = .failed t' e → F t' e

theorem pass_keeps {s : σ} {items : List ι} (hP : P s)
    (hkeep : ∀ t a, MetInPass handle s items t a → KeepsAt handle P F t a) :
    (∀ t waiting progress, pass handle s items = .ok (t, waiting, progress) → P t) ∧
      ∀ t e, pass handle s items = .error (t, e) → F t e := by
  induction items generalizing s with
  | nil =>
    refine ⟨fun t waiting progress h => ?_, fun t e h => ?_⟩
    · cases h
      exact hP
    · cases h
  | cons a rest ih =>
    obtain ⟨hgoes, hfails⟩ := hkeep s a (.here s a rest) hP
    constructor
    · intro t waiting progress h
      obtain ⟨u, waiting', hone, hrest, -⟩ | ⟨u, progress', hone, hrest, -⟩ := pass_cons_ok h
      · exact (ih (hgoes u (.inr hone)) fun t b hmet => hkeep t b (.waits hone hmet)).1 t _ _ hrest
      · exact (ih (hgoes u (.inl hone)) fun t b hmet => hkeep t b (.done hone hmet)).1 t _ _ hrest
    · intro t e h
      obtain hone | ⟨u, hone, hrest⟩ | ⟨u, hone, hrest⟩ := pass_cons_error h
      · exact hfails t e hone
      · exact (ih (hgoes u (.inr hone)) fun t b hmet => hkeep t b (.waits hone hmet)).2 t e hrest
      · exact (ih (hgoes u (.inl hone)) fun t b hmet => hkeep t b (.done hone hmet)).2 t e hrest

/-- **What every item keeps** that comes up in the passes. -/
theorem ends_keeps {c : σ × List ι} {n : Nat} {o : Except (σ × ε) σ}
    (h : Ends (round handle stuck) c n o) (hP : P c.1)
    (hkeep : ∀ t a, Met handle stuck c.1 c.2 t a → KeepsAt handle P F t a)
    (hstuck : ∀ t waiting, P t → F t (stuck waiting)) :
    (∀ t, o = .ok t → P t) ∧ ∀ t e, o = .error (t, e) → F t e := by
  induction h with
  | @last c o hround =>
    obtain ⟨s, items⟩ := c
    have hpass := pass_keeps hP fun t a hmet => hkeep t a (.first hmet)
    obtain ⟨-, rfl⟩ | ⟨r, hr, rfl⟩ | ⟨t, waiting, -, hr, rfl⟩ := round_inr hround
    · refine ⟨fun t ht => ?_, nofun⟩
      cases ht
      exact hP
    · refine ⟨nofun, fun t e he => ?_⟩
      cases he
      exact hpass.2 t e hr
    · refine ⟨nofun, fun t e he => ?_⟩
      cases he
      exact hstuck t waiting (hpass.1 t waiting 0 hr)
  | @step c c' n o hround _ ih =>
    obtain ⟨s, items⟩ := c
    obtain ⟨s', waiting⟩ := c'
    have hpass := pass_keeps hP fun t a hmet => hkeep t a (.first hmet)
    obtain ⟨progress, hr, -⟩ := round_inl hround
    exact ih (hpass.1 s' waiting progress hr) fun t a hmet => hkeep t a (.later hround hmet)

end Keeps

/-! ## §3. Items that do not get in each other's way -/

/-- The items in turn, and none waits. -/
inductive Runs (handle : σ → ι → Handled σ ε) : σ → List ι → σ → Prop
  | nil (s : σ) : Runs handle s [] s
  | cons {s t u : σ} {a : ι} {rest : List ι} (h : handle s a = .done t)
      (hrest : Runs handle t rest u) : Runs handle s (a :: rest) u

variable [DecidableEq ι]

/-- **Items that do not get in each other's way**: when some of them are done, what becomes of
another one depends on which these are at most in that it may have to wait. -/
structure Settled (handle : σ → ι → Handled σ ε) (items : Finset ι) (At : Finset ι → σ → Prop)
    (Ready : Finset ι → ι → Prop) (Good : ι → Prop) : Prop where
  mono : ∀ {S T a}, S ⊆ T → T ⊆ items → a ∈ items → Ready S a → Ready T a
  done : ∀ {S s a}, At S s → S ⊆ items → a ∈ items → a ∉ S → Ready S a → Good a →
    ∃ t, handle s a = .done t ∧ At (insert a S) t
  failed : ∀ {S s a}, At S s → S ⊆ items → a ∈ items → a ∉ S → Ready S a → ¬Good a →
    ∃ t e, handle s a = .failed t e
  waits : ∀ {S s a}, At S s → S ⊆ items → a ∈ items → a ∉ S → ¬Ready S a →
    ∃ t, handle s a = .waits t ∧ At S t

variable {items : Finset ι} {At : Finset ι → σ → Prop} {Ready : Finset ι → ι → Prop}
  {Good : ι → Prop}

/-- An order in which each item is good, and ready when its turn comes. -/
def Orderly (Ready : Finset ι → ι → Prop) (Good : ι → Prop) : Finset ι → List ι → Prop
  | _, [] => True
  | S, a :: rest => Ready S a ∧ Good a ∧ Orderly Ready Good (insert a S) rest

namespace Orderly

variable {S : Finset ι}

theorem append {first rest : List ι} (h : Orderly Ready Good S first)
    (hrest : Orderly Ready Good (S ∪ first.toFinset) rest) :
    Orderly Ready Good S (first ++ rest) := by
  induction first generalizing S with
  | nil =>
    rw [List.toFinset_nil, Finset.union_empty] at hrest
    exact hrest
  | cons a first ih =>
    obtain ⟨hready, hgood, h⟩ := h
    refine ⟨hready, hgood, ih h ?_⟩
    rw [List.toFinset_cons, Finset.union_insert, ← Finset.insert_union] at hrest
    exact hrest

theorem good {order : List ι} (h : Orderly Ready Good S order) {a : ι} (ha : a ∈ order) :
    Good a := by
  induction order generalizing S with
  | nil => cases ha
  | cons b rest ih =>
    obtain ⟨-, hgood, h⟩ := h
    obtain rfl | ha := List.mem_cons.mp ha
    · exact hgood
    · exact ih h ha

/-- Of some of the items, the one that comes first is ready when all the others are done. -/
theorem first_ready (hmono : ∀ {S T a}, S ⊆ T → T ⊆ items → a ∈ items → Ready S a → Ready T a)
    {order W : List ι} (h : Orderly Ready Good S order) (horder : ∀ a ∈ order, a ∈ items)
    (hW : ∃ a ∈ order, a ∈ W) (hS : S ⊆ items \ W.toFinset) :
    ∃ a ∈ W, Ready (items \ W.toFinset) a := by
  induction order generalizing S with
  | nil =>
    obtain ⟨a, ha, -⟩ := hW
    cases ha
  | cons b rest ih =>
    obtain ⟨hready, -, h⟩ := h
    have hb := horder b List.mem_cons_self
    by_cases hbW : b ∈ W
    · exact ⟨b, hbW, hmono hS Finset.sdiff_subset hb hready⟩
    · refine ih h (fun a ha => horder a (List.mem_cons_of_mem b ha)) ?_ ?_
      · obtain ⟨a, ha, haW⟩ := hW
        obtain rfl | ha := List.mem_cons.mp ha
        · exact absurd haW hbW
        · exact ⟨a, ha, haW⟩
      · refine Finset.insert_subset ?_ hS
        simp [hb, hbW]

end Orderly

/-- Items that are left when those of `S` are done. -/
structure Left (items S : Finset ι) (left : List ι) : Prop where
  nodup : left.Nodup
  mem : ∀ a ∈ left, a ∈ items
  fresh : ∀ a ∈ left, a ∉ S

namespace Left

variable {S : Finset ι} {a : ι} {rest : List ι}

omit [DecidableEq ι] in
theorem head (h : Left items S (a :: rest)) : a ∈ items ∧ a ∉ S :=
  ⟨h.mem a List.mem_cons_self, h.fresh a List.mem_cons_self⟩

omit [DecidableEq ι] in
theorem waits (h : Left items S (a :: rest)) : Left items S rest :=
  ⟨(List.nodup_cons.mp h.nodup).2, fun b hb => h.mem b (List.mem_cons_of_mem a hb),
    fun b hb => h.fresh b (List.mem_cons_of_mem a hb)⟩

theorem done (h : Left items S (a :: rest)) : Left items (insert a S) rest := by
  refine ⟨h.waits.nodup, h.waits.mem, ?_⟩
  intro b hb
  rw [Finset.mem_insert, not_or]
  refine ⟨?_, h.waits.fresh b hb⟩
  rintro rfl
  exact (List.nodup_cons.mp h.nodup).1 hb

omit [DecidableEq ι] in
theorem perm {left left' : List ι} (h : Left items S left) (hperm : left.Perm left') :
    Left items S left' :=
  ⟨hperm.nodup h.nodup, fun a ha => h.mem a (hperm.mem_iff.mpr ha),
    fun a ha => h.fresh a (hperm.mem_iff.mpr ha)⟩

theorem append {first : List ι} (h : Left items S (first ++ rest)) (hS : S ⊆ items) :
    S ∪ first.toFinset ⊆ items ∧ Left items (S ∪ first.toFinset) rest := by
  induction first generalizing S with
  | nil =>
    rw [List.toFinset_nil, Finset.union_empty]
    exact ⟨hS, h⟩
  | cons a first ih =>
    rw [List.toFinset_cons, Finset.union_insert, ← Finset.insert_union]
    exact ih h.done (Finset.insert_subset h.head.1 hS)

end Left

namespace Settled

variable (h : Settled handle items At Ready Good)
include h

variable {S : Finset ι} {s : σ} {left : List ι} {n : Nat} {o : Except (σ × ε) σ}

/-- What is done was ready and good. -/
theorem of_done {t : σ} {a : ι} (hs : At S s) (hS : S ⊆ items) (ha : a ∈ items) (hnew : a ∉ S)
    (hone : handle s a = .done t) :
    Ready S a ∧ Good a ∧ At (insert a S) t := by
  by_cases hready : Ready S a
  · by_cases hgood : Good a
    · obtain ⟨t', ht', hat⟩ := h.done hs hS ha hnew hready hgood
      rw [hone] at ht'
      cases ht'
      exact ⟨hready, hgood, hat⟩
    · obtain ⟨t', e, ht'⟩ := h.failed hs hS ha hnew hready hgood
      rw [hone] at ht'
      cases ht'
  · obtain ⟨t', ht', -⟩ := h.waits hs hS ha hnew hready
    rw [hone] at ht'
    cases ht'

/-- What waits was not ready. -/
theorem of_waits {t : σ} {a : ι} (hs : At S s) (hS : S ⊆ items) (ha : a ∈ items) (hnew : a ∉ S)
    (hone : handle s a = .waits t) : ¬Ready S a ∧ At S t := by
  by_cases hready : Ready S a
  · by_cases hgood : Good a
    · obtain ⟨t', ht', hat⟩ := h.done hs hS ha hnew hready hgood
      rw [hone] at ht'
      cases ht'
    · obtain ⟨t', e, ht'⟩ := h.failed hs hS ha hnew hready hgood
      rw [hone] at ht'
      cases ht'
  · obtain ⟨t', ht', hat⟩ := h.waits hs hS ha hnew hready
    rw [hone] at ht'
    cases ht'
    exact ⟨hready, hat⟩

/-- Items that are done in an order. -/
theorem of_runs {order : List ι} {t : σ} (hruns : Runs handle s order t) (hs : At S s)
    (hS : S ⊆ items) (hleft : Left items S order) :
    Orderly Ready Good S order ∧ At (S ∪ order.toFinset) t := by
  induction hruns generalizing S with
  | nil s =>
    rw [List.toFinset_nil, Finset.union_empty]
    exact ⟨trivial, hs⟩
  | cons hone _ ih =>
    obtain ⟨ha, hnew⟩ := hleft.head
    obtain ⟨hready, hgood, hat⟩ := h.of_done hs hS ha hnew hone
    obtain ⟨horderly, hend⟩ := ih hat (Finset.insert_subset ha hS) hleft.done
    rw [List.toFinset_cons, Finset.union_insert, ← Finset.insert_union]
    exact ⟨⟨hready, hgood, horderly⟩, hend⟩

/-- The items in an order. -/
theorem runs_iff {order : List ι} (hs : At S s) (hS : S ⊆ items) (hleft : Left items S order) :
    (∃ t, Runs handle s order t) ↔ Orderly Ready Good S order := by
  constructor
  · rintro ⟨t, hruns⟩
    exact (h.of_runs hruns hs hS hleft).1
  · intro horderly
    induction order generalizing S s with
    | nil => exact ⟨s, .nil s⟩
    | cons a rest ih =>
      obtain ⟨ha, hnew⟩ := hleft.head
      obtain ⟨hready, hgood, hrest⟩ := horderly
      obtain ⟨t, hone, hat⟩ := h.done hs hS ha hnew hready hgood
      obtain ⟨u, hruns⟩ := ih hat (Finset.insert_subset ha hS) hleft.done hrest
      exact ⟨u, .cons hone hruns⟩

/-- A pass that goes through has an order for what it does, and what waits was not ready. -/
theorem of_pass_ok {t : σ} {waiting : List ι} {progress : Nat} (hs : At S s) (hS : S ⊆ items)
    (hleft : Left items S left) (hpass : pass handle s left = .ok (t, waiting, progress)) :
    ∃ order, (order ++ waiting).Perm left ∧ Orderly Ready Good S order ∧
      At (S ∪ order.toFinset) t ∧ ∀ a ∈ waiting, ¬Ready S a := by
  induction left generalizing S s waiting progress with
  | nil =>
    cases hpass
    refine ⟨[], List.Perm.refl _, trivial, ?_, by simp⟩
    rw [List.toFinset_nil, Finset.union_empty]
    exact hs
  | cons a rest ih =>
    obtain ⟨ha, hnew⟩ := hleft.head
    obtain ⟨u, waiting', hone, hrest, rfl⟩ | ⟨u, progress', hone, hrest, rfl⟩ :=
      pass_cons_ok hpass
    · obtain ⟨hready, hu⟩ := h.of_waits hs hS ha hnew hone
      obtain ⟨order, hperm, horderly, hat, hwaits⟩ := ih hu hS hleft.waits hrest
      refine ⟨order, List.perm_middle.trans (hperm.cons a), horderly, hat, ?_⟩
      intro b hb
      obtain rfl | hb := List.mem_cons.mp hb
      · exact hready
      · exact hwaits b hb
    · obtain ⟨hready, hgood, hu⟩ := h.of_done hs hS ha hnew hone
      have hS' : insert a S ⊆ items := Finset.insert_subset ha hS
      obtain ⟨order, hperm, horderly, hat, hwaits⟩ := ih hu hS' hleft.done hrest
      refine ⟨a :: order, hperm.cons a, ⟨hready, hgood, horderly⟩, ?_, ?_⟩
      · rw [List.toFinset_cons, Finset.union_insert, ← Finset.insert_union]
        exact hat
      · intro b hb hreadyb
        have hmem := hperm.mem_iff.mp (List.mem_append_right order hb)
        exact hwaits b hb (h.mono (Finset.subset_insert a S) hS' (hleft.done.mem b hmem) hreadyb)

/-- A pass that fails meets an item that is not good. -/
theorem of_pass_error {r : σ × ε} (hs : At S s) (hS : S ⊆ items) (hleft : Left items S left)
    (hpass : pass handle s left = .error r) :
    ∃ a ∈ left, ¬Good a := by
  induction left generalizing S s with
  | nil => cases hpass
  | cons a rest ih =>
    obtain ⟨ha, hnew⟩ := hleft.head
    obtain hone | ⟨u, hone, hrest⟩ | ⟨u, hone, hrest⟩ := pass_cons_error hpass
    · refine ⟨a, List.mem_cons_self, fun hgood => ?_⟩
      by_cases hready : Ready S a
      · obtain ⟨t, ht, -⟩ := h.done hs hS ha hnew hready hgood
        rw [hone] at ht
        cases ht
      · obtain ⟨t, ht, -⟩ := h.waits hs hS ha hnew hready
        rw [hone] at ht
        cases ht
    · obtain ⟨-, hu⟩ := h.of_waits hs hS ha hnew hone
      obtain ⟨b, hb, hbad⟩ := ih hu hS hleft.waits hrest
      exact ⟨b, List.mem_cons_of_mem a hb, hbad⟩
    · obtain ⟨-, -, hu⟩ := h.of_done hs hS ha hnew hone
      obtain ⟨b, hb, hbad⟩ := ih hu (Finset.insert_subset ha hS) hleft.done hrest
      exact ⟨b, List.mem_cons_of_mem a hb, hbad⟩

/-- Passes that go through have an order, and do all items. -/
theorem of_ends_ok {c : σ × List ι} (hends : Ends (round handle stuck) c n o) (hs : At S c.1)
    (hS : S ⊆ items) (hleft : Left items S c.2) {t : σ} (ho : o = .ok t) :
    ∃ order, order.Perm c.2 ∧ Orderly Ready Good S order ∧ At (S ∪ c.2.toFinset) t := by
  induction hends generalizing S with
  | @last c o hround =>
    obtain ⟨s, left⟩ := c
    obtain ⟨rfl, heq⟩ | ⟨r, -, heq⟩ | ⟨u, waiting, -, -, heq⟩ := round_inr hround
    · rw [heq] at ho
      cases ho
      refine ⟨[], List.Perm.refl _, trivial, ?_⟩
      rw [List.toFinset_nil, Finset.union_empty]
      exact hs
    · rw [heq] at ho
      cases ho
    · rw [heq] at ho
      cases ho
  | @step c c' n o hround _ ih =>
    obtain ⟨s, left⟩ := c
    obtain ⟨s', waiting⟩ := c'
    obtain ⟨progress, hpass, -⟩ := round_inl hround
    obtain ⟨first, hperm, horderly, hat, -⟩ := h.of_pass_ok hs hS hleft hpass
    obtain ⟨hS', hleft'⟩ := (hleft.perm hperm.symm).append hS
    obtain ⟨order, hperm', horderly', hat'⟩ := ih hat hS' hleft' ho
    refine ⟨first ++ order, (hperm'.append_left first).trans hperm,
      horderly.append horderly', ?_⟩
    rw [← List.toFinset_eq_of_perm _ _ hperm, List.toFinset_append, ← Finset.union_assoc]
    exact hat'

/-- **Passes over items that can be put in an order go through**: in each pass something is done,
since the first in the order of those that are left need not wait. -/
theorem of_orderly {c : σ × List ι} (hends : Ends (round handle stuck) c n o) (hs : At S c.1)
    (hS : S ⊆ items) (hleft : Left items S c.2) (hall : items ⊆ S ∪ c.2.toFinset) {order : List ι}
    (horder : Orderly Ready Good ∅ order) (hperm : ∀ a, a ∈ order ↔ a ∈ items) :
    ∃ t, o = .ok t := by
  induction hends generalizing S with
  | @last c o hround =>
    obtain ⟨s, left⟩ := c
    obtain ⟨rfl, heq⟩ | ⟨r, hpass, heq⟩ | ⟨u, waiting, hne, hpass, heq⟩ := round_inr hround
    · exact ⟨s, heq⟩
    · obtain ⟨a, ha, hbad⟩ := h.of_pass_error hs hS hleft hpass
      exact absurd (horder.good ((hperm a).mpr (hleft.mem a ha))) hbad
    · -- nothing was done, and all wait
      obtain ⟨hsub, hcount⟩ := pass_count hpass
      obtain rfl : waiting = left := hsub.eq_of_length (by omega)
      obtain ⟨-, -, -, -, hwaits⟩ := h.of_pass_ok hs hS hleft hpass
      obtain ⟨b, hb⟩ := List.exists_mem_of_ne_nil _ hne
      obtain ⟨a, ha, hready⟩ := horder.first_ready h.mono (fun a ha => (hperm a).mp ha)
        ⟨b, (hperm b).mpr (hleft.mem b hb), hb⟩ (by simp)
      refine absurd (h.mono ?_ hS (hleft.mem a ha) hready) (hwaits a ha)
      intro c hc
      obtain ⟨hc, hnot⟩ := Finset.mem_sdiff.mp hc
      obtain hc | hc := Finset.mem_union.mp (hall hc)
      · exact hc
      · exact absurd hc hnot
  | @step c c' n o hround _ ih =>
    obtain ⟨s, left⟩ := c
    obtain ⟨s', waiting⟩ := c'
    obtain ⟨progress, hpass, -⟩ := round_inl hround
    obtain ⟨first, hperm', -, hat, -⟩ := h.of_pass_ok hs hS hleft hpass
    obtain ⟨hS', hleft'⟩ := (hleft.perm hperm'.symm).append hS
    refine ih hat hS' hleft' ?_
    rw [Finset.union_assoc, ← List.toFinset_append, List.toFinset_eq_of_perm _ _ hperm']
    exact hall

/-- **All items are done if and only if they can be put in an order in which none waits**, and
then it does not matter which. -/
theorem ends_ok_iff (hs : At ∅ s) (hnodup : left.Nodup) (hitems : left.toFinset = items)
    (hends : Ends (round handle stuck) (s, left) n o) :
    ((∃ t, o = .ok t) ↔ ∃ order t, order.Perm left ∧ Runs handle s order t) ∧
      ∀ t, o = .ok t → At items t := by
  have hmem : ∀ a, a ∈ left ↔ a ∈ items := fun a => by rw [← hitems, List.mem_toFinset]
  have hleft : Left items ∅ left := ⟨hnodup, fun a ha => (hmem a).mp ha, by simp⟩
  have hruns : ∀ {order : List ι}, order.Perm left →
      ((∃ t, Runs handle s order t) ↔ Orderly Ready Good ∅ order) := fun hperm =>
    h.runs_iff hs (Finset.empty_subset items) (hleft.perm hperm.symm)
  have hok : ∀ t, o = .ok t →
      ∃ order, order.Perm left ∧ Orderly Ready Good ∅ order ∧ At (∅ ∪ left.toFinset) t :=
    fun t ht => h.of_ends_ok hends hs (Finset.empty_subset items) hleft ht
  refine ⟨⟨?_, ?_⟩, ?_⟩
  · rintro ⟨t, ht⟩
    obtain ⟨order, hperm, horderly, -⟩ := hok t ht
    obtain ⟨u, hu⟩ := (hruns hperm).mpr horderly
    exact ⟨order, u, hperm, hu⟩
  · rintro ⟨order, u, hperm, hu⟩
    refine h.of_orderly hends hs (Finset.empty_subset items) hleft ?_
      ((hruns hperm).mp ⟨u, hu⟩) fun a => (hperm.mem_iff).trans (hmem a)
    rw [Finset.empty_union, hitems]
  · intro t ht
    obtain ⟨order, -, -, hat⟩ := hok t ht
    rw [Finset.empty_union, hitems] at hat
    exact hat

end Settled

end Rules

end Stdiolink.Lib.Passes
