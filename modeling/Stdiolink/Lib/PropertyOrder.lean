/-
  Stdiolink.Lib.PropertyOrder — objects whose properties have an order.

  The own properties of a JavaScript object come in an order of their own: names that are array
  indexes first, by size, and then the others as they were created.  An object is the list of its
  properties in that order.  Assigning to `__proto__` creates no property.

  Main results:
    * `ofEntries_eq` — properties that are assigned in order, under different names, are the object;
    * `ofEntries_perm` — in another order they are all there;
    * `mem_names_ofEntries` — and nothing else.
-/
import Mathlib.Data.List.Basic
import Mathlib.Data.List.Induction
import Mathlib.Data.List.Perm.Basic
import Mathlib.Data.List.Nodup
import Mathlib.Data.List.TakeWhile

namespace Stdiolink.Lib

variable {α : Type*}

/-- The array index that a name spells: decimal digits without a leading zero, below 2³² - 1. -/
def arrayIndex? (name : String) : Option Nat :=
  let digits := name.toList
  let n := digits.foldl (fun n c => 10 * n + (c.toNat - 48)) 0
  if digits ≠ [] ∧ digits.all Char.isDigit ∧ (digits.head? = some '0' → digits = ['0']) ∧
      n < 4294967295 then some n
  else none

/-- Whether a new property `b` goes behind `a`: indexes are sorted by size and come before all other
names, which stay as they were created. -/
def comesBefore (a b : String) : Bool :=
  match arrayIndex? a, arrayIndex? b with
  | some m, some n => m < n
  | none, some _ => false
  | _, none => true

/-- `obj[name] = value`. -/
def assign (obj : List (String × α)) (name : String) (value : α) : List (String × α) :=
  if name = "__proto__" then obj
  else if name ∈ obj.map Prod.fst then
    obj.map fun entry => if entry.1 = name then (name, value) else entry
  else
    obj.takeWhile (fun entry => comesBefore entry.1 name) ++
      (name, value) :: obj.dropWhile (fun entry => comesBefore entry.1 name)

/-- An object to which these are assigned, one after another. -/
def ofEntries (entries : List (String × α)) : List (String × α) :=
  entries.foldl (fun obj entry => assign obj entry.1 entry.2) []

/-- The properties of an object that was read: their names are different and in order. -/
structure Proper (entries : List (String × α)) : Prop where
  nodup : (entries.map Prod.fst).Nodup
  ordered : (entries.map Prod.fst).Pairwise (comesBefore · ·)
  plain : "__proto__" ∉ entries.map Prod.fst

theorem Proper.nil : Proper ([] : List (String × α)) :=
  ⟨List.nodup_nil, .nil, List.not_mem_nil⟩

variable {entries obj : List (String × α)} {name : String}

/-- The conditions are about the names alone. -/
theorem Proper.congr {β : Type*} {entries' : List (String × β)} (h : Proper entries)
    (hnames : entries'.map Prod.fst = entries.map Prod.fst) :
    Proper entries' := by
  obtain ⟨hnodup, hordered, hplain⟩ := h
  rw [← hnames] at hnodup hordered hplain
  exact ⟨hnodup, hordered, hplain⟩

/-- A property that belongs behind all others is appended. -/
theorem assign_last {value : α} (hplain : name ≠ "__proto__") (hnew : name ∉ obj.map Prod.fst)
    (hlast : ∀ other ∈ obj.map Prod.fst, comesBefore other name = true) :
    assign obj name value = obj ++ [(name, value)] := by
  have hall : ∀ entry ∈ obj, comesBefore entry.1 name = true := by
    intro entry hentry
    exact hlast entry.1 (List.mem_map_of_mem hentry)
  unfold assign
  rw [if_neg hplain, if_neg hnew, List.takeWhile_eq_self_iff.mpr hall,
    List.dropWhile_eq_nil_iff.mpr hall]

/-- **Properties that are assigned in order are the object.** -/
theorem ofEntries_eq (h : Proper entries) : ofEntries entries = entries := by
  induction entries using List.reverseRecOn with
  | nil => rfl
  | append_singleton entries entry ih =>
    obtain ⟨hnodup, hordered, hplain⟩ := h
    rw [List.map_append, List.map_singleton] at hnodup hordered hplain
    rw [List.pairwise_append] at hordered
    rw [List.mem_append, not_or] at hplain
    have hinit : Proper entries := ⟨hnodup.of_append_left, hordered.1, hplain.1⟩
    unfold ofEntries at ih ⊢
    rw [List.foldl_append, ih hinit]
    show assign entries entry.1 entry.2 = _
    apply assign_last
    · exact fun heq => hplain.2 (heq ▸ List.mem_singleton_self _)
    · exact List.disjoint_right.mp (List.disjoint_of_nodup_append hnodup)
        (List.mem_singleton_self _)
    · exact fun other hother => hordered.2.2 other hother entry.1 (List.mem_singleton_self _)

/-- Whatever the order, a new name adds its property and nothing else. -/
theorem assign_perm (value : α) (hplain : name ≠ "__proto__") (hnew : name ∉ obj.map Prod.fst) :
    (assign obj name value).Perm (obj ++ [(name, value)]) := by
  unfold assign
  rw [if_neg hplain, if_neg hnew]
  apply List.perm_middle.trans
  rw [List.takeWhile_append_dropWhile]
  exact (List.perm_append_singleton _ _).symm

/-- **Properties under different names are all there**, in whichever order. -/
theorem ofEntries_perm (hnodup : (entries.map Prod.fst).Nodup)
    (hplain : "__proto__" ∉ entries.map Prod.fst) : (ofEntries entries).Perm entries := by
  induction entries using List.reverseRecOn with
  | nil => exact .refl _
  | append_singleton entries entry ih =>
    rw [List.map_append, List.map_singleton] at hnodup hplain
    rw [List.mem_append, not_or] at hplain
    have hinit := ih hnodup.of_append_left hplain.1
    have hnew : entry.1 ∉ (ofEntries entries).map Prod.fst := by
      rw [(hinit.map Prod.fst).mem_iff]
      exact List.disjoint_right.mp (List.disjoint_of_nodup_append hnodup)
        (List.mem_singleton_self _)
    unfold ofEntries at hinit hnew ⊢
    rw [List.foldl_append]
    have hassign := assign_perm entry.2
      (fun heq => hplain.2 (heq ▸ List.mem_singleton_self _)) hnew
    exact hassign.trans (hinit.append_right _)

/-- The names after an assignment. -/
theorem mem_names_assign {other : String} {value : α} :
    other ∈ (assign obj name value).map Prod.fst ↔
      other ∈ obj.map Prod.fst ∨ other = name ∧ name ≠ "__proto__" := by
  by_cases hplain : name = "__proto__"
  · rw [assign, if_pos hplain]
    simp [hplain]
  by_cases hold : name ∈ obj.map Prod.fst
  · have hnames : (obj.map fun entry => if entry.1 = name then (name, value) else entry).map
        Prod.fst = obj.map Prod.fst := by
      rw [List.map_map]
      apply List.map_congr_left
      intro entry _
      show (if entry.1 = name then (name, value) else entry).1 = entry.1
      split_ifs with h
      · exact h.symm
      · rfl
    rw [assign, if_neg hplain, if_pos hold, hnames]
    constructor
    · exact Or.inl
    · rintro (h | ⟨rfl, -⟩)
      · exact h
      · exact hold
  · rw [((assign_perm value hplain hold).map Prod.fst).mem_iff]
    simp [hplain]

/-- The names of what was assigned, but for `__proto__`. -/
theorem mem_names_ofEntries :
    name ∈ (ofEntries entries).map Prod.fst ↔
      name ∈ entries.map Prod.fst ∧ name ≠ "__proto__" := by
  induction entries using List.reverseRecOn with
  | nil => simp [ofEntries]
  | append_singleton entries entry ih =>
    unfold ofEntries at ih ⊢
    rw [List.foldl_append, List.map_append, List.mem_append]
    show name ∈ (assign _ entry.1 entry.2).map Prod.fst ↔ _
    rw [mem_names_assign, ih, List.map_singleton, List.mem_singleton, or_and_right]
    refine or_congr Iff.rfl ⟨?_, ?_⟩
    · rintro ⟨rfl, hne⟩
      exact ⟨rfl, hne⟩
    · rintro ⟨rfl, hne⟩
      exact ⟨rfl, hne⟩

/-- Names that are no indexes are in any order. -/
theorem Proper.of_names (hnodup : (entries.map Prod.fst).Nodup)
    (hplain : "__proto__" ∉ entries.map Prod.fst)
    (hnames : ∀ name ∈ entries.map Prod.fst, arrayIndex? name = none) : Proper entries := by
  refine ⟨hnodup, ?_, hplain⟩
  apply List.pairwise_of_forall_mem_list
  intro a ha b hb
  unfold comesBefore
  rw [hnames a ha, hnames b hb]

end Stdiolink.Lib
