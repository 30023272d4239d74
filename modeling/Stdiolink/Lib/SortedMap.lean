/-
  Stdiolink.Lib.SortedMap — finite maps iterated in key order.

  An association list that carries the proof that its keys increase: the shape of
  an ordered map whose iteration order is observable.  Lookups are described by
  `find?`; iteration is over `entries`, and `mem_entries` connects the two.
-/
import Mathlib.Data.List.Dedup
import Mathlib.Data.List.Pairwise
import Mathlib.Data.List.Sort
import Mathlib.Order.Lattice

namespace Stdiolink.Lib

/-- A finite map with its entries in increasing key order. -/
structure SortedMap (κ α : Type*) [LinearOrder κ] where
  entries : List (κ × α)
  sorted : entries.Pairwise fun a b => a.1 < b.1

namespace SortedMap

variable {κ α β : Type*} [LinearOrder κ]

/-! ## Association lists -/

/-- First value stored under `k`. -/
def lookup (k : κ) : List (κ × α) → Option α
  | [] => none
  | (j, v) :: l => if k = j then some v else lookup k l

/-- Put `(k, v)` at its place, replacing an entry with the same key. -/
def insertEntry (k : κ) (v : α) : List (κ × α) → List (κ × α)
  | [] => [(k, v)]
  | (j, w) :: l =>
      if k < j then (k, v) :: (j, w) :: l
      else if k = j then (k, v) :: l
      else (j, w) :: insertEntry k v l

theorem lookup_insertEntry_self (k : κ) (v : α) (l : List (κ × α)) :
    lookup k (insertEntry k v l) = some v := by
  induction l with
  | nil => simp [insertEntry, lookup]
  | cons e l ih =>
    obtain ⟨j, w⟩ := e
    simp only [insertEntry]
    split_ifs with hlt heq
    · simp [lookup]
    · simp [lookup]
    · simpa [lookup, heq] using ih

variable {k : κ} {v : α} {l : List (κ × α)} {m : SortedMap κ α}

theorem lookup_insertEntry_of_ne {j : κ} (h : j ≠ k) (v : α) (l : List (κ × α)) :
    lookup j (insertEntry k v l) = lookup j l := by
  induction l with
  | nil => simp [insertEntry, lookup, h]
  | cons e l ih =>
    obtain ⟨i, w⟩ := e
    simp only [insertEntry]
    split_ifs with hlt heq
    · simp [lookup, h]
    · subst heq
      simp [lookup, h]
    · simp [lookup, ih]

theorem mem_insertEntry {e : κ × α} (h : e ∈ insertEntry k v l) : e = (k, v) ∨ e ∈ l := by
  induction l with
  | nil => simpa [insertEntry] using h
  | cons d l ih =>
    obtain ⟨j, w⟩ := d
    simp only [insertEntry] at h
    split_ifs at h with hlt heq
    · simpa using h
    · rcases List.mem_cons.mp h with h | h
      · exact Or.inl h
      · exact Or.inr (List.mem_cons_of_mem _ h)
    · rcases List.mem_cons.mp h with h | h
      · exact Or.inr (h ▸ List.mem_cons_self)
      · rcases ih h with h | h
        · exact Or.inl h
        · exact Or.inr (List.mem_cons_of_mem _ h)

theorem pairwise_insertEntry (hl : l.Pairwise fun a b => a.1 < b.1) :
    (insertEntry k v l).Pairwise fun a b => a.1 < b.1 := by
  induction l with
  | nil => simp [insertEntry]
  | cons d l ih =>
    obtain ⟨j, w⟩ := d
    obtain ⟨hhd, htl⟩ := List.pairwise_cons.mp hl
    simp only [insertEntry]
    split_ifs with hlt heq
    · refine List.pairwise_cons.mpr ⟨fun e he => ?_, hl⟩
      rcases List.mem_cons.mp he with rfl | he
      · exact hlt
      · exact lt_trans hlt (hhd e he)
    · subst heq
      exact List.pairwise_cons.mpr ⟨hhd, htl⟩
    · refine List.pairwise_cons.mpr ⟨fun e he => ?_, ih htl⟩
      rcases mem_insertEntry he with rfl | he
      · exact lt_of_le_of_ne (not_lt.mp hlt) (Ne.symm heq)
      · exact hhd e he

theorem lookup_eq_some_of_mem (hl : l.Pairwise fun a b => a.1 < b.1) (h : (k, v) ∈ l) :
    lookup k l = some v := by
  induction l with
  | nil => simp at h
  | cons d l ih =>
    obtain ⟨j, w⟩ := d
    obtain ⟨hhd, htl⟩ := List.pairwise_cons.mp hl
    rcases List.mem_cons.mp h with h | h
    · obtain ⟨rfl, rfl⟩ := Prod.mk.inj h
      simp [lookup]
    · have hne : k ≠ j := ne_of_gt (hhd (k, v) h)
      simpa [lookup, hne] using ih htl h

theorem mem_of_lookup_eq_some (h : lookup k l = some v) : (k, v) ∈ l := by
  induction l with
  | nil => simp [lookup] at h
  | cons d l ih =>
    obtain ⟨j, w⟩ := d
    simp only [lookup] at h
    split_ifs at h with heq
    · obtain rfl := Option.some.inj h
      simp [heq]
    · exact List.mem_cons_of_mem _ (ih h)

theorem lookup_filter (p : κ → Bool) (k : κ) (l : List (κ × α)) :
    lookup k (l.filter fun e => p e.1) = if p k then lookup k l else none := by
  induction l with
  | nil => simp [lookup]
  | cons d l ih =>
    obtain ⟨j, w⟩ := d
    by_cases hp : p j
    · by_cases hk : k = j
      · subst hk
        simp [hp, lookup]
      · simp [hp, lookup, hk, ih]
    · by_cases hk : k = j
      · subst hk
        simp [hp, ih]
      · simp [hp, lookup, hk, ih]

theorem lookup_map (f : κ → α → β) (k : κ) (l : List (κ × α)) :
    lookup k (l.map fun e => (e.1, f e.1 e.2)) = (lookup k l).map (f k) := by
  induction l with
  | nil => simp [lookup]
  | cons d l ih =>
    obtain ⟨j, w⟩ := d
    by_cases hk : k = j
    · subst hk
      simp [lookup]
    · simp [lookup, hk, ih]

/-! ## The map operations -/

def empty : SortedMap κ α := ⟨[], List.Pairwise.nil⟩

/-- The value stored under `k`. -/
def find? (m : SortedMap κ α) (k : κ) : Option α := lookup k m.entries

/-- Is there an entry for `k`? -/
def contains (m : SortedMap κ α) (k : κ) : Bool := (m.find? k).isSome

/-- Store `v` under `k`. -/
def insert (m : SortedMap κ α) (k : κ) (v : α) : SortedMap κ α :=
  ⟨insertEntry k v m.entries, pairwise_insertEntry m.sorted⟩

/-- Drop the entry of `k`. -/
def erase (m : SortedMap κ α) (k : κ) : SortedMap κ α :=
  ⟨m.entries.filter fun e => decide (e.1 ≠ k), m.sorted.filter _⟩

/-- Keep the entries with these keys. -/
def filterKeys (m : SortedMap κ α) (p : κ → Bool) : SortedMap κ α :=
  ⟨m.entries.filter fun e => p e.1, m.sorted.filter _⟩

/-- Replace every value by its image. -/
def mapValues (m : SortedMap κ α) (f : κ → α → β) : SortedMap κ β :=
  ⟨m.entries.map fun e => (e.1, f e.1 e.2), List.pairwise_map.mpr m.sorted⟩

/-- The keys, in order. -/
def keys (m : SortedMap κ α) : List κ := m.entries.map Prod.fst

theorem mem_entries : (k, v) ∈ m.entries ↔ m.find? k = some v :=
  ⟨lookup_eq_some_of_mem m.sorted, mem_of_lookup_eq_some⟩

@[simp] theorem find?_empty (k : κ) : (empty : SortedMap κ α).find? k = none := rfl

@[simp] theorem find?_insert_self (m : SortedMap κ α) (k : κ) (v : α) :
    (m.insert k v).find? k = some v := lookup_insertEntry_self k v m.entries

theorem find?_insert_of_ne (m : SortedMap κ α) {j k : κ} (h : j ≠ k) (v : α) :
    (m.insert k v).find? j = m.find? j := lookup_insertEntry_of_ne h v m.entries

theorem find?_insert (m : SortedMap κ α) (j k : κ) (v : α) :
    (m.insert k v).find? j = if j = k then some v else m.find? j := by
  split_ifs with h
  · subst h
    exact find?_insert_self m j v
  · exact find?_insert_of_ne m h v

theorem find?_erase (m : SortedMap κ α) (j k : κ) :
    (m.erase k).find? j = if j = k then none else m.find? j := by
  have h := lookup_filter (fun i => decide (i ≠ k)) j m.entries
  by_cases hjk : j = k
  · simpa [find?, erase, hjk] using h
  · simpa [find?, erase, hjk] using h

@[simp] theorem find?_erase_self (m : SortedMap κ α) (k : κ) : (m.erase k).find? k = none := by
  simp [find?_erase]

theorem find?_filterKeys (m : SortedMap κ α) (p : κ → Bool) (k : κ) :
    (m.filterKeys p).find? k = if p k then m.find? k else none := lookup_filter p k m.entries

@[simp] theorem find?_mapValues (m : SortedMap κ α) (f : κ → α → β) (k : κ) :
    (m.mapValues f).find? k = (m.find? k).map (f k) := lookup_map f k m.entries

@[simp] theorem contains_empty (k : κ) : (empty : SortedMap κ α).contains k = false := rfl

/-! ## Maps from entries -/

/-- The entries stored one after another. -/
def ofEntries (entries : List (κ × α)) : SortedMap κ α :=
  entries.foldl (fun m e => m.insert e.1 e.2) empty

theorem insertEntry_last (h : ∀ e ∈ l, e.1 < k) : insertEntry k v l = l ++ [(k, v)] := by
  induction l with
  | nil => rfl
  | cons d l ih =>
    obtain ⟨j, w⟩ := d
    have hlt : j < k := h (j, w) (by simp)
    rw [insertEntry, if_neg (not_lt_of_gt hlt), if_neg (ne_of_gt hlt),
      ih fun e he => h e (List.mem_cons_of_mem _ he)]
    rfl

/-- Entries in key order are stored as they are. -/
theorem entries_ofEntries (h : l.Pairwise fun a b => a.1 < b.1) : (ofEntries l).entries = l := by
  have hall : ∀ (rest : List (κ × α)) (m : SortedMap κ α),
      (m.entries ++ rest).Pairwise (fun a b => a.1 < b.1) →
      (rest.foldl (fun m e => m.insert e.1 e.2) m).entries = m.entries ++ rest := by
    intro rest
    induction rest with
    | nil =>
      intro m _
      exact (List.append_nil m.entries).symm
    | cons e rest ih =>
      intro m hsorted
      have hlast : (m.insert e.1 e.2).entries = m.entries ++ [e] := by
        apply insertEntry_last
        intro d hd
        exact (List.pairwise_append.mp hsorted).2.2 d hd e (by simp)
      show (rest.foldl (fun m e => m.insert e.1 e.2) (m.insert e.1 e.2)).entries = _
      rw [ih, hlast, List.append_assoc]
      · rfl
      · rw [hlast, List.append_assoc]
        exact hsorted
  exact hall l empty h

@[ext] theorem ext {m' : SortedMap κ α} (h : m.entries = m'.entries) : m = m' := by
  cases m
  cases m'
  subst h
  rfl

/-- Maps with the same lookups are the same. -/
theorem ext_find? {m m' : SortedMap κ α} (h : ∀ k, m.find? k = m'.find? k) : m = m' := by
  apply ext
  have hirrefl : Std.Irrefl fun a b : κ × α => a.1 < b.1 := ⟨fun a => lt_irrefl a.1⟩
  have hantisymm : Std.Antisymm fun a b : κ × α => a.1 < b.1 :=
    ⟨fun a b hab hba => absurd hba (lt_asymm hab)⟩
  apply m.sorted.eq_of_mem_iff m'.sorted
  intro entry
  obtain ⟨k, v⟩ := entry
  rw [mem_entries, mem_entries, h]

theorem contains_eq_true : m.contains k = true ↔ ∃ v, m.find? k = some v := by
  simp [contains, Option.isSome_iff_exists]

theorem contains_eq_false : m.contains k = false ↔ m.find? k = none := by
  simp [contains]

theorem contains_insert (m : SortedMap κ α) (j k : κ) (v : α) :
    (m.insert k v).contains j = (decide (j = k) || m.contains j) := by
  simp only [contains, find?_insert]
  split_ifs with h <;> simp [h]

theorem contains_erase (m : SortedMap κ α) (j k : κ) :
    (m.erase k).contains j = (decide (j ≠ k) && m.contains j) := by
  simp only [contains, find?_erase]
  split_ifs with h <;> simp [h]

/-! ## Keys -/

theorem keys_nodup (m : SortedMap κ α) : m.keys.Nodup := by
  have hlt : m.keys.Pairwise (· < ·) := List.pairwise_map.mpr m.sorted
  exact hlt.imp ne_of_lt

theorem mem_keys : k ∈ m.keys ↔ m.contains k = true := by
  rw [contains_eq_true, keys, List.mem_map]
  constructor
  · rintro ⟨e, he, rfl⟩
    exact ⟨e.2, mem_entries.mp he⟩
  · rintro ⟨v, hv⟩
    exact ⟨(k, v), mem_entries.mpr hv, rfl⟩

section OfEntries

variable {l : List (κ × α)} {k : κ}

/-- Entries stored one after another in a map. -/
theorem find?_foldl_insert (m : SortedMap κ α) (h : (l.map Prod.fst).Nodup) :
    (∀ v, (k, v) ∈ l → (l.foldl (fun m e => m.insert e.1 e.2) m).find? k = some v) ∧
      (k ∉ l.map Prod.fst → (l.foldl (fun m e => m.insert e.1 e.2) m).find? k = m.find? k) := by
  induction l generalizing m with
  | nil => exact ⟨by simp, fun _ => rfl⟩
  | cons e rest ih =>
    rw [List.map_cons, List.nodup_cons] at h
    obtain ⟨hmem, hnot⟩ := ih (m.insert e.1 e.2) h.2
    constructor
    · intro v hv
      rcases List.mem_cons.mp hv with rfl | hv
      · rw [List.foldl_cons, hnot h.1, find?_insert_self]
      · exact hmem v hv
    · intro hk
      rw [List.map_cons, List.mem_cons, not_or] at hk
      rw [List.foldl_cons, hnot hk.2, find?_insert_of_ne _ hk.1]

theorem find?_ofEntries {v : α} (h : (l.map Prod.fst).Nodup) (hv : (k, v) ∈ l) :
    (ofEntries l).find? k = some v := (find?_foldl_insert empty h).1 v hv

theorem contains_ofEntries : (ofEntries l).contains k = true ↔ k ∈ l.map Prod.fst := by
  have hall : ∀ m : SortedMap κ α, (l.foldl (fun m e => m.insert e.1 e.2) m).contains k = true ↔
      k ∈ l.map Prod.fst ∨ m.contains k = true := by
    induction l with
    | nil => simp
    | cons e rest ih =>
      intro m
      rw [List.foldl_cons, ih, contains_insert, List.map_cons, List.mem_cons, Bool.or_eq_true,
        decide_eq_true_eq, ← or_assoc, or_comm (a := k ∈ _)]
  rw [ofEntries, hall, contains_empty]
  simp

/-- **As many keys as there are among the entries** are stored. -/
theorem length_keys_ofEntries :
    (ofEntries l).keys.length = (l.map Prod.fst).dedup.length := by
  have hperm : (ofEntries l).keys.Perm (l.map Prod.fst).dedup := by
    rw [List.perm_ext_iff_of_nodup (keys_nodup _) (List.nodup_dedup _)]
    intro k
    rw [mem_keys, contains_ofEntries, List.mem_dedup]
  exact hperm.length_eq

end OfEntries

end SortedMap

end Stdiolink.Lib
