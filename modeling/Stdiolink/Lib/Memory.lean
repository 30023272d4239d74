/-
  Stdiolink.Lib.Memory — memories of cells that are written and never come or go.

  A memory says what a cell holds, where there is such a cell; writing elsewhere does nothing.  A
  log is a list of writes, the last one at the end.

  Main results:
    * `writeAll_apply`    — after a log, a cell holds what was last written to it, or what it held;
    * `writeAll_inner`    — a log of one of many memories changes this one only;
    * `getElem?_setRange` — a loop that sets one element after another is such a log.
-/
import Mathlib.Data.List.Basic
import Mathlib.Data.List.Induction

namespace Stdiolink.Lib

/-- A memory: what each cell holds, if it is there. -/
abbrev Memory (κ α : Type*) := κ → Option α

namespace Memory

variable {κ α : Type*} [DecidableEq κ]

/-! ## §1. Logs -/

/-- One cell is written. -/
def write (m : Memory κ α) (cell : κ) (value : α) : Memory κ α :=
  fun k => if k = cell then (m k).map fun _ => value else m k

/-- The writes of a log, in order. -/
def writeAll (m : Memory κ α) (log : List (κ × α)) : Memory κ α :=
  log.foldl (fun m w => m.write w.1 w.2) m

/-- The value last written to a cell. -/
def lastWritten (log : List (κ × α)) (cell : κ) : Option α :=
  (log.reverse.find? fun w => w.1 = cell).map Prod.snd

variable (m : Memory κ α) (log : List (κ × α))

@[simp] theorem writeAll_nil : m.writeAll [] = m := rfl

theorem writeAll_append (first second : List (κ × α)) :
    m.writeAll (first ++ second) = (m.writeAll first).writeAll second := List.foldl_append

theorem writeAll_concat (cell : κ) (value : α) :
    m.writeAll (log ++ [(cell, value)]) = (m.writeAll log).write cell value :=
  writeAll_append m log [(cell, value)]

theorem lastWritten_concat (cell k : κ) (value : α) :
    lastWritten (log ++ [(cell, value)]) k =
      if k = cell then some value else lastWritten log k := by
  unfold lastWritten
  rw [List.reverse_append, List.reverse_singleton, List.singleton_append, List.find?_cons]
  by_cases hk : k = cell
  · subst hk
    simp
  · have hne : ¬ cell = k := fun h => hk h.symm
    simp [hk, hne]

/-- **What a cell holds** after a log: what was last written to it, or what it held. -/
theorem writeAll_apply (k : κ) :
    m.writeAll log k = (m k).map fun initial => (lastWritten log k).getD initial := by
  induction log using List.reverseRecOn with
  | nil =>
    show m k = _
    cases m k <;> rfl
  | append_singleton log w ih =>
    obtain ⟨cell, value⟩ := w
    rw [writeAll_concat, lastWritten_concat, write, ih]
    by_cases hk : k = cell
    · rw [if_pos hk, if_pos hk, Option.map_map]
      rfl
    · rw [if_neg hk, if_neg hk]

/-- A cell that no write is about. -/
theorem writeAll_of_notMem {log : List (κ × α)} {k : κ} (h : k ∉ log.map Prod.fst) :
    m.writeAll log k = m k := by
  have hnone : lastWritten log k = none := by
    unfold lastWritten
    rw [Option.map_eq_none_iff, List.find?_eq_none]
    intro w hmem
    rw [List.mem_reverse] at hmem
    simp only [decide_eq_true_eq]
    exact fun hw => h (List.mem_map.mpr ⟨w, hmem, hw⟩)
  rw [writeAll_apply, hnone]
  cases m k <;> rfl

/-- A cell that one write is about. -/
theorem writeAll_of_mem {log : List (κ × α)} {k : κ} {value : α} (hnodup : (log.map Prod.fst).Nodup)
    (hmem : (k, value) ∈ log) (hthere : (m k).isSome) :
    m.writeAll log k = some value := by
  have hlast : lastWritten log k = some value := by
    induction log using List.reverseRecOn with
    | nil => cases hmem
    | append_singleton log w ih =>
      obtain ⟨cell, last⟩ := w
      rw [List.map_append, List.nodup_append] at hnodup
      rw [lastWritten_concat]
      obtain hmem | hmem := List.mem_append.mp hmem
      · have hne : k ≠ cell := hnodup.2.2 k (List.mem_map.mpr ⟨_, hmem, rfl⟩) cell (by simp)
        rw [if_neg hne, ih hnodup.1 hmem]
      · obtain ⟨rfl, rfl⟩ := Prod.mk.inj (List.mem_singleton.mp hmem)
        exact if_pos rfl
  obtain ⟨initial, hinitial⟩ := Option.isSome_iff_exists.mp hthere
  rw [writeAll_apply, hlast, hinitial]
  rfl

/-! ## §2. Memories side by side -/

/-- **A log of one memory among many** changes this one, as it would by itself. -/
theorem writeAll_inner {ι : Type*} [DecidableEq ι] (m : Memory (ι × κ) α) (i : ι)
    (log : List (κ × α)) (j : ι) (k : κ) :
    m.writeAll (log.map fun w => ((i, w.1), w.2)) (j, k) =
      if j = i then writeAll (fun k => m (i, k)) log k else m (j, k) := by
  induction log using List.reverseRecOn with
  | nil =>
    show m (j, k) = _
    split_ifs with h
    · rw [h]
      rfl
    · rfl
  | append_singleton log w ih =>
    obtain ⟨cell, value⟩ := w
    rw [List.map_append, List.map_cons, List.map_nil, writeAll_concat, writeAll_concat, write, ih,
      write]
    simp only [Prod.mk.injEq]
    by_cases hj : j = i
    · simp [hj]
    · simp [hj]

end Memory

/-! ## §3. Lists as memories -/

section Range

variable {α : Type*} (cells : List α) (start n : Nat) (values : Nat → α)

/-- A loop that sets `n` elements from `start` on. -/
def setRange : List α :=
  (List.range n).foldl (fun cells i => cells.set (start + i) (values i)) cells

theorem setRange_succ : setRange cells start (n + 1) values =
    (setRange cells start n values).set (start + n) (values n) := by
  simp only [setRange, List.range_succ, List.foldl_append, List.foldl_cons, List.foldl_nil]

@[simp] theorem length_setRange : (setRange cells start n values).length = cells.length := by
  induction n with
  | zero => rfl
  | succ n ih => rw [setRange_succ, List.length_set, ih]

/-- Setting one element is one write. -/
theorem getElem?_set_eq_write (i k : Nat) (value : α) :
    (cells.set i value)[k]? = Memory.write (fun k => cells[k]?) i value k := by
  rw [List.getElem?_set, Memory.write]
  by_cases hk : k = i
  · subst hk
    rw [if_pos rfl, if_pos rfl]
    by_cases hlt : k < cells.length
    · rw [if_pos hlt, List.getElem?_eq_getElem hlt]
      rfl
    · rw [if_neg hlt, List.getElem?_eq_none (Nat.le_of_not_lt hlt)]
      rfl
  · rw [if_neg hk, if_neg fun h => hk h.symm]

/-- **The loop is the log of its writes**, whatever the elements are taken for. -/
theorem getElem?_setRange {β : Type*} (c : α → β) (k : Nat) :
    ((setRange cells start n values)[k]?).map c =
      Memory.writeAll (fun k => (cells[k]?).map c)
        ((List.range n).map fun i => (start + i, c (values i))) k := by
  induction n generalizing k with
  | zero => rfl
  | succ n ih =>
    rw [setRange_succ, getElem?_set_eq_write, List.range_succ, List.map_append, List.map_cons,
      List.map_nil, Memory.writeAll_concat, Memory.write, Memory.write, ← ih k]
    split_ifs with hk
    · rw [Option.map_map, Option.map_map]
      rfl
    · rfl

/-- Setting an element with a check that it is there. -/
def setChecked (i : Nat) (value : α) : Option (List α) :=
  if i < cells.length then some (cells.set i value) else none

/-- **Inside the list** the loop may check each of its elements. -/
theorem foldlM_setChecked (h : start + n ≤ cells.length) :
    (List.range n).foldlM (fun cells i => setChecked cells (start + i) (values i)) cells =
      some (setRange cells start n values) := by
  induction n with
  | zero => rfl
  | succ n ih =>
    have hin : start + n < (setRange cells start n values).length := by
      rw [length_setRange]
      omega
    rw [List.range_succ, List.foldlM_append, ih (by omega), setRange_succ]
    show (setChecked (setRange cells start n values) (start + n) (values n)).bind some = _
    rw [setChecked, if_pos hin]
    rfl

end Range

end Stdiolink.Lib
