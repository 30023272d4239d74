/-
  Stdiolink.Lib.Checked — programs that look elements up with a check.

  A lookup outside a list has no result, and neither has a program with such a lookup.  A loop over
  lookups has a result if each of them has.

  Main result:
    * `mapM_eq_some_map` — the results of a loop.
-/
import Mathlib.Data.List.Basic

namespace Stdiolink.Lib

section MapM

variable {α β : Type} {f : α → Option β}

/-- A loop whose rounds all have a result. -/
theorem mapM_eq_some_map {xs : List α} {g : α → β} (h : ∀ x ∈ xs, f x = some (g x)) :
    xs.mapM f = some (xs.map g) := by
  induction xs with
  | nil => rfl
  | cons x xs ih =>
    rw [List.mapM_cons, h x List.mem_cons_self, ih fun y hy => h y (List.mem_cons_of_mem _ hy)]
    rfl

end MapM

end Stdiolink.Lib
