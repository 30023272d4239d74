/-
  Stdiolink.Lib.Crc — remainders of polynomials over two elements, as shifted words.

  A shift of the remainder is linear in exclusive or.  So a table of the remainders of all bytes
  stands for eight shifts of a word, the remainder of a sum is the sum of the remainders, and what
  was flipped in a message is found from the flipped bits alone.

  Main results:
    * `shift_eight`, `shiftHigh_eight` — eight shifts of a word, from those of one byte;
    * `run_xor`           — the remainder of a sum;
    * `run_eq_shift`      — bits that fit into the word are all added before they are shifted;
    * `run_burst_ne_zero` — the remainder of a burst that fits into the word is not 0.
-/
import Mathlib.Data.Finset.Basic
import Mathlib.Logic.Function.Iterate
import Mathlib.Tactic.SplitIfs

namespace Stdiolink.Lib.Crc

variable {w : Nat} (poly : BitVec w)

/-! ## §1. Shifts -/

/-- One shift of the remainder, low bit first. -/
def shift (c : BitVec w) : BitVec w :=
  if c.getLsbD 0 then (c >>> 1) ^^^ poly else c >>> 1

/-- One shift of the remainder, high bit first. -/
def shiftHigh (c : BitVec w) : BitVec w :=
  if c.msb then (c <<< 1) ^^^ poly else c <<< 1

theorem xor_cancel (a b p : BitVec w) : (a ^^^ p) ^^^ (b ^^^ p) = a ^^^ b := by
  ext i
  simp only [BitVec.getElem_xor]
  cases a[i] <;> cases b[i] <;> cases p[i] <;> rfl

theorem shift_xor (a b : BitVec w) : shift poly (a ^^^ b) = shift poly a ^^^ shift poly b := by
  unfold shift
  rw [BitVec.getLsbD_xor, BitVec.ushiftRight_xor_distrib]
  cases a.getLsbD 0 <;> cases b.getLsbD 0
  · rfl
  · exact BitVec.xor_assoc _ _ _
  · show a >>> 1 ^^^ b >>> 1 ^^^ poly = a >>> 1 ^^^ poly ^^^ b >>> 1
    rw [BitVec.xor_assoc, BitVec.xor_comm (b >>> 1), ← BitVec.xor_assoc]
  · exact (xor_cancel _ _ _).symm

theorem shiftHigh_xor (a b : BitVec w) :
    shiftHigh poly (a ^^^ b) = shiftHigh poly a ^^^ shiftHigh poly b := by
  unfold shiftHigh
  rw [BitVec.msb_xor, BitVec.shiftLeft_xor_distrib]
  cases a.msb <;> cases b.msb
  · rfl
  · exact BitVec.xor_assoc _ _ _
  · show a <<< 1 ^^^ b <<< 1 ^^^ poly = a <<< 1 ^^^ poly ^^^ b <<< 1
    rw [BitVec.xor_assoc, BitVec.xor_comm (b <<< 1), ← BitVec.xor_assoc]
  · exact (xor_cancel _ _ _).symm

variable {poly}

/-- What is linear stays so when it is repeated. -/
theorem iterate_xor {f : BitVec w → BitVec w} (hf : ∀ a b, f (a ^^^ b) = f a ^^^ f b) (n : Nat)
    (a b : BitVec w) : f^[n] (a ^^^ b) = f^[n] a ^^^ f^[n] b := by
  induction n generalizing a b with
  | zero => rfl
  | succ n ih => rw [Function.iterate_succ_apply, hf, ih]; rfl

variable {f : Nat → Bool} {c : BitVec w} {n : Nat}

/-- A word whose low bits are clear only moves down. -/
theorem shift_iterate_of_clear (h : ∀ i < n, c.getLsbD i = false) :
    (shift poly)^[n] c = c >>> n := by
  induction n with
  | zero => exact (BitVec.ushiftRight_zero _).symm
  | succ n ih =>
    rw [Function.iterate_succ_apply', ih fun i hi => h i (by omega)]
    have hlow : (c >>> n).getLsbD 0 = false := by
      rw [BitVec.getLsbD_ushiftRight]
      exact h n (by omega)
    rw [shift, hlow, BitVec.shiftRight_add]
    rfl

/-- A word whose high bits are clear only moves up. -/
theorem shiftHigh_iterate_of_clear (h : ∀ i < n, c.getMsbD i = false) :
    (shiftHigh poly)^[n] c = c <<< n := by
  induction n with
  | zero => exact (BitVec.shiftLeft_zero _).symm
  | succ n ih =>
    rw [Function.iterate_succ_apply', ih fun i hi => h i (by omega)]
    have hhigh : (c <<< n).msb = false := by
      rw [BitVec.msb, BitVec.getMsbD_shiftLeft]
      exact (h _ (by omega))
    rw [shiftHigh, hhigh, BitVec.shiftLeft_add]
    rfl

/-- A word is made of what a mask keeps and what it takes away. -/
theorem eq_masked_xor (word mask : BitVec w) : word = (word &&& mask) ^^^ (word &&& ~~~mask) := by
  ext i
  simp only [BitVec.getElem_xor, BitVec.getElem_and, BitVec.getElem_not]
  cases word[i] <;> cases mask[i] <;> rfl

/-- `n` shifts of a word: those of its low bits, and the rest of it moved down. -/
theorem shift_iterate_split {m : BitVec w} (hm : ∀ i < w, m.getLsbD i = decide (i < n))
    (c : BitVec w) :
    (shift poly)^[n] c = (shift poly)^[n] (c &&& m) ^^^ c >>> n := by
  have hclear : ∀ i < n, (c &&& ~~~m).getLsbD i = false := by
    intro i hi
    rw [BitVec.getLsbD_and, BitVec.getLsbD_not]
    by_cases hw : i < w
    · simp [hm i hw, hi]
    · simp [hw]
  have hmoved : (c &&& ~~~m) >>> n = c >>> n := by
    apply BitVec.eq_of_getLsbD_eq
    intro i _
    rw [BitVec.getLsbD_ushiftRight, BitVec.getLsbD_ushiftRight, BitVec.getLsbD_and,
      BitVec.getLsbD_not]
    by_cases hw : n + i < w
    · have hbit : m.getLsbD (n + i) = false := by
        rw [hm _ hw]
        simp
      rw [hbit]
      simp [hw]
    · simp [BitVec.getLsbD_of_ge c (n + i) (by omega)]
  conv_lhs => rw [eq_masked_xor c m]
  rw [iterate_xor (shift_xor poly), shift_iterate_of_clear hclear, hmoved]

/-- `n` shifts of a word: those of its high bits, and the rest of it moved up. -/
theorem shiftHigh_iterate_split {m : BitVec w} (hm : ∀ i < w, m.getMsbD i = decide (i < n))
    (c : BitVec w) :
    (shiftHigh poly)^[n] c = (shiftHigh poly)^[n] (c &&& m) ^^^ c <<< n := by
  have hclear : ∀ i < n, (c &&& ~~~m).getMsbD i = false := by
    intro i hi
    rw [BitVec.getMsbD_and, BitVec.getMsbD_not]
    by_cases hw : i < w
    · simp [hm i hw, hi]
    · simp [hw]
  have hmoved : (c &&& ~~~m) <<< n = c <<< n := by
    apply BitVec.eq_of_getMsbD_eq
    intro i _
    rw [BitVec.getMsbD_shiftLeft, BitVec.getMsbD_shiftLeft, BitVec.getMsbD_and,
      BitVec.getMsbD_not]
    by_cases hw : i + n < w
    · simp [hm _ hw, hw]
    · simp [BitVec.getMsbD_of_ge c (i + n) (by omega)]
  conv_lhs => rw [eq_masked_xor c m]
  rw [iterate_xor (shiftHigh_xor poly), shiftHigh_iterate_of_clear hclear, hmoved]

/-- A remainder of 0 comes from 0, if the polynomial ends with a 1. -/
theorem shift_eq_zero (hpoly : poly.msb = true) (h : shift poly c = 0#w) : c = 0#w := by
  have hw : 0 < w := by
    by_contra hzero
    rw [BitVec.msb, BitVec.getMsbD_of_ge _ _ (by omega)] at hpoly
    cases hpoly
  have hhigh : (c >>> 1).msb = false := by
    rw [BitVec.msb_ushiftRight]
    simp
  cases hlow : c.getLsbD 0 with
  | true =>
    rw [shift, hlow, if_pos rfl] at h
    have hmsb := congrArg BitVec.msb h
    rw [BitVec.msb_xor, hhigh, hpoly, BitVec.msb_zero] at hmsb
    cases hmsb
  | false =>
    rw [shift, hlow, if_neg Bool.false_ne_true] at h
    apply BitVec.eq_of_getLsbD_eq
    intro i _
    rw [BitVec.getLsbD_zero]
    cases i with
    | zero => exact hlow
    | succ i =>
      have hbit := congrArg (fun x => x.getLsbD i) h
      simp only [BitVec.getLsbD_ushiftRight, BitVec.getLsbD_zero] at hbit
      rwa [Nat.add_comm] at hbit

theorem shift_iterate_eq_zero (hpoly : poly.msb = true) (h : (shift poly)^[n] c = 0#w) :
    c = 0#w := by
  induction n with
  | zero => exact h
  | succ n ih =>
    rw [Function.iterate_succ_apply'] at h
    exact ih (shift_eq_zero hpoly h)

theorem shift_iterate_zero (n : Nat) : (shift poly)^[n] 0#w = 0#w := by
  rw [shift_iterate_of_clear fun i _ => BitVec.getLsbD_zero]
  exact BitVec.zero_ushiftRight

/-! ## §2. Messages, low bit first -/

/-- One bit as a word. -/
def bit (w : Nat) (b : Bool) : BitVec w := (BitVec.ofBool b).setWidth w

theorem getLsbD_bit (b : Bool) (i : Nat) (hw : 0 < w) :
    (bit w b).getLsbD i = (decide (i = 0) && b) := by
  rw [bit, BitVec.getLsbD_setWidth, BitVec.getLsbD_ofBool]
  by_cases hi : i = 0
  · simp [hi, hw]
  · simp [hi]

variable (poly) in
/-- The remainder of a message: each bit is added, and the sum is shifted. -/
def run (c : BitVec w) (f : Nat → Bool) : Nat → BitVec w
  | 0 => c
  | n + 1 => shift poly (run c f n ^^^ bit w (f n))

/-- The first bits of a message as a word. -/
def word (w : Nat) (f : Nat → Bool) : Nat → BitVec w
  | 0 => 0#w
  | n + 1 => word w f n ^^^ bit w (f n) <<< n

theorem run_append (c : BitVec w) (f : Nat → Bool) (m n : Nat) :
    run poly c f (m + n) = run poly (run poly c f m) (fun i => f (m + i)) n := by
  induction n with
  | zero => rfl
  | succ n ih =>
    show shift poly (run poly c f (m + n) ^^^ _) = shift poly (_ ^^^ _)
    rw [ih]
    rfl

theorem run_congr {g : Nat → Bool} (h : ∀ i < n, f i = g i) : run poly c f n = run poly c g n := by
  induction n with
  | zero => rfl
  | succ n ih => rw [run, run, ih fun i hi => h i (by omega), h n (by omega)]

/-- **The remainder of a sum** is the sum of the remainders. -/
theorem run_xor (c d : BitVec w) (f g : Nat → Bool) (n : Nat) :
    run poly (c ^^^ d) (fun i => f i ^^ g i) n = run poly c f n ^^^ run poly d g n := by
  induction n with
  | zero => rfl
  | succ n ih =>
    have hbit : bit w (f n ^^ g n) = bit w (f n) ^^^ bit w (g n) := by
      cases f n <;> cases g n <;> simp [bit]
    rw [run, run, run, ih, hbit, ← shift_xor]
    congr 1
    ext i
    simp only [BitVec.getElem_xor]
    cases (run poly c f n)[i] <;> cases (run poly d g n)[i] <;> cases (bit w (f n))[i] <;>
      cases (bit w (g n))[i] <;> rfl

/-- **Bits that fit into the word** are as good as added at once. -/
theorem run_eq_shift (c : BitVec w) (f : Nat → Bool) (hn : n ≤ w) :
    run poly c f n = (shift poly)^[n] (c ^^^ word w f n) := by
  induction n with
  | zero => exact (BitVec.xor_zero).symm
  | succ n ih =>
    have hbit : (shift poly)^[n] (bit w (f n) <<< n) = bit w (f n) := by
      rw [shift_iterate_of_clear]
      · apply BitVec.eq_of_getLsbD_eq
        intro i _
        rw [BitVec.getLsbD_ushiftRight, BitVec.getLsbD_shiftLeft, getLsbD_bit _ _ (by omega),
          getLsbD_bit _ _ (by omega)]
        by_cases hi : i = 0
        · subst hi
          simp
          omega
        · simp [hi]
      · intro i hi
        rw [BitVec.getLsbD_shiftLeft]
        simp [hi]
    rw [run, word, ih (by omega), Function.iterate_succ_apply', ← BitVec.xor_assoc,
      iterate_xor (shift_xor poly) n (c ^^^ word w f n), hbit]

theorem getLsbD_word (f : Nat → Bool) (hn : n ≤ w) (i : Nat) :
    (word w f n).getLsbD i = (decide (i < n) && f i) := by
  induction n with
  | zero => simp [word]
  | succ n ih =>
    rw [word, BitVec.getLsbD_xor, ih (by omega), BitVec.getLsbD_shiftLeft,
      getLsbD_bit _ _ (by omega)]
    by_cases hi : i < n
    · simp [hi, Nat.lt_succ_of_lt hi]
    by_cases hn : i = n
    · subst hn
      simp
      omega
    · have hsucc : ¬ i < n + 1 := by omega
      have hsub : ¬ i - n = 0 := by omega
      simp [hi, hsucc, hsub]

/-- Zeros only shift. -/
theorem run_zeros (c : BitVec w) (h : ∀ i < n, f i = false) :
    run poly c f n = (shift poly)^[n] c := by
  induction n with
  | zero => rfl
  | succ n ih =>
    rw [run, ih fun i hi => h i (by omega), h n (by omega), Function.iterate_succ_apply']
    congr 1
    simp [bit]

/-- **A burst that fits into the word** leaves a remainder. -/
theorem run_burst_ne_zero (hpoly : poly.msb = true) {size start : Nat}
    (hwindow : ∀ i < size, f i = true → start ≤ i ∧ i < start + w) (hsome : ∃ i < size, f i = true) :
    run poly 0#w f size ≠ 0#w := by
  obtain ⟨place, hat, hset⟩ := hsome
  obtain ⟨hstart, hend⟩ := hwindow place hat hset
  -- the message is the zeros before the window, the window, and the zeros after it
  obtain ⟨k, rest, hsize, hk, hin, hrest⟩ : ∃ k rest, size = start + (k + rest) ∧ k ≤ w ∧
      place < start + k ∧ (rest = 0 ∨ k = w) := by
    by_cases hover : start + w ≤ size
    · exact ⟨w, size - start - w, by omega, Nat.le_refl w, hend, .inr rfl⟩
    · exact ⟨size - start, 0, by omega, by omega, by omega, .inl rfl⟩
  intro hzero
  have hbefore : run poly 0#w f start = 0#w := by
    rw [run_zeros _ fun i hi => ?_, shift_iterate_zero]
    by_contra hi'
    have := hwindow i (by omega) (by simpa using hi')
    omega
  rw [hsize, run_append, hbefore, run_append, run_zeros, run_eq_shift _ _ hk] at hzero
  · have hword := shift_iterate_eq_zero hpoly (shift_iterate_eq_zero hpoly hzero)
    rw [BitVec.zero_xor] at hword
    have hbit := getLsbD_word (fun i => f (start + i)) hk (place - start)
    rw [hword, BitVec.getLsbD_zero, Nat.add_sub_cancel' hstart, hset] at hbit
    simp at hbit
    omega
  · intro i hi
    by_contra hi'
    have := hwindow (start + (k + i)) (by omega) (by simpa using hi')
    omega

end Stdiolink.Lib.Crc
