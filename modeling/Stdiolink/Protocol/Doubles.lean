/-
  Stdiolink.Protocol.Doubles — the doubles among the numbers of JSON.

  `QJsonValue` holds a number as a `qint64` or as a double, and an integer is rounded when it is
  read as a double.

  Main results:
    * `toDouble_represents`  — what is a double is read as it is;
    * `toDouble_eq_iff`      — and nothing else;
    * `toDouble_between`     — an integer stays on the same side of every double;
    * `single_isSome_iff`    — which numbers have a float;
    * `single_rounded_once`  — when an integer that is read as a double and rounded to a float is
      the float nearest to it.
-/
import Mathlib.Tactic.Linarith
import Stdiolink.Lib.RoundTwice
import Stdiolink.Protocol.Json

namespace Stdiolink.Protocol.Json

open Stdiolink.Lib
open Stdiolink.Lib.FloatFormat

/-- The numbers that `QJsonValue` holds. -/
def IsNumber (q : ℚ) : Prop :=
  (∃ n : Int, q = n ∧ -2 ^ 63 ≤ n ∧ n < 2 ^ 63) ∨ binary64.Represents q

/-- A double as a JSON value: only a finite one is a number. -/
def ofFinite : Option ℚ → Json
  | some v => num v
  | none => null

theorem ofFinite_eq_num {v : Option ℚ} {q : ℚ} : ofFinite v = num q ↔ v = some q := by
  cases v <;> simp [ofFinite]

/-- An integer that is a double is not rounded. -/
theorem roundToDouble_represents {n : Int} (h : binary64.Represents n) :
    roundToDouble n = n := by
  -- the bits that would be cut off are zeros
  have hdvd : 2 ^ (n.natAbs.log2 + 1 - 53) ∣ n.natAbs := h.dvd_int
  have hrest : n.natAbs % 2 ^ (n.natAbs.log2 + 1 - 53) = 0 := Nat.mod_eq_zero_of_dvd hdvd
  have hwhole : n.natAbs / 2 ^ (n.natAbs.log2 + 1 - 53) * 2 ^ (n.natAbs.log2 + 1 - 53) =
      n.natAbs := Nat.div_mul_cancel hdvd
  have hpos : 0 < 2 ^ (n.natAbs.log2 + 1 - 53) := Nat.two_pow_pos _
  unfold roundToDouble
  dsimp only
  rw [hrest, if_neg, ← Int.natCast_mul, hwhole, Int.sign_mul_natAbs]
  intro hup
  simp only [Bool.or_eq_true, Bool.and_eq_true, decide_eq_true_eq] at hup
  omega

/-- **What is a double** is read as it is. -/
theorem toDouble_represents {v : ℚ} (h : binary64.Represents v) : toDouble (num v) = v := by
  rw [toDouble]
  by_cases hden : v.den = 1
  · -- an integer, which JSON keeps as such
    have hv : (v.num : ℚ) = v := Rat.coe_int_num_of_den_eq_one hden
    rw [← hv] at h
    rw [if_pos hden, roundToDouble_represents h, hv]
  · rw [if_neg hden]

/-- Rounding to a double, by the rounding of quotients. -/
theorem roundToDouble_eq (n : Int) :
    roundToDouble n =
      n.sign * (roundHalfEven n.natAbs (2 ^ (n.natAbs.log2 - 52)) *
        2 ^ (n.natAbs.log2 - 52) : Nat) := by
  unfold roundToDouble roundHalfEven
  dsimp only
  rw [show n.natAbs.log2 + 1 - 53 = n.natAbs.log2 - 52 by omega]
  congr 1
  rw [← Int.natCast_mul]
  congr 2
  simp only [Bool.or_eq_true, Bool.and_eq_true, decide_eq_true_eq]
  split_ifs <;> omega

/-- **Reading an integer as a double** keeps it on the same side of every double. -/
theorem toDouble_between {b q : ℚ} (hb : binary64.Represents b) :
    (b ≤ q → b ≤ toDouble (num q)) ∧ (q ≤ b → toDouble (num q) ≤ b) := by
  by_cases hden : q.den = 1
  swap
  · rw [toDouble, if_neg hden]
    exact ⟨id, id⟩
  obtain ⟨n, rfl⟩ : ∃ n : Int, (n : ℚ) = q := ⟨q.num, Rat.coe_int_num_of_den_eq_one hden⟩
  rw [toDouble_int]
  obtain hsmall | hlarge := le_or_gt n.natAbs (2 ^ 53)
  · rw [roundToDouble_small hsmall]
    exact ⟨id, id⟩
  have hlog : 53 ≤ n.natAbs.log2 := (Nat.le_log2 (by omega)).mpr hlarge.le
  obtain ⟨hdown, hup⟩ := hb.between (m := n.natAbs) (e := n.natAbs.log2 - 52) (by
    show 2 ^ (52 + _) ≤ _
    rw [Nat.add_sub_cancel' (by omega)]
    exact Nat.log2_self_le (by omega))
  rw [roundToDouble_eq]
  generalize roundHalfEven n.natAbs (2 ^ (n.natAbs.log2 - 52)) * 2 ^ (n.natAbs.log2 - 52) = r at *
  have hr : (0 : ℚ) ≤ r := Nat.cast_nonneg r
  obtain hn | hn := Int.lt_or_gt_of_ne (show n ≠ 0 by rintro rfl; simp at hlarge)
  · rw [Int.sign_eq_neg_one_of_neg hn]
    have habs : (n.natAbs : ℚ) = -n := by
      rw [Nat.cast_natAbs, Int.cast_abs, abs_of_neg (by exact_mod_cast hn)]
    have hneg : (n : ℚ) < 0 := by exact_mod_cast hn
    rw [habs] at hdown hup
    push_cast
    constructor
    · intro h
      rw [abs_of_neg (by linarith)] at hup
      linarith [hup (by linarith)]
    · intro h
      by_cases hb0 : b < 0
      · rw [abs_of_neg hb0] at hdown
        linarith [hdown (by linarith)]
      · linarith
  · rw [Int.sign_eq_one_of_pos hn]
    have hpos : (0 : ℚ) < n := by exact_mod_cast hn
    have habs : (n.natAbs : ℚ) = n := by
      rw [Nat.cast_natAbs, Int.cast_abs, abs_of_pos hpos]
    rw [habs] at hdown hup
    push_cast
    constructor
    · intro h
      by_cases hb0 : b < 0
      · linarith
      · rw [abs_of_nonneg (by linarith)] at hdown
        linarith [hdown h]
    · intro h
      rw [abs_of_pos (by linarith)] at hup
      linarith [hup h]
/-- **Which numbers are read as they are**: the doubles. -/
theorem toDouble_eq_iff {q : ℚ} (hq : IsNumber q) :
    toDouble (num q) = q ↔ binary64.Represents q := by
  refine ⟨fun h => ?_, toDouble_represents⟩
  rcases hq with ⟨n, rfl, hlow, hhigh⟩ | hdouble
  swap
  · exact hdouble
  rw [toDouble_int, Int.cast_inj, roundToDouble_eq] at h
  set e := n.natAbs.log2 - 52 with he
  have hdvd : 2 ^ e ∣ n.natAbs := by
    rw [← h, Int.natAbs_mul, Int.natAbs_natCast]
    exact (Nat.dvd_mul_left _ _).mul_left _
  obtain ⟨t, ht⟩ := hdvd
  have hlt : n.natAbs < 2 ^ (53 + e) :=
    Nat.lt_log2_self.trans_le (Nat.pow_le_pow_right (by decide) (by omega))
  have hbound : n.natAbs.log2 ≤ 63 := by
    by_cases hzero : n.natAbs = 0
    · rw [hzero]
      decide
    by_contra hlarge
    have := (Nat.le_log2 hzero).mp (show 64 ≤ n.natAbs.log2 by omega)
    omega
  refine ⟨t, e + binary64.scale, ?_, ?_, ?_⟩
  · -- the bits that are not zeros fit
    rw [ht, Nat.mul_comm, Nat.pow_add] at hlt
    exact Nat.lt_of_mul_lt_mul_right hlt
  · show e + 1074 + 3 ≤ 2 ^ 11
    omega
  · have habs : |(n : ℚ)| = ((2 ^ e * t : Nat) : ℚ) := by
      rw [← ht, Nat.cast_natAbs, Int.cast_abs]
    rw [habs]
    push_cast
    rw [pow_add]
    ring

theorem single_bound : (2 ^ 128 - 2 ^ 103 : ℚ) = ((2 ^ 128 - 2 ^ 103 : Nat) : ℚ) := by norm_num

/-- **Which numbers have a float**: those below half a step above the largest one. -/
theorem single_isSome_iff (v : ℚ) :
    (binary32.toRat (binary32.ofRat v)).isSome ↔ |v| < 2 ^ 128 - 2 ^ 103 := by
  have hden : (0 : ℚ) < v.den := Nat.cast_pos.mpr v.den_pos
  have habs : |v| = v.num.natAbs / v.den := by
    rw [Nat.cast_natAbs, Int.cast_abs, ← abs_of_pos hden, ← abs_div, Rat.num_div_den]
  rw [toRat_ofRat_isSome, habs, div_lt_iff₀ hden, single_bound, ← Nat.cast_mul, Nat.cast_lt]
  show 2 * (v.num.natAbs * 2 ^ 149) < (2 ^ 25 - 1) * (v.den * 2 ^ 253) ↔ _
  omega

/-- The steps between floats at an integer with more than 53 bits, and between doubles: the integer
lies on the other side of the middle between two floats than its double. -/
def CrossesFloatMiddle (n : Int) : Prop :=
  CrossesMiddle n.natAbs (2 ^ (n.natAbs.log2 - 52)) (2 ^ (n.natAbs.log2 - 23))

/-- **An integer that is read as a double** first is rounded to the same float, but on the other
side of a middle. -/
theorem single_rounded_once {n : Int} (hlo : 2 ^ 53 ≤ n.natAbs) (hhi : n.natAbs ≤ 2 ^ 63) :
    binary32.toRat (binary32.ofRat (roundToDouble n)) = binary32.toRat (binary32.ofRat n) ↔
      ¬ CrossesFloatMiddle n := by
  have hne : n.natAbs ≠ 0 := by omega
  have hlow : 2 ^ n.natAbs.log2 ≤ n.natAbs := Nat.log2_self_le hne
  have hhigh : n.natAbs ≤ 2 ^ (n.natAbs.log2 + 1) := Nat.lt_log2_self.le
  have hlog : 53 ≤ n.natAbs.log2 := (Nat.le_log2 hne).mpr hlo
  have hlog' : n.natAbs.log2 ≤ 63 := by
    by_contra hlarge
    have := Nat.pow_le_pow_right (show 0 < 2 by decide) (show 64 ≤ n.natAbs.log2 by omega)
    omega
  unfold CrossesFloatMiddle
  rw [roundToDouble_eq]
  generalize n.natAbs.log2 = e at *
  -- the double has the same leading bit, or is the next power of two
  obtain ⟨hdown, hup⟩ := roundedFraction_bounds (F := binary64) (show 52 ≤ e by omega) hlow hhigh
  change 2 ^ 52 ≤ roundHalfEven n.natAbs (2 ^ (e - 52)) at hdown
  change roundHalfEven n.natAbs (2 ^ (e - 52)) ≤ 2 ^ (52 + 1) at hup
  set y := roundHalfEven n.natAbs (2 ^ (e - 52)) with hy
  set d : Int := n.sign * (y * 2 ^ (e - 52) : Nat) with hd
  have hsign : n.sign ≠ 0 := by
    rw [Ne, Int.sign_eq_zero_iff_zero]
    omega
  have habs : d.natAbs = y * 2 ^ (e - 52) := by
    rw [hd, Int.natAbs_mul, Int.natAbs_sign, if_neg (by omega), Nat.one_mul, Int.natAbs_natCast]
  have hbounds : ∀ i, 2 ^ (e + i) = 2 ^ (52 + i) * 2 ^ (e - 52) := by
    intro i
    rw [← Nat.pow_add]
    congr 1
    omega
  have hdsign : d.sign = n.sign := by
    have hpos : 0 < y * 2 ^ (e - 52) :=
      Nat.mul_pos (Nat.lt_of_lt_of_le (Nat.two_pow_pos _) hdown) (Nat.two_pow_pos _)
    rw [hd, Int.sign_mul, Int.sign_sign, Int.sign_natCast_of_ne_zero hpos.ne', Int.mul_one]
  have hdlow : 2 ^ e ≤ d.natAbs := by
    rw [habs]
    exact (hbounds 0).le.trans (Nat.mul_le_mul_right _ hdown)
  have hdhigh : d.natAbs ≤ 2 ^ (e + 1) := by
    rw [habs, hbounds 1]
    exact Nat.mul_le_mul_right _ hup
  have hexponent : e + binary32.scale + 4 ≤ 2 ^ binary32.exponent + binary32.fraction := by
    show e + 149 + 4 ≤ 256 + 23
    omega
  have hf : binary32.fraction ≤ e := by
    show 23 ≤ e
    omega
  rw [toRat_ofRat_int hf hdlow hdhigh hexponent, toRat_ofRat_int hf hlow hhigh hexponent,
    hdsign, habs, Option.some.injEq, Int.cast_inj, Int.mul_eq_mul_left_iff hsign, Int.natCast_inj,
    Nat.mul_left_inj (Nat.two_pow_pos _).ne']
  -- the floats lie on a grid that is coarser than that of the doubles
  have hgrid : 2 ^ (e - 23) = 2 ^ (e - 52) * (4 * 2 ^ 27) := by
    rw [← Nat.pow_add 2 2 27, ← Nat.pow_add]
    congr 1
    omega
  show roundHalfEven (y * 2 ^ (e - 52)) (2 ^ (e - 23)) = roundHalfEven n.natAbs (2 ^ (e - 23)) ↔ _
  rw [hgrid, hy]
  exact roundHalfEven_twice (Nat.two_pow_pos _) (Nat.two_pow_pos _)

end Stdiolink.Protocol.Json
