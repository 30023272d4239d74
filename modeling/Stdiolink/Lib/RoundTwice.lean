/-
  Stdiolink.Lib.RoundTwice — integers that are rounded to a format, once or twice.

  An integer with more bits than a format has is rounded.  When it is rounded to a finer grid
  first, the second rounding goes wrong only where the first one has put it on the middle between
  two numbers of the coarser grid, and the even one of them is on the other side.

  Main results:
    * `Represents.between`  — rounding stays on the same side of the numbers of the format;
    * `toRat_ofRat_int`     — what an integer is rounded to;
    * `roundHalfEven_twice` — when rounding twice is rounding once;
    * `toRat_ofRat_isSome`  — which numbers are too large.
-/
import Stdiolink.Lib.BinaryFloat

namespace Stdiolink.Lib.FloatFormat

/-! ## §1. Rounding quotients -/

/-- A quotient and what is left, which may be all of the divisor. -/
theorem roundHalfEven_add {d q x : Nat} (hd : 0 < d) (hx : x ≤ d) :
    roundHalfEven (d * q + x) d = if 2 * x < d ∨ 2 * x = d ∧ q % 2 = 0 then q else q + 1 := by
  unfold roundHalfEven
  obtain hlt | rfl := Nat.lt_or_eq_of_le hx
  · rw [Nat.mul_add_mod, Nat.mod_eq_of_lt hlt, Nat.mul_add_div hd, Nat.div_eq_of_lt hlt,
      Nat.add_zero]
  · rw [← Nat.mul_succ, Nat.mul_mod_right, Nat.mul_div_cancel_left _ hd, if_pos (Or.inl (by omega)),
      if_neg (by omega)]

theorem roundHalfEven_scale {a d c : Nat} (hc : 0 < c) :
    roundHalfEven (a * c) (d * c) = roundHalfEven a d := by
  unfold roundHalfEven
  rw [Nat.mul_mod_mul_right, Nat.mul_div_mul_right _ _ hc, ← Nat.mul_assoc]
  congr 1
  rw [Nat.mul_lt_mul_right hc, Nat.mul_left_inj hc.ne']

/-- The quotient is rounded down or up. -/
theorem le_roundHalfEven (a d : Nat) :
    a / d ≤ roundHalfEven a d ∧ roundHalfEven a d ≤ a / d + 1 := by
  unfold roundHalfEven
  split_ifs <;> omega

/-- Rounding to multiples of `d` stays on the same side of a multiple. -/
theorem roundHalfEven_between {m d t : Nat} (hd : 0 < d) :
    (t * d ≤ m → t ≤ roundHalfEven m d) ∧ (m ≤ t * d → roundHalfEven m d ≤ t) := by
  obtain ⟨hdown, hup⟩ := le_roundHalfEven m d
  refine ⟨fun h => ((Nat.le_div_iff_mul_le hd).mpr h).trans hdown, fun h => ?_⟩
  obtain hlt | rfl := Nat.lt_or_eq_of_le h
  · have hquot := (Nat.div_lt_iff_lt_mul hd).mpr hlt
    omega
  · exact (roundHalfEven_exact hd).le

/-- **Rounding stays on the same side** of the numbers of the format. -/
theorem Represents.between {F : FloatFormat} {v : ℚ} {m e : Nat} (h : F.Represents v)
    (hm : 2 ^ (F.fraction + e) ≤ m) :
    (|v| ≤ m → |v| ≤ (roundHalfEven m (2 ^ e) * 2 ^ e : Nat)) ∧
      (m ≤ |v| → (roundHalfEven m (2 ^ e) * 2 ^ e : Nat) ≤ |v|) := by
  obtain ⟨t, j, ht, -, habs⟩ := h
  have hpos : (0 : ℚ) < 2 ^ F.scale := pow_pos two_pos _
  have hle : ∀ x : Nat, (|v| ≤ x ↔ t * 2 ^ j ≤ x * 2 ^ F.scale) ∧
      (x ≤ |v| ↔ x * 2 ^ F.scale ≤ t * 2 ^ j) := by
    intro x
    rw [← mul_le_mul_iff_left₀ hpos, ← mul_le_mul_iff_left₀ hpos (b := (x : ℚ)), habs]
    constructor <;> norm_cast
  rw [(hle _).1, (hle _).1, (hle _).2, (hle _).2, Nat.mul_assoc, ← Nat.pow_add]
  obtain hj | hj := le_or_gt (e + F.scale) j
  · -- the number is a multiple of the step
    have hmul : t * 2 ^ j = t * 2 ^ (j - (e + F.scale)) * 2 ^ e * 2 ^ F.scale := by
      rw [Nat.mul_assoc, Nat.mul_assoc, ← Nat.pow_add, ← Nat.pow_add]
      congr 2
      omega
    have hscale := Nat.two_pow_pos F.scale
    rw [hmul, Nat.pow_add, ← Nat.mul_assoc, Nat.mul_le_mul_right_iff hscale,
      Nat.mul_le_mul_right_iff hscale, Nat.mul_le_mul_right_iff hscale,
      Nat.mul_le_mul_right_iff hscale, Nat.mul_le_mul_right_iff (Nat.two_pow_pos e),
      Nat.mul_le_mul_right_iff (Nat.two_pow_pos e)]
    exact roundHalfEven_between (Nat.two_pow_pos e)
  · -- it is below all that is rounded with this step
    have hsmall : t * 2 ^ j < 2 ^ F.fraction * 2 ^ (e + F.scale) := by
      calc t * 2 ^ j < 2 ^ (F.fraction + 1) * 2 ^ j :=
            Nat.mul_lt_mul_of_pos_right ht (Nat.two_pow_pos j)
        _ = 2 ^ F.fraction * 2 ^ (j + 1) := by rw [← Nat.pow_add, ← Nat.pow_add]; congr 1; omega
        _ ≤ 2 ^ F.fraction * 2 ^ (e + F.scale) :=
            Nat.mul_le_mul_left _ (Nat.pow_le_pow_right (by omega) hj)
    have hfraction : 2 ^ F.fraction ≤ roundHalfEven m (2 ^ e) :=
      (roundHalfEven_between (Nat.two_pow_pos e)).1 (by rwa [← Nat.pow_add])
    have hlarge : 2 ^ F.fraction * 2 ^ (e + F.scale) ≤ m * 2 ^ F.scale := by
      rw [Nat.pow_add, ← Nat.mul_assoc, ← Nat.pow_add]
      exact Nat.mul_le_mul_right _ hm
    refine ⟨fun _ => hsmall.le.trans (Nat.mul_le_mul_right _ hfraction), fun h => ?_⟩
    omega
/-- **On the other side of the middle**: so near to the middle between two multiples of `d` that
rounding to multiples of `w` gives the middle, while the even one of the two is farther away. -/
def CrossesMiddle (m w d : Nat) : Prop :=
  m / d % 2 = 1 ∧ 2 * (m % d) < d ∧ d ≤ 2 * (m % d) + w ∨
    m / d % 2 = 0 ∧ d < 2 * (m % d) ∧ 2 * (m % d) ≤ d + w

instance (m w d : Nat) : Decidable (CrossesMiddle m w d) := by
  unfold CrossesMiddle
  infer_instance

/-- An even multiple more. -/
theorem roundHalfEven_even_add {w : Nat} (hw : 0 < w) (k r : Nat) :
    roundHalfEven (w * (2 * k) + r) w = 2 * k + roundHalfEven r w := by
  unfold roundHalfEven
  rw [Nat.mul_add_mod, Nat.mul_add_div hw, Nat.mul_add_mod]
  split_ifs <;> omega

/-- The rest, rounded to the finer grid, against the middle, an even multiple. -/
theorem rest_middle {w s r : Nat} (hw : 0 < w) :
    (roundHalfEven r w < 2 * s ↔ 2 * r + w < 2 * (w * (2 * s))) ∧
      (2 * s < roundHalfEven r w ↔ 2 * (w * (2 * s)) + w < 2 * r) := by
  have hr : w * (r / w) + r % w = r := Nat.div_add_mod r w
  have hlt : r % w < w := Nat.mod_lt r hw
  unfold roundHalfEven
  generalize r / w = a at *
  generalize r % w = b at *
  have hplace : a + 2 ≤ 2 * s ∨ a + 1 = 2 * s ∨ a = 2 * s ∨ 2 * s + 1 ≤ a := by omega
  rcases hplace with h | h | h | h
  · have hprod : w * a + w * 2 ≤ w * (2 * s) := by
      rw [← Nat.mul_add]
      exact Nat.mul_le_mul_left w h
    split_ifs <;> omega
  · -- the middle is the next multiple, and is even
    have hprod : w * a + w = w * (2 * s) := by rw [← h, Nat.mul_succ]
    split_ifs <;> omega
  · have hprod : w * a = w * (2 * s) := by rw [h]
    split_ifs <;> omega
  · have hprod : w * (2 * s) + w ≤ w * a := by
      rw [← Nat.mul_succ]
      exact Nat.mul_le_mul_left w h
    split_ifs <;> omega

/-- **Rounding twice** is rounding once, but on the other side of a middle. -/
theorem roundHalfEven_twice {m w s : Nat} (hw : 0 < w) (hs : 0 < s) :
    roundHalfEven (roundHalfEven m w * w) (w * (4 * s)) = roundHalfEven m (w * (4 * s)) ↔
      ¬ CrossesMiddle m w (w * (4 * s)) := by
  have hd : 0 < w * (4 * s) := Nat.mul_pos hw (by omega)
  have hrest : m % (w * (4 * s)) < w * (4 * s) := Nat.mod_lt m hd
  have hm : w * (4 * s) * (m / (w * (4 * s))) + m % (w * (4 * s)) = m := Nat.div_add_mod m _
  unfold CrossesMiddle
  generalize m / (w * (4 * s)) = q at *
  generalize m % (w * (4 * s)) = r at *
  obtain ⟨hbelow, habove⟩ := rest_middle (s := s) (r := r) hw
  have hhalf : w * (4 * s) = 2 * (w * (2 * s)) := by ring
  -- the first rounding leaves the quotient alone, and may make the rest as large as the divisor
  have hfine : roundHalfEven m w * w = w * (4 * s) * q + roundHalfEven r w * w := by
    rw [← hm, show w * (4 * s) * q = w * (2 * (2 * s * q)) by ring, roundHalfEven_even_add hw]
    ring
  have hle : w * roundHalfEven r w ≤ w * (4 * s) := by
    have hquot : r / w < 4 * s := Nat.div_lt_of_lt_mul hrest
    have hup := (le_roundHalfEven r w).2
    exact Nat.mul_le_mul_left w (by omega)
  rw [hfine, ← hm, Nat.mul_comm (roundHalfEven r w), roundHalfEven_add hd hle,
    roundHalfEven_add hd hrest.le]
  generalize roundHalfEven r w = t at *
  rcases Nat.lt_trichotomy t (2 * s) with ht | ht | ht
  · have hprod : w * t < w * (2 * s) := Nat.mul_lt_mul_of_pos_left ht hw
    split_ifs <;> omega
  · have hprod : w * t = w * (2 * s) := by rw [ht]
    split_ifs <;> omega
  · have hprod : w * (2 * s) < w * t := Nat.mul_lt_mul_of_pos_left ht hw
    split_ifs <;> omega

/-! ## §2. Integers with more bits than the fraction -/

section Integers

variable {F : FloatFormat} {n : Int} {e : Nat} (hf : F.fraction ≤ e) (hlo : 2 ^ e ≤ n.natAbs)
  (hhi : n.natAbs ≤ 2 ^ (e + 1))

/-- The rounded fraction of an integer, with its leading bit. -/
def roundedFraction (F : FloatFormat) (e m : Nat) : Nat := roundHalfEven m (2 ^ (e - F.fraction))

include hf hlo hhi

/-- The rounded fraction has its leading bit, and may be the next power of two. -/
theorem roundedFraction_bounds :
    2 ^ F.fraction ≤ roundedFraction F e n.natAbs ∧
      roundedFraction F e n.natAbs ≤ 2 ^ (F.fraction + 1) := by
  have hpos : 0 < 2 ^ (e - F.fraction) := Nat.two_pow_pos _
  have hsplit : ∀ i, 2 ^ (e + i) = 2 ^ (F.fraction + i) * 2 ^ (e - F.fraction) := by
    intro i
    rw [← Nat.pow_add]
    congr 1
    omega
  have hlow : 2 ^ F.fraction ≤ n.natAbs / 2 ^ (e - F.fraction) := by
    rw [Nat.le_div_iff_mul_le hpos]
    exact (hsplit 0).symm.le.trans hlo
  obtain ⟨hdown, hup⟩ := le_roundHalfEven n.natAbs (2 ^ (e - F.fraction))
  refine ⟨hlow.trans hdown, ?_⟩
  obtain hlt | heq := Nat.lt_or_eq_of_le hhi
  · rw [hsplit 1] at hlt
    have hquot := (Nat.div_lt_iff_lt_mul hpos).mpr hlt
    unfold roundedFraction
    omega
  · rw [roundedFraction, heq, hsplit 1, roundHalfEven_exact hpos]

/-- The bits of an integer. -/
theorem ofRat_int :
    F.ofRat n = (if n < 0 then 1 else 0) * 2 ^ (F.fraction + F.exponent) +
      min ((e + F.scale - F.fraction) * 2 ^ F.fraction + roundedFraction F e n.natAbs)
        ((2 ^ F.exponent - 1) * 2 ^ F.fraction) := by
  have hlog : ∀ i, 2 ^ i ≤ n.natAbs → n.natAbs < 2 ^ (i + 1) →
      (n.natAbs * 2 ^ F.scale).log2 = i + F.scale := by
    intro i hi hi'
    rw [Nat.log2_eq_iff (Nat.mul_ne_zero (by have := Nat.two_pow_pos i; omega)
      (Nat.two_pow_pos _).ne'), Nat.pow_add, show i + F.scale + 1 = i + 1 + F.scale by omega,
      Nat.pow_add 2 (i + 1)]
    exact ⟨Nat.mul_le_mul_right _ hi, Nat.mul_lt_mul_of_pos_right hi' (Nat.two_pow_pos _)⟩
  have hround : ∀ i, F.fraction ≤ i →
      roundHalfEven (n.natAbs * 2 ^ F.scale) (1 * 2 ^ (i + F.scale - F.fraction)) =
        roundedFraction F i n.natAbs := by
    intro i hi
    rw [Nat.one_mul, show i + F.scale - F.fraction = i - F.fraction + F.scale by omega, Nat.pow_add,
      roundHalfEven_scale (Nat.two_pow_pos _)]
    rfl
  unfold ofRat
  dsimp only
  rw [Rat.num_intCast, Rat.den_intCast, Nat.div_one]
  simp only [Int.cast_lt_zero]
  obtain hlt | heq := Nat.lt_or_eq_of_le hhi
  · rw [hlog e hlo hlt, hround e hf]
  · -- the next power of two has the next exponent, and no more than the leading bit
    have hnext := hlog (e + 1) heq.symm.le (by
      rw [heq]
      exact Nat.pow_lt_pow_right (by decide) (by omega))
    have hsame : (e + 1 + F.scale - F.fraction) * 2 ^ F.fraction +
        roundedFraction F (e + 1) n.natAbs =
          (e + F.scale - F.fraction) * 2 ^ F.fraction + roundedFraction F e n.natAbs := by
      have hexact : ∀ i j, F.fraction ≤ i → e + 1 = i - F.fraction + j →
          roundedFraction F i n.natAbs = 2 ^ j := by
        intro i j hi hj
        rw [roundedFraction, heq, hj, Nat.add_comm, Nat.pow_add,
          roundHalfEven_exact (Nat.two_pow_pos _)]
      rw [hexact (e + 1) F.fraction (by omega) (by omega),
        hexact e (F.fraction + 1) hf (by omega), Nat.pow_succ,
        show e + 1 + F.scale - F.fraction = e + F.scale - F.fraction + 1 by omega]
      ring
    rw [hnext, hround (e + 1) (by omega), hsame]

/-- **What an integer is rounded to.** -/
theorem toRat_ofRat_int (hexponent : e + F.scale + 4 ≤ 2 ^ F.exponent + F.fraction) :
    F.toRat (F.ofRat n) =
      some ((n.sign * (roundedFraction F e n.natAbs * 2 ^ (e - F.fraction) : Nat) : Int) : ℚ) := by
  obtain ⟨hlow, hhigh⟩ := roundedFraction_bounds hf hlo hhi
  set R := roundedFraction F e n.natAbs with hR
  have hpos : 0 < 2 ^ (e - F.fraction) := Nat.two_pow_pos _
  have hprod : 0 < R * 2 ^ (e - F.fraction) :=
    Nat.mul_pos (Nat.lt_of_lt_of_le (Nat.two_pow_pos _) hlow) hpos
  have hne : n ≠ 0 := by
    rintro rfl
    have := Nat.two_pow_pos e
    simp at hlo
  set v : Int := n.sign * (R * 2 ^ (e - F.fraction) : Nat) with hv
  have habs : v.natAbs = R * 2 ^ (e - F.fraction) := by
    rw [hv, Int.natAbs_mul, Int.natAbs_sign, if_neg hne, Nat.one_mul, Int.natAbs_natCast]
  have hneg : v < 0 ↔ n < 0 := by
    rcases Int.lt_trichotomy n 0 with h | h | h
    · rw [hv, Int.sign_eq_neg_one_of_neg h]
      omega
    · exact absurd h hne
    · rw [hv, Int.sign_eq_one_of_pos h]
      omega
  -- the rounded number has the same bits
  have hbits : F.ofRat v = F.ofRat n := by
    have hsplit : ∀ i, 2 ^ (e + i) = 2 ^ (F.fraction + i) * 2 ^ (e - F.fraction) := by
      intro i
      rw [← Nat.pow_add]
      congr 1
      omega
    have hexact : roundedFraction F e v.natAbs = R := by
      rw [habs, roundedFraction, roundHalfEven_exact hpos]
    rw [@ofRat_int F v e hf, ofRat_int hf hlo hhi, hexact]
    · simp only [hneg, hR]
    · rw [habs]
      exact (hsplit 0).le.trans (Nat.mul_le_mul_right _ hlow)
    · rw [habs, hsplit 1]
      exact Nat.mul_le_mul_right _ hhigh
  have hrep : F.Represents v := by
    have hcast : |(v : ℚ)| * 2 ^ F.scale =
        ((R * 2 ^ (e - F.fraction) * 2 ^ F.scale : Nat) : ℚ) := by
      rw [← Int.cast_abs, Int.abs_eq_natAbs, habs]
      push_cast
      ring
    obtain hlt | heq := Nat.lt_or_eq_of_le hhigh
    · refine ⟨R, e - F.fraction + F.scale, hlt, by omega, ?_⟩
      rw [hcast, Nat.pow_add 2 (e - F.fraction), Nat.mul_assoc]
    · refine ⟨2 ^ F.fraction, e - F.fraction + F.scale + 1, ?_, by omega, ?_⟩
      · exact Nat.pow_lt_pow_right (by decide) (by omega)
      · rw [hcast, heq, Nat.pow_succ 2 (e - F.fraction + F.scale), Nat.pow_succ 2 F.fraction,
          Nat.pow_add 2 (e - F.fraction)]
        congr 1
        ring
  rw [← hbits]
  exact toRat_ofRat hrep

end Integers

/-! ## §3. Numbers that are too large -/

section Large

variable {F : FloatFormat}

/-- The bits stand for a number below those of the infinity. -/
theorem toRat_isSome {s c : Nat} (hs : s < 2) (hc : c ≤ (2 ^ F.exponent - 1) * 2 ^ F.fraction) :
    (F.toRat (s * 2 ^ (F.fraction + F.exponent) + c)).isSome ↔
      c < (2 ^ F.exponent - 1) * 2 ^ F.fraction := by
  have hpos : 0 < 2 ^ F.fraction := Nat.two_pow_pos _
  constructor
  · intro h
    by_contra hge
    obtain rfl : c = (2 ^ F.exponent - 1) * 2 ^ F.fraction := by omega
    have hexp : (s * 2 ^ (F.fraction + F.exponent) + (2 ^ F.exponent - 1) * 2 ^ F.fraction) /
        2 ^ F.fraction % 2 ^ F.exponent = 2 ^ F.exponent - 1 := by
      have hwide : 0 < 2 ^ F.exponent := Nat.two_pow_pos _
      rw [Nat.pow_add, Nat.mul_left_comm, Nat.mul_comm (2 ^ F.exponent - 1), ← Nat.mul_add,
        Nat.mul_div_cancel_left _ hpos, Nat.mul_comm, Nat.mul_add_mod,
        Nat.mod_eq_of_lt (by omega)]
    unfold toRat at h
    simp only [hexp, if_true, Option.isSome_none] at h
    cases h
  · intro h
    rw [toRat_signed hs ((Nat.div_lt_iff_lt_mul hpos).mpr h)]
    rfl

/-- Where a magnitude comes to the bits of the infinity. -/
theorem magnitude_lt_iff {a d f k K : Nat} (hd : 0 < d) (hk : k = (a / d).log2 - f) :
    k * 2 ^ f + roundHalfEven a (d * 2 ^ k) < (K + 2) * 2 ^ f ↔
      2 * a < (2 ^ (f + 2) - 1) * (d * 2 ^ K) := by
  have hP : 0 < 2 ^ f := Nat.two_pow_pos f
  have hstep : 0 < d * 2 ^ k := Nat.mul_pos hd (Nat.two_pow_pos k)
  have htop : 0 < d * 2 ^ K := Nat.mul_pos hd (Nat.two_pow_pos K)
  -- the quotient has no more bits than the fraction and the leading one
  have hhigh : a < 2 * (d * 2 ^ k * 2 ^ f) := by
    have hquot : a / d < 2 ^ (k + (f + 1)) :=
      Nat.lt_of_lt_of_le Nat.lt_log2_self (Nat.pow_le_pow_right (by decide) (by omega))
    rw [Nat.div_lt_iff_lt_mul hd, Nat.pow_add, Nat.pow_succ] at hquot
    calc a < 2 ^ k * (2 ^ f * 2) * d := hquot
      _ = 2 * (d * 2 ^ k * 2 ^ f) := by ring
  -- and it has the leading one, but for the least exponent
  have hlow : 0 < k → d * 2 ^ k * 2 ^ f ≤ a := by
    intro hpos
    have hne : a / d ≠ 0 := by
      intro hzero
      rw [hzero, Nat.log2_zero] at hk
      omega
    have hquot := Nat.log2_self_le hne
    rw [show (a / d).log2 = k + f by omega, Nat.le_div_iff_mul_le hd, Nat.pow_add] at hquot
    calc d * 2 ^ k * 2 ^ f = 2 ^ k * 2 ^ f * d := by ring
      _ ≤ a := hquot
  have hgrow : ∀ {i j}, i < j → 2 * (d * 2 ^ i * 2 ^ f) ≤ d * 2 ^ j * 2 ^ f := by
    intro i j hij
    calc 2 * (d * 2 ^ i * 2 ^ f) = d * 2 ^ (i + 1) * 2 ^ f := by rw [Nat.pow_succ]; ring
      _ ≤ d * 2 ^ j * 2 ^ f :=
        Nat.mul_le_mul_right _ (Nat.mul_le_mul_left d (Nat.pow_le_pow_right (by decide) hij))
  have htwice : (2 ^ (f + 2) - 1) * (d * 2 ^ K) = 4 * (d * 2 ^ K * 2 ^ f) - d * 2 ^ K := by
    rw [Nat.sub_mul, Nat.one_mul, Nat.pow_add]
    congr 1
    ring
  have hone : d * 2 ^ K ≤ d * 2 ^ K * 2 ^ f := Nat.le_mul_of_pos_right _ hP
  have hquot : a / (d * 2 ^ k) < 2 * 2 ^ f := Nat.div_lt_of_lt_mul (by
    rw [Nat.mul_left_comm]
    exact hhigh)
  obtain ⟨hdown, hup⟩ := le_roundHalfEven a (d * 2 ^ k)
  rw [htwice, Nat.add_mul]
  rcases Nat.lt_trichotomy k K with h | rfl | h
  · -- not the largest exponent
    have hexp : (k + 1) * 2 ^ f ≤ K * 2 ^ f := Nat.mul_le_mul_right _ h
    have hgrown := hgrow h
    rw [Nat.succ_mul] at hexp
    constructor <;> intro <;> omega
  · -- the largest one: the fraction must not be rounded up to the next power of two
    have ha : d * 2 ^ k * (a / (d * 2 ^ k)) + a % (d * 2 ^ k) = a := Nat.div_add_mod a _
    have hrest : a % (d * 2 ^ k) < d * 2 ^ k := Nat.mod_lt a hstep
    generalize a / (d * 2 ^ k) = q at *
    generalize a % (d * 2 ^ k) = r at *
    rw [← ha, roundHalfEven_add hstep hrest.le]
    by_cases hlast : q + 1 = 2 * 2 ^ f
    · have hprod : d * 2 ^ k * q + d * 2 ^ k = 2 * (d * 2 ^ k * 2 ^ f) := by
        rw [← Nat.mul_succ, Nat.succ_eq_add_one, hlast]
        ring
      split_ifs <;> omega
    · have hprod : d * 2 ^ k * (q + 2) ≤ d * 2 ^ k * (2 * 2 ^ f) :=
        Nat.mul_le_mul_left _ (by omega)
      rw [Nat.mul_add, Nat.mul_left_comm _ 2] at hprod
      split_ifs <;> omega
  · -- a larger one
    have hexp : (K + 1) * 2 ^ f ≤ k * 2 ^ f := Nat.mul_le_mul_right _ h
    have hgrown := hgrow h
    have hlow := hlow (by omega)
    have hlead : 2 ^ f ≤ a / (d * 2 ^ k) := by
      rw [Nat.le_div_iff_mul_le hstep, Nat.mul_comm]
      exact hlow
    rw [Nat.succ_mul] at hexp
    constructor <;> intro <;> omega

/-- **Too large**: from half a step above the largest number on. -/
theorem toRat_ofRat_isSome (v : ℚ) :
    (F.toRat (F.ofRat v)).isSome ↔
      2 * (v.num.natAbs * 2 ^ F.scale) <
        (2 ^ (F.fraction + 2) - 1) * (v.den * 2 ^ (2 ^ F.exponent - 3)) := by
  have hsign : (if v < 0 then 1 else 0) < 2 := by split_ifs <;> decide
  unfold ofRat
  dsimp only
  have hfour : 4 ≤ 2 ^ F.exponent := Nat.pow_le_pow_right (show 0 < 2 by decide) F.two_le
  rw [toRat_isSome hsign (Nat.min_le_right _ _), min_lt_iff, or_iff_left (lt_irrefl _),
    show 2 ^ F.exponent - 1 = 2 ^ F.exponent - 3 + 2 by omega]
  exact magnitude_lt_iff v.den_pos rfl

end Large

end Stdiolink.Lib.FloatFormat
