/-
  Stdiolink.Lib.BinaryFloat — binary floating-point numbers as bits.

  A finite number of a format is a multiple of the least positive one.  `toRat` says what the bits
  stand for, and `ofRat` rounds to the nearest number, to the even one of two.

  Main results:
    * `toRat_ofRat`      — a number of the format is its own rounding;
    * `represents_toRat` — what the bits stand for is a number of the format;
    * `represents_int`, `Represents.mono` — integers, and the numbers of a smaller format.
-/
import Mathlib.Algebra.Order.Field.Basic
import Mathlib.Algebra.Order.Field.Rat
import Mathlib.Data.Nat.Log
import Mathlib.Tactic.Ring

namespace Stdiolink.Lib

/-- A format: the bits of the fraction and of the exponent. -/
structure FloatFormat where
  fraction : Nat
  exponent : Nat
  two_le : 2 ≤ exponent

def binary32 : FloatFormat := ⟨23, 8, by decide⟩

def binary64 : FloatFormat := ⟨52, 11, by decide⟩

namespace FloatFormat

variable (F : FloatFormat)

/-- The least positive number is the inverse of this power of two. -/
def scale : Nat := 2 ^ (F.exponent - 1) - 1 + F.fraction - 1

/-- The magnitude for an exponent and a fraction, in least positive numbers. -/
def magnitude (e f : Nat) : Nat := if e = 0 then f else (2 ^ F.fraction + f) * 2 ^ (e - 1)

/-- What the bits stand for; none for infinities and for what is no number. -/
def toRat (bits : Nat) : Option ℚ :=
  let f := bits % 2 ^ F.fraction
  let e := bits / 2 ^ F.fraction % 2 ^ F.exponent
  let s := bits / 2 ^ (F.fraction + F.exponent) % 2
  if e = 2 ^ F.exponent - 1 then none
  else some ((if s = 1 then -1 else 1) * F.magnitude e f / 2 ^ F.scale)

/-- The quotient, to the nearest number, and to the even one of two. -/
def roundHalfEven (a d : Nat) : Nat :=
  if 2 * (a % d) < d ∨ 2 * (a % d) = d ∧ a / d % 2 = 0 then a / d else a / d + 1

/-- The bits of the nearest number; an infinity, if it is too large. -/
def ofRat (v : ℚ) : Nat :=
  let a := v.num.natAbs * 2 ^ F.scale
  let k := (a / v.den).log2 - F.fraction
  (if v < 0 then 1 else 0) * 2 ^ (F.fraction + F.exponent) +
    min (k * 2 ^ F.fraction + roundHalfEven a (v.den * 2 ^ k))
      ((2 ^ F.exponent - 1) * 2 ^ F.fraction)

/-- **The numbers of a format.** -/
def Represents (v : ℚ) : Prop :=
  ∃ t j : Nat, t < 2 ^ (F.fraction + 1) ∧ j + 3 ≤ 2 ^ F.exponent ∧
    |v| * 2 ^ F.scale = ((t * 2 ^ j : Nat) : ℚ)

/-! ## Exact numbers -/

section Exact

variable {F}

theorem roundHalfEven_exact {q d : Nat} (hd : 0 < d) : roundHalfEven (q * d) d = q := by
  unfold roundHalfEven
  rw [Nat.mul_mod_left, Nat.mul_div_cancel _ hd, if_pos (Or.inl (by omega))]

/-- The exponent of a multiple of a power of two. -/
theorem log2_le_of_eq {t j n : Nat} (ht : t < 2 ^ (F.fraction + 1)) (hn : n = t * 2 ^ j) :
    n.log2 - F.fraction ≤ j := by
  by_cases hzero : n = 0
  · rw [hzero, Nat.log2_zero]
    omega
  · have hlt : n < 2 ^ (F.fraction + 1 + j) := by
      rw [hn, Nat.pow_add 2 (F.fraction + 1) j]
      exact Nat.mul_lt_mul_of_pos_right ht (Nat.two_pow_pos j)
    have hlog := (Nat.log2_lt hzero).mpr hlt
    omega

/-- The bits of a magnitude, without the sign. -/
def encode (F : FloatFormat) (n : Nat) : Nat :=
  (n.log2 - F.fraction) * 2 ^ F.fraction + n / 2 ^ (n.log2 - F.fraction)

/-- The fraction with its leading bit. -/
theorem encode_quotient (n : Nat) :
    n / 2 ^ (n.log2 - F.fraction) < 2 * 2 ^ F.fraction ∧
      (n.log2 - F.fraction ≠ 0 → 2 ^ F.fraction ≤ n / 2 ^ (n.log2 - F.fraction)) := by
  have hpos : 0 < 2 ^ (n.log2 - F.fraction) := Nat.two_pow_pos _
  constructor
  · rw [Nat.div_lt_iff_lt_mul hpos, ← Nat.pow_succ', ← Nat.pow_add]
    exact Nat.lt_of_lt_of_le Nat.lt_log2_self (Nat.pow_le_pow_right (by decide) (by omega))
  · intro hk
    have hn : n ≠ 0 := by
      rintro rfl
      rw [Nat.log2_zero] at hk
      omega
    rw [Nat.le_div_iff_mul_le hpos, ← Nat.pow_add]
    exact Nat.le_trans (Nat.pow_le_pow_right (by decide) (by omega)) (Nat.log2_self_le hn)

/-- **The fields of a magnitude** give it back. -/
theorem magnitude_encode {n : Nat} (hdvd : 2 ^ (n.log2 - F.fraction) ∣ n) :
    F.magnitude (F.encode n / 2 ^ F.fraction) (F.encode n % 2 ^ F.fraction) = n := by
  obtain ⟨hlt, hge⟩ := encode_quotient (F := F) n
  have hpos : 0 < 2 ^ F.fraction := Nat.two_pow_pos _
  have hwhole : n / 2 ^ (n.log2 - F.fraction) * 2 ^ (n.log2 - F.fraction) = n :=
    Nat.div_mul_cancel hdvd
  unfold encode magnitude
  generalize n / 2 ^ (n.log2 - F.fraction) = q at *
  generalize n.log2 - F.fraction = k at *
  generalize 2 ^ F.fraction = p at *
  have hdiv : (k * p + q) / p = k + q / p := by
    rw [Nat.mul_comm, Nat.mul_add_div hpos]
  have hmod : (k * p + q) % p = q % p := by
    rw [Nat.mul_comm, Nat.mul_add_mod]
  rw [hdiv, hmod]
  by_cases hq : q < p
  · -- there is no leading bit: a subnormal number
    obtain rfl : k = 0 := by
      by_contra hk
      exact absurd (hge hk) (by omega)
    rw [Nat.div_eq_of_lt hq, Nat.mod_eq_of_lt hq, if_pos rfl]
    simpa using hwhole
  · have hone : q / p = 1 := Nat.div_eq_of_lt_le (by omega) (by omega)
    have hrest : p + q % p = q := by
      rw [Nat.mod_eq_sub_mod (by omega), Nat.mod_eq_of_lt (by omega)]
      omega
    rw [hone, if_neg (by omega), hrest, Nat.add_sub_cancel]
    exact hwhole

/-- The exponent of a magnitude. -/
theorem encode_div_le (n : Nat) :
    F.encode n / 2 ^ F.fraction ≤ n.log2 - F.fraction + 1 := by
  obtain ⟨hlt, -⟩ := encode_quotient (F := F) n
  have hpos : 0 < 2 ^ F.fraction := Nat.two_pow_pos _
  unfold encode
  rw [Nat.mul_comm, Nat.mul_add_div hpos]
  have hone : n / 2 ^ (n.log2 - F.fraction) / 2 ^ F.fraction < 2 :=
    (Nat.div_lt_iff_lt_mul hpos).mpr hlt
  omega

/-- The bits of a finite number, with the sign. -/
theorem toRat_signed {s c : Nat} (hs : s < 2) (hc : c / 2 ^ F.fraction < 2 ^ F.exponent - 1) :
    F.toRat (s * 2 ^ (F.fraction + F.exponent) + c) =
      some ((if s = 1 then -1 else 1) *
        (F.magnitude (c / 2 ^ F.fraction) (c % 2 ^ F.fraction) : ℚ) / 2 ^ F.scale) := by
  have hpos : 0 < 2 ^ F.fraction := Nat.two_pow_pos _
  have hwide : 0 < 2 ^ F.exponent := Nat.two_pow_pos _
  have hpow : 2 ^ (F.fraction + F.exponent) = 2 ^ F.fraction * 2 ^ F.exponent := Nat.pow_add _ _ _
  have hmod : (s * 2 ^ (F.fraction + F.exponent) + c) % 2 ^ F.fraction = c % 2 ^ F.fraction := by
    rw [hpow, Nat.mul_left_comm, Nat.mul_add_mod]
  have hdiv : (s * 2 ^ (F.fraction + F.exponent) + c) / 2 ^ F.fraction =
      s * 2 ^ F.exponent + c / 2 ^ F.fraction := by
    rw [hpow, Nat.mul_left_comm, Nat.mul_add_div hpos]
  have hexp : (s * 2 ^ F.exponent + c / 2 ^ F.fraction) % 2 ^ F.exponent = c / 2 ^ F.fraction := by
    rw [Nat.mul_comm, Nat.mul_add_mod, Nat.mod_eq_of_lt (by omega)]
  have hsign : (s * 2 ^ (F.fraction + F.exponent) + c) / 2 ^ (F.fraction + F.exponent) % 2 = s := by
    have hlt : c < 2 ^ (F.fraction + F.exponent) := by
      rw [hpow, Nat.mul_comm, ← Nat.div_lt_iff_lt_mul hpos]
      omega
    rw [Nat.mul_comm, Nat.mul_add_div (Nat.two_pow_pos _), Nat.div_eq_of_lt hlt, Nat.add_zero,
      Nat.mod_eq_of_lt hs]
  unfold toRat
  simp only [hmod, hdiv, hexp, hsign]
  rw [if_neg (by omega)]

/-- The magnitude of a number of the format, and its bits. -/
theorem ofRat_of_represents {v : ℚ} (h : F.Represents v) :
    ∃ n : Nat, |v| * 2 ^ F.scale = n ∧ 2 ^ (n.log2 - F.fraction) ∣ n ∧
      F.encode n / 2 ^ F.fraction < 2 ^ F.exponent - 1 ∧
        F.ofRat v = (if v < 0 then 1 else 0) * 2 ^ (F.fraction + F.exponent) + F.encode n := by
  obtain ⟨t, j, ht, hj, habs⟩ := h
  -- the magnitude, in least positive numbers
  set n := t * 2 ^ j with hn
  have hlog := log2_le_of_eq ht hn
  have hdvd : 2 ^ (n.log2 - F.fraction) ∣ n := by
    have hdvd' := (Nat.pow_dvd_pow 2 hlog).trans (Nat.dvd_mul_left (2 ^ j) t)
    rwa [← hn] at hdvd'
  have hexp : F.encode n / 2 ^ F.fraction < 2 ^ F.exponent - 1 := by
    have hle := encode_div_le (F := F) n
    omega
  refine ⟨n, habs, hdvd, hexp, ?_⟩
  have hnum : v.num.natAbs * 2 ^ F.scale = n * v.den := by
    have hden : (v.den : ℚ) ≠ 0 := Nat.cast_ne_zero.mpr v.den_nz
    have hcast : (v.num.natAbs : ℚ) = |v| * v.den := by
      rw [Nat.cast_natAbs, Int.cast_abs, ← Rat.mul_den_eq_num v, abs_mul, Nat.abs_cast]
    have hrat : ((v.num.natAbs * 2 ^ F.scale : Nat) : ℚ) = ((n * v.den : Nat) : ℚ) := by
      push_cast
      rw [hcast, ← habs]
      ring
    exact_mod_cast hrat
  have hquot : n * v.den / v.den = n := Nat.mul_div_cancel _ v.den_pos
  have hround : roundHalfEven (n * v.den) (v.den * 2 ^ (n.log2 - F.fraction)) =
      n / 2 ^ (n.log2 - F.fraction) := by
    have hsplit : n * v.den =
        n / 2 ^ (n.log2 - F.fraction) * (v.den * 2 ^ (n.log2 - F.fraction)) := by
      rw [Nat.mul_left_comm, Nat.div_mul_cancel hdvd, Nat.mul_comm]
    rw [hsplit]
    exact roundHalfEven_exact (Nat.mul_pos v.den_pos (Nat.two_pow_pos _))
  have hmin : F.encode n ≤ (2 ^ F.exponent - 1) * 2 ^ F.fraction := by
    rw [Nat.div_lt_iff_lt_mul (Nat.two_pow_pos _)] at hexp
    exact Nat.le_of_lt hexp
  unfold ofRat
  dsimp only
  rw [hnum, hquot, hround]
  show _ + min (F.encode n) _ = _
  rw [Nat.min_eq_left hmin]

/-- **A number of the format** is its own rounding. -/
theorem toRat_ofRat {v : ℚ} (h : F.Represents v) : F.toRat (F.ofRat v) = some v := by
  obtain ⟨n, habs, hdvd, hexp, hbits⟩ := ofRat_of_represents h
  have hscale : (2 : ℚ) ^ F.scale ≠ 0 := pow_ne_zero _ two_ne_zero
  have hvalue : |v| = n / 2 ^ F.scale := by
    rw [eq_div_iff hscale]
    exact habs
  rw [hbits]
  by_cases hneg : v < 0
  · rw [if_pos hneg, toRat_signed (by decide) hexp, magnitude_encode hdvd, if_pos rfl,
      mul_div_assoc, ← hvalue, abs_of_neg hneg]
    simp
  · rw [if_neg hneg, toRat_signed (by decide) hexp, magnitude_encode hdvd, if_neg (by decide),
      mul_div_assoc, ← hvalue, abs_of_nonneg (not_lt.mp hneg)]
    simp

/-- The bits fit. -/
theorem ofRat_lt (v : ℚ) : F.ofRat v < 2 ^ (F.fraction + F.exponent + 1) := by
  have hpos : 0 < 2 ^ F.fraction := Nat.two_pow_pos _
  have hwide : 0 < 2 ^ F.exponent := Nat.two_pow_pos _
  have hinf : (2 ^ F.exponent - 1) * 2 ^ F.fraction < 2 ^ (F.fraction + F.exponent) := by
    rw [Nat.pow_add, Nat.mul_comm]
    exact Nat.mul_lt_mul_of_pos_left (by omega) hpos
  have hsign : (if v < 0 then 1 else 0) * 2 ^ (F.fraction + F.exponent) ≤
      2 ^ (F.fraction + F.exponent) := by
    by_cases hneg : v < 0
    · rw [if_pos hneg, Nat.one_mul]
    · rw [if_neg hneg, Nat.zero_mul]
      exact Nat.zero_le _
  unfold ofRat
  rw [Nat.pow_succ]
  have hmin := Nat.min_le_right
    ((v.num.natAbs * 2 ^ F.scale / v.den).log2 - F.fraction * 2 ^ F.fraction)
    ((2 ^ F.exponent - 1) * 2 ^ F.fraction)
  dsimp only
  omega

end Exact

/-! ## The numbers of a format -/

section Numbers

variable {F} {G : FloatFormat}

/-- **What the bits stand for** is a number of the format. -/
theorem represents_toRat {bits : Nat} {v : ℚ} (h : F.toRat bits = some v) : F.Represents v := by
  unfold toRat at h
  dsimp only at h
  have hf : bits % 2 ^ F.fraction < 2 ^ F.fraction := Nat.mod_lt _ (Nat.two_pow_pos _)
  have he : bits / 2 ^ F.fraction % 2 ^ F.exponent < 2 ^ F.exponent :=
    Nat.mod_lt _ (Nat.two_pow_pos _)
  generalize bits % 2 ^ F.fraction = f at *
  generalize bits / 2 ^ F.fraction % 2 ^ F.exponent = e at *
  by_cases hinf : e = 2 ^ F.exponent - 1
  · rw [if_pos hinf] at h
    cases h
  · rw [if_neg hinf] at h
    obtain rfl := Option.some.inj h
    have hscale : (0 : ℚ) < 2 ^ F.scale := pow_pos two_pos _
    have habs : ∀ s : ℚ, |s| = 1 → |s * F.magnitude e f / 2 ^ F.scale| * 2 ^ F.scale =
        (F.magnitude e f : ℚ) := by
      intro s hs
      rw [abs_div, abs_mul, hs, one_mul, Nat.abs_cast, abs_of_pos hscale,
        div_mul_cancel₀ _ hscale.ne']
    have hsign : |(if bits / 2 ^ (F.fraction + F.exponent) % 2 = 1 then (-1 : ℚ) else 1)| = 1 := by
      split_ifs <;> simp
    rw [Represents, habs _ hsign]
    unfold magnitude
    by_cases hzero : e = 0
    · -- a subnormal number
      refine ⟨f, 0, ?_, ?_, ?_⟩
      · rw [Nat.pow_succ]
        omega
      · have hfour := Nat.pow_le_pow_right (show 0 < 2 by decide) F.two_le
        omega
      · rw [if_pos hzero, Nat.pow_zero, Nat.mul_one]
    · refine ⟨2 ^ F.fraction + f, e - 1, ?_, ?_, ?_⟩
      · rw [Nat.pow_succ]
        omega
      · omega
      · rw [if_neg hzero]

/-- Integers that are not too large. -/
theorem represents_int {n : Int} (hn : n.natAbs < 2 ^ (F.fraction + 1))
    (hscale : F.scale + 3 ≤ 2 ^ F.exponent) : F.Represents n := by
  refine ⟨n.natAbs, F.scale, hn, hscale, ?_⟩
  push_cast
  rw [Nat.cast_natAbs, Int.cast_abs]

/-- An integer of the format ends with zeros where it has more bits than the fraction. -/
theorem Represents.dvd_int {n : Int} (h : F.Represents n) :
    2 ^ (n.natAbs.log2 - F.fraction) ∣ n.natAbs := by
  obtain ⟨t, j, ht, -, habs⟩ := h
  have hscaled : n.natAbs * 2 ^ F.scale = t * 2 ^ j := by
    have hcast : ((n.natAbs * 2 ^ F.scale : Nat) : ℚ) = ((t * 2 ^ j : Nat) : ℚ) := by
      rw [← habs]
      push_cast
      rw [Nat.cast_natAbs, Int.cast_abs]
    exact_mod_cast hcast
  by_cases hzero : n.natAbs = 0
  · rw [hzero]
    exact Nat.dvd_zero _
  -- the bits fit the fraction, or the exponent is at least the number of bits that do not
  have hle : n.natAbs.log2 - F.fraction + F.scale ≤ j ∨ n.natAbs.log2 ≤ F.fraction := by
    have hlow : 2 ^ (n.natAbs.log2 + F.scale) ≤ n.natAbs * 2 ^ F.scale := by
      rw [Nat.pow_add]
      exact Nat.mul_le_mul_right _ (Nat.log2_self_le hzero)
    have hhigh : t * 2 ^ j < 2 ^ (F.fraction + 1 + j) := by
      rw [Nat.pow_add 2 (F.fraction + 1) j]
      exact Nat.mul_lt_mul_of_pos_right ht (Nat.two_pow_pos j)
    rw [← hscaled] at hhigh
    have hlt := (Nat.pow_lt_pow_iff_right (by decide)).mp (Nat.lt_of_le_of_lt hlow hhigh)
    omega
  obtain hle | hle := hle
  · have hdvd := (Nat.pow_dvd_pow 2 hle).trans (Nat.dvd_mul_left (2 ^ j) t)
    rw [← hscaled, Nat.pow_add] at hdvd
    exact Nat.dvd_of_mul_dvd_mul_right (Nat.two_pow_pos _) hdvd
  · rw [Nat.sub_eq_zero_of_le hle]
    exact Nat.one_dvd _

/-- **The numbers of a smaller format** are numbers of the larger one. -/
theorem Represents.mono {v : ℚ} (hfraction : F.fraction ≤ G.fraction) (hscale : F.scale ≤ G.scale)
    (hexponent : 2 ^ F.exponent + (G.scale - F.scale) ≤ 2 ^ G.exponent) (h : F.Represents v) :
    G.Represents v := by
  obtain ⟨t, j, ht, hj, habs⟩ := h
  refine ⟨t, j + (G.scale - F.scale), ?_, by omega, ?_⟩
  · exact Nat.lt_of_lt_of_le ht (Nat.pow_le_pow_right (by decide) (by omega))
  · have hsplit : (2 : ℚ) ^ G.scale = 2 ^ F.scale * 2 ^ (G.scale - F.scale) := by
      rw [← pow_add]
      congr 1
      omega
    rw [hsplit, ← mul_assoc, habs, pow_add]
    push_cast
    ring

end Numbers

end FloatFormat

end Stdiolink.Lib
