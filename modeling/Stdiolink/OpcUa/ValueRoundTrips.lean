/-
  Stdiolink.OpcUa.ValueRoundTrips — which values come back from the OPC UA server.

  A value that is accepted is turned into a variant and back.  Strings go through C strings and
  through a reader that drops a byte order mark, base64 is read leniently, numbers are read as
  doubles, and dates are written for the years 1 to 9999 only.

  Main results:
    * `parseIntegerValue_strict` — an integer is accepted as it is;
    * `string_returns`           — what of a string comes back;
    * `returned_iff`             — for each type, which accepted values come back.
-/
import Stdiolink.Cli.Paths
import Stdiolink.OpcUa.Values

namespace Stdiolink.OpcUa

open Stdiolink.Lib
open Stdiolink.Lib.FloatFormat
open Stdiolink.Protocol
open Stdiolink.Protocol.Json
open Stdiolink.Cli (splitSign)

variable (texts : Texts)

/-! ## §1. What should come back -/

/-- The integer that a text denotes: digits behind an optional sign, between blanks. -/
structure DecimalOf (text : String) (n : Int) : Prop where
  nonempty : (splitSign (trimmed text).toList).2 ≠ []
  digits : ∀ c ∈ (splitSign (trimmed text).toList).2, c.isDigit = true
  value : n = (splitSign (trimmed text).toList).1 *
    Nat.ofDigitChars 10 (splitSign (trimmed text).toList).2 0

/-- **The value comes back**: the same one; for the types with texts, the canonical text of the same
integer, bytes or instant, and for a float the nearest one. -/
def Returned : DataType → Json → Json → Prop
  | .int64, value, out | .uint64, value, out =>
    ∃ s n, value = .str s ∧ DecimalOf s n ∧ out = .str (toString n)
  | .float, value, out =>
    ∃ q r, value = .num q ∧ binary32.toRat (binary32.ofRat q) = some r ∧ out = .num r
  | .byteString, value, out =>
    ∃ s bytes, value = .str s ∧ IsBase64Of (Utf8.encode s.toList) bytes ∧
      out = .str (String.ofList (Utf8.ascii (toBase64 bytes)))
  | .dateTime, value, out =>
    ∃ s t s', value = .str s ∧ parseIsoDateTime texts s = some t ∧ out = .str s' ∧
      parseIsoDateTime texts s' = some t
  | _, value, out => out = value

/-- The years 1 to 9999, in milliseconds since the epoch. -/
def InIsoYears (t : Int) : Prop := -62135596800000 ≤ t ∧ t < 253402300800000

instance (t : Int) : Decidable (InIsoYears t) := by
  unfold InIsoYears
  infer_instance

/-- **What Qt says of its ISO dates**: they are for the years 1 to 9999, and are read back. -/
structure IsoDates : Prop where
  reads : ∀ t, InIsoYears t → parseIsoDateTime texts (texts.toIsoDateWithMs t) = some t
  no_text : ∀ t, ¬ InIsoYears t → texts.toIsoDateWithMs t = ""
  no_date : parseIsoDateTime texts "" = none

/-- **Which values come back.**  A `QString` with a lone surrogate, which UTF-8 cannot carry, is no
`String` and not among them. -/
def Kept : DataType → Json → Prop
  | .float, .num q =>
    |q| < 2 ^ 128 - 2 ^ 103 ∧
      ∀ n : Int, q = n → 2 ^ 53 ≤ n.natAbs → n.natAbs ≤ 2 ^ 63 → ¬ CrossesFloatMiddle n
  | .double, .num q => binary64.Represents q
  | .string, .str s => '\x00' ∉ s.toList ∧ s.toList.head? ≠ some '\ufeff'
  | .byteString, .str s => ∃ bytes, IsBase64Of (Utf8.encode s.toList) bytes
  | .dateTime, .str s => ∀ t, parseIsoDateTime texts s = some t → InIsoYears t
  | _, _ => True

/-! ## §2. Integers -/

section Integers

variable {texts}

theorem le_castTo {lo hi : Int} (h : lo ≤ hi) (raw : ℚ) : lo ≤ castTo texts lo hi raw := by
  unfold castTo
  dsimp only
  split_ifs with hin
  · exact hin.1
  · have := Int.emod_nonneg (texts.undefinedCast raw) (show hi - lo + 1 ≠ 0 by omega)
    omega

variable {n : Int} {value : Json} {text : String}

/-- A number that is read as a small integer is that integer. -/
theorem eq_of_reads {q : ℚ} (hn : n.natAbs < 2 ^ 53) (h : toDouble (.num q) = roundToDouble n) :
    q = n := by
  rw [roundToDouble_small hn.le] at h
  exact eq_of_toDouble_eq h hn

/-- **What a strict check for an integer accepts.** -/
theorem parseIntegerValue_strict {lo hi : Int} (hlo : -2 ^ 53 < lo) (hhi : hi < 2 ^ 53)
    (h : parseIntegerValue texts value true lo hi = .ok n) :
    value = .num n ∧ lo ≤ n ∧ n ≤ hi := by
  cases value with
  | num q =>
    simp only [parseIntegerValue] at h
    split_ifs at h with hrefused
    obtain rfl := Except.ok.inj h
    simp only [not_or, not_not, not_lt] at hrefused
    obtain ⟨hreads, hn⟩ := hrefused
    refine ⟨congrArg _ (eq_of_reads ?_ hreads), hn⟩
    omega
  | _ => cases h

theorem parseUnsignedValue_strict {hi : Int} (hhi : hi < 2 ^ 53)
    (h : parseUnsignedValue texts value true hi = .ok n) : value = .num n ∧ 0 ≤ n ∧ n ≤ hi := by
  cases value with
  | num q =>
    simp only [parseUnsignedValue] at h
    split_ifs at h with hrefused
    obtain rfl := Except.ok.inj h
    simp only [not_or, not_not, not_lt] at hrefused
    obtain ⟨hreads, hn⟩ := hrefused
    have hzero := @le_castTo texts 0 (2 ^ 64 - 1) (by decide) (toDouble (.num q))
    refine ⟨congrArg _ (eq_of_reads ?_ hreads), hzero, hn⟩
    omega
  | _ => cases h

/-- An accepted decimal text denotes the integer. -/
theorem decimalOf_toInteger {lo hi : Int} (h : toInteger lo hi (trimmed text).toList = some n) :
    DecimalOf text n ∧ lo ≤ n ∧ n ≤ hi := by
  unfold toInteger at h
  dsimp only at h
  split_ifs at h with hdigits hrange
  obtain rfl := Option.some.inj h
  simp only [Bool.or_eq_true, List.isEmpty_iff, Bool.not_eq_true', not_or, Bool.not_eq_false,
    List.all_eq_true] at hdigits
  exact ⟨⟨hdigits.1, hdigits.2, rfl⟩, hrange⟩

theorem parseIntegerString_decimal (h : parseIntegerString text (-2 ^ 63) (2 ^ 63 - 1) = some n) :
    DecimalOf text n ∧ -2 ^ 63 ≤ n ∧ n ≤ 2 ^ 63 - 1 := by
  unfold parseIntegerString at h
  split at h
  · rename_i parsed hread
    split_ifs at h
    obtain rfl := Option.some.inj h
    exact decimalOf_toInteger hread
  · cases h

theorem parseUnsignedString_decimal (h : parseUnsignedString text (2 ^ 64 - 1) = some n) :
    DecimalOf text n ∧ 0 ≤ n ∧ n ≤ 2 ^ 64 - 1 := by
  unfold parseUnsignedString at h
  split_ifs at h
  split at h
  · rename_i parsed hread
    split_ifs at h
    obtain rfl := Option.some.inj h
    exact decimalOf_toInteger hread
  · cases h

/-- **What a strict check for an integer of 64 bits accepts.** -/
theorem parseInt64Value_strict (h : parseInt64Value texts value true = .ok n) :
    ∃ s, value = .str s ∧ DecimalOf s n ∧ -2 ^ 63 ≤ n ∧ n ≤ 2 ^ 63 - 1 := by
  cases value with
  | str s =>
    refine ⟨s, rfl, parseIntegerString_decimal ?_⟩
    unfold parseInt64Value at h
    rw [if_neg (by simp [isString])] at h
    split at h
    · rename_i parsed hread
      obtain rfl := Except.ok.inj h
      exact hread
    · cases h
  | _ => cases h

theorem parseUInt64Value_strict (h : parseUInt64Value texts value true = .ok n) :
    ∃ s, value = .str s ∧ DecimalOf s n ∧ 0 ≤ n ∧ n ≤ 2 ^ 64 - 1 := by
  cases value with
  | str s =>
    refine ⟨s, rfl, parseUnsignedString_decimal ?_⟩
    unfold parseUInt64Value at h
    rw [if_neg (by simp [isString])] at h
    split at h
    · rename_i parsed hread
      obtain rfl := Except.ok.inj h
      exact hread
    · cases h
  | _ => cases h

end Integers

/-! ## §3. Doubles and floats -/

section Numbers

variable {texts}

/-- An integer of 64 bits is rounded to a double. -/
theorem represents_roundToDouble {n : Int} (hn : n.natAbs ≤ 2 ^ 63) :
    binary64.Represents (roundToDouble n) := by
  obtain hsmall | hlarge := Nat.lt_or_ge n.natAbs (2 ^ 53)
  · rw [roundToDouble_small hsmall.le]
    exact represents_int hsmall (by decide)
  · have hne : n.natAbs ≠ 0 := by omega
    have hlog : 53 ≤ n.natAbs.log2 := (Nat.le_log2 hne).mpr hlarge
    have hlog' : n.natAbs.log2 ≤ 63 := by
      by_contra hlarge
      have := Nat.pow_le_pow_right (show 0 < 2 by decide) (show 64 ≤ n.natAbs.log2 by omega)
      have := Nat.log2_self_le hne
      omega
    have hvalue := toRat_ofRat_int (F := binary64) (n := n) (e := n.natAbs.log2)
      (show 52 ≤ n.natAbs.log2 by omega) (Nat.log2_self_le hne) Nat.lt_log2_self.le (by
        show n.natAbs.log2 + 1074 + 4 ≤ 2048 + 52
        omega)
    rw [roundToDouble_eq]
    exact represents_toRat hvalue

variable {q : ℚ}

/-- What is read from a number is a double. -/
theorem represents_toDouble (h : IsNumber q) : binary64.Represents (toDouble (.num q)) := by
  obtain ⟨n, rfl, hn⟩ | hdouble := h
  · rw [toDouble_int]
    exact represents_roundToDouble (by omega)
  · rw [toDouble_represents hdouble]
    exact hdouble

theorem toNat_bits64 (v : ℚ) : (UInt64.ofNat (binary64.ofRat v)).toNat = binary64.ofRat v :=
  UInt64.toNat_ofNat_of_lt' (ofRat_lt v)

theorem toNat_bits32 (v : ℚ) : (UInt32.ofNat (binary32.ofRat v)).toNat = binary32.ofRat v :=
  UInt32.toNat_ofNat_of_lt' (ofRat_lt v)

/-- **A double** comes back where the number is one. -/
theorem double_returns (q : ℚ) :
    ofFinite (binary64.toRat (UInt64.ofNat (binary64.ofRat (toDouble (.num q)))).toNat) = .num q ↔
      binary64.Represents q := by
  rw [toNat_bits64, ofFinite_eq_num]
  constructor
  · exact represents_toRat
  · intro h
    rw [toDouble_represents h]
    exact toRat_ofRat h

theorem castToFloat_of {bits : UInt64} {v : ℚ} (h : binary64.toRat bits.toNat = some v) :
    (castToFloat bits).toNat = binary32.ofRat v := by
  unfold castToFloat
  rw [h]
  exact toNat_bits32 v

/-- The float of a number. -/
theorem castToFloat_number (h : IsNumber q) :
    (castToFloat (UInt64.ofNat (binary64.ofRat (toDouble (.num q))))).toNat =
      binary32.ofRat (toDouble (.num q)) := by
  apply castToFloat_of
  rw [toNat_bits64]
  exact toRat_ofRat (represents_toDouble h)

/-- A float comes back where the number is not too large and is rounded as if it were once. -/
theorem float_returns_of_eq
    (heq : binary32.toRat (binary32.ofRat (toDouble (.num q))) = binary32.toRat (binary32.ofRat q)) :
    (∃ r, binary32.toRat (binary32.ofRat q) = some r ∧
        ofFinite (binary32.toRat (binary32.ofRat (toDouble (.num q)))) = .num r) ↔
      |q| < 2 ^ 128 - 2 ^ 103 := by
  rw [← single_isSome_iff, Option.isSome_iff_exists, heq]
  refine exists_congr fun r => ?_
  rw [ofFinite_eq_num, and_self]

/-- **A float** comes back as the nearest one. -/
theorem float_returns (h : IsNumber q) :
    (∃ r, binary32.toRat (binary32.ofRat q) = some r ∧
        ofFinite (binary32.toRat (binary32.ofRat (toDouble (.num q)))) = .num r) ↔
      Kept texts .float (.num q) := by
  have hcast : ∀ {m n : Int}, (m : ℚ) = n → m = n := fun heq => Int.cast_injective heq
  by_cases hdouble : binary64.Represents q
  · -- the number is read as it is
    rw [float_returns_of_eq (by rw [toDouble_represents hdouble]), Kept]
    refine (and_iff_left ?_).symm
    intro n hq hlo hhi
    rw [hq] at hdouble
    rw [← single_rounded_once hlo hhi, roundToDouble_represents hdouble]
  · -- an integer between two doubles
    obtain ⟨n, rfl, hn⟩ | hdouble' := h
    · have hlo : 2 ^ 53 ≤ n.natAbs := by
        by_contra hsmall
        exact hdouble (represents_int (show n.natAbs < 2 ^ 53 by omega) (by decide))
      have hhi : n.natAbs ≤ 2 ^ 63 := by omega
      have hbound : |(n : ℚ)| < 2 ^ 128 - 2 ^ 103 := by
        rw [← Int.cast_abs, Int.abs_eq_natAbs, Int.cast_natCast, single_bound, Nat.cast_lt]
        exact Nat.lt_of_le_of_lt hhi (by decide)
      rw [Kept, and_iff_right hbound, toDouble_int]
      constructor
      · rintro ⟨r, hr, hout⟩ m hm _ _
        obtain rfl := hcast hm
        rw [ofFinite_eq_num] at hout
        exact (single_rounded_once hlo hhi).mp (hout.trans hr.symm)
      · intro hmiddle
        have heq := (single_rounded_once hlo hhi).mpr (hmiddle n rfl hlo hhi)
        rw [← toDouble_int] at heq ⊢
        exact (float_returns_of_eq heq).mpr hbound
    · exact absurd hdouble' hdouble

end Numbers

/-! ## §4. Texts -/

section Strings

theorem fromUtf8_encode (text : List Char) :
    fromUtf8 texts (Utf8.encode text) = String.ofList (Utf8.dropByteOrderMark text) := by
  unfold fromUtf8
  rw [Utf8.decode?_encode]
  dsimp only
  rw [String.toList_ofList]

/-- The text of UTF-8. -/
theorem uaStringToQString_encode (text : List Char) :
    uaStringToQString texts (Utf8.encode text) = String.ofList (Utf8.dropByteOrderMark text) := by
  unfold uaStringToQString
  rw [fromUtf8_encode]
  split_ifs with hempty
  · rw [List.isEmpty_iff] at hempty
    obtain rfl : text = [] := by
      cases text with
      | nil => rfl
      | cons c text => simp [Utf8.encode, String.utf8EncodeChar_ne_nil] at hempty
    rfl
  · rfl

/-- **What of a string comes back.** -/
theorem string_returns (s : String) :
    uaStringToQString texts (cString (Utf8.encode s.toList)) =
      String.ofList (Utf8.dropByteOrderMark (s.toList.takeWhile (· ≠ '\x00'))) := by
  rw [Utf8.cString_encode, uaStringToQString_encode]

/-- Base64 is ASCII. -/
theorem fromUtf8_toBase64 (bytes : List UInt8) :
    fromUtf8 texts (toBase64 bytes) = String.ofList (Utf8.ascii (toBase64 bytes)) := by
  have hascii := toBase64_lt bytes
  have hmark : (Utf8.ascii (toBase64 bytes)).head? ≠ some '\ufeff' := by
    intro h
    obtain ⟨b, hb, hchar⟩ := List.mem_map.mp (List.mem_of_mem_head? h)
    have hone : ∀ n : Fin 128, Char.ofNat n ≠ '\ufeff' := by decide
    exact hone ⟨b.toNat, hascii b hb⟩ hchar
  conv_lhs => rw [← Utf8.encode_ascii hascii]
  rw [fromUtf8_encode, Utf8.dropByteOrderMark, if_neg hmark]

end Strings

/-! ## §5. Dates -/

section Dates

variable {texts}

/-- An instant of the years 1 to 9999 is kept in ticks. -/
theorem uaDateTime_ticks {t : Int} (h : InIsoYears t) :
    uaDateTimeToQDateTime (Int64.ofInt (UA_DATETIME_UNIX_EPOCH + t * UA_DATETIME_MSEC)) = t := by
  obtain ⟨hlo, hhi⟩ := h
  unfold uaDateTimeToQDateTime UA_DATETIME_UNIX_EPOCH UA_DATETIME_MSEC
  rw [← Int64.ofInt_sub, add_sub_cancel_left, Int64.toInt_ofInt_of_le (by omega) (by omega),
    Int.mul_tdiv_cancel _ (by decide)]

/-- **A date** comes back where its instant is in the years 1 to 9999. -/
theorem date_returns (hdates : IsoDates texts) {t : Int} :
    (∃ s, texts.toIsoDateWithMs (uaDateTimeToQDateTime
        (Int64.ofInt (UA_DATETIME_UNIX_EPOCH + t * UA_DATETIME_MSEC))) = s ∧
          parseIsoDateTime texts s = some t) ↔ InIsoYears t := by
  constructor
  · rintro ⟨s, rfl, hs⟩
    by_contra hyears
    -- what is written is another instant, or no date at all
    by_cases hyears' : InIsoYears (uaDateTimeToQDateTime
        (Int64.ofInt (UA_DATETIME_UNIX_EPOCH + t * UA_DATETIME_MSEC)))
    · rw [hdates.reads _ hyears'] at hs
      rw [Option.some.inj hs] at hyears'
      exact hyears hyears'
    · rw [hdates.no_text _ hyears', hdates.no_date] at hs
      cases hs
  · intro h
    refine ⟨_, rfl, ?_⟩
    rw [uaDateTime_ticks h]
    exact hdates.reads t h

end Dates

/-! ## §6. All types -/

theorem map_ok {ε α β : Type*} {f : α → β} {r : Except ε α} {b : β} :
    r.map f = .ok b ↔ ∃ a, r = .ok a ∧ f a = b := by
  cases r <;> simp [Except.map]

/-- Which values of a type come back. -/
theorem scalar_returned_iff {texts : Texts} (hdates : IsoDates texts) {type : DataType}
    {name : String} {value : Json} {v : Scalar} (hnum : ∀ q, value = .num q → IsNumber q)
    (h : jsonToScalar texts type name value true = .ok v) :
    Returned texts type value (scalarToJson texts v) ↔ Kept texts type value := by
  cases type with
  | boolean =>
    obtain ⟨b, hb, rfl⟩ := map_ok.mp h
    refine iff_of_true ?_ trivial
    cases value with
    | bool b' =>
      obtain rfl := Except.ok.inj hb
      rfl
    | num q =>
      simp only [parseBoolValue, Bool.not_true, Bool.false_and, Bool.false_eq_true, if_false] at hb
      cases hb
    | str s =>
      simp only [parseBoolValue, Bool.not_true, Bool.false_and, Bool.false_eq_true, if_false] at hb
      cases hb
    | _ => cases hb
  | int16 =>
    obtain ⟨n, hn, rfl⟩ := map_ok.mp h
    obtain ⟨rfl, hlo, hhi⟩ := parseIntegerValue_strict (by decide) (by decide) hn
    refine iff_of_true ?_ trivial
    show Json.num _ = _
    rw [Int16.toInt_ofInt_of_le hlo (by omega)]
  | uint16 =>
    obtain ⟨n, hn, rfl⟩ := map_ok.mp h
    obtain ⟨rfl, hlo, hhi⟩ := parseUnsignedValue_strict (by decide) hn
    refine iff_of_true ?_ trivial
    obtain ⟨m, rfl⟩ := Int.eq_ofNat_of_zero_le hlo
    have hlt : m < UInt16.size := Int.ofNat_lt.mp (Int.lt_of_le_of_lt hhi (by decide))
    show Json.num _ = _
    rw [Int.toNat_natCast, UInt16.toNat_ofNat_of_lt' hlt, Int.cast_natCast]
  | int32 =>
    obtain ⟨n, hn, rfl⟩ := map_ok.mp h
    obtain ⟨rfl, hlo, hhi⟩ := parseIntegerValue_strict (by decide) (by decide) hn
    refine iff_of_true ?_ trivial
    show Json.num _ = _
    rw [Int32.toInt_ofInt_of_le hlo (by omega)]
  | uint32 =>
    obtain ⟨n, hn, rfl⟩ := map_ok.mp h
    obtain ⟨rfl, hlo, hhi⟩ := parseUnsignedValue_strict (by decide) hn
    refine iff_of_true ?_ trivial
    obtain ⟨m, rfl⟩ := Int.eq_ofNat_of_zero_le hlo
    have hlt : m < UInt32.size := Int.ofNat_lt.mp (Int.lt_of_le_of_lt hhi (by decide))
    show Json.num _ = _
    rw [Int.toNat_natCast, UInt32.toNat_ofNat_of_lt' hlt, Int.cast_natCast]
  | int64 =>
    obtain ⟨n, hn, rfl⟩ := map_ok.mp h
    obtain ⟨s, rfl, hdecimal, hlo, hhi⟩ := parseInt64Value_strict hn
    refine iff_of_true ⟨s, n, rfl, hdecimal, ?_⟩ trivial
    show Json.str _ = _
    rw [Int64.toInt_ofInt_of_le hlo (by omega)]
  | uint64 =>
    obtain ⟨n, hn, rfl⟩ := map_ok.mp h
    obtain ⟨s, rfl, hdecimal, hlo, hhi⟩ := parseUInt64Value_strict hn
    refine iff_of_true ⟨s, n, rfl, hdecimal, ?_⟩ trivial
    obtain ⟨m, rfl⟩ := Int.eq_ofNat_of_zero_le hlo
    have hlt : m < UInt64.size := Int.ofNat_lt.mp (Int.lt_of_le_of_lt hhi (by decide))
    show Json.str _ = _
    rw [Int.toNat_natCast, UInt64.toNat_ofNat_of_lt' hlt]
  | float =>
    obtain ⟨bits, hbits, rfl⟩ := map_ok.mp h
    cases value with
    | num q =>
      obtain rfl := Except.ok.inj hbits
      rw [← float_returns (hnum q rfl), ← castToFloat_number (hnum q rfl)]
      constructor
      · rintro ⟨q', r, hq, hr, hout⟩
        obtain rfl := Json.num.inj hq
        exact ⟨r, hr, hout⟩
      · rintro ⟨r, hr, hout⟩
        exact ⟨q, r, rfl, hr, hout⟩
    | _ => cases hbits
  | double =>
    obtain ⟨bits, hbits, rfl⟩ := map_ok.mp h
    cases value with
    | num q =>
      obtain rfl := Except.ok.inj hbits
      exact double_returns q
    | _ => cases hbits
  | string =>
    cases value with
    | str s =>
      obtain rfl := Except.ok.inj h
      show Json.str _ = Json.str s ↔ _
      rw [Json.str.injEq, string_returns, ← String.toList_inj, String.toList_ofList]
      exact Utf8.cut_eq_self_iff s.toList
    | _ => cases h
  | byteString =>
    cases value with
    | str s =>
      simp only [jsonToScalar] at h
      split_ifs at h
      obtain rfl := Except.ok.inj h
      constructor
      · rintro ⟨s', bytes, hs, htext, -⟩
        obtain rfl := Json.str.inj hs
        exact ⟨bytes, htext⟩
      · rintro ⟨bytes, htext⟩
        refine ⟨s, bytes, rfl, htext, ?_⟩
        show Json.str _ = _
        rw [fromBase64_of_text htext, fromUtf8_toBase64]
    | _ => cases h
  | dateTime =>
    cases value with
    | str s =>
      simp only [jsonToScalar] at h
      split at h
      · rename_i t ht
        obtain rfl := Except.ok.inj h
        show _ ↔ ∀ t, parseIsoDateTime texts s = some t → InIsoYears t
        simp only [ht, Option.some.injEq, forall_eq']
        rw [← date_returns hdates]
        constructor
        · rintro ⟨s', t', out, hs, ht', hout, hback⟩
          obtain rfl := Json.str.inj hs
          obtain rfl := Option.some.inj (ht.symm.trans ht')
          exact ⟨out, Json.str.inj hout, hback⟩
        · rintro ⟨out, hout, hback⟩
          exact ⟨s, t, out, rfl, ht, congrArg _ hout, hback⟩
      · cases h
    | _ => cases h
  | _ => cases h

/-- **Which accepted values come back**: for each type, all but those that a C string, the reader of
UTF-8 or of base64, a double, a float or a date cannot hold. -/
theorem returned_iff {texts : Texts} (hdates : IsoDates texts) {name : String} {type : DataType}
    (hname : resolveBuiltinDataType name = .ok type) {value : Json} {v : Variant}
    (hnum : ∀ q, value = .num q → IsNumber q)
    (h : jsonToVariant texts name value true = .ok v) :
    Returned texts type value (variantToJson texts v) ↔ Kept texts type value := by
  unfold jsonToVariant at h
  rw [hname] at h
  obtain ⟨scalar, hscalar, rfl⟩ := map_ok.mp h
  exact scalar_returned_iff hdates hnum hscalar

/-! ## §7. On concrete values -/

def epochText : String := "1970-01-01T00:00:00.000Z"

/-- Texts of instants: the one of the epoch, and numbers for the others. -/
def plainDate (t : Int) : String :=
  if t = 0 then epochText else if InIsoYears t then toString t else ""

def readPlainDate (text : String) : Option Int :=
  if text = epochText then some 0
  else Cli.toBoundedInt (-62135596800000) 253402300799999 text.toList

theorem readPlainDate_plainDate {t : Int} (h : InIsoYears t) :
    readPlainDate (plainDate t) = some t := by
  unfold plainDate
  by_cases hzero : t = 0
  · rw [if_pos hzero, hzero]
    rfl
  · have hread := Cli.toBoundedInt_toString (-62135596800000) 253402300799999 t
    rw [if_pos ⟨h.1, Int.lt_add_one_iff.mp h.2⟩] at hread
    have hother : toString t ≠ epochText := by
      intro heq
      have hnone : Cli.toBoundedInt (-62135596800000) 253402300799999 epochText.toList = none := by
        decide
      rw [heq, hnone] at hread
      cases hread
    rw [if_neg hzero, if_pos h, readPlainDate, if_neg hother, hread]

/-- Texts with these dates. -/
def plainTexts : Texts where
  fromMalformed _ := "\ufffd"
  isoDateWithMs := readPlainDate
  isoDate _ := none
  toIsoDateWithMs := plainDate
  number q := toString q.num
  toDouble _ := none
  compact _ := "[]"
  undefinedCast _ := 0
  parseNodeId _ := .error "BadDecodingError"
  printNodeId nodeId :=
    .ok (Utf8.encode ("ns=" ++ toString nodeId.namespaceIndex.toNat ++ ";").toList)
  printExpandedNodeId nodeId :=
    .ok (Utf8.encode ("svr=" ++ toString nodeId.serverIndex.toNat ++ ";").toList)

theorem plainTexts_isoDates : IsoDates plainTexts := by
  constructor
  · intro t ht
    show (readPlainDate (plainDate t)).or none = some t
    rw [readPlainDate_plainDate ht]
    rfl
  · intro t ht
    have hzero : t ≠ 0 := by
      rintro rfl
      exact ht (by decide)
    show plainDate t = ""
    rw [plainDate, if_neg hzero, if_neg ht]
  · decide

/-- Of the one type that rests on Qt's dates: the epoch is accepted and comes back. -/
theorem epoch_returned :
    jsonToVariant plainTexts "DateTime" (.str epochText) true =
        .ok (.scalar (.dateTime 116444736000000000)) ∧
      Returned plainTexts .dateTime (.str epochText)
        (variantToJson plainTexts (.scalar (.dateTime 116444736000000000))) := by
  have hread : parseIsoDateTime plainTexts epochText = some 0 := by decide
  have haccepted : jsonToVariant plainTexts "DateTime" (.str epochText) true =
      .ok (.scalar (.dateTime 116444736000000000)) := by
    simp only [jsonToVariant, show resolveBuiltinDataType "DateTime" = .ok .dateTime by decide,
      jsonToScalar, hread]
    rfl
  refine ⟨haccepted, (returned_iff plainTexts_isoDates (by decide) ?_ haccepted).mpr ?_⟩
  · intro q hq
    cases hq
  · intro t ht
    obtain rfl := Option.some.inj (hread.symm.trans ht)
    decide

/-- **What is lost**: the end of a string behind a NUL, a byte order mark, and the characters in
base64 that are passed over. -/
theorem accepted_and_lost :
    (jsonToVariant plainTexts "string" (.str "a\x00b") true = .ok (.scalar (.string [97])) ∧
      ¬ Returned plainTexts .string (.str "a\x00b")
        (variantToJson plainTexts (.scalar (.string [97])))) ∧
    (jsonToVariant plainTexts "bytestring" (.str "QU*JD") true =
        .ok (.scalar (.byteString [65, 66, 67])) ∧
      ¬ Returned plainTexts .byteString (.str "QU*JD")
        (variantToJson plainTexts (.scalar (.byteString [65, 66, 67])))) := by
  refine ⟨⟨rfl, ?_⟩, rfl, ?_⟩
  · show ¬ Json.str (uaStringToQString plainTexts (Utf8.encode ['a'])) = .str "a\x00b"
    rw [uaStringToQString_encode, Json.str.injEq]
    decide
  · rintro ⟨s, bytes, hs, htext, -⟩
    obtain rfl := Json.str.inj hs
    have hstar := htext.digit_or_pad (b := 42) (by decide)
    revert hstar
    decide

end Stdiolink.OpcUa
