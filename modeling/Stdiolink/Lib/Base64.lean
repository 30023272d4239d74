/-
  Stdiolink.Lib.Base64 — bytes as base64 text.

  The lenient reader takes six bits from each digit and passes over whatever is no digit.  A text
  is base64 of some bytes when every digit counts and nothing but the padding of the last group
  comes behind the digits.

  Main results:
    * `fromBase64_of_text` — on such a text the lenient reader gives those bytes.
-/
import Mathlib.Algebra.Group.Nat.Defs
import Mathlib.Data.List.Basic
import Mathlib.Tactic.Common

namespace Stdiolink.Lib

/-! ## §1. Digits -/

/-- The value of a digit. -/
def base64Value (b : UInt8) : Option Nat :=
  if 65 ≤ b.toNat ∧ b.toNat ≤ 90 then some (b.toNat - 65)
  else if 97 ≤ b.toNat ∧ b.toNat ≤ 122 then some (b.toNat - 97 + 26)
  else if 48 ≤ b.toNat ∧ b.toNat ≤ 57 then some (b.toNat - 48 + 52)
  else if b = 43 then some 62
  else if b = 47 then some 63
  else none

/-- The digit of a value. -/
def base64Digit (v : Nat) : UInt8 :=
  if v < 26 then UInt8.ofNat (65 + v)
  else if v < 52 then UInt8.ofNat (97 + (v - 26))
  else if v < 62 then UInt8.ofNat (48 + (v - 52))
  else if v = 62 then 43
  else 47

/-- `=`. -/
def base64Pad : UInt8 := 61

theorem base64Value_pad : base64Value base64Pad = none := by decide

/-! ## §2. Reading and writing -/

/-- The lenient reader, with the bits that have not made up a byte yet. -/
def decodeBits : Nat → Nat → List UInt8 → List UInt8
  | _, _, [] => []
  | buf, nbits, b :: rest =>
    match base64Value b with
    | none => decodeBits buf nbits rest
    | some d =>
      let buf := buf * 64 + d
      let nbits := nbits + 6
      if 8 ≤ nbits then
        UInt8.ofNat (buf / 2 ^ (nbits - 8)) ::
          decodeBits (buf % 2 ^ (nbits - 8)) (nbits - 8) rest
      else decodeBits buf nbits rest

def fromBase64 (text : List UInt8) : List UInt8 := decodeBits 0 0 text

/-- Four digits for three bytes, and padding in the last group. -/
def toBase64 : List UInt8 → List UInt8
  | x :: y :: z :: rest =>
    base64Digit (x.toNat / 4) :: base64Digit (x.toNat % 4 * 16 + y.toNat / 16) ::
      base64Digit (y.toNat % 16 * 4 + z.toNat / 64) :: base64Digit (z.toNat % 64) :: toBase64 rest
  | [x, y] =>
    [base64Digit (x.toNat / 4), base64Digit (x.toNat % 4 * 16 + y.toNat / 16),
      base64Digit (y.toNat % 16 * 4), base64Pad]
  | [x] => [base64Digit (x.toNat / 4), base64Digit (x.toNat % 4 * 16), base64Pad, base64Pad]
  | [] => []

theorem base64Digit_lt (v : Nat) : (base64Digit v).toNat < 128 := by
  unfold base64Digit
  split_ifs
  · rw [UInt8.toNat_ofNat']
    omega
  · rw [UInt8.toNat_ofNat']
    omega
  · rw [UInt8.toNat_ofNat']
    omega
  · decide
  · decide

/-- What is written is ASCII. -/
theorem toBase64_lt : ∀ (bytes : List UInt8), ∀ b ∈ toBase64 bytes, b.toNat < 128
  | x :: y :: z :: rest, b, hb => by
    simp only [toBase64, List.mem_cons] at hb
    rcases hb with rfl | rfl | rfl | rfl | hb
    · exact base64Digit_lt _
    · exact base64Digit_lt _
    · exact base64Digit_lt _
    · exact base64Digit_lt _
    · exact toBase64_lt rest b hb
  | [x, y], b, hb => by
    simp only [toBase64, List.mem_cons, List.not_mem_nil, or_false] at hb
    rcases hb with rfl | rfl | rfl | rfl
    · exact base64Digit_lt _
    · exact base64Digit_lt _
    · exact base64Digit_lt _
    · decide
  | [x], b, hb => by
    simp only [toBase64, List.mem_cons, List.not_mem_nil, or_false] at hb
    rcases hb with rfl | rfl | rfl | rfl
    · exact base64Digit_lt _
    · exact base64Digit_lt _
    · decide
    · decide
  | [], b, hb => by cases hb

/-! ## §3. What a text says -/

/-- The bytes of the values of digits, in groups of four. -/
def bytesOfValues : List Nat → List UInt8
  | a :: b :: c :: d :: rest =>
    UInt8.ofNat (a * 4 + b / 16) :: UInt8.ofNat (b % 16 * 16 + c / 4) ::
      UInt8.ofNat (c % 4 * 64 + d) :: bytesOfValues rest
  | [a, b, c] => [UInt8.ofNat (a * 4 + b / 16), UInt8.ofNat (b % 16 * 16 + c / 4)]
  | [a, b] => [UInt8.ofNat (a * 4 + b / 16)]
  | _ => []

/-- **Base64 text** of these bytes: digits, no single one in the last group, and behind them
nothing or what fills up the last group. -/
structure Base64Text (text bytes : List UInt8) (digits : List UInt8) (values : List Nat)
    (padding : Nat) : Prop where
  text_eq : text = digits ++ List.replicate padding base64Pad
  values_eq : digits.map base64Value = values.map some
  no_single : values.length % 4 ≠ 1
  padded : padding = 0 ∨ padding ≤ 2 ∧ (values.length + padding) % 4 = 0
  bytes_eq : bytes = bytesOfValues values

/-- The text is base64 of these bytes. -/
def IsBase64Of (text bytes : List UInt8) : Prop :=
  ∃ digits values padding, Base64Text text bytes digits values padding

/-- Nothing in a text is passed over. -/
theorem IsBase64Of.digit_or_pad {text bytes : List UInt8} (h : IsBase64Of text bytes) {b : UInt8}
    (hb : b ∈ text) : base64Value b ≠ none ∨ b = base64Pad := by
  obtain ⟨digits, values, padding, h⟩ := h
  rw [h.text_eq] at hb
  obtain hb | hb := List.mem_append.mp hb
  · left
    have hvalue := List.mem_map_of_mem (f := base64Value) hb
    rw [h.values_eq] at hvalue
    obtain ⟨v, -, hv⟩ := List.mem_map.mp hvalue
    rw [← hv]
    exact Option.some_ne_none v
  · exact Or.inr (List.eq_of_mem_replicate hb)

/-- Padding says nothing. -/
theorem decodeBits_padding (buf nbits n : Nat) :
    decodeBits buf nbits (List.replicate n base64Pad) = [] := by
  induction n with
  | zero => rfl
  | succ n ih => rw [List.replicate_succ, decodeBits, base64Value_pad, ih]

/-- The reader at a digit. -/
theorem decodeBits_digit {b : UInt8} {d : Nat} (h : base64Value b = some d) (buf nbits : Nat)
    (rest : List UInt8) :
    decodeBits buf nbits (b :: rest) =
      if 8 ≤ nbits + 6 then
        UInt8.ofNat ((buf * 64 + d) / 2 ^ (nbits + 6 - 8)) ::
          decodeBits ((buf * 64 + d) % 2 ^ (nbits + 6 - 8)) (nbits + 6 - 8) rest
      else decodeBits (buf * 64 + d) (nbits + 6) rest := by
  rw [decodeBits, h]

section Groups

variable {e f g h : UInt8} {a b c d : Nat} (he : base64Value e = some a)
  (hf : base64Value f = some b) (hg : base64Value g = some c) (hh : base64Value h = some d)
  (rest : List UInt8)

include he hf

/-- Two digits leave four bits over, -/
theorem decodeBits_two :
    decodeBits 0 0 (e :: f :: rest) =
      UInt8.ofNat (a * 4 + b / 16) :: decodeBits (b % 16) 4 rest := by
  have hbyte : ((0 * 64 + a) * 64 + b) / 2 ^ (0 + 6 + 6 - 8) = a * 4 + b / 16 := by omega
  have hbits : ((0 * 64 + a) * 64 + b) % 2 ^ (0 + 6 + 6 - 8) = b % 16 := by omega
  rw [decodeBits_digit he, if_neg (by decide), decodeBits_digit hf, if_pos (by decide), hbyte, hbits]

include hg

/-- three leave two, -/
theorem decodeBits_three :
    decodeBits 0 0 (e :: f :: g :: rest) =
      UInt8.ofNat (a * 4 + b / 16) :: UInt8.ofNat (b % 16 * 16 + c / 4) ::
        decodeBits (c % 4) 2 rest := by
  have hbyte : (b % 16 * 64 + c) / 2 ^ (4 + 6 - 8) = b % 16 * 16 + c / 4 := by omega
  have hbits : (b % 16 * 64 + c) % 2 ^ (4 + 6 - 8) = c % 4 := by omega
  rw [decodeBits_two he hf, decodeBits_digit hg, if_pos (by decide), hbyte, hbits]

include hh

/-- and four none. -/
theorem decodeBits_four :
    decodeBits 0 0 (e :: f :: g :: h :: rest) =
      UInt8.ofNat (a * 4 + b / 16) :: UInt8.ofNat (b % 16 * 16 + c / 4) ::
        UInt8.ofNat (c % 4 * 64 + d) :: decodeBits 0 0 rest := by
  have hbyte : (c % 4 * 64 + d) / 2 ^ (2 + 6 - 8) = c % 4 * 64 + d := by omega
  have hbits : (c % 4 * 64 + d) % 2 ^ (2 + 6 - 8) = 0 := by omega
  rw [decodeBits_three he hf hg, decodeBits_digit hh, if_pos (by decide), hbyte, hbits]

end Groups

/-- Digits without a single one in the last group, and padding. -/
theorem decodeBits_values (padding : Nat) :
    ∀ (values : List Nat) (digits : List UInt8), digits.map base64Value = values.map some →
      values.length % 4 ≠ 1 →
      decodeBits 0 0 (digits ++ List.replicate padding base64Pad) = bytesOfValues values
  | a :: b :: c :: d :: rest, digits, hvalues, hlength => by
    obtain ⟨e, digits, rfl, he, hvalues⟩ := List.map_eq_cons_iff.mp hvalues
    obtain ⟨f, digits, rfl, hf, hvalues⟩ := List.map_eq_cons_iff.mp hvalues
    obtain ⟨g, digits, rfl, hg, hvalues⟩ := List.map_eq_cons_iff.mp hvalues
    obtain ⟨h, digits, rfl, hh, hvalues⟩ := List.map_eq_cons_iff.mp hvalues
    have hrest := decodeBits_values padding rest digits hvalues (by
      simp only [List.length_cons] at hlength
      omega)
    rw [bytesOfValues, List.cons_append, List.cons_append, List.cons_append, List.cons_append,
      decodeBits_four he hf hg hh, hrest]
  | [a, b, c], digits, hvalues, _ => by
    obtain ⟨e, digits, rfl, he, hvalues⟩ := List.map_eq_cons_iff.mp hvalues
    obtain ⟨f, digits, rfl, hf, hvalues⟩ := List.map_eq_cons_iff.mp hvalues
    obtain ⟨g, digits, rfl, hg, hvalues⟩ := List.map_eq_cons_iff.mp hvalues
    obtain rfl := List.map_eq_nil_iff.mp hvalues
    rw [bytesOfValues, List.cons_append, List.cons_append, List.cons_append, List.nil_append,
      decodeBits_three he hf hg, decodeBits_padding]
  | [a, b], digits, hvalues, _ => by
    obtain ⟨e, digits, rfl, he, hvalues⟩ := List.map_eq_cons_iff.mp hvalues
    obtain ⟨f, digits, rfl, hf, hvalues⟩ := List.map_eq_cons_iff.mp hvalues
    obtain rfl := List.map_eq_nil_iff.mp hvalues
    rw [bytesOfValues, List.cons_append, List.cons_append, List.nil_append, decodeBits_two he hf,
      decodeBits_padding]
  | [a], digits, _, hlength => absurd rfl hlength
  | [], digits, hvalues, _ => by
    obtain rfl := List.map_eq_nil_iff.mp hvalues
    exact decodeBits_padding 0 0 padding

/-- **The lenient reader on base64 text** gives the bytes. -/
theorem fromBase64_of_text {text bytes : List UInt8} (h : IsBase64Of text bytes) :
    fromBase64 text = bytes := by
  obtain ⟨digits, values, padding, h⟩ := h
  rw [fromBase64, h.text_eq, h.bytes_eq]
  exact decodeBits_values padding values digits h.values_eq h.no_single

end Stdiolink.Lib
