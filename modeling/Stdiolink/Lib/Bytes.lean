/-
  Stdiolink.Lib.Bytes — words, numbers, packed bits and texts as bytes.

  Words and numbers travel high byte first.  Bits are packed from the lowest bit of the first
  byte upwards; `packBits` computes one byte of them and `testBit_packBits` says
  what is in it.  A text may be read as a C string, or without the blanks around it.

  Main results:
    * `join_hi` / `join_lo` / `join_bytes` — a word is its two bytes;
    * `wordsOf_flatMap` / `flatMap_wordsOf` — words are their bytes, and bytes their words;
    * `ofBytes_toBytes` / `toBytes_ofBytes` — a number is its bytes, and bytes are their number;
    * `testBit_packBits`, `packBits_lt` — bit by bit, and the bound;
    * `cString_eq_self`, `trimmed_concat` — texts that nothing is cut off.
-/
import Mathlib.Data.Nat.Bitwise
import Mathlib.Data.List.DropRight
import Mathlib.Data.List.Induction
import Mathlib.Data.List.TakeWhile
import Mathlib.Tactic.Ring

namespace Stdiolink.Lib

/-! ## Words -/

/-- The word with these two bytes. -/
def joinBytes (hi lo : UInt8) : UInt16 := hi.toUInt16 <<< 8 ||| lo.toUInt16

/-- The high and the low byte of a word. -/
def wordBytes (value : UInt16) : List UInt8 := [(value >>> 8).toUInt8, value.toUInt8]

@[simp] theorem wordBytes_length (value : UInt16) : (wordBytes value).length = 2 := rfl

theorem joinBytes_toNat (hi lo : UInt8) :
    (joinBytes hi lo).toNat = hi.toNat * 256 + lo.toNat := by
  have hhi := hi.toNat_lt
  have hlo := lo.toNat_lt
  have hshift : hi.toNat <<< 8 % 65536 = hi.toNat <<< 8 := by
    rw [Nat.shiftLeft_eq]
    omega
  simp only [joinBytes, UInt16.toNat_or, UInt16.toNat_shiftLeft, UInt8.toNat_toUInt16]
  change hi.toNat <<< 8 % 65536 ||| lo.toNat = _
  rw [hshift, ← Nat.shiftLeft_add_eq_or_of_lt hlo, Nat.shiftLeft_eq]

theorem join_hi (hi lo : UInt8) : (joinBytes hi lo >>> 8).toUInt8 = hi := by
  have hhi := hi.toNat_lt
  have hlo := lo.toNat_lt
  apply UInt8.toNat_inj.mp
  simp only [UInt16.toNat_toUInt8, UInt16.toNat_shiftRight, joinBytes_toNat]
  change (hi.toNat * 256 + lo.toNat) >>> 8 % 256 = _
  rw [Nat.shiftRight_eq_div_pow]
  omega

theorem join_lo (hi lo : UInt8) : (joinBytes hi lo).toUInt8 = lo := by
  have hlo := lo.toNat_lt
  apply UInt8.toNat_inj.mp
  simp only [UInt16.toNat_toUInt8, joinBytes_toNat]
  omega

/-- **Copying a word.**  Reading two bytes as a word and writing it gives them back. -/
theorem wordBytes_join (hi lo : UInt8) : wordBytes (joinBytes hi lo) = [hi, lo] := by
  rw [wordBytes, join_hi, join_lo]

/-- A word is the word of its bytes. -/
theorem join_bytes (value : UInt16) : joinBytes (value >>> 8).toUInt8 value.toUInt8 = value := by
  have hv := value.toNat_lt
  apply UInt16.toNat_inj.mp
  rw [joinBytes_toNat]
  simp only [UInt16.toNat_toUInt8, UInt16.toNat_shiftRight]
  change value.toNat >>> 8 % 256 * 256 + value.toNat % 256 = _
  rw [Nat.shiftRight_eq_div_pow]
  omega

/-- The words of pairs of bytes. -/
def wordsOf : List UInt8 → List UInt16
  | hi :: lo :: bytes => joinBytes hi lo :: wordsOf bytes
  | _ => []

/-- Words that are written and read. -/
theorem wordsOf_flatMap (values : List UInt16) : wordsOf (values.flatMap wordBytes) = values := by
  induction values with
  | nil => rfl
  | cons value values ih =>
    show joinBytes (value >>> 8).toUInt8 value.toUInt8 :: wordsOf (values.flatMap wordBytes) = _
    rw [join_bytes, ih]

/-- Pairs of bytes that are read as words and written. -/
theorem flatMap_wordsOf {count : Nat} : ∀ {bytes : List UInt8}, bytes.length = 2 * count →
    (wordsOf bytes).flatMap wordBytes = bytes ∧ (wordsOf bytes).length = count := by
  induction count with
  | zero =>
    intro bytes h
    obtain rfl := List.eq_nil_of_length_eq_zero h
    exact ⟨rfl, rfl⟩
  | succ count ih =>
    intro bytes h
    match bytes, h with
    | hi :: lo :: rest, h =>
      rw [List.length_cons, List.length_cons] at h
      obtain ⟨hbytes, hlen⟩ := @ih rest (by omega)
      refine ⟨?_, congrArg (· + 1) hlen⟩
      rw [wordsOf, List.flatMap_cons, wordBytes_join, hbytes]
      rfl

/-- The last two bytes. -/
theorem drop_two {bytes : List UInt8} {n : Nat} (h : bytes.length = n + 2) :
    bytes.drop n = [bytes.getD n 0, bytes.getD (n + 1) 0] := by
  rw [List.drop_eq_getElem_cons (by omega), List.drop_eq_getElem_cons (by omega),
    List.drop_eq_nil_of_le (by omega), List.getD_eq_getElem _ _ (by omega),
    List.getD_eq_getElem _ _ (by omega)]

/-! ## Numbers -/

/-- The number with these bytes, the highest first, -/
def ofBytes (bytes : List UInt8) : Nat := bytes.foldl (fun n byte => n * 256 + byte.toNat) 0

/-- and the last `k` bytes of a number. -/
def toBytes : Nat → Nat → List UInt8
  | 0, _ => []
  | k + 1, n => UInt8.ofNat (n / 256 ^ k) :: toBytes k n

variable (k : Nat) (bytes : List UInt8) (n : Nat)

@[simp] theorem length_toBytes : (toBytes k n).length = k := by
  induction k with
  | zero => rfl
  | succ k ih => rw [toBytes, List.length_cons, ih]

/-- A number is the number of its bytes, as far as they reach. -/
theorem ofBytes_toBytes : ofBytes (toBytes k n) = n % 256 ^ k := by
  have hfold : ∀ start, (toBytes k n).foldl (fun n byte => n * 256 + byte.toNat) start =
      start * 256 ^ k + n % 256 ^ k := by
    induction k with
    | zero =>
      intro start
      simp [toBytes, Nat.mod_one]
    | succ k ih =>
      intro start
      have hbyte : (UInt8.ofNat (n / 256 ^ k)).toNat = n / 256 ^ k % 256 := UInt8.toNat_ofNat'
      rw [toBytes, List.foldl_cons, ih, hbyte, Nat.mod_pow_succ]
      generalize n / 256 ^ k % 256 = digit
      generalize n % 256 ^ k = rest
      ring
  exact (hfold 0).trans (by rw [Nat.zero_mul, Nat.zero_add])

/-- One more byte at the end. -/
theorem ofBytes_concat (byte : UInt8) :
    ofBytes (bytes ++ [byte]) = ofBytes bytes * 256 + byte.toNat := by
  rw [ofBytes, List.foldl_append]
  rfl

theorem ofBytes_lt : ofBytes bytes < 256 ^ bytes.length := by
  induction bytes using List.reverseRecOn with
  | nil => exact Nat.one_pos
  | append_singleton bytes byte ih =>
    have hbyte := byte.toNat_lt
    rw [ofBytes_concat, List.length_append, List.length_singleton, Nat.pow_succ]
    omega

/-- The bytes of a number, the last one apart. -/
theorem toBytes_succ : toBytes (k + 1) n = toBytes k (n / 256) ++ [UInt8.ofNat n] := by
  induction k with
  | zero => simp [toBytes]
  | succ k ih =>
    have hpow : n / 256 / 256 ^ k = n / 256 ^ (k + 1) := by
      rw [Nat.div_div_eq_div_mul, Nat.pow_succ, Nat.mul_comm]
    rw [toBytes, ih, toBytes, hpow, List.cons_append]

/-- Bytes are those of their number. -/
theorem toBytes_ofBytes : toBytes bytes.length (ofBytes bytes) = bytes := by
  induction bytes using List.reverseRecOn with
  | nil => rfl
  | append_singleton bytes byte ih =>
    have hbyte := byte.toNat_lt
    have hfront : (ofBytes bytes * 256 + byte.toNat) / 256 = ofBytes bytes := by omega
    have hlast : UInt8.ofNat (ofBytes bytes * 256 + byte.toNat) = byte := by
      apply UInt8.toNat_inj.mp
      rw [UInt8.toNat_ofNat']
      omega
    rw [List.length_append, List.length_singleton, ofBytes_concat, toBytes_succ, hfront, hlast, ih]

/-! ## Packed bits -/

/-- The number whose lowest `n` bits are `f 0`, ..., `f (n - 1)`. -/
def packBits (f : Nat → Bool) : Nat → Nat
  | 0 => 0
  | n + 1 => packBits f n ||| if f n then 1 <<< n else 0

theorem testBit_packBits (f : Nat → Bool) (n i : Nat) :
    (packBits f n).testBit i = (decide (i < n) && f i) := by
  induction n with
  | zero => simp [packBits]
  | succ n ih =>
    rw [packBits, Nat.testBit_or, ih]
    by_cases hin : i = n
    · subst hin
      by_cases hf : f i = true <;> simp [hf, Nat.testBit_shiftLeft]
    · have hone : (if f n then 1 <<< n else 0).testBit i = false := by
        split_ifs
        · rw [Nat.one_shiftLeft, Nat.testBit_two_pow_of_ne (fun h => hin h.symm)]
        · exact Nat.zero_testBit i
      have hlt : decide (i < n + 1) = decide (i < n) := by
        apply decide_eq_decide.mpr
        omega
      rw [hone, hlt, Bool.or_false]

/-- Only the packed bits matter. -/
theorem packBits_congr {f g : Nat → Bool} {n : Nat} (h : ∀ i < n, f i = g i) :
    packBits f n = packBits g n := by
  induction n with
  | zero => rfl
  | succ n ih =>
    rw [packBits, packBits, ih fun i hi => h i (Nat.lt_succ_of_lt hi), h n (Nat.lt_succ_self n)]

theorem packBits_lt (f : Nat → Bool) (n : Nat) : packBits f n < 2 ^ n := by
  refine Nat.lt_pow_two_of_testBit _ fun i hi => ?_
  rw [testBit_packBits]
  simp [Nat.not_lt.mpr hi]

/-- The bit number `i` of packed bytes, the lowest bit of the first byte first. -/
def bitAt (data : List UInt8) (i : Nat) : Bool := (data.getD (i / 8) 0).toNat.testBit (i % 8)

/-- Eight packed bits are one byte. -/
theorem bitAt_packed (f : Nat → Nat → Bool) (count i : Nat) :
    bitAt ((List.range count).map fun k => UInt8.ofNat (packBits (f k) 8)) i =
      (decide (i / 8 < count) && f (i / 8) (i % 8)) := by
  unfold bitAt
  by_cases hi : i / 8 < count
  · have hbyte : packBits (f (i / 8)) 8 < 256 := packBits_lt _ 8
    have hmod : packBits (f (i / 8)) 8 % 256 = packBits (f (i / 8)) 8 := Nat.mod_eq_of_lt hbyte
    have hlt : i % 8 < 8 := Nat.mod_lt _ (by decide)
    simp only [hi, decide_true, Bool.true_and, List.getD_eq_getElem?_getD, List.getElem?_map,
      List.getElem?_range hi, Option.map_some, Option.getD_some, UInt8.toNat_ofNat']
    rw [show 2 ^ 8 = 256 from rfl, hmod, testBit_packBits]
    simp [hlt]
  · simp [hi]

/-- Bits of the first bytes. -/
theorem bitAt_append {data : List UInt8} {i : Nat} (more : List UInt8) (h : i / 8 < data.length) :
    bitAt (data ++ more) i = bitAt data i := by
  rw [bitAt, bitAt, List.getD_append _ _ _ _ h]

/-! ## Texts -/

/-- What a C string of these bytes is: those up to the first zero. -/
def cString (data : List UInt8) : List UInt8 := data.takeWhile (· ≠ 0)

theorem cString_eq_self {data : List UInt8} (h : 0 ∉ data) : cString data = data := by
  unfold cString
  rw [List.takeWhile_eq_self_iff]
  intro b hb
  have hne : b ≠ 0 := fun hzero => h (hzero ▸ hb)
  simpa using hne

theorem zero_notMem_cString (data : List UInt8) : 0 ∉ cString data := by
  intro h
  simpa using List.mem_takeWhile_imp h

/-- The `isspace` of C. -/
def isSpace (b : UInt8) : Bool := b = 32 || 9 ≤ b && b ≤ 13

/-- A text without the blanks at its ends. -/
def trimmed (text : List UInt8) : List UInt8 := (text.dropWhile isSpace).rdropWhile isSpace

/-- A blank at the end of a text is trimmed. -/
theorem trimmed_concat {b : UInt8} (hb : isSpace b) (text : List UInt8) :
    trimmed (text ++ [b]) = trimmed text := by
  unfold trimmed
  rw [List.dropWhile_append]
  by_cases hblank : (text.dropWhile isSpace).isEmpty
  · rw [if_pos hblank, List.isEmpty_iff.mp hblank]
    simp [hb]
  · rw [if_neg hblank, List.rdropWhile_concat_pos _ _ _ hb]

end Stdiolink.Lib
