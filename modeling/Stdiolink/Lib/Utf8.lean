/-
  Stdiolink.Lib.Utf8 — texts as UTF-8.

  Main results:
    * `decode?_encode`  — a text is read back from its bytes;
    * `encode_ascii`    — bytes below 128 are characters;
    * `cString_encode`  — a C string ends at the first NUL character;
    * `cut_eq_self_iff` — texts that lose nothing as C strings with a byte order mark.
-/
import Stdiolink.Lib.Bytes
import Mathlib.Data.String.Basic

namespace Stdiolink.Lib.Utf8

/-- The bytes of a text. -/
def encode (text : List Char) : List UInt8 := text.flatMap String.utf8EncodeChar

/-- The text of well-formed bytes. -/
def decode? (bytes : List UInt8) : Option String := String.fromUTF8? bytes.toByteArray

theorem decode?_encode (text : List Char) : decode? (encode text) = some (String.ofList text) := by
  have hbytes : (encode text).toByteArray = (String.ofList text).toByteArray := by
    rw [String.toByteArray_ofList]
    rfl
  rw [decode?, hbytes, String.fromUTF8?, dif_pos (String.ofList text).isValidUTF8]
  rfl

/-- Bytes as characters. -/
def ascii (bytes : List UInt8) : List Char := bytes.map fun b => Char.ofNat b.toNat

theorem encode_ascii {bytes : List UInt8} (h : ∀ b ∈ bytes, b.toNat < 128) :
    encode (ascii bytes) = bytes := by
  have hone : ∀ n : Fin 128, String.utf8EncodeChar (Char.ofNat n) = [UInt8.ofNat n] := by decide
  induction bytes with
  | nil => rfl
  | cons b bytes ih =>
    have hb := hone ⟨b.toNat, h b (by simp)⟩
    dsimp only at hb
    rw [UInt8.ofNat_toNat] at hb
    rw [ascii, List.map_cons, encode, List.flatMap_cons, hb]
    exact congrArg (b :: ·) (ih fun c hc => h c (List.mem_cons_of_mem b hc))

theorem ofNat_eq_zero {n : Nat} : UInt8.ofNat n = 0 ↔ n % 256 = 0 := by
  rw [← UInt8.toNat_inj, UInt8.toNat_ofNat']
  rfl

/-- The NUL character is a zero byte, -/
theorem utf8EncodeChar_nul : String.utf8EncodeChar '\x00' = [0] := by decide

/-- and no other character has one. -/
theorem zero_notMem_utf8EncodeChar {c : Char} (h : c ≠ '\x00') :
    0 ∉ String.utf8EncodeChar c := by
  have hpos : c.val.toNat ≠ 0 := by
    intro hzero
    apply h
    rw [Char.ext_iff, ← UInt32.toNat_inj]
    exact hzero
  intro hmem
  unfold String.utf8EncodeChar at hmem
  dsimp only at hmem
  split_ifs at hmem <;>
    simp only [List.mem_cons, List.not_mem_nil, or_false, eq_comm (a := (0 : UInt8)),
      ofNat_eq_zero] at hmem <;> omega

/-- **A C string** ends before the first NUL character. -/
theorem cString_encode (text : List Char) :
    cString (encode text) = encode (text.takeWhile (· ≠ '\x00')) := by
  unfold encode
  induction text with
  | nil => rfl
  | cons c text ih =>
    rw [List.flatMap_cons]
    by_cases hc : c = '\x00'
    · rw [hc, utf8EncodeChar_nul]
      rfl
    · rw [List.takeWhile_cons_of_pos (by simpa using hc), List.flatMap_cons, ← ih]
      unfold cString
      rw [List.takeWhile_append_of_pos]
      intro b hb
      have hne : b ≠ 0 := fun hzero => zero_notMem_utf8EncodeChar hc (hzero ▸ hb)
      simpa using hne

/-- A text without the byte order mark in front of it. -/
def dropByteOrderMark (text : List Char) : List Char :=
  if text.head? = some '\ufeff' then text.tail else text

/-- All of a string, where there is nothing to cut off. -/
theorem cut_eq_self_iff (text : List Char) :
    dropByteOrderMark (text.takeWhile (· ≠ '\x00')) = text ↔
      '\x00' ∉ text ∧ text.head? ≠ some '\ufeff' := by
  have hlength := (List.takeWhile_sublist (fun c : Char => decide (c ≠ '\x00')) (l := text)).length_le
  constructor
  · intro h
    -- nothing but the mark is dropped, and no NUL is left
    have hnul : '\x00' ∉ text.takeWhile (· ≠ '\x00') := by
      intro hmem
      simpa using List.mem_takeWhile_imp hmem
    unfold dropByteOrderMark at h
    split_ifs at h with hmark
    · have hshort : (text.takeWhile (· ≠ '\x00')).tail.length < text.length := by
        cases htake : text.takeWhile (· ≠ '\x00') with
        | nil =>
          rw [htake] at hmark
          cases hmark
        | cons c rest =>
          rw [htake] at hlength
          exact hlength
      rw [h] at hshort
      exact absurd hshort (Nat.lt_irrefl _)
    · rw [h] at hnul hmark
      exact ⟨hnul, hmark⟩
  · rintro ⟨hnul, hmark⟩
    have htake : text.takeWhile (· ≠ '\x00') = text := by
      rw [List.takeWhile_eq_self_iff]
      intro c hc
      have hne : c ≠ '\x00' := fun heq => hnul (heq ▸ hc)
      simpa using hne
    rw [htake, dropByteOrderMark, if_neg hmark]

end Stdiolink.Lib.Utf8
