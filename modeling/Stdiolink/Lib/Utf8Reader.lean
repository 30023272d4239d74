/-
  Stdiolink.Lib.Utf8Reader — UTF-8 that is read leniently.

  A lenient reader takes a character off the front, or a piece of malformed bytes, which it replaces.
  How long such a piece is differs from reader to reader; `byteByByte` is the one that replaces each
  byte on its own.

  Main results:
    * `read_encode`     — well-formed bytes are read as their text;
    * `endsEach_iff`    — chunks of a text are read like the text exactly if each has whole
      characters.
-/
import Stdiolink.Lib.Pieces
import Stdiolink.Lib.Utf8

namespace Stdiolink.Lib

open String (utf8EncodeChar)

/-! ## §1. Lenient readers -/

/-- A lenient reader of UTF-8, with code points as values. -/
structure Utf8Reader extends PieceReader UInt8 Nat where
  size_char : ∀ c rest, size (utf8EncodeChar c ++ rest) = (utf8EncodeChar c).length
  value_char : ∀ c, value (utf8EncodeChar c) = c.toNat

namespace Utf8Reader

open Utf8

variable {R : Utf8Reader}

theorem encode_cons (c : Char) (text : List Char) :
    encode (c :: text) = utf8EncodeChar c ++ encode text := rfl

/-- A text that is not behind a piece is read. -/
theorem pieceEnds_encode (text : List Char) (rest : List UInt8) :
    R.PieceEnds (encode text) rest := by
  induction text with
  | nil => exact .nil rest
  | cons c text ih =>
    have hne : utf8EncodeChar c ++ encode text ≠ [] := by
      simp [String.utf8EncodeChar_ne_nil]
    have hsize : R.size (utf8EncodeChar c ++ encode text ++ rest) = (utf8EncodeChar c).length := by
      rw [List.append_assoc]
      exact R.size_char c _
    rw [encode_cons, PieceReader.pieceEnds_iff hne, hsize, List.drop_left, List.length_append]
    exact ⟨Nat.le_add_right _ _, ih⟩

/-- **Well-formed bytes** are read as their text. -/
theorem read_encode (text : List Char) : R.read (encode text) = text.map Char.toNat := by
  induction text with
  | nil => exact R.read_nil
  | cons c text ih =>
    have hne : utf8EncodeChar c ++ encode text ≠ [] := by
      simp [String.utf8EncodeChar_ne_nil]
    rw [encode_cons, PieceReader.read_of_ne_nil hne, R.size_char, List.take_left, List.drop_left,
      R.value_char, ih]
    rfl

/-- Where a piece of a text ends, a character does. -/
theorem text_of_pieceEnds {xs ys : List UInt8} (h : R.PieceEnds xs ys) {text : List Char}
    (htext : xs ++ ys = encode text) :
    ∃ front back, xs = encode front ∧ ys = encode back := by
  induction h generalizing text with
  | nil ys => exact ⟨[], text, rfl, htext⟩
  | @piece xs ys hne hsize _ ih =>
    cases text with
    | nil =>
      obtain ⟨rfl, -⟩ := List.append_eq_nil_iff.mp htext
      contradiction
    | cons c text =>
      have hlength : R.size (xs ++ ys) = (utf8EncodeChar c).length := by
        rw [htext]
        exact R.size_char c _
      -- the first character is in `xs`
      have hdrop : xs.drop (utf8EncodeChar c).length ++ ys = encode text := by
        rw [← List.drop_append_of_le_length (hlength ▸ hsize), htext, encode_cons, List.drop_left]
      have htake : xs.take (utf8EncodeChar c).length = utf8EncodeChar c := by
        rw [← List.take_append_of_le_length (hlength ▸ hsize), htext, encode_cons, List.take_left]
      rw [hlength] at ih
      obtain ⟨front, back, hfront, hback⟩ := ih hdrop
      refine ⟨c :: front, back, ?_, hback⟩
      rw [encode_cons, ← htake, ← hfront, List.take_append_drop]

/-- **Chunks of a text** are read like the text exactly if each has whole characters. -/
theorem endsEach_iff {chunks : List (List UInt8)} {text : List Char}
    (htext : chunks.flatten = encode text) :
    R.EndsEach chunks ↔ ∀ chunk ∈ chunks, ∃ part, chunk = encode part := by
  constructor
  · intro h
    induction chunks generalizing text with
    | nil => simp
    | cons chunk chunks ih =>
      obtain ⟨hfirst, hrest⟩ := PieceReader.endsEach_cons.mp h
      obtain ⟨front, back, hfront, hback⟩ := text_of_pieceEnds hfirst htext
      intro other hother
      rcases List.mem_cons.mp hother with rfl | hother
      · exact ⟨front, hfront⟩
      · exact ih hback hrest other hother
  · intro h
    clear htext
    induction chunks with
    | nil =>
      intro before after heq
      obtain ⟨rfl, rfl⟩ := List.append_eq_nil_iff.mp heq.symm
      exact .nil _
    | cons chunk chunks ih =>
      obtain ⟨part, rfl⟩ := h chunk List.mem_cons_self
      exact PieceReader.endsEach_cons.mpr ⟨pieceEnds_encode part _,
        ih fun other hother => h other (List.mem_cons_of_mem _ hother)⟩

end Utf8Reader

/-! ## §2. Byte by byte -/

namespace Utf8

/-- The character that these bytes begin with. -/
def firstChar? (bytes : List UInt8) : Option Char := bytes.toByteArray.utf8DecodeChar? 0

theorem firstChar?_append (c : Char) (rest : List UInt8) :
    firstChar? (utf8EncodeChar c ++ rest) = some c := by
  unfold firstChar?
  rw [List.toByteArray_append]
  exact ByteArray.utf8DecodeChar?_utf8EncodeChar_append

theorem eq_append_of_firstChar? {bytes : List UInt8} {c : Char} (h : firstChar? bytes = some c) :
    ∃ rest, bytes = utf8EncodeChar c ++ rest := by
  obtain ⟨rest, hrest⟩ := ByteArray.exists_of_utf8DecodeChar?_eq_some h
  refine ⟨rest.data.toList, ?_⟩
  have hdata := congrArg (fun bytes => bytes.data.toList) hrest
  simpa using hdata

/-- The bytes behind the first one of a character begin no character. -/
theorem firstChar?_drop {c : Char} {rest : List UInt8} {k : Nat} (hpos : 0 < k)
    (hk : k < (utf8EncodeChar c).length) :
    firstChar? ((utf8EncodeChar c ++ rest).drop k) = none := by
  rw [Option.eq_none_iff_forall_not_mem]
  intro other hother
  obtain ⟨rest', hrest'⟩ := eq_append_of_firstChar? hother
  have hpos' : 0 < (utf8EncodeChar other).length :=
    List.length_pos_of_ne_nil (String.utf8EncodeChar_ne_nil)
  have hbyte : (utf8EncodeChar c)[k] = (utf8EncodeChar other)[0] := by
    have h := congrArg (fun bytes => bytes[0]?) hrest'
    rw [List.getElem?_drop, Nat.add_zero, List.getElem?_append_left hk,
      List.getElem?_append_left hpos', List.getElem?_eq_getElem hk,
      List.getElem?_eq_getElem hpos'] at h
    exact Option.some.inj h
  have hfirst : (utf8EncodeChar other)[0].IsUTF8FirstByte :=
    UInt8.isUTF8FirstByte_getElem_utf8EncodeChar.mpr rfl
  rw [← hbyte, UInt8.isUTF8FirstByte_getElem_utf8EncodeChar] at hfirst
  omega

/-- The bytes of the first piece. -/
def firstSize (bytes : List UInt8) : Nat :=
  match firstChar? bytes with
  | some c => (utf8EncodeChar c).length
  | none => min 1 bytes.length

theorem firstSize_char (c : Char) (rest : List UInt8) :
    firstSize (utf8EncodeChar c ++ rest) = (utf8EncodeChar c).length := by
  rw [firstSize, firstChar?_append]

theorem firstSize_none {bytes : List UInt8} (h : firstChar? bytes = none) (hne : bytes ≠ []) :
    firstSize bytes = 1 := by
  have hpos := List.length_pos_of_ne_nil hne
  rw [firstSize, h]
  show min 1 bytes.length = 1
  omega

/-- The code point of the first piece: U+FFFD stands for a byte that begins no character. -/
def firstValue (bytes : List UInt8) : Nat :=
  match firstChar? bytes with
  | some c => c.toNat
  | none => 0xFFFD

/-- **The reader that goes on with the next byte** where no character begins. -/
def byteByByte : Utf8Reader where
  size := firstSize
  value := firstValue
  size_pos xs hne := by
    cases hchar : firstChar? xs with
    | none =>
      rw [firstSize_none hchar hne]
      decide
    | some c =>
      obtain ⟨rest, rfl⟩ := eq_append_of_firstChar? hchar
      rw [firstSize_char]
      exact List.length_pos_of_ne_nil String.utf8EncodeChar_ne_nil
  size_le xs := by
    cases hchar : firstChar? xs with
    | none =>
      rw [firstSize, hchar]
      exact Nat.min_le_right _ _
    | some c =>
      obtain ⟨rest, rfl⟩ := eq_append_of_firstChar? hchar
      rw [firstSize_char, List.length_append]
      omega
  stable xs ys hne hsize := by
    cases hboth : firstChar? (xs ++ ys) with
    | none =>
      -- a character at the front of `xs` would be one of both
      have hxs : firstChar? xs = none := by
        rw [Option.eq_none_iff_forall_not_mem]
        intro c hc
        obtain ⟨rest, rfl⟩ := eq_append_of_firstChar? hc
        rw [List.append_assoc, firstChar?_append] at hboth
        contradiction
      rw [firstSize_none hxs hne, firstSize_none hboth (by simp [hne])]
    | some c =>
      obtain ⟨rest, hrest⟩ := eq_append_of_firstChar? hboth
      rw [hrest, firstSize_char] at hsize ⊢
      have hxs : xs = utf8EncodeChar c ++ xs.drop (utf8EncodeChar c).length := by
        have htake := congrArg (List.take (utf8EncodeChar c).length) hrest
        rw [List.take_append_of_le_length hsize, List.take_left] at htake
        rw [← htake, List.length_take, Nat.min_eq_left hsize, List.take_append_drop]
      rw [hxs, firstSize_char]
  nested xs k hpos hk := by
    cases hchar : firstChar? xs with
    | none =>
      rw [firstSize, hchar] at hk
      have hk : k < min 1 xs.length := hk
      omega
    | some c =>
      obtain ⟨rest, rfl⟩ := eq_append_of_firstChar? hchar
      rw [firstSize_char] at hk ⊢
      have hne : (utf8EncodeChar c ++ rest).drop k ≠ [] := by
        rw [Ne, List.drop_eq_nil_iff, List.length_append]
        omega
      rw [firstSize_none (firstChar?_drop hpos hk) hne]
      omega
  size_char := firstSize_char
  value_char c := by
    have hchar := firstChar?_append c []
    rw [List.append_nil] at hchar
    rw [firstValue, hchar]

end Utf8

end Stdiolink.Lib
