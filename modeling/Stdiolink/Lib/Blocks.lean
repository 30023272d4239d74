/-
  Stdiolink.Lib.Blocks — a buffer that is filled block by block.

  A buffer of `total` elements is divided into blocks of `size` elements, the last of which may be
  shorter.  The pieces come in the order of the blocks, and each is copied to where its block
  begins, as far as the buffer reaches.  A piece may be shorter or longer than its block.

  Main results:
    * `length_fillBlocks` — the buffer stays as long as it is;
    * `fillBlocks_eq`     — pieces that cover their blocks: the buffer is what they begin with.
-/
import Mathlib.Data.List.Basic

namespace Stdiolink.Lib

section Blocks

variable {α : Type*}

/-- A piece copied into the buffer from `offset` on. -/
def overwrite (buffer : List α) (offset : Nat) (piece : List α) : List α :=
  buffer.take offset ++ piece ++ buffer.drop (offset + piece.length)

/-- How many elements are in block number `i`. -/
def blockSize (size total i : Nat) : Nat := min size (total - i * size)

/-- The pieces are copied to the blocks from number `i` on. -/
def fillBlocks (size total : Nat) : Nat → List (List α) → List α → List α
  | _, [], buffer => buffer
  | i, piece :: pieces, buffer =>
    fillBlocks size total (i + 1) pieces
      (overwrite buffer (i * size) (piece.take (total - i * size)))

theorem length_overwrite {buffer piece : List α} {offset : Nat}
    (h : piece.length ≤ buffer.length - offset) :
    (overwrite buffer offset piece).length = buffer.length := by
  unfold overwrite
  simp only [List.length_append, List.length_take, List.length_drop]
  omega

/-- The buffer stays as long as it is. -/
theorem length_fillBlocks {size total : Nat} (pieces : List (List α)) :
    ∀ (i : Nat) (buffer : List α), buffer.length = total →
      (fillBlocks size total i pieces buffer).length = total := by
  induction pieces with
  | nil => exact fun _ _ h => h
  | cons piece pieces ih =>
    intro i buffer hlen
    refine ih (i + 1) _ ?_
    rw [length_overwrite (by rw [List.length_take, hlen]; omega), hlen]

/-- A piece that covers its block, copied there. -/
theorem take_overwrite {size total i : Nat} {buffer piece : List α} (hlen : buffer.length = total)
    (hfull : blockSize size total i ≤ piece.length) :
    (overwrite buffer (i * size) (piece.take (total - i * size))).take ((i + 1) * size) =
      buffer.take (i * size) ++ piece.take (blockSize size total i) := by
  have hnext : (i + 1) * size = i * size + size := Nat.succ_mul i size
  unfold blockSize at hfull ⊢
  unfold overwrite
  rw [hnext, List.append_assoc]
  by_cases hend : total ≤ i * size
  · -- the block is behind the end of the buffer
    have hzero : total - i * size = 0 := by omega
    rw [hzero, Nat.min_zero, List.take_zero, List.nil_append, List.append_nil, List.length_nil,
      Nat.add_zero, List.take_append_drop, List.take_of_length_le (by omega),
      List.take_of_length_le (by omega)]
  · have hfront : (buffer.take (i * size)).length = i * size := by
      rw [List.length_take]
      omega
    have hsplit : ∀ rest, (buffer.take (i * size) ++ rest).take (i * size + size) =
        buffer.take (i * size) ++ rest.take size := by
      intro rest
      have htake : ((buffer.take (i * size)) ++ rest).take ((buffer.take (i * size)).length + size) =
          buffer.take (i * size) ++ rest.take size := List.take_length_add_append size
      rwa [hfront] at htake
    rw [hsplit]
    congr 1
    by_cases hlast : size ≤ total - i * size
    · have hcovers : size ≤ (piece.take (total - i * size)).length := by
        rw [List.length_take]
        omega
      rw [List.take_append_of_le_length hcovers, List.take_take, Nat.min_eq_left hlast]
    · -- the last block: nothing of the buffer is behind it
      have hshort : total - i * size ≤ size := by omega
      have hpiece : (piece.take (total - i * size)).length = total - i * size := by
        rw [List.length_take]
        omega
      rw [hpiece, List.drop_eq_nil_of_le (by omega), List.append_nil, Nat.min_eq_right hshort,
        List.take_of_length_le (by omega)]

/-- **Pieces that cover their blocks.**  The buffer is what they begin with, one after another. -/
theorem fillBlocks_eq {size total : Nat} (pieces : List (List α)) :
    ∀ (i : Nat) (buffer : List α), buffer.length = total → total ≤ (i + pieces.length) * size →
      (∀ k piece, pieces[k]? = some piece → blockSize size total (i + k) ≤ piece.length) →
        fillBlocks size total i pieces buffer = buffer.take (i * size) ++
          (pieces.mapIdx fun k piece => piece.take (blockSize size total (i + k))).flatten := by
  -- what is before block `i` is as it will be
  induction pieces with
  | nil =>
    intro i buffer hlen hall _
    rw [List.mapIdx_nil, List.flatten_nil, List.append_nil]
    have hend : buffer.length ≤ i * size := Nat.le_trans (Nat.le_of_eq hlen) hall
    exact (List.take_of_length_le hend).symm
  | cons piece pieces ih =>
    intro i buffer hlen hall hfull
    have hlen' : (overwrite buffer (i * size) (piece.take (total - i * size))).length = total := by
      rw [length_overwrite (by rw [List.length_take, hlen]; omega), hlen]
    have hall' : total ≤ (i + 1 + pieces.length) * size := by
      rw [Nat.add_right_comm]
      exact hall
    have hstep : ∀ k, i + 1 + k = i + (k + 1) := fun k => by omega
    rw [fillBlocks, ih (i + 1) _ hlen' hall' (fun k d hd => by
        rw [hstep]
        exact hfull (k + 1) d hd),
      take_overwrite hlen (by simpa using hfull 0 piece rfl), List.mapIdx_cons, List.flatten_cons,
      List.append_assoc]
    simp only [hstep, Nat.add_zero]

end Blocks

end Stdiolink.Lib
