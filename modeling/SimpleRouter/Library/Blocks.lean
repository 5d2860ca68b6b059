/-
# Blocks

A text is processed in blocks of one length, while it comes in. Behind its blocks there is a rest
that is shorter than a block.
-/

import Mathlib.Data.List.Basic
import Mathlib.Order.Nat
import Mathlib.Tactic.Common

namespace Blocks

variable {α : Type*} {n : ℕ} {text more : List α} {a : α}

/-- The blocks of a text, without the rest behind them. -/
def blocks (n : ℕ) (text : List α) : List (List α) :=
  (List.range (text.length / n)).map fun i => (text.drop (n * i)).take n

/-- What is behind the blocks of a text. -/
def rest (n : ℕ) (text : List α) : List α := text.drop (n * (text.length / n))

@[simp] theorem blocks_nil (n : ℕ) : blocks n ([] : List α) = [] := by
  rw [blocks, List.length_nil, Nat.zero_div, List.range_zero, List.map_nil]

@[simp] theorem rest_nil (n : ℕ) : rest n ([] : List α) = [] := List.drop_nil

theorem length_rest (n : ℕ) (text : List α) : (rest n text).length = text.length % n := by
  rw [rest, List.length_drop]
  have parted := Nat.div_add_mod text.length n
  omega

theorem rest_of_lt (short : text.length < n) : rest n text = text := by
  rw [rest, Nat.div_eq_of_lt short, Nat.mul_zero, List.drop_zero]

theorem blocks_of_lt (short : text.length < n) : blocks n text = [] := by
  rw [blocks, Nat.div_eq_of_lt short, List.range_zero, List.map_nil]

theorem blocks_of_eq (positive : 0 < n) (full : text.length = n) : blocks n text = [text] := by
  rw [blocks, full, Nat.div_self positive, List.range_one, List.map_singleton, Nat.mul_zero,
    List.drop_zero, List.take_of_length_le full.le]

theorem rest_of_eq (positive : 0 < n) (full : text.length = n) : rest n text = [] := by
  rw [rest, full, Nat.div_self positive, Nat.mul_one, List.drop_of_length_le full.le]

theorem length_append_div (positive : 0 < n) (text more : List α) :
    (text ++ more).length / n = text.length / n + (rest n text ++ more).length / n := by
  have parted : text.length + more.length =
      n * (text.length / n) + (text.length % n + more.length) := by
    rw [← Nat.add_assoc, Nat.div_add_mod]
  rw [List.length_append, List.length_append, length_rest, parted, Nat.mul_add_div positive]

theorem drop_append_rest (i : ℕ) (text more : List α) :
    (text ++ more).drop (n * (text.length / n + i)) = (rest n text ++ more).drop (n * i) := by
  rw [rest, ← List.drop_append_of_le_length (Nat.mul_div_le _ _), List.drop_drop, Nat.mul_add]

/-- More text is processed behind the blocks that are complete, with the rest. -/
theorem blocks_append (positive : 0 < n) (text more : List α) :
    blocks n (text ++ more) = blocks n text ++ blocks n (rest n text ++ more) := by
  rw [blocks, length_append_div positive, List.range_add, List.map_append, List.map_map]
  congr 1
  · refine List.map_congr_left fun i listed => ?_
    have inside : n * (i + 1) ≤ text.length :=
      (Nat.mul_le_mul_left n (List.mem_range.mp listed)).trans (Nat.mul_div_le _ _)
    rw [Nat.mul_succ] at inside
    rw [List.drop_append_of_le_length (by omega),
      List.take_append_of_le_length (by rw [List.length_drop]; omega)]
  · refine List.map_congr_left fun i _ => ?_
    rw [Function.comp_apply, drop_append_rest]

theorem rest_append (positive : 0 < n) (text more : List α) :
    rest n (text ++ more) = rest n (rest n text ++ more) := by
  rw [rest, length_append_div positive, drop_append_rest]
  rfl

/-! ## One more cell -/

theorem blocks_concat_of_full (positive : 0 < n) (full : (rest n text).length + 1 = n) :
    blocks n (text ++ [a]) = blocks n text ++ [rest n text ++ [a]] := by
  have filled : (rest n text ++ [a]).length = n := by rwa [List.length_append]
  rw [blocks_append positive, blocks_of_eq positive filled]

theorem rest_concat_of_full (positive : 0 < n) (full : (rest n text).length + 1 = n) :
    rest n (text ++ [a]) = [] := by
  have filled : (rest n text ++ [a]).length = n := by rwa [List.length_append]
  rw [rest_append positive, rest_of_eq positive filled]

theorem length_rest_concat_lt (positive : 0 < n) (open_ : (rest n text).length + 1 ≠ n) :
    (rest n text ++ [a]).length < n := by
  have short := Nat.mod_lt text.length positive
  rw [length_rest] at open_
  rw [List.length_append, length_rest, List.length_singleton]
  omega

theorem blocks_concat_of_ne (positive : 0 < n) (open_ : (rest n text).length + 1 ≠ n) :
    blocks n (text ++ [a]) = blocks n text := by
  rw [blocks_append positive, blocks_of_lt (length_rest_concat_lt positive open_),
    List.append_nil]

theorem rest_concat_of_ne (positive : 0 < n) (open_ : (rest n text).length + 1 ≠ n) :
    rest n (text ++ [a]) = rest n text ++ [a] := by
  rw [rest_append positive, rest_of_lt (length_rest_concat_lt positive open_)]

end Blocks
