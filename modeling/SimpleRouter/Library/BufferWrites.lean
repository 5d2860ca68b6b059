/-
# Writing into a buffer

A buffer of fixed length is written from some place on, one cell after the other. Behind the
writes it holds what was written, what is in front of it and what is behind it is as before.
-/

import Mathlib.Data.Vector.Basic
import Mathlib.Tactic.Common

namespace BufferWrites

variable {α : Type*} {n : ℕ}

/-- Write some cells, from a place on. Writes behind the end of the buffer are dropped. -/
def writeAt (buffer : Vector α n) (i : ℕ) : List α → Vector α n
  | [] => buffer
  | a :: rest => writeAt (buffer.setIfInBounds i a) (i + 1) rest

theorem take_setIfInBounds {i : ℕ} (inside : i < n) (buffer : Vector α n) (a : α) :
    (buffer.setIfInBounds i a).toList.take (i + 1) = buffer.toList.take i ++ [a] := by
  rw [Vector.toList_setIfInBounds, List.take_add_one, List.take_set_of_le le_rfl,
    List.getElem?_set_self (by simpa using inside), Option.toList_some]

/-- The cells up to the end of the writes. -/
theorem take_writeAt {i : ℕ} {cells : List α} (inside : i + cells.length ≤ n)
    (buffer : Vector α n) :
    (writeAt buffer i cells).toList.take (i + cells.length) = buffer.toList.take i ++ cells := by
  induction cells generalizing i buffer with
  | nil => exact (List.append_nil _).symm
  | cons a rest ih =>
    rw [List.length_cons] at inside
    rw [writeAt, List.length_cons, ← Nat.add_assoc, Nat.add_right_comm,
      ih (by omega), take_setIfInBounds (by omega), List.append_assoc, List.singleton_append]

/-- The cells behind the writes. -/
theorem getElem?_writeAt_of_le {i j : ℕ} {cells : List α} (behind : i + cells.length ≤ j)
    (buffer : Vector α n) : (writeAt buffer i cells)[j]? = buffer[j]? := by
  induction cells generalizing i buffer with
  | nil => rfl
  | cons a rest ih =>
    rw [List.length_cons] at behind
    rw [writeAt, ih (by omega), Vector.getElem?_setIfInBounds_ne (by omega)]

/-- The front of a buffer holds nothing old if and only if it is written, where cells may hold
different things. -/
theorem take_writeAt_iff {a b : α} (distinct : a ≠ b) {k : ℕ} {cells : List α}
    (fits : cells.length ≤ n) (inside : k ≤ n) :
    (∀ buffer buffer' : Vector α n,
      (writeAt buffer 0 cells).toList.take k = (writeAt buffer' 0 cells).toList.take k) ↔
        k ≤ cells.length := by
  constructor
  · intro same
    by_contra! beyond
    -- The first cell behind the writes tells the buffers apart.
    have cell (c : α) : ((writeAt (.replicate n c) 0 cells).toList.take k)[cells.length]? =
        some c := by
      rw [List.getElem?_take_of_lt beyond, Vector.getElem?_toList,
        getElem?_writeAt_of_le (by omega)]
      simp [beyond.trans_le inside]
    refine distinct (Option.some_inj.mp ?_)
    rw [← cell a, ← cell b, same]
  · intro written buffer buffer'
    have front (buffer : Vector α n) : (writeAt buffer 0 cells).toList.take k = cells.take k := by
      have fits : 0 + cells.length ≤ n := (Nat.zero_add _).trans_le fits
      have all := take_writeAt fits buffer
      rw [Nat.zero_add, List.take_zero, List.nil_append] at all
      calc
        _ = ((writeAt buffer 0 cells).toList.take cells.length).take k := by
          rw [List.take_take, Nat.min_eq_left written]
        _ = cells.take k := by rw [all]
    rw [front, front]

end BufferWrites
