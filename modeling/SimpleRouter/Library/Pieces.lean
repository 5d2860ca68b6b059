/-
# Cutting a list into pieces

The stretches `[0, k)`, `[k, 2k)`, … of a list follow each other without a gap, so that enough
of them make up the list. No other way to cut it into pieces of at most `k` elements needs
fewer than its length divided by `k`, rounded up.

If the pieces arrive one after the other, what has arrived says of each what it was.
-/

import Mathlib.Data.List.Basic

namespace Pieces

variable {α : Type*} {k n : ℕ} {l : List α} {pieces : List (List α)}

/-- The `i`-th stretch of `k` elements. -/
def stretch (k : ℕ) (l : List α) (i : ℕ) : List α := (l.take ((i + 1) * k)).drop (i * k)

/-- The first `n` stretches. -/
def stretches (k n : ℕ) (l : List α) : List (List α) := (List.range n).map (stretch k l)

@[simp] theorem length_stretches : (stretches k n l).length = n := by simp [stretches]

theorem stretches_succ : stretches k (n + 1) l = stretches k n l ++ [stretch k l n] := by
  simp [stretches, List.range_succ]

theorem length_stretch (k : ℕ) (l : List α) (i : ℕ) :
    (stretch k l i).length = min k (l.length - i * k) := by
  have next : (i + 1) * k = i * k + k := Nat.succ_mul i k
  rw [stretch, List.length_drop, List.length_take, next]
  omega

theorem length_le_of_mem_stretches {piece : List α} (listed : piece ∈ stretches k n l) :
    piece.length ≤ k := by
  obtain ⟨i, -, rfl⟩ := List.mem_map.mp listed
  rw [length_stretch]
  exact Nat.min_le_left _ _

/-- The stretches make up the front of the list. -/
theorem flatten_stretches (k n : ℕ) (l : List α) : (stretches k n l).flatten = l.take (n * k) := by
  induction n with
  | zero => simp [stretches]
  | succ n ih =>
    have front : (l.take ((n + 1) * k)).take (n * k) = l.take (n * k) := by
      rw [List.take_take, Nat.min_eq_left (Nat.mul_le_mul_right k (Nat.le_succ n))]
    rw [stretches_succ, List.flatten_append, ih, ← front, List.flatten_singleton, stretch,
      List.take_append_drop]

theorem flatten_stretches_of_le (enough : l.length ≤ n * k) : (stretches k n l).flatten = l := by
  rw [flatten_stretches, List.take_of_length_le enough]

/-- All stretches that begin in the list have an element. -/
theorem ne_nil_of_mem_stretches (positive : 0 < k) (inside : (n - 1) * k < l.length)
    {piece : List α} (listed : piece ∈ stretches k n l) : piece ≠ [] := by
  obtain ⟨i, before, rfl⟩ := List.mem_map.mp listed
  have below : i * k ≤ (n - 1) * k :=
    Nat.mul_le_mul_right k (Nat.le_pred_of_lt (List.mem_range.mp before))
  rw [← List.length_pos_iff, length_stretch]
  omega

/-- Short pieces do not make up more than so many times their bound. -/
theorem length_flatten_le (short : ∀ piece ∈ pieces, piece.length ≤ k) :
    pieces.flatten.length ≤ pieces.length * k := by
  induction pieces with
  | nil => simp
  | cons piece rest ih =>
    have first := short piece List.mem_cons_self
    have later := ih fun other listed => short other (List.mem_cons_of_mem _ listed)
    rw [List.flatten_cons, List.length_append, List.length_cons, Nat.succ_mul]
    omega

/-! ## Pieces that arrive one after the other -/

section Streams

variable {β : Type*} {f g : β → List α} {items : List β}

/-- Leaving out some items is the same as nothing arriving for them. -/
theorem flatten_map_filter (p : β → Prop) [DecidablePred p] (f : β → List α) (items : List β) :
    ((items.filter p).map f).flatten = (items.map fun item => if p item then f item else []).flatten
    := by
  induction items with
  | nil => rfl
  | cons item rest ih =>
    by_cases kept : p item
    · simp [kept, ih]
    · simp [kept, ih]

/-- At every point the same has arrived if and only if each item has brought the same. -/
theorem flatten_map_take_eq_iff :
    (∀ n, ((items.take n).map f).flatten = ((items.take n).map g).flatten) ↔
      ∀ item ∈ items, f item = g item := by
  constructor
  · intro same item listed
    obtain ⟨i, inside, rfl⟩ := List.getElem_of_mem listed
    have next := same (i + 1)
    rw [List.take_succ_eq_append_getElem inside, List.map_append, List.map_append,
      List.flatten_append, List.flatten_append, same i] at next
    simpa using List.append_cancel_left next
  · intro same n
    congr 1
    exact List.map_congr_left fun item listed => same item (List.mem_of_mem_take listed)

end Streams

end Pieces
