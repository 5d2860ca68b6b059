/-
# Texts and records of fixed width

A message format gives a text a field of fixed width. A longer text is cut, and behind a
shorter one the field is filled with a padding cell. One reader of such a field takes the
cells before the first padding and, if there is none, goes on behind the field; another
takes the cells of the field that are not padding.

Records of one width stand behind each other and are found by their number.
-/

import Mathlib.Data.List.Induction
import Mathlib.Data.List.TakeWhile

namespace FixedFields

/-! ## Texts -/

section Texts

variable {α : Type*}

/-- The field of width `n` that holds a text. -/
def field (pad : α) (n : ℕ) (s : List α) : List α := (s.take n).rightpad n pad

@[simp] theorem length_field (pad : α) (n : ℕ) (s : List α) : (field pad n s).length = n := by
  rw [field, List.rightpad, List.length_append, List.length_replicate, List.length_take]
  omega

theorem field_of_le {pad : α} {n : ℕ} {s : List α} (short : s.length ≤ n) :
    field pad n s = s ++ List.replicate (n - s.length) pad := by
  rw [field, List.take_of_length_le short, List.rightpad]

theorem field_of_ge {pad : α} {n : ℕ} {s : List α} (long : n ≤ s.length) :
    field pad n s = s.take n := by
  rw [field, List.rightpad, List.length_take_of_le long, Nat.sub_self]
  exact List.append_nil _

theorem not_mem_take {pad : α} {s : List α} (plain : pad ∉ s) (n : ℕ) : pad ∉ s.take n :=
  fun listed => plain (List.mem_of_mem_take listed)

variable [DecidableEq α]

/-- The cells that are not padding. -/
def strip (pad : α) (s : List α) : List α := s.filter (· ≠ pad)

/-- The cells before the first padding. -/
def text (pad : α) (s : List α) : List α := s.takeWhile (· ≠ pad)

variable {pad : α} {n : ℕ} {s rest : List α}

theorem strip_of_not_mem (plain : pad ∉ s) : strip pad s = s := by
  refine List.filter_eq_self.mpr fun a listed => ?_
  have differs : a ≠ pad := fun same => plain (same ▸ listed)
  simpa using differs

@[simp] theorem strip_append (s t : List α) : strip pad (s ++ t) = strip pad s ++ strip pad t :=
  List.filter_append _ _

@[simp] theorem strip_replicate (k : ℕ) : strip pad (List.replicate k pad) = [] := by
  simp [strip]

/-- Without its padding, a field is the text as far as it was stored. -/
theorem strip_field (plain : pad ∉ s) : strip pad (field pad n s) = s.take n := by
  rw [field, List.rightpad, strip_append, strip_replicate, List.append_nil,
    strip_of_not_mem (not_mem_take plain n)]

theorem text_append_of_not_mem (plain : pad ∉ s) : text pad (s ++ rest) = s ++ text pad rest := by
  refine List.takeWhile_append_of_pos fun a listed => ?_
  have differs : a ≠ pad := fun same => plain (same ▸ listed)
  simpa using differs

@[simp] theorem text_cons_pad (s : List α) : text pad (pad :: s) = [] := by
  simp [text]

@[simp] theorem text_nil : text pad [] = [] := rfl

theorem text_of_not_mem (plain : pad ∉ s) : text pad s = s := by
  rw [← List.append_nil s, text_append_of_not_mem plain, text_nil]

/-- Behind the first padding nothing is read. -/
theorem text_append_of_mem (padded : pad ∈ s) : text pad (s ++ rest) = text pad s := by
  induction s with
  | nil => exact absurd padded List.not_mem_nil
  | cons a s ih =>
    by_cases here : a = pad
    · rw [here, List.cons_append, text_cons_pad, text_cons_pad]
    · have later := ih ((List.mem_cons.mp padded).resolve_left fun same => here same.symm)
      rw [List.cons_append, text, text, List.takeWhile_cons_of_pos (by simpa using here),
        List.takeWhile_cons_of_pos (by simpa using here)]
      exact congrArg (a :: ·) later

theorem length_text_le (pad : α) (s : List α) : (text pad s).length ≤ s.length :=
  (List.takeWhile_prefix _).length_le

/-- A text shorter than its field is read back. -/
theorem text_field_of_lt (plain : pad ∉ s) (short : s.length < n) :
    text pad (field pad n s ++ rest) = s := by
  obtain ⟨k, filled⟩ := Nat.exists_eq_add_of_lt short
  rw [field_of_le short.le, List.append_assoc, text_append_of_not_mem plain, filled,
    Nat.add_assoc, Nat.add_sub_cancel_left, List.replicate_succ, List.cons_append, text_cons_pad,
    List.append_nil]

/-- A longer one is cut, and what is behind the field is read as a part of it. -/
theorem text_field_of_ge (plain : pad ∉ s) (long : n ≤ s.length) :
    text pad (field pad n s ++ rest) = s.take n ++ text pad rest := by
  rw [field_of_ge long, text_append_of_not_mem (not_mem_take plain n)]

theorem text_field_ne_nil (plain : pad ∉ s) (nonempty : s ≠ []) (positive : 0 < n) :
    text pad (field pad n s ++ rest) ≠ [] := by
  rcases Nat.lt_or_ge s.length n with short | long
  · rwa [text_field_of_lt plain short]
  · rw [text_field_of_ge plain long]
    intro nothing
    have counted := congrArg List.length (List.append_eq_nil_iff.mp nothing).1
    rw [List.length_take_of_le long, List.length_nil] at counted
    omega

/-- Copied from a field to one of the same width, a text stays as it is. -/
theorem field_text_field (plain : pad ∉ s) :
    field pad n (text pad (field pad n s ++ rest)) = field pad n s := by
  rcases Nat.lt_or_ge s.length n with short | long
  · rw [text_field_of_lt plain short]
  · have cut : (s.take n ++ text pad rest).take n = s.take n := by
      rw [List.take_append_of_le_length (by rw [List.length_take_of_le long]), List.take_take,
        Nat.min_self]
    rw [text_field_of_ge plain long, field, cut, field]

end Texts

/-! ## Records -/

section Records

variable {α : Type*} {width : ℕ} {records : List (List α)}

theorem length_flatten_of_width (same : ∀ record ∈ records, record.length = width) :
    records.flatten.length = records.length * width := by
  induction records with
  | nil => exact (Nat.zero_mul width).symm
  | cons record later ih =>
    rw [List.forall_mem_cons] at same
    rw [List.flatten_cons, List.length_append, same.1, ih same.2, List.length_cons, Nat.succ_mul,
      Nat.add_comm]

/-- The `i`-th record begins behind `i` whole ones. -/
theorem drop_flatten (same : ∀ record ∈ records, record.length = width) {i : ℕ}
    (inside : i < records.length) :
    records.flatten.drop (i * width) = records[i] ++ (records.drop (i + 1)).flatten := by
  have before : ∀ record ∈ records.take i, record.length = width :=
    fun record listed => same record (List.mem_of_mem_take listed)
  have front : (records.take i).flatten.length = i * width := by
    rw [length_flatten_of_width before, List.length_take_of_le inside.le]
  have split : records.flatten =
      (records.take i).flatten ++ (records[i] ++ (records.drop (i + 1)).flatten) := by
    rw [← List.flatten_cons, ← List.drop_eq_getElem_cons inside, ← List.flatten_append,
      List.take_append_drop]
  rw [split, ← front, List.drop_left]

/-- A loop over the numbers of the records that finds each one finds them all. -/
theorem mapM_range_eq_pure {m : Type _ → Type _} [Monad m] [LawfulMonad m] {find : ℕ → m α}
    {found : List α} (finds : ∀ i, (inside : i < found.length) → find i = pure found[i]) :
    (List.range found.length).mapM find = pure found := by
  induction found using List.reverseRecOn with
  | nil => rfl
  | append_singleton front last ih =>
    have earlier : ∀ i, (inside : i < front.length) → find i = pure front[i] := by
      intro i inside
      have here := finds i (by rw [List.length_append]; omega)
      rwa [List.getElem_append_left inside] at here
    have here := finds front.length (by simp)
    rw [List.getElem_append_right (Nat.le_refl _)] at here
    rw [List.length_append, List.length_singleton, List.range_succ, List.mapM_append, ih earlier]
    simp [here]

end Records

end FixedFields
