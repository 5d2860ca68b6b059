/-
# Reading a text line by line

A line reaches up to and including its newline, and the last one may lack it. A reader that has
room for a limited number of elements reads a line in one go if there is room for it; otherwise
it stops in the middle and takes the rest for the next line.
-/

import Mathlib.Data.List.Basic

namespace TextLines

variable {α : Type*} [DecidableEq α] {newline : α} {room fuel : ℕ} {s line : List α}
  {rest : List (List α)}

/-- Read up to and including the next newline, but no more than there is room for. What is read,
and what is left. -/
def readLine (newline : α) : ℕ → List α → List α × List α
  | 0, s => ([], s)
  | _ + 1, [] => ([], [])
  | room + 1, c :: s =>
    if c = newline then ([c], s)
    else
      let read := readLine newline room s
      (c :: read.1, read.2)

/-- Read on to the end, at most so many times. -/
def readLines (newline : α) (room : ℕ) : ℕ → List α → List (List α)
  | 0, _ => []
  | fuel + 1, s =>
    if s = [] then []
    else
      let read := readLine newline room s
      read.1 :: readLines newline room fuel read.2

/-- The lines of a text, with their newlines. -/
def lines (newline : α) : List α → List (List α)
  | [] => []
  | c :: s =>
    if c = newline then [c] :: lines newline s
    else match lines newline s with
      | [] => [[c]]
      | line :: rest => (c :: line) :: rest

/-- What is read and what is left are the text. -/
theorem readLine_append (newline : α) (room : ℕ) (s : List α) :
    (readLine newline room s).1 ++ (readLine newline room s).2 = s := by
  fun_induction readLine newline room s with
  | case1 => rfl
  | case2 => rfl
  | case3 => rfl
  | case4 room c s other read ih => exact congrArg (c :: ·) ih

theorem length_readLine_le (newline : α) (room : ℕ) (s : List α) :
    (readLine newline room s).1.length ≤ room := by
  fun_induction readLine newline room s with
  | case1 => exact Nat.le_refl _
  | case2 => exact Nat.zero_le _
  | case3 => exact Nat.succ_le_succ (Nat.zero_le _)
  | case4 room c s other read ih => exact Nat.succ_le_succ ih

@[simp] theorem lines_eq_nil_iff : lines newline s = [] ↔ s = [] := by
  cases s with
  | nil => simp [lines]
  | cons c s =>
    simp only [lines, reduceCtorEq, iff_false]
    split_ifs
    · simp
    · split <;> simp

theorem ne_nil_of_mem_lines (listed : line ∈ lines newline s) : line ≠ [] := by
  induction s generalizing line with
  | nil => cases listed
  | cons c s ih =>
    rw [lines] at listed
    split_ifs at listed with ends
    · rcases List.mem_cons.mp listed with rfl | later
      · exact List.cons_ne_nil _ _
      · exact ih later
    · cases behind : lines newline s with
      | nil =>
        rw [behind] at listed
        rw [List.mem_singleton.mp listed]
        exact List.cons_ne_nil _ _
      | cons line' rest' =>
        rw [behind] at listed
        rcases List.mem_cons.mp listed with rfl | later
        · exact List.cons_ne_nil _ _
        · exact ih (behind ▸ List.mem_cons_of_mem _ later)

/-- A line is read in one go if there is room for it. -/
theorem readLine_of_lines (first : lines newline s = line :: rest) (short : line.length ≤ room) :
    (readLine newline room s).1 = line ∧ lines newline (readLine newline room s).2 = rest := by
  induction s generalizing line rest room with
  | nil => cases first
  | cons c s ih =>
    have some : line ≠ [] := ne_nil_of_mem_lines (first ▸ List.mem_cons_self)
    have positive := List.length_pos_iff.mpr some
    obtain ⟨room, rfl⟩ := Nat.exists_eq_succ_of_ne_zero (by omega : room ≠ 0)
    rw [lines] at first
    split_ifs at first with ends
    · obtain ⟨rfl, rfl⟩ := List.cons.inj first
      rw [readLine, if_pos ends]
      exact ⟨rfl, rfl⟩
    · rw [readLine, if_neg ends]
      cases behind : lines newline s with
      | nil =>
        rw [behind] at first
        obtain ⟨rfl, rfl⟩ := List.cons.inj first
        obtain rfl := lines_eq_nil_iff.mp behind
        cases room <;> exact ⟨rfl, rfl⟩
      | cons line' rest' =>
        rw [behind] at first
        obtain ⟨rfl, rfl⟩ := List.cons.inj first
        obtain ⟨reads, leaves⟩ := ih behind (Nat.le_of_succ_le_succ short)
        exact ⟨congrArg (c :: ·) reads, leaves⟩

/-- With room for every line, a text is read line by line. -/
theorem readLines_eq_lines (enough : s.length ≤ fuel)
    (short : ∀ line ∈ lines newline s, line.length ≤ room) :
    readLines newline room fuel s = lines newline s := by
  induction fuel generalizing s with
  | zero =>
    obtain rfl := List.length_eq_zero_iff.mp (Nat.le_zero.mp enough)
    rfl
  | succ fuel ih =>
    by_cases empty : s = []
    · subst empty
      rfl
    · cases split : lines newline s with
      | nil => exact absurd (lines_eq_nil_iff.mp split) empty
      | cons line rest =>
        rw [split] at short
        obtain ⟨reads, leaves⟩ := readLine_of_lines split (short line List.mem_cons_self)
        have whole := congrArg List.length (readLine_append newline room s)
        have some : 0 < line.length :=
          List.length_pos_iff.mpr (ne_nil_of_mem_lines (split ▸ List.mem_cons_self))
        rw [List.length_append, reads] at whole
        have later : readLines newline room fuel (readLine newline room s).2 = rest := by
          rw [ih (by omega), leaves]
          intro other listed
          rw [leaves] at listed
          exact short other (List.mem_cons_of_mem _ listed)
        rw [readLines, if_neg empty]
        exact congrArg₂ List.cons reads later

end TextLines
