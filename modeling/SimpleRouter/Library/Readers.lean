/-
# Readers

A reader takes something off the front of a list, or it fails. It reads back what was written
if it gets that, and no more than that, whatever stands behind it. Readers that follow each
other read back what was written one behind the other.
-/

import Mathlib.Control.Lawful
import Mathlib.Data.List.Basic

namespace Readers

variable {α ρ σ : Type}

/-- Takes something off the front of its input, or fails. -/
abbrev Reader (α ρ : Type) := StateT (List α) Option ρ

/-- The reader gets `r` off what is written, and leaves what is behind. -/
def Reads (p : Reader α ρ) (written : List α) (r : ρ) : Prop :=
  ∀ rest, p.run (written ++ rest) = some (r, rest)

/-- Take as many elements. -/
def takeN (n : ℕ) : Reader α (List α) := fun s =>
  if n ≤ s.length then some (s.take n, s.drop n) else none

/-- Fail. -/
def fail : Reader α ρ := fun _ => none

theorem reads_pure (r : ρ) : Reads (pure r : Reader α ρ) [] r := fun _ => rfl

theorem reads_takeN (s : List α) : Reads (takeN s.length) s s := by
  intro rest
  have enough : s.length ≤ (s ++ rest).length := by simp
  change (if s.length ≤ (s ++ rest).length then _ else none) = _
  rw [if_pos enough, List.take_left, List.drop_left]

/-- Two readers read back what was written one behind the other. -/
theorem Reads.bind {p : Reader α ρ} {q : ρ → Reader α σ} {s t : List α} {a : ρ} {b : σ}
    (first : Reads p s a) (second : Reads (q a) t b) : Reads (p >>= q) (s ++ t) b := by
  intro rest
  rw [StateT.run_bind, List.append_assoc, first]
  exact second rest

/-- The last of them may read nothing more. -/
theorem Reads.bind_last {p : Reader α ρ} {q : ρ → Reader α σ} {s : List α} {a : ρ} {b : σ}
    (first : Reads p s a) (last : Reads (q a) [] b) : Reads (p >>= q) s b := by
  have both := first.bind last
  rwa [List.append_nil] at both

theorem Reads.map {p : Reader α ρ} {s : List α} {a : ρ} (reads : Reads p s a) (f : ρ → σ) :
    Reads (f <$> p) s (f a) := by
  intro rest
  rw [StateT.run_map, reads]
  rfl

/-- Read on to the end, at most so many times. -/
def readAll (p : Reader α ρ) : ℕ → List α → Option (List ρ)
  | 0, s => if s = [] then some [] else none
  | rounds + 1, s =>
    if s = [] then some []
    else do
      let (r, rest) ← p.run s
      let later ← readAll p rounds rest
      some (r :: later)

/-- Read to the end. What is read must not be empty. -/
def readToEnd (p : Reader α ρ) (s : List α) : Option (List ρ) := readAll p s.length s

theorem readAll_flatten {p : Reader α ρ} {write : ρ → List α} (some : ∀ r, write r ≠ [])
    (reads : ∀ r, Reads p (write r) r) {rounds : ℕ} {records : List ρ}
    (enough : (records.map write).flatten.length ≤ rounds) :
    readAll p rounds (records.map write).flatten = .some records := by
  induction records generalizing rounds with
  | nil => cases rounds <;> exact if_pos rfl
  | cons r rest ih =>
    have positive := List.length_pos_iff.mpr (some r)
    rw [List.map_cons, List.flatten_cons, List.length_append] at enough
    obtain ⟨rounds, rfl⟩ := Nat.exists_eq_succ_of_ne_zero (by omega : rounds ≠ 0)
    have left : write r ++ (rest.map write).flatten ≠ [] := by simp [some r]
    rw [List.map_cons, List.flatten_cons, readAll, if_neg left, reads r]
    change (do
      let later ← readAll p rounds (rest.map write).flatten
      Option.some (r :: later)) = _
    rw [ih (by omega)]
    rfl

/-- Records that are written one behind the other are read back. -/
theorem readToEnd_flatten {p : Reader α ρ} {write : ρ → List α} (some : ∀ r, write r ≠ [])
    (reads : ∀ r, Reads p (write r) r) (records : List ρ) :
    readToEnd p (records.map write).flatten = .some records :=
  readAll_flatten some reads (Nat.le_refl _)

end Readers
