/-
# Fixed-width spans of a buffer

A header field is a run of consecutive cells of a buffer, named by the offset of
its first cell. Reading and writing a span obey the laws of independent
variables as long as the spans do not overlap, and a write never changes the
length of the buffer nor a cell outside the span.

Reads are total: a cell past the end of the buffer reads as the default value.
Whether a span lies inside the buffer is the separate question `Span.Fits`.
-/

import Mathlib.Data.List.Basic

namespace Buffers

/-- The `n` consecutive cells of a buffer that start at offset `off`. -/
structure Span (n : ℕ) where
  off : ℕ
  deriving DecidableEq, Repr

namespace Span

section Geometry

variable {n m : ℕ}

/-- The span contains offset `i`. -/
def Covers (f : Span n) (i : ℕ) : Prop := f.off ≤ i ∧ i < f.off + n

/-- The two spans share no offset because one ends before the other begins. -/
def Disjoint (f : Span n) (g : Span m) : Prop := f.off + n ≤ g.off ∨ g.off + m ≤ f.off

/-- The first span is a part of the second. -/
def Within (g : Span m) (f : Span n) : Prop := f.off ≤ g.off ∧ g.off + m ≤ f.off + n

instance (f : Span n) (i : ℕ) : Decidable (f.Covers i) := inferInstanceAs (Decidable (_ ∧ _))

instance (f : Span n) (g : Span m) : Decidable (f.Disjoint g) :=
  inferInstanceAs (Decidable (_ ∨ _))

instance (g : Span m) (f : Span n) : Decidable (g.Within f) := inferInstanceAs (Decidable (_ ∧ _))

theorem Disjoint.not_covers {f : Span n} {g : Span m} (h : f.Disjoint g) {i : ℕ}
    (hi : f.Covers i) : ¬ g.Covers i := by
  rintro ⟨lower, upper⟩
  obtain ⟨lower', upper'⟩ := hi
  rcases h with h | h <;> omega

end Geometry

section Access

variable {α : Type*} {n m : ℕ}

/-- The span lies inside the buffer. -/
def Fits (f : Span n) (p : List α) : Prop := f.off + n ≤ p.length

instance (f : Span n) (p : List α) : Decidable (f.Fits p) := inferInstanceAs (Decidable (_ ≤ _))

/-- The cells of the span. -/
def get [Inhabited α] (f : Span n) (p : List α) : Vector α n :=
  Vector.ofFn fun i => p.getD (f.off + i) default

/-- The buffer with the cells of the span overwritten. Cells the span names
beyond the end of the buffer are not created. -/
def set (f : Span n) (v : Vector α n) (p : List α) : List α :=
  p.mapIdx fun i cell => if h : f.off ≤ i ∧ i < f.off + n then v[i - f.off] else cell

@[simp] theorem length_set (f : Span n) (v : Vector α n) (p : List α) :
    (f.set v p).length = p.length := by
  simp [set]

@[simp] theorem fits_set (f : Span n) (g : Span m) (v : Vector α m) (p : List α) :
    f.Fits (g.set v p) ↔ f.Fits p := by
  simp [Fits]

theorem getElem?_set_of_not_covers {f : Span n} (v : Vector α n) (p : List α) {i : ℕ}
    (h : ¬ f.Covers i) : (f.set v p)[i]? = p[i]? := by
  have outside : ¬ (f.off ≤ i ∧ i < f.off + n) := h
  simp only [set, List.getElem?_mapIdx, outside, dite_false]
  cases p[i]? <;> rfl

theorem getElem?_set_of_covers {f : Span n} (v : Vector α n) (p : List α) {i : ℕ}
    (h : f.off ≤ i ∧ i < f.off + n) (inside : i < p.length) :
    (f.set v p)[i]? = some v[i - f.off] := by
  simp only [set, List.getElem?_mapIdx, List.getElem?_eq_getElem inside, Option.map_some, h,
    and_self, dite_true]

/-- Two writes to one span leave the second. -/
@[simp] theorem set_set_self (f : Span n) (v w : Vector α n) (p : List α) :
    f.set v (f.set w p) = f.set v p := by
  ext i : 1
  by_cases covered : f.Covers i
  · simp only [set, List.getElem?_mapIdx]
    obtain ⟨lower, upper⟩ := covered
    cases p[i]? <;> simp [lower, upper]
  · simp only [getElem?_set_of_not_covers _ _ covered]

/-- Writes to disjoint spans commute. -/
theorem set_comm {f : Span n} {g : Span m} (h : f.Disjoint g) (v : Vector α n) (w : Vector α m)
    (p : List α) : f.set v (g.set w p) = g.set w (f.set v p) := by
  ext i : 1
  simp only [set, List.getElem?_mapIdx]
  cases p[i]? with
  | none => rfl
  | some cell =>
    simp only [Option.map_some]
    by_cases covered : f.off ≤ i ∧ i < f.off + n
    · have clear : ¬ (g.off ≤ i ∧ i < g.off + m) := h.not_covers covered
      rw [dif_pos covered, dif_neg clear, dif_pos covered]
    · rw [dif_neg covered]
      simp only [dif_neg covered]

/-- Behind a span, a write to it leaves the buffer as it was. -/
theorem drop_set {f : Span n} {k : ℕ} (h : f.off + n ≤ k) (v : Vector α n) (p : List α) :
    (f.set v p).drop k = p.drop k := by
  ext i : 1
  have clear : ¬ f.Covers (k + i) := fun covered => by
    have := covered.2
    omega
  rw [List.getElem?_drop, List.getElem?_drop, getElem?_set_of_not_covers v p clear]

/-- Before a span, a write to it leaves the buffer as it was. -/
theorem take_set {f : Span n} {k : ℕ} (h : k ≤ f.off) (v : Vector α n) (p : List α) :
    (f.set v p).take k = p.take k := by
  ext i : 1
  rw [List.getElem?_take, List.getElem?_take]
  split_ifs with before
  · have clear : ¬ f.Covers i := fun covered => by
      have := covered.1
      omega
    exact getElem?_set_of_not_covers v p clear
  · rfl

/-- From its span on, a write leaves the written cells and what was behind them. -/
theorem drop_set_self {f : Span n} (v : Vector α n) {p : List α} (h : f.Fits p) :
    (f.set v p).drop f.off = v.toList ++ p.drop (f.off + n) := by
  have inside : f.off + n ≤ p.length := h
  ext i : 1
  rw [List.getElem?_drop, List.getElem?_append]
  -- Up to the width of the span these are the written cells.
  by_cases within : i < n
  · have covered : f.off ≤ f.off + i ∧ f.off + i < f.off + n := by omega
    rw [getElem?_set_of_covers v p covered (by omega), if_pos (by simpa using within)]
    simp [within]
  · have clear : ¬ f.Covers (f.off + i) := fun covered => by
      have := covered.2
      omega
    rw [getElem?_set_of_not_covers v p clear, if_neg (by simpa using within), List.getElem?_drop,
      Vector.length_toList]
    congr 1
    omega

/-- A write, told of what lies before and behind it. -/
theorem set_eq_append {f : Span n} (v : Vector α n) {p : List α} (h : f.Fits p) :
    f.set v p = p.take f.off ++ v.toList ++ p.drop (f.off + n) := by
  rw [← List.take_append_drop f.off (f.set v p), take_set (Nat.le_refl _), drop_set_self v h,
    List.append_assoc]

variable [Inhabited α]

theorem getElem_get (f : Span n) (p : List α) {i : ℕ} (h : i < n) :
    (f.get p)[i] = p[f.off + i]?.getD default := by
  simp [get, List.getD_eq_getElem?_getD]

/-- A read depends on the covered cells only. -/
theorem get_congr {f : Span n} {p q : List α} (h : ∀ i, f.Covers i → p[i]? = q[i]?) :
    f.get p = f.get q := by
  ext i hi : 1
  rw [getElem_get, getElem_get, h (f.off + i) ⟨by omega, by omega⟩]

/-- A span inside the first part of a buffer is read there. -/
theorem get_append_left {f : Span n} {p : List α} (h : f.Fits p) (q : List α) :
    f.get (p ++ q) = f.get p := by
  refine get_congr fun i covered => ?_
  have inside : i < p.length := Nat.lt_of_lt_of_le covered.2 h
  exact List.getElem?_append_left inside

/-- A write is read back. -/
theorem get_set_self {f : Span n} (v : Vector α n) {p : List α} (h : f.Fits p) :
    f.get (f.set v p) = v := by
  ext i hi : 1
  have inside : f.off + i < p.length := Nat.lt_of_lt_of_le (by omega) h
  rw [getElem_get, getElem?_set_of_covers v p ⟨by omega, by omega⟩ inside]
  simp

/-- A write does not disturb a disjoint read. -/
theorem get_set_of_disjoint {f : Span n} {g : Span m} (h : f.Disjoint g) (v : Vector α m)
    (p : List α) : f.get (g.set v p) = f.get p :=
  get_congr fun _ hi => getElem?_set_of_not_covers v p (h.not_covers hi)

/-- Copying a span copies each of its parts. -/
theorem get_set_get_of_within {f : Span n} {g : Span m} (h : g.Within f) {p : List α}
    (fits : f.Fits p) (q : List α) : g.get (f.set (f.get q) p) = g.get q := by
  ext i hi : 1
  obtain ⟨lower, upper⟩ := h
  have inside : g.off + i < p.length := Nat.lt_of_lt_of_le (by omega) fits
  rw [getElem_get, getElem_get, getElem?_set_of_covers (f.get q) p ⟨by omega, by omega⟩ inside,
    Option.getD_some, getElem_get]
  congr 2
  omega

/-- Writing back what was read changes nothing. -/
@[simp] theorem set_get_self (f : Span n) (p : List α) : f.set (f.get p) p = p := by
  ext i : 1
  by_cases covered : f.Covers i
  · -- A covered cell beyond the end of the buffer is missing on both sides.
    by_cases inside : i < p.length
    · obtain ⟨lower, upper⟩ := covered
      rw [getElem?_set_of_covers _ _ ⟨lower, upper⟩ inside, getElem_get,
        List.getElem?_eq_getElem inside]
      simp [Nat.add_sub_cancel' lower, inside]
    · rw [List.getElem?_eq_none (by simpa using inside),
        List.getElem?_eq_none (by simpa using inside)]
  · exact getElem?_set_of_not_covers _ _ covered

/-- A span inside the buffer is a stretch of it. -/
theorem toList_get {f : Span n} {p : List α} (h : f.Fits p) :
    (f.get p).toList = (p.drop f.off).take n := by
  have inside : f.off + n ≤ p.length := h
  apply List.ext_getElem
  · rw [Vector.length_toList, List.length_take, List.length_drop]
    omega
  · intro i hi _
    rw [Vector.length_toList] at hi
    have cell : f.off + i < p.length := by omega
    simp [getElem_get, List.getElem?_eq_getElem cell]

/-- Reading further on is reading in what is left behind the cells that are skipped. -/
theorem get_drop (f : Span n) (k : ℕ) (p : List α) :
    f.get (p.drop k) = (⟨k + f.off⟩ : Span n).get p := by
  ext i hi : 1
  rw [getElem_get, getElem_get, List.getElem?_drop, Nat.add_assoc]

/-- Behind as many cells as its offset says, a span reads what stands there. -/
theorem get_append_toList {front : List α} {off : ℕ} (starts : front.length = off)
    (v : Vector α n) (behind : List α) :
    (⟨off⟩ : Span n).get (front ++ v.toList ++ behind) = v := by
  have inside : (⟨off⟩ : Span n).Fits (front ++ v.toList ++ behind) := by
    change off + n ≤ _
    simp only [List.length_append, Vector.length_toList]
    omega
  apply Vector.toList_inj.mp
  rw [toList_get inside, List.append_assoc, List.drop_left' starts,
    List.take_left' Vector.length_toList]

theorem get_toList_append (v : Vector α n) (behind : List α) :
    (⟨0⟩ : Span n).get (v.toList ++ behind) = v := get_append_toList List.length_nil v behind

/-- A span is its two halves. -/
theorem toList_get_add (off a b : ℕ) (p : List α) :
    ((⟨off⟩ : Span (a + b)).get p).toList =
      ((⟨off⟩ : Span a).get p).toList ++ ((⟨off + a⟩ : Span b).get p).toList := by
  apply List.ext_getElem
  · simp
  · intro i hi _
    simp only [Vector.length_toList] at hi
    rw [List.getElem_append]
    split
    · simp only [Vector.getElem_toList, getElem_get]
    · rename_i h
      simp only [Vector.length_toList] at h
      simp only [Vector.getElem_toList, getElem_get, Vector.length_toList]
      congr 2
      omega

end Access

end Span

end Buffers
