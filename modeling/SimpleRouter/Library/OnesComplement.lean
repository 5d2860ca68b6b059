/-
# One's-complement sums

Adding with an end-around carry is addition modulo `M`, except that the multiples
of `M` are split in two: an all-zero sum stays `0` and every other multiple of `M`
is written `M`. `residue M n` is the value a number `n` takes in this arithmetic.

A sequence of words checks when its sum is `M`, that is, when its plain sum is a
positive multiple of `M`. Byte strings are summed as big-endian sixteen-bit
words, an odd last byte padded with zero.
-/

import Mathlib.Algebra.BigOperators.Group.List.Basic
import Mathlib.Data.Nat.ModEq

namespace OnesComplement

section Modulus

variable {M : ℕ}

/-- The representative of `n` in one's-complement arithmetic with modulus `M`. -/
def residue (M n : ℕ) : ℕ := if n = 0 then 0 else (n - 1) % M + 1

/-- Addition with an end-around carry. -/
def add (M x y : ℕ) : ℕ := if x + y ≤ M then x + y else x + y - M

/-- The one's-complement sum of a list of words. -/
def sumWords (M : ℕ) (ws : List ℕ) : ℕ := ws.foldl (add M) 0

@[simp] theorem residue_zero : residue M 0 = 0 := rfl

theorem residue_le (positive : 0 < M) (n : ℕ) : residue M n ≤ M := by
  have bound := Nat.mod_lt (n - 1) positive
  unfold residue
  split <;> omega

theorem residue_eq_zero_iff {n : ℕ} : residue M n = 0 ↔ n = 0 := by
  unfold residue
  split <;> omega

theorem residue_modEq (n : ℕ) : residue M n ≡ n [MOD M] := by
  unfold residue
  split
  · rename_i zero
    rw [zero]
  · have step : (n - 1) % M + 1 ≡ n - 1 + 1 [MOD M] := (Nat.mod_modEq (n - 1) M).add_right 1
    rwa [Nat.sub_add_cancel (by omega)] at step

/-- A value in range that agrees with `n` modulo `M`, and vanishes only with it,
is its residue. -/
theorem eq_residue {r n : ℕ} (inRange : r ≤ M) (congruent : r ≡ n [MOD M])
    (zero : r = 0 ↔ n = 0) : r = residue M n := by
  by_cases hn : n = 0
  · rw [hn, residue_zero]
    exact zero.mpr hn
  · have hr : r ≠ 0 := fun h => hn (zero.mp h)
    -- The predecessors are below `M`, where congruence is equality.
    have predecessor : r - 1 ≡ n - 1 [MOD M] := by
      have shifted : (r - 1) + 1 ≡ (n - 1) + 1 [MOD M] := by
        rwa [Nat.sub_add_cancel (by omega), Nat.sub_add_cancel (by omega)]
      exact shifted.add_right_cancel' 1
    have small : (r - 1) % M = r - 1 := Nat.mod_eq_of_lt (by omega)
    have value : (n - 1) % M = r - 1 := Eq.trans predecessor.symm small
    rw [residue, if_neg hn, value]
    omega

theorem residue_of_le {n : ℕ} (h : n ≤ M) : residue M n = n :=
  (eq_residue h rfl Iff.rfl).symm

theorem add_eq_residue {x y : ℕ} (hx : x ≤ M) (hy : y ≤ M) : add M x y = residue M (x + y) := by
  unfold add
  -- Without a carry the sum is its own residue; with one, a single subtraction reduces it.
  split
  · exact eq_residue ‹_› rfl Iff.rfl
  · apply eq_residue (by omega) _ (by omega)
    have carried : x + y - M ≡ x + y - M + M [MOD M] := by simp [Nat.ModEq]
    rwa [Nat.sub_add_cancel (by omega)] at carried

/-- Reducing a summand early does not change the residue. -/
theorem residue_residue_add (positive : 0 < M) (x y : ℕ) :
    residue M (residue M x + y) = residue M (x + y) := by
  apply eq_residue (residue_le positive _)
  · exact (residue_modEq _).trans ((residue_modEq x).add_right y)
  · have zero := residue_eq_zero_iff (M := M) (n := x)
    rw [residue_eq_zero_iff]
    omega

private theorem foldl_add (positive : 0 < M) (ws : List ℕ) (acc : ℕ) (inRange : ∀ w ∈ ws, w ≤ M)
    (hacc : acc ≤ M) : ws.foldl (add M) acc = residue M (acc + ws.sum) := by
  induction ws generalizing acc with
  | nil => simp [residue_of_le hacc]
  | cons w ws ih =>
    have hw : w ≤ M := inRange w (by simp)
    -- The accumulator stays in range, so the next step is a residue again.
    have rest := ih (add M acc w) (fun x hx => inRange x (by simp [hx]))
      (by rw [add_eq_residue hacc hw]; exact residue_le positive _)
    rw [List.foldl_cons, rest, add_eq_residue hacc hw, residue_residue_add positive,
      List.sum_cons, Nat.add_assoc]

/-- The one's-complement sum is the residue of the plain sum. -/
theorem sumWords_eq_residue (positive : 0 < M) {ws : List ℕ} (inRange : ∀ w ∈ ws, w ≤ M) :
    sumWords M ws = residue M ws.sum := by
  rw [sumWords, foldl_add positive ws 0 inRange (Nat.zero_le M), Nat.zero_add]

/-- A sum checks exactly when the plain sum is a positive multiple of `M`. -/
theorem residue_eq_modulus_iff (positive : 0 < M) {n : ℕ} :
    residue M n = M ↔ 0 < n ∧ M ∣ n := by
  constructor
  · intro h
    have nonzero : n ≠ 0 := fun zero => by
      rw [zero, residue_zero] at h
      omega
    have congruent := residue_modEq (M := M) n
    rw [h] at congruent
    exact ⟨by omega, (Nat.modEq_zero_iff_dvd.mp (congruent.symm.trans (by simp [Nat.ModEq])))⟩
  · rintro ⟨hn, dvd⟩
    symm
    apply eq_residue le_rfl _ (by omega)
    exact (Nat.modEq_zero_iff_dvd.mpr dvd_rfl).trans (Nat.modEq_zero_iff_dvd.mpr dvd).symm

/-- The complement of a sum, with `M` in place of zero, is the one number but zero that
completes it. -/
theorem eq_complement_iff (positive : 0 < M) {n x : ℕ} (inRange : x ≤ M) :
    (x = if residue M n = M then M else M - residue M n) ↔ residue M (n + x) = M ∧ x ≠ 0 := by
  have bound := residue_le positive n
  -- The sum of two numbers up to `M` is a multiple of `M` only where it is `M` or its double.
  have completes : residue M (n + x) = M ↔ residue M n + x = M ∨ residue M n + x = M + M := by
    rw [← residue_residue_add positive, residue_eq_modulus_iff positive]
    constructor
    · rintro ⟨some, k, multiple⟩
      have below : M * k < M * 3 := by omega
      have few : k < 3 := Nat.lt_of_mul_lt_mul_left below
      obtain rfl | rfl | rfl : k = 0 ∨ k = 1 ∨ k = 2 := by omega
      · omega
      · omega
      · omega
    · rintro (once | twice)
      · exact ⟨by omega, 1, by omega⟩
      · exact ⟨by omega, 2, by omega⟩
  rw [completes]
  split_ifs <;> omega

end Modulus

section Bytes

/-- The big-endian sixteen-bit words of a byte string. -/
def words : List UInt8 → List ℕ
  | hi :: lo :: rest => (hi.toNat * 256 + lo.toNat) :: words rest
  | [last] => [last.toNat * 256]
  | [] => []

/-- The plain sum of the words of a byte string. -/
def wordSum (bytes : List UInt8) : ℕ := (words bytes).sum

/-- The one's-complement sum of the words of a byte string. -/
def onesSum (bytes : List UInt8) : ℕ := sumWords 0xFFFF (words bytes)

@[simp] theorem wordSum_nil : wordSum [] = 0 := rfl

@[simp] theorem wordSum_cons_cons (hi lo : UInt8) (rest : List UInt8) :
    wordSum (hi :: lo :: rest) = hi.toNat * 256 + lo.toNat + wordSum rest := by
  simp [wordSum, words]

/-- An odd last byte is the high half of a word. -/
@[simp] theorem wordSum_singleton (last : UInt8) : wordSum [last] = last.toNat * 256 := by
  simp [wordSum, words]

theorem mem_words_le (bytes : List UInt8) : ∀ w ∈ words bytes, w ≤ 0xFFFF := by
  induction bytes using words.induct with
  | case1 hi lo rest ih =>
    have := hi.toNat_lt
    have := lo.toNat_lt
    intro w hw
    rcases List.mem_cons.mp hw with rfl | hw
    · omega
    · exact ih w hw
  | case2 last =>
    have := last.toNat_lt
    intro w hw
    rw [List.mem_singleton.mp hw]
    omega
  | case3 => simp [words]

theorem onesSum_eq_residue (bytes : List UInt8) : onesSum bytes = residue 0xFFFF (wordSum bytes) :=
  sumWords_eq_residue (by decide) (mem_words_le bytes)

/-- A byte string checks exactly when its plain sum is a positive multiple of
`0xFFFF`. -/
theorem onesSum_eq_modulus_iff (bytes : List UInt8) :
    onesSum bytes = 0xFFFF ↔ 0 < wordSum bytes ∧ 0xFFFF ∣ wordSum bytes := by
  rw [onesSum_eq_residue]
  exact residue_eq_modulus_iff (by decide)

/-- Plain sums add up across a boundary at an even offset. -/
theorem wordSum_append {front : List UInt8} (even : 2 ∣ front.length) (back : List UInt8) :
    wordSum (front ++ back) = wordSum front + wordSum back := by
  induction front using words.induct with
  | case1 hi lo rest ih =>
    have even' : 2 ∣ rest.length := by
      simp only [List.length_cons] at even
      omega
    simp only [List.cons_append, wordSum_cons_cons, ih even', Nat.add_assoc]
  -- A lone last byte would make the boundary odd.
  | case2 last =>
    simp only [List.length_singleton] at even
    omega
  | case3 => simp

/-- The first byte of a sum counts for the high half of its word. -/
theorem wordSum_cons_zero (first : UInt8) (rest : List UInt8) :
    wordSum (first :: rest) = first.toNat * 256 + wordSum (0 :: rest) := by
  cases rest with
  | nil => simp [wordSum, words]
  | cons second rest =>
    rw [wordSum_cons_cons, wordSum_cons_cons]
    simp only [UInt8.toNat_zero]
    omega

/-- Clearing the first byte of a string that checks leaves one that checks only if the
byte was zero already. -/
theorem onesSum_cons_zero_iff {first : UInt8} {rest : List UInt8}
    (checks : onesSum (first :: rest) = 0xFFFF) : onesSum (0 :: rest) = 0xFFFF ↔ first = 0 := by
  have := first.toNat_lt
  constructor
  · intro cleared
    obtain ⟨-, k, whole⟩ := (onesSum_eq_modulus_iff _).mp checks
    obtain ⟨-, l, part⟩ := (onesSum_eq_modulus_iff _).mp cleared
    rw [wordSum_cons_zero, part] at whole
    apply UInt8.toNat_inj.mp
    rw [UInt8.toNat_zero]
    omega
  · rintro rfl
    exact checks

/-- A one's-complement sum is one of 16 bits. -/
theorem onesSum_le (bytes : List UInt8) : onesSum bytes ≤ 0xFFFF := by
  rw [onesSum_eq_residue]
  exact residue_le (by decide) _

theorem wordSum_le (bytes : List UInt8) : wordSum bytes ≤ 0xFFFF * ((bytes.length + 1) / 2) := by
  induction bytes using words.induct with
  | case1 hi lo rest ih =>
    have := hi.toNat_lt
    have := lo.toNat_lt
    simp only [wordSum_cons_cons, List.length_cons]
    omega
  | case2 last =>
    have := last.toNat_lt
    simp [wordSum, words]
    omega
  | case3 => simp

end Bytes

end OnesComplement
