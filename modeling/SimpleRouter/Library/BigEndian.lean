/-
# Numbers in network order

A number is written in some bytes, the most significant one first, and read back from them.
-/

import Mathlib.Algebra.Group.Nat.Even
import Mathlib.Data.List.Basic
import Mathlib.Tactic.Common

namespace BigEndian

/-- A number in `k` bytes. -/
def encode (k n : ℕ) : List UInt8 := (List.range k).map fun i => UInt8.ofNat (n / 256 ^ (k - 1 - i))

/-- The number in some bytes. -/
def decode (s : List UInt8) : ℕ := s.foldl (fun n b => n * 256 + b.toNat) 0

@[simp] theorem length_encode (k n : ℕ) : (encode k n).length = k := by
  rw [encode, List.length_map, List.length_range]

theorem encode_succ (k n : ℕ) : encode (k + 1) n = UInt8.ofNat (n / 256 ^ k) :: encode k n := by
  rw [encode, List.range_succ_eq_map, List.map_cons, List.map_map, encode]
  refine congrArg₂ _ rfl (List.map_congr_left fun i _ => ?_)
  have same : k + 1 - 1 - i.succ = k - 1 - i := by omega
  rw [Function.comp_apply, same]

theorem foldl_decode (s : List UInt8) (n : ℕ) :
    s.foldl (fun n b => n * 256 + b.toNat) n = n * 256 ^ s.length + decode s := by
  induction s generalizing n with
  | nil => simp [decode]
  | cons b s ih =>
    rw [decode, List.foldl_cons, List.foldl_cons, ih, ih (0 * 256 + b.toNat), List.length_cons,
      Nat.pow_succ, Nat.zero_mul, Nat.zero_add, Nat.add_mul, Nat.mul_assoc,
      Nat.mul_comm 256 (256 ^ s.length), Nat.add_assoc]

theorem decode_cons (b : UInt8) (s : List UInt8) :
    decode (b :: s) = b.toNat * 256 ^ s.length + decode s := by
  rw [decode, List.foldl_cons, foldl_decode, Nat.zero_mul, Nat.zero_add]

/-- What is read back is the number, as far as it fits. -/
theorem decode_encode (k n : ℕ) : decode (encode k n) = n % 256 ^ k := by
  induction k with
  | zero => simp [encode, decode, Nat.mod_one]
  | succ k ih =>
    rw [encode_succ, decode_cons, ih, length_encode, UInt8.toNat_ofNat', Nat.mul_comm,
      Nat.add_comm]
    exact Nat.mod_pow_succ.symm

theorem decode_encode_of_lt {k n : ℕ} (small : n < 256 ^ k) : decode (encode k n) = n := by
  rw [decode_encode, Nat.mod_eq_of_lt small]

end BigEndian
