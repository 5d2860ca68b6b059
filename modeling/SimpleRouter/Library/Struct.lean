/-
# Packed numbers

Numbers are packed one behind the other, each in the width of its field, and unpacked from an
offset in a text. What was packed is unpacked again, whatever stands before and behind it.
-/

import Mathlib.Algebra.GroupWithZero.Nat
import Mathlib.Data.List.Forall2
import SimpleRouter.Library.BigEndian

namespace Struct

/-- `struct.pack`: a number that does not fit its field is an error. -/
def pack : List ℕ → List ℕ → Option (List UInt8)
  | [], [] => some []
  | w :: widths, v :: values =>
    if v < 256 ^ w then (BigEndian.encode w v ++ ·) <$> pack widths values else none
  | _, _ => none

/-- `struct.unpack_from`, of a text that is long enough. -/
def unpackFrom : List ℕ → List UInt8 → ℕ → List ℕ
  | [], _, _ => []
  | w :: widths, s, offset =>
    BigEndian.decode ((s.drop offset).take w) :: unpackFrom widths s (offset + w)

variable {widths values : List ℕ} {packed s : List UInt8}

theorem length_pack (ok : pack widths values = some packed) : packed.length = widths.sum := by
  induction widths generalizing values packed with
  | nil =>
    cases values with
    | nil =>
      obtain rfl := Option.some.inj ok
      rfl
    | cons v values => cases ok
  | cons w widths ih =>
    cases values with
    | nil => cases ok
    | cons v values =>
      rw [pack] at ok
      split_ifs at ok
      obtain ⟨later, rest, rfl⟩ := Option.map_eq_some_iff.mp ok
      rw [List.length_append, BigEndian.length_encode, ih rest, List.sum_cons]

/-- The numbers are unpacked from where they were packed. -/
theorem unpackFrom_pack (ok : pack widths values = some packed) (before rest : List UInt8) :
    unpackFrom widths (before ++ (packed ++ rest)) before.length = values := by
  induction widths generalizing values packed before with
  | nil =>
    cases values with
    | nil => rfl
    | cons v values => cases ok
  | cons w widths ih =>
    cases values with
    | nil => cases ok
    | cons v values =>
      rw [pack] at ok
      split_ifs at ok with small
      obtain ⟨later, rest_ok, rfl⟩ := Option.map_eq_some_iff.mp ok
      have width : (BigEndian.encode w v).length = w := BigEndian.length_encode w v
      have first : BigEndian.decode
          (((before ++ (BigEndian.encode w v ++ later ++ rest)).drop before.length).take w) = v := by
        rw [List.drop_left, List.append_assoc, List.take_left' width,
          BigEndian.decode_encode_of_lt small]
      have behind := ih rest_ok (before ++ BigEndian.encode w v)
      rw [List.length_append, width, List.append_assoc, ← List.append_assoc _ later] at behind
      rw [unpackFrom, first, behind]

/-- Numbers that fit their fields can be packed. -/
theorem exists_pack (fit : List.Forall₂ (fun w v => v < 256 ^ w) widths values) :
    ∃ packed, pack widths values = some packed := by
  induction fit with
  | nil => exact ⟨[], rfl⟩
  | @cons w v widths values small _ ih =>
    obtain ⟨later, packs⟩ := ih
    exact ⟨BigEndian.encode w v ++ later, by rw [pack, if_pos small, packs, Option.map_eq_map,
      Option.map_some]⟩

end Struct
