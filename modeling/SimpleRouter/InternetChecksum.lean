/-
# The Internet checksum

`cksum` over at most 65535 bytes: no addition into the 32-bit accumulator carries out of it, the
loop that folds the carries ends, and what is returned is the Internet checksum. Stored in a field
that was zero while the sum was taken, it makes the data check.
-/

import SimpleRouter.Checksum

namespace SimpleRouter

open Buffers OnesComplement

variable {data : Bytes}

/-! ## What is asked of the code -/

/-- No addition of the word loop carries out of the accumulator. -/
def NeverWraps : Bytes → UInt32 → Prop
  | hi :: lo :: data, sum =>
    sum.toNat + (hi.toUInt32 <<< 8 ||| lo.toUInt32).toNat < 2 ^ 32 ∧
      NeverWraps data (sum + (hi.toUInt32 <<< 8 ||| lo.toUInt32))
  | [last], sum => sum.toNat + (last.toUInt32 <<< 8).toNat < 2 ^ 32
  | [], _ => True

/-- The loop that folds the carries, entered with a sum, ends with another. -/
inductive FoldsTo : UInt32 → UInt32 → Prop
  | done {sum : UInt32} (small : ¬ sum > 0xFFFF) : FoldsTo sum sum
  | round {sum result : UInt32} (large : sum > 0xFFFF)
      (fits : (sum >>> 16).toNat + (sum &&& 0xFFFF).toNat < 2 ^ 32)
      (rest : FoldsTo (sum >>> 16 + (sum &&& 0xFFFF)) result) : FoldsTo sum result

/-- The one's complement of the one's-complement sum, with `0xFFFF` in place of zero. -/
def internetChecksum (data : Bytes) : ℕ :=
  let complement := 0xFFFF - onesSum data
  if complement = 0 then 0xFFFF else complement

/-- The data with the checksum, taken while the field was zero, stored in the field. -/
def storeCksum (field : Span 2) (data : Bytes) : Bytes :=
  field.set (hostBytes (cksum (field.set (hostBytes 0) data))) data

/-- `cksum` computes the Internet checksum of the data, and with it stored the data check. -/
structure ComputesInternetChecksum (data : Bytes) : Prop where
  neverWraps : NeverWraps data 0
  ends : FoldsTo (cksumLoop data 0) (foldCarries (cksumLoop data 0))
  value : be16 (hostBytes (cksum data)) = internetChecksum data
  stored : ∀ field : Span 2, 2 ∣ field.off → field.Fits data →
    onesSum (storeCksum field data) = 0xFFFF

/-! ## The loops -/

/-- A plain sum below `2 ^ 32` bounds each of the partial sums. -/
theorem neverWraps_of_lt (data : Bytes) (sum : UInt32)
    (small : sum.toNat + wordSum data < 2 ^ 32) : NeverWraps data sum := by
  induction data, sum using cksumLoop.induct with
  | case1 hi lo data sum ih =>
    rw [wordSum_cons_cons] at small
    have word := toNat_word hi lo
    refine ⟨by omega, ih ?_⟩
    rw [UInt32.toNat_add, word]
    omega
  | case2 last sum =>
    rw [wordSum_singleton] at small
    rwa [NeverWraps, toNat_last]
  | case3 sum => trivial

/-- Every round leaves less of the sum, so the loop ends. -/
theorem foldsTo_foldCarries (sum : UInt32) : FoldsTo sum (foldCarries sum) := by
  induction sum using foldCarries.induct with
  | case1 sum large ih =>
    have bound := sum.toNat_lt
    rw [foldCarries, if_pos large]
    refine .round large ?_ ih
    rw [toNat_high, toNat_low]
    omega
  | case2 sum small =>
    rw [foldCarries, if_neg small]
    exact .done small

/-! ## The result -/

/-- The plain sum of so few bytes fits in 32 bits with room to spare. -/
theorem wordSum_lt_of_short (short : data.length ≤ 65535) : wordSum data < 2 ^ 32 := by
  have bound := wordSum_le data
  omega

theorem be16_cksum_eq_internetChecksum (short : data.length ≤ 65535) :
    be16 (hostBytes (cksum data)) = internetChecksum data := by
  have bound := onesSum_le data
  rw [be16_cksum (wordSum_lt_of_short short), internetChecksum]
  -- The complement is zero for a full sum only.
  split_ifs <;> omega

/-- What is stored in the field does not depend on what it held. -/
theorem onesSum_storeCksum (short : data.length ≤ 65535) {field : Span 2} (even : 2 ∣ field.off)
    (fits : field.Fits data) : onesSum (storeCksum field data) = 0xFFFF := by
  have inside : field.off + 2 ≤ data.length := fits
  have front : (data.take field.off).length = field.off := List.length_take_of_le (by omega)
  rw [storeCksum, Span.set_eq_append _ fits, Span.set_eq_append _ fits]
  apply onesSum_stored
  · rwa [front]
  · have before := wordSum_le (data.take field.off)
    have behind := wordSum_le (data.drop (field.off + 2))
    rw [front] at before
    rw [List.length_drop] at behind
    omega

/-- `cksum` is the Internet checksum. -/
theorem computesInternetChecksum (short : data.length ≤ 65535) : ComputesInternetChecksum data where
  neverWraps := neverWraps_of_lt data 0 (by simpa using wordSum_lt_of_short short)
  ends := foldsTo_foldCarries _
  value := be16_cksum_eq_internetChecksum short
  stored := fun _ even fits => onesSum_storeCksum short even fits

/-- Three bytes whose sum carries, of which the last is padded. -/
theorem computesInternetChecksum_carried : ComputesInternetChecksum [0xFF, 0xFE, 0x12] :=
  computesInternetChecksum (by decide)

end SimpleRouter
