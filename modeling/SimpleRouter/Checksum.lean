/-
# The Internet checksum

`cksum` of `sr_utils.c` adds big-endian words into a 32-bit accumulator, folds the
carries back, complements, and swaps the result to network order. A zero result is
replaced by `0xFFFF`.

Stored into a checksum field that was zero while the sum was taken, the result
makes the data check: its one's-complement sum becomes `0xFFFF`. The replacement
of zero costs nothing, because the two zeros of one's-complement arithmetic are
the same number.
-/

import SimpleRouter.Library.OnesComplement
import SimpleRouter.Protocol

namespace SimpleRouter

open Buffers OnesComplement

/-- The word loop of `cksum`, with the odd last byte. -/
def cksumLoop : Bytes → UInt32 → UInt32
  | hi :: lo :: data, sum => cksumLoop data (sum + (hi.toUInt32 <<< 8 ||| lo.toUInt32))
  -- An odd last byte is the high half of a word.
  | [last], sum => sum + last.toUInt32 <<< 8
  | [], sum => sum

theorem toNat_high (sum : UInt32) : (sum >>> 16).toNat = sum.toNat / 65536 := by
  simp [Nat.shiftRight_eq_div_pow]

theorem toNat_low (sum : UInt32) : (sum &&& 0xFFFF).toNat = sum.toNat % 65536 := by
  rw [UInt32.toNat_and]
  exact Nat.and_two_pow_sub_one_eq_mod sum.toNat 16

theorem toNat_foldOnce (sum : UInt32) :
    (sum >>> 16 + (sum &&& 0xFFFF)).toNat = sum.toNat / 65536 + sum.toNat % 65536 := by
  have := sum.toNat_lt
  rw [UInt32.toNat_add, toNat_high, toNat_low]
  omega

/-- `while (sum > 0xffff) sum = (sum >> 16) + (sum & 0xffff);` -/
def foldCarries (sum : UInt32) : UInt32 :=
  if sum > 0xFFFF then foldCarries (sum >>> 16 + (sum &&& 0xFFFF)) else sum
termination_by sum.toNat
decreasing_by
  rename_i large
  have : 0xFFFF < sum.toNat := UInt32.lt_iff_toNat_lt.mp large
  rw [toNat_foldOnce]
  omega

/-- `cksum` over the `len` bytes of `data`. The result is a host `uint16_t` whose
bytes in memory are in network order. -/
def cksum (data : Bytes) : UInt16 :=
  let sum := htons (~~~ foldCarries (cksumLoop data 0)).toUInt16
  -- `return sum ? sum : 0xffff;`
  if sum ≠ 0 then sum else 0xFFFF

/-! ## The accumulator and the fold -/

theorem toNat_word (hi lo : UInt8) :
    (hi.toUInt32 <<< 8 ||| lo.toUInt32).toNat = hi.toNat * 256 + lo.toNat := by
  have hhi := hi.toNat_lt
  have hlo := lo.toNat_lt
  have shifted : (hi.toUInt32 <<< 8).toNat = hi.toNat * 2 ^ 8 := by
    simp [Nat.shiftLeft_eq]
    omega
  rw [UInt32.toNat_or, shifted, UInt8.toNat_toUInt32, ← Nat.shiftLeft_eq,
    ← Nat.shiftLeft_add_eq_or_of_lt hlo, Nat.shiftLeft_eq]

theorem toNat_last (last : UInt8) : (last.toUInt32 <<< 8).toNat = last.toNat * 256 := by
  have := last.toNat_lt
  simp [Nat.shiftLeft_eq]
  omega

/-- As long as the plain sum fits in 32 bits, the accumulator holds it. -/
theorem toNat_cksumLoop (data : Bytes) (sum : UInt32) (small : sum.toNat + wordSum data < 2 ^ 32) :
    (cksumLoop data sum).toNat = sum.toNat + wordSum data := by
  induction data, sum using cksumLoop.induct with
  | case1 hi lo data sum ih =>
    rw [wordSum_cons_cons] at small
    have step : (sum + (hi.toUInt32 <<< 8 ||| lo.toUInt32)).toNat =
        sum.toNat + (hi.toNat * 256 + lo.toNat) := by
      rw [UInt32.toNat_add, toNat_word]
      omega
    rw [cksumLoop, ih (by rw [step]; omega), step, wordSum_cons_cons]
    omega
  | case2 last sum =>
    rw [wordSum_singleton] at small ⊢
    rw [cksumLoop, UInt32.toNat_add, toNat_last]
    omega
  | case3 sum => simp [cksumLoop]

/-- Folding the carries computes the one's-complement residue. -/
theorem toNat_foldCarries (sum : UInt32) : (foldCarries sum).toNat = residue 0xFFFF sum.toNat := by
  induction sum using foldCarries.induct with
  | case1 sum large ih =>
    have bound : 0xFFFF < sum.toNat := UInt32.lt_iff_toNat_lt.mp large
    rw [foldCarries, if_pos large, ih, toNat_foldOnce]
    -- One round keeps the sum modulo `0xFFFF`, because `2 ^ 16` is one there.
    apply eq_residue (residue_le (by decide) _)
    · have congruent : sum.toNat / 65536 + sum.toNat % 65536 ≡ sum.toNat [MOD 0xFFFF] := by
        unfold Nat.ModEq
        omega
      exact (residue_modEq _).trans congruent
    · rw [residue_eq_zero_iff]
      omega
  | case2 sum small =>
    have bound : sum.toNat ≤ 0xFFFF := by
      by_contra large
      exact small (UInt32.lt_iff_toNat_lt.mpr (by simpa using large))
    rw [foldCarries, if_neg small, residue_of_le bound]

/-- The number `cksum` writes in network order: the complement of the
one's-complement sum, with `0xFFFF` in place of zero. -/
theorem be16_cksum {data : Bytes} (small : wordSum data < 2 ^ 32) :
    be16 (hostBytes (cksum data)) =
      if onesSum data = 0xFFFF then 0xFFFF else 0xFFFF - onesSum data := by
  have sum : (foldCarries (cksumLoop data 0)).toNat = onesSum data := by
    rw [toNat_foldCarries, toNat_cksumLoop data 0 (by simpa using small), onesSum_eq_residue]
    simp
  have bound := onesSum_le data
  have complement :
      (~~~ foldCarries (cksumLoop data 0)).toUInt16.toNat = 0xFFFF - onesSum data := by
    rw [UInt32.toNat_toUInt16, UInt32.toNat_not, sum]
    simp only [UInt32.size]
    omega
  have swapped (x : UInt16) : htons x = 0 ↔ x.toNat = 0 := by
    have := x.toNat_lt
    rw [← UInt16.toNat_inj, toNat_htons]
    simp
    omega
  -- The complement is zero exactly for a full sum, and then `0xFFFF` is written instead.
  by_cases full : onesSum data = 0xFFFF
  · have zero : htons (~~~ foldCarries (cksumLoop data 0)).toUInt16 = 0 := by
      rw [swapped, complement]
      omega
    simp only [cksum, zero, if_pos full]
    decide
  · have nonzero : htons (~~~ foldCarries (cksumLoop data 0)).toUInt16 ≠ 0 := by
      rw [ne_eq, swapped, complement]
      omega
    simp only [cksum, nonzero, ne_eq, not_false_eq_true, if_true, if_neg full]
    rw [be16_hostBytes_htons, complement]

/-! ## Storing the checksum -/

theorem wordSum_pair (v : Vector UInt8 2) : wordSum v.toList = be16 v := by
  have pair : v.toList = [v[0], v[1]] := by
    apply List.ext_getElem
    · simp
    · intro i hi _
      simp only [Vector.length_toList] at hi
      obtain rfl | rfl : i = 0 ∨ i = 1 := by omega
      · simp
      · simp
  rw [pair]
  simp [be16]

/-- A word at an even offset adds its value. -/
theorem wordSum_around {front back : Bytes} (even : 2 ∣ front.length) (v : Vector UInt8 2) :
    wordSum (front ++ v.toList ++ back) = wordSum front + wordSum back + be16 v := by
  rw [List.append_assoc, wordSum_append even, wordSum_append (by simp), wordSum_pair]
  omega

/-- **A stored checksum checks.** The field lies at an even offset and was zero
while the sum was taken. -/
theorem onesSum_stored {front back : Bytes} (even : 2 ∣ front.length)
    (small : wordSum front + wordSum back < 2 ^ 32) :
    onesSum (front ++
      (hostBytes (cksum (front ++ (#v[0, 0] : Vector UInt8 2).toList ++ back))).toList ++ back) =
        0xFFFF := by
  -- While the field is zero, only what lies around it counts.
  have nothing : be16 #v[0, 0] = 0 := by decide
  have zeroed : wordSum (front ++ (#v[0, 0] : Vector UInt8 2).toList ++ back) =
      wordSum front + wordSum back := by
    rw [wordSum_around even, nothing, Nat.add_zero]
  have fits : wordSum (front ++ (#v[0, 0] : Vector UInt8 2).toList ++ back) < 2 ^ 32 := by
    rw [zeroed]
    exact small
  have value := be16_cksum fits
  rw [onesSum_eq_residue, zeroed] at value
  have bound := residue_le (M := 0xFFFF) (by decide) (wordSum front + wordSum back)
  have congruent := residue_modEq (M := 0xFFFF) (wordSum front + wordSum back)
  rw [onesSum_eq_modulus_iff, wordSum_around even]
  unfold Nat.ModEq at congruent
  split at value <;> omega

section Stretch

variable {off a b : ℕ} {p : Bytes}

/-- A stretch with a word stored in it is what lies before the word, the word, and what lies
behind it. -/
theorem toList_get_set_word (v : Vector UInt8 2) (fits : off + (a + (2 + b)) ≤ p.length) :
    ((⟨off⟩ : Span (a + (2 + b))).get ((⟨off + a⟩ : Span 2).set v p)).toList =
      ((⟨off⟩ : Span a).get p).toList ++ v.toList ++ ((⟨off + a + 2⟩ : Span b).get p).toList := by
  have inside : (⟨off + a⟩ : Span 2).Fits p := by
    change off + a + 2 ≤ p.length
    omega
  have before : (⟨off⟩ : Span a).Disjoint (⟨off + a⟩ : Span 2) := .inl (Nat.le_refl _)
  have after : (⟨off + a + 2⟩ : Span b).Disjoint (⟨off + a⟩ : Span 2) := .inr (Nat.le_refl _)
  rw [Span.toList_get_add, Span.toList_get_add, Span.get_set_of_disjoint before,
    Span.get_set_of_disjoint after, Span.get_set_self v inside, List.append_assoc]

/-- A stretch of a buffer whose checksum field starts `a` bytes into it, computed while
the field was zero and stored there, checks. -/
theorem onesSum_checksummed (even : 2 ∣ a) (small : a + b ≤ 1000)
    (fits : off + (a + (2 + b)) ≤ p.length) :
    onesSum ((⟨off⟩ : Span (a + (2 + b))).get ((⟨off + a⟩ : Span 2).set (hostBytes (cksum
      ((⟨off⟩ : Span (a + (2 + b))).get ((⟨off + a⟩ : Span 2).set #v[0, 0] p)).toList)) p)).toList =
        0xFFFF := by
  rw [toList_get_set_word _ fits, toList_get_set_word _ fits]
  apply onesSum_stored
  · rwa [Vector.length_toList]
  · have first := wordSum_le ((⟨off⟩ : Span a).get p).toList
    have second := wordSum_le ((⟨off + a + 2⟩ : Span b).get p).toList
    rw [Vector.length_toList] at first second
    omega

/-- The checksum that is computed for a stretch is the one that is stored there if and only if
the stretch checks and what is stored is not zero. -/
theorem cksum_eq_stored_iff (even : 2 ∣ a) (small : a + b ≤ 1000)
    (fits : off + (a + (2 + b)) ≤ p.length) :
    hostBytes (cksum
        ((⟨off⟩ : Span (a + (2 + b))).get ((⟨off + a⟩ : Span 2).set #v[0, 0] p)).toList) =
          (⟨off + a⟩ : Span 2).get p ↔
      onesSum ((⟨off⟩ : Span (a + (2 + b))).get p).toList = 0xFFFF ∧
        be16 ((⟨off + a⟩ : Span 2).get p) ≠ 0 := by
  have bound := be16_le ((⟨off + a⟩ : Span 2).get p)
  have first := wordSum_le ((⟨off⟩ : Span a).get p).toList
  have second := wordSum_le ((⟨off + a + 2⟩ : Span b).get p).toList
  rw [Vector.length_toList] at first second
  have sum (v : Vector UInt8 2) :
      wordSum ((⟨off⟩ : Span (a + (2 + b))).get ((⟨off + a⟩ : Span 2).set v p)).toList =
        wordSum ((⟨off⟩ : Span a).get p).toList +
          wordSum ((⟨off + a + 2⟩ : Span b).get p).toList + be16 v := by
    rw [toList_get_set_word v fits, wordSum_around (by rwa [Vector.length_toList])]
  have zeroed := sum #v[0, 0]
  have kept := sum ((⟨off + a⟩ : Span 2).get p)
  rw [Span.set_get_self] at kept
  rw [← be16_inj, be16_cksum (by rw [zeroed]; simp [be16]; omega), onesSum_eq_residue,
    onesSum_eq_residue, zeroed, kept, eq_comm]
  exact eq_complement_iff (by decide) bound

end Stretch

end SimpleRouter
