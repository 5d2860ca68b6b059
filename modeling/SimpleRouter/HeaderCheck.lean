/-
# The check of a received header

A receiver takes a datagram if its header has at least five words, its length covers the
smallest header, and the one's-complement sum of the header, with its options, is full.

`validate_ip` compares the length without `ntohs`, so a multiple of 256 is small to it. It sums
the first 20 bytes only, and as it compares its own checksum, which is never 0, with the one in
the header, it refuses a header that has 0 there.
-/

import SimpleRouter.Frames

namespace SimpleRouter

open Buffers Effects OnesComplement

variable {packet : Bytes}

/-! ## What is asked of the code -/

/-- `ip_hl`, the low half of the first byte. -/
def ipHl (packet : Bytes) : ℕ := (hostU8 ((⟨ethHdrSize⟩ : Span 1).get packet)).toNat % 16

/-- `ntohs(ip_len)`. -/
def totalLength (packet : Bytes) : ℕ := be16 (ipLen.get packet)

/-- The IP header with its options. -/
def header (packet : Bytes) : Bytes := (packet.drop ethHdrSize).take (4 * ipHl packet)

/-- The options. -/
def options (packet : Bytes) : Bytes :=
  (packet.drop (ethHdrSize + ipHdrSize)).take (4 * ipHl packet - ipHdrSize)

/-- The buffer holds an Ethernet header and the IP header behind it. -/
structure HoldsHeader (packet : Bytes) : Prop where
  long : ethHdrSize + ipHdrSize ≤ packet.length
  whole : ethHdrSize + 4 * ipHl packet ≤ packet.length

/-- The check of a receiver. -/
structure ReceiverCheck (packet : Bytes) : Prop where
  words : 5 ≤ ipHl packet
  length : ipHdrSize ≤ totalLength packet
  sum : onesSum (header packet) = 0xFFFF

/-- `validate_ip` returns 1. -/
def Accepts (packet : Bytes) : Prop := ∃ packet', (validateIp packet).Returns (1, packet')

/-! ## When the code does it -/

/-- The host takes the length for a number below 20. -/
def ReadShort (packet : Bytes) : Prop := 256 ∣ totalLength packet ∧ totalLength packet < 5120

/-- The first 20 bytes have a full sum. -/
def FirstFull (packet : Bytes) : Prop := onesSum (ipHdr.get packet).toList = 0xFFFF

/-- There are no options, or their words sum up to zero. -/
def OptionsCancel (packet : Bytes) : Prop := 5 ≤ ipHl packet ∧ 0xFFFF ∣ wordSum (options packet)

/-- If the options cancel, then a header with a full sum does not have 0 in its checksum field,
nor a length that is read as a short one. A length below 20 is 0, or the field is.

If they do not cancel, then neither the whole header passes, nor do the first 20 bytes. -/
structure ReadRight (packet : Bytes) : Prop where
  cancel : OptionsCancel packet → FirstFull packet →
    if totalLength packet < ipHdrSize then totalLength packet = 0 ∨ be16 (ipSum.get packet) = 0
    else be16 (ipSum.get packet) ≠ 0 ∧ ¬ ReadShort packet
  count : ¬ OptionsCancel packet → ¬ ReceiverCheck packet ∧
    (FirstFull packet → be16 (ipSum.get packet) = 0 ∨ ReadShort packet)

/-! ## What the code checks -/

/-- The length is compared with its bytes swapped. -/
theorem hostU16_lt_iff (v : Vector UInt8 2) :
    (hostU16 v).toNat < ipHdrSize ↔ 256 ∣ be16 v ∧ be16 v < 5120 := by
  have := v[0].toNat_lt
  have := v[1].toNat_lt
  rw [toNat_hostU16, be16, ipHdrSize]
  omega

theorem accepts_iff_valid (long : 34 ≤ packet.length) : Accepts packet ↔ ValidIp packet := by
  constructor
  · rintro ⟨packet', returns⟩
    by_contra invalid
    obtain ⟨packet'', refuses⟩ := validateIp_of_not_valid long invalid
    rw [refuses] at returns
    cases returns
  · intro valid
    exact ⟨packet, by rw [validateIp_of_valid long valid]; rfl⟩

/-- `validate_ip` takes a header whose length is not read as a short one, whose checksum is
not 0, and whose first 20 bytes have a full sum. -/
theorem accepts_iff (long : 34 ≤ packet.length) :
    Accepts packet ↔ ¬ ReadShort packet ∧ FirstFull packet ∧ be16 (ipSum.get packet) ≠ 0 := by
  have stored : ipSum.get (withIpSum packet) = ipSum.get packet ↔
      FirstFull packet ∧ be16 (ipSum.get packet) ≠ 0 := by
    rw [withIpSum, Span.get_set_self _ (fits_of_le long (by decide))]
    exact @cksum_eq_stored_iff 14 10 8 packet (by decide) (by decide) long
  rw [accepts_iff_valid long, ValidIp, stored, ← Nat.not_lt, hostU16_lt_iff]
  rfl

/-- The header is its first 20 bytes and the options. -/
theorem header_eq (long : 34 ≤ packet.length) (words : 5 ≤ ipHl packet) :
    header packet = (ipHdr.get packet).toList ++ options packet := by
  rw [header, options, Span.toList_get (f := ipHdr) (fits_of_le long (by decide))]
  have split : 4 * ipHl packet = ipHdrSize + (4 * ipHl packet - ipHdrSize) := by
    rw [ipHdrSize]
    omega
  rw [split, List.take_add, List.drop_drop, Nat.add_sub_cancel_left]
  rfl

/-- The first word of the header is not zero, as its length is not. -/
theorem wordSum_ipHdr_pos (words : 5 ≤ ipHl packet) : 0 < wordSum (ipHdr.get packet).toList := by
  have first := Span.toList_get_add ethHdrSize 1 19 packet
  rw [eq_hostU8 ((⟨ethHdrSize⟩ : Span 1).get packet)] at first
  have nonzero : (hostU8 ((⟨ethHdrSize⟩ : Span 1).get packet)).toNat ≠ 0 := by
    rw [ipHl] at words
    omega
  have sum := wordSum_cons_zero (hostU8 ((⟨ethHdrSize⟩ : Span 1).get packet))
    ((⟨ethHdrSize + 1⟩ : Span 19).get packet).toList
  change 0 < wordSum ((⟨ethHdrSize⟩ : Span (1 + 19)).get packet).toList
  rw [first]
  refine Nat.lt_of_lt_of_eq ?_ sum.symm
  omega

/-- Options that cancel do not count. -/
theorem onesSum_header_iff (long : 34 ≤ packet.length) (cancel : OptionsCancel packet) :
    onesSum (header packet) = 0xFFFF ↔ FirstFull packet := by
  obtain ⟨words, cancel⟩ := cancel
  have positive := wordSum_ipHdr_pos words
  rw [header_eq long words, FirstFull, onesSum_eq_modulus_iff, onesSum_eq_modulus_iff,
    wordSum_append (by simp), Nat.dvd_add_left cancel]
  omega

/-- `validate_ip` makes the check of a receiver if and only if what it does not read as meant
makes no difference. -/
theorem validateIp_iff_receiverCheck (holds : HoldsHeader packet) :
    (Accepts packet ↔ ReceiverCheck packet) ↔ ReadRight packet := by
  rw [accepts_iff holds.long]
  by_cases cancel : OptionsCancel packet
  · have check : ReceiverCheck packet ↔ ipHdrSize ≤ totalLength packet ∧ FirstFull packet := by
      rw [← onesSum_header_iff holds.long cancel]
      exact ⟨fun check => ⟨check.length, check.sum⟩, fun check => ⟨cancel.1, check.1, check.2⟩⟩
    have right : ReadRight packet ↔ (FirstFull packet →
        if totalLength packet < ipHdrSize then totalLength packet = 0 ∨ be16 (ipSum.get packet) = 0
        else be16 (ipSum.get packet) ≠ 0 ∧ ¬ ReadShort packet) :=
      ⟨fun right => right.cancel cancel,
        fun right => ⟨fun _ => right, fun not => absurd cancel not⟩⟩
    rw [check, right]
    by_cases full : FirstFull packet
    · have size : ipHdrSize = 20 := rfl
      simp only [full, true_and, and_true, true_imp_iff, ReadShort]
      by_cases short : totalLength packet < ipHdrSize
      · rw [if_pos short]
        omega
      · rw [if_neg short]
        omega
    · simp only [full, false_and, and_false, false_imp_iff]
  · -- The first 20 bytes and the whole header cannot both have a full sum.
    have apart : FirstFull packet → ¬ ReceiverCheck packet := by
      intro full check
      have sum := check.sum
      rw [header_eq holds.long check.words, onesSum_eq_modulus_iff, wordSum_append (by simp)] at sum
      rw [FirstFull, onesSum_eq_modulus_iff] at full
      exact cancel ⟨check.words, (Nat.dvd_add_right full.2).mp sum.2⟩
    constructor
    · intro same
      have refuses : ¬ ReceiverCheck packet := fun check =>
        apart (same.mpr check).2.1 check
      refine ⟨fun yes => absurd yes cancel, fun _ => ⟨refuses, fun full => ?_⟩⟩
      by_contra neither
      rw [not_or] at neither
      exact refuses (same.mp ⟨neither.2, full, neither.1⟩)
    · intro right
      obtain ⟨refuses, unread⟩ := right.count cancel
      refine iff_of_false ?_ refuses
      rintro ⟨notShort, full, nonzero⟩
      exact (unread full).elim nonzero notShort

/-- A datagram without options, from the client to a server. -/
def plainDatagram (len sum : Vector UInt8 2) : Bytes :=
  List.replicate 12 4 ++ [8, 0, 0x45, 0] ++ len.toList ++ [0, 0, 0, 0, 64, 1] ++ sum.toList ++
    [10, 0, 1, 100, 192, 168, 2, 2]

theorem validateIp_iff_receiverCheck_plainDatagram :
    Accepts (plainDatagram #v[0, 84] #v[172, 155]) ↔
      ReceiverCheck (plainDatagram #v[0, 84] #v[172, 155]) := by
  refine (validateIp_iff_receiverCheck ⟨by decide, by decide⟩).mpr ⟨fun _ _ => ?_, fun not => ?_⟩
  · unfold ReadShort
    decide
  · exact absurd ⟨by decide, by decide⟩ not

/-- One of 256 bytes is refused. -/
theorem not_accepts_plainDatagram :
    HoldsHeader (plainDatagram #v[1, 0] #v[171, 239]) ∧
      ReceiverCheck (plainDatagram #v[1, 0] #v[171, 239]) ∧
      ¬ Accepts (plainDatagram #v[1, 0] #v[171, 239]) := by
  refine ⟨⟨by decide, by decide⟩, ⟨by decide, by decide, by decide⟩, fun accepts => ?_⟩
  exact ((accepts_iff (by decide)).mp accepts).1 ⟨by decide, by decide⟩

end SimpleRouter
