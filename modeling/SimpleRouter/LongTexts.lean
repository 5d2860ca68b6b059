/-
# Long texts

A text that does not fit one message is split up into the minimum number of messages it will
fit in. All of them are banners, but for the last one when the connection is to be closed.

The number is the length divided by 255, rounded down, and one. For a length that 255 divides
this is one too many, and the last message is empty.
-/

import SimpleRouter.Library.Pieces
import SimpleRouter.VnsProtocol

namespace SimpleRouter

open Pieces

variable {msg : Bytes}

/-! ## The functions -/

/-- The bytes of a text that one message takes. -/
def pieceSize : ℕ := 255

/-- `VNSClose.get_banners_and_close`. -/
def VnsClose.getBannersAndClose (msg : Bytes) : List VnsMessage :=
  let n := msg.length / pieceSize + 1
  (List.range n).map fun i =>
    if i + 1 < n then .vnsBanner ⟨slice msg (i * pieceSize) ((i + 1) * pieceSize)⟩
    else .vnsClose ⟨slice msg (i * pieceSize) ((i + 1) * pieceSize)⟩

/-- `VNSBanner.get_banners`. -/
def VnsBanner.getBanners (msg : Bytes) : List VnsBanner :=
  let n := msg.length / pieceSize + 1
  (List.range n).map fun i => ⟨slice msg (i * pieceSize) ((i + 1) * pieceSize)⟩

/-! ## What is asked of the code -/

/-- The texts are short, make up the message, and are as few as possible. None is empty, unless
the message is. -/
structure Splits (msg : Bytes) (texts : List Bytes) : Prop where
  short : ∀ text ∈ texts, text.length ≤ pieceSize
  lossless : texts.flatten = msg
  count : texts.length = max 1 ((msg.length + (pieceSize - 1)) / pieceSize)
  nonempty : 0 < msg.length → ∀ text ∈ texts, text ≠ []

/-- All messages are banners, but for the last one, which is a close. -/
def SplitsClosing (msg : Bytes) (msgs : List VnsMessage) : Prop :=
  ∃ texts last, msgs = (texts.map fun text => .vnsBanner ⟨text⟩) ++ [.vnsClose ⟨last⟩] ∧
    Splits msg (texts ++ [last])

/-- The count is the minimum: no one or more short texts that make up the message are fewer. -/
theorem Splits.minimum {texts others : List Bytes} (splits : Splits msg texts)
    (some : others ≠ []) (short : ∀ text ∈ others, text.length ≤ pieceSize)
    (lossless : others.flatten = msg) : texts.length ≤ others.length := by
  have bound := length_flatten_le short
  have positive := List.length_pos_iff.mpr some
  rw [lossless, pieceSize] at bound
  rw [splits.count, pieceSize]
  omega

/-! ## When the code does it -/

/-- The length of the message is not a positive multiple of that of a piece. -/
def Uneven (msg : Bytes) : Prop := msg.length = 0 ∨ ¬ pieceSize ∣ msg.length

instance : Decidable (Uneven msg) := inferInstanceAs (Decidable (_ ∨ _))

/-! ## What the code does -/

theorem getBanners_eq (msg : Bytes) :
    (VnsBanner.getBanners msg).map VnsBanner.msg =
      stretches pieceSize (msg.length / pieceSize + 1) msg := by
  simp only [VnsBanner.getBanners, List.map_map]
  rfl

theorem getBannersAndClose_eq (msg : Bytes) :
    VnsClose.getBannersAndClose msg =
      ((stretches pieceSize (msg.length / pieceSize) msg).map fun text => .vnsBanner ⟨text⟩) ++
        [.vnsClose ⟨stretch pieceSize msg (msg.length / pieceSize)⟩] := by
  have banners : ∀ i ∈ List.range (msg.length / pieceSize),
      (if i + 1 < msg.length / pieceSize + 1 then
          VnsMessage.vnsBanner ⟨slice msg (i * pieceSize) ((i + 1) * pieceSize)⟩
        else .vnsClose ⟨slice msg (i * pieceSize) ((i + 1) * pieceSize)⟩) =
      .vnsBanner ⟨stretch pieceSize msg i⟩ := by
    intro i before
    rw [if_pos (Nat.succ_lt_succ (List.mem_range.mp before))]
    rfl
  rw [VnsClose.getBannersAndClose, List.range_succ, List.map_append, List.map_congr_left banners,
    stretches, List.map_map]
  simp only [List.map_cons, List.map_nil, Nat.lt_irrefl, if_false]
  rfl

/-- The stretches are as asked, except for a last empty one. -/
theorem splits_stretches_iff :
    Splits msg (stretches pieceSize (msg.length / pieceSize + 1) msg) ↔ Uneven msg := by
  constructor
  · intro splits
    have count := splits.count
    rw [length_stretches] at count
    simp only [Uneven, pieceSize] at count ⊢
    omega
  · intro uneven
    simp only [Uneven, pieceSize] at uneven
    refine ⟨fun text => length_le_of_mem_stretches, flatten_stretches_of_le ?_, ?_, ?_⟩
    · simp only [pieceSize]
      omega
    · simp only [length_stretches, pieceSize]
      omega
    · intro positive text
      refine ne_nil_of_mem_stretches (by decide) ?_
      simp only [pieceSize, Nat.add_sub_cancel]
      omega

theorem splits_getBanners_iff :
    Splits msg ((VnsBanner.getBanners msg).map VnsBanner.msg) ↔ Uneven msg := by
  rw [getBanners_eq, splits_stretches_iff]

theorem splitsClosing_getBannersAndClose_iff :
    SplitsClosing msg (VnsClose.getBannersAndClose msg) ↔ Uneven msg := by
  rw [← splits_stretches_iff, stretches_succ]
  constructor
  · rintro ⟨texts, last, same, splits⟩
    rw [getBannersAndClose_eq] at same
    obtain ⟨banners, close⟩ := List.append_inj' same rfl
    have texts_eq : stretches pieceSize (msg.length / pieceSize) msg = texts := by
      refine List.map_injective_iff.mpr (fun text other equal => ?_) banners
      cases equal
      rfl
    cases close
    rwa [texts_eq]
  · intro splits
    exact ⟨_, _, getBannersAndClose_eq msg, splits⟩

/-- Both functions split a message as asked if and only if its length is no positive multiple
of 255. -/
theorem splits_iff_uneven (msg : Bytes) :
    (Splits msg ((VnsBanner.getBanners msg).map VnsBanner.msg) ↔ Uneven msg) ∧
      (SplitsClosing msg (VnsClose.getBannersAndClose msg) ↔ Uneven msg) :=
  ⟨splits_getBanners_iff, splitsClosing_getBannersAndClose_iff⟩

/-- A message that one piece holds. -/
def fullText : Bytes := .replicate pieceSize 65

/-- It is split in two. -/
theorem not_splits_fullText :
    ¬ Splits fullText ((VnsBanner.getBanners fullText).map VnsBanner.msg) ∧
      ¬ SplitsClosing fullText (VnsClose.getBannersAndClose fullText) := by
  have even : ¬ Uneven fullText := by
    rw [Uneven, fullText, List.length_replicate]
    decide
  exact ⟨mt splits_getBanners_iff.mp even, mt splitsClosing_getBannersAndClose_iff.mp even⟩

end SimpleRouter
