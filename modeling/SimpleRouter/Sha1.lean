/-
# SHA-1

`sha1.c` computes the digest of a message that it is given in parts. It collects the bytes in a
block of 64 and processes the block when it is full.

`SHA1Reset` leaves the block as it finds it. That does not matter: only bytes that were written
since are processed, so what was in the context before has no part in the digest.
-/

import Mathlib.Logic.Function.Iterate
import SimpleRouter.Library.BufferWrites
import SimpleRouter.ServerMessages

namespace SimpleRouter

open Buffers BufferWrites

/-! ## The context -/

/-- The words `A` to `E`, and the five words of `Message_Digest`. -/
structure Sha1Words where
  a : UInt32
  b : UInt32
  c : UInt32
  d : UInt32
  e : UInt32
  deriving DecidableEq, Inhabited

/-- `SHA1Context`. -/
structure Sha1Context where
  messageDigest : Sha1Words
  lengthLow : UInt32
  lengthHigh : UInt32
  messageBlock : Vector UInt8 64
  messageBlockIndex : ℕ
  computed : Bool
  corrupted : Bool
  deriving Inhabited

/-- `SHA1Reset`. -/
def sha1Reset (context : Sha1Context) : Sha1Context where
  messageDigest := ⟨0x67452301, 0xEFCDAB89, 0x98BADCFE, 0x10325476, 0xC3D2E1F0⟩
  lengthLow := 0
  lengthHigh := 0
  messageBlock := context.messageBlock
  messageBlockIndex := 0
  computed := false
  corrupted := false

/-! ## Blocks -/

/-- `SHA1CircularShift`. -/
def sha1CircularShift (bits word : UInt32) : UInt32 :=
  ((word <<< bits) &&& 0xFFFFFFFF) ||| (word >>> (32 - bits))

/-- The word in four bytes of a block. -/
def blockWord (block : Bytes) (t : ℕ) : UInt32 :=
  (block.getD (t * 4) 0).toUInt32 <<< 24 ||| (block.getD (t * 4 + 1) 0).toUInt32 <<< 16 |||
    (block.getD (t * 4 + 2) 0).toUInt32 <<< 8 ||| (block.getD (t * 4 + 3) 0).toUInt32

/-- The loop that makes further words of the sequence `W` out of the ones before. -/
def extendWords : ℕ → List UInt32 → List UInt32
  | 0, w => w
  | rounds + 1, w =>
    let before (k : ℕ) : UInt32 := w.getD (w.length - k) 0
    extendWords rounds
      (w ++ [sha1CircularShift 1 (before 3 ^^^ before 8 ^^^ before 14 ^^^ before 16)])

/-- The sequence `W`. -/
def wordSequence (block : Bytes) : List UInt32 :=
  extendWords 64 ((List.range 16).map (blockWord block))

/-- One round of the loops over the word sequence, with their function of `B`, `C` and `D` and
their constant. -/
def sha1Round (f : UInt32 → UInt32 → UInt32 → UInt32) (k : UInt32) (words : Sha1Words)
    (w : UInt32) : Sha1Words where
  a := (sha1CircularShift 5 words.a + f words.b words.c words.d + words.e + w + k) &&& 0xFFFFFFFF
  b := words.a
  c := sha1CircularShift 30 words.b
  d := words.c
  e := words.d

def choose (b c d : UInt32) : UInt32 := (b &&& c) ||| (~~~b &&& d)
def parity (b c d : UInt32) : UInt32 := b ^^^ c ^^^ d
def majority (b c d : UInt32) : UInt32 := (b &&& c) ||| (b &&& d) ||| (c &&& d)

/-- The digest behind a block. -/
def digestBlock (digest : Sha1Words) (block : Bytes) : Sha1Words :=
  let w := wordSequence block
  let words := (w.take 20).foldl (sha1Round choose 0x5A827999) digest
  let words := ((w.drop 20).take 20).foldl (sha1Round parity 0x6ED9EBA1) words
  let words := ((w.drop 40).take 20).foldl (sha1Round majority 0x8F1BBCDC) words
  let words := (w.drop 60).foldl (sha1Round parity 0xCA62C1D6) words
  ⟨digest.a + words.a, digest.b + words.b, digest.c + words.c, digest.d + words.d,
    digest.e + words.e⟩

/-- `SHA1ProcessMessageBlock`. -/
def sha1ProcessMessageBlock (context : Sha1Context) : Sha1Context :=
  { context with
    messageDigest := digestBlock context.messageDigest context.messageBlock.toList
    messageBlockIndex := 0 }

/-- `context->Message_Block[context->Message_Block_Index++] = b`. -/
def sha1Put (context : Sha1Context) (b : UInt8) : Sha1Context :=
  { context with
    messageBlock := context.messageBlock.setIfInBounds context.messageBlockIndex b
    messageBlockIndex := context.messageBlockIndex + 1 }

/-! ## Input -/

/-- Count the bits of a byte. -/
def sha1Count (context : Sha1Context) : Sha1Context :=
  let lengthLow := context.lengthLow + 8
  if lengthLow = 0 then
    let lengthHigh := context.lengthHigh + 1
    { context with lengthLow, lengthHigh, corrupted := context.corrupted || lengthHigh = 0 }
  else { context with lengthLow }

/-- One round of the loop of `SHA1Input`. -/
def sha1InputByte (context : Sha1Context) (b : UInt8) : Sha1Context :=
  let context := sha1Count (sha1Put context b)
  if context.messageBlockIndex = 64 then sha1ProcessMessageBlock context else context

/-- The loop of `SHA1Input`. -/
def sha1InputBytes : Sha1Context → Bytes → Sha1Context
  | context, [] => context
  | context, b :: rest =>
    if context.corrupted then context else sha1InputBytes (sha1InputByte context b) rest

/-- `SHA1Input`. -/
def sha1Input (context : Sha1Context) (message : Bytes) : Sha1Context :=
  if message = [] then context
  else if context.computed || context.corrupted then { context with corrupted := true }
  else sha1InputBytes context message

/-! ## The result -/

/-- A loop that writes zeros up to some place of the block. -/
def sha1Fill (stop : ℕ) (context : Sha1Context) : Sha1Context :=
  (sha1Put · 0)^[stop - context.messageBlockIndex] context

/-- Store the length of the message as the last bytes of the block. -/
def storeLength (context : Sha1Context) : Sha1Context :=
  { context with
    messageBlock := writeAt context.messageBlock 56
      [(context.lengthHigh >>> 24).toUInt8, (context.lengthHigh >>> 16).toUInt8,
        (context.lengthHigh >>> 8).toUInt8, context.lengthHigh.toUInt8,
        (context.lengthLow >>> 24).toUInt8, (context.lengthLow >>> 16).toUInt8,
        (context.lengthLow >>> 8).toUInt8, context.lengthLow.toUInt8] }

/-- `SHA1PadMessage`. -/
def sha1PadMessage (context : Sha1Context) : Sha1Context :=
  let filled :=
    if context.messageBlockIndex > 55 then
      sha1Fill 56 (sha1ProcessMessageBlock (sha1Fill 64 (sha1Put context 0x80)))
    else sha1Fill 56 (sha1Put context 0x80)
  sha1ProcessMessageBlock (storeLength filled)

/-- `SHA1Result`. There is none for a message that is too long. -/
def sha1Result (context : Sha1Context) : Option Sha1Context :=
  if context.corrupted then none
  else if context.computed then some context
  else some { sha1PadMessage context with computed := true }

/-! ## What is left in the context -/

namespace Sha1Context

variable {c c' : Sha1Context}

/-- Two contexts differ only in bytes of the block that are not written yet. -/
def Alike (c c' : Sha1Context) : Prop :=
  ∃ block, c' = { c with messageBlock := block } ∧
    block.toList.take c.messageBlockIndex = c.messageBlock.toList.take c.messageBlockIndex

theorem Alike.refl (c : Sha1Context) : Alike c c := ⟨c.messageBlock, rfl, rfl⟩

theorem Alike.index (alike : Alike c c') : c'.messageBlockIndex = c.messageBlockIndex := by
  obtain ⟨block, rfl, -⟩ := alike
  rfl

theorem Alike.corrupted (alike : Alike c c') : c'.corrupted = c.corrupted := by
  obtain ⟨block, rfl, -⟩ := alike
  rfl

theorem Alike.computed (alike : Alike c c') : c'.computed = c.computed := by
  obtain ⟨block, rfl, -⟩ := alike
  rfl

theorem Alike.messageDigest (alike : Alike c c') : c'.messageDigest = c.messageDigest := by
  obtain ⟨block, rfl, -⟩ := alike
  rfl

theorem alike_reset (c c' : Sha1Context) : Alike (sha1Reset c) (sha1Reset c') :=
  ⟨c'.messageBlock, rfl, rfl⟩

theorem Alike.put (alike : Alike c c') (inside : c.messageBlockIndex < 64) (b : UInt8) :
    Alike (sha1Put c b) (sha1Put c' b) := by
  obtain ⟨block, rfl, same⟩ := alike
  refine ⟨block.setIfInBounds c.messageBlockIndex b, rfl, ?_⟩
  change (block.setIfInBounds _ _).toList.take (c.messageBlockIndex + 1) =
    (c.messageBlock.setIfInBounds _ _).toList.take (c.messageBlockIndex + 1)
  rw [take_setIfInBounds inside, take_setIfInBounds inside, same]

theorem Alike.count (alike : Alike c c') : Alike (sha1Count c) (sha1Count c') := by
  obtain ⟨block, rfl, same⟩ := alike
  refine ⟨block, ?_, ?_⟩
  · unfold sha1Count
    dsimp only
    split_ifs <;> rfl
  · unfold sha1Count
    dsimp only
    split_ifs <;> exact same

/-- A full block is the same in both, and so is what is made of it. -/
theorem Alike.process (alike : Alike c c') (full : c.messageBlockIndex = 64) :
    Alike (sha1ProcessMessageBlock c) (sha1ProcessMessageBlock c') := by
  obtain ⟨block, rfl, same⟩ := alike
  rw [full, List.take_of_length_le (by simp), List.take_of_length_le (by simp)] at same
  obtain rfl := Vector.toList_inj.mp same
  exact Alike.refl (sha1ProcessMessageBlock c)

@[simp] theorem index_put (c : Sha1Context) (b : UInt8) :
    (sha1Put c b).messageBlockIndex = c.messageBlockIndex + 1 := rfl

@[simp] theorem index_count (c : Sha1Context) :
    (sha1Count c).messageBlockIndex = c.messageBlockIndex := by
  unfold sha1Count
  dsimp only
  split_ifs <;> rfl

theorem index_inputByte_lt (inside : c.messageBlockIndex < 64) (b : UInt8) :
    (sha1InputByte c b).messageBlockIndex < 64 := by
  unfold sha1InputByte
  dsimp only
  split_ifs with full
  · exact Nat.zero_lt_succ _
  · simp only [index_count, index_put] at full ⊢
    omega

theorem Alike.inputByte (alike : Alike c c') (inside : c.messageBlockIndex < 64) (b : UInt8) :
    Alike (sha1InputByte c b) (sha1InputByte c' b) := by
  have counted := (alike.put inside b).count
  have index := counted.index
  unfold sha1InputByte
  dsimp only
  rw [index]
  split_ifs with full
  · exact counted.process full
  · exact counted

theorem Alike.inputBytes (alike : Alike c c') (inside : c.messageBlockIndex < 64)
    (message : Bytes) : Alike (sha1InputBytes c message) (sha1InputBytes c' message) ∧
      (sha1InputBytes c message).messageBlockIndex < 64 := by
  induction message generalizing c c' with
  | nil => exact ⟨alike, inside⟩
  | cons b rest ih =>
    rw [sha1InputBytes, sha1InputBytes, alike.corrupted]
    split_ifs with corrupted
    · exact ⟨alike, inside⟩
    · exact ih (alike.inputByte inside b) (index_inputByte_lt inside b)

theorem Alike.input (alike : Alike c c') (inside : c.messageBlockIndex < 64) (message : Bytes) :
    Alike (sha1Input c message) (sha1Input c' message) ∧
      (sha1Input c message).messageBlockIndex < 64 := by
  rw [sha1Input, sha1Input, alike.corrupted, alike.computed]
  split_ifs with empty closed
  · exact ⟨alike, inside⟩
  · obtain ⟨block, rfl, same⟩ := alike
    exact ⟨⟨block, rfl, same⟩, inside⟩
  · exact alike.inputBytes inside message

/-! ## Padding -/

theorem index_iterate_put (n : ℕ) (c : Sha1Context) :
    ((sha1Put · 0)^[n] c).messageBlockIndex = c.messageBlockIndex + n := by
  induction n with
  | zero => rfl
  | succ n ih => rw [Function.iterate_succ_apply', index_put, ih, Nat.add_assoc]

theorem index_fill {stop : ℕ} (before : c.messageBlockIndex ≤ stop) :
    (sha1Fill stop c).messageBlockIndex = stop := by
  rw [sha1Fill, index_iterate_put, Nat.add_sub_cancel' before]

theorem Alike.iterate_put (alike : Alike c c') {n : ℕ} (inside : c.messageBlockIndex + n ≤ 64) :
    Alike ((sha1Put · 0)^[n] c) ((sha1Put · 0)^[n] c') := by
  induction n with
  | zero => exact alike
  | succ n ih =>
    rw [Function.iterate_succ_apply', Function.iterate_succ_apply']
    refine (ih (by omega)).put ?_ 0
    rw [index_iterate_put]
    omega

theorem Alike.fill (alike : Alike c c') {stop : ℕ} (before : c.messageBlockIndex ≤ stop)
    (inside : stop ≤ 64) : Alike (sha1Fill stop c) (sha1Fill stop c') := by
  rw [sha1Fill, sha1Fill, alike.index]
  exact alike.iterate_put (by omega)

/-- With the length as its end, the block has been written whole. -/
theorem Alike.storeLength (alike : Alike c c') (filled : c.messageBlockIndex = 56) :
    storeLength c' = storeLength c := by
  obtain ⟨block, rfl, same⟩ := alike
  rw [filled] at same
  have whole {bytes : Bytes} (eight : bytes.length = 8) (block : Vector UInt8 64) :
      (writeAt block 56 bytes).toList = block.toList.take 56 ++ bytes := by
    rw [← take_writeAt (by omega), eight, List.take_of_length_le (by simp)]
  have blocks {bytes : Bytes} (eight : bytes.length = 8) :
      writeAt block 56 bytes = writeAt c.messageBlock 56 bytes := by
    rw [← Vector.toList_inj, whole eight, whole eight, same]
  unfold SimpleRouter.storeLength
  rw [blocks rfl]

/-- Padding writes the rest of the block. -/
theorem Alike.padMessage (alike : Alike c c') (inside : c.messageBlockIndex < 64) :
    sha1PadMessage c' = sha1PadMessage c := by
  have ended := alike.put inside 0x80
  unfold sha1PadMessage
  dsimp only
  rw [alike.index]
  split_ifs with late
  · have full : (sha1Fill 64 (sha1Put c 0x80)).messageBlockIndex = 64 := index_fill inside
    have filled := ((ended.fill inside le_rfl).process full).fill (Nat.zero_le 56) (by decide)
    rw [filled.storeLength (index_fill (Nat.zero_le 56))]
  · have room : (sha1Put c 0x80).messageBlockIndex ≤ 56 := by
      rw [index_put]
      omega
    rw [(ended.fill room (by decide)).storeLength (index_fill room)]

theorem Alike.result (alike : Alike c c') (inside : c.messageBlockIndex < 64) :
    (sha1Result c').map Sha1Context.messageDigest =
      (sha1Result c).map Sha1Context.messageDigest := by
  rw [sha1Result, sha1Result, alike.corrupted, alike.computed, alike.padMessage inside]
  split_ifs
  · rfl
  · exact congrArg some alike.messageDigest
  · rfl

/-! ## Input in parts -/

theorem inputBytes_of_corrupted (corrupted : c.corrupted) (message : Bytes) :
    sha1InputBytes c message = c := by
  cases message with
  | nil => rfl
  | cons b rest => rw [sha1InputBytes, if_pos corrupted]

theorem inputBytes_append (c : Sha1Context) (first second : Bytes) :
    sha1InputBytes c (first ++ second) = sha1InputBytes (sha1InputBytes c first) second := by
  induction first generalizing c with
  | nil => rfl
  | cons b rest ih =>
    rw [List.cons_append, sha1InputBytes, sha1InputBytes]
    split_ifs with corrupted
    · rw [inputBytes_of_corrupted corrupted]
    · exact ih _

@[simp] theorem computed_put (c : Sha1Context) (b : UInt8) :
    (sha1Put c b).computed = c.computed := rfl

@[simp] theorem computed_process (c : Sha1Context) :
    (sha1ProcessMessageBlock c).computed = c.computed := by
  rw [sha1ProcessMessageBlock]

@[simp] theorem computed_count (c : Sha1Context) : (sha1Count c).computed = c.computed := by
  unfold sha1Count
  dsimp only
  split_ifs <;> rfl

theorem computed_inputByte (c : Sha1Context) (b : UInt8) :
    (sha1InputByte c b).computed = c.computed := by
  unfold sha1InputByte
  dsimp only
  split_ifs <;> simp

theorem computed_inputBytes (c : Sha1Context) (message : Bytes) :
    (sha1InputBytes c message).computed = c.computed := by
  induction message generalizing c with
  | nil => rfl
  | cons b rest ih =>
    rw [sha1InputBytes]
    split_ifs
    · rfl
    · rw [ih, computed_inputByte]

/-- Until the result is computed, input is the loop over the bytes. -/
theorem input_eq (running : c.computed = false) (message : Bytes) :
    sha1Input c message = sha1InputBytes c message := by
  rw [sha1Input]
  split_ifs with empty closed
  · rw [empty, sha1InputBytes]
  · have corrupted : c.corrupted = true := by simpa [running] using closed
    rw [inputBytes_of_corrupted corrupted, ← corrupted]
  · rfl

end Sha1Context

open Sha1Context

/-! ## The digest -/

/-- The digest that is computed of the parts of a message, in a context that held something. -/
def sha1Digest (context : Sha1Context) (parts : List Bytes) : Option Sha1Words :=
  (sha1Result (parts.foldl sha1Input (sha1Reset context))).map Sha1Context.messageDigest

/-- The digest is one of the bytes, however they are parted. -/
theorem sha1Digest_flatten (context : Sha1Context) (parts : List Bytes) :
    sha1Digest context parts = sha1Digest context [parts.flatten] := by
  have joined {c : Sha1Context} (running : c.computed = false) :
      parts.foldl sha1Input c = sha1InputBytes c parts.flatten := by
    induction parts generalizing c with
    | nil => rfl
    | cons part rest ih =>
      rw [List.foldl_cons, input_eq running, ih ((computed_inputBytes c part).trans running),
        List.flatten_cons, inputBytes_append]
  rw [sha1Digest, sha1Digest, joined rfl, List.foldl_cons, List.foldl_nil, input_eq rfl]

/-- What the context held has no part in the digest. -/
theorem sha1Digest_congr (c c' : Sha1Context) (parts : List Bytes) :
    sha1Digest c' parts = sha1Digest c parts := by
  have both {c c' : Sha1Context} (alike : Alike c c') (inside : c.messageBlockIndex < 64) :
      Alike (parts.foldl sha1Input c) (parts.foldl sha1Input c') ∧
        (parts.foldl sha1Input c).messageBlockIndex < 64 := by
    induction parts generalizing c c' with
    | nil => exact ⟨alike, inside⟩
    | cons part rest ih =>
      obtain ⟨alike', inside'⟩ := alike.input inside part
      exact ih alike' inside'
  obtain ⟨alike, inside⟩ := both (alike_reset c c') (Nat.zero_lt_succ 63)
  exact alike.result inside

end SimpleRouter
