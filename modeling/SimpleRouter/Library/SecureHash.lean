/-
# The secure hash

The secure hash standard (FIPS PUB 180-1) pads a message to whole blocks and takes the blocks one
after the other into a chaining value of five words. Here it is stated of a whole message.
-/

import SimpleRouter.Library.BigEndian
import SimpleRouter.Library.Blocks

namespace SecureHash

open BigEndian Blocks

abbrev Word := BitVec 32

/-- The words `H0` to `H4`, and `A` to `E` in a round. -/
@[ext] structure Chaining where
  a : Word
  b : Word
  c : Word
  d : Word
  e : Word
  deriving DecidableEq

def initial : Chaining := ⟨0x67452301, 0xEFCDAB89, 0x98BADCFE, 0x10325476, 0xC3D2E1F0⟩

/-! ## A block -/

/-- The function of a round. -/
def roundFunction (t : ℕ) (b c d : Word) : Word :=
  if t < 20 then (b &&& c) ||| (~~~b &&& d)
  else if t < 40 then b ^^^ c ^^^ d
  else if t < 60 then (b &&& c) ||| (b &&& d) ||| (c &&& d)
  else b ^^^ c ^^^ d

/-- The constant of a round. -/
def roundConstant (t : ℕ) : Word :=
  if t < 20 then 0x5A827999
  else if t < 40 then 0x6ED9EBA1
  else if t < 60 then 0x8F1BBCDC
  else 0xCA62C1D6

def round (s : Chaining) (t : ℕ) (w : Word) : Chaining where
  a := s.a.rotateLeft 5 + roundFunction t s.b s.c s.d + s.e + w + roundConstant t
  b := s.a
  c := s.b.rotateLeft 30
  d := s.c
  e := s.d

/-- A word of a block, its first byte in front. -/
def word (block : List UInt8) (t : ℕ) : Word :=
  (block.getD (t * 4) 0).toBitVec ++ (block.getD (t * 4 + 1) 0).toBitVec ++
    (block.getD (t * 4 + 2) 0).toBitVec ++ (block.getD (t * 4 + 3) 0).toBitVec

/-- The words that the rounds take, the first sixteen of them given. -/
def schedule (m : ℕ → Word) (t : ℕ) : Word :=
  if t < 16 then m t
  else (schedule m (t - 3) ^^^ schedule m (t - 8) ^^^ schedule m (t - 14) ^^^
    schedule m (t - 16)).rotateLeft 1

theorem schedule_of_lt {m : ℕ → Word} {t : ℕ} (given : t < 16) : schedule m t = m t := by
  rw [schedule, if_pos given]

theorem schedule_of_le {m : ℕ → Word} {t : ℕ} (later : 16 ≤ t) :
    schedule m t = (schedule m (t - 3) ^^^ schedule m (t - 8) ^^^ schedule m (t - 14) ^^^
      schedule m (t - 16)).rotateLeft 1 := by
  rw [schedule, if_neg (Nat.not_lt.mpr later)]

/-- Some rounds, in their order. -/
def rounds (w : ℕ → Word) (ts : List ℕ) (s : Chaining) : Chaining :=
  ts.foldl (fun s t => round s t (w t)) s

theorem rounds_append (w : ℕ → Word) (first second : List ℕ) (s : Chaining) :
    rounds w (first ++ second) s = rounds w second (rounds w first s) :=
  List.foldl_append

/-- The chaining value behind a block. -/
def compress (s : Chaining) (block : List UInt8) : Chaining :=
  let r := rounds (schedule (word block)) (List.range 80) s
  ⟨s.a + r.a, s.b + r.b, s.c + r.c, s.d + r.d, s.e + r.e⟩

/-! ## A message -/

/-- The zeros in the padding of a message of some length. -/
def zeros (length : ℕ) : ℕ := (119 - length % 64) % 64

/-- A one, zeros, and the number of bits. -/
def padding (length : ℕ) : List UInt8 :=
  0x80 :: List.replicate (zeros length) 0 ++ encode 8 (8 * length)

def pad (message : List UInt8) : List UInt8 := message ++ padding message.length

theorem length_padding (length : ℕ) : (padding length).length = zeros length + 9 := by
  rw [padding, List.length_append, List.length_cons, List.length_replicate, length_encode]

/-- A padded message is blocks, without a rest. -/
theorem rest_pad (message : List UInt8) : rest 64 (pad message) = [] := by
  rw [← List.length_eq_zero_iff, length_rest, pad, List.length_append, length_padding, zeros]
  omega

/-- The chaining value behind the blocks of a text. -/
def chain (text : List UInt8) : Chaining := (blocks 64 text).foldl compress initial

/-- The digest of a message. -/
def digest (message : List UInt8) : Chaining := chain (pad message)

@[simp] theorem chain_nil : chain [] = initial := by
  rw [chain, blocks_nil, List.foldl_nil]

theorem chain_append (text more : List UInt8) :
    chain (text ++ more) = (blocks 64 (rest 64 text ++ more)).foldl compress (chain text) := by
  rw [chain, blocks_append (Nat.zero_lt_succ 63), List.foldl_append, chain]

/-- A byte that fills a block. -/
theorem chain_concat_of_full {text : List UInt8} (full : (rest 64 text).length + 1 = 64)
    (b : UInt8) : chain (text ++ [b]) = compress (chain text) (rest 64 text ++ [b]) := by
  rw [chain, blocks_concat_of_full (Nat.zero_lt_succ 63) full, List.foldl_concat, chain]

theorem chain_concat_of_ne {text : List UInt8} (open_ : (rest 64 text).length + 1 ≠ 64)
    (b : UInt8) : chain (text ++ [b]) = chain text := by
  rw [chain, blocks_concat_of_ne (Nat.zero_lt_succ 63) open_, chain]

/-- If the padding fits behind the rest, the digest is that of one more block. -/
theorem digest_of_short {message : List UInt8} (short : (rest 64 message).length ≤ 55) :
    digest message = compress (chain message)
      (rest 64 message ++ 0x80 :: List.replicate (55 - (rest 64 message).length) 0 ++
        encode 8 (8 * message.length)) := by
  have fill : zeros message.length = 55 - (rest 64 message).length := by
    rw [length_rest] at short ⊢
    rw [zeros]
    omega
  rw [digest, pad, chain_append, padding, fill, blocks_of_eq (Nat.zero_lt_succ 63),
    List.foldl_cons, List.foldl_nil, List.append_assoc]
  simp only [List.length_append, List.length_cons, List.length_replicate, length_encode]
  omega

/-- Otherwise, it is that of two. -/
theorem digest_of_long {message : List UInt8} (long : 55 < (rest 64 message).length) :
    digest message = compress
      (compress (chain message)
        (rest 64 message ++ 0x80 :: List.replicate (63 - (rest 64 message).length) 0))
      (List.replicate 56 0 ++ encode 8 (8 * message.length)) := by
  have short : (rest 64 message).length < 64 := by
    rw [length_rest]
    exact Nat.mod_lt _ (Nat.zero_lt_succ 63)
  have fill : zeros message.length = 63 - (rest 64 message).length + 56 := by
    rw [length_rest] at long short ⊢
    rw [zeros]
    omega
  have first : (rest 64 message ++
      0x80 :: List.replicate (63 - (rest 64 message).length) 0).length = 64 := by
    simp only [List.length_append, List.length_cons, List.length_replicate]
    omega
  have parted : rest 64 message ++ padding message.length =
      (rest 64 message ++ 0x80 :: List.replicate (63 - (rest 64 message).length) 0) ++
        (List.replicate 56 0 ++ encode 8 (8 * message.length)) := by
    rw [padding, fill, ← List.replicate_append_replicate]
    simp only [List.cons_append, List.append_assoc]
  rw [digest, pad, chain_append, parted, blocks_append (Nat.zero_lt_succ 63),
    blocks_of_eq (Nat.zero_lt_succ 63) first, rest_of_eq (Nat.zero_lt_succ 63) first,
    List.nil_append, blocks_of_eq (Nat.zero_lt_succ 63) (by simp), List.singleton_append,
    List.foldl_cons, List.foldl_cons, List.foldl_nil]

end SecureHash
