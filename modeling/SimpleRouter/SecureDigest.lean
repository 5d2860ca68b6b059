/-
# The secure hash of the message

`sha1.c` names the standard that it implements. A context that takes a message in parts holds the
chaining value of the blocks that are complete, the rest of the message, and its length in bits,
and what `SHA1Result` leaves is the digest that the standard gives the message.

The length has 64 bits. A message that does not fit, and input behind a result, spoil the context
until the next reset.
-/

import SimpleRouter.Library.SecureHash
import SimpleRouter.Sha1

namespace SimpleRouter

open BigEndian Buffers BufferWrites Blocks SecureHash

/-! ## Words -/

theorem toBitVec_circularShift {n : ℕ} (positive : 0 < n) (inside : n < 32) (w : UInt32) :
    (sha1CircularShift (UInt32.ofNat n) w).toBitVec = w.toBitVec.rotateLeft n := by
  have left : n % 32 = n := Nat.mod_eq_of_lt inside
  have right : (4294967296 - n % 4294967296) % 32 = 32 - n := by omega
  have ones (x : Word) : x &&& 4294967295#32 = x := BitVec.and_allOnes
  rw [BitVec.rotateLeft_def, sha1CircularShift, left]
  simp [left, right, ones]

theorem toBitVec_shift_one (w : UInt32) :
    (sha1CircularShift 1 w).toBitVec = w.toBitVec.rotateLeft 1 :=
  toBitVec_circularShift (n := 1) (by decide) (by decide) w

theorem toBitVec_shift_five (w : UInt32) :
    (sha1CircularShift 5 w).toBitVec = w.toBitVec.rotateLeft 5 :=
  toBitVec_circularShift (n := 5) (by decide) (by decide) w

theorem toBitVec_shift_thirty (w : UInt32) :
    (sha1CircularShift 30 w).toBitVec = w.toBitVec.rotateLeft 30 :=
  toBitVec_circularShift (n := 30) (by decide) (by decide) w

theorem toBitVec_blockWord (block : Bytes) (t : ℕ) :
    (blockWord block t).toBitVec = word block t := by
  refine BitVec.eq_of_getLsbD_eq fun i inside => ?_
  have beyond (b : UInt8) (k : ℕ) (out : 8 ≤ k) : b.toBitVec.getLsbD k = false :=
    BitVec.getLsbD_of_ge _ _ out
  simp only [blockWord, word, UInt32.toBitVec_or,
    UInt32.toBitVec_shiftLeft, UInt8.toBitVec_toUInt32, UInt32.toBitVec_ofNat,
    BitVec.ofNat_eq_ofNat, BitVec.reduceMod, BitVec.shiftLeft_eq', BitVec.toNat_ofNat,
    Nat.reducePow, Nat.reduceMod, inside, BitVec.getLsbD_eq_getElem, BitVec.getElem_or,
    BitVec.getElem_shiftLeft, BitVec.getElem_setWidth]
  grind

/-- The words that are made are those of the schedule. -/
theorem extendWords_eq {m : ℕ → Word} {w : List UInt32} {n : ℕ} (long : 16 ≤ n) (rounds : ℕ)
    (made : w.map UInt32.toBitVec = (List.range n).map (schedule m)) :
    (extendWords rounds w).map UInt32.toBitVec =
      (List.range (n + rounds)).map (schedule m) := by
  induction rounds generalizing w n with
  | zero => exact made
  | succ rounds ih =>
    have length : w.length = n := by simpa using congrArg List.length made
    have before {k : ℕ} (positive : 0 < k) (inside : k ≤ 16) :
        (w.getD (w.length - k) 0).toBitVec = schedule m (n - k) := by
      have listed : (w.map UInt32.toBitVec)[n - k]? = some (schedule m (n - k)) := by
        rw [made, List.getElem?_map, List.getElem?_range (by omega), Option.map_some]
      rw [List.getElem?_map, Option.map_eq_some_iff] at listed
      obtain ⟨x, there, same⟩ := listed
      rw [length, List.getD_eq_getElem?_getD, there, Option.getD_some, same]
    rw [extendWords, ← Nat.add_assoc, Nat.add_right_comm]
    refine ih (by omega) ?_
    rw [List.map_append, List.map_singleton, made, List.range_succ, List.map_append,
      List.map_singleton, schedule_of_le long, toBitVec_shift_one]
    simp only [UInt32.toBitVec_xor]
    rw [before (by decide) (by decide), before (by decide) (by decide),
      before (by decide) (by decide), before (by decide) (by decide)]

theorem wordSequence_eq (block : Bytes) :
    (wordSequence block).map UInt32.toBitVec = (List.range 80).map (schedule (word block)) := by
  refine extendWords_eq (le_refl 16) 64 ?_
  rw [List.map_map]
  refine List.map_congr_left fun t listed => ?_
  rw [schedule_of_lt (List.mem_range.mp listed), Function.comp_apply, toBitVec_blockWord]

/-! ## Blocks -/

/-- The words as a chaining value. -/
def Sha1Words.chaining (words : Sha1Words) : Chaining where
  a := words.a.toBitVec
  b := words.b.toBitVec
  c := words.c.toBitVec
  d := words.d.toBitVec
  e := words.e.toBitVec

section Rounds

variable {f : UInt32 → UInt32 → UInt32 → UInt32} {k : UInt32}

theorem chaining_round {t : ℕ}
    (function : ∀ b c d, (f b c d).toBitVec = roundFunction t b.toBitVec c.toBitVec d.toBitVec)
    (constant : k.toBitVec = roundConstant t) (words : Sha1Words) (w : UInt32) :
    (sha1Round f k words w).chaining = round words.chaining t w.toBitVec := by
  have ones (x : Word) : x &&& 4294967295#32 = x := BitVec.and_allOnes
  ext1
  · change ((sha1CircularShift 5 words.a + f words.b words.c words.d + words.e + w + k) &&&
      0xFFFFFFFF).toBitVec = _
    rw [UInt32.toBitVec_and, UInt32.toBitVec_add, UInt32.toBitVec_add, UInt32.toBitVec_add,
      UInt32.toBitVec_add, function, constant, toBitVec_shift_five]
    exact ones _
  · rfl
  · exact toBitVec_shift_thirty words.b
  · rfl
  · rfl

/-- A loop of rounds that have one function and one constant. -/
theorem chaining_rounds {ts : List ℕ} {w : ℕ → Word} {ws : List UInt32}
    (function : ∀ t ∈ ts, ∀ b c d,
      (f b c d).toBitVec = roundFunction t b.toBitVec c.toBitVec d.toBitVec)
    (constant : ∀ t ∈ ts, k.toBitVec = roundConstant t)
    (words : ws.map UInt32.toBitVec = ts.map w) (digest : Sha1Words) :
    (ws.foldl (sha1Round f k) digest).chaining = rounds w ts digest.chaining := by
  induction ts generalizing ws digest with
  | nil =>
    rw [List.map_nil, List.map_eq_nil_iff] at words
    rw [words]
    rfl
  | cons t ts ih =>
    obtain ⟨x, ws, rfl, first, later⟩ := List.map_eq_cons_iff.mp words
    rw [List.foldl_cons, ih (fun t listed => function t (List.mem_cons_of_mem _ listed))
      (fun t listed => constant t (List.mem_cons_of_mem _ listed)) later,
      chaining_round (function t List.mem_cons_self) (constant t List.mem_cons_self), first]
    rfl

/-- Some of the words, in their loop. -/
theorem chaining_loop {start count : ℕ} (inside : start + count ≤ 80)
    (function : ∀ t, start ≤ t → t < start + count → ∀ b c d,
      (f b c d).toBitVec = roundFunction t b.toBitVec c.toBitVec d.toBitVec)
    (constant : ∀ t, start ≤ t → t < start + count → k.toBitVec = roundConstant t)
    (block : Bytes) (digest : Sha1Words) :
    ((((wordSequence block).drop start).take count).foldl (sha1Round f k) digest).chaining =
      rounds (schedule (word block)) (List.range' start count) digest.chaining := by
  refine chaining_rounds (fun t listed => ?_) (fun t listed => ?_) ?_ digest
  · obtain ⟨from_, below⟩ := List.mem_range'_1.mp listed
    exact function t from_ below
  · obtain ⟨from_, below⟩ := List.mem_range'_1.mp listed
    exact constant t from_ below
  · rw [List.map_take, List.map_drop, wordSequence_eq, ← List.map_drop, ← List.map_take]
    have parted : List.range' start (80 - start) =
        List.range' start count ++ List.range' (start + count) (80 - (start + count)) := by
      rw [List.range'_append_1]
      congr 1
      omega
    rw [List.range_eq_range', List.drop_range', Nat.zero_add, Nat.mul_one, parted,
      List.take_left' List.length_range']

end Rounds

/-- The four loops are the rounds of the standard. -/
theorem chaining_digestBlock (digest : Sha1Words) (block : Bytes) :
    (digestBlock digest block).chaining = compress digest.chaining block := by
  have first (words : Sha1Words) : ((((wordSequence block).drop 0).take 20).foldl
      (sha1Round choose 0x5A827999) words).chaining =
        rounds (schedule (word block)) (List.range' 0 20) words.chaining :=
    chaining_loop (by decide)
      (fun t _ below b c d => by rw [roundFunction, if_pos below]; rfl)
      (fun t _ below => by rw [roundConstant, if_pos below]; rfl) block words
  have second (words : Sha1Words) : ((((wordSequence block).drop 20).take 20).foldl
      (sha1Round parity 0x6ED9EBA1) words).chaining =
        rounds (schedule (word block)) (List.range' 20 20) words.chaining :=
    chaining_loop (by decide)
      (fun t from_ below b c d => by
        rw [roundFunction, if_neg (Nat.not_lt.mpr from_), if_pos below]; rfl)
      (fun t from_ below => by
        rw [roundConstant, if_neg (Nat.not_lt.mpr from_), if_pos below]; rfl) block words
  have third (words : Sha1Words) : ((((wordSequence block).drop 40).take 20).foldl
      (sha1Round majority 0x8F1BBCDC) words).chaining =
        rounds (schedule (word block)) (List.range' 40 20) words.chaining :=
    chaining_loop (by decide)
      (fun t from_ below b c d => by
        rw [roundFunction, if_neg (by omega), if_neg (Nat.not_lt.mpr from_), if_pos below]; rfl)
      (fun t from_ below => by
        rw [roundConstant, if_neg (by omega), if_neg (Nat.not_lt.mpr from_), if_pos below]; rfl)
      block words
  have fourth (words : Sha1Words) : (((wordSequence block).drop 60).foldl
      (sha1Round parity 0xCA62C1D6) words).chaining =
        rounds (schedule (word block)) (List.range' 60 20) words.chaining := by
    have length : ((wordSequence block).drop 60).length = 20 := by
      have all := congrArg List.length (wordSequence_eq block)
      rw [List.length_map, List.length_map, List.length_range] at all
      rw [List.length_drop, all]
    rw [← List.take_of_length_le (Nat.le_of_eq length)]
    exact chaining_loop (by decide)
      (fun t from_ _ b c d => by
        rw [roundFunction, if_neg (by omega), if_neg (by omega), if_neg (Nat.not_lt.mpr from_)]
        rfl)
      (fun t from_ _ => by
        rw [roundConstant, if_neg (by omega), if_neg (by omega), if_neg (Nat.not_lt.mpr from_)]
        rfl)
      block words
  have parted : List.range 80 = List.range' 0 20 ++ List.range' 20 20 ++ List.range' 40 20 ++
      List.range' 60 20 := by decide
  unfold digestBlock compress
  rw [parted, rounds_append, rounds_append, rounds_append, ← first, ← second, ← third, ← fourth,
    List.drop_zero]
  simp only [Sha1Words.chaining, UInt32.toBitVec_add]

/-! ## The context -/

/-- A context holds a chaining value, and a text in its block. -/
structure Holds (s : Chaining) (text : Bytes) (c : Sha1Context) : Prop where
  digest : c.messageDigest.chaining = s
  index : c.messageBlockIndex = text.length
  front : c.messageBlock.toList.take text.length = text

namespace Holds

variable {s : Chaining} {text : Bytes} {c : Sha1Context}

theorem put (holds : Holds s text c) (room : text.length < 64) (b : UInt8) :
    Holds s (text ++ [b]) (sha1Put c b) where
  digest := holds.digest
  index := by rw [Sha1Context.index_put, holds.index, List.length_append, List.length_singleton]
  front := by
    rw [List.length_append, List.length_singleton, sha1Put, holds.index,
      take_setIfInBounds room, holds.front]

theorem count (holds : Holds s text c) : Holds s text (sha1Count c) := by
  obtain ⟨digest, index, front⟩ := holds
  unfold sha1Count
  dsimp only
  split_ifs <;> exact ⟨digest, index, front⟩

/-- A full block is processed. -/
theorem process (holds : Holds s text c) (full : text.length = 64) :
    Holds (compress s text) [] (sha1ProcessMessageBlock c) where
  digest := by
    have block : c.messageBlock.toList = text := by
      rw [← holds.front, List.take_of_length_le (by simp [full])]
    rw [← holds.digest, ← block]
    exact chaining_digestBlock _ _
  index := rfl
  front := rfl

theorem iterate_put (holds : Holds s text c) {n : ℕ} (room : text.length + n ≤ 64) :
    Holds s (text ++ List.replicate n 0) ((sha1Put · 0)^[n] c) := by
  induction n with
  | zero => rwa [List.replicate_zero, List.append_nil]
  | succ n ih =>
    rw [Function.iterate_succ_apply', List.replicate_succ', ← List.append_assoc]
    refine (ih (by omega)).put ?_ 0
    rw [List.length_append, List.length_replicate]
    omega

theorem fill (holds : Holds s text c) {stop : ℕ} (before : text.length ≤ stop)
    (inside : stop ≤ 64) :
    Holds s (text ++ List.replicate (stop - text.length) 0) (sha1Fill stop c) := by
  rw [sha1Fill, holds.index]
  exact holds.iterate_put (by omega)

end Holds

/-! ## The length -/

/-- The bits that were counted. -/
def Sha1Context.bits (c : Sha1Context) : ℕ := c.lengthHigh.toNat * 2 ^ 32 + c.lengthLow.toNat

/-- The length as it is stored. -/
theorem encode_bits (high low : UInt32) :
    encode 8 (high.toNat * 2 ^ 32 + low.toNat) =
      [(high >>> 24).toUInt8, (high >>> 16).toUInt8, (high >>> 8).toUInt8, high.toUInt8,
        (low >>> 24).toUInt8, (low >>> 16).toUInt8, (low >>> 8).toUInt8, low.toUInt8] := by
  have bounded := low.toNat_lt
  have byte {n : ℕ} {b : UInt8} (same : n % 256 = b.toNat) : UInt8.ofNat n = b :=
    UInt8.toNat_inj.mp ((UInt8.toNat_ofNat' ..).trans same)
  rw [encode, show List.range 8 = [0, 1, 2, 3, 4, 5, 6, 7] from rfl]
  simp only [List.map_cons, List.map_nil, List.cons.injEq, and_true]
  refine ⟨byte ?_, byte ?_, byte ?_, byte ?_, byte ?_, byte ?_, byte ?_, byte ?_⟩ <;>
    simp [Nat.shiftRight_eq_div_pow] <;> omega

theorem toNat_add_ofNat {x : UInt32} {k : ℕ} (small : k < 2 ^ 32) :
    (x + UInt32.ofNat k).toNat = (x.toNat + k) % 2 ^ 32 := by
  rw [UInt32.toNat_add, UInt32.toNat_ofNat', Nat.mod_eq_of_lt small]

/-- The count goes on until it has no more bits. -/
theorem bits_count {c : Sha1Context} (sound : c.corrupted = false) (eights : c.bits % 8 = 0) :
    ((sha1Count c).corrupted = true ↔ 2 ^ 64 ≤ c.bits + 8) ∧
      (c.bits + 8 < 2 ^ 64 → (sha1Count c).bits = c.bits + 8) := by
  have low := c.lengthLow.toNat_lt
  have high := c.lengthHigh.toNat_lt
  have counted : (c.lengthLow + 8).toNat = (c.lengthLow.toNat + 8) % 2 ^ 32 :=
    toNat_add_ofNat (k := 8) (by decide)
  have carried : (c.lengthHigh + 1).toNat = (c.lengthHigh.toNat + 1) % 2 ^ 32 :=
    toNat_add_ofNat (k := 1) (by decide)
  have zero (x : UInt32) : x = 0 ↔ x.toNat = 0 := UInt32.toNat_inj.symm
  unfold Sha1Context.bits at eights ⊢
  unfold sha1Count
  dsimp only
  split_ifs with carry
  · rw [zero, counted] at carry
    simp only [sound, Bool.false_or, decide_eq_true_eq, zero, counted, carried, carry]
    omega
  · rw [zero, counted] at carry
    simp only [sound, counted, Bool.false_eq_true, false_iff]
    omega

theorem count_put (c : Sha1Context) (b : UInt8) :
    sha1Count (sha1Put c b) = sha1Put (sha1Count c) b := by
  unfold sha1Count
  dsimp only [sha1Put]
  split_ifs <;> rfl

@[simp] theorem bits_put (c : Sha1Context) (b : UInt8) : (sha1Put c b).bits = c.bits := by
  rw [Sha1Context.bits, sha1Put, Sha1Context.bits]

@[simp] theorem bits_process (c : Sha1Context) : (sha1ProcessMessageBlock c).bits = c.bits := by
  rw [Sha1Context.bits, sha1ProcessMessageBlock, Sha1Context.bits]

@[simp] theorem corrupted_put (c : Sha1Context) (b : UInt8) :
    (sha1Put c b).corrupted = c.corrupted := by
  rw [sha1Put]

@[simp] theorem corrupted_process (c : Sha1Context) :
    (sha1ProcessMessageBlock c).corrupted = c.corrupted := by
  rw [sha1ProcessMessageBlock]

theorem bits_inputByte (c : Sha1Context) (b : UInt8) :
    (sha1InputByte c b).bits = (sha1Count c).bits ∧
      (sha1InputByte c b).corrupted = (sha1Count c).corrupted := by
  unfold sha1InputByte
  dsimp only
  rw [count_put]
  split_ifs <;> simp

/-! ## Input -/

/-- What a context holds behind a message. -/
structure Absorbed (message : Bytes) (c : Sha1Context) : Prop where
  holds : Holds (chain message) (rest 64 message) c
  bits : c.bits = 8 * message.length
  sound : c.corrupted = false
  running : c.computed = false

namespace Absorbed

variable {message : Bytes} {c : Sha1Context}

theorem reset (c : Sha1Context) : Absorbed [] (sha1Reset c) where
  holds := by
    rw [chain_nil, rest_nil]
    exact ⟨rfl, rfl, rfl⟩
  bits := by rw [Sha1Context.bits, sha1Reset, UInt32.toNat_zero, Nat.zero_mul, List.length_nil]
  sound := rfl
  running := rfl

theorem room (message : Bytes) : (rest 64 message).length < 64 := by
  rw [length_rest]
  exact Nat.mod_lt _ (Nat.zero_lt_succ 63)

theorem holds_inputByte (absorbed : Absorbed message c) (b : UInt8) :
    Holds (chain (message ++ [b])) (rest 64 (message ++ [b])) (sha1InputByte c b) := by
  have counted := (absorbed.holds.put (room message) b).count
  have index := counted.index
  rw [List.length_append, List.length_singleton] at index
  unfold sha1InputByte
  dsimp only
  rw [index]
  split_ifs with full
  · rw [chain_concat_of_full full, rest_concat_of_full (Nat.zero_lt_succ 63) full]
    exact counted.process (by rwa [List.length_append, List.length_singleton])
  · rwa [chain_concat_of_ne full, rest_concat_of_ne (Nat.zero_lt_succ 63) full]

/-- One more byte, if its bits can be counted. -/
theorem inputByte (absorbed : Absorbed message c) (b : UInt8) :
    ((sha1InputByte c b).corrupted = true ↔ 2 ^ 64 ≤ 8 * (message ++ [b]).length) ∧
      (8 * (message ++ [b]).length < 2 ^ 64 →
        Absorbed (message ++ [b]) (sha1InputByte c b)) := by
  obtain ⟨bits, corrupted⟩ := bits_inputByte c b
  obtain ⟨overflowed, next⟩ := bits_count absorbed.sound (by rw [absorbed.bits, Nat.mul_mod_right])
  have length : c.bits + 8 = 8 * (message ++ [b]).length := by
    rw [absorbed.bits, List.length_append, List.length_singleton, Nat.mul_succ]
  rw [length] at overflowed next
  refine ⟨by rw [corrupted, overflowed], fun fits => ⟨absorbed.holds_inputByte b, ?_, ?_, ?_⟩⟩
  · rw [bits, next fits]
  · rw [corrupted, ← Bool.not_eq_true, overflowed]
    exact Nat.not_le.mpr fits
  · rw [Sha1Context.computed_inputByte, absorbed.running]

theorem fits (absorbed : Absorbed message c) : 8 * message.length < 2 ^ 64 := by
  have low := c.lengthLow.toNat_lt
  have high := c.lengthHigh.toNat_lt
  have bits := absorbed.bits
  rw [Sha1Context.bits] at bits
  omega

theorem inputBytes_cons (absorbed : Absorbed message c) (b : UInt8) (more : Bytes) :
    sha1InputBytes c (b :: more) = sha1InputBytes (sha1InputByte c b) more := by
  rw [sha1InputBytes, absorbed.sound, if_neg Bool.false_ne_true]

/-- More of the message, if it is not too long. -/
theorem inputBytes (absorbed : Absorbed message c) {more : Bytes}
    (fits : 8 * (message ++ more).length < 2 ^ 64) :
    Absorbed (message ++ more) (sha1InputBytes c more) := by
  induction more generalizing message c with
  | nil => rwa [List.append_nil]
  | cons b more ih =>
    rw [List.append_cons] at fits ⊢
    rw [absorbed.inputBytes_cons]
    refine ih ((absorbed.inputByte b).2 ?_) fits
    rw [List.length_append] at fits
    omega

/-- More, of a message that gets too long. -/
theorem corrupted_inputBytes (absorbed : Absorbed message c) {more : Bytes}
    (long : 2 ^ 64 ≤ 8 * (message ++ more).length) :
    (sha1InputBytes c more).corrupted = true := by
  induction more generalizing message c with
  | nil =>
    rw [List.append_nil] at long
    exact absurd absorbed.fits (Nat.not_lt.mpr long)
  | cons b more ih =>
    obtain ⟨overflowed, next⟩ := absorbed.inputByte b
    rw [List.append_cons] at long
    rw [absorbed.inputBytes_cons]
    rcases Nat.lt_or_ge (8 * (message ++ [b]).length) (2 ^ 64) with fits | here
    · exact ih (next fits) long
    · rwa [Sha1Context.inputBytes_of_corrupted (overflowed.mpr here), overflowed]

/-! ## The result -/

/-- The block that ends with the length. -/
theorem process_storeLength {s : Chaining} {text : Bytes} (holds : Holds s text c)
    (filled : text.length = 56) :
    (sha1ProcessMessageBlock (storeLength c)).messageDigest.chaining =
      compress s (text ++ encode 8 c.bits) := by
  have room : 56 + (encode 8 c.bits).length ≤ 64 := by rw [length_encode]
  have written := take_writeAt room c.messageBlock
  rw [length_encode, List.take_of_length_le (by rw [Vector.length_toList]), ← filled,
    holds.front, filled, Sha1Context.bits, encode_bits] at written
  rw [sha1ProcessMessageBlock, chaining_digestBlock, storeLength, written, Sha1Context.bits,
    encode_bits, holds.digest]

theorem bits_iterate_put (c : Sha1Context) (n : ℕ) : ((sha1Put · 0)^[n] c).bits = c.bits := by
  induction n with
  | zero => rfl
  | succ n ih => rw [Function.iterate_succ_apply', bits_put, ih]

theorem bits_fill (c : Sha1Context) (stop : ℕ) : (sha1Fill stop c).bits = c.bits :=
  bits_iterate_put c _

theorem corrupted_fill (c : Sha1Context) (stop : ℕ) :
    (sha1Fill stop c).corrupted = c.corrupted := by
  rw [sha1Fill]
  generalize stop - c.messageBlockIndex = n
  induction n with
  | zero => rfl
  | succ n ih => rw [Function.iterate_succ_apply', corrupted_put, ih]

theorem corrupted_padMessage (c : Sha1Context) :
    (sha1PadMessage c).corrupted = c.corrupted := by
  unfold sha1PadMessage
  dsimp only
  rw [corrupted_process, storeLength]
  split_ifs <;> simp only [corrupted_fill, corrupted_process, corrupted_put]

/-- What padding leaves is the digest of the message. -/
theorem padMessage (absorbed : Absorbed message c) :
    (sha1PadMessage c).messageDigest.chaining = digest message := by
  have ended := absorbed.holds.put (room message) 0x80
  have length : (rest 64 message ++ [(0x80 : UInt8)]).length = (rest 64 message).length + 1 := by
    rw [List.length_append, List.length_singleton]
  unfold sha1PadMessage
  dsimp only
  rw [absorbed.holds.index]
  split_ifs with late
  · have full := ended.fill (by rw [length]; exact room message) (Nat.le_refl 64)
    have block : (rest 64 message ++ [(0x80 : UInt8)] ++
        List.replicate (64 - (rest 64 message ++ [(0x80 : UInt8)]).length) 0).length = 64 := by
      rw [List.length_append, List.length_replicate, length]
      exact Nat.add_sub_cancel' (room message)
    have next := (full.process block).fill (Nat.zero_le 56) (by decide)
    rw [process_storeLength next (by simp), bits_fill, bits_process, bits_fill, bits_put,
      absorbed.bits, digest_of_long late, length]
    simp
  · have before : (rest 64 message ++ [(0x80 : UInt8)]).length ≤ 56 := by
      rw [length]
      omega
    have filled := ended.fill before (by decide)
    have whole : (rest 64 message ++ [(0x80 : UInt8)] ++
        List.replicate (56 - (rest 64 message ++ [(0x80 : UInt8)]).length) 0).length = 56 := by
      rw [List.length_append, List.length_replicate, Nat.add_sub_cancel' before]
    rw [process_storeLength filled whole, bits_fill, bits_put, absorbed.bits,
      digest_of_short (Nat.not_lt.mp late), length]
    simp

end Absorbed

/-! ## Calls -/

/-- What a user of a context calls. -/
inductive Sha1Call where
  | reset
  | input (message : Bytes)
  | result

/-- The context behind a call. A result that fails leaves it as it is. -/
def sha1Call (context : Sha1Context) : Sha1Call → Sha1Context
  | .reset => sha1Reset context
  | .input message => sha1Input context message
  | .result => (sha1Result context).getD context

/-- The results that calls give, one for each call of `SHA1Result`. -/
def sha1Results : Sha1Context → List Sha1Call → List (Option Chaining)
  | _, [] => []
  | context, .result :: calls =>
    (sha1Result context).map (·.messageDigest.chaining) ::
      sha1Results (sha1Call context .result) calls
  | context, call :: calls => sha1Results (sha1Call context call) calls

/-- A message that is hashed: it is taken in, its digest was given, or there is none. -/
inductive Hashing where
  | open (message : Bytes)
  | closed (message : Bytes)
  | spoilt

namespace Hashing

/-- More of the message. It has to be in front of the result, and fit in the length. -/
def input : Hashing → Bytes → Hashing
  | h, [] => h
  | .open message, more =>
    if 8 * (message ++ more).length < 2 ^ 64 then .open (message ++ more) else .spoilt
  | .closed _, _ => .spoilt
  | .spoilt, _ => .spoilt

def result : Hashing → Option Chaining
  | .open message => some (digest message)
  | .closed message => some (digest message)
  | .spoilt => none

def close : Hashing → Hashing
  | .open message => .closed message
  | h => h

/-- The results that calls should give. -/
def results : Hashing → List Sha1Call → List (Option Chaining)
  | _, [] => []
  | _, .reset :: calls => results (.open []) calls
  | h, .input message :: calls => results (h.input message) calls
  | h, .result :: calls => h.result :: results h.close calls

end Hashing

/-- A context represents a message that is hashed. -/
inductive Hashes : Hashing → Sha1Context → Prop where
  | open {message : Bytes} {c : Sha1Context} (absorbed : Absorbed message c) :
      Hashes (.open message) c
  | closed {message : Bytes} {c : Sha1Context} (sound : c.corrupted = false)
      (computed : c.computed = true) (digest : c.messageDigest.chaining = digest message) :
      Hashes (.closed message) c
  | spoilt {c : Sha1Context} (corrupted : c.corrupted = true) : Hashes .spoilt c

namespace Hashes

variable {h : Hashing} {c : Sha1Context}

theorem input (hashes : Hashes h c) (message : Bytes) :
    Hashes (h.input message) (sha1Input c message) := by
  cases message with
  | nil =>
    rw [sha1Input, if_pos rfl]
    cases hashes with
    | «open» absorbed => exact .open absorbed
    | closed sound computed digest => exact .closed sound computed digest
    | spoilt corrupted => exact .spoilt corrupted
  | cons b rest =>
    cases hashes with
    | «open» absorbed =>
      rw [Sha1Context.input_eq absorbed.running, Hashing.input]
      · split_ifs with fits
        · exact .open (absorbed.inputBytes fits)
        · exact .spoilt (absorbed.corrupted_inputBytes (Nat.not_lt.mp fits))
      · exact List.cons_ne_nil b rest
    | closed sound computed digest =>
      rw [sha1Input, if_neg (List.cons_ne_nil b rest), computed, Bool.true_or, if_pos rfl]
      exact .spoilt rfl
    | spoilt corrupted =>
      rw [sha1Input, if_neg (List.cons_ne_nil b rest), corrupted, Bool.or_true, if_pos rfl]
      exact .spoilt rfl

theorem result (hashes : Hashes h c) :
    (sha1Result c).map (·.messageDigest.chaining) = h.result ∧
      Hashes h.close ((sha1Result c).getD c) := by
  cases hashes with
  | «open» absorbed =>
    rw [sha1Result, absorbed.sound, absorbed.running, if_neg Bool.false_ne_true,
      if_neg Bool.false_ne_true]
    have sound := (Absorbed.corrupted_padMessage c).trans absorbed.sound
    have digest := absorbed.padMessage
    generalize sha1PadMessage c = padded at sound digest
    exact ⟨congrArg some digest, .closed sound rfl digest⟩
  | closed sound computed digest =>
    rw [sha1Result, sound, computed, if_neg Bool.false_ne_true, if_pos rfl]
    exact ⟨congrArg some digest, .closed sound computed digest⟩
  | spoilt corrupted =>
    rw [sha1Result, if_pos corrupted]
    exact ⟨rfl, .spoilt corrupted⟩

theorem results (hashes : Hashes h c) (calls : List Sha1Call) :
    sha1Results c calls = h.results calls := by
  induction calls generalizing h c with
  | nil => rfl
  | cons call calls ih =>
    cases call with
    | reset => exact ih (.open (.reset c))
    | input message => exact ih (hashes.input message)
    | result =>
      obtain ⟨given, after⟩ := hashes.result
      rw [sha1Results, Hashing.results, given]
      exact congrArg _ (ih after)

end Hashes

/-- Behind a reset, whatever the calls and their order are, every result is the digest that the
standard gives to the bytes since the last reset. -/
theorem sha1Results_reset (context : Sha1Context) (calls : List Sha1Call) :
    sha1Results (sha1Reset context) calls = Hashing.results (.open []) calls :=
  (Hashes.open (.reset context)).results calls

end SimpleRouter
