/-
# Reading messages from a switch

`Connection.read` of `of_01.py` keeps what it received of a message that is not complete. However
the stream of a switch is cut into the pieces that `recv` returns, the handlers get the messages
that the switch sent, in order, as far as they are complete.
-/

import Mathlib.Data.List.GetD
import SimpleRouter.Pox.OpenFlow

namespace SimpleRouter.Pox

/-! ## The loop of `read` -/

/-- A call of a handler. -/
structure Dispatch where
  ofpType : ℕ
  /-- None for a message that `unpack` left as it was made. -/
  msg : Option Message

/-- How a call of `read` ends. -/
inductive ReadEnd where
  | waits
  | badVersion
  /-- An exception that `read` does not catch. -/
  | raised
  /-- A message of length zero stays in the buffer. -/
  | hangs
  deriving DecidableEq

/-- The types with an entry in `handlerMap`. -/
def handledTypes : List ℕ := [0, 1, 2, 6, 10, 11, 12, 17, 19]

/-- `ord(self.buf[2]) << 8 | ord(self.buf[3])` -/
def packetLength (buf : List UInt8) : ℕ := (buf.getD 2 0).toNat <<< 8 ||| (buf.getD 3 0).toNat

/-- The loop of `read`: what the handlers get, what is left in the buffer, and how the loop ends. Of
the other types, `skips` says whether their classes unpack and print the message without an
exception; from type 21 on there is no class. -/
def readLoop (skips : ℕ → List UInt8 → Bool) : ℕ → List UInt8 →
    List Dispatch × List UInt8 × ReadEnd
  | 0, buf => ([], buf, .hangs)
  | rounds + 1, buf =>
    if buf.length ≤ 4 then ([], buf, .waits)
    else if (buf.getD 0 0).toNat ≠ 1 then ([], buf, .badVersion)
    else if buf.length < packetLength buf then ([], buf, .waits)
    else
      let ofpType := (buf.getD 1 0).toNat
      let later := readLoop skips rounds (buf.drop (packetLength buf))
      if ofpType ∈ handledTypes then
        (⟨ofpType, unpackMessage ofpType buf⟩ :: later.1, later.2)
      else if ofpType < 21 ∧ skips ofpType buf then later
      else ([], buf, .raised)

/-! ## Connections -/

structure Connection where
  buf : List UInt8
  handled : List Dispatch
  closed : Bool

def Connection.start : Connection := ⟨[], [], false⟩

/-- `read`, for what `recv` returns. The task closes the connection when `read` returns false, or
raises an exception. -/
def Connection.read (skips : ℕ → List UInt8 → Bool) (con : Connection) (d : List UInt8) :
    Connection :=
  if con.closed then con
  else if d = [] then { con with closed := true }
  else
    let buf := con.buf ++ d
    let (handled, rest, ends) := readLoop skips (buf.length + 1) buf
    ⟨rest, con.handled ++ handled, ends != .waits⟩

/-! ## Frames -/

section Frames

variable {skips : ℕ → List UInt8 → Bool} {m : Message} {frame rest buf : List UInt8}

/-- The message and the text that it is sent as. -/
structure Packed (m : Message) (frame : List UInt8) : Prop where
  pack : m.pack = some frame
  ready : m.Ready

theorem Message.header_received (m : Message) :
    m.received.header.version = m.header.version ∧
      m.received.header.headerType = m.header.headerType := by
  cases m <;> exact ⟨rfl, rfl⟩

theorem Message.ofpt_mem (m : Message) : m.ofpt ∈ handledTypes := by
  cases m <;> simp [ofpt, handledTypes]

/-- The first four bytes are read as the header reads them. -/
theorem unpack_header_eq (enough : 8 ≤ buf.length) :
    (OfpHeader.unpack buf).version = (buf.getD 0 0).toNat ∧
      (OfpHeader.unpack buf).headerType = (buf.getD 1 0).toNat ∧
        (OfpHeader.unpack buf).length = packetLength buf := by
  obtain ⟨b₀, b₁, b₂, b₃, tail, rfl⟩ : ∃ b₀ b₁ b₂ b₃ tail, buf = b₀ :: b₁ :: b₂ :: b₃ :: tail := by
    match buf, enough with
    | b₀ :: b₁ :: b₂ :: b₃ :: tail, _ => exact ⟨b₀, b₁, b₂, b₃, tail, rfl⟩
  refine ⟨by simp [OfpHeader.unpack, Struct.unpackFrom, BigEndian.decode],
    by simp [OfpHeader.unpack, Struct.unpackFrom, BigEndian.decode], ?_⟩
  have low : b₃.toNat < 2 ^ 8 := b₃.toNat_lt
  have length : packetLength (b₀ :: b₁ :: b₂ :: b₃ :: tail) = b₂.toNat * 256 + b₃.toNat := by
    change b₂.toNat <<< 8 ||| b₃.toNat = _
    rw [← Nat.shiftLeft_add_eq_or_of_lt low, Nat.shiftLeft_eq]
  rw [length]
  simp [OfpHeader.unpack, Struct.unpackFrom, BigEndian.decode]

/-- What `read` looks at of a frame. -/
theorem Packed.front (packed : Packed m frame) :
    8 ≤ frame.length ∧ (frame.getD 0 0).toNat = 1 ∧ (frame.getD 1 0).toNat = m.ofpt ∧
      packetLength frame = frame.length := by
  obtain ⟨length, read⟩ := Message.unpack_pack packed.pack packed.ready
  have enough : 8 ≤ frame.length := by
    rw [length]
    cases m <;> simp [Message.size] <;> omega
  have whole := read []
  rw [List.append_nil] at whole
  have header := header_of_unpackMessage whole
  obtain ⟨version, headerType, size⟩ := unpack_header_eq enough
  rw [← header] at version headerType size
  refine ⟨enough, ?_, ?_, ?_⟩
  · rw [← version, m.header_received.1, packed.ready.version]
  · rw [← headerType, m.header_received.2, packed.ready.headerType]
  · rw [← size, packed.ready.length, length]

/-- What `read` looks at is in the first bytes. -/
theorem packetLength_append (enough : 4 ≤ buf.length) :
    packetLength (buf ++ rest) = packetLength buf := by
  rw [packetLength, packetLength, List.getD_append _ _ _ _ (by omega),
    List.getD_append _ _ _ _ (by omega)]

/-- A part of a frame is left in the buffer. -/
theorem readLoop_of_part (packed : Packed m frame) (part : buf <+: frame)
    (short : buf.length < frame.length) (rounds : ℕ) :
    readLoop skips (rounds + 1) buf = ([], buf, .waits) := by
  obtain ⟨-, version, -, length⟩ := packed.front
  obtain ⟨rest, rfl⟩ := part
  rw [readLoop]
  by_cases few : buf.length ≤ 4
  · rw [if_pos few]
  · rw [List.getD_append _ _ _ _ (by omega)] at version
    rw [packetLength_append (by omega)] at length
    rw [if_neg few, if_neg (not_not_intro version), if_pos (length ▸ short)]

/-- A frame at the front of the buffer is handled. -/
theorem readLoop_of_frame (packed : Packed m frame) (rounds : ℕ) :
    readLoop skips (rounds + 1) (frame ++ rest) =
      (⟨m.ofpt, some m.received⟩ :: (readLoop skips rounds rest).1,
        (readLoop skips rounds rest).2) := by
  obtain ⟨enough, version, ofpType, length⟩ := packed.front
  obtain ⟨-, read⟩ := Message.unpack_pack packed.pack packed.ready
  have whole : packetLength (frame ++ rest) = frame.length := by
    rw [packetLength_append (by omega), length]
  rw [← List.getD_append frame rest _ _ (by omega)] at version ofpType
  rw [readLoop, if_neg (by rw [List.length_append]; omega), if_neg (not_not_intro version), whole,
    if_neg (by rw [List.length_append]; omega)]
  dsimp only
  rw [ofpType, if_pos m.ofpt_mem, read, List.drop_left]

/-- Of the frames, as many have been received in whole; the rest is a part of the next one. -/
structure Received (frames : List (List UInt8)) (stream : List UInt8) (k : ℕ) (rest : List UInt8) :
    Prop where
  stream : stream = (frames.take k).flatten ++ rest
  front : rest <+: (frames.drop k).flatten
  part : ∀ frame ∈ frames[k]?, rest.length < frame.length

/-- What a handler gets of a message. -/
def Message.dispatch (m : Message) : Dispatch := ⟨m.ofpt, some m.received⟩

/-- The loop takes the whole frames off the buffer. -/
theorem readLoop_frames {sent : List Message} {frames : List (List UInt8)}
    (packed : List.Forall₂ Packed sent frames) (front : buf <+: frames.flatten) {rounds : ℕ}
    (enough : buf.length < rounds) :
    ∃ k rest, Received frames buf k rest ∧
      readLoop skips rounds buf = ((sent.take k).map Message.dispatch, rest, .waits) := by
  obtain ⟨rounds, rfl⟩ : ∃ below, rounds = below + 1 := ⟨rounds - 1, by omega⟩
  induction packed generalizing buf rounds with
  | nil =>
    obtain rfl := List.prefix_nil.mp front
    exact ⟨0, [], ⟨rfl, List.nil_prefix, fun _ none_ => by cases none_⟩, rfl⟩
  | @cons m frame sent frames first others ih =>
    rw [List.flatten_cons] at front
    by_cases short : buf.length < frame.length
    · have part : buf <+: frame :=
        List.prefix_of_prefix_length_le front (List.prefix_append _ _) short.le
      refine ⟨0, buf, ⟨rfl, front, fun frame' same => ?_⟩, readLoop_of_part first part short rounds⟩
      obtain rfl := Option.some.inj same
      exact short
    · obtain ⟨buf, rfl⟩ :=
        List.prefix_of_prefix_length_le (List.prefix_append _ _) front (Nat.not_lt.mp short)
      have positive := first.front.1
      rw [List.length_append] at enough
      obtain ⟨more, rfl⟩ : ∃ more, rounds = more + 1 := ⟨rounds - 1, by omega⟩
      obtain ⟨k, rest, received, loop⟩ :=
        ih ((List.prefix_append_right_inj frame).mp front) more (by omega)
      refine ⟨k + 1, rest, ⟨?_, received.front, received.part⟩, ?_⟩
      · rw [List.take_succ_cons, List.flatten_cons, List.append_assoc, ← received.stream]
      · rw [readLoop_of_frame first, loop]
        rfl

/-- What was received before and what the loop takes off the buffer. -/
theorem Received.append {frames : List (List UInt8)} {stream piece rest' : List UInt8} {k k' : ℕ}
    (received : Received frames stream k buf)
    (more : Received (frames.drop k) (buf ++ piece) k' rest') :
    Received frames (stream ++ piece) (k + k') rest' where
  stream := by
    rw [received.stream, List.append_assoc, more.stream, List.take_add, List.flatten_append,
      List.append_assoc]
  front := by
    rw [← List.drop_drop]
    exact more.front
  part frame next := more.part frame (by rwa [List.getElem?_drop])

def sampleSent : List Message := [.hello ⟨1, 0, 8, 1⟩, .echoRequest ⟨⟨1, 2, 10, 2⟩, [7, 9]⟩]

def sampleFrames : List (List UInt8) := [[1, 0, 0, 8, 0, 0, 0, 1], [1, 2, 0, 10, 0, 0, 0, 2, 7, 9]]

end Frames

end SimpleRouter.Pox
