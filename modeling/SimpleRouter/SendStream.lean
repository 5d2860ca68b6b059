/-
# The stream to the server

Whatever calls of `sr_send_packet` are made, the server is to get whole packet messages: those
of the calls that returned 0, in the order of the calls.

A call makes one `write`. If that writes a part of the message only, the call returns -1 and
leaves the part in the stream, so that the server takes the next message for the rest of it.
-/

import SimpleRouter.Library.Pieces
import SimpleRouter.PacketMessage

namespace SimpleRouter

open Buffers Effects FixedFields Pieces

/-! ## Calls -/

/-- The number of bytes that a call is about to write, an `unsigned int`. -/
def totalLen (buf : Bytes) : ℕ := (buf.length + packetHeaderSize) % UInt32.size

/-- A call of `sr_send_packet` with the state it finds and what `write` answers: an error, or
how many bytes were written. -/
structure SendCall where
  sr : SrInstance
  host : Host
  buf : Bytes
  iface : IfName
  written : ℤ
  -- The length is an `unsigned int`.
  length : buf.length < UInt32.size
  atLeast : -1 ≤ written
  atMost : written ≤ totalLen buf

namespace SendCall

variable {call : SendCall}

/-- What the call hands to `write`, and its result. -/
def outcome (call : SendCall) : Outcome Bytes MessageStop ℤ :=
  VnsComm.srSendPacket call.sr call.host call.written call.buf call.iface

/-- The bytes that reach the server. -/
def delivered (call : SendCall) : Bytes :=
  (call.outcome.sent.map fun handed => handed.take call.written.toNat).flatten

/-- The call returns 0. -/
def Succeeds (call : SendCall) : Prop := call.outcome.Returns 0

instance : Decidable call.Succeeds := inferInstanceAs (Decidable (_ = _))

/-- The packet message of the frame. -/
def message (call : SendCall) : Bytes := framed vnsPacket (field 0 16 call.iface.chars ++ call.buf)

end SendCall

/-! ## What is asked of the code -/

/-- The server has got the messages of the calls that returned 0. -/
def Framed (calls : List SendCall) : Prop :=
  (calls.map SendCall.delivered).flatten =
    ((calls.filter SendCall.Succeeds).map SendCall.message).flatten

/-! ## When the code does it -/

namespace SendCall

/-- The call ends before it writes: the frame is too short, there is no memory, or the source
address is not that of the interface. -/
def Refused (call : SendCall) : Prop :=
  call.buf.length < ethHdrSize ∨ call.host.allocates = false ∨
    srEtherAddrsMatchInterface call.sr call.buf call.iface = 0

/-- The call writes a whole message, or nothing of it. -/
def AllOrNothing (call : SendCall) : Prop :=
  call.Refused ∨ if call.written < totalLen call.buf then call.written ≤ 0
    else packetHeaderSize + call.buf.length < UInt32.size

instance (call : SendCall) : Decidable call.Refused := inferInstanceAs (Decidable (_ ∨ _))

instance (call : SendCall) : Decidable call.AllOrNothing := inferInstanceAs (Decidable (_ ∨ _))

/-! ## One call -/

variable {call : SendCall}

/-- A call that is refused writes nothing and does not return 0. -/
theorem outcome_of_refused (refused : call.Refused) :
    call.outcome.sent = [] ∧ ¬ call.Succeeds := by
  rw [Succeeds, outcome, VnsComm.srSendPacket]
  by_cases short : call.buf.length < ethHdrSize
  · rw [if_pos short]
    exact ⟨rfl, by rintro ⟨⟩⟩
  rw [if_neg short]
  by_cases memory : call.host.allocates = false
  · rw [if_pos memory]
    exact ⟨rfl, by rintro ⟨⟩⟩
  have other : srEtherAddrsMatchInterface call.sr call.buf call.iface = 0 :=
    (refused.resolve_left short).resolve_left memory
  rw [if_neg memory, if_pos other]
  exact ⟨rfl, by rintro ⟨⟩⟩

/-- Any other call hands its packet to `write`, and returns 0 if all of it was written. -/
theorem outcome_of_not_refused (takes : ¬ call.Refused) :
    call.outcome = .returned
      [((be32Bytes (totalLen call.buf)).toList ++ (be32Bytes vnsPacket).toList ++
        field 0 16 call.iface.chars ++ call.buf).take (totalLen call.buf)]
      (if call.written < totalLen call.buf then -1 else 0) := by
  rw [Refused, not_or, not_or] at takes
  obtain ⟨long, memory, matching⟩ := takes
  have last : (if call.written < totalLen call.buf then pure (-1) else pure 0 :
      Outcome Bytes MessageStop ℤ) =
        .returned [] (if call.written < totalLen call.buf then -1 else 0) := by
    split_ifs <;> rfl
  rw [outcome, VnsComm.srSendPacket, ← totalLen, if_neg long, if_neg memory, if_neg matching, last,
    Outcome.emit, Outcome.returned_bind]
  rfl

theorem succeeds_iff (takes : ¬ call.Refused) :
    call.Succeeds ↔ ¬ call.written < totalLen call.buf := by
  rw [Succeeds, outcome_of_not_refused takes]
  by_cases short : call.written < totalLen call.buf
  · rw [if_pos short]
    exact iff_of_false (by rintro ⟨⟩) (not_not.mpr short)
  · rw [if_neg short]
    exact iff_of_true rfl short

theorem length_message (call : SendCall) :
    call.message.length = packetHeaderSize + call.buf.length := by
  rw [message, length_framed, List.length_append, length_field, ← Nat.add_assoc]
  rfl

/-- The packet is the message if its length is not cut off. -/
theorem packet_eq_message (small : packetHeaderSize + call.buf.length < UInt32.size) :
    (be32Bytes (totalLen call.buf)).toList ++ (be32Bytes vnsPacket).toList ++
      field 0 16 call.iface.chars ++ call.buf = call.message := by
  have total : totalLen call.buf = packetHeaderSize + call.buf.length := by
    rw [totalLen, Nat.add_comm, Nat.mod_eq_of_lt small]
  rw [message, framed, total, List.length_append, length_field, ← Nat.add_assoc,
    List.append_assoc _ _ call.buf]
  rfl

/-- A call brings what is asked of it if and only if it writes all or nothing. -/
theorem delivered_eq_iff :
    (call.delivered = if call.Succeeds then call.message else []) ↔ call.AllOrNothing := by
  by_cases refused : call.Refused
  · obtain ⟨silent, fails⟩ := outcome_of_refused refused
    refine iff_of_true ?_ (.inl refused)
    rw [delivered, silent, if_neg fails]
    rfl
  have asked : call.AllOrNothing ↔ if call.written < totalLen call.buf then call.written ≤ 0
      else packetHeaderSize + call.buf.length < UInt32.size :=
    ⟨fun whole => whole.resolve_left refused, .inr⟩
  have part : call.delivered = (((be32Bytes (totalLen call.buf)).toList ++
      (be32Bytes vnsPacket).toList ++ field 0 16 call.iface.chars ++ call.buf).take
        (totalLen call.buf)).take call.written.toNat := by
    rw [delivered, outcome_of_not_refused refused]
    simp
  have atMost := call.atMost
  rw [asked, part, List.take_take]
  by_cases short : call.written < totalLen call.buf
  · -- Something is left in the stream unless nothing was written.
    have fails : ¬ call.Succeeds := fun succeeds => (succeeds_iff refused).mp succeeds short
    rw [if_neg fails, if_pos short, List.take_eq_nil_iff]
    have nonempty : (be32Bytes (totalLen call.buf)).toList ++ (be32Bytes vnsPacket).toList ++
        field 0 16 call.iface.chars ++ call.buf ≠ [] := by
      apply List.ne_nil_of_length_pos
      simp only [List.length_append, Vector.length_toList]
      omega
    simp only [nonempty, or_false]
    omega
  · rw [if_pos ((succeeds_iff refused).mpr short), if_neg short]
    constructor
    · intro whole
      by_contra large
      have lengths := congrArg List.length whole
      rw [length_message, List.length_take] at lengths
      have wraps : totalLen call.buf < UInt32.size := Nat.mod_lt _ (by decide)
      omega
    · intro small
      have total : totalLen call.buf = packetHeaderSize + call.buf.length := by
        rw [totalLen, Nat.add_comm, Nat.mod_eq_of_lt small]
      rw [packet_eq_message small]
      apply List.take_of_length_le
      rw [length_message]
      omega

end SendCall

/-! ## A run of calls -/

/-- At every point of a run the server has got whole messages, those of the calls that returned 0,
if and only if every call writes all or nothing. -/
theorem framed_iff_allOrNothing (calls : List SendCall) :
    (∀ n, Framed (calls.take n)) ↔ ∀ call ∈ calls, call.AllOrNothing := by
  simp only [Framed, flatten_map_filter, flatten_map_take_eq_iff, SendCall.delivered_eq_iff]

/-- A call whose `write` writes 5 bytes of 38. -/
def brokenSend : SendCall :=
  ⟨sampleInstance, willingHost, headerFrame, eth1, 5, by decide, by decide, by decide⟩

def wholeSend : SendCall :=
  ⟨sampleInstance, willingHost, headerFrame, eth1, 38, by decide, by decide, by decide⟩

/-- The next message is taken for the rest of the first one. -/
theorem not_framed_brokenSend : ¬ Framed [brokenSend, wholeSend] := by
  unfold Framed
  decide

end SimpleRouter
