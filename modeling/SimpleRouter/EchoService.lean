/-
# The echo service

An echo request to one of its addresses is to be answered by the router, and no other ICMP
message is.

`deal_ip` hands every ICMP message to `reply_to_icmp_request`, which does not look at the type.
It makes a proper reply of an echo request, and a reply of every other message too. The source
address of the reply is the one of the first interface, so `sr_send_packet` takes it only where
the receiving interface has that address.
-/

import SimpleRouter.SourceAddresses

namespace SimpleRouter

open Buffers Effects

variable {sr : SrInstance} {packet : Bytes} {interface : IfName}

/-! ## What is asked of the code -/

/-- The frames that are handed to `sr_send_packet` while `deal_ip` runs. -/
def framesHanded (sr : SrInstance) (m : Moment) (cache : SrArpcache) (packet : Bytes)
    (interface : IfName) : List SentFrame :=
  ((dealIp sr packet interface).run (execOp sr m) cache).sent

/-- The frame passes the check of `sr_send_packet`. -/
def takes (sr : SrInstance) (frame : SentFrame) : Bool :=
  srEtherAddrsMatchInterface sr frame.buf frame.iface = 1

/-- Those of them that it sends. -/
def framesSent (sr : SrInstance) (m : Moment) (cache : SrArpcache) (packet : Bytes)
    (interface : IfName) : List SentFrame :=
  (framesHanded sr m cache packet interface).filter (takes sr)

/-- A valid ICMP message for one of the addresses of the router. -/
structure IcmpForUs (sr : SrInstance) (packet : Bytes) : Prop where
  long : 42 ≤ packet.length
  valid : ValidIp packet
  destination : (checkInterface sr (ipDst.get packet)).isSome
  icmp : hostU8 (ipP.get packet) = ipProtocolIcmp

/-- Type 8 and code 0. -/
def IsEchoRequest (packet : Bytes) : Prop :=
  hostU8 (icmpType.get packet) = 8 ∧ hostU8 (icmpCode.get packet) = 0

instance : Decidable (IsEchoRequest packet) := inferInstanceAs (Decidable (_ ∧ _))

/-- The frame goes back where the packet came from, as an echo reply with what the packet has
behind its checksum. -/
structure EchoReplyTo (packet : Bytes) (interface : IfName) (frame : SentFrame) : Prop where
  iface : frame.iface = interface
  dhost : etherDhost.get frame.buf = etherShost.get packet
  src : ipSrc.get frame.buf = ipDst.get packet
  dst : ipDst.get frame.buf = ipSrc.get packet
  totalLength : ipLen.get frame.buf = ipLen.get packet
  type : hostU8 (icmpType.get frame.buf) = 0
  code : hostU8 (icmpCode.get frame.buf) = 0
  -- The identifier, the sequence number and the payload.
  rest : frame.buf.drop 38 = packet.drop 38

/-- An echo request is answered by one reply, and any other message by nothing. -/
def EchoService (packet : Bytes) (interface : IfName) (frames : List SentFrame) : Prop :=
  if IsEchoRequest packet then ∃ frame, frames = [frame] ∧ EchoReplyTo packet interface frame
  else frames = []

/-! ## When the code does it -/

/-- The receiving interface has the hardware address of the first one. -/
def AddressOfFirst (sr : SrInstance) (interface : IfName) : Prop :=
  ∃ first iface, sr.ifList.head? = some first ∧ srGetInterface sr interface = some iface ∧
    first.addr = iface.addr

/-! ## The reply -/

section Reply

variable (first ours : SrIf)

theorem dhost_icmpReplyFrame (long : 12 ≤ packet.length) :
    etherDhost.get (icmpReplyFrame first ours packet) = etherShost.get packet := by
  simp (disch := decide) only [icmpReplyFrame, withIpSum, Span.get_set_of_disjoint]
  exact Span.get_set_self _ (fits_of_le long (by decide))

theorem src_icmpReplyFrame (long : 34 ≤ packet.length) :
    ipSrc.get (icmpReplyFrame first ours packet) = ours.ip := by
  simp (disch := decide) only [icmpReplyFrame, get_withIpSum, Span.get_set_of_disjoint]
  apply Span.get_set_self
  simp only [Span.fits_set]
  exact fits_of_le long (by decide)

theorem dst_icmpReplyFrame (long : 34 ≤ packet.length) :
    ipDst.get (icmpReplyFrame first ours packet) = ipSrc.get packet := by
  simp (disch := decide) only [icmpReplyFrame, get_withIpSum, Span.get_set_of_disjoint]
  apply Span.get_set_self
  simp only [Span.fits_set]
  exact fits_of_le long (by decide)

theorem type_icmpReplyFrame (long : 35 ≤ packet.length) :
    icmpType.get (icmpReplyFrame first ours packet) = #v[0] := by
  simp (disch := decide) only [icmpReplyFrame, get_withIpSum]
  apply Span.get_set_self
  simp only [Span.fits_set]
  exact fits_of_le long (by decide)

theorem code_icmpReplyFrame :
    icmpCode.get (icmpReplyFrame first ours packet) = icmpCode.get packet := by
  simp (disch := decide) only [icmpReplyFrame, get_withIpSum, Span.get_set_of_disjoint]

/-- The reply is right if the code of the message was 0 already. -/
theorem echoReplyTo_icmpReplyFrame_iff {sender : Sender} (long : 42 ≤ packet.length)
    (same : ours.ip = ipDst.get packet) :
    EchoReplyTo packet interface ⟨sender, icmpReplyFrame first ours packet, interface⟩ ↔
      hostU8 (icmpCode.get packet) = 0 := by
  constructor
  · intro reply
    have code := reply.code
    rwa [code_icmpReplyFrame] at code
  · intro code
    refine ⟨rfl, dhost_icmpReplyFrame first ours (by omega), ?_,
      dst_icmpReplyFrame first ours (by omega),
      ipLen_icmpReplyFrame first ours packet, ?_, ?_, ?_⟩
    · rw [src_icmpReplyFrame first ours (by omega), same]
    · rw [type_icmpReplyFrame first ours (by omega), hostU8_mk]
    · rwa [code_icmpReplyFrame]
    · have long : 35 ≤ packet.length := by omega
      have drops := drop_icmpReplyFrame first ours long
      have behind := congrArg (List.drop 4) drops
      rwa [List.drop_drop, List.drop_succ_cons, List.drop_drop] at behind

end Reply

/-! ## What the router does -/

/-- Every ICMP message for the router is answered as an echo request is. -/
theorem framesHanded_of_icmp (message : IcmpForUs sr packet) (interface : IfName) :
    ∃ first ours, sr.ifList.head? = some first ∧ ours.ip = ipDst.get packet ∧
      ∀ m cache, framesHanded sr m cache packet interface =
        [⟨.replyToIcmpRequest, icmpReplyFrame first ours packet, interface⟩] := by
  obtain ⟨ours, destination⟩ := Option.isSome_iff_exists.mp message.destination
  have listed : sr.ifList ≠ [] := List.ne_nil_of_mem (List.mem_of_find?_eq_some destination)
  obtain ⟨first, rest, list⟩ := List.exists_cons_of_ne_nil listed
  have head : sr.ifList.head? = some first := by rw [list, List.head?_cons]
  have long : 35 ≤ packet.length := Nat.le_trans (by decide) message.long
  refine ⟨first, ours, head, by simpa using List.find?_some destination, fun m cache => ?_⟩
  rw [framesHanded, dealIp_of_icmp long message.valid destination message.icmp head]
  rfl

/-- `sr_send_packet` takes the reply where it has the address of the interface. -/
theorem takes_icmpReplyFrame_iff {sender : Sender} {first : SrIf} (ours : SrIf)
    (long : 42 ≤ packet.length) (head : sr.ifList.head? = some first) :
    takes sr ⟨sender, icmpReplyFrame first ours packet, interface⟩ ↔
      AddressOfFirst sr interface := by
  rw [takes, decide_eq_true_iff, srEtherAddrsMatchInterface_eq_one_iff,
    shost_icmpReplyFrame _ _ (by omega)]
  constructor
  · rintro ⟨iface, found, same⟩
    exact ⟨first, iface, head, found, same⟩
  · rintro ⟨first', iface, head', found, same⟩
    rw [head] at head'
    cases head'
    exact ⟨iface, found, same⟩

/-- One reply is as it should be if and only if the message is an echo request. -/
theorem echoService_singleton_iff {sender : Sender} {first ours : SrIf}
    (long : 42 ≤ packet.length) (same : ours.ip = ipDst.get packet) :
    EchoService packet interface [⟨sender, icmpReplyFrame first ours packet, interface⟩] ↔
      IsEchoRequest packet := by
  by_cases request : IsEchoRequest packet
  · rw [EchoService, if_pos request]
    refine iff_of_true ⟨_, rfl, ?_⟩ request
    exact (echoReplyTo_icmpReplyFrame_iff first ours long same).mpr request.2
  · rw [EchoService, if_neg request]
    exact iff_of_false (List.cons_ne_nil _ _) request

theorem echoService_nil_iff : EchoService packet interface [] ↔ ¬ IsEchoRequest packet := by
  by_cases request : IsEchoRequest packet
  · rw [EchoService, if_pos request]
    refine iff_of_false ?_ (not_not.mpr request)
    rintro ⟨frame, none, -⟩
    cases none
  · rw [EchoService, if_neg request]
    exact iff_of_true rfl request

/-- An echo request and an echo reply from a server to the router. -/
def serverPing : Bytes :=
  sampleDatagram sampleEth1.addr server1Mac 64 ipProtocolIcmp server1Ip sampleEth1.ip echoRequest
def serverPong : Bytes :=
  sampleDatagram sampleEth1.addr server1Mac 64 ipProtocolIcmp server1Ip sampleEth1.ip echoReply

theorem icmpForUs_serverPing : IcmpForUs sampleInstance serverPing := by
  constructor <;> decide +kernel

theorem icmpForUs_serverPong : IcmpForUs sampleInstance serverPong := by
  constructor <;> decide +kernel

end SimpleRouter
