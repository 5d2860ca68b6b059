/-
# Valid checksums

Every IP header that leaves the router checks, whichever way the frame took: all of
them have just been given a new checksum, or wait with one that nothing touches. The
ICMP errors check as well.

An echo reply is made by clearing the type of the request in place. Its ICMP checksum
is left as it came, so the reply checks only if the type was zero already.
-/

import SimpleRouter.CacheSafety

namespace SimpleRouter

open Buffers Effects Machine OnesComplement

variable {sr : SrInstance} {packet : Bytes} {interface : IfName}

/-! ## The sums of a frame -/

/-- The one's-complement sum of the 20-byte IP header. -/
def ipHdrSum (buf : Bytes) : ℕ := onesSum (ipHdr.get buf).toList

/-- The ICMP part of the datagram, `ntohs(ip_len) - 20` bytes. -/
def icmpPart (buf : Bytes) : Bytes :=
  (buf.drop (ethHdrSize + ipHdrSize)).take (be16 (ipLen.get buf) - ipHdrSize)

/-- The IP header of an IP frame checks, and so does an ICMP error. -/
structure ValidSums (frame : SentFrame) : Prop where
  header : IsIp frame.buf → ipHdrSum frame.buf = 0xFFFF
  error : frame.sender = .sendIcmpError → onesSum (icmpPart frame.buf) = 0xFFFF

theorem ipHdrSum_withIpSum (long : 34 ≤ packet.length) : ipHdrSum (withIpSum packet) = 0xFFFF := by
  have checks := @onesSum_checksummed 14 10 8 packet (by decide) (by decide) long
  exact checks

theorem ipHdrSum_setDhost (mac : Mac) (buf : Bytes) :
    ipHdrSum (etherDhost.set mac buf) = ipHdrSum buf := by
  rw [ipHdrSum, Span.get_set_of_disjoint (by decide), ipHdrSum]

theorem ipHdrSum_readdressed (dhost shost : Mac) (buf : Bytes) :
    ipHdrSum (readdressed dhost shost buf) = ipHdrSum buf := by
  rw [ipHdrSum, get_readdressed (by decide) (by decide), ipHdrSum]

/-! ## ICMP errors -/

theorem ipLen_icmpErrorFrame (iface : SrIf) (type code : UInt8) (long : 34 ≤ packet.length) :
    ipLen.get (icmpErrorFrame iface type code packet) = #v[0, 56] := by
  rw [get_icmpErrorFrame (by decide), icmpErrorInbound, get_withIpSum (by decide),
    Span.get_set_self]
  simpa using fits_of_le long (by decide)

/-- The 36 bytes of an ICMP error check once the sum over them is stored. -/
theorem icmpErrorHdr_checks {message : Bytes} (long : 70 ≤ message.length)
    (cleared : icmpSum.get message = #v[0, 0]) :
    onesSum (icmpErrorHdr.get (icmpSum.set (hostBytes (cksum (icmpErrorHdr.get message).toList))
      message)).toList = 0xFFFF := by
  -- The field was zero already, so clearing it first changes nothing.
  have zero : icmpSum.set #v[0, 0] message = message := by
    rw [← cleared, Span.set_get_self]
  have checks := @onesSum_checksummed 34 2 32 message (by decide) (by decide) long
  change onesSum (icmpErrorHdr.get (icmpSum.set (hostBytes (cksum (icmpErrorHdr.get
    (icmpSum.set #v[0, 0] message)).toList)) message)).toList = _ at checks
  rwa [zero] at checks

/-- In a datagram of 56 bytes they are the whole ICMP part. -/
theorem icmpPart_of_ipLen {buf : Bytes} (len : ipLen.get buf = #v[0, 56]) (long : 70 ≤ buf.length) :
    icmpPart buf = (icmpErrorHdr.get buf).toList := by
  have size : be16 #v[0, 56] - ipHdrSize = 36 := by decide
  have fits : icmpErrorHdr.Fits buf := long
  rw [icmpPart, len, size, Span.toList_get fits]
  rfl

theorem icmpSum_icmpErrorMessage (iface : SrIf) (type code : UInt8) (buf : Bytes) :
    icmpSum.get (icmpErrorMessage iface type code buf) = #v[0, 0] := by
  simp (disch := decide) only [icmpErrorMessage, Span.get_set_of_disjoint]
  apply Span.get_set_self
  simp only [Span.fits_set]
  decide

/-- The router's ICMP errors check, whatever they are about. -/
theorem validSums_icmpErrorFrame (iface : SrIf) (type code : UInt8) (long : 34 ≤ packet.length)
    (port : IfName) : ValidSums ⟨.sendIcmpError, icmpErrorFrame iface type code packet, port⟩ where
  header _ := by
    rw [ipHdrSum, get_icmpErrorFrame (by decide)]
    exact ipHdrSum_withIpSum (by simpa using long)
  error _ := by
    have len := ipLen_icmpErrorFrame iface type code long
    have whole := length_icmpErrorFrame iface type code packet
    rw [icmpPart_of_ipLen len whole.ge, icmpErrorFrame, Span.get_set_of_disjoint (by decide)]
    exact icmpErrorHdr_checks (length_icmpErrorMessage iface type code packet).ge
      (icmpSum_icmpErrorMessage iface type code packet)

/-- Any other frame needs a valid header only. -/
theorem validSums_of_header {sender : Sender} {buf : Bytes} {port : IfName}
    (other : sender ≠ .sendIcmpError) (header : IsIp buf → ipHdrSum buf = 0xFFFF) :
    ValidSums ⟨sender, buf, port⟩ :=
  ⟨header, fun error => absurd error other⟩

/-! ## Echo replies -/

/-- An ICMP message starts with its type. -/
theorem drop_icmpType (long : 35 ≤ packet.length) :
    packet.drop (ethHdrSize + ipHdrSize) = hostU8 (icmpType.get packet) :: packet.drop 35 := by
  have fits : icmpType.Fits packet := fits_of_le long (by decide)
  have split := Span.drop_set_self (icmpType.get packet) fits
  rw [Span.set_get_self, eq_hostU8 (icmpType.get packet)] at split
  exact split

/-- A reply starts with type zero and goes on as the request did. -/
theorem drop_icmpReplyFrame (first ours : SrIf) (long : 35 ≤ packet.length) :
    (icmpReplyFrame first ours packet).drop (ethHdrSize + ipHdrSize) = 0 :: packet.drop 35 := by
  have fits : icmpType.Fits packet := fits_of_le long (by decide)
  rw [icmpReplyFrame, withIpSum, Span.drop_set (by decide)]
  change List.drop icmpType.off _ = _
  -- Behind the type nothing is written, and everything before it is dropped.
  rw [Span.drop_set_self _ (by simpa using fits)]
  change 0 :: List.drop 35 _ = _
  simp (disch := decide) only [Span.drop_set]

theorem ipLen_icmpReplyFrame (first ours : SrIf) (packet : Bytes) :
    ipLen.get (icmpReplyFrame first ours packet) = ipLen.get packet := by
  simp (disch := decide) only [icmpReplyFrame, get_withIpSum, Span.get_set_of_disjoint]

/-- The reply to a message that checks does so itself only for a message of type zero. -/
theorem icmpSum_icmpReplyFrame_iff (first ours : SrIf) (long : 35 ≤ packet.length)
    (request : onesSum (icmpPart packet) = 0xFFFF) :
    onesSum (icmpPart (icmpReplyFrame first ours packet)) = 0xFFFF ↔
      hostU8 (icmpType.get packet) = 0 := by
  rw [icmpPart, drop_icmpType long] at request
  rw [icmpPart, drop_icmpReplyFrame first ours long, ipLen_icmpReplyFrame]
  cases size : be16 (ipLen.get packet) - ipHdrSize with
  -- An empty ICMP part does not check.
  | zero =>
    rw [size, List.take_zero] at request
    cases request
  | succ n =>
    -- The two messages differ in their first byte, and the sum notices unless both are zero.
    rw [size, List.take_succ_cons] at request
    rw [List.take_succ_cons]
    exact onesSum_cons_zero_iff request

/-! ## Runs -/

theorem isIp_congr {buf buf' : Bytes} (same : etherType.get buf' = etherType.get buf) :
    IsIp buf' ↔ IsIp buf := by
  rw [IsIp, same, IsIp]

theorem validSums_arpRequestFrame (iface : SrIf) (dst : Ip) (port : IfName) :
    ValidSums ⟨.sendArpRequest, arpRequestFrame iface dst, port⟩ := by
  apply validSums_of_header (by decide)
  intro ip
  rw [IsIp, etherType_arpRequestFrame] at ip
  exact absurd ip (by decide)

/-- Every packet that waits has a header that checks. -/
def checksums (sr : SrInstance) : Contract sr where
  keeps _ packet := ipHdrSum packet.buf = 0xFFFF
  sends := ValidSums
  flush _ kept mac := validSums_of_header (by decide) fun _ => (ipHdrSum_setDhost mac _).trans kept
  ask _ _ _ := validSums_arpRequestFrame _ _ _
  report waiting _ _ _ k := validSums_icmpErrorFrame _ _ _ (by simpa using waiting.long) _

theorem checksums_routes (header : ipHdrSum packet = 0xFFFF) :
    (checksums sr).Routes packet where
  forwards _ mac := validSums_of_header (by decide) fun _ =>
    (ipHdrSum_readdressed _ _ _).trans header
  queues _ := (ipHdrSum_readdressed _ _ _).trans header

theorem checksums_admits {s : RouterState} : (checksums sr).Admits s packet interface where
  arpRequest arp _ _ _ _ := validSums_of_header (by decide) fun ip =>
    absurd ((isIp_congr (etherType_arpReplyFrame _ _)).mp ip) arp.not_ip
  arpReply arp _ _ := .inr fun _ => validSums_of_header (by decide) fun ip => absurd ip arp.not_ip
  icmp _ _ long _ _ _ _ _ := validSums_of_header (by decide) fun _ =>
    ipHdrSum_withIpSum (by simpa using Nat.le_of_succ_le long)
  transport _ _ long _ _ := validSums_icmpErrorFrame _ _ _ (Nat.le_trans (by decide) long) _
  alive _ _ long _ _ := checksums_routes (ipHdrSum_withIpSum (by simpa using long))
  expired _ _ long _ _ _ _ := by
    have long : 34 ≤ packet.length := Nat.le_trans (by decide) long
    exact ⟨validSums_icmpErrorFrame _ _ _ (by simpa using long) _,
      checksums_routes (ipHdrSum_withIpSum (by simpa using long))⟩

/-- In every run the IP headers and the ICMP errors that are sent check. -/
theorem validSums_of_emits {c : Config RouterOp RouterOp.Resp RouterState}
    (reachable : Reachable sr c)
    {frame : SentFrame} (emits : (router sr).Emits c frame) : ValidSums frame :=
  (checksums sr).sends_of_emits (fun _ _ _ _ _ _ => checksums_admits) reachable emits

/-! ## Answers -/

/-- The frame brings the router an ICMP message, which the router answers. -/
structure IcmpToRouter (sr : SrInstance) (packet : Bytes) : Prop where
  ours : ForRouter sr packet
  ip : IsIp packet
  long : 35 ≤ packet.length
  valid : ValidIp packet
  destination : (checkInterface sr (ipDst.get packet)).isSome
  icmp : hostU8 (ipP.get packet) = ipProtocolIcmp

/-- The frame answers the packet: it is what `reply_to_icmp_request` makes of it. -/
structure Answers (sr : SrInstance) (packet : Bytes) (interface : IfName) (frame : SentFrame) :
    Prop where
  message : IcmpToRouter sr packet
  made : ∃ first ours, sr.ifList.head? = some first ∧
    checkInterface sr (ipDst.get packet) = some ours ∧
    frame = ⟨.replyToIcmpRequest, icmpReplyFrame first ours packet, interface⟩

/-- An ICMP message to the router is answered at once. -/
theorem exists_answer (message : IcmpToRouter sr packet) (s : RouterState) (interface : IfName) :
    ∃ frame, Answers sr packet interface frame ∧
      (router sr).Emits ⟨s, srHandlepacket sr packet interface⟩ frame := by
  obtain ⟨ours, destination⟩ := Option.isSome_iff_exists.mp message.destination
  have some : sr.ifList ≠ [] := List.ne_nil_of_mem (List.mem_of_find?_eq_some destination)
  obtain ⟨first, rest, list⟩ := List.exists_cons_of_ne_nil some
  have head : sr.ifList.head? = .some first := by rw [list, List.head?_cons]
  have notArp : ¬ IsArp packet := fun arp => arp.not_ip message.ip
  refine ⟨_, ⟨message, first, ours, head, destination, rfl⟩, ?_⟩
  rw [srHandlepacket_eq (Nat.le_trans (by decide) message.long) some, if_pos message.ours,
    if_neg notArp, if_pos message.ip,
    dealIp_of_icmp message.long message.valid destination message.icmp head]
  exact .op ⟨0, 0⟩ trivial (List.mem_singleton.mpr rfl)

/-- Nothing but an answer to the packet leaves as an echo reply. -/
def answering (sr : SrInstance) (packet : Bytes) (interface : IfName) : Contract sr where
  keeps _ _ := True
  sends frame := frame.sender = .replyToIcmpRequest → Answers sr packet interface frame
  flush _ _ _ := nofun
  ask _ _ _ := nofun
  report _ _ _ _ _ := nofun

theorem answering_admits {s : RouterState} (ours : ForRouter sr packet) :
    (answering sr packet interface).Admits s packet interface where
  arpRequest _ _ _ _ _ := nofun
  arpReply _ _ _ := .inr fun _ => nofun
  icmp ip valid long _ _ destination head icmp _ :=
    ⟨⟨ours, ip, long, valid, destination ▸ rfl, icmp⟩, _, _, head, destination, rfl⟩
  transport _ _ _ _ _ := nofun
  alive _ _ _ _ _ := ⟨fun _ _ => nofun, fun _ => trivial⟩
  expired _ _ _ _ _ _ _ := ⟨nofun, fun _ _ => nofun, fun _ => trivial⟩

/-- An echo reply that is sent while a frame is handled answers that frame. -/
theorem answers_of_handling {s : RouterState} (reachable : Reachable sr ⟨s, .done ()⟩)
    {c : Config RouterOp RouterOp.Resp RouterState} (handling : Handling sr s packet interface c)
    {frame : SentFrame} (emits : (router sr).Emits c frame)
    (reply : frame.sender = .replyToIcmpRequest) : Answers sr packet interface frame :=
  (answering sr packet interface).sends_of_handling (cacheInv_of_reachable reachable)
    answering_admits handling emits reply

/-- An ICMP message to the router whose own checksum is valid has type zero. -/
def EchoesCheck (sr : SrInstance) (packet : Bytes) : Prop :=
  IcmpToRouter sr packet → onesSum (icmpPart packet) = 0xFFFF → hostU8 (icmpType.get packet) = 0

/-- **Valid checksums.** In every run the IP headers and the ICMP errors that are sent
check. The echo replies that are sent while a frame is handled check, assuming that the
message they answer does, if and only if that message had type zero. -/
theorem validSums_and_echoes (sr : SrInstance) :
    (∀ c frame, Reachable sr c → (router sr).Emits c frame → ValidSums frame) ∧
      ∀ s packet interface, Reachable sr ⟨s, .done ()⟩ →
        ((∀ c frame, Handling sr s packet interface c → (router sr).Emits c frame →
            frame.sender = .replyToIcmpRequest → onesSum (icmpPart packet) = 0xFFFF →
            onesSum (icmpPart frame.buf) = 0xFFFF) ↔
          EchoesCheck sr packet) := by
  refine ⟨fun c frame reachable emits => validSums_of_emits reachable emits, ?_⟩
  intro s packet interface reachable
  constructor
  · intro replies message request
    -- The answer is the first thing that the handling of the message can emit.
    obtain ⟨frame, answer, emits⟩ := exists_answer message s interface
    obtain ⟨first, ours, -, -, made⟩ := answer.made
    have checks := replies _ frame .refl emits (by rw [made]) request
    rw [made] at checks
    exact (icmpSum_icmpReplyFrame_iff first ours message.long request).mp checks
  · intro echoes c frame handling emits reply request
    obtain ⟨message, first, ours, -, -, rfl⟩ := answers_of_handling reachable handling emits reply
    exact (icmpSum_icmpReplyFrame_iff first ours message.long request).mpr (echoes message request)

/-- An echo reply of the client to the router. -/
def clientPong : Bytes :=
  sampleDatagram sampleEth3.addr clientMac 64 ipProtocolIcmp clientIp sampleEth3.ip echoReply

theorem echoes_clientPong :
    ∀ c frame, Handling sampleInstance initially clientPong eth3 c →
      (router sampleInstance).Emits c frame → frame.sender = .replyToIcmpRequest →
      onesSum (icmpPart clientPong) = 0xFFFF → onesSum (icmpPart frame.buf) = 0xFFFF :=
  ((validSums_and_echoes sampleInstance).2 initially clientPong eth3 .refl).mpr
    fun _ _ => by decide

/-- An echo request of the client to the router. -/
def routerPing : Bytes :=
  sampleDatagram sampleEth3.addr clientMac 64 ipProtocolIcmp clientIp sampleEth3.ip echoRequest

/-- The reply to an echo request carries the checksum of the request. -/
theorem not_echoes_routerPing :
    onesSum (icmpPart routerPing) = 0xFFFF ∧ ∃ c frame,
      Handling sampleInstance initially routerPing eth3 c ∧ (router sampleInstance).Emits c frame ∧
        frame.sender = .replyToIcmpRequest ∧ onesSum (icmpPart frame.buf) ≠ 0xFFFF := by
  refine ⟨by decide, ?_⟩
  have message : IcmpToRouter sampleInstance routerPing := by
    constructor <;> decide +kernel
  obtain ⟨frame, answer, emits⟩ := exists_answer message initially eth3
  obtain ⟨first, ours, -, -, rfl⟩ := answer.made
  refine ⟨_, _, .refl, emits, rfl, ?_⟩
  rw [ne_eq, icmpSum_icmpReplyFrame_iff first ours message.long (by decide)]
  decide

end SimpleRouter
