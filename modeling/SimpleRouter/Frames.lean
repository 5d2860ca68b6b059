/-
# Checking and building frames

The functions of `sr_router.c` that look at one packet, rewrite it in place or
build a new frame, and hand at most one frame to `sr_send_packet`. None of them
touches the ARP cache.

A buffer that a function mutates is passed in and handed back. Each function has
one equation that says what it does to a long enough packet, in terms of the pure
reads and writes of fields; later modules use these equations and never unfold
the functions.
-/

import SimpleRouter.Checksum
import SimpleRouter.Topology

namespace SimpleRouter

open Buffers Effects

variable (sr : SrInstance)

/-! ## The functions -/

/-- `ip_hdr->ip_sum = 0x0; ip_hdr->ip_sum = cksum(ip_hdr, IP_HDR_SIZE);`, the pair
of statements that recomputes the header checksum wherever it is needed. -/
def redoIpSum (packet : Bytes) : Action Bytes := do
  let packet ← store ipSum #v[0, 0] packet
  let header ← load ipHdr packet
  store ipSum (hostBytes (cksum header.toList)) packet

/-- `validate_ip`: 1 for a valid packet and 0 otherwise, and the buffer, whose
checksum field has been recomputed. The length is compared as the host loads it,
without `ntohs`. -/
def validateIp (packet : Bytes) : Action (ℕ × Bytes) := do
  let len ← load ipLen packet
  if (hostU16 len).toNat < ipHdrSize then
    pure (0, packet)
  else
    let tmpSum ← load ipSum packet
    let packet ← redoIpSum packet
    let sum ← load ipSum packet
    if hostU16 tmpSum ≠ hostU16 sum then pure (0, packet) else pure (1, packet)

/-- `send_icmp_error`. The IP header of the error is made by rewriting the header
of the inbound packet in place, so the rewritten packet is handed back. -/
def sendIcmpError (packet : Bytes) (interface : IfName) (type code : UInt8) : Action Bytes := do
  let outPacket : Bytes := .replicate (ethHdrSize + ipHdrSize + icmpErrorHdrSize) 0
  -- ETHERNET
  let shost ← load etherShost packet
  let outPacket ← store etherDhost shost outPacket
  let outboundIf ← deref (srGetInterface sr interface)
  let outPacket ← store etherShost outboundIf.addr outPacket
  let ethertype ← load etherType packet
  let outPacket ← store etherType ethertype outPacket
  -- ICMP
  let outPacket ← store icmpType #v[type] outPacket
  let outPacket ← store icmpCode #v[code] outPacket
  let outPacket ← store icmpSum #v[0, 0] outPacket
  let outPacket ← store icmpUnused #v[0, 0] outPacket
  let outPacket ← store icmpNextMtu #v[0, 0] outPacket
  let quoted ← load ipQuoted packet
  let outPacket ← store icmpData quoted outPacket
  let message ← load icmpErrorHdr outPacket
  let outPacket ← store icmpSum (hostBytes (cksum message.toList)) outPacket
  -- IP
  let packet ← store ipTtl #v[64] packet
  let packet ← store ipP #v[ipProtocolIcmp] packet
  let src ← load ipSrc packet
  let packet ← store ipDst src packet
  let packet ← store ipSrc outboundIf.ip packet
  let packet ← store ipLen (hostBytes (htons (.ofNat (ipHdrSize + icmpErrorHdrSize)))) packet
  let packet ← redoIpSum packet
  let header ← load ipHdr packet
  let outPacket ← store ipHdr header outPacket
  srSendPacket .sendIcmpError outPacket interface
  pure packet

/-- `send_arp_request`: ask, on the named interface, for the destination of the
IP packet. Every byte of the `malloc`ed buffer is written. -/
def sendArpRequest (packet : Bytes) (ifName : IfName) : Action Unit := do
  let byeface ← deref (srGetInterface sr ifName)
  let buf : Bytes := .replicate (ethHdrSize + arpHdrSize) 0
  -- ETHERNET HEADER TO SEND
  let buf ← store etherShost byeface.addr buf
  let buf ← store etherDhost breadcast buf
  let buf ← store etherType (hostBytes (htons ethertypeArp)) buf
  -- ARP HEADER TO SEND
  let buf ← store arSha byeface.addr buf
  let buf ← store arTha breadcast buf
  let buf ← store arHrd (hostBytes (htons arpHrdEthernet)) buf
  let buf ← store arPro (hostBytes (htons ethertypeIp)) buf
  let buf ← store arHln #v[6] buf
  let buf ← store arPln #v[4] buf
  let buf ← store arOp (hostBytes (htons arpOpRequest)) buf
  let buf ← store arSip byeface.ip buf
  let dst ← load ipDst packet
  let buf ← store arTip dst buf
  srSendPacket .sendArpRequest buf byeface.name

/-- `reply_to_icmp_request`. The Ethernet source is the address of the first
interface of the list, and the ICMP checksum is left as it came. -/
def replyToIcmpRequest (packet : Bytes) (interface : IfName) (requestedInterface : SrIf) :
    Action Unit := do
  let shost ← load etherShost packet
  let packet ← store etherDhost shost packet
  let first ← deref sr.ifList.head?
  let packet ← store etherShost first.addr packet
  let packet ← store etherType (hostBytes (htons ethertypeIp)) packet
  let src ← load ipSrc packet
  let packet ← store ipDst src packet
  let packet ← store ipSrc requestedInterface.ip packet
  let packet ← store icmpType #v[0] packet
  let packet ← redoIpSum packet
  srSendPacket .replyToIcmpRequest packet interface

/-- `reply_to_arp_request`: turn the request into its reply and send it back. -/
def replyToArpRequest (packet : Bytes) (interface : IfName) : Action Unit := do
  let shost ← load etherShost packet
  let packet ← store etherDhost shost packet
  let packet ← store arTha shost packet
  let tmpIp ← load arTip packet
  let sip ← load arSip packet
  let packet ← store arTip sip packet
  let packet ← store arSip tmpIp packet
  let inboundIf ← deref (srGetInterface sr interface)
  let packet ← store etherShost inboundIf.addr packet
  let packet ← store arSha inboundIf.addr packet
  let packet ← store arOp (hostBytes (htons arpOpReply)) packet
  srSendPacket .replyToArpRequest packet interface

/-! ## The frames they build -/

/-- The packet with its IP header checksum recomputed. -/
def withIpSum (packet : Bytes) : Bytes :=
  ipSum.set (hostBytes (cksum (ipHdr.get (ipSum.set #v[0, 0] packet)).toList)) packet

/-- What `send_icmp_error` makes of the inbound packet. -/
def icmpErrorInbound (outboundIf : SrIf) (packet : Bytes) : Bytes :=
  withIpSum (ipLen.set #v[0, 56] (ipSrc.set outboundIf.ip (ipDst.set (ipSrc.get packet)
    (ipP.set #v[ipProtocolIcmp] (ipTtl.set #v[64] packet)))))

/-- The ICMP error before its checksum and its IP header are filled in. -/
def icmpErrorMessage (outboundIf : SrIf) (type code : UInt8) (packet : Bytes) : Bytes :=
  icmpData.set (ipQuoted.get packet) (icmpNextMtu.set #v[0, 0] (icmpUnused.set #v[0, 0]
    (icmpSum.set #v[0, 0] (icmpCode.set #v[code] (icmpType.set #v[type]
      (etherType.set (etherType.get packet) (etherShost.set outboundIf.addr
        (etherDhost.set (etherShost.get packet) (.replicate 70 0)))))))))

/-- The frame `send_icmp_error` sends about the packet. -/
def icmpErrorFrame (outboundIf : SrIf) (type code : UInt8) (packet : Bytes) : Bytes :=
  let message := icmpErrorMessage outboundIf type code packet
  ipHdr.set (ipHdr.get (icmpErrorInbound outboundIf packet))
    (icmpSum.set (hostBytes (cksum (icmpErrorHdr.get message).toList)) message)

/-- The frame `send_arp_request` sends for an address. -/
def arpRequestFrame (byeface : SrIf) (dst : Ip) : Bytes :=
  arTip.set dst (arSip.set byeface.ip (arOp.set #v[0, 1] (arPln.set #v[4] (arHln.set #v[6]
    (arPro.set #v[8, 0] (arHrd.set #v[0, 1] (arTha.set breadcast (arSha.set byeface.addr
      (etherType.set #v[8, 6] (etherDhost.set breadcast (etherShost.set byeface.addr
        (.replicate 42 0))))))))))))

/-- The frame `reply_to_icmp_request` sends in answer to the packet. -/
def icmpReplyFrame (first requestedInterface : SrIf) (packet : Bytes) : Bytes :=
  withIpSum (icmpType.set #v[0] (ipSrc.set requestedInterface.ip (ipDst.set (ipSrc.get packet)
    (etherType.set #v[8, 0] (etherShost.set first.addr
      (etherDhost.set (etherShost.get packet) packet))))))

/-- The frame `reply_to_arp_request` sends in answer to the packet. -/
def arpReplyFrame (inboundIf : SrIf) (packet : Bytes) : Bytes :=
  arOp.set #v[0, 2] (arSha.set inboundIf.addr (etherShost.set inboundIf.addr
    (arSip.set (arTip.get packet) (arTip.set (arSip.get packet) (arTha.set (etherShost.get packet)
      (etherDhost.set (etherShost.get packet) packet))))))

@[simp] theorem length_withIpSum (packet : Bytes) : (withIpSum packet).length = packet.length := by
  simp [withIpSum]

@[simp] theorem length_icmpErrorInbound (outboundIf : SrIf) (packet : Bytes) :
    (icmpErrorInbound outboundIf packet).length = packet.length := by
  simp [icmpErrorInbound]

@[simp] theorem length_icmpErrorMessage (outboundIf : SrIf) (type code : UInt8) (packet : Bytes) :
    (icmpErrorMessage outboundIf type code packet).length = 70 := by
  simp [icmpErrorMessage]

@[simp] theorem length_icmpErrorFrame (outboundIf : SrIf) (type code : UInt8) (packet : Bytes) :
    (icmpErrorFrame outboundIf type code packet).length = 70 := by
  simp [icmpErrorFrame]

/-- An IP packet of 28 bytes in a frame. -/
def sampleDatagram (dhost shost : Mac) (ttl protocol : UInt8) (src dst : Ip)
    (payload : Vector UInt8 8) : Bytes :=
  withIpSum (dhost.toList ++ shost.toList ++ [8, 0] ++
    [0x45, 0, 0, 28, 0, 0, 0, 0, ttl, protocol, 0, 0] ++ src.toList ++ dst.toList ++ payload.toList)

/-- An ICMP echo request without data, and the reply to it. -/
def echoRequest : Vector UInt8 8 := #v[8, 0, 0xF7, 0xFF, 0, 0, 0, 0]
def echoReply : Vector UInt8 8 := #v[0, 0, 0xFF, 0xFF, 0, 0, 0, 0]

/-- An ARP packet in a frame. -/
def sampleArp (dhost : Mac) (op : UInt8) (sha : Mac) (sip : Ip) (tha : Mac) (tip : Ip) : Bytes :=
  dhost.toList ++ sha.toList ++ [8, 6] ++ [0, 1, 8, 0, 6, 4, 0, op] ++ sha.toList ++ sip.toList ++
    tha.toList ++ tip.toList

/-- An ARP request asks for its address. -/
theorem arTip_arpRequestFrame (byeface : SrIf) (dst : Ip) :
    arTip.get (arpRequestFrame byeface dst) = dst := by
  rw [arpRequestFrame, Span.get_set_self]
  simp only [Span.fits_set]
  decide

theorem etherType_arpRequestFrame (byeface : SrIf) (dst : Ip) :
    etherType.get (arpRequestFrame byeface dst) = #v[8, 6] := by
  simp (disch := decide) only [arpRequestFrame, Span.get_set_of_disjoint]
  rw [Span.get_set_self]
  simp only [Span.fits_set]
  decide

theorem etherType_arpReplyFrame (inboundIf : SrIf) (packet : Bytes) :
    etherType.get (arpReplyFrame inboundIf packet) = etherType.get packet := by
  simp (disch := decide) only [arpReplyFrame, Span.get_set_of_disjoint]

/-! Every frame has the source address its function gave it. -/

theorem shost_arpRequestFrame (byeface : SrIf) (dst : Ip) :
    etherShost.get (arpRequestFrame byeface dst) = byeface.addr := by
  simp (disch := decide) only [arpRequestFrame, Span.get_set_of_disjoint]
  exact Span.get_set_self _ (by decide)

theorem shost_icmpErrorFrame (outboundIf : SrIf) (type code : UInt8) (packet : Bytes) :
    etherShost.get (icmpErrorFrame outboundIf type code packet) = outboundIf.addr := by
  simp (disch := decide) only [icmpErrorFrame, icmpErrorMessage, Span.get_set_of_disjoint]
  apply Span.get_set_self
  simp only [Span.fits_set]
  decide

/-- An ICMP error goes back to the Ethernet source of the packet it is about. -/
theorem dhost_icmpErrorFrame (outboundIf : SrIf) (type code : UInt8) (packet : Bytes) :
    etherDhost.get (icmpErrorFrame outboundIf type code packet) = etherShost.get packet := by
  simp (disch := decide) only [icmpErrorFrame, icmpErrorMessage, Span.get_set_of_disjoint]
  exact Span.get_set_self _ (by decide)

theorem shost_arpReplyFrame (inboundIf : SrIf) {packet : Bytes} (long : 12 ≤ packet.length) :
    etherShost.get (arpReplyFrame inboundIf packet) = inboundIf.addr := by
  simp (disch := decide) only [arpReplyFrame, Span.get_set_of_disjoint]
  apply Span.get_set_self
  simp only [Span.fits_set]
  exact fits_of_le long (by decide)

theorem shost_icmpReplyFrame (first requestedInterface : SrIf) {packet : Bytes}
    (long : 12 ≤ packet.length) :
    etherShost.get (icmpReplyFrame first requestedInterface packet) = first.addr := by
  simp (disch := decide) only [icmpReplyFrame, withIpSum, Span.get_set_of_disjoint]
  apply Span.get_set_self
  simp only [Span.fits_set]
  exact fits_of_le long (by decide)

/-- Recomputing the checksum changes the checksum only. -/
theorem get_withIpSum {n : ℕ} {f : Span n} (clear : f.Disjoint ipSum) (packet : Bytes) :
    f.get (withIpSum packet) = f.get packet :=
  Span.get_set_of_disjoint clear _ _

/-- The IP header of an ICMP error is that of the rewritten packet. -/
theorem get_icmpErrorFrame {n : ℕ} {f : Span n} (within : f.Within ipHdr) (outboundIf : SrIf)
    (type code : UInt8) (packet : Bytes) :
    f.get (icmpErrorFrame outboundIf type code packet) =
      f.get (icmpErrorInbound outboundIf packet) := by
  have fits : ipHdr.Fits (icmpSum.set (hostBytes (cksum (icmpErrorHdr.get
      (icmpErrorMessage outboundIf type code packet)).toList))
      (icmpErrorMessage outboundIf type code packet)) := by
    simp [Span.Fits, ipHdr, ethHdrSize]
  exact Span.get_set_get_of_within within fits _

/-- It is addressed to the source of the packet. -/
theorem dst_icmpErrorFrame (outboundIf : SrIf) (type code : UInt8) {packet : Bytes}
    (long : 34 ≤ packet.length) :
    ipDst.get (icmpErrorFrame outboundIf type code packet) = ipSrc.get packet := by
  rw [get_icmpErrorFrame (by decide), icmpErrorInbound, get_withIpSum (by decide),
    Span.get_set_of_disjoint (by decide), Span.get_set_of_disjoint (by decide), Span.get_set_self]
  simpa using fits_of_le long (by decide)

/-- The rewritten packet comes from the router. -/
theorem src_icmpErrorInbound (outboundIf : SrIf) {packet : Bytes} (long : 34 ≤ packet.length) :
    ipSrc.get (icmpErrorInbound outboundIf packet) = outboundIf.ip := by
  rw [icmpErrorInbound, get_withIpSum (by decide), Span.get_set_of_disjoint (by decide),
    Span.get_set_self]
  simpa using fits_of_le long (by decide)

/-- Its Ethernet source is left as it was. -/
theorem shost_icmpErrorInbound (outboundIf : SrIf) (packet : Bytes) :
    etherShost.get (icmpErrorInbound outboundIf packet) = etherShost.get packet := by
  simp (disch := decide) only [icmpErrorInbound, withIpSum, Span.get_set_of_disjoint]

variable {sr} {packet : Bytes} {interface : IfName}

/-! ## What the functions compute -/

theorem redoIpSum_eq (long : 34 ≤ packet.length) : redoIpSum packet = pure (withIpSum packet) := by
  rw [redoIpSum, store_of_fits (fits_of_le long (by decide)), pure_bind,
    load_of_fits (by simpa using fits_of_le long (by decide)), pure_bind,
    store_of_fits (by simpa using fits_of_le long (by decide)), Span.set_set_self, withIpSum]

/-- The header of the packet passes `validate_ip`. -/
def ValidIp (packet : Bytes) : Prop :=
  ipHdrSize ≤ (hostU16 (ipLen.get packet)).toNat ∧
    ipSum.get (withIpSum packet) = ipSum.get packet

instance : Decidable (ValidIp packet) := inferInstanceAs (Decidable (_ ∧ _))

/-- A valid packet goes through `validate_ip` unchanged, byte for byte. -/
theorem withIpSum_of_valid (long : 34 ≤ packet.length) (valid : ValidIp packet) :
    withIpSum packet = packet := by
  have kept := valid.2
  rw [withIpSum, Span.get_set_self _ (fits_of_le long (by decide))] at kept
  rw [withIpSum, kept, Span.set_get_self]

theorem validateIp_of_valid (long : 34 ≤ packet.length) (valid : ValidIp packet) :
    validateIp packet = pure (1, packet) := by
  rw [validateIp, load_of_fits (fits_of_le long (by decide)), pure_bind,
    if_neg (by simpa using valid.1), load_of_fits (fits_of_le long (by decide)), pure_bind,
    redoIpSum_eq long, pure_bind, withIpSum_of_valid long valid,
    load_of_fits (fits_of_le long (by decide)), pure_bind]
  simp

/-- A packet that is not valid is reported as such. -/
theorem validateIp_of_not_valid (long : 34 ≤ packet.length) (invalid : ¬ ValidIp packet) :
    ∃ packet', validateIp packet = pure (0, packet') := by
  rw [validateIp, load_of_fits (fits_of_le long (by decide)), pure_bind]
  by_cases short : (hostU16 (ipLen.get packet)).toNat < ipHdrSize
  · exact ⟨packet, if_pos short⟩
  · have differs : ipSum.get packet ≠ ipSum.get (withIpSum packet) := fun same =>
      invalid ⟨by simpa using short, same.symm⟩
    -- The sums are compared as host integers, which differ when their bytes do.
    have differs' : hostU16 (ipSum.get packet) ≠ hostU16 (ipSum.get (withIpSum packet)) := by
      intro same
      have bytes := congrArg hostBytes same
      simp only [hostBytes_hostU16] at bytes
      exact differs bytes
    refine ⟨withIpSum packet, ?_⟩
    rw [if_neg short, load_of_fits (fits_of_le long (by decide)), pure_bind, redoIpSum_eq long,
      pure_bind, load_of_fits (by simpa [Span.Fits] using fits_of_le long (by decide)), pure_bind,
      if_pos differs']

theorem hostBytes_htons_errorLen :
    hostBytes (htons (.ofNat (ipHdrSize + icmpErrorHdrSize))) = #v[0, 56] := by decide

/-- `send_icmp_error` about a packet of at least 28 IP bytes sends one frame. -/
theorem sendIcmpError_eq (long : 42 ≤ packet.length) {outboundIf : SrIf}
    (found : srGetInterface sr interface = some outboundIf) (type code : UInt8) :
    sendIcmpError sr packet interface type code =
      .returned [⟨.sendIcmpError, icmpErrorFrame outboundIf type code packet, interface⟩]
        (icmpErrorInbound outboundIf packet) := by
  have inbound {n : ℕ} {f : Span n} (within : f.off + n ≤ 42) : f.Fits packet :=
    fits_of_le long within
  have outbound {n : ℕ} {f : Span n} (within : f.off + n ≤ 70) :
      f.Fits (List.replicate 70 (0 : UInt8)) := fits_of_le (by simp) within
  have size : ethHdrSize + ipHdrSize + icmpErrorHdrSize = 70 := rfl
  -- The source is read after two fields of the header have been overwritten.
  have src (v w : Vector UInt8 1) :
      ipSrc.get (ipP.set v (ipTtl.set w packet)) = ipSrc.get packet := by
    simp (disch := decide) only [Span.get_set_of_disjoint]
  unfold sendIcmpError
  -- Every access is in bounds: of the inbound packet by its length, of the
  -- outbound one because it has 70 bytes.
  simp (disch := first
    | exact inbound (by decide)
    | (simp only [Span.fits_set]; exact inbound (by decide))
    | exact outbound (by decide)
    | (simp only [Span.fits_set]; exact outbound (by decide))
    | (simp only [Span.length_set]; omega)
    | (simp only [Span.Fits, length_withIpSum, Span.length_set, ipHdr, ethHdrSize]; omega)) only
    [size, found, deref_some, load_of_fits, store_of_fits, pure_bind, redoIpSum_eq,
      hostBytes_htons_errorLen]
  rw [src, srSendPacket, Outcome.emit, Outcome.returned_bind]
  rfl

/-- About a shorter packet it reads past the end of the buffer. -/
theorem sendIcmpError_short (short : packet.length < 42) {outboundIf : SrIf}
    (found : srGetInterface sr interface = some outboundIf) (type code : UInt8) :
    sendIcmpError sr packet interface type code = fail .outOfBounds := by
  -- The quotation is what reaches furthest into the packet.
  have tooShort : ¬ ipQuoted.Fits packet := Nat.not_le_of_lt short
  unfold sendIcmpError
  refine load_bind_eq_fail fun _ => store_bind_eq_fail fun _ => ?_
  rw [found, deref_some, pure_bind]
  refine store_bind_eq_fail fun _ => load_bind_eq_fail fun _ => store_bind_eq_fail fun _ => ?_
  refine store_bind_eq_fail fun _ => store_bind_eq_fail fun _ => store_bind_eq_fail fun _ => ?_
  refine store_bind_eq_fail fun _ => store_bind_eq_fail fun _ => load_bind_eq_fail fun fits => ?_
  exact absurd fits tooShort

/-- Without the interface `send_icmp_error` dereferences null. -/
theorem sendIcmpError_faults
    (unfit : ¬ (42 ≤ packet.length ∧ (srGetInterface sr interface).isSome)) (type code : UInt8) :
    Faults (sendIcmpError sr packet interface type code) := by
  cases found : srGetInterface sr interface with
  | none =>
    unfold sendIcmpError
    refine faults_load_bind fun _ => faults_store_bind fun _ => ?_
    rw [found]
    exact (faults_fail _).bind _
  | some outboundIf =>
    have short : packet.length < 42 := Nat.lt_of_not_le fun long => unfit ⟨long, found ▸ rfl⟩
    exact ⟨_, sendIcmpError_short short found type code⟩

/-- `send_arp_request` asks for the destination of the packet. -/
theorem sendArpRequest_eq (long : 34 ≤ packet.length) {byeface : SrIf}
    (found : srGetInterface sr interface = some byeface) :
    sendArpRequest sr packet interface =
      .returned [⟨.sendArpRequest, arpRequestFrame byeface (ipDst.get packet), interface⟩] () := by
  have inbound {n : ℕ} {f : Span n} (within : f.off + n ≤ 34) : f.Fits packet :=
    fits_of_le long within
  have outbound {n : ℕ} {f : Span n} (within : f.off + n ≤ 42) :
      f.Fits (List.replicate 42 (0 : UInt8)) := fits_of_le (by simp) within
  have size : ethHdrSize + arpHdrSize = 42 := rfl
  have ethertype : hostBytes (htons ethertypeArp) = #v[8, 6] := by decide
  have hardware : hostBytes (htons arpHrdEthernet) = #v[0, 1] := by decide
  have protocol : hostBytes (htons ethertypeIp) = #v[8, 0] := by decide
  have opcode : hostBytes (htons arpOpRequest) = #v[0, 1] := by decide
  unfold sendArpRequest
  simp (disch := first
    | exact inbound (by decide)
    | exact outbound (by decide)
    | (simp only [Span.fits_set]; exact outbound (by decide))) only
    [size, found, deref_some, load_of_fits, store_of_fits, pure_bind, ethertype, hardware,
      protocol, opcode, name_of_srGetInterface found]
  rfl

/-- `reply_to_icmp_request` answers any ICMP message. -/
theorem replyToIcmpRequest_eq (long : 35 ≤ packet.length) {first : SrIf}
    (head : sr.ifList.head? = some first) (requestedInterface : SrIf) :
    replyToIcmpRequest sr packet interface requestedInterface =
      .returned [⟨.replyToIcmpRequest, icmpReplyFrame first requestedInterface packet,
        interface⟩] () := by
  have inbound {n : ℕ} {f : Span n} (within : f.off + n ≤ 35) : f.Fits packet :=
    fits_of_le long within
  have ethertype : hostBytes (htons ethertypeIp) = #v[8, 0] := by decide
  -- The Ethernet header has been rewritten when the source is read.
  have src (t : Vector UInt8 2) (m w : Mac) :
      ipSrc.get (etherType.set t (etherShost.set m (etherDhost.set w packet))) =
        ipSrc.get packet := by
    simp (disch := decide) only [Span.get_set_of_disjoint]
  unfold replyToIcmpRequest
  simp (disch := first
    | exact inbound (by decide)
    | (simp only [Span.fits_set]; exact inbound (by decide))
    | (simp only [Span.length_set]; omega)) only
    [head, deref_some, load_of_fits, store_of_fits, pure_bind, redoIpSum_eq, ethertype, src]
  rfl

/-- `reply_to_arp_request` answers with the address of the receiving interface. -/
theorem replyToArpRequest_eq (long : 42 ≤ packet.length) {inboundIf : SrIf}
    (found : srGetInterface sr interface = some inboundIf) :
    replyToArpRequest sr packet interface =
      .returned [⟨.replyToArpRequest, arpReplyFrame inboundIf packet, interface⟩] () := by
  have inbound {n : ℕ} {f : Span n} (within : f.off + n ≤ 42) : f.Fits packet :=
    fits_of_le long within
  have opcode : hostBytes (htons arpOpReply) = #v[0, 2] := by decide
  have tip (m w : Mac) :
      arTip.get (arTha.set m (etherDhost.set w packet)) = arTip.get packet := by
    simp (disch := decide) only [Span.get_set_of_disjoint]
  have sip (m w : Mac) :
      arSip.get (arTha.set m (etherDhost.set w packet)) = arSip.get packet := by
    simp (disch := decide) only [Span.get_set_of_disjoint]
  unfold replyToArpRequest
  simp (disch := first
    | exact inbound (by decide)
    | (simp only [Span.fits_set]; exact inbound (by decide))) only
    [found, deref_some, load_of_fits, store_of_fits, pure_bind, opcode, tip, sip]
  rfl

/-- An ARP header that is cut off is read past its end. -/
theorem replyToArpRequest_short (short : packet.length < 42) :
    replyToArpRequest sr packet interface = fail .outOfBounds := by
  unfold replyToArpRequest
  refine load_bind_eq_fail fun _ => store_bind_eq_fail fun _ => store_bind_eq_fail fun _ => ?_
  refine load_bind_eq_fail fun fits => ?_
  -- The target address is the last field, so the header is whole.
  have inside : arTip.Fits packet := by simpa only [Span.fits_set] using fits
  exact absurd inside (Nat.not_le_of_lt short)

theorem replyToArpRequest_faults
    (unfit : ¬ (42 ≤ packet.length ∧ (srGetInterface sr interface).isSome)) :
    Faults (replyToArpRequest sr packet interface) := by
  by_cases short : packet.length < 42
  · exact ⟨_, replyToArpRequest_short short⟩
  have missing : srGetInterface sr interface = none := by
    rw [← Option.not_isSome_iff_eq_none]
    exact fun found => unfit ⟨Nat.le_of_not_lt short, found⟩
  unfold replyToArpRequest
  refine faults_load_bind fun _ => faults_store_bind fun _ => faults_store_bind fun _ => ?_
  refine faults_load_bind fun _ => faults_load_bind fun _ => faults_store_bind fun _ => ?_
  refine faults_store_bind fun _ => ?_
  rw [missing]
  exact (faults_fail _).bind _

/-- An ICMP header that is missing is written past the end of the buffer. -/
theorem replyToIcmpRequest_short (short : packet.length < 35) {first : SrIf}
    (head : sr.ifList.head? = some first) (requestedInterface : SrIf) :
    replyToIcmpRequest sr packet interface requestedInterface = fail .outOfBounds := by
  unfold replyToIcmpRequest
  refine load_bind_eq_fail fun _ => store_bind_eq_fail fun _ => ?_
  rw [head, deref_some, pure_bind]
  refine store_bind_eq_fail fun _ => store_bind_eq_fail fun _ => load_bind_eq_fail fun _ => ?_
  refine store_bind_eq_fail fun _ => store_bind_eq_fail fun _ => store_bind_eq_fail fun fits => ?_
  have inside : icmpType.Fits packet := by simpa only [Span.fits_set] using fits
  exact absurd inside (Nat.not_le_of_lt short)

theorem replyToIcmpRequest_faults (short : packet.length < 35) (requestedInterface : SrIf) :
    Faults (replyToIcmpRequest sr packet interface requestedInterface) := by
  cases head : sr.ifList.head? with
  | none =>
    unfold replyToIcmpRequest
    refine faults_load_bind fun _ => faults_store_bind fun _ => ?_
    rw [head]
    exact (faults_fail _).bind _
  | some first => exact ⟨_, replyToIcmpRequest_short short head requestedInterface⟩

end SimpleRouter
