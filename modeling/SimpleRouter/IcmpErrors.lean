/-
# ICMP errors about any datagram

An ICMP error is a datagram of its own: no fragment, without options, and with the first 28
bytes of the datagram that it is about.

`send_icmp_error` writes the header of the error over the header of the datagram. The version,
the header length, the fragment offset and the flags are not written, so the error has those of
the datagram.
-/

import SimpleRouter.HeaderCheck
import SimpleRouter.ValidChecksums

namespace SimpleRouter

open Buffers Effects

variable {sr : SrInstance} {packet : Bytes} {interface : IfName}

/-! ## What is asked of the code -/

/-- The first byte of the IP header, `ip_v` and `ip_hl`. -/
def ipVHl : Span 1 := ⟨ethHdrSize⟩

def ipOff : Span 2 := ⟨ethHdrSize + 6⟩

/-- `ip_v`, the high half of the first byte. -/
def ipV (packet : Bytes) : ℕ := (hostU8 (ipVHl.get packet)).toNat / 16

/-- `ntohs(ip_off) & IP_OFFMASK`. -/
def fragmentOffset (packet : Bytes) : ℕ := be16 (ipOff.get packet) % 0x2000

/-- `ntohs(ip_off) & IP_MF` is set. -/
def MoreFragments (packet : Bytes) : Prop := be16 (ipOff.get packet) / 0x2000 % 2 = 1

instance : Decidable (MoreFragments packet) := inferInstanceAs (Decidable (_ = _))

/-- The frame is an ICMP error about the packet, sent from the interface. -/
structure IsErrorAbout (packet : Bytes) (iface : SrIf) (type code : UInt8) (frame : SentFrame) :
    Prop where
  outbound : frame.iface = iface.name
  length : frame.buf.length = 70
  version : ipV frame.buf = 4
  words : ipHl frame.buf = 5
  totalLength : totalLength frame.buf = 56
  offset : fragmentOffset frame.buf = 0
  last : ¬ MoreFragments frame.buf
  protocol : hostU8 (ipP.get frame.buf) = ipProtocolIcmp
  src : ipSrc.get frame.buf = iface.ip
  dst : ipDst.get frame.buf = ipSrc.get packet
  type : hostU8 (icmpType.get frame.buf) = type
  code : hostU8 (icmpCode.get frame.buf) = code
  quoted : (icmpData.get frame.buf).toList = (packet.drop ethHdrSize).take 28

/-- `send_icmp_error` sends one such frame and returns. -/
def SendsError (sr : SrInstance) (packet : Bytes) (interface : IfName) (iface : SrIf)
    (type code : UInt8) : Prop :=
  ∃ frame packet', sendIcmpError sr packet interface type code = .returned [frame] packet' ∧
    IsErrorAbout packet iface type code frame

/-! ## When the code does it -/

/-- The packet is a whole datagram of version 4 without options. -/
structure PlainHeader (packet : Bytes) : Prop where
  version : ipV packet = 4
  words : ipHl packet = 5
  offset : fragmentOffset packet = 0
  last : ¬ MoreFragments packet

/-! ## The frame -/

section Frame

variable (iface : SrIf) (type code : UInt8)

/-- What it does not write is copied. -/
theorem get_icmpErrorFrame_of_clear {n : ℕ} {f : Span n} (within : f.Within ipHdr)
    (len : f.Disjoint ipLen) (ttl : f.Disjoint ipTtl) (p : f.Disjoint ipP)
    (sum : f.Disjoint ipSum) (src : f.Disjoint ipSrc) (dst : f.Disjoint ipDst) :
    f.get (icmpErrorFrame iface type code packet) = f.get packet := by
  rw [get_icmpErrorFrame within, icmpErrorInbound, get_withIpSum sum,
    Span.get_set_of_disjoint len, Span.get_set_of_disjoint src, Span.get_set_of_disjoint dst,
    Span.get_set_of_disjoint p, Span.get_set_of_disjoint ttl]

theorem ipVHl_icmpErrorFrame :
    ipVHl.get (icmpErrorFrame iface type code packet) = ipVHl.get packet :=
  get_icmpErrorFrame_of_clear iface type code (by decide) (by decide) (by decide) (by decide)
    (by decide) (by decide) (by decide)

theorem ipOff_icmpErrorFrame :
    ipOff.get (icmpErrorFrame iface type code packet) = ipOff.get packet :=
  get_icmpErrorFrame_of_clear iface type code (by decide) (by decide) (by decide) (by decide)
    (by decide) (by decide) (by decide)

theorem ipP_icmpErrorFrame (long : 34 ≤ packet.length) :
    ipP.get (icmpErrorFrame iface type code packet) = #v[ipProtocolIcmp] := by
  rw [get_icmpErrorFrame (by decide), icmpErrorInbound]
  simp (disch := decide) only [get_withIpSum, Span.get_set_of_disjoint]
  apply Span.get_set_self
  simp only [Span.fits_set]
  exact fits_of_le long (by decide)

theorem icmpType_icmpErrorFrame :
    icmpType.get (icmpErrorFrame iface type code packet) = #v[type] := by
  simp (disch := decide) only [icmpErrorFrame, icmpErrorMessage, Span.get_set_of_disjoint]
  apply Span.get_set_self
  simp only [Span.fits_set]
  decide

theorem icmpCode_icmpErrorFrame :
    icmpCode.get (icmpErrorFrame iface type code packet) = #v[code] := by
  simp (disch := decide) only [icmpErrorFrame, icmpErrorMessage, Span.get_set_of_disjoint]
  apply Span.get_set_self
  simp only [Span.fits_set]
  decide

theorem icmpData_icmpErrorFrame :
    icmpData.get (icmpErrorFrame iface type code packet) = ipQuoted.get packet := by
  simp (disch := decide) only [icmpErrorFrame, icmpErrorMessage, Span.get_set_of_disjoint]
  apply Span.get_set_self
  simp only [Span.fits_set]
  decide

/-- The header of the error is right if the header of the packet is plain, and the rest of it
always is. -/
theorem isErrorAbout_iff_plainHeader (long : 42 ≤ packet.length) (sender : Sender) {buf : Bytes}
    (sent : buf = icmpErrorFrame iface type code packet) :
    IsErrorAbout packet iface type code ⟨sender, buf, iface.name⟩ ↔ PlainHeader packet := by
  have version : ipV buf = ipV packet := by
    rw [ipV, ipV, sent, ipVHl_icmpErrorFrame]
  have words : ipHl buf = ipHl packet := by
    have first : ipVHl.get (icmpErrorFrame iface type code packet) = ipVHl.get packet :=
      ipVHl_icmpErrorFrame iface type code
    rw [ipVHl] at first
    rw [ipHl, ipHl, sent, first]
  have offset : fragmentOffset buf = fragmentOffset packet := by
    rw [fragmentOffset, fragmentOffset, sent, ipOff_icmpErrorFrame]
  have last : MoreFragments buf ↔ MoreFragments packet := by
    rw [MoreFragments, MoreFragments, sent, ipOff_icmpErrorFrame]
  constructor
  · intro about
    exact ⟨version.symm.trans about.version, words.symm.trans about.words,
      offset.symm.trans about.offset, fun more => about.last (last.mpr more)⟩
  · intro plain
    have header : 34 ≤ packet.length := by omega
    refine ⟨rfl, ?_, version.trans plain.version, words.trans plain.words, ?_,
      offset.trans plain.offset, fun more => plain.last (last.mp more), ?_, ?_, ?_, ?_, ?_, ?_⟩
    all_goals simp only [sent]
    · exact length_icmpErrorFrame ..
    · rw [totalLength, ipLen_icmpErrorFrame iface type code header]
      decide
    · rw [ipP_icmpErrorFrame iface type code header, hostU8_mk]
    · rw [get_icmpErrorFrame (by decide), src_icmpErrorInbound iface header]
    · exact dst_icmpErrorFrame iface type code header
    · rw [icmpType_icmpErrorFrame, hostU8_mk]
    · rw [icmpCode_icmpErrorFrame, hostU8_mk]
    · rw [icmpData_icmpErrorFrame, Span.toList_get (f := ipQuoted) (fits_of_le long (by decide))]
      rfl

end Frame

/-! ## What the code does -/

theorem sendsError_iff_of_long {iface : SrIf} (long : 42 ≤ packet.length)
    (listed : srGetInterface sr interface = some iface) (type code : UInt8) :
    SendsError sr packet interface iface type code ↔ PlainHeader packet := by
  obtain rfl := name_of_srGetInterface listed
  have sends := sendIcmpError_eq long listed type code
  have plainIff := isErrorAbout_iff_plainHeader iface type code long .sendIcmpError rfl
  constructor
  · rintro ⟨frame, packet', returns, about⟩
    rw [sends] at returns
    cases returns
    exact plainIff.mp about
  · intro plain
    exact ⟨_, _, sends, plainIff.mpr plain⟩

/-- The error about a packet is right if and only if the packet holds what is quoted of it and is
a whole datagram without options. -/
theorem sendsError_iff_plainHeader {iface : SrIf}
    (listed : srGetInterface sr interface = some iface) (type code : UInt8) :
    SendsError sr packet interface iface type code ↔
      ethHdrSize + 28 ≤ packet.length ∧ PlainHeader packet := by
  by_cases long : 42 ≤ packet.length
  · rw [sendsError_iff_of_long long listed]
    exact ⟨fun plain => ⟨long, plain⟩, And.right⟩
  · refine iff_of_false ?_ fun holds => long holds.1
    rintro ⟨frame, packet', returns, -⟩
    rw [sendIcmpError_short (Nat.lt_of_not_le long) listed] at returns
    cases returns

theorem sendsError_clientPing : SendsError sampleInstance clientPing eth3 sampleEth3 3 1 :=
  (sendsError_iff_plainHeader (by decide) 3 1).mpr
    ⟨by decide, ⟨by decide, by decide, by decide, by decide⟩⟩

/-- The first fragment of a datagram from the client to a server. -/
def firstFragment : Bytes :=
  withIpSum (ipOff.set #v[0x20, 0] (sampleDatagram sampleEth3.addr clientMac 1 17 clientIp
    server1Ip echoRequest))

/-- The error about a fragment is a fragment. -/
theorem not_sendsError_firstFragment :
    Accepts firstFragment ∧ srGetInterface sampleInstance eth3 = some sampleEth3 ∧
      ¬ SendsError sampleInstance firstFragment eth3 sampleEth3 11 0 := by
  have long : 42 ≤ firstFragment.length := by decide
  have listed : srGetInterface sampleInstance eth3 = some sampleEth3 := by decide
  have more : MoreFragments firstFragment := by decide
  refine ⟨(accepts_iff_valid (by omega)).mpr (by decide +kernel), listed, fun sends => ?_⟩
  exact ((sendsError_iff_of_long long listed 11 0).mp sends).last more

end SimpleRouter
