/-
# Answers to ARP requests

A request for the address of the receiving interface is to be answered on it: the reply tells
the address to the sender that the request names.

Whether to answer is decided in three places. `sr_arp_req_not_for_us` drops a request for
another address, `check_ethernet` a frame for another station, and `deal_arp` answers what is
left. The reply is made by `reply_to_arp_request` in the buffer of the request. It takes the
target hardware address from the Ethernet header, and not from the sender that the request names.
-/

import SimpleRouter.EchoService
import SimpleRouter.PacketMessage

namespace SimpleRouter

open Buffers Effects FixedFields

variable {sr : SrInstance} {expected : ℕ} {received : Received} {iface : SrIf} {request : Bytes}
  {interface : IfName}

/-! ## What is asked of the code -/

/-- What the router reacts to while it acts on a message. -/
def MessageEvent.input : MessageEvent → Option Input
  | .handlePacket packet interface => some (.frame packet interface)
  | _ => none

/-- Act on a message, and react to the packets it hands on. -/
def deliver (sr : SrInstance) (host : Host) (m : Moment) (expected : ℕ) (received : Received)
    (cache : SrArpcache) : Action SrArpcache :=
  let inputs := (actOnMessage sr host expected received).sent.filterMap MessageEvent.input
  reactAll sr (inputs.map fun input => (m, input)) cache

/-- The frame in a packet message. -/
def Received.frame (received : Received) : Bytes := received.buf.drop packetHeaderSize

/-- The interface name in it. -/
def Received.name (received : Received) : IfName := cName (received.buf.drop baseSize)

/-- The receive buffer with its command in host order. -/
def Received.hostBuf (received : Received) : Bytes :=
  mType.set (mType.get received.buf).reverse received.buf

/-- `sr_send_packet` writes the frame. -/
def writes (sr : SrInstance) (frame : SentFrame) : Bool :=
  ethHdrSize ≤ frame.buf.length ∧ takes sr frame

/-- The message has a packet on a listed interface, and the packet is a whole ARP request. -/
structure BringsRequest (sr : SrInstance) (expected : ℕ) (received : Received) (iface : SrIf) :
    Prop where
  command : received.command = vnsPacket
  awaited : ¬ Unexpected expected received.command
  listed : srGetInterface sr received.name = some iface
  long : ethHdrSize + arpHdrSize ≤ received.frame.length
  arp : IsArp received.frame
  request : ArpRequest received.frame

/-- The request is for the interface and the frame for the router. -/
def Due (sr : SrInstance) (iface : SrIf) (request : Bytes) : Prop :=
  arTip.get request = iface.ip ∧ ForRouter sr request

instance : Decidable (Due sr iface request) := inferInstanceAs (Decidable (_ ∧ _))

/-- The frame is the answer of the interface to the request. -/
structure IsAnswer (iface : SrIf) (request : Bytes) (frame : SentFrame) : Prop where
  outbound : frame.iface = iface.name
  length : frame.buf.length = request.length
  dhost : etherDhost.get frame.buf = etherShost.get request
  shost : etherShost.get frame.buf = iface.addr
  arp : IsArp frame.buf
  reply : ArpReply frame.buf
  sha : arSha.get frame.buf = iface.addr
  sip : arSip.get frame.buf = iface.ip
  tha : arTha.get frame.buf = arSha.get request
  tip : arTip.get frame.buf = arSip.get request

/-- The router writes the answer if it is due, and else nothing. The cache with its queue is as
before. -/
def AnswersDue (sr : SrInstance) (host : Host) (m : Moment) (expected : ℕ) (received : Received)
    (iface : SrIf) (cache : SrArpcache) : Prop :=
  ∃ handed, deliver sr host m expected received cache = .returned handed cache ∧
    if Due sr iface received.frame then
      ∃ frame, handed.filter (writes sr) = [frame] ∧ IsAnswer iface received.frame frame
    else handed.filter (writes sr) = []

/-! ## When the code does it -/

/-- The request names as its sender the station that it came from. -/
def OwnSender (request : Bytes) : Prop := arSha.get request = etherShost.get request

instance : Decidable (OwnSender request) := inferInstanceAs (Decidable (_ = _))

/-! ## The reply -/

section Reply

variable (iface) (long : 42 ≤ request.length)
include long

theorem dhost_arpReplyFrame :
    etherDhost.get (arpReplyFrame iface request) = etherShost.get request := by
  simp (disch := decide) only [arpReplyFrame, Span.get_set_of_disjoint]
  exact Span.get_set_self _ (fits_of_le long (by decide))

theorem arOp_arpReplyFrame : arOp.get (arpReplyFrame iface request) = #v[0, 2] := by
  apply Span.get_set_self
  simp only [Span.fits_set]
  exact fits_of_le long (by decide)

theorem arSha_arpReplyFrame : arSha.get (arpReplyFrame iface request) = iface.addr := by
  simp (disch := decide) only [arpReplyFrame, Span.get_set_of_disjoint]
  apply Span.get_set_self
  simp only [Span.fits_set]
  exact fits_of_le long (by decide)

theorem arSip_arpReplyFrame : arSip.get (arpReplyFrame iface request) = arTip.get request := by
  simp (disch := decide) only [arpReplyFrame, Span.get_set_of_disjoint]
  apply Span.get_set_self
  simp only [Span.fits_set]
  exact fits_of_le long (by decide)

/-- The target is taken from the Ethernet header of the request. -/
theorem arTha_arpReplyFrame : arTha.get (arpReplyFrame iface request) = etherShost.get request := by
  simp (disch := decide) only [arpReplyFrame, Span.get_set_of_disjoint]
  apply Span.get_set_self
  simp only [Span.fits_set]
  exact fits_of_le long (by decide)

theorem arTip_arpReplyFrame : arTip.get (arpReplyFrame iface request) = arSip.get request := by
  simp (disch := decide) only [arpReplyFrame, Span.get_set_of_disjoint]
  apply Span.get_set_self
  simp only [Span.fits_set]
  exact fits_of_le long (by decide)

/-- The reply is the answer if the sender of the request is its own. -/
theorem isAnswer_arpReplyFrame_iff (arp : IsArp request) (ours : arTip.get request = iface.ip)
    (sender : Sender) :
    IsAnswer iface request ⟨sender, arpReplyFrame iface request, iface.name⟩ ↔
      OwnSender request := by
  constructor
  · intro answer
    have tha := answer.tha
    rw [arTha_arpReplyFrame iface long] at tha
    exact tha.symm
  · intro own
    refine ⟨rfl, by simp [arpReplyFrame], dhost_arpReplyFrame iface long,
      shost_arpReplyFrame iface (Nat.le_trans (by decide) long), ?_, ?_,
      arSha_arpReplyFrame iface long, ?_, ?_, arTip_arpReplyFrame iface long⟩
    · rw [IsArp, etherType_arpReplyFrame]
      exact arp
    · rw [ArpReply, arOp_arpReplyFrame iface long]
      decide
    · rw [arSip_arpReplyFrame iface long, ours]
    · rw [arTha_arpReplyFrame iface long, own]

/-- `sr_send_packet` writes it. -/
theorem writes_arpReplyFrame (listed : srGetInterface sr iface.name = some iface)
    (sender : Sender) : writes sr ⟨sender, arpReplyFrame iface request, iface.name⟩ := by
  have shost := shost_arpReplyFrame iface (Nat.le_trans (by decide) long : 12 ≤ request.length)
  have matching : srEtherAddrsMatchInterface sr (arpReplyFrame iface request) iface.name = 1 :=
    srEtherAddrsMatchInterface_eq_one_iff.mpr ⟨iface, listed, shost⟩
  have size : (arpReplyFrame iface request).length = request.length := by simp [arpReplyFrame]
  rw [writes, takes, size, matching]
  simp [ethHdrSize]
  omega

end Reply

/-! ## What the router does -/

/-- A request that is handed on is answered if its frame is for the router. -/
theorem react_of_request (m : Moment) (cache : SrArpcache) (long : 42 ≤ request.length)
    (arp : IsArp request) (op : ArpRequest request)
    (listed : srGetInterface sr interface = some iface) :
    react sr m cache (.frame request interface) =
      if ForRouter sr request then
        .returned [⟨.replyToArpRequest, arpReplyFrame iface request, interface⟩] cache
      else pure cache := by
  have some : sr.ifList ≠ [] := List.ne_nil_of_mem (mem_of_srGetInterface listed)
  rw [react, srHandlepacket_eq (by omega) some]
  by_cases ours : ForRouter sr request
  · rw [if_pos ours, if_pos ours, if_pos arp, dealArp_of_request long op listed]
    rfl
  · rw [if_neg ours, if_neg ours]
    rfl

namespace BringsRequest

variable (brings : BringsRequest sr expected received iface)
include brings

theorem length_buf : received.buf.length = received.len := by
  have := brings.long
  have complete := received.complete
  rw [Received.frame, List.length_drop, Received.buf, List.length_append, Vector.length_toList,
    complete] at this
  have sizes : ethHdrSize + arpHdrSize = 42 := rfl
  have size : packetHeaderSize = 24 := rfl
  exact SimpleRouter.length_buf (by omega)

theorem len_eq : received.len = packetHeaderSize + received.frame.length := by
  have := brings.long
  rw [Received.frame, List.length_drop, brings.length_buf] at this ⊢
  have sizes : ethHdrSize + arpHdrSize = 42 := rfl
  omega

/-- The name in the message is shorter than what follows its header. -/
theorem not_prefix (name : IfName) : ¬ received.buf.drop baseSize <+: name.chars := by
  intro pre
  have fits := pre.length_le
  have short := name.short
  have long := brings.long
  have sizes : ethHdrSize + arpHdrSize = 42 := rfl
  have header : packetHeaderSize = 24 := rfl
  have base : baseSize = 8 := rfl
  have bound : srIfaceNamelen = 32 := rfl
  rw [List.length_drop, brings.length_buf, brings.len_eq] at fits
  omega

/-- The request in the message is handed on unless it is for another address. -/
theorem inputs_eq (host : Host) :
    (actOnMessage sr host expected received).sent.filterMap MessageEvent.input =
      if arTip.get received.frame = iface.ip then [.frame received.frame received.name]
      else [] := by
  have whole := brings.length_buf
  have size := brings.len_eq
  have header : packetHeaderSize ≤ received.len := size ▸ Nat.le_add_right _ _
  have base : baseSize ≤ received.len := Nat.le_trans (by decide) header
  have packet : received.hostBuf.drop packetHeaderSize = received.frame :=
    Span.drop_set (f := mType) (by decide) _ _
  have named : received.hostBuf.drop baseSize = received.buf.drop baseSize :=
    Span.drop_set (f := mType) (by decide) _ _
  have length : received.hostBuf.length = received.len := (Span.length_set ..).trans whole
  have listed : srGetInterface sr (cName (received.hostBuf.drop baseSize)) = some iface := by
    rw [named]
    exact brings.listed
  obtain ⟨logged, captures, acts⟩ := actOnPacket_eq host length header received.small
    (fun walker _ => named ▸ brings.not_prefix walker.name) listed
  rw [packet, named] at acts
  have silent : logged.filterMap MessageEvent.input = [] := by
    rw [List.filterMap_eq_nil_iff]
    intro event listed
    obtain ⟨captured, rfl⟩ := captures event listed
    rfl
  have another : ArpForAnother iface received.frame ↔ arTip.get received.frame ≠ iface.ip :=
    ⟨fun another => another.2.2.2, fun other => ⟨brings.long, brings.arp, brings.request, other⟩⟩
  rw [actOnMessage_eq base, Received.dispatch, if_neg brings.awaited]
  simp only [switchCommand, if_pos brings.command]
  rw [Outcome.sent_bind_pure, whole, ← Received.hostBuf, acts]
  by_cases ours : arTip.get received.frame = iface.ip
  · rw [if_neg (fun other => another.mp other ours), if_pos ours]
    simp [silent, MessageEvent.input, Received.name]
  · rw [if_pos (another.mpr ours), if_neg ours]
    rfl

/-- What comes of the request. -/
theorem deliver_eq (host : Host) (m : Moment) (cache : SrArpcache) :
    deliver sr host m expected received cache =
      if Due sr iface received.frame then
        .returned [⟨.replyToArpRequest, arpReplyFrame iface received.frame, iface.name⟩] cache
      else pure cache := by
  rw [deliver, brings.inputs_eq]
  by_cases ours : arTip.get received.frame = iface.ip
  · have due : Due sr iface received.frame ↔ ForRouter sr received.frame :=
      ⟨And.right, fun forUs => ⟨ours, forUs⟩⟩
    rw [if_pos ours]
    simp only [List.map_cons, List.map_nil, reactAll, due, name_of_srGetInterface brings.listed,
      react_of_request m cache brings.long brings.arp brings.request brings.listed]
    split_ifs <;> rfl
  · rw [if_neg ours, if_neg (fun due => ours due.1)]
    rfl

end BringsRequest

theorem answersDue_iff_of_due (brings : BringsRequest sr expected received iface) (host : Host)
    (m : Moment) (cache : SrArpcache) (due : Due sr iface received.frame) :
    AnswersDue sr host m expected received iface cache ↔ OwnSender received.frame := by
  have deliver := brings.deliver_eq host m cache
  have listed : srGetInterface sr iface.name = some iface := by
    rw [name_of_srGetInterface brings.listed]
    exact brings.listed
  have right := isAnswer_arpReplyFrame_iff iface brings.long brings.arp due.1 .replyToArpRequest
  have kept := writes_arpReplyFrame iface brings.long listed .replyToArpRequest
  rw [if_pos due] at deliver
  constructor
  · rintro ⟨handed, delivers, answers⟩
    rw [deliver] at delivers
    cases delivers
    rw [if_pos due, List.filter_cons_of_pos kept] at answers
    obtain ⟨frame, sole, answer⟩ := answers
    cases sole
    exact right.mp answer
  · intro own
    refine ⟨_, deliver, ?_⟩
    rw [if_pos due, List.filter_cons_of_pos kept]
    exact ⟨_, rfl, right.mpr own⟩

theorem length_packetBody (name : IfName) (frame : Bytes) :
    ((be32Bytes vnsPacket).toList ++ field 0 16 name.chars ++ frame).length =
      packetHeaderSize + frame.length - 4 := by
  simp only [List.length_append, Vector.length_toList, length_field, packetHeaderSize]
  omega

/-- The packet message of a frame. -/
def packetMessage (name : IfName) (frame : Bytes)
    (small : packetHeaderSize + frame.length ≤ 10000) : Received where
  len := packetHeaderSize + frame.length
  body := (be32Bytes vnsPacket).toList ++ field 0 16 name.chars ++ frame
  small := small
  complete := length_packetBody name frame

/-- The client asks for the address of the router. -/
def clientRequest : Bytes :=
  sampleArp breadcast 1 clientMac clientIp (.replicate 6 0) sampleEth3.ip

/-- Its request as a bridge sends it on. -/
def bridgedRequest : Bytes := etherShost.set sampleEth2.addr clientRequest

def clientMessage : Received := packetMessage eth3 clientRequest (by decide)

def bridgedMessage : Received := packetMessage eth3 bridgedRequest (by decide)

theorem bringsRequest_clientMessage : BringsRequest sampleInstance 0 clientMessage sampleEth3 :=
  ⟨by decide, by decide, by decide, by decide, by decide, by decide⟩

theorem bringsRequest_bridgedMessage : BringsRequest sampleInstance 0 bridgedMessage sampleEth3 :=
  ⟨by decide, by decide, by decide, by decide, by decide, by decide⟩

end SimpleRouter
