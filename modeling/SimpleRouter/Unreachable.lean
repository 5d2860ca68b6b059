/-
# Host unreachable

Where the report about a packet goes whose next hop does not answer. The packet waits
as a copy that already carries the address of its outgoing interface, and only that
interface is recorded with it. The report is made from the copy as if it had just come
in: it is sent out of the interface by which the packet would have left, to that
interface's own address.

The report is also made in place, so the source of the copy is the router from the
second round on.
-/

import SimpleRouter.Forwarding

namespace SimpleRouter

open Buffers Effects Machine

variable {sr : SrInstance} {packet buf : Bytes} {interface outgoing : IfName} {iface : SrIf}

/-! ## The copy that waits -/

/-- The buffer is the packet as it is queued to leave by the interface. The source is
the router itself when the packet had expired, since its report was made in place. -/
structure CopyOf (sr : SrInstance) (packet : Bytes) (interface : IfName) (buf : Bytes)
    (outgoing : IfName) : Prop where
  long : 34 ≤ packet.length
  length : buf.length = packet.length
  shost : ∃ iface, srGetInterface sr outgoing = some iface ∧ etherShost.get buf = iface.addr
  src : ipSrc.get buf = ipSrc.get packet ∨
    ∃ iface, srGetInterface sr interface = some iface ∧ ipSrc.get buf = iface.ip

/-- If the operation queues something, it is a copy of the packet. -/
def QueuesCopy (sr : SrInstance) (packet : Bytes) (interface : IfName) : RouterOp → Prop
  | .queuereq _ buf outgoing => CopyOf sr packet interface buf outgoing
  | _ => True

/-- Routing `routed`, which has the packet's length and its source or the router's. -/
theorem forwardRouted_queuesCopy {routed : Bytes} (long : 34 ≤ packet.length)
    (length : routed.length = packet.length)
    (src : ipSrc.get routed = ipSrc.get packet ∨
      ∃ iface, srGetInterface sr interface = some iface ∧ ipSrc.get routed = iface.ip) :
    (forwardRouted sr routed).Only (QueuesCopy sr packet interface) := by
  have long' : 34 ≤ routed.length := length ▸ long
  apply only_forwardRouted long'
  case stop => exact fun _ => trivial
  case handle => exact fun _ => trivial
  case lookup => trivial
  case routed =>
    intro outboundIf found
    rw [← name_of_srGetInterface found] at found
    refine ⟨fun _ => trivial, long, by simpa using length, ⟨outboundIf, found, ?_⟩, ?_⟩
    · exact shost_readdressed (Nat.le_trans (by decide) long') _ _
    · rwa [get_readdressed (by decide) (by decide)]

/-- Forwarding a packet. -/
theorem forwardIpPacket_queuesCopy (long : 34 ≤ packet.length) :
    (forwardIpPacket sr packet interface).Only (QueuesCopy sr packet interface) := by
  by_cases expired : hostU8 (ipTtl.get packet) = 1
  · by_cases fit : 42 ≤ packet.length ∧ (srGetInterface sr interface).isSome
    · -- What is routed after the report has the router as its source.
      obtain ⟨inboundIf, found⟩ := Option.isSome_iff_exists.mp fit.2
      rw [forwardIpPacket_of_expired fit.1 expired found]
      refine .op trivial fun _ =>
        forwardRouted_queuesCopy long (by simp) (.inr ⟨inboundIf, found, ?_⟩)
      exact src_icmpErrorInbound inboundIf (by simpa using long)
    · exact (forwardIpPacket_stops long expired fit).only fun _ => trivial
  · rw [forwardIpPacket_of_alive long expired]
    exact forwardRouted_queuesCopy long (by simp) (.inl (ipSrc_decremented packet))

/-- What only sends and stops queues nothing. -/
theorem liftM_queuesCopy {α : Type} (x : Action α) :
    (liftM x : RouterProgram α).Only (QueuesCopy sr packet interface) :=
  only_liftM (fun _ => trivial) (fun _ => trivial) x

/-- Handling an IP packet. -/
theorem dealIp_queuesCopy : (dealIp sr packet interface).Only (QueuesCopy sr packet interface) := by
  by_cases short : packet.length < 34
  · exact (dealIp_stops short).only fun _ => trivial
  have long : 34 ≤ packet.length := Nat.le_of_not_lt short
  by_cases valid : ValidIp packet
  swap
  · rw [dealIp_of_invalid long valid]
    exact .done ()
  cases destination : checkInterface sr (ipDst.get packet) with
  | none =>
    rw [dealIp_of_foreign long valid destination]
    exact forwardIpPacket_queuesCopy long
  | some dest =>
    rw [dealIp_of_valid long valid, destination]
    simp only
    split
    · exact liftM_queuesCopy _
    · split
      · exact (liftM_queuesCopy _).bind fun _ => .done ()
      · exact .done ()

/-- Handling an ARP frame. -/
theorem dealArp_queuesCopy :
    (dealArp sr packet interface).Only (QueuesCopy sr packet interface) := by
  refine (liftM_queuesCopy _).bind fun op => ?_
  split
  · exact liftM_queuesCopy _
  split
  swap
  · exact .done ()
  refine (liftM_queuesCopy _).bind fun sip => .op trivial fun entry => ?_
  cases entry with
  | some arpentry => exact (liftM_queuesCopy _).bind fun _ => liftM_queuesCopy _
  | none =>
    refine (liftM_queuesCopy _).bind fun sha => .op trivial fun arpreq => ?_
    cases arpreq with
    | some arpreq => exact liftM_queuesCopy _
    | none => exact .done ()

/-- Whatever is queued while a frame is handled is a copy of the packet in it. -/
theorem srHandlepacket_queuesCopy :
    (srHandlepacket sr packet interface).Only (QueuesCopy sr packet interface) := by
  refine (liftM_queuesCopy _).bind fun ours => ?_
  split
  swap
  · exact .done ()
  refine (liftM_queuesCopy _).bind fun ethertype => ?_
  split
  · exact dealArp_queuesCopy
  split
  · exact dealIp_queuesCopy
  · exact .done ()

/-! ## Giving up -/

/-- A copy of the packet was queued while it was handled, and its request is to be given
up in a configuration that is reached later. -/
structure GivenUp (sr : SrInstance) (packet : Bytes) (interface : IfName) (s : RouterState)
    (ip : Ip) (buf : Bytes) (outgoing : IfName) (now : ℤ)
    (c : Config RouterOp RouterOp.Resp RouterState)
    (req : SrArpreq) : Prop where
  queued : ∃ s₀ next, Handling sr s₀ packet interface ⟨s, .op (.queuereq ip buf outgoing) next⟩ ∧
    (router sr).Reaches (handlesAny sr) ⟨⟨(srArpcacheQueuereq s.cache ip buf outgoing).1, s.timer⟩,
      next (srArpcacheQueuereq s.cache ip buf outgoing).2⟩ c
  listed : req ∈ c.state.cache.requests
  here : req.addr = (srArpcacheQueuereq s.cache ip buf outgoing).2
  due : req.Due now
  exhausted : req.Exhausted

/-- The frame is sent, in some round, while the walker of `handle_arpreq` is at the
packet that `waiting` begins with. The walker never leaves the first one. -/
def SentAt (sr : SrInstance) (now : ℤ) (cache : SrArpcache) (req : SrArpreq)
    (waiting : List SrPacket) (frame : SentFrame) : Prop :=
  req.packets = waiting ∧ ∃ rounds, frame ∈ (handleArpreq sr now rounds cache req.addr).sent

/-- The frame goes back to where the packet came from. -/
structure GoesBack (sr : SrInstance) (packet : Bytes) (interface : IfName) (frame : SentFrame) :
    Prop where
  port : frame.iface = interface
  dhost : etherDhost.get frame.buf = etherShost.get packet
  shost : ∃ iface, srGetInterface sr interface = some iface ∧ etherShost.get frame.buf = iface.addr
  dst : ipDst.get frame.buf = ipSrc.get packet

/-- Giving up the request reports the packet that `waiting` begins with, and every
report goes back to where `packet` came from. -/
structure ReportsBack (sr : SrInstance) (packet : Bytes) (interface : IfName) (now : ℤ)
    (cache : SrArpcache) (req : SrArpreq) (waiting : List SrPacket) : Prop where
  sent : ∃ frame, SentAt sr now cache req waiting frame
  back : ∀ frame, SentAt sr now cache req waiting frame → GoesBack sr packet interface frame

section GivenUp

variable {s : RouterState} {ip : Ip} {now : ℤ} {c : Config RouterOp RouterOp.Resp RouterState}
  {req : SrArpreq} {older : List SrPacket}

theorem GivenUp.copy (given : GivenUp sr packet interface s ip buf outgoing now c req) :
    CopyOf sr packet interface buf outgoing := by
  obtain ⟨s₀, next, handling, -⟩ := given.queued
  exact (Program.only_op_iff.mp (only_of_reaches srHandlepacket_queuesCopy handling)).1

/-- The copy still waits when its request is given up. -/
theorem GivenUp.waits (given : GivenUp sr packet interface s ip buf outgoing now c req) :
    ⟨buf, outgoing⟩ :: (s.cache.joined ip).packets <:+ req.packets := by
  obtain ⟨s₀, next, -, reaches⟩ := given.queued
  have stored : 34 ≤ buf.length := given.copy.length ▸ given.copy.long
  exact (origin_of_descends (ne_nil_of_long stored) (descends_of_reaches reaches) given.listed
    given.here).2

/-- The reports of the first packet of a request that is given up. -/
theorem sentAt_iff {cache : SrArpcache} (listed : req ∈ cache.requests) (due : req.Due now)
    (exhausted : req.Exhausted) (found : srGetInterface sr outgoing = some iface)
    {frame : SentFrame} :
    SentAt sr now cache req (⟨buf, outgoing⟩ :: older) frame ↔
      req.packets = ⟨buf, outgoing⟩ :: older ∧ 42 ≤ buf.length ∧
        ∃ k, frame =
          ⟨.sendIcmpError, icmpErrorFrame iface 3 1 (rewritten iface k buf), outgoing⟩ := by
  -- The loop starts at the first packet and stays there.
  refine and_congr_right fun first => ?_
  have handled (rounds : ℕ) : (handleArpreq sr now rounds cache req.addr).sent =
      (hostUnreachableLoop sr outgoing rounds buf).sent := by
    rw [handleArpreq_of_exhausted (requestAt_of_mem listed) due exhausted, first]
    exact Outcome.sent_bind_pure _
  constructor
  · rintro ⟨rounds, sent⟩
    rw [handled] at sent
    obtain ⟨long, k, -, same⟩ := mem_sent_hostUnreachableLoop found sent
    exact ⟨long, k, same⟩
  · rintro ⟨long, k, same⟩
    refine ⟨k + 1, ?_⟩
    rw [handled, sent_hostUnreachableLoop long found, same]
    exact List.mem_map.mpr ⟨k, List.mem_range.mpr (Nat.lt_succ_self k), rfl⟩

/-- Where the report of the `k`-th round goes. -/
theorem goesBack_report_iff (found : srGetInterface sr outgoing = some iface)
    (long : 34 ≤ buf.length)
    (k : ℕ) :
    GoesBack sr packet interface
        ⟨.sendIcmpError, icmpErrorFrame iface 3 1 (rewritten iface k buf), outgoing⟩ ↔
      outgoing = interface ∧ etherShost.get buf = etherShost.get packet ∧
        ipSrc.get (rewritten iface k buf) = ipSrc.get packet := by
  have dhost : etherDhost.get (icmpErrorFrame iface 3 1 (rewritten iface k buf)) =
      etherShost.get buf := (dhost_icmpErrorFrame ..).trans (shost_rewritten ..)
  have dst : ipDst.get (icmpErrorFrame iface 3 1 (rewritten iface k buf)) =
      ipSrc.get (rewritten iface k buf) := dst_icmpErrorFrame _ _ _ (by simpa using long)
  constructor
  · rintro ⟨port, goesDhost, -, goesDst⟩
    dsimp only at port goesDhost goesDst
    exact ⟨port, dhost.symm.trans goesDhost, dst.symm.trans goesDst⟩
  · rintro ⟨rfl, source, sender⟩
    constructor
    case port => rfl
    case dhost =>
      dsimp only
      exact dhost.trans source
    case shost =>
      dsimp only
      exact ⟨iface, found, shost_icmpErrorFrame ..⟩
    case dst =>
      dsimp only
      exact dst.trans sender

/-- **Host unreachable.** The reports about a packet whose request is given up go back
to where it came from if and only if it is the packet queued last, can be quoted, was to
leave by the interface it came in, and came from that interface's own addresses. -/
theorem reportsBack_iff (given : GivenUp sr packet interface s ip buf outgoing now c req) :
    ReportsBack sr packet interface now c.state.cache req
        (⟨buf, outgoing⟩ :: (s.cache.joined ip).packets) ↔
      req.packets.length = (s.cache.joined ip).packets.length + 1 ∧ 42 ≤ packet.length ∧
        outgoing = interface ∧ ∃ iface, srGetInterface sr interface = some iface ∧
          etherShost.get packet = iface.addr ∧ ipSrc.get packet = iface.ip := by
  have copy := given.copy
  obtain ⟨iface, found, shost⟩ := copy.shost
  have reports {frame : SentFrame} :
      SentAt sr now c.state.cache req (⟨buf, outgoing⟩ :: (s.cache.joined ip).packets) frame ↔ _ :=
    sentAt_iff given.listed given.due given.exhausted found
  have long : 34 ≤ buf.length := copy.length ▸ copy.long
  constructor
  · intro back
    obtain ⟨frame, sent⟩ := back.sent
    obtain ⟨first, quoted, -⟩ := reports.mp sent
    have goes (k : ℕ) := (goesBack_report_iff found long k).mp
      (back.back _ (reports.mpr ⟨first, quoted, k, rfl⟩))
    -- The report of the second round is already addressed to the router.
    obtain ⟨port, source, dst⟩ := goes 1
    refine ⟨?_, copy.length ▸ quoted, port, iface, port ▸ found, ?_, ?_⟩
    · rw [first, List.length_cons]
    · exact source.symm.trans shost
    · exact dst.symm.trans (src_rewritten_succ long iface 0)
  · rintro ⟨last, quoted, rfl, iface', found', shost', src'⟩
    cases found.symm.trans found'
    -- Nothing was queued above the copy, so the walker is at it.
    have first := (given.waits.eq_of_length last.symm).symm
    have stored : 42 ≤ buf.length := copy.length ▸ quoted
    refine ⟨⟨_, reports.mpr ⟨first, stored, 0, rfl⟩⟩, fun frame sent => ?_⟩
    obtain ⟨-, -, k, rfl⟩ := reports.mp sent
    -- In the first round the source is the sender's own, later the router's: here they are one.
    have src : ipSrc.get (rewritten iface k buf) = iface.ip := by
      cases k with
      | zero =>
        rcases copy.src with same | ⟨_, inbound, fromRouter⟩
        · exact same.trans src'
        · cases found.symm.trans inbound
          exact fromRouter
      | succ k => exact src_rewritten_succ long iface k
    exact (goesBack_report_iff found long k).mpr
      ⟨rfl, shost.trans shost'.symm, src.trans src'.symm⟩

end GivenUp

/-! ## A packet whose next hop is silent -/

section Silent

variable {cache : SrArpcache} {outboundIf : SrIf}

/-- The copy that waits of a packet that leaves by the interface. -/
def copyFor (outboundIf : SrIf) (packet : Bytes) : Bytes :=
  readdressed (.replicate 6 0) outboundIf.addr (decremented packet)

/-- The packet is forwarded by the interface to an address that is not mapped. -/
structure Unmapped (sr : SrInstance) (cache : SrArpcache) (packet : Bytes) (outboundIf : SrIf) :
    Prop where
  long : 34 ≤ packet.length
  ours : ForRouter sr packet
  ip : IsIp packet
  valid : ValidIp packet
  foreign : checkInterface sr (ipDst.get packet) = none
  alive : hostU8 (ipTtl.get packet) ≠ 1
  route : srGetInterface sr (routeInterface sr (ipDst.get packet)) = some outboundIf
  fresh : srArpcacheLookup cache (ipDst.get packet) = none

/-- Such a packet is queued. -/
theorem handling_queuereq (unmapped : Unmapped sr cache packet outboundIf) :
    Handling sr ⟨cache, .sleeping⟩ packet interface ⟨⟨cache, .sleeping⟩,
      .op (.queuereq (ipDst.get packet) (copyFor outboundIf packet) outboundIf.name)
        fun arpreq => .op (.handleArpreq arpreq) .done⟩ := by
  obtain ⟨long, ours, ip, valid, foreign, alive, route, fresh⟩ := unmapped
  have some : sr.ifList ≠ [] := List.ne_nil_of_mem (mem_of_srGetInterface route)
  have notArp : ¬ IsArp packet := fun arp => arp.not_ip ip
  have same := ipDst_decremented packet
  rw [Handling, srHandlepacket_eq (Nat.le_trans (by decide) long) some, if_pos ours, if_neg notArp,
    if_pos ip, dealIp_of_alive long valid foreign alive,
    forwardRouted_eq (by simpa using long) (same ▸ route), same]
  -- The lookup misses, and the next operation queues the copy.
  have looked : ((router sr).exec ⟨0, 0⟩ (.lookup (ipDst.get packet)) ⟨cache, .sleeping⟩).Returns
      (⟨cache, .sleeping⟩, none) :=
    exec_returns_iff.mpr ⟨congrArg (fun entry => Except.ok (cache, entry)) fresh, rfl⟩
  exact .single (Step.answered rfl looked rfl)

/-- The first packet of a router is queued at second `100`, and its request is handled
then and in the four seconds after. -/
def askFive (sr : SrInstance) (ip : Ip) (buf : Bytes) (outgoing : IfName) : Action SrArpcache := do
  let cache ← handleArpreq sr 100 0 (srArpcacheQueuereq srArpcacheInit ip buf outgoing).1
    (srArpcacheQueuereq srArpcacheInit ip buf outgoing).2
  reactAll sr [(⟨101, 1⟩, .timer), (⟨102, 1⟩, .timer), (⟨103, 1⟩, .timer), (⟨104, 1⟩, .timer)] cache

/-- The cache it leaves behind. -/
@[irreducible] def unanswered (sr : SrInstance) (ip : Ip) (buf : Bytes) (outgoing : IfName) :
    SrArpcache :=
  (askFive sr ip buf outgoing).getD srArpcacheInit

/-- Then its request is given up. -/
theorem exists_givenUp (unmapped : Unmapped sr srArpcacheInit packet outboundIf) {ip : Ip}
    (dst : ipDst.get packet = ip) (interface : IfName)
    (returns : (askFive sr ip (copyFor outboundIf packet) outboundIf.name).result.isOk)
    (pending : ∃ req ∈ (unanswered sr ip (copyFor outboundIf packet) outboundIf.name).requests,
      req.addr =
        (srArpcacheQueuereq srArpcacheInit ip (copyFor outboundIf packet) outboundIf.name).2 ∧
        req.Due 105 ∧ req.Exhausted) :
    ∃ req, GivenUp sr packet interface initially ip (copyFor outboundIf packet) outboundIf.name 105
      ⟨⟨unanswered sr ip (copyFor outboundIf packet) outboundIf.name, .sleeping⟩, .done ()⟩
      req := by
  obtain ⟨req, listed, here, due, exhausted⟩ := pending
  have asked : (askFive sr ip (copyFor outboundIf packet) outboundIf.name).Returns
      (unanswered sr ip (copyFor outboundIf packet) outboundIf.name) := by
    unfold unanswered
    exact Outcome.returns_getD returns _
  obtain ⟨cache, first, rest⟩ := Outcome.returns_bind.mp asked
  subst dst
  refine ⟨req, ⟨_, _, handling_queuereq unmapped, ?_⟩, listed, here, due, exhausted⟩
  refine Relation.ReflTransGen.trans (reaches_of_isolated (m := ⟨100, 0⟩) ?_)
    (reaches_of_reactAll (fun _ _ _ _ _ => trivial) rest)
  rw [Program.run_op]
  exact Outcome.returns_bind.mpr ⟨_, Outcome.returns_bind.mpr ⟨_, first, rfl⟩, rfl⟩

end Silent

/-- An address on the network of the client that nobody has. -/
def silentIp : Ip := #v[10, 0, 1, 7]

/-- A packet to a silent host on `eth3` that claims to come from `eth3` itself. -/
def spoofedPing : Bytes :=
  sampleDatagram sampleEth3.addr sampleEth3.addr 64 ipProtocolIcmp sampleEth3.ip silentIp
    echoRequest

theorem reportsBack_spoofedPing :
    ∃ c req, GivenUp sampleInstance spoofedPing eth3 initially silentIp
        (copyFor sampleEth3 spoofedPing) eth3 105 c req ∧
      ReportsBack sampleInstance spoofedPing eth3 105 c.state.cache req
        (⟨copyFor sampleEth3 spoofedPing, eth3⟩ ::
          (srArpcacheInit.joined silentIp).packets) := by
  have unmapped : Unmapped sampleInstance srArpcacheInit spoofedPing sampleEth3 := by
    constructor <;> decide +kernel
  have dst : ipDst.get spoofedPing = silentIp := by decide
  obtain ⟨req, given⟩ := exists_givenUp unmapped dst eth3 (by decide +kernel) (by decide +kernel)
  refine ⟨_, req, given, (reportsBack_iff given).mpr ⟨?_, ?_, rfl, sampleEth3, ?_⟩⟩
  · have alone : ∀ req ∈ (unanswered sampleInstance silentIp (copyFor sampleEth3 spoofedPing)
        eth3).requests, req.packets.length = 1 := by decide +kernel
    exact alone req given.listed
  · decide
  · decide

/-- The report about the ping of the client goes to the first server. -/
theorem not_reportsBack_clientPing :
    ∃ c req, GivenUp sampleInstance clientPing eth3 initially server1Ip
        (copyFor sampleEth1 clientPing) eth1 105 c req ∧
      (∃ frame, SentAt sampleInstance 105 c.state.cache req
        (⟨copyFor sampleEth1 clientPing, eth1⟩ ::
          (srArpcacheInit.joined server1Ip).packets) frame ∧
        ¬ GoesBack sampleInstance clientPing eth3 frame) := by
  have unmapped : Unmapped sampleInstance srArpcacheInit clientPing sampleEth1 := by
    constructor <;> decide +kernel
  have dst : ipDst.get clientPing = server1Ip := by decide
  obtain ⟨req, given⟩ := exists_givenUp unmapped dst eth3 (by decide +kernel) (by decide +kernel)
  have alone : ∀ req ∈ (unanswered sampleInstance server1Ip (copyFor sampleEth1 clientPing)
      eth1).requests, req.packets.length = 1 := by decide +kernel
  have first := (given.waits.eq_of_length (alone req given.listed).symm).symm
  have found : srGetInterface sampleInstance eth1 = some sampleEth1 := by decide
  refine ⟨_, req, given, _, (sentAt_iff given.listed given.due given.exhausted found).mpr
    ⟨first, ?_, 0, rfl⟩, fun goes => ?_⟩
  · decide
  · exact absurd goes.port (by decide)

end SimpleRouter
