/-
# Time to live

What becomes of a packet for another host, depending on its TTL. With a TTL of two
or more everything that is sent or queued as its forwarding carries the TTL
decremented.

`forward_ip_packet` does not return after it has reported an expired packet: a TTL
of one is reported, and the packet that `send_icmp_error` rewrote is routed as well.
A TTL of zero wraps around to 255 and is not reported at all.
-/

import SimpleRouter.Forwarding

namespace SimpleRouter

open Buffers Effects Machine

variable {sr : SrInstance} {m : Moment} {cache cache' : SrArpcache} {packet : Bytes}
  {interface : IfName} {outboundIf : SrIf}

/-! ## Runs of a routed packet -/

/-- A packet for a mapped address is sent. -/
theorem run_forwardRouted_of_some (long : 34 ≤ packet.length)
    (found : srGetInterface sr (routeInterface sr (ipDst.get packet)) = some outboundIf)
    {arpentry : SrArpentry} (hit : srArpcacheLookup cache (ipDst.get packet) = some arpentry) :
    (forwardRouted sr packet).run (execOp sr m) cache =
      .returned
        [⟨.forwardIpPacket, readdressed arpentry.mac outboundIf.addr packet, outboundIf.name⟩]
        (cache, ()) := by
  rw [forwardRouted_eq long found, Program.run_op]
  simp only [execOp, hit, pure_bind]
  rfl

/-- Any other packet is queued and its request handled. -/
theorem run_forwardRouted_of_none (long : 34 ≤ packet.length)
    (found : srGetInterface sr (routeInterface sr (ipDst.get packet)) = some outboundIf)
    (miss : srArpcacheLookup cache (ipDst.get packet) = none) :
    (forwardRouted sr packet).run (execOp sr m) cache =
      (handleArpreq sr m.now m.rounds
          (srArpcacheQueuereq cache (ipDst.get packet)
            (readdressed (.replicate 6 0) outboundIf.addr packet) outboundIf.name).1
          (srArpcacheQueuereq cache (ipDst.get packet)
            (readdressed (.replicate 6 0) outboundIf.addr packet) outboundIf.name).2 >>=
        fun cache => pure (cache, ())) := by
  rw [forwardRouted_eq long found, Program.run_op]
  simp only [execOp, miss, pure_bind, Program.run_op]
  exact bind_pure _

/-- A packet that is queued stays on the queue while its request is handled. -/
theorem ne_of_queued {ip : Ip} {buf : Bytes} {iface : IfName} (some : buf ≠ [])
    (handled : (handleArpreq sr m.now m.rounds (srArpcacheQueuereq cache ip buf iface).1
      (srArpcacheQueuereq cache ip buf iface).2).Returns cache') : cache' ≠ cache := by
  intro same
  have stored := joined_mem_queuereq cache ip some iface
  -- The request keeps the new packet, which the cache before did not have on it.
  obtain ⟨req, listed, addr, packets⟩ := kept_by_handleArpreq handled stored (List.cons_ne_nil _ _)
  rw [same] at listed
  simp only at addr packets
  rcases joined_cases cache ip with joined | ⟨new, -⟩
  · rw [eq_of_addr listed joined addr] at packets
    exact List.cons_ne_self _ _ packets.symm
  · rw [new] at addr
    exact Nat.ne_of_lt (cache.fresh req listed) addr

/-- Routing a packet sends it or changes the queue, unless it faults. -/
theorem routed_or_queued (long : 34 ≤ packet.length)
    (returns : ((forwardRouted sr packet).run (execOp sr m) cache).Returns (cache, ())) :
    ∃ mac, ∃ outboundIf : SrIf, ((forwardRouted sr packet).run (execOp sr m) cache).sent =
      [⟨.forwardIpPacket, readdressed mac outboundIf.addr packet, outboundIf.name⟩] := by
  cases found : srGetInterface sr (routeInterface sr (ipDst.get packet)) with
  | none =>
    obtain ⟨why, stops⟩ := forwardRouted_stops long found
    rw [stops] at returns
    cases returns
  | some outboundIf =>
    cases looked : srArpcacheLookup cache (ipDst.get packet) with
    | some arpentry =>
      exact ⟨arpentry.mac, outboundIf, by rw [run_forwardRouted_of_some long found looked]; rfl⟩
    | none =>
      rw [run_forwardRouted_of_none long found looked] at returns
      obtain ⟨cache', handled, same⟩ := Outcome.returns_bind.mp returns
      cases same
      have some : readdressed (.replicate 6 0) outboundIf.addr packet ≠ [] :=
        ne_nil_of_long (by simpa using long)
      -- The cache would have to be as before, although a packet has been queued.
      exact absurd rfl (ne_of_queued some handled)

/-! ## The discipline -/

/-- What the operation sends or queues carries the TTL, and so does what an ARP reply
later sends for the copy that was queued. -/
def CarriesTtl (sr : SrInstance) (ttl : UInt8) : RouterOp → Prop
  | .send frame => frame.sender = .forwardIpPacket ∧ hostU8 (ipTtl.get frame.buf) = ttl
  | .queuereq ip buf iface => hostU8 (ipTtl.get buf) = ttl ∧
    ∀ cache timer p c m reply port req frame,
      SentFromCopy sr cache ip buf iface timer p c m reply port req frame →
      hostU8 (ipTtl.get frame.buf) = ttl
  | _ => True

/-- The frame is an ICMP time exceeded for the address. -/
structure TimeExceeded (dst : Ip) (frame : SentFrame) : Prop where
  sender : frame.sender = .sendIcmpError
  protocol : hostU8 (ipP.get frame.buf) = ipProtocolIcmp
  dst : ipDst.get frame.buf = dst
  type : hostU8 (icmpType.get frame.buf) = 11
  code : hostU8 (icmpCode.get frame.buf) = 0

/-- A packet with a TTL of two or more is forwarded with the TTL decremented; any other
is answered with one time exceeded, and nothing else is sent and nothing changes. -/
def TtlDiscipline (sr : SrInstance) (m : Moment) (cache : SrArpcache) (packet : Bytes)
    (interface : IfName) : Prop :=
  if (2 : UInt8) ≤ hostU8 (ipTtl.get packet) then
    (dealIp sr packet interface).Only (CarriesTtl sr (hostU8 (ipTtl.get packet) - 1))
  else ∃ frame, TimeExceeded (ipSrc.get packet) frame ∧
    (dealIp sr packet interface).run (execOp sr m) cache = .returned [frame] (cache, ())

/-- An expired packet whose report is sent is routed as the report has rewritten it. -/
theorem forwarded_of_expired (long : 34 ≤ packet.length) (expired : hostU8 (ipTtl.get packet) = 1)
    {answer : SrArpcache × Unit}
    (returns : ((forwardIpPacket sr packet interface).run (execOp sr m) cache).Returns answer) :
    ∃ frame rewritten, 34 ≤ rewritten.length ∧
      (forwardIpPacket sr packet interface).run (execOp sr m) cache =
        (.returned [frame] () >>= fun _ =>
          (forwardRouted sr rewritten).run (execOp sr m) cache) := by
  have long' : 34 ≤ (decremented packet).length := by simpa using long
  by_cases fit : 42 ≤ packet.length ∧ (srGetInterface sr interface).isSome
  · obtain ⟨inboundIf, found⟩ := Option.isSome_iff_exists.mp fit.2
    refine ⟨_, _, ?_, by
      rw [forwardIpPacket_of_expired fit.1 expired found, Program.run_op]
      rfl⟩
    simpa using long
  · obtain ⟨why, stops⟩ := forwardIpPacket_stops long expired fit
    rw [stops] at returns
    cases returns

/-- **Time to live.** In every state the discipline is kept for a packet if and only if
its TTL is at least two. -/
theorem ttlDiscipline_iff (long : 34 ≤ packet.length) (valid : ValidIp packet)
    (foreign : checkInterface sr (ipDst.get packet) = none) (interface : IfName) (m : Moment)
    (cache : SrArpcache) :
    TtlDiscipline sr m cache packet interface ↔ (2 : UInt8) ≤ hostU8 (ipTtl.get packet) := by
  have long' : 34 ≤ (decremented packet).length := by simpa using long
  constructor
  · intro discipline
    by_contra low
    rw [TtlDiscipline, if_neg low] at discipline
    obtain ⟨frame, exceeded, run⟩ := discipline
    have returns : ((dealIp sr packet interface).run (execOp sr m) cache).Returns (cache, ()) := by
      rw [run]
      rfl
    by_cases expired : hostU8 (ipTtl.get packet) = 1
    · -- The report is followed by a second frame, by a change of the queue or by a fault.
      rw [dealIp_of_foreign long valid foreign] at run returns
      obtain ⟨report, rewritten, longEnough, split⟩ := forwarded_of_expired long expired returns
      rw [split] at run returns
      obtain ⟨_, -, routed⟩ := Outcome.returns_bind.mp returns
      obtain ⟨mac, outboundIf, second⟩ := routed_or_queued longEnough routed
      -- Two frames are sent where the discipline allows one.
      have sent := congrArg (fun outcome => outcome.sent.length) run
      simp [second] at sent
    · -- The decremented packet is sent, or changes the queue, or faults.
      rw [dealIp_of_alive long valid foreign expired] at run returns
      obtain ⟨mac, outboundIf, forwarded⟩ := routed_or_queued long' returns
      rw [run, Outcome.sent_returned, List.cons.injEq] at forwarded
      -- The one frame is the packet and not a report.
      have sender := exceeded.sender
      rw [forwarded.1] at sender
      cases sender
  · intro alive
    rw [TtlDiscipline, if_pos alive, dealIp_of_alive long valid foreign (ne_one_of_two_le alive)]
    apply only_forwardRouted long'
    case stop => exact fun _ => trivial
    case handle => exact fun _ => trivial
    case lookup => trivial
    case routed =>
      intro outboundIf _
      have copy := forwarded_readdressed long (.replicate 6 0) outboundIf.addr
      refine ⟨fun mac => ⟨rfl, (forwarded_readdressed long mac outboundIf.addr).ttl⟩, copy.ttl, ?_⟩
      intro cache timer p c m reply port req frame released
      exact (released.forwarded long copy).ttl

theorem ttlDiscipline_clientPing :
    TtlDiscipline sampleInstance ⟨100, 0⟩ srArpcacheInit clientPing eth3 :=
  (ttlDiscipline_iff (by decide +kernel) (by decide +kernel) (by decide +kernel) eth3 ⟨100, 0⟩
    srArpcacheInit).mpr (by decide)

/-- The ping of the client at the end of its life. -/
def lastHopPing : Bytes :=
  sampleDatagram sampleEth3.addr clientMac 1 ipProtocolIcmp clientIp server1Ip echoRequest

/-- It is reported, and its rewritten header is then routed back to the client. -/
theorem not_ttlDiscipline_lastHopPing :
    ValidIp lastHopPing ∧ checkInterface sampleInstance (ipDst.get lastHopPing) = none ∧
      ¬ TtlDiscipline sampleInstance ⟨100, 0⟩ srArpcacheInit lastHopPing eth3 := by
  refine ⟨by decide +kernel, by decide +kernel, fun discipline => ?_⟩
  rw [TtlDiscipline, if_neg (by decide)] at discipline
  obtain ⟨frame, -, run⟩ := discipline
  have frames : ((dealIp sampleInstance lastHopPing eth3).run (execOp sampleInstance ⟨100, 0⟩)
      srArpcacheInit).sent.length = 2 := by decide +kernel
  rw [run] at frames
  cases frames

end SimpleRouter
