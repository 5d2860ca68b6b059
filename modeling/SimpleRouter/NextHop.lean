/-
# The next hop

Which address a forwarded packet is resolved by. The pseudocode in `sr_arpcache.h`
speaks of the next hop, which for a route is its gateway. The code never reads a
gateway: the cache, the request queue and the ARP requests all use the destination of
the packet. So a route is followed correctly exactly for its own gateway.
-/

import SimpleRouter.Forwarding
import SimpleRouter.RouteSelection

namespace SimpleRouter

open Buffers Effects Machine

variable {sr : SrInstance} {m : Moment} {cache : SrArpcache} {packet : Bytes} {interface : IfName}

/-- A packet for the address is forwarded through the entry: the entry matches, its
interface exists, and the packet leaves by it. -/
structure ForwardsThrough (sr : SrInstance) (dst : Ip) (route : SrRt) : Prop where
  listed : route ∈ sr.routingTable
  matching : route.Matches dst
  present : (srGetInterface sr route.interface).isSome
  leaves : routeInterface sr dst = route.interface

/-- The operation resolves by the address `hop`: it looks that address up, or queues a
packet under it, and every ARP request emitted for that request asks for it, however
long after the packet was queued. -/
def ResolvesBy (sr : SrInstance) (hop : Ip) : RouterOp → Prop
  | .lookup ip => ip = hop
  | .queuereq ip buf iface => ip = hop ∧
    ∀ cache timer p c, Reachable sr ⟨⟨(srArpcacheQueuereq cache ip buf iface).1, timer⟩, p⟩ →
      (router sr).Reaches (handlesAny sr)
        ⟨⟨(srArpcacheQueuereq cache ip buf iface).1, timer⟩, p⟩ c →
      ∀ m : Moment, ∀ frame, frame ∈ (handleArpreq sr m.now m.rounds c.state.cache
          (srArpcacheQueuereq cache ip buf iface).2).sent →
        frame.sender = .sendArpRequest → arTip.get frame.buf = hop
  | _ => True

/-- The ARP requests emitted for a request ask for the address of the request. -/
theorem arTip_of_handleArpreq {keeps : Ip → SrPacket → Prop} (inv : CacheInv sr keeps cache)
    {arpreq : ℕ} {frame : SentFrame}
    (sent : frame ∈ (handleArpreq sr m.now m.rounds cache arpreq).sent)
    (asks : frame.sender = .sendArpRequest) :
    ∃ req ∈ cache.requests, req.addr = arpreq ∧ arTip.get frame.buf = req.ip := by
  obtain ⟨req, walker, rest, found, waits, -, how⟩ := sent_handleArpreq_cases sent
  have listed := mem_of_requestAt found
  have waiting := inv.waiting req listed walker (waits ▸ List.mem_cons_self)
  obtain ⟨iface, route, -⟩ := waiting.shost
  refine ⟨req, listed, addr_of_requestAt found, ?_⟩
  rcases how with ⟨-, asked⟩ | ⟨-, reported⟩
  · -- The target is read from a packet that waits for the address.
    rw [sendArpRequest_eq waiting.long route, Outcome.sent_returned, List.mem_singleton] at asked
    subst asked
    rw [arTip_arpRequestFrame, waiting.dst]
  · obtain ⟨-, k, -, rfl⟩ := mem_sent_hostUnreachableLoop route reported
    cases asks

/-- A forwarded packet is looked up by its destination. -/
theorem eq_of_resolvesBy (long : 34 ≤ packet.length) (valid : ValidIp packet)
    (foreign : checkInterface sr (ipDst.get packet) = none) (alive : hostU8 (ipTtl.get packet) ≠ 1)
    (present : (srGetInterface sr (routeInterface sr (ipDst.get packet))).isSome) {hop : Ip}
    (resolves : (dealIp sr packet interface).Only (ResolvesBy sr hop)) :
    hop = ipDst.get packet := by
  have same := ipDst_decremented packet
  obtain ⟨outboundIf, found⟩ := Option.isSome_iff_exists.mp present
  rw [← same] at found
  rw [dealIp_of_alive long valid foreign alive, forwardRouted_eq (by simpa using long) found,
    same] at resolves
  exact (Program.only_op_iff.mp resolves).1.symm

/-- **The next hop.** A packet forwarded through an entry is resolved by the gateway of
the entry if and only if the gateway is the destination of the packet. -/
theorem resolvesBy_gateway_iff (long : 34 ≤ packet.length) (valid : ValidIp packet)
    (foreign : checkInterface sr (ipDst.get packet) = none) (alive : hostU8 (ipTtl.get packet) ≠ 1)
    {route : SrRt} (through : ForwardsThrough sr (ipDst.get packet) route) (interface : IfName) :
    (dealIp sr packet interface).Only (ResolvesBy sr route.gw) ↔ route.gw = ipDst.get packet := by
  have same := ipDst_decremented packet
  constructor
  · have present := through.present
    rw [← through.leaves] at present
    exact eq_of_resolvesBy long valid foreign alive present
  · intro gateway
    rw [gateway, dealIp_of_alive long valid foreign alive]
    apply only_forwardRouted (by simpa using long)
    case stop => exact fun _ => trivial
    case handle => exact fun _ => trivial
    case lookup => exact same
    case routed =>
      intro outboundIf _
      refine ⟨fun _ => trivial, same, ?_⟩
      intro cache timer p c reachable reaches m frame sent asks
      have some : readdressed (.replicate 6 0) outboundIf.addr (decremented packet) ≠ [] :=
        ne_nil_of_long (by simpa using long)
      -- However much later, the request is still the one the packet joined.
      have inv := cacheInv_of_reachable (reachable.trans reaches)
      obtain ⟨req, listed, here, target⟩ := arTip_of_handleArpreq inv sent asks
      rw [target, ← same]
      exact (origin_of_descends some (descends_of_reaches reaches) listed here).1

theorem resolvesBy_gateway_clientPing :
    (dealIp sampleInstance clientPing eth3).Only (ResolvesBy sampleInstance server1Ip) := by
  have through : ForwardsThrough sampleInstance (ipDst.get clientPing) (hostRoute server1Ip eth1) :=
    ⟨.tail _ (.head _), by decide, by decide, by decide⟩
  exact (resolvesBy_gateway_iff (by decide +kernel) (by decide +kernel) (by decide +kernel)
    (by decide) through eth3).mpr (by decide)

/-- A packet of the first server to an address beyond the default gateway. -/
def outsidePing : Bytes :=
  sampleDatagram sampleEth1.addr server1Mac 64 ipProtocolIcmp server1Ip #v[8, 8, 8, 8] echoRequest

/-- It leaves through the default route but is not resolved by its gateway. -/
theorem not_resolvesBy_gateway_outsidePing :
    ForwardsThrough sampleInstance (ipDst.get outsidePing) defaultRoute ∧
      ¬ (dealIp sampleInstance outsidePing eth1).Only
        (ResolvesBy sampleInstance defaultRoute.gw) := by
  refine ⟨⟨.head _, by decide, by decide, by decide⟩, fun resolves => ?_⟩
  have same := eq_of_resolvesBy (by decide +kernel) (by decide +kernel) (by decide +kernel)
    (by decide) (by decide) resolves
  exact absurd same (by decide)

end SimpleRouter
