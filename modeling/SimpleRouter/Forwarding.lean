/-
# Forwarding one packet

What `deal_ip` does with a valid packet that is not for the router, seen as the
operations it performs: one lookup, then one send or one packet queued and its
request handled.

Forwarding changes nothing of the packet but its addresses, its TTL and its
checksum. It asks for the destination of the packet and never for the gateway of
its route, and an expired packet is reported but forwarded all the same.
-/

import SimpleRouter.Resolution

namespace SimpleRouter

open Buffers Effects Machine

variable {sr : SrInstance} {m : Moment} {cache cache' : SrArpcache} {packet : Bytes}
  {interface : IfName} {outboundIf : SrIf}

/-! ## The operations of a routed packet -/

/-- What routing a packet performs, in every state and among any moves of the timer. -/
theorem only_forwardRouted {P : RouterOp → Prop} (long : 34 ≤ packet.length)
    (stop : ∀ why, P (.stop why)) (handle : ∀ arpreq, P (.handleArpreq arpreq))
    (lookup : P (.lookup (ipDst.get packet)))
    (routed : ∀ {outboundIf},
      srGetInterface sr (routeInterface sr (ipDst.get packet)) = some outboundIf →
      (∀ mac,
        P (.send ⟨.forwardIpPacket, readdressed mac outboundIf.addr packet, outboundIf.name⟩)) ∧
        P (.queuereq (ipDst.get packet) (readdressed (.replicate 6 0) outboundIf.addr packet)
          outboundIf.name)) :
    (forwardRouted sr packet).Only P := by
  cases found : srGetInterface sr (routeInterface sr (ipDst.get packet)) with
  | none => exact (forwardRouted_stops long found).only stop
  | some outboundIf =>
    obtain ⟨send, queue⟩ := routed found
    rw [forwardRouted_eq long found]
    refine .op lookup fun entry => ?_
    cases entry with
    | some arpentry => exact .op (send arpentry.mac) fun _ => .done ()
    | none => exact .op queue fun arpreq => .op (handle arpreq) fun _ => .done ()

/-- A packet for another host is forwarded with its TTL decremented. -/
theorem dealIp_of_alive (long : 34 ≤ packet.length) (valid : ValidIp packet)
    (foreign : checkInterface sr (ipDst.get packet) = none)
    (alive : hostU8 (ipTtl.get packet) ≠ 1) :
    dealIp sr packet interface = forwardRouted sr (decremented packet) := by
  rw [dealIp_of_foreign long valid foreign, forwardIpPacket_of_alive long alive]

/-! ## What forwarding leaves alone -/

/-- The second buffer is as long as the first and has the TTL `ttl`, and the two
differ at most in the Ethernet addresses, the TTL and the IP checksum. -/
structure Forwarded (ttl : UInt8) (packet buf : Bytes) : Prop where
  length : buf.length = packet.length
  ttl : hostU8 (ipTtl.get buf) = ttl
  elsewhere : ∀ i, ¬ etherDhost.Covers i → ¬ etherShost.Covers i → ¬ ipTtl.Covers i →
    ¬ ipSum.Covers i → buf[i]? = packet[i]?

/-- Writing an Ethernet address keeps a forwarded packet one. -/
theorem Forwarded.setDhost {ttl : UInt8} {buf : Bytes} (forwarded : Forwarded ttl packet buf)
    (mac : Mac) : Forwarded ttl packet (etherDhost.set mac buf) where
  length := by rw [Span.length_set, forwarded.length]
  ttl := by rw [Span.get_set_of_disjoint (by decide), forwarded.ttl]
  elsewhere i dhost shost ttl sum := by
    rw [Span.getElem?_set_of_not_covers _ _ dhost, forwarded.elsewhere i dhost shost ttl sum]

theorem forwarded_readdressed (long : 34 ≤ packet.length) (dhost shost : Mac) :
    Forwarded (hostU8 (ipTtl.get packet) - 1) packet
      (readdressed dhost shost (decremented packet)) where
  length := by simp
  ttl := by rw [get_readdressed (by decide) (by decide), ttl_decremented long]
  elsewhere i dhost shost ttl sum := by
    rw [readdressed, Span.getElem?_set_of_not_covers _ _ shost,
      Span.getElem?_set_of_not_covers _ _ dhost, decremented, withIpSum,
      Span.getElem?_set_of_not_covers _ _ sum, Span.getElem?_set_of_not_covers _ _ ttl]

/-- A packet with a TTL of two or more does not expire, nor does one with zero. -/
theorem ne_one_of_two_le {ttl : UInt8} (alive : 2 ≤ ttl) : ttl ≠ 1 := by
  rintro rfl
  exact absurd alive (by decide)

/-- What was queued at an address stays there, whatever is queued above it. -/
theorem origin_of_descends {ip : Ip} {buf : Bytes} {iface : IfName} (some : buf ≠ [])
    (later : Descends (srArpcacheQueuereq cache ip buf iface).1 cache') {req : SrArpreq}
    (listed : req ∈ cache'.requests) (here : req.addr = (srArpcacheQueuereq cache ip buf iface).2) :
    req.ip = ip ∧ ⟨buf, iface⟩ :: (cache.joined ip).packets <:+ req.packets := by
  have stored := joined_mem_queuereq cache ip some iface
  have allocated := SrArpcache.fresh _ _ stored
  have addr₀ : (cache.joined ip).addr = (srArpcacheQueuereq cache ip buf iface).2 :=
    addr_queuereq.symm
  have old : req.addr < (srArpcacheQueuereq cache ip buf iface).1.nextAddr := by
    rw [here, ← addr₀]
    exact allocated
  obtain ⟨req₀, member, addr, sameIp, suffix⟩ := later.keeps req listed old
  -- Its number tells the request from every other, so it descends from the one just joined.
  rw [eq_of_addr member stored ((addr.trans here).trans addr₀.symm)] at sameIp suffix
  exact ⟨sameIp.symm.trans ip_joined, suffix⟩

/-- An ARP reply, in some configuration that is reached after the packet was queued,
releases that very copy and sends the frame for it. The copy is known by its request
and by the packets below it, and only the first packet of a request is released. -/
structure SentFromCopy (sr : SrInstance) (cache : SrArpcache) (ip : Ip) (buf : Bytes)
    (iface : IfName) (timer : Timer) (p : RouterProgram Unit)
    (c : Config RouterOp RouterOp.Resp RouterState) (m : Moment) (reply : Bytes) (port : IfName)
    (req : SrArpreq) (frame : SentFrame) : Prop where
  reached : (router sr).Reaches (handlesAny sr)
    ⟨⟨(srArpcacheQueuereq cache ip buf iface).1, timer⟩, p⟩ c
  answers : ArpReply reply
  fresh : ¬ c.state.cache.Resolved (arSip.get reply)
  pending : c.state.cache.requestFor (arSip.get reply) = some req
  here : req.addr = (srArpcacheQueuereq cache ip buf iface).2
  first : req.packets.length = (cache.joined ip).packets.length + 1
  sent : frame ∈ ((dealArp sr reply port).run (execOp sr m) c.state.cache).sent

/-- What is sent from a copy that was forwarded was forwarded. -/
theorem SentFromCopy.forwarded {ttl : UInt8} {ip : Ip} {buf : Bytes} {iface : IfName}
    {timer : Timer}
    {p : RouterProgram Unit} {c : Config RouterOp RouterOp.Resp RouterState} {reply : Bytes}
    {port : IfName} {req : SrArpreq} {frame : SentFrame}
    (released : SentFromCopy sr cache ip buf iface timer p c m reply port req frame)
    (long : 34 ≤ packet.length) (copy : Forwarded ttl packet buf) :
    Forwarded ttl packet frame.buf := by
  have stored : 34 ≤ buf.length := copy.length ▸ long
  have suffix := (origin_of_descends (ne_nil_of_long stored) (descends_of_reaches released.reached)
    (mem_of_requestFor released.pending) released.here).2
  -- The copy is on the request, and since nothing was queued above it, it comes first.
  have waits := suffix.eq_of_length released.first.symm
  have sent := released.sent
  rw [run_dealArp_of_waiting (long_of_sent_dealArp released.answers sent) released.answers
    released.fresh released.pending waits.symm (Nat.le_trans (by decide) stored),
    Outcome.sent_returned, List.mem_singleton] at sent
  subst sent
  exact copy.setDhost _

/-- Every frame the operation sends, and every packet it queues, is the packet
forwarded, and so is every frame an ARP reply sends for the copy that was queued. -/
def Forwards (sr : SrInstance) (packet : Bytes) : RouterOp → Prop
  | .send frame => Forwarded (hostU8 (ipTtl.get packet) - 1) packet frame.buf
  | .queuereq ip buf iface =>
    Forwarded (hostU8 (ipTtl.get packet) - 1) packet buf ∧
      ∀ cache timer p c m reply port req frame,
        SentFromCopy sr cache ip buf iface timer p c m reply port req frame →
        Forwarded (hostU8 (ipTtl.get packet) - 1) packet frame.buf
  | _ => True

/-- **Forwarding changes nothing it should not.** The frame sent, the copy queued, and
any frame an ARP reply later sends for that copy are the received packet with its TTL
decremented, apart from the Ethernet addresses and the checksum. -/
theorem forwarding_faithful (long : 34 ≤ packet.length) (valid : ValidIp packet)
    (foreign : checkInterface sr (ipDst.get packet) = none)
    (alive : (2 : UInt8) ≤ hostU8 (ipTtl.get packet))
    (interface : IfName) : (dealIp sr packet interface).Only (Forwards sr packet) := by
  rw [dealIp_of_alive long valid foreign (ne_one_of_two_le alive)]
  apply only_forwardRouted (by simpa using long)
  case stop => exact fun _ => trivial
  case handle => exact fun _ => trivial
  case lookup => trivial
  case routed =>
    intro outboundIf _
    -- On a hit the packet itself is sent; on a miss its copy waits, and is later sent.
    have copy := forwarded_readdressed long (.replicate 6 0) outboundIf.addr
    refine ⟨fun mac => forwarded_readdressed long mac outboundIf.addr, copy, ?_⟩
    intro cache timer p c m reply port req frame released
    exact released.forwarded long copy

theorem forwarding_faithful_clientPing :
    (dealIp sampleInstance clientPing eth3).Only (Forwards sampleInstance clientPing) :=
  forwarding_faithful (by decide +kernel) (by decide +kernel) (by decide +kernel)
    (by decide) eth3

end SimpleRouter
