/-
# Address resolution

What `deal_arp` does with an ARP reply, and when it keeps the promise of the README
and of the pseudocode in `sr_arpcache.h`: to send all the packets that wait for the
address, and nothing else.

A reply for an address that is mapped already is routed and sent out again. A reply
for an address that is not mapped releases the packet that was queued last and
forgets the others.
-/

import SimpleRouter.CacheSafety

namespace SimpleRouter

open Buffers Effects Machine

variable {sr : SrInstance} {m : Moment} {cache : SrArpcache} {packet : Bytes} {interface : IfName}

/-! ## The three runs of `deal_arp` on a reply -/

/-- A reply for a mapped address is sent on. -/
theorem run_dealArp_of_resolved (long : 32 ≤ packet.length) (reply : ArpReply packet)
    (resolved : cache.Resolved (arSip.get packet)) :
    (dealArp sr packet interface).run (execOp sr m) cache =
      (resendReply sr packet).run (execOp sr m) cache := by
  have known : srArpcacheLookup cache (arSip.get packet) ≠ none := fun absent =>
    srArpcacheLookup_eq_none_iff.mp absent resolved
  obtain ⟨entry, found⟩ := Option.ne_none_iff_exists'.mp known
  rw [dealArp_of_reply long reply, Program.run_op]
  simp only [execOp, found, pure_bind]

/-- A reply for an address that nobody waits for is entered. -/
theorem run_dealArp_of_idle (long : 32 ≤ packet.length) (reply : ArpReply packet)
    (fresh : ¬ cache.Resolved (arSip.get packet))
    (idle : cache.requestFor (arSip.get packet) = none) :
    (dealArp sr packet interface).run (execOp sr m) cache =
      .returned []
        ((srArpcacheInsert m.now cache (arSha.get packet) (arSip.get packet)).1, ()) := by
  have unknown := srArpcacheLookup_eq_none_iff.mpr fresh
  rw [dealArp_of_reply long reply, Program.run_op]
  simp only [execOp, unknown, pure_bind, Program.run_op]
  simp only [srArpcacheInsert, idle]
  rfl

/-- A reply for an address with waiting packets is entered and releases the first. -/
theorem run_dealArp_of_waiting (long : 32 ≤ packet.length) (reply : ArpReply packet)
    (fresh : ¬ cache.Resolved (arSip.get packet)) {req : SrArpreq}
    (pending : cache.requestFor (arSip.get packet) = some req) {current : SrPacket}
    {rest : List SrPacket} (waits : req.packets = current :: rest)
    (stored : 6 ≤ current.buf.length) :
    (dealArp sr packet interface).run (execOp sr m) cache =
      .returned [⟨.dealArp, etherDhost.set (etherShost.get packet) current.buf, current.iface⟩]
        ((srArpcacheInsert m.now cache (arSha.get packet) (arSip.get packet)).1, ()) := by
  have unknown := srArpcacheLookup_eq_none_iff.mpr fresh
  have first := sendFirstWaiting_eq (Nat.le_trans (by decide) long) waits stored
  rw [dealArp_of_reply long reply, Program.run_op]
  simp only [execOp, unknown, pure_bind, Program.run_op]
  simp only [srArpcacheInsert, pending, releaseFirst, first]
  rfl

/-- A reply without the addresses of its sender leads to no frame. -/
theorem long_of_sent_dealArp (reply : ArpReply packet) {frame : SentFrame}
    (sent : frame ∈ ((dealArp sr packet interface).run (execOp sr m) cache).sent) :
    32 ≤ packet.length := by
  by_contra short
  have stops : Stops (dealArp sr packet interface) := by
    by_cases cut : packet.length < 22
    · exact dealArp_stops cut
    · exact dealArp_stops_of_reply (Nat.le_of_not_lt cut) (Nat.lt_of_not_le short) reply
  -- A stop sends nothing.
  obtain ⟨why, same⟩ := stops
  rw [same] at sent
  cases sent

/-! ## Releasing the waiting packets -/

/-- The packets waiting on the pending request for the address. -/
def SrArpcache.waitingFor (cache : SrArpcache) (ip : Ip) : List SrPacket :=
  match cache.requestFor ip with
  | some req => req.packets
  | none => []

/-- The frame is the waiting packet with another Ethernet destination, sent on the
interface recorded with it. -/
def Releases (packet : SrPacket) (frame : SentFrame) : Prop :=
  frame.iface = packet.iface ∧ ∃ mac, frame.buf = etherDhost.set mac packet.buf

/-- The run returns, its frames are the packets that waited for the address, each
once, and the request is off the queue. -/
def ReleasesAll (run : Action (SrArpcache × Unit)) (cache : SrArpcache) (ip : Ip) : Prop :=
  ∃ cache', run.Returns (cache', ()) ∧ cache'.requestFor ip = none ∧
    ∃ order, order.Perm (cache.waitingFor ip) ∧ List.Forall₂ Releases order run.sent

theorem ReleasesAll.length_sent {run : Action (SrArpcache × Unit)} {ip : Ip}
    (all : ReleasesAll run cache ip) : run.sent.length = (cache.waitingFor ip).length := by
  obtain ⟨_, _, _, order, perm, frames⟩ := all
  rw [← frames.length_eq, perm.length_eq]

theorem requestFor_insert (oneRequest : (cache.requests.map SrArpreq.ip).Nodup) (now : ℤ)
    (mac : Mac) (ip : Ip) : (srArpcacheInsert now cache mac ip).1.requestFor ip = none :=
  requestFor_eq_none_iff.mpr fun _ listed => ((Keyed.mem_unlink oneRequest).mp listed).2

theorem waitingFor_of_none {ip : Ip} (none : cache.requestFor ip = none) :
    cache.waitingFor ip = [] := by
  rw [SrArpcache.waitingFor, none]

theorem waitingFor_of_some {ip : Ip} {req : SrArpreq} (pending : cache.requestFor ip = some req) :
    cache.waitingFor ip = req.packets := by
  rw [SrArpcache.waitingFor, pending]

/-- Nothing waits for a mapped address. -/
theorem waitingFor_of_resolved {keeps : Ip → SrPacket → Prop} (inv : CacheInv sr keeps cache)
    {ip : Ip} (resolved : cache.Resolved ip) : cache.waitingFor ip = [] := by
  cases pending : cache.requestFor ip with
  | none => exact waitingFor_of_none pending
  | some req =>
    have resolved' := ip_of_requestFor pending ▸ resolved
    exact absurd resolved' (inv.unresolved req (mem_of_requestFor pending))

/-- **Releasing the waiting packets.** In a reachable state an ARP reply releases
exactly the waiting packets if and only if its sender is not mapped yet and at most
one packet waits for it. -/
theorem releasesAll_iff {c : Config RouterOp RouterOp.Resp RouterState} (reachable : Reachable sr c)
    (long : 32 ≤ packet.length) (reply : ArpReply packet) (m : Moment) :
    ReleasesAll ((dealArp sr packet interface).run (execOp sr m) c.state.cache) c.state.cache
        (arSip.get packet) ↔
      ¬ c.state.cache.Resolved (arSip.get packet) ∧
        (c.state.cache.waitingFor (arSip.get packet)).length ≤ 1 := by
  have inv := cacheInv_of_reachable reachable
  generalize c.state.cache = cache at inv
  have offQueue := requestFor_insert inv.oneRequest m.now (arSha.get packet) (arSip.get packet)
  by_cases resolved : cache.Resolved (arSip.get packet)
  · -- Nothing waits for a mapped address, but the reply itself is sent.
    have idle := waitingFor_of_resolved inv resolved
    rw [run_dealArp_of_resolved long reply resolved]
    refine ⟨fun all => ?_, fun ⟨fresh, _⟩ => absurd resolved fresh⟩
    -- Either the route lookup faults, and the run does not return, or one frame is sent.
    rcases resendReply_cases sr packet with ⟨why, stops⟩ | ⟨result, outIf, -, sends⟩
    · obtain ⟨_, returns, _⟩ := all
      rw [stops] at returns
      cases returns
    · have count := all.length_sent
      rw [sends, idle] at count
      cases count
  · cases pending : cache.requestFor (arSip.get packet) with
    | none =>
      have idle := waitingFor_of_none pending
      -- Without a request there is nothing to release, and nothing is sent.
      rw [run_dealArp_of_idle long reply resolved pending, idle]
      refine ⟨fun _ => ⟨resolved, Nat.zero_le _⟩, fun _ => ?_⟩
      refine ⟨_, rfl, offQueue, [], ?_, .nil⟩
      rw [idle]
    | some req =>
      have listed := mem_of_requestFor pending
      have queue := waitingFor_of_some pending
      cases waits : req.packets with
      | nil => exact absurd waits (inv.occupied req listed)
      | cons current rest =>
        have member : current ∈ req.packets := waits ▸ List.mem_cons_self
        have stored : 6 ≤ current.buf.length :=
          Nat.le_trans (by decide) (inv.waiting req listed current member).long
        rw [run_dealArp_of_waiting long reply resolved pending waits stored, queue, waits]
        constructor
        · intro all
          -- One frame is sent, so no more than one packet can have waited.
          have count := all.length_sent
          rw [queue, waits] at count
          exact ⟨resolved, count.ge⟩
        · rintro ⟨-, atMostOne⟩
          have alone : rest = [] := List.length_eq_zero_iff.mp (by simpa using atMostOne)
          refine ⟨_, rfl, offQueue, [current], ?_, .cons ⟨rfl, _, rfl⟩ .nil⟩
          rw [queue, waits, alone]

/-- The answer of the first server. -/
def serverReply : Bytes :=
  sampleArp sampleEth1.addr 2 server1Mac server1Ip sampleEth1.addr sampleEth1.ip

theorem releasesAll_pingQueued :
    ReleasesAll ((dealArp sampleInstance serverReply eth3).run (execOp sampleInstance ⟨101, 0⟩)
      pingQueued) pingQueued (arSip.get serverReply) :=
  (releasesAll_iff reachable_pingQueued (by decide) (by decide) ⟨101, 0⟩).mpr
    (by decide +kernel)

/-- The cache after a second ping has been queued. -/
@[irreducible] def pingsQueued : SrArpcache :=
  (reactAll sampleInstance
    [(⟨100, 0⟩, .frame clientPing eth3), (⟨100, 0⟩, .frame clientPing eth3)] srArpcacheInit).getD
    srArpcacheInit

/-- Of two waiting packets one is lost. -/
theorem not_releasesAll_pingsQueued :
    Reachable sampleInstance ⟨⟨pingsQueued, .sleeping⟩, .done ()⟩ ∧ ArpReply serverReply ∧
      ¬ ReleasesAll ((dealArp sampleInstance serverReply eth3).run (execOp sampleInstance ⟨101, 0⟩)
        pingsQueued) pingsQueued (arSip.get serverReply) := by
  refine ⟨?_, by decide +kernel, fun all => absurd all.length_sent (by decide +kernel)⟩
  unfold pingsQueued
  exact reachable_of_reactAll (Outcome.returns_getD (by decide +kernel) _)

end SimpleRouter
