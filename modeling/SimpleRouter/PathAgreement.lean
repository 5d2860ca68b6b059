/-
# The waiting path and the cache-hit path

A packet for another host waits for the ARP reply of its destination, or the reply
comes first and the packet leaves at once. Both paths send the same packet on the same
interface. They take its Ethernet destination from different headers of the reply: the
cache-hit path from the sender hardware address, which has been entered in the table,
the waiting path from the Ethernet source.
-/

import SimpleRouter.TtlDiscipline

namespace SimpleRouter

open Buffers Effects Machine

variable {sr : SrInstance} {m m₁ m₂ : Moment} {cache : SrArpcache} {packet reply : Bytes}
  {interface port : IfName} {outboundIf : SrIf}

/-- A valid packet for another host, with a TTL of two or more. -/
structure ToForward (sr : SrInstance) (packet : Bytes) : Prop where
  long : 34 ≤ packet.length
  ip : IsIp packet
  valid : ValidIp packet
  foreign : checkInterface sr (ipDst.get packet) = none
  alive : (2 : UInt8) ≤ hostU8 (ipTtl.get packet)

/-- A whole ARP reply from the host with the address. -/
structure ReplyFrom (ip : Ip) (reply : Bytes) : Prop where
  whole : 42 ≤ reply.length
  arp : IsArp reply
  answers : ArpReply reply
  sender : arSip.get reply = ip

/-- The address is neither mapped nor asked for. -/
structure Unknown (cache : SrArpcache) (ip : Ip) : Prop where
  fresh : ¬ cache.Resolved ip
  idle : cache.requestFor ip = none

theorem unknown_initially (ip : Ip) : Unknown srArpcacheInit ip := ⟨not_resolved_init ip, rfl⟩

/-! ## What is sent for the packet -/

/-- The IP frames among what is sent, and the interfaces they leave by. An ARP request
that is sent about a packet is not one of them. -/
def ipFrames {α : Type} (run : Action α) : List (Bytes × IfName) :=
  (run.sent.filter fun frame => IsIp frame.buf).map fun frame => (frame.buf, frame.iface)

/-- Handled in either order, the packet leaves as the same frames on the same interfaces,
and these go to the sender hardware address of the reply. -/
def PathsAgree (sr : SrInstance) (m₁ m₂ : Moment) (cache : SrArpcache) (packet : Bytes)
    (interface : IfName) (reply : Bytes) (port : IfName) : Prop :=
  let waiting := reactAll sr [(m₁, .frame packet interface), (m₂, .frame reply port)] cache
  let hit := reactAll sr [(m₁, .frame reply port), (m₂, .frame packet interface)] cache
  ipFrames waiting = ipFrames hit ∧
    ∀ frame ∈ ipFrames hit, etherDhost.get frame.1 = arSha.get reply

theorem ipFrames_of_nil {α : Type} {run : Action α} (none : run.sent = []) : ipFrames run = [] := by
  rw [ipFrames, none]
  rfl

theorem ipFrames_returned_bind {α β : Type} (frames : List SentFrame) (a : α)
    (next : α → Action β) :
    ipFrames (Outcome.returned frames a >>= next) =
      ipFrames (Outcome.returned frames a : Action α) ++ ipFrames (next a) := by
  simp [ipFrames]

/-- Without IP frames in its first part, a sequence has those of its second. -/
theorem ipFrames_bind_of_nil {α β : Type} {run : Action α} (none : ipFrames run = [])
    {next : α → Action β} (later : ∀ a, run.Returns a → ipFrames (next a) = []) :
    ipFrames (run >>= next) = [] := by
  obtain ⟨frames, why | a⟩ := run
  · exact none
  · change ipFrames (Outcome.returned frames a >>= next) = []
    rw [ipFrames_returned_bind, later a rfl, List.append_nil]
    exact none

theorem reactAll_pair (first second : Input) :
    reactAll sr [(m₁, first), (m₂, second)] cache =
      react sr m₁ cache first >>= fun cache => react sr m₂ cache second := by
  simp only [reactAll, bind_pure]

theorem react_frame {frames : List SentFrame} {cache' : SrArpcache}
    (run : (srHandlepacket sr packet interface).run (execOp sr m) cache =
      .returned frames (cache', ())) :
    react sr m cache (.frame packet interface) = .returned frames cache' := by
  rw [react, run]
  exact Outcome.returned_bind_pure _ _ _

/-! ## Frames that nothing comes of -/

/-- The router does not look behind the Ethernet header of the frame. -/
def Unseen (sr : SrInstance) (packet : Bytes) : Prop := sr.ifList = [] ∨ ¬ ForRouter sr packet

theorem react_of_unseen (long : 14 ≤ packet.length) (unseen : Unseen sr packet) :
    (react sr m cache (.frame packet interface)).sent = [] ∧
      ∀ cache', (react sr m cache (.frame packet interface)).Returns cache' → cache' = cache := by
  have quiet : Stops (srHandlepacket sr packet interface) ∨
      srHandlepacket sr packet interface = .done () := by
    by_cases empty : sr.ifList = []
    · exact srHandlepacket_cut (.inr empty)
    · rw [srHandlepacket_eq long empty, if_neg (unseen.resolve_left empty)]
      exact .inr rfl
  rcases quiet with ⟨why, stops⟩ | nothing
  · rw [react, stops]
    exact ⟨rfl, fun cache' returns => nomatch returns⟩
  · rw [react, nothing]
    refine ⟨rfl, fun cache' returns => ?_⟩
    cases returns
    rfl

/-- A frame for a router with an interface is seen. -/
theorem Unseen.absurd (unseen : Unseen sr packet) (ours : ForRouter sr packet) {name : IfName}
    (listed : (srGetInterface sr name).isSome) : False := by
  rcases unseen with empty | foreign
  · obtain ⟨iface, found⟩ := Option.isSome_iff_exists.mp listed
    exact List.ne_nil_of_mem (mem_of_srGetInterface found) empty
  · exact foreign ours

/-! ## The two frames -/

/-- A packet to be forwarded is routed with its TTL decremented. -/
theorem ToForward.handled (forward : ToForward sr packet) (seen : ¬ Unseen sr packet) :
    srHandlepacket sr packet interface = forwardRouted sr (decremented packet) := by
  obtain ⟨some, ours⟩ := not_or.mp seen
  rw [srHandlepacket_eq (Nat.le_trans (by decide) forward.long) some, if_pos (not_not.mp ours),
    if_neg fun arp => arp.not_ip forward.ip, if_pos forward.ip,
    dealIp_of_alive forward.long forward.valid forward.foreign (ne_one_of_two_le forward.alive)]

theorem ReplyFrom.handled {ip : Ip} (answer : ReplyFrom ip reply) (seen : ¬ Unseen sr reply) :
    srHandlepacket sr reply port = dealArp sr reply port := by
  obtain ⟨some, ours⟩ := not_or.mp seen
  rw [srHandlepacket_eq (Nat.le_trans (by decide) answer.whole) some, if_pos (not_not.mp ours),
    if_pos answer.arp]

/-- The reply of a host that nothing is known of is entered, and nothing is sent. -/
theorem react_reply {ip : Ip} (answer : ReplyFrom ip reply) (seen : ¬ Unseen sr reply)
    (unknown : Unknown cache ip) :
    react sr m cache (.frame reply port) =
      .returned [] (srArpcacheInsert m.now cache (arSha.get reply) ip).1 := by
  have sender := answer.sender
  apply react_frame
  rw [answer.handled seen, run_dealArp_of_idle
    (Nat.le_trans (by decide) answer.whole) answer.answers
    (sender ▸ unknown.fresh) (sender ▸ unknown.idle), sender]

/-- The copy of the packet that waits. -/
def queuedCopy (outboundIf : SrIf) (packet : Bytes) : SrPacket :=
  ⟨readdressed (.replicate 6 0) outboundIf.addr (decremented packet), outboundIf.name⟩

/-- The request a first packet makes is handled at once. Only its ARP request is sent,
and the packet waits on it alone. -/
theorem handleArpreq_of_first (now : ℤ) (rounds : ℕ) {ip : Ip} {buf : Bytes} {iface : IfName}
    (idle : cache.requestFor ip = none) (long : 34 ≤ buf.length)
    (found : srGetInterface sr iface = some outboundIf) :
    ∃ frames cache', handleArpreq sr now rounds (srArpcacheQueuereq cache ip buf iface).1
        (srArpcacheQueuereq cache ip buf iface).2 = .returned frames cache' ∧
      (∀ frame ∈ frames, frame.buf = arpRequestFrame outboundIf (ipDst.get buf)) ∧
      cache'.entries = cache.entries ∧
      ∃ req, cache'.requestFor ip = some req ∧ req.packets = [⟨buf, iface⟩] := by
  have queue : (srArpcacheQueuereq cache ip buf iface).1.requests =
      ⟨cache.nextAddr, ip, 0, 0, [⟨buf, iface⟩]⟩ :: cache.requests :=
    requests_queuereq_of_none idle (ne_nil_of_long long)
  have addr : (srArpcacheQueuereq cache ip buf iface).2 = cache.nextAddr := by
    rw [addr_queuereq, SrArpcache.joined, idle]
    rfl
  have entries : (srArpcacheQueuereq cache ip buf iface).1.entries = cache.entries :=
    entries_queuereq
  rw [addr]
  generalize (srArpcacheQueuereq cache ip buf iface).1 = queued at queue entries
  have pending : queued.requestAt cache.nextAddr =
      some ⟨cache.nextAddr, ip, 0, 0, [⟨buf, iface⟩]⟩ := by
    rw [SrArpcache.requestAt, queue]
    simp [Keyed.find]
  by_cases due : (⟨cache.nextAddr, ip, 0, 0, [⟨buf, iface⟩]⟩ : SrArpreq).Due now
  · -- A new request has been sent no times, so it is not given up.
    have again : ¬ (⟨cache.nextAddr, ip, 0, 0, [⟨buf, iface⟩]⟩ : SrArpreq).Exhausted := by
      simp [SrArpreq.Exhausted]
    refine ⟨[⟨.sendArpRequest, arpRequestFrame outboundIf (ipDst.get buf), iface⟩],
      markSent now queued cache.nextAddr, ?_, by simp, entries, ?_⟩
    · rw [handleArpreq_of_again pending due again rfl, sendArpRequest_eq long found]
      rfl
    · refine ⟨⟨cache.nextAddr, ip, now, 1, [⟨buf, iface⟩]⟩, ?_, rfl⟩
      simp [SrArpcache.requestFor, markSent, SrArpcache.updateRequest, queue, Keyed.update,
        Keyed.find]
  · refine ⟨[], queued, ?_, by simp, entries, ⟨cache.nextAddr, ip, 0, 0, [⟨buf, iface⟩]⟩, ?_, rfl⟩
    · rw [handleArpreq_of_early pending due]
      rfl
    · rw [SrArpcache.requestFor, queue]
      simp [Keyed.find]

/-- An ARP request is not an IP frame. -/
theorem not_isIp_arpRequestFrame (byeface : SrIf) (dst : Ip) :
    ¬ IsIp (arpRequestFrame byeface dst) := by
  have arp : IsArp (arpRequestFrame byeface dst) := by
    rw [IsArp, etherType_arpRequestFrame]
    decide
  exact arp.not_ip

/-- On the waiting path the packet is queued and asked about. No IP frame is sent, and
the request it waits on has no other packet. -/
theorem react_packet_of_unknown (forward : ToForward sr packet) (seen : ¬ Unseen sr packet)
    (unknown : Unknown cache (ipDst.get packet))
    (found : srGetInterface sr (routeInterface sr (ipDst.get packet)) = some outboundIf) :
    ∃ frames cache', react sr m cache (.frame packet interface) = .returned frames cache' ∧
      (∀ frame ∈ frames, ¬ IsIp frame.buf) ∧ ¬ cache'.Resolved (ipDst.get packet) ∧
      ∃ req, cache'.requestFor (ipDst.get packet) = some req ∧
        req.packets = [queuedCopy outboundIf packet] := by
  have long : 34 ≤ (decremented packet).length := by simpa using forward.long
  have dst := ipDst_decremented packet
  have miss := srArpcacheLookup_eq_none_iff.mpr unknown.fresh
  have named : srGetInterface sr outboundIf.name = some outboundIf :=
    name_of_srGetInterface found ▸ found
  have copy : 34 ≤ (readdressed (.replicate 6 0) outboundIf.addr (decremented packet)).length := by
    simpa using forward.long
  obtain ⟨frames, cache', handled, asks, entries, waits⟩ :=
    handleArpreq_of_first m.now m.rounds unknown.idle copy named
  refine ⟨frames, cache', react_frame ?_, fun frame sent => ?_, ?_, waits⟩
  · rw [forward.handled seen, run_forwardRouted_of_none long (dst.symm ▸ found) (dst.symm ▸ miss),
      dst, handled]
    exact Outcome.returned_bind_pure _ _ _
  · rw [asks frame sent]
    exact not_isIp_arpRequestFrame _ _
  · rw [resolved_congr entries]
    exact unknown.fresh

/-- On the cache-hit path the packet is sent at once. -/
theorem react_packet_of_mapped (forward : ToForward sr packet) (seen : ¬ Unseen sr packet)
    (found : srGetInterface sr (routeInterface sr (ipDst.get packet)) = some outboundIf)
    {arpentry : SrArpentry} (hit : srArpcacheLookup cache (ipDst.get packet) = some arpentry) :
    react sr m cache (.frame packet interface) =
      .returned [⟨.forwardIpPacket,
        readdressed arpentry.mac outboundIf.addr (decremented packet), outboundIf.name⟩] cache := by
  have long : 34 ≤ (decremented packet).length := by simpa using forward.long
  have dst := ipDst_decremented packet
  apply react_frame
  rw [forward.handled seen, run_forwardRouted_of_some long (dst.symm ▸ found) (dst.symm ▸ hit)]

/-- Without its interface the packet is not sent, and the router does not go on. -/
theorem react_packet_of_missing (forward : ToForward sr packet) (seen : ¬ Unseen sr packet)
    (missing : srGetInterface sr (routeInterface sr (ipDst.get packet)) = none) :
    (react sr m cache (.frame packet interface)).sent = [] ∧
      ∀ cache', ¬ (react sr m cache (.frame packet interface)).Returns cache' := by
  have long : 34 ≤ (decremented packet).length := by simpa using forward.long
  have dst := ipDst_decremented packet
  obtain ⟨why, stops⟩ := forwardRouted_stops long (dst.symm ▸ missing)
  rw [react, forward.handled seen, stops]
  exact ⟨rfl, fun cache' returns => nomatch returns⟩

/-- The reply releases the packet that waits alone, to its own Ethernet source. -/
theorem react_reply_of_waiting {ip : Ip} (answer : ReplyFrom ip reply) (seen : ¬ Unseen sr reply)
    (fresh : ¬ cache.Resolved ip) {req : SrArpreq} (pending : cache.requestFor ip = some req)
    {copy : SrPacket} (waits : req.packets = [copy]) (stored : 6 ≤ copy.buf.length) :
    react sr m cache (.frame reply port) =
      .returned [⟨.dealArp, etherDhost.set (etherShost.get reply) copy.buf, copy.iface⟩]
        (srArpcacheInsert m.now cache (arSha.get reply) ip).1 := by
  have sender := answer.sender
  apply react_frame
  rw [answer.handled seen, run_dealArp_of_waiting (Nat.le_trans (by decide) answer.whole)
    answer.answers (sender ▸ fresh) (sender ▸ pending) waits stored, sender]

/-! ## The two orders -/

theorem ipFrames_packet_of_unknown (forward : ToForward sr packet)
    (unknown : Unknown cache (ipDst.get packet)) :
    ipFrames (react sr m cache (.frame packet interface)) = [] := by
  by_cases unseen : Unseen sr packet
  · exact ipFrames_of_nil (react_of_unseen (Nat.le_trans (by decide) forward.long) unseen).1
  cases found : srGetInterface sr (routeInterface sr (ipDst.get packet)) with
  | none => exact ipFrames_of_nil (react_packet_of_missing forward unseen found).1
  | some outboundIf =>
    obtain ⟨frames, cache', run, asks, -⟩ := react_packet_of_unknown forward unseen unknown found
    rw [run, ipFrames, List.map_eq_nil_iff, List.filter_eq_nil_iff]
    simpa using asks

theorem ipFrames_reply_of_unknown {ip : Ip} (answer : ReplyFrom ip reply)
    (unknown : Unknown cache ip) : ipFrames (react sr m cache (.frame reply port)) = [] := by
  by_cases unseen : Unseen sr reply
  · exact ipFrames_of_nil (react_of_unseen (Nat.le_trans (by decide) answer.whole) unseen).1
  · exact ipFrames_of_nil (by rw [react_reply answer unseen unknown]; rfl)

/-- Where neither order sends anything for the packet, they agree. -/
theorem pathsAgree_of_silent
    (waiting : ipFrames (reactAll sr [(m₁, .frame packet interface), (m₂, .frame reply port)]
      cache) = [])
    (hit : ipFrames (reactAll sr [(m₁, .frame reply port), (m₂, .frame packet interface)]
      cache) = []) : PathsAgree sr m₁ m₂ cache packet interface reply port := by
  refine ⟨waiting.trans hit.symm, fun frame sent => ?_⟩
  rw [hit] at sent
  cases sent

/-- Another Ethernet destination takes the place of the first. -/
theorem setDhost_readdressed (mac dhost shost : Mac) (buf : Bytes) :
    etherDhost.set mac (readdressed dhost shost buf) = readdressed mac shost buf := by
  rw [readdressed, Span.set_comm (by decide), Span.set_set_self, readdressed]

theorem isIp_readdressed (forward : ToForward sr packet) (dhost shost : Mac) :
    IsIp (readdressed dhost shost (decremented packet)) := by
  rw [IsIp, get_readdressed (by decide) (by decide), get_decremented (by decide) (by decide)]
  exact forward.ip

/-- What the two orders send when both frames are for the router and the route exists. -/
theorem ipFrames_reactAll (forward : ToForward sr packet) (seenPacket : ¬ Unseen sr packet)
    (answer : ReplyFrom (ipDst.get packet) reply) (seenReply : ¬ Unseen sr reply)
    (unknown : Unknown cache (ipDst.get packet)) (room : cache.HasRoom)
    (found : srGetInterface sr (routeInterface sr (ipDst.get packet)) = some outboundIf)
    (interface port : IfName) (m₁ m₂ : Moment) :
    ipFrames (reactAll sr [(m₁, .frame packet interface), (m₂, .frame reply port)] cache) =
        [(readdressed (etherShost.get reply) outboundIf.addr (decremented packet),
          outboundIf.name)] ∧
      ipFrames (reactAll sr [(m₁, .frame reply port), (m₂, .frame packet interface)] cache) =
        [(readdressed (arSha.get reply) outboundIf.addr (decremented packet),
          outboundIf.name)] := by
  constructor
  · obtain ⟨frames, cache', run, asks, fresh, req, pending, waits⟩ :=
      react_packet_of_unknown forward seenPacket unknown found
    have silent : ipFrames (Outcome.returned frames cache' : Action SrArpcache) = [] := by
      rw [ipFrames, List.map_eq_nil_iff, List.filter_eq_nil_iff]
      simpa using asks
    have stored : 6 ≤ (queuedCopy outboundIf packet).buf.length := by
      simpa [queuedCopy] using Nat.le_trans (by decide) forward.long
    rw [reactAll_pair, run, ipFrames_returned_bind, silent, List.nil_append,
      react_reply_of_waiting answer seenReply fresh pending waits stored, queuedCopy,
      setDhost_readdressed]
    simp [ipFrames, isIp_readdressed forward]
  · -- The reply is entered first, in a free slot, and the packet finds it there.
    have hit := srArpcacheLookup_insert unknown.fresh room m₁.now (arSha.get reply)
    rw [reactAll_pair, react_reply answer seenReply unknown, ipFrames_returned_bind,
      react_packet_of_mapped forward seenPacket found hit]
    simp [ipFrames, isIp_readdressed forward]

/-- Where both frames are for the router and the route exists, the two frames that are sent are
equal if and only if the reply carries one hardware address in both of its headers. -/
theorem pathsAgree_iff_of_found (forward : ToForward sr packet) (seenPacket : ¬ Unseen sr packet)
    (answer : ReplyFrom (ipDst.get packet) reply) (seenReply : ¬ Unseen sr reply)
    (unknown : Unknown cache (ipDst.get packet)) (room : cache.HasRoom)
    (found : srGetInterface sr (routeInterface sr (ipDst.get packet)) = some outboundIf)
    (interface port : IfName) (m₁ m₂ : Moment) :
    PathsAgree sr m₁ m₂ cache packet interface reply port ↔
      etherShost.get reply = arSha.get reply := by
  obtain ⟨waiting, hit⟩ := ipFrames_reactAll forward seenPacket answer seenReply unknown room found
    interface port m₁ m₂
  have long : 14 ≤ packet.length := Nat.le_trans (by decide) forward.long
  have dhost (mac : Mac) :
      etherDhost.get (readdressed mac outboundIf.addr (decremented packet)) = mac := by
    rw [readdressed, Span.get_set_of_disjoint (by decide), Span.get_set_self]
    simpa [Span.Fits] using fits_of_le (f := etherDhost) long (by decide)
  simp only [PathsAgree, waiting, hit]
  constructor
  · rintro ⟨same, -⟩
    -- Equal frames have equal destinations.
    have frame := congrArg (fun frames => frames.head?.map fun f => etherDhost.get f.1) same
    simpa [dhost] using frame
  · intro same
    refine ⟨by rw [same], fun frame sent => ?_⟩
    rw [List.mem_singleton.mp sent, dhost]

/-- **The two paths.** They agree if and only if the reply, where both frames are for the
router and the interface of the route exists, carries one hardware address in both of its
headers. -/
theorem pathsAgree_iff (forward : ToForward sr packet)
    (answer : ReplyFrom (ipDst.get packet) reply) (unknown : Unknown cache (ipDst.get packet))
    (room : cache.HasRoom) (interface port : IfName) (m₁ m₂ : Moment) :
    PathsAgree sr m₁ m₂ cache packet interface reply port ↔
      (ForRouter sr packet → ForRouter sr reply →
        (srGetInterface sr (routeInterface sr (ipDst.get packet))).isSome →
        etherShost.get reply = arSha.get reply) := by
  have long : 14 ≤ packet.length := Nat.le_trans (by decide) forward.long
  have whole : 14 ≤ reply.length := Nat.le_trans (by decide) answer.whole
  by_cases unseen : Unseen sr packet
  · -- A packet that is not seen is sent in neither order.
    refine iff_of_true (pathsAgree_of_silent ?_ ?_) fun ours _ listed =>
      (unseen.absurd ours listed).elim
    · rw [reactAll_pair]
      refine ipFrames_bind_of_nil (ipFrames_packet_of_unknown forward unknown)
        fun cache' returns => ?_
      rw [(react_of_unseen long unseen).2 cache' returns]
      exact ipFrames_reply_of_unknown answer unknown
    · rw [reactAll_pair]
      exact ipFrames_bind_of_nil (ipFrames_reply_of_unknown answer unknown) fun cache' _ =>
        ipFrames_of_nil (react_of_unseen long unseen).1
  by_cases unseenReply : Unseen sr reply
  · -- Without the reply it only waits.
    refine iff_of_true (pathsAgree_of_silent ?_ ?_) fun _ ours listed =>
      (unseenReply.absurd ours listed).elim
    · rw [reactAll_pair]
      exact ipFrames_bind_of_nil (ipFrames_packet_of_unknown forward unknown) fun cache' _ =>
        ipFrames_of_nil (react_of_unseen whole unseenReply).1
    · rw [reactAll_pair]
      refine ipFrames_bind_of_nil (ipFrames_reply_of_unknown answer unknown)
        fun cache' returns => ?_
      rw [(react_of_unseen whole unseenReply).2 cache' returns]
      exact ipFrames_packet_of_unknown forward unknown
  cases found : srGetInterface sr (routeInterface sr (ipDst.get packet)) with
  | none =>
    refine iff_of_true (pathsAgree_of_silent ?_ ?_) fun _ _ listed => nomatch listed
    · rw [reactAll_pair]
      exact ipFrames_bind_of_nil (ipFrames_packet_of_unknown forward unknown) fun cache' returns =>
        absurd returns ((react_packet_of_missing forward unseen found).2 cache')
    · rw [reactAll_pair]
      exact ipFrames_bind_of_nil (ipFrames_reply_of_unknown answer unknown) fun cache' _ =>
        ipFrames_of_nil (react_packet_of_missing forward unseen found).1
  | some outboundIf =>
    rw [pathsAgree_iff_of_found forward unseen answer unseenReply unknown room found]
    refine ⟨fun same _ _ _ => same, fun coincide => ?_⟩
    exact coincide (not_not.mp (not_or.mp unseen).2) (not_not.mp (not_or.mp unseenReply).2) rfl

theorem toForward_clientPing : ToForward sampleInstance clientPing := by
  constructor <;> decide +kernel

theorem pathsAgree_clientPing :
    PathsAgree sampleInstance ⟨100, 0⟩ ⟨101, 0⟩ srArpcacheInit clientPing eth3
      serverReply eth1 := by
  have answer : ReplyFrom server1Ip serverReply := by constructor <;> decide
  exact (pathsAgree_iff toForward_clientPing answer (unknown_initially _)
    (by decide) eth3 eth1
    ⟨100, 0⟩ ⟨101, 0⟩).mpr fun _ _ _ => by decide

/-- The reply of the first server, in a frame that another station sent. -/
def relayedReply : Bytes := etherShost.set clientMac serverReply

/-- The ping goes to the station in one order and to the server in the other. -/
theorem not_pathsAgree_relayedReply :
    Reachable sampleInstance ⟨initially, .done ()⟩ ∧ ToForward sampleInstance clientPing ∧
      ReplyFrom (ipDst.get clientPing) relayedReply ∧
      Unknown initially.cache (ipDst.get clientPing) ∧ initially.cache.HasRoom ∧
      ¬ PathsAgree sampleInstance ⟨100, 0⟩ ⟨101, 0⟩ initially.cache clientPing eth3 relayedReply
        eth1 := by
  refine ⟨.refl, toForward_clientPing, ?_, unknown_initially _, by decide, fun agree => ?_⟩
  · constructor <;> decide +kernel
  · exact absurd agree.1 (by decide +kernel)

end SimpleRouter
