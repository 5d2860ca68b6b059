/-
# Packet handling

`sr_handlepacket` and what it calls in `sr_router.c`, as programs over the atomic
operations of the router: the critical sections of the ARP cache, `handle_arpreq`,
and the calls of `sr_send_packet`. Between any two operations of a program the
timer thread may run.

Each function has one equation that lists the operations it performs on a frame
that is long enough. From a frame that is cut off nothing is ever sent.
-/

import SimpleRouter.ArpRequests
import SimpleRouter.Library.Program

namespace SimpleRouter

open Buffers Effects

/-! ## Operations -/

/-- An atomic operation of the main thread. -/
inductive RouterOp
  | lookup (ip : Ip)
  | insert (mac : Mac) (ip : Ip)
  | queuereq (ip : Ip) (packet : Bytes) (iface : IfName)
  | handleArpreq (arpreq : ℕ)
  | send (frame : SentFrame)
  | stop (why : Stop)
  deriving DecidableEq

/-- What an operation answers. A stop does not answer. -/
abbrev RouterOp.Resp : RouterOp → Type
  | .lookup _ => Option SrArpentry
  | .insert _ _ => Option SrArpreq
  | .queuereq _ _ _ => ℕ
  | .handleArpreq _ => Unit
  | .send _ => Unit
  | .stop _ => Empty

/-- The clock reading an operation sees and the rounds granted to its loop. -/
structure Moment where
  now : ℤ
  rounds : ℕ

/-- Execute an operation on the ARP cache. -/
def execOp (sr : SrInstance) (m : Moment) :
    (o : RouterOp) → SrArpcache → Action (SrArpcache × o.Resp)
  | .lookup ip, cache => pure (cache, srArpcacheLookup cache ip)
  | .insert mac ip, cache => pure (srArpcacheInsert m.now cache mac ip)
  | .queuereq ip packet iface, cache => pure (srArpcacheQueuereq cache ip packet iface)
  | .handleArpreq arpreq, cache => do
    let cache ← handleArpreq sr m.now m.rounds cache arpreq
    pure (cache, ())
  | .send frame, cache => .returned [frame] (cache, ())
  | .stop why, _ => .stop why

section Answers

variable {sr : SrInstance} {m : Moment} {cache cache' : SrArpcache} {ip : Ip} {mac : Mac}

theorem returns_lookup {r : Option SrArpentry}
    (returns : (execOp sr m (.lookup ip) cache).Returns (cache', r)) :
    cache' = cache ∧ r = srArpcacheLookup cache ip := by
  obtain ⟨state, answer⟩ := Prod.mk.inj (Except.ok.inj returns)
  exact ⟨state.symm, answer.symm⟩

theorem returns_insert {r : Option SrArpreq}
    (returns : (execOp sr m (.insert mac ip) cache).Returns (cache', r)) :
    cache' = (srArpcacheInsert m.now cache mac ip).1 ∧ r = cache.requestFor ip := by
  obtain ⟨state, answer⟩ := Prod.mk.inj (Except.ok.inj returns)
  exact ⟨state.symm, answer.symm⟩

theorem returns_queuereq {packet : Bytes} {iface : IfName} {r : ℕ}
    (returns : (execOp sr m (.queuereq ip packet iface) cache).Returns (cache', r)) :
    cache' = (srArpcacheQueuereq cache ip packet iface).1 ∧
      r = (srArpcacheQueuereq cache ip packet iface).2 := by
  have same : srArpcacheQueuereq cache ip packet iface = (cache', r) := Except.ok.inj returns
  rw [same]
  exact ⟨rfl, rfl⟩

theorem returns_send {frame : SentFrame} {r : Unit}
    (returns : (execOp sr m (.send frame) cache).Returns (cache', r)) : cache' = cache :=
  (Prod.mk.inj (Except.ok.inj returns)).1.symm

theorem returns_handleArpreq {arpreq : ℕ} {r : Unit}
    (returns : (execOp sr m (.handleArpreq arpreq) cache).Returns (cache', r)) :
    (handleArpreq sr m.now m.rounds cache arpreq).Returns cache' := by
  obtain ⟨cache'', handled, same⟩ := Outcome.returns_bind.mp returns
  obtain ⟨state, -⟩ := Prod.mk.inj (Except.ok.inj same)
  exact state ▸ handled

end Answers

/-- Code of the main thread. -/
abbrev RouterProgram := Program RouterOp RouterOp.Resp

section Embedding

variable {α : Type}

/-- How a computation without cache access ends, as a program. -/
def endWith : Except Stop α → RouterProgram α
  | .ok a => .done a
  -- No operation follows a stop, since it has no answer.
  | .error why => .op (.stop why) Empty.elim

/-- A computation without cache access performs its sends one after the other. -/
def ofAction (x : Action α) : RouterProgram α :=
  x.sent.foldr (fun frame rest => .op (.send frame) fun _ => rest) (endWith x.result)

instance : MonadLift Action RouterProgram := ⟨ofAction⟩

@[simp] theorem liftM_pure (a : α) : (liftM (pure a : Action α) : RouterProgram α) = .done a := rfl

@[simp] theorem liftM_returned_singleton (frame : SentFrame) (a : α) :
    (liftM (Outcome.returned [frame] a : Action α) : RouterProgram α) =
      .op (.send frame) fun _ => .done a := rfl

@[simp] theorem liftM_fail (why : Fault) :
    (liftM (fail why : Action α) : RouterProgram α) = .op (.stop (.fault why)) Empty.elim := rfl

/-- The program does nothing but reach undefined behaviour. -/
def Stops (p : RouterProgram α) : Prop := ∃ why, p = .op (.stop why) Empty.elim

theorem stops_liftM {x : Action α} (faults : Faults x) : Stops (liftM x) := by
  obtain ⟨why, rfl⟩ := faults
  exact ⟨_, liftM_fail why⟩

theorem Stops.bind {β : Type} {p : RouterProgram α} (stops : Stops p) (next : α → RouterProgram β) :
    Stops (p >>= next) := by
  obtain ⟨why, rfl⟩ := stops
  refine ⟨why, ?_⟩
  rw [Program.op_bind]
  congr 1
  funext never
  exact never.elim

/-- A read of a field that does not fit stops the program. -/
theorem stops_load {n : ℕ} {f : Span n} {packet : Bytes} (cut : ¬ f.Fits packet)
    (next : Vector UInt8 n → RouterProgram α) : Stops (liftM (load f packet) >>= next) := by
  rw [load_of_not_fits cut]
  exact (stops_liftM (faults_fail _)).bind next

/-- A computation without cache access only sends and stops for its reason. -/
theorem only_liftM_of_reason {P : RouterOp → Prop} (send : ∀ frame, P (.send frame)) {x : Action α}
    (stop : ∀ why, x.reason = some why → P (.stop why)) : (liftM x : RouterProgram α).Only P := by
  obtain ⟨frames, result⟩ := x
  change (ofAction ⟨frames, result⟩).Only P
  induction frames with
  -- Every frame is one send; behind them the computation is done or stops.
  | nil =>
    cases result with
    | ok a => exact .done a
    | error why => exact .op (stop why rfl) fun never => never.elim
  | cons frame rest ih => exact .op (send frame) fun _ => ih stop

theorem only_liftM {P : RouterOp → Prop} (send : ∀ frame, P (.send frame))
    (stop : ∀ why, P (.stop why)) (x : Action α) : (liftM x : RouterProgram α).Only P :=
  only_liftM_of_reason send fun why _ => stop why

theorem Stops.only {P : RouterOp → Prop} (stop : ∀ why, P (.stop why)) {p : RouterProgram α}
    (stops : Stops p) : p.Only P := by
  obtain ⟨why, rfl⟩ := stops
  exact .op (stop why) fun never => never.elim

@[simp] theorem liftM_srSendPacket (sender : Sender) (buf : Bytes) (iface : IfName) :
    (liftM (srSendPacket sender buf iface) : RouterProgram Unit) =
      .op (.send ⟨sender, buf, iface⟩) fun _ => .done () := rfl

end Embedding

/-! ## Performing operations -/

def callLookup (ip : Ip) : RouterProgram (Option SrArpentry) := .op (.lookup ip) .done

def callInsert (mac : Mac) (ip : Ip) : RouterProgram (Option SrArpreq) :=
  .op (.insert mac ip) .done

def callQueuereq (ip : Ip) (packet : Bytes) (iface : IfName) : RouterProgram ℕ :=
  .op (.queuereq ip packet iface) .done

def callHandleArpreq (arpreq : ℕ) : RouterProgram Unit := .op (.handleArpreq arpreq) .done

variable (sr : SrInstance)

/-! ## The functions -/

/-- The second half of `forward_ip_packet`: find the route and the hardware
address, then send the packet or queue a copy of it. -/
def forwardRouted (packet : Bytes) : RouterProgram Unit := do
  let (routeResult, outboundIf) ← checkRoute sr packet SrIf.zero
  if routeResult = 1 then
    let dst ← load ipDst packet
    match ← callLookup dst with
    | some arpentry =>
      let packet ← store etherDhost arpentry.mac packet
      let packet ← store etherShost outboundIf.addr packet
      srSendPacket .forwardIpPacket packet outboundIf.name
    -- The copy is queued under the destination of the packet it was made from.
    | none =>
      let tmppkt ← store etherDhost (.replicate 6 0) packet
      let tmppkt ← store etherShost outboundIf.addr tmppkt
      let dst ← load ipDst packet
      let arpreq ← callQueuereq dst tmppkt outboundIf.name
      callHandleArpreq arpreq
  else pure ()

/-- `forward_ip_packet`. -/
def forwardIpPacket (packet : Bytes) (interface : IfName) : RouterProgram Unit := do
  let ttl ← load ipTtl packet
  let packet ← store ipTtl #v[hostU8 ttl - 1] packet
  let packet ← redoIpSum packet
  let ttl ← load ipTtl packet
  if hostU8 ttl = 0 then
    -- An expired packet is reported but not dropped: what is routed next is the
    -- packet as `send_icmp_error` has rewritten it.
    let packet ← sendIcmpError sr packet interface 11 0
    forwardRouted sr packet
  else forwardRouted sr packet

/-- The end of `deal_arp`: the first packet of the unlinked request is sent. The
other packets, and the request itself, are forgotten. -/
def sendFirstWaiting (packet : Bytes) (arpreq : SrArpreq) : Action Unit :=
  match arpreq.packets with
  | [] => fail .nullPacket
  | current :: _ => do
    let shost ← load etherShost packet
    let buf ← store etherDhost shost current.buf
    srSendPacket .dealArp buf current.iface

/-- The middle of `deal_arp`: a reply whose sender is known already is routed as if it
were an IP packet and sent on. -/
def resendReply (packet : Bytes) : RouterProgram Unit := do
  let (_, outIf) ← checkRoute sr packet SrIf.zero
  srSendPacket .dealArp packet outIf.name

/-- `deal_arp`. -/
def dealArp (packet : Bytes) (interface : IfName) : RouterProgram Unit := do
  let op ← load arOp packet
  if ntohs (hostU16 op) = arpOpRequest then
    replyToArpRequest sr packet interface
  else if ntohs (hostU16 op) = arpOpReply then
    let sip ← load arSip packet
    match ← callLookup sip with
    | some _ => resendReply sr packet
    | none =>
      let sha ← load arSha packet
      match ← callInsert sha sip with
      | some arpreq => sendFirstWaiting packet arpreq
      | none => pure ()
  else pure ()

/-- `deal_ip`. -/
def dealIp (packet : Bytes) (interface : IfName) : RouterProgram Unit := do
  let targetIp ← load ipDst packet
  let (validateIpResult, packet) ← validateIp packet
  if validateIpResult ≠ 1 then pure ()
  else
    match checkInterface sr targetIp with
    | some destInterface =>
      let p ← load ipP packet
      if hostU8 p = ipProtocolIcmp then
        replyToIcmpRequest sr packet interface destInterface
      else if hostU8 p = ipProtocolTcp ∨ hostU8 p = ipProtocolUdp then
        let _ ← sendIcmpError sr packet interface 3 3
      else pure ()
    | none => forwardIpPacket sr packet interface

/-- `sr_handlepacket`. -/
def srHandlepacket (packet : Bytes) (interface : IfName) : RouterProgram Unit := do
  let checkEthernetResult ← checkEthernet packet sr.ifList
  if checkEthernetResult then
    let ethertype ← load etherType packet
    if ntohs (hostU16 ethertype) = ethertypeArp then dealArp sr packet interface
    else if ntohs (hostU16 ethertype) = ethertypeIp then dealIp sr packet interface
    else pure ()
  else pure ()

/-! ## The frames they pass on -/

/-- The packet with its TTL decremented and its checksum recomputed. -/
def decremented (packet : Bytes) : Bytes :=
  withIpSum (ipTtl.set #v[hostU8 (ipTtl.get packet) - 1] packet)

/-- The packet with new Ethernet addresses. -/
def readdressed (dhost shost : Mac) (packet : Bytes) : Bytes :=
  etherShost.set shost (etherDhost.set dhost packet)

@[simp] theorem length_decremented (packet : Bytes) :
    (decremented packet).length = packet.length := by
  simp [decremented]

@[simp] theorem length_readdressed (dhost shost : Mac) (packet : Bytes) :
    (readdressed dhost shost packet).length = packet.length := by
  simp [readdressed]

variable {sr} {packet : Bytes} {interface : IfName}

theorem ttl_decremented (long : 34 ≤ packet.length) :
    hostU8 (ipTtl.get (decremented packet)) = hostU8 (ipTtl.get packet) - 1 := by
  rw [decremented, get_withIpSum (by decide), Span.get_set_self _ (fits_of_le long (by decide)),
    hostU8_mk]

/-- Decrementing the TTL leaves every field apart from the TTL and the checksum. -/
theorem get_decremented {n : ℕ} {f : Span n} (offTtl : f.Disjoint ipTtl) (offSum : f.Disjoint ipSum)
    (packet : Bytes) : f.get (decremented packet) = f.get packet := by
  rw [decremented, get_withIpSum offSum, Span.get_set_of_disjoint offTtl]

theorem ipSrc_decremented (packet : Bytes) : ipSrc.get (decremented packet) = ipSrc.get packet :=
  get_decremented (by decide) (by decide) packet

theorem ipDst_decremented (packet : Bytes) : ipDst.get (decremented packet) = ipDst.get packet :=
  get_decremented (by decide) (by decide) packet

/-- New Ethernet addresses leave every other field. -/
theorem get_readdressed {n : ℕ} {f : Span n} (offDhost : f.Disjoint etherDhost)
    (offShost : f.Disjoint etherShost) (dhost shost : Mac) (packet : Bytes) :
    f.get (readdressed dhost shost packet) = f.get packet := by
  rw [readdressed, Span.get_set_of_disjoint offShost, Span.get_set_of_disjoint offDhost]

theorem shost_readdressed (long : 12 ≤ packet.length) (dhost shost : Mac) :
    etherShost.get (readdressed dhost shost packet) = shost :=
  Span.get_set_self _ (by simpa using fits_of_le long (by decide))

/-! ## What the functions do -/

/-- Routing a packet whose interface exists. -/
theorem forwardRouted_eq (long : 34 ≤ packet.length) {outboundIf : SrIf}
    (found : srGetInterface sr (routeInterface sr (ipDst.get packet)) = some outboundIf) :
    forwardRouted sr packet = .op (.lookup (ipDst.get packet)) fun
      | some arpentry =>
        .op (.send ⟨.forwardIpPacket, readdressed arpentry.mac outboundIf.addr packet,
          outboundIf.name⟩) fun _ => .done ()
      | none =>
        .op (.queuereq (ipDst.get packet) (readdressed (.replicate 6 0) outboundIf.addr packet)
          outboundIf.name) fun arpreq => .op (.handleArpreq arpreq) .done := by
  rw [forwardRouted, checkRoute_of_some (fits_of_le long (by decide)) SrIf.zero found,
    load_of_fits (fits_of_le long (by decide))]
  simp only [liftM_pure, Program.done_bind, if_true, callLookup, callQueuereq, Program.op_bind]
  congr 1
  funext entry
  cases entry with
  | some arpentry =>
    simp (disch := first
      | exact fits_of_le long (by decide)
      | (simp only [Span.fits_set]; exact fits_of_le long (by decide))) only
      [store_of_fits, liftM_pure, Program.done_bind, liftM_srSendPacket]
    rfl
  | none =>
    simp (disch := first
      | exact fits_of_le long (by decide)
      | (simp only [Span.fits_set]; exact fits_of_le long (by decide))) only
      [store_of_fits, liftM_pure, Program.done_bind]
    rfl

/-- Without the interface the route lookup dereferences null. -/
theorem forwardRouted_stops (long : 34 ≤ packet.length)
    (missing : srGetInterface sr (routeInterface sr (ipDst.get packet)) = none) :
    Stops (forwardRouted sr packet) := by
  rw [forwardRouted, checkRoute_of_none (fits_of_le long (by decide)) SrIf.zero missing]
  exact (stops_liftM (faults_fail _)).bind _

/-- The decremented TTL is zero for a TTL of one only: zero wraps around. -/
theorem expires_iff (ttl : UInt8) : ttl - 1 = 0 ↔ ttl = 1 := by
  have := ttl.toNat_lt
  rw [← UInt8.toNat_inj, ← UInt8.toNat_inj, UInt8.toNat_sub]
  simp only [UInt8.toNat_one, UInt8.toNat_zero]
  omega

/-- The packet is routed with its TTL decremented, after the report of its expiry
when its TTL was one. -/
theorem forwardIpPacket_eq (long : 34 ≤ packet.length) :
    forwardIpPacket sr packet interface =
      if hostU8 (ipTtl.get packet) = 1 then do
        let packet ← sendIcmpError sr (decremented packet) interface 11 0
        forwardRouted sr packet
      else forwardRouted sr (decremented packet) := by
  rw [forwardIpPacket, load_of_fits (fits_of_le long (by decide)), liftM_pure, Program.done_bind,
    store_of_fits (fits_of_le long (by decide)), liftM_pure, Program.done_bind,
    redoIpSum_eq (by simpa using long), liftM_pure, Program.done_bind, ← decremented,
    load_of_fits (fits_of_le (by simpa using long) (by decide)), liftM_pure, Program.done_bind,
    ttl_decremented long]
  simp only [expires_iff]

/-- A packet whose TTL does not expire is routed with its TTL decremented. -/
theorem forwardIpPacket_of_alive (long : 34 ≤ packet.length)
    (alive : hostU8 (ipTtl.get packet) ≠ 1) :
    forwardIpPacket sr packet interface = forwardRouted sr (decremented packet) := by
  rw [forwardIpPacket_eq long, if_neg alive]

/-- A packet whose TTL is one is reported as expired and routed all the same. -/
theorem forwardIpPacket_of_expired (long : 42 ≤ packet.length)
    (expired : hostU8 (ipTtl.get packet) = 1) {inboundIf : SrIf}
    (found : srGetInterface sr interface = some inboundIf) :
    forwardIpPacket sr packet interface =
      .op (.send ⟨.sendIcmpError, icmpErrorFrame inboundIf 11 0 (decremented packet), interface⟩)
        fun _ => forwardRouted sr (icmpErrorInbound inboundIf (decremented packet)) := by
  rw [forwardIpPacket_eq (by omega), if_pos expired, sendIcmpError_eq (by simpa using long) found]
  rfl

/-- A report that faults ends the handling of the packet. -/
theorem forwardIpPacket_stops (long : 34 ≤ packet.length) (expired : hostU8 (ipTtl.get packet) = 1)
    (unfit : ¬ (42 ≤ packet.length ∧ (srGetInterface sr interface).isSome)) :
    Stops (forwardIpPacket sr packet interface) := by
  rw [forwardIpPacket_eq long, if_pos expired]
  exact (stops_liftM (sendIcmpError_faults (by simpa using unfit) 11 0)).bind _

/-! ### ARP frames -/

def ArpRequest (packet : Bytes) : Prop := ntohs (hostU16 (arOp.get packet)) = arpOpRequest

def ArpReply (packet : Bytes) : Prop := ntohs (hostU16 (arOp.get packet)) = arpOpReply

instance (packet : Bytes) : Decidable (ArpRequest packet) := inferInstanceAs (Decidable (_ = _))

instance (packet : Bytes) : Decidable (ArpReply packet) := inferInstanceAs (Decidable (_ = _))

theorem arpRequest_iff : ArpRequest packet ↔ ntohs (hostU16 (arOp.get packet)) = arpOpRequest :=
  Iff.rfl

theorem arpReply_iff : ArpReply packet ↔ ntohs (hostU16 (arOp.get packet)) = arpOpReply := Iff.rfl

theorem ArpReply.not_request (reply : ArpReply packet) : ¬ ArpRequest packet := by
  intro request
  have same : arpOpRequest = arpOpReply := request.symm.trans reply
  exact absurd same (by decide)

/-- An ARP request is answered. -/
theorem dealArp_of_request (long : 42 ≤ packet.length) (request : ArpRequest packet)
    {inboundIf : SrIf} (found : srGetInterface sr interface = some inboundIf) :
    dealArp sr packet interface =
      .op (.send ⟨.replyToArpRequest, arpReplyFrame inboundIf packet, interface⟩)
        fun _ => .done () := by
  rw [dealArp, load_of_fits (fits_of_le long (by decide)), liftM_pure, Program.done_bind,
    if_pos (arpRequest_iff.mp request), replyToArpRequest_eq long found]
  rfl

/-- An ARP request that is cut off is not. -/
theorem dealArp_stops_of_request (long : 22 ≤ packet.length) (request : ArpRequest packet)
    (unfit : ¬ (42 ≤ packet.length ∧ (srGetInterface sr interface).isSome)) :
    Stops (dealArp sr packet interface) := by
  rw [dealArp, load_of_fits (fits_of_le long (by decide)), liftM_pure, Program.done_bind,
    if_pos (arpRequest_iff.mp request)]
  exact stops_liftM (replyToArpRequest_faults unfit)

/-- An ARP frame whose operation is cut off is read past its end. -/
theorem dealArp_stops (short : packet.length < 22) : Stops (dealArp sr packet interface) :=
  stops_load (Nat.not_le_of_lt short) _

/-- What `deal_arp` does with the request that the insertion has unlinked, if any. -/
def releaseFirst (packet : Bytes) : Option SrArpreq → RouterProgram Unit
  | some arpreq => liftM (sendFirstWaiting packet arpreq)
  | none => .done ()

/-- An ARP reply is looked up, and entered unless it is known. -/
theorem dealArp_of_reply (long : 32 ≤ packet.length) (reply : ArpReply packet) :
    dealArp sr packet interface = .op (.lookup (arSip.get packet)) fun
      | some _ => resendReply sr packet
      | none => .op (.insert (arSha.get packet) (arSip.get packet)) (releaseFirst packet) := by
  rw [dealArp, load_of_fits (fits_of_le long (by decide)), liftM_pure, Program.done_bind,
    if_neg (mt arpRequest_iff.mpr reply.not_request), if_pos (arpReply_iff.mp reply),
    load_of_fits (fits_of_le long (by decide)), liftM_pure, Program.done_bind, callLookup,
    Program.op_bind]
  congr 1
  funext entry
  cases entry with
  | some arpentry => rfl
  | none =>
    simp only [Program.done_bind, load_of_fits (fits_of_le (f := arSha) long (by decide)),
      liftM_pure, callInsert, Program.op_bind]
    rfl

/-- So is an ARP reply whose sender is cut off. -/
theorem dealArp_stops_of_reply (long : 22 ≤ packet.length) (short : packet.length < 32)
    (reply : ArpReply packet) : Stops (dealArp sr packet interface) := by
  rw [dealArp, load_of_fits (fits_of_le long (by decide)), liftM_pure, Program.done_bind,
    if_neg (mt arpRequest_iff.mpr reply.not_request), if_pos (arpReply_iff.mp reply)]
  exact stops_load (Nat.not_le_of_lt short) _

/-- Any other ARP frame is ignored. -/
theorem dealArp_of_other (long : 22 ≤ packet.length) (request : ¬ ArpRequest packet)
    (reply : ¬ ArpReply packet) : dealArp sr packet interface = .done () := by
  rw [dealArp, load_of_fits (fits_of_le long (by decide)), liftM_pure, Program.done_bind,
    if_neg (mt arpRequest_iff.mpr request)]
  exact if_neg reply

/-- A known reply leaves by the interface that `check_route` reports for it. -/
theorem resendReply_of_returns {result : ℕ} {outIf : SrIf}
    (routed : (checkRoute sr packet SrIf.zero).Returns (result, outIf)) :
    resendReply sr packet = .op (.send ⟨.dealArp, packet, outIf.name⟩) fun _ => .done () := by
  rcases checkRoute_cases sr packet SrIf.zero with faults | ⟨tmpFace, -, same⟩
  · exact absurd routed (faults.not_returns _)
  · rw [same] at routed
    cases routed
    rw [resendReply, same]
    rfl

theorem resendReply_cases (sr : SrInstance) (packet : Bytes) :
    Stops (resendReply sr packet) ∨
      ∃ result outIf, (checkRoute sr packet SrIf.zero).Returns (result, outIf) ∧
        resendReply sr packet = .op (.send ⟨.dealArp, packet, outIf.name⟩) fun _ => .done () := by
  rcases checkRoute_cases sr packet SrIf.zero with faults | ⟨tmpFace, -, same⟩
  · exact .inl ((stops_liftM faults).bind _)
  · have routed : (checkRoute sr packet SrIf.zero).Returns
        (1, { SrIf.zero with name := tmpFace.name, addr := tmpFace.addr }) := by
      rw [same]
      rfl
    exact .inr ⟨_, _, routed, resendReply_of_returns routed⟩

/-- The first waiting packet is sent to the Ethernet source of the reply. -/
theorem sendFirstWaiting_eq (long : 12 ≤ packet.length) {arpreq : SrArpreq} {current : SrPacket}
    {rest : List SrPacket} (waiting : arpreq.packets = current :: rest)
    (stored : 6 ≤ current.buf.length) :
    sendFirstWaiting packet arpreq =
      .returned [⟨.dealArp, etherDhost.set (etherShost.get packet) current.buf, current.iface⟩]
        () := by
  rw [sendFirstWaiting, waiting]
  simp only [load_of_fits (fits_of_le (f := etherShost) long (by decide)), pure_bind,
    store_of_fits (fits_of_le (f := etherDhost) stored (by decide))]
  rfl

/-! ### IP packets -/

theorem dealIp_of_invalid (long : 34 ≤ packet.length) (invalid : ¬ ValidIp packet) :
    dealIp sr packet interface = .done () := by
  obtain ⟨packet', dropped⟩ := validateIp_of_not_valid long invalid
  rw [dealIp, load_of_fits (fits_of_le long (by decide)), dropped]
  rfl

/-- A valid packet is for one of the interfaces or is forwarded. -/
theorem dealIp_of_valid (long : 34 ≤ packet.length) (valid : ValidIp packet) :
    dealIp sr packet interface = match checkInterface sr (ipDst.get packet) with
      | some destInterface =>
        if hostU8 (ipP.get packet) = ipProtocolIcmp then
          liftM (replyToIcmpRequest sr packet interface destInterface)
        else if hostU8 (ipP.get packet) = ipProtocolTcp ∨
            hostU8 (ipP.get packet) = ipProtocolUdp then do
          let _ ← sendIcmpError sr packet interface 3 3
        else pure ()
      | none => forwardIpPacket sr packet interface := by
  rw [dealIp, load_of_fits (fits_of_le long (by decide)), validateIp_of_valid long valid]
  simp only [liftM_pure, Program.done_bind, ne_eq, not_true_eq_false, if_false,
    load_of_fits (fits_of_le (f := ipP) long (by decide))]

theorem dealIp_of_foreign (long : 34 ≤ packet.length) (valid : ValidIp packet)
    (foreign : checkInterface sr (ipDst.get packet) = none) :
    dealIp sr packet interface = forwardIpPacket sr packet interface := by
  rw [dealIp_of_valid long valid, foreign]

/-- Any ICMP message to the router is answered as if it were an echo request. -/
theorem dealIp_of_icmp (long : 35 ≤ packet.length) (valid : ValidIp packet)
    {destInterface first : SrIf}
    (ours : checkInterface sr (ipDst.get packet) = some destInterface)
    (icmp : hostU8 (ipP.get packet) = ipProtocolIcmp) (head : sr.ifList.head? = some first) :
    dealIp sr packet interface =
      .op (.send ⟨.replyToIcmpRequest, icmpReplyFrame first destInterface packet, interface⟩)
        fun _ => .done () := by
  rw [dealIp_of_valid (by omega) valid, ours]
  simp only [if_pos icmp, replyToIcmpRequest_eq long head]
  rfl

/-- TCP and UDP to the router are answered with a port unreachable. -/
theorem dealIp_of_transport (long : 42 ≤ packet.length) (valid : ValidIp packet)
    {destInterface : SrIf}
    (ours : checkInterface sr (ipDst.get packet) = some destInterface)
    (transport : hostU8 (ipP.get packet) = ipProtocolTcp ∨ hostU8 (ipP.get packet) = ipProtocolUdp)
    {inboundIf : SrIf} (found : srGetInterface sr interface = some inboundIf) :
    dealIp sr packet interface =
      .op (.send ⟨.sendIcmpError, icmpErrorFrame inboundIf 3 3 packet, interface⟩)
        fun _ => .done () := by
  have other : hostU8 (ipP.get packet) ≠ ipProtocolIcmp := by
    rcases transport with tcp | udp
    · rw [tcp]
      decide
    · rw [udp]
      decide
  rw [dealIp_of_valid (by omega) valid, ours]
  simp only [if_neg other, if_pos transport, sendIcmpError_eq long found]
  rfl

/-- Without its type an ICMP message is not answered. -/
theorem dealIp_stops_of_icmp (long : 34 ≤ packet.length) (short : packet.length < 35)
    (valid : ValidIp packet) {destInterface : SrIf}
    (ours : checkInterface sr (ipDst.get packet) = some destInterface)
    (icmp : hostU8 (ipP.get packet) = ipProtocolIcmp) : Stops (dealIp sr packet interface) := by
  rw [dealIp_of_valid long valid, ours]
  simp only [if_pos icmp]
  exact stops_liftM (replyToIcmpRequest_faults short destInterface)

/-- Too little of a TCP or UDP packet cannot be quoted. -/
theorem dealIp_stops_of_transport (long : 34 ≤ packet.length) (valid : ValidIp packet)
    {destInterface : SrIf} (ours : checkInterface sr (ipDst.get packet) = some destInterface)
    (icmp : hostU8 (ipP.get packet) ≠ ipProtocolIcmp)
    (transport : hostU8 (ipP.get packet) = ipProtocolTcp ∨ hostU8 (ipP.get packet) = ipProtocolUdp)
    (unfit : ¬ (42 ≤ packet.length ∧ (srGetInterface sr interface).isSome)) :
    Stops (dealIp sr packet interface) := by
  rw [dealIp_of_valid long valid, ours]
  simp only [if_neg icmp, if_pos transport]
  exact (stops_liftM (sendIcmpError_faults unfit 3 3)).bind _

/-- An IP header that is cut off is read past its end. -/
theorem dealIp_stops (short : packet.length < 34) : Stops (dealIp sr packet interface) :=
  stops_load (Nat.not_le_of_lt short) _

/-- Any other protocol is ignored. -/
theorem dealIp_of_other (long : 34 ≤ packet.length) (valid : ValidIp packet) {destInterface : SrIf}
    (ours : checkInterface sr (ipDst.get packet) = some destInterface)
    (icmp : hostU8 (ipP.get packet) ≠ ipProtocolIcmp)
    (transport : ¬ (hostU8 (ipP.get packet) = ipProtocolTcp ∨
      hostU8 (ipP.get packet) = ipProtocolUdp)) :
    dealIp sr packet interface = .done () := by
  rw [dealIp_of_valid long valid, ours]
  simp only [if_neg icmp, if_neg transport]
  rfl

/-! ### Frames -/

def IsArp (packet : Bytes) : Prop := ntohs (hostU16 (etherType.get packet)) = ethertypeArp

def IsIp (packet : Bytes) : Prop := ntohs (hostU16 (etherType.get packet)) = ethertypeIp

instance (packet : Bytes) : Decidable (IsArp packet) := inferInstanceAs (Decidable (_ = _))

instance (packet : Bytes) : Decidable (IsIp packet) := inferInstanceAs (Decidable (_ = _))

theorem IsArp.not_ip (arp : IsArp packet) : ¬ IsIp packet := by
  intro ip
  have same : ethertypeArp = ethertypeIp := arp.symm.trans ip
  exact absurd same (by decide)

/-- Frames are dispatched on their destination and their Ethernet type. -/
theorem srHandlepacket_eq (long : 14 ≤ packet.length) (some : sr.ifList ≠ []) :
    srHandlepacket sr packet interface =
      if ForRouter sr packet then
        if IsArp packet then dealArp sr packet interface
        else if IsIp packet then dealIp sr packet interface
        else .done ()
      else .done () := by
  rw [srHandlepacket, checkEthernet_eq sr (by omega) some, liftM_pure, Program.done_bind,
    load_of_fits (fits_of_le long (by decide)), liftM_pure, Program.done_bind]
  by_cases ours : ForRouter sr packet
  · simp only [ours, decide_true, if_true]
    rfl
  · simp only [ours, decide_false, Bool.false_eq_true, if_false]
    rfl

/-- A frame that is not for the router is dropped. -/
theorem srHandlepacket_of_foreign (long : 6 ≤ packet.length) (some : sr.ifList ≠ [])
    (foreign : ¬ ForRouter sr packet) : srHandlepacket sr packet interface = .done () := by
  rw [srHandlepacket, checkEthernet_eq sr long some, liftM_pure, Program.done_bind,
    decide_eq_false foreign]
  rfl

/-- The Ethernet type of a frame for the router is read past its end. -/
theorem srHandlepacket_stops (long : 6 ≤ packet.length) (short : packet.length < 14)
    (some : sr.ifList ≠ []) (ours : ForRouter sr packet) :
    Stops (srHandlepacket sr packet interface) := by
  rw [srHandlepacket, checkEthernet_eq sr long some, liftM_pure, Program.done_bind,
    decide_eq_true ours, if_pos rfl]
  exact stops_load (Nat.not_le_of_lt short) _

/-- A frame without a whole destination address is dropped or read past its end. -/
theorem srHandlepacket_short (short : packet.length < 6) (some : sr.ifList ≠ []) :
    srHandlepacket sr packet interface =
      if CutWithin packet (breadcast :: sr.ifList.map SrIf.addr) then
        .op (.stop (.fault .outOfBounds)) Empty.elim
      else .done () := by
  rw [srHandlepacket, checkEthernet_short short some]
  by_cases cut : CutWithin packet (breadcast :: sr.ifList.map SrIf.addr)
  · rw [if_pos cut, if_pos cut, liftM_fail, Program.op_bind]
    congr 1
    funext never
    exact never.elim
  · rw [if_neg cut, if_neg cut]
    rfl

/-- Without a whole Ethernet header or without interfaces, nothing comes of a frame. -/
theorem srHandlepacket_cut (cut : packet.length < 14 ∨ sr.ifList = []) :
    Stops (srHandlepacket sr packet interface) ∨ srHandlepacket sr packet interface = .done () := by
  by_cases empty : sr.ifList = []
  · -- `check_ethernet` asserts that there is an interface.
    rw [srHandlepacket, checkEthernet, if_pos empty]
    exact .inl ((stops_liftM (faults_fail _)).bind _)
  have short : packet.length < 14 := cut.resolve_right empty
  by_cases long : 6 ≤ packet.length
  · -- The Ethernet type is read only of a frame that is for the router.
    by_cases ours : ForRouter sr packet
    · exact .inl (srHandlepacket_stops long short empty ours)
    · exact .inr (srHandlepacket_of_foreign long empty ours)
  · rw [srHandlepacket_short (Nat.lt_of_not_le long) empty]
    split
    · exact .inl ⟨_, rfl⟩
    · exact .inr rfl

end SimpleRouter
