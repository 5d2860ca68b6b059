/-
# Staying inside the packet

Every handler casts the buffer to header structures, and none compares `len` with what
it reads: the only length that is checked is the one in the IP header, which the sender
wrote. A frame that is too short is therefore read past its end, and one that holds
what is read of its headers but not the whole of them is handled like any other.

In a reachable state, no access leaves the buffer and no frame that is too short is
handled, if and only if the frame is as long as the condition `LongEnough` says.
-/

import SimpleRouter.TtlDiscipline

namespace SimpleRouter

open Buffers Effects Machine

variable {sr : SrInstance} {m : Moment} {cache : SrArpcache} {packet : Bytes} {interface : IfName}
  {outboundIf : SrIf} {now : ℤ}

/-! ## What is asked of the code -/

/-- `sizeof(struct sr_icmp_hdr)`. -/
def icmpHdrSize : ℕ := 4

/-- The bytes an ICMP error quotes of the IP packet. -/
def quotedSize : ℕ := 28

/-- The computation ends with an access outside a buffer. -/
def Overruns {α : Type} (x : Action α) : Prop := x.reason = some (.fault .outOfBounds)

instance {α : Type} (x : Action α) : Decidable (Overruns x) := inferInstanceAs (Decidable (_ = _))

/-- The length of the headers, and of what is quoted, on the path of the frame. -/
def neededBytes (sr : SrInstance) (packet : Bytes) : ℕ :=
  if IsArp packet then ethHdrSize + arpHdrSize
  else if IsIp packet then
    match checkInterface sr (ipDst.get packet) with
    | some _ =>
      if hostU8 (ipP.get packet) = ipProtocolIcmp then ethHdrSize + ipHdrSize + icmpHdrSize
      else if hostU8 (ipP.get packet) = ipProtocolTcp ∨ hostU8 (ipP.get packet) = ipProtocolUdp then
        ethHdrSize + quotedSize
      else ethHdrSize + ipHdrSize
    | none =>
      if hostU8 (ipTtl.get packet) = 1 then ethHdrSize + quotedSize else ethHdrSize + ipHdrSize
  else ethHdrSize

/-- Handling the frame accesses no byte outside the buffer, and a frame that is too short
for what its path needs is dropped. -/
structure StaysInside (sr : SrInstance) (now : ℤ) (cache : SrArpcache) (packet : Bytes)
    (interface : IfName) : Prop where
  inside : ∀ rounds,
    ¬ Overruns ((srHandlepacket sr packet interface).run (execOp sr ⟨now, rounds⟩) cache)
  dropped : packet.length < neededBytes sr packet → srHandlepacket sr packet interface = .done ()

/-! ## When the code does it -/

/-- A packet queued for the address now makes `handle_arpreq` give the request up, and so
report the packet. -/
structure GivesUp (sr : SrInstance) (now : ℤ) (cache : SrArpcache) (ip : Ip) : Prop where
  routed : (srGetInterface sr (routeInterface sr ip)).isSome
  fresh : ¬ cache.Resolved ip
  due : (cache.joined ip).Due now
  exhausted : (cache.joined ip).Exhausted

/-- An ARP frame for the router shows its operation, and is whole if that is one of the
two that are handled. -/
structure LongArp (packet : Bytes) : Prop where
  op : 22 ≤ packet.length
  whole : ArpRequest packet ∨ ArpReply packet → 42 ≤ packet.length

/-- An IP packet for the router shows its header. If that is valid, the packet has what
its path needs, and what the report of its copy quotes. -/
structure LongIp (sr : SrInstance) (now : ℤ) (cache : SrArpcache) (packet : Bytes) : Prop where
  header : 34 ≤ packet.length
  whole : ValidIp packet → neededBytes sr packet ≤ packet.length
  copy : ValidIp packet → checkInterface sr (ipDst.get packet) = none →
    GivesUp sr now cache (ipDst.get packet) → 42 ≤ packet.length

/-- The frame is long enough for what is read of it. -/
def LongEnough (sr : SrInstance) (now : ℤ) (cache : SrArpcache) (packet : Bytes) : Prop :=
  if packet.length < 6 then ¬ CutWithin packet (breadcast :: sr.ifList.map SrIf.addr)
  else ForRouter sr packet →
    14 ≤ packet.length ∧ (IsArp packet → LongArp packet) ∧
      (IsIp packet → LongIp sr now cache packet)

/-! ## Length of a path -/

theorem neededBytes_of_arp (arp : IsArp packet) : neededBytes sr packet = 42 := if_pos arp

theorem neededBytes_of_ip (ip : IsIp packet) : 34 ≤ neededBytes sr packet := by
  rw [neededBytes, if_neg fun arp => arp.not_ip ip, if_pos ip]
  simp only [ethHdrSize, ipHdrSize, icmpHdrSize, quotedSize]
  repeat' split
  all_goals decide

theorem neededBytes_of_foreign (ip : IsIp packet)
    (foreign : checkInterface sr (ipDst.get packet) = none) :
    neededBytes sr packet = if hostU8 (ipTtl.get packet) = 1 then 42 else 34 := by
  rw [neededBytes, if_neg fun arp => arp.not_ip ip, if_pos ip, foreign]
  rfl

theorem neededBytes_of_ours (ip : IsIp packet) {destInterface : SrIf}
    (ours : checkInterface sr (ipDst.get packet) = some destInterface) :
    neededBytes sr packet =
      if hostU8 (ipP.get packet) = ipProtocolIcmp then 38
      else if hostU8 (ipP.get packet) = ipProtocolTcp ∨
          hostU8 (ipP.get packet) = ipProtocolUdp then 42
      else 34 := by
  rw [neededBytes, if_neg fun arp => arp.not_ip ip, if_pos ip, ours]
  rfl

theorem le_neededBytes (sr : SrInstance) (packet : Bytes) : 14 ≤ neededBytes sr packet := by
  by_cases arp : IsArp packet
  · rw [neededBytes_of_arp arp]
    decide
  by_cases ip : IsIp packet
  · exact Nat.le_trans (by decide) (neededBytes_of_ip ip)
  · rw [neededBytes, if_neg arp, if_neg ip]
    exact Nat.le_refl _

/-! ## Frames that are dropped or read past their end -/

theorem staysInside_of_done (done : srHandlepacket sr packet interface = .done ()) :
    StaysInside sr now cache packet interface := by
  refine ⟨fun rounds overruns => ?_, fun _ => done⟩
  rw [done] at overruns
  cases overruns

/-- A frame that is too short and performs an operation is not dropped. -/
theorem not_staysInside_of_op (short : packet.length < neededBytes sr packet) {o : RouterOp}
    {next : o.Resp → RouterProgram Unit}
    (performs : srHandlepacket sr packet interface = .op o next) :
    ¬ StaysInside sr now cache packet interface := by
  intro stays
  rw [stays.dropped short] at performs
  cases performs

theorem not_staysInside_of_stops (short : packet.length < neededBytes sr packet)
    (stops : Stops (srHandlepacket sr packet interface)) :
    ¬ StaysInside sr now cache packet interface := by
  obtain ⟨why, performs⟩ := stops
  exact not_staysInside_of_op short performs

/-- A frame that is long enough for its path only has to stay inside. -/
theorem staysInside_iff_of_whole (whole : neededBytes sr packet ≤ packet.length) :
    StaysInside sr now cache packet interface ↔ ∀ rounds,
      ¬ Overruns ((srHandlepacket sr packet interface).run (execOp sr ⟨now, rounds⟩) cache) :=
  ⟨StaysInside.inside, fun inside => ⟨inside, fun short => absurd short (Nat.not_lt_of_le whole)⟩⟩

theorem overruns_bind_pure {α β : Type} {x : Action α} (f : α → β) :
    Overruns (x >>= fun a => pure (f a)) ↔ Overruns x := by
  rw [Overruns, Outcome.reason_bind_eq_some]
  exact or_iff_left fun ⟨_, _, later⟩ => nomatch later

theorem not_overruns_returned {α : Type} (frames : List SentFrame) (a : α) :
    ¬ Overruns (.returned frames a) := nofun

/-! ## ARP frames -/

/-- A whole ARP reply is handled within its bounds. -/
theorem not_overruns_dealArp_reply (inv : CacheInv sr (fun _ _ => True) cache)
    (long : 42 ≤ packet.length) (reply : ArpReply packet) :
    ¬ Overruns ((dealArp sr packet interface).run (execOp sr m) cache) := by
  have fields : 32 ≤ packet.length := Nat.le_trans (by decide) long
  by_cases resolved : cache.Resolved (arSip.get packet)
  · rw [run_dealArp_of_resolved fields reply resolved, resendReply]
    -- The destination that is read of the reply lies within it.
    have fits : ipDst.Fits packet := fits_of_le long (by decide)
    cases route : srGetInterface sr (routeInterface sr (ipDst.get packet)) with
    | none =>
      rw [checkRoute_of_none fits SrIf.zero route]
      intro overruns
      cases overruns
    | some outIf =>
      rw [checkRoute_of_some fits SrIf.zero route]
      intro overruns
      cases overruns
  · cases pending : cache.requestFor (arSip.get packet) with
    | none =>
      rw [run_dealArp_of_idle fields reply resolved pending]
      exact not_overruns_returned _ _
    | some req =>
      have listed := mem_of_requestFor pending
      obtain ⟨current, rest, waits⟩ := List.exists_cons_of_ne_nil (inv.occupied req listed)
      have waiting := inv.waiting req listed current (waits ▸ List.mem_cons_self)
      rw [run_dealArp_of_waiting fields reply resolved pending waits
        (Nat.le_trans (by decide) waiting.long)]
      exact not_overruns_returned _ _

/-- Handling an ARP frame. -/
theorem staysInside_iff_of_arp (inv : CacheInv sr (fun _ _ => True) cache)
    (found : srGetInterface sr interface = some outboundIf) (arp : IsArp packet)
    (handled : srHandlepacket sr packet interface = dealArp sr packet interface) :
    StaysInside sr now cache packet interface ↔ LongArp packet := by
  have needed : neededBytes sr packet = 42 := neededBytes_of_arp arp
  by_cases cut : packet.length < 22
  · have short : packet.length < neededBytes sr packet := by omega
    exact iff_of_false (not_staysInside_of_stops short (handled ▸ dealArp_stops cut)) fun long =>
      Nat.not_lt_of_le long.op cut
  have shown : 22 ≤ packet.length := Nat.le_of_not_lt cut
  by_cases request : ArpRequest packet
  · by_cases whole : 42 ≤ packet.length
    · refine iff_of_true ((staysInside_iff_of_whole (needed ▸ whole)).mpr fun rounds => ?_)
        ⟨shown, fun _ => whole⟩
      rw [handled, dealArp_of_request whole request found]
      intro overruns
      cases overruns
    · have stops : Stops (dealArp sr packet interface) :=
        dealArp_stops_of_request shown request fun fit => whole fit.1
      exact iff_of_false (not_staysInside_of_stops (by omega) (handled ▸ stops)) fun long =>
        whole (long.whole (.inl request))
  by_cases reply : ArpReply packet
  · by_cases whole : 42 ≤ packet.length
    · refine iff_of_true ((staysInside_iff_of_whole (needed ▸ whole)).mpr fun rounds => ?_)
        ⟨shown, fun _ => whole⟩
      rw [handled]
      exact not_overruns_dealArp_reply inv whole reply
    · refine iff_of_false ?_ fun long => whole (long.whole (.inr reply))
      -- Without its sender the reply is read past its end; with it, it is handled although
      -- the target is cut off.
      by_cases sender : 32 ≤ packet.length
      · exact not_staysInside_of_op (by omega) (handled.trans (dealArp_of_reply sender reply))
      · have stops : Stops (dealArp sr packet interface) :=
          dealArp_stops_of_reply shown (Nat.lt_of_not_le sender) reply
        exact not_staysInside_of_stops (by omega) (handled ▸ stops)
  · have other : dealArp sr packet interface = .done () := dealArp_of_other shown request reply
    exact iff_of_true (staysInside_of_done (handled.trans other))
      ⟨shown, fun either => absurd either (not_or.mpr ⟨request, reply⟩)⟩

/-! ## Routed packets -/

/-- The request a packet has joined, as `handle_arpreq` finds it. -/
theorem requestAt_queuereq {ip : Ip} {buf : Bytes} {iface : IfName} (some : buf ≠ []) :
    (srArpcacheQueuereq cache ip buf iface).1.requestAt (srArpcacheQueuereq cache ip buf iface).2 =
      .some { cache.joined ip with packets := ⟨buf, iface⟩ :: (cache.joined ip).packets } := by
  rw [addr_queuereq]
  exact requestAt_of_mem (joined_mem_queuereq cache ip some iface)

/-- About a packet that is long enough the loop of `handle_arpreq` only goes on. -/
theorem reason_hostUnreachableLoop {iface : IfName} {buf : Bytes} (long : 42 ≤ buf.length)
    (found : srGetInterface sr iface = some outboundIf) (rounds : ℕ) :
    (hostUnreachableLoop sr iface rounds buf).reason = some .running := by
  induction rounds generalizing buf with
  | zero => rfl
  | succ rounds ih =>
    rw [hostUnreachableLoop, sendIcmpError_eq long found, Outcome.returned_bind]
    exact ih (by simpa using long)

/-- Handling the request a copy has joined leaves the copy only if it is too short for a
report that is made at once. -/
theorem inside_handleArpreq_iff {ip : Ip} {buf : Bytes} {iface : IfName} (header : 34 ≤ buf.length)
    (found : srGetInterface sr iface = some outboundIf) :
    (∀ rounds, ¬ Overruns (handleArpreq sr now rounds (srArpcacheQueuereq cache ip buf iface).1
      (srArpcacheQueuereq cache ip buf iface).2)) ↔
        ((cache.joined ip).Due now → (cache.joined ip).Exhausted → 42 ≤ buf.length) := by
  have pending : (srArpcacheQueuereq cache ip buf iface).1.requestAt
      (srArpcacheQueuereq cache ip buf iface).2 = _ := requestAt_queuereq (ne_nil_of_long header)
  by_cases due : (cache.joined ip).Due now
  swap
  · refine iff_of_true (fun rounds => ?_) fun now => absurd now due
    rw [handleArpreq_of_early pending due]
    intro overruns
    cases overruns
  by_cases exhausted : (cache.joined ip).Exhausted
  swap
  · refine iff_of_true (fun rounds => ?_) fun _ given => absurd given exhausted
    rw [handleArpreq_of_again pending due exhausted rfl, sendArpRequest_eq header found]
    intro overruns
    cases overruns
  have reports (rounds : ℕ) : handleArpreq sr now rounds _ _ = _ :=
    handleArpreq_of_exhausted pending due exhausted
  by_cases long : 42 ≤ buf.length
  · refine iff_of_true (fun rounds overruns => ?_) fun _ _ => long
    rw [reports, overruns_bind_pure, reportUnreachable, Overruns,
      reason_hostUnreachableLoop long found] at overruns
    cases overruns
  · refine iff_of_false (fun inside => inside 1 ?_) fun fits => long (fits due exhausted)
    -- The first round of the loop quotes the copy past its end.
    rw [reports, overruns_bind_pure, reportUnreachable, hostUnreachableLoop,
      sendIcmpError_short (Nat.lt_of_not_le long) found]
    rfl

/-- Routing a packet leaves its buffer only if the copy is too short for a report that is
made at once. -/
theorem inside_forwardRouted_iff (header : 34 ≤ packet.length) :
    (∀ rounds, ¬ Overruns ((forwardRouted sr packet).run (execOp sr ⟨now, rounds⟩) cache)) ↔
      (GivesUp sr now cache (ipDst.get packet) → 42 ≤ packet.length) := by
  cases found : srGetInterface sr (routeInterface sr (ipDst.get packet)) with
  | none =>
    refine iff_of_true (fun rounds => ?_) fun given => ?_
    · rw [forwardRouted, checkRoute_of_none (fits_of_le header (by decide)) SrIf.zero found]
      intro overruns
      cases overruns
    · have routed := given.routed
      rw [found] at routed
      cases routed
  | some outboundIf =>
  by_cases resolved : cache.Resolved (ipDst.get packet)
  · refine iff_of_true (fun rounds => ?_) fun given => absurd resolved given.fresh
    have known : srArpcacheLookup cache (ipDst.get packet) ≠ none := fun absent =>
      srArpcacheLookup_eq_none_iff.mp absent resolved
    obtain ⟨entry, hit⟩ := Option.ne_none_iff_exists'.mp known
    rw [run_forwardRouted_of_some header found hit]
    exact not_overruns_returned _ _
  have miss := srArpcacheLookup_eq_none_iff.mpr resolved
  have named : srGetInterface sr outboundIf.name = some outboundIf :=
    name_of_srGetInterface found ▸ found
  have copied : 34 ≤ (readdressed (.replicate 6 0) outboundIf.addr packet).length := by
    simpa using header
  simp only [run_forwardRouted_of_none header found miss, overruns_bind_pure]
  rw [inside_handleArpreq_iff copied named, length_readdressed]
  constructor
  · intro fits given
    exact fits given.due given.exhausted
  · intro fits due exhausted
    exact fits ⟨found ▸ rfl, resolved, due, exhausted⟩

/-! ## IP packets -/

/-- Forwarding a valid packet that is not shorter than its path needs. -/
theorem inside_forwardIpPacket_iff (header : 34 ≤ packet.length)
    (found : srGetInterface sr interface = some outboundIf)
    (whole : hostU8 (ipTtl.get packet) = 1 → 42 ≤ packet.length) :
    (∀ rounds, ¬ Overruns
      ((forwardIpPacket sr packet interface).run (execOp sr ⟨now, rounds⟩) cache)) ↔
        (GivesUp sr now cache (ipDst.get packet) → 42 ≤ packet.length) := by
  by_cases expires : hostU8 (ipTtl.get packet) = 1
  · -- The report needs all that the routing of the rewritten packet can need.
    have long := whole expires
    have rewritten : 42 ≤ (icmpErrorInbound outboundIf (decremented packet)).length := by
      simpa using long
    refine iff_of_true (fun rounds overruns => ?_) fun _ => long
    rw [forwardIpPacket_of_expired long expires found, Program.run_op] at overruns
    exact (inside_forwardRouted_iff (Nat.le_trans (by decide) rewritten)).mpr (fun _ => rewritten)
      rounds overruns
  · rw [forwardIpPacket_of_alive header expires, inside_forwardRouted_iff (by simpa using header),
      ipDst_decremented, length_decremented]

/-- Handling a valid packet for another host. -/
theorem staysInside_iff_of_foreign (found : srGetInterface sr interface = some outboundIf)
    (ip : IsIp packet) (header : 34 ≤ packet.length)
    (foreign : checkInterface sr (ipDst.get packet) = none)
    (handled : srHandlepacket sr packet interface = forwardIpPacket sr packet interface) :
    StaysInside sr now cache packet interface ↔ neededBytes sr packet ≤ packet.length ∧
      (GivesUp sr now cache (ipDst.get packet) → 42 ≤ packet.length) := by
  by_cases whole : neededBytes sr packet ≤ packet.length
  · rw [staysInside_iff_of_whole whole, handled, inside_forwardIpPacket_iff header found]
    · exact (and_iff_right whole).symm
    · intro expires
      rwa [neededBytes_of_foreign ip foreign, if_pos expires] at whole
  · refine iff_of_false ?_ fun long => whole long.1
    have short := whole
    rw [neededBytes_of_foreign ip foreign] at short
    -- Only an expired packet needs more than its header.
    have expires : hostU8 (ipTtl.get packet) = 1 := by
      by_contra alive
      rw [if_neg alive] at short
      exact short header
    rw [if_pos expires] at short
    have stops : Stops (forwardIpPacket sr packet interface) :=
      forwardIpPacket_stops header expires fun fit => short fit.1
    exact not_staysInside_of_stops (Nat.lt_of_not_le whole) (handled ▸ stops)

/-- Handling a valid packet for the router. -/
theorem staysInside_iff_of_ours (found : srGetInterface sr interface = some outboundIf)
    (ip : IsIp packet) (header : 34 ≤ packet.length) (valid : ValidIp packet) {destInterface : SrIf}
    (ours : checkInterface sr (ipDst.get packet) = some destInterface)
    (handled : srHandlepacket sr packet interface = dealIp sr packet interface) :
    StaysInside sr now cache packet interface ↔ neededBytes sr packet ≤ packet.length := by
  have needed := neededBytes_of_ours ip ours
  by_cases icmp : hostU8 (ipP.get packet) = ipProtocolIcmp
  · rw [if_pos icmp] at needed
    obtain ⟨first, head⟩ : ∃ first, sr.ifList.head? = some first := by
      cases listed : sr.ifList with
      | nil => simp [srGetInterface, listed] at found
      | cons first rest => exact ⟨first, rfl⟩
    by_cases whole : neededBytes sr packet ≤ packet.length
    · refine iff_of_true ((staysInside_iff_of_whole whole).mpr fun rounds => ?_) whole
      rw [handled, dealIp_of_icmp (by omega) valid ours icmp head]
      intro overruns
      cases overruns
    · refine iff_of_false ?_ whole
      -- The type is all that is written of the ICMP header.
      by_cases type : 35 ≤ packet.length
      · exact not_staysInside_of_op (Nat.lt_of_not_le whole)
          (handled.trans (dealIp_of_icmp type valid ours icmp head))
      · have stops : Stops (dealIp sr packet interface) :=
          dealIp_stops_of_icmp header (Nat.lt_of_not_le type) valid ours icmp
        exact not_staysInside_of_stops (Nat.lt_of_not_le whole) (handled ▸ stops)
  rw [if_neg icmp] at needed
  by_cases transport : hostU8 (ipP.get packet) = ipProtocolTcp ∨
      hostU8 (ipP.get packet) = ipProtocolUdp
  · rw [if_pos transport] at needed
    by_cases whole : neededBytes sr packet ≤ packet.length
    · refine iff_of_true ((staysInside_iff_of_whole whole).mpr fun rounds => ?_) whole
      rw [handled, dealIp_of_transport (by omega) valid ours transport found]
      intro overruns
      cases overruns
    · have stops : Stops (dealIp sr packet interface) :=
        dealIp_stops_of_transport header valid ours icmp transport fun fit =>
          whole (needed.le.trans fit.1)
      exact iff_of_false (not_staysInside_of_stops (Nat.lt_of_not_le whole) (handled ▸ stops)) whole
  · rw [if_neg transport] at needed
    exact iff_of_true (staysInside_of_done
      (handled.trans (dealIp_of_other header valid ours icmp transport))) (needed.le.trans header)

/-- Handling an IP frame. -/
theorem staysInside_iff_of_ip (found : srGetInterface sr interface = some outboundIf)
    (ip : IsIp packet) (handled : srHandlepacket sr packet interface = dealIp sr packet interface) :
    StaysInside sr now cache packet interface ↔ LongIp sr now cache packet := by
  by_cases cut : packet.length < 34
  · have short : packet.length < neededBytes sr packet :=
      Nat.lt_of_lt_of_le cut (neededBytes_of_ip ip)
    exact iff_of_false (not_staysInside_of_stops short (handled ▸ dealIp_stops cut)) fun long =>
      Nat.not_lt_of_le long.header cut
  have header : 34 ≤ packet.length := Nat.le_of_not_lt cut
  by_cases valid : ValidIp packet
  swap
  · exact iff_of_true (staysInside_of_done (handled.trans (dealIp_of_invalid header valid)))
      ⟨header, fun good => absurd good valid, fun good => absurd good valid⟩
  cases destination : checkInterface sr (ipDst.get packet) with
  | none =>
    rw [staysInside_iff_of_foreign found ip header destination
      (handled.trans (dealIp_of_foreign header valid destination))]
    exact ⟨fun ⟨whole, copy⟩ => ⟨header, fun _ => whole, fun _ _ => copy⟩,
      fun long => ⟨long.whole valid, long.copy valid destination⟩⟩
  | some dest =>
    rw [staysInside_iff_of_ours found ip header valid destination handled]
    exact ⟨fun whole =>
      ⟨header, fun _ => whole, fun _ foreign => nomatch destination.symm.trans foreign⟩,
      fun long => long.whole valid⟩

/-- **Staying inside the packet.** In a reachable state a frame that comes in on a listed
interface is handled within its bounds, and dropped if it is too short for that, if and
only if it is long enough. -/
theorem staysInside_iff {c : Config RouterOp RouterOp.Resp RouterState} (reachable : Reachable sr c)
    (listed : (srGetInterface sr interface).isSome) (now : ℤ) (packet : Bytes) :
    StaysInside sr now c.state.cache packet interface ↔ LongEnough sr now c.state.cache packet := by
  have inv := cacheInv_of_reachable reachable
  obtain ⟨inboundIf, found⟩ := Option.isSome_iff_exists.mp listed
  have some : sr.ifList ≠ [] := List.ne_nil_of_mem (mem_of_srGetInterface found)
  have needed := le_neededBytes sr packet
  rw [LongEnough]
  by_cases short : packet.length < 6
  · rw [if_pos short]
    have handled : srHandlepacket sr packet interface = _ := srHandlepacket_short short some
    by_cases cut : CutWithin packet (breadcast :: sr.ifList.map SrIf.addr)
    · rw [if_pos cut] at handled
      exact iff_of_false (not_staysInside_of_op (by omega) handled) (not_not.mpr cut)
    · rw [if_neg cut] at handled
      exact iff_of_true (staysInside_of_done handled) cut
  rw [if_neg short]
  have address : 6 ≤ packet.length := Nat.le_of_not_lt short
  by_cases ours : ForRouter sr packet
  swap
  · exact iff_of_true (staysInside_of_done (srHandlepacket_of_foreign address some ours))
      fun given => absurd given ours
  by_cases ethernet : 14 ≤ packet.length
  swap
  · have stops : Stops (srHandlepacket sr packet interface) :=
      srHandlepacket_stops address (Nat.lt_of_not_le ethernet) some ours
    exact iff_of_false (not_staysInside_of_stops (by omega) stops)
      fun long => ethernet (long ours).1
  have dispatched : srHandlepacket sr packet interface = _ := srHandlepacket_eq ethernet some
  rw [if_pos ours] at dispatched
  by_cases arp : IsArp packet
  · rw [if_pos arp] at dispatched
    rw [staysInside_iff_of_arp inv found arp dispatched]
    exact ⟨fun long _ => ⟨ethernet, fun _ => long, fun ip => absurd ip arp.not_ip⟩,
      fun long => (long ours).2.1 arp⟩
  rw [if_neg arp] at dispatched
  by_cases ip : IsIp packet
  · rw [if_pos ip] at dispatched
    rw [staysInside_iff_of_ip found ip dispatched]
    exact ⟨fun long _ => ⟨ethernet, fun other => absurd other arp, fun _ => long⟩,
      fun long => (long ours).2.2 ip⟩
  · rw [if_neg ip] at dispatched
    exact iff_of_true (staysInside_of_done dispatched)
      fun _ => ⟨ethernet, fun other => absurd other arp, fun other => absurd other ip⟩

theorem staysInside_clientPing :
    StaysInside sampleInstance 100 initially.cache clientPing eth3 := by
  have header : ¬ clientPing.length < 6 := by decide
  refine (staysInside_iff .refl (by decide) 100 clientPing).mpr ?_
  rw [LongEnough, if_neg header]
  intro _
  refine ⟨by decide, fun arp => absurd arp (by decide), fun _ => ?_⟩
  exact ⟨by decide, fun _ => by decide, fun _ _ _ => by decide⟩

/-- A UDP packet of the client to the router that ends behind its IP header. -/
def headerOnly : Bytes :=
  withIpSum (sampleEth3.addr.toList ++ clientMac.toList ++ [8, 0] ++
    [0x45, 0, 0, 20, 0, 0, 0, 0, 64, ipProtocolUdp, 0, 0] ++
      clientIp.toList ++ sampleEth3.ip.toList)

/-- Its report quotes eight bytes that lie behind the packet. -/
theorem not_staysInside_headerOnly :
    Reachable sampleInstance ⟨initially, .done ()⟩ ∧ (srGetInterface sampleInstance eth3).isSome ∧
      Overruns ((srHandlepacket sampleInstance headerOnly eth3).run
        (execOp sampleInstance ⟨100, 0⟩) initially.cache) ∧
      ¬ StaysInside sampleInstance 100 initially.cache headerOnly eth3 := by
  have overruns : Overruns ((srHandlepacket sampleInstance headerOnly eth3).run
      (execOp sampleInstance ⟨100, 0⟩) initially.cache) := by decide +kernel
  exact ⟨.refl, by decide, overruns, fun stays => stays.inside 0 overruns⟩

end SimpleRouter
