/-
# Source addresses

`sr_send_packet` refuses a frame whose Ethernet source is not the address of the
interface it is to leave by. Most frames are given that address by the function that
sends them. Two are not: an echo reply carries the address of the first interface of
the list, whichever way it leaves, and an ARP reply whose sender is known already
leaves with the address it came with.
-/

import SimpleRouter.Resolution
import SimpleRouter.ValidChecksums

namespace SimpleRouter

open Buffers Effects Machine

variable {sr : SrInstance} {s : RouterState} {packet : Bytes} {interface : IfName}

/-- `sr_ether_addrs_match_interface` of `sr_vns_comm.c`. -/
def srEtherAddrsMatchInterface (sr : SrInstance) (buf : Bytes) (name : IfName) : ℕ :=
  match srGetInterface sr name with
  | none => 0
  | some iface => if etherShost.get buf ≠ iface.addr then 0 else 1

/-- The frame has a source address and passes the check of `sr_send_packet`. -/
structure Accepted (sr : SrInstance) (frame : SentFrame) : Prop where
  long : ethHdrSize ≤ frame.buf.length
  matching : srEtherAddrsMatchInterface sr frame.buf frame.iface = 1

theorem srEtherAddrsMatchInterface_eq_one_iff {buf : Bytes} {name : IfName} :
    srEtherAddrsMatchInterface sr buf name = 1 ↔
      ∃ iface, srGetInterface sr name = some iface ∧ etherShost.get buf = iface.addr := by
  unfold srEtherAddrsMatchInterface
  cases srGetInterface sr name with
  | none => simp
  | some iface => simp

theorem accepted_of_shost {sender : Sender} {buf : Bytes} {name : IfName} {iface : SrIf}
    (long : ethHdrSize ≤ buf.length) (found : srGetInterface sr name = some iface)
    (shost : etherShost.get buf = iface.addr) : Accepted sr ⟨sender, buf, name⟩ :=
  ⟨long, srEtherAddrsMatchInterface_eq_one_iff.mpr ⟨iface, found, shost⟩⟩

/-- An ICMP error leaves with the address of its interface. -/
theorem accepted_icmpErrorFrame {iface : SrIf} (found : srGetInterface sr interface = some iface)
    (type code : UInt8) (buf : Bytes) :
    Accepted sr ⟨.sendIcmpError, icmpErrorFrame iface type code buf, interface⟩ :=
  accepted_of_shost (by rw [length_icmpErrorFrame]; decide) found
    (shost_icmpErrorFrame iface type code buf)

/-! ## The contract -/

/-- The frame brings an ARP reply whose sender is known already. -/
structure KnownReply (sr : SrInstance) (cache : SrArpcache) (packet : Bytes) : Prop where
  ours : ForRouter sr packet
  arp : IsArp packet
  long : 32 ≤ packet.length
  reply : ArpReply packet
  known : cache.Resolved (arSip.get packet)

/-- What the frame leads to has the right source address: a message to the router came
in by an interface with the address of the first one, and a reply whose sender is known
came from the address of the interface it is routed to. -/
structure RightSource (sr : SrInstance) (s : RouterState) (packet : Bytes) (interface : IfName) :
    Prop where
  echo : IcmpToRouter sr packet → ∀ {first}, sr.ifList.head? = some first →
    ∃ iface, srGetInterface sr interface = some iface ∧ first.addr = iface.addr
  resent : KnownReply sr s.cache packet → ∀ {result outIf},
    (checkRoute sr packet SrIf.zero).Returns (result, outIf) → etherShost.get packet = outIf.addr

/-- The interface that `check_route` reports is listed with that address. -/
theorem listed_of_checkRoute {result : ℕ} {outIf : SrIf}
    (routed : (checkRoute sr packet SrIf.zero).Returns (result, outIf)) :
    ∃ iface, srGetInterface sr outIf.name = some iface ∧ iface.addr = outIf.addr := by
  rcases checkRoute_cases sr packet SrIf.zero with faults | ⟨tmpFace, found, same⟩
  · exact absurd routed (faults.not_returns _)
  · rw [same] at routed
    cases routed
    rw [← name_of_srGetInterface found] at found
    exact ⟨tmpFace, found, rfl⟩

/-- Every frame passes the check of `sr_send_packet`. -/
def acceptance (sr : SrInstance) : Contract sr where
  keeps _ _ := True
  sends := Accepted sr
  flush waiting _ mac := by
    obtain ⟨iface, found, shost⟩ := waiting.shost
    have long := waiting.long
    refine accepted_of_shost (by simpa using Nat.le_trans (by decide) long) found ?_
    rw [Span.get_set_of_disjoint (by decide), shost]
  ask _ _ found := accepted_of_shost (by simp [arpRequestFrame, ethHdrSize]) found
    (shost_arpRequestFrame _ _)
  report _ _ found _ _ := accepted_icmpErrorFrame found _ _ _

theorem acceptance_routes (long : 34 ≤ packet.length) : (acceptance sr).Routes packet where
  forwards found mac := by
    -- The frame leaves by the interface whose address it has just been given.
    rw [← name_of_srGetInterface found] at found
    exact accepted_of_shost (by simpa using Nat.le_trans (by decide) long) found
      (shost_readdressed (Nat.le_trans (by decide) long) _ _)
  queues _ := trivial

theorem acceptance_admits (right : RightSource sr s packet interface) (ours : ForRouter sr packet) :
    (acceptance sr).Admits s packet interface where
  arpRequest _ _ long _ found :=
    accepted_of_shost (by simpa [arpReplyFrame] using Nat.le_trans (by decide) long) found
      (shost_arpReplyFrame _ (Nat.le_trans (by decide) long))
  arpReply arp reply long := by
    -- A sender that is not known yet stays so until its reply has been entered.
    by_cases known : s.cache.Resolved (arSip.get packet)
    · refine .inr fun routed => ?_
      obtain ⟨iface, found, addr⟩ := listed_of_checkRoute routed
      have shost := right.resent ⟨ours, arp, long, reply, known⟩ routed
      exact accepted_of_shost (Nat.le_trans (by decide) long) found (shost.trans addr.symm)
    · exact .inl known
  icmp ip valid long _ _ destination head icmp := by
    have message : IcmpToRouter sr packet := ⟨ours, ip, long, valid, destination ▸ rfl, icmp⟩
    obtain ⟨iface, found, same⟩ := right.echo message head
    refine accepted_of_shost ?_ found ?_
    · simpa [icmpReplyFrame] using Nat.le_trans (by decide) long
    · exact (shost_icmpReplyFrame _ _ (Nat.le_trans (by decide) long)).trans same
  transport _ _ _ _ found := accepted_icmpErrorFrame found _ _ _
  alive _ _ long _ _ := acceptance_routes (by simpa using long)
  expired _ _ long _ _ _ found :=
    ⟨accepted_icmpErrorFrame found _ _ _,
      acceptance_routes (by simpa using Nat.le_trans (by decide) long)⟩

/-! ## Exactness -/

/-- A known reply is sent on while it is handled. -/
theorem emits_of_knownReply {cache : SrArpcache} (known : KnownReply sr cache packet) {result : ℕ}
    {outIf : SrIf} (routed : (checkRoute sr packet SrIf.zero).Returns (result, outIf))
    (interface : IfName) :
    ∃ c, Handling sr ⟨cache, .sleeping⟩ packet interface c ∧
      (router sr).Emits c ⟨.dealArp, packet, outIf.name⟩ := by
  have some : sr.ifList ≠ [] := by
    obtain ⟨iface, found, -⟩ := listed_of_checkRoute routed
    exact List.ne_nil_of_mem (mem_of_srGetInterface found)
  have handled : srHandlepacket sr packet interface = dealArp sr packet interface := by
    rw [srHandlepacket_eq (Nat.le_trans (by decide) known.long) some, if_pos known.ours,
      if_pos known.arp]
  rw [Handling, handled]
  -- No clock is read, so any reading will do.
  apply emits_of_isolated (m := ⟨0, 0⟩)
  rw [run_dealArp_of_resolved known.long known.reply known.known, resendReply_of_returns routed]
  exact List.mem_singleton.mpr rfl

/-- An answer is accepted only by an interface with the address of the first one. -/
theorem same_addr_of_accepted {frame : SentFrame} (answer : Answers sr packet interface frame)
    (accepted : Accepted sr frame) :
    ∃ first iface, sr.ifList.head? = some first ∧ srGetInterface sr interface = some iface ∧
      first.addr = iface.addr := by
  obtain ⟨first, ours, head, -, made⟩ := answer.made
  obtain ⟨iface, found, shost⟩ := srEtherAddrsMatchInterface_eq_one_iff.mp accepted.matching
  rw [made] at found shost
  rw [shost_icmpReplyFrame _ _ (Nat.le_trans (by decide) answer.message.long)] at shost
  exact ⟨first, iface, head, found, shost⟩

end SimpleRouter
