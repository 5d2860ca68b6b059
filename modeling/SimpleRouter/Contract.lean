/-
# Contracts of a run

A contract is a property of the packets that wait for an address and a property of
the frames that are sent, such that whatever the router sends about a waiting
packet is permitted: when an ARP reply releases it, when its address is asked for,
and when it is reported unreachable.

`Contract.Admits` says what remains to be checked of one received frame, one field
for each path through the code. Handling admitted frames only, a run keeps the
invariant of the ARP cache and the contract in every configuration it reaches,
whatever the timer does in between. Frames that are cut off, and interfaces that do
not exist, only make the code fault before it sends anything.
-/

import SimpleRouter.System

namespace SimpleRouter

open Buffers Effects Machine

/-- What a run guarantees about the packets it keeps and the frames it sends. -/
structure Contract (sr : SrInstance) where
  /-- Holds of every packet that waits for the address. -/
  keeps : Ip → SrPacket → Prop
  /-- Holds of every frame that is sent. -/
  sends : SentFrame → Prop
  flush : ∀ {ip packet}, Waiting sr ip packet → keeps ip packet → ∀ mac,
    sends ⟨.dealArp, etherDhost.set mac packet.buf, packet.iface⟩
  ask : ∀ {ip packet iface}, Waiting sr ip packet → keeps ip packet →
    srGetInterface sr packet.iface = some iface →
    sends ⟨.sendArpRequest, arpRequestFrame iface ip, packet.iface⟩
  report : ∀ {ip packet iface}, Waiting sr ip packet → keeps ip packet →
    srGetInterface sr packet.iface = some iface → 42 ≤ packet.buf.length → ∀ k,
    sends ⟨.sendIcmpError, icmpErrorFrame iface 3 1 (rewritten iface k packet.buf), packet.iface⟩

namespace Contract

variable {sr : SrInstance} (C : Contract sr)

/-- The invariant of a run under the contract. -/
def Inv (s : RouterState) : Prop := CacheInv sr C.keeps s.cache

/-- Routing the packet respects the contract, whichever way it goes. -/
structure Routes (packet : Bytes) : Prop where
  forwards : ∀ {iface}, srGetInterface sr (routeInterface sr (ipDst.get packet)) = some iface →
    ∀ mac, C.sends ⟨.forwardIpPacket, readdressed mac iface.addr packet, iface.name⟩
  queues : ∀ {iface}, srGetInterface sr (routeInterface sr (ipDst.get packet)) = some iface →
    C.keeps (ipDst.get packet) ⟨readdressed (.replicate 6 0) iface.addr packet, iface.name⟩

/-- Handling the frame in the state respects the contract. -/
structure Admits (s : RouterState) (packet : Bytes) (interface : IfName) : Prop where
  arpRequest : IsArp packet → ArpRequest packet → 42 ≤ packet.length → ∀ {iface},
    srGetInterface sr interface = some iface →
    C.sends ⟨.replyToArpRequest, arpReplyFrame iface packet, interface⟩
  arpReply : IsArp packet → ArpReply packet → 32 ≤ packet.length →
    ¬ s.cache.Resolved (arSip.get packet) ∨ ∀ {result outIf},
      (checkRoute sr packet SrIf.zero).Returns (result, outIf) →
      C.sends ⟨.dealArp, packet, outIf.name⟩
  icmp : IsIp packet → ValidIp packet → 35 ≤ packet.length → ∀ {ours first},
    checkInterface sr (ipDst.get packet) = some ours → sr.ifList.head? = some first →
    hostU8 (ipP.get packet) = ipProtocolIcmp →
    C.sends ⟨.replyToIcmpRequest, icmpReplyFrame first ours packet, interface⟩
  transport : IsIp packet → ValidIp packet → 42 ≤ packet.length → ∀ {iface},
    srGetInterface sr interface = some iface →
    C.sends ⟨.sendIcmpError, icmpErrorFrame iface 3 3 packet, interface⟩
  alive : IsIp packet → ValidIp packet → 34 ≤ packet.length →
    checkInterface sr (ipDst.get packet) = none → hostU8 (ipTtl.get packet) ≠ 1 →
    C.Routes (decremented packet)
  expired : IsIp packet → ValidIp packet → 42 ≤ packet.length →
    checkInterface sr (ipDst.get packet) = none → hostU8 (ipTtl.get packet) = 1 → ∀ {iface},
    srGetInterface sr interface = some iface →
    C.sends ⟨.sendIcmpError, icmpErrorFrame iface 11 0 (decremented packet), interface⟩ ∧
      C.Routes (icmpErrorInbound iface (decremented packet))

variable {C} {m : Moment} {s : RouterState} {packet : Bytes} {interface : IfName}

theorem inv_initially : C.Inv initially := cacheInv_init

/-! ## The timer -/

/-- Handling a request sends permitted frames only. -/
theorem sends_of_handleArpreq {cache : SrArpcache} (inv : CacheInv sr C.keeps cache) {arpreq : ℕ}
    {frame : SentFrame} (sent : frame ∈ (handleArpreq sr m.now m.rounds cache arpreq).sent) :
    C.sends frame := by
  obtain ⟨req, walker, rest, found, waits, -, how⟩ := sent_handleArpreq_cases sent
  have listed := mem_of_requestAt found
  have member : walker ∈ req.packets := waits ▸ List.mem_cons_self
  have waiting := inv.waiting req listed walker member
  have kept := inv.kept req listed walker member
  -- What waits is long enough and its interface exists, so nothing faults here.
  obtain ⟨iface, route, -⟩ := waiting.shost
  rcases how with ⟨-, asked⟩ | ⟨-, reported⟩
  · rw [sendArpRequest_eq waiting.long route, Outcome.sent_returned, List.mem_singleton] at asked
    subst asked
    rw [waiting.dst]
    exact C.ask waiting kept route
  · obtain ⟨long, k, -, rfl⟩ := mem_sent_hostUnreachableLoop route reported
    exact C.report waiting kept route long k

/-- The timer respects the contract. -/
theorem movesSafely : (router sr).MovesSafely C.Inv C.sends := by
  intro s k out inv available
  refine ⟨fun frame sent => ?_, fun s' returns => ?_⟩
  · obtain ⟨m, walker, handled⟩ := sent_timerMove available sent
    exact sends_of_handleArpreq inv handled
  · unfold Inv
    -- The timer only expires entries and handles requests.
    rcases returns_timerMove available returns with ⟨curtime, expired⟩ | same | ⟨m, walker, handled⟩
    · exact expired ▸ CacheInv.expire inv curtime
    · exact same ▸ inv
    · exact CacheInv.handleArpreq inv handled

/-- The timer maps no new address. -/
theorem stable_unresolved (ip : Ip) : (router sr).Stable C.Inv fun s => ¬ s.cache.Resolved ip := by
  intro s k out s' _ fresh available returns resolved
  rcases returns_timerMove available returns with ⟨curtime, expired⟩ | same | ⟨m, walker, handled⟩
  · rw [expired] at resolved
    exact fresh (resolved_of_expire resolved)
  · rw [same] at resolved
    exact fresh resolved
  · exact fresh ((resolved_congr (entries_handleArpreq handled)).mp resolved)

/-! ## The main thread -/

/-- Safety of what is left of a program of the main thread. -/
abbrev SafeFrom (C : Contract sr) (p : RouterProgram Unit) (s : RouterState) : Prop :=
  (router sr).Safe C.Inv C.sends (fun _ _ => True) p s

theorem safe_done : C.SafeFrom (.done ()) s := Safe.done stable_true trivial

theorem safe_send {frame : SentFrame} {next : Unit → RouterProgram Unit} (permitted : C.sends frame)
    (rest : ∀ s, C.SafeFrom (next ()) s) : C.SafeFrom (.op (.send frame) next) s := by
  apply Safe.op stable_true trivial
  · intro s i _ _ _ event sent
    rw [show event = frame by simpa [execOp] using sent_exec.mp sent]
    exact permitted
  · intro s i s' r inv _ _ returns
    have same := returns_send (exec_returns_iff.mp returns).1
    refine ⟨?_, rest s'⟩
    rw [Inv, same]
    exact inv

theorem safe_of_stops {p : RouterProgram Unit} (stops : Stops p) : C.SafeFrom p s := by
  obtain ⟨why, rfl⟩ := stops
  apply Safe.op stable_true trivial
  · intro s i _ _ _ event sent
    cases sent_exec.mp sent
  · intro s i s' r
    exact r.elim

/-- A request is handled by the main thread as it is by the timer. -/
theorem safe_handleArpreq (arpreq : ℕ) : C.SafeFrom (.op (.handleArpreq arpreq) .done) s := by
  apply Safe.op stable_true trivial
  · intro s i inv _ _ event sent
    rcases Outcome.mem_sent_bind.mp (sent_exec.mp sent) with handled | ⟨_, -, nothing⟩
    · exact sends_of_handleArpreq inv handled
    · simp at nothing
  · intro s i s' r inv _ _ returns
    have handled := returns_handleArpreq (exec_returns_iff.mp returns).1
    exact ⟨CacheInv.handleArpreq inv handled, safe_done⟩

/-- A lookup tells whether the address is mapped, and goes on from there. -/
theorem safe_lookup {ip : Ip} {next : Option SrArpentry → RouterProgram Unit}
    {assertion : RouterState → Prop} (stable : (router sr).Stable C.Inv assertion)
    (now : assertion s)
    (hit : ∀ s entry, C.Inv s → assertion s → s.cache.Resolved ip →
      C.SafeFrom (next (some entry)) s)
    (miss : ∀ s, C.Inv s → assertion s → ¬ s.cache.Resolved ip → C.SafeFrom (next none) s) :
    C.SafeFrom (.op (.lookup ip) next) s := by
  apply Safe.op stable now
  · intro s i _ _ _ event sent
    cases sent_exec.mp sent
  · intro s i s' r inv holds _ returns
    obtain ⟨done, sameTimer⟩ := exec_returns_iff.mp returns
    obtain ⟨sameCache, rfl⟩ := returns_lookup done
    have same : s' = s := by
      obtain ⟨cache, timer⟩ := s'
      cases sameCache
      cases sameTimer
      rfl
    subst same
    refine ⟨inv, ?_⟩
    cases found : srArpcacheLookup s'.cache ip with
    | some entry =>
      obtain ⟨listed, valid, mapped⟩ := srArpcacheLookup_eq_some found
      exact hit s' entry inv holds ⟨entry, listed, valid, mapped⟩
    | none => exact miss s' inv holds (srArpcacheLookup_eq_none_iff.mp found)

/-- Routing a packet is safe in every state. -/
theorem safe_forwardRouted (long : 34 ≤ packet.length) (routes : C.Routes packet) :
    C.SafeFrom (forwardRouted sr packet) s := by
  cases found : srGetInterface sr (routeInterface sr (ipDst.get packet)) with
  | none => exact safe_of_stops (forwardRouted_stops long found)
  | some iface =>
  rw [forwardRouted_eq long found]
  apply safe_lookup stable_true trivial
  case hit =>
    intro s entry _ _ _
    exact safe_send (routes.forwards found entry.mac) fun _ => safe_done
  case miss =>
    intro s _ _ fresh
    -- The address stays unmapped until the packet is on the queue, since only the
    -- main thread enters mappings.
    apply Safe.op (stable_unresolved (ipDst.get packet)) fresh
    · intro s i _ _ _ event sent
      cases sent_exec.mp sent
    · intro s i s' r inv fresh _ returns
      obtain ⟨queued, rfl⟩ := returns_queuereq (exec_returns_iff.mp returns).1
      have waiting : Waiting sr (ipDst.get packet)
          ⟨readdressed (.replicate 6 0) iface.addr packet, iface.name⟩ := by
        refine ⟨by simpa using long, get_readdressed (by decide) (by decide) _ _ _, iface, ?_, ?_⟩
        · rw [name_of_srGetInterface found]
          exact found
        · exact shost_readdressed (by omega) _ _
      refine ⟨?_, safe_handleArpreq _⟩
      rw [Inv, queued]
      exact CacheInv.queuereq inv fresh waiting (routes.queues found)

/-- Handling an ARP reply. -/
theorem safe_dealArp_reply (long : 32 ≤ packet.length)
    (reply : ArpReply packet) (admitted : ¬ s.cache.Resolved (arSip.get packet) ∨
      ∀ {result outIf}, (checkRoute sr packet SrIf.zero).Returns (result, outIf) →
        C.sends ⟨.dealArp, packet, outIf.name⟩) :
    C.SafeFrom (dealArp sr packet interface) s := by
  rw [dealArp_of_reply long reply]
  -- A sender that is not known is entered and its first waiting packet is sent.
  have miss (s : RouterState) (_ : C.Inv s) (fresh : ¬ s.cache.Resolved (arSip.get packet)) :
      C.SafeFrom (.op (.insert (arSha.get packet) (arSip.get packet)) (releaseFirst packet))
        s := by
    apply Safe.op (stable_unresolved (arSip.get packet)) fresh
    · intro s i _ _ _ event sent
      cases sent_exec.mp sent
    · intro s i s' r inv fresh _ returns
      obtain ⟨entered, rfl⟩ := returns_insert (exec_returns_iff.mp returns).1
      refine ⟨?_, ?_⟩
      · rw [Inv, entered]
        exact CacheInv.insert inv fresh _ _
      cases found : s.cache.requestFor (arSip.get packet) with
      | none => exact safe_done
      | some arpreq =>
        have listed := mem_of_requestFor found
        cases waits : arpreq.packets with
        -- A pending request has a packet, so its list is not null.
        | nil => exact absurd waits (inv.occupied arpreq listed)
        | cons current rest =>
          have member : current ∈ arpreq.packets := waits ▸ List.mem_cons_self
          have waiting := inv.waiting arpreq listed current member
          have stored : 6 ≤ current.buf.length := Nat.le_trans (by decide) waiting.long
          change C.SafeFrom (liftM (sendFirstWaiting packet arpreq)) s'
          rw [sendFirstWaiting_eq (Nat.le_trans (by decide) long) waits stored,
            liftM_returned_singleton]
          exact safe_send (C.flush waiting (inv.kept arpreq listed current member) _) fun _ =>
            safe_done
  rcases admitted with fresh | resend
  · apply safe_lookup (stable_unresolved _) fresh
    · -- An address that was not mapped when the frame came in still is not.
      intro s entry _ fresh resolved
      exact absurd resolved fresh
    · exact fun s inv _ fresh => miss s inv fresh
  · apply safe_lookup stable_true trivial
    · intro s entry _ _ _
      rcases resendReply_cases sr packet with stops | ⟨result, outIf, routed, sends⟩
      · exact safe_of_stops stops
      · simp only [sends]
        exact safe_send (resend routed) fun _ => safe_done
    · exact fun s inv _ fresh => miss s inv fresh

/-- Handling an ARP frame. -/
theorem safe_dealArp (arp : IsArp packet) (admits : C.Admits s packet interface) :
    C.SafeFrom (dealArp sr packet interface) s := by
  by_cases short : packet.length < 22
  · exact safe_of_stops (dealArp_stops short)
  have long : 22 ≤ packet.length := Nat.le_of_not_lt short
  by_cases request : ArpRequest packet
  · by_cases fit : 42 ≤ packet.length ∧ (srGetInterface sr interface).isSome
    · obtain ⟨iface, found⟩ := Option.isSome_iff_exists.mp fit.2
      rw [dealArp_of_request fit.1 request found]
      exact safe_send (admits.arpRequest arp request fit.1 found) fun _ => safe_done
    · exact safe_of_stops (dealArp_stops_of_request long request fit)
  by_cases reply : ArpReply packet
  · by_cases cut : packet.length < 32
    · exact safe_of_stops (dealArp_stops_of_reply long cut reply)
    · have long : 32 ≤ packet.length := Nat.le_of_not_lt cut
      exact safe_dealArp_reply long reply (admits.arpReply arp reply long)
  · rw [dealArp_of_other long request reply]
    exact safe_done

/-- Forwarding an IP packet. -/
theorem safe_forwardIpPacket (long : 34 ≤ packet.length) (ip : IsIp packet) (valid : ValidIp packet)
    (foreign : checkInterface sr (ipDst.get packet) = none) (admits : C.Admits s packet interface) :
    C.SafeFrom (forwardIpPacket sr packet interface) s := by
  by_cases expires : hostU8 (ipTtl.get packet) = 1
  · by_cases fit : 42 ≤ packet.length ∧ (srGetInterface sr interface).isSome
    · obtain ⟨iface, found⟩ := Option.isSome_iff_exists.mp fit.2
      obtain ⟨reported, routes⟩ := admits.expired ip valid fit.1 foreign expires found
      rw [forwardIpPacket_of_expired fit.1 expires found]
      exact safe_send reported fun s => safe_forwardRouted (by simpa using long) routes
    · exact safe_of_stops (forwardIpPacket_stops long expires fit)
  · rw [forwardIpPacket_of_alive long expires]
    exact safe_forwardRouted (by simpa using long) (admits.alive ip valid long foreign expires)

/-- Handling an IP packet. -/
theorem safe_dealIp (some : sr.ifList ≠ []) (ip : IsIp packet)
    (admits : C.Admits s packet interface) :
    C.SafeFrom (dealIp sr packet interface) s := by
  by_cases short : packet.length < 34
  · exact safe_of_stops (dealIp_stops short)
  have long : 34 ≤ packet.length := Nat.le_of_not_lt short
  by_cases valid : ValidIp packet
  swap
  · rw [dealIp_of_invalid long valid]
    exact safe_done
  cases destination : checkInterface sr (ipDst.get packet) with
  | none =>
    rw [dealIp_of_foreign long valid destination]
    exact safe_forwardIpPacket long ip valid destination admits
  | some dest =>
    by_cases icmp : hostU8 (ipP.get packet) = ipProtocolIcmp
    · by_cases cut : packet.length < 35
      · exact safe_of_stops (dealIp_stops_of_icmp long cut valid destination icmp)
      obtain ⟨first, rest, list⟩ := List.exists_cons_of_ne_nil some
      have head : sr.ifList.head? = .some first := by rw [list, List.head?_cons]
      have whole : 35 ≤ packet.length := Nat.le_of_not_lt cut
      rw [dealIp_of_icmp whole valid destination icmp head]
      exact safe_send (admits.icmp ip valid whole destination head icmp) fun _ => safe_done
    by_cases transport : hostU8 (ipP.get packet) = ipProtocolTcp ∨
        hostU8 (ipP.get packet) = ipProtocolUdp
    · by_cases fit : 42 ≤ packet.length ∧ (srGetInterface sr interface).isSome
      · obtain ⟨iface, found⟩ := Option.isSome_iff_exists.mp fit.2
        rw [dealIp_of_transport fit.1 valid destination transport found]
        exact safe_send (admits.transport ip valid fit.1 found) fun _ => safe_done
      · exact safe_of_stops (dealIp_stops_of_transport long valid destination icmp transport fit)
    · rw [dealIp_of_other long valid destination icmp transport]
      exact safe_done

/-- Handling a frame that is admitted or not for the router is safe. -/
theorem safe_srHandlepacket (admits : ForRouter sr packet → C.Admits s packet interface) :
    C.SafeFrom (srHandlepacket sr packet interface) s := by
  by_cases cut : packet.length < 14 ∨ sr.ifList = []
  · rcases srHandlepacket_cut cut with stops | nothing
    · exact safe_of_stops stops
    · rw [nothing]
      exact safe_done
  obtain ⟨long, some⟩ := not_or.mp cut
  rw [srHandlepacket_eq (Nat.le_of_not_lt long) some]
  split
  case isFalse => exact safe_done
  case isTrue ours =>
    split
    case isTrue arp => exact safe_dealArp arp (admits ours)
    split
    case isTrue ip => exact safe_dealIp some ip (admits ours)
    exact safe_done

/-! ## Runs -/

section Runs

variable {condition : RouterState → Bytes → IfName → Prop}
  (admits : ∀ s packet interface, C.Inv s → condition s packet interface → ForRouter sr packet →
    C.Admits s packet interface)
include admits

private theorem admitted (s : RouterState) (p : RouterProgram Unit) (inv : C.Inv s)
    (starts : handles sr condition s p) : C.SafeFrom p s := by
  obtain ⟨packet, interface, condition, rfl⟩ := starts
  exact safe_srHandlepacket (admits s packet interface inv condition)

/-- The invariant holds in every configuration a run reaches. -/
theorem inv_of_reaches {c : Config RouterOp RouterOp.Resp RouterState}
    (reaches : (router sr).Reaches (handles sr condition) ⟨initially, .done ()⟩ c) :
    C.Inv c.state :=
  (safe_of_reaches movesSafely (admitted admits) inv_initially safe_done reaches).1

/-- Every frame a run sends is permitted. -/
theorem sends_of_emits {c : Config RouterOp RouterOp.Resp RouterState}
    (reaches : (router sr).Reaches (handles sr condition) ⟨initially, .done ()⟩ c)
    {frame : SentFrame} (emits : (router sr).Emits c frame) : C.sends frame :=
  guar_of_emits movesSafely (admitted admits) inv_initially safe_done reaches emits

end Runs

/-- Every frame sent while an admitted frame is handled is permitted. -/
theorem sends_of_handling (inv : C.Inv s)
    (admits : ForRouter sr packet → C.Admits s packet interface)
    {c : Config RouterOp RouterOp.Resp RouterState} (handling : Handling sr s packet interface c)
    {frame : SentFrame} (emits : (router sr).Emits c frame) : C.sends frame :=
  guar_of_emits movesSafely (fun _ _ _ never => never.elim) inv (safe_srHandlepacket admits)
    handling emits

end Contract

end SimpleRouter
