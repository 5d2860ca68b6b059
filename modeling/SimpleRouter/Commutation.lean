/-
# Packets for different destinations

The router may handle two packets for different hosts in either order: the table, the pending
requests and the frames that are sent are the same in the end, though the requests and the frames
may be in another order.

What forwarding does is told by the table and by the request for the destination, and it changes
no other request. So it is a step at one key, the destination, and such steps commute.
-/

import SimpleRouter.Library.LocalSteps
import SimpleRouter.PathAgreement
import SimpleRouter.VerifiedTable

namespace SimpleRouter

open Buffers Effects LocalSteps Machine

variable {sr : SrInstance} {m : Moment} {cache cache' : SrArpcache} {packet : Bytes}
  {interface : IfName} {ip : Ip}

/-! ## What is asked of the code -/

/-- What the router knows of a pending request beside its address. -/
structure Slot where
  sent : ℤ
  timesSent : ℕ
  packets : List SrPacket

def SrArpreq.slot (req : SrArpreq) : Slot := ⟨req.sent, req.timesSent, req.packets⟩

/-- A pending request, without the number that tells where it is allocated. -/
def SrArpreq.content (req : SrArpreq) : Ip × Slot := (req.ip, req.slot)

/-- Both runs return, with one table, the same pending requests and the same frames, up to
their order. -/
def SameOutcome (x y : Action SrArpcache) : Prop :=
  ∃ frames cache frames' cache', x = .returned frames cache ∧ y = .returned frames' cache' ∧
    cache.entries = cache'.entries ∧
    (cache.requests.map SrArpreq.content).Perm (cache'.requests.map SrArpreq.content) ∧
    frames.Perm frames'

/-- The interfaces of all routes exist, and the default one. -/
structure InterfacesExist (sr : SrInstance) : Prop where
  routes : ∀ route ∈ sr.routingTable, (srGetInterface sr route.interface).isSome
  builtIn : (srGetInterface sr eth3).isSome

/-- A pending request for the address has not been sent five times. -/
def NotGivenUp (cache : SrArpcache) (ip : Ip) : Prop :=
  ∀ req ∈ cache.requests, req.ip = ip → ¬ req.Exhausted

/-! ## The requests by their addresses -/

/-- The pending request for each address. -/
def SrArpcache.pending (cache : SrArpcache) (ip : Ip) : Option Slot :=
  (cache.requestFor ip).map SrArpreq.slot

/-- Each address has one pending request at most. -/
def SrArpcache.OnePending (cache : SrArpcache) : Prop := (cache.requests.map SrArpreq.ip).Nodup

/-- The pending requests are told by those for each address. -/
theorem content_mem_iff (one : cache.OnePending) {slot : Slot} :
    (ip, slot) ∈ cache.requests.map SrArpreq.content ↔ cache.pending ip = some slot := by
  rw [List.mem_map, SrArpcache.pending, Option.map_eq_some_iff]
  constructor
  · rintro ⟨req, listed, same⟩
    cases same
    exact ⟨req, Keyed.find_of_mem one listed, rfl⟩
  · rintro ⟨req, found, rfl⟩
    exact ⟨req, mem_of_requestFor found, congrArg (·, req.slot) (ip_of_requestFor found)⟩

theorem content_perm (one : cache.OnePending) (one' : cache'.OnePending)
    (same : cache.pending = cache'.pending) :
    (cache.requests.map SrArpreq.content).Perm (cache'.requests.map SrArpreq.content) := by
  have nodup {c : SrArpcache} (one : c.OnePending) : (c.requests.map SrArpreq.content).Nodup := by
    refine List.Nodup.of_map Prod.fst ?_
    rwa [List.map_map]
  refine (List.perm_ext_iff_of_nodup (nodup one) (nodup one')).mpr fun content => ?_
  obtain ⟨ip, slot⟩ := content
  rw [content_mem_iff one, content_mem_iff one', same]

theorem requestFor_updateRequest {addr : ℕ} {f : SrArpreq → SrArpreq}
    (keeps : ∀ req, (f req).addr = req.addr) (keepsIp : ∀ req, (f req).ip = req.ip) (ip : Ip) :
    (cache.updateRequest addr f keeps).requestFor ip =
      (cache.requestFor ip).map fun req => if req.addr = addr then f req else req := by
  have same : ((fun req : SrArpreq => decide (req.ip = ip)) ∘
      fun req => if req.addr = addr then f req else req) = fun req => decide (req.ip = ip) := by
    funext req
    by_cases here : req.addr = addr
    · simp [here, keepsIp]
    · simp [here]
  change (cache.requests.map fun req => if req.addr = addr then f req else req).find?
    (fun req => req.ip = ip) = _
  rw [List.find?_map, same]
  rfl

/-- Updating the request for an address changes no other. -/
theorem requestFor_update_found {req : SrArpreq} {f : SrArpreq → SrArpreq}
    (keeps : ∀ req, (f req).addr = req.addr) (keepsIp : ∀ req, (f req).ip = req.ip)
    (found : cache.requestFor ip = some req) (other : Ip) :
    (cache.updateRequest req.addr f keeps).requestFor other =
      if other = ip then some (f req) else cache.requestFor other := by
  rw [requestFor_updateRequest keeps keepsIp]
  by_cases same : other = ip
  · rw [if_pos same, same, found, Option.map_some, if_pos rfl]
  · rw [if_neg same]
    cases found' : cache.requestFor other with
    | none => rfl
    | some req' =>
      have apart : req'.addr ≠ req.addr := by
        intro addr
        obtain rfl := eq_of_addr (mem_of_requestFor found') (mem_of_requestFor found) addr
        exact same ((ip_of_requestFor found').symm.trans (ip_of_requestFor found))
      rw [Option.map_some, if_neg apart]

/-! ## Queueing and asking, seen from the address -/

namespace Slot

/-- The slot a packet joins, with the packet in front. -/
def join (old : Option Slot) (packet : SrPacket) : Slot :=
  match old with
  | none => ⟨0, 0, [packet]⟩
  | some slot => { slot with packets := packet :: slot.packets }

/-- `difftime(now, arpreq->sent) >= 1.0`. -/
def Due (now : ℤ) (slot : Slot) : Prop := now - slot.sent ≥ 1

instance (now : ℤ) (slot : Slot) : Decidable (slot.Due now) := inferInstanceAs (Decidable (_ ≥ _))

/-- The slot after its request has been handled, if it is not given up. -/
def handled (now : ℤ) (slot : Slot) : Slot :=
  if slot.Due now then { slot with sent := now, timesSent := slot.timesSent + 1 } else slot

end Slot

section Queue

variable {buf : Bytes} {iface : IfName}

/-- The request that a packet joins, with the packet. -/
def SrArpcache.extendedRequest (cache : SrArpcache) (ip : Ip) (packet : SrPacket) : SrArpreq :=
  { cache.joined ip with packets := packet :: (cache.joined ip).packets }

theorem slot_extendedRequest (packet : SrPacket) :
    (cache.extendedRequest ip packet).slot = Slot.join (cache.pending ip) packet := by
  unfold SrArpcache.extendedRequest SrArpcache.joined SrArpcache.pending
  cases cache.requestFor ip <;> rfl

/-- Queueing a packet changes the request for its address only. -/
theorem requestFor_queuereq (some : buf ≠ []) (other : Ip) :
    (srArpcacheQueuereq cache ip buf iface).1.requestFor other =
      if other = ip then .some (cache.extendedRequest ip ⟨buf, iface⟩)
      else cache.requestFor other := by
  cases found : cache.requestFor ip with
  | none =>
    rw [SrArpcache.requestFor, requests_queuereq_of_none found some]
    have joined : cache.joined ip = ⟨cache.nextAddr, ip, 0, 0, []⟩ := by
      rw [SrArpcache.joined, found]
      rfl
    by_cases same : other = ip
    · subst same
      rw [if_pos rfl, SrArpcache.extendedRequest, joined, Keyed.find,
        List.find?_cons_of_pos (by simp)]
    · rw [if_neg same, Keyed.find, List.find?_cons_of_neg (by simpa using Ne.symm same)]
      rfl
  | some req =>
    have joined : cache.joined ip = req := by
      rw [SrArpcache.joined, found]
      rfl
    have queued : (srArpcacheQueuereq cache ip buf iface).1 =
        cache.updateRequest req.addr
          (fun req => { req with packets := ⟨buf, iface⟩ :: req.packets }) fun _ => rfl := by
      unfold srArpcacheQueuereq
      rw [found]
      exact congrArg Prod.fst (if_pos some)
    rw [queued, SrArpcache.extendedRequest, joined]
    refine requestFor_update_found _ ?_ found other
    exact fun _ => rfl

theorem pending_queuereq (some : buf ≠ []) :
    (srArpcacheQueuereq cache ip buf iface).1.pending = Function.update cache.pending ip
      (.some (Slot.join (cache.pending ip) ⟨buf, iface⟩)) := by
  funext other
  rw [SrArpcache.pending, requestFor_queuereq some]
  by_cases same : other = ip
  · rw [if_pos same, same, Function.update_self, Option.map_some, slot_extendedRequest]
  · rw [if_neg same, Function.update_of_ne same]
    rfl

theorem onePending_queuereq (one : cache.OnePending) :
    (srArpcacheQueuereq cache ip buf iface).1.OnePending := by
  rw [SrArpcache.OnePending, ips_queuereq]
  split_ifs with none
  · rw [List.nodup_cons]
    refine ⟨fun used => ?_, one⟩
    obtain ⟨req, listed, same⟩ := List.mem_map.mp used
    exact requestFor_eq_none_iff.mp none req listed same
  · exact one

/-- A request that is marked as sent is pending with another time and count. -/
theorem pending_markSent (now : ℤ) {req : SrArpreq} (found : cache.requestFor ip = some req) :
    (markSent now cache req.addr).pending = Function.update cache.pending ip
      (some { req.slot with sent := now, timesSent := req.timesSent + 1 }) := by
  funext other
  rw [SrArpcache.pending, markSent, requestFor_update_found _ ?_ found]
  swap
  · exact fun _ => rfl
  by_cases same : other = ip
  · rw [if_pos same, same, Function.update_self]
    rfl
  · rw [if_neg same, Function.update_of_ne same]
    rfl

theorem onePending_markSent (one : cache.OnePending) (now : ℤ) (addr : ℕ) :
    (markSent now cache addr).OnePending := by
  have kept : (markSent now cache addr).requests.map SrArpreq.ip =
      cache.requests.map SrArpreq.ip := by
    simp [markSent, SrArpcache.updateRequest, Keyed.map_update]
  rw [SrArpcache.OnePending, kept]
  exact one

theorem not_exhausted_extendedRequest (again : NotGivenUp cache ip) (packet : SrPacket) :
    ¬ (cache.extendedRequest ip packet).Exhausted := by
  change ¬ (cache.joined ip).Exhausted
  rcases joined_cases cache ip with old | ⟨new, -⟩
  · exact again _ old ip_joined
  · simp [SrArpreq.Exhausted, new]

/-- Handling the request that a packet has joined asks for its address, or does nothing. -/
theorem handleArpreq_queuereq {outboundIf : SrIf} (long : 34 ≤ buf.length)
    (found : srGetInterface sr iface = some outboundIf) (again : NotGivenUp cache ip)
    (one : cache.OnePending) (m : Moment) :
    ∃ cache', handleArpreq sr m.now m.rounds (srArpcacheQueuereq cache ip buf iface).1
        (srArpcacheQueuereq cache ip buf iface).2 =
          .returned
            (if (Slot.join (cache.pending ip) ⟨buf, iface⟩).Due m.now then
              [⟨.sendArpRequest, arpRequestFrame outboundIf (ipDst.get buf), iface⟩] else [])
            cache' ∧
      cache'.entries = cache.entries ∧ cache'.OnePending ∧
      cache'.pending = Function.update cache.pending ip
        (some ((Slot.join (cache.pending ip) ⟨buf, iface⟩).handled m.now)) := by
  have some : buf ≠ [] := ne_nil_of_long long
  have slot : (cache.extendedRequest ip ⟨buf, iface⟩).slot =
      Slot.join (cache.pending ip) ⟨buf, iface⟩ := slot_extendedRequest _
  have here : (srArpcacheQueuereq cache ip buf iface).1.requestFor ip =
      .some (cache.extendedRequest ip ⟨buf, iface⟩) := by
    rw [requestFor_queuereq some, if_pos rfl]
  have pending : (srArpcacheQueuereq cache ip buf iface).1.pending =
      Function.update cache.pending ip (.some (Slot.join (cache.pending ip) ⟨buf, iface⟩)) :=
    pending_queuereq some
  have one' : (srArpcacheQueuereq cache ip buf iface).1.OnePending := onePending_queuereq one
  have entries : (srArpcacheQueuereq cache ip buf iface).1.entries = cache.entries :=
    entries_queuereq
  have addr : (srArpcacheQueuereq cache ip buf iface).2 =
      (cache.extendedRequest ip ⟨buf, iface⟩).addr := addr_queuereq
  have at' : (srArpcacheQueuereq cache ip buf iface).1.requestAt
        (cache.extendedRequest ip ⟨buf, iface⟩).addr =
      .some (cache.extendedRequest ip ⟨buf, iface⟩) :=
    requestAt_of_mem (joined_mem_queuereq cache ip some iface)
  rw [addr, ← slot]
  by_cases due : (cache.extendedRequest ip ⟨buf, iface⟩).Due m.now
  · have due' : (cache.extendedRequest ip ⟨buf, iface⟩).slot.Due m.now := due
    rw [if_pos due', handleArpreq_of_again at' due (not_exhausted_extendedRequest again _) rfl,
      sendArpRequest_eq long found, Outcome.returned_bind_pure]
    refine ⟨_, rfl, entries, onePending_markSent one' _ _, ?_⟩
    rw [pending_markSent m.now here, pending, Function.update_idem, Slot.handled, if_pos due']
    rfl
  · have early : ¬ (cache.extendedRequest ip ⟨buf, iface⟩).slot.Due m.now := due
    rw [if_neg early, handleArpreq_of_early at' due]
    refine ⟨_, rfl, entries, one', ?_⟩
    rw [pending, Slot.handled, if_neg early, slot]

end Queue

/-! ## Forwarding as a step at the destination -/

instance : Decidable (Unseen sr packet) := inferInstanceAs (Decidable (_ ∨ _))

/-- The interface that a destination is reached by. -/
def outboundIf (sr : SrInstance) (ip : Ip) : SrIf :=
  (srGetInterface sr (routeInterface sr ip)).getD SrIf.zero

/-- What forwarding a packet does, told by the table and the request for its destination. -/
def forwardStep (sr : SrInstance) (now : ℤ) (lookup : Ip → Option SrArpentry) (packet : Bytes) :
    Step Ip (Option Slot) SentFrame :=
  let dst := ipDst.get packet
  let iface := outboundIf sr dst
  if Unseen sr packet then ⟨dst, id, fun _ => []⟩
  else match lookup dst with
    | some arpentry => ⟨dst, id, fun _ => [⟨.forwardIpPacket,
        readdressed arpentry.mac iface.addr (decremented packet), iface.name⟩]⟩
    | none => ⟨dst, fun old => some ((Slot.join old (queuedCopy iface packet)).handled now),
        fun old => if (Slot.join old (queuedCopy iface packet)).Due now then
          [⟨.sendArpRequest, arpRequestFrame iface dst, iface.name⟩] else []⟩

section Forward

variable {now : ℤ} {lookup : Ip → Option SrArpentry}

theorem forwardStep_of_unseen (unseen : Unseen sr packet) :
    forwardStep sr now lookup packet = ⟨ipDst.get packet, id, fun _ => []⟩ := if_pos unseen

theorem forwardStep_of_some (seen : ¬ Unseen sr packet) {arpentry : SrArpentry}
    (hit : lookup (ipDst.get packet) = some arpentry) :
    forwardStep sr now lookup packet = ⟨ipDst.get packet, id, fun _ => [⟨.forwardIpPacket,
      readdressed arpentry.mac (outboundIf sr (ipDst.get packet)).addr (decremented packet),
      (outboundIf sr (ipDst.get packet)).name⟩]⟩ := by
  rw [forwardStep, if_neg seen, hit]

theorem forwardStep_of_none (seen : ¬ Unseen sr packet)
    (miss : lookup (ipDst.get packet) = none) :
    forwardStep sr now lookup packet = ⟨ipDst.get packet,
      fun old => some ((Slot.join old
        (queuedCopy (outboundIf sr (ipDst.get packet)) packet)).handled now),
      fun old => if (Slot.join old (queuedCopy (outboundIf sr (ipDst.get packet)) packet)).Due now
        then [⟨.sendArpRequest, arpRequestFrame (outboundIf sr (ipDst.get packet))
          (ipDst.get packet), (outboundIf sr (ipDst.get packet)).name⟩] else []⟩ := by
  rw [forwardStep, if_neg seen, miss]

theorem key_forwardStep : (forwardStep sr now lookup packet).key = ipDst.get packet := by
  by_cases unseen : Unseen sr packet
  · rw [forwardStep_of_unseen unseen]
  · cases found : lookup (ipDst.get packet) with
    | none => rw [forwardStep_of_none unseen found]
    | some arpentry => rw [forwardStep_of_some unseen found]

theorem InterfacesExist.found (exist : InterfacesExist sr) (ip : Ip) :
    srGetInterface sr (routeInterface sr ip) = some (outboundIf sr ip) := by
  have isSome : (srGetInterface sr (routeInterface sr ip)).isSome := by
    rw [routeInterface]
    cases found : sr.routingTable.find? fun walker => walker.dest = ip with
    | none => exact exist.builtIn
    | some route => exact exist.routes route (Keyed.mem_of_find found)
  obtain ⟨iface, found⟩ := Option.isSome_iff_exists.mp isSome
  rw [outboundIf, found, Option.getD_some]

theorem lookup_congr (same : cache'.entries = cache.entries) :
    srArpcacheLookup cache' = srArpcacheLookup cache := by
  funext ip
  rw [srArpcacheLookup, srArpcacheLookup, same]

theorem notGivenUp_congr (one : cache.OnePending) (one' : cache'.OnePending)
    (same : cache'.pending ip = cache.pending ip) (again : NotGivenUp cache ip) :
    NotGivenUp cache' ip := by
  rintro req listed rfl
  have pending := (content_mem_iff one').mp (List.mem_map_of_mem (f := SrArpreq.content) listed)
  rw [same, ← content_mem_iff one] at pending
  obtain ⟨old, listed', content⟩ := List.mem_map.mp pending
  obtain ⟨ip, slot⟩ := Prod.mk.inj content
  have count : old.timesSent = req.timesSent := congrArg Slot.timesSent slot
  rw [SrArpreq.Exhausted, ← count]
  exact again old listed' ip

/-- Reacting to a packet for another host takes the step. -/
theorem react_forward (exist : InterfacesExist sr) (forward : ToForward sr packet)
    (again : NotGivenUp cache (ipDst.get packet)) (one : cache.OnePending) (interface : IfName)
    (m : Moment) :
    ∃ cache', react sr m cache (.frame packet interface) =
        .returned ((forwardStep sr m.now (srArpcacheLookup cache) packet).emits
          (cache.pending (ipDst.get packet))) cache' ∧
      cache'.entries = cache.entries ∧ cache'.OnePending ∧
      cache'.pending = (forwardStep sr m.now (srArpcacheLookup cache) packet).after
        cache.pending := by
  have found := exist.found (ipDst.get packet)
  have some : sr.ifList ≠ [] := List.ne_nil_of_mem (mem_of_srGetInterface found)
  have long : 34 ≤ (decremented packet).length := by simpa using forward.long
  have dst := ipDst_decremented packet
  by_cases unseen : Unseen sr packet
  · rw [forwardStep_of_unseen unseen]
    refine ⟨cache, react_frame ?_, rfl, one, (Function.update_eq_self _ _).symm⟩
    rw [srHandlepacket_eq (Nat.le_trans (by decide) forward.long) some,
      if_neg (unseen.resolve_left some)]
    rfl
  cases hit : srArpcacheLookup cache (ipDst.get packet) with
  | some arpentry =>
    rw [forwardStep_of_some unseen hit]
    exact ⟨cache, react_packet_of_mapped forward unseen found hit, rfl, one,
      (Function.update_eq_self _ _).symm⟩
  | none =>
    have named : srGetInterface sr (outboundIf sr (ipDst.get packet)).name =
        .some (outboundIf sr (ipDst.get packet)) := name_of_srGetInterface found ▸ found
    have copied : 34 ≤ (readdressed (.replicate 6 0) (outboundIf sr (ipDst.get packet)).addr
        (decremented packet)).length := by simpa using forward.long
    have dst' : ipDst.get (readdressed (.replicate 6 0) (outboundIf sr (ipDst.get packet)).addr
        (decremented packet)) = ipDst.get packet := by
      rw [get_readdressed (by decide) (by decide), dst]
    obtain ⟨cache', handled, entries, one', pending⟩ :=
      handleArpreq_queuereq copied named again one m
    rw [forwardStep_of_none unseen hit]
    refine ⟨cache', react_frame ?_, entries, one', pending⟩
    rw [forward.handled unseen, run_forwardRouted_of_none long (dst.symm ▸ found)
      (dst.symm ▸ hit), dst, handled, dst']
    exact Outcome.returned_bind_pure _ _ _

/-- Packets that arrive at one time, each on its interface. -/
def arrivals (m : Moment) (packets : List (Bytes × IfName)) : List (Moment × Input) :=
  packets.map fun packet => (m, .frame packet.1 packet.2)

/-- The steps that packets take, with one table. -/
def forwardSteps (sr : SrInstance) (now : ℤ) (lookup : Ip → Option SrArpentry)
    (packets : List (Bytes × IfName)) : List (Step Ip (Option Slot) SentFrame) :=
  packets.map fun packet => forwardStep sr now lookup packet.1

theorem keys_forwardSteps (packets : List (Bytes × IfName)) :
    (forwardSteps sr now lookup packets).map Step.key =
      packets.map fun packet => ipDst.get packet.1 := by
  rw [forwardSteps, List.map_map]
  exact List.map_congr_left fun _ _ => key_forwardStep

/-- Reacting to packets for different hosts takes their steps. -/
theorem reactAll_forward (exist : InterfacesExist sr) {packets : List (Bytes × IfName)}
    (forward : ∀ packet ∈ packets, ToForward sr packet.1)
    (distinct : (packets.map fun packet => ipDst.get packet.1).Nodup)
    (again : ∀ packet ∈ packets, NotGivenUp cache (ipDst.get packet.1)) (one : cache.OnePending)
    (m : Moment) :
    ∃ cache', reactAll sr (arrivals m packets) cache =
        .returned (run (forwardSteps sr m.now (srArpcacheLookup cache) packets) cache.pending).1
          cache' ∧
      cache'.entries = cache.entries ∧ cache'.OnePending ∧
      cache'.pending =
        (run (forwardSteps sr m.now (srArpcacheLookup cache) packets) cache.pending).2 := by
  induction packets generalizing cache with
  | nil => exact ⟨cache, rfl, rfl, one, rfl⟩
  | cons packet rest ih =>
    rw [List.map_cons, List.nodup_cons] at distinct
    obtain ⟨cache₁, reacts, entries₁, one₁, pending₁⟩ := react_forward exist
      (forward packet List.mem_cons_self) (again packet List.mem_cons_self) one packet.2 m
    -- The packets that are left find the requests for their hosts as they were.
    have again₁ : ∀ other ∈ rest, NotGivenUp cache₁ (ipDst.get other.1) := by
      intro other listed
      refine notGivenUp_congr one one₁ ?_ (again other (List.mem_cons_of_mem _ listed))
      rw [pending₁, Step.after_of_ne]
      rw [key_forwardStep]
      exact fun same => distinct.1 (List.mem_map.mpr ⟨other, listed, same⟩)
    obtain ⟨cache₂, later, entries₂, one₂, pending₂⟩ :=
      ih (fun other listed => forward other (List.mem_cons_of_mem _ listed)) distinct.2 again₁ one₁
    rw [lookup_congr entries₁, pending₁] at later pending₂
    refine ⟨cache₂, ?_, entries₂.trans entries₁, one₂, pending₂⟩
    rw [arrivals, List.map_cons, reactAll, reacts, Outcome.returned_bind, ← arrivals, later]
    simp only [forwardSteps, List.map_cons, run, key_forwardStep]
    rfl

end Forward

/-! ## Commutation -/

/-- Packets for different hosts may be handled in any order. -/
theorem sameOutcome_of_perm (exist : InterfacesExist sr) {packets packets' : List (Bytes × IfName)}
    (perm : packets.Perm packets') (forward : ∀ packet ∈ packets, ToForward sr packet.1)
    (distinct : (packets.map fun packet => ipDst.get packet.1).Nodup)
    (again : ∀ packet ∈ packets, NotGivenUp cache (ipDst.get packet.1)) (one : cache.OnePending)
    (m : Moment) :
    SameOutcome (reactAll sr (arrivals m packets) cache)
      (reactAll sr (arrivals m packets') cache) := by
  have forward' : ∀ packet ∈ packets', ToForward sr packet.1 :=
    fun packet listed => forward packet (perm.mem_iff.mpr listed)
  have again' : ∀ packet ∈ packets', NotGivenUp cache (ipDst.get packet.1) :=
    fun packet listed => again packet (perm.mem_iff.mpr listed)
  have distinct' : (packets'.map fun packet => ipDst.get packet.1).Nodup :=
    (perm.map _).nodup_iff.mp distinct
  obtain ⟨cache₁, reacts₁, entries₁, one₁, pending₁⟩ :=
    reactAll_forward exist forward distinct again one m
  obtain ⟨cache₂, reacts₂, entries₂, one₂, pending₂⟩ :=
    reactAll_forward exist forward' distinct' again' one m
  have steps : (forwardSteps sr m.now (srArpcacheLookup cache) packets).Perm
      (forwardSteps sr m.now (srArpcacheLookup cache) packets') := perm.map _
  have keys : ((forwardSteps sr m.now (srArpcacheLookup cache) packets).map Step.key).Nodup :=
    (keys_forwardSteps packets).symm ▸ distinct
  obtain ⟨frames, states⟩ := run_perm steps keys cache.pending
  have same : cache₁.pending = cache₂.pending := pending₁.trans (states.trans pending₂.symm)
  exact ⟨_, cache₁, _, cache₂, reacts₁, reacts₂, entries₁.trans entries₂.symm,
    content_perm one₁ one₂ same, frames⟩

/-- Two packets for different hosts commute, in every reachable state and at one time. -/
theorem forwards_commute {s : RouterState} {first second : Bytes}
    (reachable : Reachable sr ⟨s, .done ()⟩) (exist : InterfacesExist sr)
    (forward : ToForward sr first) (forward' : ToForward sr second)
    (distinct : ipDst.get first ≠ ipDst.get second)
    (again : NotGivenUp s.cache (ipDst.get first)) (again' : NotGivenUp s.cache (ipDst.get second))
    (interface port : IfName) (m : Moment) :
    SameOutcome (reactAll sr [(m, .frame first interface), (m, .frame second port)] s.cache)
      (reactAll sr [(m, .frame second port), (m, .frame first interface)] s.cache) := by
  have one : s.cache.OnePending := (cacheInv_of_reachable reachable).oneRequest
  have swap : [(first, interface), (second, port)].Perm [(second, port), (first, interface)] :=
    .swap _ _ _
  exact sameOutcome_of_perm exist swap (by simpa using ⟨forward, forward'⟩)
    (by simpa using distinct) (by simpa using ⟨again, again'⟩) one m

/-- An echo request of the client to the second server, as it reaches the router. -/
def clientPing2 : Bytes :=
  sampleDatagram sampleEth3.addr clientMac 64 ipProtocolIcmp clientIp server2Ip echoRequest

theorem forwards_commute_pings :
    SameOutcome
      (reactAll sampleInstance
        [(⟨100, 0⟩, .frame clientPing eth3), (⟨100, 0⟩, .frame clientPing2 eth3)] initially.cache)
      (reactAll sampleInstance
        [(⟨100, 0⟩, .frame clientPing2 eth3), (⟨100, 0⟩, .frame clientPing eth3)]
        initially.cache) := by
  have exist : InterfacesExist sampleInstance := ⟨by decide, by decide⟩
  have forward : ToForward sampleInstance clientPing2 := by constructor <;> decide +kernel
  have again (ip : Ip) : NotGivenUp initially.cache ip :=
    fun _ listed => absurd listed List.not_mem_nil
  exact forwards_commute .refl exist toForward_clientPing forward (by decide) (again _)
    (again _) eth3 eth3 ⟨100, 0⟩

end SimpleRouter
