/-
# Verified routing tables

`sr_verify_routing_table` checks that the interface of every route exists. The code
dereferences the results of `sr_get_interface` for four kinds of names: that of a route,
that of the interface a frame came in by, those recorded with the packets that wait, and
`eth3`, which is built into `check_route` and which nothing verifies.

So in a verified configuration no null interface is met, in any state the router can be
in, if and only if `eth3` exists or is never needed.
-/

import SimpleRouter.PathAgreement

namespace SimpleRouter

open Buffers Effects Machine

variable {sr : SrInstance} {m : Moment} {cache : SrArpcache} {packet : Bytes} {interface : IfName}
  {inboundIf : SrIf} {α β : Type}

/-! ## What is asked of the code -/

/-- From any reachable state in which no frame is being handled, while an ARP or IP frame
that came in on a listed interface is handled and the timer moves in any way, no step
dereferences the null result of `sr_get_interface`. -/
def NeverNull (sr : SrInstance) : Prop :=
  ∀ s, Reachable sr ⟨s, .done ()⟩ → ∀ packet interface, IsArp packet ∨ IsIp packet →
    (srGetInterface sr interface).isSome → ∀ c, Handling sr s packet interface c →
    ¬ (router sr).StopsFor c (.fault .nullInterface)

/-- Every destination has an interface to leave by. -/
def Routed (sr : SrInstance) : Prop :=
  ∀ dst, (srGetInterface sr (routeInterface sr dst)).isSome

/-- A table all of whose interfaces exist serves every destination if and only if `eth3`
exists or every destination is listed. -/
theorem routed_iff (verified : srVerifyRoutingTable sr = 0) :
    Routed sr ↔ (srGetInterface sr eth3).isSome ∨
      ∀ dst, ∃ route ∈ sr.routingTable, route.dest = dst := by
  obtain ⟨-, -, exist⟩ := (srVerifyRoutingTable_eq_zero_iff sr).mp verified
  constructor
  · intro routed
    by_cases builtIn : (srGetInterface sr eth3).isSome
    · exact .inl builtIn
    · refine .inr fun dst => ?_
      by_contra unlisted
      have absent : sr.routingTable.find? (fun walker => walker.dest = dst) = none :=
        Keyed.find_eq_none_iff.mpr fun route listed same => unlisted ⟨route, listed, same⟩
      have through := routed dst
      rw [routeInterface, absent] at through
      exact builtIn through
  · intro either dst
    rw [routeInterface]
    cases found : sr.routingTable.find? fun walker => walker.dest = dst with
    | some route => exact exist route (Keyed.mem_of_find found)
    | none =>
      refine either.resolve_right fun listed => ?_
      obtain ⟨route, member, same⟩ := listed dst
      exact Keyed.find_eq_none_iff.mp found route member same

/-! ## Code that meets no null interface -/

/-- The reason is another than a null interface. -/
def NotNull (why : Stop) : Prop := why ≠ .fault .nullInterface

/-- The operation does not dereference a null interface by itself. -/
def DerefsNone (o : RouterOp) : Prop := o ≠ .stop (.fault .nullInterface)

theorem stopsOnly_fail {why : Fault} (other : why ≠ .nullInterface) :
    (fail why : Action α).StopsOnly NotNull :=
  Outcome.stopsOnly_stop fun same => other (Stop.fault.inj same)

theorem stopsOnly_load {n : ℕ} (f : Span n) (packet : Bytes) :
    (load f packet).StopsOnly NotNull := by
  by_cases fits : f.Fits packet
  · rw [load_of_fits fits]
    exact Outcome.stopsOnly_pure _
  · rw [load_of_not_fits fits]
    exact stopsOnly_fail (by decide)

theorem stopsOnly_store {n : ℕ} (f : Span n) (v : Vector UInt8 n) (packet : Bytes) :
    (store f v packet).StopsOnly NotNull := by
  by_cases fits : f.Fits packet
  · rw [store_of_fits fits]
    exact Outcome.stopsOnly_pure _
  · rw [store_of_not_fits fits]
    exact stopsOnly_fail (by decide)

theorem stopsOnly_redoIpSum (packet : Bytes) : (redoIpSum packet).StopsOnly NotNull :=
  (stopsOnly_store _ _ _).bind fun _ => (stopsOnly_load _ _).bind fun _ => stopsOnly_store _ _ _

theorem stopsOnly_validateIp (packet : Bytes) : (validateIp packet).StopsOnly NotNull := by
  refine (stopsOnly_load _ _).bind fun len => ?_
  split
  · exact Outcome.stopsOnly_pure _
  · refine (stopsOnly_load _ _).bind fun _ => (stopsOnly_redoIpSum _).bind fun _ => ?_
    refine (stopsOnly_load _ _).bind fun _ => ?_
    split
    · exact Outcome.stopsOnly_pure _
    · exact Outcome.stopsOnly_pure _

theorem stopsOnly_checkEthernet (some : sr.ifList ≠ []) (packet : Bytes) :
    (checkEthernet packet sr.ifList).StopsOnly NotNull := by
  by_cases short : packet.length < 6
  · rw [checkEthernet_short short some]
    split
    · exact stopsOnly_fail (by decide)
    · exact Outcome.stopsOnly_pure _
  · rw [checkEthernet_eq sr (Nat.le_of_not_lt short) some]
    exact Outcome.stopsOnly_pure _

/-- A walk through a table that is not empty reads the destination before anything else. -/
theorem stopsOnly_checkRoute (routed : Routed sr) (table : sr.routingTable ≠ []) (packet : Bytes) :
    (checkRoute sr packet SrIf.zero).StopsOnly NotNull := by
  by_cases fits : ipDst.Fits packet
  · obtain ⟨tmpFace, found⟩ := Option.isSome_iff_exists.mp (routed (ipDst.get packet))
    rw [checkRoute_of_some fits SrIf.zero found]
    exact Outcome.stopsOnly_pure _
  · obtain ⟨walker, rest, same⟩ := List.exists_cons_of_ne_nil table
    rw [checkRoute, same, checkRouteFrom, load_of_not_fits fits]
    exact stopsOnly_fail (by decide)

theorem stopsOnly_sendIcmpError (found : srGetInterface sr interface = some inboundIf)
    (packet : Bytes)
    (type code : UInt8) : (sendIcmpError sr packet interface type code).StopsOnly NotNull := by
  by_cases short : packet.length < 42
  · rw [sendIcmpError_short short found]
    exact stopsOnly_fail (by decide)
  · rw [sendIcmpError_eq (Nat.le_of_not_lt short) found]
    exact Outcome.stopsOnly_returned _ _

theorem stopsOnly_replyToArpRequest (found : srGetInterface sr interface = some inboundIf)
    (packet : Bytes) : (replyToArpRequest sr packet interface).StopsOnly NotNull := by
  by_cases short : packet.length < 42
  · rw [replyToArpRequest_short short]
    exact stopsOnly_fail (by decide)
  · rw [replyToArpRequest_eq (Nat.le_of_not_lt short) found]
    exact Outcome.stopsOnly_returned _ _

theorem stopsOnly_replyToIcmpRequest (some : sr.ifList ≠ []) (packet : Bytes)
    (requestedInterface : SrIf) :
    (replyToIcmpRequest sr packet interface requestedInterface).StopsOnly NotNull := by
  obtain ⟨first, rest, list⟩ := List.exists_cons_of_ne_nil some
  have head : sr.ifList.head? = .some first := by rw [list, List.head?_cons]
  by_cases short : packet.length < 35
  · rw [replyToIcmpRequest_short short head]
    exact stopsOnly_fail (by decide)
  · rw [replyToIcmpRequest_eq (Nat.le_of_not_lt short) head]
    exact Outcome.stopsOnly_returned _ _

theorem stopsOnly_sendFirstWaiting (packet : Bytes) (arpreq : SrArpreq) :
    (sendFirstWaiting packet arpreq).StopsOnly NotNull := by
  unfold sendFirstWaiting
  split
  · exact stopsOnly_fail (by decide)
  · refine (stopsOnly_load _ _).bind fun _ => (stopsOnly_store _ _ _).bind fun _ => ?_
    exact Outcome.stopsOnly_returned _ _

/-! ### Handling a request -/

theorem stopsOnly_hostUnreachableLoop (found : srGetInterface sr interface = some inboundIf)
    (rounds : ℕ) (buf : Bytes) :
    (hostUnreachableLoop sr interface rounds buf).StopsOnly NotNull := by
  induction rounds generalizing buf with
  | zero => exact Outcome.stopsOnly_stop nofun
  | succ rounds ih => exact (stopsOnly_sendIcmpError found buf 3 1).bind ih

/-- The interfaces recorded with the packets that wait exist. -/
theorem stopsOnly_handleArpreq {keeps : Ip → SrPacket → Prop} (inv : CacheInv sr keeps cache)
    (now : ℤ) (rounds arpreq : ℕ) :
    (handleArpreq sr now rounds cache arpreq).StopsOnly NotNull := by
  cases found : cache.requestAt arpreq with
  | none =>
    rw [handleArpreq_of_absent found]
    exact stopsOnly_fail (by decide)
  | some req =>
    have listed := mem_of_requestAt found
    obtain ⟨walker, rest, waits⟩ := List.exists_cons_of_ne_nil (inv.occupied req listed)
    have waiting := inv.waiting req listed walker (waits ▸ List.mem_cons_self)
    obtain ⟨iface, route, -⟩ := waiting.shost
    by_cases due : req.Due now
    · by_cases exhausted : req.Exhausted
      · rw [handleArpreq_of_exhausted found due exhausted, waits]
        exact (stopsOnly_hostUnreachableLoop route rounds walker.buf).bind fun _ =>
          Outcome.stopsOnly_pure _
      · rw [handleArpreq_of_again found due exhausted waits, sendArpRequest_eq waiting.long route]
        exact (Outcome.stopsOnly_returned _ _).bind fun _ => Outcome.stopsOnly_pure _
    · rw [handleArpreq_of_early found due]
      exact Outcome.stopsOnly_pure _

theorem stopsOnly_nextRequest (cache : SrArpcache) (walker : ℕ) :
    (nextRequest cache walker).StopsOnly NotNull := by
  unfold nextRequest
  split
  · exact Outcome.stopsOnly_pure _
  · exact stopsOnly_fail (by decide)

/-! ### The main thread -/

theorem only_of_stopsOnly {x : Action α} (only : x.StopsOnly NotNull) :
    (liftM x : RouterProgram α).Only DerefsNone :=
  only_liftM_of_reason (fun _ => nofun) fun why stops same =>
    only why stops (RouterOp.stop.inj same)

theorem only_load_bind {n : ℕ} (f : Span n) (packet : Bytes)
    {next : Vector UInt8 n → RouterProgram α}
    (rest : ∀ v, (next v).Only DerefsNone) : (liftM (load f packet) >>= next).Only DerefsNone :=
  (only_of_stopsOnly (stopsOnly_load f packet)).bind rest

theorem only_store_bind {n : ℕ} (f : Span n) (v : Vector UInt8 n) (packet : Bytes)
    {next : Bytes → RouterProgram α} (rest : ∀ buf, (next buf).Only DerefsNone) :
    (liftM (store f v packet) >>= next).Only DerefsNone :=
  (only_of_stopsOnly (stopsOnly_store f v packet)).bind rest

theorem only_srSendPacket (sender : Sender) (buf : Bytes) (iface : IfName) :
    (liftM (srSendPacket sender buf iface) : RouterProgram Unit).Only DerefsNone :=
  only_of_stopsOnly (Outcome.stopsOnly_returned _ _)

theorem only_callLookup_bind (ip : Ip) {next : Option SrArpentry → RouterProgram α}
    (rest : ∀ entry, (next entry).Only DerefsNone) : (callLookup ip >>= next).Only DerefsNone :=
  .op nofun rest

section Programs

variable (routed : Routed sr) (table : sr.routingTable ≠ [])
include routed table

theorem derefsNone_forwardRouted (packet : Bytes) : (forwardRouted sr packet).Only DerefsNone := by
  refine (only_of_stopsOnly (stopsOnly_checkRoute routed table packet)).bind
    fun (answer : ℕ × SrIf) => ?_
  obtain ⟨routeResult, outboundIf⟩ := answer
  dsimp only
  split
  · refine only_load_bind _ _ fun dst => only_callLookup_bind dst fun entry => ?_
    cases entry with
    | some arpentry =>
      exact only_store_bind _ _ _ fun _ => only_store_bind _ _ _ fun _ => only_srSendPacket _ _ _
    | none =>
      refine only_store_bind _ _ _ fun _ => only_store_bind _ _ _ fun _ => ?_
      exact only_load_bind _ _ fun _ => .op nofun fun _ => .op nofun .done
  · exact .done ()

theorem derefsNone_resendReply (packet : Bytes) : (resendReply sr packet).Only DerefsNone :=
  (only_of_stopsOnly (stopsOnly_checkRoute routed table packet)).bind
    fun _ => only_srSendPacket _ _ _

theorem derefsNone_forwardIpPacket (found : srGetInterface sr interface = some inboundIf)
    (packet : Bytes) : (forwardIpPacket sr packet interface).Only DerefsNone := by
  refine only_load_bind _ _ fun _ => only_store_bind _ _ _ fun packet => ?_
  refine (only_of_stopsOnly (stopsOnly_redoIpSum packet)).bind fun packet => ?_
  refine only_load_bind _ _ fun _ => ?_
  split
  · refine (only_of_stopsOnly (stopsOnly_sendIcmpError found packet 11 0)).bind fun _ => ?_
    exact derefsNone_forwardRouted routed table _
  · exact derefsNone_forwardRouted routed table _

theorem derefsNone_dealArp (found : srGetInterface sr interface = some inboundIf)
    (packet : Bytes) : (dealArp sr packet interface).Only DerefsNone := by
  refine only_load_bind _ _ fun op => ?_
  split
  · exact only_of_stopsOnly (stopsOnly_replyToArpRequest found packet)
  split
  · refine only_load_bind _ _ fun sip => only_callLookup_bind sip fun entry => ?_
    cases entry with
    | some arpentry => exact derefsNone_resendReply routed table packet
    | none =>
      refine only_load_bind _ _ fun sha => .op nofun fun arpreq => ?_
      cases arpreq with
      | some arpreq => exact only_of_stopsOnly (stopsOnly_sendFirstWaiting packet arpreq)
      | none => exact .done ()
  · exact .done ()

theorem derefsNone_dealIp (found : srGetInterface sr interface = some inboundIf) (packet : Bytes) :
    (dealIp sr packet interface).Only DerefsNone := by
  have some : sr.ifList ≠ [] := List.ne_nil_of_mem (mem_of_srGetInterface found)
  refine only_load_bind _ _ fun targetIp => ?_
  refine (only_of_stopsOnly (stopsOnly_validateIp packet)).bind fun (answer : ℕ × Bytes) => ?_
  obtain ⟨validateIpResult, packet⟩ := answer
  dsimp only
  split
  · exact .done ()
  cases checkInterface sr targetIp with
  | none => exact derefsNone_forwardIpPacket routed table found _
  | some destInterface =>
    refine only_load_bind _ _ fun p => ?_
    split
    · exact only_of_stopsOnly (stopsOnly_replyToIcmpRequest some _ destInterface)
    split
    · exact (only_of_stopsOnly (stopsOnly_sendIcmpError found _ 3 3)).bind fun _ => .done ()
    · exact .done ()

theorem derefsNone_srHandlepacket (found : srGetInterface sr interface = some inboundIf)
    (packet : Bytes) : (srHandlepacket sr packet interface).Only DerefsNone := by
  have some : sr.ifList ≠ [] := List.ne_nil_of_mem (mem_of_srGetInterface found)
  refine (only_of_stopsOnly (stopsOnly_checkEthernet some packet)).bind fun ours => ?_
  split
  · refine only_load_bind _ _ fun ethertype => ?_
    split
    · exact derefsNone_dealArp routed table found packet
    split
    · exact derefsNone_dealIp routed table found packet
    · exact .done ()
  · exact .done ()

end Programs

/-! ## Runs -/

/-- A step of a program that dereferences nothing null, or of the timer. -/
theorem not_stopsFor {keeps : Ip → SrPacket → Prop} {c : Config RouterOp RouterOp.Resp RouterState}
    (inv : CacheInv sr keeps c.state.cache) (only : c.program.Only DerefsNone) :
    ¬ (router sr).StopsFor c (.fault .nullInterface) := by
  intro stops
  cases stops with
  | @op s o next why m ready reason =>
    have executed : (execOp sr m o s.cache).StopsOnly NotNull := by
      cases o with
      | lookup ip => exact Outcome.stopsOnly_pure _
      | insert mac ip => exact Outcome.stopsOnly_pure _
      | queuereq ip packet iface => exact Outcome.stopsOnly_pure _
      | handleArpreq arpreq =>
        exact (stopsOnly_handleArpreq inv _ _ _).bind fun _ => Outcome.stopsOnly_pure _
      | send frame => exact Outcome.stopsOnly_returned _ _
      | stop why =>
        exact Outcome.stopsOnly_stop fun same =>
          (Program.only_op_iff.mp only).1 (congrArg RouterOp.stop same)
    exact executed.bind (fun _ => Outcome.stopsOnly_pure _) _ reason rfl
  | @move s p out why k available reason =>
    rcases timerMove_cases available with ⟨curtime, rfl⟩ | ⟨m, walker, rfl⟩ | rfl
    · cases reason
    · have swept : (sweepRound sr m.now m.rounds s.cache walker).StopsOnly NotNull := by
        refine (stopsOnly_handleArpreq inv _ _ _).bind fun _ => ?_
        exact (stopsOnly_nextRequest _ _).bind fun _ => Outcome.stopsOnly_pure _
      exact swept.bind (fun _ => Outcome.stopsOnly_pure _) _ reason rfl
    · cases reason

/-- If every destination is routed, no null interface is met. -/
theorem neverNull_of_routed (routed : Routed sr) (table : sr.routingTable ≠ []) : NeverNull sr := by
  intro s reachable packet interface _ listed c handling
  obtain ⟨inboundIf, found⟩ := Option.isSome_iff_exists.mp listed
  have started : Reachable sr ⟨s, srHandlepacket sr packet interface⟩ :=
    reachable.tail (.start ⟨packet, interface, trivial, rfl⟩)
  have inv := cacheInv_of_reachable (started.trans (handling.mono fun _ _ never => never.elim))
  exact not_stopsFor inv
    (only_of_reaches (derefsNone_srHandlepacket routed table found packet) handling)

/-! ## A reply that no route is listed for -/

/-- The first 30 bytes of an ARP reply to everybody. -/
def strayHeader : Bytes :=
  breadcast.toList ++ breadcast.toList ++ [8, 6] ++ [0, 1, 8, 0, 6, 4, 0, 2] ++ breadcast.toList ++
    [0, 0]

/-- An ARP reply whose bytes 30 to 33, which `check_route` takes for the destination of an
IP packet, are the address. -/
def strayReply (dst : Ip) : Bytes := strayHeader ++ (dst.toList ++ .replicate 8 0)

variable {dst : Ip}

theorem length_strayReply : (strayReply dst).length = 42 := by
  simp [strayReply, strayHeader]

theorem ipDst_strayReply : ipDst.get (strayReply dst) = dst := by
  have fits : ipDst.Fits (strayReply dst) := fits_of_le length_strayReply.ge (by decide)
  apply Vector.toList_inj.mp
  rw [Span.toList_get fits]
  have header : strayHeader.length = ipDst.off := by decide
  rw [strayReply, List.drop_left' header, List.take_left' Vector.length_toList]

theorem get_strayReply {n : ℕ} {f : Span n} (within : f.Fits strayHeader) :
    f.get (strayReply dst) = f.get strayHeader := Span.get_append_left within _

theorem replyFrom_strayReply : ReplyFrom (arSip.get (strayReply dst)) (strayReply dst) where
  whole := length_strayReply.ge
  arp := by
    rw [IsArp, get_strayReply (by decide)]
    decide
  answers := by
    rw [ArpReply, get_strayReply (by decide)]
    decide
  sender := rfl

theorem forRouter_strayReply : ForRouter sr (strayReply dst) :=
  .inl (by rw [get_strayReply (by decide)]; decide)

/-- Sending a known reply on without a route dereferences null. -/
theorem resendReply_of_missing (fits : ipDst.Fits packet)
    (missing : srGetInterface sr (routeInterface sr (ipDst.get packet)) = none) :
    ∃ next, resendReply sr packet = .op (.stop (.fault .nullInterface)) next := by
  rw [resendReply, checkRoute_of_none fits SrIf.zero missing]
  exact ⟨_, rfl⟩

/-- If some destination is not routed, the second of two stray replies meets a null
interface. -/
theorem routed_of_neverNull (ifs : sr.ifList ≠ []) (never : NeverNull sr) : Routed sr := by
  intro dst
  by_contra unrouted
  have missing : srGetInterface sr (routeInterface sr (ipDst.get (strayReply dst))) = none := by
    rw [ipDst_strayReply]
    exact Option.not_isSome_iff_eq_none.mp unrouted
  obtain ⟨first, rest, list⟩ := List.exists_cons_of_ne_nil ifs
  have listed : (srGetInterface sr first.name).isSome := by
    rw [srGetInterface, list, List.find?_cons_of_pos (by simp)]
    rfl
  have answer : ReplyFrom (arSip.get (strayReply dst)) (strayReply dst) := replyFrom_strayReply
  have seen : ¬ Unseen sr (strayReply dst) := fun unseen =>
    unseen.absurd forRouter_strayReply listed
  have unknown := unknown_initially (arSip.get (strayReply dst))
  -- The first reply is entered, and so the sender of the second is known.
  have entered : react sr ⟨0, 0⟩ srArpcacheInit (.frame (strayReply dst) first.name) =
      .returned [] _ := react_reply answer seen unknown
  obtain ⟨entry, hit⟩ : ∃ entry, srArpcacheLookup (srArpcacheInsert 0 srArpcacheInit
      (arSha.get (strayReply dst)) (arSip.get (strayReply dst))).1 (arSip.get (strayReply dst)) =
        some entry :=
    ⟨_, srArpcacheLookup_insert unknown.fresh (by decide) 0 _⟩
  generalize (srArpcacheInsert 0 srArpcacheInit (arSha.get (strayReply dst))
    (arSip.get (strayReply dst))).1 = cache at entered hit
  have reachable : Reachable sr ⟨⟨cache, .sleeping⟩, .done ()⟩ := by
    have returns : (reactAll sr [(⟨0, 0⟩, .frame (strayReply dst) first.name)]
        srArpcacheInit).Returns cache := by
      rw [reactAll, entered]
      rfl
    exact reachable_of_reactAll returns
  have handled : srHandlepacket sr (strayReply dst) first.name = _ :=
    (answer.handled seen).trans
    (dealArp_of_reply (Nat.le_trans (by decide) answer.whole) answer.answers)
  have looked : (router sr).Step (fun _ _ => False)
      ⟨⟨cache, .sleeping⟩, srHandlepacket sr (strayReply dst) first.name⟩
      ⟨⟨cache, .sleeping⟩, resendReply sr (strayReply dst)⟩ := by
    have answered : ((router sr).exec ⟨0, 0⟩ (.lookup (arSip.get (strayReply dst)))
        ⟨cache, .sleeping⟩).Returns (⟨cache, .sleeping⟩, some entry) := by
      refine exec_returns_iff.mpr ⟨?_, rfl⟩
      rw [← hit]
      rfl
    rw [handled]
    exact .answered rfl answered rfl
  have fits : ipDst.Fits (strayReply dst) := fits_of_le length_strayReply.ge (by decide)
  obtain ⟨next, stops⟩ := resendReply_of_missing fits missing
  refine never _ reachable _ _ (.inl answer.arp) listed _ (.single looked) ?_
  rw [stops]
  exact .op ⟨0, 0⟩ trivial rfl

/-- The network without the client and its interface. -/
def serversOnly : SrInstance where
  ifList := [sampleEth1, sampleEth2]
  routingTable := [hostRoute server1Ip eth1, hostRoute server2Ip eth2]

end SimpleRouter
