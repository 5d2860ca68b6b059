/-
# Interfaces and routes

The part of `struct sr_instance` that packet handling only reads: the interface
list that the hardware message built and the routing table. Both are linked lists
that are searched from the head, so the first match wins.

`check_route` is modelled as the code has it. It compares destinations for
equality, never looks at a mask or a gateway, and falls back to the interface
named `eth3`.
-/

import SimpleRouter.Library.Keyed
import SimpleRouter.Protocol

namespace SimpleRouter

open Buffers Effects

/-- `struct sr_if`. -/
structure SrIf where
  name : IfName
  addr : Mac
  ip : Ip
  deriving DecidableEq

/-- `struct sr_rt`. -/
structure SrRt where
  dest : Ip
  gw : Ip
  mask : Ip
  interface : IfName
  deriving DecidableEq

/-- The interface list and the routing table of `struct sr_instance`. -/
structure SrInstance where
  ifList : List SrIf
  routingTable : List SrRt
  deriving DecidableEq

/-- The names `"eth1"` to `"eth3"`. The last is written in `check_route`. -/
def eth1 : IfName := ⟨[101, 116, 104, 49], by decide, by decide⟩
def eth2 : IfName := ⟨[101, 116, 104, 50], by decide, by decide⟩
def eth3 : IfName := ⟨[101, 116, 104, 51], by decide, by decide⟩

/-- An interface record fresh from `calloc`. -/
def SrIf.zero : SrIf := ⟨⟨[], by decide, by decide⟩, .replicate 6 0, .replicate 4 0⟩

section Sample

/-! The network of `IP_CONFIG` and `rtable`: two servers and a client, each on an
interface of its own. The hardware addresses are invented. -/

def server1Ip : Ip := #v[192, 168, 2, 2]
def server2Ip : Ip := #v[172, 64, 3, 10]
def clientIp : Ip := #v[10, 0, 1, 100]

def server1Mac : Mac := #v[4, 0, 0, 0, 0, 1]
def clientMac : Mac := #v[4, 0, 0, 0, 0, 100]

def sampleEth1 : SrIf := ⟨eth1, #v[2, 0, 0, 0, 0, 1], #v[192, 168, 2, 1]⟩
def sampleEth2 : SrIf := ⟨eth2, #v[2, 0, 0, 0, 0, 2], #v[172, 64, 3, 1]⟩
def sampleEth3 : SrIf := ⟨eth3, #v[2, 0, 0, 0, 0, 3], #v[10, 0, 1, 1]⟩

/-- The first line of `rtable`. -/
def defaultRoute : SrRt := ⟨.replicate 4 0, clientIp, .replicate 4 0, eth3⟩

/-- A line of `rtable` for a single host. -/
def hostRoute (host : Ip) (interface : IfName) : SrRt := ⟨host, host, .replicate 4 255, interface⟩

def sampleInstance : SrInstance where
  ifList := [sampleEth1, sampleEth2, sampleEth3]
  routingTable := [defaultRoute, hostRoute server1Ip eth1, hostRoute server2Ip eth2]

end Sample

variable (sr : SrInstance)

/-- The interface record with the given name, or null. -/
def srGetInterface (name : IfName) : Option SrIf := sr.ifList.find? fun walker => walker.name = name

/-- Follow the result of `sr_get_interface`. -/
def deref : Option SrIf → Action SrIf
  | some iface => pure iface
  | none => fail .nullInterface

@[simp] theorem deref_some (iface : SrIf) : deref (some iface) = pure iface := rfl

@[simp] theorem deref_none : deref none = fail .nullInterface := rfl

variable {sr}

theorem name_of_srGetInterface {name : IfName} {iface : SrIf}
    (h : srGetInterface sr name = some iface) : iface.name = name := Keyed.key_of_find h

theorem mem_of_srGetInterface {name : IfName} {iface : SrIf}
    (h : srGetInterface sr name = some iface) : iface ∈ sr.ifList := Keyed.mem_of_find h

variable (sr)

/-- The walk of `sr_verify_routing_table` over the table. -/
def verifyRoutesFrom (ret : ℕ) : List SrRt → ℕ
  | rtWalker :: rest =>
    match sr.ifList.find? fun ifWalker => ifWalker.name = rtWalker.interface with
    | some _ => verifyRoutesFrom ret rest
    -- Interface not found.
    | none => verifyRoutesFrom (ret + 1) rest
  | [] => ret

/-- `sr_verify_routing_table`: how many routes have no interface, or 999. -/
def srVerifyRoutingTable : ℕ :=
  if sr.ifList = [] ∨ sr.routingTable = [] then 999 else verifyRoutesFrom sr 0 sr.routingTable

private theorem verifyRoutesFrom_eq_zero_iff {ret : ℕ} {table : List SrRt} :
    verifyRoutesFrom sr ret table = 0 ↔
      ret = 0 ∧ ∀ route ∈ table, (srGetInterface sr route.interface).isSome := by
  induction table generalizing ret with
  | nil => simp [verifyRoutesFrom]
  | cons rtWalker rest ih =>
    rw [verifyRoutesFrom, List.forall_mem_cons]
    cases found : sr.ifList.find? fun ifWalker => ifWalker.name = rtWalker.interface with
    | some iface =>
      simp only [ih, srGetInterface, found]
      simp
    | none =>
      simp only [ih, srGetInterface, found]
      simp

/-- It returns zero for a table that is not empty and whose interfaces all exist. -/
theorem srVerifyRoutingTable_eq_zero_iff :
    srVerifyRoutingTable sr = 0 ↔ sr.ifList ≠ [] ∧ sr.routingTable ≠ [] ∧
      ∀ route ∈ sr.routingTable, (srGetInterface sr route.interface).isSome := by
  rw [srVerifyRoutingTable]
  by_cases empty : sr.ifList = [] ∨ sr.routingTable = []
  · rw [if_pos empty]
    refine iff_of_false (by decide) fun ⟨ifs, routes, _⟩ => empty.elim ifs routes
  · rw [if_neg empty, verifyRoutesFrom_eq_zero_iff]
    obtain ⟨ifs, routes⟩ := not_or.mp empty
    simp [ifs, routes]

/-! ## Which frames and packets are for the router -/

/-- The loop of `compare_macs`, which stops at the first byte that differs. -/
def compareMacsFrom (packet : Bytes) : ℕ → List UInt8 → Action Bool
  | _, [] => pure true
  | i, expected :: rest => do
    let actual ← loadByte packet i
    if actual ≠ expected then pure false else compareMacsFrom packet (i + 1) rest

/-- `compare_macs` of the frame's destination address with `mac2`. -/
def compareMacs (packet : Bytes) (mac2 : Mac) : Action Bool :=
  compareMacsFrom packet etherDhost.off mac2.toList

/-- The interface walk of `check_ethernet`. -/
def checkEthernetFrom (packet : Bytes) : List SrIf → Action Bool
  | [] => pure false
  | walker :: rest => do
    if ← compareMacs packet walker.addr then pure true else checkEthernetFrom packet rest

/-- `check_ethernet`: the frame is a broadcast or for one of the interfaces. -/
def checkEthernet (packet : Bytes) (myIfs : List SrIf) : Action Bool := do
  if myIfs = [] then fail .assertFailed
  else if ← compareMacs packet breadcast then pure true
  else checkEthernetFrom packet myIfs

/-- `check_interface`: the interface that has the address, if any. -/
def checkInterface (ip : Ip) : Option SrIf := sr.ifList.find? fun walker => walker.ip = ip

/-! ## Route selection -/

/-- The table walk of `check_route`, with its fallback at the end of the table. -/
def checkRouteFrom (packet : Bytes) (outboundIf : SrIf) : List SrRt → Action (ℕ × SrIf)
  | walker :: rest => do
    let dst ← load ipDst packet
    -- The destinations are compared whole; the mask is not looked at.
    if dst = walker.dest then
      let tmpFace ← deref (srGetInterface sr walker.interface)
      pure (1, { outboundIf with name := tmpFace.name, addr := tmpFace.addr })
    else checkRouteFrom packet outboundIf rest
  | [] => do
    -- A packet that no entry is listed for takes `eth3`, and a route is reported all the same.
    let tmpFace ← deref (srGetInterface sr eth3)
    pure (1, { outboundIf with name := tmpFace.name, addr := tmpFace.addr })

/-- `check_route`: its return value and the record it filled in. -/
def checkRoute (packet : Bytes) (outboundIf : SrIf) : Action (ℕ × SrIf) :=
  checkRouteFrom sr packet outboundIf sr.routingTable

/-- The interface name `check_route` settles on for a destination. -/
def routeInterface (dst : Ip) : IfName :=
  match sr.routingTable.find? fun walker => walker.dest = dst with
  | some walker => walker.interface
  | none => eth3

/-! ## What these functions compute -/

variable {packet : Bytes}

private theorem compareMacsFrom_eq (i : ℕ) (expected : List UInt8)
    (long : i + expected.length ≤ packet.length) :
    compareMacsFrom packet i expected =
      pure (decide ((packet.drop i).take expected.length = expected)) := by
  induction expected generalizing i with
  | nil => simp [compareMacsFrom]
  | cons b rest ih =>
    simp only [List.length_cons] at long
    have inside : i < packet.length := by omega
    have byte : loadByte packet i = pure packet[i] := by
      simp [loadByte, List.getElem?_eq_getElem inside]
    rw [compareMacsFrom, byte, pure_bind, List.drop_eq_getElem_cons inside, List.length_cons,
      List.take_succ_cons]
    by_cases same : packet[i] = b
    · rw [if_neg (not_not.mpr same), ih (i + 1) (by omega)]
      simp only [same, List.cons.injEq, true_and]
    · rw [if_pos same]
      simp only [List.cons.injEq, same, false_and, decide_false]

/-- On a frame that has a destination address, `compare_macs` compares it. -/
theorem compareMacs_eq (long : 6 ≤ packet.length) (mac2 : Mac) :
    compareMacs packet mac2 = pure (decide (etherDhost.get packet = mac2)) := by
  have dhost : (packet.drop etherDhost.off).take 6 = (etherDhost.get packet).toList :=
    (Span.toList_get (fits_of_le long (by decide))).symm
  have width : etherDhost.off + mac2.toList.length ≤ packet.length := by
    simpa [etherDhost] using long
  rw [compareMacs, compareMacsFrom_eq _ _ width]
  simp only [Vector.length_toList, dhost, Vector.toList_inj]

private theorem compareMacsFrom_short {i : ℕ} (start : i ≤ packet.length) (expected : List UInt8)
    (short : packet.length < i + expected.length) :
    compareMacsFrom packet i expected =
      if packet.drop i <+: expected then fail .outOfBounds else pure false := by
  induction expected generalizing i with
  | nil => exact absurd short (Nat.not_lt_of_le start)
  | cons b rest ih =>
    simp only [List.length_cons] at short
    rw [compareMacsFrom]
    -- Either there is a next byte to compare or the loop has come to the end of the buffer.
    rcases Nat.lt_or_eq_of_le start with inside | atEnd
    · have byte : loadByte packet i = pure packet[i] := by
        simp [loadByte, List.getElem?_eq_getElem inside]
      rw [byte, pure_bind, List.drop_eq_getElem_cons inside]
      by_cases same : packet[i] = b
      · rw [if_neg (not_not.mpr same), ih inside (by omega), same]
        simp only [List.cons_prefix_cons, true_and]
      · -- A byte that differs ends the loop before the end of the buffer does.
        rw [if_pos same, if_neg fun starts => same (List.cons_prefix_cons.mp starts).1]
    · have missing : loadByte packet i = fail .outOfBounds := by
        simp [loadByte, List.getElem?_eq_none (Nat.le_of_eq atEnd.symm)]
      rw [missing, atEnd, List.drop_length, if_pos List.nil_prefix]
      rfl

/-- On a shorter frame, it finds a byte that differs or reads past the end. -/
theorem compareMacs_short (short : packet.length < 6) (mac2 : Mac) :
    compareMacs packet mac2 =
      if packet <+: mac2.toList then fail .outOfBounds else pure false :=
  compareMacsFrom_short (Nat.zero_le _) mac2.toList (by simpa [etherDhost] using short)

/-- The frame ends within an address that its own is compared with. -/
def CutWithin (packet : Bytes) (macs : List Mac) : Prop := ∃ mac ∈ macs, packet <+: mac.toList

instance (packet : Bytes) (macs : List Mac) : Decidable (CutWithin packet macs) :=
  inferInstanceAs (Decidable (∃ mac ∈ macs, _))

private theorem cutWithin_cons {mac : Mac} {macs : List Mac} :
    CutWithin packet (mac :: macs) ↔ packet <+: mac.toList ∨ CutWithin packet macs := by
  simp [CutWithin]

private theorem checkEthernetFrom_short (short : packet.length < 6) (myIfs : List SrIf) :
    checkEthernetFrom packet myIfs =
      if CutWithin packet (myIfs.map SrIf.addr) then fail .outOfBounds else pure false := by
  induction myIfs with
  | nil =>
    have whole : ¬ CutWithin packet [] := fun ⟨_, listed, _⟩ => nomatch listed
    rw [List.map_nil, if_neg whole, checkEthernetFrom]
  | cons walker rest ih =>
    rw [checkEthernetFrom, compareMacs_short short, ih, List.map_cons]
    simp only [cutWithin_cons]
    by_cases cut : packet <+: walker.addr.toList
    · simp only [cut, true_or, if_true]
      rfl
    · simp only [cut, false_or, if_false]
      rfl

/-- A frame without a whole destination address is not for the router, unless it ends
within one that it is compared with. -/
theorem checkEthernet_short (short : packet.length < 6) {myIfs : List SrIf} (some : myIfs ≠ []) :
    checkEthernet packet myIfs =
      if CutWithin packet (breadcast :: myIfs.map SrIf.addr) then fail .outOfBounds
      else pure false := by
  rw [checkEthernet, if_neg some, compareMacs_short short, checkEthernetFrom_short short]
  simp only [cutWithin_cons]
  by_cases cut : packet <+: breadcast.toList
  · simp only [cut, true_or, if_true]
    rfl
  · simp only [cut, false_or, if_false]
    rfl

private theorem checkEthernetFrom_eq (long : 6 ≤ packet.length) (myIfs : List SrIf) :
    checkEthernetFrom packet myIfs =
      pure (decide (∃ walker ∈ myIfs, etherDhost.get packet = walker.addr)) := by
  induction myIfs with
  | nil => simp [checkEthernetFrom]
  | cons walker rest ih =>
    rw [checkEthernetFrom, compareMacs_eq long, pure_bind, ih]
    by_cases same : etherDhost.get packet = walker.addr <;> simp [same]

/-- The frame is a broadcast or carries the address of one of the interfaces. -/
def ForRouter (packet : Bytes) : Prop :=
  etherDhost.get packet = breadcast ∨ ∃ walker ∈ sr.ifList, etherDhost.get packet = walker.addr

instance : Decidable (ForRouter sr packet) := inferInstanceAs (Decidable (_ ∨ _))

theorem checkEthernet_eq (long : 6 ≤ packet.length) (some : sr.ifList ≠ []) :
    checkEthernet packet sr.ifList = pure (decide (ForRouter sr packet)) := by
  rw [checkEthernet, if_neg some, compareMacs_eq long, pure_bind, checkEthernetFrom_eq long]
  by_cases broadcast : etherDhost.get packet = breadcast <;> simp [ForRouter, broadcast]

variable {sr}

private theorem checkRouteFrom_eq (fits : ipDst.Fits packet) (outboundIf : SrIf)
    (table : List SrRt) :
    checkRouteFrom sr packet outboundIf table = (do
      let tmpFace ← deref (srGetInterface sr
        (match table.find? fun walker => walker.dest = ipDst.get packet with
          | some walker => walker.interface
          | none => eth3))
      pure (1, { outboundIf with name := tmpFace.name, addr := tmpFace.addr })) := by
  induction table with
  | nil => rfl
  | cons walker rest ih =>
    rw [checkRouteFrom, load_of_fits fits, pure_bind]
    by_cases same : ipDst.get packet = walker.dest
    · rw [if_pos same, List.find?_cons_of_pos (by simpa using same.symm)]
    · rw [if_neg same, List.find?_cons_of_neg (by simpa using Ne.symm same)]
      exact ih

/-- `check_route` looks up the interface that `routeInterface` names. -/
theorem checkRoute_eq (fits : ipDst.Fits packet) (outboundIf : SrIf) :
    checkRoute sr packet outboundIf = (do
      let tmpFace ← deref (srGetInterface sr (routeInterface sr (ipDst.get packet)))
      pure (1, { outboundIf with name := tmpFace.name, addr := tmpFace.addr })) :=
  checkRouteFrom_eq fits outboundIf sr.routingTable

/-- When the interface exists, `check_route` reports it. -/
theorem checkRoute_of_some (fits : ipDst.Fits packet) (outboundIf : SrIf) {tmpFace : SrIf}
    (found : srGetInterface sr (routeInterface sr (ipDst.get packet)) = some tmpFace) :
    checkRoute sr packet outboundIf =
      pure (1, { outboundIf with name := tmpFace.name, addr := tmpFace.addr }) := by
  rw [checkRoute_eq fits, found, deref_some, pure_bind]

/-- When it does not, `check_route` dereferences null. -/
theorem checkRoute_of_none (fits : ipDst.Fits packet) (outboundIf : SrIf)
    (missing : srGetInterface sr (routeInterface sr (ipDst.get packet)) = none) :
    checkRoute sr packet outboundIf = fail .nullInterface := by
  rw [checkRoute_eq fits, missing, deref_none]
  rfl

/-- Whatever the packet, `check_route` faults or reports an interface. In an empty table
it does not even read the destination. -/
theorem checkRoute_cases (sr : SrInstance) (packet : Bytes) (outboundIf : SrIf) :
    Faults (checkRoute sr packet outboundIf) ∨
      ∃ tmpFace, srGetInterface sr (routeInterface sr (ipDst.get packet)) = some tmpFace ∧
        checkRoute sr packet outboundIf =
          pure (1, { outboundIf with name := tmpFace.name, addr := tmpFace.addr }) := by
  -- Only an empty table is walked without a read of the destination.
  have looks : Faults (checkRoute sr packet outboundIf) ∨
      checkRoute sr packet outboundIf = (do
        let tmpFace ← deref (srGetInterface sr (routeInterface sr (ipDst.get packet)))
        pure (1, { outboundIf with name := tmpFace.name, addr := tmpFace.addr })) := by
    by_cases fits : ipDst.Fits packet
    · exact .inr (checkRoute_eq fits outboundIf)
    · cases table : sr.routingTable with
      | nil =>
        rw [checkRoute, routeInterface, table]
        exact .inr rfl
      | cons walker rest =>
        rw [checkRoute, table, checkRouteFrom, load_of_not_fits fits]
        exact .inl ((faults_fail _).bind _)
  rcases looks with faults | same
  · exact .inl faults
  rw [same]
  cases found : srGetInterface sr (routeInterface sr (ipDst.get packet)) with
  | none => exact .inl ((faults_fail _).bind _)
  | some tmpFace => exact .inr ⟨tmpFace, rfl, rfl⟩

end SimpleRouter
