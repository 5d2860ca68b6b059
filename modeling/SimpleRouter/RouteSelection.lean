/-
# Route selection

`check_route` compared with longest-prefix match. The code looks for a route whose
destination is the address itself and otherwise takes `eth3`; it reports a route in
either case. So it selects a longest match exactly for the tables and addresses
for which some longest match leaves by that interface.
-/

import Mathlib.Algebra.GroupWithZero.Nat
import SimpleRouter.Topology

namespace SimpleRouter

open Buffers Effects

/-! ## Longest-prefix match -/

/-- `ip AND mask`. -/
def maskIp (ip mask : Ip) : Ip := Vector.ofFn fun i => ip[i] &&& mask[i]

/-- The number of one bits of a mask, which is its prefix length. -/
def maskLength (mask : Ip) : ℕ :=
  (mask.toList.map fun byte => (List.range 8).countP fun i => byte.toNat.testBit i).sum

/-- The entry matches the address. -/
def SrRt.Matches (route : SrRt) (dst : Ip) : Prop :=
  maskIp dst route.mask = maskIp route.dest route.mask

instance (route : SrRt) (dst : Ip) : Decidable (route.Matches dst) :=
  inferInstanceAs (Decidable (_ = _))

/-- The entry matches the address, and no matching entry has a longer mask. -/
structure LongestMatch (table : List SrRt) (dst : Ip) (route : SrRt) : Prop where
  listed : route ∈ table
  matching : route.Matches dst
  longest : ∀ other ∈ table, other.Matches dst → maskLength other.mask ≤ maskLength route.mask

/-- The outcome of a route lookup that started from the record `outboundIf`: a
route is reported exactly when some entry matches, and then the record has the
name and the hardware address of the interface of a longest match. -/
def SelectsLongest (sr : SrInstance) (dst : Ip) (outboundIf : SrIf)
    (lookup : Action (ℕ × SrIf)) : Prop :=
  if ∃ route ∈ sr.routingTable, route.Matches dst then
    ∃ filled route iface, lookup.Returns (1, filled) ∧
      LongestMatch sr.routingTable dst route ∧ srGetInterface sr route.interface = some iface ∧
      filled.name = iface.name ∧ filled.addr = iface.addr
  else lookup.Returns (0, outboundIf)

/-! ## What the code selects -/

/-- Some longest match leaves by the interface of the first entry listed for the
address itself, or by `eth3` when there is no such entry, and that interface exists. -/
def LongestIsExact (sr : SrInstance) (dst : Ip) : Prop :=
  ∃ route, LongestMatch sr.routingTable dst route ∧ (srGetInterface sr route.interface).isSome ∧
    match sr.routingTable.find? fun walker => walker.dest = dst with
    | some first => first.interface = route.interface
    | none => route.interface = eth3

variable {sr : SrInstance} {packet : Bytes}

theorem routeInterface_eq_iff {dst : Ip} {name : IfName} : routeInterface sr dst = name ↔
    match sr.routingTable.find? fun walker => walker.dest = dst with
    | some first => first.interface = name
    | none => name = eth3 := by
  unfold routeInterface
  cases sr.routingTable.find? fun walker => walker.dest = dst with
  | some first => exact Iff.rfl
  | none => exact eq_comm

/-- **Route selection.** `check_route` is longest-prefix match for an address if
and only if a longest match leaves by the interface of the exact entry, or by
`eth3` without one. -/
theorem selectsLongest_iff (fits : ipDst.Fits packet) (outboundIf : SrIf) :
    SelectsLongest sr (ipDst.get packet) outboundIf (checkRoute sr packet outboundIf) ↔
      LongestIsExact sr (ipDst.get packet) := by
  constructor
  · intro selects
    unfold SelectsLongest at selects
    cases found : srGetInterface sr (routeInterface sr (ipDst.get packet)) with
    | none =>
      -- The lookup faults, whatever the table says.
      rw [checkRoute_of_none fits outboundIf found] at selects
      split at selects
      · obtain ⟨_, _, _, returns, -⟩ := selects
        cases returns
      · cases selects
    | some tmpFace =>
      rw [checkRoute_of_some fits outboundIf found] at selects
      split at selects
      · obtain ⟨filled, route, iface, returns, longest, named, name, -⟩ := selects
        cases returns
        -- Interfaces are looked up by name, so equal names make equal routes.
        have sameName : tmpFace.name = iface.name := name
        rw [name_of_srGetInterface found, name_of_srGetInterface named] at sameName
        exact ⟨route, longest, named ▸ rfl, routeInterface_eq_iff.mp sameName⟩
      · cases selects
  · rintro ⟨route, longest, named, leaves⟩
    obtain ⟨iface, found⟩ := Option.isSome_iff_exists.mp named
    have name := routeInterface_eq_iff.mpr leaves
    have matched : ∃ route ∈ sr.routingTable, route.Matches (ipDst.get packet) :=
      ⟨route, longest.listed, longest.matching⟩
    -- The code asks for the very interface the longest match names.
    rw [SelectsLongest, if_pos matched, checkRoute_of_some fits outboundIf (name ▸ found)]
    exact ⟨_, route, iface, rfl, longest, found, rfl, rfl⟩

/-- A buffer of 34 bytes with the given destination. -/
def routedTo (dst : Ip) : Bytes := ipDst.set dst (.replicate 34 0)

theorem selectsLongest_server :
    SelectsLongest sampleInstance (ipDst.get (routedTo server1Ip)) SrIf.zero
      (checkRoute sampleInstance (routedTo server1Ip) SrIf.zero) := by
  refine (selectsLongest_iff (by decide) SrIf.zero).mpr ?_
  exact ⟨_, ⟨.tail _ (.head _), by decide, by decide⟩, by decide, rfl⟩

/-- The sample network with a route to the whole network of the first server. -/
def subnetInstance : SrInstance where
  ifList := sampleInstance.ifList
  routingTable :=
    [⟨#v[192, 168, 2, 0], server1Ip, #v[255, 255, 255, 0], eth1⟩, defaultRoute]

/-- An address of that network leaves by `eth3`. -/
theorem not_selectsLongest_subnet :
    ¬ SelectsLongest subnetInstance (ipDst.get (routedTo #v[192, 168, 2, 7])) SrIf.zero
      (checkRoute subnetInstance (routedTo #v[192, 168, 2, 7]) SrIf.zero) := by
  intro selects
  rw [SelectsLongest, if_pos (by decide)] at selects
  obtain ⟨filled, route, iface, returns, longest, named, name, -⟩ := selects
  have computed : checkRoute subnetInstance (routedTo #v[192, 168, 2, 7]) SrIf.zero =
      pure (1, ⟨eth3, sampleEth3.addr, .replicate 4 0⟩) := by rfl
  rw [computed] at returns
  cases returns
  have leaves : route.interface = eth3 := (name_of_srGetInterface named).symm.trans name.symm
  -- The route to the network matches and is longer than the default route.
  have best := longest.longest _ (.head _) (by decide)
  rcases List.mem_cons.mp longest.listed with rfl | other
  · exact absurd leaves (by decide)
  · rw [List.mem_singleton.mp other] at best
    exact absurd best (by decide)

end SimpleRouter
