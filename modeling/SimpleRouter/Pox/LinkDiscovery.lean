/-
# Links that come and go

`discovery.py` keeps the links that it has seen, each in one direction, and tells `l2_multi.py` of
each one that it finds or loses. That keeps a port from a switch to another one while there is a
link both ways, and a table of paths that is thrown away with each such event and calculated again
when a path is asked for.

A dictionary is enumerated in an order of its own. Each step takes the order as it comes.

A link may be seen before the connection to its second switch is up. Then `l2_multi.py` does not
know the switch, and its handler fails before it changes anything.
-/

import Mathlib.Data.Finset.Insert
import Mathlib.Data.Finset.Erase
import SimpleRouter.Pox.MultiPath

namespace SimpleRouter.Pox

open ShortestPaths

/-! ## The components -/

/-- `Discovery.Link`. -/
structure Link where
  dpid1 : Dpid
  port1 : PortNo
  dpid2 : Dpid
  port2 : PortNo
  deriving DecidableEq

def Link.flip (link : Link) : Link := ⟨link.dpid2, link.port2, link.dpid1, link.port1⟩

/-- An address, and whether it is a multicast address. -/
structure EthAddr where
  value : ℕ
  multicast : Bool
  deriving DecidableEq

/-- The state of `discovery.py` and of `l2_multi.py`. -/
structure Network where
  /-- `_dps` -/
  dps : Finset Dpid
  /-- The keys of `adjacency` of `discovery.py`. -/
  links : Finset Link
  /-- The keys of `switches`. -/
  switches : Finset Dpid
  adjacency : Adjacency
  /-- `path_map`, unless it is empty. -/
  pathMap : Option PathMap
  macMap : EthAddr → Option (Dpid × PortNo)

def Network.initial : Network where
  dps := ∅
  links := ∅
  switches := ∅
  adjacency := fun _ _ => none
  pathMap := none
  macMap := fun _ => none

/-! ## `l2_multi.py` -/

/-- `adjacency[sw1][sw2] = port`. -/
def Adjacency.set (adjacency : Adjacency) (sw1 sw2 : Dpid) (port : Option PortNo) : Adjacency :=
  Function.update adjacency sw1 (Function.update (adjacency sw1) sw2 port)

/-- The two switches are connected by this link. -/
def Adjacency.connect (adjacency : Adjacency) (link : Link) : Adjacency :=
  (adjacency.set link.dpid1 link.dpid2 (some link.port1)).set link.dpid2 link.dpid1
    (some link.port2)

/-- `del adjacency[sw1][sw2]` and `del adjacency[sw2][sw1]`. -/
def Adjacency.disconnect (adjacency : Adjacency) (link : Link) : Adjacency :=
  (adjacency.set link.dpid1 link.dpid2 none).set link.dpid2 link.dpid1 none

/-- Another link between the same switches that goes both ways. -/
def otherLink (order : List Link) (link : Link) : Option Link :=
  order.find? fun other =>
    other.dpid1 == link.dpid1 && other.dpid2 == link.dpid2 && order.contains other.flip

/-- `switches` has both ends of the link. -/
def Network.Knows (network : Network) (link : Link) : Prop :=
  link.dpid1 ∈ network.switches ∧ link.dpid2 ∈ network.switches

instance (network : Network) (link : Link) : Decidable (network.Knows link) :=
  inferInstanceAs (Decidable (_ ∧ _))

/-- `_handle_LinkEvent` for a link that was removed. The order is that of the links which are
left. -/
def Network.handleLinkRemoved (network : Network) (order : List Link) (link : Link) : Network :=
  let adjacency := network.adjacency.disconnect link
  if network.Knows link then
    { network with
      pathMap := none
      adjacency := (otherLink order link).elim adjacency adjacency.connect }
  else network

/-- Addresses that were learned at a port of the link are forgotten. -/
def unlearn (macMap : EthAddr → Option (Dpid × PortNo)) (link : Link) (mac : EthAddr) :
    Option (Dpid × PortNo) :=
  (macMap mac).filter fun place =>
    !(place == (link.dpid1, link.port1)) && !(place == (link.dpid2, link.port2))

/-- `_handle_LinkEvent` for a link that was added. -/
def Network.handleLinkAdded (network : Network) (link : Link) : Network :=
  if network.Knows link then
    { network with
      pathMap := none
      adjacency :=
        if network.adjacency link.dpid1 link.dpid2 = none ∧ link.flip ∈ network.links then
          network.adjacency.connect link
        else network.adjacency
      macMap := unlearn network.macMap link }
  else network

/-- `_handle_ConnectionUp` of both components. -/
def Network.connectionUp (network : Network) (dpid : Dpid) : Network :=
  { network with dps := insert dpid network.dps, switches := insert dpid network.switches }

/-! ## `discovery.py` -/

/-- The end of `_handle_PacketIn`: a link that was not known is added, and told. -/
def Network.linkSeen (network : Network) (link : Link) : Network :=
  if link ∈ network.links then network
  else Network.handleLinkAdded { network with links := insert link network.links } link

/-- One round of `_deleteLinks`. -/
def Network.deleteLink (network : Network) (order : List Link) (link : Link) : Network :=
  Network.handleLinkRemoved { network with links := network.links.erase link } order link

/-! ## Packets -/

/-- The learning in `_handle_PacketIn` of `l2_multi.py`. The place of an address changes unless it
is seen at a port to another switch. -/
def Network.learned (network : Network) (self : Dpid) (port : PortNo) (src : EthAddr) :
    EthAddr → Option (Dpid × PortNo) :=
  let learned := Function.update network.macMap src (some (self, port))
  if src.multicast then network.macMap
  else
    match network.macMap src with
    | none => learned
    | some old =>
      if old = (self, port) then network.macMap
      else if ∃ other ∈ network.switches, network.adjacency self other = some port then
        network.macMap
      else learned

def Network.learn (network : Network) (self : Dpid) (port : PortNo) (src : EthAddr) : Network :=
  { network with macMap := network.learned self port src }

/-- `path_map`, calculated if it is empty, with the order of the switches. -/
def Network.paths (network : Network) (sws : List Dpid) : PathMap :=
  network.pathMap.getD (calcPaths sws network.adjacency)

/-- What is done with a packet. -/
inductive Reaction
  | flood
  /-- A path is installed, if there is one. -/
  | path (found : Except PathError (Option (List (Dpid × Option PortNo))))

/-- The end of `_handle_PacketIn` of `l2_multi.py`, for a packet that is no LLDP packet. -/
def Network.forward (network : Network) (sws : List Dpid) (depth : ℕ) (self : Dpid)
    (dst : EthAddr) : Reaction :=
  if dst.multicast then .flood
  else
    match network.macMap dst with
    | none => .flood
    | some dest =>
      .path (getPath network.adjacency (network.paths sws) depth self dest.1 dest.2)

/-- A path that is asked for between two switches fills the table. -/
def Network.calculated (network : Network) (sws : List Dpid) : Network :=
  { network with pathMap := some (network.paths sws) }

/-! ## Runs -/

/-- A step of the network. -/
inductive Step : Network → Network → Prop
  | connectionUp {network : Network} (dpid : Dpid) : Step network (network.connectionUp dpid)
  /-- The connection of a switch is down. Its links are deleted by the steps that follow. -/
  | connectionDown {network : Network} (dpid : Dpid) :
      Step network { network with dps := network.dps.erase dpid }
  /-- An LLDP packet of a connected switch arrived at another port. -/
  | linkSeen {network : Network} {link : Link} (origin : link.dpid1 ∈ network.dps)
      (other : link.flip ≠ link) : Step network (network.linkSeen link)
  | deleteLink {network : Network} {link : Link} {order : List Link}
      (known : link ∈ network.links)
      (left : ∀ other, other ∈ order ↔ other ∈ network.links.erase link) :
      Step network (network.deleteLink order link)
  | learn {network : Network} {self : Dpid} (port : PortNo) (src : EthAddr)
      (known : self ∈ network.switches) : Step network (network.learn self port src)
  | path {network : Network} {sws : List Dpid}
      (all : ∀ dpid, dpid ∈ sws ↔ dpid ∈ network.switches) :
      Step network (network.calculated sws)

def Reachable : Network → Prop := Relation.ReflTransGen Step Network.initial

/-! ## What holds in every reachable state -/

theorem Link.flip_flip (link : Link) : link.flip.flip = link := rfl

/-- The port of each pair is that of a link which goes both ways. -/
def Adjacency.Sound (adjacency : Adjacency) (links : Finset Link) : Prop :=
  ∀ ⦃u v p⦄, adjacency u v = some p → ∃ q,
    ⟨u, p, v, q⟩ ∈ links ∧ ⟨v, q, u, p⟩ ∈ links ∧ (u ≠ v → adjacency v u = some q)

/-- The parts of the state fit together. -/
structure Network.Consistent (network : Network) : Prop where
  connected : network.dps ⊆ network.switches
  origin : ∀ link ∈ network.links, link.dpid1 ∈ network.switches
  within : ∀ ⦃u v⦄, network.adjacency.Edge u v → u ∈ network.switches ∧ v ∈ network.switches
  sound : network.adjacency.Sound network.links
  /-- A link that goes both ways connects its switches. -/
  complete : ∀ link ∈ network.links, link.flip ∈ network.links →
    network.adjacency.Edge link.dpid1 link.dpid2
  /-- The table is that of the adjacency. -/
  cached : ∀ paths, network.pathMap = some paths → ∃ sws,
    network.adjacency.Within sws ∧ paths = calcPaths sws network.adjacency

namespace Adjacency

variable {adjacency : Adjacency} {link : Link} {u v : Dpid} {p : PortNo}

theorem set_apply (adjacency : Adjacency) (sw1 sw2 : Dpid) (port : Option PortNo) (u v : Dpid) :
    adjacency.set sw1 sw2 port u v = if u = sw1 ∧ v = sw2 then port else adjacency u v := by
  unfold set
  by_cases row : u = sw1
  · subst row
    by_cases column : v = sw2
    · subst column
      rw [Function.update_self, Function.update_self, if_pos ⟨rfl, rfl⟩]
    · rw [Function.update_self, Function.update_of_ne column, if_neg fun both => column both.2]
  · rw [Function.update_of_ne row, if_neg fun both => row both.1]

theorem connect_apply (adjacency : Adjacency) (link : Link) (u v : Dpid) :
    adjacency.connect link u v =
      if u = link.dpid2 ∧ v = link.dpid1 then some link.port2
      else if u = link.dpid1 ∧ v = link.dpid2 then some link.port1
      else adjacency u v := by
  rw [connect, set_apply, set_apply]

theorem disconnect_apply (adjacency : Adjacency) (link : Link) (u v : Dpid) :
    adjacency.disconnect link u v =
      if u = link.dpid2 ∧ v = link.dpid1 then none
      else if u = link.dpid1 ∧ v = link.dpid2 then none
      else adjacency u v := by
  rw [disconnect, set_apply, set_apply]

theorem edge_connect (near : adjacency.Edge u v) : (adjacency.connect link).Edge u v := by
  unfold Edge
  rw [connect_apply]
  split_ifs
  · rfl
  · rfl
  · exact near

theorem edge_connect_cases (near : (adjacency.connect link).Edge u v) :
    (u = link.dpid1 ∧ v = link.dpid2) ∨ (u = link.dpid2 ∧ v = link.dpid1) ∨
      adjacency.Edge u v := by
  unfold Edge at near
  rw [connect_apply] at near
  split_ifs at near with second first
  · exact .inr (.inl second)
  · exact .inl first
  · exact .inr (.inr near)

theorem edge_of_disconnect (near : (adjacency.disconnect link).Edge u v) :
    adjacency.Edge u v := by
  unfold Edge at near
  rw [disconnect_apply] at near
  split_ifs at near
  · exact absurd near Bool.false_ne_true
  · exact absurd near Bool.false_ne_true
  · exact near

theorem edge_connect_self (adjacency : Adjacency) (link : Link) :
    (adjacency.connect link).Edge link.dpid1 link.dpid2 := by
  unfold Edge
  rw [connect_apply]
  split_ifs with same both
  · rfl
  · rfl
  · exact absurd ⟨rfl, rfl⟩ both

theorem edge_connect_flip (adjacency : Adjacency) (link : Link) :
    (adjacency.connect link).Edge link.dpid2 link.dpid1 := by
  unfold Edge
  rw [connect_apply, if_pos ⟨rfl, rfl⟩]
  rfl

theorem Sound.connect {links : Finset Link} (sound : adjacency.Sound links)
    (known : link ∈ links) (back : link.flip ∈ links) : (adjacency.connect link).Sound links := by
  intro u v p connected
  rw [connect_apply] at connected ⊢
  split_ifs at connected with second first
  · obtain ⟨rfl, rfl⟩ := second
    obtain rfl := Option.some_inj.mp connected
    refine ⟨link.port1, back, known, fun distinct => ?_⟩
    rw [if_neg fun both => distinct both.2, if_pos ⟨rfl, rfl⟩]
  · obtain ⟨rfl, rfl⟩ := first
    obtain rfl := Option.some_inj.mp connected
    exact ⟨link.port2, known, back, fun _ => if_pos ⟨rfl, rfl⟩⟩
  · obtain ⟨q, there, back', symmetric⟩ := sound connected
    refine ⟨q, there, back', fun distinct => ?_⟩
    rw [if_neg fun both => first ⟨both.2, both.1⟩, if_neg fun both => second ⟨both.2, both.1⟩,
      symmetric distinct]

/-- Without the pair of a lost link, what is left are ports of other links. -/
theorem Sound.disconnect {links : Finset Link} (sound : adjacency.Sound links) (link : Link) :
    (adjacency.disconnect link).Sound (links.erase link) := by
  intro u v p connected
  rw [disconnect_apply] at connected ⊢
  split_ifs at connected with second first
  obtain ⟨q, there, back, symmetric⟩ := sound connected
  refine ⟨q, Finset.mem_erase.mpr ⟨?_, there⟩, Finset.mem_erase.mpr ⟨?_, back⟩,
    fun distinct => ?_⟩
  · rintro rfl
    exact first ⟨rfl, rfl⟩
  · rintro rfl
    exact second ⟨rfl, rfl⟩
  · rw [if_neg fun both => first ⟨both.2, both.1⟩, if_neg fun both => second ⟨both.2, both.1⟩,
      symmetric distinct]

theorem Sound.mono {links links' : Finset Link} (sound : adjacency.Sound links)
    (more : links ⊆ links') : adjacency.Sound links' := by
  intro u v p connected
  obtain ⟨q, there, back, symmetric⟩ := sound connected
  exact ⟨q, more there, more back, symmetric⟩

theorem Sound.edge_flip {links : Finset Link} (sound : adjacency.Sound links)
    (near : adjacency.Edge u v) : adjacency.Edge v u := by
  obtain ⟨p, port⟩ := Option.isSome_iff_exists.mp near
  by_cases same : u = v
  · exact same ▸ near
  · obtain ⟨q, -, -, symmetric⟩ := sound port
    exact Option.isSome_of_eq_some (symmetric same)

end Adjacency

/-! ### Finding another link -/

theorem otherLink_some {order : List Link} {link other : Link}
    (found : otherLink order link = some other) :
    other ∈ order ∧ other.flip ∈ order ∧ other.dpid1 = link.dpid1 ∧ other.dpid2 = link.dpid2 := by
  have holds := List.find?_some found
  simp only [Bool.and_eq_true, beq_iff_eq, List.contains_iff_mem] at holds
  exact ⟨List.mem_of_find?_eq_some found, holds.2, holds.1.1, holds.1.2⟩

theorem otherLink_isSome {order : List Link} {link other : Link} (listed : other ∈ order)
    (back : other.flip ∈ order) (first : other.dpid1 = link.dpid1)
    (second : other.dpid2 = link.dpid2) : (otherLink order link).isSome := by
  rw [otherLink, List.find?_isSome]
  exact ⟨other, listed, by simp [first, second, back]⟩

/-! ### Steps -/

namespace Network.Consistent

variable {network : Network}

theorem initial : Network.initial.Consistent where
  connected := Finset.Subset.refl _
  origin _ listed := absurd listed (Finset.notMem_empty _)
  within _ _ near := absurd near Bool.false_ne_true
  sound _ _ _ connected := absurd connected (Option.some_ne_none _).symm
  complete _ listed := absurd listed (Finset.notMem_empty _)
  cached _ some_ := absurd some_ (Option.some_ne_none _).symm

theorem connectionUp (consistent : network.Consistent) (dpid : Dpid) :
    (network.connectionUp dpid).Consistent where
  connected := Finset.insert_subset_insert dpid consistent.connected
  origin link listed := Finset.mem_insert_of_mem (consistent.origin link listed)
  within _ _ near := (consistent.within near).imp Finset.mem_insert_of_mem
    Finset.mem_insert_of_mem
  sound := consistent.sound
  complete := consistent.complete
  cached := consistent.cached

/-- Where one direction of a link leads to a switch that is not known, the other was not seen. -/
theorem knows (consistent : network.Consistent) {link : Link} (known : link ∈ network.links)
    (back : link.flip ∈ network.links) : network.Knows link :=
  ⟨consistent.origin link known, consistent.origin link.flip back⟩

/-- A link between known switches that goes both ways, once one more link is seen. -/
theorem both_insert {links : Finset Link} {link l : Link} (other : link.flip ≠ link)
    (known : l ∈ insert link links) (back : l.flip ∈ insert link links) :
    (l = link ∧ link.flip ∈ links) ∨ (l = link.flip ∧ link.flip ∈ links) ∨
      (l ∈ links ∧ l.flip ∈ links) := by
  rcases Finset.mem_insert.mp known with rfl | known
  · exact .inl ⟨rfl, (Finset.mem_insert.mp back).resolve_left other⟩
  · rcases Finset.mem_insert.mp back with same | back
    · rw [← same]
      exact .inr (.inl ⟨rfl, known⟩)
    · exact .inr (.inr ⟨known, back⟩)

theorem linkSeen (consistent : network.Consistent) {link : Link}
    (origin : link.dpid1 ∈ network.dps) (other : link.flip ≠ link) :
    (network.linkSeen link).Consistent := by
  unfold Network.linkSeen
  split_ifs with old
  · exact consistent
  have more := Finset.subset_insert link network.links
  have begun : ∀ l ∈ insert link network.links, l.dpid1 ∈ network.switches := by
    intro l listed
    rcases Finset.mem_insert.mp listed with rfl | listed
    · exact consistent.connected origin
    · exact consistent.origin l listed
  unfold Network.handleLinkAdded
  split_ifs with knows connects
  · obtain ⟨-, back⟩ := connects
    have back : link.flip ∈ network.links := (Finset.mem_insert.mp back).resolve_left other
    refine ⟨consistent.connected, begun, fun u v near => ?_, ?_, fun l known both => ?_,
      fun _ some_ => absurd some_ (Option.some_ne_none _).symm⟩
    · rcases Adjacency.edge_connect_cases near with ⟨rfl, rfl⟩ | ⟨rfl, rfl⟩ | near
      · exact knows
      · exact knows.symm
      · exact consistent.within near
    · exact (consistent.sound.mono more).connect (Finset.mem_insert_self link _) (more back)
    · rcases both_insert other known both with ⟨rfl, -⟩ | ⟨rfl, -⟩ | ⟨known, both⟩
      · exact Adjacency.edge_connect_self _ _
      · exact Adjacency.edge_connect_flip _ _
      · exact Adjacency.edge_connect (consistent.complete l known both)
  · refine ⟨consistent.connected, begun, consistent.within, consistent.sound.mono more,
      fun l known both => ?_, fun _ some_ => absurd some_ (Option.some_ne_none _).symm⟩
    have near (back : link.flip ∈ network.links) :
        network.adjacency.Edge link.dpid1 link.dpid2 := by
      have there : network.adjacency link.dpid1 link.dpid2 ≠ none := fun apart =>
        connects ⟨apart, more back⟩
      exact Option.isSome_iff_ne_none.mpr there
    rcases both_insert other known both with ⟨rfl, back⟩ | ⟨rfl, back⟩ | ⟨known, both⟩
    · exact near back
    · exact consistent.sound.edge_flip (near back)
    · exact consistent.complete l known both
  · refine ⟨consistent.connected, begun, consistent.within, consistent.sound.mono more,
      fun l known both => ?_, consistent.cached⟩
    have stranger (back : link.flip ∈ network.links) : False :=
      knows ⟨consistent.connected origin, consistent.origin link.flip back⟩
    rcases both_insert other known both with ⟨-, back⟩ | ⟨-, back⟩ | ⟨known, both⟩
    · exact absurd back stranger
    · exact absurd back stranger
    · exact consistent.complete l known both

theorem deleteLink (consistent : network.Consistent) {link : Link} {order : List Link}
    (left : ∀ other, other ∈ order ↔ other ∈ network.links.erase link) :
    (network.deleteLink order link).Consistent := by
  have fewer := Finset.erase_subset link network.links
  have begun : ∀ l ∈ network.links.erase link, l.dpid1 ∈ network.switches := fun l listed =>
    consistent.origin l (fewer listed)
  unfold Network.deleteLink Network.handleLinkRemoved
  dsimp only
  split_ifs with knows
  · have apart := consistent.sound.disconnect link
    have within : ∀ ⦃u v⦄, (network.adjacency.disconnect link).Edge u v →
        u ∈ network.switches ∧ v ∈ network.switches := fun u v near =>
      consistent.within (Adjacency.edge_of_disconnect near)
    -- A pair that is not the one of the link is connected as before.
    have kept {l : Link} (known : l ∈ network.links.erase link)
        (back : l.flip ∈ network.links.erase link)
        (apart : ¬ (l.dpid1 = link.dpid1 ∧ l.dpid2 = link.dpid2))
        (apart' : ¬ (l.dpid1 = link.dpid2 ∧ l.dpid2 = link.dpid1)) :
        (network.adjacency.disconnect link).Edge l.dpid1 l.dpid2 := by
      unfold Adjacency.Edge
      rw [Adjacency.disconnect_apply, if_neg apart', if_neg apart]
      exact consistent.complete l (fewer known) (fewer back)
    cases found : otherLink order link with
    | none =>
      have only {l : Link} (known : l ∈ network.links.erase link)
          (back : l.flip ∈ network.links.erase link) :
          ¬ (l.dpid1 = link.dpid1 ∧ l.dpid2 = link.dpid2) := fun ⟨first, second⟩ => by
        have some_ := otherLink_isSome ((left l).mpr known) ((left l.flip).mpr back) first second
        rw [found] at some_
        exact Bool.false_ne_true some_
      exact ⟨consistent.connected, begun, within, apart,
        fun l known back => kept known back (only known back)
          fun both => only (l := l.flip) back known both.symm,
        fun _ some_ => absurd some_ (Option.some_ne_none _).symm⟩
    | some other =>
      obtain ⟨listed, back, first, second⟩ := otherLink_some found
      refine ⟨consistent.connected, begun, fun u v near => ?_,
        apart.connect ((left other).mp listed) ((left other.flip).mp back),
        fun l known both => ?_, fun _ some_ => absurd some_ (Option.some_ne_none _).symm⟩
      · rcases Adjacency.edge_connect_cases near with ⟨rfl, rfl⟩ | ⟨rfl, rfl⟩ | near
        · rw [first, second]
          exact knows
        · rw [first, second]
          exact knows.symm
        · exact within near
      · by_cases same : l.dpid1 = link.dpid1 ∧ l.dpid2 = link.dpid2
        · rw [same.1, same.2, ← first, ← second]
          exact Adjacency.edge_connect_self _ _
        · by_cases turned : l.dpid1 = link.dpid2 ∧ l.dpid2 = link.dpid1
          · rw [turned.1, turned.2, ← first, ← second]
            exact Adjacency.edge_connect_flip _ _
          · exact Adjacency.edge_connect (kept known both same turned)
  · have stranger : ∀ l ∈ network.links, l.flip ∈ network.links → l ≠ link ∧ l.flip ≠ link := by
      intro l known back
      refine ⟨?_, ?_⟩
      · rintro rfl
        exact knows (consistent.knows known back)
      · rintro rfl
        exact knows (consistent.knows back known)
    refine ⟨consistent.connected, begun, consistent.within, fun u v p connected => ?_,
      fun l known back => consistent.complete l (fewer known) (fewer back), consistent.cached⟩
    obtain ⟨q, there, back, symmetric⟩ := consistent.sound connected
    obtain ⟨other, other'⟩ := stranger _ there back
    exact ⟨q, Finset.mem_erase.mpr ⟨other, there⟩, Finset.mem_erase.mpr ⟨other', back⟩, symmetric⟩

theorem learn (consistent : network.Consistent) (self : Dpid) (port : PortNo) (src : EthAddr) :
    (network.learn self port src).Consistent :=
  ⟨consistent.connected, consistent.origin, consistent.within, consistent.sound,
    consistent.complete, consistent.cached⟩

/-- A table that is read is that of the adjacency, whenever it was calculated. -/
theorem paths (consistent : network.Consistent) {sws : List Dpid}
    (all : ∀ dpid, dpid ∈ sws ↔ dpid ∈ network.switches) :
    ∃ sws', network.adjacency.Within sws' ∧
      network.paths sws = calcPaths sws' network.adjacency := by
  unfold Network.paths
  cases filled : network.pathMap with
  | none =>
    refine ⟨sws, fun u v near => ?_, rfl⟩
    exact (consistent.within near).imp (all u).mpr (all v).mpr
  | some paths => exact consistent.cached paths filled

theorem calculated (consistent : network.Consistent) {sws : List Dpid}
    (all : ∀ dpid, dpid ∈ sws ↔ dpid ∈ network.switches) :
    (network.calculated sws).Consistent := by
  refine ⟨consistent.connected, consistent.origin, consistent.within, consistent.sound,
    consistent.complete, fun paths filled => ?_⟩
  obtain rfl := Option.some_inj.mp filled
  exact consistent.paths all

theorem step {network' : Network} (consistent : network.Consistent)
    (step : Step network network') : network'.Consistent := by
  cases step with
  | connectionUp dpid => exact consistent.connectionUp dpid
  | connectionDown dpid =>
    exact ⟨(Finset.erase_subset dpid _).trans consistent.connected, consistent.origin,
      consistent.within, consistent.sound, consistent.complete, consistent.cached⟩
  | linkSeen origin other => exact consistent.linkSeen origin other
  | deleteLink _ left => exact consistent.deleteLink left
  | learn port src _ => exact consistent.learn _ port src
  | path all => exact consistent.calculated all

theorem of_reachable (reachable : Reachable network) : network.Consistent := by
  induction reachable with
  | refl => exact initial
  | tail _ step ih => exact ih.step step

end Network.Consistent

/-! ## Connected switches and their paths -/

variable {network : Network}

/-- What is read from the table, whenever it was calculated. -/
theorem getPath_reachable (reachable : Reachable network) {sws : List Dpid}
    (all : ∀ dpid, dpid ∈ sws ↔ dpid ∈ network.switches) (src dst : Dpid) (finalPort : PortNo) :
    ∃ deep, ∀ depth ≥ deep, PathFound network.adjacency src dst finalPort
      (getPath network.adjacency (network.paths sws) depth src dst finalPort) := by
  obtain ⟨sws', within, same⟩ := (Network.Consistent.of_reachable reachable).paths all
  rw [same]
  exact getPath_found within src dst finalPort

section Sample

/-- A host at the second of two switches, and how the network comes to know it. -/
def sampleHost : EthAddr := ⟨0x0A0B0C, false⟩

def sampleNetwork : Network :=
  ((((Network.initial.connectionUp 1).connectionUp 2).linkSeen ⟨1, 3, 2, 4⟩).linkSeen
    ⟨2, 4, 1, 3⟩).learn 2 5 sampleHost

theorem reachable_sampleNetwork : Reachable sampleNetwork := by
  refine ((((Relation.ReflTransGen.refl.tail (.connectionUp 1)).tail (.connectionUp 2)).tail
    (.linkSeen ?_ ?_)).tail (.linkSeen ?_ ?_)).tail (.learn 5 sampleHost ?_)
  all_goals decide

end Sample

end SimpleRouter.Pox
