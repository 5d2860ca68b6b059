/-
# Ports and interface names

The controller keeps the port of every interface name and the name of every port. A frame that
comes in on a port should be delivered under the name whose packets go out of that port.

Announcements are written into both maps and nothing is ever taken out. So an interface that
moves to another port stays the name of the old one, and the name that a port had before still
leads to it. The maps stay inverse if and only if every announcement overwrites a name and its
port together or neither of them.
-/

import SimpleRouter.Demultiplexer
import SimpleRouter.Library.InverseMaps

namespace SimpleRouter

open Effects InverseMaps Precedence SrServerListener

variable {κ : Type} {lib : Packages κ} {listener : SrServerListener κ}

/-! ## What is asked of the code -/

/-- The maps are inverse, and what a router answers to a packet under the name it got the
packet with goes out of the port that the packet came in on. -/
structure PortsAgree (lib : Packages κ) (listener : SrServerListener κ) : Prop where
  inverse : Inverse listener.intfnameToPort listener.portToIntfname
  goesBack : ∀ pkt port conn packet,
    .send conn (.ltMessage (.vnsPacket packet)) ∈
      (listener.handle lib (.srPacketIn pkt port)).2.sent →
    ∀ conn' frame, packetOuts (listener.handle lib
      (.recvMsg conn' (some (.vnsPacket ⟨packet.intfName, frame⟩)))).2.sent = [(frame, port)]

/-! ## When the code does it -/

/-- The names and ports of an announcement, up to the first entry that raises. -/
def mapped (entries : List (Bytes × PortInfo)) : List (Bytes × ℕ) :=
  (entries.takeWhile fun entry => (newInterface entry.1 entry.2).isOk).map fun entry =>
    (entry.1, entry.2.port)

/-- An announcement overwrites a name and its port together or neither of them. -/
def MovesWhole (listener : SrServerListener κ) : ControllerEvent κ → Prop
  | .routerInfo event => Whole listener.intfnameToPort (mapped event.info)
  | _ => True

/-- The ports of an announcement are distinct. -/
def DistinctPorts : ControllerEvent κ → Prop
  | .routerInfo event => (event.info.map fun entry => entry.2.port).Nodup
  | _ => True

/-! ## Announcements -/

theorem mapped_cons_of_ok {intf : Bytes} {entry : PortInfo} {rest : List (Bytes × PortInfo)}
    {interface : VnsInterface} (built : newInterface intf entry = .ok interface) :
    mapped ((intf, entry) :: rest) = (intf, entry.port) :: mapped rest := by
  simp [mapped, built, Except.isOk, Except.toBool]

theorem mapped_cons_of_error {intf : Bytes} {entry : PortInfo} {rest : List (Bytes × PortInfo)}
    {why : PyError} (raises : newInterface intf entry = .error why) :
    mapped ((intf, entry) :: rest) = [] := by
  simp [mapped, raises, Except.isOk, Except.toBool]

/-- The loop writes the pairs into both maps. -/
theorem maps_mapPorts (listener : SrServerListener κ) (entries : List (Bytes × PortInfo)) :
    (listener.mapPorts entries).1.intfnameToPort =
        write listener.intfnameToPort (mapped entries) ∧
      (listener.mapPorts entries).1.portToIntfname =
        write listener.portToIntfname ((mapped entries).map Prod.swap) := by
  induction entries generalizing listener with
  | nil => exact ⟨rfl, rfl⟩
  | cons first rest ih =>
    obtain ⟨intf, entry⟩ := first
    rw [mapPorts]
    cases built : newInterface intf entry with
    | error why =>
      rw [mapped_cons_of_error built]
      exact ⟨rfl, rfl⟩
    | ok interface =>
      rw [mapped_cons_of_ok built]
      exact ih (listener.mapPort intf entry.port)

theorem maps_handleRouterInfo (listener : SrServerListener κ) (event : RouterInfo) :
    (listener.handleRouterInfo event).1.intfnameToPort =
        write listener.intfnameToPort (mapped event.info) ∧
      (listener.handleRouterInfo event).1.portToIntfname =
        write listener.portToIntfname ((mapped event.info).map Prod.swap) := by
  obtain ⟨interfaces, announced⟩ := exists_handleRouterInfo_eq listener event
  rw [announced]
  exact maps_mapPorts listener event.info

theorem nodup_names_mapped (event : RouterInfo) : ((mapped event.info).map Prod.fst).Nodup := by
  rw [mapped, List.map_map]
  exact event.distinct.sublist (List.takeWhile_sublist _ |>.map _)

theorem nodup_ports_mapped {entries : List (Bytes × PortInfo)}
    (distinct : (entries.map fun entry => entry.2.port).Nodup) :
    ((mapped entries).map Prod.snd).Nodup := by
  rw [mapped, List.map_map]
  exact distinct.sublist (List.takeWhile_sublist _ |>.map _)

/-! ## Delivery -/

/-- What is sent for a frame is a packet under the name of its port. -/
theorem name_of_mem_sent {pkt : Bytes} {port : ℕ} {conn : κ} {m : Sendable}
    (sends : .send conn m ∈ (listener.handle lib (.srPacketIn pkt port)).2.sent) :
    ∃ name, listener.portToIntfname port = some name ∧
      m = .ltMessage (.vnsPacket ⟨name, pkt⟩) := by
  have only {m' : Sendable} (clients : List κ)
      (sends : .send conn m ∈ (sendAll lib m' clients).sent) : m = m' := by
    induction clients with
    | nil => cases sends
    | cons client rest ih =>
      rw [sendAll, SrServerListener.send] at sends
      cases refuses : lib.sendRaises m' with
      | none =>
        rw [refuses, unlessRaised, Outcome.emit, Outcome.returned_bind] at sends
        rcases List.mem_append.mp sends with here | later
        · cases List.mem_singleton.mp here
          rfl
        · exact ih later
      | some why =>
        rw [refuses] at sends
        cases sends
  rw [handle, handleSrPacketIn] at sends
  cases known : listener.portToIntfname port with
  | none =>
    rw [known] at sends
    cases sends
  | some name =>
    refine ⟨name, rfl, ?_⟩
    cases prints : lib.printRaises pkt with
    | none =>
      rw [known, prints] at sends
      exact only _ sends
    | some why =>
      rw [known, prints] at sends
      cases sends

/-- Where the maps are inverse, packets go back to where they came from. -/
theorem portsAgree_iff_inverse :
    PortsAgree lib listener ↔ Inverse listener.intfnameToPort listener.portToIntfname := by
  constructor
  · exact PortsAgree.inverse
  · intro inverse
    refine ⟨inverse, ?_⟩
    intro pkt port conn packet sends conn' frame
    obtain ⟨name, named, same⟩ := name_of_mem_sent sends
    cases same
    have out := packetOuts_handlePacketMsg listener ⟨name, frame⟩
    rw [outOf, (inverse name port).mpr named] at out
    exact out

/-! ## Runs -/

/-- An announcement keeps the maps inverse if and only if it moves whole pairs, and no other
event changes them. -/
theorem inverse_handle_iff {event : ControllerEvent κ} (distinct : DistinctPorts event)
    (inverse : Inverse listener.intfnameToPort listener.portToIntfname) :
    Inverse (listener.handle lib event).1.intfnameToPort
        (listener.handle lib event).1.portToIntfname ↔ MovesWhole listener event := by
  cases event with
  | routerInfo event =>
    rw [handle, (maps_handleRouterInfo listener event).1, (maps_handleRouterInfo listener event).2]
    exact inverse_write_iff inverse (nodup_names_mapped event) (nodup_ports_mapped distinct)
  | _ => exact iff_of_true inverse trivial

/-- The maps agree at all times if and only if every announcement moves whole pairs. -/
theorem portsAgree_throughout_iff {events : List (ControllerEvent κ)}
    (distinct : ∀ event ∈ events, DistinctPorts event) :
    Throughout (fun before => PortsAgree lib (run lib before).1) events ↔
      Justified (fun before event => MovesWhole (run lib before).1 event) events := by
  refine throughout_iff (portsAgree_iff_inverse.mpr inverse_empty) ?_
  rintro before event after rfl agree
  rw [portsAgree_iff_inverse] at agree
  rw [portsAgree_iff_inverse, run_concat]
  exact inverse_handle_iff (distinct event (by simp)) agree

section Sample

/-- The switch connects again, and its interface has another port. -/
def movedAnnouncement : RouterInfo where
  info := [(eth1.chars, ⟨[49, 48, 46, 48, 46, 49, 46, 49],
    [52, 58, 48, 58, 48, 58, 48, 58, 49, 58, 49], [], 2⟩)]
  distinct := List.nodup_singleton _

/-- Where the switch announces the same again, the maps agree. -/
theorem portsAgree_reconnected :
    Throughout (fun before => PortsAgree samplePackages (run samplePackages before).1)
      [.routerInfo announcement, .routerInfo announcement] := by
  refine (portsAgree_throughout_iff (by simp [DistinctPorts, announcement])).mpr ?_
  rintro before event after split
  rcases before with _ | ⟨_, _ | ⟨_, before⟩⟩
  · cases split
    exact whole_of_rewritten fun _ _ maps => absurd maps (Option.some_ne_none _).symm
  · cases split
    refine whole_of_rewritten fun name port maps => ?_
    change (init.handleRouterInfo announcement).1.intfnameToPort name = some port at maps
    rw [(maps_handleRouterInfo init announcement).1,
      write_eq_some_iff (nodup_names_mapped announcement)] at maps
    exact maps.resolve_right fun old => absurd old.2 (Option.some_ne_none _).symm
  · simp at split

/-- The interface moves to another port, and frames of the old one still come under its name. -/
theorem not_portsAgree_moved :
    (∀ event ∈ [.routerInfo announcement, .routerInfo movedAnnouncement],
      DistinctPorts (κ := ℕ) event) ∧
    ¬ Throughout (fun before => PortsAgree samplePackages (run samplePackages before).1)
      [.routerInfo announcement, .routerInfo movedAnnouncement] := by
  refine ⟨by simp [DistinctPorts, announcement, movedAnnouncement], fun agree => ?_⟩
  have inverse := (agree _ [] (List.append_nil _).symm).inverse eth1.chars 1
  exact absurd (inverse.mpr (by decide)) (by decide)

end Sample

end SimpleRouter
