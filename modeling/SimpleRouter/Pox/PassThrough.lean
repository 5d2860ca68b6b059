/-
# Frames on their way between a switch and the routers

A frame passes three programs: the switch hands it to the controller, the controller sends it to the
routers under the name of an interface, and a router reads it from its server. What a router sends
takes the same way back.

Where a switch keeps its ports whenever it connects, and one connection with it is up, frames pass
unchanged in both directions: every router that has connected gets a frame under the interface of its
port, and what a router sends out of an interface leaves the switch by that port.
-/

import SimpleRouter.Broadcast
import SimpleRouter.PacketMessage
import SimpleRouter.Pox.SwitchHandler

namespace SimpleRouter.Pox

open Buffers Effects InverseMaps Rounds SrServerListener

variable {σ κ : Type} [DecidableEq σ] {setup : Setup κ} {events : List (PoxEvent σ κ)}
  {ports : List PhyPort} {conn : σ} {name : Bytes} {port : ℕ} {frame : Bytes}

/-! ## What is asked of the controller -/

/-- The clients that have connected. -/
def clients (events : List (PoxEvent σ κ)) : List κ :=
  events.filterMap fun event => match event with
    | .newClient client _ => some client
    | _ => none

/-- The packet for a client. -/
def packetFor (name frame : Bytes) (client : κ) : PoxAction σ κ :=
  .toClient (.send client (.ltMessage (.vnsPacket ⟨name, frame⟩)))

/-- A frame passes in both directions between a port and an interface. -/
structure PassesThrough (setup : Setup κ) (events : List (PoxEvent σ κ)) (conn : σ) (port : ℕ)
    (name : IfName) (frame : Bytes) : Prop where
  /-- It goes to all clients, and its buffer is given back. -/
  toRouters : ∀ (ofp : PacketIn) (xid : Xid), ofp.inPort = port → ofp.data = some frame →
    ∃ freed, PacketOut.unpack freed = some
        ⟨⟨1, 13, 16, xid⟩, readBuffer (wireBuffer ofp.bufferId), port, [], []⟩ ∧
      ((PoxState.run setup events).handle setup (.packetIn conn ofp xid)).2 =
        .returned ((clients events).map (packetFor name.chars frame) ++ [.toSwitch conn freed]) ()
  /-- A router reads it under the name of the interface. -/
  read : ∃ message, ltFrame 4 (VnsPacket.pack ⟨name.chars, frame⟩) = .ok message ∧
    ∀ sr host socket rest, host.allocates → socket.Unbroken → socket.stream = message ++ rest →
      ∃ acting socket', Finishes (srReadFromServerExpect sr host 0 socket) (acting, socket') ∧
        HandsOn sr name frame acting
  /-- What a router sends is put out of the port. -/
  toSwitch : ∀ sr host written, host.allocates → srEtherAddrsMatchInterface sr frame name = 1 →
    ∃ message packet, (VnsComm.srSendPacket sr host written frame name).sent = [message] ∧
      VnsPacket.unpack (message.drop baseSize) = .ok packet ∧
      ∀ client xid, ∃ data, PacketOut.unpack data = some
          ⟨⟨1, 13, 24 + frame.length, xid conn⟩, none, 65535, [.cleared ⟨port, 65535⟩], frame⟩ ∧
        ((PoxState.run setup events).handle setup
            (.recvMsg client (some (.vnsPacket packet)) xid)).2 =
          .returned [.toSwitch conn data] ()

/-! ## When it does it -/

/-- The addresses of the configuration are addresses. -/
def Configured (setup : Setup κ) : Prop :=
  ∀ name ip, setup.routerIp name = some ip → ∃ octets, packIp ip = .ok octets ∧ octets.length = 4

/-- The ports of a switch, as it announces them. -/
structure Announceable (ports : List PhyPort) : Prop where
  distinct : (ports.map PhyPort.portNo).Nodup
  small : ∀ port ∈ ports, port.portNo < 2 ^ 16
  hwAddr : ∀ port ∈ ports, port.hwAddr.length = 6

/-- The interface is configured, and the switch has its port. -/
def Wires (setup : Setup κ) (ports : List PhyPort) (name : Bytes) (port : ℕ) : Prop :=
  (setup.routerIp name).isSome ∧ ∃ p, interfacePort ports name = some p ∧ p.portNo = port

/-- The switch announces the same ports whenever it connects. -/
def KeepsPorts (ports : List PhyPort) (events : List (PoxEvent σ κ)) : Prop :=
  ∀ conn ports' xid, .connectionUp conn ports' xid ∈ events → ports' = ports

/-! ## The announcement -/

theorem isOk_newInterface (configured : Configured setup) (announceable : Announceable ports)
    {entry : PortInfo} (listed : (name, entry) ∈ swInfo setup.routerIp ports) :
    (newInterface name entry).isOk := by
  obtain ⟨ip, port, given, found, rfl⟩ := mem_swInfo.mp listed
  obtain ⟨octets, packs, four⟩ := configured name ip given
  have member : port ∈ ports := List.mem_reverse.mp (List.mem_of_find?_eq_some found)
  have six : port.hwAddr.length = 6 := announceable.hwAddr port member
  have mac : packMac (portInfo ip port).mac = .ok port.hwAddr :=
    packMac_ethAddrToStr (List.ne_nil_of_length_eq_add_one six)
  have mask : packIp [50, 53, 53, 46, 50, 53, 53, 46, 50, 53, 53, 46, 50, 53, 53] =
      .ok [255, 255, 255, 255] := by
    rfl
  obtain ⟨interface, made⟩ :
      ∃ interface, VnsInterface.new name port.hwAddr octets [255, 255, 255, 255] = .ok interface := by
    rw [VnsInterface.new, dif_pos six, dif_pos four]
    exact ⟨_, rfl⟩
  have built : newInterface name (portInfo ip port) = .ok interface := by
    refine Fallible.bind_eq_ok.mpr ⟨octets, packs, Fallible.bind_eq_ok.mpr ⟨_, mac,
      Fallible.bind_eq_ok.mpr ⟨_, mask, ?_⟩⟩⟩
    rw [made]
    rfl
  rw [built]
  rfl

/-- Every interface of an announcement is mapped. -/
theorem mem_mapped (configured : Configured setup) (announceable : Announceable ports) :
    (name, port) ∈ mapped (PoxState.routerInfo setup ports).info ↔ Wires setup ports name port := by
  have all : ∀ entry ∈ (PoxState.routerInfo setup ports).info,
      (newInterface entry.1 entry.2).isOk := fun entry listed =>
    isOk_newInterface configured announceable ((setup.perm_listing _).mem_iff.mp listed)
  rw [mapped, List.takeWhile_eq_self_iff.mpr all, List.mem_map]
  constructor
  · rintro ⟨⟨_, entry⟩, listed, ⟨⟩⟩
    obtain ⟨ip, p, given, found, rfl⟩ := mem_swInfo.mp ((setup.perm_listing _).mem_iff.mp listed)
    exact ⟨Option.isSome_of_eq_some given, p, found, rfl⟩
  · rintro ⟨given, p, found, rfl⟩
    obtain ⟨ip, given⟩ := Option.isSome_iff_exists.mp given
    refine ⟨(name, portInfo ip p), (setup.perm_listing _).mem_iff.mpr ?_, rfl⟩
    exact mem_swInfo.mpr ⟨ip, p, given, found, rfl⟩

/-- The numbers of the mapped ports are distinct, as a port is that of one interface. -/
theorem nodup_ports_routerInfo (setup : Setup κ) (announceable : Announceable ports) :
    (((PoxState.routerInfo setup ports).info).map fun entry => entry.2.port).Nodup := by
  have distinct := (PoxState.routerInfo setup ports).distinct.of_map
  refine distinct.map_on ?_
  rintro ⟨first, entry⟩ listed ⟨second, entry'⟩ listed' same
  obtain ⟨ip, p, given, found, rfl⟩ := mem_swInfo.mp ((setup.perm_listing _).mem_iff.mp listed)
  obtain ⟨ip', p', given', found', rfl⟩ := mem_swInfo.mp ((setup.perm_listing _).mem_iff.mp listed')
  have member : p ∈ ports := List.mem_reverse.mp (List.mem_of_find?_eq_some found)
  have member' : p' ∈ ports := List.mem_reverse.mp (List.mem_of_find?_eq_some found')
  obtain rfl : p = p' := List.inj_on_of_nodup_map announceable.distinct member member' same
  have intf : intfName p = some first := by
    simpa using List.find?_some found
  have intf' : intfName p = some second := by
    simpa using List.find?_some found'
  obtain rfl : first = second := Option.some.inj (intf.symm.trans intf')
  obtain rfl : ip = ip' := Option.some.inj (given.symm.trans given')
  rfl

/-! ## Runs -/

namespace PoxState

theorem run_concat (events : List (PoxEvent σ κ)) (event : PoxEvent σ κ) :
    run setup (events ++ [event]) = ((run setup events).handle setup event).1 := by
  rw [run, List.foldl_append]
  rfl

theorem handlers_run (events : List (PoxEvent σ κ)) :
    (run setup events).handlers = events.filterMap fun event => match event with
      | .connectionUp conn _ _ => some conn
      | _ => none := by
  induction events using List.reverseRecOn with
  | nil => rfl
  | append_singleton events event ih =>
    rw [run_concat, List.filterMap_append, ← ih]
    cases event with
    | connectionUp conn ports xid => rfl
    | _ => exact (List.append_nil _).symm

theorem srclients_overhear (setup : Setup κ) (state : PoxState σ κ) (xid : σ → Xid)
    (event : ControllerEvent κ) :
    (state.overhear setup xid event).1.listener.srclients =
      state.listener.srclients ++ joined [event] := srclients_handle state.listener event

theorem srclients_run (events : List (PoxEvent σ κ)) :
    (run setup events).listener.srclients = clients events := by
  induction events using List.reverseRecOn with
  | nil => rfl
  | append_singleton events event ih =>
    rw [run_concat, clients, List.filterMap_append, ← clients, ← ih]
    cases event with
    | disconnected conn => exact (List.append_nil _).symm
    | packetIn conn ofp xid => exact (List.append_nil _).symm
    | connectionUp conn ports xid =>
      exact srclients_overhear setup { run setup events with handlers := _ } (fun _ => xid)
        (.routerInfo (routerInfo setup ports))
    | newClient client salt =>
      exact srclients_overhear setup _ (fun _ => 0) (.newClient client salt)
    | clientDisconnected client =>
      exact srclients_overhear setup _ (fun _ => 0) (.clientDisconnected client)
    | recvMsg client vnsMsg xid => exact srclients_overhear setup _ xid (.recvMsg client vnsMsg)

/-- Once the switch has connected, both maps hold its interfaces and nothing else. -/
theorem maps_run (configured : Configured setup) (announceable : Announceable ports)
    (keeps : KeepsPorts ports events) (name : Bytes) (port : ℕ) :
    ((run setup events).listener.intfnameToPort name = some port ↔
        (run setup events).handlers ≠ [] ∧ Wires setup ports name port) ∧
      ((run setup events).listener.portToIntfname port = some name ↔
        (run setup events).handlers ≠ [] ∧ Wires setup ports name port) := by
  induction events using List.reverseRecOn with
  | nil => simp [run, init, SrServerListener.init]
  | append_singleton events event ih =>
    have before := ih fun conn ports' xid listed =>
      keeps conn ports' xid (List.mem_append_left _ listed)
    rw [run_concat]
    cases event with
    | connectionUp conn ports' xid =>
      obtain rfl : ports' = ports := keeps conn ports' xid (by simp)
      have maps := maps_handleRouterInfo (run setup events).listener (routerInfo setup ports')
      have names := nodup_names_mapped (routerInfo setup ports')
      have numbers := nodup_ports_mapped (nodup_ports_routerInfo setup announceable)
      have some_ : (run setup events).handlers ++ [conn] ≠ [] := by
        simp
      change ((((run setup events).listener.handleRouterInfo _).1.intfnameToPort name = some port ↔
          (run setup events).handlers ++ [conn] ≠ [] ∧ _) ∧
        (((run setup events).listener.handleRouterInfo _).1.portToIntfname port = some name ↔
          (run setup events).handlers ++ [conn] ≠ [] ∧ _))
      rw [maps.1, maps.2, write_eq_some_iff names,
        write_eq_some_iff (map_fst_swap.symm ▸ numbers), map_fst_swap, mem_map_swap,
        mem_mapped configured announceable]
      -- What was there is written again.
      constructor
      · constructor
        · rintro (wires | ⟨unwritten, old⟩)
          · exact ⟨some_, wires⟩
          · exact ⟨some_, (before.1.mp old).2⟩
        · exact fun wires => .inl wires.2
      · constructor
        · rintro (wires | ⟨unwritten, old⟩)
          · exact ⟨some_, wires⟩
          · exact ⟨some_, (before.2.mp old).2⟩
        · exact fun wires => .inl wires.2
    | _ => exact before

end PoxState

/-! ## What is sent -/

section Sending

variable {state : PoxState σ κ}

/-- Every client gets the packet. -/
theorem sendAll_eq (accepts : ∀ m, setup.sendRaises (.ltMessage m) = none) (m : VnsMessage)
    (clients : List κ) :
    sendAll setup.toPackages (.ltMessage m) clients =
      .returned (clients.map fun client => .send client (.ltMessage m)) () := by
  induction clients with
  | nil => rfl
  | cons client rest ih =>
    rw [sendAll, send_ltMessage accepts, ih]
    rfl

theorem perform_sends (xid : σ → Xid) (m : Sendable) (clients : List κ) :
    state.perform xid (clients.map fun client => .send client m) =
      .returned (clients.map fun client => .toClient (.send client m)) () := by
  induction clients with
  | nil => rfl
  | cons client rest ih =>
    rw [List.map_cons, PoxState.perform, ih]
    · rfl
    · rintro _ _ ⟨⟩

theorem send_of_down (isDown : conn ∈ state.disconnected) (packed : Option Bytes) :
    state.send conn packed = .returned [] () := if_pos isDown

theorem send_of_up (isUp : conn ∉ state.disconnected) (data : Bytes) :
    state.send conn (some data) = .returned [.toSwitch conn data] () := if_neg isUp

/-- A packet is put out on the connection that is up, whatever other handlers there are. -/
theorem handleSrPacketOut_eq {handlers : List σ} {pkt data : Bytes} {xid : σ → Xid}
    (only : handlers.filter (· ∉ state.disconnected) = [conn])
    (packs : (PoxState.putOut pkt port (xid conn)).pack = some data) :
    state.handleSrPacketOut pkt port xid handlers = .returned [.toSwitch conn data] () := by
  have silent {handlers : List σ} (gone : handlers.filter (· ∉ state.disconnected) = []) :
      state.handleSrPacketOut pkt port xid handlers = .returned [] () := by
    induction handlers with
    | nil => rfl
    | cons other rest ih =>
      rw [List.filter_cons] at gone
      split_ifs at gone with isUp
      rw [PoxState.handleSrPacketOut, send_of_down (by simpa using isUp), ih gone]
      rfl
  induction handlers with
  | nil => cases only
  | cons other rest ih =>
    rw [List.filter_cons] at only
    split_ifs at only with isUp
    · obtain ⟨rfl, gone⟩ := List.cons.inj only
      rw [PoxState.handleSrPacketOut, packs, send_of_up (by simpa using isUp), silent gone]
      rfl
    · rw [PoxState.handleSrPacketOut, send_of_down (by simpa using isUp), ih only]
      rfl

/-- A packet that is not too long can be put out. -/
theorem exists_pack_putOut (small : port < 2 ^ 16) (short : 24 + frame.length < 2 ^ 16)
    (xid : Xid) :
    ∃ data, (PoxState.putOut frame port xid).pack = some data ∧
      PacketOut.unpack data = some
        ⟨⟨1, 13, 24 + frame.length, xid⟩, none, 65535, [.cleared ⟨port, 65535⟩], frame⟩ := by
  have packable : (PoxState.putOut frame port xid).Packable :=
    { exclusive := .inl rfl
      version := by simp [PoxState.putOut]
      headerType := by simp [PoxState.putOut]
      xid := xid.isLt.trans (by decide)
      inPort := by simp [PoxState.putOut]
      actions := by simpa [PoxState.putOut] using small
      short := short }
  obtain ⟨data, packs, length⟩ := packable.exists_pack
  have read := PacketOut.pack_spec packs []
  rw [List.append_nil, length] at read
  exact ⟨data, packs, read⟩

theorem exists_pack_releaseBuffer {ofp : PacketIn} (small : ofp.inPort < 2 ^ 16) (xid : Xid) :
    ∃ freed, (PoxState.releaseBuffer ofp xid).pack = some freed ∧
      PacketOut.unpack freed = some
        ⟨⟨1, 13, 16, xid⟩, readBuffer (wireBuffer ofp.bufferId), ofp.inPort, [], []⟩ := by
  have packable : (PoxState.releaseBuffer ofp xid).Packable :=
    { exclusive := .inr rfl
      version := by simp [PoxState.releaseBuffer]
      headerType := by simp [PoxState.releaseBuffer]
      xid := xid.isLt.trans (by decide)
      inPort := small
      actions := by simp [PoxState.releaseBuffer]
      short := by simp [PoxState.releaseBuffer] }
  obtain ⟨freed, packs, length⟩ := packable.exists_pack
  have read := PacketOut.pack_spec packs []
  rw [List.append_nil, length] at read
  exact ⟨freed, packs, read⟩

end Sending

/-! ## Frames -/

theorem relay_returned {state : PoxState σ κ} {xid : σ → Xid} {actions : List (ControllerAction κ)}
    {sent : List (PoxAction σ κ)} (performs : state.perform xid actions = .returned sent ()) :
    state.relay xid (.returned actions ()) = .returned sent () := by
  rw [PoxState.relay, Outcome.sent_returned, performs]
  exact Outcome.returned_bind_pure sent () id

section Sample

/-- The port 1 is `sw0-eth1`, the port 65534 is the switch itself. -/
def samplePorts : List PhyPort :=
  [⟨1, [4, 0, 0, 0, 1, 1], [115, 119, 48, 45, 101, 116, 104, 49], 0, 0, 0, 0, 0, 0⟩,
    ⟨65534, emptyEth, [115, 119, 48], 0, 0, 0, 0, 0, 0⟩]

/-- The address of `eth1` is `10.0.1.1`. -/
def sampleSetup : Setup ℕ where
  toPackages := samplePackages
  routerIp name := if name = eth1.chars then some [49, 48, 46, 48, 46, 49, 46, 49] else none
  listing entries := entries
  perm_listing _ := .rfl
  parseRaises _ := none

/-- The switch connects, and again behind a lost connection, with a router between. -/
def sampleEvents : List (PoxEvent ℕ ℕ) :=
  [.connectionUp 0 samplePorts ⟨1, by decide⟩, .newClient 7 (.replicate 20 7), .disconnected 0,
    .connectionUp 1 samplePorts ⟨3, by decide⟩]

end Sample

end SimpleRouter.Pox
