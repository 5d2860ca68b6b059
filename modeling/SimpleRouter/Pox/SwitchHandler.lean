/-
# The controller between switches and routers

`ofhandler.py` stands between `srhandler.py` and the switches. A switch that connects has its ports
announced as interfaces. A frame that comes in on a port is handed to the routers, and its buffer is
given back to the switch. What a router sends goes out of the port of its interface, on every
connection that was ever made and is still up.

An exception ends the handler that it is raised in, and all the handlers that raised its event.
-/

import SimpleRouter.PortMaps
import SimpleRouter.Pox.PacketOut

namespace SimpleRouter.Pox

open Buffers Effects SrServerListener

/-! ## Addresses as text -/

/-- A digit of `%02x`. -/
def hexDigit (n : ℕ) : UInt8 := .ofNat (if n < 10 then 48 + n else 87 + n)

/-- `'%02x' % (ord(x),)` -/
def hexOctet (x : UInt8) : Bytes := [hexDigit (x.toNat / 16), hexDigit (x.toNat % 16)]

/-- `EthAddr.toStr` -/
def ethAddrToStr (value : Bytes) : Bytes := List.intercalate [58] (value.map hexOctet)

section Addresses

theorem pyInt_hexOctet (x : UInt8) : pyInt (hexOctet x) 16 = .ok x.toNat := by
  have all : ∀ n < 256, (pyInt (hexOctet (.ofNat n)) 16).toOption = some (n : ℤ) := by
    decide +kernel
  have value_ := all x.toNat x.toNat_lt
  rw [UInt8.ofNat_toNat] at value_
  cases read : pyInt (hexOctet x) 16 with
  | error why =>
    rw [read] at value_
    cases value_
  | ok n =>
    rw [read] at value_
    exact congrArg _ (Option.some.inj value_)

theorem not_mem_hexOctet (x : UInt8) : 58 ∉ hexOctet x := by
  have all : ∀ n < 256, 58 ∉ hexOctet (.ofNat n) := by
    decide +kernel
  have value_ := all x.toNat x.toNat_lt
  rwa [UInt8.ofNat_toNat] at value_

theorem pyChr_toNat (x : UInt8) : pyChr x.toNat = .ok x := by
  have small := x.toNat_lt
  rw [pyChr, if_pos (by omega)]
  simp

/-- The listener reads the address that the handler wrote. -/
theorem packMac_ethAddrToStr {value : Bytes} (nonempty : value ≠ []) :
    packMac (ethAddrToStr value) = .ok value := by
  have octets : (ethAddrToStr value).splitOn 58 = value.map hexOctet := by
    refine List.splitOn_intercalate 58 (fun octet listed => ?_) (by simpa using nonempty)
    obtain ⟨x, -, rfl⟩ := List.mem_map.mp listed
    exact not_mem_hexOctet x
  rw [packMac, packOctets, octets, Fallible.mapM_eq_ok, List.forall₂_map_left_iff]
  exact List.forall₂_same.mpr fun x _ =>
    Fallible.bind_eq_ok.mpr ⟨x.toNat, pyInt_hexOctet x, pyChr_toNat x⟩

end Addresses

/-! ## The interfaces of a switch -/

/-- The name of a port behind its hyphen. -/
def intfName (port : PhyPort) : Option Bytes := (port.name.splitOn 45)[1]?

/-- The entry of a port, with the rate `10Gbps`. -/
def portInfo (ip : Bytes) (port : PhyPort) : PortInfo :=
  ⟨ip, ethAddrToStr port.hwAddr, [49, 48, 71, 98, 112, 115], port.portNo⟩

/-- One round of the loop that fills `sw_info`, where the entry of a name takes the place of an older
one. -/
def addPort (routerIp : Bytes → Option Bytes) (info : List (Bytes × PortInfo)) (port : PhyPort) :
    List (Bytes × PortInfo) :=
  match intfName port with
  | none => info
  | some name =>
    match routerIp name with
    | none => info
    | some ip => info.filter (fun entry => entry.1 ≠ name) ++ [(name, portInfo ip port)]

/-- `sw_info` -/
def swInfo (routerIp : Bytes → Option Bytes) (ports : List PhyPort) : List (Bytes × PortInfo) :=
  ports.foldl (addPort routerIp) []

/-- The port of an interface, the last one where several have its name. -/
def interfacePort (ports : List PhyPort) (name : Bytes) : Option PhyPort :=
  ports.reverse.find? fun port => intfName port = some name

section Interfaces

variable {routerIp : Bytes → Option Bytes} {ports : List PhyPort} {name : Bytes}

theorem interfacePort_concat (ports : List PhyPort) (port : PhyPort) (name : Bytes) :
    interfacePort (ports ++ [port]) name =
      if intfName port = some name then some port else interfacePort ports name := by
  rw [interfacePort, List.reverse_append]
  simp only [List.reverse_singleton, List.singleton_append, List.find?_cons, interfacePort]
  by_cases here : intfName port = some name <;> simp [here]

theorem swInfo_concat (ports : List PhyPort) (port : PhyPort) :
    swInfo routerIp (ports ++ [port]) = addPort routerIp (swInfo routerIp ports) port := by
  rw [swInfo, List.foldl_append]
  rfl

/-- The entries are those of the configured interfaces. -/
theorem mem_swInfo {entry : PortInfo} :
    (name, entry) ∈ swInfo routerIp ports ↔
      ∃ ip port, routerIp name = some ip ∧ interfacePort ports name = some port ∧
        entry = portInfo ip port := by
  induction ports using List.reverseRecOn generalizing entry with
  | nil => simp [swInfo, interfacePort]
  | append_singleton ports port ih =>
    rw [swInfo_concat, interfacePort_concat, addPort]
    cases intf : intfName port with
    | none => simpa using ih
    | some other =>
      dsimp only
      by_cases here : other = name
      · subst here
        rw [if_pos rfl]
        cases configured : routerIp other with
        | none =>
          rw [ih]
          simp [configured]
        | some ip => simp [eq_comm]
      · rw [if_neg (fun same => here (Option.some.inj same))]
        cases configured : routerIp other with
        | none => exact ih
        | some ip => simp [ih, Ne.symm here]

theorem nodup_swInfo (routerIp : Bytes → Option Bytes) (ports : List PhyPort) :
    ((swInfo routerIp ports).map Prod.fst).Nodup := by
  induction ports using List.reverseRecOn with
  | nil => exact List.nodup_nil
  | append_singleton ports port ih =>
    rw [swInfo_concat, addPort]
    split
    · exact ih
    · split
      · exact ih
      · rw [List.map_append, List.nodup_append]
        refine ⟨ih.sublist (List.filter_sublist.map _), List.nodup_singleton _, ?_⟩
        intro name listed name' here same
        obtain ⟨entry, kept, rfl⟩ := List.mem_map.mp listed
        obtain rfl := List.mem_singleton.mp here
        have other := (List.mem_filter.mp kept).2
        exact absurd same (by simpa using other)

end Interfaces

/-! ## Handlers -/

/-- An identifier of a message, up to `MAX_XID`. -/
abbrev Xid := Fin 0x80000000

/-- What is around the two modules. -/
structure Setup (κ : Type) extends Packages κ where
  /-- `ROUTER_IP`, which is read from a file. -/
  routerIp : Bytes → Option Bytes
  /-- The order in which the keys of a dictionary are listed. -/
  listing : List (Bytes × PortInfo) → List (Bytes × PortInfo)
  perm_listing : ∀ entries, (listing entries).Perm entries
  /-- What is raised when a frame is parsed. -/
  parseRaises : Bytes → Option PyError

/-- What happens at the switches and at the routers. With each message that is sent there goes an
identifier, one for each connection where there are several. -/
inductive PoxEvent (σ κ : Type)
  | connectionUp (conn : σ) (ports : List PhyPort) (xid : Xid)
  | disconnected (conn : σ)
  | packetIn (conn : σ) (ofp : PacketIn) (xid : Xid)
  | newClient (client : κ) (salt : Vector UInt8 20)
  | clientDisconnected (client : κ)
  | recvMsg (client : κ) (vnsMsg : Option VnsMessage) (xid : σ → Xid)

inductive PoxAction (σ κ : Type)
  | toClient (action : ControllerAction κ)
  /-- Bytes for the socket of a connection. -/
  | toSwitch (conn : σ) (data : Bytes)

/-- The two modules. -/
structure PoxState (σ κ : Type) where
  listener : SrServerListener κ
  /-- The connections with an `OFHandler`. It listens for good. -/
  handlers : List σ
  disconnected : List σ

namespace PoxState

variable {σ κ : Type}

def init : PoxState σ κ := ⟨.init, [], []⟩

/-- The code of a handler. -/
abbrev Running (σ κ : Type) := Outcome (PoxAction σ κ) PyError

/-- The event `RouterInfo` of `OFHandler.__init__`. -/
def routerInfo (setup : Setup κ) (ports : List PhyPort) : RouterInfo where
  info := setup.listing (swInfo setup.routerIp ports)
  distinct := ((setup.perm_listing _).map Prod.fst).nodup_iff.mpr (nodup_swInfo _ _)

/-- `ofp_switch_config(miss_send_len = 20000)`, packed. -/
def switchConfig (xid : Xid) : Option Bytes := do
  let header ← OfpHeader.pack ⟨1, 9, 12, xid⟩
  let fields ← Struct.pack [2, 2] [0, 20000]
  some (header ++ fields)

/-- The message that gives a buffer back. Having no actions, it drops the packet. -/
def releaseBuffer (ofp : PacketIn) (xid : Xid) : PacketOut :=
  ⟨⟨1, 13, 0, xid⟩, ofp.bufferId, ofp.inPort, [], []⟩

/-- The message that puts a packet out of a port, from `OFPP_NONE`. -/
def putOut (pkt : Bytes) (port : ℕ) (xid : Xid) : PacketOut :=
  ⟨⟨1, 13, 0, xid⟩, none, 65535, [⟨port, 65535⟩], pkt⟩

section Handlers

variable [DecidableEq σ] (setup : Setup κ) (state : PoxState σ κ)

/-- `Connection.send`, of a message that may raise an exception where it is packed. -/
def send (conn : σ) (packed : Option Bytes) : Running σ κ Unit :=
  if conn ∈ state.disconnected then pure ()
  else match packed with
    | none => .stop .foreign
    | some data => .emit (.toSwitch conn data)

/-- `_handle_SRPacketOut`, of all who listen. -/
def handleSrPacketOut (pkt : Bytes) (port : ℕ) (xid : σ → Xid) : List σ → Running σ κ Unit
  | [] => pure ()
  | conn :: rest => do
    state.send conn (putOut pkt port (xid conn)).pack
    handleSrPacketOut pkt port xid rest

/-- What the listener does is done, and a packet that it puts out is an event for the handlers. -/
def perform (xid : σ → Xid) : List (ControllerAction κ) → Running σ κ Unit
  | [] => pure ()
  | .srPacketOut pkt port :: rest => do
    state.handleSrPacketOut pkt port xid state.handlers
    perform xid rest
  | action :: rest => do
    Outcome.emit (.toClient action)
    perform xid rest

/-- A handler of the listener, as it ends. -/
def relay (xid : σ → Xid) (handling : SrServerListener.Handling κ Unit) : Running σ κ Unit := do
  state.perform xid handling.sent
  match handling.result with
  | .ok _ => pure ()
  | .error why => .stop why

/-- `_handle_PacketIn`. `Connection.read` delivers no message without data. -/
def handlePacketIn (conn : σ) (ofp : PacketIn) (xid : Xid) : Running σ κ Unit :=
  match ofp.data with
  | none => .stop .foreign
  | some raw =>
    match setup.parseRaises raw with
    | some why => .stop why
    | none => do
      state.relay (fun _ => xid)
        (state.listener.handle setup.toPackages (.srPacketIn raw ofp.inPort)).2
      state.send conn (releaseBuffer ofp xid).pack

/-- An event for the listener alone. -/
def overhear (xid : σ → Xid) (event : ControllerEvent κ) : PoxState σ κ × Running σ κ Unit :=
  let (listener, handling) := state.listener.handle setup.toPackages event
  ({ state with listener }, state.relay xid handling)

def handle : PoxEvent σ κ → PoxState σ κ × Running σ κ Unit
  | .connectionUp conn ports xid =>
    let configured := state.send conn (switchConfig xid)
    -- The configuration can be packed, so the handler is made and listens.
    let (state, running) := { state with handlers := state.handlers ++ [conn] }.overhear setup
      (fun _ => xid) (.routerInfo (routerInfo setup ports))
    (state, configured >>= fun _ => running)
  | .disconnected conn => ({ state with disconnected := conn :: state.disconnected }, pure ())
  | .packetIn conn ofp xid =>
    (state, if conn ∈ state.handlers then state.handlePacketIn setup conn ofp xid else pure ())
  | .newClient client salt => state.overhear setup (fun _ => 0) (.newClient client salt)
  | .clientDisconnected client => state.overhear setup (fun _ => 0) (.clientDisconnected client)
  | .recvMsg client vnsMsg xid => state.overhear setup xid (.recvMsg client vnsMsg)

/-- The state after some events. -/
def run (events : List (PoxEvent σ κ)) : PoxState σ κ :=
  events.foldl (fun state event => (state.handle setup event).1) init

/-- The handlers whose connection is up. -/
def up : List σ := state.handlers.filter (· ∉ state.disconnected)

end Handlers

end PoxState

end SimpleRouter.Pox
