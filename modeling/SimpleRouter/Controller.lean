/-
# The controller

`SRServerListener` of `srhandler.py` stands between the switch and the routers. A switch
announces its ports and hands over the frames that it receives; the routers connect as
clients, authenticate, open a topology and send frames back.

An exception ends the handler that it is raised in, and what the handler has done by then
stays done. The next event is handled all the same.

The connections and what they do with a message belong to other packages, and so does the
parser that prints a frame. They are parameters.
-/

import Mathlib.Data.List.DropRight
import SimpleRouter.Library.Outcome
import SimpleRouter.VnsProtocol

namespace SimpleRouter

open Buffers Effects

/-! ## Python -/

/-- What the code of the controller raises. -/
inductive PyError
  /-- From `int` or `chr`. -/
  | valueError
  | vns (why : VnsError)
  | attributeError (name : String)
  /-- A variable was read before it was assigned. -/
  | unboundLocalError (name : String)
  /-- It comes out of another package. -/
  | foreign
  deriving DecidableEq

/-- `isspace` of a character. -/
def isSpace (c : UInt8) : Bool := c = 32 || (9 ≤ c && c ≤ 13)

/-- The value of a digit. -/
def digitValue (c : UInt8) : Option ℕ :=
  if 48 ≤ c ∧ c ≤ 57 then some (c.toNat - 48)
  else if 97 ≤ c ∧ c ≤ 122 then some (c.toNat - 87)
  else if 65 ≤ c ∧ c ≤ 90 then some (c.toNat - 55)
  else none

/-- An integer literal without a sign. In base 16 it may begin with `0x`. -/
def pyNatural (base : ℕ) (s : Bytes) : Option ℕ :=
  let digits := if base = 16 ∧ (s.take 2 = [48, 120] ∨ s.take 2 = [48, 88]) then s.drop 2 else s
  if digits = [] then none
  else digits.foldlM (fun n c => do
    let digit ← digitValue c
    if digit < base then some (n * base + digit) else none) 0

/-- `int` of a string: a literal behind an optional sign, with white space around them. -/
def pyInt (s : Bytes) (base : ℕ) : Except PyError ℤ :=
  let value : Option ℤ :=
    match (s.dropWhile isSpace).rdropWhile isSpace with
    | 43 :: literal => (pyNatural base literal).map fun n => (n : ℤ)
    | 45 :: literal => (pyNatural base literal).map fun n => -(n : ℤ)
    | literal => (pyNatural base literal).map fun n => (n : ℤ)
  match value with
  | none => .error .valueError
  | some n => .ok n

/-- `chr`. -/
def pyChr (n : ℤ) : Except PyError UInt8 :=
  if 0 ≤ n ∧ n < 0x100 then .ok (.ofNat n.toNat) else .error .valueError

/-- The octets of an address, which are separated by `sep` and written in base `base`. -/
def packOctets (sep : UInt8) (base : ℕ) (address : Bytes) : Except PyError Bytes :=
  (address.splitOn sep).mapM fun octet => do pyChr (← pyInt octet base)

/-- `pack_mac`. -/
def packMac (macaddr : Bytes) : Except PyError Bytes := packOctets 58 16 macaddr

/-- `pack_ip`. -/
def packIp (ipaddr : Bytes) : Except PyError Bytes := packOctets 46 10 ipaddr

/-! ## Events -/

/-- What a switch announces about an interface, the addresses as text. -/
structure PortInfo where
  ip : Bytes
  mac : Bytes
  rate : Bytes
  port : ℕ

/-- The event `RouterInfo`: the entries of a dictionary by interface name, in the order in
which its keys are listed. -/
structure RouterInfo where
  info : List (Bytes × PortInfo)
  distinct : (info.map Prod.fst).Nodup

/-- What happens at the controller. The clients are named by their connections. -/
inductive ControllerEvent (κ : Type)
  | routerInfo (event : RouterInfo)
  | srPacketIn (pkt : Bytes) (port : ℕ)
  /-- A client connects, and 20 random bytes are drawn for it. -/
  | newClient (conn : κ) (salt : Vector UInt8 20)
  | clientDisconnected (conn : κ)
  /-- A message has come, or bytes that could not be decoded. -/
  | recvMsg (conn : κ) (vnsMsg : Option VnsMessage)

/-- What is handed to `conn.send`. -/
inductive Sendable
  | ltMessage (m : VnsMessage)
  | str (s : String)
  deriving DecidableEq

/-- What the controller does. -/
inductive ControllerAction (κ : Type)
  | send (conn : κ) (m : Sendable)
  | loseConnection (conn : κ)
  /-- The event `SRPacketOut`. -/
  | srPacketOut (pkt : Bytes) (port : ℕ)
  deriving DecidableEq

/-- The code of other packages. -/
structure Packages (κ : Type) where
  /-- What `conn.send` raises instead of sending. -/
  sendRaises : Sendable → Option PyError
  /-- What is raised when a frame is parsed and printed. -/
  printRaises : Bytes → Option PyError
  /-- The text of a connection. -/
  connText : κ → Bytes

/-- The fields of `SRServerListener`. The interfaces are set by the first announcement. -/
structure SrServerListener (κ : Type) where
  srclients : List κ
  intfnameToPort : Bytes → Option ℕ
  portToIntfname : ℕ → Option Bytes
  interfaces : Option (List VnsInterface)

namespace SrServerListener

variable {κ : Type}

/-- `__init__`. -/
def init : SrServerListener κ := ⟨[], fun _ => none, fun _ => none, none⟩

/-- Code of a handler. -/
abbrev Handling (κ : Type) := Outcome (ControllerAction κ) PyError

/-- Go on unless something is raised. -/
def unlessRaised (raises : Option PyError) (x : Handling κ Unit) : Handling κ Unit :=
  match raises with
  | none => x
  | some why => .stop why

/-- `try` with a handler for all exceptions that only logs. -/
def tryExcept (x : Handling κ Unit) : Handling κ Unit := .returned x.sent ()

section Handlers

variable (lib : Packages κ) (listener : SrServerListener κ)

/-- `conn.send`. -/
def send (conn : κ) (m : Sendable) : Handling κ Unit :=
  unlessRaised (lib.sendRaises m) (.emit (.send conn m))

/-- The loop of `broadcast`. -/
def sendAll (m : Sendable) : List κ → Handling κ Unit
  | [] => pure ()
  | client :: rest => do
    send lib client m
    sendAll m rest

def broadcast (m : Sendable) : Handling κ Unit := sendAll lib m listener.srclients

/-- `_handle_SRPacketIn`. -/
def handleSrPacketIn (pkt : Bytes) (port : ℕ) : Handling κ Unit :=
  match listener.portToIntfname port with
  | none => pure ()
  | some intfname => unlessRaised (lib.printRaises pkt)
    (listener.broadcast lib (.ltMessage (.vnsPacket ⟨intfname, pkt⟩)))

/-- The interface that an entry announces. -/
def newInterface (intf : Bytes) (entry : PortInfo) : Except PyError VnsInterface := do
  let ip ← packIp entry.ip
  let mac ← packMac entry.mac
  -- The mask is 255.255.255.255.
  let mask ← packIp [50, 53, 53, 46, 50, 53, 53, 46, 50, 53, 53, 46, 50, 53, 53]
  (VnsInterface.new intf mac ip mask).mapError .vns

/-- The port has the name and the name the port. -/
def mapPort (intf : Bytes) (port : ℕ) : SrServerListener κ :=
  { listener with
    intfnameToPort := Function.update listener.intfnameToPort intf (some port)
    portToIntfname := Function.update listener.portToIntfname port (some intf) }

/-- The loop of `_handle_RouterInfo`. An entry that raises ends it, and the ports of the ones
before are mapped. -/
def mapPorts (listener : SrServerListener κ) :
    List (Bytes × PortInfo) → SrServerListener κ × Except PyError (List VnsInterface)
  | [] => (listener, .ok [])
  | (intf, entry) :: rest =>
    match newInterface intf entry with
    | .error why => (listener, .error why)
    | .ok interface =>
      let (listener, interfaces) := mapPorts (listener.mapPort intf entry.port) rest
      (listener, interfaces.map (interface :: ·))

/-- `_handle_RouterInfo`. -/
def handleRouterInfo (event : RouterInfo) : SrServerListener κ × Handling κ Unit :=
  match listener.mapPorts event.info with
  | (listener, .error why) => (listener, .stop why)
  | (listener, .ok interfaces) => ({ listener with interfaces := some interfaces }, pure ())

/-- The status that authenticates everyone: `"authenticated %s as user"`. -/
def authStatus (conn : κ) : VnsAuthStatus where
  authOk := true
  msg := [97, 117, 116, 104, 101, 110, 116, 105, 99, 97, 116, 101, 100, 32] ++ lib.connText conn ++
    [32, 97, 115, 32, 117, 115, 101, 114]

/-- `_handle_auth_reply`. -/
def handleAuthReply (conn : κ) : Handling κ Unit :=
  send lib conn (.ltMessage (.vnsAuthStatus (authStatus lib conn)))

/-- `_handle_new_client`. -/
def handleNewClient (conn : κ) (salt : Vector UInt8 20) : SrServerListener κ × Handling κ Unit :=
  ({ listener with srclients := listener.srclients ++ [conn] },
    send lib conn (.ltMessage (.vnsAuthRequest ⟨salt.toList⟩)))

/-- `_handle_client_disconnected`. The client stays in the list. -/
def handleClientDisconnected (conn : κ) : Handling κ Unit := .emit (.loseConnection conn)

/-- `_handle_open_msg`. -/
def handleOpenMsg (conn : κ) : Handling κ Unit :=
  tryExcept (match listener.interfaces with
    | none => .stop (.attributeError "interfaces")
    | some interfaces => send lib conn (.ltMessage (.vnsHardwareInfo ⟨interfaces⟩)))

/-- `_handle_close_msg`, with a text that is no message. -/
def handleCloseMsg (conn : κ) : Handling κ Unit := do
  send lib conn (.str "Goodbyte!")
  Outcome.emit (.loseConnection conn)

/-- `_handle_packet_msg`. For a name without a port it logs the port. -/
def handlePacketMsg (vnsMsg : VnsPacket) : Handling κ Unit :=
  match listener.intfnameToPort vnsMsg.intfName with
  | none => .stop (.unboundLocalError "out_port")
  | some outPort => .emit (.srPacketOut vnsMsg.ethernetFrame outPort)

/-- `_handle_recv_msg`. The class has no `_handle_open_template_msg`. -/
def handleRecvMsg (conn : κ) : Option VnsMessage → Handling κ Unit
  | none => handleCloseMsg lib conn
  | some (.vnsAuthReply _) => handleAuthReply lib conn
  | some (.vnsOpen _) => listener.handleOpenMsg lib conn
  | some (.vnsClose _) => handleCloseMsg lib conn
  | some (.vnsPacket vnsMsg) => listener.handlePacketMsg vnsMsg
  | some (.vnsOpenTemplate _) => .stop (.attributeError "_handle_open_template_msg")
  | some _ => pure ()

/-- The handler of an event: the fields behind it, and what it does. -/
def handle : ControllerEvent κ → SrServerListener κ × Handling κ Unit
  | .routerInfo event => listener.handleRouterInfo event
  | .srPacketIn pkt port => (listener, listener.handleSrPacketIn lib pkt port)
  | .newClient conn salt => listener.handleNewClient lib conn salt
  | .clientDisconnected conn => (listener, handleClientDisconnected conn)
  | .recvMsg conn vnsMsg => (listener, listener.handleRecvMsg lib conn vnsMsg)

/-- The fields after some events, and all that was done. -/
def run : List (ControllerEvent κ) → SrServerListener κ × List (ControllerAction κ) :=
  List.foldl (fun (listener, log) event =>
    let (listener, handling) := listener.handle lib event
    (listener, log ++ handling.sent)) (init, [])

/-- An announcement maps its ports and may set the interfaces. -/
theorem exists_handleRouterInfo_eq (event : RouterInfo) :
    ∃ interfaces, (listener.handleRouterInfo event).1 =
      { (listener.mapPorts event.info).1 with interfaces } := by
  rw [handleRouterInfo]
  split
  · next mapped =>
    rw [mapped]
    exact ⟨_, rfl⟩
  · next mapped =>
    rw [mapped]
    exact ⟨_, rfl⟩

end Handlers

end SrServerListener

end SimpleRouter
