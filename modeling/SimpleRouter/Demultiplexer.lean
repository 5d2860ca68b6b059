/-
# Messages of clients

The controller looks at the type of every message that a client sends and calls a handler. It
should do so for whatever comes, also for bytes that are no message.

Four kinds of messages raise an exception instead. Behind bytes that could not be decoded and
behind `VNSClose` the farewell is a string, which connections do not take. There is no handler
for `VNSOpenTemplate`. And where a packet names an unknown interface, the port that is logged
was never assigned.
-/

import SimpleRouter.PacketOrder

namespace SimpleRouter

open Effects SrServerListener

variable {κ : Type} {lib : Packages κ} {listener : SrServerListener κ} {conn : κ}

/-! ## What is asked of the code -/

/-- Connections take the messages of the protocol and nothing else. -/
structure TakesMessages (lib : Packages κ) : Prop where
  messages : ∀ m, lib.sendRaises (.ltMessage m) = none
  strings : ∀ s, lib.sendRaises (.str s) ≠ none

/-- The packets that are handed to the switches, with their ports. -/
def packetOuts (log : List (ControllerAction κ)) : List (Bytes × ℕ) :=
  log.filterMap fun action => match action with
    | .srPacketOut pkt port => some (pkt, port)
    | _ => none

/-- The frame of a packet goes out of the port of its interface, if there is one. -/
def outOf (listener : SrServerListener κ) (packet : VnsPacket) : List (Bytes × ℕ) :=
  match listener.intfnameToPort packet.intfName with
  | none => []
  | some port => [(packet.ethernetFrame, port)]

/-- A message is handled without an exception, a packet goes out of its port, and the maps of
the ports stay what they were. -/
structure Demultiplexes (lib : Packages κ) (listener : SrServerListener κ) (conn : κ)
    (vnsMsg : Option VnsMessage) : Prop where
  returns : (listener.handle lib (.recvMsg conn vnsMsg)).2.Returns ()
  packets : ∀ packet, vnsMsg = some (.vnsPacket packet) →
    packetOuts (listener.handle lib (.recvMsg conn vnsMsg)).2.sent = outOf listener packet
  intfnames : (listener.handle lib (.recvMsg conn vnsMsg)).1.intfnameToPort =
    listener.intfnameToPort
  ports : (listener.handle lib (.recvMsg conn vnsMsg)).1.portToIntfname = listener.portToIntfname

/-! ## When the code does it -/

/-- The message could be decoded, it is neither a `VNSClose` nor a `VNSOpenTemplate`, and the
interface of a packet has a port. -/
def Manageable (listener : SrServerListener κ) : Option VnsMessage → Prop
  | none => False
  | some (.vnsClose _) => False
  | some (.vnsOpenTemplate _) => False
  | some (.vnsPacket packet) => (listener.intfnameToPort packet.intfName).isSome
  | some _ => True

/-! ## The handlers -/

/-- The farewell is no message. -/
theorem not_returns_handleCloseMsg (takes : TakesMessages lib) :
    ¬ (handleCloseMsg lib conn).Returns () := by
  rw [handleCloseMsg, SrServerListener.send]
  cases refuses : lib.sendRaises (.str "Goodbyte!") with
  | none => exact absurd refuses (takes.strings _)
  | some why =>
    rw [unlessRaised, Outcome.stop_bind]
    rintro ⟨⟩

/-- Opening a topology is answered once the interfaces are announced, and never fails. -/
theorem returns_handleOpenMsg : (listener.handleOpenMsg lib conn).Returns () := rfl

theorem returns_handleAuthReply (takes : TakesMessages lib) :
    (handleAuthReply lib conn).Returns () := by
  rw [handleAuthReply, send_ltMessage takes.messages]
  rfl

theorem returns_handlePacketMsg_iff {packet : VnsPacket} :
    (listener.handlePacketMsg packet).Returns () ↔
      (listener.intfnameToPort packet.intfName).isSome := by
  rw [handlePacketMsg]
  cases listener.intfnameToPort packet.intfName with
  | none => exact iff_of_false (by rintro ⟨⟩) (by simp)
  | some port => exact iff_of_true rfl rfl

theorem packetOuts_handlePacketMsg (listener : SrServerListener κ) (packet : VnsPacket) :
    packetOuts (listener.handlePacketMsg packet).sent = outOf listener packet := by
  rw [handlePacketMsg, outOf]
  cases listener.intfnameToPort packet.intfName <;> rfl

theorem returns_handleRecvMsg_iff (takes : TakesMessages lib) {vnsMsg : Option VnsMessage} :
    (listener.handleRecvMsg lib conn vnsMsg).Returns () ↔ Manageable listener vnsMsg := by
  cases vnsMsg with
  | none => exact iff_of_false (not_returns_handleCloseMsg takes) id
  | some m =>
    cases m with
    | vnsAuthReply reply => exact iff_of_true (returns_handleAuthReply takes) trivial
    | vnsOpen opening => exact iff_of_true returns_handleOpenMsg trivial
    | vnsClose close => exact iff_of_false (not_returns_handleCloseMsg takes) id
    | vnsPacket packet => exact returns_handlePacketMsg_iff
    | vnsOpenTemplate opening => exact iff_of_false (by rintro ⟨⟩) id
    | _ => exact iff_of_true rfl trivial

section Sample

theorem takesMessages_samplePackages : TakesMessages samplePackages :=
  ⟨fun _ => rfl, fun _ => Option.some_ne_none _⟩

/-- The controller after the switch has announced `eth1`. -/
def announced : SrServerListener ℕ := (run samplePackages [.routerInfo announcement]).1

end Sample

end SimpleRouter
