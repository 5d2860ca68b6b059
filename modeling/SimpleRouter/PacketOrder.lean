/-
# Packets and the hardware message

A client is on the list of the controller from the moment that it connects, and every packet
goes to all clients on the list. The hardware message answers the message that opens a
topology, and none is sent as long as no switch has announced its interfaces.

So a packet may reach a client that was told nothing of its interface, or that is still in its
handshake, which the packet ends. This does not happen if and only if at every packet all
clients on the list have opened a topology at a time when its interface was announced.
-/

import SimpleRouter.Controller
import SimpleRouter.Handshake
import SimpleRouter.Library.Precedence

namespace SimpleRouter

open Buffers Effects Precedence SrServerListener

variable {κ : Type}

/-! ## What is asked of the code -/

/-- The interfaces include one of that name. -/
def Lists (interfaces : List VnsInterface) (name : Bytes) : Prop :=
  ∃ interface ∈ interfaces, interface.name = name

/-- A hardware message was sent on the connection that lists the interface. -/
def Told (log : List (ControllerAction κ)) (conn : κ) (name : Bytes) : Prop :=
  ∃ interfaces, .send conn (.ltMessage (.vnsHardwareInfo ⟨interfaces⟩)) ∈ log ∧
    Lists interfaces name

/-- A packet is sent to a client that was told of its interface. -/
def TellsFirst (before : List (ControllerAction κ)) (action : ControllerAction κ) : Prop :=
  ∀ conn packet, action = .send conn (.ltMessage (.vnsPacket packet)) →
    Told before conn packet.intfName

/-- The message opens a topology. -/
def IsOpen : Option VnsMessage → Prop
  | some (.vnsOpen _) => True
  | _ => False

/-- The message is of the handshake. -/
def OfHandshake : VnsMessage → Prop
  | .vnsAuthRequest _ => True
  | .vnsAuthStatus _ => True
  | _ => False

/-- Every packet comes behind a hardware message that lists its interface, and a client that
has not opened a topology gets nothing but the messages of the handshake. -/
structure PacketsInOrder (lib : Packages κ) (events : List (ControllerEvent κ)) : Prop where
  told : Justified TellsFirst (run lib events).2
  undisturbed : ∀ before after, events = before ++ after → ∀ conn,
    (∀ vnsMsg, IsOpen vnsMsg → .recvMsg conn vnsMsg ∉ before) →
    ∀ m, .send conn (.ltMessage m) ∈ (run lib before).2 → OfHandshake m

/-! ## When the code does it -/

/-- The client opened a topology at a time when the interface was announced. -/
def Opened (lib : Packages κ) (conn : κ) (name : Bytes) : List (ControllerEvent κ) → Prop :=
  Occurs fun before event => ∃ vnsMsg, event = .recvMsg conn vnsMsg ∧ IsOpen vnsMsg ∧
    ∃ interfaces, (run lib before).1.interfaces = some interfaces ∧ Lists interfaces name

/-- At a packet on a known port, all clients have opened a topology that has it. -/
def AllOpened (lib : Packages κ) (before : List (ControllerEvent κ)) (event : ControllerEvent κ) :
    Prop :=
  ∀ pkt port name, event = .srPacketIn pkt port → lib.printRaises pkt = none →
    (run lib before).1.portToIntfname port = some name →
      ∀ conn ∈ (run lib before).1.srclients, Opened lib conn name before

/-! ## What a handler sends -/

section Handlers

variable {lib : Packages κ} {listener : SrServerListener κ} {event : ControllerEvent κ}
  {conn : κ} {m : VnsMessage}

/-- Why a message is sent. -/
inductive Causes (lib : Packages κ) (listener : SrServerListener κ) :
    ControllerEvent κ → κ → VnsMessage → Prop
  | newClient (conn : κ) (salt : Vector UInt8 20) :
    Causes lib listener (.newClient conn salt) conn (.vnsAuthRequest ⟨salt.toList⟩)
  | authReply (conn : κ) (reply : VnsAuthReply) :
    Causes lib listener (.recvMsg conn (some (.vnsAuthReply reply))) conn
      (.vnsAuthStatus (authStatus lib conn))
  | opening {interfaces : List VnsInterface} (conn : κ) (opening : VnsOpen) :
    listener.interfaces = some interfaces →
    Causes lib listener (.recvMsg conn (some (.vnsOpen opening))) conn
      (.vnsHardwareInfo ⟨interfaces⟩)
  | packetIn {name pkt : Bytes} {port : ℕ} {conn : κ} : lib.printRaises pkt = none →
    listener.portToIntfname port = some name → conn ∈ listener.srclients →
    Causes lib listener (.srPacketIn pkt port) conn (.vnsPacket ⟨name, pkt⟩)

section Sending

variable (accepts : ∀ m, lib.sendRaises (.ltMessage m) = none)

include accepts

theorem send_ltMessage (conn : κ) (m : VnsMessage) :
    SrServerListener.send lib conn (.ltMessage m) = .emit (.send conn (.ltMessage m)) := by
  rw [SrServerListener.send, accepts, unlessRaised]

theorem mem_sent_sendAll {m' : VnsMessage} {clients : List κ} :
    .send conn (.ltMessage m) ∈ (sendAll lib (.ltMessage m') clients).sent ↔
      conn ∈ clients ∧ m = m' := by
  induction clients with
  | nil => simp [sendAll]
  | cons client rest ih =>
    rw [sendAll, send_ltMessage accepts, Outcome.emit, Outcome.returned_bind, List.mem_append, ih]
    simp only [ControllerAction.send.injEq, Sendable.ltMessage.injEq, List.mem_cons]
    tauto

end Sending

/-- A text is no message. -/
theorem not_mem_sent_handleCloseMsg {conn' : κ} :
    .send conn (.ltMessage m) ∉ (handleCloseMsg lib conn').sent := by
  rw [handleCloseMsg, SrServerListener.send]
  cases lib.sendRaises (.str "Goodbyte!") <;> simp [unlessRaised, Outcome.emit]

section Events

variable (accepts : ∀ m, lib.sendRaises (.ltMessage m) = none)

include accepts

theorem mem_sent_srPacketIn_iff {pkt : Bytes} {port : ℕ} :
    .send conn (.ltMessage m) ∈ (listener.handle lib (.srPacketIn pkt port)).2.sent ↔
      Causes lib listener (.srPacketIn pkt port) conn m := by
  rw [handle, handleSrPacketIn]
  cases known : listener.portToIntfname port with
  | none =>
    refine iff_of_false List.not_mem_nil ?_
    rintro (_ | _ | _ | ⟨_, named, _⟩)
    rw [known] at named
    cases named
  | some name =>
    cases prints : lib.printRaises pkt with
    | some why =>
      refine iff_of_false List.not_mem_nil ?_
      rintro (_ | _ | _ | ⟨printed, _, _⟩)
      rw [prints] at printed
      cases printed
    | none =>
      dsimp only [unlessRaised, broadcast]
      rw [mem_sent_sendAll accepts]
      constructor
      · rintro ⟨listed, rfl⟩
        exact .packetIn prints known listed
      · rintro (_ | _ | _ | ⟨_, named, listed⟩)
        rw [known] at named
        cases named
        exact ⟨listed, rfl⟩

theorem mem_sent_openMsg_iff {conn' : κ} {opening : VnsOpen} :
    .send conn (.ltMessage m) ∈ (listener.handleOpenMsg lib conn').sent ↔
      Causes lib listener (.recvMsg conn' (some (.vnsOpen opening))) conn m := by
  rw [handleOpenMsg]
  cases announced : listener.interfaces with
  | none =>
    refine iff_of_false List.not_mem_nil ?_
    rintro (_ | _ | ⟨_, _, known⟩ | _)
    rw [announced] at known
    cases known
  | some interfaces =>
    dsimp only [tryExcept]
    rw [send_ltMessage accepts]
    constructor
    · intro sends
      cases List.mem_singleton.mp sends
      exact .opening conn opening announced
    · rintro (_ | _ | ⟨_, _, known⟩ | _)
      rw [announced] at known
      cases known
      exact List.mem_singleton_self _

theorem mem_sent_recvMsg_iff {conn' : κ} {vnsMsg : Option VnsMessage} :
    .send conn (.ltMessage m) ∈ (listener.handleRecvMsg lib conn' vnsMsg).sent ↔
      Causes lib listener (.recvMsg conn' vnsMsg) conn m := by
  cases vnsMsg with
  | none => exact iff_of_false not_mem_sent_handleCloseMsg (by rintro ⟨⟩)
  | some vnsMsg =>
    cases vnsMsg with
    | vnsAuthReply reply =>
      rw [handleRecvMsg, handleAuthReply, send_ltMessage accepts]
      constructor
      · intro sends
        cases List.mem_singleton.mp sends
        exact .authReply conn reply
      · rintro ⟨⟩
        exact List.mem_singleton_self _
    | vnsOpen opening => exact mem_sent_openMsg_iff accepts
    | vnsClose m => exact iff_of_false not_mem_sent_handleCloseMsg (by rintro ⟨⟩)
    | vnsPacket packet =>
      refine iff_of_false ?_ (by rintro ⟨⟩)
      rw [handleRecvMsg, handlePacketMsg]
      cases listener.intfnameToPort packet.intfName with
      | none => exact List.not_mem_nil
      | some port =>
        intro sends
        cases List.mem_singleton.mp sends
    | _ => exact iff_of_false List.not_mem_nil (by rintro ⟨⟩)

/-- A handler sends a message for one of four causes. -/
theorem mem_sent_handle_iff :
    .send conn (.ltMessage m) ∈ (listener.handle lib event).2.sent ↔
      Causes lib listener event conn m := by
  cases event with
  | routerInfo event =>
    have silent : (listener.handleRouterInfo event).2.sent = [] := by
      rw [handleRouterInfo]
      split <;> rfl
    refine iff_of_false ?_ (by rintro ⟨⟩)
    rw [handle, silent]
    exact List.not_mem_nil
  | srPacketIn pkt port => exact mem_sent_srPacketIn_iff accepts
  | newClient conn' salt =>
    rw [handle, handleNewClient, send_ltMessage accepts]
    constructor
    · intro sends
      cases List.mem_singleton.mp sends
      exact .newClient conn salt
    · rintro ⟨⟩
      exact List.mem_singleton_self _
  | clientDisconnected conn' =>
    refine iff_of_false ?_ (by rintro ⟨⟩)
    intro sends
    cases List.mem_singleton.mp sends
  | recvMsg conn' vnsMsg => exact mem_sent_recvMsg_iff accepts

end Events

end Handlers

/-! ## Runs -/

section Runs

variable {lib : Packages κ} {events : List (ControllerEvent κ)} {conn : κ} {name : Bytes}

theorem run_concat (events : List (ControllerEvent κ)) (event : ControllerEvent κ) :
    run lib (events ++ [event]) = (((run lib events).1.handle lib event).1,
      (run lib events).2 ++ ((run lib events).1.handle lib event).2.sent) := by
  rw [run, List.foldl_append]
  rfl

variable (accepts : ∀ m, lib.sendRaises (.ltMessage m) = none)

include accepts

/-- What has been sent had its cause. -/
theorem mem_run_iff {m : VnsMessage} (events : List (ControllerEvent κ)) :
    .send conn (.ltMessage m) ∈ (run lib events).2 ↔
      Occurs (fun before event => Causes lib (run lib before).1 event conn m) events := by
  refine occurs_iff (fun events => .send conn (.ltMessage m) ∈ (run lib events).2)
    List.not_mem_nil (fun events event => ?_) events
  rw [run_concat, List.mem_append, mem_sent_handle_iff accepts]

/-- A client was told of an interface if it asked when this was announced. -/
theorem told_iff_opened : Told (run lib events).2 conn name ↔ Opened lib conn name events := by
  constructor
  · rintro ⟨interfaces, sends, lists⟩
    obtain ⟨before, event, after, split, causes⟩ := (mem_run_iff accepts events).mp sends
    cases causes with
    | opening _ opening announced =>
      exact ⟨before, _, after, split, _, rfl, trivial, interfaces, announced, lists⟩
  · rintro ⟨before, _, after, split, vnsMsg, rfl, opens, interfaces, announced, lists⟩
    refine ⟨interfaces, (mem_run_iff accepts events).mpr ⟨before, _, after, split, ?_⟩, lists⟩
    match vnsMsg, opens with
    | some (.vnsOpen opening), _ => exact .opening conn opening announced

/-- The entries that an event adds are in order if and only if all clients have opened a
topology that has the port of the event. -/
theorem justified_handle_iff (event : ControllerEvent κ) :
    Justified (fun before action => TellsFirst ((run lib events).2 ++ before) action)
        ((run lib events).1.handle lib event).2.sent ↔ AllOpened lib events event := by
  -- An event that sends packets sends no hardware message, so all is in the record before it.
  have same : ∀ before ⊆ ((run lib events).1.handle lib event).2.sent,
      ∀ action ∈ ((run lib events).1.handle lib event).2.sent,
        (TellsFirst ((run lib events).2 ++ before) action ↔
          TellsFirst (run lib events).2 action) := by
    intro before within action listed
    constructor
    · rintro tells conn packet rfl
      obtain ⟨interfaces, sends, lists⟩ := tells conn packet rfl
      rcases List.mem_append.mp sends with early | late
      · exact ⟨interfaces, early, lists⟩
      · cases (mem_sent_handle_iff accepts).mp listed with
        | packetIn _ _ _ => cases (mem_sent_handle_iff accepts).mp (within late)
    · intro tells conn packet sent
      obtain ⟨interfaces, sends, lists⟩ := tells conn packet sent
      exact ⟨interfaces, List.mem_append_left _ sends, lists⟩
  rw [justified_iff_forall_mem same]
  constructor
  · rintro all pkt port name rfl prints known conn listed
    rw [← told_iff_opened accepts]
    exact all _ ((mem_sent_handle_iff accepts).mpr (.packetIn prints known listed)) conn _ rfl
  · rintro all action listed conn packet rfl
    cases (mem_sent_handle_iff accepts).mp listed with
    | packetIn prints known member =>
      exact (told_iff_opened accepts).mpr (all _ _ _ rfl prints known conn member)

/-- Where packets come behind hardware messages, none disturbs a handshake. -/
theorem ofHandshake_of_justified {m : VnsMessage} (told : Justified TellsFirst (run lib events).2)
    (unopened : ∀ vnsMsg, IsOpen vnsMsg → .recvMsg conn vnsMsg ∉ events)
    (sends : .send conn (.ltMessage m) ∈ (run lib events).2) : OfHandshake m := by
  have notOpened (name : Bytes) : ¬ Told (run lib events).2 conn name := by
    rw [told_iff_opened accepts]
    rintro ⟨before, _, after, rfl, vnsMsg, rfl, opens, -⟩
    exact unopened vnsMsg opens (List.mem_append_right _ List.mem_cons_self)
  obtain ⟨before, event, after, rfl, causes⟩ := (mem_run_iff accepts events).mp sends
  cases causes with
  | newClient _ _ => trivial
  | authReply _ _ => trivial
  | opening _ opening _ =>
    exact absurd (List.mem_append_right _ List.mem_cons_self) (unopened _ trivial)
  | packetIn _ _ _ =>
    obtain ⟨first, later, split⟩ := List.append_of_mem sends
    obtain ⟨interfaces, informs, lists⟩ := told first _ later split conn _ rfl
    refine absurd ⟨interfaces, ?_, lists⟩ (notOpened _)
    rw [split]
    exact List.mem_append_left _ informs

/-- Packets are in order if and only if at every packet all clients have opened a topology
that has its port. -/
theorem packetsInOrder_iff (events : List (ControllerEvent κ)) :
    PacketsInOrder lib events ↔ Justified (AllOpened lib) events := by
  have told_iff (events : List (ControllerEvent κ)) :
      Justified TellsFirst (run lib events).2 ↔ Justified (AllOpened lib) events := by
    refine justified_iff (fun events => (run lib events).2) rfl (fun events event => ?_)
      events
    rw [run_concat, justified_append, justified_handle_iff accepts]
  rw [← told_iff]
  constructor
  · exact PacketsInOrder.told
  · refine fun told => ⟨told, ?_⟩
    rintro before after rfl conn unopened m sends
    rw [told_iff, justified_append, ← told_iff] at told
    exact ofHandshake_of_justified accepts told.1 unopened sends

end Runs

/-- A packet behind the first message ends the handshake of the router. -/
theorem handshake_of_packet (session : Session) (network : Network) (hosts : ℕ → Host)
    (sr : SrInstance) {socket : Socket} {request packet : Bytes} {later : List Bytes}
    (unbroken : socket.Unbroken) (frames : ∀ m ∈ request :: packet :: later, IsFrame m)
    (carries : socket.stream = (request :: packet :: later).flatten)
    (isPacket : be32 (mType.get packet) = vnsPacket) (rounds : ℕ) :
    (∀ message, .sendOpen message ∉
      (srConnectToServer session network hosts sr socket rounds).sent) ∧
    ∀ sr' ret, (srConnectToServer session network hosts sr socket rounds).Returns (sr', ret) →
      ret = -1 := by
  have safe :=
    (srConnectToServer_spec session network hosts sr unbroken frames carries).always rounds
  have silent : ∀ message, .sendOpen message ∉
      (srConnectToServer session network hosts sr socket rounds).sent := by
    intro message sends
    obtain ⟨_, status, _, split, -, -, isStatus, -⟩ := safe.opens message sends
    cases split
    rw [isPacket] at isStatus
    exact absurd isStatus (by decide)
  exact ⟨silent, (safe.otherwise silent).2⟩

section Sample

/-- Connections take messages and nothing else, and every frame can be printed. -/
def samplePackages : Packages ℕ where
  sendRaises := fun m => match m with
    | .ltMessage _ => none
    | .str _ => some .foreign
  printRaises := fun _ => none
  connText := fun _ => []

/-- The switch announces the port 1 as `eth1`, with the addresses `"10.0.1.1"` and
`"4:0:0:0:1:1"`. -/
def announcement : RouterInfo where
  info := [(eth1.chars, ⟨[49, 48, 46, 48, 46, 49, 46, 49],
    [52, 58, 48, 58, 48, 58, 48, 58, 49, 58, 49], [], 1⟩)]
  distinct := List.nodup_singleton _

/-- A client connects and opens a topology, and then a frame comes. -/
def orderlyEvents : List (ControllerEvent ℕ) :=
  [.routerInfo announcement, .newClient 0 (.replicate 20 7),
    .recvMsg 0 (some (.vnsAuthReply ⟨[], []⟩)),
    .recvMsg 0 (some (.vnsOpen ⟨0, [], [], []⟩)), .srPacketIn [1, 2] 1]

/-- The frame comes right after the client has connected. -/
def hastyEvents : List (ControllerEvent ℕ) :=
  [.routerInfo announcement, .newClient 0 (.replicate 20 7), .srPacketIn [1, 2] 1]

theorem packetsInOrder_iff_orderlyEvents : PacketsInOrder samplePackages orderlyEvents := by
  refine (packetsInOrder_iff (fun _ => rfl) _).mpr ?_
  rintro before _ after split pkt port name rfl - known conn listed
  -- The frame is the last of the events.
  rcases before with _ | ⟨_, _ | ⟨_, _ | ⟨_, _ | ⟨_, _ | ⟨_, before⟩⟩⟩⟩⟩
  · cases split
  · cases split
  · cases split
  · cases split
  · cases split
    cases known
    cases List.mem_singleton.mp listed
    exact ⟨orderlyEvents.take 3, _, [], rfl, _, rfl, trivial, _, rfl, _, List.mem_singleton_self _,
      rfl⟩
  · simp [orderlyEvents] at split

theorem not_packetsInOrder_hastyEvents : ¬ PacketsInOrder samplePackages hastyEvents := by
  intro order
  obtain ⟨interfaces, sends, -⟩ := order.told
    [.send 0 (.ltMessage (.vnsAuthRequest ⟨List.replicate 20 7⟩))] _ [] rfl 0
    ⟨eth1.chars, [1, 2]⟩ rfl
  cases List.mem_singleton.mp sends

end Sample

end SimpleRouter
