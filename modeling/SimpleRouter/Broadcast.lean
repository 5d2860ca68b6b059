/-
# Frames and the clients that are there

A frame of a known port goes to every client on the list of the controller. A client is put on
the list when it connects and never taken from it, whatever becomes of its connection. The list
should hold the clients whose connections are up, each once.

So a frame reaches them, and nobody else, if and only if all who ever connected did so once and
are still there. A frame that cannot be printed reaches nobody.
-/

import SimpleRouter.PacketOrder

namespace SimpleRouter

open Effects Precedence SrServerListener

variable {κ : Type} {lib : Packages κ} {conn : κ}

/-! ## What is asked of the code -/

/-- The connection is lost, or the controller closes it. -/
def Ends (lib : Packages κ) (conn : κ) (before : List (ControllerEvent κ))
    (event : ControllerEvent κ) : Prop :=
  event = .clientDisconnected conn ∨
    .loseConnection conn ∈ ((run lib before).1.handle lib event).2.sent

/-- The client has connected, and its connection has not ended since. -/
def Live (lib : Packages κ) (conn : κ) (events : List (ControllerEvent κ)) : Prop :=
  ∃ before salt after, events = before ++ .newClient conn salt :: after ∧
    Justified (fun since event => ¬ Ends lib conn (before ++ .newClient conn salt :: since) event)
      after

/-- The messages that are sent to a client. -/
def sentTo [DecidableEq κ] (conn : κ) (log : List (ControllerAction κ)) : List Sendable :=
  log.filterMap fun action => match action with
    | .send conn' m => if conn' = conn then some m else none
    | _ => none

/-- A frame of a known port is sent to every client that is there, once, and to no other. -/
def ReachesLive [DecidableEq κ] (lib : Packages κ) (before : List (ControllerEvent κ))
    (event : ControllerEvent κ) : Prop :=
  ∀ pkt port name, event = .srPacketIn pkt port →
    (run lib before).1.portToIntfname port = some name →
    ∀ conn,
      (Live lib conn before →
        sentTo conn ((run lib before).1.handle lib event).2.sent =
          [.ltMessage (.vnsPacket ⟨name, pkt⟩)]) ∧
      (¬ Live lib conn before → sentTo conn ((run lib before).1.handle lib event).2.sent = [])

/-! ## When the code does it -/

/-- The clients that have connected, each as often as it did. -/
def joined (events : List (ControllerEvent κ)) : List κ :=
  events.filterMap fun event => match event with
    | .newClient conn _ => some conn
    | _ => none

/-- All who ever connected did so once and are still there. -/
structure AllStay (lib : Packages κ) (events : List (ControllerEvent κ)) : Prop where
  once : (joined events).Nodup
  stay : ∀ conn ∈ joined events, Live lib conn events

/-- At a frame of a known port, all clients have stayed if the frame can be printed, and none is
there if it cannot. -/
def StayFor (lib : Packages κ) (before : List (ControllerEvent κ)) (event : ControllerEvent κ) :
    Prop :=
  ∀ pkt port name, event = .srPacketIn pkt port →
    (run lib before).1.portToIntfname port = some name →
    (lib.printRaises pkt = none → AllStay lib before) ∧
    (lib.printRaises pkt ≠ none → ∀ conn, ¬ Live lib conn before)

/-! ## The clients that are there -/

/-- A client is there after an event if it connects, or if it was there and its connection does
not end. -/
theorem live_concat {events : List (ControllerEvent κ)} {event : ControllerEvent κ} :
    Live lib conn (events ++ [event]) ↔
      (∃ salt, event = .newClient conn salt) ∨
        Live lib conn events ∧ ¬ Ends lib conn events event := by
  constructor
  · rintro ⟨before, salt, after, split, stays⟩
    rcases List.eq_nil_or_concat after with rfl | ⟨after, last, rfl⟩
    · have same := List.append_inj_right' split rfl
      cases same
      exact .inl ⟨salt, rfl⟩
    · rw [List.concat_eq_append] at split stays
      rw [← List.cons_append, ← List.append_assoc] at split
      obtain ⟨rfl, same⟩ := List.append_inj' split rfl
      cases same
      rw [justified_concat] at stays
      exact .inr ⟨⟨before, salt, after, rfl, stays.1⟩, stays.2⟩
  · rintro (⟨salt, rfl⟩ | ⟨⟨before, salt, after, rfl, stays⟩, goesOn⟩)
    · exact ⟨events, salt, [], rfl, justified_nil⟩
    · exact ⟨before, salt, after ++ [event], by simp, justified_concat.mpr ⟨stays, goesOn⟩⟩

theorem Live.mem_joined {events : List (ControllerEvent κ)} (live : Live lib conn events) :
    conn ∈ joined events := by
  obtain ⟨before, salt, after, rfl, -⟩ := live
  simp [joined]

/-! ## The list of clients -/

theorem srclients_mapPorts (listener : SrServerListener κ) (entries : List (Bytes × PortInfo)) :
    (listener.mapPorts entries).1.srclients = listener.srclients := by
  induction entries generalizing listener with
  | nil => rfl
  | cons first rest ih =>
    obtain ⟨intf, entry⟩ := first
    rw [mapPorts]
    cases newInterface intf entry with
    | error why => rfl
    | ok interface => exact ih (listener.mapPort intf entry.port)

theorem srclients_handle (listener : SrServerListener κ) (event : ControllerEvent κ) :
    (listener.handle lib event).1.srclients = listener.srclients ++ joined [event] := by
  cases event with
  | routerInfo event =>
    obtain ⟨interfaces, announced⟩ := exists_handleRouterInfo_eq listener event
    rw [handle, announced]
    exact (srclients_mapPorts listener event.info).trans (List.append_nil _).symm
  | newClient conn salt => rfl
  | _ => exact (List.append_nil _).symm

/-- The list holds all who ever connected. -/
theorem srclients_run (events : List (ControllerEvent κ)) :
    (run lib events).1.srclients = joined events := by
  induction events using List.reverseRecOn with
  | nil => rfl
  | append_singleton events event ih =>
    rw [run_concat, srclients_handle, ih, joined, joined, joined, List.filterMap_append]

/-- All have stayed if and only if those who are there are on the list once, and the others not
at all. -/
theorem allStay_iff_count [DecidableEq κ] {events : List (ControllerEvent κ)} :
    AllStay lib events ↔ ∀ conn, (Live lib conn events → (joined events).count conn = 1) ∧
      (¬ Live lib conn events → (joined events).count conn = 0) := by
  constructor
  · rintro ⟨once, stay⟩ conn
    refine ⟨fun live => List.count_eq_one_of_mem once live.mem_joined, fun gone => ?_⟩
    exact List.count_eq_zero.mpr fun listed => gone (stay conn listed)
  · intro counts
    constructor
    case once =>
      refine List.nodup_iff_count_le_one.mpr fun conn => ?_
      by_cases live : Live lib conn events
      · exact ((counts conn).1 live).le
      · exact ((counts conn).2 live).trans_le (Nat.zero_le 1)
    case stay =>
      intro conn listed
      by_contra gone
      exact List.count_eq_zero.mp ((counts conn).2 gone) listed

/-! ## What a frame sends -/

section Frames

variable [DecidableEq κ] (accepts : ∀ m, lib.sendRaises (.ltMessage m) = none)

include accepts

/-- A client gets a message as often as it is on the list. -/
theorem sentTo_sendAll (m : VnsMessage) (clients : List κ) :
    sentTo conn (sendAll lib (.ltMessage m) clients).sent =
      List.replicate (clients.count conn) (.ltMessage m) := by
  induction clients with
  | nil => rfl
  | cons client rest ih =>
    rw [sendAll, send_ltMessage accepts, Outcome.emit, Outcome.returned_bind]
    change sentTo conn (.send client (.ltMessage m) :: (sendAll lib (.ltMessage m) rest).sent) = _
    by_cases here : client = conn
    · subst here
      rw [List.count_cons_self, List.replicate_succ, ← ih]
      simp [sentTo]
    · rw [List.count_cons_of_ne (by simpa using here), ← ih]
      simp [sentTo, here]

theorem sentTo_srPacketIn {events : List (ControllerEvent κ)} {pkt name : Bytes} {port : ℕ}
    (known : (run lib events).1.portToIntfname port = some name) :
    sentTo conn ((run lib events).1.handle lib (.srPacketIn pkt port)).2.sent =
      if lib.printRaises pkt = none then
        List.replicate ((joined events).count conn) (.ltMessage (.vnsPacket ⟨name, pkt⟩))
      else [] := by
  rw [handle, handleSrPacketIn, known]
  cases lib.printRaises pkt with
  | none =>
    dsimp only [unlessRaised, broadcast]
    rw [sentTo_sendAll accepts, srclients_run, if_pos rfl]
  | some why => rfl

/-- A frame reaches the clients that are there if and only if all have stayed. -/
theorem reachesLive_iff (before : List (ControllerEvent κ)) (event : ControllerEvent κ) :
    ReachesLive lib before event ↔ StayFor lib before event := by
  have sent_iff {m : VnsMessage} {n : ℕ} :
      List.replicate n (Sendable.ltMessage m) = [.ltMessage m] ↔ n = 1 := by
    rw [← List.replicate_one, List.replicate_inj]
    tauto
  refine forall₅_congr fun pkt port name isFrame known => ?_
  subst isFrame
  simp only [sentTo_srPacketIn accepts known]
  by_cases prints : lib.printRaises pkt = none
  · simp only [if_pos prints, sent_iff, List.replicate_eq_nil_iff]
    rw [← allStay_iff_count]
    constructor
    · exact fun stay => ⟨fun _ => stay, fun raises => absurd prints raises⟩
    · exact fun stay => stay.1 prints
  · simp only [if_neg prints]
    constructor
    · intro reaches
      refine ⟨fun printed => absurd printed prints, fun _ conn live => ?_⟩
      cases (reaches conn).1 live
    · intro none conn
      exact ⟨fun live => absurd live (none.2 prints conn), fun _ => trivial⟩

/-- Every frame reaches the clients that are there if and only if all have stayed at each. -/
theorem reachesLive_throughout_iff (events : List (ControllerEvent κ)) :
    Justified (ReachesLive lib) events ↔ Justified (StayFor lib) events :=
  forall₄_congr fun before event _ _ => reachesLive_iff accepts before event

end Frames

section Sample

/-- Two clients connect, and then a frame comes. -/
def stayingEvents : List (ControllerEvent ℕ) :=
  [.routerInfo announcement, .newClient 0 (.replicate 20 7), .newClient 1 (.replicate 20 8),
    .srPacketIn [1, 2] 1]

/-- The client is gone when the frame comes. -/
def leavingEvents : List (ControllerEvent ℕ) :=
  [.routerInfo announcement, .newClient 0 (.replicate 20 7), .clientDisconnected 0,
    .srPacketIn [1, 2] 1]

theorem reachesLive_stayingEvents : Justified (ReachesLive samplePackages) stayingEvents := by
  refine (reachesLive_throughout_iff (fun _ => rfl) _).mpr ?_
  have first :
      Live samplePackages 0 (stayingEvents.take 2 ++ [.newClient 1 (.replicate 20 8)]) := by
    refine live_concat.mpr (.inr ⟨?_, ?_⟩)
    · exact ⟨[.routerInfo announcement], .replicate 20 7, [], rfl, justified_nil⟩
    · rintro (leaves | closed)
      · cases leaves
      · exact absurd closed (by decide)
  have second : Live samplePackages 1 (stayingEvents.take 2 ++ [.newClient 1 (.replicate 20 8)]) :=
    live_concat.mpr (.inl ⟨_, rfl⟩)
  have stay : AllStay samplePackages (stayingEvents.take 3) := by
    refine ⟨by decide, ?_⟩
    rintro conn listed
    rcases List.mem_pair.mp listed with rfl | rfl
    · exact first
    · exact second
  rintro before _ after split pkt port name rfl -
  -- The frame is the last of the events.
  rcases before with _ | ⟨_, _ | ⟨_, _ | ⟨_, _ | ⟨_, before⟩⟩⟩⟩
  · cases split
  · cases split
  · cases split
  · cases split
    exact ⟨fun _ => stay, fun raises => absurd rfl raises⟩
  · simp [stayingEvents] at split

theorem not_reachesLive_leavingEvents : ¬ Justified (ReachesLive samplePackages) leavingEvents := by
  intro reaches
  have gone : ¬ Live samplePackages 0 (leavingEvents.take 3) := by
    intro live
    rcases live_concat.mp (show Live samplePackages 0
      (leavingEvents.take 2 ++ [.clientDisconnected 0]) from live) with ⟨_, connects⟩ | ⟨_, goesOn⟩
    · cases connects
    · exact goesOn (.inl rfl)
  have sent := (reaches (leavingEvents.take 3) _ [] rfl _ _ _ rfl rfl 0).2 gone
  exact absurd sent (by decide)

end Sample

end SimpleRouter
