/-
# The ARP cache over whole runs

Nothing is demanded of the frames and nothing of the waiting packets beyond the
invariant of the cache, so every frame is admitted and the invariant holds in every
configuration that any interleaving of the main thread with the timer reaches.
-/

import SimpleRouter.Contract

namespace SimpleRouter

open Buffers Effects Machine

variable {sr : SrInstance}

/-- The contract that demands nothing. -/
def permissive (sr : SrInstance) : Contract sr where
  keeps _ _ := True
  sends _ := True
  flush _ _ _ := trivial
  ask _ _ _ := trivial
  report _ _ _ _ _ := trivial

theorem permissive_admits {s : RouterState} {packet : Bytes} {interface : IfName} :
    (permissive sr).Admits s packet interface where
  arpRequest _ _ _ _ _ := trivial
  arpReply _ _ _ := .inr fun _ => trivial
  icmp _ _ _ _ _ _ _ _ := trivial
  transport _ _ _ _ _ := trivial
  alive _ _ _ _ _ := ⟨fun _ _ => trivial, fun _ => trivial⟩
  expired _ _ _ _ _ _ _ := ⟨trivial, fun _ _ => trivial, fun _ => trivial⟩

/-- The invariant of the ARP cache holds in every reachable configuration. -/
theorem cacheInv_of_reachable {c : Config RouterOp RouterOp.Resp RouterState}
    (reachable : Reachable sr c) : CacheInv sr (fun _ _ => True) c.state.cache :=
  (permissive sr).inv_of_reaches (fun _ _ _ _ _ _ => permissive_admits) reachable

/-- What the threads may assume of the ARP cache whenever they look at it. -/
structure ArpState (sr : SrInstance) (cache : SrArpcache) : Prop where
  /-- No two valid entries have the same IP. -/
  entries : UniqueEntries cache.entries
  /-- No two pending requests have the same IP. -/
  requests : (cache.requests.map SrArpreq.ip).Nodup
  /-- No IP has both a valid entry and a pending request. -/
  apart : ∀ ip, ¬ (cache.Resolved ip ∧ ∃ req ∈ cache.requests, req.ip = ip)
  /-- Every request has packets, all of them for its address and with the
  hardware address of their outgoing interface as their source. -/
  packets : ∀ req ∈ cache.requests, req.packets ≠ [] ∧ ∀ packet ∈ req.packets,
    ipDst.get packet.buf = req.ip ∧ ∃ iface, srGetInterface sr packet.iface = some iface ∧
      etherShost.get packet.buf = iface.addr

/-- **ARP state.** It holds in every configuration that any interleaving of the
main thread with the timer reaches. -/
theorem arpState_of_reachable {c : Config RouterOp RouterOp.Resp RouterState}
    (reachable : Reachable sr c) : ArpState sr c.state.cache := by
  have inv := cacheInv_of_reachable reachable
  constructor
  case entries => exact inv.unique
  case requests => exact inv.oneRequest
  case apart =>
    rintro ip ⟨resolved, req, listed, rfl⟩
    exact inv.unresolved req listed resolved
  case packets =>
    intro req listed
    refine ⟨inv.occupied req listed, fun packet member => ?_⟩
    have waiting := inv.waiting req listed packet member
    exact ⟨waiting.dst, waiting.shost⟩

/-- What serial handling of frames and timer ticks returns is reachable. -/
theorem reachable_of_reactAll {cache : SrArpcache} {inputs : List (Moment × Input)}
    (returns : (reactAll sr inputs srArpcacheInit).Returns cache) :
    Reachable sr ⟨⟨cache, .sleeping⟩, .done ()⟩ :=
  reaches_of_reactAll (fun _ _ _ _ _ => trivial) returns

/-- An echo request of the client to the first server, as it reaches the router. -/
def clientPing : Bytes :=
  sampleDatagram sampleEth3.addr clientMac 64 ipProtocolIcmp clientIp server1Ip echoRequest

/-- The cache after the ping has been queued at second `100`. -/
@[irreducible] def pingQueued : SrArpcache :=
  (reactAll sampleInstance [(⟨100, 0⟩, .frame clientPing eth3)] srArpcacheInit).getD srArpcacheInit

theorem reachable_pingQueued : Reachable sampleInstance ⟨⟨pingQueued, .sleeping⟩, .done ()⟩ := by
  unfold pingQueued
  exact reachable_of_reactAll (Outcome.returns_getD (by decide +kernel) _)

theorem arpState_pingQueued :
    pingQueued.requests.length = 1 ∧ ArpState sampleInstance pingQueued :=
  ⟨by decide +kernel, arpState_of_reachable reachable_pingQueued⟩

end SimpleRouter
