/-
# Handling pending ARP requests

`handle_arpreq` and `sr_arpcache_sweepreqs` of `sr_arpcache.c`. A request that is
due is either sent again or, after five times, given up.

Giving up walks the waiting packets with a loop that never advances its walker, so
the loop is modelled with a number of rounds it is granted: a computation that
returns for no number of rounds is one that does not return in C. What it sends
meanwhile it sends for every number of rounds.

The sweep reads the successor of a request after that request has been handled,
from memory that `sr_arpreq_destroy` may have freed.
-/

import SimpleRouter.ArpCache
import SimpleRouter.Frames

namespace SimpleRouter

open Buffers Effects

variable (sr : SrInstance)

/-- `difftime(now, arpreq->sent) >= 1.0`. -/
def SrArpreq.Due (now : ℤ) (req : SrArpreq) : Prop := now - req.sent ≥ 1

/-- `arpreq->times_sent >= 5`. -/
def SrArpreq.Exhausted (req : SrArpreq) : Prop := req.timesSent ≥ 5

instance (now : ℤ) (req : SrArpreq) : Decidable (req.Due now) := inferInstanceAs (Decidable (_ ≥ _))

instance (req : SrArpreq) : Decidable req.Exhausted := inferInstanceAs (Decidable (_ ≥ _))

/-- `while (walker)` of `handle_arpreq`, for a walker that is not null. The walker
never moves on, so every round reports the same packet, as the last round has
rewritten it. -/
def hostUnreachableLoop (iface : IfName) : ℕ → Bytes → Action Unit
  | 0, _ => Outcome.stop .running
  | rounds + 1, buf => do
    let buf ← sendIcmpError sr buf iface 3 1
    hostUnreachableLoop iface rounds buf

/-- The same loop from `walker = arpreq->packets`. -/
def reportUnreachable (rounds : ℕ) : List SrPacket → Action Unit
  | [] => pure ()
  | walker :: _ => hostUnreachableLoop sr walker.iface rounds walker.buf

/-- `handle_arpreq` at clock reading `now`. -/
def handleArpreq (now : ℤ) (rounds : ℕ) (cache : SrArpcache) (arpreq : ℕ) : Action SrArpcache :=
  match cache.requestAt arpreq with
  -- The caller holds the address of a request that has been destroyed.
  | none => fail .danglingRequest
  | some req =>
    if req.Due now then
      if req.Exhausted then do
        reportUnreachable sr rounds req.packets
        pure (srArpreqDestroy cache arpreq)
      else
        match req.packets with
        | [] => fail .nullPacket
        | walker :: _ => do
          sendArpRequest sr walker.buf walker.iface
          pure (markSent now cache arpreq)
    else pure cache

/-- The address `sr->cache.requests` holds. -/
def SrArpcache.firstRequest (cache : SrArpcache) : Option ℕ :=
  cache.requests.head?.map SrArpreq.addr

/-- `walker->next`, where reading a freed request is a fault. -/
def nextRequest (cache : SrArpcache) (walker : ℕ) : Action (Option ℕ) :=
  match Keyed.after SrArpreq.addr walker cache.requests with
  | some next => pure next
  | none => fail .danglingRequest

/-- One round of the sweep: handle the request, then move on. -/
def sweepRound (now : ℤ) (rounds : ℕ) (cache : SrArpcache) (walker : ℕ) :
    Action (SrArpcache × Option ℕ) := do
  let cache ← handleArpreq sr now rounds cache walker
  let next ← nextRequest cache walker
  pure (cache, next)

/-- `while (walker)` of `sr_arpcache_sweepreqs`. -/
def sweepLoop (now : ℤ) (rounds : ℕ) : ℕ → SrArpcache → Option ℕ → Action SrArpcache
  | _, cache, none => pure cache
  | 0, _, some _ => Outcome.stop .running
  | left + 1, cache, some walker => do
    let (cache, walker) ← sweepRound sr now rounds cache walker
    sweepLoop now rounds left cache walker

/-- `sr_arpcache_sweepreqs` at clock reading `now`. -/
def srArpcacheSweepreqs (now : ℤ) (rounds : ℕ) (cache : SrArpcache) : Action SrArpcache :=
  sweepLoop sr now rounds rounds cache cache.firstRequest

variable {sr} {now : ℤ} {rounds : ℕ} {cache cache' : SrArpcache} {arpreq : ℕ} {req : SrArpreq}
  {walker : SrPacket} {rest : List SrPacket} {iface : IfName} {buf : Bytes} {frame : SentFrame}

/-! ## The loop over the waiting packets -/

/-- The loop of `handle_arpreq` does not return. -/
theorem not_returns_hostUnreachableLoop (rounds : ℕ) (buf : Bytes) (u : Unit) :
    ¬ (hostUnreachableLoop sr iface rounds buf).Returns u := by
  induction rounds generalizing buf with
  | zero => exact fun returns => nomatch returns
  | succ rounds ih =>
    intro returns
    obtain ⟨buf', -, later⟩ := Outcome.returns_bind.mp returns
    exact ih buf' later

/-- The packet as `k` rounds of the loop have left it. -/
def rewritten (outboundIf : SrIf) (k : ℕ) (buf : Bytes) : Bytes :=
  (icmpErrorInbound outboundIf)^[k] buf

@[simp] theorem length_rewritten (outboundIf : SrIf) (k : ℕ) (buf : Bytes) :
    (rewritten outboundIf k buf).length = buf.length := by
  induction k generalizing buf with
  | zero => rfl
  | succ k ih =>
    rw [rewritten, Function.iterate_succ_apply]
    exact (ih _).trans (length_icmpErrorInbound _ _)

theorem shost_rewritten (outboundIf : SrIf) (k : ℕ) (buf : Bytes) :
    etherShost.get (rewritten outboundIf k buf) = etherShost.get buf := by
  induction k with
  | zero => rfl
  | succ k ih =>
    rw [rewritten, Function.iterate_succ_apply', shost_icmpErrorInbound]
    exact ih

/-- After the first round the packet comes from the router. -/
theorem src_rewritten_succ (long : 34 ≤ buf.length) (outboundIf : SrIf) (k : ℕ) :
    ipSrc.get (rewritten outboundIf (k + 1) buf) = outboundIf.ip := by
  rw [rewritten, Function.iterate_succ_apply']
  exact src_icmpErrorInbound outboundIf (long.trans (length_rewritten outboundIf k buf).ge)

/-- What the loop sends: in every round one host unreachable about the packet as
the rounds before have left it. -/
theorem sent_hostUnreachableLoop (long : 42 ≤ buf.length) {outboundIf : SrIf}
    (found : srGetInterface sr iface = some outboundIf) (rounds : ℕ) :
    (hostUnreachableLoop sr iface rounds buf).sent = (List.range rounds).map fun k =>
      ⟨.sendIcmpError, icmpErrorFrame outboundIf 3 1 (rewritten outboundIf k buf), iface⟩ := by
  induction rounds generalizing buf with
  | zero => rfl
  | succ rounds ih =>
    rw [hostUnreachableLoop, sendIcmpError_eq long found, Outcome.returned_bind,
      List.range_succ_eq_map, List.map_cons, List.map_map]
    -- The rounds that are left start from the packet as this one has rewritten it.
    rw [ih (by simpa using long)]
    rfl

/-- Everything the loop can send. About a packet that is too short it faults at once. -/
theorem mem_sent_hostUnreachableLoop {outboundIf : SrIf}
    (found : srGetInterface sr iface = some outboundIf)
    (sent : frame ∈ (hostUnreachableLoop sr iface rounds buf).sent) :
    42 ≤ buf.length ∧ ∃ k < rounds,
      frame =
        ⟨.sendIcmpError, icmpErrorFrame outboundIf 3 1 (rewritten outboundIf k buf), iface⟩ := by
  by_cases long : 42 ≤ buf.length
  · rw [sent_hostUnreachableLoop long found] at sent
    obtain ⟨k, below, rfl⟩ := List.mem_map.mp sent
    exact ⟨long, k, List.mem_range.mp below, rfl⟩
  · cases rounds with
    | zero => cases sent
    | succ rounds =>
      have unfit : ¬ (42 ≤ buf.length ∧ (srGetInterface sr iface).isSome) := fun fit => long fit.1
      have faults := (sendIcmpError_faults unfit 3 1).bind (hostUnreachableLoop sr iface rounds)
      rw [hostUnreachableLoop, faults.sent_eq_nil] at sent
      cases sent

/-! ## Handling one request -/

theorem handleArpreq_of_absent (gone : cache.requestAt arpreq = none) :
    handleArpreq sr now rounds cache arpreq = fail .danglingRequest := by
  rw [handleArpreq, gone]

/-- A request that was sent less than a second ago is left alone. -/
theorem handleArpreq_of_early (found : cache.requestAt arpreq = some req) (early : ¬ req.Due now) :
    handleArpreq sr now rounds cache arpreq = pure cache := by
  rw [handleArpreq, found]
  exact if_neg early

/-- A request that is due is sent again up to five times. -/
theorem handleArpreq_of_again (found : cache.requestAt arpreq = some req) (due : req.Due now)
    (again : ¬ req.Exhausted) (waiting : req.packets = walker :: rest) :
    handleArpreq sr now rounds cache arpreq = (do
      sendArpRequest sr walker.buf walker.iface
      pure (markSent now cache arpreq)) := by
  rw [handleArpreq, found]
  simp only [if_pos due, if_neg again, waiting]

/-- After five times it is given up. -/
theorem handleArpreq_of_exhausted (found : cache.requestAt arpreq = some req) (due : req.Due now)
    (exhausted : req.Exhausted) :
    handleArpreq sr now rounds cache arpreq = (do
      reportUnreachable sr rounds req.packets
      pure (srArpreqDestroy cache arpreq)) := by
  rw [handleArpreq, found]
  simp only [if_pos due, if_pos exhausted]

/-- Everything a call of `handle_arpreq` that returns can have done. -/
theorem handleArpreq_cases (returns : (handleArpreq sr now rounds cache arpreq).Returns cache') :
    ∃ req, cache.requestAt arpreq = some req ∧
      ((¬ req.Due now ∧ cache' = cache) ∨
        (req.Due now ∧ req.Exhausted ∧ req.packets = [] ∧ cache' = srArpreqDestroy cache arpreq) ∨
        (req.Due now ∧ ¬ req.Exhausted ∧ req.packets ≠ [] ∧
          cache' = markSent now cache arpreq)) := by
  cases found : cache.requestAt arpreq with
  | none =>
    rw [handleArpreq_of_absent found] at returns
    cases returns
  | some req =>
    refine ⟨req, rfl, ?_⟩
    by_cases due : req.Due now
    · by_cases exhausted : req.Exhausted
      · rw [handleArpreq_of_exhausted found due exhausted] at returns
        obtain ⟨_, reported, done⟩ := Outcome.returns_bind.mp returns
        cases done
        -- Only a request without packets is destroyed: any other is reported for ever.
        cases waiting : req.packets with
        | nil => exact .inr (.inl ⟨due, exhausted, rfl, rfl⟩)
        | cons walker rest =>
          rw [waiting] at reported
          exact absurd reported (not_returns_hostUnreachableLoop _ _ _)
      · cases waiting : req.packets with
        -- Without a packet there is nothing to read the address from.
        | nil =>
          rw [handleArpreq, found] at returns
          simp only [if_pos due, if_neg exhausted, waiting] at returns
          cases returns
        | cons walker rest =>
          rw [handleArpreq_of_again found due exhausted waiting] at returns
          obtain ⟨_, -, done⟩ := Outcome.returns_bind.mp returns
          cases done
          exact .inr (.inr ⟨due, exhausted, List.cons_ne_nil _ _, rfl⟩)
    · rw [handleArpreq_of_early found due] at returns
      cases returns
      exact .inl ⟨due, rfl⟩

/-- Everything `handle_arpreq` can send, whether or not it returns: it always
speaks of the packet that was queued last. -/
theorem sent_handleArpreq_cases (sent : frame ∈ (handleArpreq sr now rounds cache arpreq).sent) :
    ∃ req walker rest, cache.requestAt arpreq = some req ∧ req.packets = walker :: rest ∧
      req.Due now ∧
      ((¬ req.Exhausted ∧ frame ∈ (sendArpRequest sr walker.buf walker.iface).sent) ∨
        (req.Exhausted ∧
          frame ∈ (hostUnreachableLoop sr walker.iface rounds walker.buf).sent)) := by
  cases found : cache.requestAt arpreq with
  | none =>
    rw [handleArpreq_of_absent found] at sent
    cases sent
  | some req =>
    by_cases due : req.Due now
    · cases waiting : req.packets with
      | nil =>
        rw [handleArpreq, found] at sent
        by_cases exhausted : req.Exhausted <;>
          simp [due, exhausted, waiting, reportUnreachable, fail] at sent
      | cons walker rest =>
        refine ⟨req, walker, rest, rfl, waiting, due, ?_⟩
        by_cases exhausted : req.Exhausted
        · rw [handleArpreq_of_exhausted found due exhausted, waiting] at sent
          rcases Outcome.mem_sent_bind.mp sent with reported | ⟨_, -, nothing⟩
          · exact .inr ⟨exhausted, reported⟩
          · simp at nothing
        · rw [handleArpreq_of_again found due exhausted waiting] at sent
          rcases Outcome.mem_sent_bind.mp sent with asked | ⟨_, -, nothing⟩
          · exact .inl ⟨exhausted, asked⟩
          · simp at nothing
    · rw [handleArpreq_of_early found due] at sent
      simp at sent

end SimpleRouter
