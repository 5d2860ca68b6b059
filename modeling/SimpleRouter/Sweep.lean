/-
# The sweep of the request queue

One call of `sr_arpcache_sweepreqs`, compared with what the pseudocode in
`sr_arpcache.h` asks of it. The sweep does its whole job as long as no request is
to be given up. The first request that is due after five unanswered ones is never
left: the loop over its packets does not return, so the requests behind it are not
handled and the timer thread keeps the lock of the cache.
-/

import SimpleRouter.CacheSafety

namespace SimpleRouter

open Buffers Effects Machine

variable {sr : SrInstance} {now : ℤ} {rounds : ℕ} {cache cache' : SrArpcache}

/-! ## What a sweep is for -/

/-- A pending request after a sweep, or nothing when it is given up. -/
def sweptRequest (now : ℤ) (req : SrArpreq) : Option SrArpreq :=
  if ¬ req.Due now then some req
  else if req.Exhausted then none
  else some { req with sent := now, timesSent := req.timesSent + 1 }

/-- The frame is an ARP request for the address of the pending request, on the
interface of one of its packets. -/
def AsksFor (sr : SrInstance) (req : SrArpreq) (frame : SentFrame) : Prop :=
  ∃ packet ∈ req.packets, ∃ iface, srGetInterface sr packet.iface = some iface ∧
    frame = ⟨.sendArpRequest, arpRequestFrame iface req.ip, packet.iface⟩

/-- The frame is an ICMP host unreachable about the waiting packet. -/
def ReportsUnreachable (packet : SrPacket) (frame : SentFrame) : Prop :=
  ∃ iface, frame.buf = icmpErrorFrame iface 3 1 packet.buf

/-- What a sweep sends about one request. -/
def SweepSends (sr : SrInstance) (now : ℤ) (req : SrArpreq) (frames : List SentFrame) : Prop :=
  if ¬ req.Due now then frames = []
  else if req.Exhausted then List.Forall₂ ReportsUnreachable req.packets frames
  else ∃ frame, AsksFor sr req frame ∧ frames = [frame]

/-- The sweep returns and has treated every request once, in the order of the queue. -/
def SweepsAll (sr : SrInstance) (now : ℤ) (cache : SrArpcache) (sweep : Action SrArpcache) : Prop :=
  ∃ cache', sweep.Returns cache' ∧
    cache'.requests = cache.requests.filterMap (sweptRequest now) ∧
    ∃ frames, List.Forall₂ (SweepSends sr now) cache.requests frames ∧ sweep.sent = frames.flatten

/-! ## One round -/

/-- What the invariant says of a request that the sweep comes to. -/
def Askable (sr : SrInstance) (req : SrArpreq) : Prop :=
  ∃ walker rest iface, req.packets = walker :: rest ∧ srGetInterface sr walker.iface = some iface ∧
    34 ≤ walker.buf.length ∧ ipDst.get walker.buf = req.ip

theorem CacheInv.askable {keeps : Ip → SrPacket → Prop} (inv : CacheInv sr keeps cache)
    {req : SrArpreq} (listed : req ∈ cache.requests) : Askable sr req := by
  obtain ⟨walker, rest, waits⟩ := List.exists_cons_of_ne_nil (inv.occupied req listed)
  have waiting := inv.waiting req listed walker (waits ▸ List.mem_cons_self)
  obtain ⟨iface, found, -⟩ := waiting.shost
  exact ⟨walker, rest, iface, waits, found, waiting.long, waiting.dst⟩

/-- The successor of a request, read after the request has been handled. -/
theorem nextRequest_eq {front back : List SrArpreq} {req : SrArpreq}
    (queue : cache.requests = front ++ req :: back) {walker : ℕ} (here : req.addr = walker) :
    nextRequest cache walker = pure (back.head?.map SrArpreq.addr) := by
  subst here
  have distinct := cache.distinct
  rw [queue] at distinct
  rw [nextRequest, queue, Keyed.after_append_cons distinct]

theorem requests_markSent (now : ℤ) {front back : List SrArpreq} {req : SrArpreq}
    (queue : cache.requests = front ++ req :: back) :
    (markSent now cache req.addr).requests =
      front ++ { req with sent := now, timesSent := req.timesSent + 1 } :: back := by
  have distinct := cache.distinct
  rw [queue] at distinct
  rw [← Keyed.update_append_cons (f := fun req : SrArpreq =>
    { req with sent := now, timesSent := req.timesSent + 1 }) distinct, ← queue]
  rfl

/-- A round at a request that is not given up treats it and moves on. -/
theorem sweepRound_eq {front back : List SrArpreq} {req : SrArpreq}
    (queue : cache.requests = front ++ req :: back) (askable : Askable sr req)
    (alive : ¬ (req.Due now ∧ req.Exhausted)) :
    ∃ frames cache' req', SweepSends sr now req frames ∧ sweptRequest now req = some req' ∧
      cache'.requests = front ++ req' :: back ∧
      sweepRound sr now rounds cache req.addr =
        .returned frames (cache', back.head?.map SrArpreq.addr) := by
  have found : cache.requestAt req.addr = some req := requestAt_of_mem (queue ▸ by simp)
  by_cases due : req.Due now
  · have again : ¬ req.Exhausted := fun exhausted => alive ⟨due, exhausted⟩
    obtain ⟨walker, rest, iface, waits, route, long, dst⟩ := askable
    -- The address asked for is the destination of the first packet, which the request is for.
    have treated := requests_markSent now queue
    have asks : AsksFor sr req ⟨.sendArpRequest, arpRequestFrame iface req.ip, walker.iface⟩ :=
      ⟨walker, waits ▸ List.mem_cons_self, iface, route, rfl⟩
    refine ⟨[⟨.sendArpRequest, arpRequestFrame iface req.ip, walker.iface⟩],
      markSent now cache req.addr, _, ?_, ?_, treated, ?_⟩
    · rw [SweepSends, if_neg (not_not.mpr due), if_neg again]
      exact ⟨_, asks, rfl⟩
    · rw [sweptRequest, if_neg (not_not.mpr due), if_neg again]
    · have next : nextRequest (markSent now cache req.addr) req.addr =
          pure (back.head?.map SrArpreq.addr) := nextRequest_eq treated rfl
      have handled : handleArpreq sr now rounds cache req.addr =
          .returned [⟨.sendArpRequest, arpRequestFrame iface req.ip, walker.iface⟩]
            (markSent now cache req.addr) := by
        rw [handleArpreq_of_again found due again waits, sendArpRequest_eq long route, dst]
        rfl
      rw [sweepRound, handled, Outcome.returned_bind]
      simp only [next, pure_bind]
      rfl
  · refine ⟨[], cache, req, ?_, ?_, queue, ?_⟩
    · rw [SweepSends, if_pos due]
    · rw [sweptRequest, if_pos due]
    · rw [sweepRound, handleArpreq_of_early found due, pure_bind, nextRequest_eq queue rfl,
        pure_bind]
      rfl

/-! ## Whole sweeps -/

/-- From any request on, the sweep treats what is left of the queue, provided none
of it is given up. -/
theorem sweepLoop_eq (rounds : ℕ) (front : List SrArpreq) {back : List SrArpreq}
    (queue : cache.requests = front ++ back)
    (askable : ∀ req ∈ back, Askable sr req) (alive : ∀ req ∈ back, ¬ (req.Due now ∧ req.Exhausted))
    {left : ℕ} (enough : back.length ≤ left) :
    ∃ frames cache', List.Forall₂ (SweepSends sr now) back frames ∧
      cache'.requests = front ++ back.filterMap (sweptRequest now) ∧
      sweepLoop sr now rounds left cache (back.head?.map SrArpreq.addr) =
        .returned frames.flatten cache' := by
  -- Induction on the requests that are left. Those before the walker have been
  -- treated and only grow by the one that the next round treats.
  induction back generalizing front cache left with
  | nil =>
    refine ⟨[], cache, .nil, queue, ?_⟩
    cases left <;> rfl
  | cons req back ih =>
    obtain ⟨left, rfl⟩ : ∃ n, left = n + 1 :=
      Nat.exists_eq_add_of_le' (Nat.le_trans (by simp) enough)
    obtain ⟨sends, cache₁, req', report, swept, treated, round⟩ :=
      sweepRound_eq queue (askable req List.mem_cons_self)
        (alive req List.mem_cons_self)
    have queue₁ : cache₁.requests = (front ++ [req']) ++ back := by simpa using treated
    obtain ⟨frames, cache', reports, rest, sweep⟩ := ih _ queue₁
      (fun later member => askable later (.tail _ member))
      (fun later member => alive later (.tail _ member)) (by simpa using enough)
    refine ⟨sends :: frames, cache', .cons report reports, ?_, ?_⟩
    · rw [rest, List.filterMap_cons_some swept, List.append_assoc]
      rfl
    · rw [List.head?_cons, Option.map_some, sweepLoop, round, Outcome.returned_bind]
      simp only [sweep]
      rfl

/-- A sweep that returns has given up no request. -/
theorem alive_of_sweepLoop (front : List SrArpreq) {back : List SrArpreq}
    (queue : cache.requests = front ++ back)
    (occupied : ∀ req ∈ back, req.packets ≠ []) {left : ℕ}
    (returns : (sweepLoop sr now rounds left cache (back.head?.map SrArpreq.addr)).Returns cache') :
    ∀ req ∈ back, ¬ (req.Due now ∧ req.Exhausted) := by
  induction back generalizing front cache left with
  | nil => simp
  | cons req back ih =>
    cases left with
    | zero => cases returns
    | succ left =>
      obtain ⟨⟨cache₁, next⟩, round, rest⟩ := Outcome.returns_bind.mp returns
      obtain ⟨cache₂, handled, moved⟩ := Outcome.returns_bind.mp round
      obtain ⟨next', successor, same⟩ := Outcome.returns_bind.mp moved
      cases same
      have found : cache.requestAt req.addr = some req := requestAt_of_mem (queue ▸ by simp)
      obtain ⟨req', found', how⟩ := handleArpreq_cases handled
      -- The round has returned, so its request was left alone or asked for again.
      cases found.symm.trans found'
      have treated : ¬ (req.Due now ∧ req.Exhausted) ∧
          ∃ req', req'.addr = req.addr ∧ cache₁.requests = front ++ req' :: back := by
        rcases how with ⟨early, rfl⟩ | ⟨-, -, empty, -⟩ | ⟨-, again, -, rfl⟩
        · exact ⟨fun ⟨due, _⟩ => early due, req, rfl, queue⟩
        · exact absurd empty (occupied req List.mem_cons_self)
        · exact ⟨fun ⟨_, exhausted⟩ => again exhausted,
            { req with sent := now, timesSent := req.timesSent + 1 }, rfl,
            requests_markSent now queue⟩
      obtain ⟨first, req', addr, queue'⟩ := treated
      rw [nextRequest_eq queue' addr] at successor
      cases successor
      have queue'' : cache₁.requests = (front ++ [req']) ++ back := by simpa using queue'
      -- The request that has been treated joins the front, and the rest of the queue is as it was.
      have later := ih _ queue'' (fun later member => occupied later (.tail _ member)) rest
      intro pending member
      rcases List.mem_cons.mp member with rfl | inBack
      · exact first
      · exact later pending inBack

/-- A sweep does not return while a request with packets is to be given up. -/
theorem not_sweepsAll_of_exhausted (occupied : ∀ req ∈ cache.requests, req.packets ≠ [])
    {req : SrArpreq} (listed : req ∈ cache.requests) (due : req.Due now)
    (exhausted : req.Exhausted) :
    ¬ SweepsAll sr now cache (srArpcacheSweepreqs sr now rounds cache) := by
  rintro ⟨cache', returns, -⟩
  exact alive_of_sweepLoop [] rfl occupied returns req listed ⟨due, exhausted⟩

/-- **Sweeping the queue.** In a reachable state the sweep does its whole job if and
only if no pending request is due after five unanswered ARP requests. -/
theorem sweepsAll_iff {c : Config RouterOp RouterOp.Resp RouterState} (reachable : Reachable sr c)
    (now : ℤ) :
    (∃ rounds, SweepsAll sr now c.state.cache
        (srArpcacheSweepreqs sr now rounds c.state.cache)) ↔
      ∀ req ∈ c.state.cache.requests, ¬ (req.Due now ∧ req.Exhausted) := by
  have inv := cacheInv_of_reachable reachable
  constructor
  · rintro ⟨rounds, sweeps⟩ req listed ⟨due, exhausted⟩
    exact not_sweepsAll_of_exhausted inv.occupied listed due exhausted sweeps
  · intro alive
    -- As many rounds as there are requests are enough.
    obtain ⟨frames, cache', reports, rest, sweep⟩ :=
      sweepLoop_eq c.state.cache.requests.length [] rfl
        (fun req listed => inv.askable listed) alive (Nat.le_refl _)
    refine ⟨c.state.cache.requests.length, cache', ?_, rest, frames, reports, ?_⟩
    · rw [srArpcacheSweepreqs, SrArpcache.firstRequest, sweep]
      rfl
    · rw [srArpcacheSweepreqs, SrArpcache.firstRequest, sweep]
      rfl

theorem sweepsAll_pingQueued :
    ∃ rounds, SweepsAll sampleInstance 101 pingQueued
      (srArpcacheSweepreqs sampleInstance 101 rounds pingQueued) :=
  (sweepsAll_iff reachable_pingQueued 101).mpr (by decide +kernel)

/-- The cache after the ping has been asked for five times, once a second. -/
@[irreducible] def pingUnanswered : SrArpcache :=
  (reactAll sampleInstance
    [(⟨100, 0⟩, .frame clientPing eth3), (⟨101, 1⟩, .timer), (⟨102, 1⟩, .timer), (⟨103, 1⟩, .timer),
      (⟨104, 1⟩, .timer)] srArpcacheInit).getD srArpcacheInit

theorem reachable_pingUnanswered :
    Reachable sampleInstance ⟨⟨pingUnanswered, .sleeping⟩, .done ()⟩ := by
  unfold pingUnanswered
  exact reachable_of_reactAll (Outcome.returns_getD (by decide +kernel) _)

/-- The sixth sweep never ends. -/
theorem not_sweepsAll_pingUnanswered :
    Reachable sampleInstance ⟨⟨pingUnanswered, .sleeping⟩, .done ()⟩ ∧
      ∀ rounds, ¬ SweepsAll sampleInstance 105 pingUnanswered
        (srArpcacheSweepreqs sampleInstance 105 rounds pingUnanswered) := by
  refine ⟨reachable_pingUnanswered, fun rounds => ?_⟩
  have pending : pingUnanswered.requests ≠ [] := by decide +kernel
  obtain ⟨req, rest, queue⟩ := List.exists_cons_of_ne_nil pending
  have all : ∀ req ∈ pingUnanswered.requests, req.packets ≠ [] ∧ req.Due 105 ∧ req.Exhausted := by
    decide +kernel
  have listed : req ∈ pingUnanswered.requests := queue ▸ List.mem_cons_self
  exact not_sweepsAll_of_exhausted (fun req listed => (all req listed).1) listed
    (all req listed).2.1 (all req listed).2.2

end SimpleRouter
