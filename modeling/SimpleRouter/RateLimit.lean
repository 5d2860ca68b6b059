/-
# The rate of ARP requests

An ARP request for a pending request is sent by `handle_arpreq` alone, which runs when a
packet has joined the request and when the timer sweeps. Whichever of the two comes, the
fields `sent` and `times_sent` of the request say when it was last asked and how often.

So over any run, one pending request is asked at most five times, at least a second
apart, always for its own address.
-/

import SimpleRouter.CacheSafety

namespace SimpleRouter

open Buffers Effects Machine

variable {sr : SrInstance} {h : History} {c : Config RouterOp RouterOp.Resp RouterState}
  {cache cache' : SrArpcache} {now : ℤ} {rounds arpreq : ℕ}

/-! ## What a history says of a request -/

/-- The request that a step handles, and the clock reading it sees. -/
def handled (entry : RouterEntry) : Option (ℕ × ℤ) :=
  match entry.what with
  | .op m (.handleArpreq arpreq) _ => some (arpreq, m.now)
  | .move (.sweep m) => match entry.before.timer with
    | .sweeping (some walker) => some (walker, m.now)
    | _ => none
  | _ => none

/-- The ARP requests among what a step sends. -/
def arpRequests (entry : RouterEntry) : List SentFrame :=
  entry.sent.filter fun frame => frame.sender = .sendArpRequest

/-- The clock readings of the ARP requests a step sends for the request. -/
def askedBy (arpreq : ℕ) (entry : RouterEntry) : List ℤ :=
  match handled entry with
  | some (walker, now) => if walker = arpreq then (arpRequests entry).map fun _ => now else []
  | none => []

/-- The clock readings of all ARP requests sent for the request, the latest first. -/
def asked (arpreq : ℕ) : History → List ℤ
  | [] => []
  | entry :: earlier => askedBy arpreq entry ++ asked arpreq earlier

/-- After the history, the request has been asked as often as its counter says, at most
five times and not twice within a second, and always rightly. -/
structure RateLimited (sr : SrInstance) (h : History) (cache : SrArpcache) (arpreq : ℕ) : Prop where
  atMostFive : (asked arpreq h).length ≤ 5
  apart : (asked arpreq h).Pairwise fun later earlier => later - earlier ≥ 1
  counted : ∀ req, cache.requestAt arpreq = some req → req.timesSent = (asked arpreq h).length
  /-- It asks for the address of the request on an interface recorded with a packet that
  waits on it. -/
  target : ∀ entry ∈ h, ∀ now, handled entry = some (arpreq, now) → ∀ frame ∈ arpRequests entry,
    ∃ req, entry.before.cache.requestAt arpreq = some req ∧ arTip.get frame.buf = req.ip ∧
      ∃ packet ∈ req.packets, frame.iface = packet.iface
  /-- A call that asks returns, so that it is in the history. -/
  recorded : ∀ m : Moment, ∀ frame ∈ (handleArpreq sr m.now m.rounds cache arpreq).sent,
    frame.sender = .sendArpRequest →
    ∃ cache', (handleArpreq sr m.now m.rounds cache arpreq).Returns cache'

/-! ## One call of `handle_arpreq` -/

/-- A call that returns finds the request too early or asks once. A request that is given
up is reported for ever. -/
theorem handleArpreq_returned {keeps : Ip → SrPacket → Prop} (inv : CacheInv sr keeps cache)
    (returns : (handleArpreq sr now rounds cache arpreq).Returns cache') :
    ∃ req, cache.requestAt arpreq = some req ∧
      (cache' = cache ∧ (handleArpreq sr now rounds cache arpreq).sent = [] ∨
        req.Due now ∧ ¬ req.Exhausted ∧ cache' = markSent now cache arpreq ∧
          ∃ packet ∈ req.packets, ∃ byeface, (handleArpreq sr now rounds cache arpreq).sent =
            [⟨.sendArpRequest, arpRequestFrame byeface req.ip, packet.iface⟩]) := by
  obtain ⟨req, found, early | given | again⟩ := handleArpreq_cases returns
  · refine ⟨req, found, .inl ⟨early.2, ?_⟩⟩
    rw [handleArpreq_of_early found early.1]
    rfl
  · exact absurd given.2.2.1 (inv.occupied req (mem_of_requestAt found))
  · obtain ⟨due, notYet, some, marked⟩ := again
    obtain ⟨walker, rest, waits⟩ := List.exists_cons_of_ne_nil some
    have listed : walker ∈ req.packets := waits ▸ List.mem_cons_self
    have waiting := inv.waiting req (mem_of_requestAt found) walker listed
    obtain ⟨byeface, route, -⟩ := waiting.shost
    refine ⟨req, found, .inr ⟨due, notYet, marked, walker, listed, byeface, ?_⟩⟩
    rw [handleArpreq_of_again found due notYet waits, sendArpRequest_eq waiting.long route,
      waiting.dst]
    rfl

/-- A call that asks returns. -/
theorem returns_of_asks {keeps : Ip → SrPacket → Prop} (inv : CacheInv sr keeps cache)
    {frame : SentFrame} (sent : frame ∈ (handleArpreq sr now rounds cache arpreq).sent)
    (asks : frame.sender = .sendArpRequest) :
    ∃ cache', (handleArpreq sr now rounds cache arpreq).Returns cache' := by
  obtain ⟨req, walker, rest, found, waits, due, how⟩ := sent_handleArpreq_cases sent
  have waiting := inv.waiting req (mem_of_requestAt found) walker (waits ▸ List.mem_cons_self)
  obtain ⟨iface, route, -⟩ := waiting.shost
  rcases how with ⟨again, -⟩ | ⟨-, reported⟩
  · refine ⟨markSent now cache arpreq, ?_⟩
    rw [handleArpreq_of_again found due again waits, sendArpRequest_eq waiting.long route]
    rfl
  · -- A report is no ARP request.
    obtain ⟨-, k, -, rfl⟩ := mem_sent_hostUnreachableLoop route reported
    cases asks

/-! ## The invariant of a run -/

/-- What the two fields of a pending request say of the history, and what the history
says of every number: that of a request which is no longer on the queue as well. -/
structure RateInv (h : History) (cache : SrArpcache) : Prop where
  counted : ∀ req ∈ cache.requests, req.timesSent = (asked req.addr h).length
  latest : ∀ req ∈ cache.requests, ∀ time ∈ asked req.addr h, time ≤ req.sent
  atMostFive : ∀ arpreq, (asked arpreq h).length ≤ 5
  apart : ∀ arpreq, (asked arpreq h).Pairwise fun later earlier => later - earlier ≥ 1
  unborn : ∀ arpreq, cache.nextAddr ≤ arpreq → asked arpreq h = []

theorem rateInv_initially : RateInv [] srArpcacheInit where
  counted _ listed := nomatch listed
  latest _ listed := nomatch listed
  atMostFive _ := Nat.zero_le 5
  apart _ := .nil
  unborn _ _ := rfl

/-- A step that handles no request asks for none. -/
theorem asked_of_none {entry : RouterEntry} (idle : handled entry = none) (arpreq : ℕ) :
    asked arpreq (entry :: h) = asked arpreq h := by
  rw [asked, askedBy, idle]
  rfl

/-- What a step asks for the request it handles, and for the others. -/
theorem asked_of_handled {entry : RouterEntry} {walker : ℕ}
    (handles : handled entry = some (walker, now))
    (arpreq : ℕ) : asked arpreq (entry :: h) =
      if arpreq = walker then ((arpRequests entry).map fun _ => now) ++ asked arpreq h
      else asked arpreq h := by
  rw [asked, askedBy, handles]
  by_cases same : arpreq = walker
  · rw [if_pos same]
    exact congrArg (· ++ _) (if_pos same.symm)
  · rw [if_neg same]
    exact congrArg (· ++ _) (if_neg (Ne.symm same))

/-- Steps that only take requests off the queue keep the invariant. -/
theorem RateInv.of_subset (inv : RateInv h cache) {entry : RouterEntry}
    (idle : handled entry = none)
    (sub : cache'.requests ⊆ cache.requests) (next : cache'.nextAddr = cache.nextAddr) :
    RateInv (entry :: h) cache' := by
  constructor <;> simp only [asked_of_none idle]
  case counted => exact fun req listed => inv.counted req (sub listed)
  case latest => exact fun req listed => inv.latest req (sub listed)
  case atMostFive => exact inv.atMostFive
  case apart => exact inv.apart
  case unborn => exact fun arpreq above => inv.unborn arpreq (next ▸ above)

/-- Queueing a packet leaves the counters of the requests alone, and a new request has
never been asked. -/
theorem counters_queuereq {ip : Ip} {packet : Bytes} {iface : IfName} {req : SrArpreq}
    (listed : req ∈ (srArpcacheQueuereq cache ip packet iface).1.requests) :
    (∃ old ∈ cache.requests, req.addr = old.addr ∧ req.timesSent = old.timesSent ∧
      req.sent = old.sent) ∨ req.addr = cache.nextAddr ∧ req.timesSent = 0 := by
  by_cases empty : packet = []
  · unfold srArpcacheQueuereq at listed
    cases found : cache.requestFor ip with
    | some old =>
      simp only [found, empty, ne_eq, not_true_eq_false, if_false] at listed
      exact .inl ⟨req, listed, rfl, rfl, rfl⟩
    | none =>
      simp only
        [found, empty, ne_eq, not_true_eq_false, if_false, SrArpcache.allocRequest] at listed
      rcases List.mem_cons.mp listed with rfl | old
      · exact .inr ⟨rfl, rfl⟩
      · exact .inl ⟨req, old, rfl, rfl, rfl⟩
  · rcases (mem_queuereq empty).mp listed with rfl | ⟨old, -⟩
    · rcases joined_cases cache ip with joined | ⟨new, -⟩
      · exact .inl ⟨_, joined, rfl, rfl, rfl⟩
      · rw [new]
        exact .inr ⟨rfl, rfl⟩
    · exact .inl ⟨req, old, rfl, rfl, rfl⟩

theorem RateInv.queuereq (inv : RateInv h cache) {entry : RouterEntry} (idle : handled entry = none)
    {ip : Ip} {packet : Bytes} {iface : IfName} :
    RateInv (entry :: h) (srArpcacheQueuereq cache ip packet iface).1 := by
  have grows := (Descends.queuereq cache ip packet iface).grows
  have never := inv.unborn cache.nextAddr (Nat.le_refl _)
  constructor <;> simp only [asked_of_none idle]
  case counted =>
    intro req listed
    rcases counters_queuereq listed with ⟨old, member, addr, times, -⟩ | ⟨addr, times⟩
    · rw [addr, times]
      exact inv.counted old member
    · rw [addr, times, never]
      rfl
  case latest =>
    intro req listed
    rcases counters_queuereq listed with ⟨old, member, addr, -, sent⟩ | ⟨addr, -⟩
    · rw [addr, sent]
      exact inv.latest old member
    · rw [addr, never]
      exact fun _ nothing => nomatch nothing
  case atMostFive => exact inv.atMostFive
  case apart => exact inv.apart
  case unborn => exact fun arpreq above => inv.unborn arpreq (Nat.le_trans grows above)

/-- Handling a request that is too early asks nothing. -/
theorem RateInv.early (inv : RateInv h cache) {entry : RouterEntry}
    (handles : handled entry = some (arpreq, now)) (silent : entry.sent = []) :
    RateInv (entry :: h) cache := by
  have quiet : arpRequests entry = [] := by rw [arpRequests, silent]; rfl
  have same (walker : ℕ) : asked walker (entry :: h) = asked walker h := by
    rw [asked_of_handled handles, quiet]
    exact ite_self _
  constructor <;> simp only [same]
  case counted => exact inv.counted
  case latest => exact inv.latest
  case atMostFive => exact inv.atMostFive
  case apart => exact inv.apart
  case unborn => exact inv.unborn

/-- A request that is sent counts for the request it is sent for. -/
theorem asked_of_asks {entry : RouterEntry} (handles : handled entry = some (arpreq, now))
    {frame : SentFrame} (asks : frame.sender = .sendArpRequest) (sends : entry.sent = [frame])
    (walker : ℕ) : asked walker (entry :: h) =
      if walker = arpreq then now :: asked walker h else asked walker h := by
  have once : arpRequests entry = [frame] := by
    rw [arpRequests, sends, List.filter_cons_of_pos (by simpa using asks), List.filter_nil]
  rw [asked_of_handled handles, once]
  by_cases same : walker = arpreq
  · rw [if_pos same, if_pos same, same]
    rfl
  · rw [if_neg same, if_neg same]

/-- Asking once more counts, and comes at least a second after the last time. -/
theorem RateInv.again (inv : RateInv h cache) {entry : RouterEntry}
    (handles : handled entry = some (arpreq, now)) {req : SrArpreq}
    (found : cache.requestAt arpreq = some req) (due : req.Due now) (notYet : ¬ req.Exhausted)
    {frame : SentFrame} (asks : frame.sender = .sendArpRequest) (sends : entry.sent = [frame]) :
    RateInv (entry :: h) (markSent now cache arpreq) := by
  have listed := mem_of_requestAt found
  have here : req.addr = arpreq := addr_of_requestAt found
  have more (walker : ℕ) := asked_of_asks handles asks sends walker (h := h)
  -- Every earlier reading is at most the one in `sent`, and the request is due.
  have count : (asked arpreq h).length < 5 := by
    rw [← here, ← inv.counted req listed]
    exact Nat.lt_of_not_le notYet
  have before : ∀ time ∈ asked arpreq h, now - time ≥ 1 := by
    intro time earlier
    have bound := inv.latest req listed time (here.symm ▸ earlier)
    have second : now - req.sent ≥ 1 := due
    omega
  constructor
  case counted =>
    intro req' listed'
    rw [more]
    rcases Keyed.mem_update.mp listed' with ⟨old, member, same, rfl⟩ | ⟨member, other⟩
    · rw [if_pos same]
      exact congrArg (· + 1) (inv.counted old member)
    · rw [if_neg other]
      exact inv.counted req' member
  case latest =>
    intro req' listed' time
    rw [more]
    rcases Keyed.mem_update.mp listed' with ⟨old, member, same, rfl⟩ | ⟨member, other⟩
    · rw [if_pos same]
      intro earlier
      rcases List.mem_cons.mp earlier with rfl | old'
      · exact Int.le_refl _
      · have := before time (same ▸ old')
        show time ≤ now
        omega
    · rw [if_neg other]
      exact inv.latest req' member time
  case atMostFive =>
    intro walker
    rw [more]
    split
    case isTrue same => exact same ▸ count
    case isFalse => exact inv.atMostFive walker
  case apart =>
    intro walker
    rw [more]
    split
    case isTrue same => exact List.pairwise_cons.mpr ⟨same ▸ before, inv.apart walker⟩
    case isFalse => exact inv.apart walker
  case unborn =>
    intro walker above
    have other : walker ≠ arpreq := by
      rintro rfl
      exact absurd (cache.fresh req listed) (Nat.not_lt_of_le (here ▸ above))
    rw [more, if_neg other]
    exact inv.unborn walker above

/-- What a step that handles a request records. -/
structure Handles (sr : SrInstance) (entry : RouterEntry) (arpreq : ℕ) (now : ℤ) (rounds : ℕ)
    (cache' : SrArpcache) : Prop where
  request : handled entry = some (arpreq, now)
  sent : entry.sent = (handleArpreq sr now rounds entry.before.cache arpreq).sent
  returns : (handleArpreq sr now rounds entry.before.cache arpreq).Returns cache'

/-- A step that handles a request keeps the invariant. -/
theorem RateInv.handle {keeps : Ip → SrPacket → Prop} {entry : RouterEntry}
    (inv : RateInv h entry.before.cache) (cacheInv : CacheInv sr keeps entry.before.cache)
    (handles : Handles sr entry arpreq now rounds cache') : RateInv (entry :: h) cache' := by
  obtain ⟨req, found, ⟨rfl, silent⟩ | ⟨due, notYet, rfl, packet, -, byeface, sends⟩⟩ :=
    handleArpreq_returned cacheInv handles.returns
  · exact inv.early handles.request (handles.sent.trans silent)
  · exact inv.again handles.request found due notYet rfl (handles.sent.trans sends)

/-- A step of a run handles a request, or it handles none and leaves the counters. -/
theorem step_cases {entry : RouterEntry} (runs : Runs sr (entry :: h) c) :
    (∃ arpreq now rounds, Handles sr entry arpreq now rounds c.state.cache) ∨
      handled entry = none ∧ ((c.state.cache.requests ⊆ entry.before.cache.requests ∧
          c.state.cache.nextAddr = entry.before.cache.nextAddr) ∨
        ∃ ip packet iface,
          c.state.cache = (srArpcacheQueuereq entry.before.cache ip packet iface).1) := by
  cases runs with
  | start label runs => exact .inr ⟨rfl, .inl ⟨List.Subset.refl _, rfl⟩⟩
  | @op h s s' o next r m runs ready returns =>
    have done := (exec_returns_iff.mp returns).1
    have unchanged (same : s'.cache = s.cache) :
        s'.cache.requests ⊆ s.cache.requests ∧ s'.cache.nextAddr = s.cache.nextAddr := by
      rw [same]
      exact ⟨List.Subset.refl _, rfl⟩
    cases o with
    | lookup ip => exact .inr ⟨rfl, .inl (unchanged (returns_lookup done).1)⟩
    | insert mac ip =>
      have entered : s'.cache = _ := (returns_insert done).1
      refine .inr ⟨rfl, .inl ?_⟩
      rw [entered]
      exact ⟨(Keyed.unlink_sublist ip _).subset, rfl⟩
    | queuereq ip packet iface =>
      exact .inr ⟨rfl, .inr ⟨ip, packet, iface, (returns_queuereq done).1⟩⟩
    | handleArpreq arpreq =>
      refine .inl ⟨arpreq, m.now, m.rounds, rfl, ?_, returns_handleArpreq done⟩
      exact (Outcome.sent_bind_pure _).trans (Outcome.sent_bind_pure _)
    | send frame => exact .inr ⟨rfl, .inl (unchanged (returns_send done))⟩
    | stop why => exact r.elim
  | @move h s s' p out k runs available returns =>
    cases k with
    | tick curtime =>
      obtain ⟨-, rfl⟩ := timerMove_tick available
      cases returns
      exact .inr ⟨rfl, .inl ⟨List.Subset.refl _, rfl⟩⟩
    | sweep m =>
      obtain ⟨walker, here, rfl⟩ := timerMove_sweep available
      obtain ⟨walker', here', handled⟩ := returns_timerMove_sweep available returns
      obtain rfl : walker = walker' := by
        rw [here] at here'
        cases here'
        rfl
      refine .inl ⟨walker, m.now, m.rounds, ?_, ?_, handled⟩
      · rw [SimpleRouter.handled]
        simp only [here]
      · exact (Outcome.sent_bind_pure _).trans sent_sweepRound
    | release =>
      obtain ⟨-, rfl⟩ := timerMove_release available
      cases returns
      exact .inr ⟨rfl, .inl ⟨List.Subset.refl _, rfl⟩⟩

theorem rateInv_of_runs (runs : Runs sr h c) : RateInv h c.state.cache := by
  induction h generalizing c with
  | nil =>
    cases runs
    exact rateInv_initially
  | cons entry h ih =>
    obtain ⟨c', same, before⟩ := Recorded.tail runs
    have inv := ih before
    have cacheInv := cacheInv_of_reachable (Runs.reachable before)
    rw [same] at inv cacheInv
    rcases step_cases runs with ⟨arpreq, now, rounds, handles⟩ | ⟨idle, ⟨sub, next⟩ | queued⟩
    · exact inv.handle cacheInv handles
    · exact inv.of_subset idle sub next
    · obtain ⟨ip, packet, iface, queued⟩ := queued
      rw [queued]
      exact inv.queuereq idle

/-- Whatever a run has asked, it has asked rightly. -/
theorem target_of_runs (runs : Runs sr h c) {entry : RouterEntry} (listed : entry ∈ h)
    (handles : handled entry = some (arpreq, now)) {frame : SentFrame}
    (asks : frame ∈ arpRequests entry) :
    ∃ req, entry.before.cache.requestAt arpreq = some req ∧ arTip.get frame.buf = req.ip ∧
      ∃ packet ∈ req.packets, frame.iface = packet.iface := by
  induction h generalizing c with
  | nil => cases listed
  | cons latest h ih =>
    obtain ⟨c', same, before⟩ := Recorded.tail runs
    rcases List.mem_cons.mp listed with rfl | earlier
    · have cacheInv := cacheInv_of_reachable (Runs.reachable before)
      rw [same] at cacheInv
      rcases step_cases runs with ⟨arpreq', now', rounds, step⟩ | ⟨idle, -⟩
      · obtain ⟨rfl, rfl⟩ := Prod.mk.inj (Option.some.inj (step.request.symm.trans handles))
        obtain ⟨req, found, ⟨-, silent⟩ | ⟨-, -, -, packet, member, byeface, sends⟩⟩ :=
          handleArpreq_returned cacheInv step.returns
        · rw [arpRequests, step.sent, silent] at asks
          cases asks
        · rw [arpRequests, step.sent, sends] at asks
          have sent := List.mem_singleton.mp (List.mem_filter.mp asks).1
          refine ⟨req, found, ?_, packet, member, ?_⟩
          · rw [sent, arTip_arpRequestFrame]
          · rw [sent]
      · rw [idle] at handles
        cases handles
    · exact ih before earlier

/-- **The rate of ARP requests.** After every run every request, whether it is still
pending or not, has been asked as the limit has it. -/
theorem rateLimited_of_runs (runs : Runs sr h c) (arpreq : ℕ) :
    RateLimited sr h c.state.cache arpreq := by
  have inv := rateInv_of_runs runs
  have cacheInv := cacheInv_of_reachable (Runs.reachable runs)
  constructor
  case atMostFive => exact inv.atMostFive arpreq
  case apart => exact inv.apart arpreq
  case counted =>
    intro req found
    rw [inv.counted req (mem_of_requestAt found), addr_of_requestAt found]
  case target => exact fun entry listed now handles frame asks =>
    target_of_runs runs listed handles asks
  case recorded => exact fun m frame sent asks => returns_of_asks cacheInv sent asks

/-- The ping is queued at second 100, and the timer asks again at second 101. -/
@[irreducible] def pingAsked : History × RouterState :=
  (chronicle sampleInstance [.run (clientPing, eth3) ⟨100, 0⟩, .move (.tick 101),
    .move (.sweep ⟨101, 0⟩), .move .release]).getD ([], initially)

theorem runs_pingAsked : Runs sampleInstance pingAsked.1 ⟨pingAsked.2, .done ()⟩ := by
  unfold pingAsked
  exact runs_of_chronicle (by decide +kernel) _

theorem rateLimited_pingAsked :
    asked 0 pingAsked.1 = [101, 100] ∧
      RateLimited sampleInstance pingAsked.1 pingAsked.2.cache 0 :=
  ⟨by decide +kernel, rateLimited_of_runs runs_pingAsked 0⟩

end SimpleRouter
