/-
# The router and its timer

The main thread handles one frame after another. Between any two of its operations
the timer thread may move: expire entries, handle one pending request of its
sweep, or finish the sweep. The timer holds the lock of the cache from the expiry
to the end of the sweep, so the critical sections of the main thread wait for it;
a call of `handle_arpreq` in the main thread does not take the lock.

Frames may have any length and come in on any interface. A run in which nothing
interrupts anything can be computed, and what it reaches some interleaving reaches.
-/

import SimpleRouter.CacheInvariant
import SimpleRouter.Library.History
import SimpleRouter.Router

namespace SimpleRouter

open Buffers Effects Machine

/-! ## The machine -/

/-- Where the timer thread is: asleep, or sweeping with a walker. -/
inductive Timer
  | sleeping
  | sweeping (walker : Option ℕ)
  deriving DecidableEq

/-- The state the two threads share, and the position of the timer. -/
structure RouterState where
  cache : SrArpcache
  timer : Timer
  deriving DecidableEq

/-- The steps of the timer thread. -/
inductive TimerMove
  | tick (curtime : ℤ)
  | sweep (m : Moment)
  | release

/-- Operations that take the lock wait for a sweep to end. -/
def RouterOp.Ready : RouterOp → RouterState → Prop
  | .lookup _, s => s.timer = .sleeping
  | .insert _ _, s => s.timer = .sleeping
  | .queuereq _ _ _, s => s.timer = .sleeping
  | .handleArpreq _, _ => True
  | .send _, _ => True
  | .stop _, _ => True

instance : (o : RouterOp) → (s : RouterState) → Decidable (o.Ready s)
  | .lookup _, s => inferInstanceAs (Decidable (s.timer = .sleeping))
  | .insert _ _, s => inferInstanceAs (Decidable (s.timer = .sleeping))
  | .queuereq _ _ _, s => inferInstanceAs (Decidable (s.timer = .sleeping))
  | .handleArpreq _, _ => inferInstanceAs (Decidable True)
  | .send _, _ => inferInstanceAs (Decidable True)
  | .stop _, _ => inferInstanceAs (Decidable True)

/-- One step of `sr_arpcache_timeout`. -/
def timerMove (sr : SrInstance) : TimerMove → RouterState → Option (Action RouterState)
  | .tick curtime, ⟨cache, .sleeping⟩ =>
    some (pure ⟨expireEntries curtime cache, .sweeping cache.firstRequest⟩)
  | .sweep m, ⟨cache, .sweeping (some walker)⟩ => some do
    let (cache, next) ← sweepRound sr m.now m.rounds cache walker
    pure ⟨cache, .sweeping next⟩
  | .release, ⟨cache, .sweeping none⟩ => some (pure ⟨cache, .sleeping⟩)
  -- A sweep goes on to its end before anything expires again.
  | _, _ => none

/-- The router: its operations, its lock and its timer. -/
def router (sr : SrInstance) :
    Machine RouterOp RouterOp.Resp RouterState Moment TimerMove SentFrame Stop where
  exec m o s := do
    let (cache, answer) ← execOp sr m o s.cache
    pure ({ s with cache := cache }, answer)
  ready := RouterOp.Ready
  move := timerMove sr

/-- The router as it starts. -/
def initially : RouterState := ⟨srArpcacheInit, .sleeping⟩

/-- Handling a frame that meets the condition. -/
def handles (sr : SrInstance) (condition : RouterState → Bytes → IfName → Prop) (s : RouterState)
    (p : RouterProgram Unit) : Prop :=
  ∃ packet interface, condition s packet interface ∧ p = srHandlepacket sr packet interface

/-- Handling any frame, however long and wherever it arrives. -/
abbrev handlesAny (sr : SrInstance) : RouterState → RouterProgram Unit → Prop :=
  handles sr fun _ _ _ => True

/-- A configuration the router can be in after any frames and any timer moves. -/
def Reachable (sr : SrInstance) : Config RouterOp RouterOp.Resp RouterState → Prop :=
  (router sr).Reaches (handlesAny sr) ⟨initially, .done ()⟩

/-- A configuration it can be in from the moment a frame is accepted until the next one
is, with the timer moving meanwhile. -/
def Handling (sr : SrInstance) (s : RouterState) (packet : Bytes) (interface : IfName) :
    Config RouterOp RouterOp.Resp RouterState → Prop :=
  (router sr).Reaches (fun _ _ => False) ⟨s, srHandlepacket sr packet interface⟩

/-- What one step of the router was. A started program is named by the frame it handles
and the interface that came in by. -/
abbrev RouterStep := Happening RouterOp RouterOp.Resp Moment TimerMove (Bytes × IfName)

/-- One line of what the router has done. -/
abbrev RouterEntry :=
  Entry RouterOp RouterOp.Resp RouterState Moment TimerMove SentFrame (Bytes × IfName)

/-- What the router has done, the latest step first. -/
abbrev History := List RouterEntry

/-- A run of the router from its start: what it has done, and the configuration it is in. -/
def Runs (sr : SrInstance) : History → Config RouterOp RouterOp.Resp RouterState → Prop :=
  (router sr).Recorded (fun frame => srHandlepacket sr frame.1 frame.2) ⟨initially, .done ()⟩

variable {sr : SrInstance}

theorem handlesAny_iff {s : RouterState} {p : RouterProgram Unit} :
    handlesAny sr s p ↔ ∃ frame : Bytes × IfName, p = srHandlepacket sr frame.1 frame.2 := by
  constructor
  · rintro ⟨packet, interface, -, same⟩
    exact ⟨(packet, interface), same⟩
  · rintro ⟨frame, same⟩
    exact ⟨frame.1, frame.2, trivial, same⟩

/-- Runs lead to the reachable configurations. -/
theorem exists_runs_iff {c : Config RouterOp RouterOp.Resp RouterState} :
    (∃ h, Runs sr h c) ↔ Reachable sr c := by
  have same : handlesAny sr =
      fun _ p => ∃ frame : Bytes × IfName, p = srHandlepacket sr frame.1 frame.2 := by
    funext s p
    exact propext handlesAny_iff
  rw [Reachable, same]
  exact ⟨fun ⟨_, runs⟩ => runs.reaches, exists_recorded⟩

/-- The clock reading a step sees, if it looks at the clock. -/
def reading : RouterStep → Option ℤ
  | .start _ => none
  | .op m _ _ => some m.now
  | .move (.tick curtime) => some curtime
  | .move (.sweep m) => some m.now
  | .move .release => none

/-- The clock never goes back. -/
def ClockSteady (h : History) : Prop :=
  (h.filterMap fun entry => reading entry.what).Pairwise fun later earlier => earlier ≤ later

instance (h : History) : Decidable (ClockSteady h) :=
  inferInstanceAs (Decidable (List.Pairwise _ _))

theorem Runs.reachable {h : History} {c : Config RouterOp RouterOp.Resp RouterState}
    (runs : Runs sr h c) : Reachable sr c := exists_runs_iff.mp ⟨h, runs⟩

/-! ## Steps of the machine -/

section Steps

variable {m : Moment} {s s' : RouterState}

theorem exec_returns_iff {o : RouterOp} {r : o.Resp} : ((router sr).exec m o s).Returns (s', r) ↔
    (execOp sr m o s.cache).Returns (s'.cache, r) ∧ s'.timer = s.timer := by
  constructor
  · intro returns
    obtain ⟨⟨cache, answer⟩, first, done⟩ := Outcome.returns_bind.mp returns
    cases done
    exact ⟨first, rfl⟩
  · rintro ⟨first, same⟩
    refine Outcome.returns_bind.mpr ⟨(s'.cache, r), first, ?_⟩
    change Except.ok _ = _
    rw [← same]

theorem sent_exec {o : RouterOp} {frame : SentFrame} :
    frame ∈ ((router sr).exec m o s).sent ↔ frame ∈ (execOp sr m o s.cache).sent := by
  constructor
  · intro sent
    rcases Outcome.mem_sent_bind.mp sent with first | ⟨_, -, nothing⟩
    · exact first
    · simp at nothing
  · exact fun sent => Outcome.mem_sent_bind.mpr (.inl sent)

/-- What a round of the sweep that returns has done to the cache. -/
theorem sweepRound_returns {walker : ℕ} {cache cache' : SrArpcache} {next : Option ℕ}
    (returns : (sweepRound sr m.now m.rounds cache walker).Returns (cache', next)) :
    (handleArpreq sr m.now m.rounds cache walker).Returns cache' := by
  obtain ⟨_, handled, moved⟩ := Outcome.returns_bind.mp returns
  obtain ⟨_, -, done⟩ := Outcome.returns_bind.mp moved
  cases done
  exact handled

theorem sent_nextRequest {cache : SrArpcache} {walker : ℕ} :
    (nextRequest cache walker).sent = [] := by
  unfold nextRequest
  split <;> rfl

/-- A round of the sweep sends what handling its request sends. -/
theorem sent_sweepRound {walker : ℕ} {cache : SrArpcache} :
    (sweepRound sr m.now m.rounds cache walker).sent =
      (handleArpreq sr m.now m.rounds cache walker).sent := by
  refine Outcome.sent_bind_of_silent fun cache' => ?_
  exact (Outcome.sent_bind_pure _).trans sent_nextRequest

/-- A tick wakes the timer and expires entries. -/
theorem timerMove_tick {curtime : ℤ} {out : Action RouterState}
    (available : timerMove sr (.tick curtime) s = some out) : s.timer = .sleeping ∧
      out = pure ⟨expireEntries curtime s.cache, .sweeping s.cache.firstRequest⟩ := by
  obtain ⟨cache, timer⟩ := s
  cases timer with
  | sleeping =>
    cases available
    exact ⟨rfl, rfl⟩
  | sweeping walker => cases available

/-- A sweep handles the request its walker is at. -/
theorem timerMove_sweep {out : Action RouterState}
    (available : timerMove sr (.sweep m) s = some out) :
    ∃ walker, s.timer = .sweeping (some walker) ∧ out = (do
      let (cache, next) ← sweepRound sr m.now m.rounds s.cache walker
      pure ⟨cache, .sweeping next⟩) := by
  obtain ⟨cache, timer⟩ := s
  cases timer with
  | sleeping => cases available
  | sweeping walker =>
    cases walker with
    | none => cases available
    | some walker =>
      cases available
      exact ⟨walker, rfl, rfl⟩

/-- At the end of the queue the timer goes back to sleep. -/
theorem timerMove_release {out : Action RouterState}
    (available : timerMove sr .release s = some out) :
    s.timer = .sweeping none ∧ out = pure ⟨s.cache, .sleeping⟩ := by
  obtain ⟨cache, timer⟩ := s
  cases timer with
  | sleeping => cases available
  | sweeping walker =>
    cases walker with
    | none =>
      cases available
      exact ⟨rfl, rfl⟩
    | some walker => cases available

/-- The moves of the timer, told by what they do. -/
theorem timerMove_cases {k : TimerMove} {out : Action RouterState}
    (available : timerMove sr k s = some out) :
    (∃ curtime, out = pure ⟨expireEntries curtime s.cache, .sweeping s.cache.firstRequest⟩) ∨
      (∃ m : Moment, ∃ walker, out = (do
        let (cache, next) ← sweepRound sr m.now m.rounds s.cache walker
        pure ⟨cache, .sweeping next⟩)) ∨
      out = pure ⟨s.cache, .sleeping⟩ := by
  cases k with
  | tick curtime => exact .inl ⟨curtime, (timerMove_tick available).2⟩
  | sweep m =>
    obtain ⟨walker, -, same⟩ := timerMove_sweep available
    exact .inr (.inl ⟨m, walker, same⟩)
  | release => exact .inr (.inr (timerMove_release available).2)

/-- A round of the sweep that returns has handled the request the walker was at. -/
theorem returns_timerMove_sweep {out : Action RouterState}
    (available : timerMove sr (.sweep m) s = some out) (returns : out.Returns s') :
    ∃ walker, s.timer = .sweeping (some walker) ∧
      (handleArpreq sr m.now m.rounds s.cache walker).Returns s'.cache := by
  obtain ⟨walker, here, rfl⟩ := timerMove_sweep available
  obtain ⟨⟨cache', next⟩, swept, done⟩ := Outcome.returns_bind.mp returns
  cases done
  exact ⟨walker, here, sweepRound_returns swept⟩

/-- Everything a move of the timer can do to the cache. -/
theorem returns_timerMove {k : TimerMove} {out : Action RouterState}
    (available : timerMove sr k s = some out) (returns : out.Returns s') :
    (∃ curtime, s'.cache = expireEntries curtime s.cache) ∨ s'.cache = s.cache ∨
      ∃ m : Moment, ∃ walker, (handleArpreq sr m.now m.rounds s.cache walker).Returns s'.cache := by
  rcases timerMove_cases available with ⟨curtime, rfl⟩ | ⟨m, walker, rfl⟩ | rfl
  · cases returns
    exact .inl ⟨curtime, rfl⟩
  · obtain ⟨⟨cache', next⟩, swept, done⟩ := Outcome.returns_bind.mp returns
    cases done
    exact .inr (.inr ⟨m, walker, sweepRound_returns swept⟩)
  · cases returns
    exact .inr (.inl rfl)

/-- Everything a move of the timer can send. -/
theorem sent_timerMove {k : TimerMove} {out : Action RouterState} {frame : SentFrame}
    (available : timerMove sr k s = some out) (sent : frame ∈ out.sent) :
    ∃ m : Moment, ∃ walker, frame ∈ (handleArpreq sr m.now m.rounds s.cache walker).sent := by
  rcases timerMove_cases available with ⟨curtime, rfl⟩ | ⟨m, walker, rfl⟩ | rfl
  · cases sent
  · rcases Outcome.mem_sent_bind.mp sent with swept | ⟨_, -, nothing⟩
    · exact ⟨m, walker, sent_sweepRound ▸ swept⟩
    · simp at nothing
  · cases sent

/-- Every operation keeps the packets of the requests it leaves on the queue. -/
theorem descends_of_exec {o : RouterOp} {r : o.Resp}
    (returns : ((router sr).exec m o s).Returns (s', r)) :
    Descends s.cache s'.cache := by
  have done := (exec_returns_iff.mp returns).1
  cases o with
  | lookup ip => exact (returns_lookup done).1 ▸ Descends.refl _
  | insert mac ip => exact (returns_insert done).1 ▸ Descends.insert _ _ _ _
  | queuereq ip packet iface => exact (returns_queuereq done).1 ▸ Descends.queuereq _ _ _ _
  | handleArpreq arpreq => exact Descends.handleArpreq (returns_handleArpreq done)
  | send frame => exact returns_send done ▸ Descends.refl _
  | stop why => exact r.elim

/-- So does every move of the timer. -/
theorem descends_of_move {k : TimerMove} {out : Action RouterState}
    (available : timerMove sr k s = some out) (returns : out.Returns s') :
    Descends s.cache s'.cache := by
  rcases returns_timerMove available returns with ⟨curtime, expired⟩ | same | ⟨m, walker, handled⟩
  · exact expired ▸ Descends.expire _ _
  · exact same ▸ Descends.refl _
  · exact Descends.handleArpreq handled

/-- And so does every run. -/
theorem descends_of_reaches {starts : RouterState → RouterProgram Unit → Prop}
    {c c' : Config RouterOp RouterOp.Resp RouterState} (reaches : (router sr).Reaches starts c c') :
    Descends c.state.cache c'.state.cache := by
  induction reaches with
  | refl => exact Descends.refl _
  | tail _ step ih =>
    -- Starting a program changes nothing; the rest are operations and moves.
    refine ih.trans ?_
    cases step with
    | start started => exact Descends.refl _
    | op i ready returns => exact descends_of_exec returns
    | move k available returns => exact descends_of_move available returns

end Steps

/-! ## Serial runs -/

/-- One round of `sr_arpcache_timeout`, with nothing happening in between. -/
def timerRound (sr : SrInstance) (m : Moment) (cache : SrArpcache) : Action SrArpcache :=
  srArpcacheSweepreqs sr m.now m.rounds (expireEntries m.now cache)

/-- What the router reacts to. -/
inductive Input
  | frame (packet : Bytes) (interface : IfName)
  | timer

/-- React to one input from start to end. -/
def react (sr : SrInstance) (m : Moment) (cache : SrArpcache) : Input → Action SrArpcache
  | .frame packet interface => do
    let (cache, _) ← (srHandlepacket sr packet interface).run (execOp sr m) cache
    pure cache
  | .timer => timerRound sr m cache

/-- React to one input after the other. -/
def reactAll (sr : SrInstance) : List (Moment × Input) → SrArpcache → Action SrArpcache
  | [], cache => pure cache
  | (m, input) :: rest, cache => do
    let cache ← react sr m cache input
    reactAll sr rest cache

section Serial

variable {m : Moment} {cache cache' : SrArpcache} {starts : RouterState → RouterProgram Unit → Prop}

/-- Running a program on the shared state runs it on the cache. -/
theorem run_router {α : Type} (p : RouterProgram α) (s : RouterState) :
    p.run ((router sr).exec m) s =
      (p.run (execOp sr m) s.cache >>= fun answer =>
        pure ({ s with cache := answer.1 }, answer.2)) := by
  induction p generalizing s with
  | done a => rfl
  | op o next ih =>
    rw [Program.run_op, Program.run_op]
    simp only [router, bind_assoc, pure_bind]
    congr 1
    funext answer
    exact ih answer.2 _

/-- While the timer sleeps, no operation waits. -/
theorem ready_of_sleeping (o : RouterOp) (s : RouterState) (idle : s.timer = .sleeping) :
    (router sr).ready o s := by
  cases o <;> first | exact idle | exact trivial

/-- The operations leave the timer where it is. -/
theorem stays_sleeping (o : RouterOp) (s s' : RouterState) (r : o.Resp) (idle : s.timer = .sleeping)
    (returns : ((router sr).exec m o s).Returns (s', r)) : s'.timer = .sleeping :=
  (exec_returns_iff.mp returns).2.trans idle

/-- A program that nothing interrupts reaches what its isolated run returns. -/
theorem reaches_of_isolated {p : RouterProgram Unit}
    (returns : (p.run (execOp sr m) cache).Returns (cache', ())) :
    (router sr).Reaches starts ⟨⟨cache, .sleeping⟩, p⟩ ⟨⟨cache', .sleeping⟩, .done ()⟩ := by
  apply reaches_of_run ready_of_sleeping stays_sleeping rfl
  rw [run_router]
  exact Outcome.returns_bind.mpr ⟨_, returns, rfl⟩

/-- What an isolated run sends, some run sends. -/
theorem emits_of_isolated {p : RouterProgram Unit} {frame : SentFrame}
    (sent : frame ∈ (p.run (execOp sr m) cache).sent) :
    ∃ c, (router sr).Reaches starts ⟨⟨cache, .sleeping⟩, p⟩ c ∧ (router sr).Emits c frame := by
  apply emits_of_run ready_of_sleeping stays_sleeping rfl
  rw [run_router]
  exact Outcome.mem_sent_bind.mpr (.inl sent)

private theorem reaches_of_sweepLoop {p : RouterProgram Unit} (left : ℕ) (walker : Option ℕ)
    (returns : (sweepLoop sr m.now m.rounds left cache walker).Returns cache') :
    (router sr).Reaches starts ⟨⟨cache, .sweeping walker⟩, p⟩ ⟨⟨cache', .sleeping⟩, p⟩ := by
  induction left generalizing cache walker with
  | zero =>
    cases walker with
    | none =>
      cases returns
      exact .single (.move .release rfl rfl)
    | some walker => cases returns
  | succ left ih =>
    cases walker with
    | none =>
      cases returns
      exact .single (.move .release rfl rfl)
    | some walker =>
      obtain ⟨⟨cache'', next⟩, swept, rest⟩ := Outcome.returns_bind.mp returns
      -- Each round of the loop is one move of the timer, which keeps the lock until the last.
      refine .head (.move (.sweep m) rfl (Outcome.returns_bind.mpr ⟨_, swept, rfl⟩)) (ih next rest)

/-- A round of the timer that nothing interrupts. -/
theorem reaches_of_timerRound {p : RouterProgram Unit}
    (returns : (timerRound sr m cache).Returns cache') :
    (router sr).Reaches starts ⟨⟨cache, .sleeping⟩, p⟩ ⟨⟨cache', .sleeping⟩, p⟩ :=
  .head (.move (.tick m.now) rfl rfl) (reaches_of_sweepLoop _ _ returns)

/-- Serial runs are runs. -/
theorem reaches_of_reactAll {condition : RouterState → Bytes → IfName → Prop}
    {inputs : List (Moment × Input)}
    (admitted : ∀ m packet interface, (m, .frame packet interface) ∈ inputs →
      ∀ s, condition s packet interface)
    (returns : (reactAll sr inputs cache).Returns cache') :
    (router sr).Reaches (handles sr condition) ⟨⟨cache, .sleeping⟩, .done ()⟩
      ⟨⟨cache', .sleeping⟩, .done ()⟩ := by
  induction inputs generalizing cache with
  | nil =>
    cases returns
    exact .refl
  | cons first rest ih =>
    obtain ⟨m, input⟩ := first
    obtain ⟨cache'', reacted, later⟩ := Outcome.returns_bind.mp returns
    have tail :=
      ih (fun m packet interface member => admitted m packet interface (.tail _ member)) later
    refine Relation.ReflTransGen.trans ?_ tail
    cases input with
    | frame packet interface =>
      have condition := admitted m packet interface (.head _)
      obtain ⟨⟨cache₁, done⟩, ran, same⟩ := Outcome.returns_bind.mp reacted
      cases same
      exact .head (.start ⟨packet, interface, condition _, rfl⟩) (reaches_of_isolated ran)
    | timer => exact reaches_of_timerRound reacted

instance (o : RouterOp) (s : RouterState) : Decidable ((router sr).ready o s) :=
  inferInstanceAs (Decidable (o.Ready s))

/-- The run of the router that does one thing after the other. -/
def chronicle (sr : SrInstance) (deeds : List (Deed Moment TimerMove (Bytes × IfName))) :
    Option (History × RouterState) :=
  recordAll (router sr) (fun frame => srHandlepacket sr frame.1 frame.2) deeds ([], initially)

theorem runs_of_chronicle {deeds : List (Deed Moment TimerMove (Bytes × IfName))}
    (done : (chronicle sr deeds).isSome) (default : History × RouterState) :
    Runs sr ((chronicle sr deeds).getD default).1
      ⟨((chronicle sr deeds).getD default).2, .done ()⟩ := by
  obtain ⟨run, recorded⟩ := Option.isSome_iff_exists.mp done
  rw [recorded]
  exact recorded_of_recordAll .nil recorded

end Serial

end SimpleRouter
