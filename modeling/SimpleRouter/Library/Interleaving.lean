/-
# A program among the moves of its environment

A machine executes the operations of one program, and an environment moves the
shared state between any two of them. An operation that does not return has no
successor, but what it emitted before is emitted all the same.

`Safe` is the rely-guarantee reading of a program: whatever the environment does
in between, every operation keeps the invariant and emits only permitted events.
A machine all of whose programs are safe keeps the invariant in every configuration
that it reaches.
-/

import Mathlib.Logic.Relation
import SimpleRouter.Library.Program

namespace Effects

/-- How operations execute on states `σ` and how the environment moves them.
An operation receives an input `ι` when it executes, such as a clock reading, and
waits while it is not ready. A move that is not available is `none`. -/
structure Machine (Op : Type) (Resp : Op → Type) (σ ι κ ε φ : Type) where
  exec : ι → (o : Op) → σ → Outcome ε φ (σ × Resp o)
  ready : Op → σ → Prop
  move : κ → σ → Option (Outcome ε φ σ)

/-- A shared state and what remains of the program that is running. -/
structure Config (Op : Type) (Resp : Op → Type) (σ : Type) where
  state : σ
  program : Program Op Resp Unit

namespace Machine

variable {Op : Type} {Resp : Op → Type} {σ ι κ ε φ α β : Type}
variable (M : Machine Op Resp σ ι κ ε φ)

/-- One step of the interleaved system. A finished program makes room for any
program that `starts` admits in the present state. -/
inductive Step (starts : σ → Program Op Resp Unit → Prop) :
    Config Op Resp σ → Config Op Resp σ → Prop
  | start {s : σ} {p : Program Op Resp Unit} : starts s p → Step starts ⟨s, .done ()⟩ ⟨s, p⟩
  | op {s s' : σ} {o : Op} {next : Resp o → Program Op Resp Unit} {r : Resp o} (i : ι) :
      M.ready o s → (M.exec i o s).Returns (s', r) → Step starts ⟨s, .op o next⟩ ⟨s', next r⟩
  | move {s s' : σ} {p : Program Op Resp Unit} {out : Outcome ε φ σ} (k : κ) :
      M.move k s = some out → out.Returns s' → Step starts ⟨s, p⟩ ⟨s', p⟩

variable {M} in
/-- The step of an operation, with what is left of the program named apart. -/
theorem Step.answered {starts : σ → Program Op Resp Unit → Prop} {s s' : σ} {o : Op}
    {next : Resp o → Program Op Resp Unit} {r : Resp o} {p : Program Op Resp Unit} {i : ι}
    (ready : M.ready o s) (returns : (M.exec i o s).Returns (s', r)) (left : next r = p) :
    M.Step starts ⟨s, .op o next⟩ ⟨s', p⟩ :=
  left ▸ .op i ready returns

/-- The next operation or the next move may emit the event. -/
inductive Emits : Config Op Resp σ → ε → Prop
  | op {s : σ} {o : Op} {next : Resp o → Program Op Resp Unit} {event : ε} (i : ι) :
      M.ready o s → event ∈ (M.exec i o s).sent → Emits ⟨s, .op o next⟩ event
  | move {s : σ} {p : Program Op Resp Unit} {out : Outcome ε φ σ} {event : ε} (k : κ) :
      M.move k s = some out → event ∈ out.sent → Emits ⟨s, p⟩ event

/-- The next operation or the next move may stop for the reason. -/
inductive StopsFor : Config Op Resp σ → φ → Prop
  | op {s : σ} {o : Op} {next : Resp o → Program Op Resp Unit} {why : φ} (i : ι) :
      M.ready o s → (M.exec i o s).reason = some why → StopsFor ⟨s, .op o next⟩ why
  | move {s : σ} {p : Program Op Resp Unit} {out : Outcome ε φ σ} {why : φ} (k : κ) :
      M.move k s = some out → out.reason = some why → StopsFor ⟨s, p⟩ why

/-- The second configuration is reached from the first by finitely many steps. -/
def Reaches (starts : σ → Program Op Resp Unit → Prop) :
    Config Op Resp σ → Config Op Resp σ → Prop :=
  Relation.ReflTransGen (M.Step starts)

/-- What is reached while fewer programs may start is reached while more may. -/
theorem Reaches.mono {M : Machine Op Resp σ ι κ ε φ}
    {starts starts' : σ → Program Op Resp Unit → Prop}
    (weaker : ∀ s p, starts s p → starts' s p) {c c' : Config Op Resp σ}
    (reaches : M.Reaches starts c c') : M.Reaches starts' c c' := by
  refine Relation.ReflTransGen.mono (fun _ _ step => ?_) _ _ reaches
  cases step with
  | start started => exact .start (weaker _ _ started)
  | op i ready returns => exact .op i ready returns
  | move k available returns => exact .move k available returns

section Safety

variable (inv : σ → Prop) (guar : ε → Prop)

/-- Finitely many environment moves, each from a state that satisfies `inv`. -/
def Rely : σ → σ → Prop :=
  Relation.ReflTransGen fun s s' => inv s ∧ ∃ k out, M.move k s = some out ∧ out.Returns s'

/-- Whatever the environment does between two operations, every operation of the
program emits permitted events only and keeps the invariant, and the program can
return only in a state that satisfies `post`. -/
def Safe (post : α → σ → Prop) : Program Op Resp α → σ → Prop
  | .done a, s => ∀ s', M.Rely inv s s' → inv s' → post a s'
  -- The environment moves first; then the operation executes in one step.
  | .op o next, s => ∀ s', M.Rely inv s s' → inv s' → M.ready o s' → ∀ i,
      (∀ event ∈ (M.exec i o s').sent, guar event) ∧
        ∀ s'' r, (M.exec i o s').Returns (s'', r) → inv s'' ∧ Safe post (next r) s''

/-- The environment cannot falsify the assertion. -/
def Stable (assertion : σ → Prop) : Prop :=
  ∀ s k out s', inv s → assertion s → M.move k s = some out → out.Returns s' → assertion s'

/-- The environment itself emits permitted events only and keeps the invariant. -/
def MovesSafely : Prop :=
  ∀ s k out, inv s → M.move k s = some out →
    (∀ event ∈ out.sent, guar event) ∧ ∀ s', out.Returns s' → inv s'

variable {M inv guar}

theorem stable_true : M.Stable inv fun _ => True := fun _ _ _ _ _ _ _ _ => trivial

theorem Stable.rely {assertion : σ → Prop} (stable : M.Stable inv assertion) {s s' : σ}
    (moves : M.Rely inv s s') (h : assertion s) : assertion s' := by
  induction moves with
  | refl => exact h
  | tail _ step ih =>
    obtain ⟨kept, k, out, available, returns⟩ := step
    exact stable _ k out _ kept ih available returns

/-- Safety survives the moves of the environment. -/
theorem Safe.rely {post : α → σ → Prop} {p : Program Op Resp α} {s s' : σ}
    (safe : M.Safe inv guar post p s) (moves : M.Rely inv s s') : M.Safe inv guar post p s' := by
  cases p with
  | done a => exact fun s'' later kept => safe s'' (moves.trans later) kept
  | op o next => exact fun s'' later kept => safe s'' (moves.trans later) kept

/-- A stable postcondition that holds now holds whenever the program returns. -/
theorem Safe.done {post : α → σ → Prop} {a : α} (stable : M.Stable inv (post a)) {s : σ}
    (h : post a s) : M.Safe inv guar post (.done a) s :=
  fun _ moves _ => stable.rely moves h

/-- An operation is judged in every state that satisfies the invariant and a
stable assertion that holds now. -/
theorem Safe.op {post : α → σ → Prop} {o : Op} {next : Resp o → Program Op Resp α}
    {assertion : σ → Prop} (stable : M.Stable inv assertion) {s : σ} (h : assertion s)
    (emits : ∀ s i, inv s → assertion s → M.ready o s →
      ∀ event ∈ (M.exec i o s).sent, guar event)
    (keeps : ∀ s i s' r, inv s → assertion s → M.ready o s → (M.exec i o s).Returns (s', r) →
      inv s' ∧ M.Safe inv guar post (next r) s') :
    M.Safe inv guar post (.op o next) s := by
  intro s' moves kept ready i
  have now := stable.rely moves h
  exact ⟨emits s' i kept now ready, fun s'' r => keeps s' i s'' r kept now ready⟩

variable {starts : σ → Program Op Resp Unit → Prop}

/-- One step of the interleaved system keeps the invariant and the safety of
what remains of the running program. -/
theorem safe_step (moves : M.MovesSafely inv guar)
    (admitted : ∀ s p, inv s → starts s p → M.Safe inv guar (fun _ _ => True) p s)
    {c c' : Config Op Resp σ} (step : M.Step starts c c')
    (h : inv c.state ∧ M.Safe inv guar (fun _ _ => True) c.program c.state) :
    inv c'.state ∧ M.Safe inv guar (fun _ _ => True) c'.program c'.state := by
  obtain ⟨kept, safe⟩ := h
  cases step with
  -- A program starts only after the last one is done, in a state with the invariant.
  | start started => exact ⟨kept, admitted _ _ kept started⟩
  | op i ready returns => exact (safe _ .refl kept ready i).2 _ _ returns
  | move k available returns =>
    -- The program has not moved, so its safety is carried over by the rely.
    exact ⟨(moves _ k _ kept available).2 _ returns,
      safe.rely (.single ⟨kept, k, _, available, returns⟩)⟩

/-- **Invariance.** If the environment moves safely and every admitted program is
safe wherever the invariant holds, then the invariant and the safety of the running
program hold in every configuration that is reached from one where they hold. -/
theorem safe_of_reaches (moves : M.MovesSafely inv guar)
    (admitted : ∀ s p, inv s → starts s p → M.Safe inv guar (fun _ _ => True) p s)
    {c₀ c : Config Op Resp σ} (kept : inv c₀.state)
    (safe : M.Safe inv guar (fun _ _ => True) c₀.program c₀.state)
    (reaches : M.Reaches starts c₀ c) :
    inv c.state ∧ M.Safe inv guar (fun _ _ => True) c.program c.state := by
  induction reaches with
  | refl => exact ⟨kept, safe⟩
  | tail _ step ih => exact safe_step moves admitted step ih

/-- **Guarantee.** Under the same conditions every emitted event is permitted. -/
theorem guar_of_emits (moves : M.MovesSafely inv guar)
    (admitted : ∀ s p, inv s → starts s p → M.Safe inv guar (fun _ _ => True) p s)
    {c₀ c : Config Op Resp σ} (kept : inv c₀.state)
    (safe : M.Safe inv guar (fun _ _ => True) c₀.program c₀.state) (reaches : M.Reaches starts c₀ c)
    {event : ε} (emits : M.Emits c event) : guar event := by
  obtain ⟨kept, safe⟩ := safe_of_reaches moves admitted kept safe reaches
  cases emits with
  | op i ready sent => exact (safe _ .refl kept ready i).1 event sent
  | move k available sent => exact (moves _ k _ kept available).1 event sent

end Safety

/-- Until the next program starts, what is left of the running one performs only
operations that the whole of it performs. -/
theorem only_of_reaches {M : Machine Op Resp σ ι κ ε φ} {P : Op → Prop} {c c' : Config Op Resp σ}
    (only : c.program.Only P) (reaches : M.Reaches (fun _ _ => False) c c') :
    c'.program.Only P := by
  induction reaches with
  | refl => exact only
  | tail _ step ih =>
    cases step with
    -- Nothing is admitted, so no program follows the running one.
    | start started => exact started.elim
    | op i ready returns => exact (Program.only_op_iff.mp ih).2 _
    | move k available returns => exact ih

section Isolation

variable {M} {starts : σ → Program Op Resp Unit → Prop} {free : σ → Prop} {i : ι}

/-- While nothing makes an operation wait, an isolated run is one of the
interleaved runs. -/
theorem reaches_of_run (ready : ∀ o s, free s → M.ready o s)
    (stays : ∀ o s s' r, free s → (M.exec i o s).Returns (s', r) → free s')
    {p : Program Op Resp Unit} {s s' : σ} (h : free s)
    (runs : (p.run (M.exec i) s).Returns (s', ())) :
    M.Reaches starts ⟨s, p⟩ ⟨s', .done ()⟩ := by
  induction p generalizing s with
  | done a =>
    cases runs
    exact .refl
  | op o next ih =>
    rw [Program.run_op] at runs
    obtain ⟨⟨s'', r⟩, first, rest⟩ := Outcome.returns_bind.mp runs
    -- The first operation of the isolated run is a step, because it need not wait.
    exact .head (.op i (ready o s h) first) (ih r (stays o s s'' r h first) rest)

/-- What an isolated run emits, some interleaved run emits. -/
theorem emits_of_run (ready : ∀ o s, free s → M.ready o s)
    (stays : ∀ o s s' r, free s → (M.exec i o s).Returns (s', r) → free s')
    {p : Program Op Resp Unit} {s : σ} (h : free s) {event : ε}
    (emitted : event ∈ (p.run (M.exec i) s).sent) :
    ∃ c, M.Reaches starts ⟨s, p⟩ c ∧ M.Emits c event := by
  induction p generalizing s with
  | done a => simp at emitted
  | op o next ih =>
    rw [Program.run_op, Outcome.mem_sent_bind] at emitted
    -- The event is emitted by the first operation or by what follows once it has returned.
    rcases emitted with now | ⟨⟨s', r⟩, first, later⟩
    · exact ⟨_, .refl, .op i (ready o s h) now⟩
    · obtain ⟨c, reaches, emits⟩ := ih r (stays o s s' r h first) later
      exact ⟨c, .head (.op i (ready o s h) first) reaches, emits⟩

end Isolation

end Machine

end Effects
