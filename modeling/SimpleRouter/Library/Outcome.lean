/-
# Outcomes: events, then a value or a reason for stopping

A piece of imperative code emits events while it runs. It may return a value or
stop for some reason, and stopping does not undo what was already emitted.
`Outcome` records both, so a statement about emitted events covers computations
that never return.
-/

import Mathlib.Init

namespace Effects

/-- The events a computation emitted, in order, and how it ended. -/
structure Outcome (ε φ α : Type) where
  sent : List ε
  result : Except φ α

namespace Outcome

variable {ε φ α β γ : Type}

/-- Return `a` after emitting `events`. -/
def returned (events : List ε) (a : α) : Outcome ε φ α := ⟨events, .ok a⟩

/-- Stop for the reason `why` after emitting `events`. -/
def stopped (events : List ε) (why : φ) : Outcome ε φ α := ⟨events, .error why⟩

/-- Emit one event. -/
def emit (event : ε) : Outcome ε φ Unit := returned [event] ()

/-- Stop without emitting anything. -/
def stop (why : φ) : Outcome ε φ α := stopped [] why

/-- Run `x` and, if it returns, continue with `f`. -/
def bind (x : Outcome ε φ α) (f : α → Outcome ε φ β) : Outcome ε φ β :=
  match x.result with
  | .ok a => ⟨x.sent ++ (f a).sent, (f a).result⟩
  -- Stopping does not take back what was emitted.
  | .error why => stopped x.sent why

instance : Monad (Outcome ε φ) where
  pure := returned []
  bind := bind

/-- The computation returned `a`. -/
def Returns (x : Outcome ε φ α) (a : α) : Prop := x.result = .ok a

theorem returns_returned {events : List ε} {a b : α} :
    (returned events a : Outcome ε φ α).Returns b ↔ a = b := Except.ok.injEq _ _ ▸ Iff.rfl

@[simp] theorem returned_bind (events : List ε) (a : α) (f : α → Outcome ε φ β) :
    returned events a >>= f = ⟨events ++ (f a).sent, (f a).result⟩ := rfl

@[simp] theorem stop_bind (why : φ) (f : α → Outcome ε φ β) : stop why >>= f = stop why := rfl

theorem returned_bind_pure (events : List ε) (a : α) (f : α → β) :
    (returned events a >>= fun a => pure (f a) : Outcome ε φ β) = returned events (f a) := by
  rw [returned_bind]
  exact congrArg (Outcome.mk · _) (List.append_nil events)

@[simp] theorem sent_returned (events : List ε) (a : α) :
    (returned events a : Outcome ε φ α).sent = events := rfl

@[simp] theorem sent_stop (why : φ) : (stop why : Outcome ε φ α).sent = [] := rfl

@[simp] theorem sent_pure (a : α) : (pure a : Outcome ε φ α).sent = [] := rfl

private theorem map_id (x : Outcome ε φ α) : id <$> x = x := by
  obtain ⟨events, ⟨⟩ | ⟨⟩⟩ := x
  · rfl
  · simp [Functor.map, bind, returned]

private theorem bind_bind (x : Outcome ε φ α) (f : α → Outcome ε φ β) (g : β → Outcome ε φ γ) :
    x >>= f >>= g = x >>= fun a => f a >>= g := by
  obtain ⟨events, why | a⟩ := x
  · rfl
  · -- The first part returned, and the second decides how the sequence ends.
    simp only [Bind.bind, bind]
    cases (f a).result with
    | error why => rfl
    | ok b => simp

instance : LawfulMonad (Outcome ε φ) :=
  LawfulMonad.mk' _ map_id (fun _ _ => rfl) bind_bind

/-- A sequence returned exactly when both parts did. -/
theorem returns_bind {x : Outcome ε φ α} {f : α → Outcome ε φ β} {b : β} :
    (x >>= f).Returns b ↔ ∃ a, x.Returns a ∧ (f a).Returns b := by
  obtain ⟨events, why | a⟩ := x
  · simp [Returns, Bind.bind, bind, stopped]
  · simp [Returns, Bind.bind, bind]

/-- A sequence emits what its first part emits, and what its second part emits
once the first has returned. -/
theorem mem_sent_bind {x : Outcome ε φ α} {f : α → Outcome ε φ β} {event : ε} :
    event ∈ (x >>= f).sent ↔ event ∈ x.sent ∨ ∃ a, x.Returns a ∧ event ∈ (f a).sent := by
  obtain ⟨events, why | a⟩ := x
  · simp [Returns, Bind.bind, bind, stopped]
  · simp [Returns, Bind.bind, bind]

/-- A last step that emits nothing leaves the events as they are. -/
theorem sent_bind_pure {x : Outcome ε φ α} (f : α → β) :
    (x >>= fun a => pure (f a)).sent = x.sent := by
  obtain ⟨events, why | a⟩ := x
  · rfl
  · exact List.append_nil events

/-- So does a second part that emits nothing. -/
theorem sent_bind_of_silent {x : Outcome ε φ α} {f : α → Outcome ε φ β}
    (silent : ∀ a, (f a).sent = []) : (x >>= f).sent = x.sent := by
  obtain ⟨events, why | a⟩ := x
  · rfl
  · exact (congrArg (events ++ ·) (silent a)).trans (List.append_nil events)

/-- Why a computation stopped, if it did. -/
def reason (x : Outcome ε φ α) : Option φ :=
  match x.result with
  | .ok _ => none
  | .error why => some why

@[simp] theorem reason_returned (events : List ε) (a : α) :
    (returned events a : Outcome ε φ α).reason = none := rfl

@[simp] theorem reason_pure (a : α) : (pure a : Outcome ε φ α).reason = none := rfl

@[simp] theorem reason_stop (why : φ) : (stop why : Outcome ε φ α).reason = some why := rfl

/-- A sequence stops where its first part does or, once that has returned, where its second
part does. -/
theorem reason_bind_eq_some {x : Outcome ε φ α} {f : α → Outcome ε φ β} {why : φ} :
    (x >>= f).reason = some why ↔
      x.reason = some why ∨ ∃ a, x.Returns a ∧ (f a).reason = some why := by
  obtain ⟨events, why' | a⟩ := x
  · simp [reason, Returns, Bind.bind, bind, stopped]
  · simp [reason, Returns, Bind.bind, bind]

/-- If the computation stops, then for a reason that satisfies `P`. -/
def StopsOnly (P : φ → Prop) (x : Outcome ε φ α) : Prop := ∀ why, x.reason = some why → P why

section StopsOnly

variable {P : φ → Prop}

theorem stopsOnly_returned (events : List ε) (a : α) :
    (returned events a : Outcome ε φ α).StopsOnly P :=
  fun _ stops => nomatch stops

theorem stopsOnly_pure (a : α) : (pure a : Outcome ε φ α).StopsOnly P := stopsOnly_returned [] a

theorem stopsOnly_stop {why : φ} (holds : P why) : (stop why : Outcome ε φ α).StopsOnly P := by
  intro _ stops
  cases stops
  exact holds

theorem StopsOnly.bind {x : Outcome ε φ α} {f : α → Outcome ε φ β} (first : x.StopsOnly P)
    (second : ∀ a, (f a).StopsOnly P) : (x >>= f).StopsOnly P := by
  intro why stops
  rcases reason_bind_eq_some.mp stops with early | ⟨a, -, late⟩
  · exact first why early
  · exact second a why late

end StopsOnly

/-- The value a computation returned, or a default. -/
def getD (x : Outcome ε φ α) (default : α) : α :=
  match x.result with
  | .ok a => a
  | .error _ => default

theorem returns_getD {x : Outcome ε φ α} (h : x.result.isOk) (default : α) :
    x.Returns (x.getD default) := by
  obtain ⟨events, why | a⟩ := x
  · cases h
  · rfl

end Outcome

end Effects
