/-
# Steps that look at one key

A step that reads and writes what stands at one key, and emits something that depends on it
alone, does not notice steps at other keys. Steps at distinct keys may be taken in any order:
the state they lead to is the same, and what they emit is the same up to order.
-/

import Mathlib.Data.List.Nodup
import Mathlib.Logic.Function.Basic

namespace LocalSteps

variable {κ V ε : Type*}

/-- A step at a key. -/
structure Step (κ V ε : Type*) where
  key : κ
  next : V → V
  emits : V → List ε

variable [DecidableEq κ]

/-- The state after a step. -/
def Step.after (step : Step κ V ε) (state : κ → V) : κ → V :=
  Function.update state step.key (step.next (state step.key))

/-- What the steps of a list emit, one after the other, and the state they lead to. -/
def run : List (Step κ V ε) → (κ → V) → List ε × (κ → V)
  | [], state => ([], state)
  | step :: rest, state =>
    let later := run rest (step.after state)
    (step.emits (state step.key) ++ later.1, later.2)

theorem Step.after_of_ne (step : Step κ V ε) (state : κ → V) {k : κ} (other : k ≠ step.key) :
    step.after state k = state k :=
  Function.update_of_ne other _ _

/-- Steps at distinct keys commute. -/
theorem Step.after_comm {first second : Step κ V ε} (distinct : first.key ≠ second.key)
    (state : κ → V) : first.after (second.after state) = second.after (first.after state) := by
  rw [after, second.after_of_ne state distinct, after, after,
    first.after_of_ne state distinct.symm, after]
  exact Function.update_comm distinct.symm _ _ _

theorem run_perm {steps steps' : List (Step κ V ε)} (perm : steps.Perm steps')
    (distinct : (steps.map Step.key).Nodup) (state : κ → V) :
    (run steps state).1.Perm (run steps' state).1 ∧ (run steps state).2 = (run steps' state).2 := by
  induction perm generalizing state with
  | nil => exact ⟨.refl _, rfl⟩
  | cons step _ ih =>
    rw [List.map_cons, List.nodup_cons] at distinct
    obtain ⟨emits, leads⟩ := ih distinct.2 (step.after state)
    exact ⟨emits.append_left _, leads⟩
  | swap first second rest =>
    have apart : first.key ≠ second.key := by
      rw [List.map_cons, List.map_cons, List.nodup_cons] at distinct
      exact fun same => distinct.1 (same ▸ List.mem_cons_self)
    simp only [run, Step.after_comm apart, first.after_of_ne state apart.symm,
      second.after_of_ne state apart, ← List.append_assoc]
    exact ⟨List.perm_append_comm.append_right _, trivial⟩
  | trans perm _ ih ih' =>
    obtain ⟨emits, leads⟩ := ih distinct state
    obtain ⟨emits', leads'⟩ := ih' ((perm.map Step.key).nodup_iff.mp distinct) state
    exact ⟨emits.trans emits', leads.trans leads'⟩

end LocalSteps
