/-
# Loops with a bound on their rounds

A loop of imperative code need not end. Its model runs a given number of rounds and
fails if they are used up. What the code computes is what the model returns for every
large enough number of rounds, and the parts of a sequence may need different numbers.
-/

import Mathlib.Data.Nat.Notation

namespace Rounds

variable {φ β γ : Type}

/-- The code returns `b` whenever it may run for long enough. -/
def Finishes (run : ℕ → Except φ β) (b : β) : Prop :=
  ∃ enough, ∀ rounds, enough ≤ rounds → run rounds = .ok b

theorem finishes_of_forall {run : ℕ → Except φ β} {b : β} (h : ∀ rounds, run rounds = .ok b) :
    Finishes run b := ⟨0, fun rounds _ => h rounds⟩

theorem finishes_of_eq {x : Except φ β} {b : β} (h : x = .ok b) : Finishes (fun _ => x) b :=
  finishes_of_forall fun _ => h

theorem Finishes.bind {run : ℕ → Except φ β} {next : ℕ → β → Except φ γ} {b : β} {c : γ}
    (first : Finishes run b) (second : Finishes (fun rounds => next rounds b) c) :
    Finishes (fun rounds => run rounds >>= next rounds) c := by
  obtain ⟨enough, runs⟩ := first
  obtain ⟨enough', continues⟩ := second
  refine ⟨max enough enough', fun rounds many => ?_⟩
  change run rounds >>= next rounds = .ok c
  rw [runs rounds (Nat.le_trans (Nat.le_max_left _ _) many)]
  exact continues rounds (Nat.le_trans (Nat.le_max_right _ _) many)

theorem Finishes.succ {run : ℕ → Except φ β} {b : β} (h : Finishes run b) :
    Finishes (fun rounds => run (rounds + 1)) b := by
  obtain ⟨enough, runs⟩ := h
  exact ⟨enough, fun rounds many => runs (rounds + 1) (Nat.le_succ_of_le many)⟩

/-- A loop finishes if it does after its first round. -/
theorem Finishes.of_succ {run : ℕ → Except φ β} {b : β}
    (h : Finishes (fun rounds => run (rounds + 1)) b) : Finishes run b := by
  obtain ⟨enough, runs⟩ := h
  refine ⟨enough + 1, fun rounds many => ?_⟩
  obtain ⟨rounds, rfl⟩ := Nat.exists_eq_add_of_le' (Nat.le_trans (Nat.le_add_left 1 _) many)
  exact runs rounds (Nat.le_of_succ_le_succ many)

/-- Code returns one value. -/
theorem Finishes.unique {run : ℕ → Except φ β} {b b' : β} (h : Finishes run b)
    (h' : Finishes run b') : b = b' := by
  obtain ⟨enough, runs⟩ := h
  obtain ⟨enough', runs'⟩ := h'
  have same := runs (max enough enough') (Nat.le_max_left _ _)
  rw [runs' (max enough enough') (Nat.le_max_right _ _)] at same
  cases same
  rfl

/-- What follows a part that finishes finishes if the whole does. -/
theorem Finishes.of_bind {run : ℕ → Except φ β} {next : ℕ → β → Except φ γ} {b : β} {c : γ}
    (first : Finishes run b) (whole : Finishes (fun rounds => run rounds >>= next rounds) c) :
    Finishes (fun rounds => next rounds b) c := by
  obtain ⟨enough, runs⟩ := first
  obtain ⟨enough', continues⟩ := whole
  refine ⟨max enough enough', fun rounds many => ?_⟩
  have returns := continues rounds (Nat.le_trans (Nat.le_max_right _ _) many)
  dsimp only at returns
  rwa [runs rounds (Nat.le_trans (Nat.le_max_left _ _) many)] at returns

/-- The code never returns, however long it may run. -/
def Fails (run : ℕ → Except φ β) : Prop :=
  ∃ enough, ∀ rounds, enough ≤ rounds → ∃ why, run rounds = .error why

theorem fails_of_forall {run : ℕ → Except φ β} (h : ∀ rounds, ∃ why, run rounds = .error why) :
    Fails run := ⟨0, fun rounds _ => h rounds⟩

theorem Fails.not_finishes {run : ℕ → Except φ β} (h : Fails run) (b : β) : ¬ Finishes run b := by
  rintro ⟨enough, runs⟩
  obtain ⟨enough', fails⟩ := h
  obtain ⟨why, failed⟩ := fails (max enough enough') (Nat.le_max_right _ _)
  rw [runs _ (Nat.le_max_left _ _)] at failed
  cases failed

theorem Fails.succ {run : ℕ → Except φ β} (h : Fails run) :
    Fails (fun rounds => run (rounds + 1)) := by
  obtain ⟨enough, fails⟩ := h
  exact ⟨enough, fun rounds many => fails (rounds + 1) (Nat.le_succ_of_le many)⟩

/-- A sequence never returns if its first part does not. -/
theorem Fails.bind {run : ℕ → Except φ β} (h : Fails run) (next : ℕ → β → Except φ γ) :
    Fails (fun rounds => run rounds >>= next rounds) := by
  obtain ⟨enough, fails⟩ := h
  refine ⟨enough, fun rounds many => ?_⟩
  obtain ⟨why, failed⟩ := fails rounds many
  refine ⟨why, ?_⟩
  change run rounds >>= next rounds = .error why
  rw [failed]
  rfl

/-- Nor does it if the first part returns and the second does not. -/
theorem Finishes.bind_fails {run : ℕ → Except φ β} {next : ℕ → β → Except φ γ} {b : β}
    (first : Finishes run b) (second : Fails (fun rounds => next rounds b)) :
    Fails (fun rounds => run rounds >>= next rounds) := by
  obtain ⟨enough, runs⟩ := first
  obtain ⟨enough', fails⟩ := second
  refine ⟨max enough enough', fun rounds many => ?_⟩
  obtain ⟨why, failed⟩ := fails rounds (Nat.le_trans (Nat.le_max_right _ _) many)
  refine ⟨why, ?_⟩
  change run rounds >>= next rounds = .error why
  rw [runs rounds (Nat.le_trans (Nat.le_max_left _ _) many)]
  exact failed

/-- Once the code has returned, more rounds change nothing. -/
def Steady (run : ℕ → Except φ β) : Prop :=
  ∀ rounds b, run rounds = .ok b → run (rounds + 1) = .ok b

theorem Steady.finishes {run : ℕ → Except φ β} (steady : Steady run) {rounds : ℕ} {b : β}
    (h : run rounds = .ok b) : Finishes run b := by
  refine ⟨rounds, fun more many => ?_⟩
  induction many with
  | refl => exact h
  | step _ ih => exact steady _ b ih

theorem steady_of_forall {x : Except φ β} : Steady (fun _ : ℕ => x) := fun _ _ h => h

theorem Steady.bind {run : ℕ → Except φ β} {next : ℕ → β → Except φ γ} (first : Steady run)
    (second : ∀ b, Steady (fun rounds => next rounds b)) :
    Steady (fun rounds => run rounds >>= next rounds) := by
  intro rounds c whole
  dsimp only at whole ⊢
  cases part : run rounds with
  | error why =>
    rw [part] at whole
    cases whole
  | ok b =>
    rw [part] at whole
    rw [first rounds b part]
    exact second b rounds c whole

end Rounds
