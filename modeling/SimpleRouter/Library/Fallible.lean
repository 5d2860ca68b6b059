/-
# Computations that raise errors

What it takes for a sequence, or a loop over a list, to return.
-/

import Mathlib.Data.List.Forall2

namespace Fallible

variable {ε α β : Type}

theorem bind_eq_ok {x : Except ε α} {f : α → Except ε β} {b : β} :
    x >>= f = .ok b ↔ ∃ a, x = .ok a ∧ f a = .ok b := by
  cases x with
  | error why =>
    refine iff_of_false (by intro h; cases h) ?_
    rintro ⟨_, h, _⟩
    cases h
  | ok a => exact ⟨fun h => ⟨a, rfl, h⟩, by rintro ⟨_, ⟨⟩, h⟩; exact h⟩

/-- A loop returns the values of its rounds. -/
theorem mapM_eq_ok {f : α → Except ε β} {xs : List α} {ys : List β} :
    xs.mapM f = .ok ys ↔ List.Forall₂ (fun x y => f x = .ok y) xs ys := by
  induction xs generalizing ys with
  | nil =>
    rw [List.mapM_nil, List.forall₂_nil_left_iff]
    exact ⟨fun h => (Except.ok.inj h).symm, fun h => congrArg Except.ok h.symm⟩
  | cons x rest ih =>
    rw [List.mapM_cons, bind_eq_ok, List.forall₂_cons_left_iff]
    constructor
    · rintro ⟨y, returns, continues⟩
      obtain ⟨later, loops, ends⟩ := bind_eq_ok.mp continues
      exact ⟨y, later, returns, ih.mp loops, (Except.ok.inj ends).symm⟩
    · rintro ⟨y, later, returns, loops, rfl⟩
      exact ⟨y, returns, bind_eq_ok.mpr ⟨later, ih.mpr loops, rfl⟩⟩

/-- Each of the values comes from a round. -/
theorem exists_of_mapM {f : α → Except ε β} {xs : List α} {ys : List β} (h : xs.mapM f = .ok ys) :
    ∀ y ∈ ys, ∃ x ∈ xs, f x = .ok y := by
  rw [mapM_eq_ok] at h
  induction h with
  | nil => exact fun y listed => absurd listed List.not_mem_nil
  | @cons x y xs ys returns _ ih =>
    rw [List.forall_mem_cons]
    refine ⟨⟨x, List.mem_cons_self, returns⟩, fun y' listed => ?_⟩
    obtain ⟨x', listed', returns'⟩ := ih y' listed
    exact ⟨x', List.mem_cons_of_mem _ listed', returns'⟩

/-- A loop that changes a value, where each round keeps an invariant and some earlier gains, and
gains something for its own element. -/
theorem foldlM_each {f : β → α → Except ε β} (invariant : β → Prop) (keeps : β → β → Prop)
    (gained : α → β → Prop) (refl : ∀ b, keeps b b)
    (trans : ∀ {b b' b''}, keeps b b' → keeps b' b'' → keeps b b'')
    (stable : ∀ {a b b'}, gained a b → keeps b b' → gained a b') {xs : List α}
    (round : ∀ b, ∀ a ∈ xs, invariant b →
      ∃ b', f b a = .ok b' ∧ invariant b' ∧ keeps b b' ∧ gained a b')
    {b : β} (start : invariant b) :
    ∃ b', xs.foldlM f b = .ok b' ∧ invariant b' ∧ keeps b b' ∧ ∀ a ∈ xs, gained a b' := by
  induction xs generalizing b with
  | nil => exact ⟨b, rfl, start, refl b, fun a listed => absurd listed List.not_mem_nil⟩
  | cons a rest ih =>
    obtain ⟨b', returns, holds, kept, gain⟩ := round b a List.mem_cons_self start
    obtain ⟨b'', loops, holds', kept', gains⟩ :=
      ih (fun b a listed => round b a (List.mem_cons_of_mem _ listed)) holds
    refine ⟨b'', ?_, holds', trans kept kept', ?_⟩
    · rw [List.foldlM_cons, returns]
      exact loops
    · rw [List.forall_mem_cons]
      exact ⟨stable gain kept', gains⟩

/-- A loop keeps what its rounds keep, unless one of them fails. -/
theorem foldlM_cases {f : β → α → Except ε β} (invariant : β → Prop) {why : ε}
    (round : ∀ b a, invariant b → f b a = .error why ∨ ∃ b', f b a = .ok b' ∧ invariant b')
    (xs : List α) {b : β} (start : invariant b) :
    xs.foldlM f b = .error why ∨ ∃ b', xs.foldlM f b = .ok b' ∧ invariant b' := by
  induction xs generalizing b with
  | nil => exact .inr ⟨b, rfl, start⟩
  | cons x rest ih =>
    rw [List.foldlM_cons]
    rcases round b x start with error | ⟨b', returns, holds⟩
    · rw [error]
      exact .inl rfl
    · rw [returns]
      exact ih holds

/-- A loop fails if one of its rounds does, whatever the rounds before it leave. -/
theorem foldlM_error {f : β → α → Except ε β} (invariant : β → Prop) {why : ε} {xs : List α}
    (round : ∀ b a, invariant b → f b a = .error why ∨ ∃ b', f b a = .ok b' ∧ invariant b')
    {a : α} (listed : a ∈ xs) (fails : ∀ b, invariant b → f b a = .error why) {b : β}
    (start : invariant b) : xs.foldlM f b = .error why := by
  induction xs generalizing b with
  | nil => exact absurd listed List.not_mem_nil
  | cons x rest ih =>
    rw [List.foldlM_cons]
    rcases round b x start with error | ⟨b', returns, holds⟩
    · rw [error]
      rfl
    · rcases List.mem_cons.mp listed with rfl | later
      · rw [fails b start]
        rfl
      · rw [returns]
        exact ih later holds

end Fallible
