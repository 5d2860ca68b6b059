/-
# Two maps that are inverse

Two partial maps are kept side by side, one from `α` to `β` and the other back. Pairs are written
into both, one after the other, and nothing is ever taken out.

If the maps were inverse before, then they are inverse behind the pairs if and only if every old
pair is overwritten on both sides or on none.
-/

import Mathlib.Data.List.Nodup
import Mathlib.Logic.Function.Basic

namespace InverseMaps

variable {α β : Type*} {f : α → Option β} {pairs : List (α × β)}

/-- Each map undoes the other, on the whole of its domain. -/
def Inverse (f : α → Option β) (g : β → Option α) : Prop := ∀ a b, f a = some b ↔ g b = some a

theorem inverse_empty : Inverse (fun _ : α => (none : Option β)) fun _ => none := by
  intro a b
  exact iff_of_false (Option.some_ne_none b).symm (Option.some_ne_none a).symm

/-- A map after pairs have been written. -/
def write [DecidableEq α] (f : α → Option β) : List (α × β) → α → Option β
  | [] => f
  | pair :: rest => write (Function.update f pair.1 (some pair.2)) rest

/-- What is found behind the pairs was written, or was there and is not overwritten. -/
theorem write_eq_some_iff [DecidableEq α] (distinct : (pairs.map Prod.fst).Nodup) {a : α}
    {b : β} :
    write f pairs a = some b ↔ (a, b) ∈ pairs ∨ a ∉ pairs.map Prod.fst ∧ f a = some b := by
  induction pairs generalizing f with
  | nil => simp [write]
  | cons pair rest ih =>
    rw [List.map_cons, List.nodup_cons] at distinct
    rw [write, ih distinct.2, List.map_cons, List.mem_cons, List.mem_cons, not_or]
    by_cases here : a = pair.1
    · subst here
      rw [Function.update_self, Option.some_inj]
      have unlisted (b : β) : (pair.1, b) ∉ rest :=
        fun listed => distinct.1 (List.mem_map.mpr ⟨_, listed, rfl⟩)
      simp [Prod.ext_iff, distinct.1, unlisted, eq_comm]
    · rw [Function.update_of_ne here]
      simp [Prod.ext_iff, here]

/-- Every pair of the map is overwritten on both sides or on none. -/
def Whole (f : α → Option β) (pairs : List (α × β)) : Prop :=
  ∀ a b, f a = some b → (a ∈ pairs.map Prod.fst ↔ b ∈ pairs.map Prod.snd)

/-- Pairs that are all written again are overwritten whole. -/
theorem whole_of_rewritten (again : ∀ a b, f a = some b → (a, b) ∈ pairs) : Whole f pairs := by
  intro a b maps
  have listed := again a b maps
  exact iff_of_true (List.mem_map.mpr ⟨_, listed, rfl⟩) (List.mem_map.mpr ⟨_, listed, rfl⟩)

theorem map_fst_swap : (pairs.map Prod.swap).map Prod.fst = pairs.map Prod.snd := by
  rw [List.map_map]
  rfl

theorem mem_map_swap {a : α} {b : β} : (b, a) ∈ pairs.map Prod.swap ↔ (a, b) ∈ pairs := by
  simp

/-- The maps stay inverse if and only if the old pairs are overwritten whole. -/
theorem inverse_write_iff [DecidableEq α] [DecidableEq β] {g : β → Option α}
    (inverse : Inverse f g) (firsts : (pairs.map Prod.fst).Nodup)
    (seconds : (pairs.map Prod.snd).Nodup) :
    Inverse (write f pairs) (write g (pairs.map Prod.swap)) ↔ Whole f pairs := by
  have forth (a : α) (b : β) :
      write f pairs a = some b ↔ (a, b) ∈ pairs ∨ a ∉ pairs.map Prod.fst ∧ f a = some b :=
    write_eq_some_iff firsts
  have back (a : α) (b : β) :
      write g (pairs.map Prod.swap) b = some a ↔
        (a, b) ∈ pairs ∨ b ∉ pairs.map Prod.snd ∧ g b = some a := by
    rw [write_eq_some_iff (map_fst_swap.symm ▸ seconds), map_fst_swap, mem_map_swap]
  constructor
  · intro inverse' a b maps
    have same := inverse' a b
    rw [forth, back, ← inverse a b] at same
    constructor
    · intro written
      by_contra kept
      -- The pair is still there backwards, so it was written.
      rcases same.mpr (.inr ⟨kept, maps⟩) with listed | ⟨unwritten, -⟩
      · exact kept (List.mem_map_of_mem (f := Prod.snd) listed)
      · exact unwritten written
    · intro written
      by_contra kept
      rcases same.mp (.inr ⟨kept, maps⟩) with listed | ⟨unwritten, -⟩
      · exact kept (List.mem_map_of_mem (f := Prod.fst) listed)
      · exact unwritten written
  · intro whole a b
    rw [forth, back, ← inverse a b]
    refine or_congr_right ?_
    constructor
    · rintro ⟨kept, maps⟩
      exact ⟨(not_congr (whole a b maps)).mp kept, maps⟩
    · rintro ⟨kept, maps⟩
      exact ⟨(not_congr (whole a b maps)).mpr kept, maps⟩

end InverseMaps
