/-
# Lists by falling rank

A list is sorted by falling rank, and things of one rank keep their order. What is first in it with
some property is of the highest rank among those that have the property, and came first of these.
-/

import Mathlib.Data.List.MinMax
import Mathlib.Data.List.Pairwise
import Mathlib.Tactic.Common

namespace Ranked

variable {α : Type} {rank : α → ℕ} {l s t : List α}

/-- `list.sort(key=rank, reverse=True)` -/
def ranked (rank : α → ℕ) (l : List α) : List α := l.mergeSort fun a b => rank b ≤ rank a

/-- No thing is behind one of a lower rank. -/
def Falling (rank : α → ℕ) (l : List α) : Prop := l.Pairwise fun a b => rank b ≤ rank a

section Order

theorem rank_trans (a b c : α) (first : decide (rank b ≤ rank a) = true)
    (second : decide (rank c ≤ rank b) = true) : decide (rank c ≤ rank a) = true :=
  decide_eq_true ((of_decide_eq_true second).trans (of_decide_eq_true first))

theorem rank_total (a b : α) :
    (decide (rank b ≤ rank a) || decide (rank a ≤ rank b)) = true := by
  simpa using Nat.le_total (rank b) (rank a)

end Order

@[simp] theorem ranked_nil : ranked rank [] = [] := List.mergeSort_nil

theorem ranked_perm (rank : α → ℕ) (l : List α) : (ranked rank l).Perm l := List.mergeSort_perm l _

@[simp] theorem mem_ranked {a : α} : a ∈ ranked rank l ↔ a ∈ l := (ranked_perm rank l).mem_iff

theorem falling_ranked (rank : α → ℕ) (l : List α) : Falling rank (ranked rank l) :=
  (List.pairwise_mergeSort rank_trans rank_total l).imp of_decide_eq_true

/-- Where a new thing at the front of a list goes. -/
theorem ranked_cons (rank : α → ℕ) (a : α) (l : List α) :
    ∃ front back, ranked rank (a :: l) = front ++ a :: back ∧ ranked rank l = front ++ back ∧
      ∀ b ∈ front, rank a < rank b := by
  obtain ⟨front, back, sorted, rest, above⟩ :=
    @List.mergeSort_cons α (fun a b => decide (rank b ≤ rank a)) rank_trans rank_total a l
  refine ⟨front, back, sorted, rest, fun b inside => ?_⟩
  simpa using above b inside

/-! ## The things of one rank -/

/-- Sorting keeps the order of the things of one rank. -/
theorem filter_rank_ranked (r : ℕ) :
    (ranked rank l).filter (rank · = r) = l.filter (rank · = r) := by
  induction l with
  | nil => rw [ranked_nil]
  | cons a l ih =>
    obtain ⟨front, back, sorted, rest, above⟩ := ranked_cons rank a l
    rw [rest, List.filter_append] at ih
    rw [sorted, List.filter_append, List.filter_cons, List.filter_cons, ← ih]
    split_ifs with same
    · have none_ : front.filter (rank · = r) = [] := by
        refine List.filter_eq_nil_iff.mpr fun b inside => ?_
        have lower := above b inside
        have same := of_decide_eq_true same
        simp
        omega
      rw [none_, List.nil_append, List.nil_append]
    · rfl

theorem Falling.rank_eq_of_cons {a b : α} (first : Falling rank (a :: s))
    (second : Falling rank (b :: t))
    (same : ∀ r, (a :: s).filter (rank · = r) = (b :: t).filter (rank · = r)) :
    rank a = rank b := by
  have there : a ∈ (b :: t).filter (rank · = rank a) := by
    rw [← same]
    simp
  have here : b ∈ (a :: s).filter (rank · = rank b) := by
    rw [same]
    simp
  refine Nat.le_antisymm ?_ ?_
  · rcases List.mem_cons.mp (List.mem_of_mem_filter there) with rfl | listed
    · exact le_rfl
    · exact List.rel_of_pairwise_cons second listed
  · rcases List.mem_cons.mp (List.mem_of_mem_filter here) with rfl | listed
    · exact le_rfl
    · exact List.rel_of_pairwise_cons first listed

/-- A list that falls is given by its things of each rank. -/
theorem Falling.eq (first : Falling rank s) (second : Falling rank t)
    (same : ∀ r, s.filter (rank · = r) = t.filter (rank · = r)) : s = t := by
  induction s generalizing t with
  | nil =>
    cases t with
    | nil => rfl
    | cons b t =>
      have none_ := same (rank b)
      simp at none_
  | cons a s ih =>
    cases t with
    | nil =>
      have none_ := same (rank a)
      simp at none_
    | cons b t =>
      have rank_eq := first.rank_eq_of_cons second same
      have heads := same (rank a)
      rw [List.filter_cons_of_pos (by simp), List.filter_cons_of_pos (by simp [rank_eq])] at heads
      obtain ⟨rfl, -⟩ := List.cons.inj heads
      refine congrArg _ (ih first.of_cons second.of_cons fun r => ?_)
      have rest := same r
      rw [List.filter_cons, List.filter_cons] at rest
      split_ifs at rest
      · exact (List.cons.inj rest).2
      · exact rest

theorem Falling.eq_ranked (falling : Falling rank s)
    (same : ∀ r, s.filter (rank · = r) = l.filter (rank · = r)) : s = ranked rank l :=
  falling.eq (falling_ranked rank l) fun r => (same r).trans (filter_rank_ranked r).symm

/-! ## Changing a sorted list -/

/-- A list may be sorted before something is added to it. -/
theorem ranked_append (l t : List α) : ranked rank (ranked rank l ++ t) = ranked rank (l ++ t) :=
  (falling_ranked rank _).eq_ranked fun r => by
    rw [filter_rank_ranked, List.filter_append, List.filter_append, filter_rank_ranked]

theorem filter_ranked (p : α → Bool) (l : List α) :
    (ranked rank l).filter p = ranked rank (l.filter p) :=
  Falling.eq_ranked ((falling_ranked rank l).filter p) fun r => by
    rw [List.filter_comm, filter_rank_ranked, List.filter_comm]

theorem map_ranked {f : α → α} (keeps : ∀ a, rank (f a) = rank a) (l : List α) :
    (ranked rank l).map f = ranked rank (l.map f) := by
  refine List.map_mergeSort fun a _ b _ => ?_
  rw [keeps, keeps]

/-- The first thing of the sorted list with the property is the first of those of the highest rank
that have it. -/
theorem find?_ranked (p : α → Bool) (l : List α) :
    (ranked rank l).find? p = (l.filter p).argmax rank := by
  induction l with
  | nil => rw [ranked_nil]; rfl
  | cons a l ih =>
    obtain ⟨front, back, sorted, rest, above⟩ := ranked_cons rank a l
    rw [rest, List.find?_append] at ih
    rw [sorted, List.find?_append, List.find?_cons, List.filter_cons]
    cases has : p a with
    | false => exact ih
    | true =>
      rw [if_pos rfl, List.argmax_cons, ← ih]
      cases found : front.find? p with
      | some b => exact (if_pos (above b (List.mem_of_find?_eq_some found))).symm
      | none =>
        cases found' : back.find? p with
        | none => rfl
        | some c =>
          have falling := falling_ranked rank (a :: l)
          rw [sorted] at falling
          have behind := List.rel_of_pairwise_cons (List.pairwise_append.mp falling).2.1
            (List.mem_of_find?_eq_some found')
          exact (if_neg (Nat.not_lt.mpr behind)).symm

end Ranked
