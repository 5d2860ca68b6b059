/-
# Linked cells in memory

A singly linked list as imperative code keeps it: cells at addresses, each with
a link to the next cell or none, and a head. The code walks along the links,
takes the first cell out that passes a test, puts a cell in front, overwrites the
data of a cell and frees all cells of a list.

A walk is cut off after a number of rounds, since links may run in a circle, and
an access to an address that is not allocated is a fault.
-/

import Mathlib.Data.List.Nodup
import Mathlib.Logic.Function.Basic
import SimpleRouter.Library.Rounds

namespace Linked

open Rounds

variable {α : Type}

/-- A cell: its data, and the address of the next cell unless it is the last. -/
structure Cell (α : Type) where
  data : α
  next : Option ℕ

/-- The cells of one type that are allocated. -/
abbrev Heap (α : Type) := ℕ → Option (Cell α)

/-- Why code did not return: it used an address that is not allocated, or its
rounds are used up. -/
inductive Failure
  | dangling
  | running
  deriving DecidableEq

/-! ## Code on cells -/

/-- Read the cell at an address. -/
def readCell (heap : Heap α) (p : ℕ) : Except Failure (Cell α) :=
  match heap p with
  | some cell => .ok cell
  | none => .error .dangling

/-- The heap with a cell at an address. -/
def writeCell (heap : Heap α) (p : ℕ) (cell : Cell α) : Heap α := Function.update heap p (some cell)

/-- `free`: the address must be allocated. -/
def freeCell (heap : Heap α) (p : ℕ) : Except Failure (Heap α) :=
  match heap p with
  | some _ => .ok (Function.update heap p none)
  | none => .error .dangling

/-- Walk from `cur` to the first cell that passes the test. The address of the
cell before it comes first. -/
def search (test : ℕ → α → Bool) (heap : Heap α) :
    ℕ → Option ℕ → Option ℕ → Except Failure (Option ℕ × Option ℕ)
  | _, prev, none => .ok (prev, none)
  | 0, _, some _ => .error .running
  | rounds + 1, prev, some p => do
    let cell ← readCell heap p
    if test p cell.data then .ok (prev, some p) else search test heap rounds (some p) cell.next

/-- Take the first cell that passes the test out of the list at `head`: the cell
before it, or the head, gets its link. The cell itself stays allocated. -/
def unlinkFirst (test : ℕ → α → Bool) (heap : Heap α) (head : Option ℕ) (rounds : ℕ) :
    Except Failure (Option ℕ × Heap α × Option ℕ) := do
  let (prev, cur) ← search test heap rounds none head
  match cur with
  | none => .ok (none, heap, head)
  | some p =>
    let cell ← readCell heap p
    match prev with
    | none => .ok (some p, heap, cell.next)
    | some q =>
      let before ← readCell heap q
      .ok (some p, writeCell heap q { before with next := cell.next }, head)

/-- Free the cells from `cur` on. Each link is read before its cell is freed. -/
def freeAll (heap : Heap α) : ℕ → Option ℕ → Except Failure (Heap α)
  | _, none => .ok heap
  | 0, some _ => .error .running
  | rounds + 1, some p => do
    let cell ← readCell heap p
    let rest ← freeCell heap p
    freeAll rest rounds cell.next

theorem readCell_eq {heap : Heap α} {p : ℕ} {cell : Cell α} (h : heap p = some cell) :
    readCell heap p = .ok cell := by
  rw [readCell, h]

theorem freeCell_eq {heap : Heap α} {p : ℕ} {cell : Cell α} (h : heap p = some cell) :
    freeCell heap p = .ok (Function.update heap p none) := by
  rw [freeCell, h]

@[simp] theorem writeCell_self (heap : Heap α) (p : ℕ) (cell : Cell α) :
    writeCell heap p cell p = some cell := Function.update_self _ _ _

theorem writeCell_of_ne {heap : Heap α} {p q : ℕ} (other : q ≠ p) (cell : Cell α) :
    writeCell heap p cell q = heap q := Function.update_of_ne other _ _

/-! ## Chains -/

/-- Following the links from `cur` passes the listed cells and arrives at `stop`. -/
def Segment (heap : Heap α) (stop : Option ℕ) : Option ℕ → List (ℕ × α) → Prop
  | cur, [] => cur = stop
  | cur, (p, a) :: rest => cur = some p ∧
      ∃ next, heap p = some ⟨a, next⟩ ∧ Segment heap stop next rest

/-- The list at `head` consists of the listed cells. -/
def Chain (heap : Heap α) (head : Option ℕ) (l : List (ℕ × α)) : Prop := Segment heap none head l

section Chains

variable {heap heap' : Heap α} {head cur stop : Option ℕ} {l front back : List (ℕ × α)} {p : ℕ}
  {a : α} {test : ℕ → α → Bool}

theorem segment_append : Segment heap stop cur (front ++ back) ↔
    ∃ mid, Segment heap mid cur front ∧ Segment heap stop mid back := by
  induction front generalizing cur with
  | nil =>
    constructor
    · intro h
      exact ⟨cur, rfl, h⟩
    · rintro ⟨mid, rfl, h⟩
      exact h
  | cons head rest ih =>
    constructor
    · rintro ⟨here, next, allocated, h⟩
      obtain ⟨mid, first, second⟩ := ih.mp h
      exact ⟨mid, ⟨here, next, allocated, first⟩, second⟩
    · rintro ⟨mid, ⟨here, next, allocated, first⟩, second⟩
      exact ⟨here, next, allocated, ih.mpr ⟨mid, first, second⟩⟩

/-- A segment is read from the cells that it passes. -/
theorem Segment.frame (h : Segment heap stop cur l)
    (agree : ∀ q ∈ l.map Prod.fst, heap' q = heap q) : Segment heap' stop cur l := by
  induction l generalizing cur with
  | nil => exact h
  | cons head rest ih =>
    obtain ⟨here, next, allocated, h⟩ := h
    refine ⟨here, next, ?_, ih h fun q listed => agree q (List.mem_cons_of_mem _ listed)⟩
    rw [agree head.1 List.mem_cons_self, allocated]

theorem Segment.allocated (h : Segment heap stop cur l) (listed : (p, a) ∈ l) :
    ∃ next, heap p = some ⟨a, next⟩ := by
  induction l generalizing cur with
  | nil => simp at listed
  | cons head rest ih =>
    obtain ⟨-, next, allocated, h⟩ := h
    rcases List.mem_cons.mp listed with rfl | later
    · exact ⟨next, allocated⟩
    · exact ih h later

/-- An address that is not allocated is on no list. -/
theorem Segment.not_mem_of_free (h : Segment heap stop cur l) (free : heap p = none) :
    p ∉ l.map Prod.fst := by
  intro listed
  obtain ⟨⟨q, a⟩, inside, rfl⟩ := List.mem_map.mp listed
  obtain ⟨next, allocated⟩ := h.allocated inside
  rw [free] at allocated
  cases allocated

/-- Writing at an address that is not allocated leaves a list as it is. -/
theorem Segment.writeCell_of_free (h : Segment heap stop cur l) (free : heap p = none)
    (cell : Cell α) :
    Segment (writeCell heap p cell) stop cur l := by
  refine h.frame fun q listed => writeCell_of_ne ?_ cell
  rintro rfl
  exact h.not_mem_of_free free listed

/-- A new cell in front. -/
theorem Chain.cons (h : Chain heap head l) (free : heap p = none) (a : α) :
    Chain (writeCell heap p ⟨a, head⟩) (some p) ((p, a) :: l) :=
  ⟨rfl, head, writeCell_self _ _ _, h.writeCell_of_free free _⟩

/-- The data of a cell is overwritten in place. -/
theorem Chain.overwrite (h : Chain heap head (front ++ (p, a) :: back))
    (distinct : ((front ++ (p, a) :: back).map Prod.fst).Nodup) (b : α) {next : Option ℕ}
    (allocated : heap p = some ⟨a, next⟩) :
    Chain (writeCell heap p ⟨b, next⟩) head (front ++ (p, b) :: back) := by
  rw [List.map_append, List.map_cons, List.nodup_append, List.nodup_cons] at distinct
  obtain ⟨-, ⟨notBehind, -⟩, apart⟩ := distinct
  obtain ⟨mid, first, here, next', allocated', second⟩ := segment_append.mp h
  rw [allocated] at allocated'
  cases allocated'
  refine segment_append.mpr ⟨mid, first.frame ?_, here, next, writeCell_self _ _ _, second.frame ?_⟩
  · intro q listed
    exact writeCell_of_ne (apart q listed p List.mem_cons_self) _
  · intro q listed
    refine writeCell_of_ne ?_ _
    rintro rfl
    exact notBehind listed

/-! ## What the code computes -/

/-- The address of the last cell passed, or the one before them. -/
private def lastPassed (prev : Option ℕ) (l : List (ℕ × α)) : Option ℕ :=
  l.foldl (fun _ cell => some cell.1) prev

private theorem search_found (prev : Option ℕ) (passed : Segment heap (some p) cur front)
    (others : ∀ cell ∈ front, test cell.1 cell.2 = false) {next : Option ℕ}
    (allocated : heap p = some ⟨a, next⟩) (passes : test p a) :
    Finishes (fun rounds => search test heap rounds prev cur) (lastPassed prev front, some p) := by
  refine ⟨front.length + 1, fun rounds many => ?_⟩
  induction front generalizing cur prev rounds with
  | nil =>
    cases passed
    obtain ⟨rounds, rfl⟩ := Nat.exists_eq_add_of_le' many
    simp [search, readCell_eq allocated, passes, lastPassed, bind, Except.bind]
  | cons cell rest ih =>
    obtain ⟨rfl, next', allocated', passed⟩ := passed
    obtain ⟨rounds, rfl⟩ : ∃ n, rounds = n + 1 := ⟨rounds - 1, by simp at many; omega⟩
    -- The walk goes on behind a cell that does not pass.
    have fails := others cell List.mem_cons_self
    have rest := ih (some cell.1) passed (fun c listed => others c (List.mem_cons_of_mem _ listed))
      rounds (by simp at many; omega)
    simp only
      [search, readCell_eq allocated', bind, Except.bind, fails, Bool.false_eq_true, if_false]
    exact rest

private theorem search_absent (prev : Option ℕ) (chain : Chain heap cur l)
    (others : ∀ cell ∈ l, test cell.1 cell.2 = false) :
    Finishes (fun rounds => search test heap rounds prev cur) (lastPassed prev l, none) := by
  refine ⟨l.length, fun rounds many => ?_⟩
  induction l generalizing cur prev rounds with
  | nil =>
    cases chain
    cases rounds <;> rfl
  | cons cell rest ih =>
    obtain ⟨rfl, next, allocated, chain⟩ := chain
    obtain ⟨rounds, rfl⟩ : ∃ n, rounds = n + 1 := ⟨rounds - 1, by simp at many; omega⟩
    have fails := others cell List.mem_cons_self
    have rest := ih (some cell.1) chain (fun c listed => others c (List.mem_cons_of_mem _ listed))
      rounds (by simp at many; omega)
    simp only
      [search, readCell_eq allocated, bind, Except.bind, fails, Bool.false_eq_true, if_false]
    exact rest

/-- The walk along a list ends at the first cell that passes the test. -/
theorem search_finds (test : ℕ → α → Bool) (chain : Chain heap head (front ++ (p, a) :: back))
    (others : ∀ cell ∈ front, test cell.1 cell.2 = false) (passes : test p a) :
    ∃ prev, Finishes (fun rounds => search test heap rounds none head) (prev, some p) := by
  obtain ⟨mid, first, rfl, next, allocated, -⟩ := segment_append.mp chain
  exact ⟨_, search_found none first others allocated passes⟩

/-- Without one it ends behind the last cell. -/
theorem search_misses (test : ℕ → α → Bool) (chain : Chain heap head l)
    (others : ∀ cell ∈ l, test cell.1 cell.2 = false) :
    ∃ prev, Finishes (fun rounds => search test heap rounds none head) (prev, none) :=
  ⟨_, search_absent none chain others⟩

/-- Without a cell that passes the test the list stays as it is. -/
theorem unlinkFirst_absent (chain : Chain heap head l)
    (others : ∀ cell ∈ l, test cell.1 cell.2 = false) :
    Finishes (unlinkFirst test heap head) (none, heap, head) :=
  (search_absent none chain others).bind (finishes_of_eq rfl)

/-- The first cell that passes the test is taken out, be it the head, the last or
between others, and nothing is written behind it. -/
theorem unlinkFirst_found (chain : Chain heap head (front ++ (p, a) :: back))
    (distinct : ((front ++ (p, a) :: back).map Prod.fst).Nodup)
    (others : ∀ cell ∈ front, test cell.1 cell.2 = false) (passes : test p a) :
    ∃ heap' head', Finishes (unlinkFirst test heap head) (some p, heap', head') ∧
      Chain heap' head' (front ++ back) ∧ ∀ q, q ∉ front.map Prod.fst → heap' q = heap q := by
  obtain ⟨mid, first, rfl, next, allocated, second⟩ := segment_append.mp chain
  have walk := search_found none first others allocated passes
  rcases List.eq_nil_or_concat front with rfl | ⟨init, ⟨q, b⟩, rfl⟩
  · -- The cell is the first of the list.
    refine ⟨heap, next, walk.bind (finishes_of_eq ?_), second, fun _ _ => rfl⟩
    simp [lastPassed, readCell_eq allocated, bind, Except.bind]
  · -- A cell before it gets its link.
    rw [List.concat_eq_append] at first distinct walk ⊢
    obtain ⟨mid, before, rfl, link, allocated', rfl⟩ := segment_append.mp first
    rw [List.map_append, List.map_append, List.nodup_append, List.nodup_append] at distinct
    obtain ⟨⟨-, -, apartBefore⟩, -, apartBehind⟩ := distinct
    refine ⟨writeCell heap q ⟨b, next⟩, head, walk.bind (finishes_of_eq ?_), ?_, ?_⟩
    · simp [lastPassed, readCell_eq allocated, readCell_eq allocated', bind, Except.bind]
    · rw [List.append_assoc]
      refine segment_append.mpr ⟨some q, before.frame fun r listed => ?_, rfl, next,
        writeCell_self _ _ _, second.frame fun r listed => ?_⟩
      · exact writeCell_of_ne (apartBefore r listed q (by simp)) _
      · refine writeCell_of_ne ?_ _
        rintro rfl
        exact apartBehind r (by simp) r (List.mem_cons_of_mem _ listed) rfl
    · intro r notPassed
      refine writeCell_of_ne ?_ _
      rintro rfl
      exact notPassed (by simp)

/-- The cells of a list are freed, and no others. -/
theorem freeAll_finishes (chain : Chain heap cur l) (distinct : (l.map Prod.fst).Nodup) :
    ∃ heap', Finishes (fun rounds => freeAll heap rounds cur) heap' ∧
      ∀ q, q ∉ l.map Prod.fst → heap' q = heap q := by
  induction l generalizing heap cur with
  | nil =>
    cases chain
    exact ⟨heap, ⟨0, fun rounds _ => by cases rounds <;> rfl⟩, fun _ _ => rfl⟩
  | cons cell rest ih =>
    obtain ⟨rfl, next, allocated, chain⟩ := chain
    rw [List.map_cons, List.nodup_cons] at distinct
    -- The rest of the list is still in place once its first cell is gone.
    have kept : Chain (Function.update heap cell.1 none) next rest := by
      refine chain.frame fun q listed => Function.update_of_ne ?_ _ _
      rintro rfl
      exact distinct.1 listed
    obtain ⟨heap', ⟨enough, runs⟩, frame⟩ := ih kept distinct.2
    refine ⟨heap', ⟨enough + 1, fun rounds many => ?_⟩, fun q notListed => ?_⟩
    · obtain ⟨rounds, rfl⟩ : ∃ n, rounds = n + 1 := ⟨rounds - 1, by omega⟩
      simp only [freeAll, readCell_eq allocated, freeCell_eq allocated, bind, Except.bind]
      exact runs rounds (by omega)
    · rw [List.map_cons, List.mem_cons, not_or] at notListed
      rw [frame q notListed.2, Function.update_of_ne notListed.1]

end Chains

end Linked
