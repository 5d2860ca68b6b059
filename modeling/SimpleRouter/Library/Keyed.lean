/-
# Lists searched by a key

A linked list whose nodes are found by the value of one of their fields, always
from the head, so that the first match wins. A node can be found, unlinked,
overwritten in place, and asked for its successor.

When the keys are distinct these operations speak of the one node with the key,
and none of them makes two nodes share a key.
-/

import Mathlib.Data.List.Nodup

namespace Keyed

variable {α κ β : Type*} [DecidableEq κ] (key : α → κ)

/-- The first node with the key. -/
def find (k : κ) (l : List α) : Option α := l.find? fun a => key a = k

/-- The list without its first node with the key. -/
def unlink (k : κ) (l : List α) : List α := l.eraseP fun a => key a = k

/-- The list with its nodes of that key overwritten. -/
def update (k : κ) (f : α → α) (l : List α) : List α := l.map fun a => if key a = k then f a else a

/-- The key of the successor of the first node with the key: `none` without such a
node, `some none` for the last node. -/
def after (k : κ) : List α → Option (Option κ)
  | [] => none
  | a :: rest => if key a = k then some (rest.head?.map key) else after k rest

variable {key} {k : κ} {l : List α} {a : α}

/-! ## Finding -/

theorem mem_of_find (h : find key k l = some a) : a ∈ l := List.mem_of_find?_eq_some h

theorem key_of_find (h : find key k l = some a) : key a = k := by simpa using List.find?_some h

theorem find_eq_none_iff : find key k l = none ↔ ∀ a ∈ l, key a ≠ k := by
  simp [find, List.find?_eq_none]

/-- With distinct keys every node is the one found under its key. -/
theorem find_of_mem (distinct : (l.map key).Nodup) (listed : a ∈ l) :
    find key (key a) l = some a := by
  induction l with
  | nil => simp at listed
  | cons head tail ih =>
    rw [List.map_cons, List.nodup_cons] at distinct
    rcases List.mem_cons.mp listed with rfl | inTail
    · simp [find]
    · have other : key head ≠ key a := fun same => distinct.1 (same ▸ List.mem_map_of_mem inTail)
      -- The head has another key, so the search goes on behind it.
      rw [find, List.find?_cons_of_neg (by simpa using other)]
      exact ih distinct.2 inTail

/-! ## Unlinking -/

theorem unlink_sublist (k : κ) (l : List α) : (unlink key k l).Sublist l := List.eraseP_sublist

theorem nodup_unlink {f : α → β} (distinct : (l.map f).Nodup) (k : κ) :
    ((unlink key k l).map f).Nodup := distinct.sublist ((unlink_sublist k l).map f)

/-- The first node with the key goes from between the others. -/
theorem unlink_append_cons {front back : List α} (others : ∀ b ∈ front, key b ≠ key a) :
    unlink key (key a) (front ++ a :: back) = front ++ back := by
  rw [unlink, List.eraseP_append_right _ (by simpa using others), List.eraseP_cons_of_pos (by simp)]

theorem unlink_of_absent (absent : ∀ a ∈ l, key a ≠ k) : unlink key k l = l :=
  List.eraseP_of_forall_not (by simpa using absent)

/-- With distinct keys exactly the node with the key goes. -/
theorem mem_unlink (distinct : (l.map key).Nodup) :
    a ∈ unlink key k l ↔ a ∈ l ∧ key a ≠ k := by
  induction l with
  | nil => simp [unlink]
  | cons head tail ih =>
    rw [List.map_cons, List.nodup_cons] at distinct
    by_cases same : key head = k
    · -- The head goes, and being the only one with the key it takes no other along.
      have gone : ∀ b ∈ tail, key b ≠ k := by
        rintro b inTail rfl
        exact distinct.1 (same ▸ List.mem_map_of_mem inTail)
      rw [unlink, List.eraseP_cons_of_pos (by simpa using same)]
      constructor
      · intro inTail
        exact ⟨List.mem_cons_of_mem _ inTail, gone a inTail⟩
      · rintro ⟨listed, other⟩
        rcases List.mem_cons.mp listed with rfl | inTail
        · exact absurd same other
        · exact inTail
    · -- The head stays and the rest is unlinked.
      rw [unlink, List.eraseP_cons_of_neg (by simpa using same), List.mem_cons, List.mem_cons]
      change a = head ∨ a ∈ unlink key k tail ↔ _
      rw [ih distinct.2]
      constructor
      · rintro (rfl | ⟨inTail, other⟩)
        · exact ⟨.inl rfl, same⟩
        · exact ⟨.inr inTail, other⟩
      · rintro ⟨rfl | inTail, other⟩
        · exact .inl rfl
        · exact .inr ⟨inTail, other⟩

/-! ## Overwriting -/

/-- A field that the overwriting keeps is the same all along the list. -/
theorem map_update {f : α → α} {g : α → β} (keeps : ∀ a, g (f a) = g a) (k : κ) (l : List α) :
    (update key k f l).map g = l.map g := by
  rw [update, List.map_map]
  apply List.map_congr_left
  intro a _
  by_cases same : key a = k <;> simp [same, keeps]

theorem mem_update {f : α → α} :
    a ∈ update key k f l ↔ (∃ b ∈ l, key b = k ∧ f b = a) ∨ (a ∈ l ∧ key a ≠ k) := by
  simp only [update, List.mem_map]
  constructor
  · rintro ⟨b, listed, rfl⟩
    by_cases same : key b = k
    · exact .inl ⟨b, listed, same, (if_pos same).symm⟩
    · rw [if_neg same]
      exact .inr ⟨listed, same⟩
  · rintro (⟨b, listed, same, rfl⟩ | ⟨listed, other⟩)
    · exact ⟨b, listed, if_pos same⟩
    · exact ⟨a, listed, if_neg other⟩

/-- Overwriting a node that is not there changes nothing. -/
theorem update_of_absent {f : α → α} (absent : ∀ a ∈ l, key a ≠ k) : update key k f l = l := by
  have same : ∀ a ∈ l, (if key a = k then f a else a) = id a := fun a listed =>
    if_neg (absent a listed)
  rw [update, List.map_congr_left same, List.map_id]

/-- With distinct keys one node is overwritten. -/
theorem update_append_cons {f : α → α} {front back : List α}
    (distinct : ((front ++ a :: back).map key).Nodup) :
    update key (key a) f (front ++ a :: back) = front ++ f a :: back := by
  rw [List.map_append, List.map_cons, List.nodup_append] at distinct
  obtain ⟨-, tail, apart⟩ := distinct
  -- No node before or behind has the key, so only this one is overwritten.
  have before : ∀ b ∈ front, key b ≠ key a := fun b inFront =>
    apart (key b) (List.mem_map_of_mem inFront) (key a) List.mem_cons_self
  have later : ∀ b ∈ back, key b ≠ key a := fun b inBack same =>
    (List.nodup_cons.mp tail).1 (same ▸ List.mem_map_of_mem inBack)
  have split : update key (key a) f (front ++ a :: back) =
      update key (key a) f front ++ f a :: update key (key a) f back := by
    simp [update]
  rw [split, update_of_absent before, update_of_absent later]

/-! ## Walking -/

theorem after_append_cons {front back : List α} (distinct : ((front ++ a :: back).map key).Nodup) :
    after key (key a) (front ++ a :: back) = some (back.head?.map key) := by
  induction front with
  | nil => simp [after]
  | cons head tail ih =>
    rw [List.cons_append, List.map_cons, List.nodup_cons] at distinct
    have other : key head ≠ key a := fun same =>
      distinct.1 (same ▸ List.mem_map_of_mem (by simp))
    -- The walk passes every node in front of the one with the key.
    rw [List.cons_append, after, if_neg other]
    exact ih distinct.2

end Keyed
