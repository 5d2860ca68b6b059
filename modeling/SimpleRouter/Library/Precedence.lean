/-
# What comes before

A list records things in the order in which they happened. A rule says whether a thing may
happen after those before it, and the record keeps to the rule if each of its entries does.

Where every event adds some entries to a record, a rule for the entries is kept if and only
if some rule for the events is, once this is known of one event.
-/

import Mathlib.Data.List.Induction

namespace Precedence

variable {α ε : Type} {ok : List α → α → Prop}

/-- Every entry is allowed by the ones before it. -/
def Justified (ok : List α → α → Prop) (record : List α) : Prop :=
  ∀ before a after, record = before ++ a :: after → ok before a

theorem justified_nil : Justified ok [] := fun before a after split => by
  cases (List.append_eq_nil_iff.mp split.symm).2

/-- The entries behind a record are judged with all of it before them. -/
theorem justified_append {record later : List α} :
    Justified ok (record ++ later) ↔
      Justified ok record ∧ Justified (fun before a => ok (record ++ before) a) later := by
  constructor
  · intro all
    refine ⟨?_, ?_⟩
    · rintro before a after rfl
      exact all before a (after ++ later) (by rw [List.append_assoc, List.cons_append])
    · rintro before a after rfl
      exact all (record ++ before) a after (List.append_assoc _ _ _).symm
  · rintro ⟨first, second⟩ before a after split
    rcases List.append_eq_append_iff.mp split with ⟨between, rfl, rfl⟩ | ⟨between, rfl, rest⟩
    · exact second between a after rfl
    · cases between with
      | nil =>
        have holds := second [] a after rest.symm
        rwa [List.append_nil, List.append_nil] at holds
      | cons a' between =>
        cases rest
        exact first before a between rfl

theorem justified_concat {record : List α} {a : α} :
    Justified ok (record ++ [a]) ↔ Justified ok record ∧ ok record a := by
  rw [justified_append]
  refine and_congr_right fun _ => ⟨fun last => ?_, ?_⟩
  · simpa using last [] a [] rfl
  · rintro holds before a' after split
    cases before with
    | nil =>
      cases split
      rwa [List.append_nil]
    | cons b before => simp at split

/-- If what is allowed does not depend on the order, all entries are allowed. -/
theorem justified_iff_forall_mem {record : List α} {good : α → Prop}
    (same : ∀ before ⊆ record, ∀ a ∈ record, (ok before a ↔ good a)) :
    Justified ok record ↔ ∀ a ∈ record, good a := by
  constructor
  · intro all a listed
    obtain ⟨before, after, rfl⟩ := List.append_of_mem listed
    exact (same before (List.subset_append_left _ _) a listed).mp (all before a after rfl)
  · rintro all before a after rfl
    have listed : a ∈ before ++ a :: after := List.mem_append_right _ List.mem_cons_self
    exact (same before (List.subset_append_left _ _) a listed).mpr (all a listed)

/-- Something holds of a record and held of it at all times before. -/
def Throughout (holds : List α → Prop) (record : List α) : Prop :=
  ∀ before after, record = before ++ after → holds before

theorem throughout_concat {holds : List α → Prop} {record : List α} {a : α} :
    Throughout holds (record ++ [a]) ↔ Throughout holds record ∧ holds (record ++ [a]) := by
  constructor
  · intro all
    refine ⟨?_, all _ [] (List.append_nil _).symm⟩
    rintro before after rfl
    exact all before (after ++ [a]) (List.append_assoc _ _ _)
  · rintro ⟨early, last⟩ before after split
    rcases List.eq_nil_or_concat after with rfl | ⟨after, a', rfl⟩
    · rw [List.append_nil] at split
      exact split ▸ last
    · rw [List.concat_eq_append, ← List.append_assoc] at split
      exact early before after (List.append_inj_left' split rfl)

/-- What holds at first is kept throughout if and only if every entry is one that keeps it. -/
theorem throughout_iff {holds : List α → Prop} (first : holds []) {record : List α}
    (keeps : ∀ before a after, record = before ++ a :: after → holds before →
      (holds (before ++ [a]) ↔ ok before a)) :
    Throughout holds record ↔ Justified ok record := by
  induction record using List.reverseRecOn with
  | nil =>
    refine iff_of_true ?_ justified_nil
    intro before after split
    rwa [(List.append_eq_nil_iff.mp split.symm).1]
  | append_singleton record a ih =>
    have now : Throughout holds record → (holds (record ++ [a]) ↔ ok record a) := fun early =>
      keeps record a [] rfl (early record [] (List.append_nil _).symm)
    have ih := ih fun before a' after split => keeps before a' (after ++ [a]) (by simp [split])
    rw [throughout_concat, justified_concat, ← ih]
    exact and_congr_right now

/-- Some entry is such, after the ones before it. -/
def Occurs (such : List α → α → Prop) (record : List α) : Prop :=
  ∃ before a after, record = before ++ a :: after ∧ such before a

theorem occurs_iff_not_justified {such : List α → α → Prop} {record : List α} :
    Occurs such record ↔ ¬ Justified (fun before a => ¬ such before a) record := by
  simp only [Occurs, Justified, not_forall, not_not, exists_prop]

theorem occurs_concat {such : List α → α → Prop} {record : List α} {a : α} :
    Occurs such (record ++ [a]) ↔ Occurs such record ∨ such record a := by
  rw [occurs_iff_not_justified, occurs_iff_not_justified, justified_concat, not_and_or, not_not]

/-- A fact about a record that grows by an event says which event occurred. -/
theorem occurs_iff {such : List ε → ε → Prop} (fact : List ε → Prop) (empty : ¬ fact [])
    (grows : ∀ events event, fact (events ++ [event]) ↔ fact events ∨ such events event)
    (events : List ε) : fact events ↔ Occurs such events := by
  induction events using List.reverseRecOn with
  | nil =>
    refine iff_of_false empty ?_
    rintro ⟨before, event, after, split, -⟩
    simp at split
  | append_singleton events event ih => rw [grows, ih, occurs_concat]

/-- A record that grows by an event keeps to its rule if and only if the events keep to
theirs. -/
theorem justified_iff {fine : List ε → ε → Prop} (record : List ε → List α)
    (empty : record [] = [])
    (grows : ∀ events event, Justified ok (record (events ++ [event])) ↔
      Justified ok (record events) ∧ fine events event) (events : List ε) :
    Justified ok (record events) ↔ Justified fine events := by
  induction events using List.reverseRecOn with
  | nil =>
    rw [empty]
    exact iff_of_true justified_nil justified_nil
  | append_singleton events event ih => rw [grows, ih, justified_concat]

end Precedence
