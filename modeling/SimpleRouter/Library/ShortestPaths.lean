/-
# Shortest paths

The algorithm of Floyd and Warshall on a table that is changed in place: for each pivot, each
entry is replaced by the way over the pivot if that is shorter. An entry also notes its pivot, so
that the path can be read off the table.

Nothing is assumed about the order in which the nodes are taken.
-/

import Mathlib.Data.ENat.Basic
import Mathlib.Data.List.Chain
import Mathlib.Data.Set.Insert
import Mathlib.Logic.Function.Basic

namespace ShortestPaths

variable {V : Type*} {edge : V → V → Prop} {u v w k : V} {m n : ℕ}

/-! ## Walks -/

/-- A walk of some length. -/
inductive Steps (edge : V → V → Prop) : ℕ → V → V → Prop
  | refl (v : V) : Steps edge 0 v v
  | step {n : ℕ} {u v w : V} (first : edge u v) (later : Steps edge n v w) :
      Steps edge (n + 1) u w

namespace Steps

theorem single (first : edge u v) : Steps edge 1 u v := .step first (.refl v)

theorem append (first : Steps edge m u v) (second : Steps edge n v w) :
    Steps edge (m + n) u w := by
  induction first with
  | refl => rwa [Nat.zero_add]
  | step first _ ih =>
    rw [Nat.add_right_comm]
    exact .step first (ih second)

theorem eq_of_zero (steps : Steps edge 0 u v) : u = v := by
  cases steps
  rfl

end Steps

/-- A walk put together at some of the nodes. -/
inductive Through (edge : V → V → Prop) (done : Set V) : ℕ → V → V → Prop
  | refl (v : V) : Through edge done 0 v v
  | single {u v : V} (first : edge u v) : Through edge done 1 u v
  | join {m n : ℕ} {u v w : V} (first : Through edge done m u v) (at_ : v ∈ done)
      (second : Through edge done n v w) : Through edge done (m + n) u w

namespace Through

variable {done : Set V}

/-- A walk that stays among the nodes is put together at them. -/
theorem of_steps (closed : ∀ ⦃u v⦄, edge u v → v ∈ done) (steps : Steps edge n u v) :
    Through edge done n u v := by
  induction steps with
  | refl v => exact .refl v
  | step first _ ih =>
    rw [Nat.add_comm]
    exact .join (.single first) (closed first) ih

/-- With one node more, a walk goes over it or not. Where it comes to the node more than once, what
is in between is left out. -/
theorem insert_cases (walk : Through edge (insert k done) n u v) :
    (∃ m ≤ n, Through edge done m u v) ∨
      ∃ a b, a + b ≤ n ∧ Through edge done a u k ∧ Through edge done b k v := by
  induction walk with
  | refl v => exact .inl ⟨0, Nat.le_refl 0, .refl v⟩
  | single first => exact .inl ⟨1, Nat.le_refl 1, .single first⟩
  | @join m n u v w _ at_ _ ih ih' =>
    rcases at_ with rfl | at_
    · have left : ∃ a ≤ m, Through edge done a u v := by
        rcases ih with left | ⟨a, b, short, left, -⟩
        · exact left
        · exact ⟨a, by omega, left⟩
      have right : ∃ b ≤ n, Through edge done b v w := by
        rcases ih' with right | ⟨a, b, short, -, right⟩
        · exact right
        · exact ⟨b, by omega, right⟩
      obtain ⟨a, short, left⟩ := left
      obtain ⟨b, short', right⟩ := right
      exact .inr ⟨a, b, by omega, left, right⟩
    · rcases ih with ⟨a, short, left⟩ | ⟨a, b, short, left, middle⟩
      · rcases ih' with ⟨c, short', right⟩ | ⟨c, d, short', middle', right⟩
        · exact .inl ⟨a + c, by omega, .join left at_ right⟩
        · exact .inr ⟨a + c, d, by omega, .join left at_ middle', right⟩
      · rcases ih' with ⟨c, short', right⟩ | ⟨c, d, short', -, right⟩
        · exact .inr ⟨a, b + c, by omega, left, .join middle at_ right⟩
        · exact .inr ⟨a, d, by omega, left, right⟩

end Through

/-! ## Tables -/

/-- An entry of the table: how long the way is, and a node on it if it is not an edge. -/
structure Entry (V : Type*) where
  distance : ℕ∞
  intermediate : Option V

abbrev Table (V : Type*) := V → V → Entry V

/-! ## What an entry says -/

/-- The entries are those of walks, and an intermediate node parts the walk. -/
structure Traced (edge : V → V → Prop) (t : Table V) : Prop where
  walk : ∀ {u v : V} {n : ℕ}, (t u v).distance = n → Steps edge n u v
  direct : ∀ {u v : V}, (t u v).intermediate = none → (t u v).distance ≠ ⊤ → u = v ∨ edge u v
  parted : ∀ {u v k : V}, (t u v).intermediate = some k → u ≠ k ∧ k ≠ v ∧
    (t u k).distance + (t k v).distance ≤ (t u v).distance

/-- The parts of a walk are shorter. -/
theorem Traced.parts_lt {t : Table V} (traced : Traced edge t)
    (parted : (t u v).intermediate = some k) (finite : (t u v).distance = n) :
    ∃ a b, (t u k).distance = (a : ℕ) ∧ (t k v).distance = (b : ℕ) ∧ a + b ≤ n ∧ a < n ∧ b < n := by
  obtain ⟨first, second, shorter⟩ := traced.parted parted
  rw [finite] at shorter
  have top : (n : ℕ∞) ≠ ⊤ := ENat.natCast_ne_top n
  obtain ⟨a, left⟩ := ENat.ne_top_iff_exists.mp
    (ne_top_of_le_ne_top top (le_self_add.trans shorter))
  obtain ⟨b, right⟩ := ENat.ne_top_iff_exists.mp
    (ne_top_of_le_ne_top top (le_add_self.trans shorter))
  have total : a + b ≤ n := by
    rw [← left, ← right] at shorter
    exact_mod_cast shorter
  have positive : a ≠ 0 := by
    rintro rfl
    exact first (traced.walk left.symm).eq_of_zero
  have positive' : b ≠ 0 := by
    rintro rfl
    exact second (traced.walk right.symm).eq_of_zero
  exact ⟨a, b, left.symm, right.symm, total, by omega, by omega⟩

/-- No walk put together at the nodes that are done is shorter than its entry. -/
def Covers (edge : V → V → Prop) (nodes : List V) (done : Set V) (t : Table V) : Prop :=
  ∀ ⦃u v n⦄, u ∈ nodes → v ∈ nodes → Through edge done n u v → (t u v).distance ≤ n

/-- With all nodes, no walk at all is shorter, where the edges stay among the nodes. -/
theorem Covers.le {nodes : List V} {t : Table V}
    (covers : Covers edge nodes {v | v ∈ nodes} t) (closed : ∀ ⦃u v⦄, edge u v → v ∈ nodes)
    (row : u ∈ nodes) (listed : v ∈ nodes) (steps : Steps edge n u v) : (t u v).distance ≤ n :=
  covers row listed (.of_steps closed steps)

/-! ## The algorithm -/

variable [DecidableEq V]

/-- Take the way over a pivot, if it is shorter. -/
def relax (k : V) (t : Table V) (i j : V) : Table V :=
  if (t i k).distance + (t k j).distance < (t i j).distance then
    Function.update t i
      (Function.update (t i) j ⟨(t i k).distance + (t k j).distance, some k⟩)
  else t

/-- The loop over the ends of a row. -/
def relaxRow (nodes : List V) (k : V) (t : Table V) (i : V) : Table V :=
  nodes.foldl (fun t j => relax k t i j) t

/-- The loops for a pivot. -/
def relaxAll (nodes : List V) (t : Table V) (k : V) : Table V :=
  nodes.foldl (relaxRow nodes k) t

/-- The algorithm. -/
def floydWarshall (nodes : List V) (t : Table V) : Table V := nodes.foldl (relaxAll nodes) t

section Step

variable {t : Table V} {i j : V}

theorem relax_of_ne (other : ¬ (u = i ∧ v = j)) : relax k t i j u v = t u v := by
  unfold relax
  split_ifs
  · by_cases row : u = i
    · subst row
      rw [Function.update_self, Function.update_of_ne fun same => other ⟨rfl, same⟩]
    · rw [Function.update_of_ne row]
  · rfl

theorem relax_self : relax k t i j i j =
    if (t i k).distance + (t k j).distance < (t i j).distance then
      ⟨(t i k).distance + (t k j).distance, some k⟩
    else t i j := by
  unfold relax
  split_ifs
  · rw [Function.update_self, Function.update_self]
  · rfl

theorem relax_le (u v : V) : (relax k t i j u v).distance ≤ (t u v).distance := by
  by_cases here : u = i ∧ v = j
  · obtain ⟨rfl, rfl⟩ := here
    rw [relax_self]
    split_ifs with shorter
    · exact shorter.le
    · exact le_rfl
  · rw [relax_of_ne here]

theorem relax_self_le :
    (relax k t i j i j).distance ≤ (t i k).distance + (t k j).distance := by
  rw [relax_self]
  split_ifs with shorter
  · exact le_rfl
  · exact not_lt.mp shorter

end Step

namespace Traced

variable {t : Table V} {i j : V}

theorem relax_walk (traced : Traced edge t)
    (found : (ShortestPaths.relax k t i j u v).distance = n) : Steps edge n u v := by
  by_cases here : u = i ∧ v = j
  · obtain ⟨rfl, rfl⟩ := here
    rw [relax_self] at found
    split_ifs at found
    · obtain ⟨a, b, first, second, rfl⟩ := WithTop.add_eq_coe.mp found
      exact (traced.walk first.symm).append (traced.walk second.symm)
    · exact traced.walk found
  · rw [relax_of_ne here] at found
    exact traced.walk found

theorem relax (traced : Traced edge t) (k i j : V) :
    Traced edge (ShortestPaths.relax k t i j) where
  walk := traced.relax_walk
  direct {u v} none_ finite := by
    by_cases here : u = i ∧ v = j
    · obtain ⟨rfl, rfl⟩ := here
      rw [relax_self] at none_ finite
      split_ifs at none_ finite
      exact traced.direct none_ finite
    · rw [relax_of_ne here] at none_ finite
      exact traced.direct none_ finite
  parted {u v l} some_ := by
    have shorter : u ≠ l ∧ l ≠ v ∧ (t u l).distance + (t l v).distance ≤
        (ShortestPaths.relax k t i j u v).distance := by
      by_cases here : u = i ∧ v = j
      · obtain ⟨rfl, rfl⟩ := here
        rw [relax_self] at some_ ⊢
        split_ifs at some_ ⊢ with less
        · obtain rfl := Option.some_inj.mp some_
          -- Over one of its own ends, no way is shorter.
          refine ⟨?_, ?_, le_rfl⟩
          · rintro rfl
            exact less.not_ge le_add_self
          · rintro rfl
            exact less.not_ge le_self_add
        · exact traced.parted some_
      · rw [relax_of_ne here] at some_ ⊢
        exact traced.parted some_
    exact ⟨shorter.1, shorter.2.1, (add_le_add (relax_le u l) (relax_le l v)).trans shorter.2.2⟩

end Traced

/-! ## The loops -/

section Loops

variable {t : Table V} {nodes : List V} {i j : V}

theorem relaxRow_le (nodes : List V) (k : V) (t : Table V) (i u v : V) :
    (relaxRow nodes k t i u v).distance ≤ (t u v).distance := by
  unfold relaxRow
  induction nodes generalizing t with
  | nil => exact le_rfl
  | cons j nodes ih => exact (ih _).trans (relax_le u v)

theorem relaxRows_le (nodes rows : List V) (k : V) (t : Table V) (u v : V) :
    (rows.foldl (relaxRow nodes k) t u v).distance ≤ (t u v).distance := by
  induction rows generalizing t with
  | nil => exact le_rfl
  | cons i rows ih => exact (ih _).trans (relaxRow_le nodes k t i u v)

theorem relaxRow_over_le (listed : j ∈ nodes) :
    (relaxRow nodes k t i i j).distance ≤ (t i k).distance + (t k j).distance := by
  induction nodes generalizing t with
  | nil => exact absurd listed List.not_mem_nil
  | cons j' nodes ih =>
    rcases List.mem_cons.mp listed with rfl | later
    · exact (relaxRow_le nodes k _ i i j).trans relax_self_le
    · exact (ih later).trans (add_le_add (relax_le i k) (relax_le k j))

/-- Behind the loops for a pivot, no entry is longer than the way over it. -/
theorem relaxAll_over_le (row : i ∈ nodes) (listed : j ∈ nodes) :
    (relaxAll nodes t k i j).distance ≤ (t i k).distance + (t k j).distance := by
  unfold relaxAll
  suffices all : ∀ rows : List V, i ∈ rows → (rows.foldl (relaxRow nodes k) t i j).distance ≤
      (t i k).distance + (t k j).distance from all nodes row
  intro rows row
  induction rows generalizing t with
  | nil => exact absurd row List.not_mem_nil
  | cons i' rows ih =>
    rcases List.mem_cons.mp row with rfl | later
    · exact (relaxRows_le nodes rows k _ i j).trans (relaxRow_over_le listed)
    · exact (ih later).trans
        (add_le_add (relaxRow_le nodes k t i' i k) (relaxRow_le nodes k t i' k j))

theorem Traced.relaxAll (traced : Traced edge t) (nodes : List V) (k : V) :
    Traced edge (ShortestPaths.relaxAll nodes t k) :=
  List.foldlRecOn nodes (relaxRow nodes k) traced fun _ traced i _ =>
    List.foldlRecOn nodes _ traced fun _ traced j _ => traced.relax k i j

/-- The entries keep tracing walks. -/
theorem Traced.floydWarshall (traced : Traced edge t) (nodes : List V) :
    Traced edge (ShortestPaths.floydWarshall nodes t) :=
  List.foldlRecOn nodes (ShortestPaths.relaxAll nodes) traced fun _ traced k _ =>
    traced.relaxAll nodes k

/-- What the loops for a pivot add. -/
theorem Covers.relaxAll {done : Set V} (covers : Covers edge nodes done t) (pivot : k ∈ nodes) :
    Covers edge nodes (insert k done) (ShortestPaths.relaxAll nodes t k) := by
  intro u v n row listed walk
  rcases walk.insert_cases with ⟨m, short, left⟩ | ⟨a, b, short, left, right⟩
  · exact ((relaxRows_le nodes nodes k t u v).trans (covers row listed left)).trans
      (by exact_mod_cast short)
  · calc (ShortestPaths.relaxAll nodes t k u v).distance
        ≤ (t u k).distance + (t k v).distance := relaxAll_over_le row listed
      _ ≤ a + b := add_le_add (covers row pivot left) (covers pivot listed right)
      _ ≤ n := by exact_mod_cast short

/-- What the algorithm leaves, if the table began with the nodes and the edges. -/
theorem Covers.floydWarshall (covers : Covers edge nodes ∅ t) :
    Covers edge nodes {v | v ∈ nodes} (ShortestPaths.floydWarshall nodes t) := by
  suffices all : ∀ (pivots : List V) (done : Set V) (t : Table V), (∀ k ∈ pivots, k ∈ nodes) →
      Covers edge nodes done t → Covers edge nodes (done ∪ {v | v ∈ pivots})
        (pivots.foldl (ShortestPaths.relaxAll nodes) t) by
    have covered := all nodes ∅ t (fun _ listed => listed) covers
    rwa [Set.empty_union] at covered
  intro pivots
  induction pivots with
  | nil =>
    intro done t _ covers
    simpa using covers
  | cons k pivots ih =>
    intro done t inside covers
    have next := ih (insert k done) _ (fun k listed => inside k (List.mem_cons_of_mem _ listed))
      (covers.relaxAll (inside k List.mem_cons_self))
    have same : insert k done ∪ {v | v ∈ pivots} = done ∪ {v | v ∈ k :: pivots} := by
      ext v
      simp [or_comm, or_left_comm, or_assoc]
    rwa [same] at next

end Loops

end ShortestPaths
