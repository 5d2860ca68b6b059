/-
# Paths between switches

`l2_multi.py` keeps a table with the distance between each two switches and an intermediate switch,
and reads from it the path that it installs. The table is filled by the algorithm of Floyd and
Warshall. A path that is read is a shortest one; where there is none, no path is found.
-/

import Mathlib.Data.ENat.Basic
import SimpleRouter.Library.ShortestPaths

namespace SimpleRouter.Pox

open ShortestPaths

abbrev Dpid := ℕ
abbrev PortNo := ℕ

/-! ## The table -/

/-- `adjacency`: the port of a switch to another one. -/
abbrev Adjacency := Dpid → Dpid → Option PortNo

/-- An entry of `path_map`: the distance and the intermediate switch. -/
abbrev PathEntry := Option ℕ × Option Dpid

abbrev PathMap := Dpid → Dpid → PathEntry

/-- `path_map[i][j] = entry`. -/
def PathMap.set (paths : PathMap) (i j : Dpid) (entry : PathEntry) : PathMap :=
  Function.update paths i (Function.update (paths i) j entry)

/-- What the first loop of `_calc_paths` leaves: a switch reaches itself, and its neighbours. -/
def firstPaths (sws : List Dpid) (adjacency : Adjacency) : PathMap := fun k j =>
  if k ∈ sws then
    if j = k then (some 0, none)
    else if (adjacency k j).isSome then (some 1, none)
    else (none, none)
  else (none, none)

/-- The body of the other loops. -/
def betterPath (k : Dpid) (paths : PathMap) (i j : Dpid) : PathMap :=
  match (paths i k).1, (paths k j).1 with
  | some ik, some kj =>
    -- i -> k -> j exists
    match (paths i j).1 with
    | none => paths.set i j (some (ik + kj), some k)
    | some ij => if ik + kj < ij then paths.set i j (some (ik + kj), some k) else paths
  | _, _ => paths

/-- `_calc_paths`. -/
def calcPaths (sws : List Dpid) (adjacency : Adjacency) : PathMap :=
  sws.foldl (fun paths k =>
    sws.foldl (fun paths i =>
      sws.foldl (fun paths j => betterPath k paths i j) paths) paths) (firstPaths sws adjacency)

/-! ## Reading a path -/

/-- What the functions that read a path raise. -/
inductive PathError
  /-- `None` is not a list. -/
  | typeError
  | recursionError
  | assertionError
  deriving DecidableEq

/-- `_get_raw_path`, down to some depth, on a table that was calculated. -/
def getRawPath (paths : PathMap) : ℕ → Dpid → Dpid → Except PathError (Option (List Dpid))
  | 0, _, _ => .error .recursionError
  | depth + 1, src, dst =>
    if src = dst then .ok (some [])
    else
      match paths src dst with
      | (none, _) => .ok none
      | (some _, none) => .ok (some [])
      | (some _, some intermediate) => do
        let some first ← getRawPath paths depth src intermediate | .error .typeError
        let some second ← getRawPath paths depth intermediate dst | .error .typeError
        .ok (some (first ++ [intermediate] ++ second))

/-- `_check_path`. -/
def checkPath (adjacency : Adjacency) : List (Dpid × Option PortNo) → Bool
  | (s1, port) :: (s2, port') :: rest =>
    adjacency s1 s2 == port && checkPath adjacency ((s2, port') :: rest)
  | _ => true

/-- Each switch of a path with its port to the next one, and the last with the final port. -/
def cookPath (adjacency : Adjacency) (path : List Dpid) (dst : Dpid) (finalPort : PortNo) :
    List (Dpid × Option PortNo) :=
  (path.zip path.tail).map (fun s => (s.1, adjacency s.1 s.2)) ++ [(dst, some finalPort)]

/-- The end of `_get_path`, with the assertion. -/
def checkedPath (adjacency : Adjacency) (path : List Dpid) (dst : Dpid) (finalPort : PortNo) :
    Except PathError (Option (List (Dpid × Option PortNo))) :=
  let r := cookPath adjacency path dst finalPort
  if checkPath adjacency r then .ok (some r) else .error .assertionError

/-- `_get_path`. -/
def getPath (adjacency : Adjacency) (paths : PathMap) (depth : ℕ) (src dst : Dpid)
    (finalPort : PortNo) : Except PathError (Option (List (Dpid × Option PortNo))) :=
  if src = dst then checkedPath adjacency [src] dst finalPort
  else do
    let some path ← getRawPath paths depth src dst | .ok none
    checkedPath adjacency ([src] ++ path ++ [dst]) dst finalPort

/-! ## The table as a table of distances -/

/-- Two switches are neighbours. -/
def Adjacency.Edge (adjacency : Adjacency) (u v : Dpid) : Prop := (adjacency u v).isSome

def PathEntry.entry (e : PathEntry) : Entry Dpid := ⟨e.1.elim ⊤ Nat.cast, e.2⟩

theorem PathEntry.distance_some (d : ℕ) (intermediate : Option Dpid) :
    (PathEntry.entry (some d, intermediate)).distance = d := rfl

def PathMap.table (paths : PathMap) : Table Dpid := fun i j => PathEntry.entry (paths i j)

variable {adjacency : Adjacency} {paths : PathMap} {sws : List Dpid} {src dst : Dpid}
  {finalPort : PortNo}

theorem table_set (paths : PathMap) (i j : Dpid) (e : PathEntry) :
    (paths.set i j e).table =
      Function.update paths.table i (Function.update (paths.table i) j e.entry) := by
  funext u v
  unfold PathMap.table PathMap.set
  by_cases row : u = i
  · subst row
    rw [Function.update_self, Function.update_self]
    by_cases column : v = j
    · subst column
      rw [Function.update_self, Function.update_self]
    · rw [Function.update_of_ne column, Function.update_of_ne column]
  · rw [Function.update_of_ne row, Function.update_of_ne row]

/-- The comparison with `None` is that with an infinite distance. -/
theorem table_betterPath (k : Dpid) (paths : PathMap) (i j : Dpid) :
    (betterPath k paths i j).table = relax k paths.table i j := by
  unfold betterPath relax
  have distance (u v : Dpid) : (paths.table u v).distance = (paths u v).1.elim ⊤ Nat.cast := rfl
  rw [distance, distance, distance]
  cases first : (paths i k).1 with
  | none => simp
  | some ik =>
    cases second : (paths k j).1 with
    | none => simp
    | some kj =>
      cases old : (paths i j).1 with
      | none =>
        have shorter : ((ik : ℕ∞) + kj) < ⊤ := by exact_mod_cast ENat.natCast_lt_top (ik + kj)
        simp only [Option.elim_some, Option.elim_none, table_set]
        exact (if_pos shorter).symm
      | some ij =>
        have same : ((ik : ℕ∞) + kj < ij) ↔ ik + kj < ij := by exact_mod_cast Iff.rfl
        simp only [Option.elim_some, same]
        split_ifs
        · rw [table_set]
          rfl
        · rfl

theorem table_calcPaths (sws : List Dpid) (adjacency : Adjacency) :
    (calcPaths sws adjacency).table = floydWarshall sws (firstPaths sws adjacency).table := by
  have rows {f : PathMap → Dpid → PathMap} {g : Table Dpid → Dpid → Table Dpid}
      (same : ∀ paths i, (f paths i).table = g paths.table i) (l : List Dpid) (paths : PathMap) :
      (l.foldl f paths).table = l.foldl g paths.table := by
    induction l generalizing paths with
    | nil => rfl
    | cons i l ih => rw [List.foldl_cons, List.foldl_cons, ih, same]
  refine rows (fun paths k => ?_) sws _
  refine rows (fun paths i => ?_) sws paths
  exact rows (fun paths j => table_betterPath k paths i j) sws paths

/-! ## A calculated table -/

/-- The neighbours are switches. -/
def Adjacency.Within (adjacency : Adjacency) (sws : List Dpid) : Prop :=
  ∀ ⦃u v⦄, adjacency.Edge u v → u ∈ sws ∧ v ∈ sws

theorem firstPaths_self {k : Dpid} (listed : k ∈ sws) :
    firstPaths sws adjacency k k = (some 0, none) := by
  rw [firstPaths, if_pos listed, if_pos rfl]

theorem firstPaths_cases (sws : List Dpid) (adjacency : Adjacency) (u v : Dpid) :
    (firstPaths sws adjacency u v = (some 0, none) ∧ v = u) ∨
      (firstPaths sws adjacency u v = (some 1, none) ∧ adjacency.Edge u v) ∨
      firstPaths sws adjacency u v = (none, none) := by
  unfold firstPaths
  split_ifs with listed same near
  · exact .inl ⟨rfl, same⟩
  · exact .inr (.inl ⟨rfl, near⟩)
  · exact .inr (.inr rfl)
  · exact .inr (.inr rfl)

theorem traced_firstPaths (sws : List Dpid) (adjacency : Adjacency) :
    Traced adjacency.Edge (firstPaths sws adjacency).table where
  walk {u v n} found := by
    unfold PathMap.table at found
    rcases firstPaths_cases sws adjacency u v with ⟨entry, rfl⟩ | ⟨entry, near⟩ | entry
    · rw [entry, PathEntry.distance_some] at found
      obtain rfl := ENat.natCast_inj.mp found
      exact .refl v
    · rw [entry, PathEntry.distance_some] at found
      obtain rfl := ENat.natCast_inj.mp found
      exact .single near
    · rw [entry] at found
      exact absurd found.symm (ENat.natCast_ne_top n)
  direct {u v} _ finite := by
    unfold PathMap.table at finite
    rcases firstPaths_cases sws adjacency u v with ⟨-, same⟩ | ⟨-, near⟩ | entry
    · exact .inl same.symm
    · exact .inr near
    · rw [entry] at finite
      exact absurd rfl finite
  parted {u v k} parted := by
    unfold PathMap.table at parted
    rcases firstPaths_cases sws adjacency u v with ⟨entry, -⟩ | ⟨entry, -⟩ | entry
    all_goals
      rw [entry] at parted
      exact absurd parted (Option.some_ne_none k).symm

theorem covers_firstPaths (sws : List Dpid) (adjacency : Adjacency) :
    Covers adjacency.Edge sws ∅ (firstPaths sws adjacency).table := by
  intro u v n row _ walk
  induction walk with
  | refl v =>
    unfold PathMap.table
    rw [firstPaths_self row]
    exact le_rfl
  | @single u v near =>
    unfold PathMap.table firstPaths
    rw [if_pos row]
    split_ifs
    · exact zero_le
    · exact le_rfl
    · exact absurd near ‹_›
  | join _ at_ => exact absurd at_ (Set.notMem_empty _)

theorem traced_calcPaths (sws : List Dpid) (adjacency : Adjacency) :
    Traced adjacency.Edge (calcPaths sws adjacency).table := by
  rw [table_calcPaths]
  exact (traced_firstPaths sws adjacency).floydWarshall sws

/-- No walk between two switches is shorter than what the table says. -/
theorem calcPaths_le (within : adjacency.Within sws) {u v : Dpid} (distinct : u ≠ v) {n : ℕ}
    (steps : Steps adjacency.Edge n u v) :
    ((calcPaths sws adjacency).table u v).distance ≤ n := by
  rw [table_calcPaths]
  have row : u ∈ sws := by
    cases steps with
    | refl => exact absurd rfl distinct
    | step first _ => exact (within first).1
  have listed : v ∈ sws := by
    clear row
    induction steps with
    | refl => exact absurd rfl distinct
    | @step n u w v first later ih =>
      by_cases last : w = v
      · exact last ▸ (within first).2
      · exact ih last
  exact (covers_firstPaths sws adjacency).floydWarshall.le (fun _ _ near => (within near).2)
    row listed steps

/-! ## A path that is read -/

/-- The hops of a path: each switch with its port to the next one, the last with the final port. -/
inductive Routes (adjacency : Adjacency) (dst : Dpid) (finalPort : PortNo) :
    ℕ → Dpid → List (Dpid × Option PortNo) → Prop
  | last : Routes adjacency dst finalPort 0 dst [(dst, some finalPort)]
  | hop {n : ℕ} {u v : Dpid} {port : PortNo} {route : List (Dpid × Option PortNo)}
      (near : adjacency u v = some port) (later : Routes adjacency dst finalPort n v route) :
      Routes adjacency dst finalPort (n + 1) u ((u, some port) :: route)

theorem Routes.steps {n : ℕ} {route : List (Dpid × Option PortNo)}
    (routes : Routes adjacency dst finalPort n src route) : Steps adjacency.Edge n src dst := by
  induction routes with
  | last => exact .refl dst
  | hop near _ ih => exact .step (Option.isSome_of_eq_some near) ih

/-- The path between two switches, if the table has one. -/
theorem getRawPath_spec (traced : Traced adjacency.Edge paths.table) {n : ℕ} {u v : Dpid}
    (distinct : u ≠ v) (finite : (paths.table u v).distance = n) {depth : ℕ} (deep : n < depth) :
    ∃ path, getRawPath paths depth u v = .ok (some path) ∧
      List.IsChain adjacency.Edge (u :: path ++ [v]) ∧ path.length + 1 ≤ n := by
  induction n using Nat.strong_induction_on generalizing u v depth with
  | h n ih =>
    obtain ⟨depth, rfl⟩ : ∃ below, depth = below + 1 := ⟨depth - 1, by omega⟩
    rw [getRawPath, if_neg distinct]
    rcases entry : paths u v with ⟨distance, intermediate⟩
    have whole : (paths.table u v) = PathEntry.entry (distance, intermediate) :=
      congrArg PathEntry.entry entry
    cases distance with
    | none =>
      rw [whole] at finite
      exact absurd finite.symm (ENat.natCast_ne_top n)
    | some d =>
      cases intermediate with
      | none =>
        -- Directly connected.
        have near := (traced.direct (congrArg Entry.intermediate whole)
          (finite ▸ ENat.natCast_ne_top n)).resolve_left distinct
        refine ⟨[], rfl, List.isChain_pair.mpr near, ?_⟩
        rcases Nat.eq_zero_or_pos n with rfl | positive
        · exact absurd (traced.walk finite).eq_of_zero distinct
        · exact positive
      | some k =>
        have parted := congrArg Entry.intermediate whole
        obtain ⟨before, behind, -⟩ := traced.parted parted
        obtain ⟨a, b, first, second, total, small, small'⟩ := traced.parts_lt parted finite
        obtain ⟨left, found, chain, length⟩ := ih a small before first (show a < depth by omega)
        obtain ⟨right, found', chain', length'⟩ := ih b small' behind second
          (show b < depth by omega)
        refine ⟨left ++ [k] ++ right, ?_, ?_, ?_⟩
        · change (getRawPath paths depth u k >>= _) = _
          rw [found]
          change (getRawPath paths depth k v >>= _) = _
          rw [found']
          rfl
        · rw [List.append_assoc, List.singleton_append, List.cons_append, List.append_assoc,
            List.cons_append, List.isChain_cons_split]
          exact ⟨chain, chain'⟩
        · simp only [List.length_append, List.length_singleton]
          omega

/-- Cooking a path gives its hops, and the assertion holds of them. -/
theorem cookPath_spec {path : List Dpid} {u : Dpid}
    (chain : List.IsChain adjacency.Edge (u :: path))
    (last : (u :: path).getLast (List.cons_ne_nil u path) = dst) :
    Routes adjacency dst finalPort path.length u (cookPath adjacency (u :: path) dst finalPort) ∧
      checkPath adjacency (cookPath adjacency (u :: path) dst finalPort) = true := by
  induction path generalizing u with
  | nil =>
    obtain rfl := last
    exact ⟨.last, rfl⟩
  | cons v path ih =>
    obtain ⟨near, later⟩ := List.isChain_cons_cons.mp chain
    obtain ⟨port, port_eq⟩ := Option.isSome_iff_exists.mp near
    rw [List.getLast_cons (List.cons_ne_nil v path)] at last
    obtain ⟨routes, checked⟩ := ih later last
    have cooked : cookPath adjacency (u :: v :: path) dst finalPort =
        (u, some port) :: cookPath adjacency (v :: path) dst finalPort := by
      rw [← port_eq]
      rfl
    rw [cooked]
    refine ⟨.hop port_eq routes, ?_⟩
    generalize cookPath adjacency (v :: path) dst finalPort = route at routes checked
    generalize path.length = m at routes
    cases routes with
    | last => rw [checkPath, port_eq, beq_self_eq_true, checked, Bool.and_self]
    | hop _ _ => rw [checkPath, port_eq, beq_self_eq_true, checked, Bool.and_self]

/-- What `_get_path` should return: a shortest path, and `None` where there is no path at all. -/
structure PathFound (adjacency : Adjacency) (src dst : Dpid) (finalPort : PortNo)
    (found : Except PathError (Option (List (Dpid × Option PortNo)))) : Prop where
  shortest : ∀ {n : ℕ}, Steps adjacency.Edge n src dst → ∃ m ≤ n, ∃ route,
    found = .ok (some route) ∧ Routes adjacency dst finalPort m src route
  unreachable : (∀ n, ¬ Steps adjacency.Edge n src dst) → found = .ok none

/-- With depth enough, it is what it returns of a calculated table, and the assertion holds. -/
theorem getPath_found (within : adjacency.Within sws) (src dst : Dpid) (finalPort : PortNo) :
    ∃ deep, ∀ depth ≥ deep,
      PathFound adjacency src dst finalPort
        (getPath adjacency (calcPaths sws adjacency) depth src dst finalPort) := by
  by_cases same : src = dst
  · subst same
    refine ⟨0, fun depth _ => ⟨fun {n} _ => ⟨0, Nat.zero_le n, _, ?_, .last⟩, fun none_ => ?_⟩⟩
    · rw [getPath, if_pos rfl]
      rfl
    · exact absurd (.refl src) (none_ 0)
  have traced := traced_calcPaths sws adjacency
  rcases eq_or_ne ((calcPaths sws adjacency).table src dst).distance ⊤ with top | finite
  · have none_ (n : ℕ) : ¬ Steps adjacency.Edge n src dst := fun steps =>
      absurd (top ▸ calcPaths_le within same steps) (ENat.natCast_lt_top n).not_ge
    refine ⟨1, fun depth deep => ⟨fun steps => absurd steps (none_ _), fun _ => ?_⟩⟩
    obtain ⟨depth, rfl⟩ : ∃ below, depth = below + 1 := ⟨depth - 1, by omega⟩
    rcases entry : calcPaths sws adjacency src dst with ⟨_ | d, intermediate⟩
    · rw [getPath, if_neg same, getRawPath, if_neg same, entry]
      rfl
    · have whole : (calcPaths sws adjacency).table src dst = PathEntry.entry
        (some d, intermediate) :=
        congrArg PathEntry.entry entry
      rw [whole, PathEntry.distance_some] at top
      exact absurd top (ENat.natCast_ne_top d)
  · obtain ⟨n, distance⟩ := ENat.ne_top_iff_exists.mp finite
    refine ⟨n + 1, fun depth deep => ⟨fun {m} steps => ?_, fun none_ => ?_⟩⟩
    · have shortest : n ≤ m := by
        have le := calcPaths_le within same steps
        rw [← distance] at le
        exact_mod_cast le
      obtain ⟨path, raw, chain, length⟩ := getRawPath_spec traced same distance.symm deep
      have chain : List.IsChain adjacency.Edge (src :: (path ++ [dst])) := chain
      have last : (src :: (path ++ [dst])).getLast (List.cons_ne_nil _ _) = dst := by simp
      obtain ⟨routes, checked⟩ : Routes adjacency dst finalPort _ src _ ∧ _ :=
        cookPath_spec chain last
      rw [List.length_append, List.length_singleton] at routes
      refine ⟨_, length.trans shortest, _, ?_, routes⟩
      rw [getPath, if_neg same, raw]
      exact if_pos checked
    · exact absurd (traced.walk distance.symm) (none_ n)

end SimpleRouter.Pox
