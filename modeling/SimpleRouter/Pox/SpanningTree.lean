/-
# The spanning tree

`spanning_tree.py` chooses one link for each two switches that have a link both ways, and grows a
tree of the chosen links. What it leaves is a forest that connects the switches which the links
connect, and has no cycle; packets are flooded along it.

A link from a switch to itself, with two ports, is no obstacle for `discovery.py`. Here it is an
assertion that fails, and there is no tree while there is such a link.
-/

import Mathlib.Combinatorics.SimpleGraph.Acyclic
import SimpleRouter.Library.Fallible
import SimpleRouter.Library.Rounds
import SimpleRouter.Pox.LinkDiscovery

namespace SimpleRouter.Pox

/-! ## The links that are kept -/

/-- An entry of `adj`: nothing, the links, or the port of the link that was kept. -/
inductive Adjacent
  | missing
  | links (links : List Link)
  | port (port : PortNo)
  deriving DecidableEq

abbrev LinkTable := Dpid → Dpid → Adjacent

/-- `adj`, with all links. -/
def linkTable (order : List Link) : LinkTable := fun s1 s2 =>
  match order.filter fun link => link.dpid1 == s1 && link.dpid2 == s2 with
  | [] => .missing
  | link :: more => .links (link :: more)

/-- `adj[s1][s2] = here` and `adj[s2][s1] = there`. -/
def LinkTable.setBoth (adj : LinkTable) (s1 s2 : Dpid) (here there : Adjacent) : LinkTable :=
  fun u v =>
    if u = s2 ∧ v = s1 then there
    else if u = s1 ∧ v = s2 then here
    else adj u v

inductive TreeError
  | assertionError
  /-- The loop has not ended yet. -/
  | running

/-- The body of the loops that cull links. -/
def cullPair (order : List Link) (s1 : Dpid) (adj : LinkTable) (s2 : Dpid) :
    Except TreeError LinkTable :=
  match adj s1 s2 with
  | .missing => .ok adj
  | .port _ => .ok adj
  | .links links =>
    if s1 = s2 then .error .assertionError
    else
      match links.find? fun link => order.contains link.flip with
      | some link =>
        -- This is a good one
        .ok (adj.setBoth s1 s2 (.port link.port1) (.port link.port2))
      | none => .ok (adj.setBoth s1 s2 .missing .missing)

/-- The loops that cull links. -/
def cullLinks (order : List Link) (sws : List Dpid) : Except TreeError LinkTable :=
  sws.foldlM (fun adj s1 => sws.foldlM (cullPair order s1) adj) (linkTable order)

/-! ## The tree -/

/-- `tree`: the neighbours of a switch and the ports to them. -/
abbrev Tree := Dpid → Finset (Dpid × PortNo)

/-- `tree[v].add((w, p))` and `tree[w].add((v, q))`. -/
def Tree.addEdge (tree : Tree) (v w : Dpid) (p q : PortNo) : Tree := fun u =>
  if u = w then insert (v, q) (tree u)
  else if u = v then insert (w, p) (tree u)
  else tree u

/-- The body of the loop over the neighbours of `v`. Once the links are culled, each of two
switches has a port to the other, or none has. -/
def attach (adj : LinkTable) (v : Dpid) (state : Tree × List Dpid) (w : Dpid) :
    Tree × List Dpid :=
  match adj v w, adj w v with
  | .port p, .port q =>
    if state.1 w ≠ ∅ then state else (state.1.addEdge v w p q, w :: state.2)
  | _, _ => state

/-- The loop that takes switches from the queue. Those that were reached are put in front of it. -/
def growTree (adj : LinkTable) (sws : List Dpid) :
    ℕ → List Dpid → Finset Dpid → Tree → Except TreeError Tree
  | 0, _, _, _ => .error .running
  | _ + 1, [], _, tree => .ok tree
  | rounds + 1, v :: q, done, tree =>
    if v ∈ done then growTree adj sws rounds q done tree
    else
      let reached := sws.foldl (attach adj v) (tree, [])
      growTree adj sws rounds (reached.2.mergeSort ++ q) (insert v done) reached.1

/-- `_calc_spanning_tree`, of the links and their switches in some order. -/
def calcSpanningTree (order : List Link) (sws : List Dpid) (rounds : ℕ) :
    Except TreeError Tree := do
  let adj ← cullLinks order sws
  growTree adj sws rounds sws.mergeSort ∅ fun _ => ∅

/-! ## What is asked of the tree -/

/-- Two switches have a link both ways. -/
def Linked (order : List Link) (u v : Dpid) : Prop :=
  ∃ link ∈ order, link.flip ∈ order ∧ link.dpid1 = u ∧ link.dpid2 = v

/-- The graph of the links that go both ways. -/
def linkGraph (order : List Link) : SimpleGraph Dpid := .fromRel (Linked order)

/-- The graph of a tree. -/
def Tree.graph (tree : Tree) : SimpleGraph Dpid := .fromRel fun u v => ∃ p, (v, p) ∈ tree u

/-- A tree spans the links. -/
structure Spans (order : List Link) (tree : Tree) : Prop where
  /-- The ports are those of a link that goes both ways. -/
  ports : ∀ {u v p}, (v, p) ∈ tree u → ∃ q,
    ⟨u, p, v, q⟩ ∈ order ∧ ⟨v, q, u, p⟩ ∈ order ∧ (u, q) ∈ tree v
  acyclic : tree.graph.IsAcyclic
  reachable : ∀ u v, tree.graph.Reachable u v ↔ (linkGraph order).Reachable u v

/-! ## Culling -/

section Cull

variable {order : List Link} {adj adj' : LinkTable} {u v s1 s2 : Dpid}

/-- The entries of two switches are as they were, with the links. -/
def Raw (order : List Link) (adj : LinkTable) (u v : Dpid) : Prop :=
  adj u v = linkTable order u v ∧ adj v u = linkTable order v u

/-- The entries are the ports of one link that goes both ways, or there is no such link. -/
def Settled (order : List Link) (adj : LinkTable) (u v : Dpid) : Prop :=
  (∃ p q, adj u v = .port p ∧ adj v u = .port q ∧
    ⟨u, p, v, q⟩ ∈ order ∧ ⟨v, q, u, p⟩ ∈ order) ∨
  (adj u v = .missing ∧ adj v u = .missing ∧ ¬ Linked order u v)

theorem Linked.symm (linked : Linked order u v) : Linked order v u := by
  obtain ⟨link, known, back, rfl, rfl⟩ := linked
  exact ⟨link.flip, back, known, rfl, rfl⟩

theorem Settled.symm (settled : Settled order adj u v) : Settled order adj v u := by
  rcases settled with ⟨p, q, here, there, known, back⟩ | ⟨here, there, apart⟩
  · exact .inl ⟨q, p, there, here, back, known⟩
  · exact .inr ⟨there, here, fun linked => apart linked.symm⟩

theorem Raw.symm (raw : Raw order adj u v) : Raw order adj v u := ⟨raw.2, raw.1⟩

/-- Links that were found are those from the one switch to the other. -/
theorem linkTable_links {links : List Link} (entry : linkTable order u v = .links links) :
    links = order.filter fun link => link.dpid1 == u && link.dpid2 == v := by
  unfold linkTable at entry
  split at entry
  · exact absurd entry Adjacent.noConfusion
  · next whole =>
    rw [whole]
    exact (Adjacent.links.inj entry).symm

theorem linkTable_ne_port (p : PortNo) : linkTable order u v ≠ .port p := by
  unfold linkTable
  split
  · exact Adjacent.noConfusion
  · exact Adjacent.noConfusion

theorem linkTable_eq_missing :
    linkTable order u v = .missing ↔ ∀ link ∈ order, link.dpid1 = u → link.dpid2 ≠ v := by
  unfold linkTable
  split
  · next none_ =>
    rw [List.filter_eq_nil_iff] at none_
    refine iff_of_true rfl fun link listed first second => none_ link listed ?_
    simp [first, second]
  · next link more whole =>
    refine iff_of_false Adjacent.noConfusion fun none_ => ?_
    have listed : link ∈ order.filter fun link => link.dpid1 == u && link.dpid2 == v :=
      whole ▸ List.mem_cons_self
    obtain ⟨known, ends⟩ := List.mem_filter.mp listed
    simp only [Bool.and_eq_true, beq_iff_eq] at ends
    exact none_ link known ends.1 ends.2

theorem setBoth_of_ne {here there : Adjacent} (other : ¬ (u = s1 ∧ v = s2))
    (turned : ¬ (u = s2 ∧ v = s1)) : adj.setBoth s1 s2 here there u v = adj u v := by
  rw [LinkTable.setBoth, if_neg turned, if_neg other]

theorem setBoth_here {here there : Adjacent} (distinct : s1 ≠ s2) :
    adj.setBoth s1 s2 here there s1 s2 = here := by
  rw [LinkTable.setBoth, if_neg fun both => distinct both.1, if_pos ⟨rfl, rfl⟩]

theorem setBoth_there {here there : Adjacent} :
    adj.setBoth s1 s2 here there s2 s1 = there := if_pos ⟨rfl, rfl⟩

/-- Each two entries are raw or settled. -/
def Culling (order : List Link) (adj : LinkTable) : Prop :=
  ∀ u v, Raw order adj u v ∨ Settled order adj u v

/-- What is left for two switches is settled, or there is nothing in this direction. -/
def Culled (order : List Link) (adj : LinkTable) (u v : Dpid) : Prop :=
  Settled order adj u v ∨ adj u v = .missing

def KeepsCulled (order : List Link) (adj adj' : LinkTable) : Prop :=
  ∀ u v, Culled order adj u v → Culled order adj' u v

/-- Both entries of two switches are set at once. The others stay as they are. -/
theorem culling_setBoth {here there : Adjacent} (culling : Culling order adj)
    (settled : Settled order (adj.setBoth s1 s2 here there) s1 s2) :
    Culling order (adj.setBoth s1 s2 here there) ∧
      KeepsCulled order adj (adj.setBoth s1 s2 here there) := by
  have others {u v : Dpid} (other : ¬ (u = s1 ∧ v = s2)) (turned : ¬ (u = s2 ∧ v = s1)) :
      adj.setBoth s1 s2 here there u v = adj u v ∧ adj.setBoth s1 s2 here there v u = adj v u :=
    ⟨setBoth_of_ne other turned, setBoth_of_ne (fun both => turned both.symm)
      fun both => other both.symm⟩
  have kept {u v : Dpid} (other : ¬ (u = s1 ∧ v = s2)) (turned : ¬ (u = s2 ∧ v = s1))
      (old : Settled order adj u v) : Settled order (adj.setBoth s1 s2 here there) u v := by
    obtain ⟨first, second⟩ := others other turned
    rwa [Settled, first, second]
  have pair {u v : Dpid} (same : (u = s1 ∧ v = s2) ∨ (u = s2 ∧ v = s1)) :
      Settled order (adj.setBoth s1 s2 here there) u v := by
    rcases same with ⟨rfl, rfl⟩ | ⟨rfl, rfl⟩
    · exact settled
    · exact settled.symm
  refine ⟨fun u v => ?_, fun u v culled => ?_⟩
  · by_cases same : (u = s1 ∧ v = s2) ∨ (u = s2 ∧ v = s1)
    · exact .inr (pair same)
    · obtain ⟨other, turned⟩ := not_or.mp same
      obtain ⟨first, second⟩ := others other turned
      exact (culling u v).imp (fun raw => ⟨first.trans raw.1, second.trans raw.2⟩)
        (kept other turned)
  · by_cases same : (u = s1 ∧ v = s2) ∨ (u = s2 ∧ v = s1)
    · exact .inl (pair same)
    · obtain ⟨other, turned⟩ := not_or.mp same
      exact culled.imp (kept other turned) (others other turned).1.trans

theorem cullPair_spec (simple : ∀ link ∈ order, link.dpid1 ≠ link.dpid2)
    (culling : Culling order adj) (s1 s2 : Dpid) :
    ∃ adj', cullPair order s1 adj s2 = .ok adj' ∧ Culling order adj' ∧
      KeepsCulled order adj adj' ∧ Culled order adj' s1 s2 := by
  unfold cullPair
  cases entry : adj s1 s2 with
  | missing => exact ⟨adj, rfl, culling, fun _ _ culled => culled, .inr entry⟩
  | port p =>
    refine ⟨adj, rfl, culling, fun _ _ culled => culled, .inl ?_⟩
    exact (culling s1 s2).resolve_left fun raw => linkTable_ne_port p (raw.1.symm.trans entry)
  | links links =>
    have raw : linkTable order s1 s2 = .links links := by
      rcases culling s1 s2 with raw | ⟨p, q, here, -⟩ | ⟨here, -⟩
      · rw [← raw.1, entry]
      · exact absurd (entry.symm.trans here) Adjacent.noConfusion
      · exact absurd (entry.symm.trans here) Adjacent.noConfusion
    have ends {link : Link} (listed : link ∈ links) :
        link ∈ order ∧ link.dpid1 = s1 ∧ link.dpid2 = s2 := by
      rw [linkTable_links raw, List.mem_filter] at listed
      exact ⟨listed.1, by simpa using listed.2⟩
    have distinct : s1 ≠ s2 := by
      rintro rfl
      have empty : linkTable order s1 s1 = .missing := linkTable_eq_missing.mpr
        fun link known first second => simple link known (first.trans second.symm)
      exact absurd (raw.symm.trans empty) Adjacent.noConfusion
    dsimp only
    rw [if_neg distinct]
    cases found : links.find? fun link => order.contains link.flip with
    | some link =>
      obtain ⟨known, rfl, rfl⟩ := ends (List.mem_of_find?_eq_some found)
      have back : link.flip ∈ order := by simpa using List.find?_some found
      have settled : Settled order
          (adj.setBoth link.dpid1 link.dpid2 (.port link.port1) (.port link.port2))
          link.dpid1 link.dpid2 :=
        .inl ⟨link.port1, link.port2, setBoth_here distinct, setBoth_there, known, back⟩
      obtain ⟨culling', kept⟩ := culling_setBoth culling settled
      exact ⟨_, rfl, culling', kept, .inl settled⟩
    | none =>
      have apart : ¬ Linked order s1 s2 := by
        rintro ⟨link, known, back, rfl, rfl⟩
        have listed : link ∈ links := by
          rw [linkTable_links raw, List.mem_filter]
          exact ⟨known, by simp⟩
        exact absurd (by simpa using back) (List.find?_eq_none.mp found link listed)
      have settled : Settled order (adj.setBoth s1 s2 .missing .missing) s1 s2 :=
        .inr ⟨setBoth_here distinct, setBoth_there, apart⟩
      obtain ⟨culling', kept⟩ := culling_setBoth culling settled
      exact ⟨_, rfl, culling', kept, .inl settled⟩

/-- All switches of the links. -/
def Enumerates (order : List Link) (sws : List Dpid) : Prop :=
  ∀ dpid, dpid ∈ sws ↔ ∃ link ∈ order, link.dpid1 = dpid ∨ link.dpid2 = dpid

/-- Once the links are culled, the entries of each two switches are settled. -/
theorem cullLinks_spec (simple : ∀ link ∈ order, link.dpid1 ≠ link.dpid2) {sws : List Dpid}
    (all : Enumerates order sws) :
    ∃ adj, cullLinks order sws = .ok adj ∧ ∀ u v, Settled order adj u v := by
  have refl (adj : LinkTable) : KeepsCulled order adj adj := fun _ _ culled => culled
  have trans {adj adj' adj'' : LinkTable} (first : KeepsCulled order adj adj')
      (second : KeepsCulled order adj' adj'') : KeepsCulled order adj adj'' :=
    fun u v culled => second u v (first u v culled)
  have row (adj : LinkTable) (s1 : Dpid) (_ : s1 ∈ sws) (culling : Culling order adj) :
      ∃ adj', sws.foldlM (cullPair order s1) adj = .ok adj' ∧ Culling order adj' ∧
        KeepsCulled order adj adj' ∧ ∀ s2 ∈ sws, Culled order adj' s1 s2 :=
    Fallible.foldlM_each (Culling order) (KeepsCulled order)
      (fun s2 adj => Culled order adj s1 s2) refl trans (fun gained keeps => keeps _ _ gained)
      (fun adj s2 _ culling => cullPair_spec simple culling s1 s2) culling
  have raw : Culling order (linkTable order) := fun u v => .inl ⟨rfl, rfl⟩
  obtain ⟨adj, returns, culling, -, culled⟩ :
      ∃ adj, cullLinks order sws = .ok adj ∧ Culling order adj ∧
        KeepsCulled order (linkTable order) adj ∧
          ∀ s1 ∈ sws, ∀ s2 ∈ sws, Culled order adj s1 s2 :=
    Fallible.foldlM_each (Culling order) (KeepsCulled order)
      (fun s1 adj => ∀ s2 ∈ sws, Culled order adj s1 s2) refl trans
      (fun gained keeps s2 listed => keeps _ _ (gained s2 listed)) row raw
  refine ⟨adj, returns, fun u v => ?_⟩
  rcases culling u v with ⟨here, there⟩ | settled
  · -- What is still as it was has no link: both directions were looked at.
    have missing {u v : Dpid} (here : adj u v = linkTable order u v) :
        Settled order adj u v ∨ linkTable order u v = .missing := by
      by_cases listed : u ∈ sws ∧ v ∈ sws
      · exact (culled u listed.1 v listed.2).imp_right here.symm.trans
      · refine .inr (linkTable_eq_missing.mpr fun link known first second => listed ?_)
        exact ⟨(all u).mpr ⟨link, known, .inl first⟩, (all v).mpr ⟨link, known, .inr second⟩⟩
    rcases missing here with settled | none_
    · exact settled
    rcases missing there with settled | none_'
    · exact settled.symm
    refine .inr ⟨here.trans none_, there.trans none_', ?_⟩
    rintro ⟨link, known, -, first, second⟩
    exact linkTable_eq_missing.mp none_ link known first second
  · exact settled

/-- A link from a switch to itself makes the assertion fail. -/
theorem cullLinks_error {link : Link} (known : link ∈ order) (loop : link.dpid1 = link.dpid2)
    {sws : List Dpid} (all : Enumerates order sws) :
    cullLinks order sws = .error .assertionError := by
  obtain ⟨links, entry⟩ :
      ∃ links, linkTable order link.dpid1 link.dpid1 = .links links := by
    cases entry : linkTable order link.dpid1 link.dpid1 with
    | missing => exact absurd loop.symm (linkTable_eq_missing.mp entry link known rfl)
    | links links => exact ⟨links, rfl⟩
    | port p => exact absurd entry (linkTable_ne_port p)
  have listed : link.dpid1 ∈ sws := (all _).mpr ⟨link, known, .inl rfl⟩
  -- No other pair changes the entry of the switch for itself.
  have pair (s1 : Dpid) (adj : LinkTable) (s2 : Dpid)
      (here : adj link.dpid1 link.dpid1 = .links links) :
      cullPair order s1 adj s2 = .error .assertionError ∨
        ∃ adj', cullPair order s1 adj s2 = .ok adj' ∧
          adj' link.dpid1 link.dpid1 = .links links := by
    unfold cullPair
    cases adj s1 s2 with
    | missing => exact .inr ⟨adj, rfl, here⟩
    | port p => exact .inr ⟨adj, rfl, here⟩
    | links others =>
      dsimp only
      split_ifs with same
      · exact .inl rfl
      · have kept (first second : Adjacent) :
            adj.setBoth s1 s2 first second link.dpid1 link.dpid1 = .links links := by
          rw [setBoth_of_ne (fun both => same (both.1.symm.trans both.2))
            fun both => same (both.2.symm.trans both.1), here]
        cases others.find? fun other => order.contains other.flip with
        | none => exact .inr ⟨_, rfl, kept _ _⟩
        | some other => exact .inr ⟨_, rfl, kept _ _⟩
  refine Fallible.foldlM_error (fun adj => adj link.dpid1 link.dpid1 = .links links)
    (fun adj s1 here => Fallible.foldlM_cases _ (pair s1) sws here) listed
    (fun adj here => ?_) entry
  refine Fallible.foldlM_error (fun adj => adj link.dpid1 link.dpid1 = .links links)
    (pair link.dpid1) listed (fun adj here => ?_) here
  rw [cullPair, here]
  exact if_pos rfl

end Cull

/-! ## Growing -/

section Grow

open SimpleGraph

variable {adj : LinkTable} {tree : Tree} {u v w : Dpid} {p q : PortNo}

/-- Two switches have kept a link. -/
def Kept (adj : LinkTable) (u v : Dpid) : Prop :=
  ∃ p q, adj u v = .port p ∧ adj v u = .port q

theorem Kept.symm (kept : Kept adj u v) : Kept adj v u := by
  obtain ⟨p, q, here, there⟩ := kept
  exact ⟨q, p, there, here⟩

/-- The edges of a tree are those of links that were kept, in both directions. -/
def Tree.Within (tree : Tree) (adj : LinkTable) : Prop :=
  ∀ ⦃u v p⦄, (v, p) ∈ tree u → adj u v = .port p ∧ u ≠ v ∧ ∃ q, adj v u = .port q ∧ (u, q) ∈ tree v

theorem mem_addEdge (distinct : v ≠ w) {x : Dpid × PortNo} :
    x ∈ tree.addEdge v w p q u ↔
      (u = v ∧ x = (w, p)) ∨ (u = w ∧ x = (v, q)) ∨ x ∈ tree u := by
  unfold Tree.addEdge
  split_ifs with there here
  · subst there
    simp [distinct.symm]
  · subst here
    simp [there]
  · simp [there, here]

theorem graph_adj {tree : Tree} : tree.graph.Adj u v ↔
    u ≠ v ∧ ((∃ p, (v, p) ∈ tree u) ∨ ∃ p, (u, p) ∈ tree v) := .rfl

theorem graph_addEdge (distinct : v ≠ w) (p q : PortNo) :
    (tree.addEdge v w p q).graph = tree.graph ⊔ edge v w := by
  ext a b
  rw [sup_adj, edge_adj, graph_adj, graph_adj]
  simp only [mem_addEdge distinct, Prod.mk.injEq]
  constructor
  · rintro
      ⟨apart, ⟨p', ⟨rfl, rfl, -⟩ | ⟨rfl, rfl, -⟩ | old⟩ | ⟨p', ⟨rfl, rfl, -⟩ | ⟨rfl, rfl, -⟩ | old⟩⟩
    · exact .inr ⟨.inl ⟨rfl, rfl⟩, apart⟩
    · exact .inr ⟨.inr ⟨rfl, rfl⟩, apart⟩
    · exact .inl ⟨apart, .inl ⟨p', old⟩⟩
    · exact .inr ⟨.inr ⟨rfl, rfl⟩, apart⟩
    · exact .inr ⟨.inl ⟨rfl, rfl⟩, apart⟩
    · exact .inl ⟨apart, .inr ⟨p', old⟩⟩
  · rintro (⟨apart, ⟨p', old⟩ | ⟨p', old⟩⟩ | ⟨⟨rfl, rfl⟩ | ⟨rfl, rfl⟩, apart⟩)
    · exact ⟨apart, .inl ⟨p', .inr (.inr old)⟩⟩
    · exact ⟨apart, .inr ⟨p', .inr (.inr old)⟩⟩
    · exact ⟨apart, .inl ⟨p, .inl ⟨rfl, rfl, rfl⟩⟩⟩
    · exact ⟨apart, .inl ⟨q, .inr (.inl ⟨rfl, rfl, rfl⟩)⟩⟩

/-- A switch with an edge is a key of the tree. -/
theorem Tree.Within.ne_empty (within : tree.Within adj) (near : tree.graph.Adj u v) :
    tree u ≠ ∅ := by
  obtain ⟨-, ⟨p, listed⟩ | ⟨p, listed⟩⟩ := near
  · exact Finset.ne_empty_of_mem listed
  · obtain ⟨-, -, q, -, back⟩ := within listed
    exact Finset.ne_empty_of_mem back

theorem Tree.Within.ne_empty_of_reachable (within : tree.Within adj) (distinct : u ≠ v)
    (reachable : tree.graph.Reachable u v) : tree u ≠ ∅ := by
  obtain ⟨walk⟩ := reachable
  cases walk with
  | nil => exact absurd rfl distinct
  | cons near _ => exact within.ne_empty near

theorem Tree.Within.addEdge (within : tree.Within adj) (distinct : v ≠ w)
    (here : adj v w = .port p) (there : adj w v = .port q) :
    (tree.addEdge v w p q).Within adj := by
  intro a b r listed
  rcases (mem_addEdge distinct).mp listed with ⟨rfl, same⟩ | ⟨rfl, same⟩ | old
  · obtain ⟨rfl, rfl⟩ := Prod.mk.inj same
    exact ⟨here, distinct, q, there, (mem_addEdge distinct).mpr (.inr (.inl ⟨rfl, rfl⟩))⟩
  · obtain ⟨rfl, rfl⟩ := Prod.mk.inj same
    exact ⟨there, distinct.symm, p, here, (mem_addEdge distinct).mpr (.inl ⟨rfl, rfl⟩)⟩
  · obtain ⟨port, apart, back, port', old'⟩ := within old
    exact ⟨port, apart, back, port', (mem_addEdge distinct).mpr (.inr (.inr old'))⟩

/-- The switches that are no keys yet. -/
def unreached (sws : List Dpid) (tree : Tree) : Finset Dpid :=
  sws.toFinset.filter fun x => tree x = ∅

/-- What the loop over the neighbours of a switch has left so far. -/
structure Visiting (adj : LinkTable) (sws : List Dpid) (v : Dpid) (before : Tree)
    (state : Tree × List Dpid) : Prop where
  within : state.1.Within adj
  acyclic : state.1.graph.IsAcyclic
  grown : before.graph ≤ state.1.graph
  keys : ∀ x, state.1 x ≠ ∅ ↔ before x ≠ ∅ ∨ x ∈ state.2 ∨ (x = v ∧ state.2 ≠ [])
  more : ∀ x ∈ state.2, state.1.graph.Adj v x
  fewer : (unreached sws state.1).card + state.2.length ≤ (unreached sws before).card

theorem addEdge_ne_empty (distinct : v ≠ w) (x : Dpid) :
    tree.addEdge v w p q x ≠ ∅ ↔ x = v ∨ x = w ∨ tree x ≠ ∅ := by
  rw [← Finset.nonempty_iff_ne_empty, ← Finset.nonempty_iff_ne_empty]
  constructor
  · rintro ⟨y, listed⟩
    rcases (mem_addEdge distinct).mp listed with ⟨rfl, -⟩ | ⟨rfl, -⟩ | old
    · exact .inl rfl
    · exact .inr (.inl rfl)
    · exact .inr (.inr ⟨y, old⟩)
  · rintro (rfl | rfl | ⟨y, old⟩)
    · exact ⟨_, (mem_addEdge distinct).mpr (.inl ⟨rfl, rfl⟩)⟩
    · exact ⟨_, (mem_addEdge distinct).mpr (.inr (.inl ⟨rfl, rfl⟩))⟩
    · exact ⟨y, (mem_addEdge distinct).mpr (.inr (.inr old))⟩

theorem unreached_addEdge_lt {sws : List Dpid} (distinct : v ≠ w) (listed : w ∈ sws)
    (fresh : tree w = ∅) :
    (unreached sws (tree.addEdge v w p q)).card < (unreached sws tree).card := by
  refine Finset.card_lt_card (Finset.ssubset_iff_subset_ne.mpr ⟨fun x => ?_, fun same => ?_⟩)
  · simp only [unreached, Finset.mem_filter]
    refine And.imp_right fun empty => by_contra fun old => ?_
    exact (addEdge_ne_empty distinct x).mpr (.inr (.inr old)) empty
  · have there : w ∈ unreached sws tree := by
      simp [unreached, listed, fresh]
    rw [← same, unreached, Finset.mem_filter] at there
    exact (addEdge_ne_empty distinct w).mpr (.inr (.inl rfl)) there.2

/-- One neighbour that was not reached is added, and no cycle is closed. -/
theorem Visiting.addEdge {sws : List Dpid} {before : Tree} {more : List Dpid}
    (visiting : Visiting adj sws v before (tree, more)) (distinct : v ≠ w) (listed : w ∈ sws)
    (here : adj v w = .port p) (there : adj w v = .port q) (fresh : tree w = ∅) :
    Visiting adj sws v before (tree.addEdge v w p q, w :: more) := by
  have graph : (tree.addEdge v w p q).graph = tree.graph ⊔ edge v w :=
    graph_addEdge distinct p q
  have isolated : ¬ tree.graph.Reachable v w := fun reachable =>
    visiting.within.ne_empty_of_reachable distinct.symm reachable.symm fresh
  refine ⟨visiting.within.addEdge distinct here there, ?_, ?_, fun x => ?_, fun x x_in => ?_, ?_⟩
  · rw [graph]
    exact visiting.acyclic.sup_edge_of_not_reachable isolated
  · rw [graph]
    exact visiting.grown.trans le_sup_left
  · rw [addEdge_ne_empty distinct, visiting.keys x]
    simp only [List.mem_cons, ne_eq, reduceCtorEq, not_false_eq_true, and_true]
    tauto
  · rw [graph, sup_adj, edge_adj]
    rcases List.mem_cons.mp x_in with rfl | x_in
    · exact .inr ⟨.inl ⟨rfl, rfl⟩, distinct⟩
    · exact .inl (visiting.more x x_in)
  · have fewer := visiting.fewer
    have less := unreached_addEdge_lt (p := p) (q := q) distinct listed fresh
    rw [List.length_cons]
    dsimp only at fewer less ⊢
    omega

theorem Visiting.attach {sws : List Dpid} {before : Tree} {state : Tree × List Dpid}
    (loopless : ∀ u, ¬ Kept adj u u) (visiting : Visiting adj sws v before state)
    (listed : w ∈ sws) :
    Visiting adj sws v before (attach adj v state w) ∧
      (∀ x, state.1 x ≠ ∅ → (Pox.attach adj v state w).1 x ≠ ∅) ∧
        (Kept adj v w → (Pox.attach adj v state w).1 w ≠ ∅) := by
  obtain ⟨tree, more⟩ := state
  by_cases kept : Kept adj v w
  · have distinct : v ≠ w := fun same => loopless v (same ▸ kept)
    obtain ⟨p, q, here, there⟩ := kept
    unfold Pox.attach
    rw [here, there]
    dsimp only
    split_ifs with old
    · exact ⟨visiting, fun _ key => key, fun _ => old⟩
    · exact ⟨visiting.addEdge distinct listed here there (not_not.mp old),
        fun x key => (addEdge_ne_empty distinct x).mpr (.inr (.inr key)),
        fun _ => (addEdge_ne_empty distinct w).mpr (.inr (.inl rfl))⟩
  · have same : Pox.attach adj v (tree, more) w = (tree, more) := by
      unfold Pox.attach
      split
      · next here there => exact absurd ⟨_, _, here, there⟩ kept
      · rfl
    rw [same]
    exact ⟨visiting, fun _ key => key, fun kept' => absurd kept' kept⟩

/-- The loop over the neighbours reaches all of them. -/
theorem Visiting.foldl {sws ws : List Dpid} {before : Tree} {state : Tree × List Dpid}
    (loopless : ∀ u, ¬ Kept adj u u) (visiting : Visiting adj sws v before state)
    (inside : ∀ w ∈ ws, w ∈ sws) :
    Visiting adj sws v before (ws.foldl (Pox.attach adj v) state) ∧
      (∀ x, state.1 x ≠ ∅ → (ws.foldl (Pox.attach adj v) state).1 x ≠ ∅) ∧
        ∀ w ∈ ws, Kept adj v w → (ws.foldl (Pox.attach adj v) state).1 w ≠ ∅ := by
  induction ws generalizing state with
  | nil => exact ⟨visiting, fun _ key => key, fun w listed => absurd listed List.not_mem_nil⟩
  | cons w rest ih =>
    obtain ⟨first, kept, reached⟩ := visiting.attach loopless (inside w List.mem_cons_self)
    obtain ⟨all, kept', reached'⟩ := ih first fun w listed =>
      inside w (List.mem_cons_of_mem _ listed)
    rw [List.foldl_cons, List.forall_mem_cons]
    exact ⟨all, fun x key => kept' x (kept x key), fun near => kept' w (reached near), reached'⟩

/-- What the main loop has left so far. The switches in front of the queue were reached, the others
wait for a tree of their own. -/
structure Growing (adj : LinkTable) (done : Finset Dpid) (front : List Dpid) (tree : Tree) :
    Prop where
  within : tree.Within adj
  acyclic : tree.graph.IsAcyclic
  keys : ∀ x ∈ front, tree x ≠ ∅
  covered : ∀ x, tree x ≠ ∅ → x ∈ done ∨ x ∈ front
  joined : ∀ x ∈ front, ∀ y ∈ front, tree.graph.Reachable x y
  closed : ∀ x ∈ done, ∀ y, Kept adj x y → tree.graph.Reachable x y

theorem Growing.start (adj : LinkTable) : Growing adj ∅ [] fun _ => ∅ where
  within _ _ _ listed := absurd listed (Finset.notMem_empty _)
  acyclic := by
    have bot : Tree.graph (fun _ => ∅) = ⊥ := by
      ext a b
      rw [graph_adj]
      simp
    rw [bot]
    exact isAcyclic_bot
  keys _ listed := absurd listed List.not_mem_nil
  covered _ key := absurd rfl key
  joined _ listed := absurd listed List.not_mem_nil
  closed _ listed := absurd listed (Finset.notMem_empty _)

/-- A switch from the queue that was not done yet is visited. Where it begins a new tree, no switch
is in front of it. -/
theorem Growing.visit {sws : List Dpid} {done : Finset Dpid} {front : List Dpid}
    (loopless : ∀ u, ¬ Kept adj u u) (inside : ∀ ⦃u v⦄, Kept adj u v → v ∈ sws)
    (growing : Growing adj done front tree) (fresh : v ∉ done)
    {later : List Dpid} (next : front = v :: later ∨ (front = [] ∧ later = [])) :
    let reached := sws.foldl (attach adj v) (tree, [])
    Growing adj (insert v done) (reached.2.mergeSort ++ later) reached.1 ∧
      (unreached sws reached.1).card + reached.2.length ≤ (unreached sws tree).card := by
  intro reached
  have begun : Visiting adj sws v tree (tree, []) :=
    ⟨growing.within, growing.acyclic, le_rfl, fun x => by simp, fun x listed =>
      absurd listed List.not_mem_nil, le_rfl⟩
  obtain ⟨visiting, kept, all⟩ := begun.foldl loopless fun w (listed : w ∈ sws) => listed
  change Visiting adj sws v tree reached at visiting
  have sorted {x : Dpid} : x ∈ reached.2.mergeSort ↔ x ∈ reached.2 :=
    (List.mergeSort_perm reached.2 _).mem_iff
  have inFront {x : Dpid} (listed : x ∈ later) : x ∈ front ∧ v ∈ front := by
    rcases next with rfl | ⟨-, rfl⟩
    · exact ⟨List.mem_cons_of_mem v listed, List.mem_cons_self⟩
    · exact absurd listed List.not_mem_nil
  have neighbour {w : Dpid} (near : Kept adj v w) : reached.1.graph.Reachable v w := by
    rcases (visiting.keys w).mp (all w (inside near) near) with old | new | ⟨rfl, -⟩
    · rcases growing.covered w old with listed | listed
      · exact ((growing.closed w listed v near.symm).mono visiting.grown).symm
      · rcases next with rfl | ⟨rfl, -⟩
        · exact (growing.joined v List.mem_cons_self w listed).mono visiting.grown
        · exact absurd listed List.not_mem_nil
    · exact (visiting.more w new).reachable
    · exact absurd near (loopless w)
  have fromHere {x : Dpid} (listed : x ∈ reached.2.mergeSort ++ later) :
      reached.1.graph.Reachable v x := by
    rcases List.mem_append.mp listed with new | old
    · exact (visiting.more x (sorted.mp new)).reachable
    · exact (growing.joined v (inFront old).2 x (inFront old).1).mono visiting.grown
  refine ⟨⟨visiting.within, visiting.acyclic, fun x listed => ?_, fun x key => ?_,
    fun x first y second => (fromHere first).symm.trans (fromHere second),
    fun x listed y near => ?_⟩, visiting.fewer⟩
  · rcases List.mem_append.mp listed with new | old
    · exact (visiting.keys x).mpr (.inr (.inl (sorted.mp new)))
    · exact kept x (growing.keys x (inFront old).1)
  · rcases (visiting.keys x).mp key with old | new | ⟨rfl, -⟩
    · rcases growing.covered x old with listed | listed
      · exact .inl (Finset.mem_insert_of_mem listed)
      · rcases next with rfl | ⟨rfl, -⟩
        · rcases List.mem_cons.mp listed with rfl | listed
          · exact .inl (Finset.mem_insert_self x done)
          · exact .inr (List.mem_append_right _ listed)
        · exact absurd listed List.not_mem_nil
    · exact .inr (List.mem_append_left _ (sorted.mpr new))
    · exact .inl (Finset.mem_insert_self x done)
  · rcases Finset.mem_insert.mp listed with rfl | listed
    · exact neighbour near
    · exact (growing.closed x listed y near).mono visiting.grown

/-- A switch from the queue that was done is left out. -/
theorem Growing.skip {done : Finset Dpid} {front later : List Dpid}
    (growing : Growing adj done front tree) (old : v ∈ done)
    (next : front = v :: later ∨ (front = [] ∧ later = [])) : Growing adj done later tree := by
  rcases next with rfl | ⟨rfl, rfl⟩
  · refine ⟨growing.within, growing.acyclic,
      fun x listed => growing.keys x (List.mem_cons_of_mem v listed), fun x key => ?_,
      fun x first y second => growing.joined x (List.mem_cons_of_mem v first) y
        (List.mem_cons_of_mem v second), growing.closed⟩
    rcases growing.covered x key with listed | listed
    · exact .inl listed
    · rcases List.mem_cons.mp listed with rfl | listed
      · exact .inl old
      · exact .inr listed
  · exact growing

/-- The loop ends, with every switch done. -/
theorem growTree_spec {sws : List Dpid} (loopless : ∀ u, ¬ Kept adj u u)
    (inside : ∀ ⦃u v⦄, Kept adj u v → v ∈ sws) {done : Finset Dpid} {front back : List Dpid}
    (growing : Growing adj done front tree)
    (waiting : ∀ x ∈ sws, x ∈ done ∨ x ∈ front ++ back) {rounds : ℕ}
    (enough : (unreached sws tree).card + (front ++ back).length < rounds) :
    ∃ tree' done', growTree adj sws rounds (front ++ back) done tree = .ok tree' ∧
      Growing adj done' [] tree' ∧ ∀ x ∈ sws, x ∈ done' := by
  induction rounds generalizing done front back tree with
  | zero => exact absurd enough (Nat.not_lt_zero _)
  | succ rounds ih =>
    rcases queue : front ++ back with _ | ⟨v, q⟩
    · obtain ⟨rfl, rfl⟩ := List.append_eq_nil_iff.mp queue
      exact ⟨tree, done, rfl, growing, fun x listed => (waiting x listed).resolve_right
        List.not_mem_nil⟩
    obtain ⟨later, rest, rfl, next⟩ : ∃ later rest, q = later ++ rest ∧
        (front = v :: later ∨ (front = [] ∧ later = [])) := by
      cases front with
      | nil => exact ⟨[], q, rfl, .inr ⟨rfl, rfl⟩⟩
      | cons x later =>
        obtain ⟨rfl, rfl⟩ := List.cons.inj queue
        exact ⟨later, back, rfl, .inl rfl⟩
    rw [queue] at enough waiting
    rw [List.length_cons] at enough
    rw [growTree]
    split_ifs with old
    · refine ih (growing.skip old next) (fun x listed => ?_) (by omega)
      rcases waiting x listed with listed | listed
      · exact .inl listed
      · rcases List.mem_cons.mp listed with rfl | listed
        · exact .inl old
        · exact .inr listed
    · obtain ⟨growing', fewer⟩ := growing.visit loopless inside old next
      have grown := ih growing' (fun x listed => (?_ : _ ∨ x ∈ _ ++ rest)) ?_
      · rwa [List.append_assoc] at grown
      · rcases waiting x listed with listed | listed
        · exact .inl (Finset.mem_insert_of_mem listed)
        · rcases List.mem_cons.mp listed with rfl | listed
          · exact .inl (Finset.mem_insert_self x done)
          · rw [List.append_assoc]
            exact .inr (List.mem_append_right _ listed)
      · rw [List.append_assoc, List.length_append, List.length_mergeSort]
        omega

theorem growTree_mono {sws q : List Dpid} {done : Finset Dpid} {tree' : Tree} {rounds : ℕ}
    (ends : growTree adj sws rounds q done tree = .ok tree') {more : ℕ} (enough : rounds ≤ more) :
    growTree adj sws more q done tree = .ok tree' := by
  induction rounds generalizing more q done tree with
  | zero => cases ends
  | succ rounds ih =>
    obtain ⟨more, rfl⟩ : ∃ below, more = below + 1 := ⟨more - 1, by omega⟩
    cases q with
    | nil => exact ends
    | cons v q =>
      rw [growTree] at ends ⊢
      split_ifs at ends ⊢
      · exact ih ends (by omega)
      · exact ih ends (by omega)

end Grow

/-! ## The spanning tree -/

section Span

open SimpleGraph

variable {order : List Link} {sws : List Dpid}

/-- What is kept are the pairs that are linked. -/
theorem kept_iff {adj : LinkTable} {u v : Dpid} (settled : Settled order adj u v) :
    Kept adj u v ↔ Linked order u v := by
  rcases settled with ⟨p, q, here, there, known, back⟩ | ⟨here, there, apart⟩
  · exact iff_of_true ⟨p, q, here, there⟩ ⟨_, known, back, rfl, rfl⟩
  · refine iff_of_false ?_ apart
    rintro ⟨p, q, port, -⟩
    exact absurd (here.symm.trans port) Adjacent.noConfusion

/-- Links that lead from a switch to another one have a spanning tree. -/
theorem spans_of_simple (simple : ∀ link ∈ order, link.dpid1 ≠ link.dpid2)
    (all : Enumerates order sws) :
    ∃ tree, Rounds.Finishes (calcSpanningTree order sws) tree ∧ Spans order tree := by
  obtain ⟨adj, culled, settled⟩ := cullLinks_spec simple all
  have kept (u v : Dpid) : Kept adj u v ↔ Linked order u v := kept_iff (settled u v)
  have loopless (u : Dpid) : ¬ Kept adj u u := by
    rw [kept]
    rintro ⟨link, known, -, first, second⟩
    exact simple link known (first.trans second.symm)
  have inside ⦃u v : Dpid⦄ (near : Kept adj u v) : v ∈ sws := by
    obtain ⟨link, known, -, -, rfl⟩ := (kept u v).mp near
    exact (all _).mpr ⟨link, known, .inr rfl⟩
  have waiting (x : Dpid) (listed : x ∈ sws) : x ∈ (∅ : Finset Dpid) ∨ x ∈ [] ++ sws.mergeSort :=
    .inr ((List.mergeSort_perm sws _).mem_iff.mpr listed)
  obtain ⟨rounds, enough⟩ : ∃ rounds, (unreached sws fun _ => ∅).card +
      ([] ++ sws.mergeSort).length < rounds := ⟨_, Nat.lt_succ_self _⟩
  obtain ⟨tree, done, ends, growing, finished⟩ :=
    growTree_spec loopless inside (Growing.start adj) waiting enough
  have finishes : Rounds.Finishes (calcSpanningTree order sws) tree := by
    refine ⟨rounds, fun more later => ?_⟩
    rw [calcSpanningTree, culled]
    exact growTree_mono ends later
  refine ⟨tree, finishes, fun {u v p} listed => ?_, growing.acyclic,
    fun u v => ⟨fun reachable => ?_, fun reachable => ?_⟩⟩
  · obtain ⟨here, -, q, there, back⟩ := growing.within listed
    rcases settled u v with ⟨p', q', here', there', known, known'⟩ | ⟨here', -⟩
    · obtain rfl := Adjacent.port.inj (here.symm.trans here')
      obtain rfl := Adjacent.port.inj (there.symm.trans there')
      exact ⟨q, known, known', back⟩
    · exact absurd (here.symm.trans here') Adjacent.noConfusion
  · have linked {a b : Dpid} {p : PortNo} (listed : (b, p) ∈ tree a) : Linked order a b := by
      obtain ⟨here, -, q, there, -⟩ := growing.within listed
      exact (kept a b).mp ⟨p, q, here, there⟩
    refine reachable.mono fun a b near => ?_
    obtain ⟨apart, ⟨p, listed⟩ | ⟨p, listed⟩⟩ := near
    · exact ⟨apart, .inl (linked listed)⟩
    · exact ⟨apart, .inr (linked listed)⟩
  · have joined {a b : Dpid} (linked : Linked order a b) : tree.graph.Reachable a b := by
      have near := (kept a b).mpr linked
      exact growing.closed a (finished a (inside near.symm)) b near
    obtain ⟨walk⟩ := reachable
    induction walk with
    | nil => exact .refl _
    | cons near _ ih =>
      obtain ⟨-, linked | linked⟩ := near
      · exact (joined linked).trans ih
      · exact (joined linked).symm.trans ih

/-- `_calc_spanning_tree`, of whatever links were discovered: it ends, and leaves a forest without
a cycle that reaches what the links reach; unless a link leads from a switch to itself. -/
theorem calcSpanningTree_spec (all : Enumerates order sws) :
    ((∀ link ∈ order, link.dpid1 ≠ link.dpid2) ∧
      ∃ tree, Rounds.Finishes (calcSpanningTree order sws) tree ∧ Spans order tree) ∨
    ((∃ link ∈ order, link.dpid1 = link.dpid2) ∧
      ∀ rounds, calcSpanningTree order sws rounds = .error .assertionError) := by
  by_cases simple : ∀ link ∈ order, link.dpid1 ≠ link.dpid2
  · exact .inl ⟨simple, spans_of_simple simple all⟩
  · push Not at simple
    obtain ⟨link, known, loop⟩ := simple
    refine .inr ⟨⟨link, known, loop⟩, fun rounds => ?_⟩
    rw [calcSpanningTree, cullLinks_error known loop all]
    rfl

theorem calcSpanningTree_spec_line :
    ((∀ link ∈ [Link.mk 1 3 2 4, ⟨2, 4, 1, 3⟩], link.dpid1 ≠ link.dpid2) ∧
      ∃ tree, Rounds.Finishes (calcSpanningTree [⟨1, 3, 2, 4⟩, ⟨2, 4, 1, 3⟩] [2, 1]) tree ∧
        Spans [⟨1, 3, 2, 4⟩, ⟨2, 4, 1, 3⟩] tree) ∨
    ((∃ link ∈ [Link.mk 1 3 2 4, ⟨2, 4, 1, 3⟩], link.dpid1 = link.dpid2) ∧
      ∀ rounds, calcSpanningTree [⟨1, 3, 2, 4⟩, ⟨2, 4, 1, 3⟩] [2, 1] rounds =
        .error .assertionError) :=
  calcSpanningTree_spec fun dpid => by
    simp only [List.mem_cons, List.not_mem_nil, or_false, exists_eq_or_imp, exists_eq_left]
    grind

end Span

end SimpleRouter.Pox
