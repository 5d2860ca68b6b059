/-
# The flow table of the software switch

`SwitchFlowTable` of `flow_table.py` keeps its entries in a list that is sorted by falling priority,
and takes the first entry that fits a packet. Over any run of flow mods, packets and expiries it
does what its flows do, which are no list that is searched: a packet gets the actions of the flow of
the highest priority that covers it, of the first installed one of these.
-/

import Mathlib.Data.Rat.Defs
import SimpleRouter.Library.Ranked
import SimpleRouter.Pox.Match

namespace SimpleRouter.Pox

open Ranked

/-! ## Entries -/

structure Counters where
  created : ℚ
  lastTouched : ℚ
  bytes : ℕ
  packets : ℕ

structure TableEntry (Action : Type) where
  priority : ℕ
  cookie : ℕ
  idleTimeout : ℕ
  hardTimeout : ℕ
  flowMatch : Match
  actions : List Action
  /-- None for `-1`. -/
  bufferId : Option ℕ
  counters : Counters

structure FlowMod (Action : Type) where
  flowMatch : Match
  cookie : ℕ
  command : ℕ
  idleTimeout : ℕ
  hardTimeout : ℕ
  priority : ℕ
  bufferId : Option ℕ
  outPort : ℕ
  flags : ℕ
  actions : List Action

variable {Action : Type}

/-- `from_flow_mod` -/
def TableEntry.fromFlowMod (flowMod : FlowMod Action) (now : ℚ) : TableEntry Action where
  priority := flowMod.priority
  cookie := flowMod.cookie
  idleTimeout := flowMod.idleTimeout
  hardTimeout := flowMod.hardTimeout
  flowMatch := flowMod.flowMatch
  actions := flowMod.actions
  bufferId := flowMod.bufferId
  counters := ⟨now, now, 0, 0⟩

def TableEntry.isMatchedBy (entry : TableEntry Action) (flowMatch : Match) (priority : ℕ)
    (strict : Bool) : Bool :=
  if strict then entry.flowMatch.eq flowMatch && entry.priority == priority
  else flowMatch.matchesWithWildcards entry.flowMatch true

def TableEntry.touchPacket (entry : TableEntry Action) (byteCount : ℕ) (now : ℚ) :
    TableEntry Action :=
  { entry with counters :=
      { entry.counters with
        bytes := entry.counters.bytes + byteCount
        packets := entry.counters.packets + 1
        lastTouched := now } }

def TableEntry.isExpired (entry : TableEntry Action) (now : ℚ) : Bool :=
  (0 < entry.hardTimeout && (entry.hardTimeout : ℚ) < now - entry.counters.created) ||
    (0 < entry.idleTimeout && (entry.idleTimeout : ℚ) < now - entry.counters.lastTouched)

/-- What `add_entry` sorts by. -/
def TableEntry.key (entry : TableEntry Action) : ℕ :=
  if entry.flowMatch.isWildcarded then entry.priority else (1 <<< 16) + 1

/-! ## The table -/

abbrev FlowTable (Action : Type) := List (TableEntry Action)

namespace FlowTable

def addEntry (table : FlowTable Action) (entry : TableEntry Action) : FlowTable Action :=
  ranked TableEntry.key (table ++ [entry])

def matchingEntries (table : FlowTable Action) (flowMatch : Match) (priority : ℕ)
    (strict : Bool) : List (TableEntry Action) :=
  table.filter (·.isMatchedBy flowMatch priority strict)

/-- What `remove_matching_entries` leaves. -/
def removeMatchingEntries (table : FlowTable Action) (flowMatch : Match) (priority : ℕ)
    (strict : Bool) : FlowTable Action :=
  table.filter (!·.isMatchedBy flowMatch priority strict)

/-- What `remove_expired_entries` leaves. -/
def removeExpiredEntries (table : FlowTable Action) (now : ℚ) : FlowTable Action :=
  table.filter (!·.isExpired now)

/-- The test of `entry_for_packet`. -/
def fits (packet : Ethernet) (inPort : Option ℕ) (entry : TableEntry Action) : Bool :=
  entry.flowMatch.matchesWithWildcards (Match.fromPacket packet inPort) false

def entryForPacket (table : FlowTable Action) (packet : Ethernet) (inPort : Option ℕ) :
    Option (TableEntry Action) :=
  table.find? (fits packet inPort)

/-- The entry that `entry_for_packet` returns is changed in its place. -/
def modifyFirst (p : TableEntry Action → Bool) (f : TableEntry Action → TableEntry Action) :
    FlowTable Action → FlowTable Action
  | [] => []
  | entry :: table => if p entry then f entry :: table else entry :: modifyFirst p f table

end FlowTable

/-- The exceptions of `process_flow_mod`. -/
inductive FlowModError where
  | checkOverlapNotImplemented
  | outPortNotImplemented
  | commandNotImplemented (command : ℕ)

inductive FlowModResult (Action : Type) where
  | added
  | modified (entries : List (TableEntry Action))
  | removed (entries : List (TableEntry Action))

/-- `OFPFF_CHECK_OVERLAP` -/
def ofpffCheckOverlap : ℕ := 2

/-- `OFPP_NONE` -/
def ofppNone : ℕ := 65535

/-- The branch of `process_flow_mod` for the two commands to modify. -/
def FlowTable.modifyMatching (table : FlowTable Action) (flowMod : FlowMod Action) (strict : Bool)
    (now : ℚ) : FlowModResult Action × FlowTable Action :=
  let matched (entry : TableEntry Action) :=
    entry.isMatchedBy flowMod.flowMatch flowMod.priority strict
  if table.any matched then
    let table := table.map fun entry =>
      if matched entry then { entry with actions := flowMod.actions } else entry
    (.modified (table.filter matched), table)
  else (.added, table.addEntry (.fromFlowMod flowMod now))

/-- `process_flow_mod`, where `now` is the time at which an entry is made. -/
def FlowTable.processFlowMod (table : FlowTable Action) (flowMod : FlowMod Action) (now : ℚ) :
    Except FlowModError (FlowModResult Action × FlowTable Action) :=
  if flowMod.flags &&& ofpffCheckOverlap ≠ 0 then .error .checkOverlapNotImplemented
  else if flowMod.outPort ≠ ofppNone then .error .outPortNotImplemented
  else match flowMod.command with
    | 0 =>
      let table := table.removeMatchingEntries flowMod.flowMatch flowMod.priority true
      .ok (.added, table.addEntry (.fromFlowMod flowMod now))
    | 1 => .ok (table.modifyMatching flowMod false now)
    | 2 => .ok (table.modifyMatching flowMod true now)
    -- both commands to delete are strict
    | 3 | 4 =>
      .ok (.removed (table.matchingEntries flowMod.flowMatch flowMod.priority true),
        table.removeMatchingEntries flowMod.flowMatch flowMod.priority true)
    | command => .error (.commandNotImplemented command)

/-! ## Runs of the table -/

/-- What `process_flow_mod` makes of the table; an exception leaves it. -/
def FlowTable.processed (table : FlowTable Action) (flowMod : FlowMod Action) (now : ℚ) :
    FlowTable Action :=
  match table.processFlowMod flowMod now with
  | .ok (_, table) => table
  | .error _ => table

/-- What happens to the table of a switch. -/
inductive TableOp (Action : Type) where
  | flowMod (flowMod : FlowMod Action) (now : ℚ)
  | packet (packet : Ethernet) (inPort : Option ℕ) (length : ℕ) (now : ℚ)
  | expire (now : ℚ)

/-- What a packet gets: the actions of an entry, or none. -/
abbrev Answer (Action : Type) := Option (List Action)

/-- One step, and what it answers to a packet. -/
def FlowTable.step (table : FlowTable Action) : TableOp Action →
    FlowTable Action × List (Answer Action)
  | .flowMod flowMod now => (table.processed flowMod now, [])
  | .packet packet inPort length now =>
    match table.entryForPacket packet inPort with
    | some entry =>
      (table.modifyFirst (fits packet inPort) (·.touchPacket length now), [some entry.actions])
    | none => (table, [none])
  | .expire now => (table.removeExpiredEntries now, [])

def FlowTable.run (table : FlowTable Action) :
    List (TableOp Action) → FlowTable Action × List (Answer Action)
  | [] => (table, [])
  | op :: ops =>
    let (table, answers) := table.step op
    let (table, answers') := run table ops
    (table, answers ++ answers')

/-! ## The flows themselves -/

/-- The two are one flow: a flow mod replaces or deletes the one for the other. -/
def TableEntry.SameFlow (entry entry' : TableEntry Action) : Prop :=
  entry.flowMatch.eq entry'.flowMatch = true ∧ entry.priority = entry'.priority

/-- Flows in the order of their installation. -/
abbrev Flows (Action : Type) := List (TableEntry Action)

namespace Flows

open Classical

/-- The flow is the one that a flow mod names. -/
def Named (flowMod : FlowMod Action) (flow : TableEntry Action) : Prop :=
  flow.flowMatch.eq flowMod.flowMatch = true ∧ flow.priority = flowMod.priority

/-- The flow is one that a flow mod without a strict command is about. -/
def Concerned (flowMod : FlowMod Action) (flow : TableEntry Action) : Prop :=
  flowMod.flowMatch.matchesWithWildcards flow.flowMatch true = true

/-- The flow mod is one that the table can process. -/
def Legal (flowMod : FlowMod Action) : Prop :=
  flowMod.flags &&& ofpffCheckOverlap = 0 ∧ flowMod.outPort = ofppNone

/-- The flow that a packet belongs to. -/
noncomputable def best (flows : Flows Action) (packet : Headers) : Option (TableEntry Action) :=
  (flows.filter fun flow => flow.flowMatch.Covers packet).argmax TableEntry.key

noncomputable def change (flows : Flows Action) (which : TableEntry Action → Prop)
    (f : TableEntry Action → TableEntry Action) : Flows Action :=
  flows.map fun flow => if which flow then f flow else flow

noncomputable def drop (flows : Flows Action) (which : TableEntry Action → Prop) : Flows Action :=
  flows.filter fun flow => ¬ which flow

/-- The actions of some flows are replaced, or a flow is installed if there are none. -/
noncomputable def modify (flows : Flows Action) (which : TableEntry Action → Prop)
    (flowMod : FlowMod Action) (now : ℚ) : Flows Action :=
  if ∃ flow ∈ flows, which flow then flows.change which ({ · with actions := flowMod.actions })
  else flows ++ [.fromFlowMod flowMod now]

noncomputable def process (flows : Flows Action) (flowMod : FlowMod Action) (now : ℚ) :
    Flows Action :=
  if Legal flowMod then
    match flowMod.command with
    | 0 => flows.drop (Named flowMod) ++ [.fromFlowMod flowMod now]
    | 1 => flows.modify (Concerned flowMod) flowMod now
    | 2 => flows.modify (Named flowMod) flowMod now
    | 3 | 4 => flows.drop (Named flowMod)
    | _ => flows
  else flows

noncomputable def step (flows : Flows Action) : TableOp Action →
    Flows Action × List (Answer Action)
  | .flowMod flowMod now => (flows.process flowMod now, [])
  | .packet packet inPort length now =>
    match flows.best (packet.headers inPort) with
    | some flow => (flows.change flow.SameFlow (·.touchPacket length now), [some flow.actions])
    | none => (flows, [none])
  | .expire now => (flows.drop (·.isExpired now = true), [])

noncomputable def run (flows : Flows Action) : List (TableOp Action) →
    Flows Action × List (Answer Action)
  | [] => (flows, [])
  | op :: ops =>
    let (flows, answers) := flows.step op
    let (flows, answers') := run flows ops
    (flows, answers ++ answers')

end Flows

/-! ## The table refines the flows -/

section Refinement

open Classical

variable {table : FlowTable Action} {flows : Flows Action} {flow flow' : TableEntry Action}
  {f : TableEntry Action → TableEntry Action} {which : TableEntry Action → Prop}

theorem TableEntry.SameFlow.refl (flow : TableEntry Action) : flow.SameFlow flow :=
  ⟨Match.eq_refl _, rfl⟩

theorem TableEntry.SameFlow.symm (same : flow.SameFlow flow') : flow'.SameFlow flow :=
  ⟨Match.eq_symm same.1, same.2.symm⟩

/-- A change of an entry that leaves what it matches, and its priority. -/
def KeepsFlow (f : TableEntry Action → TableEntry Action) : Prop :=
  ∀ flow, (f flow).flowMatch = flow.flowMatch ∧ (f flow).priority = flow.priority

theorem KeepsFlow.key (keeps : KeepsFlow f) (flow : TableEntry Action) :
    (f flow).key = flow.key := by
  rw [TableEntry.key, TableEntry.key, (keeps flow).1, (keeps flow).2]

theorem KeepsFlow.only (keeps : KeepsFlow f) (which : TableEntry Action → Prop) :
    KeepsFlow fun flow => if which flow then f flow else flow := by
  intro flow
  dsimp only
  split_ifs
  · exact keeps flow
  · exact ⟨rfl, rfl⟩

/-- The table holds the flows, sorted, and no flow twice. -/
structure Refines (table : FlowTable Action) (flows : Flows Action) : Prop where
  sorted : table = ranked TableEntry.key flows
  single : flows.Pairwise fun flow flow' => ¬ flow.SameFlow flow'

theorem Refines.nil : Refines ([] : FlowTable Action) [] := ⟨ranked_nil.symm, .nil⟩

theorem Refines.mem (refines : Refines table flows) : flow ∈ table ↔ flow ∈ flows := by
  rw [refines.sorted, mem_ranked]

theorem Refines.map (refines : Refines table flows) (keeps : KeepsFlow f) :
    Refines (table.map f) (flows.map f) where
  sorted := by
    rw [refines.sorted, map_ranked keeps.key]
  single := by
    refine List.pairwise_map.mpr (refines.single.imp fun {a b} apart same => apart ?_)
    rw [TableEntry.SameFlow, (keeps a).1, (keeps a).2, (keeps b).1, (keeps b).2] at same
    exact same

theorem Refines.change (refines : Refines table flows) (keeps : KeepsFlow f) :
    Refines (table.map fun flow => if which flow then f flow else flow) (flows.change which f) :=
  refines.map (keeps.only which)

theorem Refines.drop (refines : Refines table flows) {p : TableEntry Action → Bool}
    (same : ∀ flow, p flow = true ↔ which flow) :
    Refines (table.filter (!p ·)) (flows.drop which) := by
  have bool : (fun flow => !p flow) = fun flow => decide ¬ which flow := by
    funext flow
    rw [decide_not, Bool.eq_iff_iff, Bool.not_eq_true', Bool.not_eq_true', ← Bool.not_eq_true,
      ← Bool.not_eq_true, same, decide_eq_true_eq]
  refine ⟨?_, refines.single.filter _⟩
  rw [refines.sorted, filter_ranked, bool, Flows.drop]

theorem Refines.add (refines : Refines table flows)
    (fresh : ∀ flow' ∈ flows, ¬ flow'.SameFlow flow) :
    Refines (table.addEntry flow) (flows ++ [flow]) where
  sorted := by
    rw [FlowTable.addEntry, refines.sorted, ranked_append]
  single := by
    refine List.pairwise_append.mpr ⟨refines.single, List.pairwise_singleton _ _, ?_⟩
    intro flow' listed _ last
    rw [List.mem_singleton.mp last]
    exact fresh flow' listed

/-- The entry for a packet is the flow that it belongs to. -/
theorem Refines.entryForPacket (refines : Refines table flows) (packet : Ethernet)
    (inPort : Option ℕ) :
    table.entryForPacket packet inPort = flows.best (packet.headers inPort) := by
  have fits : FlowTable.fits packet inPort =
      fun flow : TableEntry Action => decide (flow.flowMatch.Covers (packet.headers inPort)) := by
    funext flow
    rw [FlowTable.fits, Bool.eq_iff_iff, Match.matchesWithWildcards_fromPacket, decide_eq_true_eq]
  rw [FlowTable.entryForPacket, refines.sorted, find?_ranked, fits, Flows.best]

/-- The entry of a packet is changed in its place. -/
theorem FlowTable.modifyFirst_eq_map {p : TableEntry Action → Bool}
    (single : table.Pairwise fun flow flow' => ¬ flow.SameFlow flow')
    (first : table.find? p = some flow) :
    table.modifyFirst p f = table.map fun flow' =>
      if flow.SameFlow flow' then f flow' else flow' := by
  induction table with
  | nil => cases first
  | cons flow' table ih =>
    rw [List.pairwise_cons] at single
    rw [List.find?_cons] at first
    rw [FlowTable.modifyFirst, List.map_cons]
    cases has : p flow' with
    | true =>
      rw [has] at first
      obtain rfl := Option.some.inj first
      rw [if_pos rfl, if_pos (.refl flow')]
      have others :
          (table.map fun other => if flow'.SameFlow other then f other else other) = table :=
        (List.map_congr_left fun other listed => if_neg (single.1 other listed)).trans
          (List.map_id' table)
      rw [others]
    | false =>
      rw [has] at first
      rw [if_neg Bool.false_ne_true, ih single.2 first, if_neg]
      exact fun same => single.1 flow (List.mem_of_find?_eq_some first) same.symm

theorem isMatchedBy_true_iff {flowMod : FlowMod Action} :
    flow.isMatchedBy flowMod.flowMatch flowMod.priority true = true ↔ Flows.Named flowMod flow := by
  rw [TableEntry.isMatchedBy, if_pos rfl, Bool.and_eq_true, beq_iff_eq]
  exact .rfl

theorem isMatchedBy_false_iff {flowMod : FlowMod Action} :
    flow.isMatchedBy flowMod.flowMatch flowMod.priority false = true ↔
      Flows.Concerned flowMod flow := .rfl

theorem concerned_of_named {flowMod : FlowMod Action} (named : Flows.Named flowMod flow) :
    Flows.Concerned flowMod flow := by
  rw [Flows.Concerned, Match.matchesWithWildcards, if_pos (Match.eq_symm named.1)]

theorem Refines.modifyMatching {flowMod : FlowMod Action} {strict : Bool} {now : ℚ}
    (refines : Refines table flows)
    (same : ∀ flow : TableEntry Action,
      flow.isMatchedBy flowMod.flowMatch flowMod.priority strict = true ↔ which flow)
    (named : ∀ flow, Flows.Named flowMod flow → which flow) :
    Refines (table.modifyMatching flowMod strict now).2 (flows.modify which flowMod now) := by
  have some_ : (table.any fun flow =>
      flow.isMatchedBy flowMod.flowMatch flowMod.priority strict) = true ↔
        ∃ flow ∈ flows, which flow := by
    simp only [List.any_eq_true, refines.mem, same]
  rw [FlowTable.modifyMatching, Flows.modify]
  by_cases concerned : ∃ flow ∈ flows, which flow
  · rw [if_pos (some_.mpr concerned), if_pos concerned]
    simp only [same]
    exact refines.change fun _ => ⟨rfl, rfl⟩
  · rw [if_neg (some_.not.mpr concerned), if_neg concerned]
    exact refines.add fun flow listed is => concerned ⟨flow, listed, named flow is⟩

theorem Refines.process (refines : Refines table flows) (flowMod : FlowMod Action) (now : ℚ) :
    Refines (table.processed flowMod now) (flows.process flowMod now) := by
  rw [FlowTable.processed, FlowTable.processFlowMod, Flows.process]
  by_cases legal : Flows.Legal flowMod
  · rw [if_neg (not_not_intro legal.1), if_neg (not_not_intro legal.2), if_pos legal]
    have dropped : Refines (table.removeMatchingEntries flowMod.flowMatch flowMod.priority true)
        (flows.drop (Flows.Named flowMod)) :=
      refines.drop fun flow => isMatchedBy_true_iff
    match flowMod.command with
    | 0 => exact dropped.add fun flow listed same =>
        of_decide_eq_true (List.mem_filter.mp listed).2 same
    | 1 =>
      exact refines.modifyMatching (fun flow => isMatchedBy_false_iff) fun flow =>
        concerned_of_named
    | 2 =>
      exact refines.modifyMatching (fun flow => isMatchedBy_true_iff) fun flow named => named
    | 3 | 4 => exact dropped
    | _ + 5 => exact refines
  · rw [if_neg legal]
    by_cases flags : flowMod.flags &&& ofpffCheckOverlap = 0
    · rw [if_neg (not_not_intro flags), if_pos fun port => legal ⟨flags, port⟩]
      exact refines
    · rw [if_pos flags]
      exact refines

theorem Refines.step (refines : Refines table flows) (op : TableOp Action) :
    Refines (table.step op).1 (flows.step op).1 ∧ (table.step op).2 = (flows.step op).2 := by
  cases op with
  | flowMod flowMod now => exact ⟨refines.process flowMod now, rfl⟩
  | packet packet inPort length now =>
    rw [FlowTable.step, Flows.step, ← refines.entryForPacket]
    cases found : table.entryForPacket packet inPort with
    | none => exact ⟨refines, rfl⟩
    | some flow =>
      refine ⟨?_, rfl⟩
      have single : table.Pairwise fun flow flow' => ¬ flow.SameFlow flow' := by
        rw [refines.sorted]
        exact ((ranked_perm _ flows).pairwise_iff fun apart same => apart same.symm).mpr
          refines.single
      rw [FlowTable.modifyFirst_eq_map single found]
      exact refines.change fun _ => ⟨rfl, rfl⟩
  | expire now => exact ⟨refines.drop fun flow => .rfl, rfl⟩

/-- Over any run the table answers every packet as its flows do. -/
theorem Refines.run (refines : Refines table flows) (ops : List (TableOp Action)) :
    Refines (table.run ops).1 (flows.run ops).1 ∧ (table.run ops).2 = (flows.run ops).2 := by
  induction ops generalizing table flows with
  | nil => exact ⟨refines, rfl⟩
  | cons op ops ih =>
    obtain ⟨after, answer⟩ := refines.step op
    obtain ⟨last, answers⟩ := ih after
    exact ⟨last, congrArg₂ _ answer answers⟩

end Refinement

end SimpleRouter.Pox
