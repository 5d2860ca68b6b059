/-
# Loading a routing table

A table is to be loaded as a whole or not at all: with an entry for each line that has four
fields, made of these fields, or else the table is to stay as it was.

`sr_load_rt` reads every line into the same four buffers and does not ask how many of them
`sscanf` has filled. What a line lacks is left over from the lines before it, so a short line
repeats a part of another. The old table is dropped with the first line that is accepted, though
a later one may be refused, and it is kept if there is no line.
-/

import SimpleRouter.Controller
import SimpleRouter.Library.TextLines

namespace SimpleRouter

open Effects FixedFields TextLines

/-! ## The functions -/

/-- `BUFSIZ`. -/
def bufsiz : ℕ := 8192

def newline : UInt8 := 10

/-- The words that as many conversions `%s` of `sscanf` read from a string. -/
def scanWords : ℕ → Bytes → List Bytes
  | 0, _ => []
  | conversions + 1, s =>
    let word := s.dropWhile isSpace
    if word = [] then []
    else word.takeWhile (fun c => !isSpace c) ::
      scanWords conversions (word.dropWhile fun c => !isSpace c)

/-- The buffers `dest`, `gw`, `mask` and `iface`, as strings. -/
structure RtBuffers where
  dest : Bytes
  gw : Bytes
  mask : Bytes
  iface : Bytes
  deriving DecidableEq

/-- Fill as many buffers as there are words. -/
def RtBuffers.fill (buffers : RtBuffers) : List Bytes → RtBuffers
  | [] => buffers
  | [dest] => { buffers with dest }
  | [dest, gw] => { buffers with dest, gw }
  | [dest, gw, mask] => { buffers with dest, gw, mask }
  | dest :: gw :: mask :: iface :: _ => ⟨dest, gw, mask, iface⟩

/-- What `sscanf` with `"%s %s %s %s"` reads from a line. -/
def fieldsOf (line : Bytes) : List Bytes := scanWords 4 (text 0 line)

/-- `sscanf(line, "%s %s %s %s", dest, gw, mask, iface)`. Each buffer has 32 bytes. -/
def sscanfLine (buffers : RtBuffers) (line : Bytes) : Outcome (Bytes × SrRt) Fault RtBuffers :=
  if ∀ field ∈ fieldsOf line, field.length < 32 then pure (buffers.fill (fieldsOf line))
  else .stop .outOfBounds

/-- `sr_add_rt_entry`. -/
def srAddRtEntry (sr : SrInstance) (dest gw mask : Ip) (ifName : IfName) : SrInstance :=
  { sr with routingTable := sr.routingTable ++ [⟨dest, gw, mask, ifName⟩] }

/-- The loop of `sr_load_rt` over the lines that `fgets` reads. An event is a call of
`sr_add_rt_entry`, with the line it is made for. -/
def loadLines (inetAton : Bytes → Option Ip) :
    List Bytes → RtBuffers → Bool → SrInstance → Outcome (Bytes × SrRt) Fault (ℤ × SrInstance)
  | [], _, _, sr => pure (0, sr)
  | line :: rest, buffers, cleared, sr => do
    let buffers ← sscanfLine buffers line
    match inetAton buffers.dest with
    | none => pure (-1, sr)
    | some dest => match inetAton buffers.gw with
      | none => pure (-1, sr)
      | some gw => match inetAton buffers.mask with
        | none => pure (-1, sr)
        | some mask => do
          let sr := if cleared then sr else { sr with routingTable := [] }
          .emit (line, ⟨dest, gw, mask, cName buffers.iface⟩)
          loadLines inetAton rest buffers true (srAddRtEntry sr dest gw mask (cName buffers.iface))

/-- `sr_load_rt`, if the file has this content or cannot be read. The buffers hold what has been
on the stack. -/
def srLoadRt (inetAton : Bytes → Option Ip) (file : Option Bytes) (buffers : RtBuffers)
    (sr : SrInstance) : Outcome (Bytes × SrRt) Fault (ℤ × SrInstance) :=
  match file with
  | none => pure (-1, sr)
  | some content =>
    loadLines inetAton (readLines newline (bufsiz - 1) content.length content) buffers false sr

/-! ## What is asked of the code -/

section Property

variable (inetAton : Bytes → Option Ip)

/-- The entry of four fields, if all addresses are ones. -/
def entryOf (buffers : RtBuffers) : Option SrRt := do
  let dest ← inetAton buffers.dest
  let gw ← inetAton buffers.gw
  let mask ← inetAton buffers.mask
  some ⟨dest, gw, mask, cName buffers.iface⟩

/-- The entry of a line that has four fields. -/
def ownEntry (line : Bytes) : Option SrRt :=
  match fieldsOf line with
  | [dest, gw, mask, iface] => entryOf inetAton ⟨dest, gw, mask, iface⟩
  | _ => none

/-- The line has four fields, or more. -/
def FullLine (line : Bytes) : Prop := (fieldsOf line).length = 4

instance (line : Bytes) : Decidable (FullLine line) := inferInstanceAs (Decidable (_ = _))

/-- The lines of a file. -/
def linesOf : Option Bytes → List Bytes
  | none => []
  | some content => lines newline content

/-- Every line fits the line buffer and each of its fields the buffer for it. -/
structure FitsBuffers (file : Option Bytes) : Prop where
  lines : ∀ line ∈ linesOf file, line.length < bufsiz
  fields : ∀ line ∈ linesOf file, ∀ field ∈ fieldsOf line, field.length ≤ 31

/-- Entries come from lines that have them. If all went well, the table has those of the full
lines, and if not, it is as before. -/
structure LoadedExactly (file : Option Bytes) (sr : SrInstance) (added : List (Bytes × SrRt))
    (ret : ℤ) (sr' : SrInstance) : Prop where
  own : ∀ add ∈ added, ownEntry inetAton add.1 = some add.2
  exact : ret = 0 →
    ((linesOf file).filter FullLine).map (ownEntry inetAton) = sr'.routingTable.map some
  atomic : ret = -1 → sr'.routingTable = sr.routingTable
  result : ret = 0 ∨ ret = -1
  frame : sr'.ifList = sr.ifList

/-- The load returns and has been exact. -/
def LoadsExactly (file : Option Bytes) (buffers : RtBuffers) (sr : SrInstance) : Prop :=
  ∃ added ret sr', srLoadRt inetAton file buffers sr = .returned added (ret, sr') ∧
    LoadedExactly inetAton file sr added ret sr'

/-! ## When the code does it -/

/-- The buffers after a line. -/
def RtBuffers.after (buffers : RtBuffers) (line : Bytes) : RtBuffers := buffers.fill (fieldsOf line)

/-- Every line has an entry. -/
def AllEntries (lines : List Bytes) : Prop := ∀ line ∈ lines, (ownEntry inetAton line).isSome

/-- The file cannot be read; or it has no line and there was no table; or all its lines have
entries; or those before the first that is refused have, and they are the table already, if
there are any. -/
def LoadCondition (file : Option Bytes) (buffers : RtBuffers) (sr : SrInstance) : Prop :=
  file = none ∨ (linesOf file = [] ∧ sr.routingTable = []) ∨
    (linesOf file ≠ [] ∧ AllEntries inetAton (linesOf file)) ∨
    ∃ good bad rest, linesOf file = good ++ bad :: rest ∧ AllEntries inetAton good ∧
      entryOf inetAton ((good.foldl RtBuffers.after buffers).after bad) = none ∧
      (good = [] ∨ good.map (ownEntry inetAton) = sr.routingTable.map some)

end Property

/-! ## The loop -/

section Loop

variable {inetAton : Bytes → Option Ip} {buffers : RtBuffers} {sr : SrInstance} {line : Bytes}
  {lines good : List Bytes} {entry : SrRt}

/-- The lines that are accepted with their entries, and whether all are. -/
def accepted (inetAton : Bytes → Option Ip) : List Bytes → RtBuffers → List (Bytes × SrRt) × Bool
  | [], _ => ([], true)
  | line :: rest, buffers =>
    match entryOf inetAton (buffers.after line) with
    | none => ([], false)
    | some entry =>
      let later := accepted inetAton rest (buffers.after line)
      ((line, entry) :: later.1, later.2)

/-- The table with entries that are added. The first of them clears it, if it is not cleared yet. -/
def extended (cleared : Bool) (table : List SrRt) (added : List (Bytes × SrRt)) : List SrRt :=
  if added = [] then table else (if cleared then table else []) ++ added.map Prod.snd

theorem loadLines_cons (narrow : ∀ field ∈ fieldsOf line, field.length ≤ 31) (rest : List Bytes)
    (cleared : Bool) :
    loadLines inetAton (line :: rest) buffers cleared sr =
      match entryOf inetAton (buffers.after line) with
      | none => pure (-1, sr)
      | some entry => .emit (line, entry) >>= fun _ =>
        loadLines inetAton rest (buffers.after line) true
          { sr with routingTable := (if cleared then sr.routingTable else []) ++ [entry] } := by
  have scans : sscanfLine buffers line = pure (buffers.after line) :=
    if_pos fun field listed => Nat.lt_succ_of_le (narrow field listed)
  rw [loadLines, scans, pure_bind, entryOf]
  cases inetAton (buffers.after line).dest with
  | none => rfl
  | some dest =>
    cases inetAton (buffers.after line).gw with
    | none => rfl
    | some gw =>
      cases inetAton (buffers.after line).mask with
      | none => rfl
      | some mask => cases cleared <;> rfl

/-- The loop adds what it accepts. -/
theorem loadLines_eq (narrow : ∀ line ∈ lines, ∀ field ∈ fieldsOf line, field.length ≤ 31)
    (cleared : Bool) :
    loadLines inetAton lines buffers cleared sr =
      .returned (accepted inetAton lines buffers).1
        (if (accepted inetAton lines buffers).2 then 0 else -1,
          { sr with
            routingTable :=
              extended cleared sr.routingTable (accepted inetAton lines buffers).1 }) := by
  induction lines generalizing buffers cleared sr with
  | nil => rfl
  | cons line rest ih =>
    rw [loadLines_cons (narrow line List.mem_cons_self), accepted]
    cases entryOf inetAton (buffers.after line) with
    | none => rfl
    | some entry =>
      dsimp only
      rw [ih fun other listed => narrow other (List.mem_cons_of_mem _ listed), Outcome.emit,
        Outcome.returned_bind]
      -- Behind the first entry the table is not cleared again.
      by_cases last : (accepted inetAton rest (buffers.after line)).1 = []
      · simp [extended, last, Outcome.returned]
      · simp [extended, last, Outcome.returned]

/-- A full line overwrites all the buffers. -/
theorem entryOf_after_of_own (own : ownEntry inetAton line = some entry) (buffers : RtBuffers) :
    entryOf inetAton (buffers.after line) = some entry := by
  unfold ownEntry at own
  split at own
  · next dest gw mask iface fields =>
    rw [RtBuffers.after, fields]
    exact own
  · cases own

theorem fullLine_of_own (own : (ownEntry inetAton line).isSome) : FullLine line := by
  unfold ownEntry at own
  split at own
  · next fields =>
    rw [FullLine, fields]
    rfl
  · cases own

/-- Lines that have entries are accepted, whatever is in the buffers. -/
theorem accepted_append (own : AllEntries inetAton good) (rest : List Bytes) (buffers : RtBuffers) :
    ∃ added : List (Bytes × SrRt), added.map Prod.fst = good ∧
      (∀ add ∈ added, ownEntry inetAton add.1 = some add.2) ∧
      accepted inetAton (good ++ rest) buffers =
        (added ++ (accepted inetAton rest (good.foldl RtBuffers.after buffers)).1,
          (accepted inetAton rest (good.foldl RtBuffers.after buffers)).2) := by
  induction good generalizing buffers with
  | nil => exact ⟨[], rfl, by simp, rfl⟩
  | cons line good ih =>
    obtain ⟨entry, first⟩ := Option.isSome_iff_exists.mp (own line List.mem_cons_self)
    obtain ⟨added, firsts, owns, accepts⟩ :=
      ih (fun other listed => own other (List.mem_cons_of_mem _ listed)) (buffers.after line)
    refine ⟨(line, entry) :: added, congrArg (line :: ·) firsts, ?_, ?_⟩
    · rintro add (_ | ⟨_, listed⟩)
      · exact first
      · exact owns add listed
    · rw [List.cons_append, accepted, entryOf_after_of_own first]
      dsimp only
      rw [accepts]
      rfl

/-- All lines are accepted, or there is a first that is not. -/
theorem accepted_split (inetAton : Bytes → Option Ip) (lines : List Bytes) (buffers : RtBuffers) :
    ((accepted inetAton lines buffers).2 = true ∧
        (accepted inetAton lines buffers).1.map Prod.fst = lines) ∨
      ∃ good bad rest, lines = good ++ bad :: rest ∧
        (accepted inetAton lines buffers).2 = false ∧
        (accepted inetAton lines buffers).1.map Prod.fst = good ∧
        entryOf inetAton ((good.foldl RtBuffers.after buffers).after bad) = none := by
  induction lines generalizing buffers with
  | nil => exact .inl ⟨rfl, rfl⟩
  | cons line lines ih =>
    rw [accepted]
    cases first : entryOf inetAton (buffers.after line) with
    | none => exact .inr ⟨[], line, lines, rfl, rfl, rfl, first⟩
    | some entry =>
      rcases ih (buffers.after line) with ⟨all, firsts⟩ |
        ⟨good, bad, rest, rfl, refused, firsts, none⟩
      · exact .inl ⟨all, congrArg (line :: ·) firsts⟩
      · exact .inr ⟨line :: good, bad, rest, rfl, refused, congrArg (line :: ·) firsts, none⟩

theorem map_ownEntry_of_own {added : List (Bytes × SrRt)}
    (own : ∀ add ∈ added, ownEntry inetAton add.1 = some add.2) :
    (added.map Prod.fst).map (ownEntry inetAton) = (added.map Prod.snd).map some := by
  rw [List.map_map, List.map_map]
  exact List.map_congr_left own

theorem allEntries_of_own {added : List (Bytes × SrRt)}
    (own : ∀ add ∈ added, ownEntry inetAton add.1 = some add.2) :
    AllEntries inetAton (added.map Prod.fst) := by
  intro line listed
  obtain ⟨add, member, rfl⟩ := List.mem_map.mp listed
  rw [own add member]
  rfl

end Loop

/-! ## The whole load -/

section Load

variable {inetAton : Bytes → Option Ip} {file : Option Bytes} {content : Bytes}
  {buffers : RtBuffers} {sr : SrInstance}

/-- What is accepted of the lines of the file is added. -/
theorem srLoadRt_eq (fits : FitsBuffers (some content)) :
    srLoadRt inetAton (some content) buffers sr =
      .returned (accepted inetAton (lines newline content) buffers).1
        (if (accepted inetAton (lines newline content) buffers).2 then 0 else -1,
          { sr with
            routingTable := extended false sr.routingTable
              (accepted inetAton (lines newline content) buffers).1 }) := by
  have reads : readLines newline (bufsiz - 1) content.length content = lines newline content :=
    readLines_eq_lines (Nat.le_refl _) fun line listed => Nat.le_pred_of_lt (fits.lines line listed)
  rw [srLoadRt, reads]
  exact loadLines_eq fits.fields false

theorem loadsExactly_iff (fits : FitsBuffers (some content)) :
    LoadsExactly inetAton (some content) buffers sr ↔
      LoadedExactly inetAton (some content) sr (accepted inetAton (lines newline content) buffers).1
        (if (accepted inetAton (lines newline content) buffers).2 then 0 else -1)
        { sr with
          routingTable := extended false sr.routingTable
            (accepted inetAton (lines newline content) buffers).1 } := by
  constructor
  · rintro ⟨added, ret, sr', loads, exactly⟩
    rw [srLoadRt_eq fits] at loads
    cases loads
    exact exactly
  · exact fun exactly => ⟨_, _, _, srLoadRt_eq fits, exactly⟩

/-- If every line has an entry, the entries become the table. -/
theorem loadedExactly_of_allEntries (some : lines newline content ≠ [])
    (own : AllEntries inetAton (lines newline content)) :
    LoadedExactly inetAton (.some content) sr
      (accepted inetAton (lines newline content) buffers).1
      (if (accepted inetAton (lines newline content) buffers).2 then 0 else -1)
      { sr with
        routingTable := extended false sr.routingTable
          (accepted inetAton (lines newline content) buffers).1 } := by
  obtain ⟨added, firsts, owns, accepts⟩ := accepted_append own [] buffers
  rw [List.append_nil, accepted, List.append_nil] at accepts
  have nonempty : added ≠ [] := by
    rintro rfl
    exact some firsts.symm
  have full : (lines newline content).filter FullLine = lines newline content :=
    List.filter_eq_self.mpr fun line listed => decide_eq_true (fullLine_of_own (own line listed))
  rw [accepts]
  refine ⟨owns, fun _ => ?_, by simp, by simp, rfl⟩
  rw [linesOf, full, extended, if_neg nonempty, ← firsts]
  exact map_ownEntry_of_own owns

/-- If a line is refused, the entries before it must be the table already. -/
theorem loadedExactly_of_refused {good rest : List Bytes} {bad : Bytes}
    (split : lines newline content = good ++ bad :: rest) (own : AllEntries inetAton good)
    (refused : entryOf inetAton ((good.foldl RtBuffers.after buffers).after bad) = none)
    (same : good = [] ∨ good.map (ownEntry inetAton) = sr.routingTable.map some) :
    LoadedExactly inetAton (some content) sr
      (accepted inetAton (lines newline content) buffers).1
      (if (accepted inetAton (lines newline content) buffers).2 then 0 else -1)
      { sr with
        routingTable := extended false sr.routingTable
          (accepted inetAton (lines newline content) buffers).1 } := by
  obtain ⟨added, firsts, owns, accepts⟩ := accepted_append own (bad :: rest) buffers
  have stops : accepted inetAton (bad :: rest) (good.foldl RtBuffers.after buffers) =
      ([], false) := by
    rw [accepted, refused]
  rw [stops, List.append_nil] at accepts
  rw [split, accepts]
  refine ⟨owns, by simp, fun _ => ?_, by simp, rfl⟩
  by_cases nothing : added = []
  · exact if_pos nothing
  · have entries : good.map (ownEntry inetAton) = sr.routingTable.map some :=
      same.resolve_left fun empty => nothing (List.map_eq_nil_iff.mp (firsts.trans empty))
    rw [← firsts, map_ownEntry_of_own owns] at entries
    have table := List.map_injective_iff.mpr (fun _ _ => Option.some.inj) entries
    exact (if_neg nothing).trans table

/-- A load is exact if and only if the file cannot be read, or it has no line and there was no
table, or all its lines have entries, or the lines before the first that is refused have and are
the table already. -/
theorem loadsExactly_iff_condition (fits : FitsBuffers file) :
    LoadsExactly inetAton file buffers sr ↔ LoadCondition inetAton file buffers sr := by
  cases file with
  | none =>
    exact iff_of_true ⟨[], -1, sr, rfl, by simp, by simp, fun _ => rfl, .inr rfl, rfl⟩ (.inl rfl)
  | some content =>
    rw [loadsExactly_iff fits]
    constructor
    · intro exactly
      have own := exactly.own
      rcases accepted_split inetAton (lines newline content) buffers with
        ⟨all, firsts⟩ | ⟨good, bad, rest, split, refused, firsts, stops⟩
      · by_cases empty : lines newline content = []
        · have table := exactly.exact (if_pos all)
          rw [linesOf, empty] at table
          exact .inr (.inl ⟨empty, (List.map_eq_nil_iff.mp table.symm)⟩)
        · refine .inr (.inr (.inl ⟨empty, ?_⟩))
          rw [linesOf, ← firsts]
          exact allEntries_of_own own
      · refine .inr (.inr (.inr
          ⟨good, bad, rest, split, firsts ▸ allEntries_of_own own, stops, ?_⟩))
        by_cases nothing : (accepted inetAton (lines newline content) buffers).1 = []
        · exact .inl (by rw [← firsts, nothing, List.map_nil])
        · have table := exactly.atomic (by rw [refused]; rfl)
          refine .inr ?_
          rw [← firsts, map_ownEntry_of_own own, ← table, extended, if_neg nothing]
          rfl
    · rintro (none | ⟨empty, table⟩ | ⟨some, own⟩ | ⟨good, bad, rest, split, own, refused, same⟩)
      · cases none
      · have nothing : lines newline content = [] := empty
        rw [nothing]
        exact ⟨by simp [accepted], by simp [linesOf, nothing, accepted, extended, table],
          fun _ => rfl, .inl rfl, rfl⟩
      · exact loadedExactly_of_allEntries some own
      · exact loadedExactly_of_refused split own refused same

end Load

/-- A line of a routing table file. -/
def tableLine (route : SrRt) : Bytes :=
  inetNtoa route.dest ++ [32] ++ inetNtoa route.gw ++ [32] ++ inetNtoa route.mask ++ [32] ++
    route.interface.chars ++ [newline]

/-- `inet_aton` for the addresses in `rtable`, as they are written there. -/
def sampleAton (s : Bytes) : Option Ip :=
  [.replicate 4 0, .replicate 4 255, clientIp, server1Ip, server2Ip].find? fun ip => inetNtoa ip = s

/-- Buffers that hold nothing yet. -/
def emptyBuffers : RtBuffers := ⟨[], [], [], []⟩

theorem loadsExactly_tableLine :
    LoadsExactly sampleAton (some (tableLine defaultRoute)) emptyBuffers sampleInstance :=
  (loadsExactly_iff_condition ⟨by decide, by decide⟩).mpr
    (.inr (.inr (.inl ⟨by decide, by unfold AllEntries; decide⟩)))

/-- An empty line repeats the entry of the line before it. -/
theorem not_loadsExactly_emptyLine :
    FitsBuffers (some (tableLine defaultRoute ++ [newline])) ∧
      ¬ LoadsExactly sampleAton (some (tableLine defaultRoute ++ [newline])) emptyBuffers
        sampleInstance := by
  have fits : FitsBuffers (some (tableLine defaultRoute ++ [newline])) :=
    ⟨by decide, by decide⟩
  refine ⟨fits, fun exactly => ?_⟩
  have own := ((loadsExactly_iff fits).mp exactly).own
  exact absurd own (by decide)

end SimpleRouter
