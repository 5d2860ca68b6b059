/-
# Runs with their history

A history lists what the interleaved system has done, the latest step first: which
program was started, which operation was executed and what it answered, which move
the environment made, together with the state before the step and the events it
emitted. Every run has a history, so a property of histories that each step keeps is
a property of runs.
-/

import SimpleRouter.Library.Interleaving

namespace Effects

namespace Machine

/-- What a step of the interleaved system was. The programs are named by labels. -/
inductive Happening (Op : Type) (Resp : Op → Type) (ι κ L : Type)
  | start (label : L)
  | op (i : ι) (o : Op) (r : Resp o)
  | move (k : κ)

/-- A line of a history. -/
structure Entry (Op : Type) (Resp : Op → Type) (σ ι κ ε L : Type) where
  before : σ
  what : Happening Op Resp ι κ L
  sent : List ε

variable {Op : Type} {Resp : Op → Type} {σ ι κ ε φ L : Type}
variable (M : Machine Op Resp σ ι κ ε φ) (program : L → Program Op Resp Unit)

/-- The second configuration is reached from the first, and this is how. -/
inductive Recorded (c₀ : Config Op Resp σ) :
    List (Entry Op Resp σ ι κ ε L) → Config Op Resp σ → Prop
  | nil : Recorded c₀ [] c₀
  | start {h : List (Entry Op Resp σ ι κ ε L)} {s : σ} (label : L) :
      Recorded c₀ h ⟨s, .done ()⟩ →
      Recorded c₀ (⟨s, .start label, []⟩ :: h) ⟨s, program label⟩
  | op {h : List (Entry Op Resp σ ι κ ε L)} {s s' : σ} {o : Op}
      {next : Resp o → Program Op Resp Unit} {r : Resp o} (i : ι) :
      Recorded c₀ h ⟨s, .op o next⟩ → M.ready o s → (M.exec i o s).Returns (s', r) →
      Recorded c₀ (⟨s, .op i o r, (M.exec i o s).sent⟩ :: h) ⟨s', next r⟩
  | move {h : List (Entry Op Resp σ ι κ ε L)} {s s' : σ} {p : Program Op Resp Unit}
      {out : Outcome ε φ σ} (k : κ) :
      Recorded c₀ h ⟨s, p⟩ → M.move k s = some out → out.Returns s' →
      Recorded c₀ (⟨s, .move k, out.sent⟩ :: h) ⟨s', p⟩

variable {M program} {c₀ c : Config Op Resp σ} {h : List (Entry Op Resp σ ι κ ε L)}

/-- Without its last step, a history is one of the state before that step. -/
theorem Recorded.tail {entry : Entry Op Resp σ ι κ ε L}
    (recorded : M.Recorded program c₀ (entry :: h) c) :
    ∃ c', c'.state = entry.before ∧ M.Recorded program c₀ h c' := by
  cases recorded with
  | start label before => exact ⟨_, rfl, before⟩
  | op i before _ _ => exact ⟨_, rfl, before⟩
  | move k before _ _ => exact ⟨_, rfl, before⟩

/-- What a history leads to is reached. -/
theorem Recorded.reaches (recorded : M.Recorded program c₀ h c) :
    M.Reaches (fun _ p => ∃ label, p = program label) c₀ c := by
  induction recorded with
  | nil => exact .refl
  | start label _ ih => exact ih.tail (.start ⟨label, rfl⟩)
  | op i _ ready returns ih => exact ih.tail (.op i ready returns)
  | move k _ available returns ih => exact ih.tail (.move k available returns)

/-- What is reached has a history. -/
theorem exists_recorded (reaches : M.Reaches (fun _ p => ∃ label, p = program label) c₀ c) :
    ∃ h : List (Entry Op Resp σ ι κ ε L), M.Recorded program c₀ h c := by
  induction reaches with
  | refl => exact ⟨[], .nil⟩
  | tail _ step ih =>
    obtain ⟨h, recorded⟩ := ih
    cases step with
    | start started =>
      obtain ⟨label, rfl⟩ := started
      exact ⟨_, .start label recorded⟩
    | op i ready returns => exact ⟨_, .op i recorded ready returns⟩
    | move k available returns => exact ⟨_, .move k recorded available returns⟩

/-! ## Serial runs -/

section Serial

variable (M program) [∀ o s, Decidable (M.ready o s)]

/-- What a serial run does next: run a program from start to end, with one input for all
its operations, or make one move. -/
inductive Deed (ι κ L : Type)
  | run (label : L) (i : ι)
  | move (k : κ)

/-- A history and the state it ends in. -/
abbrev Chronicle (Op : Type) (Resp : Op → Type) (σ ι κ ε L : Type) :=
  List (Entry Op Resp σ ι κ ε L) × σ

/-- Run a program that nothing interrupts and write down what it does. There is no result
when it has to wait or does not return. -/
def record (i : ι) : Program Op Resp Unit → Chronicle Op Resp σ ι κ ε L →
    Option (Chronicle Op Resp σ ι κ ε L)
  | .done _, (h, s) => some (h, s)
  | .op o next, (h, s) =>
    if M.ready o s then
      match (M.exec i o s).result with
      | .ok (s', r) => record i (next r) (⟨s, .op i o r, (M.exec i o s).sent⟩ :: h, s')
      | .error _ => none
    else none

/-- Make a move and write it down. -/
def recordMove (k : κ) (run : Chronicle Op Resp σ ι κ ε L) :
    Option (Chronicle Op Resp σ ι κ ε L) := do
  let out ← M.move k run.2
  match out.result with
  | .ok s' => some (⟨run.2, .move k, out.sent⟩ :: run.1, s')
  | .error _ => none

/-- Do one thing after the other. -/
def recordAll : List (Deed ι κ L) → Chronicle Op Resp σ ι κ ε L →
    Option (Chronicle Op Resp σ ι κ ε L)
  | [], run => some run
  | .run label i :: rest, (h, s) => do
    recordAll rest (← record M i (program label) (⟨s, .start label, []⟩ :: h, s))
  | .move k :: rest, run => do
    recordAll rest (← recordMove M k run)

variable {M program}

theorem recorded_of_record {i : ι} {p : Program Op Resp Unit}
    {run run' : Chronicle Op Resp σ ι κ ε L} (before : M.Recorded program c₀ run.1 ⟨run.2, p⟩)
    (recorded : record M i p run = some run') :
    M.Recorded program c₀ run'.1 ⟨run'.2, .done ()⟩ := by
  induction p generalizing run with
  | done a =>
    cases recorded
    exact before
  | op o next ih =>
    obtain ⟨h, s⟩ := run
    rw [record] at recorded
    split at recorded
    case isFalse => cases recorded
    case isTrue ready =>
      cases executed : (M.exec i o s).result with
      | error why => simp [executed] at recorded
      | ok answer =>
        simp only [executed] at recorded
        exact ih answer.2 (.op i before ready executed) recorded

/-- A serial run is a run, and what was written down is its history. -/
theorem recorded_of_recordAll {deeds : List (Deed ι κ L)} {run run' : Chronicle Op Resp σ ι κ ε L}
    (before : M.Recorded program c₀ run.1 ⟨run.2, .done ()⟩)
    (recorded : recordAll M program deeds run = some run') :
    M.Recorded program c₀ run'.1 ⟨run'.2, .done ()⟩ := by
  induction deeds generalizing run with
  | nil =>
    cases recorded
    exact before
  | cons deed rest ih =>
    cases deed with
    | run label i =>
      obtain ⟨h, s⟩ := run
      obtain ⟨next, first, later⟩ := Option.bind_eq_some_iff.mp recorded
      exact ih (recorded_of_record (.start label before) first) later
    | move k =>
      obtain ⟨next, first, later⟩ := Option.bind_eq_some_iff.mp recorded
      obtain ⟨out, available, written⟩ := Option.bind_eq_some_iff.mp first
      cases returned : out.result with
      | error why => simp [returned] at written
      | ok s' =>
        simp only [returned, Option.some.injEq] at written
        subst written
        exact ih (.move k before available returned) later

end Serial

end Machine

end Effects
