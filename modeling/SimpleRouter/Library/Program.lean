/-
# Programs over a signature of atomic operations

A program either is done or performs one atomic operation and continues with the
operation's response. Nothing is said here about what an operation does: an
execution function supplies that, and the same program can be run from start to
end in isolation or one operation at a time among the moves of an environment.
-/

import SimpleRouter.Library.Outcome

namespace Effects

/-- Programs whose atomic steps are the operations `Op`; the operation `o`
answers with a value of type `Resp o`. -/
inductive Program (Op : Type) (Resp : Op → Type) (α : Type) : Type
  | done (a : α) : Program Op Resp α
  | op (o : Op) (next : Resp o → Program Op Resp α) : Program Op Resp α

namespace Program

variable {Op : Type} {Resp : Op → Type} {α β γ : Type}

/-- Run `p`, then continue with `f`. -/
def bind : Program Op Resp α → (α → Program Op Resp β) → Program Op Resp β
  | .done a, f => f a
  | .op o next, f => .op o fun r => (next r).bind f

instance : Monad (Program Op Resp) where
  pure := .done
  bind := bind

@[simp] theorem done_bind (a : α) (f : α → Program Op Resp β) :
    (.done a : Program Op Resp α) >>= f = f a := rfl

@[simp] theorem op_bind (o : Op) (next : Resp o → Program Op Resp α)
    (f : α → Program Op Resp β) : .op o next >>= f = .op o fun r => next r >>= f := rfl

/-- Whatever is answered, the program performs only operations that satisfy `P`. -/
inductive Only (P : Op → Prop) : Program Op Resp α → Prop
  | done (a : α) : Only P (.done a)
  | op {o : Op} {next : Resp o → Program Op Resp α} :
      P o → (∀ r, Only P (next r)) → Only P (.op o next)

section Only

variable {P : Op → Prop}

theorem only_op_iff {o : Op} {next : Resp o → Program Op Resp α} :
    (Program.op o next).Only P ↔ P o ∧ ∀ r, (next r).Only P := by
  constructor
  · intro only
    cases only with
    | op first rest => exact ⟨first, rest⟩
  · exact fun ⟨first, rest⟩ => .op first rest

/-- A sequence performs the operations of its parts. -/
theorem Only.bind {p : Program Op Resp α} {f : α → Program Op Resp β} (first : p.Only P)
    (second : ∀ a, (f a).Only P) : (p >>= f).Only P := by
  induction first with
  | done a => exact second a
  -- Binding leaves the first operation in front.
  | op performed _ ih => exact .op performed ih

end Only

section Run

variable {σ ε φ : Type} (exec : (o : Op) → σ → Outcome ε φ (σ × Resp o))

/-- Run a program in isolation from the state `s`. -/
def run : Program Op Resp α → σ → Outcome ε φ (σ × α)
  | .done a, s => pure (s, a)
  | .op o next, s => exec o s >>= fun answer => (next answer.2).run answer.1

@[simp] theorem run_done (a : α) (s : σ) : run exec (.done a : Program Op Resp α) s = pure (s, a) :=
  rfl

theorem run_op (o : Op) (next : Resp o → Program Op Resp α) (s : σ) :
    run exec (.op o next) s = exec o s >>= fun answer => (next answer.2).run exec answer.1 :=
  rfl

end Run

end Program

end Effects
