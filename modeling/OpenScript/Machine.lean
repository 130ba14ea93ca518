/-!
# Machine — computations that ask for tasks

A computation on a state either ends or asks for a task and goes on with its answer.  When what a
task does is such a computation too, tasks nest without bound, so running one takes fuel, and there
are two ways to spend it: `Comp.answer` nests as deep as the tasks do, one unit of fuel for each
level, and `Comp.execute` keeps the computations that wait for answers on a stack of its own, one
unit for each step.
-/

namespace OpenScript

/-- A computation on states `σ` with result `α`, which may ask for tasks `τ` answered by `ρ`. -/
inductive Comp (σ τ ρ α : Type) where
  | done (result : α) (state : σ)
  | ask (task : τ) (state : σ) (resume : ρ → σ → Comp σ τ ρ α)

namespace Comp

variable {σ τ ρ α β : Type}

/-- One computation after another. -/
def bind : Comp σ τ ρ α → (α → σ → Comp σ τ ρ β) → Comp σ τ ρ β
  | .done a s, next => next a s
  | .ask t s k, next => .ask t s fun r s' => (k r s').bind next

/-- Runs a computation, given how tasks are answered. -/
def run (answer : τ → σ → Option (ρ × σ)) : Comp σ τ ρ α → Option (α × σ)
  | .done a s => some (a, s)
  | .ask t s k => (answer t s).bind fun (r, s') => (k r s').run answer

/-- The answer to a task whose tasks nest less deep than the fuel. -/
def answer (perform : τ → σ → Comp σ τ ρ ρ) : (fuel : Nat) → τ → σ → Option (ρ × σ)
  | 0, _, _ => none
  | fuel + 1, t, s => (perform t s).run (answer perform fuel)

/-- Runs a computation and then those that wait for its result, the nearest first. -/
def unwind (perform : τ → σ → Comp σ τ ρ ρ) :
    (fuel : Nat) → Comp σ τ ρ ρ → (waiting : List (ρ → σ → Comp σ τ ρ ρ)) → Option (ρ × σ)
  | 0, _, _ => none
  | _ + 1, .done r s, [] => some (r, s)
  | fuel + 1, .done r s, k :: waiting => unwind perform fuel (k r s) waiting
  | fuel + 1, .ask t s k, waiting => unwind perform fuel (perform t s) (k :: waiting)

/-- The answer to a task that takes fewer steps than the fuel. -/
def execute (perform : τ → σ → Comp σ τ ρ ρ) (fuel : Nat) (t : τ) (s : σ) : Option (ρ × σ) :=
  unwind perform fuel (perform t s) []

end Comp

end OpenScript
