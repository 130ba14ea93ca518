import OpenScript.Core
import OpenScript.Error
import OpenScript.Machine

/-!
# Eval/Basic — evaluations and the tasks they ask for

An evaluation reads and changes the state and ends with a result or an error; the state it leaves is
there in both cases.  Whatever runs a node, a loop or a method from inside another is not a call but
a task (`Task`) that the evaluation asks for, so an evaluation is always a finite term.
-/

namespace OpenScript

/-- What an evaluation may ask for. -/
inductive Task where
  /-- The evaluation of a node in a frame. -/
  | node (node : Node) (frame : FrameId)
  /-- The iterations of a loop that are still to come; `last` is the value of the latest body that
  ended normally. -/
  | loop (condition : Node) (body : List Node) (frame : FrameId) (last : Value)
  /-- The call of the method that `receiver` answers `name` with, on behalf of code in `caller`. -/
  | send (receiver : Value) (name : String) (arguments : List Value) (caller : FrameId)
  deriving Inhabited

/-- How a task ends. -/
abbrev Outcome (α : Type) := Except RuntimeError α

/-- An evaluation. -/
def Eval (α : Type) : Type := State → Comp State Task (Outcome Flow) (Outcome α)

namespace Eval

/-- Ends with a result. -/
def pure (a : α) : Eval α := fun s => .done (.ok a) s

/-- One evaluation after another; an error ends both. -/
def bind (x : Eval α) (f : α → Eval β) : Eval β := fun s =>
  (x s).bind fun
    | .ok a, s => f a s
    | .error e, s => .done (.error e) s

instance : Monad Eval where
  pure := Eval.pure
  bind := Eval.bind

/-- Ends with an error. -/
def fail (e : RuntimeError) : Eval α := fun s => .done (.error e) s

/-- The state. -/
def state : Eval State := fun s => .done (.ok s) s

/-- Looks something up in the state. -/
def read (f : State → α) : Eval α := fun s => .done (.ok (f s)) s

/-- Changes the state. -/
def modify (f : State → State) : Eval Unit := fun s => .done (.ok ()) (f s)

/-- Changes the state and ends with what comes of it. -/
def update (f : State → α × State) : Eval α := fun s => .done (.ok (f s).1) (f s).2

/-- Asks for a task. -/
def ask (t : Task) : Eval Flow := fun s => .ask t s .done

/-- Evaluates a node. -/
def node (n : Node) (f : FrameId) : Eval Flow := ask (.node n f)

/-- Evaluates a node where only its value counts. -/
def value (n : Node) (f : FrameId) : Eval Value := do return (← node n f).value

/-- Calls a method. -/
def send (receiver : Value) (name : String) (arguments : List Value) (caller : FrameId) :
    Eval Value := do
  return (← ask (.send receiver name arguments caller)).value

/-- Evaluates statements in order up to the first signal; `last` is the value if there are none. -/
def statementsFrom (f : FrameId) (last : Value) : List Node → Eval Flow
  | [] => return .normal last
  | n :: ns => do
    match ← node n f with
    | .normal v => statementsFrom f v ns
    | signal => return signal

/-- Evaluates statements in order up to the first signal. -/
def statements (ns : List Node) (f : FrameId) : Eval Flow := statementsFrom f .nil ns

/-- Evaluates arguments in order. -/
def arguments (f : FrameId) : List Node → Eval (List Value)
  | [] => return []
  | n :: ns => do
    let v ← value n f
    let vs ← arguments f ns
    return v :: vs

/-- A fresh object that boxes a payload. -/
def box (c : ClassId) (payload : Payload) : Eval Value := update (·.box c payload)

/-- A fresh string. -/
def string (text : String) : Eval Value := box Core.string (.text text)

/-- A fresh integer. -/
def integer (n : Int64) : Eval Value := box Core.integer (.int n)

/-- A fresh object for the symbol of a name. -/
def symbol (name : String) : Eval Value := do
  let id ← update (·.intern name)
  box Core.symbol (.symbol id)

/-- Fails because a value of one class stands where something else is needed. -/
def failType (expected : String) (v : Value) : Eval α := do
  fail (.type expected (← read (·.classNameOf v)))

/-- The text that a value becomes: what its `to_string` returns, which has to be a string. -/
def stringify (v : Value) : Eval String := do
  let shown ← send v "to_string" [] Core.root
  match ← read (·.text? shown) with
  | some text => return text
  | none => failType "String from to_string" shown

/-- Runs a method or a lambda, unless too many are running already. -/
def nested (x : Eval α) : Eval α := fun s =>
  if s.limit ≤ s.depth then .done (.error (.stackOverflow s.limit)) s
  else (x { s with depth := s.depth + 1 }).bind fun r s => .done r { s with depth := s.depth - 1 }

/-- Calls a lambda: its body runs in a fresh frame that captures the frame it was made in. -/
def applyClosure (c : Closure) (vs : List Value) : Eval Value :=
  nested do
    let f ← update (·.newActivation c.captured "lambda" vs (some c.captured))
    modify (·.bindParams f c.params vs)
    return (← statements c.body f).value

end Eval

end OpenScript
