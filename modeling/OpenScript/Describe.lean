import OpenScript.Scope
import OpenScript.Decimal.Shortest
import OpenScript.Text.Shown

/-!
# Describe — values, methods and frames for the eyes of a developer

Objects may hold themselves, so of an object only its class and its payload are described, and of a
frame only where it stands.
-/

namespace OpenScript

/-- Entries between brackets. -/
def describeList (entries : List String) : String := "[" ++ ", ".intercalate entries ++ "]"

/-- A named number. -/
def describeId (kind : String) (id : Nat) : String := kind ++ "(" ++ Nat.repr id ++ ")"

/-- A lambda: its parameters and how many statements it has. -/
def Closure.describe (c : Closure) : String :=
  "Closure \x7b params: " ++ describeList (c.params.map Text.shown)
    ++ ", statements: " ++ Nat.repr c.body.length ++ ", .. \x7d"

/-- A payload. -/
def Payload.describe : Payload → String
  | .none => "None"
  | .int n => "Int(" ++ toString n ++ ")"
  | .float x => "Float(" ++ Decimal.showFloat x ++ ")"
  | .text t => "Str(" ++ Text.shown t ++ ")"
  | .symbol i => "Symbol(" ++ describeId "Symbol" i ++ ")"
  | .bool b => "Bool(" ++ (if b then "true" else "false") ++ ")"
  | .lambda c => "Lambda(" ++ c.describe ++ ")"

/-- A method: its name and its parameters. -/
def Method.describe (m : Method) : String :=
  match m.body with
  | .user params _ => "Method(" ++ m.name ++ "(" ++ ", ".intercalate params ++ "))"
  | .native _ => "Method(" ++ m.name ++ " <native>)"

namespace State

/-- A value. -/
def describe (s : State) : Value → String
  | .nil => "Nil"
  | .cls c => "Class(" ++ describeId "ClassId" c ++ ")"
  | .object o =>
    let x := s.objectAt o
    "Object(" ++ describeId "ClassId" x.cls ++ ", " ++ x.payload.describe ++ ")"

/-- How many frames are around a frame. -/
def frameDepth (s : State) (f : FrameId) : Nat := (s.enclosing f).length - 1

/-- A frame. -/
def describeFrame (s : State) (f : FrameId) : String :=
  let x := s.frameAt f
  "Context \x7b kind: " ++ x.role.label ++ ", depth: " ++ Nat.repr (s.frameDepth f)
    ++ ", current_class: " ++ describeId "ClassId" x.cls ++ ", .. \x7d"

end State

end OpenScript
