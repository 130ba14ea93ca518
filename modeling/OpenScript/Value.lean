import Std.Data.TreeMap
import OpenScript.Program
import OpenScript.Symbol

/-!
# Value — what evaluation computes with

Objects, classes and frames live in arenas and are known by their place there, so a value can be
copied freely while what it names is shared.  Two values are the same exactly when they are equal as
Lean terms; equality of the data in them is `Payload.agrees`.
-/

namespace OpenScript

/-- A class, by its place in the class arena. -/
abbrev ClassId := Nat

/-- An object, by its place in the object arena. -/
abbrev ObjectId := Nat

/-- A frame, by its place in the frame arena. -/
abbrev FrameId := Nat

/-- Things under names, in the order of the names' bytes. -/
abbrev Store (α : Type) := Std.TreeMap String α

/-- A value of the language. -/
inductive Value where
  | nil
  | object (id : ObjectId)
  /-- A class used as a value. -/
  | cls (id : ClassId)
  deriving DecidableEq, Repr, Inhabited

/-- The body of a lambda and the frame it was made in. -/
structure Closure where
  params : List String
  body : Program
  captured : FrameId
  deriving Inhabited, Repr

/-- The datum boxed in an object. -/
inductive Payload where
  /-- A plain object. -/
  | none
  | int (n : Int64)
  | float (x : Float)
  | text (s : String)
  | symbol (id : SymbolId)
  | bool (b : Bool)
  | lambda (closure : Closure)
  deriving Inhabited, Repr

/-- Whether the data of two different objects are equal.  A lambda agrees with no other, and plain
objects have no data to compare. -/
def Payload.agrees : Payload → Payload → Bool
  | .int a, .int b => a == b
  | .float a, .float b => a == b
  | .text a, .text b => a == b
  | .symbol a, .symbol b => a == b
  | .bool a, .bool b => a == b
  | _, _ => false

/-- An object. -/
structure Object where
  cls : ClassId
  payload : Payload := .none
  /-- The instance variables, without their `@`. -/
  ivars : Store Value := {}
  deriving Inhabited

/-- How the evaluation of a node ends. -/
inductive Flow where
  | normal (value : Value)
  /-- A `return` on its way to the enclosing method or lambda. -/
  | return (value : Value)
  /-- A `next` on its way to the enclosing loop. -/
  | skip
  deriving DecidableEq, Repr, Inhabited

namespace Flow

/-- The value of a flow where signals do not count; a pending `next` has none. -/
def value : Flow → Value
  | .normal v | .return v => v
  | .skip => .nil

/-- Whether a flow is on its way out. -/
def isSignal : Flow → Bool
  | .normal _ => false
  | _ => true

end Flow

end OpenScript
