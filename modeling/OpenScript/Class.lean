import OpenScript.Value

/-!
# Class — classes and their methods

A class has two tables of methods, one for its instances and one for itself as a value.  A method is
written in the language or built in; what the built-in ones do is said in `Library`.
-/

namespace OpenScript

/-- `+ - * / %` -/
inductive Arithmetic where
  | add
  | sub
  | mul
  | div
  | rem
  deriving DecidableEq, Repr, Inhabited

/-- `< > <= >= ==` -/
inductive Comparison where
  | less
  | greater
  | atMost
  | atLeast
  | equal
  deriving DecidableEq, Repr, Inhabited

/-- The methods that every fresh interpreter has. -/
inductive Builtin where
  | classNew
  | className
  | classSuperclass
  | objectToString
  | objectInspect
  | objectClass
  | objectIs
  | objectEqual
  | objectNotEqual
  | objectRespondsTo
  | objectIsNil
  | objectPrint
  | objectPrintln
  | numberArithmetic (op : Arithmetic)
  | numberComparison (op : Comparison)
  | numberToString
  | numberToInt
  | numberToFloat
  | stringConcat
  | stringLength
  | stringUpcase
  | stringDowncase
  | stringToString
  | stringToSymbol
  | symbolNew
  | symbolIs
  | symbolToString
  | booleanToString
  | booleanNot
  | nilToString
  | lambdaCall
  deriving DecidableEq, Repr, Inhabited

/-- Methods a host installs to see what a built-in method is handed. -/
inductive Probe where
  /-- Reads a name in the caller's frame. -/
  | peek (name : String)
  /-- The kind of the caller's frame. -/
  | frameKind
  /-- The self of the caller's frame. -/
  | callerSelf
  | receiver
  /-- How many arguments there are. -/
  | argumentCount
  /-- The name of the method that the caller's frame runs in. -/
  | activeMethod
  /-- Whether two arguments are equal. -/
  | pair
  /-- Fails with a message. -/
  | fail (message : String)
  deriving DecidableEq, Repr, Inhabited

/-- A method that is not written in the language. -/
inductive Native where
  | builtin (method : Builtin)
  /-- Reads the instance variable of that name. -/
  | reader (name : String)
  /-- Writes the instance variable of that name. -/
  | writer (name : String)
  | probe (probe : Probe)
  deriving DecidableEq, Repr, Inhabited

/-- What a method does. -/
inductive MethodBody where
  | user (params : List String) (body : Program)
  | native (native : Native)
  deriving Inhabited

/-- A method and the name it is found under. -/
structure Method where
  name : String
  body : MethodBody
  deriving Inhabited

/-- The parameters of a method written in the language. -/
def Method.params (m : Method) : List String :=
  match m.body with
  | .user params _ => params
  | .native _ => []

/-- A class. -/
structure Class where
  name : String
  /-- The class it inherits from; only the root class has none. -/
  parent : Option ClassId
  methods : Store Method := {}
  /-- The methods of the class itself as a value. -/
  classMethods : Store Method := {}
  /-- The `@@` variables, without their sigil. -/
  classVars : Store Value := {}
  /-- The `@` variables of the class itself as a value, without their sigil. -/
  ivars : Store Value := {}
  /-- The frame that the class body is evaluated in. -/
  frame : FrameId
  deriving Inhabited

end OpenScript
