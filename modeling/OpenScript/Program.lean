/-!
# Program — statements and expressions

A program is a list of nodes.  Names keep their sigils (`$total`, `@@count`, `@owner`); an `elsif`
is an `ifElse` in the `otherwise` branch of another, a plain `else` is a `block` there.
-/

namespace OpenScript

/-- A statement or an expression. -/
inductive Node where
  | int (value : Int64)
  | float (value : Float)
  /-- Text literal, whose markers are replaced when it is evaluated. -/
  | text (value : String)
  /-- Symbol literal, without the leading colon. -/
  | symbol (name : String)
  | true
  | false
  | nil
  | self
  /-- Reads a local, or calls the method of that name on `self` with no arguments. -/
  | getLocal (name : String)
  | setLocal (name : String) (value : Node)
  | getConstant (name : String)
  /-- Binds a constant that is not bound yet. -/
  | setConstant (name : String) (value : Node)
  | getGlobal (name : String)
  | setGlobal (name : String) (value : Node)
  | getClassVar (name : String)
  | setClassVar (name : String) (value : Node)
  | getInstanceVar (name : String)
  | setInstanceVar (name : String) (value : Node)
  /-- Method call; no receiver means `self`. -/
  | call (receiver : Option Node) (method : String) (arguments : List Node)
  /-- Call of the same method above the class that defines the running one; no argument list means
  the arguments of the running call. -/
  | super (arguments : Option (List Node))
  /-- Class definition, or the reopening of a class. -/
  | defineClass (name : String) (parent : Option String) (body : List Node)
  /-- A reader and a writer for each name. -/
  | property (names : List String)
  | defineMethod (name : String) (params : List String) (body : List Node)
  /-- Anonymous function that captures the frame it is made in. -/
  | lambda (params : List String) (body : List Node)
  | ifElse (condition : Node) (body : List Node) (otherwise : Option Node)
  | whileLoop (condition : Node) (body : List Node)
  /-- Nested statements. -/
  | block (body : List Node)
  | return (value : Option Node)
  /-- Abandons the rest of the loop body. -/
  | next
  | and (left right : Node)
  | or (left right : Node)
  | not (operand : Node)
  /-- Evaluates the body in the namespace of that name. -/
  | inNamespace (name : String) (body : List Node)
  /-- Reads a name in a namespace. -/
  | getFromNamespace (space name : String)
  deriving Inhabited, Repr

/-- Statements evaluated in order. -/
abbrev Program := List Node

namespace Node

/-- A call on an explicit receiver. -/
def callOn (receiver : Node) (method : String) (arguments : List Node) : Node :=
  .call (some receiver) method arguments

/-- A call on the current `self`. -/
def send (method : String) (arguments : List Node) : Node :=
  .call none method arguments

end Node

end OpenScript
