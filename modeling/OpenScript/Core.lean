import OpenScript.Scope

/-!
# Core — what every interpreter starts with

The core classes have fixed ids, `Object` first; each is bound as a constant in the root namespace.
There is one `true` and one `false`.  `State.initial` is a fresh interpreter, `State.bare` one that
has only `Object`.
-/

namespace OpenScript

namespace Core

/-! ## Ids -/

/-- The root namespace. -/
def root : FrameId := 0

/-- `Object`, the class that all others inherit from. -/
def object : ClassId := 0

/-- `Class`, the class of classes used as values. -/
def cls : ClassId := 1

/-- `String` -/
def string : ClassId := 2

/-- `Integer` -/
def integer : ClassId := 3

/-- `Float` -/
def float : ClassId := 4

/-- `Symbol` -/
def symbol : ClassId := 5

/-- `Boolean` -/
def boolean : ClassId := 6

/-- `Nil` -/
def nil : ClassId := 7

/-- `Lambda` -/
def lambda : ClassId := 8

/-- The self of the root namespace. -/
def main : Value := .object 0

/-- The truth values. -/
def bool (b : Bool) : Value := if b then .object 1 else .object 2

/-! ## Built-in methods -/

/-- The operators of numbers. -/
def arithmeticOps : List (String × Arithmetic) :=
  [("+", .add), ("-", .sub), ("*", .mul), ("/", .div), ("%", .rem)]

/-- The comparisons of numbers. -/
def comparisonOps : List (String × Comparison) :=
  [("<", .less), (">", .greater), ("<=", .atMost), (">=", .atLeast), ("==", .equal)]

/-- The methods of `Integer` and of `Float`. -/
def numberMethods : List (String × Builtin) :=
  arithmeticOps.map (fun (name, op) => (name, .numberArithmetic op))
    ++ comparisonOps.map (fun (name, op) => (name, .numberComparison op))
    ++ [("to_string", .numberToString), ("to_int", .numberToInt), ("to_float", .numberToFloat)]

/-- The core classes in the order of their ids, with the methods of their instances. -/
def classes : List (String × List (String × Builtin)) :=
  [("Object",
    [("to_string", .objectToString),
     ("inspect", .objectInspect),
     ("class", .objectClass),
     ("is", .objectIs),
     ("==", .objectEqual),
     ("!=", .objectNotEqual),
     ("responds_to", .objectRespondsTo),
     ("nil?", .objectIsNil),
     ("print", .objectPrint),
     ("println", .objectPrintln)]),
   ("Class",
    [("new", .classNew),
     ("name", .className),
     ("superclass", .classSuperclass)]),
   ("String",
    [("+", .stringConcat),
     ("length", .stringLength),
     ("upcase", .stringUpcase),
     ("downcase", .stringDowncase),
     ("to_string", .stringToString),
     ("to_symbol", .stringToSymbol)]),
   ("Integer", numberMethods),
   ("Float", numberMethods),
   ("Symbol",
    [("is", .symbolIs),
     ("to_string", .symbolToString)]),
   ("Boolean",
    [("to_string", .booleanToString),
     ("not", .booleanNot)]),
   ("Nil", [("to_string", .nilToString)]),
   ("Lambda", [("call", .lambdaCall)])]

/-- The methods of the class `Symbol` itself. -/
def symbolClassMethods : List (String × Builtin) := [("new", .symbolNew)]

end Core

namespace State

/-- A table of built-in methods. -/
def methodTable (methods : List (String × Builtin)) : Store Method :=
  methods.foldl (fun t (name, b) => t.insert name ⟨name, .native (.builtin b)⟩) {}

/-- The root namespace and nothing else. -/
def rootOnly (limit : Nat) : State :=
  { frames := #[{ self := Core.main, cls := Core.object, parent := none, role := .space {} }]
    objects := #[{ cls := Core.object }]
    limit }

/-- Adds a class with its body in the root namespace. -/
def addRootClass (s : State) (name : String) (parent : Option ClassId)
    (methods : List (String × Builtin)) : State :=
  let (frame, s) := s.newClassBody Core.root s.classes.size
  (s.addClass { name, parent, methods := methodTable methods, frame }).2

/-- An interpreter that has only the class `Object`, without methods. -/
def bare (limit : Nat) : State := (rootOnly limit).addRootClass "Object" none []

/-- Adds the core classes and binds them. -/
def addCoreClasses (s : State) : State :=
  Core.classes.foldl
    (fun s (name, methods) =>
      let c := s.classes.size
      let s := s.addRootClass name (if c = Core.object then none else some Core.object) methods
      s.bindConstant Core.root name (.cls c))
    s

/-- A fresh interpreter. -/
def initial (limit : Nat) : State :=
  let s := (rootOnly limit).addCoreClasses
  let s := s.modifyClass Core.symbol fun x =>
    { x with classMethods := methodTable Core.symbolClassMethods }
  let s := (s.box Core.boolean (.bool true)).2
  (s.box Core.boolean (.bool false)).2

/-! ## Dispatch -/

/-- The class whose methods a value has. -/
def classOf (s : State) : Value → ClassId
  | .nil => Core.nil
  | .object o => (s.objectAt o).cls
  | .cls _ => Core.cls

/-- The name of the class of a value. -/
def classNameOf (s : State) (v : Value) : String := (s.classAt (s.classOf v)).name

/-- The method that a value answers a name with, and the class that defines it.  A class used as a
value looks in the tables of its own side first. -/
def methodOf? (s : State) (v : Value) (name : String) : Option (ClassId × Method) :=
  match v with
  | .cls c => (s.findClassMethod? c name).or (s.findMethod? Core.cls name)
  | v => s.findMethod? (s.classOf v) name

/-- Whether a value answers a name. -/
def respondsTo (s : State) (v : Value) (name : String) : Bool := (s.methodOf? v name).isSome

/-- The class bound to a name in the root namespace. -/
def classNamed? (s : State) (name : String) : Option ClassId :=
  match s.get Core.root name with
  | .cls c => some c
  | _ => none

end State

end OpenScript
