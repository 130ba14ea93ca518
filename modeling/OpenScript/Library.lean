import OpenScript.Eval.Basic
import OpenScript.Number
import OpenScript.Text.Case
import OpenScript.Text.Shown

/-!
# Library — the built-in methods

Every method that takes a fixed number of arguments checks it before anything else and before it
changes anything.  `is` looks at its first argument only, `new` passes its arguments on to `init`,
and `print` takes the receiver if there is no argument.
-/

namespace OpenScript

namespace Eval

/-- Fails unless there are exactly `expected` arguments. -/
def expect (method : String) (expected : Nat) (vs : List Value) : Eval Unit :=
  if vs.length = expected then return () else fail (.arity method expected vs.length)

/-- The only argument. -/
def onlyArgument (method : String) : List Value → Eval Value
  | [v] => return v
  | vs => fail (.arity method 1 vs.length)

/-- The class that a value is. -/
def theClass : Value → Eval ClassId
  | .cls c => return c
  | v => failType "Class" v

/-- The text in a value. -/
def theText (v : Value) : Eval String := do
  match ← read (·.text? v) with
  | some text => return text
  | none => failType "String" v

/-- The number in a value. -/
def theNumber (v : Value) : Eval Number := do
  match Number.ofPayload? (← read (·.payload v)) with
  | some n => return n
  | none => failType "number" v

/-- A fresh number. -/
def number : Number → Eval Value
  | .int n => box Core.integer (.int n)
  | .float x => box Core.float (.float x)

/-- The text that shows a value: strings between quotes, symbols behind a colon, `nil` as such, and
everything else as its `to_string`. -/
def inspect (v : Value) : Eval String := do
  let s ← state
  match s.payload v, v with
  | .text t, _ => return Text.shown t
  | .symbol i, _ => return ":" ++ s.symbols.resolve i
  | _, .nil => return "nil"
  | _, _ => stringify v

/-- The text that `print` writes: that of the only argument, or of the receiver. -/
def printed (method : String) (receiver : Value) : List Value → Eval String
  | [] => stringify receiver
  | [v] => stringify v
  | vs => fail (.arity method 1 vs.length)

/-- Prints a text. -/
def print (text : String) : Eval Unit := modify fun s => { s with output := s.output ++ text }

end Eval

open Eval

/-- Does what a built-in method does. -/
def Builtin.run (receiver : Value) (vs : List Value) (caller : FrameId) : Builtin → Eval Value
  | .classNew => do
    let c ← theClass receiver
    let v ← update (·.instantiate c)
    if ← read (·.respondsTo v "init") then
      let _ ← send v "init" vs caller
    else
      expect "new" 0 vs
    return v
  | .className => do
    expect "name" 0 vs
    let c ← theClass receiver
    string (← read (·.classAt c)).name
  | .classSuperclass => do
    expect "superclass" 0 vs
    let c ← theClass receiver
    return ((← read (·.classAt c)).parent.map .cls).getD .nil
  | .objectToString => do
    expect "to_string" 0 vs
    match receiver with
    | .cls c => string (← read (·.classAt c)).name
    | v => string ("<" ++ (← read (·.classNameOf v)) ++ ">")
  | .objectInspect => do
    expect "inspect" 0 vs
    string (← inspect receiver)
  | .objectClass => do
    expect "class" 0 vs
    return .cls (← read (·.classOf receiver))
  | .objectIs => do
    match vs with
    | [] => return Core.bool false
    | v :: _ => return Core.bool (← read (·.equal receiver v))
  | .objectEqual => do
    let v ← onlyArgument "==" vs
    return Core.bool (← read (·.equal receiver v))
  | .objectNotEqual => do
    expect "!=" 1 vs
    let equal ← send receiver "==" vs Core.root
    return Core.bool !(← read (·.isTruthy equal))
  | .objectRespondsTo => do
    let v ← onlyArgument "responds_to" vs
    let s ← state
    let name ← match s.symbol? v with
      | some i => Eval.pure (s.symbols.resolve i)
      | none => theText v
    return Core.bool (s.respondsTo receiver name)
  | .objectIsNil => do
    expect "nil?" 0 vs
    return Core.bool (receiver == .nil)
  | .objectPrint => do
    print (← printed "print" receiver vs)
    return .nil
  | .objectPrintln => do
    print ((← printed "println" receiver vs) ++ "\n")
    return .nil
  | .numberArithmetic op => do
    let v ← onlyArgument op.label vs
    let a ← theNumber receiver
    let b ← theNumber v
    match Number.arithmetic? op a b with
    | some n => number n
    | none => fail .dividedByZero
  | .numberComparison op => do
    let v ← onlyArgument op.label vs
    match op, Number.ofPayload? (← read (·.payload v)) with
    | .equal, none => return Core.bool false
    | _, _ =>
      let a ← theNumber receiver
      let b ← theNumber v
      return Core.bool (Number.compare op a b)
  | .numberToString => do
    expect "to_string" 0 vs
    string (← theNumber receiver).text
  | .numberToInt => do
    expect "to_int" 0 vs
    integer (← theNumber receiver).toInt64
  | .numberToFloat => do
    expect "to_float" 0 vs
    number (.float (← theNumber receiver).toFloat)
  | .stringConcat => do
    let v ← onlyArgument "+" vs
    let text ← theText receiver
    string (text ++ (← stringify v))
  | .stringLength => do
    expect "length" 0 vs
    integer (Int64.ofNat (← theText receiver).length)
  | .stringUpcase => do
    expect "upcase" 0 vs
    string (Text.upper (← theText receiver))
  | .stringDowncase => do
    expect "downcase" 0 vs
    string (Text.lower (← theText receiver))
  | .stringToString => do
    expect "to_string" 0 vs
    return receiver
  | .stringToSymbol => do
    expect "to_symbol" 0 vs
    symbol (← theText receiver)
  | .symbolNew => do
    match vs with
    | [] => symbol "nil"
    | [v] => symbol (← stringify v)
    | vs => fail (.arity "new" 1 vs.length)
  | .symbolIs => do
    let s ← state
    match s.symbol? receiver, vs.head?.bind s.symbol? with
    | some i, some j => return Core.bool (i == j)
    | _, _ => return Core.bool false
  | .symbolToString => do
    expect "to_string" 0 vs
    let s ← state
    match s.symbol? receiver with
    | some i => string (s.symbols.resolve i)
    | none => failType "Symbol" receiver
  | .booleanToString => do
    expect "to_string" 0 vs
    string (if ← read (·.isTruthy receiver) then "true" else "false")
  | .booleanNot => do
    expect "not" 0 vs
    return Core.bool !(← read (·.isTruthy receiver))
  | .nilToString => do
    expect "to_string" 0 vs
    string ""
  | .lambdaCall => do
    match ← read (·.closure? receiver) with
    | some c => applyClosure c vs
    | none => failType "Lambda" receiver

/-- Does what a probe does. -/
def Probe.run (receiver : Value) (vs : List Value) (caller : FrameId) : Probe → Eval Value
  | .peek name => read (·.get caller name)
  | .frameKind => do string (← read (·.frameAt caller)).role.label
  | .callerSelf => do return (← read (·.frameAt caller)).self
  | .receiver => return receiver
  | .argumentCount => integer (Int64.ofNat vs.length)
  | .activeMethod => do
    match ← read (·.active? caller) with
    | some a => string a.name
    | none => return .nil
  | .pair => do
    match vs with
    | [a, b] => return Core.bool (← read (·.equal a b))
    | vs => Eval.fail (.arity "pair" 2 vs.length)
  | .fail message => Eval.fail (.argument message)

/-- Does what a method does that is not written in the language. -/
def Native.run (receiver : Value) (vs : List Value) (caller : FrameId) : Native → Eval Value
  | .builtin b => b.run receiver vs caller
  | .reader name => do
    expect name 0 vs
    return (← read (·.ivar? receiver name)).getD .nil
  | .writer name => do
    let v ← onlyArgument (name ++ "=") vs
    modify (·.setIvar receiver name v)
    return v
  | .probe p => p.run receiver vs caller

end OpenScript
