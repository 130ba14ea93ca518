import OpenScript.Program
import OpenScript.Json.Basic
import OpenScript.Decimal.Shortest

/-!
# Program/Encode — a program as JSON

A node is an object with one key, its tag, or the bare tag where it holds nothing.  All fields are
written, `null` for what is absent, so every program has exactly one encoding.
-/

namespace OpenScript

namespace Node

/-- A node that holds something. -/
def tagged (tag : String) (payload : Json) : Json := .record [(tag, payload)]

/-- A node that holds a name. -/
def named (tag name : String) : Json := tagged tag (.text name)

/-- A node that holds a name and a value. -/
def assignment (tag name : String) (value : Json) : Json :=
  tagged tag (.record [("name", .text name), ("value", value)])

/-- A list of names. -/
def namesJson (names : List String) : Json := .array (names.map .text)

/-- A name that may be absent. -/
def optionalName : Option String → Json
  | none => .null
  | some name => .text name

mutual

/-- The JSON of a node, with `number` for the doubles in it. -/
def encodeWith (number : Float → Json) : Node → Json
  | .int n => tagged "Integer" (.number (.ofInt n.toInt))
  | .float x => tagged "Float" (number x)
  | .text s => named "Str" s
  | .symbol s => named "Symbol" s
  | .true => .text "True"
  | .false => .text "False"
  | .nil => .text "Nil"
  | .self => .text "SelfRef"
  | .getLocal x => named "GetLocal" x
  | .setLocal x v => assignment "SetLocal" x (v.encodeWith number)
  | .getConstant x => named "GetConstant" x
  | .setConstant x v => assignment "SetConstant" x (v.encodeWith number)
  | .getGlobal x => named "GetGlobal" x
  | .setGlobal x v => assignment "SetGlobal" x (v.encodeWith number)
  | .getClassVar x => named "GetClassVar" x
  | .setClassVar x v => assignment "SetClassVar" x (v.encodeWith number)
  | .getInstanceVar x => named "GetInstanceVar" x
  | .setInstanceVar x v => assignment "SetInstanceVar" x (v.encodeWith number)
  | .call receiver method arguments =>
    tagged "Call" (.record [
      ("receiver", encodeOption number receiver),
      ("method", .text method),
      ("arguments", .array (encodeList number arguments))])
  | .super none => tagged "Super" (.record [("arguments", .null)])
  | .super (some arguments) =>
    tagged "Super" (.record [("arguments", .array (encodeList number arguments))])
  | .defineClass name parent body =>
    tagged "Class" (.record [
      ("name", .text name),
      ("parent", optionalName parent),
      ("body", .array (encodeList number body))])
  | .property names => tagged "Property" (.record [("names", namesJson names)])
  | .defineMethod name params body =>
    tagged "DefMethod" (.record [
      ("name", .text name),
      ("params", namesJson params),
      ("body", .array (encodeList number body))])
  | .lambda params body =>
    tagged "Lambda" (.record [
      ("params", namesJson params),
      ("body", .array (encodeList number body))])
  | .ifElse condition body otherwise =>
    tagged "If" (.record [
      ("condition", condition.encodeWith number),
      ("body", .array (encodeList number body)),
      ("else_branch", encodeOption number otherwise)])
  | .whileLoop condition body =>
    tagged "While" (.record [
      ("condition", condition.encodeWith number),
      ("body", .array (encodeList number body))])
  | .block body => tagged "Block" (.array (encodeList number body))
  | .return value => tagged "Return" (encodeOption number value)
  | .next => .text "Next"
  | .and left right => tagged "And" (.array [left.encodeWith number, right.encodeWith number])
  | .or left right => tagged "Or" (.array [left.encodeWith number, right.encodeWith number])
  | .not operand => tagged "Not" (operand.encodeWith number)
  | .inNamespace name body =>
    tagged "Namespace" (.record [
      ("name", .text name),
      ("body", .array (encodeList number body))])
  | .getFromNamespace space name =>
    tagged "NamespaceGet" (.record [("namespace", .text space), ("name", .text name)])

/-- The JSON of nodes in order. -/
def encodeList (number : Float → Json) : List Node → List Json
  | [] => []
  | n :: ns => n.encodeWith number :: encodeList number ns

/-- The JSON of a node that may be absent. -/
def encodeOption (number : Float → Json) : Option Node → Json
  | none => .null
  | some n => n.encodeWith number

end

/-- The JSON of a node. -/
def encode (n : Node) : Json := n.encodeWith fun x => .number (Decimal.jsonLayout.literal x)

end Node

namespace Program

/-- The JSON of a program, with `number` for the doubles in it. -/
def encodeWith (number : Float → Json) (p : Program) : Json := .array (Node.encodeList number p)

/-- The JSON of a program. -/
def encode (p : Program) : Json :=
  encodeWith (fun x => .number (Decimal.jsonLayout.literal x)) p

/-- The canonical text of a program. -/
def render (p : Program) : String := p.encode.render

end Program

end OpenScript
