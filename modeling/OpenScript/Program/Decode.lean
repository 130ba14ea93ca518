import OpenScript.Program
import OpenScript.Json.Parse
import OpenScript.Decimal.Value

/-!
# Program/Decode — reading a program from JSON

Reading accepts more spellings than writing produces: fields may come in any order, unknown fields
are ignored whatever they hold, absent fields may be left out where `null` would do, the fields of a
node may be an array in their fixed order, and a node that holds nothing may be an object that holds
`null`.  Arrays and objects may nest `nestingLimit` deep, ignored values not counted: every decoder
takes the number of arrays and objects that may still be entered.
-/

namespace OpenScript

namespace Node

/-- The nodes that hold nothing. -/
def bare? : String → Option Node
  | "True" => some .true
  | "False" => some .false
  | "Nil" => some .nil
  | "SelfRef" => some .self
  | "Next" => some .next
  | _ => none

/-- The values of the fields `names` in a payload: an object that holds each of them at most once,
or an array of all of them in order. -/
def fields? (budget : Nat) (names : List String) (payload : Json) :
    Option (List (String × Json)) :=
  match budget, payload with
  | 0, _ => none
  | _ + 1, .object fields => do
    let keyed ← fields.mapM fun (key, value) => key.map (·, value)
    let known := keyed.filter fun (key, _) => names.contains key
    if (known.map Prod.fst).Nodup then some known else none
  | _ + 1, .array items =>
    if items.length = names.length then some (names.zip items) else none
  | _, _ => none

/-- A list of values, one array further in. -/
def items? (budget : Nat) (decode : Json → Option α) : Json → Option (List α)
  | .array items => if budget = 0 then none else items.mapM decode
  | _ => none

/-- A value that may be `null` or left out. -/
def absentOr? (decode : Json → Option α) : Option Json → Option (Option α)
  | none | some .null => some none
  | some j => (decode j).map some

/-- A list of exactly two values. -/
def two? (budget : Nat) (decode : Json → Option α) (j : Json) : Option (α × α) := do
  match ← items? budget decode j with
  | [a, b] => some (a, b)
  | _ => none

/-- A node with a payload.  `node` decodes a node that is the payload itself, `field` one that is a
field or an item of the payload, `item` one in a list that is a field of the payload. -/
def tagged? (budget : Nat) (node field item : Json → Option Node) (tag : String) (payload : Json) :
    Option Node :=
  let fields := fields? budget
  let names := items? (budget - 1) Json.text?
  let list := items? (budget - 1) item
  let assignment (make : String → Node → Node) : Option Node := do
    let f ← fields ["name", "value"] payload
    some (make (← (← f.lookup "name").text?) (← field (← f.lookup "value")))
  match tag with
  | "Integer" => do some (.int (← (← payload.number?).toInt64?))
  | "Float" => do some (.float (← (← payload.number?).toFloat?))
  | "Str" => payload.text?.map .text
  | "Symbol" => payload.text?.map .symbol
  | "GetLocal" => payload.text?.map .getLocal
  | "SetLocal" => assignment .setLocal
  | "GetConstant" => payload.text?.map .getConstant
  | "SetConstant" => assignment .setConstant
  | "GetGlobal" => payload.text?.map .getGlobal
  | "SetGlobal" => assignment .setGlobal
  | "GetClassVar" => payload.text?.map .getClassVar
  | "SetClassVar" => assignment .setClassVar
  | "GetInstanceVar" => payload.text?.map .getInstanceVar
  | "SetInstanceVar" => assignment .setInstanceVar
  | "Call" => do
    let f ← fields ["receiver", "method", "arguments"] payload
    some (.call (← absentOr? field (f.lookup "receiver")) (← (← f.lookup "method").text?)
      (← list (← f.lookup "arguments")))
  | "Super" => do
    let f ← fields ["arguments"] payload
    some (.super (← absentOr? list (f.lookup "arguments")))
  | "Class" => do
    let f ← fields ["name", "parent", "body"] payload
    some (.defineClass (← (← f.lookup "name").text?) (← absentOr? Json.text? (f.lookup "parent"))
      (← list (← f.lookup "body")))
  | "Property" => do
    let f ← fields ["names"] payload
    some (.property (← names (← f.lookup "names")))
  | "DefMethod" => do
    let f ← fields ["name", "params", "body"] payload
    some (.defineMethod (← (← f.lookup "name").text?) (← names (← f.lookup "params"))
      (← list (← f.lookup "body")))
  | "Lambda" => do
    let f ← fields ["params", "body"] payload
    some (.lambda (← names (← f.lookup "params")) (← list (← f.lookup "body")))
  | "If" => do
    let f ← fields ["condition", "body", "else_branch"] payload
    some (.ifElse (← field (← f.lookup "condition")) (← list (← f.lookup "body"))
      (← absentOr? field (f.lookup "else_branch")))
  | "While" => do
    let f ← fields ["condition", "body"] payload
    some (.whileLoop (← field (← f.lookup "condition")) (← list (← f.lookup "body")))
  | "Block" => (items? budget field payload).map .block
  | "Return" => (absentOr? node (some payload)).map .return
  | "And" => (two? budget field payload).map fun (a, b) => .and a b
  | "Or" => (two? budget field payload).map fun (a, b) => .or a b
  | "Not" => (node payload).map .not
  | "Namespace" => do
    let f ← fields ["name", "body"] payload
    some (.inNamespace (← (← f.lookup "name").text?) (← list (← f.lookup "body")))
  | "NamespaceGet" => do
    let f ← fields ["namespace", "name"] payload
    some (.getFromNamespace (← (← f.lookup "namespace").text?) (← (← f.lookup "name").text?))
  | tag =>
    match payload with
    | .null => bare? tag
    | _ => none

/-- A node that is a bare tag, or an object whose only key is the tag, decoded with the three
decoders for the nodes in it. -/
def shallow? (budget : Nat) (node field item : Json → Option Node) : Json → Option Node
  | .string (some tag) => bare? tag
  | .object [(some tag, payload)] =>
    if budget = 0 then none else tagged? (budget - 1) node field item tag payload
  | _ => none

/-- The node that a JSON value stands for, where `budget` more arrays and objects may be entered. -/
def decode : Nat → Json → Option Node
  | 0, j => shallow? 0 (fun _ => none) (fun _ => none) (fun _ => none) j
  | 1, j => shallow? 1 (decode 0) (fun _ => none) (fun _ => none) j
  | 2, j => shallow? 2 (decode 1) (decode 0) (fun _ => none) j
  | n + 3, j => shallow? (n + 3) (decode (n + 2)) (decode (n + 1)) (decode n) j

end Node

namespace Program

/-- How many arrays and objects may be open at once. -/
def nestingLimit : Nat := 127

/-- The program that a JSON value stands for. -/
def ofJson? (j : Json) : Option Program :=
  Node.items? nestingLimit (Node.decode (nestingLimit - 1)) j

/-- The program that a text stands for. -/
def parse (text : String) : Option Program := (Json.parse text).bind ofJson?

end Program

end OpenScript
