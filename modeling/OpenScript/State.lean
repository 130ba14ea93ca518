import OpenScript.Class
import OpenScript.Frame

/-!
# State — everything an evaluation can change

The arenas only grow: objects, classes and frames are added and updated in place but never removed.
-/

namespace OpenScript

/-- The state of an interpreter. -/
structure State where
  classes : Array Class := #[]
  frames : Array Frame := #[]
  objects : Array Object := #[]
  symbols : SymbolTable := {}
  /-- The `$` variables, without their sigil; all frames share them. -/
  globals : Store Value := {}
  /-- What has been printed and not yet been taken. -/
  output : String := ""
  /-- How many methods and lambdas are running. -/
  depth : Nat := 0
  /-- How many may run at once. -/
  limit : Nat
  deriving Inhabited

namespace State

/-! ## Arenas -/

/-- The class with the given id. -/
def classAt (s : State) (c : ClassId) : Class := s.classes[c]?.getD default

/-- The frame with the given id. -/
def frameAt (s : State) (f : FrameId) : Frame := s.frames[f]?.getD default

/-- The object with the given id. -/
def objectAt (s : State) (o : ObjectId) : Object := s.objects[o]?.getD default

/-- Updates a class. -/
def modifyClass (s : State) (c : ClassId) (update : Class → Class) : State :=
  { s with classes := s.classes.modify c update }

/-- Updates a frame. -/
def modifyFrame (s : State) (f : FrameId) (update : Frame → Frame) : State :=
  { s with frames := s.frames.modify f update }

/-- Updates an object. -/
def modifyObject (s : State) (o : ObjectId) (update : Object → Object) : State :=
  { s with objects := s.objects.modify o update }

/-- Adds a class. -/
def addClass (s : State) (c : Class) : ClassId × State :=
  (s.classes.size, { s with classes := s.classes.push c })

/-- Adds a frame. -/
def addFrame (s : State) (f : Frame) : FrameId × State :=
  (s.frames.size, { s with frames := s.frames.push f })

/-- Adds an object. -/
def addObject (s : State) (o : Object) : Value × State :=
  (.object s.objects.size, { s with objects := s.objects.push o })

/-- A fresh object that boxes a payload. -/
def box (s : State) (c : ClassId) (payload : Payload) : Value × State :=
  s.addObject { cls := c, payload }

/-- A fresh plain object. -/
def instantiate (s : State) (c : ClassId) : Value × State := s.box c .none

/-- The symbol of a name. -/
def intern (s : State) (name : String) : SymbolId × State :=
  let (id, symbols) := s.symbols.intern name
  (id, { s with symbols })

/-! ## Values -/

/-- The datum boxed in a value. -/
def payload (s : State) : Value → Payload
  | .object o => (s.objectAt o).payload
  | _ => .none

/-- Only `nil` and `false` are not. -/
def isTruthy (s : State) : Value → Bool
  | .nil => false
  | .object o =>
    match (s.objectAt o).payload with
    | .bool b => b
    | _ => true
  | .cls _ => true

/-- The integer in a value. -/
def int? (s : State) (v : Value) : Option Int64 :=
  match s.payload v with
  | .int n => some n
  | _ => none

/-- The number in a value, as a double. -/
def float? (s : State) (v : Value) : Option Float :=
  match s.payload v with
  | .float x => some x
  | .int n => some n.toFloat
  | _ => none

/-- The text in a value. -/
def text? (s : State) (v : Value) : Option String :=
  match s.payload v with
  | .text t => some t
  | _ => none

/-- The truth value in a value. -/
def bool? (s : State) (v : Value) : Option Bool :=
  match s.payload v with
  | .bool b => some b
  | _ => none

/-- The symbol in a value. -/
def symbol? (s : State) (v : Value) : Option SymbolId :=
  match s.payload v with
  | .symbol i => some i
  | _ => none

/-- The lambda in a value. -/
def closure? (s : State) (v : Value) : Option Closure :=
  match s.payload v with
  | .lambda c => some c
  | _ => none

/-- Equality of values: the same value, or objects whose data are equal. -/
def equal (s : State) (v w : Value) : Bool :=
  v == w || (s.payload v).agrees (s.payload w)

/-! ## Instance variables -/

/-- An instance variable of an object. -/
def objectIvar? (s : State) (v : Value) (key : String) : Option Value :=
  match v with
  | .object o => (s.objectAt o).ivars[key]?
  | _ => none

/-- An instance variable of an object or of a class used as a value. -/
def ivar? (s : State) (v : Value) (key : String) : Option Value :=
  match v with
  | .cls c => (s.classAt c).ivars[key]?
  | v => s.objectIvar? v key

/-- Writes an instance variable of an object; nothing else has any. -/
def setObjectIvar (s : State) (v : Value) (key : String) (w : Value) : State :=
  match v with
  | .object o => s.modifyObject o fun x => { x with ivars := x.ivars.insert key w }
  | _ => s

/-- Writes an instance variable of an object or of a class used as a value; `nil` has none. -/
def setIvar (s : State) (v : Value) (key : String) (w : Value) : State :=
  match v with
  | .cls c => s.modifyClass c fun x => { x with ivars := x.ivars.insert key w }
  | v => s.setObjectIvar v key w

end State

end OpenScript
