import OpenScript.Name
import OpenScript.Hierarchy
import OpenScript.Scope.Path

/-!
# Scope — reading and writing names

A name is first looked for in a frame's own stores and then, if its shape delegates, along the
frame's search path (`State.searchPath`).  It is always written into the frame's own stores.  A
frame's own locals are those of its closure chain (`State.closureChain`): the frame, the frame it
captured, the frame that one captured, and so on; the nearest that binds a local is read, and it is
the one that is written.
-/

namespace OpenScript.State

/-! ## Names -/

/-- The value whose instance variables a frame reads and writes.  In a class body they belong to
whoever encloses the definition. -/
def ivarOwner (s : State) (f : FrameId) : Value :=
  match (s.frameAt f).role, (s.frameAt f).parent with
  | .classBody, some p => if p < f then s.ivarOwner p else (s.frameAt f).self
  | _, _ => (s.frameAt f).self
termination_by f

/-- Whether a frame itself binds a local. -/
def bindsLocal (s : State) (name : String) (f : FrameId) : Bool :=
  (s.frameAt f).locals.contains name

/-- The local that is visible in a frame without leaving its closure chain. -/
def local? (s : State) (f : FrameId) (name : String) : Option Value :=
  s.nearest? (fun g => (s.frameAt g).locals[name]?) f

/-- The frame that a local is written in: the nearest of the closure chain that binds it, or else
the frame itself. -/
def localOwner (s : State) (f : FrameId) (name : String) : FrameId :=
  ((s.closureChain f).find? (s.bindsLocal name)).getD f

/-- What a name is bound to in a frame's own stores. -/
def lookupOwn (s : State) (f : FrameId) (name : String) : Option Value :=
  let shape := Shape.of name
  match shape with
  | .constant => (s.frameAt f).constants[name]?
  | .localVar => s.local? f name
  | .globalVar => s.globals[shape.key name]?
  | .classVar => (s.classAt (s.frameAt f).cls).classVars[shape.key name]?
  | .instanceVar => s.ivar? (s.ivarOwner f) (shape.key name)
  | .unknown => none

/-- What a name is bound to as seen from a frame. -/
def lookup (s : State) (f : FrameId) (name : String) : Option Value :=
  if (Shape.of name).delegates then s.seek? (fun g => s.lookupOwn g name) f
  else s.lookupOwn f name

theorem lookup_of_delegates {name : String} (h : (Shape.of name).delegates = true) (s : State)
    (f : FrameId) : s.lookup f name = (s.searchPath f).findSome? fun g => s.lookupOwn g name := by
  rw [lookup, if_pos h, seek?_eq]

/-- What a frame's own stores bind is seen first. -/
theorem lookup_of_lookupOwn {s : State} {f : FrameId} {name : String} {v : Value}
    (h : s.lookupOwn f name = some v) : s.lookup f name = some v := by
  by_cases hd : (Shape.of name).delegates = true
  · rw [lookup_of_delegates hd, searchPath_eq, List.findSome?_cons, h]
  · rw [lookup, if_neg hd, h]

/-- The value of a name as seen from a frame; a name that is not bound is `nil`. -/
def get (s : State) (f : FrameId) (name : String) : Value := (s.lookup f name).getD .nil

/-- Binds a local in a frame itself, whatever it captured. -/
def bindLocal (s : State) (f : FrameId) (name : String) (v : Value) : State :=
  s.modifyFrame f fun x => { x with locals := x.locals.insert name v }

/-- Binds a constant in a frame, over any binding it had. -/
def bindConstant (s : State) (f : FrameId) (name : String) (v : Value) : State :=
  s.modifyFrame f fun x => { x with constants := x.constants.insert name v }

/-- Writes a name into a frame's own stores. -/
def set (s : State) (f : FrameId) (name : String) (v : Value) : State :=
  let shape := Shape.of name
  match shape with
  | .constant => s.bindConstant f name v
  | .localVar => s.bindLocal (s.localOwner f name) name v
  | .globalVar => { s with globals := s.globals.insert (shape.key name) v }
  | .classVar => s.modifyClass (s.frameAt f).cls fun x =>
      { x with classVars := x.classVars.insert (shape.key name) v }
  | .instanceVar => s.setIvar (s.ivarOwner f) (shape.key name) v
  | .unknown => s

/-- The constant that a frame itself binds. -/
def ownConstant? (s : State) (f : FrameId) (name : String) : Option Value :=
  (s.frameAt f).constants[name]?

/-- Binds a constant that a frame does not bind yet; says whether it did. -/
def defineConstant (s : State) (f : FrameId) (name : String) (v : Value) : Bool × State :=
  if (s.frameAt f).constants.contains name then (false, s)
  else (true, s.bindConstant f name v)

/-- A global by its name, with or without the `$`. -/
def global? (s : State) (name : String) : Option Value :=
  match name.toList with
  | '$' :: key => s.globals[String.ofList key]?
  | _ => s.globals[name]?

/-! ## Namespaces -/

/-- The namespace that governs a frame. -/
def governing (s : State) (f : FrameId) : FrameId :=
  match (s.frameAt f).role with
  | .space _ => f
  | .receiver space => space
  | _ =>
    match (s.frameAt f).parent with
    | some p => if p < f then s.governing p else f
    | none => f
termination_by f

/-- The namespaces registered in a frame. -/
def registeredIn (s : State) (f : FrameId) : Store FrameId :=
  match (s.frameAt f).role with
  | .space registered => registered
  | _ => {}

/-- Registers a namespace under a name where a frame's governing namespace keeps them. -/
def register (s : State) (f : FrameId) (name : String) (space : FrameId) : State :=
  s.modifyFrame (s.governing f) fun x =>
    match x.role with
    | .space registered => { x with role := .space (registered.insert name space) }
    | _ => x

/-- The namespace registered under a name in the governing namespace itself. -/
def registered? (s : State) (f : FrameId) (name : String) : Option FrameId :=
  (s.registeredIn (s.governing f))[name]?

/-- The namespace registered under a name in the governing namespace or one that encloses it. -/
def findNamespace? (s : State) (f : FrameId) (name : String) : Option FrameId :=
  match s.registered? f name with
  | some space => some space
  | none =>
    match (s.frameAt (s.governing f)).parent with
    | some p => if p < f then s.findNamespace? p name else none
    | none => none
termination_by f

/-! ## Running methods -/

/-- A running method. -/
structure Activation where
  name : String
  arguments : List Value
  /-- The class that defines the method. -/
  cls : ClassId
  receiver : Value
  /-- The frame with the current values of the parameters. -/
  frame : FrameId
  deriving Inhabited

/-- The run of a method that a frame is, if it is one. -/
def activation? (s : State) (f : FrameId) : Option Activation :=
  let x := s.frameAt f
  match x.role with
  | .activation name arguments none => some ⟨name, arguments, x.cls, x.self, f⟩
  | _ => none

/-- The method that a frame runs in; lambdas are looked through to the method that made them. -/
def active? (s : State) (f : FrameId) : Option Activation :=
  (s.enclosing f).findSome? s.activation?

/-! ## New frames -/

/-- A namespace in a frame. -/
def newSpace (s : State) (f : FrameId) (self : Value) (c : ClassId) : FrameId × State :=
  s.addFrame { self, cls := c, parent := some f, role := .space {} }

/-- The body of a class. -/
def newClassBody (s : State) (f : FrameId) (c : ClassId) : FrameId × State :=
  s.addFrame { self := .cls c, cls := c, parent := some f, role := .classBody }

/-- The frame of a receiver. -/
def newReceiver (s : State) (f : FrameId) (self : Value) (space : FrameId) : FrameId × State :=
  s.addFrame { self, cls := (s.frameAt f).cls, parent := some f, role := .receiver space }

/-- A run of a method, or of a lambda if it captures a frame. -/
def newActivation (s : State) (f : FrameId) (name : String) (arguments : List Value)
    (captured : Option FrameId) : FrameId × State :=
  let x := s.frameAt f
  s.addFrame
    { self := x.self, cls := x.cls, parent := some f, role := .activation name arguments captured }

/-- Binds parameters to arguments: missing arguments are `nil`, surplus ones are dropped. -/
def bindParams (s : State) (f : FrameId) : List String → List Value → State
  | [], _ => s
  | p :: ps, [] => (s.bindLocal f p .nil).bindParams f ps []
  | p :: ps, v :: vs => (s.bindLocal f p v).bindParams f ps vs

end OpenScript.State
