import OpenScript.Value

/-!
# Frame — where names are bound

There are four kinds of frame.  They all hold a self, a current class, locals, constants and the
frame around them; what else a frame holds is its `Role`.
-/

namespace OpenScript

/-- What sets the kinds of frame apart. -/
inductive Role where
  /-- The root or a nested namespace, with the namespaces registered in it. -/
  | space (registered : Store FrameId)
  /-- A class body. -/
  | classBody
  /-- The frame whose self is a receiver; names it does not bind are looked for in a namespace. -/
  | receiver (space : FrameId)
  /-- One run of a method, or of a lambda if it captures a frame. -/
  | activation (name : String) (arguments : List Value) (captured : Option FrameId)
  deriving Inhabited

namespace Role

/-- The word for a kind of frame. -/
def label : Role → String
  | .space _ => "Namespace"
  | .classBody => "ClassBody"
  | .receiver _ => "Instance"
  | .activation .. => "Method"

/-- The namespace that a receiver's frame searches. -/
def space? : Role → Option FrameId
  | .receiver searched => some searched
  | _ => none

/-- The frame that a lambda's activation captures. -/
def captured? : Role → Option FrameId
  | .activation _ _ captured => captured
  | _ => none

end Role

/-- A frame. -/
structure Frame where
  self : Value
  cls : ClassId
  locals : Store Value := {}
  constants : Store Value := {}
  parent : Option FrameId
  role : Role
  deriving Inhabited

end OpenScript
