/-!
# Name — the leading characters of a name say where it lives

Programs keep the sigils of their names (`$total`, `@@count`, `@owner`), and the sigil alone decides
which store a name is read from and written to.  A name is therefore a pair: its shape, and the key
it has inside the store of that shape (`Shape.of`, `Shape.key`).
-/

namespace OpenScript

/-- The store a name belongs to. -/
inductive Shape where
  /-- `Name` -/
  | constant
  /-- `name` or `_name` -/
  | localVar
  /-- `$name` -/
  | globalVar
  /-- `@@name` -/
  | classVar
  /-- `@name` -/
  | instanceVar
  /-- Any other text: reads find nothing, writes are dropped. -/
  | unknown
  deriving DecidableEq, Repr, Inhabited

namespace Shape

/-- The shape of a name given by its characters.  Only ASCII letters count. -/
def ofChars : List Char → Shape
  | [] => .unknown
  | '$' :: _ => .globalVar
  | '@' :: '@' :: _ => .classVar
  | '@' :: _ => .instanceVar
  | c :: _ =>
    if c.isUpper then .constant
    else if c.isLower || c == '_' then .localVar
    else .unknown

/-- The shape of a name. -/
def of (name : String) : Shape := ofChars name.toList

/-- Whether a name of this shape that a frame does not bind is looked for in the enclosing frames.
`@name` belongs to the current self and `@@name` to the current class, and to nobody else. -/
def delegates : Shape → Bool
  | .instanceVar | .classVar => false
  | _ => true

/-- How many characters the sigil takes. -/
def sigilLength : Shape → Nat
  | .globalVar | .instanceVar => 1
  | .classVar => 2
  | _ => 0

/-- The key of a name inside the store of its shape: the name without its sigil. -/
def key (shape : Shape) (name : String) : String :=
  match shape.sigilLength with
  | 0 => name
  | n => String.ofList (name.toList.drop n)

/-- The word for a shape. -/
def label : Shape → String
  | .constant => "Constant"
  | .localVar => "Local"
  | .globalVar => "Global"
  | .classVar => "ClassVar"
  | .instanceVar => "InstanceVar"
  | .unknown => "Unknown"

end Shape

end OpenScript
