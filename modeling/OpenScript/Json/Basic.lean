import OpenScript.Decimal.Literal
import OpenScript.Json.Quoted

/-!
# Json/Basic — JSON values and their compact text

Objects keep their fields in the order they are written in, repeated keys included, and numbers keep
the way they are written, so a value loses nothing but blanks and the spelling of strings.
-/

namespace OpenScript

/-- A JSON value. -/
inductive Json where
  | null
  | bool (value : Bool)
  | number (literal : Decimal.Literal)
  /-- A string; `none` if its codes stand for no text. -/
  | string (text : Option String)
  | array (items : List Json)
  | object (fields : List (Option String × Json))
  deriving Inhabited, Repr

namespace Json

/-- A string. -/
def text (s : String) : Json := .string (some s)

/-- A natural number. -/
def nat (n : Nat) : Json := .number (.ofNat n)

/-- An object with the given keys. -/
def record (fields : List (String × Json)) : Json :=
  .object (fields.map fun (key, value) => (some key, value))

/-- The characters of a string, a text or not. -/
def stringChars : Option String → List Char
  | some s => Quoted.encode s.toList
  | none => "\"\\ud800\"".toList

mutual

/-- The compact text of a value. -/
def chars : Json → List Char
  | .null => ['n', 'u', 'l', 'l']
  | .bool true => ['t', 'r', 'u', 'e']
  | .bool false => ['f', 'a', 'l', 's', 'e']
  | .number l => l.chars
  | .string s => stringChars s
  | .array items => '[' :: itemsChars items
  | .object fields => '\x7b' :: fieldsChars fields

/-- The items of an array and its closing bracket. -/
def itemsChars : List Json → List Char
  | [] => [']']
  | [j] => j.chars ++ [']']
  | j :: js => j.chars ++ ',' :: itemsChars js

/-- The fields of an object and its closing brace. -/
def fieldsChars : List (Option String × Json) → List Char
  | [] => ['\x7d']
  | [(k, j)] => stringChars k ++ ':' :: (j.chars ++ ['\x7d'])
  | (k, j) :: fs => stringChars k ++ ':' :: (j.chars ++ ',' :: fieldsChars fs)

end

/-- The compact text of a value. -/
def render (j : Json) : String := String.ofList j.chars

/-- The first field of an object with the given key. -/
def field? (j : Json) (key : String) : Option Json :=
  match j with
  | .object fields => fields.lookup (some key)
  | _ => none

/-- The text of a string. -/
def text? : Json → Option String
  | .string s => s
  | _ => none

/-- The items of an array. -/
def items? : Json → Option (List Json)
  | .array items => some items
  | _ => none

/-- The literal of a number. -/
def number? : Json → Option Decimal.Literal
  | .number l => some l
  | _ => none

end Json

end OpenScript
