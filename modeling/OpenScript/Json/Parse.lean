import OpenScript.Json.Basic
import OpenScript.Json.Token

/-!
# Json/Parse — reading JSON one token at a time

`Reader.step` takes a reader over one token, and `Json.ofTokens?` is the fold of it over all of
them.  The arrays and objects that are still open are kept on a stack of their own, so values may
nest to any depth.
-/

namespace OpenScript.Json

/-- An array or object that holds the value being read, with what it held before, the last first. -/
inductive Open where
  | array (items : List Json)
  /-- The key belongs to the value being read. -/
  | object (fields : List (Option String × Json)) (key : Option String)
  deriving Inhabited

/-- What a reader has just read, and so what may follow. -/
inductive Phase where
  /-- A value must follow. -/
  | value
  /-- An opening bracket: a value or the closing bracket must follow. -/
  | bracket
  /-- An opening brace: a key or the closing brace must follow. -/
  | brace
  /-- A comma in an object: a key must follow. -/
  | key (fields : List (Option String × Json))
  /-- A key: its colon must follow. -/
  | colon (fields : List (Option String × Json)) (key : Option String)
  /-- A whole value. -/
  | done (value : Json)
  deriving Inhabited

/-- How far reading has come. -/
structure Reader where
  opened : List Open
  phase : Phase
  deriving Inhabited

namespace Reader

/-- Starts a value inside the open arrays and objects. -/
def begin? (opened : List Open) : Token → Option Reader
  | .null => some ⟨opened, .done .null⟩
  | .true => some ⟨opened, .done (.bool true)⟩
  | .false => some ⟨opened, .done (.bool false)⟩
  | .number l => some ⟨opened, .done (.number l)⟩
  | .string s => some ⟨opened, .done (.string s)⟩
  | .beginArray => some ⟨opened, .bracket⟩
  | .beginObject => some ⟨opened, .brace⟩
  | _ => none

/-- Reads one token. -/
def step (r : Reader) (t : Token) : Option Reader :=
  match r.phase, t, r.opened with
  | .value, t, st => begin? st t
  | .bracket, .endArray, st => some ⟨st, .done (.array [])⟩
  | .bracket, t, st => begin? (.array [] :: st) t
  | .brace, .endObject, st => some ⟨st, .done (.object [])⟩
  | .brace, .string k, st => some ⟨st, .colon [] k⟩
  | .key fs, .string k, st => some ⟨st, .colon fs k⟩
  | .colon fs k, .colon, st => some ⟨.object fs k :: st, .value⟩
  | .done v, .comma, .array vs :: st => some ⟨.array (v :: vs) :: st, .value⟩
  | .done v, .endArray, .array vs :: st => some ⟨st, .done (.array (v :: vs).reverse)⟩
  | .done v, .comma, .object fs k :: st => some ⟨st, .key ((k, v) :: fs)⟩
  | .done v, .endObject, .object fs k :: st => some ⟨st, .done (.object ((k, v) :: fs).reverse)⟩
  | _, _, _ => none

/-- The value of a reader that has read one whole value and is inside nothing. -/
def value? : Reader → Option Json
  | ⟨[], .done v⟩ => some v
  | _ => none

end Reader

/-- The value that tokens stand for. -/
def ofTokens? (tokens : List Token) : Option Json :=
  (tokens.foldlM Reader.step ⟨[], .value⟩).bind Reader.value?

/-- The value that characters stand for. -/
def ofChars? (cs : List Char) : Option Json := (Token.scan cs).bind ofTokens?

/-- The value that a text stands for. -/
def parse (text : String) : Option Json := ofChars? text.toList

end OpenScript.Json
