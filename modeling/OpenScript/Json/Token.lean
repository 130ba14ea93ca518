import OpenScript.Decimal.Literal
import OpenScript.Json.Quoted

/-!
# Json/Token — the words of JSON

`Token.scan` cuts a text into tokens.  Blanks between tokens are space, tab, line feed and carriage
return and nothing else.
-/

namespace OpenScript.Json

/-- A word of JSON. -/
inductive Token where
  | beginObject
  | endObject
  | beginArray
  | endArray
  | colon
  | comma
  | null
  | true
  | false
  | number (literal : Decimal.Literal)
  /-- A string; `none` if its codes stand for no text. -/
  | string (text : Option String)
  deriving DecidableEq, Repr, Inhabited

namespace Token

/-- A character that may stand between tokens. -/
def isBlank (c : Char) : Bool := c == ' ' || c == '\t' || c == '\n' || c == '\r'

/-- The string token that a text starts with, behind its opening quote. -/
def string? (cs : List Char) : Option (Token × List Char) :=
  (Quoted.items? [] cs).map fun (items, rest) =>
    (.string ((Quoted.decode [] items).map String.ofList), rest)

/-- The token a text starts with, and what follows it. -/
def next? : List Char → Option (Token × List Char)
  | '{' :: cs => some (.beginObject, cs)
  | '}' :: cs => some (.endObject, cs)
  | '[' :: cs => some (.beginArray, cs)
  | ']' :: cs => some (.endArray, cs)
  | ':' :: cs => some (.colon, cs)
  | ',' :: cs => some (.comma, cs)
  | '"' :: cs => string? cs
  | 'n' :: 'u' :: 'l' :: 'l' :: cs => some (.null, cs)
  | 't' :: 'r' :: 'u' :: 'e' :: cs => some (.true, cs)
  | 'f' :: 'a' :: 'l' :: 's' :: 'e' :: cs => some (.false, cs)
  | cs => (Decimal.Literal.read? cs).map fun (l, rest) => (.number l, rest)

theorem length_next? {cs rest : List Char} {t : Token} (h : next? cs = some (t, rest)) :
    rest.length < cs.length := by
  unfold next? at h
  split at h
  case h_7 =>
    obtain ⟨⟨items, rest'⟩, hi, he⟩ := Option.map_eq_some_iff.1 h
    obtain ⟨-, rfl⟩ := Prod.mk.inj he
    have := Quoted.length_items? hi
    simp only [List.length_cons]; omega
  case h_11 =>
    obtain ⟨⟨l, rest'⟩, hl, he⟩ := Option.map_eq_some_iff.1 h
    obtain ⟨-, rfl⟩ := Prod.mk.inj he
    exact Decimal.Literal.length_read? hl
  all_goals
    obtain ⟨-, rfl⟩ := Prod.mk.inj (Option.some.inj h)
    simp only [List.length_cons]; omega

/-- The tokens of a text, put behind the reverse of `read`. -/
def scanOnto (read : List Token) (cs : List Char) : Option (List Token) :=
  match cs with
  | [] => some read.reverse
  | c :: rest =>
    if isBlank c then scanOnto read rest
    else match h : next? (c :: rest) with
      | some (t, rest') =>
        have : rest'.length < rest.length + 1 := length_next? h
        scanOnto (t :: read) rest'
      | none => none
termination_by cs.length
decreasing_by all_goals simp only [List.length_cons]; omega

/-- The tokens of a text. -/
def scan (cs : List Char) : Option (List Token) := scanOnto [] cs

end Token

end OpenScript.Json
