/-!
# Segment — the pieces of a text literal

`%name`, `%@name`, `%@@name` and `%$name` inside a text literal refer to a variable, and `\%name`
stands for the characters `%name`.  `Segment.scan` cuts a text into such references and the literal
runs between them, always taking the longest marker; a `%` or a backslash that starts no marker is a
literal of one character.
-/

namespace OpenScript

/-- A piece of a text literal. -/
inductive Segment where
  /-- Characters that stand for themselves. -/
  | literal (text : String)
  /-- A name to be read, with its sigil and without the `%`. -/
  | reference (name : String)
  deriving DecidableEq, Repr, Inhabited

namespace Segment

/-- A character of a name: an ASCII letter, a digit or `_`. -/
def isWord (c : Char) : Bool := c.isAlphanum || c == '_'

/-- A character that can neither start a marker nor escape one. -/
def isPlain (c : Char) : Bool := c != '%' && c != '\\'

/-- A text cut behind the sigil it starts with, if it starts with one. -/
def splitSigil : List Char → List Char × List Char
  | '@' :: '@' :: cs => (['@', '@'], cs)
  | '@' :: cs => (['@'], cs)
  | '$' :: cs => (['$'], cs)
  | cs => ([], cs)

/-- The name that a text starts with, sigil included, and what follows it: an optional sigil and
then as many word characters as there are, but at least one. -/
def splitName? (cs : List Char) : Option (List Char × List Char) :=
  let (sigil, rest) := splitSigil cs
  match rest.takeWhile isWord with
  | [] => none
  | word => some (sigil ++ word, rest.dropWhile isWord)

theorem length_dropWhile_le (p : Char → Bool) (cs : List Char) :
    (cs.dropWhile p).length ≤ cs.length :=
  (List.dropWhile_suffix p).length_le

theorem length_splitSigil_le : ∀ cs : List Char, (splitSigil cs).2.length ≤ cs.length
  | cs => by unfold splitSigil; split <;> simp only [List.length_cons] <;> omega

theorem length_splitName? {cs name rest : List Char} (h : splitName? cs = some (name, rest)) :
    rest.length ≤ cs.length := by
  unfold splitName? at h
  dsimp only at h
  split at h
  · cases h
  · obtain ⟨-, rfl⟩ := Prod.mk.inj (Option.some.inj h)
    exact Nat.le_trans (length_dropWhile_le _ _) (length_splitSigil_le cs)

/-- The segments of a text, left to right. -/
def ofChars : List Char → List Segment
  | [] => []
  | '%' :: cs =>
    match h : splitName? cs with
    | some (name, rest) =>
      have := length_splitName? h
      .reference (String.ofList name) :: ofChars rest
    | none => .literal "%" :: ofChars cs
  | '\\' :: '%' :: cs =>
    match h : splitName? cs with
    | some (name, rest) =>
      have := length_splitName? h
      .literal (String.ofList ('%' :: name)) :: ofChars rest
    | none => .literal "\\" :: ofChars ('%' :: cs)
  | '\\' :: cs => .literal "\\" :: ofChars cs
  | c :: cs =>
    have := length_dropWhile_le isPlain cs
    .literal (String.ofList (c :: cs.takeWhile isPlain)) :: ofChars (cs.dropWhile isPlain)
termination_by cs => cs.length
decreasing_by all_goals simp only [List.length_cons]; omega

theorem ofChars_nil : ofChars [] = [] := by rw [ofChars]

/-- The segments of a text, left to right. -/
def scan (text : String) : List Segment := ofChars text.toList

/-- Whether a text can hold a reference at all. -/
def hasMarker (text : String) : Bool := text.toList.contains '%'

end Segment

end OpenScript
