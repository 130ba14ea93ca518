import OpenScript.Text.CaseTable

/-!
# Text/Case — changing the case of text

Every character has one upper case and one lower case, which may be several characters.  Only
capital sigma looks at its neighbours: at the end of a word its lower case is `ς`.
-/

namespace OpenScript.Text

/-- Whether a shift applies to a code point. -/
def Shift.covers (s : Shift) (n : Nat) : Bool :=
  s.first ≤ n && n ≤ s.last && (n - s.first) % s.step == 0

/-- A character with its case changed by the shift that covers it, or listed on its own. -/
def changeCase (expansions : List (Nat × List Nat)) (shifts : List Shift) (c : Char) : List Char :=
  match expansions.lookup c.toNat with
  | some codes => codes.map Char.ofNat
  | none =>
    match shifts.find? (·.covers c.toNat) with
    | some s => [Char.ofNat (c.toNat + s.offset).toNat]
    | none => [c]

/-- The upper case of a character. -/
def upperChar (c : Char) : List Char :=
  if c.toNat < 0x80 then [c.toUpper]
  else changeCase upperExpansions (upperShiftsLow ++ upperShiftsHigh) c

/-- The lower case of a character, whatever its neighbours. -/
def lowerChar (c : Char) : List Char :=
  if c.toNat < 0x80 then [c.toLower]
  else changeCase lowerExpansions (lowerShiftsLow ++ lowerShiftsHigh) c

/-- Whether a character has a case. -/
def isCased (c : Char) : Bool := casedRuns.any fun (a, b) => a ≤ c.toNat && c.toNat ≤ b

/-- Whether a character does not count when the case of its neighbours is looked at. -/
def isCaseIgnorable (c : Char) : Bool :=
  (caseIgnorableRunsLow ++ caseIgnorableRunsHigh).any fun (a, b) => a ≤ c.toNat && c.toNat ≤ b

/-- Whether the first character that counts has a case. -/
def startsCased (cs : List Char) : Bool :=
  match cs.dropWhile isCaseIgnorable with
  | c :: _ => isCased c
  | [] => false

/-- The lower case of text whose characters before it, the last first, are `before`. -/
def lowerAfter (before : List Char) : List Char → List Char
  | [] => []
  | c :: cs =>
    (if c == 'Σ' then if startsCased before && !startsCased cs then ['ς'] else ['σ']
      else lowerChar c) ++ lowerAfter (c :: before) cs

/-- Text in upper case. -/
def upper (s : String) : String := String.ofList (s.toList.flatMap upperChar)

/-- Text in lower case. -/
def lower (s : String) : String := String.ofList (lowerAfter [] s.toList)

end OpenScript.Text
