/-!
# Json/Quoted — text between double quotes

`Quoted.items?` reads a string up to its closing quote into the characters and `\u` codes it is
written with, and `Quoted.decode` turns these into text; it fails exactly when a code is half of a
surrogate pair whose other half is missing.  `Quoted.encode` writes text with the fewest escapes.
-/

namespace OpenScript.Json

/-- A piece of a written string: a character, or a 16-bit code written as `\uXXXX`. -/
inductive Item where
  | char (c : Char)
  | code (n : Nat)
  deriving DecidableEq, Repr

namespace Quoted

/-- The value of a hexadecimal digit. -/
def hexValue? (c : Char) : Option Nat :=
  if c.isDigit then some (c.toNat - '0'.toNat)
  else if 'a' ≤ c ∧ c ≤ 'f' then some (c.toNat - 'a'.toNat + 10)
  else if 'A' ≤ c ∧ c ≤ 'F' then some (c.toNat - 'A'.toNat + 10)
  else none

/-- The code that four hexadecimal digits stand for. -/
def code? (a b c d : Char) : Option Nat := do
  some (((← hexValue? a) * 16 + (← hexValue? b)) * 256 + (← hexValue? c) * 16 + (← hexValue? d))

/-- The character that a one-letter escape stands for. -/
def escaped? : Char → Option Char
  | '"' => some '"'
  | '\\' => some '\\'
  | '/' => some '/'
  | 'b' => some '\x08'
  | 'f' => some '\x0c'
  | 'n' => some '\n'
  | 'r' => some '\r'
  | 't' => some '\t'
  | _ => none

/-- Reads a string whose opening quote is behind us: the items before the closing quote, put in
front of `read` in reverse order, and the characters behind it. -/
def items? (read : List Item) : List Char → Option (List Item × List Char)
  | '"' :: cs => some (read.reverse, cs)
  | '\\' :: 'u' :: a :: b :: c :: d :: cs =>
    match code? a b c d with
    | some n => items? (.code n :: read) cs
    | none => none
  | '\\' :: c :: cs =>
    match escaped? c with
    | some e => items? (.char e :: read) cs
    | none => none
  | c :: cs => if c.toNat < 0x20 then none else items? (.char c :: read) cs
  | [] => none

/-- A code that needs a second one behind it. -/
def isHigh (n : Nat) : Bool := 0xD800 ≤ n && n < 0xDC00

/-- A code that needs one before it. -/
def isLow (n : Nat) : Bool := 0xDC00 ≤ n && n < 0xE000

/-- The character that a pair of codes stands for. -/
def pair (high low : Nat) : Char := Char.ofNat (0x10000 + (high - 0xD800) * 0x400 + (low - 0xDC00))

/-- The text that items stand for, put behind the reverse of `read`. -/
def decode (read : List Char) : List Item → Option (List Char)
  | [] => some read.reverse
  | .char c :: items => decode (c :: read) items
  | .code n :: items =>
    if isLow n then none
    else if isHigh n then
      match items with
      | .code m :: items => if isLow m then decode (pair n m :: read) items else none
      | _ => none
    else decode (Char.ofNat n :: read) items

/-- A digit of a lower-case hexadecimal number. -/
def hexDigit (n : Nat) : Char := Nat.digitChar (n % 16)

/-- How a character is written inside a string: quotes, backslashes and control characters are
escaped, everything else stands for itself. -/
def encodeChar (c : Char) : List Char :=
  match c with
  | '"' => ['\\', '"']
  | '\\' => ['\\', '\\']
  | '\x08' => ['\\', 'b']
  | '\x0c' => ['\\', 'f']
  | '\n' => ['\\', 'n']
  | '\r' => ['\\', 'r']
  | '\t' => ['\\', 't']
  | c =>
    if c.toNat < 0x20 then ['\\', 'u', '0', '0', hexDigit (c.toNat / 16), hexDigit c.toNat]
    else [c]

/-- Text as it is written between quotes. -/
def encode (cs : List Char) : List Char := '"' :: (cs.flatMap encodeChar ++ ['"'])

theorem length_items? {read items : List Item} {cs rest : List Char}
    (h : items? read cs = some (items, rest)) : rest.length < cs.length := by
  fun_induction items? read cs with
  | case1 read cs =>
    obtain ⟨-, rfl⟩ := Prod.mk.inj (Option.some.inj h)
    simp
  | case2 read a b c d cs n hn ih => simp only [List.length_cons]; have := ih h; omega
  | case3 => cases h
  | case4 read c cs _ e he ih => simp only [List.length_cons]; have := ih h; omega
  | case5 => cases h
  | case6 => cases h
  | case7 read c cs _ _ _ hc ih => simp only [List.length_cons]; have := ih h; omega
  | case8 => cases h

end Quoted

end OpenScript.Json
