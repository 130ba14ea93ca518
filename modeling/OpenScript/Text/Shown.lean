import OpenScript.Text.Unseen

/-!
# Text/Shown — text shown between quotes

Every character shows: quotes, backslashes and the common control characters have escapes of their
own, and any other character that would not show on its own is written by its code point.
-/

namespace OpenScript.Text

/-- A code point between braces, in lower-case hexadecimal without leading zeros. -/
def codePoint (n : Nat) : List Char := ['\\', 'u', '\x7b'] ++ Nat.toDigits 16 n ++ ['\x7d']

/-- How a character is shown. -/
def shownChar (c : Char) : List Char :=
  match c with
  | '\x00' => ['\\', '0']
  | '\t' => ['\\', 't']
  | '\r' => ['\\', 'r']
  | '\n' => ['\\', 'n']
  | '\\' => ['\\', '\\']
  | '"' => ['\\', '"']
  | c => if isUnseen c then codePoint c.toNat else [c]

/-- Text shown between quotes. -/
def shown (s : String) : String :=
  String.ofList ('"' :: (s.toList.flatMap shownChar ++ ['"']))

end OpenScript.Text
