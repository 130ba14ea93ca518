import OpenScript.Host
import OpenScript.Json.Quoted

/-!
# Config — settings of an interpreter

Settings are written in TOML.  All of them are integers, so the only texts that can be accepted are
lines of the form `key = integer`, blank lines and comments; a text with anything else in it is
refused, be it TOML or not, and so is an unknown key, a repeated key or a negative integer.
-/

namespace OpenScript

/-- The settings of an interpreter. -/
structure Config where
  /-- How many methods and lambdas may run at once. -/
  maxDepth : Nat := 100000
  /-- How many bytes of stack are kept free. -/
  stackRedZone : Nat := 131072
  /-- How many bytes the stack grows by. -/
  stackGrowSize : Nat := 4194304
  deriving DecidableEq, Repr, Inhabited

namespace Config

/-! ## Words of TOML -/

/-- A character that may stand in a comment or a string: anything but control characters, a tab
excepted. -/
def isVisible (c : Char) : Bool := c == '\t' || (0x20 ≤ c.toNat && c.toNat != 0x7F)

/-- A character between words. -/
def isGap (c : Char) : Bool := c == ' ' || c == '\t'

/-- A text without the gap it starts with. -/
def skipGap (cs : List Char) : List Char := cs.dropWhile isGap

/-- Whether a text is empty or a comment. -/
def isRemark : List Char → Bool
  | [] => true
  | c :: cs => c == '#' && cs.all isVisible

/-- A character of a key without quotes. -/
def isBare (c : Char) : Bool := c.isAlphanum || c == '_' || c == '-'

/-- The character that a one-letter escape in a key stands for. -/
def escaped? : Char → Option Char
  | 'b' => some '\x08'
  | 't' => some '\t'
  | 'n' => some '\n'
  | 'f' => some '\x0c'
  | 'r' => some '\r'
  | '"' => some '"'
  | '\\' => some '\\'
  | _ => none

/-- The number that hexadecimal digits stand for. -/
def hex? (cs : List Char) : Option Nat :=
  cs.foldlM (fun n c => (Json.Quoted.hexValue? c).map (16 * n + ·)) 0

/-- The character with a code given in hexadecimal digits. -/
def charOfHex? (cs : List Char) : Option Char := do
  let n ← hex? cs
  if h : n.isValidChar then some (Char.ofNatAux n h) else none

/-- Reads a key between double quotes, the opening one behind us, in front of what was `read`. -/
def quotedKey? (read : List Char) : List Char → Option (String × List Char)
  | '"' :: cs => some (String.ofList read.reverse, cs)
  | '\\' :: 'u' :: a :: b :: c :: d :: cs =>
    match charOfHex? [a, b, c, d] with
    | some x => quotedKey? (x :: read) cs
    | none => none
  | '\\' :: 'U' :: a :: b :: c :: d :: e :: f :: g :: h :: cs =>
    match charOfHex? [a, b, c, d, e, f, g, h] with
    | some x => quotedKey? (x :: read) cs
    | none => none
  | '\\' :: c :: cs =>
    match escaped? c with
    | some x => quotedKey? (x :: read) cs
    | none => none
  | c :: cs => if isVisible c then quotedKey? (c :: read) cs else none
  | [] => none

/-- The key a text starts with, and what follows it. -/
def key? : List Char → Option (String × List Char)
  | '"' :: cs => quotedKey? [] cs
  | '\'' :: cs =>
    match cs.dropWhile (fun c => isVisible c && c != '\'') with
    | '\'' :: rest =>
      some (String.ofList (cs.takeWhile fun c => isVisible c && c != '\''), rest)
    | _ => none
  | cs =>
    match cs.takeWhile isBare with
    | [] => none
    | word => some (String.ofList word, cs.dropWhile isBare)

/-! ## Integers -/

/-- Digits with single underscores between them, as a number to a base. -/
def digits? (base : Nat) (n : Nat) : List Char → Option Nat
  | [] => none
  | c :: cs =>
    match Json.Quoted.hexValue? c with
    | some d =>
      if d < base then
        match cs with
        | [] => some (base * n + d)
        | '_' :: cs => digits? base (base * n + d) cs
        | cs => digits? base (base * n + d) cs
      else none
    | none => none

/-- A decimal number, which starts with `0` only if that is all of it. -/
def decimal? : List Char → Option Nat
  | ['0'] => some 0
  | '0' :: _ => none
  | cs => digits? 10 0 cs

/-- An integer: decimal with an optional sign, or hexadecimal, octal or binary without one. -/
def integer? : List Char → Option Int
  | '0' :: 'x' :: cs => (digits? 16 0 cs).map (Int.ofNat ·)
  | '0' :: 'o' :: cs => (digits? 8 0 cs).map (Int.ofNat ·)
  | '0' :: 'b' :: cs => (digits? 2 0 cs).map (Int.ofNat ·)
  | '+' :: cs => (decimal? cs).map (Int.ofNat ·)
  | '-' :: cs => (decimal? cs).map (-Int.ofNat ·)
  | cs => (decimal? cs).map (Int.ofNat ·)

/-- A setting: an integer that is not negative and fits in 64 bits with a sign. -/
def setting? (cs : List Char) : Option Nat := do
  let n ← integer? cs
  if 0 ≤ n ∧ n < Decimal.signedBound then some n.toNat else none

/-! ## Lines -/

/-- A character of a value. -/
def isValueChar (c : Char) : Bool := !isGap c && c != '#'

/-- What a line sets, if it sets anything; the outer option is whether it is well formed. -/
def line? (cs : List Char) : Option (Option (String × Nat)) :=
  let cs := skipGap cs
  if isRemark cs then some none
  else do
    let (key, cs) ← key? cs
    match skipGap cs with
    | '=' :: cs =>
      let cs := skipGap cs
      let n ← setting? (cs.takeWhile isValueChar)
      if isRemark (skipGap (cs.dropWhile isValueChar)) then some (some (key, n)) else none
    | _ => none

/-- A line without the carriage return that its end may start with. -/
def trimReturn (cs : List Char) : List Char :=
  match cs.reverse with
  | '\r' :: rest => rest.reverse
  | _ => cs

/-- The lines of a text.  The last one has no end. -/
def lines (cs : List Char) : List (List Char) :=
  match (cs.splitOn '\n').reverse with
  | [] => []
  | last :: rest => (rest.map trimReturn).reverse ++ [last]

/-- A text without the byte order mark it may start with. -/
def skipMark : List Char → List Char
  | '\uFEFF' :: cs => cs
  | cs => cs

/-- What the lines of a text set. -/
def settings? (text : String) : Option (List (String × Nat)) := do
  let found ← (lines (skipMark text.toList)).mapM line?
  some (found.filterMap id)

/-! ## Settings -/

/-- Changes the setting of the given key. -/
def with? (c : Config) (key : String) (n : Nat) : Option Config :=
  match key with
  | "max_depth" => some { c with maxDepth := n }
  | "stack_red_zone" => some { c with stackRedZone := n }
  | "stack_grow_size" => some { c with stackGrowSize := n }
  | _ => none

/-- The settings that a text stands for, if it is well formed. -/
def ofText? (text : String) : Option Config := do
  let found ← settings? text
  if (found.map Prod.fst).Nodup then found.foldlM (fun c (key, n) => c.with? key n) {} else none

/-- The settings that a text stands for. -/
def parse (text : String) : Except Failure Config :=
  match ofText? text with
  | some c => .ok c
  | none => .error (.config "the text is not a list of settings")

/-- The settings in the file with the given path. -/
def load (path : String) (file : FileEntry) : Except Failure Config :=
  (file.textAt path).bind parse

end Config

end OpenScript
