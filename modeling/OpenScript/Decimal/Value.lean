import OpenScript.Decimal.Literal

/-!
# Decimal/Value — the number a literal stands for

An integer literal stands for a 64-bit word.  Every literal in range stands for a double: its digits
are gathered into a 64-bit significand for as long as they fit, and the significand is then scaled
by a power of ten in double arithmetic (`scale?`), which fails exactly when the result is infinite.
-/

namespace OpenScript.Decimal

/-- The first power of two that a word with a sign cannot hold. -/
def signedBound : Nat := Nat.pow 2 63

/-- The first power of two that a word without a sign cannot hold. -/
def unsignedBound : Nat := Nat.pow 2 64

/-- The value of a digit. -/
def digitValue (c : Char) : Nat := c.toNat - '0'.toNat

/-- The number that digits stand for. -/
def digitsValue (ds : List Char) : Nat := ds.foldl (fun n c => 10 * n + digitValue c) 0

/-- Appends digits to a significand for as long as it fits in a word: the significand, and the
digits that did not fit. -/
def gather : Nat → List Char → Nat × List Char
  | n, [] => (n, [])
  | n, d :: ds =>
    let m := 10 * n + digitValue d
    if m < unsignedBound then gather m ds else (n, d :: ds)

/-- The largest power of ten a double can hold. -/
def greatestPower : Nat := 308

/-- A power of ten, rounded to the nearest double. -/
def powerOfTen (n : Nat) : Float := Float.ofScientific 1 false n

/-- A double times a power of ten, in double arithmetic: one multiplication or division where the
power is a double, and otherwise divisions by the greatest power until it is.  An infinite result is
no result. -/
def scale? (x : Float) (exponent : Int) : Option Float :=
  if 0 ≤ exponent then
    if exponent.toNat ≤ greatestPower then
      let y := x * powerOfTen exponent.toNat
      if y.isInf then none else some y
    else if x == 0 then some x else none
  else if (-exponent).toNat ≤ greatestPower then some (x / powerOfTen (-exponent).toNat)
  else if x == 0 then some x
  else scale? (x / powerOfTen greatestPower) (exponent + greatestPower)
termination_by (-exponent).toNat
decreasing_by simp only [greatestPower] at *; omega

/-- The power of ten that an exponent stands for. -/
def Exponent.value (e : Exponent) : Int :=
  match e.sign with
  | .minus => -(digitsValue e.digits : Int)
  | _ => digitsValue e.digits

namespace Literal

/-- Whether a literal has neither a fraction nor an exponent. -/
def isInteger (l : Literal) : Bool := l.fraction.isNone && l.exponent.isNone

/-- The word an integer literal stands for.  `-0` is not an integer, nor is anything that needs more
than 64 bits. -/
def toInt64? (l : Literal) : Option Int64 :=
  if l.isInteger then
    let n := digitsValue l.whole
    if l.negative then
      if 0 < n ∧ n ≤ signedBound then some (Int64.ofInt (-n)) else none
    else if n < signedBound then some (Int64.ofNat n) else none
  else none

/-- The significand of a literal and the power of ten that its point and its surplus digits stand
for.  Digits behind the first that does not fit count only as places. -/
def significand (l : Literal) : Nat × Int :=
  let (n, surplus) := gather 0 l.whole
  let (m, unread) := gather n (l.fraction.getD [])
  (m, surplus.length - ((l.fraction.getD []).length - unread.length : Nat))

/-- The greatest exponent that is still added up; beyond it only its sign matters. -/
def greatestExponent : Nat := 2147483647

/-- The magnitude of the double a literal stands for. -/
def magnitude? (l : Literal) : Option Float :=
  let (m, places) := l.significand
  let x := m.toUInt64.toFloat
  match l.exponent with
  | none => scale? x places
  | some e =>
    let n := digitsValue e.digits
    if greatestExponent < n then if e.sign == .minus || m == 0 then some 0 else none
    else scale? x (places + e.value)

/-- The double a literal stands for. -/
def toFloat? (l : Literal) : Option Float :=
  l.magnitude?.map fun x => if l.negative then -x else x

end Literal

end OpenScript.Decimal
