import OpenScript.Decimal.Literal

/-!
# Decimal/Shortest — the fewest digits that read back

A finite double stands for every real that rounds to it, an interval whose ends belong to it exactly
when its mantissa is even.  `Shortest.of` finds the decimal in that interval with the fewest digits,
the nearest of those, and of two equally near the one that a `Tie` prefers; all of it in natural
numbers.  A `Layout` says which tie that is, when such a decimal is written with an exponent, and
how.
-/

namespace OpenScript.Decimal

/-- A finite magnitude `mantissa · 2^exponent` as a double stores it. -/
structure Binary where
  mantissa : Nat
  exponent : Int
  /-- Whether the next smaller double is only half as far away as the next greater one. -/
  narrowBelow : Bool
  deriving DecidableEq, Repr

namespace Binary

/-- How many fractions there are. -/
def fractions : Nat := Nat.pow 2 52

/-- The magnitude that the bits of a finite double stand for. -/
def ofBits (bits : Nat) : Binary :=
  let fraction := bits % fractions
  match bits / fractions % 2048 with
  | 0 => ⟨fraction, -1074, false⟩
  | e => ⟨fractions + fraction, (e : Int) - 1075, fraction == 0 && 1 < e⟩

/-- The magnitude of a finite double. -/
def ofFloat (x : Float) : Binary := ofBits x.toBits.toNat

end Binary

/-- A fraction `numerator / denominator · unit` with its rounding interval: all reals from
`numerator - below` to `numerator + above` over the denominator. -/
structure Interval where
  numerator : Nat
  below : Nat
  above : Nat
  denominator : Nat
  /-- Whether the ends belong to the interval. -/
  closed : Bool
  deriving DecidableEq, Repr

namespace Interval

/-- The reals that round to a double, in quarters of its last place. -/
def ofBinary (b : Binary) : Interval :=
  let unit := Nat.pow 2 (b.exponent - 2).toNat
  { numerator := 4 * b.mantissa * unit
    below := (if b.narrowBelow then 1 else 2) * unit
    above := 2 * unit
    denominator := Nat.pow 2 (2 - b.exponent).toNat
    closed := b.mantissa % 2 == 0 }

/-- Whether `n / d` lies in the interval. -/
def mem (i : Interval) (n d : Nat) : Bool :=
  let low := (i.numerator - i.below) * d
  let high := (i.numerator + i.above) * d
  let x := n * i.denominator
  if i.closed then low ≤ x && x ≤ high else low < x && x < high

/-- The exponent of the decade of the middle: `10^decade ≤ middle < 10^(decade + 1)`. -/
def decade (i : Interval) : Int :=
  if i.denominator ≤ i.numerator then
    (Nat.toDigits 10 (i.numerator / i.denominator)).length - 1
  else
    -((Nat.toDigits 10 ((i.denominator - 1) / i.numerator)).length : Int)

end Interval

/-- Which of two decimals is taken that are equally near. -/
inductive Tie where
  /-- The greater one. -/
  | up
  /-- The one whose last digit is even. -/
  | toEven
  deriving DecidableEq, Repr, Inhabited

/-- Whether a tie between a coefficient and the next one goes to the next one. -/
def Tie.takesNext (tie : Tie) (coefficient : Nat) : Bool :=
  match tie with
  | .up => true
  | .toEven => coefficient % 2 == 1

/-- A decimal `coefficient · 10^exponent`. -/
structure Shortest where
  coefficient : Nat
  exponent : Int
  deriving DecidableEq, Repr

namespace Shortest

/-- The neighbours of the middle on the grid of multiples of `10^exponent`, tried for the interval:
the one that lies in it, or the nearer one if both do. -/
def onGrid? (tie : Tie) (i : Interval) (exponent : Int) : Option Shortest :=
  let up := Nat.pow 10 exponent.toNat
  let down := Nat.pow 10 (-exponent).toNat
  let low := i.numerator * down / (i.denominator * up)
  let hitLow := i.mem (low * up) down
  let hitHigh := i.mem ((low + 1) * up) down
  let highIsNearer :=
    match compare ((2 * low + 1) * up * i.denominator) (2 * i.numerator * down) with
    | .lt => true
    | .eq => tie.takesNext low
    | .gt => false
  if hitHigh && (!hitLow || highIsNearer) then some ⟨low + 1, exponent⟩
  else if hitLow then some ⟨low, exponent⟩
  else none

/-- Tries grids of one digit more each time. -/
def search (tie : Tie) (i : Interval) (decade : Int) : (digits fuel : Nat) → Option Shortest
  | _, 0 => none
  | digits, fuel + 1 =>
    match onGrid? tie i (decade - digits) with
    | some s => some s
    | none => search tie i decade (digits + 1) fuel

/-- The same decimal without trailing zeros in its coefficient. -/
def trim : (fuel : Nat) → Shortest → Shortest
  | 0, s => s
  | fuel + 1, s =>
    if s.coefficient != 0 && s.coefficient % 10 == 0 then
      trim fuel ⟨s.coefficient / 10, s.exponent + 1⟩
    else s

/-- The most digits that a double can need. -/
def mostDigits : Nat := 17

/-- The shortest decimal in an interval. -/
def ofInterval (tie : Tie) (i : Interval) : Shortest :=
  match search tie i i.decade 0 mostDigits with
  | some s => trim mostDigits s
  | none => ⟨0, 0⟩

/-- The shortest decimal that reads back as the magnitude of a finite double. -/
def of (tie : Tie) (x : Float) : Shortest :=
  let b := Binary.ofFloat x
  if b.mantissa == 0 then ⟨0, 0⟩ else ofInterval tie (.ofBinary b)

/-- The digits of the coefficient. -/
def digits (s : Shortest) : List Char := Nat.toDigits 10 s.coefficient

/-- Where the point stands: the decimal is `0.d₁d₂… · 10^point`. -/
def point (s : Shortest) : Int := s.digits.length + s.exponent

end Shortest

/-- How a decimal is written: without an exponent when its point stands between two places, and
otherwise with one. -/
structure Layout where
  leastPoint : Int
  greatestPoint : Int
  /-- The sign of an exponent that is not negative. -/
  positiveSign : Sign
  /-- Which of two equally near decimals is written. -/
  tie : Tie
  deriving DecidableEq, Repr

namespace Layout

/-- Zeros. -/
def zeros (n : Nat) : List Char := List.replicate n '0'

/-- Digits with the point among them, with at least one digit on each side of it. -/
def positional (negative : Bool) (ds : List Char) (point : Int) : Literal :=
  if point ≤ 0 then ⟨negative, ['0'], some (zeros (-point).toNat ++ ds), none⟩
  else
    let n := point.toNat
    if ds.length ≤ n then ⟨negative, ds ++ zeros (n - ds.length), some ['0'], none⟩
    else ⟨negative, ds.take n, some (ds.drop n), none⟩

/-- Digits with the point behind the first, and an exponent. -/
def scientific (layout : Layout) (negative : Bool) (ds : List Char) (point : Int) : Literal :=
  { negative
    whole := ds.take 1
    fraction := if ds.length ≤ 1 then none else some (ds.drop 1)
    exponent := some
      { sign := if point - 1 < 0 then .minus else layout.positiveSign
        digits := Nat.toDigits 10 (point - 1).natAbs } }

/-- Whether a double has a minus sign. -/
def isNegative (x : Float) : Bool := Nat.testBit x.toBits.toNat 63

/-- How a finite double is written. -/
def literal (layout : Layout) (x : Float) : Literal :=
  let s := Shortest.of layout.tie x
  if s.coefficient == 0 then ⟨isNegative x, ['0'], some ['0'], none⟩
  else if layout.leastPoint ≤ s.point && s.point ≤ layout.greatestPoint then
    positional (isNegative x) s.digits s.point
  else layout.scientific (isNegative x) s.digits s.point

end Layout

/-- Numbers shown to a reader have an exponent from `10^16` on (`1e16`) and below `10^-4`. -/
def shownLayout : Layout where
  leastPoint := -3
  greatestPoint := 16
  positiveSign := .none
  tie := .up

/-- Numbers in a program's JSON have an exponent from `10^16` on (`1e+16`) and below `10^-5`. -/
def jsonLayout : Layout where
  leastPoint := -4
  greatestPoint := 16
  positiveSign := .plus
  tie := .toEven

/-- The text of a double: `NaN`, `inf`, `-inf`, or the fewest digits that read back, always with a
point or an exponent. -/
def showFloat (x : Float) : String :=
  if x.isNaN then "NaN"
  else if x.isInf then if Layout.isNegative x then "-inf" else "inf"
  else (shownLayout.literal x).text

end OpenScript.Decimal
