import OpenScript.Class
import OpenScript.Decimal.Shortest

/-!
# Number — arithmetic and comparison

Two integers are computed with in 64-bit two's complement; as soon as one operand is a double, both
are.  Integer division truncates, and only it can fail.
-/

namespace OpenScript

/-- A number. -/
inductive Number where
  | int (n : Int64)
  | float (x : Float)
  deriving Repr, Inhabited

namespace Decimal

/-- The remainder of two finite doubles, the second not zero: what is left of the magnitude of the
first when the magnitude of the second has been taken off as often as it goes, with the sign of the
first.  It is always a double itself. -/
def finiteRemainder (x y : Float) : Float :=
  let a := Binary.ofFloat x
  let b := Binary.ofFloat y
  let exponent := min a.exponent b.exponent
  let m := a.mantissa * Nat.pow 2 (a.exponent - exponent).toNat
  let n := b.mantissa * Nat.pow 2 (b.exponent - exponent).toNat
  let r := ((m % n).toUInt64.toFloat).scaleB exponent
  if Layout.isNegative x then -r else r

/-- The remainder of two doubles. -/
def remainder (x y : Float) : Float :=
  if x.isNaN || y.isNaN || x.isInf || y == 0 then 0.0 / 0.0
  else if y.isInf then x
  else finiteRemainder x y

end Decimal

namespace Number

/-- The number in a payload. -/
def ofPayload? : Payload → Option Number
  | .int n => some (.int n)
  | .float x => some (.float x)
  | _ => none

/-- A number as a payload. -/
def payload : Number → Payload
  | .int n => .int n
  | .float x => .float x

/-- A number as a double. -/
def toFloat : Number → Float
  | .int n => n.toFloat
  | .float x => x

/-- A number as an integer: the fraction is dropped, what is too large becomes the nearest integer
there is, and what is no number becomes zero. -/
def toInt64 : Number → Int64
  | .int n => n
  | .float x => x.toInt64

/-- The text of a number. -/
def text : Number → String
  | .int n => toString n
  | .float x => Decimal.showFloat x

/-- Arithmetic on integers; `none` for a division by zero. -/
def intArithmetic? (op : Arithmetic) (a b : Int64) : Option Int64 :=
  match op with
  | .add => some (a + b)
  | .sub => some (a - b)
  | .mul => some (a * b)
  | .div => if b = 0 then none else some (a / b)
  | .rem => if b = 0 then none else some (a % b)

/-- Arithmetic on doubles. -/
def floatArithmetic (op : Arithmetic) (a b : Float) : Float :=
  match op with
  | .add => a + b
  | .sub => a - b
  | .mul => a * b
  | .div => a / b
  | .rem => Decimal.remainder a b

/-- Arithmetic; `none` for a division of integers by zero. -/
def arithmetic? (op : Arithmetic) : Number → Number → Option Number
  | .int a, .int b => (intArithmetic? op a b).map .int
  | a, b => some (.float (floatArithmetic op a.toFloat b.toFloat))

/-- Comparison of integers. -/
def intCompare (op : Comparison) (a b : Int64) : Bool :=
  match op with
  | .less => a < b
  | .greater => b < a
  | .atMost => a ≤ b
  | .atLeast => b ≤ a
  | .equal => a == b

/-- Comparison of doubles. -/
def floatCompare (op : Comparison) (a b : Float) : Bool :=
  match op with
  | .less => a < b
  | .greater => b < a
  | .atMost => a ≤ b
  | .atLeast => b ≤ a
  | .equal => a == b

/-- Comparison. -/
def compare (op : Comparison) : Number → Number → Bool
  | .int a, .int b => intCompare op a b
  | a, b => floatCompare op a.toFloat b.toFloat

end Number

/-- The operator of an arithmetic method. -/
def Arithmetic.label : Arithmetic → String
  | .add => "+"
  | .sub => "-"
  | .mul => "*"
  | .div => "/"
  | .rem => "%"

/-- The operator of a comparison method. -/
def Comparison.label : Comparison → String
  | .less => "<"
  | .greater => ">"
  | .atMost => "<="
  | .atLeast => ">="
  | .equal => "=="

end OpenScript
