import PulseBench.Scalar
import PulseBench.Decimal.Layout
import PulseBench.Decimal.Nearest

/-!
# Binary floating point as the number type

The instance that runs. Counters are unsigned and offsets signed 64-bit numbers, so the whole part
of a double is capped at their ends.
-/

namespace PulseBench

namespace Double

/-- The double nearest to a natural number. -/
def ofNat (n : Nat) : Float :=
  if n < Nat.pow 2 64 then n.toUInt64.toFloat else Decimal.double n 0

/-- The double nearest to an integer. -/
def ofInt : Int → Float
  | .ofNat n => ofNat n
  | .negSucc n => -ofNat (n + 1)

/-- The whole part toward zero, between the ends of the signed 64-bit numbers. -/
def toInt (x : Float) : Int := x.toInt64.toInt

/-- The integer equal to `x`, if its fractional part is zero. -/
def integral? (x : Float) : Option Int :=
  if x.isFinite && x.round == x then some (toInt x) else none

/-- Billionths of a non-negative double, computed exactly and then rounded. -/
def billionths (x : Float) : Nat :=
  match Decimal.Dyadic.ofDouble? x with
  | some d =>
      let (num, den) := d.quotient
      if d.negative then 0 else Decimal.nearestEven (num * Nat.pow 10 9) den
  | none => 0

end Double

instance : Scalar Float where
  ofScientific coefficient isNegative exponent :=
    Decimal.double coefficient (if isNegative then -exponent else exponent)
  decLt := inferInstance
  decLe := inferInstance
  ofNat := Double.ofNat
  ofInt := Double.ofInt
  abs := Float.abs
  isFinite := Float.isFinite
  isNaN := Float.isNaN
  round := Float.round
  toNat x := x.toUInt64.toNat
  toInt := Double.toInt
  integral? := Double.integral?
  billionths := Double.billionths

instance : Analytic Float where
  pi := 3.14159265358979323846
  sin := Float.sin
  cos := Float.cos
  sqrt := Float.sqrt
  exp := Float.exp
  narrow x := x.toFloat32.toFloat

instance : Numeral Float where
  plain := Decimal.plain
  debug := Decimal.debug
  scientific := Decimal.scientific

end PulseBench
