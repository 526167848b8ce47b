import PulseBench.Decimal.Dyadic

/-!
# The double nearest to a number

`nearest` rounds a quotient of natural numbers to a double: to the nearer of its two neighbours, and
halfway between them to the one whose mantissa is even. `double` does that for a decimal numeral.
Everything is exact up to the one rounding.
-/

namespace PulseBench.Decimal

/-- The exponent that gives `num / den` a mantissa with its highest bit at `leadingBit`, for
positive `num` and `den`. The lengths of both leave two candidates, and a comparison decides. -/
def binaryPlace (num den : Nat) : Int :=
  let guess : Int := (num.log2 : Int) - (den.log2 : Int) - 52
  let (scaled, unit) := inUnits 2 num den guess
  if scaled < Dyadic.leadingBit * unit then guess - 1 else guess

/-- `num / den` rounded to the mantissa of a double, for positive `num` and `den`. -/
def nearest (negative : Bool) (num den : Nat) : Dyadic :=
  let place := max Dyadic.leastExponent (binaryPlace num den)
  let (scaled, unit) := inUnits 2 num den place
  ⟨negative, nearestEven scaled unit, place⟩

/-- The bits of positive infinity: those of every larger magnitude would be no number. -/
def infinityBits : Nat := 2047 * Dyadic.leadingBit

/-- The double with these parts, whose mantissa fits a double; infinite if there is none. The
highest bit of a mantissa is not stored: it counts as one more of the exponent. -/
def Dyadic.toDouble (d : Dyadic) : Float :=
  let field := (d.exponent - leastExponent).toNat
  let magnitude := min (field * leadingBit + d.mantissa) infinityBits
  Float.ofBits (if d.negative then Nat.pow 2 63 + magnitude else magnitude).toUInt64

/-- No double is as large as ten to this power, and none but zero as small as ten to its negative. -/
def decimalLimit : Int := 330

/-- The double nearest to `coefficient · 10 ^ exponent`; infinite if that is beyond all of them. -/
def double (coefficient : Nat) (exponent : Int) : Float :=
  let leading := ((Nat.toDigits 10 coefficient).length : Int) + exponent
  if coefficient = 0 ∨ leading < -decimalLimit then 0.0
  else if decimalLimit < leading then 1.0 / 0.0
  else
    match exponent with
    | .ofNat e => (nearest false (coefficient * Nat.pow 10 e) 1).toDouble
    | .negSucc e => (nearest false coefficient (Nat.pow 10 (e + 1))).toDouble

end PulseBench.Decimal
