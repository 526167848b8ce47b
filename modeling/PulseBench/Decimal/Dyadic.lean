/-!
# Binary floating point as mantissa and exponent

A finite double is `± mantissa · 2 ^ exponent` with natural `mantissa`. Everything this library
says about the decimal form of a double is said about that triple, in exact arithmetic.
-/

namespace PulseBench.Decimal

/-- The number `± mantissa · 2 ^ exponent`. -/
structure Dyadic where
  negative : Bool
  mantissa : Nat
  exponent : Int
deriving DecidableEq, Repr

namespace Dyadic

/-- Least exponent of a double, that of the subnormal numbers. -/
def leastExponent : Int := -1074

/-- The mantissa of a normal double has its highest bit here. -/
def leadingBit : Nat := Nat.pow 2 52

/-- The parts of a finite double; none for infinities and undefined values. -/
def ofDouble? (x : Float) : Option Dyadic :=
  let bits := x.toBits.toNat
  let negative := decide (Nat.pow 2 63 ≤ bits)
  let field := bits / leadingBit % 2048
  let fraction := bits % leadingBit
  if field = 2047 then none
  else if field = 0 then some ⟨negative, fraction, leastExponent⟩
  else some ⟨negative, leadingBit + fraction, leastExponent + (field - 1 : Nat)⟩

/-- The magnitude as a quotient of natural numbers, the denominator positive. -/
def quotient (d : Dyadic) : Nat × Nat :=
  match d.exponent with
  | .ofNat e => (d.mantissa * Nat.pow 2 e, 1)
  | .negSucc e => (d.mantissa, Nat.pow 2 (e + 1))

theorem quotient_den_pos (d : Dyadic) : 0 < d.quotient.2 := by
  unfold quotient
  split
  · exact Nat.one_pos
  · exact Nat.two_pow_pos _

end Dyadic

/-- The whole number nearest to `num / den`; a half goes to the even neighbour. -/
def nearestEven (num den : Nat) : Nat :=
  let q := num / den
  let r := num % den
  if 2 * r < den then q
  else if den < 2 * r then q + 1
  else if q % 2 = 0 then q else q + 1

/-- The exponent `d` with `10 ^ d ≤ num / den < 10 ^ (d + 1)`, for positive `num` and `den`.

Above one it is the number of digits of the whole part, less one. Below one the whole part of
`den / num` leaves two candidates, and a comparison decides. -/
def magnitude (num den : Nat) : Int :=
  if den ≤ num then ((Nat.toDigits 10 (num / den)).length : Int) - 1
  else
    let length := (Nat.toDigits 10 (den / num)).length
    if den ≤ num * Nat.pow 10 (length - 1) then -((length : Int) - 1) else -(length : Int)

/-- A decimal numeral: the digits of `coefficient`, shifted by `exponent` places. -/
structure Numerals where
  negative : Bool
  coefficient : Nat
  exponent : Int
deriving DecidableEq, Repr

/-- Drops the trailing zeros of a coefficient, at most `places` of them. -/
def dropZeros : Nat → Nat → Int → Nat × Int
  | 0, c, e => (c, e)
  | places + 1, c, e => if c % 10 = 0 then dropZeros places (c / 10) (e + 1) else (c, e)

/-- The same numeral without trailing zeros. -/
def Numerals.trimmed (n : Numerals) : Numerals :=
  let (c, e) := dropZeros (Nat.toDigits 10 n.coefficient).length n.coefficient n.exponent
  ⟨n.negative, c, e⟩

/-- `num / den` counted in units of `base ^ place`, as a quotient. -/
def inUnits (base num den : Nat) (place : Int) : Nat × Nat :=
  match place with
  | .ofNat p => (num, den * Nat.pow base p)
  | .negSucc p => (num * Nat.pow base (p + 1), den)

end PulseBench.Decimal
