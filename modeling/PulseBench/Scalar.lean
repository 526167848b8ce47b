/-!
# Numbers

Durations, sample rates, voltages and counts per bin are all numbers of one type `α`. The rules of
this library never look inside that type: they use the operations of `Scalar`, and the shapes and
smoothing kernels also those of `Analytic`. Binary floating point is one instance
(`PulseBench.Scalar.Double`); an exact field is another, and every rule means the same in both.

How a number is written in a message is a separate concern, `Numeral`.
-/

namespace PulseBench

/-- The arithmetic, the order and the conversions that the rules of this library use.

`LT` and `LE` are the comparisons of the number type itself, so a value that is not a number is
neither below, nor above, nor equal to anything. A decimal literal stands for the nearest number. -/
class Scalar (α : Type) extends
    Add α, Sub α, Mul α, Div α, Neg α, LT α, LE α, BEq α, OfScientific α where
  decLt : DecidableLT α
  decLe : DecidableLE α
  /-- The number nearest to a natural number. -/
  ofNat : Nat → α
  /-- The number nearest to an integer. -/
  ofInt : Int → α
  abs : α → α
  /-- Neither infinite nor undefined. -/
  isFinite : α → Bool
  /-- Undefined, such as the quotient of zero by zero. -/
  isNaN : α → Bool
  /-- The nearest whole number; a half goes away from zero. -/
  round : α → α
  /-- The whole part of a number, zero for negative and undefined ones, capped where the counters
  of the number type end. -/
  toNat : α → Nat
  /-- The whole part of a number, toward zero, zero for undefined ones, capped where the integers
  of the number type end. -/
  toInt : α → Int
  /-- The integer that equals the number, if there is one. -/
  integral? : α → Option Int
  /-- The nearest whole number of billionths; a half goes to the even neighbour. -/
  billionths : α → Nat

instance Scalar.decidableLT {α : Type} [Scalar α] : DecidableLT α := Scalar.decLt
instance Scalar.decidableLE {α : Type} [Scalar α] : DecidableLE α := Scalar.decLe

/-- The functions that pulse shapes, smoothing and error bars need besides arithmetic. -/
class Analytic (α : Type) extends Scalar α where
  pi : α
  sin : α → α
  cos : α → α
  sqrt : α → α
  exp : α → α
  /-- The number as a sample memory of single precision holds it. -/
  narrow : α → α

/-- The three ways a message writes a number. -/
class Numeral (α : Type) where
  /-- Shortest positional decimal. -/
  plain : α → String
  /-- Positional decimal with at least one decimal place, scientific for very small or large
  numbers. -/
  debug : α → String
  /-- Shortest scientific decimal. -/
  scientific : α → String

namespace Scalar

variable {α : Type} [Scalar α]

/-- The nearest whole number of units, never negative: how many bins a duration fills. -/
def toBins (x : α) : Nat := toNat (round x)

/-- The nearest whole number of units, negative ones included: a signed bin offset. -/
def toOffset (x : α) : Int := toInt (round x)

/-- The number itself, or zero for negative and undefined ones. -/
def clipped (x : α) : α := if (0.0 : α) < x then x else 0.0

/-- The smaller of a number and a limit; an undefined number becomes the limit. -/
def capped (limit x : α) : α := if x < limit then x else limit

/-- The number moved into the range from `low` to `high`; an undefined number stays as it is. -/
def clamped (low high x : α) : α :=
  let raised := if x < low then low else x
  if high < raised then high else raised

/-- Positive and finite, what rates and time-outs have to be. -/
def isPositive (x : α) : Bool := decide ((0.0 : α) < x) && isFinite x

/-- The number nearest to `coefficient · 10 ^ exponent`. -/
def ofDecimal (coefficient : Nat) (exponent : Int) : α :=
  OfScientific.ofScientific coefficient (exponent < 0) exponent.natAbs

/-! ## Sums -/

/-- A sum from the left. It begins at negative zero, which leaves every number as it is; so a sum of
negative zeros is one too. -/
def sum (xs : List α) : α := xs.foldl (· + ·) (-0.0)

/-- Eight sums of every eighth item, over as many full groups of eight as there are. -/
def laneSums (items : List α) (groups : Nat) : List α :=
  let cells := items.toArray
  (List.range 8).map fun lane =>
    sum ((List.range groups).map fun group => cells.getD (8 * group + lane) 0.0)

/-- A sum in eight lanes, which are added in pairs, and then the items behind the last full group of
eight; so rounding errors stay small. -/
def balancedSum (items : List α) : α :=
  let groups := items.length / 8
  let lanes := laneSums items groups
  let paired := List.zipWith (· + ·) (lanes.take 4) (lanes.drop 4)
  (paired ++ items.drop (8 * groups)).foldl (· + ·) 0.0

end Scalar

end PulseBench
