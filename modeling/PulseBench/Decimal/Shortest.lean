import PulseBench.Decimal.Dyadic

/-!
# The shortest decimal that reads back

A double stands for every real number that rounds to it: an interval around it, whose ends belong
to it when its mantissa is even. `shortest` gives the numeral with the fewest digits in that
interval and, among those, the one nearest to the double; of two that are equally near, the one
farther from zero.

It tries 1, 2, … 17 digits. If a decimal grid has a point in the interval, one of the two grid
points beside the double is such a point, so these two are all that is looked at. Seventeen digits
always suffice.
-/

namespace PulseBench.Decimal

/-- The reals that round to `d`, as `low / den ≤ x ≤ high / den`, with `value / den` the double
itself. `closed` says whether the ends belong to the interval. -/
structure Interval where
  low : Nat
  value : Nat
  high : Nat
  den : Nat
  closed : Bool

/-- Half of the gap to either neighbour. Below a power of two the gap is half as wide. -/
def Dyadic.interval (d : Dyadic) : Interval :=
  let value := 4 * d.mantissa
  let below :=
    if d.mantissa = leadingBit ∧ leastExponent < d.exponent then value - 1 else value - 2
  let closed := d.mantissa % 2 = 0
  match d.exponent - 2 with
  | .ofNat e => ⟨below * Nat.pow 2 e, value * Nat.pow 2 e, (value + 2) * Nat.pow 2 e, 1, closed⟩
  | .negSucc e => ⟨below, value, value + 2, Nat.pow 2 (e + 1), closed⟩

namespace Interval

/-- Whether `c · 10 ^ place` rounds to the double. -/
def contains (i : Interval) (c : Nat) (place : Int) : Bool :=
  let (unit, scale) := inUnits 10 1 1 place
  -- the point is `c · scale / unit` units of one
  let point := c * scale * i.den
  if i.closed then i.low * unit ≤ point && point ≤ i.high * unit
  else i.low * unit < point && point < i.high * unit

/-- The grid point of `10 ^ place` nearest to the double among those that round to it; halfway
between two of them, the greater one. -/
def gridPoint? (i : Interval) (place : Int) : Option Nat :=
  let (num, den) := inUnits 10 i.value i.den place
  let floor := num / den
  let rest := num % den
  match i.contains floor place, i.contains (floor + 1) place with
  | false, false => none
  | true, false => some floor
  | false, true => some (floor + 1)
  | true, true => some (if 2 * rest < den then floor else floor + 1)

/-- The first grid with a hit, from `place` down, trying `tries` grids. -/
def firstHit (i : Interval) : Nat → Int → Option (Nat × Int)
  | 0, _ => none
  | tries + 1, place =>
      match i.gridPoint? place with
      | some c => some (c, place)
      | none => firstHit i tries (place - 1)

end Interval

/-- The shortest numeral that reads back as `d`. -/
def Dyadic.shortest (d : Dyadic) : Numerals :=
  if d.mantissa = 0 then ⟨d.negative, 0, 0⟩
  else
    let i := d.interval
    match i.firstHit 18 (magnitude i.value i.den) with
    | some (c, place) => (Numerals.mk d.negative c place).trimmed
    | none => ⟨d.negative, 0, 0⟩

/-- `d` to `digits` significant digits, without trailing zeros; an exact half goes to the even
neighbour. -/
def Dyadic.rounded (digits : Nat) (d : Dyadic) : Numerals :=
  if d.mantissa = 0 then ⟨d.negative, 0, 0⟩
  else
    let (num, den) := d.quotient
    let place := magnitude num den + 1 - digits
    let (scaled, unit) := inUnits 10 num den place
    (Numerals.mk d.negative (nearestEven scaled unit) place).trimmed

end PulseBench.Decimal
