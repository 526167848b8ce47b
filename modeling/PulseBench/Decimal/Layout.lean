import PulseBench.Decimal.Shortest

/-!
# Writing a decimal numeral

The digits of a number are chosen in `PulseBench.Decimal.Shortest`; this module places them. A
numeral is written positionally (`0.0000025`) or scientifically (`2.5e-6`), and three layouts of
doubles are built from the two.
-/

namespace PulseBench.Decimal

/-- `n` zeros. -/
def zeros (n : Nat) : String := String.ofList (List.replicate n '0')

/-- The sign of a numeral in front of its text. -/
def signed (negative : Bool) (text : String) : String :=
  if negative then "-" ++ text else text

namespace Numerals

/-- The digits of the coefficient. -/
def digits (n : Numerals) : List Char := Nat.toDigits 10 n.coefficient

/-- Positional notation: all places of the whole part, and as many decimals as there are. -/
def positional (n : Numerals) : String :=
  signed n.negative <|
    match n.exponent with
    | .ofNat e => if n.coefficient = 0 then "0" else String.ofList n.digits ++ zeros e
    | .negSucc e =>
        let places := e + 1
        if places < n.digits.length then
          let whole := n.digits.length - places
          String.ofList (n.digits.take whole) ++ "." ++ String.ofList (n.digits.drop whole)
        else "0." ++ zeros (places - n.digits.length) ++ String.ofList n.digits

/-- Scientific notation: one digit, the others as decimals, and the exponent without plus sign or
padding. -/
def scientific (n : Numerals) : String :=
  let power := n.exponent + (n.digits.length - 1 : Nat)
  let exponent := if n.coefficient = 0 then 0 else power
  signed n.negative <|
    (match n.digits with
      | [] => "0"
      | [d] => String.singleton d
      | d :: rest => String.singleton d ++ "." ++ String.ofList rest) ++ "e" ++ toString exponent

/-- Whether the numeral has no decimals. -/
def isWhole (n : Numerals) : Bool := decide (0 ≤ n.exponent)

/-- Exponent of the leading digit. -/
def leading (n : Numerals) : Int := n.exponent + (n.digits.length - 1 : Nat)

end Numerals

/-- The text of a double that is not finite; undefined values have no sign. -/
def unbounded (x : Float) : String :=
  if x.isNaN then "NaN" else signed (decide (x < 0)) "inf"

/-- Shortest positional decimal: `1`, `0.000000001`, `-0`. -/
def plain (x : Float) : String :=
  match Dyadic.ofDouble? x with
  | some d => d.shortest.positional
  | none => unbounded x

/-- Shortest scientific decimal: `2e9`, `1.5e-9`. -/
def scientific (x : Float) : String :=
  match Dyadic.ofDouble? x with
  | some d => d.shortest.scientific
  | none => unbounded x

/-- Leading digits whose exponent lies in this range are written positionally in debug texts. -/
def debugRange (leading : Int) : Bool := decide (-4 ≤ leading) && decide (leading < 16)

/-- Positional with at least one decimal place, scientific outside of `debugRange`. -/
def debug (x : Float) : String :=
  match Dyadic.ofDouble? x with
  | some d =>
      let n := d.shortest
      if n.coefficient = 0 || debugRange n.leading then
        if n.isWhole then n.positional ++ ".0" else n.positional
      else n.scientific
  | none => unbounded x

/-- A double to `digits` significant digits in scientific notation, zero without sign or exponent;
unbounded and undefined values in small letters. -/
def significant (digits : Nat) (x : Float) : String :=
  match Dyadic.ofDouble? x with
  | some d => if d.mantissa = 0 then "0" else (d.rounded digits).scientific
  | none => if x.isNaN then "nan" else signed (decide (x < 0)) "inf"

end PulseBench.Decimal
