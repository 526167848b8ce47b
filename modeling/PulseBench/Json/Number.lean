import PulseBench.Json.Value

/-!
# Numbers in JSON text

A number stands for the nearest real, unless it is written as an integer and fits 64 bits. A number
beyond all finite reals stands for nothing.
-/

namespace PulseBench.Json

/-- The text of a number, cut into its parts. -/
structure NumberText where
  negative : Bool
  whole : List Char
  /-- Decimals, if there is a point. -/
  decimals : Option (List Char)
  /-- Exponent, if there is one. -/
  exponent : Option Int

namespace NumberText

/-- The value of digits. -/
def digitsValue (digits : List Char) : Nat :=
  digits.foldl (fun n c => 10 * n + (c.toNat - '0'.toNat)) 0

/-- A signed exponent: at least one digit, with or without a sign. -/
def exponent? (text : List Char) : Option Int :=
  let (negative, digits) :=
    match text with
    | '-' :: rest => (true, rest)
    | '+' :: rest => (false, rest)
    | rest => (false, rest)
  if digits.isEmpty || !digits.all Char.isDigit then none
  else some (if negative then -(digitsValue digits : Int) else digitsValue digits)

/-- Decimals and exponent: what stands behind the whole part. -/
def tail? (negative : Bool) (whole text : List Char) : Option NumberText :=
  let (point, decimals, rest) :=
    match text with
    | '.' :: rest => (true, rest.takeWhile Char.isDigit, rest.dropWhile Char.isDigit)
    | rest => (false, [], rest)
  if point && decimals.isEmpty then none
  else
    let decimals := if point then some decimals else none
    match rest with
    | [] => some ⟨negative, whole, decimals, none⟩
    | c :: rest =>
        if c == 'e' || c == 'E' then
          (exponent? rest).map fun e => ⟨negative, whole, decimals, some e⟩
        else none

/-- Cuts a number. A whole part of more than one digit does not start with zero. -/
def ofChars? (text : List Char) : Option NumberText :=
  let (negative, text) :=
    match text with
    | '-' :: rest => (true, rest)
    | rest => (false, rest)
  let whole := text.takeWhile Char.isDigit
  if whole.isEmpty || (whole.head? == some '0' && 1 < whole.length) then none
  else tail? negative whole (text.dropWhile Char.isDigit)

variable {α : Type} [Scalar α]

/-- The nearest real; none if that is not finite. -/
def real? (n : NumberText) : Option α :=
  let decimals := n.decimals.getD []
  let x : α :=
    Scalar.ofDecimal (digitsValue (n.whole ++ decimals)) (n.exponent.getD 0 - decimals.length)
  if Scalar.isFinite x then some (if n.negative then -x else x) else none

/-- The value of a number: an integer if it is written as one and fits 64 bits. Negative zero is
no integer. -/
def value (n : NumberText) : Json α :=
  let magnitude := digitsValue n.whole
  let isInteger := n.decimals.isNone && n.exponent.isNone
  if isInteger && !n.negative && magnitude ≤ maxCount then .int magnitude
  else if isInteger && n.negative && 0 < magnitude && magnitude ≤ Nat.pow 2 63 then
    .int (-magnitude)
  else (n.real?).elim .unreadable .real

end NumberText

end PulseBench.Json
