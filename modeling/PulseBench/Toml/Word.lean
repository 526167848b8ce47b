import PulseBench.Json.Value
import PulseBench.Text.HexDigit

/-!
# Values written as words

Truth values, numbers and dates stand in a settings file without quotes. Digits may be grouped by
single underscores. Integers have 64 bits; the decimal form and the exponential form are reals.

No setting is a date, so a date is only recognised: it becomes an object without fields.
-/

namespace PulseBench.Toml

variable {α : Type}

/-! ## Digits -/

/-- Digits without the underscores between them. -/
def digits? (isDigit : Char → Bool) : List Char → Option (List Char)
  | [] => none
  | [c] => if isDigit c then some [c] else none
  | c :: '_' :: rest => if isDigit c then (digits? isDigit rest).map (c :: ·) else none
  | c :: rest => if isDigit c then (digits? isDigit rest).map (c :: ·) else none

/-- The number that digits stand for. -/
def valueOf (base : Nat) (digits : List Char) : Nat :=
  digits.foldl (fun n c => base * n + (Text.hexDigit? c).getD 0) 0

/-- A word without its sign, and whether that is a minus. -/
def signed : List Char → Bool × List Char
  | '-' :: rest => (true, rest)
  | '+' :: rest => (false, rest)
  | rest => (false, rest)

/-! ## Integers -/

/-- An integer of 64 bits. -/
def integer? (negative : Bool) (magnitude : Nat) : Option (Json α) :=
  let n : Int := if negative then -magnitude else magnitude
  if -Int.pow 2 63 ≤ n ∧ n < Int.pow 2 63 then some (.int n) else none

/-- The digits of a whole number; more than one do not begin with zero. -/
def whole? (chars : List Char) : Option (List Char) := do
  let digits ← digits? Char.isDigit chars
  if digits.head? = some '0' ∧ 1 < digits.length then none else some digits

/-- An integer in a base that is a power of two. -/
def based? (base : Nat) (chars : List Char) : Option (Json α) := do
  let isDigit (c : Char) : Bool := (Text.hexDigit? c).any (· < base)
  integer? false (valueOf base (← digits? isDigit chars))

/-! ## Reals -/

/-- The number `± significand · 10 ^ exponent`. One that is too large is refused if positive. -/
def real? [Scalar α] (negative : Bool) (significand : Nat) (exponent : Int) : Option (Json α) :=
  let magnitude : α := Scalar.ofDecimal significand exponent
  if negative then some (.real (-magnitude))
  else if Scalar.isFinite magnitude then some (.real magnitude)
  else none

/-- What stands behind `e`: digits, which may begin with zero, behind a sign or without one. -/
def exponent? (chars : List Char) : Option Int := do
  let (negative, rest) := signed chars
  let n := valueOf 10 (← digits? Char.isDigit rest)
  return if negative then -(n : Int) else n

/-- A real in decimal or exponential form: a whole part with decimals, an exponent, or both. -/
def decimal? [Scalar α] (negative : Bool) (chars : List Char) : Option (Json α) := do
  let isMark (c : Char) : Bool := c == 'e' || c == 'E'
  let significand := chars.takeWhile fun c => !isMark c
  let exponent ←
    match chars.dropWhile fun c => !isMark c with
    | [] => some 0
    | _ :: rest => exponent? rest
  let whole ← whole? (significand.takeWhile (· != '.'))
  let decimals ←
    match significand.dropWhile (· != '.') with
    | [] => some []
    | _ :: rest => digits? Char.isDigit rest
  real? negative (valueOf 10 (whole ++ decimals)) (exponent - decimals.length)

/-! ## Dates -/

/-- A number of two digits between limits, and what stands behind it. -/
def twoDigits? (low high : Nat) : List Char → Option (Nat × List Char)
  | a :: b :: rest =>
      let n := valueOf 10 [a, b]
      if a.isDigit ∧ b.isDigit ∧ low ≤ n ∧ n ≤ high then some (n, rest) else none
  | _ => none

/-- Drops a character that has to be there. -/
def dropMark? (mark : Char) : List Char → Option (List Char)
  | c :: rest => if c == mark then some rest else none
  | [] => none

def isLeapYear (year : Nat) : Bool :=
  decide (year % 4 = 0) && (decide (year % 100 ≠ 0) || decide (year % 400 = 0))

def daysIn (year month : Nat) : Nat :=
  if month = 2 then (if isLeapYear year then 29 else 28)
  else if [4, 6, 9, 11].contains month then 30
  else 31

/-- What stands behind year, month and day. -/
def afterDay? (chars : List Char) : Option (List Char) := do
  let (century, rest) ← twoDigits? 0 99 chars
  let (year, rest) ← twoDigits? 0 99 rest
  let (month, rest) ← twoDigits? 1 12 (← dropMark? '-' rest)
  let (day, rest) ← twoDigits? 1 31 (← dropMark? '-' rest)
  if day ≤ daysIn (100 * century + year) month then some rest else none

/-- What stands behind hours and minutes. -/
def afterMinutes? (chars : List Char) : Option (List Char) := do
  let (_, rest) ← twoDigits? 0 23 chars
  let (_, rest) ← twoDigits? 0 59 (← dropMark? ':' rest)
  return rest

/-- What stands behind a time of day. A minute may have a leap second. -/
def afterTime? (chars : List Char) : Option (List Char) := do
  let (_, rest) ← twoDigits? 0 60 (← dropMark? ':' (← afterMinutes? chars))
  match rest with
  | '.' :: decimals =>
      if (decimals.head?).any Char.isDigit then some (decimals.dropWhile Char.isDigit) else none
  | _ => some rest

/-- Whether a distance from universal time, or nothing, is all there is. -/
def isOffset : List Char → Bool
  | [] | ['Z'] | ['z'] => true
  | '+' :: rest | '-' :: rest => afterMinutes? rest == some []
  | _ => false

/-- Whether a word is a date, a time of day, or both. -/
def isDate (chars : List Char) : Bool :=
  match afterDay? chars with
  | none => afterTime? chars == some []
  | some [] => true
  | some (delimiter :: rest) =>
      ['T', 't', ' '].contains delimiter && (afterTime? rest).any isOffset

/-! ## Words -/

/-- The number of a word. -/
def number? [Scalar α] (chars : List Char) : Option (Json α) :=
  match chars with
  | '0' :: 'x' :: rest => based? 16 rest
  | '0' :: 'o' :: rest => based? 8 rest
  | '0' :: 'b' :: rest => based? 2 rest
  | _ =>
      let (negative, rest) := signed chars
      let withSign (x : α) : Json α := .real (if negative then -x else x)
      match rest with
      | ['i', 'n', 'f'] => some (withSign (1.0 / 0.0))
      | ['n', 'a', 'n'] => some (withSign (0.0 / 0.0))
      | _ =>
          match whole? rest with
          | some digits => integer? negative (valueOf 10 digits)
          | none => decimal? negative rest

/-- The value of a word. -/
def wordValue? [Scalar α] (chars : List Char) : Option (Json α) :=
  match chars with
  | ['t', 'r', 'u', 'e'] => some (.bool true)
  | ['f', 'a', 'l', 's', 'e'] => some (.bool false)
  | _ =>
      match number? chars with
      | some j => some j
      | none => if isDate chars then some (.object []) else none

end PulseBench.Toml
