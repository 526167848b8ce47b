import PulseBench.Scalar
import PulseBench.Roster

/-!
# Parameter values

Shapes, recipes and evaluation methods are all steered by named parameters. A value is a truth
value, an integer, a number or a text. An integer also serves as a number, and a number without
fractional part as an integer.
-/

namespace PulseBench

/-- One parameter value. -/
inductive ParamValue (α : Type) where
  | bool (b : Bool)
  | int (n : Int)
  | real (x : α)
  | text (s : String)
deriving BEq, Repr, Inhabited

namespace ParamValue

variable {α : Type}

/-- The value as a number. -/
def number? [Scalar α] : ParamValue α → Option α
  | .real x => some x
  | .int n => some (Scalar.ofInt n)
  | _ => none

/-- The value as an integer. -/
def integer? [Scalar α] : ParamValue α → Option Int
  | .int n => some n
  | .real x => Scalar.integral? x
  | _ => none

def truth? : ParamValue α → Option Bool
  | .bool b => some b
  | _ => none

def string? : ParamValue α → Option String
  | .text s => some s
  | _ => none

/-- The value as messages show it. -/
def plain [Numeral α] : ParamValue α → String
  | .bool b => if b then "true" else "false"
  | .int n => toString n
  | .real x => Numeral.plain x
  | .text s => s

end ParamValue

/-- Parameter values by name. -/
abbrev ParamSet (α : Type) := Roster (ParamValue α)

end PulseBench
