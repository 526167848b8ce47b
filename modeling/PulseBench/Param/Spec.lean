import PulseBench.Param.Value
import PulseBench.Text.Quoted

/-!
# Declared parameters

A method declares each of its parameters: name, unit, default, type and bounds.
-/

namespace PulseBench

/-- The type of a parameter. A choice is a closed list of texts. -/
inductive ParamKind where
  | real
  | int
  | bool
  | text
  | choice (options : List String)
deriving DecidableEq, Repr

/-- The type as messages show it. -/
def ParamKind.label : ParamKind → String
  | .real => "Float"
  | .int => "Int"
  | .bool => "Bool"
  | .text => "Str"
  | .choice options => "Enum(" ++ Text.quotedList options ++ ")"

/-- One end of an allowed range: at a number, or beyond every number. -/
inductive Bound (α : Type) where
  | point (x : α)
  | beyond
deriving BEq, Repr

namespace Bound

variable {α : Type} [Scalar α]

/-- Whether a number lies below a lower end. -/
def below (x : α) : Bound α → Bool
  | .point low => decide (x < low)
  | .beyond => false

/-- Whether a number lies above an upper end. -/
def above (x : α) : Bound α → Bool
  | .point high => decide (high < x)
  | .beyond => false

/-- The number at an end; `unbounded` for one beyond every number. -/
def getD (unbounded : α) : Bound α → α
  | .point x => x
  | .beyond => unbounded

end Bound

/-- The end of a range as messages show it; `unbounded` is the text of one beyond every number. -/
def Bound.label {α : Type} [Numeral α] (unbounded : String) : Option (Bound α) → String
  | none => "None"
  | some (.point x) => "Some(" ++ Numeral.debug x ++ ")"
  | some .beyond => "Some(" ++ unbounded ++ ")"

/-- A declared parameter. -/
structure ParamSpec (α : Type) where
  name : String
  unit : String
  default : ParamValue α
  min : Option (Bound α)
  max : Option (Bound α)
  kind : ParamKind
deriving BEq

namespace ParamSpec

variable {α : Type}

/-- A number between two ends. -/
def real (name unit : String) (default : α) (min max : Bound α) : ParamSpec α :=
  ⟨name, unit, .real default, some min, some max, .real⟩

/-- An integer between two ends. -/
def int [Scalar α] (name unit : String) (default min max : Int) : ParamSpec α :=
  ⟨name, unit, .int default, some (.point (Scalar.ofInt min)), some (.point (Scalar.ofInt max)), .int⟩

def bool (name : String) (default : Bool) : ParamSpec α :=
  ⟨name, "", .bool default, none, none, .bool⟩

def text (name default : String) : ParamSpec α :=
  ⟨name, "", .text default, none, none, .text⟩

def choice (name default : String) (options : List String) : ParamSpec α :=
  ⟨name, "", .text default, none, none, .choice options⟩

end ParamSpec

/-- The declared parameters of one method. -/
abbrev Schema (α : Type) := List (ParamSpec α)

end PulseBench
