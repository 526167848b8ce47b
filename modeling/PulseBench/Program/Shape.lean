import PulseBench.Param.Value

/-!
# Pulse shapes

What an element stores for an analog channel: the name of a shape function and its parameters.
-/

namespace PulseBench

/-- A shape function by name, with the parameters given to it. -/
structure Shape (α : Type) where
  kind : String
  params : ParamSet α
deriving BEq

namespace Shape

variable {α : Type}

/-- Name of the shape that is zero throughout. -/
def idleKind : String := "Idle"

/-- No voltage. -/
def idle : Shape α := ⟨idleKind, ∅⟩

/-- A constant voltage. -/
def constant (voltage : α) : Shape α := ⟨"DC", Roster.ofList [("voltage", .real voltage)]⟩

/-- A sine of the given peak amplitude, frequency and phase in degrees. -/
def sine (amplitude frequency phase : α) : Shape α :=
  ⟨"Sin", Roster.ofList
    [("amplitude", .real amplitude), ("frequency", .real frequency), ("phase", .real phase)]⟩

def isIdle (s : Shape α) : Bool := s.kind == idleKind

/-- The shape as messages show it: `Sin(amplitude=0.5, phase=90)`. -/
def plain [Numeral α] (s : Shape α) : String :=
  s.kind ++ "(" ++
    ", ".intercalate (s.params.entries.map fun (key, value) => key ++ "=" ++ value.plain) ++ ")"

end Shape

end PulseBench
