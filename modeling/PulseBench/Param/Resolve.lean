import PulseBench.Failure

/-!
# Checking and completing parameters

`ParamSpec.check` holds a value against its declaration and gives it the declared type.
`Schema.resolve` completes a set of given values by the declared defaults: the result has exactly
the declared names in declared order, and a given name that is not declared has no influence.
-/

namespace PulseBench

variable {α : Type} [Scalar α]

namespace ParamSpec

/-- The value in the declared type: integers are accepted for numbers, whole numbers for
integers. -/
def coerce (spec : ParamSpec α) (value : ParamValue α) : Except (Failure α) (ParamValue α) :=
  let typed (coerced : Option (ParamValue α)) :=
    coerced.elim (.error (.param (.wrongType spec.name spec.kind value))) .ok
  match spec.kind with
  | .real => typed (value.number?.map .real)
  | .int => typed (value.integer?.map .int)
  | .bool => typed (value.truth?.map .bool)
  | .text => typed (value.string?.map .text)
  | .choice options => do
      let s ← value.string?.elim
        (.error (.param (.wrongType spec.name spec.kind value))) .ok
      if options.contains s then .ok (.text s)
      else .error (.param (.notAnOption spec.name options s))

/-- Whether a number is outside of the declared bounds; an undefined number always is. -/
def excludes (spec : ParamSpec α) (x : α) : Bool :=
  spec.min.any (Bound.below x) || spec.max.any (Bound.above x) || Scalar.isNaN x

/-- The value in the declared type, if it is of that type and within the bounds. -/
def check (spec : ParamSpec α) (value : ParamValue α) : Except (Failure α) (ParamValue α) := do
  let checked ← spec.coerce value
  match checked.number? with
  | some x =>
      if spec.excludes x then
        .error (.param (.outOfRange spec.name x spec.min spec.max))
      else .ok checked
  | none => .ok checked

end ParamSpec

namespace Schema

/-- The declared defaults. -/
def defaults (schema : Schema α) : ParamSet α :=
  Roster.ofList (schema.map fun spec => (spec.name, spec.default))

/-- The declaration of a name. -/
def find? (schema : Schema α) (name : String) : Option (ParamSpec α) :=
  List.find? (fun spec => spec.name == name) schema

/-- The given values over the defaults, each checked in the order it was given. -/
def resolve (schema : Schema α) (given : ParamSet α) : Except (Failure α) (ParamSet α) :=
  given.entries.foldlM (fun resolved (key, value) =>
    match schema.find? key with
    | some spec => do return resolved.insert key (← spec.check value)
    | none => return resolved) schema.defaults

end Schema

/-! ## Reading resolved parameters -/

namespace ParamSet

/-- The value of a key, read as a type. -/
def read {β : Type} (params : ParamSet α) (key : String) (as? : ParamValue α → Option β) :
    Except (Failure α) β :=
  ((params.get? key).bind as?).elim (.error (.param (.missing key))) .ok

def number (params : ParamSet α) (key : String) : Except (Failure α) α :=
  read params key ParamValue.number?

def integer (params : ParamSet α) (key : String) : Except (Failure α) Int :=
  read params key ParamValue.integer?

/-- A count: an integer that is not negative. -/
def count (params : ParamSet α) (key : String) : Except (Failure α) Nat := do
  match ← integer params key with
  | .ofNat n => .ok n
  | .negSucc _ => .error (.param (.negative key))

def truth (params : ParamSet α) (key : String) : Except (Failure α) Bool :=
  read params key ParamValue.truth?

def string (params : ParamSet α) (key : String) : Except (Failure α) String :=
  read params key ParamValue.string?

end ParamSet

end PulseBench
