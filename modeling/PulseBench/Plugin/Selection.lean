import PulseBench.Plugin.Registry

/-!
# The selected method and its parameters

A `Selection` is a registry with one selected method and the parameters stored for every method.
New parameters only ever reach the method that is selected.
-/

namespace PulseBench

/-- An operation that may fail and changes a state either way. -/
abbrev Action (α σ β : Type) := EStateM (Failure α) σ β

/-- The outcome of a computation that changes nothing. -/
def Action.lift {α σ β : Type} : Except (Failure α) β → Action α σ β
  | .ok b => pure b
  | .error e => throw e

/-- Runs an action and gives its outcome; it never fails itself. -/
def Action.outcome {α σ β : Type} (act : Action α σ β) : Action α σ (Except (Failure α) β) :=
  fun s =>
    match act s with
    | .ok b s => .ok (.ok b) s
    | .error e s => .ok (.error e) s

/-- The outcome of an action in a state, and the state behind it. -/
def Action.run {α σ β : Type} (act : Action α σ β) (s : σ) : Except (Failure α) β × σ :=
  match act s with
  | .ok b s => (.ok b, s)
  | .error e s => (.error e, s)

structure Selection (α κ : Type) where
  registry : Registry α κ
  current : String
  /-- Parameters set for a method, by method name. -/
  stored : Roster (ParamSet α)

namespace Selection

variable {α κ : Type}

/-- Parameter that selects the method. -/
def methodKey : String := "method"

/-- Selects the default method, or the first one if it is not registered. -/
def ofRegistry (registry : Registry α κ) (default : String) :
    Except (Failure α) (Selection α κ) :=
  if registry.contains default then .ok ⟨registry, default, ∅⟩
  else
    match registry.names with
    | first :: _ => .ok ⟨registry, first, ∅⟩
    | [] => .error (.unknown registry.kind default)

/-- The selected method. -/
def method (s : Selection α κ) : Except (Failure α) (Method α κ) := s.registry.find s.current

/-- The parameters of a method: what was stored, over the declared defaults. -/
def parametersOf [Scalar α] (s : Selection α κ) (name : String) :
    Except (Failure α) (ParamSet α) := do
  let m ← s.registry.find name
  match s.stored.get? name with
  | some stored => m.schema.resolve stored
  | none => return m.schema.defaults

def parameters [Scalar α] (s : Selection α κ) : Except (Failure α) (ParamSet α) :=
  s.parametersOf s.current

/-- Selects a method. -/
def setMethod (name : String) : Action α (Selection α κ) Unit := do
  let s ← get
  if s.registry.contains name then set { s with current := name }
  else throw (.unknown s.registry.kind name)

/-- Stores parameters for the selected method and returns them completed.

A value under `methodKey` selects the method first. An invalid value rejects all values. -/
def setParameters [Scalar α] (params : ParamSet α) : Action α (Selection α κ) (ParamSet α) := do
  match params.get? methodKey with
  | some (.text name) => setMethod name
  | some value => throw (.param (.methodNotText value))
  | none => pure ()
  let s ← get
  let m ← Action.lift s.method
  let known ← Action.lift s.parameters
  let merged := params.entries.foldl (fun merged (key, value) =>
    if key == methodKey then merged else merged.insert key value) known
  let resolved ← Action.lift (m.schema.resolve merged)
  set { s with stored := s.stored.insert s.current resolved }
  return resolved

/-- Goes over to another registry. Parameters of methods that are gone are forgotten; if the
selected method is gone, the first one takes its place. -/
def replaceRegistry (registry : Registry α κ) : Action α (Selection α κ) Unit := do
  modify fun s => { s with stored := s.stored.filter fun name _ => registry.contains name }
  let s ← get
  if registry.contains s.current then set { s with registry }
  else
    match registry.names with
    | first :: _ => set { s with registry, current := first }
    | [] => throw (.unknown registry.kind s.current)

end Selection

end PulseBench
