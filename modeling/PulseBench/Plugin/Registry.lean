import PulseBench.Param.Resolve

/-!
# Registries of methods

Shapes, recipes, extraction and evaluation methods are all found by name in a `Registry`. A method
comes with its declared parameters and its rule. Methods are contributed by modules, modules are
grouped into named roots, and a registry is built once from a catalogue of roots:

- the built-in root comes first, then the roots that were asked for, without repetition;
- a module that fails to load is noted and skipped;
- the first method of a name wins.
-/

namespace PulseBench

/-- A method: its name, its declared parameters, and what it does with them. -/
structure Method (α κ : Type) where
  name : String
  schema : Schema α
  rule : κ

/-- A unit of methods that is loaded as a whole, or fails. -/
structure PluginModule (α κ : Type) where
  name : String
  load : Except (Failure α) (List (Method α κ))

/-- A named group of modules, as settings refer to it. -/
structure PluginRoot (α κ : Type) where
  name : String
  modules : List (PluginModule α κ)

/-- The available methods of one kind. -/
structure Registry (α κ : Type) where
  /-- What the methods are, for messages about unknown names. -/
  kind : String
  methods : Roster (Method α κ)
  /-- Modules that failed to load. -/
  failed : List String

namespace Registry

variable {α κ : Type}

/-- The root that is always loaded first. -/
def builtinRoot : String := "builtin"

/-- A method whose name is taken is left out. -/
def offer (methods : Roster (Method α κ)) (m : Method α κ) : Roster (Method α κ) :=
  if methods.contains m.name then methods else methods.insert m.name m

/-- The registry with one more module. -/
def load (r : Registry α κ) (unit : PluginModule α κ) : Registry α κ :=
  match unit.load with
  | .ok loaded => { r with methods := loaded.foldl offer r.methods }
  | .error _ => { r with failed := r.failed ++ [unit.name] }

/-- The registry of all modules of the given roots. -/
def ofRoots (kind : String) (roots : List (PluginRoot α κ)) : Registry α κ :=
  (roots.flatMap PluginRoot.modules).foldl load ⟨kind, ∅, []⟩

/-- Appends the root of a name; unknown and repeated names change nothing. -/
def select (catalogue selected : List (PluginRoot α κ)) (name : String) :
    List (PluginRoot α κ) :=
  match catalogue.find? (·.name == name) with
  | some root => if selected.any (·.name == root.name) then selected else selected ++ [root]
  | none => selected

/-- The registry of the built-in root and the named ones. -/
def ofCatalogue (kind : String) (catalogue : List (PluginRoot α κ)) (extra : List String) :
    Registry α κ :=
  let builtin := (catalogue.find? (·.name == builtinRoot)).toList
  ofRoots kind (extra.foldl (select catalogue) builtin)

/-- The method of a name. -/
def find (r : Registry α κ) (name : String) : Except (Failure α) (Method α κ) :=
  (r.methods.get? name).elim (.error (.unknown r.kind name)) .ok

def contains (r : Registry α κ) (name : String) : Bool := r.methods.contains name

def names (r : Registry α κ) : List String := r.methods.names

/-- All names with the declared parameters. -/
def schemas (r : Registry α κ) : List (String × Schema α) :=
  r.methods.entries.map fun (name, m) => (name, m.schema)

end Registry

end PulseBench
