import PulseBench.Json.Value
import PulseBench.Roster

/-!
# Tables of a settings file

A settings file is a tree of tables. A table is opened once: by a header of its own, or by the first
dotted key that leads through it. Tables that a header only passes through come into being on the
way and may still be opened by a header later, and so may the next item of a list of tables, which
is always the one that a path leads to.

Every rule gives nothing when a table or a key would be defined twice.
-/

namespace PulseBench.Toml

variable {α : Type}

/-- How a table came into being. -/
inductive Origin where
  | header
  /-- On the way of a header to a table inside. -/
  | passage
  | dottedKey
deriving DecidableEq

/-- What stands under a key. -/
inductive Node (α : Type) where
  | value (v : Json α)
  | table (origin : Origin) (fields : List (String × Node α))
  /-- A list of tables, the last one first. -/
  | tables (items : List (List (String × Node α)))

/-- The fields of a table in order of first appearance. -/
abbrev Fields (α : Type) := List (String × Node α)

namespace Fields

/-- Binds a dotted key. Its last part is new, and leads out of a table that was opened by such keys
alone; on the way before that, tables without a header are passed. -/
def bind (v : Json α) : List String → Fields α → Option (Fields α)
  | [], _ => none
  | [name], fields =>
      if (fields.lookup name).isSome then none else some (Roster.put name (.value v) fields)
  | name :: rest, fields =>
      let isLast := rest.length = 1
      let put (node : Node α) : Fields α := Roster.put name node fields
      match fields.lookup name with
      | none => (bind v rest []).map fun inner => put (.table .dottedKey inner)
      | some (.table .dottedKey inner) =>
          (bind v rest inner).map fun inner => put (.table .dottedKey inner)
      | some (.table .passage inner) =>
          if isLast then none
          else (bind v rest inner).map fun inner => put (.table .passage inner)
      | some (.tables (last :: earlier)) =>
          if isLast then none
          else (bind v rest last).map fun last => put (.tables (last :: earlier))
      | some _ => none

/-- Changes the table that a path leads to. -/
def alter (change : Fields α → Option (Fields α)) : List String → Fields α → Option (Fields α)
  | [], fields => change fields
  | name :: rest, fields =>
      let put (node : Node α) : Fields α := Roster.put name node fields
      match fields.lookup name with
      | none => (alter change rest []).map fun inner => put (.table .passage inner)
      | some (.table origin inner) =>
          (alter change rest inner).map fun inner => put (.table origin inner)
      | some (.tables (last :: earlier)) =>
          (alter change rest last).map fun last => put (.tables (last :: earlier))
      | some _ => none

/-- Opens a table by its header. -/
def openTable (name : String) (fields : Fields α) : Option (Fields α) :=
  match fields.lookup name with
  | none => some (Roster.put name (.table .header []) fields)
  | some (.table .passage inner) => some (Roster.put name (.table .header inner) fields)
  | some _ => none

/-- Opens the next item of a list of tables. -/
def openItem (name : String) (fields : Fields α) : Option (Fields α) :=
  match fields.lookup name with
  | none => some (Roster.put name (.tables [[]]) fields)
  | some (.tables items) => some (Roster.put name (.tables ([] :: items)) fields)
  | some _ => none

/-- Opens a table, or an item of a list of tables, at the end of a path. -/
def openAt (isItem : Bool) (path : List String) (fields : Fields α) : Option (Fields α) := do
  let name ← path.getLast?
  alter (if isItem then openItem name else openTable name) path.dropLast fields

end Fields

/-! ## Values -/

mutual

/-- What stands under a key, as a value. -/
def Node.toJson : Node α → Json α
  | .value v => v
  | .table _ fields => .object (Fields.toJson fields)
  | .tables items => .array (Fields.itemsToJson items).reverse

/-- The values of a table. -/
def Fields.toJson : List (String × Node α) → List (String × Json α)
  | [] => []
  | (name, node) :: rest => (name, node.toJson) :: Fields.toJson rest

/-- The values of a list of tables. -/
def Fields.itemsToJson : List (List (String × Node α)) → List (Json α)
  | [] => []
  | fields :: rest => .object (Fields.toJson fields) :: Fields.itemsToJson rest

end

/-- An inline table with its bindings. -/
def inlineTable? (bindings : List (List String × Json α)) : Option (Json α) := do
  let fields ← bindings.foldlM (fun fields (key, v) => Fields.bind v key fields) ([] : Fields α)
  return .object (Fields.toJson fields)

end PulseBench.Toml
