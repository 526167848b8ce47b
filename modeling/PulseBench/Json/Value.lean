import PulseBench.Scalar
import PulseBench.Roster

/-!
# JSON values

Pulse objects are stored, and measurement results saved, as JSON. This module holds the values and
the readers for plain data; `PulseBench.Json.Reader` reads text.

A number without fraction and exponent that fits 64 bits is an integer, every other number a real.
Well-formed text may still stand for nothing, such as a number that is too large. It is only missed
where the value is asked for, so it does no harm in a field that nobody reads.

A reader gives nothing when the value has another form.
-/

namespace PulseBench

inductive Json (α : Type) where
  | null
  | bool (b : Bool)
  | int (n : Int)
  | real (x : α)
  | text (s : String)
  | array (items : List (Json α))
  | object (fields : List (String × Json α))
  /-- Well-formed text that stands for nothing. -/
  | unreadable
deriving Inhabited

namespace Json

variable {α : Type}

/-! ## Writing plain data -/

/-- JSON has no infinite and no undefined numbers; these are written as null. -/
def ofNumber [Scalar α] (x : α) : Json α := if Scalar.isFinite x then .real x else .null

def ofNat (n : Nat) : Json α := .int n

def ofList {β : Type} (write : β → Json α) (items : List β) : Json α := .array (items.map write)

def ofTexts (items : List String) : Json α := ofList .text items

def ofOption {β : Type} (write : β → Json α) (item : Option β) : Json α := item.elim .null write

def ofPair {β γ : Type} (first : β → Json α) (second : γ → Json α) (pair : β × γ) : Json α :=
  .array [first pair.1, second pair.2]

/-- The entries of a roster in order. -/
def ofRoster {β : Type} (write : β → Json α) (r : Roster β) : Json α :=
  .object (r.entries.map fun (name, value) => (name, write value))

/-- A set of names as a list in increasing order. -/
def ofNameSet (s : NameSet) : Json α := ofTexts s.names

/-! ## Reading plain data -/

def bool? : Json α → Option Bool
  | .bool b => some b
  | _ => none

/-- An integer between two limits. -/
def intBetween? (low high : Int) : Json α → Option Int
  | .int n => if low ≤ n ∧ n ≤ high then some n else none
  | _ => none

/-- Greatest unsigned number of 64 bits. -/
def maxCount : Nat := Nat.pow 2 64 - 1

/-- A natural number of at most 64 bits. -/
def count? (j : Json α) : Option Nat := (j.intBetween? 0 maxCount).map Int.toNat

/-- A signed integer of 64 bits. -/
def int? : Json α → Option Int := intBetween? (-Int.pow 2 63) (Int.pow 2 63 - 1)

/-- Integers are numbers too. -/
def number? [Scalar α] : Json α → Option α
  | .real x => some x
  | .int n => some (Scalar.ofInt n)
  | _ => none

def text? : Json α → Option String
  | .text s => some s
  | _ => none

def list? {β : Type} (item? : Json α → Option β) : Json α → Option (List β)
  | .array items => items.mapM item?
  | _ => none

def texts? : Json α → Option (List String) := list? text?

def pair? {β γ : Type} (first? : Json α → Option β) (second? : Json α → Option γ) :
    Json α → Option (β × γ)
  | .array [a, b] => do return (← first? a, ← second? b)
  | _ => none

/-- Null stands for the absent value. -/
def option? {β : Type} (item? : Json α → Option β) : Json α → Option (Option β)
  | .null => some none
  | j => (item? j).map some

/-- The fields of an object as a roster; a repeated name keeps its first place and takes the last
value. -/
def roster? {β : Type} (item? : Json α → Option β) : Json α → Option (Roster β)
  | .object fields => do
      let entries ← fields.mapM fun (name, value) => do return (name, ← item? value)
      return Roster.ofList entries
  | _ => none

def nameSet? (j : Json α) : Option NameSet := j.texts?.map NameSet.ofList

/-- The name of one of several cases that carry nothing. -/
def case? : Json α → Option String
  | .text s => some s
  | .object [(s, .null)] => some s
  | _ => none

/-! ## Records -/

/-- The values of the named fields in order, none where a field is missing. A list is read by
position. Unknown fields are ignored, repeated ones refused. -/
def record? (names : List String) : Json α → Option (List (Option (Json α)))
  | .object fields =>
      names.mapM fun name =>
        match fields.filter fun field => field.1 == name with
        | [] => some none
        | [field] => some (some field.2)
        | _ => none
  | .array items =>
      if items.length ≤ names.length then
        some (items.map some ++ List.replicate (names.length - items.length) none)
      else none
  | _ => none

/-- A field that has to be there. -/
def required {β : Type} (item? : Json α → Option β) (field : Option (Json α)) : Option β :=
  field.bind item?

/-- A field with a default. -/
def withDefault {β : Type} (default : β) (item? : Json α → Option β) (field : Option (Json α)) :
    Option β :=
  field.elim (some default) item?

end Json

/-- Things with a form in JSON, from which they can be read back. -/
class JsonForm (α : outParam Type) (β : Type) where
  toJson : β → Json α
  ofJson? : Json α → Option β

end PulseBench
