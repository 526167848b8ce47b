import PulseBench.Toml.Tables
import PulseBench.Toml.Token
import PulseBench.Toml.Word

/-!
# Reading a settings file

The second machine goes over the tokens once. It reads a file line by line: a header opens a table,
and a line with an equals sign binds a key in the table that was opened last. Arrays may go over
many lines, inline tables may not; both are kept on a stack while they are open, at most 79 deep.
-/

namespace PulseBench.Toml

variable {α : Type}

/-! ## Keys -/

/-- A dotted key in parts. -/
inductive KeyPart where
  | name (s : String)
  | dot
deriving DecidableEq

namespace KeyPart

def isBare (c : Char) : Bool := c.isAlphanum || c == '-' || c == '_'

/-- The parts of a word; the characters of the part under way are given last first. -/
def ofWord? : List Char → List Char → Option (List KeyPart)
  | [], [] => some []
  | part, [] => some [.name (String.ofList part.reverse)]
  | [], '.' :: rest => (ofWord? [] rest).map (.dot :: ·)
  | part, '.' :: rest =>
      (ofWord? [] rest).map fun parts => .name (String.ofList part.reverse) :: .dot :: parts
  | part, c :: rest => if isBare c then ofWord? (c :: part) rest else none

/-- The parts of a token. -/
def ofToken? : Token → Option (List KeyPart)
  | .word chars => ofWord? [] chars
  | .quoted s false => some [.name s]
  | _ => none

/-- The names in parts that take turns with dots. -/
def names? : List KeyPart → Option (List String)
  | [.name s] => some [s]
  | .name s :: .dot :: rest => (names? rest).map (s :: ·)
  | _ => none

end KeyPart

/-- Greatest number of open arrays and inline tables, and of parts of a key. -/
def maxDepth : Nat := 79

/-- The key in tokens that are given last first. -/
def key? (tokens : List Token) : Option (List String) := do
  let names ← KeyPart.names? (← tokens.reverse.mapM KeyPart.ofToken?).flatten
  if names.length ≤ maxDepth then some names else none

/-! ## The machine -/

/-- An array or inline table that is still open, its items last first. -/
inductive Frame (α : Type) where
  | array (items : List (Json α))
  | table (bindings : List (List String × Json α))
  /-- An inline table behind the equals sign of a key. -/
  | binding (bindings : List (List String × Json α)) (key : List String)

/-- What may come next in a value. Tokens of a key are kept last first. -/
inductive Expected where
  | value
  /-- An item of an array, or its end. -/
  | item
  /-- A comma, or the end of what is open. -/
  | separator
  /-- A key of an inline table; before the first key also its end. -/
  | key (tokens : List Token) (isFirst : Bool)

/-- What may come next in a line. -/
inductive LineMode (α : Type) where
  | start
  | header (isItem : Bool) (tokens : List Token)
  | key (tokens : List Token)
  | value (key : List String) (frames : List (Frame α)) (expected : Expected)
  | finished

structure Reader (α : Type) where
  root : Fields α
  /-- The table that was opened last. -/
  path : List String
  mode : LineMode α

namespace Reader

def goTo (r : Reader α) (mode : LineMode α) : Reader α := { r with mode }

/-- Opens the table of a header. -/
def closeHeader (r : Reader α) (isItem : Bool) (tokens : List Token) : Option (Reader α) := do
  let path ← key? tokens
  return ⟨← Fields.openAt isItem path r.root, path, .finished⟩

/-- Puts a finished value where it belongs. -/
def place (r : Reader α) (key : List String) (frames : List (Frame α)) (v : Json α) :
    Option (Reader α) :=
  match frames with
  | [] => (Fields.alter (Fields.bind v key) r.path r.root).map fun root =>
      { r with root, mode := .finished }
  | .array items :: rest => some (r.goTo (.value key (.array (v :: items) :: rest) .separator))
  | .binding bindings name :: rest =>
      some (r.goTo (.value key (.table ((name, v) :: bindings) :: rest) .separator))
  | .table _ :: _ => none

/-- Opens an array or an inline table. -/
def openFrame (r : Reader α) (key : List String) (frames : List (Frame α)) (frame : Frame α)
    (expected : Expected) : Option (Reader α) :=
  if frames.length < maxDepth then some (r.goTo (.value key (frame :: frames) expected)) else none

/-- One token where a value begins. -/
def beginValue [Scalar α] (r : Reader α) (key : List String) (frames : List (Frame α)) :
    Token → Option (Reader α)
  | .word chars => do r.place key frames (← wordValue? chars)
  | .quoted s _ => r.place key frames (.text s)
  | .openBracket => r.openFrame key frames (.array []) .item
  | .openBrace => r.openFrame key frames (.table []) (.key [] true)
  | _ => none

/-- Closes the innermost array. -/
def closeArray (r : Reader α) (key : List String) : List (Frame α) → Option (Reader α)
  | .array items :: rest => r.place key rest (.array items.reverse)
  | _ => none

/-- Closes the innermost inline table. -/
def closeTable (r : Reader α) (key : List String) : List (Frame α) → Option (Reader α)
  | .table bindings :: rest => do r.place key rest (← inlineTable? bindings.reverse)
  | _ => none

/-- One token of a value. -/
def inValue [Scalar α] (r : Reader α) (key : List String) (frames : List (Frame α))
    (expected : Expected) (t : Token) : Option (Reader α) :=
  match expected, t with
  | .value, t => r.beginValue key frames t
  | .item, .closeBracket => r.closeArray key frames
  | .item, .newline => some r
  | .item, t => r.beginValue key frames t
  | .separator, .closeBracket => r.closeArray key frames
  | .separator, .closeBrace => r.closeTable key frames
  | .separator, t =>
      match t, frames with
      | .comma, .array _ :: _ => some (r.goTo (.value key frames .item))
      | .comma, .table _ :: _ => some (r.goTo (.value key frames (.key [] false)))
      | .newline, .array _ :: _ => some r
      | _, _ => none
  | .key [] true, .closeBrace => r.closeTable key frames
  | .key tokens _, .equals =>
      match frames with
      | .table bindings :: rest => do
          let name ← key? tokens
          return r.goTo (.value key (.binding bindings name :: rest) .value)
      | _ => none
  | .key tokens _, t => some (r.goTo (.value key frames (.key (t :: tokens) false)))

/-- One token, unless it is a pair of brackets. -/
def single [Scalar α] (r : Reader α) (t : Token) : Option (Reader α) :=
  match r.mode, t with
  | .start, .newline => some r
  | .start, .openBracket => some (r.goTo (.header false []))
  | .start, t => some (r.goTo (.key [t]))
  | .header false tokens, .closeBracket => r.closeHeader false tokens
  | .header isItem tokens, t => some (r.goTo (.header isItem (t :: tokens)))
  | .key tokens, .equals => do return r.goTo (.value (← key? tokens) [] .value)
  | .key tokens, t => some (r.goTo (.key (t :: tokens)))
  | .value key frames expected, t => r.inValue key frames expected t
  | .finished, .newline => some (r.goTo .start)
  | .finished, _ => none

/-- One token. A pair of brackets encloses the header of a list of tables; everywhere else it is
two brackets. -/
def step [Scalar α] (r : Reader α) (t : Token) : Option (Reader α) :=
  match r.mode, t with
  | .start, .openPair => some (r.goTo (.header true []))
  | .header true tokens, .closePair => r.closeHeader true tokens
  | _, .openPair => do (← r.single .openBracket).single .openBracket
  | _, .closePair => do (← r.single .closeBracket).single .closeBracket
  | _, t => r.single t

end Reader

/-- The table that a text describes. -/
def ofText? [Scalar α] (text : String) : Option (Json α) := do
  let tokens ← tokens? text
  let r ← tokens.foldlM Reader.step (⟨[], [], .start⟩ : Reader α)
  match r.mode with
  | .start => return .object (Fields.toJson r.root)
  | _ => none

end PulseBench.Toml
