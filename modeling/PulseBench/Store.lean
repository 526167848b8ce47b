import PulseBench.Failure
import PulseBench.Json.Reader
import PulseBench.Program.Codec

/-!
# The object store

Blocks, ensembles and sequences are kept in a directory, one JSON file each. The file name is made
of the object's name and the word of its kind, so the three kinds have separate name spaces.

A damaged file only affects the object it holds: `Store.loadAll` leaves it out.
-/

namespace PulseBench

variable {α β : Type}

/-- Objects that can be stored: they know their name and have a form in JSON. -/
class Storable (α : outParam Type) (β : Type) extends JsonForm α β where
  kind : ObjectKind
  name : β → String

instance [Scalar α] : Storable α (Block α) := ⟨.block, Block.name⟩

instance [Scalar α] : Storable α (Ensemble α) := ⟨.ensemble, Ensemble.name⟩

instance [Scalar α] : Storable α (Sequence α) := ⟨.sequence, Sequence.name⟩

/-- What a file holds. -/
inductive Document (α : Type) where
  /-- What the store wrote. -/
  | written (j : Json α)
  /-- Text from elsewhere. -/
  | foreign (text : String)

namespace Document

variable [Scalar α]

/-- The value in a document, if every part of it has one. -/
def value? : Document α → Option (Json α)
  | .written j => some j
  | .foreign text => Json.ofReadableText? text

/-- The object in a document. Parts that no object has are passed over. -/
def object? [Storable α β] : Document α → Option β
  | .written j => JsonForm.ofJson? j
  | .foreign text => (Json.ofText? text).bind JsonForm.ofJson?

end Document

/-- The files of a directory by name. -/
structure Store (α : Type) where
  files : Roster (Document α)

namespace Store

/-- A directory without files. -/
def empty : Store α := ⟨∅⟩

/-! ## File names -/

/-- What stands behind an object's name in a file name. -/
def ending (kind : ObjectKind) : String := "." ++ kind.word ++ ".json"

/-- Names that would leave the directory, hide the file or leave it without a name are refused. -/
def isUsable (name : String) : Bool :=
  !(name.isEmpty || name.contains '/' || name.contains '\\' || name.startsWith ".")

/-- The file of an object. -/
def fileName (kind : ObjectKind) (name : String) : Except (Failure α) String :=
  if isUsable name then .ok (name ++ ending kind)
  else .error (.generator (.unusableFileName name kind))

/-- Greatest length of a file name in bytes. -/
def maxFileName : Nat := 255

/-- An object is first written to a draft with this ending, which is then renamed; a crash so never
leaves half an object behind. -/
def draftEnding : String := ".tmp"

/-- Whether a directory can hold a file of this name. -/
def isWritable (file : String) : Bool :=
  decide (file.utf8ByteSize ≤ maxFileName) && !file.contains '\x00'

/-! ## Operations -/

/-- The names of all files, increasing. -/
def fileNames (s : Store α) : NameSet := s.files.nameSet

/-- Puts a text into a file. -/
def writeText (s : Store α) (file text : String) : Store α :=
  ⟨s.files.insert file (.foreign text)⟩

/-- Writes an object into its file. -/
def save [Storable α β] (s : Store α) (object : β) : Except (Failure α) (Store α) := do
  let file ← fileName (Storable.kind β) (Storable.name object)
  let draft := file ++ draftEnding
  if isWritable draft then
    return ⟨(s.files.erase draft).insert file (.written (JsonForm.toJson object))⟩
  else throw .io

/-- Reads the object of a name. -/
def load [Scalar α] [Storable α β] (s : Store α) (name : String) : Except (Failure α) β := do
  let kind := Storable.kind β
  let file ← fileName kind name
  match s.files.get? file with
  | none => throw (.unknown s!"stored {kind.word}s" name)
  | some document => (document.object?).elim (throw .unreadable) pure

/-- Removes the file of a name, and tells whether there was one. -/
def delete (s : Store α) (kind : ObjectKind) (name : String) :
    Except (Failure α) (Bool × Store α) := do
  let file ← fileName kind name
  return (s.files.contains file, ⟨s.files.erase file⟩)

/-- The name in the file name of a kind. -/
def nameIn? (kind : ObjectKind) (file : String) : Option String :=
  if file.endsWith (ending kind) then
    some (String.ofList (file.toList.take (file.length - (ending kind).length)))
  else none

/-- The names of all stored objects of a kind, increasing. -/
def names (s : Store α) (kind : ObjectKind) : List String :=
  (NameSet.ofList (s.files.names.filterMap (nameIn? kind))).names

/-- All readable objects of a kind by the name of their file. -/
def loadAll [Scalar α] [Storable α β] (s : Store α) : Roster β :=
  Roster.ofList ((s.names (Storable.kind β)).filterMap fun name =>
    match s.load name with
    | .ok object => some (name, object)
    | .error _ => none)

end Store

end PulseBench
