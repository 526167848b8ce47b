import PulseBench.Generator.Start
import PulseBench.Measure.Basic
import PulseBench.Recipe.Codec
import PulseBench.Toml.Document

/-!
# Settings of the bench

The settings of the whole bench come from a file; every setting has a default. `Config.ofText` reads
a file and refuses values that make no sense. Keys that are no settings are ignored.
-/

namespace PulseBench

variable {α : Type}

structure Config (α : Type) where
  /-- Directory of the pulse objects; without it they are only kept in memory. -/
  storagePath : Option String
  /-- Directory of saved results. -/
  dataPath : Option String
  /-- Roots of methods besides the built-in ones. -/
  shapeRoots : List String
  recipeRoots : List String
  extractionRoots : List String
  evaluationRoots : List String
  /-- Time from one refresh to the next, in seconds. -/
  refreshTime : α
  /-- Greatest number of samples written in one call. -/
  chunk : Nat
  /-- Greatest number of commands that wait for a worker. -/
  capacity : Nat
  /-- How long an answer may take, in seconds. -/
  replyTime : α
  /-- How long the answer of a command that compiles or uploads may take, in seconds. -/
  compileTime : α
  /-- How long the start of a run waits for a busy asset, in seconds. -/
  assetWait : α
  extraction : String
  evaluation : String
  generation : GenerationParameters α

namespace Config

/-! ## What the parts of the bench are started with -/

/-- A file or directory inside of a directory. -/
def within (directory name : String) : String :=
  if directory.isEmpty || directory.endsWith "/" then directory ++ name
  else directory ++ "/" ++ name

/-- The directory of saved results, by default one inside of that of the pulse objects. -/
def dataDirectory (c : Config α) : Option String :=
  c.dataPath.or (c.storagePath.map fun path => within path "measurement_data")

/-- What the generator is started with; `store` is what the directory of pulse objects holds. -/
def generatorOptions (c : Config α) (store : Store α) : GeneratorOptions α :=
  ⟨c.storagePath.map fun _ => store, c.chunk, c.shapeRoots, c.recipeRoots, c.generation⟩

variable [Scalar α]

/-- What the measurement is started with. -/
def measurementOptions (c : Config α) : MeasurementOptions :=
  ⟨c.extractionRoots, c.evaluationRoots, c.extraction, c.evaluation, .ofSeconds c.refreshTime⟩

/-! ## Reading -/

/-- The settings that are used where a file says nothing. -/
def default : Config α where
  storagePath := none
  dataPath := none
  shapeRoots := []
  recipeRoots := []
  extractionRoots := []
  evaluationRoots := []
  refreshTime := 1.0
  chunk := GeneratorOptions.defaultChunk
  capacity := 64
  replyTime := 30.0
  compileTime := 600.0
  assetWait := 1.0
  extraction := "ungated_threshold"
  evaluation := "mean_norm"
  generation := .default

open Json

/-- A single name or a list of names. -/
def names? : Json α → Option (List String)
  | .text name => some [name]
  | j => j.texts?

/-- A list without the items behind the first `n`; settings that are listed by position are read
from the front. -/
def leading (n : Nat) : Json α → Json α
  | .array items => .array (items.take n)
  | j => j

/-- The roots of methods. -/
def roots? (j : Json α) : Option (List (List String)) := do
  let fields := ["sampling_functions", "predefined_methods", "extraction_methods",
    "analysis_methods"]
  (← (leading fields.length j).record? fields).mapM (withDefault [] names?)

/-- The settings in a value. -/
def ofJson? (j : Json α) : Option (Config α) := do
  let [storagePath, dataPath, roots, refreshTime, chunk, capacity, replyTime, compileTime,
      assetWait, extraction, evaluation, generation] ←
    j.record? ["storage_path", "data_path", "plugin_roots", "timer_interval_s",
      "write_chunk_samples", "queue_capacity", "reply_timeout_s", "compile_timeout_s",
      "asset_wait_s", "extraction_method", "analysis_method", "generation"] | none
  let d : Config α := default
  let [shapeRoots, recipeRoots, extractionRoots, evaluationRoots] ←
    withDefault [[], [], [], []] roots? roots | none
  let generation? (j : Json α) : Option (GenerationParameters α) :=
    GenerationParameters.ofJson? (leading GenerationParameters.fieldNames.length j)
  return {
    shapeRoots, recipeRoots, extractionRoots, evaluationRoots
    storagePath := ← withDefault d.storagePath (option? text?) storagePath
    dataPath := ← withDefault d.dataPath (option? text?) dataPath
    refreshTime := ← withDefault d.refreshTime number? refreshTime
    chunk := ← withDefault d.chunk count? chunk
    capacity := ← withDefault d.capacity count? capacity
    replyTime := ← withDefault d.replyTime number? replyTime
    compileTime := ← withDefault d.compileTime number? compileTime
    assetWait := ← withDefault d.assetWait number? assetWait
    extraction := ← withDefault d.extraction text? extraction
    evaluation := ← withDefault d.evaluation text? evaluation
    generation := ← withDefault d.generation generation? generation }

/-- Refuses times that are not positive. -/
def checkTime (name : String) (seconds : α) : Except (Failure α) Unit :=
  if Scalar.isPositive seconds then .ok () else .error (.config (.notPositive name seconds))

/-- Refuses settings that make no sense. -/
def check (c : Config α) : Except (Failure α) Unit := do
  checkTime "timer_interval_s" c.refreshTime
  checkTime "reply_timeout_s" c.replyTime
  checkTime "compile_timeout_s" c.compileTime
  unless 0.0 ≤ c.assetWait ∧ Scalar.isFinite c.assetWait do
    throw (.config (.negativeWait c.assetWait))
  if c.chunk = 0 ∨ c.capacity = 0 then throw (.config .noCapacity)

/-- The settings in the text of a file. -/
def ofText (text : String) : Except (Failure α) (Config α) := do
  let some c := (Toml.ofText? text).bind ofJson? | throw (.config .invalid)
  c.check
  return c

/-- The settings in the text of a file, or the defaults if there is no file or it is refused. -/
def ofTextOrDefault (text : Option String) : Config α :=
  match text.map ofText with
  | some (.ok c) => c
  | _ => default

end Config

end PulseBench
