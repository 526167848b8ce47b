import PulseBench.Generator.Objects

/-!
# Starting the generation side

A generator starts with the settings that the device reports and the objects found in its store.
Records of waveforms or programs that are no longer on the device are dropped.
-/

namespace PulseBench

variable {α δ : Type}

/-- What a generator is started with. -/
structure GeneratorOptions (α : Type) where
  store : Option (Store α)
  /-- Greatest number of samples written in one call; zero counts as one. -/
  chunk : Nat
  /-- Roots of shapes and recipes besides the built-in ones. -/
  shapeRoots : List String
  recipeRoots : List String
  generation : GenerationParameters α

namespace GeneratorOptions

/-- Number of samples written in one call unless configured. -/
def defaultChunk : Nat := Nat.pow 2 20

def default [Scalar α] : GeneratorOptions α := ⟨none, defaultChunk, [], [], .default⟩

end GeneratorOptions

namespace Generator

/-- The recipe that is selected first. -/
def firstRecipe : String := "rabi"

variable [Pulser α δ]

/-- The settings that a device reports. -/
def reportedSettings (limits : Limits α) (device : δ) : PulserSettings α :=
  let active := Pulser.activeChannels device
  { rate := Pulser.rate device
    activation := (limits.activationName? active).getD "custom"
    active
    amplitudes := Pulser.amplitudes device }

/-- The names of the waveforms and programs on the device. -/
def assetNames (g : Generator α δ) : List String :=
  Pulser.waveformNames g.device ++ Pulser.sequenceNames g.device

/-- Drops the records of waveforms and programs that are not on the device. -/
def dropStaleRecords [Scalar α] : Action α (Generator α δ) Unit := do
  let g ← get
  let isGone (asset : String) : Bool := !g.assetNames.contains asset
  let ensembles := g.ensemblesWhere fun e => mentions e.record isGone
  let sequences := g.sequencesWhere fun s =>
    mentions s.record isGone || (s.isSampled && isGone s.name)
  ensembles.forM clearEnsembleRecord
  sequences.forM clearSequenceRecord

/-- A generator for a device. -/
def start [Analytic α] (options : GeneratorOptions α) (device : δ) :
    Except (Failure α) (Generator α δ) := do
  let limits := Pulser.limits device
  let recipes ← Selection.ofRegistry (Recipe.registry options.recipeRoots) firstRecipe
  let g : Generator α δ :=
    { device
      limits
      settings := reportedSettings limits device
      generation := options.generation
      blocks := (options.store.map Store.loadAll).getD ∅
      ensembles := (options.store.map Store.loadAll).getD ∅
      sequences := (options.store.map Store.loadAll).getD ∅
      store := options.store
      functions := ShapeFunction.registry options.shapeRoots
      recipes
      chunk := max options.chunk 1
      loaded := none }
  match (dropStaleRecords : Action α (Generator α δ) Unit) g with
  | .ok _ g => .ok g
  | .error e _ => .error e

end Generator

end PulseBench
