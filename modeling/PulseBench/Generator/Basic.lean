import PulseBench.Compile.Program
import PulseBench.Recipe.Basic
import PulseBench.Store

/-!
# The generation side

A `Generator` owns a pulse generator, the settings it is in, all known pulse objects and the
registries of shapes and recipes. With a storage directory, every change of an object is also
written to its file.

The records of the objects follow one rule: an object carries a record exactly while the device
holds what was compiled from its present version. This module drops records; `Generator.Assets` and
`Generator.Objects` do so whenever an object or the device changes.
-/

namespace PulseBench

variable {α δ : Type}

/-- What is loaded for playback. -/
structure LoadedAsset where
  name : String
  kind : AssetKind
deriving DecidableEq

/-- What a measurement has to know about a pulse object. -/
structure Metadata (α : Type) where
  readout : Option (Readout α)
  record : Option (Record α)
deriving BEq

/-- Requested changes of the settings; what is absent stays as it is. -/
structure SettingsRequest (α : Type) where
  activation : Option String
  rate : Option α
  amplitudes : Option (Roster α)

structure Generator (α δ : Type) where
  device : δ
  /-- Limits that the device reported at the start. -/
  limits : Limits α
  /-- Settings that the device reported last. -/
  settings : PulserSettings α
  generation : GenerationParameters α
  blocks : Roster (Block α)
  ensembles : Roster (Ensemble α)
  sequences : Roster (Sequence α)
  store : Option (Store α)
  functions : Registry α (ShapeRule α)
  recipes : Selection α (RecipeRule α)
  /-- Greatest number of samples written in one call. -/
  chunk : Nat
  loaded : Option LoadedAsset

namespace Generator

/-- A call of the device. -/
def onDevice {β : Type} (act : Action α δ β) : Action α (Generator α δ) β := fun g =>
  match act g.device with
  | .ok b device => .ok b { g with device }
  | .error e device => .error e { g with device }

/-- The compiler for the present settings. -/
def compiler (g : Generator α δ) : Compiler α := ⟨g.functions, g.settings, g.limits, g.chunk⟩

/-! ## Files -/

/-- Writes an object into its file. -/
def persist {β : Type} [Storable α β] (object : β) : Action α (Generator α δ) Unit := do
  match (← get).store with
  | some store =>
      let store ← Action.lift (store.save object)
      modify fun g => { g with store := some store }
  | none => pure ()

/-- Removes the file of an object. -/
def unpersist (kind : ObjectKind) (name : String) : Action α (Generator α δ) Unit := do
  match (← get).store with
  | some store =>
      let (_, store) ← Action.lift (store.delete kind name)
      modify fun g => { g with store := some store }
  | none => pure ()

/-! ## Look-up -/

def findBlock (g : Generator α δ) (name : String) : Except (Failure α) (Block α) :=
  (g.blocks.get? name).elim (.error (.unknown ObjectKind.block.collection name)) .ok

def findEnsemble (g : Generator α δ) (name : String) : Except (Failure α) (Ensemble α) :=
  (g.ensembles.get? name).elim (.error (.unknown ObjectKind.ensemble.collection name)) .ok

def findSequence (g : Generator α δ) (name : String) : Except (Failure α) (Sequence α) :=
  (g.sequences.get? name).elim (.error (.unknown ObjectKind.sequence.collection name)) .ok

/-! ## Dropping records -/

variable [Scalar α]

/-- Forgets that an asset is loaded. -/
def unload (asset : LoadedAsset) (g : Generator α δ) : Generator α δ :=
  if g.loaded = some asset then { g with loaded := none } else g

/-- Drops the record of an ensemble. -/
def clearEnsembleRecord (name : String) : Action α (Generator α δ) Unit := do
  match (← get).ensembles.get? name with
  | some e =>
      if e.isSampled then
        let cleared := { e with record := none }
        modify fun g => { g with ensembles := g.ensembles.insert name cleared }
        persist cleared
  | none => pure ()

/-- Drops the record of a sequence, which then is not loaded any more. -/
def clearSequenceRecord (name : String) : Action α (Generator α δ) Unit := do
  match (← get).sequences.get? name with
  | some s =>
      if s.isSampled then
        let cleared := { s with record := none }
        modify fun g => { g with sequences := g.sequences.insert name cleared }
        persist cleared
  | none => pure ()
  modify (unload ⟨name, .sequence⟩)

/-- The names of the ensembles that pass a test. -/
def ensemblesWhere (g : Generator α δ) (test : Ensemble α → Bool) : List String :=
  (g.ensembles.values.filter test).map Ensemble.name

/-- The names of the sequences that pass a test. -/
def sequencesWhere (g : Generator α δ) (test : Sequence α → Bool) : List String :=
  (g.sequences.values.filter test).map Sequence.name

/-- Drops the records of all sequences that play an ensemble. -/
def invalidateUsers (ensemble : String) : Action α (Generator α δ) Unit := do
  ((← get).sequencesWhere (·.uses ensemble)).forM clearSequenceRecord

/-- Drops the records of an ensemble and of all sequences that play it. -/
def invalidateEnsemble (name : String) : Action α (Generator α δ) Unit := do
  clearEnsembleRecord name
  invalidateUsers name

/-- Whether a record names a waveform that passes a test. -/
def mentions (record : Option (Record α)) (test : String → Bool) : Bool :=
  record.any fun r => r.waveforms.any test

end Generator

end PulseBench
