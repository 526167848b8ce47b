import PulseBench.Generator.Assets

/-!
# Objects of the generation side

Saving and deleting pulse objects, making them by recipe, and asking for them. A new version of an
object is first written to its file; only then it replaces the old one, and the records that depend
on the old version are dropped.
-/

namespace PulseBench.Generator

variable {α δ : Type}

/-! ## Saving -/

section Saving

variable [Scalar α]

/-- Refuses empty names. -/
def checkName (kind : ObjectKind) (name : String) : Except (Failure α) Unit :=
  if name.isEmpty then .error (.generator (.emptyName kind)) else .ok ()

/-- Saves a block; ensembles that play it are no longer what the device holds. -/
def saveBlock (b : Block α) : Action α (Generator α δ) Unit := do
  Action.lift (checkName .block b.name)
  persist b
  let users := (← get).ensemblesWhere (·.uses b.name)
  modify fun g => { g with blocks := g.blocks.insert b.name b }
  users.forM invalidateEnsemble

/-- Saves an ensemble without record; only compiling attaches one. -/
def saveEnsemble (e : Ensemble α) : Action α (Generator α δ) Unit := do
  Action.lift (checkName .ensemble e.name)
  let saved := { e with record := none }
  persist saved
  modify fun g => { g with ensembles := g.ensembles.insert e.name saved }
  invalidateUsers e.name

/-- Saves a sequence without record. -/
def saveSequence (s : Sequence α) : Action α (Generator α δ) Unit := do
  Action.lift (checkName .sequence s.name)
  let saved := { s with record := none }
  persist saved
  modify fun g => { g with sequences := g.sequences.insert s.name saved }

end Saving

/-! ## Deleting -/

section Deleting

variable [Scalar α] [Pulser α δ]

def deleteBlock (name : String) : Action α (Generator α δ) Unit := do
  let _ ← Action.lift ((← get).findBlock name)
  modify fun g => { g with blocks := g.blocks.erase name }
  unpersist .block name

/-- Deletes an ensemble together with its waveforms. -/
def deleteEnsemble (name : String) : Action α (Generator α δ) Unit := do
  let e ← Action.lift ((← get).findEnsemble name)
  let waveforms := (e.record.map Record.waveforms).getD []
  waveforms.forM fun waveform => do
    let _ ← deleteWaveform waveform
  modify fun g => { g with ensembles := g.ensembles.erase name }
  unpersist .ensemble name

/-- Deletes a sequence together with its program. -/
def deleteSequence (name : String) : Action α (Generator α δ) Unit := do
  let s ← Action.lift ((← get).findSequence name)
  if s.isSampled then
    let _ ← deleteProgram name
  modify fun g => { g with sequences := g.sequences.erase name }
  unpersist .sequence name

end Deleting

/-! ## Asking -/

/-- What a measurement has to know about the object of a name; ensembles come first. -/
def metadata (g : Generator α δ) (name : String) : Except (Failure α) (Metadata α) :=
  match g.ensembles.get? name with
  | some e => .ok ⟨e.readout, e.record⟩
  | none => do
      let s ← g.findSequence name
      return ⟨s.readout, s.record⟩

/-- Realised length and laser pulses of an ensemble. -/
def ensembleSummary [Scalar α] (g : Generator α δ) (name : String) :
    Except (Failure α) (Summary α) := do
  let e ← g.findEnsemble name
  e.summary g.blocks g.settings.rate g.generation.laserChannel g.generation.gateChannel

/-- Realised length and laser pulses of a sequence. -/
def sequenceSummary [Scalar α] (g : Generator α δ) (name : String) :
    Except (Failure α) (Summary α) := do
  let s ← g.findSequence name
  s.summary g.ensembles g.blocks g.settings.rate g.generation.laserChannel
    g.generation.gateChannel

/-! ## Recipes -/

section Recipes

variable [Scalar α]

/-- An action on the selection of recipes. -/
def onRecipes {β : Type} (act : Action α (Selection α (RecipeRule α)) β) :
    Action α (Generator α δ) β := fun g =>
  match act g.recipes with
  | .ok b recipes => .ok b { g with recipes }
  | .error e recipes => .error e { g with recipes }

/-- The parameters last used with a recipe. -/
def recipeParameters (g : Generator α δ) (recipe : String) :
    Except (Failure α) (ParamSet α) :=
  g.recipes.parametersOf recipe

/-- Makes objects by a recipe and saves them. Returns the names of the ensembles and sequences. -/
def generate (recipe name : String) (params : ParamSet α) :
    Action α (Generator α δ) (List String) := do
  let request := params.insert Selection.methodKey (.text recipe)
  let resolved ← onRecipes (Selection.setParameters request)
  let g ← get
  let m ← Action.lift g.recipes.method
  let made ← Action.lift (m.rule ⟨g.settings, g.generation⟩ name resolved)
  made.blocks.forM saveBlock
  made.ensembles.forM saveEnsemble
  made.sequences.forM saveSequence
  return made.ensembles.map Ensemble.name ++ made.sequences.map Sequence.name

end Recipes

end PulseBench.Generator
