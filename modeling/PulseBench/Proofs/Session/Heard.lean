import PulseBench.Proofs.Session.Announced

/-!
# What a measurement hears of the loaded asset

The generator worker tells the measurement how the loaded asset is to be read and
what it was compiled to. It should say so of the object of that kind and name
(`Generator.own?`). It only looks for the name, and among the ensembles first. A
sequence is therefore eclipsed by an ensemble of its name of which other things are
known; and where a loaded ensemble was deleted, a sequence of its name takes its
place (`Generator.Eclipsed`).

Results:
1. `metadata_eq`: what is known by name, by what is known of either kind.
   `metadata_own_iff`: when that is known of the right object.
2. `loadedInfo_eq_iff`: when the measurement is told of the right object.
3. `own_info_told_iff`: what it was told in a session, whatever the workers and the
   callers do.
-/

namespace PulseBench

variable {α δ κ μ : Type}

namespace Generator

/-! ## 1. Objects of one name -/

/-- What is known of the object of a kind and a name, if there is one. -/
def own? (g : Generator α δ) : LoadedAsset → Option (Metadata α)
  | ⟨name, .ensemble⟩ => (g.ensembles.get? name).map fun e => ⟨e.readout, e.record⟩
  | ⟨name, .sequence⟩ => (g.sequences.get? name).map fun s => ⟨s.readout, s.record⟩

/-- Another object of the name comes first: for a sequence an ensemble of which something else is
known, and for an ensemble that is not there a sequence. -/
def Eclipsed (g : Generator α δ) : LoadedAsset → Prop
  | ⟨name, .ensemble⟩ => g.own? ⟨name, .ensemble⟩ = none ∧ g.own? ⟨name, .sequence⟩ ≠ none
  | ⟨name, .sequence⟩ => g.own? ⟨name, .ensemble⟩ ≠ none ∧
      g.own? ⟨name, .ensemble⟩ ≠ g.own? ⟨name, .sequence⟩

variable {g : Generator α δ}

theorem metadata_eq (name : String) :
    (g.metadata name).toOption = (g.own? ⟨name, .ensemble⟩).or (g.own? ⟨name, .sequence⟩) := by
  simp only [metadata, own?, findSequence]
  cases g.ensembles.get? name with
  | some e => rfl
  | none =>
    cases g.sequences.get? name with
    | some s => rfl
    | none => rfl

/-- By its name the right object is found, unless another one comes first. -/
theorem metadata_own_iff (asset : LoadedAsset) :
    (g.metadata asset.name).toOption = g.own? asset ↔ ¬ g.Eclipsed asset := by
  obtain ⟨name, kind⟩ := asset
  rw [metadata_eq]
  cases kind with
  | ensemble =>
    rw [Eclipsed]
    cases g.own? ⟨name, .ensemble⟩ with
    | some own => exact iff_of_true rfl fun missing => nomatch missing.1
    | none => exact (not_not.symm.trans (not_congr (and_iff_right rfl).symm))
  | sequence =>
    rw [Eclipsed]
    cases g.own? ⟨name, .ensemble⟩ with
    | some other => simp
    | none => simp

/-! ## 2. The loaded object -/

/-- An asset as a measurement sees it, by what is known of it. -/
def infoOf (g : Generator α δ) (asset : LoadedAsset) (metadata : Metadata α) : AssetInfo α :=
  ⟨asset, metadata, g.generation.gateChannel.getD g.generation.laserChannel⟩

/-- What a measurement should hear of the loaded asset: what is known of the asset itself. -/
def ownInfo (g : Generator α δ) : Option (AssetInfo α) :=
  g.loaded.bind fun asset => (g.own? asset).map (g.infoOf asset)

theorem loadedInfo_eq (g : Generator α δ) :
    g.loadedInfo =
      g.loaded.bind fun asset => (g.metadata asset.name).toOption.map (g.infoOf asset) := by
  unfold loadedInfo
  cases g.loaded with
  | none => rfl
  | some asset =>
    rw [Option.bind_some, Option.map_eq_bind]
    rfl

/-- What is known of an asset can be read off what a measurement sees. -/
theorem infoOf_injective (g : Generator α δ) (asset : LoadedAsset) :
    Function.Injective (g.infoOf asset) :=
  fun _ _ same => congrArg AssetInfo.metadata same

/-- A measurement is told of the right object, unless another one comes first. -/
theorem loadedInfo_eq_iff (g : Generator α δ) :
    g.loadedInfo = g.ownInfo ↔ ∀ asset, g.loaded = some asset → ¬ g.Eclipsed asset := by
  rw [loadedInfo_eq, ownInfo]
  cases g.loaded with
  | none => exact iff_of_true rfl nofun
  | some asset =>
    rw [Option.bind_some, Option.bind_some,
      (Option.map_injective (g.infoOf_injective asset)).eq_iff, metadata_own_iff]
    simp only [Option.some.injEq, forall_eq']

end Generator

/-! ## 3. Sessions -/

namespace Bench

variable [Analytic α] [Pulser α δ] [Counter α κ] [Microwave α μ] {b : Bench α δ κ μ}

/-- Whatever the workers and the callers do in whatever order: what the generator worker has to tell
of the loaded asset is known of the object of that kind and name itself, exactly if no other object
comes first. Then the measurement is told so before the generator worker goes on to another
command. -/
theorem own_info_told_iff {config : Config α} {store : Store α} {pulser : δ} {counter : κ}
    {microwave : Option μ} {s : Session α δ κ μ}
    (started : Session.start config store pulser counter microwave = .ok s)
    (reached : Reaches s b) :
    let g := b.session.generator
    (g.loadedInfo = g.ownInfo ↔ ∀ asset, g.loaded = some asset → ¬ g.Eclipsed asset) ∧
    (b.phase = .idle → Agrees g.loadedInfo (lastNamed b.commands)) ∧
    (b.phase = .idle → (∀ asset, g.loaded = some asset → ¬ g.Eclipsed asset) →
      Agrees g.ownInfo (lastNamed b.commands)) := by
  intro g
  obtain ⟨recorded, informed⟩ := informed_of_reached (Session.start_new started) reached
  have exactly := g.loadedInfo_eq_iff
  refine ⟨exactly, informed.current recorded, fun idle clear => ?_⟩
  rw [← exactly.mpr clear]
  exact informed.current recorded idle

/-! A caller that waits for every answer. -/

/-- What comes of it. -/
def answered (s : Session ℚ (MemoryPulser ℚ) (MemoryCounter ℚ) (MemoryMicrowave ℚ))
    (commands : List (GeneratorCommand ℚ)) :
    Bench ℚ (MemoryPulser ℚ) (MemoryCounter ℚ) (MemoryMicrowave ℚ) :=
  commands.foldl (fun b command => b.call command) (opening s)

theorem answered_reached
    {s : Session ℚ (MemoryPulser ℚ) (MemoryCounter ℚ) (MemoryMicrowave ℚ)} (new : s.New)
    (commands : List (GeneratorCommand ℚ)) :
    Reaches s (answered s commands) ∧ (answered s commands).Quiet :=
  have quiet : (opening s).Quiet := ⟨rfl, new.generatorQueue⟩
  quiet.calls commands

/-- How a number of laser pulses is read out. -/
def reading (lasers : Nat) : Readout ℚ := ⟨false, [], [], ("", ""), ("", ""), lasers, 0⟩

/-- A sequence of two laser pulses is loaded, and has its name for itself. -/
def loadAlone : List (GeneratorCommand ℚ) :=
  [.saveBlock (Generator.level "flat" (1 / 2)), .saveEnsemble (Generator.playing "part" "flat"),
    .saveSequence { Generator.stepping "pulse" "part" false with readout := some (reading 2) },
    .sample "pulse" .sequence true]

/-- Before that, an ensemble of three laser pulses gets its name. -/
def loadTwin : List (GeneratorCommand ℚ) :=
  .saveEnsemble { Generator.playing "pulse" "flat" with readout := some (reading 3) } :: loadAlone

/-- The number of laser pulses that a measurement expects. -/
def lasers? (info : Option (AssetInfo ℚ)) : Option Nat :=
  info.bind fun info => info.metadata.readout.map Readout.lasers

/-- The measurement is told of the sequence. -/
theorem own_info_told_of_alone :
    ∃ s, benchSession = .ok s ∧
      let b := answered s loadAlone
      b.session.generator.loaded = some ⟨"pulse", .sequence⟩ ∧
      lasers? b.session.generator.ownInfo = some 2 ∧
      Agrees b.session.generator.ownInfo (lastNamed b.commands) := by
  have ran : (match benchSession with
    | .ok s =>
      let g := (answered s loadAlone).session.generator
      decide (g.loaded = some ⟨"pulse", .sequence⟩ ∧ lasers? g.ownInfo = some 2 ∧
        (g.own? ⟨"pulse", .ensemble⟩).isNone)
    | .error _ => false) = true := by decide +kernel
  cases started : benchSession with
  | error f =>
    rw [started] at ran
    cases ran
  | ok s =>
    rw [started, decide_eq_true_eq] at ran
    obtain ⟨loaded, expected, alone⟩ := ran
    obtain ⟨reached, quiet⟩ := answered_reached (Session.start_new started) loadAlone
    obtain ⟨-, -, told⟩ := own_info_told_iff started reached
    refine ⟨s, rfl, loaded, expected, told quiet.idle fun asset isLoaded eclipsed => ?_⟩
    cases loaded.symm.trans isLoaded
    exact eclipsed.1 (Option.isNone_iff_eq_none.mp alone)

/-- The measurement is told of the ensemble, although the sequence is loaded. -/
theorem not_own_info_told_of_twin :
    ∃ s, benchSession = .ok s ∧
      let b := answered s loadTwin
      Reaches s b ∧ b.phase = .idle ∧
      b.session.generator.loaded = some ⟨"pulse", .sequence⟩ ∧
      lasers? b.session.generator.ownInfo = some 2 ∧ lasers? (lastNamed b.commands) = some 3 ∧
      ¬ Agrees b.session.generator.ownInfo (lastNamed b.commands) := by
  have ran : (match benchSession with
    | .ok s =>
      let b := answered s loadTwin
      decide (b.session.generator.loaded = some ⟨"pulse", .sequence⟩ ∧
        lasers? b.session.generator.ownInfo = some 2 ∧ lasers? (lastNamed b.commands) = some 3 ∧
        (b.session.generator.ownInfo == lastNamed b.commands) = false)
    | .error _ => false) = true := by decide +kernel
  cases started : benchSession with
  | error f =>
    rw [started] at ran
    cases ran
  | ok s =>
    rw [started, decide_eq_true_eq] at ran
    obtain ⟨loaded, expected, told, other⟩ := ran
    obtain ⟨reached, quiet⟩ := answered_reached (Session.start_new started) loadTwin
    refine ⟨s, rfl, reached, quiet.idle, loaded, expected, told, ?_⟩
    rintro (same | alike)
    · rw [same, expected] at told
      cases told
    · rw [other] at alike
      cases alike

end Bench

end PulseBench
