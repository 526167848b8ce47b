import PulseBench.Measure.Refresh
import PulseBench.Proofs.Outcome
import PulseBench.Proofs.Roster

/-!
# Calculations that blame no device

A measurement stops when a device fails, and only then. A failure to find the
laser pulses in some counts, to evaluate them or to arrange the estimates is none
of a device: such a calculation is `Blameless`, for any counts, any settings and
any parameters, if the rules of the methods are `Innocent`.

Results:
1. `Schema.resolve_blameless`, `ParamSet.read_blameless`: parameters.
2. `Registry.every_ofCatalogue`: what holds of all methods of a catalogue holds of
   all methods of a registry made from it.
3. `ExtractionMethod.registry_innocent`, `EvaluationMethod.registry_innocent`: the
   methods a measurement is made with.
4. `Measurement.analysed_blameless`: the whole calculation behind a reading.
-/

namespace PulseBench

variable {α β γ κ μ ρ : Type}

/-- If it fails, then not by a device. -/
def Blameless (x : Except (Failure α) β) : Prop := ∀ f, x = .error f → f.isHardware = false

namespace Blameless

theorem ok (b : β) : Blameless (.ok b : Except (Failure α) β) := nofun

theorem error {f : Failure α} (h : f.isHardware = false) :
    Blameless (.error f : Except (Failure α) β) := by
  rintro _ ⟨⟩
  exact h

theorem bind {x : Except (Failure α) β} {f : β → Except (Failure α) γ} (first : Blameless x)
    (rest : ∀ b, Blameless (f b)) : Blameless (x >>= f) := by
  cases x with
  | error e => exact error (first e rfl)
  | ok b => exact rest b

theorem ite {p : Prop} [Decidable p] {x y : Except (Failure α) β} (yes : Blameless x)
    (no : Blameless y) : Blameless (if p then x else y) := by
  split
  · exact yes
  · exact no

/-- A value that may be missing. -/
theorem elim {f : Failure α} (h : f.isHardware = false) (b : Option β) :
    Blameless (b.elim (.error f) .ok) := by
  cases b with
  | none => exact error h
  | some b => exact ok b

theorem foldlM {act : γ → β → Except (Failure α) γ} (each : ∀ c b, Blameless (act c b))
    (items : List β) (c : γ) : Blameless (items.foldlM act c) := by
  induction items generalizing c with
  | nil => exact ok c
  | cons b rest ih =>
    rw [List.foldlM_cons]
    exact bind (each c b) ih

end Blameless

/-! ## 1. Parameters -/

section Parameters

variable [Scalar α]

theorem ParamSpec.coerce_blameless (spec : ParamSpec α) (value : ParamValue α) :
    Blameless (spec.coerce value) := by
  unfold ParamSpec.coerce
  cases spec.kind with
  | choice options =>
    refine .bind (.elim rfl _) fun s => ?_
    exact .ite (.ok _) (.error rfl)
  | _ => exact .elim rfl _

theorem ParamSpec.check_blameless (spec : ParamSpec α) (value : ParamValue α) :
    Blameless (spec.check value) := by
  refine .bind (spec.coerce_blameless value) fun checked => ?_
  cases checked.number? with
  | none => exact .ok _
  | some x => exact .ite (.error rfl) (.ok _)

theorem Schema.resolve_blameless (schema : Schema α) (given : ParamSet α) :
    Blameless (schema.resolve given) := by
  refine .foldlM (fun resolved (key, value) => ?_) _ _
  dsimp only
  cases schema.find? key with
  | none => exact .ok _
  | some spec => exact .bind (spec.check_blameless value) fun _ => .ok _

omit [Scalar α] in
theorem ParamSet.read_blameless (params : ParamSet α) (key : String)
    (as? : ParamValue α → Option β) : Blameless (params.read key as?) :=
  .elim rfl _

theorem ParamSet.number_blameless (params : ParamSet α) (key : String) :
    Blameless (params.number key) :=
  params.read_blameless key _

end Parameters

/-! ## 2. Methods of a registry -/

namespace Registry

/-- Every method of a registry has a property. -/
def Every (P : Method α ρ → Prop) (r : Registry α ρ) : Prop :=
  ∀ name m, r.methods.get? name = some m → P m

theorem every_of_find {P : Method α ρ → Prop} {r : Registry α ρ} (h : r.Every P) {name : String}
    {m : Method α ρ} (found : r.find name = .ok m) : P m := by
  unfold find at found
  cases known : r.methods.get? name with
  | none => rw [known] at found; cases found
  | some other =>
    rw [known] at found
    cases found
    exact h name m known

theorem find_blameless (r : Registry α ρ) (name : String) : Blameless (r.find name) :=
  .elim rfl _

variable {P : Method α ρ → Prop}

theorem every_load {r : Registry α ρ} (h : r.Every P) {unit : PluginModule α ρ}
    (offered : ∀ methods, unit.load = .ok methods → ∀ m ∈ methods, P m) :
    (r.load unit).Every P := by
  unfold load
  cases loaded : unit.load with
  | error f => exact h
  | ok methods =>
    have each := offered methods loaded
    clear loaded offered
    -- One method after the other; only the roster changes.
    induction methods generalizing r with
    | nil => exact h
    | cons m rest ih =>
      refine ih (r := { r with methods := offer r.methods m }) (fun name found known => ?_)
        fun other member => each other (List.mem_cons_of_mem _ member)
      dsimp only at known
      unfold offer at known
      split at known
      · exact h name found known
      · rw [Roster.get?_insert] at known
        split at known
        · cases known
          exact each m List.mem_cons_self
        · exact h name found known

theorem every_foldl_load {units : List (PluginModule α ρ)}
    (offered : ∀ unit ∈ units, ∀ methods, unit.load = .ok methods → ∀ m ∈ methods, P m)
    {r : Registry α ρ} (h : r.Every P) : (units.foldl load r).Every P := by
  induction units generalizing r with
  | nil => exact h
  | cons unit rest ih =>
    refine ih (fun other member => offered other (List.mem_cons_of_mem _ member)) ?_
    exact every_load h (offered unit List.mem_cons_self)

/-- Selecting a root by name adds nothing that is not in the catalogue. -/
theorem mem_of_mem_select {catalogue selected : List (PluginRoot α ρ)} {name : String}
    {root : PluginRoot α ρ} (member : root ∈ select catalogue selected name) :
    root ∈ selected ∨ root ∈ catalogue := by
  unfold select at member
  split at member
  · rename_i other found
    split at member
    · exact Or.inl member
    · rcases List.mem_append.mp member with old | new
      · exact Or.inl old
      · rw [List.mem_singleton.mp new]
        exact Or.inr (List.mem_of_find?_eq_some found)
  · exact Or.inl member

/-- The methods of a registry come from the catalogue that it is made from. -/
theorem every_ofCatalogue {catalogue : List (PluginRoot α ρ)}
    (offered : ∀ root ∈ catalogue, ∀ unit ∈ root.modules, ∀ methods, unit.load = .ok methods →
      ∀ m ∈ methods, P m)
    (kind : String) (extra : List String) : (ofCatalogue kind catalogue extra).Every P := by
  have known : ∀ selected : List (PluginRoot α ρ), (∀ root ∈ selected, root ∈ catalogue) →
      ∀ root ∈ extra.foldl (select catalogue) selected, root ∈ catalogue := by
    induction extra with
    | nil => exact fun _ h => h
    | cons name rest ih =>
      refine fun selected h => ih _ fun root member => ?_
      rcases mem_of_mem_select member with old | new
      · exact h root old
      · exact new
  refine every_foldl_load (fun unit member => ?_) nofun
  obtain ⟨root, selected, contributed⟩ := List.mem_flatMap.mp member
  refine offered root (known _ (fun root builtin => ?_) root selected) unit contributed
  exact List.mem_of_find?_eq_some (Option.mem_toList.mp builtin)

end Registry

/-! ## 3. Extraction and evaluation -/

section Extracting

variable [Scalar α]

theorem windowOf_blameless (context : ExtractionContext α) (params : ParamSet α) :
    Blameless (windowOf context params) := by
  refine .bind (params.number_blameless _) fun _ => ?_
  exact .bind (params.number_blameless _) fun _ => .ok _

theorem Threshold.extract_blameless (trace : List Nat) (context : ExtractionContext α)
    (params : ParamSet α) : Blameless (extract trace context params) := by
  unfold extract
  refine .bind (params.number_blameless _) fun high => ?_
  refine .bind (params.number_blameless _) fun low => ?_
  refine .ite (.error rfl) (.ite (.error rfl) ?_)
  refine .bind (params.number_blameless _) fun gap => ?_
  refine .bind (params.number_blameless _) fun least => ?_
  refine .ite (.error rfl) ?_
  exact .bind (windowOf_blameless context params) fun _ => .ok _

theorem KnownEdges.extract_blameless (trace : List Nat) (context : ExtractionContext α)
    (params : ParamSet α) : Blameless (extract trace context params) := by
  unfold extract
  refine .ite (.error rfl) (.ite (.error rfl) ?_)
  exact .bind (windowOf_blameless context params) fun _ => .ok _

end Extracting

section Methods

variable [Analytic α]

theorem Gates.extract_blameless (gates : Grid Nat) (context : ExtractionContext α)
    (params : ParamSet α) : Blameless (extract gates context params) := by
  unfold extract
  refine .ite (.error rfl) ?_
  refine .bind (params.number_blameless _) fun deviation => ?_
  exact .ite (.error rfl) (.ok _)

/-- A rule of extraction blames no device. -/
def ExtractionRule.Innocent : ExtractionRule α → Prop
  | .ofTrace rule => ∀ trace context params, Blameless (rule trace context params)
  | .ofGates rule => ∀ gates context params, Blameless (rule gates context params)

theorem ExtractionMethod.extract_blameless {m : ExtractionMethod α} (innocent : m.rule.Innocent)
    (counts : Counts) (context : ExtractionContext α) (params : ParamSet α) :
    Blameless (m.extract counts context params) := by
  obtain ⟨name, schema, rule⟩ := m
  have resolved : Blameless (do
      unless 0.0 < context.binWidth do throw (.measure .binWidthNotPositive)
      schema.resolve params) :=
    .ite (schema.resolve_blameless params) (.error rfl)
  cases rule with
  | ofTrace rule =>
    cases counts with
    | trace bins => exact .bind resolved fun _ => innocent _ _ _
    | gates grid => exact .error rfl
  | ofGates rule =>
    cases counts with
    | trace bins => exact .error rfl
    | gates grid => exact .bind resolved fun _ => innocent _ _ _

/-- No method of extraction blames a device. -/
theorem ExtractionMethod.registry_innocent (extra : List String) :
    (registry extra : Registry α (ExtractionRule α)).Every fun m => m.rule.Innocent := by
  refine Registry.every_ofCatalogue (fun root member unit part methods loaded m own => ?_) _ _
  cases List.mem_singleton.mp member
  cases List.mem_singleton.mp part
  cases loaded
  simp only [basic, List.mem_cons, List.not_mem_nil, or_false] at own
  rcases own with rfl | rfl | rfl
  · exact Threshold.extract_blameless
  · exact KnownEdges.extract_blameless
  · exact Gates.extract_blameless

theorem Window.ofParams_blameless (role : WindowRole) (columns : Nat) (binWidth : α)
    (params : ParamSet α) : Blameless (Window.ofParams role columns binWidth params) := by
  unfold ofParams
  refine .bind (params.number_blameless _) fun first => ?_
  refine .bind (params.number_blameless _) fun last => ?_
  exact .ite (.error rfl) (.ok _)

/-- A rule of evaluation blames no device. -/
def EvaluationRule.Innocent (rule : EvaluationRule α) : Prop :=
  ∀ columns binWidth params, Blameless (rule columns binWidth params)

theorem EvaluationMethod.evaluate_blameless {m : EvaluationMethod α}
    (innocent : EvaluationRule.Innocent m.rule) (counts : Grid Nat) (binWidth : α)
    (params : ParamSet α) : Blameless (m.evaluate counts binWidth params) := by
  refine .ite ?_ (.error rfl)
  refine .bind (m.schema.resolve_blameless params) fun resolved => ?_
  exact .bind (innocent _ _ _) fun _ => .ok _

/-- No method of evaluation blames a device. -/
theorem EvaluationMethod.registry_innocent (extra : List String) :
    (registry extra : Registry α (EvaluationRule α)).Every fun m =>
      EvaluationRule.Innocent m.rule := by
  refine Registry.every_ofCatalogue (fun root member unit part methods loaded m own => ?_) _ _
  cases List.mem_singleton.mp member
  cases List.mem_singleton.mp part
  cases loaded
  simp only [basic, List.mem_cons, List.not_mem_nil, or_false] at own
  have window (role : WindowRole) (columns : Nat) (binWidth : α) (params : ParamSet α) :=
    Window.ofParams_blameless role columns binWidth params
  rcases own with rfl | rfl | rfl | rfl | rfl
  · exact fun _ _ _ => .bind (window _ _ _ _) fun _ => .bind (window _ _ _ _) fun _ => .ok _
  · exact fun _ _ _ => .bind (window _ _ _ _) fun _ => .ok _
  · exact fun _ _ _ => .bind (window _ _ _ _) fun _ => .ok _
  · exact fun _ _ _ => .bind (window _ _ _ _) fun _ => .bind (window _ _ _ _) fun _ => .ok _
  · exact fun _ _ _ => .ok _

end Methods

/-! ## 4. The calculation behind a reading -/

namespace Selection

theorem method_blameless (s : Selection α ρ) : Blameless s.method := s.registry.find_blameless _

theorem parameters_blameless [Scalar α] (s : Selection α ρ) : Blameless s.parameters := by
  refine .bind (s.registry.find_blameless _) fun m => ?_
  cases s.stored.get? s.current with
  | none => exact .ok _
  | some stored => exact m.schema.resolve_blameless stored

end Selection

theorem MeasurementSettings.arrange_blameless [Scalar α] (s : MeasurementSettings α)
    (estimates : List (Estimate α)) : Blameless (s.arrange estimates) :=
  .ite (.ok _) (.error rfl)

namespace Measurement

/-- No method that can be selected blames a device. -/
structure Innocent [Analytic α] (m : Measurement α κ μ) : Prop where
  extraction : m.extraction.registry.Every fun method => method.rule.Innocent
  evaluation : m.evaluation.registry.Every fun method => EvaluationRule.Innocent method.rule

variable [Analytic α] {m : Measurement α κ μ}

/-- Only the registries matter. -/
theorem Innocent.congr (h : m.Innocent) {next : Measurement α κ μ}
    (extraction : next.extraction.registry = m.extraction.registry)
    (evaluation : next.evaluation.registry = m.evaluation.registry) : next.Innocent where
  extraction := by
    rw [extraction]
    exact h.extraction
  evaluation := by
    rw [evaluation]
    exact h.evaluation

theorem extractLasers_blameless (h : m.Innocent) : Blameless m.extractLasers := by
  unfold extractLasers
  cases selected : m.extraction.method with
  | error f => exact .error (m.extraction.method_blameless f selected)
  | ok method =>
    rw [ok_bind]
    refine .bind m.extraction.parameters_blameless fun params => ?_
    exact ExtractionMethod.extract_blameless (Registry.every_of_find h.extraction selected) _ _ _

theorem evaluateLasers_blameless (h : m.Innocent) (lasers : Grid Nat) :
    Blameless (m.evaluateLasers lasers) := by
  refine .ite (.ok _) ?_
  cases selected : m.evaluation.method with
  | error f => exact .error (m.evaluation.method_blameless f selected)
  | ok method =>
    rw [ok_bind]
    refine .bind m.evaluation.parameters_blameless fun params => ?_
    exact EvaluationMethod.evaluate_blameless (Registry.every_of_find h.evaluation selected) _ _ _

/-- Counts that hold no result are no fault of a device. -/
theorem analysed_blameless (h : m.Innocent) : Blameless m.analysed := by
  refine .bind (extractLasers_blameless h) fun extraction => ?_
  refine .bind (evaluateLasers_blameless h _) fun estimates => ?_
  exact .bind (m.settings.arrange_blameless _) fun _ => .ok _

end Measurement

end PulseBench
