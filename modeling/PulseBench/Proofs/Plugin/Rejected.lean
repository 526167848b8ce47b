import PulseBench.Proofs.Plugin.Selection

/-!
# What a failed call leaves of a selection

A call with parameters and a change of the registry both take several steps, and either may fail on
the way. A failed call should leave the selection as it was.

A call with parameters selects the method that is asked for before it looks at the other values. If
these are rejected, the method stays selected; registry and parameters are the old ones. A change of
the registry forgets the parameters of methods that are gone before it looks for a method to select.
If there is none, the old registry stays, with the old method and without any parameters. There is
no other way in which a failed call leaves a trace.

Results:
1. `setParameters_error_iff`, `rejection_changes_nothing_iff`: calls with parameters.
2. `replaceRegistry_cases`, `replacement_all_or_nothing_iff`: changes of the registry.
-/

namespace PulseBench

variable {α κ : Type}

theorem Registry.contains_iff {r : Registry α κ} {name : String} :
    r.contains name = true ↔ name ∈ r.names :=
  Roster.contains_iff.trans Roster.mem_names_iff.symm

namespace Selection

/-! ## 1. Parameters -/

section Parameters

variable [Scalar α]

/-- What the given values make of the parameters of a method. -/
def completed (s : Selection α κ) (params : ParamSet α) (name : String) :
    Except (Failure α) (ParamSet α) := do
  let m ← s.registry.find name
  let known ← s.parametersOf name
  m.schema.resolve (merge known params)

variable {s s' : Selection α κ} {params : ParamSet α} {e : Failure α}

theorem storeSelected_apply (params : ParamSet α) (s : Selection α κ) :
    storeSelected params s =
      (do
        let resolved ← Action.lift (s.completed params s.current)
        set { s with stored := s.stored.insert s.current resolved }
        return resolved : Action α (Selection α κ) (ParamSet α)) s := by
  simp only [completed, Action.lift_bind, bind_assoc]
  rfl

theorem storeSelected_error_iff :
    storeSelected params s = .error e s' ↔ s.completed params s.current = .error e ∧ s' = s := by
  rw [storeSelected_apply]
  cases s.completed params s.current with
  | error f =>
    rw [Action.bind_of_error (Action.lift_error f s)]
    constructor
    · rintro ⟨⟩
      exact ⟨rfl, rfl⟩
    · rintro ⟨⟨⟩, rfl⟩
      rfl
  | ok resolved =>
    rw [Action.bind_of_ok (Action.lift_ok resolved s)]
    exact iff_of_false nofun nofun

omit [Scalar α] in
theorem setMethod_ok_iff {name : String} :
    setMethod name s = .ok ⟨⟩ s' ↔
      s.registry.contains name = true ∧ s' = { s with current := name } := by
  unfold setMethod
  rw [Action.bind_of_ok (Action.get_apply s)]
  by_cases known : s.registry.contains name = true
  · rw [if_pos known]
    constructor
    · rintro ⟨⟩
      exact ⟨known, rfl⟩
    · rintro ⟨-, rfl⟩
      rfl
  · rw [if_neg known]
    exact iff_of_false nofun fun selected => known selected.1

omit [Scalar α] in
/-- Only a registered method is selected, and only if it is asked for. -/
theorem selectGiven_ok_iff :
    selectGiven params s = .ok ⟨⟩ s' ↔
      (params.get? methodKey = none ∧ s' = s) ∨
      ∃ name, params.get? methodKey = some (.text name) ∧ s.registry.contains name = true ∧
        s' = { s with current := name } := by
  unfold selectGiven
  rcases params.get? methodKey with _ | (_ | _ | _ | name)
  · constructor
    · rintro ⟨⟩
      exact Or.inl ⟨rfl, rfl⟩
    · rintro (⟨-, rfl⟩ | ⟨_, ⟨⟩, -⟩)
      rfl
  iterate 3
    refine iff_of_false nofun ?_
    rintro (⟨⟨⟩, -⟩ | ⟨_, ⟨⟩, -⟩)
  · refine setMethod_ok_iff.trans ⟨fun selected => Or.inr ⟨name, rfl, selected⟩, ?_⟩
    rintro (⟨⟨⟩, -⟩ | ⟨_, ⟨⟩, selected⟩)
    exact selected

/-- What a rejected call leaves: nothing if no method could be selected, or none was asked for;
otherwise the selected method. -/
theorem setParameters_error_iff :
    setParameters params s = .error e s' ↔
      (selectGiven params s = .error e s ∧ s' = s) ∨
      (params.get? methodKey = none ∧ s.completed params s.current = .error e ∧ s' = s) ∨
      ∃ name, params.get? methodKey = some (.text name) ∧ s.registry.contains name = true ∧
        s.completed params name = .error e ∧ s' = { s with current := name } := by
  rw [setParameters_eq, Action.bind_error_iff]
  constructor
  · rintro (failed | ⟨_, t, selected, failed⟩)
    · rcases selectGiven_cases params s with ⟨f, other⟩ | ⟨current, done⟩
      · cases failed.symm.trans other
        exact Or.inl ⟨failed, rfl⟩
      · cases failed.symm.trans done
    · obtain ⟨rejected, rfl⟩ := storeSelected_error_iff.mp failed
      rcases selectGiven_ok_iff.mp selected with ⟨unasked, rfl⟩ | ⟨name, asked, known, rfl⟩
      · exact Or.inr (Or.inl ⟨unasked, rejected, rfl⟩)
      · exact Or.inr (Or.inr ⟨name, asked, known, rejected, rfl⟩)
  · rintro (⟨failed, rfl⟩ | ⟨unasked, rejected, rfl⟩ | ⟨name, asked, known, rejected, rfl⟩)
    · exact Or.inl failed
    · exact Or.inr ⟨⟨⟩, s', selectGiven_ok_iff.mpr (Or.inl ⟨unasked, rfl⟩),
        storeSelected_error_iff.mpr ⟨rejected, rfl⟩⟩
    · exact Or.inr ⟨⟨⟩, _, selectGiven_ok_iff.mpr (Or.inr ⟨name, asked, known, rfl⟩),
        storeSelected_error_iff.mpr ⟨rejected, rfl⟩⟩

/-- Whatever state a selection is in, a rejected call changes neither the registry nor the
parameters of any method. It changes nothing at all, unless it asks for another method that is
registered, and the values are no parameters of that one. -/
theorem rejection_changes_nothing_iff (s : Selection α κ) (params : ParamSet α) :
    (∀ e s', setParameters params s = .error e s' → s'.registry = s.registry ∧
      s'.stored = s.stored ∧ ∀ name, s'.parametersOf name = s.parametersOf name) ∧
    ((∀ e s', setParameters params s = .error e s' → s' = s) ↔
      ¬ ∃ name e, params.get? methodKey = some (.text name) ∧ name ≠ s.current ∧
        s.registry.contains name = true ∧ s.completed params name = .error e) := by
  refine ⟨fun e s' rejected => ?_, ?_, ?_⟩
  · rcases setParameters_error_iff.mp rejected with
      ⟨-, rfl⟩ | ⟨-, -, rfl⟩ | ⟨name, -, -, -, rfl⟩ <;> exact ⟨rfl, rfl, fun _ => rfl⟩
  · rintro kept ⟨name, e, asked, other, known, rejected⟩
    have moved := setParameters_error_iff.mpr (Or.inr (Or.inr ⟨name, asked, known, rejected, rfl⟩))
    exact other (congrArg current (kept e _ moved))
  · intro harmless e s' rejected
    rcases setParameters_error_iff.mp rejected with
      ⟨-, same⟩ | ⟨-, -, same⟩ | ⟨name, asked, known, failed, rfl⟩
    · exact same
    · exact same
    · by_contra moved
      refine harmless ⟨name, e, asked, fun same => moved ?_, known, failed⟩
      rw [same]

end Parameters

/-! The methods of extraction, the first of them selected. -/

/-- Its upper threshold is at most one. -/
def tooHigh : ParamSet ℚ := .ofList [("high_threshold", .real 2)]

/-- A text is no width. -/
def wideText : ParamSet ℚ :=
  .ofList [(methodKey, .text "gated_conv_deriv"), ("conv_std_dev", .text "wide")]

/-- A threshold that is too high leaves nothing behind. -/
theorem rejection_changes_nothing_tooHigh :
    ∃ e s', setParameters tooHigh extracting = .error e s' ∧ s' = extracting := by
  have nothing : ((setParameters tooHigh).run extracting).1.toOption.isNone = true := by
    decide +kernel
  obtain ⟨e, rejected⟩ := Action.error_of_run nothing
  obtain ⟨-, harmless⟩ := rejection_changes_nothing_iff extracting tooHigh
  refine ⟨e, _, rejected, harmless.mpr ?_ e _ rejected⟩
  rintro ⟨name, -, asked, -⟩
  have unasked : tooHigh.get? methodKey = none := rfl
  rw [unasked] at asked
  cases asked

/-- A text for the width of the smoothing is rejected, and the smoothing of gates is selected. -/
theorem not_unchanged_of_wideText :
    ofRegistry (ExtractionMethod.registry []) "ungated_threshold" = .ok extracting ∧
      ∃ e s', setParameters wideText extracting = .error e s' ∧ s'.current ≠ extracting.current := by
  have nothing : ((setParameters wideText).run extracting).1.toOption.isNone = true := by
    decide +kernel
  have moved : ((setParameters wideText).after extracting).current = "gated_conv_deriv" := by
    decide +kernel
  obtain ⟨e, rejected⟩ := Action.error_of_run nothing
  refine ⟨rfl, e, _, rejected, fun same => ?_⟩
  rw [moved] at same
  revert same
  decide

/-! ## 2. The registry -/

section Replacing

/-- A selection without the parameters of methods that a registry does not have. -/
def pruned (registry : Registry α κ) (s : Selection α κ) : Roster (ParamSet α) :=
  s.stored.filter fun name _ => registry.contains name

theorem pruned_of_empty {registry : Registry α κ} (empty : registry.names = [])
    (s : Selection α κ) : pruned registry s = ∅ := by
  refine Roster.ext_entries (List.filter_eq_nil_iff.mpr fun entry _ known => ?_)
  rw [Registry.contains_iff, empty] at known
  exact absurd known List.not_mem_nil

theorem get?_pruned {registry : Registry α κ} (s : Selection α κ) {name : String}
    (known : registry.contains name = true) :
    (pruned registry s).get? name = s.stored.get? name := by
  rw [pruned, Roster.get?_filter, known]
  cases s.stored.get? name <;> rfl

/-- Everything a change of the registry can do. It fails if there is no method, and then keeps
registry and selected method, but no parameters; or it goes over to the new registry. The selected
method stays if the new registry has it, and the first one is selected otherwise. -/
theorem replaceRegistry_cases (registry : Registry α κ) (s : Selection α κ) :
    (registry.names = [] ∧ replaceRegistry registry s =
      .error (.unknown registry.kind s.current) { s with stored := ∅ }) ∨
    ∃ current, registry.contains current = true ∧
      (registry.contains s.current = true → current = s.current) ∧
      (registry.contains s.current = false → registry.names.head? = some current) ∧
      replaceRegistry registry s = .ok ⟨⟩ ⟨registry, current, pruned registry s⟩ := by
  unfold replaceRegistry
  rw [Action.bind_of_ok (Action.modify_apply _ s), Action.bind_of_ok (Action.get_apply _)]
  dsimp only
  by_cases known : registry.contains s.current = true
  · rw [if_pos known]
    refine Or.inr ⟨s.current, known, fun _ => rfl, fun unknown => ?_, rfl⟩
    rw [known] at unknown
    cases unknown
  · rw [if_neg known]
    cases names : registry.names with
    | nil =>
      refine Or.inl ⟨rfl, ?_⟩
      rw [← pruned_of_empty names s]
      rfl
    | cons first rest =>
      exact Or.inr ⟨first, Registry.contains_iff.mpr (names ▸ List.mem_cons_self),
        fun still => absurd still known, fun _ => rfl, rfl⟩

/-- A method that is declared as before has the parameters that it had. -/
theorem parametersOf_pruned [Scalar α] {registry : Registry α κ} {s : Selection α κ}
    {name current : String} {m old : Method α κ} (found : registry.find name = .ok m)
    (before : s.registry.find name = .ok old) (alike : m.schema = old.schema) :
    parametersOf ⟨registry, current, pruned registry s⟩ name = s.parametersOf name := by
  have known : registry.contains name = true :=
    Roster.contains_iff.mpr ⟨m, elim_eq_ok.mp found⟩
  unfold parametersOf
  rw [found, before, ok_bind, ok_bind, get?_pruned s known, alike]

/-- Whatever state a selection is in, it goes over to every registry that has a method. Then the
selected method is one of the new registry, and the old one if that is still there; and methods that
are still there keep what was stored for them. A registry without methods is refused, and then
everything is as before except that nothing is stored any more. So a refusal changes nothing only
if nothing was stored. -/
theorem replacement_all_or_nothing_iff [Scalar α] (s : Selection α κ) (registry : Registry α κ) :
    ((∃ s', replaceRegistry registry s = .ok ⟨⟩ s') ↔ registry.names ≠ []) ∧
    (∀ s', replaceRegistry registry s = .ok ⟨⟩ s' →
      s'.registry = registry ∧ registry.contains s'.current = true ∧
      (registry.contains s.current = true → s'.current = s.current) ∧
      (∀ name, registry.contains name = true → s'.stored.get? name = s.stored.get? name) ∧
      ∀ name m old, registry.find name = .ok m → s.registry.find name = .ok old →
        m.schema = old.schema → s'.parametersOf name = s.parametersOf name) ∧
    (∀ e s', replaceRegistry registry s = .error e s' → s' = { s with stored := ∅ }) ∧
    ((∀ e s', replaceRegistry registry s = .error e s' → s' = s) ↔
      ¬ (registry.names = [] ∧ s.stored ≠ ∅)) := by
  rcases replaceRegistry_cases registry s with ⟨empty, failed⟩ | ⟨current, known, stays, -, done⟩
  · rw [failed]
    refine ⟨iff_of_false nofun fun filled => filled empty, nofun, ?_, ?_, ?_⟩
    · rintro _ _ ⟨⟩
      rfl
    · rintro kept ⟨-, stored⟩
      exact stored (congrArg Selection.stored (kept _ _ rfl)).symm
    · rintro bare _ _ ⟨⟩
      have nothing : s.stored = ∅ := by
        by_contra stored
        exact bare ⟨empty, stored⟩
      rw [← nothing]
  · have filled : registry.names ≠ [] := List.ne_nil_of_mem (Registry.contains_iff.mp known)
    rw [done]
    refine ⟨iff_of_true ⟨_, rfl⟩ filled, ?_, nofun, iff_of_true nofun fun bare => filled bare.1⟩
    rintro _ ⟨⟩
    refine ⟨rfl, known, stays, fun name => get?_pruned s,
      fun name m old => parametersOf_pruned⟩

end Replacing

/-! A selection that stored parameters for two methods goes over to registries with fewer methods. -/

/-- The smoothing of gates, as all registries of extraction methods have it. -/
def smoothing : ExtractionMethod ℚ := ⟨"gated_conv_deriv", Gates.schema, .ofGates Gates.extract⟩

/-- A registry of one method. -/
def gatesOnly : Registry ℚ (ExtractionRule ℚ) :=
  .ofRoots "extraction methods" [⟨Registry.builtinRoot, [⟨"gates", .ok [smoothing]⟩]⟩]

/-- A registry without any method: there is no root to load. -/
def noMethods : Registry ℚ (ExtractionRule ℚ) := .ofCatalogue "extraction methods" [] []

/-- Where only the smoothing of gates is left, it is selected and keeps its width. A new selection
refuses a registry without methods, and is as it was. -/
theorem replacement_all_or_nothing_gatesOnly :
    gatesOnly.names ≠ [] ∧
    (∃ s', replaceRegistry gatesOnly (afterAll widening extracting) = .ok ⟨⟩ s' ∧
      s'.current = "gated_conv_deriv" ∧
      s'.parametersOf "gated_conv_deriv" =
        (afterAll widening extracting).parametersOf "gated_conv_deriv") ∧
    ∃ e s', replaceRegistry noMethods extracting = .error e s' ∧ s' = extracting := by
  have only : gatesOnly.names = ["gated_conv_deriv"] := rfl
  have filled : gatesOnly.names ≠ [] := only ▸ List.cons_ne_nil _ _
  refine ⟨filled, ?_, ?_⟩
  · obtain ⟨goes, kept, -⟩ :=
      replacement_all_or_nothing_iff (afterAll widening extracting) gatesOnly
    obtain ⟨s', done⟩ := goes.mpr filled
    obtain ⟨-, known, -, -, parameters⟩ := kept s' done
    rw [Registry.contains_iff, only] at known
    refine ⟨s', done, List.mem_singleton.mp known, ?_⟩
    refine parameters _ smoothing smoothing rfl ?_ rfl
    rw [afterAll_registry]
    rfl
  · obtain ⟨goes, -, -, kept⟩ := replacement_all_or_nothing_iff extracting noMethods
    cases called : replaceRegistry noMethods extracting with
    | ok u s' => exact absurd rfl (goes.mp ⟨s', called⟩)
    | error e s' => exact ⟨e, s', rfl, kept.mpr (fun bare => bare.2 rfl) e s' called⟩

/-- The width of the smoothing among the parameters of a selection. -/
def widthOf (s : Selection ℚ (ExtractionRule ℚ)) : Option ℚ :=
  (s.parametersOf "gated_conv_deriv").toOption.bind fun params =>
    (params.get? "conv_std_dev").bind ParamValue.number?

/-- With parameters stored, a registry without methods is refused too, and they are lost. -/
theorem not_unchanged_of_noMethods :
    ofRegistry (ExtractionMethod.registry []) "ungated_threshold" = .ok extracting ∧
      ∃ e s', replaceRegistry noMethods (afterAll widening extracting) = .error e s' ∧
        s'.parametersOf "gated_conv_deriv" ≠
          (afterAll widening extracting).parametersOf "gated_conv_deriv" := by
  have nothing : ((replaceRegistry noMethods).run (afterAll widening extracting)).1.toOption.isNone =
      true := by decide +kernel
  have before : widthOf (afterAll widening extracting) = some 7 := by decide +kernel
  have behind : widthOf ((replaceRegistry noMethods).after (afterAll widening extracting)) =
      some 20 := by decide +kernel
  obtain ⟨e, refused⟩ := Action.error_of_run nothing
  refine ⟨rfl, e, _, refused, fun same => ?_⟩
  rw [widthOf, same, ← widthOf, before, Option.some.injEq] at behind
  revert behind
  norm_num

end Selection

end PulseBench
