import PulseBench.Proofs.Plugin.Declared

/-!
# Resolved parameters

What comes out of `Schema.resolve` fits the declarations: every value has the declared type, its
number is within the bounds, and a choice is one of the options (`ParamSpec.Admits`). These are
exactly the values that a check leaves as they are, though a check also takes integers for numbers
and whole numbers for integers. So there is nothing left to do when a resolved set is resolved
again.

Results:
1. `ParamSpec.check_self_iff`: which values a check leaves as they are.
2. `Schema.exists_rejected_of_error`: why resolving fails.
3. `Schema.resolve_congr_declared`: names that are not declared have no influence.
4. `Schema.resolve_settles_declared`: when resolving fails, what it gives otherwise, and that
   resolving this again changes nothing.
-/

namespace PulseBench

variable {α : Type} [Scalar α]

/-! ## 1. Values that fit -/

/-- The value is of the type; a choice is one of the options. -/
def ParamKind.Admits : ParamKind → ParamValue α → Prop
  | .real, .real _ | .int, .int _ | .bool, .bool _ | .text, .text _ => True
  | .choice options, .text s => s ∈ options
  | _, _ => False

namespace ParamSpec

/-- The number is defined, and not beyond a bound at a number. -/
structure Within (spec : ParamSpec α) (x : α) : Prop where
  defined : Scalar.isNaN x = false
  atLeast : ∀ low, spec.min = some (.point low) → ¬ x < low
  atMost : ∀ high, spec.max = some (.point high) → ¬ high < x

theorem excludes_eq_false_iff {spec : ParamSpec α} {x : α} :
    spec.excludes x = false ↔ spec.Within x := by
  have below (bound : Option (Bound α)) :
      bound.any (Bound.below x) = false ↔ ∀ low, bound = some (.point low) → ¬ x < low := by
    rcases bound with _ | _ | _ <;> simp [Bound.below]
  have above (bound : Option (Bound α)) :
      bound.any (Bound.above x) = false ↔ ∀ high, bound = some (.point high) → ¬ high < x := by
    rcases bound with _ | _ | _ <;> simp [Bound.above]
  rw [excludes, Bool.or_eq_false_iff, Bool.or_eq_false_iff, below, above]
  constructor
  · rintro ⟨⟨low, high⟩, defined⟩
    exact ⟨defined, low, high⟩
  · intro h
    exact ⟨⟨h.atLeast, h.atMost⟩, h.defined⟩

/-- The value fits its declaration. -/
structure Admits (spec : ParamSpec α) (value : ParamValue α) : Prop where
  kind : spec.kind.Admits value
  within : ∀ x, value.number? = some x → spec.Within x

theorem coerce_self_iff {spec : ParamSpec α} {value : ParamValue α} :
    spec.coerce value = .ok value ↔ spec.kind.Admits value := by
  unfold coerce
  cases spec.kind with
  | real => cases value <;> simp [ParamKind.Admits, ParamValue.number?]
  | int =>
    cases value with
    | real x =>
      -- A whole number becomes an integer, and any other is refused.
      simp only [ParamKind.Admits, ParamValue.integer?, iff_false]
      cases Scalar.integral? x <;> exact nofun
    | _ => simp [ParamKind.Admits, ParamValue.integer?]
  | bool => cases value <;> simp [ParamKind.Admits, ParamValue.truth?]
  | text => cases value <;> simp [ParamKind.Admits, ParamValue.string?]
  | choice options =>
    cases value with
    | text s => by_cases offered : s ∈ options <;> simp [ParamKind.Admits, ParamValue.string?, offered]
    | _ => simp [ParamKind.Admits, ParamValue.string?]

/-- The values that a check leaves as they are. -/
theorem check_self_iff {spec : ParamSpec α} {value : ParamValue α} :
    spec.check value = .ok value ↔ spec.Admits value := by
  constructor
  · intro passed
    obtain ⟨typed, inside⟩ := check_eq_ok passed
    exact ⟨coerce_self_iff.mp typed, fun x read => excludes_eq_false_iff.mp (inside x read)⟩
  · intro fits
    refine bind_eq_ok.mpr ⟨value, coerce_self_iff.mpr fits.kind, ?_⟩
    cases read : value.number? with
    | none => rfl
    | some x =>
      have inside := excludes_eq_false_iff.mpr (fits.within x read)
      exact if_neg (Bool.eq_false_iff.mp inside)

/-- What a check gives fits. -/
theorem admits_of_check {spec : ParamSpec α} {value checked : ParamValue α}
    (passed : spec.check value = .ok checked) : spec.Admits checked :=
  check_self_iff.mp (check_checked passed)

/-- The value does not pass the check. -/
def Rejects (spec : ParamSpec α) (value : ParamValue α) : Prop :=
  ∃ f, spec.check value = .error f

end ParamSpec

/-! ## 2. Why resolving fails -/

namespace Schema

variable {schema : Schema α} {given params : ParamSet α}

/-- Laying values over others fails as one of the checks does. -/
theorem overlays_error {entries : List (String × ParamValue α)} {base : ParamSet α}
    {f : Failure α} (failed : entries.foldlM (overlay schema) base = .error f) :
    ∃ spec ∈ schema, ∃ value, (spec.name, value) ∈ entries ∧ spec.check value = .error f := by
  induction entries generalizing base with
  | nil => cases failed
  | cons entry rest ih =>
    obtain ⟨key, value⟩ := entry
    rw [List.foldlM_cons] at failed
    rcases bind_eq_error.mp failed with first | ⟨laid, -, later⟩
    · unfold overlay at first
      dsimp only at first
      cases known : schema.find? key with
      | none => rw [known] at first; cases first
      | some spec =>
        rw [known] at first
        obtain ⟨own, rfl⟩ := of_find? known
        rcases bind_eq_error.mp first with rejected | ⟨_, -, made⟩
        · exact ⟨spec, own, value, List.mem_cons_self, rejected⟩
        · cases made
    · obtain ⟨spec, own, value, member, rejected⟩ := ih later
      exact ⟨spec, own, value, List.mem_cons_of_mem _ member, rejected⟩

/-- Resolving fails as the check of a given value does. -/
theorem exists_rejected_of_error {f : Failure α} (failed : schema.resolve given = .error f) :
    ∃ spec ∈ schema, ∃ value, given.get? spec.name = some value ∧ spec.check value = .error f := by
  rw [resolve_eq] at failed
  obtain ⟨spec, own, value, member, rejected⟩ := overlays_error failed
  exact ⟨spec, own, value, Roster.mem_entries_iff.mp member, rejected⟩

theorem resolve_eq_error_iff (sound : schema.Sound) :
    (∃ f, schema.resolve given = .error f) ↔
      ∃ spec ∈ schema, ∃ value, given.get? spec.name = some value ∧ spec.Rejects value := by
  constructor
  · rintro ⟨f, failed⟩
    obtain ⟨spec, own, value, found, rejected⟩ := exists_rejected_of_error failed
    exact ⟨spec, own, value, found, f, rejected⟩
  · rintro ⟨spec, own, value, found, f, rejected⟩
    cases done : schema.resolve given with
    | error e => exact ⟨e, rfl⟩
    | ok params =>
      obtain ⟨settled, -, settles⟩ := ((resolve_eq_ok_iff sound).mp done).values spec own
      rw [found] at settles
      rw [ParamSpec.Settles, rejected] at settles
      cases settles

/-! ## 3. Names that are not declared -/

/-- The given values of declared names. -/
def declared (schema : Schema α) (given : ParamSet α) : ParamSet α :=
  given.filter fun key _ => schema.names.contains key

theorem overlays_filter (entries : List (String × ParamValue α)) (base : ParamSet α) :
    (entries.filter fun entry => schema.names.contains entry.1).foldlM (overlay schema) base =
      entries.foldlM (overlay schema) base := by
  induction entries generalizing base with
  | nil => rfl
  | cons entry rest ih =>
    rw [List.filter_cons, List.foldlM_cons]
    by_cases known : schema.names.contains entry.1 = true
    · rw [if_pos known, List.foldlM_cons]
      exact congrArg _ (funext ih)
    · have skipped : overlay schema base entry = .ok base := by
        rw [List.contains_iff_mem, ← find?_eq_none_iff] at known
        rw [overlay, known]
        rfl
      rw [if_neg known, skipped, ok_bind, ih]

/-- Resolving depends on the values of declared names only. -/
theorem resolve_congr_declared {other : ParamSet α}
    (same : schema.declared other = schema.declared given) :
    schema.resolve other = schema.resolve given := by
  have filtered (given : ParamSet α) : schema.resolve (schema.declared given) = schema.resolve given :=
    overlays_filter given.entries schema.defaults
  rw [← filtered other, same, filtered]

/-! ## 4. Everything together -/

/-- For declarations of different names whose defaults pass their own checks: resolving fails
exactly if a value was given that its declaration rejects. Otherwise there are the declared names in
declared order, each with the checked value that was given, or else with the default; all of them
fit, and resolving them again gives them back. Values of other names have no influence. -/
theorem resolve_settles_declared (sound : schema.Sound) (given : ParamSet α) :
    ((∃ f, schema.resolve given = .error f) ↔
      ∃ spec ∈ schema, ∃ value, given.get? spec.name = some value ∧ spec.Rejects value) ∧
    (∀ params, schema.resolve given = .ok params →
      params.names = schema.names ∧
      (∀ spec ∈ schema, ∃ value, params.get? spec.name = some value ∧
        spec.Settles value (given.get? spec.name) ∧ spec.Admits value) ∧
      schema.resolve params = .ok params) ∧
    ∀ other : ParamSet α, schema.declared other = schema.declared given →
      schema.resolve other = schema.resolve given := by
  refine ⟨resolve_eq_error_iff sound, fun params done => ?_, fun _ => resolve_congr_declared⟩
  have complete := (resolve_eq_ok_iff sound).mp done
  refine ⟨complete.names, fun spec own => ?_, complete.resolve_self sound⟩
  obtain ⟨value, found, settles⟩ := complete.values spec own
  have passes := settles.check_self (sound.defaults spec own)
  exact ⟨value, found, settles, ParamSpec.check_self_iff.mp passes⟩

/-- A number, a count and a choice. -/
def pulseSchema : Schema ℚ :=
  [.real "amplitude" "V" 0 (.point 0) .beyond, .int "count" "" 50 1 10000,
    .choice "mode" "fast" ["fast", "slow"]]

/-- A whole number for a count, an integer for a number, and a name that is not declared. -/
def mixedParams : ParamSet ℚ :=
  Roster.ofList [("count", .real 7), ("tag", .bool true), ("amplitude", .int 2)]

theorem resolve_settles_declared_mixed :
    pulseSchema.Sound ∧ ∃ params, pulseSchema.resolve mixedParams = .ok params ∧
      params.entries = [("amplitude", .real 2), ("count", .int 7), ("mode", .text "fast")] ∧
      pulseSchema.resolve params = .ok params := by
  have sound : pulseSchema.Sound := by
    refine ⟨by decide, fun spec own => ?_⟩
    simp only [pulseSchema, List.mem_cons, List.not_mem_nil, or_false] at own
    rcases own with rfl | rfl | rfl <;> rfl
  let params : ParamSet ℚ :=
    ⟨[("amplitude", .real 2), ("count", .int 7), ("mode", .text "fast")], by decide⟩
  have done : pulseSchema.resolve mixedParams = .ok params := rfl
  obtain ⟨-, gives, -⟩ := resolve_settles_declared sound mixedParams
  exact ⟨sound, params, done, rfl, (gives params done).2.2⟩

end Schema

end PulseBench
