import PulseBench.Proofs.Lawful
import PulseBench.Proofs.Plugin.Schema

/-!
# Reading declared parameters

A value that was settled for a declared parameter can be read as what the parameter was
declared to be. For a count with a lower bound it matters that the bound is held against
the number that stands for the integer.

Results:
1. `Schema.Completes.real`, `Schema.Completes.truth`: declared numbers and truth values.
2. `Schema.Completes.positive`: declared counts of one and more.
-/

namespace PulseBench

variable {α : Type} [Scalar α]

namespace ParamSpec

variable {value : ParamValue α} {given : Option (ParamValue α)}

/-- What was given and fits has the declared type, and its number is not excluded. -/
theorem check_eq_ok {spec : ParamSpec α} {value checked : ParamValue α}
    (passed : spec.check value = .ok checked) :
    spec.coerce value = .ok checked ∧ ∀ x, checked.number? = some x → spec.excludes x = false := by
  obtain ⟨coerced, typed, bounded⟩ := bind_eq_ok.mp passed
  cases read : coerced.number? with
  | none =>
    rw [read] at bounded
    cases bounded
    exact ⟨typed, fun x other => by rw [read] at other; cases other⟩
  | some x =>
    rw [read] at bounded
    replace bounded : (if spec.excludes x then _ else _) = _ := bounded
    split at bounded
    · cases bounded
    · rename_i inside
      cases bounded
      refine ⟨typed, fun y other => ?_⟩
      rw [read] at other
      cases other
      exact Bool.eq_false_iff.mpr inside

theorem number_of_settles {name unit : String} {default : α} {min max : Bound α}
    (settled : (real name unit default min max).Settles value given) :
    ∃ x, value.number? = some x := by
  cases given with
  | none => exact ⟨default, congrArg ParamValue.number? settled⟩
  | some given =>
    have typed : (given.number?.map ParamValue.real).elim _ _ = _ := (check_eq_ok settled).1
    cases read : given.number? with
    | none => rw [read] at typed; cases typed
    | some x => rw [read] at typed; cases typed; exact ⟨x, rfl⟩

theorem truth_of_settles {name : String} {default : Bool}
    (settled : (bool name default : ParamSpec α).Settles value given) :
    ∃ b, value.truth? = some b := by
  cases given with
  | none => exact ⟨default, congrArg ParamValue.truth? settled⟩
  | some given =>
    have typed : (given.truth?.map ParamValue.bool).elim _ _ = _ := (check_eq_ok settled).1
    cases read : given.truth? with
    | none => rw [read] at typed; cases typed
    | some b => rw [read] at typed; cases typed; exact ⟨b, rfl⟩

/-- An integer that is not excluded from below by one is positive. -/
theorem positive_of_settles [Scalar.Lawful α] {name unit : String} {default : Int} {max : Int}
    (positive : 0 < default)
    (settled : (int name unit default 1 max : ParamSpec α).Settles value given) :
    ∃ n, 0 < n ∧ value = .int n := by
  cases given with
  | none => exact ⟨default, positive, settled⟩
  | some given =>
    obtain ⟨typed, inside⟩ := check_eq_ok settled
    replace typed : (given.integer?.map ParamValue.int).elim _ _ = _ := typed
    cases read : given.integer? with
    | none => rw [read] at typed; cases typed
    | some n =>
      rw [read] at typed
      cases typed
      refine ⟨n, Int.not_le.mp fun notPositive => ?_, rfl⟩
      have below : (int name unit default 1 max : ParamSpec α).excludes (Scalar.ofInt n) = true := by
        simp [excludes, int, Bound.below, Scalar.Lawful.ofInt_lt_one n notPositive]
      rw [inside _ rfl] at below
      cases below

end ParamSpec

omit [Scalar α] in
theorem ParamSet.read_of_get? {β : Type} {params : ParamSet α} {key : String}
    {as? : ParamValue α → Option β} {value : ParamValue α} {b : β}
    (found : params.get? key = some value) (known : as? value = some b) :
    params.read key as? = .ok b := by
  rw [read, found, Option.bind_some, known]
  rfl

namespace Schema.Completes

variable {schema : Schema α} {given : String → Option (ParamValue α)} {params : ParamSet α}

/-- A declared number. -/
theorem real (complete : schema.Completes given params) {name unit : String} {default : α}
    {min max : Bound α} (own : ParamSpec.real name unit default min max ∈ schema) :
    ∃ x, params.number name = .ok x := by
  obtain ⟨value, found, settled⟩ := complete.values _ own
  obtain ⟨x, known⟩ := ParamSpec.number_of_settles settled
  exact ⟨x, ParamSet.read_of_get? found known⟩

/-- A declared truth value. -/
theorem truth (complete : schema.Completes given params) {name : String} {default : Bool}
    (own : ParamSpec.bool name default ∈ schema) : ∃ b, params.truth name = .ok b := by
  obtain ⟨value, found, settled⟩ := complete.values _ own
  obtain ⟨b, known⟩ := ParamSpec.truth_of_settles settled
  exact ⟨b, ParamSet.read_of_get? found known⟩

/-- A declared count of one and more. -/
theorem positive [Scalar.Lawful α] (complete : schema.Completes given params) {name unit : String}
    {default max : Int} (own : ParamSpec.int name unit default 1 max ∈ schema)
    (least : 0 < default) : ∃ n, 0 < n ∧ params.count name = .ok n := by
  obtain ⟨value, found, settled⟩ := complete.values _ own
  obtain ⟨n, positive, rfl⟩ := ParamSpec.positive_of_settles least settled
  have integer : params.integer name = .ok n := ParamSet.read_of_get? found rfl
  obtain ⟨m, rfl⟩ := Int.eq_ofNat_of_zero_le positive.le
  refine ⟨m, Int.natCast_pos.mp positive, ?_⟩
  rw [ParamSet.count, integer]
  rfl

end Schema.Completes

end PulseBench
