import PulseBench.Param.Resolve
import PulseBench.Proofs.Outcome
import PulseBench.Proofs.Roster

/-!
# Completing parameters

`Schema.resolve` takes the given values in the order in which they were given,
and fails at the first one that does not fit its declaration. What it returns does
not depend on that order: for every declared name it is the checked value that was
given, or the default if none was given, and there are no other names.

Results:
1. `ParamSpec.check_checked`: a checked value passes its own check unchanged.
2. `Schema.completes_of_resolve`, `Schema.resolve_eq_ok_iff`: what `resolve` returns, and when
   it returns.
3. `Schema.Completes.resolve_self`: a completed set is completed to itself.
-/

namespace PulseBench

variable {α : Type} [Scalar α]

/-! ## 1. Single values -/

namespace ParamSpec

/-- A value that was brought to the declared type is of that type. -/
theorem coerce_coerced {spec : ParamSpec α} {value coerced : ParamValue α}
    (h : spec.coerce value = .ok coerced) : spec.coerce coerced = .ok coerced := by
  unfold coerce at h ⊢
  cases kind : spec.kind with
  | real =>
    rw [kind] at h
    cases read : value.number? <;> rw [read] at h <;> cases h
    rfl
  | int =>
    rw [kind] at h
    cases read : value.integer? <;> rw [read] at h <;> cases h
    rfl
  | bool =>
    rw [kind] at h
    cases read : value.truth? <;> rw [read] at h <;> cases h
    rfl
  | text =>
    rw [kind] at h
    cases read : value.string? <;> rw [read] at h <;> cases h
    rfl
  | choice options =>
    rw [kind] at h
    obtain ⟨s, -, chosen⟩ := bind_eq_ok.mp h
    split at chosen
    · rename_i offered
      cases chosen
      exact if_pos offered
    · cases chosen

/-- Checking a value a second time changes nothing. -/
theorem check_checked {spec : ParamSpec α} {value checked : ParamValue α}
    (h : spec.check value = .ok checked) : spec.check checked = .ok checked := by
  obtain ⟨coerced, typed, bounded⟩ := bind_eq_ok.mp h
  -- The bounds are held against the value in its declared type, which is the result.
  have same : coerced = checked := by
    split at bounded
    · split at bounded
      · cases bounded
      · exact Except.ok.inj bounded
    · exact Except.ok.inj bounded
  subst same
  exact bind_eq_ok.mpr ⟨coerced, coerce_coerced typed, bounded⟩

/-- The value a parameter ends up with: what was given, in the declared type and within the
bounds, or the default if nothing was given. -/
def Settles (spec : ParamSpec α) (value : ParamValue α) : Option (ParamValue α) → Prop
  | some given => spec.check given = .ok value
  | none => value = spec.default

theorem Settles.unique {spec : ParamSpec α} {value other : ParamValue α}
    {given : Option (ParamValue α)} (h : spec.Settles value given)
    (also : spec.Settles other given) : value = other := by
  cases given with
  | none => exact h.trans also.symm
  | some given => exact Except.ok.inj (h.symm.trans also)

/-- A settled value passes its own check, if the default does. -/
theorem Settles.check_self {spec : ParamSpec α} {value : ParamValue α}
    {given : Option (ParamValue α)} (sound : spec.check spec.default = .ok spec.default)
    (h : spec.Settles value given) : spec.check value = .ok value := by
  cases given with
  | none => exact h ▸ sound
  | some given => exact check_checked h

end ParamSpec

/-! ## 2. Declared sets -/

namespace Schema

/-- The declared names in declared order. -/
def names (schema : Schema α) : List String := schema.map ParamSpec.name

/-- No name is declared twice, and every default passes its own check as it is. -/
structure Sound (schema : Schema α) : Prop where
  distinct : (schema.names).Nodup
  defaults : ∀ spec ∈ schema, spec.check spec.default = .ok spec.default

/-- A set of parameters has the declared names in declared order, each with the value that `given`
settles it to. -/
structure Completes (schema : Schema α) (given : String → Option (ParamValue α))
    (params : ParamSet α) : Prop where
  names : params.names = schema.names
  values : ∀ spec ∈ schema, ∃ value,
    params.get? spec.name = some value ∧ spec.Settles value (given spec.name)

variable {schema : Schema α} {given : String → Option (ParamValue α)} {params : ParamSet α}

omit [Scalar α] in
theorem find?_of_mem (distinct : (schema.names).Nodup) {spec : ParamSpec α} (own : spec ∈ schema) :
    schema.find? spec.name = some spec := by
  unfold find?
  induction schema with
  | nil => exact absurd own List.not_mem_nil
  | cons first rest ih =>
    rw [names, List.map_cons, List.nodup_cons] at distinct
    rcases List.mem_cons.mp own with rfl | later
    · exact List.find?_cons_of_pos (beq_self_eq_true _)
    · refine (List.find?_cons_of_neg ?_).trans (ih distinct.2 later)
      rw [beq_iff_eq]
      exact fun same => distinct.1 (same ▸ List.mem_map_of_mem later)

omit [Scalar α] in
theorem of_find? {key : String} {spec : ParamSpec α} (found : schema.find? key = some spec) :
    spec ∈ schema ∧ spec.name = key := by
  unfold find? at found
  have named := List.find?_some found
  exact ⟨List.mem_of_find?_eq_some found, beq_iff_eq.mp named⟩

omit [Scalar α] in
theorem find?_eq_none_iff {key : String} : schema.find? key = none ↔ key ∉ schema.names := by
  rw [find?, List.find?_eq_none, names, List.mem_map]
  constructor
  · rintro absent ⟨spec, own, rfl⟩
    exact absent spec own (beq_self_eq_true _)
  · exact fun absent spec own same => absent ⟨spec, own, beq_iff_eq.mp same⟩

/-- Two sets that are completed from the same values are the same. -/
theorem Completes.unique {other : ParamSet α} (h : schema.Completes given params)
    (also : schema.Completes given other) : params = other := by
  refine Roster.ext_names (h.names.trans also.names.symm) fun name => ?_
  by_cases declared : name ∈ schema.names
  · obtain ⟨spec, own, rfl⟩ := List.mem_map.mp declared
    obtain ⟨value, found, settled⟩ := h.values spec own
    obtain ⟨value', found', settled'⟩ := also.values spec own
    rw [found, found', settled.unique settled']
  · -- Neither set has any other names.
    have absent {params : ParamSet α} (same : params.names = schema.names) :
        params.get? name = none := by
      rw [Option.eq_none_iff_forall_ne_some]
      exact fun value found => declared (same ▸ Roster.mem_names_iff.mpr ⟨value, found⟩)
    rw [absent h.names, absent also.names]

/-- The defaults complete nothing at all. -/
theorem defaults_completes (distinct : (schema.names).Nodup) :
    schema.Completes (fun _ => none) schema.defaults := by
  have entries : schema.defaults.entries = schema.map fun spec => (spec.name, spec.default) := by
    have nodup : ((schema.map fun spec => (spec.name, spec.default)).map Prod.fst).Nodup := by
      rw [List.map_map]
      exact distinct
    rw [Schema.defaults, Roster.ofList, Roster.entries_foldl_insert _ _ nodup]
    rfl
  refine ⟨?_, fun spec own => ⟨spec.default, ?_, rfl⟩⟩
  · rw [Roster.names, entries, List.map_map]
    rfl
  · rw [← Roster.mem_entries_iff, entries]
    exact List.mem_map_of_mem own

/-! ### Laying values over others -/

/-- One given value over the ones before, as `resolve` lays it. -/
def overlay (schema : Schema α) (resolved : ParamSet α) (entry : String × ParamValue α) :
    Except (Failure α) (ParamSet α) :=
  match schema.find? entry.1 with
  | some spec => do return resolved.insert entry.1 (← spec.check entry.2)
  | none => return resolved

theorem resolve_eq (schema : Schema α) (given : ParamSet α) :
    schema.resolve given = given.entries.foldlM (overlay schema) schema.defaults := rfl

/-- Values that all fit can be laid over any others. -/
theorem overlays_ok {entries : List (String × ParamValue α)}
    (fit : ∀ spec ∈ schema, ∀ value, (spec.name, value) ∈ entries →
      ∃ checked, spec.check value = .ok checked) (base : ParamSet α) :
    ∃ params, entries.foldlM (overlay schema) base = .ok params := by
  induction entries generalizing base with
  | nil => exact ⟨base, rfl⟩
  | cons entry rest ih =>
    have others := ih fun spec own value member =>
      fit spec own value (List.mem_cons_of_mem _ member)
    obtain ⟨key, value⟩ := entry
    rw [List.foldlM_cons, overlay]
    dsimp only
    cases known : schema.find? key with
    | none => exact others base
    | some spec =>
      obtain ⟨own, same⟩ := of_find? known
      obtain ⟨checked, done⟩ := fit spec own value (same ▸ List.mem_cons_self)
      simp only [done, ok_bind]
      exact others _

/-- Laid over others, each given value takes the place of the one before; the names stay. -/
theorem overlays_values (distinct : (schema.names).Nodup) {entries : List (String × ParamValue α)}
    (nodup : (entries.map Prod.fst).Nodup) {base : ParamSet α}
    (h : base.names = schema.names)
    (done : entries.foldlM (overlay schema) base = .ok params) :
    params.names = schema.names ∧ ∀ spec ∈ schema,
      (∀ value, entries.lookup spec.name = some value →
        ∃ checked, params.get? spec.name = some checked ∧ spec.check value = .ok checked) ∧
      (entries.lookup spec.name = none → params.get? spec.name = base.get? spec.name) := by
  induction entries generalizing base with
  | nil =>
    cases done
    exact ⟨h, fun spec own => ⟨nofun, fun _ => rfl⟩⟩
  | cons entry rest ih =>
    obtain ⟨key, value⟩ := entry
    rw [List.map_cons, List.nodup_cons] at nodup
    rw [List.foldlM_cons, overlay] at done
    dsimp only at done
    cases known : schema.find? key with
    | none =>
      rw [known] at done
      obtain ⟨order, each⟩ := ih nodup.2 h done
      refine ⟨order, fun spec own => ?_⟩
      have other : spec.name ≠ key := fun same =>
        find?_eq_none_iff.mp known (same ▸ List.mem_map_of_mem own)
      rw [Roster.lookup_cons_eq, if_neg other]
      exact each spec own
    | some found =>
      rw [known, bind_eq_ok] at done
      obtain ⟨laid, first, done⟩ := done
      obtain ⟨checked, fits, first⟩ := bind_eq_ok.mp first
      cases first
      have declared : key ∈ base.names := by
        obtain ⟨own, named⟩ := of_find? known
        rw [h, ← named]
        exact List.mem_map_of_mem own
      have kept : (base.insert key checked).names = schema.names := by
        rw [← h]
        exact (Roster.map_fst_put _ _ _).trans (if_pos declared)
      obtain ⟨order, each⟩ := ih nodup.2 kept done
      refine ⟨order, fun spec own => ?_⟩
      rw [Roster.lookup_cons_eq]
      obtain ⟨given, absent⟩ := each spec own
      by_cases same : spec.name = key
      · -- The name stands nowhere else among the given values.
        have last := Roster.lookup_of_not_mem nodup.1
        have this : found = spec := by
          have search := find?_of_mem distinct own
          rw [same, known] at search
          exact Option.some.inj search
        subst this
        rw [if_pos same]
        refine ⟨?_, nofun⟩
        rintro _ ⟨⟩
        refine ⟨checked, ?_, fits⟩
        rw [absent (same ▸ last), Roster.get?_insert, if_pos same]
      · rw [if_neg same]
        rw [Roster.get?_insert_of_ne _ _ same] at absent
        exact ⟨given, absent⟩

/-- What resolving returns. -/
theorem completes_of_resolve (distinct : (schema.names).Nodup) {given : ParamSet α}
    (done : schema.resolve given = .ok params) : schema.Completes given.get? params := by
  have plain := defaults_completes distinct
  rw [resolve_eq] at done
  obtain ⟨order, each⟩ := overlays_values distinct given.nodup plain.names done
  refine ⟨order, fun spec own => ?_⟩
  obtain ⟨laid, absent⟩ := each spec own
  cases known : given.get? spec.name with
  | none =>
    obtain ⟨value, found, settled⟩ := plain.values spec own
    exact ⟨value, (absent known).trans found, settled⟩
  | some value => exact laid value known

/-- And when it does. -/
theorem resolve_eq_ok_iff (sound : schema.Sound) {given : ParamSet α} :
    schema.resolve given = .ok params ↔ schema.Completes given.get? params := by
  refine ⟨completes_of_resolve sound.distinct, fun h => ?_⟩
  obtain ⟨resolved, done⟩ : ∃ resolved, schema.resolve given = .ok resolved := by
    rw [resolve_eq]
    refine overlays_ok (fun spec own value member => ?_) schema.defaults
    obtain ⟨checked, -, settled⟩ := h.values spec own
    rw [Roster.mem_entries_iff.mp member] at settled
    exact ⟨checked, settled⟩
  rw [done, (completes_of_resolve sound.distinct done).unique h]

/-! ## 3. Completed sets -/

/-- Resolving a completed set gives it back. -/
theorem Completes.resolve_self (sound : schema.Sound) (h : schema.Completes given params) :
    schema.resolve params = .ok params := by
  refine (resolve_eq_ok_iff sound).mpr ⟨h.names, fun spec own => ?_⟩
  obtain ⟨value, found, settled⟩ := h.values spec own
  refine ⟨value, found, ?_⟩
  rw [found]
  exact settled.check_self (sound.defaults spec own)

end Schema

end PulseBench
