import PulseBench.Extraction.Methods
import PulseBench.Plugin.Selection
import PulseBench.Proofs.Exact
import PulseBench.Proofs.Measure.Blameless
import PulseBench.Proofs.Plugin.Schema

/-!
# What a selection remembers

A selection stores whole sets of parameters, one for each method, and every
successful call replaces one of them by a set that is merged from the old one and
from what the call gives. Seen from outside it is much simpler: a register for
each parameter of each method, that holds the last value given to it.

The registers are read off the calls alone. `stores` lists the calls that were
successful, each with the method that was selected when it stored, and `lastGiven`
is the last value in that list for a parameter of a method.

Results:
1. `setParameters_cases`, `setParameters_selects`: everything a call with parameters can do.
2. `parametersOf_after`: a call only reaches the method it stores for.
3. `Call.remembers`: one call adds its values to what is remembered.
4. `last_given_value_counts`: in every run, for every method of the registry.
-/

namespace PulseBench

variable {α κ : Type}

/-- The declarations of all methods are sound, and no parameter has the name that selects the
method. -/
def Registry.Sound [Scalar α] (r : Registry α κ) : Prop :=
  r.Every fun m => m.schema.Sound ∧ Selection.methodKey ∉ m.schema.names

namespace Selection

variable [Scalar α]

/-! ## Calls and what they give -/

/-- What a caller can do to a selection. -/
inductive Call (α : Type) where
  | setMethod (name : String)
  | setParameters (params : ParamSet α)

/-- Values that were stored, and the method that was selected then. -/
structure Store (α : Type) where
  method : String
  given : ParamSet α

namespace Call

/-- The selection behind a call, also if it fails. -/
def after : Call α → Selection α κ → Selection α κ
  | .setMethod name => (Selection.setMethod name).after
  | .setParameters params => (Selection.setParameters params).after

/-- What a call stores. -/
def store? : Call α → Selection α κ → Option (Store α)
  | .setMethod _, _ => none
  | .setParameters params, s =>
      match Selection.setParameters params s with
      | .ok _ s' => some ⟨s'.current, params⟩
      | .error _ _ => none

end Call

/-- The selection behind some calls. -/
def afterAll (calls : List (Call α)) (s : Selection α κ) : Selection α κ :=
  calls.foldl (fun s call => call.after s) s

/-- What some calls store, one after the other. -/
def stores : List (Call α) → Selection α κ → List (Store α)
  | [], _ => []
  | call :: rest, s => (call.store? s).toList ++ stores rest (call.after s)

/-- The last value that was stored under a key while a method was selected. -/
def lastGiven (log : List (Store α)) (method key : String) : Option (ParamValue α) :=
  (log.filterMap fun store =>
    if store.method = method then store.given.get? key else none).getLast?

omit [Scalar α] in
theorem lastGiven_concat (log : List (Store α)) (store : Store α) (method key : String) :
    lastGiven (log ++ [store]) method key =
      (if store.method = method then store.given.get? key else none).or
        (lastGiven log method key) := by
  unfold lastGiven
  rw [List.filterMap_append, List.getLast?_append]
  congr 1
  rw [List.filterMap_cons]
  cases (if store.method = method then store.given.get? key else none) <;> rfl

/-! ## 1. One call -/

/-- The given values over the known ones; the name that selects the method is left out. -/
def merge (known params : ParamSet α) : ParamSet α :=
  params.entries.foldl (fun merged (key, value) =>
    if key == methodKey then merged else merged.insert key value) known

omit [Scalar α] in
theorem get?_merge (known params : ParamSet α) {key : String} (other : key ≠ methodKey) :
    (merge known params).get? key = (params.get? key).or (known.get? key) := by
  obtain ⟨entries, nodup⟩ := params
  unfold merge Roster.get?
  dsimp only
  induction entries generalizing known with
  | nil => rfl
  | cons entry rest ih =>
    obtain ⟨own, value⟩ := entry
    rw [List.map_cons, List.nodup_cons] at nodup
    rw [List.foldl_cons, Roster.lookup_cons_eq, ih _ nodup.2]
    by_cases here : key = own
    · subst here
      rw [Roster.lookup_of_not_mem nodup.1, if_pos rfl, if_neg (by simpa using other)]
      exact known.get?_insert_self key value
    · rw [if_neg here]
      split
      · rfl
      · exact congrArg _ (known.get?_insert_of_ne value here)

/-- The part of a call with parameters that selects a method. -/
def selectGiven (params : ParamSet α) : Action α (Selection α κ) Unit :=
  match params.get? methodKey with
  | some (.text name) => setMethod name
  | some value => throw (.param (.methodNotText value))
  | none => pure ()

/-- What a call with parameters does once the method is selected. -/
def storeSelected (params : ParamSet α) : Action α (Selection α κ) (ParamSet α) := do
  let s ← get
  let m ← Action.lift s.method
  let known ← Action.lift s.parameters
  let resolved ← Action.lift (m.schema.resolve (merge known params))
  set { s with stored := s.stored.insert s.current resolved }
  return resolved

theorem storeSelected_cases (params : ParamSet α) (s : Selection α κ) :
    (∃ e, storeSelected params s = .error e s) ∨
    ∃ m known resolved, s.registry.find s.current = .ok m ∧ s.parametersOf s.current = .ok known ∧
      m.schema.resolve (merge known params) = .ok resolved ∧
      storeSelected params s =
        .ok resolved { s with stored := s.stored.insert s.current resolved } := by
  unfold storeSelected
  rw [Action.bind_of_ok (Action.get_apply s)]
  cases found : s.method with
  | error e => exact Or.inl ⟨e, Action.bind_of_error (Action.lift_error e s)⟩
  | ok m =>
    rw [Action.bind_of_ok (Action.lift_ok m s)]
    cases before : s.parameters with
    | error e => exact Or.inl ⟨e, Action.bind_of_error (Action.lift_error e s)⟩
    | ok known =>
      rw [Action.bind_of_ok (Action.lift_ok known s)]
      cases done : m.schema.resolve (merge known params) with
      | error e => exact Or.inl ⟨e, Action.bind_of_error (Action.lift_error e s)⟩
      | ok resolved => exact Or.inr ⟨m, known, resolved, found, before, done, rfl⟩

theorem setParameters_eq (params : ParamSet α) :
    (setParameters params : Action α (Selection α κ) (ParamSet α)) =
      (selectGiven params >>= fun _ => storeSelected params) := by
  unfold setParameters selectGiven
  rcases params.get? methodKey with _ | (_ | _ | _ | _) <;> rfl

omit [Scalar α] in
theorem setMethod_cases (name : String) (s : Selection α κ) :
    (∃ e, setMethod name s = .error e s) ∨ setMethod name s = .ok () { s with current := name } := by
  unfold setMethod
  rw [Action.bind_of_ok (Action.get_apply s)]
  split
  · exact Or.inr rfl
  · exact Or.inl ⟨_, rfl⟩

omit [Scalar α] in
theorem selectGiven_cases (params : ParamSet α) (s : Selection α κ) :
    (∃ e, selectGiven params s = .error e s) ∨
      ∃ current, selectGiven params s = .ok () { s with current } := by
  unfold selectGiven
  rcases params.get? methodKey with _ | (_ | _ | _ | name)
  · exact Or.inr ⟨s.current, rfl⟩
  · exact Or.inl ⟨_, rfl⟩
  · exact Or.inl ⟨_, rfl⟩
  · exact Or.inl ⟨_, rfl⟩
  · exact (setMethod_cases name s).imp_right fun done => ⟨name, done⟩

/-- Everything a call with parameters can do. It fails, and at most selects another method; or it
merges and resolves what it was given for the method that is selected then, and stores that. -/
theorem setParameters_cases (params : ParamSet α) (s : Selection α κ) :
    (∃ e current, setParameters params s = .error e { s with current }) ∨
    ∃ name m known resolved, s.registry.find name = .ok m ∧ s.parametersOf name = .ok known ∧
      m.schema.resolve (merge known params) = .ok resolved ∧
      setParameters params s =
        .ok resolved { s with current := name, stored := s.stored.insert name resolved } := by
  rw [setParameters_eq]
  rcases selectGiven_cases params s with ⟨e, failed⟩ | ⟨current, done⟩
  · exact Or.inl ⟨e, s.current, Action.bind_of_error failed⟩
  · rw [Action.bind_of_ok done]
    -- Selecting a method changes neither the registry nor any parameters.
    rcases storeSelected_cases params { s with current } with ⟨e, failed⟩ | stored
    · exact Or.inl ⟨e, current, failed⟩
    · exact Or.inr ⟨current, stored⟩

/-- A call that names a method selects that method, if it is successful. -/
theorem setParameters_selects {params : ParamSet α} {name : String}
    (asked : params.get? methodKey = some (.text name)) {s s' : Selection α κ}
    {resolved : ParamSet α} (done : setParameters params s = .ok resolved s') :
    ∃ m given, s.registry.find name = .ok m ∧ s'.method = .ok m ∧
      m.schema.resolve given = .ok resolved := by
  have selects : (selectGiven params : Action α (Selection α κ) Unit) = setMethod name := by
    rw [selectGiven, asked]
  rw [setParameters_eq, selects] at done
  rcases setMethod_cases name s with ⟨e, failed⟩ | selected
  · cases (Action.bind_of_error failed).symm.trans done
  · rw [Action.bind_of_ok selected] at done
    rcases storeSelected_cases params { s with current := name } with
      ⟨e, failed⟩ | ⟨m, known, own, found, -, fits, stored⟩
    · cases failed.symm.trans done
    · cases stored.symm.trans done
      exact ⟨m, _, found, found, fits⟩

/-- Everything a call can do. -/
theorem Call.cases (call : Call α) (s : Selection α κ) :
    (call.store? s = none ∧ ∃ current, call.after s = { s with current }) ∨
    ∃ name params m known resolved, call.store? s = some ⟨name, params⟩ ∧
      s.registry.find name = .ok m ∧ s.parametersOf name = .ok known ∧
      m.schema.resolve (merge known params) = .ok resolved ∧
      call.after s = { s with current := name, stored := s.stored.insert name resolved } := by
  cases call with
  | setMethod name =>
    refine Or.inl ⟨rfl, ?_⟩
    rcases setMethod_cases name s with ⟨e, failed⟩ | done
    · exact ⟨s.current, Action.after_of_error failed⟩
    · exact ⟨name, Action.after_of_ok done⟩
  | setParameters params =>
    rcases setParameters_cases params s with
      ⟨e, current, failed⟩ | ⟨name, m, known, resolved, found, before, fits, done⟩
    · refine Or.inl ⟨?_, current, Action.after_of_error failed⟩
      rw [store?, failed]
    · refine Or.inr ⟨name, params, m, known, resolved, ?_, found, before, fits,
        Action.after_of_ok done⟩
      rw [store?, done]

/-! ## 2. What a call reaches -/

theorem parametersOf_stored {s : Selection α κ} {name : String} {params : ParamSet α}
    {m : Method α κ} (found : s.registry.find name = .ok m)
    (known : s.stored.get? name = some params) : s.parametersOf name = m.schema.resolve params := by
  unfold parametersOf
  rw [found, ok_bind, known]

theorem parametersOf_congr {s t : Selection α κ} {name : String} (registry : t.registry = s.registry)
    (stored : t.stored.get? name = s.stored.get? name) : t.parametersOf name = s.parametersOf name := by
  unfold parametersOf
  rw [registry, stored]

theorem Call.after_registry (call : Call α) (s : Selection α κ) :
    (call.after s).registry = s.registry := by
  rcases call.cases s with ⟨-, current, done⟩ | ⟨name, params, m, known, resolved, -, -, -, -, done⟩
    <;> rw [done]

/-- A call only changes the parameters of the method that it stores for. -/
theorem parametersOf_after (call : Call α) (s : Selection α κ) {name : String}
    (other : ∀ store, call.store? s = some store → store.method ≠ name) :
    (call.after s).parametersOf name = s.parametersOf name := by
  refine parametersOf_congr (call.after_registry s) ?_
  rcases call.cases s with
    ⟨-, current, done⟩ | ⟨own, params, m, known, resolved, stored, -, -, -, done⟩
  · rw [done]
  · rw [done]
    exact Roster.get?_insert_of_ne _ _ (other _ stored).symm

/-! ## 3. What is remembered -/

/-- The parameters of every method are the last given values, over the declared defaults. -/
def Remembers (s : Selection α κ) (log : List (Store α)) : Prop :=
  ∀ name m, s.registry.find name = .ok m →
    ∃ params, s.parametersOf name = .ok params ∧ m.schema.Completes (lastGiven log name) params

/-- Values merged into a completed set and resolved: each parameter has its new value, or keeps
the old one. -/
theorem completes_merge {schema : Schema α} (sound : schema.Sound)
    (own : methodKey ∉ schema.names) {given : String → Option (ParamValue α)}
    {known params resolved : ParamSet α} (before : schema.Completes given known)
    (done : schema.resolve (merge known params) = .ok resolved) :
    schema.Completes (fun key => (params.get? key).or (given key)) resolved := by
  have after := (Schema.resolve_eq_ok_iff sound).mp done
  refine ⟨after.names, fun spec member => ?_⟩
  obtain ⟨value, found, settled⟩ := after.values spec member
  refine ⟨value, found, ?_⟩
  have other : spec.name ≠ methodKey := fun same => own (same ▸ List.mem_map_of_mem member)
  rw [get?_merge known params other] at settled
  cases asked : params.get? spec.name with
  | some asked => rwa [asked] at settled
  | none =>
    -- The old value is checked again, which does not change it.
    obtain ⟨old, kept, settledBefore⟩ := before.values spec member
    rw [asked, Option.none_or, kept] at settled
    have unchanged := settledBefore.check_self (sound.defaults spec member)
    rw [Option.none_or]
    exact Except.ok.inj (unchanged.symm.trans settled) ▸ settledBefore

/-- What one call stores is added to what is remembered. -/
theorem Call.remembers (call : Call α) {s : Selection α κ} (sound : s.registry.Sound)
    {log : List (Store α)} (h : Remembers s log) :
    Remembers (call.after s) (log ++ (call.store? s).toList) := by
  intro name m found
  rw [call.after_registry s] at found
  obtain ⟨params, before, complete⟩ := h name m found
  rcases call.cases s with
    ⟨stored, -⟩ | ⟨own, given, m', known, resolved, stored, found', known', fits, done⟩
  · rw [parametersOf_after call s (by rw [stored]; nofun), stored]
    exact ⟨params, before, by simpa using complete⟩
  · by_cases same : own = name
    · subst same
      cases found.symm.trans found'
      cases before.symm.trans known'
      obtain ⟨declared, named⟩ := Registry.every_of_find sound found
      have merged := completes_merge declared named complete fits
      refine ⟨resolved, ?_, ?_⟩
      · rw [done]
        refine Eq.trans (parametersOf_stored (m := m) ?_ ?_) (merged.resolve_self declared)
        · exact found
        · exact Roster.get?_insert_self _ _ _
      · rw [stored]
        refine ⟨merged.names, fun spec member => ?_⟩
        rw [Option.toList_some, lastGiven_concat, if_pos rfl]
        exact merged.values spec member
    · refine ⟨params, ?_, complete.names, fun spec member => ?_⟩
      · rw [parametersOf_after call s (by rw [stored]; rintro _ ⟨⟩; exact same)]
        exact before
      · rw [stored, Option.toList_some, lastGiven_concat, if_neg same, Option.none_or]
        exact complete.values spec member

/-! ## 4. Runs -/

theorem afterAll_registry (calls : List (Call α)) (s : Selection α κ) :
    (afterAll calls s).registry = s.registry := by
  induction calls generalizing s with
  | nil => rfl
  | cons call rest ih => exact (ih (call.after s)).trans (call.after_registry s)

theorem afterAll_remembers (calls : List (Call α)) {s : Selection α κ}
    (sound : s.registry.Sound) {log : List (Store α)} (h : Remembers s log) :
    Remembers (afterAll calls s) (log ++ stores calls s) := by
  induction calls generalizing s log with
  | nil => rwa [stores, List.append_nil]
  | cons call rest ih =>
    rw [stores, ← List.append_assoc]
    exact ih (call.after_registry s ▸ sound) (call.remembers sound h)

omit [Scalar α] in
/-- A new selection has stored nothing. -/
theorem ofRegistry_ok {registry : Registry α κ} {default : String} {s : Selection α κ}
    (made : ofRegistry registry default = .ok s) : s.registry = registry ∧ s.stored = ∅ := by
  unfold ofRegistry at made
  split at made
  · cases made
    exact ⟨rfl, rfl⟩
  · split at made
    · cases made
      exact ⟨rfl, rfl⟩
    · cases made

theorem remembers_nothing {s : Selection α κ} (sound : s.registry.Sound) (new : s.stored = ∅) :
    Remembers s [] := by
  intro name m found
  have distinct := (Registry.every_of_find sound found).1.distinct
  refine ⟨m.schema.defaults, ?_, Schema.defaults_completes distinct⟩
  unfold parametersOf
  rw [found, ok_bind, new, Roster.get?_empty]
  rfl

/-- In every run, each parameter of each method of the registry has the last value that was given
to it while its method was selected, or its default; and no call changes the parameters of a
method other than the one it stores for. -/
theorem last_given_value_counts {registry : Registry α κ} (sound : registry.Sound)
    {default : String} {s : Selection α κ} (made : ofRegistry registry default = .ok s)
    (calls : List (Call α)) :
    (∀ name m, registry.find name = .ok m → ∃ params,
      (afterAll calls s).parametersOf name = .ok params ∧
      params.names = m.schema.map ParamSpec.name ∧
      ∀ spec ∈ m.schema, ∃ value, params.get? spec.name = some value ∧
        spec.Settles value (lastGiven (stores calls s) name spec.name)) ∧
    ∀ (call : Call α) (name : String),
      (call.after (afterAll calls s)).parametersOf name ≠ (afterAll calls s).parametersOf name →
      ∃ store, call.store? (afterAll calls s) = some store ∧ store.method = name := by
  obtain ⟨same, new⟩ := ofRegistry_ok made
  have start := same.symm ▸ sound
  constructor
  · intro name m found
    have known : (afterAll calls s).registry.find name = .ok m := by
      rw [afterAll_registry, same]
      exact found
    obtain ⟨params, done, complete⟩ :=
      afterAll_remembers calls start (remembers_nothing start new) name m known
    exact ⟨params, done, complete.names, complete.values⟩
  · intro call name changed
    by_contra unstored
    exact changed (parametersOf_after call _ fun store stored same =>
      unstored ⟨store, stored, same⟩)

end Selection

/-! ## 5. The methods of extraction -/

/-- What can be read as a number within the declared bounds passes the check as that number. -/
theorem ParamSpec.real_check [Scalar α] (name unit : String) (default : α) {value : ParamValue α}
    {x low high : α} (read : value.number? = some x) (notBelow : ¬ x < low)
    (notAbove : ¬ high < x) (defined : Scalar.isNaN x = false) :
    (ParamSpec.real name unit default (.point low) (.point high)).check value = .ok (.real x) := by
  have inside : (ParamSpec.real name unit default (.point low) (.point high)).excludes x = false := by
    simp [ParamSpec.excludes, ParamSpec.real, Bound.below, Bound.above, notBelow, notAbove, defined]
  refine bind_eq_ok.mpr ⟨.real x, ?_, (if_neg (Bool.eq_false_iff.mp inside))⟩
  unfold ParamSpec.coerce
  dsimp only [ParamSpec.real]
  rw [read]
  rfl

/-- The extraction methods are declared soundly, in exact numbers. -/
theorem ExtractionMethod.registry_sound (extra : List String) :
    (registry extra : Registry ℚ (ExtractionRule ℚ)).Sound := by
  refine Registry.every_ofCatalogue (fun root member unit part methods loaded m own => ?_) _ _
  cases List.mem_singleton.mp member
  cases List.mem_singleton.mp part
  cases loaded
  have inside {name unit : String} {x low high : ℚ} (notBelow : low ≤ x) (notAbove : x ≤ high) :
      (ParamSpec.real name unit x (.point low) (.point high)).check
          (ParamSpec.real name unit x (.point low) (.point high)).default =
        .ok (ParamSpec.real name unit x (.point low) (.point high)).default :=
    ParamSpec.real_check name unit x rfl (not_lt.mpr notBelow) (not_lt.mpr notAbove) rfl
  simp only [basic, List.mem_cons, List.not_mem_nil, or_false] at own
  rcases own with rfl | rfl | rfl
  · refine ⟨⟨by decide, ?_⟩, by decide⟩
    simp only [Threshold.schema, windowSchema, List.cons_append, List.nil_append,
      List.forall_mem_cons]
    refine ⟨inside ?_ ?_, inside ?_ ?_, inside ?_ ?_, inside ?_ ?_, inside ?_ ?_,
      inside ?_ ?_, List.forall_mem_nil _⟩ <;> norm_num
  · refine ⟨⟨by decide, ?_⟩, by decide⟩
    simp only [windowSchema, List.forall_mem_cons]
    refine ⟨inside ?_ ?_, inside ?_ ?_, List.forall_mem_nil _⟩ <;> norm_num
  · refine ⟨⟨by decide, ?_⟩, by decide⟩
    simp only [Gates.schema, List.forall_mem_cons]
    refine ⟨inside ?_ ?_, List.forall_mem_nil _⟩ <;> norm_num

namespace Selection

/-- The selection that a measurement begins with. -/
def extracting : Selection ℚ (ExtractionRule ℚ) :=
  ⟨ExtractionMethod.registry [], "ungated_threshold", ∅⟩

/-- A width is given to the smoothing of gates, a text for that width is refused, and another width
is given while it belongs to no parameter of the selected method. -/
def widening : List (Call ℚ) :=
  [ .setParameters (.ofList [(methodKey, .text "gated_conv_deriv"), ("conv_std_dev", .int 7)]),
    .setParameters (.ofList [("conv_std_dev", .text "wide")]),
    .setMethod "ungated_threshold",
    .setParameters (.ofList [("conv_std_dev", .int 3), ("high_threshold", .real 0.75)]) ]

def isSeven : ParamValue ℚ → Bool
  | .int n => n == 7
  | _ => false

theorem eq_of_isSeven {given : ParamValue ℚ} (seven : isSeven given = true) : given = .int 7 := by
  cases given with
  | int n => rw [eq_of_beq seven]
  | _ => cases seven

/-- The width that counts is the one that was given to the smoothing. -/
theorem last_given_value_counts_widening :
    ofRegistry (ExtractionMethod.registry []) "ungated_threshold" = .ok extracting ∧
      ∃ params, (afterAll widening extracting).parametersOf "gated_conv_deriv" = .ok params ∧
        params.get? "conv_std_dev" = some (.real 7) := by
  have made : ofRegistry (ExtractionMethod.registry []) "ungated_threshold" = .ok extracting := rfl
  refine ⟨made, ?_⟩
  have each := (last_given_value_counts (ExtractionMethod.registry_sound []) made widening).1
  obtain ⟨params, done, -, values⟩ := each "gated_conv_deriv"
    ⟨"gated_conv_deriv", Gates.schema, .ofGates Gates.extract⟩ rfl
  obtain ⟨value, found, settled⟩ := values _ List.mem_cons_self
  have evaluated : (lastGiven (stores widening extracting) "gated_conv_deriv"
      "conv_std_dev").any isSeven = true := by decide +kernel
  obtain ⟨given, last, isSeven⟩ := (Option.any_eq_true _ _).mp evaluated
  change ParamSpec.Settles _ _ (lastGiven _ _ "conv_std_dev") at settled
  rw [last, eq_of_isSeven isSeven] at settled
  have seven : (ParamSpec.real "conv_std_dev" "bins" (20.0 : ℚ) (.point 0.0) (.point 1e5)).check
      (.int 7) = .ok (.real 7) :=
    ParamSpec.real_check _ _ _ rfl (by norm_num) (by norm_num) rfl
  have same : value = .real 7 := Except.ok.inj (settled.symm.trans seven)
  exact ⟨params, done, same ▸ found⟩

end Selection

end PulseBench
