import PulseBench.Plugin.Selection

/-!
# Outcomes of calculations and actions

A calculation of type `Except` either gives a value or fails; an `Action` does
the same and changes a state on the way, also when it fails. The lemmas here
take both apart step by step, so that no proof has to look inside the monads.

Results:
1. `bind_eq_ok`, `mapM_of_forall_ok`, `forall_ok_of_mapM`, `forM_eq_ok`: what success
   of a calculation says about its steps, and the other way round. `bind_eq_map`, `ite_eq_map`:
   two calculations that go the same way.
2. `Action.bind_of_ok`, `Action.bind_of_error`, `Action.bind_ok_iff`, `Action.bind_error_iff`,
   `Action.foldlM_outcome`: one step of an action, and a loop of them.
3. `Action.Moves`: a relation between the states before and behind an action that
   holds whatever comes of it. It is passed on along steps and loops, and to the step at
   which a loop fails (`Action.foldlM_eq_error`).
-/

namespace PulseBench

/-! ## 1. Calculations -/

section Calculations

variable {ε β γ : Type}

@[simp] theorem ok_bind (b : β) (f : β → Except ε γ) : (Except.ok b >>= f) = f b := rfl

@[simp] theorem error_bind (e : ε) (f : β → Except ε γ) :
    (Except.error e >>= f) = .error e := rfl

theorem bind_eq_ok {x : Except ε β} {f : β → Except ε γ} {c : γ} :
    (x >>= f) = .ok c ↔ ∃ b, x = .ok b ∧ f b = .ok c := by
  cases x with
  | error e => simp [bind, Except.bind]
  | ok b => simp [bind, Except.bind]

theorem bind_eq_error {x : Except ε β} {f : β → Except ε γ} {e : ε} :
    (x >>= f) = .error e ↔ x = .error e ∨ ∃ b, x = .ok b ∧ f b = .error e := by
  cases x with
  | error e' => simp [bind, Except.bind]
  | ok b => simp [bind, Except.bind]

/-- Two calculations with the same step whose rests differ by `g`. -/
theorem bind_eq_map {δ : Type} {x : Except ε β} {f : β → Except ε γ} {f' : β → Except ε δ}
    {g : δ → γ} (rest : ∀ b, f b = (f' b).map g) : (x >>= f) = (x >>= f').map g := by
  cases x with
  | error e => rfl
  | ok b => exact rest b

/-- Two calculations that branch alike and differ by `g` in both branches. -/
theorem ite_eq_map {p q : Prop} [Decidable p] [Decidable q] (same : p ↔ q) {x y : Except ε γ}
    {x' y' : Except ε β} {g : β → γ} (first : x = x'.map g) (second : y = y'.map g) :
    (if p then x else y) = (if q then x' else y').map g := by
  by_cases h : q
  · rw [if_pos h, if_pos (same.mpr h), first]
  · rw [if_neg h, if_neg (mt same.mp h), second]

theorem toOption_eq_some {x : Except ε β} {b : β} : x.toOption = some b ↔ x = .ok b := by
  cases x with
  | error e => simp [Except.toOption]
  | ok b => simp [Except.toOption]

/-- A value that may be missing. -/
theorem elim_eq_ok {found : Option β} {e : ε} {b : β} :
    found.elim (.error e) Except.ok = .ok b ↔ found = some b := by
  cases found with
  | none => simp
  | some b => simp

/-- A list of outcomes fails with its first failure. -/
theorem mapM_ok_cons {f : β → Except ε γ} {b : β} {rest : List β} {out : List γ}
    (h : (b :: rest).mapM f = .ok out) :
    ∃ c tail, f b = .ok c ∧ rest.mapM f = .ok tail ∧ out = c :: tail := by
  rw [List.mapM_cons, bind_eq_ok] at h
  obtain ⟨c, first, others⟩ := h
  rw [bind_eq_ok] at others
  obtain ⟨tail, others, same⟩ := others
  cases same
  exact ⟨c, tail, first, others, rfl⟩

theorem mapM_congr {f g : β → Except ε γ} {items : List β} (h : ∀ b ∈ items, f b = g b) :
    items.mapM f = items.mapM g := by
  induction items with
  | nil => rfl
  | cons b rest ih =>
    rw [List.mapM_cons, List.mapM_cons, h b List.mem_cons_self,
      ih fun d member => h d (List.mem_cons_of_mem _ member)]

/-- If every item succeeds then so does the list. -/
theorem mapM_of_forall_ok {f : β → Except ε γ} {items : List β}
    (h : ∀ b ∈ items, ∃ c, f b = .ok c) :
    items.mapM f = .ok (items.filterMap fun b => (f b).toOption) := by
  induction items with
  | nil => rfl
  | cons b rest ih =>
    obtain ⟨c, first⟩ := h b List.mem_cons_self
    have others := ih fun d member => h d (List.mem_cons_of_mem _ member)
    rw [List.mapM_cons, first, others, List.filterMap_cons, first]
    rfl

theorem mapM_of_forall_eq {f : β → Except ε γ} {g : β → γ} {items : List β}
    (h : ∀ b ∈ items, f b = .ok (g b)) : items.mapM f = .ok (items.map g) := by
  induction items with
  | nil => rfl
  | cons b rest ih =>
    have others := ih fun d member => h d (List.mem_cons_of_mem _ member)
    rw [List.mapM_cons, h b List.mem_cons_self, others]
    rfl

/-- If the list succeeds then so does every item. -/
theorem forall_ok_of_mapM {f : β → Except ε γ} {items : List β} {out : List γ}
    (h : items.mapM f = .ok out) : ∀ b ∈ items, ∃ c, f b = .ok c := by
  induction items generalizing out with
  | nil => exact fun _ member => absurd member List.not_mem_nil
  | cons b rest ih =>
    obtain ⟨c, tail, first, others, -⟩ := mapM_ok_cons h
    intro d member
    rcases List.mem_cons.mp member with rfl | later
    · exact ⟨c, first⟩
    · exact ih others d later

/-- Otherwise some item fails. -/
theorem mapM_eq_error {f : β → Except ε γ} {items : List β} {e : ε}
    (h : items.mapM f = .error e) : ∃ b ∈ items, f b = .error e := by
  induction items with
  | nil => cases h
  | cons b rest ih =>
    rw [List.mapM_cons, bind_eq_error] at h
    rcases h with first | ⟨c, -, others⟩
    · exact ⟨b, List.mem_cons_self, first⟩
    · rcases bind_eq_error.mp others with others | ⟨_, -, made⟩
      · obtain ⟨d, member, failed⟩ := ih others
        exact ⟨d, List.mem_cons_of_mem _ member, failed⟩
      · cases made

/-- Checks of a list succeed if each of them does. -/
theorem forM_eq_ok {f : β → Except ε Unit} {items : List β} :
    items.forM f = .ok ⟨⟩ ↔ ∀ b ∈ items, f b = .ok ⟨⟩ := by
  induction items with
  | nil => exact ⟨fun _ _ member => absurd member List.not_mem_nil, fun _ => rfl⟩
  | cons b rest ih =>
    change (f b >>= fun _ => rest.forM f) = .ok ⟨⟩ ↔ _
    rw [bind_eq_ok, List.forall_mem_cons, ← ih]
    exact ⟨fun ⟨_, first, others⟩ => ⟨first, others⟩, fun ⟨first, others⟩ => ⟨_, first, others⟩⟩

/-- Otherwise they fail as one of them does. -/
theorem forM_eq_error {f : β → Except ε Unit} {items : List β} {e : ε}
    (h : items.forM f = .error e) : ∃ b ∈ items, f b = .error e := by
  induction items with
  | nil => cases h
  | cons b rest ih =>
    replace h : (f b >>= fun _ => rest.forM f) = .error e := h
    rw [bind_eq_error] at h
    rcases h with first | ⟨_, -, others⟩
    · exact ⟨b, List.mem_cons_self, first⟩
    · obtain ⟨d, member, failed⟩ := ih others
      exact ⟨d, List.mem_cons_of_mem _ member, failed⟩

end Calculations

namespace Action

/-! ## 2. Single steps -/

section Steps

variable {α σ β γ : Type}

theorem bind_of_ok {act : Action α σ β} {next : β → Action α σ γ} {s s' : σ} {b : β}
    (h : act s = .ok b s') : (act >>= next) s = next b s' := by
  change EStateM.bind act next s = next b s'
  rw [EStateM.bind, h]

theorem bind_of_error {act : Action α σ β} {next : β → Action α σ γ} {s s' : σ}
    {e : Failure α} (h : act s = .error e s') : (act >>= next) s = .error e s' := by
  change EStateM.bind act next s = .error e s'
  rw [EStateM.bind, h]

/-- Both steps of what succeeds do. -/
theorem bind_ok_iff {act : Action α σ β} {next : β → Action α σ γ} {s u : σ} {c : γ} :
    (act >>= next) s = .ok c u ↔ ∃ b t, act s = .ok b t ∧ next b t = .ok c u := by
  cases ran : act s with
  | ok b t =>
    rw [bind_of_ok ran]
    exact ⟨fun done => ⟨b, t, rfl, done⟩, by rintro ⟨_, _, ⟨⟩, done⟩; exact done⟩
  | error f t =>
    rw [bind_of_error ran]
    exact ⟨nofun, by rintro ⟨_, _, ⟨⟩, -⟩⟩

/-- What fails does so at its first step or behind it. -/
theorem bind_error_iff {act : Action α σ β} {next : β → Action α σ γ} {s u : σ}
    {e : Failure α} :
    (act >>= next) s = .error e u ↔
      act s = .error e u ∨ ∃ b t, act s = .ok b t ∧ next b t = .error e u := by
  cases ran : act s with
  | ok b t =>
    rw [bind_of_ok ran]
    refine ⟨fun failed => Or.inr ⟨b, t, rfl, failed⟩, ?_⟩
    rintro (failed | ⟨_, _, ⟨⟩, failed⟩)
    · cases failed
    · exact failed
  | error f t =>
    rw [bind_of_error ran]
    constructor
    · rintro ⟨⟩
      exact Or.inl rfl
    · rintro (failed | ⟨_, _, ⟨⟩, -⟩)
      cases failed
      rfl

/-- Calculations made one after the other are one calculation. -/
theorem lift_bind (outcome : Except (Failure α) β) (next : β → Except (Failure α) γ) :
    (lift (outcome >>= next) : Action α σ γ) = lift outcome >>= fun b => lift (next b) := by
  cases outcome with
  | error e => rfl
  | ok b => rfl

/-- A calculation inside an action does not touch the state. -/
theorem lift_bind_ok_iff {outcome : Except (Failure α) β} {next : β → Action α σ γ} {s u : σ}
    {c : γ} :
    (lift outcome >>= next) s = .ok c u ↔ ∃ b, outcome = .ok b ∧ next b s = .ok c u := by
  rw [bind_ok_iff]
  cases outcome with
  | error e =>
    constructor
    · rintro ⟨_, _, ⟨⟩, -⟩
    · rintro ⟨_, ⟨⟩, -⟩
  | ok b =>
    constructor
    · rintro ⟨_, _, ⟨⟩, done⟩
      exact ⟨b, rfl, done⟩
    · rintro ⟨_, ⟨⟩, done⟩
      exact ⟨b, s, rfl, done⟩

theorem map_of_ok {f : β → γ} {act : Action α σ β} {s s' : σ} {b : β} (h : act s = .ok b s') :
    (f <$> act) s = .ok (f b) s' := by
  rw [map_eq_pure_bind, bind_of_ok h]
  rfl

theorem map_of_error {f : β → γ} {act : Action α σ β} {s s' : σ} {e : Failure α}
    (h : act s = .error e s') : (f <$> act) s = .error e s' := by
  rw [map_eq_pure_bind, bind_of_error h]

/-- What succeeds needs no handler. -/
theorem tryCatch_of_ok {act : Action α σ β} {handler : Failure α → Action α σ β} {s s' : σ}
    {b : β} (h : act s = .ok b s') : (tryCatch act handler) s = .ok b s' := by
  change EStateM.tryCatch act handler s = .ok b s'
  delta EStateM.tryCatch
  rw [h]

/-- What fails leaves its state to the handler. -/
theorem tryCatch_of_error {act : Action α σ β} {handler : Failure α → Action α σ β} {s s' : σ}
    {e : Failure α} (h : act s = .error e s') : (tryCatch act handler) s = handler e s' := by
  change EStateM.tryCatch act handler s = handler e s'
  delta EStateM.tryCatch
  rw [h]
  rfl

/-- The outcome of what succeeds. -/
theorem outcome_of_ok {act : Action α σ β} {s s' : σ} {b : β} (h : act s = .ok b s') :
    outcome act s = .ok (.ok b) s' := by
  rw [outcome, h]

/-- The outcome of what fails. -/
theorem outcome_of_error {act : Action α σ β} {s s' : σ} {e : Failure α}
    (h : act s = .error e s') : outcome act s = .ok (.error e) s' := by
  rw [outcome, h]

/-- The action gives a value in a state. -/
def Succeeds (act : Action α σ β) (s : σ) : Prop := ∃ b s', act s = .ok b s'

@[simp] theorem pure_apply (b : β) (s : σ) : (pure b : Action α σ β) s = .ok b s := rfl

@[simp] theorem throw_apply (e : Failure α) (s : σ) : (throw e : Action α σ β) s = .error e s := rfl

@[simp] theorem get_apply (s : σ) : (get : Action α σ σ) s = .ok s s := rfl

@[simp] theorem set_apply (s s' : σ) : (set s' : Action α σ PUnit) s = .ok ⟨⟩ s' := rfl

@[simp] theorem modify_apply (f : σ → σ) (s : σ) :
    (modify f : Action α σ PUnit) s = .ok ⟨⟩ (f s) := rfl

@[simp] theorem lift_ok (b : β) (s : σ) : (lift (.ok b) : Action α σ β) s = .ok b s := rfl

@[simp] theorem lift_error (e : Failure α) (s : σ) :
    (lift (.error e) : Action α σ β) s = .error e s := rfl

/-- An action on a value that may be missing is one on a list of at most one. -/
theorem forM_toList (b : Option β) (act : β → Action α σ PUnit) :
    b.toList.forM act = b.forM act := by
  cases b with
  | none => rfl
  | some b => exact bind_pure_unit

/-- A loop that keeps an invariant at every step either ends with it or fails at some step. -/
theorem foldlM_outcome {items : List β} (act : γ → β → Action α σ γ) {P : γ → σ → Prop}
    {E : σ → Prop}
    (each : ∀ b ∈ items, ∀ c s, P c s →
      (∃ c' s', act c b s = .ok c' s' ∧ P c' s') ∨ ∃ e s', act c b s = .error e s' ∧ E s')
    {c : γ} {s : σ} (start : P c s) :
    (∃ c' s', items.foldlM act c s = .ok c' s' ∧ P c' s') ∨
      ∃ e s', items.foldlM act c s = .error e s' ∧ E s' := by
  induction items generalizing c s with
  | nil => exact Or.inl ⟨c, s, rfl, start⟩
  | cons b rest ih =>
    rw [List.foldlM_cons]
    rcases each b List.mem_cons_self c s start with ⟨c', s', done, kept⟩ | ⟨e, s', failed, known⟩
    · rw [bind_of_ok done]
      exact ih (fun d member => each d (List.mem_cons_of_mem _ member)) kept
    · exact Or.inr ⟨e, s', bind_of_error failed, known⟩

end Steps

/-! ## 3. Whatever comes of it -/

section Moves

variable {α σ β γ : Type}

/-- The state behind an action, also if it fails. -/
def after (act : Action α σ β) (s : σ) : σ := (act.run s).2

theorem after_of_ok {act : Action α σ β} {s s' : σ} {b : β} (h : act s = .ok b s') :
    act.after s = s' := by
  rw [after, Action.run, h]

theorem after_of_error {act : Action α σ β} {s s' : σ} {e : Failure α}
    (h : act s = .error e s') : act.after s = s' := by
  rw [after, Action.run, h]

/-- A run that gives no value has failed. -/
theorem error_of_run {act : Action α σ β} {s : σ}
    (nothing : (act.run s).1.toOption.isNone = true) : ∃ e, act s = .error e (act.after s) := by
  cases ran : act s with
  | ok b s' => rw [Action.run, ran] at nothing; cases nothing
  | error e s' => exact ⟨e, by rw [after_of_error ran]⟩

/-- Leaving the answer of an action aside does not change the state behind it. -/
theorem after_discard (act : Action α σ β) (s : σ) :
    (do let _ ← act : Action α σ Unit).after s = act.after s := by
  cases done : act s with
  | ok b s' =>
    rw [after_of_ok done]
    exact after_of_ok (bind_of_ok done)
  | error e s' =>
    rw [after_of_error done]
    exact after_of_error (bind_of_error done)

/-- Nor does changing it. -/
theorem after_map (f : β → γ) (act : Action α σ β) (s : σ) : (f <$> act).after s = act.after s := by
  rw [map_eq_pure_bind]
  cases done : act s with
  | ok b s' =>
    rw [after_of_ok done]
    exact after_of_ok (bind_of_ok done)
  | error e s' =>
    rw [after_of_error done]
    exact after_of_error (bind_of_error done)

/-- A part of the state is the same. -/
def Same (part : σ → β) (before after : σ) : Prop := part after = part before

theorem Same.refl (part : σ → β) (s : σ) : Same part s s := rfl

theorem Same.trans (part : σ → β) (s t u : σ) (first : Same part s t) (second : Same part t u) :
    Same part s u := Eq.trans second first

/-- The states before and behind an action are related, whatever comes of it. -/
def Moves (R : σ → σ → Prop) (act : Action α σ β) : Prop := ∀ s, R s (act.after s)

variable {R : σ → σ → Prop}

theorem Moves.of_ok {act : Action α σ β} (moves : Moves R act) {s s' : σ} {b : β}
    (done : act s = .ok b s') : R s s' :=
  after_of_ok done ▸ moves s

theorem Moves.modify {f : σ → σ} (h : ∀ s, R s (f s)) :
    Moves R (modify f : Action α σ PUnit) := h

/-- The rest of an action may depend on the state it starts in. -/
theorem Moves.get_bind {next : σ → Action α σ β} (h : ∀ s, R s ((next s).after s)) :
    Moves R (MonadState.get >>= next) := h

theorem Moves.lift (refl : ∀ s, R s s) (outcome : Except (Failure α) β) :
    Moves R (Action.lift outcome : Action α σ β) := by
  intro s
  cases outcome with
  | ok b => exact refl s
  | error e => exact refl s

/-- A calculation leaves the state to the rest of an action. -/
theorem lift_bind_after {s : σ} (refl : R s s) (outcome : Except (Failure α) β)
    {next : β → Action α σ γ} (rest : ∀ b, outcome = .ok b → R s ((next b).after s)) :
    R s ((Action.lift outcome >>= next).after s) := by
  cases outcome with
  | ok b => exact rest b rfl
  | error e => exact refl

/-- So does looking at the state. -/
theorem get_bind_after {P : σ → Prop} {next : σ → Action α σ β} {s : σ}
    (rest : P ((next s).after s)) : P ((MonadState.get >>= next).after s) := rest

/-- What holds behind the first step, also if it fails, is left to the rest of an action. -/
theorem bind_after {P : σ → Prop} {act : Action α σ β} {next : β → Action α σ γ} {s : σ}
    (first : P (act.after s)) (rest : ∀ b t, P t → P ((next b).after t)) :
    P ((act >>= next).after s) := by
  cases done : act s with
  | error e t =>
    rw [after_of_error done] at first
    rwa [after_of_error (bind_of_error done)]
  | ok b t =>
    rw [after_of_ok done] at first
    rw [after, Action.run, bind_of_ok done]
    exact rest b t first

theorem Moves.bind (trans : ∀ s t u, R s t → R t u → R s u) {act : Action α σ β}
    {next : β → Action α σ γ} (first : Moves R act) (rest : ∀ b, Moves R (next b)) :
    Moves R (act >>= next) := fun s =>
  bind_after (first s) fun b t moved => trans s t _ moved (rest b t)

theorem Moves.map {act : Action α σ β} (h : Moves R act) (f : β → γ) : Moves R (f <$> act) := by
  intro s
  rw [after_map]
  exact h s

theorem Moves.tryCatch (trans : ∀ s t u, R s t → R t u → R s u) {act : Action α σ β}
    {handler : Failure α → Action α σ β} (first : Moves R act) (other : ∀ e, Moves R (handler e)) :
    Moves R (tryCatch act handler) := by
  intro s
  have step := first s
  cases done : act s with
  | ok b s' =>
    rw [after_of_ok done] at step
    rw [after_of_ok (tryCatch_of_ok done)]
    exact step
  | error e s' =>
    rw [after_of_error done] at step
    have handled := other e s'
    rw [after, Action.run, tryCatch_of_error done]
    exact trans s s' _ step handled

/-- Asking for the outcome never fails. -/
theorem outcome_apply (act : Action α σ β) (s : σ) :
    Action.outcome act s = .ok (act.run s).1 (act.after s) := by
  cases done : act s with
  | ok b s' => rw [outcome_of_ok done, after_of_ok done, Action.run, done]
  | error e s' => rw [outcome_of_error done, after_of_error done, Action.run, done]

theorem Moves.outcome {act : Action α σ β} (h : Moves R act) : Moves R (Action.outcome act) := by
  intro s
  rw [after_of_ok (outcome_apply act s)]
  exact h s

/-- An action on a value that may be missing. -/
theorem Moves.option (refl : ∀ s, R s s) {act : β → Action α σ PUnit}
    (each : ∀ b, Moves R (act b)) (b : Option β) : Moves R (b.forM act) := by
  cases b with
  | none => exact refl
  | some b => exact each b

theorem Moves.forM (refl : ∀ s, R s s) (trans : ∀ s t u, R s t → R t u → R s u)
    {items : List β} {act : β → Action α σ PUnit} (each : ∀ b ∈ items, Moves R (act b)) :
    Moves R (items.forM act) := by
  induction items with
  | nil => exact refl
  | cons b rest ih =>
    refine Moves.bind trans (each b List.mem_cons_self) fun _ => ?_
    exact ih fun d member => each d (List.mem_cons_of_mem _ member)

theorem Moves.foldlM (refl : ∀ s, R s s) (trans : ∀ s t u, R s t → R t u → R s u)
    {act : γ → β → Action α σ γ} (each : ∀ c b, Moves R (act c b)) (items : List β) (c : γ) :
    Moves R (items.foldlM act c) := by
  induction items generalizing c with
  | nil => exact refl
  | cons b rest ih =>
    rw [List.foldlM_cons]
    exact Moves.bind trans (each c b) ih

/-- A loop that fails does so at one of its items, in a state that the items before it led to. -/
theorem foldlM_eq_error (refl : ∀ s, R s s) (trans : ∀ s t u, R s t → R t u → R s u)
    {act : γ → β → Action α σ γ} (each : ∀ c b, Moves R (act c b)) {items : List β} {c : γ}
    {s u : σ} {e : Failure α} (failed : items.foldlM act c s = .error e u) :
    ∃ b ∈ items, ∃ d t, R s t ∧ act d b t = .error e u := by
  induction items generalizing c s with
  | nil => cases failed
  | cons b rest ih =>
    rw [List.foldlM_cons] at failed
    rcases bind_error_iff.mp failed with first | ⟨d, t, done, others⟩
    · exact ⟨b, List.mem_cons_self, c, s, refl s, first⟩
    · have moved := each c b s
      rw [after_of_ok done] at moved
      obtain ⟨b', member, d', t', behind, stopped⟩ := ih others
      exact ⟨b', List.mem_cons_of_mem _ member, d', t', trans s t t' moved behind, stopped⟩

end Moves

end Action

end PulseBench
