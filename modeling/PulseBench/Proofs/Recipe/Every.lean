import PulseBench.Proofs.Recipe.Channels

/-!
# What every recipe makes

There are nine recipes, three of a single element and six that sweep a quantity. All of
them make one block of the given name and play it at least once. None makes a block that
is the trigger: some element has the laser on, or the level of no channel is high.

Results:
1. `basic_eq`: the recipes that there are.
2. `exists_finished`: what each of them makes.
-/

namespace PulseBench

variable {α : Type} [Scalar α]

/-! ## 1. Nine recipes -/

/-- The recipes of a single element. -/
inductive Single where
  | laser
  | laserMicrowave
  | idle

namespace Single

def name : Single → String
  | laser => "laser_on"
  | laserMicrowave => "laser_mw_on"
  | idle => "idle"

def element (s : Single) (c : RecipeContext α) (length : α) : Element α :=
  match s with
  | laser => c.laser length 0.0
  | laserMicrowave => c.withLaser (c.drive length 0.0)
  | idle => c.idle length 0.0

def lasers : Single → Nat
  | laser | laserMicrowave => 1
  | idle => 0

def method (s : Single) : Method α (RecipeRule α) :=
  ⟨s.name, Recipe.lengthSchema, Recipe.single s.element s.lasers⟩

end Single

namespace Recipe

theorem basic_eq : (basic : List (Method α (RecipeRule α))) =
    [.laser, .laserMicrowave, .idle].map Single.method ++
      [.rabi, .pulsedOdmr, .ramsey, .hahnEcho, .xy8Tau, .xy8Frequency].map Sweeping.method := rfl

/-- What a recipe is called does not matter: it has one element, or it sweeps a quantity. -/
theorem registry_cases (extra : List String) {name : String} {m : Method α (RecipeRule α)}
    (found : (registry extra).find name = .ok m) :
    (∃ s : Single, m = s.method) ∨ ∃ s : Sweeping, m = s.method := by
  have member := List.mem_of_find?_eq_some ((Registry.find_builtin_iff ..).mp found)
  rw [basic_eq] at member
  rcases List.mem_append.mp member with single | sweeping
  · obtain ⟨s, -, rfl⟩ := List.mem_map.mp single
    exact Or.inl ⟨s, rfl⟩
  · obtain ⟨s, -, rfl⟩ := List.mem_map.mp sweeping
    exact Or.inr ⟨s, rfl⟩

/-! ## 2. One block -/

/-- Elements that a recipe makes. -/
structure Makes (c : RecipeContext α) (elements : List (Element α)) : Prop where
  spans : c.Ready → ∀ e ∈ elements, c.Spans e
  distinct : ∀ channel, ∃ e ∈ elements, e ∉ (c.syncBlock channel).elements

theorem not_mem_trigger_of_laser {c : RecipeContext α} {e : Element α} (lit : e.laser = true)
    (channel : String) : e ∉ (c.syncBlock channel).elements := by
  intro member
  obtain rfl := List.mem_singleton.mp member
  cases lit

theorem idle_not_mem_trigger (c : RecipeContext α) (length increment : α) (channel : String) :
    c.idle length increment ∉ (c.syncBlock channel).elements := by
  intro member
  have levels := congrArg (fun e => e.levels.get? channel) (List.mem_singleton.mp member)
  replace levels : (c.idle length increment).levels.get? channel = some true :=
    levels.trans (Roster.get?_insert_self _ _ _)
  rw [RecipeContext.idle_levels, Roster.get?_tabulate] at levels
  split at levels <;> cases levels

theorem makes_single (s : Single) (c : RecipeContext α) (length : α) :
    Makes c [s.element c length] := by
  cases s with
  | laser =>
    exact ⟨fun ready => List.forall_mem_singleton.mpr (ready.spans_laser ..),
      fun channel => ⟨_, .head _, not_mem_trigger_of_laser rfl channel⟩⟩
  | laserMicrowave =>
    exact ⟨fun ready => List.forall_mem_singleton.mpr
        (ready.spans_withLaser (ready.spans_microwave ..)),
      fun channel => ⟨_, .head _, not_mem_trigger_of_laser rfl channel⟩⟩
  | idle =>
    exact ⟨fun ready => List.forall_mem_singleton.mpr (ready.spans_idle ..),
      fun channel => ⟨_, .head _, idle_not_mem_trigger c _ _ channel⟩⟩

theorem makes_sweeping {s : Sweeping} {p : Sweeping.Parameters α} {params : ParamSet α}
    (c : RecipeContext α) (read : p.ReadFrom s params) (positive : p.Positive s) :
    Makes c (s.elements c p) where
  spans ready := Sweeping.spans_elements ready read
  distinct channel :=
    ⟨c.lit, Sweeping.lit_mem_elements read positive, not_mem_trigger_of_laser c.lit_laser channel⟩

/-- Whatever the accepted parameters, a recipe makes one block and plays it at least once. All
channels that it refers to are active. -/
theorem exists_finished [Scalar.Lawful α] (extra : List String) {recipe : String}
    {m : Method α (RecipeRule α)} (found : (registry extra).find recipe = .ok m)
    {c : RecipeContext α} {name : String} {given params : ParamSet α}
    (accepted : m.schema.resolve given = .ok params) {made : Generated α}
    (done : m.rule c name params = .ok made) :
    ∃ elements repetitions rotating readout,
      made = c.finished name ⟨name, elements⟩ repetitions rotating readout ∧
      0 < repetitions ∧ Makes c elements ∧ c.checkChannels = .ok () := by
  rcases registry_cases extra found with ⟨s, rfl⟩ | ⟨s, rfl⟩
  · obtain ⟨_, checked, done⟩ := bind_eq_ok.mp done
    obtain ⟨length, -, done⟩ := bind_eq_ok.mp done
    obtain ⟨countingLength, finished⟩ := c.finish_eq_ok name ⟨name, [s.element c length]⟩ 1 false
      { tauReadout [0.0] false with lasers := s.lasers }
    cases finished.symm.trans done
    exact ⟨_, 1, _, _, rfl, Nat.one_pos, makes_single s c length, checked⟩
  · obtain ⟨p, read, positive⟩ := s.exists_parameters accepted
    have checked : c.checkChannels = .ok () := by
      cases active : c.checkChannels with
      | ok _ => rfl
      | error f =>
        have refused : s.rule c name params = .error f := by
          cases s <;> exact bind_eq_error.mpr (Or.inl active)
        cases refused.symm.trans done
    rcases Sweeping.rule_cases (c := c) read name with ⟨f, refused, -⟩ | ⟨countingLength, finished⟩
    · cases refused.symm.trans done
    · cases finished.symm.trans done
      refine ⟨_, s.repetitions p, _, _, rfl, ?_, makes_sweeping c read positive, checked⟩
      unfold Sweeping.repetitions
      split
      · exact positive.points
      · exact Nat.one_pos

end Recipe

end PulseBench
