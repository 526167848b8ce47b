import PulseBench.Proofs.Generator.Produced
import PulseBench.Proofs.Generator.Settings

/-!
# Recipes fit the active channels

Channels are looked at four times before a waveform is written: within a block, across
the blocks of an ensemble, against the channels of the device, and against the active
ones. A recipe passes all of it, for whatever assignment of roles to channels: a role
that is given to an analog channel sets a shape, one that is given to a digital channel a
level, and every element begins with all active channels. What is left to refuse an
ensemble are the sample rate and its durations, and later amplitudes and lengths.

Of the third check it only has to be known that a device has the channels that are active
on it. A generator that was started on such a device keeps it so.

Results:
1. `Ensemble.Uniform.analyse_eq_error`: playback of one set of channels is not refused for it.
2. `Compiler.validate_cases`: the checks against device and settings.
3. `Generator.Reached.offers`: active channels stay channels of the device.
4. `Recipe.made_admitted`: all recipes.
-/

namespace PulseBench

variable {α : Type}

/-! ## 1. Playback of one set of channels -/

namespace Ensemble

/-- All that is played has these channels, and something is played. -/
structure Uniform (e : Ensemble α) (blocks : Roster (Block α)) (channels : NameSet) : Prop where
  plays : e.plays ≠ []
  positive : ∀ play ∈ e.plays, 0 < play.2
  found : ∀ play ∈ e.plays, ∃ b, blocks.get? play.1 = some b ∧ b.elements ≠ [] ∧
    ∀ element ∈ b.elements, element.channels = channels

namespace Uniform

variable {e : Ensemble α} {blocks : Roster (Block α)} {channels : NameSet}

theorem exists_play (h : e.Uniform blocks channels) {play : String × Nat}
    (member : play ∈ e.plays) :
    ∃ part, e.play blocks play.1 play.2 = .ok part ∧ part ≠ [] ∧
      ∀ p ∈ part, p.element.channels = channels := by
  obtain ⟨b, found, ⟨first, rest, elements⟩, same⟩ :
      ∃ b, blocks.get? play.1 = some b ∧ (∃ first rest, b.elements = first :: rest) ∧
        ∀ element ∈ b.elements, element.channels = channels := by
    obtain ⟨b, found, nonempty, same⟩ := h.found play member
    exact ⟨b, found, List.exists_cons_of_ne_nil nonempty, same⟩
  have positive := h.positive play member
  have consistent := Block.inconsistentElement?_eq_none same
  refine ⟨b.played play.2, ?_, ?_, ?_⟩
  · unfold Ensemble.play
    simp only [found, positive.ne', if_false, consistent]
  · have played : Played.mk first 0 ∈ b.played play.2 := by
      refine List.mem_flatMap.mpr ⟨0, List.mem_range.mpr positive, ?_⟩
      exact List.mem_map_of_mem (elements ▸ List.mem_cons_self)
    exact List.ne_nil_of_mem played
  · intro p member
    obtain ⟨repetition, -, member⟩ := List.mem_flatMap.mp member
    obtain ⟨element, listed, rfl⟩ := List.mem_map.mp member
    exact same element listed

theorem exists_played (h : e.Uniform blocks channels) :
    ∃ first rest, e.played blocks = .ok (first :: rest) ∧
      ∀ p ∈ first :: rest, p.element.channels = channels := by
  have each : ∀ play ∈ e.plays, ∃ part, e.play blocks play.1 play.2 = .ok part :=
    fun play member => (h.exists_play member).imp fun _ => And.left
  have listed := mapM_of_forall_ok each
  set parts := e.plays.filterMap fun play => (e.play blocks play.1 play.2).toOption
  have known : ∀ part ∈ parts, part ≠ [] ∧ ∀ p ∈ part, p.element.channels = channels := by
    intro part member
    obtain ⟨play, member, own⟩ := List.mem_filterMap.mp member
    obtain ⟨part', done, known⟩ := h.exists_play member
    cases done.symm.trans (toOption_eq_some.mp own)
    exact known
  have played : e.played blocks = .ok parts.flatten := by
    unfold Ensemble.played
    rw [listed]
    rfl
  obtain ⟨play, member⟩ := List.exists_mem_of_ne_nil _ h.plays
  obtain ⟨part, done, nonempty, -⟩ := h.exists_play member
  have part : part ∈ parts := List.mem_filterMap.mpr ⟨play, member, toOption_eq_some.mpr done⟩
  obtain ⟨p, inPart⟩ := List.exists_mem_of_ne_nil _ nonempty
  obtain ⟨first, rest, listed⟩ :=
    List.exists_cons_of_ne_nil (List.ne_nil_of_mem (List.mem_flatten_of_mem part inPart))
  refine ⟨first, rest, played.trans (congrArg _ listed), ?_⟩
  rw [← listed]
  intro p member
  obtain ⟨part, member, inPart⟩ := List.mem_flatten.mp member
  exact (known part member).2 p inPart

theorem exists_consistentPlayback (h : e.Uniform blocks channels) :
    ∃ found, e.consistentPlayback blocks = .ok found := by
  obtain ⟨first, rest, played, same⟩ := h.exists_played
  refine ⟨(first, first :: rest), ?_⟩
  have agree : (first :: rest).find?
      (fun p => p.element.channels != first.element.channels) = none := by
    refine List.find?_eq_none.mpr fun p member => ?_
    simp [same p member, same first List.mem_cons_self]
  unfold consistentPlayback
  rw [played, ok_bind]
  simp only [agree]

variable [Scalar α]

/-- Only the rate and a duration can be refused. -/
theorem analyse_eq_error (h : e.Uniform blocks channels) {rate : α} {f : Failure α}
    (refused : e.analyse blocks rate = .error f) :
    f = .program (.rateNotPositive rate) ∨
      ∃ duration, f = .program (.invalidDuration e.name duration) := by
  obtain ⟨found, playback⟩ := h.exists_consistentPlayback
  unfold analyse at refused
  split at refused
  · rw [playback, ok_bind] at refused
    rcases bind_eq_error.mp refused with timed | ⟨_, -, done⟩
    · obtain ⟨p, -, invalid⟩ := mapM_eq_error timed
      split at invalid
      · cases invalid
      · cases invalid
        exact Or.inr ⟨_, rfl⟩
    · cases done
  · cases refused
    exact Or.inl rfl

theorem channels_of_analyse (h : e.Uniform blocks channels) {rate : α} {a : Analysis α}
    (analysed : e.analyse blocks rate = .ok a) : a.channels = channels := by
  obtain ⟨first, rest, plays, same⟩ := h.exists_played
  obtain ⟨played, accepted⟩ := analyse_eq_ok analysed
  cases plays.symm.trans accepted.plays
  exact (accepted.same_channels first List.mem_cons_self).symm.trans
    (same first List.mem_cons_self)

end Uniform

end Ensemble

/-! ## 2. Device and settings -/

namespace Limits

theorem mem_channels {l : Limits α} {n : String} :
    n ∈ l.channels.names ↔ ∃ active ∈ l.activations.values, n ∈ active.names := by
  have folded (sets : List NameSet) (s : NameSet) :
      n ∈ (sets.foldl NameSet.union s).names ↔ n ∈ s.names ∨ ∃ t ∈ sets, n ∈ t.names := by
    induction sets generalizing s with
    | nil => simp
    | cons t rest ih =>
      have first : n ∈ (s.union t).names ↔ n ∈ t.names ∨ n ∈ s.names :=
        NameSet.mem_foldl_insert t.names s n
      rw [List.foldl_cons, ih, first]
      simp only [List.mem_cons, exists_eq_or_imp]
      tauto
  exact (folded l.activations.values ∅).trans (or_iff_right List.not_mem_nil)

/-- The device has all of these channels. -/
def Offers (l : Limits α) (channels : NameSet) : Prop := ∀ n ∈ channels.names, n ∈ l.channels.names

theorem offers_of_activation {l : Limits α} {name : String} {active : NameSet}
    (found : l.activations.get? name = some active) : l.Offers active :=
  fun _ member => mem_channels.mpr ⟨active, Roster.mem_values_iff.mpr ⟨name, found⟩, member⟩

end Limits

namespace Compiler

variable [Scalar α] {c : Compiler α} {a : Analysis α} {user : String} {f : Failure α}

/-- Active channels are only held against the device; the other checks are of rate, amplitudes and
length. -/
theorem validate_cases (active : a.channels = c.settings.active)
    (h : c.validate user a = .error f) :
    (∃ n ∈ c.settings.active.names, n ∉ c.limits.channels.names ∧
      f = .program (.unknownChannel user n)) ∨
    f = .program
      (.rateOutOfRange c.settings.rate c.limits.rates.least c.limits.rates.greatest) ∨
    (∃ n, f = .program (.noAmplitude n)) ∨
    f = .exceeded (.waveformSamples user) a.samples c.limits.samples.greatest ∨
    f = .program (.tooShort user a.samples c.limits.samples.least) := by
  unfold validate at h
  simp only [bind, Except.bind, pure, Except.pure, throw, throwThe, MonadExceptOf.throw, active,
    beq_self_eq_true, if_true] at h
  split at h
  · split at h
    · rename_i n found
      cases h
      have unknown := List.find?_some found
      refine Or.inl ⟨n, List.mem_of_find?_eq_some found, ?_, rfl⟩
      simpa [NameSet.contains] using unknown
    · split at h
      · cases h
        exact Or.inr (Or.inr (Or.inl ⟨_, rfl⟩))
      · split at h
        · cases h
          exact Or.inr (Or.inr (Or.inr (Or.inl rfl)))
        · split at h
          · cases h
            exact Or.inr (Or.inr (Or.inr (Or.inr rfl)))
          · cases h
  · cases h
    exact Or.inr (Or.inl rfl)

end Compiler

/-! ## 3. Active channels of a device -/

namespace Generator

open PulseBench.Action (Moves after_of_ok after_of_error)

section Settings

variable {δ : Type}

theorem SameSettings.refl (g : Generator α δ) : SameSettings g g := ⟨rfl, rfl⟩

theorem SameSettings.trans (a b c : Generator α δ) (first : SameSettings a b)
    (second : SameSettings b c) : SameSettings a c :=
  ⟨second.settings.trans first.settings, second.limits.trans first.limits⟩

/-- Whatever the device does, the settings are not kept anew. -/
theorem sameSettings_handling [Scalar α] :
    Handling (fun _ _ : δ => True) (SameSettings (α := α) (δ := δ)) := by
  refine handling_of_held SameSettings.refl SameSettings.trans (fun _ _ _ same => same) ?_
  intro β act _ g
  rw [onDevice_after]
  exact ⟨rfl, rfl⟩

theorem serving_anything [Pulser α δ] : Serving (α := α) (fun _ _ : δ => True) where
  refl _ := trivial
  trans _ _ _ _ _ := trivial
  writeWaveform _ _ _ := trivial
  deleteWaveform _ _ := trivial
  writeSequence _ _ _ := trivial
  upload _ _ := trivial
  load _ _ := trivial
  deleteSequence _ _ := trivial
  clear _ := trivial

/-- Only one operation changes the settings. -/
theorem Operation.sameSettings [Analytic α] [Pulser α δ] {op : Operation α}
    (other : ∀ request, op ≠ .setSettings request) :
    Moves SameSettings (op.run : Action α (Generator α δ) Unit) := by
  refine sameSettings_handling.operation serving_anything op
    (fun request same => absurd same (other request)) fun on same => ?_
  subst same
  intro g
  rw [Operation.run, Action.after_discard]
  exact sameSettings_handling.onDevice (fun _ => trivial) g

end Settings

/-- The parts of a request are applied to settings of the device. -/
theorem offers_after {limits : Limits α} [Scalar α] {parts : List (Setting α)}
    (allowed : ∀ part ∈ parts, part.Allowed limits) {s : PulserSettings α}
    (offers : limits.Offers s.active) : limits.Offers (s.after limits parts).active := by
  induction parts generalizing s with
  | nil => exact offers
  | cons part rest ih =>
    refine ih (fun later member => allowed later (List.mem_cons_of_mem _ member)) ?_
    have own := allowed part List.mem_cons_self
    cases part with
    | activation name channels => exact Limits.offers_of_activation own
    | rate value => exact offers
    | amplitudes voltages => exact offers

section Runs

variable [Analytic α] {g : Generator α (FaultyPulser (MemoryPulser α))}

/-- Where operations may lead, from the start on a device in memory. The device has the channels
that were active on it then, and is not made to report others. -/
def Reached (g : Generator α (FaultyPulser (MemoryPulser α))) : Prop :=
  ∃ options device first ops, device.plan.reports = none ∧
    device.inner.limits.Offers device.inner.active ∧ start options device = .ok first ∧
    g = afterAll ops first

variable [Scalar.Comparable α]

theorem Operation.offers (op : Operation α) (synced : g.Synced)
    (offers : g.limits.Offers g.settings.active) :
    (op.after g).limits.Offers (op.after g).settings.active := by
  by_cases sets : ∃ request, op = .setSettings request
  · obtain ⟨request, rfl⟩ := sets
    have run : Operation.after (.setSettings request) g = (Generator.setSettings request).after g :=
      Action.after_discard _ g
    rw [run]
    by_cases excluded : request.Excluded g.limits
    · obtain ⟨f, refused, -⟩ := setSettings_refused excluded
      rw [after_of_error refused]
      exact offers
    · have allowed := parts_allowed excluded
      rcases setSettings_cases synced excluded with
        ⟨_, _, rfl, done, -⟩ | ⟨before, failed, rest, _, _, split, rfl, -, stopped, -⟩
      · rw [after_of_ok done]
        exact offers_after allowed offers
      · rw [after_of_error stopped]
        refine offers_after (fun part member => allowed part ?_) offers
        rw [split]
        exact List.mem_append_left _ member
  · have same : SameSettings g (op.after g) :=
      Operation.sameSettings (fun request set => sets ⟨request, set⟩) g
    rw [same.limits, same.settings]
    exact offers

theorem Reached.offers (reached : g.Reached) : g.limits.Offers g.settings.active := by
  obtain ⟨options, device, first, ops, honest, own, started, rfl⟩ := reached
  have synced := start_synced honest started
  have offers : first.limits.Offers first.settings.active := by
    rw [synced.limits, synced.settings, start_device started]
    exact own
  clear started
  induction ops generalizing first with
  | nil => exact offers
  | cons op rest ih => exact ih (op.after first) (op.synced synced) (op.offers synced offers)

end Runs

end Generator

/-! ## 4. What recipes make -/

namespace Roster

/-- Of things with the same name the last one is found. -/
theorem exists_get?_insertAll {β : Type} {name : β → String} {things : List β} {key : String}
    (member : key ∈ things.map name) (r : Roster β) :
    ∃ b ∈ things, name b = key ∧ (r.insertAll name things).get? key = some b := by
  induction things generalizing r with
  | nil => simp at member
  | cons first rest ih =>
    by_cases behind : key ∈ rest.map name
    · obtain ⟨b, listed, named, found⟩ := ih behind (r.insert (name first) first)
      exact ⟨b, List.mem_cons_of_mem _ listed, named, found⟩
    · have named : key = name first := by
        rcases List.mem_cons.mp member with same | later
        · exact same
        · exact absurd later behind
      subst named
      refine ⟨first, List.mem_cons_self, rfl, ?_⟩
      exact (get?_insertAll_of_not_mem behind _).trans (r.get?_insert_self _ first)

end Roster

namespace Recipe

variable [Analytic α]

/-- No check of channels refuses the ensemble. What may be refused is the rate, or a duration. The
channels that it uses are the active ones, so that it can only be held against a device that does
not have these; and that is no device of a generator. -/
structure Admitted (c : RecipeContext α) (e : Ensemble α)
    (blocks : Roster (Block α)) : Prop where
  analyse : ∀ rate f, e.analyse blocks rate = .error f →
    f = .program (.rateNotPositive rate) ∨ ∃ d, f = .program (.invalidDuration e.name d)
  channels : ∀ rate a, e.analyse blocks rate = .ok a → a.channels = c.settings.active
  active : ∀ rate a, e.analyse blocks rate = .ok a → ∀ k : Compiler α, k.settings = c.settings →
    ∀ user owner used active,
      k.validate user a ≠ .error (.program (.channelsNotActive owner used active))
  known : ∀ rate a, e.analyse blocks rate = .ok a → ∀ k : Compiler α, k.settings = c.settings →
    ∀ user owner n, k.validate user a = .error (.program (.unknownChannel owner n)) →
      n ∈ c.settings.active.names ∧ n ∉ k.limits.channels.names
  offered : ∀ rate a, e.analyse blocks rate = .ok a →
    ∀ g : Generator α (FaultyPulser (MemoryPulser α)), g.Reached → g.settings = c.settings →
    ∀ user owner n, g.compiler.validate user a ≠ .error (.program (.unknownChannel owner n))

theorem admitted_of_uniform [Scalar.Comparable α] {c : RecipeContext α} {e : Ensemble α}
    {blocks : Roster (Block α)} (uniform : e.Uniform blocks c.settings.active) :
    Admitted c e blocks := by
  have unknown : ∀ rate a, e.analyse blocks rate = .ok a → ∀ k : Compiler α,
      k.settings = c.settings → ∀ user owner n,
      k.validate user a = .error (.program (.unknownChannel owner n)) →
      n ∈ c.settings.active.names ∧ n ∉ k.limits.channels.names := by
    intro rate a analysed k same user owner n refused
    have active : a.channels = k.settings.active :=
      same ▸ uniform.channels_of_analyse analysed
    rcases Compiler.validate_cases active refused with
      ⟨n, member, absent, ⟨⟩⟩ | ⟨⟨⟩⟩ | ⟨_, ⟨⟩⟩ | ⟨⟨⟩⟩ | ⟨⟨⟩⟩
    exact ⟨same ▸ member, absent⟩
  refine ⟨fun _ _ => uniform.analyse_eq_error, fun _ _ => uniform.channels_of_analyse, ?_,
    unknown, ?_⟩
  · intro rate a analysed k same user owner used channels refused
    have active : a.channels = k.settings.active :=
      same ▸ uniform.channels_of_analyse analysed
    rcases Compiler.validate_cases active refused with
      ⟨_, _, _, ⟨⟩⟩ | ⟨⟨⟩⟩ | ⟨_, ⟨⟩⟩ | ⟨⟨⟩⟩ | ⟨⟨⟩⟩
  · intro rate a analysed g reached same user owner n refused
    obtain ⟨member, absent⟩ := unknown rate a analysed g.compiler same user owner n refused
    exact absent (reached.offers n (same ▸ member))

variable [Scalar.Lawful α] [Scalar.Comparable α]

/-- Whatever the active channels, all of them analog or digital, and whatever part each of them has
in it, no check of channels refuses what a recipe made. All elements of all its blocks have the
active channels, and so its ensembles are admitted wherever the blocks are stored by name. -/
theorem made_admitted (extra : List String) {recipe : String} {m : Method α (RecipeRule α)}
    (found : (registry extra).find recipe = .ok m) {c : RecipeContext α}
    (kinds : ∀ n ∈ c.settings.active.names, Channel.isAnalog n = true ∨ Channel.isDigital n = true)
    {given params : ParamSet α} (accepted : m.schema.resolve given = .ok params) {name : String}
    {made : Generated α} (done : m.rule c name params = .ok made) :
    (∀ b ∈ made.blocks, (∀ e ∈ b.elements, e.channels = c.settings.active) ∧
      b.inconsistentElement? = none) ∧
    ∀ e ∈ made.ensembles, ∀ store : Roster (Block α),
      Admitted c e (store.insertAll Block.name made.blocks) := by
  obtain ⟨elements, repetitions, rotating, readout, rfl, positive, makes, checked⟩ :=
    exists_finished extra found accepted done
  have ready : c.Ready := ⟨kinds, RecipeContext.active_of_checkChannels checked⟩
  have spans : ∀ b ∈ (⟨name, elements⟩ : Block α) :: c.triggers, ∀ e ∈ b.elements,
      e.channels = c.settings.active :=
    List.forall_mem_cons.mpr ⟨makes.spans ready, ready.spans_trigger⟩
  have nonempty : ∀ b ∈ (⟨name, elements⟩ : Block α) :: c.triggers, b.elements ≠ [] := by
    refine List.forall_mem_cons.mpr ⟨?_, fun b member => ?_⟩
    · obtain ⟨e, member, -⟩ := makes.distinct ""
      exact List.ne_nil_of_mem member
    · obtain ⟨channel, -, rfl⟩ := Option.map_eq_some_iff.mp (Option.mem_toList.mp member)
      exact List.cons_ne_nil _ _
  refine ⟨fun b member => ⟨spans b member, Block.inconsistentElement?_eq_none (spans b member)⟩, ?_⟩
  intro e member store
  obtain rfl := List.mem_singleton.mp member
  refine admitted_of_uniform ⟨List.cons_ne_nil _ _, ?_, fun play member => ?_⟩
  · refine List.forall_mem_cons.mpr ⟨positive, fun play member => ?_⟩
    obtain ⟨_, -, rfl⟩ := List.mem_map.mp member
    exact Nat.one_pos
  · have named : play.1 ∈ ((⟨name, elements⟩ : Block α) :: c.triggers).map Block.name := by
      rcases List.mem_cons.mp member with rfl | member
      · exact List.mem_cons_self
      · obtain ⟨trigger, listed, rfl⟩ := List.mem_map.mp member
        exact List.mem_cons_of_mem _ (List.mem_map_of_mem listed)
    obtain ⟨b, listed, -, found⟩ := Roster.exists_get?_insertAll named store
    exact ⟨b, found, nonempty b listed, spans b listed⟩

section Bench

/-- An analog laser whose channel is also used as trigger, and a digital microwave whose channel is
also used as gate. -/
def sharedRoles : RecipeContext ℚ where
  settings := ⟨1000000000, "all", .ofList ["a_ch1", "d_ch1", "d_ch2"], ∅⟩
  generation := { GenerationParameters.default with
    laserChannel := "a_ch1"
    microwaveChannel := "d_ch1"
    syncChannel := some "a_ch1"
    gateChannel := some "d_ch1" }

/-- An echo is made under the name of the trigger, with both blocks of one set of channels. -/
theorem made_admitted_shared : ∃ m params made,
    (registry []).find "hahnecho" = .ok m ∧
    (∀ n ∈ sharedRoles.settings.active.names,
      Channel.isAnalog n = true ∨ Channel.isDigital n = true) ∧
    m.schema.resolve ∅ = .ok params ∧ m.rule sharedRoles "sync_trigger" params = .ok made ∧
    made.blocks.map Block.name = ["sync_trigger", "sync_trigger"] ∧
    (∀ b ∈ made.blocks, ∀ e ∈ b.elements, e.channels = sharedRoles.settings.active) ∧
    ∀ e ∈ made.ensembles, Admitted sharedRoles e (Roster.insertAll Block.name made.blocks ∅) := by
  have kinds : (sharedRoles.settings.active.names.all
      fun n => Channel.isAnalog n || Channel.isDigital n) = true := by decide +kernel
  have ran : (match (registry []).find "hahnecho" with
    | .ok m =>
      match m.schema.resolve ∅ with
      | .ok params =>
        match m.rule sharedRoles "sync_trigger" params with
        | .ok made => made.blocks.map Block.name == ["sync_trigger", "sync_trigger"]
        | .error _ => false
      | .error _ => false
    | .error _ => false) = true := by decide +kernel
  simp only [List.all_eq_true, Bool.or_eq_true] at kinds
  split at ran
  · rename_i m found
    split at ran
    · rename_i params accepted
      split at ran
      · rename_i made done
        obtain ⟨blocks, ensembles⟩ := made_admitted [] found kinds accepted done
        exact ⟨m, params, made, found, kinds, accepted, done, eq_of_beq ran,
          fun b member => (blocks b member).1, fun e member => ensembles e member ∅⟩
      · cases ran
    · cases ran
  · cases ran

end Bench

end Recipe

end PulseBench
