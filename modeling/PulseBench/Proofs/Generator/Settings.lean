import PulseBench.Proofs.Comparison
import PulseBench.Proofs.Generator.Filing
import PulseBench.Proofs.Generator.Run

/-!
# The settings and the device

A generator keeps the settings that its device reported last. The device may refuse any call
before it gets there, and a request for other settings takes up to three of them. All of a
request is held against the limits before the first call; then its parts, each of them one
`Setting`, are applied one after the other until a call fails.

So a generator and its device never disagree. What is not allowed changes nothing, not
even the count of the calls; and if a call fails on the way, the settings on both sides are
those with the parts before it. All this holds of exact numbers and of binary floating
point: of numbers it is only used that they are `Scalar.Comparable`.

Results:
1. `checkRequest_of_excluded`, `checkRequest_of_not_excluded`: a request is refused exactly if
   something in it is not allowed.
2. `apply_passed`, `apply_failed`, `applyAll_cases`: one part, and one part after the other.
3. `setSettings_refused`, `setSettings_cases`: a whole request.
4. `Operation.synced`, `settings_follow_device`: all operations, and runs of them.
-/

namespace PulseBench

variable {α : Type}

open Action (Moves after_of_ok after_of_error)

/-! ## 1. Requests -/

/-- A part of a request: what one call of the device sets. -/
inductive Setting (α : Type) where
  | activation (name : String) (channels : NameSet)
  | rate (rate : α)
  | amplitudes (amplitudes : Roster α)

namespace Setting

def call : Setting α → PulserCall
  | .activation .. => .setActiveChannels
  | .rate _ => .setRate
  | .amplitudes _ => .setAmplitudes

/-- The amplitudes with others in their place. Channels that are not mentioned keep theirs. -/
def replaced (amplitudes voltages : Roster α) : Roster α :=
  voltages.entries.foldl (fun r entry => r.insert entry.1 entry.2) amplitudes

/-- The settings with a part applied. -/
def applied (limits : Limits α) : Setting α → PulserSettings α → PulserSettings α
  | .activation name channels, s =>
      { s with
        activation := (limits.activationName? channels).getD name
        active := channels }
  | .rate value, s => { s with rate := value }
  | .amplitudes voltages, s => { s with amplitudes := replaced s.amplitudes voltages }

/-- A device in memory with a part set, which it has noted. -/
def set : Setting α → MemoryPulser α → MemoryPulser α
  | .activation _ channels, p => { MemoryPulser.note .setActiveChannels p with active := channels }
  | .rate value, p => { MemoryPulser.note (.setRate value) p with rate := value }
  | .amplitudes voltages, p =>
      { MemoryPulser.note .setAmplitudes p with amplitudes := replaced p.amplitudes voltages }

/-- The device has the activation, and takes the rate as it is. -/
def Allowed [Scalar α] (limits : Limits α) : Setting α → Prop
  | .activation name channels => limits.activations.get? name = some channels
  | .rate value => ¬ limits.rates.Excludes value
  | .amplitudes _ => True

end Setting

/-- The settings with parts applied one after the other. -/
def PulserSettings.after (limits : Limits α) (s : PulserSettings α) (parts : List (Setting α)) :
    PulserSettings α :=
  parts.foldl (fun s part => part.applied limits s) s

namespace SettingsRequest

/-- The requested activation, if there is one of that name. -/
def chosen? (limits : Limits α) (request : SettingsRequest α) : Option (String × NameSet) :=
  request.activation.bind fun name => (limits.activations.get? name).map (name, ·)

/-- The parts of a request, in the order in which they are applied. -/
def parts (limits : Limits α) (request : SettingsRequest α) : List (Setting α) :=
  (request.chosen? limits).toList.map (fun chosen => .activation chosen.1 chosen.2) ++
    request.rate.toList.map .rate ++ request.amplitudes.toList.map .amplitudes

/-- Something in the request is not allowed. -/
inductive Excluded [Scalar α] (limits : Limits α) (request : SettingsRequest α) : Prop
  | activation {name : String} : request.activation = some name →
      limits.activations.get? name = none → Excluded limits request
  | rate {rate : α} : request.rate = some rate → limits.rates.Excludes rate →
      Excluded limits request
  | channel {amplitudes : Roster α} {channel : String} {amplitude : α} :
      request.amplitudes = some amplitudes → (channel, amplitude) ∈ amplitudes.entries →
      Channel.isAnalog channel = false → Excluded limits request
  | amplitude {amplitudes : Roster α} {channel : String} {amplitude : α} :
      request.amplitudes = some amplitudes → (channel, amplitude) ∈ amplitudes.entries →
      limits.amplitudes.Excludes amplitude → Excluded limits request

end SettingsRequest

namespace Generator

/-! A check fails only because of what is asked for, and only if that is not allowed. -/

section Checks

variable {δ : Type} {g : Generator α δ} {request : SettingsRequest α} {f : Failure α}

theorem requestedActivation_of_known
    (known : ∀ name, request.activation = some name → g.limits.activations.get? name ≠ none) :
    g.requestedActivation request = .ok (request.chosen? g.limits) := by
  unfold requestedActivation SettingsRequest.chosen?
  cases asked : request.activation with
  | none => rfl
  | some name =>
    obtain ⟨channels, found⟩ := Option.ne_none_iff_exists'.mp (known name asked)
    simp only [found, Option.bind_some, Option.map_some]

theorem requestedActivation_kind (h : g.requestedActivation request = .error f) :
    f.kind = .configuration := by
  unfold requestedActivation at h
  split at h
  · cases h
  · split at h
    · cases h
    · cases h
      rfl

variable [Scalar α] {rate amplitude : α} {channel : String}

theorem checkRate_eq_ok : g.checkRate rate = .ok ⟨⟩ ↔ g.limits.rates.allows rate = true := by
  unfold checkRate
  split
  case isTrue allowed => exact ⟨fun _ => allowed, fun _ => rfl⟩
  case isFalse refused =>
    refine ⟨fun done => ?_, fun allowed => absurd allowed refused⟩
    cases done

theorem checkRate_kind (h : g.checkRate rate = .error f) : f.kind = .configuration := by
  unfold checkRate at h
  split at h
  · cases h
  · cases h
    rfl

theorem checkAmplitude_eq_ok :
    g.checkAmplitude channel amplitude = .ok ⟨⟩ ↔
      Channel.isAnalog channel = true ∧ g.limits.amplitudes.allows amplitude = true := by
  unfold checkAmplitude
  cases Channel.isAnalog channel <;> cases g.limits.amplitudes.allows amplitude <;>
    simp [bind, Except.bind, pure, Except.pure, throw, throwThe, MonadExceptOf.throw]

theorem checkAmplitude_kind (h : g.checkAmplitude channel amplitude = .error f) :
    f.kind = .configuration := by
  unfold checkAmplitude at h
  cases analog : Channel.isAnalog channel with
  | false =>
    rw [analog] at h
    cases h
    rfl
  | true =>
    rw [analog] at h
    cases allowed : g.limits.amplitudes.allows amplitude with
    | false =>
      rw [allowed] at h
      cases h
      rfl
    | true =>
      rw [allowed] at h
      cases h

/-- The checks of a request, one after the other. -/
theorem checkRequest_eq (g : Generator α δ) (request : SettingsRequest α) :
    g.checkRequest request = (do
      let activation ← g.requestedActivation request
      request.rate.toList.forM g.checkRate
      (request.amplitudes.getD ∅).entries.forM fun entry => g.checkAmplitude entry.1 entry.2
      return activation) := rfl

theorem checkRequest_kind (h : g.checkRequest request = .error f) : f.kind = .configuration := by
  rw [checkRequest_eq, bind_eq_error] at h
  rcases h with activation | ⟨_, -, h⟩
  · exact requestedActivation_kind activation
  rw [bind_eq_error] at h
  rcases h with rates | ⟨_, -, h⟩
  · obtain ⟨rate, -, refused⟩ := forM_eq_error rates
    exact checkRate_kind refused
  rw [bind_eq_error] at h
  rcases h with amplitudes | ⟨_, -, done⟩
  · obtain ⟨entry, -, refused⟩ := forM_eq_error amplitudes
    exact checkAmplitude_kind refused
  · cases done

theorem checkRates_eq_ok {asked : Option α} :
    asked.toList.forM g.checkRate = .ok ⟨⟩ ↔
      ∀ rate, asked = some rate → g.limits.rates.allows rate = true := by
  rw [forM_eq_ok]
  simp only [Option.mem_toList, checkRate_eq_ok]

theorem checkAmplitudes_eq_ok {asked : Option (Roster α)} :
    ((asked.getD ∅).entries.forM fun entry => g.checkAmplitude entry.1 entry.2) = .ok ⟨⟩ ↔
      ∀ amplitudes, asked = some amplitudes → ∀ entry ∈ amplitudes.entries,
        Channel.isAnalog entry.1 = true ∧ g.limits.amplitudes.allows entry.2 = true := by
  rw [forM_eq_ok]
  simp only [checkAmplitude_eq_ok]
  cases asked with
  | none =>
    refine ⟨fun _ _ absent => ?_, fun _ _ member => absurd member List.not_mem_nil⟩
    cases absent
  | some amplitudes =>
    exact ⟨fun all _ same => Option.some.inj same ▸ all, fun all => all amplitudes rfl⟩

theorem checkRequest_eq_ok {chosen : Option (String × NameSet)} :
    g.checkRequest request = .ok chosen ↔
      g.requestedActivation request = .ok chosen ∧
      (∀ rate, request.rate = some rate → g.limits.rates.allows rate = true) ∧
      ∀ amplitudes, request.amplitudes = some amplitudes → ∀ entry ∈ amplitudes.entries,
        Channel.isAnalog entry.1 = true ∧ g.limits.amplitudes.allows entry.2 = true := by
  rw [← checkRates_eq_ok, ← checkAmplitudes_eq_ok, checkRequest_eq, bind_eq_ok]
  constructor
  · rintro ⟨_, activation, done⟩
    obtain ⟨⟨⟩, rates, done⟩ := bind_eq_ok.mp done
    obtain ⟨⟨⟩, amplitudes, done⟩ := bind_eq_ok.mp done
    cases done
    exact ⟨activation, rates, amplitudes⟩
  · rintro ⟨activation, rates, amplitudes⟩
    refine ⟨chosen, activation, ?_⟩
    rw [rates, ok_bind, amplitudes, ok_bind]
    rfl

theorem checkRequest_of_not_excluded (h : ¬ request.Excluded g.limits) :
    g.checkRequest request = .ok (request.chosen? g.limits) := by
  refine checkRequest_eq_ok.mpr ⟨requestedActivation_of_known fun name asked absent => ?_,
    fun rate asked => ?_, fun amplitudes asked entry member => ⟨?_, ?_⟩⟩
  · exact h (.activation asked absent)
  · exact Range.allows_of_not_excludes fun excluded => h (.rate asked excluded)
  · exact Bool.of_not_eq_false fun digital => h (.channel asked member digital)
  · exact Range.allows_of_not_excludes fun excluded => h (.amplitude asked member excluded)

theorem checkRequest_of_excluded [Scalar.Comparable α] (h : request.Excluded g.limits) :
    ∃ f, g.checkRequest request = .error f ∧ f.kind = .configuration := by
  cases checked : g.checkRequest request with
  | error f => exact ⟨f, rfl, checkRequest_kind checked⟩
  | ok chosen =>
    obtain ⟨activation, rates, amplitudes⟩ := checkRequest_eq_ok.mp checked
    cases h with
    | activation asked absent =>
      unfold requestedActivation at activation
      simp only [asked, absent] at activation
      cases activation
    | rate asked excluded =>
      have refused := Range.not_allows_of_excludes excluded
      rw [rates _ asked] at refused
      cases refused
    | channel asked member digital =>
      rw [(amplitudes _ asked _ member).1] at digital
      cases digital
    | amplitude asked member excluded =>
      have refused := Range.not_allows_of_excludes excluded
      rw [(amplitudes _ asked _ member).2] at refused
      cases refused

end Checks

/-! ## 2. Parts -/

/-- Applies a part. -/
def apply {δ : Type} [Pulser α δ] : Setting α → Action α (Generator α δ) Unit
  | .activation name channels => applyActivation name channels
  | .rate value => applyRate value
  | .amplitudes voltages => applyAmplitudes voltages

/-- The generator knows its device: the limits, and the settings that the device behind the plan
is in. -/
structure Synced [Scalar α] (g : Generator α (FaultyPulser (MemoryPulser α))) : Prop where
  /-- The device is never made to report other channels than it has. -/
  honest : g.device.plan.reports = none
  limits : g.limits = g.device.inner.limits
  settings : g.settings = reportedSettings g.device.inner.limits g.device.inner

section Applying

variable {g : Generator α (FaultyPulser (MemoryPulser α))}

/-- The device behind the plan is in another state after one more call. -/
def called (inner : MemoryPulser α) (g : Generator α (FaultyPulser (MemoryPulser α))) :
    Generator α (FaultyPulser (MemoryPulser α)) :=
  { g with device := { g.device with inner, calls := g.device.calls + 1 } }

/-- The generator and its device with a part applied. -/
def carrying (g : Generator α (FaultyPulser (MemoryPulser α))) (part : Setting α) :
    Generator α (FaultyPulser (MemoryPulser α)) :=
  { g.called (part.set g.device.inner) with settings := part.applied g.limits g.settings }

@[simp] theorem limits_set (part : Setting α) (p : MemoryPulser α) :
    (part.set p).limits = p.limits := by
  cases part <;> rfl

theorem attempt_setting_passed {β : Type} {part : Setting α} {act : Action α (MemoryPulser α) β}
    {p : FaultyPulser (MemoryPulser α)} {b : β} {inner : MemoryPulser α}
    (passes : p.plan.fails part.call (p.calls + 1) = false) (done : act p.inner = .ok b inner) :
    FaultyPulser.attempt part.call act p = .ok b { p with inner, calls := p.calls + 1 } := by
  have counted : FaultyPulser.counted part.call p = { p with calls := p.calls + 1 } := by
    cases part <;> rfl
  rw [FaultyPulser.attempt_passed act passes, counted, FaultyPulser.reach, done]

/-- The channels of an activation have a name. -/
theorem activationName?_of_get? {limits : Limits α} {name : String} {channels : NameSet}
    (found : limits.activations.get? name = some channels) :
    ∃ known, limits.activationName? channels = some known := by
  refine Option.isSome_iff_exists.mp ?_
  rw [Limits.activationName?, Option.isSome_map, List.find?_isSome]
  exact ⟨_, Roster.mem_entries_iff.mpr found, beq_self_eq_true channels⟩

/-- A device in memory activates channels that have a name. -/
theorem setActiveChannels_ok {p : MemoryPulser α} {channels : NameSet} {known : String}
    (named : p.limits.activationName? channels = some known) :
    MemoryPulser.setActiveChannels channels p =
      .ok channels { p.note .setActiveChannels with active := channels } := by
  have there : ((p.note .setActiveChannels).limits.activationName? channels).isNone = false := by
    change (p.limits.activationName? channels).isNone = false
    rw [named, Option.isNone_some]
  unfold MemoryPulser.setActiveChannels
  rw [Action.bind_of_ok (Action.modify_apply _ p), Action.bind_of_ok (Action.get_apply _), there]
  rfl

variable [Scalar α]

theorem apply_failed {part : Setting α}
    (fails : g.device.plan.fails part.call (g.device.calls + 1) = true) :
    apply part g = .error (.device (.injected part.call.name)) (g.called g.device.inner) := by
  cases part with
  | activation name channels =>
    exact Action.bind_of_error (onDevice_error
      (Action.bind_of_error (FaultyPulser.attempt_failed _ fails)))
  | rate value => exact Action.bind_of_error (onDevice_error (FaultyPulser.attempt_failed _ fails))
  | amplitudes voltages =>
    exact Action.bind_of_error (onDevice_error (FaultyPulser.attempt_failed _ fails))

/-- A part that the plan lets pass is set in the device, and the settings are those with it. -/
theorem apply_passed [Scalar.Comparable α] {part : Setting α} (synced : g.Synced)
    (allowed : part.Allowed g.device.inner.limits)
    (passes : g.device.plan.fails part.call (g.device.calls + 1) = false) :
    apply part g = .ok ⟨⟩ (g.carrying part) := by
  cases part with
  | activation name channels =>
    obtain ⟨known, named⟩ := activationName?_of_get? allowed
    refine Action.bind_of_ok (onDevice_ok ((Action.bind_of_ok
      (attempt_setting_passed passes (setActiveChannels_ok named))).trans ?_))
    rw [Action.bind_of_ok (Action.get_apply _)]
    simp only [synced.honest, Option.getD_none]
    rfl
  | rate value =>
    have set : MemoryPulser.setRate value g.device.inner =
        .ok value (Setting.set (.rate value) g.device.inner) := by
      unfold MemoryPulser.setRate
      rw [Action.bind_of_ok (Action.get_apply _), Range.clamped_of_not_excludes allowed]
      rfl
    exact Action.bind_of_ok (onDevice_ok (attempt_setting_passed passes set))
  | amplitudes voltages =>
    have set : MemoryPulser.setAmplitudes voltages g.device.inner = .ok
        (Setting.set (.amplitudes voltages) g.device.inner).amplitudes
        (Setting.set (.amplitudes voltages) g.device.inner) := rfl
    refine (Action.bind_of_ok (onDevice_ok (attempt_setting_passed passes set))).trans ?_
    rw [Action.modify_apply, carrying, synced.settings]
    rfl

theorem reportedSettings_set {part : Setting α} {p : MemoryPulser α}
    (allowed : part.Allowed p.limits) :
    reportedSettings p.limits (part.set p) =
      part.applied p.limits (reportedSettings p.limits p) := by
  cases part with
  | activation name channels =>
    obtain ⟨known, named⟩ := activationName?_of_get? allowed
    change PulserSettings.mk p.rate ((p.limits.activationName? channels).getD _) channels
      p.amplitudes = PulserSettings.mk p.rate ((p.limits.activationName? channels).getD name)
      channels p.amplitudes
    rw [named]
    rfl
  | rate value => rfl
  | amplitudes voltages => rfl

theorem Synced.carrying {part : Setting α} (synced : g.Synced)
    (allowed : part.Allowed g.device.inner.limits) : (g.carrying part).Synced where
  honest := synced.honest
  limits := synced.limits.trans (limits_set part g.device.inner).symm
  settings := by
    change part.applied g.limits g.settings =
      reportedSettings (part.set g.device.inner).limits (part.set g.device.inner)
    rw [limits_set, reportedSettings_set allowed, synced.limits, synced.settings]

/-- The parts are applied up to the first one that the plan fails. -/
theorem applyAll_cases [Scalar.Comparable α] {parts : List (Setting α)} (synced : g.Synced)
    (allowed : ∀ part ∈ parts, part.Allowed g.device.inner.limits) :
    (∃ device, parts.forM apply g =
        .ok ⟨⟩ { g with device, settings := g.settings.after g.limits parts } ∧
      Synced { g with device, settings := g.settings.after g.limits parts }) ∨
    ∃ done failed rest device, parts = done ++ failed :: rest ∧
      g.device.plan.fails failed.call (g.device.calls + done.length + 1) = true ∧
      parts.forM apply g = .error (.device (.injected failed.call.name))
        { g with device, settings := g.settings.after g.limits done } ∧
      Synced { g with device, settings := g.settings.after g.limits done } := by
  induction parts generalizing g with
  | nil => exact Or.inl ⟨g.device, rfl, synced⟩
  | cons part rest ih =>
    cases fails : g.device.plan.fails part.call (g.device.calls + 1) with
    | true =>
      exact Or.inr ⟨[], part, rest, _, rfl, fails, Action.bind_of_error (apply_failed fails),
        ⟨synced.honest, synced.limits, synced.settings⟩⟩
    | false =>
      have own := allowed part List.mem_cons_self
      have passed := apply_passed synced own fails
      have others : ∀ later ∈ rest, later.Allowed (g.carrying part).device.inner.limits := by
        intro later member
        change later.Allowed (part.set g.device.inner).limits
        rw [limits_set]
        exact allowed later (List.mem_cons_of_mem _ member)
      rcases ih (synced.carrying own) others with
        ⟨device, done, behind⟩ | ⟨done, failed, rest', device, rfl, fails, stopped, behind⟩
      · exact Or.inl ⟨device, (Action.bind_of_ok passed).trans done, behind⟩
      · refine Or.inr ⟨part :: done, failed, rest', device, rfl, ?_,
          (Action.bind_of_ok passed).trans stopped, behind⟩
        have count : g.device.calls + (part :: done).length + 1 =
            (g.carrying part).device.calls + done.length + 1 := by
          change _ = g.device.calls + 1 + done.length + 1
          rw [List.length_cons]
          omega
        rw [count]
        exact fails

end Applying

/-! ## 3. Requests as a whole -/

section Requests

variable [Scalar α] {g : Generator α (FaultyPulser (MemoryPulser α))} {request : SettingsRequest α}

theorem parts_allowed {limits : Limits α} (h : ¬ request.Excluded limits) :
    ∀ part ∈ request.parts limits, part.Allowed limits := by
  intro part member
  simp only [SettingsRequest.parts, List.mem_append, Option.mem_toList, List.mem_map] at member
  rcases member with (⟨⟨name, channels⟩, chosen, rfl⟩ | ⟨rate, asked, rfl⟩) | ⟨amplitudes, -, rfl⟩
  · obtain ⟨_, -, found⟩ := Option.bind_eq_some_iff.mp chosen
    obtain ⟨_, known, same⟩ := Option.map_eq_some_iff.mp found
    cases same
    exact known
  · exact fun excluded => h (.rate asked excluded)
  · trivial

theorem setSettings_eq_parts (h : ¬ request.Excluded g.limits) :
    setSettings request g = (do
      (request.parts g.limits).forM apply
      return (← get).settings : Action α _ (PulserSettings α)) g := by
  rw [setSettings_eq, Action.bind_of_ok (Action.get_apply g), checkRequest_of_not_excluded h,
    Action.bind_of_ok (Action.lift_ok _ g)]
  refine congrFun ?_ g
  unfold SettingsRequest.parts
  rw [List.forM_eq_forM, List.forM_append, List.forM_append, List.forM_map, List.forM_map,
    List.forM_map, bind_assoc, bind_assoc]
  simp only [← List.forM_eq_forM, Action.forM_toList]
  rfl

/-- What is not allowed is refused before the first call. -/
theorem setSettings_refused [Scalar.Comparable α] (h : request.Excluded g.limits) :
    ∃ f, setSettings request g = .error f g ∧ f.kind = .configuration := by
  obtain ⟨f, refused, kind⟩ := checkRequest_of_excluded h
  refine ⟨f, ?_, kind⟩
  rw [setSettings_eq, Action.bind_of_ok (Action.get_apply g), refused]
  rfl

/-- What is allowed is applied, up to the first call that the plan fails. -/
theorem setSettings_cases [Scalar.Comparable α] (synced : g.Synced)
    (h : ¬ request.Excluded g.limits) :
    (∃ settings device, settings = g.settings.after g.limits (request.parts g.limits) ∧
      setSettings request g = .ok settings { g with device, settings } ∧
      Synced { g with device, settings }) ∨
    ∃ done failed rest settings device, request.parts g.limits = done ++ failed :: rest ∧
      settings = g.settings.after g.limits done ∧
      g.device.plan.fails failed.call (g.device.calls + done.length + 1) = true ∧
      setSettings request g =
        .error (.device (.injected failed.call.name)) { g with device, settings } ∧
      Synced { g with device, settings } := by
  have allowed : ∀ part ∈ request.parts g.limits, part.Allowed g.device.inner.limits :=
    fun part member => synced.limits ▸ parts_allowed h part member
  rw [setSettings_eq_parts h]
  rcases applyAll_cases synced allowed with
    ⟨device, done, behind⟩ | ⟨done, failed, rest, device, split, fails, stopped, behind⟩
  · refine Or.inl ⟨_, device, rfl, ?_, behind⟩
    rw [Action.bind_of_ok done]
    rfl
  · exact Or.inr ⟨done, failed, rest, _, device, split, rfl, fails, Action.bind_of_error stopped,
      behind⟩

/-- A generator and its device go together, and a request for other settings keeps them so. -/
structure FollowsDevice (g : Generator α (FaultyPulser (MemoryPulser α))) : Prop where
  limits : g.limits = g.device.inner.limits
  /-- Active channels, their name, rate and amplitudes are kept as the device has them. -/
  kept : g.settings = reportedSettings g.device.inner.limits g.device.inner
  /-- What is not allowed is refused before the first call. -/
  refuses : ∀ request : SettingsRequest α, request.Excluded g.limits →
    ∃ f, setSettings request g = .error f g ∧ f.kind = .configuration
  /-- What is allowed is applied as a whole, or up to a part whose call the plan fails. Either way
  the settings that are kept are those with the parts that were applied, and the device is in
  them. -/
  applies : ∀ request : SettingsRequest α, ¬ request.Excluded g.limits →
    (∃ settings device, settings = g.settings.after g.limits (request.parts g.limits) ∧
      setSettings request g = .ok settings { g with device, settings } ∧
      settings = reportedSettings device.inner.limits device.inner) ∨
    ∃ done failed rest settings device, request.parts g.limits = done ++ failed :: rest ∧
      settings = g.settings.after g.limits done ∧
      g.device.plan.fails failed.call (g.device.calls + done.length + 1) = true ∧
      setSettings request g =
        .error (.device (.injected failed.call.name)) { g with device, settings } ∧
      settings = reportedSettings device.inner.limits device.inner

theorem Synced.followsDevice [Scalar.Comparable α] (synced : g.Synced) : g.FollowsDevice where
  limits := synced.limits
  kept := synced.settings
  refuses _ := setSettings_refused
  applies _ allowed := by
    rcases setSettings_cases synced allowed with
      ⟨settings, device, applied, done, behind⟩ |
      ⟨done, failed, rest, settings, device, split, applied, fails, stopped, behind⟩
    · exact Or.inl ⟨settings, device, applied, done, behind.settings⟩
    · exact Or.inr
        ⟨done, failed, rest, settings, device, split, applied, fails, stopped, behind.settings⟩

theorem setSettings_synced [Scalar.Comparable α] (request : SettingsRequest α) (synced : g.Synced) :
    Synced ((setSettings request).after g) := by
  by_cases excluded : request.Excluded g.limits
  · obtain ⟨f, refused, -⟩ := setSettings_refused excluded
    rw [after_of_error refused]
    exact synced
  · rcases setSettings_cases synced excluded with
      ⟨_, _, -, done, behind⟩ | ⟨_, _, _, _, _, -, -, -, stopped, behind⟩
    · rw [after_of_ok done]
      exact behind
    · rw [after_of_error stopped]
      exact behind

end Requests

/-! ## 4. Runs -/

/-- What a device in memory reports of its settings stays the same. -/
structure SameReport [Scalar α] (before after : MemoryPulser α) : Prop where
  limits : after.limits = before.limits
  settings : reportedSettings after.limits after = reportedSettings before.limits before

section Operations

variable [Scalar α]

namespace SameReport

theorem refl (p : MemoryPulser α) : SameReport p p := ⟨rfl, rfl⟩

theorem trans (p q r : MemoryPulser α) (first : SameReport p q) (second : SameReport q r) :
    SameReport p r :=
  ⟨second.limits.trans first.limits, second.settings.trans first.settings⟩

theorem of_sameFront (p q : MemoryPulser α) (same : MemoryPulser.SameFront p q) :
    SameReport p q := by
  refine ⟨same.limits, ?_⟩
  change PulserSettings.mk q.rate ((q.limits.activationName? q.active).getD _) q.active
    q.amplitudes = _
  rw [same.limits, same.active, same.rate, same.amplitudes]
  rfl

end SameReport

theorem serving_sameReport : Serving (FaultyPulser.Behind (SameReport (α := α))) :=
  FaultyPulser.serving
    (MemoryPulser.serving.weaken SameReport.refl SameReport.trans SameReport.of_sameFront)

theorem setOutput_sameReport (on : Bool) :
    Moves (FaultyPulser.Behind (SameReport (α := α)))
      (Pulser.setOutput on : Action α (FaultyPulser (MemoryPulser α)) Bool) := by
  refine FaultyPulser.attempt_moves SameReport.refl ?_ .setOutput
  change Moves SameReport (MemoryPulser.setOutput on : Action α (MemoryPulser α) Bool)
  refine Moves.bind SameReport.trans ?_ fun _ => ?_
  · exact fun p => SameReport.of_sameFront p _ (MemoryPulser.ensureAccepted_sameFront _ p)
  · exact Moves.bind SameReport.trans (Moves.modify fun p => ⟨rfl, rfl⟩) fun _ => SameReport.refl

/-- Neither the parts of operations nor the calls they make touch the settings. -/
theorem synced_handling :
    Handling (FaultyPulser.Behind SameReport)
      fun before after : Generator α (FaultyPulser (MemoryPulser α)) =>
        before.Synced → after.Synced := by
  refine handling_of_held (fun _ => id) (fun _ _ _ first second synced => second (first synced))
    (fun a b device same synced => ?_) fun {_ act} moves g synced => ?_
  · constructor
    · rw [device]
      exact synced.honest
    · rw [same.limits, device]
      exact synced.limits
    · rw [same.settings, device]
      exact synced.settings
  · rw [onDevice_after]
    obtain ⟨report, plan⟩ := moves g.device
    exact ⟨plan ▸ synced.honest, synced.limits.trans report.limits.symm,
      synced.settings.trans report.settings.symm⟩

end Operations

section Runs

variable [Analytic α] [Scalar.Comparable α] {g : Generator α (FaultyPulser (MemoryPulser α))}

theorem Operation.synced (op : Operation α) (synced : g.Synced) : (op.after g).Synced := by
  have kept := synced_handling.operation serving_sameReport op (fun request same => ?_)
    fun on same => ?_
  · exact kept g synced
  · rw [same]
    intro g synced
    rw [Operation.run, Action.after_discard]
    exact setSettings_synced request synced
  · rw [same]
    intro g synced
    rw [Operation.run, Action.after_discard]
    exact synced_handling.onDevice (setOutput_sameReport on) g synced

theorem afterAll_synced (synced : g.Synced) (ops : List (Operation α)) :
    (afterAll ops g).Synced := by
  induction ops generalizing g with
  | nil => exact synced
  | cons op rest ih => exact ih (op.synced synced)

omit [Scalar.Comparable α] in
theorem start_synced {options : GeneratorOptions α} {device : FaultyPulser (MemoryPulser α)}
    (honest : device.plan.reports = none) (started : start options device = .ok g) :
    g.Synced := by
  obtain ⟨recipes, -, dropped⟩ := start_ok_iff.mp started
  have opened : (opened options recipes device).Synced := by
    refine ⟨honest, rfl, ?_⟩
    change PulserSettings.mk device.inner.rate
      ((device.inner.limits.activationName? (device.plan.reports.getD device.inner.active)).getD _)
      (device.plan.reports.getD device.inner.active) device.inner.amplitudes = _
    rw [honest]
    rfl
  have kept := synced_handling.dropStaleRecords _ opened
  rwa [after_of_ok dropped] at kept

/-- A generator that was started on a device in memory follows it throughout, whatever is asked of
it and whichever calls the plan fails on the way. An unknown activation, a rate or an amplitude
that is undefined or out of range, and a channel that is not analog are refused without a call.
Any other request is applied part by part, and where it stops, both sides stop. -/
theorem settings_follow_device {options : GeneratorOptions α}
    {device : FaultyPulser (MemoryPulser α)} (honest : device.plan.reports = none)
    (started : start options device = .ok g) (ops : List (Operation α)) :
    (afterAll ops g).FollowsDevice :=
  (afterAll_synced (start_synced honest started) ops).followsDevice

end Runs

/-! A request stops at its last part: the rate is set by then, on both sides, and the amplitudes are
not. -/

/-- A device that never takes amplitudes. -/
def amplitudeless : FaultyPulser (MemoryPulser ℚ) :=
  .under { FaultPlan.none with fails := fun call _ => call == .setAmplitudes }
    (.fresh benchLimits)

/-- All three parts are asked for at once, between other operations. -/
def halfApplied : List (Operation ℚ) :=
  shared ++ [.setSettings ⟨some "all", some 5, some (Roster.ofList [("a_ch1", 2)])⟩,
    .sampleSequence "first"]

theorem settings_follow_device_of_half_applied :
    amplitudeless.plan.reports = none ∧
    ∃ g, start .default amplitudeless = .ok g ∧ (afterAll halfApplied g).FollowsDevice ∧
      (afterAll halfApplied g).settings.rate = 5 ∧
      (afterAll halfApplied g).device.inner.rate = 5 ∧
      (afterAll halfApplied g).settings.amplitudes.get? "a_ch1" = some 1 ∧
      (afterAll halfApplied g).device.inner.amplitudes.get? "a_ch1" = some 1 := by
  have honest : amplitudeless.plan.reports = none := rfl
  have ran : (match start .default amplitudeless with
    | .ok g =>
      let h := afterAll halfApplied g
      decide (h.settings.rate = 5 ∧ h.device.inner.rate = 5 ∧
        h.settings.amplitudes.get? "a_ch1" = some 1 ∧
        h.device.inner.amplitudes.get? "a_ch1" = some 1)
    | .error _ => false) = true := by decide +kernel
  refine ⟨honest, ?_⟩
  cases started : start .default amplitudeless with
  | error f => rw [started] at ran; cases ran
  | ok g =>
    rw [started] at ran
    exact ⟨g, rfl, settings_follow_device honest started halfApplied, of_decide_eq_true ran⟩

end Generator

end PulseBench
