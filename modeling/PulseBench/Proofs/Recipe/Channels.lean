import PulseBench.Proofs.Compile.Playback
import PulseBench.Proofs.Recipe.Axis
import PulseBench.Proofs.Roster

/-!
# Channels of generated elements

Every element begins with all active channels, analog ones idle and digital ones low. A
pulse then sets channels that are already there, if they are active; that recipes make
sure of. So all elements of a block have the same channels, as a playback demands, if no
active channel has a name of neither kind.

Results:
1. `spans_raised`, `spans_shaped`: a pulse adds no channel.
2. `Ready.spans_laser`, `Ready.spans_microwave`, `Ready.spans_trigger`: the elements of recipes.
3. `Sweeping.spans_elements`: all elements of a sweep.
-/

namespace PulseBench

variable {α : Type}

/-! ## 1. One element -/

namespace RecipeContext

/-- The element has a shape or a level for every active channel, and for no other. -/
def Spans (c : RecipeContext α) (e : Element α) : Prop := e.channels = c.settings.active

variable {c : RecipeContext α} {e : Element α}

theorem spans_iff :
    c.Spans e ↔ ∀ n, (e.shapes.contains n = true ∨ e.levels.contains n = true) ↔
      n ∈ c.settings.active.names :=
  ⟨fun spans _ => Element.mem_channels.symm.trans (by rw [show e.channels = _ from spans]),
    fun same => NameSet.ext_mem fun n => Element.mem_channels.trans (same n)⟩

theorem spans_raised (spans : c.Spans e) {channel : String}
    (active : channel ∈ c.settings.active.names) : c.Spans (raised e channel) := by
  rw [spans_iff] at spans ⊢
  intro n
  rw [raised, Roster.contains_insert_iff, or_left_comm, spans n]
  exact or_iff_right_of_imp fun same => same ▸ active

theorem spans_shaped (spans : c.Spans e) {channel : String}
    (active : channel ∈ c.settings.active.names) (shape : Shape α) :
    c.Spans (shaped e channel shape) := by
  rw [spans_iff] at spans ⊢
  intro n
  rw [shaped, Roster.contains_insert_iff, or_assoc, spans n]
  exact or_iff_right_of_imp fun same => same ▸ active

/-! ## 2. The elements of recipes -/

theorem idle_shapes (c : RecipeContext α) (length increment : α) :
    (c.idle length increment).shapes =
      .tabulate (c.settings.active.filter Channel.isAnalog) fun _ => Shape.idle :=
  Roster.ofList_map_names (c.settings.active.filter Channel.isAnalog) fun _ => Shape.idle

theorem idle_levels (c : RecipeContext α) (length increment : α) :
    (c.idle length increment).levels =
      .tabulate (c.settings.active.filter Channel.isDigital) fun _ => false :=
  Roster.ofList_map_names (c.settings.active.filter Channel.isDigital) fun _ => false

/-- Every active channel is analog or digital, and the channels that recipes refer to are active. -/
structure Ready (c : RecipeContext α) : Prop where
  kinds : ∀ n ∈ c.settings.active.names, Channel.isAnalog n = true ∨ Channel.isDigital n = true
  active : ∀ n ∈ c.generation.channels, n ∈ c.settings.active.names

theorem active_of_checkChannels (checked : c.checkChannels = .ok ()) :
    ∀ n ∈ c.generation.channels, n ∈ c.settings.active.names := by
  intro n member
  unfold checkChannels at checked
  split at checked
  · cases checked
  · rename_i none
    have known := List.find?_eq_none.mp none n member
    simpa [NameSet.contains] using known

namespace Ready

variable (ready : c.Ready)

include ready

theorem spans_idle (length increment : α) : c.Spans (c.idle length increment) := by
  refine spans_iff.mpr fun n => ?_
  rw [idle_shapes, idle_levels, Roster.contains_tabulate_iff, Roster.contains_tabulate_iff,
    NameSet.filter, NameSet.filter, List.mem_filter, List.mem_filter, ← and_or_left]
  exact and_iff_left_of_imp (ready.kinds n)

theorem spans_withLaser (spans : c.Spans e) : c.Spans (c.withLaser e) := by
  have active : c.generation.laserChannel ∈ c.settings.active.names :=
    ready.active _ (by simp [GenerationParameters.channels])
  unfold withLaser
  dsimp only
  split
  · exact spans_shaped spans active _
  · exact spans_raised spans active

theorem spans_withGate (spans : c.Spans e) : c.Spans (c.withGate e) := by
  unfold withGate
  cases gate : c.generation.gateChannel with
  | none => exact spans
  | some channel =>
    exact spans_raised spans (ready.active _ (by simp [GenerationParameters.channels, gate]))

theorem spans_laser (length increment : α) : c.Spans (c.laser length increment) :=
  ready.spans_withLaser (ready.spans_idle length increment)

theorem spans_microwave (length increment amplitude frequency phase : α) :
    c.Spans (c.microwave length increment amplitude frequency phase) := by
  have active : c.generation.microwaveChannel ∈ c.settings.active.names :=
    ready.active _ (by simp [GenerationParameters.channels])
  unfold microwave
  dsimp only
  split
  · exact spans_raised (ready.spans_idle _ _) active
  · exact spans_shaped (ready.spans_idle _ _) active _

variable [Scalar α]

theorem spans_readout : ∀ e ∈ c.readout, c.Spans e := by
  simp only [readout, List.forall_mem_cons]
  exact ⟨ready.spans_withGate (ready.spans_laser ..), ready.spans_withGate (ready.spans_idle ..),
    ready.spans_idle .., nofun⟩

/-- The trigger is one element. -/
theorem spans_trigger : ∀ b ∈ c.triggers, ∀ e ∈ b.elements, c.Spans e := by
  intro b member e played
  obtain ⟨channel, sync, rfl⟩ := Option.map_eq_some_iff.mp (Option.mem_toList.mp member)
  obtain rfl := List.mem_singleton.mp played
  refine spans_raised (ready.spans_idle ..) (ready.active _ ?_)
  simp [GenerationParameters.channels, sync]

end Ready

end RecipeContext

/-! ## 3. Sweeps -/

namespace Sweeping

variable [Scalar α] {s : Sweeping} {c : RecipeContext α} {p : Parameters α} {params : ParamSet α}

/-- An element belongs to a point. -/
theorem mem_elements (read : p.ReadFrom s params) {e : Element α} (member : e ∈ s.elements c p) :
    ∃ i k, e ∈ s.pulses c p i k ∨ e ∈ c.readout := by
  obtain ⟨i, member⟩ : ∃ i, e ∈ s.point c p i := by
    cases repeats : s.repeats with
    | true => exact ⟨0, elements_of_repeats repeats read 0 ▸ member⟩
    | false =>
      rw [elements_of_once repeats read] at member
      obtain ⟨i, -, member⟩ := List.mem_flatMap.mp member
      exact ⟨i, member⟩
  obtain ⟨k, -, member⟩ := List.mem_flatMap.mp member
  exact ⟨i, k, List.mem_append.mp member⟩

/-- All elements of a sweep have the active channels. -/
theorem spans_elements (ready : c.Ready) (read : p.ReadFrom s params) :
    ∀ e ∈ s.elements c p, c.Spans e := by
  intro e member
  obtain ⟨i, k, pulse | readout⟩ := mem_elements read member
  · exact forall_mem_pulses ready.spans_idle ready.spans_microwave s p i k e pulse
  · exact ready.spans_readout e readout

/-- The laser is on in every point. -/
theorem lit_mem_elements (read : p.ReadFrom s params) (positive : p.Positive s) :
    c.lit ∈ s.elements c p := by
  have row : 0 < Recipe.lasersPerPoint p.alternating := by
    unfold Recipe.lasersPerPoint
    split <;> decide
  have lit : c.lit ∈ c.readout := c.readout_eq ▸ List.mem_cons_self
  have lit (i : Nat) : c.lit ∈ s.point c p i :=
    List.mem_flatMap.mpr ⟨0, List.mem_range.mpr row, List.mem_append_right _ lit⟩
  cases repeats : s.repeats with
  | true => exact elements_of_repeats repeats read 0 ▸ lit 0
  | false =>
    rw [elements_of_once repeats read]
    exact List.mem_flatMap.mpr ⟨0, List.mem_range.mpr positive.points, lit 0⟩

end Sweeping

end PulseBench
