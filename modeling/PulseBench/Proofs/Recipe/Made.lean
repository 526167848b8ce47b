import PulseBench.Proofs.Outcome
import PulseBench.Recipe.Parts

/-!
# What recipes make

Every recipe ends alike: its elements are one block, and the block is played so and so
often. If a sync channel is configured then a trigger comes behind it, a block of its own.

Results:
1. `idle_laser`, `microwave_laser`, `readout_eq`: the laser is on in the first element of a
   readout only.
2. `drive_lengthAt`, `rotation_lengthAt`: how long pulses last.
3. `finish_eq_ok`: what is made of a block.
-/

namespace PulseBench.RecipeContext

variable {α : Type} [Scalar α]

/-! ## 1. The laser -/

section Laser

variable (c : RecipeContext α)

omit [Scalar α] in
@[simp] theorem idle_laser (length increment : α) : (c.idle length increment).laser = false := rfl

omit [Scalar α] in
@[simp] theorem microwave_laser (length increment amplitude frequency phase : α) :
    (c.microwave length increment amplitude frequency phase).laser = false := by
  unfold microwave
  dsimp only
  split <;> rfl

omit [Scalar α] in
@[simp] theorem withGate_laser (e : Element α) : (c.withGate e).laser = e.laser := by
  unfold withGate
  cases c.generation.gateChannel <;> rfl

/-- The element that is read out. -/
def lit : Element α := c.withGate (c.laser c.generation.laserLength 0.0)

/-- The rest of a readout. -/
def unlit : List (Element α) :=
  [c.withGate (c.idle c.generation.laserDelay 0.0), c.idle c.generation.waitTime 0.0]

theorem readout_eq : c.readout = c.lit :: c.unlit := rfl

theorem lit_laser : c.lit.laser = true := c.withGate_laser _

theorem unlit_laser : ∀ e ∈ c.unlit, e.laser = false := by
  simp [unlit]

end Laser

/-! ## 2. Lengths -/

section Lengths

variable (c : RecipeContext α)

theorem microwave_lengthAt (length increment amplitude frequency phase : α) (repetition : Nat) :
    (c.microwave length increment amplitude frequency phase).lengthAt repetition =
      length + Scalar.ofNat repetition * increment := by
  unfold microwave
  dsimp only
  split <;> rfl

theorem drive_lengthAt (length increment : α) (repetition : Nat) :
    (c.drive length increment).lengthAt repetition =
      length + Scalar.ofNat repetition * increment :=
  c.microwave_lengthAt ..

theorem rotation_lengthAt (fraction phase : α) (repetition : Nat) :
    (c.rotation fraction phase).lengthAt repetition =
      c.generation.rabiPeriod * fraction + Scalar.ofNat repetition * 0.0 :=
  c.microwave_lengthAt ..

end Lengths

/-! ## 3. The block -/

/-- The trigger, if there is one. -/
def triggers (c : RecipeContext α) : List (Block α) :=
  (c.generation.syncChannel.map c.syncBlock).toList

/-- One block as an ensemble, with the trigger behind it. -/
def finished (c : RecipeContext α) (name : String) (block : Block α) (repetitions : Nat)
    (rotating : Bool) (readout : Readout α) : Generated α where
  blocks := block :: c.triggers
  ensembles :=
    [⟨name, (block.name, repetitions) :: c.triggers.map fun b => (b.name, 1), rotating,
      some readout, none⟩]
  sequences := []

/-- The time to record is known if the blocks that are played are. -/
theorem exists_countingLength (c : RecipeContext α) {plays : List (String × Nat)}
    {blocks : List (Block α)} (known : ∀ play ∈ plays, ∃ b ∈ blocks, b.name = play.1) :
    ∃ length, c.countingLength plays blocks = .ok length := by
  unfold countingLength
  split
  · exact ⟨_, rfl⟩
  · generalize (0.0 : α) = length
    induction plays generalizing length with
    | nil => exact ⟨length, rfl⟩
    | cons play rest ih =>
      obtain ⟨b, made, same⟩ := known play List.mem_cons_self
      obtain ⟨played, repetitions⟩ := play
      obtain ⟨found, search⟩ : ∃ found, blocks.find? (fun b => b.name == played) = some found :=
        Option.isSome_iff_exists.mp (List.find?_isSome.mpr ⟨b, made, beq_iff_eq.mpr same⟩)
      rw [List.foldlM_cons]
      simp only [search, ok_bind]
      exact ih (fun other member => known other (List.mem_cons_of_mem _ member)) _

/-- Nothing is left to fail once there is a block. -/
theorem finish_eq_ok (c : RecipeContext α) (name : String) (block : Block α) (repetitions : Nat)
    (rotating : Bool) (readout : Readout α) :
    ∃ countingLength, c.finish name block repetitions rotating readout =
      .ok (c.finished name block repetitions rotating { readout with countingLength }) := by
  have known : ∀ play ∈ (block.name, repetitions) :: c.triggers.map fun b => (b.name, 1),
      ∃ b ∈ block :: c.triggers, b.name = play.1 := by
    intro play member
    rcases List.mem_cons.mp member with rfl | behind
    · exact ⟨block, List.mem_cons_self, rfl⟩
    · obtain ⟨b, trigger, rfl⟩ := List.mem_map.mp behind
      exact ⟨b, List.mem_cons_of_mem _ trigger, rfl⟩
  obtain ⟨length, counted⟩ := c.exists_countingLength known
  exact ⟨length, bind_eq_ok.mpr ⟨length, counted, rfl⟩⟩

end PulseBench.RecipeContext
