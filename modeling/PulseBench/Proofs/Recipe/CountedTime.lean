import PulseBench.Proofs.Compile.Duration
import PulseBench.Proofs.Generator.Produced

/-!
# Counting as long as a program plays

A recipe states how long the counter has to record. Without a gate that is one playback of the
ensemble, with the trigger at its end, and it is stated before anything is compiled: from the closed
forms of the blocks, which are looked up in the list of blocks that the recipe made. The compiler
looks up stored blocks and adds up what they play. Where nothing is rounded, both come to the same,
as long as no two blocks have the same name.

Results:
1. `value_countingLength`: the stated time, entry by entry of the block list.
2. `time_played_eq`, `sum_entryTime`: the time of the playback, entry by entry.
3. `Recipe.Finishes.of_find`: every recipe ends with a block that is finished.
4. `Recipe.counts_whole_playback`: the recipes as they are found in a registry.
-/

namespace PulseBench

variable {α K : Type} [Scalar α] [Field K] {r : Scalar.Reading α K}

namespace RecipeContext

/-! ## 1. The time that is stated -/

/-- How long an entry of a block list is played, with its block taken from a list. -/
def entryTime (r : Scalar.Reading α K) (blocks : List (Block α)) (play : String × Nat) : K :=
  (blocks.find? fun b => b.name == play.1).elim 0 fun b => r.time (b.played play.2)

theorem entryTime_of_find {blocks : List (Block α)} {play : String × Nat} {b : Block α}
    (found : blocks.find? (fun b => b.name == play.1) = some b) :
    entryTime r blocks play = r.time (b.played play.2) := by
  rw [entryTime, found]
  rfl

/-- Without a gate, all entries are counted, and their blocks are there. -/
theorem value_countingLength [CharZero K] (exact : r.Arithmetic) {c : RecipeContext α}
    (ungated : c.generation.gateChannel = none) {plays : List (String × Nat)}
    {blocks : List (Block α)} {length : α} (counted : c.countingLength plays blocks = .ok length) :
    r.value length = (plays.map (entryTime r blocks)).sum ∧
      ∀ play ∈ plays, ∃ b, blocks.find? (fun b => b.name == play.1) = some b := by
  -- The count goes on from any start.
  suffices summed : r.value length = r.value 0.0 + (plays.map (entryTime r blocks)).sum ∧
      ∀ play ∈ plays, ∃ b, blocks.find? (fun b => b.name == play.1) = some b by
    rwa [r.zero, zero_add] at summed
  rw [countingLength, if_neg (by simp [ungated])] at counted
  generalize (0.0 : α) = start at counted ⊢
  induction plays generalizing start with
  | nil =>
    cases counted
    exact ⟨(add_zero _).symm, nofun⟩
  | cons play rest ih =>
    obtain ⟨next, first, others⟩ := bind_eq_ok.mp (List.foldlM_cons.symm.trans counted)
    obtain ⟨sum, known⟩ := ih next others
    dsimp only at first
    split at first
    · rename_i b found
      cases first
      refine ⟨?_, List.forall_mem_cons.mpr ⟨⟨b, found⟩, known⟩⟩
      rw [sum, r.add, b.value_totalLength_eq_time exact, List.map_cons, List.sum_cons,
        entryTime_of_find found, add_assoc]
    · cases first

/-! ## 2. The time that is played -/

/-- Blocks that are stored under their names are played. -/
theorem time_played_eq {e : Ensemble α} {blocks : List (Block α)} {store : Roster (Block α)}
    (stored : ∀ b ∈ blocks, store.get? b.name = some b)
    (known : ∀ play ∈ e.plays, ∃ b, blocks.find? (fun b => b.name == play.1) = some b)
    {played : List (Played α)} (done : e.played store = .ok played) :
    r.time played = (e.plays.map (entryTime r blocks)).sum := by
  obtain ⟨parts, listed, made⟩ := bind_eq_ok.mp done
  cases made
  clear done
  generalize e.plays = plays at known listed
  induction plays generalizing parts with
  | nil =>
    cases listed
    rfl
  | cons play rest ih =>
    obtain ⟨part, others, first, behind, rfl⟩ := mapM_ok_cons listed
    obtain ⟨b, found⟩ := known play List.mem_cons_self
    obtain ⟨own, got, rfl⟩ := Ensemble.play_eq_ok first
    have named : b.name = play.1 := beq_iff_eq.mp (List.find?_some found :)
    have same := stored b (List.mem_of_find?_eq_some found)
    rw [named, got] at same
    cases same
    have later := ih others (fun play member => known play (List.mem_cons_of_mem _ member)) behind
    rw [List.flatten_cons, Scalar.Reading.time_append, later, List.map_cons, List.sum_cons,
      entryTime_of_find found]

/-- The trigger is played once, behind the block. -/
theorem sum_entryTime {c : RecipeContext α} {block : Block α}
    (distinct : ((block :: c.triggers).map Block.name).Nodup) (repetitions : Nat) :
    (((block.name, repetitions) :: c.triggers.map fun b => (b.name, 1)).map
      (entryTime r (block :: c.triggers))).sum = r.time (c.ownPlayback block repetitions) := by
  have first : entryTime r (block :: c.triggers) (block.name, repetitions) =
      r.time (block.played repetitions) :=
    entryTime_of_find (List.find?_cons_of_pos (beq_self_eq_true block.name))
  rw [ownPlayback, Scalar.Reading.time_append, List.map_cons, List.sum_cons, first]
  rcases c.triggers_cases with none | ⟨channel, single⟩
  · rw [none]
    rfl
  · rw [single] at distinct ⊢
    have other : block.name ≠ (c.syncBlock channel).name :=
      fun same => (List.nodup_cons.mp distinct).1 (same ▸ List.mem_singleton_self _)
    have second : entryTime r [block, c.syncBlock channel] ((c.syncBlock channel).name, 1) =
        r.time ((c.syncBlock channel).played 1) := by
      refine entryTime_of_find ?_
      rw [List.find?_cons_of_neg (by simpa using other)]
      exact List.find?_cons_of_pos (beq_self_eq_true _)
    rw [List.map_singleton, List.map_singleton, List.sum_singleton, second, List.flatMap_singleton]

/-- What is made of a block, with the time that was counted for it. -/
theorem counted_of_finish {c : RecipeContext α} {name : String} {block : Block α}
    {repetitions : Nat} {rotating : Bool} {readout : Readout α} {made : Generated α}
    (done : c.finish name block repetitions rotating readout = .ok made) :
    ∃ countingLength,
      c.countingLength ((block.name, repetitions) :: c.triggers.map fun b => (b.name, 1))
        (block :: c.triggers) = .ok countingLength ∧
      made = c.finished name block repetitions rotating { readout with countingLength } := by
  obtain ⟨length, counted, made⟩ := bind_eq_ok.mp done
  cases made
  exact ⟨length, counted, rfl⟩

end RecipeContext

namespace Recipe

/-! ## 3. Every recipe finishes a block -/

/-- What comes out, if anything does, is a block that was finished. -/
def Finishes (c : RecipeContext α) (outcome : Except (Failure α) (Generated α)) : Prop :=
  ∀ made, outcome = .ok made → ∃ name block repetitions rotating readout,
    c.finish name block repetitions rotating readout = .ok made

namespace Finishes

variable {c : RecipeContext α}

theorem finish {name : String} {block : Block α} {repetitions : Nat} {rotating : Bool}
    {readout : Readout α} : Finishes c (c.finish name block repetitions rotating readout) :=
  fun _ done => ⟨name, block, repetitions, rotating, readout, done⟩

/-- Whatever is checked or read before. -/
theorem bind {β : Type} {first : Except (Failure α) β}
    {next : β → Except (Failure α) (Generated α)} (finishes : ∀ b, Finishes c (next b)) :
    Finishes c (first >>= next) := by
  intro made done
  obtain ⟨b, -, done⟩ := bind_eq_ok.mp done
  exact finishes b made done

theorem sweeping (s : Sweeping) (name : String) (params : ParamSet α) :
    Finishes c (s.rule c name params) := by
  cases s with
  | rabi | pulsedOdmr =>
    exact .bind fun _ => .bind fun _ => .bind fun _ => .bind fun _ => .finish
  | ramsey | hahnEcho =>
    exact .bind fun _ => .bind fun _ => .bind fun _ => .bind fun _ => .bind fun _ => .finish
  | xy8Tau =>
    exact .bind fun _ => .bind fun _ => .bind fun _ => .bind fun _ => .bind fun _ => .bind fun _ =>
      .finish
  | xy8Frequency =>
    exact .bind fun _ => .bind fun _ => .bind fun _ => .bind fun _ => .bind fun _ => .bind fun _ =>
      .bind fun _ => .finish

theorem of_find {extra : List String} {recipe : String} {m : Method α (RecipeRule α)}
    (found : (registry extra).find recipe = .ok m) (name : String) (params : ParamSet α) :
    Finishes c (m.rule c name params) := by
  rcases registry_cases extra found with ⟨s, rfl⟩ | ⟨s, rfl⟩
  · exact .bind fun _ => .bind fun _ => .finish
  · exact .sweeping s name params

end Finishes

/-! ## 4. What recipes state -/

/-- Without a gate, the time that is counted for the entries of a block list is the ideal time of
what is played, if the blocks have different names. -/
theorem countingLength_eq_ideal [CharZero K] (exact : r.Arithmetic) {c : RecipeContext α}
    (ungated : c.generation.gateChannel = none) {e : Ensemble α} {blocks : List (Block α)}
    (distinct : (blocks.map Block.name).Nodup) {length : α}
    (counted : c.countingLength e.plays blocks = .ok length) {store : Roster (Block α)} {rate : α}
    {a : Analysis α} (analysed : e.analyse (store.insertAll Block.name blocks) rate = .ok a) :
    r.value length = r.value a.ideal := by
  obtain ⟨sum, known⟩ := RecipeContext.value_countingLength exact ungated counted
  obtain ⟨played, plays, ideal⟩ := Ensemble.ideal_eq_time (r := r) analysed
  rw [sum, ideal, RecipeContext.time_played_eq (Roster.get?_insertAll distinct store) known plays]

/-- Where nothing is rounded, the closed form of a block is the time of its playback, for any number
of repetitions. So without a gate the counting length of an ensemble is the ideal time of its
analysis, wherever its blocks are stored, if they have different names; and so is the one that a
recipe states. It is the time for which the block of the recipe is played, and the trigger behind
it. -/
theorem counts_whole_playback [CharZero K] (r : Scalar.Reading α K) (exact : r.Arithmetic) :
    (∀ (b : Block α) (n : Nat), r.value (b.totalLength n) =
      ((List.range n).map fun k => (b.elements.map fun e => r.value (e.lengthAt k)).sum).sum) ∧
    (∀ (c : RecipeContext α) (e : Ensemble α) (blocks : List (Block α)) (length : α),
      c.generation.gateChannel = none → (blocks.map Block.name).Nodup →
      c.countingLength e.plays blocks = .ok length →
      ∀ (store : Roster (Block α)) (rate : α) (a : Analysis α),
        e.analyse (store.insertAll Block.name blocks) rate = .ok a →
          r.value length = r.value a.ideal) ∧
    ∀ (extra : List String) (recipe : String) (m : Method α (RecipeRule α)),
      (registry extra).find recipe = .ok m →
      ∀ (c : RecipeContext α) (name : String) (params : ParamSet α) (made : Generated α),
        c.generation.gateChannel = none → m.rule c name params = .ok made →
        (made.blocks.map Block.name).Nodup →
        ∃ block repetitions e readout, made.blocks = block :: c.triggers ∧ made.ensembles = [e] ∧
          e.plays = (block.name, repetitions) :: c.triggers.map (fun b => (b.name, 1)) ∧
          e.readout = some readout ∧
          r.value readout.countingLength = r.time (c.ownPlayback block repetitions) ∧
          ∀ (store : Roster (Block α)) (rate : α) (a : Analysis α),
            e.analyse (store.insertAll Block.name made.blocks) rate = .ok a →
              r.value readout.countingLength = r.value a.ideal := by
  refine ⟨fun b n => b.totalLength_eq_sum exact n, ?_, ?_⟩
  · intro c e blocks length ungated distinct counted store rate a analysed
    exact countingLength_eq_ideal exact ungated distinct counted analysed
  · intro extra recipe m found c name params made ungated done distinct
    obtain ⟨own, block, repetitions, rotating, readout, done⟩ :=
      Finishes.of_find found name params made done
    obtain ⟨length, counted, rfl⟩ := RecipeContext.counted_of_finish done
    obtain ⟨sum, -⟩ := RecipeContext.value_countingLength exact ungated counted
    refine ⟨block, repetitions, _, _, rfl, rfl, rfl, rfl,
      sum.trans (RecipeContext.sum_entryTime distinct repetitions), ?_⟩
    intro store rate a analysed
    exact countingLength_eq_ideal exact ungated distinct counted analysed

section Bench

/-- A channel is left for triggers. -/
def syncedContext : RecipeContext ℚ where
  settings := ⟨1000000000, "all", .ofList ["a_ch1", "d_ch1", "d_ch3"], ∅⟩
  generation := { GenerationParameters.default with syncChannel := some "d_ch3" }

/-- Three pulses of 10, 15 and 20 ns. -/
def threePulses : ParamSet ℚ :=
  .ofList [("tau_start", .real 10e-9), ("tau_step", .real 5e-9), ("number_of_taus", .int 3)]

/-- Three pulses of different lengths, each with its readout of 4.5 µs, and the trigger of 50 ns. -/
theorem counts_whole_playback_triggered : ∃ m made e readout a,
    (registry []).find "rabi" = .ok m ∧ syncedContext.generation.gateChannel = none ∧
    m.rule syncedContext "pulses" threePulses = .ok made ∧
    made.blocks.map Block.name = ["pulses", "sync_trigger"] ∧ made.ensembles = [e] ∧
    e.readout = some readout ∧
    e.analyse (Roster.insertAll Block.name made.blocks ∅) 1000000000 = .ok a ∧
    readout.countingLength = a.ideal ∧ a.ideal = 13.595e-6 := by
  have found := Sweeping.find_method (α := ℚ) [] .rabi
  have computed : (Sweeping.rabi.rule syncedContext "pulses" threePulses).toOption.map
      (fun made => (made.blocks.map Block.name, made.ensembles.map fun e =>
        (e.analyse (Roster.insertAll Block.name made.blocks ∅) 1000000000).toOption.map
          Analysis.ideal)) =
      some (["pulses", "sync_trigger"], [some 13.595e-6]) := by
    decide +kernel
  obtain ⟨made, done, parts⟩ := Option.map_eq_some_iff.mp computed
  obtain ⟨names, ideals⟩ := Prod.mk.inj parts
  replace done := toOption_eq_some.mp done
  obtain ⟨-, -, recipes⟩ :=
    counts_whole_playback Scalar.Reading.rational Scalar.Reading.rational_arithmetic
  obtain ⟨block, repetitions, e, readout, -, only, -, stated, -, counts⟩ :=
    recipes [] "rabi" _ found syncedContext "pulses" threePulses made rfl done
      (by rw [names]; decide)
  rw [only, List.map_singleton, List.singleton_inj] at ideals
  obtain ⟨a, analysed, ideal⟩ := Option.map_eq_some_iff.mp ideals
  replace analysed := toOption_eq_some.mp analysed
  exact ⟨_, made, e, readout, a, found, rfl, done, names, only, stated, analysed,
    counts ∅ _ a analysed, ideal⟩

end Bench

end Recipe

end PulseBench
