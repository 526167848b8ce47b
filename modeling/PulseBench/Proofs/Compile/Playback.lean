import PulseBench.Compile.Playback
import PulseBench.Proofs.Compile.Timeline
import PulseBench.Proofs.Outcome
import PulseBench.Proofs.Roster

/-!
# What an accepted ensemble looks like

`Ensemble.analyse` refuses an ensemble for many reasons. `Ensemble.Analysed`
says what is left: which elements are played, that their durations are usable,
and where each part of the analysis comes from.

Results:
1. `Element.mem_channels`: the channels of an element have a shape or a level.
2. `analyse_eq_ok`: an accepted ensemble is `Analysed`.
3. `Analysed.length_bins`, `Analysed.sum_bins`: one entry for every played
   element, and all of them together are the samples.
4. `played_congr`, `analyse_congr`: other blocks than those of the list do not
   matter.
-/

namespace PulseBench

namespace Element

variable {α : Type} {e : Element α} {n : String}

theorem mem_analogChannels : n ∈ e.analogChannels.names ↔ e.shapes.contains n = true :=
  NameSet.mem_ofList.trans (Roster.mem_names_iff.trans Roster.contains_iff.symm)

theorem mem_digitalChannels : n ∈ e.digitalChannels.names ↔ e.levels.contains n = true :=
  NameSet.mem_ofList.trans (Roster.mem_names_iff.trans Roster.contains_iff.symm)

theorem mem_channels :
    n ∈ e.channels.names ↔ e.shapes.contains n = true ∨ e.levels.contains n = true := by
  rw [← mem_analogChannels, ← mem_digitalChannels, or_comm]
  exact NameSet.mem_foldl_insert _ _ n

end Element

namespace Ensemble

variable {α : Type} [Scalar α]

/-- An ensemble that plays these elements and was accepted with this analysis. -/
structure Analysed (e : Ensemble α) (blocks : Roster (Block α)) (rate : α)
    (played : List (Played α)) (a : Analysis α) : Prop where
  rate_positive : Scalar.isPositive rate = true
  plays : e.played blocks = .ok played
  valid : ∀ p ∈ played, (0.0 : α) ≤ p.length ∧ Scalar.isFinite p.length = true
  same_channels : ∀ p ∈ played, p.element.channels = a.channels
  bins : a.bins = (Timeline.start rate).bins (played.map Played.length)
  samples : a.samples = ((Timeline.start rate).run (played.map Played.length)).emitted

theorem durations_eq_ok {e : Ensemble α} {played : List (Played α)} {durations : List α}
    (h : e.durations played = .ok durations) :
    durations = played.map Played.length ∧
      ∀ p ∈ played, (0.0 : α) ≤ p.length ∧ Scalar.isFinite p.length = true := by
  unfold Ensemble.durations at h
  induction played generalizing durations with
  | nil =>
    cases h
    exact ⟨rfl, fun _ member => absurd member List.not_mem_nil⟩
  | cons p rest ih =>
    obtain ⟨length, tail, first, others, rfl⟩ := mapM_ok_cons h
    obtain ⟨rfl, valid⟩ := ih others
    split at first
    · rename_i usable
      cases first
      rw [Bool.and_eq_true, decide_eq_true_eq] at usable
      refine ⟨rfl, fun q member => ?_⟩
      rcases List.mem_cons.mp member with rfl | inRest
      · exact usable
      · exact valid q inRest
    · cases first

omit [Scalar α] in
theorem consistentPlayback_eq_ok {e : Ensemble α} {blocks : Roster (Block α)}
    {first : Played α} {played : List (Played α)}
    (h : e.consistentPlayback blocks = .ok (first, played)) :
    e.played blocks = .ok played ∧ (∃ rest, played = first :: rest) ∧
      ∀ p ∈ played, p.element.channels = first.element.channels := by
  unfold consistentPlayback at h
  cases listed : e.played blocks with
  | error f => rw [listed] at h; cases h
  | ok all =>
    rw [listed] at h
    cases all with
    | nil => cases h
    | cons head rest =>
      simp only [bind, Except.bind] at h
      split at h
      · cases h
      · rename_i found
        cases h
        refine ⟨rfl, ⟨rest, rfl⟩, fun p member => ?_⟩
        have same := List.find?_eq_none.mp found p member
        simpa using same

/-- What is known of an accepted ensemble. -/
theorem analyse_eq_ok {e : Ensemble α} {blocks : Roster (Block α)} {rate : α}
    {a : Analysis α} (h : e.analyse blocks rate = .ok a) :
    ∃ played, e.Analysed blocks rate played a := by
  unfold analyse at h
  by_cases positive : Scalar.isPositive rate = true
  · simp only [positive, bind, Except.bind, pure, Except.pure] at h
    cases listed : e.consistentPlayback blocks with
    | error f => simp [listed] at h
    | ok found =>
      obtain ⟨first, played⟩ := found
      obtain ⟨plays, ⟨rest, rfl⟩, same⟩ := consistentPlayback_eq_ok listed
      cases timed : e.durations (first :: rest) with
      | error f => simp [listed, timed] at h
      | ok durations =>
        obtain ⟨rfl, valid⟩ := durations_eq_ok timed
        simp only [listed, timed] at h
        cases h
        exact ⟨_, positive, plays, valid, same, rfl, rfl⟩
  · simp [positive, bind, Except.bind, throw, throwThe, MonadExceptOf.throw] at h

namespace Analysed

variable {e : Ensemble α} {blocks : Roster (Block α)} {rate : α} {played : List (Played α)}
  {a : Analysis α}

/-- One entry for every played element. -/
theorem length_bins (h : e.Analysed blocks rate played a) : a.bins.length = played.length := by
  rw [h.bins, Timeline.bins_length, List.length_map]

theorem sum_bins (h : e.Analysed blocks rate played a) : a.bins.sum = a.samples := by
  rw [h.bins, h.samples, Timeline.sum_bins_start]

end Analysed

section Congruence

variable {e : Ensemble α} {blocks other : Roster (Block α)}

omit [Scalar α] in
theorem play_congr {name : String} (same : other.get? name = blocks.get? name) (repetitions : Nat) :
    e.play other name repetitions = e.play blocks name repetitions := by
  unfold play
  rw [same]

omit [Scalar α] in
/-- Playback looks at no other blocks than those of the list. -/
theorem played_congr (same : ∀ play ∈ e.plays, other.get? play.1 = blocks.get? play.1) :
    e.played other = e.played blocks := by
  have plays : ∀ entry ∈ e.plays,
      e.play other entry.1 entry.2 = e.play blocks entry.1 entry.2 :=
    fun entry member => play_congr (same entry member) entry.2
  unfold played
  rw [mapM_congr plays]

theorem analyse_congr (same : ∀ play ∈ e.plays, other.get? play.1 = blocks.get? play.1)
    (rate : α) : e.analyse other rate = e.analyse blocks rate := by
  unfold analyse consistentPlayback
  rw [played_congr same]

end Congruence

end Ensemble

end PulseBench
