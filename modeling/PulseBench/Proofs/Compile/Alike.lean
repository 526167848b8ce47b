import PulseBench.Channel
import PulseBench.Proofs.Compile.Refinement

/-!
# Channels used in one way

All elements that an ensemble plays must have the same channels. What is compared
is the union of the channels with a shape and those with a level, so one element
may give a level to a channel that another one gives a shape. Compiling goes by
the channels of the first element: every element is asked for a shape on its
analog channels and for a level on its digital ones, and for nothing else. So an
ensemble with a `Mixed` channel is accepted, but part of it is not played, or a
shape is missed when its element is reached, behind the chunks before it.

Results:
1. `Ensemble.Analysed.first`: the channels of an analysis are those of the first
   played element.
2. `Analysis.usedAlike_iff_unmixed`, `Analysis.usedAlike_of_kinds`: all elements
   use the channels alike exactly if none is mixed; so they do if shapes are
   given to analog channels and levels to digital ones.
3. `exists_referenceBin_iff`: whose bins the reference lists.
4. `channels_alike_iff_unmixed`: both together, and what compiling finds. In
   `mixed_channel_missed_midway` a shape is missed.
-/

namespace PulseBench

variable {α : Type}

/-! ## 1. The channels of an analysis -/

/-- An accepted ensemble plays something, and its first element names the channels. -/
theorem Ensemble.Analysed.first [Scalar α] {e : Ensemble α} {blocks : Roster (Block α)} {rate : α}
    {played : List (Played α)} {a : Analysis α} (known : e.Analysed blocks rate played a)
    (analysed : e.analyse blocks rate = .ok a) :
    ∃ first ∈ played, a.analog = first.element.analogChannels ∧
      a.digital = first.element.digitalChannels := by
  unfold Ensemble.analyse at analysed
  rw [known.rate_positive] at analysed
  obtain ⟨⟨own, elements⟩, listed, timed⟩ := bind_eq_ok.mp analysed
  obtain ⟨durations, -, made⟩ := bind_eq_ok.mp timed
  obtain ⟨plays, ⟨rest, rfl⟩, -⟩ := consistentPlayback_eq_ok listed
  have same : played = own :: rest := Except.ok.inj (known.plays.symm.trans plays)
  subst same
  cases made
  exact ⟨own, List.mem_cons_self, rfl, rfl⟩

/-! ## 2. Elements that use the channels alike -/

theorem Channel.not_digital_of_analog {name : String} (analog : isAnalog name = true) :
    isDigital name = false := by
  have kind : kindOf? name = some .analog := beq_iff_eq.mp analog
  rw [isDigital, kind]
  rfl

namespace Element

/-- Shapes are given to analog channels and levels to digital ones. -/
structure KeepsKinds (e : Element α) : Prop where
  shapes : ∀ channel, e.shapes.contains channel = true → Channel.isAnalog channel = true
  levels : ∀ channel, e.levels.contains channel = true → Channel.isDigital channel = true

namespace KeepsKinds

variable {e : Element α} {channel : String}

theorem mem_analogChannels_iff (kept : e.KeepsKinds) :
    channel ∈ e.analogChannels.names ↔
      channel ∈ e.channels.names ∧ Channel.isAnalog channel = true := by
  rw [mem_analogChannels, mem_channels]
  constructor
  · exact fun shape => ⟨.inl shape, kept.shapes channel shape⟩
  · rintro ⟨shape | level, analog⟩
    · exact shape
    · have digital := kept.levels channel level
      rw [Channel.not_digital_of_analog analog] at digital
      cases digital

theorem mem_digitalChannels_iff (kept : e.KeepsKinds) :
    channel ∈ e.digitalChannels.names ↔
      channel ∈ e.channels.names ∧ Channel.isDigital channel = true := by
  rw [mem_digitalChannels, mem_channels]
  constructor
  · exact fun level => ⟨.inr level, kept.levels channel level⟩
  · rintro ⟨shape | level, digital⟩
    · rw [Channel.not_digital_of_analog (kept.shapes channel shape)] at digital
      cases digital
    · exact level

end KeepsKinds

end Element

/-- A channel that has a shape in one of the elements and none in another, or a level in one and
none in another. -/
def Mixed (played : List (Played α)) (channel : String) : Prop :=
  ∃ p ∈ played, ∃ q ∈ played,
    p.element.shapes.contains channel ≠ q.element.shapes.contains channel ∨
      p.element.levels.contains channel ≠ q.element.levels.contains channel

namespace Analysis

/-- Every element has shapes on exactly the analog channels of the analysis, and levels on exactly
its digital ones. -/
def UsedAlike (a : Analysis α) (played : List (Played α)) : Prop :=
  ∀ p ∈ played, p.element.analogChannels = a.analog ∧ p.element.digitalChannels = a.digital

variable {a : Analysis α} {played : List (Played α)}

/-- With the channels of one of the elements, all elements are like that one exactly if no two of
them differ. -/
theorem usedAlike_iff_unmixed {first : Played α} (listed : first ∈ played)
    (analog : a.analog = first.element.analogChannels)
    (digital : a.digital = first.element.digitalChannels) :
    a.UsedAlike played ↔ ∀ channel, ¬ Mixed played channel := by
  constructor
  · rintro alike channel ⟨p, hp, q, hq, differ | differ⟩
    · refine differ (Bool.eq_iff_iff.mpr ?_)
      rw [← Element.mem_analogChannels, ← Element.mem_analogChannels, (alike p hp).1,
        (alike q hq).1]
    · refine differ (Bool.eq_iff_iff.mpr ?_)
      rw [← Element.mem_digitalChannels, ← Element.mem_digitalChannels, (alike p hp).2,
        (alike q hq).2]
  · intro unmixed p member
    have same (channel : String) :
        p.element.shapes.contains channel = first.element.shapes.contains channel ∧
          p.element.levels.contains channel = first.element.levels.contains channel := by
      by_contra differ
      exact unmixed channel ⟨p, member, first, listed, Decidable.not_and_iff_not_or_not.mp differ⟩
    refine ⟨NameSet.ext_mem fun channel => ?_, NameSet.ext_mem fun channel => ?_⟩
    · rw [analog, Element.mem_analogChannels, Element.mem_analogChannels, (same channel).1]
    · rw [digital, Element.mem_digitalChannels, Element.mem_digitalChannels, (same channel).2]

/-- A channel is of one kind, so that its kind tells whether it has a shape or a level. -/
theorem usedAlike_of_kinds {first : Played α} (listed : first ∈ played)
    (analog : a.analog = first.element.analogChannels)
    (digital : a.digital = first.element.digitalChannels)
    (channels : ∀ p ∈ played, p.element.channels = a.channels)
    (kinds : ∀ p ∈ played, p.element.KeepsKinds) : a.UsedAlike played := by
  intro p member
  have same : p.element.channels = first.element.channels :=
    (channels p member).trans (channels first listed).symm
  refine ⟨NameSet.ext_mem fun channel => ?_, NameSet.ext_mem fun channel => ?_⟩
  · rw [analog, (kinds p member).mem_analogChannels_iff,
      (kinds first listed).mem_analogChannels_iff, same]
  · rw [digital, (kinds p member).mem_digitalChannels_iff,
      (kinds first listed).mem_digitalChannels_iff, same]

end Analysis

namespace Compiler

/-! ## 3. Whose bins the reference lists -/

/-- The reference lists bins of exactly those played elements that get some. -/
theorem exists_referenceBin_iff [Scalar α] (c : Compiler α) (rotating : Bool) (offset : Nat)
    {played : List (Played α)} {bins : List Nat} {e : Element α}
    (same : bins.length = played.length) :
    (∃ b ∈ c.referenceBins rotating offset played bins, b.element = e) ↔
      ∃ p n, (p, n) ∈ played.zip bins ∧ 0 < n ∧ p.element = e := by
  constructor
  · rintro ⟨b, listed, rfl⟩
    obtain ⟨piece, whole, inPiece⟩ := List.mem_flatMap.mp listed
    obtain ⟨⟨⟨p, n⟩, first⟩, placed, rfl⟩ := List.mem_map.mp whole
    obtain ⟨i, inside, rfl⟩ := List.mem_map.mp inPiece
    have below : i < 0 + n := (List.mem_range'_1.mp inside).2
    exact ⟨p, n, (List.of_mem_zip placed).1, by omega, rfl⟩
  · rintro ⟨p, n, placed, filled, rfl⟩
    obtain ⟨k, pair⟩ := List.mem_iff_getElem?.mp placed
    obtain ⟨listed, given⟩ := List.getElem?_zip_eq_some.mp pair
    exact ⟨_, List.mem_of_getElem? (c.referenceBins_getElem? rotating offset same listed given
      filled), rfl⟩

/-! ## 4. What compiling finds -/

section Compilation

variable [Analytic α] {c : Compiler α} {e : Ensemble α} {blocks : Roster (Block α)} {a : Analysis α}
  {played : List (Played α)}

/-- A bin without a shape has no sample, so its ensemble is not compiled. -/
theorem not_succeeds_of_missing (analysed : e.analyse blocks c.settings.rate = .ok a)
    (plays : e.played blocks = .ok played) {offset : Nat} {b : Bin α} {channel : String}
    (listed : b ∈ c.referenceBins e.rotating offset played a.bins)
    (inUse : channel ∈ a.analog.names) (missing : b.element.shapes.contains channel = false)
    (name : String) {device : MemoryPulser α} (accepting : device.Accepting) :
    ¬ (c.sampleEnsemble e blocks name offset).Succeeds device := by
  rw [succeeds_iff_compiles accepting]
  rintro ⟨own, elements, compiles⟩
  cases analysed.symm.trans compiles.analysed
  cases plays.symm.trans compiles.plays
  obtain ⟨value, evaluated⟩ := compiles.evaluates b listed channel inUse
  obtain ⟨shape, _, shaped, -⟩ := analogAt_eq_ok evaluated
  rw [Roster.contains_eq_false_iff.mp missing] at shaped
  cases shaped

/-- An accepted ensemble uses every channel in one way exactly if no channel is mixed. All its
elements have the same channels in any case; if they keep to the kinds of the channels then none is
mixed. Used alike, every bin that is compiled has a shape on exactly the analog channels of the
analysis and a level on exactly its digital ones: none is missed, and none is left out. An element
with a bin but without one of the shapes makes compiling fail on every device that refuses
nothing. -/
theorem channels_alike_iff_unmixed (analysed : e.analyse blocks c.settings.rate = .ok a) :
    ∃ played, e.played blocks = .ok played ∧
      (∀ p ∈ played, p.element.channels = a.channels) ∧
      (a.UsedAlike played ↔ ∀ channel, ¬ Mixed played channel) ∧
      ((∀ p ∈ played, p.element.KeepsKinds) → a.UsedAlike played) ∧
      (a.UsedAlike played →
        ∀ offset, ∀ b ∈ c.referenceBins e.rotating offset played a.bins, ∀ channel,
          (b.element.shapes.contains channel = true ↔ channel ∈ a.analog.names) ∧
          (b.element.levels.contains channel = true ↔ channel ∈ a.digital.names)) ∧
      ∀ p n, (p, n) ∈ played.zip a.bins → 0 < n → ∀ channel ∈ a.analog.names,
        p.element.shapes.contains channel = false →
        ∀ (name : String) (offset : Nat) (device : MemoryPulser α), device.Accepting →
          ¬ (c.sampleEnsemble e blocks name offset).Succeeds device := by
  obtain ⟨played, known⟩ := Ensemble.analyse_eq_ok analysed
  obtain ⟨first, listed, analog, digital⟩ := known.first analysed
  refine ⟨played, known.plays, known.same_channels,
    Analysis.usedAlike_iff_unmixed listed analog digital,
    Analysis.usedAlike_of_kinds listed analog digital known.same_channels, ?_, ?_⟩
  · intro alike offset b inReference channel
    obtain ⟨p, n, placed, -, own⟩ :=
      (c.exists_referenceBin_iff e.rotating offset known.length_bins).mp ⟨b, inReference, rfl⟩
    obtain ⟨sameAnalog, sameDigital⟩ := alike p (List.of_mem_zip placed).1
    rw [← own, ← sameAnalog, ← sameDigital]
    exact ⟨Element.mem_analogChannels.symm, Element.mem_digitalChannels.symm⟩
  · intro p n placed filled channel inUse missing name offset device accepting
    obtain ⟨b, inReference, own⟩ :=
      (c.exists_referenceBin_iff e.rotating offset known.length_bins).mpr
        ⟨p, n, placed, filled, rfl⟩
    exact not_succeeds_of_missing analysed known.plays inReference inUse (own ▸ missing) name
      accepting

end Compilation

/-! The analog channel has a constant voltage in one block and a level in the other. -/

/-- Both channels have a level, and none has a shape. -/
def levelElement : Element ℚ := ⟨2, 0, ∅, Roster.ofList [("a_ch1", true), ("d_ch1", false)], false⟩

def mixedBlocks : Roster (Block ℚ) :=
  Roster.ofList [("steady", ⟨"steady", [steadyElement 3 true]⟩),
    ("level", ⟨"level", [levelElement]⟩)]

def mixedEnsemble : Ensemble ℚ := ⟨"mixed", [("steady", 1), ("level", 1)], false, none, none⟩

theorem steadyElement_keepsKinds (length : ℚ) (high : Bool) :
    (steadyElement length high).KeepsKinds where
  shapes channel shaped := by
    have own : channel = "a_ch1" :=
      List.mem_singleton.mp (Roster.mem_names_iff.mpr (Roster.contains_iff.mp shaped))
    rw [own]
    decide +kernel
  levels channel levelled := by
    have own : channel = "d_ch1" :=
      List.mem_singleton.mp (Roster.mem_names_iff.mpr (Roster.contains_iff.mp levelled))
    rw [own]
    decide +kernel

/-- A shape on the analog channel and a level on the digital one, in both elements. -/
theorem channels_alike_iff_unmixed_steady :
    ∃ a, steadyEnsemble.analyse steadyBlocks steadyCompiler.settings.rate = .ok a ∧
      ∃ played, steadyEnsemble.played steadyBlocks = .ok played ∧ played.length = 2 ∧
        a.UsedAlike played := by
  have accepted : (steadyEnsemble.analyse steadyBlocks
      steadyCompiler.settings.rate).toOption.isSome = true := by decide +kernel
  have plays : steadyEnsemble.played steadyBlocks =
    .ok [⟨steadyElement 3 true, 0⟩, ⟨steadyElement (3 / 2) false, 0⟩] := rfl
  obtain ⟨a, found⟩ := Option.isSome_iff_exists.mp accepted
  have analysed := toOption_eq_some.mp found
  obtain ⟨played, own, -, -, alike, -⟩ := channels_alike_iff_unmixed (c := steadyCompiler) analysed
  cases plays.symm.trans own
  refine ⟨a, analysed, _, plays, rfl, alike fun p member => ?_⟩
  rcases List.mem_pair.mp member with rfl | rfl
  · exact steadyElement_keepsKinds 3 true
  · exact steadyElement_keepsKinds (3 / 2) false

/-- Analysis and validation accept the mixed channel. The missing shape is found behind the chunks
of the first element, which have been written by then. -/
theorem mixed_channel_missed_midway :
    ∃ a played, mixedEnsemble.analyse mixedBlocks steadyCompiler.settings.rate = .ok a ∧
      steadyCompiler.validate "mixed" a = .ok ⟨⟩ ∧ mixedEnsemble.played mixedBlocks = .ok played ∧
      ¬ a.UsedAlike played ∧
      ∃ device', steadyCompiler.sampleEnsemble mixedEnsemble mixedBlocks "mixed" 0
          (MemoryPulser.fresh steadyCompiler.limits) =
        .error (.program (.noShape "a_ch1")) device' ∧ device'.writes = 2 := by
  have accepted : (mixedEnsemble.analyse mixedBlocks steadyCompiler.settings.rate >>=
      steadyCompiler.validate "mixed").toOption.isSome = true := by decide +kernel
  have plays : mixedEnsemble.played mixedBlocks =
    .ok [⟨steadyElement 3 true, 0⟩, ⟨levelElement, 0⟩] := rfl
  have different : levelElement.analogChannels ≠ (steadyElement 3 true).analogChannels := by
    decide +kernel
  have ran : (match steadyCompiler.sampleEnsemble mixedEnsemble mixedBlocks "mixed" 0
      (MemoryPulser.fresh steadyCompiler.limits) with
    | .error (.program (.noShape channel)) device' => some (channel, device'.writes)
    | _ => none) = some ("a_ch1", 2) := by decide +kernel
  obtain ⟨⟨⟩, checked⟩ := Option.isSome_iff_exists.mp accepted
  obtain ⟨a, analysed, valid⟩ := bind_eq_ok.mp (toOption_eq_some.mp checked)
  refine ⟨a, _, analysed, valid, plays, fun alike => ?_, ?_⟩
  · have first := (alike ⟨steadyElement 3 true, 0⟩ List.mem_cons_self).1
    have second := (alike ⟨levelElement, 0⟩ (List.mem_cons_of_mem _ List.mem_cons_self)).1
    exact different (second.trans first.symm)
  · split at ran
    · rename_i channel device' failed
      obtain ⟨rfl, writes⟩ := Prod.mk.inj (Option.some.inj ran)
      exact ⟨device', failed, writes⟩
    · cases ran

end Compiler

end PulseBench
