import PulseBench.Proofs.Compile.Calls
import PulseBench.Proofs.Pulser.Faulty
import PulseBench.Proofs.Pulser.Memory

/-!
# The output of a pulse generator

No call but `setOutput` is meant to touch the output. `Switchless` lists all other calls,
for any relation that they keep, and `Serving` those of them that set nothing either. An
`OutputView` reads off whether the output is on, for devices that switch it without fail,
whatever else goes wrong with them.

Results:
1. `MemoryPulser.serving`, `MemoryPulser.switchless`, `MemoryPulser.outputView`: a device in
   memory, call by call, and as a whole if it refuses nothing.
2. `FaultyPulser.serving`, `FaultyPulser.outputView`: a device behind a plan, and its output if
   the plan never fails a switch.
-/

namespace PulseBench

variable {α δ : Type}

open Action (Moves after after_of_ok after_of_error)

/-- All calls of a device but that which switches the output keep a relation. -/
structure Switchless [Pulser α δ] (D : δ → δ → Prop) : Prop extends Compiler.Writing D where
  setActiveChannels : ∀ channels, Moves D (Pulser.setActiveChannels channels)
  setRate : ∀ rate, Moves D (Pulser.setRate rate)
  setAmplitudes : ∀ amplitudes, Moves D (Pulser.setAmplitudes amplitudes)
  upload : ∀ name, Moves D (Pulser.upload name)
  load : ∀ name, Moves D (Pulser.load name)
  deleteSequence : ∀ name, Moves D (Pulser.deleteSequence name)
  clear : Moves D (Pulser.clear : Action α δ Unit)

/-- The calls that neither set anything nor switch the output keep a relation. -/
structure Serving [Pulser α δ] (D : δ → δ → Prop) : Prop extends Compiler.Writing D where
  upload : ∀ name, Moves D (Pulser.upload name)
  load : ∀ name, Moves D (Pulser.load name)
  deleteSequence : ∀ name, Moves D (Pulser.deleteSequence name)
  clear : Moves D (Pulser.clear : Action α δ Unit)

theorem Switchless.serving [Pulser α δ] {D : δ → δ → Prop} (h : Switchless D) : Serving D where
  toWriting := h.toWriting
  upload := h.upload
  load := h.load
  deleteSequence := h.deleteSequence
  clear := h.clear

/-- What these calls keep is kept together with whatever follows from it. -/
theorem Serving.weaken [Pulser α δ] {D E : δ → δ → Prop} (h : Serving D) (refl : ∀ d, E d d)
    (trans : ∀ a b c, E a b → E b c → E a c) (follows : ∀ a b, D a b → E a b) : Serving E where
  refl := refl
  trans := trans
  writeWaveform name chunk d := follows _ _ (h.writeWaveform name chunk d)
  deleteWaveform name d := follows _ _ (h.deleteWaveform name d)
  writeSequence name steps d := follows _ _ (h.writeSequence name steps d)
  upload name d := follows _ _ (h.upload name d)
  load name d := follows _ _ (h.load name d)
  deleteSequence name d := follows _ _ (h.deleteSequence name d)
  clear d := follows _ _ (h.clear d)

/-- Where everything is allowed, all calls are. -/
theorem Switchless.all [Pulser α δ] : Switchless fun _ _ : δ => True where
  refl _ := trivial
  trans _ _ _ _ _ := trivial
  writeWaveform _ _ _ := trivial
  deleteWaveform _ _ := trivial
  writeSequence _ _ _ := trivial
  setActiveChannels _ _ := trivial
  setRate _ _ := trivial
  setAmplitudes _ _ := trivial
  upload _ _ := trivial
  load _ _ := trivial
  deleteSequence _ _ := trivial
  clear _ := trivial

/-- Where switching does not fail, it still does not, and the output is as it was. -/
def KeepsOutput (reliable : δ → Prop) (isOn : δ → Bool) (before after : δ) : Prop :=
  reliable before → reliable after ∧ isOn after = isOn before

/-- It is enough that calls keep something from which it follows. -/
theorem Switchless.keepsOutput [Pulser α δ] {D : δ → δ → Prop} {reliable : δ → Prop}
    {isOn : δ → Bool} (h : Switchless D) (follows : ∀ a b, D a b → KeepsOutput reliable isOn a b) :
    Switchless (KeepsOutput reliable isOn) where
  refl _ sound := ⟨sound, rfl⟩
  trans _ _ _ first second sound := by
    obtain ⟨between, same⟩ := first sound
    obtain ⟨behind, later⟩ := second between
    exact ⟨behind, later.trans same⟩
  writeWaveform name chunk d := follows _ _ (h.writeWaveform name chunk d)
  deleteWaveform name d := follows _ _ (h.deleteWaveform name d)
  writeSequence name steps d := follows _ _ (h.writeSequence name steps d)
  setActiveChannels channels d := follows _ _ (h.setActiveChannels channels d)
  setRate rate d := follows _ _ (h.setRate rate d)
  setAmplitudes amplitudes d := follows _ _ (h.setAmplitudes amplitudes d)
  upload name d := follows _ _ (h.upload name d)
  load name d := follows _ _ (h.load name d)
  deleteSequence name d := follows _ _ (h.deleteSequence name d)
  clear d := follows _ _ (h.clear d)

/-- How to see the output of a device, in states in which switching does not fail. -/
structure OutputView (α δ : Type) [Pulser α δ] where
  reliable : δ → Prop
  isOn : δ → Bool
  switches : ∀ on d, reliable d →
    ∃ answer d', (Pulser.setOutput on : Action α δ Bool) d = .ok answer d' ∧
      reliable d' ∧ isOn d' = on
  others : Switchless (KeepsOutput reliable isOn)

/-! ## 1. In memory -/

namespace MemoryPulser

/-- Nothing but what the device stores, and its account of the calls, is different. -/
structure SameFront (before after : MemoryPulser α) : Prop where
  limits : after.limits = before.limits
  active : after.active = before.active
  rate : after.rate = before.rate
  amplitudes : after.amplitudes = before.amplitudes
  outputOn : after.outputOn = before.outputOn
  refuseAfter : after.refuseAfter = before.refuseAfter

namespace SameFront

theorem refl (p : MemoryPulser α) : SameFront p p := ⟨rfl, rfl, rfl, rfl, rfl, rfl⟩

theorem trans (p q r : MemoryPulser α) (first : SameFront p q) (second : SameFront q r) :
    SameFront p r where
  limits := second.limits.trans first.limits
  active := second.active.trans first.active
  rate := second.rate.trans first.rate
  amplitudes := second.amplitudes.trans first.amplitudes
  outputOn := second.outputOn.trans first.outputOn
  refuseAfter := second.refuseAfter.trans first.refuseAfter

end SameFront

theorem ensureAccepted_sameFront (call : PulserCall) :
    Moves SameFront (ensureAccepted call : Action α (MemoryPulser α) Unit) :=
  Moves.get_bind fun p => by split <;> exact SameFront.refl p

theorem writeWaveform_sameFront (name : String) (chunk : Chunk α) :
    Moves SameFront (writeWaveform name chunk) := by
  refine Moves.bind SameFront.trans (ensureAccepted_sameFront _) fun _ => ?_
  refine Moves.get_bind fun p => ?_
  cases p.continued? name chunk with
  | none => exact SameFront.refl p
  | some held => exact ⟨rfl, rfl, rfl, rfl, rfl, rfl⟩

theorem writeSequence_sameFront (name : String) (steps : List ProgramStep) :
    Moves SameFront (writeSequence name steps : Action α (MemoryPulser α) Nat) := by
  refine Moves.bind SameFront.trans (ensureAccepted_sameFront _) fun _ => ?_
  refine Moves.get_bind fun p => ?_
  dsimp only
  split
  · exact SameFront.refl p
  · exact ⟨rfl, rfl, rfl, rfl, rfl, rfl⟩

theorem upload_sameFront (name : String) :
    Moves SameFront (upload name : Action α (MemoryPulser α) Unit) := by
  refine Moves.get_bind fun p => ?_
  split <;> exact ⟨rfl, rfl, rfl, rfl, rfl, rfl⟩

theorem load_sameFront (name : String) :
    Moves SameFront (load name : Action α (MemoryPulser α) Unit) := by
  refine Moves.get_bind fun p => ?_
  split <;> exact ⟨rfl, rfl, rfl, rfl, rfl, rfl⟩

theorem serving [Scalar α] : Serving (SameFront (α := α)) where
  refl := SameFront.refl
  trans := SameFront.trans
  writeWaveform := writeWaveform_sameFront
  deleteWaveform _ _ := ⟨rfl, rfl, rfl, rfl, rfl, rfl⟩
  writeSequence := writeSequence_sameFront
  upload := upload_sameFront
  load := load_sameFront
  deleteSequence _ _ := ⟨rfl, rfl, rfl, rfl, rfl, rfl⟩
  clear _ := ⟨rfl, rfl, rfl, rfl, rfl, rfl⟩

/-- The output is as it was, and so is the number of writes that the device accepts. -/
structure SameOutput (before after : MemoryPulser α) : Prop where
  outputOn : after.outputOn = before.outputOn
  refuseAfter : after.refuseAfter = before.refuseAfter

namespace SameOutput

theorem refl (p : MemoryPulser α) : SameOutput p p := ⟨rfl, rfl⟩

theorem trans (p q r : MemoryPulser α) (first : SameOutput p q) (second : SameOutput q r) :
    SameOutput p r :=
  ⟨second.outputOn.trans first.outputOn, second.refuseAfter.trans first.refuseAfter⟩

end SameOutput

theorem setActiveChannels_sameOutput (channels : NameSet) :
    Moves SameOutput (setActiveChannels channels : Action α (MemoryPulser α) NameSet) := by
  refine Moves.bind SameOutput.trans (Moves.modify fun _ => ⟨rfl, rfl⟩) fun _ => ?_
  refine Moves.get_bind fun p => ?_
  split <;> exact ⟨rfl, rfl⟩

theorem switchless [Scalar α] : Switchless (SameOutput (α := α)) :=
  { serving.weaken SameOutput.refl SameOutput.trans fun _ _ same =>
      ⟨same.outputOn, same.refuseAfter⟩ with
    setActiveChannels := setActiveChannels_sameOutput
    setRate := fun _ _ => ⟨rfl, rfl⟩
    setAmplitudes := fun _ _ => ⟨rfl, rfl⟩ }

/-- The output of a device that refuses nothing. -/
def outputView [Scalar α] : OutputView α (MemoryPulser α) where
  reliable := Accepting
  isOn := outputOn
  switches on p accepting := by
    refine ⟨on, { note (.setOutput on) p with outputOn := on }, ?_, accepting, rfl⟩
    exact Action.bind_of_ok (ensureAccepted_ok accepting _)
  others := switchless.keepsOutput fun _ _ same accepting =>
    ⟨same.refuseAfter.trans accepting, same.outputOn⟩

end MemoryPulser

/-! ## 2. Behind a plan -/

namespace FaultyPulser

variable [Pulser α δ]

/-- A plan may fail any call, and what is reported may be anything. -/
theorem serving {D : δ → δ → Prop} (h : Serving D) : Serving (Behind D) := by
  have called {β : Type} {act : Action α δ β} (moves : Moves D act) (call : PulserCall) :
      Moves (Behind D) (attempt call act) := attempt_moves h.refl moves call
  exact {
    refl := Behind.refl h.refl
    trans := Behind.trans h.trans
    writeWaveform := fun name chunk =>
      Moves.bind (Behind.trans h.trans) (called (h.writeWaveform name chunk) _)
        fun _ => Behind.refl h.refl
    deleteWaveform := fun name => called (h.deleteWaveform name) _
    writeSequence := fun name steps => called (h.writeSequence name steps) _
    upload := fun name => called (h.upload name) _
    load := fun name => called (h.load name) _
    deleteSequence := fun name => called (h.deleteSequence name) _
    clear := called h.clear _ }

theorem switchless {D : δ → δ → Prop} (h : Switchless D) : Switchless (Behind D) :=
  { serving h.serving with
    setActiveChannels := fun channels =>
      Moves.bind (Behind.trans h.trans) (attempt_moves h.refl (h.setActiveChannels channels) _)
        fun _ => Behind.refl h.refl
    setRate := fun rate => attempt_moves h.refl (h.setRate rate) _
    setAmplitudes := fun amplitudes => attempt_moves h.refl (h.setAmplitudes amplitudes) _ }

/-- The output of a device whose plan fails no switch. -/
def outputView (view : OutputView α δ) : OutputView α (FaultyPulser δ) where
  reliable p := view.reliable p.inner ∧ ∀ n, p.plan.fails .setOutput n = false
  isOn p := view.isOn p.inner
  switches on p reliable := by
    obtain ⟨answer, d', switched, kept, isOn⟩ := view.switches on p.inner reliable.1
    have here : (Pulser.setOutput on : Action α δ Bool) (counted .setOutput p).inner =
        .ok answer d' := switched
    refine ⟨answer, { counted .setOutput p with inner := d' }, ?_, ⟨kept, reliable.2⟩, isOn⟩
    change attempt .setOutput (Pulser.setOutput on) p = _
    rw [attempt_passed _ (reliable.2 _), reach, here]
  others := (switchless view.others).keepsOutput fun _ _ same reliable => by
    obtain ⟨kept, isOn⟩ := same.inner reliable.1
    exact ⟨⟨kept, same.plan ▸ reliable.2⟩, isOn⟩

end FaultyPulser

end PulseBench
