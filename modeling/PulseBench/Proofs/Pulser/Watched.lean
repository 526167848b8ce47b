import PulseBench.Proofs.Outcome
import PulseBench.Pulser.Device

/-!
# A pulse generator under watch

What a device was sent is not to be seen in its state: any `Pulser` may keep what it
likes of a chunk. So the device is put under watch. `WatchedPulser` passes every call
on and keeps a list of the chunks that were sent, with what the device answered.

Watching changes nothing: an action on the device under watch that `Passes` on the
calls of another one has its outcome, and leaves the device behind the watch as that
one does.

Results:
1. `WatchedPulser`: a device under watch.
2. `Passes.bind`, `Passes.lift`, `Passes.writeWaveform`, `Passes.deleteWaveform`: actions that
   pass calls on.
-/

namespace PulseBench

variable {α δ β γ : Type}

/-! ## 1. Chunks that were sent -/

/-- A chunk as it was sent to a device, and how many samples the device reported as written;
nothing if it refused the chunk. -/
structure Write (α : Type) where
  name : String
  chunk : Chunk α
  reported : Option Nat

/-- The samples that the device reported. -/
def Write.samples (w : Write α) : Nat := w.reported.getD 0

/-- A device, and all chunks that were sent to it. -/
structure WatchedPulser (α δ : Type) where
  inner : δ
  writes : List (Write α)

namespace WatchedPulser

/-- A device from now on. -/
def fresh (inner : δ) : WatchedPulser α δ := ⟨inner, []⟩

/-- A call that is passed on. -/
def reach (act : Action α δ β) : Action α (WatchedPulser α δ) β := fun w =>
  match act w.inner with
  | .ok b inner => .ok b { w with inner }
  | .error e inner => .error e { w with inner }

section Watching

variable [Pulser α δ]

/-- A chunk is passed on and listed, also if the device refuses it. -/
def writeWaveform (name : String) (chunk : Chunk α) : Action α (WatchedPulser α δ) Nat := fun w =>
  match (Pulser.writeWaveform name chunk : Action α δ Nat) w.inner with
  | .ok n inner => .ok n ⟨inner, w.writes ++ [⟨name, chunk, some n⟩]⟩
  | .error e inner => .error e ⟨inner, w.writes ++ [⟨name, chunk, none⟩]⟩

instance : Pulser α (WatchedPulser α δ) where
  limits w := Pulser.limits w.inner
  activeChannels w := Pulser.activeChannels w.inner
  rate w := Pulser.rate w.inner
  amplitudes w := Pulser.amplitudes w.inner
  waveformNames w := Pulser.waveformNames w.inner
  sequenceNames w := Pulser.sequenceNames w.inner
  setActiveChannels channels := reach (Pulser.setActiveChannels channels)
  setRate rate := reach (Pulser.setRate rate)
  setAmplitudes amplitudes := reach (Pulser.setAmplitudes amplitudes)
  writeWaveform := writeWaveform
  writeSequence name steps := reach (Pulser.writeSequence name steps)
  upload name := reach (Pulser.upload name)
  load name := reach (Pulser.load name)
  deleteWaveform name := reach (Pulser.deleteWaveform name)
  deleteSequence name := reach (Pulser.deleteSequence name)
  clear := reach Pulser.clear
  setOutput on := reach (Pulser.setOutput on)

/-- What was written is listed with the answer of the device. -/
theorem writeWaveform_ok {name : String} {chunk : Chunk α} {w w' : WatchedPulser α δ} {n : Nat}
    (wrote : (Pulser.writeWaveform name chunk : Action α (WatchedPulser α δ) Nat) w = .ok n w') :
    w'.writes = w.writes ++ [⟨name, chunk, some n⟩] := by
  change writeWaveform name chunk w = .ok n w' at wrote
  unfold writeWaveform at wrote
  split at wrote
  · cases wrote
    rfl
  · cases wrote

end Watching

/-! ## 2. Passing calls on -/

/-- An action under watch does to the device behind it what another one does without. -/
structure Passes (act : Action α δ β) (watched : Action α (WatchedPulser α δ) β) : Prop where
  ok : ∀ w b inner, act w.inner = .ok b inner → ∃ writes, watched w = .ok b ⟨inner, writes⟩
  error : ∀ w e inner, act w.inner = .error e inner →
    ∃ writes, watched w = .error e ⟨inner, writes⟩

namespace Passes

theorem reach (act : Action α δ β) : Passes act (WatchedPulser.reach act) where
  ok w b inner done := ⟨w.writes, by rw [WatchedPulser.reach, done]⟩
  error w e inner failed := ⟨w.writes, by rw [WatchedPulser.reach, failed]⟩

protected theorem pure (b : β) : Passes (pure b : Action α δ β) (pure b) where
  ok w _ _ done := by
    cases done
    exact ⟨w.writes, rfl⟩
  error _ _ _ failed := by cases failed

protected theorem throw (e : Failure α) : Passes (throw e : Action α δ β) (throw e) where
  ok _ _ _ done := by cases done
  error w _ _ failed := by
    cases failed
    exact ⟨w.writes, rfl⟩

protected theorem lift (outcome : Except (Failure α) β) :
    Passes (Action.lift outcome : Action α δ β) (Action.lift outcome) := by
  cases outcome with
  | ok b => exact Passes.pure b
  | error e => exact Passes.throw e

theorem bind {act : Action α δ β} {watched : Action α (WatchedPulser α δ) β}
    {next : β → Action α δ γ} {watchedNext : β → Action α (WatchedPulser α δ) γ}
    (first : Passes act watched) (rest : ∀ b, Passes (next b) (watchedNext b)) :
    Passes (act >>= next) (watched >>= watchedNext) where
  ok w c inner done := by
    obtain ⟨b, between, ran, done⟩ := Action.bind_ok_iff.mp done
    obtain ⟨writes, watchedRan⟩ := first.ok w b between ran
    rw [Action.bind_of_ok watchedRan]
    exact (rest b).ok ⟨between, writes⟩ c inner done
  error w e inner failed := by
    rcases Action.bind_error_iff.mp failed with stopped | ⟨b, between, ran, failed⟩
    · obtain ⟨writes, watchedStopped⟩ := first.error w e inner stopped
      exact ⟨writes, Action.bind_of_error watchedStopped⟩
    · obtain ⟨writes, watchedRan⟩ := first.ok w b between ran
      rw [Action.bind_of_ok watchedRan]
      exact (rest b).error ⟨between, writes⟩ e inner failed

variable [Pulser α δ]

theorem writeWaveform (name : String) (chunk : Chunk α) :
    Passes (Pulser.writeWaveform name chunk : Action α δ Nat)
      (Pulser.writeWaveform name chunk) where
  ok w n inner wrote := by
    refine ⟨w.writes ++ [⟨name, chunk, some n⟩], ?_⟩
    change WatchedPulser.writeWaveform name chunk w = _
    rw [WatchedPulser.writeWaveform, wrote]
  error w e inner refused := by
    refine ⟨w.writes ++ [⟨name, chunk, none⟩], ?_⟩
    change WatchedPulser.writeWaveform name chunk w = _
    rw [WatchedPulser.writeWaveform, refused]

theorem deleteWaveform (name : String) :
    Passes (Pulser.deleteWaveform name : Action α δ (List String)) (Pulser.deleteWaveform name) :=
  reach _

end Passes

end WatchedPulser

end PulseBench
