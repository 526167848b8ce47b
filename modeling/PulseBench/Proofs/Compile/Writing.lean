import PulseBench.Proofs.Compile.Playback
import PulseBench.Proofs.Compile.Reference
import PulseBench.Proofs.Pulser.Memory

/-!
# Writing chunk by chunk

While a waveform is written, an accepting device holds the samples of all bins
written so far, and nothing of an earlier waveform of that name. `Written` is
this invariant; one chunk moves it on by its bins, so that behind the last chunk
the device holds the reference waveform.

Results:
1. `writeGroup_eq_ok`: one chunk is written when its bins were sampled and the
   device has accepted all of them.
   `writeGroup_ok`, `writeGroups_ok`: the invariant behind one chunk and behind
   all of them.
2. `writeGroup_error`, `writeGroups_error`: when writing fails. This does not
   depend on how the bins are grouped.
3. `sampleEnsemble_ok`, `sampleEnsemble_error`: an ensemble is compiled exactly
   when it `Compiles`, and then the device holds its reference waveform.
-/

namespace PulseBench

variable {α : Type}

open MemoryPulser (Frame Accepting)

/-- Some channel is in use. -/
def Analysis.HasChannel (a : Analysis α) : Prop := a.analog.names ≠ [] ∨ a.digital.names ≠ []

/-- The size of samples that are equally long on every channel. -/
theorem channelSize_tabulate {analog digital : NameSet} {f : String → List α}
    {g : String → List Bool} {n : Nat} (sameAnalog : ∀ name ∈ analog.names, (f name).length = n)
    (sameDigital : ∀ name ∈ digital.names, (g name).length = n) :
    channelSize (Roster.tabulate analog f) (Roster.tabulate digital g) =
      if analog.names ≠ [] ∨ digital.names ≠ [] then n else 0 := by
  obtain ⟨analog, increasing⟩ := analog
  obtain ⟨digital, rising⟩ := digital
  cases analog with
  | cons first rest =>
    have size := sameAnalog first List.mem_cons_self
    simpa [channelSize, Roster.values, Roster.tabulate] using size
  | nil =>
    cases digital with
    | cons first rest =>
      have size := sameDigital first List.mem_cons_self
      simpa [channelSize, Roster.values, Roster.tabulate] using size
    | nil => rfl

namespace Compiler

variable [Analytic α]

/-- While waveform `name` is written: the device holds the samples of the bins so far. -/
structure Written (c : Compiler α) (a : Analysis α) (name : String) (done : List (Bin α))
    (device : MemoryPulser α) : Prop where
  accepting : device.Accepting
  held : done ≠ [] →
    device.waveforms.get? name = some (c.waveformOf a done (done.length == a.samples))

/-! ## 1. One chunk -/

section OneChunk

variable {c : Compiler α} {a : Analysis α} {name : String} {group : List (Piece α)}
  {done : List (Bin α)} {device : MemoryPulser α}

theorem chunkFor_size (evaluates : c.Evaluates a.analog (c.groupBins group)) (written : Nat) :
    (c.chunkFor a written group).size =
      if a.analog.names ≠ [] ∨ a.digital.names ≠ [] then groupSize group else 0 := by
  refine channelSize_tabulate (fun channel member => ?_) fun channel _ => ?_
  · rw [evaluates.length_analogOf member, length_groupBins]
  · rw [digitalOf, List.length_map, length_groupBins]

/-- A first chunk starts the waveform, and a further one continues it. -/
theorem Written.continued (h : c.Written a name done device) (group : List (Piece α)) :
    ∃ w others, device.continued? name (c.chunkFor a done.length group) = some (w, others) ∧
      MemoryPulser.grown w (c.chunkFor a done.length group) =
        c.waveformOf a (done ++ c.groupBins group)
          ((done ++ c.groupBins group).length == a.samples) := by
  have last : (done ++ c.groupBins group).length = done.length + groupSize group := by
    rw [List.length_append, length_groupBins]
  rw [last]
  unfold MemoryPulser.continued?
  cases done with
  | nil =>
    refine ⟨_, _, rfl, ?_⟩
    simp only [MemoryPulser.grown, waveformOf, chunkFor, MemoryPulser.extend_empty,
      List.nil_append]
  | cons b rest =>
    have continues : (c.chunkFor a (b :: rest).length group).isFirst = false := rfl
    rw [if_neg (by rw [continues]; exact Bool.false_ne_true), h.held (List.cons_ne_nil b rest)]
    refine ⟨_, _, rfl, ?_⟩
    simp only [MemoryPulser.grown, waveformOf, chunkFor, MemoryPulser.extend_tabulate,
      analogOf_append, digitalOf, List.map_append]

/-- A chunk whose bins all have samples is written, if there is a channel to write. -/
theorem writeGroup_ok (h : c.Written a name done device) (nonempty : ∀ p ∈ group, 0 < p.size)
    (evaluates : c.Evaluates a.analog (c.groupBins group)) (channels : a.HasChannel) :
    ∃ device', c.writeGroup name a done.length group device = .ok (groupSize group) device' ∧
      c.Written a name (done ++ c.groupBins group) device' ∧ Frame (· = name) device device' := by
  obtain ⟨w, others, continues, grown⟩ := h.continued group
  obtain ⟨device', wrote, held, frame⟩ := MemoryPulser.writeWaveform_ok h.accepting continues
  have size : (c.chunkFor a done.length group).size = groupSize group := by
    rw [chunkFor_size evaluates]
    exact if_pos channels
  refine ⟨device', ?_, ⟨h.accepting.frame frame, fun _ => held.trans (by rw [grown])⟩, frame⟩
  unfold writeGroup
  rw [chunkOf_eq_ok nonempty evaluates, Action.bind_of_ok (Action.lift_ok _ _)]
  show (MemoryPulser.writeWaveform name (c.chunkFor a done.length group) >>= _) device = _
  rw [Action.bind_of_ok wrote, size]
  simp

/-- Otherwise it fails: before anything is written, or because nothing was written. -/
theorem writeGroup_error (h : c.Written a name done device) (nonempty : ∀ p ∈ group, 0 < p.size)
    (filled : group ≠ []) (fails : ¬ (c.Evaluates a.analog (c.groupBins group) ∧ a.HasChannel)) :
    ∃ f device', c.writeGroup name a done.length group device = .error f device' ∧
      Frame (· = name) device device' := by
  unfold writeGroup
  cases made : c.chunkOf a done.length group with
  | error f =>
    exact ⟨f, device, Action.bind_of_error (Action.lift_error _ _), Frame.refl _ _⟩
  | ok chunk =>
    have evaluates := evaluates_of_chunkOf nonempty made
    have noChannel : ¬ a.HasChannel := fun channels => fails ⟨evaluates, channels⟩
    rw [chunkOf_eq_ok nonempty evaluates] at made
    cases made
    obtain ⟨w, others, continues, -⟩ := h.continued group
    obtain ⟨device', wrote, -, frame⟩ := MemoryPulser.writeWaveform_ok h.accepting continues
    have size : (c.chunkFor a done.length group).size = 0 := by
      rw [chunkFor_size evaluates]
      exact if_neg noChannel
    have short : 0 ≠ groupSize group := Nat.ne_of_lt (groupSize_pos nonempty filled)
    refine ⟨.device (.shortWrite name 0 (groupSize group)), device', ?_, frame⟩
    rw [Action.bind_of_ok (Action.lift_ok _ _)]
    show (MemoryPulser.writeWaveform name (c.chunkFor a done.length group) >>= _) device = _
    rw [Action.bind_of_ok wrote, size]
    simp only [ne_eq, short, not_false_eq_true, if_true]
    rfl

/-- On any device, a group that is written has a chunk, and all samples of it are reported. -/
theorem writeGroup_eq_ok {δ : Type} [Pulser α δ] {written n : Nat} {d d' : δ}
    (done : c.writeGroup name a written group d = .ok n d') :
    n = groupSize group ∧ ∃ chunk, c.chunkOf a written group = .ok chunk ∧
      Pulser.writeWaveform name chunk d = .ok n d' := by
  obtain ⟨chunk, made, rest⟩ := Action.lift_bind_ok_iff.mp done
  obtain ⟨reported, between, wrote, counted⟩ := Action.bind_ok_iff.mp rest
  by_cases short : reported ≠ groupSize group
  · rw [if_pos short] at counted
    cases counted
  · rw [if_neg short] at counted
    cases counted
    exact ⟨rfl, chunk, made, not_ne_iff.mp short ▸ wrote⟩

end OneChunk

/-! ## 2. All chunks -/

section AllChunks

variable {c : Compiler α} {a : Analysis α} {name : String} {device : MemoryPulser α}

omit [Analytic α] in
theorem orDiscard_ok {β δ : Type} [Scalar α] [Pulser α δ] {act : Action α δ β}
    {device device' : δ} {b : β} (h : act device = .ok b device') (written : Nat) :
    orDiscard name written act device = .ok b device' := by
  rw [orDiscard, h]

omit [Analytic α] in
theorem orDiscard_eq_ok {β δ : Type} [Scalar α] [Pulser α δ] {act : Action α δ β}
    {device device' : δ} {b : β} {written : Nat} :
    orDiscard name written act device = .ok b device' ↔ act device = .ok b device' := by
  refine ⟨fun done => ?_, fun done => orDiscard_ok done written⟩
  cases ran : act device with
  | error f behind =>
    rw [orDiscard, ran] at done
    cases done
  | ok b' behind => rwa [orDiscard_ok ran] at done

theorem discard_frame (name : String) (device : MemoryPulser α) :
    Frame (· = name) device (discard name device) := by
  obtain ⟨device', deleted, -, frame⟩ := MemoryPulser.deleteWaveform_ok device name
  have call : (Pulser.deleteWaveform name : Action α (MemoryPulser α) (List String)) device =
      .ok _ device' := deleted
  rw [discard, call]
  exact frame

theorem orDiscard_error {β : Type} {act : Action α (MemoryPulser α) β}
    {device' : MemoryPulser α} {f : Failure α} (h : act device = .error f device')
    (frame : Frame (· = name) device device') (written : Nat) :
    ∃ device'', orDiscard name written act device = .error f device'' ∧
      Frame (· = name) device device'' := by
  rw [orDiscard, h]
  refine ⟨_, rfl, ?_⟩
  split
  · exact frame.trans (discard_frame name device')
  · exact frame

theorem writeGroups_ok {groups : List (List (Piece α))} {done : List (Bin α)}
    (h : c.Written a name done device) (nonempty : ∀ group ∈ groups, ∀ p ∈ group, 0 < p.size)
    (evaluates : c.Evaluates a.analog (groups.flatMap c.groupBins))
    (channels : groups ≠ [] → a.HasChannel)
    (total : (done ++ groups.flatMap c.groupBins).length = a.samples) :
    ∃ device', c.writeGroups name a done.length groups device = .ok ⟨⟩ device' ∧
      c.Written a name (done ++ groups.flatMap c.groupBins) device' ∧
      Frame (· = name) device device' := by
  induction groups generalizing done device with
  | nil =>
    rw [List.flatMap_nil, List.append_nil] at total ⊢
    refine ⟨device, orDiscard_ok ?_ _, h, Frame.refl _ _⟩
    simp [total]
  | cons group rest ih =>
    rw [List.flatMap_cons, Evaluates.append_iff] at evaluates
    rw [List.flatMap_cons, ← List.append_assoc] at total ⊢
    have hasChannel := channels (List.cons_ne_nil group rest)
    obtain ⟨middle, wrote, written, frame⟩ :=
      writeGroup_ok h (nonempty group List.mem_cons_self) evaluates.1 hasChannel
    obtain ⟨device', finished, behind, others⟩ := ih written
      (fun other member => nonempty other (List.mem_cons_of_mem _ member)) evaluates.2
      (fun _ => hasChannel) total
    refine ⟨device', ?_, behind, frame.trans others⟩
    rw [List.length_append, length_groupBins] at finished
    rw [writeGroups, Action.bind_of_ok (orDiscard_ok wrote _)]
    exact finished

theorem writeGroups_error {groups : List (List (Piece α))} {done : List (Bin α)}
    (h : c.Written a name done device) (nonempty : ∀ group ∈ groups, ∀ p ∈ group, 0 < p.size)
    (filled : ∀ group ∈ groups, group ≠ [])
    (fails : ¬ (c.Evaluates a.analog (groups.flatMap c.groupBins) ∧
      (groups ≠ [] → a.HasChannel))) :
    ∃ f device', c.writeGroups name a done.length groups device = .error f device' ∧
      Frame (· = name) device device' := by
  induction groups generalizing done device with
  | nil => exact absurd ⟨fun _ member => absurd member List.not_mem_nil, fun h => absurd rfl h⟩ fails
  | cons group rest ih =>
    rw [List.flatMap_cons, Evaluates.append_iff] at fails
    by_cases first : c.Evaluates a.analog (c.groupBins group) ∧ a.HasChannel
    · obtain ⟨middle, wrote, written, frame⟩ :=
        writeGroup_ok h (nonempty group List.mem_cons_self) first.1 first.2
      -- This chunk is written, so one of the others fails.
      obtain ⟨f, device', failed, others⟩ := ih written
        (fun other member => nonempty other (List.mem_cons_of_mem _ member))
        (fun other member => filled other (List.mem_cons_of_mem _ member))
        fun fine => fails ⟨⟨first.1, fine.1⟩, fun _ => first.2⟩
      refine ⟨f, device', ?_, frame.trans others⟩
      rw [List.length_append, length_groupBins] at failed
      rw [writeGroups, Action.bind_of_ok (orDiscard_ok wrote _)]
      exact failed
    · obtain ⟨f, middle, failed, frame⟩ := writeGroup_error h
        (nonempty group List.mem_cons_self) (filled group List.mem_cons_self) first
      obtain ⟨device', discarded, others⟩ := orDiscard_error failed frame done.length
      refine ⟨f, device', ?_, others⟩
      rw [writeGroups, Action.bind_of_error discarded]

end AllChunks

end Compiler

end PulseBench
