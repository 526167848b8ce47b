import PulseBench.Proofs.Generator.Reopened

/-!
# Records that outlive their waveforms

A generator that is started drops the records of what is not on its device. It asks for the name
alone, in one list of all waveforms and programs. So a record stays if one of its waveforms is
gone while a program has its name, and a sequence keeps its record without its program if there
is a waveform of its name. Such a record is `Shadowed`.

Here the directory may hold whatever the store wrote, also numbers that it cannot read again.
What is loaded then need not be what was saved, but it still bears the name of its file.

Results:
1. `Authored.mirrors`: a directory that only the store wrote to, whatever was saved.
2. `Authored.named_ensemble`, `Authored.named_sequence`: the names of what is loaded.
3. `dropStaleRecords_fileless`, `objects_of_started`: what a start leaves, if it succeeds.
4. `recordsFresh_iff_none_shadowed`: when every record that is left is right.
-/

namespace PulseBench

variable {α δ : Type}

/-! ## 1. Directories -/

namespace Store

variable [Scalar α] {s : Store α}

/-- A directory that only the store wrote to. Nothing is said about what it wrote. -/
inductive Authored : Store α → Prop
  | empty : Authored empty
  | block {s next : Store α} {b : Block α} (before : Authored s) (saved : s.save b = .ok next) :
      Authored next
  | ensemble {s next : Store α} {e : Ensemble α} (before : Authored s)
      (saved : s.save e = .ok next) : Authored next
  | sequence {s next : Store α} {q : Sequence α} (before : Authored s)
      (saved : s.save q = .ok next) : Authored next
  | delete {s next : Store α} {kind : ObjectKind} {name : String} {found : Bool}
      (before : Authored s) (deleted : s.delete kind name = .ok (found, next)) : Authored next

theorem Authored.mirrors (authored : Authored s) :
    ∃ blocks ensembles sequences, s.Mirrors blocks ensembles sequences := by
  induction authored with
  | empty => exact ⟨∅, ∅, ∅, shows_empty, shows_empty, shows_empty⟩
  | block before saved ih =>
    obtain ⟨blocks, ensembles, sequences, mirrors⟩ := ih
    exact ⟨_, _, _, mirrors.saveBlock saved⟩
  | ensemble before saved ih =>
    obtain ⟨blocks, ensembles, sequences, mirrors⟩ := ih
    exact ⟨_, _, _, mirrors.saveEnsemble saved⟩
  | sequence before saved ih =>
    obtain ⟨blocks, ensembles, sequences, mirrors⟩ := ih
    exact ⟨_, _, _, mirrors.saveSequence saved⟩
  | @delete s next kind name found before deleted ih =>
    obtain ⟨blocks, ensembles, sequences, mirrors⟩ := ih
    rw [delete_eq deleted]
    cases kind with
    | block => exact ⟨_, _, _, mirrors.withoutBlock name⟩
    | ensemble => exact ⟨_, _, _, mirrors.withoutEnsemble name⟩
    | sequence => exact ⟨_, _, _, mirrors.withoutSequence name⟩

end Store

/-! ## 2. Names of what is loaded -/

section Names

variable [Scalar α]

open Json

/-- An ensemble that can be read bears the name that was written. -/
theorem Ensemble.name_of_ofJson? {e e' : Ensemble α}
    (read : Ensemble.ofJson? e.toJson = some e') : e'.name = e.name := by
  unfold Ensemble.ofJson? Ensemble.toJson at read
  rw [record?_object] at read
  case same => rfl
  case nodup => decide
  simp only [List.map_cons, List.map_nil, required_some, withDefault_some, text?,
    Option.bind_eq_bind, Option.bind_some, Option.bind_eq_some_iff] at read
  obtain ⟨plays, -, rotating, -, readout, -, record, -, same⟩ := read
  cases same
  rfl

theorem Sequence.name_of_ofJson? {s s' : Sequence α}
    (read : Sequence.ofJson? s.toJson = some s') : s'.name = s.name := by
  unfold Sequence.ofJson? Sequence.toJson at read
  rw [record?_object] at read
  case same => rfl
  case nodup => decide
  simp only [List.map_cons, List.map_nil, required_some, withDefault_some, text?,
    Option.bind_eq_bind, Option.bind_some, Option.bind_eq_some_iff] at read
  obtain ⟨steps, -, rotating, -, readout, -, record, -, same⟩ := read
  cases same
  rfl

namespace Store

variable {β : Type} [Storable α β] {s : Store α} {held : Roster β}

/-- Where objects are read under the names they were written with, what is loaded bears the name
of its file. -/
theorem Shows.named_of_loaded (h : Shows s held)
    (reads : ∀ o o' : β, JsonForm.ofJson? (JsonForm.toJson o) = some o' →
      Storable.name o' = Storable.name o)
    {name : String} {object : β} (found : (s.loadAll : Roster β).get? name = some object) :
    Storable.name object = name := by
  obtain ⟨listed, loaded⟩ := get?_loadAll_eq_some_iff.mp found
  obtain ⟨document, there⟩ := mem_names_iff.mp listed
  have file := h.file name
  rw [there] at file
  obtain ⟨own, saved, rfl⟩ := Option.map_eq_some_iff.mp file.symm
  rw [Store.load, fileName_of_usable (h.canHold name own saved).1, ok_bind, there] at loaded
  have read : JsonForm.ofJson? (JsonForm.toJson own) = some object := by
    change (JsonForm.ofJson? (JsonForm.toJson own)).elim _ _ = _ at loaded
    exact elim_eq_ok.mp loaded
  rw [reads own object read, h.named name own saved]

theorem Authored.named_ensemble (authored : Authored s) {name : String} {e : Ensemble α}
    (found : (s.loadAll : Roster (Ensemble α)).get? name = some e) : e.name = name := by
  obtain ⟨blocks, ensembles, sequences, mirrors⟩ := authored.mirrors
  exact mirrors.ensembles.named_of_loaded (fun _ _ => Ensemble.name_of_ofJson?) found

theorem Authored.named_sequence (authored : Authored s) {name : String} {q : Sequence α}
    (found : (s.loadAll : Roster (Sequence α)).get? name = some q) : q.name = name := by
  obtain ⟨blocks, ensembles, sequences, mirrors⟩ := authored.mirrors
  exact mirrors.sequences.named_of_loaded (fun _ _ => Sequence.name_of_ofJson?) found

end Store

end Names

namespace Generator

open PulseBench.Action (bind_of_ok bind_ok_iff)
open Store (CanHold Mirrors Written)

/-! ## 3. What a start leaves -/

/-- What succeeds with files succeeds without, and leaves the same in memory. -/
def Fileless {β : Type} (act : Action α (Generator α δ) β) : Prop :=
  ∀ g b g', act g = .ok b g' → act g.unfiled = .ok b g'.unfiled

namespace Fileless

variable {β γ : Type}

protected theorem pure (b : β) : Fileless (pure b : Action α (Generator α δ) β) := by
  rintro g _ _ ⟨⟩
  rfl

protected theorem bind {act : Action α (Generator α δ) β} {next : β → Action α (Generator α δ) γ}
    (h : Fileless act) (each : ∀ b, Fileless (next b)) : Fileless (act >>= next) := by
  intro g c g' done
  obtain ⟨b, middle, first, rest⟩ := bind_ok_iff.mp done
  exact bind_ok_iff.mpr ⟨b, middle.unfiled, h g b middle first, each b middle c g' rest⟩

/-- What is read must not be the directory. -/
theorem get_bind {next : Generator α δ → Action α (Generator α δ) γ}
    (blind : ∀ g, next g.unfiled = next g) (each : ∀ g, Fileless (next g)) :
    Fileless (get >>= next) := by
  intro g c g' done
  have same := each g g c g' done
  rw [bind_of_ok (Action.get_apply g.unfiled), blind]
  exact same

protected theorem modify {f : Generator α δ → Generator α δ}
    (blind : ∀ g, f g.unfiled = (f g).unfiled) :
    Fileless (modify f : Action α (Generator α δ) PUnit) := by
  rintro g _ _ ⟨⟩
  exact congrArg _ (blind g)

protected theorem forM {act : β → Action α (Generator α δ) PUnit} (each : ∀ b, Fileless (act b))
    (items : List β) : Fileless (items.forM act) := by
  induction items with
  | nil => exact Fileless.pure PUnit.unit
  | cons b rest ih => exact (each b).bind fun _ => ih

/-- Writing a file is not seen in memory. -/
theorem persist [Storable α β] (object : β) :
    Fileless (persist object : Action α (Generator α δ) Unit) := by
  intro g _ g' done
  obtain ⟨store, same⟩ := persist_only object g
  rw [Action.after_of_ok done] at same
  rw [same]
  exact persist_ok rfl object

end Fileless

section Dropping

variable [Scalar α]

theorem clearEnsembleRecord_fileless (name : String) :
    Fileless (clearEnsembleRecord name : Action α (Generator α δ) Unit) := by
  refine Fileless.get_bind (fun _ => rfl) fun g => ?_
  cases g.ensembles.get? name with
  | none => exact Fileless.pure ()
  | some e =>
    by_cases sampled : e.isSampled = true
    · simp only [sampled, if_true]
      refine (Fileless.modify ?_).bind fun _ => Fileless.persist e.forget
      exact fun _ => rfl
    · simp only [sampled]
      exact Fileless.pure ()

theorem clearSequenceRecord_fileless (name : String) :
    Fileless (clearSequenceRecord name : Action α (Generator α δ) Unit) := by
  have unloaded :
      Fileless (modify (unload ⟨name, .sequence⟩) : Action α (Generator α δ) PUnit) := by
    refine Fileless.modify fun g => ?_
    change (if g.loaded = some ⟨name, .sequence⟩ then _ else _) =
      (if _ then _ else _ : Generator α δ).unfiled
    split <;> rfl
  refine Fileless.get_bind (fun _ => rfl) fun g => ?_
  cases g.sequences.get? name with
  | none => exact unloaded
  | some s =>
    by_cases sampled : s.isSampled = true
    · simp only [sampled, if_true]
      refine (Fileless.modify ?_).bind fun _ => (Fileless.persist s.forget).bind fun _ => unloaded
      exact fun _ => rfl
    · simp only [sampled]
      exact unloaded

theorem dropStaleRecords_fileless [Pulser α δ] :
    Fileless (dropStaleRecords : Action α (Generator α δ) Unit) :=
  Fileless.get_bind (fun _ => rfl) fun _ =>
    (Fileless.forM clearEnsembleRecord_fileless _).bind fun _ =>
      Fileless.forM clearSequenceRecord_fileless _

/-- If objects bear the names they are held under, then the records that speak of something gone
are dropped, and no others. -/
theorem objects_of_dropped [Pulser α δ] {g g' : Generator α δ}
    (namedEnsembles : ∀ n e, g.ensembles.get? n = some e → e.name = n)
    (namedSequences : ∀ n s, g.sequences.get? n = some s → s.name = n)
    (dropped : (dropStaleRecords : Action α (Generator α δ) Unit) g = .ok ⟨⟩ g') :
    (∀ n, g'.ensembles.get? n = (g.ensembles.get? n).map fun e =>
      if isStaleEnsemble g.device e then e.forget else e) ∧
    ∀ n, g'.sequences.get? n = (g.sequences.get? n).map fun s =>
      if isStaleSequence g.device s then s.forget else s := by
  have without := dropStaleRecords_fileless g _ _ dropped
  obtain ⟨last, done, -, objects⟩ :=
    dropStaleRecords_ok (g := g.unfiled) rfl namedEnsembles namedSequences
  obtain rfl : last = g'.unfiled := by
    rw [without] at done
    cases done
    rfl
  exact objects

end Dropping

/-- A generator that was started on a directory holds what can be loaded from it, but for the
records of what is not on its device. -/
theorem objects_of_started [Analytic α] [Pulser α δ] {options : GeneratorOptions α}
    {store : Store α} {device : δ} {g : Generator α δ} (stored : options.store = some store)
    (authored : store.Authored) (started : start options device = .ok g) :
    (∀ n, g.ensembles.get? n = ((store.loadAll : Roster (Ensemble α)).get? n).map fun e =>
      if isStaleEnsemble device e then e.forget else e) ∧
    ∀ n, g.sequences.get? n = ((store.loadAll : Roster (Sequence α)).get? n).map fun s =>
      if isStaleSequence device s then s.forget else s := by
  obtain ⟨recipes, -, dropped⟩ := start_ok_iff.mp started
  have ensembles : (opened options recipes device).ensembles = store.loadAll := by
    change (options.store.map Store.loadAll).getD ∅ = _
    rw [stored]
    rfl
  have sequences : (opened options recipes device).sequences = store.loadAll := by
    change (options.store.map Store.loadAll).getD ∅ = _
    rw [stored]
    rfl
  rw [← ensembles, ← sequences]
  refine objects_of_dropped (fun n e found => ?_) (fun n s found => ?_) dropped
  · rw [ensembles] at found
    exact authored.named_ensemble found
  · rw [sequences] at found
    exact authored.named_sequence found

/-! ## 4. Records that are left -/

section Fresh

variable [Pulser α δ]

/-- Every record names waveforms of the device only, and a sequence that has one is a program of
the device. -/
structure RecordsFresh (g : Generator α δ) : Prop where
  ensemble : ∀ n e r, g.ensembles.get? n = some e → e.record = some r →
    ∀ w ∈ r.waveforms, w ∈ Pulser.waveformNames g.device
  sequence : ∀ n s r, g.sequences.get? n = some s → s.record = some r →
    (∀ w ∈ r.waveforms, w ∈ Pulser.waveformNames g.device) ∧
      n ∈ Pulser.sequenceNames g.device

/-- All these names are on the device, but a waveform only as a program, or a program only as a
waveform. -/
def Shadowed (device : δ) (waveforms programs : List String) : Prop :=
  (∀ n ∈ waveforms ++ programs, isGone device n = false) ∧
    ((∃ w ∈ waveforms, w ∉ Pulser.waveformNames device) ∨
      ∃ p ∈ programs, p ∉ Pulser.sequenceNames device)

theorem isStaleEnsemble_eq_false_iff {device : δ} {e : Ensemble α} {r : Record α}
    (record : e.record = some r) :
    isStaleEnsemble device e = false ↔ ∀ n ∈ r.waveforms ++ [], isGone device n = false := by
  simp [isStaleEnsemble, mentions, record]

theorem isStaleSequence_eq_false_iff {device : δ} {s : Sequence α} {r : Record α}
    (record : s.record = some r) :
    isStaleSequence device s = false ↔
      ∀ n ∈ r.waveforms ++ [s.name], isGone device n = false := by
  simp [isStaleSequence, mentions, record, Sequence.isSampled, or_imp, forall_and]

/-- What is on the device is so in its own right, unless it is shadowed. -/
theorem not_shadowed_iff {device : δ} {waveforms programs : List String} :
    ¬ Shadowed device waveforms programs ↔
      ((∀ n ∈ waveforms ++ programs, isGone device n = false) →
        (∀ w ∈ waveforms, w ∈ Pulser.waveformNames device) ∧
          ∀ p ∈ programs, p ∈ Pulser.sequenceNames device) := by
  rw [Shadowed, not_and, not_or]
  push Not
  rfl

end Fresh

/-- A record that is left was not dropped. -/
theorem ensemble_of_kept_record {stale : Bool} {own e : Ensemble α} {r : Record α}
    (kept : (if stale then own.forget else own) = e) (record : e.record = some r) :
    stale = false ∧ own = e := by
  cases stale with
  | false => exact ⟨rfl, kept⟩
  | true =>
    subst kept
    cases record

theorem sequence_of_kept_record {stale : Bool} {own s : Sequence α} {r : Record α}
    (kept : (if stale then own.forget else own) = s) (record : s.record = some r) :
    stale = false ∧ own = s := by
  cases stale with
  | false => exact ⟨rfl, kept⟩
  | true =>
    subst kept
    cases record

section Started

variable [Analytic α] [Pulser α δ] {options : GeneratorOptions α} {store : Store α} {device : δ}
  {g : Generator α δ}

/-- When a start drops every record that speaks of something gone. The directory holds what the
store wrote, whatever that is, and the device reports any waveforms and programs. If the
generator starts, then every record that is left names waveforms of the device only, and every
sequence that has one is a program of the device, exactly if no object in the directory has a
record that is shadowed: everything it speaks of is on the device by name, but one of its
waveforms only as a program, or the program of a sequence only as a waveform. -/
theorem recordsFresh_iff_none_shadowed (stored : options.store = some store)
    (authored : store.Authored) (started : start options device = .ok g) :
    RecordsFresh g ↔
      (∀ n e r, (store.loadAll : Roster (Ensemble α)).get? n = some e → e.record = some r →
        ¬ Shadowed device r.waveforms []) ∧
      ∀ n s r, (store.loadAll : Roster (Sequence α)).get? n = some s → s.record = some r →
        ¬ Shadowed device r.waveforms [n] := by
  obtain ⟨ensembles, sequences⟩ := objects_of_started stored authored started
  have same : g.device = device := start_device started
  constructor
  · intro fresh
    refine ⟨fun n e r found record => ?_, fun n s r found record => ?_⟩
    · rw [not_shadowed_iff]
      intro there
      have kept : g.ensembles.get? n = some e := by
        rw [ensembles, found, Option.map_some,
          (isStaleEnsemble_eq_false_iff record).mpr there]
        rfl
      exact ⟨same ▸ fresh.ensemble n e r kept record, List.forall_mem_nil _⟩
    · rw [not_shadowed_iff]
      intro there
      have kept : g.sequences.get? n = some s := by
        rw [← authored.named_sequence found] at there
        rw [sequences, found, Option.map_some,
          (isStaleSequence_eq_false_iff record).mpr there]
        rfl
      obtain ⟨waveforms, program⟩ := fresh.sequence n s r kept record
      rw [same] at waveforms program
      exact ⟨waveforms, List.forall_mem_singleton.mpr program⟩
  · rintro ⟨noEnsemble, noSequence⟩
    refine ⟨fun n e r held record => ?_, fun n s r held record => ?_⟩
    · rw [ensembles] at held
      obtain ⟨own, found, kept⟩ := Option.map_eq_some_iff.mp held
      obtain ⟨stale, rfl⟩ := ensemble_of_kept_record kept record
      have there := (isStaleEnsemble_eq_false_iff record).mp stale
      rw [same]
      exact (not_shadowed_iff.mp (noEnsemble n own r found record) there).1
    · rw [sequences] at held
      obtain ⟨own, found, kept⟩ := Option.map_eq_some_iff.mp held
      obtain ⟨stale, rfl⟩ := sequence_of_kept_record kept record
      have there := (isStaleSequence_eq_false_iff record).mp stale
      rw [authored.named_sequence found] at there
      obtain ⟨waveforms, program⟩ := not_shadowed_iff.mp (noSequence n own r found record) there
      rw [same]
      exact ⟨waveforms, program n List.mem_cons_self⟩

end Started

/-! ### A stored record, and devices that have something of its name -/

/-- An ensemble whose record names one waveform. -/
def recordedPulse : Ensemble ℚ :=
  { playing "pulse" "flat" with
    record := some { Record.blank ⟨1, "all", ∅, ∅⟩ with waveforms := ["pulse"] } }

/-- A device with some waveforms and programs. -/
def stocked (waveforms programs : List String) : MemoryPulser ℚ :=
  { MemoryPulser.fresh benchLimits with
    waveforms := Roster.ofList (waveforms.map fun name => (name, ⟨∅, ∅, 0, true⟩))
    programs := Roster.ofList (programs.map fun name => (name, [])) }

/-- The ensemble is saved, and a generator is started on its directory. -/
theorem recordedPulse_started (device : MemoryPulser ℚ) :
    ∃ store g, Store.Authored store ∧ start (storing store) device = .ok g ∧
      (∀ n, (store.loadAll : Roster (Ensemble ℚ)).get? n =
        if n = "pulse" then some recordedPulse else none) ∧
      (∀ n, (store.loadAll : Roster (Sequence ℚ)).get? n = none) ∧
      g.ensembles.get? "pulse" =
        some (if isStaleEnsemble device recordedPulse then recordedPulse.forget
          else recordedPulse) := by
  have can : CanHold .ensemble "pulse" := ⟨by cbv, by cbv⟩
  obtain ⟨store, saved⟩ : ∃ store, Store.empty.save recordedPulse = .ok store :=
    Store.save_of_canHold can
  have fit : recordedPulse.fits = true := by decide +kernel
  have mirrors : store.Mirrors ∅ ((∅ : Roster (Ensemble ℚ)).insert "pulse" recordedPulse) ∅ :=
    Mirrors.saveEnsemble ⟨Store.shows_empty, Store.shows_empty, Store.shows_empty⟩ saved
  obtain ⟨-, ensembles, sequences⟩ := mirrors.get?_loadAll (by decide +kernel)
  obtain ⟨recipes, chosen⟩ : ∃ recipes, Selection.ofRegistry
      (Recipe.registry (storing store).recipeRoots) firstRecipe = .ok recipes := by
    have found : (Selection.ofRegistry (Recipe.registry (α := ℚ) []) firstRecipe).toOption.isSome =
        true := by decide +kernel
    cases chosen : Selection.ofRegistry (Recipe.registry (α := ℚ) []) firstRecipe with
    | ok recipes => exact ⟨recipes, chosen⟩
    | error f => rw [chosen] at found; cases found
  obtain ⟨g, started, -, -, held, -⟩ :=
    start_mirrored rfl (Written.ensemble .empty fit saved).mirrors_loadAll chosen device
  refine ⟨store, g, .ensemble .empty saved, started, ?_, sequences, ?_⟩
  · intro n
    rw [ensembles, Roster.get?_insert]
    rfl
  · rw [held, ensembles, Roster.get?_insert_self]
    rfl

/-- Where the waveform is on the device, the record stays, and rightly so. -/
theorem recordsFresh_of_stocked :
    ∃ store g, Store.Authored store ∧
      start (storing store) (stocked ["pulse"] ["train"]) = .ok g ∧ RecordsFresh g ∧
      (g.ensembles.get? "pulse").map Ensemble.isSampled = some true := by
  obtain ⟨store, g, authored, started, ensembles, sequences, held⟩ :=
    recordedPulse_started (stocked ["pulse"] ["train"])
  have there : isStaleEnsemble (stocked ["pulse"] ["train"]) recordedPulse = false := by
    decide +kernel
  refine ⟨store, g, authored, started,
    (recordsFresh_iff_none_shadowed rfl authored started).mpr ⟨?_, ?_⟩, ?_⟩
  · intro n e r found record
    rw [ensembles] at found
    split at found
    · cases found
      cases record
      exact not_shadowed_iff.mpr fun _ => ⟨by decide +kernel, List.forall_mem_nil _⟩
    · cases found
  · intro n s r found
    rw [sequences] at found
    cases found
  · rw [held, there]
    rfl

/-- Where only a program has its name, the record stays all the same. -/
theorem not_recordsFresh_of_program :
    ∃ store g, Store.Authored store ∧ start (storing store) (stocked [] ["pulse"]) = .ok g ∧
      ¬ RecordsFresh g := by
  obtain ⟨store, g, authored, started, -, -, held⟩ := recordedPulse_started (stocked [] ["pulse"])
  have overlooked : isStaleEnsemble (stocked [] ["pulse"]) recordedPulse = false := by
    decide +kernel
  refine ⟨store, g, authored, started, fun fresh => ?_⟩
  rw [overlooked] at held
  have there := fresh.ensemble "pulse" recordedPulse _ held rfl "pulse" List.mem_cons_self
  rw [start_device started] at there
  revert there
  decide +kernel

end Generator

end PulseBench
