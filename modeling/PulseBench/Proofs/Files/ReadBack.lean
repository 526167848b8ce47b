import Mathlib
import PulseBench.Proofs.Files.Codec
import PulseBench.Proofs.Files.Directory
import PulseBench.Scalar.Double

/-!
# What is saved is read back, if it is finite

Objects are saved as they are; only their names are looked at. A number that is
infinite or undefined is then written as null, and where a number is asked for
there is no reader for null. So saving succeeds, and the file that it leaves can
not be read: neither a duration nor a parameter may be infinite, although the
declarations of many parameters have infinite bounds.

A `PlainTest` asks something of the plain data of an object, wherever it stands.
All data that a machine can hold is `sized`; what can be read back is in addition
`finite`.

Results:
1. `Block.fits_of`, `Ensemble.fits_of`, `Sequence.fits_of`: a file can hold what is sized and
   finite.
2. `Fails.list`, `Fails.roster`, `Fails.option`: a part that can not be read spoils the whole.
3. `Block.fails`, `Ensemble.fails`, `Sequence.fails`: objects that are not finite.
4. `saved_read_back_iff_finite`: the store.
-/

namespace PulseBench

variable {α : Type}

open Json

/-! ## 1. Conditions on plain data -/

/-- A condition on the plain data of an object, by the types of the data. -/
structure PlainTest (α : Type) where
  count : Nat → Bool
  integer : Int → Bool
  repetitions : Nat → Bool
  number : α → Bool

/-- Counts have 64 bits, other integers 64 with sign, and numbers of repetitions 32. -/
def PlainTest.sized : PlainTest α where
  count := isCount
  integer := isSigned
  repetitions n := Repetitions.fits (.finite n)
  number := always

/-- No number is undefined. -/
def PlainTest.defined [Scalar α] : PlainTest α where
  count := always
  integer := always
  repetitions := always
  number x := !Scalar.isNaN x

/-- No number is infinite or undefined. -/
def PlainTest.finite [Scalar α] : PlainTest α where
  count := always
  integer := always
  repetitions := always
  number := Scalar.isFinite

section Every

variable (t : PlainTest α)

def ParamValue.every : ParamValue α → Bool
  | .bool _ | .text _ => true
  | .int n => t.integer n
  | .real x => t.number x

def Shape.every (s : Shape α) : Bool := s.params.values.all (ParamValue.every t)

def Element.every (e : Element α) : Bool :=
  t.number e.length && t.number e.increment && e.shapes.values.all (Shape.every t)

def Block.every (b : Block α) : Bool := b.elements.all (Element.every t)

def Readout.every (r : Readout α) : Bool :=
  r.ignored.all t.integer && r.axis.all t.number && t.count r.lasers && t.number r.countingLength

def PulserSettings.every (s : PulserSettings α) : Bool :=
  t.number s.rate && s.amplitudes.values.all t.number

def Record.every (r : Record α) : Bool :=
  t.count r.samples && t.count r.elements && r.bins.all t.count &&
    r.rising.values.all (·.all t.count) && r.falling.values.all (·.all t.count) &&
    r.settings.every t

def Repetitions.every : Repetitions → Bool
  | .finite n => t.repetitions n
  | .infinite => true

def Step.every (s : Step) : Bool :=
  s.repetitions.every t && s.goTo.all t.count && s.eventJumpTo.all t.count

def Ensemble.every (e : Ensemble α) : Bool :=
  e.plays.all (fun play => t.count play.2) && e.readout.all (Readout.every t) &&
    e.record.all (Record.every t)

def Sequence.every (s : Sequence α) : Bool :=
  s.steps.all (Step.every t) && s.readout.all (Readout.every t) && s.record.all (Record.every t)

end Every

section FitsOf

variable [Scalar α]

theorem ParamValue.fits_of {v : ParamValue α} (sized : v.every .sized = true)
    (finite : v.every .finite = true) : v.fits = true := by
  cases v with
  | bool b => rfl
  | int n => exact sized
  | real x => exact finite
  | text s => rfl

omit [Scalar α] in
theorem all_of_forall {β : Type} {p : β → Bool} {items : List β} (each : ∀ x, p x = true) :
    items.all p = true :=
  List.all_eq_true.mpr fun x _ => each x

omit [Scalar α] in
theorem optionAll_of_forall {β : Type} {p : β → Bool} {item : Option β}
    (each : ∀ x, p x = true) : item.all p = true := by
  cases item with
  | none => rfl
  | some x => exact each x

/-- Conditions on all items are put together item by item. -/
theorem all_of_all {β : Type} {p q r : β → Bool} {items : List β}
    (each : ∀ x, p x = true → q x = true → r x = true) (first : items.all p = true)
    (second : items.all q = true) : items.all r = true := by
  rw [List.all_eq_true] at *
  exact fun x member => each x (first x member) (second x member)

theorem optionAll_of_all {β : Type} {p q r : β → Bool} {item : Option β}
    (each : ∀ x, p x = true → q x = true → r x = true) (first : item.all p = true)
    (second : item.all q = true) : item.all r = true := by
  cases item with
  | none => rfl
  | some x => exact each x first second

theorem Shape.fits_of {s : Shape α} (sized : s.every .sized = true)
    (finite : s.every .finite = true) : s.fits = true :=
  all_of_all (fun _ => ParamValue.fits_of) sized finite

theorem Element.fits_of {e : Element α} (sized : e.every .sized = true)
    (finite : e.every .finite = true) : e.fits = true := by
  simp only [Element.every, Bool.and_eq_true] at sized finite
  simp only [Element.fits, Bool.and_eq_true]
  exact ⟨finite.1, all_of_all (fun _ => Shape.fits_of) sized.2 finite.2⟩

theorem Block.fits_of {b : Block α} (sized : b.every .sized = true)
    (finite : b.every .finite = true) : b.fits = true :=
  all_of_all (fun _ => Element.fits_of) sized finite

theorem Readout.fits_of {r : Readout α} (sized : r.every .sized = true)
    (finite : r.every .finite = true) : r.fits = true := by
  simp only [Readout.every, Bool.and_eq_true] at sized finite
  simp only [Readout.fits, Bool.and_eq_true]
  exact ⟨⟨⟨sized.1.1.1, finite.1.1.2⟩, sized.1.2⟩, finite.2⟩

theorem Record.fits_of {r : Record α} (sized : r.every .sized = true)
    (finite : r.every .finite = true) : r.fits = true := by
  simp only [Record.every, Bool.and_eq_true] at sized finite
  simp only [Record.fits, Bool.and_eq_true]
  exact ⟨sized.1, finite.2⟩

theorem Ensemble.fits_of {e : Ensemble α} (sized : e.every .sized = true)
    (finite : e.every .finite = true) : e.fits = true := by
  simp only [Ensemble.every, Bool.and_eq_true] at sized finite
  simp only [Ensemble.fits, Bool.and_eq_true]
  exact ⟨⟨sized.1.1, optionAll_of_all (fun _ => Readout.fits_of) sized.1.2 finite.1.2⟩,
    optionAll_of_all (fun _ => Record.fits_of) sized.2 finite.2⟩

omit [Scalar α] in
theorem Step.fits_of {s : Step} (sized : s.every (.sized : PlainTest α) = true) :
    s.fits = true := by
  simp only [Step.every, Bool.and_eq_true] at sized
  simp only [Step.fits, Bool.and_eq_true]
  refine ⟨⟨?_, sized.1.2⟩, sized.2⟩
  cases repeated : s.repetitions with
  | finite n => rw [repeated] at sized; exact sized.1.1
  | infinite => rfl

theorem Sequence.fits_of {s : Sequence α} (sized : s.every .sized = true)
    (finite : s.every .finite = true) : s.fits = true := by
  simp only [Sequence.every, Bool.and_eq_true] at sized finite
  simp only [Sequence.fits, Bool.and_eq_true]
  exact ⟨⟨all_of_all (fun _ sized _ => Step.fits_of sized) sized.1.1 finite.1.1,
    optionAll_of_all (fun _ => Readout.fits_of) sized.1.2 finite.1.2⟩,
    optionAll_of_all (fun _ => Record.fits_of) sized.2 finite.2⟩

end FitsOf

/-! ## 2. Parts that can not be read -/

namespace Json

variable {β : Type}

/-- A reader gives nothing for what was written, if that does not fit. -/
def Fails (read? : Json α → Option β) (write : β → Json α) (fits : β → Bool) : Prop :=
  ∀ x, fits x = false → read? (write x) = none

theorem fails_number [Scalar α] : Fails (α := α) number? ofNumber Scalar.isFinite := by
  intro x infinite
  rw [ofNumber, infinite]
  rfl

/-- An item without a result leaves the list without one. -/
theorem mapM_eq_none {β γ : Type} {items : List β} {f : β → Option γ} {x : β} (member : x ∈ items)
    (nothing : f x = none) : items.mapM f = none := by
  induction items with
  | nil => cases member
  | cons first rest ih =>
    rw [List.mapM_cons]
    rcases List.mem_cons.mp member with rfl | later
    · rw [nothing]
      rfl
    · rw [ih later]
      cases f first <;> rfl

section Parts

variable {read? : Json α → Option β} {write : β → Json α} {fits : β → Bool}

theorem Fails.list (h : Fails read? write fits) :
    Fails (list? read?) (ofList write) fun items => items.all fits := by
  intro items spoiled
  obtain ⟨x, member, unfit⟩ := List.all_eq_false.mp spoiled
  exact mapM_eq_none (List.mem_map_of_mem member) (h x (Bool.eq_false_iff.mpr unfit))

/-- What is written for a value must not stand for its absence. -/
theorem Fails.option (h : Fails read? write fits) (present : ∀ x, write x ≠ .null) :
    Fails (option? read?) (ofOption write) fun item => item.all fits := by
  rintro (_ | x) spoiled
  · cases spoiled
  · refine (option?_of_ne_null (present x)).trans ?_
    rw [h x spoiled]
    rfl

theorem Fails.roster (h : Fails read? write fits) :
    Fails (roster? read?) (ofRoster write) fun r => r.values.all fits := by
  intro r spoiled
  obtain ⟨x, member, unfit⟩ := List.all_eq_false.mp spoiled
  obtain ⟨⟨name, _⟩, listed, rfl⟩ := List.mem_map.mp member
  have nothing : (r.entries.map fun entry => (entry.1, write entry.2)).mapM
      (fun entry : String × Json α => do return (entry.1, ← read? entry.2)) = none := by
    refine mapM_eq_none (List.mem_map_of_mem listed) ?_
    change (do return (name, ← read? (write _))) = none
    rw [h _ (Bool.eq_false_iff.mpr unfit)]
    rfl
  change (do return Roster.ofList (← _)) = none
  rw [nothing]
  rfl

end Parts

end Json

/-! ## 3. Objects that are not finite -/

section Objects

variable [Scalar α]

theorem ParamValue.fails :
    Fails (α := α) ParamValue.ofJson? ParamValue.toJson (ParamValue.every .finite) := by
  rintro (b | n | x | s) infinite
  · cases infinite
  · cases infinite
  · have written : (ParamValue.real x).toJson = .null := by
      rw [ParamValue.toJson, ofNumber, show Scalar.isFinite x = false from infinite]
      rfl
    rw [written]
    rfl
  · cases infinite

theorem Shape.fails : Fails (α := α) Shape.ofJson? Shape.toJson (Shape.every .finite) := by
  intro s infinite
  have params : ParamSet.ofJson? (ParamSet.toJson s.params) = none :=
    ParamValue.fails.roster s.params infinite
  unfold Shape.ofJson? Shape.toJson
  rw [record?_object]
  case same => rfl
  case nodup => decide
  simp [params]

theorem Element.fails :
    Fails (α := α) Element.ofJson? Element.toJson (Element.every .finite) := by
  intro e infinite
  unfold Element.ofJson? Element.toJson
  rw [record?_object]
  case same => rfl
  case nodup => decide
  simp only [Element.every, Bool.and_eq_false_iff] at infinite
  rcases infinite with (length | increment) | shapes
  · simp [fails_number _ length]
  · simp [fails_number _ increment]
  · simp [Shape.fails.roster _ shapes]

theorem Block.fails : Fails (α := α) Block.ofJson? Block.toJson (Block.every .finite) := by
  intro b infinite
  unfold Block.ofJson? Block.toJson
  rw [record?_object]
  case same => rfl
  case nodup => decide
  simp [Element.fails.list _ infinite]

/-- Only numbers can be infinite. -/
theorem Readout.every_finite (r : Readout α) :
    r.every .finite = (r.axis.all Scalar.isFinite && Scalar.isFinite r.countingLength) := by
  have ignored : r.ignored.all always = true := all_of_forall fun _ => rfl
  simp [Readout.every, PlainTest.finite, ignored, always]

theorem Readout.fails :
    Fails (α := α) Readout.ofJson? Readout.toJson (Readout.every .finite) := by
  intro r infinite
  rw [Readout.every_finite, Bool.and_eq_false_iff] at infinite
  unfold Readout.ofJson? Readout.toJson
  rw [record?_object]
  case same => rfl
  case nodup => decide
  rcases infinite with axis | countingLength
  · simp [fails_number.list _ axis]
  · simp [fails_number _ countingLength]

theorem PulserSettings.fails :
    Fails (α := α) PulserSettings.ofJson? PulserSettings.toJson (PulserSettings.every .finite) := by
  intro s infinite
  unfold PulserSettings.ofJson? PulserSettings.toJson
  rw [record?_object]
  case same => rfl
  case nodup => decide
  rcases Bool.and_eq_false_iff.mp infinite with rate | amplitudes
  · simp [fails_number _ rate]
  · simp [fails_number.roster _ amplitudes]

theorem Record.every_finite (r : Record α) : r.every .finite = r.settings.every .finite := by
  simp [Record.every, PlainTest.finite, always]

theorem Record.fails : Fails (α := α) Record.ofJson? Record.toJson (Record.every .finite) := by
  intro r infinite
  rw [Record.every_finite] at infinite
  unfold Record.ofJson? Record.toJson
  rw [record?_object]
  case same => rfl
  case nodup => decide
  simp [PulserSettings.fails _ infinite]

theorem Readout.fails_option : Fails (α := α) (option? Readout.ofJson?)
    (ofOption Readout.toJson) fun r => r.all (Readout.every .finite) :=
  Readout.fails.option fun _ absent => by cases absent

theorem Record.fails_option : Fails (α := α) (option? Record.ofJson?)
    (ofOption Record.toJson) fun r => r.all (Record.every .finite) :=
  Record.fails.option fun _ absent => by cases absent

theorem Ensemble.every_finite (e : Ensemble α) :
    e.every .finite =
      (e.readout.all (Readout.every .finite) && e.record.all (Record.every .finite)) := by
  have plays : (e.plays.all fun play => (PlainTest.finite : PlainTest α).count play.2) = true :=
    all_of_forall fun _ => rfl
  rw [Ensemble.every, plays, Bool.true_and]

theorem Ensemble.fails :
    Fails (α := α) Ensemble.ofJson? Ensemble.toJson (Ensemble.every .finite) := by
  intro e infinite
  rw [Ensemble.every_finite, Bool.and_eq_false_iff] at infinite
  unfold Ensemble.ofJson? Ensemble.toJson
  rw [record?_object]
  case same => rfl
  case nodup => decide
  rcases infinite with readout | record
  · simp [Readout.fails_option _ readout]
  · simp [Record.fails_option _ record]

theorem Sequence.every_finite (s : Sequence α) :
    s.every .finite =
      (s.readout.all (Readout.every .finite) && s.record.all (Record.every .finite)) := by
  have steps (step : Step) : step.every (.finite : PlainTest α) = true := by
    have repetitions : step.repetitions.every (.finite : PlainTest α) = true := by
      cases step.repetitions <;> rfl
    have targets (target : Option Nat) :
        target.all (PlainTest.finite : PlainTest α).count = true :=
      optionAll_of_forall fun _ => rfl
    rw [Step.every, repetitions, targets, targets]
    rfl
  rw [Sequence.every, all_of_forall steps, Bool.true_and]

theorem Sequence.fails :
    Fails (α := α) Sequence.ofJson? Sequence.toJson (Sequence.every .finite) := by
  intro s infinite
  rw [Sequence.every_finite, Bool.and_eq_false_iff] at infinite
  unfold Sequence.ofJson? Sequence.toJson
  rw [record?_object]
  case same => rfl
  case nodup => decide
  rcases infinite with readout | record
  · simp [Readout.fails_option _ readout]
  · simp [Record.fails_option _ record]

end Objects

/-! ## 4. The store -/

/-- An object of any kind. -/
inductive PulseObject (α : Type) where
  | block (b : Block α)
  | ensemble (e : Ensemble α)
  | sequence (s : Sequence α)

namespace PulseObject

def kind : PulseObject α → ObjectKind
  | block _ => .block
  | ensemble _ => .ensemble
  | sequence _ => .sequence

def name : PulseObject α → String
  | block b => b.name
  | ensemble e => e.name
  | sequence s => s.name

def every (t : PlainTest α) : PulseObject α → Bool
  | block b => b.every t
  | ensemble e => e.every t
  | sequence s => s.every t

variable [Scalar α]

def save (s : Store α) : PulseObject α → Except (Failure α) (Store α)
  | block b => s.save b
  | ensemble e => s.save e
  | sequence q => s.save q

/-- Reads the object of a kind and a name. -/
def load (s : Store α) : ObjectKind → String → Except (Failure α) (PulseObject α)
  | .block, name => (s.load name).map block
  | .ensemble, name => (s.load name).map ensemble
  | .sequence, name => (s.load name).map sequence

end PulseObject

namespace Store

variable [Scalar α] {s next : Store α}

/-- What was saved is read as far as its written form can be. -/
theorem load_save {β : Type} [Storable α β] {object : β} (saved : s.save object = .ok next) :
    (next.load (Storable.name object) : Except (Failure α) β) =
      ((JsonForm.ofJson? (JsonForm.toJson object)).elim (.error .unreadable) .ok) := by
  have usable := (save_ok_iff.mp saved).1.1
  have file := get?_save saved (Storable.kind β) (Storable.name object)
  rw [if_pos ⟨rfl, rfl⟩] at file
  rw [load, fileName_of_usable usable, ok_bind, file]
  rfl

theorem load_of_reads {β : Type} [Storable α β] {object : β} (saved : s.save object = .ok next)
    (reads : JsonForm.ofJson? (JsonForm.toJson object) = some object) :
    next.load (Storable.name object) = .ok object := by
  rw [load_save saved, reads]
  rfl

theorem load_of_fails {β : Type} [Storable α β] {object : β} (saved : s.save object = .ok next)
    (fails : (JsonForm.ofJson? (JsonForm.toJson object) : Option β) = none) :
    (next.load (Storable.name object) : Except (Failure α) β) = .error .unreadable := by
  rw [load_save saved, fails]
  rfl

omit [Scalar α] in
theorem mem_names_save {β : Type} [Storable α β] {object : β} (saved : s.save object = .ok next) :
    Storable.name object ∈ next.names (Storable.kind β) := by
  rw [mem_names_iff, get?_save saved, if_pos ⟨rfl, rfl⟩]
  exact ⟨_, rfl⟩

end Store

section ReadBack

variable [Scalar α] {s next : Store α} {o : PulseObject α}

/-- Reading back what was saved either gives the object or nothing. -/
theorem PulseObject.load_save (sized : o.every .sized = true) (saved : o.save s = .ok next) :
    load next o.kind o.name = if o.every .finite = true then .ok o else .error .unreadable := by
  by_cases finite : o.every .finite = true
  · rw [if_pos finite]
    cases o with
    | block b =>
      have read := Store.load_of_reads saved (Block.reads b (Block.fits_of sized finite))
      exact congrArg (Except.map block) read
    | ensemble e =>
      have read := Store.load_of_reads saved (Ensemble.reads e (Ensemble.fits_of sized finite))
      exact congrArg (Except.map ensemble) read
    | sequence q =>
      have read := Store.load_of_reads saved (Sequence.reads q (Sequence.fits_of sized finite))
      exact congrArg (Except.map sequence) read
  · rw [if_neg finite]
    have infinite := Bool.eq_false_iff.mpr finite
    cases o with
    | block b =>
      exact congrArg (Except.map block) (Store.load_of_fails saved (Block.fails b infinite))
    | ensemble e =>
      exact congrArg (Except.map ensemble) (Store.load_of_fails saved (Ensemble.fails e infinite))
    | sequence q =>
      exact congrArg (Except.map sequence) (Store.load_of_fails saved (Sequence.fails q infinite))

theorem PulseObject.mem_names_save (saved : o.save s = .ok next) : o.name ∈ next.names o.kind := by
  cases o with
  | block b => exact Store.mem_names_save (β := Block α) saved
  | ensemble e => exact Store.mem_names_save (β := Ensemble α) saved
  | sequence q => exact Store.mem_names_save (β := Sequence α) saved

end ReadBack

/-- Loading by kind and name gives back the object that was saved, with all its fields,
the order of its elements and keys and the types of its parameters, exactly if none of
its numbers is infinite or undefined. Otherwise saving has succeeded all the same: the
object is listed, and can not be read. Integers are taken to be as large as their types
allow. -/
theorem saved_read_back_iff_finite [Scalar α] {s next : Store α} {o : PulseObject α}
    (sized : o.every .sized = true) (saved : o.save s = .ok next) :
    (PulseObject.load next o.kind o.name = .ok o ↔ o.every .finite = true) ∧
    (o.every .finite = false →
      o.name ∈ next.names o.kind ∧
        PulseObject.load next o.kind o.name = .error .unreadable) := by
  rw [PulseObject.load_save sized saved]
  refine ⟨⟨fun read => ?_, fun finite => if_pos finite⟩, fun infinite => ?_⟩
  · by_contra infinite
    rw [if_neg infinite] at read
    cases read
  · exact ⟨PulseObject.mem_names_save saved, if_neg (Bool.eq_false_iff.mp infinite)⟩

/-! A constant voltage, which has no bounds by its declaration. -/

/-- One element of a microsecond with a constant voltage. -/
def levelBlock (voltage : Float) : PulseObject Float :=
  .block ⟨"level", [⟨1e-6, 0.0,
    Roster.ofList [("a_ch1", ⟨"DC", Roster.ofList [("voltage", .real voltage)]⟩)],
    Roster.ofList [("d_ch1", true)], false⟩]⟩

theorem levelBlock_saved (voltage : Float) :
    ∃ next, (levelBlock voltage).save .empty = .ok next := by
  have can : Store.CanHold .block "level" := ⟨by cbv, by cbv⟩
  exact Store.save_of_canHold (β := Block Float) can

/-- Half a volt is read back. -/
theorem saved_read_back_half :
    (levelBlock 0.5).every .sized = true ∧
    ∃ next, (levelBlock 0.5).save .empty = .ok next ∧
      PulseObject.load next .block "level" = .ok (levelBlock 0.5) := by
  have sized : (levelBlock 0.5).every .sized = true := by decide +kernel
  have finite : (levelBlock 0.5).every .finite = true := by decide +kernel
  obtain ⟨next, saved⟩ := levelBlock_saved 0.5
  exact ⟨sized, next, saved, (saved_read_back_iff_finite sized saved).1.mpr finite⟩

/-- An infinite voltage is saved, and what was saved can not be read. -/
theorem not_read_back_of_infinite_voltage :
    (levelBlock (1.0 / 0.0)).every .sized = true ∧ (levelBlock (1.0 / 0.0)).every .defined = true ∧
    ∃ next, (levelBlock (1.0 / 0.0)).save .empty = .ok next ∧
      PulseObject.load next .block "level" = .error .unreadable := by
  have sized : (levelBlock (1.0 / 0.0)).every .sized = true := by decide +kernel
  have defined : (levelBlock (1.0 / 0.0)).every .defined = true := by decide +kernel
  have infinite : (levelBlock (1.0 / 0.0)).every .finite = false := by decide +kernel
  obtain ⟨next, saved⟩ := levelBlock_saved (1.0 / 0.0)
  refine ⟨sized, defined, next, saved, ?_⟩
  have read := PulseObject.load_save sized saved
  rwa [if_neg (Bool.eq_false_iff.mp infinite)] at read

end PulseBench
