import Mathlib.Data.List.Nodup
import PulseBench.Program.Codec
import PulseBench.Proofs.Roster

/-!
# Written objects are read as they were

Every object has one written form, and its reader finds in it the object that was written, if
the form can hold it (`fits`): JSON has no infinite and no undefined numbers, counts have 64
bits, other integers 64 with sign, and a number of repetitions has 32.

A written object is made of written parts, and it is read part by part. So there is one lemma
for every way to put parts together, and one for every kind of object.

Results:
1. `Reads`: a reader undoes a writer. `reads_number`, `reads_count` and so on: plain data.
2. `Reads.list`, `Reads.pair`, `Reads.option`, `Reads.roster`: parts put together.
3. `record?_object`: the fields of a written record.
4. `Block.reads`: blocks with their elements and shapes.
5. `Readout.reads`, `Record.reads`: what ensembles and sequences carry.
6. `Ensemble.reads`, `Sequence.reads`: ensembles and sequences.
-/

namespace PulseBench

variable {α : Type}

/-! ## 1. Plain data -/

namespace Json

variable {β γ : Type}

/-- A reader gives back what was written, if that fits. -/
def Reads (read? : Json α → Option β) (write : β → Json α) (fits : β → Bool) : Prop :=
  ∀ x, fits x = true → read? (write x) = some x

/-- Everything fits. -/
def always (_ : β) : Bool := true

theorem reads_bool : Reads (α := α) bool? .bool always := fun _ _ => rfl

theorem reads_text : Reads (α := α) text? .text always := fun _ _ => rfl

/-- A count of at most 64 bits. -/
def isCount (n : Nat) : Bool := decide (n ≤ maxCount)

theorem reads_count : Reads (α := α) count? ofNat isCount := by
  intro n fits
  have bounds : (0 : Int) ≤ n ∧ (n : Int) ≤ maxCount :=
    ⟨Int.natCast_nonneg n, Int.ofNat_le.mpr (of_decide_eq_true fits)⟩
  rw [count?, ofNat, intBetween?, if_pos bounds]
  rfl

/-- An integer of at most 64 bits with sign. -/
def isSigned (n : Int) : Bool := decide (-Int.pow 2 63 ≤ n ∧ n ≤ Int.pow 2 63 - 1)

theorem reads_int : Reads (α := α) int? .int isSigned :=
  fun _ fits => if_pos (of_decide_eq_true fits)

theorem reads_number [Scalar α] : Reads (α := α) number? ofNumber Scalar.isFinite := by
  intro x finite
  rw [ofNumber, if_pos finite]
  rfl

/-! ## 2. Parts put together -/

/-- What is known of every item is known of the list. -/
theorem mapM_map {ζ : Type} {items : List β} {write : β → ζ} {read? : ζ → Option γ} {out : β → γ}
    (each : ∀ x ∈ items, read? (write x) = some (out x)) :
    (items.map write).mapM read? = some (items.map out) := by
  induction items with
  | nil => rfl
  | cons item rest ih =>
    have first := each item List.mem_cons_self
    have others := ih fun x member => each x (List.mem_cons_of_mem _ member)
    rw [List.map_cons, List.mapM_cons, first, others]
    rfl

section Parts

variable {read? : Json α → Option β} {write : β → Json α} {fits : β → Bool}
  {second? : Json α → Option γ} {last : γ → Json α} {suits : γ → Bool}

theorem Reads.list (h : Reads read? write fits) :
    Reads (list? read?) (ofList write) fun items => items.all fits := by
  intro items all
  have read := mapM_map fun x (member : x ∈ items) => h x (List.all_eq_true.mp all x member)
  rw [List.map_id'] at read
  exact read

theorem reads_texts : Reads (α := α) texts? ofTexts always := fun items _ =>
  reads_text.list items (List.all_eq_true.mpr fun _ _ => rfl)

theorem Reads.pair (h : Reads read? write fits) (h' : Reads second? last suits) :
    Reads (pair? read? second?) (ofPair write last) fun p => fits p.1 && suits p.2 := by
  rintro ⟨x, y⟩ both
  rw [Bool.and_eq_true] at both
  change (do return (← read? (write x), ← second? (last y))) = _
  rw [h x both.1, h' y both.2]
  rfl

/-- What does not stand for an absent value is read as a value. -/
theorem option?_of_ne_null {read? : Json α → Option β} {j : Json α} (present : j ≠ .null) :
    option? read? j = (read? j).map some := by
  unfold option?
  split
  case h_1 => exact absurd rfl present
  case h_2 => rfl

/-- What is written for a value must not stand for its absence. -/
theorem Reads.option (h : Reads read? write fits) (present : ∀ x, write x ≠ .null) :
    Reads (option? read?) (ofOption write) fun item => item.all fits := by
  rintro (_ | x) all
  · rfl
  · exact (option?_of_ne_null (present x)).trans (congrArg _ (h x all))

theorem Reads.roster (h : Reads read? write fits) :
    Reads (roster? read?) (ofRoster write) fun r => r.values.all fits := by
  intro r all
  let pack (entry : String × β) : String × Json α := (entry.1, write entry.2)
  let unpack? (entry : String × Json α) : Option (String × β) := do
    return (entry.1, ← read? entry.2)
  have entries : (r.entries.map pack).mapM unpack? = some (r.entries.map id) := by
    refine mapM_map fun entry member => ?_
    have fit := List.all_eq_true.mp all entry.2 (List.mem_map_of_mem member)
    change (do return (entry.1, ← read? (write entry.2))) = _
    rw [h _ fit]
    rfl
  rw [List.map_id] at entries
  change (do return Roster.ofList (← (r.entries.map pack).mapM unpack?)) = _
  rw [entries]
  exact congrArg some (Roster.ofList_entries r)

end Parts

theorem reads_nameSet : Reads (α := α) nameSet? ofNameSet always := by
  intro s _
  rw [nameSet?, ofNameSet, reads_texts s.names rfl]
  exact congrArg some (NameSet.ofList_names s)

/-! ## 3. Records -/

/-- A name that occurs once is found once. -/
theorem filter_name {fields : List (String × Json α)} (nodup : (fields.map Prod.fst).Nodup)
    {field : String × Json α} (member : field ∈ fields) :
    (fields.filter fun other => other.1 == field.1) = [field] := by
  induction fields with
  | nil => cases member
  | cons first rest ih =>
    rw [List.map_cons, List.nodup_cons] at nodup
    rcases List.mem_cons.mp member with rfl | later
    · rw [List.filter_cons, if_pos (beq_self_eq_true _), List.filter_eq_nil_iff.mpr]
      intro other listed same
      exact nodup.1 (eq_of_beq same ▸ List.mem_map_of_mem listed)
    · have different : ¬ (first.1 == field.1) = true := fun same =>
        nodup.1 (eq_of_beq same ▸ List.mem_map_of_mem later)
      rw [List.filter_cons, if_neg different, ih nodup.2 later]

/-- The fields of a record that was written with other names for all of them. -/
theorem record?_object {names : List String} {fields : List (String × Json α)}
    (same : fields.map Prod.fst = names) (nodup : names.Nodup) :
    record? names (.object fields) = some (fields.map fun field => some field.2) := by
  subst same
  refine mapM_map fun field member => ?_
  rw [filter_name nodup member]

@[simp] theorem required_some {β : Type} (item? : Json α → Option β) (j : Json α) :
    required item? (some j) = item? j := rfl

@[simp] theorem withDefault_some {β : Type} (default : β) (item? : Json α → Option β) (j : Json α) :
    withDefault default item? (some j) = item? j := rfl

end Json

/-! ## 4. Blocks -/

open Json

section Blocks

variable [Scalar α]

/-- A file can hold the value. -/
def ParamValue.fits : ParamValue α → Bool
  | .bool _ | .text _ => true
  | .int n => isSigned n
  | .real x => Scalar.isFinite x

theorem ParamValue.reads : Reads (α := α) ParamValue.ofJson? ParamValue.toJson ParamValue.fits := by
  rintro (b | n | x | t) fits
  · rfl
  · rw [ParamValue.ofJson?, ParamValue.toJson, reads_int n fits]
    rfl
  · have finite : Scalar.isFinite x = true := fits
    rw [ParamValue.toJson, ofNumber, if_pos finite]
    rfl
  · rfl

def Shape.fits (s : Shape α) : Bool := s.params.values.all ParamValue.fits

theorem Shape.reads : Reads (α := α) Shape.ofJson? Shape.toJson Shape.fits := by
  intro s fits
  have params : ParamSet.ofJson? (ParamSet.toJson s.params) = some s.params :=
    ParamValue.reads.roster s.params fits
  unfold Shape.ofJson? Shape.toJson
  rw [record?_object]
  case same => rfl
  case nodup => decide
  simp [params, text?]

/-- Durations are finite, and shapes fit. -/
def Element.fits (e : Element α) : Bool :=
  Scalar.isFinite e.length && Scalar.isFinite e.increment && e.shapes.values.all Shape.fits

theorem Element.reads : Reads (α := α) Element.ofJson? Element.toJson Element.fits := by
  intro e fits
  simp only [Element.fits, Bool.and_eq_true] at fits
  obtain ⟨⟨length, increment⟩, shapes⟩ := fits
  have levels : roster? bool? (ofRoster .bool e.levels : Json α) = some e.levels :=
    reads_bool.roster e.levels (List.all_eq_true.mpr fun _ _ => rfl)
  unfold Element.ofJson? Element.toJson
  rw [record?_object]
  case same => rfl
  case nodup => decide
  simp [reads_number _ length, reads_number _ increment, Shape.reads.roster _ shapes, levels, bool?]

def Block.fits (b : Block α) : Bool := b.elements.all Element.fits

theorem Block.reads : Reads (α := α) Block.ofJson? Block.toJson Block.fits := by
  intro b fits
  unfold Block.ofJson? Block.toJson
  rw [record?_object]
  case same => rfl
  case nodup => decide
  simp [Element.reads.list _ fits, text?]

end Blocks

/-! ## 5. Readouts and records -/

section Records

variable [Scalar α]

def Readout.fits (r : Readout α) : Bool :=
  r.ignored.all isSigned && r.axis.all Scalar.isFinite && isCount r.lasers &&
    Scalar.isFinite r.countingLength

theorem Readout.reads : Reads (α := α) Readout.ofJson? Readout.toJson Readout.fits := by
  intro r fits
  simp only [Readout.fits, Bool.and_eq_true] at fits
  obtain ⟨⟨⟨ignored, axis⟩, lasers⟩, countingLength⟩ := fits
  have texts (pair : String × String) :
      pair? text? text? (ofPair .text .text pair : Json α) = some pair :=
    reads_text.pair reads_text pair rfl
  unfold Readout.ofJson? Readout.toJson
  rw [record?_object]
  case same => rfl
  case nodup => decide
  simp [reads_int.list _ ignored, reads_number.list _ axis, reads_count _ lasers,
    reads_number _ countingLength, texts, bool?]

def PulserSettings.fits (s : PulserSettings α) : Bool :=
  Scalar.isFinite s.rate && s.amplitudes.values.all Scalar.isFinite

theorem PulserSettings.reads :
    Reads (α := α) PulserSettings.ofJson? PulserSettings.toJson PulserSettings.fits := by
  intro s fits
  simp only [PulserSettings.fits, Bool.and_eq_true] at fits
  have activation :
      pair? text? nameSet? (ofPair .text ofNameSet (s.activation, s.active) : Json α) =
        some (s.activation, s.active) :=
    reads_text.pair reads_nameSet _ rfl
  unfold PulserSettings.ofJson? PulserSettings.toJson
  rw [record?_object]
  case same => rfl
  case nodup => decide
  simp [reads_number _ fits.1, reads_number.roster _ fits.2, activation]

def Record.fits (r : Record α) : Bool :=
  isCount r.samples && isCount r.elements && r.bins.all isCount &&
    r.rising.values.all (·.all isCount) && r.falling.values.all (·.all isCount) &&
    r.settings.fits

theorem Record.reads : Reads (α := α) Record.ofJson? Record.toJson Record.fits := by
  intro r fits
  simp only [Record.fits, Bool.and_eq_true] at fits
  obtain ⟨⟨⟨⟨⟨samples, elements⟩, bins⟩, rising⟩, falling⟩, settings⟩ := fits
  have names (s : NameSet) : nameSet? (ofNameSet s : Json α) = some s := reads_nameSet s rfl
  have texts (items : List String) : texts? (ofTexts items : Json α) = some items :=
    reads_texts items rfl
  unfold Record.ofJson? Record.toJson
  rw [record?_object]
  case same => rfl
  case nodup => decide
  simp [reads_count _ samples, reads_count _ elements, reads_count.list _ bins,
    reads_count.list.roster _ rising, reads_count.list.roster _ falling,
    PulserSettings.reads _ settings, names, texts]

end Records

/-! ## 6. Ensembles and sequences -/

def Repetitions.fits : Repetitions → Bool
  | .finite n => decide (n ≤ Nat.pow 2 32 - 1)
  | .infinite => true

theorem Repetitions.reads :
    Reads (α := α) Repetitions.ofJson? Repetitions.toJson Repetitions.fits := by
  rintro (n | _) fits
  · have bounds : (0 : Int) ≤ n ∧ (n : Int) ≤ Int.pow 2 32 - 1 :=
      ⟨Int.natCast_nonneg n, Int.ofNat_le.mpr (of_decide_eq_true fits)⟩
    rw [Repetitions.toJson, Repetitions.ofJson?, ofNat, intBetween?, if_pos bounds]
    rfl
  · rfl

def Step.fits (s : Step) : Bool :=
  s.repetitions.fits && s.goTo.all isCount && s.eventJumpTo.all isCount

theorem Step.reads : Reads (α := α) Step.ofJson? Step.toJson Step.fits := by
  intro s fits
  simp only [Step.fits, Bool.and_eq_true] at fits
  obtain ⟨⟨repetitions, goTo⟩, eventJumpTo⟩ := fits
  have counts := (reads_count (α := α)).option fun _ absent => by cases absent
  have text (item : Option String) : option? text? (ofOption .text item : Json α) = some item :=
    reads_text.option (fun _ absent => by cases absent) item (by cases item <;> rfl)
  have texts (items : List String) : texts? (ofTexts items : Json α) = some items :=
    reads_texts items rfl
  unfold Step.ofJson? Step.toJson
  rw [record?_object]
  case same => rfl
  case nodup => decide
  simp [Repetitions.reads _ repetitions, counts _ goTo, counts _ eventJumpTo, text, texts, text?]

variable [Scalar α]

theorem Readout.reads_option : Reads (α := α) (option? Readout.ofJson?)
    (ofOption Readout.toJson) fun r => r.all Readout.fits :=
  Readout.reads.option fun _ absent => by cases absent

theorem Record.reads_option : Reads (α := α) (option? Record.ofJson?)
    (ofOption Record.toJson) fun r => r.all Record.fits :=
  Record.reads.option fun _ absent => by cases absent

/-- Its numbers are finite and its counts and integers not too large, those of its record
included. -/
def Ensemble.fits (e : Ensemble α) : Bool :=
  e.plays.all (fun play => isCount play.2) && e.readout.all Readout.fits &&
    e.record.all Record.fits

theorem Ensemble.reads : Reads (α := α) Ensemble.ofJson? Ensemble.toJson Ensemble.fits := by
  intro e fits
  simp only [Ensemble.fits, Bool.and_eq_true] at fits
  obtain ⟨⟨plays, readout⟩, record⟩ := fits
  unfold Ensemble.ofJson? Ensemble.toJson
  rw [record?_object]
  case same => rfl
  case nodup => decide
  simp [(reads_text.pair reads_count).list _ plays, Readout.reads_option _ readout,
    Record.reads_option _ record, text?, bool?]

def Sequence.fits (s : Sequence α) : Bool :=
  s.steps.all Step.fits && s.readout.all Readout.fits && s.record.all Record.fits

theorem Sequence.reads : Reads (α := α) Sequence.ofJson? Sequence.toJson Sequence.fits := by
  intro s fits
  simp only [Sequence.fits, Bool.and_eq_true] at fits
  obtain ⟨⟨steps, readout⟩, record⟩ := fits
  unfold Sequence.ofJson? Sequence.toJson
  rw [record?_object]
  case same => rfl
  case nodup => decide
  simp [Step.reads.list _ steps, Readout.reads_option _ readout,
    Record.reads_option _ record, text?, bool?]

end PulseBench
