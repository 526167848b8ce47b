import PulseBench.Proofs.Outcome
import PulseBench.Proofs.Roster
import PulseBench.Store

/-!
# A directory that shows what is held

The name of a file is made of the name of an object and the word of its kind. No two objects
share a file, and no draft has the name of an object's file, so saving and deleting one object
leaves the files of all others alone.

`Shows s held` says that the files of one kind hold the objects of a roster, as they are
written, and no others. Objects are there under their own names, and these can be file names.
It is about one kind, and each kind is changed on its own.

Results:
1. `fileOf_inj`, `fileOf_ne_draft`, `nameIn?_eq_some_iff`: names of files.
2. `get?_save`, `get?_without`: what saving and deleting does to the files of objects.
3. `Shows.save`, `Shows.without`: saved and deleted objects.
4. `Shows.get?_loadAll`: reading them all.
-/

namespace PulseBench.Store

variable {α β : Type}

/-! ## 1. Names of files -/

/-- The file of an object. -/
def fileOf (kind : ObjectKind) (name : String) : String := name ++ ending kind

theorem fileName_of_usable {kind : ObjectKind} {name : String} (usable : isUsable name = true) :
    (fileName kind name : Except (Failure α) String) = .ok (fileOf kind name) :=
  if_pos usable

theorem fileName_of_unusable {kind : ObjectKind} {name : String}
    (unusable : ¬ isUsable name = true) :
    (fileName kind name : Except (Failure α) String) =
      .error (.generator (.unusableFileName name kind)) :=
  if_neg unusable

/-- Names of files are told apart from behind. -/
theorem reverse_fileOf (kind : ObjectKind) (name : String) :
    (fileOf kind name).toList.reverse = (ending kind).toList.reverse ++ name.toList.reverse := by
  rw [fileOf, String.toList_append, List.reverse_append]

/-- An object has its own file. -/
theorem fileOf_inj {kind other : ObjectKind} {name key : String} :
    fileOf kind name = fileOf other key ↔ kind = other ∧ name = key := by
  constructor
  · intro same
    have behind := congrArg (fun file => file.toList.reverse) same
    rw [reverse_fileOf, reverse_fileOf] at behind
    obtain rfl : kind = other := by
      cases kind <;> cases other <;> first | rfl | simp [ending, ObjectKind.word] at behind
    exact ⟨rfl, String.toList_inj.mp (List.reverse_inj.mp (List.append_cancel_left behind))⟩
  · rintro ⟨rfl, rfl⟩
    rfl

theorem fileOf_ne_draft (kind other : ObjectKind) (name key : String) :
    fileOf kind name ≠ fileOf other key ++ draftEnding := by
  intro same
  have behind := congrArg (fun file => file.toList.reverse) same
  rw [String.toList_append, List.reverse_append, reverse_fileOf] at behind
  cases kind <;> simp [ending, ObjectKind.word, draftEnding] at behind

theorem endsWith_iff {file ending : String} :
    file.endsWith ending = true ↔ ending.toList <:+ file.toList := by
  rw [String.endsWith, String.Slice.endsWith_string_iff, String.copy_toSlice]

/-- The files of a kind, and whose they are. -/
theorem nameIn?_eq_some_iff {kind : ObjectKind} {file name : String} :
    nameIn? kind file = some name ↔ file = fileOf kind name := by
  have front (key : String) : nameIn? kind (fileOf kind key) = some key := by
    have whole : (fileOf kind key).toList = key.toList ++ (ending kind).toList :=
      String.toList_append
    have longer : (fileOf kind key).length - (ending kind).length = key.toList.length := by
      rw [← String.length_toList, whole, List.length_append, String.length_toList,
        String.length_toList, Nat.add_sub_cancel]
    have ends : (fileOf kind key).endsWith (ending kind) = true :=
      endsWith_iff.mpr ⟨key.toList, whole.symm⟩
    rw [nameIn?, if_pos ends, whole, longer, List.take_left, String.ofList_toList]
  constructor
  · intro found
    by_cases ends : file.endsWith (ending kind) = true
    · obtain ⟨start, whole⟩ := endsWith_iff.mp ends
      obtain rfl : file = fileOf kind (String.ofList start) := by
        rw [← String.toList_inj, ← whole, fileOf, String.toList_append, String.toList_ofList]
      rw [front] at found
      rw [Option.some.inj found]
    · rw [nameIn?, if_neg ends] at found
      cases found
  · rintro rfl
    exact front name

/-- Whether a directory can hold the file of an object and its draft. -/
def CanHold (kind : ObjectKind) (name : String) : Prop :=
  isUsable name = true ∧ isWritable (fileOf kind name ++ draftEnding) = true

/-! ## 2. Saving and deleting -/

section Operations

variable [Storable α β] {s next : Store α}

theorem save_ok_iff {object : β} :
    s.save object = .ok next ↔
      CanHold (Storable.kind β) (Storable.name object) ∧
      next = ⟨(s.files.erase
        (fileOf (Storable.kind β) (Storable.name object) ++ draftEnding)).insert
        (fileOf (Storable.kind β) (Storable.name object)) (.written (JsonForm.toJson object))⟩ := by
  unfold save CanHold
  by_cases usable : isUsable (Storable.name object) = true
  · rw [fileName_of_usable usable, ok_bind]
    dsimp only
    by_cases writable : isWritable
        (fileOf (Storable.kind β) (Storable.name object) ++ draftEnding) = true
    · rw [if_pos writable]
      exact ⟨fun done => ⟨⟨usable, writable⟩, (Except.ok.inj done).symm⟩,
        fun ⟨_, same⟩ => congrArg Except.ok same.symm⟩
    · rw [if_neg writable]
      exact iff_of_false (fun done => by cases done) fun ⟨can, _⟩ => writable can.2
  · rw [fileName_of_unusable usable, error_bind]
    exact iff_of_false (fun done => by cases done) fun ⟨can, _⟩ => usable can.1

theorem save_of_canHold {object : β}
    (can : CanHold (Storable.kind β) (Storable.name object)) : ∃ next, s.save object = .ok next :=
  ⟨_, save_ok_iff.mpr ⟨can, rfl⟩⟩

/-- The directory without the file of an object, if it can have one. -/
def without (s : Store α) (kind : ObjectKind) (name : String) : Store α :=
  if isUsable name then ⟨s.files.erase (fileOf kind name)⟩ else s

/-- Saving an object changes its file, and no other object's. -/
theorem get?_save {object : β} (saved : s.save object = .ok next) (kind : ObjectKind)
    (name : String) :
    next.files.get? (fileOf kind name) =
      if kind = Storable.kind β ∧ name = Storable.name object then
        some (.written (JsonForm.toJson object))
      else s.files.get? (fileOf kind name) := by
  obtain ⟨-, rfl⟩ := save_ok_iff.mp saved
  rw [Roster.get?_insert, Roster.get?_erase, if_neg (fileOf_ne_draft _ _ _ _)]
  exact if_congr fileOf_inj rfl rfl

omit [Storable α β] in
theorem delete_of_usable {kind : ObjectKind} {name : String} (usable : isUsable name = true) :
    s.delete kind name = .ok (s.files.contains (fileOf kind name), s.without kind name) := by
  rw [delete, fileName_of_usable usable, ok_bind, without, if_pos usable]
  rfl

omit [Storable α β] in
theorem get?_without (s : Store α) (kind other : ObjectKind) (name key : String) :
    (s.without kind name).files.get? (fileOf other key) =
      if isUsable name = true ∧ other = kind ∧ key = name then none
      else s.files.get? (fileOf other key) := by
  unfold without
  by_cases usable : isUsable name = true
  · rw [if_pos usable, Roster.get?_erase]
    exact if_congr (by rw [fileOf_inj, and_iff_right usable]) rfl rfl
  · rw [if_neg usable, if_neg fun h => usable h.1]

end Operations

/-! ## 3. What is shown -/

/-- The files of a kind hold the objects of a roster, under their own names. -/
structure Shows [Storable α β] (s : Store α) (held : Roster β) : Prop where
  file : ∀ n, s.files.get? (fileOf (Storable.kind β) n) =
    (held.get? n).map fun object => .written (JsonForm.toJson object)
  named : ∀ n object, held.get? n = some object → Storable.name object = n
  canHold : ∀ n object, held.get? n = some object → CanHold (Storable.kind β) n

section Shows

variable {γ : Type} [Storable α β] [Storable α γ] {s next : Store α} {held held' : Roster β}

theorem shows_empty : Shows (empty : Store α) (∅ : Roster β) where
  file _ := rfl
  named _ _ found := by cases found
  canHold _ _ found := by cases found

/-- The order of the roster does not matter. -/
theorem Shows.congr (h : Shows s held) (same : ∀ n, held'.get? n = held.get? n) :
    Shows s held' where
  file n := by rw [h.file, same]
  named n object found := h.named n object ((same n).symm.trans found)
  canHold n object found := h.canHold n object ((same n).symm.trans found)

theorem Shows.save (h : Shows s held) {object : β} (saved : s.save object = .ok next) :
    Shows next (held.insert (Storable.name object) object) where
  file n := by
    rw [get?_save saved, Roster.get?_insert, h.file]
    by_cases own : n = Storable.name object
    · rw [if_pos ⟨rfl, own⟩, if_pos own]
      rfl
    · rw [if_neg fun both => own both.2, if_neg own]
  named n other found := by
    rw [Roster.get?_insert] at found
    split at found
    case isTrue own =>
      cases found
      exact own.symm
    case isFalse => exact h.named n other found
  canHold n other found := by
    rw [Roster.get?_insert] at found
    split at found
    case isTrue own => exact own ▸ (save_ok_iff.mp saved).1
    case isFalse => exact h.canHold n other found

/-- An object of another kind was saved. -/
theorem Shows.save_other (h : Shows s held) {object : γ}
    (other : Storable.kind β ≠ Storable.kind γ) (saved : s.save object = .ok next) :
    Shows next held where
  file n := by rw [get?_save saved, if_neg fun both => other both.1, h.file]
  named := h.named
  canHold := h.canHold

/-- A name that cannot be that of a file is not held either. -/
theorem Shows.without (h : Shows s held) (name : String) :
    Shows (s.without (Storable.kind β) name) (held.erase name) where
  file n := by
    rw [get?_without, Roster.get?_erase, h.file]
    by_cases own : n = name
    · rw [if_pos own]
      by_cases usable : isUsable name = true
      · rw [if_pos ⟨usable, rfl, own⟩]
        rfl
      · rw [if_neg fun all => usable all.1]
        cases found : held.get? n with
        | none => rfl
        | some object => exact absurd (own ▸ (h.canHold n object found).1) usable
    · rw [if_neg fun all => own all.2.2, if_neg own]
  named n object found := by
    rw [Roster.get?_erase] at found
    split at found
    case isTrue => cases found
    case isFalse => exact h.named n object found
  canHold n object found := by
    rw [Roster.get?_erase] at found
    split at found
    case isTrue => cases found
    case isFalse => exact h.canHold n object found

theorem Shows.without_other (h : Shows s held) {kind : ObjectKind}
    (other : Storable.kind β ≠ kind) (name : String) : Shows (s.without kind name) held where
  file n := by rw [get?_without, if_neg fun all => other all.2.1, h.file]
  named := h.named
  canHold := h.canHold

end Shows

/-! ## 4. Reading all objects -/

section Loading

variable [Scalar α] [Storable α β] {s : Store α} {held : Roster β}

omit [Scalar α] [Storable α β] in
/-- The names of the objects that have a file. -/
theorem mem_names_iff {kind : ObjectKind} {name : String} :
    name ∈ s.names kind ↔ ∃ document, s.files.get? (fileOf kind name) = some document := by
  rw [names, NameSet.mem_ofList, List.mem_filterMap, ← Roster.mem_names_iff]
  constructor
  · rintro ⟨file, listed, found⟩
    rw [← nameIn?_eq_some_iff.mp found]
    exact listed
  · intro listed
    exact ⟨_, listed, nameIn?_eq_some_iff.mpr rfl⟩

omit [Scalar α] [Storable α β] in
/-- Entries that are made name by name keep the order of the names. -/
theorem map_fst_sublist {names : List String} {pair? : String → Option (String × β)}
    (own : ∀ n e, pair? n = some e → e.1 = n) :
    ((names.filterMap pair?).map Prod.fst).Sublist names := by
  induction names with
  | nil => exact .slnil
  | cons name rest ih =>
    rw [List.filterMap_cons]
    cases made : pair? name with
    | none => exact ih.cons name
    | some entry =>
      rw [List.map_cons, own name entry made]
      exact ih.cons_cons name

/-- The entry of a name, if its file can be read. -/
def pair? (s : Store α) (name : String) : Option (String × β) :=
  (s.load name : Except (Failure α) β).toOption.map fun object => (name, object)

theorem loadAll_eq (s : Store α) :
    (s.loadAll : Roster β) = Roster.ofList ((s.names (Storable.kind β)).filterMap s.pair?) := by
  refine congrArg (fun f => Roster.ofList (List.filterMap f _)) (funext fun name => ?_)
  rw [pair?]
  cases (s.load name : Except (Failure α) β) <;> rfl

theorem pair?_eq_some_iff {name : String} {entry : String × β} :
    s.pair? name = some entry ↔ entry.1 = name ∧ s.load name = .ok entry.2 := by
  obtain ⟨own, object⟩ := entry
  rw [pair?, Option.map_eq_some_iff]
  cases (s.load name : Except (Failure α) β) with
  | error f =>
    exact iff_of_false (fun ⟨_, made, _⟩ => by cases made) fun both => by cases both.2
  | ok other =>
    constructor
    · rintro ⟨_, ⟨⟩, ⟨⟩⟩
      exact ⟨rfl, rfl⟩
    · rintro ⟨rfl, same⟩
      exact ⟨object, congrArg Except.toOption same, rfl⟩

theorem get?_loadAll_eq_some_iff {name : String} {object : β} :
    (s.loadAll : Roster β).get? name = some object ↔
      name ∈ s.names (Storable.kind β) ∧ s.load name = .ok object := by
  have nodup : (((s.names (Storable.kind β)).filterMap s.pair?).map
      (Prod.fst : String × β → String)).Nodup :=
    (map_fst_sublist fun _ _ made => (pair?_eq_some_iff.mp made).1).nodup
      ((NameSet.sorted _).imp String.ne_of_lt)
  rw [← Roster.mem_entries_iff, loadAll_eq, Roster.entries_ofList nodup, List.mem_filterMap]
  constructor
  · rintro ⟨n, listed, made⟩
    obtain ⟨rfl, loaded⟩ := pair?_eq_some_iff.mp made
    exact ⟨listed, loaded⟩
  · rintro ⟨listed, loaded⟩
    exact ⟨name, listed, pair?_eq_some_iff.mpr ⟨rfl, loaded⟩⟩

/-- An object that is shown is read as it was written. -/
theorem Shows.load (h : Shows s held) {name : String} {object : β}
    (found : held.get? name = some object)
    (reads : JsonForm.ofJson? (JsonForm.toJson object) = some object) :
    s.load name = .ok object := by
  have file := h.file name
  rw [found, Option.map_some] at file
  rw [Store.load, fileName_of_usable (h.canHold name object found).1, ok_bind, file]
  change (JsonForm.ofJson? (JsonForm.toJson object)).elim _ _ = _
  rw [reads]
  rfl

/-- If every object can be read as it was written, then reading them all gives what is shown. -/
theorem Shows.get?_loadAll (h : Shows s held)
    (reads : ∀ n object, held.get? n = some object →
      JsonForm.ofJson? (JsonForm.toJson object) = some object) (name : String) :
    (s.loadAll : Roster β).get? name = held.get? name := by
  refine Option.ext fun object => ?_
  rw [get?_loadAll_eq_some_iff, mem_names_iff, h.file]
  constructor
  · rintro ⟨⟨document, written⟩, loaded⟩
    obtain ⟨own, found, -⟩ := Option.map_eq_some_iff.mp written
    rw [h.load found (reads name own found)] at loaded
    rw [found, Except.ok.inj loaded]
  · intro found
    rw [found]
    exact ⟨⟨_, rfl⟩, h.load found (reads name object found)⟩

end Loading

end PulseBench.Store
