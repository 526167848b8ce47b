import Mathlib.Data.List.Basic
import Mathlib.Data.List.Sort
import PulseBench.Roster

/-!
# Rosters as maps

Almost everything that is proved about a roster goes through `Roster.get?`: what
an operation does is said by what the look-up of every name gives afterwards.
The order of the entries only matters where samples are stored by channel, and
there the roster is a `Roster.tabulate` over a set of names.

Results:
1. `get?_insert`, `get?_erase`, `get?_filter`, `get?_map`: the operations through `get?`.
2. `mem_entries_iff`: an entry is what the look-up of its name gives.
3. `ext_names`: names, order and look-up are all there is to a roster.
4. `ofList_entries`, `ofList_map_names`, `get?_insertAll`: a roster made entry by entry, channel by
   channel, or of things by their own names.
5. `NameSet.mem_ofList`, `NameSet.ofList_names`: a set made name by name.
6. `NameSet.ext_mem`: the names are all there is to a set.
-/

namespace PulseBench.Roster

variable {β γ : Type}

/-! ## Look-up -/

theorem lookup_cons_eq (key own : String) (value : β) (rest : List (String × β)) :
    ((own, value) :: rest).lookup key = if key = own then some value else rest.lookup key := by
  rw [List.lookup_cons]
  by_cases same : key = own
  · simp [same]
  · simp [beq_eq_false_iff_ne.mpr same, same]

theorem lookup_of_not_mem {key : String} {entries : List (String × β)}
    (absent : key ∉ entries.map Prod.fst) : entries.lookup key = none := by
  rw [List.lookup_eq_none_iff]
  intro entry member
  simp only [bne_iff_ne, ne_eq]
  exact fun same => absent (List.mem_map.mpr ⟨entry, member, same.symm⟩)

theorem lookup_put (name key : String) (value : β) (entries : List (String × β)) :
    (put name value entries).lookup key = if key = name then some value else entries.lookup key := by
  induction entries with
  | nil => rw [put, lookup_cons_eq]
  | cons entry rest ih =>
    obtain ⟨own, old⟩ := entry
    by_cases here : own = name
    · subst here
      rw [put, if_pos rfl, lookup_cons_eq, lookup_cons_eq]
      split <;> rfl
    · rw [put, if_neg here, lookup_cons_eq, lookup_cons_eq, ih]
      by_cases first : key = own
      · subst first
        simp [here]
      · simp [first]

@[simp] theorem get?_empty (key : String) : (∅ : Roster β).get? key = none := rfl

@[simp] theorem get?_insert (r : Roster β) (name key : String) (value : β) :
    (r.insert name value).get? key = if key = name then some value else r.get? key :=
  lookup_put name key value r.entries

theorem get?_insert_self (r : Roster β) (name : String) (value : β) :
    (r.insert name value).get? name = some value := by
  rw [get?_insert, if_pos rfl]

theorem get?_insert_of_ne (r : Roster β) {name key : String} (value : β) (h : key ≠ name) :
    (r.insert name value).get? key = r.get? key := by
  rw [get?_insert, if_neg h]

theorem lookup_filter (keep : String → β → Bool) (key : String) {entries : List (String × β)}
    (nodup : (entries.map Prod.fst).Nodup) :
    (entries.filter fun entry => keep entry.1 entry.2).lookup key =
      (entries.lookup key).filter (keep key) := by
  induction entries with
  | nil => rfl
  | cons entry rest ih =>
    obtain ⟨own, value⟩ := entry
    rw [List.map_cons, List.nodup_cons] at nodup
    have inRest := ih nodup.2
    rw [lookup_cons_eq, List.filter_cons]
    by_cases here : key = own
    · subst here
      -- The name stands nowhere else, so a dropped entry leaves none of its name.
      have absent := lookup_of_not_mem nodup.1
      rw [if_pos rfl]
      by_cases kept : keep key value = true
      · rw [if_pos kept, lookup_cons_eq, if_pos rfl]
        exact (Option.filter_some_pos kept).symm
      · rw [if_neg kept, inRest, absent]
        exact (Option.filter_some_neg (Bool.eq_false_iff.mpr kept)).symm
    · rw [if_neg here]
      by_cases kept : keep own value = true
      · rw [if_pos kept, lookup_cons_eq, if_neg here, inRest]
      · rw [if_neg kept, inRest]

theorem get?_filter (r : Roster β) (keep : String → β → Bool) (key : String) :
    (r.filter keep).get? key = (r.get? key).filter (keep key) :=
  lookup_filter keep key r.nodup

@[simp] theorem get?_erase (r : Roster β) (name key : String) :
    (r.erase name).get? key = if key = name then none else r.get? key := by
  rw [erase, get?_filter]
  by_cases same : key = name
  · subst same
    cases r.get? key <;> simp [Option.filter]
  · cases r.get? key <;> simp [Option.filter, same]

theorem get?_map (f : String → β → γ) (r : Roster β) (name : String) :
    (r.map f).get? name = (r.get? name).map (f name) := by
  change (r.entries.map fun entry => (entry.1, f entry.1 entry.2)).lookup name =
    (r.entries.lookup name).map (f name)
  induction r.entries with
  | nil => rfl
  | cons entry rest ih =>
    rw [List.map_cons, lookup_cons_eq, lookup_cons_eq, ih]
    split
    · rename_i same
      rw [same]
      rfl
    · rfl

theorem mem_entries_iff {r : Roster β} {name : String} {value : β} :
    (name, value) ∈ r.entries ↔ r.get? name = some value := by
  obtain ⟨entries, nodup⟩ := r
  change (name, value) ∈ entries ↔ entries.lookup name = some value
  induction entries with
  | nil => simp
  | cons entry rest ih =>
    obtain ⟨own, first⟩ := entry
    rw [List.map_cons, List.nodup_cons] at nodup
    rw [lookup_cons_eq, List.mem_cons, ih nodup.2]
    by_cases here : name = own
    · subst here
      simp only [if_true, Prod.mk.injEq, true_and, Option.some.injEq]
      constructor
      · rintro (same | found)
        · exact same.symm
        · have member := (ih nodup.2).mpr found
          exact absurd (List.mem_map.mpr ⟨_, member, rfl⟩) nodup.1
      · exact fun same => Or.inl same.symm
    · simp [here]

theorem mem_names_iff {r : Roster β} {name : String} :
    name ∈ r.names ↔ ∃ value, r.get? name = some value := by
  rw [names, List.mem_map]
  constructor
  · rintro ⟨⟨own, value⟩, member, rfl⟩
    exact ⟨value, mem_entries_iff.mp member⟩
  · rintro ⟨value, found⟩
    exact ⟨(name, value), mem_entries_iff.mpr found, rfl⟩

theorem names_map (f : String → β → γ) (r : Roster β) : (r.map f).names = r.names := by
  rw [names, map, List.map_map]
  rfl

/-- Replacing an entry keeps the names and their order. -/
theorem names_insert_of_get? {r : Roster β} {name : String} {old : β} (value : β)
    (known : r.get? name = some old) : (r.insert name value).names = r.names :=
  (map_fst_put name value r.entries).trans (if_pos (mem_names_iff.mpr ⟨old, known⟩))

theorem mem_values_iff {r : Roster β} {value : β} :
    value ∈ r.values ↔ ∃ name, r.get? name = some value := by
  rw [values, List.mem_map]
  constructor
  · rintro ⟨⟨name, own⟩, member, rfl⟩
    exact ⟨name, mem_entries_iff.mp member⟩
  · rintro ⟨name, found⟩
    exact ⟨(name, value), mem_entries_iff.mpr found, rfl⟩

theorem contains_iff {r : Roster β} {name : String} :
    r.contains name = true ↔ ∃ value, r.get? name = some value :=
  Option.isSome_iff_exists

theorem contains_eq_false_iff {r : Roster β} {name : String} :
    r.contains name = false ↔ r.get? name = none := by
  rw [contains, Option.isSome_eq_false_iff, Option.isNone_iff_eq_none]

theorem contains_insert_iff {r : Roster β} {name key : String} {value : β} :
    (r.insert name value).contains key = true ↔ key = name ∨ r.contains key = true := by
  rw [contains, get?_insert]
  split
  · rename_i same
    simp [same]
  · rename_i different
    simp [different, contains]

/-! ## Equality -/

theorem ext_entries {a b : Roster β} (h : a.entries = b.entries) : a = b := by
  cases a
  cases b
  cases h
  rfl

theorem entries_map_some (r : Roster β) :
    (r.entries.map fun entry => (entry.1, some entry.2)) =
      r.names.map fun name => (name, r.get? name) := by
  rw [names, List.map_map]
  refine List.map_congr_left fun entry member => ?_
  exact congrArg (Prod.mk entry.1) (mem_entries_iff.mp member).symm

/-- Two rosters with the same names in the same order and the same look-up are the same. -/
theorem ext_names {a b : Roster β} (order : a.names = b.names)
    (same : ∀ name, a.get? name = b.get? name) : a = b := by
  refine ext_entries ?_
  have injective : Function.Injective fun entry : String × β => (entry.1, some entry.2) := by
    rintro ⟨name, value⟩ ⟨other, own⟩ equal
    cases equal
    rfl
  refine List.map_injective_iff.mpr injective ?_
  rw [entries_map_some, entries_map_some, order]
  exact List.map_congr_left fun name _ => congrArg (Prod.mk name) (same name)

/-! ## Rosters made name by name -/

theorem put_of_not_mem {name : String} {value : β} {entries : List (String × β)}
    (fresh : name ∉ entries.map Prod.fst) : put name value entries = entries ++ [(name, value)] := by
  induction entries with
  | nil => rfl
  | cons entry rest ih =>
    rw [List.map_cons, List.mem_cons, not_or] at fresh
    rw [put, if_neg (Ne.symm fresh.1), ih fresh.2]
    rfl

/-- Inserting names that are new and different appends their entries. -/
theorem entries_foldl_insert (added : List (String × β)) (r : Roster β)
    (nodup : ((r.entries ++ added).map Prod.fst).Nodup) :
    (added.foldl (fun r entry => r.insert entry.1 entry.2) r).entries = r.entries ++ added := by
  induction added generalizing r with
  | nil => simp
  | cons entry rest ih =>
    have fresh : entry.1 ∉ r.entries.map Prod.fst := by
      rw [List.map_append, List.map_cons, List.nodup_append] at nodup
      exact fun member => nodup.2.2 _ member _ List.mem_cons_self rfl
    have step : (r.insert entry.1 entry.2).entries = r.entries ++ [entry] :=
      put_of_not_mem fresh
    rw [List.foldl_cons, ih, step, List.append_assoc]
    · rfl
    · rw [step, List.append_assoc]
      exact nodup

/-- Entries of different names are those of the roster that they make. -/
theorem entries_ofList {entries : List (String × β)} (nodup : (entries.map Prod.fst).Nodup) :
    (ofList entries).entries = entries :=
  entries_foldl_insert entries empty nodup

/-- The entries of a roster make that roster. -/
theorem ofList_entries (r : Roster β) : ofList r.entries = r :=
  ext_entries (entries_ofList r.nodup)

/-- A value for every name of a set. -/
def tabulate (names : NameSet) (f : String → β) : Roster β where
  entries := names.names.map fun name => (name, f name)
  nodup := by
    have same : (names.names.map fun name => (name, f name)).map Prod.fst = names.names := by
      simp [List.map_map, Function.comp_def]
    rw [same]
    exact names.sorted.imp fun below => String.ne_of_lt below

theorem tabulate_congr {names : NameSet} {f g : String → β}
    (h : ∀ name ∈ names.names, f name = g name) : tabulate names f = tabulate names g :=
  ext_entries (List.map_congr_left fun name member => congrArg (Prod.mk name) (h name member))

theorem ofList_map_names (names : NameSet) (f : String → β) :
    ofList (names.names.map fun name => (name, f name)) = tabulate names f :=
  ofList_entries (tabulate names f)

theorem names_tabulate (names : NameSet) (f : String → β) :
    (tabulate names f).names = names.names := by
  simp [Roster.names, tabulate, List.map_map, Function.comp_def]

theorem values_tabulate (names : NameSet) (f : String → β) :
    (tabulate names f).values = names.names.map f := by
  simp [Roster.values, tabulate, List.map_map, Function.comp_def]

theorem get?_tabulate (names : NameSet) (f : String → β) (key : String) :
    (tabulate names f).get? key = if key ∈ names.names then some (f key) else none := by
  split
  · rename_i member
    exact mem_entries_iff.mp (List.mem_map.mpr ⟨key, member, rfl⟩)
  · rename_i absent
    rw [Option.eq_none_iff_forall_ne_some]
    intro value found
    obtain ⟨name, member, same⟩ := List.mem_map.mp (mem_entries_iff.mpr found)
    exact absent ((Prod.mk.inj same).1 ▸ member)

theorem contains_tabulate_iff {names : NameSet} {f : String → β} {key : String} :
    (tabulate names f).contains key = true ↔ key ∈ names.names := by
  rw [contains, get?_tabulate]
  split <;> simp_all

theorem get?_tabulate_of_mem {names : NameSet} (f : String → β) {key : String}
    (member : key ∈ names.names) : (tabulate names f).get? key = some (f key) := by
  rw [get?_tabulate, if_pos member]

/-! ## Things by their own names -/

/-- Things under their own names, one after the other. -/
def insertAll (name : β → String) (things : List β) (r : Roster β) : Roster β :=
  things.foldl (fun r b => r.insert (name b) b) r

theorem get?_insertAll_of_not_mem {name : β → String} {things : List β} {key : String}
    (other : key ∉ things.map name) (r : Roster β) :
    (r.insertAll name things).get? key = r.get? key := by
  induction things generalizing r with
  | nil => rfl
  | cons b rest ih =>
    rw [List.map_cons, List.mem_cons, not_or] at other
    exact (ih other.2 _).trans (r.get?_insert_of_ne b other.1)

/-- Things of different names are all found. -/
theorem get?_insertAll {name : β → String} {things : List β} (nodup : (things.map name).Nodup)
    (r : Roster β) : ∀ b ∈ things, (r.insertAll name things).get? (name b) = some b := by
  induction things generalizing r with
  | nil => nofun
  | cons first rest ih =>
    rw [List.map_cons, List.nodup_cons] at nodup
    intro b member
    rcases List.mem_cons.mp member with rfl | behind
    · exact (get?_insertAll_of_not_mem nodup.1 _).trans (r.get?_insert_self _ b)
    · exact ih nodup.2 _ b behind

end PulseBench.Roster

/-! ## Sets made name by name -/

namespace PulseBench.NameSet

theorem ext_names {s t : NameSet} (h : s.names = t.names) : s = t := by
  cases s
  cases t
  cases h
  rfl

/-- Sets with the same names are the same set. -/
theorem ext_mem {s t : NameSet} (same : ∀ n, n ∈ s.names ↔ n ∈ t.names) : s = t :=
  ext_names (s.sorted.eq_of_mem_iff t.sorted same)

theorem mem_foldl_insert (added : List String) (s : NameSet) (x : String) :
    x ∈ added.foldl insert s ↔ x ∈ added ∨ x ∈ s := by
  induction added generalizing s with
  | nil => simp
  | cons name rest ih =>
    rw [List.foldl_cons, ih, mem_insert, List.mem_cons]
    tauto

theorem mem_ofList {names : List String} {x : String} : x ∈ (ofList names).names ↔ x ∈ names :=
  (mem_foldl_insert names empty x).trans (or_iff_left List.not_mem_nil)

/-- A name above all others comes last. -/
theorem place_of_above {name : String} {names : List String} (above : ∀ x ∈ names, x < name) :
    place name names = names ++ [name] := by
  induction names with
  | nil => rfl
  | cons first rest ih =>
    have below := above first List.mem_cons_self
    rw [place, if_neg (String.lt_asymm below), if_neg (String.ne_of_lt below).symm,
      ih fun x member => above x (List.mem_cons_of_mem _ member)]
    rfl

theorem names_foldl_insert (added : List String) (s : NameSet)
    (sorted : (s.names ++ added).Pairwise (· < ·)) :
    (added.foldl insert s).names = s.names ++ added := by
  induction added generalizing s with
  | nil => simp
  | cons name rest ih =>
    have last : (s.insert name).names = s.names ++ [name] := by
      refine place_of_above fun x member => ?_
      exact (List.pairwise_append.mp sorted).2.2 x member name List.mem_cons_self
    rw [List.foldl_cons, ih, last, List.append_assoc]
    · rfl
    · rw [last, List.append_assoc]
      exact sorted

/-- The names of a set make that set. -/
theorem ofList_names (s : NameSet) : ofList s.names = s :=
  ext_names (names_foldl_insert s.names empty s.sorted)

end PulseBench.NameSet
