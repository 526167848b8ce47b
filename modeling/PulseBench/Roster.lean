/-!
# Named things in order

Two containers that every part of the library uses.

- `Roster β` keeps one entry per name, in the order in which the names were first added. Adding a
  known name replaces the entry where it stands.
- `NameSet` is a set of names, listed in increasing order.

Both carry their invariant, so a roster never holds a name twice and two equal sets are the same
list.
-/

namespace PulseBench

/-! ## Rosters -/

/-- Entries by name, in order of first addition. -/
structure Roster (β : Type) where
  entries : List (String × β)
  nodup : (entries.map Prod.fst).Nodup := by simp

namespace Roster

variable {β γ : Type}

/-- No entries. -/
def empty : Roster β := ⟨[], List.nodup_nil⟩

instance : EmptyCollection (Roster β) := ⟨empty⟩
instance : Inhabited (Roster β) := ⟨empty⟩

/-- The list with the entry of `name` replaced where it stands, or added at the end. -/
def put (name : String) (value : β) : List (String × β) → List (String × β)
  | [] => [(name, value)]
  | entry :: rest =>
      if entry.1 = name then (name, value) :: rest else entry :: put name value rest

theorem map_fst_put (name : String) (value : β) (entries : List (String × β)) :
    (put name value entries).map Prod.fst =
      if name ∈ entries.map Prod.fst then entries.map Prod.fst
      else entries.map Prod.fst ++ [name] := by
  induction entries with
  | nil => simp [put]
  | cons entry rest ih =>
      by_cases same : entry.1 = name
      · simp [put, same]
      · have other : ¬ name = entry.1 := fun h => same h.symm
        simp only [put, if_neg same, List.map_cons, ih, List.mem_cons, other, false_or]
        split <;> rfl

theorem nodup_put {name : String} {value : β} {entries : List (String × β)}
    (h : (entries.map Prod.fst).Nodup) : ((put name value entries).map Prod.fst).Nodup := by
  rw [map_fst_put]
  split
  · exact h
  · rename_i fresh
    rw [List.nodup_append]
    refine ⟨h, by simp, ?_⟩
    intro a ha b hb
    rw [List.mem_singleton.mp hb]
    exact fun same => fresh (same ▸ ha)

/-- Adds an entry, or replaces the one of that name where it stands. -/
def insert (r : Roster β) (name : String) (value : β) : Roster β :=
  ⟨put name value r.entries, nodup_put r.nodup⟩

/-- The entry of a name. -/
def get? (r : Roster β) (name : String) : Option β := r.entries.lookup name

def contains (r : Roster β) (name : String) : Bool := (r.get? name).isSome

/-- The names in order. -/
def names (r : Roster β) : List String := r.entries.map Prod.fst

def values (r : Roster β) : List β := r.entries.map Prod.snd

def size (r : Roster β) : Nat := r.entries.length

def isEmpty (r : Roster β) : Bool := r.entries.isEmpty

/-- The roster of a list; a repeated name keeps its first place and takes the last value. -/
def ofList (entries : List (String × β)) : Roster β :=
  entries.foldl (fun r entry => r.insert entry.1 entry.2) empty

/-- The roster of things that carry their own name. -/
def ofNamed (name : β → String) (things : List β) : Roster β :=
  ofList (things.map fun thing => (name thing, thing))

/-- Keeps the entries that pass a test. -/
def filter (keep : String → β → Bool) (r : Roster β) : Roster β :=
  ⟨r.entries.filter fun entry => keep entry.1 entry.2,
    r.nodup.sublist ((List.filter_sublist).map _)⟩

/-- Drops the entry of a name; the others keep their order. -/
def erase (r : Roster β) (name : String) : Roster β := r.filter fun n _ => n != name

/-- Changes every entry; names and order stay. -/
def map (f : String → β → γ) (r : Roster β) : Roster γ :=
  ⟨r.entries.map fun entry => (entry.1, f entry.1 entry.2), by
    have same : (r.entries.map fun entry => (entry.1, f entry.1 entry.2)).map Prod.fst =
        r.entries.map Prod.fst := by simp [List.map_map, Function.comp_def]
    rw [same]
    exact r.nodup⟩

/-- Two rosters are equal when they hold equal entries under the same names, in whatever order. -/
instance [BEq β] : BEq (Roster β) where
  beq a b := a.size == b.size && a.entries.all fun entry => b.get? entry.1 == some entry.2

end Roster

/-! ## Sets of names -/

/-- A set of names, in increasing order. -/
structure NameSet where
  names : List String
  sorted : names.Pairwise (· < ·) := by simp
deriving DecidableEq

namespace NameSet

def empty : NameSet := ⟨[], List.Pairwise.nil⟩

instance : EmptyCollection NameSet := ⟨empty⟩
instance : Inhabited NameSet := ⟨empty⟩

/-- The increasing list with one more name. -/
def place (name : String) : List String → List String
  | [] => [name]
  | first :: rest =>
      if name < first then name :: first :: rest
      else if name = first then first :: rest
      else first :: place name rest

theorem mem_place {name x : String} {names : List String} :
    x ∈ place name names ↔ x = name ∨ x ∈ names := by
  induction names with
  | nil => simp [place]
  | cons first rest ih =>
      unfold place
      split
      · simp
      · split
        · rename_i same
          subst same
          simp
        · simp only [List.mem_cons, ih]
          constructor
          · rintro (h | h | h) <;> simp [h]
          · rintro (h | h | h) <;> simp [h]

theorem sorted_place {name : String} {names : List String} (h : names.Pairwise (· < ·)) :
    (place name names).Pairwise (· < ·) := by
  induction names with
  | nil => simp [place]
  | cons first rest ih =>
      obtain ⟨above, tail⟩ := List.pairwise_cons.mp h
      unfold place
      split
      · rename_i below
        refine List.pairwise_cons.mpr ⟨?_, h⟩
        intro x hx
        rcases List.mem_cons.mp hx with rfl | hx
        · exact below
        · exact String.lt_trans below (above x hx)
      · split
        · exact h
        · rename_i notBelow different
          refine List.pairwise_cons.mpr ⟨?_, ih tail⟩
          intro x hx
          rcases mem_place.mp hx with rfl | hx
          · have le := String.not_lt.mp notBelow
            exact Classical.byContradiction fun notLt =>
              different (String.le_antisymm (String.not_lt.mp notLt) le)
          · exact above x hx

def insert (s : NameSet) (name : String) : NameSet := ⟨place name s.names, sorted_place s.sorted⟩

/-- The set of the names in a list. -/
def ofList (names : List String) : NameSet := names.foldl insert empty

def contains (s : NameSet) (name : String) : Bool := s.names.contains name

instance : Membership String NameSet := ⟨fun s name => name ∈ s.names⟩

def union (s t : NameSet) : NameSet := t.names.foldl insert s

def filter (keep : String → Bool) (s : NameSet) : NameSet :=
  ⟨s.names.filter keep, s.sorted.sublist List.filter_sublist⟩

theorem mem_insert {s : NameSet} {name x : String} : x ∈ s.insert name ↔ x = name ∨ x ∈ s :=
  mem_place

end NameSet

/-- The names of a roster as a set. -/
def Roster.nameSet {β : Type} (r : Roster β) : NameSet := NameSet.ofList r.names

end PulseBench
