import Mathlib.Data.List.Forall2
import PulseBench.Proofs.Plugin.Builtin

/-!
# Registries of several roots

A registry is loaded from the built-in root and from the roots that settings ask for. First come,
first served, and that twice: a root is loaded where its name is given first, and a method is taken
from the first module that offers its name. So what a registry has does not depend on the roots
that are asked for later; they only add to it.

A module that fails to load offers nothing. It leaves its name in the registry and no other trace.

Results:
1. `ofCatalogue_eq_foldl`: the modules that a registry is loaded from (`modulesOf`), in order.
2. `foldl_load`, `entries_prefix_foldl_offer`: what modules add to a registry.
3. `find_ofCatalogue_iff`: where a method comes from (`FirstOffered`).
4. `methods_ofCatalogue_patched`: modules that fail, and modules that load nothing.
5. `further_roots_append`: all of it for two lists of roots, one of which goes on with the other.
-/

namespace PulseBench

variable {α κ : Type}

namespace PluginModule

/-- The methods of a module; none if it fails to load. -/
def offered (unit : PluginModule α κ) : List (Method α κ) :=
  match unit.load with
  | .ok loaded => loaded
  | .error _ => []

def fails (unit : PluginModule α κ) : Bool :=
  match unit.load with
  | .ok _ => false
  | .error _ => true

end PluginModule

/-- The methods of all modules of a root. -/
def PluginRoot.offered (root : PluginRoot α κ) : List (Method α κ) :=
  root.modules.flatMap PluginModule.offered

namespace Registry

/-! ## 1. The roots that are loaded -/

/-- The roots that some names stand for. A name counts where it is given first; a name that no root
of the catalogue has stands for none. -/
def rootsNamed (catalogue : List (PluginRoot α κ)) (names : List String) : List (PluginRoot α κ) :=
  names.eraseDups.filterMap fun name => catalogue.find? (·.name == name)

/-- The modules that a registry is loaded from: those of the built-in root, then those of the roots
that are asked for. -/
def modulesOf (catalogue : List (PluginRoot α κ)) (extra : List String) :
    List (PluginModule α κ) :=
  (rootsNamed catalogue (builtinRoot :: extra)).flatMap PluginRoot.modules

variable {catalogue : List (PluginRoot α κ)}

theorem rootsNamed_prefix (catalogue : List (PluginRoot α κ)) (xs ys : List String) :
    rootsNamed catalogue xs <+: rootsNamed catalogue (xs ++ ys) := by
  rw [rootsNamed, rootsNamed, List.eraseDups_append, List.filterMap_append]
  exact List.prefix_append _ _

theorem any_rootsNamed_iff {names : List String} {root : PluginRoot α κ}
    (found : catalogue.find? (·.name == root.name) = some root) :
    (rootsNamed catalogue names).any (·.name == root.name) = true ↔ root.name ∈ names := by
  rw [List.any_eq_true]
  constructor
  · rintro ⟨other, selected, same⟩
    obtain ⟨name, given, named⟩ := List.mem_filterMap.mp selected
    have own := List.find?_some named
    rw [← eq_of_beq same, eq_of_beq own]
    exact List.mem_eraseDups.mp given
  · intro given
    exact ⟨root, List.mem_filterMap.mpr ⟨root.name, List.mem_eraseDups.mpr given, found⟩,
      beq_self_eq_true root.name⟩

/-- Asking for one more root. -/
theorem select_rootsNamed (names : List String) (name : String) :
    select catalogue (rootsNamed catalogue names) name =
      rootsNamed catalogue (names ++ [name]) := by
  have one : rootsNamed catalogue (names ++ [name]) = rootsNamed catalogue names ++
      if name ∈ names then [] else (catalogue.find? (·.name == name)).toList := by
    rw [rootsNamed, rootsNamed, List.eraseDups_append, List.filterMap_append]
    congr 1
    by_cases given : name ∈ names
    · simp [List.removeAll, given]
    · simp only [List.removeAll, given, List.filter_cons, List.elem_eq_mem, decide_false,
        Bool.not_false, if_true, List.filter_nil, if_false, List.eraseDups_cons,
        List.eraseDups_nil, List.filterMap_cons, List.filterMap_nil]
      cases catalogue.find? (·.name == name) <;> rfl
  rw [one, select]
  cases found : catalogue.find? (·.name == name) with
  | none => simp
  | some root =>
    have named := List.find?_some found
    obtain rfl : root.name = name := eq_of_beq named
    dsimp only
    by_cases given : root.name ∈ names
    · rw [if_pos ((any_rootsNamed_iff found).mpr given), if_pos given, List.append_nil]
    · rw [if_neg (mt (any_rootsNamed_iff found).mp given), if_neg given]
      rfl

theorem foldl_select (extra names : List String) :
    extra.foldl (select catalogue) (rootsNamed catalogue names) =
      rootsNamed catalogue (names ++ extra) := by
  induction extra generalizing names with
  | nil => rw [List.foldl_nil, List.append_nil]
  | cons name rest ih => rw [List.foldl_cons, select_rootsNamed, ih, List.append_assoc]; rfl

/-- A registry is loaded from these modules and in this order. -/
theorem ofCatalogue_eq_foldl (kind : String) (extra : List String) :
    ofCatalogue kind catalogue extra = (modulesOf catalogue extra).foldl load ⟨kind, ∅, []⟩ := by
  have builtin : (catalogue.find? (·.name == builtinRoot)).toList =
      rootsNamed catalogue [builtinRoot] := by
    simp only [rootsNamed, List.eraseDups_cons, List.filter_nil, List.eraseDups_nil,
      List.filterMap_cons, List.filterMap_nil]
    cases catalogue.find? (·.name == builtinRoot) <;> rfl
  rw [ofCatalogue, builtin, foldl_select]
  rfl

/-! ## 2. What modules add -/

/-- Modules add their methods one after the other, and the names of those that fail. -/
theorem foldl_load (units : List (PluginModule α κ)) (r : Registry α κ) :
    units.foldl load r =
      { r with
        methods := (units.flatMap PluginModule.offered).foldl offer r.methods
        failed := r.failed ++ (units.filter PluginModule.fails).map PluginModule.name } := by
  induction units generalizing r with
  | nil => simp
  | cons unit rest ih =>
    rw [List.foldl_cons, ih, List.flatMap_cons, List.foldl_append, List.filter_cons]
    unfold load PluginModule.offered PluginModule.fails
    cases unit.load with
    | ok loaded => rfl
    | error e => simp

theorem entries_prefix_offer (methods : Roster (Method α κ)) (m : Method α κ) :
    methods.entries <+: (offer methods m).entries := by
  unfold offer
  split
  · exact List.prefix_rfl
  · rename_i free
    have fresh : m.name ∉ methods.entries.map Prod.fst := by
      rw [Bool.not_eq_true, Roster.contains_eq_false_iff] at free
      intro taken
      obtain ⟨other, known⟩ := Roster.mem_names_iff.mp taken
      rw [free] at known
      cases known
    change methods.entries <+: Roster.put m.name m methods.entries
    rw [Roster.put_of_not_mem fresh]
    exact List.prefix_append _ _

/-- What is offered later only adds to what is there. -/
theorem entries_prefix_foldl_offer (offered : List (Method α κ)) (methods : Roster (Method α κ)) :
    methods.entries <+: (offered.foldl offer methods).entries := by
  induction offered generalizing methods with
  | nil => exact List.prefix_rfl
  | cons m rest ih => exact (entries_prefix_offer methods m).trans (ih _)

theorem methods_ofCatalogue (kind : String) (extra : List String) :
    (ofCatalogue kind catalogue extra).methods =
      ((modulesOf catalogue extra).flatMap PluginModule.offered).foldl offer ∅ := by
  rw [ofCatalogue_eq_foldl, foldl_load]

theorem failed_ofCatalogue (kind : String) (extra : List String) :
    (ofCatalogue kind catalogue extra).failed =
      ((modulesOf catalogue extra).filter PluginModule.fails).map PluginModule.name := by
  rw [ofCatalogue_eq_foldl, foldl_load, List.nil_append]

/-- Roots that are asked for later are loaded later. -/
theorem modulesOf_append (catalogue : List (PluginRoot α κ)) (xs ys : List String) :
    ∃ more, modulesOf catalogue (xs ++ ys) = modulesOf catalogue xs ++ more := by
  obtain ⟨more, grown⟩ := rootsNamed_prefix catalogue (builtinRoot :: xs) ys
  refine ⟨more.flatMap PluginRoot.modules, ?_⟩
  rw [modulesOf, modulesOf, ← List.flatMap_append, grown]
  rfl

/-! ## 3. Where a method comes from -/

/-- A method is what the first of some modules that have its name offers under that name. -/
def FirstOffered (units : List (PluginModule α κ)) (name : String) (m : Method α κ) : Prop :=
  ∃ before unit behind loaded, units = before ++ unit :: behind ∧ unit.load = .ok loaded ∧
    loaded.find? (·.name == name) = some m ∧
    ∀ other ∈ before, ∀ methods, other.load = .ok methods → ∀ m ∈ methods, m.name ≠ name

theorem find?_offered_eq_some_iff {unit : PluginModule α κ} {test : Method α κ → Bool}
    {m : Method α κ} : unit.offered.find? test = some m ↔
      ∃ loaded, unit.load = .ok loaded ∧ loaded.find? test = some m := by
  unfold PluginModule.offered
  cases unit.load with
  | ok loaded => simp
  | error e => simp

theorem find?_offered_eq_none_iff {unit : PluginModule α κ} {name : String} :
    unit.offered.find? (·.name == name) = none ↔
      ∀ methods, unit.load = .ok methods → ∀ m ∈ methods, m.name ≠ name := by
  unfold PluginModule.offered
  cases unit.load with
  | ok loaded => simp [List.find?_eq_none]
  | error e => simp

theorem find_ofCatalogue_iff {kind : String} {extra : List String} {name : String}
    {m : Method α κ} :
    (ofCatalogue kind catalogue extra).find name = .ok m ↔
      FirstOffered (modulesOf catalogue extra) name m := by
  rw [find, elim_eq_ok, methods_ofCatalogue, get?_foldl_offer, Roster.get?_empty, Option.none_or,
    List.find?_flatMap, List.findSome?_eq_some_iff]
  simp only [find?_offered_eq_some_iff, find?_offered_eq_none_iff]
  constructor
  · rintro ⟨before, unit, behind, same, ⟨loaded, done, found⟩, first⟩
    exact ⟨before, unit, behind, loaded, same, done, found, first⟩
  · rintro ⟨before, unit, behind, loaded, same, done, found, first⟩
    exact ⟨before, unit, behind, same, ⟨loaded, done, found⟩, first⟩

end Registry

/-! ## 4. Modules that fail -/

/-- A module that fails to load has become one that loads nothing, or it is the same. -/
inductive PluginModule.Patched : PluginModule α κ → PluginModule α κ → Prop where
  | same (unit : PluginModule α κ) : Patched unit unit
  | emptied {unit empty : PluginModule α κ} (fails : unit.fails = true)
      (nothing : empty.load = .ok []) : Patched unit empty

/-- Some modules of a root that fail to load have become ones that load nothing. -/
structure PluginRoot.Patched (root patched : PluginRoot α κ) : Prop where
  name : patched.name = root.name
  modules : List.Forall₂ PluginModule.Patched root.modules patched.modules

theorem PluginModule.Patched.offered {unit patched : PluginModule α κ} (h : unit.Patched patched) :
    patched.offered = unit.offered := by
  cases h with
  | same => rfl
  | emptied fails nothing =>
    unfold PluginModule.fails at fails
    unfold PluginModule.offered
    rw [nothing]
    cases loaded : unit.load with
    | ok methods => rw [loaded] at fails; cases fails
    | error e => rfl

theorem PluginModule.flatMap_offered_patched {units patched : List (PluginModule α κ)}
    (h : List.Forall₂ PluginModule.Patched units patched) :
    patched.flatMap offered = units.flatMap offered := by
  induction h with
  | nil => rfl
  | cons first _ ih => rw [List.flatMap_cons, List.flatMap_cons, first.offered, ih]

namespace Registry

/-- The methods of a registry depend on names and methods of the roots alone. -/
theorem flatMap_offered_modulesOf (catalogue : List (PluginRoot α κ)) (extra : List String) :
    (modulesOf catalogue extra).flatMap PluginModule.offered =
      ((builtinRoot :: extra).eraseDups.filterMap fun name =>
        (catalogue.map fun root => (root.name, root.offered)).find? (·.1 == name)).flatMap
          Prod.snd := by
  have found (name : String) :
      (catalogue.map fun root => (root.name, root.offered)).find? (·.1 == name) =
        (catalogue.find? (·.name == name)).map fun root => (root.name, root.offered) :=
    List.find?_map
  simp only [found]
  rw [← List.map_filterMap, List.flatMap_map, modulesOf, List.flatMap_assoc]
  rfl

theorem methods_ofCatalogue_patched {catalogue patched : List (PluginRoot α κ)}
    (h : List.Forall₂ PluginRoot.Patched catalogue patched) (kind : String)
    (extra : List String) :
    (ofCatalogue kind patched extra).methods = (ofCatalogue kind catalogue extra).methods := by
  have alike : (patched.map fun root => (root.name, root.offered)) =
      catalogue.map fun root => (root.name, root.offered) := by
    induction h with
    | nil => rfl
    | cons first _ ih => rw [List.map_cons, List.map_cons, first.name, ih, PluginRoot.offered,
      PluginModule.flatMap_offered_patched first.modules, PluginRoot.offered]
  rw [methods_ofCatalogue, methods_ofCatalogue, flatMap_offered_modulesOf,
    flatMap_offered_modulesOf, alike]

/-! ## 5. Further roots -/

theorem kind_ofCatalogue (kind : String) (catalogue : List (PluginRoot α κ))
    (extra : List String) : (ofCatalogue kind catalogue extra).kind = kind := by
  rw [ofCatalogue_eq_foldl, foldl_load]

theorem entries_prefix_ofCatalogue (kind : String) (catalogue : List (PluginRoot α κ))
    (xs ys : List String) :
    (ofCatalogue kind catalogue xs).methods.entries <+:
      (ofCatalogue kind catalogue (xs ++ ys)).methods.entries := by
  obtain ⟨more, grown⟩ := modulesOf_append catalogue xs ys
  rw [methods_ofCatalogue, methods_ofCatalogue, grown, List.flatMap_append, List.foldl_append]
  exact entries_prefix_foldl_offer _ _

/-- Whatever catalogue a registry is made from, further roots only add to it: names and failed
modules of the smaller registry come first in the larger one, and each of its names stands for the
same method there. No name comes twice. A name stands for what the first module offers under it
that loads and has it, in the order of the roots: the built-in one, then those that were asked
for, each where it was named first. And a module that fails to load, instead of loading nothing,
makes no difference but that it is listed as failed. -/
theorem further_roots_append (kind : String) (catalogue : List (PluginRoot α κ))
    (xs ys : List String) :
    let registry := ofCatalogue kind catalogue xs
    let larger := ofCatalogue kind catalogue (xs ++ ys)
    (registry.names <+: larger.names ∧ registry.failed <+: larger.failed ∧
      ∀ name ∈ registry.names, ∃ m, registry.find name = .ok m ∧ larger.find name = .ok m) ∧
    registry.names.Nodup ∧
    (∀ name m, registry.find name = .ok m ↔ FirstOffered (modulesOf catalogue xs) name m) ∧
    ∀ patched, List.Forall₂ PluginRoot.Patched catalogue patched →
      ofCatalogue kind patched xs =
        { registry with failed := (ofCatalogue kind patched xs).failed } := by
  intro registry larger
  have grows := entries_prefix_ofCatalogue kind catalogue xs ys
  refine ⟨⟨grows.map Prod.fst, ?_, ?_⟩, registry.methods.nodup,
    fun name m => find_ofCatalogue_iff, fun patched alike => ?_⟩
  · obtain ⟨more, modules⟩ := modulesOf_append catalogue xs ys
    change (ofCatalogue kind catalogue xs).failed <+: (ofCatalogue kind catalogue (xs ++ ys)).failed
    rw [failed_ofCatalogue, failed_ofCatalogue, modules, List.filter_append, List.map_append]
    exact List.prefix_append _ _
  · intro name known
    obtain ⟨m, found⟩ := Roster.mem_names_iff.mp known
    have kept := Roster.mem_entries_iff.mp (grows.subset (Roster.mem_entries_iff.mpr found))
    exact ⟨m, elim_eq_ok.mpr found, elim_eq_ok.mpr kept⟩
  · have methods : registry.methods = _ := (methods_ofCatalogue_patched alike kind xs).symm
    have kinds : registry.kind = (ofCatalogue kind patched xs).kind :=
      (kind_ofCatalogue kind catalogue xs).trans (kind_ofCatalogue kind patched xs).symm
    rw [methods, kinds]

/-! A catalogue with two roots. A module of the built-in root fails to load, and the other root
offers a name again that the built-in root has, and another name twice. -/

def toy (name parameter : String) : Method Nat Unit :=
  ⟨name, [.real parameter "s" 1 (.point 0) (.point 10)], ()⟩

def toys (second : PluginModule Nat Unit) : List (PluginRoot Nat Unit) :=
  [⟨"extra", [⟨"more", .ok [toy "alpha" "shadowed", toy "gamma" "c", toy "gamma" "d"]⟩]⟩,
    ⟨builtinRoot, [⟨"good", .ok [toy "alpha" "a", toy "beta" "b"]⟩, second]⟩]

def broken : PluginModule Nat Unit := ⟨"broken", .error (.config .importFailed)⟩

/-- The broken module, if it loads nothing. -/
def hollow : PluginModule Nat Unit := ⟨"hollow", .ok []⟩

/-- With the other root there is one more name, and `alpha` is still that of the built-in root.
Without the failure nothing differs but that it is not listed. -/
theorem further_roots_append_toys :
    let registry := ofCatalogue "toys" (toys broken) ["builtin"]
    let larger := ofCatalogue "toys" (toys broken) ["builtin", "extra", "missing", "extra"]
    registry.names = ["alpha", "beta"] ∧ larger.names = ["alpha", "beta", "gamma"] ∧
      "alpha" ∈ registry.names ∧
      (∃ m, registry.find "alpha" = .ok m ∧ larger.find "alpha" = .ok m) ∧
      List.Forall₂ PluginRoot.Patched (toys broken) (toys hollow) ∧
      ofCatalogue "toys" (toys hollow) ["builtin"] = { registry with failed := [] } := by
  intro registry larger
  obtain ⟨⟨-, -, same⟩, -, -, patched⟩ :=
    further_roots_append "toys" (toys broken) ["builtin"] ["extra", "missing", "extra"]
  have known : "alpha" ∈ registry.names := List.mem_cons_self
  have alike : List.Forall₂ PluginRoot.Patched (toys broken) (toys hollow) := by
    refine .cons ⟨rfl, .cons (.same _) .nil⟩ (.cons ⟨rfl, ?_⟩ .nil)
    exact .cons (.same _) (.cons (.emptied rfl rfl) .nil)
  exact ⟨rfl, rfl, known, same "alpha" known, alike, patched (toys hollow) alike⟩

end Registry

end PulseBench
