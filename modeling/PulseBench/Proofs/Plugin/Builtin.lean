import PulseBench.Plugin.Registry
import PulseBench.Proofs.Outcome
import PulseBench.Proofs.Roster

/-!
# Registries of the built-in root

A catalogue may have no root but the built-in one. Asking for more roots then changes
nothing, and a name stands for the first method of that name.

Results:
1. `ofCatalogue_builtin`: no further root is loaded.
2. `find_builtin_iff`: what a name stands for.
-/

namespace PulseBench.Registry

variable {α κ : Type}

/-- A root that is the only one cannot be selected again. -/
theorem select_singleton (root : PluginRoot α κ) (name : String) :
    select [root] [root] name = [root] := by
  unfold select
  split
  · rename_i other found
    obtain rfl := List.mem_singleton.mp (List.mem_of_find?_eq_some found)
    exact if_pos (List.any_eq_true.mpr ⟨other, List.mem_singleton_self other, beq_self_eq_true other.name⟩)
  · rfl

theorem ofCatalogue_builtin (kind : String) (modules : List (PluginModule α κ))
    (extra : List String) :
    ofCatalogue kind [⟨builtinRoot, modules⟩] extra = ofRoots kind [⟨builtinRoot, modules⟩] := by
  have found : ([⟨builtinRoot, modules⟩] : List (PluginRoot α κ)).find? (·.name == builtinRoot) =
      some ⟨builtinRoot, modules⟩ := List.find?_cons_of_pos (beq_self_eq_true _)
  rw [ofCatalogue, found, Option.toList_some]
  exact congrArg (ofRoots kind) (List.foldl_fixed' (select_singleton _) extra)

/-- The first method of a name wins. -/
theorem get?_foldl_offer (offered : List (Method α κ)) (methods : Roster (Method α κ))
    (name : String) :
    (offered.foldl offer methods).get? name =
      (methods.get? name).or (offered.find? (·.name == name)) := by
  induction offered generalizing methods with
  | nil => rw [List.foldl_nil, List.find?_nil, Option.or_none]
  | cons m rest ih =>
    have first : (offer methods m).get? name =
        (methods.get? name).or (if name = m.name then some m else none) := by
      unfold offer
      cases taken : methods.contains m.name with
      | true =>
        obtain ⟨own, known⟩ := Roster.contains_iff.mp taken
        by_cases same : name = m.name
        · rw [if_pos rfl, same, known, Option.some_or]
        · rw [if_pos rfl, if_neg same, Option.or_none]
      | false =>
        have free := Roster.contains_eq_false_iff.mp taken
        rw [if_neg Bool.false_ne_true, Roster.get?_insert]
        by_cases same : name = m.name
        · rw [if_pos same, if_pos same, same, free, Option.none_or]
        · rw [if_neg same, if_neg same, Option.or_none]
    have found : (m :: rest).find? (·.name == name) =
        (if name = m.name then some m else none).or (rest.find? (·.name == name)) := by
      by_cases same : name = m.name
      · rw [if_pos same, Option.some_or]
        exact List.find?_cons_of_pos (beq_iff_eq.mpr same.symm)
      · rw [if_neg same, Option.none_or]
        exact List.find?_cons_of_neg fun equal => same (beq_iff_eq.mp equal).symm
    rw [List.foldl_cons, ih, first, found, Option.or_assoc]

/-- What a name stands for. -/
theorem find_builtin_iff (kind module : String) (offered : List (Method α κ)) (extra : List String)
    {name : String} {m : Method α κ} :
    (ofCatalogue kind [⟨builtinRoot, [⟨module, .ok offered⟩]⟩] extra).find name = .ok m ↔
      offered.find? (·.name == name) = some m := by
  have methods : (ofRoots kind [⟨builtinRoot, [⟨module, .ok offered⟩]⟩]).methods =
      offered.foldl offer ∅ := rfl
  rw [ofCatalogue_builtin, find, methods, get?_foldl_offer, Roster.get?_empty, Option.none_or]
  exact elim_eq_ok

end PulseBench.Registry
