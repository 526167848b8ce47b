import Mathlib.Data.List.Induction
import Mathlib.Data.List.TakeWhile
import PulseBench.Channel

/-!
# The names of channels

The grammar of channel names is `Spells`: the letters of the kind, then one or more of the digits
`0` to `9`, whose decimal value is the number of the channel and has at most 64 bits. Nothing stands
before or behind. Zeros may lead, so a channel has many names; `Channel.name` writes the shortest.

The reader first tells the form of a name, by digits of any script, and then reads a number in the
digits `0` to `9`. A name has to pass both.

Results:
1. `writes_iff`, `writes_toDigits`: decimal numbers, and the digits that write them.
2. `parts?_eq_some_iff`: names of the right form, in any script.
3. `ofName_eq_ok_iff`, `ofName_eq_error`: which names are read, and what is said about all others.
4. `read_iff_spelled`: names are read exactly by the grammar, and every channel is read from the
   name that is written for it.
-/

namespace PulseBench.Channel

/-! ## 1. Decimal numbers -/

/-- One or more of the digits `0` to `9`, and their decimal value. -/
inductive Writes : List Char → Nat → Prop
  | digit (d : Fin 10) : Writes [Nat.digitChar d] d
  | append {digits : List Char} {n : Nat} (earlier : Writes digits n) (d : Fin 10) :
      Writes (digits ++ [Nat.digitChar d]) (10 * n + d)

theorem toNat_digitChar (d : Fin 10) : (Nat.digitChar d).toNat - '0'.toNat = d := by
  revert d
  decide

theorem isDigit_iff {c : Char} : c.isDigit = true ↔ ∃ d : Fin 10, c = Nat.digitChar d := by
  have written (d : Fin 10) : Nat.digitChar d = Char.ofNat ('0'.toNat + d) := by
    revert d
    decide
  constructor
  · intro isDigit
    obtain ⟨least, most⟩ := Char.isDigit_iff_toNat.mp isDigit
    have small : c.toNat - '0'.toNat < 10 := Nat.sub_lt_left_of_lt_add least (Nat.lt_succ_of_le most)
    refine ⟨⟨c.toNat - '0'.toNat, small⟩, ?_⟩
    rw [written, Nat.add_sub_cancel' least, Char.ofNat_toNat]
  · rintro ⟨d, rfl⟩
    revert d
    decide

theorem ofDigits_append (digits : List Char) (d : Fin 10) :
    ofDigits (digits ++ [Nat.digitChar d]) = 10 * ofDigits digits + d := by
  rw [ofDigits, List.foldl_append, List.foldl_cons, List.foldl_nil, toNat_digitChar, ofDigits]

/-- Digits write the number that they are read as. -/
theorem writes_iff {digits : List Char} {n : Nat} :
    Writes digits n ↔ digits ≠ [] ∧ (∀ c ∈ digits, c.isDigit = true) ∧ ofDigits digits = n := by
  constructor
  · intro writes
    induction writes with
    | digit d =>
      have value := ofDigits_append [] d
      refine ⟨List.cons_ne_nil _ _, fun c member => ?_, value.trans (Nat.zero_add _)⟩
      exact isDigit_iff.mpr ⟨d, List.mem_singleton.mp member⟩
    | append earlier d ih =>
      obtain ⟨-, allDigits, value⟩ := ih
      refine ⟨by simp, fun c member => ?_, by rw [ofDigits_append, value]⟩
      rcases List.mem_append.mp member with before | last
      · exact allDigits c before
      · exact isDigit_iff.mpr ⟨d, List.mem_singleton.mp last⟩
  · rintro ⟨filled, allDigits, rfl⟩
    induction digits using List.reverseRecOn with
    | nil => exact absurd rfl filled
    | append_singleton earlier c ih =>
      obtain ⟨d, rfl⟩ := isDigit_iff.mp (allDigits c (by simp))
      rw [ofDigits_append]
      cases earlier with
      | nil => simpa [ofDigits] using Writes.digit d
      | cons first rest =>
        have before := ih (List.cons_ne_nil _ _) fun c member =>
          allDigits c (List.mem_append_left _ member)
        exact before.append d

theorem writes_toDigits (n : Nat) : Writes (Nat.toDigits 10 n) n := by
  induction n using Nat.strongRecOn with
  | ind n ih =>
    by_cases small : n < 10
    · rw [Nat.toDigits_of_lt_base small]
      exact .digit ⟨n, small⟩
    · have least : 10 ≤ n := Nat.le_of_not_lt small
      have writes := (ih (n / 10) (by omega)).append ⟨n % 10, Nat.mod_lt n (by decide)⟩
      rw [Nat.toDigits_of_base_le (by decide) least]
      rwa [Nat.div_add_mod] at writes

/-! ## 2. The form of a name -/

theorem parts?_eq_some_iff {name : String} {kind : ChannelKind} {digits : List Char} :
    parts? name = some (kind, digits) ↔
      name.toList = kind.stem ++ digits ∧ digits ≠ [] ∧
        ∀ c ∈ digits, Text.isDecimalDigit c = true := by
  unfold parts?
  rw [Option.filter_eq_some_iff, Bool.and_eq_true, Bool.not_eq_true', List.isEmpty_eq_false_iff,
    List.all_eq_true]
  refine and_congr_left fun _ => ?_
  constructor
  · intro split
    split at split <;> cases split <;> assumption
  · intro whole
    cases kind <;> rw [whole] <;> rfl

/-! ## 3. Reading a name -/

variable {α : Type}

/-- A name of a channel: the letters of its kind, then digits that write its number, which has at
most 64 bits. -/
structure Spells (name : String) (c : Channel) : Prop where
  letters : ∃ digits, name.toList = c.kind.stem ++ digits ∧ Writes digits c.number
  bits : c.number ≤ Nat.pow 2 64 - 1

theorem Spells.parts? {name : String} {c : Channel} (spells : Spells name c) :
    ∃ digits, Channel.parts? name = some (c.kind, digits) ∧ Writes digits c.number := by
  obtain ⟨digits, whole, writes⟩ := spells.letters
  obtain ⟨filled, allDigits, -⟩ := writes_iff.mp writes
  refine ⟨digits, parts?_eq_some_iff.mpr ⟨whole, filled, fun d member => ?_⟩, writes⟩
  exact Text.isDecimalDigit_of_isDigit (allDigits d member)

/-- The names that are read, and as what. -/
theorem ofName_eq_ok_iff {name : String} {c : Channel} :
    (ofName name : Except (ProgramFault α) Channel) = .ok c ↔ Spells name c := by
  have limit : maxNumber = Nat.pow 2 64 - 1 := rfl
  constructor
  · intro read
    unfold ofName at read
    cases form : Channel.parts? name with
    | none => rw [form] at read; cases read
    | some parts =>
      obtain ⟨kind, digits⟩ := parts
      obtain ⟨whole, filled, -⟩ := parts?_eq_some_iff.mp form
      rw [form] at read
      dsimp only at read
      split at read
      · cases read
      · rename_i notTooLarge
        split at read
        · cases read
        · rename_i notShorter
          cases read
          -- No digit is left over, so all of them are of the script that is read.
          have all : digits.takeWhile Char.isDigit = digits :=
            (List.takeWhile_prefix _).eq_of_length_le (Nat.le_of_not_lt notShorter)
          rw [all] at notTooLarge
          have allDigits := List.takeWhile_eq_self_iff.mp all
          exact ⟨⟨digits, whole, writes_iff.mpr ⟨filled, allDigits, rfl⟩⟩,
            limit ▸ Nat.le_of_not_lt notTooLarge⟩
  · intro spells
    obtain ⟨digits, form, writes⟩ := spells.parts?
    obtain ⟨-, allDigits, value⟩ := writes_iff.mp writes
    have all : digits.takeWhile Char.isDigit = digits := List.takeWhile_eq_self_iff.mpr allDigits
    have small : ¬ maxNumber < c.number := Nat.not_lt.mpr (limit ▸ spells.bits)
    unfold ofName
    simp only [form, all, value, if_neg small, Nat.lt_irrefl, if_false]

/-- What is said about a name that is not read names it. -/
theorem ofName_eq_error {name : String} {fault : ProgramFault α} (refused : ofName name = .error fault) :
    fault = .channelName name ∨ fault = .channelDigits name ∨ fault = .channelTooLarge name := by
  unfold ofName at refused
  split at refused
  · cases refused
    exact Or.inl rfl
  · dsimp only at refused
    split at refused
    · cases refused
      exact Or.inr (Or.inr rfl)
    · split at refused
      · cases refused
        exact Or.inr (Or.inl rfl)
      · cases refused

theorem spells_name {c : Channel} (bits : c.number ≤ Nat.pow 2 64 - 1) : Spells c.name c :=
  ⟨⟨Nat.toDigits 10 c.number, String.toList_ofList, writes_toDigits c.number⟩, bits⟩

/-! ## 4. The grammar -/

/-- Names are read exactly by the grammar. A name that the grammar does not have is refused as an
invalid request, with a message about this name. Every channel whose number has at most 64 bits is
read from the name that is written for it. -/
theorem read_iff_spelled :
    (∀ (name : String) (c : Channel),
      (ofName name : Except (ProgramFault α) Channel) = .ok c ↔ Spells name c) ∧
    (∀ name : String, (∀ c, ¬ Spells name c) → ∃ fault : ProgramFault α,
      ofName name = .error fault ∧ (Failure.program fault).kind = .configuration ∧
        (fault = .channelName name ∨ fault = .channelDigits name ∨ fault = .channelTooLarge name)) ∧
    ∀ c : Channel, c.number ≤ Nat.pow 2 64 - 1 →
      (ofName c.name : Except (ProgramFault α) Channel) = .ok c := by
  refine ⟨fun name c => ofName_eq_ok_iff, fun name unspelled => ?_, fun c bits => ?_⟩
  · cases read : (ofName name : Except (ProgramFault α) Channel) with
    | error fault => exact ⟨fault, rfl, rfl, ofName_eq_error read⟩
    | ok c => exact absurd (ofName_eq_ok_iff.mp read) (unspelled c)
  · exact ofName_eq_ok_iff.mpr (spells_name bits)

/-- Names with a line break behind, with a sign, with a digit of another script and with a number
of 65 bits. -/
def misspelled : List String :=
  ["d_ch1\n", "a_ch+1", "a_ch\u0663", "d_ch18446744073709551616"]

/-- None of them is a name, and the number of 64 bits before the last one is read. -/
theorem read_iff_spelled_misspelled :
    (∀ name ∈ misspelled, (∀ c, ¬ Spells name c) ∧ ∃ fault : ProgramFault ℕ,
      ofName name = .error fault ∧ (Failure.program fault).kind = .configuration) ∧
    (18446744073709551615 : ℕ) ≤ Nat.pow 2 64 - 1 ∧
    (ofName (name ⟨.digital, 18446744073709551615⟩) : Except (ProgramFault ℕ) Channel) =
      .ok ⟨.digital, 18446744073709551615⟩ := by
  obtain ⟨exactly, others, written⟩ := read_iff_spelled (α := ℕ)
  have refused : ∀ name ∈ misspelled, (ofName (α := ℕ) name).toBool = false := by decide +kernel
  refine ⟨fun name member => ?_, by decide, written _ (by decide)⟩
  have unspelled (c : Channel) : ¬ Spells name c := by
    rw [← exactly]
    intro read
    have none := refused name member
    rw [read] at none
    cases none
  obtain ⟨fault, failed, invalid, -⟩ := others _ unspelled
  exact ⟨unspelled, fault, failed, invalid⟩

end PulseBench.Channel
