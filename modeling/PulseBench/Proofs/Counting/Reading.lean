import Mathlib.Data.List.Forall2
import PulseBench.Counting.MemoryCounter
import PulseBench.Proofs.Outcome

/-!
# Counts that grow

Counts are compared bin by bin, and only if they are of the same shape
(`Counts.AtMost`). Adding counts of the same shape never makes one smaller.

A counter in memory that answers gives the counts accumulated since its start.
If its pattern is of some shape, then so are these, unless nothing was counted yet
(`MemoryCounter.Fits`).

Results:
1. `Counts.add?_isSum`, `Counts.atMost_add`, `Counts.isSum_of_isZero`: adding counts.
2. `Counter.Answers`: what is expected of a reading.
3. `MemoryCounter.read_ok`: what a read gives, and what it does to the counter.
-/

namespace PulseBench

/-! ## 1. Counts bin by bin -/

namespace Counts

/-- Of the same shape, and no less in any bin. -/
structure AtMost (a b : Counts) : Prop where
  shape : a.shape = b.shape
  bins : List.Forall₂ (· ≤ ·) a.values b.values

theorem AtMost.refl (a : Counts) : a.AtMost a := ⟨rfl, List.forall₂_refl a.values⟩

theorem forall₂_zipWith_add {a b : List Nat} (same : a.length = b.length) :
    List.Forall₂ (· ≤ ·) b (a.zipWith (· + ·) b) := by
  induction a generalizing b with
  | nil =>
    cases b with
    | nil => exact .nil
    | cons y b => cases same
  | cons x a ih =>
    cases b with
    | nil => cases same
    | cons y b => exact .cons (Nat.le_add_left y x) (ih (Nat.succ.inj same))

/-- What is combined row by row is combined value by value. -/
theorem flatten_zipWith {β γ δ : Type} {f : β → γ → δ} {a : List (List β)} {b : List (List γ)}
    (rows : a.length = b.length) (columns : ∀ x ∈ a, ∀ y ∈ b, x.length = y.length) :
    (a.zipWith (List.zipWith f) b).flatten = a.flatten.zipWith f b.flatten := by
  induction a generalizing b with
  | nil => rfl
  | cons x a ih =>
    cases b with
    | nil => cases rows
    | cons y b =>
      have others := ih (Nat.succ.inj rows) fun x' inA y' inB =>
        columns x' (List.mem_cons_of_mem _ inA) y' (List.mem_cons_of_mem _ inB)
      rw [List.zipWith_cons_cons, List.flatten_cons, List.flatten_cons, List.flatten_cons, others,
        List.zipWith_append (columns x List.mem_cons_self y List.mem_cons_self)]

theorem length_flatten {β : Type} {rows : List (List β)} {columns : Nat}
    (rectangular : ∀ row ∈ rows, row.length = columns) :
    rows.flatten.length = rows.length * columns := by
  induction rows with
  | nil => exact (Nat.zero_mul columns).symm
  | cons row rows ih =>
    rw [List.flatten_cons, List.length_append, rectangular row List.mem_cons_self,
      ih fun other member => rectangular other (List.mem_cons_of_mem _ member), List.length_cons,
      Nat.succ_mul, Nat.add_comm]

/-- The shape tells the number of bins. -/
theorem length_values_of_shape {a b : Counts} (same : a.shape = b.shape) :
    a.values.length = b.values.length := by
  cases a with
  | trace a =>
    cases b with
    | trace b => exact List.singleton_inj.mp same
    | gates b => exact absurd same (by simp [shape])
  | gates a =>
    cases b with
    | trace b => exact absurd same (by simp [shape])
    | gates b =>
      obtain ⟨rows, columns⟩ : a.rows.length = b.rows.length ∧ a.columns = b.columns := by
        simpa [shape, Grid.rowCount] using same
      change a.rows.flatten.length = b.rows.flatten.length
      rw [length_flatten a.rectangular, length_flatten b.rectangular, rows, columns]

/-- Counts of the shape of two others, each bin with the sum of both. -/
structure IsSum (a b sum : Counts) : Prop where
  shape : sum.shape = b.shape
  bins : sum.values = a.values.zipWith (· + ·) b.values

/-- Counts of the same shape can be added bin by bin. -/
theorem add?_isSum {a b : Counts} (same : a.shape = b.shape) :
    ∃ sum, a.add? b = some sum ∧ a.IsSum b sum := by
  cases a with
  | trace a =>
    cases b with
    | trace b =>
      have length : a.length = b.length := List.singleton_inj.mp same
      refine ⟨.trace (a.zipWith (· + ·) b), if_pos length, ?_, rfl⟩
      simp [shape, length]
    | gates b => exact absurd same (by simp [shape])
  | gates a =>
    cases b with
    | trace b => exact absurd same (by simp [shape])
    | gates b =>
      obtain ⟨rows, columns⟩ : a.rowCount = b.rowCount ∧ a.columns = b.columns := by
        simpa [shape] using same
      refine ⟨.gates (a.zipWith (· + ·) b columns), dif_pos ⟨rows, columns⟩, ?_, ?_⟩
      · have height : (a.rows.zipWith (List.zipWith (· + ·)) b.rows).length = b.rowCount := by
          rw [List.length_zipWith, show a.rows.length = b.rows.length from rows, Nat.min_self]
          rfl
        exact congrArg₂ (fun m n => [m, n]) height columns
      · refine flatten_zipWith rows fun x inA y inB => ?_
        rw [a.rectangular x inA, b.rectangular y inB, columns]

/-- No bin of a sum has less than the counts that were added to. -/
theorem IsSum.atMost {a b sum : Counts} (same : a.shape = b.shape) (h : a.IsSum b sum) :
    b.AtMost sum where
  shape := h.shape.symm
  bins := by
    rw [h.bins]
    exact forall₂_zipWith_add (length_values_of_shape same)

/-- Counts of the same shape can be added, and the sum has no less in any bin. -/
theorem atMost_add {a b : Counts} (same : a.shape = b.shape) :
    ∃ sum, a.add? b = some sum ∧ b.AtMost sum := by
  obtain ⟨sum, added, isSum⟩ := add?_isSum same
  exact ⟨sum, added, isSum.atMost same⟩

/-- Where one of two counts is nothing at all, the other one is their sum. -/
theorem isSum_of_isZero {a b : Counts} (same : a.shape = b.shape) (zero : a.isZero = true) :
    a.IsSum b b := by
  have length := length_values_of_shape same
  refine ⟨rfl, List.ext_getElem ?_ fun i inB inSum => ?_⟩
  · rw [List.length_zipWith, length, Nat.min_self]
  · have inA : i < a.values.length := length ▸ inB
    have nothing : a.values[i] = 0 :=
      eq_of_beq (List.all_eq_true.mp zero _ (List.getElem_mem _))
    rw [List.getElem_zipWith, nothing, Nat.zero_add]

theorem isZero_zeros (gateCount binCount : Nat) : (zeros gateCount binCount).isZero = true := by
  unfold zeros isZero
  split
  · simp [values]
  · simp [values, Grid.values, Grid.fill]

end Counts

/-! ## 2. What a counter answers -/

/-- Whatever the counter answers when it is read next is as it should be. -/
def Counter.Answers {α κ : Type} [Counter α κ] (Expected : Reading → Prop) (c : κ) : Prop :=
  ∀ reading next, (Counter.read : Action α κ Reading) c = .ok reading next → Expected reading

instance {α κ : Type} [Counter α κ] (Expected : Reading → Prop) [DecidablePred Expected] (c : κ) :
    Decidable (Counter.Answers Expected c) :=
  match answered : (Counter.read : Action α κ Reading) c with
  | .ok reading next =>
      decidable_of_iff (Expected reading)
        ⟨fun expected _ _ other => by cases answered.symm.trans other; exact expected,
          fun answers => answers reading next answered⟩
  | .error _ _ => isTrue fun _ _ other => nomatch answered.symm.trans other

/-! ## 3. A counter in memory -/

namespace MemoryCounter

variable {α : Type} [Scalar α]

/-- The counter answers, and it counts in a given shape. -/
structure Fits (shape : List Nat) (c : MemoryCounter α) : Prop where
  answers : c.silentFrom = none
  pattern : ∀ pattern, c.pattern = some pattern → pattern.shape = shape

/-- What was counted since the start is of a given shape. -/
def Counted (shape : List Nat) (c : MemoryCounter α) : Prop :=
  ∀ counts, c.accumulated = some counts → counts.shape = shape

omit [Scalar α] in
/-- What one more sweep leaves as it was. -/
theorem sweep_same (c : MemoryCounter α) :
    c.sweep.silentFrom = c.silentFrom ∧ c.sweep.pattern = c.pattern ∧
      c.sweep.reads = c.reads ∧ c.sweep.settings = c.settings := by
  unfold sweep
  split
  · split <;> exact ⟨rfl, rfl, rfl, rfl⟩
  · exact ⟨rfl, rfl, rfl, rfl⟩

omit [Scalar α] in
theorem swept_shape {shape : List Nat} {c : MemoryCounter α} (counted : c.Counted shape)
    {pattern : Counts} (same : pattern.shape = shape) : (c.swept pattern).shape = shape := by
  unfold swept
  cases known : c.accumulated with
  | none => exact same
  | some counts =>
    obtain ⟨sum, added, grown⟩ := Counts.atMost_add ((counted counts known).trans same.symm)
    rw [Option.bind_some, added]
    exact grown.shape.symm.trans same

omit [Scalar α] in
theorem sweep_counted {shape : List Nat} {c : MemoryCounter α} (fits : c.Fits shape)
    (counted : c.Counted shape) : c.sweep.Counted shape := by
  unfold sweep
  split
  · rename_i pattern known
    split
    · rintro _ ⟨⟩
      exact swept_shape counted (fits.pattern pattern known)
    · exact counted
  · exact counted

/-- A counter that answers gives what it counted so far, which is of its shape or nothing at all. -/
theorem read_ok {shape : List Nat} {c : MemoryCounter α} (fits : c.Fits shape) :
    ∃ reading next, (Counter.read : Action α (MemoryCounter α) Reading) c = .ok reading next ∧
      next.Fits shape ∧ next.reads = c.reads + 1 ∧
      (c.Counted shape → next.Counted shape ∧
        (reading.counts.isZero = true ∨ reading.counts.shape = shape)) := by
  let asked := note (.call .read) { c with reads := c.reads + 1 }
  obtain ⟨answers, pattern, reads, settings⟩ := asked.sweep_same
  refine ⟨⟨asked.sweep.accumulated.getD asked.sweep.settings.zeros, some asked.sweep.sweeps⟩,
    asked.sweep, ?_, ⟨answers.trans fits.answers, ?_⟩, reads, fun counted => ?_⟩
  · change read c = _
    unfold read
    rw [Action.bind_of_ok (Action.modify_apply _ c), Action.bind_of_ok (Action.get_apply _)]
    refine congrFun (if_neg ?_) asked
    rw [show (note (.call .read) { c with reads := c.reads + 1 }).silentFrom = none from
      fits.answers]
    exact Bool.false_ne_true
  · rw [pattern]
    exact fits.pattern
  · have counted' : asked.sweep.Counted shape := sweep_counted ⟨fits.answers, fits.pattern⟩ counted
    refine ⟨counted', ?_⟩
    cases known : asked.sweep.accumulated with
    | none => exact Or.inl (Counts.isZero_zeros _ _)
    | some counts => exact Or.inr (counted' counts known)

/-- Configuring the counter changes nothing of that, whether it succeeds or not. -/
theorem configure_fits (shape : List Nat) (requested : CounterSettings α) :
    Action.Moves (fun a b : MemoryCounter α => a.Fits shape → b.Fits shape)
      (Counter.configure requested : Action α (MemoryCounter α) (CounterSettings α)) := by
  have trans (a b c : MemoryCounter α) (first : a.Fits shape → b.Fits shape)
      (second : b.Fits shape → c.Fits shape) : a.Fits shape → c.Fits shape := second ∘ first
  change Action.Moves _ (configure requested)
  refine Action.Moves.bind trans (Action.Moves.modify fun c fits => ?_) fun _ => ?_
  · exact ⟨fits.answers, fits.pattern⟩
  · refine Action.Moves.get_bind fun c => ?_
    by_cases busy : c.running = true
    · rw [if_pos busy]
      exact id
    · rw [if_neg busy]
      cases c.limits.check c.gated requested with
      | error f => exact id
      | ok _ => exact fun fits => ⟨fits.answers, fits.pattern⟩

end MemoryCounter

end PulseBench
