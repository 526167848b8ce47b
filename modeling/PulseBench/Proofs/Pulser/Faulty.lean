import PulseBench.Proofs.Outcome
import PulseBench.Pulser.Faulty

/-!
# Calls behind a fault plan

A call that the plan fails never reaches the device behind it, and any other call is
one of that device. The plan itself never changes.

Results:
1. `attempt_passed`, `attempt_failed`: one call, by what the plan says of it.
2. `attempt_moves`: a relation that the call keeps on the device is kept either way.
-/

namespace PulseBench.FaultyPulser

variable {α δ : Type}

open Action (Moves after_of_ok after_of_error)

/-- The device behind the count of calls. -/
def counted (call : PulserCall) (p : FaultyPulser δ) : FaultyPulser δ :=
  passed call { p with calls := p.calls + 1 }

/-- A call that the plan lets pass is one of the device behind it. -/
theorem attempt_passed {β : Type} {call : PulserCall} (act : Action α δ β) {p : FaultyPulser δ}
    (passes : p.plan.fails call (p.calls + 1) = false) :
    attempt call act p = reach act (counted call p) := by
  unfold attempt
  rw [Action.bind_of_ok (Action.modify_apply _ p), Action.bind_of_ok (Action.get_apply _)]
  simp only [passes]
  rfl

/-- Any other call never gets there. -/
theorem attempt_failed {β : Type} {call : PulserCall} (act : Action α δ β) {p : FaultyPulser δ}
    (fails : p.plan.fails call (p.calls + 1) = true) :
    attempt call act p =
      .error (.device (.injected call.name)) { p with calls := p.calls + 1 } := by
  unfold attempt
  rw [Action.bind_of_ok (Action.modify_apply _ p), Action.bind_of_ok (Action.get_apply _)]
  simp only [fails]
  rfl

theorem reach_after {β : Type} (act : Action α δ β) (p : FaultyPulser δ) :
    (reach act).after p = { p with inner := act.after p.inner } := by
  cases called : act p.inner with
  | ok b inner =>
    have done : reach act p = .ok b { p with inner } := by rw [reach, called]
    rw [after_of_ok done, after_of_ok called]
  | error f inner =>
    have failed : reach act p = .error f { p with inner } := by rw [reach, called]
    rw [after_of_error failed, after_of_error called]

/-- The device behind the plan does what `D` allows, and the plan stays. -/
structure Behind (D : δ → δ → Prop) (before after : FaultyPulser δ) : Prop where
  inner : D before.inner after.inner
  plan : after.plan = before.plan

namespace Behind

variable {D : δ → δ → Prop}

theorem refl (h : ∀ d, D d d) (p : FaultyPulser δ) : Behind D p p := ⟨h _, rfl⟩

theorem trans (h : ∀ a b c, D a b → D b c → D a c) (p q r : FaultyPulser δ)
    (first : Behind D p q) (second : Behind D q r) : Behind D p r :=
  ⟨h _ _ _ first.inner second.inner, second.plan.trans first.plan⟩

end Behind

theorem attempt_moves {D : δ → δ → Prop} (refl : ∀ d, D d d) {β : Type} {act : Action α δ β}
    (moves : Moves D act) (call : PulserCall) : Moves (Behind D) (attempt call act) := by
  intro p
  cases fails : p.plan.fails call (p.calls + 1) with
  | true =>
    rw [after_of_error (attempt_failed act fails)]
    exact ⟨refl _, rfl⟩
  | false =>
    have called : (attempt call act).after p = (reach act).after (counted call p) := by
      rw [Action.after, Action.run, attempt_passed act fails]
      rfl
    have kept : (counted call p).inner = p.inner ∧ (counted call p).plan = p.plan := by
      unfold counted passed
      split <;> exact ⟨rfl, rfl⟩
    rw [called, reach_after]
    exact ⟨kept.1 ▸ moves _, kept.2⟩

end PulseBench.FaultyPulser
