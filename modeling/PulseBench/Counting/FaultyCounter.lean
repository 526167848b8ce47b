import PulseBench.Counting.Counter

/-!
# A counter that fails

`FaultyCounter` puts a `CounterPlan` in front of another counter. A call that the plan fails never
reaches the counter.
-/

namespace PulseBench

/-- Which calls go wrong. Calls are numbered from one, since the plan was made. -/
structure CounterPlan where
  fails : CounterCall → Nat → Bool
  /-- Sweeps are not reported. -/
  hidesSweeps : Bool

/-- Nothing goes wrong. -/
def CounterPlan.none : CounterPlan := ⟨fun _ _ => false, false⟩

structure FaultyCounter (κ : Type) where
  inner : κ
  plan : CounterPlan
  calls : Nat

namespace FaultyCounter

variable {α κ : Type}

/-- A counter under a new plan. -/
def under (plan : CounterPlan) (inner : κ) : FaultyCounter κ := ⟨inner, plan, 0⟩

/-- An action of the counter behind the plan. -/
def reach {β : Type} (act : Action α κ β) : Action α (FaultyCounter κ) β := fun c =>
  match act c.inner with
  | .ok b inner => .ok b { c with inner }
  | .error e inner => .error e { c with inner }

/-- A call, if the plan lets it pass. -/
def attempt {β : Type} (call : CounterCall) (act : Action α κ β) :
    Action α (FaultyCounter κ) β := do
  modify fun c => { c with calls := c.calls + 1 }
  let c ← get
  if c.plan.fails call c.calls then throw (.device (.injected call.name))
  reach act

variable [Counter α κ]

def read : Action α (FaultyCounter κ) Reading := do
  let reading ← attempt .read Counter.read
  return if (← get).plan.hidesSweeps then { reading with sweeps := none } else reading

instance : Counter α (FaultyCounter κ) where
  limits c := Counter.limits c.inner
  isGated c := Counter.isGated c.inner
  configure settings := attempt .configure (Counter.configure settings)
  read := read
  start := attempt .start Counter.start
  stop := attempt .stop Counter.stop
  pause := attempt .pause Counter.pause
  resume := attempt .resume Counter.resume

end FaultyCounter

end PulseBench
