import PulseBench.Counting.Counter

/-!
# A counter in memory

`MemoryCounter` counts a given pattern: every read of a running counter adds the pattern once. It
keeps a log of all calls, and it can be told to stop answering from some read on.
-/

namespace PulseBench

variable {α : Type}

/-- A call, as the log shows it. -/
inductive CounterEntry (α : Type) where
  | configure (settings : CounterSettings α)
  | call (call : CounterCall)

/-- The line of a log entry. -/
def CounterEntry.line [Numeral α] : CounterEntry α → String
  | .configure s =>
      CounterCall.configure.name ++
        s!" {Numeral.plain s.binWidth} {Numeral.plain s.recordLength} {s.gates}"
  | .call c => c.name

structure MemoryCounter (α : Type) where
  settings : CounterSettings α
  limits : CounterLimits α
  gated : Bool
  running : Bool
  paused : Bool
  /-- Counts that one sweep adds. -/
  pattern : Option Counts
  accumulated : Option Counts
  sweeps : Nat
  reads : Nat
  /-- Do not answer reads from this one on; the first read is number one. -/
  silentFrom : Option Nat
  log : List (CounterEntry α)

namespace MemoryCounter

/-- Five bin widths up to 16 ns, records of up to 10 ms, a thousand gates. -/
def defaultLimits [Scalar α] : CounterLimits α :=
  ⟨[1e-9, 2e-9, 4e-9, 8e-9, 16e-9], 10e-3, 1000⟩

/-- A counter that was just switched on. -/
def fresh [Scalar α] (gated : Bool) : MemoryCounter α where
  settings := { CounterSettings.default with gates := if gated then 1 else 0 }
  limits := defaultLimits
  gated := gated
  running := false
  paused := false
  pattern := none
  accumulated := none
  sweeps := 0
  reads := 0
  silentFrom := none
  log := []

/-- Appends an entry to the log. -/
def note (entry : CounterEntry α) (c : MemoryCounter α) : MemoryCounter α :=
  { c with log := c.log ++ [entry] }

/-- Whether a distance is less than another; undefined distances are greatest. -/
def isCloser [Scalar α] (a b : α) : Bool :=
  !Scalar.isNaN a && (Scalar.isNaN b || decide (a < b))

/-- The first of the bin widths that are nearest to a requested one. -/
def nearestWidth [Scalar α] (widths : List α) (requested : α) : α :=
  let distance (w : α) : α := Scalar.abs (w - requested)
  match widths with
  | [] => requested
  | first :: rest =>
      rest.foldl (fun best w => if isCloser (distance w) (distance best) then w else best) first

def configure [Scalar α] (requested : CounterSettings α) :
    Action α (MemoryCounter α) (CounterSettings α) := do
  modify (note (.configure requested))
  let c ← get
  if c.running then throw (.device .counterBusy)
  Action.lift (c.limits.check c.gated requested)
  let settings : CounterSettings α :=
    { requested with
      binWidth := nearestWidth c.limits.binWidths requested.binWidth
      gates := if c.gated then requested.gates else 0 }
  set { c with settings, accumulated := none }
  return settings

/-- The counts after one more sweep. Counts of another shape start anew. -/
def swept (c : MemoryCounter α) (pattern : Counts) : Counts :=
  ((c.accumulated.bind (·.add? pattern))).getD pattern

/-- The counter after one more sweep, if it runs. -/
def sweep (c : MemoryCounter α) : MemoryCounter α :=
  match c.pattern with
  | some pattern =>
      if c.running && !c.paused then
        { c with accumulated := some (c.swept pattern), sweeps := c.sweeps + 1 }
      else c
  | none => c

def read [Scalar α] : Action α (MemoryCounter α) Reading := do
  modify fun c => note (.call .read) { c with reads := c.reads + 1 }
  let c ← get
  if c.silentFrom.any fun first => decide (first ≤ c.reads) then
    throw (.device .counterSilent)
  let c := c.sweep
  set c
  return ⟨c.accumulated.getD c.settings.zeros, some c.sweeps⟩

def start : Action α (MemoryCounter α) Unit :=
  modify fun c =>
    note (.call .start) { c with running := true, paused := false, accumulated := none, sweeps := 0 }

def stop : Action α (MemoryCounter α) Unit :=
  modify fun c => note (.call .stop) { c with running := false, paused := false }

def pause : Action α (MemoryCounter α) Unit :=
  modify fun c => note (.call .pause) { c with paused := true }

def resume : Action α (MemoryCounter α) Unit :=
  modify fun c => note (.call .resume) { c with paused := false }

instance [Scalar α] : Counter α (MemoryCounter α) where
  limits := limits
  isGated := gated
  configure := configure
  read := read
  start := start
  stop := stop
  pause := pause
  resume := resume

end MemoryCounter

/-! ## Patterns -/

/-- The level of a bin behind pulses of `length` bins that begin at `starts`. -/
def isLit (starts : List Nat) (length bin : Nat) : Bool :=
  starts.any fun start => decide (start ≤ bin) && decide (bin < start + length)

/-- A trace with pulses of a given level on a background. -/
def pulseTrace (binCount : Nat) (starts : List Nat) (length level background : Nat) : List Nat :=
  (List.range binCount).map fun bin => if isLit starts length bin then level else background

/-- Gates that all see the same pulse, without background. -/
def pulseGates (gateCount binCount start length level : Nat) : Grid Nat :=
  .repeated gateCount (pulseTrace binCount [start] length level 0)

end PulseBench
