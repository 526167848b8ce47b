import PulseBench.Roster

/-!
# Busy assets

While an asset is compiled or uploaded it is busy, and no measurement starts on it. The guard holds
the names of the busy assets; a name that is released is idle, whoever marked it.
-/

namespace PulseBench

structure AssetGuard where
  busy : NameSet
deriving DecidableEq

namespace AssetGuard

/-- Nothing is busy. -/
def idle : AssetGuard := ⟨∅⟩

/-- Marks an asset busy. -/
def mark (g : AssetGuard) (name : String) : AssetGuard := ⟨g.busy.insert name⟩

/-- Marks an asset idle. -/
def release (g : AssetGuard) (name : String) : AssetGuard := ⟨g.busy.filter (· != name)⟩

def isBusy (g : AssetGuard) (name : String) : Bool := g.busy.contains name

/-- The busy assets, in increasing order. -/
def busyAssets (g : AssetGuard) : List String := g.busy.names

/-- Waits for an asset to become idle, and tells if it did. `later` are the guards that are found
whenever the wait is interrupted, the last one when the time is up; with no time to wait there are
none. -/
def waitIdle (name : String) : AssetGuard → List AssetGuard → Bool
  | g, [] => !g.isBusy name
  | g, next :: later => !g.isBusy name || waitIdle name next later

end AssetGuard

end PulseBench
