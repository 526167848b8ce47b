/-!
# Cutting an element into pieces

A long element is evaluated and written in pieces of bounded size. `Cursor` walks over its bins.
-/

namespace PulseBench

/-- A position that walks from zero to `stop`, at most `interval` at a time. -/
structure Cursor where
  position : Nat
  stop : Nat
  interval : Nat
  interval_pos : 0 < interval := by omega
  position_le : position ≤ stop := by omega

namespace Cursor

/-- The start of a walk; an interval of zero counts as one. -/
def start (stop interval : Nat) : Cursor where
  position := 0
  stop := stop
  interval := max interval 1

def isDone (c : Cursor) : Bool := c.position == c.stop

/-- The cursor behind the next piece. -/
def next (c : Cursor) : Cursor where
  position := min (c.position + c.interval) c.stop
  stop := c.stop
  interval := c.interval
  interval_pos := c.interval_pos
  position_le := Nat.min_le_right _ _

theorem position_lt_next {c : Cursor} (h : c.isDone = false) : c.position < c.next.position := by
  have different : c.position ≠ c.stop := by simpa [isDone] using h
  have le := c.position_le
  have pos := c.interval_pos
  simp only [next]
  omega

/-- The remaining pieces, as first bin and number of bins. -/
def pieces (c : Cursor) : List (Nat × Nat) :=
  if _walked : c.isDone then []
  else (c.position, c.next.position - c.position) :: c.next.pieces
termination_by c.stop - c.position
decreasing_by
  have step := position_lt_next (Bool.eq_false_iff.mpr _walked)
  have bound : c.next.position ≤ c.stop := c.next.position_le
  have same : c.next.stop = c.stop := rfl
  omega

end Cursor

/-- The pieces of `bins` bins, each of at most `interval` bins. -/
def pieces (bins interval : Nat) : List (Nat × Nat) := (Cursor.start bins interval).pieces

end PulseBench
