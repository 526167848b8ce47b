import Mathlib.Algebra.Ring.Nat
import Mathlib.Data.List.Basic
import PulseBench.Compile.Waveform

/-!
# Cutting loses no bin

An element is cut into pieces and the pieces are grouped into chunks. Neither
step may lose, repeat or reorder a bin, wherever the borders fall: an element
without bins, an element longer than a chunk, a chunk that ends with an element.

Results:
1. `pieces_tile`: the pieces of an element list its bins once and in order.
2. `pieces_pos`: no piece is empty.
3. `groups_flatten`: the groups list the pieces once and in order.
4. `groups_ne_nil`, `groupSize_pos`: no chunk is empty.
-/

namespace PulseBench

namespace Cursor

theorem pieces_tile (c : Cursor) :
    (c.pieces.flatMap fun piece => List.range' piece.1 piece.2) =
      List.range' c.position (c.stop - c.position) := by
  induction c using Cursor.pieces.induct with
  | case1 c walked =>
    have ended : c.position = c.stop := by simpa [isDone] using walked
    rw [pieces, dif_pos walked, ended, Nat.sub_self]
    rfl
  | case2 c walking ih =>
    have before := position_lt_next (Bool.eq_false_iff.mpr walking)
    have within : c.next.position ≤ c.stop := c.next.position_le
    rw [pieces, dif_neg walking, List.flatMap_cons, ih]
    -- The next piece starts where this one ends.
    have joint : c.next.position = c.position + (c.next.position - c.position) := by omega
    have total : c.stop - c.position =
        c.next.position - c.position + (c.stop - c.next.position) := by omega
    rw [total, ← List.range'_append_1, ← joint]
    rfl

theorem pieces_pos (c : Cursor) : ∀ piece ∈ c.pieces, 0 < piece.2 := by
  induction c using Cursor.pieces.induct with
  | case1 c walked =>
    rw [pieces, dif_pos walked]
    exact fun _ member => absurd member List.not_mem_nil
  | case2 c walking ih =>
    rw [pieces, dif_neg walking]
    intro piece member
    rcases List.mem_cons.mp member with rfl | later
    · exact Nat.sub_pos_of_lt (position_lt_next (Bool.eq_false_iff.mpr walking))
    · exact ih piece later

end Cursor

/-- The pieces of an element list its bins once and in order. -/
theorem pieces_tile (bins interval : Nat) :
    ((pieces bins interval).flatMap fun piece => List.range' piece.1 piece.2) = List.range bins := by
  rw [List.range_eq_range']
  exact (Cursor.start bins interval).pieces_tile

theorem pieces_pos (bins interval : Nat) : ∀ piece ∈ pieces bins interval, 0 < piece.2 :=
  (Cursor.start bins interval).pieces_pos

namespace Compiler

variable {α : Type}

/-- The groups list the pieces once and in order, behind those of the group being filled. -/
theorem groups_flatten (capacity : Nat) (rest taken : List (Piece α)) (used : Nat) :
    (groups capacity rest taken used).flatten = taken.reverse ++ rest := by
  induction rest generalizing taken used with
  | nil =>
    cases taken with
    | nil => rfl
    | cons p earlier => simp [groups]
  | cons p rest ih =>
    rw [groups]
    split
    · rw [ih, List.reverse_cons, List.append_assoc]
      rfl
    · cases taken with
      | nil => simpa using ih [p] p.size
      | cons q earlier => simp [ih]

theorem groups_ne_nil (capacity : Nat) (rest taken : List (Piece α)) (used : Nat) :
    ∀ group ∈ groups capacity rest taken used, group ≠ [] := by
  induction rest generalizing taken used with
  | nil =>
    cases taken with
    | nil => exact fun _ member => absurd member List.not_mem_nil
    | cons p earlier =>
      intro group member
      rw [List.mem_singleton.mp member]
      simp
  | cons p rest ih =>
    rw [groups]
    split
    · exact ih _ _
    · cases taken with
      | nil => exact ih _ _
      | cons q earlier =>
        intro group member
        rcases List.mem_cons.mp member with rfl | later
        · simp
        · exact ih _ _ group later

theorem groupSize_eq_sum (group : List (Piece α)) : groupSize group = (group.map Piece.size).sum := by
  rw [groupSize, List.sum_eq_foldl, List.foldl_map]

theorem groupSize_pos {group : List (Piece α)} (nonempty : ∀ p ∈ group, 0 < p.size)
    (filled : group ≠ []) : 0 < groupSize group := by
  obtain ⟨p, rest, rfl⟩ := List.exists_cons_of_ne_nil filled
  rw [groupSize_eq_sum, List.map_cons, List.sum_cons]
  exact Nat.add_pos_left (nonempty p List.mem_cons_self) _

end Compiler

end PulseBench
