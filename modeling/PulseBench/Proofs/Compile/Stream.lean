import Mathlib.Algebra.Order.Floor.Div
import PulseBench.Proofs.Compile.Refinement
import PulseBench.Proofs.Pulser.Watched

/-!
# The stream of chunks

A device is sent a waveform in chunks, and relies on what every chunk says of
itself: whether it is the first or the last one, and how many samples the whole
waveform has. Pieces of several elements share a chunk, so neither is to be seen
from the element at hand. What carries it are the bins before a chunk: the first
chunk has none before it, and only the last one reaches the total, since no chunk
is empty.

Results:
1. `Cursor.pieces_getElem?`, `Cursor.isDone_iterate_iff`, `Cursor.length_pieces`: the walk over
   one element, step by step.
2. `groups_size_le`: no chunk is larger than allowed.
3. `writeGroup_sent`, `writeGroups_watched`: what a device is sent.
4. `stream_first_iff`, `stream_last_iff`: where the first and the last chunk stand.
5. `chunks_obey_protocol`: the whole stream, on any device.
-/

namespace PulseBench

/-! ## 1. The walk over an element -/

namespace Cursor

variable (c : Cursor)

theorem next_of_isDone {c : Cursor} (walked : c.isDone = true) : c.next = c := by
  obtain ⟨position, stop, interval, _, _⟩ := c
  have ended : position = stop := by simpa [isDone] using walked
  simp [next, ended]

/-- Behind `k` steps the cursor has gone `k` intervals, but never beyond its end. -/
theorem position_iterate (k : Nat) :
    (next^[k] c).position = min (c.position + k * c.interval) c.stop := by
  induction k generalizing c with
  | zero =>
    have le := c.position_le
    simp only [Function.iterate_zero, id_eq]
    omega
  | succ k ih =>
    rw [Function.iterate_succ_apply, ih, Nat.succ_mul]
    change min (min (c.position + c.interval) c.stop + k * c.interval) c.stop = _
    omega

theorem stop_iterate (k : Nat) : (next^[k] c).stop = c.stop := by
  induction k generalizing c with
  | zero => rfl
  | succ k ih => exact ih c.next

/-- Piece `k` reaches from the cursor behind `k` steps to the one behind one step more. -/
theorem pieces_getElem? (k : Nat) :
    c.pieces[k]? = if (next^[k] c).isDone = true then none
      else some ((next^[k] c).position, (next^[k + 1] c).position - (next^[k] c).position) := by
  induction k generalizing c with
  | zero =>
    rw [pieces]
    by_cases walked : c.isDone = true
    · simp [walked]
    · simp [walked]
  | succ k ih =>
    by_cases walked : c.isDone = true
    · rw [pieces, dif_pos walked, Function.iterate_fixed (next_of_isDone walked), if_pos walked]
      rfl
    · rw [pieces, dif_neg walked, List.getElem?_cons_succ, ih]
      rfl

/-- The walk is over behind its last piece, and not before. -/
theorem isDone_iterate_iff (k : Nat) : (next^[k] c).isDone = true ↔ c.pieces.length ≤ k := by
  rw [← List.getElem?_eq_none_iff, pieces_getElem?]
  split <;> simp_all

/-- There are as many pieces as intervals, the last one possibly begun only. -/
theorem length_pieces : c.pieces.length = (c.stop - c.position) ⌈/⌉ c.interval := by
  refine eq_of_forall_ge_iff fun k => ?_
  rw [← isDone_iterate_iff, isDone, beq_iff_eq, position_iterate, stop_iterate,
    ceilDiv_le_iff_le_mul c.interval_pos, Nat.mul_comm]
  omega

theorem pieces_size_le : ∀ piece ∈ c.pieces, piece.2 ≤ c.interval := by
  intro piece member
  obtain ⟨k, listed⟩ := List.mem_iff_getElem?.mp member
  rw [pieces_getElem?] at listed
  split at listed
  · cases listed
  · cases listed
    rw [position_iterate, position_iterate, Nat.succ_mul]
    omega

end Cursor

namespace Compiler

variable {α : Type}

/-! ## 2. Chunks of bounded size -/

/-- If the group being filled fits and every piece alone does, then so does every group. -/
theorem groups_size_le {capacity : Nat} {rest taken : List (Piece α)} {used : Nat}
    (small : ∀ p ∈ rest, p.size ≤ capacity) (counted : used = groupSize taken.reverse)
    (fits : used ≤ capacity) : ∀ group ∈ groups capacity rest taken used,
      groupSize group ≤ capacity := by
  induction rest generalizing taken used with
  | nil =>
    intro group member
    rw [groups] at member
    split at member
    · cases member
    · rw [List.mem_singleton.mp member, ← counted]
      exact fits
  | cons p rest ih =>
    have others : ∀ q ∈ rest, q.size ≤ capacity := fun q member =>
      small q (List.mem_cons_of_mem _ member)
    have single : p.size = groupSize [p].reverse := (Nat.zero_add _).symm
    have alone := ih others single (small p List.mem_cons_self)
    rw [groups]
    split
    · rename_i joins
      refine ih others ?_ joins
      rw [counted, groupSize_eq_sum, groupSize_eq_sum, List.reverse_cons, List.map_append,
        List.sum_append]
      simp
    · split
      · exact alone
      · intro group member
        rcases List.mem_cons.mp member with rfl | later
        · rw [← counted]
          exact fits
        · exact alone group later

theorem chunks_size_le [Analytic α] (c : Compiler α) (e : Ensemble α) (offset : Nat)
    (a : Analysis α) (played : List (Played α)) :
    ∀ group ∈ c.chunks e offset a played, groupSize group ≤ max c.chunk 1 := by
  refine groups_size_le (fun p member => ?_) rfl (Nat.zero_le _)
  obtain ⟨⟨⟨q, n⟩, first⟩, -, cut⟩ := List.mem_flatMap.mp member
  obtain ⟨⟨start, size⟩, listed, rfl⟩ := List.mem_map.mp cut
  exact (Cursor.start n c.chunk).pieces_size_le _ listed

/-! ## 3. What a device is sent -/

section Sent

variable [Analytic α] (c : Compiler α) (a : Analysis α) (name : String)

/-- What is sent for groups of pieces, `written` samples being written before them. -/
def stream : Nat → List (List (Piece α)) → List (Write α)
  | _, [] => []
  | written, group :: rest =>
      ⟨name, c.chunkFor a written group, some (groupSize group)⟩ ::
        stream (written + groupSize group) rest

theorem length_stream (written : Nat) (groups : List (List (Piece α))) :
    (c.stream a name written groups).length = groups.length := by
  induction groups generalizing written with
  | nil => rfl
  | cons group rest ih => rw [stream, List.length_cons, ih, List.length_cons]

/-- A chunk goes by the samples before it. -/
theorem stream_getElem? (written : Nat) (groups : List (List (Piece α))) (i : Nat) :
    (c.stream a name written groups)[i]? = groups[i]?.map fun group =>
      ⟨name, c.chunkFor a (written + ((groups.take i).map groupSize).sum) group,
        some (groupSize group)⟩ := by
  induction groups generalizing written i with
  | nil => rfl
  | cons group rest ih =>
    cases i with
    | zero => rfl
    | succ i =>
      rw [stream, List.getElem?_cons_succ, ih, List.getElem?_cons_succ, List.take_succ_cons,
        List.map_cons, List.sum_cons, Nat.add_assoc]

theorem samples_stream (written : Nat) (groups : List (List (Piece α))) :
    (c.stream a name written groups).map Write.samples = groups.map groupSize := by
  induction groups generalizing written with
  | nil => rfl
  | cons group rest ih => rw [stream, List.map_cons, ih, List.map_cons, Write.samples, Option.getD]

variable {c a name}

/-- All channels of a chunk are as long as its bins. -/
theorem chunkFor_lengths {group : List (Piece α)}
    (evaluates : c.Evaluates a.analog (c.groupBins group)) (written : Nat) :
    (∀ samples ∈ (c.chunkFor a written group).analog.values,
      samples.length = groupSize group) ∧
    ∀ samples ∈ (c.chunkFor a written group).digital.values,
      samples.length = groupSize group := by
  rw [chunkFor, Roster.values_tabulate, Roster.values_tabulate]
  constructor <;> intro samples member <;> obtain ⟨channel, inUse, rfl⟩ := List.mem_map.mp member
  · exact (evaluates.length_analogOf inUse).trans (c.length_groupBins group)
  · rw [digitalOf, List.length_map]
    exact c.length_groupBins group

variable {δ : Type} [Pulser α δ]

/-- A group that is written was sent as the samples of its bins. -/
theorem writeGroup_sent {group : List (Piece α)} (nonempty : ∀ p ∈ group, 0 < p.size)
    {written n : Nat} {d d' : δ} (done : c.writeGroup name a written group d = .ok n d') :
    n = groupSize group ∧ c.Evaluates a.analog (c.groupBins group) ∧
      Pulser.writeWaveform name (c.chunkFor a written group) d = .ok (groupSize group) d' := by
  obtain ⟨rfl, chunk, made, wrote⟩ := writeGroup_eq_ok done
  have evaluates := evaluates_of_chunkOf nonempty made
  rw [chunkOf_eq_ok nonempty evaluates] at made
  cases made
  exact ⟨rfl, evaluates, wrote⟩

/-- All groups that are written are listed in order, and they make up the samples. -/
theorem writeGroups_watched {groups : List (List (Piece α))}
    (nonempty : ∀ group ∈ groups, ∀ p ∈ group, 0 < p.size) {written : Nat}
    {w w' : WatchedPulser α δ} (done : c.writeGroups name a written groups w = .ok ⟨⟩ w') :
    c.Evaluates a.analog (groups.flatMap c.groupBins) ∧
      written + (groups.map groupSize).sum = a.samples ∧
      w'.writes = w.writes ++ c.stream a name written groups := by
  induction groups generalizing written w with
  | nil =>
    have checked := orDiscard_eq_ok.mp done
    by_cases wrong : written ≠ a.samples
    · rw [if_pos wrong] at checked
      cases checked
    · rw [if_neg wrong] at checked
      cases checked
      exact ⟨fun _ member => absurd member List.not_mem_nil, not_ne_iff.mp wrong,
        (List.append_nil _).symm⟩
  | cons group rest ih =>
    obtain ⟨n, between, wrote, later⟩ := Action.bind_ok_iff.mp done
    obtain ⟨rfl, evaluates, sent⟩ :=
      writeGroup_sent (nonempty group List.mem_cons_self) (orDiscard_eq_ok.mp wrote)
    obtain ⟨others, total, listed⟩ := ih (fun other member =>
      nonempty other (List.mem_cons_of_mem _ member)) later
    refine ⟨?_, ?_, ?_⟩
    · rw [List.flatMap_cons, Evaluates.append_iff]
      exact ⟨evaluates, others⟩
    · rw [List.map_cons, List.sum_cons, ← Nat.add_assoc]
      exact total
    · rw [listed, WatchedPulser.writeWaveform_ok sent, stream, List.append_assoc]
      rfl

end Sent

/-! ## 4. The first and the last chunk -/

section Marks

variable {sizes : List Nat} (positive : ∀ n ∈ sizes, 0 < n)
include positive

theorem sum_eq_zero_iff_nil : sizes.sum = 0 ↔ sizes = [] := by
  cases sizes with
  | nil => exact iff_of_true rfl rfl
  | cons n rest =>
    have first := positive n List.mem_cons_self
    rw [List.sum_cons]
    exact iff_of_false (by omega) (List.cons_ne_nil n rest)

/-- Only before the first of some positive numbers there is nothing. -/
theorem sum_take_eq_zero_iff {i : Nat} (inside : i < sizes.length) :
    (sizes.take i).sum = 0 ↔ i = 0 := by
  rw [sum_eq_zero_iff_nil fun n member => positive n (List.mem_of_mem_take member),
    List.take_eq_nil_iff, or_iff_left (List.ne_nil_of_length_pos (Nat.zero_lt_of_lt inside))]

/-- Only the last of them reaches their sum. -/
theorem sum_take_eq_sum_iff {i : Nat} (inside : i < sizes.length) :
    (sizes.take i).sum + sizes[i] = sizes.sum ↔ i + 1 = sizes.length := by
  have split := List.sum_take_add_sum_drop sizes (i + 1)
  have behind : (sizes.drop (i + 1)).sum = 0 ↔ sizes.drop (i + 1) = [] :=
    sum_eq_zero_iff_nil fun n member => positive n (List.mem_of_mem_drop member)
  rw [List.drop_eq_nil_iff] at behind
  rw [List.sum_take_succ _ _ inside] at split
  omega

end Marks

theorem groupSizes_pos {groups : List (List (Piece α))}
    (nonempty : ∀ group ∈ groups, ∀ p ∈ group, 0 < p.size)
    (filled : ∀ group ∈ groups, group ≠ []) : ∀ n ∈ groups.map groupSize, 0 < n := by
  intro n member
  obtain ⟨group, listed, rfl⟩ := List.mem_map.mp member
  exact groupSize_pos (nonempty group listed) (filled group listed)

section Stream

variable [Analytic α] {c : Compiler α} {a : Analysis α} {name : String}
  {groups : List (List (Piece α))} (nonempty : ∀ group ∈ groups, ∀ p ∈ group, 0 < p.size)
  (filled : ∀ group ∈ groups, group ≠ []) {i : Nat} {write : Write α}
  (sent : (c.stream a name 0 groups)[i]? = some write)
include nonempty filled sent

theorem stream_first_iff : write.chunk.isFirst = true ↔ i = 0 := by
  obtain ⟨group, listed, rfl⟩ := Option.map_eq_some_iff.mp ((stream_getElem? ..).symm.trans sent)
  have inside : i < (groups.map groupSize).length := by
    rw [List.length_map]
    exact (List.getElem?_eq_some_iff.mp listed).1
  change (0 + ((groups.take i).map groupSize).sum == 0) = true ↔ i = 0
  rw [beq_iff_eq, Nat.zero_add, List.map_take,
    sum_take_eq_zero_iff (groupSizes_pos nonempty filled) inside]

theorem stream_last_iff (total : (groups.map groupSize).sum = a.samples) :
    write.chunk.isLast = true ↔ i + 1 = groups.length := by
  obtain ⟨group, listed, rfl⟩ := Option.map_eq_some_iff.mp ((stream_getElem? ..).symm.trans sent)
  obtain ⟨inside, own⟩ := List.getElem?_eq_some_iff.mp listed
  have reached := sum_take_eq_sum_iff (groupSizes_pos nonempty filled) (i := i)
    (by rw [List.length_map]; exact inside)
  rw [List.getElem_map, own, List.length_map, total, ← List.map_take] at reached
  change (0 + ((groups.take i).map groupSize).sum + groupSize group == a.samples) = true ↔ _
  rw [beq_iff_eq, Nat.zero_add, reached]

end Stream

/-! ## 5. Compiling under watch -/

section Compiling

open WatchedPulser (Passes fresh)

variable {δ : Type} [Pulser α δ]

theorem discard_watched [Scalar α] (name : String) (w : WatchedPulser α δ) :
    ∃ writes, discard name w = ⟨discard name w.inner, writes⟩ := by
  have passes := Passes.deleteWaveform (δ := δ) name
  cases deleted : (Pulser.deleteWaveform name : Action α δ (List String)) w.inner with
  | ok names inner =>
    obtain ⟨writes, watched⟩ := passes.ok w names inner deleted
    exact ⟨writes, by rw [discard, discard, watched, deleted]⟩
  | error f inner =>
    obtain ⟨writes, watched⟩ := passes.error w f inner deleted
    exact ⟨writes, by rw [discard, discard, watched, deleted]⟩

theorem passes_orDiscard [Scalar α] {β : Type} {act : Action α δ β}
    {watched : Action α (WatchedPulser α δ) β} (passes : Passes act watched) (name : String)
    (written : Nat) : Passes (orDiscard name written act) (orDiscard name written watched) where
  ok w b inner done := by
    obtain ⟨writes, ran⟩ := passes.ok w b inner (orDiscard_eq_ok.mp done)
    exact ⟨writes, orDiscard_ok ran written⟩
  error w f inner failed := by
    cases ran : act w.inner with
    | ok b between =>
      rw [orDiscard_ok ran] at failed
      cases failed
    | error f' between =>
      obtain ⟨writes, stopped⟩ := passes.error w f' between ran
      have watchedFailed : orDiscard name written watched w =
          .error f' (if 0 < written then discard name ⟨between, writes⟩ else ⟨between, writes⟩) := by
        rw [orDiscard, stopped]
      rw [orDiscard, ran] at failed
      cases failed
      rw [watchedFailed]
      by_cases begun : 0 < written
      · rw [if_pos begun, if_pos begun]
        obtain ⟨left, discarded⟩ := discard_watched name (⟨between, writes⟩ : WatchedPulser α δ)
        exact ⟨left, by rw [discarded]⟩
      · rw [if_neg begun, if_neg begun]
        exact ⟨writes, rfl⟩

variable [Analytic α] (c : Compiler α)

theorem passes_writeGroup (name : String) (a : Analysis α) (written : Nat)
    (group : List (Piece α)) :
    Passes (c.writeGroup name a written group : Action α δ Nat)
      (c.writeGroup name a written group) := by
  refine (Passes.lift _).bind fun chunk => (Passes.writeWaveform name chunk).bind fun reported => ?_
  by_cases short : reported ≠ groupSize group
  · simp only [if_pos short]
    exact (Passes.throw _).bind fun _ => Passes.pure _
  · simp only [if_neg short]
    exact Passes.pure _

theorem passes_writeGroups (name : String) (a : Analysis α) (written : Nat)
    (groups : List (List (Piece α))) :
    Passes (c.writeGroups name a written groups : Action α δ Unit)
      (c.writeGroups name a written groups) := by
  induction groups generalizing written with
  | nil =>
    refine passes_orDiscard ?_ name written
    by_cases wrong : written ≠ a.samples
    · simp only [if_pos wrong]
      exact Passes.throw _
    · simp only [if_neg wrong]
      exact Passes.pure _
  | cons group rest ih =>
    exact (passes_orDiscard (passes_writeGroup c name a written group) name written).bind
      fun size => ih (written + size)

/-- Watching does not change how an ensemble is compiled. -/
theorem passes_sampleEnsemble (e : Ensemble α) (blocks : Roster (Block α)) (name : String)
    (offset : Nat) :
    Passes (c.sampleEnsemble e blocks name offset : Action α δ (Nat × Record α))
      (c.sampleEnsemble e blocks name offset) := by
  refine (Passes.lift _).bind fun a => (Passes.lift _).bind fun _ => (Passes.lift _).bind
    fun played => ?_
  exact (passes_writeGroups c name a 0 _).bind fun _ => Passes.pure _

end Compiling

/-- Under watch, a compiled ensemble shows as the stream of its chunks. -/
theorem sampleEnsemble_watched {δ : Type} [Analytic α] [Pulser α δ] {c : Compiler α}
    {e : Ensemble α} {blocks : Roster (Block α)} {name : String} {offset behind : Nat}
    {device : δ} {record : Record α} {w : WatchedPulser α δ}
    (done : c.sampleEnsemble e blocks name offset (WatchedPulser.fresh device) =
      .ok (behind, record) w) :
    ∃ a played, record = c.recordOf a name ∧
      c.Evaluates a.analog ((c.chunks e offset a played).flatMap c.groupBins) ∧
      ((c.chunks e offset a played).map groupSize).sum = a.samples ∧
      w.writes = c.stream a name 0 (c.chunks e offset a played) := by
  obtain ⟨a, -, afterAnalysis⟩ := Action.lift_bind_ok_iff.mp done
  obtain ⟨_, -, afterChecks⟩ := Action.lift_bind_ok_iff.mp afterAnalysis
  obtain ⟨played, -, playing⟩ := Action.lift_bind_ok_iff.mp afterChecks
  obtain ⟨_, behindWrites, wrote, finish⟩ := Action.bind_ok_iff.mp playing
  cases finish
  obtain ⟨evaluates, total, listed⟩ :=
    writeGroups_watched (c.chunks_pieces_pos e offset a played) wrote
  rw [Nat.zero_add] at total
  exact ⟨a, played, rfl, evaluates, total, listed⟩

/-- The chunks that a device is sent for a compiled ensemble obey the protocol of a
stream, whatever the device makes of them. Each has at least one sample and no more
than allowed (zero counts as one), on every channel of the ensemble as many as the
device reported; together they have those of the ensemble, which each of them states.
Exactly the first is marked as the first, and exactly the last as the last.

The bins of an element are cut into as many pieces as intervals fit in, the last
one possibly begun only. The pieces list the bins in order, none is empty, and each
starts where the one before it ends; behind the last one the walk is over. -/
theorem chunks_obey_protocol {δ : Type} [Analytic α] [Pulser α δ] (c : Compiler α)
    (e : Ensemble α) (blocks : Roster (Block α)) (name : String) (offset : Nat) (device : δ) :
    (∀ behind record device',
      c.sampleEnsemble e blocks name offset device = .ok (behind, record) device' →
      ∃ writes : List (Write α),
        c.sampleEnsemble e blocks name offset (WatchedPulser.fresh device) =
            .ok (behind, record) ⟨device', writes⟩ ∧
          (writes.map Write.samples).sum = record.samples ∧
          ∀ (i : Nat) (write : Write α), writes[i]? = some write →
            write.name = name ∧ write.reported = some write.samples ∧
            0 < write.samples ∧ write.samples ≤ max c.chunk 1 ∧
            write.chunk.analog.names = record.analog.names ∧
            write.chunk.digital.names = record.digital.names ∧
            (∀ samples ∈ write.chunk.analog.values, samples.length = write.samples) ∧
            (∀ samples ∈ write.chunk.digital.values, samples.length = write.samples) ∧
            write.chunk.total = record.samples ∧
            (write.chunk.isFirst = true ↔ i = 0) ∧
            (write.chunk.isLast = true ↔ i + 1 = writes.length)) ∧
    ∀ bins interval,
      let start := Cursor.start bins interval
      start.pieces.length = bins ⌈/⌉ max interval 1 ∧
      (start.pieces.flatMap fun piece => List.range' piece.1 piece.2) = List.range bins ∧
      (∀ k, (Cursor.next^[k] start).isDone = true ↔ start.pieces.length ≤ k) ∧
      ∀ (k : Nat) (piece : Nat × Nat), start.pieces[k]? = some piece →
        piece.1 = (Cursor.next^[k] start).position ∧
        piece.1 + piece.2 = (Cursor.next^[k + 1] start).position ∧
        0 < piece.2 ∧ piece.2 ≤ max interval 1 := by
  refine ⟨fun behind record device' done => ?_, fun bins interval => ?_⟩
  · obtain ⟨writes, watched⟩ :=
      (passes_sampleEnsemble c e blocks name offset).ok (WatchedPulser.fresh device) _ _ done
    obtain ⟨a, played, rfl, evaluates, total, rfl⟩ := sampleEnsemble_watched watched
    have nonempty := c.chunks_pieces_pos e offset a played
    have filled := c.chunks_ne_nil e offset a played
    refine ⟨_, watched, ?_, fun i write sent => ?_⟩
    · rw [samples_stream]
      exact total
    · have first := stream_first_iff nonempty filled sent
      have last := stream_last_iff nonempty filled sent total
      rw [length_stream]
      obtain ⟨group, listed, rfl⟩ :=
        Option.map_eq_some_iff.mp ((stream_getElem? ..).symm.trans sent)
      have member := List.mem_of_getElem? listed
      have own : c.Evaluates a.analog (c.groupBins group) := fun b inGroup =>
        evaluates b (List.mem_flatMap.mpr ⟨group, member, inGroup⟩)
      obtain ⟨analog, digital⟩ := chunkFor_lengths own _
      exact ⟨rfl, rfl, groupSize_pos (nonempty group member) (filled group member),
        c.chunks_size_le e offset a played group member, Roster.names_tabulate _ _,
        Roster.names_tabulate _ _, analog, digital, rfl, first, last⟩
  · intro start
    refine ⟨start.length_pieces, pieces_tile bins interval, start.isDone_iterate_iff,
      fun k piece listed => ?_⟩
    have member := List.mem_of_getElem? listed
    have filled := start.pieces_pos piece member
    have place := (start.pieces_getElem? k).symm.trans listed
    split at place
    · cases place
    · cases place
      refine ⟨rfl, ?_, filled, start.pieces_size_le _ member⟩
      exact Nat.add_sub_of_le (Nat.le_of_lt (Nat.lt_of_sub_pos filled))

/-- Five samples of two elements, in chunks of at most two. -/
theorem chunks_obey_protocol_steady :
    ∃ record device' writes,
      steadyCompiler.sampleEnsemble steadyEnsemble steadyBlocks "steady" 7
          (MemoryPulser.fresh steadyCompiler.limits) = .ok (12, record) device' ∧
        steadyCompiler.sampleEnsemble steadyEnsemble steadyBlocks "steady" 7
            (WatchedPulser.fresh (MemoryPulser.fresh steadyCompiler.limits)) =
          .ok (12, record) ⟨device', writes⟩ ∧
        (writes.map Write.samples).sum = 5 ∧
        ∀ (i : Nat) (write : Write ℚ), writes[i]? = some write →
          0 < write.samples ∧ write.samples ≤ 2 ∧ write.chunk.total = 5 ∧
            (write.chunk.isFirst = true ↔ i = 0) ∧
            (write.chunk.isLast = true ↔ i + 1 = writes.length) := by
  have ran : (match steadyCompiler.sampleEnsemble steadyEnsemble steadyBlocks "steady" 7
      (MemoryPulser.fresh steadyCompiler.limits) with
    | .ok (behind, record) _ => some (behind, record.samples)
    | .error _ _ => none) = some (12, 5) := by decide +kernel
  cases done : steadyCompiler.sampleEnsemble steadyEnsemble steadyBlocks "steady" 7
      (MemoryPulser.fresh steadyCompiler.limits) with
  | error f device' => rw [done] at ran; cases ran
  | ok result device' =>
    obtain ⟨behind, record⟩ := result
    rw [done] at ran
    simp only [Option.some.injEq, Prod.mk.injEq] at ran
    obtain ⟨rfl, samples⟩ := ran
    obtain ⟨writes, watched, total, each⟩ :=
      (chunks_obey_protocol _ _ _ _ _ _).1 _ _ _ done
    refine ⟨record, device', writes, rfl, watched, total.trans samples, fun i write sent => ?_⟩
    obtain ⟨-, -, filled, bounded, -, -, -, -, all, first, last⟩ := each i write sent
    exact ⟨filled, bounded, all.trans samples, first, last⟩

end Compiler

end PulseBench
