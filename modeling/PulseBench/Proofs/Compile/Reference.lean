import PulseBench.Proofs.Compile.Pieces
import PulseBench.Proofs.Outcome
import PulseBench.Proofs.Roster
import PulseBench.Pulser.Memory

/-!
# Samples one by one

The reference for compiling: every bin of a program has an element, the span of
that element and a time, and these alone decide the samples of the bin. There
are no pieces and no chunks here. `Compiler.referenceBins` lists the bins of
played elements, and `Compiler.waveformOf` is the waveform of a list of bins.

Results:
1. `Compiler.pieces_bins`: the pieces list the bins of the reference, for every
   size of a chunk.
2. `Compiler.chunkOf_eq_ok`: a chunk whose bins all have samples holds these.
3. `Compiler.evaluates_of_chunkOf`: otherwise there is no chunk.
-/

namespace PulseBench

variable {α : Type}

/-- The voltage of a shape over time. -/
def Shape.voltage (s : Shape α) [Scalar α] (functions : Registry α (ShapeRule α))
    (span : Span α) : Except (Failure α) (α → α) := do
  let m ← functions.find s.kind
  let params ← m.schema.resolve s.params
  m.rule params span

theorem Shape.voltages_eq [Scalar α] (s : Shape α) (functions : Registry α (ShapeRule α))
    (span : Span α) (times : List α) :
    s.voltages functions span times =
      (do let voltage ← s.voltage functions span; return times.map voltage) := by
  unfold voltages voltage
  cases functions.find s.kind with
  | error e => rfl
  | ok m =>
    cases resolved : m.schema.resolve s.params with
    | error e => simp [bind, Except.bind, resolved]
    | ok params => simp [bind, Except.bind, resolved]

/-- One bin of a program. -/
structure Bin (α : Type) where
  element : Element α
  span : Span α
  time : α

/-- The bins of a piece. -/
def Piece.bins [Scalar α] (rate : α) (p : Piece α) : List (Bin α) :=
  (List.range' p.first p.size).map fun i =>
    ⟨p.element, p.span, Scalar.ofNat (p.origin + i) / rate⟩

theorem Piece.length_bins [Scalar α] (rate : α) (p : Piece α) :
    (p.bins rate).length = p.size := by
  rw [Piece.bins, List.length_map, List.length_range']

namespace Compiler

/-! ## The bins of a program -/

section Bins

variable [Scalar α]

/-- A played element of `n` bins in one piece, `first` bins being played before it. -/
def wholePiece (c : Compiler α) (rotating : Bool) (offset : Nat) (p : Played α)
    (n first : Nat) : Piece α :=
  let origin := if rotating then offset + first else 0
  ⟨p.element, origin,
    ⟨Scalar.ofNat origin / c.settings.rate, Scalar.ofNat (n - 1) / c.settings.rate⟩, 0, n⟩

/-- The played elements, each in one piece. -/
def wholePieces (c : Compiler α) (rotating : Bool) (offset : Nat) (played : List (Played α))
    (bins : List Nat) : List (Piece α) :=
  ((played.zip bins).zip (firstBins 0 bins)).map fun ((p, n), first) =>
    c.wholePiece rotating offset p n first

/-- All bins of a program in order. -/
def referenceBins (c : Compiler α) (rotating : Bool) (offset : Nat) (played : List (Played α))
    (bins : List Nat) : List (Bin α) :=
  (c.wholePieces rotating offset played bins).flatMap (Piece.bins c.settings.rate)

/-- Cutting the elements does not change the bins. -/
theorem pieces_bins (c : Compiler α) (rotating : Bool) (offset : Nat)
    (played : List (Played α)) (bins : List Nat) :
    (c.pieces rotating offset played bins).flatMap (Piece.bins c.settings.rate) =
      c.referenceBins rotating offset played bins := by
  unfold pieces referenceBins wholePieces
  rw [List.flatMap_assoc, List.flatMap_map]
  refine List.flatMap_congr fun ⟨⟨p, n⟩, first⟩ _ => ?_
  rw [List.flatMap_map]
  unfold Piece.bins wholePiece
  rw [← List.range_eq_range', ← pieces_tile n c.chunk, List.map_flatMap]

theorem pieces_size_pos (c : Compiler α) (rotating : Bool) (offset : Nat)
    (played : List (Played α)) (bins : List Nat) :
    ∀ p ∈ c.pieces rotating offset played bins, 0 < p.size := by
  intro p member
  obtain ⟨⟨⟨q, n⟩, first⟩, -, cut⟩ := List.mem_flatMap.mp member
  obtain ⟨⟨start, size⟩, listed, rfl⟩ := List.mem_map.mp cut
  exact pieces_pos n c.chunk _ listed

/-- The bins of a group of pieces. -/
def groupBins (c : Compiler α) (group : List (Piece α)) : List (Bin α) :=
  group.flatMap (Piece.bins c.settings.rate)

theorem length_groupBins (c : Compiler α) (group : List (Piece α)) :
    (c.groupBins group).length = groupSize group := by
  rw [groupBins, List.length_flatMap, groupSize_eq_sum]
  congr 1
  exact List.map_congr_left fun p _ => p.length_bins _

end Bins

/-! ## The samples of a bin -/

variable [Analytic α]

/-- The sample of a bin on an analog channel. -/
def analogAt (c : Compiler α) (channel : String) (b : Bin α) : Except (Failure α) α := do
  let shape ← (b.element.shapes.get? channel).elim (.error (.program (.noShape channel))) .ok
  let amplitude := (c.settings.amplitudes.get? channel).getD 1.0
  let voltage ← shape.voltage c.functions b.span
  normalise shape channel amplitude (voltage b.time)

/-- What a sample is made of. -/
theorem analogAt_eq_ok {c : Compiler α} {channel : String} {b : Bin α} {value : α}
    (h : c.analogAt channel b = .ok value) :
    ∃ shape voltage, b.element.shapes.get? channel = some shape ∧
      shape.voltage c.functions b.span = .ok voltage ∧
      value = Analytic.narrow
        (voltage b.time / (c.settings.amplitudes.get? channel).getD 1.0) := by
  obtain ⟨shape, shaped, evaluated⟩ := bind_eq_ok.mp h
  obtain ⟨voltage, rule, level⟩ := bind_eq_ok.mp evaluated
  refine ⟨shape, voltage, ?_, rule, ?_⟩
  · cases listed : b.element.shapes.get? channel with
    | none => rw [listed] at shaped; cases shaped
    | some own => rw [listed] at shaped; cases shaped; rfl
  · simp only [normalise] at level
    split at level
    · cases level
    · cases level
      rfl

/-- All bins have a sample on every analog channel. -/
def Evaluates (c : Compiler α) (analog : NameSet) (bins : List (Bin α)) : Prop :=
  ∀ b ∈ bins, ∀ channel ∈ analog.names, ∃ value, c.analogAt channel b = .ok value

/-- The samples of bins on an analog channel. -/
def analogOf (c : Compiler α) (channel : String) (bins : List (Bin α)) : List α :=
  bins.filterMap fun b => (c.analogAt channel b).toOption

omit [Analytic α] in
/-- The samples of bins on a digital channel. -/
def digitalOf (channel : String) (bins : List (Bin α)) : List Bool :=
  bins.map fun b => b.element.isHigh channel

theorem analogOf_append (c : Compiler α) (channel : String) (xs ys : List (Bin α)) :
    c.analogOf channel (xs ++ ys) = c.analogOf channel xs ++ c.analogOf channel ys :=
  List.filterMap_append

theorem Evaluates.append_iff {c : Compiler α} {analog : NameSet} {xs ys : List (Bin α)} :
    c.Evaluates analog (xs ++ ys) ↔ c.Evaluates analog xs ∧ c.Evaluates analog ys := by
  simp only [Evaluates, List.mem_append, or_imp, forall_and]

/-- A bin that has a sample adds one. -/
theorem Evaluates.length_analogOf {c : Compiler α} {analog : NameSet} {bins : List (Bin α)}
    (h : c.Evaluates analog bins) {channel : String} (member : channel ∈ analog.names) :
    (c.analogOf channel bins).length = bins.length := by
  induction bins with
  | nil => rfl
  | cons b rest ih =>
    obtain ⟨value, found⟩ := h b List.mem_cons_self channel member
    have others := ih fun d inRest => h d (List.mem_cons_of_mem _ inRest)
    rw [analogOf, List.filterMap_cons, found]
    exact congrArg (· + 1) others

/-- The sample of a bin stands where the bin does. -/
theorem Evaluates.analogOf_getElem? {c : Compiler α} {analog : NameSet} {bins : List (Bin α)}
    (h : c.Evaluates analog bins) {channel : String} (member : channel ∈ analog.names) {j : Nat}
    {b : Bin α} (listed : bins[j]? = some b) :
    ∃ value, c.analogAt channel b = .ok value ∧ (c.analogOf channel bins)[j]? = some value := by
  induction bins generalizing j with
  | nil => cases listed
  | cons first rest ih =>
    obtain ⟨value, found⟩ := h first List.mem_cons_self channel member
    rw [analogOf, List.filterMap_cons, found]
    cases j with
    | zero =>
      cases listed
      exact ⟨value, found, rfl⟩
    | succ j => exact ih (fun d inRest => h d (List.mem_cons_of_mem _ inRest)) listed

/-! ## Chunks -/

omit [Analytic α] in
theorem times_eq [Scalar α] (c : Compiler α) (p : Piece α) :
    c.times p = (p.bins c.settings.rate).map Bin.time := by
  rw [Compiler.times, Piece.bins, List.range'_eq_map_range, List.map_map, List.map_map]
  rfl

/-- With a shape and its voltage at hand, only the level of the voltage is left to check. -/
theorem analogAt_eq (c : Compiler α) {channel : String} {b : Bin α} {shape : Shape α}
    {voltage : α → α} (shaped : b.element.shapes.get? channel = some shape)
    (rule : shape.voltage c.functions b.span = .ok voltage) :
    c.analogAt channel b =
      normalise shape channel ((c.settings.amplitudes.get? channel).getD 1.0)
        (voltage b.time) := by
  rw [analogAt, shaped]
  change (shape.voltage c.functions b.span >>= _) = _
  rw [rule]
  rfl

/-- A piece is evaluated bin by bin: the shape is the same for all of them. -/
theorem analogSamples_eq (c : Compiler α) {p : Piece α} (nonempty : 0 < p.size)
    (channel : String) :
    c.analogSamples p channel = (p.bins c.settings.rate).mapM (c.analogAt channel) := by
  have same : ∀ b ∈ p.bins c.settings.rate, b.element = p.element ∧ b.span = p.span := by
    intro b member
    obtain ⟨i, -, rfl⟩ := List.mem_map.mp member
    exact ⟨rfl, rfl⟩
  have filled : p.bins c.settings.rate ≠ [] := by
    rw [← List.length_pos_iff, p.length_bins]
    exact nonempty
  unfold analogSamples
  rw [times_eq]
  generalize p.bins c.settings.rate = bins at same filled
  -- The first bin meets a missing shape or an unusable one, if there is any.
  obtain ⟨b, rest, rfl⟩ := List.exists_cons_of_ne_nil filled
  obtain ⟨sameElement, sameSpan⟩ := same b List.mem_cons_self
  cases shaped : p.element.shapes.get? channel with
  | none =>
    rw [List.mapM_cons, analogAt, sameElement, shaped]
    rfl
  | some shape =>
    simp only [Option.elim, Shape.voltages_eq]
    cases rule : shape.voltage c.functions p.span with
    | error e =>
      rw [List.mapM_cons, analogAt, sameElement, shaped, sameSpan]
      simp only [Option.elim, ok_bind, error_bind, rule]
    | ok voltage =>
      simp only [ok_bind, rule]
      show (((b :: rest).map Bin.time).map voltage).mapM (normalise shape channel
        ((c.settings.amplitudes.get? channel).getD 1.0)) = _
      rw [List.mapM_map, List.mapM_map]
      refine mapM_congr fun d member => ?_
      obtain ⟨ownElement, ownSpan⟩ := same d member
      exact (c.analogAt_eq (by rw [ownElement, shaped]) (by rw [ownSpan, rule])).symm

/-- The samples of a piece, if all its bins have some. -/
theorem analogPart_eq_ok {c : Compiler α} {analog : NameSet} {p : Piece α}
    (nonempty : 0 < p.size) (evaluates : c.Evaluates analog (p.bins c.settings.rate)) :
    c.analogPart analog p = .ok (analog.names.map fun channel =>
      (channel, c.analogOf channel (p.bins c.settings.rate))) := by
  refine mapM_of_forall_eq fun channel member => ?_
  rw [analogSamples_eq c nonempty, mapM_of_forall_ok fun b inPiece =>
    evaluates b inPiece channel member]
  rfl

theorem evaluates_of_analogPart {c : Compiler α} {analog : NameSet} {p : Piece α}
    (nonempty : 0 < p.size) {part : List (String × List α)}
    (h : c.analogPart analog p = .ok part) :
    c.Evaluates analog (p.bins c.settings.rate) := by
  intro b inPiece channel member
  obtain ⟨entry, found⟩ := forall_ok_of_mapM h channel member
  obtain ⟨values, sampled, -⟩ := bind_eq_ok.mp found
  rw [analogSamples_eq c nonempty] at sampled
  exact forall_ok_of_mapM sampled b inPiece

/-- The samples of a list of bins. -/
def waveformOf (c : Compiler α) (a : Analysis α) (bins : List (Bin α)) (complete : Bool) :
    Waveform α where
  analog := Roster.tabulate a.analog fun channel => c.analogOf channel bins
  digital := Roster.tabulate a.digital fun channel => digitalOf channel bins
  total := a.samples
  complete := complete

/-- The chunk of a group, `written` samples being written before it. -/
def chunkFor (c : Compiler α) (a : Analysis α) (written : Nat) (group : List (Piece α)) :
    Chunk α where
  analog := Roster.tabulate a.analog fun channel => c.analogOf channel (c.groupBins group)
  digital := Roster.tabulate a.digital fun channel => digitalOf channel (c.groupBins group)
  isFirst := written == 0
  isLast := written + groupSize group == a.samples
  total := a.samples

/-- A group whose bins all have samples makes its chunk. -/
theorem chunkOf_eq_ok {c : Compiler α} {a : Analysis α} {group : List (Piece α)}
    (nonempty : ∀ p ∈ group, 0 < p.size) (evaluates : c.Evaluates a.analog (c.groupBins group))
    (written : Nat) :
    c.chunkOf a written group = .ok (c.chunkFor a written group) := by
  have parts : group.mapM (c.analogPart a.analog) = .ok (group.map fun p =>
      a.analog.names.map fun channel =>
        (channel, c.analogOf channel (p.bins c.settings.rate))) := by
    refine mapM_of_forall_eq fun p member => analogPart_eq_ok (nonempty p member) ?_
    exact fun b inPiece => evaluates b (List.mem_flatMap.mpr ⟨p, member, inPiece⟩)
  unfold chunkOf
  rw [parts]
  simp only [bind, Except.bind, pure, Except.pure, Roster.ofList_map_names, List.flatMap_map]
  have analog : (Roster.tabulate a.analog fun channel => group.flatMap fun p =>
      ((a.analog.names.map fun channel =>
        (channel, c.analogOf channel (p.bins c.settings.rate))).lookup channel).getD []) =
      Roster.tabulate a.analog fun channel => c.analogOf channel (c.groupBins group) := by
    refine Roster.tabulate_congr fun channel member => ?_
    rw [groupBins, analogOf, List.filterMap_flatMap]
    refine List.flatMap_congr fun p _ => ?_
    have entry := Roster.get?_tabulate_of_mem
      (fun channel => c.analogOf channel (p.bins c.settings.rate)) member
    exact congrArg (·.getD []) entry
  have digital : (Roster.tabulate a.digital fun channel =>
      group.flatMap (digitalSamples · channel)) =
      Roster.tabulate a.digital fun channel => digitalOf channel (c.groupBins group) := by
    refine Roster.tabulate_congr fun channel _ => ?_
    rw [groupBins, digitalOf, List.map_flatMap]
    refine List.flatMap_congr fun p _ => ?_
    rw [digitalSamples, Piece.bins, List.map_map]
    refine (List.eq_replicate_iff.mpr ⟨?_, fun level member => ?_⟩).symm
    · rw [List.length_map, List.length_range']
    · obtain ⟨i, -, same⟩ := List.mem_map.mp member
      exact same.symm
  rw [analog, digital]
  rfl

/-- There is no chunk of a group with a bin that has no sample. -/
theorem evaluates_of_chunkOf {c : Compiler α} {a : Analysis α} {group : List (Piece α)}
    (nonempty : ∀ p ∈ group, 0 < p.size) {written : Nat} {chunk : Chunk α}
    (h : c.chunkOf a written group = .ok chunk) : c.Evaluates a.analog (c.groupBins group) := by
  obtain ⟨parts, evaluated, -⟩ := bind_eq_ok.mp h
  intro b inGroup
  obtain ⟨p, member, inPiece⟩ := List.mem_flatMap.mp inGroup
  obtain ⟨part, found⟩ := forall_ok_of_mapM evaluated p member
  exact evaluates_of_analogPart (nonempty p member) found b inPiece

end Compiler

end PulseBench
