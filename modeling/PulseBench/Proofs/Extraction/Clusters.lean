import Mathlib.Data.List.SplitBy
import PulseBench.Extraction.Threshold
import PulseBench.Proofs.Comparison

/-!
# Pulses and clusters of lit bins

The search for pulses passes a trace once and remembers the last lit bin. What it finds has a
description that no pass is needed for. Lit bins with few dark ones between them belong to one
cluster. A cluster that reaches the high threshold holds one pulse, from the first bin that
reaches it to the last bin of the cluster; another cluster holds none.

Nothing but the order of the numbers matters, and of that only that it is transitive: a bin
that reaches the high threshold is then lit. So doubles are covered, infinite thresholds
included.

Results:
1. `clustering_iff`: the clusters are the only maximal groups of lit bins without wide gaps.
2. `Search.Stands.pass`: what a search knows behind each bin.
3. `pulses_eq`: the search finds the pulses of the clusters.
4. `exactly_hysteresis_pulses`: and these are separated by dark bins.
-/

namespace PulseBench.Threshold

variable {α : Type} [Scalar α]

/-! ## 1. Clusters -/

/-- There is such a bin, and its count reaches the threshold. -/
def reaches (threshold : α) (counts : List Nat) (bin : Nat) : Bool :=
  counts[bin]?.any fun count => decide (threshold ≤ Scalar.ofNat count)

/-- The bins that reach the low threshold, in order. -/
def litBins (low : α) (counts : List Nat) : List Nat :=
  (List.range counts.length).filter (reaches low counts)

/-- At most `gap` bins lie strictly between two bins. -/
def isBridged (gap bin next : Nat) : Bool := decide (next - bin - 1 ≤ gap)

/-- Maximal groups of bins in which no two neighbours have more than `gap` bins between them. -/
def clustersOf (gap : Nat) (bins : List Nat) : List (List Nat) := bins.splitBy (isBridged gap)

/-- The clusters of lit bins of a trace. -/
def clusters (low : α) (gap : Nat) (counts : List Nat) : List (List Nat) :=
  clustersOf gap (litBins low counts)

/-- The pulse of a cluster: from its first high bin to its last bin. -/
def pulseOf (isHigh : Nat → Bool) (cluster : List Nat) : Option Pulse := do
  let first ← cluster.find? isHigh
  let last ← cluster.getLast?
  return ⟨first, last + 1⟩

section Pulses

variable {isHigh : Nat → Bool} {c : List Nat}

theorem pulseOf_eq_some_iff {p : Pulse} :
    pulseOf isHigh c = some p ↔
      ∃ first last, c.find? isHigh = some first ∧ c.getLast? = some last ∧ ⟨first, last + 1⟩ = p := by
  simp only [pulseOf, Option.bind_eq_bind, Option.bind_eq_some_iff, Option.pure_def,
    Option.some.injEq]
  tauto

theorem pulseOf_eq_some {first last : Nat} (begins : c.find? isHigh = some first)
    (ends : c.getLast? = some last) : pulseOf isHigh c = some ⟨first, last + 1⟩ :=
  pulseOf_eq_some_iff.mpr ⟨first, last, begins, ends, rfl⟩

theorem pulseOf_eq_none (dim : c.find? isHigh = none) : pulseOf isHigh c = none := by
  rw [pulseOf, dim]
  rfl

end Pulses

/-- A grouping of bins by gaps: none within a group is too wide, and all between groups are. -/
@[mk_iff]
structure Clustering (gap : Nat) (bins : List Nat) (groups : List (List Nat)) : Prop where
  covers : groups.flatten = bins
  filled : ∀ c ∈ groups, c ≠ []
  near : ∀ c ∈ groups, c.IsChain fun a b => b - a - 1 ≤ gap
  apart : groups.IsChain fun c d => ∀ a ∈ c.getLast?, ∀ b ∈ d.head?, gap < b - a - 1

/-- There is one such grouping. -/
theorem clustersOf_eq_iff {gap : Nat} {bins : List Nat} {groups : List (List Nat)} :
    clustersOf gap bins = groups ↔ Clustering gap bins groups := by
  have joined (c : List Nat) :
      (c.IsChain fun a b => isBridged gap a b) ↔ c.IsChain fun a b => b - a - 1 ≤ gap := by
    simp only [isBridged, decide_eq_true_eq]
  have parted {c d : List Nat} (filled : c ≠ []) (follows : d ≠ []) :
      (∃ hc hd, isBridged gap (c.getLast hc) (d.head hd) = false) ↔
        ∀ a ∈ c.getLast?, ∀ b ∈ d.head?, gap < b - a - 1 := by
    rw [List.getLast?_eq_getLast_of_ne_nil filled, List.head?_eq_some_head follows]
    simp only [isBridged, decide_eq_false_iff_not, not_le, Option.mem_some, forall_eq',
      exists_prop_of_true filled, exists_prop_of_true follows]
  rw [clustersOf, List.splitBy_eq_iff]
  constructor
  · rintro ⟨covers, filled, near, apart⟩
    have nonempty (c : List Nat) (member : c ∈ groups) : c ≠ [] := fun h => filled (h ▸ member)
    refine ⟨covers.symm, nonempty, fun c member => (joined c).mp (near c member), ?_⟩
    exact apart.imp_of_mem_imp fun c d hc hd => (parted (nonempty c hc) (nonempty d hd)).mp
  · rintro ⟨covers, filled, near, apart⟩
    refine ⟨covers.symm, fun h => filled [] h rfl, fun c member => (joined c).mpr (near c member), ?_⟩
    exact apart.imp_of_mem_imp fun c d hc hd => (parted (filled c hc) (filled d hd)).mpr

namespace Clustering

variable {gap n last : Nat} {bins c : List Nat} {groups : List (List Nat)}

theorem concat_iff :
    Clustering gap (bins ++ c) (groups ++ [c]) ↔
      Clustering gap bins groups ∧ c ≠ [] ∧ (c.IsChain fun a b => b - a - 1 ≤ gap) ∧
        ∀ d ∈ groups.getLast?, ∀ a ∈ d.getLast?, ∀ b ∈ c.head?, gap < b - a - 1 := by
  simp only [clustering_iff, List.flatten_append, List.flatten_singleton,
    List.append_cancel_right_eq, List.forall_mem_append, List.forall_mem_singleton,
    List.isChain_append, List.isChain_singleton, List.head?_singleton, Option.mem_some,
    forall_eq', true_and]
  tauto

/-- A bin joins the last group if the gap before it is not too wide. -/
theorem join (clustering : Clustering gap bins (groups ++ [c])) (ends : c.getLast? = some last)
    (near : n - last - 1 ≤ gap) : Clustering gap (bins ++ [n]) (groups ++ [c ++ [n]]) := by
  obtain rfl : groups.flatten ++ c = bins := by
    rw [← clustering.covers, List.flatten_append, List.flatten_singleton]
  obtain ⟨before, filled, chain, apart⟩ := concat_iff.mp clustering
  rw [List.append_assoc, concat_iff, List.head?_append_of_ne_nil c filled]
  refine ⟨before, List.concat_ne_nil n c, ?_, apart⟩
  refine List.isChain_append.mpr ⟨chain, List.isChain_singleton n, ?_⟩
  rintro a isLast b ⟨⟩
  obtain rfl : last = a := Option.some.inj (ends.symm.trans isLast)
  exact near

/-- A bin begins a group of its own if the gap before it is too wide. -/
theorem begin (clustering : Clustering gap bins groups)
    (far : ∀ c ∈ groups.getLast?, ∀ last ∈ c.getLast?, gap < n - last - 1) :
    Clustering gap (bins ++ [n]) (groups ++ [[n]]) := by
  refine concat_iff.mpr ⟨clustering, List.cons_ne_nil n [], List.isChain_singleton n, ?_⟩
  rintro c isLast a ends _ ⟨⟩
  exact far c isLast a ends

end Clustering

/-! ## 2. The search -/

namespace Search

variable {isHigh isLit : Nat → Bool} {gap n : Nat} {bins : List Nat} {groups : List (List Nat)}

/-- What a search has found when it comes to bin `n` and the lit bins before form `groups`. A pulse
goes on as long as bin `n` would still belong to its group; between pulses no such group has one. -/
inductive Stands (isHigh : Nat → Bool) (gap n : Nat) : List (List Nat) → Search → Prop
  | between {groups : List (List Nat)}
      (idle : ∀ c ∈ groups.getLast?,
        c.find? isHigh = none ∨ ∀ last ∈ c.getLast?, gap < n - last - 1) :
      Stands isHigh gap n groups ⟨groups.filterMap (pulseOf isHigh), none⟩
  | inside {groups : List (List Nat)} {c : List Nat} {first last : Nat}
      (begins : c.find? isHigh = some first) (ends : c.getLast? = some last)
      (near : n - last - 1 ≤ gap) :
      Stands isHigh gap n (groups ++ [c])
        ⟨groups.filterMap (pulseOf isHigh), some ⟨first, last⟩⟩

/-- Between pulses, a lit bin becomes the last one of a group that has no high bin before it. -/
theorem exists_group_of_idle (clustering : Clustering gap bins groups)
    (idle : ∀ c ∈ groups.getLast?,
      c.find? isHigh = none ∨ ∀ last ∈ c.getLast?, gap < n - last - 1) :
    ∃ done c, Clustering gap (bins ++ [n]) (done ++ [c]) ∧
      done.filterMap (pulseOf isHigh) = groups.filterMap (pulseOf isHigh) ∧
      c.find? isHigh = [n].find? isHigh ∧ c.getLast? = some n := by
  by_cases far : ∀ c ∈ groups.getLast?, ∀ last ∈ c.getLast?, gap < n - last - 1
  · exact ⟨groups, [n], clustering.begin far, rfl, rfl, rfl⟩
  · push Not at far
    obtain ⟨c, isLast, last, ends, near⟩ := far
    obtain ⟨done, rfl⟩ := List.getLast?_eq_some_iff.mp isLast
    have dim : c.find? isHigh = none := by
      refine (idle c isLast).resolve_right fun far => ?_
      exact absurd (far last ends) (not_lt.mpr near)
    refine ⟨done, c ++ [n], clustering.join ends near, ?_, ?_, List.getLast?_concat⟩
    · rw [List.filterMap_append, List.filterMap_cons_none (pulseOf_eq_none dim), List.filterMap_nil,
        List.append_nil]
    · rw [List.find?_append, dim, Option.none_or]

/-- A dark bin may end a pulse, but belongs to no group. -/
theorem Stands.pass_dark {s : Search} (stands : Stands isHigh gap n groups s) :
    Stands isHigh gap (n + 1) groups (s.pass gap n false false) := by
  cases stands with
  | between idle =>
    refine .between fun c isLast => (idle c isLast).imp_right fun far last ends => ?_
    have := far last ends
    omega
  | @inside done c first last begins ends near =>
    by_cases far : gap < n - last
    · have closed : Search.pass gap ⟨done.filterMap (pulseOf isHigh), some ⟨first, last⟩⟩ n false
          false = ⟨(done ++ [c]).filterMap (pulseOf isHigh), none⟩ := by
        rw [List.filterMap_append, List.filterMap_cons_some (pulseOf_eq_some begins ends)]
        exact if_pos far
      rw [closed]
      refine .between fun d isLast => .inr fun b endsAt => ?_
      obtain rfl : c = d := Option.some.inj (List.getLast?_concat.symm.trans isLast)
      obtain rfl : last = b := Option.some.inj (ends.symm.trans endsAt)
      omega
    · have kept : Search.pass gap ⟨done.filterMap (pulseOf isHigh), some ⟨first, last⟩⟩ n false
          false = ⟨done.filterMap (pulseOf isHigh), some ⟨first, last⟩⟩ := if_neg far
      rw [kept]
      exact .inside begins ends (by omega)

/-- A lit bin continues a pulse; between pulses, it begins one if it is high. -/
theorem Stands.pass_lit {s : Search} (stands : Stands isHigh gap n groups s)
    (clustering : Clustering gap bins groups) :
    ∃ grown, Clustering gap (bins ++ [n]) grown ∧
      Stands isHigh gap (n + 1) grown (s.pass gap n (isHigh n) true) := by
  cases stands with
  | @inside done c first last begins ends near =>
    refine ⟨done ++ [c ++ [n]], clustering.join ends near, ?_⟩
    refine .inside ?_ List.getLast?_concat (by omega)
    rw [List.find?_append, begins, Option.some_or]
  | between idle =>
    obtain ⟨done, c, grown, same, begins, ends⟩ := exists_group_of_idle clustering idle
    refine ⟨done ++ [c], grown, ?_⟩
    cases high : isHigh n with
    | true =>
      rw [List.find?_cons_of_pos high] at begins
      exact same ▸ .inside begins ends (by omega)
    | false =>
      rw [List.find?_cons_of_neg (Bool.eq_false_iff.mp high), List.find?_nil] at begins
      have kept : (done ++ [c]).filterMap (pulseOf isHigh) = groups.filterMap (pulseOf isHigh) := by
        rw [List.filterMap_append, List.filterMap_cons_none (pulseOf_eq_none begins),
          List.filterMap_nil, List.append_nil, same]
      refine kept ▸ .between fun d isLast => .inl ?_
      obtain rfl : c = d := Option.some.inj (List.getLast?_concat.symm.trans isLast)
      exact begins

/-- A step of the search: a bin is passed, and joins the groups if it is lit. -/
theorem Stands.pass {s : Search} (stands : Stands isHigh gap n groups s)
    (clustering : Clustering gap bins groups) (highIsLit : isHigh n = true → isLit n = true) :
    ∃ grown, Clustering gap (bins ++ [n].filter isLit) grown ∧
      Stands isHigh gap (n + 1) grown (s.pass gap n (isHigh n) (isLit n)) := by
  cases lit : isLit n with
  | true =>
    rw [List.filter_cons_of_pos lit, List.filter_nil]
    exact stands.pass_lit clustering
  | false =>
    have dim : isHigh n = false := by
      rw [← Bool.not_eq_true]
      exact fun high => Bool.false_ne_true (lit.symm.trans (highIsLit high))
    rw [List.filter_cons_of_neg (Bool.eq_false_iff.mp lit), List.filter_nil, List.append_nil, dim]
    exact ⟨groups, clustering, stands.pass_dark⟩

/-- The search through the bins before `n`. -/
def upTo (isHigh isLit : Nat → Bool) (gap n : Nat) : Search :=
  (List.range n).foldl (fun s bin => s.pass gap bin (isHigh bin) (isLit bin)) ⟨[], none⟩

/-- A run of the search, bin by bin. -/
theorem stands_upTo (gap : Nat) (highIsLit : ∀ bin, isHigh bin = true → isLit bin = true)
    (n : Nat) :
    ∃ groups, Clustering gap ((List.range n).filter isLit) groups ∧
      Stands isHigh gap n groups (upTo isHigh isLit gap n) := by
  induction n with
  | zero =>
    have empty : Clustering gap [] [] := clustersOf_eq_iff.mp rfl
    exact ⟨[], empty, .between fun c h => by cases h⟩
  | succ n ih =>
    obtain ⟨groups, clustering, stands⟩ := ih
    obtain ⟨grown, clustered, passed⟩ := stands.pass clustering (highIsLit n)
    refine ⟨grown, ?_, ?_⟩
    · rwa [List.range_succ, List.filter_append]
    · rwa [upTo, List.range_succ, List.foldl_append]

/-- At the end of the trace the pulses are those of the groups. -/
theorem Stands.pulses {s : Search} (stands : Stands isHigh gap n groups s) :
    s.pulses = groups.filterMap (pulseOf isHigh) := by
  cases stands with
  | between => exact List.append_nil _
  | inside begins ends =>
    rw [List.filterMap_append, List.filterMap_cons_some (pulseOf_eq_some begins ends)]
    rfl

end Search

/-! ## 3. The pulses of a trace -/

variable {high low : α} {gap : Nat} {counts : List Nat}

/-- The search of a trace passes its bins one by one. -/
theorem pulses_eq_upTo (high low : α) (gap : Nat) (counts : List Nat) :
    pulses high low gap counts =
      (Search.upTo (reaches high counts) (reaches low counts) gap counts.length).pulses := by
  have indices : counts.zipIdx.map Prod.snd = List.range counts.length := by
    rw [List.zipIdx_map_snd, List.range_eq_range']
  rw [pulses, Search.upTo, ← indices, List.foldl_map]
  refine congrArg Search.pulses (List.foldl_ext _ _ _ fun s (count, bin) member => ?_)
  have here : counts[bin]? = some count := List.mem_zipIdx_iff_getElem?.mp member
  simp only [reaches, here, Option.any_some]

theorem reaches_iff {threshold : α} {bin : Nat} :
    reaches threshold counts bin = true ↔
      ∃ count, counts[bin]? = some count ∧ threshold ≤ Scalar.ofNat count := by
  rw [reaches, Option.any_eq_true]
  simp only [decide_eq_true_eq]

theorem reaches_of_reaches [IsTrans α (· ≤ ·)] (ordered : low ≤ high) (bin : Nat)
    (isHigh : reaches high counts bin = true) : reaches low counts bin = true := by
  obtain ⟨count, here, atLeast⟩ := reaches_iff.mp isHigh
  exact reaches_iff.mpr ⟨count, here, IsTrans.trans _ _ _ ordered atLeast⟩

theorem clustering_clusters (low : α) (gap : Nat) (counts : List Nat) :
    Clustering gap (litBins low counts) (clusters low gap counts) :=
  clustersOf_eq_iff.mp rfl

/-- The search finds one pulse in each cluster with a high bin, in order, and nothing else. -/
theorem pulses_eq [IsTrans α (· ≤ ·)] (ordered : low ≤ high) (gap : Nat) (counts : List Nat) :
    pulses high low gap counts =
      (clusters low gap counts).filterMap (pulseOf (reaches high counts)) := by
  have highIsLit (bin : Nat) : reaches high counts bin = true → reaches low counts bin = true :=
    reaches_of_reaches ordered bin
  obtain ⟨groups, clustering, stands⟩ := Search.stands_upTo gap highIsLit counts.length
  rw [pulses_eq_upTo, stands.pulses, clusters, litBins, clustersOf_eq_iff.mpr clustering]

/-- The order of doubles will do, with infinite thresholds as with others. -/
example (high low : Float) (ordered : low ≤ high) (gap : Nat) (counts : List Nat) :
    pulses high low gap counts =
      (clusters low gap counts).filterMap (pulseOf (reaches high counts)) :=
  pulses_eq ordered gap counts

/-! ## 4. Where pulses lie -/

theorem mem_litBins {bin : Nat} : bin ∈ litBins low counts ↔ reaches low counts bin = true := by
  rw [litBins, List.mem_filter, List.mem_range]
  refine and_iff_right_of_imp fun lit => ?_
  obtain ⟨count, here, -⟩ := reaches_iff.mp lit
  exact (List.getElem?_eq_some_iff.mp here).1

theorem lt_length_of_mem_litBins {bin : Nat} (lit : bin ∈ litBins low counts) :
    bin < counts.length :=
  List.mem_range.mp (List.mem_of_mem_filter lit)

theorem pairwise_litBins (low : α) (counts : List Nat) : (litBins low counts).Pairwise (· < ·) :=
  List.pairwise_lt_range.filter _

theorem le_getLast {c : List Nat} {a last : Nat} (sorted : c.Pairwise (· < ·)) (member : a ∈ c)
    (ends : c.getLast? = some last) : a ≤ last := by
  obtain ⟨rest, rfl⟩ := List.getLast?_eq_some_iff.mp ends
  rcases List.mem_append.mp member with before | here
  · exact ((List.pairwise_append.mp sorted).2.2 a before last (List.mem_singleton_self _)).le
  · exact (List.mem_singleton.mp here).le

theorem head_le {c : List Nat} {first b : Nat} (sorted : c.Pairwise (· < ·))
    (begins : c.head? = some first) (member : b ∈ c) : first ≤ b := by
  obtain ⟨rest, rfl⟩ := List.head?_eq_some_iff.mp begins
  rcases List.mem_cons.mp member with rfl | behind
  · exact le_rfl
  · exact ((List.pairwise_cons.mp sorted).1 b behind).le

namespace Clustering

variable {bins : List Nat} {groups : List (List Nat)}

theorem mem_of_mem (clustering : Clustering gap bins groups) {c : List Nat} {bin : Nat}
    (member : c ∈ groups) (inGroup : bin ∈ c) : bin ∈ bins := by
  rw [← clustering.covers]
  exact List.mem_flatten.mpr ⟨c, member, inGroup⟩

theorem pairwise_of_mem (clustering : Clustering gap bins groups) (sorted : bins.Pairwise (· < ·))
    {c : List Nat} (member : c ∈ groups) : c.Pairwise (· < ·) := by
  rw [← clustering.covers, List.pairwise_flatten] at sorted
  exact sorted.1 c member

/-- Groups are apart, not only from their neighbours. -/
theorem pairwise (clustering : Clustering gap bins groups) (sorted : bins.Pairwise (· < ·)) :
    groups.Pairwise fun c d => ∀ a ∈ c, ∀ b ∈ d, gap < b - a - 1 := by
  let Apart (c d : List Nat) : Prop := d ≠ [] ∧ ∀ a ∈ c, ∀ b ∈ d, gap < b - a - 1
  have transitive : IsTrans (List Nat) Apart := by
    refine ⟨fun c d e ⟨filled, first⟩ ⟨filled', second⟩ => ⟨filled', fun a inC f inE => ?_⟩⟩
    obtain ⟨b, inD⟩ := List.exists_mem_of_ne_nil d filled
    have := first a inC b inD
    have := second b inD f inE
    omega
  have chain : groups.IsChain Apart := by
    refine clustering.apart.imp_of_mem_imp fun c d hc hd apart =>
      ⟨clustering.filled d hd, fun a inC b inD => ?_⟩
    have ends := List.getLast?_eq_getLast_of_ne_nil (clustering.filled c hc)
    have begins := List.head?_eq_some_head (clustering.filled d hd)
    have atEnds := apart _ ends _ begins
    have := le_getLast (clustering.pairwise_of_mem sorted hc) inC ends
    have := head_le (clustering.pairwise_of_mem sorted hd) begins inD
    omega
  exact chain.pairwise.imp And.right

/-- The bins behind a group, as many as a gap may have and one more, are not among the grouped. -/
theorem not_mem_behind (clustering : Clustering gap bins groups) (sorted : bins.Pairwise (· < ·))
    {c : List Nat} {last bin : Nat} (member : c ∈ groups) (ends : c.getLast? = some last)
    (behind : last < bin) (close : bin ≤ last + 1 + gap) : bin ∉ bins := by
  have apart := List.pairwise_iff_getElem.mp (clustering.pairwise sorted)
  rw [← clustering.covers, List.mem_flatten]
  rintro ⟨d, inGroups, inD⟩
  obtain ⟨i, hi, rfl⟩ := List.getElem_of_mem member
  obtain ⟨j, hj, rfl⟩ := List.getElem_of_mem inGroups
  have isLast : last ∈ groups[i] := List.mem_of_getLast? ends
  rcases lt_trichotomy i j with before | rfl | after
  · have := apart i j hi hj before last isLast bin inD
    omega
  · have := le_getLast (clustering.pairwise_of_mem sorted member) inD ends
    omega
  · have := apart j i hj hi after bin inD last isLast
    omega

end Clustering

/-- The pulses of a trace are those of its clusters, one for each cluster that has a high bin. They
are filled and inside of the trace, and dark bins, more than a gap may have, separate them. -/
theorem exactly_hysteresis_pulses [IsTrans α (· ≤ ·)] (high low : α) (ordered : low ≤ high)
    (gap : Nat) (counts : List Nat) :
    Clustering gap (litBins low counts) (clusters low gap counts) ∧
    pulses high low gap counts =
      (clusters low gap counts).filterMap (pulseOf (reaches high counts)) ∧
    (∀ p ∈ pulses high low gap counts, p.start < p.stop ∧ p.stop ≤ counts.length ∧
      ∀ bin, p.stop ≤ bin → bin ≤ p.stop + gap → reaches low counts bin = false) ∧
    (pulses high low gap counts).Pairwise fun p q => p.stop + gap < q.start := by
  have clustering := clustering_clusters low gap counts
  have sorted := pairwise_litBins low counts
  refine ⟨clustering, pulses_eq ordered gap counts, ?_, ?_⟩
  · intro p found
    rw [pulses_eq ordered, List.mem_filterMap] at found
    obtain ⟨c, member, isPulse⟩ := found
    obtain ⟨first, last, begins, ends, rfl⟩ := pulseOf_eq_some_iff.mp isPulse
    have isLast : last ∈ litBins low counts :=
      clustering.mem_of_mem member (List.mem_of_getLast? ends)
    refine ⟨?_, lt_length_of_mem_litBins isLast, fun bin behind close => ?_⟩
    · have ordered := clustering.pairwise_of_mem sorted member
      exact Nat.lt_succ_of_le (le_getLast ordered (List.mem_of_find?_eq_some begins) ends)
    · rw [← Bool.not_eq_true, ← mem_litBins]
      exact clustering.not_mem_behind sorted member ends behind close
  · rw [pulses_eq ordered, List.pairwise_filterMap]
    refine (clustering.pairwise sorted).imp fun apart p isPulse q isNext => ?_
    obtain ⟨first, last, -, ends, rfl⟩ := pulseOf_eq_some_iff.mp isPulse
    obtain ⟨next, end', begins, -, rfl⟩ := pulseOf_eq_some_iff.mp isNext
    have := apart last (List.mem_of_getLast? ends) next (List.mem_of_find?_eq_some begins)
    show last + 1 + gap < next
    omega

/-- A dip of one bin is bridged and one of two is not. Bins that only reach the low threshold begin no
pulse, but continue one. -/
theorem hysteresis_pulses_with_dips :
    (2 : ℚ) ≤ 5 ∧ pulses (5 : ℚ) 2 1 [3, 5, 0, 2, 0, 0, 2, 7, 1, 3, 0, 1, 4, 0, 0, 9] =
      [⟨1, 4⟩, ⟨7, 10⟩, ⟨15, 16⟩] := by
  have ordered : (2 : ℚ) ≤ 5 := by norm_num
  exact ⟨ordered, (exactly_hysteresis_pulses 5 2 ordered 1 _).2.1.trans (by decide +kernel)⟩

end PulseBench.Threshold
