import LLMHub.PerfMetrics.RuntimeSignals
import LLMHub.Sampling.Rank
import Mathlib.Algebra.BigOperators.Group.List.Lemmas

namespace LLMHub

open Sampling

def recordLatencies (samples : List Int) : Fin 16 → Int :=
  (samples.foldl (fun bucket ms => bucket.add { success := true, latencyMS := ms })
    ({} : HubRoutingWindowCounters)).latencyHistogram

variable (samples : List Int) (index : Fin 16)

theorem finRange_split : List.finRange 16 =
    (List.finRange 16).filter (· < index) ++ index :: (List.finRange 16).filter (index < ·) := by
  revert index
  decide

theorem upperBounds_mono {first second : Fin 16} (order : first ≤ second) :
    hubRoutingHistogramUpperBounds first ≤ hubRoutingHistogramUpperBounds second := by
  revert first second
  decide

/-- A value falls into the first column whose bound it does not exceed, or into
the last one. -/
theorem histogramIndex_le_iff (value : Int) (index : Fin 16) :
    hubRoutingHistogramIndex value ≤ index ↔ value ≤ hubRoutingHistogramUpperBounds index ∨ index = Fin.last 15 := by
  unfold hubRoutingHistogramIndex
  cases found : (List.finRange 16).find? fun index => value ≤ hubRoutingHistogramUpperBounds index with
  | none =>
    have above := List.find?_eq_none.mp found index (List.mem_finRange index)
    rw [decide_eq_true_eq] at above
    rw [Option.getD_none, Fin.last_le_iff, or_iff_right above]
  | some first =>
    obtain ⟨within, before, after, split, above⟩ := List.find?_eq_some_iff_append.mp found
    rw [decide_eq_true_eq] at within
    rw [Option.getD_some]
    constructor
    · exact fun order => Or.inl (within.trans (upperBounds_mono order))
    · intro bounded
      by_contra earlier
      have sorted := List.pairwise_lt_finRange 16
      rw [split] at sorted
      have member := List.mem_finRange index
      rw [split, List.mem_append, List.mem_cons] at member
      rcases member with inside | rfl | later
      · have exceeds := above index inside
        rcases bounded with below | rfl
        · simp [below] at exceeds
        · exact earlier (Fin.le_last first)
      · exact earlier le_rfl
      · exact earlier ((List.pairwise_cons.mp (List.pairwise_append.mp sorted).2.1).1 index later).le

theorem histogramIndex_mono {first second : Int} (order : first ≤ second) :
    hubRoutingHistogramIndex first ≤ hubRoutingHistogramIndex second := by
  rw [histogramIndex_le_iff]
  rcases (histogramIndex_le_iff second _).mp le_rfl with below | last
  · exact Or.inl (order.trans below)
  · exact Or.inr last

theorem le_upperBound {value : Int} (most : value ≤ 3600000) :
    value ≤ hubRoutingHistogramUpperBounds (hubRoutingHistogramIndex value) := by
  rcases (histogramIndex_le_iff value _).mp le_rfl with below | last
  · exact below
  · rw [last]
    exact most

/-- A column counts the samples that fall into it. -/
theorem recordLatencies_apply {samples : List Int} (nonneg : ∀ ms ∈ samples, 0 ≤ ms) (index : Fin 16) :
    recordLatencies samples index =
      Go.int64 (samples.countP fun ms => hubRoutingHistogramIndex ms = index : Nat) := by
  have run : ∀ (rest : List Int) (bucket : HubRoutingWindowCounters), (∀ ms ∈ rest, 0 ≤ ms) →
      Go.int64 (bucket.latencyHistogram index) = bucket.latencyHistogram index →
      (rest.foldl (fun bucket ms => bucket.add { success := true, latencyMS := ms }) bucket).latencyHistogram index =
        Go.int64 (bucket.latencyHistogram index + (rest.countP fun ms => hubRoutingHistogramIndex ms = index : Nat)) := by
    intro rest
    induction rest with
    | nil => exact fun bucket _ word => by rw [List.foldl_nil, List.countP_nil, Nat.cast_zero, add_zero, word]
    | cons ms rest ih =>
      intro bucket positive word
      obtain ⟨first, later⟩ := List.forall_mem_cons.mp positive
      have added : (bucket.add { success := true, latencyMS := ms }).latencyHistogram index =
          bumpCount bucket.latencyHistogram (hubRoutingHistogramIndex ms) index := congrFun (if_pos first) index
      rw [List.foldl_cons]
      by_cases here : hubRoutingHistogramIndex ms = index
      · rw [bumpCount, here, Function.update_self] at added
        rw [ih _ later (by rw [added, Go.int64_int64]), added, List.countP_cons_of_pos (by simpa using here)]
        refine Go.int64_congr (((Go.int64_modEq _).add_right _).trans (congrArg (· % _) ?_))
        push_cast
        ring
      · rw [bumpCount, Function.update_of_ne (Ne.symm here)] at added
        rw [ih _ later (by rw [added, word]), added, List.countP_cons_of_neg (by simpa using here)]
  have zero : Go.int64 0 = 0 := Go.int64_eq_self (by norm_num) (by norm_num)
  have counted := run samples {} nonneg zero
  rwa [zero_add] at counted

section Scan

variable {histogram : Fin 16 → Int} (counts : Fin 16 → Nat) (exact : ∀ index, histogram index = counts index)

include exact

theorem foldl_columns (columns : List (Fin 16)) {s : Nat} (fits : s + (columns.map counts).sum < 2 ^ 63) :
    columns.foldl (fun total index => Go.int64 (total + histogram index)) (s : Int) =
      (s + (columns.map counts).sum : Nat) := by
  induction columns generalizing s with
  | nil => rfl
  | cons index rest ih =>
    rw [List.map_cons, List.sum_cons] at fits ⊢
    rw [List.foldl_cons, exact, Go.int64_eq_self (by omega) (by omega), ← Nat.cast_add, ih (by omega), add_assoc]

/-- The scan stops at the column in which the count reaches the rank. -/
theorem histogramAt_eq {rank : Nat} (before : List (Fin 16)) (index : Fin 16) (after : List (Fin 16)) {s : Nat}
    (fits : s + (before.map counts).sum + counts index < 2 ^ 63) (below : s + (before.map counts).sum < rank)
    (reached : rank ≤ s + (before.map counts).sum + counts index) :
    hubRoutingHistogramAt histogram rank s (before ++ index :: after) =
      some (hubRoutingHistogramUpperBounds index) := by
  induction before generalizing s with
  | nil =>
    rw [List.map_nil, List.sum_nil] at fits below reached
    rw [List.nil_append, hubRoutingHistogramAt, exact, Go.int64_eq_self (by omega) (by omega), if_pos (by omega)]
  | cons first rest ih =>
    rw [List.map_cons, List.sum_cons] at fits below reached
    rw [List.cons_append, hubRoutingHistogramAt, exact, Go.int64_eq_self (by omega) (by omega), if_neg (by omega),
      ← Nat.cast_add, ih (by omega) (by omega) (by omega)]

end Scan

def latencyCount (samples : List Int) (index : Fin 16) : Nat :=
  samples.countP fun ms => hubRoutingHistogramIndex ms = index

theorem sum_latencyCount_lt :
    (((List.finRange 16).filter (· < index)).map (latencyCount samples)).sum =
      samples.countP fun ms => hubRoutingHistogramIndex ms < index := by
  refine (sum_countP hubRoutingHistogramIndex samples ((List.nodup_finRange 16).filter _)).trans ?_
  simp

theorem sum_latencyCount_le :
    (((List.finRange 16).filter (· < index)).map (latencyCount samples)).sum + latencyCount samples index =
      samples.countP fun ms => hubRoutingHistogramIndex ms ≤ index := by
  have fresh : index ∉ (List.finRange 16).filter (· < index) := by simp
  rw [sum_latencyCount_lt, add_comm]
  refine Eq.trans ?_ ((countP_cons_columns hubRoutingHistogramIndex fresh samples).trans ?_)
  · simp [latencyCount]
  · simp [le_iff_eq_or_lt]

theorem sum_latencyCount : ((List.finRange 16).map (latencyCount samples)).sum = samples.length := by
  refine (sum_countP hubRoutingHistogramIndex samples (List.nodup_finRange 16)).trans ?_
  simp

theorem recordLatencies_eq {samples : List Int} (nonneg : ∀ ms ∈ samples, 0 ≤ ms) (few : samples.length < 2 ^ 63)
    (index : Fin 16) : recordLatencies samples index = latencyCount samples index := by
  have part : latencyCount samples index ≤ samples.length := List.countP_le_length
  rw [recordLatencies_apply nonneg]
  exact Go.int64_eq_self (by omega) (by change (latencyCount samples index : Int) < _; omega)

/-- The percentile of recorded samples is the bound of the column into which the
sample of the nearest rank falls. -/
theorem percentile_recordLatencies {samples : List Int} (filled : samples ≠ []) (nonneg : ∀ ms ∈ samples, 0 ≤ ms)
    (few : 100 * samples.length + 99 < 2 ^ 63) {percentile : Nat} (some : 0 < percentile) (most : percentile ≤ 100) :
    hubRoutingHistogramPercentile (recordLatencies samples) percentile =
      Option.some (hubRoutingHistogramUpperBounds (hubRoutingHistogramIndex
        (atRank samples (percentileRank percentile samples.length) 0))) := by
  have positive : 0 < samples.length := List.length_pos_of_ne_nil filled
  have exact := recordLatencies_eq nonneg (by omega)
  have total : hubRoutingHistogramCount (recordLatencies samples) = samples.length := by
    have added := foldl_columns (latencyCount samples) exact (List.finRange 16) (s := 0)
      (by rw [sum_latencyCount]; omega)
    rwa [sum_latencyCount, zero_add] at added
  have product : percentile * samples.length ≤ 100 * samples.length := Nat.mul_le_mul_right _ most
  have ranked : (Go.int64 (percentile * samples.length + 99)).tdiv 100 =
      (percentileRank percentile samples.length : Nat) := by
    rw [percentileRank_eq, ← Nat.cast_mul, Go.int64_eq_self (by omega) (by omega),
      Int.tdiv_eq_ediv_of_nonneg (by omega)]
    omega
  have rankPos := percentileRank_pos some positive
  have rankLe := percentileRank_le most samples.length
  unfold hubRoutingHistogramPercentile
  dsimp only
  rw [total, if_neg (by omega), ranked]
  generalize percentileRank percentile samples.length = rank at *
  have low := atRank_iff (p := fun ms => hubRoutingHistogramIndex ms <
    hubRoutingHistogramIndex (atRank samples rank 0)) rankPos rankLe
    (fun a b less high => by simpa using (histogramIndex_mono less).trans_lt (by simpa using high)) 0
  have high := atRank_iff (p := fun ms => hubRoutingHistogramIndex ms ≤
    hubRoutingHistogramIndex (atRank samples rank 0)) rankPos rankLe
    (fun a b less high => by simpa using (histogramIndex_mono less).trans (by simpa using high)) 0
  simp only [lt_irrefl, decide_false, Bool.false_eq_true, false_iff, not_le] at low
  simp only [le_refl, decide_true, true_iff] at high
  generalize hubRoutingHistogramIndex (atRank samples rank 0) = index at *
  have within := (List.countP_le_length (p := fun ms => decide (hubRoutingHistogramIndex ms ≤ index)) (l := samples))
  rw [finRange_split index]
  refine histogramAt_eq (latencyCount samples) exact _ index _ (s := 0) ?_ ?_ ?_
  · rw [zero_add, sum_latencyCount_le]
    omega
  · rw [zero_add, sum_latencyCount_lt]
    exact low
  · rw [zero_add, sum_latencyCount_le]
    exact high

/-- Merged histograms are the histogram of all samples. -/
theorem merge_recordLatencies {first second : List Int} (nonneg : ∀ ms ∈ first ++ second, 0 ≤ ms) :
    mergeHubRoutingHistogram (recordLatencies first) (recordLatencies second) = recordLatencies (first ++ second) := by
  funext index
  rw [mergeHubRoutingHistogram, recordLatencies_apply nonneg,
    recordLatencies_apply fun ms member => nonneg ms (List.mem_append_left _ member),
    recordLatencies_apply fun ms member => nonneg ms (List.mem_append_right _ member), List.countP_append, Nat.cast_add]
  exact Go.int64_congr ((Go.int64_modEq _).add (Go.int64_modEq _))

/-- The percentile is that of the nearest rank, rounded up to the bound of its
column. -/
theorem percentile_nearest_rank (samples : List Int) (filled : samples ≠ [])
    (range : ∀ ms ∈ samples, 0 ≤ ms ∧ ms ≤ 3600000) (few : 100 * samples.length + 99 < 2 ^ 63) (percentile : Nat)
    (some : 0 < percentile) (most : percentile ≤ 100) :
    let sample := atRank samples (percentileRank percentile samples.length) 0
    sample ∈ samples ∧
      hubRoutingHistogramPercentile (recordLatencies samples) percentile =
        Option.some (hubRoutingHistogramUpperBounds (hubRoutingHistogramIndex sample)) ∧
      sample ≤ hubRoutingHistogramUpperBounds (hubRoutingHistogramIndex sample) ∧
      (∀ higher : Nat, percentile ≤ higher → higher ≤ 100 →
        ∃ high, hubRoutingHistogramPercentile (recordLatencies samples) higher = Option.some high ∧
          hubRoutingHistogramUpperBounds (hubRoutingHistogramIndex sample) ≤ high) ∧
      ∀ first second, samples = first ++ second →
        hubRoutingHistogramPercentile (mergeHubRoutingHistogram (recordLatencies first) (recordLatencies second))
          percentile = hubRoutingHistogramPercentile (recordLatencies samples) percentile := by
  intro sample
  have nonneg : ∀ ms ∈ samples, 0 ≤ ms := fun ms member => (range ms member).1
  have positive : 0 < samples.length := List.length_pos_of_ne_nil filled
  have rankPos := percentileRank_pos some positive
  have member : sample ∈ samples := atRank_mem rankPos (percentileRank_le most _) 0
  refine ⟨member, percentile_recordLatencies filled nonneg few some most, le_upperBound (range sample member).2, ?_, ?_⟩
  · intro higher order bound
    refine ⟨_, percentile_recordLatencies filled nonneg few (some.trans_le order) bound, ?_⟩
    refine upperBounds_mono (histogramIndex_mono ?_)
    exact atRank_mono rankPos (percentileRank_mono order _) (percentileRank_le bound _) 0
  · rintro first second rfl
    rw [merge_recordLatencies nonneg]

theorem percentile_of_three :
    hubRoutingHistogramPercentile (recordLatencies [3000, 40, 120]) 50 = some 250 ∧
      atRank [3000, 40, 120] (percentileRank 50 3) 0 = (120 : Int) := by
  have ranked := percentile_nearest_rank [3000, 40, 120] (by simp) (by decide) (by decide) 50 (by decide) (by decide)
  have sample : atRank [3000, 40, 120] (percentileRank 50 3) 0 = (120 : Int) := by decide +kernel
  refine ⟨ranked.2.1.trans ?_, sample⟩
  exact congrArg (fun ms => some (hubRoutingHistogramUpperBounds (hubRoutingHistogramIndex ms))) sample

/-- Of too many samples the rank overflows, and the first column answers. -/
theorem percentile_overflows :
    (∀ ms ∈ List.replicate (10 ^ 17) (3600000 : Int), ms = 3600000) ∧
      hubRoutingHistogramPercentile (recordLatencies (List.replicate (10 ^ 17) 3600000)) 100 = some 100 := by
  have same : ∀ ms ∈ List.replicate (10 ^ 17) (3600000 : Int), ms = 3600000 := fun ms => List.eq_of_mem_replicate
  have columns : recordLatencies (List.replicate (10 ^ 17) 3600000) =
      fun index => if index = Fin.last 15 then 10 ^ 17 else 0 := by
    funext index
    have last : hubRoutingHistogramIndex 3600000 = Fin.last 15 := by decide +kernel
    rw [recordLatencies_apply fun ms member => by rw [same ms member]; norm_num, List.countP_replicate, last]
    by_cases here : index = Fin.last 15
    · rw [if_pos (by simp [here]), if_pos here, Go.int64_eq_self (by norm_num) (by norm_num)]
      norm_num
    · rw [if_neg (by simpa using Ne.symm here), if_neg here, Go.int64_eq_self (by norm_num) (by norm_num)]
      rfl
  refine ⟨same, ?_⟩
  rw [columns]
  decide +kernel

/-- The percentile of a merged window lies between those of its parts. -/
theorem merged_percentile_between (first second : List Int) (filled : first ≠ [] ∧ second ≠ [])
    (nonneg : ∀ ms ∈ first ++ second, 0 ≤ ms) (few : 100 * (first ++ second).length + 99 < 2 ^ 63) (percentile : Nat)
    (some : 0 < percentile) (most : percentile ≤ 100) : ∃ one two both,
      hubRoutingHistogramPercentile (recordLatencies first) percentile = Option.some one ∧
      hubRoutingHistogramPercentile (recordLatencies second) percentile = Option.some two ∧
      hubRoutingHistogramPercentile (mergeHubRoutingHistogram (recordLatencies first) (recordLatencies second))
        percentile = Option.some both ∧ min one two ≤ both ∧ both ≤ max one two := by
  have sum : (first ++ second).length = first.length + second.length := List.length_append
  have parts := List.forall_mem_append.mp nonneg
  have ranked {samples : List Int} (filled : samples ≠ []) :=
    And.intro (percentileRank_pos some (List.length_pos_of_ne_nil filled))
      (percentileRank_le most samples.length)
  have bound : Monotone fun ms => hubRoutingHistogramUpperBounds (hubRoutingHistogramIndex ms) :=
    fun _ _ order => upperBounds_mono (histogramIndex_mono order)
  have product := Nat.mul_add percentile first.length second.length
  obtain ⟨below, above⟩ := atRank_append (percentileRank percentile (first ++ second).length)
    (ranked filled.1) (ranked filled.2) (by simp only [sum, percentileRank_eq]; omega)
    (by simp only [sum, percentileRank_eq]; omega) 0
  refine ⟨_, _, _, percentile_recordLatencies filled.1 parts.1 (by omega) some most,
    percentile_recordLatencies filled.2 parts.2 (by omega) some most,
    (congrArg (hubRoutingHistogramPercentile · percentile) (merge_recordLatencies nonneg)).trans
      (percentile_recordLatencies (List.append_ne_nil_of_left_ne_nil filled.1 _) nonneg few some most), ?_⟩
  exact ⟨(bound.map_min ..).symm.trans_le (bound below), (bound above).trans_eq (bound.map_max ..)⟩

theorem two_windows_between : ∃ one two both,
    hubRoutingHistogramPercentile (recordLatencies [40, 50]) 95 = some one ∧
    hubRoutingHistogramPercentile (recordLatencies [3000]) 95 = some two ∧
    hubRoutingHistogramPercentile (mergeHubRoutingHistogram (recordLatencies [40, 50]) (recordLatencies [3000])) 95 =
      some both ∧ min one two ≤ both ∧ both ≤ max one two :=
  merged_percentile_between [40, 50] [3000] (by simp) (by decide) (by decide) 95 (by decide) (by decide)

end LLMHub
