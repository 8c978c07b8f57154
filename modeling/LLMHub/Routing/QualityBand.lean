import LLMHub.Routing.TierSelect

namespace LLMHub

/-- The numbers under which the selectors stay inside 64-bit arithmetic. The
weight of a target is at least the 100 it gets where no target has one. -/
structure Fits (candidates : List HubTierChannelCandidate) : Prop where
  few : candidates.length ≤ 100000000
  weight : ∀ c ∈ candidates, max c.weight 100 * c.availability * c.latency + 50000000 < 2 ^ 63
  ttft : ∀ c ∈ candidates, ∀ p95 ∈ c.realFirstTokenP95Ms, p95 + 300 < 2 ^ 63

variable {candidates stable : List HubTierChannelCandidate} {c : HubTierChannelCandidate}

theorem Fits.sublist {fewer : List HubTierChannelCandidate} (fits : Fits candidates)
    (sub : fewer.Sublist candidates) : Fits fewer where
  few := sub.length_le.trans fits.few
  weight c member := fits.weight c (sub.subset member)
  ttft c member := fits.ttft c (sub.subset member)

theorem Fits.perm {others : List HubTierChannelCandidate} (fits : Fits candidates)
    (same : candidates.Perm others) : Fits others where
  few := same.length_eq ▸ fits.few
  weight c member := fits.weight c (same.mem_iff.mpr member)
  ttft c member := fits.ttft c (same.mem_iff.mpr member)

def LatenciesNonneg (candidates : List HubTierChannelCandidate) : Prop :=
  ∀ c ∈ candidates, ∀ p95 ∈ c.realFirstTokenP95Ms, 0 ≤ p95

instance (candidates : List HubTierChannelCandidate) : Decidable (LatenciesNonneg candidates) :=
  inferInstanceAs (Decidable (∀ c ∈ candidates, ∀ p95 ∈ c.realFirstTokenP95Ms, 0 ≤ p95))

theorem HubTierChannelCandidate.measuredTTFT_some {p95 : Int}
    (measured : c.measuredTTFT = some p95) : c.realFirstTokenP95Ms = some p95 := by
  unfold measuredTTFT at measured
  split at measured
  · exact absurd measured (by simp)
  · exact measured

theorem bestSuccessRateBps_concat (candidates : List HubTierChannelCandidate) (c : HubTierChannelCandidate) :
    bestSuccessRateBps (candidates ++ [c]) =
      if c.mature ∧ c.realSuccessRateBps > bestSuccessRateBps candidates then c.realSuccessRateBps
      else bestSuccessRateBps candidates :=
  List.foldl_append

theorem bestSuccessRateBps_attained (candidates : List HubTierChannelCandidate) :
    bestSuccessRateBps candidates = -1 ∨
      ∃ c ∈ candidates, c.mature = true ∧ c.realSuccessRateBps = bestSuccessRateBps candidates := by
  induction candidates using List.reverseRecOn with
  | nil => exact Or.inl rfl
  | append_singleton candidates c ih =>
    rw [bestSuccessRateBps_concat]
    split
    · next better => exact Or.inr ⟨c, by simp, better.1, rfl⟩
    · rcases ih with none | ⟨best, member, mature, rate⟩
      · exact Or.inl none
      · exact Or.inr ⟨best, by simp [member], mature, rate⟩

theorem le_bestSuccessRateBps
    (member : c ∈ candidates) (mature : c.mature = true) : c.realSuccessRateBps ≤ bestSuccessRateBps candidates := by
  induction candidates using List.reverseRecOn with
  | nil => exact absurd member (by simp)
  | append_singleton candidates last ih =>
    rw [bestSuccessRateBps_concat]
    rcases List.mem_append.mp member with earlier | same
    · have bound := ih earlier
      split <;> omega
    · obtain rfl := List.mem_singleton.mp same
      split
      · exact le_rfl
      · next notBetter => exact le_of_not_gt fun better => notBetter ⟨mature, better⟩

theorem bestTTFTP95Ms_concat (stable : List HubTierChannelCandidate) (c : HubTierChannelCandidate) :
    bestTTFTP95Ms (stable ++ [c]) =
      match c.measuredTTFT with
      | none => bestTTFTP95Ms stable
      | some p95 => if bestTTFTP95Ms stable < 0 ∨ p95 < bestTTFTP95Ms stable then p95 else bestTTFTP95Ms stable :=
  List.foldl_append

theorem bestTTFTP95Ms_attained (stable : List HubTierChannelCandidate) :
    bestTTFTP95Ms stable = -1 ∨ ∃ c ∈ stable, c.measuredTTFT = some (bestTTFTP95Ms stable) := by
  induction stable using List.reverseRecOn with
  | nil => exact Or.inl rfl
  | append_singleton stable c ih =>
    have kept : bestTTFTP95Ms stable = -1 ∨
        ∃ o ∈ stable ++ [c], o.measuredTTFT = some (bestTTFTP95Ms stable) :=
      ih.imp_right fun ⟨best, member, measured⟩ => ⟨best, by simp [member], measured⟩
    rw [bestTTFTP95Ms_concat]
    cases measured : c.measuredTTFT with
    | none => exact kept
    | some p95 =>
      dsimp only
      split
      · exact Or.inr ⟨c, by simp, measured⟩
      · exact kept

/-- With no negative latency the sentinel is never mistaken for one, and the
fold takes the minimum. -/
theorem bestTTFTP95Ms_le {p95 : Int}
    (nonneg : LatenciesNonneg stable) (member : c ∈ stable) (measured : c.measuredTTFT = some p95) :
    0 ≤ bestTTFTP95Ms stable ∧ bestTTFTP95Ms stable ≤ p95 := by
  induction stable using List.reverseRecOn with
  | nil => exact absurd member (by simp)
  | append_singleton stable last ih =>
    have nonnegLast : ∀ q, last.measuredTTFT = some q → 0 ≤ q := fun q lastMeasured =>
      nonneg last (by simp) q (HubTierChannelCandidate.measuredTTFT_some lastMeasured)
    rw [bestTTFTP95Ms_concat]
    rcases List.mem_append.mp member with earlier | same
    · have bound := ih (fun o inside => nonneg o (by simp [inside])) earlier
      cases lastMeasured : last.measuredTTFT with
      | none => exact bound
      | some q =>
        have := nonnegLast q lastMeasured
        dsimp only
        split <;> omega
    · obtain rfl := List.mem_singleton.mp same
      have := nonnegLast p95 measured
      rw [measured]
      dsimp only
      split <;> omega

theorem bestTTFTP95Ms_eq {best : Int}
    (nonneg : LatenciesNonneg stable) (member : c ∈ stable) (measured : c.measuredTTFT = some best)
    (lowest : ∀ o ∈ stable, ∀ p95, o.measuredTTFT = some p95 → best ≤ p95) : bestTTFTP95Ms stable = best := by
  obtain ⟨found, upper⟩ := bestTTFTP95Ms_le nonneg member measured
  rcases bestTTFTP95Ms_attained stable with none | ⟨o, inside, attained⟩
  · omega
  · exact le_antisymm upper (lowest o inside _ attained)

theorem le_ttftThresholdMs {best : Int} (nonneg : 0 ≤ best) (fits : best + 300 < 2 ^ 63) :
    best ≤ ttftThresholdMs best := by
  have absolute : Go.int64 (best + hubRoutingQualityTTFTAbsoluteBandMs) = best + 300 :=
    Go.int64_eq_self (by simp only [hubRoutingQualityTTFTAbsoluteBandMs]; omega) fits
  unfold ttftThresholdMs
  dsimp only
  rw [absolute]
  split <;> omega

theorem mem_stableCandidates {threshold : Int} :
    c ∈ stableCandidates threshold candidates ↔
      c ∈ candidates ∧ c.mature = true ∧ threshold ≤ c.realSuccessRateBps := by
  simp [stableCandidates]

theorem mem_fastCandidates {threshold : Int} :
    c ∈ fastCandidates threshold stable ↔ c ∈ stable ∧ ∃ p95, c.measuredTTFT = some p95 ∧ p95 ≤ threshold := by
  simp [fastCandidates, Option.any_eq_true]

def successBand (candidates : List HubTierChannelCandidate) : List HubTierChannelCandidate :=
  stableCandidates (max (bestSuccessRateBps candidates - hubRoutingQualitySuccessBandBps) 0) candidates

theorem filterHubTierCandidatesByQualityBand_of_unhealthy
    (low : bestSuccessRateBps candidates < hubRoutingQualityHealthySuccessBps) :
    filterHubTierCandidatesByQualityBand candidates = candidates := by
  unfold filterHubTierCandidatesByQualityBand
  dsimp only
  rw [if_pos low, ite_self]

theorem filterHubTierCandidatesByQualityBand_of_healthy
    (healthy : ¬bestSuccessRateBps candidates < hubRoutingQualityHealthySuccessBps) :
    filterHubTierCandidatesByQualityBand candidates =
      if bestTTFTP95Ms (successBand candidates) < 0 then successBand candidates
      else fastCandidates (ttftThresholdMs (bestTTFTP95Ms (successBand candidates))) (successBand candidates) := by
  have measured : ¬bestSuccessRateBps candidates < 0 := by
    simp only [hubRoutingQualityHealthySuccessBps] at healthy
    omega
  unfold filterHubTierCandidatesByQualityBand
  dsimp only
  rw [if_neg measured, if_neg healthy]
  rfl

theorem filterHubTierCandidatesByQualityBand_sublist (candidates : List HubTierChannelCandidate) :
    (filterHubTierCandidatesByQualityBand candidates).Sublist candidates := by
  by_cases low : bestSuccessRateBps candidates < hubRoutingQualityHealthySuccessBps
  · rw [filterHubTierCandidatesByQualityBand_of_unhealthy low]
  · rw [filterHubTierCandidatesByQualityBand_of_healthy low]
    split
    · exact List.filter_sublist
    · exact List.filter_sublist.trans List.filter_sublist

theorem successBand_ne_nil
    (healthy : ¬bestSuccessRateBps candidates < hubRoutingQualityHealthySuccessBps) : successBand candidates ≠ [] := by
  simp only [hubRoutingQualityHealthySuccessBps] at healthy
  rcases bestSuccessRateBps_attained candidates with none | ⟨best, member, mature, rate⟩
  · omega
  · refine List.ne_nil_of_mem (mem_stableCandidates.mpr ⟨member, mature, ?_⟩)
    simp only [hubRoutingQualitySuccessBandBps]
    omega

/-- The best candidate of each measure survives the threshold taken from it. -/
theorem filterHubTierCandidatesByQualityBand_ne_nil
    (fits : Fits candidates) (nonempty : candidates ≠ []) : filterHubTierCandidatesByQualityBand candidates ≠ [] := by
  by_cases low : bestSuccessRateBps candidates < hubRoutingQualityHealthySuccessBps
  · rw [filterHubTierCandidatesByQualityBand_of_unhealthy low]
    exact nonempty
  · rw [filterHubTierCandidatesByQualityBand_of_healthy low]
    split
    · exact successBand_ne_nil low
    · next measured =>
      rcases bestTTFTP95Ms_attained (successBand candidates) with none | ⟨best, member, attained⟩
      · omega
      · have inside := (mem_stableCandidates.mp member).1
        have bound := fits.ttft best inside _ (HubTierChannelCandidate.measuredTTFT_some attained)
        exact List.ne_nil_of_mem
          (mem_fastCandidates.mpr ⟨member, _, attained, le_ttftThresholdMs (by omega) bound⟩)

theorem bestSuccessRateBps_mono {fewer : List HubTierChannelCandidate} (sub : fewer ⊆ candidates)
    (found : 0 ≤ bestSuccessRateBps candidates) : bestSuccessRateBps fewer ≤ bestSuccessRateBps candidates := by
  rcases bestSuccessRateBps_attained fewer with none | ⟨best, member, mature, rate⟩
  · omega
  · exact rate ▸ le_bestSuccessRateBps (sub member) mature

/-- A list that lies in its own band is left alone. -/
theorem filterHubTierCandidatesByQualityBand_eq_self {band : List HubTierChannelCandidate}
    (stable : ∀ c ∈ band, c.mature = true ∧
      max (bestSuccessRateBps band - hubRoutingQualitySuccessBandBps) 0 ≤ c.realSuccessRateBps)
    (fast : bestTTFTP95Ms band < 0 ∨
      ∀ c ∈ band, ∃ p95, c.measuredTTFT = some p95 ∧ p95 ≤ ttftThresholdMs (bestTTFTP95Ms band)) :
    filterHubTierCandidatesByQualityBand band = band := by
  by_cases low : bestSuccessRateBps band < hubRoutingQualityHealthySuccessBps
  · exact filterHubTierCandidatesByQualityBand_of_unhealthy low
  have same : successBand band = band :=
    List.filter_eq_self.mpr fun c member => by simpa using stable c member
  rw [filterHubTierCandidatesByQualityBand_of_healthy low, same]
  split
  · rfl
  · next measured =>
    have allFast := fast.resolve_left measured
    refine List.filter_eq_self.mpr fun c member => ?_
    obtain ⟨p95, attained, bound⟩ := allFast c member
    simpa [attained] using bound

theorem filterHubTierCandidatesByQualityBand_idem (fits : Fits candidates) (nonneg : LatenciesNonneg candidates) :
    filterHubTierCandidatesByQualityBand (filterHubTierCandidatesByQualityBand candidates) =
      filterHubTierCandidatesByQualityBand candidates := by
  by_cases low : bestSuccessRateBps candidates < hubRoutingQualityHealthySuccessBps
  · rw [filterHubTierCandidatesByQualityBand_of_unhealthy low, filterHubTierCandidatesByQualityBand_of_unhealthy low]
  have found : 0 ≤ bestSuccessRateBps candidates := by
    simp only [hubRoutingQualityHealthySuccessBps] at low
    omega
  -- Inside the success band the best rate can only drop, and the threshold with it.
  have stable : ∀ band ⊆ successBand candidates, ∀ c ∈ band, c.mature = true ∧
      max (bestSuccessRateBps band - hubRoutingQualitySuccessBandBps) 0 ≤ c.realSuccessRateBps := by
    intro band sub c member
    obtain ⟨-, mature, rate⟩ := mem_stableCandidates.mp (sub member)
    have drop := bestSuccessRateBps_mono (fun o inside => (mem_stableCandidates.mp (sub inside)).1) found
    exact ⟨mature, by omega⟩
  rw [filterHubTierCandidatesByQualityBand_of_healthy low]
  split
  · next unmeasured =>
    exact filterHubTierCandidatesByQualityBand_eq_self (stable _ (List.Subset.refl _)) (Or.inl unmeasured)
  · next measured =>
    have within : LatenciesNonneg (successBand candidates) := fun c member =>
      nonneg c (mem_stableCandidates.mp member).1
    rcases bestTTFTP95Ms_attained (successBand candidates) with none | ⟨best, member, attained⟩
    · omega
    have kept : best ∈ fastCandidates (ttftThresholdMs (bestTTFTP95Ms (successBand candidates)))
        (successBand candidates) := by
      refine mem_fastCandidates.mpr ⟨member, _, attained, le_ttftThresholdMs (by omega) ?_⟩
      exact fits.ttft best (mem_stableCandidates.mp member).1 _ (HubTierChannelCandidate.measuredTTFT_some attained)
    have same := bestTTFTP95Ms_eq (fun c inside => within c (mem_fastCandidates.mp inside).1) kept attained
      fun o inside p95 other => (bestTTFTP95Ms_le within (mem_fastCandidates.mp inside).1 other).2
    refine filterHubTierCandidatesByQualityBand_eq_self
      (stable _ fun c inside => (mem_fastCandidates.mp inside).1) (Or.inr fun c inside => ?_)
    rw [same]
    exact (mem_fastCandidates.mp inside).2

end LLMHub
