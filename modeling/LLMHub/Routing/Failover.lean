import LLMHub.Routing.TierChoice
import LLMHub.Sampling.Drain
import Mathlib.Data.List.Count

namespace LLMHub

/-- `RetryParam.ExcludeChannel`: a failed channel is not selected again by the
same request. -/
def excludeChannel (excluded : Finset Nat) (channelID : Nat) : Finset Nat :=
  if channelID ≤ 0 then excluded else insert channelID excluded

/-- One request that loses every channel it is given: the results of its
selections, or `none` where one of them panics. -/
def failover (candidates : List HubTierChannelCandidate) : List Draw → Finset Nat → Option (List Nat)
  | [], _ => some []
  | draw :: draws, excluded => do
    let channelID ← selectHubTierChannel draw candidates excluded
    let later ← failover candidates draws (excludeChannel excluded channelID)
    pure (channelID :: later)

def servable (candidates : List HubTierChannelCandidate) (excluded : Finset Nat) : Finset Nat :=
  ((eligibleCandidates candidates excluded).map (·.channelID)).toFinset

variable {candidates : List HubTierChannelCandidate}

theorem mem_servable {excluded : Finset Nat} {id : Nat} :
    id ∈ servable candidates excluded ↔
      ∃ c ∈ candidates, c.channelID = id ∧ id ∉ excluded ∧ c.hardUnavailable = false := by
  simp only [servable, List.mem_toFinset, List.mem_map, mem_eligibleCandidates]
  constructor
  · rintro ⟨c, ⟨member, fresh, available⟩, rfl⟩
    exact ⟨c, member, rfl, fresh, available⟩
  · rintro ⟨c, member, rfl, fresh, available⟩
    exact ⟨c, ⟨member, fresh, available⟩, rfl⟩

theorem servable_eq_sdiff (candidates : List HubTierChannelCandidate) (excluded : Finset Nat) :
    servable candidates excluded = servable candidates ∅ \ excluded := by
  ext id
  simp only [Finset.mem_sdiff, mem_servable, Finset.notMem_empty, not_false_eq_true, true_and]
  constructor
  · rintro ⟨c, member, named, fresh, available⟩
    exact ⟨⟨c, member, named, available⟩, fresh⟩
  · rintro ⟨⟨c, member, named, available⟩, fresh⟩
    exact ⟨c, member, named, fresh, available⟩

/-- One selection: a channel that may still be used, or 0 when there is none. -/
theorem selectHubTierChannel_serves
    (positive : ∀ c ∈ candidates, 0 < c.channelID) (fits : Fits candidates) (draw : Draw) (excluded : Finset Nat) :
    ∃ id, selectHubTierChannel draw candidates excluded = some id ∧
      (id = 0 ∧ servable candidates excluded = ∅ ∨ 0 < id ∧ id ∈ servable candidates excluded) := by
  obtain ⟨id, selected⟩ := selectHubTierChannel_isSome fits draw excluded
  refine ⟨id, selected, ?_⟩
  rcases selectHubTierChannel_returns selected with ⟨zero, none⟩ | ⟨c, member, rfl, -⟩
  · have nobody := (eligibleBand_eq_nil fits).mp none
    exact Or.inl ⟨zero, by simp [servable, nobody]⟩
  · obtain ⟨inside, fresh, available⟩ := mem_eligibleCandidates.mp (eligibleBand_eligible member)
    exact Or.inr ⟨positive c inside, mem_servable.mpr ⟨c, inside, rfl, fresh, available⟩⟩

theorem selectHubTierChannel_drains (positive : ∀ c ∈ candidates, 0 < c.channelID) (fits : Fits candidates) :
    Sampling.Serves (fun draw excluded => selectHubTierChannel draw candidates excluded) (servable candidates ∅) :=
  fun draw excluded => by
    rw [← servable_eq_sdiff]
    exact selectHubTierChannel_serves positive fits draw excluded

theorem failover_eq_drain (candidates : List HubTierChannelCandidate) (draws : List Draw) (excluded : Finset Nat) :
    failover candidates draws excluded =
      Sampling.drain (fun draw excluded => selectHubTierChannel draw candidates excluded) draws excluded := by
  induction draws generalizing excluded with
  | nil => rfl
  | cons draw draws ih =>
    unfold failover Sampling.drain
    simp only [ih, excludeChannel]

theorem servable_card_le (candidates : List HubTierChannelCandidate) (excluded : Finset Nat) :
    (servable candidates excluded).card ≤ (eligibleCandidates candidates excluded).length := by
  simpa only [servable, List.length_map] using
    List.toFinset_card_le ((eligibleCandidates candidates excluded).map (·.channelID))

theorem tier_failover_exhaustive (candidates : List HubTierChannelCandidate)
    (positive : ∀ c ∈ candidates, 0 < c.channelID) (nonneg : LatenciesNonneg candidates) (fits : Fits candidates)
    (draws : List Draw) (excluded : Finset Nat) :
    (∃ returned, failover candidates draws excluded =
        some (returned ++ List.replicate (draws.length - returned.length) 0) ∧
      (∀ id, returned.count id ≤ 1) ∧
      (∀ id ∈ returned, ∃ c ∈ candidates, c.channelID = id ∧ id ∉ excluded ∧ c.hardUnavailable = false) ∧
      (returned.length < draws.length ∨ (eligibleCandidates candidates excluded).length ≤ draws.length →
        ∀ c ∈ candidates, c.channelID ∉ excluded → c.hardUnavailable = false → returned.count c.channelID = 1)) ∧
    filterHubTierCandidatesByQualityBand candidates ⊆ candidates ∧
    (candidates ≠ [] → filterHubTierCandidatesByQualityBand candidates ≠ []) ∧
    filterHubTierCandidatesByQualityBand (filterHubTierCandidatesByQualityBand candidates) =
      filterHubTierCandidatesByQualityBand candidates := by
  refine ⟨?_, (filterHubTierCandidatesByQualityBand_sublist candidates).subset,
    filterHubTierCandidatesByQualityBand_ne_nil fits, filterHubTierCandidatesByQualityBand_idem fits nonneg⟩
  obtain ⟨returned, run, distinct, inside, length⟩ :=
    (selectHubTierChannel_drains positive fits).drain_returns draws excluded
  rw [← failover_eq_drain] at run
  rw [← servable_eq_sdiff] at inside length
  refine ⟨returned, run, fun id => List.nodup_iff_count_le_one.mp distinct id,
    fun id member => mem_servable.mp (inside id member), ?_⟩
  intro enough c member fresh available
  -- As many distinct servable channels came out as there are.
  have few := servable_card_le candidates excluded
  have all : returned.toFinset = servable candidates excluded := by
    rw [servable_eq_sdiff] at inside length few ⊢
    exact Sampling.toFinset_of_enough distinct inside length (by omega)
  have listed : c.channelID ∈ returned := by
    rw [← List.mem_toFinset, all]
    exact mem_servable.mpr ⟨c, member, rfl, fresh, available⟩
  exact List.count_eq_one_of_mem distinct listed

/-- Two providers, one channel out of service and one of the others slower than
the band. -/
def mixedTier : List HubTierChannelCandidate :=
  [{ channelID := 1, provider := 7, weight := 3, realSampleCount := 20, realSuccessRateBps := 9900,
     realFirstTokenSamples := 20, realFirstTokenP95Ms := some 900 },
   { channelID := 2, provider := 7, priority := 5, weight := 1, realSampleCount := 20, realSuccessRateBps := 9900,
     realFirstTokenSamples := 20, realFirstTokenP95Ms := some 4000 },
   { channelID := 3, hardUnavailable := true },
   { channelID := 4, provider := 8 }]

theorem mixedTier_failover_exhaustive :
    failover mixedTier [⟨0, 0⟩, ⟨1, 0⟩, ⟨2, 3⟩] {4} = some [1, 2, 0] ∧
      (∃ returned, failover mixedTier [⟨0, 0⟩, ⟨1, 0⟩, ⟨2, 3⟩] {4} =
          some (returned ++ List.replicate (3 - returned.length) 0) ∧
        (∀ id, returned.count id ≤ 1) ∧
        (∀ id ∈ returned, ∃ c ∈ mixedTier, c.channelID = id ∧ id ∉ ({4} : Finset Nat) ∧ c.hardUnavailable = false) ∧
        (returned.length < 3 ∨ (eligibleCandidates mixedTier {4}).length ≤ 3 →
          ∀ c ∈ mixedTier, c.channelID ∉ ({4} : Finset Nat) → c.hardUnavailable = false →
            returned.count c.channelID = 1)) ∧
      filterHubTierCandidatesByQualityBand mixedTier ⊆ mixedTier ∧
      (mixedTier ≠ [] → filterHubTierCandidatesByQualityBand mixedTier ≠ []) ∧
      filterHubTierCandidatesByQualityBand (filterHubTierCandidatesByQualityBand mixedTier) =
        filterHubTierCandidatesByQualityBand mixedTier :=
  ⟨by decide +kernel,
    tier_failover_exhaustive mixedTier (by decide) (by decide) ⟨by decide, by decide, by decide⟩
      [⟨0, 0⟩, ⟨1, 0⟩, ⟨2, 3⟩] {4}⟩

/-- Weights whose product with the two factors leaves the 64-bit range. -/
def heavyTier : List HubTierChannelCandidate :=
  [{ channelID := 1, weight := 100000000000 }, { channelID := 2, weight := 100000000000 }]

/-- A latency to which the absolute band cannot be added. -/
def lateTier : List HubTierChannelCandidate :=
  [{ channelID := 1, realSampleCount := 20, realSuccessRateBps := 9900, realFirstTokenSamples := 20,
     realFirstTokenP95Ms := some (2 ^ 63 - 1) }]

theorem heavyTier_panics_lateTier_empty :
    (∀ c ∈ heavyTier ++ lateTier, 0 < c.channelID ∧ 0 ≤ c.weight) ∧ LatenciesNonneg (heavyTier ++ lateTier) ∧
      (heavyTier.map (·.channelID)).Nodup ∧ (lateTier.map (·.channelID)).Nodup ∧
      failover heavyTier [⟨0, 0⟩] ∅ = none ∧
      filterHubTierCandidatesByQualityBand lateTier = [] ∧ failover lateTier [⟨0, 0⟩] ∅ = some [0] := by
  refine ⟨by decide, by decide, by decide, by decide, ?_, ?_, ?_⟩ <;> decide +kernel

end LLMHub
