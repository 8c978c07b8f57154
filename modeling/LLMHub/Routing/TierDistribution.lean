import LLMHub.Routing.GroupSelect
import LLMHub.Routing.TierShares
import Mathlib.Data.List.GetD

namespace LLMHub

section Perm

variable {candidates other : List HubTierChannelCandidate}

theorem neg_one_le_bestSuccessRateBps (candidates : List HubTierChannelCandidate) : -1 ≤ bestSuccessRateBps candidates := by
  induction candidates using List.reverseRecOn with
  | nil => exact le_rfl
  | append_singleton candidates c ih =>
    rw [bestSuccessRateBps_concat]
    split
    · omega
    · exact ih

theorem bestSuccessRateBps_le_of_subset (sub : candidates ⊆ other) : bestSuccessRateBps candidates ≤ bestSuccessRateBps other := by
  rcases bestSuccessRateBps_attained candidates with none | ⟨best, member, mature, rate⟩
  · rw [none]
    exact neg_one_le_bestSuccessRateBps other
  · exact rate ▸ le_bestSuccessRateBps (sub member) mature

theorem bestTTFTP95Ms_le_of_subset (sub : other ⊆ candidates) (latencies : LatenciesNonneg candidates)
    (found : bestTTFTP95Ms other ≠ -1) : bestTTFTP95Ms candidates ≤ bestTTFTP95Ms other ∧ bestTTFTP95Ms candidates ≠ -1 := by
  obtain ⟨c, member, measured⟩ := (bestTTFTP95Ms_attained other).resolve_left found
  have bounds := bestTTFTP95Ms_le latencies (sub member) measured
  exact ⟨bounds.2, by omega⟩

theorem bestTTFTP95Ms_perm (perm : candidates.Perm other) (latencies : LatenciesNonneg candidates) :
    bestTTFTP95Ms candidates = bestTTFTP95Ms other := by
  have latencies' : LatenciesNonneg other := fun c member => latencies c (perm.mem_iff.mpr member)
  by_cases none : bestTTFTP95Ms candidates = -1
  · by_cases some : bestTTFTP95Ms other = -1
    · rw [none, some]
    · exact absurd none (bestTTFTP95Ms_le_of_subset perm.symm.subset latencies some).2
  · obtain ⟨lower, some⟩ := bestTTFTP95Ms_le_of_subset perm.subset latencies' none
    exact le_antisymm (bestTTFTP95Ms_le_of_subset perm.symm.subset latencies some).1 lower

/-- The order of the candidates does not matter for the band. -/
theorem filterHubTierCandidatesByQualityBand_perm (perm : candidates.Perm other) (latencies : LatenciesNonneg candidates) :
    (filterHubTierCandidatesByQualityBand candidates).Perm (filterHubTierCandidatesByQualityBand other) := by
  have success : bestSuccessRateBps candidates = bestSuccessRateBps other :=
    le_antisymm (bestSuccessRateBps_le_of_subset perm.subset) (bestSuccessRateBps_le_of_subset perm.symm.subset)
  have stable : (successBand candidates).Perm (successBand other) := by
    unfold successBand
    rw [success]
    exact perm.filter _
  have nonneg : LatenciesNonneg (successBand candidates) := fun c member => latencies c (List.mem_of_mem_filter member)
  by_cases low : bestSuccessRateBps candidates < hubRoutingQualityHealthySuccessBps
  · rw [filterHubTierCandidatesByQualityBand_of_unhealthy low, filterHubTierCandidatesByQualityBand_of_unhealthy (success ▸ low)]
    exact perm
  · rw [filterHubTierCandidatesByQualityBand_of_healthy low, filterHubTierCandidatesByQualityBand_of_healthy (success ▸ low),
      bestTTFTP95Ms_perm stable nonneg]
    split
    · exact stable
    · exact stable.filter _

theorem providerIDs_perm (perm : candidates.Perm other) : providerIDs candidates = providerIDs other := by
  have owners : ((candidates.map (·.provider)).dedup).Perm ((other.map (·.provider)).dedup) := (perm.map _).dedup
  unfold providerIDs
  exact (((List.perm_insertionSort _ _).trans owners).trans (List.perm_insertionSort _ _).symm).eq_of_sortedLE
    List.sortedLE_insertionSort List.sortedLE_insertionSort

theorem highestPriority_perm (perm : candidates.Perm other) : highestPriority candidates = highestPriority other := by
  have spec := highestPriority_spec candidates
  have spec' := highestPriority_spec other
  cases own : highestPriority candidates with
  | none =>
    rw [own] at spec
    cases its : highestPriority other with
    | none => rfl
    | some priority =>
      rw [its] at spec'
      obtain ⟨⟨c, member, available, -⟩, -⟩ := spec'
      exact absurd (spec c (perm.mem_iff.mpr member)) (by simp [available])
  | some priority =>
    rw [own] at spec
    obtain ⟨⟨c, member, available, same⟩, upper⟩ := spec
    cases its : highestPriority other with
    | none =>
      rw [its] at spec'
      exact absurd (spec' c (perm.mem_iff.mp member)) (by simp [available])
    | some priority' =>
      rw [its] at spec'
      obtain ⟨⟨c', member', available', same'⟩, upper'⟩ := spec'
      have le := upper' c (perm.mem_iff.mp member) available
      have ge := upper c' (perm.mem_iff.mpr member') available'
      rw [Option.some.injEq]
      omega

theorem providerTargets_perm (perm : candidates.Perm other) : (providerTargets candidates).Perm (providerTargets other) := by
  unfold providerTargets
  rw [highestPriority_perm perm]
  split
  · exact List.Perm.refl _
  · exact perm.filter _

theorem targetShare_perm (perm : candidates.Perm other) (fits : Fits candidates) : targetShare candidates = targetShare other := by
  have static : allStaticWeightsZero candidates = allStaticWeightsZero other := perm.all_eq
  have total : totalWeight candidates = totalWeight other := by
    rw [totalWeight_eq_sum fits, totalWeight_eq_sum (fits.perm perm), static]
    exact (perm.map _).sum_eq
  unfold targetShare
  rw [static, total, perm.length_eq]

theorem targetDrawBound_perm (perm : candidates.Perm other) (fits : Fits candidates) (some : candidates ≠ []) :
    targetDrawBound candidates = targetDrawBound other := by
  have some' : other ≠ [] := fun none => some (List.perm_nil.mp (none ▸ perm))
  rw [targetDrawBound_eq_sum fits some, targetDrawBound_eq_sum (fits.perm perm) some', targetShare_perm perm fits]
  exact (perm.map _).sum_eq

end Perm

def ownedBy (band : List HubTierChannelCandidate) (owner : Nat) : List HubTierChannelCandidate :=
  band.filter fun candidate => candidate.provider = owner

/-- How many equally likely values the draw of an owner's channel has; for a
single target nothing is drawn. -/
def channelDraws (own : List HubTierChannelCandidate) : Nat :=
  if (providerTargets own).length ≤ 1 then 1 else (targetDrawBound (providerTargets own)).toNat

def choosingDraws (own : List HubTierChannelCandidate) (id : Nat) : Finset Nat :=
  (Finset.range (channelDraws own)).filter fun value => selectHubTierProviderChannel value own = some id

/-- Two bands choose every channel with the same probability: they draw among
the same owners, and of each owner the same numbers of values choose. -/
structure SameDistribution (band other : List HubTierChannelCandidate) : Prop where
  owners : providerIDs band = providerIDs other
  draws : ∀ owner, channelDraws (ownedBy band owner) = channelDraws (ownedBy other owner)
  choosing : ∀ owner id, (choosingDraws (ownedBy band owner) id).card = (choosingDraws (ownedBy other owner) id).card

theorem choosingDraws_card {own : List HubTierChannelCandidate} (fits : Fits own) (several : 1 < (providerTargets own).length)
    (id : Nat) :
    ((choosingDraws own id).card : Int) =
      (((providerTargets own).filter (·.channelID = id)).map (targetShare (providerTargets own))).sum := by
  have some : providerTargets own ≠ [] := List.ne_nil_of_length_pos (by omega)
  have exact := exactTargets (fits.sublist (providerTargets_sublist own)) some
  obtain ⟨first, second, rest, cons⟩ : ∃ first second rest, providerTargets own = first :: second :: rest := by
    match providerTargets own, several with
    | first :: second :: rest, _ => exact ⟨first, second, rest, rfl⟩
  rw [← exact.share ((second :: rest).getLastD first) id]
  congr 2
  unfold choosingDraws channelDraws
  rw [if_neg (by omega)]
  refine Finset.filter_congr fun value within => ?_
  have below : (value : Int) < targetDrawBound (first :: second :: rest) := by
    have := Finset.mem_range.mp within
    rw [cons] at this
    omega
  rw [selectHubTierProviderChannel_draws, cons]
  dsimp only
  rw [Go.intn_of_lt below, Option.map_some, Option.some.injEq]

theorem sameDistribution_of_perm {band other : List HubTierChannelCandidate} (perm : band.Perm other) (fits : Fits band) :
    SameDistribution band other := by
  have owned (owner : Nat) : (ownedBy band owner).Perm (ownedBy other owner) := perm.filter _
  have ownFits (owner : Nat) : Fits (ownedBy band owner) := fits.sublist List.filter_sublist
  have targets (owner : Nat) := providerTargets_perm (owned owner)
  have targetFits (owner : Nat) := (ownFits owner).sublist (providerTargets_sublist (ownedBy band owner))
  refine ⟨providerIDs_perm perm, fun owner => ?_, fun owner id => ?_⟩
  · unfold channelDraws
    rw [(targets owner).length_eq]
    split
    · rfl
    · next several =>
      rw [targetDrawBound_perm (targets owner) (targetFits owner)]
      exact List.ne_nil_of_length_pos (by rw [(targets owner).length_eq]; omega)
  · by_cases several : 1 < (providerTargets (ownedBy band owner)).length
    · have several' := (targets owner).length_eq ▸ several
      have counted := choosingDraws_card (ownFits owner) several id
      rw [targetShare_perm (targets owner) (targetFits owner), (((targets owner).filter _).map _).sum_eq,
        ← choosingDraws_card ((ownFits owner).perm (owned owner)) several' id] at counted
      exact_mod_cast counted
    · -- Nothing is drawn, and there is only one order.
      have same : providerTargets (ownedBy other owner) = providerTargets (ownedBy band owner) := by
        match providerTargets (ownedBy band owner), several, (targets owner).symm with
        | [], _, perm => exact List.perm_nil.mp perm
        | [target], _, perm => exact List.perm_singleton.mp perm
        | first :: second :: rest, few, _ => simp at few
      unfold choosingDraws channelDraws
      simp only [selectHubTierProviderChannel_draws, same]

theorem nodup_providerIDs (candidates : List HubTierChannelCandidate) : (providerIDs candidates).Nodup :=
  (List.perm_insertionSort _ _).nodup_iff.mpr (List.nodup_dedup _)

/-- Each owner has one place in the list of owners. -/
theorem provider_draws_card {candidates : List HubTierChannelCandidate} {owner : Nat} (member : owner ∈ providerIDs candidates) :
    ((Finset.range (providerIDs candidates).length).filter fun index => (providerIDs candidates).getD index 0 = owner).card = 1 := by
  rw [Finset.card_eq_one]
  refine ⟨(providerIDs candidates).idxOf owner, ?_⟩
  have place := List.idxOf_lt_length_iff.mpr member
  ext index
  rw [Finset.mem_filter, Finset.mem_range, Finset.mem_singleton]
  constructor
  · rintro ⟨below, named⟩
    rw [List.getD_eq_getElem _ _ below] at named
    rw [← named, (nodup_providerIDs candidates).idxOf_getElem]
  · rintro rfl
    exact ⟨place, by rw [List.getD_eq_getElem _ _ place, List.getElem_idxOf]⟩

theorem selectHubTierChannelFromEligible_draws (draw : Draw) {band : List HubTierChannelCandidate} (some : band ≠ []) :
    selectHubTierChannelFromEligible draw band =
      (Go.intn (providerIDs band).length draw.provider).bind fun index =>
        selectHubTierProviderChannel draw.channel (ownedBy band ((providerIDs band).getD index 0)) := by
  obtain ⟨c, rest, rfl⟩ := List.exists_cons_of_ne_nil some
  have owner : c.provider ∈ providerIDs (c :: rest) := mem_providerIDs.mpr ⟨c, List.mem_cons_self, rfl⟩
  unfold selectHubTierChannelFromEligible
  cases owners : providerIDs (c :: rest) with
  | nil => simp [owners] at owner
  | cons first others =>
    dsimp only [bind, Option.bind]
    cases drawn : Go.intn (first :: others).length draw.provider with
    | none => rfl
    | some index =>
      have below : index < (first :: others).length := by exact_mod_cast Go.intn_lt drawn
      dsimp only
      rw [List.getD_eq_getElem _ _ below, List.getD_eq_getElem _ _ below]
      rfl

/-- What the checks of a request leave of the prebuilt buckets. -/
def bucketCandidates (buckets : HubTierCandidateBuckets) (excluded : Finset Nat) (filter : ChannelProviderFilter)
    (isEligible : HubTierChannelCandidate → Bool) (decorate : HubTierChannelCandidate → HubTierChannelCandidate) :
    List HubTierChannelCandidate :=
  buckets.providerIDs.flatMap fun providerID =>
    if hubTierBucketProviderMatchesFilter providerID filter then
      (((buckets.candidatesBySource.lookup providerID).getD []).filter fun candidate =>
        candidate.channelID ∉ excluded && isEligible candidate).filterMap fun candidate =>
          if (decorate candidate).hardUnavailable then none else some (decorate candidate)
    else []

theorem selectHubTierChannelFromBuckets_eq (draw : Draw) (buckets : HubTierCandidateBuckets) (excluded : Finset Nat)
    (filter : ChannelProviderFilter) (isEligible : HubTierChannelCandidate → Bool)
    (decorate : HubTierChannelCandidate → HubTierChannelCandidate) :
    selectHubTierChannelFromBuckets draw (some buckets) excluded filter isEligible decorate =
      selectHubTierChannelFromEligible draw
        (filterHubTierCandidatesByQualityBand (bucketCandidates buckets excluded filter isEligible decorate)) :=
  rfl

/-- The weighted choice of a tier is exact: one value for each owner, then the
share of each of the owner's channels of the highest priority; prebuilt buckets
choose as the flat list does. -/
theorem tier_weighted_choice_exact (candidates : List HubTierChannelCandidate) (excluded : Finset Nat)
    (fits : Fits candidates) (latencies : LatenciesNonneg candidates)
    (eligible : eligibleCandidates candidates excluded ≠ []) :
    let band := eligibleBand candidates excluded
    (∀ draw, selectHubTierChannel draw candidates excluded =
      (Go.intn (providerIDs band).length draw.provider).bind fun index =>
        selectHubTierProviderChannel draw.channel (ownedBy band ((providerIDs band).getD index 0))) ∧
    (∀ c ∈ band, ((Finset.range (providerIDs band).length).filter fun index =>
      (providerIDs band).getD index 0 = c.provider).card = 1) ∧
    (∀ c ∈ band, let own := ownedBy band c.provider
      (∀ target, target ∈ providerTargets own ↔ target ∈ own ∧ ∀ o ∈ own, o.priority ≤ target.priority) ∧
      (∀ draw, selectHubTierProviderChannel draw own = match providerTargets own with
        | [] => some 0
        | [target] => some target.channelID
        | first :: rest => (Go.intn (targetDrawBound (first :: rest)) draw).map fun randomWeight : Nat =>
          (weightedTarget (targetShare (first :: rest)) (rest.getLastD first) randomWeight (first :: rest)).channelID) ∧
      ExactTargets (providerTargets own)) ∧
    ∀ buckets others filter isEligible decorate,
      (bucketCandidates buckets others filter isEligible decorate).Perm (eligibleCandidates candidates excluded) →
      ∃ other, (∀ draw, selectHubTierChannelFromBuckets draw (some buckets) others filter isEligible decorate =
          selectHubTierChannelFromEligible draw other) ∧ SameDistribution other band := by
  intro band
  have some : band ≠ [] := mt (eligibleBand_eq_nil fits).mp eligible
  have available : ∀ c ∈ band, c.hardUnavailable = false := fun c member =>
    (mem_eligibleCandidates.mp (eligibleBand_eligible member)).2.2
  have bandFits : Fits band := fits.sublist (eligibleBand_sublist candidates excluded)
  refine ⟨fun draw => selectHubTierChannelFromEligible_draws draw some,
    fun c member => provider_draws_card (mem_providerIDs.mpr ⟨c, member, rfl⟩), fun c member => ?_, ?_⟩
  · have ownAvailable : ∀ o ∈ ownedBy band c.provider, o.hardUnavailable = false := fun o inside =>
      available o (List.mem_of_mem_filter inside)
    refine ⟨fun target => mem_providerTargets ownAvailable, fun draw => selectHubTierProviderChannel_draws draw _,
      exactTargets ((bandFits.sublist List.filter_sublist).sublist (providerTargets_sublist _))
        (providerTargets_ne_nil ownAvailable (List.mem_filter.mpr ⟨member, by simp⟩))⟩
  · intro buckets others filter isEligible decorate perm
    have nonneg : LatenciesNonneg (bucketCandidates buckets others filter isEligible decorate) := fun c member =>
      latencies c (mem_eligibleCandidates.mp (perm.mem_iff.mp member)).1
    have bands := filterHubTierCandidatesByQualityBand_perm perm nonneg
    exact ⟨_, fun draw => selectHubTierChannelFromBuckets_eq draw _ _ _ _ _, sameDistribution_of_perm bands (bandFits.perm bands.symm)⟩

def twoOwners : List HubTierChannelCandidate :=
  [{ channelID := 1, provider := 7, weight := 3 }, { channelID := 2, provider := 7, weight := 0 },
   { channelID := 3, provider := 7, weight := 5 }, { channelID := 4, provider := 8, priority := 2 }]

theorem twoOwners_choice_exact :
    ExactTargets (providerTargets (ownedBy (eligibleBand twoOwners ∅) 7)) ∧
      targetDrawBound (providerTargets (ownedBy (eligibleBand twoOwners ∅) 7)) = 800 ∧
      (providerTargets (ownedBy (eligibleBand twoOwners ∅) 7)).map
        (targetShare (providerTargets (ownedBy (eligibleBand twoOwners ∅) 7))) = [300, 0, 500] := by
  have exact := (tier_weighted_choice_exact twoOwners ∅ ⟨by decide, by decide, by decide⟩ (by decide) (by decide)).2.2.1
    { channelID := 1, provider := 7, weight := 3 } (by decide)
  exact ⟨exact.2.2, by decide +kernel, by decide +kernel⟩

/-- Weights beyond the word give a negative bound, and with a negative latency
the band depends on the order of the candidates. -/
theorem heavy_weights_negative_bound : let heavy : List HubTierChannelCandidate :=
      [{ channelID := 1, weight := 100000000000 }, { channelID := 2, weight := 100000000000 }]
    let measured (id : Nat) (p95 : Int) : HubTierChannelCandidate :=
      { channelID := id, realSampleCount := 20, realSuccessRateBps := 9900, realFirstTokenSamples := 20,
        realFirstTokenP95Ms := some p95 }
    eligibleCandidates heavy ∅ = heavy ∧ targetDrawBound heavy < 0 ∧ selectHubTierChannel ⟨0, 0⟩ heavy ∅ = none ∧
      (filterHubTierCandidatesByQualityBand [measured 1 (-5), measured 2 400, measured 3 1000]).length = 2 ∧
      (filterHubTierCandidatesByQualityBand [measured 2 400, measured 3 1000, measured 1 (-5)]).length = 3 := by
  decide +kernel

end LLMHub
