import LLMHub.Routing.QualityBand
import Mathlib.Algebra.Order.BigOperators.Group.List

namespace LLMHub

theorem highestPriority_concat (candidates : List HubTierChannelCandidate) (c : HubTierChannelCandidate) :
    highestPriority (candidates ++ [c]) =
      if c.hardUnavailable then highestPriority candidates
      else match highestPriority candidates with
        | none => some c.priority
        | some priority => if c.priority > priority then some c.priority else some priority :=
  List.foldl_append

/-- The highest priority is that of an available candidate, and no available
candidate is above it. -/
theorem highestPriority_spec (candidates : List HubTierChannelCandidate) :
    match highestPriority candidates with
    | none => ∀ c ∈ candidates, c.hardUnavailable = true
    | some priority =>
      (∃ c ∈ candidates, c.hardUnavailable = false ∧ c.priority = priority) ∧
        ∀ c ∈ candidates, c.hardUnavailable = false → c.priority ≤ priority := by
  induction candidates using List.reverseRecOn with
  | nil => simp [highestPriority]
  | append_singleton candidates last ih =>
    rw [highestPriority_concat]
    cases hard : last.hardUnavailable with
    | true =>
      rw [if_pos rfl]
      cases highest : highestPriority candidates with
      | none =>
        rw [highest] at ih
        intro o inside
        rcases List.mem_append.mp inside with earlier | new
        · exact ih o earlier
        · rw [List.mem_singleton.mp new]
          exact hard
      | some priority =>
        rw [highest] at ih
        obtain ⟨⟨c, member, available, same⟩, upper⟩ := ih
        refine ⟨⟨c, by simp [member], available, same⟩, fun o inside serving => ?_⟩
        rcases List.mem_append.mp inside with earlier | new
        · exact upper o earlier serving
        · obtain rfl := List.mem_singleton.mp new
          exact absurd hard (by simp [serving])
    | false =>
      rw [if_neg (by simp)]
      cases highest : highestPriority candidates with
      | none =>
        rw [highest] at ih
        refine ⟨⟨last, by simp, hard, rfl⟩, fun o inside serving => ?_⟩
        rcases List.mem_append.mp inside with earlier | new
        · exact absurd (ih o earlier) (by simp [serving])
        · rw [List.mem_singleton.mp new]
      | some priority =>
        rw [highest] at ih
        obtain ⟨⟨c, member, available, same⟩, upper⟩ := ih
        have bounds : ∀ p, priority ≤ p → last.priority ≤ p → ∀ o ∈ candidates ++ [last],
            o.hardUnavailable = false → o.priority ≤ p := by
          intro p above lastAbove o inside serving
          rcases List.mem_append.mp inside with earlier | new
          · exact (upper o earlier serving).trans above
          · rw [List.mem_singleton.mp new]
            exact lastAbove
        dsimp only
        by_cases better : last.priority > priority
        · rw [if_pos better]
          exact ⟨⟨last, by simp, hard, rfl⟩, bounds _ better.le le_rfl⟩
        · rw [if_neg better]
          exact ⟨⟨c, by simp [member], available, same⟩, bounds _ le_rfl (by omega)⟩

variable {targets rest candidates : List HubTierChannelCandidate} {first c : HubTierChannelCandidate}
  {excluded : Finset Nat}

theorem weightedTarget_mem {weight : HubTierChannelCandidate → Int} {last : HubTierChannelCandidate}
    {all : List HubTierChannelCandidate} (lastInside : last ∈ all) (inside : targets ⊆ all)
    (randomWeight : Int) : weightedTarget weight last randomWeight targets ∈ all := by
  induction targets generalizing randomWeight with
  | nil => exact lastInside
  | cons candidate rest ih =>
    unfold weightedTarget
    dsimp only
    split
    · exact inside List.mem_cons_self
    · exact ih (fun c member => inside (List.mem_cons_of_mem candidate member)) _

theorem drawTarget_mem {draw : Nat} {target : HubTierChannelCandidate}
    (drawn : drawTarget draw first rest = some target) : target ∈ first :: rest := by
  obtain ⟨randomWeight, -, rfl⟩ := Option.map_eq_some_iff.mp drawn
  exact weightedTarget_mem List.getLastD_mem_cons (List.Subset.refl _) _

/-- Inside the 64-bit range a target weighs between one and what the range
leaves for each of the candidates. -/
theorem HubTierChannelCandidate.effectiveWeight_bounds (staticZero : Bool)
    (fits : max c.weight 100 * c.availability * c.latency + 50000000 < 2 ^ 63) :
    0 ≤ c.effectiveWeight staticZero ∧ c.effectiveWeight staticZero ≤ 92233720368 ∧
      (staticZero = true ∨ 0 < c.weight → 0 < c.effectiveWeight staticZero) := by
  have availabilityPos : 0 < c.availability := by
    unfold availability
    split
    · decide
    · omega
  have latencyPos : 0 < c.latency := by
    unfold latency
    split
    · decide
    · omega
  have base : ∀ b, 0 < b → b ≤ max c.weight 100 →
      0 < calculateHubRoutingEffectiveWeight b c.availability c.latency ∧
        calculateHubRoutingEffectiveWeight b c.availability c.latency ≤ 92233720368 := by
    intro b positive below
    have product : 0 ≤ b * c.availability * c.latency :=
      Int.mul_nonneg (Int.mul_nonneg positive.le availabilityPos.le) latencyPos.le
    have bounded : b * c.availability * c.latency ≤ max c.weight 100 * c.availability * c.latency :=
      Int.mul_le_mul_of_nonneg_right (Int.mul_le_mul_of_nonneg_right below availabilityPos.le) latencyPos.le
    unfold calculateHubRoutingEffectiveWeight
    rw [if_neg (by omega), Go.int64_eq_self (by omega) (by omega), Int.tdiv_eq_ediv_of_nonneg (by omega)]
    dsimp only
    split <;> omega
  cases staticZero with
  | true =>
    have weighs := base 100 (by decide) (le_max_right _ _)
    exact ⟨weighs.1.le, weighs.2, fun _ => weighs.1⟩
  | false =>
    by_cases positive : 0 < c.weight
    · have weighs := base c.weight positive (le_max_left _ _)
      exact ⟨weighs.1.le, weighs.2, fun _ => weighs.1⟩
    · have none : c.effectiveWeight false = 0 := by
        unfold effectiveWeight calculateHubRoutingEffectiveWeight
        exact if_pos (Or.inl (by simpa using positive))
      rw [none]
      exact ⟨le_rfl, by decide, fun weighted => absurd weighted (by simp [positive])⟩

theorem Fits.effectiveWeight (fits : Fits targets) (staticZero : Bool) :
    ∀ c ∈ targets, 0 ≤ c.effectiveWeight staticZero ∧ c.effectiveWeight staticZero ≤ 92233720368 := fun c member =>
  have bounds := c.effectiveWeight_bounds staticZero (fits.weight c member)
  ⟨bounds.1, bounds.2.1⟩

theorem totalWeight_eq_sum (fits : Fits targets) :
    totalWeight targets = (targets.map fun c => c.effectiveWeight (allStaticWeightsZero targets)).sum := by
  have few := fits.few
  rw [totalWeight, Go.foldl_int64_add (fun c => c.effectiveWeight (allStaticWeightsZero targets)) 92233720368 targets
    (fits.effectiveWeight _) 0 le_rfl (by omega), Int.zero_add]

theorem totalWeight_pos (fits : Fits (first :: rest)) :
    0 < totalWeight (first :: rest) ∧ totalWeight (first :: rest) < 2 ^ 63 := by
  set targets := first :: rest with named
  have few := fits.few
  have small := fits.effectiveWeight (allStaticWeightsZero targets)
  -- Some target weighs: one with a static weight, or any where there is none.
  obtain ⟨c, member, weighs⟩ : ∃ c ∈ targets, 0 < c.effectiveWeight (allStaticWeightsZero targets) := by
    cases zero : allStaticWeightsZero targets with
    | true =>
      have inside : first ∈ targets := by simp [named]
      exact ⟨first, inside, (first.effectiveWeight_bounds true (fits.weight first inside)).2.2 (Or.inl rfl)⟩
    | false =>
      obtain ⟨c, member, weighted⟩ := List.all_eq_false.mp zero
      have positive : 0 < c.weight := by simpa using weighted
      exact ⟨c, member, (c.effectiveWeight_bounds false (fits.weight c member)).2.2 (Or.inr positive)⟩
  have upper := List.sum_le_card_nsmul (targets.map fun c => c.effectiveWeight (allStaticWeightsZero targets))
    92233720368 (by simpa using fun c inside => (small c inside).2)
  have lower := List.single_le_sum (l := targets.map fun c => c.effectiveWeight (allStaticWeightsZero targets))
    (by simpa using fun c inside => (small c inside).1) _ (List.mem_map_of_mem member)
  rw [List.length_map, nsmul_eq_mul] at upper
  rw [totalWeight_eq_sum fits]
  exact ⟨by omega, by omega⟩

def targetShare (targets : List HubTierChannelCandidate) (candidate : HubTierChannelCandidate) : Int :=
  let smooth := smoothing targets.length (totalWeight targets)
  candidate.effectiveWeight (allStaticWeightsZero targets) * smooth.factor + smooth.adjustment

def targetDrawBound (targets : List HubTierChannelCandidate) : Int :=
  let smooth := smoothing targets.length (totalWeight targets)
  Go.int64 (smooth.sumWeight * smooth.factor)

theorem drawTarget_eq (draw : Nat) (first : HubTierChannelCandidate) (rest : List HubTierChannelCandidate) :
    drawTarget draw first rest = (Go.intn (targetDrawBound (first :: rest)) draw).map fun randomWeight : Nat =>
      weightedTarget (targetShare (first :: rest)) (rest.getLastD first) randomWeight (first :: rest) := by
  change Option.map _ ((Go.intn (targetDrawBound (first :: rest)) draw).bind _) = _
  cases Go.intn (targetDrawBound (first :: rest)) draw <;> rfl

/-- The targets weigh something, so the weights are only scaled, and the scaled
sum stays inside the word. -/
theorem targetDrawBound_scaled (fits : Fits (first :: rest)) :
    ∃ factor : Int, (factor = 1 ∨ factor = 100) ∧
      targetDrawBound (first :: rest) = totalWeight (first :: rest) * factor ∧
      ∀ c, targetShare (first :: rest) c = c.effectiveWeight (allStaticWeightsZero (first :: rest)) * factor := by
  obtain ⟨positive, bounded⟩ := totalWeight_pos fits
  have few := fits.few
  have count : 0 < (first :: rest).length := by simp
  unfold targetDrawBound targetShare smoothing
  rw [if_neg (by omega)]
  split
  · next small =>
    -- The average is below ten, so a hundredfold sum is small again.
    rw [Int.tdiv_eq_ediv_of_nonneg positive.le, Int.ediv_lt_iff_lt_mul (by omega)] at small
    exact ⟨100, Or.inr rfl, Go.int64_eq_self (by dsimp only; omega) (by dsimp only; omega), fun c => add_zero _⟩
  · exact ⟨1, Or.inl rfl, Go.int64_eq_self (by dsimp only; omega) (by dsimp only; omega), fun c => add_zero _⟩

theorem targetDrawBound_pos (fits : Fits (first :: rest)) : 0 < targetDrawBound (first :: rest) := by
  obtain ⟨positive, -⟩ := totalWeight_pos fits
  obtain ⟨factor, rfl | rfl, bound, -⟩ := targetDrawBound_scaled fits <;> rw [bound] <;> omega

theorem drawTarget_isSome
    (fits : Fits (first :: rest)) (draw : Nat) : ∃ target, drawTarget draw first rest = some target := by
  obtain ⟨randomWeight, drawn⟩ := Go.intn_of_pos (targetDrawBound_pos fits) draw
  rw [drawTarget_eq, drawn]
  exact ⟨_, rfl⟩

/-- The targets of a provider: its available candidates of the highest priority. -/
theorem mem_targets {priority : Int} :
    c ∈ candidates.filter (fun candidate => !candidate.hardUnavailable && candidate.priority = priority) ↔
      c ∈ candidates ∧ c.hardUnavailable = false ∧ c.priority = priority := by
  simp

/-- A returned channel is an available candidate that no other available
candidate of the list outranks; only a list without one gives 0. -/
theorem selectHubTierProviderChannel_returns {draw id : Nat}
    (selected : selectHubTierProviderChannel draw candidates = some id) :
    (id = 0 ∧ ∀ c ∈ candidates, c.hardUnavailable = true) ∨
      ∃ c ∈ candidates, c.channelID = id ∧ c.hardUnavailable = false ∧
        ∀ o ∈ candidates, o.hardUnavailable = false → o.priority ≤ c.priority := by
  have spec := highestPriority_spec candidates
  unfold selectHubTierProviderChannel at selected
  cases highest : highestPriority candidates with
  | none =>
    rw [highest] at spec selected
    exact Or.inl ⟨(Option.some.inj selected).symm, spec⟩
  | some priority =>
    rw [highest] at spec selected
    obtain ⟨⟨best, member, available, same⟩, upper⟩ := spec
    have chosen : ∀ c ∈ candidates.filter
        (fun candidate => !candidate.hardUnavailable && candidate.priority = priority),
        c.channelID = id → ∃ c ∈ candidates, c.channelID = id ∧ c.hardUnavailable = false ∧
          ∀ o ∈ candidates, o.hardUnavailable = false → o.priority ≤ c.priority := by
      intro c target named
      obtain ⟨inside, serving, atTop⟩ := mem_targets.mp target
      exact ⟨c, inside, named, serving, fun o other free => atTop ▸ upper o other free⟩
    refine Or.inr ?_
    dsimp only at selected
    generalize targets : candidates.filter
      (fun candidate => !candidate.hardUnavailable && candidate.priority = priority) = list at selected chosen
    match list, selected with
    | [], _ =>
      have inside := mem_targets.mpr ⟨member, available, same⟩
      rw [targets] at inside
      exact absurd inside (by simp)
    | [target], only => exact chosen target (by simp) (Option.some.inj only)
    | first :: second :: rest, drawn =>
      obtain ⟨target, picked, named⟩ := Option.map_eq_some_iff.mp drawn
      exact chosen target (drawTarget_mem picked) named

theorem selectHubTierProviderChannel_isSome (fits : Fits candidates)
    (draw : Nat) : ∃ id, selectHubTierProviderChannel draw candidates = some id := by
  unfold selectHubTierProviderChannel
  cases highestPriority candidates with
  | none => exact ⟨0, rfl⟩
  | some priority =>
    dsimp only
    have fewer : Fits (candidates.filter
        (fun candidate => !candidate.hardUnavailable && candidate.priority = priority)) :=
      fits.sublist List.filter_sublist
    generalize candidates.filter
      (fun candidate => !candidate.hardUnavailable && candidate.priority = priority) = list at fewer
    match list, fewer with
    | [], _ => exact ⟨0, rfl⟩
    | [target], _ => exact ⟨target.channelID, rfl⟩
    | first :: second :: rest, several =>
      obtain ⟨target, drawn⟩ := drawTarget_isSome several draw
      exact ⟨target.channelID, Option.map_eq_some_iff.mpr ⟨target, drawn, rfl⟩⟩

theorem mem_providerIDs {providerID : Nat} :
    providerID ∈ providerIDs candidates ↔ ∃ c ∈ candidates, c.provider = providerID := by
  simp [providerIDs]

theorem selectHubTierChannelFromEligible_returns {draw : Draw} {id : Nat}
    (available : ∀ c ∈ candidates, c.hardUnavailable = false)
    (selected : selectHubTierChannelFromEligible draw candidates = some id) :
    (id = 0 ∧ candidates = []) ∨
      ∃ c ∈ candidates, c.channelID = id ∧ ∀ o ∈ candidates, o.provider = c.provider → o.priority ≤ c.priority := by
  unfold selectHubTierChannelFromEligible at selected
  cases providers : providerIDs candidates with
  | nil =>
    rw [providers] at selected
    refine Or.inl ⟨(Option.some.inj selected).symm, List.eq_nil_iff_forall_not_mem.mpr fun c member => ?_⟩
    have owner := mem_providerIDs.mpr ⟨c, member, rfl⟩
    rw [providers] at owner
    exact absurd owner (by simp)
  | cons first rest =>
    rw [providers] at selected
    obtain ⟨index, drawn, picked⟩ := Option.bind_eq_some_iff.mp selected
    have below : index < (first :: rest).length := by exact_mod_cast Go.intn_lt drawn
    have present : (first :: rest).getD index first ∈ providerIDs candidates := by
      rw [providers, List.getD_eq_getElem?_getD, List.getElem?_eq_getElem below]
      exact List.getElem_mem below
    obtain ⟨owner, member, owned⟩ := mem_providerIDs.mp present
    rcases selectHubTierProviderChannel_returns picked with ⟨-, down⟩ | ⟨c, inside, named, -, upper⟩
    · have hard := down owner (List.mem_filter.mpr ⟨member, by simpa using owned⟩)
      exact absurd hard (by simp [available owner member])
    · obtain ⟨candidate, ours⟩ := List.mem_filter.mp inside
      refine Or.inr ⟨c, candidate, named, fun o other same => upper o ?_ (available o other)⟩
      have provider : c.provider = (first :: rest).getD index first := by simpa using ours
      exact List.mem_filter.mpr ⟨other, by simpa [same] using provider⟩

theorem selectHubTierChannelFromEligible_isSome (fits : Fits candidates)
    (draw : Draw) : ∃ id, selectHubTierChannelFromEligible draw candidates = some id := by
  unfold selectHubTierChannelFromEligible
  cases providerIDs candidates with
  | nil => exact ⟨0, rfl⟩
  | cons first rest =>
    have some : (0 : Int) < (first :: rest).length := by simp
    obtain ⟨index, drawn⟩ := Go.intn_of_pos some draw.provider
    obtain ⟨id, selected⟩ := selectHubTierProviderChannel_isSome
      (fits.sublist (List.filter_sublist (p := fun candidate => candidate.provider = (first :: rest).getD index first)))
      draw.channel
    exact ⟨id, Option.bind_eq_some_iff.mpr ⟨index, drawn, selected⟩⟩

theorem mem_eligibleCandidates :
    c ∈ eligibleCandidates candidates excluded ↔
      c ∈ candidates ∧ c.channelID ∉ excluded ∧ c.hardUnavailable = false := by
  simp [eligibleCandidates]

def eligibleBand (candidates : List HubTierChannelCandidate) (excluded : Finset Nat) : List HubTierChannelCandidate :=
  filterHubTierCandidatesByQualityBand (eligibleCandidates candidates excluded)

theorem eligibleBand_sublist (candidates : List HubTierChannelCandidate) (excluded : Finset Nat) :
    (eligibleBand candidates excluded).Sublist candidates :=
  (filterHubTierCandidatesByQualityBand_sublist _).trans List.filter_sublist

theorem eligibleBand_eligible (member : c ∈ eligibleBand candidates excluded) :
    c ∈ eligibleCandidates candidates excluded :=
  (filterHubTierCandidatesByQualityBand_sublist _).subset member

theorem eligibleBand_eq_nil (fits : Fits candidates) :
    eligibleBand candidates excluded = [] ↔ eligibleCandidates candidates excluded = [] := by
  constructor
  · intro none
    by_contra some
    exact filterHubTierCandidatesByQualityBand_ne_nil (fits.sublist List.filter_sublist) some none
  · intro none
    have sub := filterHubTierCandidatesByQualityBand_sublist (eligibleCandidates candidates excluded)
    exact List.sublist_nil.mp (none ▸ sub)

theorem selectHubTierChannel_returns {draw : Draw}
    {id : Nat} (selected : selectHubTierChannel draw candidates excluded = some id) :
    (id = 0 ∧ eligibleBand candidates excluded = []) ∨
      ∃ c ∈ eligibleBand candidates excluded, c.channelID = id ∧
        ∀ o ∈ eligibleBand candidates excluded, o.provider = c.provider → o.priority ≤ c.priority :=
  selectHubTierChannelFromEligible_returns
    (fun _ member => (mem_eligibleCandidates.mp (eligibleBand_eligible member)).2.2) selected

theorem selectHubTierChannel_isSome (fits : Fits candidates)
    (draw : Draw) (excluded : Finset Nat) : ∃ id, selectHubTierChannel draw candidates excluded = some id :=
  selectHubTierChannelFromEligible_isSome (fits.sublist (eligibleBand_sublist candidates excluded)) draw

end LLMHub
