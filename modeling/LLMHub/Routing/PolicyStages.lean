import LLMHub.Routing.Policy
import LLMHub.Routing.TierChoice
import Mathlib.Tactic.FieldSimp

namespace LLMHub

theorem Thousandths.round_eq {x : ℚ} (grid : Thousandths x) : roundHubTokenMultiplier x = x := by
  obtain ⟨k, rfl⟩ := grid
  have scaled : (k : ℚ) / 1000 * 1000 = k := by ring
  rw [roundHubTokenMultiplier, scaled, Go.round_intCast]

theorem Thousandths.add_step_le {a b : ℚ} (ha : Thousandths a) (hb : Thousandths b) (less : a < b) :
    a + 1 / 1000 ≤ b := by
  obtain ⟨k, rfl⟩ := ha
  obtain ⟨l, rfl⟩ := hb
  have order : k < l := by
    have scaled : (k : ℚ) < l := by linarith
    exact_mod_cast scaled
  have step : (k : ℚ) + 1 ≤ l := by exact_mod_cast order
  linarith

/-- Below the tolerance two prices on the grid coincide. -/
theorem Thousandths.eq_of_close {a b : ℚ} (ha : Thousandths a) (hb : Thousandths b)
    (close : |a - b| < hubTokenMultiplierTolerance) : a = b := by
  obtain ⟨low, high⟩ := abs_lt.mp close
  simp only [hubTokenMultiplierTolerance] at low high
  rcases lt_trichotomy a b with less | same | more
  · have := ha.add_step_le hb less
    linarith
  · exact same
  · have := hb.add_step_le ha more
    linarith

theorem Thousandths.lt_sub_tolerance {a b : ℚ} (ha : Thousandths a) (hb : Thousandths b) :
    a < b - hubTokenMultiplierTolerance ↔ a < b := by
  simp only [hubTokenMultiplierTolerance]
  constructor
  · intro less
    linarith
  · intro less
    have := ha.add_step_le hb less
    linarith

theorem Thousandths.le_add_tolerance {a b : ℚ} (ha : Thousandths a) (hb : Thousandths b) :
    a ≤ b + hubTokenMultiplierTolerance ↔ a ≤ b := by
  simp only [hubTokenMultiplierTolerance]
  constructor
  · intro below
    by_contra above
    have := hb.add_step_le ha (not_le.mp above)
    linarith
  · intro below
    linarith

variable {modelName : String} {configured : Bool} {candidates : List HubTierChannelCandidate} {excluded : Finset Nat}

/-- The prices come from the selected channels that offer the model. -/
theorem mem_orderedMultipliersWith {policy : HubTokenRoutingPolicy} {value : ℚ} :
    value ∈ policy.orderedMultipliersWith modelName configured ↔
      ∃ channel ∈ policy.channels, channel.offer modelName configured = some value := by
  unfold HubTokenRoutingPolicy.orderedMultipliersWith
  induction policy.channels using List.reverseRecOn with
  | nil => simp
  | append_singleton channels last ih =>
    rw [List.foldl_append, List.foldl_cons, List.foldl_nil]
    simp only [List.mem_append, List.mem_singleton, or_and_right, exists_or, exists_eq_left, ← ih]
    cases offered : last.offer modelName configured with
    | none => simp
    | some offer =>
      dsimp only
      split
      · next already =>
        constructor
        · exact Or.inl
        · rintro (member | same)
          · exact member
          · exact Option.some.inj same ▸ already
      · simp [eq_comm]

theorem HubTokenRoutingChannel.offer_some {channel : HubTokenRoutingChannel}
    {value : ℚ} (offered : channel.offer modelName configured = some value) :
    (channel.modelsFor configured).any (hubRoutingModelMatches · modelName) = true ∧
      value = roundHubTokenMultiplier channel.multiplier := by
  unfold offer at offered
  split at offered
  · next offers => exact ⟨(Bool.and_eq_true_iff.mp offers).2, (Option.some.inj offered).symm⟩
  · exact absurd offered (by simp)

theorem orderedMultipliersWith_thousandths {policy : HubTokenRoutingPolicy}
    {value : ℚ} (member : value ∈ policy.orderedMultipliersWith modelName configured) : Thousandths value := by
  obtain ⟨channel, -, offered⟩ := mem_orderedMultipliersWith.mp member
  exact (channel.offer_some offered).2 ▸ Thousandths.round _

theorem affinityTarget_some {band : List HubTierChannelCandidate} {preferredChannelID : Nat}
    {c : HubTierChannelCandidate} (found : affinityTarget band preferredChannelID = some c) :
    c ∈ band ∧ c.channelID = preferredChannelID ∧ ∀ o ∈ band, o.provider = c.provider → o.priority ≤ c.priority := by
  have named := List.find?_some found
  simp only [Bool.and_eq_true, decide_eq_true_eq, Bool.not_eq_true', List.any_eq_false] at named
  refine ⟨List.mem_of_find?_eq_some found, named.1, fun o member same => ?_⟩
  have notAbove := named.2 o member
  exact le_of_not_gt fun above => notAbove ⟨same, above⟩

/-- With affinity a stage answers as without it, or with the affinity channel
where the band allows it. -/
theorem selectHubPolicyStageChannel_affinity (draw : Draw) (candidates : List HubTierChannelCandidate)
    (excluded : Finset Nat) (preferredChannelID : Nat) :
    selectHubPolicyStageChannel draw candidates excluded preferredChannelID =
        selectHubTierChannel draw candidates excluded ∨
      ∃ c ∈ eligibleBand candidates excluded, c.channelID = preferredChannelID ∧
        selectHubPolicyStageChannel draw candidates excluded preferredChannelID = some c.channelID ∧
        ∀ o ∈ eligibleBand candidates excluded, o.provider = c.provider → o.priority ≤ c.priority := by
  unfold selectHubPolicyStageChannel
  split
  · exact Or.inl rfl
  · dsimp only
    cases found : affinityTarget (filterHubTierCandidatesByQualityBand (eligibleCandidates candidates excluded))
        preferredChannelID with
    | none => exact Or.inl rfl
    | some c =>
      obtain ⟨member, named, top⟩ := affinityTarget_some found
      exact Or.inr ⟨c, member, named, rfl, top⟩

theorem selectHubPolicyStageChannel_returns {draw : Draw} {preferredChannelID id : Nat}
    (selected : selectHubPolicyStageChannel draw candidates excluded preferredChannelID = some id) :
    (id = 0 ∧ eligibleBand candidates excluded = []) ∨ ∃ c ∈ eligibleBand candidates excluded, c.channelID = id := by
  rcases selectHubPolicyStageChannel_affinity draw candidates excluded preferredChannelID with plain | ⟨c, member, -, taken, -⟩
  · rw [plain] at selected
    exact (selectHubTierChannel_returns selected).imp_right fun ⟨c, member, named, _⟩ => ⟨c, member, named⟩
  · rw [taken] at selected
    exact Or.inr ⟨c, member, Option.some.inj selected⟩

theorem selectHubPolicyStageChannel_isSome (fits : Fits candidates)
    (draw : Draw) (excluded : Finset Nat) (preferredChannelID : Nat) :
    ∃ id, selectHubPolicyStageChannel draw candidates excluded preferredChannelID = some id := by
  rcases selectHubPolicyStageChannel_affinity draw candidates excluded preferredChannelID with plain | ⟨c, -, -, taken, -⟩
  · rw [plain]
    exact selectHubTierChannel_isSome fits draw excluded
  · exact ⟨c.channelID, taken⟩

def stageCandidates (candidates : List HubTierChannelCandidate) (excluded : Finset Nat) (multiplier : ℚ) :
    List HubTierChannelCandidate :=
  eligibleCandidates (priceStage candidates multiplier) excluded

/-- The stages are taken in order: the answer comes from the first that has a
candidate left, whatever the affinity, and is 0 when none has. -/
theorem selectPriceStages_spec
    (positive : ∀ c ∈ candidates, 0 < c.channelID) (fits : Fits candidates) (draws : Nat → Draw)
    (preferredChannelID stage : Nat) (multipliers : List ℚ) :
    ∃ id, selectPriceStages draws candidates excluded preferredChannelID stage multipliers = some id ∧
      ((id = 0 ∧ ∀ m ∈ multipliers, stageCandidates candidates excluded m = []) ∨
        ∃ before m after, multipliers = before ++ m :: after ∧
          (∀ b ∈ before, stageCandidates candidates excluded b = []) ∧
          ∃ c ∈ stageCandidates candidates excluded m, c.channelID = id) := by
  induction multipliers generalizing stage with
  | nil => exact ⟨0, rfl, Or.inl ⟨rfl, by simp⟩⟩
  | cons multiplier rest ih =>
    have stageFits : Fits (priceStage candidates multiplier) := fits.sublist List.filter_sublist
    obtain ⟨id, selected⟩ := selectHubPolicyStageChannel_isSome stageFits (draws stage) excluded preferredChannelID
    rcases selectHubPolicyStageChannel_returns selected with ⟨rfl, none⟩ | ⟨c, member, named⟩
    · have nobody : stageCandidates candidates excluded multiplier = [] := (eligibleBand_eq_nil stageFits).mp none
      obtain ⟨later, run, answer⟩ := ih (stage + 1)
      refine ⟨later, ?_, ?_⟩
      · simp only [selectPriceStages, selected, Option.bind_eq_bind, Option.bind_some, ne_eq, not_true, if_false, run]
      · rcases answer with ⟨zero, all⟩ | ⟨before, m, after, split, skipped, found⟩
        · exact Or.inl ⟨zero, by simpa [nobody] using all⟩
        · exact Or.inr ⟨multiplier :: before, m, after, by rw [split]; rfl, by simpa [nobody] using skipped, found⟩
    · have eligible := eligibleBand_eligible member
      have staged := (mem_eligibleCandidates.mp eligible).1
      have nonzero : id ≠ 0 := named ▸ (positive c (List.mem_of_mem_filter staged)).ne'
      refine ⟨id, ?_, Or.inr ⟨[], multiplier, rest, rfl, by simp, c, eligible, named⟩⟩
      simp only [selectPriceStages, selected, Option.bind_eq_bind, Option.bind_some, ne_eq, nonzero, not_false_eq_true,
        if_true, Option.pure_def]

/-- Affinity leaves the answer of the draw, or is the answer itself: then the
first stage with a candidate left has it in its band, unoutranked. -/
theorem selectPriceStages_affinity
    (positive : ∀ c ∈ candidates, 0 < c.channelID) (fits : Fits candidates) (draws : Nat → Draw)
    (preferredChannelID stage : Nat) (multipliers : List ℚ) :
    selectPriceStages draws candidates excluded preferredChannelID stage multipliers =
        selectPriceStages draws candidates excluded 0 stage multipliers ∨
      ∃ before m after, multipliers = before ++ m :: after ∧
        (∀ b ∈ before, stageCandidates candidates excluded b = []) ∧
        ∃ c ∈ eligibleBand (priceStage candidates m) excluded, c.channelID = preferredChannelID ∧
          selectPriceStages draws candidates excluded preferredChannelID stage multipliers = some c.channelID ∧
          ∀ o ∈ eligibleBand (priceStage candidates m) excluded, o.provider = c.provider → o.priority ≤ c.priority := by
  induction multipliers generalizing stage with
  | nil => exact Or.inl rfl
  | cons multiplier rest ih =>
    have stageFits : Fits (priceStage candidates multiplier) := fits.sublist List.filter_sublist
    have plain : selectHubPolicyStageChannel (draws stage) (priceStage candidates multiplier) excluded 0 =
        selectHubTierChannel (draws stage) (priceStage candidates multiplier) excluded := rfl
    rcases selectHubPolicyStageChannel_affinity (draws stage) (priceStage candidates multiplier) excluded
      preferredChannelID with same | ⟨c, member, named, taken, top⟩
    · obtain ⟨id, selected⟩ := selectHubTierChannel_isSome stageFits (draws stage) excluded
      by_cases zero : id = 0
      · subst zero
        have nobody : stageCandidates candidates excluded multiplier = [] := by
          rcases selectHubTierChannel_returns selected with ⟨-, none⟩ | ⟨c, member, named, -⟩
          · exact (eligibleBand_eq_nil stageFits).mp none
          · have staged := (mem_eligibleCandidates.mp (eligibleBand_eligible member)).1
            exact absurd named (positive c (List.mem_of_mem_filter staged)).ne'
        simp only [selectPriceStages, same, plain, selected, Option.bind_eq_bind, Option.bind_some, ne_eq, not_true,
          if_false]
        refine (ih (stage + 1)).imp_right ?_
        rintro ⟨before, m, after, split, skipped, answer⟩
        exact ⟨multiplier :: before, m, after, by rw [split]; rfl, by simpa [nobody] using skipped, answer⟩
      · refine Or.inl ?_
        simp only [selectPriceStages, same, plain, selected, Option.bind_eq_bind, Option.bind_some, ne_eq, zero,
          not_false_eq_true, if_true]
    · have staged := (mem_eligibleCandidates.mp (eligibleBand_eligible member)).1
      have nonzero : c.channelID ≠ 0 := (positive c (List.mem_of_mem_filter staged)).ne'
      refine Or.inr ⟨[], multiplier, rest, rfl, by simp, c, member, named, ?_, top⟩
      simp only [selectPriceStages, taken, Option.bind_eq_bind, Option.bind_some, ne_eq, nonzero, not_false_eq_true,
        if_true, Option.pure_def]

end LLMHub
