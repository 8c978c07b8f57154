import LLMHub.Routing.PolicyStages

namespace LLMHub

def Usable (excluded : Finset Nat) (c : HubTierChannelCandidate) : Prop :=
  c.channelID ∉ excluded ∧ c.hardUnavailable = false

/-- All candidates are priced on the grid of the price step. -/
def PricedOnGrid (candidates : List HubTierChannelCandidate) : Prop :=
  ∀ c ∈ candidates, 0 < c.multiplier ∧ Thousandths c.multiplier

variable {candidates : List HubTierChannelCandidate} {excluded : Finset Nat} {c : HubTierChannelCandidate}
  {policy : HubTokenRoutingPolicy} {modelName : String} {preferred : ℚ} {preferredChannelID : Nat}
  {draws : Nat → Draw}

/-- On the grid the stage of a price consists of the candidates at that price. -/
theorem mem_stageCandidates {m : ℚ} (grid : PricedOnGrid candidates) (price : Thousandths m) :
    c ∈ stageCandidates candidates excluded m ↔ c ∈ candidates ∧ c.multiplier = m ∧ Usable excluded c := by
  simp only [stageCandidates, mem_eligibleCandidates, priceStage, List.mem_filter, decide_eq_true_eq, Usable, and_assoc]
  refine and_congr_right fun member => and_congr_left fun _ => ?_
  constructor
  · exact (grid c member).2.eq_of_close price
  · rintro rfl
    simp [hubTokenMultiplierTolerance]

def NobodyAt (candidates : List HubTierChannelCandidate) (excluded : Finset Nat) (m : ℚ) : Prop :=
  ∀ c ∈ candidates, c.multiplier = m → ¬Usable excluded c

/-- The price stands in the list behind prices at which nobody is left. -/
def FirstServed (candidates : List HubTierChannelCandidate) (excluded : Finset Nat) (multipliers : List ℚ) (m : ℚ) :
    Prop :=
  ∃ before after, multipliers = before ++ m :: after ∧ ∀ b ∈ before, NobodyAt candidates excluded b

theorem stageCandidates_eq_nil {m : ℚ} (grid : PricedOnGrid candidates) (price : Thousandths m) :
    stageCandidates candidates excluded m = [] ↔ NobodyAt candidates excluded m := by
  simp only [List.eq_nil_iff_forall_not_mem, mem_stageCandidates grid price, not_and, NobodyAt]

theorem firstServed_of_skipped {before after multipliers : List ℚ} {m : ℚ} (grid : PricedOnGrid candidates)
    (prices : ∀ m ∈ multipliers, Thousandths m) (split : multipliers = before ++ m :: after)
    (skipped : ∀ b ∈ before, stageCandidates candidates excluded b = []) :
    FirstServed candidates excluded multipliers m :=
  ⟨before, after, split, fun b earlier =>
    (stageCandidates_eq_nil grid (prices b (by simp [split, earlier]))).mp (skipped b earlier)⟩

theorem fallbackMaxMultiplier_mem (policy : HubTokenRoutingPolicy) (modelName : String) (preferred : ℚ) :
    fallbackMaxMultiplier policy modelName preferred ∈ preferred :: policy.orderedMultipliers modelName := by
  refine List.foldlRecOn _ _ List.mem_cons_self fun best inside multiplier member => ?_
  split
  · exact List.mem_cons_of_mem _ member
  · exact inside

theorem providerFallbackProtectionMultiplier_mem
    (first : policy.providerFallbackProtectionMultiplier modelName = some preferred) :
    preferred ∈ policy.orderedMultipliersWith modelName true :=
  List.mem_of_mem_head? first

theorem selectHubPolicyStageChannel_usable {draw : Draw} {pool : List HubTierChannelCandidate} {id : Nat}
    (sub : pool ⊆ candidates)
    (selected : selectHubPolicyStageChannel draw pool excluded preferredChannelID = some id) (nonzero : id ≠ 0) :
    ∃ c ∈ candidates, c.channelID = id ∧ Usable excluded c := by
  rcases selectHubPolicyStageChannel_returns selected with ⟨zero, -⟩ | ⟨c, member, named⟩
  · exact absurd zero nonzero
  · obtain ⟨inside, fresh, available⟩ := mem_eligibleCandidates.mp (eligibleBand_eligible member)
    exact ⟨c, sub inside, named, fresh, available⟩

theorem selectPriceStages_usable {stage id : Nat} {multipliers : List ℚ}
    (selected : selectPriceStages draws candidates excluded preferredChannelID stage multipliers = some id)
    (nonzero : id ≠ 0) : ∃ c ∈ candidates, c.channelID = id ∧ Usable excluded c := by
  induction multipliers generalizing stage with
  | nil => exact absurd (Option.some.inj selected).symm nonzero
  | cons multiplier rest ih =>
    obtain ⟨atPrice, picked, later⟩ := Option.bind_eq_some_iff.mp selected
    by_cases zero : atPrice = 0
    · rw [if_neg (not_not.mpr zero)] at later
      exact ih later
    · rw [if_pos zero] at later
      exact selectHubPolicyStageChannel_usable (List.filter_subset_self _) (Option.some.inj later ▸ picked) nonzero

/-- Whatever a policy selection returns is a candidate the request may use; on
fallback the model has a protected price. -/
theorem selectHubTierChannelByHubPolicy_returns {platformFallback : Bool} {id : Nat}
    (selected : selectHubTierChannelByHubPolicy draws policy modelName candidates excluded platformFallback
      preferredChannelID = some id) (nonzero : id ≠ 0) :
    (∃ c ∈ candidates, c.channelID = id ∧ Usable excluded c) ∧
      (platformFallback = true → ∃ preferred, policy.providerFallbackProtectionMultiplier modelName = some preferred) := by
  unfold selectHubTierChannelByHubPolicy at selected
  cases platformFallback with
  | false => exact ⟨selectPriceStages_usable selected nonzero, fun fallback => absurd fallback (by simp)⟩
  | true =>
    rw [if_pos rfl] at selected
    cases first : policy.providerFallbackProtectionMultiplier modelName with
    | none =>
      rw [first] at selected
      exact absurd (Option.some.inj selected).symm nonzero
    | some preferred =>
      rw [first] at selected
      obtain ⟨cheaper, stage, rest⟩ := Option.bind_eq_some_iff.mp selected
      refine ⟨?_, fun _ => ⟨preferred, rfl⟩⟩
      by_cases zero : cheaper = 0
      · rw [if_neg (not_not.mpr zero)] at rest
        exact selectHubPolicyStageChannel_usable (List.filter_subset_self _) rest nonzero
      · rw [if_pos zero] at rest
        exact selectHubPolicyStageChannel_usable (List.filter_subset_self _) (Option.some.inj rest ▸ stage) nonzero

/-- The fallback selection: below the protected price first, then up to the
highest accepted one. -/
theorem fallbackSelection_spec
    (positive : ∀ c ∈ candidates, 0 < c.channelID) (fits : Fits candidates)
    (first : policy.providerFallbackProtectionMultiplier modelName = some preferred) (draws : Nat → Draw)
    (excluded : Finset Nat) (preferredChannelID : Nat) :
    ∃ id, selectHubTierChannelByHubPolicy draws policy modelName candidates excluded true preferredChannelID = some id ∧
      ((∃ c ∈ eligibleCandidates (cheaperCandidates candidates preferred) excluded, c.channelID = id) ∨
        eligibleCandidates (cheaperCandidates candidates preferred) excluded = [] ∧
        ((id = 0 ∧ eligibleCandidates
            (affordableCandidates candidates (fallbackMaxMultiplier policy modelName preferred)) excluded = []) ∨
          ∃ c ∈ eligibleCandidates
            (affordableCandidates candidates (fallbackMaxMultiplier policy modelName preferred)) excluded,
            c.channelID = id)) := by
  have cheaperFits : Fits (cheaperCandidates candidates preferred) := fits.sublist List.filter_sublist
  have affordableFits : Fits (affordableCandidates candidates (fallbackMaxMultiplier policy modelName preferred)) :=
    fits.sublist List.filter_sublist
  obtain ⟨cheaper, stage⟩ := selectHubPolicyStageChannel_isSome cheaperFits (draws 0) excluded preferredChannelID
  obtain ⟨affordable, last⟩ := selectHubPolicyStageChannel_isSome affordableFits (draws 1) excluded preferredChannelID
  unfold selectHubTierChannelByHubPolicy
  simp only [if_true, first, stage, last, Option.bind_eq_bind, Option.bind_some, Option.pure_def]
  rcases selectHubPolicyStageChannel_returns stage with ⟨rfl, none⟩ | ⟨c, member, rfl⟩
  · refine ⟨affordable, by simp, Or.inr ⟨(eligibleBand_eq_nil cheaperFits).mp none, ?_⟩⟩
    rcases selectHubPolicyStageChannel_returns last with ⟨zero, nobody⟩ | ⟨c, member, named⟩
    · exact Or.inl ⟨zero, (eligibleBand_eq_nil affordableFits).mp nobody⟩
    · exact Or.inr ⟨c, eligibleBand_eligible member, named⟩
  · have eligible := eligibleBand_eligible member
    have inside := List.mem_of_mem_filter (mem_eligibleCandidates.mp eligible).1
    exact ⟨c.channelID, by simp [(positive c inside).ne'], Or.inl ⟨c, eligible, rfl⟩⟩

theorem mem_cheaper (grid : PricedOnGrid candidates) (price : Thousandths preferred) :
    c ∈ eligibleCandidates (cheaperCandidates candidates preferred) excluded ↔
      c ∈ candidates ∧ c.multiplier < preferred ∧ Usable excluded c := by
  simp only [mem_eligibleCandidates, cheaperCandidates, List.mem_filter, decide_eq_true_eq, Usable, and_assoc]
  refine and_congr_right fun member => ?_
  obtain ⟨positive, onGrid⟩ := grid c member
  simp only [positive, true_and, onGrid.lt_sub_tolerance price]

theorem mem_affordable {maxMultiplier : ℚ} (grid : PricedOnGrid candidates) (price : Thousandths maxMultiplier) :
    c ∈ eligibleCandidates (affordableCandidates candidates maxMultiplier) excluded ↔
      c ∈ candidates ∧ c.multiplier ≤ maxMultiplier ∧ Usable excluded c := by
  simp only [mem_eligibleCandidates, affordableCandidates, List.mem_filter, decide_eq_true_eq, Usable, and_assoc]
  refine and_congr_right fun member => ?_
  obtain ⟨positive, onGrid⟩ := grid c member
  simp only [positive, true_and, onGrid.le_add_tolerance price]

theorem fallbackMaxMultiplier_thousandths
    (first : policy.providerFallbackProtectionMultiplier modelName = some preferred) :
    Thousandths (fallbackMaxMultiplier policy modelName preferred) := by
  rcases List.mem_cons.mp (fallbackMaxMultiplier_mem policy modelName preferred) with same | published
  · rw [same]
    exact orderedMultipliersWith_thousandths (providerFallbackProtectionMultiplier_mem first)
  · exact orderedMultipliersWith_thousandths published

theorem orderedMultipliers_thousandths (policy : HubTokenRoutingPolicy) (modelName : String) :
    ∀ m ∈ policy.orderedMultipliers modelName, Thousandths m := fun _ => orderedMultipliersWith_thousandths

/-- The preferred phase keeps to the first price at which the request may still
be given a channel. -/
theorem preferredSelection_spec (policy : HubTokenRoutingPolicy) (modelName : String)
    (positive : ∀ c ∈ candidates, 0 < c.channelID)
    (grid : PricedOnGrid candidates) (fits : Fits candidates) (excluded : Finset Nat) (affinity : Nat)
    (draws : Nat → Draw) :
    ∃ id, selectHubTierChannelByHubPolicy draws policy modelName candidates excluded false affinity = some id ∧
      ((id = 0 ∧ ∀ m ∈ policy.orderedMultipliers modelName, NobodyAt candidates excluded m) ∨
        id ≠ 0 ∧ ∃ m, FirstServed candidates excluded (policy.orderedMultipliers modelName) m ∧
          ∃ c ∈ candidates, c.channelID = id ∧ c.multiplier = m ∧ Usable excluded c) := by
  have prices := orderedMultipliers_thousandths policy modelName
  obtain ⟨id, selected, answer⟩ := selectPriceStages_spec positive fits draws affinity 0
    (policy.orderedMultipliers modelName)
  refine ⟨id, selected, ?_⟩
  rcases answer with ⟨zero, all⟩ | ⟨before, m, after, split, skipped, c, member, named⟩
  · exact Or.inl ⟨zero, fun m inside => (stageCandidates_eq_nil grid (prices m inside)).mp (all m inside)⟩
  · obtain ⟨candidate, atPrice, usable⟩ := (mem_stageCandidates grid (prices m (by simp [split]))).mp member
    exact Or.inr ⟨named ▸ (positive c candidate).ne', m, firstServed_of_skipped grid prices split skipped,
      c, candidate, named, atPrice, usable⟩

theorem preferredSelection_affinity (positive : ∀ c ∈ candidates, 0 < c.channelID)
    (grid : PricedOnGrid candidates) (fits : Fits candidates) {affinity : Nat} {id : Nat}
    (selected : selectHubTierChannelByHubPolicy draws policy modelName candidates excluded false affinity = some id) :
    selectHubTierChannelByHubPolicy draws policy modelName candidates excluded false 0 = some id ∨
      id = affinity ∧ ∃ m, FirstServed candidates excluded (policy.orderedMultipliers modelName) m ∧
        ∃ c ∈ eligibleBand (priceStage candidates m) excluded, c.channelID = affinity ∧ c.multiplier = m ∧
          ∀ o ∈ eligibleBand (priceStage candidates m) excluded, o.provider = c.provider → o.priority ≤ c.priority := by
  have prices := orderedMultipliers_thousandths policy modelName
  rcases selectPriceStages_affinity positive fits draws affinity 0 (policy.orderedMultipliers modelName) with
    same | ⟨before, m, after, split, skipped, c, member, named, taken, top⟩
  · exact Or.inl (same.symm.trans selected)
  · have atPrice := ((mem_stageCandidates grid (prices m (by simp [split]))).mp (eligibleBand_eligible member)).2.1
    exact Or.inr ⟨named ▸ Option.some.inj (selected.symm.trans taken), m,
      firstServed_of_skipped grid prices split skipped, c, member, named, atPrice, top⟩

/-- The fallback phase answers with a candidate cheaper than the protected price
where there is one, and never goes above that and the published prices. -/
theorem fallbackSelection_price (positive : ∀ c ∈ candidates, 0 < c.channelID)
    (grid : PricedOnGrid candidates) (fits : Fits candidates) {configured : ℚ}
    (first : policy.providerFallbackProtectionMultiplier modelName = some configured) (excluded : Finset Nat)
    (affinity : Nat) (draws : Nat → Draw) :
    ∃ id, selectHubTierChannelByHubPolicy draws policy modelName candidates excluded true affinity = some id ∧
      ((∃ c ∈ candidates, c.channelID = id ∧ c.multiplier < configured ∧ Usable excluded c) ∨
        (∀ c ∈ candidates, c.multiplier < configured → ¬Usable excluded c) ∧
          (id = 0 ∨ ∃ c ∈ candidates, c.channelID = id ∧ Usable excluded c ∧
            (c.multiplier ≤ configured ∨ ∃ m ∈ policy.orderedMultipliers modelName, c.multiplier ≤ m))) := by
  have configuredPrice := orderedMultipliersWith_thousandths (providerFallbackProtectionMultiplier_mem first)
  obtain ⟨id, selected, answer⟩ := fallbackSelection_spec positive fits first draws excluded affinity
  refine ⟨id, selected, ?_⟩
  rcases answer with ⟨c, member, named⟩ | ⟨nobody, answer⟩
  · obtain ⟨candidate, below, free⟩ := (mem_cheaper grid configuredPrice).mp member
    exact Or.inl ⟨c, candidate, named, below, free⟩
  refine Or.inr ⟨fun c inside cheap usable => ?_, ?_⟩
  · have listed := (mem_cheaper grid configuredPrice).mpr ⟨inside, cheap, usable⟩
    rw [nobody] at listed
    exact absurd listed (by simp)
  · rcases answer with ⟨zero, -⟩ | ⟨c, member, named⟩
    · exact Or.inl zero
    · obtain ⟨candidate, below, free⟩ := (mem_affordable grid (fallbackMaxMultiplier_thousandths first)).mp member
      refine Or.inr ⟨c, candidate, named, free, ?_⟩
      rcases List.mem_cons.mp (fallbackMaxMultiplier_mem policy modelName configured) with same | published
      · exact Or.inl (same ▸ below)
      · exact Or.inr ⟨_, published, below⟩

theorem policy_selection_respects_stages (policy : HubTokenRoutingPolicy) (modelName : String)
    (candidates : List HubTierChannelCandidate) (positive : ∀ c ∈ candidates, 0 < c.channelID)
    (grid : PricedOnGrid candidates) (fits : Fits candidates) (excluded : Finset Nat) (affinity : Nat)
    (draws : Nat → Draw) :
    (∃ id, selectHubTierChannelByHubPolicy draws policy modelName candidates excluded false affinity = some id ∧
      (id = 0 ↔ ∀ m ∈ policy.orderedMultipliers modelName, NobodyAt candidates excluded m) ∧
      (id ≠ 0 → ∃ m, FirstServed candidates excluded (policy.orderedMultipliers modelName) m ∧
        ∃ c ∈ candidates, c.channelID = id ∧ c.multiplier = m ∧ Usable excluded c) ∧
      (selectHubTierChannelByHubPolicy draws policy modelName candidates excluded false 0 = some id ∨
        id = affinity ∧ ∃ m, FirstServed candidates excluded (policy.orderedMultipliers modelName) m ∧
          ∃ c ∈ eligibleBand (priceStage candidates m) excluded, c.channelID = affinity ∧ c.multiplier = m ∧
            ∀ o ∈ eligibleBand (priceStage candidates m) excluded,
              o.provider = c.provider → o.priority ≤ c.priority)) ∧
    (policy.providerFallbackProtectionMultiplier modelName = none →
      selectHubTierChannelByHubPolicy draws policy modelName candidates excluded true affinity = some 0) ∧
    ∀ configured, policy.providerFallbackProtectionMultiplier modelName = some configured →
      ∃ id, selectHubTierChannelByHubPolicy draws policy modelName candidates excluded true affinity = some id ∧
        ((∃ c ∈ candidates, c.multiplier < configured ∧ Usable excluded c) →
          ∃ c ∈ candidates, c.channelID = id ∧ c.multiplier < configured ∧ Usable excluded c) ∧
        ((∀ c ∈ candidates, c.multiplier < configured → ¬Usable excluded c) → id ≠ 0 →
          ∃ c ∈ candidates, c.channelID = id ∧ Usable excluded c ∧
            (c.multiplier ≤ configured ∨ ∃ m ∈ policy.orderedMultipliers modelName, c.multiplier ≤ m)) := by
  refine ⟨?_, fun none => by simp only [selectHubTierChannelByHubPolicy, if_true, none], fun configured first => ?_⟩
  · obtain ⟨id, selected, answer⟩ := preferredSelection_spec policy modelName positive grid fits excluded affinity draws
    refine ⟨id, selected, ?_, fun nonzero => ?_, preferredSelection_affinity positive grid fits selected⟩
    · rcases answer with ⟨zero, all⟩ | ⟨nonzero, m, ⟨before, after, split, -⟩, c, candidate, -, atPrice, usable⟩
      · exact iff_of_true zero all
      · exact iff_of_false nonzero fun none => none m (by simp [split]) c candidate atPrice usable
    · rcases answer with ⟨zero, -⟩ | ⟨-, served⟩
      · exact absurd zero nonzero
      · exact served
  · obtain ⟨id, selected, answer⟩ := fallbackSelection_price positive grid fits first excluded affinity draws
    refine ⟨id, selected, fun ⟨o, inside, cheap, usable⟩ => ?_, fun noneCheaper nonzero => ?_⟩
    · rcases answer with cheaper | ⟨noneCheaper, -⟩
      · exact cheaper
      · exact absurd usable (noneCheaper o inside cheap)
    · rcases answer with ⟨c, candidate, -, cheap, usable⟩ | ⟨-, zero | affordable⟩
      · exact absurd usable (noneCheaper c candidate cheap)
      · exact absurd zero nonzero
      · exact affordable

/-- Two selected channels at 0.6 and 0.3; a third candidate is not selected. -/
def twoPrices : HubTokenRoutingPolicy where
  providerID := 7
  channelIDs := [1, 2]
  channels := [⟨1, 3 / 5, ["gpt-5"], []⟩, ⟨2, 3 / 10, ["gpt-5"], []⟩]

def twoPricesCandidates : List HubTierChannelCandidate :=
  [{ channelID := 1, provider := 7, multiplier := 3 / 5, hardUnavailable := true },
   { channelID := 2, provider := 7, multiplier := 3 / 10, weight := 3 },
   { channelID := 3, provider := 7, multiplier := 3 / 10, weight := 5, priority := 1 }]

theorem twoPricesCandidates_onGrid : PricedOnGrid twoPricesCandidates := by
  intro c member
  simp only [twoPricesCandidates, List.mem_cons, List.not_mem_nil, or_false] at member
  rcases member with rfl | rfl | rfl
  · exact ⟨by norm_num, 600, by norm_num⟩
  · exact ⟨by norm_num, 300, by norm_num⟩
  · exact ⟨by norm_num, 300, by norm_num⟩

theorem twoPrices_respects_stages :
    selectHubTierChannelByHubPolicy (fun _ => ⟨0, 0⟩) twoPrices "gpt-5" twoPricesCandidates ∅ false 2 = some 3 ∧
      ∃ m, FirstServed twoPricesCandidates ∅ (twoPrices.orderedMultipliers "gpt-5") m ∧
        ∃ c ∈ twoPricesCandidates, c.channelID = 3 ∧ c.multiplier = m ∧ Usable ∅ c := by
  have run : selectHubTierChannelByHubPolicy (fun _ => ⟨0, 0⟩) twoPrices "gpt-5" twoPricesCandidates ∅ false 2 =
      some 3 := by decide +kernel
  obtain ⟨⟨id, selected, -, served, -⟩, -⟩ := policy_selection_respects_stages twoPrices "gpt-5" twoPricesCandidates
    (by decide) twoPricesCandidates_onGrid ⟨by decide, by decide, by decide⟩ ∅ 2 (fun _ => ⟨0, 0⟩)
  obtain rfl := Option.some.inj (run.symm.trans selected)
  exact ⟨run, served (by decide)⟩

/-- Weights and a latency outside the 64-bit range, at the selected prices. -/
def heavyPriced : List HubTierChannelCandidate :=
  [{ channelID := 1, provider := 7, multiplier := 3 / 5, weight := 100000000000 },
   { channelID := 4, provider := 7, multiplier := 3 / 5, weight := 100000000000 }]

def latePriced : List HubTierChannelCandidate :=
  [{ channelID := 1, provider := 7, multiplier := 3 / 5, realSampleCount := 20, realSuccessRateBps := 9900,
     realFirstTokenSamples := 20, realFirstTokenP95Ms := some (2 ^ 63 - 1) }]

theorem heavyPriced_panics_latePriced_skipped :
    (∀ c ∈ heavyPriced ++ latePriced, 0 < c.channelID ∧ c.multiplier = 600 / 1000 ∧ Usable ∅ c) ∧
      (heavyPriced.map (·.channelID)).Nodup ∧ (latePriced.map (·.channelID)).Nodup ∧
      3 / 5 ∈ twoPrices.orderedMultipliers "gpt-5" ∧
      selectHubTierChannelByHubPolicy (fun _ => ⟨0, 0⟩) twoPrices "gpt-5" heavyPriced ∅ false 0 = none ∧
      selectHubTierChannelByHubPolicy (fun _ => ⟨0, 0⟩) twoPrices "gpt-5" latePriced ∅ false 0 = some 0 := by
  refine ⟨?_, by decide, by decide, by decide +kernel, by decide +kernel, by decide +kernel⟩
  intro c member
  simp only [heavyPriced, latePriced, List.cons_append, List.nil_append, List.mem_cons, List.not_mem_nil,
    or_false] at member
  rcases member with rfl | rfl | rfl <;> exact ⟨by decide, by norm_num, by simp, rfl⟩

end LLMHub
