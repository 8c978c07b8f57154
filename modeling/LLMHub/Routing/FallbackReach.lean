import LLMHub.Routing.Failover
import LLMHub.Routing.PolicySelection

namespace LLMHub

/-- A candidate that a request may be given on fallback, by the check that
admits candidates. -/
def FallbackAdmitted (policy : HubTokenRoutingPolicy) (modelName : String) (excluded : Finset Nat)
    (c : HubTierChannelCandidate) : Prop :=
  Usable excluded c ∧ policy.allowsMultiplierForPlatformFallback modelName c.multiplier = true

/-- The price is no higher than the first configured or a published one. -/
def WithinCeiling (policy : HubTokenRoutingPolicy) (modelName : String) (multiplier : ℚ) : Prop :=
  (∃ first ∈ policy.providerFallbackProtectionMultiplier modelName, multiplier ≤ first) ∨
    ∃ published ∈ policy.orderedMultipliers modelName, multiplier ≤ published

def selectFallback (policy : HubTokenRoutingPolicy) (modelName : String) (candidates : List HubTierChannelCandidate)
    (call : (Nat → Draw) × Nat) (excluded : Finset Nat) : Option Nat :=
  selectHubTierChannelByHubPolicy call.1 policy modelName candidates excluded true call.2

/-- While an admitted candidate is left the fallback phase answers, and its
repeated selections return all of them. -/
structure FallbackReaches (policy : HubTokenRoutingPolicy) (modelName : String) (candidates : List HubTierChannelCandidate)
    (excluded : Finset Nat) : Prop where
  answers : (∃ c ∈ candidates, FallbackAdmitted policy modelName excluded c) →
    ∀ call, ∃ id, selectFallback policy modelName candidates call excluded = some id ∧ 0 < id
  exhausts : ∀ calls : List ((Nat → Draw) × Nat), candidates.length ≤ calls.length →
    ∃ returned, Sampling.drain (selectFallback policy modelName candidates) calls excluded = some returned ∧
      ∀ c ∈ candidates, FallbackAdmitted policy modelName excluded c → c.channelID ∈ returned

theorem le_fallbackMaxMultiplier {policy : HubTokenRoutingPolicy} {modelName : String} {preferred multiplier : ℚ}
    (member : multiplier ∈ preferred :: policy.orderedMultipliers modelName) :
    multiplier ≤ fallbackMaxMultiplier policy modelName preferred := by
  unfold fallbackMaxMultiplier
  generalize policy.orderedMultipliers modelName = prices at member
  induction prices generalizing preferred multiplier with
  | nil => exact (List.mem_singleton.mp member).le
  | cons price prices ih =>
    rw [List.foldl_cons]
    have grows : preferred ≤ (if price > preferred then price else preferred) ∧
        price ≤ (if price > preferred then price else preferred) := by
      split
      · next above => exact ⟨above.le, le_rfl⟩
      · next below => exact ⟨le_rfl, not_lt.mp below⟩
    rcases List.mem_cons.mp member with rfl | later
    · exact grows.1.trans (ih List.mem_cons_self)
    · rcases List.mem_cons.mp later with rfl | last
      · exact grows.2.trans (ih List.mem_cons_self)
      · exact ih (List.mem_cons_of_mem _ last)

theorem withinCeiling_iff {policy : HubTokenRoutingPolicy} {modelName : String} {preferred : ℚ}
    (first : policy.providerFallbackProtectionMultiplier modelName = some preferred) (multiplier : ℚ) :
    WithinCeiling policy modelName multiplier ↔ multiplier ≤ fallbackMaxMultiplier policy modelName preferred := by
  constructor
  · rintro (⟨own, named, below⟩ | ⟨published, listed, below⟩)
    · obtain rfl : preferred = own := Option.some.inj (first.symm.trans named)
      exact below.trans (le_fallbackMaxMultiplier List.mem_cons_self)
    · exact below.trans (le_fallbackMaxMultiplier (List.mem_cons_of_mem _ listed))
  · intro below
    rcases List.mem_cons.mp (fallbackMaxMultiplier_mem policy modelName preferred) with same | published
    · exact Or.inl ⟨preferred, first, same ▸ below⟩
    · exact Or.inr ⟨_, published, below⟩

section Reach

variable {policy : HubTokenRoutingPolicy} {modelName : String} {candidates : List HubTierChannelCandidate} {preferred : ℚ}

def fallbackPool (policy : HubTokenRoutingPolicy) (modelName : String) (candidates : List HubTierChannelCandidate)
    (preferred : ℚ) : Finset Nat :=
  servable (affordableCandidates candidates (fallbackMaxMultiplier policy modelName preferred)) ∅

theorem mem_fallbackPool (grid : PricedOnGrid candidates)
    (first : policy.providerFallbackProtectionMultiplier modelName = some preferred) (excluded : Finset Nat) (id : Nat) :
    id ∈ fallbackPool policy modelName candidates preferred \ excluded ↔
      ∃ c ∈ candidates, c.channelID = id ∧ Usable excluded c ∧ WithinCeiling policy modelName c.multiplier := by
  unfold fallbackPool
  rw [← servable_eq_sdiff, servable, List.mem_toFinset, List.mem_map]
  simp only [mem_affordable grid (fallbackMaxMultiplier_thousandths first), withinCeiling_iff first]
  constructor
  · rintro ⟨c, ⟨member, below, usable⟩, rfl⟩
    exact ⟨c, member, rfl, usable, below⟩
  · rintro ⟨c, member, rfl, usable, below⟩
    exact ⟨c, ⟨member, below, usable⟩, rfl⟩

theorem selectFallback_serves (positive : ∀ c ∈ candidates, 0 < c.channelID) (grid : PricedOnGrid candidates)
    (fits : Fits candidates) (first : policy.providerFallbackProtectionMultiplier modelName = some preferred) :
    Sampling.Serves (selectFallback policy modelName candidates) (fallbackPool policy modelName candidates preferred) := by
  intro call excluded
  have price := orderedMultipliersWith_thousandths (providerFallbackProtectionMultiplier_mem first)
  have pool := mem_fallbackPool grid first excluded
  obtain ⟨id, selected, answer⟩ := fallbackSelection_spec positive fits first call.1 excluded call.2
  refine ⟨id, selected, ?_⟩
  rcases answer with ⟨c, member, rfl⟩ | ⟨-, ⟨zero, nobody⟩ | ⟨c, member, rfl⟩⟩
  · obtain ⟨inside, cheap, usable⟩ := (mem_cheaper grid price).mp member
    exact Or.inr ⟨positive c inside, (pool _).mpr ⟨c, inside, rfl, usable, Or.inl ⟨preferred, first, cheap.le⟩⟩⟩
  · refine Or.inl ⟨zero, Finset.eq_empty_iff_forall_notMem.mpr fun other listed => ?_⟩
    obtain ⟨c, inside, -, usable, below⟩ := (pool _).mp listed
    have left := (mem_affordable grid (fallbackMaxMultiplier_thousandths first)).mpr
      ⟨inside, (withinCeiling_iff first _).mp below, usable⟩
    rw [nobody] at left
    exact absurd left (by simp)
  · obtain ⟨inside, below, usable⟩ := (mem_affordable grid (fallbackMaxMultiplier_thousandths first)).mp member
    exact Or.inr ⟨positive c inside, (pool _).mpr ⟨c, inside, rfl, usable, (withinCeiling_iff first _).mpr below⟩⟩

theorem FallbackAdmitted.protected_price {excluded : Finset Nat} {c : HubTierChannelCandidate}
    (admitted : FallbackAdmitted policy modelName excluded c) :
    ∃ preferred, policy.providerFallbackProtectionMultiplier modelName = some preferred := by
  obtain ⟨-, allowed⟩ := admitted
  unfold HubTokenRoutingPolicy.allowsMultiplierForPlatformFallback at allowed
  obtain ⟨-, priced⟩ := Bool.and_eq_true_iff.mp allowed
  obtain ⟨price, listed, -⟩ := List.any_eq_true.mp priced
  exact ⟨_, List.head?_eq_some_head (List.ne_nil_of_mem listed)⟩

variable (policy modelName candidates preferred) in
theorem fallbackPool_card_le (excluded : Finset Nat) :
    (fallbackPool policy modelName candidates preferred \ excluded).card ≤ candidates.length := by
  unfold fallbackPool
  rw [← servable_eq_sdiff]
  refine (servable_card_le _ excluded).trans (List.filter_sublist.trans List.filter_sublist).length_le

/-- Up to the ceiling of the selection the admitted candidates are reached. -/
theorem fallbackReaches_of_within (positive : ∀ c ∈ candidates, 0 < c.channelID) (grid : PricedOnGrid candidates)
    (fits : Fits candidates) {excluded : Finset Nat}
    (within : ∀ c ∈ candidates, FallbackAdmitted policy modelName excluded c → WithinCeiling policy modelName c.multiplier) :
    FallbackReaches policy modelName candidates excluded := by
  constructor
  · rintro ⟨c, member, admitted⟩ call
    obtain ⟨preferred, first⟩ := admitted.protected_price
    have listed := (mem_fallbackPool grid first excluded c.channelID).mpr
      ⟨c, member, rfl, admitted.1, within c member admitted⟩
    obtain ⟨id, selected, ⟨-, none⟩ | ⟨found, -⟩⟩ := selectFallback_serves positive grid fits first call excluded
    · rw [none] at listed
      exact absurd listed (by simp)
    · exact ⟨id, selected, found⟩
  · intro calls enough
    cases first : policy.providerFallbackProtectionMultiplier modelName with
    | none =>
      -- Without a configured price nothing is admitted, and every selection finds nothing.
      have serves : Sampling.Serves (selectFallback policy modelName candidates) ∅ := fun call excluded =>
        ⟨0, by simp [selectFallback, selectHubTierChannelByHubPolicy, first], Or.inl ⟨rfl, Finset.empty_sdiff _⟩⟩
      obtain ⟨returned, run, -⟩ := serves.drain_returns calls excluded
      refine ⟨_, run, fun c _ admitted => ?_⟩
      obtain ⟨preferred, some⟩ := admitted.protected_price
      exact absurd (first.symm.trans some) (by simp)
    | some preferred =>
      obtain ⟨returned, run, distinct, inside, length⟩ :=
        (selectFallback_serves positive grid fits first).drain_returns calls excluded
      have few := fallbackPool_card_le policy modelName candidates preferred excluded
      have all := Sampling.toFinset_of_enough distinct inside length (Or.inr (few.trans enough))
      refine ⟨_, run, fun c member admitted => List.mem_append_left _ ?_⟩
      rw [← List.mem_toFinset, all]
      exact (mem_fallbackPool grid first excluded c.channelID).mpr ⟨c, member, rfl, admitted.1, within c member admitted⟩

/-- A candidate that comes out of the selections is within their ceiling. -/
theorem within_of_fallbackReaches (positive : ∀ c ∈ candidates, 0 < c.channelID)
    (distinct : (candidates.map (·.channelID)).Nodup) (grid : PricedOnGrid candidates) (fits : Fits candidates)
    {excluded : Finset Nat} (reaches : FallbackReaches policy modelName candidates excluded) {c : HubTierChannelCandidate}
    (member : c ∈ candidates) (admitted : FallbackAdmitted policy modelName excluded c) :
    WithinCeiling policy modelName c.multiplier := by
  obtain ⟨preferred, first⟩ := admitted.protected_price
  let calls : List ((Nat → Draw) × Nat) := List.replicate candidates.length (fun _ => ⟨0, 0⟩, 0)
  obtain ⟨returned, run, reached⟩ := reaches.exhausts calls (by simp [calls])
  obtain ⟨served, sameRun, -, inside, -⟩ := (selectFallback_serves positive grid fits first).drain_returns calls excluded
  have listed := reached c member admitted
  rw [Option.some.inj (run.symm.trans sameRun), List.mem_append, List.mem_replicate] at listed
  rcases listed with answer | ⟨-, zero⟩
  · obtain ⟨other, candidate, named, -, below⟩ := (mem_fallbackPool grid first excluded c.channelID).mp (inside _ answer)
    rwa [List.inj_on_of_nodup_map distinct candidate member named] at below
  · exact absurd zero (positive c member).ne'

end Reach

/-- The fallback phase reaches every candidate that is admitted to it if and
only if none of them is above the first configured and all published prices. -/
theorem fallback_reaches_iff (policy : HubTokenRoutingPolicy) (modelName : String) (candidates : List HubTierChannelCandidate)
    (positive : ∀ c ∈ candidates, 0 < c.channelID) (distinct : (candidates.map (·.channelID)).Nodup)
    (grid : PricedOnGrid candidates) (fits : Fits candidates) (excluded : Finset Nat) :
    FallbackReaches policy modelName candidates excluded ↔
      ∀ c ∈ candidates, FallbackAdmitted policy modelName excluded c → WithinCeiling policy modelName c.multiplier :=
  ⟨fun reaches _ member admitted => within_of_fallbackReaches positive distinct grid fits reaches member admitted,
    fallbackReaches_of_within positive grid fits⟩

/-- The second selected channel is no longer published for the model, but its
price is still configured. -/
def unpublishedSecond : HubTokenRoutingPolicy where
  providerID := 7
  channelIDs := [1, 2]
  channels := [⟨1, 1, ["gpt-5"], ["gpt-5"]⟩, ⟨2, 2, [], ["gpt-5"]⟩]

def otherOffer (multiplier : ℚ) : List HubTierChannelCandidate := [{ channelID := 3, provider := 8, multiplier }]

theorem otherOffer_reached : FallbackReaches unpublishedSecond "gpt-5" (otherOffer (9 / 10)) ∅ := by
  refine (fallback_reaches_iff unpublishedSecond "gpt-5" (otherOffer (9 / 10)) (by decide) (by decide) ?_
    ⟨by decide, by decide, by decide⟩ ∅).mpr ?_
  · intro c member
    obtain rfl := List.mem_singleton.mp member
    exact ⟨by norm_num, 900, by norm_num⟩
  · intro c member _
    obtain rfl := List.mem_singleton.mp member
    exact Or.inl ⟨1, by decide +kernel, by norm_num⟩

/-- At one and a half the offer is admitted under the price of two, but never
selected. -/
theorem otherOffer_admitted_not_selected :
    unpublishedSecond.allowsMultiplierForPlatformFallback "gpt-5" (3 / 2) = true ∧
      selectHubTierChannelByHubPolicy (fun _ => ⟨0, 0⟩) unpublishedSecond "gpt-5" (otherOffer (3 / 2)) ∅ true 0 = some 0 := by
  decide +kernel

end LLMHub
