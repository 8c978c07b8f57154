import LLMHub.Routing.Abilities
import Mathlib.Order.Interval.Finset.Nat

namespace LLMHub

namespace RoutingState

def abilityDrawBound (targets : List Ability) : Int :=
  Go.int64 ↑(targets.foldl (fun sum ability => (sum + (ability.weight + 10)) % 2 ^ 64) 0 : Nat)

def choosingWeights (targets : List Ability) (channelId : Nat) : Finset Nat :=
  (Finset.range (abilityDrawBound targets).toNat).filter fun weight => weightedAbility weight targets = channelId

/-- Every ability is chosen by its weight and ten of the values, and there are
no other values. -/
def ExactShares (targets : List Ability) : Prop :=
  (∀ ability ∈ targets, (choosingWeights targets ability.channelId).card = ability.weight + 10) ∧
    abilityDrawBound targets = ((targets.map (·.weight + 10)).sum : Nat)

def drawnAbilities (state : RoutingState) (group model : String) (retry : Nat) (requestPath : String)
    (excluded : Finset Nat) (filter : ChannelProviderFilter) : List Ability :=
  preferUntried (·.channelId) (targetAbilities (state.groupAbilities group model requestPath filter) retry) excluded
    filter.strictExcludedChannels

theorem getChannelWithFilter_draws (state : RoutingState) (draw : GroupDraw) {group : String} (model : String)
    (retry : Nat) (requestPath : String) (excluded : Finset Nat) (filter : ChannelProviderFilter)
    (plain : isServiceTier group = false) (some : state.drawnAbilities group model retry requestPath excluded filter ≠ []) :
    let targets := state.drawnAbilities group model retry requestPath excluded filter
    state.getChannelWithFilter draw group model retry requestPath excluded filter =
      (Go.intn (abilityDrawBound targets) draw.channel).map fun weight : Nat =>
        state.storedSelection (weightedAbility weight targets) := by
  intro targets
  have found : (state.groupAbilities group model requestPath filter).isEmpty = false := by
    rw [List.isEmpty_eq_false_iff]
    intro none
    exact some (by simp [drawnAbilities, none, targetAbilities, preferUntried])
  have left : targets.isEmpty = false := List.isEmpty_eq_false_iff.mpr some
  simp only [getChannelWithFilter, found, plain, Bool.false_eq_true, ↓reduceIte]
  refine (if_neg (Bool.eq_false_iff.mp left)).trans ?_
  exact Option.map_eq_bind.symm

theorem weightedAbility_first {ability : Ability} (rest : List Ability) (small : ability.weight + 10 < 2 ^ 63) {weight : Nat}
    (within : weight ≤ ability.weight + 10) : weightedAbility weight (ability :: rest) = ability.channelId := by
  have own : ability.getWeight = ability.weight := Go.int64_eq_self (by omega) (by omega)
  unfold weightedAbility
  dsimp only
  rw [own, Go.int64_eq_self (by omega) (by omega), if_pos (by omega)]

theorem abilityDrawBound_lt (targets : List Ability) : abilityDrawBound targets < 2 ^ 63 := Go.int64_lt _

/-- The first of several abilities gets one value too many. -/
theorem first_oversized {first second : Ability} {rest : List Ability}
    (total : abilityDrawBound (first :: second :: rest) = (((first :: second :: rest).map (·.weight + 10)).sum : Nat)) :
    first.weight + 10 < (choosingWeights (first :: second :: rest) first.channelId).card := by
  have below := abilityDrawBound_lt (first :: second :: rest)
  simp only [List.map_cons, List.sum_cons] at total
  have chosen : Finset.range (first.weight + 11) ⊆ choosingWeights (first :: second :: rest) first.channelId := by
    intro weight within
    rw [Finset.mem_range] at within
    refine Finset.mem_filter.mpr ⟨Finset.mem_range.mpr (by omega), weightedAbility_first _ (by omega) (by omega)⟩
  have card := Finset.card_le_card chosen
  rw [Finset.card_range] at card
  omega

theorem exactShares_singleton {ability : Ability} (small : ability.weight + 10 < 2 ^ 63) : ExactShares [ability] := by
  have bound : abilityDrawBound [ability] = ((ability.weight + 10 : Nat) : Int) := by
    unfold abilityDrawBound
    rw [List.foldl_cons, List.foldl_nil, zero_add, Nat.mod_eq_of_lt (by omega), Go.int64_eq_self (by omega) (by omega)]
  refine ⟨fun other member => ?_, by simpa using bound⟩
  obtain rfl := List.mem_singleton.mp member
  have all : choosingWeights [other] other.channelId = Finset.range (other.weight + 10) := by
    unfold choosingWeights
    rw [bound, Int.toNat_natCast, Finset.filter_eq_self]
    intro weight within
    rw [Finset.mem_range] at within
    exact weightedAbility_first [] small (by omega)
  rw [all, Finset.card_range]

theorem exactShares_iff {targets : List Ability} (some : targets ≠ []) :
    ExactShares targets ↔ ∃ ability, targets = [ability] ∧ ability.weight + 10 < 2 ^ 63 := by
  constructor
  · rintro ⟨shares, total⟩
    obtain ⟨first, rest, rfl⟩ := List.exists_cons_of_ne_nil some
    cases rest with
    | nil =>
      have below := abilityDrawBound_lt [first]
      rw [total, List.map_singleton, List.sum_singleton] at below
      exact ⟨first, rfl, by omega⟩
    | cons second rest =>
      have share := shares first List.mem_cons_self
      have more := first_oversized total
      omega
  · rintro ⟨ability, rfl, small⟩
    exact exactShares_singleton small

/-- The database selection draws one value below the bound, and its shares are
exact where there is a single ability. -/
theorem getChannelWithFilter_shares_iff (state : RoutingState) (group model : String) (retry : Nat) (requestPath : String)
    (excluded : Finset Nat) (filter : ChannelProviderFilter) (plain : isServiceTier group = false)
    (some : state.drawnAbilities group model retry requestPath excluded filter ≠ []) :
    let targets := state.drawnAbilities group model retry requestPath excluded filter
    (∀ draw, state.getChannelWithFilter draw group model retry requestPath excluded filter =
      (Go.intn (abilityDrawBound targets) draw.channel).map fun weight : Nat =>
        state.storedSelection (weightedAbility weight targets)) ∧
      (ExactShares targets ↔ ∃ ability, targets = [ability] ∧ ability.weight + 10 < 2 ^ 63) := by
  intro targets
  exact ⟨fun draw => getChannelWithFilter_draws state draw model retry requestPath excluded filter plain some,
    exactShares_iff some⟩

/-- A server whose group has one ability for each of the weights. -/
def weighedState (weights : List Nat) : RoutingState where
  cache := { memoryCacheEnabled := false }
  tables :=
    { abilities := weights.mapIdx fun index weight => { group := "default", model := "gpt-4o", channelId := index + 1, weight }
      channels := weights.mapIdx fun index _ => { id := index + 1, positive := index.succ_pos } }

theorem one_ability_exact :
    let targets := (weighedState [5]).drawnAbilities "default" "gpt-4o" 0 "/v1/chat/completions" ∅ {}
    targets ≠ [] ∧ ExactShares targets := by
  intro targets
  have some : targets ≠ [] := by decide
  exact ⟨some, (getChannelWithFilter_shares_iff (weighedState [5]) "default" "gpt-4o" 0 "/v1/chat/completions" ∅ {} rfl
    some).2.mpr ⟨_, rfl, by decide⟩⟩

/-- Of two abilities of no weight the first is chosen by eleven of twenty
values. -/
theorem two_abilities_uneven :
    let targets := (weighedState [0, 0]).drawnAbilities "default" "gpt-4o" 0 "/v1/chat/completions" ∅ {}
    targets.map (·.channelId) = [1, 2] ∧ abilityDrawBound targets = 20 ∧
      (choosingWeights targets 1).card = 11 ∧ (choosingWeights targets 2).card = 9 := by
  decide +kernel

end RoutingState

end LLMHub
