import LLMHub.Routing.TierChoice
import LLMHub.Sampling.Pick
import Mathlib.Algebra.BigOperators.Ring.List

namespace LLMHub

def providerTargets (candidates : List HubTierChannelCandidate) : List HubTierChannelCandidate :=
  match highestPriority candidates with
  | none => []
  | some priority => candidates.filter fun candidate => !candidate.hardUnavailable && candidate.priority = priority

theorem providerTargets_sublist (candidates : List HubTierChannelCandidate) :
    (providerTargets candidates).Sublist candidates := by
  unfold providerTargets
  split
  · exact List.nil_sublist _
  · exact List.filter_sublist

variable {c : HubTierChannelCandidate} {targets : List HubTierChannelCandidate}

theorem mem_providerTargets {candidates : List HubTierChannelCandidate}
    (available : ∀ c ∈ candidates, c.hardUnavailable = false) :
    c ∈ providerTargets candidates ↔ c ∈ candidates ∧ ∀ o ∈ candidates, o.priority ≤ c.priority := by
  have spec := highestPriority_spec candidates
  unfold providerTargets
  cases highest : highestPriority candidates with
  | none =>
    rw [highest] at spec
    have empty : c ∉ candidates := fun member => absurd (spec c member) (by simp [available c member])
    simp [empty]
  | some priority =>
    rw [highest] at spec
    obtain ⟨⟨best, member, -, same⟩, upper⟩ := spec
    simp only [mem_targets]
    constructor
    · rintro ⟨inside, -, rfl⟩
      exact ⟨inside, fun o other => upper o other (available o other)⟩
    · rintro ⟨inside, top⟩
      exact ⟨inside, available c inside, le_antisymm (upper c inside (available c inside)) (same ▸ top best member)⟩

theorem providerTargets_ne_nil {candidates : List HubTierChannelCandidate}
    (available : ∀ c ∈ candidates, c.hardUnavailable = false) (member : c ∈ candidates) :
    providerTargets candidates ≠ [] := by
  have spec := highestPriority_spec candidates
  unfold providerTargets
  cases highest : highestPriority candidates with
  | none =>
    rw [highest] at spec
    exact absurd (spec c member) (by simp [available c member])
  | some priority =>
    rw [highest] at spec
    obtain ⟨⟨best, inside, free, same⟩, -⟩ := spec
    exact List.ne_nil_of_mem (mem_targets.mpr ⟨inside, free, same⟩)

theorem selectHubTierProviderChannel_draws (draw : Nat) (candidates : List HubTierChannelCandidate) :
    selectHubTierProviderChannel draw candidates =
      match providerTargets candidates with
      | [] => some 0
      | [target] => some target.channelID
      | first :: rest => (Go.intn (targetDrawBound (first :: rest)) draw).map fun randomWeight : Nat =>
          (weightedTarget (targetShare (first :: rest)) (rest.getLastD first) randomWeight (first :: rest)).channelID := by
  unfold selectHubTierProviderChannel providerTargets
  cases highestPriority candidates with
  | none => rfl
  | some priority =>
    dsimp only
    generalize candidates.filter (fun candidate => !candidate.hardUnavailable && candidate.priority = priority) = targets
    match targets with
    | [] => rfl
    | [target] => rfl
    | first :: second :: rest =>
      dsimp only
      rw [drawTarget_eq, Option.map_map]
      rfl

/-- In range the scan of the targets is the scan of their shares. -/
theorem weightedTarget_eq_pick {share : HubTierChannelCandidate → Int} (last : HubTierChannelCandidate)
    (small : ∀ c ∈ targets, 0 ≤ share c ∧ share c < 2 ^ 63) {value : Nat}
    (within : value < 2 ^ 63) :
    weightedTarget share last value targets = Sampling.pick (fun c => (share c).toNat) last value targets := by
  induction targets generalizing value with
  | nil => rfl
  | cons c rest ih =>
    obtain ⟨nonneg, below⟩ := small c List.mem_cons_self
    unfold weightedTarget Sampling.pick
    dsimp only
    rw [Go.int64_eq_self (by omega) (by omega)]
    by_cases covered : value < (share c).toNat
    · rw [if_pos (by omega), if_pos covered]
    · have left : value - (share c).toNat < 2 ^ 63 := by omega
      have rest := ih (fun o member => small o (List.mem_cons_of_mem c member)) left
      rw [if_neg (by omega), if_neg covered, ← rest]
      congr 1
      omega

/-- The draw among targets gives every channel its share. -/
structure ExactTargets (targets : List HubTierChannelCandidate) : Prop where
  boundPos : 0 < targetDrawBound targets
  boundSum : targetDrawBound targets = (targets.map (targetShare targets)).sum
  share : ∀ last id, (((Finset.range (targetDrawBound targets).toNat).filter fun value : Nat =>
      (weightedTarget (targetShare targets) last value targets).channelID = id).card : Int) =
    ((targets.filter (·.channelID = id)).map (targetShare targets)).sum
  reached : ∀ value : Nat, value < targetDrawBound targets → ∀ last, weightedTarget (targetShare targets) last value targets ∈ targets ∧
    ∀ other, weightedTarget (targetShare targets) other value targets = weightedTarget (targetShare targets) last value targets
  weighted : (∃ c ∈ targets, 0 < c.weight) → ∀ value : Nat, value < targetDrawBound targets → ∀ last,
    0 < (weightedTarget (targetShare targets) last value targets).weight

theorem targetShare_bounds (fits : Fits targets) (some : targets ≠ []) :
    ∀ c ∈ targets, 0 ≤ targetShare targets c ∧ targetShare targets c < 2 ^ 63 := by
  obtain ⟨first, rest, rfl⟩ := List.exists_cons_of_ne_nil some
  intro c member
  have bounds := fits.effectiveWeight (allStaticWeightsZero (first :: rest)) c member
  obtain ⟨factor, rfl | rfl, -, share⟩ := targetDrawBound_scaled fits <;> rw [share] <;> omega

theorem targetDrawBound_eq_sum (fits : Fits targets) (some : targets ≠ []) :
    targetDrawBound targets = (targets.map (targetShare targets)).sum := by
  obtain ⟨first, rest, rfl⟩ := List.exists_cons_of_ne_nil some
  obtain ⟨factor, -, bound, share⟩ := targetDrawBound_scaled fits
  rw [bound, totalWeight_eq_sum fits, List.map_congr_left fun c _ => share c, List.sum_map_mul_right]

theorem sum_map_toNat {α : Type*} {f : α → Int} {l : List α} (nonneg : ∀ a ∈ l, 0 ≤ f a) :
    (((l.map fun a => (f a).toNat).sum : Nat) : Int) = (l.map f).sum := by
  induction l with
  | nil => rfl
  | cons a l ih =>
    have own := nonneg a List.mem_cons_self
    have rest := ih fun b member => nonneg b (List.mem_cons_of_mem a member)
    simp only [List.map_cons, List.sum_cons, Nat.cast_add, rest]
    omega

theorem effectiveWeight_pos_weight (positive : 0 < c.effectiveWeight false) : 0 < c.weight := by
  by_contra none
  have zero : c.effectiveWeight false = 0 := if_pos (Or.inl (by simpa using none))
  omega

theorem exactTargets (fits : Fits targets) (some : targets ≠ []) : ExactTargets targets := by
  have small := targetShare_bounds fits some
  have nonneg : ∀ c ∈ targets, 0 ≤ targetShare targets c := fun c member => (small c member).1
  have sum := targetDrawBound_eq_sum fits some
  have below : targetDrawBound targets < 2 ^ 63 := Go.int64_lt _
  have total : (targetDrawBound targets).toNat = (targets.map fun c => (targetShare targets c).toNat).sum := by
    have := sum_map_toNat nonneg
    omega
  have scan (last : HubTierChannelCandidate) {value : Nat} (within : value < targetDrawBound targets) :
      weightedTarget (targetShare targets) last value targets =
        Sampling.pick (fun c => (targetShare targets c).toNat) last value targets :=
    weightedTarget_eq_pick last small (by omega)
  have covered {value : Nat} (within : value < targetDrawBound targets) :
      value < (targets.map fun c => (targetShare targets c).toNat).sum := by omega
  obtain ⟨first, rest, cons⟩ := List.exists_cons_of_ne_nil some
  refine ⟨?_, sum, fun last id => ?_, fun value within last => ?_, fun weighs value within last => ?_⟩
  · subst cons
    exact targetDrawBound_pos fits
  · have counted := Sampling.card_pick (fun c => (targetShare targets c).toNat) last targets fun c => decide (c.channelID = id)
    rw [Finset.filter_congr fun value within => by
      rw [scan last (by have := Finset.mem_range.mp within; omega)], total]
    simp only [decide_eq_true_eq] at counted
    rw [counted, sum_map_toNat fun c member => nonneg c (List.mem_of_mem_filter member)]
  · obtain ⟨member, -, same⟩ := Sampling.pick_below _ (covered within) last
    rw [scan last within]
    exact ⟨member, fun other => (scan other within).trans (same other)⟩
  · obtain ⟨member, positive, -⟩ := Sampling.pick_below _ (covered within) last
    rw [← scan last within] at positive
    obtain ⟨c, inside, static⟩ := weighs
    have mixed : allStaticWeightsZero targets = false :=
      List.all_eq_false.mpr ⟨c, inside, by simpa using static⟩
    subst cons
    obtain ⟨factor, rfl | rfl, -, share⟩ := targetDrawBound_scaled fits <;>
    · rw [share, mixed] at positive
      exact effectiveWeight_pos_weight (by omega)

end LLMHub
