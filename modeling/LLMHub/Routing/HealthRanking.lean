import LLMHub.Go.Sort
import LLMHub.Routing.Health
import Mathlib.Data.Prod.Lex
import Mathlib.Data.String.Basic

namespace LLMHub

/-- What the ranking reads of a row of the routing health page. -/
structure HubRoutingHealthRow where
  channelID : Int
  channelName : String := ""
  providerName : String := ""
  modelName : String := ""
  endpointType : String := ""
  routingRoutable : Bool := true
  routingHardUnavailable : Bool := false
  realHealthState : HubRoutingRealHealth := .unknown
  realSampleCount : Int := 0
  realSuccessRateBps : Int := 0
  realFirstTokenSampleCount : Int := 0
  realFirstTokenP95Ms : Option Int := none
  rankingScoreBps : Option Int := none
  deriving DecidableEq, Repr

def hubRoutingHealthStateRank : HubRoutingRealHealth → Nat
  | .healthy => 0
  | .unknown => 1
  | .degraded => 2
  | .unhealthy => 3
  | .quarantined => 4

namespace HubRoutingHealthRow

/-- The first token percentile, where enough samples support it. -/
def firstToken (row : HubRoutingHealthRow) : Option Int :=
  if hubRoutingQualityMinRealSamples ≤ row.realFirstTokenSampleCount then row.realFirstTokenP95Ms else none

def hasReal (row : HubRoutingHealthRow) : Bool := hubRoutingQualityMinRealSamples ≤ row.realSampleCount

section Compare

variable (lower : String → String) (left right : HubRoutingHealthRow)

def lessByName : Bool :=
  if left.providerName ≠ right.providerName then lower left.providerName < lower right.providerName
  else if left.channelName ≠ right.channelName then lower left.channelName < lower right.channelName
  else if left.modelName ≠ right.modelName then lower left.modelName < lower right.modelName
  else if left.endpointType ≠ right.endpointType then left.endpointType < right.endpointType
  else left.channelID < right.channelID

def lessByScore : Bool :=
  if left.hasReal ≠ right.hasReal then left.hasReal
  else if left.hasReal ∧ left.realSuccessRateBps ≠ right.realSuccessRateBps then
    left.realSuccessRateBps > right.realSuccessRateBps
  else
    match left.rankingScoreBps, right.rankingScoreBps with
    | none, none => lessByName lower left right
    | none, some _ => false
    | some _, none => true
    | some score, some other => if score ≠ other then score > other else lessByName lower left right

/-- The comparison of `sortHubRoutingHealthRows`. -/
def less : Bool :=
  if left.routingRoutable ≠ right.routingRoutable then left.routingRoutable
  else if left.routingHardUnavailable ≠ right.routingHardUnavailable then !left.routingHardUnavailable
  else if hubRoutingHealthStateRank left.realHealthState ≠ hubRoutingHealthStateRank right.realHealthState then
    hubRoutingHealthStateRank left.realHealthState < hubRoutingHealthStateRank right.realHealthState
  else
    match left.firstToken, right.firstToken with
    | some _, none => true
    | none, some _ => false
    | some ms, some other => if ms ≠ other then ms < other else lessByScore lower left right
    | none, none => lessByScore lower left right

end Compare

end HubRoutingHealthRow

def sortHubRoutingHealthRows (lower : String → String) (rows : List HubRoutingHealthRow) : List HubRoutingHealthRow :=
  Go.sortStable (HubRoutingHealthRow.less lower) rows

/-- The page of ranked rows that `ListHubRoutingHealth` returns. -/
def healthPage (lower : String → String) (rows : List HubRoutingHealthRow) (offset limit : Nat) :
    List (Nat × HubRoutingHealthRow) :=
  let ranked := (sortHubRoutingHealthRows lower rows).mapIdx fun index row => (index + 1, row)
  if offset ≥ rows.length then [] else (ranked.drop offset).take limit

namespace HubRoutingHealthRow

def realRate (row : HubRoutingHealthRow) : Option Int := if row.hasReal then some row.realSuccessRateBps else none

/-- The criteria that come before the names, each so that less is better. A
missing number is worse than any. -/
def quality (row : HubRoutingHealthRow) : Bool ×ₗ Bool ×ₗ Nat ×ₗ Bool ×ₗ Int ×ₗ Bool ×ₗ Int ×ₗ Bool ×ₗ Int :=
  toLex (!row.routingRoutable, toLex (row.routingHardUnavailable, toLex (hubRoutingHealthStateRank row.realHealthState,
    toLex (row.firstToken.isNone, toLex (row.firstToken.getD 0,
      toLex (row.realRate.isNone, toLex (-(row.realRate.getD 0),
        toLex (row.rankingScoreBps.isNone, -(row.rankingScoreBps.getD 0)))))))))

/-- The names in lower case, the endpoint type and the channel. -/
def identity (lower : String → String) (row : HubRoutingHealthRow) : String ×ₗ String ×ₗ String ×ₗ String ×ₗ Int :=
  toLex (lower row.providerName, toLex (lower row.channelName, toLex (lower row.modelName,
    toLex (row.endpointType, row.channelID))))

/-- Rows that the comparison cannot tell apart: the first of their names to
differ differs in case only, or they agree in all that is compared. -/
def Blurred (lower : String → String) (left right : HubRoutingHealthRow) : Prop :=
  left.quality = right.quality ∧
    if left.providerName ≠ right.providerName then lower left.providerName = lower right.providerName
    else if left.channelName ≠ right.channelName then lower left.channelName = lower right.channelName
    else if left.modelName ≠ right.modelName then lower left.modelName = lower right.modelName
    else left.endpointType = right.endpointType ∧ left.channelID = right.channelID

section Stages

variable {β γ : Type} [LinearOrder β] [LinearOrder γ]

/-- One criterion of a comparison whose later criteria end in `named`. -/
theorem stage_iff (x y : β) {u v : γ} {rest : Bool} {named : Prop} (inner : rest = true ↔ u < v ∨ (u = v ∧ named)) :
    ((if x ≠ y then decide (x < y) else rest) = true) ↔
      toLex (x, u) < toLex (y, v) ∨ (toLex (x, u) = toLex (y, v) ∧ named) := by
  rw [Prod.Lex.toLex_lt_toLex, toLex_inj, Prod.mk.injEq]
  by_cases same : x = y
  · simp [same, inner]
  · simp [same]

theorem last_iff (x y : β) {rest : Bool} {named : Prop} (inner : rest = true ↔ named) :
    ((if x ≠ y then decide (x < y) else rest) = true) ↔ x < y ∨ (x = y ∧ named) := by
  by_cases same : x = y
  · simp [same, inner]
  · simp [same]

end Stages

theorem flag_stage (a b rest : Bool) :
    (if a ≠ b then a else rest) = if (!a) ≠ (!b) then decide ((!a) < (!b)) else rest := by
  cases a <;> cases b <;> rfl

theorem hard_stage (a b rest : Bool) : (if a ≠ b then !a else rest) = if a ≠ b then decide (a < b) else rest := by
  cases a <;> cases b <;> rfl

theorem firstToken_stage (x y : Option Int) (rest : Bool) :
    (match x, y with
      | some _, none => true
      | none, some _ => false
      | some ms, some other => if ms ≠ other then decide (ms < other) else rest
      | none, none => rest) =
    if x.isNone ≠ y.isNone then decide (x.isNone < y.isNone)
    else if x.getD 0 ≠ y.getD 0 then decide (x.getD 0 < y.getD 0) else rest := by
  cases x <;> cases y <;> rfl

theorem score_stage (x y : Option Int) (rest : Bool) :
    (match x, y with
      | none, none => rest
      | none, some _ => false
      | some _, none => true
      | some score, some other => if score ≠ other then decide (score > other) else rest) =
    if x.isNone ≠ y.isNone then decide (x.isNone < y.isNone)
    else if -(x.getD 0) ≠ -(y.getD 0) then decide (-(x.getD 0) < -(y.getD 0)) else rest := by
  cases x <;> cases y <;> simp

section Compare

variable (lower : String → String) (left right : HubRoutingHealthRow)

theorem rate_stage (rest : Bool) :
    (if left.hasReal ≠ right.hasReal then left.hasReal
      else if left.hasReal ∧ left.realSuccessRateBps ≠ right.realSuccessRateBps then
        decide (left.realSuccessRateBps > right.realSuccessRateBps)
      else rest) =
    if left.realRate.isNone ≠ right.realRate.isNone then decide (left.realRate.isNone < right.realRate.isNone)
    else if -(left.realRate.getD 0) ≠ -(right.realRate.getD 0) then
      decide (-(left.realRate.getD 0) < -(right.realRate.getD 0))
    else rest := by
  unfold realRate
  cases left.hasReal <;> cases right.hasReal <;> simp

/-- The comparison follows the quality, and then the names. -/
theorem less_iff : less lower left right = true ↔
    left.quality < right.quality ∨ (left.quality = right.quality ∧ lessByName lower left right = true) := by
  unfold less lessByScore
  rw [score_stage, rate_stage, firstToken_stage, hard_stage, flag_stage]
  exact stage_iff _ _ (stage_iff _ _ (stage_iff _ _ (stage_iff _ _ (stage_iff _ _ (stage_iff _ _ (stage_iff _ _
    (stage_iff _ _ (last_iff _ _ Iff.rfl))))))))

variable {lower left right}

theorem Blurred.lessByName (blurred : Blurred lower left right) :
    left.lessByName lower right = false ∧ right.lessByName lower left = false := by
  obtain ⟨-, names⟩ := blurred
  unfold HubRoutingHealthRow.lessByName
  by_cases provider : left.providerName = right.providerName
  · by_cases channel : left.channelName = right.channelName
    · by_cases model : left.modelName = right.modelName
      · simp only [provider, channel, model, ne_eq, not_true_eq_false, if_false] at names
        simp [provider, channel, model, names.1, names.2]
      · simp only [provider, channel, model, ne_eq, not_true_eq_false, not_false_eq_true, if_false, if_true] at names
        simp [provider, channel, model, Ne.symm model, names]
    · simp only [provider, channel, ne_eq, not_true_eq_false, not_false_eq_true, if_false, if_true] at names
      simp [provider, channel, Ne.symm channel, names]
  · simp only [provider, ne_eq, not_false_eq_true, if_true] at names
    simp [provider, Ne.symm provider, names]

theorem Blurred.incomparable (blurred : Blurred lower left right) :
    less lower left right = false ∧ less lower right left = false := by
  obtain ⟨first, second⟩ := blurred.lessByName
  rw [← Bool.not_eq_true, ← Bool.not_eq_true, less_iff, less_iff, blurred.1, first, second]
  simp

/-- Rows that are not blurred are compared by quality, lower-cased names,
endpoint type and channel. -/
theorem less_iff_of_apart (apart : ¬Blurred lower left right) :
    (less lower left right = true ↔
      toLex (left.quality, left.identity lower) < toLex (right.quality, right.identity lower)) ∧
      toLex (left.quality, left.identity lower) ≠ toLex (right.quality, right.identity lower) := by
  rw [less_iff, Prod.Lex.toLex_lt_toLex, Ne, toLex_inj, Prod.mk.injEq]
  by_cases same : left.quality = right.quality
  · simp only [same, lt_irrefl, false_or, true_and]
    unfold Blurred at apart
    unfold HubRoutingHealthRow.lessByName identity
    simp only [Prod.Lex.toLex_lt_toLex, toLex_inj, Prod.mk.injEq]
    by_cases provider : left.providerName = right.providerName
    · by_cases channel : left.channelName = right.channelName
      · by_cases model : left.modelName = right.modelName
        · simp only [same, provider, channel, model, ne_eq, not_true_eq_false, if_false, true_and, not_and] at apart
          by_cases endpoint : left.endpointType = right.endpointType
          · simp [provider, channel, model, endpoint, apart endpoint]
          · simp [provider, channel, model, endpoint]
        · simp only [same, provider, channel, model, ne_eq, not_true_eq_false, not_false_eq_true, if_false, if_true,
            true_and] at apart
          simp [provider, channel, model, apart]
      · simp only [same, provider, channel, ne_eq, not_true_eq_false, not_false_eq_true, if_false, if_true,
          true_and] at apart
        simp [provider, channel, apart]
    · simp only [same, provider, ne_eq, not_false_eq_true, if_true, true_and] at apart
      simp [provider, apart]
  · simp [same]

theorem less_self (row : HubRoutingHealthRow) : less lower row row = false := by
  rw [← Bool.not_eq_true, less_iff]
  simp [HubRoutingHealthRow.lessByName]

end Compare

end HubRoutingHealthRow

open HubRoutingHealthRow in
/-- The ranking is consistent, and does not depend on the order of loading,
exactly if no two rows are blurred. -/
theorem ranking_consistent_iff (lower : String → String) (rows : List HubRoutingHealthRow) :
    (Go.StrictWeakOn (less lower) rows ∧
      (∀ a ∈ rows, ∀ b ∈ rows, a.channelID ≠ b.channelID ∨ a.endpointType ≠ b.endpointType →
        less lower a b = true ∨ less lower b a = true) ∧
      ∀ loaded, loaded.Perm rows → sortHubRoutingHealthRows lower loaded = sortHubRoutingHealthRows lower rows ∧
        ∀ offset limit, healthPage lower loaded offset limit = healthPage lower rows offset limit) ↔
      ∀ a ∈ rows, ∀ b ∈ rows, a ≠ b → ¬Blurred lower a b := by
  constructor
  · rintro ⟨weak, -, invariant⟩ a one b two different blurred
    obtain ⟨first, second⟩ := blurred.incomparable
    rcases (Go.sortStable_invariant_iff weak).mp (fun loaded order => (invariant loaded order).1) a one b two different with
      less | less
    · exact absurd less (by simp [first])
    · exact absurd less (by simp [second])
  · intro apart
    have keyed : ∀ a ∈ rows, ∀ b ∈ rows, less lower a b = true ↔
        toLex (a.quality, a.identity lower) < toLex (b.quality, b.identity lower) := by
      intro a one b two
      by_cases same : a = b
      · simp [same, less_self]
      · exact (less_iff_of_apart (apart a one b two same)).1
    have unordered : ∀ a ∈ rows, ∀ b ∈ rows, less lower a b = false ↔
        toLex (b.quality, b.identity lower) ≤ toLex (a.quality, a.identity lower) := by
      intro a one b two
      rw [← not_lt, ← keyed a one b two, Bool.not_eq_true]
    have weak : Go.StrictWeakOn (less lower) rows := by
      refine ⟨fun a _ => less_self a, ?_, ?_⟩
      · intro a one b two c three ab bc
        rw [keyed a one b two] at ab
        rw [keyed b two c three] at bc
        exact (keyed a one c three).mpr (ab.trans bc)
      · intro a one b two c three ab ba bc cb
        rw [unordered a one b two] at ab
        rw [unordered b two a one] at ba
        rw [unordered b two c three] at bc
        rw [unordered c three b two] at cb
        exact ⟨(unordered a one c three).mpr (bc.trans ab), (unordered c three a one).mpr (ba.trans cb)⟩
    have total : ∀ a ∈ rows, ∀ b ∈ rows, a ≠ b → less lower a b = true ∨ less lower b a = true := by
      intro a one b two different
      rw [keyed a one b two, keyed b two a one]
      exact lt_or_gt_of_ne (less_iff_of_apart (apart a one b two different)).2
    refine ⟨weak, ?_, ?_⟩
    · rintro a one b two differ
      refine total a one b two ?_
      rintro rfl
      simp at differ
    · intro loaded order
      have sorted := (Go.sortStable_invariant_iff weak).mpr total loaded order
      refine ⟨sorted, fun offset limit => ?_⟩
      rw [healthPage, healthPage, sortHubRoutingHealthRows, sortHubRoutingHealthRows, sorted, order.length_eq]

def caseRows : List HubRoutingHealthRow :=
  [{ channelID := 1, providerName := "Acme", channelName := "x" },
    { channelID := 2, providerName := "acme", channelName := "y" },
    { channelID := 3, providerName := "Acme", channelName := "z" }]

open HubRoutingHealthRow in
/-- The second row is incomparable with its neighbours, which are in order, and
the ranking is that of the loading. -/
theorem caseRows_inconsistent :
    (∀ first second third, caseRows = [first, second, third] →
      less Go.toLower first second = false ∧ less Go.toLower second first = false ∧
        less Go.toLower second third = false ∧ less Go.toLower third second = false ∧
        less Go.toLower first third = true) ∧
      sortHubRoutingHealthRows Go.toLower caseRows ≠ sortHubRoutingHealthRows Go.toLower caseRows.reverse := by
  refine ⟨?_, by decide +kernel⟩
  rintro first second third ⟨⟩
  decide +kernel

end LLMHub
