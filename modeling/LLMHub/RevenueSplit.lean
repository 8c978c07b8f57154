import LLMHub.Schema.Database
import Mathlib.Tactic.FieldSimp
import Mathlib.Tactic.NormNum

namespace LLMHub

open Store Action

/-- `int((int64(amount)*int64(basisPoints) + 5000) / 10000)`. The products stay
far below `2 ^ 63` for quota columns and clamped basis points. -/
def basisPointShare (amount basisPoints : Int) : Int := (amount * basisPoints + 5000).tdiv 10000

def clampHubProviderBasisPoints (value : Int) : Int :=
  if value < 0 then 0 else if value > 10000 then 10000 else value

def calculateHubProviderRevenueSplit (grossQuota feeBasisPoints : Int) : Int × Int :=
  if grossQuota ≤ 0 then (0, 0)
  else
    let platformFee := basisPointShare grossQuota (clampHubProviderBasisPoints feeBasisPoints)
    (platformFee, grossQuota - platformFee)

def calculateHubProviderRevenueSplitWithReferral (grossQuota feeBasisPoints referralBasisPoints : Int) :
    Int × Int × Int :=
  let (platformFee, providerIncome) := calculateHubProviderRevenueSplit grossQuota feeBasisPoints
  if providerIncome ≤ 0 ∨ referralBasisPoints ≤ 0 then (platformFee, providerIncome, 0)
  else
    let referralIncome := min (basisPointShare grossQuota (min referralBasisPoints 10000)) providerIncome
    (platformFee, providerIncome - referralIncome, referralIncome)

/-- The shares of one charge between platform, serving provider, referring
provider and tenant reseller. -/
structure TwoLayerSplit where
  platformFee : Int
  providerIncome : Int
  referralIncome : Int
  resellerGross : Int
  resellerNet : Int
  deriving DecidableEq, Repr

def calculateHubProviderTwoLayerRevenueSplit
    (grossQuota providerServiceFeeBasisPoints platformFeeBasisPoints referralBasisPoints : Int) : TwoLayerSplit :=
  if grossQuota ≤ 0 then ⟨0, 0, 0, 0, 0⟩
  else
    let resellerGross := basisPointShare grossQuota (clampHubProviderBasisPoints providerServiceFeeBasisPoints)
    let providerGross := grossQuota - resellerGross
    let platformFee := basisPointShare resellerGross (clampHubProviderBasisPoints platformFeeBasisPoints)
    let referralIncome :=
      if providerGross > 0 ∧ referralBasisPoints > 0 then
        min (basisPointShare grossQuota (clampHubProviderBasisPoints referralBasisPoints)) providerGross
      else 0
    ⟨platformFee, providerGross - referralIncome, referralIncome, resellerGross, resellerGross - platformFee⟩

def calculateHubProviderSupplyQuota (earning : HubProviderEarning) (grossQuota : Int) : Except QuotaClamp Int :=
  if grossQuota ≤ 0 then .ok 0
  else if !earning.fallbackPriceProtection || earning.billingRatio ≤ 0 || earning.supplyBillingRatio ≤ 0 ||
      earning.supplyBillingRatio ≥ earning.billingRatio then .ok grossQuota
  else quotaRoundStrict (grossQuota * earning.supplyBillingRatio / earning.billingRatio)

def compatibleHubProviderSupplyQuota (earning : HubProviderEarning) (grossQuota : Int) : Int :=
  if earning.supplyGrossQuota = 0 ∧ earning.fallbackPriceProtection = false then grossQuota
  else earning.supplyGrossQuota

structure RevenueSplit where
  platformFee : Int
  providerIncome : Int
  referralIncome : Int
  resellerGross : Int
  resellerNet : Int
  supplyGross : Int
  fallbackSpreadPlatform : Int
  deriving DecidableEq, Repr

/-- The arithmetic of `calculateHubProviderEarningRevenueSplit`, once the
referral rate that still applies and the supply amount are known. Under price
protection the referral share is taken from the price spread only. -/
def splitRevenue (earning : HubProviderEarning) (grossQuota referralBasisPoints supplyGrossQuota : Int) :
    RevenueSplit :=
  let spreadQuota := max (grossQuota - supplyGrossQuota) 0
  if earning.fallbackPriceProtection then
    let base : TwoLayerSplit :=
      if earning.settlementVersion ≥ 2 then
        calculateHubProviderTwoLayerRevenueSplit supplyGrossQuota earning.providerServiceFeeBasisPoints
          earning.platformFeeBasisPoints 0
      else
        let (platformFee, providerIncome) :=
          calculateHubProviderRevenueSplit supplyGrossQuota earning.platformFeeBasisPoints
        ⟨platformFee, providerIncome, 0, 0, 0⟩
    let referralIncome :=
      min (basisPointShare spreadQuota (clampHubProviderBasisPoints referralBasisPoints)) spreadQuota
    let fallbackSpreadPlatform := spreadQuota - referralIncome
    ⟨base.platformFee + fallbackSpreadPlatform, base.providerIncome, referralIncome, base.resellerGross,
      base.resellerNet, supplyGrossQuota, fallbackSpreadPlatform⟩
  else if earning.settlementVersion < 2 then
    let (platformFee, providerIncome, referralIncome) :=
      calculateHubProviderRevenueSplitWithReferral supplyGrossQuota earning.platformFeeBasisPoints referralBasisPoints
    ⟨platformFee, providerIncome, referralIncome, 0, 0, supplyGrossQuota, 0⟩
  else
    let split := calculateHubProviderTwoLayerRevenueSplit supplyGrossQuota
      earning.providerServiceFeeBasisPoints earning.platformFeeBasisPoints referralBasisPoints
    ⟨split.platformFee, split.providerIncome, split.referralIncome, split.resellerGross, split.resellerNet,
      supplyGrossQuota, 0⟩

/-- The referral provider may still collect: its row exists, is active and has
the owner recorded in the snapshot. -/
def referralEligible (earning : HubProviderEarning) : Option HubProvider → Bool
  | some provider => provider.status = .active && provider.ownerUserId = earning.referralOwnerUserId
  | none => false

def checkReferralProvider (earning : HubProviderEarning) : Command Bool :=
  if earning.referralBasisPoints > 0 ∧ earning.referralProviderId > 0 then do
    let referralProvider ← find fun p : HubProvider => p.id == earning.referralProviderId
    pure (referralEligible earning referralProvider)
  else pure true

def calculateHubProviderEarningRevenueSplit (earning : HubProviderEarning) (grossQuota : Int) :
    Command RevenueSplit := do
  let eligible ← checkReferralProvider earning
  let referralBasisPoints := if eligible then earning.referralBasisPoints else 0
  let supplyGrossQuota ← ofExcept ((calculateHubProviderSupplyQuota earning grossQuota).mapError .quotaClamp)
  pure (splitRevenue earning grossQuota referralBasisPoints supplyGrossQuota)

/-- What `checkReferralProvider` answers in `db`. -/
def referralApplies (db : DB) (earning : HubProviderEarning) : Bool :=
  if earning.referralBasisPoints > 0 ∧ earning.referralProviderId > 0 then
    referralEligible earning (db.hubProviders.first fun p => p.id == earning.referralProviderId)
  else true

def appliedReferralBasisPoints (db : DB) (earning : HubProviderEarning) : Int :=
  if referralApplies db earning then earning.referralBasisPoints else 0

variable {earning : HubProviderEarning} {grossQuota supply : Int}

theorem checkReferralProvider_returns {eligible : Bool} {db db' : DB}
    (run : (checkReferralProvider earning).Returns db eligible db') :
    eligible = referralApplies db earning ∧ db' = db := by
  unfold checkReferralProvider at run
  unfold referralApplies
  split_ifs at run ⊢
  · obtain ⟨provider, mid, found, answer⟩ := run.bind
    obtain ⟨rfl, rfl⟩ := found.find
    exact answer.pure
  · exact run.pure

theorem revenueSplit_returns {split : RevenueSplit}
    {db db' : DB} (run : (calculateHubProviderEarningRevenueSplit earning grossQuota).Returns db split db') :
    db' = db ∧ ∃ supply, calculateHubProviderSupplyQuota earning grossQuota = .ok supply ∧
      split = splitRevenue earning grossQuota (appliedReferralBasisPoints db earning) supply := by
  obtain ⟨eligible, mid, lookup, rest⟩ := run.bind
  obtain ⟨rfl, rfl⟩ := checkReferralProvider_returns lookup
  obtain ⟨supply, mid', supplied, result⟩ := rest.bind
  obtain ⟨amount, rfl⟩ := supplied.ofExcept
  obtain ⟨rfl, rfl⟩ := result.pure
  refine ⟨rfl, supply, ?_, rfl⟩
  cases computed : calculateHubProviderSupplyQuota earning grossQuota with
  | error clamp => simp [computed, Except.mapError] at amount
  | ok value => simpa [computed, Except.mapError] using amount

/-- Without driver failures the split is computed whenever the supply amount is. -/
theorem revenueSplit_run {db : DB} (supplied : calculateHubProviderSupplyQuota earning grossQuota = .ok supply) :
    calculateHubProviderEarningRevenueSplit earning grossQuota ⟨db, []⟩ =
      (.ok (splitRevenue earning grossQuota (appliedReferralBasisPoints db earning) supply), ⟨db, []⟩) := by
  have lookup : checkReferralProvider earning ⟨db, []⟩ = (.ok (referralApplies db earning), ⟨db, []⟩) := by
    unfold checkReferralProvider referralApplies
    split_ifs <;> rfl
  unfold calculateHubProviderEarningRevenueSplit
  rw [bind_ok lookup, supplied]
  rfl

theorem clampHubProviderBasisPoints_bounds (value : Int) :
    0 ≤ clampHubProviderBasisPoints value ∧ clampHubProviderBasisPoints value ≤ 10000 := by
  unfold clampHubProviderBasisPoints
  split_ifs <;> omega

theorem basisPointShare_bounds {amount basisPoints : Int} (positive : 0 ≤ amount) (lower : 0 ≤ basisPoints)
    (upper : basisPoints ≤ 10000) :
    0 ≤ basisPointShare amount basisPoints ∧ basisPointShare amount basisPoints ≤ amount := by
  have least : 0 ≤ amount * basisPoints := mul_nonneg positive lower
  have most : amount * basisPoints ≤ amount * 10000 := mul_le_mul_of_nonneg_left upper positive
  unfold basisPointShare
  rw [Int.tdiv_eq_ediv_of_nonneg (by omega)]
  omega

theorem calculateHubProviderRevenueSplit_balanced {feeBasisPoints platformFee providerIncome : Int}
    (split : calculateHubProviderRevenueSplit grossQuota feeBasisPoints = (platformFee, providerIncome)) :
    0 ≤ platformFee ∧ 0 ≤ providerIncome ∧ platformFee + providerIncome = max grossQuota 0 := by
  have clamp := clampHubProviderBasisPoints_bounds feeBasisPoints
  unfold calculateHubProviderRevenueSplit at split
  split_ifs at split with empty
  · cases split
    omega
  · have fee := basisPointShare_bounds (not_le.mp empty).le clamp.1 clamp.2
    cases split
    omega

theorem calculateHubProviderRevenueSplitWithReferral_balanced
    {feeBasisPoints referralBasisPoints platformFee providerIncome referralIncome : Int}
    (split : calculateHubProviderRevenueSplitWithReferral grossQuota feeBasisPoints referralBasisPoints =
      (platformFee, providerIncome, referralIncome)) :
    0 ≤ platformFee ∧ 0 ≤ providerIncome ∧ 0 ≤ referralIncome ∧
      platformFee + providerIncome + referralIncome = max grossQuota 0 := by
  unfold calculateHubProviderRevenueSplitWithReferral at split
  cases base : calculateHubProviderRevenueSplit grossQuota feeBasisPoints with
  | mk fee income =>
    have layer := calculateHubProviderRevenueSplit_balanced base
    simp only [base] at split
    split_ifs at split with unreferred
    · cases split
      omega
    · have positive : 0 ≤ grossQuota := by omega
      have rate : 0 ≤ min referralBasisPoints 10000 := by omega
      have share := basisPointShare_bounds positive rate (min_le_right _ _)
      cases split
      omega

/-- What a two-layer split of `grossQuota` guarantees. -/
structure TwoLayerSplit.Balanced (split : TwoLayerSplit) (grossQuota : Int) : Prop where
  total : split.platformFee + split.providerIncome + split.referralIncome + split.resellerNet = grossQuota
  platformFee : 0 ≤ split.platformFee
  providerIncome : 0 ≤ split.providerIncome
  referralIncome : 0 ≤ split.referralIncome
  resellerNet : 0 ≤ split.resellerNet
  reseller : split.resellerGross = split.resellerNet + split.platformFee

theorem calculateHubProviderTwoLayerRevenueSplit_balanced (positive : 0 ≤ grossQuota)
    (service platform referral : Int) :
    (calculateHubProviderTwoLayerRevenueSplit grossQuota service platform referral).Balanced grossQuota := by
  have serviceClamp := clampHubProviderBasisPoints_bounds service
  have platformClamp := clampHubProviderBasisPoints_bounds platform
  have referralClamp := clampHubProviderBasisPoints_bounds referral
  have reseller := basisPointShare_bounds positive serviceClamp.1 serviceClamp.2
  have fee := basisPointShare_bounds reseller.1 platformClamp.1 platformClamp.2
  have share := basisPointShare_bounds positive referralClamp.1 referralClamp.2
  unfold calculateHubProviderTwoLayerRevenueSplit
  split_ifs <;> constructor <;> simp only <;> omega

/-- The supply amount lies within the charge, and differs from it under price
protection only. -/
theorem calculateHubProviderSupplyQuota_bounds
    (positive : 0 < grossQuota) (run : calculateHubProviderSupplyQuota earning grossQuota = .ok supply) :
    0 ≤ supply ∧ supply ≤ grossQuota ∧ (earning.fallbackPriceProtection = false → supply = grossQuota) := by
  unfold calculateHubProviderSupplyQuota at run
  rw [if_neg (by omega)] at run
  split at run
  · cases run
    exact ⟨by omega, le_rfl, fun _ => rfl⟩
  · rename_i spread
    simp only [Bool.or_eq_true, decide_eq_true_eq, Bool.not_eq_true', not_or, not_le, ge_iff_le] at spread
    obtain ⟨⟨⟨guarded, billing⟩, supplied⟩, cheaper⟩ := spread
    have gross : (0 : ℚ) < grossQuota := by exact_mod_cast positive
    have lower : 0 ≤ grossQuota * earning.supplyBillingRatio / earning.billingRatio := by positivity
    have upper : grossQuota * earning.supplyBillingRatio / earning.billingRatio ≤ grossQuota := by
      rw [div_le_iff₀ billing]
      exact mul_le_mul_of_nonneg_left cheaper.le gross.le
    obtain ⟨rfl, -, -⟩ := quotaRoundStrict_ok run
    exact ⟨Go.round_nonneg lower, Go.round_le lower upper, fun off => absurd off guarded⟩

/-- What every split of `grossQuota` guarantees. -/
structure RevenueSplit.Balanced (split : RevenueSplit) (grossQuota : Int) : Prop where
  total : split.platformFee + split.providerIncome + split.referralIncome + split.resellerNet = grossQuota
  platformFee : 0 ≤ split.platformFee
  providerIncome : 0 ≤ split.providerIncome
  referralIncome : 0 ≤ split.referralIncome
  resellerGross : 0 ≤ split.resellerGross
  resellerNet : 0 ≤ split.resellerNet
  supplyGross : 0 ≤ split.supplyGross ∧ split.supplyGross ≤ grossQuota
  spread : 0 ≤ split.fallbackSpreadPlatform ∧ split.fallbackSpreadPlatform ≤ split.platformFee

theorem splitRevenue_balanced (referral : Int) (lower : 0 ≤ supply) (upper : supply ≤ grossQuota)
    (unprotected : earning.fallbackPriceProtection = false → supply = grossQuota) :
    (splitRevenue earning grossQuota referral supply).Balanced grossQuota := by
  have clamp := clampHubProviderBasisPoints_bounds referral
  have share := basisPointShare_bounds (le_max_right (grossQuota - supply) 0) clamp.1 clamp.2
  have layered := calculateHubProviderTwoLayerRevenueSplit_balanced lower earning.providerServiceFeeBasisPoints
    earning.platformFeeBasisPoints
  unfold splitRevenue
  split_ifs with guarded version legacy
  · obtain ⟨total, fee, income, referred, net, reseller⟩ := layered 0
    have unreferred : (calculateHubProviderTwoLayerRevenueSplit supply earning.providerServiceFeeBasisPoints
        earning.platformFeeBasisPoints 0).referralIncome = 0 := by
      unfold calculateHubProviderTwoLayerRevenueSplit
      split_ifs <;> simp
    constructor <;> simp only <;> omega
  · cases base : calculateHubProviderRevenueSplit supply earning.platformFeeBasisPoints with
    | mk fee income =>
      have layer := calculateHubProviderRevenueSplit_balanced base
      constructor <;> simp only <;> omega
  · have whole := unprotected (by simpa using guarded)
    cases base : calculateHubProviderRevenueSplitWithReferral supply earning.platformFeeBasisPoints referral with
    | mk fee shares =>
      have layer := calculateHubProviderRevenueSplitWithReferral_balanced base
      constructor <;> simp only <;> omega
  · have whole := unprotected (by simpa using guarded)
    obtain ⟨total, fee, income, referred, net, reseller⟩ := layered referral
    constructor <;> simp only <;> omega

theorem splitRevenue_resellerGross (grossQuota referral : Int)
    (lower : 0 ≤ supply) (version : earning.settlementVersion ≥ 2) :
    (splitRevenue earning grossQuota referral supply).resellerGross =
      (splitRevenue earning grossQuota referral supply).resellerNet +
        ((splitRevenue earning grossQuota referral supply).platformFee -
          (splitRevenue earning grossQuota referral supply).fallbackSpreadPlatform) := by
  have layered := fun referral => (calculateHubProviderTwoLayerRevenueSplit_balanced lower
    earning.providerServiceFeeBasisPoints earning.platformFeeBasisPoints referral).reseller
  unfold splitRevenue
  split_ifs with guarded legacy
  · have two := layered 0
    simp only
    omega
  · omega
  · have two := layered referral
    simp only
    omega

theorem revenueSplit_returns_balanced {split : RevenueSplit} {db db' : DB} (positive : 0 < grossQuota)
    (run : (calculateHubProviderEarningRevenueSplit earning grossQuota).Returns db split db') :
    split.Balanced grossQuota := by
  obtain ⟨-, supply, supplied, rfl⟩ := revenueSplit_returns run
  obtain ⟨lower, upper, whole⟩ := calculateHubProviderSupplyQuota_bounds positive supplied
  exact splitRevenue_balanced _ lower upper whole

/-- Every split that is returned distributes exactly the charge, whatever the
snapshot's rates, version and ratios are and whatever became of the referral
provider. -/
theorem calculateHubProviderEarningRevenueSplit_conserves {earning : HubProviderEarning} {grossQuota : Int}
    {split : RevenueSplit} {db db' : DB} (positive : 1 ≤ grossQuota)
    (run : (calculateHubProviderEarningRevenueSplit earning grossQuota).Returns db split db') :
    split.platformFee + split.providerIncome + split.referralIncome + split.resellerNet = grossQuota ∧
      (0 ≤ split.platformFee ∧ 0 ≤ split.providerIncome ∧ 0 ≤ split.referralIncome ∧ 0 ≤ split.resellerGross ∧
        0 ≤ split.resellerNet ∧ 0 ≤ split.fallbackSpreadPlatform) ∧
      (0 ≤ split.supplyGross ∧ split.supplyGross ≤ grossQuota) ∧
      split.fallbackSpreadPlatform ≤ split.platformFee ∧
      (earning.settlementVersion ≥ 2 →
        split.resellerGross = split.resellerNet + (split.platformFee - split.fallbackSpreadPlatform)) := by
  have balanced := revenueSplit_returns_balanced positive run
  obtain ⟨-, supply, supplied, rfl⟩ := revenueSplit_returns run
  obtain ⟨lower, -, -⟩ := calculateHubProviderSupplyQuota_bounds positive supplied
  refine ⟨balanced.total, ⟨balanced.platformFee, balanced.providerIncome, balanced.referralIncome,
    balanced.resellerGross, balanced.resellerNet, balanced.spread.1⟩, balanced.supplyGross, balanced.spread.2, ?_⟩
  exact splitRevenue_resellerGross grossQuota _ lower

/-- A protected fallback served at half the price of the requested provider,
which is still active and takes a fifth of the spread. -/
def protectedFallback : HubProviderEarning :=
  { requestId := "req-1", entryType := .usage, status := .pending, providerId := 2, referralProviderId := 1,
    referralOwnerUserId := 7, referralBasisPoints := 2000, fallbackPriceProtection := true, billingRatio := 2,
    supplyBillingRatio := 1, settlementVersion := 2, providerServiceFeeBasisPoints := 1000,
    platformFeeBasisPoints := 3000 }

def protectedFallbackDB : DB :=
  { hubProviders := .single { id := 1, ownerUserId := 7, status := .active } }

theorem protectedFallback_supply : calculateHubProviderSupplyQuota protectedFallback 1000 = .ok 500 := by
  have half : Go.round 500 = 500 := by norm_num [Go.round]
  norm_num [calculateHubProviderSupplyQuota, protectedFallback, quotaRoundStrict, quotaRoundChecked, half]
  rfl

theorem calculateHubProviderEarningRevenueSplit_conserves_at_fallback :
    ∃ split, (calculateHubProviderEarningRevenueSplit protectedFallback 1000).Returns protectedFallbackDB split
        protectedFallbackDB ∧
      split.platformFee + split.providerIncome + split.referralIncome + split.resellerNet = 1000 := by
  have run : (calculateHubProviderEarningRevenueSplit protectedFallback 1000).Returns protectedFallbackDB _ _ :=
    ⟨[], [], revenueSplit_run protectedFallback_supply⟩
  exact ⟨_, run, (calculateHubProviderEarningRevenueSplit_conserves (by decide) run).1⟩

end LLMHub
