import LLMHub.Settlement.Balances

namespace LLMHub

open Store Action Go

theorem splitRevenue_supplyGross (earning : HubProviderEarning) (grossQuota rate supply : Int) :
    (splitRevenue earning grossQuota rate supply).supplyGross = supply := by
  unfold splitRevenue
  split_ifs <;> rfl

/-- Without a referral rate nothing goes to the referral provider. -/
theorem splitRevenue_unreferred (earning : HubProviderEarning) (grossQuota supply : Int) :
    (splitRevenue earning grossQuota 0 supply).referralIncome = 0 := by
  unfold splitRevenue
  split_ifs
  · simp [clampHubProviderBasisPoints, basisPointShare]
  · simp [clampHubProviderBasisPoints, basisPointShare]
  · simp [calculateHubProviderRevenueSplitWithReferral]
  · unfold calculateHubProviderTwoLayerRevenueSplit
    split_ifs <;> simp

/-- The referral share is taken from the provider's income. -/
theorem revenueSplitWithReferral_eq (grossQuota fee rate : Int) :
    calculateHubProviderRevenueSplitWithReferral grossQuota fee rate =
      ((calculateHubProviderRevenueSplit grossQuota fee).1,
        (calculateHubProviderRevenueSplit grossQuota fee).2 -
          (calculateHubProviderRevenueSplitWithReferral grossQuota fee rate).2.2,
        (calculateHubProviderRevenueSplitWithReferral grossQuota fee rate).2.2) := by
  unfold calculateHubProviderRevenueSplitWithReferral
  simp only
  split_ifs <;> simp

theorem twoLayerRevenueSplit_eq_of_referralIncome {grossQuota service fee rate rate' : Int}
    (same : (calculateHubProviderTwoLayerRevenueSplit grossQuota service fee rate).referralIncome =
      (calculateHubProviderTwoLayerRevenueSplit grossQuota service fee rate').referralIncome) :
    calculateHubProviderTwoLayerRevenueSplit grossQuota service fee rate =
      calculateHubProviderTwoLayerRevenueSplit grossQuota service fee rate' := by
  unfold calculateHubProviderTwoLayerRevenueSplit at same ⊢
  by_cases empty : grossQuota ≤ 0
  · rw [if_pos empty, if_pos empty]
  · rw [if_neg empty, if_neg empty] at same ⊢
    simp only at same
    simp only [same]

/-- The referral share decides all other figures of the split. -/
theorem splitRevenue_eq_of_referralIncome {earning : HubProviderEarning} {grossQuota rate rate' supply : Int}
    (same : (splitRevenue earning grossQuota rate supply).referralIncome =
      (splitRevenue earning grossQuota rate' supply).referralIncome) :
    splitRevenue earning grossQuota rate supply = splitRevenue earning grossQuota rate' supply := by
  unfold splitRevenue at same ⊢
  split_ifs at same ⊢
  · simp only at same
    simp only [same]
  · simp only at same
    simp only [same]
  · simp only at same
    rw [revenueSplitWithReferral_eq _ _ rate, revenueSplitWithReferral_eq _ _ rate', same]
  · rw [twoLayerRevenueSplit_eq_of_referralIncome same]

/-- The columns a settlement has written are the ones a replay looks for. -/
theorem HubProviderEarning.Records.settle {earning : HubProviderEarning} {now grossQuota rate supply : Int}
    (positive : 0 < grossQuota) (supplied : calculateHubProviderSupplyQuota earning grossQuota = .ok supply) :
    ((HubProviderEarning.settle now grossQuota (splitRevenue earning grossQuota rate supply)).set earning).Records
      grossQuota (splitRevenue earning grossQuota rate supply) := by
  refine ⟨rfl, rfl, rfl, rfl, ?_, rfl, fun _ => ⟨rfl, rfl⟩⟩
  unfold compatibleHubProviderSupplyQuota
  split_ifs with legacy
  · rw [splitRevenue_supplyGross]
    unfold calculateHubProviderSupplyQuota at supplied
    have unprotected : earning.fallbackPriceProtection = false := legacy.2
    rw [if_neg (not_le.mpr positive), unprotected] at supplied
    simpa using supplied
  · rfl

/-- A row that records one split records another exactly when both give the
same to the referral provider. -/
theorem HubProviderEarning.Records.replay_iff {earning : HubProviderEarning} {grossQuota rate rate' supply : Int}
    (records : earning.Records grossQuota (splitRevenue earning grossQuota rate supply)) :
    earning.Records grossQuota (splitRevenue earning grossQuota rate' supply) ↔
      (splitRevenue earning grossQuota rate' supply).referralIncome =
        (splitRevenue earning grossQuota rate supply).referralIncome := by
  constructor
  · intro replayed
    exact replayed.2.2.2.1.symm.trans records.2.2.2.1
  · intro same
    rw [splitRevenue_eq_of_referralIncome same]
    exact records

/-- Two databases give the same to the referral provider when they agree on
whether it may collect, and always when its share would be nothing anyway. -/
theorem referralIncome_iff {earning : HubProviderEarning} {grossQuota supply : Int} {db db' : DB} :
    (splitRevenue earning grossQuota (appliedReferralBasisPoints db' earning) supply).referralIncome =
        (splitRevenue earning grossQuota (appliedReferralBasisPoints db earning) supply).referralIncome ↔
      referralApplies db' earning = referralApplies db earning ∨
        (splitRevenue earning grossQuota earning.referralBasisPoints supply).referralIncome = 0 := by
  unfold appliedReferralBasisPoints
  cases now : referralApplies db' earning <;> cases then_ : referralApplies db earning <;>
    simp [splitRevenue_unreferred, eq_comm]

/-- The row of a request as a settlement that saw the providers of `db₀` left
it. -/
structure SettledAs (db₀ db : DB) (requestId : String) (grossQuota : Int) (earning : HubProviderEarning)
    (supply : Int) : Prop where
  member : earning ∈ db.hubProviderEarnings.rows
  named : earning.requestId = trimSpace requestId
  settled : earning.status = .settled
  ready : earning.settlementDeferred ≠ some true
  supplied : calculateHubProviderSupplyQuota earning grossQuota = .ok supply
  records : earning.Records grossQuota
    (splitRevenue earning grossQuota (appliedReferralBasisPoints db₀ earning) supply)

theorem settleHubProviderEarning_settledAs {env : Env} {requestId : String} {grossQuota : Int} {u : Unit} {db db' : DB}
    (run : (settleHubProviderEarning env requestId grossQuota).Returns db u db') :
    ¬(trimSpace requestId = "" ∨ grossQuota ≤ 0) ∧ ∃ earning supply, SettledAs db db' requestId grossQuota earning supply := by
  obtain ⟨earning, split, name, positive, found, -, ready, ⟨supply, supplied, rfl⟩, outcome⟩ :=
    settleHubProviderEarning_returns run
  have member := Table.mem_of_first found
  have named := requestId_of_first found
  refine ⟨by simp [name, positive], ?_⟩
  rcases outcome with ⟨settled, records, rfl⟩ | ⟨-, rfl⟩
  · exact ⟨earning, supply, member, named, settled, ready, supplied, records⟩
  · refine ⟨_, supply, ((selects_id member).mem_update _).mpr (Or.inl rfl), named, rfl, ready, supplied, ?_⟩
    exact .settle positive supplied

/-- A settlement stays as it is. -/
theorem SettledAs.later {db₀ db db' : DB} {rules : Ledger.Rules} {requestId : String} {grossQuota supply : Int}
    {earning : HubProviderEarning} (settled : SettledAs db₀ db requestId grossQuota earning supply)
    (run : RuledRun rules db db') : SettledAs db₀ db' requestId grossQuota earning supply :=
  { settled with member := run.settled_mem settled.member settled.settled }

/-- A replay only compares the columns. -/
theorem SettledAs.replay_run {db₀ db : DB} {requestId : String} {grossQuota supply : Int} {earning : HubProviderEarning}
    (settled : SettledAs db₀ db requestId grossQuota earning supply)
    (valid : ¬(trimSpace requestId = "" ∨ grossQuota ≤ 0))
    (env : Env) :
    let compared := failIf (¬earning.Records grossQuota (splitRevenue earning grossQuota
      (appliedReferralBasisPoints db earning) supply)) .hubProviderEarningReferenceConflict ⟨db, []⟩
    settleHubProviderEarning env requestId grossQuota ⟨db, []⟩ = compared ∧
      markHubProviderEarningReady env requestId grossQuota ⟨db, []⟩ = compared := by
  have found := (selects_requestId settled.member).first
  rw [settled.named] at found
  have live : earning.status ≠ .cancelled := by simp [settled.settled]
  constructor
  · rw [settleHubProviderEarning, bind_ok (failIf_neg valid _ _)]
    refine transaction_run ?_ (Keeps.failIf (g := id) _ _ _)
    rw [bind_ok (findOr_run found _), bind_ok (failIf_neg live _ _), bind_ok (failIf_neg settled.ready _ _),
      bind_ok (revenueSplit_run settled.supplied), if_pos settled.settled]
  · rw [markHubProviderEarningReady, bind_ok (failIf_neg valid _ _)]
    refine transaction_run ?_ (Keeps.failIf (g := id) _ _ _)
    rw [bind_ok (findOr_run found _), bind_ok (failIf_neg live _ _), bind_ok (revenueSplit_run settled.supplied),
      if_pos settled.settled]

/-- Replays of a settlement succeed, and then change nothing, exactly when the
referral provider may collect as it could when the settlement was recorded, or
has no share to collect. -/
theorem settlement_replay_iff {env₀ : Env} {requestId : String} {grossQuota : Int} {u : Unit} {db₀ db₁ db₂ : DB}
    (settled : (settleHubProviderEarning env₀ requestId grossQuota).Returns db₀ u db₁)
    (later : RuledRun anyMovement db₁ db₂) (env : Env) :
    ∃ earning supply, SettledAs db₀ db₁ requestId grossQuota earning supply ∧
      SettledAs db₀ db₂ requestId grossQuota earning supply ∧
      ((settleHubProviderEarning env requestId grossQuota ⟨db₂, []⟩ = (.ok (), ⟨db₂, []⟩) ∧
          markHubProviderEarningReady env requestId grossQuota ⟨db₂, []⟩ = (.ok (), ⟨db₂, []⟩)) ↔
        (referralApplies db₂ earning = referralApplies db₀ earning ∨
          (splitRevenue earning grossQuota earning.referralBasisPoints supply).referralIncome = 0)) := by
  obtain ⟨valid, earning, supply, recorded⟩ := settleHubProviderEarning_settledAs settled
  have still := recorded.later later
  refine ⟨earning, supply, recorded, still, ?_⟩
  obtain ⟨settles, marks⟩ := still.replay_run valid env
  rw [settles, marks, and_self, ← referralIncome_iff, ← still.records.replay_iff]
  by_cases same : earning.Records grossQuota
      (splitRevenue earning grossQuota (appliedReferralBasisPoints db₂ earning) supply)
  · rw [failIf_neg (not_not.mpr same)]
    simp [same]
  · rw [failIf_pos same]
    simp [same]

def twoProviders (status : HubProviderStatus) : DB where
  hubProviders := ⟨[{ id := 1, ownerUserId := 8, status := .active }, { id := 2, ownerUserId := 9, status := status }],
    by cases status <;> decide, by cases status <;> decide⟩

def referredRequest : HubProviderEarningParams :=
  { requestId := "r", providerId := 1, ownerUserId := 8, supplyGroupId := 4, channelId := 6, grossQuota := 1000
    referralProviderId := 2, referralBasisPoints := 2000, settlementDeferred := some false }

def referredPrepared : DB := (prepareHubProviderEarning plainEnv referredRequest ⟨twoProviders .active, []⟩).2.db

def referredSettled : DB := (settleHubProviderEarning plainEnv "r" 1000 ⟨referredPrepared, []⟩).2.db

def referrerDisabled : DB := { referredSettled with hubProviders := (twoProviders .disabled).hubProviders }

theorem referredSettled_returns :
    (settleHubProviderEarning plainEnv "r" 1000).Returns referredPrepared () referredSettled :=
  returns_run (s := ⟨referredPrepared, []⟩) (by decide +kernel)

/-- Right after the settlement both replays succeed. -/
theorem referredSettled_replays :
    settleHubProviderEarning plainEnv "r" 1000 ⟨referredSettled, []⟩ = (.ok (), ⟨referredSettled, []⟩) ∧
      markHubProviderEarningReady plainEnv "r" 1000 ⟨referredSettled, []⟩ = (.ok (), ⟨referredSettled, []⟩) := by
  obtain ⟨earning, supply, -, -, replays⟩ := settlement_replay_iff referredSettled_returns .refl plainEnv
  exact replays.mpr (Or.inl rfl)

/-- Once the referral provider is disabled, both replays report a conflict. -/
theorem referrerDisabled_conflicts :
    RuledRun anyMovement {} referredPrepared ∧
      (settleHubProviderEarning plainEnv "r" 1000).Returns referredPrepared () referredSettled ∧
      RuledRun anyMovement referredSettled referrerDisabled ∧
      (settleHubProviderEarning plainEnv "r" 1000 ⟨referrerDisabled, []⟩).1 =
        .error .hubProviderEarningReferenceConflict ∧
      (markHubProviderEarningReady plainEnv "r" 1000 ⟨referrerDisabled, []⟩).1 =
        .error .hubProviderEarningReferenceConflict := by
  have registered : RuledRun anyMovement {} (twoProviders .active) := .single (.outside rfl rfl)
  have prepared := registered.tail
    (.operation plainEnv (.prepare referredRequest) trivial (leaves_run _ ⟨twoProviders .active, []⟩))
  exact ⟨prepared, referredSettled_returns, .single (.outside rfl rfl), by decide +kernel, by decide +kernel⟩

end LLMHub
