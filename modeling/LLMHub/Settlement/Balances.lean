import LLMHub.Settlement.TenantLedger

namespace LLMHub

open Store Action Go

variable {db : DB} {env : Env}

/-- Reserved and paid withdrawals together are the ones not rejected. -/
theorem reserved_add_paid {party : HubParty} {t : Table (HubWithdrawal party)} (valid : ∀ w ∈ t.rows, w.Valid)
    (holderId : Int) :
    t.sum (·.holderId == holderId) (fun w => if w.isOpen then w.amountQuota else 0) +
      t.sum (·.holderId == holderId) (fun w => if w.status = .paid then w.amountQuota else 0) =
        unavailableIn t holderId := by
  refine Table.sum_add_sum fun w member => ?_
  have status := (valid w member).status
  by_cases holder : w.holderId = holderId
  · rcases known : w.status with _ | _ | _ | _ | value
    all_goals simp_all [HubWithdrawal.isOpen, isValidHubWithdrawalStatus]
  · simp [holder]

/-- The summary takes transfers out of the settled income and lists them on
their own; the funds check counts them as negative income. -/
theorem earned_add_transferred {rules : Ledger.Rules} (valid : db.ledger.WellFormed rules) (providerId : Int) :
    db.ledger.earned providerId +
      db.hubProviderEarnings.sum (HubProviderEarning.concerns providerId) (fun e =>
        if e.providerId = providerId ∧ e.status = .settled ∧ e.entryType = .balanceTransfer then
          -e.providerIncomeQuota
        else 0) =
      db.hubProviderEarnings.sum (HubProviderEarning.concerns providerId) fun e =>
        if e.status = .settled ∧ e.entryType ≠ .balanceTransfer then e.incomeOf providerId else 0 := by
  refine Table.sum_add_sum fun e member => ?_
  by_cases concerned : e.concerns providerId = true
  · by_cases transfer : e.entryType = .balanceTransfer
    · obtain ⟨settled, unreferred, -⟩ := valid.transfers e member transfer
      simp only [concerned, transfer, settled, HubProviderEarning.incomeOf, unreferred]
      by_cases served : e.providerId = providerId <;> simp [served]
    · by_cases settled : e.status = .settled <;> simp [concerned, transfer, settled]
  · simp [concerned]

variable {providerId : Int}

theorem getHubProviderSettlementSummary_run (env : Env) {rules : Ledger.Rules} (valid : db.ledger.WellFormed rules)
    (positive : 0 < providerId) :
    ∃ summary, getHubProviderSettlementSummary env providerId ⟨db, []⟩ = (.ok summary, ⟨db, []⟩) ∧
      summary.withdrawableQuota = max 0 (db.ledger.providerAccount providerId).available := by
  have resolve (globalFee : Int) :
      ∃ fee, resolveHubProviderFeeBasisPoints globalFee providerId ⟨db, []⟩ = (.ok fee, ⟨db, []⟩) := by
    unfold resolveHubProviderFeeBasisPoints
    rw [if_neg (not_le.mpr positive)]
    exact ⟨_, rfl⟩
  obtain ⟨platformFee, platform⟩ : ∃ fee,
      resolveHubProviderPlatformFeeBasisPoints env providerId ⟨db, []⟩ = (.ok fee, ⟨db, []⟩) := resolve _
  obtain ⟨serviceFee, service⟩ : ∃ fee,
      resolveHubProviderServiceFeeBasisPoints env providerId ⟨db, []⟩ = (.ok fee, ⟨db, []⟩) := resolve _
  unfold getHubProviderSettlementSummary
  rw [bind_ok (failIf_neg (not_le.mpr positive) _ _), bind_ok platform, bind_ok service]
  refine ⟨_, rfl, (ite_neg_eq_max _).trans (congrArg (max 0) ?_)⟩
  have regroup {earned transferred settled reserved paid unavailable : Int} (income : earned + transferred = settled)
      (withdrawn : reserved + paid = unavailable) :
      settled - reserved - paid - transferred = earned - unavailable := by omega
  exact regroup (earned_add_transferred valid providerId) (reserved_add_paid valid.providers providerId)

/-- The funds check, without driver failures. -/
theorem checkProviderFunds_run (providerId amountQuota : Int) (insufficient : ModelError) :
    checkProviderFunds providerId amountQuota insufficient ⟨db, []⟩ =
      failIf (amountQuota > (db.ledger.providerAccount providerId).available) insufficient ⟨db, []⟩ := rfl

theorem checkTenantFunds_run (tenantId amountQuota : Int) (insufficient : ModelError) :
    checkTenantFunds tenantId amountQuota insufficient ⟨db, []⟩ =
      failIf (amountQuota > (db.ledger.tenantAccount tenantId).available) insufficient ⟨db, []⟩ := rfl

theorem openWithdrawals_run (party : HubParty) [HasTable DB (HubWithdrawal party)] (holderId : Int) :
    openWithdrawals party holderId ⟨db, []⟩ =
      (.ok (openIn (HasTable.table db : Table (HubWithdrawal party)) holderId), ⟨db, []⟩) := rfl

theorem failIf_ok {c : Prop} [Decidable c] {e : ModelError} {s : Session DB} : (failIf c e s).1 = .ok () ↔ ¬c := by
  by_cases holds : c
  · rw [failIf_pos holds]
    simp [holds]
  · rw [failIf_neg holds]
    simp [holds]

/-- A check decides on its own error when nothing behind it reports the same. -/
theorem failIf_bind_error {α : Type} {x : Command Unit} {c : Prop} [Decidable c] {e : ModelError}
    {f : Unit → Command α} {s : Session DB} (check : x s = failIf c e s) (rest : (f ()).Avoids e) :
    ((x >>= f) s).1 ≠ .error e ↔ ¬c := by
  by_cases holds : c
  · rw [failIf_pos holds] at check
    simp [bind_error check, holds]
  · rw [failIf_neg holds] at check
    simp only [bind_ok check, holds, not_false_eq_true, iff_true]
    exact rest s

/-- The errors of the four funds checks. -/
def ModelError.isInsufficient : ModelError → Bool
  | .hubProviderWithdrawalInsufficient | .hubProviderBalanceTransferInsufficient
  | .hubTenantWithdrawalInsufficient | .hubTenantBalanceTransferInsufficient => true
  | _ => false

section Behind
variable {e : ModelError} (funds : e.isInsufficient = true)
include funds

theorem ne_of_isInsufficient {other : ModelError} (differs : other.isInsufficient = false) : other ≠ e := by
  rintro rfl
  rw [funds] at differs
  cases differs

theorem hydrateHubWithdrawal_ne {party : HubParty} (w : HubWithdrawal party) :
    hydrateHubWithdrawal env w ≠ .error e := by
  unfold hydrateHubWithdrawal
  split
  · simp
  · split
    · simpa using ne_of_isInsufficient funds rfl
    · simp

/-- Nothing behind the funds check of a withdrawal reports missing funds. -/
theorem payout_avoids {party : HubParty} [HasTable DB (HubPayoutAccount party)] [HasTable DB (HubWithdrawal party)]
    (holderId accountId : Int) (draft : HubPayoutAccount party × HubPayoutAccountSnapshot → String → HubWithdrawal party) :
    (do
      let account ← getHubPayoutAccountTx party env holderId accountId
      let snapshot ← ofExcept (snapshotHubPayoutAccount env account.2)
      create (draft account snapshot) .duplicatedKey : Command (HubWithdrawal party)).Avoids e := by
  have account : (getHubPayoutAccountTx party env holderId accountId).Avoids e := by
    refine .bind (.require _ (ne_of_isInsufficient funds rfl) (ne_of_isInsufficient funds rfl)) fun account => ?_
    refine .bind (.ofExcept ?_) fun _ => .pure _
    unfold hydrateHubPayoutAccount
    split
    · simpa using ne_of_isInsufficient funds rfl
    · simp
  refine .bind account fun account => .bind (.ofExcept ?_) fun _ =>
    .create _ (ne_of_isInsufficient funds rfl) (ne_of_isInsufficient funds rfl)
  unfold snapshotHubPayoutAccount
  cases env.json.marshalSnapshot account.2 with
  | error cause => simpa [Except.mapError] using ne_of_isInsufficient funds rfl
  | ok text => simp [Except.mapError]

/-- Nothing behind the funds check of a transfer reports missing funds. -/
theorem transfer_avoids (transfer : HubProviderEarning) (ownerUserId amountQuota : Int) (message : String) :
    (do
      let transfer ← create transfer .duplicatedKey
      let affected ← updateWhere (userIs ownerUserId) (User.credit amountQuota)
      failIf (affected ≠ 1) (.text message)
      pure transfer : Command HubProviderEarning).Avoids e :=
  .bind (.create _ (ne_of_isInsufficient funds rfl) (ne_of_isInsufficient funds rfl)) fun _ =>
    .bind (.updateWhere _ _ (ne_of_isInsufficient funds rfl)) fun _ =>
      .bind (.failIf _ (ne_of_isInsufficient funds rfl)) fun _ => .pure _

end Behind

variable {ownerUserId amountQuota tenantId : Int}

/-- Where the funds check of a provider withdrawal is reached, it decides by
the account. -/
theorem createHubProviderWithdrawal_funds {payoutAccountId : Int}
    {provider : HubProvider} (ids : 0 < providerId ∧ 0 < ownerUserId ∧ 0 < amountQuota ∧ 0 < payoutAccountId)
    (found : db.hubProviders.first (fun p => p.id == providerId && p.ownerUserId == ownerUserId) = some provider)
    (minimum : env.setting.minimumWithdrawal ≤ amountQuota) (free : openIn db.hubProviderWithdrawals providerId = 0) :
    (createHubProviderWithdrawal env providerId ownerUserId amountQuota payoutAccountId ⟨db, []⟩).1 ≠
        .error .hubProviderWithdrawalInsufficient ↔
      amountQuota ≤ (db.ledger.providerAccount providerId).available := by
  have valid : ¬(providerId ≤ 0 ∨ ownerUserId ≤ 0 ∨ amountQuota ≤ 0 ∨ payoutAccountId ≤ 0) := by omega
  have named := Table.holds_of_first found
  simp only [Bool.and_eq_true, beq_iff_eq] at named
  obtain ⟨rfl, -⟩ := named
  have closed : ¬(openIn (HasTable.table db : Table HubProviderWithdrawal) provider.id > 0) :=
    fun opened => opened.ne' free
  unfold createHubProviderWithdrawal
  rw [bind_ok (failIf_neg valid _ _), bind_error_iff fun _ => .ofExcept (hydrateHubWithdrawal_ne rfl _),
    transaction_fst, bind_ok (findOr_run found _), bind_ok (failIf_neg (not_lt.mpr minimum) _ _),
    bind_ok (openWithdrawals_run _ _), bind_ok (failIf_neg closed _ _),
    failIf_bind_error (checkProviderFunds_run _ _ _) (payout_avoids rfl _ _ _), gt_iff_lt, not_lt]

theorem unused_run {requestId : String} (fresh : db.hubProviderEarnings.first (requestIdIs requestId) = none) :
    (find (requestIdIs requestId) : Command _) ⟨db, []⟩ = (.ok none, ⟨db, []⟩) := by
  rw [find_run, ← fresh]
  rfl

/-- The same for transfers with a key that was not used before. -/
theorem createHubProviderBalanceTransfer_funds {idempotencyKey : String}
    {provider : HubProvider} (ids : 0 < providerId ∧ 0 < ownerUserId ∧ 0 < amountQuota)
    (key : trimSpace idempotencyKey ≠ "" ∧ (trimSpace idempotencyKey).utf8ByteSize ≤ 48)
    (found : db.hubProviders.first (fun p => p.id == providerId && p.ownerUserId == ownerUserId) = some provider)
    (fresh : db.hubProviderEarnings.first (requestIdIs ("balance-transfer:" ++ toString providerId ++ ":" ++
      toString ownerUserId ++ ":" ++ trimSpace idempotencyKey)) = none) :
    (createHubProviderBalanceTransfer env providerId ownerUserId amountQuota idempotencyKey ⟨db, []⟩).1 ≠
        .error .hubProviderBalanceTransferInsufficient ↔
      amountQuota ≤ (db.ledger.providerAccount providerId).available := by
  have valid : ¬(providerId ≤ 0 ∨ ownerUserId ≤ 0 ∨ amountQuota ≤ 0 ∨ trimSpace idempotencyKey = "" ∨
      (trimSpace idempotencyKey).utf8ByteSize > 48) := by
    simp only [not_or, not_le, not_lt]
    exact ⟨ids.1, ids.2.1, ids.2.2, key⟩
  have named := Table.holds_of_first found
  simp only [Bool.and_eq_true, beq_iff_eq] at named
  obtain ⟨rfl, -⟩ := named
  unfold createHubProviderBalanceTransfer
  rw [bind_ok (failIf_neg valid _ _), transaction_fst, bind_ok (findOr_run found _), bind_ok (unused_run fresh),
    failIf_bind_error (checkProviderFunds_run _ _ _) (transfer_avoids rfl _ _ _ _), gt_iff_lt, not_lt]

/-- The tenant is active and the user is its active owner. -/
structure FinanceOwner (db : DB) (tenantId ownerUserId : Int) : Prop where
  tenant : 0 < tenantId
  active : ∃ tenant, db.tenants.first (fun t => t.id == tenantId && t.status == .active) = some tenant
  owner : ∃ member,
    db.tenantMembers.first (fun m => activeTenantOwner tenantId db m && m.userId == ownerUserId) = some member

theorem FinanceOwner.lock (authorized : FinanceOwner db tenantId ownerUserId) :
    lockHubTenantFinanceTx tenantId ⟨db, []⟩ = (.ok (), ⟨db, []⟩) := by
  obtain ⟨tenant, found⟩ := authorized.active
  unfold lockHubTenantFinanceTx
  rw [bind_ok (failIf_neg (not_le.mpr authorized.tenant) _ _), bind_ok (findOr_run found _), pure_apply]

theorem FinanceOwner.require (authorized : FinanceOwner db tenantId ownerUserId) :
    requireActiveTenantOwnerTx tenantId ownerUserId ⟨db, []⟩ = (.ok (), ⟨db, []⟩) := by
  obtain ⟨member, found⟩ := authorized.owner
  have read := require_run (f := fun db : DB => db.tenantMembers.first fun m =>
    activeTenantOwner tenantId db m && m.userId == ownerUserId) found ModelError.hubTenantFinanceOwnerRequired
  unfold requireActiveTenantOwnerTx
  rw [bind_ok read, pure_apply]

theorem createHubTenantWithdrawalRecord_funds {payoutAccountId : Int}
    (authorized : FinanceOwner db tenantId ownerUserId) (minimum : env.setting.minimumWithdrawal ≤ amountQuota)
    (free : openIn db.hubTenantWithdrawals tenantId = 0) :
    (createHubTenantWithdrawalRecord env tenantId ownerUserId amountQuota payoutAccountId ⟨db, []⟩).1 ≠
        .error .hubTenantWithdrawalInsufficient ↔
      amountQuota ≤ (db.ledger.tenantAccount tenantId).available := by
  have closed : ¬(openIn (HasTable.table db : Table HubTenantWithdrawal) tenantId > 0) :=
    fun opened => opened.ne' free
  unfold createHubTenantWithdrawalRecord
  rw [bind_ok authorized.lock, bind_ok authorized.require, bind_ok (failIf_neg (not_lt.mpr minimum) _ _),
    bind_ok (openWithdrawals_run _ _), bind_ok (failIf_neg closed _ _),
    failIf_bind_error (checkTenantFunds_run _ _ _) (payout_avoids rfl _ _ _), gt_iff_lt, not_lt]

theorem createHubTenantBalanceTransfer_funds {idempotencyKey : String}
    (authorized : FinanceOwner db tenantId ownerUserId) (ids : 0 < ownerUserId ∧ 0 < amountQuota)
    (key : trimSpace idempotencyKey ≠ "" ∧ (trimSpace idempotencyKey).utf8ByteSize ≤ 48)
    (fresh : db.hubProviderEarnings.first (requestIdIs ("tenant-balance-transfer:" ++ toString tenantId ++ ":" ++
      toString ownerUserId ++ ":" ++ trimSpace idempotencyKey)) = none) :
    (createHubTenantBalanceTransfer env tenantId ownerUserId amountQuota idempotencyKey ⟨db, []⟩).1 ≠
        .error .hubTenantBalanceTransferInsufficient ↔
      amountQuota ≤ (db.ledger.tenantAccount tenantId).available := by
  have valid : ¬(tenantId ≤ 0 ∨ ownerUserId ≤ 0 ∨ amountQuota ≤ 0 ∨ trimSpace idempotencyKey = "" ∨
      (trimSpace idempotencyKey).utf8ByteSize > 48) := by
    simp only [not_or, not_le, not_lt]
    exact ⟨authorized.tenant, ids.1, ids.2, key⟩
  unfold createHubTenantBalanceTransfer
  rw [bind_ok (failIf_neg valid _ _), transaction_fst, bind_ok authorized.lock, bind_ok authorized.require,
    bind_ok (unused_run fresh), failIf_bind_error (checkTenantFunds_run _ _ _) (transfer_avoids rfl _ _ _ _),
    gt_iff_lt, not_lt]

/-- Every adjustment and every snapshot is admitted. -/
def anyMovement : Ledger.Rules := ⟨fun _ => True, fun _ => True⟩

/-- The balance shown to a provider or a tenant is the one its withdrawals and
transfers are held to. -/
theorem displayed_balance_is_enforced {start db : DB} (empty : start.ledger = .empty)
    (run : RuledRun anyMovement start db) (env : Env) {amountQuota : Int} (positive : 1 ≤ amountQuota) :
    (∀ providerId, 0 < providerId →
      ∃ summary, getHubProviderSettlementSummary env providerId ⟨db, []⟩ = (.ok summary, ⟨db, []⟩) ∧
        (∀ insufficient, (checkProviderFunds providerId amountQuota insufficient ⟨db, []⟩).1 = .ok () ↔
          amountQuota ≤ summary.withdrawableQuota) ∧
        ∀ ownerUserId provider, 0 < ownerUserId →
          db.hubProviders.first (fun p => p.id == providerId && p.ownerUserId == ownerUserId) = some provider →
          (∀ payoutAccountId, 0 < payoutAccountId → env.setting.minimumWithdrawal ≤ amountQuota →
            openIn db.hubProviderWithdrawals providerId = 0 →
            ((createHubProviderWithdrawal env providerId ownerUserId amountQuota payoutAccountId ⟨db, []⟩).1 ≠
              .error .hubProviderWithdrawalInsufficient ↔ amountQuota ≤ summary.withdrawableQuota)) ∧
          (∀ key, trimSpace key ≠ "" ∧ (trimSpace key).utf8ByteSize ≤ 48 →
            db.hubProviderEarnings.first (requestIdIs ("balance-transfer:" ++ toString providerId ++ ":" ++
              toString ownerUserId ++ ":" ++ trimSpace key)) = none →
            ((createHubProviderBalanceTransfer env providerId ownerUserId amountQuota key ⟨db, []⟩).1 ≠
              .error .hubProviderBalanceTransferInsufficient ↔ amountQuota ≤ summary.withdrawableQuota))) ∧
      ∀ tenantId, 0 < tenantId →
        ∃ summary, getHubTenantSettlementSummaryTx env tenantId ⟨db, []⟩ = (.ok summary, ⟨db, []⟩) ∧
          (∀ insufficient, (checkTenantFunds tenantId amountQuota insufficient ⟨db, []⟩).1 = .ok () ↔
            amountQuota ≤ summary.withdrawableQuota) ∧
          ∀ ownerUserId, 0 < ownerUserId → FinanceOwner db tenantId ownerUserId →
            (∀ payoutAccountId, env.setting.minimumWithdrawal ≤ amountQuota →
              openIn db.hubTenantWithdrawals tenantId = 0 →
              ((createHubTenantWithdrawalRecord env tenantId ownerUserId amountQuota payoutAccountId ⟨db, []⟩).1 ≠
                .error .hubTenantWithdrawalInsufficient ↔ amountQuota ≤ summary.withdrawableQuota)) ∧
            (∀ key, trimSpace key ≠ "" ∧ (trimSpace key).utf8ByteSize ≤ 48 →
              db.hubProviderEarnings.first (requestIdIs ("tenant-balance-transfer:" ++ toString tenantId ++ ":" ++
                toString ownerUserId ++ ":" ++ trimSpace key)) = none →
              ((createHubTenantBalanceTransfer env tenantId ownerUserId amountQuota key ⟨db, []⟩).1 ≠
                .error .hubTenantBalanceTransferInsufficient ↔ amountQuota ≤ summary.withdrawableQuota)) := by
  have valid := RuledRun.wellFormed run (RuledRun.empty_wellFormed empty)
  have unclamped {displayed available : Int} (shown : displayed = max 0 available) :
      amountQuota ≤ displayed ↔ amountQuota ≤ available := by omega
  constructor
  · intro providerId provided
    obtain ⟨summary, summed, shown⟩ := getHubProviderSettlementSummary_run env valid provided
    refine ⟨summary, summed, ?_, ?_⟩
    · intro insufficient
      rw [checkProviderFunds_run, unclamped shown, failIf_ok, gt_iff_lt, not_lt]
    · intro ownerUserId provider owner found
      rw [unclamped shown]
      exact ⟨fun _ account minimum free =>
          createHubProviderWithdrawal_funds ⟨provided, owner, positive, account⟩ found minimum free,
        fun _ key fresh => createHubProviderBalanceTransfer_funds ⟨provided, owner, positive⟩ key found fresh⟩
  · intro tenantId tenant
    obtain ⟨summary, summed, figures⟩ := getHubTenantSettlementSummaryTx_run env db tenant
    refine ⟨summary, summed, ?_, ?_⟩
    · intro insufficient
      rw [checkTenantFunds_run, unclamped figures.withdrawable, failIf_ok, gt_iff_lt, not_lt]
    · intro ownerUserId owner authorized
      rw [unclamped figures.withdrawable]
      exact ⟨fun _ minimum free => createHubTenantWithdrawalRecord_funds authorized minimum free,
        fun _ key fresh => createHubTenantBalanceTransfer_funds authorized ⟨owner, positive⟩ key fresh⟩

theorem oneProviderRequested_balance_is_enforced :
    ∃ summary, getHubProviderSettlementSummary plainEnv 1 ⟨oneProviderRequested, []⟩ =
        (.ok summary, ⟨oneProviderRequested, []⟩) ∧
      ((createHubProviderBalanceTransfer plainEnv 1 7 40 "key" ⟨oneProviderRequested, []⟩).1 ≠
        .error .hubProviderBalanceTransferInsufficient ↔ 40 ≤ summary.withdrawableQuota) := by
  have enforced := displayed_balance_is_enforced rfl (oneProviderRequested_run trivial) plainEnv (by decide : (1 : Int) ≤ 40)
  obtain ⟨summary, summed, -, operations⟩ := enforced.1 1 (by decide)
  obtain ⟨-, transfers⟩ := operations 7 { id := 1, ownerUserId := 7, status := .active } (by decide) rfl
  exact ⟨summary, summed, transfers "key" (by decide) (by decide +kernel)⟩

end LLMHub
