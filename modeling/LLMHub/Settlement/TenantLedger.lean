import LLMHub.Settlement.ProviderLedger

namespace LLMHub

open Store Action Go

theorem ite_neg_eq_max (n : Int) : (if n < 0 then 0 else n) = max 0 n := by
  split <;> omega

/-- The figures of a tenant's summary that the balance is made of. -/
structure TenantFigures (db : DB) (tenantId : Int) (summary : HubTenantSettlementSummary) : Prop where
  settled : summary.settledIncomeQuota =
    db.hubProviderEarnings.sum (tenantUsage tenantId .settled) HubProviderEarning.resellerNetIncomeQuota
  transferred : summary.transferredBalanceQuota =
    db.hubProviderEarnings.sum (tenantTransfers tenantId) fun e => -e.resellerNetIncomeQuota
  paid : summary.paidWithdrawalQuota =
    db.hubTenantWithdrawals.sum (fun w => w.holderId == tenantId && w.status == .paid) HubWithdrawal.amountQuota
  reserved : summary.reservedWithdrawalQuota =
    max 0 (unavailableIn db.hubTenantWithdrawals tenantId - summary.paidWithdrawalQuota)
  withdrawable : summary.withdrawableQuota = max 0 (db.ledger.tenantAccount tenantId).available

theorem getHubTenantSettlementSummaryTx_run (env : Env) (db : DB) {tenantId : Int} (positive : 0 < tenantId) :
    ∃ summary, getHubTenantSettlementSummaryTx env tenantId ⟨db, []⟩ = (.ok summary, ⟨db, []⟩) ∧
      TenantFigures db tenantId summary := by
  have fee : ∃ fee, resolveHubTenantPlatformFeeBasisPoints env tenantId ⟨db, []⟩ = (.ok fee, ⟨db, []⟩) := by
    unfold resolveHubTenantPlatformFeeBasisPoints
    rw [if_neg (not_le.mpr positive)]
    exact ⟨_, rfl⟩
  obtain ⟨fee, resolved⟩ := fee
  unfold getHubTenantSettlementSummaryTx
  rw [bind_ok (failIf_neg (not_le.mpr positive) _ _), bind_ok resolved]
  exact ⟨_, rfl, ⟨rfl, rfl, rfl, ite_neg_eq_max _, (ite_neg_eq_max _).trans rfl⟩⟩

/-- An issue is reported only on its own condition. -/
theorem mem_addIssue {condition : Bool} {issue other : HubTenantReconciliationIssue}
    {issues : List HubTenantReconciliationIssue} (member : other ∈ addIssue condition issue issues) :
    other ∈ issues ∨ (other = issue ∧ condition = true) := by
  unfold addIssue at member
  split at member
  · rename_i added
    rcases List.mem_append.mp member with old | new
    · exact Or.inl old
    · exact Or.inr ⟨List.mem_singleton.mp new, added.1⟩
  · exact Or.inl member

section Audit
variable {db : DB} {rules : Ledger.Rules} {tenantId : Int}

theorem count_invalid_transfers (valid : db.ledger.WellFormed rules) (positive : 0 < tenantId) :
    db.hubProviderEarnings.count (fun e => (e.tenantId == tenantId && e.entryType == .balanceTransfer) &&
      (e.status != .settled || e.resellerNetIncomeQuota ≥ 0)) = 0 := by
  refine Table.count_eq_zero fun e member => ?_
  by_cases transfer : e.tenantId = tenantId ∧ e.entryType = .balanceTransfer
  · obtain ⟨settled, -, debit⟩ := valid.transfers e member transfer.2
    have negative := debit (transfer.1 ▸ positive)
    simp [settled, negative]
  · rw [not_and_or] at transfer
    rcases transfer with other | other <;> simp [other]

theorem count_invalid_statuses (valid : db.ledger.WellFormed rules) :
    db.hubTenantWithdrawals.count (fun w => w.holderId == tenantId && !isValidHubWithdrawalStatus w.status) = 0 := by
  refine Table.count_eq_zero fun w member => ?_
  simp [(valid.tenants w member).1.status]

theorem count_invalid_amounts (valid : db.ledger.WellFormed rules) :
    db.hubTenantWithdrawals.count (fun w => w.holderId == tenantId && w.amountQuota ≤ 0) = 0 := by
  refine Table.count_eq_zero fun w member => ?_
  simp [(valid.tenants w member).1.amount]

theorem count_missing_snapshots (valid : db.ledger.WellFormed rules)
    (snapshots : ∀ text, rules.snapshot text → text ≠ "") :
    db.hubTenantWithdrawals.count (fun w =>
      w.holderId == tenantId && (w.isOpen || w.status == .paid) && w.payoutAccountSnapshot == "") = 0 := by
  refine Table.count_eq_zero fun w member => ?_
  simp [snapshots _ (valid.tenants w member).2]

theorem count_incomplete_payments (valid : db.ledger.WellFormed rules) :
    db.hubTenantWithdrawals.count (fun w => w.holderId == tenantId && w.status == .paid &&
      (w.paidAt ≤ 0 || w.payoutCurrency == "" || w.payoutAmountMinor ≤ 0)) = 0 := by
  refine Table.count_eq_zero fun w member => ?_
  by_cases paid : w.status = .paid
  · obtain ⟨at_time, currency, minor⟩ := (valid.tenants w member).1.paid paid
    simp [at_time, currency, minor]
  · simp [paid]

/-- The audit of a tenant finds at most owner problems when its rows are valid,
one withdrawal is open at most and the debits are covered. -/
theorem getHubTenantSettlementReconciliationTx_run (tenantStatus : TenantStatus) {summary : HubTenantSettlementSummary} (positive : 0 < tenantId)
    (valid : db.ledger.WellFormed rules) (snapshots : ∀ text, rules.snapshot text → text ≠ "")
    (single : openIn db.hubTenantWithdrawals tenantId ≤ 1)
    (covered : summary.transferredBalanceQuota + summary.reservedWithdrawalQuota + summary.paidWithdrawalQuota ≤
      summary.settledIncomeQuota) :
    ∃ report, getHubTenantSettlementReconciliationTx tenantId tenantStatus summary ⟨db, []⟩ = (.ok report, ⟨db, []⟩) ∧
      ∀ issue ∈ report.issues, issue = .activeOwnerMissing ∨ issue = .multipleActiveOwners := by
  unfold getHubTenantSettlementReconciliationTx
  rw [bind_ok (failIf_neg (not_le.mpr positive) _ _)]
  refine ⟨_, rfl, ?_⟩
  intro issue member
  rcases mem_addIssue member with member | ⟨-, debits⟩
  swap
  · exact absurd covered (not_le.mpr (of_decide_eq_true debits))
  rcases mem_addIssue member with member | ⟨-, several⟩
  swap
  · exact absurd single (not_le.mpr (of_decide_eq_true several))
  rcases mem_addIssue member with member | ⟨-, incomplete⟩
  swap
  · exact absurd (count_incomplete_payments valid) (of_decide_eq_true incomplete).ne'
  rcases mem_addIssue member with member | ⟨-, missing⟩
  swap
  · exact absurd (count_missing_snapshots valid snapshots) (of_decide_eq_true missing).ne'
  rcases mem_addIssue member with member | ⟨-, amount⟩
  swap
  · exact absurd (count_invalid_amounts valid) (of_decide_eq_true amount).ne'
  rcases mem_addIssue member with member | ⟨-, status⟩
  swap
  · exact absurd (count_invalid_statuses valid) (of_decide_eq_true status).ne'
  rcases mem_addIssue member with member | ⟨-, transfer⟩
  swap
  · exact absurd (count_invalid_transfers valid positive) (of_decide_eq_true transfer).ne'
  rcases mem_addIssue member with member | ⟨owners, -⟩
  swap
  · exact Or.inr owners
  rcases mem_addIssue member with member | ⟨owner, -⟩
  · exact absurd member List.not_mem_nil
  · exact Or.inl owner

/-- Paid withdrawals are part of the unavailable ones. -/
theorem paid_le_unavailable (valid : db.ledger.WellFormed rules) :
    db.hubTenantWithdrawals.sum (fun w => w.holderId == tenantId && w.status == .paid) HubWithdrawal.amountQuota ≤
      unavailableIn db.hubTenantWithdrawals tenantId := by
  refine Table.sum_le_sum fun w member => ?_
  have amount := (valid.tenants w member).1.amount
  by_cases holder : w.holderId = tenantId
  · by_cases paid : w.status = .paid
    · simp [holder, paid]
    · simp only [holder, paid, beq_self_eq_true, Bool.true_and, beq_iff_eq, if_false]
      split <;> omega
  · simp [holder]

end Audit

/-- Tenant withdrawals carry a snapshot of the account they are paid to. -/
def nonEmptySnapshots : Ledger.Rules := ⟨fun _ => True, fun snapshot => snapshot ≠ ""⟩

/-- Whatever is interleaved, the audit of a tenant reports none of the seven
ledger issues. -/
theorem tenantLedger_reconciles {start db : DB} (empty : start.ledger = .empty)
    (run : RuledRun nonEmptySnapshots start db) (env : Env) {tenantId : Int} (positive : 0 < tenantId)
    (tenantStatus : TenantStatus) :
    ∃ summary report, getHubTenantSettlementSummaryTx env tenantId ⟨db, []⟩ = (.ok summary, ⟨db, []⟩) ∧
      getHubTenantSettlementReconciliationTx tenantId tenantStatus summary ⟨db, []⟩ = (.ok report, ⟨db, []⟩) ∧
      ∀ issue ∈ [HubTenantReconciliationIssue.invalidBalanceTransfer, .invalidWithdrawalStatus,
        .invalidWithdrawalAmount, .missingPayoutSnapshot, .paidWithdrawalIncomplete, .multipleOpenWithdrawals,
        .debitsExceedIncome], issue ∉ report.issues := by
  have valid := RuledRun.wellFormed run (RuledRun.empty_wellFormed empty)
  obtain ⟨funds, single⟩ := RuledRun.tenantSolvent run empty tenantId
  obtain ⟨summary, summed, figures⟩ := getHubTenantSettlementSummaryTx_run env db positive
  have covered : summary.transferredBalanceQuota + summary.reservedWithdrawalQuota + summary.paidWithdrawalQuota ≤
      summary.settledIncomeQuota := by
    have paid := figures.paid.le.trans (paid_le_unavailable valid)
    have available : (db.ledger.tenantAccount tenantId).available = summary.settledIncomeQuota -
        summary.transferredBalanceQuota - unavailableIn db.hubTenantWithdrawals tenantId := by
      rw [figures.settled, figures.transferred]
      rfl
    have reserved := figures.reserved
    omega
  obtain ⟨report, audited, owners⟩ :=
    getHubTenantSettlementReconciliationTx_run tenantStatus positive valid (fun _ nonEmpty => nonEmpty) single covered
  refine ⟨summary, report, summed, audited, ?_⟩
  intro issue listed reported
  rcases owners issue reported with rfl | rfl <;> simp at listed

def oneTenant : DB where
  users := .single { id := 7 }
  hubProviders := .single { id := 1, ownerUserId := 8, tenantId := some 5, status := .active }
  tenants := .single { id := 5, status := .active }
  tenantMembers := .single ⟨2, 5, 7, .owner, .active⟩
  hubTenantPayoutAccounts := .single ⟨3, 5, "bank", "account", 0, false⟩

def tenantRequest : HubProviderEarningParams :=
  { requestId := "r", providerId := 1, ownerUserId := 8, supplyGroupId := 4, channelId := 6, grossQuota := 1000
    hasProviderServiceFeeBasisPoints := true, providerServiceFeeBasisPoints := 1000, settlementDeferred := some false }

def oneTenantPrepared : DB := (prepareHubProviderEarning plainEnv tenantRequest ⟨oneTenant, []⟩).2.db

def oneTenantSettled : DB := (settleHubProviderEarning plainEnv "r" 1000 ⟨oneTenantPrepared, []⟩).2.db

def oneTenantTransferred : DB := (createHubTenantBalanceTransfer plainEnv 5 7 10 "key" ⟨oneTenantSettled, []⟩).2.db

def oneTenantRequested : DB := (createHubTenantWithdrawal plainEnv 5 7 20 3 ⟨oneTenantTransferred, []⟩).2.db

def oneTenantPaid : DB :=
  (updateHubTenantWithdrawalStatus plainEnv 1 .paid 9 "done" (some ⟨"usd", 250, "7.1"⟩) ⟨oneTenantRequested, []⟩).2.db

theorem oneTenantPaid_run : RuledRun nonEmptySnapshots {} oneTenantPaid := by
  have registered : RuledRun nonEmptySnapshots {} oneTenant := .single (.outside rfl rfl)
  have prepared := registered.tail
    (.operation plainEnv (.prepare tenantRequest) trivial (leaves_run _ ⟨oneTenant, []⟩))
  have settled := prepared.tail
    (.operation plainEnv (.settle "r" 1000) trivial (leaves_run _ ⟨oneTenantPrepared, []⟩))
  have transferred := settled.tail
    (.operation plainEnv (.tenantTransfer 5 7 10 "key") trivial (leaves_run _ ⟨oneTenantSettled, []⟩))
  have snapshots : ∀ text, StoresSnapshot plainEnv oneTenantTransferred 3 text → text ≠ "" := by
    rintro text ⟨account, -, -, hydrated, -, encoded⟩ rfl
    have text := congrArg String.length (Except.ok.inj encoded)
    rw [String.length_append] at text
    simp at text
  have requested := transferred.tail
    (.operation plainEnv (.tenantWithdraw 5 7 20 3) snapshots (leaves_run _ ⟨oneTenantTransferred, []⟩))
  exact requested.tail (.operation plainEnv (.tenantReview 1 .paid 9 "done" (some ⟨"usd", 250, "7.1"⟩)) trivial
    (leaves_run _ ⟨oneTenantRequested, []⟩))

theorem oneTenantPaid_reconciles :
    oneTenantPaid.ledger.tenantAccount 5 = ⟨60, 20, 0⟩ ∧
      ∃ summary report, getHubTenantSettlementSummaryTx plainEnv 5 ⟨oneTenantPaid, []⟩ = (.ok summary, ⟨oneTenantPaid, []⟩) ∧
        getHubTenantSettlementReconciliationTx 5 .active summary ⟨oneTenantPaid, []⟩ = (.ok report, ⟨oneTenantPaid, []⟩) ∧
        HubTenantReconciliationIssue.debitsExceedIncome ∉ report.issues := by
  obtain ⟨summary, report, summed, audited, clean⟩ :=
    tenantLedger_reconciles rfl oneTenantPaid_run plainEnv (by decide : (0 : Int) < 5) .active
  exact ⟨by decide +kernel, summary, report, summed, audited, clean _ (by simp)⟩

end LLMHub
