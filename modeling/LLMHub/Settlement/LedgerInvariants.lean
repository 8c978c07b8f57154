import LLMHub.Settlement.LedgerAccounts

namespace LLMHub

open Store HubProviderEarning

/-- What the balance queries expect of a transfer row. -/
def HubProviderEarning.ValidTransfer (e : HubProviderEarning) : Prop :=
  e.entryType = .balanceTransfer →
    e.status = .settled ∧ e.referralIncomeQuota = 0 ∧ (0 < e.tenantId → e.resellerNetIncomeQuota < 0)

namespace Ledger
variable {rules : Rules} {l l' : Ledger}

/-- The facts about single rows that hold in every reachable ledger. -/
structure WellFormed (rules : Rules) (l : Ledger) : Prop where
  transfers : ∀ e ∈ l.earnings.rows, e.ValidTransfer
  providers : ∀ w ∈ l.providerWithdrawals.rows, w.Valid
  tenants : ∀ w ∈ l.tenantWithdrawals.rows, w.Valid ∧ rules.snapshot w.payoutAccountSnapshot

variable {p : HubProviderEarning → Bool} {e row : HubProviderEarning} {f : Table.Assignment HubProviderEarning}
  {t : Table HubProviderEarning}

/-- Only rows that are not settled are rewritten, and these are no transfers. -/
theorem WellFormed.update (valid : l.WellFormed rules) (selected : l.earnings.Selects p e) (status : e.status ≠ .settled)
    (kind : (f.set e).entryType = e.entryType) :
    WellFormed rules { l with earnings := l.earnings.update p f } := by
  refine ⟨selected.forall_update valid.transfers ?_, valid.providers, valid.tenants⟩
  intro transfer
  exact absurd (valid.transfers e selected.1 (kind ▸ transfer)).1 status

theorem WellFormed.insert (valid : l.WellFormed rules) {draft : HubProviderEarning}
    (stored : l.earnings.insert draft = some (row, t)) (transfer : draft.ValidTransfer) :
    WellFormed rules { l with earnings := t } :=
  ⟨Table.forall_insert valid.transfers stored transfer, valid.providers, valid.tenants⟩

theorem Step.wellFormed (step : Step rules l l') (valid : l.WellFormed rules) : l'.WellFormed rules := by
  cases step with
  | idle => exact valid
  | opened stored status usage =>
    refine valid.insert stored ?_
    intro transfer
    simp [usage] at transfer
  | reopened member status | released member status | cancelled member status =>
    exact valid.update (selects_earningIs member status) (by simp [status]) rfl
  | settled member status balanced => exact valid.update (selects_id member) status rfl
  | adjusted stored kind unreferred amount =>
    refine valid.insert stored ?_
    intro transfer
    simp [kind] at transfer
  | providerTransferred positive funds stored =>
    exact valid.insert stored fun _ => ⟨rfl, rfl, fun tenant => absurd tenant (lt_irrefl 0)⟩
  | tenantTransferred positive funds stored =>
    exact valid.insert stored fun _ => ⟨rfl, rfl, fun _ => neg_lt_zero.mpr positive⟩
  | providerRequested stored status positive free funds =>
    refine ⟨valid.transfers, Table.forall_insert valid.providers stored ⟨positive, ?_, ?_⟩, valid.tenants⟩
    · simp [status, Record.withId, isValidHubWithdrawalStatus]
    · simp [status, Record.withId]
  | tenantRequested stored status positive free funds snapshot =>
    refine ⟨valid.transfers, valid.providers, Table.forall_insert valid.tenants stored ⟨⟨positive, ?_, ?_⟩, snapshot⟩⟩
    · simp [status, Record.withId, isValidHubWithdrawalStatus]
    · simp [status, Record.withId]
  | providerReviewed member transition clock paid =>
    refine ⟨valid.transfers, (selects_id member).forall_update valid.providers ?_, valid.tenants⟩
    exact (valid.providers _ member).review transition clock paid
  | tenantReviewed member transition clock paid =>
    obtain ⟨old, snapshot⟩ := valid.tenants _ member
    refine ⟨valid.transfers, valid.providers, (selects_id member).forall_update valid.tenants ⟨?_, snapshot⟩⟩
    exact old.review transition clock paid

/-- A row added or rewritten in the earnings table moves every account by the
share of the row it ends up as. -/
theorem providerAccount_earn {providerId : Int}
    (income : Ledger.earned { l with earnings := t } providerId = l.earned providerId + row.providerShare providerId)
    (gain : 0 ≤ row.providerShare providerId) :
    Account.Step (l.providerAccount providerId) (Ledger.providerAccount { l with earnings := t } providerId) :=
  .earn (row.providerShare providerId) gain income rfl rfl

theorem tenantAccount_earn {tenantId : Int}
    (income : Ledger.tenantEarned { l with earnings := t } tenantId = l.tenantEarned tenantId + row.tenantShare tenantId)
    (gain : 0 ≤ row.tenantShare tenantId) :
    Account.Step (l.tenantAccount tenantId) (Ledger.tenantAccount { l with earnings := t } tenantId) :=
  .earn (row.tenantShare tenantId) gain income rfl rfl

theorem providerAccount_unsettled (selected : l.earnings.Selects p e) (status : e.status ≠ .settled)
    (still : (f.set e).status ≠ .settled) (providerId : Int) :
    Account.Step (l.providerAccount providerId)
      (Ledger.providerAccount { l with earnings := l.earnings.update p f } providerId) :=
  providerAccount_earn (earned_update selected status providerId)
    (providerShare_unsettled providerId still).ge

theorem tenantAccount_unsettled (selected : l.earnings.Selects p e) (status : e.status ≠ .settled)
    (still : (f.set e).status ≠ .settled) (tenantId : Int) :
    Account.Step (l.tenantAccount tenantId)
      (Ledger.tenantAccount { l with earnings := l.earnings.update p f } tenantId) :=
  tenantAccount_earn (tenantEarned_update selected status tenantId)
    (tenantShare_unsettled tenantId still).ge

/-- The share of a provider's transfer row is the transferred amount, taken
from that provider alone. -/
theorem providerTransfer_share (n now transferring ownerUserId amount : Int) (requestId : String) (providerId : Int) :
    (Record.withId n ((providerTransferRow now transferring ownerUserId amount requestId).beforeCreate now)).providerShare
      providerId = if transferring = providerId then -amount else 0 := by
  have unreferred : (Record.withId n
      ((providerTransferRow now transferring ownerUserId amount requestId).beforeCreate now)).incomeOf providerId =
        if transferring = providerId then -amount else 0 := by
    unfold incomeOf
    exact (congrArg _ (ite_self 0)).trans (add_zero _)
  unfold providerShare
  rw [unreferred]
  by_cases same : transferring = providerId
  · simp [same, concerns, Record.withId, beforeCreate, providerTransferRow]
  · simp [same]

theorem tenantTransfer_share (n now transferring ownerUserId amount : Int) (requestId : String) (tenantId : Int) :
    (Record.withId n ((tenantTransferRow now transferring ownerUserId amount requestId).beforeCreate now)).tenantShare
      tenantId = if transferring = tenantId then -amount else 0 := by
  simp only [tenantShare, tenantUsage, tenantTransfers, Record.withId, beforeCreate, tenantTransferRow]
  by_cases same : transferring = tenantId <;> simp [same]

/-- Every movement of the ledger moves each provider's account as an account
may move. -/
theorem Step.providerAccount (step : Step rules l l') (valid : l.WellFormed rules)
    (positive : ∀ n, rules.adjustment n → 0 < n) (providerId : Int) :
    Account.Step (l.providerAccount providerId) (l'.providerAccount providerId) := by
  cases step with
  | idle | tenantRequested stored status above free funds snapshot | tenantReviewed member transition clock paid =>
    exact .idle _
  | opened stored status usage =>
    obtain ⟨-, rfl, -⟩ := Table.insert_cases stored
    refine providerAccount_earn (earned_insert stored providerId) ?_
    exact (providerShare_unsettled providerId (by simp [Record.withId, status])).ge
  | reopened member status | released member status | cancelled member status =>
    exact providerAccount_unsettled (selects_earningIs member status) (by simp [status])
      (by simp [reopen, release, withSplit, cancel, status]) providerId
  | settled member status balanced =>
    refine providerAccount_earn (earned_update (selects_id member) status providerId) ?_
    exact providerShare_nonneg providerId balanced.providerIncome balanced.referralIncome
  | adjusted stored kind unreferred amount =>
    obtain ⟨-, rfl, -⟩ := Table.insert_cases stored
    refine providerAccount_earn (earned_insert stored providerId) ?_
    exact providerShare_nonneg providerId (positive _ amount).le unreferred.ge
  | @providerTransferred now transferring ownerUserId amount requestId row t above funds stored =>
    obtain ⟨-, rfl, -⟩ := Table.insert_cases stored
    have income := earned_insert stored providerId
    rw [providerTransfer_share] at income
    by_cases same : transferring = providerId
    · subst same
      rw [if_pos rfl] at income
      exact .transfer amount funds income rfl rfl
    · rw [if_neg same] at income
      exact .earn 0 le_rfl income rfl rfl
  | tenantTransferred above funds stored =>
    obtain ⟨-, rfl, -⟩ := Table.insert_cases stored
    refine providerAccount_earn (earned_insert stored providerId) ?_
    exact providerShare_nonneg providerId le_rfl le_rfl
  | providerRequested stored status above free funds =>
    exact request_account l.earned stored (by simp [HubWithdrawal.isOpen, status]) free funds providerId
  | providerReviewed member transition clock paid =>
    exact review_account (selects_id member) transition (valid.providers _ member).amount providerId

/-- The same for each tenant; adjustments do not concern tenants. -/
theorem Step.tenantAccount (step : Step rules l l') (valid : l.WellFormed rules) (tenantId : Int) :
    Account.Step (l.tenantAccount tenantId) (l'.tenantAccount tenantId) := by
  cases step with
  | idle | providerRequested stored status above free funds | providerReviewed member transition clock paid =>
    exact .idle _
  | opened stored status usage =>
    obtain ⟨-, rfl, -⟩ := Table.insert_cases stored
    refine tenantAccount_earn (tenantEarned_insert stored tenantId) ?_
    exact (tenantShare_unsettled tenantId (by simp [Record.withId, status])).ge
  | reopened member status | released member status | cancelled member status =>
    exact tenantAccount_unsettled (selects_earningIs member status) (by simp [status])
      (by simp [reopen, release, withSplit, cancel, status]) tenantId
  | settled member status balanced =>
    refine tenantAccount_earn (tenantEarned_update (selects_id member) status tenantId) ?_
    exact tenantShare_nonneg tenantId balanced.resellerNet
  | adjusted stored kind unreferred amount =>
    obtain ⟨-, rfl, -⟩ := Table.insert_cases stored
    refine tenantAccount_earn (tenantEarned_insert stored tenantId) ?_
    simp [tenantShare, tenantUsage, tenantTransfers, Record.withId, kind]
  | providerTransferred above funds stored =>
    obtain ⟨-, rfl, -⟩ := Table.insert_cases stored
    refine tenantAccount_earn (tenantEarned_insert stored tenantId) ?_
    exact tenantShare_nonneg tenantId le_rfl
  | @tenantTransferred now transferring ownerUserId amount requestId row t above funds stored =>
    obtain ⟨-, rfl, -⟩ := Table.insert_cases stored
    have income := tenantEarned_insert stored tenantId
    rw [tenantTransfer_share] at income
    by_cases same : transferring = tenantId
    · subst same
      rw [if_pos rfl] at income
      exact .transfer amount funds income rfl rfl
    · rw [if_neg same] at income
      exact .earn 0 le_rfl income rfl rfl
  | tenantRequested stored status above free funds snapshot =>
    exact request_account l.tenantEarned stored (by simp [HubWithdrawal.isOpen, status]) free funds tenantId
  | tenantReviewed member transition clock paid =>
    exact review_account (selects_id member) transition (valid.tenants _ member).1.amount tenantId

/-- A settled row is never touched again. -/
theorem Step.settled_mem (step : Step rules l l') (member : e ∈ l.earnings.rows)
    (settled : e.status = .settled) : e ∈ l'.earnings.rows := by
  have kept {p : HubProviderEarning → Bool} {x : HubProviderEarning} {f : Table.Assignment HubProviderEarning}
      (selected : l.earnings.Selects p x) (status : x.status ≠ .settled) : e ∈ (l.earnings.update p f).rows := by
    refine (selected.mem_update f).mpr (Or.inr ⟨member, ?_⟩)
    rintro rfl
    exact status settled
  cases step with
  | idle | providerRequested stored status above free funds
  | tenantRequested stored status above free funds snapshot | providerReviewed inside transition clock paid
  | tenantReviewed inside transition clock paid => exact member
  | opened stored status usage | adjusted stored kind unreferred amount | providerTransferred above funds stored
  | tenantTransferred above funds stored => exact (Table.mem_insert stored).mpr (Or.inl member)
  | reopened inside status | released inside status | cancelled inside status =>
    exact kept (selects_earningIs inside status) (by simp [status])
  | settled inside status balanced => exact kept (selects_id inside) status

end Ledger
end LLMHub
