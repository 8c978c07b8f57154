import LLMHub.Settlement.TenantFinance
import LLMHub.Settlement.EarningSteps
import LLMHub.Settlement.Account

namespace LLMHub

open Store HubProviderEarning

/-- The three tables that decide what providers and tenants are owed. -/
structure Ledger where
  earnings : Table HubProviderEarning
  providerWithdrawals : Table HubProviderWithdrawal
  tenantWithdrawals : Table HubTenantWithdrawal

def DB.ledger (db : DB) : Ledger := ⟨db.hubProviderEarnings, db.hubProviderWithdrawals, db.hubTenantWithdrawals⟩

/-- What a settled row adds to the income of a provider. -/
def HubProviderEarning.providerShare (providerId : Int) (e : HubProviderEarning) : Int :=
  if e.status == .settled && e.concerns providerId then e.incomeOf providerId else 0

/-- What a settled row adds to the income of a tenant; transfers are negative. -/
def HubProviderEarning.tenantShare (tenantId : Int) (e : HubProviderEarning) : Int :=
  (if tenantUsage tenantId .settled e then e.resellerNetIncomeQuota else 0) -
    if tenantTransfers tenantId e then -e.resellerNetIncomeQuota else 0

/-- `SUM(amount_quota)` of the withdrawals not rejected. -/
def unavailableIn {party : HubParty} (t : Table (HubWithdrawal party)) (holderId : Int) : Int :=
  t.sum (fun w => w.holderId == holderId && w.status != .rejected) HubWithdrawal.amountQuota

def openIn {party : HubParty} (t : Table (HubWithdrawal party)) (holderId : Int) : Nat :=
  t.count fun w => w.holderId == holderId && w.isOpen

namespace Ledger

def earned (l : Ledger) (providerId : Int) : Int :=
  l.earnings.sum (fun e => e.status == .settled && e.concerns providerId) (incomeOf providerId)

def tenantEarned (l : Ledger) (tenantId : Int) : Int :=
  l.earnings.sum (tenantUsage tenantId .settled) resellerNetIncomeQuota -
    l.earnings.sum (tenantTransfers tenantId) fun e => -e.resellerNetIncomeQuota

def providerAccount (l : Ledger) (providerId : Int) : Account :=
  ⟨l.earned providerId, unavailableIn l.providerWithdrawals providerId, openIn l.providerWithdrawals providerId⟩

def tenantAccount (l : Ledger) (tenantId : Int) : Account :=
  ⟨l.tenantEarned tenantId, unavailableIn l.tenantWithdrawals tenantId, openIn l.tenantWithdrawals tenantId⟩

/-- Which manual adjustments and which payout snapshots a family of runs admits. -/
structure Rules where
  adjustment : Int → Prop
  snapshot : String → Prop

/-- The movements of the ledger. Every operation of the code is one of them. -/
inductive Step (rules : Rules) (l : Ledger) : Ledger → Prop
  | idle : Step rules l l
  | opened {draft row : HubProviderEarning} {t : Table HubProviderEarning}
      (stored : l.earnings.insert draft = some (row, t)) (status : draft.status = .pending)
      (usage : draft.entryType = .usage) : Step rules l { l with earnings := t }
  | reopened {e draft : HubProviderEarning} {now : Int} (member : e ∈ l.earnings.rows) (status : e.status = .cancelled) :
      Step rules l { l with
        earnings := l.earnings.update (earningIs e.id .cancelled) (reopen now draft) }
  | released {e : HubProviderEarning} {now grossQuota : Int} {split : RevenueSplit} (member : e ∈ l.earnings.rows)
      (status : e.status = .pending) :
      Step rules l { l with
        earnings := l.earnings.update (earningIs e.id .pending) (release now grossQuota split) }
  | settled {e : HubProviderEarning} {now grossQuota : Int} {split : RevenueSplit} (member : e ∈ l.earnings.rows)
      (status : e.status ≠ .settled) (balanced : split.Balanced grossQuota) :
      Step rules l { l with
        earnings := l.earnings.update (fun x => x.id == e.id) (settle now grossQuota split) }
  | cancelled {e : HubProviderEarning} {now : Int} (member : e ∈ l.earnings.rows) (status : e.status = .pending) :
      Step rules l { l with
        earnings := l.earnings.update (earningIs e.id .pending) (cancel now) }
  | adjusted {draft row : HubProviderEarning} {t : Table HubProviderEarning}
      (stored : l.earnings.insert draft = some (row, t)) (kind : draft.entryType = .adjustment)
      (unreferred : draft.referralIncomeQuota = 0) (amount : rules.adjustment draft.providerIncomeQuota) :
      Step rules l { l with earnings := t }
  | providerTransferred {now providerId ownerUserId amount : Int} {requestId : String} {row : HubProviderEarning}
      {t : Table HubProviderEarning} (positive : 0 < amount)
      (funds : amount ≤ (l.providerAccount providerId).available)
      (stored : l.earnings.insert ((providerTransferRow now providerId ownerUserId amount requestId).beforeCreate now) =
        some (row, t)) : Step rules l { l with earnings := t }
  | tenantTransferred {now tenantId ownerUserId amount : Int} {requestId : String} {row : HubProviderEarning}
      {t : Table HubProviderEarning} (positive : 0 < amount)
      (funds : amount ≤ (l.tenantAccount tenantId).available)
      (stored : l.earnings.insert ((tenantTransferRow now tenantId ownerUserId amount requestId).beforeCreate now) =
        some (row, t)) : Step rules l { l with earnings := t }
  | providerRequested {draft row : HubProviderWithdrawal} {t : Table HubProviderWithdrawal}
      (stored : l.providerWithdrawals.insert draft = some (row, t)) (status : draft.status = .pending)
      (positive : 0 < draft.amountQuota) (free : (l.providerAccount draft.holderId).openCount = 0)
      (funds : draft.amountQuota ≤ (l.providerAccount draft.holderId).available) :
      Step rules l { l with providerWithdrawals := t }
  | tenantRequested {draft row : HubTenantWithdrawal} {t : Table HubTenantWithdrawal}
      (stored : l.tenantWithdrawals.insert draft = some (row, t)) (status : draft.status = .approved)
      (positive : 0 < draft.amountQuota) (free : (l.tenantAccount draft.holderId).openCount = 0)
      (funds : draft.amountQuota ≤ (l.tenantAccount draft.holderId).available)
      (snapshot : rules.snapshot draft.payoutAccountSnapshot) : Step rules l { l with tenantWithdrawals := t }
  | providerReviewed {w : HubProviderWithdrawal} {next : HubWithdrawalStatus} {adminUserId now : Int}
      {remark : String} {payment : HubWithdrawalPayment} (member : w ∈ l.providerWithdrawals.rows)
      (valid : validHubWithdrawalTransition w.status next = true) (clock : 0 < now)
      (paid : next = .paid → payment.currency ≠ "" ∧ 0 < payment.amountMinor) :
      Step rules l { l with
        providerWithdrawals := l.providerWithdrawals.update (fun x => x.id == w.id)
          (w.review next adminUserId remark payment now) }
  | tenantReviewed {w : HubTenantWithdrawal} {next : HubWithdrawalStatus} {adminUserId now : Int}
      {remark : String} {payment : HubWithdrawalPayment} (member : w ∈ l.tenantWithdrawals.rows)
      (valid : validHubWithdrawalTransition w.status next = true) (clock : 0 < now)
      (paid : next = .paid → payment.currency ≠ "" ∧ 0 < payment.amountMinor) :
      Step rules l { l with
        tenantWithdrawals := l.tenantWithdrawals.update (fun x => x.id == w.id)
          (w.review next adminUserId remark payment now) }

end Ledger
end LLMHub
