import LLMHub.Settlement.Operations

namespace LLMHub

open Store Action Go HubProviderEarning

/-- The income of a provider, as the two sums it is made of: what it served
and what it referred. -/
theorem Ledger.earned_eq (l : Ledger) (providerId : Int) :
    l.earnings.sum (fun e => e.status == .settled && e.providerId == providerId) providerIncomeQuota +
      l.earnings.sum (fun e => e.status == .settled && e.referralProviderId == providerId)
        referralIncomeQuota = l.earned providerId := by
  refine Table.sum_add_sum fun e _ => ?_
  unfold concerns incomeOf
  by_cases settled : e.status = .settled <;> by_cases served : e.providerId = providerId <;>
    by_cases referred : e.referralProviderId = providerId <;> simp [settled, served, referred]

/-- Manual adjustments only ever add to the income of a provider. -/
def positiveAdjustments : Ledger.Rules := ⟨fun amountQuota => 0 < amountQuota, fun _ => True⟩

/-- Whatever is interleaved, a provider is never paid beyond its income and
never has two withdrawals under way. -/
theorem providerLedger_never_overpaid {start db : DB} (empty : start.ledger = .empty)
    (run : RuledRun positiveAdjustments start db) (providerId : Int) :
    0 ≤ db.hubProviderEarnings.sum (fun e => e.status == .settled && e.providerId == providerId)
          providerIncomeQuota +
        db.hubProviderEarnings.sum (fun e => e.status == .settled && e.referralProviderId == providerId)
          referralIncomeQuota -
        db.hubProviderWithdrawals.sum (fun w => w.holderId == providerId && w.status != .rejected)
          HubWithdrawal.amountQuota ∧
      db.hubProviderWithdrawals.count
        (fun w => w.holderId == providerId && (w.status == .pending || w.status == .approved)) ≤ 1 := by
  obtain ⟨funds, single⟩ := RuledRun.providerSolvent run empty (fun _ positive => positive) providerId
  refine ⟨?_, single⟩
  calc 0 ≤ db.ledger.earned providerId - unavailableIn db.hubProviderWithdrawals providerId := funds
    _ = _ := congrArg (· - unavailableIn db.hubProviderWithdrawals providerId) (db.ledger.earned_eq providerId).symm

/-- Default settings and a JSON package that accepts every text. -/
def plainEnv : Env where
  setting := {}
  json :=
    { marshalDetails := fun details => .ok details.account
      unmarshalDetails := fun text => .ok ⟨1, text, text, "", "", ""⟩
      marshalSnapshot := fun snapshot => .ok ("snapshot:" ++ snapshot.method)
      unmarshalSnapshot := fun text => .ok ⟨text, ⟨1, "", "", "", "", ""⟩, 0, ""⟩ }
  now := 1000
  now_pos := by decide

def oneProvider : DB where
  users := .single { id := 7 }
  hubProviders := .single { id := 1, ownerUserId := 7, status := .active }
  hubProviderPayoutAccounts := .single ⟨3, 1, "bank", "account", 0, false⟩

def oneProviderAdjusted : DB :=
  (createHubProviderManualAdjustment plainEnv 1 100 9 "bonus" "a" ⟨oneProvider, []⟩).2.db

def oneProviderRequested : DB := (createHubProviderWithdrawal plainEnv 1 7 60 3 ⟨oneProviderAdjusted, []⟩).2.db

theorem oneProviderRequested_run {rules : Ledger.Rules} (admitted : rules.adjustment 100) :
    RuledRun rules {} oneProviderRequested := by
  have registered : RuledRun rules {} oneProvider := .single (.outside rfl rfl)
  have adjusted := registered.tail
    (.operation plainEnv (.adjust 1 100 9 "bonus" "a") admitted (leaves_run _ ⟨oneProvider, []⟩))
  exact adjusted.tail
    (.operation plainEnv (.providerWithdraw 1 7 60 3) trivial (leaves_run _ ⟨oneProviderAdjusted, []⟩))

theorem oneProviderRequested_not_overpaid :
    oneProviderRequested.ledger.earned 1 = 100 ∧ oneProviderRequested.hubProviderWithdrawals.rows.length = 1 ∧
      0 ≤ oneProviderRequested.hubProviderEarnings.sum (fun e => e.status == .settled && e.providerId == 1)
            providerIncomeQuota +
          oneProviderRequested.hubProviderEarnings.sum (fun e => e.status == .settled && e.referralProviderId == 1)
            referralIncomeQuota -
          oneProviderRequested.hubProviderWithdrawals.sum (fun w => w.holderId == 1 && w.status != .rejected)
            HubWithdrawal.amountQuota := by
  have covered := providerLedger_never_overpaid rfl (oneProviderRequested_run (by decide : (0 : Int) < 100)) 1
  exact ⟨rfl, rfl, covered.1⟩

end LLMHub
