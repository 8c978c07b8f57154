import LLMHub.Settlement.TenantLedger
import LLMHub.Store.Columns
import Mathlib.Algebra.Order.BigOperators.Group.Finset

namespace LLMHub

open Store Table HubProviderEarning

/-- The columns of a settled usage add up to what the consumer was charged. -/
structure HubProviderEarning.Booked (e : HubProviderEarning) : Prop where
  total : e.platformFeeQuota + e.providerIncomeQuota + e.referralIncomeQuota + e.resellerNetIncomeQuota = e.grossQuota
  platformFee : 0 ≤ e.platformFeeQuota
  providerIncome : 0 ≤ e.providerIncomeQuota
  referralIncome : 0 ≤ e.referralIncomeQuota
  resellerNet : 0 ≤ e.resellerNetIncomeQuota

/-- What a settled row makes available to providers and tenants. A transfer to
the balance of a user takes it away again. -/
def HubProviderEarning.funding (e : HubProviderEarning) : Int :=
  match e.entryType with
  | .usage => e.grossQuota - e.platformFeeQuota
  | .adjustment => e.providerIncomeQuota + e.referralIncomeQuota
  | .balanceTransfer => e.providerIncomeQuota + e.resellerNetIncomeQuota

def HubProviderEarning.settledAs (kind : HubProviderEarningType) (e : HubProviderEarning) : Bool :=
  e.status == .settled && e.entryType == kind

open HubProviderEarning (settledAs funding providerIncomeQuota referralIncomeQuota resellerNetIncomeQuota
  referralProviderId)
open HubWithdrawal (holderId amountQuota)

namespace Ledger
variable {rules : Rules} {l l' : Ledger}

def Books (l : Ledger) : Prop := ∀ e ∈ l.earnings.rows, e.settledAs .usage = true → e.Booked

theorem Step.books (step : Step rules l l') (books : l.Books) : l'.Books := by
  have unsettled {p : HubProviderEarning → Bool} {e : HubProviderEarning} {f : Table.Assignment HubProviderEarning}
      (selected : l.earnings.Selects p e) (still : (f.set e).status ≠ .settled) :
      Books { l with earnings := l.earnings.update p f } :=
    selected.forall_update books fun settled => absurd settled (by simp [settledAs, still])
  have other {draft row : HubProviderEarning} {t : Table HubProviderEarning}
      (stored : l.earnings.insert draft = some (row, t)) (no : draft.settledAs .usage = false) :
      Books { l with earnings := t } :=
    Table.forall_insert books stored fun settled => Bool.noConfusion (no.symm.trans settled)
  cases step with
  | idle | providerRequested | tenantRequested | providerReviewed | tenantReviewed => exact books
  | opened stored status usage => exact other stored (by simp [settledAs, status])
  | reopened member status => exact unsettled (selects_earningIs member status) (by simp [reopen])
  | released member status => exact unsettled (selects_earningIs member status) (status.trans_ne (by decide))
  | settled member status balanced =>
    exact (selects_id member).forall_update books fun _ => ⟨balanced.total, balanced.platformFee,
      balanced.providerIncome, balanced.referralIncome, balanced.resellerNet⟩
  | cancelled member status => exact unsettled (selects_earningIs member status) (by simp [cancel])
  | adjusted stored kind unreferred amount => exact other stored (by simp [settledAs, kind])
  | providerTransferred positive funds stored | tenantTransferred positive funds stored => exact other stored rfl

end Ledger

section Final
variable {party : HubParty} {t : Table (HubWithdrawal party)} {w x : HubWithdrawal party}
  {f : Table.Assignment (HubWithdrawal party)} {next : HubWithdrawalStatus}

/-- A review does not touch a withdrawal that is paid or rejected. -/
theorem mem_review (inside : x ∈ t.rows) (final : x.isOpen = false) (member : w ∈ t.rows)
    (valid : validHubWithdrawalTransition w.status next = true) :
    x ∈ (t.update (fun y => y.id == w.id) f).rows := by
  refine ((selects_id member).mem_update f).mpr (.inr ⟨inside, ?_⟩)
  rintro rfl
  obtain ⟨status | status, -⟩ := validHubWithdrawalTransition_cases valid <;>
    simp [HubWithdrawal.isOpen, status] at final

end Final

/-- Settled rows and withdrawals that are paid or rejected stand as they are. -/
structure Ledger.FinalKept (l l' : Ledger) : Prop where
  earnings : ∀ e ∈ l.earnings.rows, e.status = .settled → e ∈ l'.earnings.rows
  providers : ∀ w ∈ l.providerWithdrawals.rows, w.isOpen = false → w ∈ l'.providerWithdrawals.rows
  tenants : ∀ w ∈ l.tenantWithdrawals.rows, w.isOpen = false → w ∈ l'.tenantWithdrawals.rows

theorem Ledger.Step.finalKept {rules : Rules} {l l' : Ledger} (step : Step rules l l') : l.FinalKept l' := by
  refine ⟨fun e inside settled => step.settled_mem inside settled, ?_, ?_⟩ <;> intro w inside final <;> cases step
  case refine_1.providerRequested stored _ _ _ _ => exact (mem_insert stored).mpr (.inl inside)
  case refine_1.providerReviewed member valid _ _ => exact mem_review inside final member valid
  case refine_2.tenantRequested stored _ _ _ _ _ => exact (mem_insert stored).mpr (.inl inside)
  case refine_2.tenantReviewed member valid _ _ => exact mem_review inside final member valid
  all_goals exact inside

/-- No operation of the ledger rewrites or removes what is final. -/
theorem final_rows_kept {rules : Ledger.Rules} {start db : DB} (run : RuledRun rules start db) :
    start.ledger.FinalKept db.ledger := by
  induction run with
  | refl => exact ⟨fun _ inside _ => inside, fun _ inside _ => inside, fun _ inside _ => inside⟩
  | tail _ move kept =>
    have step := (RuledRun.move_step move).finalKept
    exact ⟨fun e inside settled => step.earnings e (kept.earnings e inside settled) settled,
      fun w inside final => step.providers w (kept.providers w inside final) final,
      fun w inside final => step.tenants w (kept.tenants w inside final) final⟩

/-- A request is cancelled after it was paid out. -/
theorem oneTenantPaid_kept :
    oneTenantPaid.ledger.FinalKept (cancelHubProviderEarning plainEnv "r" ⟨oneTenantPaid, []⟩).2.db.ledger :=
  @final_rows_kept nonEmptySnapshots _ _
    (.single (.operation plainEnv (.cancel "r") trivial (Action.leaves_run _ ⟨oneTenantPaid, []⟩)))

theorem RuledRun.books {rules : Ledger.Rules} {start db : DB} (run : RuledRun rules start db)
    (empty : start.ledger = .empty) : db.ledger.Books := by
  induction run with
  | refl => exact empty ▸ fun _ member => nomatch member
  | tail _ move books => exact (move_step move).books books

/-- Whatever is interleaved, fees, incomes and nets of the settled usage are
what consumers were charged for it, and none of them is negative. -/
theorem usage_books_balance {rules : Ledger.Rules} {start db : DB} (empty : start.ledger = .empty)
    (run : RuledRun rules start db) :
    db.hubProviderEarnings.sum (settledAs .usage) (fun e => e.platformFeeQuota + e.providerIncomeQuota +
        e.referralIncomeQuota + e.resellerNetIncomeQuota) =
      db.hubProviderEarnings.sum (settledAs .usage) (·.grossQuota) ∧
    ∀ e ∈ db.hubProviderEarnings.rows, e.settledAs .usage = true → 0 ≤ e.platformFeeQuota ∧
      0 ≤ e.providerIncomeQuota ∧ 0 ≤ e.referralIncomeQuota ∧ 0 ≤ e.resellerNetIncomeQuota := by
  have books := RuledRun.books run empty
  constructor
  · refine congrArg List.sum (List.map_congr_left fun e member => ?_)
    split_ifs with usage
    · exact (books e member usage).total
    · rfl
  · intro e member usage
    obtain ⟨-, fee, income, referral, net⟩ := books e member usage
    exact ⟨fee, income, referral, net⟩

theorem oneTenantPaid_balance :
    oneTenantPaid.hubProviderEarnings.sum (settledAs .usage) (fun e => e.platformFeeQuota + e.providerIncomeQuota +
      e.referralIncomeQuota + e.resellerNetIncomeQuota) =
        oneTenantPaid.hubProviderEarnings.sum (settledAs .usage) (·.grossQuota) :=
  (usage_books_balance rfl oneTenantPaid_run).1

section Totals
variable {start db : DB} (empty : start.ledger = .empty) (run : RuledRun positiveAdjustments start db)
include empty run

/-- What all providers have withdrawn is covered by their income. -/
theorem providers_covered : db.hubProviderWithdrawals.sum (·.status != .rejected) amountQuota ≤
    db.hubProviderEarnings.sum (·.status == .settled) providerIncomeQuota +
      db.hubProviderEarnings.sum (·.status == .settled) referralIncomeQuota := by
  let ids := column db.hubProviderWithdrawals holderId ∪
    (column db.hubProviderEarnings providerId ∪
      column db.hubProviderEarnings referralProviderId)
  calc
    _ = ∑ i ∈ ids, unavailableIn db.hubProviderWithdrawals i :=
      (sum_fiberwise _ holderId Finset.subset_union_left (fun _ _ => rfl) _).symm
    _ ≤ ∑ i ∈ ids, db.ledger.earned i := Finset.sum_le_sum fun i _ =>
      Int.sub_nonneg.mp (RuledRun.providerSolvent run empty (fun _ positive => positive) i).funds
    _ = _ := by
      simp only [← Ledger.earned_eq, Finset.sum_add_distrib]
      exact congrArg₂ (· + ·)
        (sum_fiberwise _ providerId (Finset.subset_union_left.trans Finset.subset_union_right)
          (fun _ _ => by rw [Bool.and_comm]) _)
        (sum_fiberwise _ referralProviderId
          (Finset.subset_union_right.trans Finset.subset_union_right) (fun _ _ => by rw [Bool.and_comm]) _)

/-- What all tenants have withdrawn is covered by their income, less what they
transferred. -/
theorem tenants_covered : db.hubTenantWithdrawals.sum (·.status != .rejected) amountQuota ≤
    db.hubProviderEarnings.sum (fun e => e.settledAs .usage && e.settlementVersion ≥ 2)
        resellerNetIncomeQuota -
      db.hubProviderEarnings.sum (·.settledAs .balanceTransfer) fun e => -e.resellerNetIncomeQuota := by
  let ids := column db.hubTenantWithdrawals holderId ∪
    column db.hubProviderEarnings tenantId
  calc
    _ = ∑ i ∈ ids, unavailableIn db.hubTenantWithdrawals i :=
      (sum_fiberwise _ holderId Finset.subset_union_left (fun _ _ => rfl) _).symm
    _ ≤ ∑ i ∈ ids, db.ledger.tenantEarned i := Finset.sum_le_sum fun i _ =>
      Int.sub_nonneg.mp (RuledRun.tenantSolvent run empty i).funds
    _ = _ := by
      simp only [Ledger.tenantEarned, Finset.sum_sub_distrib]
      exact congrArg₂ (· - ·)
        (sum_fiberwise _ tenantId Finset.subset_union_right
          (fun _ _ => by simp [tenantUsage, settledAs, Bool.and_assoc]) _)
        (sum_fiberwise _ tenantId Finset.subset_union_right
          (fun _ _ => by simp [tenantTransfers, settledAs, Bool.and_assoc]) _)

/-- Whatever is interleaved, all withdrawals together are covered by what
consumers were charged less the fees, by manual adjustments, and by what was
not transferred to balances. -/
theorem payouts_covered : db.hubProviderWithdrawals.sum (·.status != .rejected) amountQuota +
    db.hubTenantWithdrawals.sum (·.status != .rejected) amountQuota ≤
      db.hubProviderEarnings.sum (·.status == .settled) funding := by
  have providers := providers_covered empty run
  have tenants := tenants_covered empty run
  have books := RuledRun.books run empty
  have valid := RuledRun.wellFormed run (RuledRun.empty_wellFormed empty)
  have rows := List.sum_le_sum fun e (member : e ∈ db.hubProviderEarnings.rows) => show
      (if e.status == .settled then e.providerIncomeQuota else 0) +
          (if e.status == .settled then e.referralIncomeQuota else 0) +
          (if e.settledAs .usage && e.settlementVersion ≥ 2 then e.resellerNetIncomeQuota else 0) ≤
        (if e.status == .settled then e.funding else 0) +
          (if e.settledAs .balanceTransfer then -e.resellerNetIncomeQuota else 0) by
    by_cases settled : e.status = .settled
    · cases kind : e.entryType with
      | usage =>
        obtain ⟨total, -, -, -, net⟩ := books e member (by simp [settledAs, settled, kind])
        simp only [settledAs, funding, settled, kind]
        split_ifs <;> simp_all <;> omega
      | adjustment => simp [settledAs, funding, settled, kind]
      | balanceTransfer =>
        have unreferred := (valid.transfers e member kind).2.1
        simp [settledAs, funding, settled, kind, unreferred]
    · simp [settledAs, settled]
  simp only [List.sum_map_add] at rows
  simp only [Table.sum] at providers tenants ⊢
  omega

end Totals

theorem oneProviderRequested_covered : oneProviderRequested.hubProviderWithdrawals.rows.length = 1 ∧
    oneProviderRequested.hubProviderWithdrawals.sum (·.status != .rejected) amountQuota +
      oneProviderRequested.hubTenantWithdrawals.sum (·.status != .rejected) amountQuota ≤
        oneProviderRequested.hubProviderEarnings.sum (·.status == .settled) funding :=
  ⟨rfl, payouts_covered rfl (oneProviderRequested_run (by decide : (0 : Int) < 100))⟩

end LLMHub
