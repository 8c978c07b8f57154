import LLMHub.Settlement.Ledger

namespace LLMHub

open Store

variable {e : HubProviderEarning} {next : HubWithdrawalStatus}

theorem selects_earningIs {t : Table HubProviderEarning} {status : HubProviderEarningStatus}
    (member : e ∈ t.rows) (at_status : e.status = status) : t.Selects (earningIs e.id status) e := by
  refine .of_id member (by simp [earningIs, at_status]) ?_
  intro y _ selected
  simp only [earningIs, Bool.and_eq_true, beq_iff_eq] at selected
  exact selected.1

theorem requestId_of_first {t : Table HubProviderEarning} {requestId : String}
    (found : t.first (requestIdIs requestId) = some e) : e.requestId = requestId := by
  have named := Table.holds_of_first found
  exact beq_iff_eq.mp named

/-- Request ids are unique. -/
theorem selects_requestId {t : Table HubProviderEarning} (member : e ∈ t.rows) :
    t.Selects (requestIdIs e.requestId) e := by
  refine .of_unique (k := .text e.requestId) member (by simp [requestIdIs]) ?_
  intro y _ selected
  exact congrArg (fun text => some (Key.text text)) (beq_iff_eq.mp selected)

theorem selects_id {α : Type} [Record α] {t : Table α} {x : α} (member : x ∈ t.rows) :
    t.Selects (fun y => Record.id y == Record.id x) x := by
  refine .of_id member (by simp) ?_
  intro y _ selected
  exact beq_iff_eq.mp selected

namespace HubProviderEarning

theorem providerShare_unsettled (providerId : Int) (status : e.status ≠ .settled) : e.providerShare providerId = 0 := by
  simp [providerShare, status]

theorem tenantShare_unsettled (tenantId : Int) (status : e.status ≠ .settled) : e.tenantShare tenantId = 0 := by
  simp [tenantShare, tenantUsage, tenantTransfers, status]

theorem providerShare_nonneg (providerId : Int) (served : 0 ≤ e.providerIncomeQuota)
    (referred : 0 ≤ e.referralIncomeQuota) : 0 ≤ e.providerShare providerId := by
  unfold providerShare incomeOf
  split_ifs <;> omega

theorem tenantShare_nonneg (tenantId : Int) (net : 0 ≤ e.resellerNetIncomeQuota) : 0 ≤ e.tenantShare tenantId := by
  unfold tenantShare
  split_ifs <;> omega

end HubProviderEarning

namespace Ledger

theorem earned_insert {l : Ledger} {draft row : HubProviderEarning} {t : Table HubProviderEarning}
    (stored : l.earnings.insert draft = some (row, t)) (providerId : Int) :
    Ledger.earned { l with earnings := t } providerId = l.earned providerId + row.providerShare providerId :=
  Table.sum_insert stored _ _

theorem tenantEarned_insert {l : Ledger} {draft row : HubProviderEarning} {t : Table HubProviderEarning}
    (stored : l.earnings.insert draft = some (row, t)) (tenantId : Int) :
    Ledger.tenantEarned { l with earnings := t } tenantId = l.tenantEarned tenantId + row.tenantShare tenantId := by
  unfold tenantEarned HubProviderEarning.tenantShare
  rw [Table.sum_insert stored, Table.sum_insert stored]
  omega

/-- Rewriting a row that was not settled adds the share of the row it becomes. -/
theorem earned_update {l : Ledger} {p : HubProviderEarning → Bool}
    {f : Table.Assignment HubProviderEarning} (selected : l.earnings.Selects p e) (status : e.status ≠ .settled)
    (providerId : Int) :
    Ledger.earned { l with earnings := l.earnings.update p f } providerId =
      l.earned providerId + (f.set e).providerShare providerId := by
  have old := HubProviderEarning.providerShare_unsettled providerId status
  have sum := selected.sum_update f (fun e => e.status == .settled && e.concerns providerId)
    (HubProviderEarning.incomeOf providerId)
  unfold HubProviderEarning.providerShare at old ⊢
  simp only [earned]
  omega

theorem tenantEarned_update {l : Ledger} {p : HubProviderEarning → Bool}
    {f : Table.Assignment HubProviderEarning} (selected : l.earnings.Selects p e) (status : e.status ≠ .settled)
    (tenantId : Int) :
    Ledger.tenantEarned { l with earnings := l.earnings.update p f } tenantId =
      l.tenantEarned tenantId + (f.set e).tenantShare tenantId := by
  have old := HubProviderEarning.tenantShare_unsettled tenantId status
  have usage := selected.sum_update f (tenantUsage tenantId .settled) HubProviderEarning.resellerNetIncomeQuota
  have transfers := selected.sum_update f (tenantTransfers tenantId) fun e => -e.resellerNetIncomeQuota
  unfold HubProviderEarning.tenantShare at old ⊢
  simp only [tenantEarned]
  omega

end Ledger

section Withdrawals
variable {party : HubParty} {t t' : Table (HubWithdrawal party)}

variable {draft row w : HubWithdrawal party} {p : HubWithdrawal party → Bool}

theorem unavailableIn_insert (stored : t.insert draft = some (row, t'))
    (status : draft.isOpen = true) (holderId : Int) :
    unavailableIn t' holderId = unavailableIn t holderId + if draft.holderId = holderId then draft.amountQuota else 0 := by
  obtain ⟨-, rfl, -⟩ := Table.insert_cases stored
  have kept : draft.status ≠ .rejected := by
    intro rejected
    simp [HubWithdrawal.isOpen, rejected] at status
  unfold unavailableIn
  rw [Table.sum_insert stored]
  simp [Record.withId, kept]

theorem openIn_insert (stored : t.insert draft = some (row, t')) (status : draft.isOpen = true) (holderId : Int) :
    openIn t' holderId = openIn t holderId + if draft.holderId = holderId then 1 else 0 := by
  obtain ⟨-, rfl, -⟩ := Table.insert_cases stored
  have still : (Record.withId t.nextId draft).isOpen = true := status
  unfold openIn
  rw [Table.count_insert stored, still]
  simp [Record.withId]

def heldBy (w : HubWithdrawal party) (holderId : Int) : Int :=
  if w.holderId == holderId && w.status != .rejected then w.amountQuota else 0

def openFor (w : HubWithdrawal party) (holderId : Int) : Nat := if w.holderId == holderId && w.isOpen then 1 else 0

theorem unavailableIn_update {f : Table.Assignment (HubWithdrawal party)} (selected : t.Selects p w) (holderId : Int) :
    unavailableIn (t.update p f) holderId = unavailableIn t holderId - heldBy w holderId + heldBy (f.set w) holderId :=
  selected.sum_update f _ _

theorem openIn_update {f : Table.Assignment (HubWithdrawal party)} (selected : t.Selects p w) (holderId : Int) :
    openIn (t.update p f) holderId + openFor w holderId = openIn t holderId + openFor (f.set w) holderId :=
  selected.count_update f _

theorem validHubWithdrawalTransition_cases {current : HubWithdrawalStatus}
    (valid : validHubWithdrawalTransition current next = true) :
    (current = .pending ∨ current = .approved) ∧ (next = .approved ∨ next = .paid ∨ next = .rejected) := by
  simp only [validHubWithdrawalTransition, Bool.or_eq_true, Bool.and_eq_true, beq_iff_eq] at valid
  rcases valid with ⟨pending, (next | next) | next⟩ | ⟨approved, next | next⟩ <;> simp [*]

theorem heldBy_open (status : w.status = .pending ∨ w.status = .approved) (holderId : Int) :
    heldBy w holderId = (if w.holderId = holderId then w.amountQuota else 0) ∧
      openFor w holderId = if w.holderId = holderId then 1 else 0 := by
  rcases status with status | status <;> simp [heldBy, openFor, HubWithdrawal.isOpen, status]

/-- A valid status change keeps, pays or releases the reserved amount. -/
theorem review_account
    {adminUserId now earned : Int} {remark : String} {payment : HubWithdrawalPayment} (selected : t.Selects p w)
    (valid : validHubWithdrawalTransition w.status next = true) (amount : 0 < w.amountQuota) (holderId : Int) :
    Account.Step ⟨earned, unavailableIn t holderId, openIn t holderId⟩
      ⟨earned, unavailableIn (t.update p (w.review next adminUserId remark payment now)) holderId,
        openIn (t.update p (w.review next adminUserId remark payment now)) holderId⟩ := by
  obtain ⟨status, target⟩ := validHubWithdrawalTransition_cases valid
  obtain ⟨before, beforeOpen⟩ := heldBy_open status holderId
  generalize review : w.review next adminUserId remark payment now = f
  have held := unavailableIn_update (f := f) selected holderId
  have opened := openIn_update (f := f) selected holderId
  by_cases holder : w.holderId = holderId
  · rw [if_pos holder] at before beforeOpen
    rcases target with rfl | rfl | rfl
    · have after : heldBy (f.set w) holderId = w.amountQuota ∧ openFor (f.set w) holderId = 1 := by
        simp [← review, HubWithdrawal.review, heldBy, openFor, HubWithdrawal.isOpen, holder]
      exact .earn 0 le_rfl (by simp) (by simp only; omega) (by simp only; omega)
    · have after : heldBy (f.set w) holderId = w.amountQuota ∧ openFor (f.set w) holderId = 0 := by
        simp [← review, HubWithdrawal.review, heldBy, openFor, HubWithdrawal.isOpen, holder]
      exact .pay rfl (by simp only; omega) (by simp only; omega)
    · have after : heldBy (f.set w) holderId = 0 ∧ openFor (f.set w) holderId = 0 := by
        simp [← review, HubWithdrawal.review, heldBy, openFor, HubWithdrawal.isOpen]
      exact .release w.amountQuota amount.le rfl (by simp only; omega) (by simp only; omega)
  · rw [if_neg holder] at before beforeOpen
    have after : heldBy (f.set w) holderId = 0 ∧ openFor (f.set w) holderId = 0 := by
      simp [← review, HubWithdrawal.review, heldBy, openFor, holder]
    exact .earn 0 le_rfl (by simp) (by simp only; omega) (by simp only; omega)

/-- A request reserves its amount for its holder and touches nobody else. -/
theorem request_account (earned : Int → Int)
    (stored : t.insert draft = some (row, t')) (status : draft.isOpen = true) (free : openIn t draft.holderId = 0)
    (funds : draft.amountQuota ≤ earned draft.holderId - unavailableIn t draft.holderId) (holderId : Int) :
    Account.Step ⟨earned holderId, unavailableIn t holderId, openIn t holderId⟩
      ⟨earned holderId, unavailableIn t' holderId, openIn t' holderId⟩ := by
  have held := unavailableIn_insert stored status holderId
  have opened := openIn_insert stored status holderId
  by_cases holder : draft.holderId = holderId
  · subst holder
    rw [if_pos rfl] at held opened
    exact .reserve draft.amountQuota free funds rfl held (by simp only; omega)
  · rw [if_neg holder] at held opened
    exact .earn 0 le_rfl (by simp) (by simp only; omega) (by simp only; omega)

end Withdrawals

/-- A row of a reachable withdrawal table. -/
structure HubWithdrawal.Valid {party : HubParty} (w : HubWithdrawal party) : Prop where
  amount : 0 < w.amountQuota
  status : isValidHubWithdrawalStatus w.status = true
  paid : w.status = .paid → 0 < w.paidAt ∧ w.payoutCurrency ≠ "" ∧ 0 < w.payoutAmountMinor

theorem HubWithdrawal.Valid.review {party : HubParty} {w : HubWithdrawal party}
    {adminUserId now : Int} {remark : String} {payment : HubWithdrawalPayment} (valid : w.Valid)
    (transition : validHubWithdrawalTransition w.status next = true) (clock : 0 < now)
    (paid : next = .paid → payment.currency ≠ "" ∧ 0 < payment.amountMinor) :
    ((w.review next adminUserId remark payment now).set w).Valid := by
  obtain ⟨-, target⟩ := validHubWithdrawalTransition_cases transition
  refine ⟨valid.amount, ?_, ?_⟩
  · rcases target with rfl | rfl | rfl <;> rfl
  · intro isPaid
    have isPaid : next = .paid := isPaid
    obtain ⟨currency, minor⟩ := paid isPaid
    simp only [HubWithdrawal.review, if_pos isPaid]
    exact ⟨clock, currency, minor⟩

end LLMHub
