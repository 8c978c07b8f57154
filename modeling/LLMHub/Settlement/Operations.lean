import LLMHub.Settlement.LedgerInvariants
import LLMHub.Settlement.FinanceSteps
import LLMHub.Billing.RefundSteps

namespace LLMHub

open Store Action Go

/-- The operations that write the ledger or the refunds, with the arguments of
their callers. -/
inductive Op
  | prepare (params : HubProviderEarningParams)
  | markReady (requestId : String) (grossQuota : Int)
  | settle (requestId : String) (grossQuota : Int)
  | cancel (requestId : String)
  | adjust (providerId amountQuota operatorUserId : Int) (remark uuid : String)
  | providerTransfer (providerId ownerUserId amountQuota : Int) (idempotencyKey : String)
  | providerWithdraw (providerId ownerUserId amountQuota payoutAccountId : Int)
  | providerReview (id : Int) (status : HubWithdrawalStatus) (adminUserId : Int) (adminRemark : String)
      (payment : Option HubWithdrawalPayment)
  | tenantTransfer (tenantId ownerUserId amountQuota : Int) (idempotencyKey : String)
  | tenantWithdraw (tenantId ownerUserId amountQuota payoutAccountId : Int)
  | tenantReview (id : Int) (status : HubWithdrawalStatus) (adminUserId : Int) (adminRemark : String)
      (payment : Option HubWithdrawalPayment)
  | createRefund (params : BillingRefundParams)
  | processRefund (requestId : String)

namespace Op

/-- The operation may end in `db'`, whether it succeeds or fails. -/
def Leaves (env : Env) (db db' : DB) : Op → Prop
  | prepare params => (prepareHubProviderEarning env params).Leaves db db'
  | markReady requestId grossQuota => (markHubProviderEarningReady env requestId grossQuota).Leaves db db'
  | settle requestId grossQuota => (settleHubProviderEarning env requestId grossQuota).Leaves db db'
  | cancel requestId => (cancelHubProviderEarning env requestId).Leaves db db'
  | adjust providerId amountQuota operatorUserId remark uuid =>
    (createHubProviderManualAdjustment env providerId amountQuota operatorUserId remark uuid).Leaves db db'
  | providerTransfer providerId ownerUserId amountQuota idempotencyKey =>
    (createHubProviderBalanceTransfer env providerId ownerUserId amountQuota idempotencyKey).Leaves db db'
  | providerWithdraw providerId ownerUserId amountQuota payoutAccountId =>
    (createHubProviderWithdrawal env providerId ownerUserId amountQuota payoutAccountId).Leaves db db'
  | providerReview id status adminUserId adminRemark payment =>
    (updateHubProviderWithdrawalStatus env id status adminUserId adminRemark payment).Leaves db db'
  | tenantTransfer tenantId ownerUserId amountQuota idempotencyKey =>
    (createHubTenantBalanceTransfer env tenantId ownerUserId amountQuota idempotencyKey).Leaves db db'
  | tenantWithdraw tenantId ownerUserId amountQuota payoutAccountId =>
    (createHubTenantWithdrawal env tenantId ownerUserId amountQuota payoutAccountId).Leaves db db'
  | tenantReview id status adminUserId adminRemark payment =>
    (updateHubTenantWithdrawalStatus env id status adminUserId adminRemark payment).Leaves db db'
  | createRefund params => (createBillingRefund env params).Leaves db db'
  | processRefund requestId => (processBillingRefund env requestId).Leaves db db'

/-- The operation keeps to the rules of a family of runs. -/
def Admitted (rules : Ledger.Rules) (env : Env) (db : DB) : Op → Prop
  | adjust _ amountQuota _ _ _ => rules.adjustment amountQuota
  | tenantWithdraw _ _ _ payoutAccountId =>
    ∀ snapshot, StoresSnapshot env db payoutAccountId snapshot → rules.snapshot snapshot
  | _ => True

end Op

section Refinement
variable {rules : Ledger.Rules} {env : Env} {db db' : DB}

theorem prepareHubProviderEarning_step {params : HubProviderEarningParams}
    (run : (prepareHubProviderEarning env params).Leaves db db') : Ledger.Step rules db.ledger db'.ledger := by
  rcases prepareHubProviderEarning_leaves run with
    rfl | ⟨draft, row, t, drafted, stored, rfl⟩ | ⟨draft, existing, -, found, cancelled, -, rfl⟩
  · exact .idle
  · exact .opened stored drafted.status drafted.entryType
  · exact .reopened (Table.mem_of_first found) cancelled

variable {requestId : String}

theorem settleHubProviderEarning_step {grossQuota : Int}
    (run : (settleHubProviderEarning env requestId grossQuota).Leaves db db') :
    Ledger.Step rules db.ledger db'.ledger := by
  rcases (settleHubProviderEarning_atomic env requestId grossQuota).leaves run with rfl | ⟨_, run⟩
  · exact .idle
  obtain ⟨earning, split, -, positive, found, -, -, at_db, ⟨-, -, rfl⟩ | ⟨unsettled, rfl⟩⟩ :=
    settleHubProviderEarning_returns run
  · exact .idle
  · exact .settled (Table.mem_of_first found) unsettled (at_db.balanced positive)

theorem markHubProviderEarningReady_step {grossQuota : Int}
    (run : (markHubProviderEarningReady env requestId grossQuota).Leaves db db') :
    Ledger.Step rules db.ledger db'.ledger := by
  rcases (markHubProviderEarningReady_atomic env requestId grossQuota).leaves run with rfl | ⟨_, run⟩
  · exact .idle
  obtain ⟨earning, split, -, -, found, -, ⟨-, -, rfl⟩ | ⟨pending, rfl⟩⟩ := markHubProviderEarningReady_returns run
  · exact .idle
  · exact .released (Table.mem_of_first found) pending

theorem cancelHubProviderEarningTx_step {u : Unit}
    (run : (cancelHubProviderEarningTx env requestId).Returns db u db') : Ledger.Step rules db.ledger db'.ledger := by
  rcases cancelHubProviderEarningTx_returns run with ⟨-, rfl⟩ | ⟨earning, found, ⟨-, rfl⟩ | ⟨pending, rfl⟩⟩
  · exact .idle
  · exact .idle
  · exact .cancelled (Table.mem_of_first found) pending

theorem cancelHubProviderEarning_step (run : (cancelHubProviderEarning env requestId).Leaves db db') :
    Ledger.Step rules db.ledger db'.ledger := by
  unfold cancelHubProviderEarning at run
  split at run
  · rw [ReadOnly.leaves (.pure ()) run]
    exact .idle
  · rcases run.transaction with ⟨_, run⟩ | rfl
    · exact cancelHubProviderEarningTx_step run
    · exact .idle

/-- The stages after the cancellation do not concern the ledger. -/
theorem RefundStages.ledger {refund : BillingRefund} (stages : RefundStages env refund db db') :
    db'.ledger = stages.cancelled.ledger := by
  have paid : stages.returned.ledger = stages.cancelled.ledger :=
    stages.paid (fun _ _ => rfl) (fun _ _ => rfl) (fun _ _ => rfl) fun _ _ => rfl
  have cleared : stages.cleared.ledger = stages.returned.ledger :=
    (refundTask_keeps refund fun _ _ => rfl).returns stages.clear
  exact (congrArg DB.ledger stages.final).trans (cleared.trans paid)

theorem processBillingRefund_step (run : (processBillingRefund env requestId).Leaves db db') :
    Ledger.Step rules db.ledger db'.ledger := by
  rcases processBillingRefund_leaves run with ⟨r, returned⟩ | rfl | ⟨cause, rfl⟩
  · obtain ⟨refund, -, ⟨-, rfl⟩ | ⟨-, ⟨stages⟩⟩⟩ := processBillingRefundTx_returns returned
    · exact .idle
    · rw [stages.ledger]
      exact cancelHubProviderEarningTx_step stages.cancel
  · exact .idle
  · exact .idle

/-- Every operation is a movement of the ledger. -/
theorem Op.Leaves.step {op : Op} (left : op.Leaves env db db') (admitted : op.Admitted rules env db) :
    Ledger.Step rules db.ledger db'.ledger := by
  cases op with
  | prepare => exact prepareHubProviderEarning_step left
  | markReady => exact markHubProviderEarningReady_step left
  | settle => exact settleHubProviderEarning_step left
  | cancel => exact cancelHubProviderEarning_step left
  | adjust => exact createHubProviderManualAdjustment_step left admitted
  | providerTransfer => exact createHubProviderBalanceTransfer_step left
  | providerWithdraw => exact createHubProviderWithdrawal_step left
  | providerReview => exact updateHubProviderWithdrawalStatus_step left
  | tenantTransfer => exact createHubTenantBalanceTransfer_step left
  | tenantWithdraw => exact createHubTenantWithdrawal_step left admitted
  | tenantReview => exact updateHubTenantWithdrawalStatus_step left
  | createRefund =>
    rcases createBillingRefund_leaves left with rfl | ⟨row, t, -, -, rfl⟩
    · exact .idle
    · exact .idle
  | processRefund => exact processBillingRefund_step left

end Refinement

/-- One move of the system: an operation, or anything else the application
does, which leaves the ledger and the refunds alone. -/
inductive Move (allowed : DB → Env → Op → Prop) (db : DB) : DB → Prop
  | operation {db' : DB} (env : Env) (op : Op) (admitted : allowed db env op) (left : op.Leaves env db db') :
      Move allowed db db'
  | outside {db' : DB} (ledger : db'.ledger = db.ledger) (refunds : db'.billingRefunds = db.billingRefunds) :
      Move allowed db db'

/-- Any finite interleaving of operations and outside changes. -/
def Run (allowed : DB → Env → Op → Prop) : DB → DB → Prop := Relation.ReflTransGen (Move allowed)

def Ledger.empty : Ledger := ⟨.empty, .empty, .empty⟩

/-- The runs that keep to the rules. -/
abbrev RuledRun (rules : Ledger.Rules) : DB → DB → Prop := Run fun db env op => op.Admitted rules env db

namespace RuledRun
variable {rules : Ledger.Rules} {start db db' : DB}

theorem move_step (move : Move (fun db env op => op.Admitted rules env db) db db') :
    Ledger.Step rules db.ledger db'.ledger := by
  cases move with
  | operation env op admitted left => exact left.step admitted
  | outside ledger refunds =>
    rw [ledger]
    exact .idle

theorem wellFormed (run : RuledRun rules start db) (initial : start.ledger.WellFormed rules) :
    db.ledger.WellFormed rules := by
  induction run with
  | refl => exact initial
  | tail _ move valid => exact (move_step move).wellFormed valid

theorem empty_wellFormed (empty : start.ledger = .empty) : start.ledger.WellFormed rules := by
  rw [empty]
  exact ⟨by simp [Ledger.empty, Table.empty], by simp [Ledger.empty, Table.empty],
    by simp [Ledger.empty, Table.empty]⟩

theorem settled_mem (run : RuledRun rules start db) {e : HubProviderEarning} (member : e ∈ start.hubProviderEarnings.rows)
    (settled : e.status = .settled) : e ∈ db.hubProviderEarnings.rows := by
  induction run with
  | refl => exact member
  | tail _ move kept => exact (move_step move).settled_mem kept settled

/-- Along a run every provider's account moves as an account may move, when
only positive adjustments are made. -/
theorem providerAccount (run : RuledRun rules start db) (initial : start.ledger.WellFormed rules)
    (positive : ∀ n, rules.adjustment n → 0 < n) (providerId : Int) :
    Relation.ReflTransGen Account.Step (start.ledger.providerAccount providerId)
      (db.ledger.providerAccount providerId) := by
  induction run with
  | refl => exact .refl
  | tail rest move steps => exact steps.tail ((move_step move).providerAccount (wellFormed rest initial) positive providerId)

theorem tenantAccount (run : RuledRun rules start db) (initial : start.ledger.WellFormed rules) (tenantId : Int) :
    Relation.ReflTransGen Account.Step (start.ledger.tenantAccount tenantId) (db.ledger.tenantAccount tenantId) := by
  induction run with
  | refl => exact .refl
  | tail rest move steps => exact steps.tail ((move_step move).tenantAccount (wellFormed rest initial) tenantId)

theorem providerSolvent (run : RuledRun rules start db) (empty : start.ledger = .empty)
    (positive : ∀ n, rules.adjustment n → 0 < n) (providerId : Int) : (db.ledger.providerAccount providerId).Solvent := by
  refine Account.solvent_of_steps (run.providerAccount (empty_wellFormed empty) positive providerId) ?_
  rw [empty]
  exact ⟨le_rfl, Nat.zero_le 1⟩

theorem tenantSolvent (run : RuledRun rules start db) (empty : start.ledger = .empty) (tenantId : Int) :
    (db.ledger.tenantAccount tenantId).Solvent := by
  refine Account.solvent_of_steps (run.tenantAccount (empty_wellFormed empty) tenantId) ?_
  rw [empty]
  exact ⟨le_rfl, Nat.zero_le 1⟩

end RuledRun
end LLMHub
