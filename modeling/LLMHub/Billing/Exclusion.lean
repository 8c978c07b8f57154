import LLMHub.Settlement.Replay

namespace LLMHub

open Store Action Go

def RefundComplete (db : DB) (requestId : String) : Prop :=
  ∃ refund ∈ db.billingRefunds.rows, refund.requestId = requestId ∧ refund.status = .complete

def EarningSettled (db : DB) (requestId : String) : Prop :=
  ∃ earning ∈ db.hubProviderEarnings.rows, earning.requestId = requestId ∧ earning.status = .settled

/-- Behind a completed refund no earning of the request is left but a
cancelled one. -/
def Excluded (db : DB) (requestId : String) : Prop :=
  RefundComplete db requestId →
    ∀ earning ∈ db.hubProviderEarnings.rows, earning.requestId = requestId → earning.status = .cancelled

/-- The operations on requests, without preparations of a request whose refund
was completed. -/
def requestOperation (db : DB) (_ : Env) : Op → Prop
  | .prepare params => ¬RefundComplete db (trimSpace params.requestId)
  | .markReady _ _ | .settle _ _ | .cancel _ | .createRefund _ | .processRefund _ => True
  | _ => False

section Step
variable {env : Env} {db db' : DB} {requestId : String}

/-- Rewriting an earning keeps the exclusion when the row was live, so that no
refund of its request is complete, or ends up cancelled. -/
theorem Excluded.update (excluded : Excluded db requestId) {p : HubProviderEarning → Bool} {e : HubProviderEarning}
    {f : Table.Assignment HubProviderEarning} (selected : db.hubProviderEarnings.Selects p e)
    (name : (f.set e).requestId = e.requestId)
    (harmless : RefundComplete db e.requestId → e.status ≠ .cancelled ∨ (f.set e).status = .cancelled) :
    Excluded (db.updateEarnings p f) requestId := by
  intro complete earning member named
  rcases (selected.mem_update f).mp member with rfl | ⟨old, -⟩
  · rw [name] at named
    subst named
    rcases harmless complete with live | cancelled
    · exact absurd (excluded complete e selected.1 rfl) live
    · exact cancelled
  · exact excluded complete earning old named

theorem Excluded.prepare (excluded : Excluded db requestId) {params : HubProviderEarningParams}
    (left : (prepareHubProviderEarning env params).Leaves db db')
    (open_ : ¬RefundComplete db (trimSpace params.requestId)) : Excluded db' requestId := by
  rcases prepareHubProviderEarning_leaves left with
    rfl | ⟨draft, row, t, drafted, stored, rfl⟩ | ⟨draft, existing, -, found, cancelled, -, rfl⟩
  · exact excluded
  · intro complete earning member named
    rcases (Table.mem_insert stored).mp member with old | rfl
    · exact excluded complete earning old named
    · obtain ⟨-, rfl, -⟩ := Table.insert_cases stored
      have same : requestId = trimSpace params.requestId := named.symm.trans drafted.requestId
      exact absurd (same ▸ complete) open_
  · have named := requestId_of_first found
    refine excluded.update (selects_earningIs (Table.mem_of_first found) cancelled) rfl ?_
    intro complete
    exact absurd (named ▸ complete) open_

theorem Excluded.settle (excluded : Excluded db requestId) {r : String} {grossQuota : Int}
    (left : (settleHubProviderEarning env r grossQuota).Leaves db db') : Excluded db' requestId := by
  rcases (settleHubProviderEarning_atomic env r grossQuota).leaves left with rfl | ⟨_, run⟩
  · exact excluded
  obtain ⟨earning, split, -, -, found, live, -, -, ⟨-, -, rfl⟩ | ⟨-, rfl⟩⟩ := settleHubProviderEarning_returns run
  · exact excluded
  · exact excluded.update (selects_id (Table.mem_of_first found)) rfl fun _ => Or.inl live

theorem Excluded.markReady (excluded : Excluded db requestId) {r : String} {grossQuota : Int}
    (left : (markHubProviderEarningReady env r grossQuota).Leaves db db') : Excluded db' requestId := by
  rcases (markHubProviderEarningReady_atomic env r grossQuota).leaves left with rfl | ⟨_, run⟩
  · exact excluded
  obtain ⟨earning, split, -, -, found, -, ⟨-, -, rfl⟩ | ⟨pending, rfl⟩⟩ := markHubProviderEarningReady_returns run
  · exact excluded
  · exact excluded.update (selects_earningIs (Table.mem_of_first found) pending) rfl fun _ => Or.inl (by simp [pending])

theorem Excluded.cancelTx (excluded : Excluded db requestId) {r : String} {u : Unit}
    (run : (cancelHubProviderEarningTx env r).Returns db u db') : Excluded db' requestId := by
  rcases cancelHubProviderEarningTx_returns run with ⟨-, rfl⟩ | ⟨earning, found, ⟨-, rfl⟩ | ⟨pending, rfl⟩⟩
  · exact excluded
  · exact excluded
  · exact excluded.update (selects_earningIs (Table.mem_of_first found) pending) rfl fun _ => Or.inr rfl

theorem Excluded.cancel (excluded : Excluded db requestId) {r : String}
    (left : (cancelHubProviderEarning env r).Leaves db db') : Excluded db' requestId := by
  unfold cancelHubProviderEarning at left
  split at left
  · rw [ReadOnly.leaves (.pure ()) left]
    exact excluded
  · rcases left.transaction with ⟨_, run⟩ | rfl
    · exact excluded.cancelTx run
    · exact excluded

/-- After a cancellation no earning of the request is left but a cancelled one. -/
theorem cancelHubProviderEarningTx_cancels {r : String} {u : Unit}
    (run : (cancelHubProviderEarningTx env r).Returns db u db') :
    ∀ earning ∈ db'.hubProviderEarnings.rows, earning.requestId = r → earning.status = .cancelled := by
  rcases cancelHubProviderEarningTx_returns run with ⟨missing, rfl⟩ | ⟨current, found, outcome⟩
  · intro earning member named
    have miss := Table.first_eq_none.mp missing earning member
    simp [requestIdIs, named] at miss
  · have name := requestId_of_first found
    have only := (selects_requestId (Table.mem_of_first found)).2
    rw [name] at only
    rcases outcome with ⟨cancelled, rfl⟩ | ⟨pending, rfl⟩
    · intro earning member named
      rw [(only earning member).mp (beq_iff_eq.mpr named)]
      exact cancelled
    · intro earning member named
      rcases ((selects_earningIs (Table.mem_of_first found) pending).mem_update _).mp member with rfl | ⟨old, other⟩
      · rfl
      · exact absurd ((only earning old).mp (beq_iff_eq.mpr named)) other

/-- Nothing but the completion of a refund makes it complete. -/
theorem refundComplete_update {t : Table BillingRefund} {p : BillingRefund → Bool}
    {f : Table.Assignment BillingRefund} (kept : ∀ r, (f.set r).status = .complete → r.status = .complete)
    (name : ∀ r, (f.set r).requestId = r.requestId)
    (complete : RefundComplete { db with billingRefunds := t.update p f } requestId) :
    RefundComplete { db with billingRefunds := t } requestId := by
  obtain ⟨refund, member, named, status⟩ := complete
  obtain ⟨old, inside, ⟨-, rfl⟩ | ⟨-, rfl⟩⟩ := Table.mem_update_cases member
  · exact ⟨old, inside, (name old).symm.trans named, kept old status⟩
  · exact ⟨refund, inside, named, status⟩

theorem Excluded.createRefund (excluded : Excluded db requestId) {params : BillingRefundParams}
    (left : (createBillingRefund env params).Leaves db db') : Excluded db' requestId := by
  rcases createBillingRefund_leaves left with rfl | ⟨row, t, -, stored, rfl⟩
  · exact excluded
  · rintro ⟨refund, member, named, complete⟩
    rcases (Table.mem_insert stored).mp member with old | rfl
    · exact excluded ⟨refund, old, named, complete⟩
    · obtain ⟨-, rfl, -⟩ := Table.insert_cases stored
      cases complete

theorem Excluded.processRefund (excluded : Excluded db requestId) {r : String}
    (left : (processBillingRefund env r).Leaves db db') : Excluded db' requestId := by
  rcases processBillingRefund_leaves left with ⟨_, run⟩ | rfl | ⟨cause, rfl⟩
  · obtain ⟨refund, found, ⟨-, rfl⟩ | ⟨pending, ⟨stages⟩⟩⟩ := processBillingRefundTx_returns run
    · exact excluded
    · have member := Table.mem_of_first found
      have earnings : db'.hubProviderEarnings = stages.cancelled.hubProviderEarnings :=
        congrArg Ledger.earnings stages.ledger
      have refunds : db'.billingRefunds = db.billingRefunds.update
          (fun x => x.id == refund.id && x.status == .pending) (BillingRefund.complete env.now refund.attemptCount) := by
        rw [← stages.refunds]
        exact congrArg DB.billingRefunds stages.final
      intro complete
      rw [earnings]
      by_cases same : requestId = refund.requestId
      · rw [same]
        exact cancelHubProviderEarningTx_cancels stages.cancel
      · obtain ⟨x, inside, named, status⟩ := complete
        rw [refunds] at inside
        rcases ((selects_pendingRefund member pending).mem_update _).mp inside with rfl | ⟨old, -⟩
        · exact absurd named.symm same
        · have kept : stages.cancelled.billingRefunds = db.billingRefunds :=
            (cancelHubProviderEarningTx_keeps env refund.requestId fun _ _ => rfl).returns stages.cancel
          exact excluded.cancelTx stages.cancel ⟨x, kept ▸ old, named, status⟩
  · exact excluded
  · intro complete
    exact excluded (refundComplete_update (fun _ status => status) (fun _ => rfl) complete)

/-- A paid-out earning fails the refund of its request, which then changes
nothing but the notes of its own record. -/
theorem processBillingRefund_settled (settled : EarningSettled db (trimSpace requestId))
    (open_ : ¬RefundComplete db (trimSpace requestId)) :
    (∀ r, ¬(processBillingRefundTx env (trimSpace requestId)).Returns db r db') := by
  intro r run
  obtain ⟨refund, found, outcome⟩ := processBillingRefundTx_returns run
  have name := refundId_of_first found
  rcases outcome with ⟨complete, -⟩ | ⟨-, ⟨stages⟩⟩
  · exact open_ ⟨refund, Table.mem_of_first found, name, complete⟩
  · obtain ⟨earning, member, named, status⟩ := settled
    have here := (selects_requestId member).first
    rw [named, ← name] at here
    rcases cancelHubProviderEarningTx_returns stages.cancel with ⟨missing, -⟩ | ⟨other, same, outcome⟩
    · rw [here] at missing
      cases missing
    · rw [here] at same
      cases same
      rcases outcome with ⟨cancelled, -⟩ | ⟨pending, -⟩
      · rw [status] at cancelled
        cases cancelled
      · rw [status] at pending
        cases pending

end Step

theorem Excluded.move {db db' : DB} {requestId : String} (excluded : Excluded db requestId)
    (move : Move requestOperation db db') : Excluded db' requestId := by
  cases move with
  | operation env op admitted left =>
    cases op with
    | prepare => exact excluded.prepare left admitted
    | markReady => exact excluded.markReady left
    | settle => exact excluded.settle left
    | cancel => exact excluded.cancel left
    | createRefund => exact excluded.createRefund left
    | processRefund => exact excluded.processRefund left
    | adjust | providerTransfer | providerWithdraw | providerReview | tenantTransfer | tenantWithdraw
    | tenantReview => exact admitted.elim
  | outside ledger refunds =>
    rintro ⟨refund, member, named, complete⟩
    have earnings : db'.hubProviderEarnings = db.hubProviderEarnings := congrArg Ledger.earnings ledger
    rw [earnings]
    exact excluded ⟨refund, refunds ▸ member, named, complete⟩

theorem Excluded.run {start db : DB} {requestId : String} (initial : Excluded start requestId)
    (run : Run requestOperation start db) : Excluded db requestId := by
  induction run with
  | refl => exact initial
  | tail _ move excluded => exact excluded.move move

/-- A request is never both refunded and paid out: in no interleaving does a
completed refund meet a settled earning, and a settled earning makes every
attempt at the refund fail without effect on the consumer's balances. -/
theorem refund_excludes_payout {start db : DB} {requestId : String} (initial : ¬RefundComplete start requestId)
    (run : Run requestOperation start db) :
    ¬(RefundComplete db requestId ∧ EarningSettled db requestId) ∧
      (EarningSettled db requestId → ∀ env r db', trimSpace r = requestId →
        (∀ refund, ¬(processBillingRefund env r).Returns db refund db') ∧
        ((processBillingRefund env r).Leaves db db' →
          db'.users = db.users ∧ db'.tokens = db.tokens ∧ db'.userSubscriptions = db.userSubscriptions ∧
          db'.tasks = db.tasks ∧
          db'.billingRefunds.rows.map (fun x => (x.requestId, x.status)) =
            db.billingRefunds.rows.map fun x => (x.requestId, x.status))) := by
  have excluded := Excluded.run (fun complete => absurd complete initial) run
  have apart : ¬(RefundComplete db requestId ∧ EarningSettled db requestId) := by
    rintro ⟨complete, earning, member, named, settled⟩
    have cancelled := excluded complete earning member named
    rw [settled] at cancelled
    cases cancelled
  refine ⟨apart, ?_⟩
  rintro settled env r db' rfl
  have open_ : ¬RefundComplete db (trimSpace r) := fun complete => apart ⟨complete, settled⟩
  refine ⟨fun refund returned => processBillingRefund_settled settled open_ _ (processBillingRefund_returns returned), ?_⟩
  intro left
  rcases processBillingRefund_leaves left with ⟨refund, returned⟩ | rfl | ⟨cause, rfl⟩
  · exact absurd returned (processBillingRefund_settled settled open_ refund)
  · exact ⟨rfl, rfl, rfl, rfl, rfl⟩
  · refine ⟨rfl, rfl, rfl, rfl, ?_⟩
    simp only [Table.update, List.map_map]
    refine List.map_congr_left fun x _ => ?_
    simp only [Function.comp_apply, Table.rewrite]
    split <;> rfl

/-- The refund of the whole charge of `referredRequest`. -/
def wholeRefund : BillingRefundParams :=
  { requestId := "r", userId := 7, fundingSource := "wallet", fundingQuota := 1000 }

def refundRecorded : DB := (createBillingRefund plainEnv wholeRefund ⟨referredPrepared, []⟩).2.db

/-- The earning is settled after the refund was recorded and before it is
processed. -/
def payoutFirst : DB := (settleHubProviderEarning plainEnv "r" 1000 ⟨refundRecorded, []⟩).2.db

theorem payoutFirst_run : Run requestOperation {} payoutFirst := by
  have registered : Run requestOperation {} (twoProviders .active) := .single (.outside rfl rfl)
  have none : ¬RefundComplete (twoProviders .active) (trimSpace referredRequest.requestId) := by
    rintro ⟨refund, member, -⟩
    cases member
  have prepared := registered.tail
    (.operation plainEnv (.prepare referredRequest) none (leaves_run _ ⟨twoProviders .active, []⟩))
  have recorded := prepared.tail 
    (.operation plainEnv (.createRefund wholeRefund) trivial (leaves_run _ ⟨referredPrepared, []⟩))
  exact recorded.tail (.operation plainEnv (.settle "r" 1000) trivial (leaves_run _ ⟨refundRecorded, []⟩))

theorem payoutFirst_refund_fails :
    payoutFirst.billingRefunds.count (fun r => r.requestId == "r" && r.status == .pending) = 1 ∧
      EarningSettled payoutFirst "r" ∧
      ∀ refund db', ¬(processBillingRefund plainEnv "r").Returns payoutFirst refund db' := by
  have settled : EarningSettled payoutFirst "r" := by
    have row : payoutFirst.hubProviderEarnings.rows.any
        (fun e => e.requestId == "r" && e.status == .settled) = true := by decide +kernel
    obtain ⟨earning, member, found⟩ := List.any_eq_true.mp row
    simp only [Bool.and_eq_true, beq_iff_eq] at found
    exact ⟨earning, member, found⟩
  have none : ¬RefundComplete {} "r" := by
    rintro ⟨refund, member, -⟩
    cases member
  have excluded := refund_excludes_payout none payoutFirst_run
  exact ⟨by decide +kernel, settled, fun refund db' => (excluded.2 settled plainEnv "r" db' rfl).1 refund⟩

end LLMHub
