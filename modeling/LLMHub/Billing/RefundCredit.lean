import LLMHub.Billing.Consumer
import LLMHub.Billing.Exclusion

namespace LLMHub

open Store Action Go

def BillingRefund.params (refund : BillingRefund) : BillingRefundParams where
  requestId := refund.requestId
  userId := refund.userId
  tokenId := refund.tokenId
  taskId := refund.taskId
  fundingSource := refund.fundingSource.text
  fundingQuota := refund.fundingQuota
  subscriptionId := refund.subscriptionId
  subscriptionExtraQuota := refund.subscriptionExtraQuota
  tokenQuota := refund.tokenQuota

theorem billingRefundMatches_iff (refund : BillingRefund) (params : BillingRefundParams) :
    billingRefundMatches refund params = true ↔ params = refund.params := by
  obtain ⟨requestId, userId, tokenId, taskId, fundingSource, fundingQuota, subscriptionId, extra, tokenQuota⟩ := params
  simp only [billingRefundMatches, Bool.and_eq_true, decide_eq_true_eq, BillingRefund.params,
    BillingRefundParams.mk.injEq, and_assoc]
  constructor
  · rintro ⟨rfl, rfl, rfl, rfl, rfl, rfl, rfl, rfl, rfl⟩
    exact ⟨rfl, rfl, rfl, rfl, rfl, rfl, rfl, rfl, rfl⟩
  · rintro ⟨rfl, rfl, rfl, rfl, rfl, rfl, rfl, rfl, rfl⟩
    exact ⟨rfl, rfl, rfl, rfl, rfl, rfl, rfl, rfl, rfl⟩

theorem FundingSource.text_ofText (s : String) : (FundingSource.ofText s).text = s := by
  unfold FundingSource.ofText
  split_ifs with wallet subscription
  · exact wallet.symm
  · exact subscription.symm
  · rfl

theorem BillingRefundParams.record_params (params : BillingRefundParams) (now : Int) :
    (params.record now).params = params := by
  simp [BillingRefundParams.record, BillingRefund.params, FundingSource.text_ofText]

/-- Accepted parameters ask for no negative amounts. -/
theorem validateBillingRefundParams_ok {params : BillingRefundParams}
    (valid : validateBillingRefundParams params = .ok ()) :
    0 ≤ params.fundingQuota ∧ 0 ≤ params.subscriptionExtraQuota ∧ 0 ≤ params.tokenQuota := by
  unfold validateBillingRefundParams at valid
  by_cases reference : params.requestId = "" ∨ params.userId ≤ 0
  · rw [if_pos reference] at valid
    cases valid
  · rw [if_neg reference] at valid
    by_contra negative
    rw [if_pos (by omega)] at valid
    cases valid

/-- The tables a refund is paid from and into. -/
def DB.consumer (db : DB) : Table User × Table Token × Table UserSubscription × Table SubscriptionPreConsumeRecord :=
  (db.users, db.tokens, db.userSubscriptions, db.subscriptionPreConsumeRecords)

/-- The whole credit of a refund was applied, once. -/
structure Credited (refund : BillingRefund) (start db : DB) : Prop where
  funding : FundingReturned refund start db
  token : TokenReturned refund start db

section Stages
variable {env : Env} {refund : BillingRefund} {db db' : DB}

theorem RefundStages.credited (stages : RefundStages env refund db db')
    (valid : validateBillingRefundParams refund.params = .ok ()) : Credited refund db db' := by
  obtain ⟨funding, extra, token⟩ := validateBillingRefundParams_ok valid
  have before : stages.cancelled.consumer = db.consumer :=
    (cancelHubProviderEarningTx_keeps env refund.requestId fun _ _ => rfl).returns stages.cancel
  simp only [DB.consumer, Prod.mk.injEq] at before
  obtain ⟨users, tokens, subscriptions, records⟩ := before
  have funded := refundFunding_returns stages.fund funding extra
  have untouched : stages.funded.tokens = stages.cancelled.tokens :=
    (refundFunding_keeps refund (fun _ _ => rfl) (fun _ _ => rfl) fun _ _ => rfl).returns stages.fund
  have returned := refundToken_returns stages.giveBack token
  have kept : (stages.returned.users, stages.returned.userSubscriptions) =
      (stages.funded.users, stages.funded.userSubscriptions) :=
    (refundToken_keeps (g := fun db : DB => (db.users, db.userSubscriptions)) refund fun _ _ => rfl).returns stages.giveBack
  have cleared : stages.cleared.consumer = stages.returned.consumer :=
    (refundTask_keeps refund fun _ _ => rfl).returns stages.clear
  have final : db'.consumer = stages.returned.consumer := (congrArg DB.consumer stages.final).trans cleared
  simp only [DB.consumer, Prod.mk.injEq] at final kept
  refine ⟨⟨fun userId => ?_, fun subscriptionId => ?_⟩, fun tokenId => ?_⟩
  · rw [final.1, kept.1, ← users]
    exact funded.wallet userId
  · rw [final.2.2.1, kept.2, ← subscriptions, ← records]
    exact funded.subscription subscriptionId
  · rw [final.2.1, ← tokens, ← untouched]
    exact returned tokenId

/-- The credit depends on the start only through the consumer's tables. -/
theorem Credited.of_same {refund : BillingRefund} {start db db' : DB} (credited : Credited refund db db')
    (same : db.consumer = start.consumer) : Credited refund start db' := by
  simp only [DB.consumer, Prod.mk.injEq] at same
  obtain ⟨users, tokens, subscriptions, records⟩ := same
  refine ⟨⟨?_, ?_⟩, ?_⟩
  · rw [← users]
    exact credited.funding.wallet
  · rw [← subscriptions, ← records]
    exact credited.funding.subscription
  · unfold TokenReturned
    rw [← tokens]
    exact credited.token

end Stages

/-- One attempt at a refund: to record it, or to process it. Either may fail at
any of its statements. -/
inductive RefundAttempt (params : BillingRefundParams) (db db' : DB) : Prop
  | create (env : Env) (left : (createBillingRefund env params).Leaves db db')
  | process (env : Env) (left : (processBillingRefund env params.requestId).Leaves db db')

/-- Where a refund stands: not yet paid, or paid in full. -/
inductive RefundProgress (requestId : String) (start db : DB) : Prop
  | open_ (records : ∀ refund ∈ db.billingRefunds.rows, refund.requestId = requestId →
      refund.status = .pending ∧ validateBillingRefundParams refund.params = .ok ())
      (same : db.consumer = start.consumer)
  | done (refund : BillingRefund) (member : refund ∈ db.billingRefunds.rows) (named : refund.requestId = requestId)
      (complete : refund.status = .complete) (credited : Credited refund start db)

section Progress
variable {env : Env} {params : BillingRefundParams} {start db db' : DB}

theorem RefundProgress.create (progress : RefundProgress (trimSpace params.requestId) start db)
    (left : (createBillingRefund env params).Leaves db db') :
    RefundProgress (trimSpace params.requestId) start db' := by
  rcases createBillingRefund_leaves left with rfl | ⟨row, t, valid, stored, rfl⟩
  · exact progress
  cases progress with
  | open_ records same =>
    refine .open_ (fun refund member named => ?_) same
    rcases (Table.mem_insert stored).mp member with old | rfl
    · exact records refund old named
    · obtain ⟨-, rfl, -⟩ := Table.insert_cases stored
      have recorded := params.normalize.record_params env.now
      exact ⟨rfl, (congrArg validateBillingRefundParams recorded).trans valid⟩
  | done refund member named complete credited =>
    have taken : Record.unique refund = some (.text (trimSpace params.requestId)) :=
      congrArg (fun text => some (Key.text text)) named
    exact absurd rfl (Table.insert_unique stored member taken)

/-- Processing pays an open refund in full, or notes the failure. -/
theorem RefundProgress.process (progress : RefundProgress (trimSpace params.requestId) start db)
    (left : (processBillingRefund env params.requestId).Leaves db db') :
    RefundProgress (trimSpace params.requestId) start db' := by
  rcases processBillingRefund_leaves left with ⟨_, run⟩ | rfl | ⟨cause, rfl⟩
  · obtain ⟨refund, found, outcome⟩ := processBillingRefundTx_returns run
    have name := refundId_of_first found
    have here := Table.mem_of_first found
    rcases outcome with ⟨-, rfl⟩ | ⟨pending, ⟨stages⟩⟩
    · exact progress
    · cases progress with
      | open_ records same =>
        have credited := (stages.credited (records refund here name).2).of_same same
        have refunds : db'.billingRefunds = stages.cleared.billingRefunds.update _ _ :=
          congrArg DB.billingRefunds stages.final
        rw [stages.refunds] at refunds
        refine .done ((BillingRefund.complete env.now refund.attemptCount).set refund) ?_ name rfl
          ⟨⟨credited.funding.wallet, credited.funding.subscription⟩, credited.token⟩
        rw [refunds]
        exact ((selects_pendingRefund here pending).mem_update _).mpr (Or.inl rfl)
      | done other member named complete credited =>
        have same : other = refund := ((selects_refund here).2 other member).mp (beq_iff_eq.mpr (named.trans name.symm))
        rw [same, pending] at complete
        cases complete
  · exact progress
  · cases progress with
    | open_ records same =>
      refine .open_ (fun refund member named => ?_) same
      obtain ⟨old, inside, ⟨-, rfl⟩ | ⟨-, rfl⟩⟩ := Table.mem_update_cases member
      · exact records old inside named
      · exact records refund inside named
    | done refund member named complete credited =>
      refine .done refund (Table.mem_update.mpr ⟨refund, member, Table.rewrite_neg ?_⟩) named complete
        ⟨⟨credited.funding.wallet, credited.funding.subscription⟩, credited.token⟩
      simp [complete]

theorem RefundProgress.run (progress : RefundProgress (trimSpace params.requestId) start start)
    (run : Relation.ReflTransGen (RefundAttempt params) start db) :
    RefundProgress (trimSpace params.requestId) start db := by
  induction run with
  | refl => exact progress
  | tail _ attempt progress =>
    cases attempt with
    | create env left => exact progress.create left
    | process env left => exact progress.process left

end Progress

/-- A record with other parameters is in the way: nothing is written, and
valid parameters are answered with the reference conflict. -/
theorem createBillingRefund_conflict (env : Env) {db : DB} {other : BillingRefundParams} {existing : BillingRefund}
    (found : db.billingRefunds.first (refundIs (trimSpace other.requestId)) = some existing)
    (differs : other.normalize ≠ existing.params) :
    createBillingRefund env other ⟨db, []⟩ =
      ((validateBillingRefundParams other.normalize).bind fun _ => .error .billingRefundReferenceConflict, ⟨db, []⟩) := by
  unfold createBillingRefund
  cases valid : validateBillingRefundParams other.normalize with
  | error e => rfl
  | ok u =>
    have key : Record.unique existing = some (.text (trimSpace other.requestId)) :=
      congrArg (fun text => some (Key.text text)) (refundId_of_first found)
    have taken : db.billingRefunds.insert (other.normalize.record env.now) = none :=
      Table.insert_eq_none (Table.mem_of_first found) key rfl
    have mismatch : billingRefundMatches existing other.normalize = false := by
      rw [← Bool.not_eq_true, billingRefundMatches_iff]
      exact differs
    have passed : (ofExcept (.ok u) : Command Unit) ⟨db, []⟩ = (.ok u, ⟨db, []⟩) := rfl
    have read : (findOr (refundIs other.normalize.requestId) .recordNotFound : Command BillingRefund) ⟨db, []⟩ =
        (.ok existing, ⟨db, []⟩) := findOr_run found _
    unfold createBillingRefundTx
    rw [bind_ok passed, bind_ok (insertRow_taken taken)]
    refine (bind_ok read).trans ?_
    rw [bind_error (failIf_pos mismatch _ _)]
    rfl

/-- Refunds are paid once and in full. As long as the record is not complete
the consumer's balances are what they were; once it is, they differ by exactly
the credit of the record, however often it was recorded and processed. A record
with other parameters is refused and changes nothing. -/
theorem refund_credited_exactly_once {params : BillingRefundParams} {start db : DB}
    (initial : ∀ refund ∈ start.billingRefunds.rows, refund.requestId = trimSpace params.requestId →
      refund.status = .pending ∧ validateBillingRefundParams refund.params = .ok ())
    (run : Relation.ReflTransGen (RefundAttempt params) start db) :
    (db.billingRefunds.first (refundIs (trimSpace params.requestId)) = none → db.consumer = start.consumer) ∧
      (∀ refund, db.billingRefunds.first (refundIs (trimSpace params.requestId)) = some refund →
        (refund.status = .pending ∧ db.consumer = start.consumer) ∨
          (refund.status = .complete ∧ Credited refund start db)) ∧
      ∀ env other existing, db.billingRefunds.first (refundIs (trimSpace other.requestId)) = some existing →
        other.normalize ≠ existing.params →
        (createBillingRefund env other ⟨db, []⟩ = ((validateBillingRefundParams other.normalize).bind
            fun _ => .error .billingRefundReferenceConflict, ⟨db, []⟩)) ∧
          ∀ db', (createBillingRefund env other).Leaves db db' → db' = db := by
  have progress := RefundProgress.run (.open_ initial rfl) run
  refine ⟨?_, ?_, ?_⟩
  · intro none
    cases progress with
    | open_ records same => exact same
    | done refund member named complete credited =>
      have miss := Table.first_eq_none.mp none refund member
      simp [refundIs, named] at miss
  · intro refund found
    have here := Table.mem_of_first found
    have name := refundId_of_first found
    cases progress with
    | open_ records same => exact Or.inl ⟨(records refund here name).1, same⟩
    | done other member named complete credited =>
      obtain rfl : other = refund := ((selects_refund here).2 other member).mp (beq_iff_eq.mpr (named.trans name.symm))
      exact Or.inr ⟨complete, credited⟩
  · intro env other existing found differs
    refine ⟨createBillingRefund_conflict env found differs, fun db' left => ?_⟩
    rcases createBillingRefund_leaves left with same | ⟨row, t, -, stored, -⟩
    · exact same
    · have key : Record.unique existing = some (.text (trimSpace other.requestId)) :=
        congrArg (fun text => some (Key.text text)) (refundId_of_first found)
      exact absurd rfl (Table.insert_unique stored (Table.mem_of_first found) key)

/-- A subscriber whose request "r" took 5 of the subscription in advance. -/
def subscriber : DB where
  users := .single { id := 7 }
  userSubscriptions := .single { id := 3, userId := 7, planId := 1, amountTotal := 100, amountUsed := 50 }
  subscriptionPreConsumeRecords :=
    .single { id := 1, requestId := "r", userId := 7, userSubscriptionId := 3, preConsumed := 5, status := .consumed }

def subscriberRefund (fundingQuota : Int) : BillingRefundParams :=
  { requestId := "r", userId := 7, fundingSource := "subscription", fundingQuota, subscriptionId := 3,
    subscriptionExtraQuota := 4 }

def subscriberRecorded (fundingQuota : Int) : DB :=
  (createBillingRefund plainEnv (subscriberRefund fundingQuota) ⟨subscriber, []⟩).2.db

def subscriberRefunded (fundingQuota : Int) : DB :=
  (processBillingRefund plainEnv (subscriberRefund fundingQuota).requestId ⟨subscriberRecorded fundingQuota, []⟩).2.db

theorem subscriberRefunded_run (fundingQuota : Int) : Relation.ReflTransGen
    (RefundAttempt (subscriberRefund fundingQuota)) subscriber (subscriberRefunded fundingQuota) := by
  have recorded : RefundAttempt (subscriberRefund fundingQuota) subscriber (subscriberRecorded fundingQuota) :=
    .create plainEnv (leaves_run _ ⟨subscriber, []⟩)
  exact .tail (.single recorded) (.process plainEnv (leaves_run _ ⟨subscriberRecorded fundingQuota, []⟩))

theorem subscriberRefunded_credited_once :
    ∃ refund, (subscriberRefunded 5).billingRefunds.first (refundIs "r") = some refund ∧ refund.status = .complete ∧
      usedIn (subscriberRefunded 5).userSubscriptions 3 = some 41 ∧ Credited refund subscriber (subscriberRefunded 5) := by
  have complete : ((subscriberRefunded 5).billingRefunds.first (refundIs "r")).map BillingRefund.status =
      some .complete := by decide +kernel
  obtain ⟨refund, found, status⟩ := Option.map_eq_some_iff.mp complete
  have none : ∀ refund ∈ subscriber.billingRefunds.rows, refund.requestId = trimSpace (subscriberRefund 5).requestId →
      refund.status = .pending ∧ validateBillingRefundParams refund.params = .ok () := by
    intro refund member
    cases member
  rcases (refund_credited_exactly_once none (subscriberRefunded_run 5)).2.1 refund found with ⟨pending, -⟩ | ⟨-, credited⟩
  · rw [status] at pending
    cases pending
  · exact ⟨refund, found, status, by decide +kernel, credited⟩

/-- Without a funding quota the amount taken in advance stays taken although the
refund is complete, and other parameters that are not valid are answered with
what is wrong with them. -/
theorem subscriberRefunded_keeps_preConsumed :
    Relation.ReflTransGen (RefundAttempt (subscriberRefund 0)) subscriber (subscriberRefunded 0) ∧
      ((subscriberRefunded 0).billingRefunds.first (refundIs "r")).map BillingRefund.status = some .complete ∧
      usedIn subscriber.userSubscriptions 3 = some 50 ∧ usedIn (subscriberRefunded 0).userSubscriptions 3 = some 46 ∧
      outstandingIn (subscriberRefunded 0).subscriptionPreConsumeRecords "r" 3 = 5 ∧
      (createBillingRefund plainEnv { subscriberRefund 0 with userId := 0 } ⟨subscriberRefunded 0, []⟩).1 =
        .error (.text "invalid billing refund reference") :=
  ⟨subscriberRefunded_run 0, by decide +kernel, by decide +kernel, by decide +kernel, by decide +kernel, by decide +kernel⟩

end LLMHub
