import LLMHub.Billing.TaskSettlementSteps
import LLMHub.Billing.RefundCredit
import LLMHub.Store.Rowwise

namespace LLMHub

open Store Action Go

/-- A wallet that is not overdrawn stays so. -/
structure User.Moved (u u' : User) : Prop where
  id : u'.id = u.id
  floor : 0 ≤ u.quota → 0 ≤ u'.quota

/-- What billing may do to a token: shift quota between what a finite token has
used and what remains of it, never below zero. -/
structure Token.Moved (t t' : Token) : Prop where
  id : t'.id = t.id
  limit : t'.unlimitedQuota = t.unlimitedQuota
  sum : t.unlimitedQuota = false → t'.remainQuota + t'.usedQuota = t.remainQuota + t.usedQuota
  fixed : t.unlimitedQuota = true → t'.remainQuota = t.remainQuota
  floor : t.unlimitedQuota = false → 0 ≤ t.remainQuota → 0 ≤ t'.remainQuota

theorem User.Moved.refl (u : User) : u.Moved u := ⟨rfl, fun covered => covered⟩

theorem User.Moved.trans (u v w : User) (first : u.Moved v) (second : v.Moved w) : u.Moved w :=
  ⟨second.id.trans first.id, fun covered => second.floor (first.floor covered)⟩

theorem Token.Moved.refl (t : Token) : t.Moved t := ⟨rfl, rfl, fun _ => rfl, fun _ => rfl, fun _ covered => covered⟩

theorem Token.Moved.trans (t u v : Token) (first : t.Moved u) (second : u.Moved v) : t.Moved v where
  id := second.id.trans first.id
  limit := second.limit.trans first.limit
  sum finite := (second.sum (first.limit.trans finite)).trans (first.sum finite)
  fixed unlimited := (second.fixed (first.limit.trans unlimited)).trans (first.fixed unlimited)
  floor finite covered := second.floor (first.limit.trans finite) (first.floor finite covered)

theorem User.debit_moved {id quota : Int} {u : User} (covers : userCovers id quota u = true) :
    u.Moved ((User.debit quota).set u) := by
  refine ⟨rfl, fun _ => ?_⟩
  simp only [userCovers, Bool.and_eq_true, decide_eq_true_eq] at covers
  change 0 ≤ u.quota - quota
  omega

theorem User.credit_moved {amount : Int} (nonneg : 0 ≤ amount) (u : User) : u.Moved ((User.credit amount).set u) := by
  refine ⟨rfl, fun covered => ?_⟩
  change 0 ≤ u.quota + amount
  omega

theorem Token.giveBack_moved {now amount : Int} (nonneg : 0 ≤ amount) (t : Token) :
    t.Moved ((Token.giveBack now amount).set t) := by
  refine ⟨rfl, rfl, fun finite => ?_, fun unlimited => ?_, fun finite covered => ?_⟩
  · simp only [Token.giveBack, finite, Bool.false_eq_true, if_false]
    omega
  · simp only [Token.giveBack, unlimited, if_true]
  · simp only [Token.giveBack, finite, Bool.false_eq_true, if_false]
    omega

theorem Token.take_moved {now id amount : Int} {t : Token} (covers : tokenCovers id amount t = true) :
    t.Moved ((take now amount).set t) := by
  refine ⟨rfl, rfl, fun finite => ?_, fun unlimited => ?_, fun finite _ => ?_⟩
  · simp only [take, finite, Bool.false_eq_true, if_false]
    omega
  · simp only [take, unlimited, if_true]
  · simp only [tokenCovers, finite, Bool.false_or, Bool.and_eq_true, decide_eq_true_eq] at covers
    simp only [take, finite, Bool.false_eq_true, if_false]
    omega

/-- The wallets and tokens of a database as billing may move them. -/
def quotaAllowance : Allowance DB where
  rel db db' := db.users.Rowwise User.Moved db'.users ∧ db.tokens.Rowwise Token.Moved db'.tokens
  refl _ := ⟨.refl User.Moved.refl _, .refl Token.Moved.refl _⟩
  trans first second := ⟨first.1.trans User.Moved.trans second.1, first.2.trans Token.Moved.trans second.2⟩

/-- A statement on users. -/
theorem quotaAllowance.users {p : User → Bool} {f : Table.Assignment User} (moved : ∀ u, p u = true → u.Moved (f.set u)) :
    (updateWhere p f : Command Nat).Within quotaAllowance :=
  .updateWhere fun _ => ⟨.update User.Moved.refl moved, .refl Token.Moved.refl _⟩

theorem quotaAllowance.tokens {p : Token → Bool} {f : Table.Assignment Token}
    (moved : ∀ t, p t = true → t.Moved (f.set t)) : (updateWhere p f : Command Nat).Within quotaAllowance :=
  .updateWhere fun _ => ⟨.refl User.Moved.refl _, .update Token.Moved.refl moved⟩

variable {α : Type}

/-- What touches neither table. -/
theorem quotaAllowance.apart {x : Command α} (keeps : x.Keeps fun db => (db.users, db.tokens)) :
    x.Within quotaAllowance := by
  refine .keeps keeps fun db db' same => ?_
  obtain ⟨users, tokens⟩ := Prod.mk.inj same
  change db.users.Rowwise User.Moved db'.users ∧ db.tokens.Rowwise Token.Moved db'.tokens
  rw [users, tokens]
  exact quotaAllowance.refl db

section Writers
variable (env : Env)

variable (id userId quota : Int) (settlement : BillingTaskSettlement)

theorem tryDecreaseUserQuota_within : (tryDecreaseUserQuota id quota).Within quotaAllowance :=
  .bind (.failIf _ _) fun _ => .ite (fun _ => .pure _) fun _ =>
    .bind (quotaAllowance.users fun _ => User.debit_moved) fun _ => .pure _

theorem increaseUserQuota_within : (increaseUserQuota id quota).Within quotaAllowance :=
  .failIf_bind fun nonneg => .bind (quotaAllowance.users fun u _ => User.credit_moved (not_lt.mp nonneg) u) fun _ => .pure _

theorem decreaseTokenQuotaTx_within : (decreaseTokenQuotaTx env id quota).Within quotaAllowance :=
  .ite (fun _ => .failIf _ _) fun _ => .bind (quotaAllowance.tokens fun _ => Token.take_moved) fun _ =>
    .ite (fun _ => .pure _) fun _ => .bind (.readOnly (.findOr _ _)) fun _ => .fail _

theorem increaseTokenQuotaTx_within : (increaseTokenQuotaTx env id quota).Within quotaAllowance := by
  refine .ite (fun _ => .failIf _ _) fun valid => .bind (quotaAllowance.tokens fun t _ => ?_) fun _ => .failIf _ _
  exact Token.giveBack_moved (by omega) t

theorem chargeUserTx_within (missing insufficient : ModelError) :
    (chargeUserTx userId quota missing insufficient).Within quotaAllowance :=
  .bind (quotaAllowance.users fun _ => User.debit_moved) fun _ =>
    .ite (fun _ => .bind (.readOnly (.mapError (.findOr _ _) _)) fun _ => .fail _) fun _ => .pure _

theorem legacyToken_within (tokenId quota : Int) : (legacyToken env userId tokenId quota).Within quotaAllowance :=
  .bind (.readOnly (.mapError (.findOr _ _) _)) fun _ =>
    .mapError (.ite (fun _ => decreaseTokenQuotaTx_within env _ _) fun _ => increaseTokenQuotaTx_within env _ _) _

theorem legacyWallet_within : (legacyWallet userId quota).Within quotaAllowance := by
  refine .ite (fun _ => chargeUserTx_within _ _ _ _) fun refund => .bind (quotaAllowance.users fun u _ => ?_) fun _ =>
    .failIf _ _
  exact User.credit_moved (by omega) u

theorem legacyFunding_within (subscriptionId : Int) (fundingSource : String) (quota : Int) :
    (legacyFunding env userId subscriptionId fundingSource quota).Within quotaAllowance := by
  unfold legacyFunding
  split
  · exact .bind (.failIf _ _) fun _ => .bind (.readOnly (.findOr _ _)) fun _ =>
      quotaAllowance.apart (postConsumeUserSubscriptionDeltaTx_keeps _ _ fun _ _ => rfl)
  · exact legacyWallet_within _ _
  · exact .ite (fun _ => legacyWallet_within _ _) fun _ => .fail _

theorem applyLegacyQuotaAdjustment_within (tokenId subscriptionId : Int) (fundingSource : String) (quota : Int)
    (playground : Bool) :
    (applyLegacyQuotaAdjustment env userId tokenId subscriptionId fundingSource quota playground).Within quotaAllowance :=
  .bind (.failIf _ _) fun _ => .ite (fun _ => .pure _) fun _ => .transaction <|
    .bind (.onlyIf fun _ => legacyToken_within env _ _ _) fun _ => legacyFunding_within env _ _ _ _

theorem adjustToken_within (adjustment : BillingTokenAdjustment) : (adjustToken env adjustment).Within quotaAllowance := by
  refine .ite (fun _ => .mapError (decreaseTokenQuotaTx_within env _ _) _) fun refund =>
    .bind (quotaAllowance.tokens fun t _ => ?_) fun _ => .failIf _ _
  exact Token.giveBack_moved (by omega) t

theorem settlementFunding_within :
    (settlementFunding env settlement).Within quotaAllowance := by
  unfold settlementFunding
  split
  · exact chargeUserTx_within _ _ _ _
  · refine .bind (quotaAllowance.apart (.attempt (postConsumeUserSubscriptionDeltaTx_keeps _ _ fun _ _ => rfl)))
      fun posted => ?_
    split
    · exact .pure _
    · exact .ite (fun _ => .fail _) fun _ => .bind (.readOnly (userSubscriptionAllowsWalletOverflow_keeps _ _)) fun _ =>
        .bind (.failIf _ _) fun _ => chargeUserTx_within _ _ _ _
  · exact .fail _

theorem settlementToken_within :
    (settlementToken env settlement).Within quotaAllowance := by
  refine .onlyIf fun _ => .ite
    (fun _ => .bind (.readOnly (.mapError (.findOr _ _) _)) fun _ => .mapError (decreaseTokenQuotaTx_within env _ _) _)
    fun refund => .bind (quotaAllowance.tokens fun t _ => ?_) fun _ => .failIf _ _
  exact Token.giveBack_moved (by omega) t

theorem settlementUsage_within (task : Task) :
    (settlementUsage settlement task).Within quotaAllowance :=
  .bind (quotaAllowance.users fun _ _ => ⟨rfl, fun covered => covered⟩) fun _ => .bind (.failIf _ _) fun _ =>
    .onlyIf fun _ => quotaAllowance.apart (.bind (.updateWhere _ _ fun _ _ => rfl) fun _ => .pure _)

theorem processBillingTaskSettlementTx_within (taskId : Int) :
    (processBillingTaskSettlementTx env taskId).Within quotaAllowance := by
  refine .bind (.readOnly (.findOr _ _)) fun settlement => ?_
  split
  · exact .pure _
  · exact .fail _
  · have moves (task : Task) : (settlementMoves env settlement task).Within quotaAllowance :=
      .bind (settlementFunding_within env _) fun _ => .bind (settlementToken_within env _) fun _ =>
        settlementUsage_within _ _
    exact .bind (.readOnly (.mapError (.findOr _ _) _)) fun task => .bind (.failIf _ _) fun _ =>
      .bind (.onlyIf fun _ => moves task) fun _ =>
      .bind (quotaAllowance.apart (settlementTask_keeps _ fun _ _ => rfl)) fun _ =>
      .bind (quotaAllowance.apart (.updateWhere _ _ fun _ _ => rfl)) fun _ => .bind (.failIf _ _) fun _ => .pure _

theorem processBillingTokenAdjustmentTx_within (requestId : String) :
    (processBillingTokenAdjustmentTx env requestId).Within quotaAllowance := by
  refine .bind (.readOnly (.findOr _ _)) fun adjustment => ?_
  split
  · exact .pure _
  · exact .fail _
  · exact .bind (adjustToken_within env _) fun _ =>
      .bind (quotaAllowance.apart (.updateWhere _ _ fun _ _ => rfl)) fun _ => .pure _

theorem refundFunding_within (refund : BillingRefund) : (refundFunding env refund).Within quotaAllowance := by
  unfold refundFunding
  split
  · refine .onlyIf fun positive => .bind (quotaAllowance.users fun u _ => ?_) fun _ => .failIf _ _
    exact User.credit_moved (by omega) u
  · exact quotaAllowance.apart (.bind (.onlyIf (refundSubscriptionPreConsumeTx_keeps _ (fun _ _ => rfl) fun _ _ => rfl))
      fun _ => .onlyIf (postConsumeUserSubscriptionDeltaTx_keeps _ _ fun _ _ => rfl))
  · exact .fail _

theorem processBillingRefundTx_within (requestId : String) :
    (processBillingRefundTx env requestId).Within quotaAllowance := by
  refine .bind (.readOnly (.findOr _ _)) fun refund => ?_
  split
  · exact .pure _
  · exact .fail _
  · have token : (refundToken env refund).Within quotaAllowance := by
      refine .onlyIf fun positive => .bind (quotaAllowance.tokens fun t _ => ?_) fun _ => .failIf _ _
      exact Token.giveBack_moved (by omega) t
    exact .bind (quotaAllowance.apart (cancelHubProviderEarningTx_keeps env _ fun _ _ => rfl)) fun _ =>
      .bind (refundFunding_within env _) fun _ => .bind token fun _ =>
      .bind (quotaAllowance.apart (refundTask_keeps _ fun _ _ => rfl)) fun _ =>
      .bind (quotaAllowance.apart (.updateWhere _ _ fun _ _ => rfl)) fun _ => .pure _

end Writers

/-- The atomic operations that move wallets and tokens, and those that record
the intents some of them carry out. -/
inductive QuotaOp
  | tryDecreaseUser (id quota : Int)
  | increaseUser (id quota : Int)
  | decreaseToken (id quota : Int)
  | increaseToken (id quota : Int)
  | applyLegacy (userId tokenId subscriptionId : Int) (fundingSource : String) (quota : Int) (playground : Bool)
  | createAdjustment (requestId : String) (tokenId deltaQuota : Int) (cause : ModelError)
  | processAdjustment (requestId : String)
  | createRefund (params : BillingRefundParams)
  | processRefund (requestId : String)
  | createSettlement (params : BillingTaskSettlementParams)
  | processSettlement (taskId : Int)

/-- The operation may end in `db'`, whatever it reports. -/
def QuotaOp.Leaves (env : Env) (db db' : DB) : QuotaOp → Prop
  | tryDecreaseUser id quota => (tryDecreaseUserQuota id quota).Leaves db db'
  | increaseUser id quota => (increaseUserQuota id quota).Leaves db db'
  | decreaseToken id quota => (transaction (decreaseTokenQuotaTx env id quota)).Leaves db db'
  | increaseToken id quota => (transaction (increaseTokenQuotaTx env id quota)).Leaves db db'
  | applyLegacy userId tokenId subscriptionId fundingSource quota playground =>
    (applyLegacyQuotaAdjustment env userId tokenId subscriptionId fundingSource quota playground).Leaves db db'
  | createAdjustment requestId tokenId deltaQuota cause =>
    (createBillingTokenAdjustment env requestId tokenId deltaQuota cause).Leaves db db'
  | processAdjustment requestId => (processBillingTokenAdjustment env requestId).Leaves db db'
  | createRefund params => (createBillingRefund env params).Leaves db db'
  | processRefund requestId => (processBillingRefund env requestId).Leaves db db'
  | createSettlement params => (createBillingTaskSettlement env params).Leaves db db'
  | processSettlement taskId => (processBillingTaskSettlement env taskId).Leaves db db'

/-- Statements on the tables of intents. -/
theorem quotaAllowance.intents [Record α] [HasTable DB α] {p : α → Bool} {f : Table.Assignment α}
    (apart : ∀ db t, (fun db : DB => (db.users, db.tokens)) (HasTable.withTable db (t : Table α)) = (db.users, db.tokens)) :
    (do
      let _ ← attempt (updateWhere p f)
      pure () : Command Unit).Within quotaAllowance :=
  quotaAllowance.apart (.bind (.attempt (.updateWhere _ _ apart)) fun _ => .pure _)

theorem QuotaOp.Leaves.moved {env : Env} {op : QuotaOp} {db db' : DB} (left : op.Leaves env db db') :
    quotaAllowance.rel db db' := by
  cases op with
  | tryDecreaseUser id quota => exact tryDecreaseUserQuota_within id quota db db' left
  | increaseUser id quota => exact increaseUserQuota_within id quota db db' left
  | decreaseToken id quota => exact Within.transaction (decreaseTokenQuotaTx_within env id quota) db db' left
  | increaseToken id quota => exact Within.transaction (increaseTokenQuotaTx_within env id quota) db db' left
  | applyLegacy userId tokenId subscriptionId fundingSource quota playground =>
    exact applyLegacyQuotaAdjustment_within env userId tokenId subscriptionId fundingSource quota playground db db' left
  | createAdjustment requestId tokenId deltaQuota cause =>
    refine quotaAllowance.apart (.bind (.failIf _ _) fun _ => .bind (.attempt (.create _ _ fun _ _ => rfl)) fun created => ?_)
      db db' left
    cases created with
    | ok row => exact .pure _
    | error e => exact .bind (.findOr _ _) fun _ => .bind (.failIf _ _) fun _ => .pure _
  | processAdjustment requestId =>
    exact Within.bind (.failIf _ _) (fun _ => .noted (processBillingTokenAdjustmentTx_within env _)
      (fun _ => quotaAllowance.intents fun _ _ => rfl) (fun _ => rfl) fun _ => rfl) db db' left
  | createRefund params =>
    rcases createBillingRefund_leaves left with rfl | ⟨row, t, -, -, rfl⟩ <;> exact quotaAllowance.refl _
  | processRefund requestId =>
    exact Within.bind (.failIf _ _) (fun _ => .noted (processBillingRefundTx_within env _)
      (fun _ => quotaAllowance.intents fun _ _ => rfl) (fun _ => rfl) fun _ => rfl) db db' left
  | createSettlement params =>
    refine quotaAllowance.apart (.bind (.ofExcept _) fun _ => .bind (.insertRow _ fun _ _ => rfl) fun inserted => ?_)
      db db' left
    cases inserted with
    | some row => exact .pure _
    | none => exact .bind (.findOr _ _) fun _ => .bind (.failIf _ _) fun _ => .pure _
  | processSettlement taskId =>
    rcases processBillingTaskSettlement_leaves left with ⟨r, run⟩ | rfl | ⟨backoff, cause, rfl⟩
    · exact (processBillingTaskSettlementTx_within env taskId).returns run
    · exact quotaAllowance.refl _
    · exact quotaAllowance.refl _

/-- A record of an intent that is carried out once. -/
inductive DurableRecord
  | adjustment (id : Int)
  | refund (id : Int)
  | settlement (id : Int)
  deriving DecidableEq

def DurableRecord.Complete (db : DB) : DurableRecord → Prop
  | adjustment id => ∃ a ∈ db.billingTokenAdjustments.rows, a.id = id ∧ a.status = .complete
  | refund id => ∃ r ∈ db.billingRefunds.rows, r.id = id ∧ r.status = .complete
  | settlement id => ∃ s ∈ db.billingTaskSettlements.rows, s.id = id ∧ s.status = .complete

/-- The record an operation carries out. -/
def QuotaOp.record (db : DB) : QuotaOp → Option DurableRecord
  | processAdjustment requestId =>
    (db.billingTokenAdjustments.first (adjustmentIs (trimSpace requestId))).map fun a => .adjustment a.id
  | processRefund requestId => (db.billingRefunds.first (refundIs (trimSpace requestId))).map fun r => .refund r.id
  | processSettlement taskId => (db.billingTaskSettlements.first (settlementIs taskId)).map fun s => .settlement s.id
  | _ => none

/-- Complete records stay complete. -/
def completion : Allowance DB where
  rel db db' := ∀ record : DurableRecord, record.Complete db → record.Complete db'
  refl _ _ complete := complete
  trans first second record complete := second record (first record complete)

/-- What is complete in the first table is so in the second. -/
def StaysComplete [Record α] (status : α → IntentStatus) (t t' : Table α) : Prop :=
  ∀ id, (∃ x ∈ t.rows, Record.id x = id ∧ status x = .complete) →
    ∃ x ∈ t'.rows, Record.id x = id ∧ status x = .complete

section StaysComplete
variable [Record α] {t t' : Table α} {x : α} {p : α → Bool} {f : Table.Assignment α} {status : α → IntentStatus}

theorem StaysComplete.mono (kept : ∀ x ∈ t.rows, x ∈ t'.rows) : StaysComplete status t t' := by
  rintro id ⟨x, member, rest⟩
  exact ⟨x, kept x member, rest⟩

theorem StaysComplete.of_eq (same : t' = t) : StaysComplete status t t' :=
  .mono fun _ member => same ▸ member

theorem StaysComplete.insert {draft : α} (stored : t.insert draft = some (x, t')) : StaysComplete status t t' :=
  .mono fun _ member => (Table.mem_insert stored).mpr (Or.inl member)

/-- An update completes rows or leaves their status alone. -/
theorem StaysComplete.update (kept : ∀ x, status x = .complete → status (f.set x) = .complete) (same : t' = t) :
    StaysComplete status t (t'.update p f) := by
  rintro id ⟨x, member, named, complete⟩
  refine ⟨Table.rewrite p f x, Table.mem_update.mpr ⟨x, same ▸ member, rfl⟩, (Table.id_rewrite p f x).trans named, ?_⟩
  unfold Table.rewrite
  split
  · exact kept x complete
  · exact complete

/-- A pending row is not complete under another name, and an update may complete it. -/
theorem pending_completes (status : α → IntentStatus) (member : x ∈ t.rows) (pending : status x = .pending)
    (same : t' = t) (hit : p x = true) (complete : status (f.set x) = .complete) :
    (¬∃ y ∈ t.rows, Record.id y = Record.id x ∧ status y = .complete) ∧
      ∃ y ∈ (t'.update p f).rows, Record.id y = Record.id x ∧ status y = .complete := by
  constructor
  · rintro ⟨y, inside, named, complete⟩
    rw [Table.eq_of_id inside member named, pending] at complete
    cases complete
  · exact ⟨_, Table.mem_update.mpr ⟨x, same ▸ member, Table.rewrite_pos hit⟩, f.id x, complete⟩

end StaysComplete

section Records
variable {env : Env} {db db' : DB}

theorem completion.of
    (adjustments : StaysComplete (·.status) db.billingTokenAdjustments db'.billingTokenAdjustments)
    (refunds : StaysComplete (·.status) db.billingRefunds db'.billingRefunds)
    (settlements : StaysComplete (·.status) db.billingTaskSettlements db'.billingTaskSettlements) : completion.rel db db'
  | .adjustment id => adjustments id
  | .refund id => refunds id
  | .settlement id => settlements id

/-- What processing a record comes to: no balance moves, or the record was not
complete before and is afterwards. -/
def Carried (record : DurableRecord) (db db' : DB) : Prop :=
  db'.consumer = db.consumer ∨ ¬record.Complete db ∧ record.Complete db'

variable {requestId : String}

theorem processBillingTokenAdjustment_carried (left : (processBillingTokenAdjustment env requestId).Leaves db db') :
    completion.rel db db' ∧ ∀ a, db.billingTokenAdjustments.first (adjustmentIs (trimSpace requestId)) = some a →
      Carried (.adjustment a.id) db db' := by
  rcases processBillingTokenAdjustment_leaves left with ⟨r, run⟩ | rfl | ⟨cause, rfl⟩
  · obtain ⟨a, found, ⟨-, rfl⟩ | ⟨pending, mid, moved, rfl⟩⟩ := processBillingTokenAdjustmentTx_returns run
    · exact ⟨completion.refl _, fun _ _ => Or.inl rfl⟩
    · have same : mid.intents = db.intents := (adjustToken_keeps a fun _ _ => rfl).returns moved
      obtain ⟨-, rest⟩ := Prod.mk.inj same
      obtain ⟨refunds, settlements⟩ := Prod.mk.inj rest
      refine ⟨completion.of (.update (fun _ _ => rfl) rfl) (.of_eq refunds) (.of_eq settlements), fun other named => ?_⟩
      obtain rfl : a = other := Option.some.inj (found.symm.trans named)
      exact Or.inr (pending_completes BillingTokenAdjustment.status (Table.mem_of_first found) pending rfl
        (by simp [pending]) rfl)
  · exact ⟨completion.refl _, fun _ _ => Or.inl rfl⟩
  · exact ⟨completion.of (.update (fun _ complete => complete) rfl) (.of_eq rfl) (.of_eq rfl), fun _ _ => Or.inl rfl⟩

theorem processBillingRefund_carried (left : (processBillingRefund env requestId).Leaves db db') :
    completion.rel db db' ∧ ∀ r, db.billingRefunds.first (refundIs (trimSpace requestId)) = some r →
      Carried (.refund r.id) db db' := by
  rcases processBillingRefund_leaves left with ⟨r', run⟩ | rfl | ⟨cause, rfl⟩
  · obtain ⟨r, found, ⟨-, rfl⟩ | ⟨pending, ⟨stages⟩⟩⟩ := processBillingRefundTx_returns run
    · exact ⟨completion.refl _, fun _ _ => Or.inl rfl⟩
    · obtain ⟨adjustments, rest⟩ := Prod.mk.inj stages.intents
      obtain ⟨refunds, settlements⟩ := Prod.mk.inj rest
      rw [stages.final]
      refine ⟨completion.of (.of_eq adjustments) (.update (fun _ _ => rfl) refunds) (.of_eq settlements),
        fun other named => ?_⟩
      obtain rfl : r = other := Option.some.inj (found.symm.trans named)
      exact Or.inr (pending_completes BillingRefund.status (Table.mem_of_first found) pending refunds
        (by simp [pending]) rfl)
  · exact ⟨completion.refl _, fun _ _ => Or.inl rfl⟩
  · exact ⟨completion.of (.of_eq rfl) (.update (fun _ complete => complete) rfl) (.of_eq rfl), fun _ _ => Or.inl rfl⟩

theorem SettlementStages.intents {settlement : BillingTaskSettlement} (stages : SettlementStages env settlement db db') :
    stages.retasked.intents = db.intents := by
  have moved : stages.moved.intents = db.intents :=
    (Keeps.onlyIf (settlementMoves_keeps settlement stages.task (fun _ _ => rfl) (fun _ _ => rfl) (fun _ _ => rfl)
      fun _ _ => rfl)).returns stages.move
  have retasked : stages.retasked.intents = stages.moved.intents :=
    (settlementTask_keeps settlement fun _ _ => rfl).returns stages.retask
  exact retasked.trans moved

theorem processBillingTaskSettlement_carried {taskId : Int}
    (left : (processBillingTaskSettlement env taskId).Leaves db db') :
    completion.rel db db' ∧ ∀ s, db.billingTaskSettlements.first (settlementIs taskId) = some s →
      Carried (.settlement s.id) db db' := by
  rcases processBillingTaskSettlement_leaves left with ⟨s', run⟩ | rfl | ⟨backoff, cause, rfl⟩
  · obtain ⟨s, found, ⟨-, rfl⟩ | ⟨pending, ⟨stages⟩⟩⟩ := processBillingTaskSettlementTx_returns run
    · exact ⟨completion.refl _, fun _ _ => Or.inl rfl⟩
    · obtain ⟨adjustments, rest⟩ := Prod.mk.inj stages.intents
      obtain ⟨refunds, settlements⟩ := Prod.mk.inj rest
      rw [stages.final]
      refine ⟨completion.of (.of_eq adjustments) (.of_eq refunds) (.update (fun _ _ => rfl) rfl), fun other named => ?_⟩
      obtain rfl : s = other := Option.some.inj (found.symm.trans named)
      exact Or.inr (pending_completes BillingTaskSettlement.status (Table.mem_of_first found) pending rfl
        (by simp [pending]) rfl)
  · exact ⟨completion.refl _, fun _ _ => Or.inl rfl⟩
  · exact ⟨completion.of (.of_eq rfl) (.of_eq rfl) (.update (fun _ complete => complete) rfl), fun _ _ => Or.inl rfl⟩

theorem applyLegacyQuotaAdjustment_intents (userId tokenId subscriptionId : Int) (fundingSource : String) (quota : Int)
    (playground : Bool) :
    (applyLegacyQuotaAdjustment env userId tokenId subscriptionId fundingSource quota playground).Keeps DB.intents := by
  have wallet : (legacyWallet userId quota).Keeps DB.intents :=
    .ite (chargeUserTx_keeps _ _ _ _ fun _ _ => rfl) <| .bind (.updateWhere _ _ fun _ _ => rfl) fun _ => .failIf _ _
  refine .bind (.failIf _ _) fun _ => .ite (.pure _) <| .transaction <| .bind (.onlyIf ?_) fun _ => ?_
  · refine .bind (.mapError (.findOr _ _) _) fun _ => .mapError (.ite (decreaseTokenQuotaTx_keeps _ _ fun _ _ => rfl) ?_) _
    exact .ite (.failIf _ _) <| .bind (.updateWhere _ _ fun _ _ => rfl) fun _ => .failIf _ _
  · unfold legacyFunding
    split
    · exact .bind (.failIf _ _) fun _ => .bind (.findOr _ _) fun _ =>
        postConsumeUserSubscriptionDeltaTx_keeps _ _ fun _ _ => rfl
    · exact wallet
    · exact .ite wallet (.fail _)

theorem completion.keeps {x : Command α} (keeps : x.Keeps DB.intents) (left : x.Leaves db db') :
    completion.rel db db' := by
  obtain ⟨adjustments, rest⟩ := Prod.mk.inj (keeps.leaves left)
  obtain ⟨refunds, settlements⟩ := Prod.mk.inj rest
  exact completion.of (.of_eq adjustments) (.of_eq refunds) (.of_eq settlements)

theorem createBillingTokenAdjustment_completion {tokenId deltaQuota : Int} {cause : ModelError}
    (left : (createBillingTokenAdjustment env requestId tokenId deltaQuota cause).Leaves db db') :
    completion.rel db db' := by
  refine Within.bind (.failIf _ _) (fun _ => .bind (.attempt (.create fun before y t stored => ?_)) fun created => ?_)
    db db' left
  · exact completion.of (.insert stored) (.of_eq rfl) (.of_eq rfl)
  · cases created with
    | ok row => exact .pure _
    | error e => exact .readOnly (.bind (.findOr _ _) fun _ => .bind (.failIf _ _) fun _ => .pure _)

theorem createBillingTaskSettlement_completion {params : BillingTaskSettlementParams}
    (left : (createBillingTaskSettlement env params).Leaves db db') : completion.rel db db' := by
  refine Within.bind (.ofExcept _) (fun _ => .bind (.insertRow fun before y t stored => ?_) fun inserted => ?_) db db' left
  · exact completion.of (.of_eq rfl) (.of_eq rfl) (.insert stored)
  · cases inserted with
    | some row => exact .pure _
    | none => exact .readOnly (.bind (.findOr _ _) fun _ => .bind (.failIf _ _) fun _ => .pure _)

/-- Whatever an operation does, complete records stay complete, and one that
moves balances for a record completes it. -/
theorem QuotaOp.Leaves.carried {op : QuotaOp} (left : op.Leaves env db db') :
    completion.rel db db' ∧ ∀ record, op.record db = some record → Carried record db db' := by
  have none_ : ∀ record : DurableRecord, none = some record → Carried record db db' := fun _ named => nomatch named
  cases op with
  | tryDecreaseUser id quota =>
    exact ⟨completion.keeps (.bind (.failIf _ _) fun _ => .ite (.pure _) <|
      .bind (.updateWhere _ _ fun _ _ => rfl) fun _ => .pure _) left, none_⟩
  | increaseUser id quota =>
    exact ⟨completion.keeps (.bind (.failIf _ _) fun _ => .bind (.updateWhere _ _ fun _ _ => rfl) fun _ => .pure _) left,
      none_⟩
  | decreaseToken id quota =>
    exact ⟨completion.keeps (.transaction (decreaseTokenQuotaTx_keeps _ _ fun _ _ => rfl)) left, none_⟩
  | increaseToken id quota =>
    exact ⟨completion.keeps (.transaction <| .ite (.failIf _ _) <|
      .bind (.updateWhere _ _ fun _ _ => rfl) fun _ => .failIf _ _) left, none_⟩
  | applyLegacy userId tokenId subscriptionId fundingSource quota playground =>
    exact ⟨completion.keeps (applyLegacyQuotaAdjustment_intents _ _ _ _ _ _) left, none_⟩
  | createAdjustment requestId tokenId deltaQuota cause => exact ⟨createBillingTokenAdjustment_completion left, none_⟩
  | processAdjustment requestId =>
    obtain ⟨completed, carried⟩ := processBillingTokenAdjustment_carried left
    refine ⟨completed, fun record named => ?_⟩
    obtain ⟨a, found, rfl⟩ := Option.map_eq_some_iff.mp named
    exact carried a found
  | createRefund params =>
    refine ⟨?_, none_⟩
    rcases createBillingRefund_leaves left with rfl | ⟨row, t, -, stored, rfl⟩
    · exact completion.refl _
    · exact completion.of (.of_eq rfl) (.insert stored) (.of_eq rfl)
  | processRefund requestId =>
    obtain ⟨completed, carried⟩ := processBillingRefund_carried left
    refine ⟨completed, fun record named => ?_⟩
    obtain ⟨r, found, rfl⟩ := Option.map_eq_some_iff.mp named
    exact carried r found
  | createSettlement params => exact ⟨createBillingTaskSettlement_completion left, none_⟩
  | processSettlement taskId =>
    obtain ⟨completed, carried⟩ := processBillingTaskSettlement_carried left
    refine ⟨completed, fun record named => ?_⟩
    obtain ⟨s, found, rfl⟩ := Option.map_eq_some_iff.mp named
    exact carried s found

end Records

/-- An interleaving of operations, each by its own caller and with its own clock
and driver failures, and the list of records for which a balance was moved. -/
inductive QuotaRun (start : DB) : List DurableRecord → DB → Prop
  | refl : QuotaRun start [] start
  | plain {applied : List DurableRecord} {db db' : DB} {env : Env} {op : QuotaOp} (run : QuotaRun start applied db)
      (left : op.Leaves env db db') (unmoved : ∀ record, op.record db = some record → db'.consumer = db.consumer) :
      QuotaRun start applied db'
  | applied {applied : List DurableRecord} {db db' : DB} {env : Env} {op : QuotaOp} {record : DurableRecord}
      (run : QuotaRun start applied db) (left : op.Leaves env db db') (named : op.record db = some record)
      (moved : db'.consumer ≠ db.consumer) : QuotaRun start (applied ++ [record]) db'

theorem QuotaRun.moved {start db : DB} {applied : List DurableRecord} (run : QuotaRun start applied db) :
    quotaAllowance.rel start db := by
  induction run with
  | refl => exact quotaAllowance.refl start
  | plain _ left _ ih | applied _ left _ _ ih => exact quotaAllowance.trans ih left.moved

/-- The applied records are complete, and each was applied once. -/
theorem QuotaRun.once {start db : DB} {applied : List DurableRecord} (run : QuotaRun start applied db) :
    applied.Nodup ∧ ∀ record ∈ applied, record.Complete db := by
  induction run with
  | refl => exact ⟨.nil, fun _ member => absurd member List.not_mem_nil⟩
  | plain _ left _ ih => exact ⟨ih.1, fun record member => left.carried.1 record (ih.2 record member)⟩
  | applied _ left named moved ih =>
    rename_i applied db db' env op record _
    obtain ⟨kept, carried⟩ := left.carried
    obtain ⟨fresh, complete⟩ := (carried record named).resolve_left moved
    refine ⟨List.nodup_append.mpr ⟨ih.1, List.nodup_singleton _, ?_⟩, fun other member => ?_⟩
    · intro a inside b last same
      rw [List.mem_singleton.mp last] at same
      exact fresh (same ▸ ih.2 a inside)
    · rcases List.mem_append.mp member with old | last
      · exact kept other (ih.2 other old)
      · rw [List.mem_singleton.mp last]
        exact complete

/-- No operation overdraws a wallet or a finite token, whatever the
interleaving; finite tokens are conserved, the displayed quota of unlimited ones
never moves, and no record of an intent is applied twice. -/
theorem quota_never_overdrawn {start db : DB} {applied : List DurableRecord}
    (wallets : ∀ u ∈ start.users.rows, 0 ≤ u.quota)
    (tokens : ∀ t ∈ start.tokens.rows, t.unlimitedQuota = false → 0 ≤ t.remainQuota)
    (run : QuotaRun start applied db) :
    (∀ u ∈ db.users.rows, 0 ≤ u.quota) ∧
      (∀ t ∈ db.tokens.rows, t.unlimitedQuota = false → 0 ≤ t.remainQuota) ∧
      (∀ t ∈ start.tokens.rows, ∃ t' ∈ db.tokens.rows, t'.id = t.id ∧ t'.unlimitedQuota = t.unlimitedQuota ∧
        (t.unlimitedQuota = false → t'.remainQuota + t'.usedQuota = t.remainQuota + t.usedQuota) ∧
        (t.unlimitedQuota = true → t'.remainQuota = t.remainQuota)) ∧
      applied.Nodup := by
  obtain ⟨users, moved⟩ := run.moved
  refine ⟨fun u member => ?_, fun t member finite => ?_, fun t member => ?_, run.once.1⟩
  · obtain ⟨before, inside, kept⟩ := users.backward member
    exact kept.floor (wallets before inside)
  · obtain ⟨before, inside, kept⟩ := moved.backward member
    have limit : before.unlimitedQuota = false := kept.limit.symm.trans finite
    exact kept.floor limit (tokens before inside limit)
  · obtain ⟨after, inside, kept⟩ := moved.forward member
    exact ⟨after, inside, kept.id, kept.limit, kept.sum, kept.fixed⟩

/-- A token for 50 that still owes 20. -/
def oneDebt : DB where
  users := .single { id := 7, quota := 100 }
  tokens := .single { id := 5, userId := 7, key := "k", remainQuota := 50 }
  billingTokenAdjustments :=
    .single { id := 1, requestId := "r", status := .pending, tokenId := 5, deltaQuota := 20 }

def oneDebtPaid : DB := (processBillingTokenAdjustment plainEnv "r" ⟨oneDebt, []⟩).2.db

def oneDebtRepeated : DB := (processBillingTokenAdjustment plainEnv "r" ⟨oneDebtPaid, []⟩).2.db

theorem oneDebtRepeated_not_overdrawn :
    oneDebtRepeated.tokens.rows.map (fun t => (t.remainQuota, t.usedQuota)) = [(30, 20)] ∧
      (∀ u ∈ oneDebtRepeated.users.rows, 0 ≤ u.quota) ∧
      (∀ t ∈ oneDebtRepeated.tokens.rows, t.unlimitedQuota = false → 0 ≤ t.remainQuota) ∧
      [DurableRecord.adjustment 1].Nodup := by
  have first : (QuotaOp.processAdjustment "r").Leaves plainEnv oneDebt oneDebtPaid := leaves_run _ ⟨oneDebt, []⟩
  have again : (QuotaOp.processAdjustment "r").Leaves plainEnv oneDebtPaid oneDebtRepeated :=
    leaves_run _ ⟨oneDebtPaid, []⟩
  have paid : QuotaRun oneDebt [.adjustment 1] oneDebtPaid := by
    refine QuotaRun.refl.applied first rfl ?_
    intro same
    have tokens := congrArg (fun consumer => consumer.2.1.rows.map Token.usedQuota) same
    exact absurd tokens (by decide +kernel)
  have repeated : QuotaRun oneDebt [.adjustment 1] oneDebtRepeated := paid.plain again fun _ _ => rfl
  obtain ⟨users, tokens, -, once⟩ := quota_never_overdrawn (by decide) (by decide) repeated
  exact ⟨by decide +kernel, users, tokens, once⟩

end LLMHub
