import LLMHub.Billing.Charge
import LLMHub.Billing.TaskSettlementSteps
import LLMHub.Settlement.ProviderLedger

namespace LLMHub

open Store Action Go

/-- `decreaseUserQuota`: unlike a reservation it may leave the balance negative. -/
def decreaseUserQuota (id quota : Int) : Command Unit := do
  failIf (quota < 0) (.text "quota 不能为负数！")
  let _ ← updateWhere (userIs id) (User.debit quota)
  pure ()

/-- The quota case of `ManageUser`. -/
inductive QuotaManagement
  | add (value : Int)
  | subtract (value : Int)
  | override (value : Int)
  deriving DecidableEq, Repr

def User.setQuota (quota : Int) : Table.Assignment User where
  set u := { u with quota := quota }

def manageUserQuota (id : Int) : QuotaManagement → Command Unit
  | .add value => do
    failIf (value ≤ 0) (.text "user.quota_change_zero")
    increaseUserQuota id value
  | .subtract value => do
    failIf (value ≤ 0) (.text "user.quota_change_zero")
    decreaseUserQuota id value
  | .override value => do
    let _ ← updateWhere (userIs id) (User.setQuota value)
    pure ()

variable {quota : Int} {missing insufficient : ModelError}

section Effect
variable {env : Env} {db db' : DB} {u : Unit} {settlement : BillingTaskSettlement} {task : Task}

def BillingTaskSettlement.parties (settlement : BillingTaskSettlement) : Parties :=
  ⟨settlement.userId, settlement.subscriptionId, settlement.tokenId⟩

def BillingTaskSettlement.tokenDelta (settlement : BillingTaskSettlement) : Int :=
  if 0 < settlement.tokenId then settlement.deltaQuota else 0

/-- A charge that is not refused has found a user who covers it, one to be
returned too. -/
theorem chargeUserTx_hits {userId : Int} (run : (chargeUserTx userId quota missing insufficient).Returns db u db') :
    (∃ user, db.users.first (userIs userId) = some user ∧ userCovers userId quota user = true) ∧
      db' = { db with users := db.users.update (userCovers userId quota) (User.debit quota) } := by
  have rest := run.updateWhere_bind
  split at rest
  · obtain ⟨_, _, -, refused⟩ := rest.bind
    exact absurd refused Returns.fail
  · rename_i hits
    exact ⟨Table.first_of_count hits (fun u covers => (userCovers_iff.mp covers).1)
      fun x inside y here named same => Table.eq_of_id inside here ((userIs_id named).trans (userIs_id same).symm),
      rest.pure.2⟩

theorem chargeUserTx_returns {userId : Int}
    (run : (chargeUserTx userId quota missing insufficient).Returns db u db') (subscriptionId tokenId : Int) :
    Billed ⟨userId, subscriptionId, tokenId⟩ db db' quota 0 0 := by
  obtain ⟨⟨user, found, hit⟩, rfl⟩ := chargeUserTx_hits run
  have same := Billed.refl ⟨userId, subscriptionId, tokenId⟩ db
  exact ⟨walletIn_posted found hit (fun u covers => (userCovers_iff.mp covers).1) (fun _ _ => rfl) rfl,
    same.usage, same.token⟩

theorem settlementToken_returns (run : (settlementToken env settlement).Returns db u db') :
    Billed settlement.parties db db' 0 0 settlement.tokenDelta := by
  unfold BillingTaskSettlement.tokenDelta
  rcases run.onlyIf with ⟨named, run⟩ | ⟨unnamed, rfl⟩
  · rw [if_pos named]
    split at run
    · obtain ⟨token, mid, read, taken⟩ := run.bind
      obtain ⟨-, rfl⟩ := read.mapError.findOr
      exact (decreaseTokenQuotaTx_returns taken.mapError).2 settlement.userId settlement.subscriptionId
    · obtain ⟨hits, rfl⟩ := run.updateWhere_bind.failIf
      obtain ⟨token, found, hit⟩ := Table.first_of_count hits
        (fun t owned => (Bool.and_eq_true_iff.mp owned).1)
        fun x inside y here named same => Table.eq_of_id inside here ((beq_iff_eq.mp named).trans (beq_iff_eq.mp same).symm)
      have same := Billed.refl settlement.parties db
      refine ⟨same.wallet, same.usage, tokenIn_posted found hit
        (fun t owned => beq_iff_eq.mp (Bool.and_eq_true_iff.mp owned).1) ?_ rfl fun limited => ?_⟩
      · simp only [Token.giveBack]
        omega
      · simp only [Token.giveBack, limited, Bool.false_eq_true, if_false]
        omega
  · rw [if_neg unnamed]
    exact .refl _ _

theorem settlementUsage_returns (parties : Parties) (run : (settlementUsage settlement task).Returns db u db') :
    Billed parties db db' 0 0 0 := by
  obtain ⟨-, rest⟩ := run.updateWhere_bind.failIf_bind
  have kept : ∀ id, walletIn (db.users.update (userIs settlement.userId) (User.addUsed settlement.deltaQuota)) id =
      walletIn db.users id := by
    intro id
    rw [walletIn_update fun _ => rfl]
    exact congrArg (fun f => (db.users.first (userIs id)).map f) (funext fun u => ite_self _)
  have same := Billed.refl parties db
  have counted : Billed parties db { db with
      users := db.users.update (userIs settlement.userId) (User.addUsed settlement.deltaQuota) } 0 0 0 :=
    ⟨⟨fun id => (kept id).trans (same.wallet.value id), same.wallet.present⟩, same.usage, same.token⟩
  rcases rest.onlyIf with ⟨-, rest⟩ | ⟨-, rfl⟩
  · obtain ⟨-, rfl⟩ := rest.updateWhere_bind.pure
    exact counted.congr rfl rfl rfl
  · exact counted

theorem settlementTask_returns (parties : Parties) (run : (settlementTask settlement).Returns db u db') :
    Billed parties db db' 0 0 0 := by
  rcases run.onlyIf with ⟨-, run⟩ | ⟨-, rfl⟩
  · obtain ⟨-, rfl⟩ := run.updateWhere_bind.failIf
    exact (Billed.refl parties db).congr rfl rfl rfl
  · exact .refl _ _

/-- A completed wallet settlement has charged its difference to the wallet and
to the token. -/
theorem SettlementStages.billed_wallet (stages : SettlementStages env settlement db db')
    (wallet : settlement.fundingSource = .wallet) :
    Billed settlement.parties db db' settlement.deltaQuota 0 settlement.tokenDelta := by
  have moved : Billed settlement.parties db stages.moved settlement.deltaQuota 0 settlement.tokenDelta := by
    rcases stages.move.onlyIf with ⟨-, move⟩ | ⟨still, same⟩
    · obtain ⟨_, funded, funding, rest⟩ := move.bind
      obtain ⟨_, charged, token, usage⟩ := rest.bind
      unfold settlementFunding at funding
      rw [wallet] at funding
      have first : Billed settlement.parties db funded settlement.deltaQuota 0 0 := chargeUserTx_returns funding _ _
      have all := (first.trans (settlementToken_returns token)).trans (settlementUsage_returns _ usage)
      simpa only [add_zero, zero_add] using all
    · rw [same]
      have zero : settlement.deltaQuota = 0 := not_not.mp still
      have none : settlement.tokenDelta = 0 := by
        unfold BillingTaskSettlement.tokenDelta
        split <;> simp [zero]
      rw [zero, none]
      exact .refl _ _
  have retasked := moved.trans (settlementTask_returns settlement.parties stages.retask)
  simp only [add_zero] at retasked
  rw [stages.final]
  exact retasked.congr rfl rfl rfl

end Effect

section Run
variable {env : Env} {db : DB} {settlement : BillingTaskSettlement} {task : Task} {user : User}

theorem selects_userCovers {t : Table User} {id : Int} (found : t.first (userIs id) = some user)
    (covered : quota ≤ user.quota) : t.Selects (userCovers id quota) user :=
  .of_id (Table.mem_of_first found) (userCovers_iff.mpr ⟨Table.holds_of_first found, covered⟩) fun _ _ hit =>
    (userIs_id (userCovers_iff.mp hit).1).trans (userIs_id (Table.holds_of_first found)).symm

/-- The guarded statement takes an amount that the balance covers, whatever its
sign. -/
theorem chargeUserTx_completes {userId : Int}
    (found : db.users.first (userIs userId) = some user) (covered : quota ≤ user.quota) :
    (chargeUserTx userId quota missing insufficient).Completes db ()
      { db with users := db.users.update (userCovers userId quota) (User.debit quota) } := by
  have one := (selects_userCovers found covered).count_eq_one
  refine .bind (.updateWhere _ _ _) ?_
  have hits : ¬db.users.count (userCovers userId quota) = 0 := by omega
  exact congrFun (if_neg hits) _

theorem count_of_first {α : Type} [Record α] {t : Table α} {p : α → Bool} {x : α} (found : t.first p = some x) :
    t.count p ≠ 0 :=
  (List.countP_pos_iff.mpr ⟨x, Table.mem_of_first found, Table.holds_of_first found⟩).ne'

theorem settlementToken_completes (env : Env) (db : DB) (returns : settlement.deltaQuota ≤ 0)
    (owned : 0 < settlement.tokenId → ∃ token, db.tokens.first (tokenOf settlement.tokenId settlement.userId) = some token) :
    ∃ tokens, (settlementToken env settlement).Completes db () { db with tokens := tokens } := by
  by_cases named : settlement.tokenId > 0
  · obtain ⟨token, found⟩ := owned named
    refine ⟨db.tokens.update (tokenOf settlement.tokenId settlement.userId)
      (Token.giveBack env.now (-settlement.deltaQuota)), .onlyIf_pos named ?_⟩
    rw [if_neg (by omega)]
    exact .bind (.updateWhere _ _ _) (.failIf (count_of_first found) _ _)
  · exact ⟨db.tokens, .onlyIf_neg _ _ named⟩

theorem settlementUsage_completes (task : Task) (db : DB) (found : db.users.first (userIs settlement.userId) = some user) :
    ∃ users channels, (settlementUsage settlement task).Completes db () { db with users := users, channels := channels } := by
  by_cases channel : task.channelId > 0
  · exact ⟨_, _, .bind (.updateWhere _ _ _) (.bind (.failIf (count_of_first found) _ _)
      (.onlyIf_pos channel (.bind (.updateWhere _ _ _) (.pure _ _))))⟩
  · exact ⟨_, _, .bind (.updateWhere _ _ _) (.bind (.failIf (count_of_first found) _ _) (.onlyIf_neg _ _ channel))⟩

theorem selects_pendingSettlement {t : Table BillingTaskSettlement} (member : settlement ∈ t.rows)
    (pending : settlement.status = .pending) :
    t.Selects (fun s => s.id == settlement.id && s.status == .pending) settlement :=
  .of_id member (by simp [pending]) fun _ _ hit => by
    simp only [Bool.and_eq_true, beq_iff_eq] at hit
    exact hit.1

theorem processBillingTaskSettlementTx_completes {taskId : Int}
    (found : db.billingTaskSettlements.first (settlementIs taskId) = some settlement)
    (pending : settlement.status = .pending) (returns : settlement.deltaQuota ≤ 0)
    (wallet : settlement.fundingSource = .wallet)
    (hasTask : db.tasks.first (fun t => t.id == settlement.taskId && t.userId == settlement.userId) = some task)
    (charged : task.quota = settlement.preQuota) (hasUser : db.users.first (userIs settlement.userId) = some user)
    (hasToken : 0 < settlement.tokenId →
      ∃ token, db.tokens.first (tokenOf settlement.tokenId settlement.userId) = some token)
    (covered : settlement.deltaQuota = 0 ∨ settlement.deltaQuota ≤ user.quota) :
    ∃ users tokens channels tasks, (processBillingTaskSettlementTx env taskId).Completes db
      ((BillingTaskSettlement.complete env.now settlement.attemptCount).set settlement)
      { db with
        users := users
        tokens := tokens
        channels := channels
        tasks := tasks
        billingTaskSettlements := db.billingTaskSettlements.update
          (fun s => s.id == settlement.id && s.status == .pending)
          (BillingTaskSettlement.complete env.now settlement.attemptCount) } := by
  obtain ⟨users, tokens, channels, moves⟩ : ∃ users tokens channels,
      (onlyIf (settlement.deltaQuota ≠ 0) (settlementMoves env settlement task)).Completes db ()
        { db with users := users, tokens := tokens, channels := channels } := by
    by_cases still : settlement.deltaQuota = 0
    · exact ⟨db.users, db.tokens, db.channels, .onlyIf_neg _ _ (not_not.mpr still)⟩
    · obtain ⟨users, paid, funded, same⟩ : ∃ users paid,
          (settlementFunding env settlement).Completes db () { db with users } ∧
            users.first (userIs settlement.userId) = some paid := by
        refine ⟨db.users.update (userCovers settlement.userId settlement.deltaQuota)
          (User.debit settlement.deltaQuota), _, ?_, (Table.first_update fun _ => rfl).trans (congrArg (Option.map _) hasUser)⟩
        unfold settlementFunding
        rw [wallet]
        exact chargeUserTx_completes hasUser (covered.resolve_left still)
      obtain ⟨tokens, token⟩ := settlementToken_completes env { db with users } returns hasToken
      obtain ⟨users', channels, usage⟩ := settlementUsage_completes task { db with users, tokens } same
      exact ⟨users', tokens, channels, .onlyIf_pos still (.bind funded (.bind token usage))⟩
  obtain ⟨tasks, retask⟩ : ∃ tasks, (settlementTask settlement).Completes
      { db with users := users, tokens := tokens, channels := channels } ()
      { db with users := users, tokens := tokens, channels := channels, tasks := tasks } := by
    by_cases same : settlement.actualQuota = settlement.preQuota
    · exact ⟨db.tasks, .onlyIf_neg _ _ (not_not.mpr same)⟩
    · have hits : db.tasks.count (fun t => t.id == settlement.taskId && t.userId == settlement.userId &&
          t.quota == settlement.preQuota) ≠ 0 := by
        refine (List.countP_pos_iff.mpr ⟨task, Table.mem_of_first hasTask, ?_⟩).ne'
        exact Bool.and_eq_true_iff.mpr
          ⟨Table.holds_of_first (p := fun t : Task => t.id == settlement.taskId && t.userId == settlement.userId) hasTask,
            beq_iff_eq.mpr charged⟩
      exact ⟨_, .onlyIf_pos same (.bind (.updateWhere _ _ _) (.failIf hits _ _))⟩
  have one := (selects_pendingSettlement (Table.mem_of_first found) pending).count_eq_one
  refine ⟨users, tokens, channels, tasks, .bind (.findOr found _) ?_⟩
  rw [pending]
  exact .bind (.mapError (.findOr hasTask _) _) (.bind (.failIf (not_not.mpr charged) _ _) (.bind moves (.bind retask
    (.bind (.updateWhere _ _ _) (.bind (.failIf (not_not.mpr one) _ _) (.pure _ _))))))

end Run

theorem processBillingTaskSettlement_returns {env : Env} {taskId : Int} {db db' : DB} {completed : BillingTaskSettlement}
    (run : (processBillingTaskSettlement env taskId).Returns db completed db') :
    (processBillingTaskSettlementTx env taskId).Returns db completed db' := by
  obtain ⟨-, rest⟩ := run.failIf_bind
  obtain ⟨result, mid, tried, rest⟩ := rest.bind
  rcases tried.attempt with ⟨answer, rfl, returned⟩ | ⟨cause, rfl, -⟩
  · obtain ⟨rfl, rfl⟩ := rest.pure
    exact returned.transaction
  · obtain ⟨_, _, -, failed⟩ := rest.bind
    exact absurd failed Returns.fail

/-- A settlement that returns money completes exactly when the balance is not
below the negative difference. -/
theorem returning_settlement_completes_iff (env : Env) (db : DB) (taskId : Int) (settlement : BillingTaskSettlement)
    (task : Task) (user : User) (positive : 0 < taskId)
    (found : db.billingTaskSettlements.first (settlementIs taskId) = some settlement)
    (pending : settlement.status = .pending) (returns : settlement.deltaQuota ≤ 0)
    (wallet : settlement.fundingSource = .wallet)
    (hasTask : db.tasks.first (fun t => t.id == settlement.taskId && t.userId == settlement.userId) = some task)
    (charged : task.quota = settlement.preQuota) (hasUser : db.users.first (userIs settlement.userId) = some user)
    (hasToken : 0 < settlement.tokenId →
      ∃ token, db.tokens.first (tokenOf settlement.tokenId settlement.userId) = some token) :
    (∃ completed db', processBillingTaskSettlement env taskId ⟨db, []⟩ = (.ok completed, ⟨db', []⟩) ∧
        Billed settlement.parties db db' settlement.deltaQuota 0
          (if 0 < settlement.tokenId then settlement.deltaQuota else 0) ∧
        ∃ record, db'.billingTaskSettlements.first (settlementIs taskId) = some record ∧ record.status = .complete) ↔
      settlement.deltaQuota = 0 ∨ settlement.deltaQuota ≤ user.quota := by
  constructor
  · rintro ⟨completed, db', run, -, -⟩
    have returned := processBillingTaskSettlement_returns (Completes.returns run)
    obtain ⟨row, first, ⟨complete, -⟩ | ⟨-, ⟨stages⟩⟩⟩ := processBillingTaskSettlementTx_returns returned
    · obtain rfl := Option.some.inj (first.symm.trans found)
      exact nomatch pending.symm.trans complete
    · obtain rfl := Option.some.inj (first.symm.trans found)
      rcases stages.move.onlyIf with ⟨-, move⟩ | ⟨still, -⟩
      · obtain ⟨_, funded, funding, -⟩ := move.bind
        unfold settlementFunding at funding
        rw [wallet] at funding
        obtain ⟨payer, first, hit⟩ := (chargeUserTx_hits funding).1
        obtain rfl := Option.some.inj (first.symm.trans hasUser)
        exact Or.inr (userCovers_iff.mp hit).2
      · exact Or.inl (not_not.mp still)
  · intro covered
    obtain ⟨users, tokens, channels, tasks, run⟩ := processBillingTaskSettlementTx_completes found pending returns
      wallet hasTask charged hasUser hasToken covered
    have whole : (processBillingTaskSettlement env taskId).Completes db _ _ :=
      .bind (.failIf (not_le.mpr positive) _ _) (.bind (.attempt (.transaction run)) (.pure _ _))
    obtain ⟨row, first, ⟨complete, -⟩ | ⟨-, ⟨stages⟩⟩⟩ := processBillingTaskSettlementTx_returns run.returns
    · obtain rfl := Option.some.inj (first.symm.trans found)
      exact nomatch pending.symm.trans complete
    · obtain rfl := Option.some.inj (first.symm.trans found)
      refine ⟨_, _, whole, stages.billed_wallet wallet, ?_⟩
      have rewritten : Table.rewrite (fun s : BillingTaskSettlement => s.id == row.id && s.status == .pending)
          (BillingTaskSettlement.complete env.now row.attemptCount) row =
            (BillingTaskSettlement.complete env.now row.attemptCount).set row := if_pos (by simp [pending])
      refine ⟨(BillingTaskSettlement.complete env.now row.attemptCount).set row, ?_, rfl⟩
      rw [Table.first_update fun _ => rfl, found, Option.map_some, rewritten]

/-- A task charged 50 of which 20 are to be returned. -/
def returningTask (quota : Int) : DB where
  users := .single { id := 7, quota }
  tokens := .single { id := 5, userId := 7, key := "k", remainQuota := 10, usedQuota := 50 }
  tasks := .single { id := 3, userId := 7, quota := 50, status := .success }
  billingTaskSettlements :=
    .single { id := 1, taskId := 3, requestId := "r", status := .pending, userId := 7, tokenId := 5, fundingSource := .wallet,
              preQuota := 50, actualQuota := 30, deltaQuota := -20 }

theorem returningTask_completes :
    ∃ completed db', processBillingTaskSettlement plainEnv 3 ⟨returningTask (-20), []⟩ = (.ok completed, ⟨db', []⟩) ∧
      Billed ⟨7, 0, 5⟩ (returningTask (-20)) db' (-20) 0 (-20) ∧
      ∃ record, db'.billingTaskSettlements.first (settlementIs 3) = some record ∧ record.status = .complete :=
  (returning_settlement_completes_iff plainEnv (returningTask (-20)) 3 _ _ _ (by decide) rfl rfl (by decide) rfl rfl rfl
    rfl fun _ => ⟨_, rfl⟩).mpr (Or.inr (by decide))

/-- The balance 100 after an administrator took 130 from it. -/
def overdrawnTask : DB := (manageUserQuota 7 (.subtract 130) ⟨returningTask 100, []⟩).2.db

theorem overdrawnTask_refused :
    walletIn overdrawnTask.users 7 = some (-30) ∧
      (processBillingTaskSettlement plainEnv 3 ⟨overdrawnTask, []⟩).1 =
        .error .billingTaskSettlementUserQuotaInsufficient ∧
      walletIn (processBillingTaskSettlement plainEnv 3 ⟨overdrawnTask, []⟩).2.db.users 7 = some (-30) ∧
      (processBillingTaskSettlement plainEnv 3 ⟨overdrawnTask, []⟩).2.db.billingTaskSettlements.rows.map (·.status) =
        [.pending] := by
  decide +kernel

end LLMHub
