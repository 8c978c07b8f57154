import LLMHub.Settlement.Ledger

namespace LLMHub

open Store Action Go

variable {rules : Ledger.Rules} {env : Env} {db db' : DB}

variable {α : Type} {providerId amountQuota tenantId ownerUserId adminUserId : Int} {f : Unit → Command α} {a : α}
  {remark : String} {status : HubWithdrawalStatus} {payment : Option HubWithdrawalPayment}

/-- Behind the funds check the amount is covered by the account. -/
theorem checkProviderFunds_bind {insufficient : ModelError}
    (run : (checkProviderFunds providerId amountQuota insufficient >>= f).Returns db a db') :
    amountQuota ≤ (db.ledger.providerAccount providerId).available ∧ (f ()).Returns db a db' := by
  obtain ⟨_, mid, checked, rest⟩ := run.bind
  obtain ⟨covered, same⟩ := checked.sumWhere_bind.sumWhere_bind.failIf
  exact ⟨not_lt.mp covered, same ▸ rest⟩

theorem checkTenantFunds_bind {insufficient : ModelError}
    (run : (checkTenantFunds tenantId amountQuota insufficient >>= f).Returns db a db') :
    amountQuota ≤ (db.ledger.tenantAccount tenantId).available ∧ (f ()).Returns db a db' := by
  obtain ⟨_, mid, checked, rest⟩ := run.bind
  obtain ⟨income, between, summed, checked⟩ := checked.bind
  obtain ⟨rfl, same⟩ := summed.sumWhere_bind.sumWhere_bind.sumWhere_bind.pure
  subst same
  obtain ⟨covered, same⟩ := checked.failIf
  exact ⟨not_lt.mp covered, same ▸ rest⟩

theorem openWithdrawals_bind {party : HubParty} [HasTable DB (HubWithdrawal party)] {holderId : Int}
    {pending : ModelError}
    (run : (openWithdrawals party holderId >>= fun n => failIf (n > 0) pending >>= f).Returns db a db') :
    openIn (HasTable.table db : Table (HubWithdrawal party)) holderId = 0 ∧ (f ()).Returns db a db' := by
  obtain ⟨none, rest⟩ := run.countWhere_bind.failIf_bind
  exact ⟨Nat.eq_zero_of_not_pos none, rest⟩

theorem getHubPayoutAccountTx_bind {party : HubParty} [HasTable DB (HubPayoutAccount party)]
    {holderId accountId : Int} {f : HubPayoutAccount party × HubPayoutAccountSnapshot → Command α}
    (run : (getHubPayoutAccountTx party env holderId accountId >>= f).Returns db a db') :
    ∃ account hydrated,
      (HasTable.table db).first (fun x : HubPayoutAccount party => x.id == accountId && x.holderId == holderId) =
        some account ∧
      hydrateHubPayoutAccount env account = .ok hydrated ∧ (f (account, hydrated)).Returns db a db' := by
  obtain ⟨read, mid, head, rest⟩ := run.bind
  obtain ⟨account, found, head⟩ := head.findOr_bind
  obtain ⟨hydrated, decoded, head⟩ := head.ofExcept_bind
  obtain ⟨rfl, same⟩ := head.pure
  exact ⟨account, hydrated, found, decoded, same ▸ rest⟩

theorem lockHubTenantFinanceTx_bind
    (run : (lockHubTenantFinanceTx tenantId >>= f).Returns db a db') : (f ()).Returns db a db' := by
  obtain ⟨_, mid, head, rest⟩ := run.bind
  obtain ⟨-, head⟩ := head.failIf_bind
  obtain ⟨-, -, head⟩ := head.findOr_bind
  exact head.pure.2 ▸ rest

theorem requireActiveTenantOwnerTx_bind
    (run : (requireActiveTenantOwnerTx tenantId ownerUserId >>= f).Returns db a db') : (f ()).Returns db a db' := by
  obtain ⟨_, mid, head, rest⟩ := run.bind
  obtain ⟨-, -, head⟩ := head.require_bind
  exact head.pure.2 ▸ rest

/-- A transfer row is stored only together with the credit of its owner. -/
theorem transfer_returns {transfer row : HubProviderEarning} {missing : ModelError}
    (run : (do
      let transfer ← create transfer .duplicatedKey
      let affected ← updateWhere (userIs ownerUserId) (User.credit amountQuota)
      failIf (affected ≠ 1) missing
      pure transfer : Command HubProviderEarning).Returns db row db') :
    ∃ t, db.hubProviderEarnings.insert transfer = some (row, t) ∧ db.users.count (userIs ownerUserId) = 1 ∧
      db' = { db with
        hubProviderEarnings := t
        users := db.users.update (userIs ownerUserId) (User.credit amountQuota) } := by
  obtain ⟨stored, t, inserted, rest⟩ := run.create_bind
  obtain ⟨single, rest⟩ := rest.updateWhere_bind.failIf_bind
  obtain ⟨rfl, rfl⟩ := rest.pure
  exact ⟨t, inserted, not_not.mp single, rfl⟩

theorem createHubProviderManualAdjustment_step {operatorUserId : Int} {uuid : String}
    (run : (createHubProviderManualAdjustment env providerId amountQuota operatorUserId remark uuid).Leaves db db')
    (admitted : rules.adjustment amountQuota) : Ledger.Step rules db.ledger db'.ledger := by
  rcases run.read (.failIf _ _) with rfl | ⟨_, -, run⟩
  · exact .idle
  rcases run.read (.findOr _ _) with rfl | ⟨provider, -, run⟩
  · exact .idle
  rcases run.create with rfl | ⟨row, t, stored, rfl⟩
  · exact .idle
  · exact .adjusted stored rfl rfl admitted

theorem createHubProviderBalanceTransfer_step {idempotencyKey : String}
    (run : (createHubProviderBalanceTransfer env providerId ownerUserId amountQuota idempotencyKey).Leaves db db') :
    Ledger.Step rules db.ledger db'.ledger := by
  rcases run.read (.failIf _ _) with rfl | ⟨_, valid, run⟩
  · exact .idle
  have positive : 0 < amountQuota := by
    have := valid.failIf.1
    omega
  rcases run.transaction with ⟨row, run⟩ | rfl
  · obtain ⟨provider, -, run⟩ := run.findOr_bind
    have run := run.find_bind
    split at run
    · obtain ⟨-, run⟩ := run.failIf_bind
      rw [run.pure.2]
      exact .idle
    · obtain ⟨funds, run⟩ := checkProviderFunds_bind run
      obtain ⟨t, stored, -, rfl⟩ := transfer_returns run
      exact .providerTransferred positive funds stored
  · exact .idle

theorem createHubTenantBalanceTransfer_step {idempotencyKey : String}
    (run : (createHubTenantBalanceTransfer env tenantId ownerUserId amountQuota idempotencyKey).Leaves db db') :
    Ledger.Step rules db.ledger db'.ledger := by
  rcases run.read (.failIf _ _) with rfl | ⟨_, valid, run⟩
  · exact .idle
  have positive : 0 < amountQuota := by
    have := valid.failIf.1
    omega
  rcases run.transaction with ⟨row, run⟩ | rfl
  · have run := (requireActiveTenantOwnerTx_bind (lockHubTenantFinanceTx_bind run)).find_bind
    split at run
    · obtain ⟨-, run⟩ := run.failIf_bind
      rw [run.pure.2]
      exact .idle
    · obtain ⟨funds, run⟩ := checkTenantFunds_bind run
      obtain ⟨t, stored, -, rfl⟩ := transfer_returns run
      exact .tenantTransferred positive funds stored
  · exact .idle

theorem createHubProviderWithdrawal_step {payoutAccountId : Int}
    (run : (createHubProviderWithdrawal env providerId ownerUserId amountQuota payoutAccountId).Leaves db db') :
    Ledger.Step rules db.ledger db'.ledger := by
  rcases run.read (.failIf _ _) with rfl | ⟨_, valid, run⟩
  · exact .idle
  have positive : 0 < amountQuota := by
    have := valid.failIf.1
    omega
  rcases (run.then_readOnly fun _ => .ofExcept _).transaction with ⟨row, run⟩ | rfl
  · obtain ⟨provider, -, run⟩ := run.findOr_bind
    obtain ⟨-, run⟩ := run.failIf_bind
    obtain ⟨free, run⟩ := openWithdrawals_bind run
    obtain ⟨funds, run⟩ := checkProviderFunds_bind run
    obtain ⟨account, hydrated, -, -, run⟩ := getHubPayoutAccountTx_bind run
    obtain ⟨snapshot, -, run⟩ := run.ofExcept_bind
    obtain ⟨t, stored, rfl⟩ := run.create
    exact .providerRequested stored rfl positive free funds
  · exact .idle

/-- A withdrawal to this payout account stores the given text as its snapshot. -/
def StoresSnapshot (env : Env) (db : DB) (payoutAccountId : Int) (snapshot : String) : Prop :=
  ∃ account ∈ db.hubTenantPayoutAccounts.rows, account.id = payoutAccountId ∧
    ∃ hydrated, hydrateHubPayoutAccount env account = .ok hydrated ∧
      snapshotHubPayoutAccount env hydrated = .ok snapshot

theorem createHubTenantWithdrawal_step {payoutAccountId : Int}
    (run : (createHubTenantWithdrawal env tenantId ownerUserId amountQuota payoutAccountId).Leaves db db')
    (admitted : ∀ snapshot, StoresSnapshot env db payoutAccountId snapshot → rules.snapshot snapshot) :
    Ledger.Step rules db.ledger db'.ledger := by
  rcases run.read (.failIf _ _) with rfl | ⟨_, valid, run⟩
  · exact .idle
  have positive : 0 < amountQuota := by
    have := valid.failIf.1
    omega
  rcases (run.then_readOnly fun _ => .ofExcept _).transaction with ⟨row, run⟩ | rfl
  · have run := requireActiveTenantOwnerTx_bind (lockHubTenantFinanceTx_bind run)
    obtain ⟨-, run⟩ := run.failIf_bind
    obtain ⟨free, run⟩ := openWithdrawals_bind run
    obtain ⟨funds, run⟩ := checkTenantFunds_bind run
    obtain ⟨account, hydrated, found, decoded, run⟩ := getHubPayoutAccountTx_bind run
    obtain ⟨snapshot, encoded, run⟩ := run.ofExcept_bind
    obtain ⟨t, stored, rfl⟩ := run.create
    have selected := Table.holds_of_first found
    simp only [Bool.and_eq_true, beq_iff_eq] at selected
    have stores : StoresSnapshot env db payoutAccountId snapshot :=
      ⟨account, Table.mem_of_first found, selected.1, hydrated, decoded, encoded⟩
    exact .tenantRequested stored rfl positive free funds (admitted snapshot stores)
  · exact .idle

theorem providerPayment_some {normal : HubWithdrawalPayment} (accepted : providerPayment status payment = .ok normal)
    (paid : status = .paid) :
    ∃ given, payment = some given ∧ normalizeHubProviderWithdrawalPayment given = .ok normal := by
  unfold providerPayment at accepted
  rw [if_pos paid] at accepted
  cases payment with
  | none => cases accepted
  | some given => exact ⟨given, rfl, accepted⟩

theorem tenantPayment_some {normal : HubWithdrawalPayment} (accepted : tenantPayment status payment = .ok normal)
    (paid : status = .paid) :
    ∃ given, payment = some given ∧ normalizeHubProviderWithdrawalPayment given = .ok normal := by
  unfold tenantPayment at accepted
  rw [if_pos paid] at accepted
  cases payment with
  | none => cases accepted
  | some given =>
    refine ⟨given, rfl, ?_⟩
    dsimp only at accepted
    cases normalised : normalizeHubProviderWithdrawalPayment given with
    | error e =>
      rw [normalised] at accepted
      cases accepted
    | ok result =>
      rw [normalised] at accepted
      cases accepted
      rfl

theorem payment_some {normal : HubWithdrawalPayment}
    (accepted : ∃ given, payment = some given ∧ normalizeHubProviderWithdrawalPayment given = .ok normal) :
    normal.currency ≠ "" ∧ 0 < normal.amountMinor := by
  obtain ⟨given, -, normalised⟩ := accepted
  exact normalizeHubProviderWithdrawalPayment_ok normalised

theorem updateHubProviderWithdrawalStatus_leaves {id : Int}
    (run : (updateHubProviderWithdrawalStatus env id status adminUserId remark payment).Leaves db db') :
    db' = db ∨ ∃ current normal, providerPayment status payment = .ok normal ∧
      db.hubProviderWithdrawals.first (fun w => w.id == id) = some current ∧
      validHubWithdrawalTransition current.status status = true ∧
      db' = { db with
        hubProviderWithdrawals := db.hubProviderWithdrawals.update (fun w => w.id == id)
          (current.review status adminUserId (trimSpace remark) normal env.now) } := by
  rcases run.read (.failIf _ _) with same | ⟨_, -, run⟩
  · exact Or.inl same
  rcases run.read (.ofExcept _) with same | ⟨normal, accepted, run⟩
  · exact Or.inl same
  rcases (run.then_readOnly fun _ => .ofExcept _).mapError.transaction with ⟨row, run⟩ | same
  · obtain ⟨current, found, run⟩ := run.findOr_bind
    split at run
    · exact Or.inl run.pure.2
    · obtain ⟨-, run⟩ := run.failIf_bind
      obtain ⟨valid, run⟩ := run.failIf_bind
      exact Or.inr ⟨current, normal, accepted.ofExcept.1, found, Bool.not_eq_false _ ▸ valid, run.updateWhere_bind.findOr.2⟩
  · exact Or.inl same

theorem updateHubProviderWithdrawalStatus_step {id : Int}
    (run : (updateHubProviderWithdrawalStatus env id status adminUserId remark payment).Leaves db db') :
    Ledger.Step rules db.ledger db'.ledger := by
  rcases updateHubProviderWithdrawalStatus_leaves run with rfl | ⟨current, normal, accepted, found, valid, rfl⟩
  · exact .idle
  · have named := Table.holds_of_first found
    obtain rfl : current.id = id := beq_iff_eq.mp named
    have member := Table.mem_of_first found
    exact .providerReviewed member valid env.now_pos fun paid => payment_some (providerPayment_some accepted paid)

theorem updateHubTenantWithdrawalStatus_leaves {id : Int}
    (run : (updateHubTenantWithdrawalStatus env id status adminUserId remark payment).Leaves db db') :
    db' = db ∨ ∃ current normal, tenantPayment status payment = .ok normal ∧
      db.hubTenantWithdrawals.first (fun w => w.id == id) = some current ∧
      validHubWithdrawalTransition current.status status = true ∧
      db' = { db with
        hubTenantWithdrawals := db.hubTenantWithdrawals.update (fun w => w.id == id)
          (current.review status adminUserId (trimSpace remark) normal env.now) } := by
  rcases run.read (.failIf _ _) with same | ⟨_, -, run⟩
  · exact Or.inl same
  rcases run.read (.ofExcept _) with same | ⟨normal, accepted, run⟩
  · exact Or.inl same
  have reads (updated : HubTenantWithdrawal × Bool) : (ofExcept (hydrateHubWithdrawal env updated.1) >>= fun hydrated =>
      pure (hydrated, updated.2) : Command _).ReadOnly := .bind (.ofExcept _) fun _ => .pure _
  rcases (run.then_readOnly reads).mapError.transaction with ⟨row, run⟩ | same
  · obtain ⟨current, found, run⟩ := run.findOr_bind
    split at run
    · obtain ⟨-, run⟩ := run.failIf_bind
      exact Or.inl run.pure.2
    · obtain ⟨-, run⟩ := run.failIf_bind
      obtain ⟨valid, run⟩ := run.failIf_bind
      obtain ⟨updated, -, run⟩ := run.updateWhere_bind.findOr_bind
      exact Or.inr ⟨current, normal, accepted.ofExcept.1, found, Bool.not_eq_false _ ▸ valid, run.pure.2⟩
  · exact Or.inl same

theorem updateHubTenantWithdrawalStatus_step {id : Int}
    (run : (updateHubTenantWithdrawalStatus env id status adminUserId remark payment).Leaves db db') :
    Ledger.Step rules db.ledger db'.ledger := by
  rcases updateHubTenantWithdrawalStatus_leaves run with rfl | ⟨current, normal, accepted, found, valid, rfl⟩
  · exact .idle
  · have named := Table.holds_of_first found
    obtain rfl : current.id = id := beq_iff_eq.mp named
    have member := Table.mem_of_first found
    exact .tenantReviewed member valid env.now_pos fun paid => payment_some (tenantPayment_some accepted paid)

end LLMHub
