import LLMHub.Settlement.PayoutAccounts
import LLMHub.Settlement.ProviderLedger

namespace LLMHub

open Store Program

namespace HubPayoutAccount
variable {party : HubParty} {holderId : Int} {t : Table (HubPayoutAccount party)}

def defaultOf (a : HubPayoutAccount party) (holderId : Int) : Bool := a.of holderId && a.isDefault

/-- A holder with accounts has one default. -/
def OneDefault (holderId : Int) (t : Table (HubPayoutAccount party)) : Prop :=
  t.count (fun a => a.of holderId) = 0 ∨ t.count (fun a => a.defaultOf holderId) = 1

theorem OneDefault.of_alone {x : HubPayoutAccount party} (member : x ∈ t.rows) (hit : x.defaultOf holderId = true)
    (alone : ∀ y ∈ t.rows, y.defaultOf holderId = true → y.id = x.id) : OneDefault holderId t :=
  Or.inr (Table.Selects.of_id (p := fun a => a.defaultOf holderId) member hit alone).count_eq_one

/-- A holder with an account has a default, and no second one. -/
theorem OneDefault.default {a : HubPayoutAccount party} (one : OneDefault holderId t) (member : a ∈ t.rows)
    (holder : a.of holderId = true) : ∃ x, t.Selects (fun a => a.defaultOf holderId) x := by
  rcases one with none | one
  · exact absurd holder (List.countP_eq_zero.mp none a member)
  · exact Table.selects_of_count_eq_one one

/-- After an insert, the new account is the only default or the old default still is. -/
theorem OneDefault.insert {t' : Table (HubPayoutAccount party)} {x y : HubPayoutAccount party} (one : OneDefault holderId t)
    (stored : t.insert x = some (y, t')) (later : x.isDefault = false) (some : t.count (fun a => a.of holderId) ≠ 0) :
    OneDefault holderId t' := by
  refine Or.inr ?_
  have plain : y.defaultOf holderId = false := by
    rw [(Table.insert_cases stored).2.1]
    exact (congrArg (x.of holderId && ·) later).trans (Bool.and_false _)
  rw [Table.count_insert stored, plain]
  exact one.resolve_left some

theorem oneDefault_insert_first {t' : Table (HubPayoutAccount party)} {x y : HubPayoutAccount party}
    (stored : (t.update (fun a => a.of holderId) (setDefault false)).insert x = some (y, t'))
    (holder : x.holderId = holderId) (marked : x.isDefault = true) : OneDefault holderId t' := by
  have fresh : y = Record.withId _ x := (Table.insert_cases stored).2.1
  have hit : y.defaultOf holderId = true := by
    rw [fresh]
    exact Bool.and_eq_true_iff.mpr ⟨beq_iff_eq.mpr holder, marked⟩
  refine .of_alone ((Table.mem_insert stored).mpr (Or.inr rfl)) hit fun z member default => ?_
  rcases (Table.mem_insert stored).mp member with old | rfl
  · obtain ⟨z, -, ⟨-, rfl⟩ | ⟨miss, rfl⟩⟩ := Table.mem_update_cases old
    · exact absurd (Bool.and_eq_true_iff.mp default).2 Bool.false_ne_true
    · rw [defaultOf, miss] at default
      cases default
  · rfl

variable {a : HubPayoutAccount party} {input : HubPayoutAccountInput} {detailsJSON : String}

/-- An update that makes the account the default, after the flags of the others
have been cleared. -/
theorem oneDefault_update_cleared {isDefault : Bool} (member : a ∈ t.rows) (holder : a.of holderId = true)
    (marked : isDefault = true) :
    OneDefault holderId ((t.update (fun b => b.of holderId && b.id != a.id) (setDefault false)).update
      (fun b => b.id == a.id) (replace input detailsJSON isDefault)) := by
  have kept : a ∈ (t.update (fun b => b.of holderId && b.id != a.id) (setDefault false)).rows :=
    Table.mem_update.mpr ⟨a, member, Table.rewrite_neg (by simp)⟩
  have written : (replace input detailsJSON isDefault).set a ∈ _ :=
    Table.mem_update.mpr ⟨a, kept, Table.rewrite_pos (p := fun b => b.id == a.id) (beq_self_eq_true a.id)⟩
  refine .of_alone written (Bool.and_eq_true_iff.mpr ⟨holder, marked⟩) fun y present default => ?_
  obtain ⟨z, cleared, ⟨same, rfl⟩ | ⟨other, rfl⟩⟩ := Table.mem_update_cases present
  · exact beq_iff_eq.mp same
  · obtain ⟨z, -, ⟨-, rfl⟩ | ⟨miss, rfl⟩⟩ := Table.mem_update_cases cleared
    · exact absurd (Bool.and_eq_true_iff.mp default).2 Bool.false_ne_true
    · obtain ⟨mine, -⟩ := Bool.and_eq_true_iff.mp default
      simp [mine, beq_eq_false_iff_ne.mp other] at miss

/-- An update that leaves the flag as it is. -/
theorem OneDefault.update {isDefault : Bool} (one : OneDefault holderId t) (member : a ∈ t.rows)
    (same : isDefault = a.isDefault) :
    OneDefault holderId (t.update (fun b => b.id == a.id) (replace input detailsJSON isDefault)) := by
  have selected : t.Selects (fun b => b.id == a.id) a :=
    .of_id member (beq_self_eq_true a.id) fun y _ hit => beq_iff_eq.mp hit
  have held := selected.count_update (replace input detailsJSON isDefault) fun b => b.of holderId
  have marked := selected.count_update (replace input detailsJSON isDefault) fun b => b.defaultOf holderId
  have holder : ((replace input detailsJSON isDefault).set a).of holderId = a.of holderId := rfl
  have default : ((replace input detailsJSON isDefault).set a).defaultOf holderId = a.defaultOf holderId :=
    congrArg (a.of holderId && ·) same
  rw [holder] at held
  rw [default] at marked
  exact one.imp (fun none => by omega) fun one => by omega

theorem OneDefault.delete (one : OneDefault holderId t) (member : a ∈ t.rows) (holder : a.of holderId = true)
    (plain : a.isDefault = false) : OneDefault holderId (t.delete fun b => b.id == a.id) := by
  obtain ⟨x, selected⟩ := one.default member holder
  have hit : x.defaultOf holderId = true := (selected.2 x selected.1).mpr rfl
  have other : (x.id == a.id) = false := by
    refine beq_eq_false_iff_ne.mpr fun same => ?_
    rw [Table.eq_of_id selected.1 member same, defaultOf, plain, Bool.and_false] at hit
    cases hit
  refine .of_alone (Table.mem_delete.mpr ⟨selected.1, other⟩) hit fun y kept default => ?_
  rw [(selected.2 y (Table.mem_delete.mp kept).1).mp default]

/-- Once the default is deleted, any account of the holder may take its place. -/
theorem OneDefault.promote {b : HubPayoutAccount party} (one : OneDefault holderId t) (member : a ∈ t.rows)
    (marked : a.defaultOf holderId = true) (next : b ∈ (t.delete fun c => c.id == a.id).rows) (holder : b.of holderId = true) :
    OneDefault holderId ((t.delete fun c => c.id == a.id).update (fun c => c.id == b.id) (setDefault true)) := by
  obtain ⟨x, selected⟩ := one.default member (Bool.and_eq_true_iff.mp marked).1
  have only := (selected.2 a member).mp marked
  have written : (setDefault true).set b ∈ _ :=
    Table.mem_update.mpr ⟨b, next, Table.rewrite_pos (p := fun c => c.id == b.id) (beq_self_eq_true b.id)⟩
  refine .of_alone written (Bool.and_eq_true_iff.mpr ⟨holder, rfl⟩) fun y present default => ?_
  obtain ⟨z, kept, ⟨same, rfl⟩ | ⟨other, rfl⟩⟩ := Table.mem_update_cases present
  · exact beq_iff_eq.mp same
  · obtain ⟨stored, different⟩ := Table.mem_delete.mp kept
    rw [(selected.2 y stored).mp default, ← only, beq_self_eq_true] at different
    cases different

theorem mem_lowest {accounts : List (HubPayoutAccount party)} (found : lowest accounts = some a) : a ∈ accounts :=
  (List.perm_insertionSort _ accounts).mem_iff.mp (List.mem_of_mem_head? found)

theorem lowest_eq_none {accounts : List (HubPayoutAccount party)} (none : lowest accounts = none) : accounts = [] := by
  rw [lowest, List.head?_eq_none_iff] at none
  exact (none ▸ List.perm_insertionSort _ accounts).nil_eq.symm

end HubPayoutAccount

namespace Statements
variable {party : HubParty} {holderId id : Int} {view after : DB}

def DefaultKept (party : HubParty) [HasTable DB (HubPayoutAccount party)] (holderId : Int) (db : DB) : Prop :=
  HubPayoutAccount.OneDefault holderId (HasTable.table db : Table (HubPayoutAccount party))

theorem validateHubPayoutAssetTx_gives [HasTable DB (HubPayoutAsset party)] {assetId : Int} {u : Unit}
    (run : (validateHubPayoutAssetTx party holderId assetId).Gives view u after) : True ∧ after = view := by
  unfold validateHubPayoutAssetTx at run
  split at run
  · exact ⟨trivial, run.pure.2⟩
  · obtain ⟨n, -, checked⟩ := run.read fun _ _ => Gives.countWhere
    exact ⟨trivial, checked.failIf.2⟩

variable [HasTable DB (HubPayoutAccount party)]

theorem lockHubPayoutAccountTx_gives {account : HubPayoutAccount party}
    (run : (lockHubPayoutAccountTx party holderId id).Gives view account after) :
    (account ∈ (HasTable.table view : Table (HubPayoutAccount party)).rows ∧ account.id = id ∧
      account.of holderId = true) ∧ after = view := by
  obtain ⟨found, same⟩ := run.lockFirst
  have hit := Table.holds_of_first found
  simp only [Bool.and_eq_true, beq_iff_eq] at hit
  exact ⟨⟨Table.mem_of_first found, hit⟩, same⟩

section Parts
variable [HasTable DB (HubPayoutAsset party)] {env : Env} {input : HubPayoutAccountInput}

theorem addHubPayoutAccountTx_keeps (one : DefaultKept party holderId view) :
    (addHubPayoutAccountTx party env holderId input).Keeps (DefaultKept party holderId) view := by
  intro account after run
  obtain ⟨_, -, run⟩ := run.read fun _ _ => validateHubPayoutAssetTx_gives
  obtain ⟨detailsJSON, -, run⟩ := run.read fun _ _ => Gives.ofExcept
  obtain ⟨count, total, run⟩ := run.read fun _ _ => Gives.countWhere
  obtain ⟨_, _, cleared, stored⟩ := run.bind
  obtain ⟨t, inserted, rfl⟩ := stored.create
  unfold DefaultKept
  rw [HasTable.table_withTable]
  rcases cleared.onlyIf with ⟨marked, cleared⟩ | ⟨plain, rfl⟩
  · rw [cleared.updateWhere, HasTable.table_withTable] at inserted
    exact HubPayoutAccount.oneDefault_insert_first inserted rfl marked
  · have plain := Bool.eq_false_iff.mpr plain
    refine HubPayoutAccount.OneDefault.insert one inserted plain fun none => ?_
    rw [total, none] at plain
    simp at plain

theorem changeHubPayoutAccountTx_keeps (one : DefaultKept party holderId view) :
    (changeHubPayoutAccountTx party env holderId id input).Keeps (DefaultKept party holderId) view := by
  intro account after run
  obtain ⟨account, ⟨member, rfl, holder⟩, run⟩ := run.read fun _ _ => lockHubPayoutAccountTx_gives
  obtain ⟨_, -, run⟩ := run.read fun _ _ => validateHubPayoutAssetTx_gives
  obtain ⟨detailsJSON, -, run⟩ := run.read fun _ _ => Gives.ofExcept
  obtain ⟨_, _, cleared, run⟩ := run.bind
  obtain ⟨_, _, written, run⟩ := run.bind
  obtain ⟨-, rfl⟩ := run.findOr
  unfold DefaultKept
  rw [written.updateWhere, HasTable.table_withTable]
  rcases cleared.onlyIf with ⟨marked, cleared⟩ | ⟨plain, rfl⟩
  · rw [cleared.updateWhere, HasTable.table_withTable]
    refine HubPayoutAccount.oneDefault_update_cleared member holder ?_
    rw [marked, Bool.or_true]
  · refine HubPayoutAccount.OneDefault.update one member ?_
    rw [Bool.eq_false_iff.mpr plain, Bool.or_false]

end Parts

theorem removeHubPayoutAccountTx_keeps (one : DefaultKept party holderId view) :
    (removeHubPayoutAccountTx party holderId id).Keeps (DefaultKept party holderId) view := by
  intro u after run
  obtain ⟨account, ⟨member, rfl, holder⟩, run⟩ := run.read fun _ _ => lockHubPayoutAccountTx_gives
  obtain ⟨_, gone, deleted, run⟩ := run.bind
  have rows : (HasTable.table gone : Table (HubPayoutAccount party)) =
      (HasTable.table view : Table (HubPayoutAccount party)).delete fun a => a.id == account.id := by
    rw [deleted.deleteWhere, HasTable.table_withTable]
  rcases run.onlyIf with ⟨marked, run⟩ | ⟨plain, rfl⟩
  · obtain ⟨replacement, which, promoted⟩ := run.read fun _ _ => Gives.query
    cases replacement with
    | none =>
      obtain ⟨-, rfl⟩ := promoted.pure
      have empty := HubPayoutAccount.lowest_eq_none which.symm
      exact Or.inl (by rw [Table.count, List.countP_eq_length_filter, empty, List.length_nil])
    | some next =>
      obtain ⟨stored, mine⟩ := List.mem_filter.mp (HubPayoutAccount.mem_lowest which.symm)
      unfold DefaultKept
      rw [promoted.updateWhere, HasTable.table_withTable, rows]
      rw [rows] at stored
      exact HubPayoutAccount.OneDefault.promote one member (Bool.and_eq_true_iff.mpr ⟨holder, marked⟩) stored mine
  · unfold DefaultKept
    rw [rows]
    exact HubPayoutAccount.OneDefault.delete one member holder (Bool.eq_false_iff.mpr plain)

theorem authorizeProvider_gives {providerId ownerUserId : Int} {u : Unit}
    (run : (authorizeProvider providerId ownerUserId).Gives view u after) : True ∧ after = view := by
  obtain ⟨_, -, ends⟩ := run.read fun _ _ => Gives.findOr
  exact ⟨trivial, ends.pure.2⟩

theorem requireActiveTenantOwnerTx_gives {tenantId ownerUserId : Int} {u : Unit}
    (run : (requireActiveTenantOwnerTx tenantId ownerUserId).Gives view u after) : True ∧ after = view := by
  obtain ⟨_, -, ends⟩ := run.read fun _ _ => Gives.require
  exact ⟨trivial, ends.pure.2⟩

/-- The tenant's row is locked before anything else happens. -/
theorem authorizeTenant_enters {α : Type} {P : DB → Prop} {tenantId ownerUserId : Int} {work : Unit → Statements α}
    (keeps : ∀ view, P view → (work ()).Keeps P view) :
    (authorizeTenant tenantId ownerUserId >>= work).Enters P (.tenant tenantId) := by
  unfold authorizeTenant lockHubTenantFinanceTx
  simp only [Program.bind_assoc]
  refine Enters.failIf fun _ => Enters.lockFirst (fun tenant hit => ?_) fun view tenant holds _ => ?_
  · simp only [Bool.and_eq_true, beq_iff_eq] at hit
    rw [hit.1]
  · intro a after run
    change (requireActiveTenantOwnerTx tenantId ownerUserId >>= work).Gives view a after at run
    obtain ⟨_, -, tail⟩ := run.read fun _ _ => requireActiveTenantOwnerTx_gives
    exact keeps view holds a after tail

end Statements

namespace PayoutCall
variable {env : Env} {holderId : Int}

theorem providerPayout_keeps (call : PayoutCall) {db : DB} (one : Statements.DefaultKept .provider holderId db) :
    (providerPayout env holderId call).Keeps (Statements.DefaultKept .provider holderId) db := by
  have authorized {α : Type} {ownerUserId : Int} {work : Unit → Statements α}
      (keeps : (work ()).Keeps (Statements.DefaultKept .provider holderId) db) :
      (Statements.authorizeProvider holderId ownerUserId >>= work).Keeps (Statements.DefaultKept .provider holderId) db := by
    intro a after run
    obtain ⟨_, -, tail⟩ := run.read fun _ _ => Statements.authorizeProvider_gives
    exact keeps a after tail
  cases call with
  | create ownerUserId input =>
    refine Keeps.pure_comp (.failIf fun _ => .ofExcept fun input _ => authorized ?_)
    exact Statements.addHubPayoutAccountTx_keeps one
  | update ownerUserId id input =>
    refine Keeps.pure_comp (.failIf fun _ => .ofExcept fun input _ => authorized ?_)
    exact Statements.changeHubPayoutAccountTx_keeps one
  | delete ownerUserId id =>
    refine Keeps.pure_comp (f := fun _ => none) (.failIf fun _ => authorized ?_)
    exact Statements.removeHubPayoutAccountTx_keeps one

theorem tenantPayout_enters (call : PayoutCall) :
    (tenantPayout env holderId call).Enters (Statements.DefaultKept .tenant holderId) (.tenant holderId) := by
  cases call with
  | create ownerUserId input =>
    change Enters _ _ (Statements.createHubPayoutAccount _ _ _ _ _ _ >>= _)
    unfold Statements.createHubPayoutAccount
    simp only [Program.bind_assoc]
    refine .failIf fun _ => .ofExcept fun input _ => Statements.authorizeTenant_enters fun view one => ?_
    exact Keeps.pure_comp (Statements.addHubPayoutAccountTx_keeps one)
  | update ownerUserId id input =>
    change Enters _ _ (Statements.updateHubPayoutAccount _ _ _ _ _ _ _ >>= _)
    unfold Statements.updateHubPayoutAccount
    simp only [Program.bind_assoc]
    refine .failIf fun _ => .ofExcept fun input _ => Statements.authorizeTenant_enters fun view one => ?_
    exact Keeps.pure_comp (Statements.changeHubPayoutAccountTx_keeps one)
  | delete ownerUserId id =>
    change Enters _ _ (Statements.deleteHubPayoutAccount _ _ _ _ _ >>= _)
    unfold Statements.deleteHubPayoutAccount
    simp only [Program.bind_assoc]
    refine .failIf fun _ => Statements.authorizeTenant_enters fun view one => ?_
    exact Keeps.pure_comp (f := fun _ => none) (Statements.removeHubPayoutAccountTx_keeps one)

end PayoutCall

/-- From no accounts on, in every state of every run: a tenant with accounts has
one default, and so has a provider whose calls come one after the other. -/
theorem payout_accounts_one_default (env : Env) (holderId : Int) (db : DB) (choices : List (Schedule PayoutCall)) :
    (db.hubTenantPayoutAccounts.count (fun a => a.of holderId) = 0 →
      HubPayoutAccount.OneDefault holderId
        ((interleaving (tenantPayout env holderId)).run ⟨db, [], []⟩ choices).committed.hubTenantPayoutAccounts) ∧
    (db.hubProviderPayoutAccounts.count (fun a => a.of holderId) = 0 →
      (interleaving (providerPayout env holderId)).Permits OneAtATime ⟨db, [], []⟩ choices →
      HubPayoutAccount.OneDefault holderId
        ((interleaving (providerPayout env holderId)).run ⟨db, [], []⟩ choices).committed.hubProviderPayoutAccounts) := by
  constructor
  · intro none
    refine keeps_of_guarded (P := Statements.DefaultKept .tenant holderId) (fun _ => some (.tenant holderId))
      (fun call key same => ?_) (fun _ same => nomatch same) (fun _ _ _ _ _ => ⟨_, rfl, rfl⟩) (Machine.permits_true _ _)
      (Or.inl none)
    cases same
    exact call.tenantPayout_enters
  · intro none permits
    refine keeps_of_guarded (P := Statements.DefaultKept .provider holderId) (fun _ => Option.none)
      (fun _ _ same => nomatch same) (fun call _ db one => call.providerPayout_keeps one)
      (fun s c alone d member => ?_) permits (Or.inl none)
    rw [show s.active = [] from alone] at member
    cases member

def payoutDB : DB where
  users := .single { id := 7 }
  hubProviders := .single { id := 1, ownerUserId := 7, status := .active }
  tenants := .single { id := 1, status := .active }
  tenantMembers := .single ⟨2, 1, 7, .owner, .active⟩

def alipayInput : HubPayoutAccountInput where
  method := "alipay"
  details := ⟨1, "owner", "account", "", "", ""⟩

/-- Two calls for a first account, each of which counts the accounts before the
other one commits. -/
def firstAccounts : List (Schedule PayoutCall) :=
  [.start (.create 7 alipayInput), .start (.create 7 alipayInput)] ++ List.replicate 4 (.proceed 0) ++
    List.replicate 4 (.proceed 1) ++ [.proceed 0, .proceed 0]

/-- A first account and one that takes its place as the default. -/
def accountAfterAccount : List (Schedule PayoutCall) :=
  .start (.create 7 alipayInput) :: List.replicate 5 (.proceed 0) ++
    .start (.create 7 { alipayInput with isDefault := true }) :: List.replicate 5 (.proceed 0)

theorem payout_accounts_one_default_of_two :
    HubPayoutAccount.OneDefault 1 ((interleaving (tenantPayout plainEnv 1)).run ⟨payoutDB, [], []⟩
        (firstAccounts ++ List.replicate 10 (.proceed 0))).committed.hubTenantPayoutAccounts ∧
      ((interleaving (tenantPayout plainEnv 1)).run ⟨payoutDB, [], []⟩
        (firstAccounts ++ List.replicate 10 (.proceed 0))).committed.hubTenantPayoutAccounts.count (fun a => a.of 1) = 2 ∧
      HubPayoutAccount.OneDefault 1
        ((interleaving (providerPayout plainEnv 1)).run ⟨payoutDB, [], []⟩ accountAfterAccount).committed.hubProviderPayoutAccounts ∧
      ((interleaving (providerPayout plainEnv 1)).run ⟨payoutDB, [], []⟩
        accountAfterAccount).committed.hubProviderPayoutAccounts.count (fun a => a.of 1) = 2 :=
  ⟨(payout_accounts_one_default plainEnv 1 payoutDB _).1 rfl, by decide +kernel,
    (payout_accounts_one_default plainEnv 1 payoutDB accountAfterAccount).2 rfl (by decide +kernel), by decide +kernel⟩

theorem first_accounts_two_defaults :
    let s := (interleaving (providerPayout plainEnv 1)).run ⟨payoutDB, [], []⟩ firstAccounts
    payoutDB.hubProviderPayoutAccounts.count (fun a => a.of 1) = 0 ∧ s.active.length = 0 ∧ s.finished.length = 2 ∧
      s.committed.hubProviderPayoutAccounts.count (fun a => a.defaultOf 1) = 2 ∧
      ¬HubPayoutAccount.OneDefault 1 s.committed.hubProviderPayoutAccounts := by
  refine ⟨rfl, by decide +kernel, by decide +kernel, by decide +kernel, ?_⟩
  rintro (none | one)
  · exact absurd none (by decide +kernel)
  · exact absurd one (by decide +kernel)

end LLMHub
