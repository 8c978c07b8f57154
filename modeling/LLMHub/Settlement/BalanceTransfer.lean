import LLMHub.Settlement.Balances
import LLMHub.Billing.Charge

namespace LLMHub

open Store Action Go HubProviderEarning

/-- What the two transfer operations tell requests apart by. -/
structure TransferKey where
  party : HubParty
  holderId : Int
  ownerUserId : Int
  idempotencyKey : String
  deriving DecidableEq

def HubParty.transferPrefix : HubParty → String
  | .provider => "balance-transfer:"
  | .tenant => "tenant-balance-transfer:"

def TransferKey.requestId (key : TransferKey) : String :=
  key.party.transferPrefix ++ toString key.holderId ++ ":" ++ toString key.ownerUserId ++ ":" ++ key.idempotencyKey

/-- The operation of either kind. -/
def createBalanceTransfer (env : Env) (party : HubParty) (holderId ownerUserId amountQuota : Int)
    (idempotencyKey : String) : Command HubProviderEarning :=
  match party with
  | .provider => createHubProviderBalanceTransfer env holderId ownerUserId amountQuota idempotencyKey
  | .tenant => createHubTenantBalanceTransfer env holderId ownerUserId amountQuota idempotencyKey

theorem colon_notMem_decimal (n : Int) : ':' ∉ (toString n).toList := by
  intro member
  rcases mem_decimal member with digit | minus
  · exact absurd digit (by decide)
  · exact absurd minus (by decide)

theorem transferPrefix_inj {a b : HubParty} {r r' : List Char}
    (same : a.transferPrefix.toList ++ r = b.transferPrefix.toList ++ r') : a = b ∧ r = r' := by
  cases a <;> cases b
  · exact ⟨rfl, List.append_cancel_left same⟩
  · exact absurd (List.cons.inj same).1 (by decide)
  · exact absurd (List.cons.inj same).1 (by decide)
  · exact ⟨rfl, List.append_cancel_left same⟩

/-- The key comes last, so colons in it do no harm. -/
theorem TransferKey.requestId_injective : Function.Injective TransferKey.requestId := by
  rintro ⟨party, holder, owner, key⟩ ⟨party', holder', owner', key'⟩ same
  have chars := congrArg String.toList same
  simp only [requestId, String.toList_append, List.append_assoc] at chars
  obtain ⟨rfl, numbers⟩ := transferPrefix_inj chars
  obtain ⟨holders, rest⟩ := separated_inj (colon_notMem_decimal holder) (colon_notMem_decimal holder') numbers
  obtain ⟨owners, keys⟩ := separated_inj (colon_notMem_decimal owner) (colon_notMem_decimal owner') rest
  obtain rfl := decimal_injective (String.toList_inj.mp holders)
  obtain rfl := decimal_injective (String.toList_inj.mp owners)
  obtain rfl := String.toList_inj.mp keys
  rfl

/-- The checks on the arguments of a transfer. -/
structure TransferKey.Accepted (key : TransferKey) : Prop where
  holder : 0 < key.holderId
  owner : 0 < key.ownerUserId
  nonempty : key.idempotencyKey ≠ ""
  short : key.idempotencyKey.utf8ByteSize ≤ 48

/-- The checks on the account: the provider of this owner, or the active tenant
with this user as an active owner. -/
def TransferKey.Owned (key : TransferKey) (db : DB) : Prop :=
  match key.party with
  | .provider => ∃ provider, db.hubProviders.first (fun p => p.id == key.holderId && p.ownerUserId == key.ownerUserId) =
      some provider
  | .tenant => (∃ tenant, db.tenants.first (fun t => t.id == key.holderId && t.status == .active) = some tenant) ∧
      ∃ member, db.tenantMembers.first
        (fun m => activeTenantOwner key.holderId db m && m.userId == key.ownerUserId) = some member

/-- A transfer that was carried out, with the time and the row id it got. -/
structure Booking where
  key : TransferKey
  amount : Int
  madeAt : Int
  id : Int

def Booking.draft (b : Booking) : HubProviderEarning :=
  match b.key.party with
  | .provider => (providerTransferRow b.madeAt b.key.holderId b.key.ownerUserId b.amount b.key.requestId).beforeCreate b.madeAt
  | .tenant => (tenantTransferRow b.madeAt b.key.holderId b.key.ownerUserId b.amount b.key.requestId).beforeCreate b.madeAt

def Booking.row (b : Booking) : HubProviderEarning := Record.withId b.id b.draft

/-- `ProviderIncomeQuota + ResellerNetIncomeQuota`. -/
def HubProviderEarning.transferred (e : HubProviderEarning) : Int := e.providerIncomeQuota + e.resellerNetIncomeQuota

section Row
variable (b : Booking)

theorem Booking.row_requestId : b.row.requestId = b.key.requestId := by
  unfold row draft
  split <;> rfl

theorem Booking.row_transferred : b.row.transferred = -b.amount := by
  unfold row draft
  split <;> simp [transferred, Record.withId, providerTransferRow, tenantTransferRow, beforeCreate]

theorem Booking.row_entryType : b.row.entryType = .balanceTransfer := by
  unfold row draft
  split <;> rfl

end Row

theorem activeTenantOwner_credit (tenantId userId amount : Int) (db : DB) (t : Table HubProviderEarning) :
    activeTenantOwner tenantId { db with
      hubProviderEarnings := t
      users := db.users.update (userIs userId) (User.credit amount) } = activeTenantOwner tenantId db := by
  funext m
  have same : ∀ u, (fun u : User => u.id == m.userId && u.status == userStatusEnabled && !u.deleted)
      (Table.rewrite (userIs userId) (User.credit amount) u) =
      (u.id == m.userId && u.status == userStatusEnabled && !u.deleted) := by
    intro u
    unfold Table.rewrite
    split <;> rfl
  have rows : (db.users.update (userIs userId) (User.credit amount)).rows.any
      (fun u => u.id == m.userId && u.status == userStatusEnabled && !u.deleted) =
      db.users.rows.any fun u => u.id == m.userId && u.status == userStatusEnabled && !u.deleted := by
    change (db.users.rows.map _).any _ = _
    rw [List.any_map]
    exact congrArg _ (funext same)
  unfold activeTenantOwner
  rw [rows]

def Booking.apply (b : Booking) (t : Table HubProviderEarning) (db : DB) : DB :=
  { db with
    hubProviderEarnings := t
    users := db.users.update (userIs b.key.ownerUserId) (User.credit b.amount) }

variable {key : TransferKey}

theorem TransferKey.Owned.apply {db : DB} (owned : key.Owned db) (b : Booking)
    (t : Table HubProviderEarning) : key.Owned (b.apply t db) := by
  unfold TransferKey.Owned at *
  split at owned
  · exact owned
  · unfold Booking.apply
    rw [activeTenantOwner_credit]
    exact owned

/-- What a call that changes the database does. -/
structure Booking.Step (b : Booking) (db db' : DB) : Prop where
  accepted : b.key.Accepted
  positive : 0 < b.amount
  owned : b.key.Owned db
  fresh : db.hubProviderEarnings.first (requestIdIs b.key.requestId) = none
  written : ∃ t, db.hubProviderEarnings.insert b.draft = some (b.row, t) ∧
    db.users.count (userIs b.key.ownerUserId) = 1 ∧ db' = b.apply t db

/-- A call is answered with the row under its request id, or it books a transfer
that was not in the ledger. -/
def TransferKey.Answered (key : TransferKey) (amount : Int) (row : HubProviderEarning) (db db' : DB) : Prop :=
  (db.hubProviderEarnings.first (requestIdIs key.requestId) = some row ∧ db' = db) ∨
    ∃ b : Booking, b.key = key ∧ b.amount = amount ∧ b.row = row ∧ b.Step db db'

section Calls
variable {env : Env} {db db' : DB} {ownerUserId amountQuota : Int} {idempotencyKey : String} {row : HubProviderEarning}

theorem createHubProviderBalanceTransfer_returns {providerId : Int}
    (run : (createHubProviderBalanceTransfer env providerId ownerUserId amountQuota idempotencyKey).Returns db row db') :
    TransferKey.Answered ⟨.provider, providerId, ownerUserId, trimSpace idempotencyKey⟩ amountQuota row db db' := by
  obtain ⟨valid, run⟩ := run.failIf_bind
  simp only [not_or, not_le, gt_iff_lt, not_lt] at valid
  obtain ⟨holder, owner, positive, nonempty, short⟩ := valid
  obtain ⟨provider, found, run⟩ := run.transaction.findOr_bind
  have run := run.find_bind
  split at run
  · rename_i existing stored
    obtain ⟨-, run⟩ := run.failIf_bind
    obtain ⟨rfl, same⟩ := run.pure
    exact Or.inl ⟨stored, same⟩
  · rename_i fresh
    obtain ⟨-, run⟩ := checkProviderFunds_bind run
    obtain ⟨t, stored, single, rfl⟩ := transfer_returns run
    have hit := Table.holds_of_first found
    simp only [Bool.and_eq_true, beq_iff_eq] at hit
    rw [hit.1] at stored
    obtain rfl := (Table.insert_cases stored).2.1
    exact Or.inr ⟨⟨⟨.provider, providerId, ownerUserId, trimSpace idempotencyKey⟩, amountQuota, env.now,
      db.hubProviderEarnings.nextId⟩, rfl, rfl, rfl, ⟨holder, owner, nonempty, short⟩, positive, ⟨provider, found⟩,
      fresh, t, stored, single, rfl⟩

theorem createHubTenantBalanceTransfer_returns {tenantId : Int}
    (run : (createHubTenantBalanceTransfer env tenantId ownerUserId amountQuota idempotencyKey).Returns db row db') :
    TransferKey.Answered ⟨.tenant, tenantId, ownerUserId, trimSpace idempotencyKey⟩ amountQuota row db db' := by
  obtain ⟨valid, run⟩ := run.failIf_bind
  simp only [not_or, not_le, gt_iff_lt, not_lt] at valid
  obtain ⟨holder, owner, positive, nonempty, short⟩ := valid
  obtain ⟨_, mid, locked, rest⟩ := run.transaction.bind
  obtain ⟨-, locked⟩ := locked.failIf_bind
  obtain ⟨tenant, active, locked⟩ := locked.findOr_bind
  obtain ⟨-, rfl⟩ := locked.pure
  obtain ⟨_, late, required, after⟩ := rest.bind
  obtain ⟨member, joined, required⟩ := required.require_bind
  obtain ⟨-, rfl⟩ := required.pure
  have run := after.find_bind
  split at run
  · rename_i existing stored
    obtain ⟨-, run⟩ := run.failIf_bind
    obtain ⟨rfl, same⟩ := run.pure
    exact Or.inl ⟨stored, same⟩
  · rename_i fresh
    obtain ⟨-, run⟩ := checkTenantFunds_bind run
    obtain ⟨t, stored, single, rfl⟩ := transfer_returns run
    obtain rfl := (Table.insert_cases stored).2.1
    exact Or.inr ⟨⟨⟨.tenant, tenantId, ownerUserId, trimSpace idempotencyKey⟩, amountQuota, env.now,
      late.hubProviderEarnings.nextId⟩, rfl, rfl, rfl, ⟨holder, owner, nonempty, short⟩, positive,
      ⟨⟨tenant, active⟩, member, joined⟩, fresh, t, stored, single, rfl⟩

theorem createBalanceTransfer_returns {party : HubParty} {holderId : Int}
    (run : (createBalanceTransfer env party holderId ownerUserId amountQuota idempotencyKey).Returns db row db') :
    TransferKey.Answered ⟨party, holderId, ownerUserId, trimSpace idempotencyKey⟩ amountQuota row db db' := by
  cases party with
  | provider => exact createHubProviderBalanceTransfer_returns run
  | tenant => exact createHubTenantBalanceTransfer_returns run

theorem createBalanceTransfer_atomic (env : Env) (party : HubParty) (holderId ownerUserId amountQuota : Int)
    (idempotencyKey : String) : (createBalanceTransfer env party holderId ownerUserId amountQuota idempotencyKey).Atomic := by
  cases party with
  | provider | tenant => exact .read (.failIf _ _) fun _ => .transaction _

end Calls

def creditedTo (userId : Int) (bookings : List Booking) : Int :=
  (bookings.map fun b => if b.key.ownerUserId = userId then b.amount else 0).sum

/-- From `start` to `db` exactly these transfers were carried out: each has its
row, each owner was credited, and nothing else happened to the ledger and the
wallets. -/
structure Booked (start : DB) (bookings : List Booking) (db : DB) : Prop where
  rows : db.hubProviderEarnings.rows = start.hubProviderEarnings.rows ++ bookings.map Booking.row
  distinct : (bookings.map Booking.key).Nodup
  checked : ∀ b ∈ bookings, b.key.Accepted ∧ 0 < b.amount ∧ b.key.Owned db
  wallets : walletPosting.Posted (walletIn start.users) (walletIn db.users) fun userId => -creditedTo userId bookings
  total : db.users.sum (fun _ => true) User.quota =
    start.users.sum (fun _ => true) User.quota + (bookings.map Booking.amount).sum

theorem Booked.refl (start : DB) : Booked start [] start where
  rows := (List.append_nil _).symm
  distinct := .nil
  checked _ member := absurd member List.not_mem_nil
  wallets := .refl _ _
  total := (Int.add_zero _).symm

theorem selects_user {t : Table User} {u : User} {userId : Int} (found : t.first (userIs userId) = some u) :
    t.Selects (userIs userId) u :=
  .of_id (Table.mem_of_first found) (Table.holds_of_first found) fun _ _ named =>
    (userIs_id named).trans (userIs_id (Table.holds_of_first found)).symm

section Step
variable {start db db' : DB} {bookings : List Booking} {b : Booking}

theorem Booked.wallets_step (booked : Booked start bookings db) {u : User} {t : Table HubProviderEarning}
    (found : db.users.first (userIs b.key.ownerUserId) = some u) :
    walletPosting.Posted (walletIn start.users) (walletIn (b.apply t db).users)
      fun userId => -creditedTo userId (bookings ++ [b]) := by
  have credit : walletPosting.Posted (walletIn db.users) (walletIn (b.apply t db).users)
      (Pi.single b.key.ownerUserId (-b.amount)) :=
    walletIn_posted found (Table.holds_of_first found) (fun _ named => named) (fun _ _ => rfl) (Int.sub_neg _ _).symm
  have both := booked.wallets.trans credit
  have same : ((fun userId => -creditedTo userId bookings) + Pi.single b.key.ownerUserId (-b.amount)) =
      fun userId => -creditedTo userId (bookings ++ [b]) := by
    funext userId
    rw [Pi.add_apply, Pi.single_apply]
    simp only [creditedTo, List.map_append, List.sum_append, List.map_cons, List.map_nil, List.sum_cons, List.sum_nil]
    rcases eq_or_ne userId b.key.ownerUserId with rfl | other
    · simp only [if_true]
      omega
    · rw [if_neg other, if_neg (Ne.symm other)]
      omega
  rwa [same] at both

/-- The one user row the credit hits. -/
theorem Booking.Step.owner (step : b.Step db db') : ∃ u, db.users.first (userIs b.key.ownerUserId) = some u := by
  obtain ⟨t, -, single, -⟩ := step.written
  cases found : db.users.first (userIs b.key.ownerUserId) with
  | some u => exact ⟨u, rfl⟩
  | none =>
    rw [Table.count_eq_zero (Table.first_eq_none.mp found)] at single
    cases single

/-- A booked key was not booked before: its row would have been found. -/
theorem Booked.unbooked (booked : Booked start bookings db)
    (fresh : db.hubProviderEarnings.first (requestIdIs b.key.requestId) = none) : b.key ∉ bookings.map Booking.key := by
  intro member
  obtain ⟨other, inside, same⟩ := List.mem_map.mp member
  have stored : other.row ∈ db.hubProviderEarnings.rows := by
    rw [booked.rows]
    exact List.mem_append_right _ (List.mem_map_of_mem inside)
  have miss := Table.first_eq_none.mp fresh other.row stored
  simp [requestIdIs, other.row_requestId, same] at miss

theorem Booked.step (booked : Booked start bookings db) (step : b.Step db db') :
    Booked start (bookings ++ [b]) db' := by
  obtain ⟨u, found⟩ := step.owner
  obtain ⟨t, stored, -, rfl⟩ := step.written
  refine ⟨?_, ?_, ?_, booked.wallets_step found, ?_⟩
  · change t.rows = _
    rw [(Table.insert_cases stored).2.2, booked.rows, List.map_append, List.append_assoc]
    rfl
  · rw [List.map_append]
    refine List.nodup_append.mpr ⟨booked.distinct, List.nodup_singleton _, ?_⟩
    intro key member other last same
    rw [List.mem_singleton.mp last] at same
    exact booked.unbooked step.fresh (same ▸ member)
  · intro other member
    rcases List.mem_append.mp member with old | last
    · obtain ⟨accepted, positive, owned⟩ := booked.checked other old
      exact ⟨accepted, positive, owned.apply b t⟩
    · obtain rfl := List.mem_singleton.mp last
      exact ⟨step.accepted, step.positive, step.owned.apply other t⟩
  · change (db.users.update _ _).sum _ _ = _
    rw [(selects_user found).sum_update, booked.total, List.map_append, List.sum_append]
    simp only [if_true, User.credit, List.map_cons, List.map_nil, List.sum_cons, List.sum_nil]
    omega

end Step

section Replay
variable {env : Env} {db db' : DB} {b : Booking} {amountQuota : Int} {idempotencyKey : String}

/-- The answer to a call whose key is booked: the row for the same amount, a
conflict for another one. -/
def Booking.answer (b : Booking) (amountQuota : Int) : Except ModelError HubProviderEarning :=
  if amountQuota = b.amount then .ok b.row else .error .hubProviderEarningReferenceConflict

theorem TransferKey.Accepted.passes (accepted : key.Accepted) (positive : 0 < amountQuota)
    (trimmed : trimSpace idempotencyKey = key.idempotencyKey) :
    ¬(key.holderId ≤ 0 ∨ key.ownerUserId ≤ 0 ∨ amountQuota ≤ 0 ∨ trimSpace idempotencyKey = "" ∨
      (trimSpace idempotencyKey).utf8ByteSize > 48) := by
  rw [trimmed]
  simp only [not_or, not_le, gt_iff_lt, not_lt]
  exact ⟨accepted.holder, accepted.owner, positive, accepted.nonempty, accepted.short⟩

theorem failIf_answer {existing : HubProviderEarning} {c : Prop} [Decidable c] {e : ModelError} :
    (do failIf c e; pure existing : Command HubProviderEarning) ⟨db, []⟩ =
      (if c then .error e else .ok existing, ⟨db, []⟩) := by
  by_cases refused : c
  · rw [bind_error (failIf_pos refused _ _), if_pos refused]
  · rw [bind_ok (failIf_neg refused _ _), if_neg refused, pure_apply]

theorem Booking.answer_eq {c : Prop} [Decidable c] (differs : c ↔ amountQuota ≠ b.amount) :
    (if c then .error .hubProviderEarningReferenceConflict else .ok b.row : Except ModelError HubProviderEarning) =
      b.answer amountQuota := by
  unfold Booking.answer
  by_cases same : amountQuota = b.amount
  · rw [if_pos same, if_neg (fun other => differs.mp other same)]
  · rw [if_neg same, if_pos (differs.mpr same)]

variable (accepted : b.key.Accepted) (owned : b.key.Owned db)
  (stored : db.hubProviderEarnings.first (requestIdIs b.key.requestId) = some b.row) (positive : 0 < amountQuota)
  (trimmed : trimSpace idempotencyKey = b.key.idempotencyKey)
include accepted owned stored positive trimmed

theorem createHubProviderBalanceTransfer_replay (kind : b.key.party = .provider) :
    createHubProviderBalanceTransfer env b.key.holderId b.key.ownerUserId amountQuota idempotencyKey ⟨db, []⟩ =
      (b.answer amountQuota, ⟨db, []⟩) := by
  have passes := accepted.passes positive trimmed
  simp only [TransferKey.Owned, kind] at owned
  obtain ⟨provider, found⟩ := owned
  have hit := Table.holds_of_first found
  simp only [Bool.and_eq_true, beq_iff_eq] at hit
  simp only [TransferKey.requestId, HubParty.transferPrefix, kind] at stored
  unfold createHubProviderBalanceTransfer
  rw [bind_ok (failIf_neg passes _ _)]
  refine transaction_run ?_ rfl
  rw [bind_ok (findOr_run found _), bind_ok (find_run _ _), trimmed]
  simp only [HasTable.table, stored]
  rw [failIf_answer, Booking.answer_eq]
  simp only [Booking.row, Booking.draft, kind, hit.1]
  simp [Record.withId, beforeCreate, providerTransferRow, eq_comm]

theorem createHubTenantBalanceTransfer_replay (kind : b.key.party = .tenant) :
    createHubTenantBalanceTransfer env b.key.holderId b.key.ownerUserId amountQuota idempotencyKey ⟨db, []⟩ =
      (b.answer amountQuota, ⟨db, []⟩) := by
  have passes := accepted.passes positive trimmed
  simp only [TransferKey.Owned, kind] at owned
  obtain ⟨⟨tenant, active⟩, member, joined⟩ := owned
  simp only [TransferKey.requestId, HubParty.transferPrefix, kind] at stored
  have authorized : FinanceOwner db b.key.holderId b.key.ownerUserId :=
    ⟨accepted.holder, ⟨tenant, active⟩, member, joined⟩
  unfold createHubTenantBalanceTransfer
  rw [bind_ok (failIf_neg passes _ _)]
  refine transaction_run ?_ rfl
  rw [bind_ok authorized.lock, bind_ok authorized.require, bind_ok (find_run _ _), trimmed]
  simp only [HasTable.table, stored]
  rw [failIf_answer, Booking.answer_eq]
  simp only [Booking.row, Booking.draft, kind]
  simp [Record.withId, beforeCreate, tenantTransferRow, eq_comm]

theorem createBalanceTransfer_replay :
    createBalanceTransfer env b.key.party b.key.holderId b.key.ownerUserId amountQuota idempotencyKey ⟨db, []⟩ =
      (b.answer amountQuota, ⟨db, []⟩) := by
  cases kind : b.key.party with
  | provider => exact createHubProviderBalanceTransfer_replay accepted owned stored positive trimmed kind
  | tenant => exact createHubTenantBalanceTransfer_replay accepted owned stored positive trimmed kind

end Replay

/-- One call of either operation, under any choice of driver failures. -/
inductive TransferCall (db db' : DB) : Prop
  | call (env : Env) (party : HubParty) (holderId ownerUserId amountQuota : Int) (idempotencyKey : String)
      (left : (createBalanceTransfer env party holderId ownerUserId amountQuota idempotencyKey).Leaves db db')

theorem TransferCall.booked {start db db' : DB} {bookings : List Booking} (call : TransferCall db db')
    (booked : Booked start bookings db) : ∃ more, Booked start (bookings ++ more) db' := by
  obtain ⟨env, party, holderId, ownerUserId, amountQuota, idempotencyKey, left⟩ := call
  have unchanged : ∃ more, Booked start (bookings ++ more) db := ⟨[], (List.append_nil bookings).symm ▸ booked⟩
  rcases (createBalanceTransfer_atomic env party holderId ownerUserId amountQuota idempotencyKey).leaves left with
    rfl | ⟨row, run⟩
  · exact unchanged
  · rcases createBalanceTransfer_returns run with ⟨-, rfl⟩ | ⟨b, -, -, -, step⟩
    · exact unchanged
    · exact ⟨[b], booked.step step⟩

theorem transferRun_booked {start db : DB} (run : Relation.ReflTransGen TransferCall start db) :
    ∃ bookings, Booked start bookings db := by
  induction run with
  | refl => exact ⟨[], .refl start⟩
  | tail _ call ih =>
    obtain ⟨bookings, booked⟩ := ih
    obtain ⟨more, booked⟩ := call.booked booked
    exact ⟨_, booked⟩

theorem Booked.stored {start db : DB} {bookings : List Booking} {b : Booking} (booked : Booked start bookings db)
    (member : b ∈ bookings) : db.hubProviderEarnings.first (requestIdIs b.key.requestId) = some b.row := by
  have inside : b.row ∈ db.hubProviderEarnings.rows := by
    rw [booked.rows]
    exact List.mem_append_right _ (List.mem_map_of_mem member)
  have selected := selects_requestId inside
  rw [b.row_requestId] at selected
  exact selected.first

def transferredIn (t : Table HubProviderEarning) : Int :=
  t.sum (fun e => e.entryType == .balanceTransfer) transferred

theorem Booked.transferred {start db : DB} {bookings : List Booking} (booked : Booked start bookings db) :
    transferredIn db.hubProviderEarnings =
      transferredIn start.hubProviderEarnings - (bookings.map Booking.amount).sum := by
  have each : ∀ bookings : List Booking, ((bookings.map Booking.row).map fun e : HubProviderEarning =>
      if e.entryType == .balanceTransfer then e.transferred else 0).sum = -(bookings.map Booking.amount).sum := by
    intro bookings
    induction bookings with
    | nil => rfl
    | cons b rest ih =>
      simp only [List.map_cons, List.sum_cons, ih, b.row_entryType, b.row_transferred, beq_self_eq_true, if_true]
      omega
  unfold transferredIn Table.sum
  rw [booked.rows, List.map_append, List.sum_append, each]
  omega

theorem creditedTo_pos {bookings : List Booking} (positive : ∀ b ∈ bookings, 0 < b.amount) {b : Booking}
    (member : b ∈ bookings) : 0 < creditedTo b.key.ownerUserId bookings := by
  have parts : ∀ n ∈ bookings.map fun c => if c.key.ownerUserId = b.key.ownerUserId then c.amount else 0, 0 ≤ n := by
    intro n inside
    obtain ⟨c, here, rfl⟩ := List.mem_map.mp inside
    split
    · exact (positive c here).le
    · exact le_rfl
  have share := List.single_le_sum parts _ (List.mem_map_of_mem member)
  rw [if_pos rfl] at share
  exact lt_of_lt_of_le (positive b member) share

theorem requestId_count_le (t : Table HubProviderEarning) (requestId : String) : t.count (requestIdIs requestId) ≤ 1 := by
  cases found : t.first (requestIdIs requestId) with
  | none =>
    rw [Table.count_eq_zero (Table.first_eq_none.mp found)]
    exact Nat.zero_le 1
  | some e =>
    have selected := selects_requestId (Table.mem_of_first found)
    rw [requestId_of_first found] at selected
    exact selected.count_eq_one.le

/-- Balance transfers happen exactly once: the calls of a run amount to a list
of bookings with different keys, one row and one credit for each, and a call
with a booked key is answered from the ledger. -/
theorem balance_transfers_exactly_once {start db : DB} (run : Relation.ReflTransGen TransferCall start db) :
    Function.Injective TransferKey.requestId ∧ ∃ bookings : List Booking,
      db.hubProviderEarnings.rows = start.hubProviderEarnings.rows ++ bookings.map Booking.row ∧
      (bookings.map Booking.key).Nodup ∧
      (∀ key : TransferKey, db.hubProviderEarnings.count (requestIdIs key.requestId) ≤ 1) ∧
      (∀ userId, walletIn db.users userId = (walletIn start.users userId).map (· + creditedTo userId bookings)) ∧
      (∀ b ∈ bookings, 0 < b.amount ∧ (walletIn db.users b.key.ownerUserId).isSome) ∧
      db.users.sum (fun _ => true) User.quota - start.users.sum (fun _ => true) User.quota =
        -(transferredIn db.hubProviderEarnings - transferredIn start.hubProviderEarnings) ∧
      (∀ env party holderId ownerUserId amountQuota idempotencyKey row db',
        (createBalanceTransfer env party holderId ownerUserId amountQuota idempotencyKey).Returns db row db' →
        db'.hubProviderEarnings.first
          (requestIdIs (TransferKey.requestId ⟨party, holderId, ownerUserId, trimSpace idempotencyKey⟩)) = some row) ∧
      ∀ b ∈ bookings, ∀ env amountQuota idempotencyKey, 0 < amountQuota →
        trimSpace idempotencyKey = b.key.idempotencyKey →
        createBalanceTransfer env b.key.party b.key.holderId b.key.ownerUserId amountQuota idempotencyKey ⟨db, []⟩ =
            (b.answer amountQuota, ⟨db, []⟩) ∧
          ∀ db', (createBalanceTransfer env b.key.party b.key.holderId b.key.ownerUserId amountQuota
            idempotencyKey).Leaves db db' → db' = db := by
  obtain ⟨bookings, booked⟩ := transferRun_booked run
  refine ⟨TransferKey.requestId_injective, bookings, booked.rows, booked.distinct,
    fun key => requestId_count_le _ _, ?_, ?_, ?_, ?_, ?_⟩
  · intro userId
    rw [booked.wallets.value userId]
    simp [walletPosting]
  · intro b member
    refine ⟨(booked.checked b member).2.1, ?_⟩
    have credited := creditedTo_pos (fun c here => (booked.checked c here).2.1) member
    rw [booked.wallets.isSome]
    exact booked.wallets.present _ (neg_ne_zero.mpr credited.ne')
  · rw [booked.transferred, booked.total]
    omega
  · intro env party holderId ownerUserId amountQuota idempotencyKey row db' call
    rcases createBalanceTransfer_returns call with ⟨stored, rfl⟩ | ⟨b, named, -, rfl, step⟩
    · exact stored
    · rw [← named]
      exact (booked.step step).stored (List.mem_append_right _ List.mem_cons_self)
  · intro b member env amountQuota idempotencyKey positive trimmed
    obtain ⟨accepted, -, owned⟩ := booked.checked b member
    have stored := booked.stored member
    refine ⟨createBalanceTransfer_replay accepted owned stored positive trimmed, fun db' left => ?_⟩
    rcases (createBalanceTransfer_atomic _ _ _ _ _ _).leaves left with same | ⟨row, call⟩
    · exact same
    · rcases createBalanceTransfer_returns call with ⟨-, same⟩ | ⟨other, named, -, -, step⟩
      · exact same
      · have fresh := step.fresh
        rw [named, trimmed, stored] at fresh
        cases fresh

def oneProviderTransferred : DB :=
  (createBalanceTransfer plainEnv .provider 1 7 40 " k:1" ⟨oneProviderAdjusted, []⟩).2.db

/-- Transferred, and asked for again with the key trimmed. -/
def oneProviderRepeated : DB :=
  (createBalanceTransfer plainEnv .provider 1 7 40 "k:1" ⟨oneProviderTransferred, []⟩).2.db

theorem oneProviderRepeated_credited_once :
    walletIn oneProviderAdjusted.users 7 = some 0 ∧ walletIn oneProviderRepeated.users 7 = some 40 ∧
      ∃ bookings : List Booking, (bookings.map Booking.key).Nodup ∧ bookings.length = 1 ∧
        ∀ userId, walletIn oneProviderRepeated.users userId =
          (walletIn oneProviderAdjusted.users userId).map (· + creditedTo userId bookings) := by
  have first : Relation.ReflTransGen TransferCall oneProviderAdjusted oneProviderTransferred :=
    .single (.call plainEnv .provider 1 7 40 " k:1" (leaves_run _ ⟨oneProviderAdjusted, []⟩))
  have run := first.tail (.call plainEnv .provider 1 7 40 "k:1" (leaves_run _ ⟨oneProviderTransferred, []⟩))
  obtain ⟨-, bookings, rows, distinct, -, wallets, -⟩ := balance_transfers_exactly_once run
  have count := congrArg List.length rows
  rw [List.length_append, List.length_map] at count
  refine ⟨by decide +kernel, by decide +kernel, bookings, distinct, ?_, wallets⟩
  have before : oneProviderAdjusted.hubProviderEarnings.rows.length = 1 := by decide +kernel
  have after : oneProviderRepeated.hubProviderEarnings.rows.length = 2 := by decide +kernel
  change oneProviderRepeated.hubProviderEarnings.rows.length = _ at count
  omega

end LLMHub
