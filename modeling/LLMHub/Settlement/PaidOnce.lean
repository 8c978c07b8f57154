import LLMHub.Settlement.ProviderLedger
import LLMHub.Store.Machine

namespace LLMHub

open Store Action Go

/-- A request of an administrator to change the status of a withdrawal. -/
structure ReviewCall where
  party : HubParty
  env : Env
  id : Int
  status : HubWithdrawalStatus
  adminUserId : Int
  adminRemark : String
  payment : Option HubWithdrawalPayment

def ReviewCall.command (call : ReviewCall) : Command Unit :=
  match call.party with
  | .provider => do
    let _ ← updateHubProviderWithdrawalStatus call.env call.id call.status call.adminUserId call.adminRemark call.payment
    pure ()
  | .tenant => do
    let _ ← updateHubTenantWithdrawalStatus call.env call.id call.status call.adminUserId call.adminRemark call.payment
    pure ()

/-- Calls on the withdrawals of providers and tenants, each with the statements
of it that the driver lets fail. -/
def reviewing : Machine DB (ReviewCall × List Bool) where
  step db event := (event.1.command ⟨db, event.2⟩).2.db

def withdrawalIn (db : DB) : (party : HubParty) → Int → Option (HubWithdrawal party)
  | .provider, id => db.hubProviderWithdrawals.first (fun w => w.id == id)
  | .tenant, id => db.hubTenantWithdrawals.first (fun w => w.id == id)

def HubWithdrawal.details {party : HubParty} (w : HubWithdrawal party) : HubWithdrawalPayment :=
  ⟨w.payoutCurrency, w.payoutAmountMinor, w.exchangeRate⟩

def HubWithdrawal.isFinal {party : HubParty} (w : HubWithdrawal party) : Prop := w.status = .paid ∨ w.status = .rejected

variable {party : HubParty} {w : HubWithdrawal party} {normal : HubWithdrawalPayment}

theorem not_valid_of_final (final : w.isFinal) (next : HubWithdrawalStatus) :
    validHubWithdrawalTransition w.status next = false := by
  rcases final with paid | rejected
  · rw [paid]
    rfl
  · rw [rejected]
    rfl

/-- A review of one row leaves the final rows as they are. -/
theorem first_review {t : Table (HubWithdrawal party)} {id id' adminUserId now : Int}
    {current : HubWithdrawal party} {next : HubWithdrawalStatus} {remark : String} {payment : HubWithdrawalPayment}
    (found : t.first (fun w => w.id == id) = some current)
    (valid : validHubWithdrawalTransition current.status next = true) (stored : t.first (fun w => w.id == id') = some w)
    (final : w.isFinal) :
    (t.update (fun w => w.id == id) (current.review next adminUserId remark payment now)).first (fun w => w.id == id') =
      some w := by
  rw [Table.first_update fun _ => rfl, stored, Option.map_some, Table.rewrite_neg]
  have named := Table.holds_of_first stored
  refine beq_false_of_ne fun same => ?_
  -- The row under review would be the final one.
  rw [beq_iff_eq, same] at named
  rw [← named, found] at stored
  cases stored
  rw [not_valid_of_final final] at valid
  cases valid

/-- The step lemma: a final row stays. -/
theorem reviewing_keeps_final (db : DB) (event : ReviewCall × List Bool) {id : Int}
    (stored : withdrawalIn db party id = some w) (final : w.isFinal) :
    withdrawalIn (reviewing.step db event) party id = some w := by
  obtain ⟨call, faults⟩ := event
  have left : call.command.Leaves db (reviewing.step db (call, faults)) := leaves_run _ ⟨db, faults⟩
  generalize reviewing.step db (call, faults) = after at left ⊢
  unfold ReviewCall.command at left
  split at left
  · rcases updateHubProviderWithdrawalStatus_leaves (left.then_readOnly fun _ => .pure _) with
      rfl | ⟨current, normal, -, found, valid, rfl⟩
    · exact stored
    · cases party with
      | provider => exact first_review found valid stored final
      | tenant => exact stored
  · rcases updateHubTenantWithdrawalStatus_leaves (left.then_readOnly fun _ => .pure _) with
      rfl | ⟨current, normal, -, found, valid, rfl⟩
    · exact stored
    · cases party with
      | provider => exact stored
      | tenant => exact first_review found valid stored final

theorem reviewing_run_keeps_final (db : DB) (events : List (ReviewCall × List Bool)) {id : Int}
    (stored : withdrawalIn db party id = some w) (final : w.isFinal) :
    withdrawalIn (reviewing.run db events) party id = some w :=
  (Machine.permits_true db events).keeps (fun s => withdrawalIn s party id = some w)
    (fun s event _ stored => reviewing_keeps_final s event stored final) stored

/-- A payment call that is accepted on a paid withdrawal names the payment on
record; any other one is reported as an error. -/
def ReviewCall.Reports (call : ReviewCall) (db : DB) : Prop :=
  ∀ w after, withdrawalIn db call.party call.id = some w → w.status = .paid → call.status = .paid →
    call.command.Returns db () after →
    ∃ given, call.payment = some given ∧ normalizeHubProviderWithdrawalPayment given = .ok w.details

/-- An administrator reports a valid payment, other than the one on record, for a
provider's withdrawal that is paid and whose payout account can be shown. -/
def ReviewCall.SecondPayment (call : ReviewCall) (db : DB) : Prop :=
  call.party = .provider ∧ call.status = .paid ∧ 0 < call.id ∧ 0 < call.adminUserId ∧
    ∃ given payment w shown, call.payment = some given ∧ normalizeHubProviderWithdrawalPayment given = .ok payment ∧
      db.hubProviderWithdrawals.first (fun w => w.id == call.id) = some w ∧ w.status = .paid ∧ payment ≠ w.details ∧
      hydrateHubWithdrawal call.env w = .ok shown

section PaidAgain
variable {env : Env} {db after : DB} {id adminUserId : Int} {remark : String} {payment : Option HubWithdrawalPayment}

/-- The provider's version answers a repeated payment before it looks at the
details. -/
theorem updateHubProviderWithdrawalStatus_again {w : HubProviderWithdrawal}
    {answer : HubProviderWithdrawal × Option HubPayoutAccountSnapshot}
    (found : db.hubProviderWithdrawals.first (fun w => w.id == id) = some w) (paid : w.status = .paid)
    (run : (updateHubProviderWithdrawalStatus env id .paid adminUserId remark payment).Returns db answer after) :
    0 < id ∧ 0 < adminUserId ∧ hydrateHubWithdrawal env w = .ok answer ∧
      ∃ given normal, payment = some given ∧ normalizeHubProviderWithdrawalPayment given = .ok normal := by
  obtain ⟨valid, run⟩ := run.failIf_bind
  obtain ⟨normal, accepted, run⟩ := run.ofExcept_bind
  obtain ⟨given, same, normalised⟩ := providerPayment_some accepted rfl
  obtain ⟨updated, mid, head, rest⟩ := run.bind
  obtain ⟨current, hit, head⟩ := head.mapError.transaction.findOr_bind
  cases hit.symm.trans found
  rw [if_pos paid] at head
  obtain ⟨rfl, -⟩ := head.pure
  refine ⟨by omega, by omega, rest.ofExcept.1, given, normal, same, normalised⟩

variable (remark) in
theorem updateHubProviderWithdrawalStatus_accepts {w : HubProviderWithdrawal} {given : HubWithdrawalPayment}
    {shown : HubProviderWithdrawal × Option HubPayoutAccountSnapshot} (positive : 0 < id) (admin : 0 < adminUserId)
    (normalised : normalizeHubProviderWithdrawalPayment given = .ok normal)
    (found : db.hubProviderWithdrawals.first (fun w => w.id == id) = some w) (paid : w.status = .paid)
    (hydrated : hydrateHubWithdrawal env w = .ok shown) :
    (updateHubProviderWithdrawalStatus env id .paid adminUserId remark (some given)).Completes db shown db := by
  have accepted : (ofExcept (providerPayment .paid (some given)) : Command _).Completes db normal db := by
    unfold providerPayment
    rw [if_pos rfl]
    dsimp only
    rw [normalised]
    rfl
  have shows : (ofExcept (hydrateHubWithdrawal env w) : Command _).Completes db shown db := by
    rw [hydrated]
    rfl
  refine (Completes.failIf ?_ _ _).bind (accepted.bind (Completes.bind ?_ shows))
  · rintro (bad | bad | bad | bad)
    · omega
    · omega
    · cases bad
    · cases bad
  · refine (Completes.transaction ((Completes.findOr found _).bind ?_)).mapError _
    rw [if_pos paid]
    rfl

/-- The tenant's version compares them. -/
theorem updateHubTenantWithdrawalStatus_again {w : HubTenantWithdrawal}
    {answer : (HubTenantWithdrawal × Option HubPayoutAccountSnapshot) × Bool}
    (found : db.hubTenantWithdrawals.first (fun w => w.id == id) = some w) (paid : w.status = .paid)
    (run : (updateHubTenantWithdrawalStatus env id .paid adminUserId remark payment).Returns db answer after) :
    ∃ given, payment = some given ∧ normalizeHubProviderWithdrawalPayment given = .ok w.details := by
  obtain ⟨valid, run⟩ := run.failIf_bind
  obtain ⟨normal, accepted, run⟩ := run.ofExcept_bind
  obtain ⟨given, same, normalised⟩ := tenantPayment_some accepted rfl
  obtain ⟨updated, mid, head, rest⟩ := run.bind
  obtain ⟨current, hit, head⟩ := head.mapError.transaction.findOr_bind
  cases hit.symm.trans found
  rw [if_pos paid] at head
  obtain ⟨equal, -⟩ := head.failIf_bind
  refine ⟨given, same, normalised.trans ?_⟩
  simp only [true_and, not_or, not_not] at equal
  rw [HubWithdrawal.details, equal.1, equal.2.1, equal.2.2]

end PaidAgain

theorem ReviewCall.reports_iff (call : ReviewCall) (db : DB) : call.Reports db ↔ ¬call.SecondPayment db := by
  obtain ⟨party, env, id, status, adminUserId, adminRemark, payment⟩ := call
  constructor
  · rintro reports ⟨rfl, rfl, positive, admin, given, normal, w, shown, rfl, normalised, found, paid, different, hydrated⟩
    have accepted := updateHubProviderWithdrawalStatus_accepts adminRemark positive admin normalised found paid hydrated
    have run : (ReviewCall.command ⟨.provider, env, id, .paid, adminUserId, adminRemark, some given⟩).Completes db () db :=
      Completes.bind accepted rfl
    obtain ⟨_, same, recorded⟩ := reports w db found paid rfl run.returns
    cases same
    exact different (Except.ok.inj (normalised.symm.trans recorded))
  · intro single w after found paid requested run
    cases requested
    cases party with
    | provider =>
      obtain ⟨answer, mid, head, -⟩ := Returns.bind run
      obtain ⟨positive, admin, hydrated, given, normal, same, normalised⟩ :=
        updateHubProviderWithdrawalStatus_again found paid head
      refine ⟨given, same, ?_⟩
      by_contra different
      exact single ⟨rfl, rfl, positive, admin, given, normal, w, answer, same, normalised, found, paid,
        fun equal => different (equal ▸ normalised), hydrated⟩
    | tenant =>
      obtain ⟨answer, mid, head, -⟩ := Returns.bind run
      exact updateHubTenantWithdrawalStatus_again found paid head

/-- Whatever calls are made, paid and rejected withdrawals stay as they are. In
every state reached a further payment call reports a payment other than the one
on record, unless it is a second payment of a provider's withdrawal. -/
theorem withdrawal_paid_once (db : DB) (events : List (ReviewCall × List Bool)) :
    (∀ party id w, withdrawalIn db party id = some w → w.status = .paid ∨ w.status = .rejected →
      withdrawalIn (reviewing.run db events) party id = some w) ∧
    ∀ call : ReviewCall, call.Reports (reviewing.run db events) ↔ ¬call.SecondPayment (reviewing.run db events) :=
  ⟨fun _ _ _ stored final => reviewing_run_keeps_final db events stored final, fun call => call.reports_iff _⟩

/-- A provider's withdrawal that waits for its payment. -/
def approvedWithdrawal : DB where
  hubProviderWithdrawals :=
    .single { id := 1, holderId := 1, ownerUserId := 7, amountQuota := 100, status := .approved, payoutAccountSnapshot := "" }

def payment250 : ReviewCall := ⟨.provider, plainEnv, 1, .paid, 9, "done", some ⟨"usd", 250, "7.1"⟩⟩

def payment900 : ReviewCall := ⟨.provider, plainEnv, 1, .paid, 9, "done", some ⟨"eur", 900, "8"⟩⟩

def paidWithdrawal : HubProviderWithdrawal :=
  { id := 1, holderId := 1, ownerUserId := 7, amountQuota := 100, status := .paid, payoutAccountSnapshot := "",
    payoutCurrency := "USD", payoutAmountMinor := 250, exchangeRate := "7.1", adminRemark := "done", adminUserId := 9,
    paidAt := 1000, updatedAt := 1000 }

def paidDB : DB := reviewing.run approvedWithdrawal [(payment250, [])]

theorem paid_withdrawal_stays :
    withdrawalIn paidDB .provider 1 = some paidWithdrawal ∧
      withdrawalIn (reviewing.run paidDB [(payment900, []), (payment250, [true])]) .provider 1 = some paidWithdrawal ∧
      payment250.Reports (reviewing.run paidDB []) := by
  have found : withdrawalIn paidDB .provider 1 = some paidWithdrawal := by decide +kernel
  refine ⟨found, (withdrawal_paid_once paidDB _).1 .provider 1 paidWithdrawal found (Or.inl rfl), ?_⟩
  refine ((withdrawal_paid_once paidDB []).2 payment250).mpr ?_
  rintro ⟨-, -, -, -, given, normal, w, -, same, normalised, stored, -, different, -⟩
  cases same
  cases found.symm.trans stored
  exact different (Except.ok.inj (normalised.symm.trans (by decide +kernel)))

theorem second_payment_accepted :
    withdrawalIn paidDB .provider 1 = some paidWithdrawal ∧ (payment900.command ⟨paidDB, []⟩).1 = .ok () ∧
      ¬payment900.Reports paidDB := by
  have found : withdrawalIn paidDB .provider 1 = some paidWithdrawal := by decide +kernel
  refine ⟨found, by decide +kernel, fun reports => (payment900.reports_iff paidDB).mp reports ?_⟩
  exact ⟨rfl, rfl, by decide, by decide, ⟨"eur", 900, "8"⟩, ⟨"EUR", 900, "8"⟩, paidWithdrawal, (paidWithdrawal, none), rfl,
    by decide +kernel, found, rfl, by decide, by decide +kernel⟩

end LLMHub
