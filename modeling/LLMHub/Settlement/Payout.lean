import LLMHub.Schema.Database
import LLMHub.Go.Strings

namespace LLMHub

open Store Action Go

def HubParty.text : HubParty → String
  | .provider => "provider"
  | .tenant => "tenant"

def maskHubProviderPayoutIdentifier (value : String) : String :=
  let runes := (trimSpace value).toList
  let n := runes.length
  if n = 0 then ""
  else if n ≤ 4 then repeatText "*" n
  else if n ≤ 8 then
    String.ofList (runes.take 2) ++ repeatText "*" (n - 4) ++ String.ofList (runes.drop (n - 2))
  else String.ofList (runes.take 3) ++ "****" ++ String.ofList (runes.drop (n - 4))

/-- `hydrateHubProviderPayoutAccount` and `hydrateHubTenantPayoutAccount`: the
decoded account, in the shape a withdrawal stores it. -/
def hydrateHubPayoutAccount {party : HubParty} (env : Env) (account : HubPayoutAccount party) :
    Except ModelError HubPayoutAccountSnapshot :=
  match env.json.unmarshalDetails account.detailsJSON with
  | .error cause => .error (.wrapped ("decode hub " ++ party.text ++ " payout account details") (.text cause))
  | .ok details =>
    let identifier :=
      if details.account = "" ∧ account.qrCodeAssetId > 0 then details.recipientName else details.account
    .ok ⟨account.method, details, account.qrCodeAssetId, maskHubProviderPayoutIdentifier identifier⟩

/-- `snapshotHubProviderPayoutAccount` and `snapshotHubTenantPayoutAccount`. -/
def snapshotHubPayoutAccount (env : Env) (snapshot : HubPayoutAccountSnapshot) : Except ModelError String :=
  (env.json.marshalSnapshot snapshot).mapError .text

/-- `getHubProviderPayoutAccountTx` and `getHubTenantPayoutAccountTx`: the row
with its decoded form. -/
def getHubPayoutAccountTx (party : HubParty) [HasTable DB (HubPayoutAccount party)] (env : Env)
    (holderId accountId : Int) : Command (HubPayoutAccount party × HubPayoutAccountSnapshot) := do
  let account ← findOr (fun a : HubPayoutAccount party => a.id == accountId && a.holderId == holderId)
    .hubProviderPayoutAccountNotFound
  let hydrated ← ofExcept (hydrateHubPayoutAccount env account)
  pure (account, hydrated)

/-- `hydrateHubProviderWithdrawal` and `hydrateHubTenantWithdrawal`. -/
def hydrateHubWithdrawal {party : HubParty} (env : Env) (withdrawal : HubWithdrawal party) :
    Except ModelError (HubWithdrawal party × Option HubPayoutAccountSnapshot) :=
  if trimSpace withdrawal.payoutAccountSnapshot = "" then .ok (withdrawal, none)
  else match env.json.unmarshalSnapshot withdrawal.payoutAccountSnapshot with
    | .error cause =>
      .error (.wrapped ("decode hub " ++ party.text ++ " withdrawal payout snapshot") (.text cause))
    | .ok snapshot => .ok (withdrawal, some snapshot)

structure HubWithdrawalPayment where
  currency : String := ""
  amountMinor : Int := 0
  exchangeRate : String := ""
  deriving DecidableEq, Repr

/-- The pattern `^[A-Z]{3}$`. -/
def payoutCurrencyMatches (currency : String) : Bool :=
  match currency.toList with
  | [a, b, c] => [a, b, c].all fun x => 'A' ≤ x && x ≤ 'Z'
  | _ => false

def normalizeHubProviderWithdrawalPayment (payment : HubWithdrawalPayment) : Except ModelError HubWithdrawalPayment :=
  let normalized : HubWithdrawalPayment :=
    ⟨toUpper (trimSpace payment.currency), payment.amountMinor, trimSpace payment.exchangeRate⟩
  if payoutCurrencyMatches normalized.currency = false ∨ normalized.amountMinor ≤ 0 then
    .error .hubProviderWithdrawalPaymentInvalid
  else match ratSetString normalized.exchangeRate with
    | some rate => if rate ≤ 0 then .error .hubProviderWithdrawalPaymentInvalid else .ok normalized
    | none => .error .hubProviderWithdrawalPaymentInvalid

theorem payoutCurrencyMatches_ne {currency : String} (matched : payoutCurrencyMatches currency ≠ false) :
    currency ≠ "" := by
  rintro rfl
  exact matched rfl

theorem normalizeHubProviderWithdrawalPayment_ok {payment normalized : HubWithdrawalPayment}
    (run : normalizeHubProviderWithdrawalPayment payment = .ok normalized) :
    normalized.currency ≠ "" ∧ 0 < normalized.amountMinor := by
  unfold normalizeHubProviderWithdrawalPayment at run
  simp only at run
  split_ifs at run with invalid
  rw [not_or] at invalid
  split at run
  · split_ifs at run
    rw [← Except.ok.inj run]
    exact ⟨payoutCurrencyMatches_ne invalid.1, not_le.mp invalid.2⟩
  · simp at run

/-- `IsValidHubProviderWithdrawalStatus` and `IsValidHubTenantWithdrawalStatus`. -/
def isValidHubWithdrawalStatus : HubWithdrawalStatus → Bool
  | .pending | .approved | .paid | .rejected => true
  | .other _ => false

/-- Pending may move on to any other state, approved to paid or rejected. -/
def validHubWithdrawalTransition (current next : HubWithdrawalStatus) : Bool :=
  (current == .pending && (next == .approved || next == .paid || next == .rejected)) ||
    (current == .approved && (next == .paid || next == .rejected))

namespace HubWithdrawal
variable {party : HubParty}

def beforeCreate (now : Int) (w : HubWithdrawal party) : HubWithdrawal party :=
  { w with createdAt := now, updatedAt := now }

/-- Reserved but not yet paid: `status IN ('pending', 'approved')`. -/
def isOpen (w : HubWithdrawal party) : Bool := w.status == .pending || w.status == .approved

/-- The update of a status change, decided on the row that was read before it. -/
def review (read : HubWithdrawal party) (next : HubWithdrawalStatus) (adminUserId : Int) (adminRemark : String)
    (payment : HubWithdrawalPayment) (now : Int) : Table.Assignment (HubWithdrawal party) where
  set w := { w with
    status := next
    adminUserId := adminUserId
    adminRemark := adminRemark
    updatedAt := now
    reviewedAt := if read.status = .pending ∨ next = .rejected then now else w.reviewedAt
    paidAt := if next = .paid then now else w.paidAt
    payoutCurrency := if next = .paid then payment.currency else w.payoutCurrency
    payoutAmountMinor := if next = .paid then payment.amountMinor else w.payoutAmountMinor
    exchangeRate := if next = .paid then payment.exchangeRate else w.exchangeRate }

end HubWithdrawal

/-- `SUM(amount_quota) WHERE holder AND status <> 'rejected'`. -/
def unavailableQuota (party : HubParty) [HasTable DB (HubWithdrawal party)] (holderId : Int) : Command Int :=
  sumWhere (fun w : HubWithdrawal party => w.holderId == holderId && w.status != .rejected) HubWithdrawal.amountQuota

/-- `COUNT(*) WHERE holder AND status IN ('pending', 'approved')`. -/
def openWithdrawals (party : HubParty) [HasTable DB (HubWithdrawal party)] (holderId : Int) : Command Nat :=
  countWhere fun w : HubWithdrawal party => w.holderId == holderId && w.isOpen

end LLMHub
