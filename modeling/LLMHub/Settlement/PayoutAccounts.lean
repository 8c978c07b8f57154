import LLMHub.Schema.Locks
import LLMHub.Settlement.TenantFinance
import LLMHub.Store.Serial
import Mathlib.Data.List.Sort

namespace LLMHub

open Store Program Go

structure HubPayoutAccountInput where
  method : String
  details : HubPayoutAccountDetails
  qrCodeAssetId : Int := 0
  isDefault : Bool := false
  deriving DecidableEq, Repr

def isValidHubProviderPayoutMethod (method : String) : Bool := method == "alipay" || method == "wechat" || method == "bank"

def normalizeHubProviderPayoutAccountInput (input : HubPayoutAccountInput) : Except ModelError HubPayoutAccountInput :=
  let method := toLower (trimSpace input.method)
  let details : HubPayoutAccountDetails :=
    { version := 1
      recipientName := trimSpace input.details.recipientName
      account := trimSpace input.details.account
      accountType := toLower (trimSpace input.details.accountType)
      bankName := trimSpace input.details.bankName
      bankBranch := trimSpace input.details.bankBranch }
  if isValidHubProviderPayoutMethod method = false ∨ details.recipientName = "" ∨ details.recipientName.length > 128 ∨
      details.account.length > 255 ∨ details.bankName.length > 128 ∨ details.bankBranch.length > 255 then
    .error .hubProviderPayoutAccountInvalid
  else if method = "alipay" then
    if details.account = "" then .error .hubProviderPayoutAccountInvalid
    else .ok { input with method, details := { details with accountType := "", bankName := "", bankBranch := "" } }
  else if method = "wechat" then
    if input.qrCodeAssetId ≤ 0 then .error .hubProviderPayoutAccountInvalid
    else .ok { input with method, details := { details with accountType := "", bankName := "", bankBranch := "" } }
  else if details.account = "" ∨ details.bankName = "" ∨
      (details.accountType ≠ "personal" ∧ details.accountType ≠ "business") then .error .hubProviderPayoutAccountInvalid
  else .ok { input with method, details, qrCodeAssetId := 0 }

namespace HubPayoutAccount
variable {party : HubParty}

def key (a : HubPayoutAccount party) : RowKey := .hubPayoutAccount party a.id

def of (a : HubPayoutAccount party) (holderId : Int) : Bool := a.holderId == holderId

def setDefault (isDefault : Bool) : Table.Assignment (HubPayoutAccount party) where
  set a := { a with isDefault }

def replace (input : HubPayoutAccountInput) (detailsJSON : String) (isDefault : Bool) :
    Table.Assignment (HubPayoutAccount party) where
  set a := { a with method := input.method, detailsJSON, qrCodeAssetId := input.qrCodeAssetId, isDefault }

/-- `ORDER BY id ASC LIMIT 1`. -/
def lowest (accounts : List (HubPayoutAccount party)) : Option (HubPayoutAccount party) :=
  (accounts.insertionSort fun a b => a.id ≤ b.id).head?

end HubPayoutAccount

namespace Statements
variable (party : HubParty) [HasTable DB (HubPayoutAccount party)] [HasTable DB (HubPayoutAsset party)]

/-- `validateHubProviderPayoutAssetTx` and `validateHubTenantPayoutAssetTx`. -/
def validateHubPayoutAssetTx (holderId assetId : Int) : Statements Unit :=
  if assetId ≤ 0 then pure ()
  else do
    let count ← countWhere fun x : HubPayoutAsset party => x.id == assetId && x.holderId == holderId
    failIf (count ≠ 1) .hubProviderPayoutAssetInvalid

def lockHubPayoutAccountTx (holderId id : Int) : Statements (HubPayoutAccount party) :=
  lockFirst HubPayoutAccount.key (fun a => a.id == id && a.of holderId) .hubProviderPayoutAccountNotFound

/-- The account that takes the place of a deleted default. -/
def promoteHubPayoutAccount : Option (HubPayoutAccount party) → Statements Unit
  | none => pure ()
  | some replacement =>
    updateWhere HubPayoutAccount.key (fun a : HubPayoutAccount party => a.id == replacement.id) (HubPayoutAccount.setDefault true)

section Parts
variable (env : Env) (holderId : Int)

def addHubPayoutAccountTx (input : HubPayoutAccountInput) : Statements (HubPayoutAccount party) := do
  validateHubPayoutAssetTx party holderId input.qrCodeAssetId
  let detailsJSON ← ofExcept ((env.json.marshalDetails input.details).mapError .text)
  let count ← countWhere fun a : HubPayoutAccount party => a.of holderId
  let isDefault := input.isDefault || count == 0
  onlyIf (isDefault = true)
    (updateWhere HubPayoutAccount.key (fun a : HubPayoutAccount party => a.of holderId) (HubPayoutAccount.setDefault false))
  create [] ⟨0, holderId, input.method, detailsJSON, input.qrCodeAssetId, isDefault⟩ .duplicatedKey

def changeHubPayoutAccountTx (id : Int) (input : HubPayoutAccountInput) : Statements (HubPayoutAccount party) := do
  let account ← lockHubPayoutAccountTx party holderId id
  validateHubPayoutAssetTx party holderId input.qrCodeAssetId
  let detailsJSON ← ofExcept ((env.json.marshalDetails input.details).mapError .text)
  onlyIf (input.isDefault = true) (updateWhere HubPayoutAccount.key
    (fun a : HubPayoutAccount party => a.of holderId && a.id != id) (HubPayoutAccount.setDefault false))
  updateWhere HubPayoutAccount.key (fun a : HubPayoutAccount party => a.id == id)
    (HubPayoutAccount.replace input detailsJSON (account.isDefault || input.isDefault))
  findOr (fun a => a.id == id) .recordNotFound

def removeHubPayoutAccountTx (id : Int) : Statements Unit := do
  let account ← lockHubPayoutAccountTx party holderId id
  deleteWhere HubPayoutAccount.key fun a : HubPayoutAccount party => a.id == id
  onlyIf (account.isDefault = true) do
    let replacement ← query fun db => HubPayoutAccount.lowest
      ((HasTable.table db).rows.filter fun a : HubPayoutAccount party => a.of holderId)
    promoteHubPayoutAccount party replacement

end Parts

variable (env : Env) (authorize : Statements Unit) (holderId ownerUserId : Int)

/-- `CreateHubProviderPayoutAccount` and `CreateHubTenantPayoutAccount`, which
differ in how the caller is authorized. -/
def createHubPayoutAccount (input : HubPayoutAccountInput) : Statements (HubPayoutAccount party) := do
  failIf (holderId ≤ 0 ∨ ownerUserId ≤ 0) .hubProviderPayoutAccountInvalid
  let input ← ofExcept (normalizeHubProviderPayoutAccountInput input)
  authorize
  addHubPayoutAccountTx party env holderId input

def updateHubPayoutAccount (id : Int) (input : HubPayoutAccountInput) : Statements (HubPayoutAccount party) := do
  failIf (holderId ≤ 0 ∨ ownerUserId ≤ 0 ∨ id ≤ 0) .hubProviderPayoutAccountInvalid
  let input ← ofExcept (normalizeHubProviderPayoutAccountInput input)
  authorize
  changeHubPayoutAccountTx party env holderId id input

def deleteHubPayoutAccount (id : Int) : Statements Unit := do
  failIf (holderId ≤ 0 ∨ ownerUserId ≤ 0 ∨ id ≤ 0) .hubProviderPayoutAccountInvalid
  authorize
  removeHubPayoutAccountTx party holderId id

def hubProviderForOwnerTx (providerId ownerUserId : Int) : Statements HubProvider :=
  findOr (fun p => p.id == providerId && p.ownerUserId == ownerUserId) .recordNotFound

def lockHubTenantFinanceTx (tenantId : Int) : Statements Unit := do
  failIf (tenantId ≤ 0) .tenantNotFound
  let _ ← lockFirst (fun t : Tenant => .tenant t.id) (fun t => t.id == tenantId && t.status == .active) .tenantNotFound
  pure ()

def requireActiveTenantOwnerTx (tenantId ownerUserId : Int) : Statements Unit := do
  let _ ← require (fun db : DB => db.tenantMembers.first fun m => activeTenantOwner tenantId db m && m.userId == ownerUserId)
    .hubTenantFinanceOwnerRequired
  pure ()

/-- A provider's calls check the owner. -/
def authorizeProvider (providerId ownerUserId : Int) : Statements Unit := do
  let _ ← hubProviderForOwnerTx providerId ownerUserId
  pure ()

/-- A tenant's calls lock the tenant first. -/
def authorizeTenant (tenantId ownerUserId : Int) : Statements Unit := do
  lockHubTenantFinanceTx tenantId
  requireActiveTenantOwnerTx tenantId ownerUserId

end Statements

/-- A call for the payout accounts of one holder. -/
inductive PayoutCall
  | create (ownerUserId : Int) (input : HubPayoutAccountInput)
  | update (ownerUserId id : Int) (input : HubPayoutAccountInput)
  | delete (ownerUserId id : Int)

namespace PayoutCall
variable (party : HubParty) [HasTable DB (HubPayoutAccount party)] [HasTable DB (HubPayoutAsset party)]

def statements (env : Env) (authorize : Int → Statements Unit) (holderId : Int) :
    PayoutCall → Statements (Option (HubPayoutAccount party))
  | create ownerUserId input => do
    let account ← Statements.createHubPayoutAccount party env (authorize ownerUserId) holderId ownerUserId input
    pure (some account)
  | update ownerUserId id input => do
    let account ← Statements.updateHubPayoutAccount party env (authorize ownerUserId) holderId ownerUserId id input
    pure (some account)
  | delete ownerUserId id => do
    Statements.deleteHubPayoutAccount party (authorize ownerUserId) holderId ownerUserId id
    pure none

end PayoutCall

/-- The calls of `hub_provider_payout.go` for one provider. -/
def providerPayout (env : Env) (providerId : Int) : PayoutCall → Statements (Option (HubPayoutAccount .provider)) :=
  PayoutCall.statements .provider env (Statements.authorizeProvider providerId) providerId

/-- The calls of `hub_tenant_settlement.go` for one tenant. -/
def tenantPayout (env : Env) (tenantId : Int) : PayoutCall → Statements (Option (HubPayoutAccount .tenant)) :=
  PayoutCall.statements .tenant env (Statements.authorizeTenant tenantId) tenantId

end LLMHub
