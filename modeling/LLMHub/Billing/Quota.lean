import LLMHub.Billing.Refund

namespace LLMHub

open Store Action Go

/-- `WHERE id = ? AND quota >= ?`. -/
def userCovers (id quota : Int) (u : User) : Bool := userIs id u && decide (quota ≤ u.quota)

def User.debit (amount : Int) : Table.Assignment User where
  set u := { u with quota := u.quota - amount }

/-- Whether the wallet covered the amount and was charged. -/
def tryDecreaseUserQuota (id quota : Int) : Command Bool := do
  failIf (quota < 0) (.text "quota 不能为负数！")
  if quota = 0 then pure true
  else do
    let affected ← updateWhere (userCovers id quota) (User.debit quota)
    pure (affected != 0)

/-- `IncreaseUserQuota` with `db` set, which passes by the batch queue. A
missing user is not an error. -/
def increaseUserQuota (id quota : Int) : Command Unit := do
  failIf (quota < 0) (.text "quota 不能为负数！")
  let _ ← updateWhere (userIs id) (User.credit quota)
  pure ()

def tokenIs (id : Int) (t : Token) : Bool := t.id == id

/-- `WHERE id = ? AND (unlimited_quota = true OR remain_quota >= ?)` on
`Unscoped` tokens. -/
def tokenCovers (id quota : Int) (t : Token) : Bool := tokenIs id t && (t.unlimitedQuota || decide (quota ≤ t.remainQuota))

/-- Takes quota from a token; an unlimited token keeps its displayed remaining
quota. -/
def Token.take (now amount : Int) : Table.Assignment Token where
  set t := { t with
    remainQuota := if t.unlimitedQuota then t.remainQuota else t.remainQuota - amount
    usedQuota := t.usedQuota + amount
    accessedTime := now }

def decreaseTokenQuotaTx (env : Env) (id quota : Int) : Command Unit :=
  if id ≤ 0 ∨ quota ≤ 0 then failIf (quota ≠ 0) (.text "invalid token quota decrement")
  else do
    let affected ← updateWhere (tokenCovers id quota) (Token.take env.now quota)
    if affected = 1 then pure ()
    else do
      let _ ← findOr (tokenIs id) .recordNotFound
      fail .tokenQuotaInsufficient

def adjustmentIs (requestId : String) (a : BillingTokenAdjustment) : Bool := a.requestId == requestId

def createBillingTokenAdjustment (env : Env) (requestId : String) (tokenId deltaQuota : Int) (cause : ModelError) :
    Command BillingTokenAdjustment := do
  failIf (trimSpace requestId = "" ∨ tokenId ≤ 0 ∨ deltaQuota = 0) (.text "invalid billing token adjustment")
  let created ← attempt (create (α := BillingTokenAdjustment)
    { requestId := trimSpace requestId, status := .pending, tokenId, deltaQuota, lastError := cause.error,
      createdAt := env.now, updatedAt := env.now } .duplicatedKey)
  match created with
  | .ok adjustment => pure adjustment
  | .error _ => do
    -- Whatever kept the row from being stored, a matching one may be there.
    let existing ← findOr (adjustmentIs (trimSpace requestId)) .recordNotFound
    failIf (existing.tokenId ≠ tokenId ∨ existing.deltaQuota ≠ deltaQuota) .billingTokenAdjustmentReferenceConflict
    pure existing

end LLMHub
