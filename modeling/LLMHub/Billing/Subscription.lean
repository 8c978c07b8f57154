import LLMHub.Schema.Database
import LLMHub.Go.Strings

namespace LLMHub

open Store Action Go

/-- `Save` of a subscription whose used amount was recomputed. -/
def UserSubscription.setUsed (now amountUsed : Int) : Table.Assignment UserSubscription where
  set s := { s with amountUsed := amountUsed, updatedAt := now }

/-- `Save` of a record marked `refunded`. -/
def SubscriptionPreConsumeRecord.markRefunded (now : Int) : Table.Assignment SubscriptionPreConsumeRecord where
  set r := { r with status := .refunded, updatedAt := now }

def subscriptionIs (id : Int) (s : UserSubscription) : Bool := s.id == id

def preConsumeRecordIs (requestId : String) (r : SubscriptionPreConsumeRecord) : Bool := r.requestId == requestId

/-- The used amount after a delta: usage never goes below zero. -/
def usedAfter (amountUsed delta : Int) : Int := if amountUsed + delta < 0 then 0 else amountUsed + delta

def postConsumeUserSubscriptionDeltaTx (env : Env) (userSubscriptionId delta : Int) : Command Unit := do
  failIf (userSubscriptionId ≤ 0) (.text "invalid userSubscriptionId")
  if delta = 0 then pure ()
  else do
    let sub ← findOr (subscriptionIs userSubscriptionId) .recordNotFound
    let newUsed := usedAfter sub.amountUsed delta
    failIf (sub.amountTotal > 0 ∧ newUsed > sub.amountTotal) (.detailed .subscriptionQuotaInsufficient
      ("used=" ++ toString newUsed ++ " total=" ++ toString sub.amountTotal))
    let _ ← updateWhere (subscriptionIs sub.id) (UserSubscription.setUsed env.now newUsed)
    pure ()

def refundSubscriptionPreConsumeTx (env : Env) (requestId : String) : Command Unit := do
  let record ← findOr (preConsumeRecordIs requestId) .recordNotFound
  if record.status = .refunded then pure ()
  else do
    onlyIf (record.preConsumed > 0)
      (postConsumeUserSubscriptionDeltaTx env record.userSubscriptionId (-record.preConsumed))
    let _ ← updateWhere (fun r => r.id == record.id) (SubscriptionPreConsumeRecord.markRefunded env.now)
    pure ()

end LLMHub
