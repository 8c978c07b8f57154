import LLMHub.Schema.Database
import LLMHub.Store.Program

namespace LLMHub

open Store

/-- The rows that transactions wait for. A unique value stands for the row that
holds it. -/
inductive RowKey
  | user (id : Int)
  | tenant (id : Int)
  | hubPayoutAccount (party : HubParty) (id : Int)
  | userSubscription (id : Int)
  | subscriptionPreConsumeRecord (requestId : String)
  | subscriptionOrder (tradeNo : String)
  | topUp (tradeNo : String)
  deriving DecidableEq, Repr

/-- A transaction of package `model`, statement by statement. -/
abbrev Statements (α : Type) := Program DB RowKey ModelError α

end LLMHub
