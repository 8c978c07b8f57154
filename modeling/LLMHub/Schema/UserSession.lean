import LLMHub.Store.Table

namespace LLMHub

open Store

inductive UserSessionStatus
  | active
  | revoking
  | revoked
  | other (value : String)
  deriving DecidableEq, Repr

/-- The columns of `user_sessions` that a refresh reads or writes. The primary
key is `sid`; `rowId` only numbers the rows. -/
structure UserSession where
  rowId : Int := 0
  sid : String
  userID : Int
  version : Int := 1
  userAuthVersion : Int := 1
  status : UserSessionStatus := .active
  refreshHash : String
  previousRefreshHash : String := ""
  previousValidUntil : Int := 0
  lastActiveAt : Int := 0
  expiresAt : Int
  revokedAt : Int := 0
  revokedReason : String := ""
  deriving DecidableEq, Repr

instance : Record UserSession := ⟨UserSession.rowId, fun n x => { x with rowId := n }, fun x => some (.text x.sid),
  fun _ _ => rfl, fun _ _ => rfl⟩

end LLMHub
