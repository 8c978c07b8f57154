import LLMHub.Schema.Database
import LLMHub.Store.Machine
import LLMHub.Go.Strings

namespace LLMHub

open Store Action Go

/-- `WHERE sid = ? AND user_id = ?`. -/
def sessionIs (sid : String) (userID : Int) (s : UserSession) : Bool := s.sid == sid && s.userID == userID

/-- What every loaded row goes through. -/
def UserSession.afterFind (s : UserSession) : UserSession :=
  { s with previousRefreshHash := trimSpace s.previousRefreshHash }

def UserSession.Active (s : UserSession) (now : Int) : Prop := s.status = .active ∧ s.revokedAt = 0 ∧ now < s.expiresAt

instance (s : UserSession) (now : Int) : Decidable (s.Active now) := inferInstanceAs (Decidable (_ ∧ _ ∧ _))

/-- `… AND status = 'active' AND revoked_at = 0 AND expires_at > ?`. -/
def activeSession (sid : String) (userID now : Int) (s : UserSession) : Bool := sessionIs sid userID s && decide (s.Active now)

def UserSession.rotate (previous next : String) (validUntil now : Int) : Table.Assignment UserSession where
  set s := { s with
    previousRefreshHash := previous
    previousValidUntil := validUntil
    refreshHash := next
    lastActiveAt := now }

def UserSession.revokeReuse (now : Int) : Table.Assignment UserSession where
  set s := { s with status := .revoked, revokedAt := now, revokedReason := "refresh_reuse" }

/-- The outcome of writing a rotated session to the cache: nothing that stops
the call, an observation that is too old, or a session that is gone. -/
inductive SessionCacheWrite
  | done
  | stale
  | inactive
  deriving DecidableEq, Repr

/-- Which statement of `RotateUserSessionRefresh` comes next. `tries` counts
the rounds of its loop that are left after this one. -/
inductive RotateStage
  | reading (tries : Nat)
  | rotating (session : UserSession) (tries : Nat)
  | confirming (session : UserSession)
  | revoking (session : UserSession)
  | returned (session : Option UserSession) (err : Option ModelError)
  deriving DecidableEq, Repr

/-- A call with its arguments, the row it read last, the rows its updates
affected, whether a rotation is among them, and whether a statement or the
deny fence failed it. -/
structure RotateCall where
  userID : Int
  presentedHash : String
  nextHash : String
  now : Int
  graceSeconds : Int
  stage : RotateStage
  lastRead : Option UserSession := none
  affected : Nat := 0
  exchanged : Bool := false
  failed : Bool := false
  deriving DecidableEq, Repr

namespace RotateCall

def fails (c : RotateCall) (err : ModelError) : RotateCall := { c with stage := .returned none (some err) }

/-- The checks before the loop; `clock` stands for the time if none is given,
`grace` is in nanoseconds. -/
def start (sid : String) (userID : Int) (presentedHash nextHash : String) (now clock grace : Int) : RotateCall :=
  let graceSeconds := grace.tdiv (10 ^ 9)
  let call : RotateCall :=
    ⟨userID, presentedHash, nextHash, if now ≤ 0 then clock else now, graceSeconds, .reading 2, none, 0, false, false⟩
  if userID ≤ 0 ∨ sid = "" ∨ presentedHash = "" ∨ nextHash = "" ∨ presentedHash = nextHash then
    call.fails .userSessionInvalid
  else if graceSeconds < 0 then call.fails .userSessionInvalid
  else call

/-- What the loop does with the row it has read. -/
def resolve (c : RotateCall) (session : UserSession) (tries : Nat) : RotateCall :=
  let c := { c with lastRead := some session }
  if ¬session.Active c.now then c.fails .userSessionInactive
  else if session.refreshHash = c.presentedHash then { c with stage := .rotating session tries }
  else if session.previousRefreshHash = "" ∨ session.previousRefreshHash ≠ c.presentedHash then
    c.fails .userSessionRefreshInvalid
  else if c.now ≤ session.previousValidUntil then
    { c with stage := .returned (some session) (some .userSessionRefreshRace) }
  else { c with stage := .revoking session }

def again (c : RotateCall) : Nat → RotateCall
  | 0 => c.fails .userSessionRefreshInvalid
  | tries + 1 => { c with stage := .reading tries }

def rotated (c : RotateCall) (session : UserSession) : UserSession :=
  (UserSession.rotate session.refreshHash c.nextHash (c.now + c.graceSeconds) c.now).set session

/-- `confirmUserSessionActiveSnapshot`. -/
def confirms (sid : String) (c : RotateCall) (session : UserSession) (clock : Int) (s : UserSession) : Bool :=
  activeSession sid c.userID clock s && s.version == session.version && s.userAuthVersion == session.userAuthVersion

/-- The next statement. What the cache answers is in `cache` and `fence`. -/
def next (sid : String) (clock : Int) (cache : SessionCacheWrite) (fence : Option ModelError) (c : RotateCall) :
    Command RotateCall :=
  match c.stage with
  | .reading tries => do
    let found ← attempt (findOr (sessionIs sid c.userID) .recordNotFound)
    match found with
    | .error e => pure { c.fails e with failed := true }
    | .ok row => pure (c.resolve row.afterFind tries)
  | .rotating session tries => do
    let updated ← attempt (updateWhere
      (fun s => activeSession sid c.userID c.now s && s.refreshHash == c.presentedHash)
      (UserSession.rotate session.refreshHash c.nextHash (c.now + c.graceSeconds) c.now))
    match updated with
    | .error e => pure { c.fails e with failed := true }
    | .ok affected =>
      if affected = 0 then pure (c.again tries)
      else
        let c := { c with affected := c.affected + affected, exchanged := true }
        match cache with
        | .done => pure { c with stage := .returned (some (c.rotated session)) none }
        | .stale => pure { c with stage := .confirming (c.rotated session) }
        | .inactive => pure (c.fails .userSessionInactive)
  | .confirming session =>
    if session.sid = "" ∨ session.userID ≤ 0 ∨ session.version ≤ 0 ∨ session.userAuthVersion ≤ 0 then
      pure (c.fails .userSessionInvalid)
    else do
      let counted ← attempt (countWhere (c.confirms sid session clock))
      match counted with
      | .error e => pure (c.fails e)
      | .ok count =>
        if count ≠ 1 then pure (c.fails .userSessionInactive)
        else pure { c with stage := .returned (some session) none }
  | .revoking _ =>
    match fence with
    | some e => pure { c.fails e with failed := true }
    | none => do
      let updated ← attempt (updateWhere (activeSession sid c.userID c.now) (UserSession.revokeReuse c.now))
      match updated with
      | .error e => pure { c.fails e with failed := true }
      | .ok affected =>
        if affected = 0 then pure (c.fails .userSessionInactive)
        else pure { c with affected := c.affected + affected, stage := .returned none (some .userSessionRefreshReuse) }
  | .returned _ _ => pure c

end RotateCall

/-- The database and the calls for one session, finished ones included. -/
structure RefreshSystem where
  db : DB
  calls : List RotateCall := []

inductive RefreshEvent
  | call (userID : Int) (presentedHash nextHash : String) (now clock grace : Int)
  | advance (position : Nat) (clock : Int) (cache : SessionCacheWrite) (fence : Option ModelError) (faults : List Bool)

def refreshMachine (sid : String) : Machine RefreshSystem RefreshEvent where
  step s
    | .call userID presentedHash nextHash now clock grace =>
      { s with calls := s.calls ++ [.start sid userID presentedHash nextHash now clock grace] }
    | .advance position clock cache fence faults =>
      match s.calls[position]? with
      | none => s
      | some c =>
        match c.next sid clock cache fence ⟨s.db, faults⟩ with
        | (.ok after, result) => ⟨result.db, s.calls.set position after⟩
        | (.error _, result) => { s with db := result.db }

end LLMHub
