import LLMHub.Store.Expiring
import LLMHub.UserSession.Refresh

namespace LLMHub

open Store

def userSessionCacheSchema : Int := 1

/-- The fields of a cached session that are read again, and those a revocation
sets. -/
structure UserSessionCacheEntry where
  sid : String
  userID : Int
  version : Int
  userAuthVersion : Int
  status : UserSessionStatus
  lastActiveAt : Int
  expiresAt : Int
  revokedAt : Int
  revokedReason : String
  cacheSchema : Int
  deriving DecidableEq, Repr

def UserSession.cacheEntry (s : UserSession) : UserSessionCacheEntry :=
  ⟨s.sid, s.userID, s.version, s.userAuthVersion, s.status, s.lastActiveAt, s.expiresAt, s.revokedAt, s.revokedReason,
    userSessionCacheSchema⟩

/-- What the writes and reads of the cache answer. -/
inductive SessionCacheAnswer
  | done
  | invalid
  | stale
  | inactive
  deriving DecidableEq, Repr

/-- The cached session, by `getUserSessionCache`. `none` is a miss. -/
def getUserSessionCache (sid : String) (clock : Int) (cache : Option (Expiring UserSessionCacheEntry)) :
    Option (Except SessionCacheAnswer UserSessionCacheEntry) :=
  match Expiring.live clock cache with
  | none => none
  | some entry =>
    if entry.cacheSchema ≠ userSessionCacheSchema ∨ entry.sid ≠ sid ∨ entry.userID ≤ 0 ∨ entry.version ≤ 0 ∨
        entry.userAuthVersion ≤ 0 then none
    else if entry.status ≠ .active ∨ entry.revokedAt ≠ 0 ∨ entry.expiresAt ≤ clock / 1000 then some (.error .inactive)
    else some (.ok entry)

namespace UserSessionCacheEntry

/-- The argument of the expiry command: the time for an active entry, the
rest of the session but at most the cache's time to live for the others.
`deadline` is `none` for the zero time; all times are in milliseconds. -/
def redisExpiration (ttl clock : Int) (entry : UserSessionCacheEntry) (deadline : Option Int) :
    Except SessionCacheAnswer Int :=
  let sessionTTL := entry.expiresAt * 1000 - clock
  if entry.status = .active then
    match deadline with
    | none => .error .invalid
    | some deadline =>
      if deadline - clock ≤ 0 then .error .stale
      else if sessionTTL ≤ 0 then .error .inactive
      else .ok (min deadline (entry.expiresAt * 1000))
  else
    let rest := min sessionTTL ttl
    .ok (if rest ≤ 0 then 1000 else rest)

def cachedVersion (clock : Int) (cache : Option (Expiring UserSessionCacheEntry)) : Int :=
  ((Expiring.live clock cache).map (·.version)).getD 0

/-- The script of `writeUserSessionCache`. -/
def script (clock expiration : Int) (entry : UserSessionCacheEntry) (cache : Option (Expiring UserSessionCacheEntry)) :
    Bool × Option (Expiring UserSessionCacheEntry) :=
  let current := Expiring.live clock cache
  if entry.status = .active ∧ (current.any fun e => e.status == .revoking || e.status == .revoked) then (false, cache)
  else if entry.version < cachedVersion clock cache then (false, cache)
  else
    (true, if entry.status = .active then Expiring.expireAt clock expiration entry else Expiring.expireIn clock expiration entry)

/-- The check after an active entry was written. -/
def completed (clock deadline : Int) (entry : UserSessionCacheEntry) : SessionCacheAnswer :=
  if deadline ≤ clock then .stale else if entry.expiresAt * 1000 ≤ clock then .inactive else .done

end UserSessionCacheEntry

/-- The arguments of `RotateUserSessionRefresh`. -/
structure RotateArgs where
  userID : Int
  presentedHash : String
  nextHash : String
  now : Int
  graceSeconds : Int
  deriving DecidableEq, Repr

/-- The arguments of `RevokeUserSession`, and the second it began in. -/
structure RevokeArgs where
  userID : Int
  reason : String
  now : Int
  deriving DecidableEq, Repr

structure AdvanceArgs where
  userID : Int
  expectedSessionVersion : Int
  expectedUserAuthVersion : Int
  nextUserAuthVersion : Int
  deriving DecidableEq, Repr

/-- Whose cache write it is. `late` says that a revocation had returned before
the call began. -/
inductive CachePurpose
  | fill (late : Bool) (session : UserSession)
  | inactiveRow
  | rotated (session : UserSession)
  | reuseFence (r : RotateArgs) (session : UserSession)
  | reuseFinal
  | revokeFence (r : RevokeArgs) (candidate : UserSession)
  | revokeFinal
  | advanced (session : UserSession)
  deriving DecidableEq, Repr

/-- A call in progress, by what it does next. -/
inductive SessionCall
  /-- `GetUserSessionCached`: the read of the cache. -/
  | getCache (late : Bool)
  | getLoad (late : Bool) (deadline : Int)
  | rotateRead (r : RotateArgs) (tries : Nat) (deadline : Int)
  | rotateUpdate (r : RotateArgs) (tries : Nat) (deadline : Int) (session : UserSession)
  | reuseUpdate (r : RotateArgs) (session : UserSession)
  | revokeRead (r : RevokeArgs)
  | revokeTransaction (r : RevokeArgs) (candidate : UserSession)
  | advanceTransaction (a : AdvanceArgs) (deadline now : Int)
  /-- `writeUserSessionCache`: the time, the script and the time after it. -/
  | write (purpose : CachePurpose) (entry : UserSessionCacheEntry) (deadline : Option Int)
  | script (purpose : CachePurpose) (entry : UserSessionCacheEntry) (deadline : Option Int) (expiration : Int)
  | completed (purpose : CachePurpose) (entry : UserSessionCacheEntry) (deadline : Int)
  | confirm (purpose : CachePurpose) (session : UserSession)
  deriving DecidableEq, Repr

/-- The next step of a call, or its end: `served` if `GetUserSessionCached`
returns the session, `revoked` if `RevokeUserSession` returns true. -/
inductive SessionProgress
  | next (call : SessionCall)
  | returned
  | served (late : Bool)
  | revoked
  deriving DecidableEq, Repr

namespace UserSession

def activeRow (s : UserSession) : Bool := s.status == .active

def revoke (now : Int) (reason : String) : Table.Assignment UserSession where
  set s := { s with status := .revoked, revokedAt := now, revokedReason := reason }

def advance (version userAuthVersion now : Int) : Table.Assignment UserSession where
  set s := { s with version := version, userAuthVersion := userAuthVersion, lastActiveAt := now }

def fence (s : UserSession) (status : UserSessionStatus) (now : Int) (reason : String) : UserSessionCacheEntry :=
  { s.cacheEntry with status := status, revokedAt := now, revokedReason := reason }

end UserSession

/-- What follows a cache write. -/
def CachePurpose.after : CachePurpose → SessionCacheAnswer → SessionProgress
  | .fill late session, .stale => .next (.confirm (.fill late session) session)
  | .fill _ _, .inactive => .returned
  | .fill late _, _ => .served late
  | .inactiveRow, _ => .returned
  | .rotated session, .stale => .next (.confirm (.rotated session) session)
  | .rotated _, _ => .returned
  | .reuseFence r session, .done => .next (.reuseUpdate r session)
  | .reuseFence _ _, _ => .returned
  | .reuseFinal, _ => .returned
  | .revokeFence r candidate, .done => .next (.revokeTransaction r candidate)
  | .revokeFence _ _, _ => .returned
  | .revokeFinal, _ => .revoked
  | .advanced session, .stale => .next (.confirm (.advanced session) session)
  | .advanced _, _ => .returned

/-- After the snapshot of a stale write was found to be current still. -/
def CachePurpose.confirmed : CachePurpose → SessionProgress
  | .fill late _ => .served late
  | _ => .returned

/-- `confirmUserSessionActiveSnapshot`. -/
def confirmsSnapshot (session : UserSession) (now : Int) (s : UserSession) : Bool :=
  activeSession session.sid session.userID now s && s.version == session.version && s.userAuthVersion == session.userAuthVersion

/-- The row of one session and its cache entry. -/
structure SessionStore where
  sessions : Table UserSession := .empty
  cache : Option (Expiring UserSessionCacheEntry) := none

/-- One round of the loop of a rotation after the read. -/
def RotateArgs.resolve (r : RotateArgs) (tries : Nat) (deadline : Int) (session : UserSession) : SessionProgress :=
  if ¬session.Active r.now then .returned
  else if session.refreshHash = r.presentedHash then .next (.rotateUpdate r tries deadline session)
  else if session.previousRefreshHash = "" ∨ session.previousRefreshHash ≠ r.presentedHash then .returned
  else if r.now ≤ session.previousValidUntil then .returned
  else .next (.write (.reuseFence r session) (session.fence .revoking r.now "refresh_reuse") none)

/-- One step of a call; `clock` is in milliseconds, `ttl` the time to live of
the cache. -/
def SessionCall.perform (sid : String) (ttl clock : Int) (s : SessionStore) : SessionCall → SessionStore × SessionProgress
  | .getCache late =>
    (s, match getUserSessionCache sid clock s.cache with
      | some (.ok _) => .served late
      | some (.error _) => .returned
      | none => .next (.getLoad late (clock + ttl)))
  | .getLoad late deadline =>
    (s, match s.sessions.first (fun x => x.sid == sid) with
      | none => .returned
      | some session =>
        if session.Active (clock / 1000) then .next (.write (.fill late session) session.cacheEntry (some deadline))
        else .next (.write .inactiveRow { session.cacheEntry with status := .revoked } none))
  | .rotateRead r tries deadline =>
    (s, match s.sessions.first (sessionIs sid r.userID) with
      | none => .returned
      | some session => r.resolve tries deadline session.afterFind)
  | .rotateUpdate r tries deadline session =>
    let current := fun x => activeSession sid r.userID r.now x && x.refreshHash == r.presentedHash
    let rotation := UserSession.rotate session.refreshHash r.nextHash (r.now + r.graceSeconds) r.now
    if s.sessions.count current = 0 then
      (s, match tries with
        | 0 => .returned
        | tries + 1 => .next (.rotateRead r tries (clock + ttl)))
    else
      ({ s with sessions := s.sessions.update current rotation },
        .next (.write (.rotated (rotation.set session)) (rotation.set session).cacheEntry (some deadline)))
  | .reuseUpdate r session =>
    let active := activeSession sid r.userID r.now
    if s.sessions.count active = 0 then (s, .returned)
    else
      ({ s with sessions := s.sessions.update active (UserSession.revokeReuse r.now) },
        .next (.write .reuseFinal (session.fence .revoked r.now "refresh_reuse") none))
  | .revokeRead r =>
    (s, match s.sessions.first (sessionIs sid r.userID) with
      | none => .returned
      | some candidate =>
        if candidate.Active r.now then .next (.write (.revokeFence r candidate) (candidate.fence .revoking r.now r.reason) none)
        else .returned)
  | .revokeTransaction r candidate =>
    match s.sessions.first (sessionIs sid r.userID) with
    | none => (s, .returned)
    | some current =>
      if current.Active r.now then
        ({ s with sessions := s.sessions.update (fun x => x.sid == sid && x.activeRow) (UserSession.revoke r.now r.reason) },
          .next (.write .revokeFinal (candidate.fence .revoked r.now r.reason) none))
      else (s, .returned)
  | .advanceTransaction a deadline now =>
    match s.sessions.first (sessionIs sid a.userID) with
    | none => (s, .returned)
    | some session =>
      if session.status ≠ .active ∨ session.expiresAt ≤ now ∨ session.version ≠ a.expectedSessionVersion ∨
          session.userAuthVersion ≠ a.expectedUserAuthVersion then (s, .returned)
      else
        let step := UserSession.advance (session.version + 1) a.nextUserAuthVersion now
        ({ s with
            sessions := s.sessions.update (fun x => x.sid == sid && x.activeRow && x.version == a.expectedSessionVersion &&
              x.userAuthVersion == a.expectedUserAuthVersion) step },
          .next (.write (.advanced (step.set session)) (step.set session).cacheEntry (some deadline)))
  | .write purpose entry deadline =>
    (s, match entry.redisExpiration ttl clock deadline with
      | .ok expiration => .next (.script purpose entry deadline expiration)
      | .error answer => purpose.after answer)
  | .script purpose entry deadline expiration =>
    let (accepted, cache) := entry.script clock expiration s.cache
    ({ s with cache := cache },
      if accepted then
        match deadline with
        | some deadline => .next (.completed purpose entry deadline)
        | none => purpose.after .done
      else purpose.after .inactive)
  | .completed purpose entry deadline => (s, purpose.after (entry.completed clock deadline))
  | .confirm purpose session =>
    (s, if s.sessions.count (confirmsSnapshot session (clock / 1000)) = 1 then purpose.confirmed else .returned)

/-- The store, the clock, the calls in progress, whether a revocation has
returned true, and the calls of `GetUserSessionCached` that returned the
session. -/
structure SessionSystem where
  store : SessionStore
  clock : Int
  calls : List SessionCall := []
  revoked : Bool := false
  served : List Bool := []

inductive SessionEvent
  | tick (milliseconds : Nat)
  | get
  | rotate (r : RotateArgs)
  | revoke (userID : Int) (reason : String)
  | advance (a : AdvanceArgs)
  | step (position : Nat)

namespace SessionSystem

def call (s : SessionSystem) (c : SessionCall) : SessionSystem := { s with calls := s.calls ++ [c] }

def proceed (s : SessionSystem) (position : Nat) : SessionProgress → SessionSystem
  | .next c => { s with calls := s.calls.set position c }
  | .returned => { s with calls := s.calls.eraseIdx position }
  | .served late => { s with calls := s.calls.eraseIdx position, served := late :: s.served }
  | .revoked => { s with calls := s.calls.eraseIdx position, revoked := true }

def advance (sid : String) (ttl : Int) (s : SessionSystem) (position : Nat) (c : SessionCall) : SessionSystem :=
  let (store, progress) := c.perform sid ttl s.clock s.store
  { s with store := store }.proceed position progress

end SessionSystem

/-- The calls on one session. A call with arguments that are refused does
nothing. -/
def sessionMachine (sid : String) (ttl : Int) : Machine SessionSystem SessionEvent where
  step s
    | .tick milliseconds => { s with clock := s.clock + milliseconds }
    | .get => if sid = "" then s else s.call (.getCache s.revoked)
    | .rotate r =>
      if r.userID ≤ 0 ∨ sid = "" ∨ r.presentedHash = "" ∨ r.nextHash = "" ∨ r.presentedHash = r.nextHash ∨ r.graceSeconds < 0 then s
      else s.call (.rotateRead { r with now := if r.now ≤ 0 then s.clock / 1000 else r.now } 2 (s.clock + ttl))
    | .revoke userID reason =>
      if userID ≤ 0 ∨ sid = "" then s else s.call (.revokeRead ⟨userID, reason, s.clock / 1000⟩)
    | .advance a =>
      if a.userID ≤ 0 ∨ sid = "" ∨ a.expectedSessionVersion ≤ 0 ∨ a.expectedUserAuthVersion ≤ 0 ∨
          a.nextUserAuthVersion ≤ a.expectedUserAuthVersion then s
      else s.call (.advanceTransaction a (s.clock + ttl) (s.clock / 1000))
    | .step position =>
      match s.calls[position]? with
      | some c => s.advance sid ttl position c
      | none => s

end LLMHub
