import LLMHub.Schema.SystemTask
import LLMHub.Store.Machine

namespace LLMHub

open Store

/-- How long a lease lasts, in seconds. -/
def systemTaskLockTTL : Int := 60

/-- The statuses a handler finishes its task with. -/
def FinalSystemTaskStatus : Type := { status : SystemTaskStatus // status = .succeeded ∨ status = .failed }

/-- The arguments of `ClaimSystemTask`, and the time it read first. -/
structure SystemTaskClaim where
  id : Int
  taskType : String
  runnerID : String
  lockUntil : Int
  now : Int
  deriving DecidableEq, Repr

/-- A call in progress, by the statement it executes next. -/
inductive SystemTaskCall
  /-- `ClaimSystemTask`: the read of the pending task. -/
  | claimRead (claim : SystemTaskClaim)
  /-- `acquireSystemTaskLock`: the insertion of the lock row. -/
  | claimInsert (claim : SystemTaskClaim) (task : SystemTask)
  | claimLook (claim : SystemTaskClaim) (task : SystemTask)
  | claimTake (claim : SystemTaskClaim) (task : SystemTask) (existing : SystemTaskLock)
  /-- `MarkSystemTaskLeaseExpired` on the task whose lock was taken. -/
  | claimMark (claim : SystemTaskClaim) (task : SystemTask) (expiredTaskID : String)
  /-- The update of the status to running. -/
  | claimSet (claim : SystemTaskClaim) (task : SystemTask)
  | claimLoad (claim : SystemTaskClaim) (task : SystemTask)
  /-- `RenewSystemTaskLock`, before it reads the time. -/
  | renew (taskID lockedBy : String) (lockUntil : Int)
  | renewWrite (taskID lockedBy : String) (lockUntil now : Int)
  | updateState (taskID lockedBy state : String) (now : Int)
  | finish (taskID lockedBy : String) (status : FinalSystemTaskStatus) (result errorMessage : String) (now : Int)
  /-- `ReleaseSystemTaskLock`, the last statement of a finish or of a claim that came too late. -/
  | release (taskID lockedBy : String)
  /-- `ExpireStaleSystemTaskLocks`: the read of the locks. -/
  | expireRead (now : Int)
  | expireMark (now : Int) (lock : SystemTaskLock) (rest : List SystemTaskLock)
  | expireDelete (now : Int) (lock : SystemTaskLock) (rest : List SystemTaskLock)

/-- What a statement leads to: the next one, or the end of the call. -/
inductive SystemTaskProgress
  | next (call : SystemTaskCall)
  | returned
  | claimed (taskID runnerID : String)
  | lockLost

namespace SystemTask

def pendingTask (id : Int) (taskType : String) (t : SystemTask) : Bool :=
  t.id == id && t.type == taskType && t.status == .pending

def start (runnerID : String) (now : Int) : Table.Assignment SystemTask where
  set t := { t with status := .running, lockedBy := runnerID, updatedAt := now }

def runningTask (taskID : String) (t : SystemTask) : Bool := t.taskID == taskID && t.status == .running

def leaseExpired (now : Int) : Table.Assignment SystemTask where
  set t := { t with status := .failed, activeKey := none, error := "task lease expired", updatedAt := now }

def setState (state : String) (now : Int) : Table.Assignment SystemTask where
  set t := { t with state := state, updatedAt := now }

def finished (status : SystemTaskStatus) (result errorMessage : String) (now : Int) : Table.Assignment SystemTask where
  set t := { t with status := status, activeKey := none, result := result, error := errorMessage, updatedAt := now }

end SystemTask

namespace SystemTaskLock

def ofType (taskType : String) (l : SystemTaskLock) : Bool := l.type == taskType

def expired (now : Int) (l : SystemTaskLock) : Bool := l.lockedUntil < now

def heldBy (taskID lockedBy : String) (l : SystemTaskLock) : Bool := l.taskID == taskID && l.lockedBy == lockedBy

def renew (lockUntil now : Int) (l : SystemTaskLock) : SystemTaskLock := { l with lockedUntil := lockUntil, updatedAt := now }

end SystemTaskLock

namespace SystemTaskClaim

def lock (c : SystemTaskClaim) (task : SystemTask) : SystemTaskLock := ⟨c.taskType, task.taskID, c.runnerID, c.lockUntil, c.now⟩

def take (c : SystemTaskClaim) (task : SystemTask) (l : SystemTaskLock) : SystemTaskLock :=
  { l with taskID := task.taskID, lockedBy := c.runnerID, lockedUntil := c.lockUntil, updatedAt := c.now }

def acquired (c : SystemTaskClaim) (task : SystemTask) (expiredTaskID : String) : SystemTaskCall :=
  if expiredTaskID ≠ "" ∧ expiredTaskID ≠ task.taskID then .claimMark c task expiredTaskID else .claimSet c task

end SystemTaskClaim

open SystemTask (pendingTask start runningTask leaseExpired setState finished)
open SystemTaskLock (ofType expired)

namespace SystemTaskTables

def markSystemTaskLeaseExpired (db : SystemTaskTables) (clock : Int) (taskID : String) : SystemTaskTables :=
  { db with tasks := db.tasks.update (runningTask taskID) (leaseExpired clock) }

/-- The rows an update by the holder of a current lock selects. -/
def current (db : SystemTaskTables) (taskID lockedBy : String) (now : Int) (t : SystemTask) : Bool :=
  runningTask taskID t && t.lockedBy == lockedBy &&
    db.locks.rows.any fun l => SystemTaskLock.heldBy t.taskID lockedBy l && !expired now l

def releaseSystemTaskLock (db : SystemTaskTables) (taskID lockedBy : String) : SystemTaskTables :=
  { db with locks := db.locks.delete (SystemTaskLock.heldBy taskID lockedBy) }

end SystemTaskTables

/-- `CreateSystemTask`, which fails if the type has an active task. -/
def createSystemTask (db : SystemTaskTables) (clock : Int) (key taskType payload state : String) : SystemTaskTables :=
  if db.tasks.rows.any fun t => t.activeKey == some taskType then db
  else
    let task : SystemTask := ⟨0, "systask_" ++ key, taskType, .pending, some taskType, payload, state, "", "", "", clock, clock⟩
    match db.tasks.insert task with
    | some (_, tasks) => { db with tasks := tasks }
    | none => db

def expireNext (now : Int) : List SystemTaskLock → SystemTaskProgress
  | [] => .returned
  | lock :: rest => .next (.expireMark now lock rest)

def SystemTaskCall.perform (db : SystemTaskTables) (clock : Int) : SystemTaskCall → SystemTaskTables × SystemTaskProgress
  | .claimRead c =>
    match db.tasks.first (pendingTask c.id c.taskType) with
    | none => (db, .returned)
    | some task => (db, .next (.claimInsert c task))
  | .claimInsert c task =>
    match db.locks.insert (c.lock task) with
    | some locks => ({ db with locks := locks }, .next (c.acquired task ""))
    | none => (db, .next (.claimLook c task))
  | .claimLook c task =>
    match db.locks.first (ofType c.taskType) with
    | none => (db, .returned)
    | some existing => (db, if existing.lockedUntil ≥ c.now then .returned else .next (.claimTake c task existing))
  | .claimTake c task existing =>
    let free := fun l => ofType c.taskType l && expired c.now l
    if db.locks.rows.any free then
      ({ db with locks := db.locks.update free (c.take task) fun _ => rfl }, .next (c.acquired task existing.taskID))
    else (db, .returned)
  | .claimMark c task expiredTaskID => (db.markSystemTaskLeaseExpired clock expiredTaskID, .next (.claimSet c task))
  | .claimSet c task =>
    if db.tasks.count (pendingTask c.id c.taskType) = 0 then (db, .next (.release task.taskID c.runnerID))
    else
      ({ db with tasks := db.tasks.update (pendingTask c.id c.taskType) (start c.runnerID c.now) }, .next (.claimLoad c task))
  | .claimLoad c task => (db, .claimed task.taskID c.runnerID)
  | .renew taskID lockedBy lockUntil => (db, .next (.renewWrite taskID lockedBy lockUntil clock))
  | .renewWrite taskID lockedBy lockUntil now =>
    let held := fun l => SystemTaskLock.heldBy taskID lockedBy l && !expired now l
    ({ db with locks := db.locks.update held (SystemTaskLock.renew lockUntil now) fun _ => rfl },
      if db.locks.rows.any held then .returned else .lockLost)
  | .updateState taskID lockedBy state now =>
    ({ db with tasks := db.tasks.update (db.current taskID lockedBy now) (setState state now) },
      if db.tasks.count (db.current taskID lockedBy now) = 0 then .lockLost else .returned)
  | .finish taskID lockedBy status result errorMessage now =>
    if db.tasks.count (db.current taskID lockedBy now) = 0 then (db, .lockLost)
    else
      ({ db with tasks := db.tasks.update (db.current taskID lockedBy now) (finished status.1 result errorMessage now) },
        .next (.release taskID lockedBy))
  | .release taskID lockedBy => (db.releaseSystemTaskLock taskID lockedBy, .returned)
  | .expireRead now => (db, expireNext now (db.locks.all (expired now)))
  | .expireMark now lock rest =>
    (db.markSystemTaskLeaseExpired clock lock.taskID, .next (.expireDelete now lock rest))
  | .expireDelete now lock rest =>
    let stale := fun l => ofType lock.type l && SystemTaskLock.heldBy lock.taskID lock.lockedBy l && expired now l
    ({ db with locks := db.locks.delete stale }, expireNext now rest)

/-- The tables, the clock, the calls in progress, and the tasks the runners
have been told they claimed. -/
structure SystemTaskSystem where
  db : SystemTaskTables := {}
  clock : Int
  calls : List SystemTaskCall := []
  granted : List (String × String) := []

/-- Time passes, a call begins, or a call executes its next statement. -/
inductive SystemTaskEvent
  | tick (seconds : Nat)
  | create (key taskType payload state : String)
  | claim (id : Int) (taskType runnerID : String) (lockUntil : Int)
  | renew (taskID runnerID : String)
  | updateState (taskID runnerID state : String)
  | finish (taskID runnerID : String) (status : FinalSystemTaskStatus) (result errorMessage : String)
  | expire
  | advance (position : Nat)

namespace SystemTaskSystem

def call (s : SystemTaskSystem) (c : SystemTaskCall) : SystemTaskSystem := { s with calls := s.calls ++ [c] }

def proceed (s : SystemTaskSystem) (position : Nat) : SystemTaskProgress → SystemTaskSystem
  | .next c => { s with calls := s.calls.set position c }
  | .claimed taskID runnerID =>
    { s with calls := s.calls.eraseIdx position, granted := (taskID, runnerID) :: s.granted }
  | .returned => { s with calls := s.calls.eraseIdx position }
  | .lockLost => { s with calls := s.calls.eraseIdx position }

def advance (s : SystemTaskSystem) (position : Nat) (c : SystemTaskCall) : SystemTaskSystem :=
  let (db, progress) := c.perform s.db s.clock
  { s with db := db }.proceed position progress

end SystemTaskSystem

/-- The runners, the scheduler and the sweeper. A lease is renewed by the
heartbeat of a runner that claimed the task. -/
def systemTasks : Machine SystemTaskSystem SystemTaskEvent where
  step s
    | .tick seconds => { s with clock := s.clock + seconds }
    | .create key taskType payload state => { s with db := createSystemTask s.db s.clock key taskType payload state }
    | .claim id taskType runnerID lockUntil => s.call (.claimRead ⟨id, taskType, runnerID, lockUntil, s.clock⟩)
    | .renew taskID runnerID =>
      if (taskID, runnerID) ∈ s.granted then s.call (.renew taskID runnerID (s.clock + systemTaskLockTTL)) else s
    | .updateState taskID runnerID state => s.call (.updateState taskID runnerID state s.clock)
    | .finish taskID runnerID status result errorMessage =>
      s.call (.finish taskID runnerID status result errorMessage s.clock)
    | .expire => s.call (.expireRead s.clock)
    | .advance position =>
      match s.calls[position]? with
      | some c => s.advance position c
      | none => s

end LLMHub
