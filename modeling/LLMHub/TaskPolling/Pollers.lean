import LLMHub.TaskPolling.Updates
import LLMHub.Billing.SettlementReturn
import LLMHub.Store.Machine

namespace LLMHub

open Store Action Go

/-- The database and the copies of task rows that workers hold: each poller
and each sweep acts on the rows it has read, whatever happened to them since. -/
structure PollingSystem where
  db : DB
  copies : List Task := []

/-- What `RelayTask` fills in before it inserts the row of `InitTask`. -/
structure TaskSubmission where
  taskID : String
  userId : Int
  channelId : Int
  submitTime : Int
  quota : Int
  privateData : TaskPrivateData
  data : String

def TaskSubmission.row (submission : TaskSubmission) : Task :=
  { initTask 0 submission.taskID submission.userId submission.channelId submission.submitTime with
    quota := submission.quota
    privateData := submission.privateData
    data := submission.data }

/-- The settlement and the refund of a task that are on record may be processed
at any time, by the worker that recorded them or by a recovery run. -/
inductive PollingEvent
  | submit (submission : TaskSubmission)
  | load (limit : Nat)
  | loadTimedOut (cutoffUnix : Int) (limit : Nat)
  | suno (position : Nat) (item : SunoDataResponse) (env : TaskEnv) (faults : List Bool)
  | video (position : Nat) (response : VideoResponse) (serverAddress : String) (env : TaskEnv) (faults : List Bool)
  | sweep (position : Nat) (timeoutMinutes : Int) (env : TaskEnv) (faults : List Bool)
  | settle (taskId : Int) (env : Env) (faults : List Bool)
  | refund (requestId : String) (env : Env) (faults : List Bool)

/-- A worker changes its copy, and stores it if it has something to store. -/
def PollingSystem.store (s : PollingSystem) (position : Nat) (task updated : Task) (write : Option TaskWrite) (env : TaskEnv)
    (faults : List Bool) : PollingSystem where
  db := match write with
    | some write => (write.store env updated task.status ⟨s.db, faults⟩).2.db
    | none => s.db
  copies := s.copies.set position updated

def PollingSystem.suno (s : PollingSystem) (position : Nat) (task : Task) (item : SunoDataResponse) (env : TaskEnv)
    (faults : List Bool) : PollingSystem :=
  if taskNeedsUpdate task item then s.store position task (item.into task) (some (item.write task)) env faults else s

/-- `updateVideoSingleTask` after the answer has been read. -/
def PollingSystem.video (s : PollingSystem) (position : Nat) (task : Task) (response : VideoResponse) (serverAddress : String)
    (env : TaskEnv) (faults : List Bool) : PollingSystem :=
  let held := { task with data := response.data }
  match response.effective with
  | none => s.store position task held none env faults
  | some info =>
    match info.into serverAddress env.now held with
    | none => s.store position task { held with status := .ofText info.status } none env faults
    | some updated => s.store position task updated (response.write task updated) env faults

/-- Every answer, every order and every failed statement is some list of
events. -/
def polling : Machine PollingSystem PollingEvent where
  step s
    | .submit submission =>
      match s.db.tasks.insert submission.row with
      | some (_, tasks) => { s with db := { s.db with tasks := tasks } }
      | none => s
    | .load limit => { s with copies := s.copies ++ (s.db.tasks.rows.filter unfinishedSync).take limit }
    | .loadTimedOut cutoffUnix limit => { s with
        copies := s.copies ++
          ((s.db.tasks.rows.filter (timedOutUnfinished cutoffUnix)).insertionSort
            fun s t => s.submitTime ≤ t.submitTime).take limit }
    | .suno position item env faults =>
      match s.copies[position]? with
      | some task => s.suno position task item env faults
      | none => s
    | .video position response serverAddress env faults =>
      match s.copies[position]? with
      | some task => s.video position task response serverAddress env faults
      | none => s
    | .sweep position timeoutMinutes env faults =>
      match s.copies[position]? with
      | some task => s.store position task (task.timedOut env.now timeoutMinutes) (some task.timeoutWrite) env faults
      | none => s
    | .settle taskId env faults => { s with db := (processBillingTaskSettlement env taskId ⟨s.db, faults⟩).2.db }
    | .refund requestId env faults => { s with db := (processBillingRefund env requestId ⟨s.db, faults⟩).2.db }

end LLMHub
