import LLMHub.Billing.TaskRefund

namespace LLMHub

open Store Action Go

def TaskStatus.ofText (s : String) : TaskStatus :=
  if s = "NOT_START" then .notStart
  else if s = "SUBMITTED" then .submitted
  else if s = "QUEUED" then .queued
  else if s = "IN_PROGRESS" then .inProgress
  else if s = "FAILURE" then .failure
  else if s = "SUCCESS" then .success
  else if s = "UNKNOWN" then .unknown
  else .other s

def TaskStatus.finished : TaskStatus → Bool
  | .success | .failure => true
  | _ => false

/-- `InitTask`, with the identifiers of the relayed request. -/
def initTask (id : Int) (taskID : String) (userId channelId submitTime : Int) : Task :=
  { id, taskID, userId, channelId, quota := 0, status := .notStart, submitTime, progress := "0%" }

/-- `progress != '100%' AND status != 'FAILURE' AND status != 'SUCCESS'`. -/
def unfinishedSync (t : Task) : Bool := t.progress != "100%" && !t.status.finished

def timedOutUnfinished (cutoffUnix : Int) (t : Task) : Bool := unfinishedSync t && decide (t.submitTime < cutoffUnix)

/-- The final quota of a task and why. -/
structure TaskFinalBilling where
  actualQuota : Int
  reason : String

def newBillingTaskSettlementParams (task : Task) (billing : TaskFinalBilling) : BillingTaskSettlementParams where
  taskId := task.id
  requestId := task.privateData.requestId
  userId := task.userId
  tokenId := task.privateData.tokenId
  fundingSource := if task.privateData.billingSource = "" then "wallet" else task.privateData.billingSource
  subscriptionId := task.privateData.subscriptionId
  preQuota := task.quota
  actualQuota := billing.actualQuota
  reason := billing.reason

/-- One task of a Suno answer. -/
structure SunoDataResponse where
  status : String := ""
  failReason : String := ""
  submitTime : Int := 0
  startTime : Int := 0
  finishTime : Int := 0
  data : String := ""
  deriving DecidableEq, Repr

/-- The bytes of both texts agree up to their order. -/
def sameBytes (old new : String) : Bool := old.toUTF8.toList.isPerm new.toUTF8.toList

def taskNeedsUpdate (oldTask : Task) (newTask : SunoDataResponse) : Bool :=
  oldTask.submitTime != newTask.submitTime || oldTask.startTime != newTask.startTime ||
    oldTask.finishTime != newTask.finishTime || oldTask.status != .ofText newTask.status ||
    oldTask.failReason != newTask.failReason || (oldTask.status.finished && oldTask.progress != "100%") ||
    !sameBytes oldTask.data newTask.data

/-- `lo.If(new != zero, new).Else(old)`. -/
def newOr {α : Type} [DecidableEq α] (zero new old : α) : α := if new ≠ zero then new else old

def SunoDataResponse.statusFor (item : SunoDataResponse) (task : Task) : TaskStatus :=
  if item.status ≠ "" then .ofText item.status else task.status

def SunoDataResponse.isFailure (item : SunoDataResponse) (task : Task) : Bool :=
  item.failReason != "" || item.statusFor task == .failure

/-- The copy in memory after an item has been read into it. -/
def SunoDataResponse.into (item : SunoDataResponse) (task : Task) : Task :=
  { task with
    status := if item.isFailure task then .failure else item.statusFor task
    failReason := newOr "" item.failReason task.failReason
    submitTime := newOr 0 item.submitTime task.submitTime
    startTime := newOr 0 item.startTime task.startTime
    finishTime := newOr 0 item.finishTime task.finishTime
    progress := if item.isFailure task ∨ TaskStatus.ofText item.status = .success then "100%" else task.progress
    data := item.data }

/-- How a worker stores its copy: with the intent to settle, with the intent
to refund, or plainly. -/
inductive TaskWrite
  | settle (billing : TaskFinalBilling)
  | refund
  | plain

/-- The compare-and-swap of the row against the status the copy had before. -/
def TaskWrite.store (env : TaskEnv) (task : Task) (fromStatus : TaskStatus) : TaskWrite → Command Bool
  | .settle billing => do
    let stored ← task.updateWithStatusAndBillingSettlement env.toEnv fromStatus (newBillingTaskSettlementParams task billing)
    pure stored.isSome
  | .refund => updateTaskFailureWithRefundIntent env task fromStatus
  | .plain => task.updateWithStatus fromStatus

/-- How `updateSunoTasks` stores the copy. -/
def SunoDataResponse.write (item : SunoDataResponse) (task : Task) : TaskWrite :=
  if (item.into task).status = .success ∧ task.status ≠ .success ∧ item.isFailure task = false then
    .settle ⟨task.quota, "pre-consumed quota finalization"⟩
  else if item.isFailure task ∧ task.status ≠ .failure then .refund
  else .plain

structure TaskInfo where
  status : String := ""
  reason : String := ""
  url : String := ""
  progress : String := ""
  totalTokens : Int := 0
  deriving DecidableEq, Repr

def failTaskInfo (reason : String) : TaskInfo := { status := "FAILURE", reason }

/-- An upstream answer about one video task. The error code matters if the
status is empty: it is missing if the body is no JSON object at all, and
`some none` if it is an object without a recognizable error. The last two
fields are the adaptor's adjustment and the quota for the counted tokens. -/
structure VideoResponse where
  result : TaskInfo
  errorCode : Option (Option String) := none
  data : String := ""
  adjustBilling : Task → Int := fun _ => 0
  quotaByTokens : Task → TaskFinalBilling := fun _ => ⟨0, ""⟩

def calculateTaskBillingOnComplete (response : VideoResponse) (task : Task) : TaskFinalBilling :=
  if task.privateData.perCallBilling then ⟨task.quota, "per-call billing finalization"⟩
  else if response.adjustBilling task > 0 then ⟨response.adjustBilling task, "adaptor计费调整"⟩
  else if response.result.totalTokens > 0 ∧ (response.quotaByTokens task).actualQuota > 0 then response.quotaByTokens task
  else ⟨task.quota, "pre-consumed quota finalization"⟩

/-- The result after the look at an empty status; nothing if the upstream is
only busy. -/
def VideoResponse.effective (response : VideoResponse) : Option TaskInfo :=
  if response.result.status = "" then
    match response.errorCode with
    | none => some response.result
    | some none => some (failTaskInfo "upstream returned unrecognized message")
    | some (some code) => if code = "429" then none else some (failTaskInfo "upstream returned error")
  else some response.result

/-- `taskcommon.BuildProxyURL`. -/
def buildProxyURL (serverAddress taskID : String) : String := serverAddress ++ "/v1/videos/" ++ taskID ++ "/content"

def resultURL (serverAddress : String) (task : Task) (url : String) : String :=
  if url.startsWith "data:" ∨ url = "" then buildProxyURL serverAddress task.taskID else url

/-- What a status makes of the copy; nothing for a status it does not know. -/
def TaskInfo.into (info : TaskInfo) (serverAddress : String) (now : Int) (task : Task) : Option Task :=
  let shown (progress : String) : String := newOr "" info.progress progress
  match TaskStatus.ofText info.status with
  | .submitted => some { task with status := .submitted, progress := shown "10%" }
  | .queued => some { task with status := .queued, progress := shown "20%" }
  | .inProgress => some { task with
      status := .inProgress
      progress := shown "30%"
      startTime := if task.startTime = 0 then now else task.startTime }
  | .success => some { task with
      status := .success
      progress := shown "100%"
      finishTime := if task.finishTime = 0 then now else task.finishTime
      privateData := { task.privateData with resultURL := LLMHub.resultURL serverAddress task info.url } }
  | .failure => some { task with
      status := .failure
      -- the progress of a failure is overwritten before it is read
      progress := "100%"
      finishTime := if task.finishTime = 0 then now else task.finishTime
      failReason := info.reason }
  | _ => none

/-- `taskSnapshot.Equal` on the snapshots of two states of a copy. -/
def Task.sameSnapshot (s t : Task) : Bool :=
  s.status = t.status && s.progress = t.progress && s.startTime = t.startTime && s.finishTime = t.finishTime &&
    s.failReason = t.failReason && s.privateData.resultURL = t.privateData.resultURL && s.data = t.data

/-- How `updateVideoSingleTask` stores the copy it made of `task`, if it does. -/
def VideoResponse.write (response : VideoResponse) (task updated : Task) : Option TaskWrite :=
  if updated.status.finished ∧ task.status ≠ updated.status then
    if updated.status = .success then some (.settle (calculateTaskBillingOnComplete response updated))
    else if task.quota ≠ 0 then some .refund
    else some .plain
  else if task.sameSnapshot updated then none
  else some .plain

/-- The start of the time in which timeouts refund. -/
def taskRefundLegacyCutoff : Int := 1771718400

def Task.isLegacy (task : Task) : Bool := decide (task.submitTime > 0 ∧ task.submitTime < taskRefundLegacyCutoff)

/-- The copy of a task that `sweepTimedOutTasks` gives up. -/
def Task.timedOut (task : Task) (now timeoutMinutes : Int) : Task :=
  { task with
    status := .failure
    progress := "100%"
    finishTime := now
    failReason := if task.isLegacy then "任务超时（旧系统遗留任务，不进行退款，请联系管理员）"
      else "任务超时（" ++ toString timeoutMinutes ++ "分钟）"
    quota := if task.isLegacy then 0 else task.quota }

def Task.timeoutWrite (task : Task) : TaskWrite := if task.isLegacy then .plain else .refund

end LLMHub
