import LLMHub.TaskPolling.Pollers

namespace LLMHub

open Store Action Go TaskStatus

/-- A task that has not ended does not look complete. -/
def Task.Alive (t : Task) : Prop := t.status.finished = false → t.progress ≠ "100%"

def AliveTasks (db : DB) : Prop := ∀ t ∈ db.tasks.rows, t.Alive

/-- What the two queries that keep a task alive read of it. -/
def DB.outlooks (db : DB) : List (TaskStatus × String) := db.tasks.rows.map fun t => (t.status, t.progress)

section Stores
variable {db db' : DB} {env : TaskEnv} {task : Task} {fromStatus : TaskStatus}

theorem aliveTasks_of_outlooks (same : db'.outlooks = db.outlooks) (alive : AliveTasks db) : AliveTasks db' := by
  intro t member
  have listed : (t.status, t.progress) ∈ db.outlooks :=
    same ▸ List.mem_map_of_mem (f := fun t : Task => (t.status, t.progress)) member
  obtain ⟨old, inside, equal⟩ := List.mem_map.mp listed
  obtain ⟨status, progress⟩ := Prod.mk.inj equal
  have kept := alive old inside
  rw [Task.Alive, status, progress] at kept
  exact kept

theorem AliveTasks.of_keeps {α : Type} {x : Command α} (keeps : x.Keeps DB.tasks) : x.Maintains AliveTasks :=
  keeps.maintains fun _ _ same alive => by
    unfold AliveTasks
    rw [same]
    exact alive

theorem updateWithStatus_alive (alive : task.Alive) : (task.updateWithStatus fromStatus).Maintains AliveTasks := by
  refine .bind (.of_leaves fun db db' holds left => ?_) fun _ => .pure _
  rcases left with ⟨n, returned⟩ | ⟨_, failed⟩
  · obtain ⟨-, rfl⟩ := returned.updateWhere
    intro t member
    obtain ⟨old, inside, ⟨-, rfl⟩ | ⟨-, rfl⟩⟩ := Table.mem_update_cases member
    · exact alive
    · exact holds _ inside
  · rw [failed.updateWhere]
    exact holds

theorem createBillingTaskSettlementTx_keeps (env : Env) (params : BillingTaskSettlementParams) :
    (createBillingTaskSettlementTx env params).Keeps DB.tasks := by
  refine .bind (.insertRow _ fun _ _ => rfl) fun inserted => ?_
  split
  · exact .pure _
  · exact .bind (.findOr _ _) fun _ => .bind (.failIf _ _) fun _ => .pure _

theorem createBillingRefundTx_keeps (env : Env) (params : BillingRefundParams) :
    (createBillingRefundTx env params).Keeps DB.tasks := by
  refine .bind (.insertRow _ fun _ _ => rfl) fun inserted => ?_
  split
  · exact .pure _
  · exact .bind (.findOr _ _) fun _ => .bind (.failIf _ _) fun _ => .pure _

theorem cancelTaskProviderEarning_keeps_tasks (task : Task) : (cancelTaskProviderEarning env task).Keeps DB.tasks :=
  .ite (.pure _) <| .bind (.attempt (cancelHubProviderEarning_keeps _ _ fun _ _ => rfl)) fun _ => .pure _

/-- Only the compare-and-swap touches the tasks. -/
theorem TaskWrite.store_alive (write : TaskWrite) (alive : task.Alive) :
    (write.store env task fromStatus).Maintains AliveTasks := by
  have swap : (task.updateWithStatus fromStatus).Maintains AliveTasks := updateWithStatus_alive alive
  have checked {c : Prop} [Decidable c] (e : ModelError) : (failIf c e : Command Unit).Maintains AliveTasks :=
    ReadOnly.maintains (.failIf _ _)
  cases write with
  | settle billing =>
    refine .bind (.bind (checked _) fun _ => .bind (checked _) fun _ => .ofExcept_bind fun _ _ =>
      .transaction <| .bind swap fun won => ?_) fun _ => .pure _
    split
    · exact .bind (AliveTasks.of_keeps (createBillingTaskSettlementTx_keeps _ _)) fun _ => .pure _
    · exact .pure _
  | refund =>
    refine .bind (checked _) fun _ => ?_
    split
    · refine .bind swap fun won => .bind ?_ fun _ => .pure _
      exact AliveTasks.of_keeps (.onlyIf (cancelTaskProviderEarning_keeps_tasks task))
    · refine .ofExcept_bind fun params _ => .bind (.bind (checked _) fun _ => .bind (checked _) fun _ =>
        .ofExcept_bind fun _ _ => .transaction <| .bind swap fun won => ?_) fun _ => .pure _
      split
      · exact .bind (AliveTasks.of_keeps (createBillingRefundTx_keeps _ _)) fun _ => .pure _
      · exact .pure _
  | plain => exact swap

/-- An update of the quota does not change how a task looks. -/
theorem outlooks_update {p : Task → Bool} {f : Table.Assignment Task}
    (kept : ∀ t, (f.set t).status = t.status ∧ (f.set t).progress = t.progress) (db : DB) :
    DB.outlooks { db with tasks := db.tasks.update p f } = db.outlooks := by
  unfold DB.outlooks Table.update
  rw [List.map_map]
  refine List.map_congr_left fun t _ => ?_
  simp only [Function.comp_apply, Table.rewrite]
  split
  · rw [(kept t).1, (kept t).2]
  · rfl

theorem processBillingTaskSettlement_outlooks {env : Env} {taskId : Int}
    (left : (processBillingTaskSettlement env taskId).Leaves db db') : db'.outlooks = db.outlooks := by
  rcases processBillingTaskSettlement_leaves left with ⟨r, run⟩ | rfl | ⟨_, _, rfl⟩
  · obtain ⟨settlement, -, ⟨-, rfl⟩ | ⟨-, ⟨stages⟩⟩⟩ := processBillingTaskSettlementTx_returns run
    · rfl
    · have moved : stages.moved.tasks = db.tasks := (Keeps.onlyIf (settlementMoves_keeps settlement stages.task
        (fun _ _ => rfl) (fun _ _ => rfl) (fun _ _ => rfl) fun _ _ => rfl)).returns stages.move
      have retasked : stages.retasked.outlooks = stages.moved.outlooks := by
        rcases stages.retask.onlyIf with ⟨-, run⟩ | ⟨-, same⟩
        · obtain ⟨-, rest⟩ := run.updateWhere_bind.failIf
          rw [rest]
          exact outlooks_update (fun _ => ⟨rfl, rfl⟩) _
        · rw [same]
      refine (congrArg DB.outlooks stages.final).trans ?_
      change stages.retasked.outlooks = db.outlooks
      rw [retasked, DB.outlooks, moved]
      rfl
  · rfl
  · rfl

theorem processBillingRefund_outlooks {env : Env} {requestId : String}
    (left : (processBillingRefund env requestId).Leaves db db') : db'.outlooks = db.outlooks := by
  rcases processBillingRefund_leaves left with ⟨r, run⟩ | rfl | ⟨_, rfl⟩
  · obtain ⟨refund, -, ⟨-, rfl⟩ | ⟨-, ⟨stages⟩⟩⟩ := processBillingRefundTx_returns run
    · rfl
    · have cancelled : stages.cancelled.tasks = db.tasks :=
        (cancelHubProviderEarningTx_keeps env refund.requestId fun _ _ => rfl).returns stages.cancel
      have paid : stages.returned.tasks = stages.cancelled.tasks :=
        stages.paid (fun _ _ => rfl) (fun _ _ => rfl) (fun _ _ => rfl) fun _ _ => rfl
      have cleared : stages.cleared.outlooks = stages.returned.outlooks := by
        rcases stages.clear.onlyIf with ⟨-, run⟩ | ⟨-, same⟩
        · rw [run.updateWhere_bind.pure.2]
          exact outlooks_update (fun _ => ⟨rfl, rfl⟩) _
        · rw [same]
      refine (congrArg DB.outlooks stages.final).trans ?_
      change stages.cleared.outlooks = db.outlooks
      rw [cleared, DB.outlooks, paid, cancelled]
      rfl
  · rfl
  · rfl

end Stores

/-- No task looks complete that has not ended, neither in the database nor in
a worker's memory. -/
structure PollingSystem.Sound (s : PollingSystem) : Prop where
  stored : AliveTasks s.db
  held : ∀ t ∈ s.copies, t.Alive

/-- An answer is about a task that the worker has not yet seen end, and it
does not report full progress while the task still runs. -/
def PollingEvent.Plausible (s : PollingSystem) : PollingEvent → Prop
  | .suno position _ _ _ => ∀ task, s.copies[position]? = some task → task.status.finished = false
  | .video position response _ _ _ => (∀ task, s.copies[position]? = some task → task.status.finished = false) ∧
      ((ofText response.result.status).finished = false → response.result.progress ≠ "100%")
  | _ => True

section Steps
variable {s : PollingSystem} {task updated : Task} {env : TaskEnv} {faults : List Bool}

theorem unfinishedSync_alive {t : Task} (unfinished : unfinishedSync t = true) : t.Alive := by
  intro _
  simp only [unfinishedSync, Bool.and_eq_true, bne_iff_ne] at unfinished
  exact unfinished.1

theorem PollingSystem.Sound.store (sound : s.Sound) (position : Nat) (write : Option TaskWrite) (alive : updated.Alive) :
    (s.store position task updated write env faults).Sound where
  stored := by
    cases write with
    | none => exact sound.stored
    | some write => exact write.store_alive alive ⟨s.db, faults⟩ sound.stored
  held t member := by
    rcases List.mem_or_eq_of_mem_set member with old | rfl
    · exact sound.held t old
    · exact alive

/-- An item leaves a running task as incomplete as it was, or ends it. -/
theorem SunoDataResponse.into_alive (item : SunoDataResponse) (running : task.status.finished = false)
    (alive : task.Alive) : (item.into task).Alive := by
  intro unfinished
  have goesOn : item.isFailure task = false := by
    by_contra failed
    simp [SunoDataResponse.into, Bool.not_eq_false] at unfinished failed
    simp [failed, finished] at unfinished
  have incomplete : ofText item.status ≠ .success := by
    intro success
    have named : item.status ≠ "" := by
      rintro empty
      rw [empty] at success
      revert success
      decide
    simp [SunoDataResponse.into, goesOn, SunoDataResponse.statusFor, named, success, finished] at unfinished
  simp only [SunoDataResponse.into, goesOn, incomplete, Bool.false_eq_true, or_self, if_false]
  exact alive running

theorem newOr_ne {progress shown : String} (sane : progress ≠ "100%") (less : shown ≠ "100%") :
    newOr "" progress shown ≠ "100%" := by
  unfold newOr
  split
  · exact sane
  · exact less

/-- A status that is not the last one is stored with its own progress or the
reported one. -/
theorem TaskInfo.into_alive {info : TaskInfo} {serverAddress : String} {now : Int}
    (sane : (ofText info.status).finished = false → info.progress ≠ "100%")
    (read : info.into serverAddress now task = some updated) : updated.Alive := by
  intro unfinished
  unfold TaskInfo.into at read
  cases status : ofText info.status <;> simp only [status, reduceCtorEq, Option.some.injEq] at read sane <;>
    subst read
  case submitted => exact newOr_ne (sane rfl) (by decide)
  case queued => exact newOr_ne (sane rfl) (by decide)
  case inProgress => exact newOr_ne (sane rfl) (by decide)
  case success => cases unfinished
  case failure => cases unfinished

theorem VideoResponse.effective_sane {response : VideoResponse} {info : TaskInfo}
    (sane : (ofText response.result.status).finished = false → response.result.progress ≠ "100%")
    (read : response.effective = some info) :
    (ofText info.status).finished = false → info.progress ≠ "100%" := by
  unfold VideoResponse.effective at read
  split at read
  · split at read
    · cases read
      exact sane
    · cases read
      decide
    · split at read
      · cases read
      · cases read
        decide
  · cases read
    exact sane

theorem PollingSystem.Sound.video (sound : s.Sound) {position : Nat} {response : VideoResponse} (serverAddress : String)
    (held : s.copies[position]? = some task) (running : task.status.finished = false)
    (sane : (ofText response.result.status).finished = false → response.result.progress ≠ "100%") :
    (s.video position task response serverAddress env faults).Sound := by
  have incomplete : task.progress ≠ "100%" := sound.held task (List.mem_of_getElem? held) running
  unfold PollingSystem.video
  cases effective : response.effective with
  | none => exact sound.store position none fun _ => incomplete
  | some info =>
    simp only
    cases read : info.into serverAddress env.now { task with data := response.data } with
    | none => exact sound.store position none fun _ => incomplete
    | some updated =>
      exact sound.store position _ (TaskInfo.into_alive (VideoResponse.effective_sane sane effective) read)

theorem PollingSystem.Sound.step (sound : s.Sound) (event : PollingEvent) (sane : event.Plausible s) :
    (polling.step s event).Sound := by
  cases event with
  | submit submission =>
    simp only [polling]
    split
    · rename_i stored tasks inserted
      refine ⟨fun t member => ?_, sound.held⟩
      rcases (Table.mem_insert inserted).mp member with old | rfl
      · exact sound.stored t old
      · rw [(Table.insert_cases inserted).2.1]
        exact fun _ => (by decide : "0%" ≠ "100%")
    · exact sound
  | load limit =>
    refine ⟨sound.stored, fun t member => ?_⟩
    rcases List.mem_append.mp member with old | read
    · exact sound.held t old
    · exact unfinishedSync_alive (List.mem_filter.mp (List.mem_of_mem_take read)).2
  | loadTimedOut cutoffUnix limit =>
    refine ⟨sound.stored, fun t member => ?_⟩
    rcases List.mem_append.mp member with old | read
    · exact sound.held t old
    · have listed := (List.mem_filter.mp ((List.mem_insertionSort _).mp (List.mem_of_mem_take read))).2
      exact unfinishedSync_alive (Bool.and_eq_true_iff.mp listed).1
  | suno position item env faults =>
    simp only [polling]
    split
    · rename_i task held
      unfold PollingSystem.suno
      split
      · exact sound.store position _ (item.into_alive (sane task held) (sound.held task (List.mem_of_getElem? held)))
      · exact sound
    · exact sound
  | video position response serverAddress env faults =>
    simp only [polling]
    split
    · rename_i task held
      exact sound.video serverAddress held (sane.1 task held) sane.2
    · exact sound
  | sweep position timeoutMinutes env faults =>
    simp only [polling]
    split
    · exact sound.store position _ fun unfinished => by cases unfinished
    · exact sound
  | settle taskId env faults =>
    refine ⟨aliveTasks_of_outlooks ?_ sound.stored, sound.held⟩
    exact processBillingTaskSettlement_outlooks (leaves_run _ ⟨s.db, faults⟩)
  | refund requestId env faults =>
    refine ⟨aliveTasks_of_outlooks ?_ sound.stored, sound.held⟩
    exact processBillingRefund_outlooks (leaves_run _ ⟨s.db, faults⟩)

end Steps

/-- In every run of sane answers, a task that has not ended is returned by
both queries that keep it alive. -/
theorem unfinished_stays_polled (db : DB) (fresh : db.tasks.rows = []) (events : List PollingEvent)
    (sane : polling.Permits (fun s event => event.Plausible s) ⟨db, []⟩ events) (task : Task)
    (stored : task ∈ (polling.run ⟨db, []⟩ events).db.tasks.rows) (running : task.status.finished = false) :
    task.progress ≠ "100%" ∧ task ∈ (polling.run ⟨db, []⟩ events).db.tasks.rows.filter unfinishedSync ∧
      ∀ cutoffUnix, task.submitTime < cutoffUnix →
        task ∈ (polling.run ⟨db, []⟩ events).db.tasks.rows.filter (timedOutUnfinished cutoffUnix) := by
  have start : PollingSystem.Sound ⟨db, []⟩ := ⟨by simp [AliveTasks, fresh], by simp⟩
  have sound := sane.keeps PollingSystem.Sound (fun _ event allowed holds => holds.step event allowed) start
  have incomplete := sound.stored task stored running
  have polled : unfinishedSync task = true := by simp [unfinishedSync, incomplete, running]
  refine ⟨incomplete, List.mem_filter.mpr ⟨stored, polled⟩, fun cutoffUnix late => List.mem_filter.mpr ⟨stored, ?_⟩⟩
  simp [timedOutUnfinished, polled, late]

def clipSubmission : TaskSubmission where
  taskID := "task_1"
  userId := 7
  channelId := 3
  submitTime := 500
  quota := 100
  privateData := {}
  data := ""

def pollingEnv : TaskEnv := { plainEnv with generateHMAC := id }

/-- A video task is submitted, read by a poller and answered. -/
def answered (result : TaskInfo) : List PollingEvent :=
  [.submit clipSubmission, .load 10, .video 0 { result } "" pollingEnv []]

def halfDone : TaskInfo := { status := "IN_PROGRESS", progress := "50%" }

theorem halfDone_stays_polled :
    ∃ task ∈ (polling.run ⟨{}, []⟩ (answered halfDone)).db.tasks.rows, task.status = .inProgress ∧
      task ∈ (polling.run ⟨{}, []⟩ (answered halfDone)).db.tasks.rows.filter unfinishedSync := by
  have sane : polling.Permits (fun s event => event.Plausible s) ⟨{}, []⟩ (answered halfDone) :=
    ⟨trivial, trivial, ⟨by decide +kernel, fun _ => by decide⟩, trivial⟩
  have begun : ∃ task ∈ (polling.run ⟨{}, []⟩ (answered halfDone)).db.tasks.rows, task.status = .inProgress := by
    decide +kernel
  obtain ⟨task, stored, status⟩ := begun
  have running : task.status.finished = false := by rw [status]; rfl
  exact ⟨task, stored, status, (unfinished_stays_polled {} rfl (answered halfDone) sane task stored running).2.1⟩

/-- An upstream that reports the full progress before the success takes the
task out of both queries. -/
theorem fullProgress_strands :
    let tasks := (polling.run ⟨{}, []⟩ (answered { halfDone with progress := "100%" })).db.tasks.rows
    tasks.map (fun task => (task.status, task.progress, task.quota)) = [(.inProgress, "100%", 100)] ∧
      tasks.filter unfinishedSync = [] ∧ ∀ cutoffUnix, tasks.filter (timedOutUnfinished cutoffUnix) = [] := by
  have lost : ∀ task ∈ (polling.run ⟨{}, []⟩ (answered { halfDone with progress := "100%" })).db.tasks.rows,
      unfinishedSync task = false := by decide +kernel
  refine ⟨by decide +kernel, by decide +kernel, fun cutoffUnix => List.filter_eq_nil_iff.mpr fun task member late => ?_⟩
  have polled := (Bool.and_eq_true_iff.mp late).1
  rw [lost task member] at polled
  cases polled

end LLMHub
