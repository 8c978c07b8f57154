import LLMHub.SystemTask.NoOrphan

namespace LLMHub

open Store SystemTaskCall
open SystemTask (pendingTask start runningTask leaseExpired setState finished)
open SystemTaskLock (ofType expired)

namespace SystemTaskCall

/-- The task that the next statement fails, if it is `MarkSystemTaskLeaseExpired`. -/
def expires : SystemTaskCall → Option String
  | .claimMark _ _ expiredTaskID => some expiredTaskID
  | .expireMark _ lock _ => some lock.taskID
  | _ => none

/-- The tasks the call has decided to fail. -/
def dooms : SystemTaskCall → List String
  | .claimMark _ _ expiredTaskID => [expiredTaskID]
  | .expireMark _ lock rest => lock.taskID :: rest.map (·.taskID)
  | .expireDelete _ _ rest => rest.map (·.taskID)
  | _ => []

/-- The task whose lock the next statement writes. -/
def writesLock : SystemTaskCall → Option String
  | .claimInsert _ task => some task.taskID
  | .claimTake _ task _ => some task.taskID
  | .renewWrite taskID _ _ _ => some taskID
  | _ => none

theorem mem_dooms_of_expires {call : SystemTaskCall} {taskID : String} (expires : call.expires = some taskID) :
    taskID ∈ call.dooms := by
  cases call with
  | claimMark c task expiredTaskID | expireMark now lock rest =>
    obtain rfl := Option.some.inj expires
    exact List.mem_cons_self
  | _ => cases expires

end SystemTaskCall

namespace SystemTaskSystem

/-- No lock is written for a task that a call in progress has decided to fail. -/
def undisturbed (s : SystemTaskSystem) : SystemTaskEvent → Bool
  | .advance position =>
    match s.calls[position]? with
    | some call => call.writesLock.all fun taskID => s.calls.all fun other => !other.dooms.contains taskID
    | none => true
  | _ => true

end SystemTaskSystem

variable {next : SystemTaskCall}

section Perform

variable {db : SystemTaskTables} {clock : Int} {call : SystemTaskCall}

theorem perform_tasks (db : SystemTaskTables) (clock : Int) (call : SystemTaskCall) :
    db.TasksFollow (call.perform db clock).1 := by
  have marked : ∀ taskID, db.TasksFollow (db.markSystemTaskLeaseExpired clock taskID) := fun taskID =>
    .of_update (p := runningTask taskID) (f := leaseExpired clock) rfl (fun _ => rfl) nofun nofun
  cases call with
  | claimRead c | claimInsert c task | claimLook c task | claimTake c task existing =>
    simp only [perform]
    split
    · exact .of_eq rfl
    · exact .of_eq rfl
  | claimMark c task expiredTaskID => exact marked expiredTaskID
  | claimSet c task =>
    simp only [perform]
    split
    · exact .of_eq rfl
    · exact .of_update rfl (fun _ => rfl) nofun fun t hit _ => Or.inr (SystemTaskTables.pendingTask_iff.mp hit).2
  | claimLoad c task | renew taskID lockedBy lockUntil | renewWrite taskID lockedBy lockUntil now
  | release taskID lockedBy | expireRead now | expireDelete now lock rest => exact .of_eq rfl
  | updateState taskID lockedBy state now =>
    exact .of_update rfl (fun _ => rfl) (fun _ _ pending => pending) fun _ _ running => Or.inl running
  | finish taskID lockedBy status result errorMessage now =>
    have final : status.1 ≠ .pending ∧ status.1 ≠ .running := by
      rcases status.2 with same | same <;> rw [same] <;> decide
    simp only [perform]
    split
    · exact .of_eq rfl
    · exact .of_update rfl (fun _ => rfl) (fun _ _ pending => absurd pending final.1)
        fun _ _ running => absurd running final.2
  | expireMark now lock rest => exact marked lock.taskID

/-- A lock row after a statement was there before, or the statement wrote it for
its task, in the row of the claim's type or in a row of the same type and task. -/
theorem perform_locks {l : SystemTaskLock} (member : l ∈ (call.perform db clock).1.locks.rows) :
    l ∈ db.locks.rows ∨ call.writesLock = some l.taskID ∧
      ((∃ c task, (call = .claimInsert c task ∨ ∃ existing, call = .claimTake c task existing) ∧
          l.taskID = task.taskID ∧ l.type = c.taskType) ∨
        ∃ before ∈ db.locks.rows, before.taskID = l.taskID ∧ before.type = l.type) := by
  cases call with
  | claimRead c | claimLook c task | claimSet c task | finish taskID lockedBy status result errorMessage now =>
    simp only [perform] at member
    split at member
    · exact Or.inl member
    · exact Or.inl member
  | claimInsert c task =>
    simp only [perform] at member
    split at member
    · rename_i locks inserted
      obtain ⟨-, rows⟩ := Keyed.insert_cases inserted
      change l ∈ locks.rows at member
      rw [rows, List.mem_append, List.mem_singleton] at member
      rcases member with before | rfl
      · exact Or.inl before
      · exact Or.inr ⟨rfl, Or.inl ⟨c, task, Or.inl rfl, rfl, rfl⟩⟩
    · exact Or.inl member
  | claimTake c task existing =>
    simp only [perform] at member
    split at member
    · dsimp only at member
      obtain ⟨x, inside, ⟨hit, rfl⟩ | ⟨-, rfl⟩⟩ := Keyed.mem_update_cases member
      · simp only [Bool.and_eq_true, ofType, beq_iff_eq] at hit
        exact Or.inr ⟨rfl, Or.inl ⟨c, task, Or.inr ⟨existing, rfl⟩, rfl, hit.1⟩⟩
      · exact Or.inl inside
    · exact Or.inl member
  | claimMark c task expiredTaskID | claimLoad c task | renew taskID lockedBy lockUntil
  | updateState taskID lockedBy state now | expireRead now | expireMark now lock rest => exact Or.inl member
  | renewWrite taskID lockedBy lockUntil now =>
    simp only [perform] at member
    obtain ⟨x, inside, ⟨hit, rfl⟩ | ⟨-, rfl⟩⟩ := Keyed.mem_update_cases member
    · simp only [Bool.and_eq_true, SystemTaskLock.heldBy, beq_iff_eq] at hit
      exact Or.inr ⟨congrArg some hit.1.1.symm, Or.inr ⟨x, inside, rfl, rfl⟩⟩
    · exact Or.inl inside
  | release taskID lockedBy | expireDelete now lock rest => exact Or.inl (Keyed.mem_delete.mp member).1

theorem mem_of_expireNext {now : Int} {locks : List SystemTaskLock}
    (after : (expireNext now locks).call = some next) {taskID : String} (doomed : taskID ∈ next.dooms) :
    ∃ l ∈ locks, l.taskID = taskID := by
  cases locks with
  | nil => cases after
  | cons lock rest =>
    obtain rfl := Option.some.inj after
    change taskID ∈ (lock :: rest).map (·.taskID) at doomed
    exact List.mem_map.mp doomed

/-- A call has decided to fail a task before the statement, or the statement
decides it: a sweep reads an expired lock of the task, or a claim takes the lock
it saw of another task. -/
theorem perform_dooms (after : (call.perform db clock).2.call = some next) {taskID : String}
    (doomed : taskID ∈ next.dooms) :
    taskID ∈ call.dooms ∨
      (∃ now, call = .expireRead now ∧ ∃ l ∈ db.locks.rows, l.taskID = taskID ∧ l.lockedUntil < now) ∨
      ∃ c task existing, call = .claimTake c task existing ∧ taskID = existing.taskID ∧ taskID ≠ task.taskID ∧
        (db.locks.rows.any fun l => ofType c.taskType l && expired c.now l) = true := by
  cases call with
  | claimRead c | finish taskID' lockedBy status result errorMessage now =>
    simp only [perform] at after
    split at after
    · cases after
    · obtain rfl := Option.some.inj after
      cases doomed
  | claimInsert c task =>
    simp only [perform] at after
    split at after
    · obtain rfl := Option.some.inj after
      simp [SystemTaskClaim.acquired, SystemTaskCall.dooms] at doomed
    · obtain rfl := Option.some.inj after
      cases doomed
  | claimLook c task =>
    simp only [perform] at after
    split at after
    · cases after
    · dsimp only at after
      split at after
      · cases after
      · obtain rfl := Option.some.inj after
        cases doomed
  | claimTake c task existing =>
    simp only [perform] at after
    split at after
    · rename_i free
      obtain rfl := Option.some.inj after
      unfold SystemTaskClaim.acquired at doomed
      split at doomed
      · rename_i other
        obtain rfl := List.mem_singleton.mp doomed
        exact Or.inr (Or.inr ⟨c, task, existing, rfl, rfl, other.2, free⟩)
      · cases doomed
    · cases after
  | claimMark c task expiredTaskID | renew taskID' lockedBy lockUntil =>
    obtain rfl := Option.some.inj after
    cases doomed
  | claimSet c task =>
    simp only [perform] at after
    split at after
    · obtain rfl := Option.some.inj after
      cases doomed
    · obtain rfl := Option.some.inj after
      cases doomed
  | claimLoad c task | release taskID' lockedBy => cases after
  | renewWrite taskID' lockedBy lockUntil now | updateState taskID' lockedBy state now =>
    simp only [perform] at after
    split at after
    · cases after
    · cases after
  | expireRead now =>
    refine Or.inr (Or.inl ⟨now, rfl, ?_⟩)
    obtain ⟨l, read, named⟩ := mem_of_expireNext after doomed
    obtain ⟨member, late⟩ := List.mem_filter.mp read
    exact ⟨l, member, named, of_decide_eq_true late⟩
  | expireMark now lock rest =>
    obtain rfl := Option.some.inj after
    exact Or.inl (List.mem_cons_of_mem _ doomed)
  | expireDelete now lock rest =>
    obtain ⟨l, read, named⟩ := mem_of_expireNext after doomed
    exact Or.inl (List.mem_map.mpr ⟨l, read, named⟩)

/-- After a takeover the lock of the type is the claim's. -/
theorem claimTake_locks {c : SystemTaskClaim} {task : SystemTask} {existing l : SystemTaskLock}
    (free : (db.locks.rows.any fun l => ofType c.taskType l && expired c.now l) = true)
    (member : l ∈ ((SystemTaskCall.claimTake c task existing).perform db clock).1.locks.rows) (type : l.type = c.taskType) :
    l.taskID = task.taskID := by
  obtain ⟨x, inside, hit⟩ := List.any_eq_true.mp free
  simp only [perform] at member
  rw [if_pos free] at member
  dsimp only at member
  obtain ⟨y, row, ⟨-, rfl⟩ | ⟨miss, rfl⟩⟩ := Keyed.mem_update_cases member
  · rfl
  · have same : l = x := by
      refine Keyed.eq_of_key row inside ?_
      simp only [Bool.and_eq_true, ofType, beq_iff_eq] at hit
      exact type.trans hit.1.symm
    rw [same, hit] at miss
    cases miss

theorem createSystemTask_follows (db : SystemTaskTables) (clock : Int) (key taskType payload state : String) :
    db.TasksFollow (createSystemTask db clock key taskType payload state) ∧
      (createSystemTask db clock key taskType payload state).locks = db.locks := by
  unfold createSystemTask
  split
  · exact ⟨.of_eq rfl, rfl⟩
  dsimp only
  split
  · rename_i row tasks inserted
    refine ⟨⟨fun t member => ⟨t, (Table.mem_insert inserted).mpr (Or.inl member), rfl, rfl, rfl, id⟩, fun t member => ?_⟩, rfl⟩
    rcases (Table.mem_insert inserted).mp member with before | rfl
    · exact Or.inl ⟨t, before, rfl, rfl, id, Or.inl⟩
    · obtain ⟨-, fresh, -⟩ := Table.insert_cases inserted
      refine Or.inr ⟨by rw [fresh]; rfl, by rw [fresh]; simp [Record.withId], fun other inside same => ?_⟩
      refine Table.insert_unique inserted inside rfl ?_
      rw [same, fresh]
      rfl
  · exact ⟨.of_eq rfl, rfl⟩

end Perform

/-- A lock names a task of its own type. -/
def SystemTaskTables.Typed (db : SystemTaskTables) (taskID taskType : String) : Prop :=
  ∃ t ∈ db.tasks.rows, t.taskID = taskID ∧ t.type = taskType

namespace SystemTaskTables

variable {db db' : SystemTaskTables} {taskID taskType other : String}

theorem Typed.eq (typed : db.Typed taskID taskType) (typed' : db.Typed taskID other) : taskType = other := by
  obtain ⟨t, member, named, rfl⟩ := typed
  obtain ⟨u, member', named', rfl⟩ := typed'
  rw [task_eq member member' (named.trans named'.symm)]

theorem TasksFollow.typed (follow : db.TasksFollow db') (typed : db.Typed taskID taskType) : db'.Typed taskID taskType := by
  obtain ⟨t, member, rfl, rfl⟩ := typed
  obtain ⟨t', member', -, named, type, -⟩ := follow.forth t member
  exact ⟨t', member', named, type⟩

end SystemTaskTables

/-- What a call knows about the tasks it was started for and the lock it saw. -/
def SystemTaskCall.Placed (s : SystemTaskSystem) : SystemTaskCall → Prop
  | .claimInsert c task => s.db.Typed task.taskID c.taskType
  | .claimLook c task => s.db.Typed task.taskID c.taskType
  | .claimTake c task existing => s.db.Typed task.taskID c.taskType ∧ s.db.Typed existing.taskID c.taskType
  | .expireRead now => now ≤ s.clock
  | _ => True

namespace SystemTaskSystem

variable {s s' : SystemTaskSystem} {call : SystemTaskCall}

theorem placed_follow (clock : s.clock ≤ s'.clock) (tasks : s.db.TasksFollow s'.db) (placed : call.Placed s) :
    call.Placed s' := by
  cases call with
  | claimInsert c task | claimLook c task => exact tasks.typed placed
  | claimTake c task existing => exact ⟨tasks.typed placed.1, tasks.typed placed.2⟩
  | expireRead now => exact placed.trans clock
  | _ => trivial

/-- Every lock names a task of its type, and the tasks that calls have decided to
fail have no current lock. -/
structure Guarded (s : SystemTaskSystem) : Prop where
  calls : ∀ call ∈ s.calls, call.Placed s
  typed : ∀ l ∈ s.db.locks.rows, s.db.Typed l.taskID l.type
  doomed : ∀ call ∈ s.calls, ∀ taskID ∈ call.dooms, ∀ l ∈ s.db.locks.rows, l.taskID = taskID → l.lockedUntil < s.clock

theorem expireNext_placed {now : Int} {locks : List SystemTaskLock}
    (after : (expireNext now locks).call = some next) : next.Placed s := by
  cases locks with
  | nil => cases after
  | cons lock rest =>
    obtain rfl := Option.some.inj after
    trivial

theorem Guarded.next_placed (guarded : s.Guarded) (member : call ∈ s.calls)
    (after : (call.perform s.db s.clock).2.call = some next) : next.Placed s := by
  have placed := guarded.calls call member
  cases call with
  | claimRead c =>
    simp only [perform] at after
    split at after
    · cases after
    · rename_i task found
      obtain rfl := Option.some.inj after
      obtain ⟨⟨-, type⟩, -⟩ := SystemTaskTables.pendingTask_iff.mp (Table.holds_of_first found)
      exact ⟨task, Table.mem_of_first found, rfl, type⟩
  | claimInsert c task =>
    simp only [perform] at after
    split at after
    · obtain rfl := Option.some.inj after
      unfold SystemTaskClaim.acquired
      split
      · trivial
      · trivial
    · obtain rfl := Option.some.inj after
      exact placed
  | claimLook c task =>
    simp only [perform] at after
    split at after
    · cases after
    · rename_i existing found
      dsimp only at after
      split at after
      · cases after
      · obtain rfl := Option.some.inj after
        have type : existing.type = c.taskType := eq_of_beq (List.find?_some found : ofType c.taskType existing = true)
        exact ⟨placed, type ▸ guarded.typed existing (List.mem_of_find?_eq_some found)⟩
  | claimTake c task existing =>
    simp only [perform] at after
    split at after
    · obtain rfl := Option.some.inj after
      unfold SystemTaskClaim.acquired
      split
      · trivial
      · trivial
    · cases after
  | claimMark c task expiredTaskID | renew taskID lockedBy lockUntil | expireMark now lock rest =>
    obtain rfl := Option.some.inj after
    trivial
  | claimSet c task =>
    simp only [perform] at after
    split at after
    · obtain rfl := Option.some.inj after
      trivial
    · obtain rfl := Option.some.inj after
      trivial
  | claimLoad c task | release taskID lockedBy => cases after
  | renewWrite taskID lockedBy lockUntil now | updateState taskID lockedBy state now =>
    simp only [perform] at after
    split at after
    · cases after
    · cases after
  | finish taskID lockedBy status result errorMessage now =>
    simp only [perform] at after
    split at after
    · cases after
    · obtain rfl := Option.some.inj after
      trivial
  | expireRead now | expireDelete now lock rest => exact expireNext_placed after

/-- A written lock is not of a task that was to fail. -/
theorem not_doomed_of_writes {position : Nat} (found : s.calls[position]? = some call)
    (undisturbed : s.undisturbed (.advance position) = true) {taskID : String} (writes : call.writesLock = some taskID) :
    ∀ other ∈ s.calls, taskID ∉ other.dooms := by
  simp only [SystemTaskSystem.undisturbed, found, writes, Option.all_some, List.all_eq_true, Bool.not_eq_true',
    List.contains_eq_mem, decide_eq_false_iff_not] at undisturbed
  exact undisturbed

/-- The lock of a task that the statement has just decided to fail is over. -/
theorem Guarded.decided (guarded : s.Guarded) (member : call ∈ s.calls)
    (after : (call.perform s.db s.clock).2.call = some next) {taskID : String} (doomed : taskID ∈ next.dooms)
    (writes : call.writesLock = some taskID → taskID ∉ call.dooms) {l : SystemTaskLock}
    (row : l ∈ (call.perform s.db s.clock).1.locks.rows) (named : l.taskID = taskID) : l.lockedUntil < s.clock := by
  have tasks := perform_tasks s.db s.clock call
  rcases perform_dooms after doomed with before | ⟨now, rfl, l', read, named', late⟩ | ⟨c, task, existing, rfl, seen, other, free⟩
  · rcases perform_locks row with old | ⟨written, -⟩
    · exact guarded.doomed call member taskID before l old named
    · exact absurd before (writes (named ▸ written))
  · -- the sweep has read the only lock of the task
    have same : l = l' := by
      refine Keyed.eq_of_key (t := s.db.locks) row read ?_
      exact (guarded.typed l row).eq (named.trans named'.symm ▸ guarded.typed l' read)
    rw [same]
    exact late.trans_le (guarded.calls _ member)
  · -- the lock of the type is the claim's now, so the task that was seen has none
    obtain ⟨-, placed⟩ := guarded.calls _ member
    have typed : s.db.Typed l.taskID c.taskType := by
      rw [named, seen]
      exact placed
    have type : l.type = c.taskType := by
      rcases perform_locks row with old | ⟨-, ⟨c', task', made, taskID_eq, type⟩ | ⟨before, inside, sameTask, sameType⟩⟩
      · exact (guarded.typed l old).eq typed
      · rcases made with made | ⟨_, made⟩
        · cases made
        · obtain ⟨rfl, -, -⟩ := SystemTaskCall.claimTake.inj made
          exact type
      · exact sameType.symm.trans ((guarded.typed before inside).eq (sameTask ▸ typed))
    exact absurd (named.symm.trans (claimTake_locks free row type)) other

theorem Guarded.advance {position : Nat} (guarded : s.Guarded) (found : s.calls[position]? = some call)
    (undisturbed : s.undisturbed (.advance position) = true) : (s.advance position call).Guarded := by
  obtain ⟨others, steps, db⟩ := advance_steps found
  have free : ∀ {taskID}, call.writesLock = some taskID → ∀ other ∈ s.calls, taskID ∉ other.dooms :=
    fun writes => not_doomed_of_writes found undisturbed writes
  revert steps db
  generalize s.advance position call = s'
  intro steps db
  have tasks : s.db.TasksFollow s'.db := by
    rw [db]
    exact perform_tasks s.db s.clock call
  have clock : s.clock ≤ s'.clock := le_of_eq steps.clock.symm
  have split : ∀ {other}, other ∈ s'.calls → (call.perform s.db s.clock).2.call = some other ∨ other ∈ others := by
    intro other member
    rw [steps.after.mem_iff, List.mem_append, Option.mem_toList] at member
    exact member
  refine ⟨fun other member => ?_, fun l row => ?_, fun other member taskID doomed l row named => ?_⟩
  · rcases split member with mine | waiting
    · exact placed_follow clock tasks (guarded.next_placed steps.mem mine)
    · exact placed_follow clock tasks (guarded.calls other (steps.other waiting))
  · rw [db] at row
    rcases perform_locks row with old | ⟨-, ⟨c, task, made, taskID, type⟩ | ⟨before, inside, taskID, type⟩⟩
    · exact tasks.typed (guarded.typed l old)
    · rw [taskID, type]
      rcases made with rfl | ⟨existing, rfl⟩
      · exact tasks.typed (guarded.calls _ steps.mem : s.db.Typed task.taskID c.taskType)
      · exact tasks.typed (guarded.calls _ steps.mem : s.db.Typed _ _ ∧ _).1
    · rw [← taskID, ← type]
      exact tasks.typed (guarded.typed before inside)
  · rw [db] at row
    rw [steps.clock]
    rcases split member with mine | waiting
    · exact guarded.decided steps.mem mine doomed (fun writes => free writes call steps.mem) row named
    · rcases perform_locks row with old | ⟨written, -⟩
      · exact guarded.doomed other (steps.other waiting) taskID doomed l old named
      · exact absurd doomed (free (named ▸ written) other (steps.other waiting))

theorem Guarded.begin (guarded : s.Guarded) (placed : call.Placed s) (none_ : call.dooms = []) : (s.call call).Guarded := by
  have split : ∀ {other}, other ∈ (s.call call).calls → other ∈ s.calls ∨ other = call := by
    intro other member
    rcases List.mem_append.mp member with old | new
    · exact Or.inl old
    · exact Or.inr (List.mem_singleton.mp new)
  refine ⟨fun other member => ?_, guarded.typed, fun other member => ?_⟩
  · rcases split member with old | rfl
    · exact placed_follow (le_refl _) (.of_eq rfl) (guarded.calls other old)
    · exact placed_follow (le_refl _) (.of_eq rfl) placed
  · rcases split member with old | rfl
    · exact guarded.doomed other old
    · rw [none_]
      exact fun _ doomed => absurd doomed List.not_mem_nil

theorem Guarded.step {e : SystemTaskEvent} (guarded : s.Guarded) (undisturbed : s.undisturbed e = true) :
    (systemTasks.step s e).Guarded := by
  cases e with
  | tick seconds =>
    have later : s.clock ≤ s.clock + seconds := by omega
    refine ⟨fun call member => placed_follow later (.of_eq rfl)
      (guarded.calls call member), guarded.typed, fun call member taskID doomed l row named => ?_⟩
    exact (guarded.doomed call member taskID doomed l row named).trans_le later
  | create key taskType payload state =>
    obtain ⟨tasks, locks⟩ := createSystemTask_follows s.db s.clock key taskType payload state
    refine ⟨fun call member => placed_follow (le_refl s.clock) tasks (guarded.calls call member), fun l row => ?_, ?_⟩
    · exact tasks.typed (guarded.typed l (locks ▸ row))
    · intro call member taskID doomed l row named
      exact guarded.doomed call member taskID doomed l (locks ▸ row) named
  | claim id taskType runnerID lockUntil | updateState taskID runnerID state
  | finish taskID runnerID status result errorMessage => exact guarded.begin trivial rfl
  | renew taskID runnerID =>
    simp only [systemTasks]
    split
    · exact guarded.begin trivial rfl
    · exact guarded
  | expire => exact guarded.begin (le_refl s.clock) rfl
  | advance position =>
    simp only [systemTasks]
    cases found : s.calls[position]? with
    | none => exact guarded
    | some call => exact guarded.advance found undisturbed

theorem initial_guarded (clock : Int) : (initial clock).Guarded :=
  ⟨by simp [initial], by simp [initial, Keyed.empty], by simp [initial]⟩

end SystemTaskSystem

/-- If no lock is written for a task between the decision to fail it and its
failure, then no lock of the task is current when it is failed. -/
theorem live_lease_not_failed (clock : Int) (events : List SystemTaskEvent)
    (undisturbed : systemTasks.Permits (fun s e => s.undisturbed e = true) (.initial clock) events) (position : Nat)
    (call : SystemTaskCall) (next : (systemTasks.run (.initial clock) events).calls[position]? = some call)
    (taskID : String) (expires : call.expires = some taskID) :
    ¬∃ l ∈ (systemTasks.run (.initial clock) events).db.locks.rows,
      l.taskID = taskID ∧ (systemTasks.run (.initial clock) events).clock ≤ l.lockedUntil := by
  have guarded := undisturbed.keeps SystemTaskSystem.Guarded (fun _ _ allowed guarded => guarded.step allowed)
    (SystemTaskSystem.initial_guarded clock)
  rintro ⟨l, row, named, current⟩
  have lapsed := guarded.doomed call (List.mem_of_getElem? next) taskID (SystemTaskCall.mem_dooms_of_expires expires) l row named
  exact absurd current (not_le.mpr lapsed)

/-- A runner claims the task and is not heard of again. The sweeper reads its
lock after the lease. -/
def abandonedClaim : List SystemTaskEvent :=
  promptClaim ++ [.tick 61, .expire, .advance 0]

theorem abandonedClaim_fails :
    systemTasks.Permits (fun s e => s.undisturbed e = true) (.initial 0) abandonedClaim ∧
      ((systemTasks.run (.initial 0) abandonedClaim).calls[0]?.bind SystemTaskCall.expires = some "systask_a") ∧
      ¬∃ l ∈ (systemTasks.run (.initial 0) abandonedClaim).db.locks.rows,
        l.taskID = "systask_a" ∧ (systemTasks.run (.initial 0) abandonedClaim).clock ≤ l.lockedUntil := by
  have undisturbed : systemTasks.Permits (fun s e => s.undisturbed e = true) (.initial 0) abandonedClaim := by
    decide +kernel
  exact ⟨undisturbed, rfl, live_lease_not_failed 0 abandonedClaim undisturbed 0 _ rfl "systask_a" rfl⟩

/-- A runner stalls after it has acquired the lock, and the sweeper reads the lock
after its lease. A second runner takes the lock over and starts the task, which
the sweeper then fails. -/
def overtakenSweep : List SystemTaskEvent :=
  [.create "a" "log_cleanup" "" "", .claim 1 "log_cleanup" "runner-1" 60, .advance 0, .advance 0, .tick 61, .expire, .advance 1,
    .claim 1 "log_cleanup" "runner-2" 121, .advance 2, .advance 2, .advance 2, .advance 2, .advance 2]

theorem overtakenSweep_fails_live_lease :
    let before := systemTasks.run (.initial 0) overtakenSweep
    let after := systemTasks.step before (.advance 1)
    before.calls[1]?.bind SystemTaskCall.expires = some "systask_a" ∧
      before.db.tasks.rows.map (fun t => (t.taskID, t.status, t.lockedBy)) = [("systask_a", .running, "runner-2")] ∧
      before.db.locks.rows.map (fun l => (l.taskID, l.lockedBy, l.lockedUntil)) = [("systask_a", "runner-2", 121)] ∧
      before.clock = 61 ∧
      after.db.tasks.rows.map (fun t => (t.taskID, t.status, t.error)) = [("systask_a", .failed, "task lease expired")] :=
  ⟨rfl, rfl, rfl, rfl, rfl⟩

end LLMHub
