import LLMHub.SystemTask.Leases

namespace LLMHub

open Store
open SystemTask (pendingTask start runningTask leaseExpired setState finished)
open SystemTaskLock (ofType expired)

namespace SystemTaskTables

variable {db db' : SystemTaskTables} {p : SystemTask → Bool} {f : Table.Assignment SystemTask} {taskID : String}

theorem pendingTask_iff {id : Int} {taskType : String} {t : SystemTask} :
    pendingTask id taskType t = true ↔ (t.id = id ∧ t.type = taskType) ∧ t.status = .pending := by
  simp [pendingTask]

end SystemTaskTables

def SystemTaskProgress.call : SystemTaskProgress → Option SystemTaskCall
  | .next call => some call
  | _ => none

namespace SystemTaskSystem

variable {s s' : SystemTaskSystem} {call : SystemTaskCall} {progress : SystemTaskProgress} {others : List SystemTaskCall}
  {c : SystemTaskClaim} {task : SystemTask}

/-- A call executes a statement. -/
structure Steps (s s' : SystemTaskSystem) (call : SystemTaskCall) (progress : SystemTaskProgress)
    (others : List SystemTaskCall) : Prop where
  before : s.calls.Perm (call :: others)
  after : s'.calls.Perm (progress.call.toList ++ others)
  clock : s'.clock = s.clock
  granted : ∀ g ∈ s'.granted, g ∈ s.granted ∨ progress = .claimed g.1 g.2

theorem advance_steps {position : Nat} (found : s.calls[position]? = some call) :
    ∃ others, Steps s (s.advance position call) call (call.perform s.db s.clock).2 others ∧
      (s.advance position call).db = (call.perform s.db s.clock).1 := by
  obtain ⟨front, back, split, erased, replaced⟩ := split_position found
  refine ⟨front ++ back, ?_⟩
  have before : s.calls.Perm (call :: (front ++ back)) := split ▸ List.perm_middle
  have gone : (s.calls.eraseIdx position).Perm (front ++ back) := erased ▸ .refl _
  unfold advance
  generalize call.perform s.db s.clock = result
  obtain ⟨db, progress⟩ := result
  cases progress with
  | next next =>
    have after : (s.calls.set position next).Perm (next :: (front ++ back)) := replaced next ▸ List.perm_middle
    exact ⟨⟨before, after, rfl, fun g member => Or.inl member⟩, rfl⟩
  | returned | lockLost => exact ⟨⟨before, gone, rfl, fun g member => Or.inl member⟩, rfl⟩
  | claimed taskID runnerID =>
    refine ⟨⟨before, gone, rfl, fun g member => ?_⟩, rfl⟩
    rcases List.mem_cons.mp member with rfl | older
    · exact Or.inr rfl
    · exact Or.inl older

namespace Steps

variable (steps : Steps s s' call progress others)
include steps

theorem mem : call ∈ s.calls := steps.before.mem_iff.mpr List.mem_cons_self

end Steps

theorem Steps.other {other : SystemTaskCall} (steps : Steps s s' call progress others) (member : other ∈ others) :
    other ∈ s.calls :=
  steps.before.mem_iff.mpr (List.mem_cons_of_mem call member)

end SystemTaskSystem
end LLMHub
