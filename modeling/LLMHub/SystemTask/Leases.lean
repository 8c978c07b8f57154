import LLMHub.SystemTask.Calls

namespace LLMHub

open Store

namespace SystemTaskTables

variable {db : SystemTaskTables} {taskID : String}

theorem task_eq {t u : SystemTask} (ht : t ∈ db.tasks.rows) (hu : u ∈ db.tasks.rows) (same : t.taskID = u.taskID) : t = u :=
  Table.eq_of_unique ht hu (k := .text u.taskID) (congrArg (fun x => some (Key.text x)) same) rfl

/-- What a statement can do to the tasks: each keeps its names, only a
pending one starts, and a new one is pending. -/
structure TasksFollow (db db' : SystemTaskTables) : Prop where
  forth : ∀ t ∈ db.tasks.rows, ∃ t' ∈ db'.tasks.rows,
    t'.id = t.id ∧ t'.taskID = t.taskID ∧ t'.type = t.type ∧ (t.status ≠ .pending → t'.status ≠ .pending)
  back : ∀ t' ∈ db'.tasks.rows, (∃ t ∈ db.tasks.rows, t'.taskID = t.taskID ∧ t'.type = t.type ∧
      (t'.status = .pending → t.status = .pending) ∧ (t'.status = .running → t.status = .running ∨ t.status = .pending)) ∨
    t'.status = .pending ∧ t'.taskID ≠ "" ∧ ∀ t ∈ db.tasks.rows, t.taskID ≠ t'.taskID

namespace TasksFollow

variable {db' : SystemTaskTables}

theorem of_eq (same : db'.tasks = db.tasks) : TasksFollow db db' where
  forth t member := ⟨t, same ▸ member, rfl, rfl, rfl, id⟩
  back t member := Or.inl ⟨t, same ▸ member, rfl, rfl, id, Or.inl⟩

/-- An update of the status that starts pending tasks only, and makes none
pending. -/
theorem of_update {p : SystemTask → Bool} {f : Table.Assignment SystemTask}
    (tasks : db'.tasks = db.tasks.update p f) (type : ∀ t, (f.set t).type = t.type)
    (pending : ∀ t, p t = true → (f.set t).status = .pending → t.status = .pending)
    (running : ∀ t, p t = true → (f.set t).status = .running → t.status = .running ∨ t.status = .pending) :
    TasksFollow db db' := by
  have key : ∀ t, (f.set t).taskID = t.taskID := fun t => Key.text.inj (Option.some.inj (f.unique t))
  refine ⟨fun t member => ?_, fun t' member => ?_⟩
  · refine ⟨Table.rewrite p f t, tasks ▸ Table.mem_update.mpr ⟨t, member, rfl⟩, Table.id_rewrite p f t, ?_⟩
    cases hit : p t with
    | true =>
      rw [Table.rewrite_pos hit]
      exact ⟨key t, type t, fun started again => started (pending t hit again)⟩
    | false =>
      rw [Table.rewrite_neg hit]
      exact ⟨rfl, rfl, id⟩
  · rw [tasks] at member
    obtain ⟨t, inside, ⟨hit, rfl⟩ | ⟨-, rfl⟩⟩ := Table.mem_update_cases member
    · exact Or.inl ⟨t, inside, key t, type t, pending t hit, running t hit⟩
    · exact Or.inl ⟨_, inside, rfl, rfl, id, Or.inl⟩

variable (follow : TasksFollow db db')
include follow

end TasksFollow
end SystemTaskTables

end LLMHub
