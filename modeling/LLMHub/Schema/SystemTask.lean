import LLMHub.Store.Keyed
import LLMHub.Store.Table

namespace LLMHub

open Store

inductive SystemTaskStatus
  | pending
  | running
  | succeeded
  | failed
  deriving DecidableEq, Repr

structure SystemTask where
  id : Int := 0
  taskID : String
  type : String
  status : SystemTaskStatus
  activeKey : Option String
  payload : String := ""
  state : String := ""
  result : String := ""
  error : String := ""
  lockedBy : String := ""
  createdAt : Int := 0
  updatedAt : Int := 0
  deriving DecidableEq, Repr

instance : Record SystemTask := ⟨SystemTask.id, fun n x => { x with id := n }, fun x => some (.text x.taskID),
  fun _ _ => rfl, fun _ _ => rfl⟩

/-- At most one row for each task type, which is the primary key. -/
structure SystemTaskLock where
  type : String
  taskID : String
  lockedBy : String
  lockedUntil : Int
  updatedAt : Int
  deriving DecidableEq, Repr

structure SystemTaskTables where
  tasks : Table SystemTask := .empty
  locks : Keyed SystemTaskLock.type := .empty

end LLMHub
