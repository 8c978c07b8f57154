import LLMHub.SystemTask.Statements

namespace LLMHub

open Store
open SystemTask (pendingTask start)
open SystemTaskLock (ofType expired)

namespace SystemTaskSystem

variable {s s' : SystemTaskSystem} {call : SystemTaskCall} {progress : SystemTaskProgress} {others : List SystemTaskCall}
  {c : SystemTaskClaim} {task : SystemTask}

def initial (clock : Int) : SystemTaskSystem := { clock := clock }

end SystemTaskSystem

def promptClaim : List SystemTaskEvent :=
  [.create "a" "log_cleanup" "" "", .claim 1 "log_cleanup" "runner" 60, .advance 0, .advance 0, .advance 0, .advance 0]

end LLMHub
