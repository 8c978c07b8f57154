import LLMHub.PerfMetrics.RuntimeSignals

namespace LLMHub

def matchingModelPatterns : List String :=
  ["gemini-2.5-flash-lite-thinking-*", "gemini-2.5-flash-thinking-*", "gemini-2.5-pro-thinking-*", "gpt-4-gizmo-*",
    "gpt-4o-gizmo-*"]

theorem formatMatchingModelName_cases (name : String) :
    formatMatchingModelName name = name ∨ formatMatchingModelName name ∈ matchingModelPatterns := by
  unfold formatMatchingModelName handleThinkingBudgetModel
  dsimp only
  repeat' split
  all_goals simp [matchingModelPatterns]

end LLMHub
