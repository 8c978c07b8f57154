import LLMHub.PerfMetrics.Window
import LLMHub.Routing.ProbeKinds

namespace LLMHub

def hubRoutingHistogramCount (histogram : Fin 16 → Int) : Int :=
  (List.finRange 16).foldl (fun total index => Go.int64 (total + histogram index)) 0

/-- The bound of the first column that reaches a rank. -/
def hubRoutingHistogramAt (histogram : Fin 16 → Int) (rank : Int) : Int → List (Fin 16) → Option Int
  | _, [] => none
  | seen, index :: rest =>
    if Go.int64 (seen + histogram index) ≥ rank then some (hubRoutingHistogramUpperBounds index)
    else hubRoutingHistogramAt histogram rank (Go.int64 (seen + histogram index)) rest

def hubRoutingHistogramPercentile (histogram : Fin 16 → Int) (percentile : Int) : Option Int :=
  let total := hubRoutingHistogramCount histogram
  if total ≤ 0 ∨ percentile ≤ 0 ∨ percentile > 100 then none
  else hubRoutingHistogramAt histogram ((Go.int64 (percentile * total + 99)).tdiv 100) 0 (List.finRange 16)

end LLMHub
