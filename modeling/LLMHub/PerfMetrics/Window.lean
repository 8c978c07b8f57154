import LLMHub.Go.Entries
import LLMHub.Go.Int64
import Mathlib.Data.Fin.VecNotation

namespace LLMHub

def hubRoutingWindowBucketSeconds : Int := 60

def hubRoutingFailureClasses : Fin 6 → String :=
  !["upstream", "configuration", "client", "loop", "response_started", "unknown"]

def hubRoutingHistogramUpperBounds : Fin 16 → Int :=
  ![100, 250, 500, 1000, 2000, 3000, 5000, 8000, 12000, 20000, 30000, 60000, 120000, 300000, 600000, 3600000]

/-- How an attempt went. -/
structure HubRoutingOutcome where
  success : Bool := false
  failureClass : String := ""
  healthEligible : Bool := false
  latencyMS : Int := 0
  firstTokenMS : Option Int := none
  deriving DecidableEq, Repr

/-- One real request as the routing observer samples it. -/
structure HubRoutingAttempt extends HubRoutingOutcome where
  model : String
  endpointType : String
  providerID : Int := 0
  channelID : Nat
  deriving DecidableEq, Repr

structure HubRoutingWindowBucketKey where
  modelName : String
  endpointType : String
  providerID : Int
  channelID : Nat
  bucketTs : Int
  deriving DecidableEq, Repr

/-- The counters of a minute, all of them 64-bit words. -/
structure HubRoutingWindowCounters where
  requestCount : Int := 0
  successCount : Int := 0
  switchableRequestCount : Int := 0
  switchableSuccessCount : Int := 0
  failureCounts : Fin 6 → Int := fun _ => 0
  latencyHistogram : Fin 16 → Int := fun _ => 0
  ttftHistogram : Fin 16 → Int := fun _ => 0

/-- The first known class, or the last one for a class that is not known. -/
def hubRoutingFailureClassIndex (failureClass : String) : Fin 6 :=
  ((List.finRange 6).find? fun index => failureClass = hubRoutingFailureClasses index).getD (Fin.last 5)

def hubRoutingHistogramIndex (value : Int) : Fin 16 :=
  ((List.finRange 16).find? fun index => value ≤ hubRoutingHistogramUpperBounds index).getD (Fin.last 15)

/-- `counts[index].Add(1)`. -/
def bumpCount {n : Nat} (counts : Fin n → Int) (index : Fin n) : Fin n → Int :=
  Function.update counts index (Go.int64 (counts index + 1))

def HubRoutingWindowCounters.addFailure (bucket : HubRoutingWindowCounters) (sample : HubRoutingOutcome) :
    HubRoutingWindowCounters :=
  { bucket with
    requestCount := Go.int64 (bucket.requestCount + 1)
    switchableRequestCount :=
      if sample.healthEligible then Go.int64 (bucket.switchableRequestCount + 1) else bucket.switchableRequestCount
    failureCounts := bumpCount bucket.failureCounts (hubRoutingFailureClassIndex sample.failureClass) }

def HubRoutingWindowCounters.addSuccess (bucket : HubRoutingWindowCounters) (sample : HubRoutingOutcome) :
    HubRoutingWindowCounters :=
  { bucket with
    requestCount := Go.int64 (bucket.requestCount + 1)
    successCount := Go.int64 (bucket.successCount + 1)
    switchableRequestCount := Go.int64 (bucket.switchableRequestCount + 1)
    switchableSuccessCount := Go.int64 (bucket.switchableSuccessCount + 1)
    latencyHistogram :=
      if 0 ≤ sample.latencyMS then bumpCount bucket.latencyHistogram (hubRoutingHistogramIndex sample.latencyMS)
      else bucket.latencyHistogram
    ttftHistogram :=
      match sample.firstTokenMS with
      | some ms => if 0 ≤ ms then bumpCount bucket.ttftHistogram (hubRoutingHistogramIndex ms) else bucket.ttftHistogram
      | none => bucket.ttftHistogram }

def HubRoutingWindowCounters.add (bucket : HubRoutingWindowCounters) (sample : HubRoutingOutcome) :
    HubRoutingWindowCounters :=
  if !sample.success then bucket.addFailure sample else bucket.addSuccess sample

/-- Go's remainder has the sign of the dividend, so that the bucket at zero also
takes the minute before it. -/
def hubRoutingWindowBucketStart (ts : Int) : Int := ts - ts.tmod hubRoutingWindowBucketSeconds

def hubRoutingWindowBucketKey (sample : HubRoutingAttempt) (nowTs : Int) : HubRoutingWindowBucketKey where
  modelName := sample.model
  endpointType := sample.endpointType
  providerID := sample.providerID
  channelID := sample.channelID
  bucketTs := hubRoutingWindowBucketStart nowTs

/-- `hubRoutingWindowBuckets`, each key once. -/
structure HubRoutingWindow where
  buckets : List (HubRoutingWindowBucketKey × HubRoutingWindowCounters) := []
  keyed : Go.Keyed buckets := by exact Go.keyed_nil

def recordHubRoutingWindow (window : HubRoutingWindow) (sample : HubRoutingAttempt) (nowTs : Int) : HubRoutingWindow where
  buckets :=
    Go.put window.buckets (hubRoutingWindowBucketKey sample nowTs)
      (((window.buckets.lookup (hubRoutingWindowBucketKey sample nowTs)).getD {}).add sample.toHubRoutingOutcome)
  keyed := window.keyed.put _ _

/-- An attempt and the time of its recording. -/
structure RecordedAttempt where
  attempt : HubRoutingAttempt
  time : Int
  deriving DecidableEq, Repr

def RecordedAttempt.outcome (sample : RecordedAttempt) : HubRoutingOutcome := sample.attempt.toHubRoutingOutcome

def RecordedAttempt.bucketKey (sample : RecordedAttempt) : HubRoutingWindowBucketKey :=
  hubRoutingWindowBucketKey sample.attempt sample.time

def recordAttempts (samples : List RecordedAttempt) : HubRoutingWindow :=
  samples.foldl (fun window sample => recordHubRoutingWindow window sample.attempt sample.time) {}

def mergeHubRoutingHistogram {n : Nat} (target source : Fin n → Int) : Fin n → Int :=
  fun index => Go.int64 (target index + source index)

end LLMHub
