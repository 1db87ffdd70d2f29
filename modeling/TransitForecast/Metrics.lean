/-!
# TransitForecast — metrics

Counters and gauges of a running aggregator.
-/

namespace TransitForecast

/-- What is counted or gauged. -/
inductive Metric
  | reportsHandled
  | tripPredictions
  | batchesPublished
  | batchesExpired
  | inferenceRequests
  | responsesApplied
  /-- Dropped messages, by the label of the failure. -/
  | messagesDropped (reason : String)
  | updatesPublished
  | publishFailures
  | pendingBatches
  /-- Entries of a cache, by its name. -/
  | cacheEntries (cache : String)
  /-- Number of reports whose handling was timed. -/
  | predictionLatency
  deriving DecidableEq, Repr

namespace Metric

/-- The name under which a metric is exported, with its label. -/
def text : Metric → String
  | reportsHandled => "reports_handled_total" ++ noLabel
  | tripPredictions => "trip_predictions_total" ++ noLabel
  | batchesPublished => "batches_published_total" ++ noLabel
  | batchesExpired => "batches_expired_total" ++ noLabel
  | inferenceRequests => "inference_requests_total" ++ noLabel
  | responsesApplied => "inference_responses_applied_total" ++ noLabel
  | messagesDropped reason => "messages_dropped_total" ++ label "reason" reason
  | updatesPublished => "trip_updates_published_total" ++ noLabel
  | publishFailures => "publish_failures_total" ++ noLabel
  | pendingBatches => "pending_batches" ++ noLabel
  | cacheEntries cache => "cache_entries" ++ label "cache" cache
  | predictionLatency => "prediction_latency_seconds" ++ noLabel
where
  /-- The braces of a metric without label. -/
  noLabel : String := "\x7b\x7d"
  /-- A label in braces. -/
  label (name value : String) : String := "\x7b" ++ name ++ "=" ++ value ++ "\x7d"

/-- The cache of trip predictors. -/
def predictorCache : Metric := .cacheEntries "trip_predictors"

/-- The store of observed transitions. -/
def transitionCache : Metric := .cacheEntries "observed_transitions"

end Metric

/-- The values of the metrics that are not zero. -/
structure Metrics where
  values : List (Metric × Nat)
  deriving DecidableEq, Repr

namespace Metrics

/-- Every metric at zero. -/
def zero : Metrics := ⟨[]⟩

/-- The value of a metric. -/
def get (m : Metrics) (name : Metric) : Nat :=
  (m.values.find? fun v => v.1 = name).elim 0 Prod.snd

/-- Sets a metric. -/
def set (m : Metrics) (name : Metric) (value : Nat) : Metrics :=
  let others := m.values.filter fun v => v.1 ≠ name
  ⟨if value = 0 then others else (name, value) :: others⟩

/-- Adds to a metric. -/
def add (m : Metrics) (name : Metric) (n : Nat) : Metrics := m.set name (m.get name + n)

/-- Adds one to a metric. -/
def count (m : Metrics) (name : Metric) : Metrics := m.add name 1

end Metrics

end TransitForecast
