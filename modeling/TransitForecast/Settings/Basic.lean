import TransitForecast.Engine.Status
import TransitForecast.Inference.BatchStore
import TransitForecast.Observation.Transitions
import TransitForecast.Prediction.PredictorCache
import TransitForecast.Prediction.Trust
import TransitForecast.Bus
import TransitForecast.Update.Build

/-!
# TransitForecast — settings

What an operator may set, as it is written down: durations are whole seconds, the
zone is a name, and holidays are texts. Nothing is checked here beyond the ranges of numbers.
-/

namespace TransitForecast

/-- The settings of an aggregator. -/
structure Settings where
  instanceName : String
  /-- Port of the HTTP interface. -/
  port : Nat
  /-- Seconds for which a trip predictor outlives its trip. -/
  predictorSeconds : Int
  /-- Seconds for which a batch stays parked. -/
  batchSeconds : Int
  trust : Trust
  /-- Seconds by which a vehicle may leave a timepoint early. -/
  earlySeconds : Int
  horizonMinutes : Int
  /-- Number of inference workers. -/
  buckets : Nat
  /-- Routes to predict; none stands for every route. -/
  routes : List String
  /-- Seconds for which an observed transition counts. -/
  transitionSeconds : Int
  /-- Seconds between sweeps. -/
  sweepSeconds : Nat
  zone : String
  holidays : List String
  scheduleFile : Option String
  modelsFile : Option String
  /-- Messages that a subscription buffers. -/
  busBuffer : Nat
  /-- Seconds for which a stopping aggregator waits for reports in flight. -/
  drainSeconds : Nat
  subjects : Subjects
  deriving DecidableEq

namespace Settings

/-- The name of an instance unless the settings or the host say otherwise. -/
def defaultName : String := "prediction-aggregator"

/-- The name of the zone unless the settings say otherwise. -/
def defaultZone : String := "America/Los_Angeles"

/-- Seconds of a sweep above which it counts as slow. -/
def slowSweepSeconds : Nat := 2

/-- The settings when nothing is set, on a host of a given name. -/
def default (name : String) : Settings where
  instanceName := name
  port := 8080
  predictorSeconds := PredictorCache.defaultLifetimeSeconds
  batchSeconds := BatchStore.defaultLifetimeSeconds
  trust := Trust.default
  earlySeconds := UpdateRules.defaultEarlySeconds
  horizonMinutes := TripPredictor.defaultHorizonMinutes
  buckets := 1
  routes := []
  transitionSeconds := ObservedTransitions.defaultMaxAgeSeconds
  sweepSeconds := 10
  zone := defaultZone
  holidays := []
  scheduleFile := none
  modelsFile := none
  busBuffer := Bus.defaultCapacity
  drainSeconds := 5
  subjects := Subjects.default

end Settings

end TransitForecast
