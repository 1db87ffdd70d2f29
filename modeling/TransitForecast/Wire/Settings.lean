import TransitForecast.Inference.BatchStore
import TransitForecast.Settings.Check
import TransitForecast.Wire.Status

/-!
# TransitForecast — settings in effect

The settings that an aggregator works with once they are checked: routes are sorted, holidays are
dates, and what cannot be set is there too.
-/

namespace TransitForecast.Wire

/-- Writes texts in order. -/
def writeSorted (texts : List String) : Json :=
  .array ((texts.mergeSort fun a b => a ≤ b).map .string)

/-- Writes settings, what they mean for the engine, and the holidays among them. -/
def writeSettings (s : Settings) (e : EngineSettings) (holidays : List Date) : Json := .object
  [ ("instance", .string e.instanceName)
  , ("api_port", .int s.port)
  , ("trip_predictor_ttl_secs", .int e.predictorLifetime.seconds)
  , ("batch_ttl_secs", .int e.batchLifetime.seconds)
  , ("min_rmse_improvement", .float e.trust.minImprovement)
  , ("min_observed_stop_count", .int e.trust.minObservations)
  , ("inference_enabled", .bool e.trust.inferenceEnabled)
  , ("limit_early_departure_secs", .int e.earlySeconds)
  , ("max_prediction_minutes", .int e.horizonMinutes)
  , ("inference_bucket_count", .int e.buckets)
  , ("route_allow_list", writeSorted e.routes)
  , ("transition_max_age_secs", .int e.transitionMaxAge.seconds)
  , ("timezone", .string e.zone.name)
  , ("subjects", writeSubjects e.subjects)
  , ("holidays", .array (holidays.map fun d => .string d.text))
  , ("schedule_file", Json.ofOption .string s.scheduleFile)
  , ("models_file", Json.ofOption .string s.modelsFile)
  , ("buffer", .int s.busBuffer)
  , ("drain_timeout_secs", .int s.drainSeconds)
  , ("sweep_interval_secs", .int s.sweepSeconds)
  , ("slow_threshold_secs", .int Settings.slowSweepSeconds) ]

/-- Writes the settings of an aggregator that is told nothing. -/
def writeDefaults : Json :=
  let s := Settings.default Settings.defaultName
  .object
    [ ("instance", .string s.instanceName)
    , ("batch_ttl", .int s.batchSeconds)
    , ("trip_predictor_ttl", .int s.predictorSeconds)
    , ("min_rmse_improvement", .float s.trust.minImprovement)
    , ("min_observed_stop_count", .int s.trust.minObservations)
    , ("enable_inference", .bool s.trust.inferenceEnabled)
    , ("limit_early_departure_secs", .int s.earlySeconds)
    , ("max_prediction_minutes", .int s.horizonMinutes)
    , ("inference_bucket_count", .int s.buckets)
    , ("routes", .int s.routes.length)
    , ("transition_max_age", .int s.transitionSeconds)
    , ("timezone", .string s.zone)
    , ("subjects", writeSubjects s.subjects)
    , ("buffer", .int s.busBuffer)
    , ("drain_timeout", .int s.drainSeconds)
    , ("interval", .int s.sweepSeconds)
    , ("slow_threshold", .int Settings.slowSweepSeconds)
    , ("pending_ttl", .int BatchStore.defaultLifetimeSeconds) ]

end TransitForecast.Wire
