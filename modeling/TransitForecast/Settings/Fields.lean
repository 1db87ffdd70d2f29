import TransitForecast.Settings.Basic
import TransitForecast.Wire.Status

/-!
# TransitForecast — reading settings

The names of the settings and the ranges of their values, for any way to read a
scalar. Read strictly, a value must have the kind that the setting has.
-/

namespace TransitForecast

open Json (Reader FieldReader)
open Json.FieldReader (withDefault)
open Decimal (Bounds int64 nat16 nat32 nat64)

/-- A way to read the scalars of settings. -/
structure ScalarReader where
  text : Reader String
  flag : Reader Bool
  int : Bounds → Reader Int
  nat : Bounds → Reader Nat
  real : Reader Float
  subjects : Reader Subjects

namespace Settings

/-- The settings of an object, on a host of a given name. -/
def fields (r : ScalarReader) (name : String) : FieldReader Settings := do
  let s := default name
  let instanceName ← withDefault "instance" r.text s.instanceName
  let port ← withDefault "api_port" (r.nat nat16) s.port
  let predictorSeconds ← withDefault "trip_predictor_ttl_secs" (r.int int64) s.predictorSeconds
  let batchSeconds ← withDefault "batch_ttl_secs" (r.int int64) s.batchSeconds
  let minImprovement ← withDefault "min_rmse_improvement" r.real s.trust.minImprovement
  let minObservations ← withDefault "min_observed_stop_count" (r.nat nat32) s.trust.minObservations
  let inferenceEnabled ← withDefault "inference_enabled" r.flag s.trust.inferenceEnabled
  let earlySeconds ← withDefault "limit_early_departure_secs" (r.int int64) s.earlySeconds
  let horizonMinutes ← withDefault "max_prediction_minutes" (r.int int64) s.horizonMinutes
  let buckets ← withDefault "inference_bucket_count" (r.nat nat32) s.buckets
  let routes ← withDefault "route_allow_list" (Reader.list r.text) s.routes
  let transitionSeconds ← withDefault "transition_max_age_secs" (r.int int64) s.transitionSeconds
  let sweepSeconds ← withDefault "sweep_interval_secs" (r.nat nat64) s.sweepSeconds
  let zone ← withDefault "timezone" r.text s.zone
  let holidays ← withDefault "holidays" (Reader.list r.text) s.holidays
  let scheduleFile ← withDefault "schedule_file" (Reader.option r.text) s.scheduleFile
  let modelsFile ← withDefault "models_file" (Reader.option r.text) s.modelsFile
  let busBuffer ← withDefault "bus_buffer" (r.nat nat64) s.busBuffer
  let drainSeconds ← withDefault "drain_timeout_secs" (r.nat nat64) s.drainSeconds
  let subjects ← withDefault "subjects" r.subjects s.subjects
  return { instanceName, port, predictorSeconds, batchSeconds,
           trust := ⟨minImprovement, minObservations, inferenceEnabled⟩,
           earlySeconds, horizonMinutes, buckets, routes, transitionSeconds, sweepSeconds,
           zone, holidays, scheduleFile, modelsFile, busBuffer, drainSeconds, subjects }

end Settings

/-- Reads scalars of the very kind that is asked for. -/
def ScalarReader.strict : ScalarReader :=
  ⟨Reader.string, Reader.bool, Reader.int, Reader.nat, Reader.float, Wire.readSubjects⟩

/-- Reads settings strictly. -/
def Settings.read (name : String) : Reader Settings :=
  FieldReader.record (Settings.fields .strict name)

end TransitForecast
