import TransitForecast.Engine.Status
import TransitForecast.Health
import TransitForecast.Wire.Time

/-!
# TransitForecast — subjects, status and health on the wire
-/

namespace TransitForecast.Wire

open Json (Reader FieldReader)
open Json.FieldReader (required withDefault optional optionalTail record)
open Decimal (int64 nat32 nat64)

/-- Writes subjects. -/
def writeSubjects (s : Subjects) : Json := .object
  [ ("vehicle_monitor_results", .string s.vehicleReports)
  , ("queue_group", .string s.queueGroup)
  , ("inference_request_prefix", .string s.requests)
  , ("inference_response", .string s.responses)
  , ("trip_updates", .string s.updates) ]

/-- The fields of subjects, for a way to read texts; each has a default. -/
def subjectFields (text : Reader String) : FieldReader Subjects := do
  let standard := Subjects.default
  let vehicleReports ← withDefault "vehicle_monitor_results" text standard.vehicleReports
  let queueGroup ← withDefault "queue_group" text standard.queueGroup
  let requests ← withDefault "inference_request_prefix" text standard.requests
  let responses ← withDefault "inference_response" text standard.responses
  let updates ← withDefault "trip_updates" text standard.updates
  return ⟨vehicleReports, queueGroup, requests, responses, updates⟩

/-- Reads subjects. -/
def readSubjects : Reader Subjects := record (subjectFields Reader.string)

/-- Writes the counts of a sweep. -/
def writeCounts (c : SweepCounts) : Json := .object [("before", .int c.before), ("after", .int c.after)]

/-- Reads the counts of a sweep. -/
def readCounts : Reader SweepCounts := record do
  let before ← required "before" (Reader.nat nat64)
  let after ← required "after" (Reader.nat nat64)
  return ⟨before, after⟩

/-- Writes what a sweep did. -/
def writeSweep (r : SweepReport) : Json := .object
  [ ("swept_at", writeInstant r.sweptAt)
  , ("pending_batches", writeCounts r.batches)
  , ("trip_predictors", writeCounts r.predictors)
  , ("observed_transitions", writeCounts r.transitions)
  , ("elapsed_ms", .int r.elapsedMillis) ]

/-- Reads what a sweep did. -/
def readSweep : Reader SweepReport := record do
  let sweptAt ← required "swept_at" readInstant
  let batches ← required "pending_batches" readCounts
  let predictors ← required "trip_predictors" readCounts
  let transitions ← required "observed_transitions" readCounts
  let elapsedMillis ← required "elapsed_ms" (Reader.nat nat64)
  return ⟨sweptAt, batches, predictors, transitions, elapsedMillis⟩

/-- Writes the status of an engine. -/
def writeStatus (s : EngineStatus) : Json := .object
  [ ("instance", .string s.instanceName)
  , ("trip_predictors", .int s.predictors)
  , ("pending_batches", .int s.batches)
  , ("observed_transitions", .int s.transitions)
  , ("inference_bucket_count", .int s.buckets)
  , ("batch_ttl_secs", .int s.batchLifetimeSeconds)
  , ("last_sweep", Json.ofOption writeSweep s.lastSweep) ]

/-- Reads the status of an engine. -/
def readStatus : Reader EngineStatus := record do
  let instanceName ← required "instance" Reader.string
  let predictors ← required "trip_predictors" (Reader.nat nat64)
  let batches ← required "pending_batches" (Reader.nat nat64)
  let transitions ← required "observed_transitions" (Reader.nat nat64)
  let buckets ← required "inference_bucket_count" (Reader.nat nat32)
  let batchLifetimeSeconds ← required "batch_ttl_secs" (Reader.int int64)
  let lastSweep ← optionalTail "last_sweep" readSweep
  return ⟨instanceName, predictors, batches, transitions, buckets, batchLifetimeSeconds, lastSweep⟩

/-- Reads the state of a part. -/
def readHealthStatus : Reader Status := Reader.name Status.ofName?

/-- The fields of the state of a part, without its time. -/
def conditionFields (c : Condition) : List (String × Json) :=
  [("status", .string c.status.name)] ++ Json.ifPresent "message" (c.message.map .string)

/-- Writes the state of a part with its text. -/
def writeCondition (c : Condition) : Json :=
  .object (conditionFields c ++ [("updated_at", writeInstant c.updatedAt)])

/-- Reads the state of a part with its text. -/
def readCondition : Reader Condition := record do
  let status ← required "status" readHealthStatus
  let message ← optional "message" Reader.string
  let updatedAt ← required "updated_at" readInstant
  return ⟨status, message, updatedAt⟩

/-- Writes the answer to a liveness probe. -/
def writeHealth (h : HealthReport) : Json := .object
  [ ("status", .string h.status.name)
  , ("components", .object (h.parts.map fun p => (p.1, writeCondition p.2))) ]

/-- Reads parts with their states: an object, of which the last of equal names counts. -/
def readParts : Reader (List (String × Condition))
  | .object members =>
    members.foldlM (fun parts m =>
      (readCondition m.2).map fun c => HealthBoard.place m.1 c parts) []
  | _ => none

/-- Reads the answer to a liveness probe. -/
def readHealth : Reader HealthReport := record do
  let status ← required "status" readHealthStatus
  let parts ← required "components" readParts
  return ⟨status, parts⟩

/-- Writes the answer to a readiness probe. -/
def writeReadiness (r : Readiness) : Json := .object (
  [("ready", .bool r.ready)] ++ Json.ifPresent "reason" (r.reason.map .string))

/-- Reads the answer to a readiness probe. -/
def readReadiness : Reader Readiness := record do
  let ready ← required "ready" Reader.bool
  let reason ← optional "reason" Reader.string
  return ⟨ready, reason⟩

end TransitForecast.Wire
