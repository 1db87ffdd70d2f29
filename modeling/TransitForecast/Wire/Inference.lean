import TransitForecast.Inference.BatchStore
import TransitForecast.Wire.Time

/-!
# TransitForecast — inference messages and batch views on the wire
-/

namespace TransitForecast.Wire

open Json (Reader FieldReader)
open Json.FieldReader (required withDefault optional optionalTail record)
open Decimal (int64 int32 nat64)

/-- Writes a request. -/
def writeRequest (r : InferenceRequest) : Json := .object
  [ ("request_id", .string r.id)
  , ("ml_model_id", .int r.model)
  , ("version", .int r.version)
  , ("features", .array (r.features.map .float))
  , ("timestamp", writeMillis r.createdAt) ]

/-- Reads a request. -/
def readRequest : Reader InferenceRequest := record do
  let id ← required "request_id" Reader.string
  let model ← required "ml_model_id" (Reader.int int64)
  let version ← required "version" (Reader.int int32)
  let features ← required "features" (Reader.list Reader.float)
  let createdAt ← required "timestamp" readMillis
  return ⟨id, model, version, features, createdAt⟩

/-- Writes a response. -/
def writeResponse (r : InferenceResponse) : Json := .object
  [ ("request_id", .string r.request)
  , ("prediction", Json.ofOption .float r.prediction)
  , ("error", Json.ofOption .string r.error) ]

/-- Reads a response. -/
def readResponse : Reader InferenceResponse := record do
  let request ← required "request_id" Reader.string
  let prediction ← optionalTail "prediction" Reader.float
  let error ← optionalTail "error" Reader.string
  return ⟨request, prediction, error⟩

/-- Writes the view of a batch. -/
def writeBatchSummary (b : BatchSummary) : Json := .object
  [ ("batch_id", .string b.batch)
  , ("vehicle_id", .string b.vehicle)
  , ("created_at", writeInstant b.createdAt)
  , ("expire_time", Json.ofOption writeInstant b.expiresAt)
  , ("trips", .array (b.trips.map .string))
  , ("requests", .int b.requests)
  , ("pending_remaining", .int b.pending) ]

/-- Reads the view of a batch. -/
def readBatchSummary : Reader BatchSummary := record do
  let batch ← required "batch_id" Reader.string
  let vehicle ← required "vehicle_id" Reader.string
  let createdAt ← required "created_at" readInstant
  let expiresAt ← optional "expire_time" readInstant
  let trips ← required "trips" (Reader.list Reader.string)
  let requests ← required "requests" (Reader.nat nat64)
  let pending ← required "pending_remaining" (Reader.nat nat64)
  return ⟨batch, vehicle, createdAt, expiresAt, trips, requests, pending⟩

end TransitForecast.Wire
