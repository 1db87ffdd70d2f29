import TransitForecast.Inference.BatchStore
import TransitForecast.Prediction.TripPredictor
import TransitForecast.Wire.Time

/-!
# TransitForecast — predictions in full

What the messages and summaries leave out: the segments of a predictor, the state of
a prediction with the answers that it awaits, whole batches, and the parts of their ids. These forms
are for looking at an engine at work, and are only written.
-/

namespace TransitForecast.Wire

/-- Writes a segment. -/
def writeSegment (s : Segment) : Json := .object
  [ ("first_index", .int s.firstIndex)
  , ("stops", .array (s.stops.map fun x => .string x.id))
  , ("first_stop", .string s.firstStop.id)
  , ("last_stop", .string s.lastStop.id)
  , ("model", Json.ofOption (fun m => .array [.int m.id, .int m.version]) s.model)
  , ("uses_inference", .bool s.usesInference)
  , ("uses_statistics", .bool s.usesStatistics)
  , ("multi_stop", .bool s.isMultiStop)
  , ("scheduled_seconds", .float s.scheduled) ]

/-- Writes the prediction of a way between two stops. -/
def writeStopPrediction (p : StopPrediction) : Json := .object
  [ ("from", .int p.origin)
  , ("to", .int p.target)
  , ("seconds", .float p.seconds)
  , ("source", .string p.source.name)
  , ("complete", .bool p.complete) ]

/-- Writes the predictions of some ways. -/
def writeStopPredictions (ps : List StopPrediction) : Json := .array (ps.map writeStopPrediction)

/-- Writes what a model is asked. -/
def writeInference (i : Inference) : Json := .object
  [ ("model_id", .int i.key.model)
  , ("model_version", .int i.key.version)
  , ("features", .array (i.features.map .float)) ]

/-- The order of models, and of the versions of one. -/
def keyLe (a b : InferenceKey) : Bool :=
  a.model < b.model || (a.model = b.model && a.version ≤ b.version)

/-- Writes the prediction of a trip; the answers that it awaits are in order. -/
def writeTripPrediction (p : TripPrediction) : Json := .object
  [ ("trip_id", .string p.deviation.trip)
  , ("pending", .int p.pending)
  , ("incomplete", .int p.incomplete)
  , ("complete", .bool p.isComplete)
  , ("awaiting", .array ((p.awaitedKeys.mergeSort keyLe).map fun k =>
      .array [.int k.model, .int k.version]))
  , ("predictions", writeStopPredictions p.stops) ]

/-- Writes a request with its exact time. -/
def writeHeldRequest (r : InferenceRequest) : Json := .object
  [ ("request_id", .string r.id)
  , ("ml_model_id", .int r.model)
  , ("version", .int r.version)
  , ("features", .array (r.features.map .float))
  , ("timestamp", writeInstant r.createdAt) ]

/-- Writes a batch with its trips and requests. -/
def writeBatch (b : Batch) : Json := .object
  [ ("id", .string b.id.text)
  , ("vehicle_id", .string b.vehicle)
  , ("created_at", writeInstant b.createdAt)
  , ("published", .bool b.published)
  , ("empty", .bool b.trips.isEmpty)
  , ("pending", .int b.pending)
  , ("trips", .array (b.trips.map writeTripPrediction))
  , ("requests", .array (b.requests.map writeHeldRequest)) ]

/-- Writes the parts of the id of a batch. -/
def writeBatchId (b : BatchId) : Json := .object
  [("id", .string b.text), ("vehicle_id", .string b.vehicle), ("millis", .int b.millis)]

/-- Writes the parts of the id of a request. -/
def writeCorrelation (c : CorrelationId) : Json := .object
  [ ("batch", writeBatchId c.batch)
  , ("trip_id", .string c.trip)
  , ("model_id", .int c.model)
  , ("model_version", .int c.version)
  , ("rendered", .string c.render) ]

end TransitForecast.Wire
