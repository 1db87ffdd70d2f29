import TransitForecast.Inference.Correlation
import TransitForecast.Inference.Message
import TransitForecast.Prediction.TripPredictor

/-!
# TransitForecast — batches

The trip predictions of one vehicle from one report, in the order of service, with
the inference requests that they wait for. A batch is published once.
-/

namespace TransitForecast

/-- One vehicle's trip predictions from one report. -/
structure Batch where
  id : BatchId
  vehicle : String
  createdAt : Instant
  trips : List TripPrediction
  requests : List InferenceRequest
  published : Bool

/-- A view of a batch for people. -/
structure BatchSummary where
  batch : String
  vehicle : String
  createdAt : Instant
  expiresAt : Option Instant
  trips : List String
  requests : Nat
  pending : Nat
  deriving DecidableEq

namespace Batch

/-- A batch without trips yet. -/
def start (vehicle : String) (createdAt : Instant) : Batch :=
  ⟨.make vehicle createdAt, vehicle, createdAt, [], [], false⟩

/-- The id of a request of the batch. -/
def requestId (b : Batch) (trip : String) (key : InferenceKey) : CorrelationId :=
  ⟨b.id, trip, key.model, key.version⟩

/-- The request for an inference of one of the batch's trips. -/
def request (b : Batch) (trip : String) (i : Inference) : InferenceRequest :=
  ⟨(b.requestId trip i.key).render, i.key.model, i.key.version, i.features, b.createdAt⟩

/-- Adds a trip at the end, with a request for each inference that it needs. -/
def addTrip (b : Batch) (p : TripPrediction) (inferences : List Inference) : Batch :=
  { b with
    trips := b.trips ++ [p]
    requests := b.requests ++ inferences.map (b.request p.deviation.trip) }

/-- Number of inferences still awaited by any trip. -/
def pending (b : Batch) : Nat := b.trips.foldr (fun p n => p.pending + n) 0

/-- Whether the batch has a prediction of a trip. -/
def hasTrip (b : Batch) (trip : String) : Bool := b.trips.any fun p => p.deviation.trip = trip

/-- Answers an inference of the first of the trips with an id; `none` when it is not awaited. -/
def answerTrips? (trip : String) (key : InferenceKey) (seconds : Float) :
    List TripPrediction → Option (List TripPrediction)
  | [] => none
  | p :: rest =>
    if p.deviation.trip = trip then (p.answer? key seconds).map (· :: rest)
    else (answerTrips? trip key seconds rest).map (p :: ·)

/-- The failure that reports an inference which is not awaited. -/
def notAwaited (b : Batch) (c : CorrelationId) : PredictionError :=
  .unknownRequest b.id.text c.trip c.model c.version

/-- Answers an inference. -/
def answer (b : Batch) (c : CorrelationId) (seconds : Float) : Except PredictionError Batch :=
  match answerTrips? c.trip ⟨c.model, c.version⟩ seconds b.trips with
  | some trips => .ok { b with trips := trips }
  | none => .error (b.notAwaited c)

/-- Claims the right to publish: only the first claim gets it. -/
def claim (b : Batch) : Bool × Batch := (!b.published, { b with published := true })

/-- The view of a batch. -/
def summary (b : Batch) (expiresAt : Option Instant) : BatchSummary :=
  ⟨b.id.text, b.vehicle, b.createdAt, expiresAt, b.trips.map fun p => p.deviation.trip,
    b.requests.length, b.pending⟩

end Batch

end TransitForecast
