import TransitForecast.Bus
import TransitForecast.Health
import TransitForecast.Inference.BatchStore
import TransitForecast.Json.Printer
import TransitForecast.Metrics
import TransitForecast.Prediction.PredictorCache
import TransitForecast.Settings.Check
import TransitForecast.Update.Build
import TransitForecast.Wire.Inference
import TransitForecast.Wire.Update

/-!
# TransitForecast — the engine

An engine holds everything that handling a message may read or change: the
timetable, the models, what was observed, the predictors, the batches, the bus and the state of its
own parts. Everything that it hands to the bus is kept in a journal, in order.
-/

namespace TransitForecast

/-- What a message holds. -/
inductive Payload
  | request (r : InferenceRequest)
  | update (u : TripUpdate)
  | raw (t : String)
  deriving DecidableEq

/-- The text of a message. -/
def Payload.text : Payload → String
  | .request r => (Wire.writeRequest r).compact
  | .update u => (Wire.writeUpdate u).compact
  | .raw t => t

/-- A message that was handed to the bus, and whether the bus took it. -/
structure Sent where
  subject : String
  payload : Payload
  delivered : Bool
  deriving DecidableEq

/-- An aggregation engine. -/
structure Engine where
  settings : EngineSettings
  horizon : Span
  updateRules : UpdateRules
  calendar : ServiceCalendar
  timetable : Timetable
  models : ModelRegistry
  transitions : ObservedTransitions
  predictors : PredictorCache
  batches : BatchStore
  bus : Bus
  /-- Trips whose updates the publisher refuses. -/
  refusedTrips : List String
  /-- Every message that was handed to the bus, oldest first. -/
  journal : List Sent
  health : HealthBoard
  metrics : Metrics
  lastSweep : Option SweepReport
  /-- The time on the wall clock. -/
  wall : Instant

namespace Engine

/-- An engine at its start; `none` when the horizon or the early limit cannot be represented. -/
def start? (settings : EngineSettings) (timetable : Timetable) (models : ModelRegistry)
    (holidays : Holidays) (refusedTrips : List String) (wall : Instant) : Option Engine :=
  match Span.ofMinutes? settings.horizonMinutes, Span.ofSeconds? settings.earlySeconds with
  | some horizon, some earlyLimit => some
    { settings, horizon, timetable, models, refusedTrips, wall
      updateRules := ⟨earlyLimit⟩
      calendar := ⟨settings.zone, holidays⟩
      transitions := .empty settings.transitionMaxAge
      predictors := .empty
      batches := .empty settings.batchLifetime
      bus := .empty
      journal := []
      health := .allHealthy wall
      metrics := .zero
      lastSweep := none }
  | _, _ => none

/-- What trip predictors are built with. -/
def rules (e : Engine) : PredictorRules := ⟨e.settings.trust, e.horizon⟩

/-- Changes the metrics. -/
def measure (e : Engine) (change : Metrics → Metrics) : Engine :=
  { e with metrics := change e.metrics }

/-- Counts a dropped message or deviation. -/
def drop (e : Engine) (error : PredictionError) : Engine :=
  e.measure fun m => m.count (.messagesDropped error.label)

/-- Shows the number of parked batches. -/
def showParked (e : Engine) : Engine :=
  e.measure fun m => m.set .pendingBatches e.batches.parkedCount

/-- Hands a message to the bus, and tells why the bus refused it. -/
def send (e : Engine) (subject : String) (payload : Payload) : Option BusError × Engine :=
  match e.bus.publish subject payload.text with
  | .ok bus => (none, { e with bus := bus, journal := e.journal ++ [⟨subject, payload, true⟩] })
  | .error error => (some error, { e with journal := e.journal ++ [⟨subject, payload, false⟩] })

/-- Stores observed transitions. -/
def record (e : Engine) (ts : List Transition) : Engine :=
  { e with transitions := e.transitions.recordAll ts }

/-- A snapshot of the engine. -/
def status (e : Engine) : EngineStatus where
  instanceName := e.settings.instanceName
  predictors := e.predictors.size
  batches := e.batches.parkedCount
  transitions := e.transitions.size
  buckets := e.settings.buckets
  batchLifetimeSeconds := e.settings.batchLifetime.seconds
  lastSweep := e.lastSweep

end Engine

end TransitForecast
