import TransitForecast.Time.Instant

/-!
# TransitForecast — what an engine tells about itself

Subjects that it reads and writes, what a sweep removed, and the sizes of its stores.
-/

namespace TransitForecast

/-- The subjects that an engine reads and writes. -/
structure Subjects where
  vehicleReports : String
  /-- Queue group in which engines share vehicle reports. -/
  queueGroup : String
  /-- What the subjects of inference requests start with. -/
  requests : String
  responses : String
  updates : String
  deriving DecidableEq, Repr

/-- The subjects unless the settings say otherwise. -/
def Subjects.default : Subjects :=
  ⟨"vehicle-monitor-results", "prediction-aggregator", "inference-request", "inference-response",
    "trip-updates"⟩

/-- The size of a store before and after a sweep. -/
structure SweepCounts where
  before : Nat
  after : Nat
  deriving DecidableEq, Repr

/-- How many entries a sweep removed. -/
def SweepCounts.removed (c : SweepCounts) : Nat := c.before - c.after

/-- What a sweep did. -/
structure SweepReport where
  sweptAt : Instant
  batches : SweepCounts
  predictors : SweepCounts
  transitions : SweepCounts
  elapsedMillis : Nat
  deriving DecidableEq

/-- A snapshot of an engine. -/
structure EngineStatus where
  instanceName : String
  predictors : Nat
  batches : Nat
  transitions : Nat
  buckets : Nat
  batchLifetimeSeconds : Int
  lastSweep : Option SweepReport
  deriving DecidableEq

end TransitForecast
