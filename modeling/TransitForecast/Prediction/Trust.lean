import TransitForecast.Prediction.Segment

/-!
# TransitForecast — trust in models

When a model's predictions and its averages are good enough to use, and how a run
of stops between timepoints is cut into segments accordingly: a trusted model of
the whole run takes it as one segment, otherwise each stop pair is a segment of its own.
-/

namespace TransitForecast

/-- Thresholds for models. -/
structure Trust where
  /-- By how much the error of a model must be below that of the average. -/
  minImprovement : Float
  /-- Observations needed before averages are used. -/
  minObservations : Nat
  /-- Whether inference is asked for at all. -/
  inferenceEnabled : Bool
  deriving DecidableEq

namespace Trust

/-- The thresholds unless the settings say otherwise. -/
def default : Trust := ⟨0, 10, true⟩

/-- Whether a model beats its average by enough. -/
def inModel (t : Trust) (m : TravelModel) : Bool :=
  m.trained && decide (t.minImprovement ≤ m.averageError - m.modelError)

/-- Whether the average of a model may be used. -/
def inStatistics (t : Trust) (m : TravelModel) : Bool :=
  decide (t.minObservations ≤ m.observations) && decide (0 < m.averageTime)

/-- A segment over a run, with what is trusted of its model. -/
def segment? (t : Trust) (model : Option TravelModel) (run : List Stop) (firstIndex : Nat) :
    Option Segment :=
  Segment.ofRun? model run firstIndex
    (t.inferenceEnabled && model.any t.inModel) (model.any t.inStatistics)

/-- The trusted model of a run of more than two stops. -/
def wholeRunModel (t : Trust) (models : ModelRegistry) (run : List Stop) : Option TravelModel :=
  if 2 < run.length then (models.forRun run).filter t.inModel else none

/-- The segments of a run in order. -/
def segments (t : Trust) (models : ModelRegistry) (run : List Stop) (firstIndex : Nat) :
    List Segment :=
  match t.wholeRunModel models run with
  | some model => (t.segment? (some model) run firstIndex).toList
  | none =>
    ((stopPairs run).mapIdx fun i pair =>
      t.segment? (models.forRun [pair.1, pair.2]) [pair.1, pair.2] (firstIndex + i)).filterMap id

end Trust

end TransitForecast
