import TransitForecast.Inference.Model
import TransitForecast.Prediction.Allocation
import TransitForecast.Prediction.Disposition
import TransitForecast.Prediction.Features

/-!
# TransitForecast — segments

A segment is a run of two or more stops whose travel time is predicted as a whole:
from the schedule, from the averages of its model, or by asking an inference
worker. The time is then shared among the stop pairs.
-/

namespace TransitForecast

/-- Predicted travel between two neighbouring stops of a trip, by their positions in the trip. -/
structure StopPrediction where
  origin : Nat
  target : Nat
  seconds : Float
  source : Source
  complete : Bool
  deriving DecidableEq

/-- The marker that ends the predictions of a trip at the horizon. -/
def StopPrediction.ending (origin : Nat) : StopPrediction :=
  ⟨origin, origin + 1, 0, .endOfPredictions, true⟩

/-- What identifies an outstanding inference of a trip. -/
structure InferenceKey where
  model : Int
  version : Int
  deriving DecidableEq, Repr

/-- An inference that a segment needs before its predictions are final. -/
structure Inference where
  key : InferenceKey
  features : List Float
  deriving DecidableEq

/-- A run of stops that is predicted as a whole. -/
structure Segment where
  model : Option TravelModel
  stops : List Stop
  /-- Position of the first stop in the trip. -/
  firstIndex : Nat
  usesInference : Bool
  usesStatistics : Bool
  twoStops : 2 ≤ stops.length
  /-- There is no inference without a model. -/
  modelled : usesInference = true → model.isSome = true

namespace Segment

/-- A segment over a run; a run of fewer than two stops has none. Inference and statistics both need
a model. -/
def ofRun? (model : Option TravelModel) (run : List Stop) (firstIndex : Nat)
    (useInference useStatistics : Bool) : Option Segment :=
  if h : 2 ≤ run.length then
    some ⟨model, run, firstIndex, useInference && model.isSome, useStatistics && model.isSome, h,
      fun uses => (Bool.and_eq_true_iff.1 uses).2⟩
  else none

/-- A segment has stops. -/
theorem stops_ne_nil (s : Segment) : s.stops ≠ [] := by
  intro h
  have := s.twoStops
  simp [h] at this

/-- The first stop. -/
def firstStop (s : Segment) : Stop := s.stops.head s.stops_ne_nil

/-- The last stop. -/
def lastStop (s : Segment) : Stop := s.stops.getLast s.stops_ne_nil

/-- Whether there are stops between the first and the last. -/
def isMultiStop (s : Segment) : Bool := 2 < s.stops.length

/-- Scheduled seconds of the run. -/
def scheduled (s : Segment) : Float := Float.ofInt (scheduledSeconds s.firstStop s.lastStop)

/-- The historical average when it is trusted, else the scheduled time. -/
def statistical (s : Segment) : Float × Source :=
  match s.model with
  | some model =>
    if s.usesStatistics ∧ 0 < model.averageTime then
      (model.averageTime, if s.isMultiStop then .timepointStatistics else .stopStatistics)
    else (s.scheduled, .schedule)
  | none => (s.scheduled, .schedule)

/-- Inference is worth asking for until the vehicle has passed the end of the segment. -/
def needsInference (s : Segment) (d : Deviation) : Bool :=
  s.usesInference && decide (d.progress ≤ s.lastStop.distance)

/-- Shares a travel time among the stop pairs. -/
def allocate (s : Segment) (total : Float) (source : Source) (complete : Bool) :
    List StopPrediction :=
  (Allocation.split (pairSeconds s.stops) total).mapIdx fun i seconds =>
    ⟨s.firstIndex + i, s.firstIndex + i + 1, seconds, source, complete⟩

/-- The source of an answered inference. -/
def answerSource (s : Segment) : Source :=
  if s.isMultiStop then .timepointModel else .stopModel

/-- The predictions that follow from an answered inference. -/
def answered (s : Segment) (seconds : Float) : List StopPrediction :=
  s.allocate seconds s.answerSource true

/-- The predictions of a segment for an observation, the inference they wait for, and the store of
observed transitions after its features were taken. -/
def predict (s : Segment) (calendar : ServiceCalendar) (store : ObservedTransitions)
    (d : Deviation) : Except Halt (List StopPrediction × Option Inference × ObservedTransitions) :=
  let (seconds, source) := s.statistical
  let needed := s.needsInference d
  let predictions := s.allocate seconds source (!needed)
  match s.model with
  | some model =>
    if needed then
      match Features.build calendar store d s.stops with
      | .error halt => .error halt
      | .ok (features, store) =>
        .ok (predictions, some ⟨⟨model.id, model.version⟩, features⟩, store)
    else .ok (predictions, none, store)
  | none => .ok (predictions, none, store)

end Segment

end TransitForecast
