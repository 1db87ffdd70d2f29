import TransitForecast.Prediction.Trust
import TransitForecast.Prediction.TripPrediction
import TransitForecast.PredictionError

/-!
# TransitForecast — trip predictors

A trip cut into segments: first at its timepoints into runs, then each run by the
models that are trusted. Predicting an observation skips the segments behind the
vehicle and ends at the first segment that leaves at or after the horizon.
-/

namespace TransitForecast

/-- The runs that start with a given run: from each timepoint, or the first stop, to the next
timepoint, or the last stop, with the position of their first stops. -/
def runsFrom (start : Nat) (run : List Stop) : List Stop → List (Nat × List Stop)
  | [] => []
  | [last] => [(start, run ++ [last])]
  | stop :: next :: rest =>
    if stop.timepoint then
      (start, run ++ [stop]) :: runsFrom (start + run.length) [stop] (next :: rest)
    else runsFrom start (run ++ [stop]) (next :: rest)

/-- The runs of a trip between its timepoints. -/
def timepointRuns : List Stop → List (Nat × List Stop)
  | [] => []
  | first :: rest => runsFrom 0 [first] rest

/-- A trip cut into segments. -/
structure TripPredictor where
  trip : Trip
  segments : List Segment
  horizon : Span

namespace TripPredictor

/-- Minutes of the horizon unless the settings say otherwise. -/
def defaultHorizonMinutes : Int := 60

/-- The predictor of a trip. -/
def build (trust : Trust) (models : ModelRegistry) (horizon : Span) (trip : Trip) : TripPredictor :=
  ⟨trip, (timepointRuns trip.stops).flatMap fun r => trust.segments models r.2 r.1, horizon⟩

/-- The end of the horizon of an observation. -/
def cutoff? (p : TripPredictor) (d : Deviation) : Option Instant := d.observedAt.shift? p.horizon

/-- Whether the trip departs before the horizon ends; a trip without stops never does. -/
def inRange (p : TripPredictor) (d : Deviation) : Except Halt Bool :=
  match p.trip.firstDeparture with
  | none => .ok false
  | some departure =>
    match p.cutoff? d with
    | some cutoff => .ok (departure < cutoff)
    | none => .error .overflow

/-- The prediction progress far, the inferences it asks for, and the store of observed transitions. -/
structure Progress where
  prediction : TripPrediction
  inferences : List Inference
  store : ObservedTransitions

/-- Adds the predictions of one segment. -/
def addSegment (calendar : ServiceCalendar) (d : Deviation) (acc : Progress) (s : Segment) :
    Except Halt Progress :=
  match s.predict calendar acc.store d with
  | .error halt => .error halt
  | .ok (predictions, none, store) =>
    .ok ⟨acc.prediction.append predictions, acc.inferences, store⟩
  | .ok (predictions, some inference, store) =>
    let (prediction, asked) := acc.prediction.appendAwaiting s inference.key predictions
    .ok ⟨prediction, if asked then acc.inferences ++ [inference] else acc.inferences, store⟩

/-- Goes through the segments in order. `ahead` tells whether the vehicle's segment was reached. -/
def walk (calendar : ServiceCalendar) (d : Deviation) (cutoff : Instant) (ahead : Bool)
    (acc : Progress) : List Segment → Except Halt Progress
  | [] => .ok acc
  | s :: rest =>
    if cutoff ≤ s.firstStop.departure then
      .ok { acc with prediction := acc.prediction.push (.ending s.firstIndex) }
    else if !ahead && Disposition.classify d.progress s.lastStop.distance = .past then
      walk calendar d cutoff false acc rest
    else
      match addSegment calendar d acc s with
      | .error halt => .error halt
      | .ok acc => walk calendar d cutoff true acc rest

/-- Predicts a trip for an observation. -/
def predict (p : TripPredictor) (calendar : ServiceCalendar) (store : ObservedTransitions)
    (d : Deviation) : Except Halt Progress :=
  match p.cutoff? d with
  | none => .error .overflow
  | some cutoff => walk calendar d cutoff false ⟨.start d p.trip, [], store⟩ p.segments

end TripPredictor

end TransitForecast
