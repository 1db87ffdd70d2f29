/-!
# TransitForecast — where a stop is, and where a time comes from
-/

namespace TransitForecast

/-- Position of a stop relative to the vehicle. -/
inductive Disposition
  | past
  | here
  | future
  deriving DecidableEq, Repr

namespace Disposition

/-- Distance within which a vehicle counts as being at a stop. -/
def atStopDistance : Float := 2.0

/-- Position of a stop at a distance along the trip, for a vehicle that has come as far as
`progress`. -/
def classify (progress distance : Float) : Disposition :=
  if (progress - distance).abs ≤ atStopDistance then .here
  else if distance < progress then .past
  else .future

/-- The name of a position in messages. -/
def name : Disposition → String
  | past => "past"
  | here => "at"
  | future => "future"

/-- The position of a name. -/
def ofName? (s : String) : Option Disposition := [past, here, future].find? fun d => d.name = s

theorem ofName?_name (d : Disposition) : ofName? d.name = some d := by cases d <;> decide

end Disposition

/-- Where a predicted travel time comes from. -/
inductive Source
  | schedule
  | stopStatistics
  | timepointStatistics
  | stopModel
  | timepointModel
  /-- Marks the end of the predictions at the horizon. -/
  | endOfPredictions
  deriving DecidableEq, Repr

namespace Source

/-- Every source. -/
def all : List Source :=
  [schedule, stopStatistics, timepointStatistics, stopModel, timepointModel, endOfPredictions]

/-- The name of a source in messages. -/
def name : Source → String
  | schedule => "schedule"
  | stopStatistics => "stop_statistics"
  | timepointStatistics => "timepoint_statistics"
  | stopModel => "stop_ml"
  | timepointModel => "timepoint_ml"
  | endOfPredictions => "no_further_predictions"

/-- The source of a name. -/
def ofName? (s : String) : Option Source := all.find? fun x => x.name = s

theorem ofName?_name (x : Source) : ofName? x.name = some x := by cases x <;> decide

end Source

end TransitForecast
