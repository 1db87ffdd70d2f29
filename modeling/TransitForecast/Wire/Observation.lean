import TransitForecast.Observation.Report
import TransitForecast.Wire.Time

/-!
# TransitForecast — vehicle reports on the wire
-/

namespace TransitForecast.Wire

open Json (Reader FieldReader)
open Json.FieldReader (required withDefault optional record)
open Decimal (int64)

/-- Writes a deviation. -/
def writeDeviation (d : Deviation) : Json := .object
  [ ("data_set_id", .int d.dataSet)
  , ("trip_id", .string d.trip)
  , ("route_id", .string d.route)
  , ("vehicle_id", .string d.vehicle)
  , ("timestamp", writeInstant d.observedAt)
  , ("trip_progress", .float d.progress)
  , ("delay", .int d.delay) ]

/-- Reads a deviation. -/
def readDeviation : Reader Deviation := record do
  let dataSet ← required "data_set_id" (Reader.int int64)
  let trip ← required "trip_id" Reader.string
  let route ← required "route_id" Reader.string
  let vehicle ← required "vehicle_id" Reader.string
  let observedAt ← required "timestamp" readInstant
  let progress ← required "trip_progress" Reader.float
  let delay ← required "delay" (Reader.int int64)
  return ⟨dataSet, trip, route, vehicle, observedAt, progress, delay⟩

/-- Writes a transition. -/
def writeTransition (t : Transition) : Json := .object
  [ ("from_stop_id", .string t.origin)
  , ("to_stop_id", .string t.target)
  , ("travel_seconds", .float t.seconds)
  , ("observed_time", writeInstant t.observedAt) ]

/-- Reads a transition. -/
def readTransition : Reader Transition := record do
  let origin ← required "from_stop_id" Reader.string
  let target ← required "to_stop_id" Reader.string
  let seconds ← required "travel_seconds" Reader.float
  let observedAt ← required "observed_time" readInstant
  return ⟨origin, target, seconds, observedAt⟩

/-- Writes a report. -/
def writeReport (r : VehicleReport) : Json := .object
  [ ("observed_stop_transitions", .array (r.transitions.map writeTransition))
  , ("trip_deviations", .array (r.deviations.map writeDeviation)) ]

/-- Reads a report. -/
def readReport : Reader VehicleReport := record do
  let transitions ← withDefault "observed_stop_transitions" (Reader.list readTransition) []
  let deviations ← withDefault "trip_deviations" (Reader.list readDeviation) []
  return ⟨transitions, deviations⟩

end TransitForecast.Wire
