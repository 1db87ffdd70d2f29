import TransitForecast.Inference.Model
import TransitForecast.Wire.Time

/-!
# TransitForecast — trips and models on the wire
-/

namespace TransitForecast.Wire

open Json (Reader FieldReader)
open Json.FieldReader (required withDefault optional record)
open Decimal (int64 int32 nat32)

/-- Writes a stop. -/
def writeStop (s : Stop) : Json := .object
  [ ("stop_id", .string s.id)
  , ("stop_sequence", .int s.sequence)
  , ("arrival_time", .int s.arrivalTime)
  , ("departure_time", .int s.departureTime)
  , ("shape_dist_traveled", .float s.distance)
  , ("timepoint", .bool s.timepoint)
  , ("arrival_date_time", writeInstant s.arrival)
  , ("departure_date_time", writeInstant s.departure) ]

/-- Reads a stop. -/
def readStop : Reader Stop := record do
  let id ← required "stop_id" Reader.string
  let sequence ← required "stop_sequence" (Reader.nat nat32)
  let arrivalTime ← required "arrival_time" (Reader.int int32)
  let departureTime ← required "departure_time" (Reader.int int32)
  let distance ← required "shape_dist_traveled" Reader.float
  let timepoint ← withDefault "timepoint" Reader.bool false
  let arrival ← required "arrival_date_time" readInstant
  let departure ← required "departure_date_time" readInstant
  return ⟨id, sequence, arrivalTime, departureTime, distance, timepoint, arrival, departure⟩

/-- Writes a trip. -/
def writeTrip (t : Trip) : Json := .object
  [ ("data_set_id", .int t.dataSet)
  , ("trip_id", .string t.id)
  , ("route_id", .string t.route)
  , ("stop_time_instances", .array (t.stops.map writeStop)) ]

/-- Reads a trip. -/
def readTrip : Reader Trip := record do
  let dataSet ← required "data_set_id" (Reader.int int64)
  let id ← required "trip_id" Reader.string
  let route ← required "route_id" Reader.string
  let stops ← required "stop_time_instances" (Reader.list readStop)
  return ⟨dataSet, id, route, stops⟩

/-- Writes a model. -/
def writeModel (m : TravelModel) : Json := .object
  [ ("id", .int m.id)
  , ("version", .int m.version)
  , ("name", .string m.name)
  , ("trained", .bool m.trained)
  , ("avg_rmse", .float m.averageError)
  , ("ml_rmse", .float m.modelError)
  , ("average_time", .float m.averageTime)
  , ("median_time", .float m.medianTime)
  , ("observed_stop_count", .int m.observations) ]

/-- Reads a model. -/
def readModel : Reader TravelModel := record do
  let id ← required "id" (Reader.int int64)
  let version ← required "version" (Reader.int int32)
  let name ← required "name" Reader.string
  let trained ← withDefault "trained" Reader.bool false
  let averageError ← withDefault "avg_rmse" Reader.float 0
  let modelError ← withDefault "ml_rmse" Reader.float 0
  let averageTime ← withDefault "average_time" Reader.float 0
  let medianTime ← withDefault "median_time" Reader.float 0
  let observations ← withDefault "observed_stop_count" (Reader.nat nat32) 0
  return ⟨id, version, name, trained, averageError, modelError, averageTime, medianTime,
    observations⟩

end TransitForecast.Wire
