import TransitForecast.Update.TripUpdate
import TransitForecast.Wire.Time

/-!
# TransitForecast — trip updates on the wire

Times are seconds since the epoch. What is not known about a departure is left out.
-/

namespace TransitForecast.Wire

open Json (Reader FieldReader)
open Json.FieldReader (required withDefault optional optionalTail record)
open Decimal (int64 nat32)

/-- Writes a source. -/
def writeSource (s : Source) : Json := .string s.name

/-- Reads a source. -/
def readSource : Reader Source := Reader.name Source.ofName?

/-- Writes the position of a stop. -/
def writeDisposition (d : Disposition) : Json := .string d.name

/-- Reads the position of a stop. -/
def readDisposition : Reader Disposition := Reader.name Disposition.ofName?

/-- Writes the update of a stop. -/
def writeStopUpdate (u : StopUpdate) : Json := .object (
  [ ("stop_sequence", .int u.sequence)
  , ("stop_id", .string u.stop)
  , ("arrival_delay", .int u.arrivalDelay)
  , ("scheduled_arrival_time", writeSeconds u.scheduledArrival)
  , ("predicted_arrival_time", writeSeconds u.predictedArrival) ] ++
  Json.ifPresent "departure_delay" (u.departureDelay.map .int) ++
  Json.ifPresent "scheduled_departure_time" (u.scheduledDeparture.map writeSeconds) ++
  Json.ifPresent "predicted_departure_time" (u.predictedDeparture.map writeSeconds) ++
  [ ("prediction_source", writeSource u.source)
  , ("stop_status", writeDisposition u.status)
  , ("timepoint", .bool u.timepoint) ])

/-- Reads the update of a stop. -/
def readStopUpdate : Reader StopUpdate := record do
  let sequence ← required "stop_sequence" (Reader.nat nat32)
  let stop ← required "stop_id" Reader.string
  let arrivalDelay ← required "arrival_delay" (Reader.int int64)
  let scheduledArrival ← required "scheduled_arrival_time" readSeconds
  let predictedArrival ← required "predicted_arrival_time" readSeconds
  let departureDelay ← optionalTail "departure_delay" (Reader.int int64)
  let scheduledDeparture ← optionalTail "scheduled_departure_time" readSeconds
  let predictedDeparture ← optionalTail "predicted_departure_time" readSeconds
  let source ← required "prediction_source" readSource
  let status ← required "stop_status" readDisposition
  let timepoint ← withDefault "timepoint" Reader.bool false
  return ⟨sequence, stop, arrivalDelay, scheduledArrival, predictedArrival, departureDelay,
    scheduledDeparture, predictedDeparture, source, status, timepoint⟩

/-- Writes the update of a trip. -/
def writeUpdate (u : TripUpdate) : Json := .object
  [ ("trip_id", .string u.trip)
  , ("route_id", .string u.route)
  , ("vehicle_id", .string u.vehicle)
  , ("data_set_id", .int u.dataSet)
  , ("timestamp", writeSeconds u.observedAt)
  , ("stop_time_update", .array (u.stops.map writeStopUpdate)) ]

/-- Reads the update of a trip. -/
def readUpdate : Reader TripUpdate := record do
  let trip ← required "trip_id" Reader.string
  let route ← required "route_id" Reader.string
  let vehicle ← required "vehicle_id" Reader.string
  let dataSet ← required "data_set_id" (Reader.int int64)
  let observedAt ← required "timestamp" readSeconds
  let stops ← required "stop_time_update" (Reader.list readStopUpdate)
  return ⟨trip, route, vehicle, dataSet, observedAt, stops⟩

end TransitForecast.Wire
