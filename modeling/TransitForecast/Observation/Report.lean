import TransitForecast.Time.Instant

/-!
# TransitForecast — vehicle reports

What a vehicle monitor observes: where vehicles are on their trips and how late
they run, and how long they took between neighbouring stops.
-/

namespace TransitForecast

/-- One observation of a vehicle on a trip. -/
structure Deviation where
  dataSet : Int
  trip : String
  route : String
  vehicle : String
  observedAt : Instant
  /-- Distance travelled along the trip. -/
  progress : Float
  /-- Seconds behind schedule, negative when early. -/
  delay : Int
  deriving DecidableEq

/-- A measured travel time between neighbouring stops. -/
structure Transition where
  origin : String
  target : String
  seconds : Float
  observedAt : Instant
  deriving DecidableEq

/-- What a vehicle monitor sends. -/
structure VehicleReport where
  transitions : List Transition
  deviations : List Deviation
  deriving DecidableEq

end TransitForecast
