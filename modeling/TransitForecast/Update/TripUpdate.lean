import TransitForecast.Prediction.TripPrediction

/-!
# TransitForecast — trip updates

The prediction of a trip as it is sent out: for each reported stop when the vehicle
was, is or will be there, and by how much that differs from the schedule.
-/

namespace TransitForecast

/-- What is sent about one stop. -/
structure StopUpdate where
  sequence : Nat
  stop : String
  arrivalDelay : Int
  scheduledArrival : Instant
  predictedArrival : Instant
  departureDelay : Option Int
  scheduledDeparture : Option Instant
  predictedDeparture : Option Instant
  source : Source
  status : Disposition
  timepoint : Bool
  deriving DecidableEq

namespace StopUpdate

/-- An update with a predicted arrival. -/
def arrival (s : Stop) (predicted : Instant) (source : Source) (status : Disposition) :
    StopUpdate :=
  ⟨s.sequence, s.id, (predicted.since s.arrival).seconds, s.arrival, predicted, none, none, none,
    source, status, s.timepoint⟩

/-- Adds a predicted departure. -/
def withDeparture (u : StopUpdate) (s : Stop) (predicted : Instant) : StopUpdate :=
  { u with
    departureDelay := some (predicted.since s.departure).seconds
    scheduledDeparture := some s.departure
    predictedDeparture := some predicted }

end StopUpdate

/-- What is sent about one trip. -/
structure TripUpdate where
  trip : String
  route : String
  vehicle : String
  dataSet : Int
  observedAt : Instant
  stops : List StopUpdate
  deriving DecidableEq

end TransitForecast
