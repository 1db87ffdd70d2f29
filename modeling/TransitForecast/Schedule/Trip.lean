import TransitForecast.Time.Instant

/-!
# TransitForecast — dated trips

A trip of one service day with the stops that it visits, in order.
-/

namespace TransitForecast

/-- A scheduled visit to a stop. -/
structure Stop where
  id : String
  sequence : Nat
  /-- Scheduled arrival and departure in seconds after midnight of the service day. -/
  arrivalTime : Int
  departureTime : Int
  /-- Distance along the trip. -/
  distance : Float
  /-- Whether the vehicle keeps to the schedule here. -/
  timepoint : Bool
  /-- Scheduled arrival and departure. -/
  arrival : Instant
  departure : Instant
  deriving DecidableEq

/-- A dated trip. -/
structure Trip where
  dataSet : Int
  id : String
  route : String
  stops : List Stop
  deriving DecidableEq

namespace Trip

/-- Scheduled departure from the first stop. -/
def firstDeparture (t : Trip) : Option Instant := t.stops.head?.map Stop.departure

/-- Scheduled arrival at the last stop. -/
def lastArrival (t : Trip) : Option Instant := t.stops.getLast?.map Stop.arrival

end Trip

/-- Scheduled whole seconds from leaving one stop to reaching another. -/
def scheduledSeconds (origin target : Stop) : Int := (target.arrival.since origin.departure).seconds

/-- Scheduled whole seconds from leaving the first stop of a run to reaching its last. -/
def runSeconds (run : List Stop) : Int :=
  match run.head?, run.getLast? with
  | some first, some last => scheduledSeconds first last
  | _, _ => 0

/-- The pairs of neighbouring stops of a run. -/
def stopPairs (run : List Stop) : List (Stop × Stop) := run.zip run.tail

/-- Scheduled whole seconds of each pair of neighbouring stops. -/
def pairSeconds (run : List Stop) : List Int :=
  (stopPairs run).map fun p => scheduledSeconds p.1 p.2

theorem stopPairs_length (run : List Stop) : (stopPairs run).length = run.length - 1 := by
  simp [stopPairs]

end TransitForecast
