import TransitForecast.Schedule.Trip
import TransitForecast.PredictionError
import TransitForecast.Table

/-!
# TransitForecast — timetables

The source of dated trips, by data set and trip.
-/

namespace TransitForecast

/-- What identifies a trip. -/
abbrev TripKey := Int × String

/-- The trips that the schedule source knows. -/
structure Timetable where
  trips : Table TripKey Trip
  /-- Trips about which the source never answers. -/
  silent : List String

namespace Timetable

/-- The timetable without trips. -/
def empty : Timetable := ⟨.empty, []⟩

instance : Inhabited Timetable := ⟨empty⟩

/-- Adds a trip, in place of one with the same key. -/
def insert (t : Timetable) (trip : Trip) : Timetable :=
  { t with trips := t.trips.insert (trip.dataSet, trip.id) trip }

/-- The timetable of a list of trips; of those with one key the last counts. -/
def ofList (trips : List Trip) : Timetable := trips.foldl insert empty

/-- Number of trips. -/
def size (t : Timetable) : Nat := t.trips.size

/-- The trip of a key. -/
def trip (t : Timetable) (key : TripKey) : Except PredictionError Trip :=
  match t.trips.find? key with
  | some trip => .ok trip
  | none => .error (.noSchedule
      ("trip " ++ key.2 ++ " not found in data set " ++ toString key.1))

/-- What the source answers when it is asked for a trip. -/
def fetch (t : Timetable) (key : TripKey) : Except Halt (Except PredictionError Trip) :=
  if t.silent.contains key.2 then .error .stalled else .ok (t.trip key)

/-- What the source answers is what it knows. -/
theorem trip_of_fetch {t : Timetable} {key : TripKey} {answer : Except PredictionError Trip}
    (h : t.fetch key = .ok answer) : t.trip key = answer := by
  unfold fetch at h
  split at h
  · cases h
  · exact Except.ok.inj h

end Timetable

end TransitForecast
