import TransitForecast.Observation.Transitions
import TransitForecast.PredictionError
import TransitForecast.Schedule.Trip
import TransitForecast.Schedule.Holidays
import TransitForecast.Time.Zone

/-!
# TransitForecast — features of a run

The numbers that an inference worker gets to see about a run of stops: when and
how the vehicle is observed, what the schedule says, and for each pair of
neighbouring stops what was measured last, with its age. An observation that has no date in the zone
of the agency has no features.
-/

namespace TransitForecast

/-- What the features of a run depend on besides the observation itself. -/
structure ServiceCalendar where
  zone : Zone
  holidays : Holidays

namespace Features

/-- Number of features before those of the stop pairs. -/
def baseCount : Nat := 10

/-- Age of a stop pair without a usable observation, in seconds. -/
def missingAge : Float := 7200

/-- The features of an observation: month, day of the week from Sunday, hour, minute, second,
holiday, scheduled seconds of the run, scheduled time of day at its first stop, delay, and distance
to its last stop. -/
def ofObservation (holidays : Holidays) (wall : WallTime) (d : Deviation) (first last : Stop) :
    List Float :=
  let toEnd := last.distance - d.progress
  [ Float.ofNat wall.date.civil.month
  , Float.ofNat wall.date.weekday
  , Float.ofNat wall.hour
  , Float.ofNat wall.minute
  , Float.ofNat wall.second
  , if holidays.isHoliday wall.date then 1 else 0
  , Float.ofInt (scheduledSeconds first last)
  , Float.ofInt first.departureTime
  , Float.ofInt d.delay
  , if 0 < toEnd then toEnd else 0 ]

/-- The features before those of the stop pairs. They halt when a wall in the zone of the agency
shows no date at the time of the observation. -/
def base (calendar : ServiceCalendar) (d : Deviation) (first last : Stop) :
    Except Halt (List Float) :=
  match calendar.zone.wallTime? d.observedAt with
  | none => .error .overflow
  | some wall => .ok (ofObservation calendar.holidays wall d first last)

/-- The features of one pair of stops: travel time and age of what was measured last, or the
scheduled time and `missingAge`. -/
def ofPair (now : Instant) (pair : Stop × Stop) : Option Transition → List Float
  | some t => [t.seconds, Float.ofInt (max (now.since t.observedAt).seconds 0)]
  | none => [Float.ofInt (scheduledSeconds pair.1 pair.2), missingAge]

/-- The features of pairs of stops in order, and the store after their look-ups. -/
def ofPairs (now : Instant) :
    List (Stop × Stop) → ObservedTransitions → List Float × ObservedTransitions
  | [], store => ([], store)
  | pair :: rest, store =>
    let (found, store) := store.lookup (pair.1.id, pair.2.id) now
    let (features, store) := ofPairs now rest store
    (ofPair now pair found ++ features, store)

/-- The features of a run, and the store after the look-ups. A run without stops has none. When the
features of the observation halt, nothing was looked up yet. -/
def build (calendar : ServiceCalendar) (store : ObservedTransitions) (d : Deviation)
    (run : List Stop) : Except Halt (List Float × ObservedTransitions) :=
  match run.head?, run.getLast? with
  | some first, some last =>
    match base calendar d first last with
    | .error halt => .error halt
    | .ok features =>
      let (pairs, store) := ofPairs d.observedAt (stopPairs run) store
      .ok (features ++ pairs, store)
  | _, _ => .ok ([], store)

section Build

variable {calendar : ServiceCalendar} {d : Deviation} {run : List Stop}

/-- The features of a run when a wall in the zone of the agency shows a date. -/
theorem build_of_dated {wall : WallTime} (hWall : calendar.zone.wallTime? d.observedAt = some wall)
    (hRun : run ≠ []) (store : ObservedTransitions) :
    build calendar store d run =
      .ok (ofObservation calendar.holidays wall d (run.head hRun) (run.getLast hRun) ++
          (ofPairs d.observedAt (stopPairs run) store).1,
        (ofPairs d.observedAt (stopPairs run) store).2) := by
  rw [build, List.head?_eq_some_head hRun, List.getLast?_eq_some_getLast hRun]
  dsimp only
  rw [base, hWall]

/-- Without a date there are none. -/
theorem build_of_undated (hNone : calendar.zone.wallTime? d.observedAt = none) (hRun : run ≠ [])
    (store : ObservedTransitions) : build calendar store d run = .error .overflow := by
  rw [build, List.head?_eq_some_head hRun, List.getLast?_eq_some_getLast hRun]
  dsimp only
  rw [base, hNone]

end Build

end Features

end TransitForecast
