import TransitForecast.Measure
import TransitForecast.Update.TripUpdate

/-!
# TransitForecast — walking the stops with a clock

The stops of a trip are reported in order while a clock runs along. What the clock
needs to know about the way to each stop is a `Leg`; it does not depend on the clock, so the legs of
a trip can be listed before the walk starts. Clocks show whole nanoseconds but
move by whole seconds; the fraction of a second that is left over is carried to the next leg.

The walk ends early when a time leaves the range of instants: what was reported
before stays, and the clock stands where the last reported stop left it.
-/

namespace TransitForecast

/-- How a stop is reached from the one before it. -/
inductive Way (α : Type)
  /-- The vehicle has passed it. -/
  | passed
  /-- The vehicle is at it; at a timepoint it does not count as early. -/
  | here (notBefore : Option Instant)
  /-- The vehicle travels for some seconds, of which only a part is left when it is under way
  already, and does not come earlier than a bound when it has to wait at a timepoint. -/
  | ahead (seconds : α) (left : Option α) (notBefore : Option Instant)

/-- What the walk has to know about one stop. -/
structure Leg (α : Type) where
  stop : Stop
  source : Source
  way : Way α

/-- The status that a stop is reported with. -/
def Way.status {α : Type} : Way α → Disposition
  | .passed => .past
  | .here _ => .here
  | .ahead .. => .future

namespace Travel

variable {α : Type} [Measure α]

/-- Seconds still to travel: the predicted ones with what was carried along, never below zero, and
only the part of the way that is left. -/
def remaining (carried predicted : α) (left : Option α) : α :=
  let whole := Measure.positivePart (predicted + carried)
  match left with
  | some part => whole * part
  | none => whole

/-- Whole seconds of a leg, and the fraction to carry on. What lies within the tolerance below a
whole second counts as that second. -/
def advance (carried predicted : α) (left : Option α) : Nat × α :=
  let seconds := remaining carried predicted left
  let whole := Measure.wholePart (seconds + Measure.tolerance)
  (whole, seconds - Measure.ofInt whole)

end Travel

/-- Where a walk stands: the clock, and the fraction of a second carried along. -/
structure WalkState (α : Type) where
  clock : Instant
  carried : α

namespace Walk

variable {α : Type} [Measure α]

/-- The later of a time and a bound, if there is one. -/
def notBefore (t : Instant) : Option Instant → Instant
  | some bound => if t < bound then bound else t
  | none => t

/-- Seconds by which a stop that has no observation of its own lies before the observation. -/
def pastOffsetSeconds : Int := 60

/-- A passed stop, reported at the observed delay. -/
def observed (d : Deviation) (w : WalkState α) (s : Stop) (source : Source) :
    Option (StopUpdate × WalkState α) :=
  (s.arrival.shiftSeconds? d.delay).map fun predicted =>
    (.arrival s predicted source .past, ⟨w.clock.max d.observedAt, Measure.zero⟩)

/-- A passed stop that stands for the ones before it. -/
def assumedPast (d : Deviation) (w : WalkState α) (s : Stop) : StopUpdate × WalkState α :=
  let before := (d.observedAt.shiftSeconds? (-pastOffsetSeconds)).getD d.observedAt
  (.arrival s (before.min s.arrival) .schedule .past,
    ⟨w.clock.max d.observedAt, w.carried⟩)

/-- The first stop of a trip that the vehicle has not passed. On time it arrives and
departs as scheduled. Late it arrives when the clock says and departs then, or at
the observation if that is later. -/
def origin (d : Deviation) (w : WalkState α) (s : Stop) (source : Source) (status : Disposition) :
    StopUpdate × WalkState α :=
  let depart := d.observedAt.max w.clock
  if depart ≤ s.departure then
    ((StopUpdate.arrival s s.arrival source status).withDeparture s s.departure,
      ⟨s.departure, w.carried⟩)
  else
    ((StopUpdate.arrival s w.clock source status).withDeparture s depart, ⟨depart, w.carried⟩)

/-- One leg of a walk; `none` when a time leaves the range of instants. -/
def step (d : Deviation) (w : WalkState α) (leg : Leg α) : Option (StopUpdate × WalkState α) :=
  match leg.way with
  | .passed => observed d w leg.stop leg.source
  | .here bound =>
    let predicted := notBefore d.observedAt bound
    some (.arrival leg.stop predicted leg.source .here, ⟨predicted, Measure.zero⟩)
  | .ahead seconds left bound =>
    let (whole, carried) := Travel.advance w.carried seconds left
    (w.clock.shiftSeconds? whole).map fun reached =>
      let predicted := notBefore reached bound
      (.arrival leg.stop predicted leg.source .future, ⟨predicted, carried⟩)

/-- Walks legs in order as far as times stay in range. -/
def run (d : Deviation) (w : WalkState α) : List (Leg α) → List StopUpdate × WalkState α
  | [] => ([], w)
  | leg :: rest =>
    match step d w leg with
    | none => ([], w)
    | some (update, next) =>
      let (updates, last) := run d next rest
      (update :: updates, last)

end Walk

end TransitForecast
