import TransitForecast.Proofs.Lateness
import TransitForecast.Wire.Update

/-!
# TransitForecast — delays and times on the wire

An update writes each time as a number of whole seconds, rounded down, and the delay between two
times as a number of whole seconds, rounded toward zero. So the delay that is written need not be
the difference of the times that are written. It is off by one at most, and in one direction only
when the schedule shows whole seconds, as long as neither time lies in a leap second. A leap second
counts in a delay but has no number of its own, which may cost one second more.

## Results

* `Span.seconds_cases`              — rounding toward zero by the sign of a span.
* `Instant.agrees`, `Instant.nears` — what the numbers of two instants and of their delay have in
  common.
* `UpdateRules.timed_build`         — every delay is that between two times, or all are absent.
* `UpdateRules.delays_agree_with_times` — all of this for what is written of an update.
-/

namespace TransitForecast

-- ---------------------------------------------------------------------------
-- Whole seconds
-- ---------------------------------------------------------------------------

/-- Seconds are rounded down from zero on, and up below it. -/
theorem Span.seconds_cases (span : Span) :
    0 ≤ span.nanos ∧ span.seconds = span.nanos / 1000000000 ∨
      span.nanos < 0 ∧ span.seconds = -(-span.nanos / 1000000000) := by
  unfold seconds nanosPerSecond
  rcases Int.lt_or_le span.nanos 0 with hNeg | hNonneg
  · right
    rw [← Int.neg_neg span.nanos, Int.neg_tdiv, Int.tdiv_eq_ediv_of_nonneg (by omega),
      Int.neg_neg]
    exact ⟨hNeg, rfl⟩
  · exact .inl ⟨hNonneg, Int.tdiv_eq_ediv_of_nonneg hNonneg⟩

/-- What the seconds of a scheduled and of a predicted time and the delay between them have in
common when neither time lies in a leap second. -/
structure Agrees (scheduled predicted : Instant) (s p d : Int) : Prop where
  near : p - s - 1 ≤ d ∧ d ≤ p - s + 1
  level : predicted.subsecond = scheduled.subsecond → d = p - s
  punctual : scheduled.subsecond = 0 → scheduled ≤ predicted → d = p - s
  early : scheduled.subsecond = 0 → predicted < scheduled → d = p - s ∨ d = p - s + 1

namespace Instant

variable {scheduled predicted : Instant}

theorem agrees (hs : scheduled.isLeap = false) (hp : predicted.isLeap = false) :
    Agrees scheduled predicted scheduled.epochSeconds predicted.epochSeconds
      (predicted.since scheduled).seconds := by
  have hSpan := since_ordinary hp hs
  rw [isLeap, decide_eq_false_iff_not] at hs hp
  unfold position nanosPerSecond at hSpan
  have hOrder : scheduled ≤ predicted ↔ ¬ (predicted.second < scheduled.second ∨
      predicted.second = scheduled.second ∧ predicted.nanos < scheduled.nanos) := Iff.rfl
  have hEarly : predicted < scheduled ↔ predicted.second < scheduled.second ∨
      predicted.second = scheduled.second ∧ predicted.nanos < scheduled.nanos := Iff.rfl
  have hSeconds := (predicted.since scheduled).seconds_cases
  unfold epochSeconds
  refine ⟨by omega, fun hLevel => ?_, fun hWhole hLate => ?_, fun hWhole hLess => ?_⟩
  · unfold subsecond at hLevel
    omega
  · unfold subsecond at hWhole
    rw [hOrder] at hLate
    omega
  · unfold subsecond at hWhole
    rw [hEarly] at hLess
    omega

/-- With leap seconds the delay is off by two seconds at most. -/
theorem nears (scheduled predicted : Instant) :
    predicted.epochSeconds - scheduled.epochSeconds - 2 ≤ (predicted.since scheduled).seconds ∧
      (predicted.since scheduled).seconds ≤
        predicted.epochSeconds - scheduled.epochSeconds + 2 := by
  have hSeconds := (predicted.since scheduled).seconds_cases
  have hp := predicted.nanos_lt
  have hs := scheduled.nanos_lt
  have hSpan : -2000000000 < (predicted.since scheduled).nanos -
        (predicted.second - scheduled.second) * 1000000000 ∧
      (predicted.since scheduled).nanos -
        (predicted.second - scheduled.second) * 1000000000 < 2000000000 := by
    unfold since position nanosPerSecond
    dsimp only
    -- a leap second is counted where it is given back by the fraction
    split
    · rename_i hCounted
      have hLeap : 1000000000 ≤ scheduled.nanos := of_decide_eq_true hCounted.2
      omega
    · split
      · rename_i hCounted
        have hLeap : 1000000000 ≤ predicted.nanos := of_decide_eq_true hCounted.2
        omega
      · omega
  unfold epochSeconds
  omega

end Instant

-- ---------------------------------------------------------------------------
-- The delays of an update
-- ---------------------------------------------------------------------------

/-- Whether the delays of a stop are those between its times; of a departure there may be none of
the three. -/
structure StopUpdate.Timed (u : StopUpdate) : Prop where
  arrival : u.arrivalDelay = (u.predictedArrival.since u.scheduledArrival).seconds
  departure :
    (u.scheduledDeparture = none ∧ u.predictedDeparture = none ∧ u.departureDelay = none) ∨
    ∃ scheduled predicted, u.scheduledDeparture = some scheduled ∧
      u.predictedDeparture = some predicted ∧
      u.departureDelay = some (predicted.since scheduled).seconds

theorem StopUpdate.timed_arrival (s : Stop) (predicted : Instant) (source : Source)
    (status : Disposition) : (arrival s predicted source status).Timed :=
  ⟨rfl, .inl ⟨rfl, rfl, rfl⟩⟩

theorem StopUpdate.Timed.withDeparture {u : StopUpdate} (h : u.Timed) (s : Stop)
    (predicted : Instant) : (u.withDeparture s predicted).Timed :=
  ⟨h.arrival, .inr ⟨_, _, rfl, rfl, rfl⟩⟩

namespace Walk

variable {α : Type} [Measure α] {d : Deviation} {w n : WalkState α} {u : StopUpdate}

theorem timed_observed {s : Stop} {source : Source} (h : observed d w s source = some (u, n)) :
    u.Timed := by
  obtain ⟨predicted, -, hEq⟩ := Option.map_eq_some_iff.1 h
  cases hEq
  exact StopUpdate.timed_arrival ..

omit [Measure α] in
theorem timed_origin (d : Deviation) (w : WalkState α) (s : Stop) (source : Source)
    (status : Disposition) : (origin d w s source status).1.Timed := by
  unfold origin
  dsimp only
  split
  · exact (StopUpdate.timed_arrival ..).withDeparture ..
  · exact (StopUpdate.timed_arrival ..).withDeparture ..

theorem timed_step {leg : Leg α} (h : step d w leg = some (u, n)) : u.Timed := by
  unfold step at h
  split at h
  · exact timed_observed h
  · cases h
    exact StopUpdate.timed_arrival ..
  · obtain ⟨reached, -, hEq⟩ := Option.map_eq_some_iff.1 h
    cases hEq
    exact StopUpdate.timed_arrival ..

theorem timed_run {legs : List (Leg α)} : ∀ {w : WalkState α}, ∀ u ∈ (run d w legs).1, u.Timed := by
  induction legs with
  | nil => exact fun u hu => nomatch hu
  | cons leg rest ih =>
    intro w u hu
    rw [run] at hu
    split at hu
    · cases hu
    · rename_i hStep
      rcases List.mem_cons.1 hu with rfl | hRest
      · exact timed_step hStep
      · exact ih u hRest

end Walk

namespace UpdateRules

variable {rules : UpdateRules} {p : TripPrediction} {seed : Instant}

theorem timed_openWalk {d : Deviation} {w n : WalkState Float} {o : Opening}
    {first : List StopUpdate} (h : openWalk d w o = some (first, n)) : ∀ u ∈ first, u.Timed := by
  intro u hu
  cases o with
  | nothing =>
    cases h
    cases hu
  | assumed s =>
    cases h
    obtain rfl := List.mem_singleton.1 hu
    exact StopUpdate.timed_arrival ..
  | passed s source =>
    obtain ⟨⟨v, next⟩, hObserved, hEq⟩ := Option.map_eq_some_iff.1 h
    cases hEq
    obtain rfl := List.mem_singleton.1 hu
    exact Walk.timed_observed hObserved
  | origin s source status =>
    cases h
    obtain rfl := List.mem_singleton.1 hu
    exact Walk.timed_origin ..

/-- Every delay of an update is the one between two of its times. -/
theorem timed_build : ∀ u ∈ (rules.build p seed).1.stops, u.Timed := by
  intro u hu
  change u ∈ (rules.stopUpdates p seed).1 at hu
  unfold stopUpdates at hu
  dsimp only at hu
  split at hu
  · cases hu
  · rename_i hOpen
    rcases List.mem_append.1 hu with hFirst | hRest
    · exact timed_openWalk hOpen u hFirst
    · exact Walk.timed_run u hRest

end UpdateRules

-- ---------------------------------------------------------------------------
-- What is written
-- ---------------------------------------------------------------------------

namespace Wire

/-- The names under which a scheduled time, a predicted time and the delay between them are
written. -/
structure TimeNames where
  scheduled : String
  predicted : String
  delay : String

def arrivalNames : TimeNames :=
  ⟨"scheduled_arrival_time", "predicted_arrival_time", "arrival_delay"⟩

def departureNames : TimeNames :=
  ⟨"scheduled_departure_time", "predicted_departure_time", "departure_delay"⟩

/-- Whether an object writes the seconds of two instants, rounded down, and a delay that differs
from their difference by two at most, and agrees with it as far as no leap second is involved. -/
def Shows (j : Json) (names : TimeNames) (scheduled predicted : Instant) : Prop :=
  ∃ s p d : Int, j.member? names.scheduled = some (.int s) ∧
    j.member? names.predicted = some (.int p) ∧ j.member? names.delay = some (.int d) ∧
    s = scheduled.epochSeconds ∧ p = predicted.epochSeconds ∧ p - s - 2 ≤ d ∧ d ≤ p - s + 2 ∧
    (scheduled.isLeap = false → predicted.isLeap = false → Agrees scheduled predicted s p d)

/-- Whether an object writes neither of two times nor the delay between them. -/
def Lacks (j : Json) (names : TimeNames) : Prop :=
  j.member? names.scheduled = none ∧ j.member? names.predicted = none ∧ j.member? names.delay = none

theorem shows_of_written {j : Json} {names : TimeNames} {scheduled predicted : Instant}
    (hs : j.member? names.scheduled = some (writeSeconds scheduled))
    (hp : j.member? names.predicted = some (writeSeconds predicted))
    (hd : j.member? names.delay = some (.int (predicted.since scheduled).seconds)) :
    Shows j names scheduled predicted :=
  ⟨_, _, _, hs, hp, hd, rfl, rfl, (Instant.nears ..).1, (Instant.nears ..).2, Instant.agrees⟩

end Wire

namespace UpdateRules

/-- Of every stop of an update the arrival is written with its delay, and the departure with its own
or not at all. The delays agree with the times. -/
theorem delays_agree_with_times (rules : UpdateRules) (p : TripPrediction) (seed : Instant) :
    ∀ u ∈ (rules.build p seed).1.stops,
      Wire.Shows (Wire.writeStopUpdate u) Wire.arrivalNames u.scheduledArrival
        u.predictedArrival ∧
      ((u.scheduledDeparture = none ∧ u.predictedDeparture = none ∧
          Wire.Lacks (Wire.writeStopUpdate u) Wire.departureNames) ∨
        ∃ scheduled predicted, u.scheduledDeparture = some scheduled ∧
          u.predictedDeparture = some predicted ∧
          Wire.Shows (Wire.writeStopUpdate u) Wire.departureNames scheduled predicted) := by
  intro u hu
  obtain ⟨hArrival, hDeparture⟩ := timed_build u hu
  obtain ⟨sequence, stop, arrivalDelay, scheduledArrival, predictedArrival, departureDelay,
    scheduledDeparture, predictedDeparture, source, status, timepoint⟩ := u
  rcases hDeparture with ⟨rfl, rfl, rfl⟩ | ⟨scheduled, predicted, rfl, rfl, rfl⟩
  · obtain rfl : arrivalDelay = (predictedArrival.since scheduledArrival).seconds := hArrival
    exact ⟨Wire.shows_of_written rfl rfl rfl, .inl ⟨rfl, rfl, rfl, rfl, rfl⟩⟩
  · obtain rfl : arrivalDelay = (predictedArrival.since scheduledArrival).seconds := hArrival
    exact ⟨Wire.shows_of_written rfl rfl rfl,
      .inr ⟨scheduled, predicted, rfl, rfl, Wire.shows_of_written rfl rfl rfl⟩⟩

end UpdateRules

namespace Sample

/-- A vehicle that is at the second stop half a second after it was due at the first. -/
def aheadOfTime : TripPrediction :=
  { scheduled direct 300 with
    deviation :=
      { deviation with
        observedAt := ⟨1709654400, 500000000, by decide, by decide⟩
        progress := 1000 } }

/-- A leap second, and the minute in which it ends on the next day. -/
def longMinute : Instant := ⟨1709633759, 1999000000, by decide, by decide⟩

def nextMorning : Instant := ⟨1709720100, 0, by decide, Instant.epoch.nanos_lt⟩

def longStop : Stop := ⟨"A", 1, 36960, 36960, 0, false, longMinute, longMinute⟩

/-- A vehicle that is a day late at a stop that was due in a leap second. -/
def dayLate : TripPrediction :=
  ⟨{ deviation with observedAt := nextMorning },
    ⟨1, "t1", "R1", [longStop, servedStop "B" 2 300 300 1000 false]⟩,
    [⟨0, 1, 300, .schedule, true⟩], .empty⟩

end Sample

namespace UpdateRules

/-- Half a second less than five minutes early a stop is written as early by a second less than its
times are apart. -/
theorem delays_agree_with_times_ahead_of_time :
    let update := ((⟨⟨60000000000⟩⟩ : UpdateRules).build Sample.aheadOfTime (Sample.clock 0)).1
    ∃ u ∈ update.stops, u.predictedArrival < u.scheduledArrival ∧ u.arrivalDelay = -299 ∧
      u.predictedArrival.epochSeconds - u.scheduledArrival.epochSeconds = -300 ∧
      Wire.Shows (Wire.writeStopUpdate u) Wire.arrivalNames u.scheduledArrival
        u.predictedArrival := by
  intro update
  have hTwo : update.stops[1]? = some (.arrival (Sample.servedStop "B" 2 300 300 1000 false)
      Sample.aheadOfTime.deviation.observedAt .schedule .here) := by
    decide +kernel
  have hMem := List.mem_of_getElem? hTwo
  exact ⟨_, hMem, by decide, by decide, by decide,
    (delays_agree_with_times ⟨⟨60000000000⟩⟩ Sample.aheadOfTime (Sample.clock 0) _ hMem).1⟩

/-- A stop is due in a leap second and reached on the next day, earlier in the day. The delay that
is written is two seconds less than the times that are written are apart. -/
theorem delay_two_seconds_off :
    let update := ((⟨⟨60000000000⟩⟩ : UpdateRules).build Sample.dayLate Sample.nextMorning).1
    ∃ u ∈ update.stops,
      (Wire.writeStopUpdate u).member? "scheduled_arrival_time" = some (.int 1709633759) ∧
      (Wire.writeStopUpdate u).member? "predicted_arrival_time" = some (.int 1709720100) ∧
      (Wire.writeStopUpdate u).member? "arrival_delay" = some (.int 86339) ∧
      (86339 : Int) = 1709720100 - 1709633759 - 2 := by
  intro update
  have hFirst : update.stops[0]? = some
      ((StopUpdate.arrival Sample.longStop Sample.nextMorning .schedule .here).withDeparture
        Sample.longStop Sample.nextMorning) := by
    decide +kernel
  exact ⟨_, List.mem_of_getElem? hFirst, rfl, rfl, rfl, by decide⟩

end UpdateRules

end TransitForecast
