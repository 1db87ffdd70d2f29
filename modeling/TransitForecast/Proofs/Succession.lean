import TransitForecast.Proofs.Lateness

/-!
# TransitForecast — one trip after the other

A vehicle serves the trips of a batch one after the other. The clock of each trip starts where that
of the trip before it stopped, also when a time out of range stopped it early, and the departure
from a first stop that the vehicle has not passed is at or after the clock. A walk that ends at a
stop not yet passed leaves the clock at the arrival there, so the vehicle is not predicted to leave
before it has arrived.

## Results

* `Walk.clock_run` — where a walk leaves the clock.
* `UpdateRules.leaves_after_start` — a departure from a first stop is not before the clock.
* `UpdateRules.leaves_after_arrival` — nor before the arrival on the trip before.
-/

namespace TransitForecast

-- ---------------------------------------------------------------------------
-- The later of two instants
-- ---------------------------------------------------------------------------

namespace Instant

theorem le_refl (a : Instant) : a ≤ a := by
  show ¬ precedes a a
  unfold precedes
  omega

theorem le_max_left (a b : Instant) : a ≤ a.max b := by
  unfold Instant.max
  by_cases h : a ≤ b
  · rw [if_pos h]
    exact h
  · rw [if_neg h]
    exact le_refl a

theorem le_max_right (a b : Instant) : b ≤ a.max b := by
  unfold Instant.max
  by_cases h : a ≤ b
  · rw [if_pos h]
    exact le_refl b
  · rw [if_neg h]
    intro hLt
    apply h
    show ¬ precedes b a
    have hLt' : precedes a b := hLt
    unfold precedes at hLt' ⊢
    omega

end Instant

-- ---------------------------------------------------------------------------
-- Where a walk leaves the clock
-- ---------------------------------------------------------------------------

namespace Walk

variable {d : Deviation} {w n : WalkState Float} {u : StopUpdate} {leg : Leg Float}

/-- After a stop that the vehicle has not passed the clock stands at the arrival there. -/
theorem clock_step (h : step d w leg = some (u, n)) (hStatus : u.status ≠ .past) :
    n.clock = u.predictedArrival := by
  unfold step at h
  split at h
  · obtain ⟨predicted, -, hEq⟩ := Option.map_eq_some_iff.1 h
    cases hEq
    exact absurd rfl hStatus
  · cases h
    rfl
  · obtain ⟨reached, -, hEq⟩ := Option.map_eq_some_iff.1 h
    cases hEq
    rfl

/-- The same after a walk, whether it completes or not. -/
theorem clock_run (legs : List (Leg Float)) : ∀ {w : WalkState Float},
    ∀ last ∈ (run d w legs).1.getLast?, last.status ≠ .past →
      (run d w legs).2.clock = last.predictedArrival := by
  induction legs with
  | nil =>
    intro w last hLast
    cases hLast
  | cons leg rest ih =>
    intro w last hLast hStatus
    cases hStep : step d w leg with
    | none =>
      rw [run, hStep] at hLast
      cases hLast
    | some reported =>
      obtain ⟨u, n⟩ := reported
      rw [run_cons hStep] at hLast ⊢
      cases hRest : (run d n rest).1 with
      | nil =>
        -- the walk stops after this leg, wherever it was to lead
        have hStays : (run d n rest).2 = n := by
          cases rest with
          | nil => rfl
          | cons next more =>
            cases hNext : step d n next with
            | none => rw [run, hNext]
            | some reported =>
              rw [run_cons hNext] at hRest
              cases hRest
        rw [hRest] at hLast
        cases hLast
        rw [hStays]
        exact clock_step hStep hStatus
      | cons next more =>
        rw [hRest, List.getLast?_cons_cons, ← hRest] at hLast
        exact ih last hLast hStatus

end Walk

namespace UpdateRules

variable {rules : UpdateRules} {p q : TripPrediction} {seed : Instant}

/-- Where nothing opens an update no stop prediction is reported either. -/
theorem legs_eq_nil {d : Deviation} {stops : List Stop} {xs : List StopPrediction}
    (h : opening d stops xs = .nothing) : rules.legs d stops xs = [] := by
  cases xs with
  | nil => rfl
  | cons x rest =>
    have hNone : stops[x.origin]? = none := by
      unfold opening at h
      rw [List.head?_cons] at h
      dsimp only at h
      by_cases hZero : x.origin = 0
      · rw [if_pos hZero] at h
        rw [hZero, ← List.head?_eq_getElem?]
        cases hHead : stops.head? with
        | none => rfl
        | some s =>
          rw [hHead] at h
          dsimp only at h
          split at h <;> cases h
      · rw [if_neg hZero] at h
        cases hStop : stops[x.origin]? with
        | none => rfl
        | some s =>
          rw [hStop] at h
          cases h
    rw [legs, hNone]
    exact ite_self _

theorem elim_assumed_ne_origin {s : Stop} {source : Source} {status : Disposition}
    (o : Option Stop) : o.elim .nothing .assumed ≠ Opening.origin s source status := by
  cases o <;> nofun

/-- An update opens with a departure at the first stop of the trip only. -/
theorem head?_of_opening {d : Deviation} {stops : List Stop} {xs : List StopPrediction} {s : Stop}
    {source : Source} {status : Disposition} (h : opening d stops xs = .origin s source status) :
    stops.head? = some s := by
  unfold opening at h
  split at h
  · exact absurd h (elim_assumed_ne_origin _)
  · split at h
    · split at h
      · cases h
      · rename_i first hFirst
        split at h
        · cases h
        · cases h
          exact hFirst
    · exact absurd h (elim_assumed_ne_origin _)

/-- An update that reports a stop opens with that one, and stop predictions report the others. -/
theorem stops_build {first : StopUpdate} {others : List StopUpdate}
    (h : (rules.build p seed).1.stops = first :: others) :
    ∃ w, openWalk p.deviation ⟨seed, Measure.zero⟩ (opening p.deviation p.trip.stops p.stops) =
        some ([first], w) ∧
      (Walk.run p.deviation w (rules.legs p.deviation p.trip.stops p.stops)).1 = others ∧
      (rules.build p seed).2 =
        (Walk.run p.deviation w (rules.legs p.deviation p.trip.stops p.stops)).2.clock := by
  have hStops : (rules.stopUpdates p seed).1 = first :: others := h
  have hClock : (rules.build p seed).2 = (rules.stopUpdates p seed).2 := rfl
  cases hOpen : openWalk p.deviation ⟨seed, Measure.zero⟩
      (opening p.deviation p.trip.stops p.stops) with
  | none =>
    unfold stopUpdates at hStops
    dsimp only at hStops
    rw [hOpen] at hStops
    cases hStops
  | some opened =>
    obtain ⟨reported, w⟩ := opened
    rw [stopUpdates_of_openWalk hOpen] at hStops hClock
    rcases reported_openWalk hOpen with ⟨hNothing, rfl⟩ | ⟨u, rfl⟩
    · rw [legs_eq_nil hNothing] at hStops
      cases hStops
    · obtain ⟨rfl, rfl⟩ := List.cons.inj hStops
      exact ⟨w, rfl, rfl, hClock⟩

/-- A trip ends with the arrival at its last reported stop, if the vehicle has not passed that and
the update does not open there. -/
theorem clock_build (rules : UpdateRules) (p : TripPrediction) (seed : Instant) :
    ∀ last ∈ (rules.build p seed).1.stops.tail.getLast?, last.status ≠ .past →
      (rules.build p seed).2 = last.predictedArrival := by
  intro last hLast hStatus
  cases hStops : (rules.build p seed).1.stops with
  | nil =>
    rw [hStops] at hLast
    cases hLast
  | cons first others =>
    obtain ⟨w, -, rfl, hClock⟩ := stops_build hStops
    rw [hStops] at hLast
    rw [hClock]
    exact Walk.clock_run _ last hLast hStatus

/-- An update that opens with a stop which is not passed opens at the first stop of the trip. The
vehicle leaves there no earlier than the clock shows, and not before it was observed. -/
theorem leaves_after_start (rules : UpdateRules) (p : TripPrediction) (seed : Instant) :
    ∀ first ∈ (rules.build p seed).1.stops.head?, first.status ≠ .past →
      ∃ s depart, p.trip.stops.head? = some s ∧ first.visit = s.visit ∧
        first.predictedDeparture = some depart ∧ seed ≤ depart ∧
        p.deviation.observedAt ≤ depart := by
  intro first hFirst hStatus
  obtain ⟨others, hStops⟩ := List.head?_eq_some_iff.1 hFirst
  obtain ⟨w, hOpen, -, -⟩ := stops_build hStops
  cases hOpening : opening p.deviation p.trip.stops p.stops with
  | nothing =>
    rw [hOpening] at hOpen
    cases hOpen
  | assumed s =>
    rw [hOpening] at hOpen
    cases hOpen
    exact absurd rfl hStatus
  | passed s source =>
    rw [hOpening] at hOpen
    obtain ⟨⟨u, next⟩, hObserved, hEq⟩ := Option.map_eq_some_iff.1 hOpen
    obtain ⟨predicted, -, hMade⟩ := Option.map_eq_some_iff.1 hObserved
    cases hEq
    cases hMade
    exact absurd rfl hStatus
  | origin s source status =>
    rw [hOpening, openWalk_origin] at hOpen
    obtain ⟨hHead, -⟩ := Prod.mk.inj (Option.some.inj hOpen)
    cases hHead
    obtain ⟨-, hDepart, -⟩ := Walk.origin_eq p.deviation ⟨seed, Measure.zero⟩ s source status
    refine ⟨s, _, head?_of_opening hOpening, Walk.visit_origin s source status, hDepart, ?_, ?_⟩
    · exact Instant.le_of_le_of_le (Instant.le_max_right _ _) (Instant.le_max_left _ _)
    · exact Instant.le_of_le_of_le (Instant.le_max_left _ _) (Instant.le_max_left _ _)

-- ---------------------------------------------------------------------------
-- The trips of a batch
-- ---------------------------------------------------------------------------

/-- The trips start in the order of the batch. -/
theorem map_fst_starts (rules : UpdateRules) (trips : List TripPrediction) :
    ∀ clock, (rules.starts clock trips).map Prod.fst = trips := by
  induction trips with
  | nil => exact fun _ => rfl
  | cons p rest ih =>
    intro clock
    rw [starts, List.map_cons, ih]

/-- A trip starts where the one before it ended. -/
theorem starts_succ {trips : List TripPrediction} : ∀ {clock : Option Instant} {i : Nat}
    {x y : TripPrediction × Instant}, (rules.starts clock trips)[i]? = some x →
      (rules.starts clock trips)[i + 1]? = some y → y.2 = (rules.build x.1 x.2).2 := by
  induction trips with
  | nil =>
    intro clock i x y hx
    cases hx
  | cons p rest ih =>
    intro clock i x y hx hy
    rw [starts] at hx hy
    rw [List.getElem?_cons_succ] at hy
    cases i with
    | zero =>
      cases hx
      cases rest with
      | nil => cases hy
      | cons q more =>
        cases hy
        rfl
    | succ i =>
      rw [List.getElem?_cons_succ] at hx
      exact ih hx hy

/-- Of two trips in succession in a batch the second starts where the first ended. If its update
opens with a stop that is not passed, then that is its first stop, and the vehicle leaves there no
earlier than the trip before ended and than it was observed on this trip. Nor does it leave before
it arrives at the last reported stop of the trip before, unless it has passed that one or the update
opens there: any other stop is reported by a stop prediction. No time has to stay in range for
that. -/
theorem leaves_after_arrival (rules : UpdateRules) (b : Batch) {i : Nat} {p q : TripPrediction}
    (hp : b.trips[i]? = some p) (hq : b.trips[i + 1]? = some q) :
    ∃ seed, (rules.starts none b.trips)[i]? = some (p, seed) ∧
      (rules.buildBatch b)[i]? = some (rules.build p seed).1 ∧
      (rules.buildBatch b)[i + 1]? = some (rules.build q (rules.build p seed).2).1 ∧
      ∀ first ∈ (rules.build q (rules.build p seed).2).1.stops.head?, first.status ≠ .past →
        ∃ s depart, q.trip.stops.head? = some s ∧ first.visit = s.visit ∧
          first.predictedDeparture = some depart ∧ (rules.build p seed).2 ≤ depart ∧
          q.deviation.observedAt ≤ depart ∧
          ∀ last ∈ (rules.build p seed).1.stops.tail.getLast?, last.status ≠ .past →
            last.predictedArrival ≤ depart := by
  have hTrips := map_fst_starts rules b.trips none
  have hUpdates : rules.buildBatch b = _ := buildFrom_eq_map_starts rules b.trips none
  rw [← hTrips, List.getElem?_map] at hp hq
  obtain ⟨⟨_, seed⟩, hx, rfl⟩ := Option.map_eq_some_iff.1 hp
  obtain ⟨⟨_, clock⟩, hy, rfl⟩ := Option.map_eq_some_iff.1 hq
  have hClock : clock = (rules.build _ seed).2 := starts_succ hx hy
  subst hClock
  refine ⟨seed, hx, ?_, ?_, ?_⟩
  · rw [hUpdates, List.getElem?_map, hx]
    rfl
  · rw [hUpdates, List.getElem?_map, hy]
    rfl
  · intro first hFirst hStatus
    obtain ⟨s, depart, hHead, hVisit, hDepart, hAfter, hObserved⟩ :=
      leaves_after_start rules _ _ first hFirst hStatus
    refine ⟨s, depart, hHead, hVisit, hDepart, hAfter, hObserved, ?_⟩
    intro last hLast hAhead
    rw [← clock_build rules _ seed last hLast hAhead]
    exact hAfter

/-- A vehicle that gets to the end of its first trip ten minutes after its second one is due leaves
on that one when it gets there. -/
theorem leaves_late_after_a_late_arrival :
    let rules : UpdateRules := ⟨⟨60000000000⟩⟩
    let b : Batch := { Batch.start "V1" (Sample.clock 0) with trips := Sample.longAndDue }
    ∃ (u v : TripUpdate) (last first : StopUpdate) (depart : Instant),
      (rules.buildBatch b)[0]? = some u ∧ (rules.buildBatch b)[1]? = some v ∧
      u.stops.tail.getLast? = some last ∧ last.predictedArrival = Sample.clock 1200 ∧
      v.stops.head? = some first ∧ first.scheduledDeparture = some (Sample.clock 600) ∧
      first.predictedDeparture = some depart ∧ last.predictedArrival ≤ depart := by
  intro rules b
  obtain ⟨seed, hSeed, hFirst, hSecond, hLeaves⟩ :=
    leaves_after_arrival rules b (i := 0) (p := Sample.scheduled Sample.long 1200)
      (q := Sample.scheduled Sample.due 300) rfl rfl
  obtain rfl : Sample.clock 0 = seed := congrArg Prod.snd (Option.some.inj hSeed)
  have hEnd : ((rules.build (Sample.scheduled Sample.long 1200)
      (Sample.clock 0)).1.stops.tail.getLast?.map fun u => (u.predictedArrival, u.status)) =
        some (Sample.clock 1200, .future) := by
    decide +kernel
  have hStart : ((rules.build (Sample.scheduled Sample.due 300)
      (rules.build (Sample.scheduled Sample.long 1200) (Sample.clock 0)).2).1.stops.head?.map
      fun u => (u.scheduledDeparture, u.status)) = some (some (Sample.clock 600), .here) := by
    decide +kernel
  obtain ⟨last, hLast, hArrival⟩ := Option.map_eq_some_iff.1 hEnd
  obtain ⟨first, hHead, hDue⟩ := Option.map_eq_some_iff.1 hStart
  obtain ⟨hArrival, hAhead⟩ := Prod.mk.inj hArrival
  obtain ⟨hDue, hHere⟩ := Prod.mk.inj hDue
  obtain ⟨-, depart, -, -, hDepart, -, -, hAfter⟩ := hLeaves first hHead (by rw [hHere]; nofun)
  exact ⟨_, _, last, first, depart, hFirst, hSecond, hLast, hArrival, hHead, hDue, hDepart,
    hAfter last hLast (by rw [hAhead]; nofun)⟩

end UpdateRules

end TransitForecast
