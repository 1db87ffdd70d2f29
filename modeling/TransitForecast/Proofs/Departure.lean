import TransitForecast.Proofs.Nearness
import TransitForecast.Proofs.RunningClock

/-!
# TransitForecast — nothing before the departure

A vehicle that has not passed the first stop of a trip leaves there when the walk has brought its
clock to the departure: to the scheduled one, to the end of the trip before or to the observation,
whichever is last. Where distances do not decrease along the trip, no stop after the first is passed
either, and stops ahead are reached from the clock on. A stop that the vehicle is at is reported as
it is observed, whatever the clock shows; only such a stop is predicted before the departure, and
the stops after it are counted from there.

## Results

* `UpdateRules.disposition_ne_past_of_isChain` — passed stops come first.
* `UpdateRules.le_course` — the clock does not fall behind a time that it has reached, up to a stop
  that the vehicle is at before that time.
* `UpdateRules.nothing_before_departure` — which stops are not predicted before the departure.
-/

namespace TransitForecast

namespace UpdateRules

variable {rules : UpdateRules} {p : TripPrediction} {seed : Instant} {d : Deviation}

-- ---------------------------------------------------------------------------
-- Stops along a trip
-- ---------------------------------------------------------------------------

/-- Along a trip whose distances do not decrease, a vehicle that has not passed the first stop has
passed none. -/
theorem disposition_ne_past_of_isChain {stops : List Stop} :
    stops.IsChain (fun a b => a.distance ≤ b.distance) →
      (∀ s ∈ stops.head?, disposition d s ≠ .past) → ∀ b ∈ stops, disposition d b ≠ .past := by
  induction stops with
  | nil =>
    intro _ _ b hb
    cases hb
  | cons s rest ih =>
    intro hChain hFirst
    obtain ⟨hNext, hRest⟩ := List.isChain_cons.1 hChain
    have hs : disposition d s ≠ .past := hFirst s rfl
    refine List.forall_mem_cons.2 ⟨hs, ih hRest fun t ht hPast => hs ?_⟩
    exact Disposition.classify_eq_past_of_le (hNext t ht) hPast

/-- An update opens with a departure only where the vehicle has not passed the stop. -/
theorem disposition_of_opening {stops : List Stop} {xs : List StopPrediction} {s : Stop}
    {source : Source} {status : Disposition} (h : opening d stops xs = .origin s source status) :
    disposition d s ≠ .past := by
  unfold opening at h
  split at h
  · exact absurd h (elim_assumed_ne_origin _)
  · split at h
    · split at h
      · cases h
      · split at h
        · cases h
        · rename_i hAhead
          cases h
          exact hAhead
    · exact absurd h (elim_assumed_ne_origin _)

/-- An update that opens at a stop the vehicle has not passed opens with the departure from the
first stop of the trip, and the clock stands at that departure. -/
theorem course_of_origin {first : StopUpdate} {others : List StopUpdate}
    (h : (rules.build p seed).1.stops = first :: others) (hAhead : first.status ≠ .past) :
    ∃ s w rest, p.trip.stops.head? = some s ∧ first.visit = s.visit ∧
      disposition p.deviation s ≠ .past ∧ first.predictedDeparture = some w.clock ∧
      w.clock = (p.deviation.observedAt.max seed).max s.departure ∧
      rules.course p seed = (first, w) :: rest ∧ rest.map Prod.fst = others := by
  rw [(build_eq_course rules p seed).1] at h
  rcases course_cases rules p seed with ⟨hCourse, -⟩ | ⟨u, w, hOpen, hCourse⟩
  · rw [hCourse] at h
    cases h
  · rw [hCourse] at h
    obtain ⟨rfl, rfl⟩ := List.cons.inj h
    cases hOpening : opening p.deviation p.trip.stops p.stops with
    | nothing =>
      rw [hOpening] at hOpen
      cases hOpen
    | assumed s =>
      rw [hOpening] at hOpen
      cases hOpen
      exact absurd rfl hAhead
    | passed s source =>
      rw [hOpening] at hOpen
      obtain ⟨⟨v, next⟩, hObserved, hEq⟩ := Option.map_eq_some_iff.1 hOpen
      obtain ⟨predicted, -, hMade⟩ := Option.map_eq_some_iff.1 hObserved
      cases hEq
      cases hMade
      exact absurd rfl hAhead
    | origin s source status =>
      obtain ⟨-, hDepart, hNext⟩ :=
        Walk.origin_eq p.deviation ⟨seed, Measure.zero⟩ s source status
      rw [hOpening, openWalk_origin] at hOpen
      obtain ⟨hReported, rfl⟩ := Prod.mk.inj (Option.some.inj hOpen)
      obtain ⟨rfl, -⟩ := List.cons.inj hReported
      refine ⟨s, _, _, head?_of_opening hOpening, Walk.visit_origin s source status,
        disposition_of_opening hOpening, ?_, ?_, hCourse, rfl⟩
      · rw [hDepart, hNext]
      · rw [hNext]

-- ---------------------------------------------------------------------------
-- Times that the clock has reached
-- ---------------------------------------------------------------------------

/-- The clock does not fall behind a time that it has reached, up to a stop which the vehicle is at
and which is predicted before that time. -/
theorem le_course {t : Instant} (run : List (StopUpdate × WalkState Float)) :
    ∀ x, x :: run <:+: rules.course p seed → t ≤ x.2.clock →
      (∀ y ∈ run, y.1.status = .here → t ≤ y.1.predictedArrival) → ∀ y ∈ run, t ≤ y.2.clock := by
  induction run with
  | nil =>
    intro x _ _ _ y hy
    cases hy
  | cons y rest ih =>
    intro x hPart hReached hHere
    obtain ⟨hFirst, hRest⟩ := List.forall_mem_cons.1 hHere
    obtain ⟨i, hx, hy⟩ := getElem?_of_infix hPart
    have hLaw := clockLaw_of_course hx hy
    have hNext : t ≤ y.2.clock := by
      by_cases hStatus : y.1.status = .here
      · rw [hLaw.arrival (by rw [hStatus]; nofun)]
        exact hFirst hStatus
      · exact Instant.le_of_le_of_le hReached (hLaw.forward hStatus)
    have hLater := ih y (List.IsInfix.trans (List.infix_cons (List.infix_refl _)) hPart) hNext hRest
    exact List.forall_mem_cons.2 ⟨hNext, hLater⟩

/-- An update of a trip whose distances do not decrease, that opens at a stop the vehicle has not
passed. It opens with the departure from the first stop of the trip. No other stop is passed, and
one that the vehicle is at is predicted for the observation, or at a timepoint for the earliest arrival
there if that is later. Up to a stop of that kind which is predicted before the departure, no stop
is. -/
theorem nothing_before_departure (rules : UpdateRules) {p : TripPrediction} {seed : Instant}
    {first : StopUpdate} {others : List StopUpdate}
    (hDistances : p.trip.stops.IsChain fun a b => a.distance ≤ b.distance)
    (hStops : (rules.build p seed).1.stops = first :: others) (hAhead : first.status ≠ .past) :
    ∃ s depart, p.trip.stops.head? = some s ∧ first.visit = s.visit ∧
      first.predictedDeparture = some depart ∧
      depart = (p.deviation.observedAt.max seed).max s.departure ∧
      (∀ u ∈ others, u.status ≠ .past ∧ (u.status = .here →
        u.predictedArrival = Walk.notBefore p.deviation.observedAt
          (if u.timepoint then some (rules.earliest u) else none))) ∧
      ∀ run, run <+: others → (∀ u ∈ run, u.status = .here → depart ≤ u.predictedArrival) →
        ∀ u ∈ run, depart ≤ u.predictedArrival := by
  obtain ⟨s, w, rest, hHead, hVisit, hOpen, hDepart, hClock, hCourse, rfl⟩ :=
    course_of_origin hStops hAhead
  have hNonePast : ∀ b ∈ p.trip.stops, disposition p.deviation b ≠ .past := by
    refine disposition_ne_past_of_isChain hDistances fun first hFirst => ?_
    rw [hHead] at hFirst
    cases hFirst
    exact hOpen
  -- each other stop follows from the one before it
  have hLaws : ∀ y ∈ rest, y.1.status ≠ .past ∧
      ∃ before, rules.ClockLaw p.deviation before y.1 y.2.clock := by
    intro y hy
    obtain ⟨i, hi⟩ := List.mem_iff_getElem?.1 hy
    have hAt : (rules.course p seed)[i + 1]? = some y := by
      rw [hCourse]
      exact hi
    obtain ⟨hLength, -⟩ := List.getElem?_eq_some_iff.1 hAt
    have hBefore := List.getElem?_eq_getElem (Nat.lt_of_succ_lt hLength)
    obtain ⟨z, a, b, -, -, hb, -, hStep⟩ := step_of_course hBefore hAt
    refine ⟨?_, _, clockLaw_of_course hBefore hAt⟩
    rw [(status_step_leg hStep).2]
    exact hNonePast b (List.mem_of_getElem? hb)
  refine ⟨s, w.clock, hHead, hVisit, hDepart, hClock, fun u hu => ?_, fun run hRun hHere u hu => ?_⟩
  · obtain ⟨y, hy, rfl⟩ := List.mem_map.1 hu
    obtain ⟨hPast, before, hLaw⟩ := hLaws y hy
    exact ⟨hPast, fun hStatus => (hLaw.arrival hPast).symm.trans (hLaw.reset hStatus)⟩
  · obtain ⟨part, hPart, rfl⟩ := List.prefix_map_iff.1 hRun
    obtain ⟨y, hy, rfl⟩ := List.mem_map.1 hu
    have hInfix : (first, w) :: part <:+: rules.course p seed := by
      rw [hCourse]
      exact ((List.prefix_cons_inj _).2 hPart).isInfix
    obtain ⟨hPast, before, hLaw⟩ := hLaws y (hPart.subset hy)
    rw [← hLaw.arrival hPast]
    exact le_course part _ hInfix (Instant.le_refl _)
      (fun v hv => hHere v.1 (List.mem_map_of_mem hv)) y hy

end UpdateRules

namespace Sample

/-- The same vehicle observed later, when it is due to have left. -/
def atBothLate : TripPrediction :=
  { atBoth with deviation := { deviation with observedAt := clock 700 } }

end Sample

namespace UpdateRules

/-- A vehicle that is observed after it was due to leave is at its first two stops then, and reaches
the others from there. -/
theorem nothing_before_late_departure :
    let stops := (build ⟨⟨60000000000⟩⟩ Sample.atBothLate (Sample.clock 700)).1.stops
    stops.map (fun u => (u.status, u.predictedArrival)) = [(.here, Sample.clock 700),
        (.here, Sample.clock 700), (.future, Sample.clock 1000), (.future, Sample.clock 1000)] ∧
      stops.head?.map StopUpdate.predictedDeparture = some (some (Sample.clock 700)) ∧
      ∀ u ∈ stops.tail, Sample.clock 700 ≤ u.predictedArrival := by
  intro stops
  have hDepart : (stops.head (by decide +kernel)).predictedDeparture =
      some (Sample.clock 700) := by decide +kernel
  obtain ⟨-, depart, -, -, hLeaves, -, -, hLater⟩ :=
    @nothing_before_departure ⟨⟨60000000000⟩⟩ Sample.atBothLate (Sample.clock 700) _ _
      (by decide +kernel) (List.cons_head_tail (by decide +kernel)).symm (by decide +kernel)
  rw [hDepart] at hLeaves
  cases hLeaves
  exact ⟨by decide +kernel, by decide +kernel, hLater _ List.prefix_rfl (by decide +kernel)⟩

/-- A vehicle that stands at its first two stops and waits ten minutes at the first is predicted at
the second for the observation, and five minutes later at the third. -/
theorem reached_before_departure :
    let stops := (build ⟨⟨60000000000⟩⟩ Sample.atBoth (Sample.clock 0)).1.stops
    Sample.doubleStop.stops.IsChain (fun a b => a.distance ≤ b.distance) ∧
      stops.head?.map (fun u => (u.stop, u.status, u.predictedDeparture)) =
        some ("A", .here, some (Sample.clock 600)) ∧
      stops.tail.map (fun u => (u.stop, u.predictedArrival)) =
        [("B", Sample.clock 0), ("C", Sample.clock 300), ("D", Sample.clock 300)] ∧
      ¬ ∀ u ∈ stops.tail, Sample.clock 600 ≤ u.predictedArrival := by
  decide +kernel

end UpdateRules

end TransitForecast
