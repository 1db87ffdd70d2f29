import TransitForecast.Proofs.EarlyDeparture

/-!
# TransitForecast — reported positions

An update says of each stop whether the vehicle has passed it, is at it or is still to come. The
stop that opens an update is reported as passed without a look at its distance when stops were left
out before it, or when nothing is predicted any more. It is passed all the same: stops are left out
segment by segment, each because the vehicle has passed its last stop, and that is the stop at which
the next segment starts. This does not depend on the order of the distances.

## Results

* `UpdateRules.status_of_opening` — the stop that opens an update is reported where it is.
* `UpdateRules.status_of_course` — so is each stop after it.
* `UpdateRules.true_status` — what an update says about positions, and where it only assumes it.
-/

namespace TransitForecast

namespace UpdateRules

variable {rules : UpdateRules} {p : TripPrediction} {seed : Instant} {d : Deviation} {lo hi : Nat}

/-- Without stop predictions an update opens with the last stop of the trip. -/
theorem opening_of_nil {stops : List Stop} {s : Stop} (h : stops.getLast? = some s) :
    opening d stops [] = .assumed s := by
  rw [opening, List.head?_nil, h]
  rfl

/-- Stop predictions that start after the first stop of a trip open its update with the stop where
they start. -/
theorem opening_of_skipped {stops : List Stop} {z : StopPrediction} {rest : List StopPrediction}
    {s : Stop} (hSkipped : z.origin ≠ 0) (h : stops[z.origin]? = some s) :
    opening d stops (z :: rest) = .assumed s := by
  rw [opening, List.head?_cons]
  dsimp only
  rw [if_neg hSkipped, h]
  rfl

/-- The stop that opens an update is one of the trip, where the stop predictions lead from. -/
theorem visit_of_opening {w n : WalkState Float} {u : StopUpdate}
    (hReaches : Reaches (p.trip.stops.length - 1) lo p.stops hi)
    (hOpen : openWalk d w (opening d p.trip.stops p.stops) = some ([u], n)) :
    ∃ s, p.trip.stops[lo]? = some s ∧ u.visit = s.visit := by
  have hVisits := visits_openWalk hOpen
  rw [stop?_opening rfl hReaches] at hVisits
  cases hStop : p.trip.stops[lo]? with
  | none =>
    rw [hStop] at hVisits
    cases hVisits
  | some s =>
    rw [hStop] at hVisits
    exact ⟨s, rfl, (List.cons.inj hVisits).1⟩

/-- An update of a trip with two stops or more opens where the stop predictions lead from, and
reports where the vehicle finds that stop. -/
theorem status_of_opening (hTwo : 2 ≤ p.trip.stops.length)
    (hReaches : Reaches (p.trip.stops.length - 1) lo p.stops hi)
    (hPast : lo = 0 ∨ ∀ s ∈ p.trip.stops[lo]?, disposition p.deviation s = .past)
    {x : StopUpdate × WalkState Float} (hx : (rules.course p seed)[0]? = some x) :
    ∃ s, p.trip.stops[lo]? = some s ∧ x.1.visit = s.visit ∧
      x.1.status = disposition p.deviation s := by
  rcases course_cases rules p seed with ⟨hCourse, -⟩ | ⟨u, w, hOpen, hCourse⟩
  · rw [hCourse] at hx
    cases hx
  · rw [hCourse] at hx
    cases hx
    obtain ⟨s, hs, hVisit⟩ := visit_of_opening hReaches hOpen
    refine ⟨s, hs, hVisit, ?_⟩
    cases hStops : p.stops with
    | nil =>
      -- the stop predictions lead from the last stop, which is not the first one
      rw [hStops] at hReaches hOpen
      have hLast : lo = p.trip.stops.length - 1 := hReaches.1
      rw [opening_of_nil (by rw [List.getLast?_eq_getElem?, ← hLast, hs])] at hOpen
      cases hOpen
      exact (hPast.resolve_left (by omega) s hs).symm
    | cons z rest =>
      rw [hStops] at hReaches hOpen
      have hOrigin : z.origin = lo := congrArg Prod.fst hReaches.1
      rw [← hOrigin] at hs hPast
      exact (status_openWalk hOpen hs (hPast.imp_right fun h => h s hs)).2

/-- Each stop that an update reports is one of the trip, counted from where the stop predictions
lead from, and is reported where the vehicle finds it. -/
theorem status_of_course (hTwo : 2 ≤ p.trip.stops.length)
    (hReaches : Reaches (p.trip.stops.length - 1) lo p.stops hi)
    (hPast : lo = 0 ∨ ∀ s ∈ p.trip.stops[lo]?, disposition p.deviation s = .past) {i : Nat}
    {x : StopUpdate × WalkState Float} (hx : (rules.course p seed)[i]? = some x) :
    ∃ s, p.trip.stops[lo + i]? = some s ∧ x.1.visit = s.visit ∧
      x.1.status = disposition p.deviation s := by
  cases i with
  | zero => exact status_of_opening hTwo hReaches hPast hx
  | succ i =>
    obtain ⟨hLength, -⟩ := List.getElem?_eq_some_iff.1 hx
    have hBefore := List.getElem?_eq_getElem (Nat.lt_of_succ_lt hLength)
    obtain ⟨z, a, b, hz, -, hb, hLeg, hStep⟩ := step_of_course hBefore hx
    have hPlace := place_of_reaches hReaches (List.getElem?_eq_some_iff.1 hLeg).1 hz
    have hTarget : z.target = lo + (i + 1) := congrArg Prod.snd hPlace
    rw [hTarget] at hb
    exact ⟨b, hb, status_step_leg hStep⟩

/-- An update that opens with an assumed stop reports it as passed, and then goes along the legs. -/
theorem stops_of_assumed (rules : UpdateRules) (seed : Instant) {s : Stop}
    (h : opening p.deviation p.trip.stops p.stops = .assumed s) :
    ∃ v rest, (rules.build p seed).1.stops = v :: rest ∧ v.visit = s.visit ∧
      v.source = .schedule ∧ v.status = .past ∧
      (rules.legs p.deviation p.trip.stops p.stops = [] → rest = []) := by
  have hOpen := congrArg (openWalk p.deviation ⟨seed, Measure.zero⟩) h
  have hStops : (rules.build p seed).1.stops = _ :=
    congrArg Prod.fst (stopUpdates_of_openWalk hOpen)
  refine ⟨_, _, hStops, rfl, rfl, rfl, fun hLegs => ?_⟩
  rw [hLegs]
  rfl

end UpdateRules

/-- The position at which the stop predictions of a trip start, or that of its last stop. -/
def TripPrediction.firstIndex (p : TripPrediction) : Nat :=
  (p.stops.head?.map StopPrediction.origin).getD (p.trip.stops.length - 1)

theorem Reaches.firstIndex_eq {p : TripPrediction} {last lo hi : Nat}
    (hLast : p.trip.stops.length - 1 = last) (h : Reaches last lo p.stops hi) :
    p.firstIndex = lo := by
  unfold TripPrediction.firstIndex
  cases hStops : p.stops with
  | nil =>
    rw [hStops] at h
    exact hLast.trans h.1.symm
  | cons z rest =>
    rw [hStops] at h
    exact congrArg Prod.fst h.1

/-- A prediction that leads through a trip from where an observation finds the vehicle. -/
structure TripPrediction.Leads (p : TripPrediction) (d : Deviation) (trip : Trip) : Prop where
  deviation_eq : p.deviation = d
  trip_eq : p.trip = trip
  reaches : ∃ hi ≤ trip.stops.length - 1,
    Reaches (trip.stops.length - 1) p.firstIndex p.stops hi
  /-- Stops are left out only up to one that the vehicle has passed. -/
  past : p.firstIndex = 0 ∨
    ∀ s ∈ trip.stops[p.firstIndex]?, UpdateRules.disposition d s = .past

/-- What is predicted of a trip leads through it, whatever was answered. -/
theorem TripPredictor.leads_settleAll {trust : Trust} {models : ModelRegistry} {horizon : Span}
    {trip : Trip} {calendar : ServiceCalendar} {store : ObservedTransitions} {d : Deviation}
    {g : Progress} (h : (build trust models horizon trip).predict calendar store d = .ok g)
    (answers : List (InferenceKey × Float)) : (g.prediction.settleAll answers).Leads d trip := by
  obtain ⟨cutoff, hCutoff⟩ := exists_cutoff_of_predict h
  have hTiles := @tiles_build trust models horizon trip
  have hSound : g.prediction.Sound := (sound_predict h).prediction
  have hTrip : (g.prediction.settleAll answers).trip = trip := by
    rw [TripPrediction.trip_settleAll, predict_trip h]
    rfl
  have hReaches : Reaches _ _ (g.prediction.settleAll answers).stops _ :=
    (reaches_predict hTiles hCutoff h).revised (TripPrediction.revises_settleAll hSound)
  have hFirst := Reaches.firstIndex_eq (by rw [hTrip]; rfl) hReaches
  rw [← hFirst] at hReaches
  refine ⟨?_, hTrip, ⟨_, lastReported_le d cutoff hTiles, hReaches⟩, ?_⟩
  · rw [TripPrediction.deviation_settleAll, predict_deviation h]
  · rw [hFirst]
    exact past_of_firstReported hTiles

namespace UpdateRules

variable {rules : UpdateRules} {p : TripPrediction} {d : Deviation}

/-- Where stops were left out an update opens with the stop where the stop predictions start. -/
theorem opening_of_firstIndex {s : Stop} (hSkipped : p.firstIndex ≠ 0)
    (h : p.trip.stops[p.firstIndex]? = some s) :
    opening d p.trip.stops p.stops = .assumed s := by
  unfold TripPrediction.firstIndex at hSkipped h
  cases hStops : p.stops with
  | nil =>
    rw [hStops] at h
    exact opening_of_nil (List.getLast?_eq_getElem? ▸ h)
  | cons z rest =>
    rw [hStops] at hSkipped h
    exact opening_of_skipped hSkipped h

/-- What the updates of a trip say about positions. In the update that is built from a prediction,
after any answers, each stop is one of the trip, in its order from where the stop predictions start,
and its status is where the vehicle finds it by its distance. When stops were left out, the stop
that opens the update in their place has been passed, and when nothing is predicted the update is
just the last stop of the trip, and that has been passed. -/
theorem true_status {trust : Trust} {models : ModelRegistry} {horizon : Span} {trip : Trip}
    {calendar : ServiceCalendar} {store : ObservedTransitions} {g : TripPredictor.Progress}
    (hTwo : 2 ≤ trip.stops.length)
    (hPredict : (TripPredictor.build trust models horizon trip).predict calendar store d = .ok g)
    (answers : List (InferenceKey × Float)) (rules : UpdateRules) (seed : Instant) :
    let p := g.prediction.settleAll answers
    let update := (rules.build p seed).1
    (∀ (i : Nat) v, update.stops[i]? = some v → ∃ s, trip.stops[p.firstIndex + i]? = some s ∧
      v.visit = s.visit ∧ v.status = Disposition.classify d.progress s.distance) ∧
    (p.firstIndex ≠ 0 → ∃ s v rest, trip.stops[p.firstIndex]? = some s ∧
      Disposition.classify d.progress s.distance = .past ∧ update.stops = v :: rest ∧
      v.visit = s.visit ∧ v.source = .schedule ∧ v.status = .past) ∧
    (p.stops = [] → ∃ s v, trip.stops.getLast? = some s ∧
      Disposition.classify d.progress s.distance = .past ∧ update.stops = [v] ∧
      v.visit = s.visit ∧ v.source = .schedule ∧ v.status = .past) := by
  intro p update
  obtain ⟨hDeviation, hTrip, ⟨hi, hHi, hReaches⟩, hPast⟩ :=
    TripPredictor.leads_settleAll hPredict answers
  -- the stop that opens the update where stops were left out
  have hOpens : p.firstIndex ≠ 0 → ∃ s, trip.stops[p.firstIndex]? = some s ∧
      disposition d s = .past ∧ opening p.deviation p.trip.stops p.stops = .assumed s := by
    intro hSkipped
    have hInside : p.firstIndex < trip.stops.length := by
      have hLe : p.firstIndex ≤ hi := hReaches.le
      omega
    have hs := List.getElem?_eq_getElem hInside
    refine ⟨_, hs, hPast.resolve_left hSkipped _ hs, opening_of_firstIndex hSkipped ?_⟩
    rw [hTrip]
    exact hs
  refine ⟨fun i v hv => ?_, fun hSkipped => ?_, fun hNone => ?_⟩
  · rw [(build_eq_course rules p seed).1, List.getElem?_map] at hv
    obtain ⟨x, hx, rfl⟩ := Option.map_eq_some_iff.1 hv
    rw [← hTrip] at hTwo hReaches hPast
    rw [← hDeviation] at hPast ⊢
    rw [← hTrip]
    exact status_of_course hTwo hReaches hPast hx
  · obtain ⟨s, hs, hPassed, hOpening⟩ := hOpens hSkipped
    obtain ⟨v, rest, hStops, hVisit, hSource, hStatus, -⟩ := stops_of_assumed rules seed hOpening
    exact ⟨s, v, rest, hs, hPassed, hStops, hVisit, hSource, hStatus⟩
  · have hLast : p.firstIndex = trip.stops.length - 1 := by
      rw [hNone] at hReaches
      exact hReaches.1
    obtain ⟨s, hs, hPassed, hOpening⟩ := hOpens (by omega)
    obtain ⟨v, rest, hStops, hVisit, hSource, hStatus, hRest⟩ :=
      stops_of_assumed rules seed hOpening
    rw [hRest (by rw [hNone]; rfl)] at hStops
    rw [hLast, ← List.getLast?_eq_getElem?] at hs
    exact ⟨s, v, hs, hPassed, hStops, hVisit, hSource, hStatus⟩

end UpdateRules

namespace Sample

/-- A trip on whose way the distances go back. -/
def backAndForth : Trip := ⟨1, "t1", "R1", [servedStop "A" 1 0 0 0 false,
  servedStop "B" 2 300 300 500 true, servedStop "C" 3 600 600 2000 false,
  servedStop "D" 4 900 900 1000 false]⟩

/-- A vehicle that has passed its last stop, but not the one before it. -/
def between : Deviation := { deviation with progress := 1500 }

/-- A vehicle that has passed all its stops. -/
def beyond : Deviation := { deviation with progress := 2500 }

end Sample

namespace UpdateRules

/-- Two vehicles on a trip whose last stop lies before the one before it. Between the two a vehicle
has left only the first segment behind, and the last stop is reported as passed. A vehicle that has
passed all stops is reported at the last one. -/
theorem true_status_back_and_forth :
    let rules : UpdateRules := ⟨⟨60000000000⟩⟩
    let predictor := TripPredictor.build .default .empty ⟨1800000000000⟩ Sample.backAndForth
    ∃ g h, predictor.predict Sample.engine.calendar Sample.engine.transitions Sample.between =
        .ok g ∧
      predictor.predict Sample.engine.calendar Sample.engine.transitions Sample.beyond = .ok h ∧
      (∃ s v rest, Sample.backAndForth.stops[1]? = some s ∧
        Disposition.classify Sample.between.progress s.distance = .past ∧
        (rules.build (g.prediction.settleAll []) (Sample.clock 0)).1.stops = v :: rest ∧
        v.visit = s.visit ∧ v.source = .schedule ∧ v.status = .past ∧
        rest.map StopUpdate.status = [.future, .past]) ∧
      ∃ s v, Sample.backAndForth.stops.getLast? = some s ∧
        Disposition.classify Sample.beyond.progress s.distance = .past ∧
        (rules.build (h.prediction.settleAll []) (Sample.clock 0)).1.stops = [v] ∧
        v.visit = s.visit ∧ v.source = .schedule ∧ v.status = .past := by
  intro rules predictor
  obtain ⟨g, hg⟩ : ∃ g, predictor.predict Sample.engine.calendar Sample.engine.transitions
      Sample.between = .ok g := ⟨_, TripPredictor.predict_eq_get (by decide +kernel)⟩
  obtain ⟨h, hh⟩ : ∃ h, predictor.predict Sample.engine.calendar Sample.engine.transitions
      Sample.beyond = .ok h := ⟨_, TripPredictor.predict_eq_get (by decide +kernel)⟩
  have hTwo : 2 ≤ Sample.backAndForth.stops.length := by decide
  obtain ⟨-, hSkipped, -⟩ := true_status hTwo hg [] rules (Sample.clock 0)
  obtain ⟨-, -, hNone⟩ := true_status hTwo hh [] rules (Sample.clock 0)
  have hMade := hg.symm.trans (TripPredictor.predict_eq_get (by decide +kernel))
  have hFirst : (g.prediction.settleAll []).firstIndex = 1 := by
    cases hMade
    decide +kernel
  have hStatuses : ((rules.build (g.prediction.settleAll []) (Sample.clock 0)).1.stops.map
      StopUpdate.status).tail = [.future, .past] := by
    cases hMade
    decide +kernel
  refine ⟨g, h, hg, hh, ?_, hNone ?_⟩
  · rw [hFirst] at hSkipped
    obtain ⟨s, v, rest, hs, hPassed, hStops, hVisit, hSource, hStatus⟩ := hSkipped (by decide)
    rw [hStops] at hStatuses
    exact ⟨s, v, rest, hs, hPassed, hStops, hVisit, hSource, hStatus, hStatuses⟩
  · have hOther := hh.symm.trans (TripPredictor.predict_eq_get (by decide +kernel))
    cases hOther
    decide +kernel

end UpdateRules

end TransitForecast
