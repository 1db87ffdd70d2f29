import TransitForecast.Proofs.Partition
import TransitForecast.Proofs.Statuses

/-!
# TransitForecast — nothing beyond the horizon

Predicting a trip adds the segments that depart before the horizon ends, from the first one that is
not behind the vehicle, and leaves a marker for the first that departs later. The marker is a stop
prediction like the others, and the first of these tells the source that the first stop of the trip
is reported with. So a trip is predicted only if it departs before the horizon ends: its first
segment departs when the trip does, and so the marker never stands at the first stop.

## Results

* `TripPredictor.within_predict` — each stop prediction belongs to a segment that departs in time,
  or is the marker.
* `UpdateRules.endsBy_build` — no update shows the marker, nor a stop of a later segment.
-/

namespace TransitForecast

theorem Instant.lt_of_not_le {t u : Instant} (h : ¬ t ≤ u) : u < t := Decidable.not_not.1 h

-- ---------------------------------------------------------------------------
-- Segments up to the horizon
-- ---------------------------------------------------------------------------

namespace TripPredictor

variable {calendar : ServiceCalendar} {d : Deviation} {cutoff : Instant}

/-- What is added are the predictions of the segments. -/
theorem mem_stops_foldlM {segments : List Segment} {acc g : Progress}
    (h : segments.foldlM (addSegment calendar d) acc = .ok g) :
    ∀ z ∈ g.prediction.stops, z ∈ acc.prediction.stops ∨ ∃ s ∈ segments, ∃ complete,
      z ∈ s.allocate s.statistical.1 s.statistical.2 complete := by
  refine foldlM_induction (P := fun g => ∀ z ∈ g.prediction.stops, z ∈ acc.prediction.stops ∨
    ∃ s ∈ segments, ∃ complete, z ∈ s.allocate s.statistical.1 s.statistical.2 complete)
    (fun {acc' next s} hs hOld hNext z hz => ?_) (fun z hz => .inl hz) h
  obtain ⟨complete, hAdded⟩ := stops_addSegment hNext
  rw [hAdded, List.mem_append] at hz
  exact hz.elim (hOld z) fun hMem => .inr ⟨s, hs, complete, hMem⟩

end TripPredictor

/-- Whether a stop prediction leads from one stop of a segment to the next. -/
def Segment.Holds (s : Segment) (z : StopPrediction) : Prop :=
  ∃ j : Nat, j + 1 < s.stops.length ∧ z.place = (s.firstIndex + j, s.firstIndex + j + 1)

/-- What a stop prediction is when the horizon has an end: one of a segment that departs before it,
or the final marker for a segment that does not. -/
structure StopPrediction.Within (segments : List Segment) (cutoff : Instant) (z : StopPrediction) :
    Prop where
  pair : z.source ≠ .endOfPredictions →
    ∃ s ∈ segments, s.firstStop.departure < cutoff ∧ s.Holds z
  marker : z.source = .endOfPredictions → z.complete = true ∧
    ∃ s ∈ segments, cutoff ≤ s.firstStop.departure ∧ z.origin = s.firstIndex

namespace StopPrediction

variable {segments : List Segment} {cutoff : Instant} {z z' : StopPrediction}

/-- Answers leave the marker as it is, and each pair in its place. -/
theorem Within.revised (h : z.Within segments cutoff) (hRevised : z.Revises z') :
    z'.Within segments cutoff := by
  rcases hRevised with rfl | ⟨hOpen, -, hPlace, hSource⟩
  · exact h
  · refine ⟨fun _ => ?_, fun hMarker => absurd hMarker hSource⟩
    have hPair : z.source ≠ .endOfPredictions := by
      intro hMarker
      rw [(h.marker hMarker).1] at hOpen
      cases hOpen
    obtain ⟨s, hs, hEarly, j, hj, hOld⟩ := h.pair hPair
    exact ⟨s, hs, hEarly, j, hj, hPlace.trans hOld⟩

theorem Within.of_mem_allocate {s : Segment} (hs : s ∈ segments)
    (hEarly : s.firstStop.departure < cutoff) {complete : Bool}
    (h : z ∈ s.allocate s.statistical.1 s.statistical.2 complete) : z.Within segments cutoff := by
  obtain ⟨j, hj⟩ := List.mem_iff_getElem?.1 h
  obtain ⟨hOrigin, hTarget, -⟩ := Segment.getElem?_allocate hj
  obtain ⟨hLength, -⟩ := List.getElem?_eq_some_iff.1 hj
  rw [s.length_allocate] at hLength
  have hSource : z.source ≠ .endOfPredictions := by
    rw [Segment.source_of_mem_allocate h]
    exact s.statistical_ne_ending
  exact ⟨fun _ => ⟨s, hs, hEarly, j, by omega, Prod.ext hOrigin hTarget⟩,
    fun hMarker => absurd hMarker hSource⟩

end StopPrediction

namespace TripPredictor

variable {calendar : ServiceCalendar} {d : Deviation} {cutoff : Instant} {p : TripPredictor}
  {store : ObservedTransitions} {g : Progress}

/-- Each stop prediction belongs to a segment that departs before the horizon ends, or is the marker
for one that does not. -/
theorem within_predict (hCutoff : p.cutoff? d = some cutoff)
    (h : p.predict calendar store d = .ok g) :
    ∀ z ∈ g.prediction.stops, z.Within p.segments cutoff := by
  intro z hz
  obtain ⟨added, hAdded, rfl⟩ := foldlM_of_predict hCutoff h
  have hPairs : ∀ z ∈ added.prediction.stops, z.Within p.segments cutoff := by
    intro z hMem
    rcases mem_stops_foldlM hAdded z hMem with hNone | ⟨s, hs, complete, hMem⟩
    · cases hNone
    · have hEarly := List.mem_takeWhile_imp hs
      rw [isBeyond, Bool.not_eq_true', decide_eq_false_iff_not] at hEarly
      exact .of_mem_allocate (mem_segments_of_reached ((List.takeWhile_prefix _).subset hs))
        (Instant.lt_of_not_le hEarly) hMem
  cases hFound : (p.reached d cutoff).find? (isBeyond cutoff) with
  | none =>
    rw [hFound] at hz
    exact hPairs z hz
  | some s =>
    rw [hFound] at hz
    rcases List.mem_append.1 hz with hMem | hLast
    · exact hPairs z hMem
    · rw [List.mem_singleton.1 hLast]
      have hLate : isBeyond cutoff s = true := List.find?_some hFound
      rw [isBeyond, decide_eq_true_eq] at hLate
      have hs := mem_segments_of_reached (List.mem_of_find?_eq_some hFound)
      exact ⟨fun hPair => absurd rfl hPair, fun _ => ⟨rfl, s, hs, hLate, rfl⟩⟩

/-- Answers change nothing about that. -/
theorem within_settleAll (hCutoff : p.cutoff? d = some cutoff)
    (h : p.predict calendar store d = .ok g) (answers : List (InferenceKey × Float)) :
    ∀ z ∈ (g.prediction.settleAll answers).stops, z.Within p.segments cutoff := by
  have hSound : g.prediction.Sound := (sound_predict h).prediction
  have hRevised : List.Forall₂ StopPrediction.Revises g.prediction.stops
    (g.prediction.settleAll answers).stops := TripPrediction.revises_settleAll hSound
  intro z hz
  obtain ⟨i, hi, rfl⟩ := List.getElem_of_mem hz
  have hOld : i < g.prediction.stops.length := hRevised.length_eq ▸ hi
  exact (within_predict hCutoff h _ (List.getElem_mem hOld)).revised (hRevised.get hOld hi)

end TripPredictor

-- ---------------------------------------------------------------------------
-- Updates up to the horizon
-- ---------------------------------------------------------------------------

/-- An update of a trip that shows no marker, and after its first stop only stops of segments that
depart before the horizon ends. -/
structure TripUpdate.EndsBy (u : TripUpdate) (cutoff : Instant) (trip : Trip)
    (segments : List Segment) : Prop where
  sources : ∀ v ∈ u.stops, v.source ≠ .endOfPredictions
  pairs : ∀ (i : Nat) v, u.stops[i + 1]? = some v →
    ∃ s ∈ segments, s.firstStop.departure < cutoff ∧ ∃ (j : Nat) (b : Stop),
      s.stops[j + 1]? = some b ∧ trip.stops[s.firstIndex + j + 1]? = some b ∧ v.visit = b.visit

namespace UpdateRules

variable {rules : UpdateRules} {p : TripPrediction} {seed : Instant} {d : Deviation}

/-- There is no leg for the marker. -/
theorem pair_of_getElem?_legs {stops : List Stop} (xs : List StopPrediction) :
    ∀ {i : Nat} {leg : Leg Float} {z : StopPrediction}, (rules.legs d stops xs)[i]? = some leg →
      xs[i]? = some z → z.source ≠ .endOfPredictions := by
  induction xs with
  | nil =>
    intro i leg z h
    cases h
  | cons x rest ih =>
    intro i leg z h hz
    rw [legs] at h
    split at h
    · cases h
    · split at h
      · cases i with
        | zero =>
          cases hz
          assumption
        | succ i => exact ih h hz
      · cases h

theorem source_of_step_leg {w : WalkState Float} {a b : Stop} {z : StopPrediction}
    {y : StopUpdate × WalkState Float} (h : Walk.step d w (rules.leg d a b z) = some y) :
    y.1.source = z.source := by
  rcases step_leg_cases h with ⟨-, _, -, rfl⟩ | ⟨-, _, -, rfl⟩ | ⟨-, _, _, -, -, rfl⟩
  all_goals rfl

/-- An update that does not open with an assumed stop opens with the first stop of the trip. -/
theorem opening_cases (d : Deviation) (stops : List Stop) (xs : List StopPrediction) :
    (∃ o : Option Stop, opening d stops xs = o.elim .nothing .assumed) ∨
      ∃ z s, xs.head? = some z ∧ z.origin = 0 ∧
        (opening d stops xs = .passed s z.source ∨
          ∃ status, opening d stops xs = .origin s z.source status) := by
  unfold opening
  cases hHead : xs.head? with
  | none => exact .inl ⟨_, rfl⟩
  | some z =>
    dsimp only
    by_cases hOrigin : z.origin = 0
    · rw [if_pos hOrigin]
      cases stops.head? with
      | none => exact .inl ⟨none, rfl⟩
      | some s =>
        refine .inr ⟨z, s, rfl, hOrigin, ?_⟩
        dsimp only
        split
        · exact .inl rfl
        · exact .inr ⟨_, rfl⟩
    · rw [if_neg hOrigin]
      exact .inl ⟨_, rfl⟩

/-- A stop that opens an update is shown with the source of the first stop prediction only if that
starts at the first stop of the trip. -/
theorem source_of_openWalk {stops : List Stop} {xs : List StopPrediction} {w n : WalkState Float}
    {u : StopUpdate} (h : openWalk d w (opening d stops xs) = some ([u], n)) :
    u.source = .schedule ∨ ∃ z, xs.head? = some z ∧ z.origin = 0 ∧ u.source = z.source := by
  rcases opening_cases d stops xs with
    ⟨o, hAssumed⟩ | ⟨z, s, hHead, hOrigin, hPassed | ⟨status, hFirst⟩⟩
  · left
    rw [hAssumed] at h
    cases o with
    | none => cases h
    | some s =>
      cases h
      rfl
  · right
    rw [hPassed] at h
    obtain ⟨⟨v, next⟩, hObserved, hEq⟩ := Option.map_eq_some_iff.1 h
    obtain ⟨predicted, -, hMade⟩ := Option.map_eq_some_iff.1 hObserved
    cases hEq
    cases hMade
    exact ⟨z, hHead, hOrigin, rfl⟩
  · right
    rw [hFirst, openWalk_origin] at h
    obtain ⟨hReported, -⟩ := Prod.mk.inj (Option.some.inj h)
    obtain ⟨rfl, -⟩ := List.cons.inj hReported
    have hOutline := (Walk.origin_eq d w s z.source status).1
    exact ⟨z, hHead, hOrigin, congrArg (fun o => o.2.2.1) hOutline⟩

end UpdateRules

namespace TripPredictor

variable {trust : Trust} {models : ModelRegistry} {horizon : Span} {trip : Trip} {d : Deviation}
  {cutoff : Instant}

/-- A trip in range departs before the horizon ends. -/
theorem departs_of_inRange {p : TripPredictor} (h : p.inRange d = .ok true)
    (hCutoff : p.cutoff? d = some cutoff) :
    ∃ first, p.trip.stops.head? = some first ∧ first.departure < cutoff := by
  unfold inRange Trip.firstDeparture at h
  cases hHead : p.trip.stops.head? with
  | none =>
    rw [hHead] at h
    cases h
  | some first =>
    rw [hHead, hCutoff] at h
    exact ⟨first, rfl, of_decide_eq_true (Except.ok.inj h)⟩

/-- A segment that starts at the first stop of the trip departs when the trip does. -/
theorem head?_of_firstIndex {s : Segment} (hs : s ∈ (build trust models horizon trip).segments)
    (hFirst : s.firstIndex = 0) : trip.stops.head? = some s.firstStop := by
  have hPrefix := (tiles_build horizon trip).isPrefix s hs
  rw [hFirst, List.drop_zero] at hPrefix
  obtain ⟨more, hEq⟩ := hPrefix
  rw [← hEq, List.head?_append, List.head?_eq_some_head s.stops_ne_nil]
  rfl

/-- In a trip in range the marker does not stand at the first stop. -/
theorem origin_ne_zero_of_marker {z : StopPrediction}
    (hRange : (build trust models horizon trip).inRange d = .ok true)
    (hCutoff : (build trust models horizon trip).cutoff? d = some cutoff)
    (hWithin : z.Within (build trust models horizon trip).segments cutoff)
    (hMarker : z.source = .endOfPredictions) : z.origin ≠ 0 := by
  intro hOrigin
  obtain ⟨-, s, hs, hLate, hFirst⟩ := hWithin.marker hMarker
  obtain ⟨first, hHead, hEarly⟩ := departs_of_inRange hRange hCutoff
  have hSame := head?_of_firstIndex hs (hFirst.symm.trans hOrigin)
  rw [show trip.stops.head? = some first from hHead] at hSame
  cases hSame
  exact hLate hEarly

end TripPredictor

namespace UpdateRules

/-- Nothing beyond the horizon is shown of a trip in range, whatever was answered. -/
theorem endsBy_build {trust : Trust} {models : ModelRegistry} {horizon : Span} {trip : Trip}
    {calendar : ServiceCalendar} {store : ObservedTransitions} {d : Deviation} {cutoff : Instant}
    {g : TripPredictor.Progress}
    (hRange : (TripPredictor.build trust models horizon trip).inRange d = .ok true)
    (hCutoff : (TripPredictor.build trust models horizon trip).cutoff? d = some cutoff)
    (hPredict : (TripPredictor.build trust models horizon trip).predict calendar store d = .ok g)
    (answers : List (InferenceKey × Float)) (rules : UpdateRules) (seed : Instant) :
    (rules.build (g.prediction.settleAll answers) seed).1.EndsBy cutoff trip
      (TripPredictor.build trust models horizon trip).segments := by
  generalize hp : g.prediction.settleAll answers = p
  obtain ⟨-, hTrip, -⟩ := hp ▸ TripPredictor.leads_settleAll hPredict answers
  have hWithin := hp ▸ TripPredictor.within_settleAll hCutoff hPredict answers
  have hStops := (build_eq_course rules p seed).1
  -- what is shown after the first stop
  have hLater : ∀ {i y}, (rules.course p seed)[i + 1]? = some y →
      ∃ z b, z ∈ p.stops ∧ z.source ≠ .endOfPredictions ∧ y.1.source = z.source ∧
        trip.stops[z.target]? = some b ∧ y.1.visit = b.visit := by
    intro i y hy
    obtain ⟨hLength, -⟩ := List.getElem?_eq_some_iff.1 hy
    have hBefore := List.getElem?_eq_getElem (Nat.lt_of_succ_lt hLength)
    obtain ⟨z, a, b, hz, -, hb, hLeg, hStep⟩ := step_of_course hBefore hy
    rw [hTrip] at hb
    exact ⟨z, b, List.mem_of_getElem? hz, pair_of_getElem?_legs _ hLeg hz,
      source_of_step_leg hStep, hb, (status_step_leg hStep).1⟩
  refine ⟨fun v hv => ?_, fun i v hv => ?_⟩
  · rw [hStops] at hv
    obtain ⟨x, hx, rfl⟩ := List.mem_map.1 hv
    obtain ⟨i, hi⟩ := List.mem_iff_getElem?.1 hx
    cases i with
    | zero =>
      rcases course_cases rules p seed with ⟨hCourse, -⟩ | ⟨u, n, hOpen, hCourse⟩
      · rw [hCourse] at hi
        cases hi
      · rw [hCourse] at hi
        cases hi
        rcases source_of_openWalk hOpen with hAssumed | ⟨z, hHead, hOrigin, hShown⟩
        · rw [hAssumed]
          nofun
        · rw [hShown]
          exact fun hMarker => TripPredictor.origin_ne_zero_of_marker hRange hCutoff
            (hWithin z (List.mem_of_head? hHead)) hMarker hOrigin
    | succ i =>
      obtain ⟨z, b, -, hPair, hShown, -⟩ := hLater hi
      rw [hShown]
      exact hPair
  · rw [hStops, List.getElem?_map] at hv
    obtain ⟨x, hx, rfl⟩ := Option.map_eq_some_iff.1 hv
    obtain ⟨z, b, hz, hPair, -, hb, hVisit⟩ := hLater hx
    obtain ⟨s, hs, hEarly, j, hj, hPlace⟩ := (hWithin z hz).pair hPair
    have hTarget : z.target = s.firstIndex + j + 1 := congrArg Prod.snd hPlace
    rw [hTarget] at hb
    refine ⟨s, hs, hEarly, j, b, ?_, hb, hVisit⟩
    rw [Tiles.getElem?_stops ((TripPredictor.tiles_build horizon trip).isPrefix s hs) hj]
    exact hb

end UpdateRules

end TransitForecast
