import TransitForecast.Proofs.Passage
import TransitForecast.Proofs.Revision
import TransitForecast.Proofs.Tiling
import TransitForecast.Update.Build

/-!
# TransitForecast — updates cover a range of a trip

Four loops agree on the positions of a trip: segments are cut, the ones behind the vehicle are
skipped up to the horizon, answers are put in, and an update walks over what came of it. What the
update reports is a range of consecutive stops, or its beginning when a predicted time leaves the
range of instants.

## Results

* `TripPredictor.reaches_predict` — the stop predictions lead from the first stop to report to the
  last one, pair by pair.
* `Reaches.revised` — answers do not change where they lead.
* `UpdateRules.gap_free` — an update reports a range of stops, each once and in order.
-/

namespace TransitForecast

-- ---------------------------------------------------------------------------
-- Stop predictions in a row
-- ---------------------------------------------------------------------------

/-- Stop predictions that lead from stop to stop, from one position of a trip to that of the end
marker, or to the last stop when there is none. -/
def Reaches (last : Nat) : Nat → List StopPrediction → Nat → Prop
  | lo, [], hi => lo = last ∧ hi = last
  | lo, x :: rest, hi =>
    x.place = (lo, lo + 1) ∧
      if x.source = .endOfPredictions then hi = lo ∧ x.complete = true
      else Reaches last (lo + 1) rest hi

namespace Reaches

variable {last lo hi : Nat} {xs ys : List StopPrediction}

theorem le (h : Reaches last lo xs hi) : lo ≤ hi := by
  induction xs generalizing lo with
  | nil => exact Nat.le_of_eq (h.1.trans h.2.symm)
  | cons x rest ih =>
    obtain ⟨-, hRest⟩ := h
    split at hRest
    · exact Nat.le_of_eq hRest.1.symm
    · exact Nat.le_trans (Nat.le_succ lo) (ih hRest)

/-- Answers do not change where stop predictions lead: they revise none that is a marker. -/
theorem revised (h : Reaches last lo xs hi) (hRevised : List.Forall₂ StopPrediction.Revises xs ys) :
    Reaches last lo ys hi := by
  induction hRevised generalizing lo with
  | nil => exact h
  | @cons x y xs ys hHead _ ih =>
    obtain ⟨hPlace, hRest⟩ := h
    refine ⟨hHead.place_eq.trans hPlace, ?_⟩
    rcases hHead with rfl | ⟨hOpen, -, -, hSource⟩
    · split at hRest
      · rw [if_pos ‹_›]
        exact hRest
      · rw [if_neg ‹_›]
        exact ih hRest
    · rw [if_neg hSource]
      split at hRest
      · -- the marker is final
        rw [hOpen] at hRest
        cases hRest.2
      · exact ih hRest

/-- The predictions of a segment lead from its first stop to its last. -/
theorem allocate_append {s : Segment} {total : Float} {source : Source} {complete : Bool}
    (hSource : source ≠ .endOfPredictions)
    (h : Reaches last (s.firstIndex + (s.stops.length - 1)) ys hi) :
    Reaches last s.firstIndex (s.allocate total source complete ++ ys) hi := by
  have hPlaced : ∀ i x, (s.allocate total source complete)[i]? = some x →
      x.place = (s.firstIndex + i, s.firstIndex + i + 1) ∧ x.source ≠ .endOfPredictions := by
    intro i x hx
    have hPair := Segment.getElem?_allocate hx
    refine ⟨Prod.ext hPair.1 hPair.2.1, ?_⟩
    rw [Segment.source_of_mem_allocate (List.mem_of_getElem? hx)]
    exact hSource
  rw [← s.length_allocate total source complete] at h
  revert hPlaced h
  generalize s.allocate total source complete = xs
  generalize s.firstIndex = lo
  intro h hPlaced
  induction xs generalizing lo with
  | nil => exact h
  | cons x rest ih =>
    have hHead := hPlaced 0 x rfl
    refine ⟨hHead.1, ?_⟩
    rw [if_neg hHead.2]
    refine ih (lo + 1) ?_ fun i y hy => ?_
    · rw [List.length_cons, Nat.add_comm rest.length, ← Nat.add_assoc] at h
      exact h
    · have hNext := hPlaced (i + 1) y hy
      rw [Nat.add_comm i, ← Nat.add_assoc] at hNext
      exact hNext

end Reaches

-- ---------------------------------------------------------------------------
-- Predicting a trip
-- ---------------------------------------------------------------------------

namespace Segment

theorem statistical_ne_ending (s : Segment) : s.statistical.2 ≠ .endOfPredictions := by
  unfold statistical
  split
  · split
    · dsimp only
      split
      · exact nofun
      · exact nofun
    · exact nofun
  · exact nofun

end Segment

namespace TripPredictor

variable {calendar : ServiceCalendar} {d : Deviation} {cutoff : Instant}

/-- Position of the last stop of the trip. -/
def lastIndex (p : TripPredictor) : Nat := p.trip.stops.length - 1

/-- Position of the first stop to report. -/
def firstReported (p : TripPredictor) (d : Deviation) (cutoff : Instant) : Nat :=
  ((p.reached d cutoff).head?.map Segment.firstIndex).getD p.lastIndex

/-- Position of the last stop to report. -/
def lastReported (p : TripPredictor) (d : Deviation) (cutoff : Instant) : Nat :=
  (((p.reached d cutoff).find? (isBeyond cutoff)).map Segment.firstIndex).getD p.lastIndex

/-- A segment adds its predictions, final or not. -/
theorem stops_addSegment {acc g : Progress} {s : Segment}
    (h : addSegment calendar d acc s = .ok g) :
    ∃ complete, g.prediction.stops =
      acc.prediction.stops ++ s.allocate s.statistical.1 s.statistical.2 complete := by
  rcases addSegment_cases h with ⟨hPrediction, -⟩ | ⟨_, _, -, -, hPrediction, -⟩
  · exact ⟨true, by rw [hPrediction]; rfl⟩
  · exact ⟨false, by rw [hPrediction]; rfl⟩

/-- The segments that are gone through lead to the first of them that departs too late. -/
theorem reaches_walk {stops : List Stop} {last : Nat} {segments : List Segment} :
    ∀ {lo : Nat} {acc g : Progress}, Tiles stops lo segments last →
      walk calendar d cutoff true acc segments = .ok g →
      ∃ tail, g.prediction.stops = acc.prediction.stops ++ tail ∧
        Reaches last lo tail
          (((segments.find? (isBeyond cutoff)).map Segment.firstIndex).getD last) := by
  induction segments with
  | nil =>
    intro lo acc g hTiles h
    cases h
    exact ⟨[], (List.append_nil _).symm, hTiles, rfl⟩
  | cons s rest ih =>
    intro lo acc g hTiles h
    obtain ⟨hFirst, -, hRest⟩ := hTiles
    rw [walk] at h
    rw [List.find?_cons]
    by_cases hBeyond : cutoff ≤ s.firstStop.departure
    · -- the marker stands at the first stop of the segment
      rw [if_pos hBeyond] at h
      cases h
      rw [isBeyond, decide_eq_true hBeyond]
      refine ⟨[.ending s.firstIndex], rfl, ?_, ?_⟩
      · rw [← hFirst]
        rfl
      · exact ⟨hFirst, rfl⟩
    · rw [if_neg hBeyond, if_neg (by simp)] at h
      rw [isBeyond, decide_eq_false hBeyond]
      split at h
      · cases h
      · rename_i next hNext
        obtain ⟨complete, hAdded⟩ := stops_addSegment hNext
        obtain ⟨tail, hTail, hReaches⟩ := ih hRest h
        refine ⟨s.allocate s.statistical.1 s.statistical.2 complete ++ tail, ?_, ?_⟩
        · rw [hTail, hAdded, List.append_assoc]
        · rw [← hFirst] at hReaches ⊢
          exact hReaches.allocate_append s.statistical_ne_ending

/-- The last stop to report is a stop of the trip. -/
theorem lastReported_le {p : TripPredictor} (d : Deviation) (cutoff : Instant)
    (hTiles : Tiles p.trip.stops 0 p.segments p.lastIndex) :
    p.lastReported d cutoff ≤ p.lastIndex := by
  rw [lastReported]
  cases hFound : (p.reached d cutoff).find? (isBeyond cutoff) with
  | none => exact Nat.le_refl _
  | some s =>
    have hMem := mem_segments_of_reached (List.mem_of_find?_eq_some hFound)
    exact Nat.le_of_lt (hTiles.firstIndex_lt s hMem)

/-- The stop predictions of a trip lead from the first stop to report to the last one. -/
theorem reaches_predict {p : TripPredictor} {store : ObservedTransitions} {g : Progress}
    (hTiles : Tiles p.trip.stops 0 p.segments p.lastIndex) (hCutoff : p.cutoff? d = some cutoff)
    (h : p.predict calendar store d = .ok g) :
    Reaches p.lastIndex (p.firstReported d cutoff) g.prediction.stops
      (p.lastReported d cutoff) := by
  rw [predict_eq_walk store hCutoff] at h
  obtain ⟨tail, hStops, hReaches⟩ := reaches_walk (hTiles.dropWhile (isBehind d cutoff)) h
  rw [← reached] at hReaches
  rw [hStops]
  exact hReaches

end TripPredictor

-- ---------------------------------------------------------------------------
-- Walking the legs
-- ---------------------------------------------------------------------------

/-- What an update says about a stop whatever is predicted. -/
def StopUpdate.visit (u : StopUpdate) : Nat × String × Instant × Bool :=
  (u.sequence, u.stop, u.scheduledArrival, u.timepoint)

/-- What a trip says about a stop. -/
def Stop.visit (s : Stop) : Nat × String × Instant × Bool :=
  (s.sequence, s.id, s.arrival, s.timepoint)

namespace Walk

variable {d : Deviation} {w : WalkState Float}

theorem visit_observed {s : Stop} {source : Source} {u : StopUpdate} {next : WalkState Float}
    (h : observed d w s source = some (u, next)) : u.visit = s.visit := by
  obtain ⟨predicted, -, hEq⟩ := Option.map_eq_some_iff.1 h
  cases hEq
  rfl

theorem visit_origin (s : Stop) (source : Source) (status : Disposition) :
    (origin d w s source status).1.visit = s.visit := by
  unfold origin
  dsimp only
  split
  · rfl
  · rfl

/-- A leg reports its stop. -/
theorem visit_step {leg : Leg Float} {u : StopUpdate} {next : WalkState Float}
    (h : step d w leg = some (u, next)) : u.visit = leg.stop.visit := by
  unfold step at h
  split at h
  · exact visit_observed h
  · cases h
    rfl
  · obtain ⟨predicted, -, hEq⟩ := Option.map_eq_some_iff.1 h
    cases hEq
    rfl

/-- Whether no time leaves the range of instants on the way along legs. -/
def completes (d : Deviation) (w : WalkState Float) : List (Leg Float) → Bool
  | [] => true
  | leg :: rest =>
    match step d w leg with
    | none => false
    | some (_, next) => completes d next rest

/-- A walk reports the stops of its legs in order, from the first one on. -/
theorem visits_run_prefix {legs : List (Leg Float)} :
    ∀ {w : WalkState Float},
      (run d w legs).1.map StopUpdate.visit <+: legs.map fun leg => leg.stop.visit := by
  induction legs with
  | nil => exact List.prefix_rfl
  | cons leg rest ih =>
    intro w
    rw [run]
    cases hStep : step d w leg with
    | none => exact List.nil_prefix
    | some reported =>
      obtain ⟨u, next⟩ := reported
      rw [List.map_cons, List.map_cons, visit_step hStep]
      exact (List.prefix_cons_inj _).2 ih

/-- A walk that completes reports the stops of all its legs. -/
theorem visits_run {legs : List (Leg Float)} :
    ∀ {w : WalkState Float}, completes d w legs = true →
      (run d w legs).1.map StopUpdate.visit = legs.map fun leg => leg.stop.visit := by
  induction legs with
  | nil => exact fun _ => rfl
  | cons leg rest ih =>
    intro w h
    rw [completes] at h
    rw [run]
    cases hStep : step d w leg with
    | none =>
      rw [hStep] at h
      cases h
    | some reported =>
      obtain ⟨u, next⟩ := reported
      rw [hStep] at h
      rw [List.map_cons, List.map_cons, visit_step hStep, ih h]

end Walk

/-- The stop that an opening reports. -/
def Opening.stop? : Opening → Option Stop
  | .nothing => none
  | .assumed s => some s
  | .passed s _ => some s
  | .origin s _ _ => some s

namespace UpdateRules

variable {rules : UpdateRules} {d : Deviation} {stops : List Stop} {xs : List StopPrediction}
  {last lo hi : Nat}

/-- An opening reports its stop, if it has one. -/
theorem visits_openWalk {w next : WalkState Float} {o : Opening} {first : List StopUpdate}
    (h : openWalk d w o = some (first, next)) :
    first.map StopUpdate.visit = o.stop?.toList.map Stop.visit := by
  cases o with
  | nothing =>
    cases h
    rfl
  | assumed s =>
    cases h
    rfl
  | passed s source =>
    obtain ⟨⟨u, w'⟩, hObserved, hEq⟩ := Option.map_eq_some_iff.1 h
    cases hEq
    exact congrArg (fun visit => [visit]) (Walk.visit_observed hObserved)
  | origin s source status =>
    cases h
    exact congrArg (fun visit => [visit]) (Walk.visit_origin s source status)

/-- The first reported stop is the one where the stop predictions start. -/
theorem stop?_opening (hLast : last = stops.length - 1) (h : Reaches last lo xs hi) :
    (opening d stops xs).stop? = stops[lo]? := by
  cases xs with
  | nil =>
    obtain ⟨rfl, -⟩ := h
    rw [hLast, ← List.getLast?_eq_getElem?, opening]
    cases stops.getLast? with
    | none => rfl
    | some s => rfl
  | cons x rest =>
    have hOrigin : x.origin = lo := congrArg Prod.fst h.1
    unfold opening
    dsimp only [List.head?_cons]
    rw [hOrigin]
    split
    · rename_i hFirst
      rw [hFirst, ← List.head?_eq_getElem?]
      cases stops.head? with
      | none => rfl
      | some s =>
        dsimp only
        split
        · rfl
        · rfl
    · cases stops[lo]? with
      | none => rfl
      | some s => rfl

/-- The legs of stop predictions reach the stops after the first, up to where they lead. -/
theorem stops_legs (hi_lt : hi < stops.length) (h : Reaches last lo xs hi) :
    (rules.legs d stops xs).map Leg.stop = (stops.drop (lo + 1)).take (hi - lo) := by
  induction xs generalizing lo with
  | nil =>
    obtain ⟨rfl, rfl⟩ := h
    rw [Nat.sub_self, List.take_zero]
    rfl
  | cons x rest ih =>
    obtain ⟨hPlace, hRest⟩ := h
    rw [legs]
    split
    · rename_i hEnding
      rw [if_pos hEnding] at hRest
      rw [hRest.1, Nat.sub_self, List.take_zero]
      rfl
    · rename_i hPair
      rw [if_neg hPair] at hRest
      have hLe : lo + 1 ≤ hi := hRest.le
      have hFrom : x.origin = lo := congrArg Prod.fst hPlace
      have hTo : x.target = lo + 1 := congrArg Prod.snd hPlace
      have hOrigin : stops[x.origin]? = some stops[lo] := by
        rw [hFrom]
        exact List.getElem?_eq_getElem (by omega)
      have hTarget : stops[x.target]? = some stops[lo + 1] := by
        rw [hTo]
        exact List.getElem?_eq_getElem (by omega)
      have hCount : hi - lo = (hi - (lo + 1)) + 1 := by omega
      rw [hOrigin, hTarget]
      dsimp only
      rw [List.map_cons, ih hRest, List.drop_eq_getElem_cons (by omega : lo + 1 < stops.length),
        hCount, List.take_succ_cons]
      rfl

/-- Whether no time leaves the range of instants while a trip is reported. -/
def completes (rules : UpdateRules) (p : TripPrediction) (seed : Instant) : Bool :=
  match openWalk p.deviation ⟨seed, Measure.zero⟩
      (opening p.deviation p.trip.stops p.stops) with
  | none => false
  | some (_, w) => Walk.completes p.deviation w (rules.legs p.deviation p.trip.stops p.stops)

/-- The stops of a range are its first stop and the stops after it. -/
theorem range_eq_cons (hLe : lo ≤ hi) (hi_lt : hi < stops.length) :
    (stops.drop lo).take (hi + 1 - lo) =
      stops[lo] :: (stops.drop (lo + 1)).take (hi - lo) := by
  have hCount : hi + 1 - lo = (hi - lo) + 1 := by omega
  rw [List.drop_eq_getElem_cons (by omega : lo < stops.length), hCount, List.take_succ_cons]

/-- An update reports the range of stops that the stop predictions lead through, all of it when no
time leaves the range of instants. -/
theorem visits_stopUpdates (rules : UpdateRules) {p : TripPrediction} (seed : Instant)
    (hi_lt : hi < p.trip.stops.length)
    (h : Reaches (p.trip.stops.length - 1) lo p.stops hi) :
    (rules.stopUpdates p seed).1.map StopUpdate.visit <+:
        ((p.trip.stops.drop lo).take (hi + 1 - lo)).map Stop.visit ∧
      (rules.completes p seed = true → (rules.stopUpdates p seed).1.map StopUpdate.visit =
        ((p.trip.stops.drop lo).take (hi + 1 - lo)).map Stop.visit) := by
  have hLegs : (rules.legs p.deviation p.trip.stops p.stops).map (fun leg => leg.stop.visit) =
      ((p.trip.stops.drop (lo + 1)).take (hi - lo)).map Stop.visit := by
    rw [← stops_legs hi_lt h, List.map_map]
    rfl
  have hLo : lo < p.trip.stops.length := Nat.lt_of_le_of_lt h.le hi_lt
  have hStop := stop?_opening (d := p.deviation) rfl h
  rw [List.getElem?_eq_getElem hLo] at hStop
  rw [range_eq_cons h.le hi_lt, List.map_cons, ← hLegs]
  unfold stopUpdates completes
  dsimp only
  cases hOpen : openWalk p.deviation ⟨seed, Measure.zero⟩
      (opening p.deviation p.trip.stops p.stops) with
  | none => exact ⟨List.nil_prefix, nofun⟩
  | some opened =>
    obtain ⟨first, w⟩ := opened
    have hFirst := visits_openWalk hOpen
    rw [hStop] at hFirst
    dsimp only
    rw [List.map_append, hFirst]
    refine ⟨(List.prefix_cons_inj _).2 Walk.visits_run_prefix, fun hCompletes => ?_⟩
    rw [Walk.visits_run hCompletes]
    rfl

/-- Nothing is reported of a trip without stops. -/
theorem stopUpdates_eq_nil {p : TripPrediction} (seed : Instant) (h : p.trip.stops = []) :
    (rules.stopUpdates p seed).1 = [] := by
  have hOpening : opening p.deviation p.trip.stops p.stops = .nothing := by
    rw [h]
    unfold opening
    split
    · rfl
    · split
      · rfl
      · rfl
  have hLegs : rules.legs p.deviation p.trip.stops p.stops = [] := by
    rw [h]
    cases p.stops with
    | nil => rfl
    | cons x rest =>
      rw [legs]
      split
      · rfl
      · rfl
  unfold stopUpdates
  rw [hOpening, hLegs]
  rfl

/-- Whatever was answered, an update reports consecutive stops of its trip, each once and in order:
from the first stop of the first segment that is not behind the vehicle or departs when the horizon
ends or later, to the first stop of the first segment from there on that does depart so late. The
last stop of the trip stands in for a segment that does not exist. When a time leaves the range of
instants the update ends early. -/
theorem gap_free (trust : Trust) (models : ModelRegistry) {horizon : Span} (trip : Trip)
    (calendar : ServiceCalendar) (store : ObservedTransitions) {d : Deviation} {cutoff : Instant}
    (hCutoff : d.observedAt.shift? horizon = some cutoff)
    (hDated : (TripPredictor.build trust models horizon trip).Dated calendar.zone d)
    (answers : List (InferenceKey × Float)) (rules : UpdateRules) (seed : Instant) :
    let predictor := TripPredictor.build trust models horizon trip
    let lo := predictor.firstReported d cutoff
    let hi := predictor.lastReported d cutoff
    let range := (trip.stops.drop lo).take (hi + 1 - lo)
    (trip.stops ≠ [] → lo ≤ hi ∧ hi < trip.stops.length) ∧
    ∃ g, predictor.predict calendar store d = .ok g ∧
      let p := g.prediction.settleAll answers
      (rules.build p seed).1.stops.map StopUpdate.visit <+: range.map Stop.visit ∧
      (rules.completes p seed = true →
        (rules.build p seed).1.stops.map StopUpdate.visit = range.map Stop.visit) := by
  intro predictor lo hi range
  have hTiles : Tiles predictor.trip.stops 0 predictor.segments predictor.lastIndex :=
    TripPredictor.tiles_build horizon trip
  obtain ⟨g, hg⟩ : ∃ g, predictor.predict calendar store d = .ok g :=
    TripPredictor.exists_predict store hCutoff hDated
  have hSound : g.prediction.Sound := (TripPredictor.sound_predict hg).prediction
  have hStart := TripPredictor.reaches_predict hTiles hCutoff hg
  have hReaches : Reaches (trip.stops.length - 1) lo (g.prediction.settleAll answers).stops hi :=
    hStart.revised (TripPrediction.revises_settleAll hSound)
  have hTrip : (g.prediction.settleAll answers).trip = trip := by
    rw [TripPrediction.trip_settleAll, TripPredictor.predict_trip (p := predictor) hg]
    rfl
  have hLast : hi ≤ trip.stops.length - 1 := TripPredictor.lastReported_le d cutoff hTiles
  by_cases hStops : trip.stops = []
  · have hNone : (rules.stopUpdates (g.prediction.settleAll answers) seed).1 = [] :=
      stopUpdates_eq_nil seed (hTrip ▸ hStops)
    have hRange : range = [] := by
      show (trip.stops.drop lo).take (hi + 1 - lo) = []
      rw [hStops, List.drop_nil, List.take_nil]
    refine ⟨fun hNonempty => absurd hStops hNonempty, g, hg, ?_⟩
    show (rules.stopUpdates _ seed).1.map _ <+: _ ∧ (_ → (rules.stopUpdates _ seed).1.map _ = _)
    rw [hNone, hRange]
    exact ⟨List.prefix_rfl, fun _ => rfl⟩
  · have hPos : 0 < trip.stops.length := List.length_pos_iff.2 hStops
    have hi_lt : hi < trip.stops.length := by omega
    rw [← hTrip] at hReaches
    have hVisits := visits_stopUpdates rules seed (hTrip ▸ hi_lt) hReaches
    rw [hTrip] at hVisits
    exact ⟨fun _ => ⟨hReaches.le, hi_lt⟩, g, hg, hVisits⟩

/-- A trip of five stops at five minutes' distance, of which those of the first ten minutes are
reported, with the first segment answered and the second still beyond the horizon. -/
theorem gap_free_up_to_the_horizon :
    let predictor := TripPredictor.build .default Sample.engine.models ⟨600000000000⟩ Sample.trip
    Sample.deviation.observedAt.shift? ⟨600000000000⟩ = some (Sample.clock 600) ∧
      predictor.Dated Sample.engine.calendar.zone Sample.deviation ∧
      predictor.firstReported Sample.deviation (Sample.clock 600) = 0 ∧
      predictor.lastReported Sample.deviation (Sample.clock 600) = 2 ∧
      ∃ g, predictor.predict Sample.engine.calendar Sample.engine.transitions Sample.deviation =
          .ok g ∧
        let p := g.prediction.settleAll [(⟨7, 3⟩, 400)]
        (UpdateRules.build ⟨⟨60000000000⟩⟩ p (Sample.clock 0)).1.stops.map StopUpdate.visit =
          (Sample.trip.stops.take 3).map Stop.visit := by
  intro predictor
  have hCutoff : Sample.deviation.observedAt.shift? ⟨600000000000⟩ = some (Sample.clock 600) := by
    decide +kernel
  have hDated : predictor.Dated Sample.engine.calendar.zone Sample.deviation := by
    decide +kernel
  have hFirst : predictor.firstReported Sample.deviation (Sample.clock 600) = 0 := by
    decide +kernel
  have hLast : predictor.lastReported Sample.deviation (Sample.clock 600) = 2 := by
    decide +kernel
  obtain ⟨-, g, hg, -, hVisits⟩ := gap_free .default Sample.engine.models Sample.trip
    Sample.engine.calendar Sample.engine.transitions hCutoff hDated [(⟨7, 3⟩, 400)]
    ⟨⟨60000000000⟩⟩ (Sample.clock 0)
  rw [hFirst, hLast] at hVisits
  have hCompletes : UpdateRules.completes ⟨⟨60000000000⟩⟩
      (g.prediction.settleAll [(⟨7, 3⟩, 400)]) (Sample.clock 0) = true := by
    have hMade := hg.symm.trans (TripPredictor.predict_eq_get (by decide +kernel))
    cases hMade
    decide +kernel
  exact ⟨hCutoff, hDated, hFirst, hLast, g, hg, hVisits hCompletes⟩

end UpdateRules

end TransitForecast
