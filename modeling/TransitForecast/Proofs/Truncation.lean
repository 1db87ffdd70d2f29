import TransitForecast.Proofs.RunningClock

/-!
# TransitForecast — where an update is cut off

A time that is predicted may leave the range of instants: the observed delay may be too long, or a
travel time too long or no number at all. An update then ends before the stop that the time is for.
What it reports until there does not depend on the stop prediction that failed, nor on any later
one, and its clock is the clock after the last stop reported. It is the update of a trip whose end
marker stands in the place of that stop prediction.

## Results

* `Walk.trace_take` — what is reported along some legs does not depend on the legs after them.
* `Walk.step_eq_none_iff` — the two ways for a predicted time to leave the range.
* `UpdateRules.EndsEarly.course_of_take` — what is cut off does not depend on what comes later.
* `UpdateRules.clean_truncation` — where an update is cut off, and what it is then.
-/

namespace TransitForecast

-- ---------------------------------------------------------------------------
-- Walks that do not complete
-- ---------------------------------------------------------------------------

namespace Walk

variable {d : Deviation} {w : WalkState Float} {legs : List (Leg Float)}

/-- What is reported along the first legs does not depend on the legs after them. -/
theorem trace_take (legs : List (Leg Float)) : ∀ {w : WalkState Float} (i : Nat),
    trace d w (legs.take i) = (trace d w legs).take i := by
  induction legs with
  | nil =>
    intro w i
    rw [List.take_nil, trace, List.take_nil]
  | cons leg rest ih =>
    intro w i
    cases i with
    | zero => rfl
    | succ i =>
      rw [List.take_succ_cons, trace, trace]
      cases step d w leg with
      | none => rfl
      | some reported => exact congrArg (reported :: ·) (ih i)

theorem length_trace_le (legs : List (Leg Float)) : ∀ {w : WalkState Float},
    (trace d w legs).length ≤ legs.length := by
  induction legs with
  | nil => exact Nat.le_refl 0
  | cons leg rest ih =>
    intro w
    rw [trace]
    cases step d w leg with
    | none => exact Nat.zero_le _
    | some reported => exact Nat.succ_le_succ ih

/-- The stops of a trace are those of its legs. -/
theorem visits_trace (legs : List (Leg Float)) : ∀ {w : WalkState Float},
    (trace d w legs).map (fun x => x.1.visit) =
      (legs.take (trace d w legs).length).map fun leg => leg.stop.visit := by
  induction legs with
  | nil => exact rfl
  | cons leg rest ih =>
    intro w
    rw [trace]
    cases hStep : step d w leg with
    | none => rfl
    | some reported =>
      obtain ⟨u, next⟩ := reported
      dsimp only
      rw [List.map_cons, ih, visit_step hStep]
      rfl

/-- A walk completes when it reports the stops of all its legs. -/
theorem completes_iff (legs : List (Leg Float)) : ∀ {w : WalkState Float},
    completes d w legs = true ↔ (trace d w legs).length = legs.length := by
  induction legs with
  | nil => exact ⟨fun _ => rfl, fun _ => rfl⟩
  | cons leg rest ih =>
    intro w
    rw [completes, trace]
    cases step d w leg with
    | none => simp
    | some reported => simp [ih]

/-- A walk that does not complete ends before a leg that cannot be taken from where it stands. -/
theorem stuck_of_trace (legs : List (Leg Float)) : ∀ {u : StopUpdate} {w : WalkState Float},
    (trace d w legs).length < legs.length →
      ∃ x leg, ((u, w) :: trace d w legs).getLast? = some x ∧
        legs[(trace d w legs).length]? = some leg ∧ step d x.2 leg = none := by
  induction legs with
  | nil => exact fun h => absurd h (Nat.lt_irrefl 0)
  | cons leg rest ih =>
    intro u w h
    cases hStep : step d w leg with
    | none =>
      rw [trace, hStep]
      exact ⟨(u, w), leg, rfl, rfl, hStep⟩
    | some reported =>
      obtain ⟨v, next⟩ := reported
      rw [trace_cons hStep] at h ⊢
      obtain ⟨x, leg', hLast, hLeg, hStuck⟩ := @ih v next (Nat.lt_of_succ_lt_succ h)
      exact ⟨x, leg', by rw [List.getLast?_cons_cons, hLast], hLeg, hStuck⟩

/-- Whether the time that is predicted along a leg leaves the range of instants: the observed delay
of a passed stop, or the seconds to a stop ahead. -/
def Leaves (d : Deviation) (w : WalkState Float) (leg : Leg Float) : Prop :=
  match leg.way with
  | .passed => leg.stop.arrival.shiftSeconds? d.delay = none
  | .here _ => False
  | .ahead seconds left _ =>
    w.clock.shiftSeconds? (Travel.advance w.carried seconds left).1 = none

/-- A leg cannot be taken just when its predicted time leaves the range. -/
theorem step_eq_none_iff {leg : Leg Float} : step d w leg = none ↔ Leaves d w leg := by
  unfold step Leaves
  cases leg.way with
  | passed => exact Option.map_eq_none_iff
  | here bound => simp
  | ahead seconds left bound => exact Option.map_eq_none_iff

end Walk

-- ---------------------------------------------------------------------------
-- Legs and openings of other stop predictions
-- ---------------------------------------------------------------------------

/-- The same opening with another source to show. -/
def Opening.showing (source : Source) : Opening → Opening
  | .passed s _ => .passed s source
  | .origin s _ status => .origin s source status
  | o => o

/-- The same update with another source shown for its first stop. -/
def TripUpdate.showing (source : Source) (u : TripUpdate) : TripUpdate :=
  { u with stops := u.stops.modifyHead fun v => { v with source := source } }

/-- The same prediction with an end marker in the place of one of its stop predictions. -/
def TripPrediction.endAt (p : TripPrediction) (i : Nat) : TripPrediction :=
  { p with stops := p.stops.modify i fun z => .ending z.origin }

namespace UpdateRules

variable {rules : UpdateRules} {p : TripPrediction} {seed : Instant} {d : Deviation}
  {stops : List Stop} {w n : WalkState Float} {u : StopUpdate}

/-- The first legs are those of the first stop predictions, whatever comes after these. -/
theorem legs_take_append (rules : UpdateRules) {xs : List StopPrediction} :
    ∀ {i : Nat} (zs : List StopPrediction), i ≤ (rules.legs d stops xs).length →
      rules.legs d stops (xs.take i ++ zs) =
        (rules.legs d stops xs).take i ++ rules.legs d stops zs := by
  induction xs with
  | nil =>
    intro i zs h
    obtain rfl : i = 0 := Nat.le_zero.1 h
    rfl
  | cons x rest ih =>
    intro i zs h
    cases i with
    | zero => rfl
    | succ i =>
      rw [List.take_succ_cons, List.cons_append, legs, legs]
      rw [legs] at h
      split
      · rw [if_pos ‹_›] at h
        cases h
      · rw [if_neg ‹_›] at h
        split
        · rename_i origin target hOrigin hTarget
          rw [hOrigin, hTarget] at h
          rw [List.take_succ_cons, List.cons_append, ih zs (Nat.le_of_succ_le_succ h)]
        · rename_i hOutside
          split at h
          · rename_i origin target hOrigin hTarget
            exact absurd hTarget (hOutside origin target hOrigin)
          · cases h

/-- An end marker ends the legs. -/
theorem legs_endAt {i : Nat} {xs : List StopPrediction} {f : StopPrediction → Nat}
    (h : i < (rules.legs d stops xs).length) (hi : i < xs.length) :
    rules.legs d stops (xs.modify i fun z => .ending (f z)) = (rules.legs d stops xs).take i := by
  rw [List.modify_eq_take_cons_drop hi, legs_take_append rules _ (Nat.le_of_lt h)]
  exact List.append_nil _

/-- An update opens by the first of its stop predictions alone. -/
theorem opening_congr {xs ys : List StopPrediction} (h : xs.head? = ys.head?) :
    opening d stops xs = opening d stops ys := by
  rw [opening, opening, h]

/-- An end marker in the place of a later stop prediction leaves the opening as it is. -/
theorem opening_endAt {i : Nat} (h : 0 < i) (xs : List StopPrediction) (f : StopPrediction → Nat) :
    opening d stops (xs.modify i fun z => .ending (f z)) = opening d stops xs := by
  refine opening_congr ?_
  rw [List.head?_eq_getElem?, List.head?_eq_getElem?, List.getElem?_modify]
  simp [Nat.ne_of_gt h]

/-- An end marker in the place of the first stop prediction shows its own source. -/
theorem opening_endAt_zero (xs : List StopPrediction) :
    opening d stops (xs.modify 0 fun z => .ending z.origin) =
      (opening d stops xs).showing .endOfPredictions := by
  cases xs with
  | nil =>
    show opening d stops [] = _
    unfold opening
    dsimp only [List.head?_nil]
    cases stops.getLast? with
    | none => rfl
    | some s => rfl
  | cons z rest =>
    show opening d stops (.ending z.origin :: rest) = _
    unfold opening
    dsimp only [List.head?_cons, StopPrediction.ending]
    split
    · cases stops.head? with
      | none => rfl
      | some s =>
        dsimp only
        cases disposition d s <;> rfl
    · cases stops[z.origin]? with
      | none => rfl
      | some s => rfl

/-- An update opens with a passed stop just when its stop predictions start at the first stop, and
that is passed. -/
theorem opening_eq_passed_iff {xs : List StopPrediction} {s : Stop} {source : Source} :
    opening d stops xs = .passed s source ↔ ∃ z, xs.head? = some z ∧ z.origin = 0 ∧
      z.source = source ∧ stops.head? = some s ∧ disposition d s = .past := by
  have hAssumed : ∀ o : Option Stop, o.elim .nothing .assumed ≠ Opening.passed s source := by
    intro o
    cases o <;> nofun
  unfold opening
  constructor
  · intro h
    split at h
    · exact absurd h (hAssumed _)
    · rename_i z hHead
      split at h
      · split at h
        · cases h
        · split at h
          · cases h
            exact ⟨z, hHead, ‹_›, rfl, ‹_›, ‹_›⟩
          · cases h
      · exact absurd h (hAssumed _)
  · rintro ⟨z, hHead, hOrigin, rfl, hFirst, hPast⟩
    rw [hHead, hFirst]
    dsimp only
    rw [if_pos hOrigin, hPast]

/-- Only a first stop that is passed may fail to open an update, by the observed delay. -/
theorem openWalk_eq_none_iff {o : Opening} : openWalk d w o = none ↔
    ∃ s source, o = .passed s source ∧ s.arrival.shiftSeconds? d.delay = none := by
  cases o with
  | nothing => simp [openWalk]
  | assumed s => simp [openWalk]
  | origin s source status => simp [openWalk]
  | passed s source => simp [openWalk, Walk.observed]

/-- An opening with another source to show does the same to the walk. -/
theorem openWalk_showing (source : Source) {o : Opening} (h : openWalk d w o = some ([u], n)) :
    ∃ v, openWalk d w (o.showing source) = some ([v], n) ∧ { v with source := u.source } = u := by
  cases o with
  | nothing => cases h
  | assumed s =>
    cases h
    exact ⟨_, rfl, rfl⟩
  | passed s shown =>
    obtain ⟨⟨v, next⟩, hObserved, hEq⟩ := Option.map_eq_some_iff.1 h
    obtain ⟨predicted, hShift, hMade⟩ := Option.map_eq_some_iff.1 hObserved
    cases hEq
    cases hMade
    refine ⟨.arrival s predicted source .past, ?_, rfl⟩
    simp only [Opening.showing, openWalk, Walk.observed, hShift, Option.map_some]
  | origin s shown status =>
    rw [openWalk_origin] at h
    obtain ⟨hReported, rfl⟩ := Prod.mk.inj (Option.some.inj h)
    obtain ⟨rfl, -⟩ := List.cons.inj hReported
    unfold Opening.showing
    dsimp only
    rw [openWalk_origin]
    unfold Walk.origin
    dsimp only
    split
    · exact ⟨_, rfl, rfl⟩
    · exact ⟨_, rfl, rfl⟩

-- ---------------------------------------------------------------------------
-- Updates that are cut off
-- ---------------------------------------------------------------------------

/-- An update is what its observation tells with the stops of its course. -/
theorem build_eq (rules : UpdateRules) (p : TripPrediction) (seed : Instant) :
    rules.build p seed =
      (⟨p.deviation.trip, p.deviation.route, p.deviation.vehicle, p.deviation.dataSet,
          p.deviation.observedAt, (rules.course p seed).map Prod.fst⟩,
        ((rules.course p seed).getLast?.map fun x => x.2.clock).getD seed) := by
  obtain ⟨hStops, hClock⟩ := build_eq_course rules p seed
  rw [← hStops, ← hClock]
  rfl

/-- An update that is not cut off reports the stop that opens it and those of all its legs. -/
theorem visits_of_completes (h : rules.completes p seed = true) :
    (rules.course p seed).map (fun x => x.1.visit) =
      ((opening p.deviation p.trip.stops p.stops).stop?.toList ++
        (rules.legs p.deviation p.trip.stops p.stops).map Leg.stop).map Stop.visit := by
  obtain ⟨first, n, hOpen, hRest⟩ := openWalk_of_completes h
  unfold course
  rw [hOpen]
  dsimp only
  rw [List.map_append, List.map_append, ← visits_openWalk hOpen, Walk.visits_trace,
    (Walk.completes_iff _).1 hRest, List.take_length, List.map_map, List.map_map]
  rfl

/-- The course of an update that opens with a stop. -/
theorem course_of_openWalk
    (h : openWalk p.deviation ⟨seed, Measure.zero⟩ (opening p.deviation p.trip.stops p.stops) =
      some ([u], n)) : rules.course p seed =
    (u, n) :: Walk.trace p.deviation n (rules.legs p.deviation p.trip.stops p.stops) := by
  rw [course, h]
  rfl

/-- A walk that opens an update with a stop, stands somewhere then, and ends before the leg at some
position. -/
structure EndsEarly (rules : UpdateRules) (p : TripPrediction) (seed : Instant) (u : StopUpdate)
    (n : WalkState Float) (i : Nat) : Prop where
  opens : openWalk p.deviation ⟨seed, Measure.zero⟩ (opening p.deviation p.trip.stops p.stops) =
    some ([u], n)
  length_eq : (Walk.trace p.deviation n (rules.legs p.deviation p.trip.stops p.stops)).length = i
  lt : i < (rules.legs p.deviation p.trip.stops p.stops).length

/-- An update is cut off at the first stop, or before a leg that cannot be taken. -/
theorem cut_cases (h : rules.completes p seed = false) :
    (∃ s source, opening p.deviation p.trip.stops p.stops = .passed s source ∧
      s.arrival.shiftSeconds? p.deviation.delay = none) ∨
    ∃ u n i, rules.EndsEarly p seed u n i := by
  unfold completes at h
  cases hOpen : openWalk p.deviation ⟨seed, Measure.zero⟩
      (opening p.deviation p.trip.stops p.stops) with
  | none => exact .inl (openWalk_eq_none_iff.1 hOpen)
  | some opened =>
    obtain ⟨first, n⟩ := opened
    rw [hOpen] at h
    have hShort : (Walk.trace p.deviation n
        (rules.legs p.deviation p.trip.stops p.stops)).length <
          (rules.legs p.deviation p.trip.stops p.stops).length := by
      refine Nat.lt_of_le_of_ne (Walk.length_trace_le _) fun hAll => ?_
      exact Bool.false_ne_true (h.symm.trans ((Walk.completes_iff _).2 hAll))
    rcases reported_openWalk hOpen with ⟨hNothing, -⟩ | ⟨u, rfl⟩
    · rw [legs_eq_nil hNothing] at hShort
      cases hShort
    · exact .inr ⟨u, n, _, hOpen, rfl, hShort⟩

namespace EndsEarly

variable {i : Nat}

/-- What is reported up to where a walk ends does not depend on the leg there nor on later ones. -/
theorem trace_legs_take (h : rules.EndsEarly p seed u n i) :
    Walk.trace p.deviation n ((rules.legs p.deviation p.trip.stops p.stops).take i) =
      Walk.trace p.deviation n (rules.legs p.deviation p.trip.stops p.stops) := by
  rw [Walk.trace_take, ← h.length_eq, List.take_length]

/-- An update that is cut off does not depend on the stop prediction at which it is, nor on any
later one, save that the first may tell where the update opens. -/
theorem course_of_take (h : rules.EndsEarly p seed u n i) {xs : List StopPrediction}
    (hTake : xs.take i = p.stops.take i)
    (hOpening : opening p.deviation p.trip.stops xs = opening p.deviation p.trip.stops p.stops) :
    (rules.course { p with stops := xs } seed).take (i + 1) = rules.course p seed := by
  have hLegs := legs_take_append rules (xs.drop i) (Nat.le_of_lt h.lt)
  rw [← hTake, List.take_append_drop] at hLegs
  have hFirst : ((rules.legs p.deviation p.trip.stops p.stops).take i).length = i :=
    List.length_take_of_le (Nat.le_of_lt h.lt)
  rw [course_of_openWalk (p := { p with stops := xs }) ((congrArg _ hOpening).trans h.opens),
    course_of_openWalk h.opens, List.take_succ_cons, ← Walk.trace_take]
  dsimp only
  rw [hLegs, List.take_left' hFirst, h.trace_legs_take]

/-- An end marker in the place of the stop prediction at which an update is cut off changes nothing
about its course, save the source that the first stop shows when it is that of the marker. -/
theorem course_endAt (h : rules.EndsEarly p seed u n i) (hi : i < p.stops.length) :
    ∃ v, rules.course (p.endAt i) seed =
        (v, n) :: Walk.trace p.deviation n (rules.legs p.deviation p.trip.stops p.stops) ∧
      { v with source := u.source } = u ∧ (0 < i → v = u) := by
  obtain ⟨v, hOpen, hShown, hSame⟩ : ∃ v, openWalk p.deviation ⟨seed, Measure.zero⟩
      (opening p.deviation p.trip.stops (p.endAt i).stops) = some ([v], n) ∧
        { v with source := u.source } = u ∧ (0 < i → v = u) := by
    have hOpens := h.opens
    cases i with
    | zero =>
      obtain ⟨v, hOpen, hShown⟩ := openWalk_showing .endOfPredictions hOpens
      rw [← opening_endAt_zero] at hOpen
      exact ⟨v, hOpen, hShown, fun hPos => absurd hPos (Nat.lt_irrefl 0)⟩
    | succ i =>
      rw [← opening_endAt (Nat.succ_pos i) p.stops StopPrediction.origin] at hOpens
      exact ⟨u, hOpens, rfl, fun _ => rfl⟩
  have hLegs : rules.legs p.deviation p.trip.stops (p.endAt i).stops =
      (rules.legs p.deviation p.trip.stops p.stops).take i := legs_endAt h.lt hi
  refine ⟨v, ?_, hShown, hSame⟩
  rw [← h.trace_legs_take, ← hLegs]
  exact course_of_openWalk (p := p.endAt i) hOpen

end EndsEarly

/-- An update that is cut off at one of the stop predictions of its trip. -/
structure CutOff (rules : UpdateRules) (p : TripPrediction) (seed : Instant) (i : Nat) : Prop where
  /-- The time that is predicted for the next stop from the last one reported leaves the range. The
  clock is the one after the last stop reported. -/
  leaves : ∃ x z a b, (rules.course p seed).getLast? = some x ∧ p.stops[i]? = some z ∧
    p.trip.stops[z.origin]? = some a ∧ p.trip.stops[z.target]? = some b ∧
    Walk.Leaves p.deviation x.2 (rules.leg p.deviation a b z) ∧
    (rules.build p seed).2 = x.2.clock
  length_eq : (rules.build p seed).1.stops.length = i + 1
  /-- What is reported are the stop that opens the update and those of the legs before. -/
  visits : (rules.build p seed).1.stops.map StopUpdate.visit =
    ((opening p.deviation p.trip.stops p.stops).stop?.toList ++
      ((rules.legs p.deviation p.trip.stops p.stops).take i).map Leg.stop).map Stop.visit
  /-- It does not depend on the stop predictions from there on, provided that the update opens
  alike. -/
  unaffected : ∀ xs, xs.take i = p.stops.take i →
    opening p.deviation p.trip.stops xs = opening p.deviation p.trip.stops p.stops →
      (rules.course { p with stops := xs } seed).take (i + 1) = rules.course p seed
  /-- An end marker in that place makes the same update with the same clock, save that it shows its
  own source at the first stop when that is where it stands. -/
  ended : 0 < i → rules.build (p.endAt i) seed = rules.build p seed
  shown : ∃ u, (rules.build p seed).1.stops.head? = some u ∧
    (rules.build (p.endAt i) seed).1.showing u.source = (rules.build p seed).1 ∧
    (rules.build (p.endAt i) seed).2 = (rules.build p seed).2

/-- A walk that ends before a leg cuts its update off there. -/
theorem EndsEarly.cutOff {i : Nat} (h : rules.EndsEarly p seed u n i) : rules.CutOff p seed i := by
  have hCourse : rules.course p seed = _ := course_of_openWalk h.opens
  obtain ⟨x, leg, hLast, hLeg, hStuck⟩ := Walk.stuck_of_trace (d := p.deviation) (u := u) (w := n)
    (rules.legs p.deviation p.trip.stops p.stops) (h.length_eq.symm ▸ h.lt)
  rw [h.length_eq] at hLeg
  rw [← hCourse] at hLast
  obtain ⟨z, a, b, hz, ha, hb, rfl⟩ := getElem?_legs _ hLeg
  obtain ⟨v, hEnded, hShown, hSame⟩ := h.course_endAt (List.getElem?_eq_some_iff.1 hz).1
  have hVisits : (rules.build p seed).1.stops.map StopUpdate.visit = u.visit ::
      (Walk.trace p.deviation n (rules.legs p.deviation p.trip.stops p.stops)).map
        fun x => x.1.visit := by
    rw [build_eq, hCourse, List.map_map]
    rfl
  have hClock : (rules.build (p.endAt i) seed).2 = (rules.build p seed).2 := by
    rw [build_eq, build_eq, hEnded, hCourse]
    cases Walk.trace p.deviation n (rules.legs p.deviation p.trip.stops p.stops) with
    | nil => rfl
    | cons y rest => rw [List.getLast?_cons_cons, List.getLast?_cons_cons]
  refine ⟨⟨x, z, a, b, hLast, hz, ha, hb, Walk.step_eq_none_iff.1 hStuck, ?_⟩, ?_, ?_,
    fun xs => h.course_of_take, fun hPos => ?_, u, ?_, ?_, hClock⟩
  · rw [build_eq, hLast]
    rfl
  · rw [build_eq, hCourse, List.length_map, List.length_cons, h.length_eq]
  · rw [hVisits, Walk.visits_trace, h.length_eq, List.map_append, List.map_map,
      ← visits_openWalk h.opens]
    rfl
  · rw [build_eq, build_eq, hEnded, hCourse, hSame hPos]
    rfl
  · rw [build_eq, hCourse]
    rfl
  · rw [build_eq, build_eq, hEnded, hCourse, TripUpdate.showing]
    dsimp only
    rw [List.map_cons, List.modifyHead_cons, List.map_cons, hShown]
    rfl

/-- When the observed delay of the first stop leaves the range, the update is empty, whatever is
predicted from that stop on. -/
theorem build_of_passed (rules : UpdateRules) (seed : Instant) {s : Stop} {source : Source}
    (hPassed : opening p.deviation p.trip.stops p.stops = .passed s source)
    (hShift : s.arrival.shiftSeconds? p.deviation.delay = none) {xs : List StopPrediction}
    {z : StopPrediction} (hHead : xs.head? = some z) (hOrigin : z.origin = 0) :
    rules.build { p with stops := xs } seed = rules.build p seed ∧
      (rules.build p seed).1.stops = [] ∧ (rules.build p seed).2 = seed := by
  have hEmpty : ∀ {ys shown}, opening p.deviation p.trip.stops ys = .passed s shown →
      rules.course { p with stops := ys } seed = [] := by
    intro ys shown h
    have hStuck := openWalk_eq_none_iff (w := ⟨seed, Measure.zero⟩).2 ⟨s, shown, h, hShift⟩
    unfold course
    dsimp only
    rw [hStuck]
  obtain ⟨-, -, -, -, hFirst, hPast⟩ := opening_eq_passed_iff.1 hPassed
  have hAlike := hEmpty (opening_eq_passed_iff.2 ⟨z, hHead, hOrigin, rfl, hFirst, hPast⟩)
  have hNone : rules.course p seed = [] := hEmpty hPassed
  rw [build_eq, build_eq, hAlike, hNone]
  exact ⟨rfl, rfl, rfl⟩

/-- Where an update is cut off. There always is an update. It tells the stops of its course, and its
clock is the one after the last of them. If no predicted time leaves the range of instants, its
course has all the legs. If one does, either the update is cut off at the first stop of the trip,
whose observed delay is too long, and it is empty and leaves the clock where it was; or it is cut
off at one of the stop predictions. Both ways an end marker in the place of the stop prediction
leaves the clock to the later trips that the update itself leaves to them. -/
theorem clean_truncation (rules : UpdateRules) (p : TripPrediction) (seed : Instant) :
    let course := rules.course p seed
    let built := rules.build p seed
    let first := opening p.deviation p.trip.stops p.stops
    let legs := rules.legs p.deviation p.trip.stops p.stops
    built.1.stops = course.map Prod.fst ∧
    built.2 = (course.getLast?.map fun x => x.2.clock).getD seed ∧
    (rules.completes p seed = true →
      course.map (fun x => x.1.visit) = (first.stop?.toList ++ legs.map Leg.stop).map Stop.visit) ∧
    (rules.completes p seed = false →
      (∃ s source, first = .passed s source ∧
        s.arrival.shiftSeconds? p.deviation.delay = none ∧ built.1.stops = [] ∧ built.2 = seed ∧
        (∀ xs z, xs.head? = some z → z.origin = 0 →
          rules.build { p with stops := xs } seed = built) ∧
        rules.build (p.endAt 0) seed = built ∧
        ∀ later, (rules.buildFrom (some seed) (p.endAt 0 :: later)).tail =
          (rules.buildFrom (some seed) (p :: later)).tail) ∨
      ∃ i, rules.CutOff p seed i ∧
        ∀ later, (rules.buildFrom (some seed) (p.endAt i :: later)).tail =
          (rules.buildFrom (some seed) (p :: later)).tail) := by
  intro course built first legs
  have hTail : ∀ i, (rules.build (p.endAt i) seed).2 = built.2 → ∀ later,
      (rules.buildFrom (some seed) (p.endAt i :: later)).tail =
        (rules.buildFrom (some seed) (p :: later)).tail := by
    intro i hClock later
    show rules.buildFrom (some (rules.build (p.endAt i) seed).2) later =
      rules.buildFrom (some built.2) later
    rw [hClock]
  refine ⟨(build_eq_course rules p seed).1, (build_eq_course rules p seed).2, visits_of_completes,
    fun hCut => ?_⟩
  rcases cut_cases hCut with ⟨s, source, hPassed, hShift⟩ | ⟨u, n, i, hEnds⟩
  · obtain ⟨z, hHead, hOrigin, -⟩ := opening_eq_passed_iff.1 hPassed
    have hAlike : ∀ xs z, xs.head? = some z → z.origin = 0 →
        rules.build { p with stops := xs } seed = built :=
      fun _ _ hHead hOrigin => (build_of_passed rules seed hPassed hShift hHead hOrigin).1
    have hEnded : rules.build (p.endAt 0) seed = built := by
      refine hAlike _ (.ending z.origin) ?_ hOrigin
      rw [List.head?_eq_getElem?, List.getElem?_modify, ← List.head?_eq_getElem?, hHead]
      rfl
    obtain ⟨-, hNone, hClock⟩ := build_of_passed rules seed hPassed hShift hHead hOrigin
    exact .inl ⟨s, source, hPassed, hShift, hNone, hClock, hAlike, hEnded,
      hTail 0 (congrArg Prod.snd hEnded)⟩
  · obtain ⟨-, -, -, hClock⟩ := hEnds.cutOff.shown
    exact .inr ⟨i, hEnds.cutOff, hTail i hClock⟩

end UpdateRules

namespace Sample

/-- Predictions whose second travel time is longer than there are instants. -/
def endless : TripPrediction := ⟨deviation, waiting, [⟨0, 1, 300, .schedule, true⟩,
  ⟨1, 2, 1e18, .stopModel, true⟩], .empty⟩

end Sample

namespace UpdateRules

/-- An update that is cut off before its third stop, with the clock at the second one. An end marker
there makes the same update. -/
theorem clean_truncation_at_the_third_stop :
    let rules : UpdateRules := ⟨⟨60000000000⟩⟩
    (rules.build Sample.endless (Sample.clock 0)).1.stops.map
        (fun u => (u.stop, u.predictedArrival)) = [("A", Sample.clock 0), ("B", Sample.clock 300)] ∧
      (rules.build Sample.endless (Sample.clock 0)).2 = Sample.clock 300 ∧
      rules.CutOff Sample.endless (Sample.clock 0) 1 ∧
      rules.build (Sample.endless.endAt 1) (Sample.clock 0) =
        rules.build Sample.endless (Sample.clock 0) := by
  intro rules
  have hReported : (rules.build Sample.endless (Sample.clock 0)).1.stops.map
      (fun u => (u.stop, u.predictedArrival)) =
        [("A", Sample.clock 0), ("B", Sample.clock 300)] := by decide +kernel
  have hCompletes : rules.completes Sample.endless (Sample.clock 0) = false := by decide +kernel
  obtain ⟨-, -, -, hCut⟩ := clean_truncation rules Sample.endless (Sample.clock 0)
  rcases hCut hCompletes with ⟨s, source, -, -, hNone, -⟩ | ⟨i, hCutOff, -⟩
  · rw [hNone] at hReported
    cases hReported
  · have hLength := congrArg List.length hReported
    rw [List.length_map, hCutOff.length_eq] at hLength
    obtain rfl : i = 1 := Nat.succ.inj hLength
    exact ⟨hReported, by decide +kernel, hCutOff, hCutOff.ended (by decide)⟩

end UpdateRules

end TransitForecast
