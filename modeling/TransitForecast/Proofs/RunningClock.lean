import TransitForecast.Proofs.Succession

/-!
# TransitForecast — the running clock

An update is a course: one stop after the other is reported, and after each the walk stands at some
clock. The stop that opens the update and the stops that are passed or ahead only move the clock on;
a stop that the vehicle is at sets it to the observation, or at a timepoint to the earliest arrival
there if that is later. From the first reported stop on the clock never shows a time before the
observation, whatever travel times are predicted.

## Results

* `Instant.le_shiftSeconds?` — moving on by seconds is never a move back.
* `UpdateRules.build_eq_course` — an update and its clock are read off the course.
* `UpdateRules.step_of_course` — how the course goes from one stop to the next.
* `UpdateRules.running_clock` — what each stop does to the clock.
-/

namespace TransitForecast

-- ---------------------------------------------------------------------------
-- Moving on
-- ---------------------------------------------------------------------------

theorem Span.nanos_of_ofSeconds? {seconds : Int} {span : Span}
    (h : ofSeconds? seconds = some span) : span.nanos = seconds * 1000000000 := by
  unfold ofSeconds? at h
  split at h
  · cases h
    rfl
  · cases h

/-- Moving on by whole seconds is never a move back, not even out of a leap second. -/
theorem Instant.le_shiftSeconds? {t u : Instant} {seconds : Nat}
    (h : t.shiftSeconds? seconds = some u) : t ≤ u := by
  obtain ⟨span, hSpan, hShift⟩ := Option.bind_eq_some_iff.1 h
  have hNanos := Span.nanos_of_ofSeconds? hSpan
  have hCases := shift?_cases hShift
  have hRoom := t.nanos_lt
  show ¬ precedes u t
  unfold precedes
  simp only [isLeap, decide_eq_true_eq, decide_eq_false_iff_not, position, nanosPerSecond] at hCases
  omega

-- ---------------------------------------------------------------------------
-- The course of a walk
-- ---------------------------------------------------------------------------

namespace Walk

variable {d : Deviation} {w : WalkState Float}

theorem le_notBefore (t : Instant) (bound : Option Instant) : t ≤ notBefore t bound := by
  cases bound with
  | none => exact Instant.le_refl t
  | some b =>
    rw [notBefore_some]
    exact Instant.le_max_right b t

/-- Walks legs in order, and tells after each reported stop where the walk stands. -/
def trace (d : Deviation) (w : WalkState Float) :
    List (Leg Float) → List (StopUpdate × WalkState Float)
  | [] => []
  | leg :: rest =>
    match step d w leg with
    | none => []
    | some (update, next) => (update, next) :: trace d next rest

theorem trace_cons {leg : Leg Float} {rest : List (Leg Float)} {u : StopUpdate}
    {next : WalkState Float} (h : step d w leg = some (u, next)) :
    trace d w (leg :: rest) = (u, next) :: trace d next rest := by
  rw [trace, h]

/-- A walk reports the stops of its trace, and ends where that does. -/
theorem run_eq_trace (legs : List (Leg Float)) : ∀ {w : WalkState Float},
    run d w legs =
      ((trace d w legs).map Prod.fst, ((trace d w legs).getLast?.map Prod.snd).getD w) := by
  induction legs with
  | nil => exact rfl
  | cons leg rest ih =>
    intro w
    cases hStep : step d w leg with
    | none =>
      rw [run, trace, hStep]
      rfl
    | some reported =>
      obtain ⟨u, next⟩ := reported
      rw [run_cons hStep, ih, trace_cons hStep, List.getLast?_cons, Option.map_some,
        Option.getD_some, Option.getD_map Prod.snd (u, next)]
      rfl

/-- Each element of a trace is a step from where the walk stood before. -/
theorem step_of_trace (legs : List (Leg Float)) : ∀ {u : StopUpdate} {w : WalkState Float} {i : Nat}
    {x y : StopUpdate × WalkState Float}, ((u, w) :: trace d w legs)[i]? = some x →
      (trace d w legs)[i]? = some y → ∃ leg, legs[i]? = some leg ∧ step d x.2 leg = some y := by
  induction legs with
  | nil =>
    intro u w i x y _ hy
    cases hy
  | cons leg rest ih =>
    intro u w i x y hx hy
    cases hStep : step d w leg with
    | none =>
      rw [trace, hStep] at hy
      cases hy
    | some reported =>
      obtain ⟨v, next⟩ := reported
      rw [trace_cons hStep] at hx hy
      cases i with
      | zero =>
        cases hx
        cases hy
        exact ⟨leg, rfl, hStep⟩
      | succ i => exact ih hx hy

end Walk

-- ---------------------------------------------------------------------------
-- The course of an update
-- ---------------------------------------------------------------------------

namespace UpdateRules

variable {rules : UpdateRules} {p : TripPrediction} {seed : Instant}

/-- The stops that an update reports, each with where the walk stands after it. -/
def course (rules : UpdateRules) (p : TripPrediction) (seed : Instant) :
    List (StopUpdate × WalkState Float) :=
  match openWalk p.deviation ⟨seed, Measure.zero⟩
      (opening p.deviation p.trip.stops p.stops) with
  | none => []
  | some (first, w) =>
    first.map (fun u => (u, w)) ++
      Walk.trace p.deviation w (rules.legs p.deviation p.trip.stops p.stops)

/-- A course that reports a stop opens with one, and goes on along the legs. -/
theorem course_cases (rules : UpdateRules) (p : TripPrediction) (seed : Instant) :
    (rules.course p seed = [] ∧ rules.stopUpdates p seed = ([], seed)) ∨
    ∃ u w, openWalk p.deviation ⟨seed, Measure.zero⟩ (opening p.deviation p.trip.stops p.stops) =
        some ([u], w) ∧
      rules.course p seed =
        (u, w) :: Walk.trace p.deviation w (rules.legs p.deviation p.trip.stops p.stops) := by
  unfold course
  cases hOpen : openWalk p.deviation ⟨seed, Measure.zero⟩
      (opening p.deviation p.trip.stops p.stops) with
  | none =>
    refine .inl ⟨rfl, ?_⟩
    unfold stopUpdates
    dsimp only
    rw [hOpen]
  | some opened =>
    obtain ⟨first, w⟩ := opened
    rcases reported_openWalk hOpen with ⟨hNothing, rfl⟩ | ⟨u, rfl⟩
    · refine .inl ?_
      rw [stopUpdates_of_openWalk hOpen, legs_eq_nil hNothing]
      rw [hNothing] at hOpen
      cases hOpen
      exact ⟨rfl, rfl⟩
    · exact .inr ⟨u, w, rfl, rfl⟩

/-- An update reports the stops of its course, and its clock ends where that does. -/
theorem build_eq_course (rules : UpdateRules) (p : TripPrediction) (seed : Instant) :
    (rules.build p seed).1.stops = (rules.course p seed).map Prod.fst ∧
      (rules.build p seed).2 =
        ((rules.course p seed).getLast?.map fun x => x.2.clock).getD seed := by
  have hStops : (rules.build p seed).1.stops = (rules.stopUpdates p seed).1 := rfl
  have hClock : (rules.build p seed).2 = (rules.stopUpdates p seed).2 := rfl
  rw [hStops, hClock]
  rcases course_cases rules p seed with ⟨hCourse, hUpdates⟩ | ⟨u, w, hOpen, hCourse⟩
  · rw [hCourse, hUpdates]
    exact ⟨rfl, rfl⟩
  · rw [stopUpdates_of_openWalk hOpen, Walk.run_eq_trace, hCourse]
    refine ⟨rfl, ?_⟩
    cases Walk.trace p.deviation w (rules.legs p.deviation p.trip.stops p.stops) with
    | nil => rfl
    | cons x more =>
      rw [List.getLast?_cons_cons, List.getLast?_eq_some_getLast (List.cons_ne_nil x more)]
      rfl

/-- A leg is that of a stop prediction between two stops of the trip. -/
theorem getElem?_legs {d : Deviation} {stops : List Stop} (xs : List StopPrediction) :
    ∀ {i : Nat} {leg : Leg Float}, (rules.legs d stops xs)[i]? = some leg →
      ∃ x a b, xs[i]? = some x ∧ stops[x.origin]? = some a ∧ stops[x.target]? = some b ∧
        leg = rules.leg d a b x := by
  induction xs with
  | nil =>
    intro i leg h
    cases h
  | cons x rest ih =>
    intro i leg h
    rw [legs] at h
    split at h
    · cases h
    · split at h
      · rename_i a b ha hb
        cases i with
        | zero =>
          cases h
          exact ⟨x, a, b, rfl, ha, hb, rfl⟩
        | succ i => exact ih h
      · cases h

/-- From one reported stop to the next the course follows a stop prediction. -/
theorem step_of_course {i : Nat} {x y : StopUpdate × WalkState Float}
    (hx : (rules.course p seed)[i]? = some x) (hy : (rules.course p seed)[i + 1]? = some y) :
    ∃ z a b, p.stops[i]? = some z ∧ p.trip.stops[z.origin]? = some a ∧
      p.trip.stops[z.target]? = some b ∧
      (rules.legs p.deviation p.trip.stops p.stops)[i]? = some (rules.leg p.deviation a b z) ∧
      Walk.step p.deviation x.2 (rules.leg p.deviation a b z) = some y := by
  rcases course_cases rules p seed with ⟨hCourse, -⟩ | ⟨u, w, -, hCourse⟩
  · rw [hCourse] at hx
    cases hx
  · rw [hCourse] at hx hy
    obtain ⟨leg, hLeg, hStep⟩ := Walk.step_of_trace _ hx hy
    obtain ⟨z, a, b, hz, ha, hb, rfl⟩ := getElem?_legs _ hLeg
    exact ⟨z, a, b, hz, ha, hb, hLeg, hStep⟩

-- ---------------------------------------------------------------------------
-- What a stop does to the clock
-- ---------------------------------------------------------------------------

/-- The earliest arrival at a reported stop that the limit on leaving early allows. -/
def earliest (rules : UpdateRules) (u : StopUpdate) : Instant :=
  (u.scheduledArrival.shift? rules.earlyLimit.neg).getD u.scheduledArrival

theorem earliest_eq {u : StopUpdate} {s : Stop} (h : u.visit = s.visit) :
    rules.earliest u = rules.earliestArrival s := by
  have hArrival : u.scheduledArrival = s.arrival := congrArg (fun v => v.2.2.1) h
  rw [earliest, hArrival, earliestArrival]

/-- The three ways from one stop to the next. -/
theorem step_leg_cases {d : Deviation} {w : WalkState Float} {a b : Stop} {z : StopPrediction}
    {y : StopUpdate × WalkState Float} (h : Walk.step d w (rules.leg d a b z) = some y) :
    (disposition d b = .past ∧ ∃ predicted, b.arrival.shiftSeconds? d.delay = some predicted ∧
      y = (.arrival b predicted z.source .past, ⟨w.clock.max d.observedAt, Measure.zero⟩)) ∨
    (disposition d b = .here ∧ ∃ predicted,
      predicted = Walk.notBefore d.observedAt
        (if b.timepoint then some (rules.earliestArrival b) else none) ∧
      y = (.arrival b predicted z.source .here, ⟨predicted, Measure.zero⟩)) ∨
    (disposition d b = .future ∧ ∃ reached predicted,
      w.clock.shiftSeconds? (Travel.advance w.carried z.seconds (partLeft d a b)).1 =
        some reached ∧
      predicted = Walk.notBefore reached
        (if a.timepoint ∧ disposition d a ≠ .past then some (rules.earliestArrival b) else none) ∧
      y = (.arrival b predicted z.source .future,
        ⟨predicted, (Travel.advance w.carried z.seconds (partLeft d a b)).2⟩)) := by
  unfold leg Walk.step at h
  cases hPlace : disposition d b with
  | past =>
    rw [hPlace] at h
    obtain ⟨predicted, hShift, hEq⟩ := Option.map_eq_some_iff.1 h
    exact .inl ⟨rfl, predicted, hShift, hEq.symm⟩
  | here =>
    rw [hPlace] at h
    exact .inr (.inl ⟨rfl, _, rfl, (Option.some.inj h).symm⟩)
  | future =>
    rw [hPlace] at h
    obtain ⟨reached, hShift, hEq⟩ := Option.map_eq_some_iff.1 h
    exact .inr (.inr ⟨rfl, reached, _, hShift, rfl, hEq.symm⟩)

/-- A step reports its stop, where the vehicle finds it. -/
theorem status_step_leg {d : Deviation} {w : WalkState Float} {a b : Stop} {z : StopPrediction}
    {y : StopUpdate × WalkState Float} (h : Walk.step d w (rules.leg d a b z) = some y) :
    y.1.visit = b.visit ∧ y.1.status = disposition d b := by
  rcases step_leg_cases h with ⟨hPlace, _, -, rfl⟩ | ⟨hPlace, _, -, rfl⟩ | ⟨hPlace, _, _, -, -, rfl⟩
  all_goals exact ⟨rfl, hPlace.symm⟩

/-- What reporting a stop does to the clock: how it stood before, and how it stands after. -/
structure ClockLaw (rules : UpdateRules) (d : Deviation) (before : Instant) (u : StopUpdate)
    (after : Instant) : Prop where
  /-- Only a stop that the vehicle is at sets the clock back. -/
  forward : u.status ≠ .here → before ≤ after
  /-- That sets it to the observation, or at a timepoint to a later earliest arrival. -/
  reset : u.status = .here → after = Walk.notBefore d.observedAt
    (if u.timepoint then some (rules.earliest u) else none)
  arrival : u.status ≠ .past → after = u.predictedArrival
  observed : d.observedAt ≤ before → d.observedAt ≤ after

/-- Each step obeys the law. -/
theorem clockLaw_step_leg {d : Deviation} {w : WalkState Float} {a b : Stop} {z : StopPrediction}
    {y : StopUpdate × WalkState Float} (h : Walk.step d w (rules.leg d a b z) = some y) :
    rules.ClockLaw d w.clock y.1 y.2.clock := by
  obtain ⟨hVisit, -⟩ := status_step_leg h
  rcases step_leg_cases h with
    ⟨-, t, -, rfl⟩ | ⟨-, t, hReset, rfl⟩ | ⟨-, reached, t, hReached, ht, rfl⟩
  · exact ⟨fun _ => Instant.le_max_left _ _, nofun, fun hNot => absurd rfl hNot,
      fun _ => Instant.le_max_right _ _⟩
  · refine ⟨fun hNot => absurd rfl hNot, fun _ => ?_, fun _ => rfl, fun _ => ?_⟩
    · rw [earliest_eq hVisit]
      exact hReset
    · rw [hReset]
      exact Walk.le_notBefore _ _
  · have hForward : w.clock ≤ t := by
      rw [ht]
      exact Instant.le_of_le_of_le (Instant.le_shiftSeconds? hReached) (Walk.le_notBefore _ _)
    exact ⟨fun _ => hForward, nofun, fun _ => rfl, fun h => Instant.le_of_le_of_le h hForward⟩

/-- The stop that opens an update moves the clock on, to the observation at least. -/
theorem le_clock_openWalk {d : Deviation} {w n : WalkState Float} {o : Opening} {u : StopUpdate}
    (h : openWalk d w o = some ([u], n)) : w.clock ≤ n.clock ∧ d.observedAt ≤ n.clock := by
  cases o with
  | nothing => cases h
  | assumed s =>
    cases h
    exact ⟨Instant.le_max_left _ _, Instant.le_max_right _ _⟩
  | passed s source =>
    obtain ⟨⟨v, next⟩, hObserved, hEq⟩ := Option.map_eq_some_iff.1 h
    obtain ⟨predicted, -, hMade⟩ := Option.map_eq_some_iff.1 hObserved
    cases hEq
    cases hMade
    exact ⟨Instant.le_max_left _ _, Instant.le_max_right _ _⟩
  | origin s source status =>
    obtain ⟨-, -, hNext⟩ := Walk.origin_eq d w s source status
    rw [openWalk_origin] at h
    obtain ⟨-, rfl⟩ := Prod.mk.inj (Option.some.inj h)
    rw [hNext]
    have hDepart := Instant.le_max_left (d.observedAt.max w.clock) s.departure
    exact ⟨Instant.le_of_le_of_le (Instant.le_max_right _ _) hDepart,
      Instant.le_of_le_of_le (Instant.le_max_left _ _) hDepart⟩

/-- From one reported stop to the next the clock obeys the law. -/
theorem clockLaw_of_course {i : Nat} {x y : StopUpdate × WalkState Float}
    (hx : (rules.course p seed)[i]? = some x) (hy : (rules.course p seed)[i + 1]? = some y) :
    rules.ClockLaw p.deviation x.2.clock y.1 y.2.clock := by
  obtain ⟨z, a, b, -, -, -, -, hStep⟩ := step_of_course hx hy
  exact clockLaw_step_leg hStep

/-- Once a stop is reported the clock shows no time before the observation. -/
theorem observed_le_course (i : Nat) : ∀ x, (rules.course p seed)[i]? = some x →
    p.deviation.observedAt ≤ x.2.clock := by
  induction i with
  | zero =>
    intro x hx
    rcases course_cases rules p seed with ⟨hCourse, -⟩ | ⟨u, w, hOpen, hCourse⟩
    · rw [hCourse] at hx
      cases hx
    · rw [hCourse] at hx
      cases hx
      exact (le_clock_openWalk hOpen).2
  | succ i ih =>
    intro y hy
    obtain ⟨hi, -⟩ := List.getElem?_eq_some_iff.1 hy
    have hx := List.getElem?_eq_getElem (Nat.lt_of_succ_lt hi)
    exact (clockLaw_of_course hx hy).observed (ih _ hx)

/-- Neighbours in a part of a list are neighbours in the list. -/
theorem getElem?_of_infix {α : Type} {xs rest : List α} {x y : α} (h : x :: y :: rest <:+: xs) :
    ∃ i, xs[i]? = some x ∧ xs[i + 1]? = some y := by
  obtain ⟨before, after, rfl⟩ := h
  refine ⟨before.length, ?_, ?_⟩
  · rw [List.append_assoc, List.getElem?_append_right (Nat.le_refl _), Nat.sub_self]
    rfl
  · rw [List.append_assoc, List.getElem?_append_right (Nat.le_add_right _ 1),
      Nat.add_sub_cancel_left]
    rfl

/-- Along stops that are all ahead the arrivals do not decrease, from the clock before them on. -/
theorem pairwise_arrivals (run : List (StopUpdate × WalkState Float)) :
    ∀ x, x :: run <:+: rules.course p seed → (∀ y ∈ run, y.1.status = .future) →
      (x.2.clock :: run.map fun y => y.1.predictedArrival).Pairwise (· ≤ ·) := by
  induction run with
  | nil => exact fun x _ _ => List.pairwise_singleton _ _
  | cons y rest ih =>
    intro x hPart hAhead
    obtain ⟨hFuture, hRest⟩ := List.forall_mem_cons.1 hAhead
    obtain ⟨i, hx, hy⟩ := getElem?_of_infix hPart
    have hLaw := clockLaw_of_course hx hy
    have hStands : y.2.clock = y.1.predictedArrival := hLaw.arrival (by rw [hFuture]; nofun)
    have hForward : x.2.clock ≤ y.1.predictedArrival := by
      rw [← hStands]
      exact hLaw.forward (by rw [hFuture]; nofun)
    have hLater := ih y (List.IsInfix.trans (List.infix_cons (List.infix_refl _)) hPart) hRest
    rw [hStands] at hLater
    rw [List.map_cons]
    refine List.pairwise_cons.2 ⟨List.forall_mem_cons.2 ⟨hForward, fun t ht => ?_⟩, hLater⟩
    exact Instant.le_of_le_of_le hForward ((List.pairwise_cons.1 hLater).1 t ht)

/-- The clock of an update. Its course tells the reported stops and where the clock stands after
each. The first stop moves the clock on, if at all; each other stop is that of a stop prediction and
obeys the clock's law, and no clock shows a time before the observation. Hence the arrivals
predicted for stops ahead that follow each other never decrease, the first of them is not before the
clock, and none is before the observation. -/
theorem running_clock (rules : UpdateRules) (p : TripPrediction) (seed : Instant) :
    let course := rules.course p seed
    ((rules.build p seed).1.stops = course.map Prod.fst ∧
      (rules.build p seed).2 = (course.getLast?.map fun x => x.2.clock).getD seed) ∧
    (∀ x ∈ course.head?, seed ≤ x.2.clock) ∧
    (∀ x ∈ course, p.deviation.observedAt ≤ x.2.clock) ∧
    (∀ (i : Nat) x y, course[i]? = some x → course[i + 1]? = some y →
      (∃ z b, p.stops[i]? = some z ∧ p.trip.stops[z.target]? = some b ∧ y.1.visit = b.visit ∧
        y.1.status = disposition p.deviation b) ∧
      rules.ClockLaw p.deviation x.2.clock y.1 y.2.clock) ∧
    (∀ x run, x :: run <:+: course → (∀ y ∈ run, y.1.status = .future) →
      (x.2.clock :: run.map fun y => y.1.predictedArrival).Pairwise (· ≤ ·)) ∧
    ∀ y ∈ course.tail, y.1.status = .future → p.deviation.observedAt ≤ y.1.predictedArrival := by
  intro course
  have hObserved : ∀ x ∈ course, p.deviation.observedAt ≤ x.2.clock := by
    intro x hx
    obtain ⟨i, hi⟩ := List.mem_iff_getElem?.1 hx
    exact observed_le_course i x hi
  refine ⟨build_eq_course rules p seed, fun x hx => ?_, hObserved, fun i x y hx hy => ?_,
    fun x run => pairwise_arrivals run x, fun y hy hFuture => ?_⟩
  · rcases course_cases rules p seed with ⟨hCourse, -⟩ | ⟨u, w, hOpen, hCourse⟩
    · rw [show course = [] from hCourse] at hx
      cases hx
    · rw [show course = _ from hCourse] at hx
      cases hx
      exact (le_clock_openWalk hOpen).1
  · obtain ⟨z, a, b, hz, -, hb, -, hStep⟩ := step_of_course hx hy
    obtain ⟨hVisit, hStatus⟩ := status_step_leg hStep
    exact ⟨⟨z, b, hz, hb, hVisit, hStatus⟩, clockLaw_step_leg hStep⟩
  · obtain ⟨i, hi⟩ := List.mem_iff_getElem?.1 hy
    rw [List.getElem?_tail] at hi
    obtain ⟨hLength, -⟩ := List.getElem?_eq_some_iff.1 hi
    have hx := List.getElem?_eq_getElem (Nat.lt_of_succ_lt hLength)
    have hStands := (clockLaw_of_course hx hi).arrival (by rw [hFuture]; nofun)
    rw [← hStands]
    exact hObserved y (List.mem_of_mem_tail hy)

end UpdateRules

namespace Sample

/-- A trip whose second stop is a step away from the first. -/
def doubleStop : Trip := ⟨1, "t1", "R1", [servedStop "A" 1 600 600 0 true,
  servedStop "B" 2 900 900 1 false, servedStop "C" 3 1200 1200 1000 false,
  servedStop "D" 4 1500 1500 2000 false]⟩

/-- Predictions for a vehicle at its first two stops: three hundred seconds to each stop but the
last, which is predicted to be reached before it is left for. -/
def atBoth : TripPrediction := ⟨deviation, doubleStop, [⟨0, 1, 300, .schedule, true⟩,
  ⟨1, 2, 300, .schedule, true⟩, ⟨2, 3, -5, .stopModel, true⟩], .empty⟩

end Sample

namespace UpdateRules

/-- A vehicle waits ten minutes at its first stop, which brings the clock to the departure. The
second stop, where it is as well, sets the clock back to the observation, and the stops ahead move
it on from there; a negative travel time leaves it where it is. -/
theorem running_clock_set_back :
    let rules : UpdateRules := ⟨⟨60000000000⟩⟩
    let course := rules.course Sample.atBoth (Sample.clock 0)
    course.map (fun x => (x.1.status, x.2.clock)) = [(.here, Sample.clock 600),
        (.here, Sample.clock 0), (.future, Sample.clock 300), (.future, Sample.clock 300)] ∧
      (∀ x ∈ course.head?, Sample.clock 0 ≤ x.2.clock) ∧
      (∀ x y, course[0]? = some x → course[1]? = some y →
        rules.ClockLaw Sample.deviation x.2.clock y.1 y.2.clock) ∧
      ∀ x run, x :: run <:+: course → (∀ y ∈ run, y.1.status = .future) →
        (x.2.clock :: run.map fun y => y.1.predictedArrival).Pairwise (· ≤ ·) := by
  intro rules course
  obtain ⟨-, hFirst, -, hStep, hAhead, -⟩ :=
    running_clock rules Sample.atBoth (Sample.clock 0)
  exact ⟨by decide +kernel, hFirst, fun x y hx hy => (hStep 0 x y hx hy).2, hAhead⟩

end UpdateRules

end TransitForecast
