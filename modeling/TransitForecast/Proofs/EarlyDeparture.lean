import TransitForecast.Proofs.Departure

/-!
# TransitForecast — the limit on leaving early

A vehicle waits at a timepoint that it would leave too early. So at a timepoint it is not predicted
to be more than the limit ahead of the schedule, nor at the stop after one that it has not passed.
The limit moves a predicted arrival to the earliest one that it allows, or leaves it alone.

The published delay counts whole seconds and is rounded toward zero. This is why a limit that is not
negative is kept even where a leap second is counted between the schedule and the prediction.

## Results

* `Instant.neg_le_seconds_since` — what is not before the earliest arrival is early by no more than
  the limit.
* `TripPredictor.past_of_firstReported` — stops are left out only where the vehicle has passed them.
* `UpdateRules.step_of_reaches` — each reported stop is where the way to the next one starts.
* `UpdateRules.keepsLimit_step_leg` — what the limit does to one predicted arrival.
* `UpdateRules.early_departure_limit` — where the limit binds, and what it does there.
-/

namespace TransitForecast

-- ---------------------------------------------------------------------------
-- Delays in whole seconds
-- ---------------------------------------------------------------------------

namespace Span

variable {span : Span} {n : Int}

theorem le_seconds (h : n * 1000000000 ≤ span.nanos) : n ≤ span.seconds := by
  unfold seconds nanosPerSecond
  rw [← Int.mul_tdiv_cancel n (show (1000000000 : Int) ≠ 0 by decide)]
  exact Int.tdiv_le_tdiv (by decide) h

/-- Seconds are rounded toward zero, so less than one too many of them is none. -/
theorem neg_le_seconds (hPos : 0 ≤ n) (h : -(n + 1) * 1000000000 < span.nanos) :
    -n ≤ span.seconds := by
  unfold seconds nanosPerSecond
  rcases Int.lt_or_le span.nanos 0 with hNeg | hNonneg
  · rw [← Int.neg_neg span.nanos, Int.neg_tdiv, Int.tdiv_eq_ediv_of_nonneg (by omega)]
    omega
  · rw [Int.tdiv_eq_ediv_of_nonneg hNonneg]
    omega

end Span

namespace Instant

variable {t u earliest : Instant}

/-- A span falls short of the difference of the positions only if it ends in a leap second. -/
theorem since_cases (u t : Instant) :
    u.position - t.position ≤ (u.since t).nanos ∨
      u.isLeap = true ∧ u.second ≠ t.second ∧
        (u.since t).nanos = u.position - t.position - 1000000000 := by
  unfold since
  dsimp only
  split
  · left
    unfold nanosPerSecond
    omega
  · split
    · rename_i hBack
      refine .inr ⟨hBack.2, fun hSame => ?_, rfl⟩
      have hDay : u.secondOfDay = t.secondOfDay := by rw [secondOfDay, secondOfDay, hSame]
      omega
    · left
      omega

/-- From outside leap seconds on positions do not decrease, and into one they increase. -/
theorem position_le_of_ordinary (ht : t.isLeap = false) (h : t ≤ u) :
    t.position ≤ u.position ∧ (u.isLeap = true → t.position < u.position) := by
  have hOrder : ¬ precedes u t := h
  simp only [isLeap, decide_eq_false_iff_not, decide_eq_true_eq] at ht ⊢
  unfold precedes at hOrder
  unfold position nanosPerSecond
  omega

/-- A shift back by whole seconds ends outside leap seconds unless nothing is shifted. -/
theorem shift?_neg_cases {seconds : Int} {limit : Span}
    (hNanos : limit.nanos = seconds * 1000000000) (h : t.shift? limit.neg = some earliest)
    (hKind : 0 ≤ seconds ∨ t.isLeap = false) :
    (t.isLeap = true ∧ seconds = 0 ∧ earliest = t) ∨
      earliest.isLeap = false ∧ earliest.position = t.position - seconds * 1000000000 := by
  have hBack : limit.neg.nanos = -(seconds * 1000000000) := congrArg Int.neg hNanos
  have hRoom := t.nanos_lt
  have hPos : t.isLeap = true → 0 ≤ seconds := fun hLeap =>
    hKind.resolve_right (by rw [hLeap]; nofun)
  rcases shift?_cases h with ⟨-, hEnd, hMoved⟩ | ⟨hLeap, hLate, -⟩ | ⟨-, -, hEnd, hMoved⟩ |
    ⟨hLeap, -, hShort, hSecond, hSame⟩
  · exact .inr ⟨hEnd, by omega⟩
  · have := hPos hLeap
    omega
  · exact .inr ⟨hEnd, by omega⟩
  · have := hPos hLeap
    refine .inl ⟨hLeap, by omega, ?_⟩
    obtain ⟨second, nanos, _, _⟩ := earliest
    obtain ⟨rfl, rfl⟩ : second = t.second ∧ nanos = t.nanos := by
      dsimp only at hSecond hSame
      omega
    rfl

/-- What the limit leaves or moves to the earliest time is early by no more than the limit. A limit
that is negative has to be kept outside leap seconds only. -/
theorem neg_le_seconds_since {seconds : Int} {limit : Span}
    (hLimit : Span.ofSeconds? seconds = some limit) (h : t.shift? limit.neg = some earliest)
    (hLe : earliest ≤ u) (hKind : 0 ≤ seconds ∨ t.isLeap = false ∧ u.isLeap = false) :
    -seconds ≤ (u.since t).seconds := by
  have hNanos := Span.nanos_of_ofSeconds? hLimit
  rcases shift?_neg_cases hNanos h (hKind.imp_right And.left) with
    ⟨hLeap, rfl, rfl⟩ | ⟨hOrdinary, hPosition⟩
  · -- nothing is shifted, and the leap second of the schedule may be counted or not
    have hOrder : ¬ precedes u earliest := hLe
    have hRoom := earliest.nanos_lt
    refine Span.neg_le_seconds (Int.le_refl 0) ?_
    rw [isLeap, decide_eq_true_eq] at hLeap
    unfold precedes at hOrder
    rcases since_cases u earliest with hCounted | ⟨hLater, hApart, hCounted⟩
    · unfold position nanosPerSecond at hCounted
      omega
    · rw [isLeap, decide_eq_true_eq] at hLater
      unfold position nanosPerSecond at hCounted
      omega
  · obtain ⟨hForward, hBeyond⟩ := position_le_of_ordinary hOrdinary hLe
    rcases since_cases u t with hCounted | ⟨hLater, -, hCounted⟩
    · exact Span.le_seconds (by omega)
    · have hLess := hBeyond hLater
      refine Span.neg_le_seconds (hKind.resolve_right fun hBoth => ?_) (by omega)
      rw [hBoth.2] at hLater
      cases hLater

/-- Outside leap seconds the earliest time is early by just the limit. -/
theorem seconds_since_shift? {seconds : Int} {limit : Span}
    (hLimit : Span.ofSeconds? seconds = some limit) (h : t.shift? limit.neg = some earliest)
    (ht : t.isLeap = false) : (earliest.since t).seconds = -seconds := by
  rcases shift?_neg_cases (Span.nanos_of_ofSeconds? hLimit) h (.inr ht) with
    ⟨hLeap, -⟩ | ⟨hOrdinary, hPosition⟩
  · rw [ht] at hLeap
    cases hLeap
  · exact seconds_since_of_position ht hOrdinary (by unfold nanosPerSecond; omega)

end Instant

theorem Walk.bound_le_notBefore (t bound : Instant) : bound ≤ Walk.notBefore t (some bound) := by
  rw [Walk.notBefore_some]
  exact Instant.le_max_left bound t

-- ---------------------------------------------------------------------------
-- Consecutive stops
-- ---------------------------------------------------------------------------

namespace Tiles

/-- Where some segments were skipped, the last of them ends where the others start. -/
theorem skipped {stops : List Stop} {segments : List Segment} (skip : Segment → Bool) :
    ∀ {lo hi : Nat}, Tiles stops lo segments hi →
      ((segments.dropWhile skip).head?.map Segment.firstIndex).getD hi = lo ∨
        ∃ s ∈ segments, skip s = true ∧
          stops[((segments.dropWhile skip).head?.map Segment.firstIndex).getD hi]? =
            some s.lastStop := by
  induction segments with
  | nil => exact fun h => .inl (Eq.symm h)
  | cons s rest ih =>
    intro lo hi h
    obtain ⟨hFirst, hStops, hRest⟩ := h
    rw [List.dropWhile_cons]
    split
    · rename_i hSkip
      rcases ih hRest with hHere | ⟨x, hx, hFound⟩
      · right
        refine ⟨s, List.mem_cons_self, hSkip, ?_⟩
        have hTwo := s.twoStops
        rw [hHere, ← getElem?_stops hStops (by omega), Segment.lastStop, List.getLast_eq_getElem]
        exact List.getElem?_eq_getElem _
      · exact .inr ⟨x, List.mem_cons_of_mem s hx, hFound⟩
    · exact .inl hFirst

end Tiles

/-- Stops are left out only where the vehicle has passed them. -/
theorem TripPredictor.past_of_firstReported {p : TripPredictor} {d : Deviation} {cutoff : Instant}
    (hTiles : Tiles p.trip.stops 0 p.segments p.lastIndex) :
    p.firstReported d cutoff = 0 ∨
      ∀ s ∈ p.trip.stops[p.firstReported d cutoff]?, UpdateRules.disposition d s = .past := by
  rcases hTiles.skipped (isBehind d cutoff) with hNone | ⟨s, -, hBehind, hLast⟩
  · exact .inl hNone
  · right
    intro a ha
    rw [firstReported, reached, hLast] at ha
    cases ha
    rw [isBehind, Bool.and_eq_true, decide_eq_true_eq] at hBehind
    exact hBehind.2

namespace UpdateRules

variable {rules : UpdateRules} {p : TripPrediction} {seed : Instant} {d : Deviation}
  {stops : List Stop} {xs : List StopPrediction} {last lo hi : Nat}

/-- Stop predictions in a row lead from each stop to the next, as far as there are legs. -/
theorem place_of_reaches : ∀ {lo i : Nat} {z : StopPrediction}, Reaches last lo xs hi →
    i < (rules.legs d stops xs).length → xs[i]? = some z → z.place = (lo + i, lo + i + 1) := by
  induction xs with
  | nil =>
    intro lo i z _ _ hz
    cases hz
  | cons x rest ih =>
    intro lo i z hReaches hLegs hz
    obtain ⟨hPlace, hRest⟩ := hReaches
    cases i with
    | zero =>
      cases hz
      exact hPlace
    | succ i =>
      rw [legs] at hLegs
      split at hLegs
      · cases hLegs
      · rename_i hPair
        rw [if_neg hPair] at hRest
        split at hLegs
        · have hNext := ih hRest (Nat.lt_of_succ_lt_succ hLegs) hz
          rw [Nat.add_right_comm lo 1 i] at hNext
          exact hNext
        · cases hLegs

/-- An update opens at the stop where the stop predictions start, and reports where the vehicle
finds it, provided that stops are left out only up to one that is passed. -/
theorem status_openWalk {w n : WalkState Float} {z : StopPrediction} {a : Stop} {u : StopUpdate}
    (h : openWalk d w (opening d stops (z :: xs)) = some ([u], n)) (ha : stops[z.origin]? = some a)
    (hPast : z.origin = 0 ∨ disposition d a = .past) :
    u.visit = a.visit ∧ u.status = disposition d a := by
  have hOrigin : ∀ {status}, openWalk d w (.origin a z.source status) = some ([u], n) →
      u.visit = a.visit ∧ u.status = status := by
    intro status hOpen
    rw [openWalk_origin] at hOpen
    obtain ⟨hReported, -⟩ := Prod.mk.inj (Option.some.inj hOpen)
    obtain ⟨rfl, -⟩ := List.cons.inj hReported
    have hOutline := (Walk.origin_eq d w a z.source status).1
    exact ⟨Walk.visit_origin a z.source status, congrArg (fun o => o.2.2.2) hOutline⟩
  unfold opening at h
  rw [List.head?_cons] at h
  dsimp only at h
  by_cases hZero : z.origin = 0
  · rw [hZero, ← List.head?_eq_getElem?] at ha
    rw [if_pos hZero, ha] at h
    dsimp only at h
    cases hPlace : disposition d a with
    | past =>
      rw [hPlace] at h
      obtain ⟨⟨v, next⟩, hObserved, hEq⟩ := Option.map_eq_some_iff.1 h
      obtain ⟨predicted, -, hMade⟩ := Option.map_eq_some_iff.1 hObserved
      cases hEq
      cases hMade
      exact ⟨rfl, rfl⟩
    | here =>
      rw [hPlace] at h
      exact hOrigin h
    | future =>
      rw [hPlace] at h
      exact hOrigin h
  · rw [if_neg hZero, ha] at h
    cases h
    exact ⟨rfl, (hPast.resolve_left hZero).symm⟩

/-- A reported stop from which a stop prediction leads on is the one that the prediction starts at,
where the vehicle finds it. -/
theorem status_of_reaches (hReaches : Reaches last lo p.stops hi)
    (hPast : lo = 0 ∨ ∀ s ∈ p.trip.stops[lo]?, disposition p.deviation s = .past) {i : Nat}
    {x : StopUpdate × WalkState Float} {z : StopPrediction} {a : Stop}
    (hx : (rules.course p seed)[i]? = some x) (hz : p.stops[i]? = some z)
    (hOrigin : z.origin = lo + i) (ha : p.trip.stops[z.origin]? = some a) :
    x.1.visit = a.visit ∧ x.1.status = disposition p.deviation a := by
  cases i with
  | zero =>
    rcases course_cases rules p seed with ⟨hCourse, -⟩ | ⟨u, w, hOpen, hCourse⟩
    · rw [hCourse] at hx
      cases hx
    · rw [hCourse] at hx
      cases hx
      cases hStops : p.stops with
      | nil =>
        rw [hStops] at hz
        cases hz
      | cons first rest =>
        rw [hStops] at hz hOpen
        cases hz
        refine status_openWalk hOpen ha ?_
        rw [hOrigin] at ha ⊢
        exact hPast.imp_right fun h => h a ha
  | succ i =>
    -- the leg before leads to the stop
    obtain ⟨hLength, -⟩ := List.getElem?_eq_some_iff.1 hx
    have hBefore := List.getElem?_eq_getElem (Nat.lt_of_succ_lt hLength)
    obtain ⟨y, c, b, hy, -, hb, hLeg, hStep⟩ := step_of_course hBefore hx
    have hPlace := place_of_reaches hReaches (List.getElem?_eq_some_iff.1 hLeg).1 hy
    have hTarget : y.target = lo + i + 1 := congrArg Prod.snd hPlace
    rw [hTarget, Nat.add_assoc, ← hOrigin, ha] at hb
    cases hb
    exact status_step_leg hStep

/-- From one reported stop to the next the course follows a leg, and the first of the two is
reported where the vehicle finds it. -/
theorem step_of_reaches (hReaches : Reaches last lo p.stops hi)
    (hPast : lo = 0 ∨ ∀ s ∈ p.trip.stops[lo]?, disposition p.deviation s = .past) {i : Nat}
    {x y : StopUpdate × WalkState Float} (hx : (rules.course p seed)[i]? = some x)
    (hy : (rules.course p seed)[i + 1]? = some y) :
    ∃ z a b, x.1.visit = a.visit ∧ x.1.status = disposition p.deviation a ∧
      (rules.legs p.deviation p.trip.stops p.stops)[i]? = some (rules.leg p.deviation a b z) ∧
      Walk.step p.deviation x.2 (rules.leg p.deviation a b z) = some y := by
  obtain ⟨z, a, b, hz, ha, -, hLeg, hStep⟩ := step_of_course hx hy
  have hPlace := place_of_reaches hReaches (List.getElem?_eq_some_iff.1 hLeg).1 hz
  have hOrigin : z.origin = lo + i := congrArg Prod.fst hPlace
  obtain ⟨hVisit, hStatus⟩ := status_of_reaches hReaches hPast hx hz hOrigin ha
  exact ⟨z, a, b, hVisit, hStatus, hLeg, hStep⟩

end UpdateRules

-- ---------------------------------------------------------------------------
-- Without the limit
-- ---------------------------------------------------------------------------

/-- The same way without a time before which it may not end. -/
def Way.unlimited {α : Type} : Way α → Way α
  | .passed => .passed
  | .here _ => .here none
  | .ahead seconds left _ => .ahead seconds left none

/-- The same leg without a time before which it may not end. -/
def Leg.unlimited {α : Type} (leg : Leg α) : Leg α := { leg with way := leg.way.unlimited }

/-- A bound on the way to a stop only moves the predicted arrival, to the bound. -/
theorem Walk.step_unlimited {d : Deviation} {w : WalkState Float} {leg : Leg Float}
    {y : StopUpdate × WalkState Float} (h : step d w leg = some y) :
    ∃ free, step d w leg.unlimited = some free ∧
      y.1.predictedArrival = notBefore free.1.predictedArrival leg.way.bound? := by
  unfold step at h
  unfold step Leg.unlimited
  cases hWay : leg.way with
  | passed =>
    rw [hWay] at h
    exact ⟨y, h, rfl⟩
  | here bound =>
    rw [hWay] at h
    cases h
    exact ⟨_, rfl, rfl⟩
  | ahead seconds left bound =>
    rw [hWay] at h
    obtain ⟨reached, hReached, rfl⟩ := Option.map_eq_some_iff.1 h
    exact ⟨_, congrArg (Option.map _) hReached, rfl⟩

/-- Answers leave the observation as it is. -/
theorem TripPrediction.deviation_settleAll (answers : List (InferenceKey × Float)) :
    ∀ {p : TripPrediction}, (p.settleAll answers).deviation = p.deviation := by
  induction answers with
  | nil => exact rfl
  | cons x rest ih =>
    intro p
    rw [settleAll_cons, ih, settle_deviation]

namespace UpdateRules

variable {rules : UpdateRules} {p : TripPrediction} {seed : Instant} {d : Deviation}

/-- Whether the limit applies at a reported stop: at a timepoint that the vehicle is at, and on the
way from one that it has not passed. -/
def IsLimited (before u : StopUpdate) : Prop :=
  (u.status = .here ∧ u.timepoint = true) ∨
    (u.status = .future ∧ before.timepoint = true ∧ before.status ≠ .past)

instance (before u : StopUpdate) : Decidable (IsLimited before u) :=
  inferInstanceAs (Decidable (_ ∨ _))

/-- The way to a stop is bound where the limit applies, by the earliest arrival there. -/
theorem bound?_leg_of_visits (rules : UpdateRules) {a b : Stop} (z : StopPrediction)
    {before u : StopUpdate} (ha : before.visit = a.visit)
    (hBefore : before.status = disposition d a) (hb : u.visit = b.visit)
    (hStatus : u.status = disposition d b) :
    (IsLimited before u → (rules.leg d a b z).way.bound? = some (rules.earliest u)) ∧
      (¬ IsLimited before u → (rules.leg d a b z).way.bound? = none) := by
  have hFlag : before.timepoint = a.timepoint := congrArg (fun v => v.2.2.2) ha
  have hOwnFlag : u.timepoint = b.timepoint := congrArg (fun v => v.2.2.2) hb
  unfold IsLimited
  rw [hStatus, hOwnFlag, hFlag, hBefore, earliest_eq hb, leg]
  cases disposition d b with
  | past =>
    refine ⟨?_, fun _ => rfl⟩
    rintro (⟨h, -⟩ | ⟨h, -⟩) <;> cases h
  | here =>
    refine ⟨?_, fun hNot => if_neg fun hPoint => hNot (.inl ⟨rfl, hPoint⟩)⟩
    rintro (⟨-, hPoint⟩ | ⟨h, -⟩)
    · exact if_pos hPoint
    · cases h
  | future =>
    refine ⟨?_, fun hNot => if_neg fun hBound => hNot (.inr ⟨rfl, hBound⟩)⟩
    rintro (⟨h, -⟩ | ⟨-, hBound⟩)
    · cases h
    · exact if_pos hBound

/-- The delay that is sent about a stop that a leg leads to. -/
theorem arrivalDelay_step_leg {w : WalkState Float} {a b : Stop} {z : StopPrediction}
    {y : StopUpdate × WalkState Float} (h : Walk.step d w (rules.leg d a b z) = some y) :
    y.1.arrivalDelay = (y.1.predictedArrival.since y.1.scheduledArrival).seconds := by
  rcases step_leg_cases h with ⟨-, _, -, rfl⟩ | ⟨-, _, -, rfl⟩ | ⟨-, _, _, -, -, rfl⟩
  all_goals rfl

/-- What a limit in seconds does at a reported stop, where `free` would be predicted without it. -/
structure KeepsLimit (rules : UpdateRules) (limit : Int) (before u : StopUpdate) (free : Instant) :
    Prop where
  elsewhere : ¬ IsLimited before u → u.predictedArrival = free
  /-- Where the limit applies, only an arrival before the earliest one is moved, and to that. -/
  moved : ∀ earliest, IsLimited before u →
    u.scheduledArrival.shift? rules.earlyLimit.neg = some earliest →
      u.predictedArrival = if free < earliest then earliest else free
  /-- The delay that is sent is no less than the limit allows. -/
  delay : ∀ earliest, IsLimited before u →
    u.scheduledArrival.shift? rules.earlyLimit.neg = some earliest →
      0 ≤ limit ∨ u.scheduledArrival.isLeap = false ∧ u.predictedArrival.isLeap = false →
        -limit ≤ u.arrivalDelay
  /-- Where an arrival is moved, the delay is the least that the limit allows. -/
  least : ∀ earliest, IsLimited before u →
    u.scheduledArrival.shift? rules.earlyLimit.neg = some earliest → free < earliest →
      u.scheduledArrival.isLeap = false → u.arrivalDelay = -limit

/-- Each step keeps the limit. -/
theorem keepsLimit_step_leg {limit : Int} {w : WalkState Float} {a b : Stop} {z : StopPrediction}
    {before : StopUpdate} {y : StopUpdate × WalkState Float}
    (hLimit : Span.ofSeconds? limit = some rules.earlyLimit) (ha : before.visit = a.visit)
    (hBefore : before.status = disposition d a)
    (h : Walk.step d w (rules.leg d a b z) = some y) :
    ∃ free, Walk.step d w (rules.leg d a b z).unlimited = some free ∧
      rules.KeepsLimit limit before y.1 free.1.predictedArrival := by
  obtain ⟨hVisit, hStatus⟩ := status_step_leg h
  obtain ⟨free, hFree, hArrival⟩ := Walk.step_unlimited h
  obtain ⟨hBound, hUnbound⟩ := bound?_leg_of_visits rules z ha hBefore hVisit hStatus
  have hDelay := arrivalDelay_step_leg h
  have hMoved : ∀ earliest, IsLimited before y.1 →
      y.1.scheduledArrival.shift? rules.earlyLimit.neg = some earliest →
        y.1.predictedArrival = Walk.notBefore free.1.predictedArrival (some earliest) := by
    intro earliest hApplies hShift
    rw [hArrival, hBound hApplies, UpdateRules.earliest, hShift, Option.getD_some]
  refine ⟨free, hFree, ?_, hMoved, ?_, ?_⟩
  · intro hNot
    rw [hArrival, hUnbound hNot]
    rfl
  · intro earliest hApplies hShift hKind
    have hLe : earliest ≤ y.1.predictedArrival := by
      rw [hMoved earliest hApplies hShift]
      exact Walk.bound_le_notBefore _ _
    rw [hDelay]
    exact Instant.neg_le_seconds_since hLimit hShift hLe hKind
  · intro earliest hApplies hShift hEarly hOrdinary
    have hAt : y.1.predictedArrival = earliest := by
      rw [hMoved earliest hApplies hShift]
      exact if_pos hEarly
    rw [hDelay, hAt]
    exact Instant.seconds_since_shift? hLimit hShift hOrdinary

/-- The limit on leaving early, in the update that is built from a prediction after any answers. An
update that opens with a stop that is not passed opens with the first stop of the trip. From one
reported stop to the next the course follows a leg. Where the limit does not apply, or allows the
arrival to which the leg leads without it, that arrival is predicted, and otherwise the earliest one
that the limit allows. The delay that is sent then keeps the limit, provided that the limit is not
negative or no leap second is counted. -/
theorem early_departure_limit {trust : Trust} {models : ModelRegistry} {horizon : Span}
    {trip : Trip} {calendar : ServiceCalendar} {store : ObservedTransitions}
    {g : TripPredictor.Progress}
    (hPredict : (TripPredictor.build trust models horizon trip).predict calendar store d = .ok g)
    (answers : List (InferenceKey × Float)) (seed : Instant) {limit : Int}
    (hLimit : Span.ofSeconds? limit = some rules.earlyLimit) :
    let p := g.prediction.settleAll answers
    let course := rules.course p seed
    (rules.build p seed).1.stops = course.map Prod.fst ∧
    (∀ x ∈ course.head?, x.1.status ≠ .past →
      trip.stops.head?.map Stop.visit = some x.1.visit) ∧
    ∀ (i : Nat) x y, course[i]? = some x → course[i + 1]? = some y →
      ∃ leg free, (rules.legs d trip.stops p.stops)[i]? = some leg ∧
        Walk.step d x.2 leg = some y ∧ Walk.step d x.2 leg.unlimited = some free ∧
        rules.KeepsLimit limit x.1 y.1 free.1.predictedArrival := by
  intro p course
  obtain ⟨cutoff, hCutoff⟩ := TripPredictor.exists_cutoff_of_predict hPredict
  have hTiles := @TripPredictor.tiles_build trust models horizon trip
  have hSound : g.prediction.Sound := (TripPredictor.sound_predict hPredict).prediction
  have hReaches : Reaches _ _ p.stops _ :=
    (TripPredictor.reaches_predict hTiles hCutoff hPredict).revised
      (TripPrediction.revises_settleAll hSound)
  have hDeviation : p.deviation = d := by
    rw [TripPrediction.deviation_settleAll, TripPredictor.predict_deviation hPredict]
  have hTrip : p.trip = trip := by
    rw [TripPrediction.trip_settleAll, TripPredictor.predict_trip hPredict]
    rfl
  generalize hFirst : (TripPredictor.build trust models horizon trip).firstReported d cutoff = lo
    at hReaches
  have hPast : lo = 0 ∨ ∀ s ∈ p.trip.stops[lo]?, disposition p.deviation s = .past := by
    rw [hTrip, hDeviation, ← hFirst]
    exact TripPredictor.past_of_firstReported hTiles
  have hStops : (rules.build p seed).1.stops = course.map Prod.fst :=
    (build_eq_course rules p seed).1
  refine ⟨hStops, fun x hx hAhead => ?_, fun i x y hx hy => ?_⟩
  · obtain ⟨rest, hCourse⟩ := List.head?_eq_some_iff.1 hx
    rw [hCourse] at hStops
    obtain ⟨s, -, -, hHead, hVisit, -⟩ := course_of_origin hStops hAhead
    rw [hTrip] at hHead
    rw [hHead, hVisit]
    rfl
  · rw [← hDeviation, ← hTrip]
    obtain ⟨z, a, b, hVisit, hStatus, hLeg, hStep⟩ := step_of_reaches hReaches hPast hx hy
    obtain ⟨free, hFree, hKeeps⟩ := keepsLimit_step_leg hLimit hVisit hStatus hStep
    exact ⟨_, free, hLeg, hStep, hFree, hKeeps⟩

end UpdateRules

namespace Sample

/-- A trip with a timepoint half way. -/
def halfWay : Trip := ⟨1, "t1", "R1", [servedStop "A" 1 0 0 0 false,
  servedStop "B" 2 600 600 1000 true, servedStop "C" 3 900 900 2000 false,
  servedStop "D" 4 1200 1200 3000 false]⟩

/-- A vehicle just past the timepoint, ten minutes early. -/
def tenMinutesEarly : Deviation := { deviation with progress := 1001 }

/-- The leap second at the end of a year. -/
def leapSecond : Instant := ⟨1483228799, 1000000000, by decide, by decide⟩

def minutesBefore : Instant := ⟨1483228500, 0, by decide, Instant.epoch.nanos_lt⟩

/-- A trip that is due at a timepoint in the leap second. -/
def dueInLeapSecond : Trip := ⟨1, "t1", "R1", [
  ⟨"A", 1, 86100, 86100, 0, false, minutesBefore, minutesBefore⟩,
  ⟨"B", 2, 86400, 86400, 1000, true, leapSecond, leapSecond⟩]⟩

/-- A vehicle that is at the timepoint when it is due at the first stop. -/
def minutesEarly : Deviation := ⟨1, "t1", "R1", "V1", minutesBefore, 1000, 0⟩

end Sample

namespace UpdateRules

/-- A vehicle that is at a timepoint ten minutes early waits there until it is a minute early, and
at the next stop as well, where it would be a second earlier than that. -/
theorem early_departure_limit_of_a_minute :
    let rules : UpdateRules := ⟨⟨60000000000⟩⟩
    let predictor := TripPredictor.build .default .empty ⟨1800000000000⟩ Sample.halfWay
    ∃ g, predictor.predict Sample.engine.calendar Sample.engine.transitions
        Sample.tenMinutesEarly = .ok g ∧
      let course := rules.course (g.prediction.settleAll []) (Sample.clock 0)
      course.map (fun x => (x.1.status, x.1.predictedArrival, x.1.arrivalDelay)) =
        [(.past, Sample.clock 0, 0), (.here, Sample.clock 540, -60),
          (.future, Sample.clock 840, -60), (.future, Sample.clock 1140, -60)] ∧
      ∀ x ∈ course[1]?, ∀ y ∈ course[2]?, IsLimited x.1 y.1 ∧
        rules.KeepsLimit 60 x.1 y.1 (Sample.clock 839) := by
  intro rules predictor
  obtain ⟨g, hPredict⟩ : ∃ g, predictor.predict Sample.engine.calendar Sample.engine.transitions
      Sample.tenMinutesEarly = .ok g := ⟨_, TripPredictor.predict_eq_get (by decide +kernel)⟩
  have hSixty : Span.ofSeconds? 60 = some rules.earlyLimit := rfl
  obtain ⟨-, -, hSteps⟩ := early_departure_limit hPredict [] (Sample.clock 0) hSixty
  let p := g.prediction.settleAll []
  let course := rules.course p (Sample.clock 0)
  have hMade := hPredict.symm.trans (TripPredictor.predict_eq_get (by decide +kernel))
  have hCourse : course.map (fun x => (x.1.status, x.1.predictedArrival, x.1.arrivalDelay)) =
      [(.past, Sample.clock 0, 0), (.here, Sample.clock 540, -60),
        (.future, Sample.clock 840, -60), (.future, Sample.clock 1140, -60)] := by
    cases hMade
    decide +kernel
  have hApplies : ∀ x ∈ course[1]?, ∀ y ∈ course[2]?, IsLimited x.1 y.1 := by
    cases hMade
    decide +kernel
  have hUnlimited : ∀ x ∈ course[1]?,
      ∀ leg ∈ (rules.legs Sample.tenMinutesEarly Sample.halfWay.stops p.stops)[1]?,
        ∀ free ∈ Walk.step Sample.tenMinutesEarly x.2 leg.unlimited,
          free.1.predictedArrival = Sample.clock 839 := by
    cases hMade
    decide +kernel
  refine ⟨g, hPredict, hCourse, fun x hx y hy => ⟨hApplies x hx y hy, ?_⟩⟩
  obtain ⟨leg, free, hLeg, -, hFree, hKeeps⟩ := hSteps 1 x y hx hy
  rw [← hUnlimited x hx leg hLeg free hFree]
  exact hKeeps

/-- A vehicle that may not be less than a minute late waits at a timepoint that it is due at in a
leap second. It is predicted a minute after that, but with the leap second left out. -/
theorem early_limit_missed_in_a_leap_second :
    let rules : UpdateRules := ⟨⟨-60000000000⟩⟩
    let predictor := TripPredictor.build .default .empty ⟨1800000000000⟩ Sample.dueInLeapSecond
    Span.ofSeconds? (-60) = some rules.earlyLimit ∧
    (Sample.leapSecond.shift? rules.earlyLimit.neg).isSome ∧
    ∃ g, predictor.predict Sample.engine.calendar Sample.engine.transitions Sample.minutesEarly =
        .ok g ∧
      (rules.build g.prediction Sample.minutesBefore).1.stops.tail.map
          (fun u => (u.status, u.timepoint, u.scheduledArrival)) =
        [(.here, true, Sample.leapSecond)] ∧
      ¬ ∀ u ∈ (rules.build g.prediction Sample.minutesBefore).1.stops.tail,
        60 ≤ u.arrivalDelay := by
  intro rules predictor
  exact ⟨by decide +kernel, by decide +kernel, _,
    TripPredictor.predict_eq_get (by decide +kernel), by decide +kernel, by decide +kernel⟩

end UpdateRules

end TransitForecast
