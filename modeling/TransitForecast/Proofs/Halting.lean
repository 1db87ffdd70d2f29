import TransitForecast.Proofs.Separation

/-!
# TransitForecast — where handling a report halts

Handling a report computes times from what is reported: the end of the horizon of each observation,
its date if features are built for it, and the end of the time for which a batch may stay parked. A
time that leaves the range of instants halts the report where it is, and so does a schedule source
that never answers. Otherwise the report is handled to its end. The vehicles come in the order of
their ids, so what one of them reports can keep those after it from being predicted.

## Results

* `handleReport_eq_ok_iff` — a report is handled to its end exactly when nothing halts it.
* `handleVehicles_late`    — the vehicles before one with a trip that cannot be predicted are served,
  and no other.
* `handled_unless_observed_too_late` — both, with default settings.
-/

namespace TransitForecast

-- ---------------------------------------------------------------------------
-- Time
-- ---------------------------------------------------------------------------

/-- A move forward by whole seconds stays in range as long as the second that it reaches does. -/
theorem Instant.shift?_isSome_iff {t : Instant} {s : Span} {n : Nat} (hPos : 0 < n)
    (hSpan : s.nanos = n * nanosPerSecond) :
    (t.shift? s).isSome = true ↔ t.second + n < endSecond := by
  obtain ⟨hFirst, hEnd⟩ := t.inRange
  have hNanos := t.nanos_lt
  unfold nanosPerSecond at hSpan
  by_cases hLeap : t.isLeap = true
  · -- the move leaves the leap second, as if it began a second earlier
    have hLate : 2000000000 ≤ (t.nanos : Int) + s.nanos := by
      have hFrom : 1000000000 ≤ t.nanos := of_decide_eq_true hLeap
      omega
    have hFrom : 1000000000 ≤ t.nanos := of_decide_eq_true hLeap
    rw [shift?, if_pos hLeap, dif_pos hLate, ofPosition?_isSome]
    unfold position nanosPerSecond firstSecond endSecond
    omega
  · have hOrdinary : ¬ 1000000000 ≤ t.nanos := fun h => hLeap (decide_eq_true h)
    rw [shift?_isSome (Bool.eq_false_iff.2 hLeap)]
    unfold position nanosPerSecond firstSecond endSecond
    omega

/-- A range check halts on a trip that departs when the end of the horizon cannot be told. -/
theorem TripPredictor.inRange_eq_error_iff {p : TripPredictor} {d : Deviation} {halt : Halt} :
    p.inRange d = .error halt ↔
      p.trip.firstDeparture.isSome = true ∧ p.cutoff? d = none ∧ halt = .overflow := by
  unfold inRange
  cases p.trip.firstDeparture with
  | none => simp
  | some departure =>
    cases p.cutoff? d with
    | none => simp [eq_comm]
    | some cutoff => simp

/-- A trip that cannot be predicted overflows when its range is checked, or else it is near and
overflows when it is predicted. -/
theorem TripPredictor.overflow_of_not_canPredict {calendar : ServiceCalendar}
    {x : TripPredictor × Deviation} (h : ¬ CanPredict calendar.zone x) :
    x.1.inRange x.2 = .error .overflow ∨
      x.1.inRange x.2 = .ok true ∧ ∀ store, x.1.predict calendar store x.2 = .error .overflow := by
  by_cases hCutoff : x.1.trip.firstDeparture.isSome = true → (x.1.cutoff? x.2).isSome = true
  · have hUndated : ¬ (isNear x = true → x.1.Dated calendar.zone x.2) :=
      fun hDated => h ⟨hCutoff, hDated⟩
    rw [Classical.not_imp] at hUndated
    exact .inr ⟨inRange_of_isNear hUndated.1,
      fun store => predict_overflow store fun hBoth => hUndated.2 hBoth.2⟩
  · rw [Classical.not_imp, Option.not_isSome_iff_eq_none] at hCutoff
    exact .inl (inRange_eq_error_iff.2 ⟨hCutoff.1, hCutoff.2, rfl⟩)

-- ---------------------------------------------------------------------------
-- Schedules and trips
-- ---------------------------------------------------------------------------

theorem Timetable.silent_ofList (trips : List Trip) : (ofList trips).silent = [] :=
  List.foldlRecOn (motive := fun t => silent t = []) trips insert rfl fun _ h _ _ => h

theorem Formation.mem_found_iff {f : Formation} {deviations : List Deviation}
    {x : TripPredictor × Deviation} :
    x ∈ f.found deviations ↔ x.2 ∈ deviations ∧ f.known x.2.tripKey = some x.1 := by
  unfold found
  rw [List.mem_filterMap]
  constructor
  · rintro ⟨d, hd, hKnown⟩
    obtain ⟨p, hp, rfl⟩ := Option.map_eq_some_iff.1 hKnown
    exact ⟨hd, hp⟩
  · rintro ⟨hMem, hKnown⟩
    exact ⟨_, hMem, by rw [hKnown]; rfl⟩

namespace Engine

-- ---------------------------------------------------------------------------
-- One vehicle
-- ---------------------------------------------------------------------------

section Vehicle

variable {e : Engine} {own : List Deviation}

/-- Looking up trips does not make the schedule source answer. -/
theorem Handles.answers_iff {now : Instant} {asked : List Deviation} {made : List Batch}
    {store : ObservedTransitions} {e' : Engine} (h : e.Handles now asked made store e')
    (hAsked : ∀ d ∈ asked, e.Answers d.tripKey) (key : TripKey) :
    e'.Answers key ↔ e.Answers key := by
  refine ⟨fun hAnswers => ?_, h.answers⟩
  by_cases hKey : key ∈ asked.map Deviation.tripKey
  · obtain ⟨d, hd, rfl⟩ := List.mem_map.1 hKey
    exact hAsked d hd
  · have hSilent : e'.timetable.silent = e.timetable.silent :=
      congrArg (fun c => c.timetable.silent) h.plan
    unfold Answers at hAnswers ⊢
    rw [h.predictors, if_neg hKey, hSilent] at hAnswers
    exact hAnswers

/-- Without an answer of the schedule source a deviation waits for ever. -/
theorem predictorOf_of_not_answers {d : Deviation} (h : ¬ e.Answers d.tripKey) :
    e.predictorOf d = (.error .stalled, e) := by
  unfold Answers at h
  rw [Classical.not_imp, Bool.not_eq_false] at h
  unfold predictorOf PredictorCache.getOrBuild Timetable.fetch
  rw [h.1]
  dsimp only
  rw [if_pos h.2]

theorem predictorsOf_stalls (own : List Deviation) : ∀ {e : Engine},
    (¬ ∀ d ∈ own, e.Answers d.tripKey) → (e.predictorsOf own).1 = .error .stalled := by
  induction own with
  | nil => exact fun h => absurd (fun d hd => absurd hd List.not_mem_nil) h
  | cons d rest ih =>
    intro e h
    unfold predictorsOf
    by_cases hHead : e.Answers d.tripKey
    · obtain ⟨e₁, hOne, hFirst⟩ := predictorOf_eq Instant.epoch hHead
      have hRest : ¬ ∀ d ∈ rest, e₁.Answers d.tripKey := by
        refine fun hAll => h (List.forall_mem_cons.2 ⟨hHead, fun x hx => ?_⟩)
        exact (hFirst.answers_iff (by simpa using hHead) x.tripKey).1 (hAll x hx)
      have hStalled := ih hRest
      rw [hOne]
      dsimp only
      rw [Prod.fst_eq_iff.1 hStalled]
    · rw [predictorOf_of_not_answers hHead]

/-- Predicting trips halts at the first one that cannot be predicted. -/
theorem predictTrips_overflow (found : List (TripPredictor × Deviation)) :
    ∀ {e : Engine} {b : Batch},
      (¬ ∀ x ∈ found, TripPredictor.CanPredict e.calendar.zone x) →
        (e.predictTrips b found).1 = .error .overflow := by
  induction found with
  | nil => exact fun h => absurd (fun x hx => absurd hx List.not_mem_nil) h
  | cons x rest ih =>
    intro e b h
    obtain ⟨predictor, d⟩ := x
    rw [predictTrips]
    by_cases hHead : TripPredictor.CanPredict e.calendar.zone (predictor, d)
    · have hRest : ¬ ∀ y ∈ rest, TripPredictor.CanPredict e.calendar.zone y :=
        fun hAll => h (List.forall_mem_cons.2 ⟨hHead, hAll⟩)
      rw [hHead.inRange_eq]
      cases hNear : TripPredictor.isNear (predictor, d) with
      | false => exact ih hRest
      | true =>
        obtain ⟨g, hPredict⟩ := hHead.exists_predict hNear e.transitions
        dsimp only at hPredict ⊢
        rw [hPredict]
        exact ih (e := { e with transitions := g.store }) hRest
    · rcases TripPredictor.overflow_of_not_canPredict hHead with hRange | ⟨hRange, hPredict⟩
      · rw [hRange]
      · dsimp only at hRange hPredict ⊢
        rw [hRange, hPredict]

/-- A vehicle is not predicted when one of its trips cannot be. -/
theorem predictVehicle_overflow (vehicle : String) (hAnswers : ∀ d ∈ own, e.Answers d.tripKey)
    (hLate : ¬ e.formation.InTime own) :
    (e.predictVehicle vehicle own).1 = .error .overflow := by
  obtain ⟨e₁, hFound, hFirst⟩ := predictorsOf_eq Instant.epoch own hAnswers
  have hCalendar : e₁.calendar = e.calendar := congrArg Formation.calendar hFirst.formation
  unfold predictVehicle
  rw [hFound]
  dsimp only
  rw [← Formation.trips]
  cases hLatest : latest? (e.formation.trips own) with
  | none =>
    have hNil : e.formation.trips own = [] := by
      unfold latest? at hLatest
      split at hLatest
      · assumption
      · cases hLatest
    refine absurd (fun x hx => ?_) hLate
    rw [hNil] at hx
    cases hx
  | some createdAt =>
    have hOverflow := predictTrips_overflow (e := e₁) (b := .start vehicle createdAt)
      (e.formation.trips own) (by rw [hCalendar]; exact hLate)
    dsimp only
    rw [Prod.fst_eq_iff.1 hOverflow]

theorem predictVehicle_stalls (vehicle : String) (h : ¬ ∀ d ∈ own, e.Answers d.tripKey) :
    (e.predictVehicle vehicle own).1 = .error .stalled := by
  have hStalled := predictorsOf_stalls own h
  unfold predictVehicle
  rw [Prod.fst_eq_iff.1 hStalled]

/-- When predicting a vehicle halts, nothing is sent for it. -/
theorem handleVehicle_of_halt {vehicle : String} (now : Instant) {halt : Halt}
    (h : (e.predictVehicle vehicle own).1 = .error halt) :
    ∃ e', e.handleVehicle vehicle own now = (.error halt, e') ∧ e'.core = e.core ∧
      e'.journal = e.journal := by
  have hJournal := (e.follows_predictVehicle vehicle own).1.journal
  refine ⟨(e.predictVehicle vehicle own).2, ?_, e.core_predictVehicle vehicle own,
    hJournal.trans (List.append_nil _)⟩
  unfold handleVehicle
  rw [Prod.fst_eq_iff.1 h]

/-- A batch cannot be parked when the end of its time cannot be told. -/
theorem handleVehicle_overflow {vehicle : String} {now : Instant} {b : Batch}
    (hAnswers : ∀ d ∈ own, e.Answers d.tripKey) (hTime : e.formation.InTime own)
    (hMade : (e.formation.batch vehicle own e.transitions).1 = some b) (hPending : b.pending ≠ 0)
    (hExpiry : now.shift? e.batches.lifetime = none) :
    (e.handleVehicle vehicle own now).1 = .error .overflow := by
  obtain ⟨e₁, hPredicted, hFirst⟩ := predictVehicle_eq now vehicle hAnswers hTime
  have hStore : e₁.batches = e.batches := hFirst.batches
  have hGet : (e₁.keep b).2.batches.get? (e₁.keep b).1 = some b := e₁.batches.get?_add_self b
  have hPark : (e₁.keep b).2.batches.park (e₁.keep b).1 b now = .error .overflow := by
    rw [BatchStore.park, show (e₁.keep b).2.batches.lifetime = e₁.batches.lifetime from rfl, hStore,
      hExpiry]
  unfold handleVehicle
  rw [hPredicted, hMade]
  dsimp only
  rcases dispatch_of_pending now hGet hPending with ⟨halt, hHalt, hDispatch⟩ | ⟨_, _, hDone, -⟩
  · rw [hPark] at hHalt
    cases hHalt
    rw [hDispatch]
  · rw [hPark] at hDone
    cases hDone

end Vehicle

-- ---------------------------------------------------------------------------
-- Vehicles
-- ---------------------------------------------------------------------------

/-- Whether vehicles can be handled to their end. -/
structure CanServe (e : Engine) (now : Instant) (vehicles : List (String × List Deviation)) :
    Prop where
  answers : ∀ x ∈ vehicles, ∀ d ∈ x.2, e.Answers d.tripKey
  inTime : ∀ x ∈ vehicles, e.formation.InTime x.2
  expiry : ∀ b ∈ (e.formation.batches e.transitions vehicles).1, b.pending ≠ 0 →
    (now.shift? e.batches.lifetime).isSome = true

section Vehicles

variable {e e' : Engine} {now : Instant}

/-- A vehicle can be handled to its end, or handling it halts, for want of time if the schedule
source answers. -/
theorem canServe_or_halts (e : Engine) (now : Instant) (vehicle : String) (own : List Deviation) :
    e.CanServe now [(vehicle, own)] ∨ ∃ halt, (e.handleVehicle vehicle own now).1 = .error halt ∧
      ((∀ d ∈ own, e.Answers d.tripKey) → halt = .overflow) := by
  by_cases hAnswers : ∀ d ∈ own, e.Answers d.tripKey
  · by_cases hTime : e.formation.InTime own
    · by_cases hExpiry : ∀ b ∈ (e.formation.batch vehicle own e.transitions).1, b.pending ≠ 0 →
          (now.shift? e.batches.lifetime).isSome = true
      · refine .inl ⟨by simpa using hAnswers, by simpa using hTime, fun b hb => hExpiry b ?_⟩
        simpa [Formation.batches] using hb
      · simp only [Classical.not_forall] at hExpiry
        obtain ⟨b, hMade, hPending, hNone⟩ := hExpiry
        rw [Option.not_isSome_iff_eq_none] at hNone
        exact .inr ⟨.overflow, handleVehicle_overflow hAnswers hTime hMade hPending hNone,
          fun _ => rfl⟩
    · obtain ⟨e', hHalt, -⟩ := handleVehicle_of_halt now
        (predictVehicle_overflow vehicle hAnswers hTime)
      exact .inr ⟨.overflow, congrArg Prod.fst hHalt, fun _ => rfl⟩
  · obtain ⟨e', hHalt, -⟩ := handleVehicle_of_halt now (predictVehicle_stalls vehicle hAnswers)
    exact .inr ⟨.stalled, congrArg Prod.fst hHalt, fun h => absurd h hAnswers⟩

/-- What can be handled after the first vehicle could be handled before it. -/
theorem CanServe.cons {vehicle : String} {own : List Deviation}
    {rest : List (String × List Deviation)} (h : e.CanServe now [(vehicle, own)])
    (hHandles : e.Handles now own (e.formation.batch vehicle own e.transitions).1.toList
      (e.formation.batch vehicle own e.transitions).2 e')
    (hRest : e'.CanServe now rest) : e.CanServe now ((vehicle, own) :: rest) where
  answers := List.forall_mem_cons.2 ⟨h.answers _ (List.mem_cons_self ..), fun x hx d hd =>
    (hHandles.answers_iff (h.answers _ (List.mem_cons_self ..)) _).1 (hRest.answers x hx d hd)⟩
  inTime := List.forall_mem_cons.2 ⟨h.inTime _ (List.mem_cons_self ..), fun x hx => by
    rw [← hHandles.formation]
    exact hRest.inTime x hx⟩
  expiry b hb hPending := by
    have hFresh : ∀ b ∈ (e.formation.batch vehicle own e.transitions).1.toList,
        b.published = false :=
      fun b hb => (Formation.vehicle_of_batch (Option.mem_toList.1 hb)).2
    have hLifetime : e'.batches.lifetime = e.batches.lifetime := by
      rw [hHandles.batches]
      exact (BatchStore.foldl_sendOff now e.batches hFresh).2
    rcases List.mem_append.1 hb with hOwn | hLater
    · exact h.expiry b (List.mem_append_left _ hOwn) hPending
    · rw [← hLifetime]
      refine hRest.expiry b ?_ hPending
      rw [hHandles.formation, hHandles.transitions]
      exact hLater

/-- Vehicles can be handled to their end, or handling them halts, for want of time if the schedule
source answers. -/
theorem canServe_all_or_halts (now : Instant) (vehicles : List (String × List Deviation)) :
    ∀ e : Engine, e.CanServe now vehicles ∨
      ∃ halt, (e.handleVehicles now vehicles).1 = .error halt ∧
        ((∀ x ∈ vehicles, ∀ d ∈ x.2, e.Answers d.tripKey) → halt = .overflow) := by
  induction vehicles with
  | nil =>
    intro e
    exact .inl ⟨fun _ hx => (nomatch hx), fun _ hx => (nomatch hx), fun _ hb => (nomatch hb)⟩
  | cons x rest ih =>
    intro e
    obtain ⟨vehicle, own⟩ := x
    rw [handleVehicles]
    rcases e.canServe_or_halts now vehicle own with hCan | ⟨halt, hHalt, hOverflow⟩
    · obtain ⟨e₁, hOne, hFirst⟩ := handleVehicle_eq now vehicle
        (hCan.answers _ (List.mem_cons_self ..)) (hCan.inTime _ (List.mem_cons_self ..))
        fun b hb => hCan.expiry b (List.mem_append_left _ (Option.mem_toList.2 hb))
      rw [hOne]
      dsimp only
      rcases ih e₁ with hRest | ⟨halt, hHalt, hOverflow⟩
      · exact .inl (hCan.cons hFirst hRest)
      · refine .inr ⟨halt, ?_, fun hAnswers => hOverflow fun y hy d hd =>
          hFirst.answers (hAnswers y (List.mem_cons_of_mem _ hy) d hd)⟩
        rw [Prod.fst_eq_iff.1 hHalt]
    · refine .inr ⟨halt, ?_, fun hAnswers => hOverflow (hAnswers _ (List.mem_cons_self ..))⟩
      rw [Prod.fst_eq_iff.1 hHalt]

/-- Vehicles after others are handled by what those leave. -/
theorem handleVehicles_append {front back : List (String × List Deviation)} :
    ∀ {e e' : Engine} {made : List BatchRef}, e.handleVehicles now front = (.ok made, e') →
      e.handleVehicles now (front ++ back) =
        match e'.handleVehicles now back with
        | (.error halt, e) => (.error halt, e)
        | (.ok more, e) => (.ok (made ++ more), e) := by
  induction front with
  | nil =>
    intro e e' made h
    cases h
    rw [List.nil_append]
    rcases e.handleVehicles now back with ⟨halt | more, e₁⟩
    · rfl
    · rfl
  | cons x rest ih =>
    intro e e' made h
    obtain ⟨vehicle, own⟩ := x
    rw [handleVehicles] at h
    rw [List.cons_append, handleVehicles]
    rcases hOne : e.handleVehicle vehicle own now with ⟨halt | one, e₁⟩
    · rw [hOne] at h
      cases h
    · rw [hOne] at h
      dsimp only at h ⊢
      rcases hRest : e₁.handleVehicles now rest with ⟨halt | others, e₂⟩
      · rw [hRest] at h
        cases h
      · rw [hRest] at h
        cases h
        rw [ih hRest]
        rcases e'.handleVehicles now back with ⟨halt | more, e₂⟩
        · rfl
        · simp only [List.append_assoc]

/-- The vehicles before one with a trip that cannot be predicted are served, and no other. -/
theorem handleVehicles_late {front back : List (String × List Deviation)} {vehicle : String}
    {own : List Deviation} (hFront : e.CanServe now front)
    (hAnswers : ∀ d ∈ own, e.Answers d.tripKey) (hLate : ¬ e.formation.InTime own) :
    ∃ e', e.handleVehicles now (front ++ (vehicle, own) :: back) = (.error .overflow, e') ∧
      e'.core = { e.core with
        batches := (e.formation.batches e.transitions front).1.foldl (BatchStore.sendOff now)
          e.batches } ∧
      e'.journal =
        e.journal ++ (e.formation.batches e.transitions front).1.flatMap e.core.messages := by
  obtain ⟨e₁, hServed, hFirst⟩ :=
    handleVehicles_eq now front hFront.answers hFront.inTime hFront.expiry
  obtain ⟨e₂, hHalt, hCore, hJournal⟩ := handleVehicle_of_halt now <|
    predictVehicle_overflow (e := e₁) vehicle (fun d hd => hFirst.answers (hAnswers d hd))
      (by rw [hFirst.formation]; exact hLate)
  refine ⟨e₂, ?_, hCore.trans hFirst.core, hJournal.trans hFirst.journal⟩
  rw [handleVehicles_append hServed, handleVehicles, hHalt]

end Vehicles

-- ---------------------------------------------------------------------------
-- Reports
-- ---------------------------------------------------------------------------

section Reports

variable {e : Engine} {r : VehicleReport} {now : Instant}

theorem canHandle_iff : e.CanHandle r now ↔ e.CanServe now (byVehicle (e.allowed r)) := by
  have hMem : ∀ d, d ∈ e.allowed r ↔ ∃ x ∈ byVehicle (e.allowed r), d ∈ x.2 := fun d => by
    rw [← (perm_byVehicle (e.allowed r)).mem_iff, List.mem_flatMap]
  constructor
  · intro h
    exact ⟨fun x hx d hd => h.answers d ((hMem d).2 ⟨x, hx, hd⟩), h.inTime, h.expiry⟩
  · intro h
    refine ⟨fun d hd => ?_, h.inTime, h.expiry⟩
    obtain ⟨x, hx, hOwn⟩ := (hMem d).1 hd
    exact h.answers x hx d hOwn

/-- A report that cannot be handled to its end halts, for want of time if the schedule source
answers. -/
theorem handleReport_halts (h : ¬ e.CanHandle r now) :
    ∃ halt, (e.handleReport r now).1 = .error halt ∧
      ((∀ d ∈ e.allowed r, e.Answers d.tripKey) → halt = .overflow) := by
  rcases canServe_all_or_halts now (byVehicle (e.allowed r))
    (e.measure fun m => m.count .reportsHandled) with hCan | ⟨halt, hHalt, hOverflow⟩
  · exact absurd (canHandle_iff.2 ⟨hCan.answers, hCan.inTime, hCan.expiry⟩) h
  · refine ⟨halt, ?_, fun hAnswers => hOverflow fun x hx d hd => hAnswers d ?_⟩
    · unfold handleReport
      dsimp only
      rw [← allowed, Prod.fst_eq_iff.1 hHalt]
    · exact (perm_byVehicle (e.allowed r)).mem_iff.1 (List.mem_flatMap.2 ⟨x, hx, hd⟩)

/-- A report is handled to its end exactly when nothing halts it. -/
theorem handleReport_eq_ok_iff :
    (∃ refs, (e.handleReport r now).1 = .ok refs) ↔ e.CanHandle r now := by
  refine ⟨fun ⟨refs, hDone⟩ => ?_, fun h => ⟨_, (handleReport_eq h).1⟩⟩
  by_contra hCannot
  obtain ⟨halt, hHalt, -⟩ := handleReport_halts hCannot
  rw [hDone] at hHalt
  cases hHalt

/-- The vehicles of a report before one with a trip that cannot be predicted are served, and no
other. -/
theorem handleReport_late {front back : List (String × List Deviation)} {vehicle : String}
    {own : List Deviation} (hGroups : byVehicle (e.allowed r) = front ++ (vehicle, own) :: back)
    (hFront : e.CanServe now front) (hAnswers : ∀ d ∈ own, e.Answers d.tripKey)
    (hLate : ¬ e.formation.InTime own) :
    (e.handleReport r now).1 = .error .overflow ∧
      (e.handleReport r now).2.batches.batches = e.batches.batches ++
        (e.formation.batches e.transitions front).1.map Batch.sentOff ∧
      (e.handleReport r now).2.journal = e.journal ++
        (e.formation.batches e.transitions front).1.flatMap e.core.messages := by
  have hCounted : (e.measure fun m => m.count .reportsHandled).core = e.core :=
    core_add e (by simp) 1
  have hServe : (e.measure fun m => m.count .reportsHandled).CanServe now front :=
    ⟨hFront.answers, hFront.inTime, hFront.expiry⟩
  obtain ⟨e', hHalt, hCore, hJournal⟩ : ∃ e', _ = (Except.error Halt.overflow, e') ∧ _ ∧ _ :=
    handleVehicles_late hServe hAnswers hLate
  have hStore := congrArg Core.batches hCore
  rw [hCounted] at hJournal
  unfold handleReport
  dsimp only
  rw [← allowed, hGroups, hHalt]
  refine ⟨rfl, (congrArg BatchStore.batches hStore).trans ?_, hJournal⟩
  exact (BatchStore.foldl_sendOff now e.batches
    fun b hb => (Formation.vehicle_of_mem_batches hb).2).1

end Reports

-- ---------------------------------------------------------------------------
-- Default settings
-- ---------------------------------------------------------------------------

theorem VehicleEffect.lifetime {s s' : BatchStore} {vehicle : String} {now : Instant}
    {result : Except Halt (Option BatchRef)} (h : VehicleEffect s vehicle now result s') :
    s'.lifetime = s.lifetime := by
  cases h with
  | halted => rfl
  | nothing => rfl
  | claimed =>
    rw [BatchStore.claim_eq (s.get?_add_self _)]
    rfl
  | parked _ _ _ hPark =>
    obtain ⟨-, rfl⟩ := BatchStore.park_eq_ok_iff.1 hPark
    rfl
  | unparked => rfl

/-- No event changes how long batches stay parked. -/
theorem lifetime_handle {e : Engine} (h : e.batches.Reachable) (event : Event) :
    (e.handle event).batches.lifetime = e.batches.lifetime := by
  cases event with
  | observe ts => rfl
  | report r now =>
    obtain ⟨s', hLast, hCore⟩ := handleReport_induction
      (P := fun s => s.lifetime = e.batches.lifetime) now
      (fun hEffect hSame => hEffect.lifetime.trans hSame) e r rfl
    rw [handle, show (e.handleReport r now).2.batches = s' from congrArg Core.batches hCore, hLast]
  | response r now =>
    rw [handle, batches_handleResponse]
    rcases BatchStore.apply_cases h.sound r now with ⟨error, hError⟩ |
      ⟨c, seconds, ref, b, b', -, -, -, -, ⟨-, hApply⟩ | ⟨-, hApply⟩⟩
    · rw [hError]
    · rw [hApply]
      rfl
    · rw [hApply]
      rfl
  | sweep now => rfl

theorem lifetime_run (events : List Event) : ∀ {e : Engine}, e.batches.Reachable →
    (e.run events).batches.lifetime = e.batches.lifetime := by
  induction events with
  | nil => exact fun _ => rfl
  | cons event rest ih =>
    exact fun h => (ih (reachable_handle h event)).trans (lifetime_handle h event)

/-- What an engine that started with default settings handles reports with. -/
structure RunsOnDefaults (e : Engine) (zones : ZoneTable) : Prop where
  keeps : e.Keeps
  horizon : e.horizon = ⟨3600000000000⟩
  lifetime : e.batches.lifetime = ⟨30000000000⟩
  zone : zones Settings.defaultZone = some e.calendar.zone
  answers : ∀ key, e.Answers key

theorem engineSettings_default {zones : ZoneTable} {name : String} {settings : EngineSettings}
    (h : (Settings.default name).engineSettings zones = .ok settings) :
    ∃ zone, zones Settings.defaultZone = some zone ∧
      settings = { Sample.settings with instanceName := name, zone } := by
  unfold Settings.engineSettings Settings.zone? at h
  cases hZone : zones Settings.defaultZone with
  | none =>
    rw [show (Settings.default name).zone = Settings.defaultZone from rfl, hZone] at h
    cases h
  | some zone =>
    rw [show (Settings.default name).zone = Settings.defaultZone from rfl, hZone] at h
    cases h
    exact ⟨zone, rfl, rfl⟩

theorem runsOnDefaults {zones : ZoneTable} {name : String} {settings : EngineSettings}
    {trips : List Trip} {models : ModelRegistry} {holidays : Holidays} {refusedTrips : List String}
    {wall : Instant} {start : Engine}
    (hDefault : (Settings.default name).engineSettings zones = .ok settings)
    (hStart : start? settings (.ofList trips) models holidays refusedTrips wall = some start)
    (events : List Event) : (start.run events).RunsOnDefaults zones := by
  obtain ⟨zone, hZone, rfl⟩ := engineSettings_default hDefault
  obtain ⟨hKeeps, hTimetable, -⟩ := keeps_start hStart
  obtain ⟨sent, hFollows⟩ := follows_run events hKeeps
  have hBegin : start.horizon = ⟨3600000000000⟩ ∧ start.calendar.zone = zone := by
    cases hStart
    exact ⟨rfl, rfl⟩
  have hCalendar : (start.run events).calendar.zone = start.calendar.zone :=
    congrArg (fun c => c.calendar.zone) hFollows.plan
  refine ⟨hFollows.keeps hKeeps, (congrArg Plan.horizon hFollows.plan).trans hBegin.1, ?_, ?_,
    fun key _ => ?_⟩
  · have hStore : start.batches = .empty ⟨30000000000⟩ :=
      congrArg Core.batches (core_start hStart)
    rw [lifetime_run events (by rw [hStore]; exact .empty _), hStore]
    rfl
  · rw [hZone, hCalendar, hBegin.2]
  · have hSilent : (start.run events).timetable.silent = [] := by
      rw [show (start.run events).timetable = start.timetable from
        congrArg Plan.timetable hFollows.plan, hTimetable, Timetable.silent_ofList]
    rw [hSilent]
    rfl

/-- Whether the times that predicting a trip computes with default settings are in range: an hour
after the observation if the trip has stops, and the local time of the observation if the trip is
near and looks anything up. -/
structure Timely (zone : Zone) (x : TripPredictor × Deviation) : Prop where
  hour : x.1.trip.firstDeparture.isSome = true →
    x.2.observedAt.second + 3600 < Instant.endSecond
  date : TripPredictor.isNear x = true → x.1.lookups x.2 ≠ [] →
    Instant.firstSecond ≤ zone.localSecond x.2.observedAt ∧
      zone.localSecond x.2.observedAt < Instant.endSecond

instance (zone : Zone) (x : TripPredictor × Deviation) : Decidable (Timely zone x) :=
  decidable_of_iff ((x.1.trip.firstDeparture.isSome = true →
      x.2.observedAt.second + 3600 < Instant.endSecond) ∧
      (TripPredictor.isNear x = true → x.1.lookups x.2 ≠ [] →
        Instant.firstSecond ≤ zone.localSecond x.2.observedAt ∧
          zone.localSecond x.2.observedAt < Instant.endSecond))
    ⟨fun h => ⟨h.1, h.2⟩, fun h => ⟨h.hour, h.date⟩⟩

/-- Whether the times that handling a report computes with default settings are in range: those of
its trips, and half a minute from now if a batch is parked. -/
structure FitsDefaults (e : Engine) (r : VehicleReport) (now : Instant) : Prop where
  observed : ∀ x ∈ byVehicle (e.allowed r), ∀ y ∈ e.formation.trips x.2,
    Timely e.calendar.zone y
  parked : ∀ b ∈ (e.formed r).1, b.pending ≠ 0 → now.second + 30 < Instant.endSecond

/-- With default settings a trip can be predicted when the times that this takes are in range. -/
theorem RunsOnDefaults.canPredict_iff {e : Engine} {zones : ZoneTable} (h : e.RunsOnDefaults zones)
    {own : List Deviation} {y : TripPredictor × Deviation} (hy : y ∈ e.formation.trips own) :
    TripPredictor.CanPredict e.calendar.zone y ↔ Timely e.calendar.zone y := by
  obtain ⟨-, hKnown⟩ := Formation.mem_found_iff.1 (mem_of_mem_inServiceOrder hy)
  have hHour : (y.1.cutoff? y.2).isSome = true ↔
      y.2.observedAt.second + 3600 < Instant.endSecond := by
    rw [TripPredictor.cutoff?, h.keeps.horizon_of_known hKnown, h.horizon]
    exact Instant.shift?_isSome_iff (n := 3600) (by decide) (by decide)
  constructor
  · intro hCan
    exact ⟨fun hDeparts => hHour.1 (hCan.cutoff hDeparts),
      fun hNear hSome => Zone.wallTime?_isSome_iff.1 (hCan.dated hNear hSome)⟩
  · intro hTimely
    exact ⟨fun hDeparts => hHour.2 (hTimely.hour hDeparts),
      fun hNear hSome => Zone.wallTime?_isSome_iff.2 (hTimely.date hNear hSome)⟩

theorem RunsOnDefaults.canHandle_iff {e : Engine} {zones : ZoneTable} (h : e.RunsOnDefaults zones)
    {r : VehicleReport} {now : Instant} : e.CanHandle r now ↔ e.FitsDefaults r now := by
  have hExpiry : (now.shift? e.batches.lifetime).isSome = true ↔
      now.second + 30 < Instant.endSecond := by
    rw [h.lifetime]
    exact Instant.shift?_isSome_iff (n := 30) (by decide) (by decide)
  constructor
  · intro hCan
    exact ⟨fun x hx y hy => (h.canPredict_iff hy).1 (hCan.inTime x hx y hy),
      fun b hb hPending => hExpiry.1 (hCan.expiry b hb hPending)⟩
  · intro hFits
    exact ⟨fun d _ => h.answers d.tripKey,
      fun x hx y hy => (h.canPredict_iff hy).2 (hFits.observed x hx y hy),
      fun b hb hPending => hExpiry.2 (hFits.parked b hb hPending)⟩

/-- With default settings a report is handled to its end exactly when the hour after each
observation of a trip that is lined up, the local time of each observation for which a trip within
the horizon looks anything up, and the half minute after now if a batch is parked, are in range.
Otherwise handling it halts for want of time. When it is a trip of a vehicle that the times are out
of range for, the vehicles before it are served, and neither it nor any vehicle after it is. -/
theorem handled_unless_observed_too_late {zones : ZoneTable} {name : String}
    {settings : EngineSettings} {trips : List Trip} {models : ModelRegistry} {holidays : Holidays}
    {refusedTrips : List String} {wall : Instant} {start e : Engine} {events : List Event}
    (hDefault : (Settings.default name).engineSettings zones = .ok settings)
    (hStart : start? settings (.ofList trips) models holidays refusedTrips wall = some start)
    (hReached : start.run events = e) (r : VehicleReport) (now : Instant) :
    zones Settings.defaultZone = some e.calendar.zone ∧
    ((∃ refs, (e.handleReport r now).1 = .ok refs) ↔ e.FitsDefaults r now) ∧
    (¬ e.FitsDefaults r now → (e.handleReport r now).1 = .error .overflow) ∧
    ∀ front vehicle own back, byVehicle (e.allowed r) = front ++ (vehicle, own) :: back →
      e.CanServe now front → (∃ y ∈ e.formation.trips own, ¬ Timely e.calendar.zone y) →
      (e.handleReport r now).1 = .error .overflow ∧
      (e.handleReport r now).2.batches.batches = e.batches.batches ++
        (e.formation.batches e.transitions front).1.map Batch.sentOff ∧
      (e.handleReport r now).2.journal = e.journal ++
        (e.formation.batches e.transitions front).1.flatMap e.core.messages := by
  have hRuns : e.RunsOnDefaults zones := hReached ▸ runsOnDefaults hDefault hStart events
  refine ⟨hRuns.zone, handleReport_eq_ok_iff.trans hRuns.canHandle_iff, fun hUnfit => ?_,
    fun front vehicle own back hGroups hFront hLate => ?_⟩
  · obtain ⟨halt, hHalt, hOverflow⟩ := handleReport_halts (mt hRuns.canHandle_iff.1 hUnfit)
    rw [hHalt, hOverflow fun d _ => hRuns.answers d.tripKey]
  · obtain ⟨y, hy, hUntimely⟩ := hLate
    have hNotInTime : ¬ e.formation.InTime own := fun hTime =>
      hUntimely ((hRuns.canPredict_iff hy).1 (hTime y hy))
    exact handleReport_late hGroups hFront (fun d _ => hRuns.answers d.tripKey) hNotInTime

/-- The sample settings are the default ones. -/
theorem engineSettings_sample :
    (Settings.default "sample").engineSettings Sample.zones = .ok Sample.settings := rfl

/-- Half an hour before the end of time. -/
def halfHourLeft : Instant := ⟨8210266875000, 0, by decide, Instant.epoch.nanos_lt⟩

/-- Two vehicles on one trip, the first of them observed half an hour before the end of time. -/
def lastHalfHour : VehicleReport :=
  ⟨[], [{ Sample.deviation with observedAt := halfHourLeft },
    { Sample.deviation with vehicle := "V2" }]⟩

theorem byVehicle_lastHalfHour : byVehicle (Sample.engine.allowed lastHalfHour) =
    [] ++ ("V1", [{ Sample.deviation with observedAt := halfHourLeft }]) ::
      [("V2", [{ Sample.deviation with vehicle := "V2" }])] := by
  have hOnce : ((Sample.engine.allowed lastHalfHour).map Deviation.vehicle).eraseDups =
      ["V1", "V2"] := by
    decide +kernel
  rw [byVehicle_eq_map hOnce (by decide)]
  decide +kernel

theorem fitsDefaults_only :
    Sample.engine.FitsDefaults (lastHalfHour.only "V2") (Sample.clock 0) := by
  have hOne : byVehicle (Sample.engine.allowed (lastHalfHour.only "V2")) =
      [("V2", Sample.engine.allowed (lastHalfHour.only "V2"))] :=
    byVehicle_of_one "V2" (by decide +kernel) (by decide +kernel)
  refine ⟨?_, ?_⟩
  · rw [hOne]
    decide +kernel
  · exact fun _ _ _ => by decide

/-- The second vehicle is served without the first, but not with it. -/
theorem served_without_the_late_vehicle :
    (Settings.default "sample").engineSettings Sample.zones = .ok Sample.settings ∧
    Sample.engine? = some Sample.engine ∧
    (∃ refs, (Sample.engine.handleReport (lastHalfHour.only "V2") (Sample.clock 0)).1 =
      .ok refs) ∧
    (Sample.engine.handleReport lastHalfHour (Sample.clock 0)).1 = .error .overflow := by
  have hStart : Sample.engine? = some Sample.engine := (Option.some_get _).symm
  have hReached : Sample.engine.run [] = Sample.engine := rfl
  obtain ⟨-, hAlone, -⟩ := handled_unless_observed_too_late engineSettings_sample hStart hReached
    (lastHalfHour.only "V2") (Sample.clock 0)
  obtain ⟨-, -, -, hLate⟩ := handled_unless_observed_too_late engineSettings_sample hStart hReached
    lastHalfHour (Sample.clock 0)
  have hFront : Sample.engine.CanServe (Sample.clock 0) [] :=
    ⟨fun _ hx => (nomatch hx), fun _ hx => (nomatch hx), fun _ hb => (nomatch hb)⟩
  exact ⟨engineSettings_sample, hStart, hAlone.2 fitsDefaults_only,
    (hLate _ _ _ _ byVehicle_lastHalfHour hFront (by decide +kernel)).1⟩

/-- An observation half an hour before the end of time halts a report with default settings, and
nothing is sent for the vehicle after it, which alone would have had its requests sent. -/
theorem halted_by_one_observation :
    (Settings.default "sample").engineSettings Sample.zones = .ok Sample.settings ∧
    Sample.engine? = some Sample.engine ∧
    (Sample.engine.handleReport lastHalfHour (Sample.clock 0)).1 = .error .overflow ∧
    (Sample.engine.handleReport lastHalfHour (Sample.clock 0)).2.journal = [] ∧
    (Sample.engine.handleReport (lastHalfHour.only "V2") (Sample.clock 0)).1 = .ok [0] ∧
    (Sample.engine.handleReport (lastHalfHour.only "V2") (Sample.clock 0)).2.journal.length =
      2 := by
  have hRuns : Sample.engine.RunsOnDefaults Sample.zones :=
    runsOnDefaults engineSettings_sample (Option.some_get _).symm []
  have hFront : Sample.engine.CanServe (Sample.clock 0) [] :=
    ⟨fun _ hx => (nomatch hx), fun _ hx => (nomatch hx), fun _ hb => (nomatch hb)⟩
  obtain ⟨hHalts, -, hNothing⟩ := handleReport_late byVehicle_lastHalfHour hFront
    (fun d _ => hRuns.answers d.tripKey) (by decide +kernel)
  obtain ⟨hDone, hHandles⟩ := handleReport_eq (hRuns.canHandle_iff.2 fitsDefaults_only)
  have hFormed : (Sample.engine.formed (lastHalfHour.only "V2")).1.length = 1 ∧
      ((Sample.engine.formed (lastHalfHour.only "V2")).1.flatMap
        Sample.engine.core.messages).length = 2 := by
    rw [formed, byVehicle_of_one "V2" (by decide +kernel) (by decide +kernel)]
    decide +kernel
  refine ⟨engineSettings_sample, (Option.some_get _).symm, hHalts, hNothing, ?_, ?_⟩
  · rw [hDone, hFormed.1]
    rfl
  · rw [hHandles.journal, List.length_append, hFormed.2]
    rfl

end Engine

end TransitForecast
