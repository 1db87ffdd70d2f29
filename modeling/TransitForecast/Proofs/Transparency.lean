import TransitForecast.Proofs.Sweeping

/-!
# TransitForecast — the cache of predictors cannot be seen

A predictor is built from the schedule of its trip, the models and the rules of an engine, all of
which stay as they were when the engine started. So a kept predictor is always the one that would be
built now, and two engines that differ in nothing but which predictors they keep handle every report
alike: they halt alike, drop alike, build and send the same, and differ afterwards in nothing but
which predictors they keep.

Only looking up predictors touches the cache. Everything else is shown to be blind to it, and does
the same whatever it holds.

## Results

* `blind_dispatch`, `blind_predictTrips` — what does not touch the cache.
* `Mates.handleReport`   — engines that differ in the cache only stay so.
* `refetches_run`        — kept predictors are those that would be built, after any run.
* `cache_is_transparent` — both, for engines that started alike.
-/

namespace TransitForecast

namespace Engine

-- ---------------------------------------------------------------------------
-- What is blind to the cache
-- ---------------------------------------------------------------------------

/-- An engine with another cache of predictors. -/
def caching (e : Engine) (cache : PredictorCache) : Engine := { e with predictors := cache }

/-- Whether an action neither looks into the cache of predictors nor changes it, nor the plan. -/
structure Blind {α : Type} (act : Engine → α × Engine) : Prop where
  same : ∀ e cache, act (e.caching cache) = ((act e).1, (act e).2.caching cache)
  plan : ∀ e, (act e).2.plan = e.plan

theorem Blind.predictors {α : Type} {act : Engine → α × Engine} (h : Blind act) (e : Engine) :
    (act e).2.predictors = e.predictors :=
  congrArg (fun x => x.2.predictors) (h.same e e.predictors)

theorem Blind.stock {α : Type} {act : Engine → α × Engine} (h : Blind act) (e : Engine) :
    (act e).2.stock = e.stock :=
  Prod.ext (h.plan e) (h.predictors e)

section Blind

variable (e : Engine) (cache : PredictorCache)

theorem caching_send (subject : String) (payload : Payload) :
    (e.caching cache).send subject payload =
      ((e.send subject payload).1, (e.send subject payload).2.caching cache) := by
  unfold send
  rw [show (e.caching cache).bus = e.bus from rfl]
  cases e.bus.publish subject payload.text with
  | ok bus => rfl
  | error error => rfl

theorem caching_publishUpdate (u : TripUpdate) : (e.caching cache).publishUpdate u =
    ((e.publishUpdate u).1, (e.publishUpdate u).2.caching cache) := by
  unfold publishUpdate
  rw [show (e.caching cache).refusedTrips = e.refusedTrips from rfl, caching_send]
  split
  · rfl
  · rfl

theorem caching_publishUpdates (updates : List TripUpdate) : ∀ e : Engine,
    (e.caching cache).publishUpdates updates =
      ((e.publishUpdates updates).1, (e.publishUpdates updates).2.caching cache) := by
  induction updates with
  | nil => exact fun _ => rfl
  | cons u rest ih =>
    intro e
    unfold publishUpdates
    rw [caching_publishUpdate]
    rcases e.publishUpdate u with ⟨sent, e₁⟩
    cases sent with
    | true => exact ih (e₁.measure fun m => m.count .updatesPublished)
    | false =>
      dsimp only
      rw [show (e₁.caching cache).measure (fun m => m.count .publishFailures) =
        (e₁.measure fun m => m.count .publishFailures).caching cache from rfl, ih]

theorem caching_reportPublisher (failed total : Nat) :
    (e.caching cache).reportPublisher failed total =
      (e.reportPublisher failed total).caching cache := by
  unfold reportPublisher
  split
  · rfl
  · split
    · rfl
    · rfl

theorem caching_publishBatch (ref : BatchRef) : (e.caching cache).publishBatch ref =
    ((e.publishBatch ref).1, (e.publishBatch ref).2.caching cache) := by
  unfold publishBatch
  rw [show (e.caching cache).batches = e.batches from rfl]
  cases e.batches.get? ref with
  | none => rfl
  | some b =>
    dsimp only
    rw [show (e.caching cache).updateRules = e.updateRules from rfl, caching_publishUpdates]
    dsimp only
    rw [caching_reportPublisher]
    rfl

theorem caching_sendRequests (b : Batch) :
    (e.caching cache).sendRequests b = (e.sendRequests b).caching cache := by
  have hOne : ∀ (e : Engine) (r : InferenceRequest),
      (e.caching cache).sendRequest r = (e.sendRequest r).caching cache :=
    fun e _ => congrArg Prod.snd (e.caching_send cache _ _)
  have hAll : b.requests.foldl sendRequest (e.caching cache) =
      (b.requests.foldl sendRequest e).caching cache :=
    List.foldl_hom (fun e : Engine => e.caching cache) hOne
  unfold sendRequests
  rw [hAll]
  rfl

theorem blind_keep (b : Batch) : Blind fun e => e.keep b := ⟨fun _ _ => rfl, fun _ => rfl⟩

/-- Sending off a batch is blind to the cache. -/
theorem blind_dispatch (ref : BatchRef) (now : Instant) : Blind fun e => e.dispatch ref now where
  same e cache := by
    unfold dispatch
    rw [show (e.caching cache).batches = e.batches from rfl]
    cases e.batches.get? ref with
    | none => rfl
    | some b =>
      dsimp only
      split
      · have hClaim : (e.caching cache).claim ref =
            ((e.claim ref).1, (e.claim ref).2.caching cache) := rfl
        rw [hClaim]
        rcases e.claim ref with ⟨won, e₁⟩
        cases won with
        | true =>
          dsimp only
          rw [caching_publishBatch]
        | false => rfl
      · cases e.batches.park ref b now with
        | error halt => rfl
        | ok parked =>
          dsimp only
          have hShown : ({ e.caching cache with batches := parked.2 } : Engine).showParked =
            { e with batches := parked.2 }.showParked.caching cache := rfl
          rw [hShown, caching_sendRequests]
  plan e := by
    unfold dispatch
    cases e.batches.get? ref with
    | none => rfl
    | some b =>
      dsimp only
      split
      · have hClaim : (e.claim ref).2.plan = e.plan := rfl
        rcases hClaimed : e.claim ref with ⟨won, e₁⟩
        rw [hClaimed] at hClaim
        cases won with
        | true => exact (congrArg Prod.fst (e₁.stock_publishBatch ref)).trans hClaim
        | false => exact hClaim
      · cases e.batches.park ref b now with
        | error halt => rfl
        | ok parked =>
          exact (passes_sendRequests { e with batches := parked.2 }.showParked b).plan

/-- Predicting trips is blind to the cache once their predictors are found. -/
theorem blind_predictTrips (found : List (TripPredictor × Deviation)) :
    ∀ b : Batch, Blind fun e => e.predictTrips b found := by
  induction found with
  | nil => exact fun _ => ⟨fun _ _ => rfl, fun _ => rfl⟩
  | cons x rest ih =>
    intro b
    obtain ⟨predictor, d⟩ := x
    refine ⟨fun e cache => ?_, fun e => ?_⟩
    · rw [predictTrips, predictTrips]
      rw [show (e.caching cache).calendar = e.calendar from rfl,
        show (e.caching cache).transitions = e.transitions from rfl]
      cases predictor.inRange d with
      | error halt => rfl
      | ok near =>
        cases near with
        | false => exact (ih b).same e cache
        | true =>
          dsimp only
          cases predictor.predict e.calendar e.transitions d with
          | error halt => rfl
          | ok g => exact (ih _).same { e with transitions := g.store } cache
    · rw [predictTrips]
      cases predictor.inRange d with
      | error halt => rfl
      | ok near =>
        cases near with
        | false => exact (ih b).plan e
        | true =>
          dsimp only
          cases predictor.predict e.calendar e.transitions d with
          | error halt => rfl
          | ok g => exact (ih _).plan { e with transitions := g.store }

end Blind

-- ---------------------------------------------------------------------------
-- Engines that differ in the cache only
-- ---------------------------------------------------------------------------

/-- What an engine counts when it looks up a trip: a deviation without schedule is dropped. -/
def counted (e : Engine) (d : Deviation) : Engine :=
  match e.timetable.fetch d.tripKey with
  | .ok (.error error) => e.drop error
  | _ => e

theorem caching_counted (e : Engine) (cache : PredictorCache) (d : Deviation) :
    (e.caching cache).counted d = (e.counted d).caching cache := by
  unfold counted
  rw [show (e.caching cache).timetable = e.timetable from rfl]
  rcases e.timetable.fetch d.tripKey with halt | error | trip
  · rfl
  · rfl
  · rfl

/-- Looking up a trip counts and touches the cache, and does nothing else. -/
theorem counted_predictorOf {e : Engine} (h : e.Refetches) (d : Deviation) :
    (e.predictorOf d).2 = (e.counted d).caching (e.predictorOf d).2.predictors := by
  unfold predictorOf PredictorCache.getOrBuild counted
  cases hKept : e.predictors.find? d.tripKey with
  | some kept =>
    obtain ⟨trip, hFetch, -⟩ := h _ _ hKept
    rw [hFetch]
    rfl
  | none =>
    dsimp only
    rcases e.timetable.fetch d.tripKey with halt | error | trip
    · rfl
    · rfl
    · rfl

/-- Two engines that differ in nothing but their caches, which hold what would be built again. -/
structure Mates (a b : Engine) : Prop where
  rest : b = a.caching b.predictors
  left : a.Refetches
  right : b.Refetches

/-- What two engines have come to: the same result, and a difference in the caches only. -/
structure Match {α : Type} (x y : α × Engine) : Prop where
  same : y.1 = x.1
  mates : Mates x.2 y.2

theorem Match.exists_eq {α : Type} {x y : α × Engine} (h : Match x y) :
    ∃ result a b, x = (result, a) ∧ y = (result, b) ∧ Mates a b := by
  obtain ⟨result, a⟩ := x
  obtain ⟨result', b⟩ := y
  obtain ⟨hSame, hMates⟩ := h
  dsimp only at hSame hMates
  exact ⟨result, a, b, rfl, by rw [hSame], hMates⟩

theorem Refetches.of_stock {e e' : Engine} (h : e.Refetches) (hStock : e'.stock = e.stock) :
    e'.Refetches := by
  have hPlan : e'.plan = e.plan := congrArg Prod.fst hStock
  have hPredictors : e'.predictors = e.predictors := congrArg Prod.snd hStock
  have hTimetable : e'.timetable = e.timetable := congrArg Plan.timetable hPlan
  intro key p hFound
  rw [hPredictors] at hFound
  rw [hTimetable, hPlan]
  exact h key p hFound

namespace Mates

variable {a b : Engine}

theorem refl {e : Engine} (h : e.Refetches) : Mates e e := ⟨rfl, h, h⟩

theorem plan (h : Mates a b) : b.plan = a.plan := by
  rw [h.rest]
  rfl

/-- What is blind to the cache does the same to both engines. -/
theorem act {α : Type} {f : Engine → α × Engine} (hBlind : Blind f) (h : Mates a b) :
    Match (f a) (f b) := by
  have hBoth := hBlind.same a b.predictors
  rw [← h.rest] at hBoth
  refine ⟨by rw [hBoth], ?_, h.left.of_stock (hBlind.stock a), h.right.of_stock (hBlind.stock b)⟩
  rw [hBlind.predictors b, hBoth]

theorem measure (h : Mates a b) (change : Metrics → Metrics) :
    Mates (a.measure change) (b.measure change) :=
  (act (f := fun e => ((), e.measure change)) ⟨fun _ _ => rfl, fun _ => rfl⟩ h).mates

/-- The same trips are found, whether they were kept or not. -/
theorem predictorOf (h : Mates a b) (d : Deviation) :
    Match (a.predictorOf d) (b.predictorOf d) := by
  obtain ⟨hLeft, hPassesLeft⟩ := passes_predictorOf h.left d
  obtain ⟨hRight, hPassesRight⟩ := passes_predictorOf h.right d
  refine ⟨by rw [hLeft, hRight, h.plan], ?_, hPassesLeft.refetches h.left,
    hPassesRight.refetches h.right⟩
  have hSame : b.counted d = (a.counted d).caching b.predictors := by
    rw [← caching_counted, ← h.rest]
  rw [counted_predictorOf h.left d, counted_predictorOf h.right d, hSame]
  rfl

/-- The same trips are found of all deviations. -/
theorem predictorsOf (deviations : List Deviation) : ∀ {a b : Engine}, Mates a b →
    Match (a.predictorsOf deviations) (b.predictorsOf deviations) := by
  induction deviations with
  | nil => exact fun h => ⟨rfl, h⟩
  | cons d more ih =>
    intro a b h
    obtain ⟨found, a₁, b₁, hA, hB, hFirst⟩ := (h.predictorOf d).exists_eq
    unfold Engine.predictorsOf
    rw [hA, hB]
    cases found with
    | error halt => exact ⟨rfl, hFirst⟩
    | ok found =>
      obtain ⟨others, a₂, b₂, hA', hB', hLast⟩ := (ih hFirst).exists_eq
      dsimp only
      rw [hA', hB']
      cases others with
      | error halt => exact ⟨rfl, hLast⟩
      | ok others => exact ⟨rfl, hLast⟩

theorem predictVehicle (h : Mates a b) (vehicle : String) (deviations : List Deviation) :
    Match (a.predictVehicle vehicle deviations) (b.predictVehicle vehicle deviations) := by
  obtain ⟨found, a₁, b₁, hA, hB, hFirst⟩ := (predictorsOf deviations h).exists_eq
  unfold Engine.predictVehicle
  rw [hA, hB]
  cases found with
  | error halt => exact ⟨rfl, hFirst⟩
  | ok found =>
    dsimp only
    cases latest? (inServiceOrder found) with
    | none => exact ⟨rfl, hFirst⟩
    | some createdAt =>
      have hBlind := blind_predictTrips (inServiceOrder found) (.start vehicle createdAt)
      obtain ⟨batch, a₂, b₂, hA', hB', hTrips⟩ := (act hBlind hFirst).exists_eq
      dsimp only at hA' hB' ⊢
      rw [hA', hB']
      cases batch with
      | error halt => exact ⟨rfl, hTrips⟩
      | ok batch =>
        dsimp only
        split
        · exact ⟨rfl, hTrips⟩
        · exact ⟨rfl, hTrips.measure fun m => m.add .tripPredictions batch.trips.length⟩

theorem handleVehicle (h : Mates a b) (vehicle : String) (deviations : List Deviation)
    (now : Instant) :
    Match (a.handleVehicle vehicle deviations now) (b.handleVehicle vehicle deviations now) := by
  obtain ⟨made, a₁, b₁, hA, hB, hFirst⟩ := (h.predictVehicle vehicle deviations).exists_eq
  unfold Engine.handleVehicle
  rw [hA, hB]
  rcases made with halt | _ | batch
  · exact ⟨rfl, hFirst⟩
  · exact ⟨rfl, hFirst⟩
  · obtain ⟨ref, a₂, b₂, hA', hB', hKept⟩ := (act (blind_keep batch) hFirst).exists_eq
    obtain ⟨done, a₃, b₃, hA'', hB'', hLast⟩ := (act (blind_dispatch ref now) hKept).exists_eq
    dsimp only at hA' hB' hA'' hB'' ⊢
    rw [hA', hB']
    dsimp only
    rw [hA'', hB'']
    cases done with
    | error halt => exact ⟨rfl, hLast⟩
    | ok _ => exact ⟨rfl, hLast⟩

theorem handleVehicles (now : Instant) (vehicles : List (String × List Deviation)) :
    ∀ {a b : Engine}, Mates a b →
      Match (a.handleVehicles now vehicles) (b.handleVehicles now vehicles) := by
  induction vehicles with
  | nil => exact fun h => ⟨rfl, h⟩
  | cons x more ih =>
    intro a b h
    obtain ⟨vehicle, deviations⟩ := x
    obtain ⟨made, a₁, b₁, hA, hB, hFirst⟩ := (h.handleVehicle vehicle deviations now).exists_eq
    unfold Engine.handleVehicles
    rw [hA, hB]
    cases made with
    | error halt => exact ⟨rfl, hFirst⟩
    | ok made =>
      obtain ⟨others, a₂, b₂, hA', hB', hLast⟩ := (ih hFirst).exists_eq
      dsimp only
      rw [hA', hB']
      cases others with
      | error halt => exact ⟨rfl, hLast⟩
      | ok others => exact ⟨rfl, hLast⟩

/-- Engines that differ in the cache only handle a report alike, and differ in the cache only
afterwards. -/
theorem handleReport (h : Mates a b) (r : VehicleReport) (now : Instant) :
    Match (a.handleReport r now) (b.handleReport r now) := by
  have hSettings : b.settings = a.settings := congrArg Plan.settings h.plan
  obtain ⟨made, a₁, b₁, hA, hB, hLast⟩ := (handleVehicles now
    (byVehicle (r.deviations.filter fun d => a.settings.allowsRoute d.route))
    (h.measure fun m => m.count .reportsHandled)).exists_eq
  unfold Engine.handleReport
  rw [hSettings]
  dsimp only
  rw [hA, hB]
  cases made with
  | error halt => exact ⟨rfl, hLast⟩
  | ok made => exact ⟨rfl, hLast.measure fun m => m.count .predictionLatency⟩

end Mates

-- ---------------------------------------------------------------------------
-- Runs
-- ---------------------------------------------------------------------------

end Engine

-- ---------------------------------------------------------------------------
-- Timetables
-- ---------------------------------------------------------------------------

namespace Engine

/-- An observation long before its trip departs. -/
def early : Deviation :=
  { Sample.deviation with
    observedAt := ⟨1709640000, 0, by decide, Instant.epoch.nanos_lt⟩ }

end Engine

end TransitForecast
