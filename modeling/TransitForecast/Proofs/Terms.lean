import TransitForecast.Proofs.Horizon

/-!
# TransitForecast — what an engine publishes

The models of an engine may be replaced while it runs, and the predictors that it keeps were built
with the models of their time. All else that it predicts with stays. So whatever it goes through,
each prediction that it keeps was made for a trip of its timetable that departs before the horizon
of its observation ends, by a predictor built with models that the engine had at some time; and each
update that it sends is built from such a prediction, with what was answered until then.

One lemma for each handler keeps the invariant `Abides`.

## Results

* `Abides.predictVehicle`, `Abides.publishBatch`, `Abides.handleResponse` — how predictions are
  made, sent and answered.
* `abides_live` — an engine abides by its terms, whatever it goes through.
* `nothing_beyond_the_horizon` — what that means for the updates that it sends.
-/

namespace TransitForecast

namespace Engine

-- ---------------------------------------------------------------------------
-- Terms
-- ---------------------------------------------------------------------------

/-- What an engine predicts with for as long as it runs, and the models that it has at times. -/
structure Terms where
  trust : Trust
  horizon : Span
  updateRules : UpdateRules
  timetable : Timetable
  registries : List ModelRegistry

namespace Terms

/-- Whether a predictor is one of the trip of a key. -/
def Knows (c : Terms) (key : TripKey) (p : TripPredictor) : Prop :=
  ∃ trip, ∃ models ∈ c.registries, c.timetable.trip key = .ok trip ∧
    p = .build c.trust models c.horizon trip

/-- Whether a trip prediction was made in range of its observation, and was answered since. -/
def Predicts (c : Terms) (p : TripPrediction) : Prop :=
  ∃ (predictor : TripPredictor) (calendar : ServiceCalendar) (store : ObservedTransitions)
    (g : TripPredictor.Progress) (answers : List (InferenceKey × Float)),
    c.Knows p.deviation.tripKey predictor ∧ predictor.inRange p.deviation = .ok true ∧
      predictor.predict calendar store p.deviation = .ok g ∧
      p = g.prediction.settleAll answers

/-- Whether an update is built from a trip prediction. -/
def Publishes (c : Terms) (u : TripUpdate) : Prop :=
  ∃ p seed, c.Predicts p ∧ u = (c.updateRules.build p seed).1

/-- Whether all trips of a batch are predicted. -/
def Fills (c : Terms) (b : Batch) : Prop := ∀ p ∈ b.trips, c.Predicts p

variable {c : Terms} {p : TripPrediction} {b : Batch}

theorem Predicts.answered {p' : TripPrediction} {key : InferenceKey} {seconds : Float}
    (h : c.Predicts p) (hAnswer : p.answer? key seconds = some p') : c.Predicts p' := by
  obtain ⟨predictor, calendar, store, g, answers, hKnows, hRange, hPredict, hp⟩ := h
  have hSettled := TripPrediction.settle_of_answer? hAnswer
  have hDeviation : p'.deviation = p.deviation := by
    rw [← hSettled, TripPrediction.settle_deviation]
  refine ⟨predictor, calendar, store, g, answers ++ [(key, seconds)], ?_⟩
  rw [hDeviation]
  refine ⟨hKnows, hRange, hPredict, ?_⟩
  rw [← hSettled, hp, TripPrediction.settleAll, TripPrediction.settleAll, List.foldl_append]
  rfl

theorem Fills.answered {b' : Batch} {id : CorrelationId} {seconds : Float} (h : c.Fills b)
    (hAnswer : b.answer id seconds = .ok b') : c.Fills b' := by
  obtain ⟨front, p, back, p', hEq, -, -, hp', rfl⟩ := Batch.answer_eq_ok_iff.1 hAnswer
  unfold Fills at h ⊢
  rw [hEq] at h
  simp only [List.mem_append, List.mem_cons] at h ⊢
  rintro q (hFront | rfl | hBack)
  · exact h q (.inl hFront)
  · exact (h p (.inr (.inl rfl))).answered hp'
  · exact h q (.inr (.inr hBack))

/-- The updates of a batch are built from its predictions. -/
theorem Fills.publishes (h : c.Fills b) : ∀ u ∈ c.updateRules.buildBatch b, c.Publishes u := by
  intro u hu
  rw [UpdateRules.buildBatch, UpdateRules.buildFrom_eq_map_starts] at hu
  obtain ⟨x, hx, rfl⟩ := List.mem_map.1 hu
  exact ⟨x.1, x.2, h x.1 (UpdateRules.mem_of_mem_starts hx), rfl⟩

end Terms

/-- Whether an engine abides by its terms: in what it has, keeps and has sent. -/
structure Abides (e : Engine) (c : Terms) : Prop where
  trust : e.settings.trust = c.trust
  horizon : e.horizon = c.horizon
  updateRules : e.updateRules = c.updateRules
  timetable : e.timetable = c.timetable
  models : e.models ∈ c.registries
  predictors : ∀ key p, e.predictors.find? key = some p → c.Knows key p
  batches : ∀ b ∈ e.batches.batches, c.Fills b
  journal : ∀ m ∈ e.journal, ∀ u, m.payload = .update u → c.Publishes u

namespace Abides

variable {e : Engine} {c : Terms}

-- ---------------------------------------------------------------------------
-- Sending
-- ---------------------------------------------------------------------------

theorem send (h : e.Abides c) (subject : String) {payload : Payload}
    (hPayload : ∀ u, payload = .update u → c.Publishes u) :
    (e.send subject payload).2.Abides c := by
  have hJournal : ∀ delivered, ∀ m ∈ e.journal ++ [⟨subject, payload, delivered⟩], ∀ u,
      m.payload = .update u → c.Publishes u := by
    intro delivered m hm
    rcases List.mem_append.1 hm with hOld | hLast
    · exact h.journal m hOld
    · rw [List.mem_singleton.1 hLast]
      exact hPayload
  unfold Engine.send
  split
  · exact { h with journal := hJournal true }
  · exact { h with journal := hJournal false }

theorem publishUpdate (h : e.Abides c) {u : TripUpdate} (hu : c.Publishes u) :
    (e.publishUpdate u).2.Abides c := by
  unfold Engine.publishUpdate
  split
  · exact h
  · exact h.send _ fun v hv => Payload.update.inj hv ▸ hu

theorem publishUpdates (updates : List TripUpdate) : ∀ {e : Engine}, e.Abides c →
    (∀ u ∈ updates, c.Publishes u) → (e.publishUpdates updates).2.Abides c := by
  induction updates with
  | nil => exact fun h _ => h
  | cons u rest ih =>
    intro e h hAll
    obtain ⟨hFirst, hRest⟩ := List.forall_mem_cons.1 hAll
    have hSent := h.publishUpdate hFirst
    unfold Engine.publishUpdates
    rcases hResult : e.publishUpdate u with ⟨sent, e₁⟩
    rw [hResult] at hSent
    cases sent with
    | true => exact ih { hSent with } hRest
    | false => exact ih { hSent with } hRest

/-- Publishing a batch that is kept sends updates that are built from its predictions. -/
theorem publishBatch (h : e.Abides c) (ref : BatchRef) : (e.publishBatch ref).2.Abides c := by
  unfold Engine.publishBatch
  split
  · exact h
  · rename_i b hGet
    have hFills := h.batches b (List.mem_of_getElem? hGet)
    have hUpdates := publishUpdates (e.updateRules.buildBatch b) h
      (h.updateRules ▸ hFills.publishes)
    unfold reportPublisher
    dsimp only
    split
    · exact { hUpdates with }
    · split
      · exact { hUpdates with }
      · exact { hUpdates with }

theorem sendRequests (h : e.Abides c) (b : Batch) : (e.sendRequests b).Abides c := by
  have hAll : ∀ (requests : List InferenceRequest) {e : Engine}, e.Abides c →
      (requests.foldl sendRequest e).Abides c := by
    intro requests
    induction requests with
    | nil => exact fun h => h
    | cons r rest ih => exact fun h => ih (h.send _ fun u hu => by cases hu)
  exact { hAll b.requests h with }

-- ---------------------------------------------------------------------------
-- Predicting
-- ---------------------------------------------------------------------------

/-- The predictor of a deviation is known, and so are those that are kept with it. -/
theorem predictorOf (h : e.Abides c) (d : Deviation) : (e.predictorOf d).2.Abides c ∧
    ∀ p, (e.predictorOf d).1 = .ok (some p) → c.Knows d.tripKey p := by
  unfold Engine.predictorOf PredictorCache.getOrBuild
  cases hKept : e.predictors.find? d.tripKey with
  | some kept =>
    refine ⟨{ h with }, fun p hFound => ?_⟩
    cases hFound
    exact h.predictors _ _ hKept
  | none =>
    dsimp only
    rcases hFetch : e.timetable.fetch d.tripKey with halt | error | trip
    · exact ⟨h, fun _ hMade => by cases hMade⟩
    · exact ⟨{ h with }, fun _ hMade => by cases hMade⟩
    · have hTrip : c.timetable.trip d.tripKey = .ok trip :=
        h.timetable ▸ Timetable.trip_of_fetch hFetch
      have hKnows : c.Knows d.tripKey
          (.build e.rules.trust e.models e.rules.horizon trip) := by
        refine ⟨trip, e.models, h.models, hTrip, ?_⟩
        rw [← h.trust, ← h.horizon]
        rfl
      dsimp only
      rw [PredictorCache.settle_of_missing hKept]
      refine ⟨{ h with predictors := fun key p hFound => ?_ }, fun p hFound => ?_⟩
      · dsimp only at hFound
        rw [Table.find?_insert] at hFound
        split at hFound
        · rename_i hKey
          cases hFound
          rw [hKey]
          exact hKnows
        · exact h.predictors key p hFound
      · cases hFound
        exact hKnows

/-- The predictors of deviations are known. -/
theorem predictorsOf (deviations : List Deviation) : ∀ {e : Engine}, e.Abides c →
    (e.predictorsOf deviations).2.Abides c ∧
      ∀ found, (e.predictorsOf deviations).1 = .ok found →
        ∀ x ∈ found, c.Knows x.2.tripKey x.1 := by
  induction deviations with
  | nil =>
    intro e h
    refine ⟨h, fun found hFound => ?_⟩
    cases hFound
    exact fun x hx => absurd hx List.not_mem_nil
  | cons d rest ih =>
    intro e h
    obtain ⟨hFirst, hOne⟩ := h.predictorOf d
    unfold Engine.predictorsOf
    rcases hResult : e.predictorOf d with ⟨halt | found, e₁⟩
    · rw [hResult] at hFirst
      exact ⟨hFirst, fun _ hMade => by cases hMade⟩
    · rw [hResult] at hFirst hOne
      obtain ⟨hRest, hOthers⟩ := ih hFirst
      dsimp only
      rcases hMore : e₁.predictorsOf rest with ⟨halt | more, e₂⟩
      · rw [hMore] at hRest
        exact ⟨hRest, fun _ hMade => by cases hMade⟩
      · rw [hMore] at hRest hOthers
        refine ⟨hRest, fun all hAll x hx => ?_⟩
        cases hAll
        rcases List.mem_append.1 hx with hHead | hTail
        · cases found with
          | none => cases hHead
          | some p =>
            cases List.mem_singleton.1 hHead
            exact hOne p rfl
        · exact hOthers more rfl x hTail

/-- Predicting trips adds predictions of those in range. -/
theorem predictTrips (found : List (TripPredictor × Deviation)) :
    ∀ {e : Engine} {b : Batch}, e.Abides c → (∀ x ∈ found, c.Knows x.2.tripKey x.1) →
      c.Fills b → (e.predictTrips b found).2.Abides c ∧
        ∀ b', (e.predictTrips b found).1 = .ok b' → c.Fills b' := by
  induction found with
  | nil =>
    intro e b h _ hFills
    refine ⟨h, fun b' hMade => ?_⟩
    cases hMade
    exact hFills
  | cons x rest ih =>
    intro e b h hFound hFills
    obtain ⟨predictor, d⟩ := x
    obtain ⟨hKnows, hOthers⟩ := List.forall_mem_cons.1 hFound
    rw [Engine.predictTrips]
    rcases hRange : predictor.inRange d with halt | _ | _
    · exact ⟨h, fun _ hMade => by cases hMade⟩
    · exact ih h hOthers hFills
    · dsimp only
      cases hPredict : predictor.predict e.calendar e.transitions d with
      | error halt => exact ⟨h, fun _ hMade => by cases hMade⟩
      | ok g =>
        have hDeviation := TripPredictor.predict_deviation hPredict
        have hMade : c.Predicts g.prediction := by
          refine ⟨predictor, e.calendar, e.transitions, g, [], ?_⟩
          rw [hDeviation]
          exact ⟨hKnows, hRange, hPredict, rfl⟩
        refine ih { h with } hOthers fun p hp => ?_
        rcases List.mem_append.1 hp with hOld | hLast
        · exact hFills p hOld
        · rw [List.mem_singleton.1 hLast]
          exact hMade

/-- The trips of the batch of a vehicle are predicted in range. -/
theorem predictVehicle (h : e.Abides c) (vehicle : String) (deviations : List Deviation) :
    (e.predictVehicle vehicle deviations).2.Abides c ∧
      ∀ b, (e.predictVehicle vehicle deviations).1 = .ok (some b) → c.Fills b := by
  obtain ⟨hFirst, hKnown⟩ := predictorsOf deviations h
  unfold Engine.predictVehicle
  rcases hResult : e.predictorsOf deviations with ⟨halt | found, e₁⟩
  · rw [hResult] at hFirst
    exact ⟨hFirst, fun _ hMade => by cases hMade⟩
  · rw [hResult] at hFirst hKnown
    dsimp only
    cases latest? (inServiceOrder found) with
    | none => exact ⟨hFirst, fun _ hMade => by cases hMade⟩
    | some createdAt =>
      have hEmpty : c.Fills (.start vehicle createdAt) := fun p hp => absurd hp List.not_mem_nil
      obtain ⟨hTrips, hFills⟩ := predictTrips (inServiceOrder found) hFirst
        (fun x hx => hKnown found rfl x (mem_of_mem_inServiceOrder hx)) hEmpty
      dsimp only
      rcases hBatch : e₁.predictTrips (.start vehicle createdAt) (inServiceOrder found) with
        ⟨halt | b, e₂⟩
      · rw [hBatch] at hTrips
        exact ⟨hTrips, fun _ hMade => by cases hMade⟩
      · rw [hBatch] at hTrips hFills
        dsimp only
        split
        · exact ⟨hTrips, fun _ hMade => by cases hMade⟩
        · refine ⟨{ hTrips with }, fun b' hMade => ?_⟩
          cases hMade
          exact hFills b rfl

-- ---------------------------------------------------------------------------
-- Handling
-- ---------------------------------------------------------------------------

/-- One batch of a store may be replaced by one whose trips are predicted too. -/
theorem setBatch (h : e.Abides c) (ref : BatchRef) {b : Batch} (hFills : c.Fills b) :
    ({ e with batches := e.batches.set ref b } : Engine).Abides c := by
  refine { h with batches := fun b' hb' => ?_ }
  rcases List.mem_or_eq_of_mem_set hb' with hOld | rfl
  · exact h.batches b' hOld
  · exact hFills

theorem claim (h : e.Abides c) (ref : BatchRef) : (e.claim ref).2.Abides c := by
  unfold Engine.claim
  cases hGet : e.batches.get? ref with
  | none =>
    rw [BatchStore.claim_of_none hGet]
    exact { h with }
  | some b =>
    rw [BatchStore.claim_eq hGet]
    exact h.setBatch ref (h.batches b (List.mem_of_getElem? hGet))

theorem dispatch (h : e.Abides c) (ref : BatchRef) (now : Instant) :
    (e.dispatch ref now).2.Abides c := by
  unfold Engine.dispatch
  split
  · exact h
  · split
    · have hClaimed := h.claim ref
      rcases hClaim : e.claim ref with ⟨won, e₁⟩
      rw [hClaim] at hClaimed
      cases won with
      | true => exact hClaimed.publishBatch ref
      | false => exact hClaimed
    · rename_i b _ _
      cases hPark : e.batches.park ref b now with
      | error halt => exact h
      | ok parked =>
        obtain ⟨expiresAt, s'⟩ := parked
        obtain ⟨-, rfl⟩ := BatchStore.park_eq_ok_iff.1 hPark
        have hParked : ({ e with batches := { e.batches with
            parked := e.batches.parked.insert b.id ⟨ref, expiresAt⟩ } } :
              Engine).showParked.Abides c := { h with }
        exact hParked.sendRequests b

theorem handleVehicle (h : e.Abides c) (vehicle : String) (deviations : List Deviation)
    (now : Instant) : (e.handleVehicle vehicle deviations now).2.Abides c := by
  obtain ⟨hPredicted, hFills⟩ := h.predictVehicle vehicle deviations
  unfold Engine.handleVehicle
  rcases hResult : e.predictVehicle vehicle deviations with ⟨halt | _ | b, e₁⟩
  · rw [hResult] at hPredicted
    exact hPredicted
  · rw [hResult] at hPredicted
    exact hPredicted
  · rw [hResult] at hPredicted hFills
    have hKept : (e₁.keep b).2.Abides c := by
      refine { hPredicted with batches := fun b' hb' => ?_ }
      rcases List.mem_append.1 hb' with hOld | hLast
      · exact hPredicted.batches b' hOld
      · rw [List.mem_singleton.1 hLast]
        exact hFills b rfl
    have hSent := hKept.dispatch (e₁.keep b).1 now
    dsimp only
    rcases hLast : (e₁.keep b).2.dispatch (e₁.keep b).1 now with ⟨halt | _, e₂⟩
    · rw [hLast] at hSent
      exact hSent
    · rw [hLast] at hSent
      exact hSent

theorem handleVehicles (now : Instant) (vehicles : List (String × List Deviation)) :
    ∀ {e : Engine}, e.Abides c → (e.handleVehicles now vehicles).2.Abides c := by
  induction vehicles with
  | nil => exact fun h => h
  | cons x rest ih =>
    intro e h
    obtain ⟨vehicle, deviations⟩ := x
    have hFirst := h.handleVehicle vehicle deviations now
    unfold Engine.handleVehicles
    rcases hResult : e.handleVehicle vehicle deviations now with ⟨halt | ref, e₁⟩
    · rw [hResult] at hFirst
      exact hFirst
    · rw [hResult] at hFirst
      have hRest := ih hFirst
      dsimp only
      rcases hMore : e₁.handleVehicles now rest with ⟨halt | refs, e₂⟩
      · rw [hMore] at hRest
        exact hRest
      · rw [hMore] at hRest
        exact hRest

theorem handleReport (h : e.Abides c) (r : VehicleReport) (now : Instant) :
    (e.handleReport r now).2.Abides c := by
  have hVehicles := handleVehicles now
    (byVehicle (r.deviations.filter fun d => e.settings.allowsRoute d.route))
    (e := e.measure fun m => m.count .reportsHandled) { h with }
  unfold Engine.handleReport
  dsimp only
  rcases hResult : (e.measure fun m => m.count .reportsHandled).handleVehicles now
    (byVehicle (r.deviations.filter fun d => e.settings.allowsRoute d.route)) with
    ⟨halt | refs, e₁⟩
  · rw [hResult] at hVehicles
    exact hVehicles
  · rw [hResult] at hVehicles
    exact { hVehicles with }

/-- An answer makes of each prediction one with an answer more. -/
theorem applyResponse (h : e.Abides c) (hSound : e.batches.Sound) (r : InferenceResponse)
    (now : Instant) : (e.applyResponse r now).2.Abides c := by
  unfold Engine.applyResponse
  rcases BatchStore.apply_cases hSound r now with ⟨error, hError⟩ |
    ⟨id, seconds, ref, b, b', -, -, hGet, hAnswer, ⟨-, hApply⟩ | ⟨-, hApply⟩⟩
  · rw [hError]
    exact { h with }
  · have hFills := (h.batches b (List.mem_of_getElem? hGet)).answered hAnswer
    rw [hApply]
    exact h.setBatch ref hFills
  · have hFills := (h.batches b (List.mem_of_getElem? hGet)).answered hAnswer
    rw [hApply]
    exact { h.setBatch (b := { b' with published := true }) ref hFills with }

theorem handleResponse (h : e.Abides c) (hSound : e.batches.Sound) (r : InferenceResponse)
    (now : Instant) : (e.handleResponse r now).2.Abides c := by
  have hApplied := h.applyResponse hSound r now
  unfold Engine.handleResponse
  rcases hResult : e.applyResponse r now with ⟨error | n | ref, e₁⟩
  · rw [hResult] at hApplied
    exact hApplied
  · rw [hResult] at hApplied
    exact { hApplied with }
  · rw [hResult] at hApplied
    have hCounted : (e₁.measure fun m => m.count .responsesApplied).showParked.Abides c :=
      { hApplied with }
    exact hCounted.publishBatch ref

/-- A sweep keeps some of what is kept. -/
theorem sweep (h : e.Abides c) (now : Instant) : (e.sweep now).2.Abides c := by
  refine { h with predictors := fun key p hFound => h.predictors key p ?_ }
  have hFilter : (e.predictors.sweep now e.settings.predictorLifetime).find? key = some p := hFound
  rw [PredictorCache.find?_sweep, Option.filter_eq_some_iff] at hFilter
  exact hFilter.1

theorem handle (h : e.Abides c) (hSound : e.batches.Sound) (event : Event) :
    (e.handle event).Abides c := by
  cases event with
  | observe ts => exact { h with }
  | report r now => exact h.handleReport r now
  | response r now => exact h.handleResponse hSound r now
  | sweep now => exact h.sweep now

end Abides

-- ---------------------------------------------------------------------------
-- Engines whose models are replaced
-- ---------------------------------------------------------------------------

/-- What an engine goes through: its models are replaced, or it handles an event. -/
inductive Episode
  | models (m : ModelRegistry)
  | event (x : Event)

/-- The models that an episode brings. -/
def Episode.models? : Episode → Option ModelRegistry
  | .models m => some m
  | .event _ => none

/-- The engine after an episode. -/
def pass (e : Engine) : Episode → Engine
  | .models m => { e with models := m }
  | .event x => e.handle x

/-- The engine after episodes in order. -/
def live (e : Engine) (episodes : List Episode) : Engine := episodes.foldl pass e

theorem Abides.pass {e : Engine} {c : Terms} (h : e.Abides c) (hSound : e.batches.Sound)
    (episode : Episode) (hModels : ∀ m ∈ episode.models?, m ∈ c.registries) :
    (e.pass episode).Abides c := by
  cases episode with
  | models m => exact { h with models := hModels m rfl }
  | event x => exact h.handle hSound x

/-- An engine abides by its terms, whatever it goes through. -/
theorem abides_live {c : Terms} (episodes : List Episode) : ∀ {e : Engine}, e.Abides c →
    e.batches.Reachable → (∀ m ∈ episodes.filterMap Episode.models?, m ∈ c.registries) →
      (e.live episodes).Abides c := by
  induction episodes with
  | nil => exact fun h _ _ => h
  | cons episode rest ih =>
    intro e h hReachable hModels
    have hPassed : (e.pass episode).batches.Reachable := by
      cases episode with
      | models m => exact hReachable
      | event x => exact reachable_handle hReachable x
    refine ih (h.pass hReachable.sound episode fun m hm => ?_) hPassed fun m hm => ?_
    · exact hModels m (List.mem_filterMap.2 ⟨episode, List.mem_cons_self, hm⟩)
    · obtain ⟨x, hx, hBrought⟩ := List.mem_filterMap.1 hm
      exact hModels m (List.mem_filterMap.2 ⟨x, List.mem_cons_of_mem _ hx, hBrought⟩)

/-- An engine starts with nothing kept and nothing sent. -/
theorem abides_start {settings : EngineSettings} {timetable : Timetable} {models : ModelRegistry}
    {holidays : Holidays} {refusedTrips : List String} {wall : Instant} {e : Engine}
    (h : start? settings timetable models holidays refusedTrips wall = some e)
    (registries : List ModelRegistry) (hModels : models ∈ registries) :
    e.Abides ⟨settings.trust, e.horizon, e.updateRules, timetable, registries⟩ ∧
      e.batches.Reachable ∧ Span.ofMinutes? settings.horizonMinutes = some e.horizon := by
  unfold start? at h
  split at h
  · rename_i hHorizon _
    cases h
    refine ⟨⟨rfl, rfl, rfl, rfl, hModels, nofun, fun b hb => ?_, fun m hm => ?_⟩,
      .empty settings.batchLifetime, hHorizon⟩
    · exact absurd hb List.not_mem_nil
    · exact absurd hm List.not_mem_nil
  · cases h

/-- Nothing beyond the horizon is published. Whatever an engine goes through from its start, an
update that it sends is one of a trip of its timetable, and shows no end marker. The stops after its
first one belong to segments of that trip that depart before the horizon of the observation ends, as
the trip was cut by models that the engine had at some time. -/
theorem nothing_beyond_the_horizon {settings : EngineSettings} {timetable : Timetable}
    {models : ModelRegistry} {holidays : Holidays} {refusedTrips : List String} {wall : Instant}
    {e : Engine}
    (hStart : start? settings timetable models holidays refusedTrips wall = some e)
    (episodes : List Episode) {m : Sent} {u : TripUpdate} (hSent : m ∈ (e.live episodes).journal)
    (hUpdate : m.payload = .update u) :
    ∃ trip, ∃ registry ∈ models :: episodes.filterMap Episode.models?, ∃ horizon cutoff,
      timetable.trip (u.dataSet, u.trip) = .ok trip ∧
      Span.ofMinutes? settings.horizonMinutes = some horizon ∧
      u.observedAt.shift? horizon = some cutoff ∧
      u.EndsBy cutoff trip (TripPredictor.build settings.trust registry horizon trip).segments := by
  obtain ⟨hAbides, hReachable, hHorizon⟩ := abides_start hStart
    (models :: episodes.filterMap Episode.models?) List.mem_cons_self
  have hLived := abides_live episodes hAbides hReachable fun x hx => List.mem_cons_of_mem models hx
  obtain ⟨p, seed, hPredicts, rfl⟩ := hLived.journal m hSent u hUpdate
  obtain ⟨predictor, calendar, store, g, answers, hKnows, hRange, hPredict, hp⟩ := hPredicts
  obtain ⟨trip, registry, hRegistry, hTrip, rfl⟩ := hKnows
  obtain ⟨cutoff, hCutoff⟩ := TripPredictor.exists_cutoff_of_predict hPredict
  refine ⟨trip, registry, hRegistry, e.horizon, cutoff, hTrip, hHorizon, hCutoff, ?_⟩
  have hEnds := UpdateRules.endsBy_build hRange hCutoff hPredict answers e.updateRules seed
  rw [← hp] at hEnds
  exact hEnds

end Engine

namespace Sample

/-- An engine without models that looks ten minutes ahead. -/
def nearsighted? : Option Engine :=
  Engine.start? { settings with horizonMinutes := 10 } (.ofList [trip]) .empty ⟨[]⟩ [] (clock 0)

def nearsighted : Engine := nearsighted?.get (by decide +kernel)

end Sample

namespace Engine

/-- Of a trip of five stops at five minutes' distance such an engine publishes the first three: the
pair from the third stop on departs when the horizon ends. -/
theorem nothing_beyond_ten_minutes :
    let report := Event.report ⟨[], [Sample.deviation]⟩ (Sample.clock 0)
    ∃ m u, m ∈ (Sample.nearsighted.live [.event report]).journal ∧ m.payload = .update u ∧
      u.stops.map (fun v => (v.stop, v.source)) =
        [("A", .schedule), ("B", .schedule), ("C", .schedule)] ∧
      ∃ trip horizon cutoff, (Timetable.ofList [Sample.trip]).trip (u.dataSet, u.trip) = .ok trip ∧
        Span.ofMinutes? 10 = some horizon ∧ u.observedAt.shift? horizon = some cutoff ∧
        u.EndsBy cutoff trip (TripPredictor.build .default .empty horizon trip).segments := by
  intro report
  have hStart : Sample.nearsighted? = some Sample.nearsighted := (Option.some_get _).symm
  let after := Sample.nearsighted.run [report]
  have hShown : (after.batches.batches.flatMap fun b => after.updateRules.buildBatch b).map
      (fun u => u.stops.map fun v => (v.stop, v.source)) =
        [[("A", .schedule), ("B", .schedule), ("C", .schedule)]] := by decide +kernel
  have hRefused : after.core.refusedTrips = [] := by decide +kernel
  obtain ⟨u, rest, hUpdates, hStops, -⟩ := List.map_eq_cons_iff.1 hShown
  obtain ⟨b, hb, hu⟩ := List.mem_flatMap.1 (hUpdates ▸ List.mem_cons_self)
  have hMem : after.core.sent u ∈ (Sample.nearsighted.live [.event report]).journal := by
    show _ ∈ after.journal
    rw [((Unmodelled.start hStart).run [report]).journal]
    refine List.mem_flatMap.2 ⟨b, hb, List.mem_map_of_mem (List.mem_filter.2 ⟨hu, ?_⟩)⟩
    rw [hRefused]
    rfl
  obtain ⟨trip, registry, hRegistry, horizon, cutoff, hTrip, hHorizon, hCutoff, hEnds⟩ :=
    nothing_beyond_the_horizon hStart [.event report] hMem rfl
  obtain rfl : registry = .empty := List.mem_singleton.1 hRegistry
  exact ⟨_, u, hMem, rfl, hStops, trip, horizon, cutoff, hTrip, hHorizon, hCutoff, hEnds⟩

end Engine

end TransitForecast
