import TransitForecast.Proofs.Runs

/-!
# TransitForecast — what an engine predicts with

Its settings, its timetable and its models stay as they were when an engine started, and so do the
predictors that it keeps: each is the one that they give for its trip, however long ago it was
built. So a batch can be understood without the history of the engine that made it.

## Results

* `follows_run`    — the kept predictors are always those of the timetable and the models.
* `follows_predictVehicle` — the trips of a batch are predicted by them, each for a deviation.
* `advances_handleReport` — the batches that a report makes, and what it sends when they await
  nothing.
-/

namespace TransitForecast

namespace Engine

-- ---------------------------------------------------------------------------
-- The plan
-- ---------------------------------------------------------------------------

/-- What an engine predicts with. -/
structure Plan where
  settings : EngineSettings
  horizon : Span
  updateRules : UpdateRules
  calendar : ServiceCalendar
  timetable : Timetable
  models : ModelRegistry

/-- The predictor of a trip. -/
def Plan.predictor (c : Plan) (trip : Trip) : TripPredictor :=
  .build c.settings.trust c.models c.horizon trip

/-- Whether a trip prediction is made for its deviation, and nothing of it was answered yet. -/
def Plan.Makes (c : Plan) (p : TripPrediction) : Prop :=
  ∃ trip store g, c.timetable.trip p.deviation.tripKey = .ok trip ∧
    (c.predictor trip).predict c.calendar store p.deviation = .ok g ∧ p = g.prediction

/-- Whether a batch is made of predictions for some deviations. -/
def Plan.Serves (c : Plan) (deviations : List Deviation) (b : Batch) : Prop :=
  ∀ p ∈ b.trips, p.deviation ∈ deviations ∧ c.Makes p

def plan (e : Engine) : Plan :=
  ⟨e.settings, e.horizon, e.updateRules, e.calendar, e.timetable, e.models⟩

/-- Whether a predictor is that of the trip of a key. -/
def Plan.Knows (c : Plan) (key : TripKey) (p : TripPredictor) : Prop :=
  ∃ trip, c.timetable.trip key = .ok trip ∧ p = c.predictor trip

/-- Whether the kept predictors are those of the plan. -/
def Keeps (e : Engine) : Prop :=
  ∀ key p, e.predictors.find? key = some p → e.plan.Knows key p

/-- The plan with the kept predictors. -/
def stock (e : Engine) : Plan × PredictorCache := (e.plan, e.predictors)

/-- An engine before and after something that may send messages but changes nothing of what it
predicts with. -/
structure Follows (e : Engine) (sent : List Sent) (e' : Engine) : Prop where
  plan : e'.plan = e.plan
  keeps : e.Keeps → e'.Keeps
  journal : e'.journal = e.journal ++ sent

namespace Follows

variable {e e₁ e₂ : Engine} {sent more : List Sent}

theorem of_stock (hStock : e₁.stock = e.stock) (hJournal : e₁.journal = e.journal ++ sent) :
    e.Follows sent e₁ := by
  have hPlan : e₁.plan = e.plan := congrArg Prod.fst hStock
  have hPredictors : e₁.predictors = e.predictors := congrArg Prod.snd hStock
  refine ⟨hPlan, fun hKeeps key p hFound => ?_, hJournal⟩
  rw [hPredictors] at hFound
  rw [hPlan]
  exact hKeeps key p hFound

/-- What neither sends anything nor touches the plan or the predictors. -/
theorem quiet (hStock : e₁.stock = e.stock) (hJournal : e₁.journal = e.journal) :
    e.Follows [] e₁ :=
  .of_stock hStock (hJournal.trans (List.append_nil _).symm)

theorem refl (e : Engine) : e.Follows [] e := .quiet rfl rfl

theorem trans (h : e.Follows sent e₁) (h' : e₁.Follows more e₂) : e.Follows (sent ++ more) e₂ where
  plan := h'.plan.trans h.plan
  keeps hKeeps := h'.keeps (h.keeps hKeeps)
  journal := by rw [h'.journal, h.journal, List.append_assoc]

end Follows

-- ---------------------------------------------------------------------------
-- Sending
-- ---------------------------------------------------------------------------

section Sending

variable (e : Engine)

theorem stock_send (subject : String) (payload : Payload) :
    (e.send subject payload).2.stock = e.stock := by
  unfold send
  split
  · rfl
  · rfl

theorem stock_publishUpdate (u : TripUpdate) : (e.publishUpdate u).2.stock = e.stock := by
  unfold publishUpdate
  split
  · rfl
  · exact e.stock_send _ _

theorem stock_publishUpdates (updates : List TripUpdate) :
    (e.publishUpdates updates).2.stock = e.stock := by
  induction updates generalizing e with
  | nil => rfl
  | cons u rest ih =>
    have hFirst := e.stock_publishUpdate u
    unfold publishUpdates
    rcases hSent : e.publishUpdate u with ⟨sent, e₁⟩
    rw [hSent] at hFirst
    cases sent with
    | true => exact (ih _).trans hFirst
    | false => exact (ih _).trans hFirst

theorem stock_publishBatch (ref : BatchRef) : (e.publishBatch ref).2.stock = e.stock := by
  unfold publishBatch
  split
  · rfl
  · rename_i b _
    have hUpdates := e.stock_publishUpdates (e.updateRules.buildBatch b)
    unfold reportPublisher
    dsimp only
    split
    · exact hUpdates
    · split
      · exact hUpdates
      · exact hUpdates

theorem publishBatch_of_none {e : Engine} {ref : BatchRef} (h : e.batches.get? ref = none) :
    e.publishBatch ref = (0, e) := by
  rw [publishBatch, h]

/-- Publishing a batch sends its updates. -/
theorem follows_publishBatch {ref : BatchRef} {b : Batch} (hGet : e.batches.get? ref = some b) :
    e.Follows (e.core.publish (e.updateRules.buildBatch b)) (e.publishBatch ref).2 :=
  .of_stock (e.stock_publishBatch ref) (journal_publishBatch hGet)

theorem follows_sendRequests (b : Batch) : ∃ sent, e.Follows sent (e.sendRequests b) := by
  have hAll : ∀ (requests : List InferenceRequest) (e : Engine),
      ∃ sent, e.Follows sent (requests.foldl sendRequest e) := by
    intro requests
    induction requests with
    | nil => exact fun e => ⟨[], .refl e⟩
    | cons r rest ih =>
      intro e
      have hFirst : e.Follows _ (e.sendRequest r) :=
        .of_stock (e.stock_send _ _) (e.journal_send _ _)
      obtain ⟨more, hRest⟩ := ih (e.sendRequest r)
      exact ⟨_, hFirst.trans hRest⟩
  obtain ⟨sent, hSent⟩ := hAll b.requests e
  exact ⟨sent, hSent.plan, hSent.keeps, hSent.journal⟩

end Sending

-- ---------------------------------------------------------------------------
-- Predicting
-- ---------------------------------------------------------------------------

section Predicting

variable {e : Engine}

/-- The predictor of a deviation is that of its trip, and so are those that are kept with it. -/
theorem follows_predictorOf (e : Engine) (d : Deviation) :
    e.Follows [] (e.predictorOf d).2 ∧
      (e.Keeps → ∀ p, (e.predictorOf d).1 = .ok (some p) → e.plan.Knows d.tripKey p) := by
  unfold predictorOf PredictorCache.getOrBuild
  cases hKept : e.predictors.find? d.tripKey with
  | some kept =>
    refine ⟨.quiet rfl rfl, fun hKeeps p hFound => ?_⟩
    cases hFound
    exact hKeeps _ _ hKept
  | none =>
    dsimp only
    cases hFetch : e.timetable.fetch d.tripKey with
    | error halt => exact ⟨.refl e, fun _ _ h => by cases h⟩
    | ok answer =>
      cases answer with
      | error error => exact ⟨.quiet rfl rfl, fun _ _ h => by cases h⟩
      | ok trip =>
        dsimp only
        have hKnows : e.plan.Knows d.tripKey (e.plan.predictor trip) :=
          ⟨trip, Timetable.trip_of_fetch hFetch, rfl⟩
        rw [PredictorCache.settle_of_missing hKept]
        refine ⟨⟨rfl, fun hKeeps key p hFound => ?_, (List.append_nil _).symm⟩,
          fun _ p hFound => ?_⟩
        · dsimp only at hFound
          rw [Table.find?_insert] at hFound
          split at hFound
          · rename_i hKey
            cases hFound
            rw [hKey]
            exact hKnows
          · exact hKeeps key p hFound
        · cases hFound
          exact hKnows

/-- The predictors of deviations are those of their trips. -/
theorem follows_predictorsOf (deviations : List Deviation) : ∀ e : Engine,
    e.Follows [] (e.predictorsOf deviations).2 ∧
      (e.Keeps → ∀ found, (e.predictorsOf deviations).1 = .ok found →
        ∀ x ∈ found, x.2 ∈ deviations ∧ e.plan.Knows x.2.tripKey x.1) := by
  induction deviations with
  | nil =>
    intro e
    refine ⟨.refl e, fun _ found hFound => ?_⟩
    cases hFound
    exact fun x hx => absurd hx List.not_mem_nil
  | cons d rest ih =>
    intro e
    obtain ⟨hFirst, hOne⟩ := e.follows_predictorOf d
    unfold predictorsOf
    rcases hResult : e.predictorOf d with ⟨halt | found, e₁⟩
    · rw [hResult] at hFirst
      dsimp only
      exact ⟨hFirst, fun _ _ h => by cases h⟩
    · rw [hResult] at hFirst hOne
      obtain ⟨hRest, hOthers⟩ := ih e₁
      dsimp only at hFirst hOne ⊢
      rcases hMore : e₁.predictorsOf rest with ⟨halt | more, e₂⟩
      · rw [hMore] at hRest
        exact ⟨hFirst.trans hRest, fun _ _ h => by cases h⟩
      · rw [hMore] at hRest hOthers
        refine ⟨hFirst.trans hRest, fun hKeeps all hAll x hx => ?_⟩
        cases hAll
        rcases List.mem_append.1 hx with hHead | hTail
        · cases found with
          | none => cases hHead
          | some p =>
            cases List.mem_singleton.1 hHead
            exact ⟨List.mem_cons_self .., hOne hKeeps p rfl⟩
        · obtain ⟨hMem, hKnows⟩ := hOthers (hFirst.keeps hKeeps) more rfl x hTail
          rw [hFirst.plan] at hKnows
          exact ⟨List.mem_cons_of_mem _ hMem, hKnows⟩

theorem mem_of_mem_firstOfEachTrip {found : List (TripPredictor × Deviation)}
    {x : TripPredictor × Deviation} (h : x ∈ firstOfEachTrip found) : x ∈ found := by
  induction found with
  | nil => exact h
  | cons y rest ih =>
    rw [firstOfEachTrip] at h
    rcases List.mem_cons.1 h with rfl | hLater
    · exact List.mem_cons_self ..
    · exact List.mem_cons_of_mem _ (ih (List.mem_filter.1 hLater).1)

theorem mem_of_mem_inServiceOrder {found : List (TripPredictor × Deviation)}
    {x : TripPredictor × Deviation} (h : x ∈ inServiceOrder found) : x ∈ found :=
  List.mem_mergeSort.1 (mem_of_mem_firstOfEachTrip h)

/-- Predicting trips adds a prediction for each of some of the deviations. -/
theorem follows_predictTrips (deviations : List Deviation)
    (found : List (TripPredictor × Deviation)) : ∀ (e : Engine) (b : Batch),
    e.Follows [] (e.predictTrips b found).2 ∧
      ((∀ x ∈ found, x.2 ∈ deviations ∧ e.plan.Knows x.2.tripKey x.1) →
        e.plan.Serves deviations b → ∀ b', (e.predictTrips b found).1 = .ok b' →
        e.plan.Serves deviations b') := by
  induction found with
  | nil =>
    intro e b
    refine ⟨.refl e, fun _ hServes b' hMade => ?_⟩
    cases hMade
    exact hServes
  | cons x rest ih =>
    intro e b
    obtain ⟨predictor, d⟩ := x
    rw [predictTrips]
    cases hRange : predictor.inRange d with
    | error halt => exact ⟨.refl e, fun _ _ _ h => by cases h⟩
    | ok near =>
      cases near with
      | false =>
        obtain ⟨hFollows, hServed⟩ := ih e b
        exact ⟨hFollows, fun hFound => hServed fun x hx => hFound x (List.mem_cons_of_mem _ hx)⟩
      | true =>
        dsimp only
        cases hPredict : predictor.predict e.calendar e.transitions d with
        | error halt => exact ⟨.refl e, fun _ _ _ h => by cases h⟩
        | ok g =>
          obtain ⟨hFollows, hServed⟩ := ih { e with transitions := g.store }
            (b.addTrip g.prediction g.inferences)
          refine ⟨⟨hFollows.plan, hFollows.keeps, hFollows.journal⟩,
            fun hFound hServes => hServed (fun x hx => hFound x (List.mem_cons_of_mem _ hx)) ?_⟩
          intro p hp
          rcases List.mem_append.1 hp with hOld | hLast
          · exact hServes p hOld
          · rw [List.mem_singleton.1 hLast]
            obtain ⟨hMem, trip, hTrip, hPredictor⟩ := hFound (predictor, d) (List.mem_cons_self ..)
            have hDeviation := TripPredictor.predict_deviation hPredict
            rw [hDeviation]
            refine ⟨hMem, trip, e.transitions, g, ?_, ?_, rfl⟩
            · rw [hDeviation]
              exact hTrip
            · rw [hDeviation]
              exact hPredictor ▸ hPredict

/-- The trips of the batch of a vehicle are predicted by the predictors of the plan. -/
theorem follows_predictVehicle (e : Engine) (vehicle : String) (deviations : List Deviation) :
    e.Follows [] (e.predictVehicle vehicle deviations).2 ∧
      (e.Keeps → ∀ b, (e.predictVehicle vehicle deviations).1 = .ok (some b) →
        e.plan.Serves deviations b) := by
  obtain ⟨hFirst, hOnes⟩ := e.follows_predictorsOf deviations
  unfold predictVehicle
  rcases hResult : e.predictorsOf deviations with ⟨halt | found, e₁⟩
  · rw [hResult] at hFirst
    dsimp only
    exact ⟨hFirst, fun _ _ h => by cases h⟩
  · rw [hResult] at hFirst hOnes
    dsimp only at hFirst hOnes ⊢
    cases latest? (inServiceOrder found) with
    | none => exact ⟨hFirst, fun _ _ h => by cases h⟩
    | some createdAt =>
      obtain ⟨hTrips, hServed⟩ := follows_predictTrips deviations
        (inServiceOrder found) e₁ (.start vehicle createdAt)
      dsimp only
      rcases hBatch : e₁.predictTrips (.start vehicle createdAt) (inServiceOrder found) with
        ⟨halt | b, e₂⟩
      · rw [hBatch] at hTrips
        dsimp only
        exact ⟨hFirst.trans hTrips, fun _ _ h => by cases h⟩
      · rw [hBatch] at hTrips hServed
        dsimp only
        have hBoth : e.Follows [] e₂ := hFirst.trans hTrips
        split
        · exact ⟨hBoth, fun _ _ h => by cases h⟩
        · refine ⟨⟨hBoth.plan, hBoth.keeps, hBoth.journal⟩, fun hKeeps b' hMade => ?_⟩
          cases hMade
          rw [hFirst.plan] at hServed
          exact hServed
            (fun x hx => hOnes hKeeps found rfl x (mem_of_mem_inServiceOrder hx))
            (fun p hp => absurd hp List.not_mem_nil) b rfl

end Predicting

-- ---------------------------------------------------------------------------
-- Making batches
-- ---------------------------------------------------------------------------

/-- An engine before and after it has made batches for deviations. Batches that await nothing are
sent at once; what else is sent are requests. -/
structure Advances (e : Engine) (deviations : List Deviation) (sent : List Sent)
    (made : List Batch) (e' : Engine) : Prop where
  follows : e.Follows sent e'
  publish : e'.core.publish = e.core.publish
  batches : e'.batches.batches = e.batches.batches ++ made
  serves : ∀ b ∈ made, e.plan.Serves deviations b
  sent : (∀ b ∈ made, b.pending = 0) →
    sent = made.flatMap fun b => e.core.publish (e.updateRules.buildBatch b)

theorem Plan.Serves.mono {c : Plan} {deviations more : List Deviation} {b : Batch}
    (h : c.Serves deviations b) (hSubset : ∀ d ∈ deviations, d ∈ more) : c.Serves more b :=
  fun p hp => ⟨hSubset _ (h p hp).1, (h p hp).2⟩

namespace Advances

variable {e e₁ e₂ : Engine} {deviations : List Deviation} {sent more : List Sent}
  {made later : List Batch}

/-- Nothing is made. -/
theorem nothing (hFollows : e.Follows [] e₁) (hCore : e₁.core = e.core) :
    e.Advances deviations [] [] e₁ where
  follows := hFollows
  publish := by rw [hCore]
  batches := by rw [List.append_nil, show e₁.batches = e.batches from congrArg Core.batches hCore]
  serves _ hb := absurd hb List.not_mem_nil
  sent _ := rfl

theorem trans (h : e.Advances deviations sent made e₁)
    (h' : e₁.Advances deviations more later e₂) :
    e.Advances deviations (sent ++ more) (made ++ later) e₂ where
  follows := h.follows.trans h'.follows
  publish := h'.publish.trans h.publish
  batches := by rw [h'.batches, h.batches, List.append_assoc]
  serves := by
    intro b hb
    rcases List.mem_append.1 hb with hFirst | hLater
    · exact h.serves b hFirst
    · have hServes := h'.serves b hLater
      rwa [h.follows.plan] at hServes
  sent := by
    intro hPending
    have hRules : e₁.updateRules = e.updateRules := congrArg Plan.updateRules h.follows.plan
    rw [h.sent fun b hb => hPending b (List.mem_append_left _ hb),
      h'.sent fun b hb => hPending b (List.mem_append_right _ hb), h.publish, hRules,
      List.flatMap_append]

theorem mono (h : e.Advances deviations sent made e₁) {all : List Deviation}
    (hSubset : ∀ d ∈ deviations, d ∈ all) : e.Advances all sent made e₁ :=
  ⟨h.follows, h.publish, h.batches, fun b hb => (h.serves b hb).mono hSubset, h.sent⟩

end Advances

section Dispatch

variable {e : Engine} {s : BatchStore} {b : Batch} {deviations : List Deviation}

/-- A new batch is published. -/
theorem advances_publishBatch (hAdded : s.batches = e.batches.batches ++ [b])
    (hServes : e.plan.Serves deviations b) :
    e.Advances deviations (e.core.publish (e.updateRules.buildBatch b)) [b]
      ({ e with batches := s }.publishBatch e.batches.batches.length).2 := by
  have hGet : s.get? e.batches.batches.length = some b := by
    rw [BatchStore.get?, hAdded, List.getElem?_append_right (Nat.le_refl _), Nat.sub_self]
    rfl
  have hFollows := follows_publishBatch { e with batches := s } hGet
  have hCore := core_publishBatch { e with batches := s } e.batches.batches.length
  constructor
  case follows => exact ⟨hFollows.plan, hFollows.keeps, hFollows.journal⟩
  case publish =>
    rw [hCore]
    rfl
  case batches => exact (congrArg (fun c => c.batches.batches) hCore).trans hAdded
  case serves =>
    intro b' hb'
    cases List.mem_singleton.1 hb'
    exact hServes
  case sent =>
    intro _
    rw [List.flatMap_singleton]

/-- A new batch is parked, and its requests are sent. -/
theorem advances_sendRequests (hAdded : s.batches = e.batches.batches ++ [b])
    (hServes : e.plan.Serves deviations b) (hPending : b.pending ≠ 0) :
    ∃ sent, e.Advances deviations sent [b]
      ({ e with batches := s }.showParked.sendRequests b) := by
  obtain ⟨sent, hFollows⟩ := follows_sendRequests { e with batches := s }.showParked b
  have hCore : ({ e with batches := s }.showParked.sendRequests b).core =
      { e with batches := s }.core := by
    rw [core_sendRequests, core_showParked]
  refine ⟨sent, ⟨hFollows.plan, hFollows.keeps, hFollows.journal⟩, ?_, ?_, ?_, ?_⟩
  · rw [hCore]
    rfl
  · exact (congrArg (fun c => c.batches.batches) hCore).trans hAdded
  · intro b' hb'
    cases List.mem_singleton.1 hb'
    exact hServes
  · intro hNone
    exact absurd (hNone b (List.mem_singleton_self b)) hPending

/-- Dispatching a new batch publishes or parks it. -/
theorem advances_dispatch (now : Instant) (hFresh : b.published = false)
    (hServes : e.plan.Serves deviations b) :
    ∃ sent b', e.Advances deviations sent [b']
      ((e.keep b).2.dispatch e.batches.batches.length now).2 := by
  have hGet : (e.keep b).2.batches.get? e.batches.batches.length = some b :=
    e.batches.get?_add_self b
  have hAdded : (e.keep b).2.batches.batches = e.batches.batches ++ [b] := rfl
  unfold dispatch
  rw [hGet]
  dsimp only
  by_cases hPending : b.pending = 0
  · -- nobody has claimed it before
    have hClaim : (e.keep b).2.claim e.batches.batches.length =
        (true, { e with
          batches := (e.batches.add b).2.set e.batches.batches.length
            { b with published := true } }) := by
      rw [claim, BatchStore.claim_eq hGet, hFresh]
      rfl
    have hClaimed : ((e.batches.add b).2.set e.batches.batches.length
        { b with published := true }).batches =
        e.batches.batches ++ [{ b with published := true }] := by
      show (e.batches.batches ++ [b]).set _ _ = _
      rw [List.set_append_right _ _ (Nat.le_refl _), Nat.sub_self]
      rfl
    rw [if_pos hPending, hClaim]
    exact ⟨_, _, advances_publishBatch hClaimed hServes⟩
  · rw [if_neg hPending]
    cases hPark : (e.keep b).2.batches.park e.batches.batches.length b now with
    | error halt =>
      refine ⟨[], b, .quiet rfl rfl, rfl, hAdded, fun b' hb' => ?_, fun hNone => ?_⟩
      · cases List.mem_singleton.1 hb'
        exact hServes
      · exact absurd (hNone b (List.mem_singleton_self b)) hPending
    | ok parked =>
      obtain ⟨expiresAt, s'⟩ := parked
      obtain ⟨-, rfl⟩ := BatchStore.park_eq_ok_iff.1 hPark
      obtain ⟨sent, hAdvances⟩ := advances_sendRequests (e := e) (s := { (e.keep b).2.batches with
        parked := (e.keep b).2.batches.parked.insert b.id ⟨e.batches.batches.length, expiresAt⟩ })
        hAdded hServes hPending
      exact ⟨sent, b, hAdvances⟩

end Dispatch

/-- A vehicle makes one batch at most. -/
theorem advances_handleVehicle {e : Engine} (hKeeps : e.Keeps) (vehicle : String)
    (deviations : List Deviation) (now : Instant) : ∃ sent made,
      e.Advances deviations sent made (e.handleVehicle vehicle deviations now).2 := by
  obtain ⟨hFollows, hServes⟩ := e.follows_predictVehicle vehicle deviations
  have hCore := e.core_predictVehicle vehicle deviations
  have hFresh : ∀ {b}, (e.predictVehicle vehicle deviations).1 = .ok (some b) → b.Fresh :=
    fun hMade => (fresh_predictVehicle hMade).1
  unfold handleVehicle
  rcases hResult : e.predictVehicle vehicle deviations with ⟨halt | _ | b, e₁⟩
  · rw [hResult] at hFollows hCore
    exact ⟨[], [], .nothing hFollows hCore⟩
  · rw [hResult] at hFollows hCore
    exact ⟨[], [], .nothing hFollows hCore⟩
  · rw [hResult] at hFollows hCore hServes hFresh
    have hMade : e₁.plan.Serves deviations b := hFollows.plan ▸ hServes hKeeps b rfl
    obtain ⟨sent, b', hDispatch⟩ := advances_dispatch now (hFresh rfl).unpublished hMade
    have hQuiet : e.Advances deviations [] [] e₁ := .nothing hFollows hCore
    have hBoth := hQuiet.trans hDispatch
    refine ⟨sent, [b'], ?_⟩
    have hRef : (e₁.keep b).1 = e₁.batches.batches.length := rfl
    rw [← hRef] at hBoth
    dsimp only
    rcases hLast : (e₁.keep b).2.dispatch (e₁.keep b).1 now with ⟨halt | _, e₂⟩
    · rw [hLast] at hBoth
      exact hBoth
    · rw [hLast] at hBoth
      exact hBoth

/-- Vehicles make batches one after the other. -/
theorem advances_handleVehicles (now : Instant) (vehicles : List (String × List Deviation)) :
    ∀ {e : Engine}, e.Keeps → ∃ sent made,
      e.Advances (vehicles.flatMap Prod.snd) sent made (e.handleVehicles now vehicles).2 := by
  induction vehicles with
  | nil => exact fun {e} _ => ⟨[], [], .nothing (.refl e) rfl⟩
  | cons x rest ih =>
    intro e hKeeps
    obtain ⟨vehicle, deviations⟩ := x
    obtain ⟨sent, made, hFirst⟩ := advances_handleVehicle hKeeps vehicle deviations now
    have hHead : ∀ d ∈ deviations, d ∈ ((vehicle, deviations) :: rest).flatMap Prod.snd :=
      fun d hd => List.mem_append_left _ hd
    have hOne := hFirst.mono hHead
    unfold handleVehicles
    rcases hResult : e.handleVehicle vehicle deviations now with ⟨halt | ref, e₁⟩
    · rw [hResult] at hOne
      exact ⟨sent, made, hOne⟩
    · rw [hResult] at hOne
      obtain ⟨more, later, hRest⟩ := ih (hOne.follows.keeps hKeeps)
      have hBoth := hOne.trans (hRest.mono fun d hd => List.mem_append_right _ hd)
      refine ⟨sent ++ more, made ++ later, ?_⟩
      dsimp only at hBoth ⊢
      rcases hMore : e₁.handleVehicles now rest with ⟨halt | refs, e₂⟩
      · rw [hMore] at hBoth
        exact hBoth
      · rw [hMore] at hBoth
        exact hBoth

/-- What a report makes, and what it sends. -/
theorem advances_handleReport {e : Engine} (hKeeps : e.Keeps) (r : VehicleReport) (now : Instant) :
    ∃ sent made, e.Advances r.deviations sent made (e.handleReport r now).2 := by
  obtain ⟨sent, made, hVehicles⟩ := advances_handleVehicles now
    (byVehicle (r.deviations.filter fun d => e.settings.allowsRoute d.route))
    (e := e.measure fun m => m.count .reportsHandled) hKeeps
  have hAll := @Advances.mono _ _ _ _ _ hVehicles r.deviations fun d hd => by
    obtain ⟨x, hx, hMem⟩ := List.mem_flatMap.1 hd
    obtain ⟨vehicle, -, rfl⟩ := List.mem_map.1 hx
    exact (List.mem_filter.1 (List.mem_filter.1 hMem).1).1
  have hCounted : e.Advances r.deviations [] [] (e.measure fun m => m.count .reportsHandled) :=
    .nothing (.quiet rfl rfl) (core_add e (by simp) 1)
  have hBoth := hCounted.trans hAll
  refine ⟨sent, made, ?_⟩
  unfold handleReport
  dsimp only at hBoth ⊢
  rcases hResult : (e.measure fun m => m.count .reportsHandled).handleVehicles now
    (byVehicle (r.deviations.filter fun d => e.settings.allowsRoute d.route)) with
    ⟨halt | refs, e₁⟩
  · rw [hResult] at hBoth
    exact hBoth
  · rw [hResult] at hBoth
    have hTimed : e₁.Advances r.deviations [] [] (e₁.measure fun m => m.count .predictionLatency) :=
      .nothing (.quiet rfl rfl) (core_add e₁ (by simp) 1)
    have hLast := hBoth.trans hTimed
    rwa [List.append_nil, List.append_nil] at hLast

-- ---------------------------------------------------------------------------
-- Runs
-- ---------------------------------------------------------------------------

/-- An answer sends what it completes. -/
theorem follows_handleResponse (e : Engine) (r : InferenceResponse) (now : Instant) :
    ∃ sent, e.Follows sent (e.handleResponse r now).2 := by
  unfold handleResponse applyResponse
  rcases e.batches.apply r now with ⟨error | n | ref, s'⟩
  · exact ⟨[], .quiet rfl rfl⟩
  · exact ⟨[], .quiet rfl rfl⟩
  · dsimp only
    cases hGet : s'.get? ref with
    | none =>
      rw [publishBatch_of_none hGet]
      exact ⟨[], .quiet rfl rfl⟩
    | some b =>
      have hFollows := follows_publishBatch (({ e with batches := s' }.measure fun m =>
        m.count .responsesApplied).showParked) hGet
      exact ⟨_, hFollows.plan, hFollows.keeps, hFollows.journal⟩

/-- A sweep keeps some of the predictors. -/
theorem follows_sweep (e : Engine) (now : Instant) : e.Follows [] (e.sweep now).2 := by
  refine ⟨rfl, fun hKeeps key p hFound => hKeeps key p ?_, (List.append_nil _).symm⟩
  have hFilter : (e.predictors.sweep now e.settings.predictorLifetime).find? key = some p := hFound
  rw [PredictorCache.find?_sweep, Option.filter_eq_some_iff] at hFilter
  exact hFilter.1

/-- No event changes what an engine predicts with. -/
theorem follows_handle {e : Engine} (hKeeps : e.Keeps) (event : Event) :
    ∃ sent, e.Follows sent (e.handle event) := by
  cases event with
  | observe ts => exact ⟨[], .quiet rfl rfl⟩
  | report r now =>
    obtain ⟨sent, made, hReport⟩ := advances_handleReport hKeeps r now
    exact ⟨sent, hReport.follows⟩
  | response r now => exact e.follows_handleResponse r now
  | sweep now => exact ⟨[], e.follows_sweep now⟩

/-- However long an engine has run, it predicts with what it started with. -/
theorem follows_run (events : List Event) : ∀ {e : Engine}, e.Keeps →
    ∃ sent, e.Follows sent (e.run events) := by
  induction events with
  | nil => exact fun {e} _ => ⟨[], .refl e⟩
  | cons event rest ih =>
    intro e hKeeps
    obtain ⟨sent, hFirst⟩ := follows_handle hKeeps event
    obtain ⟨more, hRest⟩ := ih (hFirst.keeps hKeeps)
    exact ⟨sent ++ more, hFirst.trans hRest⟩

/-- An engine starts without predictors. -/
theorem keeps_start {settings : EngineSettings} {timetable : Timetable} {models : ModelRegistry}
    {holidays : Holidays} {refusedTrips : List String} {wall : Instant} {e : Engine}
    (h : start? settings timetable models holidays refusedTrips wall = some e) :
    e.Keeps ∧ e.timetable = timetable ∧ e.models = models ∧
      Span.ofSeconds? settings.earlySeconds = some e.updateRules.earlyLimit := by
  unfold start? at h
  split at h
  · rename_i hEarly
    cases h
    have hNone : ∀ key p, (Table.empty : PredictorCache).find? key ≠ some p := nofun
    exact ⟨fun key p hFound => absurd hFound (hNone key p), rfl, rfl, hEarly⟩
  · cases h

end Engine

end TransitForecast
