import TransitForecast.Engine.Run
import TransitForecast.Proofs.Responses

/-!
# TransitForecast — what events do to an engine

Most of what an engine does while it handles an event leaves its core alone: its rules, its store of
batches, and the number of batches that expired. So it is enough to say once what each kind of event
does to the core.

## Results

* `vehicleEffect_handleVehicle` — the five things that can come of a vehicle.
* `core_handleResponse`, `core_sweep` — an answer, and a sweep.
* `journal_publishBatch` — what leaves when a batch is published.
* `reachable_run` — the store of an engine is reachable at every moment.
-/

namespace TransitForecast

-- ---------------------------------------------------------------------------
-- Metrics and bus
-- ---------------------------------------------------------------------------

theorem Metrics.get_set (m : Metrics) (name other : Metric) (value : Nat) :
    (m.set name value).get other = if other = name then value else m.get other := by
  unfold Metrics.set Metrics.get
  by_cases hName : other = name
  · subst hName
    rw [if_pos rfl]
    split
    · rename_i hZero
      have hNone : (m.values.filter fun v => v.1 ≠ other).find? (fun v => v.1 = other) = none := by
        rw [List.find?_eq_none]
        intro v hv hEq
        exact of_decide_eq_true (List.mem_filter.1 hv).2 (of_decide_eq_true hEq)
      rw [hNone, hZero]
      rfl
    · simp
  · rw [if_neg hName]
    have hFind : (m.values.filter fun v => v.1 ≠ name).find? (fun v => v.1 = other) =
        m.values.find? fun v => v.1 = other := by
      rw [List.find?_filter]
      congr 1
      funext v
      by_cases hv : v.1 = other
      · simp [hv, hName]
      · simp [hv]
    split
    · rw [hFind]
    · rw [List.find?_cons_of_neg, hFind]
      simpa using fun hEq => hName hEq.symm

theorem Metrics.get_add_of_ne (m : Metrics) {name other : Metric} (h : other ≠ name) (n : Nat) :
    (m.add name n).get other = m.get other := by
  rw [add, get_set, if_neg h]

theorem Bus.closed_deliver (b : Bus) (msg : Message) : (b.deliver msg).closed = b.closed := by
  have hGroups : ∀ (groups : List String) (b : Bus),
      (groups.foldl (deliverToGroup msg) b).closed = b.closed := by
    intro groups
    induction groups with
    | nil => intro b; rfl
    | cons group rest ih =>
      intro b
      rw [List.foldl_cons, ih, deliverToGroup]
      split <;> rfl
  rw [deliver, hGroups]
  rfl

namespace Engine

-- ---------------------------------------------------------------------------
-- The core of an engine
-- ---------------------------------------------------------------------------

/-- What decides which batches an engine holds and how it publishes them. -/
structure Core where
  settings : EngineSettings
  updateRules : UpdateRules
  refusedTrips : List String
  /-- Whether its bus refuses messages. -/
  closed : Bool
  batches : BatchStore
  /-- How many batches were counted as expired. -/
  expired : Nat

/-- The core of an engine. -/
def core (e : Engine) : Core :=
  ⟨e.settings, e.updateRules, e.refusedTrips, e.bus.closed, e.batches,
    e.metrics.get .batchesExpired⟩

section Ambient

variable (e : Engine)

theorem core_add {name : Metric} (h : .batchesExpired ≠ name) (n : Nat) :
    (e.measure fun m => m.add name n).core = e.core := by
  simp only [core, measure, Metrics.get_add_of_ne _ h]

@[simp] theorem core_showParked : e.showParked.core = e.core := by
  simp only [core, showParked, measure, Metrics.get_set, if_neg, reduceCtorEq, not_false_eq_true]

@[simp] theorem core_drop (error : PredictionError) : (e.drop error).core = e.core :=
  e.core_add (by simp) 1

@[simp] theorem core_send (subject : String) (payload : Payload) :
    (e.send subject payload).2.core = e.core := by
  unfold send
  split
  · rename_i bus hPublish
    have hClosed : bus.closed = e.bus.closed := by
      unfold Bus.publish at hPublish
      split at hPublish
      · cases hPublish
      · split at hPublish
        · cases hPublish
          exact Bus.closed_deliver _ _
        · cases hPublish
    simp only [core, hClosed]
  · rfl

@[simp] theorem core_publishUpdate (u : TripUpdate) : (e.publishUpdate u).2.core = e.core := by
  unfold publishUpdate
  split
  · rfl
  · exact e.core_send _ _

@[simp] theorem core_publishUpdates (updates : List TripUpdate) :
    (e.publishUpdates updates).2.core = e.core := by
  induction updates generalizing e with
  | nil => rfl
  | cons u rest ih =>
    have hFirst := e.core_publishUpdate u
    unfold publishUpdates
    rcases hSent : e.publishUpdate u with ⟨sent, e₁⟩
    rw [hSent] at hFirst
    cases sent with
    | true => exact (ih _).trans ((e₁.core_add (by simp) 1).trans hFirst)
    | false => exact (ih _).trans ((e₁.core_add (by simp) 1).trans hFirst)

@[simp] theorem core_reportPublisher (failed total : Nat) :
    (e.reportPublisher failed total).core = e.core := by
  unfold reportPublisher
  split
  · rfl
  · split <;> rfl

@[simp] theorem core_publishBatch (ref : BatchRef) : (e.publishBatch ref).2.core = e.core := by
  unfold publishBatch
  split
  · rfl
  · rename_i b _
    refine (core_add _ (by simp) 1).trans ?_
    rw [core_reportPublisher, core_publishUpdates]

@[simp] theorem core_sendRequests (b : Batch) : (e.sendRequests b).core = e.core := by
  have hAll : ∀ (requests : List InferenceRequest) (e : Engine),
      (requests.foldl sendRequest e).core = e.core := by
    intro requests
    induction requests with
    | nil => intro e; rfl
    | cons r rest ih =>
      intro e
      rw [List.foldl_cons, ih, sendRequest, core_send]
  rw [sendRequests, core_add _ (by simp), hAll]

@[simp] theorem core_predictorsOf (deviations : List Deviation) :
    (e.predictorsOf deviations).2.core = e.core := by
  induction deviations generalizing e with
  | nil => rfl
  | cons d rest ih =>
    have hFirst : (e.predictorOf d).2.core = e.core := by
      unfold predictorOf
      split
      · rfl
      · rfl
      · rw [core_drop]
        rfl
    unfold predictorsOf
    rcases hOne : e.predictorOf d with ⟨halt | found, e₁⟩
    · rw [hOne] at hFirst
      exact hFirst
    · rw [hOne] at hFirst
      have hRest := (ih e₁).trans hFirst
      dsimp only
      rcases hMore : e₁.predictorsOf rest with ⟨halt | more, e₂⟩
      · rw [hMore] at hRest
        exact hRest
      · rw [hMore] at hRest
        exact hRest

@[simp] theorem core_predictTrips (b : Batch) (found : List (TripPredictor × Deviation)) :
    (e.predictTrips b found).2.core = e.core := by
  induction found generalizing e b with
  | nil => rfl
  | cons x rest ih =>
    obtain ⟨predictor, d⟩ := x
    unfold predictTrips
    split
    · rfl
    · exact ih e b
    · split
      · rfl
      · exact ih _ _

@[simp] theorem core_predictVehicle (vehicle : String) (deviations : List Deviation) :
    (e.predictVehicle vehicle deviations).2.core = e.core := by
  have hFound := e.core_predictorsOf deviations
  unfold predictVehicle
  rcases hResult : e.predictorsOf deviations with ⟨halt | found, e₁⟩
  · rw [hResult] at hFound
    exact hFound
  · rw [hResult] at hFound
    dsimp only
    split
    · exact hFound
    · rename_i createdAt _
      have hTrips :=
        (e₁.core_predictTrips (.start vehicle createdAt) (inServiceOrder found)).trans hFound
      rcases hBatch : e₁.predictTrips (.start vehicle createdAt) (inServiceOrder found) with
        ⟨halt | b, e₂⟩
      · rw [hBatch] at hTrips
        exact hTrips
      · rw [hBatch] at hTrips
        dsimp only
        split
        · exact hTrips
        · exact (e₂.core_add (by simp) _).trans hTrips

end Ambient

-- ---------------------------------------------------------------------------
-- Vehicles
-- ---------------------------------------------------------------------------

/-- What can come of a vehicle: a result and the store of batches after it. -/
inductive VehicleEffect (s : BatchStore) (vehicle : String) (now : Instant) :
    Except Halt (Option BatchRef) → BatchStore → Prop
  | halted {halt : Halt} : VehicleEffect s vehicle now (.error halt) s
  | nothing : VehicleEffect s vehicle now (.ok none) s
  /-- A batch that awaits nothing is claimed at once. -/
  | claimed {b : Batch} : b.IsBuilt → b.vehicle = vehicle → b.pending = 0 →
    VehicleEffect s vehicle now (.ok (some s.batches.length))
      ((s.add b).2.claim s.batches.length).2
  | parked {b : Batch} {expiresAt : Instant} {s' : BatchStore} :
    b.IsBuilt → b.vehicle = vehicle → b.pending ≠ 0 →
    (s.add b).2.park s.batches.length b now = .ok (expiresAt, s') →
    VehicleEffect s vehicle now (.ok (some s.batches.length)) s'
  /-- The time at which a batch would expire cannot be represented. -/
  | unparked {b : Batch} {halt : Halt} : b.IsBuilt →
    VehicleEffect s vehicle now (.error halt) (s.add b).2

section Dispatch

variable {e : Engine} {ref : Nat} {b : Batch} (now : Instant)

theorem dispatch_of_complete (hGet : e.batches.get? ref = some b) (hPending : b.pending = 0) :
    (e.dispatch ref now).1 = .ok () ∧
      (e.dispatch ref now).2.core = { e.core with batches := (e.batches.claim ref).2 } := by
  unfold dispatch claim
  rw [hGet]
  dsimp only
  rw [if_pos hPending]
  rcases e.batches.claim ref with ⟨won, batches⟩
  cases won with
  | true =>
    refine ⟨rfl, ?_⟩
    dsimp only
    rw [core_publishBatch]
    rfl
  | false => exact ⟨rfl, rfl⟩

theorem dispatch_of_pending (hGet : e.batches.get? ref = some b) (hPending : b.pending ≠ 0) :
    (∃ halt, e.batches.park ref b now = .error halt ∧ e.dispatch ref now = (.error halt, e)) ∨
      ∃ expiresAt s', e.batches.park ref b now = .ok (expiresAt, s') ∧
        (e.dispatch ref now).1 = .ok () ∧
        (e.dispatch ref now).2.core = { e.core with batches := s' } := by
  unfold dispatch
  rw [hGet]
  dsimp only
  rw [if_neg hPending]
  rcases e.batches.park ref b now with halt | ⟨expiresAt, s'⟩
  · exact .inl ⟨halt, rfl, rfl⟩
  · refine .inr ⟨expiresAt, s', rfl, rfl, ?_⟩
    dsimp only
    rw [core_sendRequests, core_showParked]
    rfl

end Dispatch

/-- Handling a vehicle has one of these effects, and changes nothing else of the core. -/
theorem vehicleEffect_handleVehicle (e : Engine) (vehicle : String) (deviations : List Deviation)
    (now : Instant) : ∃ s', (e.handleVehicle vehicle deviations now).2.core =
      { e.core with batches := s' } ∧
      VehicleEffect e.batches vehicle now (e.handleVehicle vehicle deviations now).1 s' := by
  have hCore := e.core_predictVehicle vehicle deviations
  have hBatch : ∀ {b}, (e.predictVehicle vehicle deviations).1 = .ok (some b) →
      b.IsBuilt ∧ b.vehicle = vehicle :=
    fun h => ⟨⟨e, vehicle, deviations, h⟩, (fresh_predictVehicle h).2⟩
  unfold handleVehicle
  rcases hResult : e.predictVehicle vehicle deviations with ⟨halt | _ | b, e₁⟩
  · rw [hResult] at hCore
    exact ⟨e.batches, hCore, .halted⟩
  · rw [hResult] at hCore
    exact ⟨e.batches, hCore, .nothing⟩
  · rw [hResult] at hCore hBatch
    obtain ⟨hBuilt, hVehicle⟩ := hBatch rfl
    -- predicting leaves the store alone, so the batch gets the next number of the store before it
    have hStore : e₁.batches = e.batches := congrArg Core.batches hCore
    have hKept : (e₁.keep b).2.core = { e.core with batches := (e.batches.add b).2 } := by
      rw [← hCore, ← hStore]
      rfl
    have hRef : (e₁.keep b).1 = e.batches.batches.length := by
      rw [← hStore]
      rfl
    have hKeptStore : (e₁.keep b).2.batches = (e.batches.add b).2 := congrArg Core.batches hKept
    dsimp only
    rcases hKeep : e₁.keep b with ⟨ref, e₂⟩
    rw [hKeep] at hKept hRef hKeptStore
    dsimp only at hKept hRef hKeptStore ⊢
    subst hRef
    have hGet : e₂.batches.get? e.batches.batches.length = some b := by
      rw [hKeptStore, BatchStore.get?_add_self]
    by_cases hPending : b.pending = 0
    · obtain ⟨hDone, hNext⟩ := dispatch_of_complete now hGet hPending
      rcases hDispatch : e₂.dispatch e.batches.batches.length now with ⟨result, e₃⟩
      rw [hDispatch] at hDone hNext
      dsimp only at hDone hNext
      subst hDone
      rw [hKept, hKeptStore] at hNext
      exact ⟨_, hNext, .claimed hBuilt hVehicle hPending⟩
    · rcases dispatch_of_pending now hGet hPending with
        ⟨halt, -, hHalt⟩ | ⟨expiresAt, s', hPark, hDone, hNext⟩
      · rw [hHalt]
        exact ⟨_, hKept, .unparked hBuilt⟩
      · rcases hDispatch : e₂.dispatch e.batches.batches.length now with ⟨result, e₃⟩
        rw [hDispatch] at hDone hNext
        dsimp only at hDone hNext
        subst hDone
        rw [hKept] at hNext
        rw [hKeptStore] at hPark
        exact ⟨s', hNext, .parked hBuilt hVehicle hPending hPark⟩

-- ---------------------------------------------------------------------------
-- Answers and sweeps
-- ---------------------------------------------------------------------------

/-- An answer changes only the store of batches. -/
theorem core_handleResponse (e : Engine) (r : InferenceResponse) (now : Instant) :
    (e.handleResponse r now).1 = (e.batches.apply r now).1 ∧
      (e.handleResponse r now).2.core =
        { e.core with batches := (e.batches.apply r now).2 } := by
  unfold handleResponse applyResponse
  rcases e.batches.apply r now with ⟨error | n | ref, s'⟩
  · exact ⟨rfl, rfl⟩
  · refine ⟨rfl, ?_⟩
    exact core_add _ (by simp) 1
  · refine ⟨rfl, ?_⟩
    dsimp only
    rw [core_publishBatch, core_showParked]
    exact core_add _ (by simp) 1

theorem batches_handleResponse (e : Engine) (r : InferenceResponse) (now : Instant) :
    (e.handleResponse r now).2.batches = (e.batches.apply r now).2 :=
  congrArg Core.batches (e.core_handleResponse r now).2

/-- A sweep takes out what has expired, and counts it. -/
theorem core_sweep (e : Engine) (now : Instant) : (e.sweep now).2.core =
    { e.core with
      batches := e.batches.sweep now
      expired := e.core.expired +
        (e.batches.parkedCount - (e.batches.sweep now).parkedCount) } := by
  simp only [sweep, core, measure, measureSweep, Metrics.get_set, Metrics.add,
    Metric.predictorCache, Metric.transitionCache, reduceCtorEq, if_false, if_true]
  rfl

-- ---------------------------------------------------------------------------
-- Events
-- ---------------------------------------------------------------------------

/-- What every vehicle keeps, a list of vehicles keeps. -/
theorem handleVehicles_induction {P : BatchStore → Prop} (now : Instant)
    (hStep : ∀ {s vehicle result s'}, VehicleEffect s vehicle now result s' → P s → P s')
    (vehicles : List (String × List Deviation)) :
    ∀ e : Engine, P e.batches → ∃ s', P s' ∧
      (e.handleVehicles now vehicles).2.core = { e.core with batches := s' } := by
  induction vehicles with
  | nil =>
    intro e h
    exact ⟨e.batches, h, rfl⟩
  | cons x rest ih =>
    intro e h
    obtain ⟨vehicle, deviations⟩ := x
    obtain ⟨s₁, hCore, hEffect⟩ := e.vehicleEffect_handleVehicle vehicle deviations now
    unfold handleVehicles
    rcases hOne : e.handleVehicle vehicle deviations now with ⟨halt | made, e₁⟩
    · rw [hOne] at hCore hEffect
      exact ⟨s₁, hStep hEffect h, hCore⟩
    · rw [hOne] at hCore hEffect
      -- the other vehicles start from what the first one left
      have hStore : e₁.batches = s₁ := congrArg Core.batches hCore
      obtain ⟨s₂, hLast, hCore₂⟩ := ih e₁ (hStore ▸ hStep hEffect h)
      dsimp only at hCore ⊢
      rw [hCore] at hCore₂
      rcases hMore : e₁.handleVehicles now rest with ⟨halt | more, e₂⟩
      · rw [hMore] at hCore₂
        exact ⟨s₂, hLast, hCore₂⟩
      · rw [hMore] at hCore₂
        exact ⟨s₂, hLast, hCore₂⟩

/-- A report handles the vehicles of its deviations on allowed routes. -/
theorem core_handleReport (e : Engine) (r : VehicleReport) (now : Instant) :
    (e.handleReport r now).2.core =
      ((e.measure fun m => m.count .reportsHandled).handleVehicles now
        (byVehicle (r.deviations.filter fun d => e.settings.allowsRoute d.route))).2.core := by
  unfold handleReport
  dsimp only
  rcases (e.measure fun m => m.count .reportsHandled).handleVehicles now
    (byVehicle (r.deviations.filter fun d => e.settings.allowsRoute d.route)) with
    ⟨halt | batches, e'⟩
  · rfl
  · exact core_add _ (by simp) 1

/-- What every vehicle keeps, a report keeps. -/
theorem handleReport_induction {P : BatchStore → Prop} (now : Instant)
    (hStep : ∀ {s vehicle result s'}, VehicleEffect s vehicle now result s' → P s → P s')
    (e : Engine) (r : VehicleReport) (h : P e.batches) :
    ∃ s', P s' ∧ (e.handleReport r now).2.core = { e.core with batches := s' } := by
  obtain ⟨s', hLast, hCore⟩ := handleVehicles_induction now hStep
    (byVehicle (r.deviations.filter fun d => e.settings.allowsRoute d.route))
    (e.measure fun m => m.count .reportsHandled) h
  refine ⟨s', hLast, (e.core_handleReport r now).trans (hCore.trans ?_)⟩
  rw [show (e.measure fun m => m.count .reportsHandled).core = e.core from core_add e (by simp) 1]

/-- No event changes the rules of an engine. -/
theorem core_handle (e : Engine) (event : Event) :
    ∃ s' n, (e.handle event).core = { e.core with batches := s', expired := n } := by
  cases event with
  | observe ts => exact ⟨e.batches, e.core.expired, rfl⟩
  | report r now =>
    obtain ⟨s', -, hCore⟩ := handleReport_induction (P := fun _ => True) now
      (fun _ _ => trivial) e r trivial
    exact ⟨s', e.core.expired, hCore⟩
  | response r now => exact ⟨_, e.core.expired, (e.core_handleResponse r now).2⟩
  | sweep now => exact ⟨_, _, e.core_sweep now⟩

-- ---------------------------------------------------------------------------
-- Reachable stores
-- ---------------------------------------------------------------------------

theorem VehicleEffect.reachable {s s' : BatchStore} {vehicle : String} {now : Instant}
    {result : Except Halt (Option BatchRef)} (h : VehicleEffect s vehicle now result s')
    (hs : s.Reachable) : s'.Reachable := by
  cases h with
  | halted => exact hs
  | nothing => exact hs
  | @claimed b hBuilt _ hPending =>
    have hRemaining : (s.add b).2.remaining s.batches.length = 0 := by
      rw [BatchStore.remaining_eq (s.get?_add_self b), hPending]
    exact (hs.next (.add hBuilt)).next (.claim hRemaining)
  | @parked b expiresAt _ hBuilt _ hPending hPark =>
    exact (hs.next (.add hBuilt)).next (.park (s.get?_add_self b) hPending hPark)
  | unparked hBuilt => exact hs.next (.add hBuilt)

theorem reachable_apply {s : BatchStore} (hs : s.Reachable) (r : InferenceResponse)
    (now : Instant) : (s.apply r now).2.Reachable := by
  rcases BatchStore.apply_cases hs.sound r now with ⟨error, hError⟩ |
    ⟨c, seconds, ref, b, b', -, -, hGet, hb', hCases⟩
  · rw [hError]
    exact hs
  · have hAnswered := hs.next (.answer (BatchStore.answer_eq_ok_iff.2 ⟨b, b', hGet, hb', rfl⟩))
    rcases hCases with ⟨-, hApply⟩ | ⟨hLast, hApply⟩
    · rw [hApply]
      exact hAnswered
    · have hGet' := BatchStore.get?_set_self hGet b'
      -- the claim is the one that `finish` makes after its count
      have hClaim := hAnswered.next (.claim (by rw [BatchStore.remaining_eq hGet', hLast]))
      rw [BatchStore.claim_eq hGet', BatchStore.set, BatchStore.set, List.set_set] at hClaim
      rw [hApply]
      exact hClaim.next (.unpark _ c.batch)

/-- The store of an engine stays reachable. -/
theorem reachable_handle {e : Engine} (h : e.batches.Reachable) (event : Event) :
    (e.handle event).batches.Reachable := by
  cases event with
  | observe ts => exact h
  | report r now =>
    obtain ⟨s', hLast, hCore⟩ := handleReport_induction (P := BatchStore.Reachable) now
      (fun hEffect => hEffect.reachable) e r h
    have hStore : (e.handleReport r now).2.batches = s' := congrArg Core.batches hCore
    rw [handle, hStore]
    exact hLast
  | response r now =>
    rw [handle, batches_handleResponse]
    exact reachable_apply h r now
  | sweep now => exact h.next (.sweep e.batches now)

theorem reachable_run {e : Engine} (h : e.batches.Reachable) (events : List Event) :
    (e.run events).batches.Reachable := by
  induction events generalizing e with
  | nil => exact h
  | cons event rest ih => exact ih (reachable_handle h event)

/-- How an engine starts. -/
theorem core_start {settings : EngineSettings} {timetable : Timetable} {models : ModelRegistry}
    {holidays : Holidays} {refusedTrips : List String} {wall : Instant} {e : Engine}
    (h : start? settings timetable models holidays refusedTrips wall = some e) :
    e.core = ⟨settings, e.updateRules, refusedTrips, false, .empty settings.batchLifetime, 0⟩ := by
  unfold start? at h
  split at h
  · cases h
    rfl
  · cases h

-- ---------------------------------------------------------------------------
-- Publishing
-- ---------------------------------------------------------------------------

/-- An update as it is handed to the bus. -/
def Core.sent (c : Core) (u : TripUpdate) : Sent where
  subject := c.settings.subjects.updates
  payload := .update u
  delivered := !c.closed && Bus.isValidSubject c.settings.subjects.updates

/-- What is handed to the bus of some updates: those that the publisher does not refuse. -/
def Core.publish (c : Core) (updates : List TripUpdate) : List Sent :=
  (updates.filter fun u => !c.refusedTrips.contains u.trip).map c.sent

theorem journal_send (e : Engine) (subject : String) (payload : Payload) :
    (e.send subject payload).2.journal = e.journal ++
      [⟨subject, payload, !e.bus.closed && Bus.isValidSubject subject⟩] := by
  unfold send Bus.publish
  cases hClosed : e.bus.closed with
  | true => rfl
  | false =>
    cases hValid : Bus.isValidSubject subject with
    | true => rfl
    | false => rfl

theorem journal_publishUpdate (e : Engine) (u : TripUpdate) :
    (e.publishUpdate u).2.journal = e.journal ++ e.core.publish [u] := by
  unfold publishUpdate
  cases hRefused : e.refusedTrips.contains u.trip with
  | true =>
    have hNone : e.core.publish [u] = [] := by
      rw [Core.publish, List.filter_cons, core, hRefused]
      rfl
    rw [hNone, List.append_nil]
    rfl
  | false =>
    have hOne : e.core.publish [u] = [e.core.sent u] := by
      rw [Core.publish, List.filter_cons, core, hRefused]
      rfl
    rw [hOne]
    exact journal_send e _ _

theorem journal_publishUpdates (updates : List TripUpdate) : ∀ e : Engine,
    (e.publishUpdates updates).2.journal = e.journal ++ e.core.publish updates := by
  induction updates with
  | nil =>
    intro e
    exact (List.append_nil _).symm
  | cons u rest ih =>
    intro e
    have hCore := e.core_publishUpdate u
    have hFirst := e.journal_publishUpdate u
    have hSplit : e.core.publish (u :: rest) = e.core.publish [u] ++ e.core.publish rest := by
      rw [Core.publish, Core.publish, Core.publish, ← List.map_append, ← List.filter_append]
      rfl
    unfold publishUpdates
    rcases hSent : e.publishUpdate u with ⟨sent, e₁⟩
    rw [hSent] at hCore hFirst
    -- whether the update went out decides only what is counted
    have hNext : ∀ name : Metric, .batchesExpired ≠ name →
        ((e₁.measure fun m => m.count name).publishUpdates rest).2.journal =
          e.journal ++ e.core.publish (u :: rest) := by
      intro name hName
      have hCounted : (e₁.measure fun m => m.count name).core = e.core :=
        (e₁.core_add hName 1).trans hCore
      rw [ih, hCounted, hSplit, ← List.append_assoc, ← hFirst]
      rfl
    cases sent with
    | true => exact hNext _ (by simp)
    | false => exact hNext _ (by simp)

/-- Publishing a batch hands its updates to the bus. -/
theorem journal_publishBatch {e : Engine} {ref : BatchRef} {b : Batch}
    (hGet : e.batches.get? ref = some b) : (e.publishBatch ref).2.journal =
      e.journal ++ e.core.publish (e.updateRules.buildBatch b) := by
  unfold publishBatch
  rw [hGet]
  dsimp only
  rw [← journal_publishUpdates]
  unfold reportPublisher
  split
  · rfl
  · split <;> rfl

/-- An answer after which a batch awaits others hands nothing to the bus. -/
theorem journal_of_pending {e : Engine} {r : InferenceResponse} {now : Instant} {n : Nat}
    (h : (e.batches.apply r now).1 = .ok (.pending n)) :
    (e.handleResponse r now).2.journal = e.journal := by
  unfold handleResponse applyResponse
  rcases hApply : e.batches.apply r now with ⟨outcome, s'⟩
  rw [hApply] at h
  dsimp only at h
  subst h
  rfl

/-- An answer that completes a batch has its updates published. -/
theorem journal_of_complete {e : Engine} {r : InferenceResponse} {now : Instant} {ref : BatchRef}
    {b : Batch} (h : (e.batches.apply r now).1 = .ok (.complete ref))
    (hGet : (e.batches.apply r now).2.get? ref = some b) : (e.handleResponse r now).2.journal =
      e.journal ++ e.core.publish (e.updateRules.buildBatch b) := by
  unfold handleResponse applyResponse
  rcases hApply : e.batches.apply r now with ⟨outcome, s'⟩
  rw [hApply] at h hGet
  dsimp only at h
  subst h
  exact journal_publishBatch hGet

end Engine

end TransitForecast
