import TransitForecast.Proofs.Expiry
import TransitForecast.Proofs.Plan

/-!
# TransitForecast — sweeps cannot be seen

A sweep takes out what has expired, and what has expired is not found either way: a parked batch
past its time counts as unknown, an observed transition that is too old is not looked up, and a
predictor that is missing is built again just as it was. So an engine that is swept and one that is
not differ in what they hold, but not in anything that they reply, build or send.

Time must not run backwards for it: an engine that is swept ahead of time has lost what it should
still find. And leap seconds may turn an age back, as the time between two instants is counted here:
what was too old at a sweep is then fresh again after it.

## Results

* `passes_predictorOf` — a predictor is the same, whether it was kept or not.
* `Twins.handle` — twins handle an event alike, and stay twins.
* `Twins.handle_sweep` — twins stay twins when one of them is swept.
* `sweeps_are_invisible` — sweeps may be left out of a run.
* `seen_after_a_leap_second` — a run in which a sweep shows.
-/

namespace TransitForecast

namespace Engine

-- ---------------------------------------------------------------------------
-- What leaves the stores alone
-- ---------------------------------------------------------------------------

/-- Whether each kept predictor is the one that would be built again if it was missing. -/
def Refetches (e : Engine) : Prop :=
  ∀ key p, e.predictors.find? key = some p →
    ∃ trip, e.timetable.fetch key = .ok (.ok trip) ∧ p = e.plan.predictor trip

theorem Refetches.keeps {e : Engine} (h : e.Refetches) : e.Keeps := by
  intro key p hFound
  obtain ⟨trip, hFetch, hPredictor⟩ := h key p hFound
  exact ⟨trip, Timetable.trip_of_fetch hFetch, hPredictor⟩

/-- An engine before and after something that may send messages and fetch predictors, but leaves its
batches and its observed transitions alone. -/
structure Passes (e : Engine) (sent : List Sent) (e' : Engine) : Prop where
  plan : e'.plan = e.plan
  core : e'.core = e.core
  transitions : e'.transitions = e.transitions
  refetches : e.Refetches → e'.Refetches
  journal : e'.journal = e.journal ++ sent

namespace Passes

variable {e e₁ e₂ : Engine} {sent more : List Sent}

theorem of_stock (hStock : e₁.stock = e.stock) (hCore : e₁.core = e.core)
    (hTransitions : e₁.transitions = e.transitions) (hJournal : e₁.journal = e.journal ++ sent) :
    e.Passes sent e₁ := by
  have hPlan : e₁.plan = e.plan := congrArg Prod.fst hStock
  have hPredictors : e₁.predictors = e.predictors := congrArg Prod.snd hStock
  have hTimetable : e₁.timetable = e.timetable := congrArg Plan.timetable hPlan
  refine ⟨hPlan, hCore, hTransitions, fun hRefetches key p hFound => ?_, hJournal⟩
  rw [hPredictors] at hFound
  rw [hTimetable, hPlan]
  exact hRefetches key p hFound

/-- What is only counted or shown. -/
theorem quiet (hStock : e₁.stock = e.stock) (hCore : e₁.core = e.core)
    (hTransitions : e₁.transitions = e.transitions) (hJournal : e₁.journal = e.journal) :
    e.Passes [] e₁ :=
  .of_stock hStock hCore hTransitions (hJournal.trans (List.append_nil _).symm)

theorem add (e : Engine) (name : Metric) (h : .batchesExpired ≠ name) (n : Nat) :
    e.Passes [] (e.measure fun m => m.add name n) :=
  .quiet rfl (core_add e h n) rfl rfl

theorem trans (h : e.Passes sent e₁) (h' : e₁.Passes more e₂) : e.Passes (sent ++ more) e₂ where
  plan := h'.plan.trans h.plan
  core := h'.core.trans h.core
  transitions := h'.transitions.trans h.transitions
  refetches hRefetches := h'.refetches (h.refetches hRefetches)
  journal := by rw [h'.journal, h.journal, List.append_assoc]

end Passes

section Sending

variable (e : Engine)

theorem passes_send (subject : String) (payload : Payload) :
    e.Passes [⟨subject, payload, !e.bus.closed && Bus.isValidSubject subject⟩]
      (e.send subject payload).2 := by
  refine .of_stock (e.stock_send _ _) (e.core_send _ _) ?_ (e.journal_send _ _)
  unfold send
  split
  · rfl
  · rfl

theorem transitions_publishUpdates (updates : List TripUpdate) :
    (e.publishUpdates updates).2.transitions = e.transitions := by
  induction updates generalizing e with
  | nil => rfl
  | cons u rest ih =>
    have hFirst : (e.publishUpdate u).2.transitions = e.transitions := by
      unfold publishUpdate
      split
      · rfl
      · exact (e.passes_send _ _).transitions
    unfold publishUpdates
    rcases hSent : e.publishUpdate u with ⟨sent, e₁⟩
    rw [hSent] at hFirst
    cases sent with
    | true => exact (ih _).trans hFirst
    | false => exact (ih _).trans hFirst

theorem passes_publishBatch {e : Engine} {ref : BatchRef} {b : Batch}
    (hGet : e.batches.get? ref = some b) :
    e.Passes (e.core.publish (e.updateRules.buildBatch b)) (e.publishBatch ref).2 := by
  refine .of_stock (e.stock_publishBatch ref) (e.core_publishBatch ref) ?_
    (journal_publishBatch hGet)
  unfold publishBatch
  rw [hGet]
  dsimp only
  rw [← e.transitions_publishUpdates (e.updateRules.buildBatch b)]
  unfold reportPublisher
  split
  · rfl
  · split <;> rfl

/-- A request as it is handed to the bus. -/
def Core.requested (c : Core) (r : InferenceRequest) : Sent where
  subject := requestSubject c.settings.subjects.requests r.model c.settings.buckets
  payload := .request r
  delivered := !c.closed && Bus.isValidSubject
    (requestSubject c.settings.subjects.requests r.model c.settings.buckets)

theorem passes_sendRequests (b : Batch) :
    e.Passes (b.requests.map e.core.requested) (e.sendRequests b) := by
  have hAll : ∀ (requests : List InferenceRequest) (e : Engine),
      e.Passes (requests.map e.core.requested) (requests.foldl sendRequest e) := by
    intro requests
    induction requests with
    | nil => exact fun e => .quiet rfl rfl rfl rfl
    | cons r rest ih =>
      intro e
      have hFirst : e.Passes [e.core.requested r] (e.sendRequest r) := e.passes_send _ _
      have hRest := ih (e.sendRequest r)
      rw [hFirst.core] at hRest
      exact hFirst.trans hRest
  have hBoth := (hAll b.requests e).trans
    (.add (b.requests.foldl sendRequest e) .inferenceRequests (by simp) b.requests.length)
  rwa [List.append_nil] at hBoth

end Sending

-- ---------------------------------------------------------------------------
-- Predictors
-- ---------------------------------------------------------------------------

/-- The predictor of a deviation's trip, if the trip has a schedule. -/
def Plan.predictorOf (c : Plan) (d : Deviation) : Except Halt (Option TripPredictor) :=
  match c.timetable.fetch d.tripKey with
  | .error halt => .error halt
  | .ok (.error _) => .ok none
  | .ok (.ok trip) => .ok (some (c.predictor trip))

/-- It makes no difference whether a predictor was kept. -/
theorem passes_predictorOf {e : Engine} (h : e.Refetches) (d : Deviation) :
    (e.predictorOf d).1 = e.plan.predictorOf d ∧ e.Passes [] (e.predictorOf d).2 := by
  have hTimetable : e.plan.timetable = e.timetable := rfl
  unfold predictorOf PredictorCache.getOrBuild Plan.predictorOf
  rw [hTimetable]
  cases hKept : e.predictors.find? d.tripKey with
  | some kept =>
    obtain ⟨trip, hFetch, rfl⟩ := h _ _ hKept
    rw [hFetch]
    exact ⟨rfl, .quiet rfl rfl rfl rfl⟩
  | none =>
    cases hFetch : e.timetable.fetch d.tripKey with
    | error halt => exact ⟨rfl, .quiet rfl rfl rfl rfl⟩
    | ok answer =>
      cases answer with
      | error error => exact ⟨rfl, .quiet rfl (core_drop _ _) rfl rfl⟩
      | ok trip =>
        dsimp only
        rw [PredictorCache.settle_of_missing hKept]
        refine ⟨rfl, rfl, rfl, rfl, fun _ key p hFound => ?_, (List.append_nil _).symm⟩
        dsimp only at hFound
        rw [Table.find?_insert] at hFound
        split at hFound
        · rename_i hKey
          cases hFound
          exact ⟨trip, hKey ▸ hFetch, rfl⟩
        · exact h key p hFound

-- ---------------------------------------------------------------------------
-- Twins
-- ---------------------------------------------------------------------------

namespace Event

/-- The observations that an event stores. -/
def observed : Event → List Transition
  | .observe ts => ts
  | _ => []

/-- The deviations of an event. -/
def deviations : Event → List Deviation
  | .report r _ => r.deviations
  | _ => []

/-- The time at which an event is handled, a sweep apart. -/
def nows : Event → List Instant
  | .report _ now => [now]
  | .response _ now => [now]
  | _ => []

/-- The time of a sweep. -/
def swept? : Event → Option Instant
  | .sweep now => some now
  | _ => none

end Event

/-- Two engines that no event to come can tell apart, after some that are past. -/
structure Twins (past rest : List Event) (a b : Engine) : Prop where
  plan : b.plan = a.plan
  refused : b.refusedTrips = a.refusedTrips
  closed : b.bus.closed = a.bus.closed
  journal : b.journal = a.journal
  batches : a.batches.Alike (rest.flatMap Event.nows) b.batches
  transitions : a.transitions.Alike (past.flatMap Event.observed)
    ((rest.flatMap Event.deviations).map Deviation.observedAt) b.transitions
  left : a.Refetches
  right : b.Refetches

section Twins

variable {past rest : List Event} {a b : Engine}

theorem Twins.symm (h : Twins past rest a b) : Twins past rest b a :=
  ⟨h.plan.symm, h.refused.symm, h.closed.symm, h.journal.symm, h.batches.symm, h.transitions.symm,
    h.right, h.left⟩

/-- Twins stay twins while they do the same that leaves their stores alone. -/
theorem Twins.pass (h : Twins past rest a b) {sent : List Sent} {a' b' : Engine}
    (hLeft : a.Passes sent a') (hRight : b.Passes sent b') : Twins past rest a' b' where
  plan := by rw [hLeft.plan, hRight.plan, h.plan]
  refused := (congrArg Core.refusedTrips hRight.core).trans
    (h.refused.trans (congrArg Core.refusedTrips hLeft.core).symm)
  closed := (congrArg Core.closed hRight.core).trans
    (h.closed.trans (congrArg Core.closed hLeft.core).symm)
  journal := by rw [hLeft.journal, hRight.journal, h.journal]
  batches := by
    rw [show a'.batches = a.batches from congrArg Core.batches hLeft.core,
      show b'.batches = b.batches from congrArg Core.batches hRight.core]
    exact h.batches
  transitions := by
    rw [hLeft.transitions, hRight.transitions]
    exact h.transitions
  left := hLeft.refetches h.left
  right := hRight.refetches h.right

theorem Twins.add (h : Twins past rest a b) (name : Metric) (hName : .batchesExpired ≠ name)
    (n : Nat) :
    Twins past rest (a.measure fun m => m.add name n) (b.measure fun m => m.add name n) :=
  h.pass (.add a name hName n) (.add b name hName n)

theorem Twins.showParked (h : Twins past rest a b) : Twins past rest a.showParked b.showParked :=
  h.pass (.quiet rfl (core_showParked a) rfl rfl) (.quiet rfl (core_showParked b) rfl rfl)

/-- Twins hold stores of their own. -/
theorem Twins.withBatches (h : Twins past rest a b) {s s' : BatchStore}
    (hStores : s.Alike (rest.flatMap Event.nows) s') :
    Twins past rest { a with batches := s } { b with batches := s' } :=
  ⟨h.plan, h.refused, h.closed, h.journal, hStores, h.transitions, h.left, h.right⟩

theorem Twins.withTransitions (h : Twins past rest a b) {s s' : ObservedTransitions}
    (hStores : s.Alike (past.flatMap Event.observed)
      ((rest.flatMap Event.deviations).map Deviation.observedAt) s') :
    Twins past rest { a with transitions := s } { b with transitions := s' } :=
  ⟨h.plan, h.refused, h.closed, h.journal, h.batches, hStores, h.left, h.right⟩

theorem Twins.settings (h : Twins past rest a b) : b.settings = a.settings :=
  congrArg Plan.settings h.plan

theorem Twins.publish (h : Twins past rest a b) : b.core.publish = a.core.publish := by
  funext updates
  unfold Core.publish Core.sent core
  rw [h.settings, h.refused, h.closed]

theorem Twins.requested (h : Twins past rest a b) : b.core.requested = a.core.requested := by
  funext r
  unfold Core.requested core
  rw [h.settings, h.closed]

/-- Twins publish the same of a batch. -/
theorem Twins.publishBatch (h : Twins past rest a b) (ref : BatchRef) :
    Twins past rest (a.publishBatch ref).2 (b.publishBatch ref).2 := by
  have hGet := h.batches.get? ref
  cases hFound : a.batches.get? ref with
  | none =>
    rw [hFound] at hGet
    rw [publishBatch_of_none hFound, publishBatch_of_none hGet]
    exact h
  | some batch =>
    rw [hFound] at hGet
    have hRules : b.updateRules = a.updateRules := congrArg Plan.updateRules h.plan
    have hRight := passes_publishBatch hGet
    rw [h.publish, hRules] at hRight
    exact h.pass (passes_publishBatch hFound) hRight

/-- What two engines have come to: the same result, and twins again. -/
structure Agree (past rest : List Event) {α : Type} (x y : α × Engine) : Prop where
  same : y.1 = x.1
  twins : Twins past rest x.2 y.2

theorem Agree.exists_eq {α : Type} {x y : α × Engine} (h : Agree past rest x y) :
    ∃ result a b, x = (result, a) ∧ y = (result, b) ∧ Twins past rest a b := by
  obtain ⟨result, a⟩ := x
  obtain ⟨result', b⟩ := y
  obtain ⟨hSame, hTwins⟩ := h
  dsimp only at hSame hTwins
  exact ⟨result, a, b, rfl, by rw [hSame], hTwins⟩

-- ---------------------------------------------------------------------------
-- Reports
-- ---------------------------------------------------------------------------

theorem Twins.predictorOf (h : Twins past rest a b) (d : Deviation) :
    Agree past rest (a.predictorOf d) (b.predictorOf d) := by
  obtain ⟨hLeft, hPassesLeft⟩ := passes_predictorOf h.left d
  obtain ⟨hRight, hPassesRight⟩ := passes_predictorOf h.right d
  exact ⟨by rw [hLeft, hRight, h.plan], h.pass hPassesLeft hPassesRight⟩

/-- Twins find the same predictors. -/
theorem Twins.predictorsOf (deviations : List Deviation) :
    ∀ {a b : Engine}, Twins past rest a b →
      Agree past rest (a.predictorsOf deviations) (b.predictorsOf deviations) := by
  induction deviations with
  | nil => exact fun h => ⟨rfl, h⟩
  | cons d more ih =>
    intro a b h
    obtain ⟨found, a₁, b₁, hA, hB, hFirst⟩ := (h.predictorOf d).exists_eq
    unfold Engine.predictorsOf
    rw [hA, hB]
    cases found with
    | error halt => exact ⟨rfl, hFirst⟩
    | ok found =>
      obtain ⟨others, a₂, b₂, hA', hB', hLast⟩ := (ih hFirst).exists_eq
      dsimp only
      rw [hA', hB']
      cases others with
      | error halt => exact ⟨rfl, hLast⟩
      | ok others => exact ⟨rfl, hLast⟩

/-- Twins predict the same trips. -/
theorem Twins.predictTrips (found : List (TripPredictor × Deviation)) :
    ∀ {a b : Engine} (batch : Batch), Twins past rest a b →
      (∀ x ∈ found, x.2 ∈ rest.flatMap Event.deviations) →
      Agree past rest (a.predictTrips batch found) (b.predictTrips batch found) := by
  induction found with
  | nil => exact fun _ h _ => ⟨rfl, h⟩
  | cons x more ih =>
    intro a b batch h hFound
    obtain ⟨predictor, d⟩ := x
    have hMore : ∀ x ∈ more, x.2 ∈ rest.flatMap Event.deviations :=
      fun x hx => hFound x (List.mem_cons_of_mem _ hx)
    rw [Engine.predictTrips, Engine.predictTrips]
    cases predictor.inRange d with
    | error halt => exact ⟨rfl, h⟩
    | ok near =>
      cases near with
      | false => exact ih batch h hMore
      | true =>
        have hCalendar : b.calendar = a.calendar := congrArg Plan.calendar h.plan
        have hNow := List.mem_map_of_mem (f := Deviation.observedAt)
          (hFound (predictor, d) (List.mem_cons_self ..))
        have hPredict : HaltsAlike
            (TripPredictor.Progress.Alike (past.flatMap Event.observed)
              ((rest.flatMap Event.deviations).map Deviation.observedAt))
            (predictor.predict a.calendar a.transitions d)
            (predictor.predict b.calendar b.transitions d) := by
          rw [hCalendar]
          exact TripPredictor.alike_predict h.transitions hNow predictor a.calendar
        generalize predictor.predict a.calendar a.transitions d = made at hPredict ⊢
        generalize predictor.predict b.calendar b.transitions d = made' at hPredict ⊢
        cases hPredict with
        | error halt => exact ⟨rfl, h⟩
        | ok hAlike =>
          dsimp only
          rw [hAlike.prediction, hAlike.inferences]
          exact ih _ (h.withTransitions hAlike.store) hMore

/-- Twins build the same batch. -/
theorem Twins.predictVehicle (h : Twins past rest a b) (vehicle : String)
    {deviations : List Deviation}
    (hDeviations : ∀ d ∈ deviations, d ∈ rest.flatMap Event.deviations) :
    Agree past rest (a.predictVehicle vehicle deviations)
      (b.predictVehicle vehicle deviations) := by
  have hServed := (a.follows_predictorsOf deviations).2 h.left.keeps
  obtain ⟨found, a₁, b₁, hA, hB, hFirst⟩ := (h.predictorsOf deviations).exists_eq
  unfold Engine.predictVehicle
  rw [hA] at hServed
  rw [hA, hB]
  cases found with
  | error halt => exact ⟨rfl, hFirst⟩
  | ok found =>
    dsimp only at hServed ⊢
    cases latest? (inServiceOrder found) with
    | none => exact ⟨rfl, hFirst⟩
    | some createdAt =>
      have hFound : ∀ x ∈ inServiceOrder found, x.2 ∈ rest.flatMap Event.deviations :=
        fun x hx => hDeviations _ (hServed found rfl x (mem_of_mem_inServiceOrder hx)).1
      obtain ⟨batch, a₂, b₂, hA', hB', hTrips⟩ :=
        (Twins.predictTrips _ (.start vehicle createdAt) hFirst hFound).exists_eq
      dsimp only
      rw [hA', hB']
      cases batch with
      | error halt => exact ⟨rfl, hTrips⟩
      | ok batch =>
        dsimp only
        split
        · exact ⟨rfl, hTrips⟩
        · exact ⟨rfl, hTrips.add .tripPredictions (by simp) _⟩

theorem Twins.claim (h : Twins past rest a b) (ref : BatchRef) :
    Agree past rest (a.claim ref) (b.claim ref) := by
  obtain ⟨hWon, hClaimed⟩ := h.batches.claim ref
  exact ⟨hWon, h.withBatches hClaimed⟩

/-- Twins send off the same batch. -/
theorem Twins.dispatch (h : Twins past rest a b) (ref : BatchRef) (now : Instant) :
    Agree past rest (a.dispatch ref now) (b.dispatch ref now) := by
  unfold Engine.dispatch
  rw [h.batches.get? ref]
  cases a.batches.get? ref with
  | none => exact ⟨rfl, h⟩
  | some batch =>
    dsimp only
    split
    · obtain ⟨won, a₁, b₁, hA, hB, hClaimed⟩ := (h.claim ref).exists_eq
      rw [hA, hB]
      cases won with
      | true => exact ⟨rfl, hClaimed.publishBatch ref⟩
      | false => exact ⟨rfl, hClaimed⟩
    · rcases h.batches.park ref batch now with
        ⟨halt, hLeft, hRight⟩ | ⟨expiresAt, s, s', hLeft, hRight, hStores⟩
      · rw [hLeft, hRight]
        exact ⟨rfl, h⟩
      · rw [hLeft, hRight]
        have hShown := (h.withBatches hStores).showParked
        have hRight := { b with batches := s' }.showParked.passes_sendRequests batch
        rw [hShown.requested] at hRight
        exact ⟨rfl, hShown.pass (passes_sendRequests _ batch) hRight⟩

theorem Twins.keep (h : Twins past rest a b) (batch : Batch) :
    Agree past rest (a.keep batch) (b.keep batch) := by
  obtain ⟨hRef, hAdded⟩ := h.batches.add batch
  exact ⟨hRef, h.withBatches hAdded⟩

theorem Twins.handleVehicle (h : Twins past rest a b) (vehicle : String)
    {deviations : List Deviation}
    (hDeviations : ∀ d ∈ deviations, d ∈ rest.flatMap Event.deviations) (now : Instant) :
    Agree past rest (a.handleVehicle vehicle deviations now)
      (b.handleVehicle vehicle deviations now) := by
  obtain ⟨made, a₁, b₁, hA, hB, hFirst⟩ := (h.predictVehicle vehicle hDeviations).exists_eq
  unfold Engine.handleVehicle
  rw [hA, hB]
  rcases made with halt | _ | batch
  · exact ⟨rfl, hFirst⟩
  · exact ⟨rfl, hFirst⟩
  · obtain ⟨ref, a₂, b₂, hA', hB', hKept⟩ := (hFirst.keep batch).exists_eq
    obtain ⟨done, a₃, b₃, hA'', hB'', hLast⟩ := (hKept.dispatch ref now).exists_eq
    dsimp only
    rw [hA', hB']
    dsimp only
    rw [hA'', hB'']
    cases done with
    | error halt => exact ⟨rfl, hLast⟩
    | ok _ => exact ⟨rfl, hLast⟩

theorem Twins.handleVehicles (now : Instant) (vehicles : List (String × List Deviation)) :
    ∀ {a b : Engine}, Twins past rest a b →
      (∀ x ∈ vehicles, ∀ d ∈ x.2, d ∈ rest.flatMap Event.deviations) →
      Agree past rest (a.handleVehicles now vehicles) (b.handleVehicles now vehicles) := by
  induction vehicles with
  | nil => exact fun h _ => ⟨rfl, h⟩
  | cons x more ih =>
    intro a b h hDeviations
    obtain ⟨vehicle, deviations⟩ := x
    have hOwn := hDeviations (vehicle, deviations) (List.mem_cons_self ..)
    obtain ⟨made, a₁, b₁, hA, hB, hFirst⟩ := (h.handleVehicle vehicle hOwn now).exists_eq
    unfold Engine.handleVehicles
    rw [hA, hB]
    cases made with
    | error halt => exact ⟨rfl, hFirst⟩
    | ok made =>
      obtain ⟨others, a₂, b₂, hA', hB', hLast⟩ :=
        (ih hFirst fun x hx => hDeviations x (List.mem_cons_of_mem _ hx)).exists_eq
      dsimp only
      rw [hA', hB']
      cases others with
      | error halt => exact ⟨rfl, hLast⟩
      | ok others => exact ⟨rfl, hLast⟩

/-- Twins handle a report alike. -/
theorem Twins.handleReport (h : Twins past rest a b) {r : VehicleReport}
    (hDeviations : ∀ d ∈ r.deviations, d ∈ rest.flatMap Event.deviations) (now : Instant) :
    Agree past rest (a.handleReport r now) (b.handleReport r now) := by
  have hAllowed : (r.deviations.filter fun d => b.settings.allowsRoute d.route) =
      r.deviations.filter fun d => a.settings.allowsRoute d.route := by
    rw [h.settings]
  have hOwn : ∀ x ∈ byVehicle (r.deviations.filter fun d => a.settings.allowsRoute d.route),
      ∀ d ∈ x.2, d ∈ rest.flatMap Event.deviations := by
    intro x hx d hd
    obtain ⟨vehicle, -, rfl⟩ := List.mem_map.1 hx
    exact hDeviations d (List.mem_filter.1 (List.mem_filter.1 hd).1).1
  have hCounted : Twins past rest (a.measure fun m => m.count .reportsHandled)
      (b.measure fun m => m.count .reportsHandled) :=
    h.add .reportsHandled (by simp) 1
  obtain ⟨made, a₁, b₁, hA, hB, hLast⟩ := (Twins.handleVehicles now _ hCounted hOwn).exists_eq
  unfold Engine.handleReport
  rw [hAllowed]
  dsimp only
  rw [hA, hB]
  cases made with
  | error halt => exact ⟨rfl, hLast⟩
  | ok made => exact ⟨rfl, hLast.add .predictionLatency (by simp) 1⟩

-- ---------------------------------------------------------------------------
-- Answers, observations and sweeps
-- ---------------------------------------------------------------------------

theorem Twins.applyResponse (h : Twins past rest a b) (r : InferenceResponse) {now : Instant}
    (hNow : now ∈ rest.flatMap Event.nows) :
    Agree past rest (a.applyResponse r now) (b.applyResponse r now) := by
  obtain ⟨hSame, hStores⟩ := h.batches.apply r hNow
  exact ⟨hSame, h.withBatches hStores⟩

/-- Twins handle an answer alike. -/
theorem Twins.handleResponse (h : Twins past rest a b) (r : InferenceResponse) {now : Instant}
    (hNow : now ∈ rest.flatMap Event.nows) :
    Agree past rest (a.handleResponse r now) (b.handleResponse r now) := by
  obtain ⟨outcome, a₁, b₁, hA, hB, hApplied⟩ := (h.applyResponse r hNow).exists_eq
  unfold Engine.handleResponse
  rw [hA, hB]
  rcases outcome with error | n | ref
  · exact ⟨rfl, hApplied⟩
  · exact ⟨rfl, hApplied.add .responsesApplied (by simp) 1⟩
  · have hShown := (hApplied.add .responsesApplied (by simp) 1).showParked
    exact ⟨rfl, hShown.publishBatch ref⟩

/-- Twins that store the same observations stay twins. -/
theorem Twins.record (h : Twins past rest a b) {ts : List Transition}
    (hSeen : ts ⊆ past.flatMap Event.observed) : Twins past rest (a.record ts) (b.record ts) :=
  h.withTransitions (h.transitions.recordAll ts hSeen)

/-- A sweep leaves an engine a twin. -/
theorem Twins.sweep (h : Twins past rest a b) {swept : Instant}
    (hNows : ∀ now ∈ rest.flatMap Event.nows, swept ≤ now)
    (hAges : ∀ t ∈ past.flatMap Event.observed, ∀ d ∈ rest.flatMap Event.deviations,
      swept.since t.observedAt ≤ d.observedAt.since t.observedAt) :
    Twins past rest (a.sweep swept).2 b where
  plan := h.plan
  refused := h.refused
  closed := h.closed
  journal := h.journal
  batches := h.batches.sweep hNows
  transitions := by
    refine h.transitions.sweep fun t ht now hNow => ?_
    obtain ⟨d, hd, rfl⟩ := List.mem_map.1 hNow
    exact hAges t ht d hd
  left := by
    intro key p hFound
    have hFilter : (a.predictors.sweep swept a.settings.predictorLifetime).find? key = some p :=
      hFound
    rw [PredictorCache.find?_sweep, Option.filter_eq_some_iff] at hFilter
    exact h.left key p hFilter.1
  right := h.right

/-- Fewer events to come, and more that are past. -/
theorem Twins.next {event : Event} (h : Twins past (event :: rest) a b) :
    Twins (past ++ [event]) rest a b := by
  have hNows : rest.flatMap Event.nows ⊆ (event :: rest).flatMap Event.nows :=
    fun now hNow => List.mem_append_right _ hNow
  have hTimes : (rest.flatMap Event.deviations).map Deviation.observedAt ⊆
      ((event :: rest).flatMap Event.deviations).map Deviation.observedAt :=
    List.map_subset _ fun d hd => List.mem_append_right _ hd
  have hSeen : past.flatMap Event.observed ⊆ (past ++ [event]).flatMap Event.observed := by
    rw [List.flatMap_append]
    exact List.subset_append_left _ _
  exact ⟨h.plan, h.refused, h.closed, h.journal, h.batches.mono hNows,
    h.transitions.mono hSeen hTimes, h.left, h.right⟩

end Twins

-- ---------------------------------------------------------------------------
-- What can be seen of a run
-- ---------------------------------------------------------------------------

/-- What an engine replies to whoever had it handle an event. -/
inductive Reply
  | recorded
  | made (batches : Except Halt (List BatchRef))
  | outcome (outcome : Except PredictionError Outcome)

/-- What can be seen of an engine that has handled an event: its reply, all batches that it has ever
built, as they stand, and all that it has ever handed to the bus. -/
structure Shown where
  reply : Reply
  batches : List Batch
  journal : List Sent

/-- The reply to an event; a sweep has none. -/
def reply? (e : Engine) : Event → Option Reply
  | .observe _ => some .recorded
  | .report r now => some (.made (e.handleReport r now).1)
  | .response r now => some (.outcome (e.handleResponse r now).1)
  | .sweep _ => none

/-- What can be seen of an engine in a run, event by event but for sweeps. -/
def shows (e : Engine) : List Event → List Shown
  | [] => []
  | event :: rest =>
    let after := e.handle event
    ((e.reply? event).map fun reply => ⟨reply, after.batches.batches, after.journal⟩).toList ++
      after.shows rest

/-- A run of which some sweeps are left out. -/
inductive Thinned : List Event → List Event → Prop
  | nil : Thinned [] []
  | keep (event : Event) {events fewer : List Event} : Thinned events fewer →
    Thinned (event :: events) (event :: fewer)
  | drop (now : Instant) {events fewer : List Event} : Thinned events fewer →
    Thinned (.sweep now :: events) fewer

/-- Whether no event is handled before the time of an earlier sweep, or has a deviation from before
it. A sweep itself may be handled at any time. -/
def Forward (events : List Event) : Prop :=
  events.Pairwise fun earlier later => ∀ swept ∈ earlier.swept?,
    ∀ t ∈ later.nows ++ later.deviations.map Deviation.observedAt, swept ≤ t

instance : DecidablePred Forward := fun events => inferInstanceAs (Decidable (events.Pairwise _))

/-- Whether nothing that was observed before a sweep is younger at a deviation after it. This could
only be where one of the three times lies in a leap second. -/
def NoneRejuvenated (events : List Event) : Prop :=
  ∀ before swept after, events = before ++ .sweep swept :: after →
    ∀ t ∈ before.flatMap Event.observed, ∀ d ∈ after.flatMap Event.deviations,
      swept.isLeap = true ∨ t.observedAt.isLeap = true ∨ d.observedAt.isLeap = true →
        swept.since t.observedAt ≤ d.observedAt.since t.observedAt

section Runs

variable {past rest : List Event} {a b : Engine}

/-- Twins reply the same to an event, and stay twins. -/
theorem Twins.handle {event : Event} (h : Twins past (event :: rest) a b)
    (hEvent : ∀ swept, event ≠ .sweep swept) :
    b.reply? event = a.reply? event ∧
      Twins (past ++ [event]) rest (a.handle event) (b.handle event) := by
  cases event with
  | observe ts =>
    refine ⟨rfl, h.next.record fun t ht => ?_⟩
    rw [List.flatMap_append]
    exact List.mem_append_right _ (List.mem_append_left _ ht)
  | report r now =>
    obtain ⟨hSame, hLast⟩ := h.handleReport (fun d hd => List.mem_append_left _ hd) now
    exact ⟨congrArg (fun made => some (Reply.made made)) hSame, hLast.next⟩
  | response r now =>
    obtain ⟨hSame, hLast⟩ :=
      h.handleResponse r (List.mem_append_left _ (List.mem_singleton_self now))
    exact ⟨congrArg (fun outcome => some (Reply.outcome outcome)) hSame, hLast.next⟩
  | sweep now => exact absurd rfl (hEvent now)

/-- Twins stay twins if one or both of them are swept in a run that goes forward. -/
theorem Twins.handle_sweep {swept : Instant} (h : Twins past (.sweep swept :: rest) a b)
    (hForward : Forward (.sweep swept :: rest))
    (hAges : NoneRejuvenated (past ++ .sweep swept :: rest)) :
    Twins (past ++ [.sweep swept]) rest (a.handle (.sweep swept)) b ∧
      Twins (past ++ [.sweep swept]) rest (a.handle (.sweep swept)) (b.handle (.sweep swept)) := by
  have hLater : ∀ event ∈ rest,
      ∀ t ∈ event.nows ++ event.deviations.map Deviation.observedAt, swept ≤ t :=
    fun event hEvent => (List.pairwise_cons.1 hForward).1 event hEvent swept rfl
  have hNows : ∀ now ∈ rest.flatMap Event.nows, swept ≤ now := by
    intro now hNow
    obtain ⟨event, hEvent, hNow⟩ := List.mem_flatMap.1 hNow
    exact hLater event hEvent now (List.mem_append_left _ hNow)
  have hOlder : ∀ t ∈ (past ++ [Event.sweep swept]).flatMap Event.observed,
      ∀ d ∈ rest.flatMap Event.deviations,
        swept.since t.observedAt ≤ d.observedAt.since t.observedAt := by
    intro t ht d hd
    obtain ⟨event, hEvent, hDeviation⟩ := List.mem_flatMap.1 hd
    have hOrder := hLater event hEvent d.observedAt
      (List.mem_append_right _ (List.mem_map_of_mem hDeviation))
    have hSeen : (past ++ [Event.sweep swept]).flatMap Event.observed =
        past.flatMap Event.observed := by
      rw [List.flatMap_append]
      exact List.append_nil _
    rw [hSeen] at ht
    by_cases hLeap : swept.isLeap = true ∨ t.observedAt.isLeap = true ∨ d.observedAt.isLeap = true
    · exact hAges past swept rest rfl t ht d hd hLeap
    · simp only [not_or, Bool.not_eq_true] at hLeap
      exact Instant.since_le_since hLeap.1 hLeap.2.2 hLeap.2.1 hOrder
  have hLeft := h.next.sweep hNows hOlder
  exact ⟨hLeft, (hLeft.symm.sweep hNows hOlder).symm⟩

/-- Twins show the same, though one of them may be swept less. -/
theorem Twins.shows {events fewer : List Event} (hThinned : Thinned events fewer) :
    ∀ {past : List Event} {a b : Engine}, Twins past events a b → Forward events →
      NoneRejuvenated (past ++ events) → a.shows events = b.shows fewer := by
  induction hThinned with
  | nil => exact fun _ _ _ => rfl
  | @drop swept events fewer _ ih =>
    intro past a b h hForward hAges
    have hNext := (h.handle_sweep hForward hAges).1
    rw [List.append_cons] at hAges
    exact ih hNext (List.pairwise_cons.1 hForward).2 hAges
  | @keep event events fewer _ ih =>
    intro past a b h hForward hAges
    have hRest := (List.pairwise_cons.1 hForward).2
    have hSplit := hAges
    rw [List.append_cons] at hSplit
    have hBoth : b.reply? event = a.reply? event ∧
        Twins (past ++ [event]) events (a.handle event) (b.handle event) := by
      by_cases hSweep : ∃ swept, event = .sweep swept
      · -- the sweep does not show in either of them
        obtain ⟨swept, rfl⟩ := hSweep
        exact ⟨rfl, (h.handle_sweep hForward hAges).2⟩
      · exact h.handle fun swept hEvent => hSweep ⟨swept, hEvent⟩
    obtain ⟨hReply, hNext⟩ := hBoth
    rw [Engine.shows, Engine.shows, hReply, ih hNext hRest hSplit, hNext.batches.batches,
      hNext.journal]

/-- Where no time lies in a leap second nothing gets younger. -/
theorem noneRejuvenated_of_ordinary {events : List Event}
    (hSweeps : ∀ swept ∈ events.filterMap Event.swept?, swept.isLeap = false)
    (hSeen : ∀ t ∈ events.flatMap Event.observed, t.observedAt.isLeap = false)
    (hDeviations : ∀ d ∈ events.flatMap Event.deviations, d.observedAt.isLeap = false) :
    NoneRejuvenated events := by
  rintro before swept after rfl t ht d hd hLeap
  exfalso
  have hSwept := hSweeps swept (List.mem_filterMap.2
    ⟨.sweep swept, List.mem_append_right _ (List.mem_cons_self ..), rfl⟩)
  have hObserved := hSeen t (by rw [List.flatMap_append]; exact List.mem_append_left _ ht)
  have hDeviated := hDeviations d (by
    rw [List.flatMap_append, List.flatMap_cons]
    exact List.mem_append_right _ (List.mem_append_right _ hd))
  simp [hSwept, hObserved, hDeviated] at hLeap

/-- Sweeps may be left out of a run that goes forward: the engine replies the same to all other
events, builds the same batches, and sends the same. Only it must not be that something that was
observed gets younger after a sweep, as can happen around leap seconds. -/
theorem sweeps_are_invisible {settings : EngineSettings} {timetable : Timetable}
    {models : ModelRegistry} {holidays : Holidays} {refusedTrips : List String} {wall : Instant}
    {e : Engine} (hStart : start? settings timetable models holidays refusedTrips wall = some e)
    {events fewer : List Event} (hThinned : Thinned events fewer) (hForward : Forward events)
    (hAges : NoneRejuvenated events) : e.shows events = e.shows fewer := by
  have hEmpty : e.Refetches ∧ e.transitions.HoldsOnly [] := by
    unfold start? at hStart
    split at hStart
    · cases hStart
      exact ⟨fun key p hFound => absurd hFound (Option.some_ne_none p).symm,
        fun pair t hFound => absurd hFound (Option.some_ne_none t).symm⟩
    · cases hStart
  have hTwins : Twins [] events e e :=
    ⟨rfl, rfl, rfl, rfl, .refl _ _, .refl hEmpty.2 _, hEmpty.1, hEmpty.1⟩
  exact hTwins.shows hThinned hForward hAges

/-- A report whose batch has expired when it is answered. -/
def answeredLate : List Event :=
  [.report ⟨[], [Sample.deviation]⟩ (Sample.clock 0),
    .response (Sample.answer 7 120) (Sample.clock 31)]

/-- The same, swept in between. -/
def sweptAndAnsweredLate : List Event :=
  [.report ⟨[], [Sample.deviation]⟩ (Sample.clock 0), .sweep (Sample.clock 31),
    .response (Sample.answer 7 120) (Sample.clock 31)]

/-- A batch that has expired counts as unknown, whether it was swept or not. -/
theorem sweeps_are_invisible_late :
    (Sample.engine.run sweptAndAnsweredLate).batches.parkedCount = 0 ∧
    (Sample.engine.run answeredLate).batches.parkedCount = 1 ∧
    Sample.engine.shows sweptAndAnsweredLate = Sample.engine.shows answeredLate := by
  have hStart : Sample.engine? = some Sample.engine := (Option.some_get _).symm
  have hThinned : Thinned sweptAndAnsweredLate answeredLate :=
    .keep _ (.drop _ (.keep _ .nil))
  have hForward : Forward sweptAndAnsweredLate := by decide +kernel
  have hAges : NoneRejuvenated sweptAndAnsweredLate :=
    noneRejuvenated_of_ordinary (by decide +kernel) (by decide +kernel) (by decide +kernel)
  exact ⟨by decide +kernel, by decide +kernel,
    sweeps_are_invisible hStart hThinned hForward hAges⟩

-- ---------------------------------------------------------------------------
-- Leap seconds
-- ---------------------------------------------------------------------------

/-- A time around the end of a day that ends with a leap second. -/
def midnight (second : Fin 3600) (nanos : Fin 2000000000) : Instant :=
  ⟨1709681400 + second, nanos, by omega, nanos.isLt⟩

/-- An observation half an hour before the leap second, and a deviation in it. -/
def unsweptAtMidnight : List Event :=
  [.observe [⟨"A", "B", 250, midnight 59 500000000⟩],
    .report ⟨[], [{ Sample.deviation with observedAt := midnight 1859 1000000000 }]⟩
      (midnight 1859 1000000000)]

/-- The same with a sweep right before the leap second. -/
def sweptAtMidnight : List Event :=
  [.observe [⟨"A", "B", 250, midnight 59 500000000⟩], .sweep (midnight 1859 900000000),
    .report ⟨[], [{ Sample.deviation with observedAt := midnight 1859 1000000000 }]⟩
      (midnight 1859 1000000000)]

/-- In the leap second that ends a day an observation of that day is younger than right before it,
when it was too old already. So a sweep right before it shows in the features that are sent. -/
theorem seen_after_a_leap_second :
    Sample.engine? = some Sample.engine ∧ Forward sweptAtMidnight ∧
      Thinned sweptAtMidnight unsweptAtMidnight ∧
      Sample.engine.shows sweptAtMidnight ≠ Sample.engine.shows unsweptAtMidnight := by
  refine ⟨(Option.some_get _).symm, by decide +kernel, .keep _ (.drop _ (.keep _ .nil)),
    fun hSame => ?_⟩
  have hJournals := congrArg (List.map Shown.journal) hSame
  revert hJournals
  decide +kernel

end Runs

end Engine

end TransitForecast
