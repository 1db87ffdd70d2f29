import TransitForecast.Proofs.Coverage
import TransitForecast.Proofs.Sweeping
import TransitForecast.Proofs.Waiting

/-!
# TransitForecast — forming batches

Which batches a report gives depends on little of an engine: on the predictors that it has or can
build, on its calendar, and on what it has observed. Here they are formed from that alone, vehicle
by vehicle, and an engine is shown to do the same whenever the schedule source answers and times
stay in range. What else handling does follows from the batches: the store takes them in, and the
journal gets the messages of each.

## Results

* `TripPredictor.CanPredict.exists_predict` — a trip that is near is predicted if it can be.
* `predictVehicle_eq`  — the batch of a vehicle.
* `handleVehicles_eq`  — the batches of vehicles, one after the other.
* `handleReport_eq`    — a report: its result, and all that it changes.
-/

namespace TransitForecast

-- ---------------------------------------------------------------------------
-- Trips that can be predicted
-- ---------------------------------------------------------------------------

namespace TripPredictor

/-- Whether a trip departs before the horizon of its deviation ends. -/
def isNear (x : TripPredictor × Deviation) : Bool :=
  match x.1.inRange x.2 with
  | .ok near => near
  | .error _ => false

/-- A trip is near when it has a departure and the end of the horizon comes after that. -/
theorem isNear_iff {p : TripPredictor} {d : Deviation} :
    isNear (p, d) = true ↔ ∃ departure cutoff, p.trip.firstDeparture = some departure ∧
      p.cutoff? d = some cutoff ∧ departure < cutoff := by
  unfold isNear inRange
  cases p.trip.firstDeparture with
  | none => simp
  | some departure =>
    cases p.cutoff? d with
    | none => simp
    | some cutoff => simp

theorem inRange_of_isNear {x : TripPredictor × Deviation} (h : isNear x = true) :
    x.1.inRange x.2 = .ok true := by
  unfold isNear at h
  split at h
  · rename_i hRange
    rw [hRange, h]
  · cases h

/-- Whether nothing keeps a trip from being predicted if it is near: its horizon has an end if it
departs at all, and there is a date where one is needed. -/
structure CanPredict (zone : Zone) (x : TripPredictor × Deviation) : Prop where
  cutoff : x.1.trip.firstDeparture.isSome = true → (x.1.cutoff? x.2).isSome = true
  dated : isNear x = true → x.1.Dated zone x.2

instance (zone : Zone) (x : TripPredictor × Deviation) : Decidable (CanPredict zone x) :=
  decidable_of_iff ((x.1.trip.firstDeparture.isSome = true → (x.1.cutoff? x.2).isSome = true) ∧
      (isNear x = true → x.1.Dated zone x.2))
    ⟨fun h => ⟨h.1, h.2⟩, fun h => ⟨h.cutoff, h.dated⟩⟩

namespace CanPredict

variable {x : TripPredictor × Deviation} {calendar : ServiceCalendar}

theorem inRange_eq {zone : Zone} (h : CanPredict zone x) : x.1.inRange x.2 = .ok (isNear x) := by
  have hCutoff := h.cutoff
  unfold isNear inRange
  cases hDeparture : x.1.trip.firstDeparture with
  | none => rfl
  | some departure =>
    rw [hDeparture] at hCutoff
    obtain ⟨cutoff, hSome⟩ := Option.isSome_iff_exists.1 (hCutoff rfl)
    rw [hSome]

theorem exists_predict (h : CanPredict calendar.zone x) (hNear : isNear x = true)
    (store : ObservedTransitions) : ∃ g, x.1.predict calendar store x.2 = .ok g := by
  obtain ⟨departure, cutoff, -, hCutoff, -⟩ := isNear_iff.1 hNear
  exact TripPredictor.exists_predict store hCutoff (h.dated hNear)

end CanPredict

end TripPredictor

-- ---------------------------------------------------------------------------
-- Forming
-- ---------------------------------------------------------------------------

/-- What batches are formed from besides deviations and observed transitions. -/
structure Formation where
  known : TripKey → Option TripPredictor
  calendar : ServiceCalendar

namespace Formation

variable (f : Formation)

/-- The deviations with a schedule, in order. -/
def found (deviations : List Deviation) : List (TripPredictor × Deviation) :=
  deviations.filterMap fun d => (f.known d.tripKey).map fun p => (p, d)

theorem found_cons (d : Deviation) (rest : List Deviation) : f.found (d :: rest) =
    ((f.known d.tripKey).map fun p => (p, d)).toList ++ f.found rest := by
  unfold found
  rw [List.filterMap_cons]
  cases f.known d.tripKey with
  | none => rfl
  | some p => rfl

/-- The trips of a vehicle in the order of service. -/
def trips (deviations : List Deviation) : List (TripPredictor × Deviation) :=
  Engine.inServiceOrder (f.found deviations)

/-- Adds a trip within the horizon to a batch, and leaves a store of observed transitions. -/
def add (acc : Batch × ObservedTransitions) (x : TripPredictor × Deviation) :
    Batch × ObservedTransitions :=
  match x.1.inRange x.2, x.1.predict f.calendar acc.2 x.2 with
  | .ok true, .ok g => (acc.1.addTrip g.prediction g.inferences, g.store)
  | _, _ => acc

/-- The batch of a vehicle, if it has a trip within the horizon, and the store after it. -/
def batch (vehicle : String) (deviations : List Deviation) (store : ObservedTransitions) :
    Option Batch × ObservedTransitions :=
  match Engine.latest? (f.trips deviations) with
  | none => (none, store)
  | some createdAt =>
    let made := (f.trips deviations).foldl f.add (.start vehicle createdAt, store)
    (if made.1.trips.isEmpty then none else some made.1, made.2)

/-- The batches of vehicles in order, and the store after them. -/
def batches : ObservedTransitions → List (String × List Deviation) →
    List Batch × ObservedTransitions
  | store, [] => ([], store)
  | store, (vehicle, deviations) :: rest =>
    let made := f.batch vehicle deviations store
    let more := batches made.2 rest
    (made.1.toList ++ more.1, more.2)

/-- Whether nothing keeps the trips of a vehicle from being predicted if they are near. -/
def InTime (deviations : List Deviation) : Prop :=
  ∀ x ∈ f.trips deviations, TripPredictor.CanPredict f.calendar.zone x

variable {f}

/-- Adding trips leaves the vehicle of a batch as it is, and does not publish anything. -/
theorem foldl_add (found : List (TripPredictor × Deviation)) :
    ∀ acc : Batch × ObservedTransitions, (found.foldl f.add acc).1.vehicle = acc.1.vehicle ∧
      (found.foldl f.add acc).1.published = acc.1.published := by
  induction found with
  | nil => exact fun _ => ⟨rfl, rfl⟩
  | cons x rest ih =>
    intro acc
    have hOne : (f.add acc x).1.vehicle = acc.1.vehicle ∧
        (f.add acc x).1.published = acc.1.published := by
      unfold add
      split
      · exact ⟨rfl, rfl⟩
      · exact ⟨rfl, rfl⟩
    obtain ⟨hVehicle, hPublished⟩ := ih (f.add acc x)
    exact ⟨hVehicle.trans hOne.1, hPublished.trans hOne.2⟩

/-- What is formed for a vehicle is a batch with trips of it. -/
theorem batch_eq_some {vehicle : String} {deviations : List Deviation}
    {store : ObservedTransitions} {b : Batch} (h : (f.batch vehicle deviations store).1 = some b) :
    ∃ createdAt, Engine.latest? (f.trips deviations) = some createdAt ∧ b.trips ≠ [] ∧
      b = ((f.trips deviations).foldl f.add (.start vehicle createdAt, store)).1 := by
  unfold batch at h
  cases hLatest : Engine.latest? (f.trips deviations) with
  | none =>
    rw [hLatest] at h
    cases h
  | some createdAt =>
    rw [hLatest] at h
    dsimp only at h
    split at h
    · cases h
    · rename_i hTrips
      cases h
      exact ⟨createdAt, rfl, fun hNil => hTrips (List.isEmpty_iff.2 hNil), rfl⟩

theorem vehicle_of_batch {vehicle : String} {deviations : List Deviation}
    {store : ObservedTransitions} {b : Batch} (h : (f.batch vehicle deviations store).1 = some b) :
    b.vehicle = vehicle ∧ b.published = false := by
  obtain ⟨createdAt, -, -, rfl⟩ := batch_eq_some h
  exact foldl_add _ _

/-- A batch that is formed is that of one of the vehicles. -/
theorem batch_of_mem_batches {vehicles : List (String × List Deviation)} {b : Batch} :
    ∀ {store}, b ∈ (f.batches store vehicles).1 →
      ∃ x ∈ vehicles, ∃ s, (f.batch x.1 x.2 s).1 = some b := by
  induction vehicles with
  | nil => exact fun h => absurd h List.not_mem_nil
  | cons x rest ih =>
    intro store h
    rcases List.mem_append.1 h with hOwn | hLater
    · exact ⟨x, List.mem_cons_self .., store, Option.mem_toList.1 hOwn⟩
    · obtain ⟨y, hy, hMade⟩ := ih hLater
      exact ⟨y, List.mem_cons_of_mem _ hy, hMade⟩

theorem vehicle_of_mem_batches {vehicles : List (String × List Deviation)}
    {store : ObservedTransitions} {b : Batch} (h : b ∈ (f.batches store vehicles).1) :
    (∃ x ∈ vehicles, b.vehicle = x.1) ∧ b.published = false := by
  obtain ⟨x, hx, s, hMade⟩ := batch_of_mem_batches h
  obtain ⟨hVehicle, hFresh⟩ := vehicle_of_batch hMade
  exact ⟨⟨x, hx, hVehicle⟩, hFresh⟩

end Formation

namespace BatchStore

/-- The store after a batch was built and sent off. -/
def sendOff (now : Instant) (s : BatchStore) (b : Batch) : BatchStore :=
  if b.pending = 0 then ((s.add b).2.claim s.batches.length).2
  else
    match (s.add b).2.park s.batches.length b now with
    | .ok (_, parked) => parked
    | .error _ => (s.add b).2

theorem sendOff_batches (now : Instant) (s : BatchStore) {b : Batch} (h : b.published = false) :
    (s.sendOff now b).batches = s.batches ++ [b.sentOff] ∧
      (s.sendOff now b).lifetime = s.lifetime := by
  unfold sendOff
  by_cases hPending : b.pending = 0
  · rw [if_pos hPending, claim_eq (s.get?_add_self b)]
    refine ⟨?_, rfl⟩
    show (s.batches ++ [b]).set s.batches.length { b with published := true } = _
    rw [List.set_append_right _ _ (Nat.le_refl _), Nat.sub_self, Batch.sentOff,
      decide_eq_true hPending]
    rfl
  · have hSentOff : b.sentOff = b := by
      rw [Batch.sentOff, decide_eq_false hPending, ← h]
    rw [if_neg hPending, hSentOff]
    split
    · rename_i hPark
      obtain ⟨-, rfl⟩ := park_eq_ok_iff.1 hPark
      exact ⟨rfl, rfl⟩
    · exact ⟨rfl, rfl⟩

/-- Sending off batches adds them in order. -/
theorem foldl_sendOff (now : Instant) {made : List Batch} : ∀ (s : BatchStore),
    (∀ b ∈ made, b.published = false) →
      (made.foldl (sendOff now) s).batches = s.batches ++ made.map Batch.sentOff ∧
        (made.foldl (sendOff now) s).lifetime = s.lifetime := by
  induction made with
  | nil => exact fun s _ => ⟨(List.append_nil _).symm, rfl⟩
  | cons b rest ih =>
    intro s h
    obtain ⟨hHead, hRest⟩ := List.forall_mem_cons.1 h
    obtain ⟨hOne, hLifetime⟩ := s.sendOff_batches now hHead
    obtain ⟨hMore, hLast⟩ := ih (s.sendOff now b) hRest
    rw [List.foldl_cons, hMore, hLast, hOne, hLifetime, List.append_assoc]
    exact ⟨rfl, rfl⟩

end BatchStore

namespace Engine

/-- The predictor of the trip of a key, if the trip has a schedule: the one that is kept, or the one
that would be built. -/
def known (e : Engine) (key : TripKey) : Option TripPredictor :=
  (e.predictors.find? key).or ((e.timetable.trip key).toOption.map e.plan.predictor)

def formation (e : Engine) : Formation := ⟨e.known, e.calendar⟩

/-- Whether the predictor of a trip is kept, or the schedule source answers. -/
def Answers (e : Engine) (key : TripKey) : Prop :=
  e.predictors.find? key = none → e.timetable.silent.contains key.2 = false

/-- The messages about a batch when it is sent off. -/
def Core.messages (c : Core) (b : Batch) : List Sent :=
  if b.pending = 0 then c.publish (c.updateRules.buildBatch b) else b.requests.map c.requested

/-- Number of deviations that were dropped for want of a schedule. -/
def drops (e : Engine) : Nat := e.metrics.get (.messagesDropped "schedule")

-- ---------------------------------------------------------------------------
-- What handling changes
-- ---------------------------------------------------------------------------

/-- An engine before and after it has looked up the trips of deviations and sent off batches. -/
structure Handles (now : Instant) (e : Engine) (asked : List Deviation) (made : List Batch)
    (store : ObservedTransitions) (e' : Engine) : Prop where
  plan : e'.plan = e.plan
  predictors : ∀ key, e'.predictors.find? key =
    if key ∈ asked.map Deviation.tripKey then e.known key else e.predictors.find? key
  core : e'.core = { e.core with batches := made.foldl (BatchStore.sendOff now) e.batches }
  transitions : e'.transitions = store
  journal : e'.journal = e.journal ++ made.flatMap e.core.messages
  drops : e'.drops = e.drops + (asked.filter fun d => (e.known d.tripKey).isNone).length

namespace Handles

variable {now : Instant} {e e₁ e₂ : Engine} {asked more : List Deviation}
  {made later : List Batch} {store store' : ObservedTransitions}

/-- Handling does not change which trips have a schedule, and how they are predicted. -/
theorem known (h : e.Handles now asked made store e₁) : e₁.known = e.known := by
  funext key
  have hTrip : e₁.timetable.trip key = e.timetable.trip key :=
    congrArg (fun c => c.timetable.trip key) h.plan
  unfold Engine.known
  rw [h.predictors, hTrip, h.plan]
  split
  · unfold Engine.known
    cases e.predictors.find? key with
    | some kept => rfl
    | none =>
      rw [Option.none_or]
      exact Option.or_self
  · rfl

theorem answers (h : e.Handles now asked made store e₁) {key : TripKey} (hKey : e.Answers key) :
    e₁.Answers key := by
  intro hNone
  have hSilent : e₁.timetable.silent = e.timetable.silent :=
    congrArg (fun c => c.timetable.silent) h.plan
  rw [h.predictors] at hNone
  rw [hSilent]
  apply hKey
  split at hNone
  · exact (Option.or_eq_none_iff.1 hNone).1
  · exact hNone

theorem formation (h : e.Handles now asked made store e₁) : e₁.formation = e.formation := by
  have hCalendar : e₁.calendar = e.calendar := congrArg Plan.calendar h.plan
  rw [Engine.formation, Engine.formation, h.known, hCalendar]

theorem batches (h : e.Handles now asked made store e₁) :
    e₁.batches = made.foldl (BatchStore.sendOff now) e.batches := congrArg Core.batches h.core

theorem refl (now : Instant) (e : Engine) : e.Handles now [] [] e.transitions e :=
  ⟨rfl, fun _ => rfl, rfl, rfl, (List.append_nil _).symm, rfl⟩

theorem trans (h : e.Handles now asked made store e₁) (h' : e₁.Handles now more later store' e₂) :
    e.Handles now (asked ++ more) (made ++ later) store' e₂ where
  plan := h'.plan.trans h.plan
  predictors key := by
    rw [h'.predictors, h.predictors, h.known]
    by_cases hMore : key ∈ more.map Deviation.tripKey
    · simp only [List.map_append, List.mem_append, hMore, or_true, if_true]
    · simp only [List.map_append, List.mem_append, hMore, or_false, if_false]
  core := by
    rw [h'.core, h.core, h.batches, List.foldl_append]
  transitions := h'.transitions
  journal := by
    have hMessages : e₁.core.messages = e.core.messages := by
      rw [h.core]
      rfl
    rw [h'.journal, h.journal, hMessages, List.flatMap_append, List.append_assoc]
  drops := by
    rw [h'.drops, h.drops, h.known, List.filter_append, List.length_append, Nat.add_assoc]

/-- What is only counted. -/
theorem add (now : Instant) (e : Engine) (name : Metric) (hExpired : .batchesExpired ≠ name)
    (hDrops : .messagesDropped "schedule" ≠ name) (n : Nat) :
    e.Handles now [] [] e.transitions (e.measure fun m => m.add name n) :=
  ⟨rfl, fun _ => rfl, core_add e hExpired n, rfl, (List.append_nil _).symm,
    Metrics.get_add_of_ne e.metrics hDrops n⟩

end Handles

-- ---------------------------------------------------------------------------
-- Looking up trips
-- ---------------------------------------------------------------------------

section Trips

variable {now : Instant} {e : Engine}

/-- A trip with a schedule is found, and a deviation from any other is dropped. -/
theorem predictorOf_eq (now : Instant) {d : Deviation} (h : e.Answers d.tripKey) :
    ∃ e', e.predictorOf d = (.ok (e.known d.tripKey), e') ∧
      e.Handles now [d] [] e.transitions e' := by
  have hOnly : ∀ key, key ∈ [d].map Deviation.tripKey ↔ key = d.tripKey := fun _ =>
    List.mem_singleton
  unfold predictorOf PredictorCache.getOrBuild Engine.known
  cases hKept : e.predictors.find? d.tripKey with
  | some kept =>
    refine ⟨e, rfl, rfl, fun key => ?_, rfl, rfl, (List.append_nil _).symm, ?_⟩
    · simp only [hOnly]
      split
      · rename_i hKey
        rw [Engine.known, hKey, hKept]
        rfl
      · rfl
    · simp [Engine.known, hKept]
  | none =>
    have hFetch : e.timetable.fetch d.tripKey = .ok (e.timetable.trip d.tripKey) :=
      if_neg (by rw [h hKept]; simp)
    dsimp only
    rw [hFetch]
    cases hTrip : e.timetable.trip d.tripKey with
    | error error =>
      have hNone : e.known d.tripKey = none := by
        rw [Engine.known, hKept, hTrip]
        rfl
      have hLabel : error.label = "schedule" := by
        unfold Timetable.trip at hTrip
        split at hTrip
        · cases hTrip
        · cases hTrip
          rfl
      refine ⟨_, rfl, rfl, fun key => ?_, core_drop _ _, rfl, (List.append_nil _).symm, ?_⟩
      · simp only [hOnly]
        split
        · rename_i hKey
          rw [hKey, hNone]
          exact hKept
        · rfl
      · rw [List.filter_cons, if_pos (by rw [hNone]; rfl)]
        show (e.metrics.add (.messagesDropped error.label) 1).get _ = _
        rw [Metrics.add, Metrics.get_set, hLabel, if_pos rfl]
        rfl
    | ok trip =>
      dsimp only
      rw [PredictorCache.settle_of_missing hKept]
      have hSome : e.known d.tripKey = some (e.plan.predictor trip) := by
        rw [Engine.known, hKept, hTrip]
        rfl
      refine ⟨_, rfl, rfl, fun key => ?_, rfl, rfl, (List.append_nil _).symm, ?_⟩
      · simp only [hOnly]
        show (e.predictors.insert d.tripKey (e.plan.predictor trip)).find? key = _
        rw [Table.find?_insert]
        split
        · rename_i hKey
          rw [hKey, hSome]
        · rfl
      · rw [List.filter_cons, if_neg (by simp [hSome])]
        rfl

/-- Of deviations those with a schedule are found. -/
theorem predictorsOf_eq (now : Instant) (deviations : List Deviation) : ∀ {e : Engine},
    (∀ d ∈ deviations, e.Answers d.tripKey) →
      ∃ e', e.predictorsOf deviations = (.ok (e.formation.found deviations), e') ∧
        e.Handles now deviations [] e.transitions e' := by
  induction deviations with
  | nil => exact fun {e} _ => ⟨e, rfl, .refl now e⟩
  | cons d rest ih =>
    intro e h
    obtain ⟨hHead, hRest⟩ := List.forall_mem_cons.1 h
    obtain ⟨e₁, hOne, hFirst⟩ := predictorOf_eq now hHead
    obtain ⟨e₂, hMore, hLast⟩ := ih fun d hd => hFirst.answers (hRest d hd)
    rw [hFirst.transitions] at hLast
    rw [hFirst.formation] at hMore
    refine ⟨e₂, ?_, hFirst.trans hLast⟩
    rw [predictorsOf, hOne]
    dsimp only
    rw [hMore, Formation.found_cons]
    rfl

-- ---------------------------------------------------------------------------
-- Predicting
-- ---------------------------------------------------------------------------

theorem predictTrips_eq (found : List (TripPredictor × Deviation)) :
    ∀ {e : Engine} (b : Batch), (∀ x ∈ found, TripPredictor.CanPredict e.calendar.zone x) →
        e.predictTrips b found =
          (.ok (found.foldl e.formation.add (b, e.transitions)).1,
            { e with transitions := (found.foldl e.formation.add (b, e.transitions)).2 }) := by
  induction found with
  | nil => exact fun _ _ => rfl
  | cons x rest ih =>
    intro e b h
    obtain ⟨predictor, d⟩ := x
    obtain ⟨hHead, hRest⟩ := List.forall_mem_cons.1 h
    have hCalendar : e.formation.calendar = e.calendar := rfl
    rw [predictTrips, List.foldl_cons, Formation.add, hHead.inRange_eq, hCalendar]
    cases hNear : TripPredictor.isNear (predictor, d) with
    | false => exact ih b hRest
    | true =>
      obtain ⟨g, hPredict⟩ := hHead.exists_predict hNear e.transitions
      dsimp only at hPredict ⊢
      rw [hPredict]
      exact @ih { e with transitions := g.store } _ hRest

/-- The batch of a vehicle. -/
theorem predictVehicle_eq (now : Instant) (vehicle : String) {deviations : List Deviation}
    (hAnswers : ∀ d ∈ deviations, e.Answers d.tripKey) (hTime : e.formation.InTime deviations) :
    ∃ e', e.predictVehicle vehicle deviations =
        (.ok (e.formation.batch vehicle deviations e.transitions).1, e') ∧
      e.Handles now deviations [] (e.formation.batch vehicle deviations e.transitions).2 e' := by
  obtain ⟨e₁, hFound, hFirst⟩ := predictorsOf_eq now deviations hAnswers
  unfold predictVehicle Formation.batch
  rw [hFound]
  dsimp only
  rw [← Formation.trips]
  cases latest? (e.formation.trips deviations) with
  | none => exact ⟨e₁, rfl, hFirst⟩
  | some createdAt =>
    have hCalendar : e₁.calendar = e.calendar := congrArg Formation.calendar hFirst.formation
    dsimp only
    rw [predictTrips_eq _ _ (by rw [hCalendar]; exact hTime), hFirst.formation, hFirst.transitions]
    generalize (e.formation.trips deviations).foldl e.formation.add
      (.start vehicle createdAt, e.transitions) = made
    have hTrips : e₁.Handles now [] [] made.2 { e₁ with transitions := made.2 } :=
      ⟨rfl, fun _ => rfl, rfl, rfl, (List.append_nil _).symm, rfl⟩
    have hBoth := hFirst.trans hTrips
    rw [List.append_nil] at hBoth
    dsimp only
    split
    · exact ⟨_, rfl, hBoth⟩
    · have hCounted := hBoth.trans (.add now _ .tripPredictions (by simp) (by simp)
        made.1.trips.length)
      rw [List.append_nil] at hCounted
      exact ⟨_, rfl, hCounted⟩

end Trips

-- ---------------------------------------------------------------------------
-- Sending off
-- ---------------------------------------------------------------------------

section Drops

variable (e : Engine)

theorem drops_add {name : Metric} (h : .messagesDropped "schedule" ≠ name) (n : Nat) :
    (e.measure fun m => m.add name n).drops = e.drops :=
  Metrics.get_add_of_ne e.metrics h n

theorem drops_send (subject : String) (payload : Payload) :
    (e.send subject payload).2.drops = e.drops := by
  unfold send
  split
  · rfl
  · rfl

theorem drops_publishUpdates (updates : List TripUpdate) :
    (e.publishUpdates updates).2.drops = e.drops := by
  induction updates generalizing e with
  | nil => rfl
  | cons u rest ih =>
    have hFirst : (e.publishUpdate u).2.drops = e.drops := by
      unfold publishUpdate
      split
      · rfl
      · exact e.drops_send _ _
    unfold publishUpdates
    rcases hSent : e.publishUpdate u with ⟨sent, e₁⟩
    rw [hSent] at hFirst
    cases sent with
    | true => exact (ih _).trans ((e₁.drops_add (by simp) 1).trans hFirst)
    | false => exact (ih _).trans ((e₁.drops_add (by simp) 1).trans hFirst)

theorem drops_publishBatch (ref : BatchRef) : (e.publishBatch ref).2.drops = e.drops := by
  unfold publishBatch
  split
  · rfl
  · rename_i b _
    refine (drops_add _ (by simp) 1).trans ?_
    rw [← e.drops_publishUpdates (e.updateRules.buildBatch b)]
    unfold reportPublisher
    split
    · rfl
    · split <;> rfl

/-- Sending requests touches neither predictors nor the count of drops. -/
theorem stock_drops_sendRequests (b : Batch) :
    (e.sendRequests b).stock = e.stock ∧ (e.sendRequests b).drops = e.drops := by
  have hAll : ∀ (requests : List InferenceRequest) (e : Engine),
      (requests.foldl sendRequest e).stock = e.stock ∧
        (requests.foldl sendRequest e).drops = e.drops := by
    intro requests
    induction requests with
    | nil => exact fun _ => ⟨rfl, rfl⟩
    | cons r rest ih =>
      intro e
      obtain ⟨hStock, hDrops⟩ := ih (e.sendRequest r)
      exact ⟨hStock.trans (e.stock_send _ _), hDrops.trans (e.drops_send _ _)⟩
  obtain ⟨hStock, hDrops⟩ := hAll b.requests e
  exact ⟨hStock, (drops_add _ (by simp) _).trans hDrops⟩

end Drops

section Dispatch

variable {now : Instant} {e e' : Engine} {s : BatchStore} {b : Batch} {sent : List Sent}

theorem Handles.of_passes (hPasses : { e with batches := s }.Passes sent e')
    (hStock : e'.stock = e.stock) (hDrops : e'.drops = e.drops)
    (hStore : e.batches.sendOff now b = s) (hSent : e.core.messages b = sent) :
    e.Handles now [] [b] e.transitions e' where
  plan := hPasses.plan
  predictors key := by
    rw [show e'.predictors = e.predictors from congrArg Prod.snd hStock]
    rfl
  core := by
    rw [hPasses.core, List.foldl_cons, hStore]
    rfl
  transitions := hPasses.transitions
  journal := by
    rw [hPasses.journal, List.flatMap_singleton, hSent]
  drops := hDrops

/-- A new batch is published or parked, and its messages go out. -/
theorem dispatch_eq (now : Instant) (hFresh : b.published = false)
    (hTime : b.pending ≠ 0 → (now.shift? e.batches.lifetime).isSome = true) :
    ∃ e', (e.keep b).2.dispatch e.batches.batches.length now = (.ok (), e') ∧
      e.Handles now [] [b] e.transitions e' := by
  have hGet : (e.keep b).2.batches.get? e.batches.batches.length = some b :=
    e.batches.get?_add_self b
  unfold dispatch
  rw [hGet]
  dsimp only
  by_cases hPending : b.pending = 0
  · -- nobody has claimed it before
    have hClaim : (e.keep b).2.claim e.batches.batches.length =
        (true, { e with batches := e.batches.sendOff now b }) := by
      rw [claim, BatchStore.claim_eq hGet, hFresh, BatchStore.sendOff, if_pos hPending,
        BatchStore.claim_eq (e.batches.get?_add_self b)]
      rfl
    have hPublished : (e.batches.sendOff now b).get? e.batches.batches.length =
        some { b with published := true } := by
      rw [BatchStore.sendOff, if_pos hPending, BatchStore.claim_eq (e.batches.get?_add_self b),
        BatchStore.get?_set (e.batches.get?_add_self b), if_pos rfl]
    rw [if_pos hPending, hClaim]
    refine ⟨_, rfl, .of_passes (passes_publishBatch hPublished) (stock_publishBatch _ _)
      (drops_publishBatch _ _) rfl ?_⟩
    rw [Core.messages, if_pos hPending]
    rfl
  · obtain ⟨expiresAt, hShift⟩ := Option.isSome_iff_exists.1 (hTime hPending)
    have hPark : (e.keep b).2.batches.park e.batches.batches.length b now =
        .ok (expiresAt, e.batches.sendOff now b) := by
      unfold BatchStore.sendOff BatchStore.park
      rw [if_neg hPending, show (e.batches.add b).2.lifetime = e.batches.lifetime from rfl, hShift,
        show (e.keep b).2.batches.lifetime = e.batches.lifetime from rfl, hShift]
      rfl
    rw [if_neg hPending, hPark]
    obtain ⟨hStock, hDrops⟩ :=
      stock_drops_sendRequests { e with batches := e.batches.sendOff now b }.showParked b
    have hShown : { e with batches := e.batches.sendOff now b }.Passes []
        { e with batches := e.batches.sendOff now b }.showParked :=
      .quiet rfl (core_showParked _) rfl rfl
    refine ⟨_, rfl, .of_passes (hShown.trans (passes_sendRequests _ b)) hStock (hDrops.trans ?_)
      rfl ?_⟩
    · exact (Metrics.get_set ..).trans (if_neg (by simp))
    · rw [Core.messages, if_neg hPending, hShown.core]
      rfl

end Dispatch

-- ---------------------------------------------------------------------------
-- Vehicles
-- ---------------------------------------------------------------------------

/-- A vehicle has its batch formed and sent off. -/
theorem handleVehicle_eq {e : Engine} (now : Instant) (vehicle : String)
    {deviations : List Deviation} (hAnswers : ∀ d ∈ deviations, e.Answers d.tripKey)
    (hTime : e.formation.InTime deviations)
    (hExpiry : ∀ b ∈ (e.formation.batch vehicle deviations e.transitions).1, b.pending ≠ 0 →
      (now.shift? e.batches.lifetime).isSome = true) :
    ∃ e', e.handleVehicle vehicle deviations now =
        (.ok ((e.formation.batch vehicle deviations e.transitions).1.map fun _ =>
          e.batches.batches.length), e') ∧
      e.Handles now deviations (e.formation.batch vehicle deviations e.transitions).1.toList
        (e.formation.batch vehicle deviations e.transitions).2 e' := by
  obtain ⟨e₁, hPredicted, hFirst⟩ := predictVehicle_eq now vehicle hAnswers hTime
  have hStore : e₁.batches = e.batches := hFirst.batches
  unfold handleVehicle
  rw [hPredicted]
  cases hMade : (e.formation.batch vehicle deviations e.transitions).1 with
  | none => exact ⟨e₁, rfl, hFirst⟩
  | some b =>
    obtain ⟨-, hFresh⟩ := Formation.vehicle_of_batch hMade
    obtain ⟨e₂, hDispatch, hLast⟩ := dispatch_eq (e := e₁) now hFresh
      (by rw [hStore]; exact hExpiry b hMade)
    have hRef : (e₁.keep b).1 = e₁.batches.batches.length := rfl
    have hBoth := hFirst.trans hLast
    rw [List.append_nil, hFirst.transitions] at hBoth
    refine ⟨e₂, ?_, hBoth⟩
    dsimp only
    rw [hRef, hDispatch, hStore]
    rfl

/-- Vehicles have their batches formed and sent off one after the other. -/
theorem handleVehicles_eq (now : Instant) (vehicles : List (String × List Deviation)) :
    ∀ {e : Engine}, (∀ x ∈ vehicles, ∀ d ∈ x.2, e.Answers d.tripKey) →
      (∀ x ∈ vehicles, e.formation.InTime x.2) →
      (∀ b ∈ (e.formation.batches e.transitions vehicles).1, b.pending ≠ 0 →
        (now.shift? e.batches.lifetime).isSome = true) →
      ∃ e', e.handleVehicles now vehicles =
          (.ok (List.range' e.batches.batches.length
            (e.formation.batches e.transitions vehicles).1.length), e') ∧
        e.Handles now (vehicles.flatMap Prod.snd) (e.formation.batches e.transitions vehicles).1
          (e.formation.batches e.transitions vehicles).2 e' := by
  induction vehicles with
  | nil => exact fun {e} _ _ _ => ⟨e, rfl, .refl now e⟩
  | cons x rest ih =>
    intro e hAnswers hTime hExpiry
    obtain ⟨vehicle, deviations⟩ := x
    obtain ⟨hAnswersHere, hAnswersRest⟩ := List.forall_mem_cons.1 hAnswers
    obtain ⟨hTimeHere, hTimeRest⟩ := List.forall_mem_cons.1 hTime
    obtain ⟨e₁, hOne, hFirst⟩ := handleVehicle_eq now vehicle hAnswersHere hTimeHere
      fun b hb => hExpiry b (List.mem_append_left _ (Option.mem_toList.2 hb))
    have hFresh : ∀ b ∈ (e.formation.batch vehicle deviations e.transitions).1.toList,
        b.published = false :=
      fun b hb => (Formation.vehicle_of_batch (Option.mem_toList.1 hb)).2
    obtain ⟨hAdded, hLifetime⟩ := BatchStore.foldl_sendOff now e.batches hFresh
    rw [← hFirst.batches] at hAdded hLifetime
    have hLength := congrArg List.length hAdded
    rw [List.length_append, List.length_map] at hLength
    obtain ⟨e₂, hMore, hLast⟩ := ih (e := e₁)
      (fun y hy d hd => hFirst.answers (hAnswersRest y hy d hd))
      (fun y hy => by rw [hFirst.formation]; exact hTimeRest y hy)
      (fun b hb => by
        rw [hFirst.formation, hFirst.transitions] at hb
        rw [hLifetime]
        exact hExpiry b (List.mem_append_right _ hb))
    rw [hFirst.formation, hFirst.transitions] at hMore hLast
    refine ⟨e₂, ?_, hFirst.trans hLast⟩
    rw [handleVehicles, hOne]
    dsimp only
    rw [hMore, hLength]
    dsimp only
    rw [Formation.batches]
    dsimp only
    rw [List.length_append, ← List.range'_append_1]
    cases (e.formation.batch vehicle deviations e.transitions).1 with
    | none => rfl
    | some b => rfl

-- ---------------------------------------------------------------------------
-- Reports
-- ---------------------------------------------------------------------------

/-- The deviations of a report on routes that are allowed. -/
def allowed (e : Engine) (r : VehicleReport) : List Deviation :=
  r.deviations.filter fun d => e.settings.allowsRoute d.route

/-- The batches of a report, and the store of observed transitions after it. -/
def formed (e : Engine) (r : VehicleReport) : List Batch × ObservedTransitions :=
  e.formation.batches e.transitions (byVehicle (e.allowed r))

/-- Whether a report can be handled to its end: the schedule source answers, and no time that has to
be computed leaves the range of instants. -/
structure CanHandle (e : Engine) (r : VehicleReport) (now : Instant) : Prop where
  answers : ∀ d ∈ e.allowed r, e.Answers d.tripKey
  inTime : ∀ x ∈ byVehicle (e.allowed r), e.formation.InTime x.2
  expiry : ∀ b ∈ (e.formed r).1, b.pending ≠ 0 → (now.shift? e.batches.lifetime).isSome = true

instance (e : Engine) (key : TripKey) : Decidable (e.Answers key) :=
  inferInstanceAs (Decidable (_ = none → _))

instance (f : Formation) (deviations : List Deviation) : Decidable (f.InTime deviations) :=
  inferInstanceAs (Decidable (∀ x ∈ f.trips deviations, TripPredictor.CanPredict _ x))

instance (e : Engine) (r : VehicleReport) (now : Instant) : Decidable (e.CanHandle r now) :=
  decidable_of_iff ((∀ d ∈ e.allowed r, e.Answers d.tripKey) ∧
      (∀ x ∈ byVehicle (e.allowed r), e.formation.InTime x.2) ∧
      ∀ b ∈ (e.formed r).1, b.pending ≠ 0 → (now.shift? e.batches.lifetime).isSome = true)
    ⟨fun h => ⟨h.1, h.2.1, h.2.2⟩, fun h => ⟨h.answers, h.inTime, h.expiry⟩⟩

theorem byVehicle_eq_map {deviations : List Deviation} {vehicles : List String}
    (hOnce : (deviations.map Deviation.vehicle).eraseDups = vehicles)
    (hAscending : vehicles.Pairwise (· ≤ ·)) : byVehicle deviations =
      vehicles.map fun v => (v, deviations.filter fun d => d.vehicle = v) := by
  rw [byVehicle, hOnce, List.mergeSort_of_pairwise (hAscending.imp decide_eq_true)]

theorem mem_byVehicle {deviations : List Deviation} {x : String × List Deviation}
    (h : x ∈ byVehicle deviations) : x.2 = deviations.filter fun d => d.vehicle = x.1 := by
  obtain ⟨vehicle, -, rfl⟩ := List.mem_map.1 h
  rfl

theorem nodup_eraseDups : ∀ vehicles : List String, vehicles.eraseDups.Nodup
  | [] => List.nodup_nil
  | v :: rest => by
    rw [List.eraseDups_cons, List.nodup_cons, List.mem_eraseDups]
    exact ⟨fun hMem => by simp at hMem, nodup_eraseDups _⟩
termination_by vehicles => vehicles.length
decreasing_by exact Nat.lt_succ_of_le (List.length_filter_le ..)

/-- The vehicles of deviations in the order of their ids, each once. -/
theorem ascending_byVehicle (deviations : List Deviation) :
    ((byVehicle deviations).map Prod.fst).Pairwise (· < ·) ∧
      ∀ vehicle, vehicle ∈ (byVehicle deviations).map Prod.fst ↔
        vehicle ∈ deviations.map Deviation.vehicle := by
  have hVehicles : (byVehicle deviations).map Prod.fst =
      (deviations.map Deviation.vehicle).eraseDups.mergeSort fun a b => a ≤ b := by
    unfold byVehicle
    rw [List.map_map]
    exact List.map_id' _
  rw [hVehicles]
  refine ⟨?_, fun vehicle => ?_⟩
  · have hTrans : ∀ a b c : String, decide (a ≤ b) = true → decide (b ≤ c) = true →
        decide (a ≤ c) = true := by
      intro a b c hab hbc
      exact decide_eq_true (le_trans (of_decide_eq_true hab) (of_decide_eq_true hbc))
    have hTotal : ∀ a b : String, (decide (a ≤ b) || decide (b ≤ a)) = true := by
      intro a b
      rw [Bool.or_eq_true, decide_eq_true_eq, decide_eq_true_eq]
      exact le_total a b
    have hSorted := List.pairwise_mergeSort hTrans hTotal
      (deviations.map Deviation.vehicle).eraseDups
    have hDistinct := (List.mergeSort_perm (deviations.map Deviation.vehicle).eraseDups
      fun a b => decide (a ≤ b)).nodup_iff.2 (nodup_eraseDups _)
    exact (hSorted.and hDistinct).imp fun h => lt_of_le_of_ne (of_decide_eq_true h.1) h.2
  · rw [List.mem_mergeSort, List.mem_eraseDups]

/-- Grouping by vehicle keeps all deviations. -/
theorem perm_byVehicle (deviations : List Deviation) :
    ((byVehicle deviations).flatMap Prod.snd).Perm deviations := by
  have hGroups : ∀ vehicles : List String, vehicles.Nodup →
      (vehicles.flatMap fun v => deviations.filter fun d => d.vehicle = v).Perm
        (deviations.filter fun d => d.vehicle ∈ vehicles) := by
    intro vehicles
    induction vehicles with
    | nil => exact fun _ => by simp
    | cons v rest ih =>
      intro hDistinct
      obtain ⟨hNew, hRest⟩ := List.nodup_cons.1 hDistinct
      have hSplit := List.filter_append_perm (fun d : Deviation => decide (d.vehicle = v))
        (deviations.filter fun d => d.vehicle ∈ v :: rest)
      rw [List.filter_filter, List.filter_filter] at hSplit
      refine ((List.Perm.append_left _ (ih hRest)).trans (.of_eq ?_)).trans hSplit
      congr 1
      · refine List.filter_congr fun d _ => ?_
        by_cases hOwn : d.vehicle = v <;> simp [hOwn]
      · refine List.filter_congr fun d _ => ?_
        by_cases hOwn : d.vehicle = v
        · simp [hOwn, hNew]
        · simp [hOwn]
  obtain ⟨hAscending, hMem⟩ := ascending_byVehicle deviations
  have hFlat : (byVehicle deviations).flatMap Prod.snd =
      ((byVehicle deviations).map Prod.fst).flatMap fun v =>
        deviations.filter fun d => d.vehicle = v := by
    rw [List.flatMap_map]
    exact List.flatMap_congr fun x hx => mem_byVehicle hx
  rw [hFlat]
  refine (hGroups _ (hAscending.imp fun h => ne_of_lt h)).trans (.of_eq ?_)
  refine List.filter_eq_self.2 fun d hd => decide_eq_true ?_
  exact (hMem d.vehicle).2 (List.mem_map_of_mem hd)

theorem Handles.perm {now : Instant} {e e' : Engine} {asked asked' : List Deviation}
    {made : List Batch} {store : ObservedTransitions} (h : e.Handles now asked made store e')
    (hPerm : asked.Perm asked') : e.Handles now asked' made store e' where
  plan := h.plan
  predictors key := by
    rw [h.predictors]
    simp only [(hPerm.map Deviation.tripKey).mem_iff]
  core := h.core
  transitions := h.transitions
  journal := h.journal
  drops := by rw [h.drops, (hPerm.filter _).length_eq]

/-- A report has its batches formed and sent off, in the order of the vehicles. -/
theorem handleReport_eq {e : Engine} {r : VehicleReport} {now : Instant} (h : e.CanHandle r now) :
    (e.handleReport r now).1 =
        .ok (List.range' e.batches.batches.length (e.formed r).1.length) ∧
      e.Handles now (e.allowed r) (e.formed r).1 (e.formed r).2 (e.handleReport r now).2 := by
  have hPerm := perm_byVehicle (e.allowed r)
  obtain ⟨e₁, hVehicles, hAll⟩ := handleVehicles_eq now (byVehicle (e.allowed r))
    (e := e.measure fun m => m.count .reportsHandled)
    (fun x hx d hd => h.answers d (hPerm.mem_iff.1 (List.mem_flatMap.2 ⟨x, hx, hd⟩)))
    h.inTime h.expiry
  have hBoth := ((Handles.add now e .reportsHandled (by simp) (by simp) 1).trans
    hAll).trans (.add now e₁ .predictionLatency (by simp) (by simp) 1)
  rw [List.append_nil, List.append_nil, hAll.transitions] at hBoth
  unfold handleReport
  dsimp only
  rw [← allowed, hVehicles]
  exact ⟨rfl, hBoth.perm hPerm⟩

/-- What comes of a report that is handled to its end. -/
structure Yields (e : Engine) (r : VehicleReport) (now : Instant) (made : List Batch) : Prop where
  result : (e.handleReport r now).1 = .ok (List.range' e.batches.batches.length made.length)
  batches : (e.handleReport r now).2.batches.batches = e.batches.batches ++ made.map Batch.sentOff
  journal : (e.handleReport r now).2.journal = e.journal ++ made.flatMap e.core.messages

theorem CanHandle.yields {e : Engine} {r : VehicleReport} {now : Instant}
    (h : e.CanHandle r now) : e.Yields r now (e.formed r).1 := by
  obtain ⟨hResult, hHandles⟩ := handleReport_eq h
  refine ⟨hResult, ?_, hHandles.journal⟩
  rw [hHandles.batches]
  exact (BatchStore.foldl_sendOff now e.batches
    fun b hb => (Formation.vehicle_of_mem_batches hb).2).1

end Engine

end TransitForecast
