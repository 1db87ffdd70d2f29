import TransitForecast.Proofs.Expiry
import TransitForecast.Proofs.Likeness
import TransitForecast.Proofs.Lineup
import TransitForecast.Proofs.Requests

/-!
# TransitForecast — vehicles of one report

The vehicles of a report are handled one after the other, and share the predictors and the observed
transitions. Sharing predictors does not matter, but a look-up is not read-only: it removes what it
finds expired, and what has expired for one vehicle may still count for the next, when that was
observed earlier. So what a report gives for a vehicle depends on the other vehicles in nothing but
features of stop pairs, and not even in those unless a vehicle before it takes away an observation
that it would have found.

## Results

* `find?_after_eq_some_iff` — what is left after look-ups.
* `Formation.like_batches` — batches are formed alike from stores that are alike.
* `formed_eq_append`       — the batches of the vehicles before, of a vehicle, and of those after.
* `vehicles_stay_apart`    — a report as a whole, and one vehicle's part of it alone.
-/

namespace TransitForecast

-- ---------------------------------------------------------------------------
-- Stores after look-ups
-- ---------------------------------------------------------------------------

namespace ObservedTransitions

/-- The store after some look-ups. -/
def after (s : ObservedTransitions) (asked : List Lookup) : ObservedTransitions :=
  asked.foldl (fun s x => (s.lookup x.1 x.2).2) s

theorem isFresh_lookup (s : ObservedTransitions) (pair : StopPair) (now : Instant) :
    (s.lookup pair now).2.isFresh = s.isFresh := by
  unfold isFresh
  rw [maxAge_lookup]

theorem maxAge_after (asked : List Lookup) :
    ∀ s : ObservedTransitions, (s.after asked).maxAge = s.maxAge := by
  induction asked with
  | nil => exact fun _ => rfl
  | cons x rest ih => exact fun s => (ih _).trans (s.maxAge_lookup x.1 x.2)

theorem find?_lookup_eq_some_iff {s : ObservedTransitions} {p pair : StopPair} {now : Instant}
    {t : Transition} : (s.lookup pair now).2.entries.find? p = some t ↔
      s.entries.find? p = some t ∧ (pair = p → s.isFresh now t = true) := by
  rw [find?_lookup, lookup_fst]
  by_cases hPair : pair = p
  · subst hPair
    cases s.entries.find? pair with
    | none => simp
    | some t' =>
      by_cases hSame : t' = t
      · subst hSame
        simp [Option.filter]
      · simp [hSame]
  · simp [hPair, Ne.symm hPair]

/-- What is left after look-ups still counted in each of them that was of its stop pair. -/
theorem find?_after_eq_some_iff {p : StopPair} {t : Transition} (asked : List Lookup) :
    ∀ {s : ObservedTransitions}, (s.after asked).entries.find? p = some t ↔
      s.entries.find? p = some t ∧ ∀ x ∈ asked, x.1 = p → s.isFresh x.2 t = true := by
  induction asked with
  | nil => simp [after]
  | cons x rest ih =>
    intro s
    show ((s.lookup x.1 x.2).2.after rest).entries.find? p = some t ↔ _
    rw [ih, find?_lookup_eq_some_iff, isFresh_lookup, List.forall_mem_cons, and_assoc]

/-- Whether a store is what is left of another when it lacks some observations, each of which has
expired by the first of the look-ups to come of its stop pair. -/
structure Thins (later : List Lookup) (s s' : ObservedTransitions) : Prop where
  maxAge : s'.maxAge = s.maxAge
  entries : ∀ p, s'.entries.find? p = s.entries.find? p ∨
    s'.entries.find? p = none ∧ ∀ t now, s.entries.find? p = some t →
      later.find? (fun x => x.1 = p) = some (p, now) → s.isFresh now t = false

/-- What is missing is not looked for while it would count. -/
theorem Thins.lookup {pair : StopPair} {now : Instant} {later : List Lookup}
    {s s' : ObservedTransitions} (h : Thins ((pair, now) :: later) s s') :
    (s.lookup pair now).1 = (s'.lookup pair now).1 ∧
      Thins later (s.lookup pair now).2 (s'.lookup pair now).2 := by
  have hFresh : s'.isFresh = s.isFresh := by
    unfold isFresh
    rw [h.maxAge]
  have hShown : (s.lookup pair now).1 = (s'.lookup pair now).1 := by
    rw [lookup_fst, lookup_fst, hFresh]
    rcases h.entries pair with hSame | ⟨hGone, hExpired⟩
    · rw [hSame]
    · rw [hGone]
      cases hFound : s.entries.find? pair with
      | none => rfl
      | some t => simp [Option.filter, hExpired t now hFound (by simp)]
  refine ⟨hShown, by rw [maxAge_lookup, maxAge_lookup, h.maxAge], fun p => ?_⟩
  rw [find?_lookup, find?_lookup, isFresh_lookup, hShown]
  by_cases hNothing : p = pair ∧ (s'.lookup pair now).1 = none
  · rw [if_pos hNothing, if_pos hNothing]
    exact .inl rfl
  · rw [if_neg hNothing, if_neg hNothing]
    rcases h.entries p with hSame | ⟨hGone, hExpired⟩
    · exact .inl hSame
    · -- of the pair that was looked up nothing is missing any more
      have hOther : p ≠ pair := by
        rintro rfl
        refine hNothing ⟨rfl, ?_⟩
        rw [lookup_fst, hGone]
        rfl
      refine .inr ⟨hGone, fun t now' hFound hFirst => hExpired t now' hFound ?_⟩
      rw [List.find?_cons_of_neg (by simpa using hOther.symm)]
      exact hFirst

end ObservedTransitions

namespace Likeness

/-- One store twice, on the way to what is left of it. -/
def along (left : ObservedTransitions) : Likeness :=
  ofLookups (fun later s s' => s = s' ∧ s.after later = left) fun h => by
    obtain ⟨rfl, hLeft⟩ := h
    exact ⟨rfl, rfl, hLeft⟩

/-- A store and one that lacks nothing that would be found. -/
def thinned : Likeness := ofLookups ObservedTransitions.Thins ObservedTransitions.Thins.lookup

end Likeness

-- ---------------------------------------------------------------------------
-- Batches
-- ---------------------------------------------------------------------------

section Batches

variable (L : Likeness)

/-- Two requests that differ in features only. -/
structure InferenceRequest.Like (q q' : InferenceRequest) : Prop where
  id : q.id = q'.id
  model : q.model = q'.model
  version : q.version = q'.version
  features : L.features q.features q'.features
  createdAt : q.createdAt = q'.createdAt

/-- Two batches that differ in the features of their requests only. -/
structure Batch.Like (b b' : Batch) : Prop where
  id : b.id = b'.id
  vehicle : b.vehicle = b'.vehicle
  createdAt : b.createdAt = b'.createdAt
  trips : b.trips = b'.trips
  requests : List.Forall₂ (InferenceRequest.Like L) b.requests b'.requests
  published : b.published = b'.published

end Batches

variable {L : Likeness}

namespace Batch.Like

variable {b b' : Batch}

theorem addTrip (h : b.Like L b') (p : TripPrediction) {inferences inferences' : List Inference}
    (hInferences : List.Forall₂ (Inference.Like L) inferences inferences') :
    (b.addTrip p inferences).Like L (b'.addTrip p inferences') where
  id := h.id
  vehicle := h.vehicle
  createdAt := h.createdAt
  trips := by rw [Batch.addTrip, Batch.addTrip, h.trips]
  requests := by
    refine List.rel_append h.requests ?_
    rw [List.forall₂_map_left_iff, List.forall₂_map_right_iff]
    refine hInferences.imp fun i i' hLike => ?_
    unfold Batch.request Batch.requestId
    rw [h.id, hLike.key]
    exact ⟨rfl, rfl, rfl, hLike.features, h.createdAt⟩
  published := h.published

theorem pending (h : b.Like L b') : b.pending = b'.pending := by
  rw [Batch.pending, Batch.pending, h.trips]

/-- Answers are taken the same. -/
theorem answerAll (answers : List (CorrelationId × Float)) : ∀ {b b' : Batch}, b.Like L b' →
    (b.answerAll answers).1 = (b'.answerAll answers).1 ∧
      (b.answerAll answers).2.Like L (b'.answerAll answers).2 := by
  induction answers with
  | nil => exact fun h => ⟨rfl, h⟩
  | cons x rest ih =>
    intro b b' h
    obtain ⟨c, seconds⟩ := x
    rw [Batch.answerAll, Batch.answerAll, Batch.answer, Batch.answer, h.trips]
    cases answerTrips? c.trip ⟨c.model, c.version⟩ seconds b'.trips with
    | none => exact ih h
    | some trips =>
      have hAnswered : Batch.Like L { b with trips := trips } { b' with trips := trips } :=
        ⟨h.id, h.vehicle, h.createdAt, rfl, h.requests, h.published⟩
      obtain ⟨hTaken, hLast⟩ := ih hAnswered
      exact ⟨congrArg (· + 1) hTaken, hLast⟩

/-- Batches are the same when their features are. -/
theorem eq_of_features (h : b.Like L b') (hFeatures : ∀ x y, L.features x y → x = y) : b = b' := by
  have hRequests : b.requests = b'.requests := by
    refine eq_of_forall₂ h.requests ?_
    rintro ⟨_, _, _, x, _⟩ ⟨_, _, _, y, _⟩ ⟨hId, hModel, hVersion, hSame, hCreated⟩
    obtain rfl := hFeatures x y hSame
    dsimp only at hId hModel hVersion hCreated
    rw [hId, hModel, hVersion, hCreated]
  obtain ⟨_, _, _, _, _, _⟩ := b
  obtain ⟨_, _, _, _, _, _⟩ := b'
  obtain ⟨hId, hVehicle, hCreated, hTrips, -, hPublished⟩ := h
  dsimp only at hId hVehicle hCreated hTrips hRequests hPublished
  rw [hId, hVehicle, hCreated, hTrips, hRequests, hPublished]

end Batch.Like

theorem map_eq_of_forall₂ {α β κ : Type} {R : α → β → Prop} {f : α → κ} {g : β → κ} {xs : List α}
    {ys : List β} (h : List.Forall₂ R xs ys) (hSame : ∀ x y, R x y → f x = g y) :
    xs.map f = ys.map g := by
  rw [← List.forall₂_eq_eq_eq, List.forall₂_map_left_iff, List.forall₂_map_right_iff]
  exact h.imp hSame

namespace Formation

variable {f : Formation} {later : List Lookup}

/-- The look-ups for the batch of a vehicle. -/
def lookups (f : Formation) (deviations : List Deviation) : List Lookup :=
  ((f.trips deviations).filter TripPredictor.isNear).flatMap fun x => x.1.lookups x.2

/-- A vehicle's look-ups are for the times of its deviations. -/
theorem time_of_mem_lookups {deviations : List Deviation} {x : Lookup}
    (h : x ∈ f.lookups deviations) : ∃ d ∈ deviations, x.2 = d.observedAt := by
  obtain ⟨⟨p, d⟩, hTrip, hx⟩ := List.mem_flatMap.1 h
  have hFound := (List.mem_filter.1 hTrip).1
  rw [trips, Engine.inServiceOrder, Engine.firstOfEachTrip_eq] at hFound
  have hSorted := List.mem_mergeSort.1 ((firstsBy_sublist _).subset hFound)
  obtain ⟨d', hd, hKnown⟩ := List.mem_filterMap.1 hSorted
  obtain ⟨_, -, hEq⟩ := Option.map_eq_some_iff.1 hKnown
  cases hEq
  exact ⟨d, hd, TripPredictor.time_of_mem_lookups hx⟩

theorem like_foldl_add {found : List (TripPredictor × Deviation)}
    (h : ∀ x ∈ found, TripPredictor.CanPredict f.calendar.zone x) :
    ∀ acc acc' : Batch × ObservedTransitions, acc.1.Like L acc'.1 →
      L.stores ((found.filter TripPredictor.isNear).flatMap (fun x => x.1.lookups x.2) ++ later)
        acc.2 acc'.2 →
      (found.foldl f.add acc).1.Like L (found.foldl f.add acc').1 ∧
        L.stores later (found.foldl f.add acc).2 (found.foldl f.add acc').2 := by
  induction found with
  | nil => exact fun _ _ hBatch hStores => ⟨hBatch, hStores⟩
  | cons x rest ih =>
    intro acc acc' hBatch hStores
    obtain ⟨hHead, hRest⟩ := List.forall_mem_cons.1 h
    rw [List.foldl_cons, List.foldl_cons]
    by_cases hNear : TripPredictor.isNear x = true
    · rw [List.filter_cons_of_pos hNear, List.flatMap_cons, List.append_assoc] at hStores
      obtain ⟨g, hPredict, hAdd⟩ := add_of_near hHead hNear acc
      obtain ⟨g', hPredict', hAdd'⟩ := add_of_near hHead hNear acc'
      have hPredicted := TripPredictor.like_predict f.calendar hStores
      rw [hPredict, hPredict'] at hPredicted
      cases hPredicted with
      | ok hLike =>
        rw [hAdd, hAdd']
        refine ih hRest _ _ ?_ hLike.stores
        rw [hLike.prediction]
        exact hBatch.addTrip _ hLike.inferences
    · rw [List.filter_cons_of_neg hNear] at hStores
      rw [add_of_not_near hNear, add_of_not_near hNear]
      exact ih hRest _ _ hBatch hStores

/-- The batch of a vehicle is formed alike. -/
theorem like_batch (vehicle : String) {deviations : List Deviation}
    (hTime : f.InTime deviations) {s s' : ObservedTransitions}
    (h : L.stores (f.lookups deviations ++ later) s s') :
    List.Forall₂ (Batch.Like L) (f.batch vehicle deviations s).1.toList
        (f.batch vehicle deviations s').1.toList ∧
      L.stores later (f.batch vehicle deviations s).2 (f.batch vehicle deviations s').2 := by
  unfold batch
  cases hLatest : Engine.latest? (f.trips deviations) with
  | none =>
    have hTrips : f.trips deviations = [] := by
      cases hTrips : f.trips deviations with
      | nil => rfl
      | cons x rest =>
        rw [hTrips] at hLatest
        cases hLatest
    rw [lookups, hTrips] at h
    exact ⟨.nil, h⟩
  | some createdAt =>
    have hStart : (Batch.start vehicle createdAt).Like L (.start vehicle createdAt) :=
      ⟨rfl, rfl, rfl, rfl, .nil, rfl⟩
    obtain ⟨hBatch, hStores⟩ := like_foldl_add hTime
      (.start vehicle createdAt, s) (.start vehicle createdAt, s') hStart h
    dsimp only
    rw [hBatch.trips]
    split
    · exact ⟨.nil, hStores⟩
    · exact ⟨.cons hBatch .nil, hStores⟩

/-- Batches are formed alike. -/
theorem like_batches {vehicles : List (String × List Deviation)}
    (hTime : ∀ x ∈ vehicles, f.InTime x.2) : ∀ {s s' : ObservedTransitions},
    L.stores ((vehicles.flatMap fun x => f.lookups x.2) ++ later) s s' →
      List.Forall₂ (Batch.Like L) (f.batches s vehicles).1 (f.batches s' vehicles).1 ∧
        L.stores later (f.batches s vehicles).2 (f.batches s' vehicles).2 := by
  induction vehicles with
  | nil => exact fun h => ⟨.nil, h⟩
  | cons x rest ih =>
    intro s s' h
    rw [List.flatMap_cons, List.append_assoc] at h
    obtain ⟨hTimeHere, hTimeRest⟩ := List.forall_mem_cons.1 hTime
    obtain ⟨hHead, hAfter⟩ := like_batch x.1 hTimeHere h
    obtain ⟨hRest, hLast⟩ := ih hTimeRest hAfter
    exact ⟨List.rel_append hHead hRest, hLast⟩

/-- From any stores batches are formed that are the same up to features of stop pairs. -/
theorem sameBase_batches {vehicles : List (String × List Deviation)}
    (hTime : ∀ x ∈ vehicles, f.InTime x.2) (s s' : ObservedTransitions) :
    List.Forall₂ (Batch.Like .base) (f.batches s vehicles).1 (f.batches s' vehicles).1 := by
  have hAny : Likeness.base.stores ((vehicles.flatMap fun x => f.lookups x.2) ++ []) s s' := trivial
  exact (like_batches hTime hAny).1

/-- Forming batches leaves what their look-ups leave. -/
theorem store_batches {vehicles : List (String × List Deviation)}
    (hTime : ∀ x ∈ vehicles, f.InTime x.2) (s : ObservedTransitions) :
    (f.batches s vehicles).2 = s.after (vehicles.flatMap fun x => f.lookups x.2) := by
  have hStart : (Likeness.along (s.after (vehicles.flatMap fun x => f.lookups x.2))).stores
      ((vehicles.flatMap fun x => f.lookups x.2) ++ []) s s := ⟨rfl, by rw [List.append_nil]⟩
  exact (like_batches hTime hStart).2.2

theorem batches_append (front back : List (String × List Deviation)) :
    ∀ s : ObservedTransitions, (f.batches s (front ++ back)).1 =
      (f.batches s front).1 ++ (f.batches (f.batches s front).2 back).1 := by
  induction front with
  | nil => exact fun _ => rfl
  | cons x rest ih =>
    intro s
    rw [List.cons_append, batches, batches]
    dsimp only
    rw [ih, List.append_assoc]

end Formation

-- ---------------------------------------------------------------------------
-- Messages
-- ---------------------------------------------------------------------------

/-- Two payloads that differ in the features of a request only. -/
def Payload.Like (L : Likeness) : Payload → Payload → Prop
  | .request q, .request q' => q.Like L q'
  | x, y => x = y

/-- Two messages that differ in the features of a request only. -/
structure Sent.Like (L : Likeness) (m m' : Sent) : Prop where
  subject : m.subject = m'.subject
  payload : m.payload.Like L m'.payload
  delivered : m.delivered = m'.delivered

namespace Engine

theorem like_messages (c : Core) {b b' : Batch} (h : b.Like L b') :
    List.Forall₂ (Sent.Like L) (c.messages b) (c.messages b') := by
  unfold Core.messages UpdateRules.buildBatch
  rw [h.pending, h.trips]
  split
  · refine List.forall₂_same.2 fun m hm => ?_
    obtain ⟨u, -, rfl⟩ := List.mem_map.1 hm
    exact ⟨rfl, rfl, rfl⟩
  · rw [List.forall₂_map_left_iff, List.forall₂_map_right_iff]
    refine h.requests.imp fun q q' hLike => ?_
    have hSubject : (c.requested q).subject = (c.requested q').subject := by
      rw [Core.requested, Core.requested, hLike.model]
    exact ⟨hSubject, hLike, by rw [Core.requested, Core.requested, hLike.model]⟩

end Engine

-- ---------------------------------------------------------------------------
-- One vehicle of a report
-- ---------------------------------------------------------------------------

/-- A report without the deviations of other vehicles. -/
def VehicleReport.only (r : VehicleReport) (vehicle : String) : VehicleReport :=
  { r with deviations := r.deviations.filter fun d => d.vehicle = vehicle }

namespace Engine

variable {e : Engine} {r : VehicleReport} {now : Instant}

theorem allowed_only (e : Engine) (r : VehicleReport) (vehicle : String) :
    e.allowed (r.only vehicle) = (e.allowed r).filter fun d => d.vehicle = vehicle :=
  List.filter_comm ..

/-- The look-ups for a vehicle of a report. -/
def lookups (e : Engine) (r : VehicleReport) (vehicle : String) : List Lookup :=
  e.formation.lookups (e.allowed (r.only vehicle))

/-- The look-ups for the vehicles of a report before a vehicle. -/
def lookupsBefore (e : Engine) (r : VehicleReport) (vehicle : String) : List Lookup :=
  ((byVehicle (e.allowed r)).filter fun x => x.1 < vehicle).flatMap fun x =>
    e.formation.lookups x.2

/-- What the vehicles before a vehicle leave of the observed transitions. -/
def leftFor (e : Engine) (r : VehicleReport) (vehicle : String) : ObservedTransitions :=
  e.transitions.after (e.lookupsBefore r vehicle)

/-- Whether the vehicles before a vehicle take nothing away from it: an observation that counts for
the first look-up of its stop pair by the vehicle counts for all their look-ups of the pair. -/
def Intact (e : Engine) (r : VehicleReport) (vehicle : String) : Prop :=
  ∀ pair t now, e.transitions.entries.find? pair = some t →
    (e.lookups r vehicle).find? (fun x => x.1 = pair) = some (pair, now) →
    e.transitions.isFresh now t = true →
    ∀ earlier < vehicle, ∀ x ∈ e.lookups r earlier, x.1 = pair → e.transitions.isFresh x.2 t = true

/-- Deviations of one vehicle are one group. -/
theorem byVehicle_of_one (vehicle : String) {own : List Deviation} (hNonempty : own ≠ [])
    (h : ∀ d ∈ own, d.vehicle = vehicle) : byVehicle own = [(vehicle, own)] := by
  have hOnce : (own.map Deviation.vehicle).eraseDups = [vehicle] := by
    cases own with
    | nil => exact absurd rfl hNonempty
    | cons d rest =>
      obtain ⟨hHead, hRest⟩ := List.forall_mem_cons.1 h
      have hNone : (rest.map Deviation.vehicle).filter (fun v => !v == vehicle) = [] := by
        simpa using hRest
      rw [List.map_cons, List.eraseDups_cons, hHead, hNone, List.eraseDups_nil]
  rw [byVehicle_eq_map hOnce (List.pairwise_singleton _ _), List.map_singleton,
    List.filter_eq_self.2 fun d hd => decide_eq_true (h d hd)]

/-- A vehicle's part of a report is its group, if it has one. -/
theorem byVehicle_only (e : Engine) (r : VehicleReport) (vehicle : String) :
    e.allowed (r.only vehicle) = [] ∧ byVehicle (e.allowed (r.only vehicle)) = [] ∨
      (vehicle, e.allowed (r.only vehicle)) ∈ byVehicle (e.allowed r) ∧
        byVehicle (e.allowed (r.only vehicle)) = [(vehicle, e.allowed (r.only vehicle))] := by
  by_cases hNone : e.allowed (r.only vehicle) = []
  · refine .inl ⟨hNone, ?_⟩
    rw [hNone, byVehicle, List.map_nil, List.eraseDups_nil, List.mergeSort_nil, List.map_nil]
  · refine .inr ⟨mem_byVehicle_iff.2 ⟨e.allowed_only r vehicle, hNone⟩,
      byVehicle_of_one vehicle hNone fun d hd => ?_⟩
    rw [allowed_only] at hd
    exact of_decide_eq_true (List.mem_filter.1 hd).2

theorem mem_byVehicle_only {vehicle : String} {x : String × List Deviation}
    (h : x ∈ byVehicle (e.allowed (r.only vehicle))) :
    x.1 = vehicle ∧ x ∈ byVehicle (e.allowed r) := by
  rcases e.byVehicle_only r vehicle with ⟨-, hNone⟩ | ⟨hMem, hOne⟩
  · rw [hNone] at h
    cases h
  · rw [hOne, List.mem_singleton] at h
    rw [h]
    exact ⟨rfl, hMem⟩

theorem lookups_byVehicle_only (e : Engine) (r : VehicleReport) (vehicle : String) :
    ((byVehicle (e.allowed (r.only vehicle))).flatMap fun x => e.formation.lookups x.2) =
      e.lookups r vehicle := by
  unfold lookups
  rcases e.byVehicle_only r vehicle with ⟨hNothing, hNone⟩ | ⟨-, hOne⟩
  · rw [hNone, hNothing, Formation.lookups, Formation.trips_nil]
    rfl
  · rw [hOne, List.flatMap_singleton]

theorem mem_lookupsBefore_iff {vehicle : String} {x : Lookup} :
    x ∈ e.lookupsBefore r vehicle ↔ ∃ earlier < vehicle, x ∈ e.lookups r earlier := by
  unfold lookupsBefore
  rw [List.mem_flatMap]
  constructor
  · rintro ⟨⟨v, own⟩, hGroup, hx⟩
    rw [List.mem_filter, decide_eq_true_eq] at hGroup
    refine ⟨v, hGroup.2, ?_⟩
    rw [lookups, allowed_only, ← (mem_byVehicle_iff.1 hGroup.1).1]
    exact hx
  · rintro ⟨earlier, hLt, hx⟩
    rw [← lookups_byVehicle_only, List.mem_flatMap] at hx
    obtain ⟨y, hy, hx⟩ := hx
    obtain ⟨rfl, hGroup⟩ := mem_byVehicle_only hy
    exact ⟨y, List.mem_filter.2 ⟨hGroup, decide_eq_true hLt⟩, hx⟩

/-- The vehicles before a vehicle leave what has not expired for any of them. -/
theorem find?_leftFor_eq_some_iff {vehicle : String} {pair : StopPair} {t : Transition} :
    (e.leftFor r vehicle).entries.find? pair = some t ↔
      e.transitions.entries.find? pair = some t ∧ ∀ earlier < vehicle,
        ∀ x ∈ e.lookups r earlier, x.1 = pair → e.transitions.isFresh x.2 t = true := by
  unfold leftFor
  rw [ObservedTransitions.find?_after_eq_some_iff]
  simp only [mem_lookupsBefore_iff]
  constructor
  · rintro ⟨hFound, hFresh⟩
    exact ⟨hFound, fun earlier hLt x hx => hFresh x ⟨earlier, hLt, hx⟩⟩
  · rintro ⟨hFound, hFresh⟩
    refine ⟨hFound, ?_⟩
    rintro x ⟨earlier, hLt, hx⟩
    exact hFresh earlier hLt x hx

/-- The batches of a report: those of the vehicles before a vehicle, its own from what they leave,
and those of the vehicles after it. -/
theorem formed_eq_append (hTime : ∀ x ∈ byVehicle (e.allowed r), e.formation.InTime x.2)
    (vehicle : String) :
    ∃ before after : List Batch, (∀ b ∈ before ++ after, b.vehicle ≠ vehicle) ∧
      (e.formed r).1 = before ++ (e.formation.batches (e.leftFor r vehicle)
        (byVehicle (e.allowed (r.only vehicle)))).1 ++ after := by
  rcases e.byVehicle_only r vehicle with ⟨hNothing, hNone⟩ | ⟨hMem, hOne⟩
  · refine ⟨(e.formed r).1, [], ?_, ?_⟩
    · rw [List.append_nil]
      intro b hb hSame
      obtain ⟨⟨⟨v, own⟩, hx, hVehicle⟩, -⟩ := Formation.vehicle_of_mem_batches hb
      obtain ⟨hOwn, hNonempty⟩ := mem_byVehicle_iff.1 hx
      rw [show v = vehicle from hVehicle.symm.trans hSame, ← allowed_only] at hOwn
      exact hNonempty (hOwn.trans hNothing)
    · rw [hNone, List.append_nil]
      exact (List.append_nil _).symm
  · obtain ⟨front, back, hGroups⟩ := List.append_of_mem hMem
    have hAscending := List.pairwise_map.1 (ascending_byVehicle (e.allowed r)).1
    rw [hGroups] at hAscending
    obtain ⟨-, hBack, hFront⟩ := List.pairwise_append.1 hAscending
    have hBefore : ∀ x ∈ front, x.1 < vehicle := fun x hx => hFront x hx _ (List.mem_cons_self ..)
    have hAfter : ∀ x ∈ back, vehicle < x.1 := (List.pairwise_cons.1 hBack).1
    have hLeft : (e.formation.batches e.transitions front).2 = e.leftFor r vehicle := by
      have hAll : front.filter (fun x => x.1 < vehicle) = front :=
        List.filter_eq_self.2 fun x hx => decide_eq_true (hBefore x hx)
      have hNone : back.filter (fun x => x.1 < vehicle) = [] := by
        refine List.filter_eq_nil_iff.2 fun x hx => ?_
        rw [decide_eq_true_eq]
        exact lt_asymm (hAfter x hx)
      have hTimeFront : ∀ x ∈ front, e.formation.InTime x.2 := by
        rw [hGroups] at hTime
        exact fun x hx => hTime x (List.mem_append_left _ hx)
      rw [Formation.store_batches hTimeFront, leftFor, lookupsBefore, hGroups, List.filter_append,
        List.filter_cons_of_neg (by simp), hAll, hNone, List.append_nil]
    have hMade := Formation.batches_append (f := e.formation)
      (front ++ [(vehicle, e.allowed (r.only vehicle))]) back e.transitions
    rw [Formation.batches_append front [(vehicle, e.allowed (r.only vehicle))], hLeft,
      ← List.append_cons, ← hGroups] at hMade
    rw [hOne]
    refine ⟨_, _, fun b hb => ?_, hMade⟩
    rcases List.mem_append.1 hb with hb | hb
    · obtain ⟨⟨x, hx, hVehicle⟩, -⟩ := Formation.vehicle_of_mem_batches hb
      exact hVehicle ▸ ne_of_lt (hBefore x hx)
    · obtain ⟨⟨x, hx, hVehicle⟩, -⟩ := Formation.vehicle_of_mem_batches hb
      exact hVehicle ▸ ne_of_gt (hAfter x hx)

/-- Nothing that a vehicle would find is missing when nothing was taken away from it. -/
theorem Intact.thins {vehicle : String} (h : e.Intact r vehicle) :
    ObservedTransitions.Thins (e.lookups r vehicle) e.transitions (e.leftFor r vehicle) := by
  refine ⟨ObservedTransitions.maxAge_after .., fun p => ?_⟩
  cases hLeft : (e.leftFor r vehicle).entries.find? p with
  | some t => exact .inl (find?_leftFor_eq_some_iff.1 hLeft).1.symm
  | none =>
    refine .inr ⟨rfl, fun t now hFound hFirst => ?_⟩
    by_contra hStale
    have hFresh : e.transitions.isFresh now t = true := by simpa using hStale
    have hKept := find?_leftFor_eq_some_iff.2 ⟨hFound, h p t now hFound hFirst hFresh⟩
    rw [hLeft] at hKept
    cases hKept

/-- Vehicles whose deviations make no observation older than it is for a vehicle take nothing away
from it. -/
theorem intact_of_ages {vehicle : String}
    (h : ∀ d ∈ e.allowed r, ∀ d' ∈ e.allowed r, d.vehicle < vehicle → d'.vehicle = vehicle →
      ∀ pair t, e.transitions.entries.find? pair = some t →
        d.observedAt.since t.observedAt ≤ d'.observedAt.since t.observedAt) :
    e.Intact r vehicle := by
  intro pair t now hFound hFirst hFresh earlier hLt x hx _
  obtain ⟨d, hd, hTime⟩ := Formation.time_of_mem_lookups hx
  obtain ⟨d', hd', hNow⟩ := Formation.time_of_mem_lookups (List.mem_of_find?_eq_some hFirst)
  rw [allowed_only, List.mem_filter, decide_eq_true_eq] at hd hd'
  have hAge := h d hd.1 d' hd'.1 (hd.2 ▸ hLt) hd'.2 pair t hFound
  rw [← hTime, ← show now = d'.observedAt from hNow] at hAge
  exact decide_eq_true (Int.le_trans hAge (of_decide_eq_true hFresh))

/-- A vehicle's part of a report that can be handled can be handled alone, whatever is left of the
observed transitions. -/
theorem CanHandle.only (h : e.CanHandle r now) (vehicle : String) (left : ObservedTransitions) :
    { e with transitions := left }.CanHandle (r.only vehicle) now := by
  obtain ⟨before, after, -, hFormed⟩ := formed_eq_append h.inTime vehicle
  have hTime : ∀ x ∈ byVehicle (e.allowed (r.only vehicle)), e.formation.InTime x.2 :=
    fun x hx => h.inTime x (mem_byVehicle_only hx).2
  refine ⟨fun d hd => ?_, hTime, fun b hb hPending => ?_⟩
  · change d ∈ e.allowed (r.only vehicle) at hd
    rw [allowed_only] at hd
    exact h.answers d (List.mem_filter.1 hd).1
  · -- the batch awaits as much as that of the whole report
    have hLike := Formation.sameBase_batches hTime left (e.leftFor r vehicle)
    have hCounts := map_eq_of_forall₂ hLike fun _ _ hb => hb.pending
    have hCount : b.pending ∈ (e.formation.batches left
        (byVehicle (e.allowed (r.only vehicle)))).1.map Batch.pending :=
      List.mem_map_of_mem hb
    rw [hCounts] at hCount
    obtain ⟨b', hb', hSame⟩ := List.mem_map.1 hCount
    refine h.expiry b' ?_ (by rw [hSame]; exact hPending)
    rw [hFormed]
    exact List.mem_append_left _ (List.mem_append_right _ hb')

/-- A report gives for a vehicle what the vehicle's part of it gives alone, once forgotten what has
expired for a vehicle before it. Compared to its part alone without anything forgotten, the features
of stop pairs in its requests may differ, but nothing else; and not even they do when the vehicles
before take nothing away from it. -/
theorem vehicles_stay_apart {e : Engine} {r : VehicleReport} {now : Instant}
    (h : e.CanHandle r now) (vehicle : String) :
    ∃ before own after own' : List Batch,
      e.Yields r now (before ++ own ++ after) ∧ e.Yields (r.only vehicle) now own' ∧
      (∀ b ∈ before ++ after, b.vehicle ≠ vehicle) ∧ (∀ b ∈ own ++ own', b.vehicle = vehicle) ∧
      List.Forall₂ (Batch.Like .base) own own' ∧
      List.Forall₂ (Sent.Like .base) (own.flatMap e.core.messages)
        (own'.flatMap e.core.messages) ∧
      (∀ answers, own.map (fun b => e.updateRules.buildBatch (b.answerAll answers).2) =
        own'.map fun b => e.updateRules.buildBatch (b.answerAll answers).2) ∧
      { e with transitions := e.leftFor r vehicle }.Yields (r.only vehicle) now own ∧
      (∀ pair t, (e.leftFor r vehicle).entries.find? pair = some t ↔
        e.transitions.entries.find? pair = some t ∧ ∀ earlier < vehicle,
          ∀ x ∈ e.lookups r earlier, x.1 = pair → e.transitions.isFresh x.2 t = true) ∧
      (e.Intact r vehicle → own = own') := by
  obtain ⟨before, after, hOthers, hFormed⟩ := formed_eq_append h.inTime vehicle
  have hWhole := h.yields
  have hAlone := (h.only vehicle e.transitions).yields
  have hForgotten := (h.only vehicle (e.leftFor r vehicle)).yields
  rw [hFormed] at hWhole
  have hTime : ∀ x ∈ byVehicle (e.allowed (r.only vehicle)), e.formation.InTime x.2 :=
    fun x hx => h.inTime x (mem_byVehicle_only hx).2
  have hLike := Formation.sameBase_batches hTime (e.leftFor r vehicle) e.transitions
  have hOwn : ∀ {s}, ∀ b ∈ (e.formation.batches s (byVehicle (e.allowed (r.only vehicle)))).1,
      b.vehicle = vehicle := by
    intro s b hb
    obtain ⟨⟨x, hx, hVehicle⟩, -⟩ := Formation.vehicle_of_mem_batches hb
    exact hVehicle.trans (mem_byVehicle_only hx).1
  refine ⟨before, _, after, _, hWhole, hAlone, hOthers, fun b hb => ?_, hLike,
    List.rel_flatMap hLike fun _ _ hb => like_messages e.core hb, fun answers => ?_, hForgotten,
    fun _ _ => find?_leftFor_eq_some_iff, fun hIntact => ?_⟩
  · rcases List.mem_append.1 hb with hb | hb
    · exact hOwn b hb
    · exact hOwn b hb
  · refine map_eq_of_forall₂ hLike fun b b' hb => ?_
    unfold UpdateRules.buildBatch
    rw [(hb.answerAll answers).2.trips]
  · have hThins := hIntact.thins
    rw [← lookups_byVehicle_only, ← List.append_nil (List.flatMap _ _)] at hThins
    have hSame := (Formation.like_batches (L := .thinned) hTime hThins).1
    exact (eq_of_forall₂ hSame fun _ _ hb => hb.eq_of_features fun _ _ hFeatures => hFeatures).symm

/-- An engine that has observed a stop pair half an hour before eight. -/
def halfHourLater : Engine :=
  Sample.engine.run [.observe [⟨"A", "B", 250, ⟨1709652600, 0, by decide, Instant.epoch.nanos_lt⟩⟩]]

/-- Two vehicles on one trip, the first of them observed some seconds after the second. -/
def staggered (seconds : Nat) : VehicleReport :=
  ⟨[], [{ Sample.deviation with observedAt := Sample.clock seconds },
    { Sample.deviation with vehicle := "V2" }]⟩

theorem byVehicle_staggered (seconds : Nat) : byVehicle (staggered seconds).deviations =
    [("V1", [{ Sample.deviation with observedAt := Sample.clock seconds }]),
      ("V2", [{ Sample.deviation with vehicle := "V2" }])] := by
  have hOnce : ((staggered seconds).deviations.map Deviation.vehicle).eraseDups =
      ["V1", "V2"] := by
    show ["V1", "V2"].eraseDups = _
    decide
  exact byVehicle_eq_map hOnce (by decide)

theorem allowed_staggered (seconds : Nat) :
    halfHourLater.allowed (staggered seconds) = (staggered seconds).deviations := by
  have hAll : halfHourLater.settings.allowsRoute "R1" = true := by decide +kernel
  refine List.filter_eq_self.2 fun d hd => ?_
  rcases List.mem_pair.1 hd with rfl | rfl
  · exact hAll
  · exact hAll

theorem canHandle_staggered {seconds : Nat} (h : seconds = 0 ∨ seconds = 5) :
    halfHourLater.CanHandle (staggered seconds) (Sample.clock 10) := by
  refine ⟨?_, ?_, ?_⟩
  · rw [allowed_staggered]
    rcases h with rfl | rfl
    · decide +kernel
    · decide +kernel
  · rw [allowed_staggered, byVehicle_staggered]
    rcases h with rfl | rfl
    · decide +kernel
    · decide +kernel
  · rw [formed, allowed_staggered, byVehicle_staggered]
    rcases h with rfl | rfl
    · decide +kernel
    · decide +kernel

/-- Of two vehicles that are observed together neither takes anything away from the other. -/
theorem vehicles_observed_together_stay_apart :
    halfHourLater.CanHandle (staggered 0) (Sample.clock 10) ∧
    ∃ before own after : List Batch, own.map Batch.vehicle = ["V2"] ∧
      halfHourLater.Yields (staggered 0) (Sample.clock 10) (before ++ own ++ after) ∧
      halfHourLater.Yields ((staggered 0).only "V2") (Sample.clock 10) own := by
  have hCan := canHandle_staggered (.inl rfl)
  obtain ⟨before, own, after, own', hWhole, hAlone, -, -, -, -, -, -, -, hSame⟩ :=
    vehicles_stay_apart hCan "V2"
  have hTogether : ∀ d ∈ halfHourLater.allowed (staggered 0), d.observedAt = Sample.clock 0 := by
    decide +kernel
  obtain rfl := hSame <| intact_of_ages fun d hd d' hd' _ _ _ t _ => by
    rw [hTogether d hd, hTogether d' hd']
    exact Int.le_refl _
  have hOne : (halfHourLater.formed ((staggered 0).only "V2")).1.map Batch.vehicle = ["V2"] := by
    rw [formed, byVehicle_of_one "V2" (by decide +kernel) (by decide +kernel)]
    decide +kernel
  have hOnly := (hCan.only "V2" halfHourLater.transitions).yields
  have hBatches := hAlone.batches.symm.trans hOnly.batches
  have hVehicles := congrArg (List.map Batch.vehicle) (List.append_cancel_left hBatches)
  rw [List.map_map, List.map_map] at hVehicles
  exact ⟨hCan, before, own, after, hVehicles.trans hOne, hWhole, hAlone⟩

/-- A vehicle that is observed in time to find an observation does not find it when a vehicle before
it is observed too late and takes it away. -/
theorem expired_for_the_vehicle_before :
    ∃ made alone : List Batch,
      halfHourLater.CanHandle (staggered 5) (Sample.clock 10) ∧
      halfHourLater.Yields (staggered 5) (Sample.clock 10) made ∧
      halfHourLater.Yields ((staggered 5).only "V2") (Sample.clock 10) alone ∧
      (made.filter fun b => b.vehicle = "V2").flatMap Batch.requests ≠
        alone.flatMap Batch.requests := by
  have hCan := canHandle_staggered (.inr rfl)
  refine ⟨_, _, hCan, hCan.yields, (hCan.only "V2" halfHourLater.transitions).yields, ?_⟩
  rw [formed, allowed_staggered, byVehicle_staggered, formed,
    byVehicle_of_one "V2" (by decide +kernel) (by decide +kernel)]
  decide +kernel

end Engine

end TransitForecast
