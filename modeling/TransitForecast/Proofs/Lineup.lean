import TransitForecast.Proofs.Forming

/-!
# TransitForecast — the line-up of a batch

Forming a batch groups deviations by vehicle, leaves out those without schedule, sorts the others by
departure, keeps the first of each trip, and then the trips within the horizon. To tell what comes
of a deviation, each is followed by its place in the report: two deviations may be equal, their
places are not. Sorting is stable, so it sorts the places as well.

## Results

* `pairwise_mergeSort_places` — a stable sort, by order and then by place.
* `firstsBy_covers`  — what is left out shares the key of one that comes before it.
* `Formation.trips_foldl_add` — a batch has the trips within the horizon, in order.
* `Formation.batches_filter_isKnown` — deviations without schedule leave no trace in the batches.
* `report_lines_up_each_deviation_once` — all of it, for whole reports.
-/

namespace TransitForecast

-- ---------------------------------------------------------------------------
-- Stable sorting, and the first of each key
-- ---------------------------------------------------------------------------

section Lists

variable {α β κ : Type}

/-- A list in the order of some places is sorted by the order, and by place where that leaves it
open. -/
theorem pairwise_mergeSort_places (le : α → α → Bool)
    (hTrans : ∀ a b c, le a b = true → le b c = true → le a c = true)
    (hTotal : ∀ a b, (le a b || le b a) = true) {place : α → Nat} {l : List α}
    (h : l.Pairwise fun a b => place a < place b) :
    (l.mergeSort le).Pairwise fun a b => le a b = true ∧ (le b a = true → place a < place b) := by
  have hSorted := List.pairwise_mergeSort (List.zipIdxLE_trans hTrans)
    (List.zipIdxLE_total hTotal) l.zipIdx
  have hPerm := List.mergeSort_perm l.zipIdx (List.zipIdxLE le)
  have hDistinct : ((l.zipIdx.mergeSort (List.zipIdxLE le)).map Prod.snd).Nodup := by
    rw [(hPerm.map Prod.snd).nodup_iff, List.zipIdx_map_snd]
    exact List.nodup_range'
  rw [← List.mergeSort_zipIdx, List.pairwise_map]
  refine ((hSorted.and (List.pairwise_map.1 hDistinct)).imp_of_mem ?_)
  rintro ⟨a, i⟩ ⟨b, j⟩ ha hb ⟨hLe, hApart⟩
  have hLeft : l[i]? = some a := List.mem_zipIdx_iff_getElem?.1 (List.mem_mergeSort.1 ha)
  have hRight : l[j]? = some b := List.mem_zipIdx_iff_getElem?.1 (List.mem_mergeSort.1 hb)
  obtain ⟨hi, rfl⟩ := List.getElem?_eq_some_iff.1 hLeft
  obtain ⟨hj, rfl⟩ := List.getElem?_eq_some_iff.1 hRight
  unfold List.zipIdxLE at hLe
  dsimp only at hLe hApart ⊢
  split at hLe
  · rename_i hAb
    refine ⟨hAb, fun hBa => ?_⟩
    rw [if_pos hBa, decide_eq_true_eq] at hLe
    exact List.pairwise_iff_getElem.1 h i j hi hj (by omega)
  · cases hLe

theorem forall₂_of_map_eq {R : α → β → Prop} {f : α → κ} {g : β → κ} {xs : List α} :
    ∀ {ys : List β}, xs.map f = ys.map g → (∀ x ∈ xs, ∀ y, f x = g y → R x y) →
      List.Forall₂ R xs ys := by
  induction xs with
  | nil =>
    intro ys h _
    rw [List.map_eq_nil_iff.1 h.symm]
    exact .nil
  | cons x rest ih =>
    intro ys h hR
    cases ys with
    | nil => cases h
    | cons y more =>
      obtain ⟨hHead, hTail⟩ := List.cons.inj h
      exact .cons (hR x (List.mem_cons_self ..) y hHead)
        (ih hTail fun z hz => hR z (List.mem_cons_of_mem _ hz))

variable [DecidableEq κ] (key : α → κ)

/-- Keeps the first element of each key. -/
def firstsBy : List α → List α
  | [] => []
  | x :: rest => x :: (firstsBy rest).filter fun y => key y ≠ key x

variable {key}

theorem firstsBy_sublist (l : List α) : (firstsBy key l).Sublist l := by
  induction l with
  | nil => exact .slnil
  | cons x rest ih => exact .cons_cons x (List.filter_sublist.trans ih)

/-- What is not kept shares its key with one before it that is. -/
theorem firstsBy_covers (key : α → κ) {l : List α} {x : α} (h : x ∈ l) :
    x ∈ firstsBy key l ∨ ∃ y ∈ firstsBy key l, key y = key x ∧ [y, x].Sublist l := by
  induction l with
  | nil => cases h
  | cons z rest ih =>
    rcases List.mem_cons.1 h with rfl | hRest
    · exact .inl (List.mem_cons_self ..)
    · have hBehind : [z, x].Sublist (z :: rest) :=
        .cons_cons z (List.singleton_sublist.2 hRest)
      by_cases hKey : key x = key z
      · exact .inr ⟨z, List.mem_cons_self .., hKey.symm, hBehind⟩
      · rcases ih hRest with hKept | ⟨y, hy, hSame, hSublist⟩
        · exact .inl (List.mem_cons_of_mem _ (List.mem_filter.2 ⟨hKept, decide_eq_true hKey⟩))
        · have hOther : key y ≠ key z := fun hEq => hKey (hSame.symm.trans hEq)
          exact .inr ⟨y, List.mem_cons_of_mem _ (List.mem_filter.2 ⟨hy, decide_eq_true hOther⟩),
            hSame, .cons z hSublist⟩

theorem map_firstsBy (key : α → κ) (f : β → α) (l : List β) :
    (firstsBy (key ∘ f) l).map f = firstsBy key (l.map f) := by
  induction l with
  | nil => rfl
  | cons x rest ih =>
    rw [firstsBy, List.map_cons, List.map_cons, firstsBy, ← ih, List.filter_map]
    rfl

end Lists

namespace Engine

theorem firstOfEachTrip_eq (found : List (TripPredictor × Deviation)) :
    firstOfEachTrip found = firstsBy (fun x => x.2.trip) found := by
  induction found with
  | nil => rfl
  | cons x rest ih => rw [firstOfEachTrip, firstsBy, ih]

theorem servedBefore_trans {a b c : TripPredictor} (hab : servedBefore a b = true)
    (hbc : servedBefore b c = true) : servedBefore a c = true := by
  unfold servedBefore at *
  cases hA : a.trip.firstDeparture with
  | none => rfl
  | some x =>
    rw [hA] at hab
    cases hB : b.trip.firstDeparture with
    | none =>
      rw [hB] at hab
      cases hab
    | some y =>
      rw [hB] at hab hbc
      cases hC : c.trip.firstDeparture with
      | none =>
        rw [hC] at hbc
        cases hbc
      | some z =>
        rw [hC] at hbc
        exact decide_eq_true
          (Instant.le_of_le_of_le (of_decide_eq_true hab) (of_decide_eq_true hbc))

theorem servedBefore_total (a b : TripPredictor) :
    (servedBefore a b || servedBefore b a) = true := by
  unfold servedBefore
  cases a.trip.firstDeparture with
  | none => rfl
  | some x =>
    cases b.trip.firstDeparture with
    | none => rfl
    | some y =>
      rw [Bool.or_eq_true, decide_eq_true_eq, decide_eq_true_eq]
      by_cases hLe : x ≤ y
      · exact .inl hLe
      · refine .inr fun hLt => hLe fun hGt => ?_
        unfold Instant.precedes at hLt hGt
        omega

end Engine

-- ---------------------------------------------------------------------------
-- Deviations with their places
-- ---------------------------------------------------------------------------

namespace Formation

variable {f : Formation}

/-- The deviations with a schedule, each with its predictor and its place. -/
def foundAt (f : Formation) (placed : List (Deviation × Nat)) :
    List ((TripPredictor × Deviation) × Nat) :=
  placed.filterMap fun x => (f.known x.1.tripKey).map fun p => ((p, x.1), x.2)

/-- The same in the order of service. -/
def sorted (f : Formation) (placed : List (Deviation × Nat)) :
    List ((TripPredictor × Deviation) × Nat) :=
  (f.foundAt placed).mergeSort fun a b => Engine.servedBefore a.1.1 b.1.1

/-- The trips of a vehicle in the order of service, with the places of their deviations. -/
def lineup (f : Formation) (placed : List (Deviation × Nat)) :
    List ((TripPredictor × Deviation) × Nat) :=
  firstsBy (fun y => y.1.2.trip) (f.sorted placed)

/-- Following places does not change the order of service. -/
theorem map_lineup (f : Formation) (placed : List (Deviation × Nat)) :
    (f.lineup placed).map Prod.fst = f.trips (placed.map Prod.fst) := by
  have hFound : (f.foundAt placed).map Prod.fst = f.found (placed.map Prod.fst) := by
    unfold found foundAt
    rw [List.map_filterMap, List.filterMap_map]
    refine List.filterMap_congr fun x _ => ?_
    rw [Option.map_map]
    rfl
  have hSorted : (f.sorted placed).map Prod.fst =
      (f.found (placed.map Prod.fst)).mergeSort fun a b => Engine.servedBefore a.1 b.1 := by
    rw [← hFound]
    exact List.map_mergeSort fun _ _ _ _ => rfl
  have hFirsts := map_firstsBy (fun y : TripPredictor × Deviation => y.2.trip)
    (Prod.fst (β := Nat)) (f.sorted placed)
  rw [trips, Engine.inServiceOrder, Engine.firstOfEachTrip_eq, ← hSorted, ← hFirsts]
  rfl

/-- A trip that is near is predicted and added, if it can be. -/
theorem add_of_near {x : TripPredictor × Deviation}
    (h : TripPredictor.CanPredict f.calendar.zone x) (hNear : TripPredictor.isNear x = true)
    (acc : Batch × ObservedTransitions) : ∃ g, x.1.predict f.calendar acc.2 x.2 = .ok g ∧
      f.add acc x = (acc.1.addTrip g.prediction g.inferences, g.store) := by
  obtain ⟨g, hPredict⟩ := h.exists_predict hNear acc.2
  refine ⟨g, hPredict, ?_⟩
  rw [add, h.inRange_eq, hNear, hPredict]

theorem add_of_not_near {x : TripPredictor × Deviation} (h : ¬ TripPredictor.isNear x = true)
    (acc : Batch × ObservedTransitions) : f.add acc x = acc := by
  unfold add
  split
  · rename_i hRange _
    exact absurd (by rw [TripPredictor.isNear, hRange]) h
  · rfl

/-- A batch gets the trips within the horizon, in order. -/
theorem trips_foldl_add {found : List (TripPredictor × Deviation)}
    (h : ∀ x ∈ found, TripPredictor.CanPredict f.calendar.zone x) :
    ∀ acc : Batch × ObservedTransitions,
      (found.foldl f.add acc).1.trips.map (fun p => (p.trip, p.deviation)) =
        acc.1.trips.map (fun p => (p.trip, p.deviation)) ++
          (found.filter TripPredictor.isNear).map fun x => (x.1.trip, x.2) := by
  induction found with
  | nil => exact fun _ => (List.append_nil _).symm
  | cons x rest ih =>
    intro acc
    obtain ⟨hHead, hRest⟩ := List.forall_mem_cons.1 h
    rw [List.foldl_cons, ih hRest]
    by_cases hNear : TripPredictor.isNear x = true
    · obtain ⟨g, hPredict, hAdd⟩ := add_of_near hHead hNear acc
      rw [List.filter_cons_of_pos hNear, hAdd]
      dsimp only
      rw [Batch.addTrip, List.map_append, List.map_singleton, TripPredictor.predict_trip hPredict,
        TripPredictor.predict_deviation hPredict, List.append_assoc]
      rfl
    · rw [List.filter_cons_of_neg hNear, add_of_not_near hNear]

/-- A deviation with a schedule is sorted in with its predictor. -/
theorem mem_sorted_iff {placed : List (Deviation × Nat)}
    {y : (TripPredictor × Deviation) × Nat} :
    y ∈ f.sorted placed ↔ (y.1.2, y.2) ∈ placed ∧ f.known y.1.2.tripKey = some y.1.1 := by
  rw [sorted, List.mem_mergeSort, foundAt, List.mem_filterMap]
  constructor
  · rintro ⟨x, hx, hKnown⟩
    obtain ⟨p, hp, rfl⟩ := Option.map_eq_some_iff.1 hKnown
    exact ⟨hx, hp⟩
  · rintro ⟨hMem, hKnown⟩
    exact ⟨_, hMem, by rw [hKnown]; rfl⟩

/-- The order of service is that of the report where trips depart together. -/
theorem pairwise_sorted {placed : List (Deviation × Nat)}
    (h : placed.Pairwise fun a b => a.2 < b.2) :
    (f.sorted placed).Pairwise fun a b => Engine.servedBefore a.1.1 b.1.1 = true ∧
      (Engine.servedBefore b.1.1 a.1.1 = true → a.2 < b.2) := by
  have hFound : (f.foundAt placed).Pairwise fun a b => a.2 < b.2 := by
    refine h.filterMap _ fun a b hab x hx y hy => ?_
    obtain ⟨p, -, rfl⟩ := Option.map_eq_some_iff.1 hx
    obtain ⟨q, -, rfl⟩ := Option.map_eq_some_iff.1 hy
    exact hab
  exact pairwise_mergeSort_places
    (fun a b : (TripPredictor × Deviation) × Nat => Engine.servedBefore a.1.1 b.1.1)
    (fun _ _ _ => Engine.servedBefore_trans) (fun _ _ => Engine.servedBefore_total _ _) hFound

end Formation

namespace Engine

-- ---------------------------------------------------------------------------
-- Places in a report
-- ---------------------------------------------------------------------------

/-- The deviations of a vehicle on allowed routes, with their places in a report. -/
def placed (e : Engine) (r : VehicleReport) (vehicle : String) : List (Deviation × Nat) :=
  (r.deviations.zipIdx.filter fun x => e.settings.allowsRoute x.1.route).filter
    fun x => x.1.vehicle = vehicle

/-- The places of the deviations whose trips are in the batch of a vehicle, in order of service. -/
def places (e : Engine) (r : VehicleReport) (vehicle : String) : List Nat :=
  ((e.formation.lineup (e.placed r vehicle)).filter fun y => TripPredictor.isNear y.1).map Prod.snd

/-- Whether the deviation at one place comes before that at another: its trip is served first, or
both trips depart together and it is reported first. -/
def SortsBefore (e : Engine) (r : VehicleReport) (i j : Nat) : Prop :=
  ∃ d d' p p', r.deviations[i]? = some d ∧ r.deviations[j]? = some d' ∧
    e.known d.tripKey = some p ∧ e.known d'.tripKey = some p' ∧
    servedBefore p p' = true ∧ (servedBefore p' p = true → i < j)

/-- Whether a trip prediction is made for the deviation at a place, of a vehicle on an allowed
route, and the trip has a schedule and departs before the horizon ends. -/
structure Stands (e : Engine) (r : VehicleReport) (vehicle : String) (i : Nat)
    (p : TripPrediction) : Prop where
  reported : r.deviations[i]? = some p.deviation
  vehicle : p.deviation.vehicle = vehicle
  allowed : e.settings.allowsRoute p.deviation.route = true
  near : ∃ predictor departure cutoff, e.known p.deviation.tripKey = some predictor ∧
    p.trip = predictor.trip ∧ predictor.trip.firstDeparture = some departure ∧
    p.deviation.observedAt.shift? predictor.horizon = some cutoff ∧ departure < cutoff

variable {e : Engine} {r : VehicleReport}

theorem mem_placed_iff {vehicle : String} {d : Deviation} {i : Nat} :
    (d, i) ∈ e.placed r vehicle ↔ r.deviations[i]? = some d ∧
      e.settings.allowsRoute d.route = true ∧ d.vehicle = vehicle := by
  unfold placed
  rw [List.mem_filter, List.mem_filter, List.mem_zipIdx_iff_getElem?, decide_eq_true_eq, and_assoc]

theorem pairwise_placed (e : Engine) (r : VehicleReport) (vehicle : String) :
    (e.placed r vehicle).Pairwise fun a b => a.2 < b.2 := by
  have hAll : r.deviations.zipIdx.Pairwise fun a b => a.2 < b.2 := by
    rw [← List.pairwise_map, List.zipIdx_map_snd]
    exact List.pairwise_lt_range'
  exact hAll.sublist (List.filter_sublist.trans List.filter_sublist)

/-- Without the places these are the deviations that the batch of the vehicle is formed from. -/
theorem map_placed (e : Engine) (r : VehicleReport) (vehicle : String) :
    (e.placed r vehicle).map Prod.fst = (e.allowed r).filter fun d => d.vehicle = vehicle := by
  have hPlaces := List.zipIdx_map_fst 0 r.deviations
  unfold placed allowed
  conv_rhs => rw [← hPlaces, List.filter_map, List.filter_map]
  rfl

/-- What stands before something in the order of service sorts before it. -/
theorem sortsBefore_of_sublist {vehicle : String} {y z : (TripPredictor × Deviation) × Nat}
    (h : [y, z].Sublist (e.formation.sorted (e.placed r vehicle))) : e.SortsBefore r y.2 z.2 := by
  have hOrder := (Formation.pairwise_sorted (f := e.formation)
    (e.pairwise_placed r vehicle)).sublist h
  obtain ⟨hServed, hTie⟩ := (List.pairwise_cons.1 hOrder).1 z (List.mem_singleton_self z)
  obtain ⟨hY, hKnownY⟩ := Formation.mem_sorted_iff.1 (h.subset (List.mem_cons_self ..))
  obtain ⟨hZ, hKnownZ⟩ := Formation.mem_sorted_iff.1
    (h.subset (List.mem_cons_of_mem _ (List.mem_singleton_self z)))
  exact ⟨_, _, _, _, (mem_placed_iff.1 hY).1, (mem_placed_iff.1 hZ).1, hKnownY, hKnownZ, hServed,
    hTie⟩

/-- The places of a batch are in order. -/
theorem pairwise_places (e : Engine) (r : VehicleReport) (vehicle : String) :
    (e.places r vehicle).Pairwise (e.SortsBefore r) := by
  unfold places
  rw [List.pairwise_map, List.pairwise_iff_forall_sublist]
  intro y z h
  exact sortsBefore_of_sublist ((h.trans List.filter_sublist).trans (firstsBy_sublist _))

end Engine

-- ---------------------------------------------------------------------------
-- The batches of a report
-- ---------------------------------------------------------------------------

namespace Formation

variable {f : Formation} {store : ObservedTransitions}

/-- A vehicle of which a batch can be formed has it formed. -/
theorem mem_batches_of_mem {vehicles : List (String × List Deviation)}
    {x : String × List Deviation} : ∀ store, x ∈ vehicles →
      ∃ s, ∀ b, (f.batch x.1 x.2 s).1 = some b → b ∈ (f.batches store vehicles).1 := by
  induction vehicles with
  | nil => exact fun _ h => absurd h List.not_mem_nil
  | cons y rest ih =>
    intro store h
    rcases List.mem_cons.1 h with rfl | hLater
    · exact ⟨store, fun b hb => List.mem_append_left _ (Option.mem_toList.2 hb)⟩
    · obtain ⟨s, hMade⟩ := ih _ hLater
      exact ⟨s, fun b hb => List.mem_append_right _ (hMade b hb)⟩

/-- Batches come in the order of the vehicles, one of each at most. -/
theorem vehicles_batches_sublist (vehicles : List (String × List Deviation)) :
    ∀ store, ((f.batches store vehicles).1.map Batch.vehicle).Sublist
      (vehicles.map Prod.fst) := by
  induction vehicles with
  | nil => exact fun _ => .slnil
  | cons x rest ih =>
    intro store
    rw [batches, List.map_append, List.map_cons]
    cases hMade : (f.batch x.1 x.2 store).1 with
    | none => exact .cons _ (ih _)
    | some b =>
      rw [Option.toList_some, List.map_singleton, (vehicle_of_batch hMade).1]
      exact .cons_cons _ (ih _)

/-- The trips of a formed batch. -/
theorem trips_of_batch {vehicle : String} {deviations : List Deviation} {b : Batch}
    (hTime : f.InTime deviations) (h : (f.batch vehicle deviations store).1 = some b) :
    b.trips.map (fun p => (p.trip, p.deviation)) =
      ((f.trips deviations).filter TripPredictor.isNear).map fun x => (x.1.trip, x.2) := by
  obtain ⟨createdAt, -, -, rfl⟩ := batch_eq_some h
  exact trips_foldl_add hTime _

/-- With a trip within the horizon there is a batch. -/
theorem exists_batch (vehicle : String) {deviations : List Deviation}
    (hTime : f.InTime deviations) {x : TripPredictor × Deviation} (hx : x ∈ f.trips deviations)
    (hNear : TripPredictor.isNear x = true) (store : ObservedTransitions) :
    ∃ b, (f.batch vehicle deviations store).1 = some b := by
  obtain ⟨createdAt, hLatest⟩ : ∃ t, Engine.latest? (f.trips deviations) = some t := by
    cases hTrips : f.trips deviations with
    | nil =>
      rw [hTrips] at hx
      cases hx
    | cons y rest => exact ⟨_, rfl⟩
  have hMem : (x.1.trip, x.2) ∈ ((f.trips deviations).foldl f.add
      (.start vehicle createdAt, store)).1.trips.map fun p => (p.trip, p.deviation) := by
    rw [trips_foldl_add hTime]
    exact List.mem_append_right _ (List.mem_map.2 ⟨x, List.mem_filter.2 ⟨hx, hNear⟩, rfl⟩)
  unfold batch
  rw [hLatest]
  dsimp only
  split
  · rename_i hEmpty
    rw [List.isEmpty_iff.1 hEmpty] at hMem
    cases hMem
  · exact ⟨_, rfl⟩

-- ---------------------------------------------------------------------------
-- Deviations without schedule
-- ---------------------------------------------------------------------------

/-- Whether a deviation has a schedule. -/
def isKnown (f : Formation) (d : Deviation) : Bool := (f.known d.tripKey).isSome

theorem found_filter_isKnown (deviations : List Deviation) :
    f.found (deviations.filter f.isKnown) = f.found deviations := by
  unfold found
  rw [List.filterMap_filter]
  refine List.filterMap_congr fun d _ => ?_
  unfold isKnown
  cases f.known d.tripKey with
  | none => rfl
  | some p => rfl

theorem trips_filter_isKnown (deviations : List Deviation) :
    f.trips (deviations.filter f.isKnown) = f.trips deviations := by
  rw [trips, trips, found_filter_isKnown]

theorem trips_nil : f.trips [] = [] := by
  unfold trips found Engine.inServiceOrder
  rw [List.filterMap_nil, List.mergeSort_nil]
  rfl

/-- Deviations without schedule do not show in the batches, nor do vehicles that have no others. -/
theorem batches_filter_isKnown (vehicles : List (String × List Deviation)) :
    ∀ store, f.batches store ((vehicles.map fun x => (x.1, x.2.filter f.isKnown)).filter
      fun x => !x.2.isEmpty) = f.batches store vehicles := by
  induction vehicles with
  | nil => exact fun _ => rfl
  | cons x rest ih =>
    intro store
    have hSame : ∀ s, f.batch x.1 (x.2.filter f.isKnown) s = f.batch x.1 x.2 s := by
      intro s
      rw [batch, batch, trips_filter_isKnown]
    rw [List.map_cons, List.filter_cons]
    cases hKnown : x.2.filter f.isKnown with
    | nil =>
      have hNothing : f.batch x.1 x.2 store = (none, store) := by
        rw [← hSame, hKnown, batch, trips_nil]
        rfl
      rw [if_neg (by simp), batches, hNothing, ih]
      rfl
    | cons d more =>
      rw [if_pos (by rw [List.isEmpty_cons]; rfl), batches, batches, ← hKnown, hSame, ih]

end Formation

namespace Engine

theorem mem_byVehicle_iff {deviations own : List Deviation} {vehicle : String} :
    (vehicle, own) ∈ byVehicle deviations ↔
      own = (deviations.filter fun d => d.vehicle = vehicle) ∧ own ≠ [] := by
  have hSome : vehicle ∈ (byVehicle deviations).map Prod.fst ↔
      (deviations.filter fun d => d.vehicle = vehicle) ≠ [] := by
    rw [(ascending_byVehicle deviations).2, List.mem_map, Ne, List.filter_eq_nil_iff]
    simp only [decide_eq_true_eq, not_forall, not_not, exists_prop]
  constructor
  · intro h
    have hOwn : own = _ := mem_byVehicle h
    rw [hOwn]
    exact ⟨rfl, hSome.1 (List.mem_map_of_mem h)⟩
  · rintro ⟨hOwn, hNonempty⟩
    rw [hOwn] at hNonempty
    obtain ⟨y, hy, rfl⟩ := List.mem_map.1 (hSome.2 hNonempty)
    rw [hOwn, ← mem_byVehicle hy]
    exact hy

/-- Grouping some of the deviations gives the same groups without the others, but no empty ones. -/
theorem byVehicle_filter (p : Deviation → Bool) (deviations : List Deviation) :
    byVehicle (deviations.filter p) =
      ((byVehicle deviations).map fun x => (x.1, x.2.filter p)).filter fun x => !x.2.isEmpty := by
  have hLeft := List.pairwise_map.1 (ascending_byVehicle (deviations.filter p)).1
  have hRight : (((byVehicle deviations).map fun x => (x.1, x.2.filter p)).filter
      fun x => !x.2.isEmpty).Pairwise fun a b => a.1 < b.1 := by
    refine List.Pairwise.filter _ (List.pairwise_map.2 ?_)
    exact List.pairwise_map.1 (ascending_byVehicle deviations).1
  have hApart : ∀ {a b : String × List Deviation}, a.1 < b.1 → a ≠ b :=
    fun hLt hEq => absurd (congrArg Prod.fst hEq) (ne_of_lt hLt)
  refine List.Perm.eq_of_pairwise (fun _ _ _ _ hab hba => absurd hba (lt_asymm hab)) hLeft hRight
    ((List.perm_ext_iff_of_nodup (hLeft.imp hApart) (hRight.imp hApart)).2 fun x => ?_)
  obtain ⟨vehicle, own⟩ := x
  rw [mem_byVehicle_iff, List.mem_filter, List.mem_map]
  constructor
  · rintro ⟨hOwn, hNonempty⟩
    have hGroup : own = (deviations.filter fun d => d.vehicle = vehicle).filter p := by
      rw [hOwn, List.filter_comm]
    refine ⟨⟨(vehicle, deviations.filter fun d => d.vehicle = vehicle),
      mem_byVehicle_iff.2 ⟨rfl, fun hNil => ?_⟩, by rw [hGroup]⟩, by simpa using hNonempty⟩
    rw [hNil] at hGroup
    exact hNonempty hGroup
  · rintro ⟨⟨⟨_, group⟩, hGroup, hEq⟩, hNonempty⟩
    cases hEq
    obtain ⟨rfl, -⟩ := mem_byVehicle_iff.1 hGroup
    exact ⟨List.filter_comm .., by simpa using hNonempty⟩

-- ---------------------------------------------------------------------------
-- Whole reports
-- ---------------------------------------------------------------------------

section Reports

variable {e : Engine} {r : VehicleReport} {b : Batch}

/-- A batch of a report has the trips of its places, each once. -/
theorem lines_up_of_mem_formed (hTime : ∀ x ∈ byVehicle (e.allowed r), e.formation.InTime x.2)
    (hb : b ∈ (e.formed r).1) :
    b.trips ≠ [] ∧ (b.trips.map fun p => p.deviation.trip).Nodup ∧
      List.Forall₂ (e.Stands r b.vehicle) (e.places r b.vehicle) b.trips := by
  obtain ⟨⟨vehicle, own⟩, hx, store, hMade⟩ := Formation.batch_of_mem_batches hb
  dsimp only at hMade
  obtain ⟨hOwn, -⟩ := mem_byVehicle_iff.1 hx
  obtain ⟨hVehicle, -⟩ := Formation.vehicle_of_batch hMade
  obtain ⟨-, -, hNonempty, -⟩ := Formation.batch_eq_some hMade
  have hTrips := Formation.trips_of_batch (hTime _ hx) hMade
  refine ⟨hNonempty, ?_, ?_⟩
  · have hIds : (b.trips.map fun p => p.deviation.trip) =
        ((e.formation.trips own).filter TripPredictor.isNear).map fun x => x.2.trip := by
      have hMapped := congrArg (List.map fun x : Trip × Deviation => x.2.trip) hTrips
      rw [List.map_map, List.map_map] at hMapped
      exact hMapped
    rw [hIds]
    exact (nodup_firstOfEachTrip _).sublist (List.filter_sublist.map _)
  · rw [hVehicle]
    rw [hOwn, ← map_placed, ← Formation.map_lineup, List.filter_map, List.map_map] at hTrips
    refine List.forall₂_map_left_iff.2 (forall₂_of_map_eq hTrips.symm fun y hy p hEq => ?_)
    obtain ⟨hMem, hNear⟩ := List.mem_filter.1 hy
    obtain ⟨hPlaced, hKnown⟩ := Formation.mem_sorted_iff.1 ((firstsBy_sublist _).subset hMem)
    obtain ⟨hAt, hAllowed, hOwn⟩ := mem_placed_iff.1 hPlaced
    obtain ⟨departure, cutoff, hDeparture, hCutoff, hLt⟩ := TripPredictor.isNear_iff.1 hNear
    obtain ⟨hTrip, hDeviation⟩ := Prod.mk.inj hEq
    rw [hDeviation] at hAt hAllowed hOwn hKnown hCutoff
    exact ⟨hAt, hOwn, hAllowed, _, departure, cutoff, hKnown, hTrip.symm, hDeparture, hCutoff, hLt⟩

/-- Of a deviation with a schedule on an allowed route the trip is in the batch of its vehicle, or
has no stops, or departs too late, or another deviation from it sorts before. -/
theorem lined_up_or_left_out (hTime : ∀ x ∈ byVehicle (e.allowed r), e.formation.InTime x.2)
    {i : Nat} {d : Deviation} {p : TripPredictor} (hAt : r.deviations[i]? = some d)
    (hAllowed : e.settings.allowsRoute d.route = true) (hKnown : e.known d.tripKey = some p) :
    (∃ b ∈ (e.formed r).1, b.vehicle = d.vehicle ∧ i ∈ e.places r b.vehicle) ∨
      p.trip.stops = [] ∨
      (∃ departure cutoff, p.trip.firstDeparture = some departure ∧
        d.observedAt.shift? p.horizon = some cutoff ∧ cutoff ≤ departure) ∨
      ∃ j d', r.deviations[j]? = some d' ∧ d'.vehicle = d.vehicle ∧ d'.trip = d.trip ∧
        e.settings.allowsRoute d'.route = true ∧ e.SortsBefore r j i := by
  have hPlaced : (d, i) ∈ e.placed r d.vehicle := mem_placed_iff.2 ⟨hAt, hAllowed, rfl⟩
  have hSorted : ((p, d), i) ∈ e.formation.sorted (e.placed r d.vehicle) :=
    Formation.mem_sorted_iff.2 ⟨hPlaced, hKnown⟩
  rcases firstsBy_covers (fun y : (TripPredictor × Deviation) × Nat => y.1.2.trip) hSorted
    with hLined | ⟨y, -, hTrip, hBefore⟩
  · have hTrips : (p, d) ∈ e.formation.trips
        ((e.allowed r).filter fun x => x.vehicle = d.vehicle) := by
      rw [← map_placed, ← Formation.map_lineup]
      exact List.mem_map_of_mem (f := Prod.fst) hLined
    have hGroup : (d.vehicle, (e.allowed r).filter fun x => x.vehicle = d.vehicle) ∈
        byVehicle (e.allowed r) := by
      refine mem_byVehicle_iff.2 ⟨rfl, List.ne_nil_of_mem (a := d) ?_⟩
      exact List.mem_filter.2 ⟨List.mem_filter.2 ⟨List.mem_of_getElem? hAt, hAllowed⟩, by simp⟩
    by_cases hNear : TripPredictor.isNear (p, d) = true
    · obtain ⟨s, hMade⟩ := Formation.mem_batches_of_mem (f := e.formation) e.transitions hGroup
      obtain ⟨b, hb⟩ := Formation.exists_batch d.vehicle (hTime _ hGroup) hTrips hNear s
      have hVehicle := (Formation.vehicle_of_batch hb).1
      refine .inl ⟨b, hMade b hb, hVehicle, ?_⟩
      rw [hVehicle]
      exact List.mem_map.2 ⟨_, List.mem_filter.2 ⟨hLined, hNear⟩, rfl⟩
    · right
      cases hDeparture : p.trip.firstDeparture with
      | none =>
        left
        unfold Trip.firstDeparture at hDeparture
        exact List.head?_eq_none_iff.1 (Option.map_eq_none_iff.1 hDeparture)
      | some departure =>
        have hSome := (hTime _ hGroup _ hTrips).cutoff
        rw [hDeparture] at hSome
        obtain ⟨cutoff, hCutoff⟩ := Option.isSome_iff_exists.1 (hSome rfl)
        refine .inr (.inl ⟨departure, cutoff, rfl, hCutoff, fun hLt => hNear ?_⟩)
        exact TripPredictor.isNear_iff.2 ⟨departure, cutoff, hDeparture, hCutoff, hLt⟩
  · obtain ⟨hAt', hAllowed', hVehicle'⟩ := mem_placed_iff.1 (Formation.mem_sorted_iff.1
      (hBefore.subset (List.mem_cons_self ..))).1
    exact .inr (.inr (.inr ⟨y.2, y.1.2, hAt', hVehicle', hTrip, hAllowed',
      sortsBefore_of_sublist hBefore⟩))

/-- A report without some deviations that have no schedule gives the same batches. -/
theorem formed_filter {keep : Deviation → Bool}
    (hKeep : ∀ d, e.formation.isKnown d = true → keep d = true) :
    e.formed { r with deviations := r.deviations.filter keep } = e.formed r := by
  have hKnown : ∀ ds, e.formation.batches e.transitions
      (byVehicle (ds.filter e.formation.isKnown)) =
        e.formation.batches e.transitions (byVehicle ds) := by
    intro ds
    rw [byVehicle_filter, Formation.batches_filter_isKnown]
  have hSame : (e.allowed { r with deviations := r.deviations.filter keep }).filter
      e.formation.isKnown = (e.allowed r).filter e.formation.isKnown := by
    unfold allowed
    rw [List.filter_filter, List.filter_filter, List.filter_filter]
    refine List.filter_congr fun d _ => ?_
    cases hIsKnown : e.formation.isKnown d with
    | true => rw [hKeep d hIsKnown, Bool.and_true]
    | false => rfl
  rw [formed, formed, ← hKnown, hSame, hKnown]

/-- It can be handled to its end as well. -/
theorem CanHandle.filter {now : Instant} (h : e.CanHandle r now) {keep : Deviation → Bool}
    (hKeep : ∀ d, e.formation.isKnown d = true → keep d = true) :
    e.CanHandle { r with deviations := r.deviations.filter keep } now := by
  have hAllowed : e.allowed { r with deviations := r.deviations.filter keep } =
      (e.allowed r).filter keep := List.filter_comm ..
  refine ⟨fun d hd => ?_, ?_, ?_⟩
  · rw [hAllowed] at hd
    exact h.answers d (List.mem_filter.1 hd).1
  · rintro ⟨vehicle, own⟩ hx
    rw [hAllowed, byVehicle_filter] at hx
    obtain ⟨⟨_, all⟩, hAll, hEq⟩ := List.mem_map.1 (List.mem_filter.1 hx).1
    cases hEq
    have hTrips : e.formation.trips (all.filter keep) = e.formation.trips all := by
      rw [← Formation.trips_filter_isKnown, List.filter_filter,
        ← Formation.trips_filter_isKnown all]
      congr 1
      refine List.filter_congr fun d _ => ?_
      cases hIsKnown : e.formation.isKnown d with
      | true => rw [hKeep d hIsKnown, Bool.and_true]
      | false => rfl
    intro x hxTrips
    rw [hTrips] at hxTrips
    exact h.inTime _ hAll x hxTrips
  · rw [formed_filter hKeep]
    exact h.expiry

/-- What is asked for without effect is not kept. -/
theorem find?_filter {keep : Deviation → Bool}
    (hKeep : ∀ d, e.formation.isKnown d = true → keep d = true) (key : TripKey) :
    (if key ∈ (e.allowed { r with deviations := r.deviations.filter keep }).map Deviation.tripKey
      then e.known key else e.predictors.find? key) =
    if key ∈ (e.allowed r).map Deviation.tripKey then e.known key
      else e.predictors.find? key := by
  have hAllowed : e.allowed { r with deviations := r.deviations.filter keep } =
      (e.allowed r).filter keep := List.filter_comm ..
  by_cases hAsked : key ∈ (e.allowed r).map Deviation.tripKey
  · rw [if_pos hAsked]
    split
    · rfl
    · rename_i hLeftOut
      have hNone : e.known key = none := by
        by_contra hSome
        obtain ⟨d, hd, rfl⟩ := List.mem_map.1 hAsked
        refine hLeftOut (List.mem_map_of_mem ?_)
        rw [hAllowed]
        exact List.mem_filter.2 ⟨hd, hKeep d (Option.isSome_iff_ne_none.2 hSome)⟩
      rw [hNone]
      exact (Option.or_eq_none_iff.1 hNone).1
  · rw [if_neg hAsked, if_neg]
    rw [hAllowed]
    exact fun hMem => hAsked ((List.filter_sublist.map _).subset hMem)

end Reports

/-- The kept predictors of an engine look as far ahead as the engine. -/
theorem Keeps.horizon_of_known {e : Engine} (h : e.Keeps) {key : TripKey} {p : TripPredictor}
    (hKnown : e.known key = some p) : p.horizon = e.horizon := by
  rcases Option.or_eq_some_iff.1 hKnown with hKept | ⟨-, hBuilt⟩
  · obtain ⟨trip, -, rfl⟩ := h key p hKept
    rfl
  · obtain ⟨trip, -, rfl⟩ := Option.map_eq_some_iff.1 hBuilt
    rfl

/-- A report that can be handled to its end gives one batch of a vehicle at most, in the order of
the vehicles' ids. A batch has the trips of some places of the report, each once, in the order of
service, and in the order of the report where trips depart together; each belongs to the vehicle,
is on an allowed route, has a schedule, and departs before the horizon of its own observation ends.
A deviation on an allowed route that has a schedule is at one of these places, or its trip has no
stops or departs too late, or another deviation from the trip sorts before it. Each deviation on an
allowed route that has no schedule is counted as dropped, and without it the report gives the
same. -/
theorem report_lines_up_each_deviation_once {e : Engine} {r : VehicleReport} {now : Instant}
    (h : e.CanHandle r now) :
    ∃ made : List Batch,
      (e.handleReport r now).1 = .ok (List.range' e.batches.batches.length made.length) ∧
      (e.handleReport r now).2.batches.batches =
        e.batches.batches ++ made.map Batch.sentOff ∧
      (made.map Batch.vehicle).Pairwise (· < ·) ∧
      (∀ b ∈ made, b.trips ≠ [] ∧ (b.trips.map fun p => p.deviation.trip).Nodup ∧
        (e.places r b.vehicle).Pairwise (e.SortsBefore r) ∧
        List.Forall₂ (e.Stands r b.vehicle) (e.places r b.vehicle) b.trips) ∧
      (e.Keeps → ∀ key p, e.known key = some p → p.horizon = e.horizon) ∧
      (∀ i d p, r.deviations[i]? = some d → e.settings.allowsRoute d.route = true →
        e.known d.tripKey = some p →
        (∃ b ∈ made, b.vehicle = d.vehicle ∧ i ∈ e.places r b.vehicle) ∨
        p.trip.stops = [] ∨
        (∃ departure cutoff, p.trip.firstDeparture = some departure ∧
          d.observedAt.shift? p.horizon = some cutoff ∧ cutoff ≤ departure) ∨
        ∃ j d', r.deviations[j]? = some d' ∧ d'.vehicle = d.vehicle ∧ d'.trip = d.trip ∧
          e.settings.allowsRoute d'.route = true ∧ e.SortsBefore r j i) ∧
      (e.handleReport r now).2.drops =
        e.drops + ((e.allowed r).filter fun d => (e.known d.tripKey).isNone).length ∧
      ∀ keep : Deviation → Bool, (∀ d, (e.known d.tripKey).isSome = true → keep d = true) →
        let r' : VehicleReport := { r with deviations := r.deviations.filter keep }
        (e.handleReport r' now).1 = (e.handleReport r now).1 ∧
        (e.handleReport r' now).2.batches = (e.handleReport r now).2.batches ∧
        (e.handleReport r' now).2.journal = (e.handleReport r now).2.journal ∧
        (e.handleReport r' now).2.transitions = (e.handleReport r now).2.transitions ∧
        ∀ key, (e.handleReport r' now).2.predictors.find? key =
          (e.handleReport r now).2.predictors.find? key := by
  obtain ⟨hResult, hHandles⟩ := handleReport_eq h
  refine ⟨(e.formed r).1, hResult, h.yields.batches, ?_, fun b hb => ?_,
    fun hKeeps key p => hKeeps.horizon_of_known, fun i d p => lined_up_or_left_out h.inTime,
    hHandles.drops, fun keep hKeep => ?_⟩
  · exact (ascending_byVehicle _).1.sublist (Formation.vehicles_batches_sublist _ _)
  · obtain ⟨hNonempty, hDistinct, hStands⟩ := lines_up_of_mem_formed h.inTime hb
    exact ⟨hNonempty, hDistinct, e.pairwise_places r b.vehicle, hStands⟩
  · intro r'
    obtain ⟨hResult', hHandles'⟩ := handleReport_eq (h.filter hKeep)
    have hFormed : e.formed r' = e.formed r := formed_filter hKeep
    rw [hFormed] at hResult' hHandles'
    refine ⟨hResult'.trans hResult.symm, hHandles'.batches.trans hHandles.batches.symm,
      hHandles'.journal.trans hHandles.journal.symm,
      hHandles'.transitions.trans hHandles.transitions.symm, fun key => ?_⟩
    rw [hHandles'.predictors, hHandles.predictors]
    exact find?_filter hKeep key

/-- Two vehicles on a trip, the first of them also on one that is not in the schedule. -/
def twoVehicles : VehicleReport := ⟨[], [{ Sample.deviation with trip := "t2" },
  { Sample.deviation with vehicle := "V2" }, Sample.deviation]⟩

theorem byVehicle_twoVehicles : byVehicle twoVehicles.deviations =
    [("V1", [{ Sample.deviation with trip := "t2" }, Sample.deviation]),
      ("V2", [{ Sample.deviation with vehicle := "V2" }])] := by
  have hOnce : (twoVehicles.deviations.map Deviation.vehicle).eraseDups = ["V1", "V2"] := by
    decide
  exact byVehicle_eq_map hOnce (by decide)

/-- Each vehicle gets a batch with the trip that is in the schedule. -/
theorem two_vehicles_line_up :
    Sample.engine.places twoVehicles "V1" = [2] ∧ Sample.engine.places twoVehicles "V2" = [1] ∧
    ∃ made : List Batch, made.map Batch.vehicle = ["V1", "V2"] ∧
      (∀ b ∈ made, List.Forall₂ (Sample.engine.Stands twoVehicles b.vehicle)
        (Sample.engine.places twoVehicles b.vehicle) b.trips) ∧
      (Sample.engine.handleReport twoVehicles (Sample.clock 0)).2.drops = 1 := by
  have hAllowed : Sample.engine.allowed twoVehicles = twoVehicles.deviations := rfl
  have hFormed : Sample.engine.formed twoVehicles =
      Sample.engine.formation.batches Sample.engine.transitions
        [("V1", [{ Sample.deviation with trip := "t2" }, Sample.deviation]),
          ("V2", [{ Sample.deviation with vehicle := "V2" }])] := by
    rw [formed, hAllowed, byVehicle_twoVehicles]
  have hCan : Sample.engine.CanHandle twoVehicles (Sample.clock 0) := by
    refine ⟨by decide +kernel, ?_, ?_⟩
    · rw [hAllowed, byVehicle_twoVehicles]
      decide +kernel
    · rw [hFormed]
      decide +kernel
  have hVehicles : (Sample.engine.handleReport twoVehicles
      (Sample.clock 0)).2.batches.batches.map Batch.vehicle = ["V1", "V2"] := by
    rw [(handleReport_eq hCan).2.batches, hFormed]
    decide +kernel
  obtain ⟨made, -, hBatches, -, hMade, -, -, hDrops, -⟩ :=
    report_lines_up_each_deviation_once hCan
  refine ⟨by decide +kernel, by decide +kernel, made, ?_, fun b hb => (hMade b hb).2.2.2, ?_⟩
  · rw [hBatches, show Sample.engine.batches.batches = [] by decide +kernel, List.nil_append,
      List.map_map] at hVehicles
    exact hVehicles
  · rw [hDrops]
    decide +kernel

end Engine

end TransitForecast
