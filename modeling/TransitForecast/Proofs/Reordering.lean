import Mathlib.Data.List.Pairwise
import TransitForecast.Proofs.Halting
import TransitForecast.Proofs.Succession

/-!
# TransitForecast — the order of deviations

Handling a report groups its deviations by vehicle, looks up their trips, sorts these by departure,
keeps the first of each, and takes observed transitions out of a store as it predicts. None of it
tells in which order the deviations came, unless a vehicle reports one trip twice or two trips that
depart together: only then does the place in the report decide, because sorting is stable and the
first deviation from a trip wins. Trips without stops may change places, but nothing is predicted
for them.

## Results

* `filter_mergeSort_eq_of_perm` — sorting forgets the order where the order of sorting is strict.
* `latest?_perm`       — the time of a batch is that of the latest deviation, wherever it stands.
* `Formation.batch_perm` — a vehicle has the same batch whatever the order of its deviations.
* `handleReport_perm`  — a report is handled alike whatever the order of its deviations.
-/

namespace TransitForecast

-- ---------------------------------------------------------------------------
-- Lists and instants
-- ---------------------------------------------------------------------------

section Lists

variable {α κ : Type}

theorem firstsBy_eq_self [DecidableEq κ] {key : α → κ} {l : List α} (h : (l.map key).Nodup) :
    firstsBy key l = l := by
  induction l with
  | nil => rfl
  | cons x rest ih =>
    rw [List.map_cons, List.nodup_cons] at h
    have hOthers : ∀ y ∈ rest, key y ≠ key x := fun y hy hSame =>
      h.1 (List.mem_map.2 ⟨y, hy, hSame⟩)
    rw [firstsBy, ih h.2, List.filter_eq_self.2 fun y hy => decide_eq_true (hOthers y hy)]

/-- Sorting forgets the order of those elements of which no two sort together. -/
theorem filter_mergeSort_eq_of_perm {le : α → α → Bool}
    (hTrans : ∀ a b c, le a b = true → le b c = true → le a c = true)
    (hTotal : ∀ a b, (le a b || le b a) = true) {l l' : List α} (hPerm : l.Perm l')
    {p : α → Bool} (hStrict : ∀ a ∈ l, ∀ b ∈ l, p a = true → p b = true → le a b = true →
      le b a = true → a = b) :
    (l.mergeSort le).filter p = (l'.mergeSort le).filter p := by
  have hLeft := (List.pairwise_mergeSort hTrans hTotal l).filter p
  have hRight := (List.pairwise_mergeSort hTrans hTotal l').filter p
  have hSame : ((l.mergeSort le).filter p).Perm ((l'.mergeSort le).filter p) :=
    (((List.mergeSort_perm l le).trans hPerm).trans (List.mergeSort_perm l' le).symm).filter p
  refine List.Perm.eq_of_pairwise (fun a b ha hb hab hba => ?_) hLeft hRight hSame
  obtain ⟨ha, hpa⟩ := List.mem_filter.1 ha
  obtain ⟨hb, hpb⟩ := List.mem_filter.1 hb
  exact hStrict a (List.mem_mergeSort.1 ha) b (hPerm.mem_iff.2 (List.mem_mergeSort.1 hb)) hpa hpb
    hab hba

end Lists

namespace Instant

theorem le_antisymm {a b : Instant} (hab : a ≤ b) (hba : b ≤ a) : a = b := by
  have h₁ : ¬ precedes b a := hab
  have h₂ : ¬ precedes a b := hba
  obtain ⟨second, nanos, _, _⟩ := a
  obtain ⟨second', nanos', _, _⟩ := b
  obtain ⟨rfl, rfl⟩ : second = second' ∧ nanos = nanos' := by
    unfold precedes at h₁ h₂
    dsimp only at h₁ h₂
    omega
  rfl

/-- The latest of some times is one of them, and none is later. -/
theorem foldl_max (times : List Instant) : ∀ first : Instant,
    times.foldl max first ∈ first :: times ∧ ∀ t ∈ first :: times, t ≤ times.foldl max first := by
  induction times with
  | nil =>
    refine fun first => ⟨List.mem_cons_self .., fun t ht => ?_⟩
    rw [List.mem_singleton.1 ht]
    exact le_refl first
  | cons next rest ih =>
    intro first
    obtain ⟨hMem, hLatest⟩ := ih (first.max next)
    obtain ⟨hMax, hRest⟩ := List.forall_mem_cons.1 hLatest
    rw [List.foldl_cons]
    refine ⟨?_, List.forall_mem_cons.2 ⟨le_of_le_of_le (le_max_left first next) hMax,
      List.forall_mem_cons.2 ⟨le_of_le_of_le (le_max_right first next) hMax, hRest⟩⟩⟩
    rcases List.mem_cons.1 hMem with hFirst | hLater
    · rw [hFirst]
      unfold max
      split
      · exact List.mem_cons_of_mem _ (List.mem_cons_self ..)
      · exact List.mem_cons_self ..
    · exact List.mem_cons_of_mem _ (List.mem_cons_of_mem _ hLater)

end Instant

/-- The latest time is that of some deviation, and no deviation is later. -/
theorem Engine.latest?_eq_some_iff {found : List (TripPredictor × Deviation)} {t : Instant} :
    latest? found = some t ↔ t ∈ found.map (fun x => x.2.observedAt) ∧
      ∀ u ∈ found.map (fun x => x.2.observedAt), u ≤ t := by
  cases found with
  | nil => simp [latest?]
  | cons x rest =>
    obtain ⟨hMem, hLatest⟩ :=
      Instant.foldl_max (rest.map fun x => x.2.observedAt) x.2.observedAt
    rw [List.foldl_map] at hMem hLatest
    rw [latest?, Option.some.injEq, List.map_cons]
    constructor
    · rintro rfl
      exact ⟨hMem, hLatest⟩
    · rintro ⟨ht, hNoneLater⟩
      exact Instant.le_antisymm (hNoneLater _ hMem) (hLatest t ht)

theorem Engine.latest?_perm {found found' : List (TripPredictor × Deviation)}
    (h : found.Perm found') : latest? found = latest? found' := by
  ext t
  rw [latest?_eq_some_iff, latest?_eq_some_iff]
  simp only [(h.map _).mem_iff]

-- ---------------------------------------------------------------------------
-- One vehicle
-- ---------------------------------------------------------------------------

namespace Formation

/-- The first departure of the trip of a deviation, if it has a schedule with stops. -/
def departure? (f : Formation) (d : Deviation) : Option Instant :=
  (f.known d.tripKey).bind fun p => p.trip.firstDeparture

/-- Whether deviations are from two trips that do not depart together. -/
def Differ (f : Formation) (d d' : Deviation) : Prop :=
  d.trip ≠ d'.trip ∧ ∀ t ∈ f.departure? d, f.departure? d' ≠ some t

/-- Whether no vehicle reports a trip twice, or two trips that depart together. -/
def Apart (f : Formation) (deviations : List Deviation) : Prop :=
  deviations.Pairwise fun d d' => d.vehicle = d'.vehicle → f.Differ d d'

instance (f : Formation) (d d' : Deviation) : Decidable (f.Differ d d') :=
  inferInstanceAs (Decidable (_ ∧ _))

instance (f : Formation) (deviations : List Deviation) : Decidable (f.Apart deviations) :=
  inferInstanceAs (Decidable (List.Pairwise _ _))

instance (f : Formation) : Std.Symm f.Differ where
  symm _ _ h := ⟨h.1.symm, fun t ht hSame => h.2 t hSame ht⟩

variable {f : Formation} {own own' : List Deviation}

theorem Apart.group {deviations : List Deviation} (h : f.Apart deviations) (vehicle : String) :
    (deviations.filter fun d => d.vehicle = vehicle).Pairwise f.Differ := by
  refine (h.filter _).imp_of_mem fun ha hb hab => hab ?_
  rw [of_decide_eq_true (List.mem_filter.1 ha).2, of_decide_eq_true (List.mem_filter.1 hb).2]

/-- Trips that differ are all lined up. -/
theorem trips_of_differ (h : own.Pairwise f.Differ) :
    f.trips own = (f.found own).mergeSort fun a b => Engine.servedBefore a.1 b.1 := by
  have hTrips : ((f.found own).map fun x => x.2.trip).Nodup := by
    refine List.pairwise_map.2 (h.filterMap _ fun d d' hDiffer x hx y hy => ?_)
    obtain ⟨p, -, rfl⟩ := Option.map_eq_some_iff.1 hx
    obtain ⟨q, -, rfl⟩ := Option.map_eq_some_iff.1 hy
    exact hDiffer.1
  rw [trips, Engine.inServiceOrder, Engine.firstOfEachTrip_eq]
  exact firstsBy_eq_self (((List.mergeSort_perm _ _).map _).nodup_iff.2 hTrips)

/-- Only trips within the horizon are added to a batch. -/
theorem foldl_add_filter (found : List (TripPredictor × Deviation)) :
    ∀ acc : Batch × ObservedTransitions,
      found.foldl f.add acc = (found.filter TripPredictor.isNear).foldl f.add acc := by
  induction found with
  | nil => exact fun _ => rfl
  | cons x rest ih =>
    intro acc
    by_cases hNear : TripPredictor.isNear x = true
    · rw [List.filter_cons_of_pos hNear, List.foldl_cons, List.foldl_cons, ih]
    · rw [List.filter_cons_of_neg hNear, List.foldl_cons, add_of_not_near hNear, ih]

theorem trips_perm (hPerm : own.Perm own') (h : own.Pairwise f.Differ)
    (h' : own'.Pairwise f.Differ) : (f.trips own).Perm (f.trips own') := by
  rw [trips_of_differ h, trips_of_differ h']
  exact ((List.mergeSort_perm _ _).trans (hPerm.filterMap _)).trans (List.mergeSort_perm _ _).symm

/-- Of trips that differ those within the horizon have one order of service. -/
theorem near_perm (hPerm : own.Perm own') (h : own.Pairwise f.Differ)
    (h' : own'.Pairwise f.Differ) :
    (f.trips own).filter TripPredictor.isNear = (f.trips own').filter TripPredictor.isNear := by
  rw [trips_of_differ h, trips_of_differ h']
  let le (a b : TripPredictor × Deviation) : Bool := Engine.servedBefore a.1 b.1
  have hTrans : ∀ a b c, le a b = true → le b c = true → le a c = true :=
    fun _ _ _ => Engine.servedBefore_trans
  have hTotal : ∀ a b, (le a b || le b a) = true := fun _ _ => Engine.servedBefore_total _ _
  refine filter_mergeSort_eq_of_perm hTrans hTotal (hPerm.filterMap _) ?_
  rintro ⟨p, d⟩ ha ⟨q, d'⟩ hb hNear hNear' hpq hqp
  obtain ⟨hMem, hKnown⟩ := mem_found_iff.1 ha
  obtain ⟨hMem', hKnown'⟩ := mem_found_iff.1 hb
  dsimp only at hMem hMem' hKnown hKnown'
  by_cases hSame : d = d'
  · subst hSame
    rw [hKnown] at hKnown'
    rw [Option.some.inj hKnown']
  · -- two trips that are near and sort together depart together
    obtain ⟨t, -, hFirst, -⟩ := TripPredictor.isNear_iff.1 hNear
    obtain ⟨u, -, hFirst', -⟩ := TripPredictor.isNear_iff.1 hNear'
    change Engine.servedBefore p q = true at hpq
    change Engine.servedBefore q p = true at hqp
    unfold Engine.servedBefore at hpq hqp
    rw [hFirst, hFirst'] at hpq hqp
    have hTogether : t = u :=
      Instant.le_antisymm (of_decide_eq_true hpq) (of_decide_eq_true hqp)
    have hDeparts : f.departure? d = some t := by
      rw [departure?, hKnown]
      exact hFirst
    have hDeparts' : f.departure? d' = some u := by
      rw [departure?, hKnown']
      exact hFirst'
    exact absurd (hTogether ▸ hDeparts') ((h.forall hMem hMem' hSame).2 t hDeparts)

/-- A vehicle has the same batch whatever the order of its deviations. -/
theorem batch_perm (hPerm : own.Perm own') (h : own.Pairwise f.Differ) (vehicle : String)
    (store : ObservedTransitions) : f.batch vehicle own' store = f.batch vehicle own store := by
  have h' : own'.Pairwise f.Differ := (hPerm.pairwise_iff fun hab => symm hab).1 h
  unfold batch
  rw [Engine.latest?_perm (trips_perm hPerm h h')]
  cases Engine.latest? (f.trips own') with
  | none => rfl
  | some createdAt =>
    dsimp only
    rw [foldl_add_filter (f.trips own), foldl_add_filter (f.trips own'), near_perm hPerm h h']

/-- Whether the trips of a vehicle can be predicted does not depend on the order of its
deviations. -/
theorem InTime.perm (hTime : f.InTime own) (hPerm : own.Perm own') (h : own.Pairwise f.Differ) :
    f.InTime own' := by
  have h' : own'.Pairwise f.Differ := (hPerm.pairwise_iff fun hab => symm hab).1 h
  exact fun x hx => hTime x ((trips_perm hPerm h h').mem_iff.2 hx)

/-- The batches of vehicles are the same whatever the order of the deviations of each. -/
theorem batches_perm {deviations deviations' : List Deviation}
    (hPerm : deviations.Perm deviations') (h : f.Apart deviations) (vehicles : List String) :
    ∀ store,
      f.batches store (vehicles.map fun v => (v, deviations'.filter fun d => d.vehicle = v)) =
        f.batches store (vehicles.map fun v => (v, deviations.filter fun d => d.vehicle = v)) := by
  induction vehicles with
  | nil => exact fun _ => rfl
  | cons v rest ih =>
    intro store
    rw [List.map_cons, List.map_cons, batches, batches, batch_perm (hPerm.filter _) (h.group v), ih]

end Formation

-- ---------------------------------------------------------------------------
-- Reports
-- ---------------------------------------------------------------------------

namespace Engine

/-- The vehicles of deviations do not depend on their order. -/
theorem byVehicle_perm {deviations deviations' : List Deviation}
    (hPerm : deviations.Perm deviations') : ∃ vehicles : List String,
      byVehicle deviations =
        vehicles.map (fun v => (v, deviations.filter fun d => d.vehicle = v)) ∧
      byVehicle deviations' =
        vehicles.map fun v => (v, deviations'.filter fun d => d.vehicle = v) := by
  have hGroups : ∀ ds : List Deviation, byVehicle ds =
      ((byVehicle ds).map Prod.fst).map fun v => (v, ds.filter fun d => d.vehicle = v) := by
    intro ds
    rw [List.map_map]
    have hOwn : (byVehicle ds).map ((fun v => (v, ds.filter fun d => d.vehicle = v)) ∘ Prod.fst) =
        (byVehicle ds).map id :=
      List.map_congr_left fun x hx => Prod.ext rfl (mem_byVehicle hx).symm
    rw [hOwn, List.map_id]
  obtain ⟨hLeft, hMem⟩ := ascending_byVehicle deviations
  obtain ⟨hRight, hMem'⟩ := ascending_byVehicle deviations'
  have hSame : (byVehicle deviations).map Prod.fst = (byVehicle deviations').map Prod.fst := by
    refine List.Perm.eq_of_pairwise (fun _ _ _ _ hab hba => absurd hba (lt_asymm hab)) hLeft hRight
      ((List.perm_ext_iff_of_nodup (hLeft.imp ne_of_lt) (hRight.imp ne_of_lt)).2 fun v => ?_)
    rw [hMem, hMem', (hPerm.map _).mem_iff]
  exact ⟨_, hGroups deviations, hSame ▸ hGroups deviations'⟩

variable {e : Engine} {r r' : VehicleReport} {now : Instant}

theorem formed_perm (hPerm : (e.allowed r).Perm (e.allowed r'))
    (h : e.formation.Apart (e.allowed r)) : e.formed r' = e.formed r := by
  obtain ⟨vehicles, hLeft, hRight⟩ := byVehicle_perm hPerm
  rw [formed, formed, hLeft, hRight, Formation.batches_perm hPerm h]

theorem CanHandle.perm (h : e.CanHandle r now) (hPerm : (e.allowed r).Perm (e.allowed r'))
    (hApart : e.formation.Apart (e.allowed r)) : e.CanHandle r' now where
  answers d hd := h.answers d (hPerm.mem_iff.2 hd)
  inTime x hx := by
    obtain ⟨vehicles, hLeft, hRight⟩ := byVehicle_perm hPerm
    rw [hRight] at hx
    obtain ⟨v, hv, rfl⟩ := List.mem_map.1 hx
    refine (h.inTime (v, _) ?_).perm (hPerm.filter _) (hApart.group v)
    rw [hLeft]
    exact List.mem_map_of_mem hv
  expiry := by
    rw [formed_perm hPerm hApart]
    exact h.expiry

/-- A report in which no vehicle reports one trip twice, or two trips that depart together, is
handled alike whatever the order of its deviations: it gives the same batches in the same order and
sends the same messages, and leaves the same predictors, batches, parked and not, and observed
transitions. -/
theorem handleReport_perm {refs : List BatchRef}
    (hPerm : r'.deviations.Perm r.deviations) (hApart : e.formation.Apart (e.allowed r))
    (hDone : (e.handleReport r now).1 = .ok refs) :
    (e.handleReport r' now).1 = .ok refs ∧
    (e.handleReport r' now).2.core = (e.handleReport r now).2.core ∧
    (e.handleReport r' now).2.journal = (e.handleReport r now).2.journal ∧
    (∀ key, (e.handleReport r' now).2.predictors.find? key =
      (e.handleReport r now).2.predictors.find? key) ∧
    (e.handleReport r' now).2.transitions = (e.handleReport r now).2.transitions ∧
    (e.handleReport r' now).2.drops = (e.handleReport r now).2.drops := by
  have hAllowed : (e.allowed r).Perm (e.allowed r') := hPerm.symm.filter _
  have hCan := handleReport_eq_ok_iff.1 ⟨refs, hDone⟩
  obtain ⟨hResult, hHandles⟩ := handleReport_eq hCan
  obtain ⟨hResult', hHandles'⟩ := handleReport_eq (hCan.perm hAllowed hApart)
  rw [formed_perm hAllowed hApart] at hResult' hHandles'
  have hHandles' := hHandles'.perm hAllowed.symm
  refine ⟨hResult'.trans (hResult.symm.trans hDone), hHandles'.core.trans hHandles.core.symm,
    hHandles'.journal.trans hHandles.journal.symm, fun key => ?_,
    hHandles'.transitions.trans hHandles.transitions.symm,
    hHandles'.drops.trans hHandles.drops.symm⟩
  rw [hHandles'.predictors, hHandles.predictors]

/-- A trip of one segment, half an hour after the other. -/
def secondTrip : Trip :=
  ⟨1, "t2", "R1", [Sample.stop "A" 1 1800 true, Sample.stop "B" 2 2100 false,
    Sample.stop "C" 3 2400 true]⟩

def twoTrips? : Option Engine :=
  start? Sample.settings (.ofList [Sample.trip, secondTrip]) (.ofModels [Sample.model 7 "A_B_C"])
    ⟨[]⟩ [] (Sample.clock 0)

def twoTrips : Engine := twoTrips?.get (by decide +kernel)

/-- A vehicle reports its second trip before its first, and another one comes after it. -/
def secondTripFirst : VehicleReport :=
  ⟨[], [{ Sample.deviation with trip := "t2" }, Sample.deviation,
    { Sample.deviation with vehicle := "V2" }]⟩

/-- The same in another order. -/
def otherVehicleFirst : VehicleReport :=
  ⟨[], [{ Sample.deviation with vehicle := "V2" }, Sample.deviation,
    { Sample.deviation with trip := "t2" }]⟩

theorem runsOnDefaults_twoTrips : twoTrips.RunsOnDefaults Sample.zones :=
  runsOnDefaults engineSettings_sample (Option.some_get _).symm []

/-- Neither the order of the trips of a vehicle nor that of the vehicles matters. -/
theorem other_vehicle_first :
    otherVehicleFirst.deviations.Perm secondTripFirst.deviations ∧
    twoTrips.formation.Apart (twoTrips.allowed secondTripFirst) ∧
    ∃ refs, (twoTrips.handleReport secondTripFirst (Sample.clock 0)).1 = .ok refs ∧
      (twoTrips.handleReport otherVehicleFirst (Sample.clock 0)).1 = .ok refs ∧
      (twoTrips.handleReport otherVehicleFirst (Sample.clock 0)).2.journal =
        (twoTrips.handleReport secondTripFirst (Sample.clock 0)).2.journal := by
  have hPerm : otherVehicleFirst.deviations.Perm secondTripFirst.deviations :=
    List.reverse_perm secondTripFirst.deviations
  have hApart : twoTrips.formation.Apart (twoTrips.allowed secondTripFirst) := by decide +kernel
  have hTogether : ∀ d ∈ twoTrips.allowed secondTripFirst, d.observedAt = Sample.clock 0 := by
    decide +kernel
  have hFits : twoTrips.FitsDefaults secondTripFirst (Sample.clock 0) := by
    refine ⟨fun x hx y hy => ?_, fun _ _ _ => by decide⟩
    obtain ⟨hOwn, -⟩ := Formation.mem_found_iff.1 (mem_of_mem_inServiceOrder hy)
    rw [mem_byVehicle hx] at hOwn
    have hTime := hTogether _ (List.mem_filter.1 hOwn).1
    exact ⟨fun _ => by rw [hTime]; decide, fun _ _ => by rw [hTime]; decide +kernel⟩
  obtain ⟨refs, hDone⟩ := handleReport_eq_ok_iff.2 (runsOnDefaults_twoTrips.canHandle_iff.2 hFits)
  obtain ⟨hSame, -, hJournal, -⟩ := handleReport_perm hPerm hApart hDone
  exact ⟨hPerm, hApart, refs, hDone, hSame, hJournal⟩

end Engine

end TransitForecast
