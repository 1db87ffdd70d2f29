import TransitForecast.Proofs.Coverage
import TransitForecast.Proofs.Delays
import TransitForecast.Proofs.Records

/-!
# TransitForecast — trip updates are read back

An update is read from what is written for it with every time rounded down to the whole second and
everything else as it was. All that this takes is that its numbers have the sizes that messages have
room for. Of an update that was built they have, if those of the trip and of the vehicle's report
have: its delays lie between instants, of which none is far enough from another. Of an update that
was read they have too, and its times are whole seconds already.

## Results

* `Wire.readsAs_stopUpdate`, `Wire.readsAs_update` — updates are read with their times rounded down.
* `Wire.stable_update`      — an update that was read is read as it was.
* `UpdateRules.fits_build`  — the numbers of an update that was built.
-/

namespace TransitForecast

open Json (ReadsAs Stable Whole Reader)
open Json.FieldReader (required_object withDefault_object optionalTail_object record_object
  of_required of_optionalTail of_record)
open Decimal (int64 nat32)

-- ---------------------------------------------------------------------------
-- Whole seconds
-- ---------------------------------------------------------------------------

namespace Instant

/-- The whole second that an instant lies in, or after which it lies in a leap second. -/
def wholeSecond (t : Instant) : Instant := ⟨t.second, 0, t.inRange, epoch.nanos_lt⟩

theorem ofEpochSeconds?_second (t : Instant) : ofEpochSeconds? t.second = some t.wholeSecond := by
  have hSecond : t.second * 1000000000 / 1000000000 = t.second := by omega
  have hNanos : (t.second * 1000000000 % 1000000000).toNat = 0 := by omega
  unfold ofEpochSeconds? ofPosition? nanosPerSecond
  rw [dif_pos (hSecond.symm ▸ t.inRange), Option.some_inj]
  exact Instant.mk.injEq .. ▸ ⟨hSecond, hNanos⟩

theorem wholeSecond_of_ofEpochSeconds? {seconds : Int} {t : Instant}
    (h : ofEpochSeconds? seconds = some t) : t.wholeSecond = t := by
  unfold ofEpochSeconds? ofPosition? nanosPerSecond at h
  split at h
  · cases h
    refine (Instant.mk.injEq ..).mpr ⟨rfl, ?_⟩
    omega
  · cases h

end Instant

theorem whole_int64 : Whole int64.lo ∧ Whole int64.hi := by
  unfold Whole
  decide

theorem whole_nat32 : Whole nat32.lo ∧ Whole nat32.hi := by
  unfold Whole
  decide

theorem holds_int64 {n : Int} (h : -9223372036854775808 ≤ n ∧ n ≤ 9223372036854775807) :
    int64.holds n = true := by
  rw [Decimal.Bounds.holds, Bool.and_eq_true, decide_eq_true_eq, decide_eq_true_eq]
  exact h

namespace Wire

theorem readsAs_seconds (t : Instant) : ReadsAs writeSeconds readSeconds t t.wholeSecond := by
  have hRange := t.inRange
  have hSecond := ReadsAs.int whole_int64 (holds_int64 (n := t.second) (by omega))
  refine ⟨hSecond.printable, ?_⟩
  show (Reader.int int64 (.int t.second)).bind _ = _
  rw [hSecond.read]
  exact t.ofEpochSeconds?_second

theorem wholeSecond_of_readSeconds {j : Json} {t : Instant} (h : readSeconds j = some t) :
    t.wholeSecond = t := by
  obtain ⟨seconds, -, hSeconds⟩ := Option.bind_eq_some_iff.1 h
  exact Instant.wholeSecond_of_ofEpochSeconds? hSeconds

end Wire

-- ---------------------------------------------------------------------------
-- Updates
-- ---------------------------------------------------------------------------

/-- Whether the numbers of a stop's update have the sizes that messages have room for. -/
structure StopUpdate.Fits (u : StopUpdate) : Prop where
  sequence : nat32.holds u.sequence = true
  arrivalDelay : int64.holds u.arrivalDelay = true
  departureDelay : ∀ d ∈ u.departureDelay, int64.holds d = true

/-- A stop's update with every time rounded down to the whole second. -/
def StopUpdate.wholeSeconds (u : StopUpdate) : StopUpdate :=
  { u with
    scheduledArrival := u.scheduledArrival.wholeSecond
    predictedArrival := u.predictedArrival.wholeSecond
    scheduledDeparture := u.scheduledDeparture.map Instant.wholeSecond
    predictedDeparture := u.predictedDeparture.map Instant.wholeSecond }

/-- Whether the numbers of an update have the sizes that messages have room for. -/
structure TripUpdate.Fits (u : TripUpdate) : Prop where
  dataSet : int64.holds u.dataSet = true
  stops : ∀ s ∈ u.stops, s.Fits

/-- An update with every time rounded down to the whole second. -/
def TripUpdate.wholeSeconds (u : TripUpdate) : TripUpdate :=
  { u with
    observedAt := u.observedAt.wholeSecond
    stops := u.stops.map StopUpdate.wholeSeconds }

namespace Wire

theorem printable_seconds (t : Instant) : (writeSeconds t).Printable :=
  (readsAs_seconds t).printable

theorem readsAs_source (s : Source) : ReadsAs writeSource readSource s s :=
  .name (Source.ofName?_name s)

theorem readsAs_disposition (d : Disposition) : ReadsAs writeDisposition readDisposition d d :=
  .name (Disposition.ofName?_name d)

/-- The update of a stop is read with its times rounded down. -/
theorem readsAs_stopUpdate {u : StopUpdate} (h : u.Fits) :
    ReadsAs writeStopUpdate readStopUpdate u u.wholeSeconds := by
  have hSequence := ReadsAs.nat whole_nat32 h.sequence
  have hArrival := ReadsAs.int whole_int64 h.arrivalDelay
  have hDeparture : ∀ d ∈ u.departureDelay, ReadsAs .int (Reader.int int64) d (id d) := fun d hd =>
    ReadsAs.int whole_int64 (h.departureDelay d hd)
  have hTime : ∀ {o : Option Instant}, ∀ t ∈ o,
      ReadsAs writeSeconds readSeconds t t.wholeSecond := fun t _ => readsAs_seconds t
  refine ⟨?_, record_object ?_⟩
  · simpa [writeStopUpdate, writeSource, writeDisposition, hSequence.printable, hArrival.printable,
      printable_seconds] using fun d hd => (hDeparture d hd).printable
  · rw [bind_eq (required_object hSequence (by simp)),
      bind_eq (required_object (.string u.stop) (by simp)),
      bind_eq (required_object hArrival (by simp)),
      bind_eq (required_object (readsAs_seconds u.scheduledArrival) (by simp)),
      bind_eq (required_object (readsAs_seconds u.predictedArrival) (by simp)),
      bind_eq (optionalTail_object hDeparture rfl (by simp)),
      bind_eq (optionalTail_object (o := u.scheduledDeparture) hTime rfl (by simp)),
      bind_eq (optionalTail_object (o := u.predictedDeparture) hTime rfl (by simp)),
      bind_eq (required_object (readsAs_source u.source) (by simp)),
      bind_eq (required_object (readsAs_disposition u.status) (by simp)),
      bind_eq (withDefault_object (.bool u.timepoint) (by simp)), Option.map_id]
    rfl

/-- What the numbers and times of a stop's update that was read are like. -/
theorem fits_of_readStopUpdate {j : Json} {u : StopUpdate} (h : readStopUpdate j = some u) :
    u.Fits ∧ u.wholeSeconds = u := by
  obtain ⟨_, _, h⟩ := of_record h
  obtain ⟨sequence, _, hSequence, h⟩ := bind_eq_some h
  obtain ⟨stop, _, -, h⟩ := bind_eq_some h
  obtain ⟨arrivalDelay, _, hArrival, h⟩ := bind_eq_some h
  obtain ⟨scheduledArrival, _, hScheduled, h⟩ := bind_eq_some h
  obtain ⟨predictedArrival, _, hPredicted, h⟩ := bind_eq_some h
  obtain ⟨departureDelay, _, hDeparture, h⟩ := bind_eq_some h
  obtain ⟨scheduledDeparture, _, hLeaving, h⟩ := bind_eq_some h
  obtain ⟨predictedDeparture, _, hLeft, h⟩ := bind_eq_some h
  obtain ⟨source, _, -, h⟩ := bind_eq_some h
  obtain ⟨status, _, -, h⟩ := bind_eq_some h
  obtain ⟨timepoint, _, -, h⟩ := bind_eq_some h
  cases h
  have hWhole : ∀ {o : Option Instant}, (∀ t ∈ o, ∃ j, readSeconds j = some t) →
      o.map Instant.wholeSecond = o := by
    intro o hRead
    cases o with
    | none => rfl
    | some t =>
      obtain ⟨j, hSeconds⟩ := hRead t rfl
      rw [Option.map_some, wholeSecond_of_readSeconds hSeconds]
  obtain ⟨_, hSequence⟩ := of_required hSequence
  obtain ⟨_, hArrival⟩ := of_required hArrival
  obtain ⟨_, hScheduled⟩ := of_required hScheduled
  obtain ⟨_, hPredicted⟩ := of_required hPredicted
  refine ⟨⟨Json.holds_of_nat rfl hSequence, Json.holds_of_int hArrival, fun d hd => ?_⟩, ?_⟩
  · obtain ⟨_, hRead⟩ := of_optionalTail hDeparture d hd
    exact Json.holds_of_int hRead
  · unfold StopUpdate.wholeSeconds
    dsimp only
    rw [wholeSecond_of_readSeconds hScheduled, wholeSecond_of_readSeconds hPredicted,
      hWhole (of_optionalTail hLeaving), hWhole (of_optionalTail hLeft)]

/-- An update is read with its times rounded down. -/
theorem readsAs_update {u : TripUpdate} (h : u.Fits) :
    ReadsAs writeUpdate readUpdate u u.wholeSeconds := by
  have hDataSet := ReadsAs.int whole_int64 h.dataSet
  have hStops := ReadsAs.list fun s hs => readsAs_stopUpdate (h.stops s hs)
  refine ⟨?_, record_object ?_⟩
  · simpa [writeUpdate, hDataSet.printable, printable_seconds] using hStops.printable
  · rw [bind_eq (required_object (.string u.trip) (by simp)),
      bind_eq (required_object (.string u.route) (by simp)),
      bind_eq (required_object (.string u.vehicle) (by simp)),
      bind_eq (required_object hDataSet (by simp)),
      bind_eq (required_object (readsAs_seconds u.observedAt) (by simp)),
      bind_eq (required_object hStops (by simp))]
    rfl

theorem fits_of_readUpdate {j : Json} {u : TripUpdate} (h : readUpdate j = some u) :
    u.Fits ∧ u.wholeSeconds = u := by
  obtain ⟨_, _, h⟩ := of_record h
  obtain ⟨trip, _, -, h⟩ := bind_eq_some h
  obtain ⟨route, _, -, h⟩ := bind_eq_some h
  obtain ⟨vehicle, _, -, h⟩ := bind_eq_some h
  obtain ⟨dataSet, _, hDataSet, h⟩ := bind_eq_some h
  obtain ⟨observedAt, _, hObserved, h⟩ := bind_eq_some h
  obtain ⟨stops, _, hStops, h⟩ := bind_eq_some h
  cases h
  obtain ⟨_, hDataSet⟩ := of_required hDataSet
  obtain ⟨_, hObserved⟩ := of_required hObserved
  obtain ⟨_, hStops⟩ := of_required hStops
  have hRead : ∀ s ∈ stops, s.Fits ∧ s.wholeSeconds = s := by
    intro s hs
    obtain ⟨_, hStop⟩ := Json.of_mem_list hStops s hs
    exact fits_of_readStopUpdate hStop
  refine ⟨⟨Json.holds_of_int hDataSet, fun s hs => (hRead s hs).1⟩, ?_⟩
  unfold TripUpdate.wholeSeconds
  dsimp only
  rw [wholeSecond_of_readSeconds hObserved, List.map_congr_left fun s hs => (hRead s hs).2,
    List.map_id']

theorem stable_update : Stable writeUpdate readUpdate := by
  intro j u h
  obtain ⟨hFits, hWhole⟩ := fits_of_readUpdate h
  have hRead := readsAs_update hFits
  rwa [hWhole] at hRead

end Wire

-- ---------------------------------------------------------------------------
-- Updates that are built
-- ---------------------------------------------------------------------------

/-- Two instants are less than 64 bits of seconds apart. -/
theorem Instant.holds_seconds_since (later earlier : Instant) :
    int64.holds (later.since earlier).seconds = true := by
  obtain ⟨hFrom, hTo⟩ := nears earlier later
  have hLater := later.inRange
  have hEarlier := earlier.inRange
  unfold epochSeconds at hFrom hTo
  exact holds_int64 (by omega)

namespace UpdateRules

variable {rules : UpdateRules} {d : Deviation} {stops : List Stop}

theorem stop_mem_of_mem_legs {xs : List StopPrediction} {leg : Leg Float}
    (h : leg ∈ rules.legs d stops xs) : leg.stop ∈ stops := by
  induction xs with
  | nil => cases h
  | cons x rest ih =>
    rw [legs] at h
    split at h
    · cases h
    split at h
    · rename_i hTarget
      rcases List.mem_cons.1 h with rfl | hRest
      · exact List.mem_of_getElem? hTarget
      · exact ih hRest
    · cases h

theorem stop_mem_of_opening {xs : List StopPrediction} {s : Stop}
    (h : (opening d stops xs).stop? = some s) : s ∈ stops := by
  have hAssumed : ∀ {o : Option Stop}, (o.elim Opening.nothing .assumed).stop? = o := by
    intro o
    cases o <;> rfl
  unfold opening at h
  split at h
  · rw [hAssumed] at h
    exact List.mem_of_getLast? h
  split at h
  · split at h
    · cases h
    · rename_i hHead
      split at h
      · cases h
        exact List.mem_of_head? hHead
      · cases h
        exact List.mem_of_head? hHead
  · rw [hAssumed] at h
    exact List.mem_of_getElem? h

/-- Every stop that an update reports is one of the trip. -/
theorem exists_stop_of_mem_build {p : TripPrediction} {seed : Instant} {u : StopUpdate}
    (hu : u ∈ (rules.build p seed).1.stops) : ∃ s ∈ p.trip.stops, u.visit = s.visit := by
  change u ∈ (rules.stopUpdates p seed).1 at hu
  unfold stopUpdates at hu
  dsimp only at hu
  split at hu
  · cases hu
  · rename_i hOpen
    rcases List.mem_append.1 hu with hFirst | hRest
    · have hVisit := List.mem_map_of_mem (f := StopUpdate.visit) hFirst
      rw [visits_openWalk hOpen] at hVisit
      obtain ⟨s, hs, hEq⟩ := List.mem_map.1 hVisit
      exact ⟨s, stop_mem_of_opening (Option.mem_toList.1 hs), hEq.symm⟩
    · have hVisit :=
        Walk.visits_run_prefix.subset (List.mem_map_of_mem (f := StopUpdate.visit) hRest)
      obtain ⟨leg, hLeg, hEq⟩ := List.mem_map.1 hVisit
      exact ⟨leg.stop, stop_mem_of_mem_legs hLeg, hEq.symm⟩

/-- The numbers of an update fit if those of the trip and of the report do. -/
theorem fits_build {p : TripPrediction} (hDataSet : int64.holds p.deviation.dataSet = true)
    (hSequence : ∀ s ∈ p.trip.stops, nat32.holds s.sequence = true) (rules : UpdateRules)
    (seed : Instant) : (rules.build p seed).1.Fits := by
  refine ⟨hDataSet, fun u hu => ?_⟩
  obtain ⟨s, hs, hVisit⟩ := exists_stop_of_mem_build hu
  obtain ⟨hArrival, hDeparture⟩ := timed_build u hu
  have hOrder : u.sequence = s.sequence := congrArg Prod.fst hVisit
  refine ⟨hOrder ▸ hSequence s hs, hArrival ▸ Instant.holds_seconds_since ..,
    fun delay hDelay => ?_⟩
  rcases hDeparture with ⟨-, -, hNone⟩ | ⟨scheduled, predicted, -, -, hSome⟩
  · rw [hNone] at hDelay
    cases hDelay
  · rw [hSome] at hDelay
    cases hDelay
    exact Instant.holds_seconds_since ..

end UpdateRules

end TransitForecast
