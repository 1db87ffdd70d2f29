import TransitForecast.Proofs.Answerable
import TransitForecast.Proofs.Scheduled

/-!
# TransitForecast — vehicles on time are predicted on schedule

An engine without models predicts by the schedule alone. While a vehicle has not left the first stop
of a trip, the clock of its update leaves that stop as scheduled and moves by the scheduled seconds
from stop to stop. So it shows the scheduled arrival at each stop, up to the first at which the
vehicle is scheduled to wait.

There are other ways to miss the schedule: the vehicle may have gone a little way already, its trip
before may end too late, or it may have to come late to a timepoint.

## Results

* `UpdateRules.step_leg` — the clock on the way from one stop to the next.
* `UpdateRules.run_legs`, `UpdateRules.stopUpdates_onSchedule` — the update of a trip.
* `Engine.Unmodelled.handle`, `Engine.Unmodelled.run` — what an engine without models sends.
* `Engine.published_on_schedule` — what it sends about vehicles on time.
* `Engine.off_schedule` — what it sends about others that are not late.
-/

namespace TransitForecast

-- ---------------------------------------------------------------------------
-- The walk of a vehicle on time
-- ---------------------------------------------------------------------------

/-- Whether a stop is reported on schedule. -/
structure StopUpdate.OnSchedule (u : StopUpdate) (s : Stop) : Prop where
  delay : u.arrivalDelay = 0
  scheduled : u.scheduledArrival = s.arrival
  predicted : u.predictedArrival = s.arrival

theorem StopUpdate.onSchedule_arrival (s : Stop) (source : Source) (status : Disposition) :
    (StopUpdate.arrival s s.arrival source status).OnSchedule s :=
  ⟨Instant.since_self _, rfl, rfl⟩

/-- Whether a vehicle has not left the first stop of a trip and has until its departure to get
there, when its clock stands at `seed`. -/
structure Deviation.OnTime (d : Deviation) (t : Trip) (seed : Instant) : Prop where
  time : ∀ s ∈ t.stops.head?, d.observedAt ≤ s.departure ∧ seed ≤ s.departure
  origin : ∀ s ∈ t.stops.head?, UpdateRules.disposition d s ≠ .past ∧ d.progress ≤ s.distance
  later : ∀ s ∈ t.stops.tail, UpdateRules.disposition d s = .future ∧ d.progress ≤ s.distance

instance (d : Deviation) (t : Trip) (seed : Instant) : Decidable (d.OnTime t seed) :=
  decidable_of_iff ((∀ s ∈ t.stops.head?, d.observedAt ≤ s.departure ∧ seed ≤ s.departure) ∧
    (∀ s ∈ t.stops.head?, UpdateRules.disposition d s ≠ .past ∧ d.progress ≤ s.distance) ∧
    ∀ s ∈ t.stops.tail, UpdateRules.disposition d s = .future ∧ d.progress ≤ s.distance)
    ⟨fun h => ⟨h.1, h.2.1, h.2.2⟩, fun h => ⟨h.time, h.origin, h.later⟩⟩

section OnTime

variable {d : Deviation} {t : Trip} {seed : Instant} (h : d.OnTime t seed) {i : Nat} {s : Stop}
include h

theorem Deviation.OnTime.future (hs : t.stops[i + 1]? = some s) :
    UpdateRules.disposition d s = .future := by
  rw [← List.getElem?_tail] at hs
  exact (h.later s (List.mem_of_getElem? hs)).1

theorem Deviation.OnTime.progress_le (hs : t.stops[i]? = some s) : d.progress ≤ s.distance := by
  cases i with
  | zero =>
    rw [← List.head?_eq_getElem?] at hs
    exact (h.origin s hs).2
  | succ i =>
    rw [← List.getElem?_tail] at hs
    exact (h.later s (List.mem_of_getElem? hs)).2

end OnTime

namespace UpdateRules

variable {rules : UpdateRules} {d : Deviation} {t : Trip} {seed : Instant}

/-- A vehicle that may not come late to a timepoint does not wait for its time. -/
theorem notBefore_arrival (hLimit : 0 ≤ rules.earlyLimit.nanos) {s : Stop}
    (hs : s.arrival.nanos = 0) (bound : Option Instant)
    (hBound : bound = none ∨ bound = some (rules.earliestArrival s)) :
    Walk.notBefore s.arrival bound = s.arrival := by
  rcases hBound with rfl | rfl
  · rfl
  · have hEarlier : ¬ s.arrival < rules.earliestArrival s := by
      unfold earliestArrival
      cases hShift : s.arrival.shift? rules.earlyLimit.neg with
      | none => exact fun h => h.elim (Int.lt_irrefl _) fun h => Nat.lt_irrefl _ h.2
      | some bound => exact Instant.not_lt_shift? hs hLimit hShift
    exact if_neg hEarlier

/-- From the departure of a stop the clock moves to the arrival at the next one. -/
theorem step_leg (ht : t.IsOrdered) (hLimit : 0 ≤ rules.earlyLimit.nanos) {i : Nat} {a b : Stop}
    (ha : t.stops[i]? = some a) (hb : t.stops[i + 1]? = some b)
    (hAhead : disposition d b = .future) (hBehind : d.progress ≤ a.distance)
    {x : StopPrediction} (hx : x.seconds = Float.ofInt (scheduledSeconds a b)) :
    Walk.step d ⟨a.departure, Measure.zero⟩ (rules.leg d a b x) =
      some (.arrival b b.arrival x.source .future, ⟨b.arrival, Measure.zero⟩) := by
  have hNonneg := ht.scheduledSeconds_nonneg ha hb
  have hAdvance := WholeNumber.advance_whole hNonneg (ht.scheduledSeconds_lt ha hb)
  have hReached :
      a.departure.shiftSeconds? ((scheduledSeconds a b).toNat : Int) = some b.arrival := by
    rw [Int.toNat_of_nonneg hNonneg]
    exact ht.shiftSeconds?_scheduled ha hb
  have hPart : partLeft d a b = none := if_pos hBehind
  obtain ⟨bound, hBound, hLeg⟩ : ∃ bound,
      (bound = none ∨ bound = some (rules.earliestArrival b)) ∧
      rules.leg d a b x =
        ⟨b, x.source, .ahead (Float.ofInt (scheduledSeconds a b)) none bound⟩ := by
    unfold leg
    rw [hAhead, hPart, hx]
    dsimp only
    split
    · exact ⟨_, .inr rfl, rfl⟩
    · exact ⟨_, .inl rfl, rfl⟩
  have hArrival := notBefore_arrival hLimit (ht.whole b (List.mem_of_getElem? hb)).1 bound hBound
  rw [hLeg, Walk.step]
  dsimp only
  rw [hAdvance]
  dsimp only
  rw [hReached, Option.map_some, hArrival]

/-- Up to the first stop at which the vehicle is scheduled to wait, every stop is reported on
schedule. -/
theorem run_legs (ht : t.IsOrdered) (hLimit : 0 ≤ rules.earlyLimit.nanos) (hd : d.OnTime t seed)
    {xs : List StopPrediction} {last hi : Nat} (hScheduled : ∀ x ∈ xs, x.Scheduled t.stops) :
    ∀ {lo : Nat} {origin : Stop}, Reaches last lo xs hi → t.stops[lo]? = some origin →
      ∀ {j : Nat} {u : StopUpdate} {s : Stop},
        (Walk.run d ⟨origin.departure, Measure.zero⟩ (rules.legs d t.stops xs)).1[j]? = some u →
        t.stops[lo + 1 + j]? = some s →
        (∀ w ∈ (t.stops.drop (lo + 1)).take j, w.arrival = w.departure) →
        u.OnSchedule s := by
  induction xs with
  | nil => exact fun _ _ _ _ _ hu => nomatch hu
  | cons x rest ih =>
    intro lo origin hReaches hOrigin j u s hu hs hNoWait
    obtain ⟨hPlace, hRest⟩ := hReaches
    rw [legs] at hu
    split at hRest
    · rw [if_pos ‹_›] at hu
      cases hu
    · rename_i hPair
      have hFrom : x.origin = lo := congrArg Prod.fst hPlace
      have hTo : x.target = lo + 1 := congrArg Prod.snd hPlace
      rcases hScheduled x (List.mem_cons_self ..) with hMarker | ⟨a, b, ha, hb, hx⟩
      · exact absurd hMarker hPair
      · rw [if_neg hPair, ha, hb] at hu
        dsimp only at hu
        rw [hFrom, hOrigin] at ha
        rw [hTo] at hb
        cases ha
        rw [Walk.run, step_leg ht hLimit hOrigin hb (hd.future hb)
          (hd.progress_le hOrigin) hx] at hu
        dsimp only at hu
        cases j with
        | zero =>
          rw [Nat.add_zero, hb] at hs
          cases hs
          cases hu
          exact StopUpdate.onSchedule_arrival _ _ _
        | succ j =>
          -- the clock goes on from the arrival, which is the departure
          obtain ⟨hLt, hAt⟩ := List.getElem?_eq_some_iff.1 hb
          rw [List.drop_eq_getElem_cons hLt, hAt, List.take_succ_cons] at hNoWait
          have hNow : b.arrival = b.departure := hNoWait b (List.mem_cons_self ..)
          rw [List.getElem?_cons_succ, hNow] at hu
          rw [Nat.add_comm j, ← Nat.add_assoc] at hs
          exact ih (fun y hy => hScheduled y (List.mem_cons_of_mem _ hy)) hRest hb hu hs
            fun w hw => hNoWait w (List.mem_cons_of_mem _ hw)

/-- A vehicle on time opens at the first stop, as scheduled. -/
theorem openWalk_opening (hd : d.OnTime t seed) {first : Stop} (hFirst : t.stops.head? = some first)
    {x : StopPrediction} (rest : List StopPrediction) (hx : x.origin = 0) :
    ∃ u, openWalk d ⟨seed, Measure.zero⟩ (opening d t.stops (x :: rest)) =
        some ([u], ⟨first.departure, Measure.zero⟩) ∧ u.OnSchedule first := by
  have hOpening : opening d t.stops (x :: rest) =
      .origin first x.source (disposition d first) := by
    unfold opening
    dsimp only [List.head?_cons]
    rw [if_pos hx, hFirst]
    dsimp only
    split
    · rename_i hPast
      exact absurd hPast (hd.origin first hFirst).1
    · rfl
  have hDepart : d.observedAt.max seed ≤ first.departure := by
    unfold Instant.max
    split
    · exact (hd.time first hFirst).2
    · exact (hd.time first hFirst).1
  rw [hOpening, openWalk, Walk.origin]
  dsimp only
  rw [if_pos hDepart]
  exact ⟨_, rfl, Instant.since_self _, rfl, rfl⟩

/-- An update that leads on from a stop of the trip is about the stops from there on. -/
theorem visit_of_stopUpdates {p : TripPrediction} {lo hi : Nat} (hHi : hi < p.trip.stops.length)
    (hReaches : Reaches (p.trip.stops.length - 1) lo p.stops hi) {j : Nat} {u : StopUpdate}
    (hu : (rules.stopUpdates p seed).1[j]? = some u) :
    ∃ s, p.trip.stops[lo + j]? = some s ∧ u.visit = s.visit := by
  obtain ⟨more, hEq⟩ := (visits_stopUpdates rules seed hHi hReaches).1
  have hPlace : ((rules.stopUpdates p seed).1.map StopUpdate.visit)[j]? = some u.visit := by
    rw [List.getElem?_map, hu]
    rfl
  have hRange :
      (((p.trip.stops.drop lo).take (hi + 1 - lo)).map Stop.visit)[j]? = some u.visit := by
    rw [← hEq, List.getElem?_append_left (List.getElem?_eq_some_iff.1 hPlace).1, hPlace]
  rw [List.getElem?_map] at hRange
  obtain ⟨s, hs, hVisit⟩ := Option.map_eq_some_iff.1 hRange
  rw [List.getElem?_take] at hs
  split at hs
  · rw [List.getElem?_drop] at hs
    exact ⟨s, hs, hVisit.symm⟩
  · cases hs

/-- The update of a trip that a vehicle on time has before it. -/
theorem stopUpdates_onSchedule {p : TripPrediction} (ht : p.trip.IsOrdered)
    (hLimit : 0 ≤ rules.earlyLimit.nanos) (hd : p.deviation.OnTime p.trip seed)
    {hi : Nat} (hHi : hi < p.trip.stops.length)
    (hReaches : Reaches (p.trip.stops.length - 1) 0 p.stops hi)
    (hScheduled : ∀ x ∈ p.stops, x.Scheduled p.trip.stops) {j : Nat} {u : StopUpdate}
    (hu : (rules.stopUpdates p seed).1[j]? = some u) :
    ∃ s, p.trip.stops[j]? = some s ∧ u.visit = s.visit ∧
      ((∀ w ∈ (p.trip.stops.take j).tail, w.arrival = w.departure) → u.OnSchedule s) := by
  have hTwo := ht.twoStops
  obtain ⟨s, hs, hVisit⟩ := visit_of_stopUpdates hHi hReaches hu
  rw [Nat.zero_add] at hs
  refine ⟨s, hs, hVisit, fun hNoWait => ?_⟩
  obtain ⟨first, hFirst⟩ : ∃ first, p.trip.stops.head? = some first := by
    rw [List.head?_eq_getElem?]
    exact ⟨_, List.getElem?_eq_getElem (by omega)⟩
  cases hStops : p.stops with
  | nil =>
    -- the first stop is not the last one
    rw [hStops] at hReaches
    have := hReaches.1
    omega
  | cons x rest =>
    rw [hStops] at hReaches hScheduled
    obtain ⟨v, hOpen, hv⟩ := openWalk_opening hd hFirst rest (congrArg Prod.fst hReaches.1)
    unfold stopUpdates at hu
    rw [hStops] at hu
    dsimp only at hu
    rw [hOpen] at hu
    dsimp only at hu
    cases j with
    | zero =>
      rw [← List.head?_eq_getElem?, hFirst] at hs
      cases hs
      cases hu
      exact hv
    | succ j =>
      rw [List.singleton_append, List.getElem?_cons_succ] at hu
      rw [← List.drop_one, List.drop_take] at hNoWait
      rw [List.head?_eq_getElem?] at hFirst
      rw [Nat.add_comm] at hs
      exact run_legs ht hLimit hd hScheduled hReaches hFirst hu hs hNoWait

end UpdateRules

/-- A vehicle on time has the whole trip before it. -/
theorem TripPredictor.firstReported_eq_zero {trust : Trust} {horizon : Span} {t : Trip}
    {d : Deviation} {seed cutoff : Instant} (ht : t.IsOrdered) (hd : d.OnTime t seed) :
    (build trust .empty horizon t).firstReported d cutoff = 0 := by
  have hTiles : Tiles t.stops 0 (build trust .empty horizon t).segments (t.stops.length - 1) :=
    tiles_build horizon t
  have hPairs : ∀ s ∈ (build trust .empty horizon t).segments, s.IsPair :=
    fun s hs => isPair_of_mem_build hs
  unfold firstReported reached
  cases hSegments : (build trust .empty horizon t).segments with
  | nil =>
    rw [hSegments] at hTiles
    have hEnd : 0 = t.stops.length - 1 := hTiles
    have hTwo := ht.twoStops
    omega
  | cons s rest =>
    rw [hSegments] at hTiles hPairs
    obtain ⟨hFirst, hPlace, -⟩ := hTiles
    obtain ⟨a, b, hStops, -, hb⟩ := (hPairs s (List.mem_cons_self ..)).stops_eq (hFirst ▸ hPlace)
    have hLast : s.lastStop = b := by simp [Segment.lastStop, hStops]
    have hStays : ¬ isBehind d cutoff s = true := by
      have hFuture : Disposition.classify d.progress b.distance = .future :=
        hd.future hb
      simp [isBehind, hLast, hFuture]
    rw [List.dropWhile_cons_of_neg hStays]
    exact hFirst

-- ---------------------------------------------------------------------------
-- Batches
-- ---------------------------------------------------------------------------

namespace UpdateRules

/-- The trips of a batch with the clocks that their updates start from: for the first trip its
observation, for each other where the clock of the trip before it ended. -/
def starts (rules : UpdateRules) (clock : Option Instant) :
    List TripPrediction → List (TripPrediction × Instant)
  | [] => []
  | p :: rest =>
    let seed := clock.getD p.deviation.observedAt
    (p, seed) :: rules.starts (some (rules.build p seed).2) rest

theorem buildFrom_eq_map_starts (rules : UpdateRules) (trips : List TripPrediction) :
    ∀ clock, rules.buildFrom clock trips =
      (rules.starts clock trips).map fun x => (rules.build x.1 x.2).1 := by
  induction trips with
  | nil => exact fun _ => rfl
  | cons p rest ih =>
    intro clock
    rw [starts, List.map_cons, ← ih]
    rfl

theorem mem_of_mem_starts {rules : UpdateRules} {trips : List TripPrediction}
    {x : TripPrediction × Instant} :
    ∀ {clock}, x ∈ rules.starts clock trips → x.1 ∈ trips := by
  induction trips with
  | nil => exact fun h => absurd h List.not_mem_nil
  | cons p rest ih =>
    intro clock h
    rw [starts] at h
    rcases List.mem_cons.1 h with rfl | h
    · exact List.mem_cons_self ..
    · exact List.mem_cons_of_mem _ (ih h)

end UpdateRules

namespace Engine

/-- Without models nothing is awaited. -/
theorem Plan.Makes.pending_eq_zero {c : Plan} {p : TripPrediction} (h : c.Makes p)
    (hModels : c.models = .empty) : p.pending = 0 := by
  rw [← p.length_awaitedKeys, List.length_eq_zero_iff, List.eq_nil_iff_forall_not_mem]
  intro key hKey
  obtain ⟨m, hm, -⟩ := h.model_of_awaited hKey
  rw [hModels] at hm
  exact absurd hm List.not_mem_nil

theorem Plan.Serves.pending_eq_zero {c : Plan} {deviations : List Deviation} {b : Batch}
    (h : c.Serves deviations b) (hModels : c.models = .empty) : b.pending = 0 :=
  Batch.pending_eq_zero_iff.2 fun p hp => (h p hp).2.pending_eq_zero hModels

/-- What is published of a trip that is predicted without models, for a vehicle on time. -/
theorem Plan.Makes.onSchedule {c : Plan} {p : TripPrediction} (h : c.Makes p)
    (hModels : c.models = .empty) (hLimit : 0 ≤ c.updateRules.earlyLimit.nanos) (seed : Instant) :
    ∃ trip, c.timetable.trip p.deviation.tripKey = .ok trip ∧
      (trip.IsOrdered → p.deviation.OnTime trip seed → ∀ j u,
        (c.updateRules.build p seed).1.stops[j]? = some u →
        ∃ s, trip.stops[j]? = some s ∧ u.visit = s.visit ∧
          ((∀ w ∈ (trip.stops.take j).tail, w.arrival = w.departure) → u.OnSchedule s)) := by
  obtain ⟨trip, store, g, hTrip, hPredict, hp⟩ := h
  refine ⟨trip, hTrip, fun ht hd j u hu => ?_⟩
  have hPredictor : c.predictor trip = .build c.settings.trust .empty c.horizon trip := by
    rw [Plan.predictor, hModels]
  rw [hPredictor] at hPredict
  generalize hBuilt : TripPredictor.build c.settings.trust .empty c.horizon trip = predictor
    at hPredict
  have hSame : predictor.trip = trip := by
    rw [← hBuilt]
    rfl
  have hTiles : Tiles predictor.trip.stops 0 predictor.segments predictor.lastIndex := by
    rw [← hBuilt]
    exact TripPredictor.tiles_build c.horizon trip
  obtain ⟨cutoff, hCutoff⟩ := TripPredictor.exists_cutoff_of_predict hPredict
  have hOwn : p.trip = trip := by
    rw [hp, TripPredictor.predict_trip hPredict, hSame]
  have hReaches := TripPredictor.reaches_predict hTiles hCutoff hPredict
  have hEnd := TripPredictor.lastReported_le p.deviation cutoff hTiles
  have hFirst : predictor.firstReported p.deviation cutoff = 0 := by
    rw [← hBuilt]
    exact TripPredictor.firstReported_eq_zero ht hd
  have hScheduled : ∀ x ∈ p.stops, x.Scheduled trip.stops := by
    rw [hp]
    rw [← hBuilt] at hPredict
    exact TripPredictor.scheduled_predict ht hPredict
  rw [hFirst, TripPredictor.lastIndex, hSame, ← hOwn, ← hp] at hReaches
  rw [TripPredictor.lastIndex, hSame] at hEnd
  rw [← hOwn] at ht hd hScheduled hEnd ⊢
  have hTwo := ht.twoStops
  exact UpdateRules.stopUpdates_onSchedule ht hLimit hd (by omega) hReaches hScheduled hu

/-- What a run without models has come to: every batch is that of a report, and what was sent are
the updates of the batches. -/
structure Unmodelled (e : Engine) (events : List Event) : Prop where
  keeps : e.Keeps
  models : e.models = .empty
  serves : ∀ b ∈ e.batches.batches, ∃ r now, .report r now ∈ events ∧ e.plan.Serves r.deviations b
  journal : e.journal =
    e.batches.batches.flatMap fun b => e.core.publish (e.updateRules.buildBatch b)

namespace Unmodelled

variable {e e' : Engine} {events : List Event}

/-- What leaves the journal, the batches and the plan alone. -/
theorem keep (h : e.Unmodelled events) (event : Event) (hPlan : e'.plan = e.plan)
    (hKeeps : e'.Keeps) (hJournal : e'.journal = e.journal)
    (hBatches : e'.batches.batches = e.batches.batches)
    (hPublish : e'.core.publish = e.core.publish) :
    e'.Unmodelled (events ++ [event]) := by
  have hModels : e'.models = e.models := congrArg Plan.models hPlan
  have hRules : e'.updateRules = e.updateRules := congrArg Plan.updateRules hPlan
  refine ⟨hKeeps, hModels.trans h.models, ?_, ?_⟩
  · rw [hBatches, hPlan]
    intro b hb
    obtain ⟨r, now, hMem, hServes⟩ := h.serves b hb
    exact ⟨r, now, List.mem_append_left _ hMem, hServes⟩
  · rw [hJournal, hBatches, hPublish, hRules]
    exact h.journal

/-- No answer is awaited. -/
theorem handleResponse (h : e.Unmodelled events) (r : InferenceResponse) (now : Instant) :
    (e.handleResponse r now).2 = e := by
  have hRefused : ∀ ref c seconds, ∃ error, e.batches.answer ref c seconds = .error error := by
    intro ref c seconds
    unfold BatchStore.answer
    cases hGet : e.batches.get? ref with
    | none => exact ⟨_, rfl⟩
    | some b =>
      dsimp only
      cases hAnswer : b.answer c seconds with
      | error error => exact ⟨error, rfl⟩
      | ok b' =>
        have hLess := Batch.pending_answer hAnswer
        obtain ⟨r', now', -, hServes⟩ := h.serves b (List.mem_of_getElem? hGet)
        have hNone := hServes.pending_eq_zero h.models
        omega
  have hApply : ∃ error, e.batches.apply r now = (.error error, e.batches) := by
    unfold BatchStore.apply
    rcases BatchStore.reading r with error | ⟨c, seconds⟩
    · exact ⟨error, rfl⟩
    · dsimp only
      rcases e.batches.find c.batch now with error | ref
      · exact ⟨error, rfl⟩
      · obtain ⟨error, hError⟩ := hRefused ref c seconds
        dsimp only
        rw [hError]
        exact ⟨error, rfl⟩
  obtain ⟨error, hError⟩ := hApply
  unfold Engine.handleResponse applyResponse
  rw [hError]

theorem handle (h : e.Unmodelled events) (event : Event) :
    (e.handle event).Unmodelled (events ++ [event]) := by
  cases event with
  | observe ts => exact h.keep _ rfl h.keeps rfl rfl rfl
  | response r now =>
    have hSame : e.handle (.response r now) = e := h.handleResponse r now
    rw [hSame]
    exact h.keep _ rfl h.keeps rfl rfl rfl
  | sweep now =>
    have hFollows := e.follows_sweep now
    have hCore := e.core_sweep now
    refine h.keep _ hFollows.plan (hFollows.keeps h.keeps) ?_ ?_ ?_
    · exact hFollows.journal.trans (List.append_nil _)
    · exact congrArg (fun c => c.batches.batches) hCore
    · show (e.sweep now).2.core.publish = _
      rw [hCore]
      rfl
  | report r now =>
    obtain ⟨sent, made, hReport⟩ := advances_handleReport h.keeps r now
    have hModels : (e.handleReport r now).2.models = e.models :=
      congrArg Plan.models hReport.follows.plan
    have hRules : (e.handleReport r now).2.updateRules = e.updateRules :=
      congrArg Plan.updateRules hReport.follows.plan
    have hSent := hReport.sent fun b hb => (hReport.serves b hb).pending_eq_zero h.models
    refine ⟨hReport.follows.keeps h.keeps, hModels.trans h.models, fun b hb => ?_, ?_⟩
    · show ∃ r' now', _ ∧ (e.handleReport r now).2.plan.Serves _ b
      rw [hReport.follows.plan]
      have hMem : b ∈ e.batches.batches ++ made := hReport.batches ▸ hb
      rcases List.mem_append.1 hMem with hOld | hNew
      · obtain ⟨r', now', hEvent, hServes⟩ := h.serves b hOld
        exact ⟨r', now', List.mem_append_left _ hEvent, hServes⟩
      · exact ⟨r, now, List.mem_append_right _ (List.mem_singleton_self _), hReport.serves b hNew⟩
    · show (e.handleReport r now).2.journal = (e.handleReport r now).2.batches.batches.flatMap
        fun b => (e.handleReport r now).2.core.publish
          ((e.handleReport r now).2.updateRules.buildBatch b)
      rw [hReport.follows.journal, hReport.batches, hReport.publish, hRules, List.flatMap_append,
        hSent, h.journal]

theorem run (more : List Event) : ∀ {e : Engine} {events : List Event}, e.Unmodelled events →
    (e.run more).Unmodelled (events ++ more) := by
  induction more with
  | nil =>
    intro e events h
    rw [List.append_nil]
    exact h
  | cons event rest ih =>
    intro e events h
    have hRest := ih (h.handle event)
    rw [List.append_assoc] at hRest
    exact hRest

theorem start {settings : EngineSettings} {timetable : Timetable} {holidays : Holidays}
    {refusedTrips : List String} {wall : Instant}
    (h : start? settings timetable .empty holidays refusedTrips wall = some e) :
    e.Unmodelled [] := by
  obtain ⟨hKeeps, -, hModels, -⟩ := keeps_start h
  unfold start? at h
  split at h
  · cases h
    exact ⟨hKeeps, hModels, fun b hb => absurd hb List.not_mem_nil, rfl⟩
  · cases h

end Unmodelled

end Engine

namespace Sample

/-- A stop at a distance along a trip, served from one second after eight to another. -/
def servedStop (id : String) (order arrives leaves : Nat) (distance : Float) (timepoint : Bool) :
    Stop :=
  ⟨id, order, 28800 + arrives, 28800 + leaves, distance, timepoint, clock arrives, clock leaves⟩

/-- A trip of which vehicles wait for a minute at the second stop. -/
def waiting : Trip := ⟨1, "t1", "R1", [servedStop "A" 1 0 0 0 false,
  servedStop "B" 2 300 360 1000 false, servedStop "C" 3 660 660 2000 false]⟩

def direct : Trip := ⟨1, "t1", "R1",
  [servedStop "A" 1 0 0 0 true, servedStop "B" 2 300 300 1000 false]⟩

/-- A trip that takes twenty minutes, and one that is due after ten. -/
def long : Trip := ⟨1, "t1", "R1",
  [servedStop "A" 1 0 0 0 false, servedStop "B" 2 1200 1200 1000 false]⟩

def due : Trip := ⟨1, "t2", "R1",
  [servedStop "B" 1 600 600 0 false, servedStop "C" 2 900 900 1000 false]⟩

/-- An engine without models that lets vehicles leave timepoints early by some seconds. -/
def unmodelled? (earlySeconds : Int) (trips : List Trip) : Option Engine :=
  Engine.start? { settings with earlySeconds := earlySeconds } (.ofList trips) .empty ⟨[]⟩ []
    (clock 0)

def unmodelled : Engine := (unmodelled? 60 [waiting]).get (by decide +kernel)

/-- Such an engine after a report on a single trip. -/
def reported? (earlySeconds : Int) (t : Trip) (d : Deviation) : Option Engine :=
  (unmodelled? earlySeconds [t]).map fun e => e.run [.report ⟨[], [d]⟩ (clock 0)]

/-- What such an engine sends about a batch of two trips, in order of service. -/
def inTurn? (x y : Trip × Deviation) : Option (List Sent) :=
  (unmodelled? 60 [x.1, y.1]).bind fun e =>
    (e.predictTrips (.start "V1" (clock 0))
      [(e.plan.predictor x.1, x.2), (e.plan.predictor y.1, y.2)]).1.toOption.map fun b =>
        e.core.publish (e.updateRules.buildBatch b)

/-- The arrival delays in messages about trips. -/
def delays (messages : List Sent) : List (String × List Int) :=
  messages.filterMap fun m =>
    match m.payload with
    | .update u => some (u.trip, u.stops.map StopUpdate.arrivalDelay)
    | _ => none

/-- What it has sent are the updates of its batches. -/
theorem journal_reported? (earlySeconds : Int) (t : Trip) (d : Deviation) :
    (reported? earlySeconds t d).map Engine.journal =
      (reported? earlySeconds t d).map fun e =>
        e.batches.batches.flatMap fun b => e.core.publish (e.updateRules.buildBatch b) := by
  unfold reported?
  cases hStart : unmodelled? earlySeconds [t] with
  | none => rfl
  | some start =>
    exact congrArg some ((Engine.Unmodelled.start hStart).run [.report ⟨[], [d]⟩ (clock 0)]).journal

end Sample

/-- Whether a trip lies ahead of a vehicle: it is ordered and leaves no stop before it has reached it,
and the vehicle is observed no later than the first departure and has not left the first stop. -/
def Trip.LiesAhead (t : Trip) (d : Deviation) : Prop :=
  t.IsOrdered ∧ (∀ s ∈ t.stops, s.arrival ≤ s.departure) ∧
    (∀ s ∈ t.stops.head?, d.observedAt ≤ s.departure ∧ UpdateRules.disposition d s ≠ .past) ∧
    ∀ s ∈ t.stops.tail, UpdateRules.disposition d s = .future

instance (t : Trip) (d : Deviation) : Decidable (t.LiesAhead d) :=
  inferInstanceAs (Decidable (_ ∧ _ ∧ _ ∧ _))

namespace Engine

/-- However long an engine without models runs, all that it sends are the updates of its batches, one
for each trip, and each trip was predicted for a deviation of a report. A vehicle that has not left
the first stop is predicted on schedule, if the clock that its update starts from leaves it the time:
the first stop is reported as scheduled, and so is each other one, up to the first at which the
vehicle is scheduled to wait. -/
theorem published_on_schedule {settings : EngineSettings} {timetable : Timetable}
    {holidays : Holidays} {refusedTrips : List String} {wall : Instant} {start : Engine}
    (hStart : start? settings timetable .empty holidays refusedTrips wall = some start)
    (hLimit : 0 ≤ settings.earlySeconds) (events : List Event) :
    let e := start.run events
    (e.journal = e.batches.batches.flatMap fun b =>
      e.core.publish ((e.updateRules.starts none b.trips).map fun x =>
        (e.updateRules.build x.1 x.2).1)) ∧
    ∀ b ∈ e.batches.batches, ∀ x ∈ e.updateRules.starts none b.trips,
      (∃ r now, .report r now ∈ events ∧ x.1.deviation ∈ r.deviations) ∧
      ∃ trip, timetable.trip x.1.deviation.tripKey = .ok trip ∧
        (trip.IsOrdered → x.1.deviation.OnTime trip x.2 → ∀ j u,
          (e.updateRules.build x.1 x.2).1.stops[j]? = some u →
          ∃ s, trip.stops[j]? = some s ∧ u.visit = s.visit ∧
            ((∀ w ∈ (trip.stops.take j).tail, w.arrival = w.departure) → u.OnSchedule s)) := by
  intro e
  obtain ⟨hKeeps, hTimetable, -, hEarly⟩ := keeps_start hStart
  obtain ⟨sent, hRun⟩ := follows_run events hKeeps
  have hState : e.Unmodelled events := (Unmodelled.start hStart).run events
  have hModels : e.plan.models = .empty := hState.models
  have hPlan : e.plan = start.plan := hRun.plan
  have hSource : e.plan.timetable = timetable := by
    rw [hPlan]
    exact hTimetable
  have hRules : 0 ≤ e.plan.updateRules.earlyLimit.nanos := by
    rw [hPlan]
    exact Span.nonneg_of_ofSeconds? hLimit hEarly
  refine ⟨?_, fun b hb x hx => ?_⟩
  · rw [hState.journal]
    congr 1
    funext b
    rw [UpdateRules.buildBatch, UpdateRules.buildFrom_eq_map_starts]
  · obtain ⟨r, now, hEvent, hServes⟩ := hState.serves b hb
    obtain ⟨hMem, hMakes⟩ := hServes x.1 (UpdateRules.mem_of_mem_starts hx)
    refine ⟨⟨r, now, hEvent, hMem⟩, ?_⟩
    rw [← hSource]
    exact hMakes.onSchedule hModels hRules x.2

/-- Up to the stop where it waits, a vehicle is predicted on schedule. -/
theorem published_on_schedule_up_to_a_wait :
    let e := Sample.unmodelled.run [.report ⟨[], [Sample.deviation]⟩ (Sample.clock 0)]
    Sample.waiting.IsOrdered ∧
      ∃ b ∈ e.batches.batches, ∃ x ∈ e.updateRules.starts none b.trips,
        x.1.deviation.OnTime Sample.waiting x.2 ∧
        ∃ u s, (e.updateRules.build x.1 x.2).1.stops[1]? = some u ∧
          Sample.waiting.stops[1]? = some s ∧ u.OnSchedule s := by
  intro e
  have hStart : Sample.unmodelled? 60 [Sample.waiting] = some Sample.unmodelled :=
    (Option.some_get _).symm
  have hOrdered : Sample.waiting.IsOrdered := by decide +kernel
  obtain ⟨-, hPublished⟩ := published_on_schedule hStart (by decide)
    [.report ⟨[], [Sample.deviation]⟩ (Sample.clock 0)]
  obtain ⟨x, hx⟩ : ∃ x,
      (e.batches.batches.flatMap fun b => e.updateRules.starts none b.trips)[0]? = some x :=
    Option.isSome_iff_exists.1 (by decide +kernel)
  have hFacts : ((e.batches.batches.flatMap fun b => e.updateRules.starts none b.trips)[0]?).map
      (fun x => (decide (x.1.deviation.OnTime Sample.waiting x.2),
        (Timetable.ofList [Sample.waiting]).trip x.1.deviation.tripKey,
        (e.updateRules.build x.1 x.2).1.stops[1]?.isSome)) =
      some (true, .ok Sample.waiting, true) := by
    decide +kernel
  rw [hx, Option.map_some, Option.some_inj, Prod.mk.injEq, Prod.mk.injEq] at hFacts
  obtain ⟨hTime, hKey, hReported⟩ := hFacts
  have hOnTime : x.1.deviation.OnTime Sample.waiting x.2 := of_decide_eq_true hTime
  obtain ⟨u, hu⟩ := Option.isSome_iff_exists.1 hReported
  obtain ⟨b, hb, hMem⟩ := List.mem_flatMap.1 (List.mem_of_getElem? hx)
  obtain ⟨-, trip, hTrip, hUpdate⟩ := hPublished b hb x hMem
  cases hTrip.symm.trans hKey
  obtain ⟨s, hs, -, hOnSchedule⟩ := hUpdate hOrdered hOnTime 1 u hu
  exact ⟨hOrdered, b, hb, x, hMem, hOnTime, u, s, hu, hs, hOnSchedule (by decide +kernel)⟩

/-- Trips that lie ahead are predicted off schedule after a stop where the vehicle waits, when it
stands a little past the first stop, when it has to come late to a timepoint, and when the trip
before ends too late. -/
theorem off_schedule :
    let near : Deviation := { Sample.deviation with progress := 1 }
    let next : Deviation := { Sample.deviation with trip := "t2" }
    (Sample.waiting.LiesAhead Sample.deviation ∧
      ((Sample.reported? 60 Sample.waiting Sample.deviation).map journal).map Sample.delays =
        some [("t1", [0, 0, -60])]) ∧
    (Sample.direct.LiesAhead near ∧
      ((Sample.reported? 60 Sample.direct near).map journal).map Sample.delays =
        some [("t1", [0, -1])]) ∧
    (Sample.direct.LiesAhead Sample.deviation ∧
      ((Sample.reported? (-60) Sample.direct Sample.deviation).map journal).map Sample.delays =
        some [("t1", [0, 60])]) ∧
    (Sample.long.LiesAhead Sample.deviation ∧ Sample.due.LiesAhead next ∧
      (Sample.inTurn? (Sample.long, Sample.deviation) (Sample.due, next)).map Sample.delays =
        some [("t1", [0, 0]), ("t2", [600, 600])]) := by
  intro near next
  simp only [Sample.journal_reported?]
  decide +kernel

end Engine

end TransitForecast
