import Mathlib.Tactic.Ring
import TransitForecast.Proofs.Coverage
import TransitForecast.Proofs.WholeNumbers

/-!
# TransitForecast — trips without models

Without models a trip is cut into its pairs of stops, and each pair is predicted to take the seconds
that the schedule gives it, from leaving the one stop to reaching the other. For a trip whose times
are whole seconds nothing is lost in floating point.

## Results

* `Instant.shiftSeconds?_since` — from one whole second the next is reached in the seconds between.
* `Trust.isPair_of_mem_segments` — the segments of a run without models.
* `TripPredictor.scheduled_predict` — the predictions of a trip without models.
-/

namespace TransitForecast

-- ---------------------------------------------------------------------------
-- Whole seconds
-- ---------------------------------------------------------------------------

namespace Instant

variable {a b t : Instant}

theorem isLeap_of_whole (h : t.nanos = 0) : t.isLeap = false := by simp [isLeap, h]

theorem ofPosition?_position (h : t.isLeap = false) : ofPosition? t.position = some t := by
  have hInside : t.nanos < 1000000000 := by simpa [isLeap] using h
  have hRange := t.inRange
  have hSecond : t.position / 1000000000 = t.second := by unfold position nanosPerSecond; omega
  have hRest : (t.position % 1000000000).toNat = t.nanos := by
    unfold position nanosPerSecond
    omega
  unfold ofPosition?
  rw [dif_pos (by rw [hSecond]; exact hRange)]
  simp only [hSecond, hRest]

theorem since_self (t : Instant) : (t.since t).seconds = 0 := by simp [since, Span.seconds]

/-- Between positions that lie whole seconds apart are that many seconds. -/
theorem seconds_since_of_position {seconds : Int} (ha : a.isLeap = false) (hb : b.isLeap = false)
    (h : b.position = a.position + seconds * nanosPerSecond) : (b.since a).seconds = seconds := by
  have hNanos : (b.since a).nanos = seconds * nanosPerSecond := by
    rw [since_ordinary hb ha, h, add_sub_cancel_left]
  rw [Span.seconds, hNanos]
  exact Int.mul_tdiv_cancel _ (by decide)

/-- Between whole seconds lies the number of seconds between them. -/
theorem seconds_since (ha : a.nanos = 0) (hb : b.nanos = 0) :
    (b.since a).seconds = b.second - a.second := by
  refine seconds_since_of_position (isLeap_of_whole ha) (isLeap_of_whole hb) ?_
  unfold position
  rw [ha, hb]
  ring

theorem second_le (h : a ≤ b) : a.second ≤ b.second := by
  by_contra hLater
  exact h (.inl (by omega))

/-- From one whole second another is reached in the seconds between them. -/
theorem shiftSeconds?_since (ha : a.nanos = 0) (hb : b.nanos = 0) :
    a.shiftSeconds? (b.since a).seconds = some b := by
  have hRange := a.inRange
  have hRange' := b.inRange
  have hSpan : Span.ofSeconds? (b.second - a.second) =
      some ⟨(b.second - a.second) * nanosPerSecond⟩ := by
    unfold Span.ofSeconds? Span.maxSeconds
    rw [if_pos (by omega)]
  have hEnd : a.position + (b.second - a.second) * nanosPerSecond = b.position := by
    unfold position
    rw [ha, hb]
    ring
  unfold shiftSeconds? shift?
  rw [seconds_since ha hb, hSpan, Option.bind_some, isLeap_of_whole ha]
  show ofPosition? (a.position + (b.second - a.second) * nanosPerSecond) = some b
  rw [hEnd]
  exact ofPosition?_position (isLeap_of_whole hb)

/-- A shift backward does not go forward. -/
theorem not_lt_shift? {limit : Span} (ht : t.nanos = 0) (hLimit : 0 ≤ limit.nanos)
    (h : t.shift? limit.neg = some a) : ¬ t < a := by
  have hBack : a.position = t.position - limit.nanos := by
    rw [position_shift? (isLeap_of_whole ht) h]
    rfl
  have hOrdinary : a.isLeap = false := isLeap_shift? (isLeap_of_whole ht) h
  have hInside : a.nanos < 1000000000 := by simpa [isLeap] using hOrdinary
  unfold position nanosPerSecond at hBack
  rw [ht] at hBack
  rintro (hSecond | ⟨hSecond, hNanos⟩)
  · omega
  · omega

end Instant

theorem Span.nonneg_of_ofSeconds? {seconds : Int} {span : Span} (hSeconds : 0 ≤ seconds)
    (h : ofSeconds? seconds = some span) : 0 ≤ span.nanos := by
  unfold ofSeconds? at h
  split at h
  · cases h
    exact Int.mul_nonneg hSeconds (by decide)
  · cases h

-- ---------------------------------------------------------------------------
-- Segments without models
-- ---------------------------------------------------------------------------

/-- Whether a segment is a pair of neighbouring stops without a model. -/
def Segment.IsPair (s : Segment) : Prop := s.model = none ∧ s.stops.length = 2

/-- Without models each pair of stops is a segment of its own. -/
theorem Trust.isPair_of_mem_segments {t : Trust} {run : List Stop} {lo : Nat} {s : Segment}
    (h : s ∈ t.segments .empty run lo) : s.IsPair := by
  have hWhole : t.wholeRunModel .empty run = none := by
    unfold wholeRunModel
    split
    · rfl
    · rfl
  unfold segments at h
  rw [hWhole] at h
  obtain ⟨found, hFound, hSome⟩ := List.mem_filterMap.1 h
  obtain ⟨i, hi, rfl⟩ := List.mem_mapIdx.1 hFound
  obtain ⟨s', hs', hModel, hStops, -⟩ :=
    t.segment?_eq_some none (Nat.le_refl [(stopPairs run)[i].1, (stopPairs run)[i].2].length)
      (lo + i)
  have hSame : s = s' := Option.some_inj.1 (hSome.symm.trans hs')
  subst hSame
  exact ⟨hModel, by rw [hStops]; rfl⟩

theorem TripPredictor.isPair_of_mem_build {trust : Trust} {horizon : Span} {trip : Trip}
    {s : Segment} (h : s ∈ (build trust .empty horizon trip).segments) : s.IsPair := by
  obtain ⟨run, -, hSegment⟩ := List.mem_flatMap.1 h
  exact Trust.isPair_of_mem_segments hSegment

/-- A segment stands where its first position says. -/
theorem Tiles.prefix_drop {stops : List Stop} {hi : Nat} {segments : List Segment} :
    ∀ {lo : Nat}, Tiles stops lo segments hi →
      ∀ s ∈ segments, s.stops <+: stops.drop s.firstIndex := by
  induction segments with
  | nil => exact fun _ _ hs => absurd hs List.not_mem_nil
  | cons x rest ih =>
    rintro lo ⟨hFirst, hStops, hRest⟩ s hs
    rcases List.mem_cons.1 hs with rfl | hs
    · rw [hFirst]
      exact hStops
    · exact ih hRest s hs

/-- The stops of a pair. -/
theorem Segment.IsPair.stops_eq {s : Segment} (h : s.IsPair) {stops : List Stop}
    (hPlace : s.stops <+: stops.drop s.firstIndex) :
    ∃ a b, s.stops = [a, b] ∧ stops[s.firstIndex]? = some a ∧
      stops[s.firstIndex + 1]? = some b := by
  obtain ⟨a, b, hStops⟩ := List.length_eq_two.1 h.2
  have hFirst := Tiles.getElem?_stops hPlace (i := 0) (by rw [h.2]; omega)
  have hSecond := Tiles.getElem?_stops hPlace (i := 1) (by rw [h.2]; omega)
  rw [hStops] at hFirst hSecond
  exact ⟨a, b, hStops, hFirst.symm, hSecond.symm⟩

/-- Whether a stop prediction is the scheduled time of its pair of stops, or the end marker. -/
def StopPrediction.Scheduled (stops : List Stop) (x : StopPrediction) : Prop :=
  x.source = .endOfPredictions ∨ ∃ a b, stops[x.origin]? = some a ∧ stops[x.target]? = some b ∧
    x.seconds = Float.ofInt (scheduledSeconds a b)

/-- Whether a trip leads somewhere, keeps to whole seconds, and reaches no stop before it has left
the one before. -/
structure Trip.IsOrdered (t : Trip) : Prop where
  twoStops : 2 ≤ t.stops.length
  whole : ∀ s ∈ t.stops, s.arrival.nanos = 0 ∧ s.departure.nanos = 0
  forward : ∀ p ∈ stopPairs t.stops, p.1.departure ≤ p.2.arrival

instance (t : Trip) : Decidable t.IsOrdered :=
  decidable_of_iff (2 ≤ t.stops.length ∧
    (∀ s ∈ t.stops, s.arrival.nanos = 0 ∧ s.departure.nanos = 0) ∧
    ∀ p ∈ stopPairs t.stops, p.1.departure ≤ p.2.arrival)
    ⟨fun h => ⟨h.1, h.2.1, h.2.2⟩, fun h => ⟨h.twoStops, h.whole, h.forward⟩⟩

section Pairs

variable {t : Trip} {i : Nat} {a b : Stop} (ht : t.IsOrdered) (ha : t.stops[i]? = some a)
  (hb : t.stops[i + 1]? = some b)
include ht ha hb

/-- From leaving a stop to reaching the next it takes the scheduled seconds. -/
theorem Trip.IsOrdered.shiftSeconds?_scheduled :
    a.departure.shiftSeconds? (scheduledSeconds a b) = some b.arrival :=
  Instant.shiftSeconds?_since (ht.whole a (List.mem_of_getElem? ha)).2
    (ht.whole b (List.mem_of_getElem? hb)).1

theorem Trip.IsOrdered.scheduledSeconds_nonneg : 0 ≤ scheduledSeconds a b := by
  have hSeconds := Instant.seconds_since (ht.whole a (List.mem_of_getElem? ha)).2
    (ht.whole b (List.mem_of_getElem? hb)).1
  have hPair : (a, b) ∈ stopPairs t.stops := by
    refine List.mem_of_getElem? (i := i) ?_
    rw [stopPairs, List.getElem?_zip_eq_some, List.getElem?_tail]
    exact ⟨ha, hb⟩
  have hForward : a.departure.second ≤ b.arrival.second :=
    Instant.second_le (ht.forward _ hPair)
  unfold scheduledSeconds
  omega

theorem Trip.IsOrdered.scheduledSeconds_lt : scheduledSeconds a b < 2 ^ 51 := by
  have hSeconds := Instant.seconds_since (ht.whole a (List.mem_of_getElem? ha)).2
    (ht.whole b (List.mem_of_getElem? hb)).1
  have hFrom := a.departure.inRange
  have hTo := b.arrival.inRange
  unfold scheduledSeconds
  omega

end Pairs

/-- A pair is predicted to take its scheduled time. -/
theorem Segment.IsPair.scheduled_of_mem_allocate {s : Segment} (h : s.IsPair) {t : Trip}
    (ht : t.IsOrdered) (hPlace : s.stops <+: t.stops.drop s.firstIndex) {complete : Bool}
    {x : StopPrediction} (hx : x ∈ s.allocate s.statistical.1 s.statistical.2 complete) :
    x.Scheduled t.stops := by
  obtain ⟨a, b, hStops, ha, hb⟩ := h.stops_eq hPlace
  have hTime : s.statistical.1 = Float.ofInt (scheduledSeconds a b) := by
    have hEnds : s.firstStop = a ∧ s.lastStop = b := by
      simp [firstStop, lastStop, hStops]
    unfold statistical
    rw [h.1]
    show s.scheduled = _
    rw [scheduled, hEnds.1, hEnds.2]
  have hSplit : Allocation.split (pairSeconds s.stops) s.statistical.1 =
      [Float.ofInt (scheduledSeconds a b)] := by
    rw [hTime, hStops]
    exact WholeNumber.split_single (ht.scheduledSeconds_nonneg ha hb) (ht.scheduledSeconds_lt ha hb)
  unfold allocate at hx
  rw [hSplit] at hx
  cases List.mem_singleton.1 hx
  exact .inr ⟨a, b, ha, hb, rfl⟩

namespace TripPredictor

variable {calendar : ServiceCalendar} {d : Deviation}

/-- The stop predictions of a trip are those of its segments, or the end marker. -/
theorem mem_stops_predict {p : TripPredictor} {store : ObservedTransitions} {g : Progress}
    (h : p.predict calendar store d = .ok g) : ∀ x ∈ g.prediction.stops,
      x.source = .endOfPredictions ∨
        ∃ s ∈ p.segments, ∃ complete, x ∈ s.allocate s.statistical.1 s.statistical.2 complete := by
  refine predict_induction (P := fun g => ∀ x ∈ g.prediction.stops, x.source = .endOfPredictions ∨
      ∃ s ∈ p.segments, ∃ complete, x ∈ s.allocate s.statistical.1 s.statistical.2 complete)
    nofun (fun {acc g s} hs hOld hAdd x hx => ?_) (fun {acc s} _ hOld x hx => ?_) h
  · obtain ⟨complete, hAdded⟩ := stops_addSegment hAdd
    rw [hAdded] at hx
    rcases List.mem_append.1 hx with hBefore | hOwn
    · exact hOld x hBefore
    · exact .inr ⟨s, hs, complete, hOwn⟩
  · rcases List.mem_append.1 hx with hBefore | hMarker
    · exact hOld x hBefore
    · cases List.mem_singleton.1 hMarker
      exact .inl rfl

/-- Without models a trip is predicted by its schedule. -/
theorem scheduled_predict {trust : Trust} {horizon : Span} {trip : Trip} (ht : trip.IsOrdered)
    {store : ObservedTransitions} {g : Progress}
    (h : (build trust .empty horizon trip).predict calendar store d = .ok g) :
    ∀ x ∈ g.prediction.stops, x.Scheduled trip.stops := by
  intro x hx
  rcases mem_stops_predict h x hx with hMarker | ⟨s, hs, complete, hOwn⟩
  · exact .inl hMarker
  · exact (isPair_of_mem_build hs).scheduled_of_mem_allocate ht
      ((tiles_build horizon trip).prefix_drop s hs) hOwn

end TripPredictor

end TransitForecast
