import TransitForecast.Proofs.Awaiting

/-!
# TransitForecast — the segments that a prediction goes through

A prediction skips the segments behind the vehicle and goes through the others up to the first that
departs when the horizon ends, or later. Of those it goes through, the ones that need an inference
have the features of their stops built, which takes a date in the zone of the agency and looks up
observed transitions. So a trip is predicted unless the horizon has no end, or there is no such date
where one is needed.

## Results

* `TripPredictor.predict_eq_walk`    — which segments a prediction goes through.
* `TripPredictor.walk_eq_foldlM`     — what it makes of them, and where the end marker is left.
* `TripPredictor.exists_predict_iff` — when a trip is predicted; otherwise predicting it overflows.
-/

namespace TransitForecast

-- ---------------------------------------------------------------------------
-- Look-ups
-- ---------------------------------------------------------------------------

/-- A stop pair and the time for which it is looked up. -/
abbrev Lookup := StopPair × Instant

/-- The look-ups for the features of a run. -/
def Features.lookups (d : Deviation) (run : List Stop) : List Lookup :=
  (stopPairs run).map fun pair => ((pair.1.id, pair.2.id), d.observedAt)

namespace Segment

variable {s : Segment} {d : Deviation}

/-- The look-ups of a segment. -/
def lookups (d : Deviation) (s : Segment) : List Lookup :=
  if s.needsInference d then Features.lookups d s.stops else []

/-- A segment that needs an inference has a stop pair to look up, and no other looks up any. -/
theorem lookups_eq_nil_iff : s.lookups d = [] ↔ s.needsInference d = false := by
  unfold lookups Features.lookups
  cases hNeeds : s.needsInference d with
  | false => simp
  | true =>
    have hLength := stopPairs_length s.stops
    have hStops := s.twoStops
    rw [if_pos rfl, List.map_eq_nil_iff, ← List.length_eq_zero_iff]
    constructor
    · omega
    · nofun

end Segment

namespace TripPredictor

variable {calendar : ServiceCalendar} {d : Deviation} {cutoff : Instant} {p : TripPredictor}

-- ---------------------------------------------------------------------------
-- From the vehicle to the horizon
-- ---------------------------------------------------------------------------

/-- Whether a segment departs before the horizon ends and lies behind the vehicle. -/
def isBehind (d : Deviation) (cutoff : Instant) (s : Segment) : Bool :=
  !decide (cutoff ≤ s.firstStop.departure) &&
    decide (Disposition.classify d.progress s.lastStop.distance = .past)

/-- Whether a segment departs when the horizon ends or later. -/
def isBeyond (cutoff : Instant) (s : Segment) : Bool := decide (cutoff ≤ s.firstStop.departure)

/-- The segments from the first one on that is not behind the vehicle, or departs too late. -/
def reached (p : TripPredictor) (d : Deviation) (cutoff : Instant) : List Segment :=
  p.segments.dropWhile (isBehind d cutoff)

/-- A segment that a prediction goes through is one of its predictor. -/
theorem mem_segments_of_reached {s : Segment} (h : s ∈ p.reached d cutoff) : s ∈ p.segments :=
  (List.dropWhile_sublist _).subset h

/-- The segments from the first one on that is not behind the vehicle, up to the first that departs
when the horizon ends or later. -/
def inTime (d : Deviation) (cutoff : Instant) (segments : List Segment) : List Segment :=
  (segments.dropWhile (isBehind d cutoff)).takeWhile fun s => !isBeyond cutoff s

/-- Segments behind the vehicle are skipped. -/
theorem walk_eq_walk_dropWhile (acc : Progress) (segments : List Segment) :
    walk calendar d cutoff false acc segments =
      walk calendar d cutoff true acc (segments.dropWhile (isBehind d cutoff)) := by
  induction segments with
  | nil => rfl
  | cons s rest ih =>
    rw [List.dropWhile_cons, walk]
    by_cases hBeyond : cutoff ≤ s.firstStop.departure
    · have hStays : ¬ isBehind d cutoff s = true := by simp [isBehind, hBeyond]
      rw [if_pos hBeyond, if_neg hStays, walk, if_pos hBeyond]
    · rw [if_neg hBeyond]
      by_cases hPast : Disposition.classify d.progress s.lastStop.distance = .past
      · have hSkipped : isBehind d cutoff s = true := by simp [isBehind, hBeyond, hPast]
        rw [if_pos (by simp [hPast]), if_pos hSkipped, ih]
      · have hStays : ¬ isBehind d cutoff s = true := by simp [isBehind, hPast]
        rw [if_neg (by simp [hPast]), if_neg hStays, walk, if_neg hBeyond, if_neg (by simp)]

/-- What a prediction is, when the end of the horizon exists. -/
theorem predict_eq_walk (store : ObservedTransitions) (hCutoff : p.cutoff? d = some cutoff) :
    p.predict calendar store d =
      walk calendar d cutoff true ⟨.start d p.trip, [], store⟩ (p.reached d cutoff) := by
  rw [predict, hCutoff]
  exact walk_eq_walk_dropWhile _ _

/-- Leaves the end marker for a segment that departs too late, if there is one. -/
def Progress.endAt (g : Progress) : Option Segment → Progress
  | none => g
  | some s => { g with prediction := g.prediction.push (.ending s.firstIndex) }

/-- Segments are added up to the first that departs when the horizon ends or later. It leaves the
marker. -/
theorem walk_eq_foldlM (segments : List Segment) : ∀ acc : Progress,
    walk calendar d cutoff true acc segments =
      ((segments.takeWhile fun s => !isBeyond cutoff s).foldlM (addSegment calendar d) acc).map
        fun added => added.endAt (segments.find? (isBeyond cutoff)) := by
  induction segments with
  | nil => exact fun _ => rfl
  | cons s rest ih =>
    intro acc
    rw [walk, List.find?_cons, List.takeWhile_cons]
    by_cases hBeyond : cutoff ≤ s.firstStop.departure
    · rw [if_pos hBeyond, isBeyond, decide_eq_true hBeyond]
      rfl
    · rw [if_neg hBeyond, if_neg (by simp), isBeyond, decide_eq_false hBeyond,
        if_pos (show (!false) = true from rfl), List.foldlM_cons]
      cases addSegment calendar d acc s with
      | error halt => rfl
      | ok next => exact ih next

/-- What holds at first and is kept by every segment holds once they are added. -/
theorem foldlM_induction {P : Progress → Prop} {segments : List Segment}
    (hKeeps : ∀ {acc next : Progress} {s : Segment}, s ∈ segments → P acc →
      addSegment calendar d acc s = .ok next → P next) :
    ∀ {acc g : Progress}, P acc → segments.foldlM (addSegment calendar d) acc = .ok g → P g := by
  induction segments with
  | nil =>
    intro acc g hFirst h
    cases h
    exact hFirst
  | cons s rest ih =>
    intro acc g hFirst h
    rw [List.foldlM_cons] at h
    cases hNext : addSegment calendar d acc s with
    | error halt =>
      rw [hNext] at h
      cases h
    | ok next =>
      rw [hNext] at h
      exact ih (fun hs => hKeeps (List.mem_cons_of_mem _ hs))
        (hKeeps List.mem_cons_self hFirst hNext) h

/-- A prediction is what its segments in time add, with an end marker or without. -/
theorem predict_eq_foldlM (store : ObservedTransitions) (hCutoff : p.cutoff? d = some cutoff) :
    p.predict calendar store d =
      ((inTime d cutoff p.segments).foldlM (addSegment calendar d)
        ⟨.start d p.trip, [], store⟩).map
          fun added => added.endAt ((p.reached d cutoff).find? (isBeyond cutoff)) := by
  rw [predict_eq_walk store hCutoff, walk_eq_foldlM]
  rfl

theorem foldlM_of_predict {store : ObservedTransitions} {g : Progress}
    (hCutoff : p.cutoff? d = some cutoff) (h : p.predict calendar store d = .ok g) :
    ∃ added, (inTime d cutoff p.segments).foldlM (addSegment calendar d)
        ⟨.start d p.trip, [], store⟩ = .ok added ∧
      g = added.endAt ((p.reached d cutoff).find? (isBeyond cutoff)) := by
  rw [predict_eq_foldlM store hCutoff] at h
  cases hAdded : (inTime d cutoff p.segments).foldlM (addSegment calendar d)
      ⟨.start d p.trip, [], store⟩ with
  | error halt =>
    rw [hAdded] at h
    cases h
  | ok added =>
    rw [hAdded] at h
    exact ⟨added, rfl, (Except.ok.inj h).symm⟩

-- ---------------------------------------------------------------------------
-- Dates
-- ---------------------------------------------------------------------------

/-- The look-ups of a trip: those of the segments from the vehicle up to the horizon. -/
def lookups (p : TripPredictor) (d : Deviation) : List Lookup :=
  match p.cutoff? d with
  | none => []
  | some cutoff => (inTime d cutoff p.segments).flatMap (Segment.lookups d)

/-- A trip is looked up for the time of the observation. -/
theorem time_of_mem_lookups {x : Lookup} (h : x ∈ p.lookups d) : x.2 = d.observedAt := by
  unfold lookups at h
  split at h
  · cases h
  · obtain ⟨s, -, hx⟩ := List.mem_flatMap.1 h
    unfold Segment.lookups at hx
    split at hx
    · obtain ⟨pair, -, rfl⟩ := List.mem_map.1 hx
      rfl
    · cases hx

/-- Whether an observation has a date in a zone, if a trip looks anything up for it. -/
def Dated (p : TripPredictor) (zone : Zone) (d : Deviation) : Prop :=
  p.lookups d ≠ [] → (zone.wallTime? d.observedAt).isSome = true

instance (p : TripPredictor) (zone : Zone) (d : Deviation) : Decidable (p.Dated zone d) :=
  inferInstanceAs (Decidable (_ → _))

/-- Features are all that takes a date. -/
theorem exists_addSegment {s : Segment}
    (h : s.needsInference d = true → (calendar.zone.wallTime? d.observedAt).isSome = true)
    (acc : Progress) : ∃ g, addSegment calendar d acc s = .ok g := by
  obtain ⟨made, hMade⟩ : ∃ made, s.predict calendar acc.store d = .ok made := by
    cases hNeeds : s.needsInference d with
    | false => exact ⟨_, Segment.predict_of_not_needed hNeeds calendar acc.store⟩
    | true =>
      obtain ⟨wall, hWall⟩ := Option.isSome_iff_exists.1 (h hNeeds)
      obtain ⟨model, hModel⟩ := Segment.model_of_needed hNeeds
      rw [Segment.predict_of_needed hNeeds hModel,
        Features.build_of_dated hWall s.stops_ne_nil acc.store]
      exact ⟨_, rfl⟩
  unfold addSegment
  rw [hMade]
  obtain ⟨predictions, inference, store⟩ := made
  cases inference with
  | none => exact ⟨_, rfl⟩
  | some asked => exact ⟨_, rfl⟩

/-- Without a date a segment that needs an inference halts. -/
theorem addSegment_overflow {s : Segment} (hNeeds : s.needsInference d = true)
    (hNone : calendar.zone.wallTime? d.observedAt = none) (acc : Progress) :
    addSegment calendar d acc s = .error .overflow := by
  obtain ⟨model, hModel⟩ := Segment.model_of_needed hNeeds
  unfold addSegment
  rw [Segment.predict_of_needed hNeeds hModel,
    Features.build_of_undated hNone s.stops_ne_nil acc.store]
  rfl

theorem exists_foldlM {segments : List Segment}
    (h : ∀ s ∈ segments, s.needsInference d = true →
      (calendar.zone.wallTime? d.observedAt).isSome = true) :
    ∀ acc : Progress, ∃ g, segments.foldlM (addSegment calendar d) acc = .ok g := by
  induction segments with
  | nil => exact fun acc => ⟨acc, rfl⟩
  | cons s rest ih =>
    intro acc
    obtain ⟨hFirst, hRest⟩ := List.forall_mem_cons.1 h
    obtain ⟨next, hNext⟩ := exists_addSegment hFirst acc
    rw [List.foldlM_cons, hNext]
    exact ih hRest next

theorem foldlM_overflow {segments : List Segment} {s : Segment} (hs : s ∈ segments)
    (hNeeds : s.needsInference d = true)
    (hNone : calendar.zone.wallTime? d.observedAt = none) :
    ∀ acc : Progress, segments.foldlM (addSegment calendar d) acc = .error .overflow := by
  induction segments with
  | nil => exact absurd hs List.not_mem_nil
  | cons first rest ih =>
    intro acc
    rw [List.foldlM_cons]
    by_cases hFirst : first.needsInference d = true
    · rw [addSegment_overflow hFirst hNone]
      rfl
    · obtain ⟨next, hNext⟩ := exists_addSegment (fun h => absurd h hFirst) acc
      rw [hNext]
      rcases List.mem_cons.1 hs with rfl | hLater
      · exact absurd hNeeds hFirst
      · exact ih hLater next

/-- A trip looks something up when a segment in time needs an inference. -/
theorem lookups_ne_nil_iff (hCutoff : p.cutoff? d = some cutoff) :
    p.lookups d ≠ [] ↔ ∃ s ∈ inTime d cutoff p.segments, s.needsInference d = true := by
  rw [lookups, hCutoff]
  dsimp only
  rw [Ne, List.flatMap_eq_nil_iff]
  simp only [Segment.lookups_eq_nil_iff, Classical.not_forall, Bool.not_eq_false, exists_prop]

/-- A trip is predicted when its horizon has an end, and there is a date if one is needed. -/
theorem exists_predict (store : ObservedTransitions) (hCutoff : p.cutoff? d = some cutoff)
    (hDated : p.Dated calendar.zone d) : ∃ g, p.predict calendar store d = .ok g := by
  have hSegments : ∀ s ∈ inTime d cutoff p.segments, s.needsInference d = true →
      (calendar.zone.wallTime? d.observedAt).isSome = true :=
    fun s hs hNeeds => hDated ((lookups_ne_nil_iff hCutoff).2 ⟨s, hs, hNeeds⟩)
  obtain ⟨added, hAdded⟩ := exists_foldlM hSegments ⟨.start d p.trip, [], store⟩
  rw [predict_eq_foldlM store hCutoff, hAdded]
  exact ⟨_, rfl⟩

/-- Without the end of the horizon predicting a trip overflows, and so it does without a date that
is needed. -/
theorem predict_overflow (store : ObservedTransitions)
    (h : ¬ ((p.cutoff? d).isSome = true ∧ p.Dated calendar.zone d)) :
    p.predict calendar store d = .error .overflow := by
  cases hCutoff : p.cutoff? d with
  | none => rw [predict, hCutoff]
  | some cutoff =>
    have hUndated : ¬ p.Dated calendar.zone d := fun hDated => h ⟨by rw [hCutoff]; rfl, hDated⟩
    rw [Dated, Classical.not_imp, Option.not_isSome_iff_eq_none] at hUndated
    obtain ⟨s, hs, hNeeds⟩ := (lookups_ne_nil_iff hCutoff).1 hUndated.1
    rw [predict_eq_foldlM store hCutoff, foldlM_overflow hs hNeeds hUndated.2]
    rfl

/-- When a trip is predicted. -/
theorem exists_predict_iff {store : ObservedTransitions} :
    (∃ g, p.predict calendar store d = .ok g) ↔
      (p.cutoff? d).isSome = true ∧ p.Dated calendar.zone d := by
  constructor
  · rintro ⟨g, hg⟩
    by_contra hNot
    rw [predict_overflow store hNot] at hg
    cases hg
  · rintro ⟨hSome, hDated⟩
    obtain ⟨cutoff, hCutoff⟩ := Option.isSome_iff_exists.1 hSome
    exact exists_predict store hCutoff hDated

/-- A trip that is predicted has an end of its horizon. -/
theorem exists_cutoff_of_predict {store : ObservedTransitions} {g : Progress}
    (h : p.predict calendar store d = .ok g) : ∃ cutoff, p.cutoff? d = some cutoff :=
  Option.isSome_iff_exists.1 (exists_predict_iff.1 ⟨g, h⟩).1

end TripPredictor

end TransitForecast
