import TransitForecast.Proofs.Horizon
import TransitForecast.Proofs.Truncation

/-!
# TransitForecast — a longer horizon

A longer horizon only adds to what is predicted. The same segments lie behind the vehicle, and those
that depart before the shorter horizon ends come first among those that depart before the longer
one. What is predicted of a segment, the inference that it asks for and the features of that depend
on the segments before it alone. Answers to the later inferences do not reach back either: they
replace the stop predictions of their own segments. So the update of the shorter horizon is the
beginning of that of the longer one, unless nothing but the marker is predicted.

## Results

* `Instant.shift?_mono` — a longer span leads at least as far, leap seconds included.
* `TripPredictor.isPrefix_inTime` — which segments are added under a longer horizon.
* `TripPrediction.Begins.isPrefix_settleAll` — what is predicted first does not depend on what comes
  later, whatever is answered to that.
* `UpdateRules.extending_appends` — a longer horizon only adds to an update.
-/

namespace TransitForecast

-- ---------------------------------------------------------------------------
-- Time
-- ---------------------------------------------------------------------------

/-- A longer span leads at least as far. -/
theorem Instant.shift?_mono {t u v : Instant} {a b : Span} (hLe : a ≤ b)
    (hu : t.shift? a = some u) (hv : t.shift? b = some v) : u ≤ v := by
  have hNanos : a.nanos ≤ b.nanos := hLe
  have hShort := shift?_cases hu
  have hLong := shift?_cases hv
  have hRoom := t.nanos_lt
  show ¬ precedes v u
  unfold precedes
  simp only [isLeap, decide_eq_true_eq, decide_eq_false_iff_not, position, nanosPerSecond]
    at hShort hLong
  omega

-- ---------------------------------------------------------------------------
-- Segments
-- ---------------------------------------------------------------------------

namespace TripPredictor

variable {d : Deviation} {cutoff cutoff' : Instant}

theorem isBeyond_eq_false_of_le (hLe : cutoff ≤ cutoff') {s : Segment}
    (h : isBeyond cutoff s = false) : isBeyond cutoff' s = false :=
  decide_eq_false fun hLater => of_decide_eq_false h (Instant.le_of_le_of_le hLe hLater)

/-- When the first segment that is not behind the vehicle departs in time, a longer horizon leaves
the same segments behind. -/
theorem dropWhile_isBehind (hLe : cutoff ≤ cutoff') {segments : List Segment}
    (hFirst : ∀ s ∈ (segments.dropWhile (isBehind d cutoff)).head?, isBeyond cutoff s = false) :
    segments.dropWhile (isBehind d cutoff') = segments.dropWhile (isBehind d cutoff) := by
  induction segments with
  | nil => rfl
  | cons s rest ih =>
    rw [List.dropWhile_cons] at hFirst ⊢
    rw [List.dropWhile_cons]
    by_cases hBehind : isBehind d cutoff s = true
    · have hStill : isBehind d cutoff' s = true := by
        rw [isBehind, Bool.and_eq_true, Bool.not_eq_true'] at hBehind ⊢
        exact ⟨isBeyond_eq_false_of_le hLe hBehind.1, hBehind.2⟩
      rw [if_pos hBehind] at hFirst ⊢
      rw [if_pos hStill, ih hFirst]
    · rw [if_neg hBehind] at hFirst ⊢
      -- it departs in time, so it is the vehicle that has not passed it
      have hEarly : isBeyond cutoff s = false := hFirst s rfl
      rw [isBeyond] at hEarly
      rw [isBehind, hEarly] at hBehind
      have hStays : ¬ isBehind d cutoff' s = true := fun hStill =>
        hBehind (Bool.and_eq_true_iff.1 hStill).2
      rw [if_neg hStays]

theorem isPrefix_takeWhile (hLe : cutoff ≤ cutoff') (segments : List Segment) :
    segments.takeWhile (fun s => !isBeyond cutoff s) <+:
      segments.takeWhile fun s => !isBeyond cutoff' s := by
  induction segments with
  | nil => exact List.prefix_rfl
  | cons s rest ih =>
    rw [List.takeWhile_cons]
    cases hBeyond : isBeyond cutoff s with
    | true => exact List.nil_prefix
    | false =>
      rw [List.takeWhile_cons, isBeyond_eq_false_of_le hLe hBeyond]
      exact (List.prefix_cons_inj s).2 ih

/-- A longer horizon adds segments only after the others. -/
theorem isPrefix_inTime (hLe : cutoff ≤ cutoff') (segments : List Segment) :
    inTime d cutoff segments <+: inTime d cutoff' segments := by
  by_cases hFirst : ∀ s ∈ (segments.dropWhile (isBehind d cutoff)).head?, isBeyond cutoff s = false
  · rw [inTime, inTime, dropWhile_isBehind hLe hFirst]
    exact isPrefix_takeWhile hLe _
  · rw [inTime]
    cases hReached : segments.dropWhile (isBehind d cutoff) with
    | nil => exact List.nil_prefix
    | cons s rest =>
      have hBeyond : isBeyond cutoff s = true := by
        rw [← Bool.not_eq_false]
        refine fun hEarly => hFirst fun x hx => ?_
        rw [hReached] at hx
        cases hx
        exact hEarly
      rw [List.takeWhile_cons, hBeyond]
      exact List.nil_prefix

end TripPredictor

-- ---------------------------------------------------------------------------
-- Predictions that go on
-- ---------------------------------------------------------------------------

/-- A prediction with which another one begins: the further stop predictions come after its own, and
what is awaited besides is among these. -/
structure TripPrediction.Begins (p p' : TripPrediction) : Prop where
  stops : p.stops <+: p'.stops
  kept : ∀ {k a}, p.awaiting.find? k = some a → p'.awaiting.find? k = some a
  later : ∀ {k a}, p'.awaiting.find? k = some a →
    p.awaiting.find? k = some a ∨ p.stops.length ≤ a.offset

namespace TripPrediction

variable {p p' q : TripPrediction} {key : InferenceKey} {seconds : Float}

theorem Begins.refl (p : TripPrediction) : p.Begins p := ⟨List.prefix_rfl, id, .inl⟩

theorem Begins.trans (h : p.Begins p') (h' : p'.Begins q) : p.Begins q where
  stops := h.stops.trans h'.stops
  kept hk := h'.kept (h.kept hk)
  later hk := by
    rcases h'.later hk with hMiddle | hEnd
    · exact h.later hMiddle
    · exact .inr (Nat.le_trans h.stops.length_le hEnd)

theorem begins_append (p : TripPrediction) (xs : List StopPrediction) : p.Begins (p.append xs) :=
  ⟨List.prefix_append _ _, id, .inl⟩

/-- An inference that is not awaited yet may be awaited for what is appended. -/
theorem begins_register (hNew : p.awaiting.find? key = none) (s : Segment)
    (xs : List StopPrediction) :
    p.Begins { p.append xs with awaiting := p.awaiting.insert key ⟨s, p.stops.length⟩ } where
  stops := List.prefix_append _ _
  kept := by
    intro k a hk
    dsimp only
    rw [Table.find?_insert, if_neg, hk]
    rintro rfl
    rw [hNew] at hk
    cases hk
  later := by
    intro k a hk
    dsimp only at hk
    rw [Table.find?_insert] at hk
    split at hk
    · cases hk
      exact .inr (Nat.le_refl _)
    · exact .inl hk

-- ---------------------------------------------------------------------------
-- Answers
-- ---------------------------------------------------------------------------

theorem length_stops_settleAll (hp : p.Sound) (answers : List (InferenceKey × Float)) :
    (p.settleAll answers).stops.length = p.stops.length :=
  (revises_settleAll hp : List.Forall₂ _ _ _).length_eq.symm

/-- Answers leave the stop predictions alone that nothing awaited covers. -/
theorem getElem?_settleAll_of_final {i : Nat} (answers : List (InferenceKey × Float)) :
    ∀ {p : TripPrediction}, p.Sound →
      (∀ k a, p.awaiting.find? k = some a → ¬ a.covers i = true) →
        (p.settleAll answers).stops[i]? = p.stops[i]? := by
  induction answers with
  | nil => exact fun _ _ => rfl
  | cons x rest ih =>
    intro p hp hFinal
    rw [settleAll_cons, ih (sound_settle hp), getElem?_settle hp]
    · cases hFound : p.awaiting.find? x.1 with
      | none => rfl
      | some a => exact if_neg (hFinal x.1 a hFound)
    · intro k a hk
      rw [awaiting_settle, Table.find?_erase] at hk
      split at hk
      · cases hk
      · exact hFinal k a hk

/-- The first answer to an awaited inference replaces the stop predictions of its segment, and no
other answer does. -/
theorem getElem?_settleAll {k : InferenceKey} {a : Awaited} {i : Nat} (hCover : a.covers i = true)
    (answers : List (InferenceKey × Float)) : ∀ {p : TripPrediction}, p.Sound →
      p.awaiting.find? k = some a → (p.settleAll answers).stops[i]? =
        (answers.lookup k).elim p.stops[i]? fun seconds =>
          (a.segment.answered seconds)[i - a.offset]? := by
  induction answers with
  | nil => exact fun _ _ => rfl
  | cons x rest ih =>
    intro p hp hk
    obtain ⟨key, seconds⟩ := x
    rw [settleAll_cons, List.lookup_cons]
    by_cases hKey : k = key
    · subst hKey
      have hTaken : (p.settle k seconds).stops[i]? =
          (a.segment.answered seconds)[i - a.offset]? := by
        rw [getElem?_settle hp, hk]
        exact if_pos hCover
      rw [beq_self_eq_true]
      dsimp only [Option.elim_some]
      rw [← hTaken]
      -- what is awaited now covers other stop predictions
      refine getElem?_settleAll_of_final rest (sound_settle hp) fun k' a' hk' hCover' => ?_
      rw [awaiting_settle, Table.find?_erase] at hk'
      split at hk'
      · cases hk'
      · exact absurd (hp.disjoint hk' hk hCover' hCover) ‹_›
    · have hStays : (p.settle key seconds).awaiting.find? k = some a := by
        rw [awaiting_settle, Table.find?_erase, if_neg hKey, hk]
      have hSame : (p.settle key seconds).stops[i]? = p.stops[i]? := by
        rw [getElem?_settle hp]
        cases hFound : p.awaiting.find? key with
        | none => rfl
        | some a' => exact if_neg fun hCover' => hKey (hp.disjoint hk hFound hCover hCover')
      rw [ih (sound_settle hp) hStays, hSame, beq_eq_false_iff_ne.2 hKey]

/-- What is predicted first does not depend on what comes later. Answers to what is awaited first
have to be the same; what is answered to the rest is not seen. -/
theorem Begins.isPrefix_settleAll (h : p.Begins p') (hp : p.Sound) (hp' : p'.Sound)
    {answers answers' : List (InferenceKey × Float)}
    (hAnswers : ∀ k ∈ p.awaitedKeys, answers'.lookup k = answers.lookup k) :
    (p.settleAll answers).stops <+: (p'.settleAll answers').stops := by
  rw [List.prefix_iff_getElem?]
  intro i hi
  have hOld : i < p.stops.length := length_stops_settleAll hp answers ▸ hi
  have hSame : p'.stops[i]? = p.stops[i]? := by
    rw [List.prefix_iff_getElem?.1 h.stops i hOld, List.getElem?_eq_getElem hOld]
  rw [← List.getElem?_eq_getElem hi]
  by_cases hAwaited : ∃ k a, p.awaiting.find? k = some a ∧ a.covers i = true
  · obtain ⟨k, a, hk, hCover⟩ := hAwaited
    rw [getElem?_settleAll hCover _ hp hk, getElem?_settleAll hCover _ hp' (h.kept hk), hSame,
      hAnswers k (mem_awaitedKeys_iff.2 ⟨a, hk⟩)]
  · rw [getElem?_settleAll_of_final _ hp fun k a hk hCover => hAwaited ⟨k, a, hk, hCover⟩,
      getElem?_settleAll_of_final _ hp' fun k a hk hCover => ?_, hSame]
    rcases h.later hk with hk | hLater
    · exact hAwaited ⟨k, a, hk, hCover⟩
    · have := (Awaited.covers_iff.1 hCover).1
      omega

theorem splice_append {α : Type} {xs replacement : List α} {offset : Nat}
    (h : offset + replacement.length ≤ xs.length) (zs : List α) :
    splice (xs ++ zs) offset replacement = splice xs offset replacement ++ zs := by
  rw [splice, splice, List.take_append_of_le_length (Nat.le_trans (Nat.le_add_right ..) h),
    List.drop_append_of_le_length h, List.append_assoc _ _ zs]

theorem settle_append (hp : p.Sound) (xs : List StopPrediction) :
    (p.append xs).settle key seconds = (p.settle key seconds).append xs := by
  cases hFound : p.awaiting.find? key with
  | none =>
    have hNone : (p.append xs).awaiting.find? key = none := hFound
    rw [settle_of_not_found hFound, settle_of_not_found hNone]
  | some a =>
    have hBounds := hp.inBounds hFound
    rw [← a.length_answered seconds] at hBounds
    have hTaken : p.settle key seconds = _ :=
      settle_of_answer? (answer?_eq_some_iff.2 ⟨a, hFound, rfl⟩)
    refine settle_of_answer? (answer?_eq_some_iff.2 ⟨a, hFound, ?_⟩)
    rw [hTaken, TripPrediction.append, TripPrediction.append]
    dsimp only
    rw [splice_append hBounds]

/-- Answers leave alone what is appended after all that is awaited. -/
theorem settleAll_append (xs : List StopPrediction) (answers : List (InferenceKey × Float)) :
    ∀ {p : TripPrediction}, p.Sound →
      (p.append xs).settleAll answers = (p.settleAll answers).append xs := by
  induction answers with
  | nil => exact fun _ => rfl
  | cons x rest ih =>
    intro p hp
    rw [settleAll_cons, settle_append hp, ih (sound_settle hp), settleAll_cons]

/-- The stop pairs of a prediction, without the end marker. -/
def pairs (p : TripPrediction) : List StopPrediction :=
  p.stops.filter fun z => z.source ≠ .endOfPredictions

theorem pairs_append_markers {markers : List StopPrediction}
    (h : ∀ z ∈ markers, z.source = .endOfPredictions) (p : TripPrediction) :
    (p.append markers).pairs = p.pairs := by
  have hNone : markers.filter (fun z => z.source ≠ .endOfPredictions) = [] :=
    List.filter_eq_nil_iff.2 fun z hz => by simp [h z hz]
  rw [pairs, TripPrediction.append, List.filter_append, hNone, List.append_nil, pairs]

end TripPrediction

-- ---------------------------------------------------------------------------
-- Predicting a trip
-- ---------------------------------------------------------------------------

namespace TripPredictor

variable {calendar : ServiceCalendar} {d : Deviation} {cutoff : Instant} {p : TripPredictor}
  {store : ObservedTransitions} {g : Progress}

/-- Progress with which another one begins. -/
structure Progress.Begins (g g' : Progress) : Prop where
  prediction : g.prediction.Begins g'.prediction
  inferences : g.inferences <+: g'.inferences

/-- An end marker is appended, or nothing is. -/
theorem Progress.exists_markers_endAt (g : Progress) (beyond : Option Segment) :
    ∃ markers : List StopPrediction, (∀ z ∈ markers, z.source = .endOfPredictions) ∧
      (g.endAt beyond).prediction = g.prediction.append markers ∧
      (g.endAt beyond).inferences = g.inferences := by
  cases beyond with
  | none =>
    refine ⟨[], nofun, ?_, rfl⟩
    rw [TripPrediction.append, List.append_nil]
    rfl
  | some s =>
    refine ⟨[.ending s.firstIndex], fun z hz => ?_, rfl, rfl⟩
    rw [List.mem_singleton.1 hz]
    rfl

theorem Progress.Begins.trans {g g' after : Progress} (h : g.Begins g') (h' : g'.Begins after) :
    g.Begins after :=
  ⟨h.prediction.trans h'.prediction, h.inferences.trans h'.inferences⟩

/-- A segment only adds. -/
theorem begins_addSegment {acc : Progress} {s : Segment}
    (h : addSegment calendar d acc s = .ok g) : acc.Begins g := by
  rcases addSegment_cases h with ⟨hPrediction, hInferences⟩ |
    ⟨model, features, -, hNew, hPrediction, hInferences⟩
  · refine ⟨?_, by rw [hInferences]⟩
    rw [hPrediction]
    exact TripPrediction.begins_append _ _
  · refine ⟨?_, by rw [hInferences]; exact List.prefix_append _ _⟩
    rw [hPrediction]
    exact TripPrediction.begins_register hNew s _

/-- Further segments only add. -/
theorem begins_foldlM {segments segments' : List Segment} {acc g' : Progress}
    (hPrefix : segments <+: segments')
    (h : segments.foldlM (addSegment calendar d) acc = .ok g)
    (h' : segments'.foldlM (addSegment calendar d) acc = .ok g') : g.Begins g' := by
  obtain ⟨more, rfl⟩ := hPrefix
  rw [List.foldlM_append, h] at h'
  exact foldlM_induction (P := g.Begins)
    (fun _ hBegins hAdd => hBegins.trans (begins_addSegment hAdd))
    ⟨.refl g.prediction, List.prefix_rfl⟩ h'

/-- What is predicted without an end marker, beside what is predicted with it. -/
structure Progress.Marked (added g : Progress) : Prop where
  sound : added.Sound
  pairs_eq : g.prediction.pairs = added.prediction.stops
  inferences_eq : g.inferences = added.inferences
  prediction_eq : ∃ markers : List StopPrediction,
    (∀ z ∈ markers, z.source = .endOfPredictions) ∧
      g.prediction = added.prediction.append markers

/-- A prediction is what the segments in time add, with an end marker or without. -/
theorem marked_predict (hCutoff : p.cutoff? d = some cutoff)
    (h : p.predict calendar store d = .ok g) :
    ∃ added, (inTime d cutoff p.segments).foldlM (addSegment calendar d)
      ⟨.start d p.trip, [], store⟩ = .ok added ∧ added.Marked g := by
  obtain ⟨added, hAdded, rfl⟩ := foldlM_of_predict hCutoff h
  have hPairs : added.prediction.pairs = added.prediction.stops := by
    refine List.filter_eq_self.2 fun z hz => decide_eq_true ?_
    rcases mem_stops_foldlM hAdded z hz with hNone | ⟨s, -, complete, hMem⟩
    · cases hNone
    · rw [Segment.source_of_mem_allocate hMem]
      exact s.statistical_ne_ending
  obtain ⟨markers, hMarkers, hPrediction, hInferences⟩ :=
    added.exists_markers_endAt ((p.reached d cutoff).find? (isBeyond cutoff))
  refine ⟨added, hAdded, ?_, ?_, hInferences, markers, hMarkers, hPrediction⟩
  · exact foldlM_induction (fun _ hSound hAdd => sound_addSegment hSound hAdd)
      ⟨TripPrediction.sound_start d p.trip, rfl⟩ hAdded
  · rw [hPrediction, TripPrediction.pairs_append_markers hMarkers, hPairs]

/-- Up to the end markers, a prediction begins with that under a shorter horizon. -/
theorem begins_predict {q : TripPredictor} {cutoff' : Instant} {g' : Progress}
    (hLe : cutoff ≤ cutoff') (hCutoff : p.cutoff? d = some cutoff)
    (hCutoff' : q.cutoff? d = some cutoff') (h : p.predict calendar store d = .ok g)
    (h' : q.predict calendar store d = .ok g') (hTrip : q.trip = p.trip)
    (hSegments : q.segments = p.segments) :
    ∃ added added' : Progress, added.Marked g ∧ added'.Marked g' ∧ added.Begins added' := by
  obtain ⟨added, hAdded, hMarked⟩ := marked_predict hCutoff h
  obtain ⟨added', hAdded', hMarked'⟩ := marked_predict hCutoff' h'
  rw [hTrip, hSegments] at hAdded'
  exact ⟨added, added', hMarked, hMarked',
    begins_foldlM (isPrefix_inTime hLe p.segments) hAdded hAdded'⟩

/-- A trip that has the date it needs under a longer horizon has it under a shorter one. -/
theorem Dated.of_longer {q : TripPredictor} {cutoff' : Instant} {zone : Zone}
    (h : q.Dated zone d) (hLe : cutoff ≤ cutoff') (hCutoff : p.cutoff? d = some cutoff)
    (hCutoff' : q.cutoff? d = some cutoff') (hSegments : q.segments = p.segments) :
    p.Dated zone d := by
  intro hSome
  obtain ⟨s, hs, hNeeds⟩ := (lookups_ne_nil_iff hCutoff).1 hSome
  refine h ((lookups_ne_nil_iff hCutoff').2 ⟨s, ?_, hNeeds⟩)
  rw [hSegments]
  exact (isPrefix_inTime hLe p.segments).subset hs

end TripPredictor

-- ---------------------------------------------------------------------------
-- Updates
-- ---------------------------------------------------------------------------

/-- Later legs only add to a walk. -/
theorem Walk.isPrefix_trace {d : Deviation} {w : WalkState Float} {legs legs' : List (Leg Float)}
    (h : legs <+: legs') : trace d w legs <+: trace d w legs' := by
  rw [List.prefix_iff_eq_take.1 h, trace_take]
  exact List.take_prefix _ _

namespace UpdateRules

variable {rules : UpdateRules} {p p' : TripPrediction} {seed : Instant} {d : Deviation}
  {stops : List Stop}

/-- Later stop predictions only add legs. -/
theorem isPrefix_legs_append (rules : UpdateRules) (xs zs : List StopPrediction) :
    rules.legs d stops xs <+: rules.legs d stops (xs ++ zs) := by
  induction xs with
  | nil => exact List.nil_prefix
  | cons x rest ih =>
    rw [List.cons_append, legs, legs]
    split
    · exact List.prefix_rfl
    · split
      · exact (List.prefix_cons_inj _).2 ih
      · exact List.prefix_rfl

/-- End markers add none. -/
theorem legs_append_markers {zs : List StopPrediction}
    (h : ∀ z ∈ zs, z.source = .endOfPredictions) (xs : List StopPrediction) :
    rules.legs d stops (xs ++ zs) = rules.legs d stops xs := by
  induction xs with
  | nil =>
    cases zs with
    | nil => rfl
    | cons z rest => exact if_pos (h z List.mem_cons_self)
  | cons x rest ih => rw [List.cons_append, legs, legs, ih]

/-- Later stop predictions only add to a course. -/
theorem isPrefix_course (hDeviation : p.deviation = p'.deviation) (hTrip : p.trip = p'.trip)
    (hHead : p.stops.head? = p'.stops.head?)
    (hLegs : rules.legs p'.deviation p'.trip.stops p.stops <+:
      rules.legs p'.deviation p'.trip.stops p'.stops) :
    rules.course p seed <+: rules.course p' seed := by
  unfold course
  rw [opening_congr hHead, hDeviation, hTrip]
  cases openWalk p'.deviation ⟨seed, Measure.zero⟩
      (opening p'.deviation p'.trip.stops p'.stops) with
  | none => exact List.prefix_rfl
  | some opened => exact (List.prefix_append_right_inj _).2 (Walk.isPrefix_trace hLegs)

/-- What is reported of the stop predictions that come first does not depend on the later ones. -/
theorem isPrefix_course_settleAll (h : p.Begins p') (hp : p.Sound) (hp' : p'.Sound)
    (hDeviation : p.deviation = p'.deviation) (hTrip : p.trip = p'.trip) (hSome : p.stops ≠ [])
    {answers answers' : List (InferenceKey × Float)}
    (hAnswers : ∀ k ∈ p.awaitedKeys, answers'.lookup k = answers.lookup k)
    {markers : List StopPrediction} (hMarkers : ∀ z ∈ markers, z.source = .endOfPredictions)
    (zs : List StopPrediction) :
    rules.course ((p.append markers).settleAll answers) seed <+:
      rules.course ((p'.append zs).settleAll answers') seed := by
  obtain ⟨more, hMore⟩ := h.isPrefix_settleAll hp hp' hAnswers
  have hFirst : (p.settleAll answers).stops ≠ [] := by
    rw [← List.length_pos_iff, TripPrediction.length_stops_settleAll hp]
    exact List.length_pos_iff.2 hSome
  rw [TripPrediction.settleAll_append _ _ hp, TripPrediction.settleAll_append _ _ hp']
  refine isPrefix_course ?_ ?_ ?_ ?_
  · show (p.settleAll answers).deviation = (p'.settleAll answers').deviation
    rw [TripPrediction.deviation_settleAll, TripPrediction.deviation_settleAll, hDeviation]
  · show (p.settleAll answers).trip = (p'.settleAll answers').trip
    rw [TripPrediction.trip_settleAll, TripPrediction.trip_settleAll, hTrip]
  · show ((p.settleAll answers).stops ++ markers).head? =
      ((p'.settleAll answers').stops ++ zs).head?
    rw [← hMore, List.append_assoc, List.head?_append_of_ne_nil _ hFirst,
      List.head?_append_of_ne_nil _ hFirst]
  · show rules.legs _ _ ((p.settleAll answers).stops ++ markers) <+:
      rules.legs _ _ ((p'.settleAll answers').stops ++ zs)
    rw [legs_append_markers hMarkers, ← hMore, List.append_assoc]
    exact isPrefix_legs_append rules _ _

/-- An update of which the course begins another tells the same of the vehicle, and its stops
begin the other. -/
theorem isPrefix_build (hDeviation : p.deviation = p'.deviation)
    (hCourse : rules.course p seed <+: rules.course p' seed) :
    { (rules.build p seed).1 with stops := (rules.build p' seed).1.stops } =
        (rules.build p' seed).1 ∧
      (rules.build p seed).1.stops <+: (rules.build p' seed).1.stops := by
  rw [build_eq, build_eq, hDeviation]
  exact ⟨rfl, hCourse.map Prod.fst⟩

/-- A longer horizon only adds to what is predicted of a trip. The stop pairs and the inferences of
the shorter one come first among those of the longer one. When the shorter one has a stop pair, and
the inferences that it asks for are answered alike under both, the update that it leads to tells the
same of the vehicle, and its stops come first among those of the other update. -/
theorem extending_appends (trust : Trust) (models : ModelRegistry) (trip : Trip)
    (calendar : ServiceCalendar) (store : ObservedTransitions) {short long : Span}
    {cutoff cutoff' : Instant} (hLe : short ≤ long)
    (hShort : d.observedAt.shift? short = some cutoff)
    (hLong : d.observedAt.shift? long = some cutoff')
    (hDated : (TripPredictor.build trust models long trip).Dated calendar.zone d) :
    ∃ g g', (TripPredictor.build trust models short trip).predict calendar store d = .ok g ∧
      (TripPredictor.build trust models long trip).predict calendar store d = .ok g' ∧
      g.prediction.pairs <+: g'.prediction.pairs ∧ g.inferences <+: g'.inferences ∧
      (g.prediction.pairs ≠ [] → ∀ answers answers' : List (InferenceKey × Float),
        (∀ x ∈ g.inferences, answers'.lookup x.key = answers.lookup x.key) →
          ∀ (rules : UpdateRules) (seed : Instant),
            let update := (rules.build (g.prediction.settleAll answers) seed).1
            let update' := (rules.build (g'.prediction.settleAll answers') seed).1
            { update with stops := update'.stops } = update' ∧
              update.stops <+: update'.stops) := by
  have hCutoff : (TripPredictor.build trust models short trip).cutoff? d = some cutoff := hShort
  have hCutoff' : (TripPredictor.build trust models long trip).cutoff? d = some cutoff' := hLong
  have hOrder := Instant.shift?_mono hLe hShort hLong
  obtain ⟨g, hg⟩ := TripPredictor.exists_predict store hCutoff
    (hDated.of_longer hOrder hCutoff hCutoff' rfl)
  obtain ⟨g', hg'⟩ := TripPredictor.exists_predict store hCutoff' hDated
  obtain ⟨added, added', hMarked, hMarked', hBegins⟩ := TripPredictor.begins_predict hOrder hCutoff
    hCutoff' hg hg' rfl rfl
  obtain ⟨markers, hMarkers, hMade⟩ := hMarked.prediction_eq
  obtain ⟨markers', -, hMade'⟩ := hMarked'.prediction_eq
  have hDeviation := (TripPredictor.predict_deviation hg).trans
    (TripPredictor.predict_deviation hg').symm
  have hTrip : g.prediction.trip = g'.prediction.trip := (TripPredictor.predict_trip hg).trans
    (TripPredictor.predict_trip hg').symm
  refine ⟨g, g', hg, hg', ?_⟩
  rw [hMarked.pairs_eq, hMarked'.pairs_eq, hMarked.inferences_eq, hMarked'.inferences_eq]
  refine ⟨hBegins.prediction.stops, hBegins.inferences, fun hSome answers answers' hAnswers => ?_⟩
  intro rules seed
  rw [hMade, hMade'] at hDeviation hTrip ⊢
  refine isPrefix_build ?_ (isPrefix_course_settleAll hBegins.prediction hMarked.sound.prediction
    hMarked'.sound.prediction hDeviation hTrip hSome (fun k hk => ?_) hMarkers markers')
  · rw [TripPrediction.deviation_settleAll, TripPrediction.deviation_settleAll, hDeviation]
  · obtain ⟨x, hx, rfl⟩ := hMarked.sound.mem_awaitedKeys_iff.1 hk
    exact hAnswers x hx

/-- A trip of two segments that ask for an inference each, of which the second departs after ten
minutes: it is predicted up to its third stop, or for half an hour and up to its last. The answers
come in another order then. -/
theorem extending_appends_to_half_an_hour :
    let rules : UpdateRules := ⟨⟨60000000000⟩⟩
    let predictor := fun horizon =>
      TripPredictor.build .default Sample.engine.models horizon Sample.trip
    let predict := fun horizon =>
      (predictor horizon).predict Sample.engine.calendar Sample.engine.transitions Sample.deviation
    ∃ g g', predict ⟨600000000000⟩ = .ok g ∧ predict ⟨1800000000000⟩ = .ok g' ∧
      g.prediction.pairs <+: g'.prediction.pairs ∧ g.inferences <+: g'.inferences ∧
      g.inferences.map Inference.key = [⟨7, 3⟩] ∧
      g'.inferences.map Inference.key = [⟨7, 3⟩, ⟨8, 3⟩] ∧
      let update := (rules.build (g.prediction.settleAll [(⟨7, 3⟩, 400)]) (Sample.clock 0)).1
      let update' :=
        (rules.build (g'.prediction.settleAll [(⟨8, 3⟩, 500), (⟨7, 3⟩, 400)]) (Sample.clock 0)).1
      update.stops <+: update'.stops ∧ update.stops.map StopUpdate.stop = ["A", "B", "C"] ∧
        update'.stops.map StopUpdate.stop = ["A", "B", "C", "D", "E"] := by
  intro rules predictor predict
  have hShort : Sample.deviation.observedAt.shift? ⟨600000000000⟩ = some (Sample.clock 600) := by
    decide +kernel
  have hLong : Sample.deviation.observedAt.shift? ⟨1800000000000⟩ = some (Sample.clock 1800) := by
    decide +kernel
  obtain ⟨g, g', hg, hg', hPairs, hInferences, hUpdates⟩ := extending_appends .default
    Sample.engine.models Sample.trip Sample.engine.calendar Sample.engine.transitions (by decide)
    hShort hLong (by decide +kernel)
  have hMade := hg.symm.trans (TripPredictor.predict_eq_get (by decide +kernel))
  have hMade' := hg'.symm.trans (TripPredictor.predict_eq_get (by decide +kernel))
  have hKeys : g.inferences.map Inference.key = [⟨7, 3⟩] := by
    cases hMade
    decide +kernel
  have hKeys' : g'.inferences.map Inference.key = [⟨7, 3⟩, ⟨8, 3⟩] := by
    cases hMade'
    decide +kernel
  have hSome : g.prediction.pairs ≠ [] := by
    cases hMade
    decide +kernel
  have hAlike : ∀ x ∈ g.inferences, [(⟨8, 3⟩, 500), (⟨7, 3⟩, 400)].lookup x.key =
      [(⟨7, 3⟩, (400 : Float))].lookup x.key := by
    intro x hx
    have hKey := List.mem_map_of_mem (f := Inference.key) hx
    rw [hKeys, List.mem_singleton] at hKey
    rw [hKey]
    rfl
  obtain ⟨-, hStops⟩ := hUpdates hSome _ _ hAlike rules (Sample.clock 0)
  refine ⟨g, g', hg, hg', hPairs, hInferences, hKeys, hKeys', hStops, ?_, ?_⟩
  · cases hMade
    decide +kernel
  · cases hMade'
    decide +kernel

end UpdateRules

end TransitForecast
