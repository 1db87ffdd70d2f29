import TransitForecast.Proofs.Separation

/-!
# TransitForecast — features of one moment

While the features of a run are built, look-ups remove what they find expired, and a run may come to
the same stop pair more than once. Yet all its look-ups are for one time, that of the observation,
and what one of them removes no other would have found. So the features tell of the store as it was
before, whatever the order of the pairs, and what is left gives the same features once more. The
same holds of a whole trip, whose segments are looked up for the same time. Before the first look-up
the date of the observation is taken: where there is none, nothing is built.

## Results

* `ObservedTransitions.lookup_fst_after` — look-ups for one time do not take anything away from each
  other.
* `TripPredictor.predict_again` — a trip is predicted the same from what its prediction leaves.
* `Features.getElem?_of_build` — where the features of a stop pair stand, and of which store they
  tell.
* `Features.reads_a_snapshot` — the features of a run, if the observation has a date.
-/

namespace TransitForecast

-- ---------------------------------------------------------------------------
-- Look-ups for one time
-- ---------------------------------------------------------------------------

namespace ObservedTransitions

variable {s left : ObservedTransitions} {now : Instant} {asked later : List Lookup}

/-- A look-up finds the same after another one for the same time. -/
theorem lookup_fst_lookup (s : ObservedTransitions) (p q : StopPair) (now : Instant) :
    ((s.lookup p now).2.lookup q now).1 = (s.lookup q now).1 := by
  rw [lookup_fst, find?_lookup, isFresh_lookup]
  by_cases hGone : q = p ∧ (s.lookup p now).1 = none
  · rw [if_pos hGone, hGone.1, hGone.2, Option.filter_none]
  · rw [if_neg hGone, lookup_fst]

theorem after_cons (s : ObservedTransitions) (x : Lookup) (asked : List Lookup) :
    s.after (x :: asked) = (s.lookup x.1 x.2).2.after asked := rfl

theorem isFresh_after (s : ObservedTransitions) (asked : List Lookup) :
    (s.after asked).isFresh = s.isFresh := by
  unfold isFresh
  rw [maxAge_after]

/-- A look-up finds the same after others for the same time. -/
theorem lookup_fst_after (asked : List Lookup) : ∀ {s : ObservedTransitions},
    (∀ x ∈ asked, x.2 = now) → ∀ q, ((s.after asked).lookup q now).1 = (s.lookup q now).1 := by
  induction asked with
  | nil => exact fun _ _ => rfl
  | cons x rest ih =>
    intro s hTime q
    obtain ⟨hHead, hRest⟩ := List.forall_mem_cons.1 hTime
    rw [after_cons, hHead, ih hRest, lookup_fst_lookup]

/-- Whether a store holds an observation of a stop pair that has not expired by a time. -/
def Shows (s : ObservedTransitions) (now : Instant) (pair : StopPair) (t : Transition) : Prop :=
  s.entries.find? pair = some t ∧ now.since t.observedAt ≤ s.maxAge

theorem lookup_fst_eq_some_iff {pair : StopPair} {t : Transition} :
    (s.lookup pair now).1 = some t ↔ s.Shows now pair t := by
  rw [lookup_fst, Option.filter_eq_some_iff, isFresh, decide_eq_true_eq]
  rfl

/-- A look-up that finds nothing expired leaves the store as it is. -/
theorem lookup_snd_eq_self {pair : StopPair}
    (h : ∀ t, s.entries.find? pair = some t → s.isFresh now t = true) :
    (s.lookup pair now).2 = s := by
  unfold lookup
  cases hFound : s.entries.find? pair with
  | none => rfl
  | some t =>
    dsimp only
    rw [if_pos (h t hFound)]

-- ---------------------------------------------------------------------------
-- Once more
-- ---------------------------------------------------------------------------

/-- Whether look-ups to come, all for one time, lead to a store that is there already. -/
structure Settles (left : ObservedTransitions) (now : Instant) (later : List Lookup)
    (s s' : ObservedTransitions) : Prop where
  settled : s' = left
  leads : s.after later = left
  time : ∀ x ∈ later, x.2 = now

/-- What is looked up on the way is found in the store that it leads to, which stays as it is. -/
theorem Settles.lookup {pair : StopPair} {t : Instant} {s s' : ObservedTransitions}
    (h : Settles left now ((pair, t) :: later) s s') :
    (s.lookup pair t).1 = (s'.lookup pair t).1 ∧
      Settles left now later (s.lookup pair t).2 (s'.lookup pair t).2 := by
  obtain ⟨rfl, hLeads, hTime⟩ := h
  obtain ⟨hNow, hLater⟩ := List.forall_mem_cons.1 hTime
  obtain rfl : t = now := hNow
  have hFresh : ∀ u, s'.entries.find? pair = some u → s'.isFresh t u = true := by
    intro u hFound
    rw [← hLeads] at hFound
    rw [← hLeads, isFresh_after]
    exact ((find?_after_eq_some_iff _).1 hFound).2 (pair, t) (List.mem_cons_self ..) rfl
  have hSame : (s.lookup pair t).1 = (s'.lookup pair t).1 := by
    rw [← hLeads]
    exact (lookup_fst_after _ hTime pair).symm
  rw [after_cons] at hLeads
  exact ⟨hSame, lookup_snd_eq_self hFresh, hLeads, hLater⟩

end ObservedTransitions

/-- A store, and the one that its look-ups lead to. -/
def Likeness.settles (left : ObservedTransitions) (now : Instant) : Likeness :=
  ofLookups (ObservedTransitions.Settles left now) ObservedTransitions.Settles.lookup

theorem Likeness.settles_after (s : ObservedTransitions) {now : Instant} {asked : List Lookup}
    (h : ∀ x ∈ asked, x.2 = now) :
    (settles (s.after asked) now).stores (asked ++ []) s (s.after asked) := by
  rw [List.append_nil]
  exact ⟨rfl, rfl, h⟩

/-- A trip is predicted the same from what its prediction leaves. -/
theorem TripPredictor.predict_again {p : TripPredictor} {calendar : ServiceCalendar}
    {s : ObservedTransitions} {d : Deviation} {g : Progress} (h : p.predict calendar s d = .ok g) :
    p.predict calendar g.store d = .ok g := by
  have hStores := Likeness.settles_after s fun x (hx : x ∈ p.lookups d) => time_of_mem_lookups hx
  have hPredicted := like_predict calendar hStores
  rw [h] at hPredicted
  generalize hAgain : p.predict calendar (s.after (p.lookups d)) d = again at hPredicted
  cases hPredicted with
  | @ok _ g' hLike =>
    obtain ⟨hSettled, hLeads, -⟩ := hLike.stores
    have hInferences : g.inferences = g'.inferences :=
      eq_of_forall₂ hLike.inferences fun _ _ hInference => hInference.eq_of_features fun _ _ => id
    have hSame : g = g' := by
      obtain ⟨prediction, inferences, store⟩ := g
      obtain ⟨prediction', inferences', store'⟩ := g'
      obtain rfl : prediction = prediction' := hLike.prediction
      obtain rfl : inferences = inferences' := hInferences
      obtain rfl : store = store' := hLeads.trans hSettled.symm
      rfl
    rw [show g.store = s.after (p.lookups d) from hLeads, hAgain, ← hSame]

-- ---------------------------------------------------------------------------
-- The features of a run
-- ---------------------------------------------------------------------------

/-- Ages within a limit are so in whole seconds. -/
theorem Span.seconds_within {span limit : Span} (h : span ≤ limit) (hLimit : 0 ≤ limit.nanos) :
    max span.seconds 0 * 1000000000 ≤ limit.nanos := by
  have hNanos : span.nanos ≤ limit.nanos := h
  unfold seconds nanosPerSecond
  rcases Int.lt_or_le span.nanos 0 with hNeg | hNonneg
  · rw [← Int.neg_neg span.nanos, Int.neg_tdiv, Int.tdiv_eq_ediv_of_nonneg (by omega)]
    omega
  · rw [Int.tdiv_eq_ediv_of_nonneg hNonneg]
    omega

/-- In lists of one length that follow one another, where the elements of one list stand. -/
theorem getElem?_flatMap_of_length {α β : Type} {f : α → List β} {k j : Nat}
    (hLength : ∀ x, (f x).length = k) (hj : j < k) (xs : List α) :
    ∀ {i : Nat} {x : α}, xs[i]? = some x → (xs.flatMap f)[k * i + j]? = (f x)[j]? := by
  induction xs with
  | nil => exact nofun
  | cons y rest ih =>
    intro i x h
    rw [List.flatMap_cons]
    cases i with
    | zero =>
      cases h
      rw [Nat.mul_zero, Nat.zero_add, List.getElem?_append_left (by rw [hLength]; exact hj)]
    | succ i =>
      have hPlace : k * (i + 1) + j = (f y).length + (k * i + j) := by
        rw [hLength, Nat.mul_succ]
        omega
      rw [hPlace, List.getElem?_append_right (Nat.le_add_right _ _), Nat.add_sub_cancel_left]
      exact ih h

namespace Features

/-- The features of stop pairs all tell of the store as it was before. -/
theorem ofPairs_eq (now : Instant) (pairs : List (Stop × Stop)) : ∀ s : ObservedTransitions,
    ofPairs now pairs s =
      (pairs.flatMap fun pair => ofPair now pair (s.lookup (pair.1.id, pair.2.id) now).1,
        s.after (pairs.map fun pair => ((pair.1.id, pair.2.id), now))) := by
  induction pairs with
  | nil => exact fun _ => rfl
  | cons pair rest ih =>
    intro s
    rw [ofPairs]
    dsimp only
    rw [ih]
    simp only [ObservedTransitions.lookup_fst_lookup, List.flatMap_cons, List.map_cons,
      ObservedTransitions.after_cons]

section Built

variable {calendar : ServiceCalendar} {s left : ObservedTransitions} {d : Deviation}
  {run : List Stop} {features : List Float}

/-- Features that are built are those of the observation and those of the stop pairs, and the
look-ups of the run are left behind. -/
theorem of_build (hRun : run ≠ []) (h : build calendar s d run = .ok (features, left)) :
    left = s.after (lookups d run) ∧ ∃ first : List Float, first.length = 10 ∧
      features = first ++ (stopPairs run).flatMap fun pair =>
        ofPair d.observedAt pair (s.lookup (pair.1.id, pair.2.id) d.observedAt).1 := by
  cases hWall : calendar.zone.wallTime? d.observedAt with
  | none =>
    rw [build_of_undated hWall hRun] at h
    cases h
  | some wall =>
    rw [build_of_dated hWall hRun, ofPairs_eq] at h
    cases h
    exact ⟨rfl, _, rfl, rfl⟩

/-- There are ten features of the observation, and two of each stop pair. -/
theorem length_of_build (hRun : run ≠ []) (h : build calendar s d run = .ok (features, left)) :
    features.length = 10 + 2 * (run.length - 1) := by
  obtain ⟨-, first, hFirst, rfl⟩ := of_build hRun h
  have hPairs := length_ofPairs d.observedAt (stopPairs run) s
  rw [ofPairs_eq, stopPairs_length] at hPairs
  rw [List.length_append, hFirst, hPairs]

/-- What stands in the features of a run for one of its stop pairs. -/
theorem getElem?_of_build (h : build calendar s d run = .ok (features, left)) {i j : Nat}
    {pair : Stop × Stop} (hPair : (stopPairs run)[i]? = some pair) (hj : j < 2) :
    features[10 + 2 * i + j]? =
      (ofPair d.observedAt pair (s.lookup (pair.1.id, pair.2.id) d.observedAt).1)[j]? := by
  have hRun : run ≠ [] := by
    rintro rfl
    cases hPair
  obtain ⟨-, first, hFirst, rfl⟩ := of_build hRun h
  rw [Nat.add_assoc, ← hFirst, List.getElem?_append_right (Nat.le_add_right _ _),
    Nat.add_sub_cancel_left]
  exact getElem?_flatMap_of_length (fun pair => length_ofPair _ pair _) hj _ hPair

/-- Nothing is missing afterwards but what had expired of the pairs of the run. -/
theorem find?_of_build (hRun : run ≠ []) (h : build calendar s d run = .ok (features, left))
    {pair : StopPair} {t : Transition} :
    left.entries.find? pair = some t ↔ s.entries.find? pair = some t ∧
      ∀ x ∈ stopPairs run, (x.1.id, x.2.id) = pair →
        d.observedAt.since t.observedAt ≤ s.maxAge := by
  rw [(of_build hRun h).1, ObservedTransitions.find?_after_eq_some_iff]
  simp only [lookups, List.forall_mem_map, ObservedTransitions.isFresh, decide_eq_true_eq]

/-- Building features again from what is left gives the same. -/
theorem build_again (hRun : run ≠ []) (h : build calendar s d run = .ok (features, left)) :
    build calendar left d run = .ok (features, left) := by
  have hTime : ∀ x ∈ lookups d run, x.2 = d.observedAt := by
    intro x hx
    obtain ⟨pair, -, rfl⟩ := List.mem_map.1 hx
    rfl
  have hBuilt :=
    (Likeness.settles _ d.observedAt).build calendar d run (Likeness.settles_after s hTime)
  rw [h, ← (of_build hRun h).1] at hBuilt
  generalize build calendar left d run = again at hBuilt ⊢
  cases hBuilt with
  | @ok _ again hSame =>
    obtain ⟨hFeatures, hSettled, hLeads, -⟩ := hSame
    rw [show again = (features, left) from Prod.ext hFeatures.symm hSettled]

end Built

/-- The features of a run of two stops or more. They are built when a wall in the zone of the agency
shows a date at the time of the observation, and halt otherwise. For each stop pair two of them tell
of the store as it was before: the travel time and the age of what it holds of the pair, if that has
not expired by the time of the observation, else the scheduled time and two hours. Of what the store
held nothing is missing afterwards but what had expired of the pairs of the run; so the features are
the same once more, and so is the prediction of a whole trip, which halts only when its horizon has
no end or a date is missing. -/
theorem reads_a_snapshot {s : ObservedTransitions} (hAge : 0 ≤ s.maxAge.nanos)
    (calendar : ServiceCalendar) (d : Deviation) {run : List Stop} (hRun : 2 ≤ run.length) :
    (calendar.zone.wallTime? d.observedAt = none → build calendar s d run = .error .overflow) ∧
    ((calendar.zone.wallTime? d.observedAt).isSome = true → ∃ features left,
      build calendar s d run = .ok (features, left) ∧
      features.length = 10 + 2 * (run.length - 1) ∧
      (∀ (i : Nat) (a b : Stop), (stopPairs run)[i]? = some (a, b) →
        (∀ t, s.Shows d.observedAt (a.id, b.id) t →
          ∃ age : Int, age = max (d.observedAt.since t.observedAt).seconds 0 ∧
            0 ≤ age ∧ age * 1000000000 ≤ s.maxAge.nanos ∧
            features[10 + 2 * i]? = some t.seconds ∧
            features[10 + 2 * i + 1]? = some (Float.ofInt age)) ∧
        ((∀ t, ¬ s.Shows d.observedAt (a.id, b.id) t) →
          features[10 + 2 * i]? = some (Float.ofInt (scheduledSeconds a b)) ∧
            features[10 + 2 * i + 1]? = some 7200)) ∧
      left.maxAge = s.maxAge ∧
      (∀ pair t, left.entries.find? pair = some t ↔ s.entries.find? pair = some t ∧
        ∀ x ∈ stopPairs run, (x.1.id, x.2.id) = pair →
          d.observedAt.since t.observedAt ≤ s.maxAge) ∧
      build calendar left d run = .ok (features, left)) ∧
    ∀ p : TripPredictor,
      ((∃ g, p.predict calendar s d = .ok g) ↔
        (p.cutoff? d).isSome = true ∧ p.Dated calendar.zone d) ∧
      ∀ g, p.predict calendar s d = .ok g → p.predict calendar g.store d = .ok g := by
  have hSome : run ≠ [] := List.ne_nil_of_length_pos (Nat.zero_lt_of_lt hRun)
  refine ⟨fun hNone => build_of_undated hNone hSome s, fun hDated => ?_,
    fun p => ⟨TripPredictor.exists_predict_iff, fun g => TripPredictor.predict_again⟩⟩
  obtain ⟨wall, hWall⟩ := Option.isSome_iff_exists.1 hDated
  obtain ⟨⟨features, left⟩, hBuilt⟩ : ∃ made, build calendar s d run = .ok made :=
    ⟨_, build_of_dated hWall hSome s⟩
  refine ⟨features, left, hBuilt, length_of_build hSome hBuilt, fun i a b hPair => ?_, ?_,
    fun pair t => find?_of_build hSome hBuilt, build_again hSome hBuilt⟩
  · have hFirst := getElem?_of_build hBuilt hPair (show 0 < 2 by decide)
    have hSecond := getElem?_of_build hBuilt hPair (show 1 < 2 by decide)
    refine ⟨fun t hShows => ?_, fun hNone => ?_⟩
    · rw [ObservedTransitions.lookup_fst_eq_some_iff.2 hShows] at hFirst hSecond
      exact ⟨_, rfl, Int.le_max_right _ 0, Span.seconds_within hShows.2 hAge, hFirst, hSecond⟩
    · have hFound : (s.lookup (a.id, b.id) d.observedAt).1 = none := by
        refine Option.eq_none_iff_forall_ne_some.2 fun t hFound => hNone t ?_
        exact ObservedTransitions.lookup_fst_eq_some_iff.1 hFound
      rw [hFound] at hFirst hSecond
      exact ⟨hFirst, hSecond⟩
  · rw [(of_build hSome hBuilt).1]
    exact s.maxAge_after ..

end Features

namespace Sample

/-- A trip that serves the same pair of stops twice is observed at eight. The way there was last
observed forty seconds before, and the way back more than half an hour before. -/
def observedLoop : ObservedTransitions :=
  (ObservedTransitions.empty ⟨1800000000000⟩).recordAll
    [⟨"A", "B", 95, ⟨1709654360, 0, by decide, Instant.epoch.nanos_lt⟩⟩,
      ⟨"B", "A", 240, ⟨1709652000, 0, by decide, Instant.epoch.nanos_lt⟩⟩]

/-- India, five and a half hours ahead of UTC. -/
def kolkata : Zone := ⟨"Asia/Kolkata", fun _ => 19800⟩

/-- Four hours before the end of time. -/
def lastFourHours : Instant := ⟨8210266862400, 0, by decide, Instant.epoch.nanos_lt⟩

end Sample

/-- The way there is told twice by what was observed, and the way back by the schedule. -/
theorem Features.reads_a_snapshot_on_a_loop :
    let s := Sample.observedLoop
    0 ≤ s.maxAge.nanos ∧ 2 ≤ Sample.loop.stops.length ∧ s.size = 2 ∧
      (∃ features left,
        build Sample.engine.calendar s Sample.deviation Sample.loop.stops = .ok (features, left) ∧
        features.length = 16 ∧ features.drop 10 = [95, 40, 300, 7200, 95, 40] ∧ left.size = 1 ∧
        build Sample.engine.calendar left Sample.deviation Sample.loop.stops =
          .ok (features, left)) ∧
      ∃ g, Sample.loopPredictor.predict Sample.engine.calendar s Sample.deviation = .ok g ∧
        Sample.loopPredictor.predict Sample.engine.calendar g.store Sample.deviation = .ok g := by
  intro s
  have hAge : 0 ≤ s.maxAge.nanos := by decide
  have hRun : 2 ≤ Sample.loop.stops.length := by decide
  obtain ⟨-, hBuilt, hPredicted⟩ :=
    reads_a_snapshot hAge Sample.engine.calendar Sample.deviation hRun
  obtain ⟨features, left, hBuild, hLength, -, -, -, hAgain⟩ := hBuilt (by decide +kernel)
  obtain ⟨hMade, hSame⟩ := hPredicted Sample.loopPredictor
  obtain ⟨g, hPredict⟩ := hMade.2 (by decide +kernel)
  have hShown : (build Sample.engine.calendar s Sample.deviation Sample.loop.stops).toOption.map
      (fun made => (made.1.drop 10, made.2.size)) = some ([95, 40, 300, 7200, 95, 40], 1) := by
    decide +kernel
  rw [hBuild] at hShown
  obtain ⟨hPairs, hLeft⟩ := Prod.mk.inj (Option.some.inj hShown)
  exact ⟨hAge, hRun, by decide +kernel, ⟨features, left, hBuild, hLength, hPairs, hLeft, hAgain⟩,
    g, hPredict, hSame g hPredict⟩

/-- Four hours before the end of time there is no date in India any more, so an observation has no
features there, and a trip with models is not predicted although its horizon ends in time. -/
theorem Features.undated_observation_has_none :
    let calendar : ServiceCalendar := ⟨Sample.kolkata, ⟨[]⟩⟩
    let d := { Sample.deviation with observedAt := Sample.lastFourHours }
    0 ≤ Sample.observedLoop.maxAge.nanos ∧ 2 ≤ Sample.loop.stops.length ∧
      build calendar Sample.observedLoop d Sample.loop.stops = .error .overflow ∧
      (Sample.loopPredictor.cutoff? d).isSome = true ∧
      Sample.loopPredictor.predict calendar Sample.observedLoop d = .error .overflow := by
  intro calendar d
  have hNone : calendar.zone.wallTime? d.observedAt = none := by decide +kernel
  have hUndated : ¬ Sample.loopPredictor.Dated calendar.zone d := by decide +kernel
  exact ⟨by decide, by decide, build_of_undated hNone (by decide) _, by decide +kernel,
    TripPredictor.predict_overflow _ fun hBoth => hUndated hBoth.2⟩

end TransitForecast
