import TransitForecast.Proofs.Stores

/-!
# TransitForecast — answers are correlated exactly

An answer is taken iff it names an inference that a parked batch still awaits, in time and with a
travel time that makes sense. Then that inference is settled, its segment gets new stop
predictions, and if it was the last one the batch is claimed and taken out. Nothing else
changes; and a refused answer changes nothing at all.

## Results

* `reading_eq_ok_iff` — which answers say something.
* `apply_cases`       — the three things that can come of an answer.
* `apply_exact`       — when an answer is taken, and what it changes.
* `apply_others`      — the batches that it is not for stay as they are.
-/

namespace TransitForecast

-- ---------------------------------------------------------------------------
-- What an answer changes
-- ---------------------------------------------------------------------------

/-- A trip prediction before and after one of its inferences was answered. -/
structure TripPrediction.Answers (key : InferenceKey) (seconds : Float) (p p' : TripPrediction) :
    Prop where
  deviation : p'.deviation = p.deviation
  trip : p'.trip = p.trip
  /-- Exactly the answered inference is no longer awaited. -/
  awaiting : ∀ k, p'.awaiting.find? k = if k = key then none else p.awaiting.find? k
  length : p'.stops.length = p.stops.length
  /-- Exactly the stop predictions of its segment are replaced. -/
  stops : ∃ a, p.awaiting.find? key = some a ∧ ∀ i, p'.stops[i]? =
    if a.covers i then (a.segment.answered seconds)[i - a.offset]? else p.stops[i]?

/-- A batch before and after one of its inferences was answered, its publication apart. -/
structure Batch.Answers (c : CorrelationId) (seconds : Float) (b b' : Batch) : Prop where
  id : b'.id = b.id
  vehicle : b'.vehicle = b.vehicle
  createdAt : b'.createdAt = b.createdAt
  requests : b'.requests = b.requests
  trips : List.Forall₂ (fun p p' =>
    if p.deviation.trip = c.trip then p.Answers ⟨c.model, c.version⟩ seconds p' else p' = p)
    b.trips b'.trips

/-- A store before and after an inference of one of its batches was answered. The last answer
claims the batch and takes it out. -/
structure BatchStore.Answers (c : CorrelationId) (seconds : Float) (ref : BatchRef) (b : Batch)
    (outcome : Outcome) (s s' : BatchStore) : Prop where
  lifetime : s'.lifetime = s.lifetime
  length : s'.batches.length = s.batches.length
  others : ∀ r, r ≠ ref → s'.get? r = s.get? r
  batch : ∃ b', s'.get? ref = some b' ∧ b.Answers c seconds b' ∧
    b'.published = if b.pending = 1 then true else b.published
  parked : ∀ id, s'.parked.find? id =
    if b.pending = 1 ∧ id = c.batch then none else s.parked.find? id
  outcome : outcome = if b.pending = 1 then .complete ref else .pending (b.pending - 1)

theorem TripPrediction.Answers.of_answer? {p p' : TripPrediction} {key : InferenceKey}
    {seconds : Float} (hp : p.Sound) (h : p.answer? key seconds = some p') :
    p.Answers key seconds p' := by
  have hStops := length_stops_answer? hp h
  obtain ⟨a, ha, hEq⟩ := answer?_eq_some_iff.1 h
  refine ⟨by rw [hEq], by rw [hEq], ?_, hStops, a, ha, getElem?_answer? hp ha h⟩
  intro k
  rw [hEq]
  exact Table.find?_erase _ _ _

theorem Batch.Answers.of_answer {b b' : Batch} {c : CorrelationId} {seconds : Float}
    (hb : b.Sound) (h : b.answer c seconds = .ok b') : b.Answers c seconds b' := by
  obtain ⟨front, p, back, p', hEq, hFront, hp, hp', rfl⟩ := Batch.answer_eq_ok_iff.1 h
  refine ⟨rfl, rfl, rfl, rfl, ?_⟩
  have hBack : ∀ q ∈ back, q.deviation.trip ≠ c.trip := hb.ne_trip_of_mem_back hEq hp
  have hSame : ∀ {l : List TripPrediction}, (∀ q ∈ l, q.deviation.trip ≠ c.trip) →
      List.Forall₂ (fun p p' => if p.deviation.trip = c.trip then
        p.Answers ⟨c.model, c.version⟩ seconds p' else p' = p) l l := by
    intro l hl
    rw [List.forall₂_same]
    intro q hq
    rw [if_neg (hl q hq)]
  show List.Forall₂ _ b.trips (front ++ p' :: back)
  rw [hEq]
  refine List.rel_append (hSame hFront) (List.Forall₂.cons ?_ (hSame hBack))
  rw [if_pos hp]
  exact .of_answer? (hb.trips p (by rw [hEq]; simp)) hp'

-- ---------------------------------------------------------------------------
-- Handling an answer
-- ---------------------------------------------------------------------------

namespace BatchStore

section Finish

variable {s : BatchStore} {ref : Nat} {b : Batch} {id : BatchId}

theorem finish_of_pending (hGet : s.get? ref = some b) (hPending : b.pending ≠ 0) :
    s.finish ref id = (.pending b.pending, s) := by
  rw [finish, remaining_eq hGet]
  simp only [if_neg hPending]

theorem finish_of_complete (hGet : s.get? ref = some b) (hPending : b.pending = 0)
    (hPublished : b.published = false) :
    s.finish ref id =
      (.complete ref, ((s.set ref { b with published := true }).unpark id).2) := by
  rw [finish, remaining_eq hGet, claim_eq hGet]
  simp only [if_pos hPending, hPublished, Bool.not_false]

end Finish

/-- Which answers say something: they name an inference, report no error, and give a travel time
of a day at most. -/
theorem reading_eq_ok_iff {r : InferenceResponse} {c : CorrelationId} {seconds : Float} :
    reading r = .ok (c, seconds) ↔
      CorrelationId.parse r.request = .ok c ∧ r.error = none ∧ r.prediction = some seconds ∧
        seconds.isFinite = true ∧ seconds.abs ≤ longestPrediction := by
  unfold reading
  cases CorrelationId.parse r.request with
  | error e => simp
  | ok c' =>
    cases r.error with
    | some reason => simp
    | none =>
      cases r.prediction with
      | none => simp
      | some x =>
        dsimp only
        split
        · rename_i hRange
          rw [Bool.and_eq_true, decide_eq_true_eq] at hRange
          simp only [Except.ok.injEq, Prod.mk.injEq, Option.some.injEq, true_and]
          constructor
          · rintro ⟨rfl, rfl⟩
            exact ⟨rfl, rfl, hRange⟩
          · rintro ⟨rfl, rfl, -⟩
            exact ⟨rfl, rfl⟩
        · rename_i hRange
          rw [Bool.and_eq_true, decide_eq_true_eq] at hRange
          simp only [reduceCtorEq, Option.some.injEq, true_and, false_iff]
          rintro ⟨-, rfl, h⟩
          exact hRange h

/-- An answer is refused, or it is taken and the batch awaits others, or it completes the batch. -/
theorem apply_cases {s : BatchStore} (hs : s.Sound) (r : InferenceResponse) (now : Instant) :
    (∃ error, s.apply r now = (.error error, s)) ∨
      ∃ c seconds ref b b', reading r = .ok (c, seconds) ∧ s.find c.batch now = .ok ref ∧
        s.get? ref = some b ∧ b.answer c seconds = .ok b' ∧
        (b'.pending ≠ 0 ∧ s.apply r now = (.ok (.pending b'.pending), s.set ref b') ∨
          b'.pending = 0 ∧ s.apply r now = (.ok (.complete ref),
            ((s.set ref { b' with published := true }).unpark c.batch).2)) := by
  unfold apply
  cases hRead : reading r with
  | error e => exact .inl ⟨e, rfl⟩
  | ok said =>
    obtain ⟨c, seconds⟩ := said
    dsimp only
    cases hFind : s.find c.batch now with
    | error e => exact .inl ⟨e, rfl⟩
    | ok ref =>
      dsimp only
      cases hAnswer : s.answer ref c seconds with
      | error e => exact .inl ⟨e, rfl⟩
      | ok answered =>
        right
        obtain ⟨b, b', hGet, hb', rfl⟩ := answer_eq_ok_iff.1 hAnswer
        refine ⟨c, seconds, ref, b, b', rfl, hFind, hGet, hb', ?_⟩
        have hGet' := get?_set_self hGet b'
        dsimp only
        by_cases hPending : b'.pending = 0
        · right
          -- the batch awaited this inference until now, so nobody has claimed it
          have hPublished : b'.published = false := by
            have hOne := Batch.pending_answer hb'
            obtain ⟨front, p, back, p', -, -, -, -, rfl⟩ := Batch.answer_eq_ok_iff.1 hb'
            by_contra h
            rw [Bool.not_eq_false] at h
            have := hs.published hGet h
            omega
          rw [finish_of_complete hGet' hPending hPublished]
          refine ⟨hPending, ?_⟩
          simp only [set, List.set_set]
        · left
          rw [finish_of_pending hGet' hPending]
          exact ⟨hPending, rfl⟩

section Exact

variable {s : BatchStore} {r : InferenceResponse} {now : Instant} {c : CorrelationId}
  {seconds : Float} {p : Parked} {b : Batch}

/-- An answer in time to an inference that a parked batch awaits. -/
structure Accepts (s : BatchStore) (r : InferenceResponse) (now : Instant) (c : CorrelationId)
    (seconds : Float) (p : Parked) (b : Batch) : Prop where
  request : CorrelationId.parse r.request = .ok c
  noError : r.error = none
  prediction : r.prediction = some seconds
  finite : seconds.isFinite = true
  inRange : seconds.abs ≤ 86400
  parked : s.parked.find? c.batch = some p
  live : now ≤ p.expiresAt
  batch : s.get? p.batch = some b
  awaited : (c.trip, ⟨c.model, c.version⟩) ∈ b.awaited

theorem accepts_of_apply (hs : s.Sound) {outcome : Outcome}
    (h : (s.apply r now).1 = .ok outcome) : ∃ c seconds p b, s.Accepts r now c seconds p b := by
  rcases apply_cases hs r now with ⟨error, hError⟩ |
    ⟨c, seconds, ref, b, b', hRead, hFind, hGet, hb', -⟩
  · rw [hError] at h
    cases h
  · obtain ⟨hRequest, hNoError, hPrediction, hFinite, hRange⟩ := reading_eq_ok_iff.1 hRead
    obtain ⟨p, hParked, hLive, rfl⟩ := find_eq_ok_iff.1 hFind
    exact ⟨c, seconds, p, b, hRequest, hNoError, hPrediction, hFinite, hRange, hParked, hLive, hGet,
      (Batch.answer_isOk_iff (hs.batches hGet)).1 ⟨b', hb'⟩⟩

/-- The first three steps of handling an answer succeed if it is accepted. -/
theorem Accepts.steps (hs : s.Sound) (h : s.Accepts r now c seconds p b) :
    reading r = .ok (c, seconds) ∧ s.find c.batch now = .ok p.batch ∧
      ∃ b', b.answer c seconds = .ok b' :=
  ⟨reading_eq_ok_iff.2 ⟨h.request, h.noError, h.prediction, h.finite, h.inRange⟩,
    find_eq_ok_iff.2 ⟨p, h.parked, h.live, rfl⟩,
    (Batch.answer_isOk_iff (hs.batches h.batch)).2 h.awaited⟩

/-- What handling an accepted answer changes. -/
theorem Accepts.apply (hs : s.Sound) (h : s.Accepts r now c seconds p b) :
    ∃ outcome, (s.apply r now).1 = .ok outcome ∧
      Answers c seconds p.batch b outcome s (s.apply r now).2 := by
  obtain ⟨hRead, hFind, b', hb'⟩ := h.steps hs
  rcases apply_cases hs r now with ⟨error, hError⟩ |
    ⟨c₁, seconds₁, ref, b₁, b₁', hRead₁, hFind₁, hGet₁, hb₁', hCases⟩
  · -- an accepted answer is not refused
    exfalso
    have hAnswer : s.answer p.batch c seconds = .ok (s.set p.batch b') :=
      answer_eq_ok_iff.2 ⟨b, b', h.batch, hb', rfl⟩
    unfold BatchStore.apply at hError
    rw [hRead] at hError
    dsimp only at hError
    rw [hFind] at hError
    dsimp only at hError
    rw [hAnswer] at hError
    cases hError
  · rw [hRead] at hRead₁
    cases hRead₁
    rw [hFind] at hFind₁
    cases hFind₁
    rw [h.batch] at hGet₁
    cases hGet₁
    rw [hb'] at hb₁'
    cases hb₁'
    have hPending := Batch.pending_answer hb'
    have hBatch := Batch.Answers.of_answer (hs.batches h.batch) hb'
    rcases hCases with ⟨hMore, hApply⟩ | ⟨hLast, hApply⟩
    · have hNotOne : b.pending ≠ 1 := by omega
      rw [hApply]
      refine ⟨_, rfl, rfl, List.length_set, ?_, ⟨b', ?_, hBatch, ?_⟩, ?_, ?_⟩
      · intro r hr
        exact get?_set_of_ne h.batch _ hr
      · exact get?_set_self h.batch _
      · rw [if_neg hNotOne]
        obtain ⟨front, q, back, q', -, -, -, -, rfl⟩ := Batch.answer_eq_ok_iff.1 hb'
        rfl
      · intro id
        rw [if_neg fun hBoth => hNotOne hBoth.1]
        rfl
      · rw [if_neg hNotOne, ← hPending, Nat.add_sub_cancel]
    · have hOne : b.pending = 1 := by omega
      rw [hApply]
      refine ⟨_, rfl, rfl, List.length_set, ?_,
        ⟨{ b' with published := true }, ?_, ⟨hBatch.id, hBatch.vehicle, hBatch.createdAt,
          hBatch.requests, hBatch.trips⟩, ?_⟩, ?_, ?_⟩
      · intro r hr
        exact get?_set_of_ne h.batch _ hr
      · exact get?_set_self h.batch _
      · rw [if_pos hOne]
      · intro id
        rw [find?_unpark]
        simp only [hOne, true_and]
        rfl
      · rw [if_pos hOne]

/-- A refused answer changes nothing. -/
theorem apply_of_error (hs : s.Sound) {error : PredictionError}
    (h : (s.apply r now).1 = .error error) : (s.apply r now).2 = s := by
  rcases apply_cases hs r now with ⟨e, hError⟩ |
    ⟨c, seconds, ref, b, b', -, -, -, -, ⟨-, hApply⟩ | ⟨-, hApply⟩⟩
  · rw [hError]
  · rw [hApply] at h
    cases h
  · rw [hApply] at h
    cases h

/-- An answer that is not taken for a parked batch leaves it as it is, and in its place. -/
theorem apply_others (hs : s.Sound) {id : BatchId} (hParked : s.parked.find? id = some p)
    (hOther : ∀ c seconds q b, s.Accepts r now c seconds q b → q.batch ≠ p.batch) :
    (s.apply r now).2.get? p.batch = s.get? p.batch ∧
      (s.apply r now).2.parked.find? id = s.parked.find? id := by
  cases hResult : (s.apply r now).1 with
  | error e =>
    rw [apply_of_error hs hResult]
    exact ⟨rfl, rfl⟩
  | ok outcome =>
    obtain ⟨c, seconds, q, b, hAccepts⟩ := accepts_of_apply hs hResult
    obtain ⟨_, -, hAnswers⟩ := hAccepts.apply hs
    have hApart := hOther c seconds q b hAccepts
    -- so the answer names another id
    have hId : id ≠ c.batch := by
      intro hEq
      have hSame := hAccepts.parked
      rw [← hEq, hParked] at hSame
      exact hApart (congrArg Parked.batch (Option.some.inj hSame)).symm
    refine ⟨hAnswers.others p.batch hApart.symm, ?_⟩
    rw [hAnswers.parked, if_neg fun hBoth => hId hBoth.2]

/-- An answer is taken iff it is accepted. Then it changes what `Answers` says; otherwise it changes
nothing. -/
theorem apply_exact (hs : s.Reachable) (r : InferenceResponse) (now : Instant) :
    ((∃ outcome, (s.apply r now).1 = .ok outcome) ↔
      ∃ c seconds p b, s.Accepts r now c seconds p b) ∧
    (∀ c seconds p b, s.Accepts r now c seconds p b →
      ∃ outcome, (s.apply r now).1 = .ok outcome ∧
        Answers c seconds p.batch b outcome s (s.apply r now).2) ∧
    ∀ error, (s.apply r now).1 = .error error → (s.apply r now).2 = s := by
  refine ⟨⟨?_, ?_⟩, ?_, ?_⟩
  · rintro ⟨outcome, h⟩
    exact accepts_of_apply hs.sound h
  · rintro ⟨c, seconds, p, b, h⟩
    obtain ⟨outcome, hOk, -⟩ := h.apply hs.sound
    exact ⟨outcome, hOk⟩
  · intro c seconds p b h
    exact h.apply hs.sound
  · intro error h
    exact apply_of_error hs.sound h

/-- The first of two answers is taken. -/
theorem apply_exact_sample : Sample.store.Reachable ∧
    ∃ c seconds p b,
      Sample.store.Accepts (Sample.answer 7 120) (Sample.clock 10) c seconds p b := by
  have hTaken : (Sample.store.apply (Sample.answer 7 120) (Sample.clock 10)).1 =
      .ok (.pending 1) := by
    decide +kernel
  refine ⟨Sample.reachable_store, ?_⟩
  exact (apply_exact Sample.reachable_store _ _).1.1 ⟨_, hTaken⟩

end Exact

end BatchStore

end TransitForecast
