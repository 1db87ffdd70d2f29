import TransitForecast.Engine.Report
import TransitForecast.Proofs.Awaiting

/-!
# TransitForecast — batches and what they await

A batch awaits the inferences of its trips. As an engine builds it, a batch has every trip once,
nothing of it is published, and its requests match what it awaits one to one.
Answering an inference takes it away from one trip and touches nothing else.

## Results

* `fresh_predictVehicle` — what an engine builds is a fresh batch: sound, unpublished, and with one
  request for each inference that it awaits.
* `answer_eq_ok_iff`     — what a batch is after an answer.
* `answer_isOk_iff`      — an answer is taken iff its inference is awaited.
* `pending_answer`       — then one inference less is awaited.
-/

namespace TransitForecast

namespace Batch

/-- What the trips of a batch await: each inference with the id of its trip. -/
def awaited (b : Batch) : List (String × InferenceKey) :=
  b.trips.flatMap fun p => p.awaitedKeys.map fun key => (p.deviation.trip, key)

/-- The trips of a batch are sound, each occurs once, and its id names its vehicle and its time. -/
structure Sound (b : Batch) : Prop where
  trips : ∀ p ∈ b.trips, p.Sound
  distinct : (b.trips.map fun p => p.deviation.trip).Nodup
  id : b.id = .make b.vehicle b.createdAt

/-- A claim leaves the trips as they are. -/
theorem Sound.claim {b : Batch} (hb : b.Sound) : { b with published := true }.Sound :=
  ⟨hb.trips, hb.distinct, hb.id⟩

/-- No other trip of a batch has the id of one of its trips. -/
theorem Sound.ne_trip_of_mem_back {b : Batch} (hb : b.Sound) {front back : List TripPrediction}
    {p : TripPrediction} (hEq : b.trips = front ++ p :: back) {trip : String}
    (hp : p.deviation.trip = trip) : ∀ q ∈ back, q.deviation.trip ≠ trip := by
  intro q hq hTrip
  have hDistinct := hb.distinct
  rw [hEq, List.map_append, List.map_cons, List.nodup_append, List.nodup_cons] at hDistinct
  exact hDistinct.2.1.1 (List.mem_map.2 ⟨q, hq, hTrip.trans hp.symm⟩)

theorem mem_awaited_iff {b : Batch} {trip : String} {key : InferenceKey} :
    (trip, key) ∈ b.awaited ↔
      ∃ p ∈ b.trips, p.deviation.trip = trip ∧ key ∈ p.awaitedKeys := by
  rw [awaited, List.mem_flatMap]
  constructor
  · rintro ⟨p, hp, h⟩
    obtain ⟨k, hk, hEq⟩ := List.mem_map.1 h
    cases hEq
    exact ⟨p, hp, rfl, hk⟩
  · rintro ⟨p, hp, rfl, hk⟩
    exact ⟨p, hp, List.mem_map.2 ⟨key, hk, rfl⟩⟩

theorem length_awaited (b : Batch) : b.awaited.length = b.pending := by
  rw [awaited, pending]
  induction b.trips with
  | nil => rfl
  | cons p rest ih =>
    rw [List.flatMap_cons, List.length_append, ih, List.length_map,
      TripPrediction.length_awaitedKeys, List.foldr_cons]

/-- A batch awaits nothing iff none of its trips does. -/
theorem pending_eq_zero_iff {b : Batch} : b.pending = 0 ↔ ∀ p ∈ b.trips, p.pending = 0 := by
  rw [pending]
  induction b.trips with
  | nil => simp
  | cons p rest ih =>
    rw [List.foldr_cons, Nat.add_eq_zero_iff, ih]
    simp

-- ---------------------------------------------------------------------------
-- Answers
-- ---------------------------------------------------------------------------

section Answer

variable {b b' : Batch} {c : CorrelationId} {seconds : Float}

theorem answerTrips?_eq_some_iff {trip : String} {key : InferenceKey}
    {trips trips' : List TripPrediction} :
    answerTrips? trip key seconds trips = some trips' ↔
      ∃ front p back p', trips = front ++ p :: back ∧
        (∀ q ∈ front, q.deviation.trip ≠ trip) ∧ p.deviation.trip = trip ∧
        p.answer? key seconds = some p' ∧ trips' = front ++ p' :: back := by
  induction trips generalizing trips' with
  | nil => simp [answerTrips?]
  | cons q rest ih =>
    rw [answerTrips?]
    by_cases hq : q.deviation.trip = trip
    · rw [if_pos hq, Option.map_eq_some_iff]
      constructor
      · rintro ⟨p', hp', rfl⟩
        exact ⟨[], q, rest, p', rfl, by simp, hq, hp', rfl⟩
      · rintro ⟨front, p, back, p', hEq, hFront, hp, hp', rfl⟩
        cases front with
        | nil =>
          cases hEq
          exact ⟨p', hp', rfl⟩
        | cons x front =>
          -- the first trip with the id is the one that is answered
          cases hEq
          exact absurd hq (hFront q (List.mem_cons_self ..))
    · rw [if_neg hq, Option.map_eq_some_iff]
      constructor
      · rintro ⟨more, hMore, rfl⟩
        obtain ⟨front, p, back, p', rfl, hFront, hp, hp', rfl⟩ := ih.1 hMore
        refine ⟨q :: front, p, back, p', rfl, ?_, hp, hp', rfl⟩
        intro x hx
        rcases List.mem_cons.1 hx with rfl | hx
        · exact hq
        · exact hFront x hx
      · rintro ⟨front, p, back, p', hEq, hFront, hp, hp', rfl⟩
        cases front with
        | nil =>
          cases hEq
          exact absurd hp hq
        | cons x front =>
          cases hEq
          exact ⟨front ++ p' :: back, ih.2 ⟨front, p, back, p', rfl,
            fun y hy => hFront y (List.mem_cons_of_mem _ hy), hp, hp', rfl⟩, rfl⟩

/-- An answer changes the first trip with its id, and nothing else of the batch. -/
theorem answer_eq_ok_iff :
    b.answer c seconds = .ok b' ↔
      ∃ front p back p', b.trips = front ++ p :: back ∧
        (∀ q ∈ front, q.deviation.trip ≠ c.trip) ∧ p.deviation.trip = c.trip ∧
        p.answer? ⟨c.model, c.version⟩ seconds = some p' ∧
        b' = { b with trips := front ++ p' :: back } := by
  unfold answer
  cases hTrips : answerTrips? c.trip ⟨c.model, c.version⟩ seconds b.trips with
  | none =>
    constructor
    · intro h
      cases h
    · rintro ⟨front, p, back, p', hEq, hFront, hp, hp', -⟩
      have := answerTrips?_eq_some_iff.2 ⟨front, p, back, p', hEq, hFront, hp, hp', rfl⟩
      rw [hTrips] at this
      cases this
  | some trips =>
    constructor
    · intro h
      cases h
      obtain ⟨front, p, back, p', hEq, hFront, hp, hp', rfl⟩ :=
        answerTrips?_eq_some_iff.1 hTrips
      exact ⟨front, p, back, p', hEq, hFront, hp, hp', rfl⟩
    · rintro ⟨front, p, back, p', hEq, hFront, hp, hp', rfl⟩
      have := answerTrips?_eq_some_iff.2 ⟨front, p, back, p', hEq, hFront, hp, hp', rfl⟩
      rw [hTrips] at this
      cases this
      rfl

/-- An answer is taken iff its inference is awaited. -/
theorem answer_isOk_iff (hb : b.Sound) :
    (∃ b', b.answer c seconds = .ok b') ↔ (c.trip, ⟨c.model, c.version⟩) ∈ b.awaited := by
  rw [mem_awaited_iff]
  constructor
  · rintro ⟨b', h⟩
    obtain ⟨front, p, back, p', hEq, -, hp, hp', -⟩ := answer_eq_ok_iff.1 h
    refine ⟨p, by rw [hEq]; simp, hp, ?_⟩
    rw [← p.answer?_isSome_iff _ seconds, hp']
    rfl
  · rintro ⟨p, hMem, hp, hKey⟩
    obtain ⟨front, back, hEq⟩ := List.append_of_mem hMem
    rw [← p.answer?_isSome_iff _ seconds, Option.isSome_iff_exists] at hKey
    obtain ⟨p', hp'⟩ := hKey
    refine ⟨_, answer_eq_ok_iff.2 ⟨front, p, back, p', hEq, ?_, hp, hp', rfl⟩⟩
    -- no trip before it has the same id
    intro q hq hTrip
    have hDistinct := hb.distinct
    rw [hEq, List.map_append, List.nodup_append] at hDistinct
    exact hDistinct.2.2 _ (List.mem_map_of_mem hq) p.deviation.trip (by simp) (by rw [hTrip, hp])

theorem pending_answer (h : b.answer c seconds = .ok b') : b'.pending + 1 = b.pending := by
  obtain ⟨front, p, back, p', hEq, -, -, hp', rfl⟩ := answer_eq_ok_iff.1 h
  have hOne := TripPrediction.pending_answer? hp'
  rw [← length_awaited, ← length_awaited, awaited, awaited, hEq]
  simp only [List.flatMap_append, List.flatMap_cons, List.length_append, List.length_map,
    TripPrediction.length_awaitedKeys]
  omega

theorem sound_answer (hb : b.Sound) (h : b.answer c seconds = .ok b') : b'.Sound := by
  obtain ⟨front, p, back, p', hEq, -, -, hp', rfl⟩ := answer_eq_ok_iff.1 h
  obtain ⟨a, -, hAfter⟩ := TripPrediction.answer?_eq_some_iff.1 hp'
  have hOld : ∀ q ∈ front ++ p :: back, q.Sound := hEq ▸ hb.trips
  constructor
  case trips =>
    intro q hq
    rw [List.mem_append, List.mem_cons] at hq
    rcases hq with hq | rfl | hq
    · exact hOld q (by simp [hq])
    · exact TripPrediction.sound_answer? (hOld p (by simp)) hp'
    · exact hOld q (by simp [hq])
  case distinct =>
    have hTrip : p'.deviation = p.deviation := by rw [hAfter]
    have hDistinct := hb.distinct
    rw [hEq] at hDistinct
    simpa only [List.map_append, List.map_cons, hTrip] using hDistinct
  case id => exact hb.id

end Answer

end Batch

-- ---------------------------------------------------------------------------
-- Batches as they are built
-- ---------------------------------------------------------------------------

/-- What a request says about the inference that it asks for: its id, model and version. -/
def InferenceRequest.label (q : InferenceRequest) : String × Int × Int := (q.id, q.model, q.version)

namespace Batch

/-- What the request for an inference of a trip says. -/
def label (b : Batch) (x : String × InferenceKey) : String × Int × Int :=
  ((b.requestId x.1 x.2).render, x.2.model, x.2.version)

/-- A batch right after it was built: nothing of it is published, and each inference that it awaits
has one request. -/
structure Fresh (b : Batch) : Prop where
  sound : b.Sound
  unpublished : b.published = false
  requests : (b.requests.map InferenceRequest.label).Perm (b.awaited.map b.label)

theorem Fresh.length_requests {b : Batch} (hb : b.Fresh) : b.requests.length = b.pending := by
  rw [← length_awaited]
  simpa only [List.length_map] using hb.requests.length_eq

theorem fresh_start (vehicle : String) (createdAt : Instant) : (start vehicle createdAt).Fresh where
  sound := ⟨by simp [start], List.nodup_nil, rfl⟩
  unpublished := rfl
  requests := List.Perm.nil

/-- A trip that a batch does not have yet is added with the requests for what it awaits. -/
theorem Fresh.addTrip {b : Batch} (hb : b.Fresh) {g : TripPredictor.Progress} (hg : g.Sound)
    (hNew : g.prediction.deviation.trip ∉ b.trips.map fun p => p.deviation.trip) :
    (b.addTrip g.prediction g.inferences).Fresh where
  sound := by
    constructor
    case trips =>
      intro p hp
      rcases List.mem_append.1 hp with hOld | hLast
      · exact hb.sound.trips p hOld
      · rw [List.mem_singleton.1 hLast]
        exact hg.prediction
    case distinct =>
      show ((b.trips ++ [g.prediction]).map _).Nodup
      rw [List.map_append, List.map_singleton, List.nodup_append]
      refine ⟨hb.sound.distinct, List.nodup_singleton _, ?_⟩
      intro trip hTrip trip' hTrip' hEq
      rw [List.mem_singleton.1 hTrip'] at hEq
      exact hNew (hEq ▸ hTrip)
    case id => exact hb.sound.id
  unpublished := hb.unpublished
  requests := by
    have hKeys : (g.inferences.map Inference.key).Perm g.prediction.awaitedKeys := by
      rw [hg.keys]
      exact (List.reverse_perm _).symm
    have hLast := hKeys.map fun key => b.label (g.prediction.deviation.trip, key)
    simp only [awaited, Batch.addTrip, List.flatMap_append, List.map_append, List.map_map,
      List.flatMap_cons, List.flatMap_nil, List.append_nil] at hLast ⊢
    exact hb.requests.append hLast

end Batch

namespace Engine

/-- Keeping the first deviation of each trip leaves no trip twice. -/
theorem nodup_firstOfEachTrip (found : List (TripPredictor × Deviation)) :
    ((firstOfEachTrip found).map fun x => x.2.trip).Nodup := by
  induction found with
  | nil => exact List.nodup_nil
  | cons x rest ih =>
    rw [firstOfEachTrip, List.map_cons, List.nodup_cons]
    constructor
    · intro hMem
      obtain ⟨y, hy, hTrip⟩ := List.mem_map.1 hMem
      exact of_decide_eq_true (List.mem_filter.1 hy).2 hTrip
    · exact ih.sublist (List.filter_sublist.map _)

theorem fresh_predictTrips {found : List (TripPredictor × Deviation)} :
    ∀ {e : Engine} {b b' : Batch}, b.Fresh →
      (b.trips.map (fun p => p.deviation.trip) ++ found.map fun x => x.2.trip).Nodup →
      (e.predictTrips b found).1 = .ok b' → b'.Fresh ∧ b'.vehicle = b.vehicle := by
  induction found with
  | nil =>
    intro e b b' hb _ h
    cases h
    exact ⟨hb, rfl⟩
  | cons x rest ih =>
    intro e b b' hb hDistinct h
    obtain ⟨predictor, d⟩ := x
    rw [predictTrips] at h
    cases hRange : predictor.inRange d with
    | error halt =>
      rw [hRange] at h
      cases h
    | ok near =>
      rw [hRange] at h
      rw [List.map_cons, List.nodup_append] at hDistinct
      obtain ⟨hOld, hFound, hApart⟩ := hDistinct
      rw [List.nodup_cons] at hFound
      cases near with
      | false =>
        refine ih hb ?_ h
        rw [List.nodup_append]
        exact ⟨hOld, hFound.2, fun t ht t' ht' => hApart t ht t' (List.mem_cons_of_mem _ ht')⟩
      | true =>
        dsimp only at h
        cases hPredict : predictor.predict e.calendar e.transitions d with
        | error halt =>
          rw [hPredict] at h
          cases h
        | ok g =>
          rw [hPredict] at h
          have hTrip := TripPredictor.predict_deviation hPredict
          have hNew : g.prediction.deviation.trip ∉
              b.trips.map fun p => p.deviation.trip := by
            rw [hTrip]
            exact fun hMem => hApart _ hMem d.trip (List.mem_cons_self ..) rfl
          have hNext : ((b.addTrip g.prediction g.inferences).trips.map
              (fun p => p.deviation.trip) ++ rest.map fun x => x.2.trip).Nodup := by
            show ((b.trips ++ [g.prediction]).map _ ++ _).Nodup
            rw [List.map_append, List.map_singleton, hTrip, List.append_assoc,
              List.singleton_append, List.nodup_append, List.nodup_cons]
            exact ⟨hOld, hFound, hApart⟩
          have hLast := ih (hb.addTrip (TripPredictor.sound_predict hPredict) hNew) hNext h
          exact hLast

/-- What an engine builds for a vehicle is a fresh batch of that vehicle. -/
theorem fresh_predictVehicle {e : Engine} {vehicle : String} {deviations : List Deviation}
    {b : Batch} (h : (e.predictVehicle vehicle deviations).1 = .ok (some b)) :
    b.Fresh ∧ b.vehicle = vehicle := by
  unfold predictVehicle at h
  split at h
  · cases h
  · rename_i found e' _
    dsimp only at h
    split at h
    · cases h
    · rename_i createdAt _
      split at h
      · cases h
      · rename_i b₁ e₁ hTrips
        split at h
        · cases h
        · cases h
          refine fresh_predictTrips (Batch.fresh_start vehicle createdAt) ?_
            (congrArg Prod.fst hTrips)
          exact nodup_firstOfEachTrip _

end Engine

end TransitForecast
