import TransitForecast.Proofs.Binding
import TransitForecast.Proofs.Confluence
import TransitForecast.Proofs.Coverage
import TransitForecast.Proofs.Plan
import TransitForecast.Proofs.Readability

/-!
# TransitForecast — requests that can be answered

A batch that a report has parked waits for the answers to its requests. Whatever else happens, as
long as it has its place each answer in time is taken iff the id of its request can be read back.
The batch is published iff the answers to all its requests were taken; so a batch with a request
whose id cannot be read back never is.

## Results

* `awaited_of_makes` — a trip awaits inferences of models of the plan only.
* `Tracks.handle`, `Tracks.run` — what has become of a batch is told by the answers taken for it.
* `taken_iff_readable` — which answers are taken, and which batches are published.
-/

namespace TransitForecast

-- ---------------------------------------------------------------------------
-- Which models are asked
-- ---------------------------------------------------------------------------

/-- Whether the numbers of a model are those of a key. -/
def TravelModel.HasKey (m : TravelModel) (key : InferenceKey) : Prop :=
  key = ⟨m.id, m.version⟩

theorem ModelRegistry.mem_values_of_forRun {models : ModelRegistry} {run : List Stop}
    {m : TravelModel} (h : models.forRun run = some m) : m ∈ models.values :=
  List.mem_map_of_mem (Table.find?_eq_some_iff.1 h)

/-- A segment has a model of the registry, or none. -/
theorem Trust.model_of_mem_segments {t : Trust} {models : ModelRegistry} {run : List Stop}
    {lo : Nat} {s : Segment} (h : s ∈ t.segments models run lo) {m : TravelModel}
    (hModel : s.model = some m) : m ∈ models.values := by
  rw [model_eq_forRun h] at hModel
  exact ModelRegistry.mem_values_of_forRun hModel

namespace TripPredictor

variable {calendar : ServiceCalendar} {d : Deviation}

/-- A prediction asks for inferences of the models of its segments only. -/
theorem model_of_awaited {p : TripPredictor} {store : ObservedTransitions} {g : Progress}
    (h : p.predict calendar store d = .ok g) {key : InferenceKey}
    (hKey : key ∈ g.prediction.awaitedKeys) :
    ∃ s ∈ p.segments, ∃ m, s.model = some m ∧ m.HasKey key := by
  have hAsked : ∀ i ∈ g.inferences, ∃ s ∈ p.segments, ∃ m, s.model = some m ∧ m.HasKey i.key := by
    refine predict_induction
      (P := fun g => ∀ i ∈ g.inferences, ∃ s ∈ p.segments, ∃ m, s.model = some m ∧ m.HasKey i.key)
      nofun (fun {acc g s} hs hOld hAdd i hi => ?_) (fun _ hOld => hOld) h
    rcases addSegment_cases hAdd with ⟨-, hInferences⟩ | ⟨m, _, hModel, -, -, hInferences⟩
    · exact hOld i (hInferences ▸ hi)
    · rw [hInferences, List.mem_append, List.mem_singleton] at hi
      rcases hi with hi | rfl
      · exact hOld i hi
      · exact ⟨s, hs, m, hModel, rfl⟩
  obtain ⟨i, hi, rfl⟩ := (sound_predict h).mem_awaitedKeys_iff.1 hKey
  exact hAsked i hi

end TripPredictor

namespace Engine

/-- A trip awaits inferences of models of the plan only. -/
theorem Plan.Makes.model_of_awaited {c : Plan} {p : TripPrediction} (h : c.Makes p)
    {key : InferenceKey} (hKey : key ∈ p.awaitedKeys) :
    ∃ m ∈ c.models.values, m.HasKey key := by
  obtain ⟨trip, store, g, -, hPredict, rfl⟩ := h
  obtain ⟨s, hs, m, hModel, hHas⟩ := TripPredictor.model_of_awaited hPredict hKey
  obtain ⟨run, -, hSegment⟩ := List.mem_flatMap.1 hs
  exact ⟨m, Trust.model_of_mem_segments hSegment hModel, hHas⟩

-- ---------------------------------------------------------------------------
-- Answers that are taken
-- ---------------------------------------------------------------------------

/-- Whether an event is an answer to a request of a parked batch, and is taken. -/
def TakesNow (c : CorrelationId) (p : Parked) (e : Engine) (event : Event) : Prop :=
  ∃ r now outcome, event = .response r now ∧ CorrelationId.parse r.request = .ok c ∧
    e.batches.parked.find? c.batch = some p ∧ (e.handleResponse r now).1 = .ok outcome

/-- Whether an answer to a request of a parked batch is taken during a run. -/
def Takes (c : CorrelationId) (p : Parked) : Engine → List Event → Prop
  | _, [] => False
  | e, event :: rest => TakesNow c p e event ∨ Takes c p (e.handle event) rest

theorem readable_of_takes {c : CorrelationId} {p : Parked} {events : List Event} :
    ∀ {e : Engine}, Takes c p e events → c.Readable := by
  induction events with
  | nil => exact fun h => h.elim
  | cons event rest ih =>
    rintro e (⟨r, now, outcome, -, hParse, -⟩ | hLater)
    · exact CorrelationId.readable_of_parse hParse
    · exact ih hLater

/-- What has become of a batch: it awaits what no answer was taken for, it is published iff it
awaits nothing, and then its updates are on their way. -/
structure Tracks (e : Engine) (p : Parked) (b : Batch) (taken : String × InferenceKey → Prop) :
    Prop where
  reachable : e.batches.Reachable
  keeps : e.Keeps
  /-- If the batch has a place it is the one that it was given. -/
  place : ∀ q, e.batches.parked.find? b.id = some q → q.batch = p.batch → q = p
  batch : ∃ b', e.batches.get? p.batch = some b' ∧ b'.id = b.id ∧
    (∀ x, x ∈ b'.awaited ↔ x ∈ b.awaited ∧ ¬ taken x) ∧
    (b'.published = true ↔ b'.awaited = []) ∧
    (b'.published = true → e.core.publish (e.updateRules.buildBatch b') <:+: e.journal)

section Steps

variable {e : Engine} {p : Parked} {b b' : Batch} {taken : String × InferenceKey → Prop}

/-- A vehicle does not touch the batches before it, and gives its own place to none of them. -/
theorem VehicleEffect.keeps_place {s s' : BatchStore} {vehicle : String} {now : Instant}
    {result : Except Halt (Option BatchRef)} (hEffect : VehicleEffect s vehicle now result s')
    {id : BatchId}
    (h : s.get? p.batch = some b' ∧ ∀ q, s.parked.find? id = some q → q.batch = p.batch → q = p) :
    s'.get? p.batch = some b' ∧
      ∀ q, s'.parked.find? id = some q → q.batch = p.batch → q = p := by
  obtain ⟨hGet, hPlace⟩ := h
  refine ⟨hEffect.get?_before hGet, ?_⟩
  rcases hEffect.place_cases id with hSame | ⟨own, hFound, hNew⟩
  · rw [hSame]
    exact hPlace
  · intro q hq hBatch
    rw [hFound] at hq
    cases hq
    have hOld := BatchStore.lt_length_of_get? hGet
    exact absurd (hNew.symm.trans hBatch) (Nat.ne_of_gt hOld)

/-- What does not touch the batch leaves it as it is. -/
theorem Tracks.keep (h : e.Tracks p b taken) {event : Event}
    (hBatch : (e.handle event).batches.get? p.batch = e.batches.get? p.batch)
    (hPlace : ∀ q, (e.handle event).batches.parked.find? b.id = some q → q.batch = p.batch → q = p)
    (hNone : ∀ x : String × InferenceKey, ¬ TakesNow (b.requestId x.1 x.2) p e event) :
    (e.handle event).Tracks p b fun x => taken x ∨ TakesNow (b.requestId x.1 x.2) p e event := by
  obtain ⟨b', hGet, hId, hAwaited, hPublished, hSent⟩ := h.batch
  obtain ⟨sent, hFollows⟩ := follows_handle h.keeps event
  obtain ⟨hPublish, hRules⟩ := e.publish_handle event
  refine ⟨reachable_handle h.reachable event, hFollows.keeps h.keeps, hPlace, b',
    hBatch.trans hGet, hId, fun x => ?_, hPublished, fun hDone => ?_⟩
  · rw [hAwaited, or_iff_left (hNone x)]
  · obtain ⟨before, after, hEq⟩ := hSent hDone
    rw [hPublish, hRules, hFollows.journal]
    exact ⟨before, after ++ sent, by rw [← List.append_assoc, hEq]⟩

/-- An answer that is accepted is taken for one inference and no other. -/
theorem takesNow_iff_of_accepts (hs : e.batches.Sound) {r : InferenceResponse} {now : Instant}
    {c : CorrelationId} {seconds : Float} (hAccepts : e.batches.Accepts r now c seconds p b')
    (hId : c.batch = b.id) (x : String × InferenceKey) :
    TakesNow (b.requestId x.1 x.2) p e (.response r now) ↔ x = (c.trip, ⟨c.model, c.version⟩) := by
  constructor
  · rintro ⟨r', now', outcome', hEvent, hParse, -⟩
    cases hEvent
    rw [hAccepts.request] at hParse
    cases hParse
    rfl
  · rintro rfl
    obtain ⟨outcome, hOk, -⟩ := hAccepts.apply hs
    have hSame : b.requestId c.trip ⟨c.model, c.version⟩ = c := by
      rw [Batch.requestId, ← hId]
    rw [hSame]
    exact ⟨r, now, outcome, rfl, hAccepts.request, hAccepts.parked,
      (e.core_handleResponse r now).1.trans hOk⟩

/-- An answer that is taken for the batch settles its inference. -/
theorem Tracks.answer (h : e.Tracks p b taken) {r : InferenceResponse} {now : Instant}
    {c : CorrelationId} {seconds : Float} (hAccepts : e.batches.Accepts r now c seconds p b')
    (hId : c.batch = b.id) :
    (e.handle (.response r now)).Tracks p b
      fun x => taken x ∨ TakesNow (b.requestId x.1 x.2) p e (.response r now) := by
  obtain ⟨old, hGet, hOldId, hAwaited, hPublished, -⟩ := h.batch
  rw [hAccepts.batch] at hGet
  cases hGet
  have hSound := h.reachable.sound
  obtain ⟨sent, hFollows⟩ := follows_handle h.keeps (.response r now)
  obtain ⟨hPublish, hRules⟩ := e.publish_handle (.response r now)
  have hNew : ∀ x, x ∈ (b'.settle (c.trip, ⟨c.model, c.version⟩) seconds).awaited ↔
      x ∈ b.awaited ∧ ¬ (taken x ∨ TakesNow (b.requestId x.1 x.2) p e (.response r now)) := by
    intro x
    rw [Batch.awaited_settle, List.mem_filter, hAwaited, decide_eq_true_eq, not_or, and_assoc,
      takesNow_iff_of_accepts hSound hAccepts hId]
  have hPlace : ∀ q, (e.handle (.response r now)).batches.parked.find? b.id = some q →
      q.batch = p.batch → q = p := by
    intro q hFound
    obtain ⟨outcome, -, hAnswers⟩ := hAccepts.apply hSound
    rw [handle, batches_handleResponse, hAnswers.parked] at hFound
    split at hFound
    · cases hFound
    · exact h.place q hFound
  rcases hAccepts.settles hSound with ⟨hMore, hApply⟩ | ⟨hLast, hApply⟩
  · -- the batch awaits others, so it is not published
    have hBefore : b'.awaited ≠ [] := List.ne_nil_of_mem hAccepts.awaited
    have hOpen : (b'.settle (c.trip, ⟨c.model, c.version⟩) seconds).published ≠ true :=
      fun hDone => hBefore (hPublished.1 hDone)
    refine ⟨reachable_handle h.reachable _, hFollows.keeps h.keeps, hPlace,
      b'.settle (c.trip, ⟨c.model, c.version⟩) seconds, ?_, hOldId, hNew,
      iff_of_false hOpen hMore, fun hDone => absurd hDone hOpen⟩
    rw [handle, batches_handleResponse, hApply]
    exact BatchStore.get?_set_self hAccepts.batch _
  · have hGet' : (e.batches.apply r now).2.get? p.batch = some
        { b'.settle (c.trip, ⟨c.model, c.version⟩) seconds with published := true } := by
      rw [hApply]
      exact BatchStore.get?_set_self hAccepts.batch _
    refine ⟨reachable_handle h.reachable _, hFollows.keeps h.keeps, hPlace,
      { b'.settle (c.trip, ⟨c.model, c.version⟩) seconds with published := true }, ?_, hOldId,
      hNew, iff_of_true rfl hLast, fun _ => ?_⟩
    · rw [handle, batches_handleResponse]
      exact hGet'
    · have hJournal := journal_of_complete (e := e) (by rw [hApply]) hGet'
      rw [hPublish, hRules, handle, hJournal]
      exact (List.suffix_append _ _).isInfix

/-- An answer that is taken for another batch leaves the batch as it is. -/
theorem Tracks.foreign (h : e.Tracks p b taken) {r : InferenceResponse} {now : Instant}
    {c : CorrelationId} {seconds : Float} {q : Parked}
    (hAccepts : e.batches.Accepts r now c seconds q b') (hOther : q.batch ≠ p.batch) :
    (e.handle (.response r now)).Tracks p b
      fun x => taken x ∨ TakesNow (b.requestId x.1 x.2) p e (.response r now) := by
  obtain ⟨_, -, hAnswers⟩ := hAccepts.apply h.reachable.sound
  refine h.keep ?_ ?_ ?_
  · rw [Engine.handle, batches_handleResponse]
    exact hAnswers.others p.batch fun hEq => hOther hEq.symm
  · intro q' hFound
    rw [Engine.handle, batches_handleResponse, hAnswers.parked] at hFound
    split at hFound
    · cases hFound
    · exact h.place q' hFound
  · rintro x ⟨r', now', outcome', hEvent, hParse, hFound, -⟩
    cases hEvent
    rw [hAccepts.request] at hParse
    cases hParse
    rw [hAccepts.parked] at hFound
    exact hOther (congrArg Parked.batch (Option.some_inj.1 hFound))

/-- An answer that is refused leaves the batch as it is. -/
theorem Tracks.refused (h : e.Tracks p b taken) {r : InferenceResponse} {now : Instant}
    {error : PredictionError} (hError : (e.handleResponse r now).1 = .error error) :
    (e.handle (.response r now)).Tracks p b
      fun x => taken x ∨ TakesNow (b.requestId x.1 x.2) p e (.response r now) := by
  have hSame : (e.handle (.response r now)).batches = e.batches := by
    rw [Engine.handle, batches_handleResponse]
    exact BatchStore.apply_of_error h.reachable.sound
      ((e.core_handleResponse r now).1.symm.trans hError)
  refine h.keep (by rw [hSame]) (by rw [hSame]; exact h.place) ?_
  rintro x ⟨r', now', outcome, hEvent, -, -, hOk⟩
  cases hEvent
  rw [hError] at hOk
  cases hOk

/-- Nothing else becomes of the batch than what is told by the answers taken for it. -/
theorem Tracks.handle (h : e.Tracks p b taken) (event : Event) :
    (e.handle event).Tracks p b
      fun x => taken x ∨ TakesNow (b.requestId x.1 x.2) p e event := by
  obtain ⟨b', hGet, hId, -⟩ := h.batch
  cases event with
  | observe ts => exact h.keep rfl h.place fun x ⟨_, _, _, hEvent, _⟩ => nomatch hEvent
  | sweep now =>
    refine h.keep rfl (fun q hFound => ?_) fun x ⟨_, _, _, hEvent, _⟩ => nomatch hEvent
    have hSwept : (e.batches.sweep now).parked.find? b.id = some q := hFound
    rw [BatchStore.find?_sweep, Option.filter_eq_some_iff] at hSwept
    exact h.place q hSwept.1
  | report r now =>
    obtain ⟨s', ⟨hGet', hPlace⟩, hCore⟩ := handleReport_induction (P := fun s =>
      s.get? p.batch = some b' ∧ ∀ q, s.parked.find? b.id = some q → q.batch = p.batch → q = p) now
      (fun hEffect hBefore => hEffect.keeps_place hBefore) e r ⟨hGet, h.place⟩
    have hStore : (e.handle (.report r now)).batches = s' := congrArg Core.batches hCore
    refine h.keep ?_ ?_ fun x ⟨_, _, _, hEvent, _⟩ => nomatch hEvent
    · rw [hStore, hGet', hGet]
    · rw [hStore]
      exact hPlace
  | response r now =>
    cases hResult : (e.handleResponse r now).1 with
    | error error => exact h.refused hResult
    | ok outcome =>
      obtain ⟨c, seconds, q, b'', hAccepts⟩ := BatchStore.accepts_of_apply h.reachable.sound
        ((e.core_handleResponse r now).1.symm.trans hResult)
      by_cases hOwn : q.batch = p.batch
      · -- an answer for the batch comes under its id
        obtain ⟨own, hOwnGet, hOwnId⟩ := h.reachable.sound.parked hAccepts.parked
        rw [hOwn, hGet] at hOwnGet
        cases hOwnGet
        have hBatchId : c.batch = b.id := hOwnId.symm.trans hId
        have hSame : q = p := h.place q (hBatchId ▸ hAccepts.parked) hOwn
        subst hSame
        exact h.answer hAccepts hBatchId
      · exact h.foreign hAccepts hOwn

/-- An answer in time to an inference that the batch still awaits is taken, if its id reads as that
of the request. -/
theorem Tracks.takes_answer (h : e.Tracks p b taken) {x : String × InferenceKey}
    (hx : x ∈ b.awaited) (hOpen : ¬ taken x)
    (hParse : CorrelationId.parse (b.requestId x.1 x.2).render = .ok (b.requestId x.1 x.2))
    (hPlace : e.batches.parked.find? b.id = some p) {now : Instant} (hNow : now ≤ p.expiresAt)
    {seconds : Float} (hFinite : seconds.isFinite = true) (hRange : seconds.abs ≤ 86400) :
    ∃ outcome, (e.handleResponse ⟨(b.requestId x.1 x.2).render, some seconds, none⟩ now).1 =
      .ok outcome := by
  obtain ⟨b', hGet, -, hAwaited, -, -⟩ := h.batch
  have hAccepts : e.batches.Accepts ⟨(b.requestId x.1 x.2).render, some seconds, none⟩ now
      (b.requestId x.1 x.2) seconds p b' :=
    ⟨hParse, rfl, rfl, hFinite, hRange, hPlace, hNow, hGet, (hAwaited x).2 ⟨hx, hOpen⟩⟩
  obtain ⟨outcome, hOk, -⟩ := hAccepts.apply h.reachable.sound
  exact ⟨outcome, (e.core_handleResponse _ now).1.trans hOk⟩

/-- An answer under an id that cannot be read is refused, and changes nothing. -/
theorem refuses_unreadable {request : String} {error : PredictionError}
    (h : CorrelationId.parse request = .error error) (e : Engine) (seconds : Float)
    (now : Instant) :
    (e.handleResponse ⟨request, some seconds, none⟩ now).1 = .error error ∧
      (e.handleResponse ⟨request, some seconds, none⟩ now).2.core = e.core := by
  have hApply : e.batches.apply ⟨request, some seconds, none⟩ now = (.error error, e.batches) := by
    rw [BatchStore.apply, BatchStore.reading, h]
  obtain ⟨hOutcome, hCore⟩ := e.core_handleResponse ⟨request, some seconds, none⟩ now
  refine ⟨hOutcome.trans (by rw [hApply]), ?_⟩
  rw [hCore, hApply]
  rfl

/-- The batch is published iff answers to all that it awaited were taken, and then its updates are
sent. -/
theorem Tracks.published_iff (h : e.Tracks p b taken) :
    ∃ b', e.batches.get? p.batch = some b' ∧ (b'.published = true ↔ ∀ x ∈ b.awaited, taken x) ∧
      (b'.published = true → e.core.publish (e.updateRules.buildBatch b') <:+: e.journal) := by
  obtain ⟨b', hGet, -, hAwaited, hPublished, hSent⟩ := h.batch
  refine ⟨b', hGet, hPublished.trans ?_, hSent⟩
  rw [List.eq_nil_iff_forall_not_mem]
  constructor
  · intro hNone x hx
    by_contra hOpen
    exact hNone x ((hAwaited x).2 ⟨hx, hOpen⟩)
  · intro hAll x hx
    obtain ⟨hMem, hOpen⟩ := (hAwaited x).1 hx
    exact hOpen (hAll x hMem)

theorem Tracks.congr {taken' : String × InferenceKey → Prop} (h : e.Tracks p b taken)
    (hSame : ∀ x, taken x ↔ taken' x) : e.Tracks p b taken' := by
  have hEq : taken = taken' := funext fun x => propext (hSame x)
  exact hEq ▸ h

/-- However long the engine runs, the answers taken for a batch tell what has become of it. -/
theorem Tracks.run (events : List Event) :
    ∀ {e : Engine} {taken : String × InferenceKey → Prop}, e.Tracks p b taken →
      (e.run events).Tracks p b fun x => taken x ∨ Takes (b.requestId x.1 x.2) p e events := by
  induction events with
  | nil => exact fun h => h.congr fun x => (or_false _).symm ▸ Iff.rfl
  | cons event rest ih =>
    intro e taken h
    exact (ih (h.handle event)).congr fun x => or_assoc

end Steps

-- ---------------------------------------------------------------------------
-- Batches that a report parks
-- ---------------------------------------------------------------------------

/-- What is known of a batch that a report has parked, with the models that it asks. -/
theorem parked_of_handleReport {settings : EngineSettings} {timetable : Timetable}
    {models : ModelRegistry} {holidays : Holidays} {refusedTrips : List String} {wall : Instant}
    {start : Engine}
    (hStart : start? settings timetable models holidays refusedTrips wall = some start)
    (before : List Event) (r : VehicleReport) (now : Instant) {id : BatchId} {p : Parked}
    (hParked : ((start.run before).handleReport r now).2.batches.parked.find? id = some p)
    (hNew : (start.run before).batches.batches.length ≤ p.batch) :
    ∃ b, ((start.run before).handleReport r now).2.Tracks p b (fun _ => False) ∧
      ((start.run before).handleReport r now).2.batches.get? p.batch = some b ∧ b.Fresh ∧
      b.id = id ∧ b.requests ≠ [] ∧
      ∀ x ∈ b.awaited, ∃ m ∈ models.values, m.HasKey x.2 := by
  obtain ⟨hStartKeeps, -, hModels, -⟩ := keeps_start hStart
  obtain ⟨_, hRun⟩ := follows_run before hStartKeeps
  have hKeeps : (start.run before).Keeps := hRun.keeps hStartKeeps
  have hEmpty : start.batches = .empty settings.batchLifetime :=
    congrArg Core.batches (core_start hStart)
  have hReachable : (start.run before).batches.Reachable :=
    reachable_run (hEmpty ▸ .empty settings.batchLifetime) before
  obtain ⟨b, hHolds, rfl, hRequests⟩ := holds_of_handleReport hReachable r now hParked hNew
  obtain ⟨_, made, hReport⟩ := advances_handleReport hKeeps r now
  -- the batch is one of those that the report has made
  have hMade : b ∈ made := by
    have hGet := hHolds.batch
    rw [BatchStore.get?, hReport.batches, List.getElem?_append_right hNew] at hGet
    exact List.mem_of_getElem? hGet
  have hAsked : ∀ x ∈ b.awaited, ∃ m ∈ models.values, m.HasKey x.2 := by
    intro x hx
    obtain ⟨t, ht, -, hKey⟩ := Batch.mem_awaited_iff.1 hx
    have hMakes := (hReport.serves b hMade t ht).2
    rw [hRun.plan] at hMakes
    obtain ⟨m, hm, hHas⟩ := hMakes.model_of_awaited hKey
    have hRegistry : start.plan.models = models := hModels
    exact ⟨m, hRegistry ▸ hm, hHas⟩
  have hFresh := hHolds.built.fresh
  have hAwaits : b.awaited ≠ [] := by
    intro hNil
    have hNone := hFresh.length_requests
    rw [← Batch.length_awaited, hNil] at hNone
    exact hRequests (List.length_eq_zero_iff.1 hNone)
  have hOpen : b.published ≠ true := by
    rw [hFresh.unpublished]
    exact Bool.false_ne_true
  refine ⟨b, ⟨hHolds.reachable, hReport.follows.keeps hKeeps, fun q hFound _ => ?_, b, hHolds.batch,
    rfl, fun x => by rw [not_false_eq_true, and_true], iff_of_false hOpen hAwaits,
    fun hDone => absurd hDone hOpen⟩, hHolds.batch, hFresh, rfl, hRequests, hAsked⟩
  exact Option.some_inj.1 (hFound.symm.trans hHolds.parked)

/-- The id of a request that can be read back reads as itself, if the numbers of its model are of
the sizes that models have. -/
theorem parse_of_readable {b : Batch} (hId : b.id = .make b.vehicle b.createdAt)
    {x : String × InferenceKey} (hModel : Decimal.int64.holds x.2.model = true)
    (hVersion : Decimal.int32.holds x.2.version = true)
    (hReadable : (b.requestId x.1 x.2).Readable) :
    CorrelationId.parse (b.requestId x.1 x.2).render = .ok (b.requestId x.1 x.2) := by
  rw [Batch.requestId, hId] at hReadable ⊢
  obtain ⟨hVehicle, hTrip, hModelNat, hVersionNat⟩ := hReadable
  dsimp only at hVehicle hTrip hModelNat hVersionNat
  rw [BatchId.vehicle_make] at hVehicle
  exact CorrelationId.parse_render hVehicle hTrip hModelNat hModel hVersionNat hVersion

/-- While a batch that a report has parked has its place, an answer in time to one of its requests
that was not answered before is taken iff the id of the request can be read back; otherwise it is
refused as malformed and changes nothing. The batch is published, and its updates are sent, iff
answers to all its requests were taken, which never happens to one that cannot be read back. -/
theorem taken_iff_readable {settings : EngineSettings} {timetable : Timetable}
    {models : ModelRegistry} {holidays : Holidays} {refusedTrips : List String} {wall : Instant}
    {start : Engine}
    (hStart : start? settings timetable models holidays refusedTrips wall = some start)
    (hModels : ∀ m ∈ models.values,
      Decimal.int64.holds m.id = true ∧ Decimal.int32.holds m.version = true)
    (before : List Event) (r : VehicleReport) (now : Instant) {id : BatchId} {p : Parked}
    (hParked : ((start.run before).handleReport r now).2.batches.parked.find? id = some p)
    (hNew : (start.run before).batches.batches.length ≤ p.batch) :
    let e := ((start.run before).handleReport r now).2
    ∃ b, e.batches.get? p.batch = some b ∧ b.id = id ∧ b.id = .make b.vehicle b.createdAt ∧
      b.requests ≠ [] ∧ (b.requests.map InferenceRequest.label).Perm (b.awaited.map b.label) ∧
      (∀ x ∈ b.awaited, ∀ after later seconds,
        (e.run after).batches.parked.find? id = some p → later ≤ p.expiresAt →
        ¬ Takes (b.requestId x.1 x.2) p e after →
        seconds.isFinite = true → seconds.abs ≤ 86400 →
        let result := (e.run after).handleResponse
          ⟨(b.requestId x.1 x.2).render, some seconds, none⟩ later
        ((b.requestId x.1 x.2).Readable → ∃ outcome, result.1 = .ok outcome) ∧
        (¬ (b.requestId x.1 x.2).Readable →
          (∃ text, result.1 = .error (.malformedCorrelation text)) ∧
            result.2.core = (e.run after).core)) ∧
      (∀ (x : String × InferenceKey) (after : List Event),
        Takes (b.requestId x.1 x.2) p e after → (b.requestId x.1 x.2).Readable) ∧
      ∀ after, ∃ b', (e.run after).batches.get? p.batch = some b' ∧
        (b'.published = true ↔ ∀ x ∈ b.awaited, Takes (b.requestId x.1 x.2) p e after) ∧
        (b'.published = true → (e.run after).core.publish
          ((e.run after).updateRules.buildBatch b') <:+: (e.run after).journal) := by
  intro e
  obtain ⟨b, hTracks, hGet, hFresh, rfl, hRequests, hAsked⟩ :=
    parked_of_handleReport hStart before r now hParked hNew
  refine ⟨b, hGet, rfl, hFresh.sound.id, hRequests, hFresh.requests, ?_,
    fun x after => readable_of_takes, ?_⟩
  · intro x hx after later seconds hPlace hNow hOpen hFinite hRange result
    constructor
    · intro hReadable
      obtain ⟨m, hm, hKey⟩ := hAsked x hx
      have hParse := parse_of_readable hFresh.sound.id (hKey ▸ (hModels m hm).1)
        (hKey ▸ (hModels m hm).2) hReadable
      exact (hTracks.run after).takes_answer hx (not_or.2 ⟨not_false, hOpen⟩) hParse hPlace hNow
        hFinite hRange
    · intro hUnreadable
      obtain ⟨text, hMalformed⟩ : ∃ text, CorrelationId.parse (b.requestId x.1 x.2).render =
          .error (.malformedCorrelation text) := by
        rw [Batch.requestId, hFresh.sound.id] at hUnreadable ⊢
        exact CorrelationId.malformed_of_unreadable hUnreadable
      obtain ⟨hRefused, hSame⟩ := refuses_unreadable hMalformed (e.run after) seconds later
      exact ⟨⟨text, hRefused⟩, hSame⟩
  · intro after
    have hLater := (hTracks.run after).published_iff
    simpa only [false_or] using hLater

/-- The answers to both requests of the sample batch. -/
def answersToBoth : List Event :=
  [.response (Sample.answer 7 120) (Sample.clock 1),
    .response (Sample.answer 8 90.5) (Sample.clock 2)]

/-- Both answers are taken. -/
theorem taken_iff_readable_for_both :
    ∃ b, (Sample.engine.handleReport ⟨[], [Sample.deviation]⟩ (Sample.clock 0)).2.batches.get? 0 =
        some b ∧ b.requests ≠ [] ∧
      ∀ x ∈ b.awaited, Takes (b.requestId x.1 x.2) ⟨0, Sample.clock 30⟩
        (Sample.engine.handleReport ⟨[], [Sample.deviation]⟩ (Sample.clock 0)).2 answersToBoth := by
  have hStart : Sample.engine? = some Sample.engine := (Option.some_get _).symm
  have hParked : ((Sample.engine.run []).handleReport ⟨[], [Sample.deviation]⟩
      (Sample.clock 0)).2.batches.parked.find? Sample.batch.id = some ⟨0, Sample.clock 30⟩ := by
    decide +kernel
  have hModels : ∀ m ∈ (ModelRegistry.ofModels
      [Sample.model 7 "A_B_C", Sample.model 8 "C_D_E"]).values,
      Decimal.int64.holds m.id = true ∧ Decimal.int32.holds m.version = true := by
    decide +kernel
  obtain ⟨b, hGet, -, -, hRequests, -, -, -, hPublished⟩ := taken_iff_readable hStart hModels []
    ⟨[], [Sample.deviation]⟩ (Sample.clock 0) hParked (Nat.zero_le 0)
  obtain ⟨b', hGet', hTaken, -⟩ := hPublished answersToBoth
  have hDone : ((((Sample.engine.run []).handleReport ⟨[], [Sample.deviation]⟩
      (Sample.clock 0)).2.run answersToBoth).batches.get? 0).map Batch.published = some true := by
    decide +kernel
  rw [hGet'] at hDone
  exact ⟨b, hGet, hRequests, hTaken.1 (Option.some_inj.1 hDone)⟩

/-- An engine with a model whose number is negative. -/
def negative? : Option Engine :=
  start? Sample.settings (.ofList [Sample.trip]) (.ofModels [Sample.model (-7) "A_B_C"]) ⟨[]⟩ []
    (Sample.clock 0)

def negative : Engine := negative?.get (by decide +kernel)

/-- Its batch is parked and its request is sent, but the answer under the id of the request is
refused as malformed. -/
theorem refused_for_a_negative_model :
    let e := (negative.handleReport ⟨[], [Sample.deviation]⟩ (Sample.clock 0)).2
    e.batches.parked.find? ⟨"V1_1709654400000"⟩ = some ⟨0, Sample.clock 30⟩ ∧
      (e.batches.get? 0).map (fun b => b.requests.map InferenceRequest.label) =
        some [("V1_1709654400000-t1--7-3", -7, 3)] ∧
      (e.handleResponse ⟨"V1_1709654400000-t1--7-3", some 120, none⟩ (Sample.clock 10)).1 =
        .error (.malformedCorrelation "V1_1709654400000-t1--7-3") ∧
      ((e.handleResponse ⟨"V1_1709654400000-t1--7-3", some 120, none⟩
        (Sample.clock 10)).2.batches.get? 0).map Batch.published = some false := by
  decide +kernel

end Engine

end TransitForecast
