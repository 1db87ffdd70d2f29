import TransitForecast.Proofs.Readability
import TransitForecast.Proofs.Settling
import TransitForecast.Proofs.Stores

/-!
# TransitForecast — one request for each inference

The id of a request names the trip that it is for, and beside the id stand the model and its
version. These three tell the requests of a batch apart, and they are what the batch awaits: there
is one request for each inference of each trip. So what is left to await can be counted: it is the
number of requests less the number of answers that were taken.

## Results

* `tripOf?_render`  — the trip of an id can be read even where the id as a whole cannot.
* `perm_asked`      — the requests of a fresh batch ask for what it awaits.
* `pending_answerAll` — each answer that is taken leaves one inference less to await.
* `one_request_for_each_awaited` — what holds of every batch that an engine builds.
-/

namespace TransitForecast

-- ---------------------------------------------------------------------------
-- What a request asks for
-- ---------------------------------------------------------------------------

/-- The trip that the id of a request names. A minus sign in one of the numbers that follow does not
hide it. -/
def CorrelationId.tripOf? (id : String) : Option String :=
  match splitOnElement '-' id.toList with
  | _ :: trip :: _ => Text.unescape? (String.ofList trip)
  | _ => none

theorem CorrelationId.tripOf?_render (c : CorrelationId) : tripOf? c.render = some c.trip := by
  unfold tripOf?
  rw [toList_render, splitOnElement_append (Text.minus_not_mem_escape _),
    splitOnElement_append (Text.minus_not_mem_escape _)]
  dsimp only
  rw [String.ofList_toList, Text.unescape?_escape]

/-- What a request asks for: the trip that its id names, if it names one, and the inference. -/
def InferenceRequest.asked (q : InferenceRequest) : Option String × InferenceKey :=
  (CorrelationId.tripOf? q.id, ⟨q.model, q.version⟩)

namespace Batch

/-- The requests of a batch ask for what it awaits. -/
theorem perm_asked {b : Batch} (hb : b.Fresh) :
    (b.requests.map InferenceRequest.asked).Perm (b.awaited.map fun x => (some x.1, x.2)) := by
  have hPerm := hb.requests.map fun label =>
    (CorrelationId.tripOf? label.1, (⟨label.2.1, label.2.2⟩ : InferenceKey))
  rw [List.map_map, List.map_map] at hPerm
  have hAwaited : b.awaited.map ((fun label =>
      (CorrelationId.tripOf? label.1, (⟨label.2.1, label.2.2⟩ : InferenceKey))) ∘ b.label) =
      b.awaited.map fun x => (some x.1, x.2) := by
    refine List.map_congr_left fun x _ => ?_
    show (CorrelationId.tripOf? (b.requestId x.1 x.2).render, x.2) = _
    rw [CorrelationId.tripOf?_render]
    rfl
  rw [hAwaited] at hPerm
  exact hPerm

/-- A batch asks for nothing twice. -/
theorem nodup_asked {b : Batch} (hb : b.Fresh) :
    (b.requests.map InferenceRequest.asked).Nodup := by
  rw [(perm_asked hb).nodup_iff]
  refine (nodup_awaited hb.sound).map fun x y hEq => ?_
  obtain ⟨hTrip, hKey⟩ := Prod.mk.inj hEq
  exact Prod.ext (Option.some.inj hTrip) hKey

-- ---------------------------------------------------------------------------
-- Answers
-- ---------------------------------------------------------------------------

/-- A batch after answers in order, each of which may be refused, and how many were taken. -/
def answerAll (b : Batch) : List (CorrelationId × Float) → Nat × Batch
  | [] => (0, b)
  | (c, seconds) :: rest =>
    match b.answer c seconds with
    | .ok answered =>
      let (taken, last) := answerAll answered rest
      (taken + 1, last)
    | .error _ => answerAll b rest

theorem requests_answer {b b' : Batch} {c : CorrelationId} {seconds : Float}
    (h : b.answer c seconds = .ok b') : b'.requests = b.requests := by
  obtain ⟨front, p, back, p', -, -, -, -, rfl⟩ := answer_eq_ok_iff.1 h
  rfl

/-- Each answer that is taken leaves one inference less to await; the requests stay. -/
theorem pending_answerAll (answers : List (CorrelationId × Float)) : ∀ b : Batch,
    (b.answerAll answers).2.pending + (b.answerAll answers).1 = b.pending ∧
      (b.answerAll answers).2.requests = b.requests := by
  induction answers with
  | nil => exact fun b => ⟨rfl, rfl⟩
  | cons x rest ih =>
    intro b
    obtain ⟨c, seconds⟩ := x
    rw [answerAll]
    cases hAnswer : b.answer c seconds with
    | error e => exact ih b
    | ok answered =>
      obtain ⟨hCount, hRequests⟩ := ih answered
      have hOne := pending_answer hAnswer
      refine ⟨?_, hRequests.trans (requests_answer hAnswer)⟩
      dsimp only
      omega

end Batch

namespace Engine

/-- The requests of a batch that an engine builds ask each for another inference of a trip, and
together for those that the trips of the batch await; so it awaits as many as it has requests. After
any answers it awaits as many less as were taken. -/
theorem one_request_for_each_awaited {e : Engine} {vehicle : String} {deviations : List Deviation}
    {b : Batch} (h : (e.predictVehicle vehicle deviations).1 = .ok (some b)) :
    (b.requests.map InferenceRequest.asked).Nodup ∧
    (b.requests.map InferenceRequest.asked).Perm (b.awaited.map fun x => (some x.1, x.2)) ∧
    b.pending = b.requests.length ∧
    ∀ answers, (b.answerAll answers).2.requests = b.requests ∧
      (b.answerAll answers).1 ≤ b.requests.length ∧
      (b.answerAll answers).2.pending = b.requests.length - (b.answerAll answers).1 := by
  have hFresh := (fresh_predictVehicle h).1
  have hLength := hFresh.length_requests
  refine ⟨Batch.nodup_asked hFresh, Batch.perm_asked hFresh, hLength.symm, fun answers => ?_⟩
  obtain ⟨hCount, hRequests⟩ := Batch.pending_answerAll answers b
  exact ⟨hRequests, by omega, by omega⟩

/-- Of two requests one is answered, twice. -/
theorem one_request_for_each_awaited_after_an_answer :
    Sample.batch.requests.map InferenceRequest.asked = [(some "t1", ⟨7, 3⟩), (some "t1", ⟨8, 3⟩)] ∧
      (Sample.batch.answerAll [(⟨Sample.batch.id, "t1", 7, 3⟩, 120),
        (⟨Sample.batch.id, "t1", 7, 3⟩, 130)]).2.pending = 1 := by
  have hBuilt := Sample.predictVehicle_batch
  obtain ⟨-, -, -, hAnswers⟩ := one_request_for_each_awaited hBuilt
  refine ⟨by decide +kernel, ?_⟩
  rw [(hAnswers _).2.2]
  decide +kernel

end Engine

end TransitForecast
