import TransitForecast.Proofs.Correlation
import TransitForecast.Proofs.Runs
import TransitForecast.Proofs.Settling

/-!
# TransitForecast — the answers to a batch in any order

While a batch is parked the answers to its requests arrive one after the other, and anything else
may happen between them: reports, sweeps, answers to other batches, answers that come twice or
fail. As long as the batch keeps its place, the answers count down what it awaits, and the last one
publishes the same updates, whatever the order was.

What carries the argument is that the batch awaits exactly the inferences whose answers are still
to come, and that it is what the answers so far have settled.

## Results

* `reading_answer` — an answer to a request is understood.
* `Awaits.own`     — the next answer takes one inference off what is awaited.
* `Awaits.other`   — nothing else touches the batch.
* `holds_of_handleReport` — a batch that a report has parked is such a batch.
* `answers_in_any_order` — what the answers lead to, in any order and any company.
-/

namespace TransitForecast

-- ---------------------------------------------------------------------------
-- Requests
-- ---------------------------------------------------------------------------

/-- The inference that the id of a request names, with its trip. -/
def CorrelationId.inference (id : String) : String × InferenceKey :=
  match parse id with
  | .ok c => (c.trip, ⟨c.model, c.version⟩)
  | .error _ => ("", ⟨0, 0⟩)

/-- The inference that a request asks for, with its trip. -/
def InferenceRequest.inference (q : InferenceRequest) : String × InferenceKey :=
  CorrelationId.inference q.id

/-- The answer to a request. -/
def InferenceRequest.answer (q : InferenceRequest) (seconds : Float) : InferenceResponse :=
  ⟨q.id, some seconds, none⟩

namespace Batch

/-- The ids of a batch's requests can be read back: its vehicle and trips have names, and the
numbers of its models are not negative and in range. -/
structure Readable (b : Batch) : Prop where
  vehicle : b.vehicle ≠ ""
  trips : ∀ p ∈ b.trips, p.deviation.trip ≠ ""
  models : ∀ q ∈ b.requests, 0 ≤ q.model ∧ Decimal.int64.holds q.model = true
  versions : ∀ q ∈ b.requests, 0 ≤ q.version ∧ Decimal.int32.holds q.version = true

section Requests

variable {b : Batch}

theorem parse_requestId (hb : b.Fresh) (hReadable : b.Readable) {x : String × InferenceKey}
    (hx : x ∈ b.awaited) :
    CorrelationId.parse (b.requestId x.1 x.2).render = .ok (b.requestId x.1 x.2) := by
  obtain ⟨p, hp, hTrip, -⟩ := mem_awaited_iff.1 hx
  obtain ⟨q, hq, hLabel⟩ := List.mem_map.1 (hb.requests.mem_iff.2 (List.mem_map_of_mem hx))
  obtain ⟨-, hModel, hVersion⟩ : q.id = _ ∧ q.model = x.2.model ∧ q.version = x.2.version := by
    simpa [InferenceRequest.label, Batch.label] using hLabel
  have hModels := hReadable.models q hq
  have hVersions := hReadable.versions q hq
  rw [hModel] at hModels
  rw [hVersion] at hVersions
  rw [requestId, hb.sound.id]
  exact CorrelationId.parse_render hReadable.vehicle (hTrip ▸ hReadable.trips p hp) hModels.1
    hModels.2 hVersions.1 hVersions.2

/-- A request asks for an inference that the batch awaits. -/
theorem inference_mem (hb : b.Fresh) (hReadable : b.Readable) {q : InferenceRequest}
    (hq : q ∈ b.requests) : q.inference ∈ b.awaited ∧
      CorrelationId.parse q.id = .ok (b.requestId q.inference.1 q.inference.2) := by
  obtain ⟨x, hx, hLabel⟩ := List.mem_map.1 (hb.requests.mem_iff.1 (List.mem_map_of_mem hq))
  have hId : q.id = (b.requestId x.1 x.2).render := (congrArg Prod.fst hLabel).symm
  have hParse := parse_requestId hb hReadable hx
  rw [← hId] at hParse
  have hInference : q.inference = x := by
    rw [InferenceRequest.inference, CorrelationId.inference, hParse]
    rfl
  rw [hInference]
  exact ⟨hx, hParse⟩

/-- The requests ask for each awaited inference once. -/
theorem perm_inferences (hb : b.Fresh) (hReadable : b.Readable) :
    (b.requests.map InferenceRequest.inference).Perm b.awaited := by
  have hPerm := hb.requests.map fun label => CorrelationId.inference label.1
  have hAwaited : (b.awaited.map b.label).map (fun label => CorrelationId.inference label.1) =
      b.awaited := by
    rw [List.map_map]
    refine (List.map_congr_left fun x hx => ?_).trans (List.map_id _)
    rw [Function.comp, Batch.label, CorrelationId.inference, parse_requestId hb hReadable hx]
    rfl
  rw [hAwaited, List.map_map] at hPerm
  exact hPerm

/-- An answer to a request is understood. -/
theorem reading_answer (hb : b.Fresh) (hReadable : b.Readable) {q : InferenceRequest}
    (hq : q ∈ b.requests) {seconds : Float} (hFinite : seconds.isFinite = true)
    (hRange : seconds.abs ≤ 86400) :
    BatchStore.reading (q.answer seconds) =
      .ok (b.requestId q.inference.1 q.inference.2, seconds) :=
  BatchStore.reading_eq_ok_iff.2 ⟨(inference_mem hb hReadable hq).2, rfl, rfl, hFinite, hRange⟩

end Requests

/-- A batch after the answers to all of its requests. -/
def settledBy (b : Batch) (f : InferenceRequest → Float) : Batch :=
  b.settleAll (b.requests.map fun q => (q.inference, f q))

end Batch

-- ---------------------------------------------------------------------------
-- Answers that are accepted
-- ---------------------------------------------------------------------------

/-- An accepted answer settles its inference. Then its batch awaits others, or it is published and
leaves its place. -/
theorem BatchStore.Accepts.settles {s : BatchStore} {r : InferenceResponse} {now : Instant}
    {c : CorrelationId} {seconds : Float} {p : Parked} {b : Batch} (hs : s.Sound)
    (h : s.Accepts r now c seconds p b) :
    let next := b.settle (c.trip, ⟨c.model, c.version⟩) seconds
    (next.awaited ≠ [] ∧
      s.apply r now = (.ok (.pending next.awaited.length), s.set p.batch next)) ∨
    (next.awaited = [] ∧ s.apply r now = (.ok (.complete p.batch),
      ((s.set p.batch { next with published := true }).unpark c.batch).2)) := by
  intro next
  obtain ⟨hRead, hFind, -⟩ := h.steps hs
  rcases BatchStore.apply_cases hs r now with ⟨error, hError⟩ |
    ⟨c₁, seconds₁, ref, b₁, b', hRead₁, hFind₁, hGet₁, hb', hCases⟩
  · obtain ⟨outcome, hOk, -⟩ := h.apply hs
    rw [hError] at hOk
    cases hOk
  · rw [hRead] at hRead₁
    cases hRead₁
    rw [hFind] at hFind₁
    cases hFind₁
    rw [h.batch] at hGet₁
    cases hGet₁
    have hSettled : b' = next := Batch.eq_settle_of_answer (hs.batches h.batch) hb'
    subst hSettled
    rw [← Batch.length_awaited, Ne, List.length_eq_zero_iff] at hCases
    exact hCases

-- ---------------------------------------------------------------------------
-- Arrivals
-- ---------------------------------------------------------------------------

/-- What arrives while a batch is parked: the answer to one of its requests, or something else. -/
inductive Arrival
  | own (q : InferenceRequest) (now : Instant)
  | other (event : Engine.Event)

/-- The requests whose answers arrive. -/
def Arrival.requests : List Arrival → List InferenceRequest
  | [] => []
  | .own q _ :: rest => q :: requests rest
  | .other _ :: rest => requests rest

namespace Engine

/-- What the answers to a batch's requests lead to: the outcome of each, and what it has handed to
the bus. -/
def answers (f : InferenceRequest → Float) :
    Engine → List Arrival → List (Except PredictionError Outcome × List Sent)
  | _, [] => []
  | e, .own q now :: rest =>
    let result := e.handleResponse (q.answer (f q)) now
    (result.1, result.2.journal.drop e.journal.length) :: answers f result.2 rest
  | e, .other event :: rest => answers f (e.handle event) rest

/-- The outcomes of the answers to a number of requests: the others are counted down, and the last
answer completes the batch and publishes its updates. -/
def countdown (ref : BatchRef) (updates : List Sent) :
    Nat → List (Except PredictionError Outcome × List Sent)
  | 0 => []
  | 1 => [(.ok (.complete ref), updates)]
  | n + 2 => (.ok (.pending (n + 1)), []) :: countdown ref updates (n + 1)

/-- An engine holds a batch that it has parked and that no answer has reached yet. -/
structure Holds (e : Engine) (ref : BatchRef) (b : Batch) (expiresAt : Instant) : Prop where
  reachable : e.batches.Reachable
  batch : e.batches.get? ref = some b
  built : b.IsBuilt
  parked : e.batches.parked.find? b.id = some ⟨ref, expiresAt⟩

/-- An event leaves a parked batch in its place: no sweep comes after its time, no report parks
another batch under its id, and no answer is taken for it. -/
def Spares (e : Engine) (ref : BatchRef) (id : BatchId) (expiresAt : Instant) : Event → Prop
  | .observe _ => True
  | .report r now =>
    ∀ p, (e.handleReport r now).2.batches.parked.find? id = some p → p.batch = ref
  | .response r now => ∀ c seconds p b, e.batches.Accepts r now c seconds p b → p.batch ≠ ref
  | .sweep now => now ≤ expiresAt

/-- The answers to a batch arrive in time, and until the last of them all other events leave the
batch in its place. -/
def Undisturbed (f : InferenceRequest → Float) (ref : BatchRef) (id : BatchId)
    (expiresAt : Instant) : Engine → List Arrival → Prop
  | _, [] => True
  | e, .own q now :: rest =>
    now ≤ expiresAt ∧
      Undisturbed f ref id expiresAt (e.handle (.response (q.answer (f q)) now)) rest
  | e, .other event :: rest =>
    (Arrival.requests rest ≠ [] → e.Spares ref id expiresAt event) ∧
      Undisturbed f ref id expiresAt (e.handle event) rest

-- ---------------------------------------------------------------------------
-- The rules stay the same
-- ---------------------------------------------------------------------------

theorem publish_handle (e : Engine) (event : Event) :
    (e.handle event).core.publish = e.core.publish ∧
      (e.handle event).updateRules = e.updateRules := by
  obtain ⟨s', n, hCore⟩ := e.core_handle event
  exact ⟨by rw [hCore]; rfl, congrArg Core.updateRules hCore⟩

-- ---------------------------------------------------------------------------
-- The invariant
-- ---------------------------------------------------------------------------

/-- A batch is parked, and awaits exactly the given inferences. -/
structure Awaits (e : Engine) (ref : BatchRef) (id : BatchId) (expiresAt : Instant) (b : Batch)
    (left : List (String × InferenceKey)) : Prop where
  reachable : e.batches.Reachable
  batch : e.batches.get? ref = some b
  parked : e.batches.parked.find? id = some ⟨ref, expiresAt⟩
  awaited : b.awaited.Perm left

section Steps

variable {e : Engine} {ref : Nat} {id : BatchId} {expiresAt : Instant} {b : Batch}
  {left : List (String × InferenceKey)}

theorem Holds.awaits (h : e.Holds ref b expiresAt) : e.Awaits ref b.id expiresAt b b.awaited :=
  ⟨h.reachable, h.batch, h.parked, .refl _⟩

theorem Awaits.sound (h : e.Awaits ref id expiresAt b left) : b.Sound :=
  h.reachable.sound.batches h.batch

/-- The next answer takes its inference off what is awaited. The last one publishes the batch. -/
theorem Awaits.own {x : String × InferenceKey} (h : e.Awaits ref id expiresAt b (x :: left))
    {r : InferenceResponse} {seconds : Float} {now : Instant}
    (hRead : BatchStore.reading r = .ok (⟨id, x.1, x.2.model, x.2.version⟩, seconds))
    (hNow : now ≤ expiresAt) :
    (left ≠ [] → (e.handleResponse r now).1 = .ok (.pending left.length) ∧
      (e.handleResponse r now).2.journal = e.journal ∧
      (e.handleResponse r now).2.Awaits ref id expiresAt (b.settle x seconds) left) ∧
    (left = [] → (e.handleResponse r now).1 = .ok (.complete ref) ∧
      (e.handleResponse r now).2.journal =
        e.journal ++ e.core.publish (e.updateRules.buildBatch (b.settle x seconds))) := by
  obtain ⟨hRequest, hNoError, hPrediction, hFinite, hRange⟩ := BatchStore.reading_eq_ok_iff.1 hRead
  have hMem : x ∈ b.awaited := h.awaited.mem_iff.2 (List.mem_cons_self ..)
  have hAccepts : e.batches.Accepts r now ⟨id, x.1, x.2.model, x.2.version⟩ seconds
      ⟨ref, expiresAt⟩ b :=
    ⟨hRequest, hNoError, hPrediction, hFinite, hRange, h.parked, hNow, h.batch, hMem⟩
  -- what is left to await
  have hLeft : (b.settle x seconds).awaited.Perm left := by
    have hNodup := h.awaited.nodup_iff.1 (Batch.nodup_awaited h.sound)
    rw [List.nodup_cons] at hNodup
    rw [Batch.awaited_settle]
    refine (h.awaited.filter _).trans ?_
    rw [List.filter_cons, if_neg (by simp), List.filter_eq_self.2]
    intro y hy
    exact decide_eq_true fun hEq => hNodup.1 (hEq ▸ hy)
  rcases hAccepts.settles h.reachable.sound with ⟨hMore, hApply⟩ | ⟨hLast, hApply⟩
  · have hSome : left ≠ [] := fun hNil => hMore (List.perm_nil.1 (hNil ▸ hLeft))
    rw [hLeft.length_eq] at hApply
    refine ⟨fun _ => ⟨?_, ?_, ?_⟩, fun hNil => absurd hNil hSome⟩
    · rw [(e.core_handleResponse r now).1, hApply]
    · exact journal_of_pending (by rw [hApply])
    · refine ⟨reachable_handle h.reachable (.response r now), ?_, ?_, hLeft⟩
      · rw [batches_handleResponse, hApply]
        exact BatchStore.get?_set_self h.batch _
      · rw [batches_handleResponse, hApply]
        exact h.parked
  · have hNone : left = [] := List.nil_perm.1 (hLast ▸ hLeft)
    refine ⟨fun hSome => absurd hNone hSome, fun _ => ⟨?_, ?_⟩⟩
    · rw [(e.core_handleResponse r now).1, hApply]
    · have hGet : (e.batches.apply r now).2.get? ref =
          some { b.settle x seconds with published := true } := by
        rw [hApply]
        exact BatchStore.get?_set_self h.batch _
      have hOutcome : (e.batches.apply r now).1 = .ok (.complete ref) := by rw [hApply]
      have hJournal := journal_of_complete hOutcome hGet
      exact hJournal

/-- A vehicle leaves the batches before it as they are. -/
theorem VehicleEffect.get?_before {s s' : BatchStore} {vehicle : String} {now : Instant}
    {result : Except Halt (Option BatchRef)} (hEffect : VehicleEffect s vehicle now result s')
    (hGet : s.get? ref = some b) : s'.get? ref = some b := by
  have hOld := Nat.ne_of_lt (BatchStore.lt_length_of_get? hGet)
  have hAdded : ∀ b', (s.add b').2.get? ref = some b := by
    intro b'
    rw [BatchStore.get?_add, if_neg hOld]
    exact hGet
  cases hEffect with
  | halted => exact hGet
  | nothing => exact hGet
  | unparked _ => exact hAdded _
  | @claimed b' _ _ _ =>
    have hNew := s.get?_add_self b'
    rw [BatchStore.claim_eq hNew]
    exact (BatchStore.get?_set_of_ne hNew _ hOld).trans (hAdded b')
  | @parked b' _ _ _ _ _ hPark =>
    obtain ⟨-, rfl⟩ := BatchStore.park_eq_ok_iff.1 hPark
    exact hAdded b'

/-- A vehicle leaves the places of batches alone, but for one that a batch of its own takes. -/
theorem VehicleEffect.place_cases {s s' : BatchStore} {vehicle : String} {now : Instant}
    {result : Except Halt (Option BatchRef)} (hEffect : VehicleEffect s vehicle now result s')
    (id : BatchId) : s'.parked.find? id = s.parked.find? id ∨
      ∃ p, s'.parked.find? id = some p ∧ p.batch = s.batches.length := by
  cases hEffect with
  | halted => exact .inl rfl
  | nothing => exact .inl rfl
  | unparked _ => exact .inl rfl
  | @claimed b' _ _ _ =>
    rw [BatchStore.claim_eq (s.get?_add_self b')]
    exact .inl rfl
  | parked _ _ _ hPark =>
    obtain ⟨-, rfl⟩ := BatchStore.park_eq_ok_iff.1 hPark
    rw [Table.find?_insert]
    split
    · exact .inr ⟨_, rfl, rfl⟩
    · exact .inl rfl

/-- A vehicle leaves a batch as it is, and in its place unless a batch of its own takes it. -/
theorem VehicleEffect.spares {s s' : BatchStore} {vehicle : String} {now : Instant}
    {result : Except Halt (Option BatchRef)} (hEffect : VehicleEffect s vehicle now result s')
    (h : s.get? ref = some b ∧ (s.parked.find? id = some ⟨ref, expiresAt⟩ ∨
      ∃ p, s.parked.find? id = some p ∧ ref < p.batch)) :
    s'.get? ref = some b ∧ (s'.parked.find? id = some ⟨ref, expiresAt⟩ ∨
      ∃ p, s'.parked.find? id = some p ∧ ref < p.batch) := by
  obtain ⟨hGet, hPlace⟩ := h
  refine ⟨hEffect.get?_before hGet, ?_⟩
  rcases hEffect.place_cases id with hSame | ⟨p, hFound, hNew⟩
  · rw [hSame]
    exact hPlace
  · exact .inr ⟨p, hFound, hNew ▸ BatchStore.lt_length_of_get? hGet⟩

/-- A batch that stays as it is and in its place awaits the same. -/
theorem Awaits.keep (h : e.Awaits ref id expiresAt b left) {e' : Engine} {s' : BatchStore}
    (hReachable : e'.batches.Reachable) (hStore : e'.batches = s') (hBatch : s'.get? ref = some b)
    (hPlace : s'.parked.find? id = some ⟨ref, expiresAt⟩) :
    e'.Awaits ref id expiresAt b left := by
  subst hStore
  exact ⟨hReachable, hBatch, hPlace, h.awaited⟩

/-- Nothing else touches the batch. -/
theorem Awaits.other (h : e.Awaits ref id expiresAt b left) {event : Event}
    (hSpares : e.Spares ref id expiresAt event) :
    (e.handle event).Awaits ref id expiresAt b left := by
  have hReachable := reachable_handle h.reachable event
  cases event with
  | observe ts => exact h.keep hReachable rfl h.batch h.parked
  | sweep now =>
    have hStore : (e.handle (.sweep now)).batches = e.batches.sweep now := rfl
    refine h.keep hReachable hStore h.batch ?_
    rw [BatchStore.find?_sweep, h.parked]
    exact Option.filter_some_pos (decide_eq_true hSpares)
  | response r now =>
    obtain ⟨hBatch, hPlace⟩ := BatchStore.apply_others h.reachable.sound h.parked hSpares
    exact h.keep hReachable (e.batches_handleResponse r now) (hBatch.trans h.batch)
      (hPlace.trans h.parked)
  | report r now =>
    obtain ⟨s', ⟨hBatch, hPlace⟩, hCore⟩ := handleReport_induction (P := fun s =>
      s.get? ref = some b ∧ (s.parked.find? id = some ⟨ref, expiresAt⟩ ∨
        ∃ p, s.parked.find? id = some p ∧ ref < p.batch)) now
      (fun hEffect hBefore => hEffect.spares hBefore) e r ⟨h.batch, .inl h.parked⟩
    have hStore : (e.handleReport r now).2.batches = s' := congrArg Core.batches hCore
    refine h.keep hReachable hStore hBatch ?_
    -- a batch of the report that took the place would still have it
    rcases hPlace with hKept | ⟨p, hTaken, hLater⟩
    · exact hKept
    · rw [← hStore] at hTaken
      exact absurd (hSpares p hTaken) (Nat.ne_of_gt hLater)

end Steps

-- ---------------------------------------------------------------------------
-- Runs
-- ---------------------------------------------------------------------------

theorem answers_of_no_request (f : InferenceRequest → Float) (arrivals : List Arrival) :
    ∀ e : Engine, Arrival.requests arrivals = [] → e.answers f arrivals = [] := by
  induction arrivals with
  | nil =>
    intro e _
    rfl
  | cons arrival rest ih =>
    intro e hNone
    cases arrival with
    | own q now => cases hNone
    | other event => exact ih (e.handle event) hNone

/-- What is left of the answers to a batch counts down what it awaits. -/
theorem answers_of_awaits {f : InferenceRequest → Float} {ref : BatchRef} {id : BatchId}
    {expiresAt : Instant} (arrivals : List Arrival)
    (hRead : ∀ q ∈ Arrival.requests arrivals, BatchStore.reading (q.answer (f q)) =
      .ok (⟨id, q.inference.1, q.inference.2.model, q.inference.2.version⟩, f q)) :
    ∀ {e : Engine} {b : Batch},
      e.Awaits ref id expiresAt b ((Arrival.requests arrivals).map InferenceRequest.inference) →
      e.Undisturbed f ref id expiresAt arrivals →
      e.answers f arrivals = countdown ref (e.core.publish (e.updateRules.buildBatch
        (b.settleAll ((Arrival.requests arrivals).map fun q => (q.inference, f q)))))
        (Arrival.requests arrivals).length := by
  induction arrivals with
  | nil =>
    intro e b _ _
    rfl
  | cons arrival rest ih =>
    intro e b hAwaits hRun
    cases arrival with
    | own q now =>
      obtain ⟨hNow, hRest⟩ := hRun
      have hMore : ∀ q' ∈ Arrival.requests rest, BatchStore.reading (q'.answer (f q')) =
          .ok (⟨id, q'.inference.1, q'.inference.2.model, q'.inference.2.version⟩, f q') :=
        fun q' hq' => hRead q' (List.mem_cons_of_mem _ hq')
      have hFirst : e.Awaits ref id expiresAt b
          (q.inference :: (Arrival.requests rest).map InferenceRequest.inference) := hAwaits
      obtain ⟨hPending, hComplete⟩ := hFirst.own (hRead q (List.mem_cons_self ..)) hNow
      rw [answers]
      cases hLeft : Arrival.requests rest with
      | nil =>
        obtain ⟨hOutcome, hJournal⟩ := hComplete (by rw [hLeft]; rfl)
        rw [hOutcome, hJournal, List.drop_left, answers_of_no_request f rest _ hLeft,
          Arrival.requests, hLeft]
        rfl
      | cons next more =>
        obtain ⟨hOutcome, hJournal, hNext⟩ := hPending (by rw [hLeft]; exact List.cons_ne_nil _ _)
        obtain ⟨hPublish, hRules⟩ := e.publish_handle (.response (q.answer (f q)) now)
        rw [handle] at hPublish hRules
        rw [ih hMore hNext hRest, hPublish, hRules, hOutcome, hJournal, List.drop_length,
          Arrival.requests, hLeft, List.length_map]
        rfl
    | other event =>
      obtain ⟨hSpares, hRest⟩ := hRun
      show answers f (e.handle event) rest = countdown ref _ (Arrival.requests rest).length
      by_cases hNone : Arrival.requests rest = []
      · rw [answers_of_no_request f rest _ hNone, hNone]
        rfl
      · obtain ⟨hPublish, hRules⟩ := e.publish_handle event
        rw [ih hRead (hAwaits.other (hSpares hNone)) hRest, hPublish, hRules]
        rfl

-- ---------------------------------------------------------------------------
-- Which batches and events are meant
-- ---------------------------------------------------------------------------

/-- The batches that were parked since a moment, whose numbers begin with the given one: nothing
has been done to them. -/
structure Untouched (first : BatchRef) (s : BatchStore) : Prop where
  begun : first ≤ s.batches.length
  parked : ∀ {id p}, s.parked.find? id = some p → first ≤ p.batch →
    ∃ b, s.get? p.batch = some b ∧ b.IsBuilt ∧ b.id = id ∧ b.requests ≠ []

/-- A vehicle does nothing to the batches of the vehicles before it, and its own is new. -/
theorem VehicleEffect.untouched {first : Nat} {s s' : BatchStore} {vehicle : String}
    {now : Instant} {result : Except Halt (Option BatchRef)}
    (hEffect : VehicleEffect s vehicle now result s') (h : Untouched first s) :
    Untouched first s' := by
  have hAdded : ∀ b', first ≤ (s.add b').2.batches.length := by
    intro b'
    rw [BatchStore.add, List.length_append]
    exact Nat.le_add_right_of_le h.begun
  -- what was parked before has another number than what is added
  have hKept : ∀ b' {id p}, s.parked.find? id = some p → first ≤ p.batch →
      s.batches.length ≠ p.batch ∧
        ∃ b, (s.add b').2.get? p.batch = some b ∧ b.IsBuilt ∧ b.id = id ∧ b.requests ≠ [] := by
    intro b' id p hParked hFirst
    obtain ⟨b, hGet, hRest⟩ := h.parked hParked hFirst
    have hOld := Nat.ne_of_lt (BatchStore.lt_length_of_get? hGet)
    refine ⟨hOld.symm, b, ?_, hRest⟩
    rw [BatchStore.get?_add, if_neg hOld]
    exact hGet
  cases hEffect with
  | halted => exact h
  | nothing => exact h
  | unparked _ => exact ⟨hAdded _, fun hParked hFirst => (hKept _ hParked hFirst).2⟩
  | @claimed b' _ _ _ =>
    rw [BatchStore.claim_eq (s.get?_add_self b')]
    refine ⟨?_, ?_⟩
    · rw [BatchStore.set, List.length_set]
      exact hAdded b'
    · intro id p hParked hFirst
      obtain ⟨hOld, b, hGet, hRest⟩ := hKept b' hParked hFirst
      exact ⟨b, (BatchStore.get?_set_of_ne (s.get?_add_self b') _ hOld.symm).trans hGet, hRest⟩
  | @parked b' expiresAt _ hBuilt _ hPending hPark =>
    obtain ⟨-, rfl⟩ := BatchStore.park_eq_ok_iff.1 hPark
    refine ⟨hAdded b', ?_⟩
    intro id p hParked hFirst
    rw [Table.find?_insert] at hParked
    split at hParked
    · rename_i hId
      cases hParked
      refine ⟨b', s.get?_add_self b', hBuilt, hId.symm, ?_⟩
      intro hNil
      have hLength := hBuilt.fresh.length_requests
      rw [hNil] at hLength
      exact hPending hLength.symm
    · exact (hKept b' hParked hFirst).2

/-- After a report an engine holds every batch that the report has parked. -/
theorem holds_of_handleReport {e : Engine} (hReachable : e.batches.Reachable) (r : VehicleReport)
    (now : Instant) {id : BatchId} {p : Parked}
    (hParked : (e.handleReport r now).2.batches.parked.find? id = some p)
    (hNew : e.batches.batches.length ≤ p.batch) :
    ∃ b, (e.handleReport r now).2.Holds p.batch b p.expiresAt ∧ b.id = id ∧ b.requests ≠ [] := by
  have hBefore : Untouched e.batches.batches.length e.batches := by
    refine ⟨Nat.le_refl _, fun hOld hFirst => ?_⟩
    obtain ⟨b, hGet, -⟩ := hReachable.sound.parked hOld
    exact absurd hFirst (Nat.not_le_of_lt (BatchStore.lt_length_of_get? hGet))
  obtain ⟨s', hAfter, hCore⟩ := handleReport_induction now
    (fun hEffect h => hEffect.untouched h) e r hBefore
  have hStore : (e.handleReport r now).2.batches = s' := congrArg Core.batches hCore
  rw [← hStore] at hAfter
  obtain ⟨b, hGet, hBuilt, rfl, hRequests⟩ := hAfter.parked hParked hNew
  exact ⟨b, ⟨reachable_handle hReachable (.report r now), hGet, hBuilt, hParked⟩, rfl, hRequests⟩

section Spares

variable {e : Engine} {ref : BatchRef} {id : BatchId} {expiresAt : Instant}
  {r : InferenceResponse} {now : Instant}

/-- An answer that is refused, because it failed or came twice or too late, changes nothing. -/
theorem spares_of_error (hReachable : e.batches.Reachable) {error : PredictionError}
    (h : (e.handleResponse r now).1 = .error error) :
    e.Spares ref id expiresAt (.response r now) := by
  intro c seconds p b hAccepts
  obtain ⟨outcome, hOk, -⟩ := hAccepts.apply hReachable.sound
  rw [(e.core_handleResponse r now).1, hOk] at h
  cases h

/-- An answer that names another batch is for that batch. -/
theorem spares_of_foreign {b : Batch} {left : List (String × InferenceKey)}
    (h : e.Awaits ref id expiresAt b left) {c : CorrelationId}
    (hParse : CorrelationId.parse r.request = .ok c) (hForeign : c.batch ≠ id) :
    e.Spares ref id expiresAt (.response r now) := by
  rintro c' seconds p b' hAccepts rfl
  obtain ⟨own, hOwn, hId⟩ := h.reachable.sound.parked h.parked
  obtain ⟨other, hOther, hId'⟩ := h.reachable.sound.parked hAccepts.parked
  have hSame := hAccepts.request
  rw [hParse] at hSame
  cases hSame
  rw [hOwn] at hOther
  cases hOther
  exact hForeign (hId'.symm.trans hId)

end Spares

/-- However the answers to a parked batch are ordered, and whatever else happens that leaves it in
its place: they count down what it awaits, and the last one publishes the updates of the batch that
is settled by all of them. -/
theorem answers_in_any_order {e : Engine} {ref : BatchRef} {b : Batch} {expiresAt : Instant}
    (hHolds : e.Holds ref b expiresAt) (hReadable : b.Readable) {f : InferenceRequest → Float}
    (hAccepted : ∀ q ∈ b.requests, (f q).isFinite = true ∧ (f q).abs ≤ 86400)
    {arrivals : List Arrival} (hOwn : (Arrival.requests arrivals).Perm b.requests)
    (hRun : e.Undisturbed f ref b.id expiresAt arrivals) :
    e.answers f arrivals = countdown ref
      (e.core.publish (e.updateRules.buildBatch (b.settledBy f))) b.requests.length := by
  have hFresh := hHolds.built.fresh
  have hAwaited := Batch.perm_inferences hFresh hReadable
  have hRead : ∀ q ∈ Arrival.requests arrivals, BatchStore.reading (q.answer (f q)) =
      .ok (⟨b.id, q.inference.1, q.inference.2.model, q.inference.2.version⟩, f q) := by
    intro q hq
    have hMem := hOwn.mem_iff.1 hq
    exact Batch.reading_answer hFresh hReadable hMem (hAccepted q hMem).1 (hAccepted q hMem).2
  have hAwaits : e.Awaits ref b.id expiresAt b
      ((Arrival.requests arrivals).map InferenceRequest.inference) :=
    ⟨hHolds.reachable, hHolds.batch, hHolds.parked,
      hAwaited.symm.trans (hOwn.map InferenceRequest.inference).symm⟩
  have hSettled : b.settleAll ((Arrival.requests arrivals).map fun q => (q.inference, f q)) =
      b.settledBy f := by
    refine Batch.settleAll_perm (hOwn.map _) hFresh.sound ?_
    rw [List.map_map]
    have hNodup := hAwaited.nodup_iff.2 (Batch.nodup_awaited hFresh.sound)
    exact ((hOwn.map InferenceRequest.inference).nodup_iff).2 hNodup
  rw [answers_of_awaits arrivals hRead hAwaits hRun, hSettled, hOwn.length_eq]

/-- The sample engine with the sample batch parked. -/
def sample : Engine := { Sample.engine with batches := Sample.store }

/-- One of the two requests of the sample batch. -/
def sampleRequest (i : Fin 2) : InferenceRequest :=
  Sample.batch.requests.get ⟨i, Nat.lt_of_lt_of_eq i.isLt (by decide +kernel)⟩

/-- The second request is answered first, and a sweep comes in between. -/
theorem answers_in_any_order_reversed : (sample.answers (fun _ => 120)
    [.own (sampleRequest 1) (Sample.clock 5), .other (.sweep (Sample.clock 8)),
      .own (sampleRequest 0) (Sample.clock 10)]).map Prod.fst =
    [.ok (.pending 1), .ok (.complete 0)] := by
  have hHolds : sample.Holds 0 Sample.batch (Sample.clock 30) :=
    ⟨Sample.reachable_store, rfl, Sample.isBuilt_batch, Table.find?_insert_self _ _ _⟩
  have hReadable : Sample.batch.Readable :=
    ⟨by decide +kernel, by decide +kernel, by decide +kernel, by decide +kernel⟩
  have hLength : Sample.batch.requests.length = 2 := by decide +kernel
  have hRun : sample.Undisturbed (fun _ => 120) 0 Sample.batch.id (Sample.clock 30)
      [.own (sampleRequest 1) (Sample.clock 5), .other (.sweep (Sample.clock 8)),
        .own (sampleRequest 0) (Sample.clock 10)] :=
    ⟨by decide, fun _ => by show _ ≤ _; decide, by decide, trivial⟩
  rw [answers_in_any_order hHolds hReadable (fun _ _ => by decide +kernel) (by decide +kernel) hRun,
    hLength]
  rfl

end Engine

end TransitForecast
