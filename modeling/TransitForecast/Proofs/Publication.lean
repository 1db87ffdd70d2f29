import Mathlib
import TransitForecast.Proofs.Responses

/-!
# TransitForecast — a batch is published exactly once

Any number of calls may handle answers to one batch at the same time. Each goes through atomic
steps, and between two steps of a call any other call, or a sweep, may take its turn. In particular
a call counts what its batch awaits trip by trip while others answer.

Two facts carry the argument. Counts only fall, so a call that counted nothing is right for
good. And whoever gives the last answer starts to count after it, so it counts nothing:
somebody claims the batch, and the claim goes to one call only.

## Results

* `alone_eq_apply` — a call that is not interrupted does what `BatchStore.apply` does.
* `moves_step` — what a step of a call can do.
* `Inv.advance`, `Step.inv` — what every step preserves.
* `publication_exactly_once` — however the calls take turns, a batch is completed once.
-/

namespace TransitForecast

-- ---------------------------------------------------------------------------
-- Calls
-- ---------------------------------------------------------------------------

/-- What one trip of a batch still awaits; nothing when there is no such trip. -/
def BatchStore.awaitedBy? (s : BatchStore) (ref : BatchRef) (trip : Nat) : Option Nat :=
  (s.get? ref).bind fun b => b.trips[trip]?.map TripPrediction.pending

/-- Where the handling of an answer stands. -/
inductive Call
  /-- Nothing was done yet. -/
  | arrived (r : InferenceResponse) (now : Instant)
  /-- The batch was found, and its trip is answered next. -/
  | found (ref : BatchRef) (c : CorrelationId) (seconds : Float)
  /-- The trip was answered. The trips before `next` were seen to await `total` inferences. -/
  | counting (ref : BatchRef) (id : BatchId) (next total : Nat)
  /-- Nothing was seen to be awaited, and the publication is claimed next. -/
  | claiming (ref : BatchRef) (id : BatchId)
  /-- The claim succeeded, and the batch is taken out next. -/
  | removing (ref : BatchRef) (id : BatchId)
  | returned (result : Except PredictionError Outcome)

namespace Call

/-- The next atomic step of a call. -/
def step (s : BatchStore) : Call → Call × BatchStore
  | arrived r now =>
    match BatchStore.reading r with
    | .error e => (returned (.error e), s)
    | .ok (c, seconds) =>
      match s.find c.batch now with
      | .error e => (returned (.error e), s)
      | .ok ref => (found ref c seconds, s)
  | found ref c seconds =>
    match s.answer ref c seconds with
    | .error e => (returned (.error e), s)
    | .ok answered => (counting ref c.batch 0 0, answered)
  | counting ref id next total =>
    match s.awaitedBy? ref next with
    | some n => (counting ref id (next + 1) (total + n), s)
    | none => (if total = 0 then claiming ref id else returned (.ok (.pending total)), s)
  | claiming ref id =>
    match s.claim ref with
    | (true, claimed) => (removing ref id, claimed)
    | (false, claimed) => (returned (.ok (.pending 0)), claimed)
  | removing ref id => (returned (.ok (.complete ref)), (s.unpark id).2)
  | returned result => (returned result, s)

/-- Whether a call has returned. -/
def hasReturned : Call → Bool
  | returned _ => true
  | _ => false

/-- Whether a call has returned that it completed a batch. -/
def completed (ref : BatchRef) : Call → Bool
  | returned (.ok (.complete r)) => r = ref
  | _ => false

/-- Whether a call has won the publication of a batch. -/
def won (ref : BatchRef) : Call → Bool
  | removing r _ => r = ref
  | call => call.completed ref

/-- Whether a call is on its way to claim a batch unless it comes to see something awaited. -/
def finishing (ref : BatchRef) : Call → Bool
  | counting r _ _ total => r = ref ∧ total = 0
  | claiming r _ => r = ref
  | _ => false

end Call

/-- Calls at work on a store. -/
structure Contention where
  store : BatchStore
  calls : List Call

namespace Contention

/-- Answers that have arrived at a store. -/
def start (s : BatchStore) (answers : List (InferenceResponse × Instant)) : Contention :=
  ⟨s, answers.map fun x => .arrived x.1 x.2⟩

/-- One of the calls takes its next step, or a sweep happens. -/
inductive Step : Contention → Contention → Prop
  | advance {w : Contention} {i : Nat} {call : Call} : w.calls[i]? = some call →
    Step w ⟨(call.step w.store).2, w.calls.set i (call.step w.store).1⟩
  | sweep (w : Contention) (now : Instant) : Step w { w with store := w.store.sweep now }

end Contention

-- ---------------------------------------------------------------------------
-- Counts only fall
-- ---------------------------------------------------------------------------

theorem Batch.pending_eq_sum (b : Batch) :
    b.pending = (b.trips.map TripPrediction.pending).sum := by
  rw [Batch.pending]
  induction b.trips with
  | nil => rfl
  | cons p rest ih => rw [List.foldr_cons, ih, List.map_cons, List.sum_cons]

namespace BatchStore

/-- A store and a later one: it has the same batches, whose trips may await less by now. -/
structure Later (s s' : BatchStore) : Prop where
  length : s'.batches.length = s.batches.length
  trips : ∀ {ref b'}, s'.get? ref = some b' → ∃ b, s.get? ref = some b ∧
    List.Forall₂ (fun p p' => p'.pending ≤ p.pending) b.trips b'.trips

/-- Whether a batch is marked as published. -/
def isPublished (s : BatchStore) (ref : BatchRef) : Bool := (s.get? ref).any Batch.published

theorem later_of_batches_eq {s s' : BatchStore} (h : s'.batches = s.batches) : s.Later s' where
  length := by rw [h]
  trips := by
    intro ref b' hGet
    refine ⟨b', ?_, List.forall₂_same.2 fun p _ => Nat.le_refl _⟩
    rw [get?, ← h]
    exact hGet

theorem later_set {s : BatchStore} {ref : Nat} {b b' : Batch} (hGet : s.get? ref = some b)
    (hTrips : List.Forall₂ (fun p p' => p'.pending ≤ p.pending) b.trips b'.trips) :
    s.Later (s.set ref b') where
  length := List.length_set
  trips := by
    intro r x hx
    rw [get?_set hGet] at hx
    split at hx
    · rename_i hr
      cases hx
      exact ⟨b, hr ▸ hGet, hTrips⟩
    · exact ⟨x, hx, List.forall₂_same.2 fun p _ => Nat.le_refl _⟩

theorem isPublished_set {s : BatchStore} {r : Nat} {b b' : Batch} (hGet : s.get? r = some b)
    (h : b'.published = b.published) (ref : Nat) :
    (s.set r b').isPublished ref = s.isPublished ref := by
  rw [isPublished, isPublished, get?_set hGet]
  split
  · rename_i hr
    rw [hr, hGet, Option.any_some, Option.any_some, h]
  · rfl

end BatchStore

/-- An answer makes one trip await less, and no trip more. -/
theorem Batch.forall₂_answer {b b' : Batch} {c : CorrelationId} {seconds : Float}
    (h : b.answer c seconds = .ok b') :
    List.Forall₂ (fun p p' => p'.pending ≤ p.pending) b.trips b'.trips := by
  obtain ⟨front, p, back, p', hEq, -, -, hp', rfl⟩ := Batch.answer_eq_ok_iff.1 h
  have hOne := TripPrediction.pending_answer? hp'
  have hSame : ∀ l : List TripPrediction,
      List.Forall₂ (fun p p' => p'.pending ≤ p.pending) l l :=
    fun l => List.forall₂_same.2 fun _ _ => Nat.le_refl _
  show List.Forall₂ _ b.trips (front ++ p' :: back)
  rw [hEq]
  refine List.rel_append (hSame front) (List.Forall₂.cons ?_ (hSame back))
  omega

namespace Call

/-- What a step of a call can do. -/
inductive Moves (s : BatchStore) : Call → Call × BatchStore → Prop
  | refused {r : InferenceResponse} {now : Instant} {e : PredictionError} :
    Moves s (arrived r now) (returned (.error e), s)
  | located {r : InferenceResponse} {now : Instant} {ref : BatchRef} {c : CorrelationId}
    {seconds : Float} : Moves s (arrived r now) (found ref c seconds, s)
  | unanswered {ref : BatchRef} {c : CorrelationId} {seconds : Float} {e : PredictionError} :
    Moves s (found ref c seconds) (returned (.error e), s)
  | answered {ref : BatchRef} {c : CorrelationId} {seconds : Float} {b b' : Batch} :
    s.get? ref = some b → b.answer c seconds = .ok b' →
    Moves s (found ref c seconds) (counting ref c.batch 0 0, s.set ref b')
  | counted {ref : BatchRef} {id : BatchId} {next total n : Nat} :
    s.awaitedBy? ref next = some n →
    Moves s (counting ref id next total) (counting ref id (next + 1) (total + n), s)
  | nothingAwaited {ref : BatchRef} {id : BatchId} {next : Nat} :
    s.awaitedBy? ref next = none → Moves s (counting ref id next 0) (claiming ref id, s)
  | somethingAwaited {ref : BatchRef} {id : BatchId} {next total : Nat} : total ≠ 0 →
    Moves s (counting ref id next total) (returned (.ok (.pending total)), s)
  | claimed {ref : BatchRef} {id : BatchId} {b : Batch} :
    s.get? ref = some b → b.published = false →
    Moves s (claiming ref id) (removing ref id, s.set ref { b with published := true })
  | beaten {ref : BatchRef} {id : BatchId} : (∀ b, s.get? ref = some b → b.published = true) →
    Moves s (claiming ref id) (returned (.ok (.pending 0)), s)
  | removed {ref : BatchRef} {id : BatchId} :
    Moves s (removing ref id) (returned (.ok (.complete ref)), (s.unpark id).2)
  | rested {result : Except PredictionError Outcome} :
    Moves s (returned result) (returned result, s)

theorem moves_step (s : BatchStore) (call : Call) : Moves s call (call.step s) := by
  cases call with
  | arrived r now =>
    rw [step]
    split
    · exact .refused
    · split
      · exact .refused
      · exact .located
  | found ref c seconds =>
    rw [step]
    split
    · exact .unanswered
    · rename_i answered hAnswer
      obtain ⟨b, b', hGet, hb', rfl⟩ := BatchStore.answer_eq_ok_iff.1 hAnswer
      exact .answered hGet hb'
  | counting ref id next total =>
    rw [step]
    split
    · rename_i n hNext
      exact .counted hNext
    · rename_i hEnd
      split
      · rename_i hZero
        subst hZero
        exact .nothingAwaited hEnd
      · rename_i hTotal
        exact .somethingAwaited hTotal
  | claiming ref id =>
    rw [step]
    cases hGet : s.get? ref with
    | none =>
      rw [BatchStore.claim_of_none hGet]
      refine .beaten fun b hb => ?_
      rw [hGet] at hb
      cases hb
    | some b =>
      rw [BatchStore.claim_eq hGet]
      cases hPublished : b.published with
      | false => exact .claimed hGet hPublished
      | true =>
        -- a claim of a published batch leaves all as it is
        have hSame : s.set ref { b with published := true } = s := by
          obtain ⟨hBound, hEq⟩ := List.getElem?_eq_some_iff.1 hGet
          rw [BatchStore.set, ← hPublished, ← hEq, List.set_getElem_self]
        rw [hSame]
        refine .beaten fun x hx => ?_
        rw [hGet] at hx
        cases hx
        exact hPublished
  | removing ref id => exact .removed
  | returned result => exact .rested

/-- What a call has counted is no less than what is awaited now. -/
def Honest (s : BatchStore) : Call → Prop
  | counting ref _ next total => ∀ b, s.get? ref = some b →
    ((b.trips.take next).map TripPrediction.pending).sum ≤ total
  | claiming ref _ => ∀ b, s.get? ref = some b → b.pending = 0
  | _ => True

section Steps

variable {s s' : BatchStore} {call call' : Call} {ref : BatchRef}

/-- A step of a call leads to a later store. -/
theorem Moves.later (h : Moves s call (call', s')) : s.Later s' := by
  cases h with
  | answered hGet hb' => exact BatchStore.later_set hGet (Batch.forall₂_answer hb')
  | claimed hGet _ =>
    exact BatchStore.later_set hGet (List.forall₂_same.2 fun p _ => Nat.le_refl _)
  | _ => exact BatchStore.later_of_batches_eq rfl

theorem sum_pending_le {trips trips' : List TripPrediction}
    (h : List.Forall₂ (fun p p' => p'.pending ≤ p.pending) trips trips') :
    (trips'.map TripPrediction.pending).sum ≤ (trips.map TripPrediction.pending).sum := by
  induction h with
  | nil => exact Nat.le_refl _
  | cons hHead _ ih =>
    rw [List.map_cons, List.map_cons, List.sum_cons, List.sum_cons]
    exact Nat.add_le_add hHead ih

/-- What was counted before stays good later. -/
theorem Honest.later (h : call.Honest s) (hLater : s.Later s') : call.Honest s' := by
  cases call with
  | counting ref id next total =>
    intro b' hb'
    obtain ⟨b, hb, hTrips⟩ := hLater.trips hb'
    exact Nat.le_trans (sum_pending_le (List.forall₂_take next hTrips)) (h b hb)
  | claiming ref id =>
    intro b' hb'
    obtain ⟨b, hb, hTrips⟩ := hLater.trips hb'
    have hSum := sum_pending_le hTrips
    rw [← Batch.pending_eq_sum, ← Batch.pending_eq_sum, h b hb] at hSum
    exact Nat.le_zero.1 hSum
  | _ => trivial

/-- A call keeps counting honestly. -/
theorem Moves.honest (h : Moves s call (call', s')) (hCall : call.Honest s) :
    call'.Honest s' := by
  cases h with
  | answered _ _ =>
    intro b _
    exact Nat.zero_le _
  | counted hNext =>
    intro b hb
    rw [BatchStore.awaitedBy?, hb, Option.bind_some, Option.map_eq_some_iff] at hNext
    obtain ⟨p, hp, rfl⟩ := hNext
    rw [List.take_add_one, hp, Option.toList_some, List.map_append, List.map_singleton,
      List.sum_append, List.sum_singleton]
    exact Nat.add_le_add_right (hCall b hb) _
  | nothingAwaited hEnd =>
    intro b hb
    -- every trip was counted
    rw [BatchStore.awaitedBy?, hb, Option.bind_some, Option.map_eq_none_iff,
      List.getElem?_eq_none_iff] at hEnd
    have hSum := hCall b hb
    rw [List.take_of_length_le hEnd, ← Batch.pending_eq_sum] at hSum
    exact Nat.le_zero.1 hSum
  | _ => trivial

/-- A step of an honest call keeps a store sound. -/
theorem Moves.sound (h : Moves s call (call', s')) (hCall : call.Honest s) (hs : s.Sound) :
    s'.Sound := by
  cases h with
  | answered hGet hb' =>
    exact (BatchStore.Step.answer (BatchStore.answer_eq_ok_iff.2 ⟨_, _, hGet, hb', rfl⟩)).sound hs
  | @claimed _ _ b hGet _ =>
    exact hs.set hGet (hs.batches hGet).claim (fun _ => hCall b hGet) rfl
  | removed => exact (BatchStore.Step.unpark s _).sound hs
  | _ => exact hs

-- ---------------------------------------------------------------------------
-- Claims
-- ---------------------------------------------------------------------------

/-- A call wins a batch exactly when it marks the batch as published. -/
theorem Moves.won_balance (h : Moves s call (call', s')) (ref : Nat) :
    (call'.won ref).toNat + (s.isPublished ref).toNat =
      (call.won ref).toNat + (s'.isPublished ref).toNat := by
  cases h with
  | @answered r c seconds b b' hGet hb' =>
    obtain ⟨front, p, back, p', -, -, -, -, rfl⟩ := Batch.answer_eq_ok_iff.1 hb'
    have hSame : (s.set r { b with trips := front ++ p' :: back }).isPublished ref =
        s.isPublished ref := BatchStore.isPublished_set hGet (by rfl) ref
    rw [hSame]
    rfl
  | @claimed r id b hGet hPublished =>
    simp only [Call.won, BatchStore.isPublished, BatchStore.get?_set hGet]
    by_cases hr : ref = r
    · rw [if_pos hr, hr, hGet, Option.any_some, Option.any_some, hPublished, decide_eq_true rfl]
      rfl
    · rw [if_neg hr, decide_eq_false fun hEq => hr hEq.symm, Bool.toNat_false]
      rfl
  | _ => rfl

/-- A batch that was won stays won. -/
theorem Moves.won (h : Moves s call (call', s')) (hWon : call.won ref = true) :
    call'.won ref = true := by
  cases h with
  | removed => exact hWon
  | rested => exact hWon
  | _ => cases hWon

/-- What is published stays published. -/
theorem Moves.isPublished (h : Moves s call (call', s')) (hPublished : s.isPublished ref = true) :
    s'.isPublished ref = true := by
  have hBalance := h.won_balance ref
  have hWon : call.won ref = true → call'.won ref = true := h.won
  cases hAfter : s'.isPublished ref with
  | true => rfl
  | false =>
    exfalso
    rw [hPublished, hAfter] at hBalance
    cases hBefore : call.won ref with
    | true =>
      rw [hBefore, hWon hBefore] at hBalance
      cases hBalance
    | false =>
      rw [hBefore] at hBalance
      cases hBalance

/-- Whoever gives the last answer to a batch starts to count after it. -/
theorem Moves.remaining (h : Moves s call (call', s')) (ref : Nat) :
    s'.remaining ref = s.remaining ref ∨ call'.finishing ref = true := by
  cases h with
  | @answered r c seconds b b' hGet hb' =>
    by_cases hr : ref = r
    · right
      rw [hr]
      exact decide_eq_true ⟨rfl, rfl⟩
    · left
      rw [BatchStore.remaining, BatchStore.get?_set hGet, if_neg hr]
      rfl
  | @claimed r id b hGet _ =>
    left
    rw [BatchStore.remaining, BatchStore.get?_set hGet]
    split
    · rename_i hr
      rw [hr, BatchStore.remaining, hGet]
      rfl
    · rfl
  | _ => exact .inl rfl

/-- A call that saw nothing awaited goes on to claim the batch when nothing is. -/
theorem Moves.finishing (h : Moves s call (call', s')) {b : Batch} (hGet : s.get? ref = some b)
    (hPending : b.pending = 0) (hFinishing : call.finishing ref = true) :
    call'.finishing ref = true ∨ s'.isPublished ref = true := by
  cases h with
  | @counted r id next total n hNext =>
    left
    simp only [Call.finishing, decide_eq_true_eq] at hFinishing ⊢
    obtain ⟨rfl, rfl⟩ := hFinishing
    rw [BatchStore.awaitedBy?, hGet, Option.bind_some, Option.map_eq_some_iff] at hNext
    obtain ⟨p, hp, rfl⟩ := hNext
    rw [Batch.pending_eq_sum, List.sum_eq_zero_iff_forall_eq_nat] at hPending
    rw [Nat.zero_add]
    exact ⟨rfl, hPending p.pending (List.mem_map_of_mem (List.mem_of_getElem? hp))⟩
  | nothingAwaited hEnd =>
    left
    simp only [Call.finishing, decide_eq_true_eq] at hFinishing ⊢
    exact hFinishing.1
  | somethingAwaited hTotal =>
    simp only [Call.finishing, decide_eq_true_eq] at hFinishing
    exact absurd hFinishing.2 hTotal
  | @claimed r id x hx _ =>
    right
    simp only [Call.finishing, decide_eq_true_eq] at hFinishing
    subst hFinishing
    rw [BatchStore.isPublished, BatchStore.get?_set hx, if_pos rfl]
    rfl
  | beaten hBeaten =>
    right
    simp only [Call.finishing, decide_eq_true_eq] at hFinishing
    subst hFinishing
    rw [BatchStore.isPublished, hGet]
    exact hBeaten b hGet
  | _ => cases hFinishing

end Steps

end Call

-- ---------------------------------------------------------------------------
-- A call alone
-- ---------------------------------------------------------------------------

namespace Call

/-- A call and the store it works on, before and after a step. -/
def Next (x y : Call × BatchStore) : Prop := y = x.1.step x.2

/-- A call counts all that the rest of the trips await. -/
theorem count_rest {s : BatchStore} {ref : BatchRef} {b : Batch} (hGet : s.get? ref = some b)
    (id : BatchId) (rest : List TripPrediction) :
    ∀ next total, b.trips.drop next = rest →
      ∃ done, Relation.ReflTransGen Next (counting ref id next total, s)
        (counting ref id done (total + (rest.map TripPrediction.pending).sum), s) ∧
        b.trips[done]? = none := by
  induction rest with
  | nil =>
    intro next total hRest
    exact ⟨next, .refl, List.getElem?_eq_none (List.drop_eq_nil_iff.1 hRest)⟩
  | cons p rest ih =>
    intro next total hRest
    have hNext : b.trips[next]? = some p := by
      rw [← List.head?_drop, hRest]
      rfl
    have hDrop : b.trips.drop (next + 1) = rest := by
      rw [← List.tail_drop, hRest]
      rfl
    obtain ⟨done, hRun, hDone⟩ := ih (next + 1) (total + p.pending) hDrop
    have hOne : Next (counting ref id next total, s)
        (counting ref id (next + 1) (total + p.pending), s) := by
      rw [Next, step, BatchStore.awaitedBy?, hGet, Option.bind_some, hNext]
      rfl
    refine ⟨done, .head hOne ?_, hDone⟩
    rw [List.map_cons, List.sum_cons, ← Nat.add_assoc]
    exact hRun

/-- After the answer, a call that is not interrupted does what `BatchStore.finish` does. -/
theorem finish_alone {s : BatchStore} {ref : BatchRef} {b : Batch} (hGet : s.get? ref = some b)
    (id : BatchId) :
    Relation.ReflTransGen Next (counting ref id 0 0, s)
      (returned (.ok (s.finish ref id).1), (s.finish ref id).2) := by
  obtain ⟨done, hCount, hDone⟩ := count_rest hGet id b.trips 0 0 rfl
  have hAll : s.awaitedBy? ref done = none := by
    rw [BatchStore.awaitedBy?, hGet, Option.bind_some, hDone]
    rfl
  rw [← Batch.pending_eq_sum, Nat.zero_add] at hCount
  refine hCount.trans ?_
  rw [BatchStore.finish, BatchStore.remaining_eq hGet]
  by_cases hPending : b.pending = 0
  · have hCounted : Next (counting ref id done b.pending, s) (claiming ref id, s) := by
      rw [Next, step, hAll]
      simp only [if_pos hPending]
    refine .head hCounted ?_
    cases hClaim : s.claim ref with
    | mk claimed s' =>
      cases claimed with
      | true =>
        simp only [if_pos hPending]
        refine .head (b := (removing ref id, s')) ?_ (.single rfl)
        rw [Next, step, hClaim]
      | false =>
        simp only [if_pos hPending]
        refine .single ?_
        rw [Next, step, hClaim, hPending]
  · simp only [if_neg hPending]
    refine .single ?_
    rw [Next, step, hAll]
    simp only [if_neg hPending]

/-- A call that is not interrupted does what `BatchStore.apply` does. -/
theorem alone_eq_apply (s : BatchStore) (r : InferenceResponse) (now : Instant) :
    Relation.ReflTransGen Next (arrived r now, s)
      (returned (s.apply r now).1, (s.apply r now).2) := by
  unfold BatchStore.apply
  cases hRead : BatchStore.reading r with
  | error e =>
    refine .single ?_
    rw [Next, step, hRead]
  | ok said =>
    obtain ⟨c, seconds⟩ := said
    dsimp only
    cases hFind : s.find c.batch now with
    | error e =>
      refine .single ?_
      rw [Next, step, hRead]
      simp only [hFind]
    | ok ref =>
      have hFound : Next (arrived r now, s) (found ref c seconds, s) := by
        rw [Next, step, hRead]
        simp only [hFind]
      refine .head hFound ?_
      dsimp only
      cases hAnswer : s.answer ref c seconds with
      | error e =>
        refine .single ?_
        rw [Next, step, hAnswer]
      | ok answered =>
        obtain ⟨b, b', hGet, -, rfl⟩ := BatchStore.answer_eq_ok_iff.1 hAnswer
        have hAnswered :
            Next (found ref c seconds, s) (counting ref c.batch 0 0, s.set ref b') := by
          rw [Next, step, hAnswer]
        exact .head hAnswered (finish_alone (BatchStore.get?_set_self hGet b') c.batch)

end Call

-- ---------------------------------------------------------------------------
-- Calls at the same time
-- ---------------------------------------------------------------------------

namespace Contention

/-- What holds of a batch while calls are at work. -/
structure Inv (ref : BatchRef) (w : Contention) : Prop where
  sound : w.store.Sound
  batch : ∃ b, w.store.get? ref = some b
  honest : ∀ call ∈ w.calls, call.Honest w.store
  /-- It was won once if it is published, and never otherwise. -/
  won : w.calls.countP (Call.won ref) = (w.store.isPublished ref).toNat
  /-- Somebody is about to claim it once it awaits nothing. -/
  claimed : w.store.isPublished ref = false → w.store.remaining ref = 0 →
    ∃ call ∈ w.calls, call.finishing ref = true

theorem inv_start {s : BatchStore} (hs : s.Sound) {ref : BatchRef} {b : Batch}
    (hGet : s.get? ref = some b) (hPending : 0 < b.pending)
    (answers : List (InferenceResponse × Instant)) : (start s answers).Inv ref where
  sound := hs
  batch := ⟨b, hGet⟩
  honest := by
    intro call hCall
    obtain ⟨x, -, rfl⟩ := List.mem_map.1 hCall
    trivial
  won := by
    have hPublished : b.published = false := by
      by_contra h
      rw [Bool.not_eq_false] at h
      have := hs.published hGet h
      omega
    have hNone : (start s answers).calls.countP (Call.won ref) = 0 := by
      rw [List.countP_eq_zero]
      intro call hCall
      obtain ⟨x, -, rfl⟩ := List.mem_map.1 hCall
      exact Bool.false_ne_true
    rw [hNone, start, BatchStore.isPublished, hGet, Option.any_some, hPublished]
    rfl
  claimed := by
    intro _ hRemaining
    rw [start, BatchStore.remaining_eq hGet] at hRemaining
    omega

/-- A step of one call. -/
theorem Inv.advance {ref : BatchRef} {w : Contention} (h : w.Inv ref) {i : Nat} {call : Call}
    (hCall : w.calls[i]? = some call) :
    Inv ref ⟨(call.step w.store).2, w.calls.set i (call.step w.store).1⟩ := by
  obtain ⟨hBound, hEq⟩ := List.getElem?_eq_some_iff.1 hCall
  have hMem : call ∈ w.calls := List.mem_of_getElem? hCall
  have hMoves := Call.moves_step w.store call
  generalize call.step w.store = next at hMoves ⊢
  obtain ⟨call', s'⟩ := next
  have hSame : ∀ other ∈ w.calls, other ∈ w.calls.set i call' ∨ other = call := by
    intro other hOther
    obtain ⟨j, hj⟩ := List.mem_iff_getElem?.1 hOther
    by_cases hij : i = j
    · right
      rw [← hij, hCall] at hj
      exact (Option.some.inj hj).symm
    · left
      exact List.mem_iff_getElem?.2 ⟨j, by rw [List.getElem?_set_ne hij, hj]⟩
  have hNew : call' ∈ w.calls.set i call' := List.mem_set hBound call'
  have hLater := hMoves.later
  refine ⟨hMoves.sound (h.honest call hMem) h.sound, ?_, ?_, ?_, ?_⟩
  · obtain ⟨b, hb⟩ := h.batch
    have hRef := BatchStore.lt_length_of_get? hb
    rw [← hLater.length] at hRef
    exact ⟨s'.batches[ref], List.getElem?_eq_getElem hRef⟩
  · intro other hOther
    rcases List.mem_or_eq_of_mem_set hOther with hOld | rfl
    · exact (h.honest other hOld).later hLater
    · exact hMoves.honest (h.honest call hMem)
  · -- either the call won nothing now, or it has just marked the batch
    have hCount := List.countP_set (p := Call.won ref) (a := call') hBound
    have hBalance := hMoves.won_balance ref
    have hPos : call.won ref = true → 0 < w.calls.countP (Call.won ref) :=
      fun hWon => List.countP_pos_iff.2 ⟨call, hMem, hWon⟩
    have hWon := h.won
    rw [hEq] at hCount
    show (w.calls.set i call').countP (Call.won ref) = (s'.isPublished ref).toNat
    cases hc : call.won ref <;> cases hc' : call'.won ref <;>
      simp only [hc, hc', Bool.toNat_true, Bool.toNat_false, if_true, if_false, forall_const,
        Bool.false_eq_true] at hCount hBalance hPos <;>
      omega
  · intro hPublished hRemaining
    have hBefore : w.store.isPublished ref = false := by
      by_contra hNot
      rw [Bool.not_eq_false] at hNot
      rw [hMoves.isPublished hNot] at hPublished
      cases hPublished
    -- if this step gave the last answer, then its call is the one that will claim the batch
    rcases hMoves.remaining ref with hUnchanged | hFinishing
    · obtain ⟨other, hOther, hFinishing⟩ := h.claimed hBefore (hUnchanged ▸ hRemaining)
      rcases hSame other hOther with hStays | rfl
      · exact ⟨other, hStays, hFinishing⟩
      · -- the call itself was about to claim the batch
        obtain ⟨b, hb⟩ := h.batch
        have hPending : b.pending = 0 := by
          rw [← BatchStore.remaining_eq hb, ← hUnchanged]
          exact hRemaining
        rcases hMoves.finishing hb hPending hFinishing with hStill | hNow
        · exact ⟨call', hNew, hStill⟩
        · rw [hNow] at hPublished
          cases hPublished
    · exact ⟨call', hNew, hFinishing⟩

theorem Step.inv {ref : BatchRef} {w w' : Contention} (h : Step w w') (hInv : w.Inv ref) :
    w'.Inv ref := by
  cases h with
  | advance hCall => exact hInv.advance hCall
  | sweep now =>
    exact ⟨(BatchStore.Step.sweep w.store now).sound hInv.sound, hInv.batch,
      fun call hCall => (hInv.honest call hCall).later (BatchStore.later_of_batches_eq rfl),
      hInv.won, hInv.claimed⟩

/-- The invariant holds along every run. -/
theorem inv_run {ref : BatchRef} {w w' : Contention} (h : Relation.ReflTransGen Step w w')
    (hInv : w.Inv ref) : w'.Inv ref := by
  induction h with
  | refl => exact hInv
  | tail _ hStep ih => exact hStep.inv ih

/-- The calls that completed a batch have won it. -/
theorem completed_le_won (calls : List Call) (ref : BatchRef) :
    calls.countP (Call.completed ref) ≤ calls.countP (Call.won ref) := by
  refine List.countP_mono_left fun call _ h => ?_
  cases call with
  | returned result => exact h
  | _ => cases h

/-- The calls of some positions take their next steps in order. -/
def turns (w : Contention) (order : List Nat) : Contention :=
  order.foldl (fun w i => (w.calls[i]?).elim w fun call =>
    ⟨(call.step w.store).2, w.calls.set i (call.step w.store).1⟩) w

theorem run_turns (w : Contention) (order : List Nat) :
    Relation.ReflTransGen Step w (w.turns order) := by
  induction order generalizing w with
  | nil => exact .refl
  | cons i rest ih =>
    cases hCall : w.calls[i]? with
    | none =>
      have hSame : w.turns (i :: rest) = w.turns rest := by
        rw [turns, List.foldl_cons, hCall]
        rfl
      rw [hSame]
      exact ih w
    | some call =>
      have hNext : w.turns (i :: rest) =
          turns ⟨(call.step w.store).2, w.calls.set i (call.step w.store).1⟩ rest := by
        rw [turns, List.foldl_cons, hCall]
        rfl
      rw [hNext]
      exact .head (.advance hCall) (ih _)

/-- However calls and sweeps take turns, at most one call completes a batch that awaited
something. Then all its predictions are complete. When it awaits nothing and every call has
returned, one of them has completed it. -/
theorem publication_exactly_once {s : BatchStore} (hs : s.Reachable) {ref : BatchRef} {b : Batch}
    (hGet : s.get? ref = some b) (hPending : 0 < b.pending)
    (answers : List (InferenceResponse × Instant)) {w : Contention}
    (hRun : Relation.ReflTransGen Step (start s answers) w) :
    ∃ b', w.store.get? ref = some b' ∧
      w.calls.countP (Call.completed ref) ≤ 1 ∧
      ((∃ call ∈ w.calls, call.completed ref = true) →
        ∀ p ∈ b'.trips, ∀ stop ∈ p.stops, stop.complete = true) ∧
      (b'.awaited = [] → (∀ call ∈ w.calls, call.hasReturned = true) →
        w.calls.countP (Call.completed ref) = 1) := by
  have hInv := inv_run hRun (inv_start hs.sound hGet hPending answers)
  obtain ⟨b', hb'⟩ := hInv.batch
  have hPublished : w.store.isPublished ref = b'.published := by
    rw [BatchStore.isPublished, hb']
    rfl
  have hWon := hInv.won
  have hAtMost := completed_le_won w.calls ref
  rw [hPublished] at hWon
  rw [hWon] at hAtMost
  refine ⟨b', hb', Nat.le_trans hAtMost (Bool.toNat_le _), ?_, ?_⟩
  · rintro ⟨call, hCall, hCompleted⟩ p hp
    have hPos : 0 < w.calls.countP (Call.completed ref) :=
      List.countP_pos_iff.2 ⟨call, hCall, hCompleted⟩
    have hTrue : b'.published = true := by
      by_contra hNot
      rw [Bool.not_eq_true] at hNot
      rw [hNot, Bool.toNat_false] at hAtMost
      omega
    have hNone := Batch.pending_eq_zero_iff.1 (hInv.sound.published hb' hTrue)
    exact TripPrediction.complete_of_pending_eq_zero ((hInv.sound.batches hb').trips p hp)
      (hNone p hp)
  · intro hAwaited hReturned
    have hNone : b'.pending = 0 := by
      rw [← Batch.length_awaited, hAwaited]
      rfl
    have hTrue : b'.published = true := by
      by_contra hNot
      rw [Bool.not_eq_true] at hNot
      rw [← BatchStore.remaining_eq hb'] at hNone
      obtain ⟨call, hCall, hFinishing⟩ := hInv.claimed (hPublished.trans hNot) hNone
      have hDone := hReturned call hCall
      cases call with
      | returned result => cases hFinishing
      | _ => cases hDone
    rw [hTrue, Bool.toNat_true] at hWon
    rw [← hWon]
    refine List.countP_congr fun call hCall => ?_
    have hDone := hReturned call hCall
    cases call with
    | returned result => rfl
    | _ => cases hDone

/-- Two calls that take turns, so that both count nothing, but only one claims the batch. -/
theorem publication_exactly_once_in_turns :
    ((start Sample.store [(Sample.answer 7 120, Sample.clock 10),
      (Sample.answer 8 90.5, Sample.clock 11)]).turns
        [0, 1, 0, 1, 0, 1, 0, 1, 0, 1, 0, 1]).calls.countP (Call.completed 0) = 1 := by
  let answers := [(Sample.answer 7 120, Sample.clock 10), (Sample.answer 8 90.5, Sample.clock 11)]
  let w := (start Sample.store answers).turns [0, 1, 0, 1, 0, 1, 0, 1, 0, 1, 0, 1]
  have hGet : Sample.store.get? 0 = some Sample.batch := rfl
  obtain ⟨b, hb, -, -, hOne⟩ := publication_exactly_once Sample.reachable_store hGet
    (by decide +kernel) answers (run_turns _ [0, 1, 0, 1, 0, 1, 0, 1, 0, 1, 0, 1])
  have hAwaited : (w.store.get? 0).map Batch.awaited = some [] := by decide +kernel
  have hReturned : w.calls.all Call.hasReturned = true := by decide +kernel
  rw [show w.store.get? 0 = some b from hb, Option.map_some, Option.some.injEq] at hAwaited
  exact hOne hAwaited (List.all_eq_true.1 hReturned)

end Contention

end TransitForecast
