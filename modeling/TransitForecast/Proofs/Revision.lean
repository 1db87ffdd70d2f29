import Mathlib.Data.List.Forall2
import TransitForecast.Proofs.Settling
import TransitForecast.Proofs.Stores

/-!
# TransitForecast — predictions under answers

A prediction lists its stop pairs once. Answers to its inferences, in whatever number and order,
some of them late or repeated, revise stop predictions in place: a revised one becomes final and
stays where it is, and the others are not touched.

## Results

* `revises_settleAll` — answers revise the stop predictions one by one, in place.
* `sound_settleAll`   — answers keep a prediction sound.
* `awaited_ranges`    — the ranges of the awaited segments after answers: in bounds, not empty,
  pairwise disjoint, and exactly what is not final.
-/

namespace TransitForecast

-- ---------------------------------------------------------------------------
-- One stop prediction
-- ---------------------------------------------------------------------------

namespace StopPrediction

/-- The stops that the prediction is about. -/
def place (x : StopPrediction) : Nat × Nat := (x.origin, x.target)

/-- What answers may make of a stop prediction: nothing new, or a final one between the same
stops. -/
def Revises (x y : StopPrediction) : Prop :=
  y = x ∨ x.complete = false ∧ y.complete = true ∧ y.place = x.place ∧
    y.source ≠ .endOfPredictions

theorem Revises.refl (x : StopPrediction) : x.Revises x := .inl rfl

theorem Revises.trans {x y z : StopPrediction} (h : x.Revises y) (h' : y.Revises z) :
    x.Revises z := by
  rcases h with rfl | ⟨hOpen, hFinal, hPlace, hSource⟩
  · exact h'
  · rcases h' with rfl | ⟨hOpen', -⟩
    · exact .inr ⟨hOpen, hFinal, hPlace, hSource⟩
    · -- what is final is not revised again
      rw [hFinal] at hOpen'
      cases hOpen'

theorem forall₂_revises_trans {xs ys zs : List StopPrediction} (h : List.Forall₂ Revises xs ys) :
    List.Forall₂ Revises ys zs → List.Forall₂ Revises xs zs := by
  induction h generalizing zs with
  | nil => exact fun h' => h'
  | cons hHead _ ih =>
    intro h'
    obtain ⟨z, rest, hNext, hRest, rfl⟩ := List.forall₂_cons_left_iff.1 h'
    exact .cons (hHead.trans hNext) (ih hRest)

theorem Revises.place_eq {x y : StopPrediction} (h : x.Revises y) : y.place = x.place := by
  rcases h with rfl | ⟨-, -, hPlace, -⟩
  · rfl
  · exact hPlace

end StopPrediction

namespace Segment

theorem answerSource_ne_ending (s : Segment) : s.answerSource ≠ .endOfPredictions := by
  unfold answerSource
  split <;> decide

theorem source_of_mem_allocate {s : Segment} {total : Float} {source : Source} {complete : Bool}
    {x : StopPrediction} (h : x ∈ s.allocate total source complete) : x.source = source := by
  rw [allocate, List.mem_mapIdx] at h
  obtain ⟨i, hi, rfl⟩ := h
  rfl

end Segment

theorem Awaited.size_pos (a : Awaited) : 0 < a.size := by
  have := a.segment.twoStops
  rw [size]
  omega

theorem Awaited.size_eq (a : Awaited) : a.size = (stopPairs a.segment.stops).length := by
  rw [stopPairs_length, size]

-- ---------------------------------------------------------------------------
-- A whole prediction
-- ---------------------------------------------------------------------------

namespace TripPrediction

section Answers

variable {p : TripPrediction} {key : InferenceKey} {seconds : Float}

/-- An answer that is taken revises the stop predictions of its segment. -/
theorem revises_answer {a : Awaited} (hp : p.Sound) (ha : p.awaiting.find? key = some a) {i : Nat}
    {x y : StopPrediction} (hx : p.stops[i]? = some x) (hCover : a.covers i = true)
    (hy : (a.segment.answered seconds)[i - a.offset]? = some y) : x.Revises y := by
  have hRange := Awaited.covers_iff.1 hCover
  have hIndex : a.offset + (i - a.offset) = i := by omega
  have hOpen : x.complete = false := (hp.incomplete_iff hx).2 ⟨key, a, ha, hCover⟩
  have hOld := hp.placed (j := i - a.offset) ha (by rw [hIndex]; exact hx) (by omega)
  have hNew := Segment.getElem?_allocate hy
  have hPlace : y.place = x.place :=
    Prod.ext (hNew.1.trans hOld.1.symm) (hNew.2.1.trans hOld.2.symm)
  have hSource : y.source = a.segment.answerSource :=
    Segment.source_of_mem_allocate (List.mem_of_getElem? hy)
  refine .inr ⟨hOpen, hNew.2.2, hPlace, ?_⟩
  rw [hSource]
  exact a.segment.answerSource_ne_ending

theorem length_stops_settle (hp : p.Sound) :
    (p.settle key seconds).stops.length = p.stops.length := by
  cases hFound : p.awaiting.find? key with
  | none => rw [settle_of_not_found hFound]
  | some a => exact length_stops_answer? hp (answer?_settle hFound)

/-- An answer revises stop predictions in place. -/
theorem revises_settle (hp : p.Sound) :
    List.Forall₂ StopPrediction.Revises p.stops (p.settle key seconds).stops := by
  rw [List.forall₂_iff_get]
  refine ⟨(length_stops_settle hp).symm, fun i hi hi' => ?_⟩
  have hx : p.stops[i]? = some (p.stops.get ⟨i, hi⟩) := List.getElem?_eq_getElem hi
  have hy : (p.settle key seconds).stops[i]? = some ((p.settle key seconds).stops.get ⟨i, hi'⟩) :=
    List.getElem?_eq_getElem hi'
  rw [getElem?_settle hp] at hy
  cases hFound : p.awaiting.find? key with
  | none =>
    rw [hFound] at hy
    exact .inl (Option.some_inj.1 (hy.symm.trans hx))
  | some a =>
    rw [hFound] at hy
    dsimp only at hy
    split at hy
    · exact revises_answer hp hFound hx ‹_› hy
    · exact .inl (Option.some_inj.1 (hy.symm.trans hx))

/-- A prediction after answers, some of which may come too late. -/
def settleAll (p : TripPrediction) (answers : List (InferenceKey × Float)) : TripPrediction :=
  answers.foldl (fun p x => p.settle x.1 x.2) p

theorem settleAll_cons (p : TripPrediction) (x : InferenceKey × Float)
    (answers : List (InferenceKey × Float)) :
    p.settleAll (x :: answers) = (p.settle x.1 x.2).settleAll answers := rfl

/-- Answers change only the stop predictions and what is awaited. -/
theorem trip_settleAll (answers : List (InferenceKey × Float)) :
    ∀ {p : TripPrediction}, (p.settleAll answers).trip = p.trip := by
  induction answers with
  | nil => exact rfl
  | cons x rest ih =>
    intro p
    rw [settleAll_cons, ih, settle_eq]

/-- Answers keep a prediction sound. -/
theorem sound_settleAll {answers : List (InferenceKey × Float)} :
    ∀ {p : TripPrediction}, p.Sound → (p.settleAll answers).Sound := by
  induction answers with
  | nil => exact fun hp => hp
  | cons x rest ih => exact fun hp => ih (sound_settle hp)

/-- Answers revise stop predictions in place. -/
theorem revises_settleAll {answers : List (InferenceKey × Float)} :
    ∀ {p : TripPrediction}, p.Sound →
      List.Forall₂ StopPrediction.Revises p.stops (p.settleAll answers).stops := by
  induction answers with
  | nil => exact fun {p} _ => List.forall₂_same.2 fun x _ => .refl x
  | cons x rest ih =>
    intro p hp
    have hFirst : List.Forall₂ _ p.stops (p.settle x.1 x.2).stops := revises_settle hp
    have hRest := ih (p := p.settle x.1 x.2) (sound_settle hp)
    exact StopPrediction.forall₂_revises_trans hFirst hRest

/-- Answers leave every stop prediction between its stops. -/
theorem places_settleAll (hp : p.Sound) (answers : List (InferenceKey × Float)) :
    (p.settleAll answers).stops.map StopPrediction.place = p.stops.map StopPrediction.place := by
  have hRevises : List.Forall₂ _ p.stops (p.settleAll answers).stops := revises_settleAll hp
  have hPlaces := hRevises.imp fun _ _ hRevises => hRevises.place_eq.symm
  rw [← List.forall₂_eq_eq_eq, List.forall₂_map_left_iff, List.forall₂_map_right_iff]
  exact hPlaces.flip.imp fun _ _ hEq => hEq.symm

/-- Something is awaited iff some stop prediction is not final. -/
theorem pending_eq_zero_iff (hp : p.Sound) : p.pending = 0 ↔ ∀ x ∈ p.stops, x.complete = true := by
  constructor
  · exact complete_of_pending_eq_zero hp
  · intro hFinal
    rw [pending, Table.size, List.length_eq_zero_iff, List.eq_nil_iff_forall_not_mem]
    rintro ⟨k, a⟩ hEntry
    have hk : p.awaiting.find? k = some a := Table.find?_eq_some_iff.2 hEntry
    -- an awaited segment has a first stop prediction, which is not final
    have hBounds := hp.inBounds hk
    have hSize := a.size_pos
    have hFirst : p.stops[a.offset]? = some p.stops[a.offset] := List.getElem?_eq_getElem (by omega)
    have hCover : a.covers a.offset = true := Awaited.covers_iff.2 ⟨Nat.le_refl _, by omega⟩
    have hOpen := (hp.incomplete_iff hFirst).2 ⟨k, a, hk, hCover⟩
    rw [hFinal _ (List.mem_of_getElem? hFirst)] at hOpen
    cases hOpen

end Answers

end TripPrediction

-- ---------------------------------------------------------------------------
-- Ranges
-- ---------------------------------------------------------------------------

/-- Whatever was answered, the stop predictions that are not final are exactly those in the ranges
of the awaited segments. The ranges are in bounds, not empty and pairwise disjoint, an answer to any
of them fits in, and no stop prediction ever comes, goes or moves. -/
theorem TripPredictor.open_exactly_awaited {predictor : TripPredictor} {calendar : ServiceCalendar}
    {store : ObservedTransitions} {d : Deviation} {g : Progress}
    (h : predictor.predict calendar store d = .ok g) (answers : List (InferenceKey × Float)) :
    let p := g.prediction.settleAll answers
    (∀ i x, p.stops[i]? = some x →
      (x.complete = false ↔ ∃ k a, p.awaiting.find? k = some a ∧
        a.offset ≤ i ∧ i < a.offset + (stopPairs a.segment.stops).length)) ∧
    (∀ k a, p.awaiting.find? k = some a →
      0 < (stopPairs a.segment.stops).length ∧
        a.offset + (stopPairs a.segment.stops).length ≤ p.stops.length) ∧
    (∀ k k' a a', p.awaiting.find? k = some a → p.awaiting.find? k' = some a' → k ≠ k' →
      a.offset + (stopPairs a.segment.stops).length ≤ a'.offset ∨
        a'.offset + (stopPairs a'.segment.stops).length ≤ a.offset) ∧
    p.stops.map (fun x => (x.origin, x.target)) =
      g.prediction.stops.map (fun x => (x.origin, x.target)) ∧
    (p.pending = 0 ↔ ∀ x ∈ p.stops, x.complete = true) ∧
    (∀ k a seconds, p.awaiting.find? k = some a →
      a.offset + (a.segment.answered seconds).length ≤ p.stops.length) := by
  intro p
  have hStart : g.prediction.Sound := (sound_predict h).prediction
  have hp : p.Sound := TripPrediction.sound_settleAll hStart
  simp only [← Awaited.size_eq]
  refine ⟨?_, ?_, ?_, ?_, TripPrediction.pending_eq_zero_iff hp, ?_⟩
  · intro i x hx
    rw [hp.incomplete_iff hx]
    simp only [Awaited.covers_iff]
  · intro k a hk
    exact ⟨a.size_pos, hp.inBounds hk⟩
  · intro k k' a a' hk hk' hKeys
    by_contra hOverlap
    rw [not_or] at hOverlap
    -- two ranges that overlap share the later of their first positions
    have hCover : a.covers (max a.offset a'.offset) = true := by
      have := a.size_pos
      exact Awaited.covers_iff.2 ⟨Nat.le_max_left .., by omega⟩
    have hCover' : a'.covers (max a.offset a'.offset) = true := by
      have := a'.size_pos
      exact Awaited.covers_iff.2 ⟨Nat.le_max_right .., by omega⟩
    exact hKeys (hp.disjoint hk hk' hCover hCover')
  · exact TripPrediction.places_settleAll hStart answers
  · intro k a seconds hk
    rw [a.length_answered]
    exact hp.inBounds hk

namespace Sample

/-- A trip that serves the same pair of stops twice. -/
def loop : Trip := ⟨1, "t1", "R1",
  [stop "A" 1 0 true, stop "B" 2 300 true, stop "A" 3 600 true, stop "B" 4 900 true]⟩

/-- A predictor of that trip with one model, for the pair that occurs twice. -/
def loopPredictor : TripPredictor :=
  .build .default (.ofModels [model 7 "A_B"]) ⟨3600000000000⟩ loop

def loopProgress? : Option TripPredictor.Progress :=
  (loopPredictor.predict engine.calendar engine.transitions deviation).toOption

/-- What is predicted of it at its first stop. -/
def loopProgress : TripPredictor.Progress := loopProgress?.get (by decide +kernel)

end Sample

/-- On a loop two segments need the same inference, and only the first awaits it: an answer to
another model changes nothing, and the one to its own leaves nothing awaited. -/
theorem TripPredictor.open_exactly_awaited_on_a_loop :
    Sample.loopPredictor.predict Sample.engine.calendar Sample.engine.transitions Sample.deviation =
        .ok Sample.loopProgress ∧
      Sample.loopProgress.prediction.pending = 1 ∧
      (∀ answers ∈ [[], [(⟨8, 3⟩, 100)], [(⟨8, 3⟩, 100), (⟨7, 3⟩, 400)]],
        let p := Sample.loopProgress.prediction.settleAll answers
        (∀ i x, p.stops[i]? = some x →
          (x.complete = false ↔ ∃ k a, p.awaiting.find? k = some a ∧
            a.offset ≤ i ∧ i < a.offset + (stopPairs a.segment.stops).length)) ∧
        (p.pending = 0 ↔ ∀ x ∈ p.stops, x.complete = true)) := by
  have hMade : Sample.loopPredictor.predict Sample.engine.calendar Sample.engine.transitions
      Sample.deviation = .ok Sample.loopProgress := predict_eq_get _
  refine ⟨hMade, by decide +kernel, fun answers _ => ?_⟩
  obtain ⟨hOpen, -, -, -, hNothing, -⟩ := open_exactly_awaited hMade answers
  exact ⟨hOpen, hNothing⟩

end TransitForecast
