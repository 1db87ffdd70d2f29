import TransitForecast.Proofs.Batches

/-!
# TransitForecast — answers in any order

What is known of a batch after some answers does not depend on their order. Each answer replaces the
stop predictions of its own segment, no two awaited segments share a stop prediction, and trips do
not share any.

## Results

* `TripPrediction.settle_comm`, `Batch.settle_comm` — two answers may change places.
* `Batch.awaited_settle` — an answer leaves all other inferences awaited.
* `Batch.settleAll_perm` — any number of answers may come in any order.
-/

namespace TransitForecast

/-- Keys may be erased in any order. -/
theorem Table.erase_comm {κ α : Type} [DecidableEq κ] (t : Table κ α) (k k' : κ) :
    (t.erase k).erase k' = (t.erase k').erase k := by
  simp only [erase, filter, List.filter_filter, Bool.and_comm]

-- ---------------------------------------------------------------------------
-- One trip
-- ---------------------------------------------------------------------------

namespace TripPrediction

/-- A prediction after an answer, which may come too late. -/
def settle (p : TripPrediction) (key : InferenceKey) (seconds : Float) : TripPrediction :=
  (p.answer? key seconds).getD p

section Settle

variable {p : TripPrediction} {key key' : InferenceKey} {seconds seconds' : Float}

theorem settle_of_answer? {p' : TripPrediction} (h : p.answer? key seconds = some p') :
    p.settle key seconds = p' := by
  rw [settle, h, Option.getD_some]

/-- An answer to an awaited inference succeeds. -/
theorem answer?_settle {a : Awaited} (h : p.awaiting.find? key = some a) :
    p.answer? key seconds = some (p.settle key seconds) := by
  obtain ⟨p', hAnswer⟩ := Option.isSome_iff_exists.1
    ((p.answer?_isSome_iff key seconds).2 (mem_awaitedKeys_iff.2 ⟨a, h⟩))
  rw [settle_of_answer? hAnswer, hAnswer]

theorem settle_of_not_found (h : p.awaiting.find? key = none) : p.settle key seconds = p := by
  rw [settle, answer?, h]
  rfl

/-- An answer changes only the stop predictions and what is awaited. -/
theorem settle_eq (p : TripPrediction) (key : InferenceKey) (seconds : Float) :
    p.settle key seconds =
      { p with stops := (p.settle key seconds).stops, awaiting := p.awaiting.erase key } := by
  cases hFound : p.awaiting.find? key with
  | none => rw [settle_of_not_found hFound, Table.erase_of_not_found hFound]
  | some a =>
    obtain ⟨_, -, hEq⟩ := answer?_eq_some_iff.1 (answer?_settle hFound)
    rw [hEq]

theorem settle_deviation : (p.settle key seconds).deviation = p.deviation := by
  rw [settle_eq]

theorem awaiting_settle : (p.settle key seconds).awaiting = p.awaiting.erase key := by
  rw [settle_eq]

theorem awaitedKeys_settle :
    (p.settle key seconds).awaitedKeys = p.awaitedKeys.filter fun k => k ≠ key := by
  rw [awaitedKeys, awaiting_settle, awaitedKeys, List.filter_map]
  rfl

theorem sound_settle (hp : p.Sound) : (p.settle key seconds).Sound := by
  cases hAnswer : p.answer? key seconds with
  | none =>
    rw [settle, hAnswer]
    exact hp
  | some p' =>
    rw [settle_of_answer? hAnswer]
    exact sound_answer? hp hAnswer

/-- An answer replaces the stop predictions of its own segment. -/
theorem getElem?_settle (hp : p.Sound) (i : Nat) : (p.settle key seconds).stops[i]? =
    match p.awaiting.find? key with
    | some a => if a.covers i then (a.segment.answered seconds)[i - a.offset]? else p.stops[i]?
    | none => p.stops[i]? := by
  cases hFound : p.awaiting.find? key with
  | none => rw [settle_of_not_found hFound]
  | some a => exact getElem?_answer? hp hFound (answer?_settle hFound) i

/-- Two answers may change places. -/
theorem settle_comm (hp : p.Sound) (hKeys : key ≠ key') :
    (p.settle key seconds).settle key' seconds' =
      (p.settle key' seconds').settle key seconds := by
  have hStops : ((p.settle key seconds).settle key' seconds').stops =
      ((p.settle key' seconds').settle key seconds).stops := by
    refine List.ext_getElem? fun i => ?_
    rw [getElem?_settle (sound_settle hp), getElem?_settle (sound_settle hp), awaiting_settle,
      awaiting_settle, Table.find?_erase, Table.find?_erase, if_neg hKeys, if_neg hKeys.symm,
      getElem?_settle hp, getElem?_settle hp]
    cases hFound : p.awaiting.find? key with
    | none => rfl
    | some a =>
      cases hFound' : p.awaiting.find? key' with
      | none => rfl
      | some a' =>
        -- the two segments share no stop prediction
        have hApart : ¬ (a.covers i = true ∧ a'.covers i = true) := fun hBoth =>
          hKeys (hp.disjoint hFound hFound' hBoth.1 hBoth.2)
        dsimp only
        split
        · rename_i hCovers'
          rw [if_neg fun hCovers => hApart ⟨hCovers, hCovers'⟩]
        · rfl
  rw [settle_eq (p.settle key seconds), settle_eq (p.settle key' seconds'), hStops, awaiting_settle,
    awaiting_settle, Table.erase_comm, settle_eq p key, settle_eq p key']

end Settle

end TripPrediction

-- ---------------------------------------------------------------------------
-- Batches
-- ---------------------------------------------------------------------------

namespace Batch

/-- A batch after an answer to an inference of a trip. -/
def settle (b : Batch) (x : String × InferenceKey) (seconds : Float) : Batch :=
  { b with
    trips := b.trips.map fun p => if p.deviation.trip = x.1 then p.settle x.2 seconds else p }

/-- A batch after answers. -/
def settleAll (b : Batch) (answers : List ((String × InferenceKey) × Float)) : Batch :=
  answers.foldl (fun b x => b.settle x.1 x.2) b

section Settle

variable {b : Batch} {x x' : String × InferenceKey} {seconds : Float}

/-- An answer that is taken settles its inference. -/
theorem eq_settle_of_answer {b' : Batch} {c : CorrelationId} (hb : b.Sound)
    (h : b.answer c seconds = .ok b') : b' = b.settle (c.trip, ⟨c.model, c.version⟩) seconds := by
  obtain ⟨front, p, back, p', hEq, hFront, hp, hp', rfl⟩ := answer_eq_ok_iff.1 h
  have hSame : ∀ {l : List TripPrediction}, (∀ q ∈ l, q.deviation.trip ≠ c.trip) →
      l.map (fun q =>
        if q.deviation.trip = c.trip then q.settle ⟨c.model, c.version⟩ seconds else q) = l := by
    intro l hl
    refine (List.map_congr_left fun q hq => ?_).trans (List.map_id l)
    exact if_neg (hl q hq)
  have hBack : ∀ q ∈ back, q.deviation.trip ≠ c.trip := hb.ne_trip_of_mem_back hEq hp
  rw [settle, hEq, List.map_append, List.map_cons, if_pos hp, hSame hFront, hSame hBack,
    TripPrediction.settle_of_answer? hp']

theorem trip_settle (p : TripPrediction) :
    (if p.deviation.trip = x.1 then p.settle x.2 seconds else p).deviation.trip =
      p.deviation.trip := by
  split
  · rw [TripPrediction.settle_deviation]
  · rfl

theorem sound_settle (hb : b.Sound) : (b.settle x seconds).Sound where
  trips := by
    intro p hp
    obtain ⟨q, hq, rfl⟩ := List.mem_map.1 hp
    split
    · exact TripPrediction.sound_settle (hb.trips q hq)
    · exact hb.trips q hq
  distinct := by
    simp only [settle, List.map_map, Function.comp_def, trip_settle]
    exact hb.distinct
  id := hb.id

/-- Two answers may change places. -/
theorem settle_comm (hb : b.Sound) (hApart : x ≠ x') (seconds seconds' : Float) :
    (b.settle x seconds).settle x' seconds' = (b.settle x' seconds').settle x seconds := by
  have hTrips : ((b.settle x seconds).settle x' seconds').trips =
      ((b.settle x' seconds').settle x seconds).trips := by
    simp only [settle, List.map_map]
    refine List.map_congr_left fun p hp => ?_
    simp only [Function.comp, trip_settle]
    by_cases hTrip : p.deviation.trip = x.1
    · by_cases hTrip' : p.deviation.trip = x'.1
      · -- both answers are for this trip, so they are for different inferences
        have hKeys : x.2 ≠ x'.2 := fun hEq => hApart (Prod.ext (hTrip.symm.trans hTrip') hEq)
        simp only [if_pos hTrip, if_pos hTrip']
        exact TripPrediction.settle_comm (hb.trips p hp) hKeys
      · simp only [if_pos hTrip, if_neg hTrip']
    · simp only [if_neg hTrip]
  exact congrArg (fun trips => { b with trips := trips : Batch }) hTrips

theorem nodup_awaited (hb : b.Sound) : b.awaited.Nodup := by
  rw [awaited, List.nodup_flatMap]
  constructor
  · intro p _
    exact p.nodup_awaitedKeys.map fun key key' hEq => (Prod.mk.inj hEq).2
  · refine (List.pairwise_map.1 hb.distinct).imp fun hApart => ?_
    intro y hFirst hSecond
    obtain ⟨_, -, rfl⟩ := List.mem_map.1 hFirst
    obtain ⟨_, -, hEq⟩ := List.mem_map.1 hSecond
    exact hApart (Prod.mk.inj hEq).1.symm

/-- An answer leaves all other inferences awaited. -/
theorem awaited_settle (b : Batch) (x : String × InferenceKey) (seconds : Float) :
    (b.settle x seconds).awaited = b.awaited.filter fun y => y ≠ x := by
  simp only [awaited, settle, List.flatMap_map, List.filter_flatMap]
  refine List.flatMap_congr fun p _ => ?_
  rw [List.filter_map]
  by_cases hTrip : p.deviation.trip = x.1
  · rw [if_pos hTrip, TripPrediction.settle_deviation, TripPrediction.awaitedKeys_settle]
    congr 1
    refine List.filter_congr fun key _ => ?_
    simp [Prod.ext_iff, hTrip]
  · rw [if_neg hTrip, List.filter_eq_self.2]
    intro key _
    simp [Prod.ext_iff, hTrip]

/-- Answers to different inferences may come in any order. -/
theorem settleAll_perm {answers answers' : List ((String × InferenceKey) × Float)}
    (h : answers.Perm answers') :
    ∀ {b : Batch}, b.Sound → (answers.map Prod.fst).Nodup →
      b.settleAll answers = b.settleAll answers' := by
  induction h with
  | nil =>
    intro b _ _
    rfl
  | cons x _ ih =>
    intro b hb hDistinct
    rw [List.map_cons, List.nodup_cons] at hDistinct
    exact ih (sound_settle hb) hDistinct.2
  | swap x y rest =>
    intro b hb hDistinct
    have hApart : y.1 ≠ x.1 := by
      intro hEq
      simp [hEq] at hDistinct
    have hTwo := settle_comm hb hApart y.2 x.2
    exact congrArg (fun b => settleAll b rest) hTwo
  | trans hFirst _ ih₁ ih₂ =>
    intro b hb hDistinct
    exact (ih₁ hb hDistinct).trans (ih₂ hb ((hFirst.map Prod.fst).nodup_iff.1 hDistinct))

end Settle

end Batch

end TransitForecast
