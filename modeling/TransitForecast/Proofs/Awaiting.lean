import Mathlib.Data.List.Nodup
import TransitForecast.Prediction.TripPredictor

/-!
# TransitForecast — what a trip prediction awaits

The segments that wait for an inference stand in a table of offsets beside a flat list of stop
predictions. The two agree: every awaited segment has a range of positions of its own, and
the stop predictions that are not final are exactly those in these ranges. A prediction starts
like that, and neither adding segments nor answering inferences ever breaks it.

## Results

* `addSegment_cases`   — what a segment adds to a prediction.
* `predict_induction`  — what holds of the empty prediction and is kept by each segment and by the
  end marker holds of the prediction of a trip.
* `sound_predict`      — what a trip predictor makes is sound, and it asks for what is awaited.
* `sound_answer?`      — answering an inference keeps a prediction sound.
* `getElem?_answer?`   — an answer replaces the stop predictions of its own segment only.
* `complete_of_pending_eq_zero` — when nothing is awaited every stop prediction is final.
-/

namespace TransitForecast

-- ---------------------------------------------------------------------------
-- Segments
-- ---------------------------------------------------------------------------

namespace Segment

theorem length_allocate (s : Segment) (total : Float) (source : Source) (complete : Bool) :
    (s.allocate total source complete).length = s.stops.length - 1 := by
  simp [allocate, Allocation.split_length, pairSeconds, stopPairs_length]

theorem length_answered (s : Segment) (seconds : Float) :
    (s.answered seconds).length = s.stops.length - 1 :=
  s.length_allocate seconds s.answerSource true

/-- The share of a stop pair lies between the stops of that pair. -/
theorem getElem?_allocate {s : Segment} {total : Float} {source : Source} {complete : Bool}
    {i : Nat} {x : StopPrediction} (h : (s.allocate total source complete)[i]? = some x) :
    x.origin = s.firstIndex + i ∧ x.target = s.firstIndex + i + 1 ∧ x.complete = complete := by
  rw [allocate, List.getElem?_mapIdx] at h
  obtain ⟨seconds, -, rfl⟩ := Option.map_eq_some_iff.1 h
  exact ⟨rfl, rfl, rfl⟩

theorem complete_of_mem_allocate {s : Segment} {total : Float} {source : Source} {complete : Bool}
    {x : StopPrediction} (h : x ∈ s.allocate total source complete) : x.complete = complete := by
  obtain ⟨i, hi⟩ := List.mem_iff_getElem?.1 h
  exact (getElem?_allocate hi).2.2

/-- Predictions that count as final are those of a segment that needs no inference. -/
theorem map_final_allocate (s : Segment) (total : Float) (source : Source) (complete : Bool) :
    (s.allocate total source complete).map (fun x => { x with complete := true }) =
      s.allocate total source true := by
  refine List.ext_getElem? fun i => ?_
  rw [List.getElem?_map, allocate, allocate, List.getElem?_mapIdx, List.getElem?_mapIdx,
    Option.map_map]
  rfl

section Predict

variable {s : Segment} {d : Deviation}

/-- A segment that needs no inference is final. -/
theorem predict_of_not_needed (h : s.needsInference d = false) (calendar : ServiceCalendar)
    (store : ObservedTransitions) :
    s.predict calendar store d =
      .ok (s.allocate s.statistical.1 s.statistical.2 true, none, store) := by
  unfold predict
  rw [h]
  cases s.model with
  | none => rfl
  | some model => rfl

theorem model_of_needed (h : s.needsInference d = true) : ∃ model, s.model = some model :=
  Option.isSome_iff_exists.1 (s.modelled (Bool.and_eq_true_iff.1 h).1)

/-- A segment that needs an inference asks for that of its model, with the features of its stops. -/
theorem predict_of_needed (h : s.needsInference d = true) {model : TravelModel}
    (hModel : s.model = some model) (calendar : ServiceCalendar) (store : ObservedTransitions) :
    s.predict calendar store d = (Features.build calendar store d s.stops).map fun built =>
      (s.allocate s.statistical.1 s.statistical.2 false,
        some ⟨⟨model.id, model.version⟩, built.1⟩, built.2) := by
  unfold predict
  rw [h, hModel]
  dsimp only
  rw [if_pos rfl]
  cases Features.build calendar store d s.stops with
  | error halt => rfl
  | ok built => rfl

/-- A segment either needs no inference and is final, or it needs that of its model and is not. -/
theorem predict_cases {calendar : ServiceCalendar} {store : ObservedTransitions}
    {made : List StopPrediction × Option Inference × ObservedTransitions}
    (h : s.predict calendar store d = .ok made) :
    made = (s.allocate s.statistical.1 s.statistical.2 true, none, store) ∨
      ∃ model features after, s.model = some model ∧
        made = (s.allocate s.statistical.1 s.statistical.2 false,
          some ⟨⟨model.id, model.version⟩, features⟩, after) := by
  cases hNeeded : s.needsInference d with
  | false =>
    rw [predict_of_not_needed hNeeded] at h
    exact .inl (Except.ok.inj h).symm
  | true =>
    obtain ⟨model, hModel⟩ := model_of_needed hNeeded
    rw [predict_of_needed hNeeded hModel] at h
    cases hBuilt : Features.build calendar store d s.stops with
    | error halt =>
      rw [hBuilt] at h
      cases h
    | ok built =>
      rw [hBuilt] at h
      exact .inr ⟨model, built.1, built.2, hModel, (Except.ok.inj h).symm⟩

end Predict

end Segment

-- ---------------------------------------------------------------------------
-- Ranges
-- ---------------------------------------------------------------------------

namespace Awaited

/-- Number of stop predictions of the segment. -/
def size (a : Awaited) : Nat := a.segment.stops.length - 1

/-- Whether a position is that of one of the segment's stop predictions. -/
def covers (a : Awaited) (i : Nat) : Bool := a.offset ≤ i && i < a.offset + a.size

theorem covers_iff {a : Awaited} {i : Nat} :
    a.covers i = true ↔ a.offset ≤ i ∧ i < a.offset + a.size := by
  simp [covers]

theorem length_answered (a : Awaited) (seconds : Float) :
    (a.segment.answered seconds).length = a.size :=
  a.segment.length_answered seconds

end Awaited

namespace TripPrediction

section Splice

variable {α : Type} {xs replacement : List α} {offset : Nat}

theorem length_splice (h : offset + replacement.length ≤ xs.length) :
    (splice xs offset replacement).length = xs.length := by
  simp only [splice, List.length_append, List.length_take, List.length_drop]
  omega

/-- A splice within a list changes nothing outside the range that it replaces. -/
theorem getElem?_splice (h : offset + replacement.length ≤ xs.length) (i : Nat) :
    (splice xs offset replacement)[i]? =
      if offset ≤ i ∧ i < offset + replacement.length then replacement[i - offset]?
      else xs[i]? := by
  have hTake : (xs.take offset).length = offset := by
    rw [List.length_take]
    omega
  have hFront : (xs.take offset ++ replacement).length = offset + replacement.length := by
    rw [List.length_append, hTake]
  rw [splice, List.getElem?_append, hFront, List.getElem?_append, hTake]
  by_cases hEnd : i < offset + replacement.length
  · rw [if_pos hEnd]
    by_cases hStart : i < offset
    · rw [if_pos hStart, if_neg (by omega), List.getElem?_take_of_lt hStart]
    · rw [if_neg hStart, if_pos ⟨by omega, hEnd⟩]
  · rw [if_neg hEnd, if_neg (by omega), List.getElem?_drop]
    congr 1
    omega

end Splice

-- ---------------------------------------------------------------------------
-- The invariant
-- ---------------------------------------------------------------------------

/-- The awaited segments and the stop predictions of a trip agree. -/
structure Sound (p : TripPrediction) : Prop where
  inBounds : ∀ {k a}, p.awaiting.find? k = some a → a.offset + a.size ≤ p.stops.length
  disjoint : ∀ {k k' a a' i}, p.awaiting.find? k = some a → p.awaiting.find? k' = some a' →
    a.covers i = true → a'.covers i = true → k = k'
  /-- The stop predictions that are not final are those of the awaited segments. -/
  incomplete_iff : ∀ {i x}, p.stops[i]? = some x →
    (x.complete = false ↔ ∃ k a, p.awaiting.find? k = some a ∧ a.covers i = true)
  /-- The stop predictions of an awaited segment lie between its stops. -/
  placed : ∀ {k a j x}, p.awaiting.find? k = some a → p.stops[a.offset + j]? = some x →
    j < a.size → x.origin = a.segment.firstIndex + j ∧ x.target = a.segment.firstIndex + j + 1

/-- When nothing is awaited every stop prediction is final. -/
theorem complete_of_pending_eq_zero {p : TripPrediction} (hp : p.Sound) (h : p.pending = 0) :
    ∀ x ∈ p.stops, x.complete = true := by
  intro x hx
  obtain ⟨i, hi⟩ := List.mem_iff_getElem?.1 hx
  rw [← Bool.not_eq_false, hp.incomplete_iff hi]
  rintro ⟨k, a, hk, -⟩
  have hEntry := Table.find?_eq_some_iff.1 hk
  rw [List.length_eq_zero_iff.1 h] at hEntry
  exact absurd hEntry (List.not_mem_nil)

theorem sound_start (d : Deviation) (trip : Trip) : (start d trip).Sound where
  inBounds h := by simp [start] at h
  disjoint h := by simp [start] at h
  incomplete_iff h := by simp [start] at h
  placed h := by simp [start] at h

/-- Final stop predictions may be appended. -/
theorem Sound.append {p : TripPrediction} (hp : p.Sound) {xs : List StopPrediction}
    (hFinal : ∀ x ∈ xs, x.complete = true) : (p.append xs).Sound where
  inBounds h := by
    have := hp.inBounds h
    simp only [TripPrediction.append, List.length_append]
    omega
  disjoint := hp.disjoint
  incomplete_iff := by
    intro i x hx
    simp only [TripPrediction.append, List.getElem?_append] at hx ⊢
    split at hx
    · exact hp.incomplete_iff hx
    · -- beyond the old positions nothing is awaited
      rename_i hOld
      rw [hFinal x (List.mem_of_getElem? hx)]
      refine ⟨fun h => by simp at h, ?_⟩
      rintro ⟨k, a, hk, hCover⟩
      have := hp.inBounds hk
      rw [Awaited.covers_iff] at hCover
      omega
  placed := by
    intro k a j x hk hx hj
    have := hp.inBounds hk
    simp only [TripPrediction.append] at hx
    rw [List.getElem?_append_left (by omega)] at hx
    exact hp.placed hk hx hj

/-- A segment may be appended with an inference that is not awaited yet. -/
theorem Sound.register {p : TripPrediction} (hp : p.Sound) {s : Segment} {key : InferenceKey}
    (hNew : p.awaiting.find? key = none) (total : Float) (source : Source) :
    { p.append (s.allocate total source false) with
      awaiting := p.awaiting.insert key ⟨s, p.stops.length⟩ : TripPrediction }.Sound where
  inBounds := by
    intro k a hk
    simp only [TripPrediction.append, Table.find?_insert] at hk ⊢
    rw [List.length_append, s.length_allocate]
    split at hk
    · cases hk
      exact Nat.le_refl _
    · have := hp.inBounds hk
      omega
  disjoint := by
    intro k k' a a' i hk hk' hCover hCover'
    simp only [Table.find?_insert] at hk hk'
    rw [Awaited.covers_iff] at hCover hCover'
    split at hk <;> split at hk'
    · rename_i h h'
      rw [h, h']
    · -- an old range ends where the new one starts
      cases hk
      have := hp.inBounds hk'
      simp only at hCover
      omega
    · cases hk'
      have := hp.inBounds hk
      simp only at hCover'
      omega
    · exact hp.disjoint hk hk' (Awaited.covers_iff.2 hCover) (Awaited.covers_iff.2 hCover')
  incomplete_iff := by
    intro i x hx
    simp only [TripPrediction.append, List.getElem?_append, Table.find?_insert] at hx ⊢
    split at hx
    · rename_i hOld
      rw [hp.incomplete_iff hx]
      constructor
      · rintro ⟨k, a, hk, hCover⟩
        refine ⟨k, a, ?_, hCover⟩
        rw [if_neg, hk]
        rintro rfl
        rw [hNew] at hk
        cases hk
      · rintro ⟨k, a, hk, hCover⟩
        split at hk
        · cases hk
          rw [Awaited.covers_iff] at hCover
          exact absurd hCover.1 (by simp only; omega)
        · exact ⟨k, a, hk, hCover⟩
    · rename_i hOld
      refine ⟨fun _ => ⟨key, ⟨s, p.stops.length⟩, if_pos rfl, ?_⟩, fun _ => ?_⟩
      · have hLength := (List.getElem?_eq_some_iff.1 hx).1
        rw [s.length_allocate] at hLength
        rw [Awaited.covers_iff]
        simp only [Awaited.size]
        omega
      · exact Segment.complete_of_mem_allocate (List.mem_of_getElem? hx)
  placed := by
    intro k a j x hk hx hj
    simp only [TripPrediction.append, Table.find?_insert] at hk hx
    split at hk
    · cases hk
      rw [List.getElem?_append_right (by simp)] at hx
      simp only [Nat.add_sub_cancel_left] at hx
      exact ⟨(Segment.getElem?_allocate hx).1, (Segment.getElem?_allocate hx).2.1⟩
    · have := hp.inBounds hk
      rw [List.getElem?_append_left (by omega)] at hx
      exact hp.placed hk hx hj

-- ---------------------------------------------------------------------------
-- Answering
-- ---------------------------------------------------------------------------

section Answer

variable {p p' : TripPrediction} {key : InferenceKey} {seconds : Float} {a : Awaited}

theorem mem_awaitedKeys_iff : key ∈ p.awaitedKeys ↔ ∃ a, p.awaiting.find? key = some a :=
  Table.mem_keys_iff

theorem nodup_awaitedKeys (p : TripPrediction) : p.awaitedKeys.Nodup := p.awaiting.nodup

theorem length_awaitedKeys (p : TripPrediction) : p.awaitedKeys.length = p.pending := by
  rw [awaitedKeys, List.length_map]
  rfl

theorem answer?_eq_some_iff :
    p.answer? key seconds = some p' ↔
      ∃ a, p.awaiting.find? key = some a ∧
        p' = { p with
          stops := splice p.stops a.offset (a.segment.answered seconds)
          awaiting := p.awaiting.erase key } := by
  rw [answer?, Option.map_eq_some_iff]
  constructor
  · rintro ⟨a, ha, rfl⟩
    exact ⟨a, ha, rfl⟩
  · rintro ⟨a, ha, rfl⟩
    exact ⟨a, ha, rfl⟩

/-- The answer to an awaited inference is taken. -/
theorem answer?_isSome_iff (p : TripPrediction) (key : InferenceKey) (seconds : Float) :
    (p.answer? key seconds).isSome = true ↔ key ∈ p.awaitedKeys := by
  rw [answer?, Option.isSome_map, mem_awaitedKeys_iff, Option.isSome_iff_exists]

theorem pending_answer? (h : p.answer? key seconds = some p') : p'.pending + 1 = p.pending := by
  obtain ⟨a, ha, rfl⟩ := answer?_eq_some_iff.1 h
  exact Table.size_erase ha

/-- An answer replaces the stop predictions of its own segment and no other. -/
theorem getElem?_answer? (hp : p.Sound) (ha : p.awaiting.find? key = some a)
    (h : p.answer? key seconds = some p') (i : Nat) :
    p'.stops[i]? =
      if a.covers i then (a.segment.answered seconds)[i - a.offset]? else p.stops[i]? := by
  obtain ⟨b, hb, rfl⟩ := answer?_eq_some_iff.1 h
  rw [ha] at hb
  cases hb
  have hBounds := hp.inBounds ha
  rw [getElem?_splice (by rwa [a.length_answered]), a.length_answered]
  simp only [Awaited.covers_iff]

theorem length_stops_answer? (hp : p.Sound) (h : p.answer? key seconds = some p') :
    p'.stops.length = p.stops.length := by
  obtain ⟨a, ha, rfl⟩ := answer?_eq_some_iff.1 h
  exact length_splice (by rw [a.length_answered]; exact hp.inBounds ha)

/-- Answering an inference keeps a prediction sound. -/
theorem sound_answer? (hp : p.Sound) (h : p.answer? key seconds = some p') : p'.Sound := by
  obtain ⟨a, ha, hEq⟩ := answer?_eq_some_iff.1 h
  have hStops := getElem?_answer? hp ha h
  have hLength := length_stops_answer? hp h
  have hAwaiting : ∀ k, p'.awaiting.find? k = if k = key then none else p.awaiting.find? k := by
    intro k
    rw [hEq]
    exact Table.find?_erase _ _ _
  -- what is still awaited was awaited before, under another key
  have hOld : ∀ {k b}, p'.awaiting.find? k = some b → k ≠ key ∧ p.awaiting.find? k = some b := by
    intro k b hk
    rw [hAwaiting] at hk
    split at hk
    · cases hk
    · exact ⟨‹_›, hk⟩
  constructor
  case inBounds =>
    intro k b hk
    rw [hLength]
    exact hp.inBounds (hOld hk).2
  case disjoint =>
    intro k k' b b' i hk hk'
    exact hp.disjoint (hOld hk).2 (hOld hk').2
  case incomplete_iff =>
    intro i x hx
    rw [hStops] at hx
    split at hx
    · rename_i hCover
      rw [Segment.complete_of_mem_allocate (List.mem_of_getElem? hx)]
      refine ⟨fun h => by simp at h, ?_⟩
      rintro ⟨k, b, hk, hCover'⟩
      exact absurd (hp.disjoint (hOld hk).2 ha hCover' hCover) (hOld hk).1
    · rename_i hOutside
      rw [hp.incomplete_iff hx]
      constructor
      · rintro ⟨k, b, hk, hCover⟩
        refine ⟨k, b, ?_, hCover⟩
        rw [hAwaiting, if_neg, hk]
        rintro rfl
        rw [ha] at hk
        cases hk
        exact hOutside hCover
      · rintro ⟨k, b, hk, hCover⟩
        exact ⟨k, b, (hOld hk).2, hCover⟩
  case placed =>
    intro k b j x hk hx hj
    have hOutside : ¬ a.covers (b.offset + j) = true := by
      intro hCover
      refine (hOld hk).1 (hp.disjoint (hOld hk).2 ha ?_ hCover)
      rw [Awaited.covers_iff]
      omega
    rw [hStops, if_neg hOutside] at hx
    exact hp.placed (hOld hk).2 hx hj

end Answer

end TripPrediction

-- ---------------------------------------------------------------------------
-- Predicting a trip
-- ---------------------------------------------------------------------------

namespace TripPredictor

/-- The prediction of a trip so far is sound, and asks for what it awaits. -/
structure Progress.Sound (g : Progress) : Prop where
  prediction : g.prediction.Sound
  keys : g.prediction.awaitedKeys = (g.inferences.map Inference.key).reverse

/-- What is awaited is what was asked for. -/
theorem Progress.Sound.mem_awaitedKeys_iff {g : Progress} (h : g.Sound) {key : InferenceKey} :
    key ∈ g.prediction.awaitedKeys ↔ ∃ i ∈ g.inferences, i.key = key := by
  rw [h.keys, List.mem_reverse, List.mem_map]

variable {calendar : ServiceCalendar} {d : Deviation}

/-- What a segment adds: final predictions, or predictions that wait for an inference that was not
awaited before, and is asked for. -/
theorem addSegment_cases {acc g : Progress} {s : Segment}
    (h : addSegment calendar d acc s = .ok g) :
    (g.prediction = acc.prediction.append (s.allocate s.statistical.1 s.statistical.2 true) ∧
      g.inferences = acc.inferences) ∨
    ∃ model features, s.model = some model ∧
      acc.prediction.awaiting.find? ⟨model.id, model.version⟩ = none ∧
      g.prediction = { acc.prediction.append (s.allocate s.statistical.1 s.statistical.2 false) with
        awaiting := acc.prediction.awaiting.insert ⟨model.id, model.version⟩
          ⟨s, acc.prediction.stops.length⟩ } ∧
      g.inferences = acc.inferences ++ [⟨⟨model.id, model.version⟩, features⟩] := by
  unfold addSegment at h
  cases hPredict : s.predict calendar acc.store d with
  | error halt =>
    rw [hPredict] at h
    cases h
  | ok made =>
    rw [hPredict] at h
    rcases Segment.predict_cases hPredict with rfl | ⟨model, features, after, hModel, rfl⟩
    · cases h
      exact .inl ⟨rfl, rfl⟩
    · dsimp only at h
      unfold TripPrediction.appendAwaiting at h
      cases hFound : acc.prediction.awaiting.find? ⟨model.id, model.version⟩ with
      | some a =>
        -- the trip awaits this inference already, and does not ask again
        rw [if_pos (by rw [Table.contains, hFound]; rfl)] at h
        cases h
        exact .inl ⟨congrArg acc.prediction.append (s.map_final_allocate ..), rfl⟩
      | none =>
        rw [if_neg (by rw [Table.contains, hFound]; simp)] at h
        cases h
        exact .inr ⟨model, features, hModel, hFound, rfl, rfl⟩

section Walk

variable {cutoff : Instant} {segments : List Segment} {P : Progress → Prop}

/-- What each segment keeps, and the end marker too, is kept on the way along segments. -/
theorem walk_induction
    (hAdd : ∀ {acc g : Progress} {s : Segment}, s ∈ segments → P acc →
      addSegment calendar d acc s = .ok g → P g)
    (hMark : ∀ {acc : Progress} {s : Segment}, s ∈ segments → P acc →
      P { acc with prediction := acc.prediction.push (.ending s.firstIndex) }) :
    ∀ {ahead : Bool} {acc g : Progress}, P acc →
      walk calendar d cutoff ahead acc segments = .ok g → P g := by
  induction segments with
  | nil =>
    intro ahead acc g hStart h
    cases h
    exact hStart
  | cons s rest ih =>
    intro ahead acc g hStart h
    have hRest := @ih (fun hs => hAdd (List.mem_cons_of_mem s hs))
      (fun hs => hMark (List.mem_cons_of_mem s hs))
    rw [walk] at h
    split at h
    · cases h
      exact hMark (List.mem_cons_self ..) hStart
    · split at h
      · exact hRest hStart h
      · split at h
        · cases h
        · rename_i hStep
          exact hRest (hAdd (List.mem_cons_self ..) hStart hStep) h

/-- So it holds of a prediction when it holds of the empty one. -/
theorem predict_induction {p : TripPredictor} {store : ObservedTransitions} {g : Progress}
    (hStart : P ⟨.start d p.trip, [], store⟩)
    (hAdd : ∀ {acc g : Progress} {s : Segment}, s ∈ p.segments → P acc →
      addSegment calendar d acc s = .ok g → P g)
    (hMark : ∀ {acc : Progress} {s : Segment}, s ∈ p.segments → P acc →
      P { acc with prediction := acc.prediction.push (.ending s.firstIndex) })
    (h : p.predict calendar store d = .ok g) : P g := by
  unfold predict at h
  split at h
  · cases h
  · exact walk_induction hAdd hMark hStart h

end Walk

theorem sound_addSegment {acc g : Progress} {s : Segment} (h : acc.Sound)
    (hAdd : addSegment calendar d acc s = .ok g) : g.Sound := by
  rcases addSegment_cases hAdd with ⟨hPrediction, hInferences⟩ |
    ⟨model, features, -, hNew, hPrediction, hInferences⟩
  · refine ⟨?_, by rw [hPrediction, hInferences]; exact h.keys⟩
    rw [hPrediction]
    exact h.prediction.append fun x hx => Segment.complete_of_mem_allocate hx
  · refine ⟨?_, ?_⟩
    · rw [hPrediction]
      exact h.prediction.register hNew _ _
    · rw [hPrediction, hInferences]
      show _ :: (acc.prediction.awaiting.erase _).entries.map Prod.fst = _
      rw [Table.erase_of_not_found hNew]
      simp only [List.map_append, List.map_cons, List.map_nil, List.reverse_append]
      exact congrArg (List.cons _) h.keys

/-- What a trip predictor makes is sound, and it asks for what is awaited. -/
theorem sound_predict {p : TripPredictor} {store : ObservedTransitions} {g : Progress}
    (h : p.predict calendar store d = .ok g) : g.Sound := by
  refine predict_induction ⟨TripPrediction.sound_start d p.trip, rfl⟩
    (fun _ hSound => sound_addSegment hSound) (fun {acc s} _ hSound => ?_) h
  refine ⟨hSound.prediction.append fun x hx => ?_, hSound.keys⟩
  rw [List.mem_singleton.1 hx]
  rfl

/-- A segment leaves the observation and the trip as they are. -/
theorem keeps_addSegment {acc g : Progress} {s : Segment}
    (h : addSegment calendar d acc s = .ok g) :
    g.prediction.deviation = acc.prediction.deviation ∧
      g.prediction.trip = acc.prediction.trip := by
  rcases addSegment_cases h with ⟨hPrediction, -⟩ | ⟨_, _, -, -, hPrediction, -⟩
  · rw [hPrediction]
    exact ⟨rfl, rfl⟩
  · rw [hPrediction]
    exact ⟨rfl, rfl⟩

/-- A prediction keeps the observation that it was made from. -/
theorem predict_deviation {p : TripPredictor} {store : ObservedTransitions} {g : Progress}
    (h : p.predict calendar store d = .ok g) : g.prediction.deviation = d :=
  predict_induction (P := fun g => g.prediction.deviation = d) rfl
    (fun _ hSame hAdd => (keeps_addSegment hAdd).1.trans hSame) (fun _ hSame => hSame) h

/-- A prediction is about the trip of its predictor. -/
theorem predict_trip {p : TripPredictor} {store : ObservedTransitions} {g : Progress}
    (h : p.predict calendar store d = .ok g) : g.prediction.trip = p.trip :=
  predict_induction (P := fun g => g.prediction.trip = p.trip) rfl
    (fun _ hSame hAdd => (keeps_addSegment hAdd).2.trans hSame) (fun _ hSame => hSame) h

/-- A prediction that exists can be got. -/
theorem predict_eq_get {p : TripPredictor} {store : ObservedTransitions}
    (hSome : (p.predict calendar store d).toOption.isSome = true) :
    p.predict calendar store d = .ok ((p.predict calendar store d).toOption.get hSome) := by
  generalize p.predict calendar store d = made at hSome
  cases made with
  | error halt => cases hSome
  | ok g => rfl

end TripPredictor

end TransitForecast
