import TransitForecast.Proofs.Coverage

/-!
# TransitForecast — predictions from stores that are alike

A prediction reads observed transitions in one place only, where the features of a run are built.
Which stop pairs are looked up there, and for which time, does not depend on what is found. So to
compare predictions from two stores it takes two relations: one of stores, which says what they have
in common as far as the look-ups to come go, and one of features. When building features gives the
second from the first and keeps the first for what is left, the predictions differ in nothing but
features, and those are related. Whether there is a date to build features for does not depend on
the store, so predicting halts for both or for neither.

## Results

* `Likeness.ofLookups` — where look-ups show the same, features are the same.
* `Likeness.base` — all features are the same up to those of the stop pairs.
* `TripPredictor.like_predict` — a trip is predicted from two stores that are alike.
-/

namespace TransitForecast

-- ---------------------------------------------------------------------------
-- Results that halt alike
-- ---------------------------------------------------------------------------

/-- Two results that halt for one reason, or are both there and related. -/
inductive HaltsAlike {α : Type} (R : α → α → Prop) : Except Halt α → Except Halt α → Prop
  | error (halt : Halt) : HaltsAlike R (.error halt) (.error halt)
  | ok {a b : α} : R a b → HaltsAlike R (.ok a) (.ok b)

namespace HaltsAlike

variable {α β : Type} {R : α → α → Prop} {S : β → β → Prop} {x y : Except Halt α}

theorem bind {f g : α → Except Halt β} (h : HaltsAlike R x y)
    (hNext : ∀ {a b}, R a b → HaltsAlike S (f a) (g b)) : HaltsAlike S (x >>= f) (y >>= g) := by
  cases h with
  | error halt => exact .error halt
  | ok hRel => exact hNext hRel

theorem imp {S : α → α → Prop} (h : HaltsAlike R x y) (hNext : ∀ {a b}, R a b → S a b) :
    HaltsAlike S x y := by
  cases h with
  | error halt => exact .error halt
  | ok hRel => exact .ok (hNext hRel)

theorem map {f g : α → β} (h : HaltsAlike R x y) (hNext : ∀ {a b}, R a b → S (f a) (g b)) :
    HaltsAlike S (x.map f) (y.map g) := by
  cases h with
  | error halt => exact .error halt
  | ok hRel => exact .ok (hNext hRel)

end HaltsAlike

-- ---------------------------------------------------------------------------
-- What stores and features have in common
-- ---------------------------------------------------------------------------

/-- What two stores have in common, as far as some look-ups go, and what the features that are built
from them have. -/
structure Likeness where
  stores : List Lookup → ObservedTransitions → ObservedTransitions → Prop
  features : List Float → List Float → Prop
  build : ∀ (calendar : ServiceCalendar) (d : Deviation) (run : List Stop) {later s s'},
    stores (Features.lookups d run ++ later) s s' →
      HaltsAlike (fun x y => features x.1 y.1 ∧ stores later x.2 y.2)
        (Features.build calendar s d run) (Features.build calendar s' d run)

namespace Features

/-- Whether there is a date does not depend on the store: features are there for both, with the same
features of the observation before those of the stop pairs. -/
theorem build_haltsAlike (calendar : ServiceCalendar) (d : Deviation) {run : List Stop}
    {s s' : ObservedTransitions}
    {R : List Float × ObservedTransitions → List Float × ObservedTransitions → Prop}
    (hNil : run = [] → R ([], s) ([], s'))
    (hPairs : ∀ first : List Float, first.length = baseCount →
      R (first ++ (ofPairs d.observedAt (stopPairs run) s).1,
          (ofPairs d.observedAt (stopPairs run) s).2)
        (first ++ (ofPairs d.observedAt (stopPairs run) s').1,
          (ofPairs d.observedAt (stopPairs run) s').2)) :
    HaltsAlike R (build calendar s d run) (build calendar s' d run) := by
  by_cases hRun : run = []
  · subst hRun
    exact .ok (hNil rfl)
  · cases hWall : calendar.zone.wallTime? d.observedAt with
    | none =>
      rw [build_of_undated hWall hRun, build_of_undated hWall hRun]
      exact .error .overflow
    | some wall =>
      rw [build_of_dated hWall hRun, build_of_dated hWall hRun]
      exact .ok (hPairs _ rfl)

/-- Where each look-up shows the same, features are the same. -/
theorem build_of_lookups {stores : List Lookup → ObservedTransitions → ObservedTransitions → Prop}
    (hLookup : ∀ {pair now later s s'}, stores ((pair, now) :: later) s s' →
      (s.lookup pair now).1 = (s'.lookup pair now).1 ∧
        stores later (s.lookup pair now).2 (s'.lookup pair now).2)
    (calendar : ServiceCalendar) (d : Deviation) (run : List Stop) {later : List Lookup}
    {s s' : ObservedTransitions} (h : stores (lookups d run ++ later) s s') :
    HaltsAlike (fun x y => x.1 = y.1 ∧ stores later x.2 y.2)
      (build calendar s d run) (build calendar s' d run) := by
  have hPairs : ∀ (pairs : List (Stop × Stop)) {s s' : ObservedTransitions},
      stores (pairs.map (fun pair => ((pair.1.id, pair.2.id), d.observedAt)) ++ later) s s' →
        (ofPairs d.observedAt pairs s).1 = (ofPairs d.observedAt pairs s').1 ∧
          stores later (ofPairs d.observedAt pairs s).2 (ofPairs d.observedAt pairs s').2 := by
    intro pairs
    induction pairs with
    | nil => exact fun h => ⟨rfl, h⟩
    | cons pair rest ih =>
      intro s s' h
      obtain ⟨hShown, hAfter⟩ := hLookup h
      obtain ⟨hRest, hStores⟩ := ih hAfter
      rw [ofPairs, ofPairs]
      exact ⟨by dsimp only; rw [hShown, hRest], hStores⟩
  obtain ⟨hSame, hStores⟩ := hPairs (stopPairs run) h
  refine build_haltsAlike calendar d (fun hNil => ?_) fun first _ => ⟨?_, hStores⟩
  · subst hNil
    exact ⟨rfl, h⟩
  · exact congrArg (first ++ ·) hSame

theorem length_ofPair (now : Instant) (pair : Stop × Stop) (found : Option Transition) :
    (ofPair now pair found).length = 2 := by
  cases found with
  | none => rfl
  | some t => rfl

/-- There are two features of each stop pair, whatever is found. -/
theorem length_ofPairs (now : Instant) (pairs : List (Stop × Stop)) :
    ∀ s : ObservedTransitions, (ofPairs now pairs s).1.length = 2 * pairs.length := by
  induction pairs with
  | nil => exact fun _ => rfl
  | cons pair rest ih =>
    intro s
    rw [ofPairs]
    dsimp only
    rw [List.length_append, length_ofPair, ih, List.length_cons]
    omega

/-- Whether two lists of features are the same up to the features of the stop pairs. -/
def SameBase (features features' : List Float) : Prop :=
  features.take baseCount = features'.take baseCount ∧ features.length = features'.length

theorem sameBase_build (calendar : ServiceCalendar) (d : Deviation) (run : List Stop)
    (s s' : ObservedTransitions) :
    HaltsAlike (fun x y => SameBase x.1 y.1 ∧ True)
      (build calendar s d run) (build calendar s' d run) := by
  refine build_haltsAlike calendar d (fun _ => ⟨⟨rfl, rfl⟩, trivial⟩) fun first hFirst =>
    ⟨⟨?_, ?_⟩, trivial⟩
  · rw [List.take_left' hFirst, List.take_left' hFirst]
  · rw [List.length_append, List.length_append, length_ofPairs, length_ofPairs]

end Features

namespace Likeness

/-- Of stores that show the same in each look-up, features are the same. -/
def ofLookups (stores : List Lookup → ObservedTransitions → ObservedTransitions → Prop)
    (hLookup : ∀ {pair now later s s'}, stores ((pair, now) :: later) s s' →
      (s.lookup pair now).1 = (s'.lookup pair now).1 ∧
        stores later (s.lookup pair now).2 (s'.lookup pair now).2) : Likeness :=
  ⟨stores, Eq, Features.build_of_lookups hLookup⟩

/-- Of any stores, features are the same up to those of the stop pairs. -/
def base : Likeness :=
  ⟨fun _ _ _ => True, Features.SameBase,
    fun calendar d run _ s s' _ => Features.sameBase_build calendar d run s s'⟩

end Likeness

-- ---------------------------------------------------------------------------
-- Predictions
-- ---------------------------------------------------------------------------

/-- Two inferences for the same model that differ in features only. -/
structure Inference.Like (L : Likeness) (i i' : Inference) : Prop where
  key : i.key = i'.key
  features : L.features i.features i'.features

/-- Inferences are the same when their features are. -/
theorem Inference.Like.eq_of_features {L : Likeness} {i i' : Inference} (h : i.Like L i')
    (hFeatures : ∀ x y, L.features x y → x = y) : i = i' := by
  obtain ⟨_, x⟩ := i
  obtain ⟨_, y⟩ := i'
  obtain ⟨hKey, hSame⟩ := h
  dsimp only at hKey
  rw [hKey, hFeatures x y hSame]

theorem eq_of_forall₂ {α : Type} {R : α → α → Prop} {xs ys : List α} (h : List.Forall₂ R xs ys)
    (hSame : ∀ x y, R x y → x = y) : xs = ys := by
  rw [← List.forall₂_eq_eq_eq]
  exact h.imp hSame

/-- A segment is predicted the same, and asks for inferences that are alike. -/
theorem Segment.like_predict {L : Likeness} {d : Deviation} {later : List Lookup}
    {s s' : ObservedTransitions} (calendar : ServiceCalendar) (segment : Segment)
    (h : L.stores (segment.lookups d ++ later) s s') :
    HaltsAlike (fun x y => x.1 = y.1 ∧ Option.Rel (Inference.Like L) x.2.1 y.2.1 ∧
        L.stores later x.2.2 y.2.2)
      (segment.predict calendar s d) (segment.predict calendar s' d) := by
  unfold lookups at h
  cases hNeeds : segment.needsInference d with
  | false =>
    rw [hNeeds] at h
    rw [predict_of_not_needed hNeeds, predict_of_not_needed hNeeds]
    exact .ok ⟨rfl, .none, h⟩
  | true =>
    rw [hNeeds] at h
    obtain ⟨model, hModel⟩ := model_of_needed hNeeds
    rw [predict_of_needed hNeeds hModel, predict_of_needed hNeeds hModel]
    exact (L.build calendar d segment.stops h).map fun ⟨hFeatures, hStores⟩ =>
      ⟨rfl, .some ⟨rfl, hFeatures⟩, hStores⟩

namespace TripPredictor

/-- Two predictions of a trip so far that differ in features only, with stores that are alike as far
as the look-ups to come go. -/
structure Progress.Like (L : Likeness) (later : List Lookup) (g g' : Progress) : Prop where
  prediction : g.prediction = g'.prediction
  inferences : List.Forall₂ (Inference.Like L) g.inferences g'.inferences
  stores : L.stores later g.store g'.store

variable {L : Likeness} {d : Deviation} {later : List Lookup}

theorem like_addSegment (calendar : ServiceCalendar) {segment : Segment} {g g' : Progress}
    (h : g.Like L (segment.lookups d ++ later) g') :
    HaltsAlike (Progress.Like L later) (addSegment calendar d g segment)
      (addSegment calendar d g' segment) := by
  have hMade := Segment.like_predict calendar segment h.stores
  unfold addSegment
  generalize segment.predict calendar g.store d = made at hMade ⊢
  generalize segment.predict calendar g'.store d = made' at hMade ⊢
  cases hMade with
  | error halt => exact .error halt
  | @ok x y hSame =>
    obtain ⟨predictions, inference, store⟩ := x
    obtain ⟨predictions', inference', store'⟩ := y
    obtain ⟨hPredictions, hAsks, hStores⟩ := hSame
    dsimp only at hPredictions hAsks hStores
    subst hPredictions
    cases hAsks with
    | none => exact .ok ⟨by dsimp only; rw [h.prediction], h.inferences, hStores⟩
    | some hLike =>
      dsimp only
      rw [h.prediction, hLike.key]
      refine .ok ⟨rfl, ?_, hStores⟩
      dsimp only
      split
      · exact List.rel_append h.inferences (.cons hLike .nil)
      · exact h.inferences

/-- Segments are added alike. -/
theorem like_foldlM (calendar : ServiceCalendar) (segments : List Segment) :
    ∀ {g g' : Progress}, g.Like L (segments.flatMap (Segment.lookups d) ++ later) g' →
      HaltsAlike (Progress.Like L later) (segments.foldlM (addSegment calendar d) g)
        (segments.foldlM (addSegment calendar d) g') := by
  induction segments with
  | nil => exact fun h => .ok h
  | cons segment rest ih =>
    intro g g' h
    rw [List.flatMap_cons, List.append_assoc] at h
    rw [List.foldlM_cons, List.foldlM_cons]
    exact (like_addSegment calendar h).bind ih

theorem Progress.Like.endAt {g g' : Progress} (h : g.Like L later g') (mark : Option Segment) :
    (g.endAt mark).Like L later (g'.endAt mark) := by
  cases mark with
  | none => exact h
  | some s =>
    exact ⟨congrArg (TripPrediction.push · (.ending s.firstIndex)) h.prediction, h.inferences,
      h.stores⟩

/-- A trip is predicted alike. -/
theorem like_predict {p : TripPredictor} {s s' : ObservedTransitions}
    (calendar : ServiceCalendar) (h : L.stores (p.lookups d ++ later) s s') :
    HaltsAlike (Progress.Like L later) (p.predict calendar s d) (p.predict calendar s' d) := by
  cases hCutoff : p.cutoff? d with
  | none =>
    unfold predict
    rw [hCutoff]
    exact .error .overflow
  | some cutoff =>
    unfold lookups at h
    rw [hCutoff] at h
    have hStart : Progress.Like L
        ((inTime d cutoff p.segments).flatMap (Segment.lookups d) ++ later)
        ⟨.start d p.trip, [], s⟩ ⟨.start d p.trip, [], s'⟩ := ⟨rfl, .nil, h⟩
    rw [predict_eq_foldlM s hCutoff, predict_eq_foldlM s' hCutoff]
    exact (like_foldlM calendar _ hStart).map fun hLike => hLike.endAt _

end TripPredictor

end TransitForecast
