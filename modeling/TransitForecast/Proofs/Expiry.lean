import TransitForecast.Engine.Run
import TransitForecast.Proofs.Likeness

/-!
# TransitForecast — what has expired is gone

A parked batch past its time counts as unknown, and an observed transition that is too old is found
by no look-up, whether a sweep has removed them or not. So two stores may differ in what they hold
and still be alike: they show the same at all times that matter. Whatever is done to both keeps them
alike, and a trip is predicted alike from both.

A sweep keeps a store of batches alike for all times after it. For observed transitions it takes
more: nothing may get younger. Away from leap seconds nothing does.

## Results

* `since_le_since` — away from leap seconds ages grow with time.
* `ObservedTransitions.Alike.sweep`, `BatchStore.Alike.sweep` — a sweep leaves a store alike.
* `BatchStore.Alike.apply` — an answer has the same outcome in both.
* `alike_predict` — a trip is predicted alike from both.
-/

namespace TransitForecast

-- ---------------------------------------------------------------------------
-- Time
-- ---------------------------------------------------------------------------

namespace Instant

theorem le_of_le_of_le {a b c : Instant} (hab : a ≤ b) (hbc : b ≤ c) : a ≤ c := by
  show ¬ precedes c a
  have h₁ : ¬ precedes b a := hab
  have h₂ : ¬ precedes c b := hbc
  unfold precedes at h₁ h₂ ⊢
  omega

/-- Away from leap seconds the positions are in the order of the instants. -/
theorem position_le {a b : Instant} (ha : a.isLeap = false) (hb : b.isLeap = false) (h : a ≤ b) :
    a.position ≤ b.position := by
  have hOrder : ¬ precedes b a := h
  simp only [isLeap, decide_eq_false_iff_not] at ha hb
  unfold precedes at hOrder
  unfold position nanosPerSecond
  omega

/-- Away from leap seconds ages grow with time. -/
theorem since_le_since {a b t : Instant} (ha : a.isLeap = false) (hb : b.isLeap = false)
    (ht : t.isLeap = false) (h : a ≤ b) : a.since t ≤ b.since t := by
  show (a.since t).nanos ≤ (b.since t).nanos
  rw [since_ordinary ha ht, since_ordinary hb ht]
  have := position_le ha hb h
  omega

end Instant

-- ---------------------------------------------------------------------------
-- Stores of observed transitions
-- ---------------------------------------------------------------------------

namespace ObservedTransitions

section Lookup

variable (s : ObservedTransitions) (pair : StopPair) (now : Instant)

/-- A look-up finds the observation of the pair if it still counts. -/
theorem lookup_fst : (s.lookup pair now).1 = (s.entries.find? pair).filter (s.isFresh now) := by
  unfold lookup
  cases s.entries.find? pair with
  | none => rfl
  | some t =>
    dsimp only
    cases hFresh : s.isFresh now t with
    | true => rw [if_pos rfl, Option.filter_some, if_pos hFresh]
    | false => rw [if_neg Bool.false_ne_true, Option.filter_some, if_neg (by simp [hFresh])]

theorem maxAge_lookup : (s.lookup pair now).2.maxAge = s.maxAge := by
  unfold lookup
  cases s.entries.find? pair with
  | none => rfl
  | some t =>
    dsimp only
    split <;> rfl

/-- A look-up that finds nothing leaves nothing. -/
theorem find?_lookup (p : StopPair) : (s.lookup pair now).2.entries.find? p =
    if p = pair ∧ (s.lookup pair now).1 = none then none else s.entries.find? p := by
  unfold lookup
  cases hFound : s.entries.find? pair with
  | none =>
    dsimp only
    split
    · rename_i hSame
      rw [hSame.1, hFound]
    · rfl
  | some t =>
    by_cases hFresh : s.isFresh now t = true
    · simp [hFresh]
    · simp [hFresh]

end Lookup

/-- Whether a store holds nothing but some observations. -/
def HoldsOnly (seen : List Transition) (s : ObservedTransitions) : Prop :=
  ∀ pair t, s.entries.find? pair = some t → t ∈ seen

/-- Two stores that show the same at some times, whatever else they hold of what was seen. -/
structure Alike (seen : List Transition) (times : List Instant) (s s' : ObservedTransitions) :
    Prop where
  maxAge : s'.maxAge = s.maxAge
  shows : ∀ pair, ∀ now ∈ times, (s'.lookup pair now).1 = (s.lookup pair now).1
  left : s.HoldsOnly seen
  right : s'.HoldsOnly seen

section Alike

variable {s s' : ObservedTransitions} {seen : List Transition} {times : List Instant}
  {now : Instant}

theorem HoldsOnly.lookup (h : s.HoldsOnly seen) (pair : StopPair) (now : Instant) :
    (s.lookup pair now).2.HoldsOnly seen := by
  intro p t hFound
  rw [find?_lookup] at hFound
  split at hFound
  · cases hFound
  · exact h p t hFound

theorem HoldsOnly.record (h : s.HoldsOnly seen) {t : Transition} (ht : t ∈ seen) :
    (s.record t).HoldsOnly seen := by
  intro p t' hFound
  rw [ObservedTransitions.record, Table.find?_insert] at hFound
  split at hFound
  · cases hFound
    exact ht
  · exact h p t' hFound

theorem Alike.refl (h : s.HoldsOnly seen) (times : List Instant) : s.Alike seen times s :=
  ⟨rfl, fun _ _ _ => rfl, h, h⟩

theorem Alike.symm (h : s.Alike seen times s') : s'.Alike seen times s :=
  ⟨h.maxAge.symm, fun pair now hNow => (h.shows pair now hNow).symm, h.right, h.left⟩

theorem Alike.mono (h : s.Alike seen times s') {more : List Transition} {fewer : List Instant}
    (hSeen : seen ⊆ more) (hTimes : fewer ⊆ times) : s.Alike more fewer s' :=
  ⟨h.maxAge, fun pair now hNow => h.shows pair now (hTimes hNow),
    fun pair t hFound => hSeen (h.left pair t hFound),
    fun pair t hFound => hSeen (h.right pair t hFound)⟩

/-- What is shown depends on the entry of the pair. -/
theorem Alike.of_find? (h : s.Alike seen times s') {u u' : ObservedTransitions}
    (hAge : u.maxAge = s.maxAge) (hAge' : u'.maxAge = s'.maxAge) (hLeft : u.HoldsOnly seen)
    (hRight : u'.HoldsOnly seen)
    (hEntries : ∀ p, u'.entries.find? p = u.entries.find? p ∨
      u.entries.find? p = s.entries.find? p ∧ u'.entries.find? p = s'.entries.find? p) :
    u.Alike seen times u' := by
  refine ⟨hAge'.trans (h.maxAge.trans hAge.symm), fun p now hNow => ?_, hLeft, hRight⟩
  have hFresh : u.isFresh now = s.isFresh now := by
    funext t
    rw [isFresh, isFresh, hAge]
  have hFresh' : u'.isFresh now = s.isFresh now := by
    funext t
    rw [isFresh, isFresh, hAge', h.maxAge]
  have hShows := h.shows p now hNow
  rw [lookup_fst, lookup_fst, hFresh, hFresh']
  rcases hEntries p with hSame | ⟨hOld, hOld'⟩
  · rw [hSame]
  · have hFresh'' : s'.isFresh now = s.isFresh now := by
      funext t
      rw [isFresh, isFresh, h.maxAge]
    rw [lookup_fst, lookup_fst, hFresh''] at hShows
    rw [hOld, hOld', hShows]

/-- What one store forgets because it is too old, the other does not show either. -/
theorem Alike.lookup (h : s.Alike seen times s') (pair : StopPair) (hNow : now ∈ times) :
    (s.lookup pair now).2.Alike seen times (s'.lookup pair now).2 := by
  refine h.of_find? (maxAge_lookup ..) (maxAge_lookup ..) (h.left.lookup pair now)
    (h.right.lookup pair now) fun p => ?_
  rw [find?_lookup, find?_lookup, h.shows pair now hNow]
  split
  · exact .inl rfl
  · exact .inr ⟨rfl, rfl⟩

theorem Alike.record (h : s.Alike seen times s') {t : Transition} (ht : t ∈ seen) :
    (s.record t).Alike seen times (s'.record t) := by
  refine h.of_find? rfl rfl (h.left.record ht) (h.right.record ht) fun p => ?_
  rw [ObservedTransitions.record, ObservedTransitions.record, Table.find?_insert,
    Table.find?_insert]
  split
  · exact .inl rfl
  · exact .inr ⟨rfl, rfl⟩

theorem Alike.recordAll (ts : List Transition) : ∀ {s s' : ObservedTransitions},
    s.Alike seen times s' → ts ⊆ seen → (s.recordAll ts).Alike seen times (s'.recordAll ts) := by
  induction ts with
  | nil => exact fun h _ => h
  | cons t rest ih =>
    intro s s' h hSeen
    rw [List.cons_subset] at hSeen
    exact ih (h.record hSeen.1) hSeen.2

/-- A sweep takes away nothing that could still be found, unless something gets younger. -/
theorem Alike.sweep (h : s.Alike seen times s') {swept : Instant}
    (hAges : ∀ t ∈ seen, ∀ now ∈ times, swept.since t.observedAt ≤ now.since t.observedAt) :
    (s.sweep swept).Alike seen times s' := by
  have hFilter : ∀ p, (s.sweep swept).entries.find? p =
      (s.entries.find? p).filter (s.isFresh swept) := fun p => Table.find?_filter _ _ _
  refine ⟨h.maxAge, fun pair now hNow => ?_, fun p t hFound => ?_, h.right⟩
  · rw [h.shows pair now hNow, lookup_fst, lookup_fst, hFilter, Option.filter_filter]
    -- what is fresh now was fresh at the sweep
    cases hFound : s.entries.find? pair with
    | none => rfl
    | some t =>
      have hAge := hAges t (h.left pair t hFound) now hNow
      have hBoth : s.isFresh now t = true → s.isFresh swept t = true := by
        intro hFresh
        have hNowFresh : (now.since t.observedAt).nanos ≤ s.maxAge.nanos := of_decide_eq_true hFresh
        exact decide_eq_true (Int.le_trans hAge hNowFresh)
      have hSame : (s.sweep swept).isFresh now t = s.isFresh now t := rfl
      rw [Option.filter_some, Option.filter_some, hSame]
      cases hFresh : s.isFresh now t with
      | true => simp [hBoth hFresh]
      | false => simp
  · rw [hFilter, Option.filter_eq_some_iff] at hFound
    exact h.left p t hFound.1

end Alike

end ObservedTransitions

-- ---------------------------------------------------------------------------
-- Stores of batches
-- ---------------------------------------------------------------------------

namespace BatchStore

/-- Two stores of the same batches, of which the same are found at some times. -/
structure Alike (times : List Instant) (s s' : BatchStore) : Prop where
  lifetime : s'.lifetime = s.lifetime
  batches : s'.batches = s.batches
  finds : ∀ id, ∀ now ∈ times, s'.find id now = s.find id now

theorem find_insert (s : BatchStore) (id : BatchId) (p : Parked) (id' : BatchId) (now : Instant) :
    { s with parked := s.parked.insert id p : BatchStore }.find id' now =
      if id' = id then
        if now ≤ p.expiresAt then .ok p.batch else .error (.unknownBatch id'.text)
      else s.find id' now := by
  unfold find
  rw [Table.find?_insert]
  by_cases hSame : id' = id
  · rw [if_pos hSame, if_pos hSame]
  · rw [if_neg hSame, if_neg hSame]

theorem find_unpark (s : BatchStore) (id id' : BatchId) (now : Instant) :
    (s.unpark id).2.find id' now =
      if id' = id then .error (.unknownBatch id'.text) else s.find id' now := by
  unfold unpark find
  rw [Table.find?_erase]
  by_cases hSame : id' = id
  · rw [if_pos hSame, if_pos hSame]
  · rw [if_neg hSame, if_neg hSame]

/-- A sweep takes out nothing that could still be found. -/
theorem find_sweep (s : BatchStore) {swept now : Instant} (h : swept ≤ now) (id : BatchId) :
    (s.sweep swept).find id now = s.find id now := by
  unfold find
  rw [show (s.sweep swept).parked.find? id = _ from Table.find?_filter _ _ _]
  cases s.parked.find? id with
  | none => rfl
  | some p =>
    by_cases hKept : swept ≤ p.expiresAt
    · simp [Option.filter, hKept]
    · -- what has expired at the sweep has expired now
      have hExpired : ¬ now ≤ p.expiresAt := fun hLive => hKept (Instant.le_of_le_of_le h hLive)
      simp [Option.filter, hKept, hExpired]

section Alike

variable {s s' : BatchStore} {times : List Instant}

theorem Alike.refl (times : List Instant) (s : BatchStore) : s.Alike times s :=
  ⟨rfl, rfl, fun _ _ _ => rfl⟩

theorem Alike.symm (h : s.Alike times s') : s'.Alike times s :=
  ⟨h.lifetime.symm, h.batches.symm, fun id now hNow => (h.finds id now hNow).symm⟩

theorem Alike.mono (h : s.Alike times s') {fewer : List Instant} (hTimes : fewer ⊆ times) :
    s.Alike fewer s' :=
  ⟨h.lifetime, h.batches, fun id now hNow => h.finds id now (hTimes hNow)⟩

theorem Alike.get? (h : s.Alike times s') (ref : BatchRef) : s'.get? ref = s.get? ref := by
  rw [BatchStore.get?, BatchStore.get?, h.batches]

theorem Alike.add (h : s.Alike times s') (b : Batch) :
    (s'.add b).1 = (s.add b).1 ∧ (s.add b).2.Alike times (s'.add b).2 := by
  refine ⟨by simp only [BatchStore.add, h.batches], h.lifetime, ?_, h.finds⟩
  simp only [BatchStore.add, h.batches]

theorem Alike.set (h : s.Alike times s') (ref : BatchRef) (b : Batch) :
    (s.set ref b).Alike times (s'.set ref b) :=
  ⟨h.lifetime, by simp only [BatchStore.set, h.batches], h.finds⟩

theorem Alike.unpark (h : s.Alike times s') (id : BatchId) :
    (s.unpark id).2.Alike times (s'.unpark id).2 := by
  refine ⟨h.lifetime, h.batches, fun id' now hNow => ?_⟩
  rw [find_unpark, find_unpark, h.finds id' now hNow]

theorem Alike.park (h : s.Alike times s') (ref : BatchRef) (b : Batch) (now : Instant) :
    (∃ halt, s.park ref b now = .error halt ∧ s'.park ref b now = .error halt) ∨
      ∃ expiresAt u u', s.park ref b now = .ok (expiresAt, u) ∧
        s'.park ref b now = .ok (expiresAt, u') ∧ u.Alike times u' := by
  have hLifetime : now.shift? s'.lifetime = now.shift? s.lifetime := by rw [h.lifetime]
  unfold BatchStore.park
  rw [hLifetime]
  cases now.shift? s.lifetime with
  | none => exact .inl ⟨_, rfl, rfl⟩
  | some expiresAt =>
    refine .inr ⟨_, _, _, rfl, rfl, h.lifetime, h.batches, fun id' now hNow => ?_⟩
    rw [find_insert, find_insert, h.finds id' now hNow]

theorem Alike.claim (h : s.Alike times s') (ref : BatchRef) :
    (s'.claim ref).1 = (s.claim ref).1 ∧ (s.claim ref).2.Alike times (s'.claim ref).2 := by
  unfold BatchStore.claim
  rw [h.get? ref]
  cases s.get? ref with
  | none => exact ⟨rfl, h⟩
  | some b => exact ⟨rfl, h.set ref b.claim.2⟩

theorem Alike.finish (h : s.Alike times s') (ref : BatchRef) (id : BatchId) :
    (s'.finish ref id).1 = (s.finish ref id).1 ∧
      (s.finish ref id).2.Alike times (s'.finish ref id).2 := by
  have hRemaining : s'.remaining ref = s.remaining ref := by
    rw [remaining, remaining, h.get? ref]
  obtain ⟨hWon, hClaimed⟩ := h.claim ref
  unfold BatchStore.finish
  rw [hRemaining]
  dsimp only
  split
  · rcases hLeft : s.claim ref with ⟨won, claimed⟩
    rcases hRight : s'.claim ref with ⟨won', claimed'⟩
    rw [hLeft, hRight] at hWon hClaimed
    dsimp only at hWon hClaimed
    subst hWon
    cases won' with
    | true => exact ⟨rfl, hClaimed.unpark id⟩
    | false => exact ⟨rfl, hClaimed⟩
  · exact ⟨rfl, h⟩

/-- An answer has the same outcome. -/
theorem Alike.apply (h : s.Alike times s') (r : InferenceResponse) {now : Instant}
    (hNow : now ∈ times) :
    (s'.apply r now).1 = (s.apply r now).1 ∧ (s.apply r now).2.Alike times (s'.apply r now).2 := by
  unfold BatchStore.apply
  cases reading r with
  | error e => exact ⟨rfl, h⟩
  | ok said =>
    obtain ⟨c, seconds⟩ := said
    dsimp only
    rw [h.finds c.batch now hNow]
    cases s.find c.batch now with
    | error e => exact ⟨rfl, h⟩
    | ok ref =>
      dsimp only
      unfold BatchStore.answer
      rw [h.get? ref]
      cases s.get? ref with
      | none => exact ⟨rfl, h⟩
      | some b =>
        dsimp only
        cases b.answer c seconds with
        | error e => exact ⟨rfl, h⟩
        | ok answered =>
          obtain ⟨hOutcome, hFinished⟩ := (h.set ref answered).finish ref c.batch
          exact ⟨by dsimp only; rw [hOutcome], hFinished⟩

theorem Alike.sweep (h : s.Alike times s') {swept : Instant} (hTimes : ∀ now ∈ times, swept ≤ now) :
    (s.sweep swept).Alike times s' :=
  ⟨h.lifetime, h.batches, fun id now hNow => by
    rw [h.finds id now hNow, s.find_sweep (hTimes now hNow)]⟩

end Alike

end BatchStore

-- ---------------------------------------------------------------------------
-- Predictions
-- ---------------------------------------------------------------------------

/-- Stores that show the same have it in common that they do, as long as look-ups are in time. -/
def Likeness.alike (seen : List Transition) (times : List Instant) : Likeness :=
  ofLookups (fun later s s' => (∀ x ∈ later, x.2 ∈ times) ∧ s.Alike seen times s') <| by
    rintro pair now later s s' ⟨hTimes, hAlike⟩
    obtain ⟨hNow, hLater⟩ := List.forall_mem_cons.1 hTimes
    exact ⟨(hAlike.shows pair now hNow).symm, hLater, hAlike.lookup pair hNow⟩

namespace TripPredictor

variable {seen : List Transition} {times : List Instant} {d : Deviation}
  {s s' : ObservedTransitions}

/-- Two predictions of a trip so far that are the same, with stores that are alike. -/
structure Progress.Alike (seen : List Transition) (times : List Instant) (g g' : Progress) :
    Prop where
  prediction : g'.prediction = g.prediction
  inferences : g'.inferences = g.inferences
  store : g.store.Alike seen times g'.store

/-- A trip is predicted alike. -/
theorem alike_predict (h : s.Alike seen times s') (hNow : d.observedAt ∈ times)
    (p : TripPredictor) (calendar : ServiceCalendar) :
    HaltsAlike (Progress.Alike seen times) (p.predict calendar s d)
      (p.predict calendar s' d) := by
  have hStores : (Likeness.alike seen times).stores (p.lookups d ++ []) s s' := by
    refine ⟨fun x hx => ?_, h⟩
    rw [List.append_nil] at hx
    rw [time_of_mem_lookups hx]
    exact hNow
  refine (like_predict calendar hStores).imp fun {g g'} hLike =>
    ⟨hLike.prediction.symm, ?_, hLike.stores.2⟩
  have hInferences : g.inferences = g'.inferences :=
    eq_of_forall₂ hLike.inferences fun _ _ hi => hi.eq_of_features fun _ _ hSame => hSame
  exact hInferences.symm

end TripPredictor

end TransitForecast
