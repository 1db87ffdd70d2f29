import TransitForecast.Proofs.Stores

/-!
# TransitForecast — calls that race for a predictor

Any number of calls may ask for predictors at the same time. Each goes through the four atomic steps
of `PredictorCache.getOrBuild`. Between two steps of a call any other call may take its turn, the
cache may be swept, and the models and the timetable may be replaced. So several calls may miss one
trip, and build predictors for it that differ.

They agree nevertheless, since a call that comes second to keep its predictor is handed the one that
is kept. What is kept under a key changes in two ways only: a call puts a predictor where there is
none, and a sweep takes one away. From the access to the cache that decides one call to the access
that decides another, the entry is the same unless a sweep has removed it in between.

## Results

* `alone_eq_getOrBuild` — a call that is not interrupted does what `PredictorCache.getOrBuild` does.
* `moves_step` — what a step of a call can do.
* `change_cache` — what a turn can do to the cache.
* `find?_moment` — an entry stays until a sweep removes it.
* `Decides.agree` — calls that no sweep separates get the same predictor.
* `concurrent_misses_agree` — however the calls take turns, they agree.
-/

namespace TransitForecast

-- ---------------------------------------------------------------------------
-- Calls
-- ---------------------------------------------------------------------------

/-- Where a call for the predictor of an observation's trip stands. -/
inductive Inquiry
  /-- Nothing was done yet. -/
  | asked (d : Deviation)
  /-- The trip was not in the cache, and its schedule is fetched next. -/
  | missed (d : Deviation)
  /-- The schedule was fetched, and the predictor is built next with the models of that time. -/
  | fetched (d : Deviation) (trip : Trip)
  /-- A predictor was built, and is kept next unless there is one by then. -/
  | built (d : Deviation) (p : TripPredictor)
  | returned (d : Deviation) (result : Except PredictionError TripPredictor)

namespace Inquiry

/-- The observation that a call is about. -/
def deviation : Inquiry → Deviation
  | asked d | missed d | fetched d _ | built d _ | returned d _ => d

/-- Whether a call has returned. -/
def hasReturned : Inquiry → Bool
  | returned .. => true
  | _ => false

/-- The next atomic step of a call. While the source does not answer, the call waits. -/
def step (rules : PredictorRules) (timetable : Timetable) (models : ModelRegistry)
    (cache : PredictorCache) : Inquiry → Inquiry × PredictorCache
  | asked d =>
    match cache.find? d.tripKey with
    | some kept => (returned d (.ok kept), cache)
    | none => (missed d, cache)
  | missed d =>
    match timetable.fetch d.tripKey with
    | .error _ => (missed d, cache)
    | .ok (.error e) => (returned d (.error e), cache)
    | .ok (.ok trip) => (fetched d trip, cache)
  | fetched d trip => (built d (.build rules.trust models rules.horizon trip), cache)
  | built d p =>
    let (predictor, after) := cache.settle d.tripKey p
    (returned d (.ok predictor), after)
  | returned d result => (returned d result, cache)

end Inquiry

/-- Calls at work on a cache, and what they read besides. -/
structure Workshop where
  cache : PredictorCache
  timetable : Timetable
  models : ModelRegistry
  calls : List Inquiry

namespace Workshop

/-- What can happen next among calls at work. -/
inductive Turn
  /-- A call arrives. -/
  | ask (d : Deviation)
  /-- The call of some position takes its next step. -/
  | advance (i : Nat)
  | sweep (now : Instant) (lifetime : Span)
  | replaceModels (models : ModelRegistry)
  | replaceTimetable (timetable : Timetable)

/-- What a turn leaves. -/
def next (rules : PredictorRules) (w : Workshop) : Turn → Workshop
  | .ask d => { w with calls := w.calls ++ [.asked d] }
  | .advance i =>
    match w.calls[i]? with
    | none => w
    | some call =>
      let (call', cache) := call.step rules w.timetable w.models w.cache
      { w with cache, calls := w.calls.set i call' }
  | .sweep now lifetime => { w with cache := w.cache.sweep now lifetime }
  | .replaceModels models => { w with models }
  | .replaceTimetable timetable => { w with timetable }

end Workshop

/-- Turns in some order, from a cache on which no call is at work. -/
structure Race where
  rules : PredictorRules
  cache : PredictorCache
  timetable : Timetable
  models : ModelRegistry
  turns : List Workshop.Turn

namespace Race

/-- What there is before turn `k`. -/
def moment (r : Race) (k : Nat) : Workshop :=
  (r.turns.take k).foldl (Workshop.next r.rules) ⟨r.cache, r.timetable, r.models, []⟩

/-- Turn `k` is the access to the cache that decides which predictor a call gets. -/
structure Decides (r : Race) (k i : Nat) (d : Deviation) (p : TripPredictor) : Prop where
  turn : r.turns[k]? = some (.advance i)
  before : ∃ call, (r.moment k).calls[i]? = some call ∧ call.hasReturned = false
  after : (r.moment (k + 1)).calls[i]? = some (.returned d (.ok p))

/-- Turn `k` is a sweep that removes a key. -/
structure Removes (r : Race) (k : Nat) (key : TripKey) : Prop where
  turn : ∃ now lifetime, r.turns[k]? = some (.sweep now lifetime)
  before : (r.moment k).cache.contains key = true
  after : (r.moment (k + 1)).cache.contains key = false

end Race

-- ---------------------------------------------------------------------------
-- Steps
-- ---------------------------------------------------------------------------

namespace Inquiry

/-- What a step of a call can do. -/
inductive Moves (rules : PredictorRules) (timetable : Timetable) (models : ModelRegistry)
    (cache : PredictorCache) : Inquiry → Inquiry × PredictorCache → Prop
  | hit {d : Deviation} {p : TripPredictor} : cache.find? d.tripKey = some p →
    Moves rules timetable models cache (asked d) (returned d (.ok p), cache)
  | miss {d : Deviation} : cache.find? d.tripKey = none →
    Moves rules timetable models cache (asked d) (missed d, cache)
  | waited {d : Deviation} {halt : Halt} : timetable.fetch d.tripKey = .error halt →
    Moves rules timetable models cache (missed d) (missed d, cache)
  | failed {d : Deviation} {e : PredictionError} : timetable.fetch d.tripKey = .ok (.error e) →
    Moves rules timetable models cache (missed d) (returned d (.error e), cache)
  | fetched {d : Deviation} {trip : Trip} : timetable.fetch d.tripKey = .ok (.ok trip) →
    Moves rules timetable models cache (missed d) (.fetched d trip, cache)
  | built {d : Deviation} {trip : Trip} : Moves rules timetable models cache (.fetched d trip)
      (.built d (.build rules.trust models rules.horizon trip), cache)
  | kept {d : Deviation} {p : TripPredictor} : cache.find? d.tripKey = none →
    Moves rules timetable models cache (.built d p)
      (returned d (.ok p), cache.insert d.tripKey p)
  | beaten {d : Deviation} {p q : TripPredictor} : cache.find? d.tripKey = some q →
    Moves rules timetable models cache (.built d p) (returned d (.ok q), cache)
  | rested {d : Deviation} {result : Except PredictionError TripPredictor} :
    Moves rules timetable models cache (returned d result) (returned d result, cache)

section Steps

variable {rules : PredictorRules} {timetable : Timetable} {models : ModelRegistry}
  {cache cache' : PredictorCache} {call call' : Inquiry}

theorem moves_step (rules : PredictorRules) (timetable : Timetable) (models : ModelRegistry)
    (cache : PredictorCache) (call : Inquiry) :
    Moves rules timetable models cache call (call.step rules timetable models cache) := by
  cases call with
  | asked d =>
    rw [step]
    split
    · exact .hit ‹_›
    · exact .miss ‹_›
  | missed d =>
    rw [step]
    split
    · exact .waited ‹_›
    · exact .failed ‹_›
    · exact .fetched ‹_›
  | fetched d trip => exact .built
  | built d p =>
    rw [step]
    cases hFound : cache.find? d.tripKey with
    | none =>
      rw [PredictorCache.settle_of_missing hFound]
      exact .kept hFound
    | some q =>
      rw [PredictorCache.settle_of_kept hFound]
      exact .beaten hFound
  | returned d result => exact .rested

/-- A call keeps its observation, and has nothing more to do once it has returned. -/
structure Leads (call call' : Inquiry) : Prop where
  deviation : call'.deviation = call.deviation
  returned : call.hasReturned = true → call' = call

theorem Leads.refl (call : Inquiry) : Leads call call := ⟨rfl, fun _ => rfl⟩

theorem Leads.trans {a b c : Inquiry} (h : Leads a b) (h' : Leads b c) : Leads a c where
  deviation := h'.deviation.trans h.deviation
  returned hReturned := by
    have hSame := h.returned hReturned
    rw [h'.returned (hSame ▸ hReturned), hSame]

theorem Moves.leads (h : Moves rules timetable models cache call (call', cache')) :
    Leads call call' := by
  cases h with
  | rested => exact .refl _
  | _ => exact ⟨rfl, nofun⟩

/-- A call that gets a predictor gets the one that is kept from then on. -/
theorem Moves.find?_of_returned {d : Deviation} {p : TripPredictor}
    (h : Moves rules timetable models cache call (returned d (.ok p), cache'))
    (hBefore : call.hasReturned = false) : cache'.find? d.tripKey = some p := by
  cases h with
  | hit hFound => exact hFound
  | kept _ => exact Table.find?_insert_self ..
  | beaten hFound => exact hFound
  | rested => cases hBefore

/-- A step leaves the cache alone, or keeps a predictor where there was none and returns it. -/
theorem Moves.cache_eq (h : Moves rules timetable models cache call (call', cache')) :
    cache' = cache ∨ ∃ p, cache.find? call.deviation.tripKey = none ∧
      cache' = cache.insert call.deviation.tripKey p ∧
      call' = Inquiry.returned call.deviation (.ok p) := by
  cases h with
  | kept hNone => exact .inr ⟨_, hNone, rfl, rfl⟩
  | _ => exact .inl rfl

end Steps

end Inquiry

-- ---------------------------------------------------------------------------
-- Turns
-- ---------------------------------------------------------------------------

namespace Workshop

variable {rules : PredictorRules} {w : Workshop}

/-- What a turn can do to the cache. -/
inductive Change (w : Workshop) : Turn → Workshop → Prop
  | unchanged {turn : Turn} {w' : Workshop} : w'.cache = w.cache → Change w turn w'
  /-- A call keeps a predictor where there was none, and returns it. -/
  | kept {i : Nat} {call : Inquiry} {p : TripPredictor} {w' : Workshop} :
    w.calls[i]? = some call →
    w.cache.find? call.deviation.tripKey = none →
    w'.cache = w.cache.insert call.deviation.tripKey p →
    w'.calls[i]? = some (.returned call.deviation (.ok p)) → Change w (.advance i) w'
  | swept {now : Instant} {lifetime : Span} {w' : Workshop} :
    w'.cache = w.cache.sweep now lifetime → Change w (.sweep now lifetime) w'

theorem next_advance (rules : PredictorRules) {i : Nat} {call : Inquiry}
    (h : w.calls[i]? = some call) :
    ∃ call' cache, Inquiry.Moves rules w.timetable w.models w.cache call (call', cache) ∧
      w.next rules (.advance i) = { w with cache, calls := w.calls.set i call' } := by
  have hMoves := Inquiry.moves_step rules w.timetable w.models w.cache call
  cases hStep : call.step rules w.timetable w.models w.cache with
  | mk call' cache =>
    rw [hStep] at hMoves
    refine ⟨call', cache, hMoves, ?_⟩
    rw [next, h]
    simp only [hStep]

theorem next_advance_of_none {i : Nat} (h : w.calls[i]? = none) :
    w.next rules (.advance i) = w := by
  rw [next, h]

theorem getElem?_set_self {i : Nat} {call : Inquiry} (h : w.calls[i]? = some call)
    (call' : Inquiry) : (w.calls.set i call')[i]? = some call' :=
  List.getElem?_set_self (List.getElem?_eq_some_iff.1 h).1

theorem change_cache (rules : PredictorRules) (w : Workshop) (turn : Turn) :
    w.Change turn (w.next rules turn) := by
  cases turn with
  | advance i =>
    cases hCall : w.calls[i]? with
    | none =>
      rw [next_advance_of_none hCall]
      exact .unchanged rfl
    | some call =>
      obtain ⟨call', cache, hMoves, hNext⟩ := next_advance rules hCall
      rw [hNext]
      rcases hMoves.cache_eq with hSame | ⟨p, hNone, hInsert, rfl⟩
      · exact .unchanged hSame
      · exact .kept hCall hNone hInsert (getElem?_set_self hCall _)
  | sweep now lifetime => exact .swept rfl
  | _ => exact .unchanged rfl

/-- A turn does nothing to the call of a position, unless the call arrives or it is its turn. -/
theorem getElem?_next (rules : PredictorRules) (w : Workshop) (turn : Turn) (i : Nat) :
    (w.next rules turn).calls[i]? = w.calls[i]? ∨
    (∃ d, w.calls[i]? = none ∧ (w.next rules turn).calls[i]? = some (.asked d)) ∨
    turn = .advance i ∧ ∃ call call', w.calls[i]? = some call ∧
      (w.next rules turn).calls[i]? = some call' ∧ call.Leads call' := by
  cases turn with
  | ask d =>
    have hAdded : (w.next rules (.ask d)).calls = w.calls ++ [.asked d] := rfl
    rw [hAdded]
    rcases Nat.lt_trichotomy i w.calls.length with hOld | rfl | hBeyond
    · exact .inl (List.getElem?_append_left hOld)
    · exact .inr (.inl ⟨d, List.getElem?_eq_none (Nat.le_refl _), List.getElem?_concat_length⟩)
    · left
      rw [List.getElem?_eq_none (by rw [List.length_append]; exact hBeyond),
        List.getElem?_eq_none (Nat.le_of_lt hBeyond)]
  | advance j =>
    cases hCall : w.calls[j]? with
    | none => exact .inl (by rw [next_advance_of_none hCall])
    | some call =>
      obtain ⟨call', cache, hMoves, hNext⟩ := next_advance rules hCall
      rw [hNext]
      by_cases hij : j = i
      · subst hij
        exact .inr (.inr ⟨rfl, call, call', hCall, getElem?_set_self hCall _, hMoves.leads⟩)
      · exact .inl (List.getElem?_set_ne hij)
  | _ => exact .inl rfl

/-- A turn leads each call on, or leaves it alone. -/
theorem leads_next (rules : PredictorRules) {i : Nat} {call : Inquiry}
    (h : w.calls[i]? = some call) (turn : Turn) :
    ∃ call', (w.next rules turn).calls[i]? = some call' ∧ call.Leads call' := by
  rcases getElem?_next rules w turn i with
    hSame | ⟨_, hNone, _⟩ | ⟨_, _, call', hCall, hNext, hLeads⟩
  · exact ⟨call, hSame.trans h, .refl call⟩
  · rw [h] at hNone
    cases hNone
  · rw [h] at hCall
    cases hCall
    exact ⟨call', hNext, hLeads⟩

/-- A call that has just returned has taken the turn. -/
theorem advanced_of_returned {i : Nat} {turn : Turn} {d : Deviation}
    {result : Except PredictionError TripPredictor}
    (h : (w.next rules turn).calls[i]? = some (.returned d result))
    (hBefore : w.calls[i]? ≠ some (.returned d result)) :
    turn = .advance i ∧ ∃ call, w.calls[i]? = some call ∧ call.hasReturned = false := by
  rcases getElem?_next rules w turn i with
    hSame | ⟨_, _, hAsked⟩ | ⟨hTurn, call, call', hCall, hNext, hLeads⟩
  · exact absurd (hSame ▸ h) hBefore
  · rw [h] at hAsked
    cases hAsked
  · rw [h] at hNext
    cases hNext
    refine ⟨hTurn, call, hCall, ?_⟩
    by_contra hReturned
    rw [Bool.not_eq_false] at hReturned
    exact hBefore (by rw [hCall, ← hLeads.returned hReturned])

end Workshop

-- ---------------------------------------------------------------------------
-- Races
-- ---------------------------------------------------------------------------

namespace Race

variable {r : Race} {k k' m n i i' : Nat} {key : TripKey} {d d' : Deviation}
  {p p' : TripPredictor} {call : Inquiry}

theorem moment_succ {turn : Workshop.Turn} (h : r.turns[k]? = some turn) :
    r.moment (k + 1) = (r.moment k).next r.rules turn := by
  rw [moment, List.take_add_one, h, Option.toList_some, List.foldl_append]
  rfl

theorem moment_succ_of_none (h : r.turns[k]? = none) : r.moment (k + 1) = r.moment k := by
  rw [moment, List.take_add_one, h, Option.toList_none, List.append_nil]
  rfl

theorem change_moment {turn : Workshop.Turn} (h : r.turns[k]? = some turn) :
    (r.moment k).Change turn (r.moment (k + 1)) := by
  rw [moment_succ h]
  exact Workshop.change_cache r.rules (r.moment k) turn

/-- A call that is not interrupted does what `PredictorCache.getOrBuild` does. Where that halts, the
call waits for the source. -/
theorem alone_eq_getOrBuild (rules : PredictorRules) (cache : PredictorCache)
    (timetable : Timetable) (models : ModelRegistry) (d : Deviation) :
    (Race.mk rules cache timetable models
        [.ask d, .advance 0, .advance 0, .advance 0, .advance 0]).moment 5 =
      match cache.getOrBuild rules timetable models d with
      | .ok (result, after) => ⟨after, timetable, models, [.returned d result]⟩
      | .error _ => ⟨cache, timetable, models, [.missed d]⟩ := by
  have hOne : ∀ cache call, Workshop.next rules ⟨cache, timetable, models, [call]⟩ (.advance 0) =
      ⟨(call.step rules timetable models cache).2, timetable, models,
        [(call.step rules timetable models cache).1]⟩ := fun _ _ => rfl
  show [Workshop.Turn.advance 0, .advance 0, .advance 0, .advance 0].foldl (Workshop.next rules)
    ⟨cache, timetable, models, [.asked d]⟩ = _
  rw [PredictorCache.getOrBuild]
  cases hFound : cache.find? d.tripKey with
  | some kept => simp only [List.foldl_cons, List.foldl_nil, hOne, Inquiry.step, hFound]
  | none =>
    rcases hFetch : timetable.fetch d.tripKey with halt | error | trip <;>
      simp only [List.foldl_cons, List.foldl_nil, hOne, Inquiry.step, hFound, hFetch]

/-- From one moment to a later one each call is led on. -/
theorem leads_moment (h : m ≤ n) (hCall : (r.moment m).calls[i]? = some call) :
    ∃ call', (r.moment n).calls[i]? = some call' ∧ call.Leads call' := by
  induction h with
  | refl => exact ⟨call, hCall, .refl call⟩
  | @step n _ ih =>
    obtain ⟨between, hBetween, hLeads⟩ := ih
    cases hTurn : r.turns[n]? with
    | none => exact ⟨between, by rw [moment_succ_of_none hTurn, hBetween], hLeads⟩
    | some turn =>
      obtain ⟨call', hCall', hNext⟩ := Workshop.leads_next r.rules hBetween turn
      exact ⟨call', by rw [moment_succ hTurn, hCall'], hLeads.trans hNext⟩

/-- An entry stays as it is, or a sweep removes it. -/
theorem find?_succ (h : (r.moment k).cache.find? key = some p) :
    (r.moment (k + 1)).cache.find? key = some p ∨ r.Removes k key := by
  cases hTurn : r.turns[k]? with
  | none => exact .inl (by rw [moment_succ_of_none hTurn, h])
  | some turn =>
    cases change_moment hTurn with
    | unchanged hSame => exact .inl (by rw [hSame, h])
    | kept hCall hNone hInsert _ =>
      left
      rw [hInsert, Table.find?_insert, if_neg, h]
      rintro rfl
      rw [hNone] at h
      cases h
    | @swept now lifetime _ hSwept =>
      have hFilter : (r.moment (k + 1)).cache.find? key =
          (some p).filter (PredictorCache.isLive now lifetime) := by
        rw [hSwept, PredictorCache.find?_sweep, h]
      cases hLive : PredictorCache.isLive now lifetime p with
      | true => exact .inl (by rw [hFilter, Option.filter_some, if_pos hLive])
      | false =>
        rw [Option.filter_some, hLive] at hFilter
        exact .inr ⟨⟨now, lifetime, hTurn⟩, by rw [Table.contains, h]; rfl,
          by rw [Table.contains, hFilter]; rfl⟩

/-- An entry that no sweep removes stays as it is. -/
theorem find?_moment (h : m ≤ n) (hFound : (r.moment m).cache.find? key = some p)
    (hStays : ∀ k, m ≤ k → k < n → ¬ r.Removes k key) :
    (r.moment n).cache.find? key = some p := by
  induction h with
  | refl => exact hFound
  | @step n hm ih =>
    have hBefore := ih fun k hk hkn => hStays k hk (Nat.lt_succ_of_lt hkn)
    exact (find?_succ hBefore).resolve_right (hStays n hm (Nat.lt_succ_self n))

/-- A predictor that a call gets is kept when the call returns. -/
theorem Decides.find? (h : r.Decides k i d p) :
    (r.moment (k + 1)).cache.find? d.tripKey = some p := by
  obtain ⟨call, hCall, hOpen⟩ := h.before
  obtain ⟨call', cache, hMoves, hNext⟩ := Workshop.next_advance r.rules hCall
  have hAfter := h.after
  rw [moment_succ h.turn, hNext] at hAfter ⊢
  rw [Workshop.getElem?_set_self hCall] at hAfter
  cases hAfter
  exact hMoves.find?_of_returned hOpen

theorem Decides.not_lt (h : r.Decides k i d p) (h' : r.Decides k' i d' p') : ¬ k < k' := by
  intro hk
  obtain ⟨call, hCall, hOpen⟩ := h'.before
  obtain ⟨call', hCall', hLeads⟩ := leads_moment hk h.after
  rw [hCall] at hCall'
  cases hCall'
  rw [hLeads.returned rfl] at hOpen
  cases hOpen

/-- A call is decided once. -/
theorem Decides.turn_eq (h : r.Decides k i d p) (h' : r.Decides k' i d' p') : k' = k := by
  have := h.not_lt h'
  have := h'.not_lt h
  omega

/-- A call that has come by a predictor was decided at some turn. -/
theorem decided (h : (r.moment n).calls[i]? = some (.returned d (.ok p))) :
    ∃ k < n, r.Decides k i d p := by
  induction n with
  | zero => cases h
  | succ n ih =>
    by_cases hBefore : (r.moment n).calls[i]? = some (.returned d (.ok p))
    · obtain ⟨k, hk, hDecides⟩ := ih hBefore
      exact ⟨k, Nat.lt_succ_of_lt hk, hDecides⟩
    · cases hTurn : r.turns[n]? with
      | none =>
        rw [moment_succ_of_none hTurn] at h
        exact absurd h hBefore
      | some turn =>
        have hNext := h
        rw [moment_succ hTurn] at hNext
        obtain ⟨rfl, hOpen⟩ := Workshop.advanced_of_returned hNext hBefore
        exact ⟨n, Nat.lt_succ_self n, hTurn, hOpen, h⟩

/-- Calls that no sweep separates get the same predictor, which is kept all the time between. -/
theorem Decides.agree (h : r.Decides k i d p) (h' : r.Decides k' i' d' p')
    (hKey : d.tripKey = d'.tripKey) (hk : k ≤ k')
    (hStays : ∀ m, k < m → m < k' → ¬ r.Removes m d.tripKey) :
    p = p' ∧ ∀ m, k < m → m ≤ k' + 1 → (r.moment m).cache.find? d.tripKey = some p := by
  have hKept : ∀ m, k < m → m ≤ k' + 1 → (r.moment m).cache.find? d.tripKey = some p := by
    intro m hm hmk
    refine find?_moment hm h.find? fun j hj hjm => ?_
    rcases Nat.lt_or_eq_of_le (Nat.le_of_lt_succ (Nat.lt_of_lt_of_le hjm hmk)) with hBetween | rfl
    · exact hStays j hj hBetween
    · -- the access of the other call is no sweep
      rintro ⟨⟨now, lifetime, hSweep⟩, -, -⟩
      rw [h'.turn] at hSweep
      cases hSweep
  have hLast := hKept (k' + 1) (Nat.lt_succ_of_le hk) (Nat.le_refl _)
  rw [hKey, h'.find?] at hLast
  exact ⟨(Option.some.inj hLast).symm, hKept⟩

/-- A turn of a call leaves the cache alone, or keeps a predictor and returns it. -/
theorem cache_of_advance (h : r.turns[k]? = some (.advance i)) :
    (r.moment (k + 1)).cache = (r.moment k).cache ∨ ∃ d p,
      (r.moment (k + 1)).calls[i]? = some (.returned d (.ok p)) ∧
      (r.moment (k + 1)).cache = (r.moment k).cache.insert d.tripKey p := by
  cases change_moment h with
  | unchanged hSame => exact .inl hSame
  | kept _ _ hInsert hAfter => exact .inr ⟨_, _, hAfter, hInsert⟩

/-- What a call was at two moments leads to one and the same. -/
theorem exists_leads {a b : Inquiry} (ha : (r.moment m).calls[i]? = some a)
    (hb : (r.moment n).calls[i]? = some b) : ∃ c, a.Leads c ∧ b.Leads c := by
  obtain ⟨c, hc, ha'⟩ := leads_moment (Nat.le_max_left m n) ha
  obtain ⟨c', hc', hb'⟩ := leads_moment (Nat.le_max_right m n) hb
  rw [hc] at hc'
  cases hc'
  exact ⟨c, ha', hb'⟩

/-- A call whose schedule cannot be fetched fails, and none of its turns changes the cache. -/
theorem cache_of_failed_fetch {e : PredictionError} (h : r.turns[k]? = some (.advance i))
    (hMissed : (r.moment k).calls[i]? = some (.missed d))
    (hFetch : (r.moment k).timetable.fetch d.tripKey = .ok (.error e)) :
    (r.moment (k + 1)).calls[i]? = some (.returned d (.error e)) ∧
      ∀ {j}, r.turns[j]? = some (.advance i) →
        (r.moment (j + 1)).cache = (r.moment j).cache := by
  have hFailed : (r.moment (k + 1)).calls[i]? = some (.returned d (.error e)) := by
    obtain ⟨call', cache, hMoves, hNext⟩ := Workshop.next_advance r.rules hMissed
    rw [moment_succ h, hNext, Workshop.getElem?_set_self hMissed]
    cases hMoves with
    | waited hHalt =>
      rw [hFetch] at hHalt
      cases hHalt
    | failed hError =>
      rw [hFetch] at hError
      cases hError
      rfl
    | fetched hTrip =>
      rw [hFetch] at hTrip
      cases hTrip
  refine ⟨hFailed, fun {j} hj => ?_⟩
  rcases cache_of_advance hj with hSame | ⟨d', p, hReturned, -⟩
  · exact hSame
  · -- a call does not return twice
    obtain ⟨call, hLeads, hLeads'⟩ := exists_leads hFailed hReturned
    have hBoth := (hLeads.returned rfl).symm.trans (hLeads'.returned rfl)
    cases hBoth

/-- The turns of a call do not touch what is kept for another trip. -/
theorem find?_of_advance (h : r.turns[k]? = some (.advance i))
    (hCall : (r.moment n).calls[i]? = some call) (hOther : key ≠ call.deviation.tripKey) :
    (r.moment (k + 1)).cache.find? key = (r.moment k).cache.find? key := by
  rcases cache_of_advance h with hSame | ⟨d, p, hReturned, hInsert⟩
  · rw [hSame]
  · obtain ⟨_, hLeads, hLeads'⟩ := exists_leads hCall hReturned
    have hDeviation : call.deviation = d := hLeads.deviation.symm.trans hLeads'.deviation
    rw [hInsert, Table.find?_insert, if_neg (hDeviation ▸ hOther)]

/-- However calls, sweeps and replacements take turns, the calls for a trip agree. Each call that
has come by a predictor was decided by one access to the cache, and two calls for one trip get the
same predictor unless a sweep removes it between their accesses. Nothing is done to the cache but
sweeps and putting a predictor where there is none, so what is kept stays until a sweep removes it.
A call whose schedule cannot be fetched never touches the cache, and no call touches the entry of
another trip. -/
theorem concurrent_misses_agree (r : Race) :
    (∀ {n i d p}, (r.moment n).calls[i]? = some (.returned d (.ok p)) →
      ∃ k < n, r.Decides k i d p ∧ ∀ {k' d' p'}, r.Decides k' i d' p' → k' = k) ∧
    (∀ {k k' i i' d d' p p'}, r.Decides k i d p → r.Decides k' i' d' p' →
      d.tripKey = d'.tripKey → k ≤ k' →
      (∀ m, k < m → m < k' → ¬ r.Removes m d.tripKey) →
        p = p' ∧ ∀ m, k < m → m ≤ k' + 1 → (r.moment m).cache.find? d.tripKey = some p) ∧
    (∀ {k turn}, r.turns[k]? = some turn → (r.moment k).Change turn (r.moment (k + 1))) ∧
    (∀ {k key p}, (r.moment k).cache.find? key = some p →
      (r.moment (k + 1)).cache.find? key = some p ∨ r.Removes k key) ∧
    (∀ {k i d e}, r.turns[k]? = some (.advance i) → (r.moment k).calls[i]? = some (.missed d) →
      (r.moment k).timetable.fetch d.tripKey = .ok (.error e) →
        (r.moment (k + 1)).calls[i]? = some (.returned d (.error e)) ∧
        ∀ {j}, r.turns[j]? = some (.advance i) →
          (r.moment (j + 1)).cache = (r.moment j).cache) ∧
    (∀ {k n i call key}, r.turns[k]? = some (.advance i) → (r.moment n).calls[i]? = some call →
      key ≠ call.deviation.tripKey →
        (r.moment (k + 1)).cache.find? key = (r.moment k).cache.find? key) := by
  refine ⟨?_, Decides.agree, change_moment, find?_succ, cache_of_failed_fetch, find?_of_advance⟩
  intro n i d p h
  obtain ⟨k, hk, hDecides⟩ := decided h
  exact ⟨k, hk, hDecides, hDecides.turn_eq⟩

end Race

namespace Sample

/-- Two calls miss a trip. The models are replaced before the second builds, which then is first to
keep its predictor. -/
def race : Race where
  rules := ⟨.default, ⟨3600000000000⟩⟩
  cache := .empty
  timetable := .ofList [trip]
  models := .ofModels [model 7 "A_B_C", model 8 "C_D_E"]
  turns := [.ask deviation, .ask deviation, .advance 0, .advance 1, .advance 0, .advance 1,
    .advance 0, .replaceModels (.ofModels []), .advance 1, .advance 1, .advance 0]

end Sample

namespace Race

/-- The slower builder is first to keep its predictor. So it is handed to the other call too, which
had built with other models. -/
theorem slower_builder_decides :
    ∃ p q built, Sample.race.Decides 9 1 Sample.deviation p ∧
      Sample.race.Decides 10 0 Sample.deviation q ∧
      (Sample.race.moment 10).calls[0]? = some (.built Sample.deviation built) ∧
      p = q ∧ q.segments.length = 4 ∧ built.segments.length = 2 := by
  let rules := Sample.race.rules
  let late : TripPredictor := .build rules.trust (.ofModels []) rules.horizon Sample.trip
  let early : TripPredictor := .build rules.trust Sample.race.models rules.horizon Sample.trip
  have hFirst : Sample.race.Decides 9 1 Sample.deviation late := ⟨rfl, ⟨_, rfl, rfl⟩, rfl⟩
  have hSecond : Sample.race.Decides 10 0 Sample.deviation late := ⟨rfl, ⟨_, rfl, rfl⟩, rfl⟩
  have hAgree := (concurrent_misses_agree Sample.race).2.1 hFirst hSecond rfl (by decide) (by omega)
  exact ⟨late, late, early, hFirst, hSecond, rfl, hAgree.1, by decide +kernel, by decide +kernel⟩

end Race

end TransitForecast
