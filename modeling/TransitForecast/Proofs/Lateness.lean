import TransitForecast.Proofs.Expiry
import TransitForecast.Proofs.Punctuality

/-!
# TransitForecast — lateness is carried on

The clock of an update only ever moves to the later of itself and a time that does not depend on
it, moves on by seconds that do not depend on it, or is set to such a time. So of two walks over the
same stops the one that starts later is never ahead of the other, and never falls further behind
than it was at the start. From trip to trip of a batch the same holds, since each takes up the clock
where the one before left it.

Leap seconds are an exception: a move by whole seconds takes an instant in a leap second and the one
a second before it to the same place.

## Results

* `Instant.Trails.max`, `Instant.Trails.shiftSeconds?` — the two moves of a clock.
* `Walk.trails_step`, `Walk.trails_run` — a step, and a walk.
* `UpdateRules.outline_stopUpdates` — what an update says apart from times does not depend on the
  clock that it starts from.
* `UpdateRules.lateness_propagates` — the trips of a batch, from two clocks.
* `UpdateRules.overtaken_in_a_leap_second` — a later start that arrives earlier.
-/

namespace TransitForecast

-- ---------------------------------------------------------------------------
-- One clock behind another
-- ---------------------------------------------------------------------------

namespace Instant

/-- Whether the second of two instants is no earlier than the first, and later by at most a span. -/
def Lags (limit : Span) (a b : Instant) : Prop := ⟨0⟩ ≤ b.since a ∧ b.since a ≤ limit

instance (limit : Span) (a b : Instant) : Decidable (Lags limit a b) :=
  inferInstanceAs (Decidable (_ ∧ _))

/-- The same of instants outside leap seconds, by their positions. -/
structure Trails (limit : Int) (a b : Instant) : Prop where
  left : a.isLeap = false
  right : b.isLeap = false
  le : a.position ≤ b.position
  within : b.position ≤ a.position + limit

variable {limit : Int} {a a' b b' : Instant}

theorem lags_self {limit : Span} (hLimit : 0 ≤ limit.nanos) (a : Instant) : Lags limit a a := by
  have hZero : a.since a = ⟨0⟩ := by simp [since]
  rw [Lags, hZero]
  exact ⟨Int.le_refl 0, hLimit⟩

theorem Trails.lags (h : Trails limit a b) : Lags ⟨limit⟩ a b := by
  have hSpan := since_ordinary h.right h.left
  have := h.le
  have := h.within
  constructor
  · show 0 ≤ (b.since a).nanos
    omega
  · show (b.since a).nanos ≤ limit
    omega

theorem Trails.limit_nonneg (h : Trails limit a b) : 0 ≤ limit := by
  have := h.le
  have := h.within
  omega

theorem Trails.refl (hLimit : 0 ≤ limit) (ha : a.isLeap = false) : Trails limit a a :=
  ⟨ha, ha, Int.le_refl _, by omega⟩

/-- Away from leap seconds the later of two instants trails the other by what lies between them. -/
theorem trails_of_le (ha : a.isLeap = false) (hb : b.isLeap = false) (h : a ≤ b) :
    Trails (b.since a).nanos a b := by
  have hSpan := since_ordinary hb ha
  exact ⟨ha, hb, position_le ha hb h, by omega⟩

theorem isLeap_max (ha : a.isLeap = false) (hb : b.isLeap = false) : (a.max b).isLeap = false := by
  unfold Instant.max
  split
  · exact hb
  · exact ha

/-- Away from leap seconds the later of two instants has the greater position. -/
theorem position_max (ha : a.isLeap = false) (hb : b.isLeap = false) :
    (a.max b).position = Max.max a.position b.position := by
  unfold Instant.max
  split
  · rename_i hLe
    have := position_le ha hb hLe
    omega
  · rename_i hGt
    have hLe : b ≤ a := fun hLt => hGt fun hLt' => by
      unfold precedes at hLt hLt'
      omega
    have := position_le hb ha hLe
    omega

/-- Taking the later of itself and a bound brings no clock further behind. -/
theorem Trails.max (h : Trails limit a b) (h' : Trails limit a' b') :
    Trails limit (a.max a') (b.max b') := by
  have hLeft := position_max h.left h'.left
  have hRight := position_max h.right h'.right
  have := h.le
  have := h.within
  have := h'.le
  have := h'.within
  exact ⟨isLeap_max h.left h'.left, isLeap_max h.right h'.right, by omega, by omega⟩

/-- Away from leap seconds a move by seconds is one by their span. -/
theorem shiftSeconds?_ordinary {seconds : Int} (ha : a.isLeap = false)
    (h : a.shiftSeconds? seconds = some a') : a'.isLeap = false ∧
      ∃ span, Span.ofSeconds? seconds = some span ∧ a'.position = a.position + span.nanos := by
  obtain ⟨span, hSpan, hShift⟩ := Option.bind_eq_some_iff.1 h
  exact ⟨isLeap_shift? ha hShift, span, hSpan, position_shift? ha hShift⟩

/-- Moving on by the same seconds leaves a clock as far behind as it was. -/
theorem Trails.shiftSeconds? {seconds : Int} (h : Trails limit a b)
    (ha : a.shiftSeconds? seconds = some a') (hb : b.shiftSeconds? seconds = some b') :
    Trails limit a' b' := by
  obtain ⟨hLeft, span, hSpan, hMoved⟩ := shiftSeconds?_ordinary h.left ha
  obtain ⟨hRight, span', hSpan', hMoved'⟩ := shiftSeconds?_ordinary h.right hb
  rw [hSpan] at hSpan'
  cases hSpan'
  have := h.le
  have := h.within
  exact ⟨hLeft, hRight, by omega, by omega⟩

end Instant

-- ---------------------------------------------------------------------------
-- What does not depend on the clock
-- ---------------------------------------------------------------------------

/-- What an update says about a stop apart from predicted times and delays. -/
def StopUpdate.outline (u : StopUpdate) :
    (Nat × String × Instant × Bool) × Option Instant × Source × Disposition :=
  (u.visit, u.scheduledDeparture, u.source, u.status)

namespace Walk

variable {d : Deviation} {w w' n n' : WalkState Float} {u u' : StopUpdate} {leg : Leg Float}

theorem outline_observed {s : Stop} {source : Source} (h : observed d w s source = some (u, n))
    (h' : observed d w' s source = some (u', n')) :
    u' = u ∧ n'.carried = n.carried := by
  obtain ⟨predicted, hPredicted, hEq⟩ := Option.map_eq_some_iff.1 h
  obtain ⟨predicted', hPredicted', hEq'⟩ := Option.map_eq_some_iff.1 h'
  rw [hPredicted] at hPredicted'
  cases hPredicted'
  cases hEq
  cases hEq'
  exact ⟨rfl, rfl⟩

/-- Where a departure from the first stop is set does not depend on whether it is late. -/
theorem origin_eq (d : Deviation) (w : WalkState Float) (s : Stop) (source : Source)
    (status : Disposition) :
    (origin d w s source status).1.outline =
        ((StopUpdate.arrival s s.arrival source status).withDeparture s s.departure).outline ∧
      (origin d w s source status).1.predictedDeparture =
        some ((d.observedAt.max w.clock).max s.departure) ∧
      (origin d w s source status).2 =
        ⟨(d.observedAt.max w.clock).max s.departure, w.carried⟩ := by
  unfold origin
  dsimp only
  by_cases hOnTime : d.observedAt.max w.clock ≤ s.departure
  · have hMax : (d.observedAt.max w.clock).max s.departure = s.departure := if_pos hOnTime
    rw [if_pos hOnTime, hMax]
    exact ⟨rfl, rfl, rfl⟩
  · have hMax : (d.observedAt.max w.clock).max s.departure = d.observedAt.max w.clock :=
      if_neg hOnTime
    rw [if_neg hOnTime, hMax]
    exact ⟨rfl, rfl, rfl⟩

/-- Two steps along a leg differ in times only. -/
theorem outline_step (hCarried : w'.carried = w.carried) (h : step d w leg = some (u, n))
    (h' : step d w' leg = some (u', n')) :
    u'.outline = u.outline ∧ n'.carried = n.carried := by
  unfold step at h h'
  cases hWay : leg.way with
  | passed =>
    rw [hWay] at h h'
    obtain ⟨rfl, hNext⟩ := outline_observed h h'
    exact ⟨rfl, hNext⟩
  | here bound =>
    rw [hWay] at h h'
    cases h
    cases h'
    exact ⟨rfl, rfl⟩
  | ahead seconds left bound =>
    rw [hWay] at h h'
    dsimp only at h h'
    rw [hCarried] at h'
    obtain ⟨reached, -, hEq⟩ := Option.map_eq_some_iff.1 h
    obtain ⟨reached', -, hEq'⟩ := Option.map_eq_some_iff.1 h'
    cases hEq
    cases hEq'
    exact ⟨rfl, rfl⟩

/-- A walk that completes takes its first step, and completes from there. -/
theorem completes_cons {rest : List (Leg Float)} (h : completes d w (leg :: rest) = true) :
    ∃ u n, step d w leg = some (u, n) ∧ completes d n rest = true := by
  rw [completes] at h
  cases hStep : step d w leg with
  | none =>
    rw [hStep] at h
    cases h
  | some reported =>
    obtain ⟨u, n⟩ := reported
    rw [hStep] at h
    exact ⟨u, n, rfl, h⟩

theorem run_cons {α : Type} [Measure α] {w n : WalkState α} {leg : Leg α} {rest : List (Leg α)}
    (h : step d w leg = some (u, n)) :
    run d w (leg :: rest) = (u :: (run d n rest).1, (run d n rest).2) := by
  rw [run, h]

/-- Two walks over the same legs differ in times only. -/
theorem outline_run {legs : List (Leg Float)} : ∀ {w w' : WalkState Float},
    w'.carried = w.carried → completes d w legs = true → completes d w' legs = true →
      (run d w' legs).1.map StopUpdate.outline = (run d w legs).1.map StopUpdate.outline := by
  induction legs with
  | nil => exact fun _ _ _ => rfl
  | cons leg rest ih =>
    intro w w' hCarried h h'
    obtain ⟨u, n, hStep, hRest⟩ := completes_cons h
    obtain ⟨u', n', hStep', hRest'⟩ := completes_cons h'
    obtain ⟨hOutline, hNext⟩ := outline_step hCarried hStep hStep'
    rw [run_cons hStep, run_cons hStep', List.map_cons, List.map_cons, hOutline,
      ih hNext hRest hRest']

end Walk

-- ---------------------------------------------------------------------------
-- One walk behind another
-- ---------------------------------------------------------------------------

/-- Two clocks on the way that carry the same fraction. -/
structure WalkState.Trails (limit : Int) (w w' : WalkState Float) : Prop where
  clock : w.clock.Trails limit w'.clock
  carried : w'.carried = w.carried

/-- Whether a stop is predicted no earlier by the second of two updates, and later by at most a
span. -/
structure StopUpdate.Lags (limit : Span) (u u' : StopUpdate) : Prop where
  arrival : u.predictedArrival.Lags limit u'.predictedArrival
  departure : Option.Rel (Instant.Lags limit) u.predictedDeparture u'.predictedDeparture

/-- The time before which a way may not end. -/
def Way.bound? {α : Type} : Way α → Option Instant
  | .passed => none
  | .here bound => bound
  | .ahead _ _ bound => bound

namespace Walk

variable {limit : Int} {d : Deviation} {w w' n n' : WalkState Float} {u u' : StopUpdate}
  {leg : Leg Float}

theorem notBefore_some (t bound : Instant) : notBefore t (some bound) = bound.max t := by
  show (if t < bound then bound else t) = if bound ≤ t then t else bound
  by_cases hEarly : t < bound
  · have hNot : ¬ bound ≤ t := fun hLe => hLe hEarly
    rw [if_pos hEarly, if_neg hNot]
  · have hLe : bound ≤ t := hEarly
    rw [if_neg hEarly, if_pos hLe]

theorem trails_notBefore {a b : Instant} (h : a.Trails limit b) {bound : Option Instant}
    (hBound : ∀ t ∈ bound, t.isLeap = false) :
    (notBefore a bound).Trails limit (notBefore b bound) := by
  cases bound with
  | none => exact h
  | some t =>
    rw [notBefore_some, notBefore_some]
    exact (Instant.Trails.refl h.limit_nonneg (hBound t rfl)).max h

theorem trails_observed (hNow : d.observedAt.isLeap = false) (hw : w.Trails limit w') {s : Stop}
    {source : Source} (h : observed d w s source = some (u, n))
    (h' : observed d w' s source = some (u', n')) : n.Trails limit n' := by
  have hLimit := hw.clock.limit_nonneg
  obtain ⟨predicted, -, hEq⟩ := Option.map_eq_some_iff.1 h
  obtain ⟨predicted', -, hEq'⟩ := Option.map_eq_some_iff.1 h'
  cases hEq
  cases hEq'
  exact ⟨hw.clock.max (.refl hLimit hNow), rfl⟩

theorem predictedDeparture_step (h : step d w leg = some (u, n)) : u.predictedDeparture = none := by
  unfold step at h
  split at h
  · obtain ⟨predicted, -, hEq⟩ := Option.map_eq_some_iff.1 h
    cases hEq
    rfl
  · cases h
    rfl
  · obtain ⟨reached, -, hEq⟩ := Option.map_eq_some_iff.1 h
    cases hEq
    rfl

/-- Along a leg a clock does not fall further behind another, nor get ahead of it. -/
theorem trails_step (hNow : d.observedAt.isLeap = false)
    (hBound : ∀ t ∈ leg.way.bound?, t.isLeap = false) (hw : w.Trails limit w')
    (h : step d w leg = some (u, n)) (h' : step d w' leg = some (u', n')) :
    n.Trails limit n' ∧ u.Lags ⟨limit⟩ u' := by
  have hLimit := hw.clock.limit_nonneg
  have hDeparture :
      Option.Rel (Instant.Lags ⟨limit⟩) u.predictedDeparture u'.predictedDeparture := by
    rw [predictedDeparture_step h, predictedDeparture_step h']
    exact .none
  unfold step at h h'
  cases hWay : leg.way with
  | passed =>
    rw [hWay] at h h'
    obtain ⟨rfl, -⟩ := outline_observed h h'
    exact ⟨trails_observed hNow hw h h', Instant.lags_self hLimit _, hDeparture⟩
  | here bound =>
    -- the clock is set anew
    rw [hWay] at h h' hBound
    have hSame : (notBefore d.observedAt bound).Trails limit (notBefore d.observedAt bound) :=
      trails_notBefore (.refl hLimit hNow) hBound
    cases h
    cases h'
    exact ⟨⟨hSame, rfl⟩, hSame.lags, hDeparture⟩
  | ahead seconds left bound =>
    rw [hWay] at h h' hBound
    dsimp only at h h'
    rw [hw.carried] at h'
    obtain ⟨reached, hReached, hEq⟩ := Option.map_eq_some_iff.1 h
    obtain ⟨reached', hReached', hEq'⟩ := Option.map_eq_some_iff.1 h'
    have hMoved : (notBefore reached bound).Trails limit (notBefore reached' bound) :=
      trails_notBefore (hw.clock.shiftSeconds? hReached hReached') hBound
    cases hEq
    cases hEq'
    exact ⟨⟨hMoved, rfl⟩, hMoved.lags, hDeparture⟩

/-- Over a whole walk a clock does not fall further behind another, nor get ahead of it. -/
theorem trails_run (hNow : d.observedAt.isLeap = false) {legs : List (Leg Float)}
    (hBounds : ∀ leg ∈ legs, ∀ t ∈ leg.way.bound?, t.isLeap = false) :
    ∀ {w w' : WalkState Float}, w.Trails limit w' → completes d w legs = true →
      completes d w' legs = true → (run d w legs).2.Trails limit (run d w' legs).2 ∧
        List.Forall₂ (StopUpdate.Lags ⟨limit⟩) (run d w legs).1 (run d w' legs).1 := by
  induction legs with
  | nil => exact fun hw _ _ => ⟨hw, .nil⟩
  | cons leg rest ih =>
    intro w w' hw h h'
    obtain ⟨u, n, hStep, hRest⟩ := completes_cons h
    obtain ⟨u', n', hStep', hRest'⟩ := completes_cons h'
    obtain ⟨hNext, hLags⟩ :=
      trails_step hNow (hBounds leg (List.mem_cons_self ..)) hw hStep hStep'
    obtain ⟨hLast, hOthers⟩ :=
      ih (fun x hx => hBounds x (List.mem_cons_of_mem _ hx)) hNext hRest hRest'
    rw [run_cons hStep, run_cons hStep']
    exact ⟨hLast, .cons hLags hOthers⟩

end Walk

-- ---------------------------------------------------------------------------
-- One update behind another
-- ---------------------------------------------------------------------------

/-- Whether no time that the update of a trip starts with lies in a leap second. -/
structure TripPrediction.AvoidsLeaps (p : TripPrediction) : Prop where
  observed : p.deviation.observedAt.isLeap = false
  scheduled : ∀ s ∈ p.trip.stops, s.arrival.isLeap = false ∧ s.departure.isLeap = false

instance (p : TripPrediction) : Decidable p.AvoidsLeaps :=
  decidable_of_iff (p.deviation.observedAt.isLeap = false ∧
    ∀ s ∈ p.trip.stops, s.arrival.isLeap = false ∧ s.departure.isLeap = false)
    ⟨fun h => ⟨h.1, h.2⟩, fun h => ⟨h.observed, h.scheduled⟩⟩

namespace UpdateRules

variable {rules : UpdateRules} {limit : Int} {d : Deviation} {stops : List Stop}
  {w w' n n' : WalkState Float} {first first' : List StopUpdate}

theorem isLeap_earliestArrival (rules : UpdateRules) {s : Stop} (hs : s.arrival.isLeap = false) :
    (rules.earliestArrival s).isLeap = false := by
  unfold earliestArrival
  cases hShift : s.arrival.shift? rules.earlyLimit.neg with
  | none => exact hs
  | some t => exact Instant.isLeap_shift? hs hShift

/-- The only bound on the way to a stop is its earliest arrival. -/
theorem bound?_leg {a b : Stop} {x : StopPrediction} {t : Instant}
    (h : t ∈ (rules.leg d a b x).way.bound?) : t = rules.earliestArrival b := by
  have hIf : ∀ {p : Prop} [Decidable p],
      t ∈ (if p then some (rules.earliestArrival b) else none) → t = rules.earliestArrival b := by
    intro p _ hMem
    split at hMem
    · exact (Option.some.inj hMem).symm
    · cases hMem
  unfold leg at h
  cases hPlace : disposition d b with
  | past =>
    rw [hPlace] at h
    cases h
  | here =>
    rw [hPlace] at h
    exact hIf h
  | future =>
    rw [hPlace] at h
    exact hIf h

theorem bounds_legs (rules : UpdateRules) (hStops : ∀ s ∈ stops, s.arrival.isLeap = false)
    {xs : List StopPrediction} :
    ∀ leg ∈ rules.legs d stops xs, ∀ t ∈ leg.way.bound?, t.isLeap = false := by
  induction xs with
  | nil => exact fun leg hLeg => absurd hLeg List.not_mem_nil
  | cons x rest ih =>
    intro leg hLeg t ht
    rw [legs] at hLeg
    split at hLeg
    · cases hLeg
    · split at hLeg
      · rename_i a b _ hb
        rcases List.mem_cons.1 hLeg with rfl | hRest
        · rw [bound?_leg ht]
          exact isLeap_earliestArrival rules (hStops b (List.mem_of_getElem? hb))
        · exact ih leg hRest t ht
      · cases hLeg

theorem openWalk_origin (d : Deviation) (w : WalkState Float) (s : Stop) (source : Source)
    (status : Disposition) :
    openWalk d w (.origin s source status) =
      some ([(Walk.origin d w s source status).1], (Walk.origin d w s source status).2) := rfl

/-- Two openings differ in times only. -/
theorem outline_openWalk {o : Opening} (hCarried : w'.carried = w.carried)
    (h : openWalk d w o = some (first, n)) (h' : openWalk d w' o = some (first', n')) :
    first'.map StopUpdate.outline = first.map StopUpdate.outline ∧ n'.carried = n.carried := by
  cases o with
  | nothing =>
    cases h
    cases h'
    exact ⟨rfl, hCarried⟩
  | assumed s =>
    cases h
    cases h'
    exact ⟨rfl, hCarried⟩
  | passed s source =>
    obtain ⟨⟨u, next⟩, hObserved, hEq⟩ := Option.map_eq_some_iff.1 h
    obtain ⟨⟨u', next'⟩, hObserved', hEq'⟩ := Option.map_eq_some_iff.1 h'
    obtain ⟨rfl, hNext⟩ := Walk.outline_observed hObserved hObserved'
    cases hEq
    cases hEq'
    exact ⟨rfl, hNext⟩
  | origin s source status =>
    obtain ⟨hLeft, -, hNext⟩ := Walk.origin_eq d w s source status
    obtain ⟨hRight, -, hNext'⟩ := Walk.origin_eq d w' s source status
    rw [openWalk_origin] at h h'
    obtain ⟨rfl, rfl⟩ := Prod.mk.inj (Option.some.inj h)
    obtain ⟨rfl, rfl⟩ := Prod.mk.inj (Option.some.inj h')
    rw [List.map_singleton, List.map_singleton, hLeft, hRight, hNext, hNext']
    exact ⟨rfl, hCarried⟩

/-- The departure from the first stop, and the clock after it, are no further behind than the clock
was. -/
theorem trails_openWalk {o : Opening} (hNow : d.observedAt.isLeap = false)
    (hStop : ∀ s ∈ o.stop?, s.departure.isLeap = false) (hw : w.Trails limit w')
    (h : openWalk d w o = some (first, n)) (h' : openWalk d w' o = some (first', n')) :
    n.Trails limit n' ∧ List.Forall₂ (fun u u' => Option.Rel (Instant.Lags ⟨limit⟩)
      u.predictedDeparture u'.predictedDeparture) first first' := by
  have hObservedNow : d.observedAt.Trails limit d.observedAt := .refl hw.clock.limit_nonneg hNow
  cases o with
  | nothing =>
    cases h
    cases h'
    exact ⟨hw, .nil⟩
  | assumed s =>
    cases h
    cases h'
    exact ⟨⟨hw.clock.max hObservedNow, hw.carried⟩, .cons .none .nil⟩
  | passed s source =>
    obtain ⟨⟨u, next⟩, hObserved, hEq⟩ := Option.map_eq_some_iff.1 h
    obtain ⟨⟨u', next'⟩, hObserved', hEq'⟩ := Option.map_eq_some_iff.1 h'
    have hNext := Walk.trails_observed hNow hw hObserved hObserved'
    have hNone : u.predictedDeparture = none := by
      obtain ⟨predicted, -, hMade⟩ := Option.map_eq_some_iff.1 hObserved
      cases hMade
      rfl
    obtain ⟨rfl, -⟩ := Walk.outline_observed hObserved hObserved'
    cases hEq
    cases hEq'
    refine ⟨hNext, .cons ?_ .nil⟩
    rw [hNone]
    exact .none
  | origin s source status =>
    obtain ⟨-, hLeft, hNext⟩ := Walk.origin_eq d w s source status
    obtain ⟨-, hRight, hNext'⟩ := Walk.origin_eq d w' s source status
    have hDepart : ((d.observedAt.max w.clock).max s.departure).Trails limit
        ((d.observedAt.max w'.clock).max s.departure) :=
      (hObservedNow.max hw.clock).max (.refl hw.clock.limit_nonneg (hStop s rfl))
    rw [openWalk_origin] at h h'
    obtain ⟨rfl, rfl⟩ := Prod.mk.inj (Option.some.inj h)
    obtain ⟨rfl, rfl⟩ := Prod.mk.inj (Option.some.inj h')
    rw [hNext, hNext']
    refine ⟨⟨hDepart, hw.carried⟩, .cons ?_ .nil⟩
    rw [hLeft, hRight]
    exact .some hDepart.lags

/-- An opening reports one stop, if any. -/
theorem reported_openWalk {o : Opening} (h : openWalk d w o = some (first, n)) :
    (o = .nothing ∧ first = []) ∨ ∃ u, first = [u] := by
  cases o with
  | nothing =>
    cases h
    exact .inl ⟨rfl, rfl⟩
  | assumed s =>
    cases h
    exact .inr ⟨_, rfl⟩
  | passed s source =>
    obtain ⟨reported, -, hEq⟩ := Option.map_eq_some_iff.1 h
    cases hEq
    exact .inr ⟨_, rfl⟩
  | origin s source status =>
    rw [openWalk_origin] at h
    obtain ⟨rfl, -⟩ := Prod.mk.inj (Option.some.inj h)
    exact .inr ⟨_, rfl⟩

/-- An update opens at a stop of the trip. -/
theorem mem_stop?_opening {xs : List StopPrediction} {s : Stop}
    (h : s ∈ (opening d stops xs).stop?) : s ∈ stops := by
  have hAssumed : ∀ o : Option Stop, s ∈ (o.elim .nothing .assumed : Opening).stop? → s ∈ o := by
    intro o hMem
    cases o with
    | none => cases hMem
    | some t => exact hMem
  unfold opening at h
  split at h
  · exact List.mem_of_getLast? (hAssumed _ h)
  · split at h
    · split at h
      · cases h
      · rename_i t hHead
        refine List.mem_of_head? (hHead.trans ?_)
        split at h
        · exact h
        · exact h
    · exact List.mem_of_getElem? (hAssumed _ h)

variable {p : TripPrediction} {s₁ s₂ : Instant}

/-- An update whose first stop can be reported. -/
theorem stopUpdates_of_openWalk {seed : Instant} {first : List StopUpdate} {w : WalkState Float}
    (h : openWalk p.deviation ⟨seed, Measure.zero⟩ (opening p.deviation p.trip.stops p.stops) =
      some (first, w)) :
    rules.stopUpdates p seed =
      (first ++ (Walk.run p.deviation w (rules.legs p.deviation p.trip.stops p.stops)).1,
        (Walk.run p.deviation w (rules.legs p.deviation p.trip.stops p.stops)).2.clock) := by
  unfold stopUpdates
  dsimp only
  rw [h]

/-- An update during which no time leaves the range of instants. -/
theorem openWalk_of_completes {seed : Instant} (h : rules.completes p seed = true) :
    ∃ first w, openWalk p.deviation ⟨seed, Measure.zero⟩
        (opening p.deviation p.trip.stops p.stops) = some (first, w) ∧
      Walk.completes p.deviation w (rules.legs p.deviation p.trip.stops p.stops) = true := by
  unfold completes at h
  cases hOpen : openWalk p.deviation ⟨seed, Measure.zero⟩
      (opening p.deviation p.trip.stops p.stops) with
  | none =>
    rw [hOpen] at h
    cases h
  | some opened =>
    rw [hOpen] at h
    exact ⟨opened.1, opened.2, rfl, h⟩

/-- Two updates of a trip differ in times only, whatever clocks they start from. -/
theorem outline_stopUpdates (h₁ : rules.completes p s₁ = true) (h₂ : rules.completes p s₂ = true) :
    (rules.stopUpdates p s₂).1.map StopUpdate.outline =
      (rules.stopUpdates p s₁).1.map StopUpdate.outline := by
  obtain ⟨first, w, hOpen, hRest⟩ := openWalk_of_completes h₁
  obtain ⟨first', w', hOpen', hRest'⟩ := openWalk_of_completes h₂
  have hStart : (⟨s₂, Measure.zero⟩ : WalkState Float).carried =
      (⟨s₁, Measure.zero⟩ : WalkState Float).carried := rfl
  obtain ⟨hFirst, hCarried⟩ := outline_openWalk hStart hOpen hOpen'
  rw [stopUpdates_of_openWalk hOpen, stopUpdates_of_openWalk hOpen', List.map_append,
    List.map_append, hFirst, Walk.outline_run hCarried hRest hRest']

/-- Whether an update of a trip is another one of it delayed by at most a span. The first reported
arrival does not count: a vehicle that is not late arrives there as scheduled. -/
structure Delayed (limit : Span) (x y : TripUpdate × Instant) : Prop where
  departures : List.Forall₂ (fun u v => Option.Rel (Instant.Lags limit)
    u.predictedDeparture v.predictedDeparture) x.1.stops y.1.stops
  arrivals : List.Forall₂ (fun u v => Instant.Lags limit u.predictedArrival v.predictedArrival)
    x.1.stops.tail y.1.stops.tail
  clock : Instant.Lags limit x.2 y.2

/-- The update of a trip is delayed by no more than its start. -/
theorem delayed_build (hp : p.AvoidsLeaps) (hSeeds : s₁.Trails limit s₂)
    (h₁ : rules.completes p s₁ = true) (h₂ : rules.completes p s₂ = true) :
    Delayed ⟨limit⟩ (rules.build p s₁) (rules.build p s₂) ∧
      (rules.build p s₁).2.Trails limit (rules.build p s₂).2 := by
  obtain ⟨first, w, hOpen, hRest⟩ := openWalk_of_completes h₁
  obtain ⟨first', w', hOpen', hRest'⟩ := openWalk_of_completes h₂
  have hStart : (⟨s₁, Measure.zero⟩ : WalkState Float).Trails limit ⟨s₂, Measure.zero⟩ :=
    ⟨hSeeds, rfl⟩
  obtain ⟨hNext, hDepartures⟩ := trails_openWalk hp.observed
    (fun s hs => (hp.scheduled s (mem_stop?_opening hs)).2) hStart hOpen hOpen'
  obtain ⟨hLast, hLags⟩ := Walk.trails_run hp.observed
    (rules.bounds_legs fun s hs => (hp.scheduled s hs).1) hNext hRest hRest'
  have hArrivals := hLags.imp fun _ _ h => h.arrival
  refine ⟨⟨?_, ?_, ?_⟩, ?_⟩
  · show List.Forall₂ _ (rules.stopUpdates p s₁).1 (rules.stopUpdates p s₂).1
    rw [stopUpdates_of_openWalk hOpen, stopUpdates_of_openWalk hOpen']
    exact List.rel_append hDepartures (hLags.imp fun _ _ h => h.departure)
  · show List.Forall₂ _ (rules.stopUpdates p s₁).1.tail (rules.stopUpdates p s₂).1.tail
    rw [stopUpdates_of_openWalk hOpen, stopUpdates_of_openWalk hOpen']
    rcases reported_openWalk hOpen with ⟨-, rfl⟩ | ⟨u, rfl⟩
    · cases hDepartures
      rw [List.nil_append, List.nil_append, ← List.drop_one, ← List.drop_one]
      exact List.forall₂_drop 1 hArrivals
    · cases hDepartures with
      | cons _ hMore =>
        cases hMore
        exact hArrivals
  · show Instant.Lags _ (rules.stopUpdates p s₁).2 (rules.stopUpdates p s₂).2
    rw [stopUpdates_of_openWalk hOpen, stopUpdates_of_openWalk hOpen']
    exact hLast.clock.lags
  · show (rules.stopUpdates p s₁).2.Trails limit (rules.stopUpdates p s₂).2
    rw [stopUpdates_of_openWalk hOpen, stopUpdates_of_openWalk hOpen']
    exact hLast.clock

-- ---------------------------------------------------------------------------
-- One batch behind another
-- ---------------------------------------------------------------------------

theorem outline_starts (trips : List TripPrediction) : ∀ {c₁ c₂ : Instant},
    (∀ x ∈ rules.starts (some c₁) trips, rules.completes x.1 x.2 = true) →
    (∀ x ∈ rules.starts (some c₂) trips, rules.completes x.1 x.2 = true) →
    List.Forall₂ (fun x y => y.1 = x.1 ∧ (rules.build y.1 y.2).1.stops.map StopUpdate.outline =
        (rules.build x.1 x.2).1.stops.map StopUpdate.outline)
      (rules.starts (some c₁) trips) (rules.starts (some c₂) trips) := by
  induction trips with
  | nil => exact fun _ _ => .nil
  | cons p rest ih =>
    intro c₁ c₂ h₁ h₂
    rw [starts] at h₁ h₂ ⊢
    obtain ⟨hFirst, hRest⟩ := List.forall_mem_cons.1 h₁
    obtain ⟨hFirst', hRest'⟩ := List.forall_mem_cons.1 h₂
    exact .cons ⟨rfl, outline_stopUpdates hFirst hFirst'⟩ (ih hRest hRest')

theorem delayed_starts {trips : List TripPrediction} (hTrips : ∀ p ∈ trips, p.AvoidsLeaps) :
    ∀ {c₁ c₂ : Instant}, c₁.Trails limit c₂ →
    (∀ x ∈ rules.starts (some c₁) trips, rules.completes x.1 x.2 = true) →
    (∀ x ∈ rules.starts (some c₂) trips, rules.completes x.1 x.2 = true) →
    List.Forall₂ (fun x y => Instant.Lags ⟨limit⟩ x.2 y.2 ∧
        Delayed ⟨limit⟩ (rules.build x.1 x.2) (rules.build y.1 y.2))
      (rules.starts (some c₁) trips) (rules.starts (some c₂) trips) := by
  induction trips with
  | nil => exact fun _ _ _ => .nil
  | cons p rest ih =>
    intro c₁ c₂ hClocks h₁ h₂
    rw [starts] at h₁ h₂ ⊢
    obtain ⟨hFirst, hRest⟩ := List.forall_mem_cons.1 h₁
    obtain ⟨hFirst', hRest'⟩ := List.forall_mem_cons.1 h₂
    obtain ⟨hOwn, hOthers⟩ := List.forall_mem_cons.1 hTrips
    obtain ⟨hDelayed, hNext⟩ := delayed_build hOwn hClocks hFirst hFirst'
    exact .cons ⟨hClocks.lags, hDelayed⟩ (ih hOthers hNext hRest hRest')

/-- When the trips of a batch are reported from two clocks, and no time leaves the range of instants
either way, both report the same stops of each trip, with the same positions relative to the
vehicle. If one clock is later, and no leap second is involved, then no trip starts or ends earlier
for it, and none of its predicted departures and later arrivals is earlier; and none of these times
is later by more than that clock is. A single trip is a batch of one. -/
theorem lateness_propagates (rules : UpdateRules) (trips : List TripPrediction) {c₁ c₂ : Instant}
    (h₁ : ∀ x ∈ rules.starts (some c₁) trips, rules.completes x.1 x.2 = true)
    (h₂ : ∀ x ∈ rules.starts (some c₂) trips, rules.completes x.1 x.2 = true) :
    List.Forall₂ (fun x y => y.1 = x.1 ∧ (rules.build y.1 y.2).1.stops.map StopUpdate.outline =
        (rules.build x.1 x.2).1.stops.map StopUpdate.outline)
      (rules.starts (some c₁) trips) (rules.starts (some c₂) trips) ∧
    (c₁ ≤ c₂ → c₁.isLeap = false → c₂.isLeap = false → (∀ p ∈ trips, p.AvoidsLeaps) →
      List.Forall₂ (fun x y => Instant.Lags (c₂.since c₁) x.2 y.2 ∧
          Delayed (c₂.since c₁) (rules.build x.1 x.2) (rules.build y.1 y.2))
        (rules.starts (some c₁) trips) (rules.starts (some c₂) trips)) :=
  ⟨outline_starts trips h₁ h₂, fun hOrder hLeft hRight hTrips =>
    delayed_starts hTrips (Instant.trails_of_le hLeft hRight hOrder) h₁ h₂⟩

end UpdateRules

namespace Sample

/-- A trip of two stops as the schedule predicts it. -/
def scheduled (t : Trip) (seconds : Float) : TripPrediction :=
  ⟨{ deviation with trip := t.id }, t, [⟨0, 1, seconds, .schedule, true⟩], .empty⟩

def longAndDue : List TripPrediction := [scheduled long 1200, scheduled due 300]

end Sample

namespace UpdateRules

/-- A vehicle that starts into two trips a minute later, of which the first takes twenty minutes and
the second is late anyway, gets to the end of both a minute later. -/
theorem lateness_propagates_to_the_next_trip :
    let rules : UpdateRules := ⟨⟨60000000000⟩⟩
    let before := rules.starts (some (Sample.clock 60)) Sample.longAndDue
    let after := rules.starts (some (Sample.clock 120)) Sample.longAndDue
    before.map (fun x => (rules.build x.1 x.2).2) = [Sample.clock 1260, Sample.clock 1560] ∧
    after.map (fun x => (rules.build x.1 x.2).2) = [Sample.clock 1320, Sample.clock 1620] ∧
    List.Forall₂ (fun x y => Instant.Lags ⟨60000000000⟩ x.2 y.2 ∧
      Delayed ⟨60000000000⟩ (rules.build x.1 x.2) (rules.build y.1 y.2)) before after := by
  intro rules before after
  refine ⟨by decide +kernel, by decide +kernel, ?_⟩
  have hBefore : ∀ x ∈ rules.starts (some (Sample.clock 60)) Sample.longAndDue,
      rules.completes x.1 x.2 = true := by decide +kernel
  have hAfter : ∀ x ∈ rules.starts (some (Sample.clock 120)) Sample.longAndDue,
      rules.completes x.1 x.2 = true := by decide +kernel
  exact (lateness_propagates rules Sample.longAndDue hBefore hAfter).2 (by decide +kernel)
    (by decide +kernel) (by decide +kernel) (by decide +kernel)

/-- Half a second later a vehicle arrives half a second earlier: from the leap second it moves on as
from the second before. -/
theorem overtaken_in_a_leap_second :
    let rules : UpdateRules := ⟨⟨60000000000⟩⟩
    let p := Sample.scheduled Sample.direct 300
    let early : Instant := ⟨1709654459, 700000000, by decide, by decide⟩
    let late : Instant := ⟨1709654459, 1200000000, by decide, by decide⟩
    early ≤ late ∧ late.since early = ⟨500000000⟩ ∧
      rules.completes p early = true ∧ rules.completes p late = true ∧
      (rules.build p late).2.since (rules.build p early).2 = ⟨-500000000⟩ := by
  decide +kernel

end UpdateRules

end TransitForecast
