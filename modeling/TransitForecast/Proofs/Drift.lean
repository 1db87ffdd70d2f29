import TransitForecast.Proofs.EarlyDeparture
import TransitForecast.Proofs.Nearness

/-!
# TransitForecast — fractions of a second

The clock of an update moves by whole seconds, and what is cut off is carried to the next stop. Here
the predicted seconds are exact numbers. What is carried is less than a second, but it may lie below
zero, by no more than the tolerance with which seconds are cut off; and when less than that is
predicted for the next stop, the time left to travel counts as none and the difference is forgotten.
So the clock may run ahead of the predictions, by a tolerance for each stop at most, and it never
falls a second behind.

## Results

* `Instant.shiftSeconds?_add` — a clock that is moved twice has moved by the sum.
* `Drift.next` — what one stop adds to the drift.
* `Walk.drift_run` — the drift after each stop of a walk.
* `UpdateRules.clock_keeps_up_with_predictions` — the same for the stop predictions of a trip.
-/

namespace TransitForecast

-- ---------------------------------------------------------------------------
-- Moving on
-- ---------------------------------------------------------------------------

namespace Instant

variable {t u v : Instant} {m n : Nat}

theorem shiftSeconds?_zero (t : Instant) : t.shiftSeconds? 0 = some t := by
  have hRoom := t.nanos_lt
  show t.shift? ⟨0⟩ = some t
  unfold shift?
  by_cases hLeap : t.isLeap = true
  · rw [if_pos hLeap, dif_neg (by dsimp only; omega), if_neg (by decide)]
    rfl
  · rw [if_neg hLeap]
    have hSame : t.position + 0 = t.position := Int.add_zero _
    exact (congrArg ofPosition? hSame).trans (ofPosition?_position (Bool.eq_false_iff.2 hLeap))

/-- Where some seconds lead: a leap second is left at once, and counts as the second before it. -/
theorem shiftSeconds?_eq_some_iff (hPos : 0 < n) :
    t.shiftSeconds? n = some u ↔ u.isLeap = false ∧
      u.position = (if t.isLeap then t.position - 1000000000 else t.position) + n * 1000000000 := by
  have hRoom := t.nanos_lt
  constructor
  · intro h
    obtain ⟨span, hSpan, hShift⟩ := Option.bind_eq_some_iff.1 h
    have hNanos := Span.nanos_of_ofSeconds? hSpan
    rcases shift?_cases hShift with ⟨hLeap, hEnd, hMoved⟩ | ⟨hLeap, -, hEnd, hMoved⟩ |
      ⟨-, hBack, -⟩ | ⟨hLeap, hShort, -⟩
    · rw [if_neg (by rw [hLeap]; decide)]
      exact ⟨hEnd, by omega⟩
    · rw [if_pos hLeap]
      exact ⟨hEnd, by omega⟩
    · omega
    · rw [isLeap, decide_eq_true_eq] at hLeap
      omega
  · rintro ⟨hEnd, hMoved⟩
    have hFrom := t.inRange
    have hTo := u.inRange
    have hInside : u.nanos < 1000000000 := by simpa [isLeap] using hEnd
    have hAt := ofPosition?_position hEnd
    have hSpan : Span.ofSeconds? n = some ⟨n * 1000000000⟩ := by
      refine if_pos ?_
      split at hMoved <;>
      · unfold position nanosPerSecond at hMoved
        unfold Span.maxSeconds
        omega
    unfold shiftSeconds?
    rw [hSpan, Option.bind_some]
    unfold shift?
    split at hMoved
    · rename_i hLeap
      have hLong : 1000000000 ≤ t.nanos := of_decide_eq_true hLeap
      rw [if_pos hLeap, dif_pos (by dsimp only; omega), ← hMoved]
      exact hAt
    · rename_i hOrdinary
      rw [if_neg hOrdinary, ← hMoved]
      exact hAt

/-- A clock that is moved on twice has moved on by the sum. -/
theorem shiftSeconds?_add (hFirst : t.shiftSeconds? m = some u)
    (hSecond : u.shiftSeconds? n = some v) : t.shiftSeconds? (m + n : Nat) = some v := by
  rcases Nat.eq_zero_or_pos m with rfl | hm
  · rw [Nat.zero_add]
    cases (shiftSeconds?_zero t).symm.trans hFirst
    exact hSecond
  · rcases Nat.eq_zero_or_pos n with rfl | hn
    · cases (shiftSeconds?_zero u).symm.trans hSecond
      exact hFirst
    · obtain ⟨hOrdinary, hMoved⟩ := (shiftSeconds?_eq_some_iff hm).1 hFirst
      obtain ⟨hEnd, hMoved'⟩ := (shiftSeconds?_eq_some_iff hn).1 hSecond
      rw [if_neg (by rw [hOrdinary]; decide)] at hMoved'
      exact (shiftSeconds?_eq_some_iff (by omega)).2 ⟨hEnd, by omega⟩

/-- Away from leap seconds the seconds between two clocks are those that one was moved on by. -/
theorem seconds_since_shiftSeconds? (ht : t.isLeap = false) (h : t.shiftSeconds? n = some u) :
    (u.since t).seconds = n := by
  obtain ⟨hEnd, span, hSpan, hMoved⟩ := shiftSeconds?_ordinary ht h
  refine seconds_since_of_position ht hEnd ?_
  rw [hMoved, Span.nanos_of_ofSeconds? hSpan]
  rfl

end Instant

-- ---------------------------------------------------------------------------
-- Exact seconds
-- ---------------------------------------------------------------------------

/-- Seconds are cut off to whole ones within the tolerance. -/
theorem Travel.advance_bounds (carried predicted : ℚ) :
    (advance carried predicted none).2 =
        max (predicted + carried) 0 - (advance carried predicted none).1 ∧
      -(1 / 1000000) ≤ (advance carried predicted none).2 ∧
      (advance carried predicted none).2 < 1 := by
  obtain ⟨seconds, hSeconds⟩ : ∃ x : ℚ, x = max (predicted + carried) 0 := ⟨_, rfl⟩
  have hNonneg : 0 ≤ seconds := hSeconds ▸ le_max_right _ _
  have hPositive : Measure.positivePart (predicted + carried) = seconds := by
    rw [hSeconds, max_comm]
    exact (max_def_lt 0 (predicted + carried)).symm
  have hAdvance : advance carried predicted none =
      ((seconds + 1 / 1000000).floor.toNat,
        seconds - ((seconds + 1 / 1000000).floor.toNat : Nat)) := by
    unfold advance remaining
    dsimp only
    rw [hPositive]
    rfl
  have hFloor : 0 ≤ (seconds + 1 / 1000000).floor := Rat.le_floor_iff.2 (by push_cast; linarith)
  have hWhole : (((seconds + 1 / 1000000).floor.toNat : Nat) : ℚ) =
      ((seconds + 1 / 1000000).floor : ℚ) := by
    rw [← Int.cast_natCast, Int.toNat_of_nonneg hFloor]
  have hBelow := Rat.floor_le (seconds + 1 / 1000000)
  have hAbove := Rat.lt_floor_add_one (seconds + 1 / 1000000)
  push_cast at hAbove
  rw [hAdvance, ← hSeconds]
  dsimp only
  rw [hWhole]
  exact ⟨rfl, by linarith, by linarith⟩

/-- How far the predictions are ahead of the clock after some stops, and what is carried then. -/
structure Drift (stops : Nat) (drift carried : ℚ) : Prop where
  /-- The drift is what is carried, less what was forgotten on the way. -/
  le_carried : drift ≤ carried
  carried_lt : carried < 1
  /-- No more than a tolerance is forgotten at each stop. -/
  carried_le : carried ≤ drift + stops * (1 / 1000000)
  nonneg : 0 ≤ drift + stops * (1 / 1000000)

/-- What is cut off at a stop is carried to the next, and no more than a tolerance is forgotten. -/
theorem Drift.next {stops : Nat} {drift carried predicted : ℚ} (h : Drift stops drift carried)
    (hPredicted : 0 ≤ predicted) :
    Drift (stops + 1) (drift + (predicted - (Travel.advance carried predicted none).1))
      (Travel.advance carried predicted none).2 := by
  obtain ⟨hRest, hLow, hHigh⟩ := Travel.advance_bounds carried predicted
  obtain ⟨hCarried, -, hCovered, hNonneg⟩ := h
  generalize ((Travel.advance carried predicted none).1 : ℚ) = whole at *
  generalize (Travel.advance carried predicted none).2 = rest at *
  rcases le_total 0 (predicted + carried) with hSome | hNone
  · rw [max_eq_left hSome] at hRest
    constructor <;> push_cast <;> linarith
  · -- less is predicted than is missing
    rw [max_eq_right hNone] at hRest
    constructor <;> push_cast <;> linarith

-- ---------------------------------------------------------------------------
-- Walks that no limit holds up
-- ---------------------------------------------------------------------------

/-- The same way for other predicted seconds, in exact numbers. -/
def Way.exactly (seconds : ℚ) : Way Float → Way ℚ
  | .passed => .passed
  | .here bound => .here bound
  | .ahead _ left bound => .ahead seconds (left.map fun x => Nearness.value x.toModel.unpack) bound

/-- The same leg for other predicted seconds, in exact numbers. -/
def Leg.exactly (leg : Leg Float) (seconds : ℚ) : Leg ℚ :=
  ⟨leg.stop, leg.source, leg.way.exactly seconds⟩

/-- Whether a leg leads all the way to a stop ahead, in some seconds. -/
def Leg.TravelsFor (leg : Leg ℚ) (seconds : ℚ) : Prop :=
  ∃ bound, leg.way = .ahead seconds none bound

namespace Walk

variable {d : Deviation} {w next : WalkState ℚ} {u : StopUpdate} {leg : Leg ℚ}
  {rest legs : List (Leg ℚ)} {seconds : ℚ}

/-- The first legs of a walk are reported as they are in the whole walk. -/
theorem updates_take {α : Type} [Measure α] (legs : List (Leg α)) :
    ∀ {w : WalkState α} (j : Nat), (run d w (legs.take j)).1 = (run d w legs).1.take j := by
  induction legs with
  | nil =>
    intro w j
    rw [List.take_nil, run, List.take_nil]
  | cons leg rest ih =>
    intro w j
    cases j with
    | zero => rfl
    | succ j =>
      rw [List.take_succ_cons, run, run]
      cases step d w leg with
      | none => rfl
      | some reported => exact congrArg (reported.1 :: ·) (ih j)

/-- Where no limit holds up a walk, a leg moves the clock by its whole seconds, and none holds up
the rest of the walk. -/
theorem step_of_unlimited (hAhead : leg.TravelsFor seconds) (hStep : step d w leg = some (u, next))
    (hFree : (run d w (leg :: rest)).1 = (run d w ((leg :: rest).map Leg.unlimited)).1) :
    w.clock.shiftSeconds? (Travel.advance w.carried seconds none).1 = some next.clock ∧
      next.carried = (Travel.advance w.carried seconds none).2 ∧
      (run d next rest).1 = (run d next (rest.map Leg.unlimited)).1 := by
  obtain ⟨bound, hWay⟩ := hAhead
  have hTaken := hStep
  unfold step at hStep
  rw [hWay] at hStep
  obtain ⟨reached, hReached, hMade⟩ := Option.map_eq_some_iff.1 hStep
  cases hMade
  have hUnlimited : step d w leg.unlimited =
      some (.arrival leg.stop reached leg.source .future,
        ⟨reached, (Travel.advance w.carried seconds none).2⟩) := by
    unfold step Leg.unlimited
    rw [hWay]
    exact congrArg (Option.map _) hReached
  rw [List.map_cons, run_cons hTaken, run_cons hUnlimited] at hFree
  obtain ⟨hHead, hRest⟩ := List.cons.inj hFree
  have hSame : notBefore reached bound = reached := congrArg StopUpdate.predictedArrival hHead
  rw [hSame] at hRest ⊢
  exact ⟨hReached, rfl, hRest⟩

/-- After each stop of a walk that no limit holds up, the clock has moved by whole seconds, and the
drift is what it was, with the predicted seconds added and the whole ones taken off. -/
theorem drift_run (legs : List (Leg ℚ)) : ∀ {predicted : Nat → ℚ} {w : WalkState ℚ} {stops : Nat}
    {drift : ℚ}, (∀ i leg, legs[i]? = some leg → 0 ≤ predicted i ∧ leg.TravelsFor (predicted i)) →
      (run d w legs).1 = (run d w (legs.map Leg.unlimited)).1 → Drift stops drift w.carried →
        ∀ j ≤ (run d w legs).1.length, ∃ n : Nat,
          w.clock.shiftSeconds? n = some (run d w (legs.take j)).2.clock ∧
            Drift (stops + j) (drift + (∑ i ∈ Finset.range j, predicted i - n))
              (run d w (legs.take j)).2.carried := by
  induction legs with
  | nil =>
    intro predicted w stops drift _ _ hDrift j hj
    obtain rfl : j = 0 := Nat.le_zero.1 hj
    refine ⟨0, w.clock.shiftSeconds?_zero, ?_⟩
    simpa [run] using hDrift
  | cons leg rest ih =>
    intro predicted w stops drift hAhead hFree hDrift j hj
    cases j with
    | zero =>
      refine ⟨0, w.clock.shiftSeconds?_zero, ?_⟩
      simpa [run] using hDrift
    | succ j =>
      obtain ⟨hNonneg, hTravels⟩ := hAhead 0 leg rfl
      cases hStep : step d w leg with
      | none =>
        rw [run, hStep] at hj
        cases hj
      | some reported =>
        -- the first leg adds to the drift, and the others go on from there
        obtain ⟨u, next⟩ := reported
        obtain ⟨hClock, hCarried, hRest⟩ := step_of_unlimited hTravels hStep hFree
        have hNext := hDrift.next hNonneg
        rw [← hCarried] at hNext
        rw [run_cons hStep] at hj
        obtain ⟨n, hLater, hDrift'⟩ := ih (fun i l hl => hAhead (i + 1) l hl) hRest hNext j
          (Nat.le_of_succ_le_succ hj)
        rw [List.take_succ_cons, run_cons hStep]
        refine ⟨(Travel.advance w.carried (predicted 0) none).1 + n,
          Instant.shiftSeconds?_add hClock hLater, ?_⟩
        rw [Finset.sum_range_succ', Nat.cast_add]
        convert hDrift' using 1
        · omega
        · ring

end Walk

namespace UpdateRules

/-- The legs of stop predictions, for predicted seconds in exact numbers. -/
def exactLegs (rules : UpdateRules) (d : Deviation) (stops : List Stop)
    (predictions : List StopPrediction) (predicted : Nat → ℚ) : List (Leg ℚ) :=
  (rules.legs d stops predictions).mapIdx fun i leg => leg.exactly (predicted i)

/-- A vehicle that is not beyond the stop before has all of the way to a stop ahead left. -/
theorem travelsFor_exactly {rules : UpdateRules} {d : Deviation} {a b : Stop} {x : StopPrediction}
    (hFuture : disposition d b = .future) (hBefore : d.progress ≤ a.distance) (seconds : ℚ) :
    ((rules.leg d a b x).exactly seconds).TravelsFor seconds := by
  unfold Leg.exactly leg partLeft
  rw [hFuture, if_pos hBefore]
  exact ⟨_, rfl⟩

/-- The vehicle is before all stops of a row and not past the one that the row starts from, no limit
holds up the walk, and nothing is carried at its start. Then at each stop the clock is behind the
predicted seconds by less than one, and ahead of them by at most a tolerance for each stop so
far. -/
theorem clock_keeps_up_with_predictions (rules : UpdateRules) (d : Deviation) (stops : List Stop)
    (predictions : List StopPrediction) (predicted : Nat → ℚ) (w : WalkState ℚ)
    (hStops : ∀ x ∈ predictions, ∀ a ∈ stops[x.origin]?, ∀ b ∈ stops[x.target]?,
      disposition d b = .future ∧ d.progress ≤ a.distance)
    (hFree : (Walk.run d w (rules.exactLegs d stops predictions predicted)).1 =
      (Walk.run d w ((rules.exactLegs d stops predictions predicted).map Leg.unlimited)).1)
    (hPredicted : ∀ i, 0 ≤ predicted i) (hStart : w.carried = 0) :
    let legs := rules.exactLegs d stops predictions predicted
    ∀ j ≤ (Walk.run d w legs).1.length,
      let after := Walk.run d w (legs.take j)
      after.1 = (Walk.run d w legs).1.take j ∧
      ∃ n : Nat, w.clock.shiftSeconds? n = some after.2.clock ∧
        (w.clock.isLeap = false → (after.2.clock.since w.clock).seconds = n) ∧
        ∑ i ∈ Finset.range j, predicted i - n < 1 ∧
        -(j / 1000000) ≤ ∑ i ∈ Finset.range j, predicted i - n := by
  intro legs j hj after
  have hAhead : ∀ i leg, legs[i]? = some leg → 0 ≤ predicted i ∧ leg.TravelsFor (predicted i) := by
    intro i leg hLeg
    have hFound := List.getElem?_mapIdx.symm.trans hLeg
    obtain ⟨plain, hPlain, rfl⟩ := Option.map_eq_some_iff.1 hFound
    obtain ⟨x, a, b, hx, ha, hb, rfl⟩ := getElem?_legs predictions hPlain
    obtain ⟨hFuture, hBefore⟩ := hStops x (List.mem_of_getElem? hx) a ha b hb
    exact ⟨hPredicted i, travelsFor_exactly hFuture hBefore (predicted i)⟩
  have hNone : Drift 0 0 w.carried := by
    rw [hStart]
    constructor <;> norm_num
  obtain ⟨n, hClock, hDrift⟩ := Walk.drift_run legs hAhead hFree hNone j hj
  have hBehind := hDrift.le_carried.trans_lt hDrift.carried_lt
  have hAheadBy := hDrift.nonneg
  rw [zero_add] at hBehind hAheadBy
  rw [Nat.zero_add] at hAheadBy
  exact ⟨Walk.updates_take legs j, n, hClock,
    fun hLeap => Instant.seconds_since_shiftSeconds? hLeap hClock, hBehind, by linarith⟩

end UpdateRules

namespace Sample

/-- Three stops of a trip in a row. -/
def threeAhead : List StopPrediction :=
  [⟨0, 1, 60, .schedule, true⟩, ⟨1, 2, 60, .schedule, true⟩, ⟨2, 3, 60, .schedule, true⟩]

/-- Almost a second, none at all, and a hundred seconds and two thirds. -/
def crumbs : Nat → ℚ
  | 0 => 1 - 1 / 2000000
  | 1 => 0
  | _ => 100 + 2 / 3

end Sample

namespace UpdateRules

/-- Half a tolerance less than a second counts as a second, and what is missing is forgotten. -/
theorem clock_ahead_by_half_a_tolerance :
    let rules : UpdateRules := ⟨⟨60000000000⟩⟩
    let w : WalkState ℚ := ⟨Sample.clock 1500, 0⟩
    let legs :=
      rules.exactLegs Sample.deviation Sample.halfWay.stops Sample.threeAhead Sample.crumbs
    (Walk.run Sample.deviation w legs).1.map StopUpdate.predictedArrival =
        [Sample.clock 1501, Sample.clock 1501, Sample.clock 1601] ∧
      ∃ n : Nat, w.clock.shiftSeconds? n = some (Walk.run Sample.deviation w legs).2.clock ∧
        ∑ i ∈ Finset.range 3, Sample.crumbs i - n < 1 ∧
        -(3 / 1000000) ≤ ∑ i ∈ Finset.range 3, Sample.crumbs i - n := by
  intro rules w legs
  have hStops : ∀ x ∈ Sample.threeAhead, ∀ a ∈ Sample.halfWay.stops[x.origin]?,
      ∀ b ∈ Sample.halfWay.stops[x.target]?,
        disposition Sample.deviation b = .future ∧ Sample.deviation.progress ≤ a.distance := by
    decide +kernel
  have hFree : (Walk.run Sample.deviation w legs).1 =
      (Walk.run Sample.deviation w (legs.map Leg.unlimited)).1 := by decide +kernel
  have hPredicted : ∀ i, 0 ≤ Sample.crumbs i := by
    intro i
    unfold Sample.crumbs
    split <;> norm_num
  have hThree : 3 ≤ (Walk.run Sample.deviation w legs).1.length := by decide +kernel
  obtain ⟨-, n, hClock, -, hBehind, hAhead⟩ := clock_keeps_up_with_predictions rules
    Sample.deviation Sample.halfWay.stops Sample.threeAhead Sample.crumbs w hStops hFree hPredicted
    rfl 3 hThree
  exact ⟨by decide +kernel, n, hClock, hBehind, hAhead⟩

end UpdateRules

end TransitForecast
