import Mathlib.Algebra.BigOperators.Ring.List
import Mathlib.Algebra.Order.BigOperators.Group.List
import Mathlib.Algebra.Order.Field.Basic
import Mathlib.Algebra.Order.Ring.Rat
import TransitForecast.Proofs.Stores

/-!
# TransitForecast — shares of a travel time

The travel time of a segment is shared among its stop pairs by rules of arithmetic, which are
followed here in exact numbers. A pair that is scheduled to take no time, or less, has no share as
long as some other pair takes time; if none does, all have the same. Shares do not depend on what is
shared, none is negative, and together they are one. So the parts of a total add up to it, whatever
it is; and when the answer to an inference takes the place of an estimate, the segment takes exactly
the time that was answered.

## Results

* `Allocation.sum_shares` — the shares of a segment are one together.
* `Allocation.divides_split` — how a total is divided.
* `Segment.total_is_conserved` — the predictions of a segment, and those after an answer.
-/

namespace TransitForecast

theorem Measure.sum_eq (xs : List ℚ) : Measure.sum xs = xs.sum := by
  unfold Measure.sum
  rw [List.sum_eq_foldl]
  rfl

namespace Allocation

-- ---------------------------------------------------------------------------
-- Shares
-- ---------------------------------------------------------------------------

/-- Seconds that a pair takes: none when it is scheduled to run backwards. -/
def seconds (n : Int) : ℚ := (max n 0 : Int)

/-- The share of a pair among others. -/
def share (pairs : List Int) (n : Int) : ℚ :=
  if 0 < (pairs.map seconds).sum then seconds n / (pairs.map seconds).sum else 1 / pairs.length

variable {pairs : List Int} {n : Int} {total : ℚ}

theorem seconds_nonneg (n : Int) : 0 ≤ seconds n := Int.cast_nonneg (Int.le_max_right n 0)

theorem seconds_eq_zero (h : n ≤ 0) : seconds n = 0 := by
  rw [seconds, Int.max_eq_right h, Int.cast_zero]

theorem sum_seconds_pos_iff : 0 < (pairs.map seconds).sum ↔ ∃ n ∈ pairs, 0 < n := by
  constructor
  · intro hPos
    by_contra hNone
    push Not at hNone
    have hZero : ∀ x ∈ pairs.map seconds, x = 0 := by
      intro x hx
      obtain ⟨n, hn, rfl⟩ := List.mem_map.1 hx
      exact seconds_eq_zero (hNone n hn)
    rw [List.sum_eq_zero hZero] at hPos
    exact lt_irrefl 0 hPos
  · rintro ⟨n, hn, hPos⟩
    have hAll : ∀ x ∈ pairs.map seconds, 0 ≤ x := by
      intro x hx
      obtain ⟨m, -, rfl⟩ := List.mem_map.1 hx
      exact seconds_nonneg m
    refine lt_of_lt_of_le ?_ (List.single_le_sum hAll _ (List.mem_map_of_mem hn))
    rw [seconds, Int.max_eq_left hPos.le]
    exact Int.cast_pos.2 hPos

theorem shares_eq_map (pairs : List Int) : (shares pairs : List ℚ) = pairs.map (share pairs) := by
  have hTimes : (pairs.map fun n => (Measure.ofInt (max n 0) : ℚ)) = pairs.map seconds := rfl
  unfold shares share
  dsimp only
  rw [hTimes, Measure.sum_eq]
  by_cases hPos : 0 < (pairs.map seconds).sum
  · simp only [if_pos hPos]
    exact (if_pos hPos).trans (List.map_map ..)
  · simp only [if_neg hPos]
    exact (if_neg hPos).trans (List.map_map ..)

theorem share_nonneg (pairs : List Int) (n : Int) : 0 ≤ share pairs n := by
  unfold share
  split
  · exact div_nonneg (seconds_nonneg n) (le_of_lt ‹_›)
  · exact one_div_nonneg.2 (Nat.cast_nonneg _)

/-- All shares are one together. -/
theorem sum_shares (h : pairs ≠ []) : (shares pairs : List ℚ).sum = 1 := by
  rw [shares_eq_map]
  unfold share
  by_cases hPos : 0 < (pairs.map seconds).sum
  · simp only [if_pos hPos, div_eq_mul_inv]
    rw [List.sum_map_mul_right, mul_inv_cancel₀ hPos.ne']
  · have hLength : (pairs.length : ℚ) ≠ 0 := Nat.cast_ne_zero.2 (List.length_pos_iff.2 h).ne'
    simp only [if_neg hPos]
    rw [List.map_const', List.sum_replicate, nsmul_eq_mul, mul_one_div_cancel hLength]

theorem share_le_one (h : n ∈ pairs) : share pairs n ≤ 1 := by
  have hAll : ∀ x ∈ pairs.map (share pairs), 0 ≤ x := by
    intro x hx
    obtain ⟨m, -, rfl⟩ := List.mem_map.1 hx
    exact share_nonneg pairs m
  rw [← sum_shares (List.ne_nil_of_mem h), shares_eq_map]
  exact List.single_le_sum hAll _ (List.mem_map_of_mem h)

-- ---------------------------------------------------------------------------
-- Parts of a total
-- ---------------------------------------------------------------------------

/-- How a total is divided among pairs. -/
structure Divides (pairs : List Int) (total : ℚ) (parts : List ℚ) : Prop where
  /-- There is one part for each pair. -/
  length : parts.length = pairs.length
  sum : parts.sum = total
  between : ∀ x ∈ parts, min 0 total ≤ x ∧ x ≤ max 0 total
  /-- Parts are in proportion to the scheduled times when some pair takes time. -/
  proportional : (∃ n ∈ pairs, 0 < n) → ∀ y ∈ pairs.zip parts,
    y.2 = total * (seconds y.1 / (pairs.map seconds).sum)
  /-- Then a pair that takes none gets none. -/
  idle : (∃ n ∈ pairs, 0 < n) → ∀ y ∈ pairs.zip parts, y.1 ≤ 0 → y.2 = 0
  /-- When no pair takes time all get the same. -/
  even : (∀ n ∈ pairs, n ≤ 0) → ∀ x ∈ parts, x = total / pairs.length

theorem split_eq_map (pairs : List Int) (total : ℚ) :
    split pairs total = pairs.map fun n => total * share pairs n := by
  rw [split, shares_eq_map, List.map_map]
  rfl

theorem mem_zip_split {y : Int × ℚ} (h : y ∈ pairs.zip (split pairs total)) :
    y.1 ∈ pairs ∧ y.2 = total * share pairs y.1 := by
  rw [split_eq_map, ← List.map_prod_left_eq_zip] at h
  obtain ⟨n, hn, rfl⟩ := List.mem_map.1 h
  exact ⟨hn, rfl⟩

theorem mul_between {s : ℚ} (h : 0 ≤ s) (h' : s ≤ 1) :
    min 0 total ≤ total * s ∧ total * s ≤ max 0 total := by
  rcases le_total 0 total with hPos | hNeg
  · rw [min_eq_left hPos, max_eq_right hPos]
    exact ⟨mul_nonneg hPos h, mul_le_of_le_one_right hPos h'⟩
  · rw [min_eq_right hNeg, max_eq_left hNeg]
    exact ⟨le_mul_of_le_one_right hNeg h', mul_nonpos_of_nonpos_of_nonneg hNeg h⟩

/-- What becomes of a total that is shared. -/
theorem divides_split (h : pairs ≠ []) (total : ℚ) : Divides pairs total (split pairs total) where
  length := split_length pairs total
  sum := by
    rw [split, List.sum_map_mul_left, List.map_id', sum_shares h, mul_one]
  between := by
    intro x hx
    rw [split_eq_map] at hx
    obtain ⟨n, hn, rfl⟩ := List.mem_map.1 hx
    exact mul_between (share_nonneg pairs n) (share_le_one hn)
  proportional := by
    intro hSome y hy
    obtain ⟨-, hPart⟩ := mem_zip_split hy
    rw [hPart, share, if_pos (sum_seconds_pos_iff.2 hSome)]
  idle := by
    intro hSome y hy hIdle
    obtain ⟨-, hPart⟩ := mem_zip_split hy
    rw [hPart, share, if_pos (sum_seconds_pos_iff.2 hSome), seconds_eq_zero hIdle, zero_div,
      mul_zero]
  even := by
    intro hNone x hx
    have hZero : ¬ 0 < (pairs.map seconds).sum := by
      rw [sum_seconds_pos_iff]
      rintro ⟨n, hn, hPos⟩
      exact absurd (hNone n hn) (not_le.2 hPos)
    rw [split_eq_map] at hx
    obtain ⟨n, -, rfl⟩ := List.mem_map.1 hx
    rw [share, if_neg hZero, mul_one_div]

end Allocation

/-- A splice of as many elements as it takes away leaves what is around them. -/
theorem TripPrediction.splice_middle {α : Type} {before xs ys after : List α}
    (h : ys.length = xs.length) :
    splice (before ++ xs ++ after) before.length ys = before ++ ys ++ after := by
  have hTake : (before ++ (xs ++ after)).take before.length = before := List.take_left
  have hDrop : (before ++ xs ++ after).drop (before.length + ys.length) = after := by
    rw [h, ← List.length_append]
    exact List.drop_left
  rw [splice, hDrop, List.append_assoc before xs, hTake]

theorem length_pairSeconds (run : List Stop) : (pairSeconds run).length = run.length - 1 := by
  rw [pairSeconds, List.length_map, stopPairs_length]

-- ---------------------------------------------------------------------------
-- Predictions of a segment
-- ---------------------------------------------------------------------------

/-- Predicted travel between two neighbouring stops of a trip, with the seconds in any numbers. -/
structure Portion (α : Type) where
  origin : Nat
  target : Nat
  seconds : α
  source : Source
  complete : Bool

/-- The stop prediction that a portion makes. -/
def Portion.prediction (x : Portion Float) : StopPrediction :=
  ⟨x.origin, x.target, x.seconds, x.source, x.complete⟩

namespace Segment

/-- A travel time shared among the stop pairs, in any numbers. -/
def portions {α : Type} [Measure α] (s : Segment) (total : α) (source : Source) (complete : Bool) :
    List (Portion α) :=
  (Allocation.split (pairSeconds s.stops) total).mapIdx fun i seconds =>
    ⟨s.firstIndex + i, s.firstIndex + i + 1, seconds, source, complete⟩

theorem allocate_eq_portions (s : Segment) (total : Float) (source : Source) (complete : Bool) :
    s.allocate total source complete =
      (s.portions total source complete).map Portion.prediction := by
  refine List.ext_getElem? fun i => ?_
  rw [allocate, portions, List.getElem?_map, List.getElem?_mapIdx, List.getElem?_mapIdx,
    Option.map_map]
  rfl

section Portions

variable {α : Type} [Measure α] {s : Segment} {total : α} {source : Source} {complete : Bool}

theorem map_seconds_portions : (s.portions total source complete).map Portion.seconds =
    Allocation.split (pairSeconds s.stops) total := by
  refine List.ext_getElem? fun i => ?_
  rw [portions, List.getElem?_map, List.getElem?_mapIdx, Option.map_map]
  exact Option.map_id' ..

theorem getElem?_portions {i : Nat} {x : Portion α}
    (h : (s.portions total source complete)[i]? = some x) :
    x.origin = s.firstIndex + i ∧ x.target = s.firstIndex + i + 1 ∧ x.source = source ∧
      x.complete = complete := by
  rw [portions, List.getElem?_mapIdx] at h
  obtain ⟨seconds, -, rfl⟩ := Option.map_eq_some_iff.1 h
  exact ⟨rfl, rfl, rfl, rfl⟩

theorem length_portions :
    (s.portions total source complete).length = s.stops.length - 1 := by
  rw [← List.length_map Portion.seconds, map_seconds_portions, Allocation.split_length,
    length_pairSeconds]

end Portions

/-- A segment has a pair of stops. -/
theorem pairSeconds_ne_nil (s : Segment) : pairSeconds s.stops ≠ [] := by
  have hTwo := s.twoStops
  exact List.length_pos_iff.1 (by rw [length_pairSeconds]; omega)

/-- A segment's predictions are its portions, of a first estimate and of an answer. In exact numbers
there is one for each stop pair, whose seconds divide the total by shares that are the same for
every total. So where an answer takes the place of an estimate among the predictions of a trip,
those of the segment add up to what was answered, and the others stay as they are. -/
theorem total_is_conserved (s : Segment) (source : Source) (complete : Bool) :
    (∀ total : Float,
      s.allocate total source complete =
          (s.portions total source complete).map Portion.prediction ∧
        ∀ (p : TripPrediction) key offset, p.awaiting.find? key = some ⟨s, offset⟩ →
          (p.answer? key total).map TripPrediction.stops =
            some (TripPrediction.splice p.stops offset
              ((s.portions total s.answerSource true).map Portion.prediction))) ∧
    ∀ total : ℚ,
      let made := s.portions total source complete
      made.length = s.stops.length - 1 ∧
      (∀ i x, made[i]? = some x → x.origin = s.firstIndex + i ∧ x.target = s.firstIndex + i + 1 ∧
        x.source = source ∧ x.complete = complete) ∧
      Allocation.Divides (pairSeconds s.stops) total (made.map Portion.seconds) ∧
      made.map Portion.seconds = (Allocation.shares (pairSeconds s.stops)).map (total * ·) ∧
      ∀ (before after : List (Portion ℚ)) (scalar : ℚ),
        let answered := s.portions scalar s.answerSource true
        TripPrediction.splice (before ++ made ++ after) before.length answered =
            before ++ answered ++ after ∧
          answered.length = made.length ∧
          Allocation.Divides (pairSeconds s.stops) scalar (answered.map Portion.seconds) := by
  refine ⟨fun total => ⟨s.allocate_eq_portions total source complete, ?_⟩, fun total => ?_⟩
  · intro p key offset hFound
    rw [TripPrediction.answer?, hFound, ← s.allocate_eq_portions total s.answerSource true]
    rfl
  have hDivides : ∀ (t : ℚ) (source : Source) (complete : Bool),
      Allocation.Divides (pairSeconds s.stops) t
        ((s.portions t source complete).map Portion.seconds) := by
    intro t source complete
    rw [map_seconds_portions]
    exact Allocation.divides_split s.pairSeconds_ne_nil t
  refine ⟨length_portions, fun i x => getElem?_portions, hDivides total source complete,
    map_seconds_portions, fun before after scalar => ?_⟩
  have hLength : (s.portions scalar s.answerSource true).length =
      (s.portions total source complete).length := length_portions.trans length_portions.symm
  exact ⟨TripPrediction.splice_middle hLength, hLength, hDivides scalar s.answerSource true⟩

end Segment

namespace Sample

/-- What is predicted for the way to a segment. -/
def portionBefore : Portion ℚ := ⟨3, 4, 60, .schedule, true⟩

/-- What is predicted for the way from it. -/
def portionAfter : Portion ℚ := ⟨8, 9, 90, .schedule, true⟩

/-- A segment that is scheduled to wait, and to run backwards, between its first and last stop. -/
def unevenSegment : Segment := ⟨none, [stop "A" 1 0 true, stop "B" 2 300 false,
  stop "C" 3 300 false, stop "D" 4 240 false, stop "E" 5 840 true], 4, false, false, by decide,
  nofun⟩

/-- A trip that waits for an answer on that segment. -/
def unevenPrediction : TripPrediction :=
  let stops := trip.stops.take 4 ++ unevenSegment.stops
  ((TripPrediction.start deviation { trip with stops }).appendAwaiting unevenSegment ⟨1, 1⟩
    (unevenSegment.allocate 450 .schedule false)).1

end Sample

namespace Segment

/-- Of an estimate of seven and a half minutes, and of an answer of twenty, the pairs that take no
time get none. -/
theorem total_is_conserved_where_no_time_passes :
    let s := Sample.unevenSegment
    let made := s.portions (450 : ℚ) .schedule false
    let answered := s.portions (1200 : ℚ) s.answerSource true
    made.map Portion.seconds = [150, 0, 0, 300] ∧
      answered.map Portion.seconds = [400, 0, 0, 800] ∧
      Allocation.Divides [300, 0, -60, 600] 450 (made.map Portion.seconds) ∧
      TripPrediction.splice ([Sample.portionBefore] ++ made ++ [Sample.portionAfter]) 1 answered =
        [Sample.portionBefore] ++ answered ++ [Sample.portionAfter] ∧
      Allocation.Divides [300, 0, -60, 600] 1200 (answered.map Portion.seconds) ∧
      let p := Sample.unevenPrediction
      p.awaiting.find? ⟨1, 1⟩ = some ⟨s, 0⟩ ∧
        (p.answer? ⟨1, 1⟩ 1200).map TripPrediction.stops =
          some (TripPrediction.splice p.stops 0
            ((s.portions 1200 s.answerSource true).map Portion.prediction)) := by
  intro s made answered
  obtain ⟨hFloat, hExact⟩ := total_is_conserved s .schedule false
  obtain ⟨-, -, hMade, -, hAnswer⟩ := hExact 450
  obtain ⟨hSplice, -, hAnswered⟩ := hAnswer [Sample.portionBefore] [Sample.portionAfter] 1200
  have hAwaited : Sample.unevenPrediction.awaiting.find? ⟨1, 1⟩ = some ⟨s, 0⟩ := rfl
  exact ⟨by decide +kernel, by decide +kernel, hMade, hSplice, hAnswered, hAwaited,
    (hFloat 1200).2 Sample.unevenPrediction _ 0 hAwaited⟩

end Segment

end TransitForecast
