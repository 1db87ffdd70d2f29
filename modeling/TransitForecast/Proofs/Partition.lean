import TransitForecast.Proofs.Stores
import TransitForecast.Proofs.Tiling

/-!
# TransitForecast — where a trip is cut

A trip is cut at its timepoints into runs, which begin and end at timepoints or at the ends of the
trip and have no timepoint between. A run is one segment when a trusted model bears its name, else
each of its stop pairs is one. Since the segments tile the trip, each pair of neighbouring stops
lies in exactly one of them.

## Results

* `isRun_of_mem_runsFrom` — what the runs of a trip are.
* `Trust.mem_segments` — a segment of a run is all of it or one of its pairs.
* `Tiles.existsUnique` — each pair of stops lies in one segment.
* `TripPredictor.segments_partition` — all of this for the segments of a trip.
-/

namespace TransitForecast

/-- Position of the last stop of a segment in the trip. -/
def Segment.lastIndex (s : Segment) : Nat := s.firstIndex + (s.stops.length - 1)

-- ---------------------------------------------------------------------------
-- What a tiling says of each segment
-- ---------------------------------------------------------------------------

namespace Tiles

variable {stops : List Stop} {lo hi : Nat} {s : Segment} {segments : List Segment}

theorem head?_firstIndex (h : Tiles stops lo segments hi) (hSome : segments ≠ []) :
    segments.head?.map Segment.firstIndex = some lo := by
  cases segments with
  | nil => exact absurd rfl hSome
  | cons s rest => exact congrArg some h.1

theorem getLast?_lastIndex (h : Tiles stops lo segments hi) (hSome : segments ≠ []) :
    segments.getLast?.map Segment.lastIndex = some hi := by
  induction segments generalizing lo with
  | nil => exact absurd rfl hSome
  | cons s rest ih =>
    obtain ⟨hFirst, -, hRest⟩ := h
    cases rest with
    | nil =>
      have hEnd : s.lastIndex = hi := by
        rw [Segment.lastIndex, hFirst]
        exact hRest
      exact congrArg some hEnd
    | cons t more =>
      rw [List.getLast?_cons_cons]
      exact ih hRest (by simp)

/-- Each segment starts where the one before it ends. -/
theorem isChain (h : Tiles stops lo segments hi) :
    segments.IsChain fun s t => t.firstIndex = s.lastIndex := by
  induction segments generalizing lo with
  | nil => exact .nil
  | cons s rest ih =>
    obtain ⟨hFirst, -, hRest⟩ := h
    cases rest with
    | nil => exact .singleton s
    | cons t more =>
      refine .cons_cons ?_ (ih hRest)
      rw [Segment.lastIndex, hFirst]
      exact hRest.1

theorem le_firstIndex (h : Tiles stops lo segments hi) : ∀ s ∈ segments, lo ≤ s.firstIndex := by
  induction segments generalizing lo with
  | nil => exact nofun
  | cons s rest ih =>
    obtain ⟨hFirst, -, hRest⟩ := h
    intro x hx
    rcases List.mem_cons.1 hx with rfl | hx
    · exact Nat.le_of_eq hFirst.symm
    · exact Nat.le_trans (Nat.le_add_right ..) (ih hRest x hx)

/-- A segment has the stops of the trip from its first position on. -/
theorem isPrefix (h : Tiles stops lo segments hi) :
    ∀ s ∈ segments, s.stops <+: stops.drop s.firstIndex := by
  induction segments generalizing lo with
  | nil => exact nofun
  | cons s rest ih =>
    obtain ⟨hFirst, hStops, hRest⟩ := h
    intro x hx
    rcases List.mem_cons.1 hx with rfl | hx
    · rw [hFirst]
      exact hStops
    · exact ih hRest x hx

/-- Each pair of neighbouring stops lies in one segment. -/
theorem existsUnique (h : Tiles stops lo segments hi) {i : Nat} (hLo : lo ≤ i) (hHi : i < hi) :
    ∃! k : Nat, ∃ s, segments[k]? = some s ∧ s.firstIndex ≤ i ∧ i < s.lastIndex := by
  induction segments generalizing lo with
  | nil =>
    rw [Tiles] at h
    omega
  | cons s rest ih =>
    obtain ⟨hFirst, -, hRest⟩ := h
    have hLast : s.lastIndex = lo + (s.stops.length - 1) := by rw [Segment.lastIndex, hFirst]
    rcases Nat.lt_or_ge i s.lastIndex with hHere | hLater
    · refine ⟨0, ⟨s, rfl, by omega, hHere⟩, ?_⟩
      rintro k ⟨t, hk, hStarts, -⟩
      cases k with
      | zero => rfl
      | succ k =>
        -- the later segments start behind the pair
        have := hRest.le_firstIndex t (List.mem_of_getElem? hk)
        omega
    · obtain ⟨k, ⟨t, hk, hHolds⟩, hOnly⟩ := ih hRest (by omega)
      refine ⟨k + 1, ⟨t, hk, hHolds⟩, ?_⟩
      rintro j ⟨x, hj, hStarts, hEnds⟩
      cases j with
      | zero =>
        cases hj
        omega
      | succ j => exact congrArg (· + 1) (hOnly j ⟨x, hj, hStarts, hEnds⟩)

end Tiles

-- ---------------------------------------------------------------------------
-- Runs
-- ---------------------------------------------------------------------------

/-- Whether a trip may be cut at a position: at its ends and at its timepoints. -/
def IsBoundary (stops : List Stop) (i : Nat) : Prop :=
  i = 0 ∨ i = stops.length - 1 ∨ ∃ s, stops[i]? = some s ∧ s.timepoint = true

/-- Two or more stops of a trip between boundaries that follow each other. -/
structure IsRun (stops : List Stop) (lo : Nat) (run : List Stop) : Prop where
  twoStops : 2 ≤ run.length
  starts : IsBoundary stops lo
  ends : IsBoundary stops (lo + (run.length - 1))
  inside : ∀ i, lo < i → i < lo + (run.length - 1) → ¬ IsBoundary stops i

/-- The runs that follow a started run are runs of the trip. -/
theorem isRun_of_mem_runsFrom {stops rest : List Stop} :
    ∀ {lo : Nat} {run : List Stop}, run ≠ [] → rest ≠ [] → run ++ rest = stops.drop lo →
      IsBoundary stops lo → (∀ i, lo < i → i < lo + run.length → ¬ IsBoundary stops i) →
      ∀ r ∈ runsFrom lo run rest, IsRun stops r.1 r.2 := by
  induction rest with
  | nil => exact fun _ hRest => absurd rfl hRest
  | cons stop rest ih =>
    intro lo run hRun _ hEq hStarts hInside r hr
    have hPos : 0 < run.length := List.length_pos_iff.2 hRun
    have hLength := congrArg List.length hEq
    rw [List.length_append, List.length_cons, List.length_drop] at hLength
    have hNext : stops[lo + run.length]? = some stop := by
      rw [← List.getElem?_drop, ← hEq, List.getElem?_append_right (Nat.le_refl _), Nat.sub_self]
      rfl
    -- the started run with the next stop, when that is a boundary
    have hWhole : IsBoundary stops (lo + run.length) → IsRun stops lo (run ++ [stop]) := by
      intro hEnds
      have hEnd : (run ++ [stop]).length - 1 = run.length := by simp
      refine ⟨?_, hStarts, ?_, ?_⟩
      · rw [List.length_append, List.length_singleton]
        omega
      · rw [hEnd]
        exact hEnds
      · rw [hEnd]
        exact hInside
    cases rest with
    | nil =>
      rw [runsFrom, List.mem_singleton] at hr
      rw [hr]
      rw [List.length_nil] at hLength
      exact hWhole (.inr (.inl (by omega)))
    | cons next rest =>
      rw [List.length_cons] at hLength
      rw [runsFrom] at hr
      by_cases hTimepoint : stop.timepoint = true
      · rw [if_pos hTimepoint] at hr
        have hEnds : IsBoundary stops (lo + run.length) := .inr (.inr ⟨stop, hNext, hTimepoint⟩)
        rcases List.mem_cons.1 hr with rfl | hr
        · exact hWhole hEnds
        · refine ih (by simp) (by simp) (prefix_drop_append hEq) hEnds (fun i hLow hHigh => ?_) r hr
          rw [List.length_singleton] at hHigh
          omega
      · rw [if_neg hTimepoint] at hr
        have hEqNext : (run ++ [stop]) ++ next :: rest = stops.drop lo := by
          rw [List.append_assoc]
          exact hEq
        refine ih (by simp) (by simp) hEqNext hStarts (fun i hLow hHigh => ?_) r hr
        rw [List.length_append, List.length_singleton] at hHigh
        rcases Nat.lt_or_ge i (lo + run.length) with hBefore | hHere
        · exact hInside i hLow hBefore
        · obtain rfl : i = lo + run.length := by omega
          rintro (hZero | hEnd | ⟨s, hs, hsTimepoint⟩)
          · omega
          · omega
          · rw [hNext] at hs
            cases hs
            exact hTimepoint hsTimepoint

/-- The runs of a trip lie between boundaries that follow each other. -/
theorem isRun_of_mem_timepointRuns {stops : List Stop} :
    ∀ r ∈ timepointRuns stops, IsRun stops r.1 r.2 := by
  cases stops with
  | nil => exact nofun
  | cons first rest =>
    cases rest with
    | nil => exact nofun
    | cons next rest =>
      refine isRun_of_mem_runsFrom (by simp) (by simp) rfl (.inl rfl) fun i hLow hHigh => ?_
      rw [List.length_singleton] at hHigh
      omega

-- ---------------------------------------------------------------------------
-- Segments
-- ---------------------------------------------------------------------------

namespace Trust

variable {t : Trust} {models : ModelRegistry} {run : List Stop} {lo : Nat} {s : Segment}

/-- A segment of a run is all of it, with a trusted model of that name, or one of its pairs. -/
theorem mem_segments (h : s ∈ t.segments models run lo) :
    (s.firstIndex = lo ∧ s.stops = run ∧ ∃ model, s.model = some model ∧
      models.find? (TravelModel.nameFor (run.map Stop.id)) = some model ∧
      t.inModel model = true) ∨ s.stops.length = 2 := by
  unfold segments at h
  split at h
  · rename_i model hModel
    unfold wholeRunModel at hModel
    split at hModel
    · rename_i hLong
      obtain ⟨hFound, hTrusted⟩ := Option.filter_eq_some_iff.1 hModel
      obtain ⟨x, hx, hxModel, hxStops, hxFirst⟩ :=
        t.segment?_eq_some (some model) (Nat.le_of_lt hLong) lo
      rw [hx] at h
      obtain rfl : s = x := List.mem_singleton.1 h
      exact .inl ⟨hxFirst, hxStops, model, hxModel, hFound, hTrusted⟩
    · cases hModel
  · obtain ⟨found, hFound, hSome⟩ := List.mem_filterMap.1 h
    obtain rfl : found = some s := hSome
    obtain ⟨i, hi, hPair⟩ := List.mem_mapIdx.1 hFound
    obtain ⟨x, hx, -, hxStops, -⟩ := t.segment?_eq_some
      (models.forRun [(stopPairs run)[i].1, (stopPairs run)[i].2])
      (Nat.le_refl [(stopPairs run)[i].1, (stopPairs run)[i].2].length) (lo + i)
    rw [hPair] at hx
    cases hx
    exact .inr (congrArg List.length hxStops)

end Trust

/-- What a segment of a trip is: a range of two or more of its stops with no timepoint between the
first and the last; if it is longer than a pair of stops, then it reaches from one boundary of the
trip to the next, and its model is trusted and bears the name of its stops. -/
structure Segment.IsPartOf (trust : Trust) (models : ModelRegistry) (stops : List Stop)
    (s : Segment) : Prop where
  twoStops : s.firstIndex < s.lastIndex
  lastIndex_lt : s.lastIndex < stops.length
  stops_eq : s.stops = (stops.drop s.firstIndex).take (s.lastIndex + 1 - s.firstIndex)
  inside : ∀ i, s.firstIndex < i → i < s.lastIndex →
    ∃ stop, stops[i]? = some stop ∧ stop.timepoint = false
  whole : 2 < s.stops.length → IsBoundary stops s.firstIndex ∧ IsBoundary stops s.lastIndex ∧
    ∃ model, s.model = some model ∧
      models.find? (TravelModel.nameFor (s.stops.map Stop.id)) = some model ∧
      trust.inModel model = true

namespace TripPredictor

variable {trust : Trust} {models : ModelRegistry}

/-- Every segment of a trip is a part of it. -/
theorem isPartOf_of_mem_build (horizon : Span) (trip : Trip) :
    ∀ s ∈ (build trust models horizon trip).segments, s.IsPartOf trust models trip.stops := by
  intro s hs
  have hTwo := s.twoStops
  have hPrefix := (tiles_build horizon trip).isPrefix s hs
  have hFits := hPrefix.length_le
  rw [List.length_drop] at hFits
  have hLast : s.lastIndex < trip.stops.length := by
    rw [Segment.lastIndex]
    omega
  have hCount : s.lastIndex + 1 - s.firstIndex = s.stops.length := by
    rw [Segment.lastIndex]
    omega
  obtain ⟨r, hr, hSegment⟩ := List.mem_flatMap.1 hs
  refine ⟨?_, hLast, ?_, ?_, ?_⟩
  · rw [Segment.lastIndex]
    omega
  · rw [hCount]
    exact List.prefix_iff_eq_take.1 hPrefix
  · intro i hLow hHigh
    have hi : i < trip.stops.length := by omega
    refine ⟨_, List.getElem?_eq_getElem hi, Bool.eq_false_iff.2 fun hTimepoint => ?_⟩
    rcases Trust.mem_segments hSegment with ⟨hFirst, hStops, -⟩ | hPair
    · -- a timepoint would be a boundary inside the run
      refine (isRun_of_mem_timepointRuns r hr).inside i (hFirst ▸ hLow) ?_
        (.inr (.inr ⟨_, List.getElem?_eq_getElem hi, hTimepoint⟩))
      rw [← hFirst, ← hStops]
      exact hHigh
    · rw [Segment.lastIndex, hPair] at hHigh
      omega
  · intro hLong
    rcases Trust.mem_segments hSegment with ⟨hFirst, hStops, hModel⟩ | hPair
    · have hRun := isRun_of_mem_timepointRuns r hr
      rw [Segment.lastIndex, hFirst, hStops]
      exact ⟨hRun.starts, hRun.ends, hModel⟩
    · omega

/-- A trip of fewer than two stops has no segments. The segments of any other trip follow each other
without gaps from its first stop to its last, each is a part of the trip, and every pair of
neighbouring stops lies in exactly one of them. -/
theorem segments_partition (trust : Trust) (models : ModelRegistry) (horizon : Span) (trip : Trip) :
    let segments := (build trust models horizon trip).segments
    (trip.stops.length < 2 → segments = []) ∧
    (2 ≤ trip.stops.length →
      segments.head?.map Segment.firstIndex = some 0 ∧
      (segments.IsChain fun s t => t.firstIndex = s.lastIndex) ∧
      segments.getLast?.map Segment.lastIndex = some (trip.stops.length - 1)) ∧
    (∀ s ∈ segments, s.IsPartOf trust models trip.stops) ∧
    ∀ i, i + 1 < trip.stops.length →
      ∃! k : Nat, ∃ s, segments[k]? = some s ∧ s.firstIndex ≤ i ∧ i + 1 ≤ s.lastIndex := by
  intro segments
  have hTiles : Tiles trip.stops 0 segments (trip.stops.length - 1) := tiles_build horizon trip
  have hParts : ∀ s ∈ segments, s.IsPartOf trust models trip.stops :=
    isPartOf_of_mem_build horizon trip
  refine ⟨fun hShort => ?_, fun hLong => ?_, hParts, fun i hi => ?_⟩
  · refine List.eq_nil_iff_forall_not_mem.2 fun s hs => ?_
    have := (hParts s hs).twoStops
    have := (hParts s hs).lastIndex_lt
    omega
  · have hSome : segments ≠ [] := by
      intro hNone
      rw [hNone, Tiles] at hTiles
      omega
    exact ⟨hTiles.head?_firstIndex hSome, hTiles.isChain, hTiles.getLast?_lastIndex hSome⟩
  · exact hTiles.existsUnique (Nat.zero_le i) (by omega)

/-- A trip of five stops with timepoints at the third and the last, of which only the first three
stops have a trusted model: it is cut into one segment of three stops and two of two. -/
theorem segments_partition_of_five_stops :
    let models : ModelRegistry := .ofModels [Sample.model 7 "A_B_C"]
    let segments := (build .default models ⟨3600000000000⟩ Sample.trip).segments
    segments.map Segment.firstIndex = [0, 2, 3] ∧ segments.map Segment.lastIndex = [2, 3, 4] ∧
      (segments.IsChain fun s t => t.firstIndex = s.lastIndex) ∧
      (∀ s ∈ segments, s.IsPartOf .default models Sample.trip.stops) ∧
      ∃! k : Nat, ∃ s, segments[k]? = some s ∧ s.firstIndex ≤ 1 ∧ 2 ≤ s.lastIndex := by
  intro models segments
  obtain ⟨-, hOrder, hParts, hPairs⟩ :=
    segments_partition .default models ⟨3600000000000⟩ Sample.trip
  obtain ⟨-, hChain, -⟩ := hOrder (by decide)
  exact ⟨by decide +kernel, by decide +kernel, hChain, hParts, hPairs 1 (by decide)⟩

end TripPredictor

end TransitForecast
