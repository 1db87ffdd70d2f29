import Mathlib.Data.List.Basic
import TransitForecast.Prediction.TripPredictor

/-!
# TransitForecast — segments tile a trip

However a trip is cut, at its timepoints first and by the models that are trusted then, its segments
follow each other without gaps: each starts at the stop at which the one before it ends, the first
at the first stop of the trip, and the last ends at its last stop.

## Results

* `Trust.tiles_segments` — the segments of a run tile it.
* `TripPredictor.tiles_build` — the segments of a trip tile it.
* `Tiles.dropWhile` — so do the segments that remain when some are skipped, from where they start.
-/

namespace TransitForecast

/-- Segments that follow each other through the stops of a trip, from one position to another. -/
def Tiles (stops : List Stop) : Nat → List Segment → Nat → Prop
  | lo, [], hi => lo = hi
  | lo, s :: rest, hi =>
    s.firstIndex = lo ∧ s.stops <+: stops.drop lo ∧ Tiles stops (lo + (s.stops.length - 1)) rest hi

namespace Tiles

variable {stops : List Stop} {lo hi : Nat} {s : Segment} {segments : List Segment}

theorem append {more : List Segment} {mid : Nat} (h : Tiles stops lo segments mid)
    (h' : Tiles stops mid more hi) : Tiles stops lo (segments ++ more) hi := by
  induction segments generalizing lo with
  | nil =>
    rw [Tiles] at h
    rw [h]
    exact h'
  | cons s rest ih =>
    obtain ⟨hFirst, hStops, hRest⟩ := h
    exact ⟨hFirst, hStops, ih hRest⟩

theorem singleton (hFirst : s.firstIndex = lo) (hStops : s.stops <+: stops.drop lo) :
    Tiles stops lo [s] (lo + (s.stops.length - 1)) :=
  ⟨hFirst, hStops, rfl⟩

theorem le (h : Tiles stops lo segments hi) : lo ≤ hi := by
  induction segments generalizing lo with
  | nil => exact Nat.le_of_eq h
  | cons s rest ih => exact Nat.le_trans (Nat.le_add_right ..) (ih h.2.2)

/-- Every segment starts before the last stop. -/
theorem firstIndex_lt (h : Tiles stops lo segments hi) : ∀ s ∈ segments, s.firstIndex < hi := by
  induction segments generalizing lo with
  | nil => exact nofun
  | cons s rest ih =>
    obtain ⟨hFirst, -, hRest⟩ := h
    intro x hx
    rcases List.mem_cons.1 hx with rfl | hx
    · have hEnd := hRest.le
      have := x.twoStops
      omega
    · exact ih hRest x hx

/-- What remains of a tiling starts at its first segment, or at the end when nothing remains. -/
theorem dropWhile (skip : Segment → Bool) (h : Tiles stops lo segments hi) :
    Tiles stops (((segments.dropWhile skip).head?.map Segment.firstIndex).getD hi)
      (segments.dropWhile skip) hi := by
  induction segments generalizing lo with
  | nil => exact rfl
  | cons s rest ih =>
    rw [List.dropWhile_cons]
    split
    · exact ih h.2.2
    · obtain ⟨hFirst, hStops, hRest⟩ := h
      rw [← hFirst] at hStops hRest
      exact ⟨rfl, hStops, hRest⟩

/-- A position of a segment is a position of the trip. -/
theorem getElem?_stops (hStops : s.stops <+: stops.drop lo) {i : Nat} (hi : i < s.stops.length) :
    s.stops[i]? = stops[lo + i]? := by
  obtain ⟨more, hEq⟩ := hStops
  rw [← List.getElem?_drop, ← hEq, List.getElem?_append_left hi]

end Tiles

-- ---------------------------------------------------------------------------
-- Runs
-- ---------------------------------------------------------------------------

/-- The rest of a list after a prefix without its last element starts with that element. -/
theorem prefix_drop_append {run more stops : List Stop} {last : Stop} {lo : Nat}
    (h : run ++ last :: more = stops.drop lo) :
    last :: more = stops.drop (lo + run.length) := by
  rw [← List.drop_drop, ← h, List.drop_left]

namespace Trust

variable {t : Trust} {models : ModelRegistry} {stops : List Stop}

/-- A run of two stops or more has a segment over all of it. -/
theorem segment?_eq_some (t : Trust) (model : Option TravelModel) {run : List Stop}
    (h : 2 ≤ run.length)
    (lo : Nat) : ∃ s, t.segment? model run lo = some s ∧ s.model = model ∧ s.stops = run ∧
      s.firstIndex = lo := by
  rw [segment?, Segment.ofRun?, dif_pos h]
  exact ⟨_, rfl, rfl, rfl, rfl⟩

/-- Segments over the pairs of a run tile it. -/
theorem tiles_pairs {run : List Stop} :
    ∀ {lo : Nat}, run <+: stops.drop lo →
      Tiles stops lo (((stopPairs run).mapIdx fun i pair =>
        t.segment? (models.forRun [pair.1, pair.2]) [pair.1, pair.2] (lo + i)).filterMap id)
        (lo + (run.length - 1)) := by
  induction run with
  | nil => exact fun _ => rfl
  | cons a rest ih =>
    intro lo hRun
    cases rest with
    | nil => exact rfl
    | cons b rest =>
      obtain ⟨more, hEq⟩ := hRun
      have hRest : b :: rest <+: stops.drop (lo + 1) :=
        ⟨more, @prefix_drop_append [a] _ _ _ _ hEq⟩
      have hPair : [a, b] <+: stops.drop lo := ⟨rest ++ more, hEq⟩
      obtain ⟨s, hs, -, hStops, hFirst⟩ :=
        t.segment?_eq_some (models.forRun [a, b]) (Nat.le_refl [a, b].length) lo
      have hEnd : lo + ((a :: b :: rest).length - 1) = lo + 1 + ((b :: rest).length - 1) := by
        simp only [List.length_cons]
        omega
      show Tiles stops lo ((((a, b) :: stopPairs (b :: rest)).mapIdx _).filterMap id) _
      rw [List.mapIdx_cons, Nat.add_zero, hs, List.filterMap_cons_some (f := id) (b := s) rfl]
      refine ⟨hFirst, hStops ▸ hPair, ?_⟩
      rw [hStops, hEnd]
      show Tiles stops (lo + 1) _ _
      simpa only [Nat.add_assoc, Nat.add_comm 1] using ih hRest

/-- The segments of a run tile it. -/
theorem tiles_segments {run : List Stop} {lo : Nat} (h : 2 ≤ run.length)
    (hRun : run <+: stops.drop lo) :
    Tiles stops lo (t.segments models run lo) (lo + (run.length - 1)) := by
  unfold segments
  cases t.wholeRunModel models run with
  | none => exact tiles_pairs hRun
  | some model =>
    obtain ⟨s, hs, -, hStops, hFirst⟩ := t.segment?_eq_some (some model) h lo
    dsimp only
    rw [hs, ← hStops]
    exact .singleton hFirst (hStops ▸ hRun)

end Trust

-- ---------------------------------------------------------------------------
-- Trips
-- ---------------------------------------------------------------------------

namespace TripPredictor

variable {trust : Trust} {models : ModelRegistry}

/-- The segments of the runs that follow a started run tile what is left of the trip. -/
theorem tiles_runsFrom {stops rest : List Stop} :
    ∀ {lo : Nat} {run : List Stop}, run ≠ [] → rest ≠ [] → run ++ rest = stops.drop lo →
      Tiles stops lo ((runsFrom lo run rest).flatMap fun r => trust.segments models r.2 r.1)
        (stops.length - 1) := by
  induction rest with
  | nil => exact fun _ hRest => absurd rfl hRest
  | cons stop rest ih =>
    intro lo run hRun _ hEq
    have hPos : 0 < run.length := List.length_pos_iff.2 hRun
    have hLength := congrArg List.length hEq
    rw [List.length_append, List.length_cons, List.length_drop] at hLength
    have hWhole : run ++ [stop] <+: stops.drop lo := by
      rw [← hEq]
      exact List.prefix_append_right_inj run |>.2 ⟨rest, rfl⟩
    have hTiles : Tiles stops lo (trust.segments models (run ++ [stop]) lo) _ :=
      Trust.tiles_segments (by rw [List.length_append, List.length_singleton]; omega) hWhole
    rw [List.length_append, List.length_singleton, Nat.add_sub_cancel] at hTiles
    cases rest with
    | nil =>
      -- the run ends at the last stop of the trip
      rw [runsFrom, List.flatMap_singleton]
      have hEnd : lo + run.length = stops.length - 1 := by
        rw [List.length_nil] at hLength
        omega
      rw [← hEnd]
      exact hTiles
    | cons next rest =>
      rw [runsFrom]
      split
      · -- a timepoint ends the run and starts the next one
        rw [List.flatMap_cons]
        exact hTiles.append (ih (by simp) (by simp) (prefix_drop_append hEq))
      · exact ih (by simp) (by simp) (by rw [List.append_assoc]; exact hEq)

/-- The segments of a trip tile it. -/
theorem tiles_build (horizon : Span) (trip : Trip) :
    Tiles trip.stops 0 (build trust models horizon trip).segments (trip.stops.length - 1) := by
  show Tiles trip.stops 0 ((timepointRuns trip.stops).flatMap _) _
  cases hStops : trip.stops with
  | nil => exact rfl
  | cons first rest =>
    rw [timepointRuns]
    cases rest with
    | nil => exact rfl
    | cons next rest => exact tiles_runsFrom (by simp) (by simp) rfl

end TripPredictor

end TransitForecast
