import TransitForecast.Proofs.Stores

/-!
# TransitForecast — which settings an engine starts with

Settings count their durations in whole seconds, and the horizon in minutes. Of these numbers the
check asks only that the lifetime of a batch is positive. Each of them becomes a span on the way to
an engine: the lifetimes first, then the horizon and the early limit. There are whole numbers of 64
bits that no span has, so settings that pass the check may still start no engine. Nothing else keeps
them from it, whatever zones there are.

## Results

* `Settings.check_eq_ok_iff`       — what the check asks of settings.
* `Settings.engineSettings_cases`  — what an engine runs with, as far as the lifetimes fit.
* `Engine.start?_isSome_iff`       — an engine starts when its horizon and its early limit fit.
* `Settings.accepted_settings_start_iff` — when settings that pass the check start an engine.
-/

namespace TransitForecast

/-- Whether there is a span of this number of whole seconds. -/
def Span.Counts (seconds : Int) : Prop := -maxSeconds ≤ seconds ∧ seconds ≤ maxSeconds

instance (seconds : Int) : Decidable (Span.Counts seconds) := inferInstanceAs (Decidable (_ ∧ _))

theorem Span.ofSeconds?_isSome_iff {seconds : Int} :
    (ofSeconds? seconds).isSome = true ↔ Counts seconds := by
  unfold ofSeconds? Counts
  split
  · rename_i h
    exact ⟨fun _ => h, fun _ => rfl⟩
  · rename_i h
    exact ⟨nofun, fun hCounts => absurd hCounts h⟩

namespace Settings

variable {s accepted : Settings} {zones : ZoneTable}

-- ---------------------------------------------------------------------------
-- The check
-- ---------------------------------------------------------------------------

/-- What the check asks of settings where there are some zones. -/
structure Acceptable (s : Settings) (zones : ZoneTable) : Prop where
  buckets : s.buckets ≠ 0
  batch : 0 < s.batchSeconds
  zone : ∃ zone, zones s.zone = some zone
  holidays : ∃ dates, s.holidayDates = .ok dates

/-- The check returns the settings as they are, or refuses them. -/
theorem check_eq_ok_iff :
    s.check zones = .ok accepted ↔ accepted = s ∧ s.Acceptable zones := by
  unfold check zone?
  by_cases hBuckets : s.buckets = 0
  · rw [if_pos hBuckets]
    exact ⟨nofun, fun h => absurd hBuckets h.2.buckets⟩
  rw [if_neg hBuckets]
  by_cases hBatch : s.batchSeconds ≤ 0
  · rw [if_pos hBatch]
    refine ⟨nofun, fun h => ?_⟩
    have := h.2.batch
    omega
  rw [if_neg hBatch]
  cases hZone : zones s.zone with
  | none =>
    refine ⟨nofun, fun h => ?_⟩
    obtain ⟨zone, hFound⟩ := h.2.zone
    rw [hZone] at hFound
    cases hFound
  | some zone =>
    cases hDates : s.holidayDates with
    | error e =>
      refine ⟨nofun, fun h => ?_⟩
      obtain ⟨dates, hFound⟩ := h.2.holidays
      rw [hDates] at hFound
      cases hFound
    | ok dates =>
      constructor
      · intro h
        cases h
        exact ⟨rfl, hBuckets, by omega, ⟨zone, hZone⟩, ⟨dates, hDates⟩⟩
      · rintro ⟨rfl, -⟩
        rfl

-- ---------------------------------------------------------------------------
-- Spans
-- ---------------------------------------------------------------------------

/-- Whether there are spans for the lifetimes: of batches, of predictors and of transitions. -/
structure LifetimesFit (s : Settings) : Prop where
  batch : Span.Counts s.batchSeconds
  predictor : Span.Counts s.predictorSeconds
  transition : Span.Counts s.transitionSeconds

/-- Whether there are spans for the horizon and for the early limit. -/
structure LimitsFit (s : Settings) : Prop where
  horizon : Span.Counts (s.horizonMinutes * 60)
  early : Span.Counts s.earlySeconds

instance (s : Settings) : Decidable s.LifetimesFit :=
  decidable_of_iff (Span.Counts s.batchSeconds ∧ Span.Counts s.predictorSeconds ∧
    Span.Counts s.transitionSeconds)
    ⟨fun h => ⟨h.1, h.2.1, h.2.2⟩, fun h => ⟨h.batch, h.predictor, h.transition⟩⟩

instance (s : Settings) : Decidable s.LimitsFit :=
  decidable_of_iff (Span.Counts (s.horizonMinutes * 60) ∧ Span.Counts s.earlySeconds)
    ⟨fun h => ⟨h.1, h.2⟩, fun h => ⟨h.horizon, h.early⟩⟩

/-- A number of seconds becomes a span, or is beyond all of them. -/
theorem span?_cases (seconds : Int) :
    (Span.Counts seconds ∧ ∃ span, span? seconds = .ok span) ∨
      (¬ Span.Counts seconds ∧ span? seconds = .error .overflow) := by
  rw [← Span.ofSeconds?_isSome_iff]
  unfold span?
  cases Span.ofSeconds? seconds with
  | none => exact .inr ⟨nofun, rfl⟩
  | some span => exact .inl ⟨rfl, span, rfl⟩

/-- Settings of a known zone say what an engine runs with exactly when their lifetimes fit, and
otherwise they overflow. -/
theorem engineSettings_cases {zone : Zone} (hZone : zones s.zone = some zone) :
    (s.LifetimesFit ∧ ∃ settings, s.engineSettings zones = .ok settings ∧
      settings.horizonMinutes = s.horizonMinutes ∧ settings.earlySeconds = s.earlySeconds) ∨
    (¬ s.LifetimesFit ∧ s.engineSettings zones = .error .overflow) := by
  unfold engineSettings zone?
  rcases span?_cases s.batchSeconds with ⟨hBatch, _, hSpan⟩ | ⟨hBatch, hNone⟩
  · rw [hSpan]
    rcases span?_cases s.predictorSeconds with ⟨hPredictor, _, hSpan⟩ | ⟨hPredictor, hNone⟩
    · rw [hSpan]
      rcases span?_cases s.transitionSeconds with ⟨hTransition, _, hSpan⟩ | ⟨hTransition, hNone⟩
      · rw [hSpan, hZone]
        exact .inl ⟨⟨hBatch, hPredictor, hTransition⟩, _, rfl, rfl, rfl⟩
      · rw [hNone]
        exact .inr ⟨fun h => hTransition h.transition, rfl⟩
    · rw [hNone]
      exact .inr ⟨fun h => hPredictor h.predictor, rfl⟩
  · rw [hNone]
    exact .inr ⟨fun h => hBatch h.batch, rfl⟩

end Settings

/-- An engine starts when there are spans for its horizon and its early limit. -/
theorem Engine.start?_isSome_iff {settings : EngineSettings} {trips : Timetable}
    {models : ModelRegistry} {holidays : Holidays} {refusedTrips : List String} {wall : Instant} :
    (start? settings trips models holidays refusedTrips wall).isSome = true ↔
      Span.Counts (settings.horizonMinutes * 60) ∧ Span.Counts settings.earlySeconds := by
  rw [← Span.ofSeconds?_isSome_iff, ← Span.ofSeconds?_isSome_iff]
  unfold start? Span.ofMinutes?
  cases Span.ofSeconds? (settings.horizonMinutes * 60) with
  | none => simp
  | some horizon => cases Span.ofSeconds? settings.earlySeconds <;> simp

namespace Settings

/-- Settings that pass the check say what an engine runs with exactly when there are spans for their
lifetimes, and such an engine starts exactly when there are spans for its horizon and its early
limit, whatever zones there are, and whatever trips, models and holidays it starts with. A span that
is missing is the only reason why there is none. -/
theorem accepted_settings_start_iff {zones : ZoneTable} {s accepted : Settings}
    (h : s.check zones = .ok accepted) (trips : Timetable) (models : ModelRegistry)
    (holidays : Holidays) (refusedTrips : List String) (wall : Instant) :
    accepted = s ∧
    ((∃ settings, s.engineSettings zones = .ok settings) ↔ s.LifetimesFit) ∧
    (∀ e, s.engineSettings zones = .error e → e = .overflow) ∧
    ∀ settings, s.engineSettings zones = .ok settings →
      ((∃ e, Engine.start? settings trips models holidays refusedTrips wall = some e) ↔
        s.LimitsFit) := by
  obtain ⟨rfl, hAccepted⟩ := check_eq_ok_iff.1 h
  obtain ⟨zone, hZone⟩ := hAccepted.zone
  refine ⟨rfl, ?_⟩
  rcases engineSettings_cases hZone with ⟨hFit, settings, hEngine, hHorizon, hEarly⟩ |
    ⟨hUnfit, hOverflow⟩
  · rw [hEngine]
    refine ⟨⟨fun _ => hFit, fun _ => ⟨settings, rfl⟩⟩, nofun, fun found hFound => ?_⟩
    cases hFound
    rw [← Option.isSome_iff_exists, Engine.start?_isSome_iff, hHorizon, hEarly]
    exact ⟨fun hLimits => ⟨hLimits.1, hLimits.2⟩, fun hLimits => ⟨hLimits.horizon, hLimits.early⟩⟩
  · rw [hOverflow]
    refine ⟨⟨fun hFound => ?_, fun hFit => absurd hFit hUnfit⟩, fun e hEq => ?_,
      fun settings hFound => ?_⟩
    · obtain ⟨_, hFound⟩ := hFound
      cases hFound
    · cases hEq
      rfl
    · cases hFound

/-- Settings that ask for the longest spans there are, forward and back. -/
def longestSpans : Settings :=
  { default "longest" with
    batchSeconds := 9223372036854775
    predictorSeconds := -9223372036854775
    transitionSeconds := 9223372036854775
    earlySeconds := -9223372036854775
    horizonMinutes := 153722867280912 }

/-- With the longest spans there are an engine starts. -/
theorem longest_spans_start :
    longestSpans.check Sample.zones = .ok longestSpans ∧
    ∃ settings e, longestSpans.engineSettings Sample.zones = .ok settings ∧
      Engine.start? settings .empty .empty ⟨[]⟩ [] .epoch = some e := by
  have hCheck : longestSpans.check Sample.zones = .ok longestSpans :=
    check_eq_ok_iff.2 ⟨rfl, by decide, by decide, ⟨Sample.losAngeles, rfl⟩, ⟨[], rfl⟩⟩
  obtain ⟨-, hLifetimes, -, hLimits⟩ :=
    accepted_settings_start_iff hCheck .empty .empty ⟨[]⟩ [] .epoch
  obtain ⟨settings, hEngine⟩ := hLifetimes.2 (by decide)
  obtain ⟨e, hStart⟩ := (hLimits settings hEngine).2 (by decide)
  exact ⟨hCheck, settings, e, hEngine, hStart⟩

/-- A settings file may ask for a lifetime or for a horizon that no span has. It is read and passes
the check, and the one is not made into settings of an engine, the other starts no engine. -/
theorem accepted_but_not_started :
    (load Sample.zones (.contents "\x7b\"batch_ttl_secs\": 9223372036854775807\x7d") []).toOption =
      some { default defaultName with batchSeconds := 9223372036854775807 } ∧
    { default defaultName with batchSeconds := 9223372036854775807 }.engineSettings Sample.zones =
      .error .overflow ∧
    (load Sample.zones (.contents "\x7b\"max_prediction_minutes\": 9223372036854775807\x7d")
      []).toOption = some { default defaultName with horizonMinutes := 9223372036854775807 } ∧
    ∃ settings, { default defaultName with horizonMinutes := 9223372036854775807 }.engineSettings
        Sample.zones = .ok settings ∧
      (Engine.start? settings .empty .empty ⟨[]⟩ [] .epoch).isSome = false :=
  ⟨by decide +kernel, rfl, by decide +kernel, _, rfl, rfl⟩

end Settings

end TransitForecast
