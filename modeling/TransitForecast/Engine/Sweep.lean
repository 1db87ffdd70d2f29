import TransitForecast.Engine.Basic

/-!
# TransitForecast — sweeping

A sweep removes what has expired from all three stores.
-/

namespace TransitForecast.Engine

/-- Removes parked batches that have expired, predictors of trips that ended too long ago, and
observed transitions that no longer count. -/
def sweepStores (e : Engine) (now : Instant) : Engine :=
  { e with
    batches := e.batches.sweep now
    predictors := e.predictors.sweep now e.settings.predictorLifetime
    transitions := e.transitions.sweep now }

/-- What a sweep did, by the sizes of the stores before and after it. -/
def sweepReport (before after : Engine) (now : Instant) : SweepReport :=
  ⟨now, ⟨before.batches.parkedCount, after.batches.parkedCount⟩,
    ⟨before.predictors.size, after.predictors.size⟩,
    ⟨before.transitions.size, after.transitions.size⟩, 0⟩

/-- Shows what a sweep did in the metrics. -/
def measureSweep (r : SweepReport) (m : Metrics) : Metrics :=
  (((m.add .batchesExpired r.batches.removed).set .pendingBatches r.batches.after).set
    Metric.predictorCache r.predictors.after).set Metric.transitionCache r.transitions.after

/-- Sweeps the stores. -/
def sweep (e : Engine) (now : Instant) : SweepReport × Engine :=
  let after := e.sweepStores now
  let report := sweepReport e after now
  (report, { after.measure (measureSweep report) with lastSweep := some report })

end TransitForecast.Engine
