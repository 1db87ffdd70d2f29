import TransitForecast.Prediction.TripPredictor
import TransitForecast.Schedule.Timetable

/-!
# TransitForecast — cached trip predictors

Building a predictor takes the schedule of its trip, so predictors are kept until
a while after their trips have ended. A request takes four steps, each atomic: look the trip up;
if it is missing, fetch its schedule; build its predictor with the models of the moment; keep it
unless another request was faster.
-/

namespace TransitForecast

/-- What trip predictors are built with. -/
structure PredictorRules where
  trust : Trust
  horizon : Span

/-- Trip predictors by trip. -/
abbrev PredictorCache := Table TripKey TripPredictor

/-- The key of the trip that an observation is about. -/
def Deviation.tripKey (d : Deviation) : TripKey := (d.dataSet, d.trip)

namespace PredictorCache

/-- Seconds for which a predictor outlives its trip unless the settings say otherwise. -/
def defaultLifetimeSeconds : Int := 1800

/-- Keeps a predictor unless the trip has one, and tells which predictor the trip has now. -/
def settle (cache : PredictorCache) (key : TripKey) (built : TripPredictor) :
    TripPredictor × PredictorCache :=
  match cache.find? key with
  | some kept => (kept, cache)
  | none => (built, cache.insert key built)

section Settle

variable {cache : PredictorCache} {key : TripKey}

theorem settle_of_kept {kept : TripPredictor} (h : cache.find? key = some kept)
    (built : TripPredictor) : cache.settle key built = (kept, cache) := by
  rw [settle, h]

theorem settle_of_missing (h : cache.find? key = none) (built : TripPredictor) :
    cache.settle key built = (built, cache.insert key built) := by
  rw [settle, h]

end Settle

/-- The predictor of the trip of an observation, built if it is missing, and the cache after. -/
def getOrBuild (cache : PredictorCache) (rules : PredictorRules) (timetable : Timetable)
    (models : ModelRegistry) (d : Deviation) :
    Except Halt (Except PredictionError TripPredictor × PredictorCache) :=
  match cache.find? d.tripKey with
  | some kept => .ok (.ok kept, cache)
  | none =>
    match timetable.fetch d.tripKey with
    | .error halt => .error halt
    | .ok (.error e) => .ok (.error e, cache)
    | .ok (.ok trip) =>
      let built := TripPredictor.build rules.trust models rules.horizon trip
      let (predictor, cache) := cache.settle d.tripKey built
      .ok (.ok predictor, cache)

/-- Whether a predictor is still worth keeping: its trip has not ended longer ago than the
lifetime. -/
def isLive (now : Instant) (lifetime : Span) (p : TripPredictor) : Bool :=
  match p.trip.lastArrival with
  | some last => now.since last ≤ lifetime
  | none => false

/-- Drops the predictors of trips that ended too long ago. -/
def sweep (cache : PredictorCache) (now : Instant) (lifetime : Span) : PredictorCache :=
  cache.filter fun _ p => isLive now lifetime p

theorem find?_sweep (cache : PredictorCache) (now : Instant) (lifetime : Span) (key : TripKey) :
    (cache.sweep now lifetime).find? key = (cache.find? key).filter (isLive now lifetime) :=
  Table.find?_filter ..

end PredictorCache

end TransitForecast
