import TransitForecast.Inference.Batch
import TransitForecast.Update.Walk

/-!
# TransitForecast — building trip updates

From the stop predictions of a trip to its legs, and from the legs to the update.
Within a batch the clock of one trip starts where that of the trip before it ended.
-/

namespace TransitForecast

/-- The first stop that an update reports. -/
inductive Opening
  /-- A trip without stops has none. -/
  | nothing
  /-- A stop that stands for those the vehicle has passed. -/
  | assumed (stop : Stop)
  /-- The first stop of the trip, which the vehicle has passed. -/
  | passed (stop : Stop) (source : Source)
  /-- The first stop of the trip. -/
  | origin (stop : Stop) (source : Source) (status : Disposition)

/-- How trip updates are built. -/
structure UpdateRules where
  /-- By how much a vehicle may leave a timepoint early. -/
  earlyLimit : Span
  deriving DecidableEq

namespace UpdateRules

/-- Seconds of the early limit unless the settings say otherwise. -/
def defaultEarlySeconds : Int := 60

/-- The earliest arrival at a stop. -/
def earliestArrival (rules : UpdateRules) (s : Stop) : Instant :=
  (s.arrival.shift? rules.earlyLimit.neg).getD s.arrival

/-- Position of a stop relative to the vehicle. -/
def disposition (d : Deviation) (s : Stop) : Disposition :=
  Disposition.classify d.progress s.distance

/-- The part of the way between two stops that is left when the vehicle is past the first; `none`
when it is not, or when the distances do not increase. -/
def partLeft (d : Deviation) (origin target : Stop) : Option Float :=
  if d.progress ≤ origin.distance then none
  else
    let total := target.distance - origin.distance
    if total ≤ 0 then none
    else some (Measure.clampUnit ((target.distance - d.progress) / total))

/-- The leg of a stop prediction. -/
def leg (rules : UpdateRules) (d : Deviation) (origin target : Stop) (p : StopPrediction) :
    Leg Float :=
  ⟨target, p.source,
    match disposition d target with
    | .past => .passed
    | .here => .here (if target.timepoint then some (rules.earliestArrival target) else none)
    | .future =>
      .ahead p.seconds (partLeft d origin target)
        (if origin.timepoint ∧ disposition d origin ≠ .past then
          some (rules.earliestArrival target)
        else none)⟩

/-- The legs of stop predictions, up to the end marker. -/
def legs (rules : UpdateRules) (d : Deviation) (stops : List Stop) :
    List StopPrediction → List (Leg Float)
  | [] => []
  | p :: rest =>
    if p.source = .endOfPredictions then []
    else
      match stops[p.origin]?, stops[p.target]? with
      | some origin, some target => rules.leg d origin target p :: rules.legs d stops rest
      | _, _ => []

/-- The first stop to report. -/
def opening (d : Deviation) (stops : List Stop) (predictions : List StopPrediction) : Opening :=
  match predictions.head? with
  | none => stops.getLast?.elim .nothing .assumed
  | some p =>
    if p.origin = 0 then
      match stops.head? with
      | none => .nothing
      | some s =>
        match disposition d s with
        | .past => .passed s p.source
        | status => .origin s p.source status
    else stops[p.origin]?.elim .nothing .assumed

/-- Reports the first stop; `none` when a time leaves the range of instants. -/
def openWalk (d : Deviation) (w : WalkState Float) :
    Opening → Option (List StopUpdate × WalkState Float)
  | .nothing => some ([], w)
  | .assumed s => let (u, w) := Walk.assumedPast d w s; some ([u], w)
  | .passed s source => (Walk.observed d w s source).map fun (u, w) => ([u], w)
  | .origin s source status => let (u, w) := Walk.origin d w s source status; some ([u], w)

/-- The reported stops of a trip and the clock after the last of them, for a clock that starts at
`seed`. -/
def stopUpdates (rules : UpdateRules) (p : TripPrediction) (seed : Instant) :
    List StopUpdate × Instant :=
  let start : WalkState Float := ⟨seed, Measure.zero⟩
  match openWalk p.deviation start (opening p.deviation p.trip.stops p.stops) with
  | none => ([], seed)
  | some (first, w) =>
    let (rest, last) := Walk.run p.deviation w (rules.legs p.deviation p.trip.stops p.stops)
    (first ++ rest, last.clock)

/-- The update of a trip, and the clock after its last reported stop. -/
def build (rules : UpdateRules) (p : TripPrediction) (seed : Instant) : TripUpdate × Instant :=
  let (stops, clock) := rules.stopUpdates p seed
  let d := p.deviation
  (⟨d.trip, d.route, d.vehicle, d.dataSet, d.observedAt, stops⟩, clock)

/-- The updates of trips in order of service; without a clock the first starts at its observation. -/
def buildFrom (rules : UpdateRules) (clock : Option Instant) : List TripPrediction → List TripUpdate
  | [] => []
  | p :: rest =>
    let (update, last) := rules.build p (clock.getD p.deviation.observedAt)
    update :: rules.buildFrom (some last) rest

/-- The updates of a batch. -/
def buildBatch (rules : UpdateRules) (b : Batch) : List TripUpdate := rules.buildFrom none b.trips

end UpdateRules

end TransitForecast
