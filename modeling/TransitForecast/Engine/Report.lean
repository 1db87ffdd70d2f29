import TransitForecast.Engine.Publish

/-!
# TransitForecast — handling vehicle reports

A report gives at most one batch for each vehicle. A batch without requests is
published at once; any other is parked before its requests leave, so that no answer can miss it.

A halt leaves the effects of what was done before it.
-/

namespace TransitForecast.Engine

-- ---------------------------------------------------------------------------
-- From a report to the trips of a vehicle
-- ---------------------------------------------------------------------------

/-- The deviations of each vehicle, in the order of the vehicles' ids. -/
def byVehicle (deviations : List Deviation) : List (String × List Deviation) :=
  let vehicles := (deviations.map Deviation.vehicle).eraseDups.mergeSort fun a b => a ≤ b
  vehicles.map fun v => (v, deviations.filter fun d => d.vehicle = v)

/-- The predictor of a deviation's trip. A deviation without schedule is dropped. -/
def predictorOf (e : Engine) (d : Deviation) : Except Halt (Option TripPredictor) × Engine :=
  match e.predictors.getOrBuild e.rules e.timetable e.models d with
  | .error halt => (.error halt, e)
  | .ok (.ok predictor, cache) => (.ok (some predictor), { e with predictors := cache })
  | .ok (.error error, cache) => (.ok none, { e with predictors := cache }.drop error)

/-- The predictors of deviations, in order. -/
def predictorsOf (e : Engine) :
    List Deviation → Except Halt (List (TripPredictor × Deviation)) × Engine
  | [] => (.ok [], e)
  | d :: rest =>
    match e.predictorOf d with
    | (.error halt, e) => (.error halt, e)
    | (.ok found, e) =>
      match predictorsOf e rest with
      | (.error halt, e) => (.error halt, e)
      | (.ok more, e) => (.ok ((found.map fun p => (p, d)).toList ++ more), e)

/-- Whether one trip is served no later than another; trips without stops come first. -/
def servedBefore (a b : TripPredictor) : Bool :=
  match a.trip.firstDeparture, b.trip.firstDeparture with
  | none, _ => true
  | some _, none => false
  | some x, some y => x ≤ y

/-- Keeps the first deviation of each trip. -/
def firstOfEachTrip : List (TripPredictor × Deviation) → List (TripPredictor × Deviation)
  | [] => []
  | x :: rest => x :: (firstOfEachTrip rest).filter fun y => y.2.trip ≠ x.2.trip

/-- The trips of a vehicle in the order of service, each once. -/
def inServiceOrder (found : List (TripPredictor × Deviation)) : List (TripPredictor × Deviation) :=
  firstOfEachTrip (found.mergeSort fun a b => servedBefore a.1 b.1)

/-- The time of the latest of some deviations. -/
def latest? (found : List (TripPredictor × Deviation)) : Option Instant :=
  match found with
  | [] => none
  | x :: rest => some (rest.foldl (fun t y => t.max y.2.observedAt) x.2.observedAt)

-- ---------------------------------------------------------------------------
-- From the trips of a vehicle to its batch
-- ---------------------------------------------------------------------------

/-- Adds the predictions of trips within the horizon to a batch. -/
def predictTrips (e : Engine) (b : Batch) :
    List (TripPredictor × Deviation) → Except Halt Batch × Engine
  | [] => (.ok b, e)
  | (predictor, d) :: rest =>
    match predictor.inRange d with
    | .error halt => (.error halt, e)
    | .ok false => predictTrips e b rest
    | .ok true =>
      match predictor.predict e.calendar e.transitions d with
      | .error halt => (.error halt, e)
      | .ok progress =>
        predictTrips { e with transitions := progress.store }
          (b.addTrip progress.prediction progress.inferences) rest

/-- The batch of a vehicle, if it has a trip within the horizon. -/
def predictVehicle (e : Engine) (vehicle : String) (deviations : List Deviation) :
    Except Halt (Option Batch) × Engine :=
  match e.predictorsOf deviations with
  | (.error halt, e) => (.error halt, e)
  | (.ok found, e) =>
    let trips := inServiceOrder found
    match latest? trips with
    | none => (.ok none, e)
    | some createdAt =>
      match e.predictTrips (.start vehicle createdAt) trips with
      | (.error halt, e) => (.error halt, e)
      | (.ok b, e) =>
        if b.trips.isEmpty then (.ok none, e)
        else (.ok (some b), e.measure fun m => m.add .tripPredictions b.trips.length)

/-- Adds a batch to the store. -/
def keep (e : Engine) (b : Batch) : BatchRef × Engine :=
  let (ref, batches) := e.batches.add b
  (ref, { e with batches := batches })

-- ---------------------------------------------------------------------------
-- Dispatch
-- ---------------------------------------------------------------------------

/-- Sends one request to the worker of its model. -/
def sendRequest (e : Engine) (r : InferenceRequest) : Engine :=
  (e.send (requestSubject e.settings.subjects.requests r.model e.settings.buckets) (.request r)).2

/-- Sends the requests of a batch; one that fails is not tried again. -/
def sendRequests (e : Engine) (b : Batch) : Engine :=
  (b.requests.foldl sendRequest e).measure fun m => m.add .inferenceRequests b.requests.length

/-- Publishes a batch that awaits nothing, unless that was done before; parks any other and sends
its requests. -/
def dispatch (e : Engine) (ref : BatchRef) (now : Instant) : Except Halt Unit × Engine :=
  match e.batches.get? ref with
  | none => (.ok (), e)
  | some b =>
    if b.pending = 0 then
      match e.claim ref with
      | (true, e) => (.ok (), (e.publishBatch ref).2)
      | (false, e) => (.ok (), e)
    else
      match e.batches.park ref b now with
      | .error halt => (.error halt, e)
      | .ok (_, batches) => (.ok (), { e with batches := batches }.showParked.sendRequests b)

-- ---------------------------------------------------------------------------
-- Whole reports
-- ---------------------------------------------------------------------------

/-- Predicts and dispatches one vehicle. -/
def handleVehicle (e : Engine) (vehicle : String) (deviations : List Deviation) (now : Instant) :
    Except Halt (Option BatchRef) × Engine :=
  match e.predictVehicle vehicle deviations with
  | (.error halt, e) => (.error halt, e)
  | (.ok none, e) => (.ok none, e)
  | (.ok (some b), e) =>
    let (ref, e) := e.keep b
    match e.dispatch ref now with
    | (.error halt, e) => (.error halt, e)
    | (.ok (), e) => (.ok (some ref), e)

/-- Predicts and dispatches vehicles in order. -/
def handleVehicles (e : Engine) (now : Instant) :
    List (String × List Deviation) → Except Halt (List BatchRef) × Engine
  | [] => (.ok [], e)
  | (vehicle, deviations) :: rest =>
    match e.handleVehicle vehicle deviations now with
    | (.error halt, e) => (.error halt, e)
    | (.ok made, e) =>
      match handleVehicles e now rest with
      | (.error halt, e) => (.error halt, e)
      | (.ok more, e) => (.ok (made.toList ++ more), e)

/-- Predicts every vehicle of a report on a route that is allowed. -/
def handleReport (e : Engine) (r : VehicleReport) (now : Instant) :
    Except Halt (List BatchRef) × Engine :=
  let allowed := r.deviations.filter fun d => e.settings.allowsRoute d.route
  match (e.measure fun m => m.count .reportsHandled).handleVehicles now (byVehicle allowed) with
  | (.error halt, e) => (.error halt, e)
  | (.ok batches, e) => (.ok batches, e.measure fun m => m.count .predictionLatency)

end TransitForecast.Engine
