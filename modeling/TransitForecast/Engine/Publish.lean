import TransitForecast.Engine.Basic

/-!
# TransitForecast — publishing batches

The updates of a batch go out one by one. A failure is counted and shown in the
state of the publisher; nothing is tried again.
-/

namespace TransitForecast.Engine

/-- Publishes one update, and tells whether it went out. -/
def publishUpdate (e : Engine) (u : TripUpdate) : Bool × Engine :=
  if e.refusedTrips.contains u.trip then (false, e)
  else
    let (error, e) := e.send e.settings.subjects.updates (.update u)
    (error.isNone, e)

/-- Publishes updates in order, and tells how many failed. -/
def publishUpdates (e : Engine) : List TripUpdate → Nat × Engine
  | [] => (0, e)
  | u :: rest =>
    match e.publishUpdate u with
    | (true, e) => publishUpdates (e.measure fun m => m.count .updatesPublished) rest
    | (false, e) =>
      let (failed, e) := publishUpdates (e.measure fun m => m.count .publishFailures) rest
      (failed + 1, e)

/-- Shows in the state of the publisher how many of some updates failed. Without updates it stays as
it is. -/
def reportPublisher (e : Engine) (failed total : Nat) : Engine :=
  if 0 < failed then
    let message := toString failed ++ " of " ++ toString total ++ " trip updates failed to publish"
    { e with health := e.health.setDegraded e.wall HealthBoard.publisher message }
  else if 0 < total then { e with health := e.health.setHealthy e.wall HealthBoard.publisher }
  else e

/-- Publishes the updates of a batch as it stands, and tells how many went out. -/
def publishBatch (e : Engine) (ref : BatchRef) : Nat × Engine :=
  match e.batches.get? ref with
  | none => (0, e)
  | some b =>
    let updates := e.updateRules.buildBatch b
    let (failed, e) := e.publishUpdates updates
    let e := e.reportPublisher failed updates.length
    (updates.length - failed, e.measure fun m => m.count .batchesPublished)

/-- Claims the publication of a batch. -/
def claim (e : Engine) (ref : BatchRef) : Bool × Engine :=
  let (won, batches) := e.batches.claim ref
  (won, { e with batches := batches })

end TransitForecast.Engine
