import TransitForecast.Engine.Publish

/-!
# TransitForecast — handling inference responses

An answer that completes a batch has the batch published, by whoever handled the answer.
-/

namespace TransitForecast.Engine

/-- Handles an answer without publishing. -/
def applyResponse (e : Engine) (r : InferenceResponse) (now : Instant) :
    Except PredictionError Outcome × Engine :=
  let (outcome, batches) := e.batches.apply r now
  (outcome, { e with batches := batches })

/-- Handles an answer, and publishes its batch if that completed it. -/
def handleResponse (e : Engine) (r : InferenceResponse) (now : Instant) :
    Except PredictionError Outcome × Engine :=
  match e.applyResponse r now with
  | (.error error, e) => (.error error, e)
  | (.ok (.pending n), e) => (.ok (.pending n), e.measure fun m => m.count .responsesApplied)
  | (.ok (.complete ref), e) =>
    let e := (e.measure fun m => m.count .responsesApplied).showParked
    (.ok (.complete ref), (e.publishBatch ref).2)

end TransitForecast.Engine
