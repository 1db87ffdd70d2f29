/-!
# TransitForecast — failures of prediction

What can go wrong while a message is handled. None of it is fatal: the message
or the deviation is dropped and counted under a label.
-/

namespace TransitForecast

/-- Why a message or a part of it was dropped. -/
inductive PredictionError
  | malformedCorrelation (text : String)
  | unknownBatch (batch : String)
  | unknownRequest (batch trip : String) (model version : Int)
  | inferenceFailed (request reason : String)
  | noSchedule (reason : String)
  | undecodable
  deriving DecidableEq, Repr

namespace PredictionError

/-- Short label for metrics and logs. -/
def label : PredictionError → String
  | malformedCorrelation _ => "correlation"
  | unknownBatch _ => "expired_or_unknown_batch"
  | unknownRequest .. => "unknown_request"
  | inferenceFailed .. => "inference_failed"
  | noSchedule _ => "schedule"
  | undecodable => "decode"

/-- The text of a failure. -/
def message : PredictionError → String
  | malformedCorrelation text => "malformed correlation id: " ++ text
  | unknownBatch batch => "batch " ++ batch ++ " is expired or unknown"
  | unknownRequest batch trip model version =>
    "no pending request for trip " ++ trip ++ " model " ++ toString model ++ " version " ++
      toString version ++ " in batch " ++ batch
  | inferenceFailed request reason =>
    "inference failed for request " ++ request ++ ": " ++ reason
  | noSchedule reason => "trip schedule unavailable: " ++ reason
  | undecodable => "failed to decode message"

end PredictionError

/-- Why a piece of work never finished. -/
inductive Halt
  /-- A time left the range of instants. -/
  | overflow
  /-- The schedule source never answered. -/
  | stalled
  deriving DecidableEq, Repr

end TransitForecast
