import TransitForecast.Time.Instant

/-!
# TransitForecast — inference messages

What is sent to an inference worker and what comes back.
-/

namespace TransitForecast

/-- A request for one travel time. -/
structure InferenceRequest where
  id : String
  model : Int
  version : Int
  features : List Float
  createdAt : Instant
  deriving DecidableEq

/-- An answer: a travel time in seconds or an error. -/
structure InferenceResponse where
  request : String
  prediction : Option Float
  error : Option String
  deriving DecidableEq

/-- The subject for requests about a model: the subject of the worker that its identifier falls to,
of `buckets` workers. -/
def requestSubject (stem : String) (model : Int) (buckets : Nat) : String :=
  stem ++ "." ++ toString (model % (Nat.max buckets 1 : Nat))

end TransitForecast
