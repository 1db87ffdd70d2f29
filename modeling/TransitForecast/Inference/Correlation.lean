import TransitForecast.Decimal.Integer
import TransitForecast.PredictionError
import TransitForecast.Text.Percent
import TransitForecast.Text.Quoted
import TransitForecast.Text.Split
import TransitForecast.Time.Instant

/-!
# TransitForecast — correlation ids

An inference request carries an id from which the batch, the trip and the model
can be told when the answer comes back: the four parts with dashes between them.
In the first two, percent signs and dashes are escaped, so that any vehicle and
trip can be told apart and plain ids stay as they are.
-/

namespace TransitForecast

/-- The id of a batch: the vehicle, an underscore, and the time of its report in milliseconds. -/
structure BatchId where
  text : String
  deriving DecidableEq, Repr

namespace BatchId

/-- The id of the batch of a vehicle's report. -/
def make (vehicle : String) (at_ : Instant) : BatchId :=
  ⟨vehicle ++ "_" ++ toString at_.epochMillis⟩

/-- The texts before and after the last underscore. -/
def parts? (b : BatchId) : Option (String × String) :=
  (splitLast? '_' b.text.toList).map fun p => (String.ofList p.1, String.ofList p.2)

/-- The vehicle; it may hold underscores itself. -/
def vehicle (b : BatchId) : String :=
  match b.parts? with
  | some (vehicle, _) => vehicle
  | none => b.text

/-- The milliseconds since the epoch. -/
def millis (b : BatchId) : Int :=
  match b.parts? with
  | some (_, millis) => (Decimal.int64.read? millis).getD 0
  | none => 0

/-- Reads a batch id: a vehicle that is not empty, and a number of milliseconds. -/
def parse (s : String) : Except PredictionError BatchId :=
  match (BatchId.mk s).parts? with
  | some (vehicle, millis) =>
    if !vehicle.isEmpty && (Decimal.int64.read? millis).isSome then .ok ⟨s⟩
    else .error (.malformedCorrelation ("invalid batch id " ++ Text.quoted s))
  | none => .error (.malformedCorrelation ("invalid batch id " ++ Text.quoted s))

end BatchId

/-- What identifies an inference request. -/
structure CorrelationId where
  batch : BatchId
  trip : String
  model : Int
  version : Int
  deriving DecidableEq, Repr

namespace CorrelationId

/-- One character of an escaped part. -/
def escapeChar (c : Char) : List Char :=
  if c = '%' then ['%', '2', '5']
  else if c = '-' then ['%', '2', 'D']
  else [c]

/-- A part with its percent signs and dashes escaped. -/
def escape (s : String) : String := String.ofList (s.toList.flatMap escapeChar)

/-- The text of an id. -/
def render (c : CorrelationId) : String :=
  escape c.batch.text ++ "-" ++ escape c.trip ++ "-" ++ toString c.model ++ "-" ++
    toString c.version

/-- Reads an id. -/
def parse (s : String) : Except PredictionError CorrelationId :=
  let malformed : PredictionError := .malformedCorrelation s
  match (splitOnElement '-' s.toList).map String.ofList with
  | [batch, trip, model, version] => do
    let batch ← (Text.unescape? batch).elim (.error malformed) .ok
    let batch ← BatchId.parse batch
    let trip ← (Text.unescape? trip).elim (.error malformed) .ok
    if trip.isEmpty then .error malformed
    let model ← (Decimal.int64.read? model).elim (.error malformed) .ok
    let version ← (Decimal.int32.read? version).elim (.error malformed) .ok
    return ⟨batch, trip, model, version⟩
  | _ => .error malformed

end CorrelationId

end TransitForecast
