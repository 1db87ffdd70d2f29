import TransitForecast.Api.Message
import TransitForecast.Api.Target
import TransitForecast.Engine.Listening
import TransitForecast.Wire.Status

/-!
# TransitForecast — the HTTP interface

Probes, metrics, views of the engine, and a way to put messages onto its bus.
-/

namespace TransitForecast.Api

/-- What can be asked for. -/
inductive Resource
  | liveness
  | readiness
  | metrics
  | status
  | pending
  /-- A subject of the bus, with its escapes. -/
  | subject (escaped : String)
  deriving DecidableEq, Repr

/-- The resource of a path. -/
def resource? (path : String) : Option Resource :=
  match segments path with
  | ["", "healthz"] => some .liveness
  | ["", "readyz"] => some .readiness
  | ["", "metrics"] => some .metrics
  | ["", "api", "v1", "status"] => some .status
  | ["", "api", "v1", "pending"] => some .pending
  | ["", "api", "v1", "bus", subject] => if subject.isEmpty then none else some (.subject subject)
  | _ => none

/-- The metrics as text. -/
def metricsText (m : Metrics) : String :=
  String.join (m.values.map fun v =>
    "prediction_aggregator_" ++ v.1.text ++ " " ++ toString v.2 ++ "\n")

/-- The state of an aggregator, which is alive unless a part does not do its work. -/
def liveness (h : HealthBoard) : Response :=
  .json (if h.status.isOperational then 200 else 503) (Wire.writeHealth h.report)

/-- Whether an aggregator is ready. -/
def readiness (h : HealthBoard) : Response :=
  .json (if h.readiness.ready then 200 else 503) (Wire.writeReadiness h.readiness)

/-- The answer to a request that only looks. -/
def view (e : Engine) : Resource → Option Response
  | .liveness => some (liveness e.health)
  | .readiness => some (readiness e.health)
  | .metrics => some ⟨200, .plain (metricsText e.metrics)⟩
  | .status => some (.json 200 (Wire.writeStatus e.status))
  | .pending => some (.json 200 (.array (e.batches.summaries.map Wire.writeBatchSummary)))
  | .subject _ => none

/-- Puts a document onto a subject of the bus. -/
def publish (e : Engine) (escaped body : String) : Response × Engine :=
  match Text.unescapeLenient? escaped with
  | none => (.bare 400, e)
  | some subject =>
    match Json.document? body with
    | none => (.error 400 "body is not JSON", e)
    | some _ =>
      match e.send subject (.raw body) with
      | (none, e) =>
        (.json 202 (.object [("subject", .string subject), ("bytes", .int body.utf8ByteSize)]), e)
      | (some (.invalidSubject s), e) => (.error 400 (BusError.invalidSubject s).message, e)
      | (some other, e) => (.error 503 other.message, e)

/-- Answers a request; `none` when it is malformed. -/
def respond? (e : Engine) (r : Request) : Option (Response × Engine) :=
  if !isMethod r.method then none
  else (path? r.target).map fun path =>
    match resource? path with
    | none => (.bare 404, e)
    | some resource =>
      match view e resource, resource with
      | some answer, _ =>
        if r.method = "GET" then (answer, e)
        else if r.method = "HEAD" then (.bare answer.status, e)
        else (.bare 405, e)
      | none, .subject escaped =>
        if r.method = "POST" then publish e escaped r.body else (.bare 405, e)
      | none, _ => (.bare 404, e)

end TransitForecast.Api
