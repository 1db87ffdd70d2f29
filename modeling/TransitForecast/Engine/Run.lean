import TransitForecast.Engine.Report
import TransitForecast.Engine.Response
import TransitForecast.Engine.Sweep

/-!
# TransitForecast — runs of an engine

What an engine goes through from its start: reports, answers and sweeps, each handled as a whole.
-/

namespace TransitForecast.Engine

/-- Something that an engine handles. -/
inductive Event
  /-- The transitions of a report are recorded. -/
  | observe (transitions : List Transition)
  | report (r : VehicleReport) (now : Instant)
  | response (r : InferenceResponse) (now : Instant)
  | sweep (now : Instant)

/-- The engine after an event. -/
def handle (e : Engine) : Event → Engine
  | .observe ts => e.record ts
  | .report r now => (e.handleReport r now).2
  | .response r now => (e.handleResponse r now).2
  | .sweep now => (e.sweep now).2

/-- The engine after events in order. -/
def run (e : Engine) (events : List Event) : Engine := events.foldl handle e

end TransitForecast.Engine
