import TransitForecast.Time.Text

/-!
# TransitForecast — health

The state of the parts of a running aggregator, for liveness and readiness probes.
-/

namespace TransitForecast

/-- The state of a part. -/
inductive Status
  | healthy
  /-- Still running, but dropping or delaying work. -/
  | degraded
  | unhealthy
  deriving DecidableEq, Repr

namespace Status

/-- Whether the part does its work. -/
def isOperational : Status → Bool
  | unhealthy => false
  | _ => true

/-- The name of a state in messages. -/
def name : Status → String
  | healthy => "healthy"
  | degraded => "degraded"
  | unhealthy => "unhealthy"

/-- The state of a name. -/
def ofName? (s : String) : Option Status :=
  [healthy, degraded, unhealthy].find? fun x => x.name = s

theorem ofName?_name (x : Status) : ofName? x.name = some x := by cases x <;> decide

/-- The worse of two states. -/
def worse : Status → Status → Status
  | unhealthy, _ => unhealthy
  | _, unhealthy => unhealthy
  | degraded, _ => degraded
  | _, degraded => degraded
  | healthy, healthy => healthy

/-- The worst of some states; healthy when there are none. -/
def worst (states : List Status) : Status := states.foldl worse healthy

end Status

/-- The state of one part, with a text unless it is healthy, and when it was set. -/
structure Condition where
  status : Status
  message : Option String
  updatedAt : Instant
  deriving DecidableEq

/-- The state of every part, ordered by name, and whether messages can come in. -/
structure HealthBoard where
  parts : List (String × Condition)
  subscribed : Bool
  deriving DecidableEq

/-- The answer to a liveness probe. -/
structure HealthReport where
  status : Status
  parts : List (String × Condition)
  deriving DecidableEq

/-- The answer to a readiness probe. -/
structure Readiness where
  ready : Bool
  reason : Option String
  deriving DecidableEq, Repr

namespace HealthBoard

/-- A board without parts. -/
def empty : HealthBoard := ⟨[], false⟩

/-- Names of the parts of an aggregator. -/
def transitionListener : String := "transition_listener"
def deviationListener : String := "deviation_listener"
def inferenceListener : String := "inference_listener"
def sweeper : String := "sweeper"
def publisher : String := "publisher"

/-- The parts of an aggregator. -/
def components : List String :=
  [transitionListener, deviationListener, inferenceListener, sweeper, publisher]

/-- Puts a part into a list ordered by name. -/
def place (name : String) (c : Condition) : List (String × Condition) → List (String × Condition)
  | [] => [(name, c)]
  | (n, c') :: rest =>
    if n = name then (name, c) :: rest
    else if name < n then (name, c) :: (n, c') :: rest
    else (n, c') :: place name c rest

/-- Sets the state of a part. -/
def set (b : HealthBoard) (name : String) (c : Condition) : HealthBoard :=
  { b with parts := place name c b.parts }

/-- Marks a part healthy. -/
def setHealthy (b : HealthBoard) (now : Instant) (name : String) : HealthBoard :=
  b.set name ⟨.healthy, none, now⟩

/-- Marks a part degraded. -/
def setDegraded (b : HealthBoard) (now : Instant) (name message : String) : HealthBoard :=
  b.set name ⟨.degraded, some message, now⟩

/-- Marks a part unhealthy. -/
def setUnhealthy (b : HealthBoard) (now : Instant) (name message : String) : HealthBoard :=
  b.set name ⟨.unhealthy, some message, now⟩

/-- A board on which every part of an aggregator is healthy. -/
def allHealthy (now : Instant) : HealthBoard :=
  components.foldl (fun b name => b.setHealthy now name) empty

/-- The worst state of any part. -/
def status (b : HealthBoard) : Status := .worst (b.parts.map fun p => p.2.status)

/-- The answer to a liveness probe. -/
def report (b : HealthBoard) : HealthReport := ⟨b.status, b.parts⟩

/-- Whether messages can come in and every part does its work; else the reason, which is the first
part by name that does not. -/
def readiness (b : HealthBoard) : Readiness :=
  if b.subscribed then
    match b.parts.find? fun p => !p.2.status.isOperational with
    | some p => ⟨false, some (p.1 ++ " is unhealthy")⟩
    | none => ⟨true, none⟩
  else ⟨false, some "subscriptions not established"⟩

end HealthBoard

end TransitForecast
