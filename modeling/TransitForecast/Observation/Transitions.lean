import TransitForecast.Observation.Report
import TransitForecast.Table

/-!
# TransitForecast — observed transitions

The most recent measured travel time of each ordered pair of stops. An observation
expires: a look-up that finds one older than the greatest age removes it and finds nothing.
-/

namespace TransitForecast

/-- An ordered pair of stops. -/
abbrev StopPair := String × String

/-- The observations, by stop pair, and the age up to which they count. -/
structure ObservedTransitions where
  maxAge : Span
  entries : Table StopPair Transition

namespace ObservedTransitions

/-- A store without observations. -/
def empty (maxAge : Span) : ObservedTransitions := ⟨maxAge, .empty⟩

/-- Seconds for which an observation counts unless the settings say otherwise. -/
def defaultMaxAgeSeconds : Int := 1800

/-- Whether an observation still counts. -/
def isFresh (s : ObservedTransitions) (now : Instant) (t : Transition) : Bool :=
  now.since t.observedAt ≤ s.maxAge

/-- Stores an observation, in place of any other of its stop pair. -/
def record (s : ObservedTransitions) (t : Transition) : ObservedTransitions :=
  { s with entries := s.entries.insert (t.origin, t.target) t }

/-- Stores several observations in order. -/
def recordAll (s : ObservedTransitions) (ts : List Transition) : ObservedTransitions :=
  ts.foldl record s

/-- The observation of a stop pair that counts at a time, and the store after the look-up. -/
def lookup (s : ObservedTransitions) (pair : StopPair) (now : Instant) :
    Option Transition × ObservedTransitions :=
  match s.entries.find? pair with
  | none => (none, s)
  | some t =>
    if s.isFresh now t then (some t, s)
    else (none, { s with entries := s.entries.erase pair })

/-- Removes the observations that no longer count. -/
def sweep (s : ObservedTransitions) (now : Instant) : ObservedTransitions :=
  { s with entries := s.entries.filter fun _ t => s.isFresh now t }

/-- Number of observations. -/
def size (s : ObservedTransitions) : Nat := s.entries.size

end ObservedTransitions

end TransitForecast
