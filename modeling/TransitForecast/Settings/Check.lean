import TransitForecast.Settings.Layers
import TransitForecast.Schedule.Holidays

/-!
# TransitForecast — checked settings

Loading settings and turning them into what an engine runs with. The checks come in a fixed
order, and the first that fails is reported.
-/

namespace TransitForecast

/-- Why settings are refused. -/
inductive SettingsError
  | unreadable
  | invalid
  | noBuckets
  | noBatchLifetime
  | unknownZone (name : String)
  | badHoliday (text : String)
  /-- A duration, or a place in a list, is beyond what can be represented. -/
  | overflow
  deriving DecidableEq, Repr

namespace SettingsError

/-- The text of a failure. -/
def message : SettingsError → String
  | unreadable => "Failed to read configuration"
  | invalid => "Invalid configuration"
  | noBuckets => "inference_bucket_count must be at least 1"
  | noBatchLifetime => "batch_ttl_secs must be positive"
  | unknownZone name => "Unknown timezone " ++ name ++ ": '" ++ name ++ "' is not a valid timezone"
  | badHoliday text => "Invalid holiday date " ++ text
  | overflow => "out of range"

end SettingsError

/-- What an engine runs with. -/
structure EngineSettings where
  instanceName : String
  batchLifetime : Span
  predictorLifetime : Span
  trust : Trust
  earlySeconds : Int
  horizonMinutes : Int
  buckets : Nat
  routes : List String
  transitionMaxAge : Span
  zone : Zone
  subjects : Subjects

/-- Whether a route is predicted. -/
def EngineSettings.allowsRoute (s : EngineSettings) (route : String) : Bool :=
  s.routes.isEmpty || s.routes.contains route

namespace Settings

/-- The zone that is named, if there is one of that name. -/
def zone? (s : Settings) (zones : ZoneTable) : Except SettingsError Zone :=
  match zones s.zone with
  | some zone => .ok zone
  | none => .error (.unknownZone s.zone)

/-- The date that a text stands for. -/
def holiday? (text : String) : Except SettingsError Date :=
  match Date.ofText? text with
  | some date => .ok date
  | none => .error (.badHoliday text)

/-- The dates of the holidays, in the order in which they are listed. -/
def holidayDates (s : Settings) : Except SettingsError (List Date) := s.holidays.mapM holiday?

/-- A duration in seconds. -/
def span? (seconds : Int) : Except SettingsError Span :=
  match Span.ofSeconds? seconds with
  | some span => .ok span
  | none => .error .overflow

/-- What an engine runs with. -/
def engineSettings (s : Settings) (zones : ZoneTable) : Except SettingsError EngineSettings := do
  let batchLifetime ← span? s.batchSeconds
  let predictorLifetime ← span? s.predictorSeconds
  let transitionMaxAge ← span? s.transitionSeconds
  let zone ← s.zone? zones
  return ⟨s.instanceName, batchLifetime, predictorLifetime, s.trust, s.earlySeconds,
    s.horizonMinutes, s.buckets, s.routes.eraseDups, transitionMaxAge, zone, s.subjects⟩

/-- Checks settings. -/
def check (s : Settings) (zones : ZoneTable) : Except SettingsError Settings := do
  if s.buckets = 0 then throw .noBuckets
  if s.batchSeconds ≤ 0 then throw .noBatchLifetime
  let _ ← s.zone? zones
  let _ ← s.holidayDates
  return s

/-- The name of an instance that does not set one. -/
def hostName (environment : List (String × String)) : String :=
  (environmentValue? environment hostVariable).getD defaultName

/-- A settings file, as far as it could be got. -/
inductive SettingsFile
  /-- No file is named. -/
  | unnamed
  /-- The named file cannot be read. -/
  | missing
  | contents (text : String)
  deriving DecidableEq, Repr

/-- The mark that some programs put before the text of a file. -/
def byteOrderMark : Char := Char.ofNat 0xfeff

/-- A text without one mark before it. -/
def withoutMark (text : String) : String :=
  match text.toList with
  | c :: rest => if c = byteOrderMark then String.ofList rest else text
  | [] => text

/-- The entries of a settings file. -/
def SettingsFile.entries : SettingsFile → Except SettingsError (List (String × Json))
  | unnamed => .ok []
  | missing => .error .unreadable
  | contents text => (fileEntries? (withoutMark text)).elim (.error .unreadable) .ok

/-- Loads settings from a file and the environment, and checks them. -/
def load (zones : ZoneTable) (file : SettingsFile) (environment : List (String × String)) :
    Except SettingsError Settings := do
  let entries ← file.entries
  let read := Json.FieldReader.record (fields .converting (hostName environment))
  match layered entries environment with
  | none => throw .overflow
  | some object =>
    match read object with
    | some settings => settings.check zones
    | none => throw .invalid

end Settings

end TransitForecast
