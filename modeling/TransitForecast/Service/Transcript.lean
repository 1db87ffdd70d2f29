import TransitForecast.Engine.Snapshot
import TransitForecast.Folder

/-!
# TransitForecast — a run of the service

What an aggregator says about itself from its start to its end: it loads and checks
its settings, loads its snapshots, subscribes, works until it is interrupted or its HTTP interface
fails, and stops. A run that cannot start ends with the reason.
-/

namespace TransitForecast.Service

/-- The version of the service. -/
def version : String := "0.1.0"

/-- How grave a record is. -/
inductive Level
  | info
  | error
  deriving DecidableEq, Repr

/-- The word for a level. -/
def Level.word : Level → String
  | info => "INFO"
  | error => "ERROR"

/-- Something that happened, with its details, under a name of its own. -/
inductive Milestone
  | started (instanceName : String) (models trips : Nat)
  | stopped (instanceName reason : String)
  deriving DecidableEq, Repr

/-- What a service writes about its run. -/
inductive LogEntry
  | note (level : Level) (text : String)
  /-- A note with a milestone. -/
  | milestone (m : Milestone)
  deriving DecidableEq, Repr

/-- The text of a milestone. -/
def Milestone.text : Milestone → String
  | started .. => "Prediction aggregator started"
  | stopped .. => "Prediction aggregator shutting down"

/-- The name of a milestone. -/
def Milestone.event : Milestone → String
  | started .. => "aggregator_started"
  | stopped .. => "aggregator_shutdown"

/-- The details of a milestone. -/
def Milestone.details : Milestone → List (String × Json)
  | started name models trips =>
    [ ("instance", .string name)
    , ("version", .string version)
    , ("models", .int models)
    , ("trips", .int trips) ]
  | stopped name reason => [("instance", .string name), ("reason", .string reason)]

/-- The text of an entry with its level. -/
def LogEntry.text : LogEntry → String
  | note level text => level.word ++ " " ++ text
  | milestone m => Level.info.word ++ " " ++ m.text

/-- How a run ended. -/
inductive Ending
  | finished
  /-- Main work could not start. -/
  | failed (reason : String)
  /-- A duration or a buffer of the settings cannot be represented. -/
  | aborted
  deriving DecidableEq, Repr

/-- The exit code of an ending. -/
def Ending.exitCode : Ending → Nat
  | finished => 0
  | failed _ => 1
  | aborted => 101

/-- A run of the service: what it wrote, in order, and how it ended. -/
structure Transcript where
  entries : List LogEntry
  ending : Ending
  deriving DecidableEq, Repr

/-- What a run starts from. -/
structure Surroundings where
  environment : List (String × String)
  /-- The contents of the file at a path. -/
  file : String → Option String
  /-- Whether another program holds the port of the HTTP interface. -/
  portTaken : Bool
  /-- The time zones that are known there. -/
  zones : ZoneTable

/-- A note about normal work. -/
def note (text : String) : LogEntry := .note .info text

/-- A part of a run: it writes entries, and gives a value or the reason why the run ends. -/
abbrev Stage (α : Type) := ExceptT Ending (StateM (List LogEntry)) α

/-- Writes an entry. -/
def write (e : LogEntry) : Stage Unit := modify (· ++ [e])

/-- What the name of a settings file ends with. -/
def settingsEnding : String := ".json"

/-- The settings file that the environment names. The name may leave out its ending; a file
with another ending is not read. -/
def settingsFile (s : Surroundings) : Settings.SettingsFile :=
  match Settings.environmentValue? s.environment Settings.fileVariable with
  | none => .unnamed
  | some path =>
    match s.file path with
    | some contents =>
      if Folder.hasEnding settingsEnding path then .contents contents else .missing
    | none => ((Folder.withEnding? settingsEnding path).bind s.file).elim .missing .contents

/-- The value, or the end of the run with the text of the failure. -/
def orFail {ε α : Type} (message : ε → String) : Except ε α → Stage α
  | .ok value => return value
  | .error e => throw (.failed (message e))

/-- The value, or the end of a run whose settings are refused. -/
def orRefuse {α : Type} : Except SettingsError α → Stage α
  | .ok value => return value
  | .error .overflow => throw .aborted
  | .error e => throw (.failed e.message)

/-- The trips of the snapshot that the settings name. -/
def loadSchedule (s : Surroundings) (settings : Settings) : Stage Timetable := do
  match settings.scheduleFile with
  | none => return .empty
  | some path =>
    let trips ← orFail SnapshotError.message (scheduleSnapshot path (s.file path))
    write (note "Loaded schedule snapshot")
    return trips

/-- The models of the snapshot that the settings name. -/
def loadModels (s : Surroundings) (settings : Settings) : Stage ModelRegistry := do
  match settings.modelsFile with
  | none => return .empty
  | some path =>
    let models ← orFail SnapshotError.message (modelSnapshot path (s.file path))
    write (note "Loaded model snapshot")
    return models

/-- The engine of the settings. -/
def startEngine (zones : ZoneTable) (settings : Settings) (trips : Timetable)
    (models : ModelRegistry) : Stage Engine := do
  let dates ← orRefuse settings.holidayDates
  let checked ← orRefuse (settings.engineSettings zones)
  match Engine.start? checked trips models (.ofList dates) [] .epoch with
  | none => throw .aborted
  | some engine => return engine

/-- The parts that work in the background. -/
def backgroundParts : List String :=
  ["transition listener", "deviation listener", "inference listener", "sweeper"]

/-- The whole run. -/
def stages (s : Surroundings) : Stage Unit := do
  write (note "Starting prediction-aggregator")
  let settings ← orRefuse (Settings.load s.zones (settingsFile s) s.environment)
  write (note "Aggregator configured")
  let trips ← loadSchedule s settings
  let models ← loadModels s settings
  write (.milestone (.started settings.instanceName models.size trips.size))
  let engine ← startEngine s.zones settings trips models
  if Bus.asksTooMuch settings.subjects.vehicleReports settings.busBuffer then throw .aborted
  let _ ← orFail (fun _ : BusError => "Failed to subscribe to inbound subjects")
    (Aggregator.listen ⟨engine, []⟩ settings.busBuffer false)
  write (note "Subscribed to inbound subjects")
  for part in backgroundParts do
    write (note ("Starting " ++ part))
  write (note "Sweep complete")
  write (note "Starting API server")
  if s.portTaken then write (.note .error "API server failed")
  else write (.milestone (.stopped settings.instanceName "SIGINT received"))
  for part in backgroundParts do
    write (note ("Shutting down " ++ part))
  write (note "Shutdown complete")

/-- What a run in some surroundings writes and how it ends. -/
def run (s : Surroundings) : Transcript :=
  let (result, entries) := ((stages s).run []).run
  ⟨entries, match result with
    | .ok () => .finished
    | .error ending => ending⟩

end TransitForecast.Service
