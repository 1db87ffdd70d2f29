import TransitForecast.Engine.Listening
import TransitForecast.Wire.Schedule

/-!
# TransitForecast — snapshots

The trips and the models that an aggregator starts with come from files, each a list.
-/

namespace TransitForecast

/-- What a snapshot holds. -/
inductive SnapshotKind
  | schedule
  | models
  deriving DecidableEq, Repr

/-- The word for a kind of snapshot. -/
def SnapshotKind.word : SnapshotKind → String
  | schedule => "schedule"
  | models => "model"

/-- Why a snapshot is refused. -/
inductive SnapshotError
  | unreadable (kind : SnapshotKind) (path : String)
  | malformed (kind : SnapshotKind)
  deriving DecidableEq, Repr

namespace SnapshotError

/-- The text of a failure, with a way to show paths. -/
def messageWith (showPath : String → String) : SnapshotError → String
  | unreadable kind path => "Failed to read " ++ kind.word ++ " snapshot " ++ showPath path
  | malformed kind => "Failed to parse " ++ kind.word ++ " snapshot"

/-- The text of a failure. -/
def message : SnapshotError → String := messageWith Text.quoted

end SnapshotError

/-- The items of a snapshot at a path, from its contents if the file could be read. -/
def snapshot {α : Type} (kind : SnapshotKind) (read : Json.Reader α) (path : String)
    (contents : Option String) : Except SnapshotError (List α) :=
  match contents with
  | none => .error (.unreadable kind path)
  | some text => (decode? (Json.Reader.list read) text).elim (.error (.malformed kind)) .ok

/-- The trips of a snapshot. -/
def scheduleSnapshot (path : String) (contents : Option String) : Except SnapshotError Timetable :=
  (snapshot .schedule Wire.readTrip path contents).map Timetable.ofList

/-- The models of a snapshot. -/
def modelSnapshot (path : String) (contents : Option String) : Except SnapshotError ModelRegistry :=
  (snapshot .models Wire.readModel path contents).map ModelRegistry.ofModels

end TransitForecast
