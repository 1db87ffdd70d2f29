import TransitForecast.Console.Arguments
import TransitForecast.Console.Grid
import TransitForecast.Console.Publish
import TransitForecast.Wire.Inference
import TransitForecast.Wire.Status

/-!
# TransitForecast — results on a terminal

What the console prints, as tables for people or as JSON.
-/

namespace TransitForecast.Console

/-- Lines as text. -/
def unlines (lines : List String) : String := String.join (lines.map (· ++ "\n"))

/-- A value as JSON over several lines. -/
def jsonText (value : Json) : String := unlines [value.pretty]

/-- The line of a success. -/
def successLine (text : String) : String := "✓ " ++ text

/-- The line of a failure. -/
def failureLine (text : String) : String := "✗ " ++ text

/-- The line of a warning. -/
def warningLine (text : String) : String := "⚠ " ++ text

/-- The line of a piece of information. -/
def infoLine (text : String) : String := "ℹ " ++ text

/-- A table, or a warning when it has no rows. -/
def tableText (titles : List String) (rows : List (List String)) (whenEmpty : String) : String :=
  if rows.isEmpty then unlines [warningLine whenEmpty] else unlines (grid titles rows)

/-- A time for people; a dash when there is none. -/
def timeText (t : Option Instant) : String := t.elim "-" Instant.plainText

-- ---------------------------------------------------------------------------
-- Status
-- ---------------------------------------------------------------------------

/-- The rows of a status. -/
def statusRows (s : EngineStatus) : List (List String) :=
  [ ["Instance", s.instanceName]
  , ["Trip predictors", toString s.predictors]
  , ["Pending batches", toString s.batches]
  , ["Observed transitions", toString s.transitions]
  , ["Inference buckets", toString s.buckets]
  , ["Batch TTL", toString s.batchLifetimeSeconds ++ "s"] ]

/-- The row of one store in a sweep. -/
def sweepRow (name : String) (c : SweepCounts) : List String :=
  [name, toString c.before, toString c.after, toString c.removed]

/-- The text of a sweep. -/
def sweepText (r : SweepReport) : String :=
  unlines [infoLine ("Last sweep at " ++ r.sweptAt.plainText ++ " took " ++
    toString r.elapsedMillis ++ " ms")] ++
  tableText ["Collection", "Before", "After", "Removed"]
    [ sweepRow "pending batches" r.batches
    , sweepRow "trip predictors" r.predictors
    , sweepRow "observed transitions" r.transitions ] "Empty sweep"

/-- The text of a status. -/
def statusText (format : Format) (s : EngineStatus) : String :=
  match format with
  | .json => jsonText (Wire.writeStatus s)
  | .table =>
    tableText ["Field", "Value"] (statusRows s) "No status reported" ++
      s.lastSweep.elim (unlines [infoLine "No sweep has run yet"]) sweepText

-- ---------------------------------------------------------------------------
-- Parked batches
-- ---------------------------------------------------------------------------

/-- The row of a batch. -/
def batchRow (b : BatchSummary) : List String :=
  [b.batch, b.vehicle, b.createdAt.plainText, timeText b.expiresAt,
    String.intercalate ", " b.trips, toString b.pending ++ "/" ++ toString b.requests]

/-- The text of parked batches. -/
def batchesText (format : Format) (batches : List BatchSummary) : String :=
  match format with
  | .json => jsonText (.array (batches.map Wire.writeBatchSummary))
  | .table =>
    tableText ["Batch", "Vehicle", "Created", "Expires", "Trips", "Awaiting"]
      (batches.map batchRow) "No pending batches"

-- ---------------------------------------------------------------------------
-- Correlation ids
-- ---------------------------------------------------------------------------

/-- The time of the report that an id stems from, if it is in range. -/
def reportTime (c : CorrelationId) : Option Instant := Instant.ofEpochMillis? c.batch.millis

/-- An id taken apart, as JSON. -/
def correlationJson (c : CorrelationId) : Json := .object
  [ ("batch_id", .string c.batch.text)
  , ("vehicle_id", .string c.batch.vehicle)
  , ("report_time", Json.ofOption Wire.writeInstant (reportTime c))
  , ("trip_id", .string c.trip)
  , ("model_id", .int c.model)
  , ("model_version", .int c.version) ]

/-- The rows of an id taken apart. -/
def correlationRows (c : CorrelationId) : List (List String) :=
  [ ["Batch", c.batch.text]
  , ["Vehicle", c.batch.vehicle]
  , ["Report time", timeText (reportTime c)]
  , ["Trip", c.trip]
  , ["Model", toString c.model]
  , ["Model version", toString c.version] ]

/-- The text of an id taken apart. -/
def correlationText (format : Format) (c : CorrelationId) : String :=
  match format with
  | .json => jsonText (correlationJson c)
  | .table => tableText ["Field", "Value"] (correlationRows c) "Nothing decoded"

-- ---------------------------------------------------------------------------
-- Published files
-- ---------------------------------------------------------------------------

/-- The text of what was published. -/
def publishedText (format : Format) : Option Published → String
  | none => unlines [warningLine "No messages found in file"]
  | some p =>
    match format with
    | .json => jsonText (.object
        [ ("subject", .string p.subject), ("published", .int p.count), ("bytes", .int p.bytes) ])
    | .table =>
      unlines [successLine ("Published " ++ toString p.count ++ " message(s) (" ++
        toString p.bytes ++ " bytes) to " ++ p.subject)]

end TransitForecast.Console
