import TransitForecast.Api.Message
import TransitForecast.Api.Reason
import TransitForecast.Api.Router
import TransitForecast.Api.Target
import TransitForecast.Bus
import TransitForecast.Console.Address
import TransitForecast.Console.Arguments
import TransitForecast.Console.Client
import TransitForecast.Console.Connection
import TransitForecast.Console.Grid
import TransitForecast.Console.Publish
import TransitForecast.Console.Render
import TransitForecast.Console.Run
import TransitForecast.Decimal.Integer
import TransitForecast.Decimal.Layout
import TransitForecast.Decimal.Nearest
import TransitForecast.Decimal.Real
import TransitForecast.Decimal.Shortest
import TransitForecast.Engine.Basic
import TransitForecast.Engine.Listening
import TransitForecast.Engine.Publish
import TransitForecast.Engine.Report
import TransitForecast.Engine.Response
import TransitForecast.Engine.Run
import TransitForecast.Engine.Snapshot
import TransitForecast.Engine.Status
import TransitForecast.Engine.Sweep
import TransitForecast.Folder
import TransitForecast.Health
import TransitForecast.HostName.Accent
import TransitForecast.HostName.Ascii
import TransitForecast.HostName.Direction
import TransitForecast.HostName.Joining
import TransitForecast.HostName.Mapping
import TransitForecast.HostName.Punycode
import TransitForecast.Inference.Batch
import TransitForecast.Inference.BatchStore
import TransitForecast.Inference.Correlation
import TransitForecast.Inference.Message
import TransitForecast.Inference.Model
import TransitForecast.Json.Basic
import TransitForecast.Json.Decode
import TransitForecast.Json.Exact
import TransitForecast.Json.Number
import TransitForecast.Json.Parser
import TransitForecast.Json.Printer
import TransitForecast.Json.Token
import TransitForecast.Main
import TransitForecast.Measure
import TransitForecast.Metrics
import TransitForecast.Observation.Report
import TransitForecast.Observation.Transitions
import TransitForecast.Prediction.Allocation
import TransitForecast.Prediction.Disposition
import TransitForecast.Prediction.Features
import TransitForecast.Prediction.PredictorCache
import TransitForecast.Prediction.Segment
import TransitForecast.Prediction.TripPrediction
import TransitForecast.Prediction.TripPredictor
import TransitForecast.Prediction.Trust
import TransitForecast.PredictionError
import TransitForecast.Schedule.Holidays
import TransitForecast.Schedule.Timetable
import TransitForecast.Schedule.Trip
import TransitForecast.Service.Transcript
import TransitForecast.Settings.Basic
import TransitForecast.Settings.Check
import TransitForecast.Settings.Convert
import TransitForecast.Settings.Fields
import TransitForecast.Settings.Layers
import TransitForecast.Table
import TransitForecast.Text.Blank
import TransitForecast.Text.Emoji
import TransitForecast.Text.Ligature
import TransitForecast.Text.Percent
import TransitForecast.Text.Printable
import TransitForecast.Text.Quoted
import TransitForecast.Text.Ranges
import TransitForecast.Text.Spacing
import TransitForecast.Text.Split
import TransitForecast.Text.Width
import TransitForecast.Time.Date
import TransitForecast.Time.Instant
import TransitForecast.Time.Text
import TransitForecast.Time.Zone
import TransitForecast.Update.Build
import TransitForecast.Update.TripUpdate
import TransitForecast.Update.Walk
import TransitForecast.Wire.Catalog
import TransitForecast.Wire.Inference
import TransitForecast.Wire.Observation
import TransitForecast.Wire.Prediction
import TransitForecast.Wire.Schedule
import TransitForecast.Wire.Settings
import TransitForecast.Wire.Status
import TransitForecast.Wire.Time
import TransitForecast.Wire.Update
import TransitForecast.Proofs.Awaiting
import TransitForecast.Proofs.Batches
import TransitForecast.Proofs.Stores
import TransitForecast.Proofs.Responses
import TransitForecast.Proofs.Publication
import TransitForecast.Proofs.Runs
import TransitForecast.Proofs.Correlation
import TransitForecast.Proofs.Ledger
import TransitForecast.Proofs.Settling
import TransitForecast.Proofs.Confluence
import TransitForecast.Proofs.Revision
import TransitForecast.Proofs.Tiling
import TransitForecast.Proofs.Coverage
import TransitForecast.Proofs.Plan
import TransitForecast.Proofs.Readability
import TransitForecast.Proofs.Answerable
import TransitForecast.Proofs.WholeNumbers
import TransitForecast.Proofs.Scheduled
import TransitForecast.Proofs.Punctuality
import TransitForecast.Proofs.Requests
import TransitForecast.Proofs.Waiting
import TransitForecast.Proofs.Likeness
import TransitForecast.Proofs.Expiry
import TransitForecast.Proofs.Sweeping
import TransitForecast.Proofs.Lateness
import TransitForecast.Proofs.Succession
import TransitForecast.Proofs.Forming
import TransitForecast.Proofs.Lineup
import TransitForecast.Proofs.Separation
import TransitForecast.Proofs.Halting
import TransitForecast.Proofs.Reordering
import TransitForecast.Proofs.Transparency
import TransitForecast.Proofs.Delivery
import TransitForecast.Proofs.Partition
import TransitForecast.Proofs.RunningClock
import TransitForecast.Proofs.Nearness
import TransitForecast.Proofs.Departure
import TransitForecast.Proofs.EarlyDeparture
import TransitForecast.Proofs.Statuses
import TransitForecast.Proofs.Truncation
import TransitForecast.Proofs.Horizon
import TransitForecast.Proofs.Extension
import TransitForecast.Proofs.Terms
import TransitForecast.Proofs.Drift
import TransitForecast.Proofs.Shares
import TransitForecast.Proofs.Recall
import TransitForecast.Proofs.FeatureVector
import TransitForecast.Proofs.Distinctness
import TransitForecast.Proofs.Fairness
import TransitForecast.Proofs.NormalForm
import TransitForecast.Proofs.Races
import TransitForecast.Proofs.Startup
import TransitForecast.Proofs.Binding
import TransitForecast.Proofs.Delays
import TransitForecast.Proofs.Printing
import TransitForecast.Proofs.Calendar
import TransitForecast.Proofs.Records
import TransitForecast.Proofs.Timestamps
import TransitForecast.Proofs.Rounding
import TransitForecast.Proofs.RoundTrip
import TransitForecast.Proofs.LineBreaks
import TransitForecast.Proofs.Messages
