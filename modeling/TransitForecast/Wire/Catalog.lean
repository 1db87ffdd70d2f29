import TransitForecast.Engine.Listening
import TransitForecast.Wire.Inference
import TransitForecast.Wire.Schedule
import TransitForecast.Wire.Status
import TransitForecast.Wire.Update

/-!
# TransitForecast — the catalogue of records

Every record that has a form on the wire, by its name. A text of a record is put into standard form
by reading it and writing it again.
-/

namespace TransitForecast.Wire

/-- Puts the text of a record into standard form. -/
abbrev Normalizer := String → Option Json

/-- The standard form by a reader and a writer of one record. -/
def normalizer {α : Type} (read : Json.Reader α) (write : α → Json) : Normalizer := fun text =>
  (decode? read text).map write

/-- Every record with a form on the wire. -/
def catalog : List (String × Normalizer) :=
  [ ("stop_time_instance", normalizer readStop writeStop)
  , ("trip_instance", normalizer readTrip writeTrip)
  , ("trip_deviation", normalizer readDeviation writeDeviation)
  , ("observed_transition", normalizer readTransition writeTransition)
  , ("vehicle_monitor_results", normalizer readReport writeReport)
  , ("model", normalizer readModel writeModel)
  , ("inference_request", normalizer readRequest writeRequest)
  , ("inference_response", normalizer readResponse writeResponse)
  , ("trip_update", normalizer readUpdate writeUpdate)
  , ("pending_batch_summary", normalizer readBatchSummary writeBatchSummary)
  , ("subjects", normalizer readSubjects writeSubjects)
  , ("sweep_report", normalizer readSweep writeSweep)
  , ("engine_status", normalizer readStatus writeStatus)
  , ("health_response", normalizer readHealth writeHealth)
  , ("readiness_response", normalizer readReadiness writeReadiness) ]

/-- The way to put a record into standard form. -/
def normalizer? (name : String) : Option Normalizer :=
  (catalog.find? fun entry => entry.1 = name).map Prod.snd

end TransitForecast.Wire
