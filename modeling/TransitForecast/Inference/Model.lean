import TransitForecast.Table
import TransitForecast.Schedule.Trip

/-!
# TransitForecast — travel-time models

A model predicts the travel time over a run of stops. It is trained elsewhere and
is known here by name, the stops of its run joined by underscores, with the
figures that decide whether it is trusted.
-/

namespace TransitForecast

/-- A travel-time model. -/
structure TravelModel where
  id : Int
  version : Int
  name : String
  trained : Bool
  /-- Validated error of the historical average. -/
  averageError : Float
  /-- Validated error of the model. -/
  modelError : Float
  averageTime : Float
  medianTime : Float
  /-- Observations that the averages rest on. -/
  observations : Nat
  deriving DecidableEq

namespace TravelModel

/-- The name of the model of an ordered run of stops. -/
def nameFor (stopIds : List String) : String := String.intercalate "_" stopIds

end TravelModel

/-- The current models, by name. -/
abbrev ModelRegistry := Table String TravelModel

namespace ModelRegistry

/-- The registry of a list of models; of those with one name the last counts. -/
def ofModels (models : List TravelModel) : ModelRegistry :=
  Table.ofList (models.map fun m => (m.name, m))

/-- The model of a run of stops. -/
def forRun (models : ModelRegistry) (run : List Stop) : Option TravelModel :=
  models.find? (TravelModel.nameFor (run.map Stop.id))

end ModelRegistry

end TransitForecast
