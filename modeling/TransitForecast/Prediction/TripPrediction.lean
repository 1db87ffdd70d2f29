import TransitForecast.Prediction.Segment
import TransitForecast.Table

/-!
# TransitForecast — predictions of a trip

The stop predictions of one trip for one observation, with the segments that still
wait for an inference. Answering an inference replaces the predictions of its segment.
-/

namespace TransitForecast

/-- A segment that waits for an inference. -/
structure Awaited where
  segment : Segment
  /-- Position of the segment's first stop prediction. -/
  offset : Nat

/-- The stop predictions of a trip for one observation. -/
structure TripPrediction where
  deviation : Deviation
  trip : Trip
  stops : List StopPrediction
  awaiting : Table InferenceKey Awaited

namespace TripPrediction

/-- A prediction without stops yet. -/
def start (d : Deviation) (trip : Trip) : TripPrediction := ⟨d, trip, [], .empty⟩

/-- Number of inferences still awaited. -/
def pending (p : TripPrediction) : Nat := p.awaiting.size

/-- Number of stop predictions that are not final. -/
def incomplete (p : TripPrediction) : Nat := p.stops.countP fun s => !s.complete

/-- Whether nothing is awaited. -/
def isComplete (p : TripPrediction) : Bool := p.pending == 0

/-- Keys of the inferences still awaited. -/
def awaitedKeys (p : TripPrediction) : List InferenceKey := p.awaiting.entries.map Prod.fst

/-- Appends a single stop prediction. -/
def push (p : TripPrediction) (s : StopPrediction) : TripPrediction :=
  { p with stops := p.stops ++ [s] }

/-- Appends the predictions of a segment that waits for no inference. -/
def append (p : TripPrediction) (predictions : List StopPrediction) : TripPrediction :=
  { p with stops := p.stops ++ predictions }

/-- Appends the predictions of a segment that needs an inference, and tells whether to ask for it.
When the trip awaits the same inference already, the predictions count as final. -/
def appendAwaiting (p : TripPrediction) (segment : Segment) (key : InferenceKey)
    (predictions : List StopPrediction) : TripPrediction × Bool :=
  if p.awaiting.contains key then
    (p.append (predictions.map fun s => { s with complete := true }), false)
  else
    ({ p.append predictions with
        awaiting := p.awaiting.insert key ⟨segment, p.stops.length⟩ }, true)

/-- Replaces the elements from an offset on by as many others. -/
def splice {α : Type} (xs : List α) (offset : Nat) (replacement : List α) : List α :=
  xs.take offset ++ replacement ++ xs.drop (offset + replacement.length)

/-- Answers an inference; `none` when it is not awaited. -/
def answer? (p : TripPrediction) (key : InferenceKey) (seconds : Float) : Option TripPrediction :=
  (p.awaiting.find? key).map fun awaited =>
    { p with
      stops := splice p.stops awaited.offset (awaited.segment.answered seconds)
      awaiting := p.awaiting.erase key }

end TripPrediction

end TransitForecast
