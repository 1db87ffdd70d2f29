import TransitForecast.Decimal.Layout
import TransitForecast.Inference.Batch

/-!
# TransitForecast — batches waiting for answers

The store keeps every batch that was built, numbered in order, and which of them are parked: waiting
for answers under their ids until they expire. Handling an answer takes five steps,
each atomic: find the batch by its id, answer one trip, count what the batch still
awaits, claim its publication, and remove it from the parked ones.
-/

namespace TransitForecast

/-- The number of a batch in the order in which batches were built. -/
abbrev BatchRef := Nat

/-- A batch that waits for answers. -/
structure Parked where
  batch : BatchRef
  expiresAt : Instant
  deriving DecidableEq

/-- What handling an answer leads to. -/
inductive Outcome
  /-- The batch still awaits other answers. -/
  | pending (remaining : Nat)
  /-- The batch is complete, and is to be published by whoever got this outcome. -/
  | complete (batch : BatchRef)
  deriving DecidableEq, Repr

/-- The batches that were built, and those of them that are parked. -/
structure BatchStore where
  /-- How long a batch stays parked. -/
  lifetime : Span
  batches : List Batch
  parked : Table BatchId Parked

namespace BatchStore

/-- Seconds for which a batch stays parked unless the settings say otherwise. -/
def defaultLifetimeSeconds : Int := 30

/-- Longest travel time of a segment that is accepted from an inference worker, in seconds. -/
def longestPrediction : Float := 86400

/-- A store without batches. -/
def empty (lifetime : Span) : BatchStore := ⟨lifetime, [], .empty⟩

/-- The batch of a number. -/
def get? (s : BatchStore) (ref : BatchRef) : Option Batch := s.batches[ref]?

/-- Adds a batch. -/
def add (s : BatchStore) (b : Batch) : BatchRef × BatchStore :=
  (s.batches.length, { s with batches := s.batches ++ [b] })

/-- Replaces the batch of a number. -/
def set (s : BatchStore) (ref : BatchRef) (b : Batch) : BatchStore :=
  { s with batches := s.batches.set ref b }

/-- Parks a batch under its id, in place of any other, and tells when it expires. -/
def park (s : BatchStore) (ref : BatchRef) (b : Batch) (now : Instant) :
    Except Halt (Instant × BatchStore) :=
  match now.shift? s.lifetime with
  | some expiresAt => .ok (expiresAt, { s with parked := s.parked.insert b.id ⟨ref, expiresAt⟩ })
  | none => .error .overflow

/-- The parked batch of an id; one past its time counts as unknown. -/
def find (s : BatchStore) (id : BatchId) (now : Instant) : Except PredictionError BatchRef :=
  match s.parked.find? id with
  | some parked => if now ≤ parked.expiresAt then .ok parked.batch else .error (.unknownBatch id.text)
  | none => .error (.unknownBatch id.text)

/-- Removes a batch from the parked ones and tells which it was. -/
def unpark (s : BatchStore) (id : BatchId) : Option BatchRef × BatchStore :=
  ((s.parked.find? id).map Parked.batch, { s with parked := s.parked.erase id })

/-- Answers one inference of a batch. -/
def answer (s : BatchStore) (ref : BatchRef) (c : CorrelationId) (seconds : Float) :
    Except PredictionError BatchStore :=
  match s.get? ref with
  | none => .error (.unknownBatch c.batch.text)
  | some b =>
    match b.answer c seconds with
    | .ok answered => .ok (s.set ref answered)
    | .error e => .error e

/-- What a batch still awaits. -/
def remaining (s : BatchStore) (ref : BatchRef) : Nat := (s.get? ref).elim 0 Batch.pending

/-- Claims the publication of a batch. -/
def claim (s : BatchStore) (ref : BatchRef) : Bool × BatchStore :=
  match s.get? ref with
  | none => (false, s)
  | some b => (b.claim.1, s.set ref b.claim.2)

/-- What an answer says: which inference it is about and the travel time. -/
def reading (r : InferenceResponse) : Except PredictionError (CorrelationId × Float) :=
  match CorrelationId.parse r.request with
  | .error e => .error e
  | .ok c =>
    match r.error, r.prediction with
    | some reason, _ => .error (.inferenceFailed r.request reason)
    | none, none =>
      .error (.inferenceFailed r.request "response carried neither prediction nor error")
    | none, some seconds =>
      if seconds.isFinite && decide (seconds.abs ≤ longestPrediction) then .ok (c, seconds)
      else .error (.inferenceFailed r.request
        ("prediction " ++ Decimal.Layout.plain.write seconds ++ " out of range"))

/-- Claims a batch that awaits nothing any more and removes it from the parked ones. -/
def finish (s : BatchStore) (ref : BatchRef) (id : BatchId) : Outcome × BatchStore :=
  let remaining := s.remaining ref
  if remaining = 0 then
    match s.claim ref with
    | (true, claimed) => (.complete ref, (claimed.unpark id).2)
    | (false, claimed) => (.pending remaining, claimed)
  else (.pending remaining, s)

/-- Handles an answer. -/
def apply (s : BatchStore) (r : InferenceResponse) (now : Instant) :
    Except PredictionError Outcome × BatchStore :=
  match reading r with
  | .error e => (.error e, s)
  | .ok (c, seconds) =>
    match s.find c.batch now with
    | .error e => (.error e, s)
    | .ok ref =>
      match s.answer ref c seconds with
      | .error e => (.error e, s)
      | .ok answered =>
        let (outcome, finished) := answered.finish ref c.batch
        (.ok outcome, finished)

/-- Drops the parked batches that have expired. -/
def sweep (s : BatchStore) (now : Instant) : BatchStore :=
  { s with parked := s.parked.filter fun _ p => now ≤ p.expiresAt }

/-- Number of parked batches. -/
def parkedCount (s : BatchStore) : Nat := s.parked.size

/-- Views of the parked batches, ordered by id. -/
def summaries (s : BatchStore) : List BatchSummary :=
  let views := s.parked.values.filterMap fun p =>
    (s.get? p.batch).map fun b => b.summary (some p.expiresAt)
  views.mergeSort fun a b => a.batch ≤ b.batch

end BatchStore

end TransitForecast
