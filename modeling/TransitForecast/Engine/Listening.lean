import TransitForecast.Engine.Run
import TransitForecast.Json.Parser
import TransitForecast.Wire.Observation

/-!
# TransitForecast — listening

Three listeners feed an engine: one records the transitions of vehicle reports, one
shares the reports with the engines of its queue group and predicts them, and one handles the
answers of inference workers. What cannot be read, or leads nowhere, is dropped and counted.

A report is predicted by a worker of its own. One that never finishes is lost with what is left of
its report, and disturbs nothing else.
-/

namespace TransitForecast

/-- The text of a message as a record. -/
def decode? {α : Type} (read : Json.Reader α) (text : String) : Option α :=
  (Json.parse? text).bind read

namespace Engine

/-- Records the transitions of a vehicle report. -/
def onTransitions (e : Engine) (m : Message) : Engine :=
  match decode? Wire.readReport m.payload with
  | some r => e.record r.transitions
  | none => e.drop .undecodable

/-- Predicts the vehicles of a report. -/
def onReport (e : Engine) (m : Message) : Engine :=
  match decode? Wire.readReport m.payload with
  | some r => (e.handleReport r e.wall).2
  | none => e.drop .undecodable

/-- Handles an answer. -/
def onResponse (e : Engine) (m : Message) : Engine :=
  match decode? Wire.readResponse m.payload with
  | some r =>
    match e.handleResponse r e.wall with
    | (.ok _, e) => e
    | (.error error, e) => e.drop error
  | none => e.drop .undecodable

/-- A sweep in the background, which took some nanoseconds. One that took more than a threshold
shows in the state of the sweeper. -/
def sweepInBackground (e : Engine) (elapsed threshold : Nat) : Engine :=
  let e := (e.sweep e.wall).2
  if threshold < elapsed then
    let message := "sweep took " ++ toString (elapsed / 1000000) ++ "ms"
    { e with health := e.health.setDegraded e.wall HealthBoard.sweeper message }
  else { e with health := e.health.setHealthy e.wall HealthBoard.sweeper }

end Engine

-- ---------------------------------------------------------------------------
-- Subscriptions
-- ---------------------------------------------------------------------------

/-- The subscriptions of the three listeners. -/
structure Inbox where
  transitions : SubscriptionId
  reports : SubscriptionId
  responses : SubscriptionId
  deriving DecidableEq, Repr

namespace Inbox

/-- Subscribes the three listeners; all or none. -/
def subscribe (bus : Bus) (subjects : Subjects) (capacity : Nat) : Except BusError (Inbox × Bus) := do
  let (transitions, bus) ← bus.subscribe subjects.vehicleReports none capacity
  let (reports, bus) ← bus.subscribe subjects.vehicleReports (some subjects.queueGroup) capacity
  let (responses, bus) ← bus.subscribe subjects.responses none capacity
  return (⟨transitions, reports, responses⟩, bus)

/-- Ends the subscriptions. -/
def unsubscribe (i : Inbox) (bus : Bus) : Bus :=
  ((bus.drop i.transitions).drop i.reports).drop i.responses

end Inbox

/-- What the listeners of an inbox have taken from a bus. -/
structure Inbound where
  transitions : List Message
  reports : List Message
  responses : List Message

namespace Inbox

/-- Takes every buffered message. -/
def take (i : Inbox) (bus : Bus) : Inbound × Bus :=
  let (transitions, bus) := bus.drain i.transitions
  let (reports, bus) := bus.drain i.reports
  let (responses, bus) := bus.drain i.responses
  (⟨transitions, reports, responses⟩, bus)

end Inbox

/-- Handles what was taken: first transitions, then answers, then each report by its worker. -/
def Engine.serve (e : Engine) (i : Inbound) : Engine :=
  i.reports.foldl Engine.onReport
    (i.responses.foldl Engine.onResponse (i.transitions.foldl Engine.onTransitions e))

-- ---------------------------------------------------------------------------
-- A running aggregator
-- ---------------------------------------------------------------------------

/-- Listeners at work. -/
structure Listeners where
  inbox : Inbox
  /-- The bus that they listen on, unless it is that of the engine. -/
  ownBus : Option Bus

/-- An engine with the listeners that feed it. -/
structure Aggregator where
  engine : Engine
  listeners : List Listeners

namespace Aggregator

/-- Changes the engine. -/
def updateEngine (a : Aggregator) (change : Engine → Engine) : Aggregator :=
  { a with engine := change a.engine }

/-- Starts listeners on the bus of the engine, or on a bus of their own. -/
def listen (a : Aggregator) (capacity : Nat) (ownBus : Bool) : Except BusError Aggregator := do
  let subjects := a.engine.settings.subjects
  if ownBus then
    let (inbox, bus) ← Inbox.subscribe .empty subjects capacity
    return { a with listeners := a.listeners ++ [⟨inbox, some bus⟩] }
  else
    let (inbox, bus) ← Inbox.subscribe a.engine.bus subjects capacity
    return ⟨{ a.engine with bus := bus }, a.listeners ++ [⟨inbox, none⟩]⟩

/-- Lets some listeners handle what has come in for them. -/
def turnOf (e : Engine) (l : Listeners) : Engine × Listeners :=
  match l.ownBus with
  | some bus =>
    let (inbound, bus) := l.inbox.take bus
    (e.serve inbound, { l with ownBus := some bus })
  | none =>
    let (inbound, bus) := l.inbox.take e.bus
    ({ e with bus := bus }.serve inbound, l)

/-- Lets each of some listeners in order handle what has come in for it. -/
def turns (e : Engine) : List Listeners → Engine × List Listeners
  | [] => (e, [])
  | l :: rest =>
    let (e, l) := turnOf e l
    let (e, rest) := turns e rest
    (e, l :: rest)

/-- Lets the listeners handle what has come in. -/
def turn (a : Aggregator) : Aggregator :=
  let (e, listeners) := turns a.engine a.listeners
  ⟨e, listeners⟩

/-- Rounds after which nothing is left to handle: what the messages of a sender lead to, and what
that leads to in turn, which is neither a report with deviations nor an answer that completes a
batch. -/
def settlingTurns : Nat := 3

/-- Lets the listeners work until nothing is left. -/
def settle (a : Aggregator) : Aggregator := settlingTurns.repeat turn a

/-- Publishes a message on the bus of the engine. -/
def send (a : Aggregator) (subject text : String) : Option BusError × Aggregator :=
  let (error, e) := a.engine.send subject (.raw text)
  (error, { a with engine := e })

/-- Closes a bus of the listeners' own after some last messages; they notice and stop. -/
def closeOwnBus (messages : List (String × String)) (e : Engine) (l : Listeners) : Engine :=
  match l.ownBus with
  | none => e
  | some bus =>
    let publish := fun (bus : Bus) (m : String × String) => (bus.publish m.1 m.2).toOption.getD bus
    let (inbound, _) := l.inbox.take (messages.foldl publish bus)
    let e := e.serve inbound
    let closed := "subscription closed"
    let listening :=
      [HealthBoard.transitionListener, HealthBoard.deviationListener, HealthBoard.inferenceListener]
    { e with health := listening.foldl (fun h part => h.setUnhealthy e.wall part closed) e.health }

/-- Closes the buses of the listeners' own. -/
def dropOwnBuses (a : Aggregator) (messages : List (String × String)) : Aggregator :=
  ⟨a.listeners.foldl (closeOwnBus messages) a.engine,
    a.listeners.filter fun l => l.ownBus.isNone⟩

/-- Stops all listeners. -/
def stop (a : Aggregator) : Aggregator :=
  let unsubscribe := fun (bus : Bus) (l : Listeners) =>
    match l.ownBus with
    | some _ => bus
    | none => l.inbox.unsubscribe bus
  ⟨{ a.engine with bus := a.listeners.foldl unsubscribe a.engine.bus }, []⟩

end Aggregator

end TransitForecast
