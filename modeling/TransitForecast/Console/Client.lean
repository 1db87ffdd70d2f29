import TransitForecast.Api.Message
import TransitForecast.Api.Reason
import TransitForecast.Console.Address
import TransitForecast.Engine.Listening

/-!
# TransitForecast — asking an aggregator

One exchange with the HTTP interface of an aggregator, over any way to send a request.
-/

namespace TransitForecast.Console

/-- What comes back for a request. -/
structure Reply where
  status : Nat
  body : String
  deriving DecidableEq, Repr

/-- A way to send a request to an address; nothing comes back when there is no connection. -/
abbrev Transport (m : Type → Type) := Address → Api.Request → m (Option Reply)

/-- Why an exchange failed. -/
inductive ExchangeError
  | noPath
  | unsent
  | refused (reply : Reply)
  | unreadable
  deriving DecidableEq, Repr

namespace ExchangeError

/-- The text of a failure. -/
def message : ExchangeError → String
  | noPath => "Invalid path"
  | unsent => "Failed to send request"
  | refused reply => "API error (" ++ Api.statusText reply.status ++ "): " ++ reply.body
  | unreadable => "Failed to parse response"

end ExchangeError

/-- Schemes over which requests can be sent. -/
def sendableSchemes : List String := ["http", "https"]

/-- What a reply says. -/
def readReply {α : Type} (read : Json.Reader α) : Option Reply → Except ExchangeError α
  | none => .error .unsent
  | some reply =>
    if Api.isSuccess reply.status then (decode? read reply.body).elim (.error .unreadable) .ok
    else .error (.refused reply)

/-- Sends a request for a path below an address, and reads what comes back. -/
def exchange {m : Type → Type} [Monad m] {α : Type} (send : Transport m) (address : Address)
    (method path body : String) (read : Json.Reader α) : m (Except ExchangeError α) :=
  match address.resolve? path with
  | none => pure (.error .noPath)
  | some target =>
    if sendableSchemes.contains target.scheme then do
      return readReply read (← send target ⟨method, target.path, body⟩)
    else pure (.error .unsent)

end TransitForecast.Console
